import Matryoshka.Proofs.Engine.Conduct

/-!
# A padded batch holds its sequences and nothing else

Padding adds no information and loses none. Every row is its sequence with copies of the pad id
behind it, so the sequence is what the length, or the mask, cuts out of the row (`Holds`). That the
pad id may be the id of a real token does not matter, since neither of the two looks at ids. Two
different lists of sequences are therefore never padded to the same batch (`padding_faithful`).
-/

namespace Matryoshka.TokenBatch

variable {β : Type} {size : Nat} {fill : β} {sequences : List (List TokenId)} {padId : TokenId}
  {batch : TokenBatch}

/-- The values at the marked places. -/
def marked : List Bool → List β → List β
  | true :: marks, value :: values => value :: marked marks values
  | false :: marks, _ :: values => marked marks values
  | _, _ => []

/-! ## Single rows -/

/-- Nothing is marked by copies of no mark. -/
theorem marked_unmarked (count : Nat) (values : List β) :
    marked (List.replicate count false) values = [] := by
  induction count generalizing values with
  | zero => rfl
  | succ count ih =>
    cases values with
    | nil => rfl
    | cons value values => exact ih values

/-- The mask of a sequence marks its own values in its row, whatever fills up the row. -/
theorem marked_padRight (values : List β) :
    marked (padRight size false (values.map fun _ => true)) (padRight size fill values) =
      values := by
  simp only [padRight, List.length_map]
  generalize size - values.length = missing
  induction values with
  | nil => exact marked_unmarked missing _
  | cons value values ih => exact congrArg (value :: ·) ih

/-! ## Batches -/

/-- How a batch holds some sequences, and how they are found in it again. -/
structure Holds (sequences : List (List TokenId)) (padId : TokenId) (batch : TokenBatch) :
    Prop where
  /-- There is a row for every sequence. -/
  rows : batch.rows = sequences.length
  /-- There are as many positions as the longest sequence has ids, and none without sequences. -/
  positions : batch.positions = ((sequences.map List.length).max?).getD 0
  /-- The lengths are those of the sequences. -/
  lengths : batch.lengths = sequences.map List.length
  /-- No sequence is longer than there are positions. -/
  inside : ∀ length ∈ batch.lengths, length ≤ batch.positions
  /-- A row of ids is its sequence, and copies of the pad id behind it. -/
  ids : batch.ids = sequences.map fun sequence =>
    sequence ++ List.replicate (batch.positions - sequence.length) padId
  /-- A row of the mask has as many marks as its sequence has ids, and none behind them. -/
  mask : batch.mask = sequences.map fun sequence =>
    List.replicate sequence.length true ++
      List.replicate (batch.positions - sequence.length) false
  /-- Every row of ids goes through all positions. -/
  idsWide : ∀ row ∈ batch.ids, row.length = batch.positions
  /-- Every row of the mask goes through all positions. -/
  maskWide : ∀ row ∈ batch.mask, row.length = batch.positions
  /-- The sequences are what the lengths cut out of the rows. -/
  byLength : List.zipWith List.take batch.lengths batch.ids = sequences
  /-- The sequences are what the mask marks in the rows. -/
  byMask : List.zipWith marked batch.mask batch.ids = sequences

/-- The longest length is the largest one. -/
theorem longest_eq (sequences : List (List TokenId)) :
    longest sequences = ((sequences.map List.length).max?).getD 0 := by
  cases largest : (sequences.map List.length).max? with
  | none =>
    have nothing := List.max?_eq_none_iff.1 largest
    rw [List.map_eq_nil_iff.1 nothing]
    rfl
  | some most =>
    obtain ⟨member, bound⟩ := List.max?_eq_some_iff.1 largest
    obtain ⟨sequence, own, rfl⟩ := List.mem_map.1 member
    have least : sequence.length ≤ longest sequences := length_le_longest sequences sequence own
    have most : longest sequences ≤ sequence.length := by
      rcases exists_length_eq_longest sequences with none | ⟨longer, other, same⟩
      · omega
      · rw [← same]
        exact bound _ (List.mem_map_of_mem other)
    exact Nat.le_antisymm most least

/-- The batch of some sequences holds them. -/
theorem holds_ofSequences (sequences : List (List TokenId)) (padId : TokenId) :
    Holds sequences padId (ofSequences sequences padId) := by
  have room := length_le_longest sequences
  rw [ofSequences_eq]
  constructor
  case rows => exact List.length_map _
  case positions => exact longest_eq sequences
  case lengths => rfl
  case inside =>
    intro length member
    obtain ⟨sequence, own, rfl⟩ := List.mem_map.1 member
    exact room sequence own
  case ids => rfl
  case mask =>
    apply List.map_congr_left
    intro sequence _
    rw [maskRow, padRight, List.length_map, List.map_const']
  case idsWide =>
    intro row member
    obtain ⟨sequence, own, rfl⟩ := List.mem_map.1 member
    exact length_padRight _ _ _ (room sequence own)
  case maskWide =>
    intro row member
    obtain ⟨sequence, own, rfl⟩ := List.mem_map.1 member
    apply length_padRight
    rw [List.length_map]
    exact room sequence own
  case byLength =>
    simp only [List.zipWith_map, List.zipWith_self, take_padRight, List.map_id']
  case byMask =>
    simp only [List.zipWith_map, List.zipWith_self, maskRow, marked_padRight, List.map_id']

/-- A batch holds one list of sequences only, whatever it is filled up with. -/
theorem Holds.unique {others : List (List TokenId)} {otherId : TokenId}
    (holds : Holds sequences padId batch) (again : Holds others otherId batch) :
    others = sequences :=
  again.byLength.symm.trans holds.byLength

/-- Padding is faithful. A batch holds its sequences; its mask is the same for every pad id; and no
other sequences are padded to it, with this pad id or another. -/
theorem padding_faithful (sequences : List (List TokenId)) (padId : TokenId) :
    Holds sequences padId (ofSequences sequences padId) ∧
      (∀ otherId, (ofSequences sequences otherId).mask = (ofSequences sequences padId).mask) ∧
      ∀ others otherId, ofSequences others otherId = ofSequences sequences padId →
        others = sequences := by
  refine ⟨holds_ofSequences sequences padId, fun otherId => ?_, fun others otherId same => ?_⟩
  · rw [ofSequences_eq, ofSequences_eq]
  · have again := holds_ofSequences others otherId
    rw [same] at again
    exact (holds_ofSequences sequences padId).unique again

/-- A sequence that ends in the pad id, an empty one and a shorter one are found again, although two
rows of ids are the same. -/
theorem collision_faithful :
    let batch := ofSequences [[7, 0], [], [7]] 0
    batch.ids = [[7, 0], [0, 0], [7, 0]] ∧
      batch.mask = [[true, true], [false, false], [true, false]] ∧ batch.lengths = [2, 0, 1] ∧
      List.zipWith marked batch.mask batch.ids = [[7, 0], [], [7]] ∧
      ∀ others otherId, ofSequences others otherId = batch → others = [[7, 0], [], [7]] := by
  obtain ⟨holds, -, only⟩ := padding_faithful [[7, 0], [], [7]] 0
  exact ⟨rfl, rfl, rfl, holds.byMask, only⟩

end Matryoshka.TokenBatch
