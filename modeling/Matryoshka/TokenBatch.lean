import Matryoshka.Grid

/-!
# Token batches

A forward pass takes its token sequences as one rectangle. `ofSequences` pads
them on the right to the longest one and marks with a mask which positions are
real. The three fields repeat each other on purpose: ids and mask go to the
model, the lengths to pooling.

The rectangle is made blank and written row by row. While it is, the rows behind
are those of the sequences that were written and the others are still blank
(`partlyWritten`), which is why in the end every row is its padded sequence
(`ofSequences_eq`).
-/

namespace Matryoshka

/-- Number of a token in the vocabulary of a model. -/
abbrev TokenId := UInt32

/-- Token sequences padded on the right to one length. -/
structure TokenBatch where
  /-- The ids of every row, padding included. -/
  ids : List (List TokenId)
  /-- For every id whether it is a real token. -/
  mask : List (List Bool)
  /-- Number of real tokens of every row. -/
  lengths : List Nat
  /-- Number of positions of every row. -/
  positions : Nat
  deriving Repr, DecidableEq

namespace TokenBatch

/-- Length of the longest sequence, zero if there is none. -/
def longest (sequences : List (List TokenId)) : Nat :=
  sequences.foldr (fun sequence most => max sequence.length most) 0

/-- `values` followed by as many copies of `fill` as are missing to `size`. -/
def padRight {β : Type} (size : Nat) (fill : β) (values : List β) : List β :=
  values ++ List.replicate (size - values.length) fill

/-- A batch without tokens, of the size that is asked for. -/
def blank (rows positions : Nat) (padId : TokenId) : TokenBatch where
  ids := Grid.blank rows positions padId
  mask := Grid.blank rows positions false
  lengths := []
  positions := positions

/-- Write some ids into a row, from a position on, and mark them as real. -/
def writeIds (batch : TokenBatch) (row position : Nat) : List TokenId → TokenBatch
  | [] => batch
  | id :: ids =>
    writeIds
      { batch with
        ids := Grid.set batch.ids row position id
        mask := Grid.set batch.mask row position true }
      row (position + 1) ids

/-- Write a sequence into a row, and its length behind the other lengths. -/
def writeRow (batch : TokenBatch) (row : Nat) (sequence : List TokenId) : TokenBatch :=
  let batch := batch.writeIds row 0 sequence
  { batch with lengths := batch.lengths ++ [sequence.length] }

/-- Write some sequences, one to a row, from a row on. -/
def writeRows (batch : TokenBatch) (row : Nat) : List (List TokenId) → TokenBatch
  | [] => batch
  | sequence :: sequences => writeRows (batch.writeRow row sequence) (row + 1) sequences

/-- The batch of `sequences`, padded with `padId` to the longest of them. -/
def ofSequences (sequences : List (List TokenId)) (padId : TokenId) : TokenBatch :=
  (blank sequences.length (longest sequences) padId).writeRows 0 sequences

/-- Number of rows. -/
def rows (batch : TokenBatch) : Nat := batch.lengths.length

/-- Padding brings a sequence that fits to the size asked for. -/
theorem length_padRight {β : Type} (size : Nat) (fill : β) (values : List β)
    (fits : values.length ≤ size) : (padRight size fill values).length = size := by
  simp [padRight]
  omega

/-- The values of a padded list come first in it. -/
theorem take_padRight {β : Type} (size : Nat) (fill : β) (values : List β) :
    (padRight size fill values).take values.length = values := by
  simp [padRight]

/-- No sequence is longer than the longest. -/
theorem length_le_longest (sequences : List (List TokenId)) :
    ∀ sequence ∈ sequences, sequence.length ≤ longest sequences := by
  induction sequences with
  | nil => simp
  | cons first rest ih =>
    intro sequence member
    simp only [longest, List.foldr_cons]
    rcases List.mem_cons.1 member with rfl | inRest
    · exact Nat.le_max_left _ _
    · exact Nat.le_trans (ih sequence inRest) (Nat.le_max_right _ _)

/-! ## What the loops write -/

/-- The mask of a sequence, padded. -/
def maskRow (positions : Nat) (sequence : List TokenId) : List Bool :=
  padRight positions false (sequence.map fun _ => true)

/-- A batch into whose first rows some sequences were written, and with more rows that are blank. -/
def partlyWritten (positions : Nat) (padId : TokenId) (sequences : List (List TokenId))
    (more : Nat) : TokenBatch where
  ids := sequences.map (padRight positions padId) ++ Grid.blank more positions padId
  mask := sequences.map (maskRow positions) ++ Grid.blank more positions false
  lengths := sequences.map List.length
  positions := positions

/-- Ids and marks are written to the same places. -/
theorem writeIds_eq (batch : TokenBatch) (row position : Nat) (ids : List TokenId) :
    batch.writeIds row position ids =
      { batch with
        ids := Grid.write batch.ids row position ids
        mask := Grid.write batch.mask row position (ids.map fun _ => true) } := by
  induction ids generalizing batch position with
  | nil => rfl
  | cons id ids ih =>
    rw [writeIds, ih]
    rfl

/-- A row that is still blank becomes the padded values that are written to it. -/
theorem write_blank {β : Type} {done : List (List β)} {row positions more : Nat} {fill : β}
    {values : List β} (behind : done.length = row) (fits : values.length ≤ positions) :
    Grid.write (done ++ Grid.blank (more + 1) positions fill) row 0 values =
      (done ++ [padRight positions fill values]) ++ Grid.blank more positions fill := by
  have whole : (padRight positions fill values).take positions = padRight positions fill values :=
    List.take_of_length_le (Nat.le_of_eq (length_padRight positions fill values fits))
  rw [padRight] at whole ⊢
  rw [Grid.blank, List.replicate_succ, ← behind, Grid.write_append_cons, Grid.overwrite_replicate,
    whole, List.append_assoc]
  rfl

/-- One step of the loop: the next sequence goes into the first row that is blank. -/
theorem writeRow_partlyWritten {positions : Nat} {padId : TokenId} {written : List (List TokenId)}
    {row more : Nat} {sequence : List TokenId} (behind : written.length = row)
    (fits : sequence.length ≤ positions) :
    (partlyWritten positions padId written (more + 1)).writeRow row sequence =
      partlyWritten positions padId (written ++ [sequence]) more := by
  have marks : (sequence.map fun _ => true).length ≤ positions := by simpa using fits
  simp only [writeRow, writeIds_eq, partlyWritten, List.map_append, List.map_cons, List.map_nil,
    maskRow]
  rw [write_blank ((List.length_map _).trans behind) fits,
    write_blank ((List.length_map _).trans behind) marks]

/-- The whole loop: there is a blank row for every sequence, and in the end there is none left. -/
theorem writeRows_partlyWritten {positions : Nat} (padId : TokenId)
    (written : List (List TokenId)) {sequences : List (List TokenId)} {row : Nat}
    (behind : written.length = row)
    (fits : ∀ sequence ∈ sequences, sequence.length ≤ positions) :
    (partlyWritten positions padId written sequences.length).writeRows row sequences =
      partlyWritten positions padId (written ++ sequences) 0 := by
  induction sequences generalizing written row with
  | nil => simp [writeRows]
  | cons sequence sequences ih =>
    rw [writeRows, List.length_cons, writeRow_partlyWritten behind (fits sequence (by simp)),
      ih _ (by simp [behind]) fun other member => fits other (List.mem_cons_of_mem _ member)]
    simp

/-- Every row of a batch is its padded sequence. -/
theorem ofSequences_eq (sequences : List (List TokenId)) (padId : TokenId) :
    ofSequences sequences padId =
      { ids := sequences.map (padRight (longest sequences) padId)
        mask := sequences.map (maskRow (longest sequences))
        lengths := sequences.map List.length
        positions := longest sequences } := by
  have written := writeRows_partlyWritten padId [] rfl (length_le_longest sequences)
  rw [partlyWritten, partlyWritten] at written
  simpa [ofSequences, blank, Grid.blank] using written

/-- The lengths of a batch are those of its sequences. -/
@[simp] theorem lengths_ofSequences (sequences : List (List TokenId)) (padId : TokenId) :
    (ofSequences sequences padId).lengths = sequences.map List.length := by
  rw [ofSequences_eq]

/-- A batch has as many positions as its longest sequence has ids. -/
@[simp] theorem positions_ofSequences (sequences : List (List TokenId)) (padId : TokenId) :
    (ofSequences sequences padId).positions = longest sequences := by
  rw [ofSequences_eq]

end TokenBatch

end Matryoshka
