import Matryoshka.Proofs.Mock.Rows

/-!
# The forward pass of the mock model is causal

The states of a row are running means, so the state at a position is settled by the sum over the
tokens up to it (`getElem?_statesFrom`). The sum starts from zero in every row. Neither what comes
later in the row nor what stands in other rows enters it, and a row that ends there has the same
last state (`run_causal`).
-/

namespace Matryoshka

/-- The state at a position of a row. -/
def Tensor.state? {α : Type} (tensor : Tensor α) (row position : Nat) : Option (List α) :=
  tensor.cells[row]?.bind (·[position]?)

namespace Mock

variable {sequences : List (List TokenId)} {row position : Nat} {ids : List TokenId}

/-! ## Running sums -/

/-- The vectors of some tokens added to `total`, one after the other. -/
def sumFrom (width : Nat) (total : List Float32) (ids : List TokenId) : List Float32 :=
  ids.foldl (fun sum id => List.zipWith (· + ·) sum (tokenVector width id)) total

/-- The mean of the vectors of some tokens. -/
def meanState (width : Nat) (ids : List TokenId) : List Float32 :=
  (sumFrom width (List.replicate width 0) ids).map (· / Float32.ofNat ids.length)

/-- The state at a position is the sum up to it, divided by the number of tokens so far. -/
theorem getElem?_statesFrom (width : Nat) (total : List Float32) (seen : Nat)
    (inside : position < ids.length) :
    (statesFrom width total seen ids)[position]? =
      some ((sumFrom width total (ids.take (position + 1))).map
        (· / Float32.ofNat (seen + (position + 1)))) := by
  induction ids generalizing total seen position with
  | nil => simp at inside
  | cons id ids ih =>
    cases position with
    | zero => rfl
    | succ position =>
      have later := ih (List.zipWith (· + ·) total (tokenVector width id)) (seen + 1)
        (Nat.lt_of_succ_lt_succ inside)
      rw [show seen + 1 + (position + 1) = seen + (position + 1 + 1) by omega] at later
      exact later

/-- The state at a position of a row is the mean over the row up to there. -/
theorem getElem?_rowStates (width : Nat) (inside : position < ids.length) :
    (rowStates width ids)[position]? = some (meanState width (ids.take (position + 1))) := by
  rw [rowStates, getElem?_statesFrom width _ 0 inside, meanState,
    List.length_take_of_le inside, Nat.zero_add]

/-! ## Rows of a batch -/

/-- What stands at a position of a filled row. -/
theorem getElem?_fillRow (width positions : Nat) (states : List (List Float32))
    (inside : position < positions) :
    (fillRow width positions states)[position]? =
      some ((states[position]?).getD (List.replicate width padState)) := by
  rw [fillRow, List.getElem?_take_of_lt inside, TokenBatch.padRight]
  by_cases real : position < states.length
  · rw [List.getElem?_append_left real, List.getElem?_eq_getElem real, Option.getD_some]
  · have beyond : states.length ≤ position := Nat.le_of_not_lt real
    rw [List.getElem?_append_right beyond, List.getElem?_eq_none beyond, Option.getD_none,
      List.getElem?_replicate_of_lt (by omega)]

/-- What the forward pass leaves at a position of a row, real or not. -/
theorem state?_forward (width : Nat) (padId : TokenId) (own : sequences[row]? = some ids)
    (inside : position < TokenBatch.longest sequences) :
    (forward width (.ofSequences sequences padId)).state? row position =
      some (((rowStates width ids)[position]?).getD (List.replicate width padState)) := by
  have cut : (TokenBatch.padRight (TokenBatch.longest sequences) padId ids).take ids.length = ids :=
    TokenBatch.take_padRight _ _ _
  simp only [Tensor.state?, forward, states_eq, TokenBatch.ofSequences_eq, List.getElem?_zipWith,
    List.getElem?_map, own, Option.map_some, Option.bind_some, batchRow, cut]
  exact getElem?_fillRow width _ _ inside

/-- At a real token stands the mean over the row up to there. -/
theorem state?_forward_real (width : Nat) (padId : TokenId) (own : sequences[row]? = some ids)
    (inside : position < ids.length) :
    (forward width (.ofSequences sequences padId)).state? row position =
      some (meanState width (ids.take (position + 1))) := by
  have fits := TokenBatch.length_le_longest sequences ids (List.mem_of_getElem? own)
  rw [state?_forward width padId own (Nat.lt_of_lt_of_le inside fits),
    getElem?_rowStates width inside, Option.getD_some]

/-- Behind the tokens of a row stands padding. -/
theorem state?_forward_padding (width : Nat) (padId : TokenId) (own : sequences[row]? = some ids)
    (behind : ids.length ≤ position) (inside : position < TokenBatch.longest sequences) :
    (forward width (.ofSequences sequences padId)).state? row position =
      some (List.replicate width padState) := by
  have none : (rowStates width ids)[position]? = none :=
    List.getElem?_eq_none (Nat.le_trans (Nat.le_of_eq (length_statesFrom _ _ _ _)) behind)
  rw [state?_forward width padId own inside, none, Option.getD_none]

/-! ## Causality -/

/-- The forward pass is causal and looks at one row at a time. A pass without built-in failures is
counted and gives states for all rows and positions. The state at a token is the last state of the
batch whose only row is that row up to the token; behind the tokens of a row every component is the
one of padding. -/
theorem run_causal (runtime : Runtime) (sound : runtime.faults.failForward = false)
    (steady : runtime.faults.abortForward = false) (sequences : List (List TokenId))
    (padId : TokenId) :
    let batch := TokenBatch.ofSequences sequences padId
    let states := forward runtime.width batch
    runtime.run batch = ({ runtime with passes := runtime.passes + 1 }, .done states) ∧
      states.shape = [batch.rows, batch.positions, runtime.width] ∧
      ∀ row ids, sequences[row]? = some ids →
        (∀ position < ids.length, ∀ otherId,
          let solitary := forward runtime.width (.ofSequences [ids.take (position + 1)] otherId)
          solitary.shape = [1, position + 1, runtime.width] ∧
            ∃ state, states.state? row position = some state ∧
              solitary.state? 0 position = some state) ∧
        ∀ position, ids.length ≤ position → position < batch.positions →
          states.state? row position = some (List.replicate runtime.width padState) := by
  refine ⟨?_, ?_, fun row ids own => ⟨fun position inside otherId => ?_, fun position => ?_⟩⟩
  · simp [Runtime.run, faultyForward, sound, steady]
  · simp [Tensor.shape, forward, TokenBatch.ofSequences_eq, TokenBatch.rows]
  · have long : (ids.take (position + 1)).length = position + 1 :=
      List.length_take_of_le inside
    have whole : (ids.take (position + 1)).take (position + 1) = ids.take (position + 1) := by
      rw [List.take_take, Nat.min_self]
    have short : position < (ids.take (position + 1)).length := by omega
    have first : [ids.take (position + 1)][0]? = some (ids.take (position + 1)) := rfl
    have last := state?_forward_real runtime.width otherId first short
    rw [whole] at last
    refine ⟨?_, _, state?_forward_real runtime.width padId own inside, last⟩
    simp [Tensor.shape, forward, TokenBatch.ofSequences_eq, TokenBatch.longest, long,
      -List.length_take]
  · rw [TokenBatch.positions_ofSequences]
    exact state?_forward_padding runtime.width padId own

/-- The second row of a batch begins afresh: its first state is that of its first token alone, and
behind its only token there is padding. -/
theorem second_row_causal :
    let runtime : Runtime := { width := 2, passes := 6 }
    let batch := TokenBatch.ofSequences [[5, 9, 5], [9]] 0
    let states := forward 2 batch
    runtime.run batch = ({ runtime with passes := 7 }, .done states) ∧
      states.state? 1 0 = (forward 2 (.ofSequences [[9]] 0)).state? 0 0 ∧
      states.state? 0 0 ≠ states.state? 1 0 ∧ states.state? 1 2 = some [1000, 1000] := by
  obtain ⟨run, -, rows⟩ := run_causal { width := 2, passes := 6 } rfl rfl [[5, 9, 5], [9]] 0
  obtain ⟨real, behind⟩ := rows 1 [9] rfl
  obtain ⟨-, state, here, alone⟩ := real 0 (by decide) 0
  exact ⟨run, here.trans alone.symm, by decide +kernel, behind 2 (by decide) (by decide)⟩

end Mock

end Matryoshka
