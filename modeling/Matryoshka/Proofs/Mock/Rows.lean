import Matryoshka.Mock
import Matryoshka.Proofs.Engine.Rows

/-!
# Rows of the mock model

The states that the mock model gives to the tokens of a row are the running means of
these tokens. Padding comes after them and other rows are never looked at, so the mock
model is row-local (`rowLocal_engine`) and computes every text as if it were alone
(`compute_engine`).
-/

namespace Matryoshka.Mock

/-- There is one state for every token. -/
theorem length_statesFrom (width : Nat) (total : List Float32) (seen : Nat)
    (ids : List TokenId) : (statesFrom width total seen ids).length = ids.length := by
  induction ids generalizing total seen with
  | nil => rfl
  | cons id ids ih => simp [statesFrom, ih]

/-- The states of the tokens come first in a filled row. -/
theorem take_fillRow (width positions : Nat) (states : List (List Float32))
    (inside : states.length ≤ positions) :
    (fillRow width positions states).take states.length = states := by
  rw [fillRow, List.take_take, Nat.min_eq_left inside]
  simp [TokenBatch.padRight]

/-- A row of a batch begins with the states of its tokens. -/
theorem take_batchRow (width positions : Nat) (ids : List TokenId)
    (inside : ids.length ≤ positions) :
    (batchRow width positions (TokenBatch.padRight positions padId ids) ids.length).take
        ids.length = rowStates width ids := by
  have long : (rowStates width ids).length = ids.length := length_statesFrom _ _ _ _
  have filled := take_fillRow width positions (rowStates width ids) (by omega)
  rw [long] at filled
  rw [batchRow, TokenBatch.take_padRight]
  exact filled

/-- The mock model without failures is row-local. -/
theorem rowLocal_engine (model : Model) :
    (engine {} model).RowLocal (rowStates model.nativeDim) := by
  constructor
  intro sequences _
  refine ⟨forward model.nativeDim (.ofSequences sequences padId), rfl, ?_, ?_, rfl, ?_⟩
  · simp [forward, TokenBatch.ofSequences_eq]
  · rw [TokenBatch.ofSequences_eq]
    exact Nat.le_refl _
  · intro k ids row atIds atRow
    have inside : ids.length ≤ TokenBatch.longest sequences :=
      TokenBatch.length_le_longest sequences ids (List.mem_of_getElem? atIds)
    simp only [forward, states_eq, TokenBatch.ofSequences_eq, List.getElem?_zipWith,
      List.getElem?_map, atIds, Option.map_some, Option.some.injEq] at atRow
    rw [← atRow]
    exact take_batchRow _ _ _ inside

/-- What the mock model without failures makes of one text. -/
def solitary (model : Model) (dim : Nat) (text : String) : ItemOutcome :=
  (engine {} model).alone (rowStates model.nativeDim) dim text

/-- The mock model without failures computes every text as if it were alone. -/
theorem compute_engine {model : Model} {dim : Nat} (accepts : model.accepts dim = true)
    (room : 1 ≤ model.maxSequenceLength) (texts : List String) :
    ((engine {} model).compute texts dim).outcome = .done (texts.map (solitary model dim)) :=
  Engine.compute_of_rowLocal (rowLocal_engine model) accepts room texts

end Matryoshka.Mock
