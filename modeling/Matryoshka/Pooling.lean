import Matryoshka.Tensor

/-!
# Pooling

Pooling reduces the states of a row to one vector. Rows are padded on the
right, so of a row with `n` real tokens only the first `n` states are read: the
last of them, or their mean. A row that claims no tokens is read as if it had
one, and a row that claims more tokens than it has positions has no pooled
vector at all.
-/

namespace Matryoshka

open Scalar

/-- How the states of a row become one vector. -/
inductive PoolingStrategy where
  /-- The state of the last real token. -/
  | lastToken
  /-- The mean of the states of all real tokens. -/
  | mean
  deriving Repr, DecidableEq

namespace PoolingStrategy

/-- The word for a strategy in descriptions of models. -/
def label : PoolingStrategy → String
  | lastToken => "last_token"
  | mean => "mean_pooling"

end PoolingStrategy

namespace Pooling

variable {α : Type} [Scalar α]

/-- Component-wise mean of `states`, summed from the first state to the last. -/
def meanState (width : Nat) (states : List (List α)) : List α :=
  let total := states.foldl (List.zipWith add) (List.replicate width zero)
  total.map fun sum => div sum (ofCount states.length)

/-- The vector of one row that has `tokens` real tokens. -/
def poolRow? (strategy : PoolingStrategy) (width : Nat) (row : List (List α)) (tokens : Nat) :
    Option (List α) :=
  let used := max tokens 1
  match strategy with
  | .lastToken => row[used - 1]?
  | .mean => if used ≤ row.length then some (meanState width (row.take used)) else none

/-- The vectors of all rows: a row without a length is zero, and lengths without
a row are ignored. -/
def poolRows? (strategy : PoolingStrategy) (width : Nat) :
    List (List (List α)) → List Nat → Option (List (List α))
  | [], _ => some []
  | rows, [] => some (rows.map fun _ => List.replicate width zero)
  | row :: rows, tokens :: lengths =>
    match poolRow? strategy width row tokens, poolRows? strategy width rows lengths with
    | some vector, some vectors => some (vector :: vectors)
    | _, _ => none

/-- One vector for every row of `states`, or nothing if some row claims more
tokens than there are positions. -/
def pool? (strategy : PoolingStrategy) (states : Tensor α) (lengths : List Nat) :
    Option (List (List α)) :=
  poolRows? strategy states.width states.cells lengths

/-- A row has a pooled vector exactly when it has as many positions as tokens. -/
theorem poolRow?_isSome_iff (strategy : PoolingStrategy) (width : Nat) (row : List (List α))
    (tokens : Nat) :
    (poolRow? strategy width row tokens).isSome ↔ max tokens 1 ≤ row.length := by
  cases strategy with
  | lastToken =>
    have one_le : 1 ≤ max tokens 1 := Nat.le_max_right tokens 1
    by_cases inside : max tokens 1 - 1 < row.length
    · simp only [poolRow?, List.getElem?_eq_getElem inside, Option.isSome_some, true_iff]
      omega
    · simp only [poolRow?, List.getElem?_eq_none (Nat.not_lt.1 inside), Option.isSome_none,
        Bool.false_eq_true, false_iff]
      omega
  | mean =>
    simp only [poolRow?]
    split
    · simp only [Option.isSome_some, true_iff]
      assumption
    · simp only [Option.isSome_none, Bool.false_eq_true, false_iff]
      assumption

/-- Pooling returns one vector for every row. -/
theorem length_of_poolRows? (strategy : PoolingStrategy) (width : Nat)
    (rows : List (List (List α))) (lengths : List Nat) (vectors : List (List α))
    (pooled : poolRows? strategy width rows lengths = some vectors) :
    vectors.length = rows.length := by
  induction rows generalizing lengths vectors with
  | nil =>
    simp only [poolRows?, Option.some.injEq] at pooled
    simp [← pooled]
  | cons row rows ih =>
    cases lengths with
    | nil =>
      simp only [poolRows?, Option.some.injEq] at pooled
      simp [← pooled]
    | cons tokens lengths =>
      simp only [poolRows?] at pooled
      split at pooled
      · rename_i pooledRow pooledRest _ restPooled
        cases pooled
        simp [ih lengths pooledRest restPooled]
      · cases pooled

end Pooling

end Matryoshka
