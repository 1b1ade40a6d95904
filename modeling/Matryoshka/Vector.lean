import Matryoshka.Scalar

/-!
# Vectors: norm, normalisation and Matryoshka truncation

A Matryoshka embedding keeps its meaning when it is cut to its first
components, provided the rest is rescaled to unit length. `truncate?` is that
operation. It has no result exactly when the kept part cannot be rescaled: its
norm is zero or not finite.
-/

namespace Matryoshka.Vector

open Scalar

variable {α : Type} [Scalar α]

/-- Sum of the squares, added from the first component to the last. -/
def sumOfSquares (v : List α) : α :=
  v.foldl (fun sum x => add sum (mul x x)) zero

/-- Euclidean length. -/
def norm (v : List α) : α := sqrt (sumOfSquares v)

/-- Every component divided by the norm, unless the norm is zero or not finite. -/
def normalize? (v : List α) : Option (List α) :=
  let length := norm v
  if isZero length || !isFinite length then none
  else some (v.map fun x => div x length)

/-- The first `dim` components, rescaled to unit length. -/
def truncate? (v : List α) (dim : Nat) : Option (List α) :=
  normalize? (v.take dim)

/-- Normalising keeps the number of components. -/
theorem length_of_normalize? {v w : List α} (normalized : normalize? v = some w) :
    w.length = v.length := by
  simp only [normalize?] at normalized
  split at normalized
  · cases normalized
  · cases normalized
    simp

/-- A truncated vector has `dim` components, or all of them if there are fewer. -/
theorem length_of_truncate? {v w : List α} {dim : Nat} (truncated : truncate? v dim = some w) :
    w.length = min dim v.length := by
  rw [length_of_normalize? truncated, List.length_take]

end Matryoshka.Vector
