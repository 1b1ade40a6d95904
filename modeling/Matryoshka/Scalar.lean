/-!
# Scalars

Pooling and normalisation use six operations of their number type and two tests
on it. `Scalar` names exactly those, so the vector code is written once: the
program runs it at single-precision floats, and a law that holds of exact real
arithmetic only is stated at the reals.
-/

namespace Matryoshka

/-- The arithmetic that vectors of embeddings are computed with. -/
class Scalar (α : Type) where
  /-- The number a sum starts from. -/
  zero : α
  /-- Sum of two numbers. -/
  add : α → α → α
  /-- Product of two numbers. -/
  mul : α → α → α
  /-- Quotient of two numbers. -/
  div : α → α → α
  /-- Square root. -/
  sqrt : α → α
  /-- The number of items in a collection, as a scalar to divide by. -/
  ofCount : Nat → α
  /-- Whether a number equals zero, of either sign. -/
  isZero : α → Bool
  /-- Whether a number is neither an infinity nor undefined. -/
  isFinite : α → Bool

/-- Single precision, each operation rounded once. -/
instance : Scalar Float32 where
  zero := 0
  add := (· + ·)
  mul := (· * ·)
  div := (· / ·)
  sqrt := Float32.sqrt
  ofCount := Float32.ofNat
  isZero x := x == 0
  isFinite := Float32.isFinite

/-- The vector computed for one text. -/
abbrev Embedding := List Float32

end Matryoshka
