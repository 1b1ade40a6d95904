import Mathlib.Analysis.Real.Sqrt
import Mathlib.Algebra.Order.BigOperators.Group.List
import Mathlib.Tactic.NormNum
import Matryoshka.Proofs.Engine.Rows

/-!
# Short vectors are prefixes of long ones

With exact real arithmetic in place of single precision, cutting a vector and rescaling it loses
nothing that a shorter cut needs: rescaling only divides by a positive number, and a vector and a
positive multiple of it have the same direction. So the vector of a smaller size is the same whether
it is cut from the whole or from a vector that was cut before (`truncate?_truncate?`), and an engine
that is asked for the smaller size answers what the larger answers are cut to (`compute_narrow`).
-/

namespace Matryoshka

/-- Exact arithmetic. Every real number is finite. -/
noncomputable instance : Scalar ℝ where
  zero := 0
  add := (· + ·)
  mul := (· * ·)
  div := (· / ·)
  sqrt := Real.sqrt
  ofCount n := n
  isZero x := decide (x = 0)
  isFinite _ := true

namespace Vector

variable {v w : List ℝ} {c : ℝ} {wide narrow dim : Nat}

/-! ## Squares -/

/-- The sum of the squares, as a sum. -/
theorem sumOfSquares_eq (v : List ℝ) : sumOfSquares v = (v.map fun x => x ^ 2).sum := by
  have added (sum : ℝ) : v.foldl (fun sum x => sum + x * x) sum =
      sum + (v.map fun x => x ^ 2).sum := by
    induction v generalizing sum with
    | nil => simp
    | cons x v ih =>
      rw [List.foldl_cons, ih, List.map_cons, List.sum_cons, ← sq, add_assoc]
  exact (added 0).trans (zero_add _)

/-- Squares do not add up to less than nothing. -/
theorem sumOfSquares_nonneg (v : List ℝ) : 0 ≤ sumOfSquares v := by
  rw [sumOfSquares_eq]
  apply List.sum_nonneg
  intro square member
  obtain ⟨x, -, rfl⟩ := List.mem_map.1 member
  exact sq_nonneg x

/-- Squares add up to nothing only if all of them are nothing. -/
theorem sumOfSquares_eq_zero_iff : sumOfSquares v = 0 ↔ ∀ x ∈ v, x = 0 := by
  induction v with
  | nil => simp [sumOfSquares_eq]
  | cons x v ih =>
    have rest := sumOfSquares_nonneg v
    rw [sumOfSquares_eq] at ih rest ⊢
    rw [List.map_cons, List.sum_cons, add_eq_zero_iff_of_nonneg (sq_nonneg x) rest, ih,
      List.forall_mem_cons, sq_eq_zero_iff]

/-- Dividing every component divides the sum of the squares by the square. -/
theorem sumOfSquares_map_div (v : List ℝ) (c : ℝ) :
    sumOfSquares (v.map fun x => x / c) = sumOfSquares v / c ^ 2 := by
  simp only [sumOfSquares_eq, List.map_map]
  induction v with
  | nil => simp
  | cons x v ih =>
    rw [List.map_cons, List.sum_cons, ih, List.map_cons, List.sum_cons, add_div]
    simp only [Function.comp_apply, div_pow]

/-! ## Length -/

/-- Only a vector without any component but zero has no length. -/
theorem norm_eq_zero_iff : norm v = 0 ↔ ∀ x ∈ v, x = 0 := by
  rw [← sumOfSquares_eq_zero_iff]
  exact Real.sqrt_eq_zero (sumOfSquares_nonneg v)

/-- The length is the root of the sum of the squares. -/
theorem sq_norm (v : List ℝ) : norm v ^ 2 = sumOfSquares v := Real.sq_sqrt (sumOfSquares_nonneg v)

/-- No length is negative. -/
theorem norm_nonneg (v : List ℝ) : 0 ≤ norm v := Real.sqrt_nonneg _

/-- A length is found by its square. -/
theorem norm_eq_of_sq (nonneg : 0 ≤ c) (square : (v.map fun x => x ^ 2).sum = c ^ 2) :
    norm v = c := by
  rw [← sumOfSquares_eq, ← sq_norm] at square
  exact (sq_eq_sq₀ (norm_nonneg v) nonneg).1 square

/-- Dividing every component by a positive number divides the length by it. -/
theorem norm_map_div (v : List ℝ) (positive : 0 < c) :
    norm (v.map fun x => x / c) = norm v / c := by
  have squares : norm (v.map fun x => x / c) = √(sumOfSquares v / c ^ 2) :=
    congrArg Real.sqrt (sumOfSquares_map_div v c)
  rw [squares, Real.sqrt_div (sumOfSquares_nonneg v), Real.sqrt_sq positive.le]
  rfl

/-! ## Rescaling -/

/-- Every vector can be rescaled but the zero vectors. -/
theorem normalize?_eq (v : List ℝ) :
    normalize? v = if norm v = 0 then none else some (v.map fun x => x / norm v) := by
  have tested : (Scalar.isZero (norm v) || !Scalar.isFinite (norm v)) = decide (norm v = 0) :=
    Bool.or_false _
  simp only [normalize?, tested, decide_eq_true_eq]
  rfl

/-- A vector cannot be rescaled exactly if all its components are zero. -/
theorem normalize?_eq_none_iff : normalize? v = none ↔ ∀ x ∈ v, x = 0 := by
  rw [normalize?_eq, ← norm_eq_zero_iff]
  split <;> simp_all

/-- What can be rescaled has a positive length, and every component is divided by it. -/
theorem eq_map_of_normalize? (normalized : normalize? v = some w) :
    0 < norm v ∧ w = v.map fun x => x / norm v := by
  rw [normalize?_eq] at normalized
  split at normalized
  · cases normalized
  · rename_i long
    cases normalized
    exact ⟨lt_of_le_of_ne (norm_nonneg v) (Ne.symm long), rfl⟩

/-- A rescaled vector has length one. -/
theorem sumOfSquares_of_normalize? (normalized : normalize? v = some w) : sumOfSquares w = 1 := by
  obtain ⟨positive, rfl⟩ := eq_map_of_normalize? normalized
  rw [sumOfSquares_map_div, ← sq_norm]
  exact div_self (pow_pos positive 2).ne'

/-- Dividing every component by the same positive number makes no difference to what a vector is
rescaled to. -/
theorem normalize?_map_div (v : List ℝ) (positive : 0 < c) :
    normalize? (v.map fun x => x / c) = normalize? v := by
  rw [normalize?_eq, normalize?_eq, norm_map_div v positive]
  by_cases short : norm v = 0
  · simp [short]
  · have scaled : norm v / c ≠ 0 := div_ne_zero short positive.ne'
    rw [if_neg scaled, if_neg short, List.map_map]
    congr 2
    funext x
    exact div_div_div_cancel_right₀ positive.ne' x (norm v)

/-! ## Cutting twice -/

/-- What is cut from a vector that was cut and rescaled is what is cut from the whole. Where the
larger part cannot be rescaled, neither can the smaller one. -/
theorem truncate?_truncate? (v : List ℝ) (nested : narrow ≤ wide) :
    ((truncate? v wide).bind fun w => truncate? w narrow) = truncate? v narrow := by
  have prefixes : (v.take wide).take narrow = v.take narrow := by
    rw [List.take_take, Nat.min_eq_left nested]
  unfold truncate?
  cases cut : normalize? (v.take wide) with
  | none =>
    have zero : ∀ x ∈ v.take narrow, x = 0 := by
      intro x member
      rw [← prefixes] at member
      exact normalize?_eq_none_iff.1 cut x (List.mem_of_mem_take member)
    exact (normalize?_eq_none_iff.2 zero).symm
  | some w =>
    obtain ⟨positive, rfl⟩ := eq_map_of_normalize? cut
    rw [Option.bind_some, ← List.map_take, prefixes]
    exact normalize?_map_div _ positive

end Vector

namespace Engine

variable {model : Model} {engine : Engine ℝ} {wide narrow : Nat}

/-! ## Asking for a smaller size -/

/-- A text whose states were pooled gets the smaller vector, or the same failure, from the outcome
for the larger size. -/
theorem itemOutcome_narrow (model : Model) (nested : narrow ≤ wide) (pooled : List ℝ) :
    (itemOutcome model wide pooled).bind (itemOutcome model narrow) =
      itemOutcome model narrow pooled := by
  have twice := Vector.truncate?_truncate? pooled nested
  unfold itemOutcome
  cases cut : Vector.truncate? pooled wide with
  | none =>
    rw [cut, Option.bind_none] at twice
    rw [← twice]
    rfl
  | some w =>
    rw [cut, Option.bind_some] at twice
    rw [← twice]
    rfl

/-- Every text gets the smaller vector, or the same failure, from its outcome for the larger
size. -/
theorem assemble_narrow (model : Model) (nested : narrow ≤ wide)
    (encoded : List (Except Failure (List TokenId))) (pooled : List (List ℝ)) :
    (assemble model wide encoded pooled).map (fun outcome =>
        outcome.bind (itemOutcome model narrow)) = assemble model narrow encoded pooled := by
  induction encoded generalizing pooled with
  | nil => rfl
  | cons first rest ih =>
    cases first with
    | error failure => exact congrArg _ (ih pooled)
    | ok ids =>
      cases pooled with
      | nil => exact congrArg _ (ih [])
      | cons row pooled =>
        simp only [assemble, List.map_cons, itemOutcome_narrow model nested, ih pooled]

/-- An engine that is asked for a smaller size answers what its answers for a larger size are cut
to. -/
theorem compute_narrow (nested : narrow ≤ wide) (acceptsWide : engine.model.accepts wide = true)
    (acceptsNarrow : engine.model.accepts narrow = true) (texts : List String) :
    (engine.compute texts narrow).outcome =
      (engine.compute texts wide).outcome.map (List.map fun outcome =>
        outcome.bind (itemOutcome engine.model narrow)) := by
  by_cases tokenless : engine.sequencesOf texts = []
  · rw [compute_of_tokenless acceptsWide tokenless, compute_of_tokenless acceptsNarrow tokenless]
    simp only [Attempt.map, assemble_narrow engine.model nested]
  · rw [compute_of_tokens acceptsWide tokenless, compute_of_tokens acceptsNarrow tokenless]
    -- Both passes are the same: the size counts only when the outcomes are read off.
    cases engine.forward (engine.batchOf texts) with
    | failed failure => rfl
    | aborted => rfl
    | done states =>
      simp only [readPass, readStates]
      split
      · split
        · simp only [Attempt.map, assemble_narrow engine.model nested]
        · rfl
      · rfl

end Engine

namespace Vector

open Engine

/-! ## Nested sizes -/

/-- In exact arithmetic sizes nest. What a vector is cut to does not depend on what it was cut to
before; it has as many components as asked for and length one, and there is none exactly if all
components that would be kept are zero. So for every text an engine gives in a smaller size what is
cut from its outcome in a larger one. -/
theorem sizes_nest :
    (∀ (v : List ℝ) (wide narrow : Nat), narrow ≤ wide →
      ((truncate? v wide).bind fun w => truncate? w narrow) = truncate? v narrow) ∧
    (∀ (v : List ℝ) (dim : Nat), dim ≤ v.length →
      (∀ w, truncate? v dim = some w → w.length = dim ∧ (w.map fun x => x ^ 2).sum = 1) ∧
      (truncate? v dim = none ↔ ∀ x ∈ v.take dim, x = 0)) ∧
    ∀ (engine : Engine ℝ) (texts : List String) (wide narrow : Nat), narrow ≤ wide →
      engine.model.accepts wide = true → engine.model.accepts narrow = true →
      (engine.compute texts narrow).outcome =
        (engine.compute texts wide).outcome.map (List.map fun outcome =>
          outcome.bind (itemOutcome engine.model narrow)) := by
  refine ⟨fun v wide narrow nested => truncate?_truncate? v nested, fun v dim inside => ⟨?_, ?_⟩,
    fun engine texts wide narrow nested acceptsWide acceptsNarrow =>
      compute_narrow nested acceptsWide acceptsNarrow texts⟩
  · intro w cut
    constructor
    · rw [length_of_truncate? cut, Nat.min_eq_left inside]
    · rw [← sumOfSquares_eq]
      exact sumOfSquares_of_normalize? cut
  · exact normalize?_eq_none_iff

/-- An engine that finds the same three components in every text. -/
noncomputable def boxEngine : Engine ℝ where
  model := { Model.mock with nativeDim := 3, pooling := .lastToken }
  tokenizer := { encode := fun _ => .ok [1], padId := 0 }
  forward := fun _ => .done (.ofFlat 1 1 3 #[3, 4, 12] 0)

/-- The diagonal of a box of three by four by twelve is thirteen long, that of its base five. The
engine gives the direction of the one in three components and that of the other in two, and the
second is cut from the first. -/
theorem box_sizes_nest :
    boxEngine.model.accepts 3 = true ∧ boxEngine.model.accepts 2 = true ∧
      truncate? [3, 4, 12] 3 = some [3 / 13, 4 / 13, (12 : ℝ) / 13] ∧
      truncate? [3 / 13, 4 / 13, (12 : ℝ) / 13] 2 = some [3 / 5, 4 / 5] ∧
      ([3 / 5, 4 / 5].map fun x : ℝ => x ^ 2).sum = 1 ∧
      (boxEngine.compute ["box"] 3).outcome = .done [.ok [3 / 13, 4 / 13, 12 / 13]] ∧
      (boxEngine.compute ["box"] 2).outcome = .done [.ok [3 / 5, 4 / 5]] := by
  obtain ⟨cuts, lengths, engines⟩ := sizes_nest
  have diagonal : norm [3, 4, (12 : ℝ)] = 13 := norm_eq_of_sq (by norm_num) (by norm_num)
  have base : norm [3, (4 : ℝ)] = 5 := norm_eq_of_sq (by norm_num) (by norm_num)
  have wide : truncate? [3, 4, 12] 3 = some [3 / 13, 4 / 13, (12 : ℝ) / 13] := by
    simp [truncate?, normalize?_eq, diagonal]
  have narrow : truncate? [3, 4, 12] 2 = some [3 / 5, (4 : ℝ) / 5] := by
    simp [truncate?, normalize?_eq, base]
  have again := cuts [3, 4, 12] 3 2 (by decide)
  rw [wide, narrow, Option.bind_some] at again
  have unit := ((lengths [3, 4, 12] 2 (by decide)).1 _ narrow).2
  have pooled : (boxEngine.compute ["box"] 3).outcome =
      .done [itemOutcome boxEngine.model 3 [3, 4, 12]] := rfl
  have computed : (boxEngine.compute ["box"] 3).outcome =
      .done [.ok [3 / 13, 4 / 13, 12 / 13]] := by
    rw [pooled, itemOutcome, wide]
  have smaller := engines boxEngine ["box"] 3 2 (by decide) rfl rfl
  have cut : itemOutcome boxEngine.model 2 [3 / 13, 4 / 13, 12 / 13] =
      .ok [3 / 5, (4 : ℝ) / 5] := by
    rw [itemOutcome, again]
  rw [computed] at smaller
  have direct : (boxEngine.compute ["box"] 2).outcome = .done [.ok [3 / 5, 4 / 5]] :=
    smaller.trans (congrArg (fun outcome => Attempt.done [outcome]) cut)
  exact ⟨rfl, rfl, wide, again, unit, computed, direct⟩

end Vector

end Matryoshka
