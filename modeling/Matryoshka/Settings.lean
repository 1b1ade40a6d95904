import Matryoshka.Model

/-!
# Settings of a service

A `Draft` holds whatever somebody wants a service to be; `Settings` hold what a
service can be, with the reasons as proofs. `Draft.build` turns one into the other,
or says what is wrong first. Times are in milliseconds.
-/

namespace Matryoshka

/-- Settings that nobody has checked. -/
structure Draft where
  /-- The model to serve. -/
  model : Model
  /-- The number of components wanted, if not the native one. -/
  outputDim : Option Nat := none
  /-- Most requests of one batch. -/
  batchSize : Nat := 8
  /-- Most vectors that are remembered. -/
  cacheCapacity : Nat := 1000
  /-- Most requests that wait for the worker. -/
  queueCapacity : Nat := 1000
  /-- How long a caller waits. -/
  requestTimeout : Nat := 30000
  /-- How long an unused model is kept, if not for ever. -/
  idleUnload : Option Nat := none
  deriving Repr, DecidableEq

/-- Settings that a service can run with. -/
structure Settings extends Draft where
  /-- The model has components. -/
  nativeDim_pos : 0 < model.nativeDim
  /-- The number of components wanted can be had. -/
  outputDim_accepted : ∀ dim ∈ outputDim, model.accepts dim = true
  /-- A batch has room. -/
  batchSize_pos : 0 < batchSize
  /-- The queue has room. -/
  queueCapacity_pos : 0 < queueCapacity
  /-- A caller waits for some time. -/
  requestTimeout_pos : 0 < requestTimeout
  /-- A model is kept for some time. -/
  idleUnload_pos : ∀ time ∈ idleUnload, 0 < time

namespace Draft

/-- The number of components of every vector. -/
def effectiveDim (draft : Draft) : Nat := draft.outputDim.getD draft.model.nativeDim

/-- What is wrong with the number of components wanted. -/
def outputFault? (draft : Draft) : Option ConfigurationFault :=
  match draft.outputDim with
  | none => none
  | some dim =>
    if dim = 0 then some .zeroOutputDimension
    else if dim > draft.model.nativeDim then
      some (.outputDimensionTooLarge dim draft.model.nativeDim draft.model.name)
    else if draft.model.accepts dim then none
    else some (.truncationUnsupported draft.model.name draft.model.nativeDim dim)

/-- The first thing that is wrong. -/
def fault? (draft : Draft) : Option ConfigurationFault :=
  if draft.model.nativeDim = 0 then some (.zeroNativeDimension draft.model.name)
  else
    match draft.outputFault? with
    | some fault => some fault
    | none =>
      if draft.batchSize = 0 then some .zeroBatchSize
      else if draft.queueCapacity = 0 then some .zeroQueueCapacity
      else if draft.requestTimeout = 0 then some .zeroRequestTimeout
      else if draft.idleUnload = some 0 then some .zeroIdleThreshold
      else none

/-- A dimension that raises no objection is accepted by the model. -/
theorem accepts_of_outputFault? {draft : Draft} (fine : draft.outputFault? = none) :
    ∀ dim ∈ draft.outputDim, draft.model.accepts dim = true := by
  intro dim wanted
  cases asked : draft.outputDim with
  | none => simp [asked] at wanted
  | some dim' =>
    simp only [outputFault?, asked] at fine
    obtain rfl : dim' = dim := by simpa [asked] using wanted
    split at fine
    · contradiction
    · split at fine
      · contradiction
      · split at fine
        · assumption
        · contradiction

/-- What a draft without faults satisfies. -/
theorem sound_of_fault? {draft : Draft} (fine : draft.fault? = none) :
    0 < draft.model.nativeDim ∧ draft.outputFault? = none ∧ 0 < draft.batchSize ∧
      0 < draft.queueCapacity ∧ 0 < draft.requestTimeout ∧ draft.idleUnload ≠ some 0 := by
  unfold fault? at fine
  split at fine
  · contradiction
  · cases output : draft.outputFault? with
    | some fault => simp [output] at fine
    | none =>
      simp only [output] at fine
      split at fine
      · contradiction
      split at fine
      · contradiction
      split at fine
      · contradiction
      split at fine
      · contradiction
      exact ⟨by omega, rfl, by omega, by omega, by omega, by assumption⟩

/-- The settings that a draft asks for. -/
def build (draft : Draft) : Except Failure Settings :=
  match found : draft.fault? with
  | some fault => .error (.configuration fault)
  | none =>
    have sound := sound_of_fault? found
    .ok {
      toDraft := draft
      nativeDim_pos := sound.1
      outputDim_accepted := accepts_of_outputFault? sound.2.1
      batchSize_pos := sound.2.2.1
      queueCapacity_pos := sound.2.2.2.1
      requestTimeout_pos := sound.2.2.2.2.1
      idleUnload_pos := by
        intro time kept
        rcases Nat.eq_zero_or_pos time with rfl | positive
        · exact absurd kept sound.2.2.2.2.2
        · exact positive }

end Draft

namespace Settings

/-- Every vector has a size that the model offers. -/
theorem accepts_effectiveDim (settings : Settings) :
    settings.model.accepts settings.effectiveDim = true := by
  cases asked : settings.outputDim with
  | none => simpa [Draft.effectiveDim, asked] using Model.accepts_nativeDim _ settings.nativeDim_pos
  | some dim =>
    simpa [Draft.effectiveDim, asked] using settings.outputDim_accepted dim (by simp [asked])

end Settings

end Matryoshka
