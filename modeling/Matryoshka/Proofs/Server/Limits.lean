import Mathlib.Algebra.Ring.Nat
import Matryoshka.Proofs.Server.Validation
import Matryoshka.Proofs.Service.Limits

/-!
# Configurations that break a service off

Checking a configuration finds numbers that are too small, but none that are too large. So of a
configuration that is accepted it depends on five of its numbers whether its service can break
off (`accepted_crashes_iff`).
-/

namespace Matryoshka

namespace Server

open Service

variable {c : Configuration} {settings : Settings} {horizon : Time}

/-- A configuration that is accepted has settings. -/
theorem Configuration.exists_settings_of_validate (accepted : c.validate = .ok ()) :
    ∃ settings, c.settings = .ok settings := by
  unfold validate at accepted
  split at accepted
  · cases accepted
  · split at accepted
    · cases accepted
    · cases asked : c.settings with
      | error failure =>
        rw [asked] at accepted
        cases accepted
      | ok settings => exact ⟨settings, rfl⟩

/-- A configuration in which nothing is wrong is accepted. -/
theorem Configuration.validate_of_fault? (model : Model)
    (address : (Address.parse? c.listening.bindAddress).isSome = true)
    (time : c.serving.shutdownSeconds ≠ 0) (known : Model.parse c.serving.model = .ok model)
    (fine : (Configuration.Serving.draft c.serving model).fault? = none) :
    c.validate = .ok () := by
  obtain ⟨settings, built⟩ := Draft.exists_of_fault? fine
  have asked : c.settings = .ok settings := by
    rw [Configuration.settings, known]
    exact built
  obtain ⟨place, found⟩ := Option.isSome_iff_exists.1 address
  rw [validate, found]
  simp only [if_neg time, asked]
  rfl

/-- The settings of a configuration hold its numbers. -/
theorem Configuration.toDraft_of_settings (asked : c.settings = .ok settings) :
    ∃ model, settings.toDraft = Configuration.Serving.draft c.serving model := by
  unfold Configuration.settings at asked
  cases known : Model.parse c.serving.model with
  | error failure =>
    rw [known] at asked
    cases asked
  | ok model =>
    rw [known] at asked
    exact ⟨model, Draft.toDraft_of_build asked⟩

/-- All numbers of a configuration are small enough up to a horizon: the entries of the cache and
the requests of a batch have room in a memory of `2 ^ 63` bytes, a queue holds less than
`2 ^ 61` requests, and the clock can be set for every moment that is asked for. -/
structure Serving.Bounded (serving : Serving) (horizon : Time) : Prop where
  /-- There is room for the cache. -/
  cacheCapacity : serving.cacheCapacity < 2 ^ 59
  /-- There is room for a queue. -/
  queueCapacity : serving.queueCapacity < 2 ^ 61
  /-- There is room for a batch. -/
  batchSize : serving.batchSize < 2 ^ 58
  /-- A clock can be set for a deadline. -/
  requestTimeout : horizon + serving.requestTimeout < 2 ^ 63 * 1000
  /-- A clock can be set for the moment at which a model is let go, if ever. -/
  idleUnload : serving.idleUnloadSeconds = 0 ∨
    horizon + serving.idleUnloadSeconds * 1000 < 2 ^ 63 * 1000

/-- The numbers of settings are small enough exactly if those of their configuration are. -/
theorem bounded_iff (asked : c.settings = .ok settings) :
    Service.Bounded settings horizon ↔ c.serving.Bounded horizon := by
  obtain ⟨model, own⟩ := Configuration.toDraft_of_settings asked
  have cache : settings.cacheCapacity = c.serving.cacheCapacity := by rw [own]; rfl
  have queue : settings.queueCapacity = c.serving.queueCapacity := by rw [own]; rfl
  have batch : settings.batchSize = c.serving.batchSize := by rw [own]; rfl
  have timeout : settings.requestTimeout = c.serving.requestTimeout := by rw [own]; rfl
  have idle : settings.idleUnload = if c.serving.idleUnloadSeconds = 0 then none else
      some (c.serving.idleUnloadSeconds * 1000) := by rw [own]; rfl
  have positive := settings.queueCapacity_pos
  have memory : Labor.memoryBound = 2 ^ 63 := by decide
  have clock : Labor.clockBound = 2 ^ 63 * 1000 := by decide
  have places : queueBound = 2 ^ 61 := by decide
  constructor
  · intro bounded
    have room := bounded.cache
    have line := bounded.queue
    have hands := bounded.batch
    have deadline := bounded.deadline
    simp only [cacheFits, entryBytes, cache, memory, decide_eq_true_eq] at room
    simp only [queueFits, queue, places, Bool.and_eq_true, decide_eq_true_eq] at line
    simp only [Labor.batchFits, Labor.requestBytes, batch, memory, decide_eq_true_eq] at hands
    rw [timeout, clock] at deadline
    refine ⟨by omega, line.2, by omega, deadline, ?_⟩
    by_cases never : c.serving.idleUnloadSeconds = 0
    · exact .inl never
    · rw [if_neg never] at idle
      have late := bounded.idle _ idle
      rw [clock] at late
      exact .inr late
  · intro bounded
    have room := bounded.cacheCapacity
    have hands := bounded.batchSize
    refine ⟨?_, ?_, ?_, ?_, ?_⟩
    · simp only [cacheFits, entryBytes, cache, memory, decide_eq_true_eq]
      omega
    · simp only [queueFits, queue, places, Bool.and_eq_true, decide_eq_true_eq]
      exact ⟨queue ▸ positive, bounded.queueCapacity⟩
    · rw [timeout, clock]
      exact bounded.requestTimeout
    · simp only [Labor.batchFits, Labor.requestBytes, batch, memory, decide_eq_true_eq]
      omega
    · intro time wanted
      rw [idle] at wanted
      rcases bounded.idleUnload with never | early
      · rw [if_pos never] at wanted
        cases wanted
      · split at wanted
        · cases wanted
        · cases wanted
          rw [clock]
          exact early

/-- The service of an accepted configuration can break off while the clock is not beyond a
horizon exactly if the cache, a queue or a batch is too large, or if the clock cannot be set for a
deadline or for the moment at which the model is let go. -/
theorem accepted_crashes_iff (c : Configuration) (horizon : Time) (accepted : c.validate = .ok ()) :
    ∃ settings, c.settings = .ok settings ∧
      (Service.Crashes settings horizon ↔ ¬ c.serving.Bounded horizon) := by
  obtain ⟨settings, asked⟩ := Configuration.exists_settings_of_validate accepted
  exact ⟨settings, asked, crashes_iff.trans (not_congr (bounded_iff asked))⟩

/-- The configuration of the mock model that lets go of its model after five minutes. -/
def usual : Configuration := { serving := { model := "mock", idleUnloadSeconds := 300 } }

/-- With usual numbers nothing breaks off within `2 ^ 61` milliseconds. -/
theorem usual_never_crashes :
    ∃ settings, usual.settings = .ok settings ∧ ¬ Service.Crashes settings (2 ^ 61) := by
  have accepted : usual.validate = .ok () :=
    Configuration.validate_of_fault? .mock (by decide +kernel) (by decide) rfl (by decide)
  obtain ⟨settings, asked, crashes⟩ := accepted_crashes_iff usual (2 ^ 61) accepted
  refine ⟨settings, asked, fun crash => crashes.1 crash ?_⟩
  exact ⟨by decide, by decide, by decide, by decide, by decide⟩

/-- The configuration of the mock model with the largest batch that a document can ask for. -/
def overloaded : Configuration :=
  { serving := { model := "mock", batchSize := 9223372036854775807 } }

/-- The largest batch that a document can ask for is accepted, and breaks the service off. -/
theorem overloaded_crashes :
    overloaded.validate = .ok () ∧ overloaded.serving.batchSize ≤ 2 ^ 63 - 1 ∧
      ∃ settings, overloaded.settings = .ok settings ∧ Service.Crashes settings 0 := by
  have accepted : overloaded.validate = .ok () :=
    Configuration.validate_of_fault? .mock (by decide +kernel) (by decide) rfl (by decide)
  obtain ⟨settings, asked⟩ := Configuration.exists_settings_of_validate accepted
  refine ⟨accepted, by decide, settings, asked, crashes_iff.2 fun bounded => ?_⟩
  exact absurd ((bounded_iff asked).1 bounded).batchSize (by decide)

end Server

end Matryoshka
