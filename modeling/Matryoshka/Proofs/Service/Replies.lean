import Matryoshka.Proofs.Service.Calls

/-!
# What replies say

A worker replies with what the model makes of a batch, with the failure of the loader or of the
forward pass, or in its own words when one of these breaks off. A property that all of this has is
one of all replies and letters of a service (`repliesSay_of_run`). A request that is lost has a
letter of its own, which is there only if some worker breaks off.
-/

namespace Matryoshka.Service

variable (settings : Settings) (P : Letter → Prop)

/-- The replies that a worker is about to send have a property. -/
def Phase.RepliesSay : Phase → Prop
  | .replying replies _ _ => ∀ reply ∈ replies, P (.reply reply.2)
  | _ => True

/-- All replies of a service have a property. -/
structure RepliesSay (s : State) : Prop where
  /-- Those that the workers are about to send. -/
  workers : ∀ worker ∈ s.workers, worker.phase.RepliesSay P
  /-- The letters that have not been collected. -/
  letters : ∀ entry ∈ s.letters, P entry.2

/-- What comes from outside in a step has a property: a failure of the loader, or what a model
comes to. -/
def Label.Brings : Label → Prop
  | .worker _ (.finishLoading (.failed failure)) => P (.reply (.error failure))
  | .worker _ (.finishComputing engine) => ∀ texts : List String,
    (∀ outcomes, (engine.compute texts settings.effectiveDim).outcome = .done outcomes →
      ∀ outcome ∈ outcomes, P (.reply outcome)) ∧
    ∀ failure, (engine.compute texts settings.effectiveDim).outcome = .failed failure →
      P (.reply (.error failure))
  | _ => True

/-- What a worker replies in its own words has a property. -/
structure OwnReplies : Prop where
  /-- When the loader breaks off. -/
  loaderAborted : P (.reply (.error (.modelLoad settings.model.name .loaderAborted)))
  /-- When a computation breaks off. -/
  engineAborted : P (.reply (.error (.compute settings.model.name .engineAborted)))

variable {settings P} {s t : State}

/-- A step has to be looked at only if the loader fails in it or a computation ends. -/
theorem Label.brings_of {label : Label}
    (loaded : ∀ w failure, label = .worker w (.finishLoading (.failed failure)) →
      P (.reply (.error failure)))
    (computed : ∀ w engine, label = .worker w (.finishComputing engine) →
      ∀ texts outcomes, (engine.compute texts settings.effectiveDim).outcome = .done outcomes →
        ∀ outcome ∈ outcomes, P (.reply outcome))
    (failed : ∀ w engine, label = .worker w (.finishComputing engine) →
      ∀ texts failure, (engine.compute texts settings.effectiveDim).outcome = .failed failure →
        P (.reply (.error failure))) : label.Brings settings P := by
  cases label with
  | worker w move =>
    cases move with
    | finishLoading outcome =>
      cases outcome with
      | failed failure => exact loaded w failure rfl
      | _ => trivial
    | finishComputing engine =>
      exact fun texts => ⟨computed w engine rfl texts, failed w engine rfl texts⟩
    | _ => trivial
  | _ => trivial

/-- Answering a batch with one failure says what the failure says. -/
theorem of_mem_failAll {batch : List Request} {failure : Failure}
    (shared : P (.reply (.error failure))) :
    ∀ reply ∈ Labor.failAll batch failure, P (.reply reply.2) := by
  intro reply member
  obtain ⟨request, -, rfl⟩ := List.mem_map.1 member
  exact shared

/-- A load that fails is reported as the loader says, or in the words of the worker. -/
theorem LoadFails.reply {w : WorkerId} {outcome : Attempt Unit} {failure : Failure}
    (fails : LoadFails settings outcome failure) (own : OwnReplies settings P)
    (brings : (Label.worker w (.finishLoading outcome)).Brings settings P) :
    P (.reply (.error failure)) := by
  cases fails with
  | failed => exact brings
  | aborted => exact own.loaderAborted

/-- A step of a worker leaves replies with the property, and writes letters with it. -/
theorem WorkerStep.repliesSay {w : WorkerId} {worker worker' : Worker} {move : WorkerMove}
    {counters : Counters} {written : List (Ticket × Letter)} {events : List Event}
    (own : OwnReplies settings P) (brings : (Label.worker w move).Brings settings P)
    (lost : P .lost ∨ worker'.phase ≠ .crashed) (before : worker.phase.RepliesSay P)
    (step : WorkerStep settings s w worker move worker' counters written events) :
    worker'.phase.RepliesSay P ∧ ∀ entry ∈ written, P entry.2 := by
  have nothing : ∀ entry ∈ ([] : List (Ticket × Letter)), P entry.2 :=
    fun _ member => nomatch member
  have lostLetters (crashed : worker'.phase = .crashed) (requests : List Request) :
      ∀ entry ∈ lostLetters requests, P entry.2 := by
    intro entry member
    obtain ⟨request, -, rfl⟩ := List.mem_map.1 member
    exact lost.resolve_right fun whole => whole crashed
  cases step with
  | breakOff => exact ⟨trivial, lostLetters rfl _⟩
  | finishBroken => exact ⟨trivial, lostLetters rfl _⟩
  | loadFails phase fails => exact ⟨of_mem_failAll (fails.reply own brings), nothing⟩
  | compute_done phase holds outcome =>
    exact ⟨fun reply member => (brings _).1 _ outcome _ (List.of_mem_zip member).2, nothing⟩
  | compute_failed phase holds outcome => exact ⟨of_mem_failAll ((brings _).2 _ outcome), nothing⟩
  | compute_aborted => exact ⟨of_mem_failAll own.engineAborted, nothing⟩
  | @reply request outcome replies counted size phase =>
    rw [phase] at before
    refine ⟨fun reply member => before reply (List.mem_cons_of_mem _ member),
      fun entry member => ?_⟩
    cases List.mem_singleton.1 member
    exact before (request, outcome) List.mem_cons_self
  | unload phase =>
    -- the phase of the record after the step does not reduce to that before it
    have waiting : ({ worker with held := none, status := .unloaded } : Worker).phase = .waiting :=
      phase
    rw [waiting]
    exact ⟨trivial, nothing⟩
  | _ => exact ⟨trivial, nothing⟩

/-- A step of a caller leaves only replies with the property. -/
theorem CallerStep.repliesSay {call : Call} {move : CallerMove} {events : List Event}
    (before : RepliesSay P s) (step : CallerStep settings s call move t events) :
    RepliesSay P t := by
  cases step with
  | @send w request worker sending found there room =>
    refine ⟨fun other member => ?_, before.letters⟩
    rcases List.mem_or_eq_of_mem_set member with there | rfl
    · exact before.workers other there
    · exact before.workers worker (List.mem_of_getElem? found)
  | receive => exact ⟨before.workers, fun entry member => before.letters entry
      (List.mem_filter.1 member).1⟩
  | leave => exact ⟨before.workers, fun entry member => before.letters entry
      (List.mem_filter.1 member).1⟩
  | _ => exact ⟨before.workers, before.letters⟩

/-- Every step that brings nothing without the property leaves only replies with it. -/
theorem RepliesSay.transition {label : Label} {events : List Event} (before : RepliesSay P s)
    (own : OwnReplies settings P) (brings : label.Brings settings P)
    (lost : P .lost ∨ ∀ worker ∈ t.workers, worker.phase ≠ .crashed)
    (transition : Transition settings s label t events) : RepliesSay P t := by
  cases transition with
  | start nobody =>
    refine ⟨fun worker member => ?_, before.letters⟩
    rcases List.mem_append.1 member with there | new
    · exact before.workers worker there
    · cases List.mem_singleton.1 new
      trivial
  | caller found step => exact step.repliesSay before
  | receiveLate =>
    exact ⟨before.workers, fun entry member => before.letters entry (List.mem_filter.1 member).1⟩
  | @worker w move worker worker' counters written events found step =>
    have inside : w < s.workers.length := (List.getElem?_eq_some_iff.1 found).1
    obtain ⟨phase, letters⟩ := step.repliesSay own brings
      (lost.imp_right fun whole => whole worker' (List.mem_set inside worker'))
      (before.workers worker (List.mem_of_getElem? found))
    constructor
    · intro other member
      rcases List.mem_or_eq_of_mem_set member with there | rfl
      · exact before.workers other there
      · exact phase
    · intro entry member
      rcases List.mem_append.1 member with there | new
      · exact before.letters entry there
      · exact letters entry (List.mem_filter.1 new).1
  | _ => exact ⟨before.workers, before.letters⟩

/-- Nobody has been replied to at the beginning. -/
theorem repliesSay_initial : RepliesSay P (initial settings) :=
  ⟨fun _ member => (nomatch member), fun _ member => (nomatch member)⟩

end Matryoshka.Service
