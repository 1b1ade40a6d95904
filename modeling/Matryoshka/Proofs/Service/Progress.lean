import Matryoshka.Proofs.Service.Claims
import Matryoshka.Proofs.Service.Exhaustion
import Matryoshka.Proofs.Service.Lifecycle
import Matryoshka.Proofs.Service.QueueDepth
import Matryoshka.Proofs.Service.Senders

/-!
# A service never gets stuck

As long as a call is not answered, some caller or worker can make a step at once, without waiting
for a deadline or for somebody to go away (`prompt_of_unanswered`). A caller waits only for room
in the queue of a worker or for a letter, and a call for an end only for its worker. A worker that
is there and cannot move has an empty queue, so there is room for those who send; no worker has
the request of a claimed ticket, so its letter is there; and nobody can send to a worker that was
let go, so it has ended. Steps come to an end, so all calls are answered (`never_stuck`).
-/

namespace Matryoshka.Service

/-- Whether a step waits for nothing: for no deadline, for nobody to call and for nobody to go
away. The loader and the model come back with what is given. -/
def Label.IsPrompt (loaded : Attempt Unit) (engine : Engine) : Label → Prop
  | .caller _ .lookUp | .caller _ .submit | .caller _ .send | .caller _ .collect
  | .caller _ .answer | .finishEnding _ => True
  | .worker _ (.finishLoading outcome) => outcome = loaded
  | .worker _ (.finishComputing model) => model = engine
  | .worker _ .unload => False
  | .worker _ _ => True
  | _ => False

/-- Whether nobody goes away in a step. -/
def Label.isPatient : Label → Bool
  | .caller _ .leave | .leaveEnding _ => false
  | _ => true

/-- Some step that waits for nothing is possible. -/
def Moves (settings : Settings) (loaded : Attempt Unit) (engine : Engine) (s : State) : Prop :=
  ∃ label, label.IsPrompt loaded engine ∧ (step settings s label).isSome = true

variable {settings : Settings} {s t : State} {loaded : Attempt Unit} {engine : Engine}

/-! ## Workers -/

/-- A worker that is there can move, unless it waits for requests that somebody may send. -/
theorem worker_moves (w : WorkerId) {worker : Worker} (there : worker.isGone = false)
    (holds : ∀ batch, worker.phase = .computing batch → worker.held.isSome = true)
    (loaded : Attempt Unit) (engine : Engine) :
    (∃ move, (Label.worker w move).IsPrompt loaded engine ∧
        (stepWorker settings s w worker move).isSome = true) ∨
      worker.phase = .waiting ∧ worker.queue = [] ∧ s.hasSender w = true := by
  have moves (move : WorkerMove) (prompt : (Label.worker w move).IsPrompt loaded engine)
      (possible : (stepWorker settings s w worker move).isSome = true) :
      ∃ move, (Label.worker w move).IsPrompt loaded engine ∧
        (stepWorker settings s w worker move).isSome = true := ⟨move, prompt, possible⟩
  cases phase : worker.phase with
  | waiting =>
    cases queue : worker.queue with
    | cons request queue' =>
      refine .inl (moves .take trivial ?_)
      rw [stepWorker, Labor.take, phase, queue]
      simp only
      split <;> rfl
    | nil =>
      cases sender : s.hasSender w with
      | true => exact .inr ⟨rfl, rfl, rfl⟩
      | false =>
        refine .inl (moves .stop trivial ?_)
        simp [stepWorker, Labor.stop, phase, queue, sender]
  | gathering batch =>
    left
    by_cases full : settings.batchSize ≤ batch.length ∨ worker.queue = []
    · refine moves .closeBatch trivial ?_
      simp [stepWorker, Labor.closeBatch, phase, full]
    · rw [not_or] at full
      obtain ⟨request, queue, waits⟩ := List.exists_cons_of_ne_nil full.2
      refine moves .takeMore trivial ?_
      simp [stepWorker, Labor.takeMore, phase, waits, Nat.lt_of_not_le full.1]
  | checking live rest =>
    left
    cases rest with
    | cons request rest =>
      refine moves .check trivial ?_
      simp [stepWorker, Labor.check, phase]
    | nil =>
      refine moves .proceed trivial ?_
      cases live with
      | nil => simp [stepWorker, Labor.proceed, phase]
      | cons request live =>
        cases held : worker.held <;> simp [stepWorker, Labor.proceed, phase, held]
  | loading batch =>
    refine .inl (moves (.finishLoading loaded) rfl ?_)
    cases loaded <;> simp [stepWorker, Labor.finishLoading, phase]
  | computing batch =>
    obtain ⟨held, holds⟩ := Option.isSome_iff_exists.1 (holds batch phase)
    refine .inl (moves (.finishComputing engine) rfl ?_)
    rw [stepWorker, Labor.finishComputing, phase, holds]
    simp only
    split <;> rfl
  | replying replies counted size =>
    left
    cases replies with
    | nil =>
      refine moves .finishBatch trivial ?_
      simp [stepWorker, Labor.finishBatch, phase]
    | cons reply replies =>
      refine moves .reply trivial ?_
      simp [stepWorker, Labor.reply, phase]
  | stopped =>
    rw [Worker.isGone, phase] at there
    cases there
  | crashed =>
    rw [Worker.isGone, phase] at there
    cases there

/-- A worker that is there moves, unless it waits for requests that somebody may send. -/
theorem moves_of_worker {w : WorkerId} {worker : Worker} (found : s.workers[w]? = some worker)
    (there : worker.isGone = false)
    (holds : ∀ batch, worker.phase = .computing batch → worker.held.isSome = true) :
    Moves settings loaded engine s ∨
      worker.phase = .waiting ∧ worker.queue = [] ∧ s.hasSender w = true := by
  rcases worker_moves w there holds loaded engine with ⟨move, prompt, possible⟩ | waits
  · exact .inl ⟨.worker w move, prompt, by rw [step, found]; exact possible⟩
  · exact .inr waits

/-! ## Callers -/

/-- A call moves, if there is room for its request or nobody reads the queue, and if the letter
for its first place is there. -/
theorem moves_of_call {call : Call} (apart : Apart s.calls) (member : call ∈ s.calls)
    (room : ∀ w, call.sendsTo w = true → ∃ worker, s.workers[w]? = some worker ∧
      (worker.isGone = true ∨ worker.queue.length < settings.queueCapacity))
    (posted : ∀ ticket, 0 < call.claims ticket → Posted s ticket) :
    Moves settings loaded engine s := by
  have moves (move : CallerMove) (prompt : (Label.caller call.id move).IsPrompt loaded engine)
      (possible : (stepCaller settings s call move).isSome = true) :
      Moves settings loaded engine s := by
    refine ⟨.caller call.id move, prompt, ?_⟩
    rw [step, call?_of_mem apart member]
    exact possible
  cases stage : call.stage with
  | submitting text =>
    refine moves .submit trivial ?_
    cases held : s.handle <;> simp [stepCaller, Caller.submit, stage, held]
  | sending w request =>
    refine moves .send trivial ?_
    obtain ⟨worker, found, free⟩ := room w ((sendsTo_iff call w).2 ⟨request, stage⟩)
    rcases free with gone | free
    · simp [stepCaller, Caller.send, stage, found, gone]
    · cases gone : worker.isGone <;> simp [stepCaller, Caller.send, stage, found, gone, free]
  | handing =>
    cases texts : call.texts with
    | cons text rest =>
      refine moves .lookUp trivial ?_
      rw [stepCaller, Caller.lookUp, stage, texts]
      simp only
      split <;> rfl
    | nil =>
      have collecting : call.isCollecting = true := by rw [Call.isCollecting, stage, texts]
      cases slots : call.slots with
      | nil =>
        refine moves .answer trivial ?_
        simp [stepCaller, Caller.answer, collecting, slots]
      | cons slot rest =>
        refine moves .collect trivial ?_
        cases slot with
        | settled outcome => simp [stepCaller, Caller.collect, collecting, slots]
        | «open» text ticket =>
          have claimed : 0 < call.claims ticket := by
            rw [Call.claims, slots, countP_cons_toNat, Slot.claims, BEq.rfl]
            exact Nat.zero_lt_succ _
          obtain ⟨letter, arrived⟩ := (posted ticket claimed).letter?
          simp [stepCaller, Caller.collect, collecting, slots, arrived]

/-! ## Calls for an end -/

/-- A call for the end of a worker that is gone is told so. -/
theorem moves_of_ending {ending : Ending} (member : ending ∈ s.endings)
    (gone : ∀ ending ∈ s.endings, ∃ worker, s.workers[ending.worker]? = some worker ∧
      worker.isGone = true) : Moves settings loaded engine s := by
  refine ⟨.finishEnding ending.id, trivial, ?_⟩
  cases found : s.ending? ending.id with
  | none =>
    have other := List.find?_eq_none.1 found ending member
    simp at other
  | some first =>
    obtain ⟨worker, there, ended⟩ := gone first (List.mem_of_find?_eq_some found)
    unfold Worker.isGone at ended
    cases phase : worker.phase <;> rw [phase] at ended <;>
      simp_all [step, finishEnding, endingResult?]

/-- A worker that a call for its end waits for is held by nobody else. -/
theorem holders_of_ending {labels : List Label} {events : List Event} {ending : Ending}
    (run : Run settings (initial settings) labels events s) (member : ending ∈ s.endings) :
    ending.worker < s.workers.length ∧ s.handle ≠ some ending.worker := by
  have waits : 0 < s.endings.countP fun other => other.worker == ending.worker :=
    List.countP_pos_iff.2 ⟨ending, member, BEq.rfl⟩
  have once := heldOnce_of_run run ending.worker
  unfold holders at once
  split at once
  · rename_i inside
    refine ⟨inside, fun held => ?_⟩
    rw [held, BEq.rfl, Bool.toNat_true] at once
    omega
  · omega

/-! ## The service -/

/-- A worker that is gone, or that waits with an empty queue, has no request. -/
theorem requests_eq_nil {worker : Worker} (queue : worker.queue = [])
    (idle : worker.isGone = true ∨ worker.phase = .waiting) : worker.requests = [] := by
  unfold Worker.isGone at idle
  cases phase : worker.phase <;> simp_all [Worker.requests, Phase.requests]

/-- As long as a call is not answered, some step that waits for nothing is possible, whatever the
loader and the model come back with. -/
theorem prompt_of_unanswered {labels : List Label} {events : List Event}
    (run : Run settings (initial settings) labels events s)
    (unanswered : s.calls ≠ [] ∨ s.endings ≠ []) (loaded : Attempt Unit) (engine : Engine) :
    Moves settings loaded engine s := by
  by_contra stuck
  have resting (w : WorkerId) (worker : Worker) (found : s.workers[w]? = some worker) :
      worker.isGone = true ∨
        worker.phase = .waiting ∧ worker.queue = [] ∧ s.hasSender w = true := by
    cases gone : worker.isGone with
    | true => exact .inl rfl
    | false =>
      have fits := (lifecycle_of_run run found).fits
      refine .inr ((moves_of_worker found gone fun batch phase => ?_).resolve_left stuck)
      rw [Worker.StatusFits, phase] at fits
      exact Option.isSome_iff_ne_none.2 fits.2
  have empty (w : WorkerId) (worker : Worker) (found : s.workers[w]? = some worker) :
      worker.queue = [] := by
    rcases resting w worker found with gone | ⟨-, queue, -⟩
    · exact (balanced_of_run run found).queue_eq gone
    · exact queue
  have posted (ticket : Ticket) (claimed : 0 < claims s ticket) : Posted s ticket := by
    refine (owed_of_run run ticket claimed).resolve_right ?_
    rintro ⟨worker, member, request, own, -⟩
    obtain ⟨w, found⟩ := List.mem_iff_getElem?.1 member
    rw [requests_eq_nil (empty w worker found) ((resting w worker found).imp id And.left)] at own
    cases own
  have answered : s.calls = [] := by
    by_contra some
    obtain ⟨call, member⟩ := List.exists_mem_of_ne_nil _ some
    refine stuck (moves_of_call (apart_of_run run) member ?_ ?_)
    · intro w sends
      obtain ⟨worker, found, -⟩ :=
        attended_of_run run w ((hasSender_iff s w).2 (.inr ⟨call, member, sends⟩))
      refine ⟨worker, found, .inr ?_⟩
      rw [empty w worker found]
      exact settings.queueCapacity_pos
    · intro ticket claimed
      exact posted ticket (claims_pos member claimed)
  obtain ⟨ending, member⟩ :=
    List.exists_mem_of_ne_nil _ (unanswered.resolve_left fun some => some answered)
  refine stuck (moves_of_ending member fun ending member => ?_)
  obtain ⟨inside, notHeld⟩ := holders_of_ending run member
  have found := List.getElem?_eq_getElem inside
  refine ⟨_, found, (resting _ _ found).resolve_right ?_⟩
  rintro ⟨-, -, sender⟩
  -- no call is there to send, and the service has let go of the worker
  rcases (hasSender_iff s _).1 sender with held | ⟨call, there, -⟩
  · exact notHeld held
  · rw [answered] at there
    cases there

/-! ## Answers -/

/-- Every call has been answered, and every call for an end has been told. -/
structure Finished (s t : State) (more : List Event) : Prop where
  /-- No call is left. -/
  calls_eq : t.calls = []
  /-- No call for an end is left. -/
  endings_eq : t.endings = []
  /-- Every call was answered. -/
  answered : ∀ call ∈ s.calls, ∃ outcomes, .answered call.id outcomes ∈ more
  /-- Every call for an end was told. -/
  told : ∀ ending ∈ s.endings, ∃ result, .ended ending.id (some ending.worker) result ∈ more

/-- A step that waits for nothing is one that the service makes by itself, and nobody goes away in
it. -/
theorem Label.IsPrompt.own_patient {label : Label} (prompt : label.IsPrompt loaded engine) :
    label.isOwn = true ∧ label.isPatient = true := by
  cases label with
  | start | embed | probe | shutDown | pass | leaveEnding => exact prompt.elim
  | caller id move =>
    refine ⟨rfl, ?_⟩
    cases move with
    | leave => exact prompt.elim
    | _ => rfl
  | _ => exact ⟨rfl, rfl⟩

/-- As long as its caller does not go away, a call stays until it is answered. -/
theorem CallerStep.call_stays {call c : Call} {move : CallerMove} {events : List Event}
    (step : CallerStep settings s call move t events) (stays : move ≠ .leave)
    (member : c ∈ s.calls) : (∃ c' ∈ t.calls, c'.id = c.id) ∨
      ∃ outcomes, .answered c.id outcomes ∈ events := by
  have moved {call' : Call} (same : call'.id = call.id) :
      ∃ c' ∈ s.callsWith call', c'.id = c.id := by
    refine ⟨_, List.mem_map_of_mem member, ?_⟩
    split
    · rename_i own
      exact own.symm
    · rfl
  cases step with
  | answer =>
    by_cases own : c.id = call.id
    · rw [own]
      exact .inr ⟨_, List.mem_singleton_self _⟩
    · exact .inl ⟨c, List.mem_filter.2 ⟨member, by simpa using own⟩, rfl⟩
  | leave => exact absurd rfl stays
  | _ => exact .inl (moved (by rfl))

/-- As long as nobody goes away, a call stays until it is answered. -/
theorem call_stays {label : Label} {events : List Event} {c : Call}
    (transition : Transition settings s label t events) (patient : label.isPatient = true)
    (member : c ∈ s.calls) :
    (∃ c' ∈ t.calls, c'.id = c.id) ∨ ∃ outcomes, .answered c.id outcomes ∈ events := by
  cases transition with
  | caller found step =>
    refine step.call_stays ?_ member
    rintro rfl
    cases patient
  | embed => exact .inl ⟨c, List.mem_append_left _ member, rfl⟩
  | probe => exact .inl ⟨c, List.mem_append_left _ member, rfl⟩
  | _ => exact .inl ⟨c, member, rfl⟩

/-- No two calls for an end have the same number. -/
def EndingsApart (s : State) : Prop := (s.endings.map Ending.id).Nodup

/-- Every step keeps the calls for an end apart. -/
theorem EndingsApart.transition {label : Label} {events : List Event} (apart : EndingsApart s)
    (transition : Transition settings s label t events) : EndingsApart t := by
  have removed (id : CallId) : EndingsApart (s.removeEnding id) :=
    List.Nodup.sublist (List.filter_sublist.map Ending.id) apart
  cases transition with
  | @shutDown id patience w fresh held =>
    have others : ∀ ending ∈ s.endings, ending.id ≠ id := by
      simpa [State.ending?] using fresh
    unfold EndingsApart
    rw [List.map_append, List.nodup_append]
    refine ⟨apart, List.nodup_singleton _, ?_⟩
    intro a member b new same
    obtain ⟨ending, there, rfl⟩ := List.mem_map.1 member
    exact others ending there (same.trans (List.mem_singleton.1 new))
  | caller found step =>
    rw [EndingsApart, step.handle_eq.2.1]
    exact apart
  | finishEnding => exact removed _
  | expireEnding => exact removed _
  | leaveEnding => exact removed _
  | _ => exact apart

/-- In every run the calls for an end are apart. -/
theorem endingsApart_of_run {labels : List Label} {events : List Event}
    (run : Run settings (initial settings) labels events s) : EndingsApart s := by
  induction run with
  | none => exact List.nodup_nil
  | step _ next ih => exact ih.transition (transition_of_step next)

/-- As long as nobody goes away, a call for an end stays until it is told. -/
theorem ending_stays {label : Label} {events : List Event} {ending : Ending}
    (apart : EndingsApart s) (transition : Transition settings s label t events)
    (patient : label.isPatient = true) (member : ending ∈ s.endings) :
    ending ∈ t.endings ∨ ∃ result, .ended ending.id (some ending.worker) result ∈ events := by
  have told {id : CallId} {first : Ending} (found : s.ending? id = some first)
      (result : Except Failure Nat) : ending ∈ (s.removeEnding id).endings ∨
        Event.ended ending.id (some ending.worker) result ∈
          [Event.ended id (some first.worker) result] := by
    by_cases own : ending.id = id
    · have same : ending.id = first.id := own.trans (id_of_ending? found).symm
      obtain rfl := List.inj_on_of_nodup_map apart member (List.mem_of_find?_eq_some found) same
      rw [own]
      exact .inr (List.mem_singleton_self _)
    · exact .inl (List.mem_filter.2 ⟨member, by simpa using own⟩)
  cases transition with
  | shutDown => exact .inl (List.mem_append_left _ member)
  | caller found step => exact .inl (step.handle_eq.2.1 ▸ member)
  | finishEnding found known => exact (told found _).imp_right fun own => ⟨_, own⟩
  | expireEnding found unknown due => exact (told found _).imp_right fun own => ⟨_, own⟩
  | leaveEnding => cases patient
  | _ => exact .inl member

/-- In a run in which nobody goes away every call stays until it is answered, and every call for
an end until it is told. -/
theorem answered_or_there {labels later : List Label} {events more : List Event}
    (run : Run settings (initial settings) labels events s) (onward : Run settings s later more t)
    (patient : ∀ label ∈ later, label.isPatient = true) :
    (∀ call ∈ s.calls, (∃ c ∈ t.calls, c.id = call.id) ∨
        ∃ outcomes, .answered call.id outcomes ∈ more) ∧
      ∀ ending ∈ s.endings, ending ∈ t.endings ∨
        ∃ result, .ended ending.id (some ending.worker) result ∈ more := by
  induction onward with
  | none => exact ⟨fun call member => .inl ⟨call, member, rfl⟩, fun ending member => .inl member⟩
  | @step u v later more last label onward next ih =>
    obtain ⟨calls, endings⟩ := ih fun label member => patient label (List.mem_append_left _ member)
    have patient := patient label (List.mem_append_right _ List.mem_cons_self)
    have transition := transition_of_step next
    constructor
    · intro call member
      rcases calls call member with ⟨c, there, same⟩ | ⟨outcomes, told⟩
      · rw [← same]
        refine (call_stays transition patient there).imp_right ?_
        rintro ⟨outcomes, told⟩
        exact ⟨outcomes, List.mem_append_right _ told⟩
      · exact .inr ⟨outcomes, List.mem_append_left _ told⟩
    · intro ending member
      rcases endings ending member with there | ⟨result, told⟩
      · have apart := endingsApart_of_run (run.trans onward)
        refine (ending_stays apart transition patient there).imp_right ?_
        rintro ⟨result, told⟩
        exact ⟨result, List.mem_append_right _ told⟩
      · exact .inr ⟨result, List.mem_append_left _ told⟩

/-- Steps that wait for nothing come to an end, whatever the loader and the model come back
with. -/
theorem exists_rest {labels : List Label} {events : List Event}
    (run : Run settings (initial settings) labels events s) (loaded : Attempt Unit)
    (engine : Engine) : ∃ later more t, Run settings s later more t ∧
      (∀ label ∈ later, label.IsPrompt loaded engine) ∧ ¬ Moves settings loaded engine t := by
  induction left : s.work using Nat.strongRecOn generalizing s labels events with
  | ind left ih =>
    by_cases moves : Moves settings loaded engine s
    · obtain ⟨label, prompt, possible⟩ := moves
      obtain ⟨⟨t, first⟩, next⟩ := Option.isSome_iff_exists.1 possible
      have less := work_lt (apart_of_run run) (transition_of_step next) prompt.own_patient.1
      obtain ⟨later, more, u, onward, prompts, rest⟩ :=
        ih t.work (left ▸ less) (run.step next) rfl
      refine ⟨label :: later, first ++ more, u, (Run.single next).trans onward, ?_, rest⟩
      intro other member
      rcases List.mem_cons.1 member with rfl | member
      · exact prompt
      · exact prompts other member
    · exact ⟨[], [], s, .none s, fun _ member => (nomatch member), moves⟩

/-- When nobody has gone away and no step is possible that waits for nothing, every call has been
answered. -/
theorem finished_of_rest {labels later : List Label} {events more : List Event}
    (run : Run settings (initial settings) labels events s) (onward : Run settings s later more t)
    (patient : ∀ label ∈ later, label.isPatient = true) (rest : ¬ Moves settings loaded engine t) :
    Finished s t more := by
  have answered : ¬ (t.calls ≠ [] ∨ t.endings ≠ []) := fun unanswered =>
    rest (prompt_of_unanswered (run.trans onward) unanswered loaded engine)
  rw [not_or, not_not, not_not] at answered
  obtain ⟨calls, endings⟩ := answered_or_there run onward patient
  rw [answered.1] at calls
  rw [answered.2] at endings
  exact ⟨answered.1, answered.2,
    fun call member => (calls call member).resolve_left fun ⟨_, there, _⟩ => (nomatch there),
    fun ending member => (endings ending member).resolve_left fun there => (nomatch there)⟩

/-- A service never gets stuck. As long as a call is not answered, some step is possible that waits
for nothing, whatever the loader and the model come back with. When nobody calls, the steps of the
service are no more than there is work, so steps that wait for nothing come to an end, and then
every call has been answered; this is so whenever no such step is possible and nobody has gone
away. A worker that is to end is kept waiting only by calls that are not answered. -/
theorem never_stuck {labels : List Label} {events : List Event}
    (run : Run settings (initial settings) labels events s) :
    (s.calls ≠ [] ∨ s.endings ≠ [] → ∀ loaded engine, ∃ label t more,
      label.IsPrompt loaded engine ∧ step settings s label = some (t, more)) ∧
    (∀ later more t, Run settings s later more t →
      (∀ label ∈ later, label.isOwn = true ∨ ∃ time, label = .pass time) →
      later.countP Label.isOwn + t.work ≤ s.work) ∧
    (∀ loaded engine, ∃ later more t, Run settings s later more t ∧
      (∀ label ∈ later, label.IsPrompt loaded engine) ∧ Finished s t more) ∧
    (∀ later more t loaded engine, Run settings s later more t →
      (∀ label ∈ later, label.isPatient = true) → ¬ Moves settings loaded engine t →
      Finished s t more) ∧
    ∀ ending ∈ s.endings, s.handle ≠ some ending.worker ∧
      (s.hasSender ending.worker = true → ∃ call ∈ s.calls, call.sendsTo ending.worker = true) := by
  refine ⟨?_, fun later more t onward quiet => steps_le run onward quiet, ?_,
    fun later more t loaded engine => finished_of_rest run, ?_⟩
  · intro unanswered loaded engine
    obtain ⟨label, prompt, possible⟩ := prompt_of_unanswered run unanswered loaded engine
    obtain ⟨⟨t, more⟩, next⟩ := Option.isSome_iff_exists.1 possible
    exact ⟨label, t, more, prompt, next⟩
  · intro loaded engine
    obtain ⟨later, more, t, onward, prompt, rest⟩ := exists_rest run loaded engine
    have patient := fun label member => (prompt label member).own_patient.2
    exact ⟨later, more, t, onward, prompt, finished_of_rest run onward patient rest⟩
  · intro ending member
    have notHeld := (holders_of_ending run member).2
    exact ⟨notHeld, fun sender => ((hasSender_iff s _).1 sender).resolve_left notHeld⟩

/-- Two calls are not answered, the queue has no room for one of them, and the worker is to end. -/
def fullAndEnding : List Label := fullQueue ++ [.shutDown 7 1000]

/-- A worker that is to end is kept waiting by a call that waits for room, and still some step is
possible that waits for nothing. -/
theorem fullAndEnding_never_stuck :
    ∃ events s, Run roomForOne (initial roomForOne) fullAndEnding events s ∧
      (s.calls ≠ [] ∨ s.endings ≠ []) ∧
      (∀ loaded engine, ∃ label t more, label.IsPrompt loaded engine ∧
        step roomForOne s label = some (t, more)) ∧
      s.handle ≠ some 0 ∧ ∃ call ∈ s.calls, call.sendsTo 0 = true := by
  obtain ⟨events, s, run, unanswered, member, sender⟩ : ∃ events s,
      Run roomForOne (initial roomForOne) fullAndEnding events s ∧ s.endings ≠ [] ∧
        ⟨7, 0, 1000, 1000⟩ ∈ s.endings ∧ s.hasSender 0 = true :=
    ⟨_, _, run_of_stepAll rfl, nofun, List.mem_singleton_self _, rfl⟩
  obtain ⟨prompt, -, -, -, ends⟩ := never_stuck run
  obtain ⟨notHeld, waits⟩ := ends _ member
  exact ⟨events, s, run, .inr unanswered, prompt (.inr unanswered), notHeld, waits sender⟩

end Matryoshka.Service
