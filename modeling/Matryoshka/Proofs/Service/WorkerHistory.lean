import Matryoshka.Proofs.Service.Calls

/-!
# The history of a worker

What is seen of one worker in a run is a history of its own: it is started fresh, requests
enter its queue as long as somebody reads it, and it moves (`WorkerChange`). A law that ties
a worker to what was seen of it holds in every run if it holds of a fresh worker and every
such change keeps it (`worker_induction`).
-/

namespace Matryoshka.Service

/-- The worker that an event is about. -/
def Event.worker? : Event → Option WorkerId
  | .accepted w _ | .taken w _ | .gathered w _ | .checked w _ _ | .loaded w _
  | .computed w _ _ _ | .released w _ | .replied w _ _ | .finished w _ | .stopped w
  | .crashed w _ => some w
  | .answered _ _ | .left _ _ | .ended _ _ _ | .lookedUp _ _ _ | .remembered _ _ => none

/-- What is seen of a worker. -/
def seenOf (w : WorkerId) (events : List Event) : List Event :=
  events.filter fun event => event.worker? = some w

/-- What is seen of a worker is seen in order. -/
@[simp]
theorem seenOf_append (w : WorkerId) (events more : List Event) :
    seenOf w (events ++ more) = seenOf w events ++ seenOf w more :=
  List.filter_append ..

/-- Events that are all about a worker are all seen of it. -/
theorem seenOf_eq_self {w : WorkerId} {events : List Event}
    (own : ∀ event ∈ events, event.worker? = some w) : seenOf w events = events := by
  simpa [seenOf] using own

/-- Events that are not about a worker are not seen of it. -/
theorem seenOf_eq_nil {w : WorkerId} {events : List Event}
    (others : ∀ event ∈ events, event.worker? ≠ some w) : seenOf w events = [] := by
  simpa [seenOf] using others

/-- What may happen to a worker in one step of the service. -/
inductive WorkerChange (settings : Settings) (s : State) (w : WorkerId) (worker : Worker) :
    Worker → List Event → Prop
  /-- Nothing. -/
  | rest : WorkerChange settings s w worker worker []
  /-- A request enters its queue. -/
  | accept {request : Request} (there : worker.isGone = false)
      (room : worker.queue.length < settings.queueCapacity) :
      WorkerChange settings s w worker { worker with queue := worker.queue ++ [request] }
        [.accepted w request]
  /-- It moves. -/
  | move {move : WorkerMove} {worker' : Worker} {counters : Counters}
      {written : List (Ticket × Letter)} {events : List Event}
      (step : WorkerStep settings s w worker move worker' counters written events) :
      WorkerChange settings s w worker worker' events

variable {settings : Settings} {s t : State} {w : WorkerId}

/-- Remembering is about no worker. -/
theorem worker?_of_mem_rememberEvents {text : String} {outcome : ItemOutcome} {event : Event}
    (member : event ∈ rememberEvents settings text outcome) : event.worker? = none := by
  obtain ⟨embedding, rfl⟩ := eq_remembered_of_mem member
  rfl

/-- The events of a step of a worker are about this worker. -/
theorem WorkerStep.worker?_eq {worker worker' : Worker} {move : WorkerMove} {counters : Counters}
    {written : List (Ticket × Letter)} {events : List Event}
    (step : WorkerStep settings s w worker move worker' counters written events) :
    ∀ event ∈ events, event.worker? = some w := by
  cases step with
  | stop => split <;> simp [Event.worker?]
  | _ => simp [Event.worker?]

/-- A worker that is there after one of the workers was replaced. -/
theorem getElem?_set_cases {workers : List Worker} {v : WorkerId} {worker worker' : Worker}
    (found : (workers.set v worker')[w]? = some worker) :
    (v = w ∧ worker = worker') ∨ (v ≠ w ∧ workers[w]? = some worker) := by
  by_cases same : v = w
  · subst same
    rw [List.getElem?_set_self'] at found
    left
    cases there : workers[v]? with
    | none => simp [there] at found
    | some before =>
      simp only [there, Option.map_eq_map, Option.map_some, Option.some.injEq] at found
      exact ⟨rfl, found.symm⟩
  · rw [List.getElem?_set_ne same] at found
    exact .inr ⟨same, found⟩

/-- A step of a caller changes a worker only by sending to it. -/
theorem worker_of_callerStep {call : Call} {move : CallerMove} {events : List Event}
    {worker' : Worker} (step : CallerStep settings s call move t events)
    (found : t.workers[w]? = some worker') :
    ∃ worker, s.workers[w]? = some worker ∧
      WorkerChange settings s w worker worker' (seenOf w events) := by
  cases step with
  | @send v request worker sending there present room =>
    rcases getElem?_set_cases found with ⟨rfl, rfl⟩ | ⟨other, same⟩
    · have seen : seenOf v [.accepted v request] = [.accepted v request] :=
        seenOf_eq_self (by simp [Event.worker?])
      rw [seen]
      exact ⟨worker, there, .accept present room⟩
    · have seen : seenOf w [.accepted v request] = [] :=
        seenOf_eq_nil (by simpa [Event.worker?] using other)
      rw [seen]
      exact ⟨worker', same, .rest⟩
  | receive =>
    refine ⟨worker', found, ?_⟩
    rw [seenOf_eq_nil ?_]
    · exact .rest
    · intro event member
      split at member
      · simp [worker?_of_mem_rememberEvents member]
      · cases member
  | _ =>
    refine ⟨worker', found, ?_⟩
    rw [seenOf_eq_nil (by simp [Event.worker?])]
    exact .rest

/-- A worker is there after a step because it was just started, or it was there before. -/
theorem worker_of_transition {label : Label} {events : List Event} {worker' : Worker}
    (transition : Transition settings s label t events)
    (found : t.workers[w]? = some worker') :
    (s.workers[w]? = none ∧ worker' = {} ∧ seenOf w events = []) ∨
      ∃ worker, s.workers[w]? = some worker ∧
        WorkerChange settings s w worker worker' (seenOf w events) := by
  cases transition with
  | start =>
    cases there : s.workers[w]? with
    | some worker =>
      have inside : w < s.workers.length := (List.getElem?_eq_some_iff.1 there).1
      rw [List.getElem?_append_left inside, there] at found
      cases found
      exact .inr ⟨worker', rfl, .rest⟩
    | none =>
      have outside : s.workers.length ≤ w := List.getElem?_eq_none_iff.1 there
      rw [List.getElem?_append_right outside] at found
      have fresh : worker' = {} := by
        cases place : w - s.workers.length <;> simp [place] at found
        exact found.symm
      exact .inl ⟨rfl, fresh, rfl⟩
  | caller _ step => exact .inr (worker_of_callerStep step found)
  | @worker v move worker _ counters written events there step =>
    rcases getElem?_set_cases found with ⟨rfl, rfl⟩ | ⟨other, same⟩
    · rw [seenOf_eq_self step.worker?_eq]
      exact .inr ⟨worker, there, .move step⟩
    · have seen : seenOf w events = [] := by
        refine seenOf_eq_nil ?_
        intro event member
        rw [step.worker?_eq event member]
        simpa using other
      rw [seen]
      exact .inr ⟨worker', same, .rest⟩
  | receiveLate =>
    refine .inr ⟨worker', found, ?_⟩
    rw [seenOf_eq_nil fun event member => by simp [worker?_of_mem_rememberEvents member]]
    exact .rest
  | _ =>
    refine .inr ⟨worker', found, ?_⟩
    rw [seenOf_eq_nil (by simp [Event.worker?])]
    exact .rest

/-- What a caller does is seen of a worker only if the worker is there. -/
theorem present_of_callerStep {call : Call} {move : CallerMove} {events : List Event}
    (step : CallerStep settings s call move t events) {event : Event} (member : event ∈ events)
    (own : event.worker? = some w) : ∃ worker, s.workers[w]? = some worker := by
  cases step with
  | send _ found =>
    obtain rfl := List.mem_singleton.1 member
    cases own
    exact ⟨_, found⟩
  | receive =>
    split at member
    · rw [worker?_of_mem_rememberEvents member] at own
      cases own
    · cases member
  | _ => simp_all [Event.worker?]

/-- What is seen of a worker is seen of a worker that is there. -/
theorem present_of_mem {label : Label} {events : List Event}
    (transition : Transition settings s label t events) {event : Event} (member : event ∈ events)
    (own : event.worker? = some w) : ∃ worker, s.workers[w]? = some worker := by
  cases transition with
  | caller _ step => exact present_of_callerStep step member own
  | worker found step =>
    rw [step.worker?_eq event member] at own
    cases own
    exact ⟨_, found⟩
  | receiveLate =>
    rw [worker?_of_mem_rememberEvents member] at own
    cases own
  | _ => simp_all [Event.worker?]

/-- Workers never vanish. -/
theorem length_workers_le {label : Label} {events : List Event}
    (transition : Transition settings s label t events) :
    s.workers.length ≤ t.workers.length := by
  cases transition with
  | start => simp
  | caller _ step =>
    cases step with
    | send => simp
    | _ => exact Nat.le_refl _
  | worker => simp [State.afterWorker]
  | _ => exact Nat.le_refl _

/-- A worker that is there stays there, and changes as a worker may. -/
theorem change_of_transition {label : Label} {events : List Event} {worker : Worker}
    (transition : Transition settings s label t events) (found : s.workers[w]? = some worker) :
    ∃ worker', t.workers[w]? = some worker' ∧
      WorkerChange settings s w worker worker' (seenOf w events) := by
  have inside : w < t.workers.length :=
    Nat.lt_of_lt_of_le (List.getElem?_eq_some_iff.1 found).1 (length_workers_le transition)
  have there : t.workers[w]? = some t.workers[w] := List.getElem?_eq_getElem inside
  rcases worker_of_transition transition there with ⟨absent, -, -⟩ | ⟨before, same, change⟩
  · rw [found] at absent
    cases absent
  · rw [found] at same
    cases same
    exact ⟨_, there, change⟩

/-- A worker that moves is there. -/
theorem WorkerStep.isGone_eq {worker worker' : Worker} {move : WorkerMove} {counters : Counters}
    {written : List (Ticket × Letter)} {events : List Event}
    (step : WorkerStep settings s w worker move worker' counters written events) :
    worker.isGone = false := by
  cases step with
  | finish isDone => cases isDone <;> simp [Worker.isGone, *]
  | finishBroken isDone => cases isDone <;> simp [Worker.isGone, *]
  | _ => simp [Worker.isGone, *]

/-- Nothing happens to a worker that is gone. -/
theorem WorkerChange.eq_of_gone {worker worker' : Worker} {events : List Event}
    (change : WorkerChange settings s w worker worker' events) (gone : worker.isGone = true) :
    worker' = worker := by
  cases change with
  | rest => rfl
  | accept there room =>
    rw [gone] at there
    cases there
  | move step =>
    rw [step.isGone_eq] at gone
    cases gone

/-- What is seen of a worker, other than that it accepts a request, is seen when it moves. -/
theorem workerStep_of_mem {label : Label} {events : List Event} {event : Event}
    (transition : Transition settings s label t events) (member : event ∈ events)
    (own : event.worker? = some w) (moves : ∀ request, event ≠ .accepted w request) :
    ∃ move worker worker' counters written, label = .worker w move ∧
      s.workers[w]? = some worker ∧
      WorkerStep settings s w worker move worker' counters written events ∧
      t = s.afterWorker w worker' counters written := by
  cases transition with
  | caller _ step =>
    cases step with
    | send =>
      obtain rfl := List.mem_singleton.1 member
      cases own
      exact absurd rfl (moves _)
    | receive =>
      split at member
      · rw [worker?_of_mem_rememberEvents member] at own
        cases own
      · cases member
    | _ => simp_all [Event.worker?]
  | worker found step =>
    rw [step.worker?_eq event member] at own
    cases own
    exact ⟨_, _, _, _, _, rfl, found, step, rfl⟩
  | receiveLate =>
    rw [worker?_of_mem_rememberEvents member] at own
    cases own
  | _ => simp_all [Event.worker?]

/-- A worker does something else than before only when it moves. -/
theorem phase_eq_or_workerStep {label : Label} {events : List Event} {worker worker' : Worker}
    (transition : Transition settings s label t events) (found : s.workers[w]? = some worker)
    (there : t.workers[w]? = some worker') :
    worker'.phase = worker.phase ∨ ∃ move counters written, label = .worker w move ∧
      WorkerStep settings s w worker move worker' counters written events := by
  have same (before : t.workers = s.workers) : worker'.phase = worker.phase := by
    rw [before, found] at there
    cases there
    rfl
  cases transition with
  | start =>
    rw [List.getElem?_append_left (List.getElem?_eq_some_iff.1 found).1, found] at there
    cases there
    exact .inl rfl
  | caller _ step =>
    left
    cases step with
    | send _ receiver =>
      rcases getElem?_set_cases there with ⟨rfl, rfl⟩ | ⟨-, unchanged⟩
      · rw [receiver] at found
        cases found
        rfl
      · rw [unchanged] at found
        cases found
        rfl
    | _ => exact same rfl
  | worker moving step =>
    rcases getElem?_set_cases there with ⟨rfl, rfl⟩ | ⟨-, unchanged⟩
    · rw [moving] at found
      cases found
      exact .inr ⟨_, _, _, rfl, step⟩
    · rw [unchanged] at found
      cases found
      exact .inl rfl
  | _ => exact .inl (same rfl)

/-- What every change of a worker keeps is kept in every later run. -/
theorem worker_later {motive : Worker → Prop}
    (keep : ∀ s worker worker' events, motive worker →
      WorkerChange settings s w worker worker' events → motive worker')
    {labels : List Label} {events : List Event} {worker : Worker}
    (run : Run settings s labels events t) (found : s.workers[w]? = some worker)
    (holds : motive worker) : ∃ worker', t.workers[w]? = some worker' ∧ motive worker' := by
  induction run with
  | none => exact ⟨worker, found, holds⟩
  | step _ next ih =>
    obtain ⟨before, there, kept⟩ := ih
    obtain ⟨after, still, change⟩ := change_of_transition (transition_of_step next) there
    exact ⟨after, still, keep _ _ _ _ kept change⟩

/-- Nothing happens in a run to a worker that is gone. -/
theorem stays_of_isGone {labels : List Label} {events : List Event} {worker : Worker}
    (run : Run settings s labels events t) (found : s.workers[w]? = some worker)
    (gone : worker.isGone = true) : t.workers[w]? = some worker := by
  obtain ⟨after, there, same⟩ := worker_later (motive := (· = worker))
    (fun _ _ _ _ same change => same ▸ change.eq_of_gone (same ▸ gone)) run found rfl
  rw [there, same]

/-- Time never goes back. -/
theorem now_le {label : Label} {events : List Event}
    (transition : Transition settings s label t events) : s.now ≤ t.now := by
  cases transition with
  | caller _ step => cases step <;> exact Nat.le_refl _
  | pass time => exact Nat.le_add_right _ _
  | _ => exact Nat.le_refl _

/-- Nothing is seen of a worker that was never started. -/
theorem seenOf_eq_nil_of_run {labels : List Label} {events : List Event}
    (run : Run settings (initial settings) labels events s) (absent : s.workers[w]? = none) :
    seenOf w events = [] := by
  induction run with
  | none => rfl
  | step _ next ih =>
    have transition := transition_of_step next
    rw [List.getElem?_eq_none_iff] at absent ih
    have outside := Nat.le_trans (length_workers_le transition) absent
    have now : seenOf w _ = [] := seenOf_eq_nil fun event member own => by
      obtain ⟨worker, there⟩ := present_of_mem transition member own
      rw [List.getElem?_eq_none_iff.2 outside] at there
      cases there
    rw [seenOf_append, ih outside, now, List.append_nil]

/-- A law between the time, a worker and what was seen of the worker holds in every run, if
it holds of a fresh worker and is kept by the passing of time and by every change of the
worker. -/
theorem worker_induction {motive : Time → Worker → List Event → Prop}
    (fresh : ∀ now, motive now {} [])
    (later : ∀ now after worker seen, now ≤ after → motive now worker seen →
      motive after worker seen)
    (change : ∀ s worker worker' seen more, motive s.now worker seen →
      WorkerChange settings s w worker worker' more → motive s.now worker' (seen ++ more))
    {labels : List Label} {events : List Event} {worker : Worker}
    (run : Run settings (initial settings) labels events s)
    (found : s.workers[w]? = some worker) : motive s.now worker (seenOf w events) := by
  induction run generalizing worker with
  | none => simp [initial] at found
  | step before next ih =>
    have transition := transition_of_step next
    rw [seenOf_append]
    refine later _ _ _ _ (now_le transition) ?_
    rcases worker_of_transition transition found with ⟨absent, rfl, seen⟩ | ⟨worker, there, changed⟩
    · rw [seen, seenOf_eq_nil_of_run before absent]
      exact fresh _
    · exact change _ _ _ _ _ (ih there) changed

end Matryoshka.Service
