import Matryoshka.Proofs.Service.Runs
import Matryoshka.Proofs.Service.WorkerHistory

/-!
# What one worker does

In every step of a service a given worker moves, or it stays as it is but for a request that
enters its queue (`moves_or_waits`). So what a worker does in a run is what is seen in its own
moves (`deedsOf`), and a law about it needs to be checked for these only (`deeds_later`). What it
adds to the counters is by how much they grow in its own moves (`gains`), whatever callers and
other workers do in between.
-/

namespace Matryoshka

/-! ## Growth of counters -/

namespace Counters

/-- Counters together. -/
instance : Add Counters where
  add c d := ⟨c.queueDepth + d.queueDepth, c.processed + d.processed, c.failed + d.failed,
    c.batches + d.batches, c.loads + d.loads, c.idleUnloads + d.idleUnloads⟩

/-- By how much counters have grown. -/
instance : Sub Counters where
  sub c d := ⟨c.queueDepth - d.queueDepth, c.processed - d.processed, c.failed - d.failed,
    c.batches - d.batches, c.loads - d.loads, c.idleUnloads - d.idleUnloads⟩

/-- The counters without the depth of the queue, which callers change as well. -/
def totals (c : Counters) : Counters := { c with queueDepth := 0 }

variable (c d e : Counters)

theorem add_def : c + d = ⟨c.queueDepth + d.queueDepth, c.processed + d.processed,
    c.failed + d.failed, c.batches + d.batches, c.loads + d.loads,
    c.idleUnloads + d.idleUnloads⟩ := rfl

theorem sub_def : c - d = ⟨c.queueDepth - d.queueDepth, c.processed - d.processed,
    c.failed - d.failed, c.batches - d.batches, c.loads - d.loads,
    c.idleUnloads - d.idleUnloads⟩ := rfl

protected theorem add_assoc : c + d + e = c + (d + e) := by
  simp only [add_def, UInt64.add_assoc]

protected theorem add_zero : c + {} = c := by simp [add_def]

protected theorem zero_add : {} + c = c := by simp [add_def]

protected theorem sub_self : c - c = {} := by simp [sub_def]

/-- Growth is added to what was there. -/
protected theorem add_sub_cancel : c + (d - c) = d := by
  have word (x y : UInt64) : x + (y - x) = y := by rw [UInt64.add_comm, UInt64.sub_add_cancel]
  simp only [add_def, sub_def, word]

/-- Totals grow apart from the depth of the queue. -/
theorem totals_add : (c + d).totals = c.totals + d.totals := rfl

end Counters

namespace Service

/-! ## Deeds -/

/-- Whether an event is something that its worker does. -/
def Event.isDeed : Event → Bool
  | .accepted _ _ => false
  | _ => true

/-- What a worker does. -/
def deedsOf (w : WorkerId) (events : List Event) : List Event :=
  (seenOf w events).filter Event.isDeed

/-- What a worker does is done in order. -/
@[simp]
theorem deedsOf_append (w : WorkerId) (events more : List Event) :
    deedsOf w (events ++ more) = deedsOf w events ++ deedsOf w more := by
  rw [deedsOf, seenOf_append, List.filter_append]
  rfl

/-- What a worker is seen to do is among its deeds. -/
theorem mem_deedsOf {w : WorkerId} {events : List Event} {event : Event}
    (own : event.worker? = some w) (deed : event.isDeed = true) :
    event ∈ deedsOf w events ↔ event ∈ events := by
  simp [deedsOf, seenOf, own, deed]

variable {settings : Settings} {s t : State} {labels : List Label} {label : Label}
  {events more : List Event} {w : WorkerId}

/-- Whatever is seen of a step of a worker is a deed of this worker. -/
theorem WorkerStep.deedsOf_eq {worker worker' : Worker} {move : WorkerMove}
    {counters : Counters} {written : List (Ticket × Letter)}
    (step : WorkerStep settings s w worker move worker' counters written events) :
    deedsOf w events = events := by
  rw [deedsOf, seenOf_eq_self step.worker?_eq, List.filter_eq_self]
  cases step with
  | stop => split <;> simp [Event.isDeed]
  | _ => simp [Event.isDeed]

/-- Whether a step is a move of a worker. -/
def Label.isMoveOf (w : WorkerId) : Label → Bool
  | .worker v _ => v == w
  | _ => false

/-- What happens to a worker in a step in which it does not move: at most a request enters its
queue. -/
inductive WorkerWaits (worker : Worker) : Worker → Prop
  /-- Nothing. -/
  | rest : WorkerWaits worker worker
  /-- A request enters its queue. -/
  | accept (request : Request) :
      WorkerWaits worker { worker with queue := worker.queue ++ [request] }

/-- In a step of the service a worker moves, or nothing is seen of it but that a request enters
its queue. -/
theorem moves_or_waits {worker : Worker} (transition : Transition settings s label t events)
    (found : s.workers[w]? = some worker) :
    (∃ move worker' counters written, label = .worker w move ∧
      WorkerStep settings s w worker move worker' counters written events ∧
      t = s.afterWorker w worker' counters written) ∨
      label.isMoveOf w = false ∧ deedsOf w events = [] ∧
        ∃ worker', t.workers[w]? = some worker' ∧ WorkerWaits worker worker' := by
  have waits (still : label.isMoveOf w = false) (silent : ∀ event ∈ events,
      event.worker? = some w → event.isDeed = false)
      (there : ∃ worker', t.workers[w]? = some worker' ∧ WorkerWaits worker worker') :
      label.isMoveOf w = false ∧ deedsOf w events = [] ∧
        ∃ worker', t.workers[w]? = some worker' ∧ WorkerWaits worker worker' := by
    refine ⟨still, ?_, there⟩
    rw [deedsOf, seenOf, List.filter_filter, List.filter_eq_nil_iff]
    simpa using fun event member deed own => by simp [silent event member own] at deed
  cases transition with
  | start =>
    refine .inr (waits rfl (by simp) ⟨worker, ?_, .rest⟩)
    rw [List.getElem?_append_left (List.getElem?_eq_some_iff.1 found).1, found]
  | caller _ step =>
    right
    cases step with
    | @send v request receiver sending there =>
      refine waits rfl (by simp [Event.isDeed]) ?_
      by_cases same : v = w
      · subst same
        rw [there] at found
        cases found
        exact ⟨_, List.getElem?_set_self (List.getElem?_eq_some_iff.1 there).1, .accept request⟩
      · exact ⟨worker, by rw [List.getElem?_set_ne same, found], .rest⟩
    | receive =>
      refine waits rfl ?_ ⟨worker, found, .rest⟩
      intro event member own
      split at member
      · rw [worker?_of_mem_rememberEvents member] at own
        cases own
      · cases member
    | _ => exact waits rfl (by simp [Event.worker?]) ⟨worker, found, .rest⟩
  | receiveLate =>
    refine .inr (waits rfl ?_ ⟨worker, found, .rest⟩)
    intro event member own
    rw [worker?_of_mem_rememberEvents member] at own
    cases own
  | @worker v move mover worker' counters written events there step =>
    by_cases same : v = w
    · subst same
      rw [there] at found
      cases found
      exact .inl ⟨_, _, _, _, rfl, step, rfl⟩
    · refine .inr (waits (by simpa [Label.isMoveOf] using same) ?_ ⟨worker, ?_, .rest⟩)
      · intro event member own
        rw [step.worker?_eq event member] at own
        exact absurd (Option.some.inj own) same
      · rw [State.afterWorker, List.getElem?_set_ne same, found]
  | _ => exact .inr (waits rfl (by simp [Event.worker?]) ⟨worker, found, .rest⟩)

/-- What holds of a worker that has done nothing yet, and is kept by each of its moves and while it
waits, holds of what it has done in a run. -/
theorem deeds_later {motive : Worker → List Event → Prop} {worker : Worker}
    (waits : ∀ worker worker' deeds, motive worker deeds → WorkerWaits worker worker' →
      motive worker' deeds)
    (moves : ∀ s worker worker' move counters written deeds more, motive worker deeds →
      WorkerStep settings s w worker move worker' counters written more →
      motive worker' (deeds ++ more))
    (run : Run settings s labels events t) (found : s.workers[w]? = some worker)
    (start : motive worker []) :
    ∃ worker', t.workers[w]? = some worker' ∧ motive worker' (deedsOf w events) := by
  induction run with
  | none => exact ⟨worker, found, start⟩
  | step _ next ih =>
    obtain ⟨before, there, holds⟩ := ih
    rw [deedsOf_append]
    rcases moves_or_waits (transition_of_step next) there with
      ⟨move, after, counters, written, rfl, step, rfl⟩ | ⟨still, silent, after, same, waiting⟩
    · rw [step.deedsOf_eq]
      exact ⟨after, List.getElem?_set_self (List.getElem?_eq_some_iff.1 there).1,
        moves _ _ _ _ _ _ _ _ holds step⟩
    · rw [silent, List.append_nil]
      exact ⟨after, same, waits _ _ _ holds waiting⟩

/-! ## What a worker adds to the counters -/

/-- By how much the counters grow in the moves of a worker, from a state on. -/
def gains (settings : Settings) (w : WorkerId) : State → List Label → Counters
  | _, [] => {}
  | s, label :: labels =>
    match step settings s label with
    | none => {}
    | some (t, _) =>
      (if label.isMoveOf w then t.counters - s.counters else {}) + gains settings w t labels

/-- What a worker adds in a step is added to what it adds later. -/
theorem gains_cons {u : State} (next : step settings t label = some (u, more))
    (later : List Label) : gains settings w t (label :: later) =
      (if label.isMoveOf w then u.counters - t.counters else {}) + gains settings w u later := by
  rw [gains, next]

/-- What a worker adds after a run is added to what it has added in the run. -/
theorem gains_append (run : Run settings s labels events t) (later : List Label) :
    gains settings w s (labels ++ later) =
      gains settings w s labels + gains settings w t later := by
  induction run generalizing later with
  | none => exact (Counters.zero_add _).symm
  | @step u v _ _ _ _ _ next ih =>
    have nothing : gains settings w v [] = {} := rfl
    rw [List.append_assoc, List.singleton_append, ih, ih, gains_cons next, gains_cons next,
      nothing, Counters.add_zero, Counters.add_assoc]

/-- What a worker has added after one more step. -/
theorem gains_step (run : Run settings s labels events t) {u : State}
    (next : step settings t label = some (u, more)) :
    gains settings w s (labels ++ [label]) = gains settings w s labels +
      if label.isMoveOf w then u.counters - t.counters else {} := by
  rw [gains_append run, gains_cons next, gains, Counters.add_zero]

/-- Only workers change the totals. -/
theorem totals_eq (transition : Transition settings s label t events)
    (others : ∀ v move, label ≠ .worker v move) : t.counters.totals = s.counters.totals := by
  cases transition with
  | caller _ step => cases step <;> rfl
  | worker => exact absurd rfl (others _ _)
  | _ => rfl

/-- As long as no other worker moves, the totals grow by what a worker adds. -/
theorem totals_eq_gains (run : Run settings s labels events t)
    (alone : ∀ v move, .worker v move ∈ labels → v = w) :
    t.counters.totals = (s.counters + gains settings w s labels).totals := by
  induction run with
  | none => rw [gains, Counters.add_zero]
  | @step u v labels _ more label run next ih =>
    have before := ih fun v move member => alone v move (List.mem_append_left _ member)
    rw [gains_step run next]
    cases own : label.isMoveOf w with
    | true =>
      rw [if_pos rfl, ← Counters.add_assoc, Counters.totals_add, ← before, ← Counters.totals_add,
        Counters.add_sub_cancel]
    | false =>
      rw [if_neg Bool.false_ne_true, Counters.add_zero, ← before]
      refine totals_eq (transition_of_step next) fun v move same => ?_
      subst same
      have same := alone v move (List.mem_append_right _ List.mem_cons_self)
      simp [Label.isMoveOf, same] at own

end Service

end Matryoshka
