import Matryoshka.Proofs.Service.Shutdown
import Matryoshka.Service.Work

/-!
# Steps come to an end

Every step of a caller or of a worker, and every answer to a call for an end, leaves less work
(`work_lt`), and the passing of time leaves the work as it is. So when nobody calls and no
worker is started, no more steps are made than there is work (`steps_le`).
-/

namespace Matryoshka.Service

/-- Whether the service makes a step by itself: nobody calls, no worker is started, and it is
not the time that passes. -/
def Label.isOwn : Label → Bool
  | .start | .embed _ _ | .probe _ _ | .shutDown _ _ | .pass _ => false
  | _ => true

/-- The work of several things is a sum. -/
theorem total_eq_sum {α : Type} (work : α → Nat) (things : List α) :
    total work things = (things.map work).sum := by
  induction things with
  | nil => rfl
  | cons thing things ih =>
    rw [List.map_cons, List.sum_cons, ← ih]
    rfl

variable {settings : Settings} {s t : State}

/-! ## Workers -/

/-- A worker that breaks off has no work left. -/
theorem work_broken (worker : Worker) : worker.broken.work = 0 := rfl

/-- A worker that is done with a batch still has to end, or to let go of its model. -/
theorem Done.work_lt {worker : Worker} {move : WorkerMove} {size : Nat}
    (isDone : Done worker move size) : Phase.waiting.work < worker.phase.work := by
  cases isDone with
  | passedOver phase => simp [phase, Phase.work]
  | replied phase => simp [phase, Phase.work]

/-- A step of a worker leaves it less work. -/
theorem WorkerStep.work_lt {w : WorkerId} {worker worker' : Worker} {move : WorkerMove}
    {counters : Counters} {written : List (Ticket × Letter)} {events : List Event}
    (step : WorkerStep settings s w worker move worker' counters written events) :
    worker'.work < worker.work := by
  have held (model : Option Held) : (if model.isSome then 1 else 0) ≤ 1 := by
    split <;> decide
  cases step with
  | take phase waits =>
    simp only [Worker.work, phase, waits, Phase.work, queuedWork, List.length_cons, List.length_nil]
    omega
  | breakOff phase =>
    rw [work_broken, Worker.work, phase, Phase.work]
    omega
  | takeMore phase waits =>
    simp only [Worker.work, phase, waits, Phase.work, queuedWork, List.length_append,
      List.length_cons, List.length_nil]
    omega
  | closeBatch phase =>
    simp only [Worker.work, phase, Phase.work, List.length_nil]
    omega
  | @check live rest request phase =>
    have kept : (if s.isOpen request.ticket then live ++ [request] else live).length ≤
        live.length + 1 := by
      split <;> simp
    simp only [Worker.work, phase, Phase.work, List.length_cons]
    omega
  | compute phase =>
    simp only [Worker.work, phase, Phase.work, List.length_nil]
    omega
  | load phase =>
    simp only [Worker.work, phase, Phase.work, List.length_nil]
    omega
  | loaded phase =>
    have one := held (some ⟨worker.loads + 1, s.now⟩)
    simp only [Worker.work, phase, Phase.work]
    omega
  | loadFails phase =>
    simp only [Worker.work, phase, Phase.work, Labor.failAll, List.length_map]
    omega
  | compute_done phase holds =>
    simp only [Worker.computed, Worker.work, phase, holds, Phase.work, List.length_zip,
      Option.isSome_some, ↓reduceIte]
    omega
  | compute_failed phase holds =>
    simp only [Worker.computed, Worker.work, phase, holds, Phase.work, Labor.failAll,
      List.length_map, Option.isSome_some, ↓reduceIte]
    omega
  | compute_aborted phase holds =>
    simp only [Worker.computed, Worker.work, phase, Phase.work, Labor.failAll, List.length_map,
      Option.isSome_none, Bool.false_eq_true, ↓reduceIte]
    omega
  | reply phase =>
    simp only [Worker.work, phase, Phase.work, List.length_cons]
    omega
  | finish isDone =>
    have less := isDone.work_lt
    simp only [Worker.work]
    omega
  | finishBroken isDone =>
    have less := isDone.work_lt
    rw [show ({ worker.broken with answered := _ } : Worker).work = 0 from rfl]
    simp only [Worker.work]
    omega
  | unload phase holds =>
    simp [Worker.work, holds]
  | stop phase =>
    simp only [Worker.work, phase, Phase.work, Option.isSome_none, Bool.false_eq_true, ↓reduceIte]
    omega

/-! ## Callers -/

/-- The work of a call that settles the text at hand. -/
theorem work_settle (call : Call) (outcome : ItemOutcome) :
    (Caller.settle call outcome).work =
      1 + textWork * call.texts.length + 2 * (call.slots.length + 1) := by
  simp [Caller.settle, Call.work, Stage.work]

/-- The work of a call that collects an outcome. -/
theorem work_collected_add {call : Call} {slot : Slot} {slots : List Slot}
    (next : call.slots = slot :: slots) (outcome : ItemOutcome) :
    (Caller.collected call slots outcome).work + 2 = call.work := by
  simp only [Caller.collected, Call.work, next, List.length_cons]
  omega

/-- There is less work after a call has moved on, if what the call has lost is more than what
the workers and those who wait for a late letter have got. -/
theorem work_lt_of_moved {id : CallId} {call call' : Call} (apart : Apart s.calls)
    (found : s.call? id = some call) (calls : t.calls = s.callsWith call')
    (same : call'.id = call.id) (endings : t.endings = s.endings)
    (less : t.late.length + total Worker.work t.workers + call'.work <
      s.late.length + total Worker.work s.workers + call.work) : t.work < s.work := by
  have sum := sum_callsWith apart found same Call.work
  rw [State.work, State.work, calls, endings, total_eq_sum Call.work, total_eq_sum Call.work]
  omega

/-- There is less work after a call is gone. -/
theorem work_lt_of_gone {id : CallId} {call : Call} (apart : Apart s.calls)
    (found : s.call? id = some call) (calls : t.calls = s.callsWithout call.id)
    (endings : t.endings = s.endings) (late : t.late = s.late) (workers : t.workers = s.workers) :
    t.work < s.work := by
  have sum := sum_callsWithout apart found Call.work
  have positive : 0 < call.work := by
    rw [Call.work]
    omega
  rw [State.work, State.work, calls, endings, late, workers, total_eq_sum Call.work,
    total_eq_sum Call.work]
  omega

/-- A step of a caller leaves less work. -/
theorem CallerStep.work_lt {id : CallId} {call : Call} {move : CallerMove}
    {events : List Event} (apart : Apart s.calls) (found : s.call? id = some call)
    (step : CallerStep settings s call move t events) : t.work < s.work := by
  have settled {text : String} (submitting : call.stage = .submitting text)
      (outcome : ItemOutcome) : (Caller.settle call outcome).work < call.work := by
    rw [work_settle, Call.work, submitting, Stage.work, queuedWork]
    omega
  have refused {w : WorkerId} {request : Request} (sending : call.stage = .sending w request)
      (outcome : ItemOutcome) : (Caller.settle call outcome).work < call.work := by
    rw [work_settle, Call.work, sending, Stage.work, queuedWork]
    omega
  cases step with
  | find handing next =>
    refine work_lt_of_moved apart found rfl rfl rfl (Nat.add_lt_add_left ?_ _)
    rw [work_settle]
    simp only [Call.work, handing, next, List.length_cons, Stage.work, textWork, queuedWork]
    omega
  | miss handing next =>
    refine work_lt_of_moved apart found rfl rfl rfl (Nat.add_lt_add_left ?_ _)
    simp only [Call.work, handing, next, List.length_cons, Stage.work, textWork, queuedWork]
    omega
  | turnedAway submitting =>
    exact work_lt_of_moved apart found rfl rfl rfl (Nat.add_lt_add_left (settled submitting _) _)
  | submit submitting =>
    refine work_lt_of_moved apart found rfl rfl rfl (Nat.add_lt_add_left ?_ _)
    simp only [Call.work, submitting, Stage.work]
    omega
  | shutOut sending =>
    exact work_lt_of_moved apart found rfl rfl rfl (Nat.add_lt_add_left (refused sending _) _)
  | @send w request worker sending there =>
    refine work_lt_of_moved apart found rfl rfl rfl ?_
    have sum := sum_map_set Worker.work there { worker with queue := worker.queue ++ [request] }
    simp only [total_eq_sum, Call.work, Worker.work, sending, Stage.work, queuedWork,
      List.length_append, List.length_singleton] at sum ⊢
    omega
  | giveUp sending =>
    exact work_lt_of_moved apart found rfl rfl rfl (Nat.add_lt_add_left (refused sending _) _)
  | collectSettled collecting next =>
    refine work_lt_of_moved apart found rfl rfl rfl (Nat.add_lt_add_left ?_ _)
    have two := work_collected_add next
    exact Nat.lt_of_lt_of_eq (Nat.lt_add_of_pos_right Nat.two_pos) (two _)
  | receive collecting next =>
    refine work_lt_of_moved apart found rfl rfl rfl (Nat.add_lt_add_left ?_ _)
    have two := work_collected_add next
    exact Nat.lt_of_lt_of_eq (Nat.lt_add_of_pos_right Nat.two_pos) (two _)
  | @expire text ticket slots collecting next =>
    refine work_lt_of_moved apart found rfl rfl rfl ?_
    have less := work_collected_add next (.error (Caller.late settings))
    have one : (if call.cached then s.late ++ [⟨ticket, text⟩] else s.late).length ≤
        s.late.length + 1 := by
      split <;> simp
    simp only
    omega
  | answer => exact work_lt_of_gone apart found rfl rfl rfl rfl
  | leave => exact work_lt_of_gone apart found rfl rfl rfl rfl

/-! ## The service -/

/-- There is less work after a step of a worker. -/
theorem work_afterWorker {w : WorkerId} {worker worker' : Worker} {counters : Counters}
    {written : List (Ticket × Letter)} (found : s.workers[w]? = some worker)
    (less : worker'.work < worker.work) :
    (s.afterWorker w worker' counters written).work < s.work := by
  have sum := sum_map_set Worker.work found worker'
  simp only [State.afterWorker, State.work, total_eq_sum Worker.work] at sum ⊢
  omega

/-- There is less work after a call for an end is answered. -/
theorem work_removeEnding {id : CallId} {ending : Ending} (found : s.ending? id = some ending) :
    (s.removeEnding id).work < s.work := by
  have fewer := countP_removeEnding_le found fun _ => true
  simp only [List.countP_true, Bool.toNat_true] at fewer
  simp only [State.removeEnding, State.work] at fewer ⊢
  omega

/-- A step that a service makes by itself leaves less work. -/
theorem work_lt {label : Label} {events : List Event} (apart : Apart s.calls)
    (transition : Transition settings s label t events) (own : label.isOwn = true) :
    t.work < s.work := by
  cases transition with
  | caller found step => exact step.work_lt apart found
  | worker found step => exact work_afterWorker found step.work_lt
  | @receiveLate ticket l letter awaited arrived =>
    have same := List.find?_some awaited
    have fewer : (s.late.filter fun l => l.ticket != ticket).length < s.late.length :=
      List.length_filter_lt_length_iff_exists.2
        ⟨l, List.mem_of_find?_eq_some awaited, by simpa using same⟩
    simp only [State.work]
    omega
  | finishEnding found => exact work_removeEnding found
  | expireEnding found => exact work_removeEnding found
  | leaveEnding found => exact work_removeEnding found
  | _ => cases own

/-- As long as nobody calls and no worker is started, a service makes no more steps by itself
than there is work. -/
theorem steps_le {labels later : List Label} {events more : List Event}
    (run : Run settings (initial settings) labels events s) (onward : Run settings s later more t)
    (quiet : ∀ label ∈ later, label.isOwn = true ∨ ∃ time, label = .pass time) :
    later.countP Label.isOwn + t.work ≤ s.work := by
  induction onward with
  | none => exact Nat.le_of_eq (Nat.zero_add _)
  | @step u v later more last label onward next ih =>
    have before := ih fun label member => quiet label (List.mem_append_left _ member)
    rw [List.countP_append, countP_cons_toNat, List.countP_nil]
    rcases quiet label (List.mem_append_right _ List.mem_cons_self) with own | ⟨time, rfl⟩
    · have less := work_lt (apart_of_run (run.trans onward)) (transition_of_step next) own
      rw [own, Bool.toNat_true]
      omega
    · cases next
      exact before

end Matryoshka.Service
