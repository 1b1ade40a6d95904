import Matryoshka.Proofs.Service.Accounting
import Matryoshka.Proofs.Service.Tally

/-!
# The end of a worker

A call for the end of a worker takes the handle of the service, so no other call waits for
the same worker (`holders_of_run`). A worker ends only when nobody can send to it any more
and its queue is empty; then it stays as it is (`stopped_of_ended`). So what a call is told
of a worker that has ended is final: the worker has handled all requests that it accepted,
and the number is that of the replies that it sent.
-/

namespace Matryoshka.Service

variable {settings : Settings} {s t : State} {w : WorkerId}

/-! ## Who is told of an end -/

/-- Whether a call is told about the end of a worker. -/
def Event.tellsEnd (w : WorkerId) : Event → Bool
  | .ended _ (some v) _ => v == w
  | _ => false

/-- Whether a call is told how many requests a worker has answered. -/
def Event.tellsCount (w : WorkerId) : Event → Bool
  | .ended _ (some v) (.ok _) => v == w
  | _ => false

/-- How many hold a worker: the service by its handle, and the calls for its end that wait or
have been told. -/
def holders (s : State) (events : List Event) (w : WorkerId) : Nat :=
  (s.handle == some w).toNat + s.endings.countP (fun ending => ending.worker == w) +
    events.countP (Event.tellsEnd w)

/-- No worker is held twice, and none before it is started. -/
def HeldOnce (s : State) (events : List Event) : Prop :=
  ∀ w, holders s events w ≤ if w < s.workers.length then 1 else 0

/-- Removing a call for an end lowers a count at least by what the call counts. -/
theorem countP_removeEnding_le {id : CallId} {ending : Ending}
    (found : s.ending? id = some ending) (p : Ending → Bool) :
    (s.removeEnding id).endings.countP p + (p ending).toNat ≤ s.endings.countP p := by
  have same : ending.id = id := id_of_ending? found
  have member : ending ∈ s.endings := List.mem_of_find?_eq_some found
  simp only [State.removeEnding]
  generalize s.endings = endings at member
  induction endings with
  | nil => cases member
  | cons first endings ih =>
    have rest : (endings.filter fun e => e.id != id).countP p ≤ endings.countP p :=
      List.filter_sublist.countP_le
    rcases List.mem_cons.1 member with rfl | later
    · rw [List.filter_cons_of_neg (by simpa using same), countP_cons_toNat]
      omega
    · have without := ih later
      rw [List.filter_cons, countP_cons_toNat]
      split
      · rw [countP_cons_toNat]
        omega
      · omega

/-- Whether a call for an end is answered. -/
def Event.answersEnding : Event → Bool
  | .ended _ _ _ => true
  | _ => false

/-- Where no call for an end is answered, nobody is told of the end of a worker. -/
theorem countP_tellsEnd_eq_zero {events : List Event}
    (none : ∀ event ∈ events, event.answersEnding = false) :
    events.countP (Event.tellsEnd w) = 0 := by
  rw [List.countP_eq_zero]
  intro event member tells
  have silent := none event member
  cases event with
  | ended => cases silent
  | _ => cases tells

/-- A worker answers no call for an end. -/
theorem WorkerStep.answersEnding_eq {worker worker' : Worker} {move : WorkerMove}
    {v : WorkerId} {counters : Counters} {written : List (Ticket × Letter)} {events : List Event}
    (step : WorkerStep settings s v worker move worker' counters written events) :
    ∀ event ∈ events, event.answersEnding = false := by
  intro event member
  have own := step.worker?_eq event member
  cases event with
  | ended => cases own
  | _ => rfl

/-- Remembering answers no call for an end. -/
theorem answersEnding_of_mem_rememberEvents {text : String} {outcome : ItemOutcome} :
    ∀ event ∈ rememberEvents settings text outcome, event.answersEnding = false := by
  intro event member
  obtain ⟨embedding, rfl⟩ := eq_remembered_of_mem member
  rfl

/-- A caller answers no call for an end. -/
theorem CallerStep.answersEnding_eq {call : Call} {move : CallerMove} {events : List Event}
    (step : CallerStep settings s call move t events) :
    ∀ event ∈ events, event.answersEnding = false := by
  intro event member
  cases step with
  | receive =>
    split at member
    · exact answersEnding_of_mem_rememberEvents event member
    · cases member
  | _ => simp_all [Event.answersEnding]

/-- A step of a caller leaves the handle and the calls for an end alone, and keeps the number
of workers. -/
theorem CallerStep.handle_eq {call : Call} {move : CallerMove} {events : List Event}
    (step : CallerStep settings s call move t events) :
    t.handle = s.handle ∧ t.endings = s.endings ∧ t.workers.length = s.workers.length := by
  cases step with
  | send => exact ⟨rfl, rfl, by simp⟩
  | _ => exact ⟨rfl, rfl, rfl⟩

/-- Only the start of a worker gives it a further holder. -/
theorem holders_le {label : Label} {events more : List Event}
    (transition : Transition settings s label t more) (w : WorkerId) :
    holders t (events ++ more) w ≤
      holders s events w + if s.workers.length = w ∧ w < t.workers.length then 1 else 0 := by
  unfold holders
  rw [List.countP_append]
  cases transition with
  | start nobody =>
    rw [nobody]
    by_cases own : s.workers.length = w
    · simp only [own, BEq.rfl, Bool.toNat_true, Option.none_beq_some, Bool.toNat_false,
        List.countP_nil, List.length_append, List.length_singleton, Nat.lt_add_one, and_self,
        ↓reduceIte]
      omega
    · have other : (some s.workers.length == some w) = false := by simpa using own
      simp [other]
  | shutDown fresh held =>
    simp only [held, List.countP_append, countP_cons_toNat, List.countP_nil, Option.none_beq_some,
      Bool.toNat_false, Option.some_beq_some]
    omega
  | caller found step =>
    obtain ⟨handle, endings, length⟩ := step.handle_eq
    rw [handle, endings, countP_tellsEnd_eq_zero step.answersEnding_eq]
    omega
  | worker found step =>
    rw [countP_tellsEnd_eq_zero step.answersEnding_eq]
    exact Nat.le_add_right _ _
  | finishEnding found known =>
    have removed := countP_removeEnding_le found fun ending => ending.worker == w
    simp only [countP_cons_toNat, List.countP_nil, Event.tellsEnd]
    simp only [State.removeEnding] at removed ⊢
    omega
  | expireEnding found unknown due =>
    have removed := countP_removeEnding_le found fun ending => ending.worker == w
    simp only [countP_cons_toNat, List.countP_nil, Event.tellsEnd]
    simp only [State.removeEnding] at removed ⊢
    omega
  | leaveEnding found =>
    have removed := countP_removeEnding_le found fun ending => ending.worker == w
    simp only [State.removeEnding] at removed ⊢
    simp only [List.countP_nil]
    omega
  | receiveLate =>
    rw [countP_tellsEnd_eq_zero answersEnding_of_mem_rememberEvents]
    exact Nat.le_add_right _ _
  | _ => exact Nat.le_add_right _ _

/-- In every run no worker is held twice. -/
theorem heldOnce_of_run {labels : List Label} {events : List Event}
    (run : Run settings (initial settings) labels events s) : HeldOnce s events := by
  induction run with
  | none => exact fun _ => Nat.zero_le _
  | step before next ih =>
    intro w
    have transition := transition_of_step next
    have later := uses_le (a := 0) (length_workers_le transition) (by simpa using ih w)
      (holders_le transition w)
    simpa using later

/-- The count of a worker is told at most once. -/
theorem countP_tellsCount_le {labels : List Label} {events : List Event}
    (run : Run settings (initial settings) labels events s) (w : WorkerId) :
    events.countP (Event.tellsCount w) ≤ 1 := by
  have once := heldOnce_of_run run w
  have fewer : events.countP (Event.tellsCount w) ≤ events.countP (Event.tellsEnd w) := by
    refine List.countP_mono_left ?_
    intro event _ tells
    unfold Event.tellsCount at tells
    split at tells
    · exact tells
    · cases tells
  unfold holders at once
  split at once <;> omega

/-! ## What is told of an end -/

/-- A worker that has ended says so, and holds no model. -/
theorem status_of_stopped {labels : List Label} {events : List Event} {worker : Worker}
    (run : Run settings (initial settings) labels events s)
    (found : s.workers[w]? = some worker) (stopped : worker.phase = .stopped) :
    worker.status = .stopped ∧ worker.held = none := by
  refine worker_induction (motive := fun _ worker _ => worker.phase = .stopped →
    worker.status = .stopped ∧ worker.held = none) ?_ ?_ ?_ run found stopped
  · exact fun _ => nofun
  · exact fun _ _ _ _ _ ended => ended
  · intro s worker worker' seen more ended change
    cases change with
    | rest => exact ended
    | accept there room => exact ended
    | move step =>
      cases step with
      | stop => exact fun _ => ⟨rfl, rfl⟩
      | unload phase =>
        intro stopped
        rw [phase] at stopped
        cases stopped
      | _ => exact nofun

/-- A call is told a count when the worker has ended and this is its count. -/
theorem stopped_of_told {label : Label} {events : List Event} {id : CallId} {n : Nat}
    (transition : Transition settings s label t events)
    (told : .ended id (some w) (.ok n) ∈ events) :
    ∃ worker, t.workers[w]? = some worker ∧ worker.phase = .stopped ∧ worker.answered = n := by
  cases transition with
  | finishEnding found known =>
    simp only [List.mem_singleton, Event.ended.injEq, Option.some.injEq] at told
    obtain ⟨-, rfl, rfl⟩ := told
    simp only [endingResult?, Option.bind_eq_bind, Option.bind_eq_some_iff] at known
    obtain ⟨worker, there, result⟩ := known
    split at result
    · rename_i stopped
      simp only [Option.some.injEq, Except.ok.injEq] at result
      exact ⟨worker, there, stopped, result⟩
    · cases result
    · cases result
  | caller _ step => cases step.answersEnding_eq _ told
  | worker _ step => cases step.answersEnding_eq _ told
  | receiveLate => cases answersEnding_of_mem_rememberEvents _ told
  | _ => simp at told

/-- What a call is told of a worker that has ended stays true. -/
theorem stopped_of_ended {labels : List Label} {events : List Event} {id : CallId} {n : Nat}
    (run : Run settings (initial settings) labels events s)
    (told : .ended id (some w) (.ok n) ∈ events) :
    ∃ worker, s.workers[w]? = some worker ∧ worker.phase = .stopped ∧ worker.answered = n := by
  induction run with
  | none => cases told
  | step before next ih =>
    have transition := transition_of_step next
    rcases List.mem_append.1 told with earlier | now
    · obtain ⟨worker, found, stopped, count⟩ := ih earlier
      obtain ⟨worker', there, change⟩ := change_of_transition transition found
      obtain rfl := change.eq_of_gone (by rw [Worker.isGone, stopped])
      exact ⟨worker', there, stopped, count⟩
    · exact stopped_of_told transition now

/-- A call that finds no worker is told so, with a count of zero. -/
theorem eq_zero_of_ended_none {labels : List Label} {events : List Event} {id : CallId}
    {result : Except Failure Nat} (run : Run settings (initial settings) labels events s)
    (told : .ended id none result ∈ events) : result = .ok 0 := by
  induction run with
  | none => cases told
  | step before next ih =>
    rcases List.mem_append.1 told with earlier | now
    · exact ih earlier
    · cases transition_of_step next with
      | shutDownNobody =>
        simp only [List.mem_singleton, Event.ended.injEq] at now
        exact now.2.2
      | caller _ step => cases step.answersEnding_eq _ now
      | worker _ step => cases step.answersEnding_eq _ now
      | receiveLate => cases answersEnding_of_mem_rememberEvents _ now
      | _ => simp at now

/-! ## The account of the end -/

/-- A worker that does not reply has sent nothing for the batch in its hands. -/
theorem replies_current_eq_nil {now : Time} {worker : Worker} {ledger : Ledger}
    (balanced : Balanced settings now worker ledger) (silent : worker.phase.isReplying = false) :
    ledger.current.replies = [] := by
  have current_at := balanced.current_at
  cases phase : worker.phase <;> rw [phase] at current_at silent
  case waiting | stopped | crashed =>
    rw [current_eq_of_not_busy balanced (by rw [phase]; rfl)]
  case gathering => rw [current_at.1]
  case checking => exact current_at.2.1
  case loading => exact current_at.2.1
  case computing => exact current_at.2.1
  case replying => cases silent

/-- A worker that does not reply has answered as often as it replied. -/
theorem answered_eq_length {labels : List Label} {events : List Event} {worker : Worker}
    (run : Run settings (initial settings) labels events s)
    (found : s.workers[w]? = some worker) (silent : worker.phase.isReplying = false) :
    worker.answered = (repliesOf w events).length := by
  have balanced := balanced_of_run run found
  have replies : (ledgerOf w events).replies = repliesOf w events :=
    replies_enterAll {} (seenOf w events)
  rw [← replies, Ledger.replies, replies_current_eq_nil balanced silent, List.append_nil]
  exact balanced.answered_eq

/-- Every reply has a vector or a failure. -/
theorem vectorsIn_add_failuresIn (events : List Event) :
    vectorsIn events + failuresIn events = (repliesIn events).length := by
  rw [vectorsIn, failuresIn, List.length_eq_countP_add_countP fun reply => reply.2.isOk]
  simp

/-- While no worker replies, the counters hold what was sent and what was answered. -/
theorem counters_of_silent {labels : List Label} {events : List Event}
    (run : Run settings (initial settings) labels events s)
    (silent : ∀ worker ∈ s.workers, worker.phase.isReplying = false) :
    s.counters.processed = UInt64.ofNat (vectorsIn events) ∧
      s.counters.failed = UInt64.ofNat (failuresIn events) ∧
      s.counters.processed + s.counters.failed =
        UInt64.ofNat (s.workers.map Worker.answered).sum := by
  have tally := tally_of_run run
  have prepaid : (s.workers.map fun worker => worker.phase.prepaid).sum = 0 := by
    refine sum_map_eq_zero fun worker member => ?_
    have none := silent worker member
    cases phase : worker.phase <;> rw [phase] at none <;> first | rfl | cases none
  have sent : s.workers.map Worker.sent = s.workers.map Worker.answered := by
    refine List.map_congr_left fun worker member => ?_
    have none := silent worker member
    rw [Worker.sent]
    cases phase : worker.phase <;> rw [phase] at none <;> first | rfl | cases none
  have failed := tally.failed_eq
  rw [prepaid, Nat.zero_add] at failed
  refine ⟨tally.processed_eq, failed, ?_⟩
  rw [tally.processed_eq, failed, ← UInt64.ofNat_add, vectorsIn_add_failuresIn, ← tally.sent_eq,
    sent]

/-- The end of workers is accounted for. When a call was told a count `n`, its worker has
ended, says so, holds no model and has nothing in its queue; each request that it accepted was
handled in a finished round, and `n` is the number of its replies. The count of a worker is
told at most once, and a call that finds no worker is told zero at once. While no worker
replies to a batch, the counters hold the replies with a vector and those with a failure, and
together, as words of 64 bits, what all workers have answered. -/
theorem shutdown_accounted {labels : List Label} {events : List Event}
    (run : Run settings (initial settings) labels events s) :
    (∀ id w n, .ended id (some w) (.ok n) ∈ events →
      ∃ worker, s.workers[w]? = some worker ∧ worker.phase = .stopped ∧
        worker.status = .stopped ∧ worker.held = none ∧ worker.queue = [] ∧
        (ledgerOf w events).accepted = (ledgerOf w events).rounds.flatMap Round.batch ∧
        (∀ round ∈ (ledgerOf w events).rounds, ∀ request ∈ round.batch,
          Handled settings w events round request) ∧
        n = (repliesOf w events).length) ∧
      (∀ w, events.countP (Event.tellsCount w) ≤ 1) ∧
      (∀ id result, .ended id none result ∈ events → result = .ok 0) ∧
      (∀ id patience t more, s.handle = none →
        step settings s (.shutDown id patience) = some (t, more) →
        t = s ∧ more = [.ended id none (.ok 0)]) ∧
      ((∀ worker ∈ s.workers, worker.phase.isReplying = false) →
        s.counters.processed = UInt64.ofNat (vectorsIn events) ∧
        s.counters.failed = UInt64.ofNat (failuresIn events) ∧
        s.counters.processed + s.counters.failed =
          UInt64.ofNat (s.workers.map Worker.answered).sum ∧
        ∀ w worker, s.workers[w]? = some worker →
          worker.answered = (repliesOf w events).length) := by
  refine ⟨?_, countP_tellsCount_le run, fun _ _ told => eq_zero_of_ended_none run told, ?_, ?_⟩
  · intro id w n told
    obtain ⟨worker, found, stopped, rfl⟩ := stopped_of_ended run told
    obtain ⟨status, held⟩ := status_of_stopped run found stopped
    obtain ⟨queue, accepted⟩ := accepted_of_stopped (balanced_of_run run found) stopped
    exact ⟨worker, found, stopped, status, held, queue, accepted,
      fun round member request inBatch => handled_of_run run found member inBatch,
      answered_eq_length run found (by rw [stopped]; rfl)⟩
  · intro id patience t more nobody next
    cases transition_of_step next with
    | shutDownNobody => exact ⟨rfl, rfl⟩
    | shutDown _ held =>
      rw [nobody] at held
      cases held
  · intro silent
    obtain ⟨processed, failed, sum⟩ := counters_of_silent run silent
    exact ⟨processed, failed, sum, fun w worker found =>
      answered_eq_length run found (silent worker (List.mem_of_getElem? found))⟩

/-- Settings with batches of one request. -/
def oneByOne : Settings := mockSettings 0 7

/-- A worker is let go while a request waits, and ends after the loader broke off. -/
def lastRequest : List Label :=
  [.start, .embed 0 ["a"]] ++ handIn 0 ++
    [.shutDown 7 1000, .worker 0 .take, .worker 0 .closeBatch, .worker 0 .check,
      .worker 0 .proceed, .worker 0 (.finishLoading .aborted), .worker 0 .reply,
      .worker 0 .finishBatch, .worker 0 .stop, .finishEnding 7]

/-- A call for the end of a worker is told of the request that waited when it was made. -/
theorem lastRequest_accounted :
    ∃ events s, Run oneByOne (initial oneByOne) lastRequest events s ∧
      .ended 7 (some 0) (.ok 1) ∈ events ∧
      ∃ worker, s.workers[0]? = some worker ∧ worker.phase = .stopped ∧ worker.held = none ∧
        1 = (repliesOf 0 events).length := by
  obtain ⟨events, s, run, told⟩ : ∃ events s,
      Run oneByOne (initial oneByOne) lastRequest events s ∧
        .ended 7 (some 0) (.ok 1) ∈ events :=
    ⟨_, _, run_of_stepAll rfl, List.mem_of_getElem? (i := 9) rfl⟩
  obtain ⟨worker, found, stopped, -, held, -, -, -, count⟩ :=
    (shutdown_accounted run).1 7 0 1 told
  exact ⟨events, s, run, told, worker, found, stopped, held, count⟩

end Matryoshka.Service
