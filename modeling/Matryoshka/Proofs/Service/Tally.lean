import Mathlib.Algebra.Ring.Nat
import Matryoshka.Proofs.Service.Ledger

/-!
# What the counters say about replies

The counters of a service count replies with a vector and replies with a failure. A worker
counts a reply when it sends it, except that it counts the failures of a batch without a
model all at once, before it sends them. So at any moment the counters hold the replies that
were sent and those counted in advance (`Tally`), and between batches the replies sent are
what the workers say they have answered.
-/

namespace Matryoshka.Service

/-! ## Sums over workers -/

/-- Replacing a worker changes a sum over all workers by what the worker adds before and
after. -/
theorem sum_map_set (f : Worker → Nat) {workers : List Worker} {w : WorkerId}
    {worker : Worker} (found : workers[w]? = some worker) (worker' : Worker) :
    ((workers.set w worker').map f).sum + f worker = (workers.map f).sum + f worker' := by
  induction workers generalizing w with
  | nil => cases found
  | cons first workers ih =>
    cases w with
    | zero =>
      obtain rfl : first = worker := Option.some.inj found
      simp only [List.set_cons_zero, List.map_cons, List.sum_cons]
      omega
    | succ w =>
      have rest := ih (w := w) found
      simp only [List.set_cons_succ, List.map_cons, List.sum_cons]
      omega

/-- A sum over all workers does not change when a worker is replaced that adds the same. -/
theorem sum_map_set_of_eq {f : Worker → Nat} {workers : List Worker} {w : WorkerId}
    {worker worker' : Worker} (found : workers[w]? = some worker) (same : f worker' = f worker) :
    ((workers.set w worker').map f).sum = (workers.map f).sum := by
  have sum := sum_map_set f found worker'
  omega

/-- A sum over all workers is zero when each of them adds nothing. -/
theorem sum_map_eq_zero {f : Worker → Nat} {workers : List Worker}
    (none : ∀ worker ∈ workers, f worker = 0) : (workers.map f).sum = 0 := by
  induction workers with
  | nil => rfl
  | cons first workers ih =>
    rw [List.map_cons, List.sum_cons, none first List.mem_cons_self,
      ih fun worker member => none worker (List.mem_cons_of_mem _ member)]

/-! ## Replies -/

/-- The replies that are sent. -/
def repliesIn (events : List Event) : List (Request × ItemOutcome) :=
  events.filterMap fun
    | .replied _ request outcome => some (request, outcome)
    | _ => none

/-- How many replies with a vector are sent. -/
def vectorsIn (events : List Event) : Nat :=
  (repliesIn events).countP fun reply => reply.2.isOk

/-- How many replies with a failure are sent. -/
def failuresIn (events : List Event) : Nat :=
  (repliesIn events).countP fun reply => !reply.2.isOk

/-- The replies that a worker sends. -/
def repliesOf (w : WorkerId) (events : List Event) : List (Request × ItemOutcome) :=
  repliesIn (seenOf w events)

/-- Replies are sent in order. -/
theorem repliesIn_append (events more : List Event) :
    repliesIn (events ++ more) = repliesIn events ++ repliesIn more :=
  List.filterMap_append ..

/-- The ledger of a worker holds its replies. -/
theorem replies_enterAll (ledger : Ledger) (events : List Event) :
    (ledger.enterAll events).replies = ledger.replies ++ repliesIn events := by
  induction events generalizing ledger with
  | nil => simp [Ledger.enterAll, repliesIn]
  | cons event events ih =>
    have rest := ih (ledger.enter event)
    cases event <;>
      simp_all [Ledger.enterAll, Ledger.enter, Ledger.replies, repliesIn, List.append_assoc]

/-! ## Replies of workers -/

/-- Whether a worker replies to a batch. -/
def Phase.isReplying : Phase → Bool
  | .replying _ _ _ => true
  | _ => false

/-- The replies that a worker has sent for the batch in its hands. -/
def Phase.sent : Phase → Nat
  | .replying pending _ size => size - pending.length
  | _ => 0

/-- The replies that a worker has counted and not sent. -/
def Phase.prepaid : Phase → Nat
  | .replying pending true _ => pending.length
  | _ => 0

/-- All replies that a worker has sent. -/
def Worker.sent (worker : Worker) : Nat := worker.answered + worker.phase.sent

/-- No reply is pending beyond the size of the batch, and replies counted in advance are
failures. -/
def Phase.Sound : Phase → Prop
  | .replying pending counted size =>
    pending.length ≤ size ∧ (counted = true → ∀ reply ∈ pending, reply.2.isOk = false)
  | _ => True

variable {settings : Settings} {s : State} {w : WorkerId} {worker worker' : Worker}

/-- Every step of a worker leaves its phase sound. -/
theorem Phase.Sound.step {move : WorkerMove} {counters : Counters}
    {written : List (Ticket × Letter)} {events : List Event} (sound : worker.phase.Sound)
    (step : WorkerStep settings s w worker move worker' counters written events) :
    worker'.phase.Sound := by
  cases step with
  | loadFails phase fails =>
    refine ⟨by simp [Labor.failAll], ?_⟩
    intro _ reply member
    simp only [Labor.failAll, List.mem_map] at member
    obtain ⟨request, -, rfl⟩ := member
    rfl
  | compute_done phase holds outcome =>
    refine ⟨?_, fun counted => by cases counted⟩
    rw [List.length_zip]
    exact Nat.min_le_left _ _
  | compute_failed phase holds outcome =>
    exact ⟨by simp [Labor.failAll], fun counted => by cases counted⟩
  | compute_aborted phase holds outcome =>
    exact ⟨by simp [Labor.failAll], fun counted => by cases counted⟩
  | reply phase =>
    rw [phase] at sound
    refine ⟨Nat.le_of_succ_le sound.1, ?_⟩
    intro counted reply member
    exact sound.2 counted reply (List.mem_cons_of_mem _ member)
  | unload phase holds asked due idle sender => exact sound
  | _ => exact trivial

/-- In every run the phases of all workers are sound. -/
theorem sound_of_run {labels : List Label} {events : List Event}
    (run : Run settings (initial settings) labels events s)
    (found : s.workers[w]? = some worker) : worker.phase.Sound := by
  refine worker_induction (motive := fun _ worker _ => worker.phase.Sound) ?_ ?_ ?_ run found
  · exact fun _ => trivial
  · exact fun _ _ _ _ _ sound => sound
  · intro s worker worker' seen more sound change
    cases change with
    | rest => exact sound
    | accept there room => exact sound
    | move step => exact sound.step step

/-- What a worker sends and what the counters say change together. -/
structure CountsRight (worker worker' : Worker) (before after : Counters)
    (events : List Event) : Prop where
  /-- The worker has sent the replies that are seen. -/
  sent_eq : worker'.sent = worker.sent + (repliesIn events).length
  /-- Those with a vector are counted. -/
  processed_eq : after.processed = before.processed + UInt64.ofNat (vectorsIn events)
  /-- Failures are counted when they are sent or in advance. -/
  failed_eq : ∃ counted, after.failed = before.failed + UInt64.ofNat counted ∧
    worker.phase.prepaid + counted = worker'.phase.prepaid + failuresIn events

/-- A step that sends nothing and counts nothing. -/
theorem CountsRight.silent {before after : Counters} {events : List Event}
    (answered : worker'.answered = worker.answered)
    (sent : worker'.phase.sent = worker.phase.sent)
    (prepaid : worker'.phase.prepaid = worker.phase.prepaid) (none : repliesIn events = [])
    (processed : after.processed = before.processed) (failed : after.failed = before.failed) :
    CountsRight worker worker' before after events where
  sent_eq := by rw [Worker.sent, Worker.sent, answered, sent, none, List.length_nil, Nat.add_zero]
  processed_eq := by
    rw [vectorsIn, none, processed]
    exact (UInt64.add_zero _).symm
  failed_eq := ⟨0, by rw [failed]; exact (UInt64.add_zero _).symm, by
    rw [failuresIn, none, prepaid]
    rfl⟩

/-- Being done with a batch, a worker adds its replies to those of earlier batches. -/
theorem CountsRight.finish {move : WorkerMove} {size : Nat} {counters : Counters}
    {events : List Event} (isDone : Done worker move size)
    (answered : worker'.answered = worker.answered + size)
    (free : worker'.phase = .waiting ∨ worker'.phase = .crashed) (none : repliesIn events = []) :
    CountsRight worker worker' counters counters events := by
  have sent' : worker'.phase.sent = 0 ∧ worker'.phase.prepaid = 0 := by
    rcases free with phase | phase <;> rw [phase] <;> exact ⟨rfl, rfl⟩
  have sent : worker.phase.sent = size ∧ worker.phase.prepaid = 0 := by
    cases isDone with
    | passedOver phase => rw [phase]; exact ⟨rfl, rfl⟩
    | @replied counted _ phase =>
      rw [phase]
      cases counted <;> exact ⟨rfl, rfl⟩
  refine ⟨?_, ?_, 0, (UInt64.add_zero _).symm, ?_⟩
  · rw [Worker.sent, Worker.sent, answered, sent.1, sent'.1, none]
    rfl
  · rw [vectorsIn, none]
    exact (UInt64.add_zero _).symm
  · rw [sent.2, sent'.2, failuresIn, none]
    rfl

/-- Replying, a worker counts the reply unless it was counted in advance. -/
theorem CountsRight.reply {request : Request} {outcome : ItemOutcome}
    {replies : List (Request × ItemOutcome)} {counted : Bool} {size : Nat}
    (phase : worker.phase = .replying ((request, outcome) :: replies) counted size)
    (sound : worker.phase.Sound) :
    CountsRight worker { worker with phase := .replying replies counted size } s.counters
      (if counted then s.counters else (Labor.countReply s outcome).counters)
      [.replied w request outcome] := by
  rw [phase] at sound
  obtain ⟨room, failures⟩ := sound
  rw [List.length_cons] at room
  have sent : size - replies.length = size - (replies.length + 1) + 1 := by omega
  have sent_eq : ({ worker with phase := .replying replies counted size } : Worker).sent =
      worker.sent + 1 := by
    simp only [Worker.sent, phase, Phase.sent, List.length_cons, sent, Nat.add_assoc]
  cases counted with
  | true =>
    have failure : outcome.isOk = false := failures rfl _ List.mem_cons_self
    refine ⟨sent_eq, ?_, 0, (UInt64.add_zero _).symm, ?_⟩
    · simp [vectorsIn, repliesIn, failure]
    · simp [phase, Phase.prepaid, failuresIn, repliesIn, failure]
  | false =>
    cases outcome with
    | ok embedding =>
      refine ⟨sent_eq, rfl, 0, (UInt64.add_zero _).symm, ?_⟩
      rw [phase]
      rfl
    | error failure =>
      refine ⟨sent_eq, (UInt64.add_zero _).symm, 1, rfl, ?_⟩
      rw [phase]
      rfl

/-- Every step of a worker counts right. -/
theorem WorkerStep.countsRight {move : WorkerMove} {counters : Counters}
    {written : List (Ticket × Letter)} {events : List Event} (sound : worker.phase.Sound)
    (step : WorkerStep settings s w worker move worker' counters written events) :
    CountsRight worker worker' s.counters counters events := by
  cases step with
  | take phase waits fits =>
    exact .silent rfl (by rw [phase]; rfl) (by rw [phase]; rfl) rfl rfl rfl
  | breakOff phase waits fits =>
    exact .silent rfl (by rw [phase]; rfl) (by rw [phase]; rfl) rfl rfl rfl
  | takeMore phase waits room =>
    exact .silent rfl (by rw [phase]; rfl) (by rw [phase]; rfl) rfl rfl rfl
  | closeBatch phase full =>
    exact .silent rfl (by rw [phase]; rfl) (by rw [phase]; rfl) rfl rfl rfl
  | check phase => exact .silent rfl (by rw [phase]; rfl) (by rw [phase]; rfl) rfl rfl rfl
  | compute phase somebody holds =>
    exact .silent rfl (by rw [phase]; rfl) (by rw [phase]; rfl) rfl rfl rfl
  | load phase somebody holds =>
    exact .silent rfl (by rw [phase]; rfl) (by rw [phase]; rfl) rfl rfl rfl
  | loaded phase => exact .silent rfl (by rw [phase]; rfl) (by rw [phase]; rfl) rfl rfl rfl
  | @loadFails batch outcome failure phase fails =>
    refine ⟨?_, ?_, batch.length, rfl, ?_⟩
    · simp [Worker.sent, phase, Phase.sent, Labor.failAll, repliesIn]
    · exact (UInt64.add_zero _).symm
    · simp [phase, Phase.prepaid, Labor.failAll, failuresIn, repliesIn]
  | compute_done phase holds outcome =>
    refine .silent rfl ?_ (by rw [phase]; rfl) rfl rfl rfl
    have same := (Engine.answers_of_compute outcome).1
    rw [List.length_map] at same
    rw [phase]
    simp [Worker.computed, Phase.sent, same]
  | compute_failed phase holds outcome =>
    refine .silent rfl ?_ (by rw [phase]; rfl) rfl rfl rfl
    rw [phase]
    simp [Worker.computed, Phase.sent, Labor.failAll]
  | compute_aborted phase holds outcome =>
    refine .silent rfl ?_ (by rw [phase]; rfl) rfl rfl rfl
    rw [phase]
    simp [Worker.computed, Phase.sent, Labor.failAll]
  | reply phase => exact .reply phase sound
  | finish isDone fits => exact .finish isDone rfl (.inl rfl) rfl
  | finishBroken isDone fits => exact .finish isDone rfl (.inr rfl) rfl
  | unload phase holds asked due idle sender => exact .silent rfl rfl rfl rfl rfl rfl
  | stop phase idle noSender =>
    refine .silent rfl (by rw [phase]; rfl) (by rw [phase]; rfl) ?_ rfl rfl
    split <;> rfl

/-- What the counters of a service say about the replies that were sent. -/
structure Tally (s : State) (events : List Event) : Prop where
  /-- The workers have sent all replies. -/
  sent_eq : (s.workers.map Worker.sent).sum = (repliesIn events).length
  /-- Those with a vector are counted. -/
  processed_eq : s.counters.processed = UInt64.ofNat (vectorsIn events)
  /-- Failures are counted, and some are counted in advance. -/
  failed_eq : s.counters.failed = UInt64.ofNat
    ((s.workers.map fun worker => worker.phase.prepaid).sum + failuresIn events)

/-- A step that sends nothing and counts nothing keeps the tally, if every worker has sent
and counted as much as before. -/
theorem Tally.silent {t : State} {events more : List Event} (tally : Tally s events)
    (none : repliesIn more = [])
    (sent : (t.workers.map Worker.sent).sum = (s.workers.map Worker.sent).sum)
    (prepaid : (t.workers.map fun worker => worker.phase.prepaid).sum =
      (s.workers.map fun worker => worker.phase.prepaid).sum)
    (processed : t.counters.processed = s.counters.processed)
    (failed : t.counters.failed = s.counters.failed) : Tally t (events ++ more) where
  sent_eq := by rw [sent, tally.sent_eq, repliesIn_append, none, List.append_nil]
  processed_eq := by
    rw [processed, tally.processed_eq, vectorsIn, vectorsIn, repliesIn_append, none,
      List.append_nil]
  failed_eq := by
    rw [failed, tally.failed_eq, prepaid, failuresIn, failuresIn, repliesIn_append, none,
      List.append_nil]

/-- A step of a caller keeps the tally. -/
theorem Tally.call {t : State} {call : Call} {move : CallerMove} {events more : List Event}
    (tally : Tally s events) (step : CallerStep settings s call move t more) :
    Tally t (events ++ more) := by
  cases step with
  | send sending there present room =>
    exact tally.silent rfl (sum_map_set_of_eq there rfl) (sum_map_set_of_eq there rfl) rfl rfl
  | receive =>
    refine tally.silent ?_ rfl rfl rfl rfl
    split
    · cases Caller.outcomeOf _ <;> rfl
    · rfl
  | _ => exact tally.silent rfl rfl rfl rfl rfl

/-- A step of a worker keeps the tally. -/
theorem Tally.labor {move : WorkerMove} {counters : Counters}
    {written : List (Ticket × Letter)} {events more : List Event} (tally : Tally s events)
    (found : s.workers[w]? = some worker) (sound : worker.phase.Sound)
    (step : WorkerStep settings s w worker move worker' counters written more) :
    Tally (s.afterWorker w worker' counters written) (events ++ more) := by
  obtain ⟨sent, processed, counted, failed, prepaid⟩ := step.countsRight sound
  have sentSum := sum_map_set Worker.sent found worker'
  have prepaidSum := sum_map_set (fun worker => worker.phase.prepaid) found worker'
  refine ⟨?_, ?_, ?_⟩
  · have before := tally.sent_eq
    rw [repliesIn_append, List.length_append]
    simp only [State.afterWorker]
    omega
  · simp only [State.afterWorker]
    rw [processed, tally.processed_eq, ← UInt64.ofNat_add, vectorsIn, vectorsIn, vectorsIn,
      repliesIn_append, List.countP_append]
  · simp only [State.afterWorker]
    rw [failed, tally.failed_eq, ← UInt64.ofNat_add]
    refine congrArg UInt64.ofNat ?_
    have split : failuresIn (events ++ more) = failuresIn events + failuresIn more := by
      rw [failuresIn, repliesIn_append, List.countP_append]
      rfl
    omega

/-- Every step keeps the tally. -/
theorem tally_of_transition {t : State} {label : Label} {events more : List Event}
    (tally : Tally s events)
    (sound : ∀ (w : WorkerId) (worker : Worker), s.workers[w]? = some worker → worker.phase.Sound)
    (transition : Transition settings s label t more) : Tally t (events ++ more) := by
  cases transition with
  | caller _ step => exact tally.call step
  | worker found step => exact tally.labor found (sound _ _ found) step
  | start =>
    exact tally.silent rfl (by simp [Worker.sent, Phase.sent]) (by simp [Phase.prepaid]) rfl rfl
  | receiveLate =>
    refine tally.silent ?_ rfl rfl rfl rfl
    cases Caller.outcomeOf _ <;> rfl
  | _ => exact tally.silent rfl rfl rfl rfl rfl

/-- In every run the tally is right. -/
theorem tally_of_run {labels : List Label} {events : List Event}
    (run : Run settings (initial settings) labels events s) : Tally s events := by
  induction run with
  | none => exact ⟨rfl, rfl, rfl⟩
  | step before next ih =>
    exact tally_of_transition ih (fun _ _ found => sound_of_run before found)
      (transition_of_step next)

end Matryoshka.Service
