import Mathlib.Data.List.Nodup
import Matryoshka.Proofs.Service.Runs
import Matryoshka.Proofs.Service.Tickets

/-!
# Every request is accounted for

The requests that a worker accepted are, in order, those in the batches that it took
followed by those in its queue; when the worker has ended they are all in finished rounds.
In a finished round a request was passed over, because nobody waited for it when the worker
looked, or there is exactly one reply to it, made from its own text or shared by the whole
batch (`Handled`). Only a worker that breaks off loses requests, and it breaks off only when
it cannot get the memory for a batch or cannot set its clock.
-/

namespace Matryoshka.Service

variable {settings : Settings}

/-! ## Looking at requests -/

/-- A worker looked at a request in the course of a run, and `awaited` says whether somebody
could still collect its reply at that moment. -/
def LookedAt (settings : Settings) (w : WorkerId) (events : List Event) (request : Request)
    (awaited : Bool) : Prop :=
  ∃ early before s after, Run settings (initial settings) early before s ∧
    events = before ++ .checked w request awaited :: after ∧
    s.isOpen request.ticket = awaited

/-- The verdicts of all rounds. -/
def Ledger.verdicts (ledger : Ledger) : List (Request × Bool) :=
  ledger.rounds.flatMap Round.verdicts ++ ledger.current.verdicts

/-- A verdict is entered when the worker looks at a request. -/
theorem mem_verdicts_enter {ledger : Ledger} {event : Event} {verdict : Request × Bool}
    (member : verdict ∈ (ledger.enter event).verdicts) :
    verdict ∈ ledger.verdicts ∨ ∃ w, event = .checked w verdict.1 verdict.2 := by
  cases event with
  | checked w request awaited =>
    simp only [Ledger.enter, Ledger.verdicts, ← List.append_assoc] at member
    rcases List.mem_append.1 member with before | last
    · exact .inl before
    · obtain rfl := List.mem_singleton.1 last
      exact .inr ⟨w, rfl⟩
  | finished w size =>
    left
    simpa [Ledger.enter, Ledger.verdicts] using member
  | _ => exact .inl member

/-- Every verdict in a ledger was seen. -/
theorem mem_verdicts_enterAll {ledger : Ledger} {events : List Event} {verdict : Request × Bool}
    (member : verdict ∈ (ledger.enterAll events).verdicts) :
    verdict ∈ ledger.verdicts ∨ ∃ w, .checked w verdict.1 verdict.2 ∈ events := by
  induction events generalizing ledger with
  | nil => exact .inl member
  | cons event events ih =>
    rcases ih member with first | ⟨w, later⟩
    · rcases mem_verdicts_enter first with before | ⟨w, rfl⟩
      · exact .inl before
      · exact .inr ⟨w, List.mem_cons_self⟩
    · exact .inr ⟨w, List.mem_cons_of_mem _ later⟩

/-- A worker looks at one request in one step, and says truly whether somebody can still
collect its reply. -/
theorem awaited_of_checked {s t : State} {label : Label} {events : List Event} {w : WorkerId}
    {request : Request} {awaited : Bool} (transition : Transition settings s label t events)
    (member : .checked w request awaited ∈ events) :
    events = [.checked w request awaited] ∧ s.isOpen request.ticket = awaited := by
  cases transition with
  | caller _ step =>
    cases step with
    | receive =>
      split at member
      · have none := worker?_of_mem_rememberEvents member
        cases none
      · cases member
    | _ => simp at member
  | worker _ step =>
    cases step with
    | check =>
      simp only [List.mem_singleton, Event.checked.injEq] at member
      obtain ⟨rfl, rfl, rfl⟩ := member
      exact ⟨rfl, rfl⟩
    | stop => split at member <;> simp at member
    | _ => simp at member
  | receiveLate =>
    have none := worker?_of_mem_rememberEvents member
    cases none
  | _ => simp at member

/-- Every verdict in the ledger of a worker is what the worker saw when it looked. -/
theorem lookedAt_of_mem_verdicts {s : State} {labels : List Label} {events : List Event}
    {w : WorkerId} (run : Run settings (initial settings) labels events s)
    {verdict : Request × Bool} (member : verdict ∈ (ledgerOf w events).verdicts) :
    LookedAt settings w events verdict.1 verdict.2 := by
  rcases mem_verdicts_enterAll member with none | ⟨v, seen⟩
  · cases none
  · obtain ⟨all, own⟩ := List.mem_filter.1 seen
    obtain rfl : v = w := by simpa [Event.worker?] using own
    obtain ⟨early, before, u, label, t, more, -, after, first, next, inStep, -, rfl⟩ :=
      exists_step_of_mem run all
    obtain ⟨rfl, awaited⟩ := awaited_of_checked (transition_of_step next) inStep
    exact ⟨early, before, u, after, first, by simp, awaited⟩

/-! ## Replies -/

/-- The outcome of the request at a place among those of a round that somebody waits for. -/
inductive Round.Answer (settings : Settings) (round : Round) (j : Nat) (request : Request) :
    ItemOutcome → Prop
  /-- It is made from its own text. -/
  | own {engine : Engine} {outcome : ItemOutcome}
      (ran : round.computed = some (engine, round.live.map Request.text))
      (answers : engine.Answers settings.effectiveDim (round.live.map Request.text) j
        request.text outcome) : Answer settings round j request outcome
  /-- It is the failure of the whole batch. -/
  | shared {failure : Failure} (fails : BatchFails settings round.loaded round.computed failure) :
      Answer settings round j request (.error failure)

/-- What became of a request of a finished round. -/
inductive Handled (settings : Settings) (w : WorkerId) (events : List Event) (round : Round)
    (request : Request) : Prop
  /-- It was passed over, because nobody waited for it. -/
  | skipped (closed : LookedAt settings w events request false)
      (none : request ∉ round.replies.map Prod.fst)
  /-- There is one reply to it. -/
  | answered {j : Nat} {outcome : ItemOutcome} (awaited : LookedAt settings w events request true)
      (live : round.live[j]? = some request)
      (reply : round.replies[j]? = some (request, outcome))
      (once : (round.replies.map Prod.fst).count request = 1)
      (answer : round.Answer settings j request outcome)

/-- Every reply of a complete round is an answer to its request. -/
theorem Round.Complete.answer {round : Round} (complete : round.Complete settings) {j : Nat}
    {request : Request} {outcome : ItemOutcome}
    (reply : round.replies[j]? = some (request, outcome)) :
    round.Answer settings j request outcome := by
  have grounds := complete.replies_eq
  generalize round.replies = replies at grounds reply
  cases grounds with
  | nobody => cases reply
  | shared fails =>
    simp only [Labor.failAll, List.getElem?_map, Option.map_eq_some_iff, Prod.mk.injEq] at reply
    obtain ⟨-, -, -, rfl⟩ := reply
    exact .shared fails
  | own ran computed =>
    obtain ⟨place, result⟩ := List.getElem?_zip_eq_some.1 reply
    have text : (round.live.map Request.text)[j]? = some request.text := by simp [place]
    obtain ⟨own, found, answers⟩ := (Engine.answers_of_compute computed).2 j _ text
    rw [result] at found
    cases found
    exact .own ran answers

/-- If no request was looked at twice, those that somebody waited for are those with the
verdict that says so. -/
theorem mem_live_iff {round : Round} (apart : (round.verdicts.map Prod.fst).Nodup)
    {request : Request} {awaited : Bool} (verdict : (request, awaited) ∈ round.verdicts) :
    request ∈ round.live ↔ awaited = true := by
  constructor
  · intro live
    obtain ⟨other, kept, same⟩ := List.mem_map.1 live
    obtain ⟨there, true_of⟩ := List.mem_filter.1 kept
    have equal := List.inj_on_of_nodup_map apart there verdict same
    rw [equal] at true_of
    exact true_of
  · rintro rfl
    exact List.mem_map.2 ⟨(request, true), List.mem_filter.2 ⟨verdict, rfl⟩, rfl⟩

/-- Every request of a complete round is handled, if no request is in it twice. -/
theorem Round.Complete.handled {w : WorkerId} {events : List Event} {round : Round}
    (complete : round.Complete settings) (apart : round.batch.Nodup)
    (looked : ∀ verdict ∈ round.verdicts, LookedAt settings w events verdict.1 verdict.2)
    {request : Request} (member : request ∈ round.batch) :
    Handled settings w events round request := by
  have live_eq : round.replies.map Prod.fst = round.live := complete.replies_eq.map_fst
  rw [← complete.verdicts_eq] at member apart
  obtain ⟨⟨first, awaited⟩, there, same⟩ := List.mem_map.1 member
  obtain rfl : first = request := same
  have live_iff := mem_live_iff apart there
  cases awaited with
  | false =>
    refine .skipped (looked _ there) ?_
    rw [live_eq, live_iff]
    simp
  | true =>
    have live : first ∈ round.live := live_iff.2 rfl
    have distinct : round.live.Nodup := List.Nodup.sublist (List.filter_sublist.map _) apart
    obtain ⟨j, place⟩ := List.getElem?_of_mem live
    have named : (round.replies.map Prod.fst)[j]? = some first := by rw [live_eq, place]
    rw [List.getElem?_map, Option.map_eq_some_iff] at named
    obtain ⟨⟨request, outcome⟩, reply, same⟩ := named
    obtain rfl : request = first := same
    refine .answered (looked _ there) place reply ?_ (complete.answer reply)
    rw [live_eq, List.count_eq_one_of_mem distinct live]

/-! ## The account of a worker -/

/-- A batch is a part of what was accepted. -/
theorem batch_sublist_accepted {now : Time} {worker : Worker} {ledger : Ledger}
    (balanced : Balanced settings now worker ledger) {round : Round}
    (member : round ∈ ledger.rounds) : round.batch.Sublist ledger.accepted := by
  have inRounds : round.batch.Sublist (ledger.rounds.flatMap Round.batch) := by
    rw [List.flatMap_def]
    exact List.sublist_flatten_of_mem (List.mem_map_of_mem member)
  rw [balanced.accepted_eq, Ledger.taken]
  simp only [List.append_assoc]
  exact inRounds.trans (List.sublist_append_left _ _)

/-- A worker without a batch in its hands has no round that is not finished. -/
theorem current_eq_of_not_busy {now : Time} {worker : Worker} {ledger : Ledger}
    (balanced : Balanced settings now worker ledger) (free : worker.phase.isBusy = false) :
    ledger.current = {} := by
  have current_at := balanced.current_at
  cases phase : worker.phase <;> rw [phase] at current_at free
  case waiting | stopped | crashed => exact current_at
  all_goals cases free

/-- The batch in the hands of a worker is not too large. -/
theorem length_current_le {now : Time} {worker : Worker} {ledger : Ledger}
    (balanced : Balanced settings now worker ledger) :
    ledger.current.batch.length ≤ settings.batchSize := by
  have current_at := balanced.current_at
  cases phase : worker.phase <;> rw [phase] at current_at
  case waiting | stopped | crashed =>
    rw [current_eq_of_not_busy balanced (by rw [phase]; rfl)]
    exact Nat.zero_le _
  case gathering =>
    obtain ⟨current, -, room⟩ := current_at
    rw [current]
    exact room
  case checking => exact current_at.1.2.1
  case loading => exact current_at.1.length_batch_le
  case computing => exact current_at.1.length_batch_le
  case replying => exact current_at.1.length_batch_le

/-- The batch in the hands of a worker is not empty. -/
theorem current_batch_ne_nil {now : Time} {worker : Worker} {ledger : Ledger}
    (balanced : Balanced settings now worker ledger) (busy : worker.phase.isBusy = true) :
    ledger.current.batch ≠ [] := by
  have current_at := balanced.current_at
  cases phase : worker.phase <;> rw [phase] at current_at busy
  case waiting | stopped | crashed => cases busy
  case gathering =>
    obtain ⟨current, nonempty, -⟩ := current_at
    rw [current]
    exact nonempty
  case checking => exact current_at.1.1
  case loading => exact current_at.1.batch_ne_nil
  case computing => exact current_at.1.batch_ne_nil
  case replying => exact current_at.1.batch_ne_nil

/-- In every run each request of a finished round is handled. -/
theorem handled_of_run {labels : List Label} {events : List Event} {s : State} {w : WorkerId}
    {worker : Worker} (run : Run settings (initial settings) labels events s)
    (found : s.workers[w]? = some worker) {round : Round}
    (member : round ∈ (ledgerOf w events).rounds) {request : Request}
    (inBatch : request ∈ round.batch) : Handled settings w events round request := by
  have balanced := balanced_of_run run found
  have apart : round.batch.Nodup :=
    List.Nodup.sublist (batch_sublist_accepted balanced member)
      (List.Nodup.of_map _ (nodup_tickets run w))
  refine (balanced.complete round member).handled apart ?_ inBatch
  intro verdict inRound
  refine lookedAt_of_mem_verdicts run ?_
  exact List.mem_append_left _ (List.mem_flatMap.2 ⟨round, member, inRound⟩)

/-- When a worker has ended, all requests that it accepted are in finished rounds. -/
theorem accepted_of_stopped {now : Time} {worker : Worker} {ledger : Ledger}
    (balanced : Balanced settings now worker ledger) (stopped : worker.phase = .stopped) :
    worker.queue = [] ∧ ledger.accepted = ledger.rounds.flatMap Round.batch := by
  have idle := balanced.queue_eq (by rw [Worker.isGone, stopped])
  have current := current_eq_of_not_busy balanced (by rw [stopped]; rfl)
  have accepted := balanced.accepted_eq
  rw [idle, balanced.lost_eq (by simp [stopped]), Ledger.taken, current] at accepted
  exact ⟨idle, by simpa using accepted⟩

/-- Every worker of every run has accounted for its requests. Those it accepted, all
different, are in order those that it took in batches, those in its queue, and those lost
when it broke off. No batch is empty or too large, and each request of a finished one was
handled. When the worker has ended, all that it accepted was handled. It loses
nothing unless it breaks off, which it does only without memory for a batch or when the moment
to let go of its model is out of the range of a clock; without memory it loses the first
request that it takes and all that wait behind it. -/
theorem requests_accounted {labels : List Label} {events : List Event} {s : State}
    {w : WorkerId} {worker : Worker} (run : Run settings (initial settings) labels events s)
    (found : s.workers[w]? = some worker) :
    (ledgerOf w events).accepted =
        (ledgerOf w events).taken ++ worker.queue ++ (ledgerOf w events).lost ∧
      ((ledgerOf w events).accepted.map Request.ticket).Nodup ∧
      (worker.phase.isBusy = true → (ledgerOf w events).current.batch ≠ []) ∧
      (ledgerOf w events).current.batch.length ≤ settings.batchSize ∧
      (∀ round ∈ (ledgerOf w events).rounds, round.batch ≠ [] ∧
        round.batch.length ≤ settings.batchSize ∧
        ∀ request ∈ round.batch, Handled settings w events round request) ∧
      (worker.phase = .stopped → worker.queue = [] ∧
        (ledgerOf w events).accepted = (ledgerOf w events).rounds.flatMap Round.batch) ∧
      (worker.phase ≠ .crashed → (ledgerOf w events).lost = []) ∧
      (worker.phase = .crashed → Labor.batchFits settings = false ∨
        ∃ time ∈ settings.idleUnload, Labor.clockBound ≤ s.now + time) ∧
      (Labor.batchFits settings = false → (ledgerOf w events).taken = [] ∧
        (worker.phase = .crashed → (ledgerOf w events).lost = (ledgerOf w events).accepted)) := by
  have balanced := balanced_of_run run found
  refine ⟨balanced.accepted_eq, nodup_tickets run w, current_batch_ne_nil balanced,
    length_current_le balanced, ?_, accepted_of_stopped balanced, balanced.lost_eq,
    balanced.crash_cause, ?_⟩
  · intro round member
    have complete := balanced.complete round member
    exact ⟨complete.batch_ne_nil, complete.length_batch_le,
      fun request inBatch => handled_of_run run found member inBatch⟩
  · intro memory
    obtain ⟨none, idle⟩ := balanced.idle_of_batchFits memory
    have free : worker.phase.isBusy = false := by
      rcases idle with waiting | gone
      · rw [waiting]
        rfl
      · cases busy : worker.phase.isBusy with
        | false => rfl
        | true =>
          rw [Worker.isGone_of_isBusy busy] at gone
          cases gone
    have taken : (ledgerOf w events).taken = [] := by
      rw [Ledger.taken, none, current_eq_of_not_busy balanced free]
      rfl
    refine ⟨taken, ?_⟩
    intro crashed
    have accepted := balanced.accepted_eq
    rw [taken, balanced.queue_eq (by rw [Worker.isGone, crashed])] at accepted
    exact accepted.symm

/-- Settings with batches of two requests. -/
def inPairs : Settings := mockSettings 1 7

/-- A worker takes two requests, and the loader breaks off. -/
def failedPair : List Label :=
  [.start, .embed 0 ["a", "b"]] ++ handIn 0 ++ handIn 0 ++
    [.worker 0 .take, .worker 0 .takeMore, .worker 0 .closeBatch, .worker 0 .check,
      .worker 0 .check, .worker 0 .proceed, .worker 0 (.finishLoading .aborted),
      .worker 0 .reply, .worker 0 .reply, .worker 0 .finishBatch]

/-- When the loader breaks off, the worker still handles the two requests of its batch. -/
theorem failedPair_accounted :
    ∃ events s worker, Run inPairs (initial inPairs) failedPair events s ∧
      s.workers[0]? = some worker ∧
      (ledgerOf 0 events).rounds.map (fun round => round.batch.length) = [2] ∧
      ∀ round ∈ (ledgerOf 0 events).rounds, ∀ request ∈ round.batch,
        Handled inPairs 0 events round request := by
  obtain ⟨events, s, worker, run, found, rounds⟩ : ∃ events s worker,
      Run inPairs (initial inPairs) failedPair events s ∧ s.workers[0]? = some worker ∧
        (ledgerOf 0 events).rounds.map (fun round => round.batch.length) = [2] :=
    ⟨_, _, _, run_of_stepAll rfl, rfl, rfl⟩
  obtain ⟨-, -, -, -, finished, -⟩ := requests_accounted run found
  exact ⟨events, s, worker, run, found, rounds, fun round member => (finished round member).2.2⟩

/-- Settings with the largest batch that can be asked for. -/
def boundless : Settings := mockSettings 18446744073709551614 7

/-- With the largest batch that can be asked for, a request that waits behind the first one is
neither in the queue nor taken once the worker has taken the first one. -/
theorem request_lost_of_boundless :
    ∃ labels events s worker, Run boundless (initial boundless) labels events s ∧
      s.workers[0]? = some worker ∧
      ∃ request ∈ (ledgerOf 0 events).accepted,
        request ∉ worker.queue ∧ .taken 0 request ∉ events := by
  refine ⟨[.start, .embed 0 ["a", "b"]] ++ handIn 0 ++ handIn 0 ++ [.worker 0 .take], _, _, _,
    run_of_stepAll rfl, rfl, ⟨1, "b"⟩, ?_, ?_, ?_⟩
  · exact List.mem_cons_of_mem _ List.mem_cons_self
  · exact List.not_mem_nil
  · simp

end Matryoshka.Service
