import Matryoshka.Proofs.Service.Runs
import Matryoshka.Proofs.Service.Tally
import Matryoshka.Service.View

/-!
# The depth of the queue

The depth that a service counts is raised before a request waits for room in a queue, and
lowered when a worker takes the request or the caller learns that it never entered a queue.
A caller that goes away while it waits for room never learns it. So as long as no worker
broke off the depth is the number of requests in the queues, of calls that wait for room, and
of callers that went away while they waited (`queueDepth_of_run`). It is never lowered below
zero, and a service without any of the three is not degraded.
-/

namespace Matryoshka.Service

/-! ## What the depth counts -/

/-- The requests in the queues of all workers. -/
def queued (s : State) : Nat := (s.workers.map fun worker => worker.queue.length).sum

/-- Whether a caller waits for room in a queue. -/
def Stage.isSending : Stage → Bool
  | .sending _ _ => true
  | _ => false

/-- Whether a call waits for room in a queue. -/
def Call.isSending (call : Call) : Bool := call.stage.isSending

/-- The calls that wait for room in a queue. -/
def sending (s : State) : Nat := s.calls.countP Call.isSending

/-- Whether a caller goes away while it waits for room in a queue. -/
def Event.isGivenAway : Event → Bool
  | .left _ (some _) => true
  | _ => false

/-- The callers that went away while they waited for room in a queue. -/
def abandoned (events : List Event) : Nat := events.countP Event.isGivenAway

/-- Nobody goes away when nothing happens. -/
@[simp]
theorem abandoned_nil : abandoned [] = 0 :=
  rfl

/-- What the depth of the queue counts. -/
def outstanding (s : State) (events : List Event) : Nat := queued s + sending s + abandoned events

/-- Raising the depth adds one, unless the counter wraps around. -/
theorem toNat_raiseQueue {c : Counters} (room : c.queueDepth.toNat + 1 < UInt64.size) :
    c.raiseQueue.queueDepth.toNat = c.queueDepth.toNat + 1 := by
  rw [Counters.raiseQueue, UInt64.toNat_add]
  exact Nat.mod_eq_of_lt room

/-- Lowering the depth takes one away, and stops at zero. -/
theorem toNat_lowerQueue (c : Counters) :
    c.lowerQueue.queueDepth.toNat = c.queueDepth.toNat - 1 := by
  rw [Counters.lowerQueue]
  split
  · rename_i zero
    rw [zero]
    rfl
  · rename_i nonzero
    have positive : 1 ≤ c.queueDepth := by
      rw [UInt64.le_iff_toNat_le]
      have differs : c.queueDepth.toNat ≠ 0 := fun zero => nonzero (UInt64.toNat_inj.1 zero)
      exact Nat.one_le_iff_ne_zero.2 differs
    exact UInt64.toNat_sub_of_le _ _ positive

/-- Whether a call waits for room follows from its stage. -/
theorem isSending_eq {call : Call} {stage : Stage} (at_stage : call.stage = stage) :
    call.isSending = stage.isSending := by
  rw [Call.isSending, at_stage]

/-- Collecting an outcome changes nothing about whether a call waits for room. -/
@[simp]
theorem isSending_collected (call : Call) (slots : List Slot) (outcome : ItemOutcome) :
    (Caller.collected call slots outcome).isSending = call.isSending :=
  rfl

/-- A caller goes away with a request if it waits for room for it. -/
theorem isGivenAway_left (id : CallId) (call : Call) :
    (Event.left id (Caller.unsent? call)).isGivenAway = call.isSending := by
  unfold Call.isSending Caller.unsent?
  cases call.stage <;> rfl

/-- Nobody goes away by receiving a reply. -/
theorem abandoned_rememberEvents (settings : Settings) (text : String) (outcome : ItemOutcome) :
    abandoned (rememberEvents settings text outcome) = 0 := by
  cases outcome <;> rfl

/-! ## Steps -/

variable {settings : Settings} {s t : State}

/-- What a step does to the depth and to what it counts. -/
inductive DepthChange (s t : State) (more : List Event) : Prop
  /-- Both stay. -/
  | stays (depth : t.counters.queueDepth = s.counters.queueDepth)
      (counted : outstanding t more = outstanding s [])
  /-- Both are raised. -/
  | raised (depth : t.counters.queueDepth = s.counters.raiseQueue.queueDepth)
      (counted : outstanding t more = outstanding s [] + 1)
  /-- Both are lowered. -/
  | lowered (depth : t.counters.queueDepth = s.counters.lowerQueue.queueDepth)
      (counted : outstanding t more + 1 = outstanding s [])
  /-- A worker breaks off, and its queue is lost. -/
  | lost (broken : ∃ worker ∈ t.workers, worker.phase = .crashed)
      (counted : outstanding t more ≤ outstanding s [])

/-- Sending puts one more request into a queue. -/
theorem queued_send {w : WorkerId} {worker : Worker} (found : s.workers[w]? = some worker)
    (request : Request) (calls : List Call) :
    queued { s with
      workers := s.workers.set w { worker with queue := worker.queue ++ [request] }
      calls := calls } = queued s + 1 := by
  have sum := sum_map_set (fun worker => worker.queue.length) found
    { worker with queue := worker.queue ++ [request] }
  simp only [List.length_append, List.length_singleton] at sum
  simp only [queued]
  omega

section Sending

variable {more : List Event} (queues : t.workers = s.workers) (nobody : abandoned more = 0)
include queues nobody

/-- While the queues stay as they are and nobody goes away, what is outstanding changes as the
calls that wait for room. -/
theorem outstanding_eq : outstanding t more = queued s + sending t := by
  rw [outstanding, queued, queues, nobody, queued, Nat.add_zero]

/-- The depth stays while the same number of calls wait for room. -/
theorem DepthChange.of_same (depth : t.counters.queueDepth = s.counters.queueDepth)
    (calls : sending t = sending s) : DepthChange s t more :=
  .stays depth (by rw [outstanding_eq queues nobody, calls]; rfl)

/-- The depth is raised when one more call waits for room. -/
theorem DepthChange.of_more (depth : t.counters.queueDepth = s.counters.raiseQueue.queueDepth)
    (calls : sending t = sending s + 1) : DepthChange s t more :=
  .raised depth (by rw [outstanding_eq queues nobody, calls]; rfl)

/-- The depth is lowered when one call less waits for room. -/
theorem DepthChange.of_fewer (depth : t.counters.queueDepth = s.counters.lowerQueue.queueDepth)
    (calls : sending t + 1 = sending s) : DepthChange s t more :=
  .lowered depth (by rw [outstanding_eq queues nobody, Nat.add_assoc, calls]; rfl)

end Sending

/-- A step of a caller changes the depth and what it counts together. -/
theorem CallerStep.depthChange {id : CallId} {call : Call} {move : CallerMove}
    {more : List Event} (apart : Apart s.calls) (found : s.call? id = some call)
    (step : CallerStep settings s call move t more) : DepthChange s t more := by
  have counted := le_countP_calls found Call.isSending
  have moved (before after : Bool) {call' : Call} (same : call'.id = call.id)
      (old : call.isSending = before) (new : call'.isSending = after) :
      (s.callsWith call').countP Call.isSending + before.toNat = sending s + after.toNat := by
    have count := countP_callsWith apart found same Call.isSending
    rw [old] at counted count
    rw [count, new, sending]
    omega
  have collected (slots : List Slot) (outcome : ItemOutcome) :
      (s.callsWith (Caller.collected call slots outcome)).countP Call.isSending = sending s :=
    Nat.add_right_cancel (moved _ _ rfl rfl (isSending_collected call slots outcome))
  have removed : (s.callsWithout call.id).countP Call.isSending + call.isSending.toNat =
      sending s := by
    rw [countP_callsWithout apart found, sending]
    omega
  cases step with
  | find handing next known =>
    exact .of_same rfl rfl rfl (moved false false (by rfl) (isSending_eq handing) (by rfl))
  | miss handing next unknown =>
    exact .of_same rfl rfl rfl (moved false false (by rfl) (isSending_eq handing) (by rfl))
  | turnedAway submitting nobody =>
    exact .of_same rfl rfl rfl (moved false false (by rfl) (isSending_eq submitting) (by rfl))
  | submit submitting held =>
    exact .of_more rfl rfl rfl (moved false true (by rfl) (isSending_eq submitting) (by rfl))
  | shutOut waits there gone =>
    exact .of_fewer rfl rfl rfl (moved true false (by rfl) (isSending_eq waits) (by rfl))
  | @send w request worker waits there present room =>
    let call' : Call := { call with
      stage := .handing
      slots := call.slots ++ [.open request.text request.ticket] }
    have sent : (s.callsWith call').countP Call.isSending + 1 = sending s :=
      moved true false rfl (isSending_eq waits) rfl
    refine .stays rfl ?_
    rw [outstanding, queued_send there]
    show queued s + 1 + (s.callsWith call').countP Call.isSending + 0 = queued s + sending s + 0
    omega
  | giveUp waits there present crowded due =>
    exact .of_fewer rfl rfl rfl (moved true false (by rfl) (isSending_eq waits) (by rfl))
  | collectSettled collecting next => exact .of_same rfl rfl rfl (collected _ _)
  | @receive text ticket slots letter collecting next arrived =>
    have nobody : abandoned
        (if call.cached then rememberEvents settings text (Caller.outcomeOf letter) else []) =
          0 := by
      split
      · exact abandoned_rememberEvents ..
      · rfl
    exact .of_same rfl nobody rfl (collected _ _)
  | expire collecting next due missing => exact .of_same rfl rfl rfl (collected _ _)
  | answer collecting all =>
    rw [isSending_eq (stage_of_isCollecting collecting)] at removed
    exact .of_same rfl rfl rfl removed
  | leave waiting =>
    have gone : abandoned [.left call.id (Caller.unsent? call)] = call.isSending.toNat := by
      rw [abandoned, countP_cons_toNat, isGivenAway_left, List.countP_nil, Nat.zero_add]
    refine .stays rfl ?_
    rw [outstanding, gone, sending, Nat.add_assoc, removed]
    rfl

/-- Nobody goes away in a step of a worker. -/
theorem abandoned_of_workerStep {w : WorkerId} {worker worker' : Worker} {move : WorkerMove}
    {counters : Counters} {written : List (Ticket × Letter)} {more : List Event}
    (step : WorkerStep settings s w worker move worker' counters written more) :
    abandoned more = 0 := by
  refine List.countP_eq_zero.2 fun event member => ?_
  have own := step.worker?_eq event member
  cases event <;> first | (cases own; done) | simp [Event.isGivenAway]

/-- Counting a reply leaves the depth of the queue as it is. -/
@[simp]
theorem queueDepth_countReply (s : State) (outcome : ItemOutcome) :
    (Labor.countReply s outcome).counters.queueDepth = s.counters.queueDepth := by
  cases outcome <;> rfl

/-- What is outstanding after a step of a worker follows from the queue of the worker. -/
theorem outstanding_afterWorker {w : WorkerId} {worker worker' : Worker} {move : WorkerMove}
    {counters : Counters} {written : List (Ticket × Letter)} {more : List Event}
    (found : s.workers[w]? = some worker)
    (step : WorkerStep settings s w worker move worker' counters written more) :
    outstanding (s.afterWorker w worker' counters written) more + worker.queue.length =
      outstanding s [] + worker'.queue.length := by
  have sum := sum_map_set (fun worker => worker.queue.length) found worker'
  have nobody := abandoned_of_workerStep step
  have queues : queued (s.afterWorker w worker' counters written) + worker.queue.length =
      queued s + worker'.queue.length := sum
  have calls : sending (s.afterWorker w worker' counters written) = sending s := rfl
  simp only [outstanding, nobody, calls, abandoned_nil]
  omega

/-- A step of a worker changes the depth and what it counts together, unless the worker
breaks off. -/
theorem WorkerStep.depthChange {w : WorkerId} {worker worker' : Worker} {move : WorkerMove}
    {counters : Counters} {written : List (Ticket × Letter)} {more : List Event}
    (found : s.workers[w]? = some worker)
    (step : WorkerStep settings s w worker move worker' counters written more) :
    DepthChange s (s.afterWorker w worker' counters written) more := by
  have counted := outstanding_afterWorker found step
  have inside : w < s.workers.length := (List.getElem?_eq_some_iff.1 found).1
  cases step with
  | take phase waits fits =>
    simp only [waits, List.length_cons] at counted
    exact .lowered rfl (by omega)
  | takeMore phase waits room =>
    simp only [waits, List.length_cons] at counted
    exact .lowered rfl (by omega)
  | breakOff phase waits fits =>
    exact .lost ⟨_, List.mem_set inside _, rfl⟩ (Nat.le.intro counted)
  | finishBroken isDone fits =>
    exact .lost ⟨_, List.mem_set inside _, rfl⟩ (Nat.le.intro counted)
  | @reply request outcome replies counted' size phase =>
    refine .stays ?_ (Nat.add_right_cancel counted)
    cases counted' with
    | true => rfl
    | false => exact queueDepth_countReply s outcome
  | _ => exact .stays rfl (Nat.add_right_cancel counted)

/-- Every step changes the depth and what it counts together, unless a worker breaks off. -/
theorem depthChange_of_transition {label : Label} {more : List Event} (apart : Apart s.calls)
    (transition : Transition settings s label t more) : DepthChange s t more := by
  cases transition with
  | start nobody =>
    refine .stays rfl ?_
    simp [outstanding, queued, sending]
  | embed fresh =>
    refine .stays rfl ?_
    simp [outstanding, queued, sending, Caller.newCall, Call.isSending, Stage.isSending]
  | probe fresh =>
    refine .stays rfl ?_
    simp [outstanding, queued, sending, Caller.newProbe, Call.isSending, Stage.isSending]
  | caller found step => exact step.depthChange apart found
  | receiveLate awaited arrived =>
    refine .stays rfl ?_
    simp [outstanding, queued, sending, abandoned_rememberEvents]
  | worker found step => exact step.depthChange found
  | _ => exact .stays rfl rfl

/-- A step after which no worker has broken off begins where none has. -/
theorem whole_of_transition {label : Label} {more : List Event}
    (whole : ∀ worker ∈ t.workers, worker.phase ≠ .crashed)
    (transition : Transition settings s label t more) :
    ∀ worker ∈ s.workers, worker.phase ≠ .crashed := by
  intro worker member crashed
  obtain ⟨w, found⟩ := List.mem_iff_getElem?.1 member
  obtain ⟨worker', there, change⟩ := change_of_transition transition found
  have same := change.eq_of_gone (by rw [Worker.isGone, crashed])
  exact whole worker' (List.mem_of_getElem? there) (same ▸ crashed)

/-! ## Runs -/

/-- At no moment of a run more is outstanding than a word of 64 bits can count. -/
def Roomy (settings : Settings) (labels : List Label) : Prop :=
  ∀ early before t, early <+: labels → Run settings (initial settings) early before t →
    outstanding t before < UInt64.size

/-- What is outstanding after a run and one more step. -/
theorem outstanding_append (t : State) (events more : List Event) :
    outstanding t (events ++ more) = outstanding t more + abandoned events := by
  simp only [outstanding, abandoned, List.countP_append]
  omega

/-- While no worker broke off, the depth of the queue is what is outstanding. -/
theorem queueDepth_of_run {labels : List Label} {events : List Event}
    (run : Run settings (initial settings) labels events s)
    (whole : ∀ worker ∈ s.workers, worker.phase ≠ .crashed) (roomy : Roomy settings labels) :
    s.counters.queueDepth.toNat = outstanding s events := by
  induction run with
  | none => rfl
  | @step s t labels events more label before next ih =>
    have transition := transition_of_step next
    have depth := ih (whole_of_transition whole transition)
      fun early seen u shorter => roomy early seen u (shorter.trans (List.prefix_append _ _))
    have room := roomy _ _ _ List.prefix_rfl (before.step next)
    have start : outstanding s events = outstanding s [] + abandoned events :=
      rfl
    rw [outstanding_append] at room ⊢
    cases depthChange_of_transition (apart_of_run before) transition with
    | stays same counted =>
      rw [same]
      omega
    | raised same counted =>
      rw [same, toNat_raiseQueue (by omega)]
      omega
    | lowered same counted =>
      rw [same, toNat_lowerQueue]
      omega
    | lost broken counted =>
      obtain ⟨worker, member, crashed⟩ := broken
      exact absurd crashed (whole worker member)

/-- No more is outstanding than steps were taken. -/
theorem outstanding_le {labels : List Label} {events : List Event}
    (run : Run settings (initial settings) labels events s) :
    outstanding s events ≤ labels.length := by
  induction run with
  | none => exact Nat.le_refl _
  | @step s t labels events more label before next ih =>
    have start : outstanding s events = outstanding s [] + abandoned events := rfl
    rw [outstanding_append, List.length_append, List.length_singleton]
    cases depthChange_of_transition (apart_of_run before) (transition_of_step next) <;> omega

/-- A run with fewer steps than a word of 64 bits can count is roomy. -/
theorem roomy_of_length {labels : List Label} (short : labels.length < UInt64.size) :
    Roomy settings labels := by
  intro early before t shorter run
  have bound := outstanding_le run
  have length := shorter.length_le
  omega

/-- When no request is in a queue, the queue of each worker is empty. -/
theorem queue_eq_nil_of_queued (idle : queued s = 0) {worker : Worker}
    (member : worker ∈ s.workers) : worker.queue = [] := by
  have all := List.sum_eq_zero_iff_forall_eq_nat.1 idle worker.queue.length
  exact List.eq_nil_of_length_eq_zero (all (List.mem_map_of_mem member))

/-- Without a request in a queue no worker can take one. -/
theorem step_take_of_idle (idle : queued s = 0) (w : WorkerId) :
    step settings s (.worker w .take) = none ∧ step settings s (.worker w .takeMore) = none := by
  simp only [step]
  cases found : s.workers[w]? with
  | none => exact ⟨rfl, rfl⟩
  | some worker =>
    have queue := queue_eq_nil_of_queued idle (List.mem_of_getElem? found)
    simp only [stepWorker, Labor.take, Labor.takeMore, queue]
    cases worker.phase <;> exact ⟨rfl, rfl⟩

/-- Without a call that waits for room nobody sends or gives up. -/
theorem step_send_of_idle (idle : sending s = 0) (id : CallId) :
    step settings s (.caller id .send) = none ∧ step settings s (.caller id .giveUp) = none := by
  simp only [step]
  cases found : s.call? id with
  | none => exact ⟨rfl, rfl⟩
  | some call =>
    have waits : call.isSending = false := by
      simpa using List.countP_eq_zero.1 idle call (mem_of_call? found)
    simp only [stepCaller, Caller.send, Caller.giveUp]
    cases stage : call.stage with
    | handing => exact ⟨rfl, rfl⟩
    | submitting text => exact ⟨rfl, rfl⟩
    | sending w request =>
      rw [isSending_eq stage] at waits
      cases waits

/-! ## An empty queue -/

open Float.Model in
/-- Zero divided by a number is zero, or no number. -/
theorem div_of_zero (spec : Format) (x : UnpackedFloat) :
    UnpackedFloat.div spec (.zero .positive) x = .notANumber ∨
      ∃ sign, UnpackedFloat.div spec (.zero .positive) x = .zero sign := by
  cases x with
  | infinity sign => exact .inr ⟨.positive / sign, rfl⟩
  | notANumber => exact .inl rfl
  | zero sign => exact .inl rfl
  | finite sign mantissa exponent positive => exact .inr ⟨.positive / sign, rfl⟩

open Float.Model in
/-- An empty queue is not nearly full, whatever its capacity. -/
theorem not_highWatermark_lt_zero_div (capacity : Float) :
    ¬ highWatermark < UInt64.toFloat 0 / capacity := by
  intro less
  obtain ⟨m, e, positive, high⟩ :
      ∃ m e h, highWatermark.toModel.unpack = .finite .positive m e h := ⟨_, _, _, rfl⟩
  have zero : (UInt64.toFloat 0).toModel.unpack = .zero .positive := by rfl
  have quotient : (UInt64.toFloat 0 / capacity).toModel =
      pack (UnpackedFloat.div Format.binary64 (UInt64.toFloat 0).toModel.unpack
        capacity.toModel.unpack) := rfl
  have models : highWatermark.toModel < (UInt64.toFloat 0 / capacity).toModel :=
    of_decide_eq_true less
  have compared :
      highWatermark.toModel.unpack.lt (UInt64.toFloat 0 / capacity).toModel.unpack = true := models
  -- the quotient is no number or a zero, and neither is above a positive number
  rw [high, quotient, zero] at compared
  rcases div_of_zero Format.binary64 capacity.toModel.unpack with nothing | ⟨sign, nothing⟩
  · rw [nothing] at compared
    cases compared
  · rw [nothing] at compared
    cases sign <;> cases compared

/-- A service whose depth is zero is not degraded. -/
theorem health_of_queueDepth_eq_zero (empty : s.counters.queueDepth = 0) :
    health settings s ≠ .degraded := by
  unfold health utilization
  rw [empty]
  split
  · rw [if_neg (not_highWatermark_lt_zero_div _)]
    exact Health.noConfusion
  · exact Health.noConfusion

/-- The depth of the queue is accounted for, while no worker broke off and the counter does not
wrap around: it is the number of requests in the queues, of calls that wait for room, and of
callers that went away while they waited, and so right exactly if there are none of the last.
Without any of the three it is zero and the service is not degraded. When it is zero there is
nothing to take and nobody to send or to give up, so no step lowers it below zero. -/
theorem queueDepth_accounted {labels : List Label} {events : List Event}
    (run : Run settings (initial settings) labels events s)
    (whole : ∀ worker ∈ s.workers, worker.phase ≠ .crashed) (roomy : Roomy settings labels) :
    s.counters.queueDepth.toNat = queued s + sending s + abandoned events ∧
      (s.counters.queueDepth.toNat = queued s + sending s ↔ abandoned events = 0) ∧
      (queued s = 0 → sending s = 0 → abandoned events = 0 →
        s.counters.queueDepth = 0 ∧ health settings s ≠ .degraded) ∧
      (s.counters.queueDepth = 0 → ∀ w id,
        step settings s (.worker w .take) = none ∧
        step settings s (.worker w .takeMore) = none ∧
        step settings s (.caller id .send) = none ∧
        step settings s (.caller id .giveUp) = none) := by
  have depth := queueDepth_of_run run whole roomy
  rw [outstanding] at depth
  refine ⟨depth, by omega, ?_, ?_⟩
  · intro idle nobody none
    have empty : s.counters.queueDepth = 0 := by
      rw [← UInt64.toNat_inj, depth, idle, nobody, none]
      rfl
    exact ⟨empty, health_of_queueDepth_eq_zero empty⟩
  · intro empty w id
    have zero : s.counters.queueDepth.toNat = 0 := by
      rw [empty]
      rfl
    have idle : queued s = 0 := by omega
    have nobody : sending s = 0 := by omega
    obtain ⟨take, takeMore⟩ := step_take_of_idle idle w
    obtain ⟨send, giveUp⟩ := step_send_of_idle nobody id
    exact ⟨take, takeMore, send, giveUp⟩

/-- Settings with room for one request in a queue. -/
def roomForOne : Settings := mockSettings 0 0

/-- Two callers have each a text, and the queue has room for one of them. -/
def fullQueue : List Label :=
  [.start, .embed 0 ["a"]] ++ handIn 0 ++
    [.embed 1 ["b"], .caller 1 .lookUp, .caller 1 .submit]

/-- While a request is in the queue and a call waits for room, the depth is two. -/
theorem fullQueue_accounted :
    ∃ events s, Run roomForOne (initial roomForOne) fullQueue events s ∧
      (∀ worker ∈ s.workers, worker.phase ≠ .crashed) ∧ Roomy roomForOne fullQueue ∧
      s.counters.queueDepth.toNat = 1 + 1 := by
  obtain ⟨events, s, run, workers, queue, calls, nobody⟩ : ∃ events s,
      Run roomForOne (initial roomForOne) fullQueue events s ∧
        s.workers = [{ queue := [⟨0, "a"⟩] }] ∧ queued s = 1 ∧ sending s = 1 ∧
        abandoned events = 0 :=
    ⟨_, _, run_of_stepAll rfl, rfl, rfl, rfl, rfl⟩
  have whole : ∀ worker ∈ s.workers, worker.phase ≠ .crashed := by
    rw [workers]
    simp
  have roomy : Roomy roomForOne fullQueue := roomy_of_length (by decide)
  have depth := (queueDepth_accounted run whole roomy).1
  rw [queue, calls, nobody] at depth
  exact ⟨events, s, run, whole, roomy, depth⟩

/-- When a caller goes away while it waits for room, the depth is one too many: after the worker
has taken the other request nothing is in the queue and nobody waits for room, but the service
is degraded. -/
theorem degraded_of_leave :
    ∃ events s, Run roomForOne (initial roomForOne)
        (fullQueue ++ [.caller 1 .leave, .worker 0 .take]) events s ∧
      (∀ worker ∈ s.workers, worker.phase ≠ .crashed) ∧ queued s = 0 ∧ sending s = 0 ∧
      s.counters.queueDepth = 1 ∧ health roomForOne s = .degraded := by
  obtain ⟨events, s, run, workers, calls, running, depth⟩ : ∃ events s,
      Run roomForOne (initial roomForOne) (fullQueue ++ [.caller 1 .leave, .worker 0 .take])
        events s ∧ s.workers = [{ phase := .gathering [⟨0, "a"⟩] }] ∧ sending s = 0 ∧
        isRunning s = true ∧ s.counters.queueDepth = 1 :=
    ⟨_, _, run_of_stepAll rfl, rfl, rfl, rfl, rfl⟩
  refine ⟨events, s, run, ?_, ?_, calls, depth, ?_⟩
  · rw [workers]
    simp
  · rw [queued, workers]
    rfl
  · have full : highWatermark < UInt64.toFloat 1 / (UInt64.toFloat 1) := by decide
    rw [health, running, utilization, depth]
    exact if_pos full

end Matryoshka.Service
