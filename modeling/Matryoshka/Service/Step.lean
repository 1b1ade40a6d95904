import Matryoshka.Service.Labor

/-!
# Steps of a service

A service moves by steps of its callers and workers, in any order. What comes from
outside is part of the label of a step: new calls, callers that go away, what the
loader and the model do, and the passing of time. A label that is not possible in a
state gives no step.
-/

namespace Matryoshka.Service

/-- What a caller does next. -/
inductive CallerMove where
  /-- Look the next text up. -/
  | lookUp
  /-- Go to the worker. -/
  | submit
  /-- Put the request into the queue. -/
  | send
  /-- Give up waiting for room. -/
  | giveUp
  /-- Collect the next outcome. -/
  | collect
  /-- Stop waiting for the next reply. -/
  | expire
  /-- Answer. -/
  | answer
  /-- Go away. -/
  | leave
  deriving Repr, DecidableEq

/-- What a worker does next. -/
inductive WorkerMove where
  /-- Take the first request that waits. -/
  | take
  /-- Take one more. -/
  | takeMore
  /-- Take no more. -/
  | closeBatch
  /-- Look whether somebody waits for the next request of the batch. -/
  | check
  /-- Go on with the requests that somebody waits for. -/
  | proceed
  /-- The loader comes back. -/
  | finishLoading (outcome : Attempt Unit)
  /-- The computation ends; `engine` is what the model does this time. -/
  | finishComputing (engine : Engine)
  /-- Reply to the next request. -/
  | reply
  /-- Finish the batch. -/
  | finishBatch
  /-- Let go of a model that nobody used. -/
  | unload
  /-- End. -/
  | stop

/-- A step of a service. -/
inductive Label where
  /-- Start a worker, unless there is one. -/
  | start
  /-- Somebody wants the vectors of some texts. -/
  | embed (id : CallId) (texts : List String)
  /-- Somebody wants a text computed, whatever the cache knows. -/
  | probe (id : CallId) (text : String)
  /-- Somebody wants the worker to end and waits for it. -/
  | shutDown (id : CallId) (patience : Nat)
  /-- A caller moves. -/
  | caller (id : CallId) (move : CallerMove)
  /-- A letter comes after its time. -/
  | receiveLate (ticket : Ticket)
  /-- A worker moves. -/
  | worker (w : WorkerId) (move : WorkerMove)
  /-- A call for the end of a worker is answered. -/
  | finishEnding (id : CallId)
  /-- A call for the end of a worker is not answered in time. -/
  | expireEnding (id : CallId)
  /-- The caller of an end goes away. -/
  | leaveEnding (id : CallId)
  /-- Time passes. -/
  | pass (time : Nat)

variable (settings : Settings)

/-- The step of a caller. -/
def stepCaller (s : State) (call : Call) : CallerMove → Option Outcome
  | .lookUp => Caller.lookUp settings s call
  | .submit => Caller.submit s call
  | .send => Caller.send settings s call
  | .giveUp => Caller.giveUp settings s call
  | .collect => Caller.collect settings s call
  | .expire => Caller.expire settings s call
  | .answer => Caller.answer s call
  | .leave => Caller.leave s call

/-- The step of a worker. -/
def stepWorker (s : State) (w : WorkerId) (worker : Worker) : WorkerMove → Option Outcome
  | .take => Labor.take settings s w worker
  | .takeMore => Labor.takeMore settings s w worker
  | .closeBatch => Labor.closeBatch settings s w worker
  | .check => Labor.check s w worker
  | .proceed => Labor.proceed settings s w worker
  | .finishLoading outcome => Labor.finishLoading settings s w worker outcome
  | .finishComputing engine => Labor.finishComputing settings s w worker engine
  | .reply => Labor.reply s w worker
  | .finishBatch => Labor.finishBatch settings s w worker
  | .unload => Labor.unload settings s w worker
  | .stop => Labor.stop s w worker

/-- Start a worker, unless there is one. -/
def start (s : State) : State :=
  match s.handle with
  | some _ => s
  | none => { s with workers := s.workers ++ [{}], handle := some s.workers.length }

/-- Let go of the worker and wait for its end; without a worker there is nothing to wait
for. -/
def shutDown (s : State) (id : CallId) (patience : Nat) : Option Outcome :=
  match s.ending? id, s.handle with
  | some _, _ => none
  | none, none => some (s, [.ended id none (.ok 0)])
  | none, some w =>
    let ending : Ending := ⟨id, w, patience, s.now + patience⟩
    some ({ s with handle := none, endings := s.endings ++ [ending] }, [])

/-- What the caller of an end is told, once the worker is gone. -/
def endingResult? (s : State) (ending : Ending) : Option (Except Failure Nat) := do
  let worker ← s.workers[ending.worker]?
  match worker.phase with
  | .stopped => some (.ok worker.answered)
  | .crashed => some (.error (.unavailable .exitedUnexpectedly))
  | _ => none

/-- Answer the caller of an end. -/
def finishEnding (s : State) (ending : Ending) : Option Outcome := do
  let result ← endingResult? s ending
  some (s.removeEnding ending.id, [.ended ending.id (some ending.worker) result])

/-- Tell the caller of an end that it takes too long. -/
def expireEnding (s : State) (ending : Ending) : Option Outcome :=
  match endingResult? s ending with
  | some _ => none
  | none =>
    if ending.deadline ≤ s.now then
      some (s.removeEnding ending.id,
        [.ended ending.id (some ending.worker) (.error (.timeout (ending.patience % UInt64.size)))])
    else none

/-- The state after a step, and what happened; nothing if the step is not possible. -/
def step (s : State) : Label → Option Outcome
  | .start => some (start s, [])
  | .embed id texts => Caller.begin s (Caller.newCall settings s id texts)
  | .probe id text => Caller.begin s (Caller.newProbe settings s id text)
  | .shutDown id patience => shutDown s id patience
  | .caller id move =>
    match s.call? id with
    | some call => stepCaller settings s call move
    | none => none
  | .receiveLate ticket => Caller.receiveLate settings s ticket
  | .worker w move =>
    match s.workers[w]? with
    | some worker => stepWorker settings s w worker move
    | none => none
  | .finishEnding id =>
    match s.ending? id with
    | some ending => finishEnding s ending
    | none => none
  | .expireEnding id =>
    match s.ending? id with
    | some ending => expireEnding s ending
    | none => none
  | .leaveEnding id =>
    match s.ending? id with
    | some _ => some (s.removeEnding id, [])
    | none => none
  | .pass time => some ({ s with now := s.now + time }, [])

/-- A run from one state to another: the labels of its steps, and what happened. -/
inductive Run (settings : Settings) : State → List Label → List Event → State → Prop
  /-- Nothing happens. -/
  | none (s : State) : Run settings s [] [] s
  /-- One more step. -/
  | step {s t u : State} {labels : List Label} {events more : List Event} {label : Label}
      (run : Run settings s labels events t)
      (next : Service.step settings t label = some (u, more)) :
      Run settings s (labels ++ [label]) (events ++ more) u

/-- A run goes on where another ends. -/
theorem Run.trans {settings : Settings} {s t u : State} {labels later : List Label}
    {events more : List Event} (first : Run settings s labels events t)
    (second : Run settings t later more u) :
    Run settings s (labels ++ later) (events ++ more) u := by
  induction second with
  | none => simpa using first
  | step _ next ih => simpa using Run.step ih next

/-- One step is a run. -/
theorem Run.single {settings : Settings} {s t : State} {label : Label} {events : List Event}
    (next : Service.step settings s label = some (t, events)) :
    Run settings s [label] events t := by
  simpa using Run.step (Run.none s) next

end Matryoshka.Service
