import Matryoshka.Loader
import Matryoshka.Service.Limits
import Matryoshka.Service.Work

/-!
# Driving a service

A `Drive` runs a service in one fixed order of steps, so that what it shows can be
foreseen. Workers gather first, all that waits at one time; then callers move, those
that came first before others; then workers go on. Time passes only when nothing
else can happen, and only up to the next moment at which something can.

A drive has a gate. While it is shut no worker gets a model from the loader, and with
the plain mock model no worker gets through a forward pass either.
-/

namespace Matryoshka.Service

/-- A service that runs in a fixed order of steps. -/
structure Drive where
  /-- The service. -/
  service : State
  /-- Whether the gate is shut. -/
  isShut : Bool := false
  /-- When the computation of a worker is over. -/
  endOf : WorkerId → Time := fun _ => 0
  /-- How many forward passes there were. -/
  passes : Nat := 0
  /-- Answers that nobody has asked for, by call. -/
  answers : List (CallId × List ItemOutcome) := []
  /-- Answers about the end of a worker that nobody has asked for, by call. -/
  endings : List (CallId × Except Failure Nat) := []
  /-- Whether somebody outside the service broke off. -/
  isAborted : Bool := false

namespace Drive

variable (settings : Settings) (loader : Loader)

/-- A service that nobody has called yet. -/
def initial : Drive := { service := Service.initial settings }

/-- A service that nobody has called yet, unless there is no room for its cache. -/
def open? : Option Drive := (Service.open? settings).map fun s => { service := s }

/-- Whether computing the texts of a batch takes a forward pass. -/
def needsPass (batch : List Request) : Bool :=
  match loader.load settings.model with
  | .done engine => engine.needsPass (batch.map Request.text)
  | _ => false

/-- Whether a worker stands at the gate. -/
def stops (d : Drive) (worker : Worker) : Bool :=
  d.isShut &&
    match worker.phase with
    | .loading _ => true
    | .computing batch => loader.isPlain && needsPass settings loader batch
    | _ => false

/-- Whether some worker stands at the gate. -/
def isStopped (d : Drive) : Bool := d.service.workers.any (d.stops settings loader)

/-- The moves of a worker that gathers a batch. -/
def gatheringMoves : List WorkerMove := [.take, .takeMore, .closeBatch, .check, .proceed]

/-- The moves of a worker that does not gather. -/
def otherMoves (d : Drive) (w : WorkerId) (worker : Worker) : List WorkerMove :=
  match worker.phase with
  | .loading _ =>
    if d.stops settings loader worker then []
    else [.finishLoading ((loader.load settings.model).map fun _ => ())]
  | .computing _ =>
    if d.stops settings loader worker || d.service.now < d.endOf w then []
    else
      match loader.load settings.model with
      | .done engine => [.finishComputing engine]
      | _ => []
  | _ => [.reply, .finishBatch, .unload, .stop]

/-- The moves of a caller, apart from entering a queue. -/
def callerMoves : List CallerMove := [.collect, .answer, .lookUp, .submit]

/-- The calls that want to enter a queue, those that came first in front. -/
def senders (s : State) : List CallId :=
  let waiting : List (Ticket × CallId) := s.calls.filterMap fun call =>
    match call.stage with
    | .sending _ request => some (request.ticket, call.id)
    | _ => none
  (waiting.mergeSort fun a b => a.1 ≤ b.1).map Prod.snd

/-- The steps to be tried, the most urgent in front. -/
def agenda (d : Drive) : List Label :=
  let s := d.service
  let workers := s.workers.zipIdx
  let gathering := workers.flatMap fun (_, w) => gatheringMoves.map (Label.worker w)
  let late := s.late.map fun letter => Label.receiveLate letter.ticket
  let calling := s.calls.flatMap fun call => callerMoves.map (Label.caller call.id)
  let sending := (senders s).map fun id => Label.caller id .send
  let losing := s.calls.flatMap fun call => [.caller call.id .giveUp, .caller call.id .expire]
  let working := workers.flatMap fun (worker, w) =>
    (d.otherMoves settings loader w worker).map (Label.worker w)
  let ending := s.endings.flatMap fun e => [.finishEnding e.id, .expireEnding e.id]
  gathering ++ late ++ calling ++ sending ++ losing ++ working ++ ending

/-- Note what an event tells. -/
def note (d : Drive) : Event → Drive
  | .answered call outcomes => { d with answers := d.answers ++ [(call, outcomes)] }
  | .ended call _ result => { d with endings := d.endings ++ [(call, result)] }
  | .computed _ _ _ passes => { d with passes := d.passes + passes }
  | _ => d

/-- When the computation that a worker has just begun will be over. -/
def computationEnd (s : State) (w : WorkerId) : Time :=
  match s.workers[w]?.map Worker.phase with
  | some (.computing batch) =>
    if needsPass settings loader batch then s.now + loader.latency else s.now
  | _ => s.now

/-- Whether a move of a worker may begin a computation. -/
def beginsComputation : Label → Option WorkerId
  | .worker w .proceed => some w
  | .worker w (.finishLoading _) => some w
  | _ => none

/-- Make a step, if it is possible; the one who begins it may break off. -/
def perform? (d : Drive) (label : Label) : Option Drive :=
  if breaksOff settings d.service label then some { d with isAborted := true }
  else do
    let (s, events) ← step settings d.service label
    let endOf := match beginsComputation label with
      | some w =>
        let time := computationEnd settings loader s w
        fun v => if v = w then time else d.endOf v
      | none => d.endOf
    some (events.foldl note { d with service := s, endOf := endOf })

/-- Make a step; a step that is not possible changes nothing. -/
def perform (d : Drive) (label : Label) : Drive := (d.perform? settings loader label).getD d

/-- Make at most `fuel` steps. -/
def settleWithin : Nat → Drive → Drive
  | 0, d => d
  | fuel + 1, d =>
    match (d.agenda settings loader).findSome? (d.perform? settings loader) with
    | some d => settleWithin fuel d
    | none => d

/-- Make all steps that take no time. -/
def settle (d : Drive) : Drive := settleWithin settings loader d.service.work d

/-! ## Time -/

/-- The moments at which a step may become possible by the passing of time. -/
def moments (d : Drive) : List Time :=
  let s := d.service
  let expiries := (s.calls.filter Caller.isWaiting).map Call.deadline
  let endings := s.endings.map Ending.deadline
  let idle := s.workers.filterMap (Labor.idleAt? settings)
  let busy := s.workers.zipIdx.filterMap fun (worker, w) =>
    match worker.phase with
    | .computing _ => if d.stops settings loader worker then none else some (d.endOf w)
    | _ => none
  (expiries ++ endings ++ idle ++ busy).filter (d.service.now < ·)

/-- Let time pass up to a moment. -/
def passTo (d : Drive) (time : Time) : Drive :=
  (d.perform settings loader (.pass (time - d.service.now))).settle settings loader

/-- Let time pass from moment to moment, at most `fuel` times and never beyond `horizon`,
until `done` holds. -/
def waitWithin (horizon : Option Time) (done : Drive → Bool) : Nat → Drive → Drive
  | 0, d => d
  | fuel + 1, d =>
    if done d then d
    else
      match (d.moments settings loader).min? with
      | some time =>
        if horizon.all (time ≤ ·) then
          waitWithin horizon done fuel (d.passTo settings loader time)
        else d
      | none => d

/-- Let time pass until `done` holds, if it ever does. -/
def waitFor (d : Drive) (done : Drive → Bool) : Drive :=
  waitWithin settings loader none done (2 * d.service.work + 1) d

/-- Let an amount of time pass. -/
def sleep (d : Drive) (duration : Nat) : Drive :=
  let horizon := d.service.now + duration
  let d := waitWithin settings loader (some horizon) (fun _ => false) (2 * d.service.work + 1) d
  d.passTo settings loader horizon

/-! ## Answers -/

/-- The answer to a call. -/
def answer? (d : Drive) (call : CallId) : Option (List ItemOutcome) := d.answers.lookup call

/-- The answer to a call for the end of a worker. -/
def ending? (d : Drive) (call : CallId) : Option (Except Failure Nat) := d.endings.lookup call

/-- Whether a call of either kind has been answered. -/
def isAnswered (d : Drive) (call : CallId) : Bool :=
  (d.answer? call).isSome || (d.ending? call).isSome

/-- Whether no call is open. -/
def isQuiet (d : Drive) : Bool := d.service.calls.isEmpty && d.service.endings.isEmpty

/-- Make all steps, and let time pass until every call is answered or a worker stands at
the gate. -/
def rest (d : Drive) : Drive :=
  (d.settle settings loader).waitFor settings loader fun d =>
    d.isQuiet || d.isStopped settings loader

/-- Make a step and wait until a call is answered. -/
def call (d : Drive) (label : Label) (id : CallId) : Drive :=
  ((d.perform settings loader label).settle settings loader).waitFor settings loader
    (·.isAnswered id)

end Drive

end Matryoshka.Service
