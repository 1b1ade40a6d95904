import Matryoshka.Service.Drive
import Matryoshka.Service.View

/-!
# Rehearsals

A rehearsal plays a script with a service: calls that are waited for, calls in the
background, the gate, and the passing of time. After each cue the service comes to
rest, and a snapshot tells what can be said of it whatever the order of its steps.

Three things cannot be said. How requests fall into batches is open once several
came at the same time to a worker that was free to take them. Whether a model with a
short idle time is held is open unless that was waited for. And nothing is known while
work goes on that nobody waits for.
-/

namespace Matryoshka.Service

/-! ## Scripts -/

/-- What somebody asks of a service. -/
inductive Task where
  /-- The vector of a text. -/
  | embed (text : String)
  /-- The vectors of texts. -/
  | embedAll (texts : List String)
  /-- That the model is loaded. -/
  | warmUp
  /-- That the worker ends, within so many milliseconds. -/
  | shutDown (patience : Nat)
  deriving Repr, DecidableEq

/-- A number that a service shows. -/
inductive Gauge where
  /-- Requests answered with a vector. -/
  | processed
  /-- Requests answered with a failure. -/
  | failed
  /-- Vectors remembered. -/
  | cacheSize
  /-- Requests that wait. -/
  | queue
  /-- One if the worker has ended. -/
  | stopped
  deriving Repr, DecidableEq

/-- A cue of a script. -/
inductive Cue where
  /-- Start a worker. -/
  | start
  /-- Ask for something and wait for the answer. -/
  | ask (task : Task)
  /-- Ask for something in the background. -/
  | begin (name : String) (task : Task)
  /-- Take the answer to a call in the background. -/
  | await (name : String)
  /-- Go away from a call in the background; `late` if its request may be under way. -/
  | abandon (name : String) (late : Bool)
  /-- Shut the gate. -/
  | hold
  /-- Open the gate. -/
  | release
  /-- Wait until gauges show some numbers. -/
  | waitFor (targets : List (Gauge × Nat))
  /-- Wait until the worker holds no model. -/
  | waitIdle
  /-- Let time pass. -/
  | sleep (duration : Nat)
  /-- Ask what the service is. -/
  | info
  /-- Ask for the statistics. -/
  | stats
  deriving Repr, DecidableEq

/-- The answer to a task. -/
inductive Answer where
  /-- The outcome for a text. -/
  | vector (outcome : ItemOutcome)
  /-- The outcomes for texts. -/
  | vectors (outcomes : List ItemOutcome)
  /-- Whether the model was loaded. -/
  | ready (result : Except Failure Unit)
  /-- How many requests the worker has answered. -/
  | count (result : Except Failure Nat)

/-- What a service is. -/
structure Info where
  /-- The number of components of its vectors. -/
  dimension : Nat
  /-- How it was set up. -/
  settings : Settings
  /-- Whether a worker was ever started, so that its status can be followed. -/
  hasStatus : Bool
  /-- The part of the queue that is taken. -/
  utilization : Float

/-- What comes back from a cue. -/
inductive Reply where
  /-- Nothing. -/
  | nothing
  /-- Whether what was waited for came about. -/
  | waited (success : Bool)
  /-- An answer. -/
  | answer (answer : Answer)
  /-- There is no answer yet. -/
  | pending
  /-- There is no such call, or its answer was taken already. -/
  | gone
  /-- What the service is. -/
  | info (info : Info)
  /-- The statistics. -/
  | stats (stats : Wire.Stats)

/-- What can be said of a service. -/
structure Snapshot where
  /-- The status of the worker, if it is certain. -/
  status : Option WorkerStatus
  /-- Whether a worker is held. -/
  isRunning : Bool
  /-- How well the service serves. -/
  health : Health
  /-- Lookups that found something. -/
  hits : UInt64
  /-- Lookups that found nothing. -/
  misses : UInt64
  /-- Vectors remembered. -/
  cacheSize : Nat
  /-- The counters. -/
  counters : Counters
  /-- The number of forward passes. -/
  passes : Nat
  /-- Whether it is certain how requests fell into batches. -/
  knowsBatches : Bool
  /-- Whether it is certain how often a model was let go. -/
  knowsIdle : Bool

/-! ## Playing -/

namespace Task

/-- The step that begins a task. -/
def label (id : CallId) : Task → Label
  | embed text => .embed id [text]
  | embedAll texts => .embed id texts
  | warmUp => .probe id Caller.warmUpText
  | shutDown patience => .shutDown id patience

/-- The step by which the caller goes away. -/
def leaving (id : CallId) : Task → Label
  | shutDown _ => .leaveEnding id
  | _ => .caller id .leave

/-- The answer to a task, if there is one. -/
def answer? (d : Drive) (id : CallId) : Task → Option Answer
  | embed _ => do
    let outcomes ← d.answer? id
    let outcome ← outcomes.head?
    some (.vector outcome)
  | embedAll _ => (d.answer? id).map .vectors
  | warmUp => do
    let outcomes ← d.answer? id
    let outcome ← outcomes.head?
    some (.ready (outcome.map fun _ => ()))
  | shutDown _ => (d.ending? id).map .count

/-- Whether a task hands in several texts. -/
def isPlural : Task → Bool
  | embedAll (_ :: _ :: _) => true
  | _ => false

end Task

namespace Answer

/-- Whether a result is that time ran out. -/
def isTimeout {α : Type} : Except Failure α → Bool
  | .error (.timeout _) => true
  | _ => false

/-- Whether an answer says that time ran out. -/
def isLate : Answer → Bool
  | vector outcome => isTimeout outcome
  | vectors outcomes => outcomes.any isTimeout
  | ready result => isTimeout result
  | count result => isTimeout result

end Answer

/-- What a gauge shows. -/
def Gauge.read (s : State) : Gauge → Nat
  | processed => s.counters.processed.toNat
  | failed => s.counters.failed.toNat
  | cacheSize => s.cache.size
  | queue => s.counters.queueDepth.toNat
  | stopped => if status s = .stopped then 1 else 0

/-- A rehearsal. -/
structure Rehearsal where
  /-- The service. -/
  drive : Drive
  /-- The number of the next call. -/
  nextCall : CallId := 0
  /-- The calls in the background by name, the latest in front. -/
  background : List (String × CallId × Task) := []
  /-- Whether it is open how requests fell into batches. -/
  isMixed : Bool := false
  /-- Whether work may go on that nobody waits for. -/
  isAdrift : Bool := false

namespace Rehearsal

variable (settings : Settings) (loader : Loader)

/-- Whether some worker stands at the gate. -/
def isStopped (r : Rehearsal) : Bool := r.drive.isStopped settings loader

/-- Below this idle time, in milliseconds, it is open whether a model is held. -/
def shortIdle : Nat := 60000

/-- Below this time limit, in milliseconds, callers may go away while the gate is shut. -/
def shortTimeout : Nat := 10000

/-- Whether it is open whether a model is held. -/
def hasShortIdle : Bool := settings.idleUnload.any (· < shortIdle)

/-- What follows from an answer. -/
def noteAnswer (r : Rehearsal) (answer : Answer) : Rehearsal :=
  { r with isAdrift := r.isAdrift || answer.isLate }

/-- What follows from handing in texts. -/
def noteTask (r : Rehearsal) (task : Task) : Rehearsal :=
  let mixes := task.isPlural && 1 < settings.batchSize && !r.isStopped settings loader
  { r with isMixed := r.isMixed || mixes }

/-- What follows from having waited. -/
def noteWait (r : Rehearsal) : Rehearsal :=
  { r with isAdrift := r.isAdrift && r.isStopped settings loader }

/-- Change the service and let it come to rest. -/
def update (r : Rehearsal) (change : Drive → Drive) : Rehearsal :=
  { r with drive := (change r.drive).rest settings loader }

/-- Ask for something and wait for the answer. -/
def ask (r : Rehearsal) (task : Task) : Rehearsal × Reply :=
  let r := r.noteTask settings loader task
  let id := r.nextCall
  let d := r.drive.call settings loader (task.label id) id
  let answer := task.answer? d id
  let r := { r with drive := d.rest settings loader, nextCall := id + 1 }
  match answer with
  | some answer => (r.noteAnswer answer, .answer answer)
  | none => (r, .pending)

/-- Ask for something in the background. -/
def begin (r : Rehearsal) (name : String) (task : Task) : Rehearsal :=
  let r := r.noteTask settings loader task
  let id := r.nextCall
  let r := { r with nextCall := id + 1, background := (name, id, task) :: r.background }
  r.update settings loader (·.perform settings loader (task.label id))

/-- Forget a call in the background. -/
def forget (r : Rehearsal) (name : String) : Rehearsal :=
  { r with background := r.background.filter fun entry => entry.1 != name }

/-- Take the answer to a call in the background. -/
def await (r : Rehearsal) (name : String) : Rehearsal × Reply :=
  match r.background.lookup name with
  | none => (r, .gone)
  | some (id, task) =>
    match task.answer? r.drive id with
    | none => (r, .pending)
    | some answer => ((r.forget name).noteAnswer answer, .answer answer)

/-- Go away from a call in the background. -/
def abandon (r : Rehearsal) (name : String) (late : Bool) : Rehearsal :=
  match r.background.lookup name with
  | none => { r with isAdrift := r.isAdrift || late }
  | some (id, task) =>
    let r := { r.forget name with isAdrift := r.isAdrift || late }
    r.update settings loader (·.perform settings loader (task.leaving id))

/-- Wait until something holds of the service. -/
def waitFor (r : Rehearsal) (target : State → Bool) : Rehearsal × Reply :=
  let d := r.drive.waitFor settings loader fun d => target d.service
  let r := ({ r with drive := d } : Rehearsal).noteWait settings loader
  (r, .waited (target d.service))

/-- What the service is. -/
def info (r : Rehearsal) : Info where
  dimension := settings.effectiveDim
  settings := settings
  hasStatus := !r.drive.service.workers.isEmpty
  utilization := utilization settings r.drive.service

/-- Follow a cue. -/
def play (r : Rehearsal) : Cue → Rehearsal × Reply
  | .start =>
    (r.update settings loader (·.perform settings loader .start), .answer (.ready (.ok ())))
  | .ask task => r.ask settings loader task
  | .begin name task => (r.begin settings loader name task, .nothing)
  | .await name => r.await name
  | .abandon name late => (r.abandon settings loader name late, .nothing)
  | .hold => ({ r with drive := { r.drive with isShut := true } }, .nothing)
  | .release =>
    let r := r.update settings loader fun d => { d with isShut := false }
    ({ r with isAdrift := r.isAdrift || settings.requestTimeout < shortTimeout }, .nothing)
  | .waitFor targets =>
    r.waitFor settings loader fun s => targets.all fun (gauge, n) => gauge.read s == n
  | .waitIdle => r.waitFor settings loader fun s => status s == .unloaded
  | .sleep duration => (r.update settings loader (·.sleep settings loader duration), .nothing)
  | .info => (r, .info (r.info settings))
  | .stats => (r, .stats (stats settings r.drive.service))

/-- What can be said of the service; `waitedIdle` if it was just waited for that the
worker holds no model. -/
def snapshot? (r : Rehearsal) (waitedIdle : Bool) : Option Snapshot :=
  if r.isAdrift && !r.isStopped settings loader then none
  else
    let s := r.drive.service
    let knowsIdle := waitedIdle || !hasShortIdle settings
    some {
      status := if knowsIdle then some (status s) else none
      isRunning := isRunning s
      health := health settings s
      hits := s.cache.hits
      misses := s.cache.misses
      cacheSize := s.cache.size
      counters := s.counters
      passes := r.drive.passes
      knowsBatches := !r.isMixed
      knowsIdle := knowsIdle }

/-- Follow a script; every cue gives a reply and a snapshot. The script breaks off with the one
who follows it. -/
def playAll (r : Rehearsal) : List Cue → Attempt (List (Reply × Option Snapshot))
  | [] => .done []
  | cue :: cues =>
    let (r, reply) := r.play settings loader cue
    if r.drive.isAborted then .aborted
    else
      let snapshot := r.snapshot? settings loader (cue == .waitIdle)
      (playAll r cues).map fun rest => (reply, snapshot) :: rest

end Rehearsal

/-- What a service replies to a script, and what can be said of it after each cue. -/
def rehearse (settings : Settings) (loader : Loader) (script : List Cue) :
    Attempt (List (Reply × Option Snapshot)) :=
  match Drive.open? settings with
  | none => .aborted
  | some d => ({ drive := d } : Rehearsal).playAll settings loader script

end Matryoshka.Service
