import Matryoshka.Service.Caller

/-!
# Steps of workers

A worker takes the first request that waits, and all others that wait already up to
the size of a batch; it never waits for more. Then it looks at the requests one after
the other: those that nobody waits for are passed over. If the model is not held it is
loaded first. All other requests of a batch are answered, whatever happens: with their
own outcome, or with the failure of the whole batch. A model that is not used for long
enough is let go, but never while a request waits. When nobody can send any more and the
queue is empty the worker ends.

A worker breaks off if it cannot get the memory for a batch, or if the moment at which
it is to let go of its model is beyond what a clock can be set for.
-/

namespace Matryoshka.Service.Labor

variable (settings : Settings)

/-- The memory of a batch in bytes must be below this, or the worker breaks off. -/
def memoryBound : Nat := 0x8000000000000000

/-- The memory of one request of a batch in bytes. -/
def requestBytes : Nat := 32

/-- Whether room for a batch can be had. -/
def batchFits : Bool := settings.batchSize * requestBytes < memoryBound

/-- A moment that a clock can be set for is below this, in milliseconds. -/
def clockBound : Nat := memoryBound * 1000

/-- Whether a clock can be set for the moment at which a worker lets go of its model. -/
def clockFits (worker : Worker) : Bool :=
  match worker.held, settings.idleUnload with
  | some held, some time => held.lastUse + time < clockBound
  | _, _ => true

/-- A worker breaks off: the requests in its hands and those in its queue are lost. -/
def crash (s : State) (w : WorkerId) (worker : Worker) (inHand : List Request) : Outcome :=
  let lost := inHand ++ worker.queue
  let s := s.setWorker w { worker with queue := [], phase := .crashed, held := none }
  (lost.foldl (fun s request => s.post request.ticket .lost) s, [.crashed w lost])

/-- Be done with a batch, in which `size` requests were answered, and wait for the next
request. If the clock cannot be set the worker breaks off. -/
def finish (s : State) (w : WorkerId) (worker : Worker) (size : Nat) : Outcome :=
  let worker := { worker with answered := worker.answered + size }
  if clockFits settings worker then
    (s.setWorker w { worker with phase := .waiting }, [.finished w size])
  else
    let (s, events) := crash s w worker []
    (s, .finished w size :: events)

/-- Take the first request that waits. -/
def take (s : State) (w : WorkerId) (worker : Worker) : Option Outcome :=
  match worker.phase, worker.queue with
  | .waiting, request :: queue =>
    let s := s.count .lowerQueue
    let worker := { worker with queue := queue }
    if batchFits settings then
      some (s.setWorker w { worker with phase := .gathering [request] }, [.taken w request])
    else
      let (s, events) := crash s w worker [request]
      some (s, .taken w request :: events)
  | _, _ => none

/-- Take one more request that waits already. -/
def takeMore (s : State) (w : WorkerId) (worker : Worker) : Option Outcome :=
  match worker.phase, worker.queue with
  | .gathering batch, request :: queue =>
    if batch.length < settings.batchSize then
      some ((s.count .lowerQueue).setWorker w
        { worker with queue := queue, phase := .gathering (batch ++ [request]) },
        [.taken w request])
    else none
  | _, _ => none

/-- Go on to compute a batch with the model that is held. -/
def startComputing (s : State) (w : WorkerId) (worker : Worker) (batch : List Request) : State :=
  (s.count .addBatch).setWorker w { worker with phase := .computing batch }

/-- Take no more requests, when the batch is full or nothing more waits. -/
def closeBatch (s : State) (w : WorkerId) (worker : Worker) : Option Outcome :=
  match worker.phase with
  | .gathering batch =>
    if settings.batchSize ≤ batch.length || worker.queue.isEmpty then
      some (s.setWorker w { worker with phase := .checking [] batch }, [.gathered w batch])
    else none
  | _ => none

/-- Look whether somebody waits for the next request of a batch, or pass over it. -/
def check (s : State) (w : WorkerId) (worker : Worker) : Option Outcome :=
  match worker.phase with
  | .checking live (request :: rest) =>
    let awaited := s.isOpen request.ticket
    let live := if awaited then live ++ [request] else live
    some (s.setWorker w { worker with phase := .checking live rest },
      [.checked w request awaited])
  | _ => none

/-- Go on with the requests that somebody waits for, if there are any. -/
def proceed (s : State) (w : WorkerId) (worker : Worker) : Option Outcome :=
  match worker.phase with
  | .checking [] [] => some (finish settings s w worker 0)
  | .checking live [] =>
    match worker.held with
    | some _ => some (startComputing s w worker live, [])
    | none => some (s.setWorker w { worker with phase := .loading live, status := .loading }, [])
  | _ => none

/-- Answer every request of a batch with one failure. -/
def failAll (batch : List Request) (failure : Failure) : List (Request × ItemOutcome) :=
  batch.map fun request => (request, .error failure)

/-- The loader comes back. -/
def finishLoading (s : State) (w : WorkerId) (worker : Worker) (outcome : Attempt Unit) :
    Option Outcome :=
  match worker.phase with
  | .loading batch =>
    let events := [.loaded w outcome]
    let fail (failure : Failure) : Option Outcome :=
      some ((s.count (·.addFailed batch.length.toUInt64)).setWorker w
        { worker with
          phase := .replying (failAll batch failure) true batch.length
          status := .unloaded }, events)
    match outcome with
    | .done () =>
      let worker := { worker with
        held := some ⟨worker.loads + 1, s.now⟩
        loads := worker.loads + 1
        status := .loaded }
      some (startComputing (s.count .addLoad) w worker batch, events)
    | .failed failure => fail failure
    | .aborted => fail (.modelLoad settings.model.name .loaderAborted)
  | _ => none

/-- The computation of a batch ends; `engine` is what the model does this time. -/
def finishComputing (s : State) (w : WorkerId) (worker : Worker) (engine : Engine) :
    Option Outcome :=
  match worker.phase, worker.held with
  | .computing batch, some held =>
    let texts := batch.map Request.text
    let computation := engine.compute texts settings.effectiveDim
    let event : Event := .computed w engine texts computation.passes.length
    let reply (replies : List (Request × ItemOutcome)) : Worker :=
      { worker with
        phase := .replying replies false batch.length
        held := some { held with lastUse := s.now } }
    match computation.outcome with
    | .done outcomes => some (s.setWorker w (reply (batch.zip outcomes)), [event])
    | .failed failure => some (s.setWorker w (reply (failAll batch failure)), [event])
    | .aborted =>
      let failure := .compute settings.model.name .engineAborted
      some (s.setWorker w
        { reply (failAll batch failure) with held := none, status := .unloaded },
        [event, .released w .aborted])
  | _, _ => none

/-- Count a reply. -/
def countReply (s : State) : ItemOutcome → State
  | .ok _ => s.count (·.addProcessed 1)
  | .error _ => s.count (·.addFailed 1)

/-- Reply to the next request of a batch. -/
def reply (s : State) (w : WorkerId) (worker : Worker) : Option Outcome :=
  match worker.phase with
  | .replying ((request, outcome) :: replies) counted size =>
    let s := if counted then s else countReply s outcome
    let s := s.post request.ticket (.reply outcome)
    some (s.setWorker w { worker with phase := .replying replies counted size },
      [.replied w request outcome])
  | _ => none

/-- Finish a batch whose requests have all been answered. -/
def finishBatch (s : State) (w : WorkerId) (worker : Worker) : Option Outcome :=
  match worker.phase with
  | .replying [] _ size => some (finish settings s w worker size)
  | _ => none

/-- When a worker lets go of its model if nothing comes. -/
def idleAt? (worker : Worker) : Option Time :=
  match worker.phase, worker.held, settings.idleUnload with
  | .waiting, some held, some time => some (held.lastUse + time)
  | _, _, _ => none

/-- Let go of a model that nobody used. -/
def unload (s : State) (w : WorkerId) (worker : Worker) : Option Outcome :=
  match idleAt? settings worker with
  | some time =>
    if time ≤ s.now && worker.queue.isEmpty && s.hasSender w then
      some ((s.count .addIdleUnload).setWorker w
        { worker with held := none, status := .unloaded }, [.released w .idle])
    else none
  | none => none

/-- End. -/
def stop (s : State) (w : WorkerId) (worker : Worker) : Option Outcome :=
  match worker.phase with
  | .waiting =>
    if worker.queue.isEmpty && !s.hasSender w then
      let events := match worker.held with
        | some _ => [.released w .stop, .stopped w]
        | none => [.stopped w]
      some (s.setWorker w { worker with phase := .stopped, held := none, status := .stopped },
        events)
    else none
  | _ => none

end Matryoshka.Service.Labor
