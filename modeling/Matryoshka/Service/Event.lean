import Matryoshka.Service.State

/-!
# Events

What can be seen of a step from outside: answers to callers, and what happens to
requests and models on the way.
-/

namespace Matryoshka.Service

/-- Why a worker lets go of its model. -/
inductive Release where
  /-- Nobody used it. -/
  | idle
  /-- A computation broke off. -/
  | aborted
  /-- The worker ends. -/
  | stop
  deriving Repr, DecidableEq

/-- Something that happens. -/
inductive Event where
  /-- A call is answered with one outcome for each text. -/
  | answered (call : CallId) (outcomes : List ItemOutcome)
  /-- A caller goes away, perhaps with a request that never entered a queue. -/
  | left (call : CallId) (unsent : Option Request)
  /-- A call for the end of a worker is answered; there may have been none. -/
  | ended (call : CallId) (worker : Option WorkerId) (result : Except Failure Nat)
  /-- A text is looked up. -/
  | lookedUp (call : CallId) (text : String) (found : Bool)
  /-- A vector is remembered. -/
  | remembered (key : Key) (embedding : Embedding)
  /-- A request enters the queue of a worker. -/
  | accepted (worker : WorkerId) (request : Request)
  /-- A request leaves the queue of a worker. -/
  | taken (worker : WorkerId) (request : Request)
  /-- A worker has gathered a batch. -/
  | gathered (worker : WorkerId) (batch : List Request)
  /-- A worker looks whether somebody waits for a request of its batch. -/
  | checked (worker : WorkerId) (request : Request) (awaited : Bool)
  /-- The loader comes back. -/
  | loaded (worker : WorkerId) (outcome : Attempt Unit)
  /-- A computation ends after some forward passes; `engine` is what the model did. -/
  | computed (worker : WorkerId) (engine : Engine) (texts : List String) (passes : Nat)
  /-- A worker lets go of its model. -/
  | released (worker : WorkerId) (cause : Release)
  /-- A worker replies to a request. -/
  | replied (worker : WorkerId) (request : Request) (outcome : ItemOutcome)
  /-- A worker is done with a batch, in which it answered some requests. -/
  | finished (worker : WorkerId) (answered : Nat)
  /-- A worker ends. -/
  | stopped (worker : WorkerId)
  /-- A worker breaks off, and the requests it has are lost. -/
  | crashed (worker : WorkerId) (lost : List Request)

end Matryoshka.Service
