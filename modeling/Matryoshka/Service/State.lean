import Matryoshka.Cache
import Matryoshka.Counters
import Matryoshka.Engine
import Matryoshka.Settings
import Matryoshka.Status

/-!
# The state of a service

A service has callers, workers and what they share. A caller looks its texts up in
the cache, hands those that are not there to the worker through a bounded queue, and
collects the replies. A worker takes requests off its queue in batches, loads the
model when it needs it, computes, and replies. The service holds at most one worker
by its handle; workers that were let go still finish what is in their queues.

Every request has a ticket. The reply to a request is a letter under its ticket, and
a ticket is open as long as somebody may still collect the letter.
-/

namespace Matryoshka.Service

/-- A moment, in milliseconds. -/
abbrev Time := Nat

/-- The number of a request. -/
abbrev Ticket := Nat

/-- The number of a worker, in the order of their start. -/
abbrev WorkerId := Nat

/-- The number of a call. -/
abbrev CallId := Nat

/-- What a vector is remembered by. -/
structure Key where
  /-- The text. -/
  text : String
  /-- The number of components. -/
  dim : Nat
  /-- The name of the model. -/
  model : String
  deriving Repr, DecidableEq

/-- A text on its way to a worker. -/
structure Request where
  /-- Where the reply goes. -/
  ticket : Ticket
  /-- The text. -/
  text : String
  deriving Repr, DecidableEq

/-- What has become of a request. -/
inductive Letter where
  /-- It was computed. -/
  | reply (outcome : ItemOutcome)
  /-- Its worker vanished. -/
  | lost

/-! ## Workers -/

/-- A model in the hands of a worker. -/
structure Held where
  /-- How many models the worker has loaded up to this one. -/
  number : Nat
  /-- When it was loaded or computed last. -/
  lastUse : Time
  deriving Repr, DecidableEq

/-- What a worker is doing. -/
inductive Phase where
  /-- It waits for a request. -/
  | waiting
  /-- It has taken requests and may take more. -/
  | gathering (batch : List Request)
  /-- It looks which requests of a batch somebody waits for: `live` of those it has looked
  at, and it has not looked at `rest`. -/
  | checking (live rest : List Request)
  /-- It waits for the loader, to compute a batch. -/
  | loading (batch : List Request)
  /-- It computes a batch. -/
  | computing (batch : List Request)
  /-- It replies to a batch of `size` requests; `counted` says whether the replies have
  been counted already. -/
  | replying (replies : List (Request × ItemOutcome)) (counted : Bool) (size : Nat)
  /-- It has ended. -/
  | stopped
  /-- It broke off. -/
  | crashed

/-- A worker. -/
structure Worker where
  /-- The requests handed to it and not taken yet, the oldest in front. -/
  queue : List Request := []
  /-- What it is doing. -/
  phase : Phase := .waiting
  /-- The model it holds. -/
  held : Option Held := none
  /-- The models it has loaded so far. -/
  loads : Nat := 0
  /-- What it has published about itself. -/
  status : WorkerStatus := .unloaded
  /-- The requests it has answered in finished batches. -/
  answered : Nat := 0

namespace Worker

/-- Whether nobody reads the queue any more. -/
def isGone (worker : Worker) : Bool :=
  match worker.phase with
  | .stopped | .crashed => true
  | _ => false

end Worker

/-! ## Callers -/

/-- The place of a text in the answer of a call. -/
inductive Slot where
  /-- The outcome is known. -/
  | settled (outcome : ItemOutcome)
  /-- The outcome comes under a ticket. -/
  | open (text : String) (ticket : Ticket)

/-- What a caller is doing. -/
inductive Stage where
  /-- It hands in texts that it has not looked at yet. -/
  | handing
  /-- It goes to the worker with a text. -/
  | submitting (text : String)
  /-- It waits for room in the queue of a worker. -/
  | sending (worker : WorkerId) (request : Request)
  deriving Repr, DecidableEq

/-- A call for vectors. -/
structure Call where
  /-- The number of the call. -/
  id : CallId
  /-- Whether the cache is used. -/
  cached : Bool
  /-- When the caller stops waiting. -/
  deadline : Time
  /-- The texts that have not been looked at, after the one at hand. -/
  texts : List String
  /-- What the caller is doing. -/
  stage : Stage
  /-- The places of the texts handed in and not collected. -/
  slots : List Slot := []
  /-- The outcomes collected so far. -/
  outcomes : List ItemOutcome := []

namespace Call

/-- Whether a call waits for the letter under a ticket, now or later. -/
def holds (call : Call) (ticket : Ticket) : Bool :=
  call.slots.any fun
    | .open _ t => t == ticket
    | .settled _ => false

/-- Whether a call may still put a request into the queue of a worker. -/
def sendsTo (call : Call) (worker : WorkerId) : Bool :=
  match call.stage with
  | .sending w _ => w == worker
  | _ => false

/-- Whether all texts have been handed in. -/
def isCollecting (call : Call) : Bool :=
  match call.stage, call.texts with
  | .handing, [] => true
  | _, _ => false

end Call

/-- A call for the end of a worker. -/
structure Ending where
  /-- The number of the call. -/
  id : CallId
  /-- The worker that is to end. -/
  worker : WorkerId
  /-- How long the caller waits. -/
  patience : Nat
  /-- When the caller stops waiting. -/
  deadline : Time
  deriving Repr, DecidableEq

/-- A letter that is awaited although its caller has been told that it is late. -/
structure Late where
  /-- The ticket of the letter. -/
  ticket : Ticket
  /-- The text of the request. -/
  text : String
  deriving Repr, DecidableEq

/-! ## The service -/

/-- A service with all its callers and workers. -/
structure State where
  /-- The time. -/
  now : Time := 0
  /-- Every worker that was ever started. -/
  workers : List Worker := []
  /-- The worker that new requests go to. -/
  handle : Option WorkerId := none
  /-- The calls that have not been answered. -/
  calls : List Call := []
  /-- The calls for the end of a worker that have not been answered. -/
  endings : List Ending := []
  /-- Letters that are awaited after their time. -/
  late : List Late := []
  /-- Letters that have not been collected. -/
  letters : List (Ticket × Letter) := []
  /-- The next ticket. -/
  nextTicket : Ticket := 0
  /-- Vectors remembered. -/
  cache : Cache Key Embedding
  /-- What has happened so far. -/
  counters : Counters := {}

/-- A service before its first start. -/
def initial (settings : Settings) : State := { cache := .empty settings.cacheCapacity }

/-- What the vector of a text is remembered by. -/
def keyOf (settings : Settings) (text : String) : Key :=
  ⟨text, settings.effectiveDim, settings.model.name⟩

namespace State

/-- Whether somebody may still collect the letter under a ticket. -/
def isOpen (s : State) (ticket : Ticket) : Bool :=
  s.calls.any (·.holds ticket) || s.late.any (·.ticket == ticket)

/-- Whether somebody may still put a request into the queue of a worker. -/
def hasSender (s : State) (worker : WorkerId) : Bool :=
  s.handle == some worker || s.calls.any (·.sendsTo worker)

/-- How many calls wait to put a request into the queue of a worker. -/
def sendersTo (s : State) (worker : WorkerId) : Nat := s.calls.countP (·.sendsTo worker)

/-- The letter under a ticket. -/
def letter? (s : State) (ticket : Ticket) : Option Letter := s.letters.lookup ticket

/-- The letters under other tickets. -/
def takeLetter (s : State) (ticket : Ticket) : State :=
  { s with letters := s.letters.filter fun entry => entry.1 != ticket }

/-- Write a letter, unless nobody may collect it. -/
def post (s : State) (ticket : Ticket) (letter : Letter) : State :=
  if s.isOpen ticket then { s with letters := s.letters ++ [(ticket, letter)] } else s

/-- Replace a worker. -/
def setWorker (s : State) (w : WorkerId) (worker : Worker) : State :=
  { s with workers := s.workers.set w worker }

/-- Replace a call by its later state. -/
def setCall (s : State) (call : Call) : State :=
  { s with calls := s.calls.map fun c => if c.id = call.id then call else c }

/-- The calls without one. -/
def removeCall (s : State) (id : CallId) : State :=
  { s with calls := s.calls.filter fun c => c.id != id }

/-- The calls for an end without one. -/
def removeEnding (s : State) (id : CallId) : State :=
  { s with endings := s.endings.filter fun e => e.id != id }

/-- The call with a number. -/
def call? (s : State) (id : CallId) : Option Call := s.calls.find? fun c => c.id = id

/-- The call for an end with a number. -/
def ending? (s : State) (id : CallId) : Option Ending := s.endings.find? fun e => e.id = id

/-- Count something. -/
def count (s : State) (change : Counters → Counters) : State :=
  { s with counters := change s.counters }

end State

end Matryoshka.Service
