import Matryoshka.Service.Event

/-!
# Steps of callers

A caller looks at its texts one after the other. A text that the cache knows is
settled at once; any other becomes a request, which waits for room in the queue
until the deadline. When all texts are handed in, their replies are collected in
order. A reply that is late is reported as a timeout, but it is still awaited and
remembered. Each function is one step; it gives nothing when the step is not
possible.
-/

namespace Matryoshka.Service

/-- A state and what happened on the way to it. -/
abbrev Outcome := State × List Event

namespace Caller

variable (settings : Settings)

/-- The text of the request that only loads the model. -/
def warmUpText : String := "warmup"

/-- The failure of an answer that did not come in time; the time is a word of 64 bits. -/
def late : Failure := .timeout (settings.requestTimeout % UInt64.size)

/-- A new call that looks its texts up in the cache. -/
def newCall (s : State) (id : CallId) (texts : List String) : Call where
  id := id
  cached := true
  deadline := s.now + settings.requestTimeout
  texts := texts
  stage := .handing

/-- A new call that goes to the worker with one text, whatever the cache knows. -/
def newProbe (s : State) (id : CallId) (text : String) : Call where
  id := id
  cached := false
  deadline := s.now + settings.requestTimeout
  texts := []
  stage := .submitting text

/-- Begin a call. -/
def begin (s : State) (call : Call) : Option Outcome :=
  match s.call? call.id with
  | some _ => none
  | none => some ({ s with calls := s.calls ++ [call] }, [])

/-- Settle the text at hand. -/
def settle (call : Call) (outcome : ItemOutcome) : Call :=
  { call with stage := .handing, slots := call.slots ++ [.settled outcome] }

/-- Look the next text up. -/
def lookUp (s : State) (call : Call) : Option Outcome :=
  match call.stage, call.texts with
  | .handing, text :: texts =>
    let call := { call with texts := texts }
    let (found, cache) := s.cache.get (keyOf settings text)
    let s := { s with cache := cache }
    match found with
    | some embedding =>
      some (s.setCall (settle call (.ok embedding)), [.lookedUp call.id text true])
    | none =>
      some (s.setCall { call with stage := .submitting text }, [.lookedUp call.id text false])
  | _, _ => none

/-- Go to the worker with a text. -/
def submit (s : State) (call : Call) : Option Outcome :=
  match call.stage with
  | .submitting text =>
    match s.handle with
    | none => some (s.setCall (settle call (.error (.unavailable .notRunning))), [])
    | some w =>
      let request : Request := ⟨s.nextTicket, text⟩
      let s := { s with nextTicket := s.nextTicket + 1 }
      some ((s.count .raiseQueue).setCall { call with stage := .sending w request }, [])
  | _ => none

/-- Put the request into the queue, or learn that nobody reads it any more. -/
def send (s : State) (call : Call) : Option Outcome :=
  match call.stage with
  | .sending w request =>
    match s.workers[w]? with
    | none => none
    | some worker =>
      if worker.isGone then
        some ((s.count .lowerQueue).setCall
          (settle call (.error (.unavailable .shuttingDown))), [])
      else if worker.queue.length < settings.queueCapacity then
        let call := { call with
          stage := .handing
          slots := call.slots ++ [.open request.text request.ticket] }
        some ((s.setWorker w { worker with queue := worker.queue ++ [request] }).setCall call,
          [.accepted w request])
      else none
  | _ => none

/-- Give up waiting for room in the queue. Room that is there may be promised to the other
callers that wait for it. -/
def giveUp (s : State) (call : Call) : Option Outcome :=
  match call.stage with
  | .sending w _ =>
    match s.workers[w]? with
    | none => none
    | some worker =>
      if !worker.isGone && settings.queueCapacity < worker.queue.length + s.sendersTo w &&
          call.deadline ≤ s.now then
        some ((s.count .lowerQueue).setCall
          (settle call (.error (.unavailable .queueFull))), [])
      else none
  | _ => none

/-- Remember the vector of a reply. -/
def remember (s : State) (text : String) : ItemOutcome → Outcome
  | .ok embedding =>
    let key := keyOf settings text
    ({ s with cache := s.cache.put key embedding }, [.remembered key embedding])
  | .error _ => (s, [])

/-- What a caller is told by a letter. -/
def outcomeOf : Letter → ItemOutcome
  | .reply outcome => outcome
  | .lost => .error (.unavailable .droppedRequest)

/-- Put the outcome of the first slot behind the others. -/
def collected (call : Call) (slots : List Slot) (outcome : ItemOutcome) : Call :=
  { call with slots := slots, outcomes := call.outcomes ++ [outcome] }

/-- Collect the outcome of the next text. -/
def collect (s : State) (call : Call) : Option Outcome :=
  if call.isCollecting then
    match call.slots with
    | .settled outcome :: slots => some (s.setCall (collected call slots outcome), [])
    | .open text ticket :: slots =>
      match s.letter? ticket with
      | none => none
      | some letter =>
        let outcome := outcomeOf letter
        let (s, events) :=
          if call.cached then remember settings (s.takeLetter ticket) text outcome
          else (s.takeLetter ticket, [])
        some (s.setCall (collected call slots outcome), events)
    | [] => none
  else none

/-- Stop waiting for the reply to the next text. -/
def expire (s : State) (call : Call) : Option Outcome :=
  if call.isCollecting && call.deadline ≤ s.now then
    match call.slots with
    | .open text ticket :: slots =>
      match s.letter? ticket with
      | some _ => none
      | none =>
        let s := if call.cached then { s with late := s.late ++ [⟨ticket, text⟩] } else s
        some (s.setCall (collected call slots (.error (late settings))), [])
    | _ => none
  else none

/-- Answer a call whose outcomes have all been collected. -/
def answer (s : State) (call : Call) : Option Outcome :=
  if call.isCollecting && call.slots.isEmpty then
    some (s.removeCall call.id, [.answered call.id call.outcomes])
  else none

/-- Whether a caller waits for something. -/
def isWaiting (call : Call) : Bool :=
  match call.stage, call.texts, call.slots with
  | .sending _ _, _, _ => true
  | .handing, [], .open _ _ :: _ => true
  | _, _, _ => false

/-- The request that a call wants to put into a queue. -/
def unsent? (call : Call) : Option Request :=
  match call.stage with
  | .sending _ request => some request
  | _ => none

/-- A caller goes away. What it would have collected is thrown away, and a request that
has not entered the queue never will. -/
def leave (s : State) (call : Call) : Option Outcome :=
  if isWaiting call then
    let s := s.removeCall call.id
    some ({ s with letters := s.letters.filter fun entry => !call.holds entry.1 },
      [.left call.id (unsent? call)])
  else none

/-- Remember a vector that came late, or forget that it was awaited. -/
def receiveLate (s : State) (ticket : Ticket) : Option Outcome :=
  match s.late.find? (fun l => l.ticket == ticket), s.letter? ticket with
  | some l, some letter =>
    let s := { s.takeLetter ticket with late := s.late.filter fun l => l.ticket != ticket }
    match letter with
    | .reply outcome => some (remember settings s l.text outcome)
    | .lost => some (s, [])
  | _, _ => none

end Caller

end Matryoshka.Service
