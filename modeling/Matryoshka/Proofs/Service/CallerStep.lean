import Matryoshka.Service.Step

/-!
# The steps of a caller

Like those of a worker, the steps of a caller are listed one by one (`CallerStep`), each
with what made it possible and with the state it leads to written out. Every step of a
caller is in the list (`callerStep_of_stepCaller`).
-/

namespace Matryoshka.Service

/-- The calls after one of them has moved on. -/
def State.callsWith (s : State) (call : Call) : List Call :=
  s.calls.map fun c => if c.id = call.id then call else c

/-- The calls after one of them is gone. -/
def State.callsWithout (s : State) (id : CallId) : List Call := s.calls.filter fun c => c.id != id

/-- The letters under other tickets. -/
def State.lettersWithout (s : State) (ticket : Ticket) : List (Ticket × Letter) :=
  s.letters.filter fun entry => entry.1 != ticket

/-- The cache after the reply for a text was received. -/
def remembered (settings : Settings) (cache : Cache Key Embedding) (text : String) :
    ItemOutcome → Cache Key Embedding
  | .ok embedding => cache.put (keyOf settings text) embedding
  | .error _ => cache

/-- What is seen when the reply for a text is received. -/
def rememberEvents (settings : Settings) (text : String) : ItemOutcome → List Event
  | .ok embedding => [.remembered (keyOf settings text) embedding]
  | .error _ => []

/-- A step of a caller: the state after it, and what is seen. -/
inductive CallerStep (settings : Settings) (s : State) (call : Call) :
    CallerMove → State → List Event → Prop
  /-- It finds a text in the cache. -/
  | find {text : String} {rest : List String} {embedding : Embedding}
      (handing : call.stage = .handing) (next : call.texts = text :: rest)
      (known : s.cache.find? (keyOf settings text) = some embedding) :
      CallerStep settings s call .lookUp
        { s with
          cache := (s.cache.get (keyOf settings text)).2
          calls := s.callsWith (Caller.settle { call with texts := rest } (.ok embedding)) }
        [.lookedUp call.id text true]
  /-- It does not find a text in the cache. -/
  | miss {text : String} {rest : List String} (handing : call.stage = .handing)
      (next : call.texts = text :: rest)
      (unknown : s.cache.find? (keyOf settings text) = none) :
      CallerStep settings s call .lookUp
        { s with
          cache := (s.cache.get (keyOf settings text)).2
          calls := s.callsWith { call with texts := rest, stage := .submitting text } }
        [.lookedUp call.id text false]
  /-- It goes to the worker when there is none. -/
  | turnedAway {text : String} (submitting : call.stage = .submitting text)
      (nobody : s.handle = none) :
      CallerStep settings s call .submit
        { s with
          calls := s.callsWith (Caller.settle call (.error (.unavailable .notRunning))) } []
  /-- It goes to the worker. -/
  | submit {text : String} {w : WorkerId} (submitting : call.stage = .submitting text)
      (held : s.handle = some w) :
      CallerStep settings s call .submit
        { s with
          nextTicket := s.nextTicket + 1
          counters := s.counters.raiseQueue
          calls := s.callsWith { call with stage := .sending w ⟨s.nextTicket, text⟩ } } []
  /-- It learns that nobody reads the queue any more. -/
  | shutOut {w : WorkerId} {request : Request} {worker : Worker}
      (sending : call.stage = .sending w request) (found : s.workers[w]? = some worker)
      (gone : worker.isGone = true) :
      CallerStep settings s call .send
        { s with
          counters := s.counters.lowerQueue
          calls := s.callsWith (Caller.settle call (.error (.unavailable .shuttingDown))) } []
  /-- It puts its request into the queue. -/
  | send {w : WorkerId} {request : Request} {worker : Worker}
      (sending : call.stage = .sending w request) (found : s.workers[w]? = some worker)
      (there : worker.isGone = false) (room : worker.queue.length < settings.queueCapacity) :
      CallerStep settings s call .send
        { s with
          workers := s.workers.set w { worker with queue := worker.queue ++ [request] }
          calls := s.callsWith { call with
            stage := .handing
            slots := call.slots ++ [.open request.text request.ticket] } }
        [.accepted w request]
  /-- It gives up waiting for room. -/
  | giveUp {w : WorkerId} {request : Request} {worker : Worker}
      (sending : call.stage = .sending w request) (found : s.workers[w]? = some worker)
      (there : worker.isGone = false)
      (crowded : settings.queueCapacity < worker.queue.length + s.sendersTo w)
      (due : call.deadline ≤ s.now) :
      CallerStep settings s call .giveUp
        { s with
          counters := s.counters.lowerQueue
          calls := s.callsWith (Caller.settle call (.error (.unavailable .queueFull))) } []
  /-- It collects an outcome that is known. -/
  | collectSettled {outcome : ItemOutcome} {slots : List Slot}
      (collecting : call.isCollecting = true) (next : call.slots = .settled outcome :: slots) :
      CallerStep settings s call .collect
        { s with calls := s.callsWith (Caller.collected call slots outcome) } []
  /-- It receives a reply, and remembers it if it uses the cache. -/
  | receive {text : String} {ticket : Ticket} {slots : List Slot} {letter : Letter}
      (collecting : call.isCollecting = true) (next : call.slots = .open text ticket :: slots)
      (arrived : s.letter? ticket = some letter) :
      CallerStep settings s call .collect
        { s with
          letters := s.lettersWithout ticket
          cache :=
            if call.cached then remembered settings s.cache text (Caller.outcomeOf letter)
            else s.cache
          calls := s.callsWith (Caller.collected call slots (Caller.outcomeOf letter)) }
        (if call.cached then rememberEvents settings text (Caller.outcomeOf letter) else [])
  /-- It stops waiting for a reply, which is still awaited if the caller uses the cache. -/
  | expire {text : String} {ticket : Ticket} {slots : List Slot}
      (collecting : call.isCollecting = true) (next : call.slots = .open text ticket :: slots)
      (due : call.deadline ≤ s.now) (missing : s.letter? ticket = none) :
      CallerStep settings s call .expire
        { s with
          late := if call.cached then s.late ++ [⟨ticket, text⟩] else s.late
          calls := s.callsWith
            (Caller.collected call slots (.error (Caller.late settings))) } []
  /-- It answers. -/
  | answer (collecting : call.isCollecting = true) (all : call.slots = []) :
      CallerStep settings s call .answer { s with calls := s.callsWithout call.id }
        [.answered call.id call.outcomes]
  /-- It goes away. -/
  | leave (waiting : Caller.isWaiting call = true) :
      CallerStep settings s call .leave
        { s with
          calls := s.callsWithout call.id
          letters := s.letters.filter fun entry => !call.holds entry.1 }
        [.left call.id (Caller.unsent? call)]

/-- Remembering changes nothing but the cache. -/
theorem remember_eq (settings : Settings) (s : State) (text : String) (outcome : ItemOutcome) :
    Caller.remember settings s text outcome =
      ({ s with cache := remembered settings s.cache text outcome },
        rememberEvents settings text outcome) := by
  cases outcome <;> rfl

/-- Receiving a reply is seen as remembering a vector, or not at all. -/
theorem eq_remembered_of_mem {settings : Settings} {text : String} {outcome : ItemOutcome}
    {event : Event} (member : event ∈ rememberEvents settings text outcome) :
    ∃ embedding, event = .remembered (keyOf settings text) embedding := by
  cases outcome with
  | error failure => cases member
  | ok embedding => exact ⟨embedding, List.mem_singleton.1 member⟩

section Caller

variable {settings : Settings} {s t : State} {call : Call} {events : List Event}

/-- Looking a text up is one of two steps. -/
theorem callerStep_of_lookUp (moved : Caller.lookUp settings s call = some (t, events)) :
    CallerStep settings s call .lookUp t events := by
  unfold Caller.lookUp at moved
  split at moved
  · rename_i text rest handing next
    cases known : s.cache.find? (keyOf settings text) with
    | some embedding =>
      have step := CallerStep.find handing next known
      simp only [Cache.get, known] at moved step
      cases moved
      exact step
    | none =>
      have step := CallerStep.miss handing next known
      simp only [Cache.get, known] at moved step
      cases moved
      exact step
  · cases moved

/-- Going to the worker is one of two steps. -/
theorem callerStep_of_submit (moved : Caller.submit s call = some (t, events)) :
    CallerStep settings s call .submit t events := by
  unfold Caller.submit at moved
  split at moved
  · rename_i text submitting
    split at moved
    · rename_i nobody
      cases moved
      exact .turnedAway submitting nobody
    · rename_i w held
      cases moved
      exact .submit submitting held
  · cases moved

/-- Sending is one of two steps. -/
theorem callerStep_of_send (moved : Caller.send settings s call = some (t, events)) :
    CallerStep settings s call .send t events := by
  unfold Caller.send at moved
  split at moved
  · rename_i w request sending
    split at moved
    · cases moved
    · rename_i worker found
      split at moved
      · rename_i gone
        cases moved
        exact .shutOut sending found gone
      · rename_i there
        split at moved
        · rename_i room
          cases moved
          exact .send sending found (by simpa using there) room
        · cases moved
  · cases moved

/-- Giving up is a step. -/
theorem callerStep_of_giveUp (moved : Caller.giveUp settings s call = some (t, events)) :
    CallerStep settings s call .giveUp t events := by
  unfold Caller.giveUp at moved
  split at moved
  · rename_i w request sending
    split at moved
    · cases moved
    · rename_i worker found
      split at moved
      · rename_i possible
        cases moved
        simp only [Bool.and_eq_true, Bool.not_eq_eq_eq_not, Bool.not_true, decide_eq_true_eq]
          at possible
        obtain ⟨⟨there, crowded⟩, due⟩ := possible
        exact .giveUp sending found there crowded due
      · cases moved
  · cases moved

/-- Collecting is one of two steps. -/
theorem callerStep_of_collect (moved : Caller.collect settings s call = some (t, events)) :
    CallerStep settings s call .collect t events := by
  unfold Caller.collect at moved
  split at moved
  · rename_i collecting
    split at moved
    · rename_i outcome slots next
      cases moved
      exact .collectSettled collecting next
    · rename_i text ticket slots next
      split at moved
      · cases moved
      · rename_i letter arrived
        have step : CallerStep settings s call .collect _ _ := .receive collecting next arrived
        cases cached : call.cached with
        | true =>
          simp only [cached, ↓reduceIte, remember_eq] at moved step
          cases moved
          exact step
        | false =>
          simp only [cached] at moved step
          cases moved
          exact step
    · cases moved
  · cases moved

/-- Stopping to wait for a reply is a step. -/
theorem callerStep_of_expire (moved : Caller.expire settings s call = some (t, events)) :
    CallerStep settings s call .expire t events := by
  unfold Caller.expire at moved
  split at moved
  · rename_i possible
    simp only [Bool.and_eq_true, decide_eq_true_eq] at possible
    obtain ⟨collecting, due⟩ := possible
    split at moved
    · rename_i text ticket slots next
      split at moved
      · cases moved
      · rename_i missing
        have step : CallerStep settings s call .expire _ _ :=
          .expire collecting next due missing
        cases cached : call.cached with
        | true =>
          simp only [cached, ↓reduceIte] at moved step
          cases moved
          exact step
        | false =>
          simp only [cached] at moved step
          cases moved
          exact step
    · cases moved
  · cases moved

/-- Answering is a step. -/
theorem callerStep_of_answer (moved : Caller.answer s call = some (t, events)) :
    CallerStep settings s call .answer t events := by
  unfold Caller.answer at moved
  split at moved
  · rename_i possible
    simp only [Bool.and_eq_true, List.isEmpty_iff] at possible
    cases moved
    exact .answer possible.1 possible.2
  · cases moved

/-- Going away is a step. -/
theorem callerStep_of_leave (moved : Caller.leave s call = some (t, events)) :
    CallerStep settings s call .leave t events := by
  unfold Caller.leave at moved
  split at moved
  · rename_i waiting
    cases moved
    exact .leave waiting
  · cases moved

/-- Every step of a caller is in the list. -/
theorem callerStep_of_stepCaller {move : CallerMove}
    (moved : stepCaller settings s call move = some (t, events)) :
    CallerStep settings s call move t events := by
  cases move with
  | lookUp => exact callerStep_of_lookUp moved
  | submit => exact callerStep_of_submit moved
  | send => exact callerStep_of_send moved
  | giveUp => exact callerStep_of_giveUp moved
  | collect => exact callerStep_of_collect moved
  | expire => exact callerStep_of_expire moved
  | answer => exact callerStep_of_answer moved
  | leave => exact callerStep_of_leave moved

end Caller

end Matryoshka.Service
