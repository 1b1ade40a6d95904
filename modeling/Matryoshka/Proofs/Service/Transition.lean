import Matryoshka.Proofs.Service.CallerStep
import Matryoshka.Proofs.Service.WorkerStep

/-!
# The steps of a service

A service moves by the steps of its callers and workers, and by what happens outside of
them. All of these are listed one by one (`Transition`), and every step of a service is in
the list (`transition_of_step`).
-/

namespace Matryoshka.Service

/-- A step of a service: the state after it, and what is seen. -/
inductive Transition (settings : Settings) (s : State) : Label → State → List Event → Prop
  /-- A start changes nothing when there is a worker. -/
  | startHeld {w : WorkerId} (held : s.handle = some w) : Transition settings s .start s []
  /-- A worker is started. -/
  | start (nobody : s.handle = none) :
      Transition settings s .start
        { s with workers := s.workers ++ [{}], handle := some s.workers.length } []
  /-- A call begins. -/
  | embed {id : CallId} {texts : List String} (fresh : s.call? id = none) :
      Transition settings s (.embed id texts)
        { s with calls := s.calls ++ [Caller.newCall settings s id texts] } []
  /-- A call that does not use the cache begins. -/
  | probe {id : CallId} {text : String} (fresh : s.call? id = none) :
      Transition settings s (.probe id text)
        { s with calls := s.calls ++ [Caller.newProbe settings s id text] } []
  /-- There is no worker to end. -/
  | shutDownNobody {id : CallId} {patience : Nat} (fresh : s.ending? id = none)
      (nobody : s.handle = none) :
      Transition settings s (.shutDown id patience) s [.ended id none (.ok 0)]
  /-- The worker is let go. -/
  | shutDown {id : CallId} {patience : Nat} {w : WorkerId} (fresh : s.ending? id = none)
      (held : s.handle = some w) :
      Transition settings s (.shutDown id patience)
        { s with
          handle := none
          endings := s.endings ++ [⟨id, w, patience, s.now + patience⟩] } []
  /-- A caller moves. -/
  | caller {id : CallId} {move : CallerMove} {call : Call} {t : State} {events : List Event}
      (found : s.call? id = some call) (step : CallerStep settings s call move t events) :
      Transition settings s (.caller id move) t events
  /-- A letter comes after its time. -/
  | receiveLate {ticket : Ticket} {l : Late} {letter : Letter}
      (awaited : s.late.find? (fun l => l.ticket == ticket) = some l)
      (arrived : s.letter? ticket = some letter) :
      Transition settings s (.receiveLate ticket)
        { s with
          letters := s.lettersWithout ticket
          late := s.late.filter fun l => l.ticket != ticket
          cache := remembered settings s.cache l.text (Caller.outcomeOf letter) }
        (rememberEvents settings l.text (Caller.outcomeOf letter))
  /-- A worker moves. -/
  | worker {w : WorkerId} {move : WorkerMove} {worker worker' : Worker} {counters : Counters}
      {written : List (Ticket × Letter)} {events : List Event}
      (found : s.workers[w]? = some worker)
      (step : WorkerStep settings s w worker move worker' counters written events) :
      Transition settings s (.worker w move) (s.afterWorker w worker' counters written) events
  /-- The caller of an end is told about it. -/
  | finishEnding {id : CallId} {ending : Ending} {result : Except Failure Nat}
      (found : s.ending? id = some ending) (known : endingResult? s ending = some result) :
      Transition settings s (.finishEnding id) (s.removeEnding id)
        [.ended id (some ending.worker) result]
  /-- The caller of an end is told that it takes too long. -/
  | expireEnding {id : CallId} {ending : Ending} (found : s.ending? id = some ending)
      (unknown : endingResult? s ending = none) (due : ending.deadline ≤ s.now) :
      Transition settings s (.expireEnding id) (s.removeEnding id)
        [.ended id (some ending.worker)
          (.error (.timeout (ending.patience % UInt64.size)))]
  /-- The caller of an end goes away. -/
  | leaveEnding {id : CallId} {ending : Ending} (found : s.ending? id = some ending) :
      Transition settings s (.leaveEnding id) (s.removeEnding id) []
  /-- Time passes. -/
  | pass (time : Nat) : Transition settings s (.pass time) { s with now := s.now + time } []

section Service

variable {settings : Settings} {s t : State} {events : List Event}

/-- The call with a number has this number. -/
theorem id_of_call? {id : CallId} {call : Call} (found : s.call? id = some call) :
    call.id = id := by
  simpa using List.find?_some found

/-- The call for an end with a number has this number. -/
theorem id_of_ending? {id : CallId} {ending : Ending} (found : s.ending? id = some ending) :
    ending.id = id := by
  simpa using List.find?_some found

/-- The beginning of a call adds it to the others. -/
theorem begin_eq {call : Call} (moved : Caller.begin s call = some (t, events)) :
    s.call? call.id = none ∧ t = { s with calls := s.calls ++ [call] } ∧ events = [] := by
  unfold Caller.begin at moved
  split at moved
  · cases moved
  · rename_i fresh
    cases moved
    exact ⟨fresh, rfl, rfl⟩

/-- Receiving a letter after its time is a step. -/
theorem transition_of_receiveLate {ticket : Ticket}
    (moved : Caller.receiveLate settings s ticket = some (t, events)) :
    Transition settings s (.receiveLate ticket) t events := by
  unfold Caller.receiveLate at moved
  split at moved
  · rename_i l letter awaited arrived
    have step : Transition settings s (.receiveLate ticket) _ _ :=
      .receiveLate awaited arrived
    cases letter with
    | reply outcome =>
      simp only [remember_eq] at moved
      cases moved
      exact step
    | lost =>
      cases moved
      exact step
  · cases moved

/-- A call for an end is one of two steps. -/
theorem transition_of_shutDown {id : CallId} {patience : Nat}
    (moved : shutDown s id patience = some (t, events)) :
    Transition settings s (.shutDown id patience) t events := by
  unfold shutDown at moved
  split at moved
  · cases moved
  · rename_i fresh nobody
    cases moved
    exact .shutDownNobody fresh nobody
  · rename_i w fresh held
    cases moved
    exact .shutDown fresh held

/-- Every step of a service is in the list. -/
theorem transition_of_step {label : Label}
    (moved : step settings s label = some (t, events)) :
    Transition settings s label t events := by
  cases label with
  | start =>
    cases moved
    unfold start
    split
    · rename_i w held
      exact .startHeld held
    · rename_i nobody
      exact .start nobody
  | embed id texts =>
    obtain ⟨fresh, rfl, rfl⟩ := begin_eq moved
    exact .embed fresh
  | probe id text =>
    obtain ⟨fresh, rfl, rfl⟩ := begin_eq moved
    exact .probe fresh
  | shutDown id patience => exact transition_of_shutDown moved
  | caller id move =>
    simp only [step] at moved
    split at moved
    · rename_i call found
      exact .caller found (callerStep_of_stepCaller moved)
    · cases moved
  | receiveLate ticket => exact transition_of_receiveLate moved
  | worker w move =>
    simp only [step] at moved
    split at moved
    · rename_i worker found
      obtain ⟨worker', counters, written, stepped, rfl⟩ := workerLeads_of_stepWorker moved
      exact .worker found stepped
    · cases moved
  | finishEnding id =>
    simp only [step] at moved
    split at moved
    · rename_i ending found
      simp only [finishEnding, Option.bind_eq_bind, Option.bind_eq_some_iff] at moved
      obtain ⟨result, known, told⟩ := moved
      cases told
      rw [id_of_ending? found]
      exact .finishEnding found known
    · cases moved
  | expireEnding id =>
    simp only [step] at moved
    split at moved
    · rename_i ending found
      unfold expireEnding at moved
      split at moved
      · cases moved
      · rename_i unknown
        split at moved
        · rename_i due
          cases moved
          rw [id_of_ending? found]
          exact .expireEnding found unknown due
        · cases moved
    · cases moved
  | leaveEnding id =>
    simp only [step] at moved
    split at moved
    · rename_i ending found
      cases moved
      exact .leaveEnding found
    · cases moved
  | pass time =>
    cases moved
    exact .pass time

end Service

end Matryoshka.Service
