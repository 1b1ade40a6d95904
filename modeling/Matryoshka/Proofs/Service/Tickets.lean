import Matryoshka.Proofs.Service.Ledger

/-!
# Tickets

Every request has a ticket of its own: a ticket is given out when its request goes to the
worker, and from then on the request waits for room in one queue or has entered one
(`ticketsDiffer_of_run`). So the requests that a worker accepts can be told apart
(`nodup_tickets`).
-/

namespace Matryoshka.Service

variable {settings : Settings}

/-- The requests that enter a queue. -/
def acceptedIn (events : List Event) : List Request :=
  events.filterMap fun
    | .accepted _ request => some request
    | _ => none

/-- The ledger of a worker holds the requests that entered its queue. -/
theorem accepted_enterAll (ledger : Ledger) (events : List Event) :
    (ledger.enterAll events).accepted = ledger.accepted ++ acceptedIn events := by
  induction events generalizing ledger with
  | nil => simp [Ledger.enterAll, acceptedIn]
  | cons event events ih =>
    have rest := ih (ledger.enter event)
    cases event <;> simp_all [Ledger.enterAll, Ledger.enter, acceptedIn]

/-- Whether the request with a ticket waits for room in a queue. -/
def Stage.offers (ticket : Ticket) : Stage → Bool
  | .sending _ request => request.ticket == ticket
  | _ => false

/-- Whether a call wants to put the request with a ticket into a queue. -/
def Call.offers (ticket : Ticket) (call : Call) : Bool := call.stage.offers ticket

/-- Collecting an outcome changes nothing about what a call offers. -/
@[simp]
theorem offers_collected (ticket : Ticket) (call : Call) (slots : List Slot)
    (outcome : ItemOutcome) :
    (Caller.collected call slots outcome).offers ticket = call.offers ticket :=
  rfl

/-- How often a ticket was given to a request that entered a queue or may still do so. -/
def uses (s : State) (events : List Event) (ticket : Ticket) : Nat :=
  (acceptedIn events).countP (fun request => request.ticket == ticket) +
    s.calls.countP (Call.offers ticket)

/-- No ticket is used twice, and none that has not been given out. -/
def TicketsDiffer (s : State) (events : List Event) : Prop :=
  ∀ ticket, uses s events ticket ≤ if ticket < s.nextTicket then 1 else 0

/-- Receiving a reply accepts nothing. -/
theorem acceptedIn_rememberEvents (text : String) (outcome : ItemOutcome) :
    acceptedIn (rememberEvents settings text outcome) = [] := by
  cases outcome <;> rfl

/-- Collecting a reply accepts nothing. -/
theorem acceptedIn_receive (cached : Bool) (text : String) (outcome : ItemOutcome) :
    acceptedIn (if cached then rememberEvents settings text outcome else []) = [] := by
  cases cached with
  | true => exact acceptedIn_rememberEvents text outcome
  | false => rfl

/-- A worker that moves accepts nothing. -/
theorem WorkerStep.acceptedIn_eq {s : State} {w : WorkerId} {worker worker' : Worker}
    {move : WorkerMove} {counters : Counters} {written : List (Ticket × Letter)}
    {more : List Event} (step : WorkerStep settings s w worker move worker' counters written more) :
    acceptedIn more = [] := by
  cases step with
  | stop => split <;> rfl
  | _ => rfl

/-- A step in which nothing is accepted, no ticket is given out and no call makes a new offer
gives no request a further use. -/
theorem uses_of_fewer {s t : State} {more : List Event} {ticket : Ticket}
    (same : t.nextTicket = s.nextTicket) (nothing : acceptedIn more = [])
    (fewer : t.calls.countP (Call.offers ticket) ≤ s.calls.countP (Call.offers ticket)) :
    s.nextTicket ≤ t.nextTicket ∧
      (acceptedIn more).countP (fun request => request.ticket == ticket) +
          t.calls.countP (Call.offers ticket) ≤
        s.calls.countP (Call.offers ticket) +
          if s.nextTicket = ticket ∧ ticket < t.nextTicket then 1 else 0 := by
  rw [same, nothing, List.countP_nil, Nat.zero_add]
  exact ⟨Nat.le_refl _, Nat.le_add_right_of_le fewer⟩

/-- A step of a caller other than going to the worker gives no request a further use. -/
theorem uses_of_callerStep {s t : State} {id : CallId} {call : Call} {move : CallerMove}
    {more : List Event} (apart : Apart s.calls) (found : s.call? id = some call)
    (step : CallerStep settings s call move t more) (ticket : Ticket) :
    s.nextTicket ≤ t.nextTicket ∧
      (acceptedIn more).countP (fun request => request.ticket == ticket) +
          t.calls.countP (Call.offers ticket) ≤
        s.calls.countP (Call.offers ticket) +
          if s.nextTicket = ticket ∧ ticket < t.nextTicket then 1 else 0 := by
  have counted := le_countP_calls found (Call.offers ticket)
  have moved {call' : Call} (same : call'.id = call.id) :=
    countP_callsWith apart found same (Call.offers ticket)
  have settled {call' : Call} (same : call'.id = call.id) (silent : call'.offers ticket = false) :
      (s.callsWith call').countP (Call.offers ticket) ≤ s.calls.countP (Call.offers ticket) := by
    rw [moved same, silent]
    exact Nat.sub_le _ _
  have collected (slots : List Slot) (outcome : ItemOutcome) :
      (s.callsWith (Caller.collected call slots outcome)).countP (Call.offers ticket) ≤
        s.calls.countP (Call.offers ticket) := by
    rw [moved (collected_id call slots outcome), offers_collected]
    exact Nat.le_of_eq (Nat.sub_add_cancel counted)
  have removed : (s.callsWithout call.id).countP (Call.offers ticket) ≤
      s.calls.countP (Call.offers ticket) := by
    rw [countP_callsWithout apart found]
    exact Nat.sub_le _ _
  cases step with
  | find handing next known => exact uses_of_fewer rfl rfl (settled rfl rfl)
  | miss handing next unknown => exact uses_of_fewer rfl rfl (settled rfl rfl)
  | turnedAway submitting nobody => exact uses_of_fewer rfl rfl (settled rfl rfl)
  | submit submitting held =>
    cases own : s.nextTicket == ticket with
    | true =>
      have same : s.nextTicket = ticket := by simpa using own
      simp [moved, acceptedIn, Call.offers, submitting, Stage.offers, same]
    | false => simp [moved, acceptedIn, Call.offers, submitting, Stage.offers, own]
  | shutOut sending there gone => exact uses_of_fewer rfl rfl (settled rfl rfl)
  | @send w request worker sending there present room =>
    have offered : call.offers ticket = (request.ticket == ticket) := by
      rw [Call.offers, sending]
      rfl
    have accepted : acceptedIn [.accepted w request] = [request] := rfl
    have later : Call.offers ticket { call with
        stage := .handing
        slots := call.slots ++ [.open request.text request.ticket] } = false := rfl
    rw [offered] at counted
    refine ⟨Nat.le_refl _, Nat.le_add_right_of_le ?_⟩
    rw [accepted, countP_cons_toNat, List.countP_nil, Nat.zero_add, moved (by rfl), offered, later]
    exact Nat.le_of_eq (Nat.add_sub_cancel' counted)
  | giveUp sending there present crowded due => exact uses_of_fewer rfl rfl (settled rfl rfl)
  | collectSettled collecting next => exact uses_of_fewer rfl rfl (collected _ _)
  | receive collecting next arrived =>
    exact uses_of_fewer rfl (acceptedIn_receive _ _ _) (collected _ _)
  | expire collecting next due missing => exact uses_of_fewer rfl rfl (collected _ _)
  | answer collecting all => exact uses_of_fewer rfl rfl removed
  | leave waiting => exact uses_of_fewer rfl rfl removed

/-- A step gives a further use only to the ticket that it gives out. -/
theorem uses_of_transition {s t : State} {label : Label} {more : List Event}
    (apart : Apart s.calls) (transition : Transition settings s label t more) (ticket : Ticket) :
    s.nextTicket ≤ t.nextTicket ∧
      (acceptedIn more).countP (fun request => request.ticket == ticket) +
          t.calls.countP (Call.offers ticket) ≤
        s.calls.countP (Call.offers ticket) +
          if s.nextTicket = ticket ∧ ticket < t.nextTicket then 1 else 0 := by
  cases transition with
  | caller found step => exact uses_of_callerStep apart found step ticket
  | worker found step => exact uses_of_fewer rfl step.acceptedIn_eq (Nat.le_refl _)
  | receiveLate => exact uses_of_fewer rfl (acceptedIn_rememberEvents _ _) (Nat.le_refl _)
  | embed =>
    refine uses_of_fewer rfl rfl (Nat.le_of_eq ?_)
    simp [Caller.newCall, Call.offers, Stage.offers]
  | probe =>
    refine uses_of_fewer rfl rfl (Nat.le_of_eq ?_)
    simp [Caller.newProbe, Call.offers, Stage.offers]
  | _ => exact uses_of_fewer rfl rfl (Nat.le_refl _)

/-- What is used after some more events. -/
theorem uses_append (t : State) (events more : List Event) (ticket : Ticket) :
    uses t (events ++ more) ticket =
      (acceptedIn events).countP (fun request => request.ticket == ticket) +
        ((acceptedIn more).countP (fun request => request.ticket == ticket) +
          t.calls.countP (Call.offers ticket)) := by
  rw [uses, acceptedIn, List.filterMap_append, List.countP_append, Nat.add_assoc]
  rfl

/-- A bound of one on the uses of a ticket below `n` is one below `m` if the ticket `n` is the
only one with a further use. -/
theorem uses_le {a b c k n m : Nat} (le : n ≤ m) (before : a + b ≤ if k < n then 1 else 0)
    (use : c ≤ b + if n = k ∧ k < m then 1 else 0) : a + c ≤ if k < m then 1 else 0 := by
  split at before <;> split at use <;> split <;> omega

/-- Every step leaves the tickets different. -/
theorem ticketsDiffer_of_transition {s t : State} {label : Label} {events more : List Event}
    (apart : Apart s.calls) (differ : TicketsDiffer s events)
    (transition : Transition settings s label t more) : TicketsDiffer t (events ++ more) := by
  intro ticket
  obtain ⟨later, use⟩ := uses_of_transition apart transition ticket
  rw [uses_append]
  exact uses_le later (differ ticket) use

/-- In every run the tickets differ. -/
theorem ticketsDiffer_of_run {s : State} {labels : List Label} {events : List Event}
    (run : Run settings (initial settings) labels events s) : TicketsDiffer s events := by
  induction run with
  | none => exact fun _ => Nat.zero_le _
  | step before next ih =>
    exact ticketsDiffer_of_transition (apart_of_run before) ih (transition_of_step next)

/-- In every run no ticket is accepted twice. -/
theorem accepted_le_one {s : State} {labels : List Label} {events : List Event}
    (run : Run settings (initial settings) labels events s) (ticket : Ticket) :
    (acceptedIn events).countP (fun request => request.ticket == ticket) ≤ 1 := by
  have all := ticketsDiffer_of_run run ticket
  unfold uses at all
  split at all <;> omega

/-- The requests that a worker accepted have different tickets. -/
theorem nodup_tickets {s : State} {labels : List Label} {events : List Event}
    (run : Run settings (initial settings) labels events s) (w : WorkerId) :
    ((ledgerOf w events).accepted.map Request.ticket).Nodup := by
  rw [ledgerOf, accepted_enterAll, List.nil_append, List.nodup_iff_count]
  intro ticket
  have own : (acceptedIn (seenOf w events)).countP (fun request => request.ticket == ticket) ≤
      (acceptedIn events).countP fun request => request.ticket == ticket :=
    (List.filter_sublist.filterMap _).countP_le
  have count : ((acceptedIn (seenOf w events)).map Request.ticket).count ticket =
      (acceptedIn (seenOf w events)).countP fun request => request.ticket == ticket := by
    rw [List.count, List.countP_map]
    rfl
  rw [count]
  exact Nat.le_trans own (accepted_le_one run ticket)

end Matryoshka.Service
