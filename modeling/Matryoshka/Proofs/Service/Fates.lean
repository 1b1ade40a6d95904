import Matryoshka.Proofs.Service.Claims
import Matryoshka.Proofs.Service.Passages

/-!
# How the wait for a reply ends

Whoever sends a request waits for its reply. The wait ends when the caller collects the letter,
when the caller goes away, or when its time runs out. In the last case a caller that uses the cache
leaves the wait to somebody else, for whom it ends with the letter. Each of these ends is read off
the step in which it comes (`Passage.fates`).

Every request that was accepted is waited for, or the wait for it has ended, once
(`claims_of_run`); and how it ended fits the call that sent the request (`fits_of_run`).
-/

namespace Matryoshka.Service

/-! ## Errands and their ends -/

/-- A request that entered a queue, and the call that sent it. -/
structure Errand where
  /-- The number of the call. -/
  call : CallId
  /-- Whether the call uses the cache. -/
  cached : Bool
  /-- The request. -/
  request : Request
  deriving Repr, DecidableEq

/-- How the wait for a reply ends. -/
inductive Fate where
  /-- The caller collects the letter; `cached` says whether it uses the cache. -/
  | collected (cached : Bool) (text : String) (letter : Letter)
  /-- The letter comes after its time, to whoever still waits for it. -/
  | receivedLate (text : String) (letter : Letter)
  /-- The caller goes away. -/
  | dropped
  /-- The caller does not wait any longer, and nobody waits in its place. -/
  | lapsed

/-- The letter with which a wait ends. -/
def Fate.letter? : Fate → Option Letter
  | .collected _ _ letter | .receivedLate _ letter => some letter
  | .dropped | .lapsed => none

/-- Whether a letter came after its time. -/
def Fate.isLate : Fate → Bool
  | .receivedLate _ _ => true
  | _ => false

/-- The request that enters a queue in a step, with the call that sends it. -/
def Passage.errands (passage : Passage) : List Errand :=
  match passage.label with
  | .caller id .send =>
    match passage.before.call? id with
    | some call => (acceptedIn passage.seen).map fun request => ⟨call.id, call.cached, request⟩
    | none => []
  | _ => []

/-- The ticket of a place that waits for a letter. -/
def Slot.ticket? : Slot → Option Ticket
  | .settled _ => none
  | .open _ ticket => some ticket

/-- The waits that end when a caller moves. -/
def Call.fates (s : State) (call : Call) : CallerMove → List (Ticket × Fate)
  | .collect =>
    match call.slots with
    | .open text ticket :: _ =>
      (s.letter? ticket).toList.map fun letter => (ticket, .collected call.cached text letter)
    | _ => []
  | .expire =>
    match call.slots with
    | .open _ ticket :: _ => if call.cached then [] else [(ticket, .lapsed)]
    | _ => []
  | .leave => (call.slots.filterMap Slot.ticket?).map fun ticket => (ticket, .dropped)
  | _ => []

/-- The waits that end in a step. -/
def Passage.fates (passage : Passage) : List (Ticket × Fate) :=
  match passage.label with
  | .caller id move =>
    match passage.before.call? id with
    | some call => call.fates passage.before move
    | none => []
  | .receiveLate ticket =>
    match passage.before.late.find? (fun l => l.ticket == ticket),
      passage.before.letter? ticket with
    | some l, some letter => [(ticket, .receivedLate l.text letter)]
    | _, _ => []
  | _ => []

/-- The tickets whose time runs out when a caller moves, and which are still waited for. -/
def Call.overdue (call : Call) : CallerMove → List Ticket
  | .expire =>
    match call.slots with
    | .open _ ticket :: _ => if call.cached then [ticket] else []
    | _ => []
  | _ => []

/-- The tickets whose time runs out in a step, and which are still waited for. -/
def Passage.overdue (passage : Passage) : List Ticket :=
  match passage.label with
  | .caller id move =>
    match passage.before.call? id with
    | some call => call.overdue move
    | none => []
  | _ => []

variable {settings : Settings} {s t : State} {labels : List Label} {label : Label}
  {events more : List Event}

section Caller

variable {id : CallId} {call : Call} {move : CallerMove} (found : s.call? id = some call)
include found

/-- The waits that end in the step of a caller. -/
theorem fates_caller : Passage.fates ⟨s, .caller id move, more⟩ = call.fates s move := by
  simp only [Passage.fates, found]

/-- The tickets whose time runs out in the step of a caller. -/
theorem overdue_caller : Passage.overdue ⟨s, .caller id move, more⟩ = call.overdue move := by
  simp only [Passage.overdue, found]

end Caller

/-! ## Every wait ends once -/

/-- A call claims the tickets of its places. -/
theorem countP_ticket? (slots : List Slot) (ticket : Ticket) :
    ((slots.filterMap Slot.ticket?).map fun own => (own, Fate.dropped)).countP
        (fun fate => fate.1 == ticket) = slots.countP (Slot.claims ticket) := by
  induction slots with
  | nil => rfl
  | cons slot slots ih =>
    cases slot with
    | settled outcome => exact ih
    | «open» text own =>
      rw [List.filterMap_cons_some (f := Slot.ticket?) rfl, List.map_cons, countP_cons_toNat,
        countP_cons_toNat, ih]
      rfl

/-- A ticket that one waits for is not waited for by anybody once the letter is received. -/
theorem countP_late {late : List Late} {own : Ticket} {l : Late}
    (awaited : late.find? (fun l => l.ticket == own) = some l)
    (once : late.countP (fun l => l.ticket == own) ≤ 1) (ticket : Ticket) :
    (late.filter fun l => l.ticket != own).countP (fun l => l.ticket == ticket) +
      (own == ticket).toNat = late.countP fun l => l.ticket == ticket := by
  rw [List.countP_filter]
  by_cases same : own = ticket
  · subst same
    have same := List.find?_some awaited
    have waited : 0 < late.countP fun l => l.ticket == own :=
      List.countP_pos_iff.2 ⟨l, List.mem_of_find?_eq_some awaited, same⟩
    have none : (late.countP fun l => l.ticket == own && l.ticket != own) = 0 := by
      simp [List.countP_eq_zero]
    rw [none, BEq.rfl, Bool.toNat_true]
    omega
  · rw [beq_eq_false_iff_ne.2 same, Bool.toNat_false, Nat.add_zero]
    refine List.countP_congr fun l _ => ?_
    simp only [Bool.and_eq_true, beq_iff_eq, bne_iff_ne, and_iff_left_iff_imp]
    rintro rfl
    exact Ne.symm same

section Claims

variable {id : CallId} {call call' : Call} (apart : Apart s.calls) (found : s.call? id = some call)
include apart found

/-- A step in which a call moves on and claims what it claimed before changes no claim. -/
theorem claims_eq_of_moved {ticket : Ticket} (calls : t.calls = s.callsWith call')
    (same : call'.id = call.id) (late : t.late = s.late)
    (own : call'.claims ticket = call.claims ticket) : claims t ticket = claims s ticket := by
  have sum := claims_callsWith apart found same calls late ticket
  omega

/-- A step in which a call settles the text at hand changes no claim. -/
theorem claims_eq_of_settled {outcome : ItemOutcome} {ticket : Ticket}
    (calls : t.calls = s.callsWith call') (same : call'.id = call.id)
    (slots : call'.slots = call.slots ++ [.settled outcome]) (late : t.late = s.late) :
    claims t ticket = claims s ticket :=
  claims_eq_of_moved apart found calls same late (claims_append slots ticket)

/-- A step in which a call sends its request makes a claim to the ticket. -/
theorem claims_eq_of_sent {text : String} {own ticket : Ticket}
    (calls : t.calls = s.callsWith call') (same : call'.id = call.id)
    (slots : call'.slots = call.slots ++ [.open text own]) (late : t.late = s.late) :
    claims t ticket = claims s ticket + (own == ticket).toNat := by
  have sum := claims_callsWith apart found same calls late ticket
  have more := claims_append slots ticket
  rw [Slot.claims] at more
  omega

/-- A step of a caller makes a claim only by sending, and gives one up only when the wait ends. -/
theorem CallerStep.claims_eq {move : CallerMove} (step : CallerStep settings s call move t more)
    (ticket : Ticket) :
    claims t ticket + (call.fates s move).countP (fun fate => fate.1 == ticket) =
      claims s ticket + (acceptedIn more).countP fun request => request.ticket == ticket := by
  cases step with
  | find =>
    change claims _ ticket = claims s ticket
    exact claims_eq_of_settled apart found rfl rfl rfl rfl
  | miss =>
    change claims _ ticket = claims s ticket
    exact claims_eq_of_moved apart found rfl rfl rfl rfl
  | turnedAway =>
    change claims _ ticket = claims s ticket
    exact claims_eq_of_settled apart found rfl rfl rfl rfl
  | submit =>
    change claims _ ticket = claims s ticket
    exact claims_eq_of_moved apart found rfl rfl rfl rfl
  | shutOut =>
    change claims _ ticket = claims s ticket
    exact claims_eq_of_settled apart found rfl rfl rfl rfl
  | @send w request worker sending there =>
    change claims _ ticket = claims s ticket + [request].countP fun r => r.ticket == ticket
    rw [countP_cons_toNat, List.countP_nil, Nat.zero_add]
    exact claims_eq_of_sent apart found rfl rfl rfl rfl
  | giveUp =>
    change claims _ ticket = claims s ticket
    exact claims_eq_of_settled apart found rfl rfl rfl rfl
  | @collectSettled outcome slots collecting next =>
    have own := claims_collected next outcome ticket
    simp only [Call.fates, next]
    exact claims_eq_of_moved apart found rfl rfl rfl own
  | @receive text own slots letter collecting next arrived =>
    have sum := claims_collect apart found next (Caller.outcomeOf letter) ticket
    simp only [Call.fates, next, arrived, acceptedIn_receive]
    simp only [claims, Option.toList_some, List.map_cons, List.map_nil, countP_cons_toNat,
      List.countP_nil]
    omega
  | @expire text own slots collecting next due missing =>
    have sum := claims_collect apart found next (.error (Caller.late settings)) ticket
    simp only [Call.fates, next, claims]
    cases cached : call.cached with
    | true =>
      simp only [↓reduceIte, List.countP_append, countP_cons_toNat, List.countP_nil, acceptedIn,
        List.filterMap_nil]
      omega
    | false =>
      simp only [Bool.false_eq_true, ↓reduceIte, countP_cons_toNat, List.countP_nil, acceptedIn,
        List.filterMap_nil]
      omega
  | answer collecting all =>
    have sum := sum_callsWithout apart found (Call.claims ticket)
    have none : call.claims ticket = 0 := by rw [Call.claims, all, List.countP_nil]
    simp only [claims, Call.fates, List.countP_nil, acceptedIn, List.filterMap_cons,
      List.filterMap_nil]
    omega
  | leave waiting =>
    have sum := sum_callsWithout apart found (Call.claims ticket)
    simp only [claims, Call.fates, countP_ticket?, acceptedIn, List.filterMap_cons,
      List.filterMap_nil, List.countP_nil]
    rw [← Call.claims]
    omega

end Claims

/-- A step makes a claim only to the ticket of a request that is accepted, and gives one up only
when the wait ends. -/
theorem claims_of_transition (apart : Apart s.calls) (once : ∀ ticket, claims s ticket ≤ 1)
    (transition : Transition settings s label t more) (ticket : Ticket) :
    claims t ticket + (Passage.fates ⟨s, label, more⟩).countP (fun fate => fate.1 == ticket) =
      claims s ticket + (acceptedIn more).countP fun request => request.ticket == ticket := by
  cases transition with
  | caller found step =>
    rw [fates_caller found]
    exact step.claims_eq apart found ticket
  | @receiveLate own l letter awaited arrived =>
    have only : s.late.countP (fun l => l.ticket == own) ≤ 1 :=
      Nat.le_trans (Nat.le_add_left _ _) (once own)
    have ends := countP_late awaited only ticket
    simp only [Passage.fates, awaited, arrived, acceptedIn_rememberEvents, claims,
      countP_cons_toNat, List.countP_nil]
    omega
  | worker found step =>
    rw [step.acceptedIn_eq]
    rfl
  | embed => simp [claims, Call.claims, Caller.newCall, Passage.fates, acceptedIn]
  | probe => simp [claims, Call.claims, Caller.newProbe, Passage.fates, acceptedIn]
  | _ => rfl

/-- The waits that have ended in a run. -/
def fatesOf (settings : Settings) (labels : List Label) : List (Ticket × Fate) :=
  along Passage.fates settings labels

/-- In every run, each request that was accepted is waited for, or the wait for it has ended,
once. -/
theorem claims_of_run (run : Run settings (initial settings) labels events s) (ticket : Ticket) :
    claims s ticket + (fatesOf settings labels).countP (fun fate => fate.1 == ticket) =
      (acceptedIn events).countP fun request => request.ticket == ticket := by
  induction run with
  | none => rfl
  | @step u v labels events more label before next ih =>
    have change := claims_of_transition (apart_of_run before) (claims_le_one before)
      (transition_of_step next) ticket
    rw [fatesOf, along_append _ before next, ← fatesOf, List.countP_append, acceptedIn,
      List.filterMap_append, List.countP_append, ← acceptedIn, ← acceptedIn]
    omega

/-! ## Letters -/

/-- When a caller moves, a letter is there as long as the wait for it does not end. -/
theorem CallerStep.letters_kept {call : Call} {move : CallerMove}
    (step : CallerStep settings s call move t more) {entry : Ticket × Letter}
    (member : entry ∈ s.letters) :
    entry ∈ t.letters ∨ ∃ fate ∈ call.fates s move, fate.1 = entry.1 := by
  cases step with
  | @receive text ticket slots letter collecting next arrived =>
    by_cases own : entry.1 = ticket
    · exact .inr ⟨(ticket, .collected call.cached text letter), by
        simp [Call.fates, next, arrived], own.symm⟩
    · exact .inl (List.mem_filter.2 ⟨member, by simpa using own⟩)
  | leave waiting =>
    cases holds : call.holds entry.1 with
    | true =>
      obtain ⟨slot, place, own⟩ := List.any_eq_true.1 holds
      cases slot with
      | settled => cases own
      | «open» text ticket =>
        refine .inr ⟨(ticket, .dropped), ?_, by simpa using own⟩
        exact List.mem_map_of_mem (List.mem_filterMap.2 ⟨_, place, rfl⟩)
    | false => exact .inl (List.mem_filter.2 ⟨member, by simp [holds]⟩)
  | _ => exact .inl member

/-- A letter is there as long as the wait for it does not end. -/
theorem letters_kept (transition : Transition settings s label t more) {entry : Ticket × Letter}
    (member : entry ∈ s.letters) :
    entry ∈ t.letters ∨ ∃ fate ∈ Passage.fates ⟨s, label, more⟩, fate.1 = entry.1 := by
  cases transition with
  | caller found step =>
    rw [fates_caller found]
    exact step.letters_kept member
  | @receiveLate ticket l letter awaited arrived =>
    by_cases own : entry.1 = ticket
    · exact .inr ⟨(ticket, .receivedLate l.text letter), by
        simp [Passage.fates, awaited, arrived], own.symm⟩
    · exact .inl (List.mem_filter.2 ⟨member, by simpa using own⟩)
  | worker => exact .inl (List.mem_append_left _ member)
  | _ => exact .inl member

/-- The letter with which a wait ends is there before. -/
theorem letter_of_fate (transition : Transition settings s label t more) {ticket : Ticket}
    {fate : Fate} {letter : Letter} (member : (ticket, fate) ∈ Passage.fates ⟨s, label, more⟩)
    (own : fate.letter? = some letter) : (ticket, letter) ∈ s.letters := by
  cases transition with
  | @caller id move call _ _ found step =>
    rw [fates_caller found] at member
    cases step with
    | collectSettled collecting next => simp [Call.fates, next] at member
    | receive collecting next arrived =>
      obtain ⟨rfl, rfl⟩ : ticket = _ ∧ fate = _ := by
        simpa [Call.fates, next, arrived] using member
      cases own
      exact mem_of_letter? arrived
    | expire collecting next =>
      cases cached : call.cached with
      | true => simp [Call.fates, next, cached] at member
      | false =>
        obtain ⟨rfl, rfl⟩ : ticket = _ ∧ fate = _ := by
          simpa [Call.fates, next, cached] using member
        cases own
    | leave =>
      obtain ⟨other, -, same⟩ := List.mem_map.1 member
      cases same
      cases own
    | _ => cases member
  | receiveLate awaited arrived =>
    obtain ⟨rfl, rfl⟩ : ticket = _ ∧ fate = _ := by
      simpa [Passage.fates, awaited, arrived] using member
    cases own
    exact mem_of_letter? arrived
  | _ => cases member

/-! ## What runs out of time is waited for -/

/-- The tickets whose time has run out in a run, and whose letters were still waited for. -/
def overdueOf (settings : Settings) (labels : List Label) : List Ticket :=
  along Passage.overdue settings labels

/-- A step of a caller adds a ticket to those waited for after their time when the time runs
out. -/
theorem CallerStep.late_eq {call : Call} {move : CallerMove}
    (step : CallerStep settings s call move t more) (ticket : Ticket) :
    t.late.countP (fun l => l.ticket == ticket) =
        s.late.countP (fun l => l.ticket == ticket) + (call.overdue move).count ticket ∧
      (call.fates s move).countP (fun fate => fate.1 == ticket && fate.2.isLate) = 0 := by
  cases step with
  | collectSettled collecting next => simp [Call.overdue, Call.fates, next]
  | receive collecting next arrived => simp [Call.overdue, Call.fates, next, arrived, Fate.isLate]
  | expire collecting next due missing =>
    cases cached : call.cached <;>
      simp [Call.overdue, Call.fates, next, cached, Fate.isLate, List.countP_append,
        List.countP_singleton, List.count_singleton]
  | leave waiting =>
    refine ⟨rfl, ?_⟩
    simp [Call.fates, List.countP_eq_zero, Fate.isLate]
  | _ => exact ⟨rfl, rfl⟩

/-- A letter that comes after its time ends the wait for a ticket whose time ran out. -/
theorem late_of_transition (once : ∀ ticket, claims s ticket ≤ 1)
    (transition : Transition settings s label t more) (ticket : Ticket) :
    t.late.countP (fun l => l.ticket == ticket) +
        (Passage.fates ⟨s, label, more⟩).countP
          (fun fate => fate.1 == ticket && fate.2.isLate) =
      s.late.countP (fun l => l.ticket == ticket) +
        (Passage.overdue ⟨s, label, more⟩).count ticket := by
  cases transition with
  | caller found step =>
    obtain ⟨late, none⟩ := step.late_eq ticket
    rw [fates_caller found, overdue_caller found, late, none, Nat.add_zero]
  | @receiveLate own l letter awaited arrived =>
    have only : s.late.countP (fun l => l.ticket == own) ≤ 1 :=
      Nat.le_trans (Nat.le_add_left _ _) (once own)
    have ends := countP_late awaited only ticket
    simp only [Passage.fates, awaited, arrived, Passage.overdue, countP_cons_toNat,
      List.countP_nil, Fate.isLate, Bool.and_true, List.count_nil]
    omega
  | _ => rfl

/-- In every run, each ticket whose time ran out is waited for after its time, or its letter came
after its time. -/
theorem late_of_run (run : Run settings (initial settings) labels events s) (ticket : Ticket) :
    s.late.countP (fun l => l.ticket == ticket) +
        (fatesOf settings labels).countP (fun fate => fate.1 == ticket && fate.2.isLate) =
      (overdueOf settings labels).count ticket := by
  induction run with
  | none => rfl
  | @step u v labels events more label before next ih =>
    have change := late_of_transition (claims_le_one before) (transition_of_step next) ticket
    rw [fatesOf, along_append _ before next, ← fatesOf, List.countP_append, overdueOf,
      along_append _ before next, ← overdueOf, List.count_append]
    omega

/-! ## How a wait ends fits the errand -/

/-- The requests that entered a queue in a run, with the calls that sent them. -/
def errandsOf (settings : Settings) (labels : List Label) : List Errand :=
  along Passage.errands settings labels

/-- A request that is accepted is sent by a call. -/
theorem errands_of_transition (transition : Transition settings s label t more) :
    (Passage.errands ⟨s, label, more⟩).map Errand.request = acceptedIn more := by
  cases transition with
  | caller found step =>
    cases step with
    | receive => rw [acceptedIn_receive]; rfl
    | send => simp [Passage.errands, found, acceptedIn]
    | shutOut => simp [Passage.errands, found, acceptedIn]
    | _ => rfl
  | receiveLate => rw [acceptedIn_rememberEvents]; rfl
  | worker found step => rw [step.acceptedIn_eq]; rfl
  | _ => rfl

/-- In every run, each request that was accepted was sent by a call. -/
theorem errands_of_run (run : Run settings (initial settings) labels events s) :
    (errandsOf settings labels).map Errand.request = acceptedIn events := by
  induction run with
  | none => rfl
  | step before next ih =>
    rw [errandsOf, along_append _ before next, ← errandsOf, List.map_append, ih,
      errands_of_transition (transition_of_step next), acceptedIn, acceptedIn, acceptedIn,
      List.filterMap_append]

/-- What waits for a letter waits for the reply to a request that was sent. -/
structure Sent (errands : List Errand) (s : State) : Prop where
  /-- The places of calls wait for the replies to what these calls sent. -/
  slots : ∀ call ∈ s.calls, ∀ text ticket, .open text ticket ∈ call.slots →
    ⟨call.id, call.cached, ticket, text⟩ ∈ errands
  /-- What is waited for after its time was sent by a call that uses the cache. -/
  late : ∀ l ∈ s.late, ∃ id, ⟨id, true, l.ticket, l.text⟩ ∈ errands

/-- The way in which a wait ended fits an errand. -/
def Fate.Fits (events : List Event) (errand : Errand) : Fate → Prop
  | .collected cached text _ => errand.cached = cached ∧ errand.request.text = text
  | .receivedLate text _ => errand.cached = true ∧ errand.request.text = text
  | .dropped => ∃ unsent, .left errand.call unsent ∈ events
  | .lapsed => errand.cached = false

/-- What was known of the end of a wait is known later. -/
theorem Fate.Fits.later {errand : Errand} {fate : Fate} (fits : fate.Fits events errand)
    (seen : ∀ event ∈ events, event ∈ more) : fate.Fits more errand := by
  cases fate with
  | dropped =>
    obtain ⟨unsent, left⟩ := fits
    exact ⟨unsent, seen _ left⟩
  | _ => exact fits

section Caller

variable {id : CallId} {call : Call} {move : CallerMove} (found : s.call? id = some call)
  (step : CallerStep settings s call move t more)
include found step

/-- A place in which a call waits for a letter was there before, or is that of the request that it
sends. -/
theorem CallerStep.open_mem {c : Call} {text : String} {ticket : Ticket} (member : c ∈ t.calls)
    (own : c.id = call.id) (place : .open text ticket ∈ c.slots) :
    .open text ticket ∈ call.slots ∨
      ⟨call.id, call.cached, ticket, text⟩ ∈ Passage.errands ⟨s, .caller id move, more⟩ := by
  have moved {call' : Call} (there : c ∈ s.callsWith call') (same : call'.id = call.id)
      (kept : .open text ticket ∈ call'.slots → .open text ticket ∈ call.slots) :
      .open text ticket ∈ call.slots ∨
        ⟨call.id, call.cached, ticket, text⟩ ∈ Passage.errands ⟨s, .caller id move, more⟩ :=
    .inl (kept (eq_of_mem_callsWith same there own ▸ place))
  have settled {outcome : ItemOutcome}
      (place : .open text ticket ∈ call.slots ++ [.settled outcome]) :
      .open text ticket ∈ call.slots := by simpa using place
  cases step with
  | find => exact moved member rfl settled
  | miss => exact moved member rfl fun kept => kept
  | turnedAway => exact moved member rfl settled
  | submit => exact moved member rfl fun kept => kept
  | shutOut => exact moved member rfl settled
  | send =>
    rw [eq_of_mem_callsWith (by rfl) member own] at place
    rcases List.mem_append.1 place with before | new
    · exact .inl before
    · cases List.mem_singleton.1 new
      refine .inr ?_
      simp [Passage.errands, found, acceptedIn]
  | giveUp => exact moved member rfl settled
  | collectSettled collecting next =>
    exact moved member rfl fun later => next ▸ List.mem_cons_of_mem _ later
  | receive collecting next =>
    exact moved member rfl fun later => next ▸ List.mem_cons_of_mem _ later
  | expire collecting next =>
    exact moved member rfl fun later => next ▸ List.mem_cons_of_mem _ later
  | answer => exact absurd own (ne_of_mem_callsWithout member)
  | leave => exact absurd own (ne_of_mem_callsWithout member)

/-- After a step of a caller, what waits for a letter waits for the reply to a request that was
sent. -/
theorem Sent.caller {errands : List Errand} (sent : Sent errands s) :
    Sent (errands ++ Passage.errands ⟨s, .caller id move, more⟩) t := by
  have there := mem_of_call? found
  constructor
  · intro c member text ticket place
    by_cases own : c.id = call.id
    · rw [own, step.cached_eq member own]
      rcases step.open_mem found member own place with before | new
      · exact List.mem_append_left _ (sent.slots call there text ticket before)
      · exact List.mem_append_right _ new
    · exact List.mem_append_left _ (sent.slots c (step.mem_calls member own) text ticket place)
  · intro l member
    have before (awaited : l ∈ s.late) :
        ∃ other, ⟨other, true, l.ticket, l.text⟩ ∈
          errands ++ Passage.errands ⟨s, .caller id move, more⟩ := by
      obtain ⟨other, known⟩ := sent.late l awaited
      exact ⟨other, List.mem_append_left _ known⟩
    cases step with
    | @expire text ticket slots collecting next =>
      change l ∈ if call.cached then s.late ++ [⟨ticket, text⟩] else s.late at member
      cases cached : call.cached with
      | true =>
        rw [cached, if_pos rfl] at member
        rcases List.mem_append.1 member with awaited | new
        · exact before awaited
        · obtain rfl := List.mem_singleton.1 new
          have known := sent.slots call there text ticket (next ▸ List.mem_cons_self)
          exact ⟨call.id, List.mem_append_left _ (cached ▸ known)⟩
      | false =>
        rw [cached] at member
        exact before member
    | _ => exact before member

/-- The way in which a wait ends when a caller moves fits an errand. -/
theorem CallerStep.fits {errands : List Errand} (sent : Sent errands s) :
    ∀ fate ∈ call.fates s move, ∃ errand ∈ errands, errand.request.ticket = fate.1 ∧
      fate.2.Fits more errand := by
  have known {text : String} {ticket : Ticket} := sent.slots call (mem_of_call? found) text ticket
  intro fate member
  cases step with
  | collectSettled collecting next => simp [Call.fates, next] at member
  | receive collecting next arrived =>
    obtain rfl : fate = _ := by simpa [Call.fates, next, arrived] using member
    exact ⟨_, known (next ▸ List.mem_cons_self), rfl, rfl, rfl⟩
  | expire collecting next =>
    cases cached : call.cached with
    | true => simp [Call.fates, next, cached] at member
    | false =>
      obtain rfl : fate = _ := by simpa [Call.fates, next, cached] using member
      exact ⟨_, known (next ▸ List.mem_cons_self), rfl, cached⟩
  | leave =>
    obtain ⟨ticket, own, rfl⟩ := List.mem_map.1 member
    obtain ⟨slot, place, ticket_eq⟩ := List.mem_filterMap.1 own
    cases slot with
    | settled => cases ticket_eq
    | «open» text other =>
      cases ticket_eq
      exact ⟨_, known place, rfl, _, List.mem_singleton_self _⟩
  | _ => cases member

end Caller

/-- After a step, what waits for a letter waits for the reply to a request that was sent. -/
theorem Sent.transition {errands : List Errand} (sent : Sent errands s)
    (transition : Transition settings s label t more) :
    Sent (errands ++ Passage.errands ⟨s, label, more⟩) t := by
  have silent : Sent (errands ++ []) s := by rwa [List.append_nil]
  have begun {call : Call} (none : call.slots = []) :
      Sent (errands ++ []) { s with calls := s.calls ++ [call] } := by
    refine ⟨fun c member text ticket place => ?_, silent.late⟩
    rcases List.mem_append.1 member with there | new
    · exact silent.slots c there text ticket place
    · obtain rfl := List.mem_singleton.1 new
      rw [none] at place
      cases place
  cases transition with
  | caller found step => exact sent.caller found step
  | embed => exact begun rfl
  | probe => exact begun rfl
  | receiveLate =>
    exact ⟨silent.slots, fun l member => silent.late l (List.mem_filter.1 member).1⟩
  | _ => exact ⟨silent.slots, silent.late⟩

/-- In every run, what waits for a letter waits for the reply to a request that was sent. -/
theorem sent_of_run (run : Run settings (initial settings) labels events s) :
    Sent (errandsOf settings labels) s := by
  induction run with
  | none => exact ⟨fun _ member => absurd member List.not_mem_nil,
      fun _ member => absurd member List.not_mem_nil⟩
  | step before next ih =>
    rw [errandsOf, along_append _ before next]
    exact ih.transition (transition_of_step next)

/-- The way in which a wait ends fits an errand. -/
theorem fits_of_transition {errands : List Errand} (sent : Sent errands s)
    (transition : Transition settings s label t more) :
    ∀ fate ∈ Passage.fates ⟨s, label, more⟩, ∃ errand ∈ errands,
      errand.request.ticket = fate.1 ∧ fate.2.Fits more errand := by
  intro fate member
  cases transition with
  | caller found step =>
    rw [fates_caller found] at member
    exact step.fits found sent fate member
  | receiveLate awaited arrived =>
    obtain rfl : fate = _ := by simpa [Passage.fates, awaited, arrived] using member
    obtain ⟨id, known⟩ := sent.late _ (List.mem_of_find?_eq_some awaited)
    have own := List.find?_some awaited
    exact ⟨_, known, by simpa using own, rfl, rfl⟩
  | _ => cases member

/-- In every run, the way in which a wait has ended fits an errand. -/
theorem fits_of_run (run : Run settings (initial settings) labels events s) :
    ∀ fate ∈ fatesOf settings labels, ∃ errand ∈ errandsOf settings labels,
      errand.request.ticket = fate.1 ∧ fate.2.Fits events errand := by
  induction run with
  | none => exact fun _ member => absurd member List.not_mem_nil
  | @step u v labels events more label before next ih =>
    intro fate member
    rw [fatesOf, along_append _ before next] at member
    rw [errandsOf, along_append _ before next]
    rcases List.mem_append.1 member with earlier | new
    · obtain ⟨errand, known, own, fits⟩ := ih fate earlier
      exact ⟨errand, List.mem_append_left _ known, own,
        fits.later fun event => List.mem_append_left _⟩
    · obtain ⟨errand, known, own, fits⟩ :=
        fits_of_transition (sent_of_run before) (transition_of_step next) fate new
      exact ⟨errand, List.mem_append_left _ known, own,
        fits.later fun event => List.mem_append_right _⟩

end Matryoshka.Service
