import Matryoshka.Proofs.Service.Answers
import Matryoshka.Proofs.Service.Letters
import Matryoshka.Proofs.Service.Senders
import Matryoshka.Proofs.Service.Tickets

/-!
# What becomes of a text that is looked up

For every text that a call hands in, the steps that its caller makes for this text are written
down: the one in which it is looked up, those in which its request goes to the worker, and the one
in which the outcome is collected (`lookupsOf`). A text is found, or its request is refused, or
its request enters a queue; which of these it was is tied to the place of the text in the answer
and to the outcome that is collected for it (`Traced`). Every step of the caller keeps this, so it
holds in every run (`traced_of_run`).
-/

namespace Matryoshka.Service

/-! ## Lookups -/

/-- A step that a caller makes for one of its texts: the states before and after it. -/
structure Stride where
  /-- The state before. -/
  before : State
  /-- What the caller does. -/
  move : CallerMove
  /-- The state after. -/
  after : State

/-- What a call does for one of its texts. -/
structure Lookup where
  /-- The text. -/
  text : String
  /-- Whether the cache knows it. -/
  found : Bool
  /-- When the caller stops waiting. -/
  deadline : Time
  /-- The ticket of its request, if there is one. -/
  ticket? : Option Ticket := none
  /-- The steps. -/
  strides : List Stride

/-- One more step for a text. -/
def Lookup.add (stride : Stride) (lookup : Lookup) : Lookup :=
  { lookup with strides := lookup.strides ++ [stride] }

/-- How many texts of a call have an outcome or a place in the answer. -/
def Call.handed (call : Call) : Nat := call.outcomes.length + call.slots.length

/-- The lookups of a call after a step of its caller. A caller goes to the worker with the first
text that has no place yet, and collects the outcome of the first one that has none. -/
def noteMove (settings : Settings) (s : State) (call : Call) (move : CallerMove) (t : State)
    (lookups : List Lookup) : List Lookup :=
  match move with
  | .lookUp =>
    match call.texts with
    | [] => lookups
    | text :: _ =>
      lookups ++ [{
        text := text
        found := (s.cache.find? (keyOf settings text)).isSome
        deadline := call.deadline
        strides := [⟨s, move, t⟩] }]
  | .submit => lookups.modify call.handed fun lookup =>
    { lookup.add ⟨s, move, t⟩ with ticket? := s.handle.map fun _ => s.nextTicket }
  | .send | .giveUp => lookups.modify call.handed (Lookup.add ⟨s, move, t⟩)
  | .collect | .expire => lookups.modify call.outcomes.length (Lookup.add ⟨s, move, t⟩)
  | .answer | .leave => lookups

/-- The lookups of all calls after a step; a new call has none. -/
def Label.note (settings : Settings) (s t : State) (lookups : CallId → List Lookup) :
    Label → CallId → List Lookup
  | .embed id _, other => if other = id then [] else lookups other
  | .caller id move, other =>
    match s.call? id with
    | some call =>
      if other = id then noteMove settings s call move t (lookups id) else lookups other
    | none => lookups other
  | _, other => lookups other

/-- A state, and the lookups of all calls up to it. -/
structure History where
  /-- The state. -/
  state : State
  /-- The lookups. -/
  lookups : CallId → List Lookup

/-- The history after one more step. -/
def History.note (settings : Settings) (history : History) (label : Label) : History :=
  match step settings history.state label with
  | none => history
  | some (t, _) => ⟨t, label.note settings history.state t history.lookups⟩

/-- The history of a run from its labels. -/
def history (settings : Settings) (labels : List Label) : History :=
  labels.foldl (History.note settings) ⟨initial settings, fun _ => []⟩

/-- The lookups of a call since it began last. -/
def lookupsOf (settings : Settings) (labels : List Label) (id : CallId) : List Lookup :=
  (history settings labels).lookups id

variable {settings : Settings} {labels : List Label} {events more : List Event} {s t : State}

/-- The history of a run leads to its last state. -/
theorem state_history (run : Run settings (initial settings) labels events s) :
    (history settings labels).state = s := by
  induction run with
  | none => rfl
  | step _ next ih =>
    rw [history, List.foldl_append, List.foldl_cons, List.foldl_nil, ← history, History.note, ih,
      next]

/-- The lookups after one more step of a run. -/
theorem lookupsOf_append {label : Label} (run : Run settings (initial settings) labels events s)
    (next : step settings s label = some (t, more)) :
    lookupsOf settings (labels ++ [label]) =
      label.note settings s t (lookupsOf settings labels) := by
  funext id
  rw [lookupsOf, history, List.foldl_append, List.foldl_cons, List.foldl_nil, ← history,
    History.note, state_history run, next]
  rfl

/-! ## What steps change -/

/-- A step touches neither a queue nor a worker, and counts nothing. -/
structure Stride.Quiet (stride : Stride) : Prop where
  /-- The workers and their queues. -/
  workers : stride.after.workers = stride.before.workers
  /-- The counters. -/
  counters : stride.after.counters = stride.before.counters
  /-- The letters. -/
  letters : stride.after.letters = stride.before.letters
  /-- Those who wait for late letters. -/
  late : stride.after.late = stride.before.late
  /-- No ticket is given out. -/
  nextTicket : stride.after.nextTicket = stride.before.nextTicket

/-- A step leaves alone what the workers have, what they have replied and what is remembered; of
the counters it changes at most the depth of the queue. -/
structure Stride.Harmless (stride : Stride) : Prop where
  /-- The workers and their queues. -/
  workers : stride.after.workers = stride.before.workers
  /-- The letters. -/
  letters : stride.after.letters = stride.before.letters
  /-- Those who wait for late letters. -/
  late : stride.after.late = stride.before.late
  /-- The vectors remembered, and their order. -/
  entries : stride.after.cache.entries = stride.before.cache.entries
  /-- How often a text was found. -/
  hits : stride.after.cache.hits = stride.before.cache.hits
  /-- The counters. -/
  counters : stride.after.counters =
    { stride.before.counters with queueDepth := stride.after.counters.queueDepth }

/-- By how much some steps together change a number. -/
def net (number : State → UInt64) (strides : List Stride) : UInt64 :=
  strides.foldr (fun stride rest => number stride.after - number stride.before + rest) 0

/-- The depth of the queue. -/
def depthOf (s : State) : UInt64 := s.counters.queueDepth

/-- How often a text was not found. -/
def missesOf (s : State) : UInt64 := s.cache.misses

/-- One more step adds its own change. -/
theorem net_append (number : State → UInt64) (strides : List Stride) (stride : Stride) :
    net number (strides ++ [stride]) =
      net number strides + (number stride.after - number stride.before) := by
  induction strides with
  | nil => simp [net]
  | cons first strides ih =>
    rw [List.cons_append, net, List.foldr_cons, ← net, ih, ← UInt64.add_assoc]
    rfl

/-! ## What becomes of a text -/

/-- A ticket was given out, but its request never entered a queue, and no call wants to send it any
more. -/
def Spent (s : State) (events : List Event) (ticket : Ticket) : Prop :=
  ticket < s.nextTicket ∧ uses s events ticket = 0

namespace Lookup

/-- The request for a text entered a queue. -/
def Entered (events : List Event) (lookup : Lookup) : Prop :=
  ∃ w ticket, lookup.ticket? = some ticket ∧ .accepted w ⟨ticket, lookup.text⟩ ∈ events

/-- A text was found, and its outcome is the vector that was remembered. -/
structure Hit (settings : Settings) (lookup : Lookup) (outcome : ItemOutcome) : Prop where
  /-- The text was found. -/
  found : lookup.found = true
  /-- There is no request. -/
  noTicket : lookup.ticket? = none
  /-- No step touches a queue or a worker. -/
  quiet : ∀ stride ∈ lookup.strides, stride.Quiet
  /-- The vector was remembered. -/
  known : ∃ stride ∈ lookup.strides, ∃ embedding,
    stride.before.cache.find? (keyOf settings lookup.text) = some embedding ∧
      outcome = .ok embedding

/-- There was no worker when the caller went to it. -/
structure TurnedAway (lookup : Lookup) (outcome : ItemOutcome) : Prop where
  /-- This is what the caller is told. -/
  outcome_eq : outcome = .error (.unavailable .notRunning)
  /-- There is no request. -/
  noTicket : lookup.ticket? = none
  /-- The service held no worker. -/
  nobody : ∃ stride ∈ lookup.strides, stride.move = .submit ∧ stride.before.handle = none

/-- The queue had no room until the deadline. -/
structure CrowdedOut (settings : Settings) (lookup : Lookup) (outcome : ItemOutcome) : Prop where
  /-- This is what the caller is told. -/
  outcome_eq : outcome = .error (.unavailable .queueFull)
  /-- At the deadline the others that are in the queue or wait for room take all of it. -/
  crowded : ∃ stride ∈ lookup.strides, stride.move = .giveUp ∧
    lookup.deadline ≤ stride.before.now ∧ ∃ w worker, stride.before.workers[w]? = some worker ∧
      worker.isGone = false ∧
      settings.queueCapacity < worker.queue.length + stride.before.sendersTo w

/-- A text was not found, and no step for it has done any harm. -/
structure Missed (lookup : Lookup) : Prop where
  /-- The text was not found. -/
  missed : lookup.found = false
  /-- No step does any harm. -/
  harmless : ∀ stride ∈ lookup.strides, stride.Harmless
  /-- One more text was not found. -/
  misses : net missesOf lookup.strides = 1

/-- The request for a text was refused. -/
structure Refused (settings : Settings) (labels : List Label) (events : List Event) (s : State)
    (lookup : Lookup) (outcome : ItemOutcome) : Prop extends lookup.Missed where
  /-- Why it was refused. -/
  reason : lookup.TurnedAway outcome ∨ lookup.CrowdedOut settings outcome
  /-- The depth of the queue is what it would be without it. -/
  depth : Roomy settings labels → net depthOf lookup.strides = 0
  /-- The request never entered a queue. -/
  spent : ∀ ticket, lookup.ticket? = some ticket → Spent s events ticket

section

variable (settings labels events s)

/-- What is known of a text that has a place in the answer. -/
inductive Placed (lookup : Lookup) : Slot → Prop
  /-- It was found. -/
  | hit {outcome : ItemOutcome} (hit : lookup.Hit settings outcome) :
      Placed lookup (.settled outcome)
  /-- Its request was refused. -/
  | refused {outcome : ItemOutcome} (refused : lookup.Refused settings labels events s outcome) :
      Placed lookup (.settled outcome)
  /-- Its request entered a queue. -/
  | entered {text : String} {ticket : Ticket} (missed : lookup.found = false)
      (entered : lookup.Entered events) : Placed lookup (.open text ticket)

/-- What is known of a text whose outcome was collected. -/
inductive Told (lookup : Lookup) (outcome : ItemOutcome) : Prop
  /-- It was found. -/
  | hit (hit : lookup.Hit settings outcome)
  /-- Its request was refused. -/
  | refused (refused : lookup.Refused settings labels events s outcome)
  /-- Its request entered a queue. -/
  | entered (missed : lookup.found = false) (entered : lookup.Entered events)
      (served : ∀ reason, outcome ≠ .error (.unavailable reason))

end

/-- What is known of the text at hand. -/
inductive AtHand (deadline : Time) : Stage → List Lookup → Prop
  /-- There is none. -/
  | handing : AtHand deadline .handing []
  /-- The caller goes to the worker with it. -/
  | submitting {text : String} {lookup : Lookup} (missed : lookup.Missed)
      (text_eq : lookup.text = text) (deadline_eq : lookup.deadline = deadline)
      (noTicket : lookup.ticket? = none) (depth : net depthOf lookup.strides = 0) :
      AtHand deadline (.submitting text) [lookup]
  /-- Its request waits for room. -/
  | sending {w : WorkerId} {request : Request} {lookup : Lookup} (missed : lookup.Missed)
      (text_eq : lookup.text = request.text) (deadline_eq : lookup.deadline = deadline)
      (own : lookup.ticket? = some request.ticket) (depth : net depthOf lookup.strides = 1) :
      AtHand deadline (.sending w request) [lookup]

end Lookup

section Calls

variable (settings labels events s)

/-- The lookups of a call fit what it has collected and what it waits for. -/
def Call.Traced (texts : List String) (lookups : List Lookup) (call : Call) : Prop :=
  ∃ told placed atHand, lookups = told ++ (placed ++ atHand) ∧
    texts = lookups.map Lookup.text ++ call.texts ∧
    List.Forall₂ (Lookup.Told settings labels events s) told call.outcomes ∧
    List.Forall₂ (Lookup.Placed settings labels events s) placed call.slots ∧
    Lookup.AtHand call.deadline call.stage atHand

/-- The lookups of all calls that use the cache fit. -/
def Traced : Prop := ∀ call ∈ s.calls, call.cached = true →
  call.Traced settings labels events s (asked labels call.id) (lookupsOf settings labels call.id)

end Calls

/-! ## What stays true -/

/-- What was known of refused and accepted requests is still known later. -/
structure Onward (settings : Settings) (labels : List Label) (events : List Event) (s : State)
    (labels' : List Label) (events' : List Event) (t : State) : Prop where
  /-- The queues were not fuller before. -/
  roomy : Roomy settings labels' → Roomy settings labels
  /-- What was seen was seen. -/
  seen : ∀ event ∈ events, event ∈ events'
  /-- What will never enter a queue never does. -/
  spent : ∀ ticket, Spent s events ticket → Spent t events' ticket

/-- What was known of requests before a step is known after it. -/
theorem onward_of_transition {label : Label} (apart : Apart s.calls)
    (transition : Transition settings s label t more) :
    Onward settings labels events s (labels ++ [label]) (events ++ more) t where
  roomy roomy early before u shorter :=
    roomy early before u (shorter.trans (List.prefix_append _ _))
  seen _ member := List.mem_append_left _ member
  spent ticket spent := by
    obtain ⟨less, none⟩ := spent
    obtain ⟨later, use⟩ := uses_of_transition apart transition ticket
    refine ⟨Nat.lt_of_lt_of_le less later, ?_⟩
    rw [if_neg fun both => Nat.ne_of_gt less both.1] at use
    rw [uses] at none
    rw [uses_append]
    omega

section Later

variable {labels' : List Label} {events' : List Event}
  (onward : Onward settings labels events s labels' events' t)
include onward

/-- An entry into a queue is never forgotten. -/
theorem Lookup.Entered.later {lookup : Lookup} (entered : lookup.Entered events) :
    lookup.Entered events' := by
  obtain ⟨w, ticket, own, accepted⟩ := entered
  exact ⟨w, ticket, own, onward.seen _ accepted⟩

/-- A refused request stays refused. -/
theorem Lookup.Refused.later {lookup : Lookup} {outcome : ItemOutcome}
    (refused : lookup.Refused settings labels events s outcome) :
    lookup.Refused settings labels' events' t outcome :=
  { refused with
    depth := fun roomy => refused.depth (onward.roomy roomy)
    spent := fun ticket own => onward.spent ticket (refused.spent ticket own) }

/-- What is known of a place stays true. -/
theorem Lookup.Placed.later {lookup : Lookup} {slot : Slot}
    (placed : lookup.Placed settings labels events s slot) :
    lookup.Placed settings labels' events' t slot := by
  cases placed with
  | hit hit => exact .hit hit
  | refused refused => exact .refused (refused.later onward)
  | entered missed entered => exact .entered missed (entered.later onward)

/-- What is known of an outcome stays true. -/
theorem Lookup.Told.later {lookup : Lookup} {outcome : ItemOutcome}
    (told : lookup.Told settings labels events s outcome) :
    lookup.Told settings labels' events' t outcome := by
  cases told with
  | hit hit => exact .hit hit
  | refused refused => exact .refused (refused.later onward)
  | entered missed entered served => exact .entered missed (entered.later onward) served

/-- What is known of the lookups of a call stays true while the call rests. -/
theorem Call.Traced.later {texts : List String} {lookups : List Lookup} {call : Call}
    (traced : call.Traced settings labels events s texts lookups) :
    call.Traced settings labels' events' t texts lookups := by
  obtain ⟨told, placed, atHand, eq, texts_eq, outcomes, slots, stage⟩ := traced
  exact ⟨told, placed, atHand, eq, texts_eq, outcomes.imp fun _ _ known => known.later onward,
    slots.imp fun _ _ known => known.later onward, stage⟩

end Later

/-! ## Calls -/

/-- Changing the item after some others. -/
theorem modify_length {α : Type} (f : α → α) (before : List α) (item : α) (after : List α) :
    (before ++ item :: after).modify before.length f = before ++ f item :: after := by
  induction before with
  | nil => rfl
  | cons first before ih =>
    rw [List.cons_append, List.length_cons, List.modify_succ_cons, ih, List.cons_append]

/-- A caller that goes to the worker does so with one text. -/
theorem Lookup.AtHand.exists_eq {deadline : Time} {stage : Stage} {atHand : List Lookup}
    (known : Lookup.AtHand deadline stage atHand) (going : stage ≠ .handing) :
    ∃ lookup, atHand = [lookup] := by
  cases known with
  | handing => exact absurd rfl going
  | submitting => exact ⟨_, rfl⟩
  | sending => exact ⟨_, rfl⟩

/-- A caller that hands in has no text at hand. -/
theorem Lookup.AtHand.eq_nil {deadline : Time} {atHand : List Lookup}
    (known : Lookup.AtHand deadline .handing atHand) : atHand = [] := by
  cases known
  rfl

section Moves

variable {labels' : List Label} {events' : List Event} {texts : List String}
  {lookups : List Lookup} {call call' : Call} {f : Lookup → Lookup}
  (traced : call.Traced settings labels events s texts lookups)

include traced in
/-- The text at hand of a caller that goes to the worker is the one after those that have a
place. -/
theorem Call.Traced.cut (going : call.stage ≠ .handing)
    (same : ∀ lookup, (f lookup).text = lookup.text) :
    ∃ told placed lookup, lookups.modify call.handed f = told ++ (placed ++ [f lookup]) ∧
      texts = (told ++ (placed ++ [f lookup])).map Lookup.text ++ call.texts ∧
      List.Forall₂ (Lookup.Told settings labels events s) told call.outcomes ∧
      List.Forall₂ (Lookup.Placed settings labels events s) placed call.slots ∧
      Lookup.AtHand call.deadline call.stage [lookup] := by
  obtain ⟨told, placed, atHand, rfl, texts_eq, outcomes, slots, stage⟩ := traced
  obtain ⟨lookup, rfl⟩ := stage.exists_eq going
  have length : call.handed = (told ++ placed).length := by
    rw [Call.handed, List.length_append, outcomes.length_eq, slots.length_eq]
  refine ⟨told, placed, lookup, ?_, ?_, outcomes, slots, stage⟩
  · rw [← List.append_assoc, length, modify_length, List.append_assoc]
  · simpa only [List.map_append, List.map_cons, List.map_nil, same] using texts_eq

variable (onward : Onward settings labels events s labels' events' t)
include traced onward

/-- A caller gives the text at hand a place. -/
theorem Call.Traced.place (going : call.stage ≠ .handing)
    (same : ∀ lookup, (f lookup).text = lookup.text) {slot : Slot}
    (known : ∀ lookup, Lookup.AtHand call.deadline call.stage [lookup] →
      (f lookup).Placed settings labels' events' t slot)
    (stage : call'.stage = .handing) (texts_eq : call'.texts = call.texts)
    (slots : call'.slots = call.slots ++ [slot]) (outcomes : call'.outcomes = call.outcomes) :
    call'.Traced settings labels' events' t texts (lookups.modify call.handed f) := by
  obtain ⟨told, placed, lookup, eq, all, before, places, atHand⟩ :=
    (traced.later onward).cut going same
  rw [eq]
  refine ⟨told, placed ++ [f lookup], [], by rw [List.append_nil], texts_eq ▸ all,
    outcomes ▸ before, ?_, ?_⟩
  · rw [slots]
    exact List.rel_append places (.cons (known lookup atHand) .nil)
  · rw [stage]
    exact .handing

/-- A caller goes on with the text at hand. -/
theorem Call.Traced.turn (going : call.stage ≠ .handing)
    (same : ∀ lookup, (f lookup).text = lookup.text)
    (known : ∀ lookup, Lookup.AtHand call.deadline call.stage [lookup] →
      Lookup.AtHand call'.deadline call'.stage [f lookup])
    (texts_eq : call'.texts = call.texts) (slots : call'.slots = call.slots)
    (outcomes : call'.outcomes = call.outcomes) :
    call'.Traced settings labels' events' t texts (lookups.modify call.handed f) := by
  obtain ⟨told, placed, lookup, eq, all, before, places, atHand⟩ :=
    (traced.later onward).cut going same
  rw [eq]
  exact ⟨told, placed, [f lookup], rfl, texts_eq ▸ all, outcomes ▸ before, slots ▸ places,
    known lookup atHand⟩

/-- A caller looks a text up that is found. -/
theorem Call.Traced.find {lookup : Lookup} {rest : List String} {slot : Slot}
    (handing : call.stage = .handing) (next : call.texts = lookup.text :: rest)
    (known : lookup.Placed settings labels' events' t slot)
    (stage : call'.stage = .handing) (texts_eq : call'.texts = rest)
    (slots : call'.slots = call.slots ++ [slot]) (outcomes : call'.outcomes = call.outcomes) :
    call'.Traced settings labels' events' t texts (lookups ++ [lookup]) := by
  obtain ⟨told, placed, atHand, rfl, all, before, places, atHand_eq⟩ := traced.later onward
  rw [handing] at atHand_eq
  obtain rfl := atHand_eq.eq_nil
  refine ⟨told, placed ++ [lookup], [], ?_, ?_, outcomes ▸ before, ?_, ?_⟩
  · simp only [List.append_nil, List.append_assoc]
  · rw [all, next, texts_eq]
    simp only [List.map_append, List.map_cons, List.map_nil, List.append_assoc, List.cons_append,
      List.nil_append]
  · rw [slots]
    exact List.rel_append places (.cons known .nil)
  · rw [stage]
    exact .handing

/-- A caller looks a text up that is not found. -/
theorem Call.Traced.miss {lookup : Lookup} {rest : List String}
    (handing : call.stage = .handing) (next : call.texts = lookup.text :: rest)
    (known : Lookup.AtHand call'.deadline call'.stage [lookup]) (texts_eq : call'.texts = rest)
    (slots : call'.slots = call.slots) (outcomes : call'.outcomes = call.outcomes) :
    call'.Traced settings labels' events' t texts (lookups ++ [lookup]) := by
  obtain ⟨told, placed, atHand, rfl, all, before, places, atHand_eq⟩ := traced.later onward
  rw [handing] at atHand_eq
  obtain rfl := atHand_eq.eq_nil
  refine ⟨told, placed, [lookup], ?_, ?_, outcomes ▸ before, slots ▸ places, known⟩
  · simp only [List.append_nil, List.append_assoc]
  · rw [all, next, texts_eq]
    simp only [List.map_append, List.map_cons, List.map_nil, List.append_assoc, List.cons_append,
      List.nil_append]

/-- A caller collects the outcome for its first place. -/
theorem Call.Traced.collect {stride : Stride} {slot : Slot} {slots : List Slot}
    (next : call.slots = slot :: slots) {outcome : ItemOutcome}
    (known : ∀ lookup : Lookup, lookup.Placed settings labels' events' t slot →
      (lookup.add stride).Told settings labels' events' t outcome) :
    (Caller.collected call slots outcome).Traced settings labels' events' t texts
      (lookups.modify call.outcomes.length (Lookup.add stride)) := by
  obtain ⟨told, placed, atHand, rfl, all, before, places, stage⟩ := traced.later onward
  rw [next] at places
  cases places with
  | @cons lookup _ placed _ own others =>
    rw [← before.length_eq, List.cons_append, modify_length]
    refine ⟨told ++ [lookup.add stride], placed, atHand, ?_, ?_, ?_, others, stage⟩
    · rw [List.append_assoc, List.singleton_append]
    · rw [all]
      simp only [List.map_append, List.map_cons]
      rfl
    · exact List.rel_append before (.cons (known lookup own) .nil)

end Moves

/-! ## Steps of callers -/

/-- A step that changes no number adds nothing. -/
theorem net_append_of_eq {number : State → UInt64} {strides : List Stride} {stride : Stride}
    (same : number stride.after = number stride.before) :
    net number (strides ++ [stride]) = net number strides := by
  rw [net_append, same, UInt64.sub_self, UInt64.add_zero]

/-- One step that changes no number adds nothing. -/
theorem net_singleton_of_eq {number : State → UInt64} {stride : Stride}
    (same : number stride.after = number stride.before) : net number [stride] = 0 := by
  rw [← List.nil_append [stride], net_append_of_eq same]
  rfl

/-- What holds of some steps and of one more. -/
theorem forall_mem_concat {motive : Stride → Prop} {strides : List Stride} {stride : Stride}
    (before : ∀ other ∈ strides, motive other) (new : motive stride) :
    ∀ other ∈ strides ++ [stride], motive other := by
  intro other member
  rcases List.mem_append.1 member with there | last
  · exact before other there
  · exact List.mem_singleton.1 last ▸ new

namespace Lookup

variable {lookup : Lookup} {stride : Stride} {outcome : ItemOutcome}

/-- One more step for a text that was found. -/
theorem Hit.add (hit : lookup.Hit settings outcome) (quiet : stride.Quiet) :
    (lookup.add stride).Hit settings outcome where
  found := hit.found
  noTicket := hit.noTicket
  quiet := forall_mem_concat hit.quiet quiet
  known := by
    obtain ⟨other, member, known⟩ := hit.known
    exact ⟨other, List.mem_append_left _ member, known⟩

/-- One more step for a text that was not found. -/
theorem Missed.add (missed : lookup.Missed) (harmless : stride.Harmless)
    (same : missesOf stride.after = missesOf stride.before) : (lookup.add stride).Missed where
  missed := missed.missed
  harmless := forall_mem_concat missed.harmless harmless
  misses := (net_append_of_eq same).trans missed.misses

/-- One more step for a text whose request was refused. -/
theorem Refused.add (refused : lookup.Refused settings labels events s outcome)
    (harmless : stride.Harmless) (same : missesOf stride.after = missesOf stride.before)
    (depth : depthOf stride.after = depthOf stride.before) :
    (lookup.add stride).Refused settings labels events s outcome where
  toMissed := refused.toMissed.add harmless same
  reason := by
    rcases refused.reason with away | crowded
    · obtain ⟨other, member, known⟩ := away.nobody
      exact .inl ⟨away.outcome_eq, away.noTicket, other, List.mem_append_left _ member, known⟩
    · obtain ⟨other, member, known⟩ := crowded.crowded
      exact .inr ⟨crowded.outcome_eq, other, List.mem_append_left _ member, known⟩
  depth roomy := (net_append_of_eq depth).trans (refused.depth roomy)
  spent := refused.spent

/-- A ticket changes nothing about a text that was not found. -/
theorem Missed.withTicket (missed : lookup.Missed) (ticket? : Option Ticket) :
    { lookup with ticket? := ticket? }.Missed :=
  ⟨missed.missed, missed.harmless, missed.misses⟩

end Lookup

/-- Raising the depth of the queue. -/
theorem depth_raise (c : Counters) : c.raiseQueue.queueDepth - c.queueDepth = 1 := by
  rw [Counters.raiseQueue]
  grind

/-- Raising the depth of the queue and lowering it, unless it is zero then. -/
theorem depth_lower {c : Counters} (nonzero : c.queueDepth ≠ 0) :
    1 + (c.lowerQueue.queueDepth - c.queueDepth) = 0 := by
  rw [Counters.lowerQueue, if_neg nonzero]
  grind

/-- A text that is not found changes nothing but the count of misses. -/
theorem get_of_unknown {cache : Cache Key Embedding} {key : Key}
    (unknown : cache.find? key = none) :
    (cache.get key).2 = { cache with misses := cache.misses + 1 } := by
  rw [Cache.get, unknown]

/-- A refused request is lowered from the depth of the queue, which is not zero while its call
waits for room. -/
theorem queueDepth_ne_zero {id : CallId} {call : Call} {w : WorkerId} {request : Request}
    (run : Run settings (initial settings) labels events s)
    (whole : ∀ worker ∈ s.workers, worker.phase ≠ .crashed) (roomy : Roomy settings labels)
    (found : s.call? id = some call) (waits : call.stage = .sending w request) :
    s.counters.queueDepth ≠ 0 := by
  intro zero
  have depth := queueDepth_of_run run whole roomy
  have counted := le_countP_calls found Call.isSending
  rw [isSending_eq waits] at counted
  have one : 1 ≤ sending s := counted
  have none : (0 : UInt64).toNat = 0 := rfl
  rw [zero, none, outstanding] at depth
  omega

/-- The ticket of a request that its call no longer offers is spent. -/
theorem spent_of_giveUp {id : CallId} {call call' : Call} {w : WorkerId} {request : Request}
    (run : Run settings (initial settings) labels events s) (found : s.call? id = some call)
    (waits : call.stage = .sending w request) (calls : t.calls = s.callsWith call')
    (same : call'.id = call.id) (next : t.nextTicket = s.nextTicket)
    (silent : call'.offers request.ticket = false) : Spent t (events ++ []) request.ticket := by
  have differ := ticketsDiffer_of_run run request.ticket
  have counted := le_countP_calls found (Call.offers request.ticket)
  have moved := countP_callsWith (apart_of_run run) found same (Call.offers request.ticket)
  have offers : call.offers request.ticket = true := by
    rw [Call.offers, waits]
    exact BEq.rfl
  rw [offers] at counted moved
  rw [silent] at moved
  simp only [Bool.toNat_true, Bool.toNat_false] at counted moved
  unfold uses at differ
  split at differ
  · rename_i less
    refine ⟨next ▸ less, ?_⟩
    rw [uses, List.append_nil, calls]
    omega
  · omega

/-- A text that was looked up and not found is missed. -/
theorem Lookup.missed_of_unknown {lookup : Lookup} {key : Key} (missed : lookup.found = false)
    (strides : lookup.strides = [⟨s, .lookUp, t⟩]) (unknown : s.cache.find? key = none)
    (cache : t.cache = (s.cache.get key).2) (workers : t.workers = s.workers)
    (letters : t.letters = s.letters) (late : t.late = s.late)
    (counters : t.counters = s.counters) : lookup.Missed := by
  rw [get_of_unknown unknown] at cache
  refine ⟨missed, ?_, ?_⟩
  · rw [strides, List.forall_mem_singleton]
    exact ⟨workers, letters, late, by rw [cache], by rw [cache], by rw [counters]⟩
  · rw [strides, ← List.nil_append [_], net_append, missesOf, cache]
    simp only [missesOf, net, List.foldr_nil]
    grind

/-- A step of a caller keeps the lookups of its call fitting. -/
theorem CallerStep.traced {id : CallId} {call : Call} {move : CallerMove} {texts : List String}
    {lookups : List Lookup} (run : Run settings (initial settings) labels events s)
    (whole : ∀ worker ∈ s.workers, worker.phase ≠ .crashed)
    (blameless : LettersBlameless s) (found : s.call? id = some call)
    (step : CallerStep settings s call move t more)
    (own : call.Traced settings labels events s texts lookups) :
    ∀ c ∈ t.calls, c.id = call.id →
      c.Traced settings (labels ++ [.caller id move]) (events ++ more) t texts
        (noteMove settings s call move t lookups) := by
  have onward : Onward settings labels events s (labels ++ [.caller id move]) (events ++ more) t :=
    onward_of_transition (apart_of_run run) (.caller found step)
  have moved {call' : Call} {motive : Call → Prop} (same : call'.id = call.id)
      (holds : motive call') : ∀ c ∈ s.callsWith call', c.id = call.id → motive c :=
    fun c member self => eq_of_mem_callsWith same member self ▸ holds
  have last (stride : Stride) (strides : List Stride) : stride ∈ strides ++ [stride] :=
    List.mem_append_right _ (List.mem_singleton_self _)
  cases step with
  | @find text rest embedding handing next known =>
    refine moved rfl ?_
    simp only [noteMove, next]
    refine own.find onward handing next (.hit ⟨?_, rfl, ?_, ?_⟩) rfl rfl rfl rfl
    · simp [known]
    · exact List.forall_mem_singleton.2 ⟨rfl, rfl, rfl, rfl, rfl⟩
    · exact ⟨_, List.mem_singleton_self _, embedding, known, rfl⟩
  | @miss text rest handing next unknown =>
    refine moved rfl ?_
    simp only [noteMove, next]
    refine own.miss onward handing next ?_ rfl rfl rfl
    refine .submitting ?_ rfl rfl rfl (net_singleton_of_eq rfl)
    exact Lookup.missed_of_unknown (by simp [unknown]) rfl unknown rfl rfl rfl rfl rfl
  | @turnedAway text submitting nobody =>
    refine moved rfl ?_
    refine own.place onward (by simp [submitting]) (fun _ => rfl) (fun lookup known => ?_) rfl
      rfl rfl rfl
    rw [submitting] at known
    cases known with
    | submitting missed text_eq deadline_eq noTicket depth =>
      have none : s.handle.map (fun _ => s.nextTicket) = none := by rw [nobody]; rfl
      refine .refused ⟨?_, ?_, fun _ => ?_, ?_⟩
      · exact (missed.add ⟨rfl, rfl, rfl, rfl, rfl, rfl⟩ rfl).withTicket _
      · exact .inl ⟨rfl, none, _, last _ _, rfl, nobody⟩
      · exact (net_append_of_eq rfl).trans depth
      · intro ticket own
        rw [show s.handle.map (fun _ => s.nextTicket) = some ticket from own] at none
        cases none
  | @submit text w submitting held =>
    refine moved rfl ?_
    refine own.turn onward (by simp [submitting]) (fun _ => rfl) (fun lookup known => ?_) rfl
      rfl rfl
    rw [submitting] at known
    cases known with
    | submitting missed text_eq deadline_eq noTicket depth =>
      refine .sending ?_ text_eq deadline_eq ?_ ?_
      · exact (missed.add ⟨rfl, rfl, rfl, rfl, rfl, rfl⟩ rfl).withTicket _
      · simp [held]
      · rw [Lookup.add, net_append, depth, UInt64.zero_add]
        exact depth_raise _
  | @shutOut w request worker waits there gone =>
    -- the call may send to the worker, so the worker still reads its queue
    have sender : s.hasSender w = true := (hasSender_iff s w).2
      (.inr ⟨call, mem_of_call? found, (sendsTo_iff call w).2 ⟨request, waits⟩⟩)
    obtain ⟨other, same, reads⟩ := there_of_hasSender run whole sender
    rw [there] at same
    cases same
    rw [gone] at reads
    cases reads
  | @send w request worker waits there present room =>
    refine moved rfl ?_
    refine own.place onward (by simp [waits]) (fun _ => rfl) (fun lookup known => ?_) rfl
      rfl rfl rfl
    rw [waits] at known
    cases known with
    | sending missed text_eq deadline_eq own depth =>
      refine .entered missed.missed ⟨w, request.ticket, own, List.mem_append_right _ ?_⟩
      rw [show (lookup.add _).text = request.text from text_eq]
      exact List.mem_singleton_self _
  | @giveUp w request worker waits there present crowded due =>
    refine moved rfl ?_
    refine own.place onward (by simp [waits]) (fun _ => rfl) (fun lookup known => ?_) rfl
      rfl rfl rfl
    rw [waits] at known
    cases known with
    | sending missed text_eq deadline_eq own depth =>
      refine .refused ⟨?_, ?_, fun roomy => ?_, ?_⟩
      · exact missed.add ⟨rfl, rfl, rfl, rfl, rfl, rfl⟩ rfl
      · exact .inr ⟨rfl, _, last _ _, rfl, deadline_eq ▸ due, w, worker, there, present, crowded⟩
      · have nonzero := queueDepth_ne_zero run whole (onward.roomy roomy) found waits
        rw [Lookup.add, net_append, depth]
        exact depth_lower nonzero
      · intro ticket same
        rw [show lookup.ticket? = some ticket from same] at own
        cases own
        exact spent_of_giveUp run found waits rfl rfl rfl rfl
  | collectSettled collecting next =>
    refine moved rfl (own.collect onward next fun lookup known => ?_)
    cases known with
    | hit hit => exact .hit (hit.add ⟨rfl, rfl, rfl, rfl, rfl⟩)
    | refused refused =>
      exact .refused (refused.add ⟨rfl, rfl, rfl, rfl, rfl, rfl⟩ rfl rfl)
  | @receive text ticket slots letter collecting next arrived =>
    refine moved rfl (own.collect onward next fun lookup known => ?_)
    cases known with
    | entered missed entered => exact .entered missed entered (blameless.served arrived)
  | expire collecting next due missing =>
    refine moved rfl (own.collect onward next fun lookup known => ?_)
    cases known with
    | entered missed entered => exact .entered missed entered fun _ same => by cases same
  | answer => exact fun c member self => absurd self (ne_of_mem_callsWithout member)
  | leave => exact fun c member self => absurd self (ne_of_mem_callsWithout member)

/-! ## Runs -/

/-- Every step keeps the lookups of all calls fitting. -/
theorem traced_of_step {label : Label} (run : Run settings (initial settings) labels events s)
    (whole : ∀ worker ∈ t.workers, worker.phase ≠ .crashed) (blameless : LettersBlameless s)
    (traced : Traced settings labels events s) (next : step settings s label = some (t, more)) :
    Traced settings (labels ++ [label]) (events ++ more) t := by
  have transition := transition_of_step next
  have onward : Onward settings labels events s (labels ++ [label]) (events ++ more) t :=
    onward_of_transition (apart_of_run run) transition
  have unbroken := whole_of_transition whole transition
  intro c member cached
  rw [lookupsOf_append run next, asked, List.foldl_append, List.foldl_cons, List.foldl_nil, ← asked]
  have rests (there : c ∈ s.calls) (same : label.asks (asked labels) c.id = asked labels c.id)
      (noted : label.note settings s t (lookupsOf settings labels) c.id =
        lookupsOf settings labels c.id) :
      c.Traced settings (labels ++ [label]) (events ++ more) t (label.asks (asked labels) c.id)
        (label.note settings s t (lookupsOf settings labels) c.id) := by
    rw [same, noted]
    exact (traced c there cached).later onward
  cases transition with
  | @embed id texts fresh =>
    rcases List.mem_append.1 member with there | new
    · have other := ne_of_call?_eq_none fresh c there
      exact rests there (if_neg other) (if_neg other)
    · obtain rfl := List.mem_singleton.1 new
      have asks : (Label.embed id texts).asks (asked labels) id = texts := if_pos rfl
      have none (u : State) :
          (Label.embed id texts).note settings s u (lookupsOf settings labels) id = [] := if_pos rfl
      rw [show (Caller.newCall settings s id texts).id = id from rfl, asks, none]
      exact ⟨[], [], [], rfl, rfl, .nil, .nil, .handing⟩
  | @probe id text fresh =>
    rcases List.mem_append.1 member with there | new
    · exact rests there (if_neg (ne_of_call?_eq_none fresh c there)) rfl
    · obtain rfl := List.mem_singleton.1 new
      cases cached
  | @caller id move call _ _ found step =>
    obtain rfl : call.id = id := id_of_call? found
    have note (other : CallId) :
        (Label.caller call.id move).note settings s t (lookupsOf settings labels) other =
          if other = call.id then
            noteMove settings s call move t (lookupsOf settings labels call.id)
          else lookupsOf settings labels other := by
      rw [Label.note, found]
    by_cases own : c.id = call.id
    · have before := traced call (mem_of_call? found) (step.cached_eq member own ▸ cached)
      rw [note, if_pos own, own]
      exact step.traced run unbroken blameless found before c member own
    · exact rests (step.mem_calls member own) rfl ((note c.id).trans (if_neg own))
  | _ => exact rests member rfl rfl

/-- In a run in which no worker breaks off, and neither loaders nor models blame the service, the
lookups of all calls fit. -/
theorem traced_of_run (run : Run settings (initial settings) labels events s)
    (whole : ∀ worker ∈ s.workers, worker.phase ≠ .crashed)
    (discreet : ∀ label ∈ labels, label.Blameless) : Traced settings labels events s := by
  induction run with
  | none => exact fun _ member => nomatch member
  | step before next ih =>
    have earlier := whole_of_transition whole (transition_of_step next)
    have discreet' := fun label member => discreet label (List.mem_append_left _ member)
    exact traced_of_step before whole (lettersBlameless_of_run before earlier discreet')
      (ih earlier discreet') next

end Matryoshka.Service
