import Matryoshka.Proofs.Service.Claims
import Matryoshka.Proofs.Service.Lookups

/-!
# An error tells whether a request was taken

A caller that is told that the service is unavailable may try again at once: its request never
entered a queue, nothing was or will be computed or remembered for it, and all that is left of it
is one more miss in the statistics of the cache. A caller that is told that its answer is late
knows that the request was taken (`errors_truthful`).
-/

namespace Matryoshka.Service

variable {settings : Settings} {labels : List Label} {events : List Event} {s t : State}

/-- The request with a ticket never enters a queue: no worker ever has it, and nobody ever waits
for its letter. -/
def NeverServed (settings : Settings) (s : State) (events : List Event) (ticket : Ticket) : Prop :=
  ∀ later more u, Run settings s later more u →
    (∀ w request, .accepted w request ∈ events ++ more → request.ticket ≠ ticket) ∧
      ¬ Pending u ticket ∧ u.isOpen ticket = false

namespace Lookup

/-- Nothing was or will be done for a text that was not found. -/
structure Undone (settings : Settings) (labels : List Label) (events : List Event) (s : State)
    (lookup : Lookup) (outcome : ItemOutcome) : Prop extends lookup.Missed where
  /-- There was no worker, or no room until the deadline. -/
  reason : lookup.TurnedAway outcome ∨ lookup.CrowdedOut settings outcome
  /-- The depth of the queue is what it would be without it. -/
  depth : Roomy settings labels → net depthOf lookup.strides = 0
  /-- Its request never enters a queue. -/
  never : ∀ ticket, lookup.ticket? = some ticket → NeverServed settings s events ticket

/-- What a caller is told of a text that was looked up is true. -/
structure Truthful (settings : Settings) (labels : List Label) (events : List Event) (s : State)
    (lookup : Lookup) (outcome : ItemOutcome) : Prop where
  /-- A text that was found gets the vector that was remembered, without a request, and no queue
  or worker is touched. -/
  hit : lookup.found = true → lookup.Hit settings outcome
  /-- The service is unavailable for a text that was not found exactly if the request did not
  enter a queue. -/
  unavailable_iff : lookup.found = false →
    ((∃ reason, outcome = .error (.unavailable reason)) ↔ ¬ lookup.Entered events)
  /-- Then all that is left of it is that one more text was not found. -/
  undone : lookup.found = false → ¬ lookup.Entered events →
    lookup.Undone settings labels events s outcome
  /-- An answer is late only for a request that entered a queue. -/
  late : ∀ milliseconds, outcome = .error (.timeout milliseconds) → lookup.Entered events

end Lookup

/-- A ticket that is spent stays spent. -/
theorem Spent.later {later : List Label} {more : List Event} {ticket : Ticket}
    (spent : Spent s events ticket) (run : Run settings (initial settings) labels events s)
    (onward : Run settings s later more t) : Spent t (events ++ more) ticket := by
  induction onward with
  | none => rwa [List.append_nil]
  | @step u v later more last label onward next ih =>
    have all := run.trans onward
    have known : Onward settings (labels ++ later) (events ++ more) u (labels ++ later ++ [label])
        (events ++ more ++ last) v :=
      onward_of_transition (apart_of_run all) (transition_of_step next)
    rw [← List.append_assoc]
    exact known.spent ticket ih

/-- No request with a spent ticket has entered a queue. -/
theorem Spent.not_accepted {ticket : Ticket} (spent : Spent s events ticket) :
    (acceptedIn events).countP (fun request => request.ticket == ticket) = 0 := by
  have none := spent.2
  rw [uses] at none
  omega

/-- What enters a queue is accepted. -/
theorem mem_acceptedIn {w : WorkerId} {request : Request} (member : .accepted w request ∈ events) :
    request ∈ acceptedIn events :=
  List.mem_filterMap.2 ⟨_, member, rfl⟩

/-- A request with a spent ticket is never served. -/
theorem neverServed_of_spent {ticket : Ticket}
    (run : Run settings (initial settings) labels events s) (spent : Spent s events ticket) :
    NeverServed settings s events ticket := by
  intro later more u onward
  have all := run.trans onward
  have none := (spent.later run onward).not_accepted
  have other : ∀ request ∈ acceptedIn (events ++ more), request.ticket ≠ ticket := by
    intro request member own
    exact List.countP_eq_zero.1 none request member (beq_iff_eq.2 own)
  refine ⟨fun w request member => other request (mem_acceptedIn member), ?_, ?_⟩
  · rintro ⟨worker, member, request, own, same⟩
    obtain ⟨w, found⟩ := List.mem_iff_getElem?.1 member
    exact other request (accepted_of_requests all found own) same
  · have le := claimedOnce_of_run all ticket
    rw [none] at le
    rw [Bool.eq_false_iff, ne_eq, isOpen_iff]
    omega

/-- What is known of a collected outcome makes it truthful. -/
theorem Lookup.Told.truthful {lookup : Lookup} {outcome : ItemOutcome}
    (run : Run settings (initial settings) labels events s)
    (told : lookup.Told settings labels events s outcome) :
    lookup.Truthful settings labels events s outcome := by
  cases told with
  | hit hit =>
    have found := hit.found
    obtain ⟨stride, -, embedding, -, rfl⟩ := hit.known
    constructor
    · exact fun _ => hit
    · simp [found]
    · simp [found]
    · nofun
  | refused refused =>
    have missed := refused.missed
    obtain ⟨reason, told⟩ : ∃ reason, outcome = .error (.unavailable reason) := by
      rcases refused.reason with away | crowded
      · exact ⟨_, away.outcome_eq⟩
      · exact ⟨_, crowded.outcome_eq⟩
    have outside : ¬ lookup.Entered events := by
      rintro ⟨w, ticket, own, accepted⟩
      have none := (refused.spent ticket own).not_accepted
      exact List.countP_eq_zero.1 none _ (mem_acceptedIn accepted) BEq.rfl
    constructor
    · simp [missed]
    · exact fun _ => ⟨fun _ => outside, fun _ => ⟨reason, told⟩⟩
    · exact fun _ _ => { refused with
        never := fun ticket own => neverServed_of_spent run (refused.spent ticket own) }
    · rw [told]
      nofun
  | entered missed entered served =>
    constructor
    · simp [missed]
    · exact fun _ => ⟨fun ⟨reason, told⟩ => absurd told (served reason), fun outside =>
        absurd entered outside⟩
    · exact fun _ outside => absurd entered outside
    · exact fun _ _ => entered

/-- In a run in which no worker breaks off, and neither loaders nor models blame the service,
whenever a call that uses the cache is answered, each of its texts in order has an outcome that
is truthful. Nobody sends to a worker that is gone, and no request is dropped. -/
theorem errors_truthful (run : Run settings (initial settings) labels events s)
    (whole : ∀ worker ∈ s.workers, worker.phase ≠ .crashed)
    (discreet : ∀ label ∈ labels, label.Blameless) :
    (∀ id call t more, s.call? id = some call → call.cached = true →
      step settings s (.caller id .answer) = some (t, more) →
      more = [.answered id call.outcomes] ∧
        (lookupsOf settings labels id).map Lookup.text = asked labels id ∧
        List.Forall₂ (Lookup.Truthful settings labels events s) (lookupsOf settings labels id)
          call.outcomes) ∧
      (∀ w, s.hasSender w = true → ∃ worker, s.workers[w]? = some worker ∧
        worker.isGone = false) ∧
      ∀ entry ∈ s.letters, entry.2 ≠ .lost := by
  refine ⟨?_, fun w => there_of_hasSender run whole, ?_⟩
  · intro id call t more found cached next
    obtain rfl : call.id = id := id_of_call? found
    have traced := traced_of_run run whole discreet call (mem_of_call? found) cached
    obtain ⟨told, placed, atHand, eq, texts, outcomes, slots, stage⟩ := traced
    simp only [step, found, stepCaller, Caller.answer] at next
    split at next
    · rename_i possible
      rw [Bool.and_eq_true, List.isEmpty_iff] at possible
      obtain ⟨collecting, all⟩ := possible
      cases next
      rw [all] at slots
      rw [stage_of_isCollecting collecting] at stage
      obtain rfl := stage.eq_nil
      cases slots
      rw [List.append_nil, List.append_nil] at eq
      rw [texts_of_isCollecting collecting, List.append_nil] at texts
      refine ⟨rfl, texts.symm, ?_⟩
      rw [eq]
      exact outcomes.imp fun _ _ known => known.truthful run
    · cases next
  · intro entry member lost
    obtain ⟨outcome, reply, -⟩ := (lettersBlameless_of_run run whole discreet).letters entry member
    rw [lost] at reply
    cases reply

/-- A queue has room for one of two requests, and the other waits until its deadline. -/
def crowdedOut : List Label :=
  fullQueue ++ [.pass roomForOne.requestTimeout, .caller 1 .giveUp, .caller 1 .collect]

/-- The caller that found no room is told that the queue was full. -/
theorem crowdedOut_truthful :
    ∃ events s t, Run roomForOne (initial roomForOne) crowdedOut events s ∧
      (∀ worker ∈ s.workers, worker.phase ≠ .crashed) ∧
      (∀ label ∈ crowdedOut, label.Blameless) ∧
      step roomForOne s (.caller 1 .answer) =
        some (t, [.answered 1 [.error (.unavailable .queueFull)]]) ∧
      List.Forall₂ (Lookup.Truthful roomForOne crowdedOut events s)
        (lookupsOf roomForOne crowdedOut 1) [.error (.unavailable .queueFull)] := by
  obtain ⟨events, s, t, call, run, workers, found, cached, outcomes, next⟩ :
      ∃ events s t call, Run roomForOne (initial roomForOne) crowdedOut events s ∧
        s.workers = [{ queue := [⟨0, "a"⟩] }] ∧ s.call? 1 = some call ∧ call.cached = true ∧
        call.outcomes = [.error (.unavailable .queueFull)] ∧
        step roomForOne s (.caller 1 .answer) = some (t, [.answered 1 call.outcomes]) :=
    ⟨_, _, _, _, run_of_stepAll rfl, rfl, rfl, rfl, rfl, rfl⟩
  have whole : ∀ worker ∈ s.workers, worker.phase ≠ .crashed := by
    rw [workers]
    simp
  have discreet : ∀ label ∈ crowdedOut, label.Blameless := by
    simp [crowdedOut, fullQueue, handIn, Label.Blameless]
  obtain ⟨-, -, truthful⟩ :=
    (errors_truthful run whole discreet).1 1 call t _ found cached next
  rw [outcomes] at next truthful
  exact ⟨events, s, t, run, whole, discreet, next, truthful⟩

end Matryoshka.Service
