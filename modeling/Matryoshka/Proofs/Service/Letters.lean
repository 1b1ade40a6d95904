import Matryoshka.Proofs.Engine.Conduct
import Matryoshka.Proofs.Service.QueueDepth
import Matryoshka.Proofs.Service.Replies

/-!
# What workers reply

A failure that blames the service says that an answer is late or that no worker serves the
request. If the loader, the tokenizer and the forward pass return no such failure, and no worker
breaks off, then no worker replies with one, and no request is lost (`lettersBlameless_of_run`).
-/

namespace Matryoshka

/-- Whether a failure says that the service is late or does not serve a request. -/
def Failure.blamesService : Failure → Bool
  | .timeout _ | .unavailable _ => true
  | _ => false

namespace Engine

/-- The tokenizer and the forward pass of an engine do not blame the service. -/
structure Blameless (engine : Engine) : Prop where
  /-- The tokenizer. -/
  encode : ∀ text failure, engine.tokenizer.encode text = .error failure →
    failure.blamesService = false
  /-- The forward pass. -/
  forward : ∀ batch failure, engine.forward batch = .failed failure →
    failure.blamesService = false

/-- No failure that the engine reports blames the service. -/
theorem Blameless.of_reports {engine : Engine} {dim : Nat} {failure : Failure}
    (blameless : engine.Blameless) (reports : engine.Reports dim failure) :
    failure.blamesService = false := by
  cases reports with
  | encode failed => exact blameless.encode _ _ failed
  | forward failed => exact blameless.forward _ _ failed
  | emptyInput => rfl
  | compute => rfl
  | unsupported => rfl

end Engine

namespace Service

/-- A step in which neither the loader nor the model blames the service. -/
def Label.Blameless : Label → Prop
  | .worker _ (.finishLoading (.failed failure)) => failure.blamesService = false
  | .worker _ (.finishComputing engine) => engine.Blameless
  | _ => True

/-- A letter is a reply, and does not blame the service. -/
def Letter.Blameless (letter : Letter) : Prop :=
  ∃ outcome, letter = .reply outcome ∧
    ∀ failure, outcome = .error failure → failure.blamesService = false

/-- No reply blames the service. -/
abbrev LettersBlameless (s : State) : Prop := RepliesSay Letter.Blameless s

variable {settings : Settings} {s : State}

/-- A reply with a failure that does not blame the service. -/
theorem Letter.blameless_error {failure : Failure} (blameless : failure.blamesService = false) :
    (Letter.reply (.error failure)).Blameless :=
  ⟨_, rfl, fun _ same => by cases same; exact blameless⟩

/-- The words of a worker do not blame the service. -/
theorem ownReplies_blameless : OwnReplies settings Letter.Blameless :=
  ⟨Letter.blameless_error rfl, Letter.blameless_error rfl⟩

/-- A step in which nobody blames the service brings no reply that does. -/
theorem Label.Blameless.brings {label : Label} (discreet : label.Blameless) :
    label.Brings settings Letter.Blameless := by
  refine Label.brings_of ?_ ?_ ?_
  · rintro w failure rfl
    exact Letter.blameless_error discreet
  · rintro w engine rfl texts outcomes computed outcome member
    have blameless : engine.Blameless := discreet
    refine ⟨outcome, rfl, ?_⟩
    rintro failure rfl
    exact blameless.of_reports (Engine.reports_of_mem computed member)
  · rintro w engine rfl texts failure computed
    have blameless : engine.Blameless := discreet
    exact Letter.blameless_error (blameless.of_reports (Engine.reports_of_failed computed))

/-- In a run in which no worker breaks off, and neither loaders nor models blame the service, no
request is lost and no reply blames the service. -/
theorem lettersBlameless_of_run {labels : List Label} {events : List Event}
    (run : Run settings (initial settings) labels events s)
    (whole : ∀ worker ∈ s.workers, worker.phase ≠ .crashed)
    (discreet : ∀ label ∈ labels, label.Blameless) : LettersBlameless s := by
  induction run with
  | none => exact repliesSay_initial
  | step before next ih =>
    have transition := transition_of_step next
    have earlier := ih (whole_of_transition whole transition)
      fun label member => discreet label (List.mem_append_left _ member)
    have last := discreet _ (List.mem_append_right _ List.mem_cons_self)
    exact earlier.transition ownReplies_blameless last.brings (.inr whole) transition

/-- A letter that is found does not say that the service is unavailable. -/
theorem LettersBlameless.served (blameless : LettersBlameless s) {ticket : Ticket} {letter : Letter}
    (arrived : s.letter? ticket = some letter) (reason : Unavailability) :
    Caller.outcomeOf letter ≠ .error (.unavailable reason) := by
  obtain ⟨outcome, rfl, honest⟩ := blameless.letters _ (mem_of_letter? arrived)
  intro refused
  cases honest _ refused

end Service

end Matryoshka
