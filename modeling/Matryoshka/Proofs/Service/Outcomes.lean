import Matryoshka.Proofs.Engine.Conduct
import Matryoshka.Proofs.Service.Answers
import Matryoshka.Proofs.Service.Replies

/-!
# What callers are told

The outcomes of a call come from the cache, from letters, and from the service itself when nobody
computes a text. A property of all that loaders and models bring, and of the failures that the
service makes up, is a property of every outcome that a caller is told (`allTold_of_run`). And
there is one outcome for each text: those collected, the places that wait and the texts that have
none yet are together as many as the texts that were asked for (`Call.Told.length`).
-/

namespace Matryoshka.Service

variable (settings : Settings) (P : ItemOutcome → Prop)

/-- The outcomes that a service makes up itself have a property. -/
structure OwnOutcomes : Prop where
  /-- An answer is late. -/
  late : P (.error (Caller.late settings))
  /-- No worker serves the request. -/
  unavailable : ∀ reason, P (.error (.unavailable reason))
  /-- The loader breaks off. -/
  loaderAborted : P (.error (.modelLoad settings.model.name .loaderAborted))
  /-- A computation breaks off. -/
  engineAborted : P (.error (.compute settings.model.name .engineAborted))

/-- The outcomes of a call have a property, and there is one for each of its texts, now or
later. -/
structure Call.Told (texts : List String) (call : Call) : Prop where
  /-- Those collected have it. -/
  outcomes : ∀ outcome ∈ call.outcomes, P outcome
  /-- Those that are known have it. -/
  settled : ∀ outcome, .settled outcome ∈ call.slots → P outcome
  /-- Every text has an outcome or a place, or is about to get one. -/
  length : call.outcomes.length + call.slots.length + call.pending.length = texts.length

/-- Everything that callers are told, or may find in the cache or in a letter, has a property. -/
structure AllTold (texts : CallId → List String) (s : State) : Prop where
  /-- What is remembered. -/
  cache : ∀ entry ∈ s.cache.entries, P (.ok entry.2)
  /-- What workers reply. -/
  replies : RepliesSay (fun letter => P (Caller.outcomeOf letter)) s
  /-- What calls have collected or settled. -/
  calls : ∀ call ∈ s.calls, call.Told P (texts call.id)

variable {settings P} {texts : List String} {call call' : Call} {s t : State}

/-! ## The cache -/

/-- Remembering the vector of an outcome keeps the property. -/
theorem told_remembered {cache : Cache Key Embedding} (text : String) {outcome : ItemOutcome}
    (before : ∀ entry ∈ cache.entries, P (.ok entry.2)) (told : P outcome) :
    ∀ entry ∈ (remembered settings cache text outcome).entries, P (.ok entry.2) := by
  cases outcome with
  | error failure => exact before
  | ok embedding =>
    intro entry member
    rcases mem_of_mem_afterUse member with rfl | kept
    · exact told
    · exact before entry kept

/-! ## Calls -/

/-- A call that only changes how it goes to the worker. -/
theorem Call.Told.turn (told : call.Told P texts)
    (pending : call'.pending = call.pending) (slots : call'.slots = call.slots)
    (outcomes : call'.outcomes = call.outcomes) : call'.Told P texts := by
  refine ⟨outcomes ▸ told.outcomes, slots ▸ told.settled, ?_⟩
  rw [pending, slots, outcomes]
  exact told.length

/-- A call that gives the text at hand a place in the answer. -/
theorem Call.Told.place (told : call.Told P texts) (text : String) {slot : Slot}
    (pending : call.pending = text :: call'.pending) (slots : call'.slots = call.slots ++ [slot])
    (outcomes : call'.outcomes = call.outcomes)
    (own : ∀ outcome, slot = .settled outcome → P outcome) : call'.Told P texts := by
  refine ⟨outcomes ▸ told.outcomes, fun outcome member => ?_, ?_⟩
  · rw [slots] at member
    rcases List.mem_append.1 member with before | new
    · exact told.settled outcome before
    · exact own outcome (List.mem_singleton.1 new).symm
  · have length := told.length
    rw [pending, List.length_cons] at length
    rw [slots, outcomes, List.length_append, List.length_singleton]
    omega

/-- A call that settles the text at hand. -/
theorem Call.Told.settle (told : call.Told P texts) {text : String}
    (stage : call.stage.texts = [text]) {outcome : ItemOutcome} (own : P outcome) :
    (Caller.settle call outcome).Told P texts := by
  refine told.place text ?_ rfl rfl fun other same => ?_
  · rw [Call.pending, stage]
    rfl
  · cases same
    exact own

/-- A call that collects an outcome for its first place. -/
theorem Call.Told.collect (told : call.Told P texts) {slot : Slot} {slots : List Slot}
    (next : call.slots = slot :: slots) {outcome : ItemOutcome} (own : P outcome) :
    (Caller.collected call slots outcome).Told P texts := by
  refine ⟨fun other member => ?_, fun other member => ?_, ?_⟩
  · rcases List.mem_append.1 member with before | new
    · exact told.outcomes other before
    · rw [List.mem_singleton.1 new]
      exact own
  · exact told.settled other (next ▸ List.mem_cons_of_mem slot member)
  · have length := told.length
    rw [next, List.length_cons] at length
    have collected : (Caller.collected call slots outcome).outcomes.length =
        call.outcomes.length + 1 := List.length_append
    have same : (Caller.collected call slots outcome).pending = call.pending := rfl
    rw [collected, same]
    change _ + slots.length + _ = _
    omega

/-- A call that has collected everything has an outcome for each of its texts. -/
theorem Call.Told.length_outcomes (told : call.Told P texts)
    (collecting : call.isCollecting = true) (all : call.slots = []) :
    call.outcomes.length = texts.length := by
  have length := told.length
  have nothing : call.pending = [] := by
    rw [Call.pending, stage_of_isCollecting collecting, texts_of_isCollecting collecting]
    rfl
  rw [nothing, all] at length
  exact length

/-! ## Steps -/

variable {asked : CallId → List String}

/-- After one call has moved on and kept the property, all calls have it. -/
theorem AllTold.callsWith (told : AllTold P asked s) (same : call'.id = call.id)
    (own : call'.Told P (asked call.id)) : ∀ c ∈ s.callsWith call', c.Told P (asked c.id) := by
  intro c member
  rcases mem_callsWith member with rfl | ⟨there, -⟩
  · rw [same]
    exact own
  · exact told.calls c there

/-- A letter that is found has the property. -/
theorem AllTold.letter (told : AllTold P asked s) {ticket : Ticket} {letter : Letter}
    (arrived : s.letter? ticket = some letter) : P (Caller.outcomeOf letter) :=
  told.replies.letters _ (mem_of_letter? arrived)

/-- What is remembered after a text was looked up has the property. -/
theorem AllTold.found (told : AllTold P asked s) (key : Key) :
    ∀ entry ∈ (s.cache.get key).2.entries, P (.ok entry.2) :=
  fun entry member => told.cache entry (mem_of_mem_get member)

/-- A step of a caller keeps the property. -/
theorem CallerStep.allTold {id : CallId} {move : CallerMove} {events : List Event}
    (service : OwnOutcomes settings P) (told : AllTold P asked s) (found : s.call? id = some call)
    (step : CallerStep settings s call move t events) : AllTold P asked t := by
  have own := told.calls call (mem_of_call? found)
  have replies := step.repliesSay told.replies
  cases step with
  | @find text rest embedding handing next known =>
    refine ⟨told.found _, replies, told.callsWith rfl (own.place text ?_ rfl rfl ?_)⟩
    · rw [Call.pending, handing, next]
      rfl
    · intro outcome same
      cases same
      exact told.cache _ (mem_of_find? known)
  | @miss text rest handing next unknown =>
    refine ⟨told.found _, replies, told.callsWith rfl (own.turn ?_ rfl rfl)⟩
    rw [Call.pending, Call.pending, handing, next]
    rfl
  | turnedAway submitting nobody =>
    exact ⟨told.cache, replies, told.callsWith rfl
      (own.settle (by rw [submitting]; rfl) (service.unavailable _))⟩
  | @submit text w submitting held =>
    refine ⟨told.cache, replies, told.callsWith rfl (own.turn ?_ rfl rfl)⟩
    rw [Call.pending, Call.pending, submitting]
    rfl
  | shutOut sending there gone =>
    exact ⟨told.cache, replies, told.callsWith rfl
      (own.settle (by rw [sending]; rfl) (service.unavailable _))⟩
  | @send w request worker sending there present room =>
    refine ⟨told.cache, replies, told.callsWith rfl (own.place request.text ?_ rfl rfl ?_)⟩
    · rw [Call.pending, sending]
      rfl
    · intro outcome same
      cases same
  | giveUp sending there present crowded due =>
    exact ⟨told.cache, replies, told.callsWith rfl
      (own.settle (by rw [sending]; rfl) (service.unavailable _))⟩
  | collectSettled collecting next =>
    exact ⟨told.cache, replies, told.callsWith rfl
      (own.collect next (own.settled _ (next ▸ List.mem_cons_self)))⟩
  | @receive text ticket slots letter collecting next arrived =>
    refine ⟨?_, replies, told.callsWith rfl (own.collect next (told.letter arrived))⟩
    dsimp only
    split
    · exact told_remembered text told.cache (told.letter arrived)
    · exact told.cache
  | expire collecting next due missing =>
    exact ⟨told.cache, replies, told.callsWith rfl (own.collect next service.late)⟩
  | answer collecting all =>
    exact ⟨told.cache, replies, fun c member => told.calls c (List.mem_of_mem_filter member)⟩
  | leave waiting =>
    exact ⟨told.cache, replies, fun c member => told.calls c (List.mem_of_mem_filter member)⟩

/-- The beginning of a call that asks for its texts keeps the property. -/
theorem AllTold.begin (told : AllTold P asked s) (call : Call) (fresh : s.call? call.id = none)
    (slots : call.slots = []) (outcomes : call.outcomes = []) :
    AllTold P (fun other => if other = call.id then call.pending else asked other)
      { s with calls := s.calls ++ [call] } := by
  refine ⟨told.cache, ⟨told.replies.workers, told.replies.letters⟩, fun c member => ?_⟩
  rcases List.mem_append.1 member with before | new
  · rw [if_neg (ne_of_call?_eq_none fresh c before)]
    exact told.calls c before
  · cases List.mem_singleton.1 new
    rw [if_pos rfl]
    refine ⟨?_, ?_, ?_⟩
    · rw [outcomes]
      exact fun _ member => nomatch member
    · rw [slots]
      exact fun _ member => nomatch member
    · rw [outcomes, slots]
      exact Nat.zero_add _

/-- The words of a worker have a property that the failures of the service have. -/
theorem OwnOutcomes.replies (service : OwnOutcomes settings P) :
    OwnReplies settings fun letter => P (Caller.outcomeOf letter) :=
  ⟨service.loaderAborted, service.engineAborted⟩

/-- Every step that brings nothing without the property keeps it. -/
theorem AllTold.step {label : Label} {events : List Event} (service : OwnOutcomes settings P)
    (brings : label.Brings settings fun letter => P (Caller.outcomeOf letter))
    (told : AllTold P asked s) (transition : Transition settings s label t events) :
    AllTold P (label.asks asked) t := by
  have replies := told.replies.transition service.replies brings (.inl (service.unavailable _))
    transition
  cases transition with
  | @embed id wanted fresh => exact told.begin (Caller.newCall settings s id wanted) fresh rfl rfl
  | @probe id text fresh => exact told.begin (Caller.newProbe settings s id text) fresh rfl rfl
  | caller found step => exact step.allTold service told found
  | receiveLate awaited arrived =>
    exact ⟨told_remembered _ told.cache (told.letter arrived), replies, told.calls⟩
  | startHeld => exact told
  | shutDownNobody => exact told
  | start => exact ⟨told.cache, replies, told.calls⟩
  | shutDown => exact ⟨told.cache, replies, told.calls⟩
  | worker => exact ⟨told.cache, replies, told.calls⟩
  | finishEnding => exact ⟨told.cache, replies, told.calls⟩
  | expireEnding => exact ⟨told.cache, replies, told.calls⟩
  | leaveEnding => exact ⟨told.cache, replies, told.calls⟩
  | pass => exact ⟨told.cache, replies, told.calls⟩

/-! ## Runs -/

/-- In every run that brings nothing without the property, callers are told only what has it. -/
theorem allTold_of_run {labels : List Label} {events : List Event}
    (service : OwnOutcomes settings P)
    (run : Run settings (initial settings) labels events s)
    (brings : ∀ label ∈ labels, label.Brings settings fun letter => P (Caller.outcomeOf letter)) :
    AllTold P (Service.asked labels) s := by
  -- the texts of a call are those asked for so far, so the induction goes along with the labels
  induction run with
  | none =>
    exact ⟨fun _ member => (nomatch member), repliesSay_initial, fun _ member => (nomatch member)⟩
  | @step t u labels events more label before next ih =>
    have earlier := ih fun label member => brings label (List.mem_append_left _ member)
    have last := brings label (List.mem_append_right _ List.mem_cons_self)
    have asks : Service.asked (labels ++ [label]) = label.asks (Service.asked labels) := by
      simp only [Service.asked, List.foldl_append, List.foldl_cons, List.foldl_nil]
    rw [asks]
    exact earlier.step service last (transition_of_step next)

/-- An answered call is told one outcome for each text that it asked for, and each of them has
the property. -/
theorem told_of_answered {labels : List Label} {events more : List Event} {label : Label}
    {id : CallId} {outcomes : List ItemOutcome} (service : OwnOutcomes settings P)
    (run : Run settings (initial settings) labels events s)
    (brings : ∀ label ∈ labels, label.Brings settings fun letter => P (Caller.outcomeOf letter))
    (next : step settings s label = some (t, more)) (answered : .answered id outcomes ∈ more) :
    outcomes.length = (Service.asked labels id).length ∧ ∀ outcome ∈ outcomes, P outcome := by
  have told := allTold_of_run service run brings
  obtain ⟨call, found, collecting, all, rfl⟩ :=
    collected_of_answered (transition_of_step next) answered
  have own := told.calls call (mem_of_call? found)
  rw [id_of_call? found] at own
  exact ⟨own.length_outcomes collecting all, own.outcomes⟩

/-! ## The length of vectors -/

/-- A vector has the length that is asked for. -/
def Full (dim : Nat) (outcome : ItemOutcome) : Prop :=
  ∀ vector, outcome = .ok vector → vector.length = dim

/-- A failure has no vector. -/
theorem full_error (dim : Nat) (failure : Failure) : Full dim (.error failure) :=
  fun _ same => by cases same

/-- Whatever engines compute, its vectors have the length that the settings ask for. -/
theorem brings_full (label : Label) :
    label.Brings settings fun letter => Full settings.effectiveDim (Caller.outcomeOf letter) := by
  refine Label.brings_of (fun _ _ _ => full_error _ _) ?_ fun _ _ _ _ _ _ => full_error _ _
  rintro w engine - texts outcomes computed outcome member vector rfl
  exact (Engine.length_of_mem_outcomes computed member).1

/-- In every run an answered call is told one outcome for each text that it asked for, and every
vector among them has the length that the settings ask for. -/
theorem full_of_answered {labels : List Label} {events more : List Event} {label : Label}
    {id : CallId} {outcomes : List ItemOutcome}
    (run : Run settings (initial settings) labels events s)
    (next : step settings s label = some (t, more)) (answered : .answered id outcomes ∈ more) :
    outcomes.length = (Service.asked labels id).length ∧
      ∀ outcome ∈ outcomes, Full settings.effectiveDim outcome :=
  told_of_answered ⟨full_error _ _, fun _ => full_error _ _, full_error _ _, full_error _ _⟩ run
    (fun label _ => brings_full label) next answered

end Matryoshka.Service
