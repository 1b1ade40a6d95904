import Matryoshka.Proofs.Service.Answers
import Matryoshka.Service.Drive

/-!
# A drive is a run

A drive makes no steps of its own: whatever it does, its service gets from one state to another
by a run, and it notes the answers that are seen in this run (`Drive.Reaches`). No call begins on
the way but those that the drive is told to begin. So the answer that a drive has after a call is
one that the service gave to this very call (`Drive.Recorded.answered_of_call`).
-/

namespace Matryoshka.Service

/-- The answer to a call that an event tells. -/
def Event.answer? : Event → Option (CallId × List ItemOutcome)
  | .answered call outcomes => some (call, outcomes)
  | _ => none

/-- The call that begins with a step. -/
def Label.begins? : Label → Option CallId
  | .embed id _ | .probe id _ => some id
  | _ => none

variable {settings : Settings} {loader : Loader} {s t : State} {labels later : List Label}
  {events : List Event}

/-! ## Runs in which no call begins -/

/-- A step with which no call begins asks for nothing. -/
theorem asks_of_quiet {label : Label} (quiet : label.begins? = none)
    (asked : CallId → List String) : label.asks asked = asked := by
  cases label <;> first | rfl | cases quiet

/-- Steps with which no call begins ask for nothing. -/
theorem asked_of_quiet (quiet : ∀ label ∈ later, label.begins? = none) :
    asked (labels ++ later) = asked labels := by
  rw [asked, List.foldl_append, ← asked]
  generalize asked labels = before
  induction later with
  | nil => rfl
  | cons label later ih =>
    rw [List.foldl_cons, asks_of_quiet (quiet label List.mem_cons_self)]
    exact ih fun label member => quiet label (List.mem_cons_of_mem _ member)

/-- After a step with which no call begins, every call was there before. -/
theorem call_before {label : Label} (quiet : label.begins? = none)
    (transition : Transition settings s label t events) {call : Call} (member : call ∈ t.calls) :
    ∃ earlier ∈ s.calls, earlier.id = call.id := by
  have stays : call ∈ s.calls → ∃ earlier ∈ s.calls, earlier.id = call.id :=
    fun there => ⟨call, there, rfl⟩
  cases transition with
  | embed => cases quiet
  | probe => cases quiet
  | @caller id move own _ _ found step =>
    by_cases same : call.id = own.id
    · exact ⟨own, mem_of_call? found, same.symm⟩
    · exact stays (step.mem_calls member same)
  | startHeld => exact stays member
  | start => exact stays member
  | shutDownNobody => exact stays member
  | shutDown => exact stays member
  | receiveLate => exact stays member
  | worker => exact stays member
  | finishEnding => exact stays member
  | expireEnding => exact stays member
  | leaveEnding => exact stays member
  | pass => exact stays member

/-- After a run in which no call begins, every call was there before. -/
theorem call_before_run (quiet : ∀ label ∈ labels, label.begins? = none)
    (run : Run settings s labels events t) {call : Call} (member : call ∈ t.calls) :
    ∃ earlier ∈ s.calls, earlier.id = call.id := by
  induction run generalizing call with
  | none => exact ⟨call, member, rfl⟩
  | step before next ih =>
    obtain ⟨middle, there, same⟩ :=
      call_before (quiet _ (List.mem_append_right _ List.mem_cons_self)) (transition_of_step next)
        member
    obtain ⟨earlier, first, equal⟩ :=
      ih (fun label member => quiet label (List.mem_append_left _ member)) there
    exact ⟨earlier, first, equal.trans same⟩

/-- In a run in which no call begins, nobody is answered who was not there before. -/
theorem not_answered_of_quiet (quiet : ∀ label ∈ labels, label.begins? = none)
    (run : Run settings s labels events t) {id : CallId} (fresh : s.call? id = none)
    (outcomes : List ItemOutcome) : .answered id outcomes ∉ events := by
  intro member
  obtain ⟨early, before, u, label, v, more, rest, after, first, next, seen, rfl, -⟩ :=
    exists_step_of_mem run member
  obtain ⟨call, found, -⟩ := collected_of_answered (transition_of_step next) seen
  obtain ⟨earlier, there, same⟩ :=
    call_before_run (fun label inside => quiet label (List.mem_append_left _ inside)) first
      (mem_of_call? found)
  exact ne_of_call?_eq_none fresh earlier there (same.trans (id_of_call? found))

namespace Drive

variable {d e f : Drive}

/-! ## What a drive does -/

/-- Whether the service gets from one drive to another by a run in which no call begins, and the
second drive has noted the answers that are seen on the way. -/
def Reaches (settings : Settings) (d e : Drive) : Prop :=
  ∃ labels events, Run settings d.service labels events e.service ∧
    e.answers = d.answers ++ events.filterMap Event.answer? ∧
    ∀ label ∈ labels, label.begins? = none

/-- Nothing has to happen, and what happens outside the service does not matter. -/
theorem reaches_of_same (service : e.service = d.service) (answers : e.answers = d.answers) :
    Reaches settings d e := by
  refine ⟨[], [], ?_, ?_, fun _ member => nomatch member⟩
  · rw [service]
    exact .none _
  · rw [answers]
    exact (List.append_nil _).symm

/-- A run goes on where another ends. -/
theorem Reaches.trans (first : Reaches settings d e) (second : Reaches settings e f) :
    Reaches settings d f := by
  obtain ⟨labels, events, run, answers, quiet⟩ := first
  obtain ⟨later, more, next, told, silent⟩ := second
  refine ⟨labels ++ later, events ++ more, run.trans next, ?_, fun label member => ?_⟩
  · rw [told, answers, List.filterMap_append, List.append_assoc]
  · rcases List.mem_append.1 member with before | after
    · exact quiet label before
    · exact silent label after

/-- Notes leave the service alone. -/
theorem service_foldl_note (d : Drive) (events : List Event) :
    (events.foldl note d).service = d.service := by
  induction events generalizing d with
  | nil => rfl
  | cons event events ih =>
    rw [List.foldl_cons, ih]
    cases event <;> rfl

/-- The answers that are seen are noted, one after the other. -/
theorem answers_foldl_note (d : Drive) (events : List Event) :
    (events.foldl note d).answers = d.answers ++ events.filterMap Event.answer? := by
  induction events generalizing d with
  | nil => exact (List.append_nil _).symm
  | cons event events ih =>
    rw [List.foldl_cons, ih, List.filterMap_cons]
    cases event <;> simp [note, Event.answer?]

/-- What a drive performs is a step of its service, unless somebody breaks off. -/
theorem step_of_perform? {label : Label} (performed : d.perform? settings loader label = some e) :
    (e.service = d.service ∧ e.answers = d.answers) ∨
      ∃ s events, step settings d.service label = some (s, events) ∧ e.service = s ∧
        e.answers = d.answers ++ events.filterMap Event.answer? := by
  unfold perform? at performed
  split at performed
  · cases performed
    exact .inl ⟨rfl, rfl⟩
  · cases taken : step settings d.service label with
    | none => simp [taken] at performed
    | some outcome =>
      simp only [taken, Option.bind_eq_bind, Option.bind_some, Option.some.injEq] at performed
      subst performed
      exact .inr ⟨outcome.1, outcome.2, rfl, service_foldl_note _ _, answers_foldl_note _ _⟩

/-- A step with which no call begins is a run. -/
theorem reaches_of_perform? {label : Label} (quiet : label.begins? = none)
    (performed : d.perform? settings loader label = some e) : Reaches settings d e := by
  rcases step_of_perform? performed with ⟨service, answers⟩ | ⟨s, events, taken, rfl, answers⟩
  · exact reaches_of_same service answers
  · refine ⟨[label], events, .single taken, answers, fun other member => ?_⟩
    rw [List.mem_singleton.1 member]
    exact quiet

/-- A step with which no call begins is a run, possible or not. -/
theorem reaches_perform {label : Label} (quiet : label.begins? = none) (d : Drive) :
    Reaches settings d (d.perform settings loader label) := by
  unfold perform
  cases performed : d.perform? settings loader label with
  | none => exact reaches_of_same rfl rfl
  | some e => exact reaches_of_perform? quiet performed

/-- No call begins by itself. -/
theorem begins?_of_mem_agenda {label : Label} (member : label ∈ d.agenda settings loader) :
    label.begins? = none := by
  simp only [agenda, List.mem_append, List.mem_flatMap, List.mem_map] at member
  rcases member with
    ((((((⟨_, _, _, _, rfl⟩ | ⟨_, _, rfl⟩) | ⟨_, _, _, _, rfl⟩) | ⟨_, _, rfl⟩) |
      ⟨_, _, losing⟩) | ⟨_, _, _, _, rfl⟩) | ⟨_, _, ending⟩)
  · rfl
  · rfl
  · rfl
  · rfl
  · rcases List.mem_cons.1 losing with rfl | last
    · rfl
    · rw [List.mem_singleton.1 last]
      rfl
  · rfl
  · rcases List.mem_cons.1 ending with rfl | last
    · rfl
    · rw [List.mem_singleton.1 last]
      rfl

/-- Settling is a run. -/
theorem reaches_settleWithin (fuel : Nat) (d : Drive) :
    Reaches settings d (d.settleWithin settings loader fuel) := by
  induction fuel generalizing d with
  | zero => exact reaches_of_same rfl rfl
  | succ fuel ih =>
    unfold settleWithin
    split
    · next found =>
      obtain ⟨label, planned, performed⟩ := List.exists_of_findSome?_eq_some found
      exact (reaches_of_perform? (begins?_of_mem_agenda planned) performed).trans (ih _)
    · exact reaches_of_same rfl rfl

/-- Letting time pass up to a moment is a run. -/
theorem reaches_passTo (d : Drive) (time : Time) :
    Reaches settings d (d.passTo settings loader time) :=
  (reaches_perform rfl d).trans (reaches_settleWithin _ _)

/-- Waiting is a run. -/
theorem reaches_waitWithin (horizon : Option Time) (done : Drive → Bool) (fuel : Nat) (d : Drive) :
    Reaches settings d (d.waitWithin settings loader horizon done fuel) := by
  induction fuel generalizing d with
  | zero => exact reaches_of_same rfl rfl
  | succ fuel ih =>
    unfold waitWithin
    split
    · exact reaches_of_same rfl rfl
    · split
      · split
        · exact (reaches_passTo d _).trans (ih _)
        · exact reaches_of_same rfl rfl
      · exact reaches_of_same rfl rfl

/-- After the first step of a call no other call begins until it is answered. -/
theorem reaches_call (d : Drive) (label : Label) (id : CallId) :
    Reaches settings (d.perform settings loader label) (d.call settings loader label id) :=
  (reaches_settleWithin _ _).trans (reaches_waitWithin _ _ _ _)

/-! ## What a drive has noted -/

/-- The service of a drive has got where it is by a run, and the drive has noted its answers. -/
structure Recorded (settings : Settings) (labels : List Label) (events : List Event)
    (d : Drive) : Prop where
  /-- The run. -/
  run : Run settings (Service.initial settings) labels events d.service
  /-- The answers. -/
  answers : d.answers = events.filterMap Event.answer?

/-- A drive that nobody has told anything has noted nothing. -/
theorem recorded_initial : (initial settings).Recorded settings [] [] := ⟨.none _, rfl⟩

/-- What a drive does by itself is noted. -/
theorem Recorded.reaches (recorded : d.Recorded settings labels events)
    (reaches : Reaches settings d e) : ∃ labels events, e.Recorded settings labels events := by
  obtain ⟨later, seen, run, answers, -⟩ := reaches
  exact ⟨_, _, recorded.run.trans run, by
    rw [answers, recorded.answers, List.filterMap_append]⟩

/-- What a call does is noted. -/
theorem Recorded.call (recorded : d.Recorded settings labels events) (label : Label)
    (id : CallId) : ∃ labels events, (d.call settings loader label id).Recorded settings labels
      events := by
  have reaches : Reaches settings (d.perform settings loader label)
      (d.call settings loader label id) := reaches_call d label id
  unfold perform at reaches
  cases performed : d.perform? settings loader label with
  | none =>
    rw [performed] at reaches
    exact recorded.reaches reaches
  | some e =>
    rw [performed] at reaches
    rcases step_of_perform? performed with ⟨service, answers⟩ | ⟨s, seen, taken, same, answers⟩
    · exact recorded.reaches ((reaches_of_same service answers).trans reaches)
    · rw [← same] at taken
      refine Recorded.reaches ⟨recorded.run.step taken, ?_⟩ reaches
      rw [answers, recorded.answers, List.filterMap_append]

/-- A new answer is seen on the way to it. -/
theorem Reaches.seen (reaches : Reaches settings d e) {id : CallId} {outcomes : List ItemOutcome}
    (unanswered : d.answer? id = none) (answered : e.answer? id = some outcomes) :
    ∃ labels events, Run settings d.service labels events e.service ∧
      (∀ label ∈ labels, label.begins? = none) ∧ .answered id outcomes ∈ events := by
  obtain ⟨labels, events, run, answers, quiet⟩ := reaches
  refine ⟨labels, events, run, quiet, ?_⟩
  unfold answer? at unanswered answered
  rw [answers, List.lookup_append, unanswered, Option.none_or] at answered
  obtain ⟨before, after, split, -⟩ := List.lookup_eq_some_iff.1 answered
  have member : (id, outcomes) ∈ events.filterMap Event.answer? :=
    split ▸ List.mem_append_right _ List.mem_cons_self
  obtain ⟨event, there, told⟩ := List.mem_filterMap.1 member
  cases event <;> cases told
  exact there

/-- The answer that a drive has after a new call was given by the service to this call, in a run
that went on from what the drive had noted by beginning the call. -/
theorem Recorded.answered_of_call (recorded : d.Recorded settings labels events) {id : CallId}
    {texts : List String} {outcomes : List ItemOutcome} (fresh : d.service.call? id = none)
    (unanswered : d.answer? id = none)
    (answered : (d.call settings loader (.embed id texts) id).answer? id = some outcomes) :
    ∃ later seen s label t more,
      Run settings (Service.initial settings) (labels ++ .embed id texts :: later) seen s ∧
      (∀ label ∈ later, label.begins? = none) ∧
      step settings s label = some (t, more) ∧ .answered id outcomes ∈ more := by
  -- if the call has not begun, nobody of this number is there to be answered
  have silent {e : Drive}
      (reaches : Reaches settings e (d.call settings loader (.embed id texts) id))
      (service : e.service = d.service) (answers : e.answers = d.answers) : False := by
    have none : e.answer? id = none := by rw [answer?, answers, ← answer?, unanswered]
    obtain ⟨labels, events, run, quiet, seen⟩ := reaches.seen none answered
    rw [service] at run
    exact not_answered_of_quiet quiet run fresh outcomes seen
  have reaches : Reaches settings (d.perform settings loader (.embed id texts))
      (d.call settings loader (.embed id texts) id) := reaches_call d _ id
  unfold perform at reaches
  cases performed : d.perform? settings loader (.embed id texts) with
  | none =>
    rw [performed] at reaches
    exact (silent reaches rfl rfl).elim
  | some e =>
    rw [performed] at reaches
    rcases step_of_perform? performed with ⟨service, answers⟩ | ⟨s, begun, taken, same, answers⟩
    · exact (silent reaches service answers).elim
    · have none : e.answer? id = none := by
        obtain ⟨-, -, rfl⟩ := begin_eq taken
        rw [answer?, answers, List.filterMap_nil, List.append_nil, ← answer?, unanswered]
      rw [← same] at taken
      obtain ⟨later, seen, run, quiet, member⟩ := reaches.seen none answered
      obtain ⟨early, before, u, label, t, more, rest, after, first, next, inStep, rfl, -⟩ :=
        exists_step_of_mem run member
      have whole := (recorded.run.step taken).trans first
      rw [List.append_assoc, List.singleton_append] at whole
      exact ⟨early, _, u, label, t, more, whole,
        fun label inside => quiet label (List.mem_append_left _ inside), next, inStep⟩

end Drive

end Matryoshka.Service
