import Matryoshka.Service.Step

/-!
# Runs

A run is made of steps, one for each of its labels. Whatever is seen in a run is seen in one
of its steps (`exists_step_of_mem`), and a run with given labels is found by taking one step
after the other (`run_of_stepAll`).
-/

namespace Matryoshka.Service

variable {settings : Settings} {s t : State} {labels : List Label} {events : List Event}

/-- What is seen in a run is seen in one of its steps. -/
theorem exists_step_of_mem (run : Run settings s labels events t) {event : Event}
    (member : event ∈ events) :
    ∃ early before u label v more rest after, Run settings s early before u ∧
      step settings u label = some (v, more) ∧ event ∈ more ∧
      labels = early ++ label :: rest ∧ events = before ++ more ++ after := by
  induction run with
  | none => cases member
  | @step u v labels events more label run next ih =>
    rcases List.mem_append.1 member with first | last
    · obtain ⟨early, before, u, own, v, seen, rest, after, start, moved, inStep, rfl, rfl⟩ :=
        ih first
      exact ⟨early, before, u, own, v, seen, rest ++ [label], after ++ more, start, moved, inStep,
        by simp only [List.append_assoc, List.cons_append],
        by simp only [List.append_assoc]⟩
    · exact ⟨labels, events, u, label, v, more, [], [], run, next, last, rfl, by
        rw [List.append_nil]⟩

/-- Take one step after the other. -/
def stepAll (settings : Settings) (s : State) : List Label → Option Outcome
  | [] => some (s, [])
  | label :: labels =>
    match step settings s label with
    | none => none
    | some (t, events) =>
      match stepAll settings t labels with
      | none => none
      | some (u, more) => some (u, events ++ more)

/-- Steps that follow each other are a run. -/
theorem run_of_stepAll (stepped : stepAll settings s labels = some (t, events)) :
    Run settings s labels events t := by
  induction labels generalizing s events with
  | nil =>
    cases stepped
    exact .none _
  | cons label labels ih =>
    unfold stepAll at stepped
    split at stepped
    · cases stepped
    · rename_i v first next
      split at stepped
      · cases stepped
      · rename_i u more rest
        cases stepped
        exact (Run.single next).trans (ih rest)

/-- Settings of a service with the mock model, which cuts its vectors to two components. A batch
has room for one request and `others`, a queue for one request and `behind`. -/
def mockSettings (others behind : Nat) : Settings where
  model := { Model.mock with nativeDim := 2 }
  batchSize := others + 1
  queueCapacity := behind + 1
  nativeDim_pos := by decide
  outputDim_accepted := by simp
  batchSize_pos := Nat.zero_lt_succ others
  queueCapacity_pos := Nat.zero_lt_succ behind
  requestTimeout_pos := by decide
  idleUnload_pos := by simp

/-- What a caller does to hand in a text that the cache does not know. -/
def handIn (id : CallId) : List Label :=
  [.caller id .lookUp, .caller id .submit, .caller id .send]

end Matryoshka.Service
