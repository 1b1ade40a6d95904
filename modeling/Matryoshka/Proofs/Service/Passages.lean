import Matryoshka.Proofs.Service.Transition

/-!
# The steps of a run

The labels of a run determine it. Its steps are listed one after the other, each with the state
before it and with what is seen (`passages`). Whatever is read off single steps is so read off a
whole run, and one more step adds what is read off this step (`along_append`).
-/

namespace Matryoshka.Service

/-- A step of a run. -/
structure Passage where
  /-- The state before. -/
  before : State
  /-- What is done. -/
  label : Label
  /-- What is seen. -/
  seen : List Event

/-- The steps from a state on, as far as they are possible. -/
def passagesFrom (settings : Settings) : State → List Label → List Passage
  | _, [] => []
  | s, label :: labels =>
    match step settings s label with
    | none => []
    | some (t, seen) => ⟨s, label, seen⟩ :: passagesFrom settings t labels

/-- The steps of a run. -/
def passages (settings : Settings) (labels : List Label) : List Passage :=
  passagesFrom settings (initial settings) labels

/-- What is read off the steps of a run. -/
def along {α : Type} (read : Passage → List α) (settings : Settings) (labels : List Label) :
    List α :=
  (passages settings labels).flatMap read

variable {settings : Settings} {s t : State} {labels : List Label} {label : Label}
  {events more : List Event}

/-- The steps of a run come before those that follow it. -/
theorem passagesFrom_append (run : Run settings s labels events t) (later : List Label) :
    passagesFrom settings s (labels ++ later) =
      passagesFrom settings s labels ++ passagesFrom settings t later := by
  induction run generalizing later with
  | none => rfl
  | @step u v labels _ more label _ next ih =>
    have last (rest : List Label) :
        passagesFrom settings u (label :: rest) =
          ⟨u, label, more⟩ :: passagesFrom settings v rest := by
      rw [passagesFrom, next]
    rw [List.append_assoc, List.singleton_append, ih, ih, last, last, List.append_assoc]
    rfl

/-- One more step of a run is the last one. -/
theorem passages_append (run : Run settings (initial settings) labels events s)
    (next : step settings s label = some (t, more)) :
    passages settings (labels ++ [label]) = passages settings labels ++ [⟨s, label, more⟩] := by
  rw [passages, passagesFrom_append run, passagesFrom, next]
  rfl

/-- One more step of a run adds what is read off it. -/
theorem along_append {α : Type} (read : Passage → List α)
    (run : Run settings (initial settings) labels events s)
    (next : step settings s label = some (t, more)) :
    along read settings (labels ++ [label]) =
      along read settings labels ++ read ⟨s, label, more⟩ := by
  rw [along, passages_append run next, List.flatMap_append, List.flatMap_singleton]
  rfl

end Matryoshka.Service
