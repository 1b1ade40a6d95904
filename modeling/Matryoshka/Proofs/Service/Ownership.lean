import Matryoshka.Proofs.Service.Lifecycle

/-!
# Who holds a model

A service starts a worker only when it has no handle, but it lets go of the handle as soon as
somebody asks for the end of its worker, which then still works off its queue with its own
model. So two workers may hold a model at the same time, and they do so only when the later one
was started while the earlier one had been let go and had not ended (`models_exclusive`).
-/

namespace Matryoshka.Service

/-- Whether a worker holds a model or waits for one from the loader. -/
def Worker.usesModel (worker : Worker) : Bool :=
  worker.held.isSome ||
    match worker.phase with
    | .loading _ => true
    | _ => false

variable {settings : Settings} {s t : State} {w : WorkerId}

/-- A worker that is gone uses no model. -/
theorem isGone_of_usesModel {labels : List Label} {events : List Event} {worker : Worker}
    (run : Run settings (initial settings) labels events s)
    (found : s.workers[w]? = some worker) (uses : worker.usesModel = true) :
    worker.isGone = false := by
  have fits := (lifecycle_of_run run found).fits
  unfold Worker.StatusFits at fits
  unfold Worker.usesModel at uses
  unfold Worker.isGone
  cases phase : worker.phase <;> rw [phase] at fits uses
  case stopped => simp [fits.2] at uses
  case crashed => simp [fits.2] at uses

/-- Only a start without a handle makes one more worker. -/
theorem length_workers_cases {label : Label} {events : List Event}
    (transition : Transition settings s label t events) :
    t.workers.length = s.workers.length ∨
      label = .start ∧ s.handle = none ∧ t.workers.length = s.workers.length + 1 := by
  cases transition with
  | start nobody => exact .inr ⟨rfl, nobody, by simp⟩
  | caller _ step =>
    left
    cases step with
    | send => simp
    | _ => rfl
  | worker => exact .inl (by simp [State.afterWorker])
  | _ => exact .inl rfl

/-- Every worker was started in the course of a run, at a moment at which the service had no
handle. -/
theorem exists_start {labels : List Label} {events : List Event}
    (run : Run settings (initial settings) labels events s) (started : w < s.workers.length) :
    ∃ early later before more u, labels = early ++ .start :: later ∧
      Run settings (initial settings) early before u ∧ u.handle = none ∧
      u.workers.length = w ∧ Run settings u (.start :: later) more s := by
  induction run with
  | none => exact absurd started (Nat.not_lt_zero w)
  | @step t v labels events more label run next ih =>
    by_cases there : w < t.workers.length
    · obtain ⟨early, later, before, rest, u, rfl, first, nobody, number, onward⟩ := ih there
      refine ⟨early, later ++ [label], before, rest ++ more, u, ?_, first, nobody, number, ?_⟩
      · rw [List.append_assoc, List.cons_append]
      · exact onward.step next
    · rcases length_workers_cases (transition_of_step next) with same | ⟨rfl, nobody, one⟩
      · rw [same] at started
        exact absurd started there
      · rw [one] at started
        have number : t.workers.length = w :=
          Nat.le_antisymm (Nat.le_of_not_lt there) (Nat.le_of_lt_succ started)
        exact ⟨labels, [], events, more, t, rfl, run, nobody, number, .single next⟩

/-- A worker that is there at the end of a run was there before. -/
theorem isGone_of_later {labels : List Label} {events : List Event} {worker : Worker}
    (run : Run settings s labels events t) (before : w < s.workers.length)
    (found : t.workers[w]? = some worker) (there : worker.isGone = false) :
    ∃ earlier, s.workers[w]? = some earlier ∧ earlier.isGone = false := by
  refine ⟨s.workers[w], List.getElem?_eq_getElem before, ?_⟩
  by_contra gone
  rw [Bool.not_eq_false] at gone
  have stays := stays_of_isGone run (List.getElem?_eq_getElem before) gone
  rw [found] at stays
  cases stays
  rw [gone] at there
  cases there

/-- One worker was started, in the course of a run, while another one was there without being
held: it had been let go and had not ended. -/
def StartedBeside (settings : Settings) (labels : List Label) (v w : WorkerId) : Prop :=
  ∃ early before u earlier, early ++ [.start] <+: labels ∧
    Run settings (initial settings) early before u ∧ u.handle = none ∧
    u.workers.length = w ∧ u.workers[v]? = some earlier ∧ earlier.isGone = false

/-- Two workers hold or load a model only if the later one was started beside the earlier one. -/
theorem startedBeside_of_usesModel {labels : List Label} {events : List Event} {v w : WorkerId}
    {first second : Worker} (run : Run settings (initial settings) labels events s)
    (foundFirst : s.workers[v]? = some first) (foundSecond : s.workers[w]? = some second)
    (less : v < w) (uses : first.usesModel = true) : StartedBeside settings labels v w := by
  have inside : w < s.workers.length := (List.getElem?_eq_some_iff.1 foundSecond).1
  obtain ⟨early, later, before, more, u, rfl, start, nobody, number, onward⟩ :=
    exists_start run inside
  have there := isGone_of_usesModel run foundFirst uses
  obtain ⟨earlier, present, alive⟩ := isGone_of_later onward (number ▸ less) foundFirst there
  refine ⟨early, before, u, earlier, ?_, start, nobody, number, present, alive⟩
  exact ⟨later, by rw [List.append_assoc, List.singleton_append]⟩

/-- Two workers hold or load a model only if the later one was started while the earlier one
was there without being held, and so had been let go and had not ended. If no worker is ever
started beside another one, at most one worker holds or loads a model. -/
theorem models_exclusive {labels : List Label} {events : List Event}
    (run : Run settings (initial settings) labels events s) :
    (∀ (v w : WorkerId) (first second : Worker), s.workers[v]? = some first →
      s.workers[w]? = some second → v < w → first.usesModel = true →
      second.usesModel = true → StartedBeside settings labels v w) ∧
      ((∀ v w, ¬ StartedBeside settings labels v w) →
        ∀ (v w : WorkerId) (first second : Worker), s.workers[v]? = some first →
          s.workers[w]? = some second → first.usesModel = true → second.usesModel = true →
          v = w) := by
  constructor
  · intro v w first second foundFirst foundSecond less uses _
    exact startedBeside_of_usesModel run foundFirst foundSecond less uses
  · intro unhurried v w first second foundFirst foundSecond usesFirst usesSecond
    rcases Nat.lt_trichotomy v w with less | same | more
    · exact absurd (startedBeside_of_usesModel run foundFirst foundSecond less usesFirst)
        (unhurried v w)
    · exact same
    · exact absurd (startedBeside_of_usesModel run foundSecond foundFirst more usesSecond)
        (unhurried w v)

/-- What a worker does to load its model for one request. -/
def loadFor (w : WorkerId) : List Label :=
  [.worker w .take, .worker w .closeBatch, .worker w .check, .worker w .proceed,
    .worker w (.finishLoading (.done ()))]

/-- A worker computes when it is let go, and another one is started and loads its model. -/
def hurriedStart : List Label :=
  [.start, .embed 0 ["a"]] ++ handIn 0 ++ loadFor 0 ++
    [.shutDown 7 1000, .start, .embed 1 ["b"]] ++ handIn 1 ++ loadFor 1

/-- Of the two workers that hold a model, the later one was started while the earlier one was
there. -/
theorem hurriedStart_exclusive :
    ∃ events s, Run (mockSettings 0 7) (initial (mockSettings 0 7)) hurriedStart events s ∧
      StartedBeside (mockSettings 0 7) hurriedStart 0 1 := by
  obtain ⟨events, s, first, second, run, foundFirst, foundSecond, usesFirst, usesSecond⟩ :
      ∃ events s first second, Run (mockSettings 0 7) (initial (mockSettings 0 7)) hurriedStart
        events s ∧ s.workers[0]? = some first ∧ s.workers[1]? = some second ∧
        first.usesModel = true ∧ second.usesModel = true :=
    ⟨_, _, _, _, run_of_stepAll rfl, rfl, rfl, rfl, rfl⟩
  exact ⟨events, s, run, (models_exclusive run).1 0 1 first second foundFirst foundSecond
    Nat.zero_lt_one usesFirst usesSecond⟩

/-- Two workers hold a model at the same time: the one that was let go still computes with its
own when the other one has loaded another. -/
theorem two_models_of_hurriedStart :
    ∃ labels events s first second,
      Run (mockSettings 0 7) (initial (mockSettings 0 7)) labels events s ∧
        s.workers[0]? = some first ∧ s.workers[1]? = some second ∧
        first.held.isSome = true ∧ second.held.isSome = true :=
  ⟨hurriedStart, _, _, _, _, run_of_stepAll rfl, rfl, rfl, rfl, rfl⟩

end Matryoshka.Service
