import Matryoshka.Proofs.Service.Accounting
import Matryoshka.Proofs.Service.Runs

/-!
# The life of a worker

A worker publishes where it stands in the life of its model. What it says is tied to what it
does (`Worker.StatusFits`): it says that it loads while the loader runs, that it has ended
when it has, and otherwise whether it holds a model. The models that it has loaded are
numbered, and each of them was let go because nobody used it, because a computation broke off
or because the worker ended, or is the one that it holds (`Lifecycle`). Every change of a
worker keeps this (`Lifecycle.change`).
-/

namespace Matryoshka.Service

/-! ## What is seen of models -/

/-- Whether the loader comes back with a model. -/
def Event.isLoad : Event → Bool
  | .loaded _ (.done ()) => true
  | _ => false

/-- Whether a worker lets go of its model for a cause. -/
def Event.isRelease (cause : Release) : Event → Bool
  | .released _ other => other == cause
  | _ => false

/-- How many models are loaded. -/
def loadsIn (events : List Event) : Nat := events.countP Event.isLoad

/-- How many models are let go for a cause. -/
def releasesIn (cause : Release) (events : List Event) : Nat :=
  events.countP (Event.isRelease cause)

theorem loadsIn_append (events more : List Event) :
    loadsIn (events ++ more) = loadsIn events + loadsIn more :=
  List.countP_append

theorem releasesIn_append (cause : Release) (events more : List Event) :
    releasesIn cause (events ++ more) = releasesIn cause events + releasesIn cause more :=
  List.countP_append

/-! ## What a worker says about itself -/

/-- What a worker says that is neither loading nor at its end. -/
def statusFor : Option Held → WorkerStatus
  | some _ => .loaded
  | none => .unloaded

/-- What a worker says fits what it does. -/
def Worker.StatusFits (worker : Worker) : Prop :=
  match worker.phase with
  | .loading batch => worker.status = .loading ∧ worker.held = none ∧ batch ≠ []
  | .computing _ => worker.status = .loaded ∧ worker.held ≠ none
  | .stopped => worker.status = .stopped ∧ worker.held = none
  | .crashed => (worker.status = .loaded ∨ worker.status = .unloaded) ∧ worker.held = none
  | .waiting | .gathering _ | .checking _ _ | .replying _ _ _ =>
    worker.status = statusFor worker.held

/-- A worker and what was seen of its models agree. -/
structure Lifecycle (worker : Worker) (seen : List Event) : Prop where
  /-- It says what it does. -/
  fits : worker.StatusFits
  /-- The model that it holds is the one that it loaded last. -/
  number_eq : ∀ held ∈ worker.held, held.number = worker.loads
  /-- It has counted the models that it loaded. -/
  loads_eq : worker.loads = loadsIn seen
  /-- Each of them was let go, or it is the one of which the worker says that it holds it. -/
  balance : loadsIn seen = releasesIn .idle seen + releasesIn .aborted seen +
    releasesIn .stop seen + if worker.status = .loaded then 1 else 0
  /-- It lets go of no model for its end before it ends. -/
  stop_eq : worker.phase ≠ .stopped → releasesIn .stop seen = 0
  /-- It ends once. -/
  stop_le : releasesIn .stop seen ≤ 1

variable {settings : Settings} {s t : State} {w : WorkerId} {worker worker' : Worker}
  {seen more : List Event}

/-- A worker that is neither loading nor gone says whether it holds a model. -/
theorem Worker.StatusFits.status_eq (fits : worker.StatusFits) (there : worker.isGone = false)
    (free : ∀ batch, worker.phase ≠ .loading batch) : worker.status = statusFor worker.held := by
  unfold Worker.StatusFits at fits
  unfold Worker.isGone at there
  cases phase : worker.phase <;> rw [phase] at fits there
  case loading batch => exact absurd phase (free batch)
  case computing =>
    obtain ⟨status, holds⟩ := fits
    obtain ⟨held, same⟩ := Option.ne_none_iff_exists'.1 holds
    rw [status, same]
    rfl
  case stopped | crashed => cases there
  all_goals exact fits

/-- A worker that does not load says that it holds a model exactly if it does. -/
theorem statusFor_iff (held : Option Held) :
    (statusFor held = .loaded ↔ held.isSome = true) ∧
      (statusFor held = .unloaded ↔ held = none) := by
  cases held <;> simp [statusFor]

/-- A worker that has not broken off says that it holds a model exactly if it does. -/
theorem Worker.StatusFits.loaded_iff (fits : worker.StatusFits) (whole : worker.phase ≠ .crashed) :
    worker.status = .loaded ↔ worker.held.isSome = true := by
  unfold Worker.StatusFits at fits
  cases phase : worker.phase <;> rw [phase] at fits
  case loading => simp [fits.1, fits.2.1]
  case computing => simp [fits.1, Option.isSome_iff_ne_none, fits.2]
  case stopped => simp [fits.1, fits.2]
  case crashed => exact absurd phase whole
  all_goals
    rw [fits]
    exact (statusFor_iff worker.held).1

/-! ## Every change keeps it -/

/-- A worker that is there has let go of no model for its end. -/
theorem Lifecycle.stop_eq_of_there (life : Lifecycle worker seen) (there : worker.isGone = false) :
    releasesIn .stop seen = 0 := by
  apply life.stop_eq
  intro stopped
  rw [Worker.isGone, stopped] at there
  cases there

/-- A step in which no model is loaded or let go. -/
theorem Lifecycle.goOn (life : Lifecycle worker seen) (there : worker.isGone = false)
    (fits : worker'.StatusFits)
    (held : ∀ held' ∈ worker'.held, ∃ held ∈ worker.held, held'.number = held.number)
    (loads : worker'.loads = worker.loads)
    (status : worker'.status = .loaded ↔ worker.status = .loaded)
    (nothing : loadsIn more = 0 ∧ ∀ cause, releasesIn cause more = 0) :
    Lifecycle worker' (seen ++ more) where
  fits := fits
  number_eq held' member := by
    obtain ⟨before, there, same⟩ := held held' member
    rw [same, loads]
    exact life.number_eq before there
  loads_eq := by
    rw [loads, loadsIn_append, nothing.1]
    exact life.loads_eq
  balance := by
    simp only [loadsIn_append, releasesIn_append, nothing.1, nothing.2, status, Nat.add_zero]
    exact life.balance
  stop_eq _ := by rw [releasesIn_append, nothing.2, life.stop_eq_of_there there]
  stop_le := by
    rw [releasesIn_append, nothing.2]
    exact life.stop_le

/-- A step in which the worker lets go of the model that it holds, for one cause. -/
theorem Lifecycle.letGo (life : Lifecycle worker seen) (cause : Release)
    (there : worker.isGone = false) (ended : cause = .stop → worker'.phase = .stopped)
    (loaded : worker.status = .loaded) (fits : worker'.StatusFits) (held : worker'.held = none)
    (loads : worker'.loads = worker.loads) (status : worker'.status ≠ .loaded)
    (nothing : loadsIn more = 0)
    (one : ∀ other, releasesIn other more = if other = cause then 1 else 0) :
    Lifecycle worker' (seen ++ more) where
  fits := fits
  number_eq := by simp [held]
  loads_eq := by
    rw [loads, loadsIn_append, nothing]
    exact life.loads_eq
  balance := by
    have before := life.balance
    rw [if_pos loaded] at before
    rw [loadsIn_append, nothing, if_neg status]
    simp only [releasesIn_append, one]
    cases cause <;> simp <;> omega
  stop_eq going := by
    have other : Release.stop ≠ cause := fun same => going (ended same.symm)
    rw [releasesIn_append, one, if_neg other, life.stop_eq_of_there there]
  stop_le := by
    rw [releasesIn_append, one, life.stop_eq_of_there there]
    split <;> omega

/-- A worker that is done with a batch says whether it holds a model. -/
theorem status_eq_of_done {move : WorkerMove} {size : Nat} (fits : worker.StatusFits)
    (isDone : Done worker move size) : worker.status = statusFor worker.held := by
  have free : ∀ batch, worker.phase ≠ .loading batch := by
    cases isDone with
    | passedOver phase => simp [phase]
    | replied phase => simp [phase]
  have there : worker.isGone = false := by
    cases isDone with
    | passedOver phase => simp [Worker.isGone, phase]
    | replied phase => simp [Worker.isGone, phase]
  exact fits.status_eq there free

/-- Breaking off, a worker says what it said before and holds nothing. -/
theorem fits_broken (status : worker.status = statusFor worker.held) (answered : Nat) :
    ({ worker.broken with answered := answered } : Worker).StatusFits := by
  refine ⟨?_, rfl⟩
  cases held : worker.held with
  | none => exact .inr (status.trans (by rw [held]; rfl))
  | some model => exact .inl (status.trans (by rw [held]; rfl))

/-- Every step of a worker keeps what it says and what it holds together. -/
theorem Lifecycle.step {move : WorkerMove} {counters : Counters}
    {written : List (Ticket × Letter)} (life : Lifecycle worker seen)
    (step : WorkerStep settings s w worker move worker' counters written more) :
    Lifecycle worker' (seen ++ more) := by
  have fits := life.fits
  have balance := life.balance
  have there := step.isGone_eq
  have same : ∀ held' ∈ worker.held, ∃ held ∈ worker.held, held'.number = held.number :=
    fun held' member => ⟨held', member, rfl⟩
  have gone : ∀ held' ∈ (none : Option Held), ∃ held ∈ worker.held, held'.number = held.number := by
    simp
  have silent : loadsIn [] = 0 ∧ ∀ cause, releasesIn cause [] = 0 := ⟨rfl, fun _ => rfl⟩
  cases step with
  | take phase waits memory =>
    rw [Worker.StatusFits, phase] at fits
    exact life.goOn there fits same rfl Iff.rfl ⟨rfl, fun _ => rfl⟩
  | breakOff phase waits memory =>
    rw [Worker.StatusFits, phase] at fits
    exact life.goOn there (fits_broken fits worker.answered) gone rfl Iff.rfl ⟨rfl, fun _ => rfl⟩
  | takeMore phase waits room =>
    rw [Worker.StatusFits, phase] at fits
    exact life.goOn there fits same rfl Iff.rfl ⟨rfl, fun _ => rfl⟩
  | closeBatch phase full =>
    rw [Worker.StatusFits, phase] at fits
    exact life.goOn there fits same rfl Iff.rfl ⟨rfl, fun _ => rfl⟩
  | check phase =>
    rw [Worker.StatusFits, phase] at fits
    exact life.goOn there fits same rfl Iff.rfl ⟨rfl, fun _ => rfl⟩
  | compute phase somebody holds =>
    rw [Worker.StatusFits, phase, holds] at fits
    have fits' : worker.status = .loaded ∧ worker.held ≠ none := ⟨fits, by simp [holds]⟩
    exact life.goOn there fits' same rfl Iff.rfl silent
  | load phase somebody holds =>
    rw [Worker.StatusFits, phase, holds] at fits
    have before : worker.status = .unloaded := fits
    exact life.goOn there ⟨rfl, holds, somebody⟩ same rfl (by simp [before]) silent
  | loaded phase =>
    rw [Worker.StatusFits, phase] at fits
    have idle : releasesIn .idle [.loaded w (.done ())] = 0 := rfl
    have aborted : releasesIn .aborted [.loaded w (.done ())] = 0 := rfl
    have stop : releasesIn .stop [.loaded w (.done ())] = 0 := rfl
    have one : loadsIn [.loaded w (.done ())] = 1 := rfl
    rw [fits.1, if_neg (by decide)] at balance
    refine ⟨⟨rfl, by simp⟩, by simp, ?_, ?_, fun _ => ?_, ?_⟩
    · rw [loadsIn_append, one, ← life.loads_eq]
    · rw [loadsIn_append, releasesIn_append, releasesIn_append, releasesIn_append, one, idle,
        aborted, stop, if_pos rfl]
      omega
    · rw [releasesIn_append, stop, life.stop_eq_of_there there]
    · rw [releasesIn_append, stop]
      exact life.stop_le
  | @loadFails batch outcome failure phase fails =>
    rw [Worker.StatusFits, phase] at fits
    obtain ⟨status, holds, -⟩ := fits
    have nothing : loadsIn [.loaded w outcome] = 0 := by cases fails <;> rfl
    have unloaded : WorkerStatus.unloaded = statusFor worker.held := by rw [holds]; rfl
    exact life.goOn there unloaded same rfl (by simp [status]) ⟨nothing, fun _ => rfl⟩
  | compute_done phase holds outcome =>
    rw [Worker.StatusFits, phase] at fits
    exact life.goOn there fits.1 (by simp [Worker.computed, holds]) rfl Iff.rfl ⟨rfl, fun _ => rfl⟩
  | compute_failed phase holds outcome =>
    rw [Worker.StatusFits, phase] at fits
    exact life.goOn there fits.1 (by simp [Worker.computed, holds]) rfl Iff.rfl ⟨rfl, fun _ => rfl⟩
  | compute_aborted phase holds outcome =>
    rw [Worker.StatusFits, phase] at fits
    exact life.letGo .aborted there (by simp) fits.1 rfl rfl rfl (by simp [Worker.computed]) rfl
      (by intro cause; cases cause <;> rfl)
  | reply phase =>
    rw [Worker.StatusFits, phase] at fits
    exact life.goOn there fits same rfl Iff.rfl ⟨rfl, fun _ => rfl⟩
  | finish isDone clock =>
    have status := status_eq_of_done fits isDone
    exact life.goOn there (show worker.status = statusFor worker.held from status) same rfl Iff.rfl
      ⟨rfl, fun _ => rfl⟩
  | finishBroken isDone clock =>
    have status := status_eq_of_done fits isDone
    exact life.goOn there (fits_broken status _) gone rfl Iff.rfl ⟨rfl, fun _ => rfl⟩
  | unload phase holds asked due idle sender =>
    rw [Worker.StatusFits, phase, holds] at fits
    have waiting : ({ worker with held := none, status := .unloaded } : Worker).StatusFits := by
      rw [Worker.StatusFits, phase]
      rfl
    exact life.letGo .idle there (by simp) fits waiting rfl rfl (by simp) rfl
      (by intro cause; cases cause <;> rfl)
  | stop phase idle noSender =>
    rw [Worker.StatusFits, phase] at fits
    cases holds : worker.held with
    | none =>
      rw [holds] at fits
      have before : worker.status = .unloaded := fits
      exact life.goOn there ⟨rfl, rfl⟩ gone rfl (by simp [before]) ⟨rfl, fun _ => rfl⟩
    | some held =>
      rw [holds] at fits
      exact life.letGo .stop there (fun _ => rfl) fits ⟨rfl, rfl⟩ rfl rfl (by simp) rfl
        (by intro cause; cases cause <;> rfl)

/-- A fresh worker has loaded nothing. -/
theorem lifecycle_fresh : Lifecycle {} [] where
  fits := rfl
  number_eq _ member := nomatch member
  loads_eq := rfl
  balance := rfl
  stop_eq _ := rfl
  stop_le := Nat.zero_le _

/-- Every change of a worker keeps what it says and what it holds together. -/
theorem Lifecycle.change (life : Lifecycle worker seen)
    (change : WorkerChange settings s w worker worker' more) :
    Lifecycle worker' (seen ++ more) := by
  cases change with
  | rest =>
    rw [List.append_nil]
    exact life
  | @accept request there room =>
    have fits : ({ worker with queue := worker.queue ++ [request] } : Worker).StatusFits :=
      life.fits
    exact life.goOn there fits (fun held' member => ⟨held', member, rfl⟩) rfl Iff.rfl
      ⟨rfl, fun _ => rfl⟩
  | move step => exact life.step step

/-- In every run each worker says what it does. -/
theorem lifecycle_of_run {labels : List Label} {events : List Event}
    (run : Run settings (initial settings) labels events s)
    (found : s.workers[w]? = some worker) : Lifecycle worker (seenOf w events) :=
  worker_induction (motive := fun _ worker seen => Lifecycle worker seen)
    (fun _ => lifecycle_fresh) (fun _ _ _ _ _ life => life)
    (fun _ _ _ _ _ life change => life.change change) run found

/-! ## Counting models -/

/-- The counters hold how many models were loaded and how many of them nobody used. -/
structure ModelsCounted (counters : Counters) (events : List Event) : Prop where
  /-- Models are counted when the loader comes back with them. -/
  loads_eq : counters.loads = UInt64.ofNat (loadsIn events)
  /-- Models are counted when they are let go because nobody used them. -/
  idle_eq : counters.idleUnloads = UInt64.ofNat (releasesIn .idle events)

/-- A step that counts the models seen in it keeps the count. -/
theorem ModelsCounted.add {before after : Counters} {events : List Event}
    (counted : ModelsCounted before events)
    (loads : after.loads = before.loads + UInt64.ofNat (loadsIn more))
    (idle : after.idleUnloads = before.idleUnloads + UInt64.ofNat (releasesIn .idle more)) :
    ModelsCounted after (events ++ more) where
  loads_eq := by rw [loads, counted.loads_eq, ← UInt64.ofNat_add, ← loadsIn_append]
  idle_eq := by rw [idle, counted.idle_eq, ← UInt64.ofNat_add, ← releasesIn_append]

/-- A step in which nothing is seen of models and nothing is counted keeps the count. -/
theorem ModelsCounted.silent {before after : Counters} {events : List Event}
    (counted : ModelsCounted before events) (loads : after.loads = before.loads)
    (idle : after.idleUnloads = before.idleUnloads) (none : loadsIn more = 0)
    (nobody : releasesIn .idle more = 0) : ModelsCounted after (events ++ more) := by
  apply counted.add
  · rw [none, loads]
    exact (UInt64.add_zero _).symm
  · rw [nobody, idle]
    exact (UInt64.add_zero _).symm

/-- Nothing is seen of models when a reply is received. -/
theorem models_of_rememberEvents (settings : Settings) (text : String) (outcome : ItemOutcome) :
    loadsIn (rememberEvents settings text outcome) = 0 ∧
      releasesIn .idle (rememberEvents settings text outcome) = 0 := by
  cases outcome <;> exact ⟨rfl, rfl⟩

/-- Every step of a worker keeps the count. -/
theorem ModelsCounted.labor {move : WorkerMove} {counters : Counters} {events : List Event}
    {written : List (Ticket × Letter)} (counted : ModelsCounted s.counters events)
    (step : WorkerStep settings s w worker move worker' counters written more) :
    ModelsCounted counters (events ++ more) := by
  cases step with
  | loaded phase => exact counted.add rfl (UInt64.add_zero _).symm
  | unload phase holds asked due idle sender => exact counted.add (UInt64.add_zero _).symm rfl
  | loadFails phase fails => exact counted.silent rfl rfl (by cases fails <;> rfl) rfl
  | @reply request outcome replies alreadyCounted size phase =>
    cases alreadyCounted with
    | true => exact counted.silent rfl rfl rfl rfl
    | false => cases outcome <;> exact counted.silent rfl rfl rfl rfl
  | stop phase idle noSender =>
    refine counted.silent rfl rfl ?_ ?_
    · split <;> rfl
    · split <;> rfl
  | _ => exact counted.silent rfl rfl rfl rfl

/-- In every run the models are counted. -/
theorem modelsCounted_of_run {labels : List Label} {events : List Event}
    (run : Run settings (initial settings) labels events s) :
    ModelsCounted s.counters events := by
  induction run with
  | none => exact ⟨rfl, rfl⟩
  | step before next ih =>
    cases transition_of_step next with
    | worker found step => exact ih.labor step
    | caller found step =>
      cases step with
      | receive =>
        split
        · obtain ⟨none, nobody⟩ := models_of_rememberEvents settings _ _
          exact ih.silent rfl rfl none nobody
        · exact ih.silent rfl rfl rfl rfl
      | _ => exact ih.silent rfl rfl rfl rfl
    | receiveLate =>
      obtain ⟨none, nobody⟩ := models_of_rememberEvents settings _ _
      exact ih.silent rfl rfl none nobody
    | _ => exact ih.silent rfl rfl rfl rfl

/-! ## The model in use -/

/-- A computation uses the model that the worker holds. If it breaks off the worker lets go of
the model, and otherwise keeps it. -/
theorem held_of_computed {move : WorkerMove} {counters : Counters}
    {written : List (Ticket × Letter)} {engine : Engine} {texts : List String} {passes : Nat}
    (step : WorkerStep settings s w worker move worker' counters written more)
    (member : .computed w engine texts passes ∈ more) :
    ∃ held ∈ worker.held, (∃ batch, worker.phase = .computing batch) ∧
      worker'.loads = worker.loads ∧
      ((engine.compute texts settings.effectiveDim).outcome ≠ .aborted →
        (∃ held' ∈ worker'.held, held'.number = held.number) ∧
          worker'.status = worker.status) ∧
      ((engine.compute texts settings.effectiveDim).outcome = .aborted →
        worker'.held = none ∧ worker'.status = .unloaded) := by
  cases step with
  | compute_done phase holds outcome =>
    simp only [List.mem_singleton, Event.computed.injEq, true_and] at member
    obtain ⟨rfl, rfl, -⟩ := member
    refine ⟨_, holds, ⟨_, phase⟩, rfl, fun _ => ⟨⟨_, rfl, rfl⟩, rfl⟩, fun aborted => ?_⟩
    rw [outcome] at aborted
    cases aborted
  | compute_failed phase holds outcome =>
    simp only [List.mem_singleton, Event.computed.injEq, true_and] at member
    obtain ⟨rfl, rfl, -⟩ := member
    refine ⟨_, holds, ⟨_, phase⟩, rfl, fun _ => ⟨⟨_, rfl, rfl⟩, rfl⟩, fun aborted => ?_⟩
    rw [outcome] at aborted
    cases aborted
  | compute_aborted phase holds outcome =>
    simp only [List.mem_cons, Event.computed.injEq, true_and, reduceCtorEq, List.not_mem_nil,
      or_false] at member
    obtain ⟨rfl, rfl, -⟩ := member
    exact ⟨_, holds, ⟨_, phase⟩, rfl, fun whole => absurd outcome whole, fun _ => ⟨rfl, rfl⟩⟩
  | stop => split at member <;> simp at member
  | _ => simp at member

/-- A step in which a computation ends keeps the model of a worker, or lets go of the one that the
worker loaded last. -/
theorem Lifecycle.held_of_transition {label : Label} {engine : Engine} {texts : List String}
    {passes : Nat} (life : Lifecycle worker seen) (transition : Transition settings s label t more)
    (found : s.workers[w]? = some worker) (there : t.workers[w]? = some worker')
    (member : .computed w engine texts passes ∈ more) :
    ∃ held ∈ worker.held, held.number = worker'.loads ∧
      ((engine.compute texts settings.effectiveDim).outcome ≠ .aborted →
        (∃ held' ∈ worker'.held, held'.number = held.number) ∧ worker'.status = .loaded) ∧
      ((engine.compute texts settings.effectiveDim).outcome = .aborted →
        worker'.held = none ∧ worker'.status = .unloaded) := by
  obtain ⟨move, before, after, counters, written, rfl, same, step, rfl⟩ :=
    workerStep_of_mem transition member rfl nofun
  rw [found] at same
  cases same
  have inside : w < s.workers.length := (List.getElem?_eq_some_iff.1 found).1
  have after_eq : (s.workers.set w after)[w]? = some after := List.getElem?_set_self inside
  obtain rfl : worker' = after := Option.some.inj (there.symm.trans after_eq)
  obtain ⟨held, holds, ⟨batch, computing⟩, loads, kept, dropped⟩ := held_of_computed step member
  have fits := life.fits
  rw [Worker.StatusFits, computing] at fits
  refine ⟨held, holds, loads ▸ life.number_eq held holds, fun whole => ?_, dropped⟩
  obtain ⟨still, status⟩ := kept whole
  exact ⟨still, status.trans fits.1⟩

/-- A change of a worker takes no model back: one that it holds afterwards and did not hold
before is a new one. -/
theorem WorkerChange.number_lt {n : Nat} (change : WorkerChange settings s w worker worker' more)
    (later : n ≤ worker.loads ∧ ∀ held ∈ worker.held, n < held.number) :
    n ≤ worker'.loads ∧ ∀ held ∈ worker'.held, n < held.number := by
  obtain ⟨loads, newer⟩ := later
  cases change with
  | rest => exact ⟨loads, newer⟩
  | accept => exact ⟨loads, newer⟩
  | move step =>
    cases step with
    | loaded => simpa using ⟨by omega, by omega⟩
    | compute_done phase holds outcome => simpa [Worker.computed, loads] using newer _ holds
    | compute_failed phase holds outcome => simpa [Worker.computed, loads] using newer _ holds
    | compute_aborted => simpa [Worker.computed] using loads
    | breakOff => simpa [Worker.broken] using loads
    | finishBroken => simpa [Worker.broken] using loads
    | unload => simpa using loads
    | stop => simpa using loads
    | _ => exact ⟨loads, newer⟩

/-- A worker that has let go of its model never takes it back. -/
theorem number_lt_of_run {labels : List Label} {events : List Event} {n : Nat}
    (run : Run settings s labels events t) (found : s.workers[w]? = some worker)
    (none : worker.held = none) (loads : n ≤ worker.loads) (there : t.workers[w]? = some worker') :
    ∀ held ∈ worker'.held, n < held.number := by
  obtain ⟨after, same, -, newer⟩ := worker_later
    (motive := fun worker => n ≤ worker.loads ∧ ∀ held ∈ worker.held, n < held.number)
    (fun _ _ _ _ later change => change.number_lt later) run found ⟨loads, by simp [none]⟩
  rw [there] at same
  cases same
  exact newer

/-! ## The account of a life -/

/-- The loader runs for requests that somebody waited for. -/
theorem awaited_of_loading {labels : List Label} {events : List Event} {batch : List Request}
    (run : Run settings (initial settings) labels events s)
    (found : s.workers[w]? = some worker) (loading : worker.phase = .loading batch) :
    ∀ request ∈ batch, LookedAt settings w events request true := by
  have current_at := (balanced_of_run run found).current_at
  rw [loading] at current_at
  obtain ⟨-, -, live⟩ := current_at
  intro request member
  rw [live] at member
  obtain ⟨⟨first, awaited⟩, kept, rfl⟩ := List.mem_map.1 member
  obtain ⟨verdict, yes⟩ := List.mem_filter.1 kept
  obtain rfl : awaited = true := yes
  exact lookedAt_of_mem_verdicts run (List.mem_append_right _ verdict)

/-- A worker says that it loads exactly while the loader runs, and that it has ended exactly
when it has. -/
theorem Worker.StatusFits.status_iff (fits : worker.StatusFits) :
    (worker.status = .loading ↔ ∃ batch, worker.phase = .loading batch) ∧
      (worker.status = .stopped ↔ worker.phase = .stopped) := by
  have other (held : Option Held) : statusFor held ≠ .loading ∧ statusFor held ≠ .stopped := by
    cases held <;> exact ⟨nofun, nofun⟩
  unfold Worker.StatusFits at fits
  cases phase : worker.phase <;> rw [phase] at fits
  case loading batch => simp [fits.1]
  case computing => simp [fits.1]
  case stopped => simp [fits.1]
  case crashed => rcases fits.1 with status | status <;> simp [status]
  all_goals simp [fits, other]

/-- The loader comes back only where it was asked, and a worker asks it only by going on with a
batch. -/
theorem loading_of_transition {label : Label}
    (transition : Transition settings s label t more) (found : s.workers[w]? = some worker)
    (there : t.workers[w]? = some worker') :
    (∀ outcome, .loaded w outcome ∈ more → ∃ batch, worker.phase = .loading batch) ∧
      ∀ batch, worker'.phase = .loading batch →
        worker.phase = .loading batch ∨
          label = .worker w .proceed ∧ worker.phase = .checking batch [] := by
  constructor
  · intro outcome member
    obtain ⟨move, before, after, counters, written, rfl, same, step, rfl⟩ :=
      workerStep_of_mem transition member rfl nofun
    rw [found] at same
    cases same
    cases step with
    | loaded phase => exact ⟨_, phase⟩
    | loadFails phase => exact ⟨_, phase⟩
    | stop => split at member <;> simp at member
    | _ => simp at member
  · intro batch loading
    rcases phase_eq_or_workerStep transition found there with same | ⟨move, _, _, rfl, step⟩
    · exact .inl (same ▸ loading)
    · right
      cases step with
      | load phase => cases loading; exact ⟨rfl, phase⟩
      | unload phase => rw [phase] at loading; cases loading
      | _ => cases loading

/-- Without memory for a batch a worker never comes to load a model. -/
theorem loads_eq_zero_of_run {labels : List Label} {events : List Event}
    (memory : Labor.batchFits settings = false)
    (run : Run settings (initial settings) labels events s)
    (found : s.workers[w]? = some worker) : worker.loads = 0 := by
  have idle : (worker.phase = .waiting ∨ worker.isGone = true) ∧ worker.loads = 0 := by
    refine worker_induction (motive := fun _ worker _ =>
      (worker.phase = .waiting ∨ worker.isGone = true) ∧ worker.loads = 0)
      (fun _ => ⟨.inl rfl, rfl⟩) (fun _ _ _ _ _ kept => kept) ?_ run found
    intro s worker worker' seen more kept change
    cases change with
    | rest => exact kept
    | accept => exact kept
    | move step =>
      have waiting : worker.phase = .waiting := kept.1.resolve_right (by simp [step.isGone_eq])
      cases step with
      | take _ _ fits => simp [memory] at fits
      | breakOff => exact ⟨.inr rfl, kept.2⟩
      | finish isDone => cases isDone <;> simp_all
      | finishBroken isDone => cases isDone <;> simp_all
      | unload => exact ⟨.inl waiting, kept.2⟩
      | stop => exact ⟨.inr rfl, kept.2⟩
      | _ => simp_all
  exact idle.2

/-- A worker with memory for its batches breaks off only when it says that it holds a model. -/
theorem status_of_crash {labels : List Label} {events : List Event}
    (memory : Labor.batchFits settings = true)
    (run : Run settings (initial settings) labels events s)
    (found : s.workers[w]? = some worker) (crashed : worker.phase = .crashed) :
    worker.status = .loaded := by
  have kept : Lifecycle worker (seenOf w events) ∧
      (worker.phase = .crashed → worker.status = .loaded) := by
    refine worker_induction (motive := fun _ worker seen =>
      Lifecycle worker seen ∧ (worker.phase = .crashed → worker.status = .loaded))
      (fun _ => ⟨lifecycle_fresh, fun crashed => by cases crashed⟩)
      (fun _ _ _ _ _ kept => kept) ?_ run found
    intro s worker worker' seen more kept change
    refine ⟨kept.1.change change, fun crashed => ?_⟩
    cases change with
    | rest => exact kept.2 crashed
    | accept => exact kept.2 crashed
    | move step =>
      cases step with
      | breakOff _ _ lacks => simp [memory] at lacks
      | finishBroken isDone clock =>
        have status := status_eq_of_done kept.1.fits isDone
        cases holds : worker.held with
        | none => simp [Labor.clockFits, holds] at clock
        | some held => exact status.trans (by rw [holds]; rfl)
      | unload phase => simp [phase] at crashed
      | _ => cases crashed
  exact kept.2 crashed

/-- What a worker that broke off leaves behind. Without memory for a batch it never had a model.
With its clock out of range it had one: it still says so, although the model is gone and nothing was
seen of its release. -/
theorem remains_of_crash {labels : List Label} {events : List Event}
    (run : Run settings (initial settings) labels events s)
    (found : s.workers[w]? = some worker) (crashed : worker.phase = .crashed) :
    worker.held = none ∧
      (Labor.batchFits settings = false ∧ worker.status = .unloaded ∧
          loadsIn (seenOf w events) = 0 ∨
        (∃ time ∈ settings.idleUnload, Labor.clockBound ≤ s.now + time) ∧
          worker.status = .loaded ∧
          loadsIn (seenOf w events) =
            releasesIn .idle (seenOf w events) + releasesIn .aborted (seenOf w events) + 1) := by
  have life := lifecycle_of_run run found
  have fits := life.fits
  rw [Worker.StatusFits, crashed] at fits
  refine ⟨fits.2, ?_⟩
  have balance := life.balance
  rw [life.stop_eq (by simp [crashed])] at balance
  cases memory : Labor.batchFits settings with
  | false =>
    have none := loads_eq_zero_of_run memory run found
    rw [life.loads_eq] at none
    rcases fits.1 with loaded | unloaded
    · rw [if_pos loaded, none] at balance
      omega
    · exact .inl ⟨rfl, unloaded, none⟩
  | true =>
    have loaded := status_of_crash memory run found crashed
    rw [if_pos loaded] at balance
    rcases (balanced_of_run run found).crash_cause crashed with lacks | late
    · simp [memory] at lacks
    · exact .inr ⟨late, loaded, balance⟩

/-- The life of a worker that does not break off. Until it ends, and while the loader does not run,
it says that it holds a model exactly if it does. It says that it loads exactly while the loader
runs, which is asked only when no model is held and only for requests that somebody waited for. It
says that it has ended only after all that it accepted was handled and its model was let go, and
nothing ever happens to it afterwards. A model whose computation broke off is never held again, and
one that only failed is kept. The models that were loaded are those that nobody used, those whose
computation broke off, the one that was let go at the end and the one that is held.

A worker breaks off only for settings beyond what a machine can do. If that is for want of memory it
has never loaded a model. If its clock is out of range it goes on to say that it holds a model, and
that model is missing in the sum. -/
theorem worker_lifecycle {labels : List Label} {events : List Event}
    (run : Run settings (initial settings) labels events s)
    (found : s.workers[w]? = some worker) :
    (worker.isGone = false → (∀ batch, worker.phase ≠ .loading batch) →
        (worker.status = .loaded ↔ worker.held.isSome = true) ∧
        (worker.status = .unloaded ↔ worker.held = none)) ∧
      (worker.status = .loading ↔ ∃ batch, worker.phase = .loading batch) ∧
      (∀ batch, worker.phase = .loading batch → batch ≠ [] ∧ worker.held = none ∧
        ∀ request ∈ batch, LookedAt settings w events request true) ∧
      (worker.status = .stopped → worker.phase = .stopped ∧ worker.held = none ∧
        worker.queue = [] ∧
        (ledgerOf w events).accepted = (ledgerOf w events).rounds.flatMap Round.batch ∧
        ∀ later more t, Run settings s later more t → t.workers[w]? = some worker) ∧
      (worker.phase ≠ .crashed →
        loadsIn (seenOf w events) = releasesIn .idle (seenOf w events) +
          releasesIn .aborted (seenOf w events) + releasesIn .stop (seenOf w events) +
          if worker.held.isSome then 1 else 0) ∧
      (worker.phase = .crashed → worker.held = none ∧
        (Labor.batchFits settings = false ∧ worker.status = .unloaded ∧
            loadsIn (seenOf w events) = 0 ∨
          (∃ time ∈ settings.idleUnload, Labor.clockBound ≤ s.now + time) ∧
            worker.status = .loaded ∧
            loadsIn (seenOf w events) =
              releasesIn .idle (seenOf w events) + releasesIn .aborted (seenOf w events) + 1)) ∧
      releasesIn .stop (seenOf w events) ≤ 1 ∧
      s.counters.loads = UInt64.ofNat (loadsIn events) ∧
      s.counters.idleUnloads = UInt64.ofNat (releasesIn .idle events) ∧
      ∀ label t more worker', step settings s label = some (t, more) →
        t.workers[w]? = some worker' →
        (∀ outcome, .loaded w outcome ∈ more → ∃ batch, worker.phase = .loading batch) ∧
        (∀ batch, worker'.phase = .loading batch → worker.phase = .loading batch ∨
          label = .worker w .proceed ∧ worker.phase = .checking batch []) ∧
        ∀ engine texts passes, .computed w engine texts passes ∈ more →
          ∃ held ∈ worker.held,
            ((engine.compute texts settings.effectiveDim).outcome ≠ .aborted →
              (∃ held' ∈ worker'.held, held'.number = held.number) ∧
                worker'.status = .loaded) ∧
            ((engine.compute texts settings.effectiveDim).outcome = .aborted →
              worker'.held = none ∧ worker'.status = .unloaded ∧
              ∀ later rest u worker'', Run settings t later rest u →
                u.workers[w]? = some worker'' →
                ∀ held'' ∈ worker''.held, held.number < held''.number) := by
  have life := lifecycle_of_run run found
  have balanced := balanced_of_run run found
  obtain ⟨loading, stopped⟩ := life.fits.status_iff
  have counted := modelsCounted_of_run run
  refine ⟨?_, loading, ?_, ?_, ?_, remains_of_crash run found, life.stop_le, counted.loads_eq,
    counted.idle_eq, ?_⟩
  · intro there free
    rw [life.fits.status_eq there free]
    exact statusFor_iff worker.held
  · intro batch phase
    have fits := life.fits
    rw [Worker.StatusFits, phase] at fits
    exact ⟨fits.2.2, fits.2.1, awaited_of_loading run found phase⟩
  · intro told
    have ended := stopped.1 told
    have fits := life.fits
    rw [Worker.StatusFits, ended] at fits
    obtain ⟨queue, accepted⟩ := accepted_of_stopped balanced ended
    refine ⟨ended, fits.2, queue, accepted, ?_⟩
    intro later more t onward
    exact stays_of_isGone onward found (by rw [Worker.isGone, ended])
  · intro whole
    simpa only [life.fits.loaded_iff whole] using life.balance
  · intro label t more worker' next there
    have transition := transition_of_step next
    obtain ⟨asked, begun⟩ := loading_of_transition transition found there
    refine ⟨asked, begun, ?_⟩
    intro engine texts passes member
    obtain ⟨held, holds, number, kept, dropped⟩ :=
      life.held_of_transition transition found there member
    refine ⟨held, holds, kept, fun aborted => ?_⟩
    obtain ⟨none, status⟩ := dropped aborted
    refine ⟨none, status, ?_⟩
    intro later rest u worker'' onward last
    exact number_lt_of_run onward there none (Nat.le_of_eq number) last

/-- A model that finds a token in every text, and whose forward pass ends in one way. -/
def fixedEngine (forward : Attempt (Tensor Float32)) : Engine where
  model := Model.mock
  tokenizer := { encode := fun _ => .ok [1], padId := 0 }
  forward := fun _ => forward

/-- What a worker does for one request for which it has to load its model. -/
def loadAndCompute (forward : Attempt (Tensor Float32)) : List Label :=
  [.worker 0 .take, .worker 0 .closeBatch, .worker 0 .check, .worker 0 .proceed,
    .worker 0 (.finishLoading (.done ())), .worker 0 (.finishComputing (fixedEngine forward)),
    .worker 0 .reply, .worker 0 .finishBatch]

/-- The first computation of a worker breaks off, and the second only fails. -/
def brokenThenFailed : List Label :=
  [.start, .embed 0 ["a", "b"]] ++ handIn 0 ++ loadAndCompute .aborted ++ handIn 0 ++
    loadAndCompute (.failed (.compute "mock" .injected))

/-- A worker that has let go of its first model and holds its second one says so. -/
theorem brokenThenFailed_lifecycle :
    ∃ events s worker, Run (mockSettings 0 7) (initial (mockSettings 0 7)) brokenThenFailed
        events s ∧ s.workers[0]? = some worker ∧ worker.status = .loaded ∧
      releasesIn .aborted (seenOf 0 events) = 1 ∧ loadsIn (seenOf 0 events) = 0 + 1 + 0 + 1 := by
  obtain ⟨events, s, worker, run, found, phase, held, idle, aborted, stop⟩ : ∃ events s worker,
      Run (mockSettings 0 7) (initial (mockSettings 0 7)) brokenThenFailed events s ∧
        s.workers[0]? = some worker ∧ worker.phase = .waiting ∧ worker.held.isSome = true ∧
        releasesIn .idle (seenOf 0 events) = 0 ∧ releasesIn .aborted (seenOf 0 events) = 1 ∧
        releasesIn .stop (seenOf 0 events) = 0 :=
    ⟨_, _, _, run_of_stepAll rfl, rfl, rfl, rfl, rfl, rfl, rfl⟩
  obtain ⟨status, -, -, -, balance, -⟩ := worker_lifecycle run found
  refine ⟨events, s, worker, run, found, ?_, aborted, ?_⟩
  · exact (status (by rw [Worker.isGone, phase]) (by simp [phase])).1.2 held
  · rw [balance (by simp [phase]), idle, aborted, stop, if_pos held]

/-- Settings that keep a model that nobody uses for the largest number of seconds that can be asked
for. -/
def unending : Settings :=
  { mockSettings 0 7 with
    idleUnload := some (18446744073709551615 * 1000)
    idleUnload_pos := by simp }

/-- With the longest time that can be asked for, a worker breaks off behind its first batch. It
still says that it holds a model, which it does not: one was loaded and none was released. -/
theorem modelLost_of_unending :
    ∃ labels events s worker, Run unending (initial unending) labels events s ∧
      s.workers[0]? = some worker ∧ worker.status = .loaded ∧ worker.held = none ∧
      loadsIn (seenOf 0 events) = 1 ∧ ∀ cause, releasesIn cause (seenOf 0 events) = 0 :=
  ⟨[.start, .embed 0 ["a"]] ++ handIn 0 ++ loadAndCompute (.failed (.compute "mock" .injected)),
    _, _, _, run_of_stepAll rfl, rfl, rfl, rfl, rfl, fun cause => by cases cause <;> rfl⟩

end Matryoshka.Service
