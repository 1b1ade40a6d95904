import Mathlib.Tactic.ByContra
import Matryoshka.Mock
import Matryoshka.Service.Limits
import Matryoshka.Proofs.Service.Ledger
import Matryoshka.Proofs.Service.Runs

/-!
# What makes a service break off

Five numbers of the settings go into something that breaks off if they are too large: opening the
service, starting a worker, calling, and two steps of a worker. A service of which all five are
small enough never breaks off while the clock is not beyond a horizon. Each of them that is too
large makes some run break off (`crashes_iff`).
-/

namespace Matryoshka.Service

variable {settings : Settings} {horizon : Time} {s t : State} {labels : List Label}
  {events : List Event}

/-! ## Runs in which nobody outside breaks off -/

/-- A run in which nobody who begins a step breaks off. -/
inductive Course (settings : Settings) : State → List Label → List Event → State → Prop
  /-- Nothing happens. -/
  | none (s : State) : Course settings s [] [] s
  /-- One more step. -/
  | step {s t u : State} {labels : List Label} {events more : List Event} {label : Label}
      (course : Course settings s labels events t) (sound : breaksOff settings t label = false)
      (next : Service.step settings t label = some (u, more)) :
      Course settings s (labels ++ [label]) (events ++ more) u

/-- A run in which nobody breaks off is a run. -/
theorem Course.run (course : Course settings s labels events t) :
    Run settings s labels events t := by
  induction course with
  | none => exact .none _
  | step course sound next ih => exact .step ih next

/-- The clock is not put back. -/
theorem Run.now_le (run : Run settings s labels events t) : s.now ≤ t.now := by
  induction run with
  | none => exact Nat.le_refl _
  | step run next ih => exact Nat.le_trans ih (Service.now_le (transition_of_step next))

/-- Nobody breaks off as long as queues and deadlines fit. -/
theorem breaksOff_eq_false (queue : queueFits settings = true)
    (deadline : horizon + settings.requestTimeout < Labor.clockBound) (early : s.now ≤ horizon)
    (label : Label) : breaksOff settings s label = false := by
  have fits : deadlineFits settings s = true :=
    decide_eq_true (Nat.lt_of_le_of_lt (Nat.add_le_add_right early _) deadline)
  cases label <;> simp [breaksOff, queue, fits]

/-- Every run is one in which nobody breaks off, as long as queues and deadlines fit. -/
theorem Run.course (queue : queueFits settings = true)
    (deadline : horizon + settings.requestTimeout < Labor.clockBound)
    (run : Run settings s labels events t) (early : t.now ≤ horizon) :
    Course settings s labels events t := by
  induction run with
  | none => exact .none _
  | step run next ih =>
    have before := Nat.le_trans (Service.now_le (transition_of_step next)) early
    exact .step (ih before) (breaksOff_eq_false queue deadline before _) next

/-- Something can break off in a service with these settings while the clock is not beyond the
horizon. -/
inductive Crashes (settings : Settings) (horizon : Time) : Prop
  /-- The one who opens the service breaks off. -/
  | opening (closed : open? settings = none)
  /-- One who starts a worker or calls breaks off. -/
  | calling {start s : State} {labels : List Label} {events : List Event} {label : Label}
      (opened : open? settings = some start) (course : Course settings start labels events s)
      (early : s.now ≤ horizon) (breaks : breaksOff settings s label = true)
  /-- A worker breaks off. -/
  | working {start s : State} {labels : List Label} {events : List Event} {w : WorkerId}
      {worker : Worker} (opened : open? settings = some start)
      (course : Course settings start labels events s) (early : s.now ≤ horizon)
      (found : s.workers[w]? = some worker) (crashed : worker.phase = .crashed)

/-- All numbers of the settings are small enough up to a horizon. -/
structure Bounded (settings : Settings) (horizon : Time) : Prop where
  /-- There is room for the cache. -/
  cache : cacheFits settings = true
  /-- There is room for a queue. -/
  queue : queueFits settings = true
  /-- A clock can be set for a deadline. -/
  deadline : horizon + settings.requestTimeout < Labor.clockBound
  /-- There is room for a batch. -/
  batch : Labor.batchFits settings = true
  /-- A clock can be set for the moment at which a model is let go. -/
  idle : ∀ time ∈ settings.idleUnload, horizon + time < Labor.clockBound

/-- A service is opened in its initial state. -/
theorem eq_initial_of_open? (opened : open? settings = some s) :
    cacheFits settings = true ∧ s = initial settings := by
  unfold open? at opened
  split at opened
  · rename_i fits
    cases opened
    exact ⟨fits, rfl⟩
  · cases opened

/-- Where all numbers are small enough nothing breaks off. -/
theorem Bounded.not_crashes (bounded : Bounded settings horizon) : ¬ Crashes settings horizon := by
  intro crashes
  cases crashes with
  | opening closed =>
    rw [open?, if_pos bounded.cache] at closed
    cases closed
  | calling opened course early breaks =>
    rw [breaksOff_eq_false bounded.queue bounded.deadline early] at breaks
    cases breaks
  | working opened course early found crashed =>
    obtain ⟨-, rfl⟩ := eq_initial_of_open? opened
    rcases (balanced_of_run course.run found).crash_cause crashed with batch | ⟨time, asked, late⟩
    · rw [bounded.batch] at batch
      cases batch
    · exact absurd late (Nat.not_le.2
        (Nat.lt_of_le_of_lt (Nat.add_le_add_right early time) (bounded.idle time asked)))

/-! ## A visit

One caller comes and hands in the empty text, which the mock model computes without tokens. -/

namespace Visit

/-- A service to which nothing has happened up to a moment. -/
def untouched (settings : Settings) (horizon : Time) : State :=
  { initial settings with now := horizon }

/-- Time passes in a service to which nothing happens. -/
theorem step_pass (settings : Settings) (horizon : Time) :
    step settings (initial settings) (.pass horizon) = some (untouched settings horizon, []) := by
  have passed : step settings (initial settings) (.pass horizon) =
      some (untouched settings (0 + horizon), []) := rfl
  rw [passed, Nat.zero_add]

/-- A service with one worker and one call, whose one request has the empty text. -/
def requested (settings : Settings) (horizon : Time) (worker : Worker) (stage : Stage)
    (slots : List Slot) : State where
  now := horizon
  workers := [worker]
  handle := some 0
  calls := [{
    id := 0
    cached := true
    deadline := horizon + settings.requestTimeout
    texts := []
    stage := stage
    slots := slots }]
  nextTicket := 1
  cache := { Cache.empty settings.cacheCapacity with misses := 1 }
  counters := Counters.raiseQueue {}

/-- The service whose request waits in the queue. -/
def queued (settings : Settings) (horizon : Time) : State :=
  requested settings horizon { queue := [⟨0, ""⟩] } .handing [.open "" 0]

/-- A request gets into the queue of every service. -/
theorem exists_run_queued (settings : Settings) (horizon : Time) :
    ∃ labels events, Run settings (initial settings) labels events (queued settings horizon) := by
  have handed : Run settings (untouched settings horizon)
      [.start, .embed 0 [""], .caller 0 .lookUp, .caller 0 .submit] [.lookedUp 0 "" false]
      (requested settings horizon {} (.sending 0 ⟨0, ""⟩) []) := run_of_stepAll rfl
  have accepted : step settings (requested settings horizon {} (.sending 0 ⟨0, ""⟩) [])
      (.caller 0 .send) = some (queued settings horizon, [.accepted 0 ⟨0, ""⟩]) := by
    change (if 0 < settings.queueCapacity then some _ else none) = some _
    rw [if_pos settings.queueCapacity_pos]
    rfl
  exact ⟨_, _, ((Run.single (step_pass settings horizon)).trans handed).trans (.single accepted)⟩

/-- Without room for a batch the worker breaks off when it takes a request. -/
theorem exists_run_of_not_batchFits (none : Labor.batchFits settings = false) (horizon : Time) :
    ∃ labels events s worker, Run settings (initial settings) labels events s ∧
      s.now = horizon ∧ s.workers[0]? = some worker ∧ worker.phase = .crashed := by
  obtain ⟨labels, events, run⟩ := exists_run_queued settings horizon
  have taken : ∃ t more, step settings (queued settings horizon) (.worker 0 .take) =
      some (t, more) ∧ t.now = horizon ∧
      ∃ worker, t.workers[0]? = some worker ∧ worker.phase = .crashed := by
    change ∃ t more, (if Labor.batchFits settings = true then some _ else some _) =
      some (t, more) ∧ _
    rw [none, if_neg Bool.false_ne_true]
    exact ⟨_, _, rfl, rfl, _, rfl, rfl⟩
  obtain ⟨t, more, next, now, worker, found, crashed⟩ := taken
  exact ⟨_, _, t, worker, run.trans (.single next), now, found, crashed⟩

/-- The service whose request is in the hands of the worker. -/
def taken (settings : Settings) (horizon : Time) (phase : Phase) : State :=
  ((queued settings horizon).count .lowerQueue).setWorker 0 { phase := phase }

/-- A worker that has just loaded its model. -/
def holding (horizon : Time) (phase : Phase) : Worker where
  phase := phase
  held := some ⟨1, horizon⟩
  loads := 1
  status := .loaded

/-- The service whose worker has loaded its model. -/
def loaded (settings : Settings) (horizon : Time) (phase : Phase) : State :=
  (((queued settings horizon).count .lowerQueue).count (.addBatch ∘ .addLoad)).setWorker 0
    (holding horizon phase)

/-- The service whose worker has replied to its request. -/
def replied (settings : Settings) (horizon : Time) : State :=
  { (loaded settings horizon (.replying [] false 1)).count (·.addFailed 1) with
    letters := [(0, .reply (.error .emptyInput))] }

/-- With room for a batch the worker loads its model and begins to compute. -/
theorem exists_run_computing (fits : Labor.batchFits settings = true) (horizon : Time) :
    ∃ labels events, Run settings (initial settings) labels events
      (loaded settings horizon (.computing [⟨0, ""⟩])) := by
  obtain ⟨labels, events, run⟩ := exists_run_queued settings horizon
  have took : step settings (queued settings horizon) (.worker 0 .take) =
      some (taken settings horizon (.gathering [⟨0, ""⟩]), [.taken 0 ⟨0, ""⟩]) := by
    change (if Labor.batchFits settings = true then some _ else some _) = some _
    rw [if_pos fits]
    rfl
  have closed : step settings (taken settings horizon (.gathering [⟨0, ""⟩]))
      (.worker 0 .closeBatch) =
      some (taken settings horizon (.checking [] [⟨0, ""⟩]), [.gathered 0 [⟨0, ""⟩]]) := by
    change (if (decide (settings.batchSize ≤ 1) || true) = true then some _ else none) = some _
    rw [if_pos (Bool.or_true _)]
    rfl
  have begun : Run settings (taken settings horizon (.checking [] [⟨0, ""⟩]))
      [.worker 0 .check, .worker 0 .proceed, .worker 0 (.finishLoading (.done ()))] _
      (loaded settings horizon (.computing [⟨0, ""⟩])) := run_of_stepAll rfl
  exact ⟨_, _, ((run.trans (.single took)).trans (.single closed)).trans begun⟩

/-- The empty text has no tokens for the mock model. -/
theorem compute_empty (settings : Settings) :
    (Mock.engine {} settings.model).compute [""] settings.effectiveDim =
      ⟨[""], [], .done [.error .emptyInput]⟩ := by
  change (if settings.model.accepts settings.effectiveDim = true then _ else _) = _
  rw [if_pos settings.accepts_effectiveDim]
  rfl

/-- When a clock cannot be set for the moment at which a model is let go, the worker breaks off
after its first batch. -/
theorem exists_run_of_idleUnload {time : Nat} (fits : Labor.batchFits settings = true)
    (asked : settings.idleUnload = some time) (late : Labor.clockBound ≤ horizon + time) :
    ∃ labels events s worker, Run settings (initial settings) labels events s ∧
      s.now = horizon ∧ s.workers[0]? = some worker ∧ worker.phase = .crashed := by
  obtain ⟨labels, events, run⟩ := exists_run_computing fits horizon
  have computed : ∃ more, step settings (loaded settings horizon (.computing [⟨0, ""⟩]))
      (.worker 0 (.finishComputing (Mock.engine {} settings.model))) =
      some (loaded settings horizon (.replying [(⟨0, ""⟩, .error .emptyInput)] false 1), more) := by
    change ∃ more, Labor.finishComputing settings (loaded settings horizon (.computing [⟨0, ""⟩]))
      0 (holding horizon (.computing [⟨0, ""⟩])) (Mock.engine {} settings.model) = some (_, more)
    simp only [Labor.finishComputing, holding, List.map_cons, List.map_nil, compute_empty]
    exact ⟨_, rfl⟩
  have told : Run settings
      (loaded settings horizon (.replying [(⟨0, ""⟩, .error .emptyInput)] false 1))
      [.worker 0 .reply] [.replied 0 ⟨0, ""⟩ (.error .emptyInput)] (replied settings horizon) :=
    run_of_stepAll rfl
  have unset (worker : Worker) (held : worker.held = some ⟨1, horizon⟩) :
      Labor.clockFits settings worker = false := by
    simp only [Labor.clockFits, held, asked, decide_eq_false_iff_not]
    exact Nat.not_lt.2 late
  have finished : ∃ t more, step settings (replied settings horizon) (.worker 0 .finishBatch) =
      some (t, more) ∧ t.now = horizon ∧
      ∃ worker, t.workers[0]? = some worker ∧ worker.phase = .crashed := by
    change ∃ t more, some (Labor.finish settings (replied settings horizon) 0
      (holding horizon (.replying [] false 1)) 1) = some (t, more) ∧ _
    rw [Labor.finish, unset _ rfl, if_neg Bool.false_ne_true]
    exact ⟨_, _, rfl, rfl, _, rfl, rfl⟩
  obtain ⟨more, computed⟩ := computed
  obtain ⟨t, last, next, now, worker, found, crashed⟩ := finished
  exact ⟨_, _, t, worker, ((run.trans (.single computed)).trans told).trans (.single next), now,
    found, crashed⟩

end Visit

/-! ## The limits -/

/-- With room for the cache a service is opened in its initial state. -/
theorem open?_of_cacheFits (cache : cacheFits settings = true) :
    open? settings = some (initial settings) := by
  rw [open?, if_pos cache]

/-- Without room for the cache no service can be opened. -/
theorem crashes_of_not_cacheFits (cache : cacheFits settings = false) :
    Crashes settings horizon := by
  refine .opening ?_
  rw [open?, cache, if_neg Bool.false_ne_true]

/-- Without room for a queue no worker can be started. -/
theorem crashes_of_not_queueFits (cache : cacheFits settings = true)
    (queue : queueFits settings = false) : Crashes settings horizon := by
  have breaks : breaksOff settings (initial settings) .start = true := by
    simp [breaksOff, queue, initial]
  exact .calling (open?_of_cacheFits cache) (.none _) (Nat.zero_le _) breaks

/-- With a deadline that no clock can be set for nobody can call. -/
theorem crashes_of_deadline (cache : cacheFits settings = true)
    (late : Labor.clockBound ≤ horizon + settings.requestTimeout) : Crashes settings horizon := by
  have course : Course settings (initial settings) [.pass horizon] []
      (Visit.untouched settings horizon) := .step (.none _) rfl (Visit.step_pass settings horizon)
  have unset : deadlineFits settings (Visit.untouched settings horizon) = false :=
    decide_eq_false (Nat.not_lt.2 late)
  have breaks : breaksOff settings (Visit.untouched settings horizon) (.embed 0 [""]) = true := by
    rw [breaksOff, unset, Bool.not_false]
  exact .calling (open?_of_cacheFits cache) course (Nat.le_refl _) breaks

/-- Where some number is too large something breaks off. -/
theorem crashes_of_not_bounded (unbounded : ¬ Bounded settings horizon) :
    Crashes settings horizon := by
  by_cases cache : cacheFits settings = true
  · by_cases queue : queueFits settings = true
    · by_cases deadline : horizon + settings.requestTimeout < Labor.clockBound
      · -- what is left breaks a worker off, in a run in which nobody else does
        have working {labels : List Label} {events : List Event} {s : State} {worker : Worker}
            (run : Run settings (initial settings) labels events s) (now : s.now = horizon)
            (found : s.workers[0]? = some worker) (crashed : worker.phase = .crashed) :
            Crashes settings horizon :=
          .working (open?_of_cacheFits cache) (run.course queue deadline (Nat.le_of_eq now))
            (Nat.le_of_eq now) found crashed
        by_cases batch : Labor.batchFits settings = true
        · have idle : ∃ time ∈ settings.idleUnload, Labor.clockBound ≤ horizon + time := by
            by_contra none
            refine unbounded ⟨cache, queue, deadline, batch, fun time asked => ?_⟩
            exact Nat.lt_of_not_le fun late => none ⟨time, asked, late⟩
          obtain ⟨time, asked, late⟩ := idle
          obtain ⟨_, _, _, _, run, now, found, crashed⟩ :=
            Visit.exists_run_of_idleUnload batch asked late
          exact working run now found crashed
        · obtain ⟨_, _, _, _, run, now, found, crashed⟩ :=
            Visit.exists_run_of_not_batchFits (Bool.eq_false_iff.2 batch) horizon
          exact working run now found crashed
      · exact crashes_of_deadline cache (Nat.not_lt.1 deadline)
    · exact crashes_of_not_queueFits cache (Bool.eq_false_iff.2 queue)
  · exact crashes_of_not_cacheFits (Bool.eq_false_iff.2 cache)

/-- Something can break off up to a horizon exactly if some number is too large for it. -/
theorem crashes_iff : Crashes settings horizon ↔ ¬ Bounded settings horizon :=
  ⟨fun crashes bounded => bounded.not_crashes crashes, crashes_of_not_bounded⟩

end Matryoshka.Service
