import Matryoshka.Proofs.Engine.Rows
import Matryoshka.Proofs.Service.WorkerHistory

/-!
# The ledger of a worker

From what is seen of a worker its ledger is made up: the requests that entered its queue,
and the rounds in which it took a batch of them, looked which of them somebody waits for,
and replied. A worker and its ledger balance (`Balanced`): every request that was accepted
is in a round, in the queue, or lost when the worker broke off, in the order in which it
was accepted, and every finished round replied to each request that somebody waited for.
Every change of a worker keeps the balance (`Balanced.change`), so it holds in every run
(`balanced_of_run`).
-/

namespace Matryoshka.Service

/-- What a worker did for one batch. -/
structure Round where
  /-- The requests taken. -/
  batch : List Request := []
  /-- The requests looked at, and whether somebody waited for them. -/
  verdicts : List (Request × Bool) := []
  /-- What the loader came back with, if it was asked. -/
  loaded : Option (Attempt Unit) := none
  /-- The engine that computed, if any, and the texts that it got. -/
  computed : Option (Engine × List String) := none
  /-- The replies. -/
  replies : List (Request × ItemOutcome) := []

/-- What a worker did. -/
structure Ledger where
  /-- The requests that entered its queue. -/
  accepted : List Request := []
  /-- The finished rounds. -/
  rounds : List Round := []
  /-- The round that is not finished. -/
  current : Round := {}
  /-- The requests lost when the worker broke off. -/
  lost : List Request := []

namespace Ledger

/-- Enter an event into the ledger. -/
def enter (ledger : Ledger) : Event → Ledger
  | .accepted _ request => { ledger with accepted := ledger.accepted ++ [request] }
  | .taken _ request =>
    { ledger with current := { ledger.current with batch := ledger.current.batch ++ [request] } }
  | .checked _ request awaited =>
    { ledger with
      current := { ledger.current with
        verdicts := ledger.current.verdicts ++ [(request, awaited)] } }
  | .loaded _ outcome =>
    { ledger with current := { ledger.current with loaded := some outcome } }
  | .computed _ engine texts _ =>
    { ledger with current := { ledger.current with computed := some (engine, texts) } }
  | .replied _ request outcome =>
    { ledger with
      current := { ledger.current with
        replies := ledger.current.replies ++ [(request, outcome)] } }
  | .finished _ _ => { ledger with rounds := ledger.rounds ++ [ledger.current], current := {} }
  | .crashed _ lost =>
    { ledger with current := { ledger.current with batch := [] }, lost := lost }
  | _ => ledger

/-- Enter some events. -/
def enterAll (ledger : Ledger) (events : List Event) : Ledger := events.foldl enter ledger

/-- The requests that have left the queue, batch by batch. -/
def taken (ledger : Ledger) : List Request :=
  ledger.rounds.flatMap Round.batch ++ ledger.current.batch

/-- The replies, in order. -/
def replies (ledger : Ledger) : List (Request × ItemOutcome) :=
  ledger.rounds.flatMap Round.replies ++ ledger.current.replies

end Ledger

/-- The ledger of a worker after some events. -/
def ledgerOf (w : WorkerId) (events : List Event) : Ledger :=
  Ledger.enterAll {} (seenOf w events)

/-! ## Rounds -/

/-- The requests of a round that somebody waited for. -/
def Round.live (round : Round) : List Request :=
  (round.verdicts.filter Prod.snd).map Prod.fst

/-- Why all requests of a batch get the same failure: `loaded` is what the loader came back
with, and `computed` is what the engine got. -/
inductive BatchFails (settings : Settings) (loaded : Option (Attempt Unit))
    (computed : Option (Engine × List String)) : Failure → Prop
  /-- There is no model. -/
  | load {outcome : Attempt Unit} {failure : Failure} (asked : loaded = some outcome)
      (fails : LoadFails settings outcome failure) : BatchFails settings loaded computed failure
  /-- The engine refuses the whole batch. -/
  | compute {engine : Engine} {texts : List String} {failure : Failure}
      (ran : computed = some (engine, texts))
      (outcome : (engine.compute texts settings.effectiveDim).outcome = .failed failure) :
      BatchFails settings loaded computed failure
  /-- The engine broke off. -/
  | abort {engine : Engine} {texts : List String} (ran : computed = some (engine, texts))
      (outcome : (engine.compute texts settings.effectiveDim).outcome = .aborted) :
      BatchFails settings loaded computed (.compute settings.model.name .engineAborted)

/-- The replies to the requests of a batch that somebody waits for. -/
inductive Replies (settings : Settings) (live : List Request) (loaded : Option (Attempt Unit))
    (computed : Option (Engine × List String)) : List (Request × ItemOutcome) → Prop
  /-- Nobody waits. -/
  | nobody (none : live = []) : Replies settings live loaded computed []
  /-- They share a failure. -/
  | shared {failure : Failure} (fails : BatchFails settings loaded computed failure) :
      Replies settings live loaded computed (Labor.failAll live failure)
  /-- Each has its own outcome. -/
  | own {engine : Engine} {outcomes : List ItemOutcome}
      (ran : computed = some (engine, live.map Request.text))
      (outcome : (engine.compute (live.map Request.text) settings.effectiveDim).outcome =
        .done outcomes) :
      Replies settings live loaded computed (live.zip outcomes)

/-- A round whose requests have all been looked at. -/
structure Round.Checked (settings : Settings) (round : Round) : Prop where
  /-- There is a request. -/
  batch_ne_nil : round.batch ≠ []
  /-- There are not too many. -/
  length_batch_le : round.batch.length ≤ settings.batchSize
  /-- They were looked at in order. -/
  verdicts_eq : round.verdicts.map Prod.fst = round.batch

/-- A round that may be finished. -/
structure Round.Complete (settings : Settings) (round : Round) : Prop
    extends round.Checked settings where
  /-- The replies are those to the requests that somebody waited for. -/
  replies_eq : Replies settings round.live round.loaded round.computed round.replies

/-- Whether a worker has a batch in its hands. -/
def Phase.isBusy : Phase → Bool
  | .waiting | .stopped | .crashed => false
  | _ => true

/-- A worker with a batch in its hands is there. -/
theorem Worker.isGone_of_isBusy {worker : Worker} (busy : worker.phase.isBusy = true) :
    worker.isGone = false := by
  unfold Worker.isGone
  cases phase : worker.phase <;> simp_all [Phase.isBusy]

/-- How far a round is when its worker is in a phase. -/
def Round.At (settings : Settings) (round : Round) : Phase → Prop
  | .waiting | .stopped | .crashed => round = {}
  | .gathering batch =>
    round = { batch := batch } ∧ batch ≠ [] ∧ batch.length ≤ settings.batchSize
  | .checking live rest =>
    (round.batch ≠ [] ∧ round.batch.length ≤ settings.batchSize ∧
      round.verdicts.map Prod.fst ++ rest = round.batch) ∧ round.replies = [] ∧
      live = round.live
  | .loading batch =>
    round.Checked settings ∧ round.replies = [] ∧ batch = round.live
  | .computing batch =>
    round.Checked settings ∧ round.replies = [] ∧ batch = round.live
  | .replying pending _ size =>
    round.Checked settings ∧ size = round.live.length ∧
      Replies settings round.live round.loaded round.computed (round.replies ++ pending)

/-- A worker and its ledger agree. -/
structure Balanced (settings : Settings) (now : Time) (worker : Worker) (ledger : Ledger) :
    Prop where
  /-- Every request that was accepted is in a round, in the queue or lost. -/
  accepted_eq : ledger.accepted = ledger.taken ++ worker.queue ++ ledger.lost
  /-- Every finished round is complete. -/
  complete : ∀ round ∈ ledger.rounds, round.Complete settings
  /-- The round that is not finished is as far as the worker is. -/
  current_at : ledger.current.At settings worker.phase
  /-- The worker has counted the replies of the finished rounds. -/
  answered_eq : worker.answered = (ledger.rounds.flatMap Round.replies).length
  /-- Nothing is lost unless the worker broke off. -/
  lost_eq : worker.phase ≠ .crashed → ledger.lost = []
  /-- Nothing is left in the queue when nobody reads it any more. -/
  queue_eq : worker.isGone = true → worker.queue = []
  /-- A model was not used in the future. -/
  lastUse_le : ∀ held ∈ worker.held, held.lastUse ≤ now
  /-- A worker breaks off only without memory for a batch or with a clock out of range. -/
  crash_cause : worker.phase = .crashed → Labor.batchFits settings = false ∨
    ∃ time ∈ settings.idleUnload, Labor.clockBound ≤ now + time
  /-- Without memory for a batch no batch is ever taken. -/
  idle_of_batchFits : Labor.batchFits settings = false →
    ledger.rounds = [] ∧ (worker.phase = .waiting ∨ worker.isGone = true)

/-! ## Every change keeps the balance -/

variable {settings : Settings} {now : Time} {worker worker' : Worker} {ledger : Ledger}

/-- There is one reply to each request that somebody waits for, in order. -/
theorem Replies.map_fst {live : List Request} {loaded : Option (Attempt Unit)}
    {computed : Option (Engine × List String)} {replies : List (Request × ItemOutcome)}
    (grounds : Replies settings live loaded computed replies) : replies.map Prod.fst = live := by
  cases grounds with
  | nobody none => rw [none, List.map_nil]
  | shared fails => simp [Labor.failAll, Function.comp_def]
  | own ran outcome =>
    have same := (Engine.answers_of_compute outcome).1
    rw [List.length_map] at same
    exact List.map_fst_zip (Nat.le_of_eq same.symm)

/-- As many replies as requests that somebody waits for. -/
theorem Replies.length_eq {live : List Request} {loaded : Option (Attempt Unit)}
    {computed : Option (Engine × List String)} {replies : List (Request × ItemOutcome)}
    (grounds : Replies settings live loaded computed replies) :
    replies.length = live.length := by
  rw [← grounds.map_fst, List.length_map]

/-- A fresh worker balances with an empty ledger. -/
theorem balanced_fresh (settings : Settings) (now : Time) : Balanced settings now {} {} where
  accepted_eq := rfl
  complete := by simp
  current_at := rfl
  answered_eq := rfl
  lost_eq _ := rfl
  queue_eq _ := rfl
  lastUse_le := by simp
  crash_cause := fun crashed => by cases crashed
  idle_of_batchFits _ := ⟨rfl, .inl rfl⟩

/-- The balance does not depend on the time. -/
theorem Balanced.later {after : Time} (balanced : Balanced settings now worker ledger)
    (le : now ≤ after) : Balanced settings after worker ledger where
  accepted_eq := balanced.accepted_eq
  complete := balanced.complete
  current_at := balanced.current_at
  answered_eq := balanced.answered_eq
  lost_eq := balanced.lost_eq
  queue_eq := balanced.queue_eq
  lastUse_le held member := Nat.le_trans (balanced.lastUse_le held member) le
  crash_cause crashed := by
    rcases balanced.crash_cause crashed with memory | ⟨time, asked, bound⟩
    · exact .inl memory
    · exact .inr ⟨time, asked, Nat.le_trans bound (Nat.add_le_add_right le time)⟩
  idle_of_batchFits := balanced.idle_of_batchFits

/-- A step within a round keeps the balance if the round is as far as the worker after it. -/
theorem Balanced.goOn {round : Round} (balanced : Balanced settings now worker ledger)
    (busy : worker.phase.isBusy = true) (busy' : worker'.phase.isBusy = true)
    (batch : round.batch = ledger.current.batch) (queue : worker'.queue = worker.queue)
    (answered : worker'.answered = worker.answered)
    (lastUse : ∀ held ∈ worker'.held, held.lastUse ≤ now)
    (current_at : round.At settings worker'.phase) :
    Balanced settings now worker' { ledger with current := round } where
  accepted_eq := by
    rw [Ledger.taken, batch, queue]
    exact balanced.accepted_eq
  complete := balanced.complete
  current_at := current_at
  answered_eq := answered.trans balanced.answered_eq
  lost_eq _ := balanced.lost_eq fun crashed => by
    rw [crashed] at busy
    cases busy
  queue_eq gone := by
    rw [Worker.isGone_of_isBusy busy'] at gone
    cases gone
  lastUse_le := lastUse
  crash_cause crashed := by
    rw [crashed] at busy'
    cases busy'
  idle_of_batchFits memory := by
    rcases (balanced.idle_of_batchFits memory).2 with waiting | gone
    · rw [waiting] at busy
      cases busy
    · rw [Worker.isGone_of_isBusy busy] at gone
      cases gone

/-- Letting go of the model between two rounds, perhaps for ever, keeps the balance. -/
theorem Balanced.letGo (balanced : Balanced settings now worker ledger)
    (waiting : worker.phase = .waiting) (idle : worker.queue = [])
    (phase : worker'.phase = .waiting ∨ worker'.phase = .stopped)
    (queue : worker'.queue = worker.queue) (answered : worker'.answered = worker.answered)
    (held : worker'.held = none) : Balanced settings now worker' ledger where
  accepted_eq := by
    rw [queue]
    exact balanced.accepted_eq
  complete := balanced.complete
  current_at := by
    have current_at := balanced.current_at
    rw [waiting] at current_at
    rcases phase with phase | phase <;> rw [phase] <;> exact current_at
  answered_eq := answered.trans balanced.answered_eq
  lost_eq _ := balanced.lost_eq (by simp [waiting])
  queue_eq _ := queue.trans idle
  lastUse_le := by simp [held]
  crash_cause crashed := by
    rcases phase with phase | phase <;> rw [phase] at crashed <;> cases crashed
  idle_of_batchFits memory := by
    refine ⟨(balanced.idle_of_batchFits memory).1, ?_⟩
    rcases phase with phase | phase
    · exact .inl phase
    · exact .inr (by rw [Worker.isGone, phase])

/-- Accepting a request keeps the balance. -/
theorem Balanced.accept {request : Request} (balanced : Balanced settings now worker ledger)
    (there : worker.isGone = false) :
    Balanced settings now { worker with queue := worker.queue ++ [request] }
      { ledger with accepted := ledger.accepted ++ [request] } where
  accepted_eq := by
    have whole : worker.phase ≠ .crashed := fun crashed => by
      rw [Worker.isGone, crashed] at there
      cases there
    have accepted := balanced.accepted_eq
    rw [balanced.lost_eq whole, List.append_nil] at accepted
    simp only [Ledger.taken] at accepted ⊢
    rw [accepted, balanced.lost_eq whole]
    simp only [List.append_assoc, List.append_nil]
  complete := balanced.complete
  current_at := balanced.current_at
  answered_eq := balanced.answered_eq
  lost_eq := balanced.lost_eq
  queue_eq gone := by
    rw [show worker.isGone = true from gone] at there
    cases there
  lastUse_le := balanced.lastUse_le
  crash_cause := balanced.crash_cause
  idle_of_batchFits := balanced.idle_of_batchFits

/-- Taking a request, the first one or one more, keeps the balance. -/
theorem Balanced.take {request : Request} {queue : List Request}
    (balanced : Balanced settings now worker ledger)
    (waits : worker.queue = request :: queue) (fits : Labor.batchFits settings = true)
    (there : worker.isGone = false) {batch : List Request}
    (current : ledger.current = { batch := batch })
    (room : batch.length < settings.batchSize) :
    Balanced settings now
      { worker with queue := queue, phase := .gathering (batch ++ [request]) }
      { ledger with current := { batch := batch ++ [request] } } where
  accepted_eq := by
    have accepted := balanced.accepted_eq
    rw [waits] at accepted
    simpa [Ledger.taken, current] using accepted
  complete := balanced.complete
  current_at := ⟨rfl, by simp, by simpa using Nat.succ_le_of_lt room⟩
  answered_eq := balanced.answered_eq
  lost_eq _ := balanced.lost_eq fun crashed => by
    rw [Worker.isGone, crashed] at there
    cases there
  queue_eq := fun gone => by cases gone
  lastUse_le := balanced.lastUse_le
  crash_cause := fun crashed => by cases crashed
  idle_of_batchFits memory := by
    rw [fits] at memory
    cases memory

/-- Being done with a batch completes the current round. -/
theorem complete_of_done {move : WorkerMove} {size : Nat} {round : Round}
    (isDone : Done worker move size) (current_at : round.At settings worker.phase) :
    round.Complete settings ∧ size = round.replies.length := by
  cases isDone with
  | passedOver phase =>
    rw [phase] at current_at
    obtain ⟨⟨nonempty, room, looked⟩, none, nobody⟩ := current_at
    rw [List.append_nil] at looked
    refine ⟨⟨⟨nonempty, room, looked⟩, ?_⟩, by rw [none, List.length_nil]⟩
    rw [none]
    exact .nobody nobody.symm
  | replied phase =>
    rw [phase] at current_at
    obtain ⟨checked, size_eq, replies⟩ := current_at
    rw [List.append_nil] at replies
    exact ⟨⟨checked, replies⟩, size_eq.trans replies.length_eq.symm⟩

/-- Finishing a round keeps the balance. -/
theorem Balanced.finish {move : WorkerMove} {size : Nat}
    (balanced : Balanced settings now worker ledger) (isDone : Done worker move size) :
    Balanced settings now { worker with phase := .waiting, answered := worker.answered + size }
      { ledger with rounds := ledger.rounds ++ [ledger.current], current := {} } := by
  obtain ⟨complete, size_eq⟩ := complete_of_done isDone balanced.current_at
  have busy : worker.phase ≠ .waiting ∧ worker.isGone = false := by
    cases isDone with
    | passedOver phase => simp [Worker.isGone, phase]
    | replied phase => simp [Worker.isGone, phase]
  exact {
    accepted_eq := by
      have accepted := balanced.accepted_eq
      simpa [Ledger.taken] using accepted
    complete := by
      intro round member
      rcases List.mem_append.1 member with before | last
      · exact balanced.complete round before
      · obtain rfl := List.mem_singleton.1 last
        exact complete
    current_at := rfl
    answered_eq := by simp [balanced.answered_eq, size_eq]
    lost_eq := fun _ => balanced.lost_eq fun crashed => by
      simp [Worker.isGone, crashed] at busy
    queue_eq := fun gone => by cases gone
    lastUse_le := balanced.lastUse_le
    crash_cause := fun crashed => by cases crashed
    idle_of_batchFits := fun memory => by
      obtain ⟨-, waiting | gone⟩ := balanced.idle_of_batchFits memory
      · exact absurd waiting busy.1
      · rw [busy.2] at gone
        cases gone }

/-- Breaking off loses what is in the queue, and keeps the balance. -/
theorem Balanced.breakOff (balanced : Balanced settings now worker ledger)
    (waiting : worker.phase = .waiting)
    (cause : Labor.batchFits settings = false ∨
      ∃ time ∈ settings.idleUnload, Labor.clockBound ≤ now + time) :
    Balanced settings now worker.broken { ledger with current := {}, lost := worker.queue } where
  accepted_eq := by
    have accepted := balanced.accepted_eq
    have current := balanced.current_at
    rw [waiting] at current
    rw [balanced.lost_eq (by simp [waiting]), List.append_nil] at accepted
    simpa [Ledger.taken, Worker.broken, show ledger.current = {} from current] using accepted
  complete := balanced.complete
  current_at := rfl
  answered_eq := balanced.answered_eq
  lost_eq whole := absurd rfl whole
  queue_eq _ := rfl
  lastUse_le := by simp [Worker.broken]
  crash_cause _ := cause
  idle_of_batchFits memory := ⟨(balanced.idle_of_batchFits memory).1, .inr rfl⟩

/-- If the clock cannot be set, the moment asked for is out of its range. -/
theorem clockBound_le (lastUse : ∀ held ∈ worker.held, held.lastUse ≤ now)
    (fits : Labor.clockFits settings worker = false) :
    ∃ time ∈ settings.idleUnload, Labor.clockBound ≤ now + time := by
  unfold Labor.clockFits at fits
  split at fits
  · rename_i held time holds asked
    have used := lastUse held holds
    simp only [decide_eq_false_iff_not, Nat.not_lt] at fits
    exact ⟨time, asked, Nat.le_trans fits (Nat.add_le_add_right used time)⟩
  · cases fits

/-- Every step of a worker keeps the balance. -/
theorem Balanced.step {s : State} {w : WorkerId} {move : WorkerMove} {counters : Counters}
    {written : List (Ticket × Letter)} {events : List Event}
    (balanced : Balanced settings s.now worker ledger)
    (step : WorkerStep settings s w worker move worker' counters written events) :
    Balanced settings s.now worker' (ledger.enterAll events) := by
  have current_at := balanced.current_at
  have lastUse_le := balanced.lastUse_le
  cases step with
  | @take request queue phase waits fits =>
    rw [phase] at current_at
    have current : ledger.current = {} := current_at
    have taken := balanced.take waits fits (by simp [Worker.isGone, phase]) current
      settings.batchSize_pos
    simpa [Ledger.enterAll, Ledger.enter, current] using taken
  | breakOff phase waits fits =>
    rw [phase] at current_at
    have current : ledger.current = {} := current_at
    have broken := balanced.breakOff phase (.inl fits)
    simpa [Ledger.enterAll, Ledger.enter, current, waits] using broken
  | takeMore phase waits room =>
    rw [phase] at current_at
    obtain ⟨current, -, -⟩ := current_at
    have fits : Labor.batchFits settings = true := by
      cases memory : Labor.batchFits settings with
      | true => rfl
      | false =>
        have idle := (balanced.idle_of_batchFits memory).2
        simp [Worker.isGone, phase] at idle
    have taken := balanced.take waits fits (by simp [Worker.isGone, phase]) current room
    simpa [Ledger.enterAll, Ledger.enter, current] using taken
  | @closeBatch batch phase full =>
    rw [phase] at current_at
    obtain ⟨current, nonempty, room⟩ := current_at
    refine balanced.goOn (by rw [phase]; rfl) rfl rfl rfl rfl lastUse_le ?_
    rw [current]
    exact ⟨⟨nonempty, room, rfl⟩, rfl, rfl⟩
  | @check live rest request phase =>
    rw [phase] at current_at
    obtain ⟨⟨nonempty, room, looked⟩, none, live_eq⟩ := current_at
    refine balanced.goOn (by rw [phase]; rfl) rfl rfl rfl rfl lastUse_le ?_
    refine ⟨⟨nonempty, room, by simpa using looked⟩, none, ?_⟩
    cases awaited : s.isOpen request.ticket <;> simp [Round.live, live_eq]
  | compute phase somebody holds =>
    rw [phase] at current_at
    obtain ⟨⟨nonempty, room, looked⟩, none, live_eq⟩ := current_at
    rw [List.append_nil] at looked
    exact balanced.goOn (by rw [phase]; rfl) rfl rfl rfl rfl lastUse_le
      ⟨⟨nonempty, room, looked⟩, none, live_eq⟩
  | load phase somebody holds =>
    rw [phase] at current_at
    obtain ⟨⟨nonempty, room, looked⟩, none, live_eq⟩ := current_at
    rw [List.append_nil] at looked
    exact balanced.goOn (by rw [phase]; rfl) rfl rfl rfl rfl lastUse_le
      ⟨⟨nonempty, room, looked⟩, none, live_eq⟩
  | loaded phase =>
    rw [phase] at current_at
    obtain ⟨checked, none, live_eq⟩ := current_at
    refine balanced.goOn (by rw [phase]; rfl) rfl rfl rfl rfl (by simp) ?_
    exact ⟨⟨checked.1, checked.2, checked.3⟩, none, live_eq⟩
  | loadFails phase fails =>
    rw [phase] at current_at
    obtain ⟨checked, none, rfl⟩ := current_at
    refine balanced.goOn (by rw [phase]; rfl) rfl rfl rfl rfl lastUse_le ?_
    refine ⟨⟨checked.1, checked.2, checked.3⟩, rfl, ?_⟩
    rw [none]
    exact .shared (.load rfl fails)
  | compute_done phase holds outcome =>
    rw [phase] at current_at
    obtain ⟨checked, none, rfl⟩ := current_at
    refine balanced.goOn (by rw [phase]; rfl) rfl rfl rfl rfl (by simp [Worker.computed]) ?_
    refine ⟨⟨checked.1, checked.2, checked.3⟩, rfl, ?_⟩
    rw [none]
    exact .own rfl outcome
  | compute_failed phase holds outcome =>
    rw [phase] at current_at
    obtain ⟨checked, none, rfl⟩ := current_at
    refine balanced.goOn (by rw [phase]; rfl) rfl rfl rfl rfl (by simp [Worker.computed]) ?_
    refine ⟨⟨checked.1, checked.2, checked.3⟩, rfl, ?_⟩
    rw [none]
    exact .shared (.compute rfl outcome)
  | compute_aborted phase holds outcome =>
    rw [phase] at current_at
    obtain ⟨checked, none, rfl⟩ := current_at
    refine balanced.goOn (by rw [phase]; rfl) rfl rfl rfl rfl (by simp [Worker.computed]) ?_
    refine ⟨⟨checked.1, checked.2, checked.3⟩, rfl, ?_⟩
    rw [none]
    exact .shared (.abort rfl outcome)
  | reply phase =>
    rw [phase] at current_at
    obtain ⟨checked, size_eq, replies⟩ := current_at
    refine balanced.goOn (by rw [phase]; rfl) rfl rfl rfl rfl lastUse_le ?_
    refine ⟨⟨checked.1, checked.2, checked.3⟩, size_eq, ?_⟩
    rw [← List.append_cons]
    exact replies
  | finish isDone fits => exact balanced.finish isDone
  | finishBroken isDone fits =>
    exact (balanced.finish isDone).breakOff rfl (.inr (clockBound_le lastUse_le fits))
  | unload phase holds asked due idle sender =>
    exact balanced.letGo phase idle (.inl phase) rfl rfl rfl
  | stop phase idle noSender =>
    have same : ledger.enterAll
        (if worker.held.isSome then [.released w .stop, .stopped w] else [.stopped w]) =
          ledger := by
      split <;> rfl
    rw [same]
    exact balanced.letGo phase idle (.inr rfl) rfl rfl rfl

/-- Entering events one part after the other enters all of them. -/
theorem Ledger.enterAll_append (ledger : Ledger) (events more : List Event) :
    ledger.enterAll (events ++ more) = (ledger.enterAll events).enterAll more :=
  List.foldl_append ..

/-- Every change of a worker keeps the balance. -/
theorem Balanced.change {s : State} {w : WorkerId} {events : List Event}
    (balanced : Balanced settings s.now worker ledger)
    (change : WorkerChange settings s w worker worker' events) :
    Balanced settings s.now worker' (ledger.enterAll events) := by
  cases change with
  | rest => exact balanced
  | accept there room => exact balanced.accept there
  | move step => exact balanced.step step

/-- In every run each worker and its ledger balance. -/
theorem balanced_of_run {s : State} {w : WorkerId} {labels : List Label} {events : List Event}
    (run : Run settings (initial settings) labels events s)
    (found : s.workers[w]? = some worker) : Balanced settings s.now worker (ledgerOf w events) := by
  refine worker_induction
    (motive := fun now worker seen => Balanced settings now worker (Ledger.enterAll {} seen))
    (balanced_fresh settings) ?_ ?_ run found
  · intro now after worker seen le balanced
    exact balanced.later le
  · intro s worker worker' seen more balanced change
    rw [Ledger.enterAll_append]
    exact balanced.change change

end Matryoshka.Service
