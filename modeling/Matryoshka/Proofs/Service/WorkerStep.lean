import Matryoshka.Service.Step

/-!
# The steps of a worker

The functions of a worker first find out whether a step is possible. Here their outcomes
are listed one by one (`WorkerStep`), each with what made it possible and with what it
leads to: the worker and the counters after it, the letters that are written, and what is
seen. Every step of a worker is in the list (`workerLeads_of_stepWorker`), so a law about
workers is proved by going through it.
-/

namespace Matryoshka.Service

/-- A worker that broke off. -/
def Worker.broken (worker : Worker) : Worker :=
  { worker with queue := [], phase := .crashed, held := none }

/-- What is written to those whose requests are lost. -/
def lostLetters (requests : List Request) : List (Ticket × Letter) :=
  requests.map fun request => (request.ticket, .lost)

/-- A worker has nothing left to do for its batch, in which it answered some requests. -/
inductive Done (worker : Worker) : WorkerMove → Nat → Prop
  /-- Nobody waits for any request of the batch. -/
  | passedOver (phase : worker.phase = .checking [] []) : Done worker .proceed 0
  /-- All requests that somebody waits for have been answered. -/
  | replied {counted : Bool} {size : Nat} (phase : worker.phase = .replying [] counted size) :
      Done worker .finishBatch size

/-- Why a model that was asked for is not there. -/
inductive LoadFails (settings : Settings) : Attempt Unit → Failure → Prop
  /-- The loader says so. -/
  | failed (failure : Failure) : LoadFails settings (.failed failure) failure
  /-- The loader broke off. -/
  | aborted : LoadFails settings .aborted (.modelLoad settings.model.name .loaderAborted)

/-- The worker after a computation, which is about to reply. -/
def Worker.computed (worker : Worker) (held : Option Held) (status : WorkerStatus)
    (replies : List (Request × ItemOutcome)) (size : Nat) : Worker :=
  { worker with phase := .replying replies false size, held := held, status := status }

/-- A step of a worker: the worker after it, the counters after it, the letters that are
written, and what is seen. -/
inductive WorkerStep (settings : Settings) (s : State) (w : WorkerId) (worker : Worker) :
    WorkerMove → Worker → Counters → List (Ticket × Letter) → List Event → Prop
  /-- It takes the first request that waits. -/
  | take {request : Request} {queue : List Request} (phase : worker.phase = .waiting)
      (waits : worker.queue = request :: queue) (fits : Labor.batchFits settings = true) :
      WorkerStep settings s w worker .take
        { worker with queue := queue, phase := .gathering [request] }
        s.counters.lowerQueue [] [.taken w request]
  /-- It takes the first request that waits, and breaks off. -/
  | breakOff {request : Request} {queue : List Request} (phase : worker.phase = .waiting)
      (waits : worker.queue = request :: queue) (fits : Labor.batchFits settings = false) :
      WorkerStep settings s w worker .take worker.broken s.counters.lowerQueue
        (lostLetters (request :: queue)) [.taken w request, .crashed w (request :: queue)]
  /-- It takes one more request. -/
  | takeMore {batch queue : List Request} {request : Request}
      (phase : worker.phase = .gathering batch) (waits : worker.queue = request :: queue)
      (room : batch.length < settings.batchSize) :
      WorkerStep settings s w worker .takeMore
        { worker with queue := queue, phase := .gathering (batch ++ [request]) }
        s.counters.lowerQueue [] [.taken w request]
  /-- It takes no more requests. -/
  | closeBatch {batch : List Request} (phase : worker.phase = .gathering batch)
      (full : settings.batchSize ≤ batch.length ∨ worker.queue = []) :
      WorkerStep settings s w worker .closeBatch { worker with phase := .checking [] batch }
        s.counters [] [.gathered w batch]
  /-- It looks whether somebody waits for a request. -/
  | check {live rest : List Request} {request : Request}
      (phase : worker.phase = .checking live (request :: rest)) :
      WorkerStep settings s w worker .check
        { worker with
          phase := .checking (if s.isOpen request.ticket then live ++ [request] else live) rest }
        s.counters [] [.checked w request (s.isOpen request.ticket)]
  /-- It computes with the model that it holds. -/
  | compute {live : List Request} {held : Held} (phase : worker.phase = .checking live [])
      (somebody : live ≠ []) (holds : worker.held = some held) :
      WorkerStep settings s w worker .proceed { worker with phase := .computing live }
        s.counters.addBatch [] []
  /-- It asks for the model. -/
  | load {live : List Request} (phase : worker.phase = .checking live [])
      (somebody : live ≠ []) (holds : worker.held = none) :
      WorkerStep settings s w worker .proceed
        { worker with phase := .loading live, status := .loading } s.counters [] []
  /-- It gets the model, and computes. -/
  | loaded {batch : List Request} (phase : worker.phase = .loading batch) :
      WorkerStep settings s w worker (.finishLoading (.done ()))
        { worker with
          phase := .computing batch
          held := some ⟨worker.loads + 1, s.now⟩
          loads := worker.loads + 1
          status := .loaded }
        s.counters.addLoad.addBatch [] [.loaded w (.done ())]
  /-- It does not get the model. -/
  | loadFails {batch : List Request} {outcome : Attempt Unit} {failure : Failure}
      (phase : worker.phase = .loading batch) (fails : LoadFails settings outcome failure) :
      WorkerStep settings s w worker (.finishLoading outcome)
        { worker with
          phase := .replying (Labor.failAll batch failure) true batch.length
          status := .unloaded }
        (s.counters.addFailed batch.length.toUInt64) [] [.loaded w outcome]
  /-- It has computed the outcomes of a batch. -/
  | compute_done {batch : List Request} {held : Held} {engine : Engine}
      {outcomes : List ItemOutcome} (phase : worker.phase = .computing batch)
      (holds : worker.held = some held)
      (outcome : (engine.compute (batch.map Request.text) settings.effectiveDim).outcome =
        .done outcomes) :
      WorkerStep settings s w worker (.finishComputing engine)
        (worker.computed (some { held with lastUse := s.now }) worker.status
          (batch.zip outcomes) batch.length)
        s.counters []
        [.computed w engine (batch.map Request.text)
          (engine.compute (batch.map Request.text) settings.effectiveDim).passes.length]
  /-- The computation of a batch fails. -/
  | compute_failed {batch : List Request} {held : Held} {engine : Engine} {failure : Failure}
      (phase : worker.phase = .computing batch) (holds : worker.held = some held)
      (outcome : (engine.compute (batch.map Request.text) settings.effectiveDim).outcome =
        .failed failure) :
      WorkerStep settings s w worker (.finishComputing engine)
        (worker.computed (some { held with lastUse := s.now }) worker.status
          (Labor.failAll batch failure) batch.length)
        s.counters []
        [.computed w engine (batch.map Request.text)
          (engine.compute (batch.map Request.text) settings.effectiveDim).passes.length]
  /-- The computation of a batch breaks off. -/
  | compute_aborted {batch : List Request} {held : Held} {engine : Engine}
      (phase : worker.phase = .computing batch) (holds : worker.held = some held)
      (outcome : (engine.compute (batch.map Request.text) settings.effectiveDim).outcome =
        .aborted) :
      WorkerStep settings s w worker (.finishComputing engine)
        (worker.computed none .unloaded
          (Labor.failAll batch (.compute settings.model.name .engineAborted)) batch.length)
        s.counters []
        [.computed w engine (batch.map Request.text)
          (engine.compute (batch.map Request.text) settings.effectiveDim).passes.length,
        .released w .aborted]
  /-- It replies to a request. -/
  | reply {request : Request} {outcome : ItemOutcome} {replies : List (Request × ItemOutcome)}
      {counted : Bool} {size : Nat}
      (phase : worker.phase = .replying ((request, outcome) :: replies) counted size) :
      WorkerStep settings s w worker .reply
        { worker with phase := .replying replies counted size }
        (if counted then s.counters else (Labor.countReply s outcome).counters)
        [(request.ticket, .reply outcome)] [.replied w request outcome]
  /-- It is done with a batch, and waits. -/
  | finish {move : WorkerMove} {size : Nat} (isDone : Done worker move size)
      (fits : Labor.clockFits settings worker = true) :
      WorkerStep settings s w worker move
        { worker with phase := .waiting, answered := worker.answered + size }
        s.counters [] [.finished w size]
  /-- It is done with a batch, and breaks off. -/
  | finishBroken {move : WorkerMove} {size : Nat} (isDone : Done worker move size)
      (fits : Labor.clockFits settings worker = false) :
      WorkerStep settings s w worker move
        { worker.broken with answered := worker.answered + size }
        s.counters (lostLetters worker.queue) [.finished w size, .crashed w worker.queue]
  /-- It lets go of a model that nobody used. -/
  | unload {held : Held} {time : Time} (phase : worker.phase = .waiting)
      (holds : worker.held = some held) (asked : settings.idleUnload = some time)
      (due : held.lastUse + time ≤ s.now) (idle : worker.queue = [])
      (sender : s.hasSender w = true) :
      WorkerStep settings s w worker .unload { worker with held := none, status := .unloaded }
        s.counters.addIdleUnload [] [.released w .idle]
  /-- It ends. -/
  | stop (phase : worker.phase = .waiting) (idle : worker.queue = [])
      (noSender : s.hasSender w = false) :
      WorkerStep settings s w worker .stop
        { worker with phase := .stopped, held := none, status := .stopped } s.counters []
        (if worker.held.isSome then [.released w .stop, .stopped w] else [.stopped w])

/-- The state after a step of a worker; only letters that somebody may collect are kept. -/
def State.afterWorker (s : State) (w : WorkerId) (worker : Worker) (counters : Counters)
    (written : List (Ticket × Letter)) : State :=
  { s with
    workers := s.workers.set w worker
    counters := counters
    letters := s.letters ++ written.filter fun entry => s.isOpen entry.1 }

/-- A move of a worker leads to a state by one of its steps. -/
def WorkerLeads (settings : Settings) (s : State) (w : WorkerId) (worker : Worker)
    (move : WorkerMove) (t : State) (events : List Event) : Prop :=
  ∃ worker' counters written,
    WorkerStep settings s w worker move worker' counters written events ∧
      t = s.afterWorker w worker' counters written

/-- Writing a letter changes nothing but the letters. -/
theorem post_eq (s : State) (ticket : Ticket) (letter : Letter) :
    s.post ticket letter =
      { s with
        letters := s.letters ++ [(ticket, letter)].filter fun entry => s.isOpen entry.1 } := by
  cases awaited : s.isOpen ticket with
  | true => simp only [State.post, awaited, ↓reduceIte, List.filter_cons, List.filter_nil]
  | false =>
    simp only [State.post, awaited, Bool.false_eq_true, ↓reduceIte, List.filter_cons,
      List.filter_nil, List.append_nil]

/-- Writing one letter after the other keeps those that somebody may collect. -/
theorem foldl_post_lost (s : State) (requests : List Request) :
    requests.foldl (fun s request => s.post request.ticket .lost) s =
      { s with
        letters :=
          s.letters ++ (lostLetters requests).filter fun entry => s.isOpen entry.1 } := by
  induction requests generalizing s with
  | nil => simp [lostLetters]
  | cons request requests ih =>
    rw [List.foldl_cons, ih, post_eq]
    have parts : (lostLetters (request :: requests)).filter (fun entry => s.isOpen entry.1) =
        [(request.ticket, Letter.lost)].filter (fun entry => s.isOpen entry.1) ++
          (lostLetters requests).filter (fun entry => s.isOpen entry.1) := by
      rw [← List.filter_append]
      rfl
    rw [parts, ← List.append_assoc]
    rfl

/-- A worker that breaks off writes to everybody whose request it has. -/
theorem crash_eq (s : State) (w : WorkerId) (worker : Worker) (inHand : List Request) :
    Labor.crash s w worker inHand =
      (s.afterWorker w worker.broken s.counters (lostLetters (inHand ++ worker.queue)),
        [.crashed w (inHand ++ worker.queue)]) := by
  rw [Labor.crash, foldl_post_lost]
  rfl

section Labor

variable {settings : Settings} {s t : State} {w : WorkerId} {worker : Worker}
  {events : List Event}

/-- Being done with a batch is one of two steps. -/
theorem workerLeads_of_finish {move : WorkerMove} {size : Nat} (isDone : Done worker move size)
    (moved : Labor.finish settings s w worker size = (t, events)) :
    WorkerLeads settings s w worker move t events := by
  have same : Labor.clockFits settings { worker with answered := worker.answered + size } =
      Labor.clockFits settings worker := rfl
  simp only [Labor.finish, same, crash_eq] at moved
  cases fits : Labor.clockFits settings worker with
  | true =>
    rw [fits] at moved
    cases moved
    exact ⟨_, _, _, .finish isDone fits, by simp [State.afterWorker, State.setWorker]⟩
  | false =>
    rw [fits] at moved
    cases moved
    exact ⟨_, _, _, .finishBroken isDone fits, rfl⟩

/-- Taking a request is one of two steps. -/
theorem workerLeads_of_take (moved : Labor.take settings s w worker = some (t, events)) :
    WorkerLeads settings s w worker .take t events := by
  unfold Labor.take at moved
  split at moved
  · rename_i request queue phase waits
    cases fits : Labor.batchFits settings with
    | true =>
      simp only [fits, ↓reduceIte, Option.some.injEq, Prod.mk.injEq] at moved
      obtain ⟨rfl, rfl⟩ := moved
      exact ⟨_, _, _, .take phase waits fits, by
        simp [State.afterWorker, State.setWorker, State.count]⟩
    | false =>
      simp only [fits, crash_eq] at moved
      cases moved
      exact ⟨_, _, _, .breakOff phase waits fits, rfl⟩
  · cases moved

/-- Taking one more request is a step. -/
theorem workerLeads_of_takeMore
    (moved : Labor.takeMore settings s w worker = some (t, events)) :
    WorkerLeads settings s w worker .takeMore t events := by
  unfold Labor.takeMore at moved
  split at moved
  · rename_i batch request queue phase waits
    split at moved
    · rename_i room
      cases moved
      exact ⟨_, _, _, .takeMore phase waits room, by
        simp [State.afterWorker, State.setWorker, State.count]⟩
    · cases moved
  · cases moved

/-- Closing a batch is a step. -/
theorem workerLeads_of_closeBatch
    (moved : Labor.closeBatch settings s w worker = some (t, events)) :
    WorkerLeads settings s w worker .closeBatch t events := by
  unfold Labor.closeBatch at moved
  split at moved
  · rename_i batch phase
    split at moved
    · rename_i full
      cases moved
      exact ⟨_, _, _, .closeBatch phase (by simpa using full), by
        simp [State.afterWorker, State.setWorker]⟩
    · cases moved
  · cases moved

/-- Looking at a request is a step. -/
theorem workerLeads_of_check (moved : Labor.check s w worker = some (t, events)) :
    WorkerLeads settings s w worker .check t events := by
  unfold Labor.check at moved
  split at moved
  · rename_i live request rest phase
    cases moved
    exact ⟨_, _, _, .check phase, by simp [State.afterWorker, State.setWorker]⟩
  · cases moved

/-- Going on with a batch is one of four steps. -/
theorem workerLeads_of_proceed
    (moved : Labor.proceed settings s w worker = some (t, events)) :
    WorkerLeads settings s w worker .proceed t events := by
  unfold Labor.proceed at moved
  split at moved
  · rename_i phase
    exact workerLeads_of_finish (.passedOver phase) (Option.some.inj moved)
  · rename_i live somebody phase
    cases holds : worker.held with
    | some held =>
      rw [holds] at moved
      cases moved
      exact ⟨_, _, _, .compute phase (by simpa using somebody) holds, by
        simp [State.afterWorker, State.setWorker, State.count, Labor.startComputing, holds]⟩
    | none =>
      rw [holds] at moved
      cases moved
      exact ⟨_, _, _, .load phase (by simpa using somebody) holds, by
        simp [State.afterWorker, State.setWorker, holds]⟩
  · cases moved

/-- The return of the loader is one of two steps. -/
theorem workerLeads_of_finishLoading {outcome : Attempt Unit}
    (moved : Labor.finishLoading settings s w worker outcome = some (t, events)) :
    WorkerLeads settings s w worker (.finishLoading outcome) t events := by
  unfold Labor.finishLoading at moved
  split at moved
  · rename_i batch phase
    cases outcome with
    | done nothing =>
      cases moved
      exact ⟨_, _, _, .loaded phase, by
        simp [State.afterWorker, State.setWorker, State.count, Labor.startComputing]⟩
    | failed failure =>
      cases moved
      exact ⟨_, _, _, .loadFails phase (.failed failure), by
        simp [State.afterWorker, State.setWorker, State.count]⟩
    | aborted =>
      cases moved
      exact ⟨_, _, _, .loadFails phase .aborted, by
        simp [State.afterWorker, State.setWorker, State.count]⟩
  · cases moved

/-- The end of a computation is one of three steps. -/
theorem workerLeads_of_finishComputing {engine : Engine}
    (moved : Labor.finishComputing settings s w worker engine = some (t, events)) :
    WorkerLeads settings s w worker (.finishComputing engine) t events := by
  unfold Labor.finishComputing at moved
  split at moved
  · rename_i batch held phase holds
    simp only at moved
    split at moved
    · rename_i outcomes outcome
      cases moved
      exact ⟨_, _, _, .compute_done phase holds outcome, by
        simp [State.afterWorker, State.setWorker, Worker.computed]⟩
    · rename_i failure outcome
      cases moved
      exact ⟨_, _, _, .compute_failed phase holds outcome, by
        simp [State.afterWorker, State.setWorker, Worker.computed]⟩
    · rename_i outcome
      cases moved
      exact ⟨_, _, _, .compute_aborted phase holds outcome, by
        simp [State.afterWorker, State.setWorker, Worker.computed]⟩
  · cases moved

/-- Replying is a step. -/
theorem workerLeads_of_reply (moved : Labor.reply s w worker = some (t, events)) :
    WorkerLeads settings s w worker .reply t events := by
  unfold Labor.reply at moved
  split at moved
  · rename_i request outcome replies counted size phase
    cases moved
    refine ⟨_, _, _, .reply phase, ?_⟩
    rw [post_eq]
    cases counted with
    | true => rfl
    | false => cases outcome <;> rfl
  · cases moved

/-- Finishing a batch whose requests were answered is one of two steps. -/
theorem workerLeads_of_finishBatch
    (moved : Labor.finishBatch settings s w worker = some (t, events)) :
    WorkerLeads settings s w worker .finishBatch t events := by
  unfold Labor.finishBatch at moved
  split at moved
  · rename_i counted size phase
    exact workerLeads_of_finish (.replied phase) (Option.some.inj moved)
  · cases moved

/-- Letting go of an unused model is a step. -/
theorem workerLeads_of_unload (moved : Labor.unload settings s w worker = some (t, events)) :
    WorkerLeads settings s w worker .unload t events := by
  simp only [Labor.unload, Labor.idleAt?] at moved
  split at moved
  · rename_i moment due
    split at due
    · rename_i held time phase holds asked
      cases due
      split at moved
      · rename_i possible
        cases moved
        simp only [Bool.and_eq_true, decide_eq_true_eq, List.isEmpty_iff] at possible
        obtain ⟨⟨due, idle⟩, sender⟩ := possible
        exact ⟨_, _, _, .unload phase holds asked due idle sender, by
          simp [State.afterWorker, State.setWorker, State.count]⟩
      · cases moved
    · cases due
  · cases moved

/-- Ending is a step. -/
theorem workerLeads_of_stop (moved : Labor.stop s w worker = some (t, events)) :
    WorkerLeads settings s w worker .stop t events := by
  unfold Labor.stop at moved
  split at moved
  · rename_i phase
    split at moved
    · rename_i possible
      simp only [Bool.and_eq_true, List.isEmpty_iff, Bool.not_eq_eq_eq_not, Bool.not_true]
        at possible
      have step : WorkerStep settings s w worker .stop _ _ _ _ :=
        .stop phase possible.1 possible.2
      cases holds : worker.held with
      | some held =>
        rw [holds] at moved step
        cases moved
        exact ⟨_, _, _, step, by simp [State.afterWorker, State.setWorker]⟩
      | none =>
        rw [holds] at moved step
        cases moved
        exact ⟨_, _, _, step, by simp [State.afterWorker, State.setWorker]⟩
    · cases moved
  · cases moved

/-- Every step of a worker is in the list. -/
theorem workerLeads_of_stepWorker {move : WorkerMove}
    (moved : stepWorker settings s w worker move = some (t, events)) :
    WorkerLeads settings s w worker move t events := by
  cases move with
  | take => exact workerLeads_of_take moved
  | takeMore => exact workerLeads_of_takeMore moved
  | closeBatch => exact workerLeads_of_closeBatch moved
  | check => exact workerLeads_of_check moved
  | proceed => exact workerLeads_of_proceed moved
  | finishLoading outcome => exact workerLeads_of_finishLoading moved
  | finishComputing engine => exact workerLeads_of_finishComputing moved
  | reply => exact workerLeads_of_reply moved
  | finishBatch => exact workerLeads_of_finishBatch moved
  | unload => exact workerLeads_of_unload moved
  | stop => exact workerLeads_of_stop moved

end Labor

end Matryoshka.Service
