import Mathlib.Data.UInt
import Matryoshka.Proofs.Service.Accounting
import Matryoshka.Proofs.Service.Deeds
import Matryoshka.Proofs.Service.Exhaustion
import Matryoshka.Proofs.Service.Lifecycle
import Matryoshka.Proofs.Service.Progress

/-!
# What comes of a batch

A worker that has gathered a batch looks at its requests one after the other. Those that somebody
waits for it serves together: it gets its model if it does not hold it, computes, and replies
(`Serves`). While it does so callers come and go and other workers move, but how far the worker
has come, what it has done and what it has added to the counters fit together after each of its
moves (`Underway.advance`), so all of it is known when the batch is finished (`batch_served`).
-/

namespace Matryoshka.Service

/-! ## Serving requests -/

/-- The requests that somebody waits for, by the verdicts on a batch. -/
def awaitedIn (verdicts : List (Request × Bool)) : List Request :=
  (verdicts.filter Prod.snd).map Prod.fst

/-- What replies add to the counters when they are counted one by one. -/
def gainOf (replies : List (Request × ItemOutcome)) : Counters where
  processed := UInt64.ofNat (replies.countP fun reply => reply.2.isOk)
  failed := UInt64.ofNat (replies.countP fun reply => !reply.2.isOk)

/-- What a worker makes of the requests of a batch that somebody waits for. -/
structure Served where
  /-- What it does between looking at the requests and replying. -/
  acts : List Event := []
  /-- The replies. -/
  replies : List (Request × ItemOutcome) := []
  /-- The model that it holds then. -/
  held : Option Held
  /-- What it says about itself then. -/
  status : WorkerStatus
  /-- What it has added to the counters. -/
  gains : Counters := {}

/-- How a worker has the model for a batch: what it does to get it, the number of the model, what
the worker says about itself, and how many models it has loaded for the batch. -/
inductive Obtains (w : WorkerId) (before : Worker) :
    List Event → Nat → WorkerStatus → UInt64 → Prop
  /-- It holds it already. -/
  | holds {held : Held} (holds : before.held = some held) :
      Obtains w before [] held.number before.status 0
  /-- It loads a new one. -/
  | loads (without : before.held = none) :
      Obtains w before [.loaded w (.done ())] (before.loads + 1) .loaded 1

/-- What an engine makes of some requests: the replies, and whether the model is kept. -/
inductive Computes (settings : Settings) (live : List Request) (engine : Engine) :
    List (Request × ItemOutcome) → Bool → Prop
  /-- Each request gets the outcome in its place. -/
  | done {outcomes : List ItemOutcome}
      (outcome : (engine.compute (live.map Request.text) settings.effectiveDim).outcome =
        .done outcomes) (all : outcomes.length = live.length) :
      Computes settings live engine (live.zip outcomes) true
  /-- They all get the failure of the computation. -/
  | failed {failure : Failure}
      (outcome : (engine.compute (live.map Request.text) settings.effectiveDim).outcome =
        .failed failure) : Computes settings live engine (Labor.failAll live failure) true
  /-- They are all told that the engine broke off. -/
  | aborted
      (outcome : (engine.compute (live.map Request.text) settings.effectiveDim).outcome =
        .aborted) :
      Computes settings live engine
        (Labor.failAll live (.compute settings.model.name .engineAborted)) false

/-- What a worker makes of the requests of a batch that somebody waits for. -/
inductive Serves (settings : Settings) (w : WorkerId) (before : Worker) (live : List Request) :
    Served → Prop
  /-- Nobody waits, and nothing is done. -/
  | nobody (none : live = []) :
      Serves settings w before live { held := before.held, status := before.status }
  /-- The model is not held and cannot be loaded: all requests get this failure. -/
  | unloaded {outcome : Attempt Unit} {failure : Failure} (somebody : live ≠ [])
      (without : before.held = none) (fails : LoadFails settings outcome failure) :
      Serves settings w before live {
        acts := [.loaded w outcome]
        replies := Labor.failAll live failure
        held := none
        status := .unloaded
        gains := { failed := UInt64.ofNat live.length } }
  /-- They are computed at some time. The model is kept unless it breaks off. -/
  | computed {opening : List Event} {number : Nat} {status : WorkerStatus} {loads : UInt64}
      {engine : Engine} {replies : List (Request × ItemOutcome)} {kept : Bool} (time : Time)
      (somebody : live ≠ []) (obtains : Obtains w before opening number status loads)
      (computes : Computes settings live engine replies kept) :
      Serves settings w before live {
        acts := opening ++ .computed w engine (live.map Request.text)
          (engine.compute (live.map Request.text) settings.effectiveDim).passes.length ::
            if kept then [] else [.released w .aborted]
        replies := replies
        held := if kept then some ⟨number, time⟩ else none
        status := if kept then status else .unloaded
        gains := { batches := 1, loads := loads } + gainOf replies }

/-! ## Counting replies -/

variable {settings : Settings} {s : State} {w : WorkerId} {before worker worker' : Worker}
  {batch live : List Request} {verdicts : List (Request × Bool)}

/-- Replies add to the counters one after the other. -/
theorem gainOf_append (replies more : List (Request × ItemOutcome)) :
    gainOf (replies ++ more) = gainOf replies + gainOf more := by
  simp [gainOf, Counters.add_def, List.countP_append]

/-- A reply is counted when it is sent. -/
theorem sub_countReply (s : State) (request : Request) (outcome : ItemOutcome) :
    (Labor.countReply s outcome).counters - s.counters = gainOf [(request, outcome)] := by
  cases outcome <;>
    simp [Labor.countReply, State.count, Counters.addProcessed, Counters.addFailed,
      Counters.sub_def, gainOf, Except.isOk, Except.toBool]

/-- Every reply is counted, as a vector or as a failure. -/
theorem processed_add_failed_gainOf (replies : List (Request × ItemOutcome)) :
    (gainOf replies).processed + (gainOf replies).failed = UInt64.ofNat replies.length := by
  have parts := List.length_eq_countP_add_countP (fun reply : Request × ItemOutcome =>
    reply.2.isOk) (l := replies)
  simp only [gainOf, ← UInt64.ofNat_add]
  rw [parts]
  simp

/-- There is one reply to each request, in order. -/
theorem Computes.map_fst {engine : Engine} {replies : List (Request × ItemOutcome)} {kept : Bool}
    (computes : Computes settings live engine replies kept) : replies.map Prod.fst = live := by
  cases computes with
  | done outcome all => exact List.map_fst_zip (Nat.le_of_eq all.symm)
  | failed => simp [Labor.failAll, Function.comp_def]
  | aborted => simp [Labor.failAll, Function.comp_def]

/-- There is one reply to each request that somebody waits for, in order. -/
theorem Serves.map_fst {served : Served} (serves : Serves settings w before live served) :
    served.replies.map Prod.fst = live := by
  cases serves with
  | nobody none => exact none.symm
  | unloaded => simp [Labor.failAll, Function.comp_def]
  | computed time somebody obtains computes => exact computes.map_fst

/-- The replies to a batch are all counted. -/
theorem Serves.processed_add_failed {served : Served}
    (serves : Serves settings w before live served) :
    served.gains.processed + served.gains.failed = UInt64.ofNat live.length := by
  have length := congrArg List.length serves.map_fst
  rw [List.length_map] at length
  cases serves with
  | nobody none =>
    rw [none]
    rfl
  | unloaded => exact UInt64.zero_add _
  | computed =>
    rw [← length, ← processed_add_failed_gainOf]
    simp [Counters.add_def]

/-! ## How far a worker has come -/

/-- What is seen of a worker when it looks at requests. -/
def looks (w : WorkerId) (verdicts : List (Request × Bool)) : List Event :=
  verdicts.map fun verdict => .checked w verdict.1 verdict.2

/-- What is seen of a worker when it replies. -/
def sends (w : WorkerId) (replies : List (Request × ItemOutcome)) : List Event :=
  replies.map fun reply => .replied w reply.1 reply.2

/-- How far a worker has come with a batch: what it does, what it has done, and what it has added
to the counters. -/
inductive BatchStage (settings : Settings) (w : WorkerId) (before : Worker) (batch : List Request)
    (verdicts : List (Request × Bool)) (worker : Worker) : List Event → Counters → Prop
  /-- It looks at the requests. -/
  | checking {rest : List Request} (phase : worker.phase = .checking (awaitedIn verdicts) rest)
      (looked : verdicts.map Prod.fst ++ rest = batch) (held : worker.held = before.held)
      (status : worker.status = before.status) (loads : worker.loads = before.loads) :
      BatchStage settings w before batch verdicts worker (looks w verdicts) {}
  /-- It waits for the loader. -/
  | loading (phase : worker.phase = .loading (awaitedIn verdicts))
      (looked : verdicts.map Prod.fst = batch) (somebody : awaitedIn verdicts ≠ [])
      (without : before.held = none) (held : worker.held = none)
      (loads : worker.loads = before.loads) :
      BatchStage settings w before batch verdicts worker (looks w verdicts) {}
  /-- It computes. -/
  | computing {opening : List Event} {status : WorkerStatus} {loads : UInt64} {held : Held}
      (phase : worker.phase = .computing (awaitedIn verdicts))
      (looked : verdicts.map Prod.fst = batch) (somebody : awaitedIn verdicts ≠ [])
      (obtains : Obtains w before opening held.number status loads)
      (holds : worker.held = some held) (status_eq : worker.status = status) :
      BatchStage settings w before batch verdicts worker (looks w verdicts ++ opening)
        { batches := 1, loads := loads }
  /-- It replies; the failures of a batch without a model are counted in advance. -/
  | replying {served : Served} {sent pending : List (Request × ItemOutcome)} {counted : Bool}
      {gains : Counters}
      (phase : worker.phase = .replying pending counted (awaitedIn verdicts).length)
      (looked : verdicts.map Prod.fst = batch)
      (serves : Serves settings w before (awaitedIn verdicts) served)
      (split : served.replies = sent ++ pending) (held : worker.held = served.held)
      (status : worker.status = served.status)
      (gains_eq : gains + (if counted then {} else gainOf pending) = served.gains) :
      BatchStage settings w before batch verdicts worker
        (looks w verdicts ++ served.acts ++ sends w sent) gains

/-- A worker is underway with a batch, on which it began as `before`. -/
structure Underway (settings : Settings) (w : WorkerId) (before : Worker) (batch : List Request)
    (verdicts : List (Request × Bool)) (worker : Worker) (deeds : List Event)
    (gains : Counters) : Prop where
  /-- How far it has come. -/
  stage : BatchStage settings w before batch verdicts worker deeds gains
  /-- It has not finished this batch. -/
  answered : worker.answered = before.answered

variable {deeds events : List Event} {gains counters : Counters} {move : WorkerMove}
  {written : List (Ticket × Letter)}

/-- A worker begins on a batch without having done anything about it. -/
theorem underway_begin (begun : before.phase = .checking [] batch) :
    Underway settings w before batch [] before [] {} :=
  ⟨.checking begun rfl rfl rfl rfl, rfl⟩

/-- One more verdict. -/
theorem awaitedIn_append (verdicts : List (Request × Bool)) (request : Request) (awaited : Bool) :
    awaitedIn (verdicts ++ [(request, awaited)]) =
      if awaited then awaitedIn verdicts ++ [request] else awaitedIn verdicts := by
  cases awaited <;> simp [awaitedIn]

/-- Looking at the requests, a worker looks at one more, or goes on with those that somebody waits
for. -/
theorem Underway.advance_checking {rest : List Request}
    (step : WorkerStep settings s w worker move worker' counters written events)
    (unfinished : ∀ n, .finished w n ∉ events)
    (phase : worker.phase = .checking (awaitedIn verdicts) rest)
    (looked : verdicts.map Prod.fst ++ rest = batch) (held : worker.held = before.held)
    (status : worker.status = before.status) (loads : worker.loads = before.loads) :
    ∃ verdicts', BatchStage settings w before batch verdicts' worker' (looks w verdicts ++ events)
      ({} + (counters - s.counters)) := by
  have count (c : Counters) : ({} + (c - c) : Counters) = {} := by
    rw [Counters.sub_self, Counters.zero_add]
  cases step with
  | @check live rest' request phase' =>
    obtain ⟨rfl, rfl⟩ : awaitedIn verdicts = live ∧ rest = request :: rest' := by
      simpa [phase] using phase'
    refine ⟨verdicts ++ [(request, s.isOpen request.ticket)], ?_⟩
    have seen : looks w verdicts ++ [.checked w request (s.isOpen request.ticket)] =
        looks w (verdicts ++ [(request, s.isOpen request.ticket)]) := by simp [looks]
    rw [count, seen]
    refine .checking ?_ (by simpa using looked) held status loads
    rw [awaitedIn_append]
  | @compute live model phase' somebody holds =>
    obtain ⟨rfl, rfl⟩ : awaitedIn verdicts = live ∧ rest = [] := by simpa [phase] using phase'
    have one : ({} + (s.counters.addBatch - s.counters) : Counters) =
        { batches := 1, loads := 0 } := by
      simp [Counters.add_def, Counters.sub_def, Counters.addBatch]
    refine ⟨verdicts, ?_⟩
    rw [one]
    exact .computing rfl (by simpa using looked) somebody (.holds (held ▸ holds)) holds status
  | @load live phase' somebody holds =>
    obtain ⟨rfl, rfl⟩ : awaitedIn verdicts = live ∧ rest = [] := by simpa [phase] using phase'
    refine ⟨verdicts, ?_⟩
    rw [count, List.append_nil]
    exact .loading rfl (by simpa using looked) somebody (held ▸ holds) holds loads
  | finish isDone => exact absurd (List.mem_singleton.2 rfl) (unfinished _)
  | finishBroken isDone => exact absurd List.mem_cons_self (unfinished _)
  | _ => simp_all

/-- A worker that knows the replies has sent none of them. -/
theorem BatchStage.serving {served : Served} {counted : Bool}
    (serves : Serves settings w before (awaitedIn verdicts) served)
    (looked : verdicts.map Prod.fst = batch)
    (phase : worker.phase = .replying served.replies counted (awaitedIn verdicts).length)
    (held : worker.held = served.held) (status : worker.status = served.status)
    (gains_eq : gains + (if counted then {} else gainOf served.replies) = served.gains) :
    BatchStage settings w before batch verdicts worker (looks w verdicts ++ served.acts)
      gains := by
  have nothing : sends w [] = [] := rfl
  rw [← List.append_nil (looks w verdicts ++ served.acts), ← nothing]
  exact .replying phase looked serves rfl held status gains_eq

/-- When the loader comes back, a worker computes, or has a failure to reply. -/
theorem Underway.advance_loading
    (step : WorkerStep settings s w worker move worker' counters written events)
    (phase : worker.phase = .loading (awaitedIn verdicts))
    (looked : verdicts.map Prod.fst = batch) (somebody : awaitedIn verdicts ≠ [])
    (without : before.held = none) (held : worker.held = none)
    (loads : worker.loads = before.loads) :
    BatchStage settings w before batch verdicts worker' (looks w verdicts ++ events)
      ({} + (counters - s.counters)) := by
  cases step with
  | @loaded live phase' =>
    obtain rfl : awaitedIn verdicts = live := by simpa [phase] using phase'
    have one : ({} + (s.counters.addLoad.addBatch - s.counters) : Counters) =
        { batches := 1, loads := 1 } := by
      simp [Counters.add_def, Counters.sub_def, Counters.addBatch, Counters.addLoad]
    rw [one, loads]
    exact .computing rfl looked somebody (.loads without) rfl rfl
  | @loadFails live outcome failure phase' fails =>
    obtain rfl : awaitedIn verdicts = live := by simpa [phase] using phase'
    have failures : ({} + (s.counters.addFailed (awaitedIn verdicts).length.toUInt64 -
        s.counters) : Counters) = { failed := UInt64.ofNat (awaitedIn verdicts).length } := by
      simp [Counters.add_def, Counters.sub_def, Counters.addFailed]
    rw [failures]
    exact .serving (.unloaded somebody without fails) looked rfl held rfl
      (by rw [if_pos rfl, Counters.add_zero])
  | finish isDone => cases isDone <;> simp_all
  | finishBroken isDone => cases isDone <;> simp_all
  | _ => simp_all

/-- When a computation ends, a worker has replies to send. -/
theorem Underway.advance_computing {opening : List Event} {status : WorkerStatus} {loads : UInt64}
    {held : Held} (step : WorkerStep settings s w worker move worker' counters written events)
    (phase : worker.phase = .computing (awaitedIn verdicts))
    (looked : verdicts.map Prod.fst = batch) (somebody : awaitedIn verdicts ≠ [])
    (obtains : Obtains w before opening held.number status loads)
    (holds : worker.held = some held) (status_eq : worker.status = status) :
    BatchStage settings w before batch verdicts worker' (looks w verdicts ++ opening ++ events)
      ({ batches := 1, loads := loads } + (counters - s.counters)) := by
  have count : ({ batches := 1, loads := loads } : Counters) + (s.counters - s.counters) =
      { batches := 1, loads := loads } := by rw [Counters.sub_self, Counters.add_zero]
  have goOn {engine : Engine} {replies : List (Request × ItemOutcome)} {kept : Bool}
      (computes : Computes settings (awaitedIn verdicts) engine replies kept)
      (phase' : worker'.phase = .replying replies false (awaitedIn verdicts).length)
      (held' : worker'.held = if kept then some ⟨held.number, s.now⟩ else none)
      (status' : worker'.status = if kept then status else .unloaded) :
      BatchStage settings w before batch verdicts worker'
        (looks w verdicts ++ opening ++ .computed w engine ((awaitedIn verdicts).map Request.text)
          (engine.compute ((awaitedIn verdicts).map Request.text)
            settings.effectiveDim).passes.length ::
          if kept then [] else [.released w .aborted]) { batches := 1, loads := loads } := by
    rw [List.append_assoc]
    exact .serving (.computed s.now somebody obtains computes) looked phase' held' status' rfl
  cases step with
  | compute_done phase' holds' outcome =>
    obtain rfl : awaitedIn verdicts = _ := by simpa [phase] using phase'
    obtain rfl : held = _ := by simpa [holds] using holds'
    have all := (Engine.answers_of_compute outcome).1
    rw [List.length_map] at all
    rw [count]
    exact goOn (.done outcome all) rfl rfl status_eq
  | compute_failed phase' holds' outcome =>
    obtain rfl : awaitedIn verdicts = _ := by simpa [phase] using phase'
    obtain rfl : held = _ := by simpa [holds] using holds'
    rw [count]
    exact goOn (.failed outcome) rfl rfl status_eq
  | compute_aborted phase' holds' outcome =>
    obtain rfl : awaitedIn verdicts = _ := by simpa [phase] using phase'
    rw [count]
    exact goOn (.aborted outcome) rfl rfl rfl
  | finish isDone => cases isDone <;> simp_all
  | finishBroken isDone => cases isDone <;> simp_all
  | _ => simp_all

/-- Replying, a worker sends the next reply. -/
theorem Underway.advance_replying {served : Served} {sent pending : List (Request × ItemOutcome)}
    {counted : Bool} (step : WorkerStep settings s w worker move worker' counters written events)
    (unfinished : ∀ n, .finished w n ∉ events)
    (phase : worker.phase = .replying pending counted (awaitedIn verdicts).length)
    (looked : verdicts.map Prod.fst = batch)
    (serves : Serves settings w before (awaitedIn verdicts) served)
    (split : served.replies = sent ++ pending) (held : worker.held = served.held)
    (status : worker.status = served.status)
    (gains_eq : gains + (if counted then {} else gainOf pending) = served.gains) :
    BatchStage settings w before batch verdicts worker'
      (looks w verdicts ++ served.acts ++ sends w sent ++ events)
      (gains + (counters - s.counters)) := by
  cases step with
  | @reply request outcome replies counted' size phase' =>
    obtain ⟨rfl, rfl, rfl⟩ : pending = (request, outcome) :: replies ∧ counted = counted' ∧
        (awaitedIn verdicts).length = size := by simpa [phase] using phase'
    have seen : looks w verdicts ++ served.acts ++ sends w sent ++ [.replied w request outcome] =
        looks w verdicts ++ served.acts ++ sends w (sent ++ [(request, outcome)]) := by
      simp [sends]
    rw [seen]
    refine .replying rfl looked serves (by simpa using split) held status ?_
    rw [← gains_eq, Counters.add_assoc]
    cases counted with
    | true => rw [if_pos rfl, if_pos rfl, if_pos rfl, Counters.sub_self, Counters.add_zero]
    | false =>
      rw [if_neg Bool.false_ne_true, if_neg Bool.false_ne_true, if_neg Bool.false_ne_true,
        sub_countReply s request, ← gainOf_append]
      rfl
  | finish isDone => exact absurd (List.mem_singleton.2 rfl) (unfinished _)
  | finishBroken isDone => exact absurd List.mem_cons_self (unfinished _)
  | _ => simp_all

/-- A worker that is underway with a batch and moves without finishing it is still underway. -/
theorem Underway.advance
    (underway : Underway settings w before batch verdicts worker deeds gains)
    (step : WorkerStep settings s w worker move worker' counters written events)
    (unfinished : ∀ n, .finished w n ∉ events) :
    ∃ verdicts', Underway settings w before batch verdicts' worker' (deeds ++ events)
      (gains + (counters - s.counters)) := by
  have answered : worker'.answered = worker.answered := by
    cases step with
    | finish isDone => exact absurd (List.mem_singleton.2 rfl) (unfinished _)
    | finishBroken isDone => exact absurd List.mem_cons_self (unfinished _)
    | _ => rfl
  have same := answered.trans underway.answered
  cases underway.stage with
  | checking phase looked held status loads =>
    obtain ⟨verdicts', stage⟩ :=
      advance_checking step unfinished phase looked held status loads
    exact ⟨verdicts', stage, same⟩
  | loading phase looked somebody without held loads =>
    exact ⟨verdicts, advance_loading step phase looked somebody without held loads, same⟩
  | computing phase looked somebody obtains holds status =>
    exact ⟨verdicts, advance_computing step phase looked somebody obtains holds status, same⟩
  | replying phase looked serves split held status gains_eq =>
    exact ⟨verdicts, advance_replying step unfinished phase looked serves split held status
      gains_eq, same⟩

/-- A worker that is underway and does not move is still underway. -/
theorem Underway.wait (underway : Underway settings w before batch verdicts worker deeds gains)
    (waits : WorkerWaits worker worker') :
    Underway settings w before batch verdicts worker' deeds gains := by
  cases waits with
  | rest => exact underway
  | accept request =>
    refine ⟨?_, underway.answered⟩
    cases underway.stage with
    | checking phase looked held status loads => exact .checking phase looked held status loads
    | loading phase looked somebody without held loads =>
      exact .loading phase looked somebody without held loads
    | computing phase looked somebody obtains holds status =>
      exact .computing phase looked somebody obtains holds status
    | replying phase looked serves split held status gains_eq =>
      exact .replying phase looked serves split held status gains_eq

/-- A worker that is done with a batch has looked at all of it, has made of the requests that
somebody waits for what it makes of them, and has sent all replies. -/
theorem Underway.complete {n : Nat}
    (underway : Underway settings w before batch verdicts worker deeds gains)
    (isDone : Done worker move n) :
    ∃ served, verdicts.map Prod.fst = batch ∧
      Serves settings w before (awaitedIn verdicts) served ∧ n = (awaitedIn verdicts).length ∧
      deeds = looks w verdicts ++ served.acts ++ sends w served.replies ∧
      worker.held = served.held ∧ worker.status = served.status ∧ gains = served.gains := by
  cases underway.stage with
  | checking phase looked held status =>
    cases isDone with
    | passedOver phase' =>
      obtain ⟨none, rfl⟩ := by simpa [phase] using phase'
      refine ⟨_, by simpa using looked, .nobody none, by rw [none]; rfl, ?_, held, status, rfl⟩
      simp [sends]
    | replied phase' => simp [phase] at phase'
  | loading phase => cases isDone <;> simp_all
  | computing phase => cases isDone <;> simp_all
  | @replying served sent pending counted _ phase looked serves split held status gains_eq =>
    cases isDone with
    | passedOver phase' => simp [phase] at phase'
    | @replied counted' _ phase' =>
      obtain ⟨rfl, -, rfl⟩ : pending = [] ∧ counted = counted' ∧
          (awaitedIn verdicts).length = n := by simpa [phase] using phase'
      rw [List.append_nil] at split
      refine ⟨_, looked, serves, rfl, by rw [split], held, status, ?_⟩
      rw [← gains_eq]
      cases counted <;> exact (Counters.add_zero _).symm

/-! ## Runs -/

variable {t u : State} {labels : List Label} {label : Label} {more : List Event}

/-- As long as a worker has not finished the batch on which it began, it is underway with it. -/
theorem underway_of_run (found : s.workers[w]? = some before)
    (begun : before.phase = .checking [] batch) (run : Run settings s labels events t)
    (unfinished : ∀ n, .finished w n ∉ events) :
    ∃ worker verdicts, t.workers[w]? = some worker ∧
      Underway settings w before batch verdicts worker (deedsOf w events)
        (Service.gains settings w s labels) := by
  induction run with
  | none => exact ⟨before, [], found, underway_begin begun⟩
  | @step u v labels events more label run next ih =>
    obtain ⟨worker, verdicts, there, underway⟩ :=
      ih fun n member => unfinished n (List.mem_append_left _ member)
    have unfinished' : ∀ n, .finished w n ∉ more :=
      fun n member => unfinished n (List.mem_append_right _ member)
    rw [deedsOf_append, gains_step run next]
    rcases moves_or_waits (transition_of_step next) there with
      ⟨move, worker', counters, written, rfl, step, rfl⟩ | ⟨still, silent, worker', after, waits⟩
    · have own : (Label.worker w move).isMoveOf w = true := beq_self_eq_true w
      have inside := (List.getElem?_eq_some_iff.1 there).1
      obtain ⟨verdicts', onward⟩ := underway.advance step unfinished'
      rw [step.deedsOf_eq, own, if_pos rfl]
      exact ⟨worker', verdicts', List.getElem?_set_self inside, onward⟩
    · rw [silent, still, if_neg Bool.false_ne_true, List.append_nil, Counters.add_zero]
      exact ⟨worker', verdicts, after, underway.wait waits⟩

/-- Whether a step is a move of a worker whose loader and engine are given. -/
def Label.IsMoveWith (w : WorkerId) (loaded : Attempt Unit) (engine : Engine) : Label → Prop
  | .worker v (.finishLoading outcome) => v = w ∧ outcome = loaded
  | .worker v (.finishComputing model) => v = w ∧ model = engine
  | .worker v _ => v = w
  | _ => False

/-- A worker that does not wait for somebody to send can move. -/
theorem exists_move (loaded : Attempt Unit) (engine : Engine)
    (found : s.workers[w]? = some worker) (there : worker.isGone = false)
    (holds : ∀ batch, worker.phase = .computing batch → worker.held.isSome = true)
    (busy : worker.phase = .waiting → worker.queue ≠ []) :
    ∃ move outcome, (Label.worker w move).IsMoveWith w loaded engine ∧
      step settings s (.worker w move) = some outcome := by
  rcases worker_moves w there holds loaded engine with ⟨move, prompt, possible⟩ | ⟨waits, idle, -⟩
  · obtain ⟨outcome, moved⟩ := Option.isSome_iff_exists.1 possible
    refine ⟨move, outcome, ?_, by rw [step, found]; exact moved⟩
    cases move with
    | finishLoading | finishComputing => exact ⟨rfl, prompt⟩
    | unload => cases prompt
    | _ => rfl
  · exact absurd idle (busy waits)

/-- A worker that is underway with a batch can move. -/
theorem Underway.moves (loaded : Attempt Unit) (engine : Engine)
    (found : s.workers[w]? = some worker)
    (underway : Underway settings w before batch verdicts worker deeds gains) :
    ∃ move outcome, (Label.worker w move).IsMoveWith w loaded engine ∧
      step settings s (.worker w move) = some outcome := by
  refine exists_move loaded engine found ?_ ?_ ?_
  · cases underway.stage <;> simp [Worker.isGone, *]
  · cases underway.stage <;> simp [*]
  · cases underway.stage <;> simp [*]

/-- A worker that is underway with a batch finishes it by its own moves, whatever its loader and
its engine come back with. -/
theorem Underway.exists_finished (loaded : Attempt Unit) (engine : Engine)
    (found : s.workers[w]? = some worker)
    (underway : Underway settings w before batch verdicts worker deeds gains) :
    ∃ labels events t n, Run settings s labels events t ∧
      (∀ label ∈ labels, label.IsMoveWith w loaded engine) ∧ .finished w n ∈ events := by
  -- Every move leaves the worker less work.
  induction left : worker.work using Nat.strongRecOn generalizing s worker verdicts deeds gains with
  | ind left' ih =>
    subst left
    obtain ⟨move, ⟨t, events⟩, own, next⟩ := underway.moves loaded engine found
    rcases moves_or_waits (transition_of_step next) found with
      ⟨_, worker', counters, written, same, stepped, rfl⟩ | ⟨still, -⟩
    · cases same
      by_cases unfinished : ∀ n, .finished w n ∉ events
      · obtain ⟨verdicts', onward⟩ := underway.advance stepped unfinished
        have there : (s.afterWorker w worker' counters written).workers[w]? = some worker' :=
          List.getElem?_set_self (List.getElem?_eq_some_iff.1 found).1
        obtain ⟨labels, later, t, n, run, moves, finished⟩ :=
          ih worker'.work stepped.work_lt there onward rfl
        refine ⟨.worker w move :: labels, events ++ later, t, n, (Run.single next).trans run, ?_,
          List.mem_append_right _ finished⟩
        simpa using ⟨own, moves⟩
      · obtain ⟨n, finished⟩ := by simpa using unfinished
        exact ⟨_, _, _, n, Run.single next, by simpa using own, finished⟩
    · simp [Label.isMoveOf] at still

/-- What is known of a batch on which a worker began as `before` and which it has finished: the
verdicts on its requests, what was made of those that somebody waited for, and the worker
afterwards. -/
structure BatchAccount (settings : Settings) (s : State) (w : WorkerId) (before : Worker)
    (batch : List Request) (labels : List Label) (events : List Event) (t : State) (n : Nat)
    (verdicts : List (Request × Bool)) (served : Served) (after : Worker) : Prop where
  /-- Every request was looked at, in order. -/
  looked : verdicts.map Prod.fst = batch
  /-- A verdict says whether somebody could still collect the reply at that moment. -/
  truthful : ∀ verdict ∈ verdicts, ∃ early seen u later, Run settings s early seen u ∧
    events = seen ++ .checked w verdict.1 verdict.2 :: later ∧
    u.isOpen verdict.1.ticket = verdict.2
  /-- What was made of the requests that somebody waited for. -/
  serves : Serves settings w before (awaitedIn verdicts) served
  /-- Each of them has one reply, in order. -/
  replied : served.replies.map Prod.fst = awaitedIn verdicts
  /-- The worker says that it has answered as many. -/
  returned : n = (awaitedIn verdicts).length
  /-- The worker did nothing else, but perhaps broke off afterwards. -/
  deeds : ∃ ending, deedsOf w events = looks w verdicts ++ served.acts ++
    sends w served.replies ++ .finished w n :: ending ∧
    ∀ event ∈ ending, ∃ lost, event = .crashed w lost
  /-- The worker is there. -/
  found : t.workers[w]? = some after
  /-- It says about itself what it said before it replied. -/
  status : after.status = served.status
  /-- It has counted the requests as answered. -/
  answered : after.answered = before.answered + n
  /-- It waits with the model that it has kept, unless no clock can be set for it. -/
  held : after.phase = .waiting ∧ after.held = served.held ∨
    after.phase = .crashed ∧ ∃ held ∈ served.held, ∃ time ∈ settings.idleUnload,
      Labor.clockBound ≤ held.lastUse + time
  /-- What it has added to the counters. -/
  gains : Service.gains settings w s labels = served.gains
  /-- The totals have grown by that, if no other worker moved. -/
  totals : (∀ v move, .worker v move ∈ labels → v = w) →
    t.counters.totals = (s.counters + served.gains).totals
  /-- Every request that was answered is counted once. -/
  counted : served.gains.processed + served.gains.failed = UInt64.ofNat n

/-- A worker whose clock cannot be set holds a model that it is to let go too late. -/
theorem exists_of_not_clockFits (late : Labor.clockFits settings worker = false) :
    ∃ held ∈ worker.held, ∃ time ∈ settings.idleUnload,
      Labor.clockBound ≤ held.lastUse + time := by
  unfold Labor.clockFits at late
  split at late
  · rename_i held time holds asked
    exact ⟨held, holds, time, asked, by simpa using late⟩
  · cases late

/-- Finishing a batch leaves the counters as they are, and the worker waits or breaks off. -/
theorem finished_of_step {n : Nat}
    (step : WorkerStep settings s w worker move worker' counters written events)
    (finished : .finished w n ∈ events) :
    Done worker move n ∧ counters = s.counters ∧ worker'.status = worker.status ∧
      worker'.answered = worker.answered + n ∧
      (∃ ending, events = .finished w n :: ending ∧
        ∀ event ∈ ending, ∃ lost, event = .crashed w lost) ∧
      (worker'.phase = .waiting ∧ worker'.held = worker.held ∨
        worker'.phase = .crashed ∧ ∃ held ∈ worker.held, ∃ time ∈ settings.idleUnload,
          Labor.clockBound ≤ held.lastUse + time) := by
  cases step with
  | finish isDone fits =>
    obtain rfl : n = _ := by simpa using finished
    exact ⟨isDone, rfl, rfl, rfl, ⟨[], rfl, by simp⟩, .inl ⟨rfl, rfl⟩⟩
  | finishBroken isDone fits =>
    obtain rfl : n = _ := by simpa using finished
    exact ⟨isDone, rfl, rfl, rfl, ⟨_, rfl, by simp⟩, .inr ⟨rfl, exists_of_not_clockFits fits⟩⟩
  | stop => split at finished <;> simp at finished
  | _ => simp at finished

/-- A worker that has begun on a batch finishes it, whatever its loader and its engine come back
with. However callers and other workers move in between, it looks at all requests, passes over
those that nobody waits for, and sends one reply to each of the others, in order. If there are no
others it does nothing. Without a model all of them get the failure of the loader, and otherwise
the outcome in their place or the failure of the computation; only a model that breaks off is let
go. The worker counts every reply once, and a batch unless it had no model for it. -/
theorem batch_served (found : s.workers[w]? = some before)
    (begun : before.phase = .checking [] batch) :
    (∀ loaded engine, ∃ labels events t n, Run settings s labels events t ∧
      (∀ label ∈ labels, label.IsMoveWith w loaded engine) ∧ .finished w n ∈ events) ∧
    ∀ labels events u label t more n, Run settings s labels events u →
      (∀ m, .finished w m ∉ events) → step settings u label = some (t, more) →
      .finished w n ∈ more → ∃ verdicts served after,
        BatchAccount settings s w before batch (labels ++ [label]) (events ++ more) t n verdicts
          served after := by
  refine ⟨fun loaded engine => (underway_begin begun).exists_finished loaded engine found, ?_⟩
  intro labels events u label t more n run unfinished next finished
  obtain ⟨worker, verdicts, there, underway⟩ := underway_of_run found begun run unfinished
  have whole := run.step next
  obtain ⟨move, mover, after, counters, written, rfl, same, step, rfl⟩ :=
    workerStep_of_mem (transition_of_step next) finished rfl (by simp)
  rw [there] at same
  cases same
  obtain ⟨isDone, count, status, answered, ⟨ending, seen, crash⟩, phase⟩ :=
    finished_of_step step finished
  obtain ⟨served, looked, serves, returned, deeds, held, said, gained⟩ := underway.complete isDone
  have own : (Label.worker w move).isMoveOf w = true := beq_self_eq_true w
  have gains_eq : gains settings w s (labels ++ [.worker w move]) = served.gains := by
    rw [gains_step run next, own, if_pos rfl, State.afterWorker, count, Counters.sub_self,
      Counters.add_zero, gained]
  have deeds_eq : deedsOf w (events ++ more) = looks w verdicts ++ served.acts ++
      sends w served.replies ++ .finished w n :: ending := by
    rw [deedsOf_append, deeds, step.deedsOf_eq, seen]
  refine ⟨verdicts, served, after, ?_⟩
  constructor
  case looked => exact looked
  case truthful =>
    intro verdict member
    have deed : .checked w verdict.1 verdict.2 ∈ deedsOf w (events ++ more) := by
      rw [deeds_eq]
      simp only [List.mem_append, looks, List.mem_map]
      exact .inl (.inl (.inl ⟨verdict, member, rfl⟩))
    rw [mem_deedsOf rfl rfl] at deed
    obtain ⟨early, before', u', own, v, seen', rest, later, start, moved, inStep, -, split⟩ :=
      exists_step_of_mem whole deed
    obtain ⟨rfl, awaited⟩ := awaited_of_checked (transition_of_step moved) inStep
    exact ⟨early, before', u', later, start, by simpa using split, awaited⟩
  case serves => exact serves
  case replied => exact serves.map_fst
  case returned => exact returned
  case deeds => exact ⟨ending, deeds_eq, crash⟩
  case found => exact List.getElem?_set_self (List.getElem?_eq_some_iff.1 there).1
  case status => exact status.trans said
  case answered => rw [answered, underway.answered]
  case held =>
    rw [held] at phase
    exact phase
  case gains => exact gains_eq
  case totals =>
    intro alone
    rw [totals_eq_gains whole alone, gains_eq]
  case counted => rw [serves.processed_add_failed, returned]

/-- Two callers ask for a text each, the first one goes away, and a worker takes both requests. -/
def halfAwaited : List Label :=
  [.start, .embed 0 ["a"], .embed 1 ["b"]] ++ handIn 0 ++ handIn 1 ++
    [.caller 0 .leave, .worker 0 .take, .worker 0 .takeMore, .worker 0 .closeBatch]

/-- The worker loads its model and computes, and the computation breaks off. -/
def brokenBatch : List Label :=
  [.worker 0 .check, .worker 0 .check, .worker 0 .proceed, .worker 0 (.finishLoading (.done ())),
    .worker 0 (.finishComputing (fixedEngine .aborted)), .worker 0 .reply]

/-- Of two requests one is passed over, and the other one is told that the engine broke off. -/
theorem brokenBatch_served :
    ∃ s before batch events t verdicts served after, s.workers[0]? = some before ∧
      before.phase = .checking [] batch ∧ batch.length = 2 ∧
      BatchAccount inPairs s 0 before batch (brokenBatch ++ [.worker 0 .finishBatch]) events t 1
        verdicts served after := by
  obtain ⟨s, started, before, batch, events, u, t, reached, found, begun, two, run, unfinished,
      next⟩ : ∃ s started before batch events u t,
      Run inPairs (initial inPairs) halfAwaited started s ∧ s.workers[0]? = some before ∧
        before.phase = .checking [] batch ∧ batch.length = 2 ∧
        Run inPairs s brokenBatch events u ∧ (∀ m, .finished 0 m ∉ events) ∧
        step inPairs u (.worker 0 .finishBatch) = some (t, [.finished 0 1]) :=
    ⟨_, _, _, _, _, _, _, run_of_stepAll rfl, rfl, rfl, rfl, run_of_stepAll rfl, by simp, rfl⟩
  obtain ⟨verdicts, served, after, account⟩ := (batch_served found begun).2 _ _ _ _ _ _ 1 run
    unfinished next List.mem_cons_self
  exact ⟨s, before, batch, _, t, verdicts, served, after, found, begun, two, account⟩

end Matryoshka.Service
