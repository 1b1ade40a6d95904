import Matryoshka.Proofs.Service.Batches
import Matryoshka.Proofs.Service.Claims
import Matryoshka.Proofs.Service.Passages
import Matryoshka.Proofs.Service.Progress

/-!
# Models that nobody uses

A worker lets go of a model that nobody has used for some time. The moment that counts is the last
one at which the worker loaded a model or computed with it (`usesOf`), and every run ties it to the
model that is held (`lastUse_of_run`): looking at requests that nobody waits for is no use. Having
let go, a worker rests until it takes a request (`rests_of_run`), and it holds a model again only
if it has loaded one. As long as a worker with a model has a request it keeps the model
(`Retains.transition`), so requests that wait when the time is over are served without a new one.
-/

namespace Matryoshka.Service

/-! ## The use of models -/

/-- Whether a worker gets a model or computes with it. -/
def Event.isUse : Event → Bool
  | .loaded _ (.done ()) | .computed _ _ _ _ => true
  | _ => false

/-- When a worker uses a model in a step. -/
def Passage.uses (w : WorkerId) (passage : Passage) : List Time :=
  if (deedsOf w passage.seen).any Event.isUse then [passage.before.now] else []

/-- When a worker has used models, by the labels of a run. -/
def usesOf (w : WorkerId) (settings : Settings) (labels : List Label) : List Time :=
  along (Passage.uses w) settings labels

variable {settings : Settings} {s t u : State} {w : WorkerId} {worker worker' : Worker}
  {move : WorkerMove} {counters : Counters} {written : List (Ticket × Letter)}
  {events more : List Event} {label : Label} {labels : List Label}

/-- A step either uses a model, which then is the one that is held and was used now; or a model
that is held afterwards was held before, and was used when it was. -/
theorem WorkerStep.held_cases
    (step : WorkerStep settings s w worker move worker' counters written more) :
    more.any Event.isUse = true ∧ (∀ held ∈ worker'.held, held.lastUse = s.now) ∨
      more.any Event.isUse = false ∧ ∀ held ∈ worker'.held, worker.held = some held := by
  cases step with
  | loaded => exact .inl ⟨rfl, by simp⟩
  | compute_done => exact .inl ⟨rfl, by simp [Worker.computed]⟩
  | compute_failed => exact .inl ⟨rfl, by simp [Worker.computed]⟩
  | compute_aborted => exact .inl ⟨rfl, by simp [Worker.computed]⟩
  | loadFails phase fails => exact .inr ⟨by cases fails <;> rfl, fun _ same => same⟩
  | unload => exact .inr ⟨rfl, by simp⟩
  | breakOff => exact .inr ⟨rfl, by simp [Worker.broken]⟩
  | finishBroken => exact .inr ⟨rfl, by simp [Worker.broken]⟩
  | stop => exact .inr ⟨by split <;> rfl, by simp⟩
  | _ => exact .inr ⟨rfl, fun _ same => same⟩

/-- Nothing of what is seen of a model changes when a worker waits. -/
theorem WorkerWaits.held_eq (waits : WorkerWaits worker worker') : worker'.held = worker.held := by
  cases waits <;> rfl

/-- The moment that a worker remembers with its model is the last one at which it has used one. -/
theorem lastUse_of_run (run : Run settings (initial settings) labels events s)
    (found : s.workers[w]? = some worker) :
    ∀ held ∈ worker.held, (usesOf w settings labels).getLast? = some held.lastUse := by
  induction run generalizing worker with
  | none => simp [initial] at found
  | @step u v labels events more label before next ih =>
    have transition := transition_of_step next
    rw [usesOf, along_append _ before next, ← usesOf]
    rcases worker_of_transition transition found with ⟨-, rfl, -⟩ | ⟨worker', there, -⟩
    · simp
    · rcases moves_or_waits transition there with
        ⟨move, after, counters, written, rfl, step, rfl⟩ | ⟨still, silent, after, same, waits⟩
      · have inside := (List.getElem?_eq_some_iff.1 there).1
        have moved : (u.workers.set w after)[w]? = some after := List.getElem?_set_self inside
        obtain rfl : worker = after := Option.some.inj (found.symm.trans moved)
        intro held holds
        rcases step.held_cases with ⟨used, now⟩ | ⟨unused, kept⟩
        · simp [Passage.uses, step.deedsOf_eq, used, now held holds]
        · simpa [Passage.uses, step.deedsOf_eq, unused] using ih there held (kept held holds)
      · obtain rfl : worker = after := Option.some.inj (found.symm.trans same)
        rw [waits.held_eq]
        simpa [Passage.uses, silent] using ih there

/-- What a worker does that uses no model and will use none before it has found a request that
somebody waits for. -/
inductive Phase.Looking : Phase → Prop
  /-- It waits. -/
  | waiting : Looking .waiting
  /-- It gathers a batch. -/
  | gathering (batch : List Request) : Looking (.gathering batch)
  /-- It has found nobody so far who waits. -/
  | checking (rest : List Request) : Looking (.checking [] rest)
  /-- It has ended. -/
  | stopped : Looking .stopped
  /-- It broke off. -/
  | crashed : Looking .crashed

/-- As long as a worker finds nobody who waits it uses no model. -/
theorem WorkerStep.looking (looking : worker.phase.Looking)
    (step : WorkerStep settings s w worker move worker' counters written more)
    (nobody : ∀ request, .checked w request true ∉ more) :
    worker'.phase.Looking ∧ more.any Event.isUse = false := by
  cases step with
  | take => exact ⟨.gathering _, rfl⟩
  | breakOff => exact ⟨.crashed, rfl⟩
  | takeMore => exact ⟨.gathering _, rfl⟩
  | closeBatch => exact ⟨.checking _, rfl⟩
  | @check live rest request phase =>
    rw [phase] at looking
    cases looking
    have unawaited : s.isOpen request.ticket = false := by
      cases awaited : s.isOpen request.ticket with
      | true => exact absurd (awaited ▸ List.mem_singleton_self _) (nobody request)
      | false => rfl
    simp only [unawaited, Bool.false_eq_true, ↓reduceIte]
    exact ⟨.checking rest, rfl⟩
  | compute phase somebody =>
    rw [phase] at looking
    cases looking
    exact absurd rfl somebody
  | load phase somebody =>
    rw [phase] at looking
    cases looking
    exact absurd rfl somebody
  | finish => exact ⟨.waiting, rfl⟩
  | finishBroken => exact ⟨.crashed, rfl⟩
  | unload => exact ⟨looking, rfl⟩
  | stop => exact ⟨.stopped, by split <;> rfl⟩
  | loaded phase | loadFails phase | compute_done phase | compute_failed phase
  | compute_aborted phase | reply phase =>
    rw [phase] at looking
    cases looking

/-- As long as a worker does nothing that uses a model, nothing is added to its uses. -/
theorem usesOf_append {later : List Label} (run : Run settings (initial settings) labels events s)
    (onward : Run settings s later more t)
    (unused : (deedsOf w more).any Event.isUse = false) :
    usesOf w settings (labels ++ later) = usesOf w settings labels := by
  induction onward with
  | none => rw [List.append_nil]
  | @step u v later more seen label onward next ih =>
    simp only [deedsOf_append, List.any_append, Bool.or_eq_false_iff] at unused
    rw [← List.append_assoc, usesOf, along_append _ (run.trans onward) next, ← usesOf,
      ih unused.1, Passage.uses, unused.2, if_neg Bool.false_ne_true, List.append_nil]

/-- Batches of which nobody waits for any request are no use of a model. -/
theorem looking_of_run {later : List Label} (found : s.workers[w]? = some worker)
    (looking : worker.phase.Looking) (onward : Run settings s later more t) :
    ∃ worker', t.workers[w]? = some worker' ∧
      ((∀ request, Event.checked w request true ∉ deedsOf w more) →
        worker'.phase.Looking ∧ (deedsOf w more).any Event.isUse = false) := by
  refine deeds_later (motive := fun worker deeds =>
    (∀ request, Event.checked w request true ∉ deeds) →
      worker.phase.Looking ∧ deeds.any Event.isUse = false) ?_ ?_ onward found
    fun _ => ⟨looking, rfl⟩
  · intro worker worker' deeds before waits nobody
    cases waits <;> exact before nobody
  · intro s worker worker' move counters written deeds more before step nobody
    simp only [List.mem_append, not_or] at nobody
    obtain ⟨looks, unused⟩ := before fun request => (nobody request).1
    obtain ⟨looks', unused'⟩ := step.looking looks fun request => (nobody request).2
    exact ⟨looks', by rw [List.any_append, unused, unused', Bool.or_false]⟩

/-! ## Rest -/

/-- A worker that has let go of its model and has taken no request since: what it has done. -/
inductive Rests (w : WorkerId) (worker : Worker) : List Event → Prop
  /-- Nothing, and it waits. -/
  | waits (phase : worker.phase = .waiting) (without : worker.held = none) : Rests w worker []
  /-- It has ended. -/
  | ended (phase : worker.phase = .stopped) (without : worker.held = none) :
      Rests w worker [.stopped w]

/-- A worker at rest has set no clock. -/
theorem Rests.idleAt? {deeds : List Event} (rests : Rests w worker deeds) :
    Labor.idleAt? settings worker = none := by
  cases rests with
  | waits phase without => simp [Labor.idleAt?, phase, without]
  | ended phase without => simp [Labor.idleAt?, phase]

/-- A worker at rest only takes a request, or ends. -/
theorem Rests.step {deeds : List Event} (rests : Rests w worker deeds)
    (step : WorkerStep settings s w worker move worker' counters written more)
    (untaken : ∀ request, .taken w request ∉ more) : Rests w worker' (deeds ++ more) := by
  cases rests with
  | ended phase =>
    have there := step.isGone_eq
    rw [Worker.isGone, phase] at there
    cases there
  | waits phase without =>
    cases step with
    | take => exact absurd (List.mem_singleton_self _) (untaken _)
    | breakOff => exact absurd List.mem_cons_self (untaken _)
    | unload phase' holds =>
      rw [without] at holds
      cases holds
    | stop =>
      rw [without, Option.isSome_none, if_neg Bool.false_ne_true, List.nil_append]
      exact .ended rfl rfl
    | finish isDone => cases isDone <;> simp_all
    | finishBroken isDone => cases isDone <;> simp_all
    | _ => simp_all

/-- A worker at rest is still at rest when a request enters its queue. -/
theorem Rests.wait {deeds : List Event} (rests : Rests w worker deeds)
    (waits : WorkerWaits worker worker') : Rests w worker' deeds := by
  cases waits with
  | rest => exact rests
  | accept request =>
    cases rests with
    | waits phase without => exact .waits phase without
    | ended phase without => exact .ended phase without

/-- A worker that has let go of its model rests until it takes a request. -/
theorem rests_of_run {later : List Label} (found : s.workers[w]? = some worker)
    (rests : Rests w worker []) (onward : Run settings s later more t) :
    ∃ worker', t.workers[w]? = some worker' ∧
      ((∀ request, Event.taken w request ∉ deedsOf w more) → Rests w worker' (deedsOf w more)) := by
  refine deeds_later (motive := fun worker deeds =>
    (∀ request, Event.taken w request ∉ deeds) → Rests w worker deeds) ?_ ?_ onward found
    fun _ => rests
  · intro worker worker' deeds before waits untaken
    exact (before untaken).wait waits
  · intro s worker worker' move counters written deeds more before step untaken
    simp only [List.mem_append, not_or] at untaken
    exact (before fun request => (untaken request).1).step step fun request => (untaken request).2

/-- A step after which a worker holds a model that it did not hold loads the model. -/
theorem WorkerStep.loaded_of_held (without : worker.held = none)
    (step : WorkerStep settings s w worker move worker' counters written more) :
    worker'.held = none ∨ .loaded w (.done ()) ∈ more := by
  rcases step.held_cases with ⟨used, -⟩ | ⟨-, kept⟩
  · cases step with
    | loaded => exact .inr (List.mem_singleton_self _)
    | compute_done phase holds | compute_failed phase holds | compute_aborted phase holds =>
      rw [without] at holds
      cases holds
    | loadFails phase fails => cases fails <;> cases used
    | stop => split at used <;> cases used
    | _ => cases used
  · left
    cases holds : worker'.held with
    | none => rfl
    | some held => rw [without] at kept; cases kept held holds

/-- A worker that held no model and holds one later has loaded one. -/
theorem loaded_of_run {later : List Label} (found : s.workers[w]? = some worker)
    (without : worker.held = none) (onward : Run settings s later more t) :
    ∃ worker', t.workers[w]? = some worker' ∧
      (worker'.held = none ∨ Event.loaded w (.done ()) ∈ deedsOf w more) := by
  refine deeds_later (motive := fun worker deeds =>
    worker.held = none ∨ Event.loaded w (.done ()) ∈ deeds) ?_ ?_ onward found (.inl without)
  · intro worker worker' deeds before waits
    rwa [waits.held_eq]
  · intro s worker worker' move counters written deeds more before step
    rcases before with without | loaded
    · exact (step.loaded_of_held without).imp_right (List.mem_append_right _)
    · exact .inr (List.mem_append_left _ loaded)

/-! ## Requests that wait -/

/-- Whether a worker is done with a request, or cannot serve it with its model: it replies, nobody
waits for the request, its model broke off, or it breaks off itself. -/
def Event.EndsWait (w : WorkerId) (request : Request) : Event → Prop
  | .replied v other _ => v = w ∧ other = request
  | .checked v other awaited => v = w ∧ other = request ∧ awaited = false
  | .released v .aborted => v = w
  | .crashed v _ => v = w
  | _ => False

/-- Whether a worker asks for a model or lets go of one. -/
def Event.changesModel : Event → Bool
  | .loaded _ _ | .released _ _ => true
  | _ => false

/-- A worker that has a request and holds a model with a number, and has done nothing about models
so far. -/
structure Retains (request : Request) (number : Nat) (worker : Worker) (deeds : List Event) :
    Prop where
  /-- It still has the request. -/
  has : request ∈ worker.requests
  /-- It holds the model. -/
  holds : ∃ held ∈ worker.held, held.number = number
  /-- It is there. -/
  there : worker.isGone = false
  /-- It does not ask for a model. -/
  asks : ∀ batch, worker.phase ≠ .loading batch
  /-- It has neither asked for a model nor let go of one. -/
  unchanged : deeds.any Event.changesModel = false

variable {request : Request} {number : Nat} {deeds : List Event}

/-- A worker that has a request is done with it, or still has it, and keeps its model. -/
theorem Retains.step (retains : Retains request number worker deeds)
    (step : WorkerStep settings s w worker move worker' counters written more) :
    (∃ event ∈ more, event.EndsWait w request) ∨
      Retains request number worker' (deeds ++ more) := by
  have has := retains.has
  have keep (has' : request ∈ worker'.requests)
      (holds' : ∃ held ∈ worker'.held, held.number = number)
      (there' : worker'.isGone = false) (asks' : ∀ batch, worker'.phase ≠ .loading batch)
      (silent : more.any Event.changesModel = false) :
      (∃ event ∈ more, event.EndsWait w request) ∨
        Retains request number worker' (deeds ++ more) :=
    .inr ⟨has', holds', there', asks',
      by rw [List.any_append, retains.unchanged, silent, Bool.or_false]⟩
  cases step with
  | take phase waits =>
    exact keep (by simpa [Worker.requests, phase, waits, Phase.requests] using has) retains.holds
      rfl (by simp) rfl
  | breakOff => exact .inl ⟨_, List.mem_cons_of_mem _ List.mem_cons_self, rfl⟩
  | takeMore phase waits =>
    exact keep (by simpa [Worker.requests, phase, waits, Phase.requests] using has) retains.holds
      rfl (by simp) rfl
  | closeBatch phase =>
    exact keep (by simpa [Worker.requests, phase, Phase.requests] using has) retains.holds
      rfl (by simp) rfl
  | @check live rest first phase =>
    by_cases passed : first = request ∧ s.isOpen first.ticket = false
    · exact .inl ⟨_, List.mem_cons_self, rfl, passed⟩
    · refine keep ?_ retains.holds rfl (by simp) rfl
      rw [Worker.requests, phase] at has
      cases awaited : s.isOpen first.ticket with
      | true => simpa [Worker.requests, Phase.requests] using has
      | false =>
        have other : request ≠ first := fun same => passed ⟨same.symm, awaited⟩
        simpa [Worker.requests, Phase.requests, other] using has
  | compute phase =>
    exact keep (by simpa [Worker.requests, phase, Phase.requests] using has) retains.holds
      rfl (by simp) rfl
  | load phase somebody without =>
    obtain ⟨held, holds, -⟩ := retains.holds
    rw [without] at holds
    cases holds
  | loaded phase => exact absurd phase (retains.asks _)
  | loadFails phase => exact absurd phase (retains.asks _)
  | compute_done phase holds outcome =>
    have all := (Engine.answers_of_compute outcome).1
    rw [List.length_map] at all
    have same := retains.holds
    rw [holds] at same
    refine keep ?_ (by simpa [Worker.computed] using same) rfl (by simp [Worker.computed]) rfl
    simpa [Worker.requests, Worker.computed, phase, Phase.requests,
      List.map_fst_zip (Nat.le_of_eq all.symm)] using has
  | compute_failed phase holds =>
    have same := retains.holds
    rw [holds] at same
    refine keep ?_ (by simpa [Worker.computed] using same) rfl (by simp [Worker.computed]) rfl
    simpa [Worker.requests, Worker.computed, phase, Phase.requests, Labor.failAll,
      Function.comp_def] using has
  | compute_aborted => exact .inl ⟨_, List.mem_cons_of_mem _ List.mem_cons_self, rfl⟩
  | @reply first outcome replies counted size phase =>
    by_cases own : first = request
    · exact .inl ⟨_, List.mem_cons_self, rfl, own⟩
    · refine keep ?_ retains.holds rfl (by simp) rfl
      rw [Worker.requests, phase] at has
      simpa [Worker.requests, Phase.requests, Ne.symm own] using has
  | finish isDone =>
    rw [isDone.requests_eq] at has
    exact keep has retains.holds rfl (by simp) rfl
  | finishBroken => exact .inl ⟨_, List.mem_cons_of_mem _ List.mem_cons_self, rfl⟩
  | unload phase holds asked due idle =>
    simp [Worker.requests, phase, idle, Phase.requests] at has
  | stop phase idle => simp [Worker.requests, phase, idle, Phase.requests] at has

/-- As long as a worker is not done with a request it still has it, and keeps its model. -/
theorem retains_of_run {later : List Label} (found : s.workers[w]? = some worker)
    (retains : Retains request number worker []) (onward : Run settings s later more t) :
    ∃ worker', t.workers[w]? = some worker' ∧
      ((∃ event ∈ deedsOf w more, event.EndsWait w request) ∨
        Retains request number worker' (deedsOf w more)) := by
  refine deeds_later (motive := fun worker deeds =>
    (∃ event ∈ deeds, event.EndsWait w request) ∨ Retains request number worker deeds) ?_ ?_ onward
    found (.inr retains)
  · intro worker worker' deeds before waits
    refine before.imp_right fun retains => ?_
    cases waits with
    | rest => exact retains
    | accept other =>
      have has : request ∈ worker.phase.requests ++ (worker.queue ++ [other]) := by
        rw [← List.append_assoc]
        exact List.mem_append_left _ retains.has
      exact ⟨has, retains.holds, retains.there, retains.asks, retains.unchanged⟩
  · intro s worker worker' move counters written deeds more before step
    have later : (∃ event ∈ more, event.EndsWait w request) →
        ∃ event ∈ deeds ++ more, event.EndsWait w request :=
      fun ⟨event, member, ends⟩ => ⟨event, List.mem_append_right _ member, ends⟩
    rcases before with ⟨event, member, ends⟩ | retains
    · exact .inl ⟨event, List.mem_append_left _ member, ends⟩
    · exact (retains.step step).imp_left later

/-- A worker gets done with a request that it has by its own moves. -/
theorem Retains.exists_ended (loaded : Attempt Unit) (engine : Engine)
    (found : s.workers[w]? = some worker) (retains : Retains request number worker deeds) :
    ∃ later more t, Run settings s later more t ∧
      (∀ label ∈ later, label.IsMoveWith w loaded engine) ∧
      ∃ event ∈ more, event.EndsWait w request := by
  -- Every move leaves the worker less work.
  induction left : worker.work using Nat.strongRecOn generalizing s worker deeds with
  | ind left' ih =>
    subst left
    have holds : worker.held.isSome = true := by
      obtain ⟨held, holds, -⟩ := retains.holds
      exact Option.isSome_iff_exists.2 ⟨held, holds⟩
    have busy (waiting : worker.phase = .waiting) : worker.queue ≠ [] := by
      intro idle
      simpa [Worker.requests, waiting, idle, Phase.requests] using retains.has
    obtain ⟨move, ⟨t, more⟩, own, next⟩ :=
      exists_move loaded engine found retains.there (fun _ _ => holds) busy
    rcases moves_or_waits (transition_of_step next) found with
      ⟨_, worker', counters, written, same, step, rfl⟩ | ⟨still, -⟩
    · cases same
      rcases retains.step step with ended | retains'
      · exact ⟨_, _, _, Run.single next, by simpa using own, ended⟩
      · have there : (s.afterWorker w worker' counters written).workers[w]? = some worker' :=
          List.getElem?_set_self (List.getElem?_eq_some_iff.1 found).1
        obtain ⟨later, rest, t, onward, moves, event, member, ends⟩ :=
          ih worker'.work step.work_lt there retains' rfl
        exact ⟨_, _, t, (Run.single next).trans onward, by simpa using ⟨own, moves⟩,
          event, List.mem_append_right _ member, ends⟩
    · simp [Label.isMoveOf] at still

/-! ## Letting go of idle models -/

/-- What is known of a step in which a worker lets go of a model because nobody used it, after a
run with some labels. -/
structure IdleUnload (settings : Settings) (labels : List Label) (s : State) (w : WorkerId)
    (label : Label) (t : State) (more : List Event) : Prop where
  /-- The worker does nothing else. -/
  alone : label = .worker w .unload ∧ more = [.released w .idle]
  /-- It waited with an empty queue and a model that it had not used for as long as was asked. -/
  idle : ∃ worker held time, s.workers[w]? = some worker ∧ worker.phase = .waiting ∧
    worker.queue = [] ∧ worker.held = some held ∧ settings.idleUnload = some time ∧
    (usesOf w settings labels).getLast? = some held.lastUse ∧ held.lastUse + time ≤ s.now
  /-- It is counted once. -/
  counted : t.counters = { s.counters with idleUnloads := s.counters.idleUnloads + 1 }
  /-- Until it takes a request it waits without a clock, or ends, and does nothing else. -/
  rests : ∀ later rest u, Run settings t later rest u → (∀ request, .taken w request ∉ rest) →
    ∃ worker, u.workers[w]? = some worker ∧ Rests w worker (deedsOf w rest) ∧
      Labor.idleAt? settings worker = none
  /-- Before it does so again it loads a model. -/
  reloads : ∀ later rest u next v seen, Run settings t later rest u →
    step settings u next = some (v, seen) → .released w .idle ∈ seen →
    .loaded w (.done ()) ∈ rest

/-- What is known of a worker that holds a model and has a request. -/
structure Serving (settings : Settings) (s : State) (w : WorkerId) (request : Request)
    (number : Nat) : Prop where
  /-- It gets done with the request by its own moves, whatever its loader and its engine come back
  with. -/
  ends : ∀ loaded engine, ∃ later rest u, Run settings s later rest u ∧
    (∀ label ∈ later, label.IsMoveWith w loaded engine) ∧ ∃ event ∈ rest, event.EndsWait w request
  /-- Until then it has the request and keeps its model, and asks for no other. -/
  retains : ∀ later rest u, Run settings s later rest u →
    (∀ event ∈ rest, ¬ event.EndsWait w request) →
    ∃ worker, u.workers[w]? = some worker ∧ Retains request number worker (deedsOf w rest)

/-- An event that ends the wait for a request is a deed of the worker. -/
theorem Event.EndsWait.mem_deedsOf {event : Event} (ends : event.EndsWait w request) :
    event ∈ deedsOf w events ↔ event ∈ events := by
  refine Service.mem_deedsOf ?_ ?_
  · unfold Event.EndsWait at ends
    split at ends <;> simp_all [Event.worker?]
  · unfold Event.EndsWait at ends
    split at ends <;> simp_all [Event.isDeed]

/-- A step in which a worker lets go of a model that nobody used is nothing else. -/
theorem idleUnload_of_step (run : Run settings (initial settings) labels events s)
    (next : step settings s label = some (t, more)) (member : .released w .idle ∈ more) :
    IdleUnload settings labels s w label t more := by
  obtain ⟨move, worker, worker', counters, written, rfl, found, step, rfl⟩ :=
    workerStep_of_mem (transition_of_step next) member rfl (by simp)
  have inside := (List.getElem?_eq_some_iff.1 found).1
  cases step with
  | @unload held time phase holds asked due idle sender =>
    have found' : (s.afterWorker w { worker with held := none, status := .unloaded }
        s.counters.addIdleUnload []).workers[w]? =
          some { worker with held := none, status := .unloaded } := List.getElem?_set_self inside
    constructor
    case alone => exact ⟨rfl, rfl⟩
    case idle =>
      exact ⟨worker, held, time, found, phase, idle, holds, asked,
        lastUse_of_run run found held holds, due⟩
    case counted => rfl
    case rests =>
      intro later rest u onward untaken
      obtain ⟨after, there, law⟩ := rests_of_run found' (.waits phase rfl) onward
      have rests := law fun request => (mem_deedsOf rfl rfl).not.2 (untaken request)
      exact ⟨after, there, rests, rests.idleAt?⟩
    case reloads =>
      intro later rest u label v seen onward again member'
      obtain ⟨before, there, law⟩ := loaded_of_run found' rfl onward
      obtain ⟨move, holder, after, counters, written, rfl, same, step, -⟩ :=
        workerStep_of_mem (transition_of_step again) member' rfl (by simp)
      obtain rfl : before = holder := Option.some.inj (there.symm.trans same)
      rcases law with without | loaded
      · cases step with
        | unload phase holds =>
          rw [without] at holds
          cases holds
        | stop => split at member' <;> simp at member'
        | _ => simp at member'
      · exact (mem_deedsOf rfl rfl).1 loaded
  | stop => split at member <;> simp at member
  | _ => simp at member

/-- A worker that has a request and a model serves the request with this model. -/
theorem serving_of_run (run : Run settings (initial settings) labels events s)
    (found : s.workers[w]? = some worker) {held : Held} (holds : worker.held = some held)
    (has : request ∈ worker.requests) : Serving settings s w request held.number := by
  have fits := (lifecycle_of_run run found).fits
  have there : worker.isGone = false ∧ ∀ batch, worker.phase ≠ .loading batch := by
    unfold Worker.StatusFits at fits
    cases phase : worker.phase <;> rw [phase] at fits <;> simp_all [Worker.isGone]
  have retains : Retains request held.number worker [] :=
    ⟨has, ⟨held, holds, rfl⟩, there.1, there.2, rfl⟩
  constructor
  case ends => exact fun loaded engine => retains.exists_ended loaded engine found
  case retains =>
    intro later rest u onward waits
    obtain ⟨worker', there', law⟩ := retains_of_run found retains onward
    refine ⟨worker', there', law.resolve_left ?_⟩
    rintro ⟨event, member, ends⟩
    exact waits event (ends.mem_deedsOf.1 member) ends

/-- A worker lets go of a model as idle only when it waits with an empty queue and has neither
loaded the model nor computed with it for the time that was asked for; then it rests, without a
clock, until it takes a request, and loads a model before it does so again. All of this is counted,
and nothing of it happens if no time was asked for. Batches of which nobody waits for any request
do not count as use. A request that a worker has while it holds a model is served with this model:
until the worker is done with the request it keeps the model and asks for no other. -/
theorem unload_only_idle (run : Run settings (initial settings) labels events s) :
    (∀ w label t more, step settings s label = some (t, more) → .released w .idle ∈ more →
      IdleUnload settings labels s w label t more) ∧
    s.counters.idleUnloads = UInt64.ofNat (releasesIn .idle events) ∧
    (settings.idleUnload = none → ∀ w, .released w .idle ∉ events) ∧
    ∀ w worker, s.workers[w]? = some worker →
      (∀ held ∈ worker.held, (usesOf w settings labels).getLast? = some held.lastUse) ∧
      (worker.phase = .waiting → ∀ later rest u, Run settings s later rest u →
        (∀ request, .checked w request true ∉ rest) →
        usesOf w settings (labels ++ later) = usesOf w settings labels) ∧
      ∀ held ∈ worker.held, ∀ request ∈ worker.requests,
        Serving settings s w request held.number := by
  refine ⟨fun w label t more => idleUnload_of_step run, (modelsCounted_of_run run).idle_eq, ?_, ?_⟩
  · intro never w member
    obtain ⟨early, before, u, label, v, more, rest, after, start, next, inStep, -, -⟩ :=
      exists_step_of_mem run member
    obtain ⟨worker, held, time, -, -, -, -, asked, -⟩ := (idleUnload_of_step start next inStep).idle
    rw [never] at asked
    cases asked
  · intro w worker found
    refine ⟨lastUse_of_run run found, ?_, ?_⟩
    · intro waiting later rest u onward nobody
      obtain ⟨worker', -, law⟩ := looking_of_run found (waiting ▸ .waiting) onward
      exact usesOf_append run onward
        (law fun request => (mem_deedsOf rfl rfl).not.2 (nobody request)).2
    · exact fun held holds request has => serving_of_run run found holds has

/-- Settings by which a model that nobody uses is let go soon. -/
def brief : Settings := { mockSettings 0 7 with idleUnload := some 5, idleUnload_pos := by simp }

/-- A worker serves one request, and then nothing comes for a while. -/
def servedOnce : List Label :=
  [.start, .embed 0 ["a"]] ++ handIn 0 ++ loadAndCompute (.failed (.compute "mock" .injected)) ++
    [.pass 5]

/-- The model is let go then, and this is counted. -/
theorem servedOnce_idle :
    ∃ events s t, Run brief (initial brief) servedOnce events s ∧
      IdleUnload brief servedOnce s 0 (.worker 0 .unload) t [.released 0 .idle] ∧
      t.counters.idleUnloads = 1 := by
  obtain ⟨events, s, t, run, next, none⟩ : ∃ events s t,
      Run brief (initial brief) servedOnce events s ∧
        step brief s (.worker 0 .unload) = some (t, [.released 0 .idle]) ∧
        s.counters.idleUnloads = 0 :=
    ⟨_, _, _, run_of_stepAll rfl, rfl, rfl⟩
  have unload := (unload_only_idle run).1 _ _ _ _ next (List.mem_singleton_self _)
  refine ⟨events, s, t, run, unload, ?_⟩
  rw [unload.counted, none]
  rfl

end Matryoshka.Service
