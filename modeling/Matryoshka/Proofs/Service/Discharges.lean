import Matryoshka.Proofs.Service.Fates
import Matryoshka.Proofs.Service.Tally

/-!
# How workers dispose of requests

A worker disposes of a request by replying to it, by passing over it when nobody waits for it, or by
losing it when it breaks off (`dischargesIn`). Every request that was accepted is with a worker, or
was disposed of, once (`discharges_of_run`). The letter of a request that was disposed of is there
until the wait for it ends (`letter_of_discharge`), and a request is passed over only after the wait
for it has ended without a letter (`fate_of_passedOver`).
-/

namespace Matryoshka.Service

/-- The requests that workers dispose of, each with its letter; one that is passed over has none. -/
def dischargesIn (events : List Event) : List (Request × Option Letter) :=
  events.flatMap fun
    | .replied _ request outcome => [(request, some (.reply outcome))]
    | .checked _ request false => [(request, none)]
    | .crashed _ lost => lost.map fun request => (request, some .lost)
    | _ => []

variable {settings : Settings} {s t : State} {labels : List Label} {label : Label}
  {events more : List Event}

/-- Requests are disposed of in order. -/
theorem dischargesIn_append (events more : List Event) :
    dischargesIn (events ++ more) = dischargesIn events ++ dischargesIn more :=
  List.flatMap_append ..

/-- Remembering disposes of nothing. -/
theorem dischargesIn_rememberEvents (text : String) (outcome : ItemOutcome) :
    dischargesIn (rememberEvents settings text outcome) = [] := by
  cases outcome <;> rfl

/-- Replying disposes of a request. -/
theorem replied_iff {request : Request} {outcome : ItemOutcome} :
    (request, some (.reply outcome)) ∈ dischargesIn events ↔
      ∃ w, .replied w request outcome ∈ events := by
  constructor
  · intro disposed
    obtain ⟨event, seen, own⟩ := List.mem_flatMap.1 disposed
    cases event with
    | replied w other result =>
      cases List.mem_singleton.1 own
      exact ⟨w, seen⟩
    | checked w other awaited => cases awaited <;> simp at own
    | crashed w lost => simp at own
    | _ => cases own
  · rintro ⟨w, seen⟩
    exact List.mem_flatMap.2 ⟨_, seen, List.mem_singleton_self _⟩

/-! ## Every request is disposed of once -/

/-- Requests that are lost are disposed of with the letters that say so. -/
theorem lostLetters_eq (requests : List Request) :
    lostLetters requests = (requests.map fun request => (request, some Letter.lost)).filterMap
      fun discharge => discharge.2.map fun letter => (discharge.1.ticket, letter) := by
  simp only [lostLetters, List.filterMap_map, Function.comp_def, Option.map_some,
    List.filterMap_eq_map']

section Labor

variable {w : WorkerId} {worker worker' : Worker} {move : WorkerMove} {counters : Counters}
  {written : List (Ticket × Letter)}
  (step : WorkerStep settings s w worker move worker' counters written more)
include step

/-- A worker that moves keeps its requests or disposes of them. -/
theorem WorkerStep.discharges_eq (p : Request → Bool) :
    worker'.requests.countP p + (dischargesIn more).countP (fun discharge => p discharge.1) =
      worker.requests.countP p := by
  have kept (none : dischargesIn more = []) (same : worker.requests = worker'.requests) :
      worker'.requests.countP p + (dischargesIn more).countP (fun discharge => p discharge.1) =
        worker.requests.countP p := by rw [none, same]; rfl
  cases step with
  | take phase waits => exact kept rfl (by simp [Worker.requests, phase, waits, Phase.requests])
  | breakOff phase waits =>
    simp [Worker.requests, phase, waits, Phase.requests, Worker.broken, dischargesIn,
      List.countP_cons, List.countP_map, Function.comp_def]
  | takeMore phase waits => exact kept rfl (by simp [Worker.requests, phase, waits, Phase.requests])
  | closeBatch phase => exact kept rfl (by simp [Worker.requests, phase, Phase.requests])
  | @check live rest request phase =>
    have all : worker.requests = live ++ request :: rest ++ worker.queue := by
      rw [Worker.requests, phase, Phase.requests]
    rw [all]
    generalize s.isOpen request.ticket = awaited
    cases awaited with
    | true => simp [Worker.requests, Phase.requests, dischargesIn]
    | false =>
      simp only [Worker.requests, Phase.requests, dischargesIn, List.flatMap_cons,
        List.flatMap_nil, List.countP_append, countP_cons_toNat, List.countP_nil,
        Bool.false_eq_true, ↓reduceIte]
      omega
  | compute phase => exact kept rfl (by simp [Worker.requests, phase, Phase.requests])
  | load phase => exact kept rfl (by simp [Worker.requests, phase, Phase.requests])
  | loaded phase => exact kept rfl (by simp [Worker.requests, phase, Phase.requests])
  | loadFails phase =>
    exact kept rfl (by
      simp [Worker.requests, phase, Phase.requests, Labor.failAll, Function.comp_def])
  | compute_done phase holds outcome =>
    have same := (Engine.answers_of_compute outcome).1
    rw [List.length_map] at same
    refine kept rfl ?_
    simp only [Worker.requests, Worker.computed, phase, Phase.requests]
    rw [List.map_fst_zip (Nat.le_of_eq same.symm)]
  | compute_failed phase =>
    exact kept rfl (by
      simp [Worker.requests, Worker.computed, phase, Phase.requests, Labor.failAll,
        Function.comp_def])
  | compute_aborted phase =>
    exact kept rfl (by
      simp [Worker.requests, Worker.computed, phase, Phase.requests, Labor.failAll,
        Function.comp_def])
  | reply phase =>
    simp only [Worker.requests, phase, Phase.requests, dischargesIn, List.flatMap_cons,
      List.flatMap_nil, List.countP_append, List.map_cons, countP_cons_toNat, List.countP_nil]
    omega
  | finish isDone =>
    rw [isDone.requests_eq]
    rfl
  | finishBroken isDone =>
    rw [isDone.requests_eq]
    simp [Worker.requests, Phase.requests, Worker.broken, dischargesIn, List.countP_map,
      Function.comp_def]
  | unload phase => exact kept rfl (by simp [Worker.requests, phase, Phase.requests])
  | stop phase =>
    refine kept ?_ (by simp [Worker.requests, phase, Phase.requests])
    split <;> rfl

/-- A worker writes the letters of the requests that it disposes of. -/
theorem WorkerStep.written_eq :
    written = (dischargesIn more).filterMap fun discharge =>
      discharge.2.map fun letter => (discharge.1.ticket, letter) := by
  cases step with
  | breakOff =>
    rw [lostLetters_eq, dischargesIn, List.flatMap_cons, List.flatMap_singleton]
    rfl
  | finishBroken =>
    rw [lostLetters_eq, dischargesIn, List.flatMap_cons, List.flatMap_singleton]
    rfl
  | @check live rest request phase => cases awaited : s.isOpen request.ticket <;> rfl
  | stop => split <;> rfl
  | _ => rfl

end Labor

/-- How many requests with a property the workers have. -/
def withWorkers (s : State) (p : Request → Bool) : Nat :=
  (s.workers.map fun worker => worker.requests.countP p).sum

/-- A step disposes of requests that a worker had, and a request that is accepted is with a
worker. -/
theorem discharges_of_transition (transition : Transition settings s label t more)
    (p : Request → Bool) :
    withWorkers t p + (dischargesIn more).countP (fun discharge => p discharge.1) =
      withWorkers s p + (acceptedIn more).countP p := by
  cases transition with
  | start => simp [withWorkers, Worker.requests, Phase.requests, dischargesIn, acceptedIn]
  | caller found step =>
    cases step with
    | @send w request worker sending there =>
      have sum := sum_map_set (fun worker => worker.requests.countP p) there
        { worker with queue := worker.queue ++ [request] }
      simp only [Worker.requests, List.countP_append, countP_cons_toNat, List.countP_nil] at sum
      simp only [withWorkers, Worker.requests, List.countP_append, dischargesIn, acceptedIn,
        List.flatMap_cons, List.flatMap_nil, List.filterMap_cons, List.filterMap_nil,
        countP_cons_toNat, List.countP_nil]
      omega
    | receive =>
      rw [acceptedIn_receive]
      split
      · rw [dischargesIn_rememberEvents]
        rfl
      · rfl
    | _ => rfl
  | receiveLate =>
    rw [acceptedIn_rememberEvents, dischargesIn_rememberEvents]
    rfl
  | @worker w move worker worker' _ _ _ found step =>
    have sum := sum_map_set (fun worker => worker.requests.countP p) found worker'
    have own := step.discharges_eq p
    rw [step.acceptedIn_eq, List.countP_nil]
    simp only [withWorkers, State.afterWorker]
    omega
  | _ => rfl

/-- In every run, each request that was accepted is with a worker or was disposed of, once. -/
theorem discharges_of_run (run : Run settings (initial settings) labels events s)
    (p : Request → Bool) :
    withWorkers s p + (dischargesIn events).countP (fun discharge => p discharge.1) =
      (acceptedIn events).countP p := by
  induction run with
  | none => rfl
  | @step u v labels events more label before next ih =>
    have change := discharges_of_transition (transition_of_step next) p
    rw [dischargesIn_append, List.countP_append, acceptedIn, List.filterMap_append,
      List.countP_append, ← acceptedIn, ← acceptedIn]
    omega

/-- What was disposed of in a run was accepted. -/
theorem accepted_of_discharge (run : Run settings (initial settings) labels events s)
    {request : Request} {letter : Option Letter}
    (member : (request, letter) ∈ dischargesIn events) : request ∈ acceptedIn events := by
  have all := discharges_of_run run fun other => other == request
  have disposed : 0 < (dischargesIn events).countP fun discharge => discharge.1 == request :=
    List.countP_pos_iff.2 ⟨_, member, BEq.rfl⟩
  have accepted : 0 < (acceptedIn events).countP fun other => other == request := by omega
  obtain ⟨other, there, same⟩ := List.countP_pos_iff.1 accepted
  exact eq_of_beq same ▸ there

/-- Of items with a property there is only one if the property is met once. -/
theorem eq_of_countP_le_one {α : Type} {p : α → Bool} {items : List α} {one other : α}
    (once : items.countP p ≤ 1) (first : one ∈ items) (second : other ∈ items)
    (own : p one = true) (too : p other = true) : one = other := by
  rw [List.countP_eq_length_filter] at once
  have firstOf : one ∈ items.filter p := List.mem_filter.2 ⟨first, own⟩
  have secondOf : other ∈ items.filter p := List.mem_filter.2 ⟨second, too⟩
  have one := Nat.le_antisymm once (List.length_pos_of_mem firstOf)
  obtain ⟨item, only⟩ := List.length_eq_one_iff.1 one
  rw [only, List.mem_singleton] at firstOf secondOf
  rw [firstOf, secondOf]

/-- No request is disposed of twice. -/
theorem discharge_eq (run : Run settings (initial settings) labels events s)
    {one other : Request × Option Letter} (first : one ∈ dischargesIn events)
    (second : other ∈ dischargesIn events) (same : one.1.ticket = other.1.ticket) :
    one = other := by
  have all := discharges_of_run run fun request => request.ticket == other.1.ticket
  have accepted := accepted_le_one run other.1.ticket
  exact eq_of_countP_le_one (p := fun discharge => discharge.1.ticket == other.1.ticket)
    (by omega) first second (beq_iff_eq.2 same) BEq.rfl

/-! ## Letters -/

/-- A request is disposed of when a worker moves. -/
theorem workerStep_of_discharge {discharge : Request × Option Letter}
    (transition : Transition settings s label t more) (member : discharge ∈ dischargesIn more) :
    ∃ w move worker worker' counters written,
      WorkerStep settings s w worker move worker' counters written more ∧
        t = s.afterWorker w worker' counters written := by
  obtain ⟨event, seen, own⟩ := List.mem_flatMap.1 member
  obtain ⟨w, about, moves⟩ : ∃ w, event.worker? = some w ∧
      ∀ request, event ≠ .accepted w request := by
    cases event <;> simp_all [Event.worker?]
  obtain ⟨move, worker, worker', counters, written, -, -, step, after⟩ :=
    workerStep_of_mem transition seen about moves
  exact ⟨w, move, worker, worker', counters, written, step, after⟩

/-- A letter is there after a step because it was there before, or because its request was disposed
of. -/
theorem letters_new (transition : Transition settings s label t more) {entry : Ticket × Letter}
    (member : entry ∈ t.letters) : entry ∈ s.letters ∨
      ∃ request, request.ticket = entry.1 ∧ (request, some entry.2) ∈ dischargesIn more := by
  cases transition with
  | caller found step =>
    cases step with
    | receive => exact .inl (List.mem_filter.1 member).1
    | leave => exact .inl (List.mem_filter.1 member).1
    | _ => exact .inl member
  | receiveLate => exact .inl (List.mem_filter.1 member).1
  | worker found step =>
    rcases List.mem_append.1 member with before | new
    · exact .inl before
    · have written := (List.mem_filter.1 new).1
      rw [step.written_eq] at written
      obtain ⟨⟨request, letter?⟩, disposed, own⟩ := List.mem_filterMap.1 written
      obtain ⟨letter, rfl, rfl⟩ := Option.map_eq_some_iff.1 own
      exact .inr ⟨request, rfl, disposed⟩
  | _ => exact .inl member

/-- The letter of a request that is disposed of is written if somebody waits for it. -/
theorem letter_of_discharge_of_isOpen (transition : Transition settings s label t more)
    {request : Request} {letter : Letter} (member : (request, some letter) ∈ dischargesIn more)
    (awaited : s.isOpen request.ticket = true) : (request.ticket, letter) ∈ t.letters := by
  obtain ⟨w, move, worker, worker', counters, written, step, rfl⟩ :=
    workerStep_of_discharge transition member
  refine List.mem_append_right _ (List.mem_filter.2 ⟨?_, awaited⟩)
  rw [step.written_eq]
  exact List.mem_filterMap.2 ⟨_, member, rfl⟩

/-- A request is passed over if nobody waits for it. -/
theorem isOpen_of_passedOver (transition : Transition settings s label t more) {request : Request}
    (member : (request, none) ∈ dischargesIn more) : s.isOpen request.ticket = false := by
  obtain ⟨w, move, worker, worker', counters, written, step, rfl⟩ :=
    workerStep_of_discharge transition member
  cases step with
  | @check live rest other phase =>
    cases awaited : s.isOpen other.ticket with
    | true => simp [dischargesIn, awaited] at member
    | false =>
      obtain rfl : request = other := by simpa [dischargesIn, awaited] using member
      exact awaited
  | stop => split at member <;> simp [dischargesIn] at member
  | _ => simp [dischargesIn] at member

/-- In every run, a letter that is there was written when its request was disposed of. -/
theorem discharge_of_letter (run : Run settings (initial settings) labels events s)
    {entry : Ticket × Letter} (member : entry ∈ s.letters) :
    ∃ request, request.ticket = entry.1 ∧ (request, some entry.2) ∈ dischargesIn events := by
  induction run with
  | none => cases member
  | step before next ih =>
    rw [dischargesIn_append]
    rcases letters_new (transition_of_step next) member with there | ⟨request, own, disposed⟩
    · obtain ⟨request, own, disposed⟩ := ih there
      exact ⟨request, own, List.mem_append_left _ disposed⟩
    · exact ⟨request, own, List.mem_append_right _ disposed⟩

/-- In every run, the letter with which a wait has ended was written when its request was disposed
of. -/
theorem discharge_of_fate (run : Run settings (initial settings) labels events s)
    {ticket : Ticket} {fate : Fate} {letter : Letter}
    (member : (ticket, fate) ∈ fatesOf settings labels) (own : fate.letter? = some letter) :
    ∃ request, request.ticket = ticket ∧ (request, some letter) ∈ dischargesIn events := by
  induction run with
  | none => cases member
  | step before next ih =>
    rw [fatesOf, along_append _ before next] at member
    rw [dischargesIn_append]
    rcases List.mem_append.1 member with earlier | new
    · obtain ⟨request, same, disposed⟩ := ih earlier
      exact ⟨request, same, List.mem_append_left _ disposed⟩
    · obtain ⟨request, same, disposed⟩ :=
        discharge_of_letter before (letter_of_fate (transition_of_step next) new own)
      exact ⟨request, same, List.mem_append_left _ disposed⟩

/-- A request that is disposed of in a step was accepted before. -/
theorem accepted_before_discharge (run : Run settings (initial settings) labels events s)
    (next : step settings s label = some (t, more)) {request : Request} {letter : Option Letter}
    (member : (request, letter) ∈ dischargesIn more) : request ∈ acceptedIn events := by
  obtain ⟨w, move, worker, worker', counters, written, step, -⟩ :=
    workerStep_of_discharge (transition_of_step next) member
  have all : (request, letter) ∈ dischargesIn (events ++ more) := by
    rw [dischargesIn_append]
    exact List.mem_append_right _ member
  have accepted := accepted_of_discharge (run.step next) all
  rw [acceptedIn, List.filterMap_append, ← acceptedIn, ← acceptedIn, step.acceptedIn_eq,
    List.append_nil] at accepted
  exact accepted

/-- A request that was accepted is waited for exactly if the wait for it has not ended. -/
theorem isOpen_iff_of_accepted (run : Run settings (initial settings) labels events s)
    {request : Request} (accepted : request ∈ acceptedIn events) :
    s.isOpen request.ticket = true ↔
      (fatesOf settings labels).countP (fun fate => fate.1 == request.ticket) = 0 := by
  have all := claims_of_run run request.ticket
  have most := accepted_le_one run request.ticket
  have least : 0 < (acceptedIn events).countP fun other => other.ticket == request.ticket :=
    List.countP_pos_iff.2 ⟨request, accepted, BEq.rfl⟩
  rw [isOpen_iff]
  omega

/-- In every run, the letter of a request that was disposed of is there until the wait for it
ends. -/
theorem letter_of_discharge (run : Run settings (initial settings) labels events s)
    {request : Request} {letter : Letter} (member : (request, some letter) ∈ dischargesIn events)
    (waits : (fatesOf settings labels).countP (fun fate => fate.1 == request.ticket) = 0) :
    (request.ticket, letter) ∈ s.letters := by
  induction run with
  | none => cases member
  | @step u v labels events more label before next ih =>
    rw [fatesOf, along_append _ before next, List.countP_append, ← fatesOf,
      Nat.add_eq_zero_iff] at waits
    rw [dischargesIn_append] at member
    rcases List.mem_append.1 member with earlier | new
    · rcases letters_kept (transition_of_step next) (ih earlier waits.1) with kept | ended
      · exact kept
      · obtain ⟨fate, ends, own⟩ := ended
        exact absurd (beq_iff_eq.2 own) (List.countP_eq_zero.1 waits.2 fate ends)
    · refine letter_of_discharge_of_isOpen (transition_of_step next) new ?_
      exact (isOpen_iff_of_accepted before (accepted_before_discharge before next new)).2 waits.1

/-- In every run, a request is passed over only after the wait for it has ended without a
letter. -/
theorem fate_of_passedOver (run : Run settings (initial settings) labels events s)
    {request : Request} (member : (request, none) ∈ dischargesIn events) :
    ∃ fate, (request.ticket, fate) ∈ fatesOf settings labels ∧ fate.letter? = none := by
  have ended : ∃ fate, (request.ticket, fate) ∈ fatesOf settings labels := by
    induction run with
    | none => cases member
    | @step u v labels events more label before next ih =>
      rw [fatesOf, along_append _ before next, ← fatesOf]
      rw [dischargesIn_append] at member
      rcases List.mem_append.1 member with earlier | new
      · obtain ⟨fate, there⟩ := ih earlier
        exact ⟨fate, List.mem_append_left _ there⟩
      · have closed := isOpen_of_passedOver (transition_of_step next) new
        have waits := isOpen_iff_of_accepted before (accepted_before_discharge before next new)
        rw [closed] at waits
        have some : 0 < (fatesOf settings labels).countP
            fun fate => fate.1 == request.ticket := by
          refine Nat.pos_of_ne_zero fun none => ?_
          cases waits.2 none
        obtain ⟨⟨ticket, fate⟩, there, own⟩ := List.countP_pos_iff.1 some
        obtain rfl : ticket = request.ticket := beq_iff_eq.1 own
        exact ⟨fate, List.mem_append_left _ there⟩
  obtain ⟨fate, there⟩ := ended
  refine ⟨fate, there, ?_⟩
  cases own : fate.letter? with
  | none => rfl
  | some letter =>
    -- the request would have been disposed of twice
    obtain ⟨other, same, disposed⟩ := discharge_of_fate run there own
    cases discharge_eq run disposed member same

end Matryoshka.Service
