import Matryoshka.Proofs.Service.Tickets

/-!
# Who waits for a reply

A ticket is claimed by the place in an answer that waits for its letter, or by whoever still
waits for it after its time. Sending makes one claim to one ticket, and a claim only ever moves
from a place to those who wait longer, so a ticket that was accepted is claimed at most once
(`claimedOnce_of_run`). What is claimed is owed: the letter is there, or a worker still has the
request (`owed_of_run`).
-/

namespace Matryoshka.Service

variable {settings : Settings} {s t : State}

/-! ## Claims -/

/-- Whether a place in an answer waits for the letter under a ticket. -/
def Slot.claims (ticket : Ticket) : Slot → Bool
  | .settled _ => false
  | .open _ own => own == ticket

/-- How many places of a call wait for the letter under a ticket. -/
def Call.claims (ticket : Ticket) (call : Call) : Nat := call.slots.countP (Slot.claims ticket)

/-- How many wait for the letter under a ticket. -/
def claims (s : State) (ticket : Ticket) : Nat :=
  (s.calls.map (Call.claims ticket)).sum + s.late.countP fun l => l.ticket == ticket

/-- A call holds a ticket that one of its places claims. -/
theorem holds_iff (call : Call) (ticket : Ticket) :
    call.holds ticket = true ↔ 0 < call.claims ticket := by
  rw [Call.claims, List.countP_pos_iff]
  simp only [Call.holds, List.any_eq_true]
  constructor
  · rintro ⟨slot, member, own⟩
    cases slot with
    | settled => cases own
    | «open» text own' => exact ⟨_, member, own⟩
  · rintro ⟨slot, member, own⟩
    cases slot with
    | settled => cases own
    | «open» text own' => exact ⟨_, member, own⟩

/-- A ticket is open if it is claimed. -/
theorem isOpen_iff (s : State) (ticket : Ticket) :
    s.isOpen ticket = true ↔ 0 < claims s ticket := by
  have late : s.late.any (·.ticket == ticket) = true ↔
      0 < s.late.countP fun l => l.ticket == ticket := by
    rw [List.countP_pos_iff, List.any_eq_true]
  have calls : s.calls.any (·.holds ticket) = true ↔
      0 < (s.calls.map (Call.claims ticket)).sum := by
    rw [List.any_eq_true, List.sum_pos_iff_exists_pos_nat]
    constructor
    · rintro ⟨call, member, holds⟩
      exact ⟨_, List.mem_map_of_mem member, (holds_iff call ticket).1 holds⟩
    · rintro ⟨count, member, positive⟩
      obtain ⟨call, there, rfl⟩ := List.mem_map.1 member
      exact ⟨call, there, (holds_iff call ticket).2 positive⟩
  rw [State.isOpen, Bool.or_eq_true, late, calls, claims]
  omega

/-- A ticket that a place of a call claims is claimed. -/
theorem claims_pos {call : Call} {ticket : Ticket} (member : call ∈ s.calls)
    (claimed : 0 < call.claims ticket) : 0 < claims s ticket := by
  rw [← isOpen_iff, State.isOpen, Bool.or_eq_true, List.any_eq_true]
  exact .inl ⟨call, member, (holds_iff call ticket).2 claimed⟩

/-! ## What is owed -/

/-- The requests in the hands of a worker. -/
def Phase.requests : Phase → List Request
  | .gathering batch | .loading batch | .computing batch => batch
  | .checking live rest => live ++ rest
  | .replying replies _ _ => replies.map Prod.fst
  | .waiting | .stopped | .crashed => []

/-- The requests that a worker has. -/
def Worker.requests (worker : Worker) : List Request := worker.phase.requests ++ worker.queue

/-- The letter under a ticket is there. -/
def Posted (s : State) (ticket : Ticket) : Prop := ∃ letter, (ticket, letter) ∈ s.letters

/-- A worker has the request with a ticket. -/
def Pending (s : State) (ticket : Ticket) : Prop :=
  ∃ worker ∈ s.workers, ∃ request ∈ worker.requests, request.ticket = ticket

/-- Of every claimed ticket the letter is there, or a worker has the request. -/
def Owed (s : State) : Prop := ∀ ticket, 0 < claims s ticket → Posted s ticket ∨ Pending s ticket

/-- No ticket is claimed more often than its request was accepted. -/
def ClaimedOnce (s : State) (events : List Event) : Prop :=
  ∀ ticket, claims s ticket ≤
    (acceptedIn events).countP fun request => request.ticket == ticket

/-- A letter that is there is found. -/
theorem Posted.letter? {ticket : Ticket} (posted : Posted s ticket) :
    ∃ letter, s.letter? ticket = some letter := by
  obtain ⟨letter, member⟩ := posted
  cases found : s.letter? ticket with
  | some other => exact ⟨other, rfl⟩
  | none =>
    have other := List.lookup_eq_none_iff.1 found (ticket, letter) member
    simp at other

/-! ## Steps of workers -/

/-- A worker that is done with a batch has no request of it left. -/
theorem Done.requests_eq {worker : Worker} {move : WorkerMove} {size : Nat}
    (isDone : Done worker move size) : worker.requests = worker.queue := by
  cases isDone with
  | passedOver phase =>
    rw [Worker.requests, phase]
    rfl
  | replied phase =>
    rw [Worker.requests, phase]
    rfl

/-- A request that is lost has a letter that says so. -/
theorem written_of_lost {requests : List Request} {request : Request}
    (member : request ∈ requests) : ∃ letter, (request.ticket, letter) ∈ lostLetters requests :=
  ⟨.lost, List.mem_map_of_mem member⟩

/-- After a step of a worker, a request that it had is still there, or its letter is written, or
nobody waits for it. -/
theorem WorkerStep.requests_kept {w : WorkerId} {worker worker' : Worker} {move : WorkerMove}
    {counters : Counters} {written : List (Ticket × Letter)} {events : List Event}
    (step : WorkerStep settings s w worker move worker' counters written events)
    {request : Request} (member : request ∈ worker.requests) :
    request ∈ worker'.requests ∨ (∃ letter, (request.ticket, letter) ∈ written) ∨
      s.isOpen request.ticket = false := by
  have kept (same : worker.requests = worker'.requests) :
      request ∈ worker'.requests ∨ (∃ letter, (request.ticket, letter) ∈ written) ∨
        s.isOpen request.ticket = false := .inl (same ▸ member)
  cases step with
  | take phase waits => exact kept (by simp [Worker.requests, phase, waits, Phase.requests])
  | breakOff phase waits =>
    refine .inr (.inl (written_of_lost ?_))
    simpa [Worker.requests, phase, waits, Phase.requests] using member
  | takeMore phase waits => exact kept (by simp [Worker.requests, phase, waits, Phase.requests])
  | closeBatch phase => exact kept (by simp [Worker.requests, phase, Phase.requests])
  | @check live rest first phase =>
    by_cases awaited : s.isOpen first.ticket = true
    · exact kept (by simp [Worker.requests, phase, Phase.requests, awaited])
    · rw [Worker.requests, phase] at member
      by_cases own : request = first
      · exact .inr (.inr (own ▸ Bool.eq_false_iff.2 awaited))
      · refine .inl ?_
        simpa [Worker.requests, Phase.requests, awaited, own] using member
  | compute phase => exact kept (by simp [Worker.requests, phase, Phase.requests])
  | load phase => exact kept (by simp [Worker.requests, phase, Phase.requests])
  | loaded phase => exact kept (by simp [Worker.requests, phase, Phase.requests])
  | loadFails phase =>
    exact kept (by
      simp [Worker.requests, phase, Phase.requests, Labor.failAll, Function.comp_def])
  | compute_done phase holds outcome =>
    have same := (Engine.answers_of_compute outcome).1
    rw [List.length_map] at same
    refine kept ?_
    simp only [Worker.requests, Worker.computed, phase, Phase.requests]
    rw [List.map_fst_zip (Nat.le_of_eq same.symm)]
  | compute_failed phase =>
    exact kept (by
      simp [Worker.requests, Worker.computed, phase, Phase.requests, Labor.failAll,
        Function.comp_def])
  | compute_aborted phase =>
    exact kept (by
      simp [Worker.requests, Worker.computed, phase, Phase.requests, Labor.failAll,
        Function.comp_def])
  | @reply first outcome replies counted size phase =>
    rw [Worker.requests, phase] at member
    by_cases own : request = first
    · rw [own]
      exact .inr (.inl ⟨_, List.mem_singleton_self _⟩)
    · refine .inl ?_
      simpa [Worker.requests, Phase.requests, own] using member
  | finish isDone =>
    rw [isDone.requests_eq] at member
    exact .inl member
  | finishBroken isDone =>
    rw [isDone.requests_eq] at member
    exact .inr (.inl (written_of_lost member))
  | unload phase => exact kept (by simp [Worker.requests, phase, Phase.requests])
  | stop phase => exact kept (by simp [Worker.requests, phase, Phase.requests])

/-- A worker that moves gets no request that it did not have. -/
theorem WorkerStep.requests_subset {w : WorkerId} {worker worker' : Worker} {move : WorkerMove}
    {counters : Counters} {written : List (Ticket × Letter)} {events : List Event}
    (step : WorkerStep settings s w worker move worker' counters written events) :
    ∀ request ∈ worker'.requests, request ∈ worker.requests := by
  intro request member
  cases step with
  | take phase waits => simpa [Worker.requests, phase, waits, Phase.requests] using member
  | breakOff => cases member
  | takeMore phase waits => simpa [Worker.requests, phase, waits, Phase.requests] using member
  | closeBatch phase => simpa [Worker.requests, phase, Phase.requests] using member
  | check phase =>
    rw [Worker.requests, phase]
    simp only [Worker.requests, Phase.requests, List.mem_append, List.mem_cons] at member ⊢
    split at member <;> grind
  | compute phase => simpa [Worker.requests, phase, Phase.requests] using member
  | load phase => simpa [Worker.requests, phase, Phase.requests] using member
  | loaded phase => simpa [Worker.requests, phase, Phase.requests] using member
  | loadFails phase =>
    simpa [Worker.requests, phase, Phase.requests, Labor.failAll, Function.comp_def] using member
  | compute_done phase holds outcome =>
    rcases List.mem_append.1 member with own | waits
    · obtain ⟨reply, there, rfl⟩ := List.mem_map.1 own
      rw [Worker.requests, phase]
      exact List.mem_append_left _ (List.of_mem_zip there).1
    · exact List.mem_append_right _ waits
  | compute_failed phase =>
    simpa [Worker.requests, Worker.computed, phase, Phase.requests, Labor.failAll,
      Function.comp_def] using member
  | compute_aborted phase =>
    simpa [Worker.requests, Worker.computed, phase, Phase.requests, Labor.failAll,
      Function.comp_def] using member
  | reply phase =>
    rw [Worker.requests, phase]
    exact List.mem_cons_of_mem _ member
  | finish isDone =>
    rw [isDone.requests_eq]
    exact member
  | finishBroken => cases member
  | unload phase => simpa [Worker.requests, phase, Phase.requests] using member
  | stop phase => simpa [Worker.requests, phase, Phase.requests] using member

/-- In every run, what a worker has was accepted. -/
theorem accepted_of_requests {labels : List Label} {events : List Event} {w : WorkerId}
    {worker : Worker} (run : Run settings (initial settings) labels events s)
    (found : s.workers[w]? = some worker) {request : Request}
    (member : request ∈ worker.requests) : request ∈ acceptedIn events := by
  have seen : request ∈ acceptedIn (seenOf w events) := by
    refine worker_induction (motive := fun _ worker seen =>
      ∀ request ∈ worker.requests, request ∈ acceptedIn seen) ?_ ?_ ?_ run found request member
    · exact fun _ _ member => nomatch member
    · exact fun _ _ _ _ _ before => before
    · intro s worker worker' seen more before change request member
      rw [acceptedIn, List.filterMap_append, ← acceptedIn, ← acceptedIn, List.mem_append]
      cases change with
      | rest => exact .inl (before request member)
      | accept there room =>
        simp only [Worker.requests, List.mem_append, List.mem_singleton] at member
        rcases member with own | waits | rfl
        · exact .inl (before request (List.mem_append_left _ own))
        · exact .inl (before request (List.mem_append_right _ waits))
        · exact .inr (List.mem_singleton_self _)
      | move step => exact .inl (before request (step.requests_subset request member))
  exact (List.filter_sublist.filterMap _).subset seen

/-! ## Steps of the service -/

/-- What a step does to claims, letters and requests. -/
structure ClaimChange (s t : State) (more : List Event) : Prop where
  /-- Only a request that is accepted is claimed once more. -/
  claims_le : ∀ ticket, claims t ticket ≤ claims s ticket +
    (acceptedIn more).countP fun request => request.ticket == ticket
  /-- A letter whose ticket is claimed stays. -/
  posted : ∀ ticket, 0 < claims t ticket → Posted s ticket → Posted t ticket
  /-- A request whose ticket is claimed stays with its worker until the letter is there. -/
  pending : ∀ ticket, 0 < claims t ticket → Pending s ticket → Posted t ticket ∨ Pending t ticket
  /-- A request that is accepted is with a worker. -/
  accepted : ∀ request ∈ acceptedIn more, Pending t request.ticket

/-- What is owed before a step is owed after it. -/
theorem ClaimChange.owed {more : List Event} (change : ClaimChange s t more) (owed : Owed s) :
    Owed t := by
  intro ticket claimed
  by_cases before : 0 < claims s ticket
  · rcases owed ticket before with posted | pending
    · exact .inl (change.posted ticket claimed posted)
    · exact change.pending ticket claimed pending
  · have le := change.claims_le ticket
    have new : 0 < (acceptedIn more).countP fun request => request.ticket == ticket := by omega
    obtain ⟨request, member, own⟩ := List.countP_pos_iff.1 new
    obtain rfl : request.ticket = ticket := by simpa using own
    exact .inr (change.accepted request member)

/-- What is claimed once before a step is claimed once after it. -/
theorem ClaimChange.claimedOnce {events more : List Event} (change : ClaimChange s t more)
    (once : ClaimedOnce s events) : ClaimedOnce t (events ++ more) := by
  intro ticket
  have before := once ticket
  have le := change.claims_le ticket
  rw [acceptedIn, List.filterMap_append, List.countP_append, ← acceptedIn, ← acceptedIn]
  omega

/-- A step in which nothing is accepted and the workers stay as they are, and only letters go that
nobody claims any more. -/
theorem ClaimChange.collect {more : List Event} (nothing : acceptedIn more = [])
    (fewer : ∀ ticket, claims t ticket ≤ claims s ticket)
    (letters : ∀ entry ∈ s.letters, 0 < claims t entry.1 → entry ∈ t.letters)
    (workers : t.workers = s.workers) : ClaimChange s t more where
  claims_le ticket := Nat.le_add_right_of_le (fewer ticket)
  posted ticket claimed posted := by
    obtain ⟨letter, member⟩ := posted
    exact ⟨letter, letters _ member claimed⟩
  pending ticket _ pending := by
    right
    rw [Pending, workers]
    exact pending
  accepted request member := by
    rw [nothing] at member
    cases member

/-- A step in which nothing is accepted, the letters and the workers stay as they are, and nobody
makes a new claim. -/
theorem ClaimChange.silent {more : List Event} (nothing : acceptedIn more = [])
    (fewer : ∀ ticket, claims t ticket ≤ claims s ticket) (letters : t.letters = s.letters)
    (workers : t.workers = s.workers) : ClaimChange s t more :=
  .collect nothing fewer (fun _ member _ => letters ▸ member) workers

/-- When a worker is replaced all others stay. -/
theorem mem_set_or_eq {workers : List Worker} {w : WorkerId} {worker worker' other : Worker}
    (found : workers[w]? = some worker) (member : other ∈ workers) :
    other ∈ workers.set w worker' ∨ other = worker := by
  obtain ⟨v, there⟩ := List.mem_iff_getElem?.1 member
  by_cases same : w = v
  · subst same
    rw [found] at there
    exact .inr (Option.some.inj there).symm
  · rw [← List.getElem?_set_ne same (a := worker')] at there
    exact .inl (List.mem_of_getElem? there)

section Callers

variable {id : CallId} {call call' : Call} (apart : Apart s.calls)
  (found : s.call? id = some call)

/-- A place at the end adds its claim to those of a call. -/
theorem claims_append {slot : Slot} (slots : call'.slots = call.slots ++ [slot])
    (ticket : Ticket) : call'.claims ticket = call.claims ticket + (slot.claims ticket).toNat := by
  rw [Call.claims, Call.claims, slots, List.countP_append, countP_cons_toNat, List.countP_nil,
    Nat.zero_add]

/-- Collecting the first outcome of a call gives up the claim of its place. -/
theorem claims_collected {slot : Slot} {slots : List Slot} (next : call.slots = slot :: slots)
    (outcome : ItemOutcome) (ticket : Ticket) :
    (Caller.collected call slots outcome).claims ticket + (slot.claims ticket).toNat =
      call.claims ticket := by
  rw [Call.claims, Call.claims, next, countP_cons_toNat]
  rfl

include apart found

/-- The claims after a call has moved on. -/
theorem claims_callsWith (same : call'.id = call.id) (calls : t.calls = s.callsWith call')
    (late : t.late = s.late) (ticket : Ticket) :
    claims t ticket + call.claims ticket = claims s ticket + call'.claims ticket := by
  have sum := sum_callsWith apart found same (Call.claims ticket)
  rw [claims, claims, calls, late]
  omega

/-- A step in which a call moves on without a new claim and all else that matters stays as it
is. -/
theorem ClaimChange.move {more : List Event} (calls : t.calls = s.callsWith call')
    (same : call'.id = call.id) (fewer : ∀ ticket, call'.claims ticket ≤ call.claims ticket)
    (nothing : acceptedIn more = []) (late : t.late = s.late) (letters : t.letters = s.letters)
    (workers : t.workers = s.workers) : ClaimChange s t more := by
  refine .silent nothing (fun ticket => ?_) letters workers
  have sum := claims_callsWith apart found same calls late ticket
  have le := fewer ticket
  omega

/-- A step in which a call settles the text at hand, and all else that matters stays as it is. -/
theorem ClaimChange.settle {more : List Event} {outcome : ItemOutcome}
    (calls : t.calls = s.callsWith call') (same : call'.id = call.id)
    (slots : call'.slots = call.slots ++ [.settled outcome]) (nothing : acceptedIn more = [])
    (late : t.late = s.late) (letters : t.letters = s.letters)
    (workers : t.workers = s.workers) : ClaimChange s t more :=
  .move apart found calls same (fun ticket => Nat.le_of_eq (claims_append slots ticket)) nothing
    late letters workers

/-- The claims after a call has collected the outcome for a place that waited for a letter. -/
theorem claims_collect {text : String} {own : Ticket} {slots : List Slot}
    (next : call.slots = .open text own :: slots) (outcome : ItemOutcome) (ticket : Ticket) :
    ((s.callsWith (Caller.collected call slots outcome)).map (Call.claims ticket)).sum +
      (own == ticket).toNat = (s.calls.map (Call.claims ticket)).sum := by
  have sum := sum_callsWith apart found (collected_id call slots outcome) (Call.claims ticket)
  have given := claims_collected next outcome ticket
  rw [Slot.claims] at given
  omega

/-- A request that enters a queue is claimed by the call that sent it. -/
theorem ClaimChange.send {w : WorkerId} {worker : Worker} {request : Request}
    (same : call'.id = call.id)
    (slots : call'.slots = call.slots ++ [.open request.text request.ticket])
    (there : s.workers[w]? = some worker) :
    ClaimChange s { s with
      workers := s.workers.set w { worker with queue := worker.queue ++ [request] }
      calls := s.callsWith call' } [.accepted w request] := by
  have inside : w < s.workers.length := (List.getElem?_eq_some_iff.1 there).1
  have receiver := List.mem_set inside { worker with queue := worker.queue ++ [request] }
  constructor
  · intro ticket
    have sum := claims_callsWith apart found same (t := { s with calls := s.callsWith call' }) rfl
      rfl ticket
    have own := claims_append slots ticket
    have one : (acceptedIn [.accepted w request]).countP (fun r => r.ticket == ticket) =
        (Slot.claims ticket (.open request.text request.ticket)).toNat := by
      rw [show acceptedIn [.accepted w request] = [request] from rfl, countP_cons_toNat,
        List.countP_nil, Nat.zero_add]
      rfl
    rw [one]
    simp only [claims] at sum ⊢
    omega
  · exact fun ticket _ posted => posted
  · rintro ticket - ⟨holder, member, other, own, rfl⟩
    rcases mem_set_or_eq there member with kept | rfl
    · exact .inr ⟨holder, kept, other, own, rfl⟩
    · refine .inr ⟨_, receiver, other, ?_, rfl⟩
      rw [Worker.requests, ← List.append_assoc]
      exact List.mem_append_left _ own
  · intro other member
    obtain rfl := List.mem_singleton.1 member
    exact ⟨_, receiver, other, by simp [Worker.requests], rfl⟩

/-- A step of a caller changes claims, letters and requests as a step may. -/
theorem CallerStep.claimChange {move : CallerMove} {more : List Event}
    (once : ∀ ticket, claims s ticket ≤ 1) (step : CallerStep settings s call move t more) :
    ClaimChange s t more := by
  cases step with
  | find => exact .settle apart found rfl rfl rfl rfl rfl rfl rfl
  | miss => exact .move apart found rfl rfl (fun _ => Nat.le_refl _) rfl rfl rfl rfl
  | turnedAway => exact .settle apart found rfl rfl rfl rfl rfl rfl rfl
  | submit => exact .move apart found rfl rfl (fun _ => Nat.le_refl _) rfl rfl rfl rfl
  | shutOut => exact .settle apart found rfl rfl rfl rfl rfl rfl rfl
  | send sending there => exact .send apart found rfl rfl there
  | giveUp => exact .settle apart found rfl rfl rfl rfl rfl rfl rfl
  | collectSettled collecting next =>
    refine .move apart found rfl rfl (fun ticket => ?_) rfl rfl rfl rfl
    exact Nat.le_of_eq (claims_collected next _ ticket)
  | @receive text own slots letter collecting next arrived =>
    have after := claims_collect apart found next (Caller.outcomeOf letter)
    refine .collect (acceptedIn_receive _ _ _) (fun ticket => ?_) (fun entry member claimed => ?_)
      rfl
    · have sum := after ticket
      simp only [claims]
      omega
    · have sum := after entry.1
      have le := once entry.1
      refine List.mem_filter.2 ⟨member, ?_⟩
      rw [bne_iff_ne]
      rintro rfl
      rw [BEq.rfl, Bool.toNat_true] at sum
      simp only [claims] at claimed le
      omega
  | @expire text own slots collecting next due missing =>
    refine .silent rfl (fun ticket => ?_) rfl rfl
    have sum := claims_collect apart found next (.error (Caller.late settings)) ticket
    have one : (if call.cached then s.late ++ [⟨own, text⟩] else s.late).countP
        (fun l => l.ticket == ticket) ≤ s.late.countP (fun l => l.ticket == ticket) +
          (own == ticket).toNat := by
      split
      · refine Nat.le_of_eq ?_
        rw [List.countP_append, countP_cons_toNat, List.countP_nil, Nat.zero_add]
      · exact Nat.le_add_right _ _
    simp only [claims]
    omega
  | answer =>
    refine .silent rfl (fun ticket => ?_) rfl rfl
    have sum := sum_callsWithout apart found (Call.claims ticket)
    simp only [claims]
    omega
  | leave =>
    have after (ticket : Ticket) := sum_callsWithout apart found (Call.claims ticket)
    refine .collect rfl (fun ticket => ?_) (fun entry member claimed => ?_) rfl
    · have sum := after ticket
      simp only [claims]
      omega
    · refine List.mem_filter.2 ⟨member, ?_⟩
      have sum := after entry.1
      have le := once entry.1
      cases holds : call.holds entry.1 with
      | false => rfl
      | true =>
        have own := (holds_iff call entry.1).1 holds
        simp only [claims] at claimed le
        omega

end Callers

/-- A step of a worker changes claims, letters and requests as a step may. -/
theorem WorkerStep.claimChange {w : WorkerId} {worker worker' : Worker} {move : WorkerMove}
    {counters : Counters} {written : List (Ticket × Letter)} {more : List Event}
    (found : s.workers[w]? = some worker)
    (step : WorkerStep settings s w worker move worker' counters written more) :
    ClaimChange s (s.afterWorker w worker' counters written) more := by
  have nothing : acceptedIn more = [] := step.acceptedIn_eq
  have inside : w < s.workers.length := (List.getElem?_eq_some_iff.1 found).1
  constructor
  · exact fun ticket => Nat.le_add_right _ _
  · rintro ticket - ⟨letter, member⟩
    exact ⟨letter, List.mem_append_left _ member⟩
  · rintro ticket claimed ⟨holder, member, request, own, rfl⟩
    rcases mem_set_or_eq found member with kept | rfl
    · exact .inr ⟨holder, kept, request, own, rfl⟩
    · rcases step.requests_kept own with still | ⟨letter, new⟩ | closed
      · exact .inr ⟨worker', List.mem_set inside worker', request, still, rfl⟩
      · have awaited : s.isOpen request.ticket = true := (isOpen_iff s _).2 claimed
        exact .inl ⟨letter, List.mem_append_right _ (List.mem_filter.2 ⟨new, awaited⟩)⟩
      · rw [(isOpen_iff s _).2 claimed] at closed
        cases closed
  · rw [nothing]
    exact fun request member => nomatch member

/-- Every step changes claims, letters and requests as a step may. -/
theorem claimChange_of_transition {label : Label} {more : List Event} (apart : Apart s.calls)
    (once : ∀ ticket, claims s ticket ≤ 1) (transition : Transition settings s label t more) :
    ClaimChange s t more := by
  cases transition with
  | startHeld => exact .silent rfl (fun _ => Nat.le_refl _) rfl rfl
  | start =>
    refine ⟨fun ticket => Nat.le_add_right _ _, fun ticket _ posted => posted, ?_, nofun⟩
    rintro ticket - ⟨holder, member, request, own, rfl⟩
    exact .inr ⟨holder, List.mem_append_left _ member, request, own, rfl⟩
  | embed =>
    refine .silent rfl (fun ticket => ?_) rfl rfl
    simp [claims, Call.claims, Caller.newCall]
  | probe =>
    refine .silent rfl (fun ticket => ?_) rfl rfl
    simp [claims, Call.claims, Caller.newProbe]
  | shutDownNobody => exact .silent rfl (fun _ => Nat.le_refl _) rfl rfl
  | shutDown => exact .silent rfl (fun _ => Nat.le_refl _) rfl rfl
  | caller found step => exact step.claimChange apart found once
  | @receiveLate own l letter awaited arrived =>
    have fewer (ticket : Ticket) :
        (s.late.filter fun l => l.ticket != own).countP (fun l => l.ticket == ticket) ≤
          s.late.countP fun l => l.ticket == ticket := List.filter_sublist.countP_le
    refine .collect (acceptedIn_rememberEvents _ _)
      (fun ticket => Nat.add_le_add_left (fewer ticket) _)
      (fun entry member claimed => List.mem_filter.2 ⟨member, ?_⟩) rfl
    rw [bne_iff_ne]
    rintro rfl
    -- the claim of the one who waited was the only one
    have none : (s.late.filter fun l => l.ticket != entry.1).countP
        (fun l => l.ticket == entry.1) = 0 := by
      simp [List.countP_filter, List.countP_eq_zero]
    have same := List.find?_some awaited
    have waited : 0 < s.late.countP fun l => l.ticket == entry.1 :=
      List.countP_pos_iff.2 ⟨l, List.mem_of_find?_eq_some awaited, same⟩
    have le := once entry.1
    simp only [claims] at claimed le
    omega
  | worker found step => exact step.claimChange found
  | finishEnding => exact .silent rfl (fun _ => Nat.le_refl _) rfl rfl
  | expireEnding => exact .silent rfl (fun _ => Nat.le_refl _) rfl rfl
  | leaveEnding => exact .silent rfl (fun _ => Nat.le_refl _) rfl rfl
  | pass => exact .silent rfl (fun _ => Nat.le_refl _) rfl rfl

/-- In every run each ticket that was accepted is claimed at most once. -/
theorem claimedOnce_of_run {labels : List Label} {events : List Event}
    (run : Run settings (initial settings) labels events s) : ClaimedOnce s events := by
  induction run with
  | none => exact fun _ => Nat.zero_le _
  | step before next ih =>
    have once := fun ticket =>
      Nat.le_trans (ih ticket) (accepted_le_one before ticket)
    have change :=
      claimChange_of_transition (apart_of_run before) once (transition_of_step next)
    exact change.claimedOnce ih

/-- In every run each ticket is claimed at most once. -/
theorem claims_le_one {labels : List Label} {events : List Event}
    (run : Run settings (initial settings) labels events s) (ticket : Ticket) :
    claims s ticket ≤ 1 :=
  Nat.le_trans (claimedOnce_of_run run ticket) (accepted_le_one run ticket)

/-- In every run what is claimed is owed. -/
theorem owed_of_run {labels : List Label} {events : List Event}
    (run : Run settings (initial settings) labels events s) : Owed s := by
  induction run with
  | none => exact fun _ claimed => absurd claimed (Nat.lt_irrefl 0)
  | step before next ih =>
    exact (claimChange_of_transition (apart_of_run before) (claims_le_one before)
      (transition_of_step next)).owed ih

end Matryoshka.Service
