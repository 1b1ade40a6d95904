import Mathlib.Data.List.Forall2
import Matryoshka.Proofs.Mock.Rows
import Matryoshka.Proofs.Service.Runs
import Matryoshka.Proofs.Service.WorkerHistory

/-!
# Answers do not depend on the order of steps

With a mock model that does not fail, what a caller is told about a text is what the model
makes of this text alone, or that no worker answered it, or that the answer was late. The
order of steps, the batches, the other callers and the cache do not matter.

The texts of all requests, in the order of their tickets, tie the state together: a request, a
place in an answer and a letter with one ticket are about one text (`Faithful`). Every step
keeps this, if the model does what the mock model does (`faithful_of_run`).
-/

namespace Matryoshka.Service

variable (settings : Settings)

/-! ## What a caller may be told -/

/-- What the mock model makes of a text when it is alone. -/
def ideal (text : String) : ItemOutcome :=
  Mock.solitary settings.model settings.effectiveDim text

/-- What a caller may be told about a text. -/
inductive Fair (text : String) : ItemOutcome → Prop
  /-- The answer did not come in time. -/
  | timeout (milliseconds : Nat) : Fair text (.error (.timeout milliseconds))
  /-- No worker answered. -/
  | unavailable (reason : Unavailability) : Fair text (.error (.unavailable reason))
  /-- What the model makes of the text alone. -/
  | alone {outcome : ItemOutcome}
      (computed : ((Mock.engine {} settings.model).compute [text]
        settings.effectiveDim).outcome = .done [outcome]) : Fair text outcome

/-- A step in which loading and computing end as they do for a mock model that does not
fail. -/
def Label.IsMock : Label → Prop
  | .worker _ (.finishLoading outcome) => outcome = .done ()
  | .worker _ (.finishComputing engine) => Mock.load {} settings.model = .done engine
  | _ => True

/-- The texts that calls ask for, after one more step. -/
def Label.asks (asked : CallId → List String) : Label → CallId → List String
  | .embed id texts, other => if other = id then texts else asked other
  | .probe id text, other => if other = id then [text] else asked other
  | _, other => asked other

/-- The texts that each call asked for when it began last. -/
def asked (labels : List Label) : CallId → List String :=
  labels.foldl Label.asks fun _ => []

/-! ## What the state says about texts -/

section Faithful

variable (issued : List String)

/-- A place in an answer is about a text. -/
inductive Slot.For (text : String) : Slot → Prop
  /-- What is known may be told about it. -/
  | settled {outcome : ItemOutcome} (fair : Fair settings text outcome) :
      For text (.settled outcome)
  /-- The ticket is that of a request for it. -/
  | open {ticket : Ticket} (own : issued[ticket]? = some text) : For text (.open text ticket)

/-- A letter says what the model makes of the text of the request. -/
def LetterFaithful : Ticket × Letter → Prop
  | (ticket, .reply outcome) => ∃ text, issued[ticket]? = some text ∧ outcome = ideal settings text
  | (_, .lost) => True

/-- A request has the text that its ticket was issued for. -/
def Request.Faithful (request : Request) : Prop := issued[request.ticket]? = some request.text

/-- The requests in the hands of a worker are faithful, and so are its replies. -/
def Phase.Faithful : Phase → Prop
  | .gathering batch | .loading batch | .computing batch =>
    ∀ request ∈ batch, request.Faithful issued
  | .checking live rest => ∀ request ∈ live ++ rest, request.Faithful issued
  | .replying replies _ _ =>
    ∀ reply ∈ replies, reply.1.Faithful issued ∧ reply.2 = ideal settings reply.1.text
  | .waiting | .stopped | .crashed => True

/-- All requests of a worker are faithful, and so are its replies. -/
structure Worker.Faithful (worker : Worker) : Prop where
  /-- Those in its queue. -/
  queue : ∀ request ∈ worker.queue, request.Faithful issued
  /-- Those in its hands. -/
  phase : worker.phase.Faithful settings issued

/-- The text that a caller goes to the worker with. -/
def Stage.texts : Stage → List String
  | .handing => []
  | .submitting text => [text]
  | .sending _ request => [request.text]

/-- The texts of a call that have no place in the answer yet. -/
def Call.pending (call : Call) : List String := call.stage.texts ++ call.texts

/-- A call answers the texts that it was asked for, one after the other. -/
structure Call.Faithful (texts : List String) (call : Call) : Prop where
  /-- The request that waits for room has the text of its ticket. -/
  sending : ∀ w request, call.stage = .sending w request → request.Faithful issued
  /-- There are outcomes for the first texts, places for those after them, and the call has
  yet to go to the worker with the others. -/
  progress : ∃ answered handed, texts = answered ++ (handed ++ call.pending) ∧
    List.Forall₂ (Fair settings) answered call.outcomes ∧
    List.Forall₂ (Slot.For settings issued) handed call.slots

/-- A vector is remembered for a text that the model makes it of. -/
def CacheFaithful (cache : Cache Key Embedding) : Prop :=
  ∀ entry ∈ cache.entries, ∃ text, entry.1 = keyOf settings text ∧
    ideal settings text = .ok entry.2

/-- Everything in a service is about the texts that tickets were issued for, and every call
about the texts that it was asked for. -/
structure Faithful (texts : CallId → List String) (s : State) : Prop where
  /-- Every ticket that was given out has a text. -/
  nextTicket_eq : s.nextTicket = issued.length
  /-- The cache. -/
  cache : CacheFaithful settings s.cache
  /-- The workers, those included that were let go. -/
  workers : ∀ worker ∈ s.workers, worker.Faithful settings issued
  /-- The letters that were not collected. -/
  letters : ∀ entry ∈ s.letters, LetterFaithful settings issued entry
  /-- What is awaited after its time. -/
  late : ∀ l ∈ s.late, issued[l.ticket]? = some l.text
  /-- The calls. -/
  calls : ∀ call ∈ s.calls, call.Faithful settings issued (texts call.id)

end Faithful

variable {settings} {issued : List String}

/-! ## What may be told -/

/-- The engine of a mock model makes of all texts what it makes of each alone. -/
theorem compute_ideal (room : 1 ≤ settings.model.maxSequenceLength) (texts : List String) :
    ((Mock.engine {} settings.model).compute texts settings.effectiveDim).outcome =
      .done (texts.map (ideal settings)) :=
  Mock.compute_engine settings.accepts_effectiveDim room texts

/-- What the model makes of a text may be told about it. -/
theorem fair_ideal (room : 1 ≤ settings.model.maxSequenceLength) (text : String) :
    Fair settings text (ideal settings text) :=
  .alone (compute_ideal room [text])

/-- What a faithful letter says may be told. -/
theorem fair_outcomeOf (room : 1 ≤ settings.model.maxSequenceLength) {ticket : Ticket}
    {text : String} {letter : Letter} (faithful : LetterFaithful settings issued (ticket, letter))
    (own : issued[ticket]? = some text) : Fair settings text (Caller.outcomeOf letter) := by
  cases letter with
  | lost => exact .unavailable _
  | reply outcome =>
    obtain ⟨text', other, rfl⟩ := faithful
    rw [own] at other
    cases other
    exact fair_ideal room text

/-- A faithful letter with a vector has the vector that the model makes. -/
theorem ideal_of_outcomeOf {ticket : Ticket} {text : String} {letter : Letter}
    {embedding : Embedding} (faithful : LetterFaithful settings issued (ticket, letter))
    (own : issued[ticket]? = some text) (vector : Caller.outcomeOf letter = .ok embedding) :
    ideal settings text = .ok embedding := by
  cases letter with
  | lost => cases vector
  | reply outcome =>
    obtain ⟨text', other, rfl⟩ := faithful
    rw [own] at other
    cases other
    exact vector

/-! ## The cache -/

/-- What is kept after a use was kept before or is used. -/
theorem mem_of_mem_afterUse {capacity : Nat} {key : Key} {value : Embedding}
    {entries : List (Key × Embedding)} {entry : Key × Embedding}
    (member : entry ∈ Cache.afterUse capacity key value entries) :
    entry = (key, value) ∨ entry ∈ entries := by
  rcases List.mem_cons.1 (List.mem_of_mem_take member) with rfl | kept
  · exact .inl rfl
  · exact .inr (List.mem_of_mem_filter kept)

/-- A vector that is found is one of the entries. -/
theorem mem_of_find? {cache : Cache Key Embedding} {key : Key} {embedding : Embedding}
    (known : cache.find? key = some embedding) : (key, embedding) ∈ cache.entries := by
  obtain ⟨entry, found, rfl⟩ := Option.map_eq_some_iff.1 known
  obtain rfl : entry.1 = key := by simpa using List.find?_some found
  exact List.mem_of_find?_eq_some found

/-- Looking a key up brings no new entries. -/
theorem mem_of_mem_get {cache : Cache Key Embedding} {key : Key} {entry : Key × Embedding}
    (member : entry ∈ (cache.get key).2.entries) : entry ∈ cache.entries := by
  unfold Cache.get at member
  split at member
  · rename_i embedding known
    rcases mem_of_mem_afterUse member with rfl | kept
    · exact mem_of_find? known
    · exact kept
  · exact member

/-- Remembering the vector that the model makes of a text keeps the cache faithful. -/
theorem CacheFaithful.put {cache : Cache Key Embedding} (faithful : CacheFaithful settings cache)
    {text : String} {embedding : Embedding} (made : ideal settings text = .ok embedding) :
    CacheFaithful settings (cache.put (keyOf settings text) embedding) := by
  intro entry member
  rcases mem_of_mem_afterUse member with rfl | kept
  · exact ⟨text, rfl, made⟩
  · exact faithful entry kept

/-- A vector that is found for a text is the one that the model makes. -/
theorem CacheFaithful.ideal_of_find? {cache : Cache Key Embedding}
    (faithful : CacheFaithful settings cache) {text : String} {embedding : Embedding}
    (known : cache.find? (keyOf settings text) = some embedding) :
    ideal settings text = .ok embedding := by
  obtain ⟨text', key, made⟩ := faithful _ (mem_of_find? known)
  have texts : text = text' := congrArg Key.text key
  rw [texts]
  exact made

/-- Looking a text up keeps the cache faithful. -/
theorem CacheFaithful.get {cache : Cache Key Embedding} (faithful : CacheFaithful settings cache)
    (text : String) : CacheFaithful settings (cache.get (keyOf settings text)).2 :=
  fun entry member => faithful entry (mem_of_mem_get member)

/-- Receiving a faithful letter keeps the cache faithful. -/
theorem CacheFaithful.remembered {cache : Cache Key Embedding}
    (faithful : CacheFaithful settings cache) {ticket : Ticket} {text : String} {letter : Letter}
    (written : LetterFaithful settings issued (ticket, letter))
    (own : issued[ticket]? = some text) :
    CacheFaithful settings
      (remembered settings cache text (Caller.outcomeOf letter)) := by
  cases vector : Caller.outcomeOf letter with
  | error failure => exact faithful
  | ok embedding => exact faithful.put (ideal_of_outcomeOf written own vector)

/-! ## Tickets are issued -/

/-- Issuing one more ticket leaves the texts of the others as they are. -/
theorem getElem?_issue {ticket : Ticket} {text : String} (own : issued[ticket]? = some text)
    (next : String) : (issued ++ [next])[ticket]? = some text := by
  rw [List.getElem?_append_left (List.getElem?_eq_some_iff.1 own).1]
  exact own

/-- Issuing one more ticket keeps a letter faithful. -/
theorem LetterFaithful.issue {entry : Ticket × Letter}
    (faithful : LetterFaithful settings issued entry) (next : String) :
    LetterFaithful settings (issued ++ [next]) entry := by
  obtain ⟨ticket, letter⟩ := entry
  cases letter with
  | lost => trivial
  | reply outcome =>
    obtain ⟨text, own, made⟩ := faithful
    exact ⟨text, getElem?_issue own next, made⟩

/-- Issuing one more ticket keeps a worker faithful. -/
theorem Worker.Faithful.issue {worker : Worker} (faithful : worker.Faithful settings issued)
    (next : String) : worker.Faithful settings (issued ++ [next]) := by
  refine ⟨fun request member => getElem?_issue (faithful.queue request member) next, ?_⟩
  have phase := faithful.phase
  cases doing : worker.phase <;> rw [doing] at phase
  case replying replies counted size =>
    exact fun reply member =>
      ⟨getElem?_issue (phase reply member).1 next, (phase reply member).2⟩
  case waiting | stopped | crashed => trivial
  all_goals exact fun request member => getElem?_issue (phase request member) next

/-- Issuing one more ticket keeps a call faithful. -/
theorem Call.Faithful.issue {texts : List String} {call : Call}
    (faithful : call.Faithful settings issued texts) (next : String) :
    call.Faithful settings (issued ++ [next]) texts := by
  obtain ⟨answered, handed, eq, told, places⟩ := faithful.progress
  refine ⟨fun w request waits => getElem?_issue (faithful.sending w request waits) next,
    answered, handed, eq, told, places.imp fun text slot place => ?_⟩
  cases place with
  | settled fair => exact .settled fair
  | «open» own => exact .open (getElem?_issue own next)

/-! ## Callers -/

section Call

variable {texts : List String} {call call' : Call}

/-- A call that only changes how it goes to the worker stays faithful. -/
theorem Call.Faithful.turn (faithful : call.Faithful settings issued texts)
    (pending : call'.pending = call.pending) (slots : call'.slots = call.slots)
    (outcomes : call'.outcomes = call.outcomes)
    (sending : ∀ w request, call'.stage = .sending w request → request.Faithful issued) :
    call'.Faithful settings issued texts := by
  obtain ⟨answered, handed, eq, told, places⟩ := faithful.progress
  rw [← pending] at eq
  rw [← outcomes] at told
  rw [← slots] at places
  exact ⟨sending, answered, handed, eq, told, places⟩

/-- A call that gives the text at hand a place in the answer stays faithful. -/
theorem Call.Faithful.place (faithful : call.Faithful settings issued texts) {text : String}
    {slot : Slot} (pending : call.pending = text :: call'.pending)
    (handing : call'.stage = .handing) (slots : call'.slots = call.slots ++ [slot])
    (outcomes : call'.outcomes = call.outcomes) (own : slot.For settings issued text) :
    call'.Faithful settings issued texts := by
  obtain ⟨answered, handed, eq, told, places⟩ := faithful.progress
  refine ⟨fun w request waits => ?_, answered, handed ++ [text], ?_, ?_, ?_⟩
  · rw [handing] at waits
    cases waits
  · rw [eq, pending, List.append_assoc handed [text], List.singleton_append]
  · rw [outcomes]
    exact told
  · rw [slots]
    exact List.rel_append places (.cons own .nil)

/-- A call that settles the text at hand fairly stays faithful. -/
theorem Call.Faithful.settle (faithful : call.Faithful settings issued texts) {text : String}
    (stage : call.stage.texts = [text]) {outcome : ItemOutcome}
    (fair : Fair settings text outcome) :
    (Caller.settle call outcome).Faithful settings issued texts := by
  refine faithful.place ?_ rfl rfl rfl (.settled fair)
  rw [Call.pending, stage]
  rfl

/-- A call that collects a fair outcome for its first place stays faithful. -/
theorem Call.Faithful.collect (faithful : call.Faithful settings issued texts) {slot : Slot}
    {slots : List Slot} (next : call.slots = slot :: slots) {outcome : ItemOutcome}
    (fair : ∀ text, slot.For settings issued text → Fair settings text outcome) :
    (Caller.collected call slots outcome).Faithful settings issued texts := by
  obtain ⟨answered, handed, eq, told, places⟩ := faithful.progress
  rw [next] at places
  cases places with
  | @cons text _ handed _ own others =>
    refine ⟨faithful.sending, answered ++ [text], handed, ?_, ?_, others⟩
    · rw [eq, List.append_assoc answered [text]]
      rfl
    · exact List.rel_append told (.cons (fair text own) .nil)

/-- The first place of a faithful call has the ticket that was issued for its text. -/
theorem Call.Faithful.issued_of_open (faithful : call.Faithful settings issued texts)
    {text : String} {ticket : Ticket} {slots : List Slot}
    (next : call.slots = .open text ticket :: slots) : issued[ticket]? = some text := by
  obtain ⟨answered, handed, eq, told, places⟩ := faithful.progress
  rw [next] at places
  cases places with
  | cons place _ =>
    cases place with
    | «open» own => exact own

/-- A faithful call that has collected everything tells fair outcomes for its texts. -/
theorem Call.Faithful.fair (faithful : call.Faithful settings issued texts)
    (collecting : call.isCollecting = true) (all : call.slots = []) :
    List.Forall₂ (Fair settings) texts call.outcomes := by
  obtain ⟨answered, handed, eq, told, places⟩ := faithful.progress
  rw [all] at places
  cases places
  have nothing : call.pending = [] := by
    rw [Call.pending, stage_of_isCollecting collecting, texts_of_isCollecting collecting]
    rfl
  rw [nothing, List.append_nil, List.append_nil] at eq
  rw [eq]
  exact told

end Call

/-! ## Workers -/

/-- A mock model that does not fail is loaded as such. -/
theorem eq_engine_of_load {engine : Engine}
    (loaded : Mock.load {} settings.model = .done engine) :
    engine = Mock.engine {} settings.model := by
  cases loaded
  rfl

/-- The replies to a batch say what the model makes of each request. -/
theorem mem_zip_ideal {batch : List Request} {reply : Request × ItemOutcome}
    (member : reply ∈ batch.zip ((batch.map Request.text).map (ideal settings))) :
    reply.1 ∈ batch ∧ reply.2 = ideal settings reply.1.text := by
  induction batch with
  | nil => cases member
  | cons request batch ih =>
    rcases List.mem_cons.1 member with rfl | later
    · exact ⟨List.mem_cons_self, rfl⟩
    · exact ⟨List.mem_cons_of_mem _ (ih later).1, (ih later).2⟩

/-- A letter about a lost request says nothing about its text. -/
theorem faithful_of_mem_lostLetters {requests : List Request} {entry : Ticket × Letter}
    (member : entry ∈ lostLetters requests) : LetterFaithful settings issued entry := by
  obtain ⟨request, -, rfl⟩ := List.mem_map.1 member
  trivial

/-- A step of a worker with a mock model that does not fail keeps the worker faithful, and the
letters that it writes are faithful. -/
theorem WorkerStep.faithful {s : State} {w : WorkerId} {worker worker' : Worker}
    {move : WorkerMove} {counters : Counters} {written : List (Ticket × Letter)}
    {events : List Event} (room : 1 ≤ settings.model.maxSequenceLength)
    (mock : (Label.worker w move).IsMock settings)
    (faithful : worker.Faithful settings issued)
    (step : WorkerStep settings s w worker move worker' counters written events) :
    worker'.Faithful settings issued ∧
      ∀ entry ∈ written, LetterFaithful settings issued entry := by
  have queue := faithful.queue
  have phase := faithful.phase
  have nothing : ∀ entry ∈ ([] : List (Ticket × Letter)),
      LetterFaithful settings issued entry := fun _ member => nomatch member
  cases step with
  | take waiting waits fits =>
    rw [waits] at queue
    refine ⟨⟨fun request member => queue request (List.mem_cons_of_mem _ member), ?_⟩, nothing⟩
    intro request member
    cases List.mem_singleton.1 member
    exact queue _ List.mem_cons_self
  | breakOff waiting waits fits =>
    exact ⟨⟨fun _ member => (nomatch member), trivial⟩,
      fun entry member => faithful_of_mem_lostLetters member⟩
  | takeMore gathering waits below =>
    rw [waits] at queue
    rw [gathering] at phase
    refine ⟨⟨fun request member => queue request (List.mem_cons_of_mem _ member), ?_⟩, nothing⟩
    intro request member
    rcases List.mem_append.1 member with before | new
    · exact phase request before
    · cases List.mem_singleton.1 new
      exact queue _ List.mem_cons_self
  | closeBatch gathering full =>
    rw [gathering] at phase
    exact ⟨⟨queue, phase⟩, nothing⟩
  | @check live rest request checking =>
    rw [checking] at phase
    refine ⟨⟨queue, fun other member => phase other ?_⟩, nothing⟩
    split at member
    · simpa using member
    · exact List.mem_append.2 ((List.mem_append.1 member).imp_right (List.mem_cons_of_mem _))
  | compute checking somebody holds =>
    rw [checking] at phase
    exact ⟨⟨queue, fun request member => phase request (List.mem_append_left _ member)⟩, nothing⟩
  | load checking somebody holds =>
    rw [checking] at phase
    exact ⟨⟨queue, fun request member => phase request (List.mem_append_left _ member)⟩, nothing⟩
  | loaded loading =>
    rw [loading] at phase
    exact ⟨⟨queue, phase⟩, nothing⟩
  | loadFails loading fails =>
    cases mock
    cases fails
  | compute_done computing holds outcome =>
    rw [computing] at phase
    rw [eq_engine_of_load mock, compute_ideal room] at outcome
    cases outcome
    refine ⟨⟨queue, fun reply member => ?_⟩, nothing⟩
    obtain ⟨own, made⟩ := mem_zip_ideal member
    exact ⟨phase reply.1 own, made⟩
  | compute_failed computing holds outcome =>
    rw [eq_engine_of_load mock, compute_ideal room] at outcome
    cases outcome
  | compute_aborted computing holds outcome =>
    rw [eq_engine_of_load mock, compute_ideal room] at outcome
    cases outcome
  | @reply request outcome replies counted size replying =>
    rw [replying] at phase
    obtain ⟨own, made⟩ := phase (request, outcome) List.mem_cons_self
    refine ⟨⟨queue, fun reply member => phase reply (List.mem_cons_of_mem _ member)⟩, ?_⟩
    intro entry member
    cases List.mem_singleton.1 member
    exact ⟨request.text, own, made⟩
  | finish isDone fits => exact ⟨⟨queue, trivial⟩, nothing⟩
  | finishBroken isDone fits =>
    exact ⟨⟨fun _ member => (nomatch member), trivial⟩,
      fun entry member => faithful_of_mem_lostLetters member⟩
  | unload waiting holds wanted due idle sender => exact ⟨⟨queue, phase⟩, nothing⟩
  | stop waiting idle noSender => exact ⟨⟨queue, trivial⟩, nothing⟩

/-! ## Steps -/

section Steps

variable {texts : CallId → List String} {s t : State}

/-- After one call has moved on and stayed faithful, all calls are faithful. -/
theorem Faithful.callsWith (faithful : Faithful settings issued texts s) {call call' : Call}
    (same : call'.id = call.id) (own : call'.Faithful settings issued (texts call.id)) :
    ∀ c ∈ s.callsWith call', c.Faithful settings issued (texts c.id) := by
  intro c member
  obtain ⟨before, there, rfl⟩ := List.mem_map.1 member
  split
  · rw [same]
    exact own
  · exact faithful.calls before there

/-- Issuing one more ticket keeps a service faithful. -/
theorem Faithful.issue (faithful : Faithful settings issued texts s) (text : String) :
    Faithful settings (issued ++ [text]) texts { s with nextTicket := s.nextTicket + 1 } where
  nextTicket_eq := by rw [List.length_append, ← faithful.nextTicket_eq]; rfl
  cache := faithful.cache
  workers worker member := (faithful.workers worker member).issue text
  letters entry member := (faithful.letters entry member).issue text
  late l member := getElem?_issue (faithful.late l member) text
  calls call member := (faithful.calls call member).issue text

/-- A letter that is found is faithful. -/
theorem Faithful.letter (faithful : Faithful settings issued texts s) {ticket : Ticket}
    {letter : Letter} (arrived : s.letter? ticket = some letter) :
    LetterFaithful settings issued (ticket, letter) :=
  faithful.letters _ (mem_of_letter? arrived)

/-- A step of a caller keeps a service faithful; going to the worker issues a ticket. -/
theorem CallerStep.faithful {id : CallId} {call : Call} {move : CallerMove} {events : List Event}
    (room : 1 ≤ settings.model.maxSequenceLength) (faithful : Faithful settings issued texts s)
    (found : s.call? id = some call) (step : CallerStep settings s call move t events) :
    ∃ issued, Faithful settings issued texts t := by
  have own := faithful.calls call (mem_of_call? found)
  cases step with
  | @find text rest embedding handing next known =>
    have made := faithful.cache.ideal_of_find? known
    have fair : Fair settings text (.ok embedding) := made ▸ fair_ideal room text
    refine ⟨issued, { faithful with
      cache := faithful.cache.get text
      calls := faithful.callsWith rfl (own.place ?_ rfl rfl rfl (.settled fair)) }⟩
    rw [Call.pending, handing, next]
    rfl
  | @miss text rest handing next unknown =>
    refine ⟨issued, { faithful with
      cache := faithful.cache.get text
      calls := faithful.callsWith rfl (own.turn ?_ rfl rfl fun _ _ waits => nomatch waits) }⟩
    rw [Call.pending, Call.pending, handing, next]
    rfl
  | turnedAway submitting nobody =>
    exact ⟨issued, { faithful with
      calls := faithful.callsWith rfl (own.settle (by rw [submitting]; rfl) (.unavailable _)) }⟩
  | @submit text w submitting held =>
    have later := faithful.issue text
    refine ⟨issued ++ [text], { later with
      calls := later.callsWith rfl ((own.issue text).turn ?_ rfl rfl ?_) }⟩
    · rw [Call.pending, Call.pending, submitting]
      rfl
    · intro _ request waits
      cases waits
      rw [Request.Faithful, faithful.nextTicket_eq, List.getElem?_concat_length]
  | shutOut waits there gone =>
    exact ⟨issued, { faithful with
      calls := faithful.callsWith rfl (own.settle (by rw [waits]; rfl) (.unavailable _)) }⟩
  | @send w request worker waits there present below =>
    have sent := own.sending w request waits
    refine ⟨issued, { faithful with
      workers := ?_
      calls := faithful.callsWith rfl (own.place ?_ rfl rfl rfl (.open sent)) }⟩
    · intro other member
      rcases List.mem_or_eq_of_mem_set member with before | rfl
      · exact faithful.workers other before
      · have receiver := faithful.workers worker (List.mem_of_getElem? there)
        refine ⟨fun other member => ?_, receiver.phase⟩
        rcases List.mem_append.1 member with before | new
        · exact receiver.queue other before
        · cases List.mem_singleton.1 new
          exact sent
    · rw [Call.pending, waits]
      rfl
  | giveUp waits there present crowded due =>
    exact ⟨issued, { faithful with
      calls := faithful.callsWith rfl (own.settle (by rw [waits]; rfl) (.unavailable _)) }⟩
  | collectSettled collecting next =>
    refine ⟨issued, { faithful with
      calls := faithful.callsWith rfl (own.collect next fun text place => ?_) }⟩
    cases place with
    | settled fair => exact fair
  | @receive text ticket slots letter collecting next arrived =>
    have issuedFor := own.issued_of_open next
    have written := faithful.letter arrived
    refine ⟨issued, { faithful with
      cache := ?_
      letters := fun entry member => faithful.letters entry (List.mem_of_mem_filter member)
      calls := faithful.callsWith rfl (own.collect next fun other place => ?_) }⟩
    · dsimp only
      split
      · exact faithful.cache.remembered written issuedFor
      · exact faithful.cache
    · cases place with
      | «open» _ => exact fair_outcomeOf room written issuedFor
  | @expire text ticket slots collecting next due missing =>
    refine ⟨issued, { faithful with
      late := ?_
      calls := faithful.callsWith rfl (own.collect next fun _ _ => .timeout _) }⟩
    intro l member
    dsimp only at member
    split at member
    · rcases List.mem_append.1 member with before | new
      · exact faithful.late l before
      · cases List.mem_singleton.1 new
        exact own.issued_of_open next
    · exact faithful.late l member
  | answer collecting all =>
    exact ⟨issued, { faithful with
      calls := fun c member => faithful.calls c (List.mem_of_mem_filter member) }⟩
  | leave waiting =>
    exact ⟨issued, { faithful with
      letters := fun entry member => faithful.letters entry (List.mem_of_mem_filter member)
      calls := fun c member => faithful.calls c (List.mem_of_mem_filter member) }⟩

/-- The beginning of a call that asks for its texts keeps a service faithful. -/
theorem Faithful.begin (faithful : Faithful settings issued texts s) (call : Call)
    (fresh : s.call? call.id = none) (slots : call.slots = []) (outcomes : call.outcomes = [])
    (sending : ∀ w request, call.stage ≠ .sending w request) :
    Faithful settings issued (fun other => if other = call.id then call.pending else texts other)
      { s with calls := s.calls ++ [call] } := by
  refine { faithful with calls := fun c member => ?_ }
  rcases List.mem_append.1 member with before | new
  · rw [if_neg (ne_of_call?_eq_none fresh c before)]
    exact faithful.calls c before
  · cases List.mem_singleton.1 new
    rw [if_pos rfl]
    refine ⟨fun w request waits => absurd waits (sending w request), [], [], rfl, ?_, ?_⟩
    · rw [outcomes]
      exact .nil
    · rw [slots]
      exact .nil

/-- Every step with a mock model that does not fail keeps a service faithful. -/
theorem Faithful.step {label : Label} {events : List Event}
    (room : 1 ≤ settings.model.maxSequenceLength) (mock : label.IsMock settings)
    (faithful : Faithful settings issued texts s)
    (transition : Transition settings s label t events) :
    ∃ issued, Faithful settings issued (label.asks texts) t := by
  cases transition with
  | start nobody =>
    refine ⟨issued, { faithful with workers := fun worker member => ?_ }⟩
    rcases List.mem_append.1 member with before | new
    · exact faithful.workers worker before
    · cases List.mem_singleton.1 new
      exact ⟨fun _ member => (nomatch member), trivial⟩
  | @embed id wanted fresh =>
    exact ⟨issued, faithful.begin (Caller.newCall settings s id wanted) fresh rfl rfl
      fun _ _ waits => nomatch waits⟩
  | @probe id text fresh =>
    exact ⟨issued, faithful.begin (Caller.newProbe settings s id text) fresh rfl rfl
      fun _ _ waits => nomatch waits⟩
  | caller found step => exact step.faithful room faithful found
  | @receiveLate ticket l letter awaited arrived =>
    have own := faithful.late l (List.mem_of_find?_eq_some awaited)
    have same : l.ticket = ticket := by simpa using List.find?_some awaited
    exact ⟨issued, { faithful with
      cache := faithful.cache.remembered (faithful.letter arrived) (same ▸ own)
      letters := fun entry member => faithful.letters entry (List.mem_of_mem_filter member)
      late := fun l member => faithful.late l (List.mem_of_mem_filter member) }⟩
  | @worker w move worker worker' counters written events found step =>
    have own := faithful.workers worker (List.mem_of_getElem? found)
    obtain ⟨later, letters⟩ := step.faithful room mock own
    refine ⟨issued, { faithful with workers := ?_, letters := ?_ }⟩
    · intro other member
      rcases List.mem_or_eq_of_mem_set member with before | rfl
      · exact faithful.workers other before
      · exact later
    · intro entry member
      rcases List.mem_append.1 member with before | new
      · exact faithful.letters entry before
      · exact letters entry (List.mem_of_mem_filter new)
  | startHeld held => exact ⟨issued, faithful⟩
  | shutDownNobody fresh nobody => exact ⟨issued, faithful⟩
  | shutDown fresh held => exact ⟨issued, { faithful with }⟩
  | finishEnding found known => exact ⟨issued, { faithful with }⟩
  | expireEnding found unknown due => exact ⟨issued, { faithful with }⟩
  | leaveEnding found => exact ⟨issued, { faithful with }⟩
  | pass time => exact ⟨issued, { faithful with }⟩

end Steps

/-- Every run with a mock model that does not fail is faithful to the texts asked for. -/
theorem faithful_of_run {s : State} {labels : List Label} {events : List Event}
    (room : 1 ≤ settings.model.maxSequenceLength)
    (run : Run settings (initial settings) labels events s)
    (mock : ∀ label ∈ labels, label.IsMock settings) :
    ∃ issued, Faithful settings issued (asked labels) s := by
  induction run with
  | none =>
    exact ⟨[], rfl, fun _ member => (nomatch member), fun _ member => (nomatch member),
      fun _ member => (nomatch member), fun _ member => (nomatch member),
      fun _ member => (nomatch member)⟩
  | @step s t labels events more label before next ih =>
    obtain ⟨issued, faithful⟩ := ih fun label member => mock label (List.mem_append_left _ member)
    have last := mock label (List.mem_append_right _ List.mem_cons_self)
    rw [asked, List.foldl_append]
    exact faithful.step room last (transition_of_step next)

/-- A call that is answered has collected an outcome for everything that it handed in. -/
theorem collected_of_answered {s t : State} {label : Label} {more : List Event} {id : CallId}
    {outcomes : List ItemOutcome} (transition : Transition settings s label t more)
    (told : .answered id outcomes ∈ more) :
    ∃ call, s.call? id = some call ∧ call.isCollecting = true ∧ call.slots = [] ∧
      outcomes = call.outcomes := by
  cases transition with
  | @caller id' move call _ _ found step =>
    cases step with
    | answer collecting all =>
      cases List.mem_singleton.1 told
      exact ⟨call, by rw [id_of_call? found]; exact found, collecting, all, rfl⟩
    | receive =>
      split at told
      · obtain ⟨embedding, other⟩ := eq_remembered_of_mem told
        cases other
      · cases told
    | _ => simp at told
  | worker found step => cases step.worker?_eq _ told
  | receiveLate =>
    obtain ⟨embedding, other⟩ := eq_remembered_of_mem told
    cases other
  | _ => simp at told

/-- In every run with a mock model that does not fail, each vector in the cache is what the
model makes of its text alone, and whenever a call is answered it is told one outcome for each
of its texts, in order: that the answer is late, that no worker answered, or what the model
makes of the text alone. -/
theorem answers_alone {s : State} {labels : List Label} {events : List Event}
    (room : 1 ≤ settings.model.maxSequenceLength)
    (run : Run settings (initial settings) labels events s)
    (mock : ∀ label ∈ labels, label.IsMock settings) :
    (∀ key embedding, (key, embedding) ∈ s.cache.entries → ∃ text, key = keyOf settings text ∧
      ((Mock.engine {} settings.model).compute [text] settings.effectiveDim).outcome =
        .done [.ok embedding]) ∧
      ∀ label t more id outcomes, step settings s label = some (t, more) →
        .answered id outcomes ∈ more →
        List.Forall₂ (Fair settings) (asked labels id) outcomes := by
  obtain ⟨issued, faithful⟩ := faithful_of_run room run mock
  constructor
  · intro key embedding member
    obtain ⟨text, own, made⟩ := faithful.cache (key, embedding) member
    exact ⟨text, own, by rw [compute_ideal room, List.map_singleton, made]⟩
  · intro label t more id outcomes next told
    obtain ⟨call, found, collecting, all, rfl⟩ :=
      collected_of_answered (transition_of_step next) told
    have own := faithful.calls call (mem_of_call? found)
    rw [id_of_call? found] at own
    exact own.fair collecting all

/-- Settings with the mock model. -/
def mocked : Settings := mockSettings 1 7

/-- A caller collects the reply to its first text, and stops waiting for the second. -/
def halfLate : List Label :=
  [.start, .embed 0 ["", "a"]] ++ handIn 0 ++
    [.worker 0 .take, .worker 0 .closeBatch, .worker 0 .check, .worker 0 .proceed,
      .worker 0 (.finishLoading (.done ())),
      .worker 0 (.finishComputing (Mock.engine {} mocked.model)), .worker 0 .reply,
      .worker 0 .finishBatch] ++ handIn 0 ++
    [.caller 0 .collect, .pass mocked.requestTimeout, .caller 0 .expire]

/-- A caller that waits for the first of its texts only is told that it has no tokens, and that
the answer for the second is late. -/
theorem halfLate_alone :
    ∃ events s t, Run mocked (initial mocked) halfLate events s ∧
      (∀ label ∈ halfLate, label.IsMock mocked) ∧
      step mocked s (.caller 0 .answer) =
        some (t, [.answered 0 [.error .emptyInput, .error (Caller.late mocked)]]) ∧
      List.Forall₂ (Fair mocked) ["", "a"] [.error .emptyInput, .error (Caller.late mocked)] := by
  obtain ⟨events, s, t, run, next⟩ : ∃ events s t,
      Run mocked (initial mocked) halfLate events s ∧ step mocked s (.caller 0 .answer) =
        some (t, [.answered 0 [.error .emptyInput, .error (Caller.late mocked)]]) :=
    ⟨_, _, _, run_of_stepAll rfl, rfl⟩
  have mock : ∀ label ∈ halfLate, label.IsMock mocked := by
    simp [halfLate, handIn, Label.IsMock, Mock.load]
  exact ⟨events, s, t, run, mock, next,
    (answers_alone (by decide) run mock).2 _ _ _ _ _ next List.mem_cons_self⟩

end Matryoshka.Service
