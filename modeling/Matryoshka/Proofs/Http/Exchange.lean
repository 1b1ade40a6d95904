import Matryoshka.Http.Exchange
import Matryoshka.Proofs.Engine.Conduct
import Matryoshka.Proofs.Service.Drives
import Matryoshka.Proofs.Service.Outcomes

/-!
# Exchanges and calls

A request for vectors is one call to the service, and its response says no more and no less than
the outcomes of this call. Any other request leaves the service alone. The response to one text
states the length of its vector as the dimension, the response to a batch that of the settings.
These agree since every vector that an engine makes has the length that the settings ask for, and
so has every vector that a caller can be told (`length_of_answered`).
-/

namespace Matryoshka

open Service

namespace Wire

/-- The texts that a request for vectors has. -/
def EmbedInput.texts : EmbedInput → List String
  | .single text => [text]
  | .batch texts => texts

/-- The item of a batch for an outcome: the vector, or what a client is told about the
failure. -/
inductive BatchItem.Shows : ItemOutcome → BatchItem → Prop
  /-- A vector is shown as it is. -/
  | vector (vector : Embedding) : Shows (.ok vector) (.embedding vector)
  /-- A failure is shown in words. -/
  | failure (failure : Failure) : Shows (.error failure) (.error (.ofFailure failure))

/-- The items of a batch show its outcomes, one by one. -/
theorem shows_ofOutcomes (outcomes : List ItemOutcome) :
    List.Forall₂ BatchItem.Shows outcomes (outcomes.map BatchItem.ofOutcome) := by
  induction outcomes with
  | nil => exact .nil
  | cons outcome outcomes ih =>
    refine .cons ?_ ih
    cases outcome with
    | ok vector => exact .vector vector
    | error failure => exact .failure failure

/-- As many items are errors as outcomes are failures. -/
theorem failed_ofOutcomes (outcomes : List ItemOutcome) (dimension : Nat) :
    (BatchResponse.ofOutcomes outcomes dimension).failed =
      outcomes.countP fun outcome => !outcome.isOk := by
  rw [BatchResponse.failed, BatchResponse.ofOutcomes, List.countP_map]
  refine List.countP_congr fun outcome _ => ?_
  cases outcome <;> rfl

end Wire

namespace Http

/-! ## What a request asks for -/

/-- A request asks for vectors: its method and path say so, and its body is accepted. -/
structure Request.Asks (request : Request) (input : Wire.EmbedInput) : Prop where
  /-- It sends something. -/
  method : request.method = "POST"
  /-- It sends it to the right place. -/
  path : request.path = "/embed"
  /-- Its body can be read, is a document of the right type, and makes sense. -/
  accepted : ∃ bytes document, request.body = .ok bytes ∧
    Json.readDocument Wire.EmbedRequest.read bytes = .ok document ∧ document.toInput = .ok input

/-- The demand for the vectors of an input. -/
def Demand.ofInput : Wire.EmbedInput → Demand
  | .single text => .embed text
  | .batch texts => .embedAll texts

/-- A body asks for vectors exactly if it is accepted. -/
theorem ofBody_eq_ofInput_iff {body : Except String (List UInt8)} {input : Wire.EmbedInput} :
    Request.ofBody body = .ofInput input ↔ ∃ bytes document, body = .ok bytes ∧
      Json.readDocument Wire.EmbedRequest.read bytes = .ok document ∧
      document.toInput = .ok input := by
  constructor
  · intro asks
    unfold Request.ofBody at asks
    split at asks
    · cases input <;> cases asks
    · rename_i bytes
      split at asks
      · cases input <;> cases asks
      · rename_i document read
        refine ⟨bytes, document, rfl, read, ?_⟩
        split at asks
        · rename_i text single
          cases input <;> cases asks
          exact single
        · rename_i texts batch
          cases input <;> cases asks
          exact batch
        · cases input <;> cases asks
  · rintro ⟨bytes, document, rfl, read, meant⟩
    simp only [Request.ofBody, read, meant]
    cases input <;> rfl

/-- A request asks for vectors exactly if this is its demand. -/
theorem demand_eq_ofInput_iff {request : Request} {input : Wire.EmbedInput} :
    request.demand = .ofInput input ↔ request.Asks input := by
  constructor
  · intro asks
    unfold Request.demand at asks
    split at asks
    · rename_i method path
      exact ⟨method, path, ofBody_eq_ofInput_iff.1 asks⟩
    all_goals cases input <;> cases asks
  · rintro ⟨method, path, accepted⟩
    simp only [Request.demand, method, path]
    exact ofBody_eq_ofInput_iff.2 accepted

/-! ## What a response says -/

/-- The response to an accepted request says what the outcomes of its call are; the vectors of the
service have `dim` components. -/
inductive Shows (dim : Nat) : Wire.EmbedInput → List ItemOutcome → Response → Prop
  /-- The vector of one text, with its length. -/
  | vector (text : String) {vector : Embedding} (full : vector.length = dim) :
      Shows dim (.single text) [.ok vector] ⟨.ok, .embedding ⟨vector, dim⟩⟩
  /-- The failure of one text, with the status for it. -/
  | failure (text : String) (failure : Failure) :
      Shows dim (.single text) [.error failure] ⟨.ofFailure failure, .error (.ofFailure failure)⟩
  /-- An item for each text of a batch, in order: a vector for a vector, an error for a
  failure. -/
  | batch {texts : List String} {outcomes : List ItemOutcome} {response : Wire.BatchResponse}
      (items : List.Forall₂ Wire.BatchItem.Shows outcomes response.embeddings)
      (all : response.embeddings.length = texts.length)
      (failed : response.failed = outcomes.countP fun outcome => !outcome.isOk)
      (dimension : response.dimension = dim)
      (full : ∀ vector, .embedding vector ∈ response.embeddings → vector.length = dim) :
      Shows dim (.batch texts) outcomes ⟨.ok, .batch response⟩

variable {settings : Settings} {address : String} {request : Request} {input : Wire.EmbedInput}
  {outcomes : List ItemOutcome} {s : State}

/-- A request for vectors asks for one call. -/
theorem label?_of_asks (asks : request.Asks input) (id : CallId) :
    (Exchange.begin settings address s request).label? id = some (.embed id input.texts) := by
  rw [Exchange.begin, demand_eq_ofInput_iff.2 asks]
  cases input <;> rfl

/-- Any other request is answered at once. -/
theorem label?_of_not_asks (none : ∀ input, ¬request.Asks input) (id : CallId) :
    (Exchange.begin settings address s request).label? id = Option.none := by
  unfold Exchange.begin
  split
  · rename_i text demand
    exact absurd (demand_eq_ofInput_iff.1 demand) (none (.single text))
  · rename_i texts demand
    exact absurd (demand_eq_ofInput_iff.1 demand) (none (.batch texts))
  all_goals rfl

/-- The response to a batch says what its outcomes are. -/
theorem shows_batch {dim : Nat} {texts : List String} (one : outcomes.length = texts.length)
    (full : ∀ outcome ∈ outcomes, Full dim outcome) :
    Shows dim (.batch texts) outcomes (.ofOutcomes outcomes dim) := by
  refine .batch (Wire.shows_ofOutcomes outcomes) ?_ (Wire.failed_ofOutcomes outcomes dim) rfl ?_
  · exact (List.length_map _).trans one
  · intro vector member
    obtain ⟨outcome, there, item⟩ := List.mem_map.1 member
    cases outcome with
    | error failure => cases item
    | ok own =>
      cases item
      exact full (.ok vector) there vector rfl

/-- The response to a request says what the outcomes of its call are. -/
theorem shows_response (asks : request.Asks input) (one : outcomes.length = input.texts.length)
    (full : ∀ outcome ∈ outcomes, Full settings.effectiveDim outcome) :
    Shows settings.effectiveDim input outcomes
      ((Exchange.begin settings address s request).response outcomes) := by
  rw [Exchange.begin, demand_eq_ofInput_iff.2 asks]
  cases input with
  | single text =>
    obtain ⟨outcome, rfl⟩ := List.length_eq_one_iff.1 one
    cases outcome with
    | error failure => exact .failure text failure
    | ok vector =>
      -- the response measures the vector, the service knows the length from its settings
      have length := full (.ok vector) List.mem_cons_self vector rfl
      have shows := Shows.vector text length
      rw [← length] at shows ⊢
      exact shows
  | batch texts => exact shows_batch one full

/-! ## Serving -/

variable {loader : Loader} {d : Drive} {id : CallId}

/-- A request for vectors is served by its call, and answered when the call is. -/
theorem serve_of_asks (asks : request.Asks input) :
    serve settings loader address d id request =
      (d.call settings loader (.embed id input.texts) id,
        ((d.call settings loader (.embed id input.texts) id).answer? id).map
          (Exchange.begin settings address d.service request).response) := by
  simp only [serve, label?_of_asks asks]

/-- Any other request is answered, and leaves the drive as it is. -/
theorem serve_of_not_asks (none : ∀ input, ¬request.Asks input) :
    serve settings loader address d id request =
      (d, some ((Exchange.begin settings address d.service request).response [])) := by
  simp only [serve, label?_of_not_asks none]

/-- The call of a request is answered with what the response to the request shows. -/
theorem shows_of_answered {labels : List Label} {events more : List Event} {label : Label}
    {seen t : State} (asks : request.Asks input)
    (run : Run settings (initial settings) labels events s)
    (wanted : asked labels id = input.texts) (next : step settings s label = some (t, more))
    (answered : .answered id outcomes ∈ more) :
    Shows settings.effectiveDim input outcomes
      ((Exchange.begin settings address seen request).response outcomes) := by
  obtain ⟨one, full⟩ := full_of_answered run next answered
  rw [wanted] at one
  exact shows_response asks one full

/-- A request for vectors gets a response exactly if its call is answered, and the response shows
this answer. -/
theorem shows_serve {labels : List Label} {events : List Event} (asks : request.Asks input)
    (recorded : d.Recorded settings labels events) (fresh : d.service.call? id = none)
    (unanswered : d.answer? id = none) :
    Option.Rel (Shows settings.effectiveDim input)
      ((serve settings loader address d id request).1.answer? id)
      (serve settings loader address d id request).2 := by
  rw [serve_of_asks asks]
  cases answer : (d.call settings loader (.embed id input.texts) id).answer? id with
  | none => exact .none
  | some outcomes =>
    refine .some ?_
    obtain ⟨later, seen, s, label, t, more, run, quiet, next, answered⟩ :=
      recorded.answered_of_call fresh unanswered answer
    refine shows_of_answered asks run ?_ next answered
    rw [List.append_cons, asked_of_quiet quiet, asked, List.foldl_append]
    exact if_pos rfl

/-- The server is a faithful adapter of its service. A request for vectors does to the service what
one call for its texts does, and nothing else. However the steps of callers and workers are
interleaved, when this call is answered the response to the request shows its outcomes: for one
text the vector with its length, which is that of the settings, or the failure with its status;
for a batch an item for each text in order. A server by itself responds to a request with a fresh
number exactly if its call is answered, and with what this answer is. Every other request is
answered and leaves the server, its service with the cache, the counters, the queue and the workers,
as it is. -/
theorem exchange_faithful (settings : Settings) (address : String) (request : Request) :
    (∀ input, request.Asks input →
      (∀ s id, (Exchange.begin settings address s request).label? id =
        some (.embed id input.texts)) ∧
      (∀ loader d id, (serve settings loader address d id request).1 =
        d.call settings loader (.embed id input.texts) id) ∧
      (∀ labels events s label t more id outcomes seen,
        Run settings (initial settings) labels events s → asked labels id = input.texts →
        step settings s label = some (t, more) → .answered id outcomes ∈ more →
        Shows settings.effectiveDim input outcomes
          ((Exchange.begin settings address seen request).response outcomes)) ∧
      (∀ loader d id labels events, d.Recorded settings labels events →
        d.service.call? id = none → d.answer? id = none →
        Option.Rel (Shows settings.effectiveDim input)
          ((serve settings loader address d id request).1.answer? id)
          (serve settings loader address d id request).2)) ∧
    ((∀ input, ¬request.Asks input) →
      (∀ s id, (Exchange.begin settings address s request).label? id = none) ∧
      (∀ loader d id, (serve settings loader address d id request).1 = d ∧
        (serve settings loader address d id request).2.isSome = true)) := by
  constructor
  · intro input asks
    refine ⟨fun s id => label?_of_asks asks id, fun loader d id => ?_, ?_, ?_⟩
    · rw [serve_of_asks asks]
    · intro labels events s label t more id outcomes seen run wanted next answered
      exact shows_of_answered asks run wanted next answered
    · intro loader d id labels events recorded fresh unanswered
      exact shows_serve asks recorded fresh unanswered
  · intro none
    refine ⟨fun s id => label?_of_not_asks none id, fun loader d id => ?_⟩
    rw [serve_of_not_asks none]
    exact ⟨rfl, rfl⟩

/-- A batch of an empty text and a word is answered with an error and a vector. A request for the
health of the server leaves it as it is. -/
theorem mixedBatch_faithful :
    let body := "\x7b\"texts\": [\"\", \"a\"]\x7d".toUTF8.toList
    let request : Request := { method := "POST", target := "/embed", body := .ok body }
    let other : Request := { method := "GET", target := "/health" }
    let d := (Drive.initial mocked).perform mocked .plain .start
    ∃ outcomes response,
      (serve mocked .plain "127.0.0.1:8080" d 0 request).2 = some response ∧
      outcomes.map Except.isOk = [false, true] ∧
      Shows 2 (.batch ["", "a"]) outcomes response ∧
      (serve mocked .plain "127.0.0.1:8080" d 0 other).1 = d := by
  intro body request other d
  have read : Json.readDocument Wire.EmbedRequest.read body = .ok ⟨none, some ["", "a"]⟩ := by
    -- whether two results are equal is decided for options only
    have found : (Json.readDocument Wire.EmbedRequest.read body).toOption =
        some ⟨none, some ["", "a"]⟩ := by decide +kernel
    cases document : Json.readDocument Wire.EmbedRequest.read body with
    | error fault =>
      rw [document] at found
      cases found
    | ok read =>
      rw [document] at found
      exact congrArg _ (Option.some.inj found)
  have asks : request.Asks (.batch ["", "a"]) :=
    ⟨rfl, by decide +kernel, body, _, rfl, read, rfl⟩
  have quiet : Label.start.begins? = none := rfl
  obtain ⟨labels, events, recorded⟩ :=
    Drive.recorded_initial.reaches (Drive.reaches_perform quiet (Drive.initial mocked))
  have answered : ((serve mocked .plain "127.0.0.1:8080" d 0 request).1.answer? 0).map
      (·.map Except.isOk) = some [false, true] := by decide +kernel
  have shown := ((exchange_faithful mocked "127.0.0.1:8080" request).1 _ asks).2.2.2 .plain d 0
    labels events recorded (by decide +kernel) (by decide +kernel)
  obtain ⟨outcomes, told, kinds⟩ := Option.map_eq_some_iff.1 answered
  have untouched := (exchange_faithful mocked "127.0.0.1:8080" other).2
    fun input asks => absurd asks.method (by decide)
  rw [told] at shown
  generalize (serve mocked .plain "127.0.0.1:8080" d 0 request).2 = reply at shown ⊢
  cases shown with
  | some shows => exact ⟨outcomes, _, rfl, kinds, shows, (untouched.2 .plain d 0).1⟩

end Http

end Matryoshka
