import Matryoshka.Wire.EmbedResponse
import Matryoshka.Wire.Health
import Matryoshka.Proofs.Http.Grammar
import Matryoshka.Proofs.Json.Writing

/-!
# Messages are read back as they were printed

Every message without numbers of vectors is read back from its JSON text, whatever its strings hold
and whichever of its fields are absent (`messages_faithful`). What a printed message says is a tree
that does not depend on the printer. The text spells this tree, and the reader, which understands
documents, decodes the tree to the message; so two messages of one kind never have the same text,
and the text of an error in a batch is not read as a vector.
-/

namespace Matryoshka.Wire

open Json Print

/-- How messages of one kind are printed agrees with how they are read. -/
structure Faithful {α : Type} (print : α → List Char) (read : Reader α) (legal : α → Prop) :
    Prop where
  /-- A message is read back from its text. -/
  readBack : ∀ message, legal message →
    readDocument read (String.ofList (print message)).toUTF8.toList = .ok message
  /-- No two messages have the same text. -/
  injective : ∀ message other, legal message → legal other → print message = print other →
    message = other

/-- Printing agrees with reading if the text of a message spells a tree that means it. -/
theorem Faithful.of_decode {α : Type} {print : α → List Char} {read : Reader α} {legal : α → Prop}
    {decode : Tree → Option α} (understands : Understands read decode)
    (means : ∀ message, legal message →
      ∃ tree, Spells tree (utf8 (print message)) ∧ decode tree = some message) :
    Faithful print read legal := by
  have readBack (message : α) (own : legal message) :
      readDocument read (String.ofList (print message)).toUTF8.toList = .ok message := by
    obtain ⟨tree, spells, decoded⟩ := means message own
    exact readDocument_utf8 understands spells decoded
  refine ⟨readBack, fun message other own others same => ?_⟩
  have read := readBack message own
  rw [same, readBack other others] at read
  exact (Except.ok.inj read).symm

/-! ## Requests -/

namespace EmbedRequest

/-- What the document of a request says. -/
def tree (request : EmbedRequest) : Tree :=
  .object (memberOf "text" (request.text.map .string) ++
    memberOf "texts" (request.texts.map fun texts => .list (texts.map .string)))

/-- Texts are spelled as they are printed. -/
theorem spells_texts (texts : List String) :
    Spells (.list (texts.map .string)) (utf8 (Print.list (texts.map Print.string))) := by
  apply spells_list
  rw [List.forall₂_map_left_iff, List.forall₂_map_right_iff, List.forall₂_same]
  exact fun text _ => .string (spellsString_string text)

/-- A request is spelled as it is printed. -/
theorem spells_tree (request : EmbedRequest) : Spells request.tree (utf8 request.print) := by
  apply spells_object
  apply List.rel_append
  · exact shows_optional "text" (fun text => .string (spellsString_string text)) request.text
  · exact shows_optional "texts" spells_texts request.texts

/-- The document of a request means this request. -/
theorem decode_tree (request : EmbedRequest) :
    decodeRecord record meanings request.tree = some request := by
  obtain ⟨text, texts⟩ := request
  refine decodeRecord_object_iff.2 ⟨⟨text.map .string, ?_, ?_⟩,
    texts.map fun texts => .list (texts.map .string), ?_, ?_⟩
  · cases text <;> cases texts <;> simp [valuesOf, memberOf]
  · cases text <;> rfl
  · cases text <;> cases texts <;> simp [valuesOf, memberOf]
  · cases texts with
    | none => rfl
    | some texts => simp [fieldOf, Tree.optional, list?_eq_some_iff]

/-- Requests are read back, well-formed or not. -/
theorem faithful : Faithful print read fun _ => True :=
  .of_decode understands_read fun request _ =>
    ⟨request.tree, request.spells_tree, request.decode_tree⟩

end EmbedRequest

/-! ## Errors -/

/-- A text that may be `null` is read as it is. -/
theorem understands_optionalText :
    Understands (readOption readString) (Tree.optional Tree.string?) :=
  understands_readOption understands_readString

namespace ErrorResponse

/-- What the document of a response says. -/
def tree (response : ErrorResponse) : Tree :=
  .object (("error", .string response.error) ::
    (memberOf "code" (response.code.map .string) ++
      memberOf "details" (response.details.map .string)))

/-- The fields of a response and what their values mean. -/
def meanings : List (Meaning Gathered) := [
  .of "error" (fun g => g.error.isSome) (fun g v => { g with error := some v })
    understands_readString,
  .of "code" (fun g => g.code.isSome) (fun g v => { g with code := some v })
    understands_optionalText,
  .of "details" (fun g => g.details.isSome) (fun g v => { g with details := some v })
    understands_optionalText]

/-- Responses are read as they are meant. -/
theorem understands_read : Understands read (decodeRecord record meanings) :=
  understands_record rfl

/-- A response is spelled as it is printed. -/
theorem spells_tree (response : ErrorResponse) : Spells response.tree (utf8 response.print) := by
  have optional (key : String) (value : Option String) :=
    shows_optional key (fun text => .string (spellsString_string text)) value
  exact spells_object (.cons ⟨rfl, .string (spellsString_string _)⟩
    (List.rel_append (optional "code" _) (optional "details" _)))

/-- The document of a response means this response. -/
theorem decode_tree (response : ErrorResponse) :
    decodeRecord record meanings response.tree = some response := by
  obtain ⟨error, code, details⟩ := response
  cases code <;> cases details <;> rfl

/-- Responses are read back. -/
theorem faithful : Faithful print read fun _ => True :=
  .of_decode understands_read fun response _ =>
    ⟨response.tree, response.spells_tree, response.decode_tree⟩

end ErrorResponse

/-! ## Health -/

namespace HealthReport

/-- The counts of a report have 64 bits. -/
structure Fits (report : HealthReport) : Prop where
  /-- The size of vectors. -/
  dimension : report.dimension < UInt64.size
  /-- The requests that wait. -/
  queueDepth : report.queueDepth < UInt64.size
  /-- The requests that may wait. -/
  queueCapacity : report.queueCapacity < UInt64.size

/-- The members of the document of a report. -/
def members (report : HealthReport) : List (String × Tree) := [
  ("status", .string report.status.label),
  ("model", .string report.model),
  ("version", .string report.version),
  ("dimension", .number (utf8 (Print.count report.dimension))),
  ("worker", .string report.worker.label),
  ("queue_depth", .number (utf8 (Print.count report.queueDepth))),
  ("queue_capacity", .number (utf8 (Print.count report.queueCapacity)))]

/-- The fields of a report and what their values mean. -/
def meanings : List (Meaning Gathered) := [
  .of "status" (fun g => g.status.isSome) (fun g v => { g with status := some v })
    (understands_readChoice Health.table),
  .of "model" (fun g => g.model.isSome) (fun g v => { g with model := some v })
    understands_readString,
  .of "version" (fun g => g.version.isSome) (fun g v => { g with version := some v })
    understands_readString,
  .of "dimension" (fun g => g.dimension.isSome) (fun g v => { g with dimension := some v })
    understands_readCount,
  .of "worker" (fun g => g.worker.isSome) (fun g v => { g with worker := some v })
    (understands_readChoice WorkerStatus.table),
  .of "queue_depth" (fun g => g.queueDepth.isSome) (fun g v => { g with queueDepth := some v })
    understands_readCount,
  .of "queue_capacity" (fun g => g.queueCapacity.isSome)
    (fun g v => { g with queueCapacity := some v }) understands_readCount]

/-- Reports are read as they are meant. -/
theorem understands_read : Understands read (decodeRecord record meanings) :=
  understands_record rfl

/-- A report is spelled as it is printed. -/
theorem spells_print (report : HealthReport) :
    Spells (.object report.members) (utf8 report.print) := by
  have text (key text : String) : Shows (key, .string text) (key, Print.string text) :=
    ⟨rfl, .string (spellsString_string text)⟩
  have count (key : String) (n : Nat) :
      Shows (key, .number (utf8 (Print.count n))) (key, Print.count n) :=
    ⟨rfl, .number (spellsNumber_count n)⟩
  exact spells_object (.cons (text _ _) (.cons (text _ _) (.cons (text _ _) (.cons (count _ _)
    (.cons (text _ _) (.cons (count _ _) (.cons (count _ _) .nil)))))))

/-- The name of a status is that of no other. -/
theorem choice?_status (status : Health) :
    Tree.choice? Health.table (.string status.label) = some status := by
  cases status <;> rfl

/-- The name of a worker status is that of no other. -/
theorem choice?_worker (worker : WorkerStatus) :
    Tree.choice? WorkerStatus.table (.string worker.label) = some worker := by
  cases worker <;> rfl

/-- The fields are gathered from the members one by one. -/
theorem gather_members (report : HealthReport) (fits : report.Fits) :
    report.members.foldlM (gatherMember meanings) record.start =
      some ⟨some report.status, some report.model, some report.version, some report.dimension,
        some report.worker, some report.queueDepth, some report.queueCapacity⟩ := by
  have dimension := count?_count fits.dimension
  have depth := count?_count fits.queueDepth
  have capacity := count?_count fits.queueCapacity
  simp [members, record, gatherMember, meanings, Meaning.of, Tree.string?, choice?_status,
    choice?_worker, dimension, depth, capacity]

/-- The document of a report means this report. -/
theorem decode_members (report : HealthReport) (fits : report.Fits) :
    decodeRecord record meanings (.object report.members) = some report := by
  rw [decodeRecord, gather_members report fits]
  rfl

/-- Reports are read back. -/
theorem faithful : Faithful print read Fits :=
  .of_decode understands_read fun report fits =>
    ⟨.object report.members, report.spells_print, report.decode_members fits⟩

end HealthReport

/-! ## Batches -/

namespace BatchItem

/-- The item that the document of an item means, two levels down. -/
def decode (tree : Tree) : Option BatchItem := (tree.value? (Value.deepest - 2)).bind ofValue?

/-- Items are read as they are meant. -/
theorem understands_read : Understands read decode := by
  intro tree bytes spells p blank rest only follows
  have own := understands_value 2 spells (p := p) only follows
  rw [read, decode]
  obtain ⟨value, decoded, read⟩ | ⟨decoded, stop, refused⟩ := own.read_or_refused
  · rw [decoded, Option.bind_some]
    simp only [read]
    cases ofValue? value with
    | some item => rfl
    | none => exact ⟨_, rfl⟩
  · rw [decoded, Option.bind_none]
    simp only [refused]
    exact ⟨stop, rfl⟩

/-- The document of an error means this error, and no vector. -/
theorem decode_error (response : ErrorResponse) :
    decode response.tree = some (.error response) := by
  obtain ⟨error, code, details⟩ := response
  cases code <;> cases details <;> rfl

/-- Errors are read back, and none of them as a vector. -/
theorem faithful : Faithful print read fun item => item.isError = true := by
  refine .of_decode understands_read fun item isError => ?_
  cases item with
  | embedding vector => cases isError
  | error response => exact ⟨response.tree, response.spells_tree, decode_error response⟩

end BatchItem

namespace BatchResponse

/-- A batch of errors with a size of 64 bits. -/
structure OnlyErrors (response : BatchResponse) : Prop where
  /-- Every item is an error. -/
  errors : ∀ item ∈ response.embeddings, item.isError = true
  /-- The stated size. -/
  dimension : response.dimension < UInt64.size

/-- The members of the document of a batch of errors. -/
def members (errors : List ErrorResponse) (dimension : Nat) : List (String × Tree) := [
  ("embeddings", .list (errors.map ErrorResponse.tree)),
  ("dimension", .number (utf8 (Print.count dimension)))]

/-- The fields of an answer to a batch and what their values mean. -/
def meanings : List (Meaning Gathered) := [
  .of "embeddings" (fun g => g.embeddings.isSome) (fun g v => { g with embeddings := some v })
    (understands_readList BatchItem.understands_read),
  .of "dimension" (fun g => g.dimension.isSome) (fun g v => { g with dimension := some v })
    understands_readCount]

/-- Answers to batches are read as they are meant. -/
theorem understands_read : Understands read (decodeRecord record meanings) :=
  understands_record rfl

/-- A batch of errors is spelled as it is printed. -/
theorem spells_print (errors : List ErrorResponse) (dimension : Nat) :
    Spells (.object (members errors dimension))
      (utf8 (print ⟨errors.map .error, dimension⟩)) := by
  have items : Spells (.list (errors.map ErrorResponse.tree))
      (utf8 (Print.list ((errors.map BatchItem.error).map BatchItem.print))) := by
    apply spells_list
    rw [List.map_map, List.forall₂_map_left_iff, List.forall₂_map_right_iff, List.forall₂_same]
    exact fun response _ => response.spells_tree
  exact spells_object (.cons ⟨rfl, items⟩ (.cons ⟨rfl, .number (spellsNumber_count _)⟩ .nil))

/-- The document of a batch of errors means this batch. -/
theorem decode_members (errors : List ErrorResponse) {dimension : Nat}
    (fits : dimension < UInt64.size) :
    decodeRecord record meanings (.object (members errors dimension)) =
      some ⟨errors.map BatchItem.error, dimension⟩ := by
  have items : Tree.list? BatchItem.decode (.list (errors.map ErrorResponse.tree)) =
      some (errors.map BatchItem.error) := by
    rw [Tree.list?]
    induction errors with
    | nil => rfl
    | cons response errors ih => simp [List.mapM_cons, BatchItem.decode_error, ih]
  have size := count?_count fits
  have gathered : (members errors dimension).foldlM (gatherMember meanings) record.start =
      some ⟨some (errors.map BatchItem.error), some dimension⟩ := by
    simp [members, record, gatherMember, meanings, Meaning.of, items, size]
  rw [decodeRecord, gathered]
  rfl

/-- Items that are errors hold responses. -/
theorem exists_errors {items : List BatchItem} (all : ∀ item ∈ items, item.isError = true) :
    ∃ errors : List ErrorResponse, items = errors.map .error := by
  induction items with
  | nil => exact ⟨[], rfl⟩
  | cons item items ih =>
    obtain ⟨own, others⟩ := List.forall_mem_cons.1 all
    obtain ⟨errors, rfl⟩ := ih others
    cases item with
    | embedding vector => cases own
    | error response => exact ⟨response :: errors, rfl⟩

/-- Batches of errors are read back. -/
theorem faithful : Faithful print read OnlyErrors := by
  refine .of_decode understands_read fun response only => ?_
  obtain ⟨items, dimension⟩ := response
  obtain ⟨errors, rfl⟩ := exists_errors only.errors
  exact ⟨.object (members errors dimension), spells_print errors dimension,
    decode_members errors only.dimension⟩

end BatchResponse

/-! ## All messages without vectors -/

/-- Every message without vectors is read back from its JSON text, and no two of one kind have the
same text: requests, well-formed or not, responses to failed requests, health reports, batches of
errors, and the items of such batches, which are never taken for vectors. -/
theorem messages_faithful :
    Faithful EmbedRequest.print EmbedRequest.read (fun _ => True) ∧
      Faithful ErrorResponse.print ErrorResponse.read (fun _ => True) ∧
      Faithful HealthReport.print HealthReport.read HealthReport.Fits ∧
      Faithful BatchResponse.print BatchResponse.read BatchResponse.OnlyErrors ∧
      Faithful BatchItem.print BatchItem.read (fun item => item.isError = true) :=
  ⟨EmbedRequest.faithful, ErrorResponse.faithful, HealthReport.faithful, BatchResponse.faithful,
    BatchItem.faithful⟩

/-- A quote, a backslash, two control characters and a character beyond the first plane are read
back in a batch, the code that is absent stays absent, and so does the largest count. -/
theorem escapes_faithful :
    let response : ErrorResponse := { error := "\"\\\n\x01😀", details := some "" }
    let batch : BatchResponse := ⟨[.error response], 18446744073709551615⟩
    String.ofList batch.print =
        "\x7b\"embeddings\":[\x7b\"error\":\"\\\"\\\\\\n\\u0001😀\",\"details\":\"\"\x7d]," ++
          "\"dimension\":18446744073709551615\x7d" ∧
      readDocument BatchResponse.read (String.ofList batch.print).toUTF8.toList = .ok batch := by
  refine ⟨by decide, ?_⟩
  obtain ⟨-, -, -, batches, -⟩ := messages_faithful
  exact batches.readBack _ ⟨by simp [BatchItem.isError], by decide⟩

end Matryoshka.Wire
