import Matryoshka.Engine
import Matryoshka.Wire.ErrorResponse

/-!
# Embedding responses

The answer to a request for one text is a vector with its size. The answer to a
batch has an item for each text, in order: a vector, or what a client is told about
the failure of that text alone.
-/

namespace Matryoshka.Wire

open Json

/-- The JSON text of a vector. -/
def printEmbedding (embedding : Embedding) : List Char :=
  Print.list (embedding.map Print.float32)

/-- The answer to a request for one text. -/
structure EmbedResponse where
  /-- The vector. -/
  embedding : Embedding
  /-- Its number of components, as stated. -/
  dimension : Nat

namespace EmbedResponse

/-- The answer with a vector. -/
def ofEmbedding (embedding : Embedding) : EmbedResponse := ⟨embedding, embedding.length⟩

/-- The JSON text of an answer. -/
def print (response : EmbedResponse) : List Char :=
  Print.object [("embedding", printEmbedding response.embedding),
    ("dimension", Print.count response.dimension)]

/-- The fields of an answer as they are read. -/
structure Gathered where
  /-- The vector. -/
  embedding : Option Embedding := none
  /-- The stated size. -/
  dimension : Option Nat := none

/-- How an answer is read. -/
def record : Record Gathered EmbedResponse where
  title := "struct HttpEmbedResponse"
  fields := [
    ⟨"embedding", fun g => g.embedding.isSome,
      fun g => mapReader (fun v => { g with embedding := some v }) (readList readFloat32)⟩,
    ⟨"dimension", fun g => g.dimension.isSome,
      fun g => mapReader (fun v => { g with dimension := some v }) readCount⟩]
  start := {}
  finish
    | ⟨none, _⟩ => .error "embedding"
    | ⟨_, none⟩ => .error "dimension"
    | ⟨some embedding, some dimension⟩ => .ok ⟨embedding, dimension⟩

/-- Read an answer. -/
def read : Reader EmbedResponse := record.read

end EmbedResponse

/-- The answer for one text of a batch. -/
inductive BatchItem where
  /-- The vector of the text. -/
  | embedding (embedding : Embedding)
  /-- What went wrong with the text. -/
  | error (response : ErrorResponse)

namespace BatchItem

/-- The answer that an outcome becomes. -/
def ofOutcome : ItemOutcome → BatchItem
  | .ok vector => embedding vector
  | .error failure => error (.ofFailure failure)

/-- Whether an answer is an error. -/
def isError : BatchItem → Bool
  | embedding _ => false
  | error _ => true

/-- The JSON text of an item. -/
def print : BatchItem → List Char
  | embedding vector => Print.object [("embedding", printEmbedding vector)]
  | error response => response.print

/-- The number that a value is. -/
def number? : Value → Option Float32
  | .number n => some n.toFloat32
  | _ => none

/-- The vector that a value is. -/
def vector? : Value → Option Embedding
  | .list elements => elements.mapM number?
  | _ => none

/-- The item that a value stands for: a vector if it has one, else an error. -/
def ofValue? (value : Value) : Option BatchItem :=
  let vector := match value with
    | .object members =>
      match ErrorResponse.memberOnce? "embedding" members with
      | some (some value) => vector? value
      | _ => none
    | _ => none
  match vector with
  | some vector => some (embedding vector)
  | none => (ErrorResponse.ofValue? value).map error

/-- Read an item inside the list of a response. -/
def read : Reader BatchItem := fun c =>
  match Value.read 2 c with
  | .error stop => .error stop
  | .ok (value, c) =>
    match ofValue? value with
    | some item => .ok (item, c)
    | none =>
      .error
        (.pending (.mismatch "data did not match any variant of untagged enum HttpBatchItem") c)

end BatchItem

/-- The answer to a batch. -/
structure BatchResponse where
  /-- One item for each text, in order. -/
  embeddings : List BatchItem
  /-- The number of components of each vector, as stated. -/
  dimension : Nat

namespace BatchResponse

/-- The answer with the outcomes of all texts. -/
def ofOutcomes (outcomes : List ItemOutcome) (dimension : Nat) : BatchResponse :=
  ⟨outcomes.map BatchItem.ofOutcome, dimension⟩

/-- The number of items that are errors. -/
def failed (response : BatchResponse) : Nat := response.embeddings.countP BatchItem.isError

/-- The JSON text of an answer. -/
def print (response : BatchResponse) : List Char :=
  Print.object [("embeddings", Print.list (response.embeddings.map BatchItem.print)),
    ("dimension", Print.count response.dimension)]

/-- The fields of an answer as they are read. -/
structure Gathered where
  /-- The items. -/
  embeddings : Option (List BatchItem) := none
  /-- The stated size. -/
  dimension : Option Nat := none

/-- How an answer is read. -/
def record : Record Gathered BatchResponse where
  title := "struct HttpBatchEmbedResponse"
  fields := [
    ⟨"embeddings", fun g => g.embeddings.isSome,
      fun g => mapReader (fun v => { g with embeddings := some v }) (readList BatchItem.read)⟩,
    ⟨"dimension", fun g => g.dimension.isSome,
      fun g => mapReader (fun v => { g with dimension := some v }) readCount⟩]
  start := {}
  finish
    | ⟨none, _⟩ => .error "embeddings"
    | ⟨_, none⟩ => .error "dimension"
    | ⟨some embeddings, some dimension⟩ => .ok ⟨embeddings, dimension⟩

/-- Read an answer. -/
def read : Reader BatchResponse := record.read

end BatchResponse

end Matryoshka.Wire
