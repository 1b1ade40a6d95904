import Matryoshka.Wire.ErrorResponse

/-!
# Embedding requests

A client asks for the vector of one text or for those of a batch of texts. The
request has a field for each; exactly one of them must be present, and a batch must
have at least one text and at most `maxBatchTexts`.
-/

namespace Matryoshka.Wire

open Json

/-- A request as it stands in the document. -/
structure EmbedRequest where
  /-- The one text. -/
  text : Option String := none
  /-- The batch. -/
  texts : Option (List String) := none
  deriving Repr, DecidableEq

/-- What a well-formed request asks for. -/
inductive EmbedInput where
  /-- The vector of one text. -/
  | single (text : String)
  /-- The vectors of a batch. -/
  | batch (texts : List String)
  deriving Repr, DecidableEq

namespace EmbedRequest

/-- What a request asks for, or what is wrong with it. An empty text is not wrong. -/
def toInput : EmbedRequest → Except ErrorResponse EmbedInput
  | ⟨some text, none⟩ => .ok (.single text)
  | ⟨none, some texts⟩ =>
    if texts = [] then .error .emptyBatch
    else if texts.length > maxBatchTexts then .error (.batchTooLarge texts.length)
    else .ok (.batch texts)
  | ⟨some _, some _⟩ => .error .ambiguous
  | ⟨none, none⟩ => .error (.missingFields ["text", "texts"])

/-- The JSON text of a request. -/
def print (request : EmbedRequest) : List Char :=
  Print.object (Print.optional "text" (request.text.map Print.string) ++
    Print.optional "texts" (request.texts.map fun texts => Print.list (texts.map Print.string)))

/-- The fields of a request as they are read; each may be `null`. -/
structure Gathered where
  /-- The one text. -/
  text : Option (Option String) := none
  /-- The batch. -/
  texts : Option (Option (List String)) := none

/-- How a request is read. -/
def record : Record Gathered EmbedRequest where
  title := "struct HttpEmbedRequest"
  fields := [
    ⟨"text", fun g => g.text.isSome,
      fun g => mapReader (fun v => { g with text := some v }) (readOption readString)⟩,
    ⟨"texts", fun g => g.texts.isSome,
      fun g => mapReader (fun v => { g with texts := some v }) (readOption (readList readString))⟩]
  start := {}
  finish g := .ok ⟨g.text.join, g.texts.join⟩

/-- Read a request. -/
def read : Reader EmbedRequest := record.read

end EmbedRequest

end Matryoshka.Wire
