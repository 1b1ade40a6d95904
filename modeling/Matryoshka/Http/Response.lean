import Matryoshka.Wire.EmbedResponse
import Matryoshka.Wire.Stats

/-!
# Responses

A response has a status, a body, and headers that let any page use the server. All
bodies but the empty one are documents.
-/

namespace Matryoshka.Http

open Json

/-- The status of a response. -/
inductive Status where
  /-- The request was carried out. -/
  | ok
  /-- There is nothing to say. -/
  | noContent
  /-- The request makes no sense. -/
  | badRequest
  /-- There is nothing at the path. -/
  | notFound
  /-- The server failed. -/
  | internalServerError
  /-- Nobody serves the request now. -/
  | serviceUnavailable
  /-- The answer did not come in time. -/
  | gatewayTimeout
  deriving Repr, DecidableEq

/-- The number of a status. -/
def Status.code : Status → Nat
  | ok => 200
  | noContent => 204
  | badRequest => 400
  | notFound => 404
  | internalServerError => 500
  | serviceUnavailable => 503
  | gatewayTimeout => 504

/-- The words for a status. -/
def Status.phrase : Status → String
  | ok => "OK"
  | noContent => "No Content"
  | badRequest => "Bad Request"
  | notFound => "Not Found"
  | internalServerError => "Internal Server Error"
  | serviceUnavailable => "Service Unavailable"
  | gatewayTimeout => "Gateway Timeout"

/-- The first line of a response. -/
def Status.line (status : Status) : String :=
  "HTTP/1.1 " ++ toString status.code ++ " " ++ status.phrase

/-- The status of the answer to a request that fails. -/
def Status.ofFailure (failure : Failure) : Status :=
  match failure.kind with
  | .emptyInput => badRequest
  | .timeout => gatewayTimeout
  | .workerUnavailable => serviceUnavailable
  | .compute | .modelLoad | .configuration => internalServerError

/-- What a response has to say. -/
inductive Body where
  /-- Nothing. -/
  | empty
  /-- What went wrong with a request. -/
  | error (response : Wire.ErrorResponse)
  /-- The vector of a text. -/
  | embedding (response : Wire.EmbedResponse)
  /-- The answers for a batch. -/
  | batch (response : Wire.BatchResponse)
  /-- How the server is. -/
  | health (report : Wire.HealthReport)
  /-- What the server has done. -/
  | stats (figures : Wire.Stats)
  /-- What the server is. -/
  | about (model : Model) (dimension : Nat) (address : String)

/-- The description of one path. -/
def printEndpoint (method path description : String) : List Char :=
  Print.object [("description", Print.string description), ("method", Print.string method),
    ("path", Print.string path)]

/-- The document that describes a server; its members are in alphabetical order. -/
def printAbout (model : Model) (dimension : Nat) (address : String) : List Char :=
  Print.object [
    ("bind_address", Print.string address),
    ("description", Print.string model.description),
    ("dimension", Print.count dimension),
    ("endpoints", Print.object [
      ("embed", printEndpoint "POST" "/embed"
        "Embed \x7b\"text\": ...\x7d or \x7b\"texts\": [...]\x7d"),
      ("health", printEndpoint "GET" "/health" "Health check endpoint"),
      ("stats", printEndpoint "GET" "/stats" "Cache, queue and worker statistics")]),
    ("model", Print.string model.name),
    ("name", Print.string "MRL Embedding Server"),
    ("native_dimension", Print.count model.nativeDim),
    ("supports_mrl", Print.bool model.supportsTruncation),
    ("version", Print.string Wire.version)]

/-- The text of a body. -/
def Body.print : Body → List Char
  | empty => []
  | error response => response.print
  | embedding response => response.print
  | batch response => response.print
  | health report => report.print
  | stats figures => figures.printWithVersion
  | about model dimension address => printAbout model dimension address

/-- The type of the text of a body. -/
def Body.contentType? : Body → Option String
  | empty => none
  | _ => some "application/json"

/-- A response without its headers. -/
structure Response where
  /-- How the request went. -/
  status : Status
  /-- What there is to say. -/
  body : Body

namespace Response

/-- The headers that let the pages of `origin` use the response. -/
def accessHeaders (origin : Option String) : List (String × String) := [
  ("access-control-allow-origin", origin.getD "*"),
  ("access-control-allow-methods", "GET, POST, OPTIONS"),
  ("access-control-allow-headers", "content-type")]

/-- The response to a request for one text, from its outcome. -/
def ofOutcome : ItemOutcome → Response
  | .ok vector => ⟨.ok, .embedding (.ofEmbedding vector)⟩
  | .error failure => ⟨.ofFailure failure, .error (.ofFailure failure)⟩

/-- The response to a batch, from the outcomes of its texts. -/
def ofOutcomes (outcomes : List ItemOutcome) (dimension : Nat) : Response :=
  ⟨.ok, .batch (.ofOutcomes outcomes dimension)⟩

/-- The response with a report on health. -/
def ofHealth (report : Wire.HealthReport) : Response :=
  ⟨if report.isServing then .ok else .serviceUnavailable, .health report⟩

end Response

end Matryoshka.Http
