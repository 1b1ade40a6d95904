import Matryoshka.Http.Response
import Matryoshka.Wire.EmbedRequest

/-!
# Requests

What a request asks for follows from its method, its path and, where vectors are
wanted, its body. The query behind the path is passed over. Only a request for
vectors whose body is accepted asks anything of the service; every other request is
answered from what the service shows, or without a look at it.
-/

namespace Matryoshka.Http

/-- A request. -/
structure Request where
  /-- The method. -/
  method : String
  /-- The path, and the query if there is one. -/
  target : String
  /-- The origin of the page that sends the request. -/
  origin : Option String := none
  /-- The bytes of the body, or why they could not be read. -/
  body : Except String (List UInt8) := .ok []

/-- What a request asks for. -/
inductive Demand where
  /-- The vector of a text. -/
  | embed (text : String)
  /-- The vectors of texts. -/
  | embedAll (texts : List String)
  /-- How the server is. -/
  | health
  /-- What the server has done. -/
  | stats
  /-- What the server is. -/
  | about
  /-- Whether a page may use the server. -/
  | access
  /-- Nothing that could be done. -/
  | refused (status : Status) (response : Wire.ErrorResponse)

namespace Request

/-- The path without the query. -/
def path (request : Request) : String :=
  String.ofList (request.target.toList.takeWhile (· ≠ '?'))

/-- What a body asks for. -/
def ofBody : Except String (List UInt8) → Demand
  | .error reason =>
    .refused .badRequest
      (({ error := "Failed to read request body" } : Wire.ErrorResponse).withDetails reason)
  | .ok bytes =>
    match Json.readDocument Wire.EmbedRequest.read bytes with
    | .error fault => .refused .badRequest (.invalidJson fault.message)
    | .ok request =>
      match request.toInput with
      | .ok (.single text) => .embed text
      | .ok (.batch texts) => .embedAll texts
      | .error response => .refused .badRequest response

/-- What a request asks for. -/
def demand (request : Request) : Demand :=
  match request.method, request.path with
  | "POST", "/embed" => ofBody request.body
  | "GET", "/health" => .health
  | "GET", "/stats" => .stats
  | "GET", "/" => .about
  | "OPTIONS", _ => .access
  | _, _ => .refused .notFound .notFound

/-- The request on a line: its method, its target and its body, set apart by single
blanks. -/
def ofLine (line : String) : Request :=
  let (method, rest) := line.toList.span (· ≠ ' ')
  let (target, rest) := (rest.drop 1).span (· ≠ ' ')
  { method := String.ofList method
    target := String.ofList target
    body := .ok (String.ofList (rest.drop 1)).toUTF8.toList }

end Request

end Matryoshka.Http
