import Matryoshka.Failure
import Matryoshka.Json.Print
import Matryoshka.Json.Record
import Matryoshka.Json.Value

/-!
# Error responses

What a client is told when its request fails: a sentence for people, a code for
programs, and details. Each kind of failure has its own sentence and code, and the
wording of the failure itself goes into the details.
-/

namespace Matryoshka.Wire

/-- Most texts of one batch. -/
def maxBatchTexts : Nat := 256

/-- The answer to a request that fails. -/
structure ErrorResponse where
  /-- A sentence for people. -/
  error : String
  /-- A word for programs. -/
  code : Option String := none
  /-- What else is known. -/
  details : Option String := none
  deriving Repr, DecidableEq

namespace ErrorResponse

open Json

/-- The response with a code. -/
def withCode (response : ErrorResponse) (code : String) : ErrorResponse :=
  { response with code := some code }

/-- The response with details. -/
def withDetails (response : ErrorResponse) (details : String) : ErrorResponse :=
  { response with details := some details }

/-- A request in which one of `fields` has to be present. -/
def missingFields (fields : List String) : ErrorResponse where
  error := "Missing required fields: " ++ " or ".intercalate fields
  code := some "MISSING_REQUIRED_FIELDS"

/-- A request that is no JSON document of the right type. -/
def invalidJson (details : String) : ErrorResponse where
  error := "Invalid JSON"
  code := some "INVALID_JSON"
  details := some details

/-- A batch with too many texts. -/
def batchTooLarge (count : Nat) : ErrorResponse where
  error := "Batch exceeds maximum of " ++ toString maxBatchTexts ++ " texts (got " ++
    toString count ++ ")"
  code := some "BATCH_TOO_LARGE"

/-- A batch without texts. -/
def emptyBatch : ErrorResponse where
  error := "texts must contain at least one entry"
  code := some "EMPTY_BATCH"

/-- A request for one text and for a batch at once. -/
def ambiguous : ErrorResponse where
  error := "Provide either 'text' or 'texts', not both"
  code := some "AMBIGUOUS_REQUEST"

/-- A path that does not exist. -/
def notFound : ErrorResponse where
  error := "Not Found"
  code := some "NOT_FOUND"

/-- The sentence for a kind of failure. -/
def sentence : FailureKind → String
  | .emptyInput => "Input text produced no tokens"
  | .timeout => "Embedding request timed out"
  | .workerUnavailable => "Embedding worker is unavailable, please try again later"
  | .modelLoad => "Embedding model could not be loaded"
  | .compute => "Internal server error occurred during embedding generation"
  | .configuration => "Server configuration error"

/-- The code for a kind of failure. -/
def kindCode : FailureKind → String
  | .emptyInput => "EMPTY_INPUT"
  | .timeout => "TIMEOUT"
  | .workerUnavailable => "WORKER_UNAVAILABLE"
  | .modelLoad => "MODEL_LOAD_FAILED"
  | .compute => "COMPUTE_ERROR"
  | .configuration => "CONFIGURATION_ERROR"

/-- What a client is told about a failure. -/
def ofFailure (failure : Failure) : ErrorResponse where
  error := sentence failure.kind
  code := some (kindCode failure.kind)
  details := some failure.message

/-- The JSON text of a response. -/
def print (response : ErrorResponse) : List Char :=
  Print.object (("error", Print.string response.error) ::
    (Print.optional "code" (response.code.map Print.string) ++
      Print.optional "details" (response.details.map Print.string)))

/-- The fields of a response as they are read. -/
structure Gathered where
  /-- The sentence. -/
  error : Option String := none
  /-- The code, which may be `null`. -/
  code : Option (Option String) := none
  /-- The details, which may be `null`. -/
  details : Option (Option String) := none

/-- How a response is read. -/
def record : Record Gathered ErrorResponse where
  title := "struct HttpErrorResponse"
  fields := [
    ⟨"error", fun g => g.error.isSome,
      fun g => mapReader (fun v => { g with error := some v }) readString⟩,
    ⟨"code", fun g => g.code.isSome,
      fun g => mapReader (fun v => { g with code := some v }) (readOption readString)⟩,
    ⟨"details", fun g => g.details.isSome,
      fun g => mapReader (fun v => { g with details := some v }) (readOption readString)⟩]
  start := {}
  finish g :=
    match g.error with
    | none => .error "error"
    | some error => .ok ⟨error, g.code.join, g.details.join⟩

/-- Read a response. -/
def read : Reader ErrorResponse := record.read

/-- The string that a value holds, or none for `null`. -/
def stringOrNull? : Value → Option (Option String)
  | .null => some none
  | .string text => some (some text)
  | _ => none

/-- The response that the elements of a list stand for. -/
def ofElements? : List Value → Option ErrorResponse
  | [.string error] => some { error }
  | [.string error, code] => do
    return { error, code := ← stringOrNull? code }
  | [.string error, code, details] => do
    return { error, code := ← stringOrNull? code, details := ← stringOrNull? details }
  | _ => none

/-- The value of a member that occurs at most once: none if it occurs twice. -/
def memberOnce? (key : String) (members : List (String × Value)) : Option (Option Value) :=
  match members.filter fun m => m.1 == key with
  | [] => some none
  | [m] => some (some m.2)
  | _ => none

/-- The string of a member that may be missing or `null`. -/
def optionalMember? (key : String) (members : List (String × Value)) : Option (Option String) := do
  match ← memberOnce? key members with
  | none => some none
  | some value => stringOrNull? value

/-- The response that the members of an object stand for. -/
def ofMembers? (members : List (String × Value)) : Option ErrorResponse := do
  match ← memberOnce? "error" members with
  | some (.string error) =>
    return { error, code := ← optionalMember? "code" members,
             details := ← optionalMember? "details" members }
  | _ => none

/-- The response that a value stands for. -/
def ofValue? : Value → Option ErrorResponse
  | .list elements => ofElements? elements
  | .object members => ofMembers? members
  | _ => none

end ErrorResponse

end Matryoshka.Wire
