import Matryoshka.Json.Record
import Matryoshka.Json.Value
import Matryoshka.TokenBatch

/-!
# Fields of values

A part of a tokenizer file is a record: an object in which each field comes at most
once, or a list with a value for each field in order. `fields?` finds the fields of a
record that has been kept as a value, `readFields` those of one that is still to be
read. Members with other names are passed over.
-/

namespace Matryoshka.WordLevel

open Json

/-- The elements of a list. -/
def elements? : Value → Option (List Value)
  | .list elements => some elements
  | _ => none

/-- The text of a string. -/
def string? : Value → Option String
  | .string text => some text
  | _ => none

/-- The id that a number is. -/
def id? : Value → Option TokenId
  | .number (.natural n) => if n < UInt32.size then some n.toUInt32 else none
  | _ => none

/-- A name of an enumeration: alone, or as the only key of an object with the value
`null`. -/
def name? : Value → Option String
  | .string name => some name
  | .object [(name, .null)] => some name
  | _ => none

/-- Whether a value is a string. -/
def isString (value : Value) : Bool := (string? value).isSome

/-- Which of the two words a value is. -/
def flag? : Value → Option Bool
  | .bool flag => some flag
  | _ => none

/-- Whether a value is one of the two words. -/
def isFlag (value : Value) : Bool := (flag? value).isSome

/-- Whether a value is a count. -/
def isCount : Value → Bool
  | .number (.natural _) => true
  | _ => false

/-- Whether a value is one of some names. -/
def isAmong (names : List String) (value : Value) : Bool :=
  match name? value with
  | some name => names.contains name
  | none => false

/-- Whether a field is missing, `null`, or fits. -/
def isNothingOr (fits : Value → Bool) : Option Value → Bool
  | none => true
  | some .null => true
  | some value => fits value

/-- The values of the members with a key, in order. -/
def valuesOf (key : String) (members : List (String × Value)) : List Value :=
  (members.filter fun m => m.1 == key).map Prod.snd

/-- The value of the member with a key, which may be missing but not come twice. -/
def field? (members : List (String × Value)) (key : String) : Option (Option Value) :=
  match valuesOf key members with
  | [] => some none
  | [value] => some (some value)
  | _ => none

/-- The fields of a record that has been kept as a value. -/
def fields? (names : List String) : Value → Option (List (Option Value))
  | .object members => names.mapM (field? members)
  | .list elements => if elements.length = names.length then some (elements.map some) else none
  | _ => none

/-- How the fields of a record inside `outer` brackets are read. -/
def fieldsRecord (outer : Nat) (names : List String) :
    Record (List (String × Value)) (List (Option Value)) where
  title := "record"
  fields := names.map fun name => ⟨name, fun found => (found.lookup name).isSome,
    fun found => mapReader (fun value => (name, value) :: found) (Value.read (outer + 1))⟩
  start := []
  finish found := .ok (names.map fun name => found.lookup name)

/-- Read the fields of a record inside `outer` brackets. -/
def readFields (outer : Nat) (names : List String) : Reader (List (Option Value)) :=
  (fieldsRecord outer names).read

end Matryoshka.WordLevel
