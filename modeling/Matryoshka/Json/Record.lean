import Matryoshka.Json.Read

/-!
# Reading records

A record is read from an object whose members may come in any order, or from a
list with a value for each field in the order of declaration. Unknown members are
passed over; a member that comes twice is refused. A field that is missing is
refused when the whole record has been read, unless it may be absent.
-/

namespace Matryoshka.Json

/-- One field of a record whose fields are gathered in a `σ`. -/
structure Field (σ : Type) where
  /-- The key of the member. -/
  name : String
  /-- Whether the field has a value. -/
  isSet : σ → Bool
  /-- Read the value of the field. -/
  read : σ → Reader σ

/-- A record of type `α` whose fields are gathered in a `σ`. -/
structure Record (σ α : Type) where
  /-- How the record is called when something else is found. -/
  title : String
  /-- The fields in the order of declaration. -/
  fields : List (Field σ)
  /-- No field has a value. -/
  start : σ
  /-- The record, or the first field that is missing. -/
  finish : σ → Except String α

namespace Record

variable {σ α : Type}

/-- Read one member behind its key. -/
def readMember (record : Record σ α) (key : String) (gathered : σ) : Reader σ := fun c =>
  match record.fields.find? fun field => field.name == key with
  | some field =>
    if field.isSet gathered then
      .error (.pending (.mismatch ("duplicate field `" ++ key ++ "`")) c)
    else
      match readColon c with
      | .error stop => .error stop
      | .ok c => field.read gathered c
  | none =>
    match readColon c with
    | .error stop => .error stop
    | .ok c =>
      match skipValue c with
      | .error stop => .error stop
      | .ok c => .ok (gathered, c)

/-- Read the members of an object up to its closing brace. -/
def readMembers (record : Record σ α) (isFirst : Bool) (gathered : σ) : Nat → Reader σ
  | 0, c => stopAt .eofInObject c.place
  | fuel + 1, c =>
    match Bracket.object.next isFirst c with
    | .error stop => .error stop
    | .ok (false, c) => .ok (gathered, c)
    | .ok (true, c) =>
      match c.rest with
      | 0x22 :: _ =>
        match Quoted.readRest c.eat with
        | .error stop => .error stop
        | .ok (key, c) =>
          match record.readMember key gathered c with
          | .error stop => .error stop
          | .ok (gathered, c) => readMembers record false gathered fuel c
      | _ => stopAt .keyExpected c.ahead

/-- Read the values of `fields` from a list until they are all read or the list ends. -/
def readPositions (isFirst : Bool) (gathered : σ) : List (Field σ) → Reader σ
  | [], c => .ok (gathered, c)
  | field :: fields, c =>
    match Bracket.list.next isFirst c with
    | .error stop => .error stop
    | .ok (false, c) => .ok (gathered, c)
    | .ok (true, c) =>
      match field.read gathered c with
      | .error stop => .error stop
      | .ok (gathered, c) => readPositions false gathered fields c

/-- How many elements a list must have to stand for the record. -/
def elementCount (record : Record σ α) : String :=
  match record.fields.length with
  | 1 => "1 element"
  | count => toString count ++ " elements"

/-- The problem of a list that ends before the field `name`. -/
def tooShort (record : Record σ α) (name : String) : Problem :=
  let length := record.fields.findIdx fun field => field.name == name
  .mismatch ("invalid length " ++ toString length ++ ", expected " ++ record.title ++ " with " ++
    record.elementCount)

/-- Turn what was gathered into a record, or into a problem with the missing field. -/
def complete (record : Record σ α) (missing : String → Problem) :
    Except Stop (σ × Cursor) → Except Stop (α × Cursor)
  | .error stop => .error stop
  | .ok (gathered, c) =>
    match record.finish gathered with
    | .ok value => .ok (value, c)
    | .error name => .error (.pending (missing name) c)

/-- The problem of an object without the member `name`. -/
def missingField (name : String) : Problem := .mismatch ("missing field `" ++ name ++ "`")

/-- Read a record. -/
def read (record : Record σ α) : Reader α :=
  readByFirst record.title fun b =>
    if b = 0x5B then
      some fun c => Bracket.list.finish
        (record.complete record.tooShort (readPositions true record.start record.fields c.eat))
    else if b = 0x7B then
      some fun c => Bracket.object.finish
        (record.complete missingField
          (record.readMembers true record.start (c.rest.length + 1) c.eat))
    else none

end Record

end Matryoshka.Json
