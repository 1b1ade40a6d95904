import Matryoshka.Json.Read

/-!
# Values of any type

A value is kept as it stands in the document when its type is not known before it
has been read: numbers by kind, objects with their members in order and with
repeated keys. Lists and objects may be nested only so deeply.
-/

namespace Matryoshka.Json

/-- A value of a document. -/
inductive Value where
  /-- The word `null`. -/
  | null
  /-- One of the words `true` and `false`. -/
  | bool (value : Bool)
  /-- A number. -/
  | number (value : Number)
  /-- A string. -/
  | string (value : String)
  /-- A list. -/
  | list (elements : List Value)
  /-- An object: its members in order. -/
  | object (members : List (String × Value))

namespace Value

/-- How many levels a document may have. -/
def deepest : Nat := 128

/-- Read a word and give the value it stands for. -/
def readWordAs (letters : String) (value : Value) : Reader Value := fun c =>
  match readWord (Cursor.ascii letters) c with
  | .error stop => .error stop
  | .ok c => .ok (value, c)

/-- Read a value that is neither a list nor an object and starts with `b`. -/
def readScalar (b : UInt8) : Reader Value := fun c =>
  if b = 0x6E then readWordAs "ull" null c.eat
  else if b = 0x74 then readWordAs "rue" (bool true) c.eat
  else if b = 0x66 then readWordAs "alse" (bool false) c.eat
  else if b = 0x2D || Number.isDigit b then
    match Number.read c with
    | .error stop => .error stop
    | .ok (value, c) => .ok (number value, c)
  else if b = 0x22 then
    match Quoted.readRest c.eat with
    | .error stop => .error stop
    | .ok (text, c) => .ok (string text, c)
  else stopAt .valueExpected c.ahead

mutual

/-- Read a value that may open `levels` brackets inside each other, less one. -/
def readWithin (levels : Nat) : Nat → Reader Value
  | 0, c => stopAt .eofInValue c.place
  | fuel + 1, c =>
    let c := c.skipBlank
    match c.rest with
    | [] => stopAt .eofInValue c.ahead
    | b :: _ =>
      if b = 0x5B || b = 0x7B then
        if levels ≤ 1 then stopAt .tooDeep c.ahead
        else if b = 0x5B then
          match Bracket.list.finish (readElementsWithin (levels - 1) true fuel c.eat) with
          | .error stop => .error stop
          | .ok (elements, c) => .ok (list elements, c)
        else
          match Bracket.object.finish (readMembersWithin (levels - 1) true fuel c.eat) with
          | .error stop => .error stop
          | .ok (members, c) => .ok (object members, c)
      else readScalar b c

/-- Read the elements of a list up to its closing bracket. -/
def readElementsWithin (levels : Nat) (isFirst : Bool) : Nat → Reader (List Value)
  | 0, c => stopAt .eofInList c.place
  | fuel + 1, c =>
    match Bracket.list.next isFirst c with
    | .error stop => .error stop
    | .ok (false, c) => .ok ([], c)
    | .ok (true, c) =>
      match readWithin levels fuel c with
      | .error stop => .error stop
      | .ok (value, c) =>
        match readElementsWithin levels false fuel c with
        | .error stop => .error stop
        | .ok (values, c) => .ok (value :: values, c)

/-- Read the members of an object up to its closing brace. -/
def readMembersWithin (levels : Nat) (isFirst : Bool) : Nat → Reader (List (String × Value))
  | 0, c => stopAt .eofInObject c.place
  | fuel + 1, c =>
    match Bracket.object.next isFirst c with
    | .error stop => .error stop
    | .ok (false, c) => .ok ([], c)
    | .ok (true, c) =>
      match c.rest with
      | 0x22 :: _ =>
        match Quoted.readRest c.eat with
        | .error stop => .error stop
        | .ok (key, c) =>
          match readColon c with
          | .error stop => .error stop
          | .ok c =>
            match readWithin levels fuel c with
            | .error stop => .error stop
            | .ok (value, c) =>
              match readMembersWithin levels false fuel c with
              | .error stop => .error stop
              | .ok (members, c) => .ok ((key, value) :: members, c)
      | _ => stopAt .keyExpected c.ahead

end

/-- Read a value that stands inside `outer` brackets. -/
def read (outer : Nat) : Reader Value := fun c =>
  readWithin (deepest - outer) (2 * c.rest.length + 2) c

end Value

end Matryoshka.Json
