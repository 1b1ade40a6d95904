import Matryoshka.Json.Skip
import Matryoshka.Text.Quoted

/-!
# Reading values of a known type

Each reader asks for one type of value and says what it found instead when the
document holds another one. Words, numbers and strings that do not fit are read to
their end before they are refused; lists and objects are refused at their bracket.
-/

namespace Matryoshka.Json

/-- The problem of finding one thing where another was expected. -/
def unexpected (found expected : String) : Problem :=
  .mismatch ("invalid type: " ++ found ++ ", expected " ++ expected)

/-- The cursor behind a word that stands for a value of the wrong type is where the
value is refused. -/
def refuseWord {α : Type} (letters found expected : String) (c : Cursor) : Except Stop α :=
  match readWord (Cursor.ascii letters) c with
  | .error stop => .error stop
  | .ok c => stopAt (unexpected found expected) c.place

/-- Refuse the value that follows, which starts with `b`. -/
def refuseValue {α : Type} (expected : String) (c : Cursor) (b : UInt8) : Except Stop α :=
  if b = 0x6E then refuseWord "ull" "null" expected c.eat
  else if b = 0x74 then refuseWord "rue" "boolean `true`" expected c.eat
  else if b = 0x66 then refuseWord "alse" "boolean `false`" expected c.eat
  else if b = 0x2D || Number.isDigit b then
    match Number.read c with
    | .error stop => .error stop
    | .ok (number, c) => stopAt (unexpected number.describe expected) c.place
  else if b = 0x22 then
    match Quoted.readRest c.eat with
    | .error stop => .error stop
    | .ok (text, c) => stopAt (unexpected ("string " ++ Text.quoted text) expected) c.place
  else if b = 0x5B then stopAt (unexpected "sequence" expected) c.place
  else if b = 0x7B then stopAt (unexpected "map" expected) c.place
  else stopAt .valueExpected c.ahead

/-- Read a value by its first byte: the reader that `choose` gives for that byte, or a
refusal. -/
def readByFirst {α : Type} (expected : String) (choose : UInt8 → Option (Reader α)) : Reader α :=
  fun c =>
    let c := c.skipBlank
    match c.rest with
    | [] => stopAt .eofInValue c.ahead
    | b :: _ =>
      match choose b with
      | some reader => reader c
      | none => refuseValue expected c b

/-- Read a value and convert it. -/
def mapReader {α β : Type} (f : α → β) (reader : Reader α) : Reader β := fun c =>
  match reader c with
  | .error stop => .error stop
  | .ok (value, c) => .ok (f value, c)

/-- Read a string that `expected` names. -/
def readStringAs (expected : String) : Reader String :=
  readByFirst expected fun b => if b = 0x22 then some fun c => Quoted.readRest c.eat else none

/-- Read a string. -/
def readString : Reader String := readStringAs "a string"

/-- Read a number and convert it, or refuse it at its end. -/
def readNumberAs {α : Type} (expected : String) (convert : Number → Except Problem α) : Reader α :=
  readByFirst expected fun b =>
    if b = 0x2D || Number.isDigit b then
      some fun c =>
        match Number.read c with
        | .error stop => .error stop
        | .ok (number, c) =>
          match convert number with
          | .ok value => .ok (value, c)
          | .error problem => stopAt problem c.place
    else none

/-- Read a count: an integer from zero to the largest of 64 bits. -/
def readCount : Reader Nat :=
  readNumberAs "usize" fun
    | .natural n => .ok n
    | .negative n =>
      .error (.mismatch ("invalid value: " ++ (Number.negative n).describe ++ ", expected usize"))
    | .float x => .error (unexpected (Number.float x).describe "usize")

/-- Read a single-precision number; any number will do. -/
def readFloat32 : Reader Float32 :=
  readNumberAs "f32" fun number => .ok number.toFloat32

/-- Read `null`, or a value. -/
def readOption {α : Type} (reader : Reader α) : Reader (Option α) := fun c =>
  let c := c.skipBlank
  match c.rest with
  | 0x6E :: _ =>
    match readWord (Cursor.ascii "ull") c.eat with
    | .error stop => .error stop
    | .ok c => .ok (none, c)
  | _ => mapReader some reader c

namespace Bracket

/-- Find the next element or member inside a bracket: whether there is one, and the
cursor before it or at the closing bracket. -/
def next (bracket : Bracket) (isFirst : Bool) (c : Cursor) : Except Stop (Bool × Cursor) :=
  let c := c.skipBlank
  match c.rest with
  | [] => stopAt bracket.eof c.ahead
  | b :: _ =>
    if b = bracket.closing then .ok (false, c)
    else if isFirst then .ok (true, c)
    else if b = 0x2C then
      let c := c.eat.skipBlank
      match c.rest with
      | [] => stopAt .eofInValue c.ahead
      | b :: _ => if b = bracket.closing then stopAt .trailingComma c.ahead else .ok (true, c)
    else stopAt bracket.commaOrEnd c.ahead

/-- Pass over the closing bracket: the problem if it is not there, and how far the
search for it came. -/
def close (bracket : Bracket) (c : Cursor) : Option Fault × Cursor :=
  let c := c.skipBlank
  match c.rest with
  | [] => (some ⟨bracket.eof, c.ahead⟩, c)
  | b :: _ =>
    if b = bracket.closing then (none, c.eat)
    else if b = 0x2C && bracket == .list then
      let c := c.eat.skipBlank
      let problem :=
        if c.rest.head? = some bracket.closing then .trailingComma else .trailingCharacters
      (some ⟨problem, c.ahead⟩, c)
    else (some ⟨.trailingCharacters, c.ahead⟩, c)

/-- Finish what was read inside a bracket. A problem without a place gets the place
where the search for the closing bracket ends. -/
def finish {α : Type} (bracket : Bracket) : Except Stop (α × Cursor) → Except Stop (α × Cursor)
  | .ok (value, c) =>
    match bracket.close c with
    | (none, c) => .ok (value, c)
    | (some fault, _) => .error (.fault fault)
  | .error (.fault fault) => .error (.fault fault)
  | .error (.pending problem reached) => stopAt problem (bracket.close reached).2.place

end Bracket

/-- Read the elements of a list up to its closing bracket. -/
def readElements {α : Type} (reader : Reader α) (isFirst : Bool) : Nat → Reader (List α)
  | 0, c => stopAt .eofInList c.place
  | fuel + 1, c =>
    match Bracket.list.next isFirst c with
    | .error stop => .error stop
    | .ok (false, c) => .ok ([], c)
    | .ok (true, c) =>
      match reader c with
      | .error stop => .error stop
      | .ok (value, c) =>
        match readElements reader false fuel c with
        | .error stop => .error stop
        | .ok (values, c) => .ok (value :: values, c)

/-- Read a list. -/
def readList {α : Type} (reader : Reader α) : Reader (List α) :=
  readByFirst "a sequence" fun b =>
    if b = 0x5B then
      some fun c => Bracket.list.finish (readElements reader true (c.rest.length + 1) c.eat)
    else none

/-- Pass over the colon behind a key. -/
def readColon (c : Cursor) : Except Stop Cursor :=
  let c := c.skipBlank
  match c.rest with
  | [] => stopAt .eofInObject c.ahead
  | b :: _ => if b = 0x3A then .ok c.eat else stopAt .colonExpected c.ahead

/-- The member of a table that a name stands for, or the problem that there is none. -/
def chooseByName {α : Type} (table : List (String × α)) (name : String) : Except Problem α :=
  match table.lookup name with
  | some value => .ok value
  | none =>
    let names := table.map fun entry => "`" ++ entry.1 ++ "`"
    .error (.mismatch
      ("unknown variant `" ++ name ++ "`, expected one of " ++ ", ".intercalate names))

/-- Read a name of a table. -/
def readName {α : Type} (table : List (String × α)) : Reader α := fun c =>
  match readStringAs "variant identifier" c with
  | .error stop => .error stop
  | .ok (name, c) =>
    match chooseByName table name with
    | .ok value => .ok (value, c)
    | .error problem => stopAt problem c.place

/-- Read `null` where nothing else makes sense. -/
def readUnit (c : Cursor) : Except Stop Cursor :=
  let c := c.skipBlank
  match c.rest with
  | [] => stopAt .eofInValue c.ahead
  | b :: _ =>
    if b = 0x6E then readWord (Cursor.ascii "ull") c.eat else refuseValue "unit" c b

/-- Read a choice from a table: a name, or an object with the name as its only key and
`null` as its value. -/
def readChoice {α : Type} (table : List (String × α)) : Reader α := fun c =>
  let c := c.skipBlank
  match c.rest with
  | [] => stopAt .eofInValue c.ahead
  | 0x22 :: _ => readName table c
  | 0x7B :: _ =>
    match readName table c.eat with
    | .error stop => .error stop
    | .ok (value, c) =>
      match readColon c with
      | .error stop => .error stop
      | .ok c =>
        match readUnit c with
        | .error stop => .error stop
        | .ok c =>
          let c := c.skipBlank
          match c.rest with
          | [] => stopAt .eofInObject c.place
          | b :: _ => if b = 0x7D then .ok (value, c.eat) else stopAt .valueExpected c.place
  | _ => stopAt .valueExpected c.ahead

/-- Read a document that holds one value and nothing after it. -/
def readDocument {α : Type} (reader : Reader α) (bytes : List UInt8) : Except Fault α :=
  match reader (.ofBytes bytes) with
  | .error stop => .error stop.settle
  | .ok (value, c) =>
    let c := c.skipBlank
    match c.rest with
    | [] => .ok value
    | _ => .error ⟨.trailingCharacters, c.ahead⟩

end Matryoshka.Json
