/-!
# Places in a document

A JSON document is read as bytes. A `Cursor` is what is left of it together with
the place that has been reached: lines count from one, columns are the bytes of
the line read so far. What is wrong with a document is a `Problem`; most problems
name their place at once, those about a whole object or array only when it has
been closed.
-/

namespace Matryoshka.Json

/-- A place in a document. -/
structure Place where
  /-- Number of the line, from one. -/
  line : Nat
  /-- Number of bytes of the line before the place. -/
  column : Nat
  deriving Repr, DecidableEq

/-- The place after a byte. -/
def Place.after (p : Place) (b : UInt8) : Place :=
  if b = 0x0A then ⟨p.line + 1, 0⟩ else ⟨p.line, p.column + 1⟩

/-- What is left of a document. -/
structure Cursor where
  /-- The place that has been reached. -/
  place : Place
  /-- The bytes that follow it. -/
  rest : List UInt8
  deriving Repr, DecidableEq

namespace Cursor

/-- The beginning of a document. -/
def ofBytes (bytes : List UInt8) : Cursor := ⟨⟨1, 0⟩, bytes⟩

/-- The cursor after the next byte. -/
def eat (c : Cursor) : Cursor :=
  match c.rest with
  | [] => c
  | b :: rest => ⟨c.place.after b, rest⟩

/-- The place after the next byte: where a problem with that byte is reported. -/
def ahead (c : Cursor) : Place := c.eat.place

/-- Blanks between tokens: space, tab, line feed and carriage return. -/
def isBlankByte (b : UInt8) : Bool := b == 0x20 || b == 0x09 || b == 0x0A || b == 0x0D

/-- The first byte from a place on that is not blank. -/
def skipBlankFrom (p : Place) : List UInt8 → Cursor
  | [] => ⟨p, []⟩
  | b :: rest => if isBlankByte b then skipBlankFrom (p.after b) rest else ⟨p, b :: rest⟩

/-- The cursor after blanks. -/
def skipBlank (c : Cursor) : Cursor := skipBlankFrom c.place c.rest

/-- The bytes of an ASCII text. -/
def ascii (text : String) : List UInt8 := text.toList.map fun c => c.toNat.toUInt8

end Cursor

/-- What can be wrong with a document. -/
inductive Problem where
  /-- The document ends inside a list. -/
  | eofInList
  /-- The document ends inside an object. -/
  | eofInObject
  /-- The document ends inside a string. -/
  | eofInString
  /-- The document ends where a value is needed. -/
  | eofInValue
  /-- A key is not followed by a colon. -/
  | colonExpected
  /-- An element is followed by neither comma nor bracket. -/
  | listCommaOrEndExpected
  /-- A member is followed by neither comma nor brace. -/
  | objectCommaOrEndExpected
  /-- A word other than the three that JSON knows. -/
  | identExpected
  /-- A byte that no value starts with. -/
  | valueExpected
  /-- An escape that does not exist. -/
  | invalidEscape
  /-- A number that is not written as JSON asks. -/
  | invalidNumber
  /-- A number too large for a floating-point number. -/
  | numberOutOfRange
  /-- A string that is not valid text. -/
  | invalidText
  /-- A control character inside a string. -/
  | controlCharacter
  /-- A member without a key in quotes. -/
  | keyExpected
  /-- Half of a surrogate pair. -/
  | loneSurrogate
  /-- A comma before a closing bracket. -/
  | trailingComma
  /-- Something after the end of the document. -/
  | trailingCharacters
  /-- A surrogate without the escape of its partner. -/
  | endOfHexEscape
  /-- Values nested too deeply. -/
  | tooDeep
  /-- A value that does not have the type asked for. -/
  | mismatch (text : String)
  deriving Repr, DecidableEq

/-- The wording of a problem. -/
def Problem.text : Problem → String
  | eofInList => "EOF while parsing a list"
  | eofInObject => "EOF while parsing an object"
  | eofInString => "EOF while parsing a string"
  | eofInValue => "EOF while parsing a value"
  | colonExpected => "expected `:`"
  | listCommaOrEndExpected => "expected `,` or `]`"
  | objectCommaOrEndExpected => "expected `,` or `\x7d`"
  | identExpected => "expected ident"
  | valueExpected => "expected value"
  | invalidEscape => "invalid escape"
  | invalidNumber => "invalid number"
  | numberOutOfRange => "number out of range"
  | invalidText => "invalid unicode code point"
  | controlCharacter => "control character (\\u0000-\\u001F) found while parsing a string"
  | keyExpected => "key must be a string"
  | loneSurrogate => "lone leading surrogate in hex escape"
  | trailingComma => "trailing comma"
  | trailingCharacters => "trailing characters"
  | endOfHexEscape => "unexpected end of hex escape"
  | tooDeep => "recursion limit exceeded"
  | mismatch text => text

/-- A problem and where it is. -/
structure Fault where
  /-- What is wrong. -/
  problem : Problem
  /-- Where. -/
  place : Place
  deriving Repr, DecidableEq

/-- The wording of a problem with its place. -/
def Fault.message (f : Fault) : String :=
  f.problem.text ++ " at line " ++ toString f.place.line ++ " column " ++ toString f.place.column

/-- Why reading a part of a document stopped. -/
inductive Stop where
  /-- A problem whose place is known. -/
  | fault (fault : Fault)
  /-- A problem that gets the place where the enclosing value ends; reading had come
  to `reached`. -/
  | pending (problem : Problem) (reached : Cursor)
  deriving Repr, DecidableEq

/-- The problem as it is reported: one without a place gets the place reached. -/
def Stop.settle : Stop → Fault
  | fault f => f
  | pending problem reached => ⟨problem, reached.place⟩

/-- Reading one part of a document. -/
abbrev Reader (α : Type) := Cursor → Except Stop (α × Cursor)

/-- Stop with a problem at a place. -/
def stopAt {α : Type} (problem : Problem) (place : Place) : Except Stop α :=
  .error (.fault ⟨problem, place⟩)

/-- A reader whose problems all have a place. -/
def settled {α : Type} (reader : Reader α) : Reader α := fun c =>
  match reader c with
  | .ok result => .ok result
  | .error stop => .error (.fault stop.settle)

end Matryoshka.Json
