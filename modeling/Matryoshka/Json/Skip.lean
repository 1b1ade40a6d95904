import Matryoshka.Json.Number
import Matryoshka.Json.Quoted

/-!
# Values that nobody asked for

An unknown member of an object is passed over, whatever it holds and however
deeply it is nested. Its brackets are kept on a stack; of its strings and numbers
only the form is checked.
-/

namespace Matryoshka.Json

/-- A bracket that has been opened. -/
inductive Bracket where
  /-- The bracket of a list. -/
  | list
  /-- The brace of an object. -/
  | object
  deriving Repr, DecidableEq

namespace Bracket

/-- The byte that closes a bracket. -/
def closing : Bracket → UInt8
  | list => 0x5D
  | object => 0x7D

/-- The problem with a byte behind an element. -/
def commaOrEnd : Bracket → Problem
  | list => .listCommaOrEndExpected
  | object => .objectCommaOrEndExpected

/-- The problem with a document that ends inside a bracket. -/
def eof : Bracket → Problem
  | list => .eofInList
  | object => .eofInObject

end Bracket

/-- Read the rest of a word whose first letter has been read. -/
def readWord (letters : List UInt8) (c : Cursor) : Except Stop Cursor :=
  match letters with
  | [] => .ok c
  | letter :: letters =>
    match c.rest with
    | [] => stopAt .eofInValue c.place
    | b :: _ => if b = letter then readWord letters c.eat else stopAt .identExpected c.ahead

/-- Pass over the key of a member and the colon behind it. -/
def skipKey (c : Cursor) : Except Stop Cursor :=
  let c := c.skipBlank
  match c.rest with
  | [] => stopAt .eofInObject c.ahead
  | 0x22 :: rest =>
    match Quoted.skip .plain (c.place.after 0x22) rest with
    | .error stop => .error stop
    | .ok c =>
      let c := c.skipBlank
      match c.rest with
      | [] => stopAt .eofInObject c.ahead
      | 0x3A :: _ => .ok c.eat
      | _ => stopAt .colonExpected c.ahead
  | _ => stopAt .keyExpected c.ahead

/-- Pass over what stands before the next value inside `open`: closing brackets and a
comma, or nothing right behind an opening bracket. The result is the stack of
brackets still open, or none if the outermost was closed. -/
def skipToValue (fresh : Bool) (opened : List Bracket) : Nat → Cursor →
    Except Stop (List Bracket × Cursor)
  | 0, c => stopAt .eofInValue c.place
  | fuel + 1, c =>
    match opened with
    | [] => .ok ([], c)
    | bracket :: outer =>
      let c := c.skipBlank
      let enter (c : Cursor) : Except Stop (List Bracket × Cursor) :=
        match bracket with
        | .list => .ok (bracket :: outer, c)
        | .object =>
          match skipKey c with
          | .error stop => .error stop
          | .ok c => .ok (bracket :: outer, c)
      match c.rest with
      | [] => stopAt bracket.eof c.ahead
      | b :: _ =>
        if b = 0x2C && !fresh then enter c.eat
        else if b = bracket.closing then skipToValue false outer fuel c.eat
        else if fresh then enter c
        else stopAt bracket.commaOrEnd c.ahead

/-- Pass over a value that is not a list or an object. -/
def skipScalar (c : Cursor) (b : UInt8) : Except Stop Cursor :=
  if b = 0x6E then readWord (Cursor.ascii "ull") c.eat
  else if b = 0x74 then readWord (Cursor.ascii "rue") c.eat
  else if b = 0x66 then readWord (Cursor.ascii "alse") c.eat
  else if b = 0x2D then Number.skipUnsigned c.eat
  else if Number.isDigit b then Number.skipUnsigned c
  else if b = 0x22 then Quoted.skip .plain c.eat.place c.eat.rest
  else stopAt .valueExpected c.ahead

/-- Pass over a value inside the brackets `opened`, and over all that follows it until
the outermost is closed. -/
def skipInside (opened : List Bracket) : Nat → Cursor → Except Stop Cursor
  | 0, c => stopAt .eofInValue c.place
  | fuel + 1, c =>
    let c := c.skipBlank
    let goOn (result : Except Stop (List Bracket × Cursor)) : Except Stop Cursor :=
      match result with
      | .error stop => .error stop
      | .ok ([], c) => .ok c
      | .ok (opened, c) => skipInside opened fuel c
    match c.rest with
    | [] => stopAt .eofInValue c.ahead
    | b :: _ =>
      if b = 0x5B then goOn (skipToValue true (.list :: opened) (fuel + 1) c.eat)
      else if b = 0x7B then goOn (skipToValue true (.object :: opened) (fuel + 1) c.eat)
      else
        match skipScalar c b with
        | .error stop => .error stop
        | .ok c => goOn (skipToValue false opened (fuel + 1) c)

/-- Pass over one value. -/
def skipValue (c : Cursor) : Except Stop Cursor := skipInside [] (c.rest.length + 1) c

end Matryoshka.Json
