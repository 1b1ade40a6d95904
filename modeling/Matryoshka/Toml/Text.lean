import Matryoshka.Toml.Scan

/-!
# Strings of settings documents

A string stands between quotes or apostrophes, and between three of them if it
extends over lines. Between quotes a backslash escapes; at the end of a line it
removes the break and the blanks that follow.
-/

namespace Matryoshka.Toml.Text

/-- Characters that may stand in a string without an escape, the delimiter apart: all
but controls other than the tab. -/
def isTextChar (c : Char) : Bool := c == '\t' || (0x20 ≤ c.toNat && c.toNat ≠ 0x7F)

/-- The character that a letter behind a backslash stands for. -/
def simpleEscape? : Char → Option Char
  | 'b' => some '\x08'
  | 't' => some '\t'
  | 'n' => some '\n'
  | 'f' => some '\x0C'
  | 'r' => some '\r'
  | '"' => some '"'
  | '\\' => some '\\'
  | _ => none

/-- The value of a hexadecimal digit. -/
def hexDigit? (c : Char) : Option Nat :=
  if '0' ≤ c && c ≤ '9' then some (c.toNat - '0'.toNat)
  else if 'a' ≤ c && c ≤ 'f' then some (c.toNat - 'a'.toNat + 10)
  else if 'A' ≤ c && c ≤ 'F' then some (c.toNat - 'A'.toNat + 10)
  else none

/-- The character whose number is written in hexadecimal digits. -/
def numbered? (digits : List Char) : Option Char := do
  let values ← digits.mapM hexDigit?
  let n := values.foldl (fun n digit => n * 16 + digit) 0
  if n.isValidChar then some (Char.ofNat n) else none

/-- Read the rest of an escape behind its backslash. -/
def readEscape : Reader Char
  | 'u' :: a :: b :: c :: d :: s => (numbered? [a, b, c, d]).map fun x => (x, s)
  | 'U' :: a :: b :: c :: d :: e :: f :: g :: h :: s =>
    (numbered? [a, b, c, d, e, f, g, h]).map fun x => (x, s)
  | c :: s => (simpleEscape? c).map fun x => (x, s)
  | [] => none

/-- Put characters in front of what was read. -/
def onto (chars : List Char) : Option (List Char × List Char) → Option (List Char × List Char) :=
  Option.map fun (text, s) => (chars ++ text, s)

/-- Read the rest of a string on one line behind its quote. -/
def readBasic : Nat → Reader (List Char)
  | 0, _ => none
  | fuel + 1, s =>
    match s with
    | [] => none
    | '"' :: s => some ([], s)
    | '\\' :: s =>
      match readEscape s with
      | some (c, s) => onto [c] (readBasic fuel s)
      | none => none
    | c :: s => if isTextChar c then onto [c] (readBasic fuel s) else none

/-- Read the rest of a string on one line behind its apostrophe. -/
def readLiteral : Reader (List Char)
  | [] => none
  | '\'' :: s => some ([], s)
  | c :: s => if isTextChar c then onto [c] (readLiteral s) else none

/-- Pass over blanks and line breaks. -/
def skipBreaks : List Char → List Char
  | ' ' :: s => skipBreaks s
  | '\t' :: s => skipBreaks s
  | '\n' :: s => skipBreaks s
  | '\r' :: '\n' :: s => skipBreaks s
  | s => s

/-- Read the rest of a string of several lines behind its three quotes. Up to two quotes
may stand before the closing three. -/
def readMultiBasic : Nat → Reader (List Char)
  | 0, _ => none
  | fuel + 1, s =>
    match s with
    | [] => none
    | '"' :: '"' :: '"' :: '"' :: '"' :: s => some (['"', '"'], s)
    | '"' :: '"' :: '"' :: '"' :: s => some (['"'], s)
    | '"' :: '"' :: '"' :: s => some ([], s)
    | '\\' :: s =>
      match lineBreak? (skipBlank s) with
      | some s => readMultiBasic fuel (skipBreaks s)
      | none =>
        match readEscape s with
        | some (c, s) => onto [c] (readMultiBasic fuel s)
        | none => none
    | '\n' :: s => onto ['\n'] (readMultiBasic fuel s)
    | '\r' :: '\n' :: s => onto ['\n'] (readMultiBasic fuel s)
    | c :: s => if isTextChar c then onto [c] (readMultiBasic fuel s) else none

/-- Read the rest of a string of several lines behind its three apostrophes. -/
def readMultiLiteral : Reader (List Char)
  | [] => none
  | '\'' :: '\'' :: '\'' :: '\'' :: '\'' :: s => some (['\'', '\''], s)
  | '\'' :: '\'' :: '\'' :: '\'' :: s => some (['\''], s)
  | '\'' :: '\'' :: '\'' :: s => some ([], s)
  | '\n' :: s => onto ['\n'] (readMultiLiteral s)
  | '\r' :: '\n' :: s => onto ['\n'] (readMultiLiteral s)
  | c :: s => if isTextChar c then onto [c] (readMultiLiteral s) else none

/-- Pass over a line break right behind the opening delimiter. -/
def skipFirstBreak (s : List Char) : List Char := (lineBreak? s).getD s

/-- Read a string of any kind. -/
def read : Reader String := fun s =>
  let chars := match s with
    | '"' :: '"' :: '"' :: s => readMultiBasic (s.length + 1) (skipFirstBreak s)
    | '\'' :: '\'' :: '\'' :: s => readMultiLiteral (skipFirstBreak s)
    | '"' :: s => readBasic (s.length + 1) s
    | '\'' :: s => readLiteral s
    | _ => none
  chars.map fun (text, s) => (String.ofList text, s)

/-- Read one part of a key: a string on one line, or bare characters. -/
def readKeyPart : Reader String := fun s =>
  let chars := match s with
    | '"' :: s => readBasic (s.length + 1) s
    | '\'' :: s => readLiteral s
    | s =>
      match s.takeWhile isBareChar with
      | [] => none
      | text => some (text, s.dropWhile isBareChar)
  chars.map fun (text, s) => (String.ofList text, s)

/-- Most parts of a key, plus one. -/
def deepest : Nat := 80

/-- Read the parts of a key with dots between them. -/
def readKeyParts : Nat → Reader (List String)
  | 0, _ => none
  | fuel + 1, s =>
    match readKeyPart (skipBlank s) with
    | none => none
    | some (part, s) =>
      match skipBlank s with
      | '.' :: s => (readKeyParts fuel s).map fun (parts, s) => (part :: parts, s)
      | s => some ([part], s)

/-- Read a key. -/
def readKey : Reader (List String) := readKeyParts (deepest - 1)

end Matryoshka.Toml.Text
