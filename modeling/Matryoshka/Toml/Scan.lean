/-!
# Blanks, comments and keys

Every reader takes the characters that are left and returns what it read together
with the characters after it, or nothing if the document is malformed there.
-/

namespace Matryoshka.Toml

/-- Reading one part of a document. -/
abbrev Reader (α : Type) := List Char → Option (α × List Char)

/-- Blanks within a line: space and tab. -/
def isBlank (c : Char) : Bool := c == ' ' || c == '\t'

/-- Characters of comments: all but controls other than the tab. -/
def isCommentChar (c : Char) : Bool := c == '\t' || (0x20 ≤ c.toNat && c.toNat ≠ 0x7F)

/-- Characters of keys without quotes. -/
def isBareChar (c : Char) : Bool := c.isAlphanum || c == '-' || c == '_'

/-- Pass over blanks. -/
def skipBlank (s : List Char) : List Char := s.dropWhile isBlank

/-- Pass over one line break. -/
def lineBreak? : List Char → Option (List Char)
  | '\n' :: s => some s
  | '\r' :: '\n' :: s => some s
  | _ => none

/-- Pass over a comment, if there is one. -/
def skipComment : List Char → List Char
  | '#' :: s => s.dropWhile isCommentChar
  | s => s

/-- Pass over the end of a line: blanks, a comment, and a line break or the end of the
document. -/
def endOfLine? (s : List Char) : Option (List Char) :=
  match skipComment (skipBlank s) with
  | [] => some []
  | s => lineBreak? s

/-- Pass over blanks, line breaks and comments, as far as `fuel` lines. -/
def skipLinesWithin : Nat → List Char → List Char
  | 0, s => s
  | fuel + 1, s =>
    let s := skipBlank s
    match lineBreak? (skipComment s) with
    | some s => skipLinesWithin fuel s
    | none => s

/-- Pass over blanks, line breaks and comments. A comment that no line break ends is
left alone. -/
def skipLines (s : List Char) : List Char := skipLinesWithin (s.length + 1) s

/-- Read one character. -/
def eat? (c : Char) : List Char → Option (List Char)
  | [] => none
  | d :: s => if d = c then some s else none

end Matryoshka.Toml
