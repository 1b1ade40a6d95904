import Matryoshka.Json.Cursor

/-!
# The grammar of documents

What a document says (`Tree`), and how it may be written (`SpellsDocument`). Every value may stand
between blanks. A character of a string may stand for itself or be escaped in one of three ways, and
of a number only the form counts. The grammar knows nothing about reading: it relates trees to
bytes, and one tree may be written in many ways.
-/

namespace Matryoshka.Json

/-- What a document says. -/
inductive Tree where
  /-- Nothing. -/
  | null
  /-- Yes or no. -/
  | bool (value : Bool)
  /-- A number, as it is written. -/
  | number (literal : List UInt8)
  /-- A text. -/
  | string (text : String)
  /-- Some values in order. -/
  | list (elements : List Tree)
  /-- Some values with their keys, in order; a key may come again. -/
  | object (members : List (String × Tree))

/-! ## Blanks and numbers -/

/-- Blanks between the parts of a document. -/
def Blank (bytes : List UInt8) : Prop := ∀ b ∈ bytes, b ∈ [0x20, 0x09, 0x0A, 0x0D]

/-- Digits, if there are any. -/
def Digits (bytes : List UInt8) : Prop := ∀ b ∈ bytes, 0x30 ≤ b ∧ b ≤ 0x39

/-- An integer without a sign; only zero starts with a zero. -/
inductive SpellsInteger : List UInt8 → Prop
  /-- Zero. -/
  | zero : SpellsInteger [0x30]
  /-- Any other. -/
  | positive {first : UInt8} {others : List UInt8} (leads : 0x31 ≤ first ∧ first ≤ 0x39)
      (digits : Digits others) : SpellsInteger (first :: others)

/-- What may stand behind the point. -/
inductive SpellsFraction : List UInt8 → Prop
  /-- There is no point. -/
  | none : SpellsFraction []
  /-- Digits. -/
  | digits {digits : List UInt8} (filled : digits ≠ []) (all : Digits digits) :
      SpellsFraction (0x2E :: digits)

/-- An exponent. -/
inductive SpellsExponent : List UInt8 → Prop
  /-- There is none. -/
  | none : SpellsExponent []
  /-- Digits behind a mark, perhaps with a sign. -/
  | digits {mark : UInt8} {sign digits : List UInt8} (marks : mark = 0x65 ∨ mark = 0x45)
      (signs : sign = [] ∨ sign = [0x2B] ∨ sign = [0x2D]) (filled : digits ≠ [])
      (all : Digits digits) : SpellsExponent (mark :: sign ++ digits)

/-- A number without a sign. -/
inductive SpellsUnsigned : List UInt8 → Prop
  /-- Its three parts. -/
  | parts {integer fraction exponent : List UInt8} (leads : SpellsInteger integer)
      (point : SpellsFraction fraction) (scale : SpellsExponent exponent) :
      SpellsUnsigned (integer ++ fraction ++ exponent)

/-- A number. -/
inductive SpellsNumber : List UInt8 → Prop
  /-- Without a sign. -/
  | unsigned {bytes : List UInt8} (digits : SpellsUnsigned bytes) : SpellsNumber bytes
  /-- Behind a minus sign. -/
  | negative {bytes : List UInt8} (digits : SpellsUnsigned bytes) : SpellsNumber (0x2D :: bytes)

/-! ## Strings -/

/-- A hexadecimal digit and its value. -/
inductive SpellsHex : UInt8 → Nat → Prop
  /-- A decimal digit. -/
  | digit {n : Nat} (small : n < 10) : SpellsHex (0x30 + n.toUInt8) n
  /-- A capital letter. -/
  | capital {n : Nat} (small : n < 6) : SpellsHex (0x41 + n.toUInt8) (10 + n)
  /-- A small letter. -/
  | letter {n : Nat} (small : n < 6) : SpellsHex (0x61 + n.toUInt8) (10 + n)

/-- A numbered escape and its number. -/
inductive SpellsUnit : List UInt8 → Nat → Prop
  /-- Four digits behind a backslash and a letter. -/
  | digits {a b c d : UInt8} {k l m n : Nat} (first : SpellsHex a k) (second : SpellsHex b l)
      (third : SpellsHex c m) (fourth : SpellsHex d n) :
      SpellsUnit [0x5C, 0x75, a, b, c, d] (((k * 16 + l) * 16 + m) * 16 + n)

/-- The characters with an escape of their own, by number, and the letter of this escape. -/
def shortEscapes : List (Nat × UInt8) :=
  [(0x22, 0x22), (0x5C, 0x5C), (0x2F, 0x2F), (0x08, 0x62), (0x0C, 0x66), (0x0A, 0x6E),
    (0x0D, 0x72), (0x09, 0x74)]

/-- A character of a string. -/
inductive SpellsChar (c : Char) : List UInt8 → Prop
  /-- It stands for itself, unless it is the quote, the backslash or a control character. -/
  | plain (plain : c.toNat ≠ 0x22 ∧ c.toNat ≠ 0x5C ∧ 0x20 ≤ c.toNat) :
      SpellsChar c (String.utf8EncodeChar c)
  /-- It has an escape of its own. -/
  | short {b : UInt8} (short : (c.toNat, b) ∈ shortEscapes) : SpellsChar c [0x5C, b]
  /-- It is given by its number. -/
  | unit {bytes : List UInt8} (number : SpellsUnit bytes c.toNat) : SpellsChar c bytes
  /-- It is given by a surrogate pair. -/
  | pair {first second : List UInt8} {lead trail : Nat} (leads : SpellsUnit first lead)
      (trails : SpellsUnit second trail) (inLead : 0xD800 ≤ lead ∧ lead < 0xDC00)
      (inTrail : 0xDC00 ≤ trail ∧ trail < 0xE000)
      (number : c.toNat = 0x10000 + (lead - 0xD800) * 0x400 + (trail - 0xDC00)) :
      SpellsChar c (first ++ second)

/-- The characters of a string. -/
inductive SpellsChars : List Char → List UInt8 → Prop
  /-- There are none. -/
  | nil : SpellsChars [] []
  /-- One after the other. -/
  | cons {c : Char} {chars : List Char} {bytes rest : List UInt8} (first : SpellsChar c bytes)
      (others : SpellsChars chars rest) : SpellsChars (c :: chars) (bytes ++ rest)

/-- A string. -/
inductive SpellsString (text : String) : List UInt8 → Prop
  /-- Its characters in quotes. -/
  | quoted {bytes : List UInt8} (inside : SpellsChars text.toList bytes) :
      SpellsString text (0x22 :: bytes ++ [0x22])

/-! ## Values -/

/-- What stands before an element or member: blanks, and a comma unless it is the first. -/
inductive Lead : Bool → List UInt8 → Prop
  /-- Before the first one. -/
  | first {blank : List UInt8} (only : Blank blank) : Lead true blank
  /-- Before a later one. -/
  | later {before after : List UInt8} (blank : Blank before) (more : Blank after) :
      Lead false (before ++ 0x2C :: after)

mutual

/-- A value. -/
inductive Spells : Tree → List UInt8 → Prop
  /-- The word for nothing. -/
  | null : Spells .null (Cursor.ascii "null")
  /-- The word for yes. -/
  | yes : Spells (.bool true) (Cursor.ascii "true")
  /-- The word for no. -/
  | no : Spells (.bool false) (Cursor.ascii "false")
  /-- A number. -/
  | number {literal : List UInt8} (number : SpellsNumber literal) :
      Spells (.number literal) literal
  /-- A string. -/
  | string {text : String} {bytes : List UInt8} (string : SpellsString text bytes) :
      Spells (.string text) bytes
  /-- A list. -/
  | list {elements : List Tree} {bytes : List UInt8} (inside : SpellsElements true elements bytes) :
      Spells (.list elements) (0x5B :: bytes ++ [0x5D])
  /-- An object. -/
  | object {members : List (String × Tree)} {bytes : List UInt8}
      (inside : SpellsMembers true members bytes) :
      Spells (.object members) (0x7B :: bytes ++ [0x7D])

/-- The elements of a list, from the first one or from a later one on. -/
inductive SpellsElements : Bool → List Tree → List UInt8 → Prop
  /-- There are no more. -/
  | nil {isFirst : Bool} {blank : List UInt8} (only : Blank blank) :
      SpellsElements isFirst [] blank
  /-- One more. -/
  | cons {isFirst : Bool} {tree : Tree} {trees : List Tree} {lead bytes rest : List UInt8}
      (leads : Lead isFirst lead) (first : Spells tree bytes)
      (others : SpellsElements false trees rest) :
      SpellsElements isFirst (tree :: trees) (lead ++ bytes ++ rest)

/-- The members of an object, from the first one or from a later one on. -/
inductive SpellsMembers : Bool → List (String × Tree) → List UInt8 → Prop
  /-- There are no more. -/
  | nil {isFirst : Bool} {blank : List UInt8} (only : Blank blank) :
      SpellsMembers isFirst [] blank
  /-- One more: its key, a colon and its value. -/
  | cons {isFirst : Bool} {key : String} {tree : Tree} {members : List (String × Tree)}
      {lead name before after bytes rest : List UInt8} (leads : Lead isFirst lead)
      (names : SpellsString key name) (behind : Blank before) (ahead : Blank after)
      (first : Spells tree bytes) (others : SpellsMembers false members rest) :
      SpellsMembers isFirst ((key, tree) :: members)
        (lead ++ name ++ before ++ 0x3A :: after ++ bytes ++ rest)

end

/-- A document: one value between blanks. -/
inductive SpellsDocument (tree : Tree) : List UInt8 → Prop
  /-- The blanks and the value. -/
  | value {before bytes after : List UInt8} (blank : Blank before) (spells : Spells tree bytes)
      (more : Blank after) : SpellsDocument tree (before ++ bytes ++ after)

end Matryoshka.Json
