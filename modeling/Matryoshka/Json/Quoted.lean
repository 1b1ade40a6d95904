import Matryoshka.Json.Cursor

/-!
# Strings in documents

A string is read byte by byte by a small machine: between characters, behind a
backslash, inside the four digits of a numbered escape, or between the two halves
of a surrogate pair. What a byte emits depends on the mode and the byte alone.
The bytes emitted up to the closing quote must be valid UTF-8; if they are not, the
problem is with the first byte that spoils them.
-/

namespace Matryoshka.Json.Quoted

/-- Where reading a string stands. -/
inductive Mode where
  /-- Between characters. -/
  | plain
  /-- Behind a backslash. -/
  | escape
  /-- Inside a numbered escape: the digits missing, the number so far unless a byte was no
  digit, and the first half of a surrogate pair if this is to be the second. -/
  | hex (missing : Nat) (value : Option Nat) (lead : Option Nat)
  /-- Behind the first half of a surrogate pair. -/
  | backslash (lead : Nat)
  /-- Behind the backslash of the second half. -/
  | letter (lead : Nat)
  deriving Repr, DecidableEq

/-- What the machine does at a byte. -/
inductive Move where
  /-- Emit some bytes and go on. -/
  | go (mode : Mode) (emitted : List UInt8)
  /-- The string ends before the byte. -/
  | close
  /-- There is a problem with the byte. -/
  | refuse (problem : Problem)
  deriving Repr, DecidableEq

/-- The byte that a letter behind a backslash stands for. -/
def simpleEscape? (b : UInt8) : Option UInt8 :=
  if b = 0x22 then some 0x22
  else if b = 0x5C then some 0x5C
  else if b = 0x2F then some 0x2F
  else if b = 0x62 then some 0x08
  else if b = 0x66 then some 0x0C
  else if b = 0x6E then some 0x0A
  else if b = 0x72 then some 0x0D
  else if b = 0x74 then some 0x09
  else none

/-- The value of a hexadecimal digit. -/
def hexDigit? (b : UInt8) : Option Nat :=
  if 0x30 ≤ b && b ≤ 0x39 then some (b.toNat - 0x30)
  else if 0x41 ≤ b && b ≤ 0x46 then some (b.toNat - 0x41 + 10)
  else if 0x61 ≤ b && b ≤ 0x66 then some (b.toNat - 0x61 + 10)
  else none

/-- Whether a number is the first half of a surrogate pair. -/
def isLead (n : Nat) : Bool := 0xD800 ≤ n && n ≤ 0xDBFF

/-- Whether a number is the second half of a surrogate pair. -/
def isTrail (n : Nat) : Bool := 0xDC00 ≤ n && n ≤ 0xDFFF

/-- The character of a surrogate pair. -/
def pair (lead trail : Nat) : Char :=
  Char.ofNat (0x10000 + (lead - 0xD800) * 0x400 + (trail - 0xDC00))

/-- What follows the last digit of a numbered escape. -/
def afterHex (value lead : Option Nat) : Move :=
  match value, lead with
  | none, _ => .refuse .invalidEscape
  | some n, none =>
    if isTrail n then .refuse .loneSurrogate
    else if isLead n then .go (.backslash n) []
    else .go .plain (String.utf8EncodeChar (Char.ofNat n))
  | some n, some lead =>
    if isTrail n then .go .plain (String.utf8EncodeChar (pair lead n))
    else .refuse .loneSurrogate

/-- One more digit of a numbered escape. -/
def pushHex (value : Option Nat) (b : UInt8) : Option Nat :=
  match value, hexDigit? b with
  | some value, some digit => some (value * 16 + digit)
  | _, _ => none

/-- What the machine does at a byte. -/
def Mode.move : Mode → UInt8 → Move
  | plain, b =>
    if b = 0x22 then .close
    else if b = 0x5C then .go .escape []
    else if b < 0x20 then .refuse .controlCharacter
    else .go .plain [b]
  | escape, b =>
    if b = 0x75 then .go (.hex 4 (some 0) none) []
    else
      match simpleEscape? b with
      | some byte => .go .plain [byte]
      | none => .refuse .invalidEscape
  | hex missing value lead, b =>
    if missing ≤ 1 then afterHex (pushHex value b) lead
    else .go (.hex (missing - 1) (pushHex value b) lead) []
  | backslash lead, b => if b = 0x5C then .go (.letter lead) [] else .refuse .endOfHexEscape
  | letter lead, b =>
    if b = 0x75 then .go (.hex 4 (some 0) (some lead)) [] else .refuse .endOfHexEscape

/-- Run the machine up to the closing quote: the bytes emitted, the earliest ones in
`before` in reverse, and the cursor at the quote. -/
def scan (mode : Mode) (before : List UInt8) (p : Place) : List UInt8 →
    Except Stop (List UInt8 × Cursor)
  | [] => stopAt .eofInString p
  | b :: rest =>
    match mode.move b with
    | .go next emitted => scan next (emitted.reverse ++ before) (p.after b) rest
    | .close => .ok (before.reverse, ⟨p, b :: rest⟩)
    | .refuse problem => stopAt problem (p.after b)

/-- How many bytes from index `i` on are valid UTF-8, at most `fuel` characters of it. -/
def validFrom (bytes : ByteArray) (i : Nat) : Nat → Nat
  | 0 => i
  | fuel + 1 =>
    match bytes.utf8DecodeChar? i with
    | some c => validFrom bytes (i + c.utf8Size) fuel
    | none => i

/-- The place behind the first byte that spoils a string. Of the `size` bytes emitted the
first `valid` are text. The bytes count as if they stood directly before the closing quote,
which is where a string without escapes has them. -/
def placeOfSpoiled (quote : Place) (size valid : Nat) : Place :=
  ⟨quote.line, quote.column + valid + 1 - size⟩

/-- Read a string behind its opening quote. A string that is not valid UTF-8 is refused
at the first byte that spoils it. -/
def readRest : Reader String := fun start =>
  match scan .plain [] start.place start.rest with
  | .error stop => .error stop
  | .ok (bytes, c) =>
    let emitted := bytes.toByteArray
    match String.fromUTF8? emitted with
    | some text => .ok (text, c.eat)
    | none =>
      stopAt .invalidText
        (placeOfSpoiled c.place emitted.size (validFrom emitted 0 emitted.size))

/-- Where passing over a string stands: behind a backslash or not, and how many digits
of a numbered escape are missing. -/
inductive SkipMode where
  /-- Between characters. -/
  | plain
  /-- Behind a backslash. -/
  | escape
  /-- Inside a numbered escape. -/
  | hex (missing : Nat) (value : Option Nat)
  deriving Repr, DecidableEq

/-- Pass over a string behind its opening quote. Its text need not be valid, but its
escapes must exist. -/
def skip (mode : SkipMode) (p : Place) : List UInt8 → Except Stop Cursor
  | [] => stopAt .eofInString p
  | b :: rest =>
    match mode with
    | .plain =>
      if b = 0x22 then .ok ⟨p.after b, rest⟩
      else if b = 0x5C then skip .escape (p.after b) rest
      else if b < 0x20 then stopAt .controlCharacter p
      else skip .plain (p.after b) rest
    | .escape =>
      if b = 0x75 then skip (.hex 4 (some 0)) (p.after b) rest
      else if (simpleEscape? b).isSome then skip .plain (p.after b) rest
      else stopAt .invalidEscape (p.after b)
    | .hex missing value =>
      if missing ≤ 1 then
        match pushHex value b with
        | some _ => skip .plain (p.after b) rest
        | none => stopAt .invalidEscape (p.after b)
      else skip (.hex (missing - 1) (pushHex value b)) (p.after b) rest

end Matryoshka.Json.Quoted
