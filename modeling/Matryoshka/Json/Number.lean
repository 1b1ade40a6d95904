import Matryoshka.Json.Cursor
import Matryoshka.Decimal.Shortest

/-!
# Numbers in documents

An integer of 64 bits keeps its value. Any other number is a double-precision
one: its leading digits, as many as fit into 64 bits, times a power of ten. The
product is rounded once for the digits and once for the power, so the last bit
may differ from the nearest double.
-/

namespace Matryoshka.Json

/-- A number of a document. -/
inductive Number where
  /-- An integer from zero to the largest of 64 bits. -/
  | natural (n : Nat)
  /-- The negative of a positive number, down to the least integer of 64 bits. -/
  | negative (n : Nat)
  /-- Any other number. -/
  | float (x : Float)

namespace Number

/-- How a number is named when it is not what was asked for. -/
def describe : Number → String
  | natural n => "integer `" ++ toString n ++ "`"
  | negative n => "integer `-" ++ toString n ++ "`"
  | float x =>
    match Decimal.Layout.double.writeShape? (Decimal.Shape.ofFloat x) with
    | some text => "floating point `" ++ String.ofList text ++ "`"
    | none => "floating point `" ++ Decimal.plainText x ++ "`"

/-- The single-precision number nearest to a number. -/
def toFloat32 : Number → Float32
  | natural n => n.toUInt64.toFloat32
  | negative n => -n.toUInt64.toFloat32
  | float x => x.toFloat32

/-- Whether a byte is a decimal digit. -/
def isDigit (b : UInt8) : Bool := 0x30 ≤ b && b ≤ 0x39

/-- The value of a digit. -/
def digitValue (b : UInt8) : Nat := b.toNat - 0x30

/-- The digits from a place on, and what follows them. -/
def takeDigits (p : Place) : List UInt8 → List Nat × Cursor
  | [] => ([], ⟨p, []⟩)
  | b :: rest =>
    if isDigit b then
      let (digits, after) := takeDigits (p.after b) rest
      (digitValue b :: digits, after)
    else ([], ⟨p, b :: rest⟩)

/-- The largest number of 64 bits. -/
def largest : Nat := UInt64.size - 1

/-- Append digits to a number as long as it stays within 64 bits: the number, and how
many digits it took. -/
def append (significand : Nat) : List Nat → Nat × Nat
  | [] => (significand, 0)
  | digit :: digits =>
    if significand * 10 + digit ≤ largest then
      let (result, taken) := append (significand * 10 + digit) digits
      (result, taken + 1)
    else (significand, 0)

/-- The double-precision power of ten with an exponent of at most 308. -/
def powerOfTen (exponent : Nat) : Float := Float.ofScientific 1 false exponent

/-- Divide by a power of ten, the largest one at a time. -/
def divideByPower (x : Float) (exponent : Nat) : Float :=
  if exponent ≤ 308 then x / powerOfTen exponent
  else if x == 0 then x
  else divideByPower (x / powerOfTen 308) (exponent - 308)
termination_by exponent

/-- The number `significand · 10 ^ exponent`, if it is finite. -/
def ofParts? (significand : Nat) (exponent : Int) : Option Float :=
  let x := significand.toUInt64.toFloat
  if exponent < 0 then some (divideByPower x exponent.natAbs)
  else if exponent ≤ 308 then
    let product := x * powerOfTen exponent.natAbs
    if product.isInf then none else some product
  else if x == 0 then some x
  else none

/-- A double-precision number with its sign. -/
def signedFloat (isNegative : Bool) (x : Float) : Number := float (if isNegative then -x else x)

/-- Finish a number that has a point or an exponent. -/
def finishFloat (isNegative : Bool) (significand : Nat) (exponent : Int) : Reader Number := fun c =>
  match ofParts? significand exponent with
  | some x => .ok (signedFloat isNegative x, c)
  | none => stopAt .numberOutOfRange c.place

/-- The largest exponent that is read digit by digit. -/
def largestExponent : Nat := 0x7FFFFFFF

/-- Read the digits of an exponent: its value, or nothing and the place of the digit
that made it too large. -/
def readExponentDigits (value : Nat) (p : Place) : List UInt8 → Option Nat × Cursor
  | [] => (some value, ⟨p, []⟩)
  | b :: rest =>
    if isDigit b then
      if value * 10 + digitValue b ≤ largestExponent then
        readExponentDigits (value * 10 + digitValue b) (p.after b) rest
      else (none, ⟨p.after b, rest⟩)
    else (some value, ⟨p, b :: rest⟩)

/-- Read the digits of an exponent, behind its sign. -/
def readScale (isNegative : Bool) (significand : Nat) (exponent : Int) (down : Bool) :
    Reader Number := fun c =>
  match c.rest with
  | [] => stopAt .eofInValue c.place
  | b :: rest =>
    if isDigit b then
      match readExponentDigits (digitValue b) (c.place.after b) rest with
      | (some value, after) =>
        finishFloat isNegative significand (if down then exponent - value else exponent + value)
          after
      | (none, after) =>
        if significand ≠ 0 && !down then stopAt .numberOutOfRange after.place
        else .ok (signedFloat isNegative 0, (takeDigits after.place after.rest).2)
    else stopAt .invalidNumber c.ahead

/-- Read the exponent behind its mark. -/
def readExponent (isNegative : Bool) (significand : Nat) (exponent : Int) : Reader Number :=
  fun c =>
  match c.rest with
  | 0x2B :: _ => readScale isNegative significand exponent false c.eat
  | 0x2D :: _ => readScale isNegative significand exponent true c.eat
  | _ => readScale isNegative significand exponent false c

/-- Read what follows the digits before the point, or after it. -/
def readTail (isNegative : Bool) (significand : Nat) (exponent : Int) : Reader Number := fun c =>
  match c.rest with
  | 0x65 :: _ | 0x45 :: _ => readExponent isNegative significand exponent c.eat
  | _ => finishFloat isNegative significand exponent c

/-- Read the digits behind the point. -/
def readFraction (isNegative : Bool) (significand : Nat) (exponent : Int) : Reader Number :=
  fun c =>
  let (digits, after) := takeDigits c.place c.rest
  match digits with
  | [] => stopAt (if after.rest.isEmpty then .eofInValue else .invalidNumber) after.ahead
  | digits =>
    let (significand, taken) := append significand digits
    readTail isNegative significand (exponent - taken) after

/-- An integer without point and exponent. -/
def ofInteger (isNegative : Bool) (significand : Nat) : Number :=
  if isNegative then
    if significand = 0 || significand > 0x8000000000000000 then
      float (-(significand.toUInt64.toFloat))
    else negative significand
  else natural significand

/-- Read what follows the digits of an integer, `dropped` of which did not fit. -/
def readAfterInteger (isNegative : Bool) (significand dropped : Nat) : Reader Number := fun c =>
  match c.rest with
  | 0x2E :: _ => readFraction isNegative significand dropped c.eat
  | 0x65 :: _ | 0x45 :: _ => readExponent isNegative significand dropped c.eat
  | _ =>
    if dropped = 0 then .ok (ofInteger isNegative significand, c)
    else finishFloat isNegative significand dropped c

/-- Read a number behind its sign. -/
def readUnsigned (isNegative : Bool) : Reader Number := fun c =>
  match c.rest with
  | [] => stopAt .eofInValue c.place
  | b :: rest =>
    if b = 0x30 then
      let after := c.eat
      match rest with
      | next :: _ =>
        if isDigit next then stopAt .invalidNumber after.ahead
        else readAfterInteger isNegative 0 0 after
      | [] => readAfterInteger isNegative 0 0 after
    else if isDigit b then
      let (digits, after) := takeDigits c.place c.rest
      let (significand, taken) := append 0 digits
      readAfterInteger isNegative significand (digits.length - taken) after
    else stopAt .invalidNumber c.ahead

/-- Read a number that starts with a sign or a digit. -/
def read : Reader Number := fun c =>
  match c.rest with
  | 0x2D :: _ => readUnsigned true c.eat
  | _ => readUnsigned false c

/-- Pass over the digits of an exponent behind its mark. -/
def skipExponent (c : Cursor) : Except Stop Cursor :=
  let c := match c.rest with
    | 0x2B :: _ | 0x2D :: _ => c.eat
    | _ => c
  match c.rest with
  | [] => stopAt .invalidNumber c.place
  | b :: _ =>
    if isDigit b then .ok (takeDigits c.place c.rest).2
    else stopAt .invalidNumber c.ahead

/-- Pass over the digits behind a point. -/
def skipFraction (c : Cursor) : Except Stop Cursor :=
  let (digits, after) := takeDigits c.place c.rest
  match digits with
  | [] => stopAt .invalidNumber after.ahead
  | _ =>
    match after.rest with
    | 0x65 :: _ | 0x45 :: _ => skipExponent after.eat
    | _ => .ok after

/-- Pass over what follows the digits of an integer. -/
def skipAfterInteger (c : Cursor) : Except Stop Cursor :=
  match c.rest with
  | 0x2E :: _ => skipFraction c.eat
  | 0x65 :: _ | 0x45 :: _ => skipExponent c.eat
  | _ => .ok c

/-- Pass over a number behind its sign, whatever its size. -/
def skipUnsigned (c : Cursor) : Except Stop Cursor :=
  match c.rest with
  | [] => stopAt .invalidNumber c.place
  | b :: rest =>
    if b = 0x30 then
      match rest with
      | next :: _ =>
        if isDigit next then stopAt .invalidNumber c.eat.ahead else skipAfterInteger c.eat
      | [] => skipAfterInteger c.eat
    else if isDigit b then skipAfterInteger (takeDigits c.place c.rest).2
    else stopAt .invalidNumber c.ahead

end Number

end Matryoshka.Json
