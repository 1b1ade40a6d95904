import Matryoshka.Toml.Text
import Matryoshka.Toml.Value

/-!
# Numbers of settings documents

Digits may be grouped by underscores. An integer must fit into 64 bits. A number
with a point or an exponent is rounded to the nearest double-precision number; it
may be so small that it becomes infinite, but not so large.
-/

namespace Matryoshka.Toml.Number

/-- Read digits behind the first one; an underscore must stand between two digits. -/
def moreDigits (isDigit : Char → Bool) : List Char → List Char × List Char
  | [] => ([], [])
  | '_' :: c :: s =>
    if isDigit c then
      let (digits, s) := moreDigits isDigit s
      (c :: digits, s)
    else ([], '_' :: c :: s)
  | c :: s =>
    if isDigit c then
      let (digits, s) := moreDigits isDigit s
      (c :: digits, s)
    else ([], c :: s)

/-- Read at least one digit. -/
def digits (isDigit : Char → Bool) : Reader (List Char)
  | [] => none
  | c :: s =>
    if isDigit c then
      let (more, s) := moreDigits isDigit s
      some (c :: more, s)
    else none

/-- Whether a character is a decimal digit. -/
def isDecimal (c : Char) : Bool := '0' ≤ c && c ≤ '9'

/-- The number that digits stand for. -/
def ofDigits (base : Nat) (digits : List Char) : Nat :=
  digits.foldl (fun n c => n * base + (Text.hexDigit? c).getD 0) 0

/-- Read a sign, if there is one: whether it is a minus sign. -/
def sign : List Char → Bool × List Char
  | '+' :: s => (false, s)
  | '-' :: s => (true, s)
  | s => (false, s)

/-- Read the digits of a decimal integer: a single zero, or digits that start with
another one. -/
def decimalDigits : Reader (List Char)
  | '0' :: s => some (['0'], s)
  | s => digits isDecimal s

/-- An integer that fits into 64 bits. -/
def bounded (n : Int) (s : List Char) : Option (Value × List Char) :=
  if fits n then some (.integer n, s) else none

/-- Read digits of a base behind its mark. -/
def readInBase (base : Nat) (isDigit : Char → Bool) : Reader Value := fun s =>
  match digits isDigit s with
  | some (digits, s) => bounded (ofDigits base digits) s
  | none => none

/-- Read an integer. -/
def readInteger : Reader Value
  | '0' :: 'x' :: s => readInBase 16 (fun c => (Text.hexDigit? c).isSome) s
  | '0' :: 'o' :: s => readInBase 8 (fun c => '0' ≤ c && c ≤ '7') s
  | '0' :: 'b' :: s => readInBase 2 (fun c => c == '0' || c == '1') s
  | s =>
    let (negative, s) := sign s
    match decimalDigits s with
    | some (digits, s) =>
      let n : Int := ofDigits 10 digits
      bounded (if negative then -n else n) s
    | none => none

/-- Read an exponent with its mark. -/
def readExponent : Reader Int
  | c :: s =>
    if c = 'e' || c = 'E' then
      let (negative, s) := sign s
      match digits isDecimal s with
      | some (digits, s) =>
        let n : Int := ofDigits 10 digits
        some (if negative then -n else n, s)
      | none => none
    else none
  | [] => none

/-- The double-precision number nearest to `digits · 10 ^ exponent`. -/
def nearest (digits : List Char) (exponent : Int) : Float :=
  let significand := ofDigits 10 digits
  let magnitude := exponent + digits.length
  if significand = 0 || magnitude < -400 then 0
  else if exponent > 400 then 1.0 / 0.0
  else if exponent < 0 then Float.ofScientific significand true exponent.natAbs
  else Float.ofScientific significand false exponent.natAbs

/-- Finish a number with a point or an exponent. -/
def finish (negative : Bool) (digits : List Char) (exponent : Int) (s : List Char) :
    Option (Value × List Char) :=
  let x := nearest digits exponent
  if x.isInf && !negative then none else some (.float (if negative then -x else x), s)

/-- Read the name of a special value. -/
def readSpecial (negative : Bool) : Reader Value
  | 'i' :: 'n' :: 'f' :: s => some (.float (if negative then -(1.0 / 0.0) else 1.0 / 0.0), s)
  | 'n' :: 'a' :: 'n' :: s => some (.float (0.0 / 0.0), s)
  | _ => none

/-- Read a number with a point or an exponent, or a special value. -/
def readFloat : Reader Value := fun s =>
  let (negative, s) := sign s
  match decimalDigits s with
  | none => readSpecial negative s
  | some (whole, '.' :: s) =>
    match digits isDecimal s with
    | none => none
    | some (fraction, s) =>
      match readExponent s with
      | some (exponent, s) => finish negative (whole ++ fraction) (exponent - fraction.length) s
      | none => finish negative (whole ++ fraction) (-fraction.length) s
  | some (whole, s) =>
    match readExponent s with
    | some (exponent, s) => finish negative whole exponent s
    | none => none

end Matryoshka.Toml.Number
