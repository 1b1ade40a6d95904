/-!
# Shortest decimals

A binary floating-point number stands for all reals that round to it. Its
shortest decimal is, among the decimals with the fewest digits in that interval,
the one nearest to the number itself. Everything is computed exactly in natural
numbers: the two neighbours of the number on the grid of `n` digits are tried for
`n = 1, 2, …`, and the first grid with a neighbour in the interval wins.
-/

namespace Matryoshka.Decimal

/-- A positive binary number and the interval of reals that round to it, all as
fractions with one denominator. -/
structure Rounded where
  /-- Numerator of the number. -/
  value : Nat
  /-- Numerator of the lower end of the interval. -/
  low : Nat
  /-- Numerator of the upper end of the interval. -/
  high : Nat
  /-- The common denominator. -/
  denominator : Nat
  /-- Whether the ends round to the number too. -/
  closed : Bool
  deriving Repr

/-- A positive decimal: `digits · 10 ^ exponent`. -/
structure Digits where
  /-- The significant digits as one number. -/
  digits : Nat
  /-- The power of ten they are multiplied by. -/
  exponent : Int
  deriving Repr, DecidableEq

/-- The number `mantissa · 2 ^ exponent`, whose lower neighbour is only half as far
away as its upper one if `narrow`. -/
def Rounded.ofBinary (mantissa : Nat) (exponent : Int) (narrow : Bool) : Rounded :=
  let up := Nat.pow 2 exponent.toNat
  { value := 4 * mantissa * up
    low := (4 * mantissa - if narrow then 1 else 2) * up
    high := (4 * mantissa + 2) * up
    denominator := 4 * Nat.pow 2 (-exponent).toNat
    closed := mantissa % 2 == 0 }

/-- Numerator and denominator of a power of ten. -/
def powerOfTen (exponent : Int) : Nat × Nat :=
  (Nat.pow 10 exponent.toNat, Nat.pow 10 (-exponent).toNat)

/-- Whether the decimal `digits · 10 ^ exponent` rounds to the number. -/
def Rounded.contains (r : Rounded) (digits : Nat) (exponent : Int) : Bool :=
  let (up, down) := powerOfTen exponent
  let point := digits * up * r.denominator
  if r.closed then r.low * down ≤ point && point ≤ r.high * down
  else r.low * down < point && point < r.high * down

/-- The nearest decimal on the grid of `10 ^ exponent` that rounds to the number; of
two equally near ones that with the even last digit. -/
def Rounded.onGrid? (r : Rounded) (exponent : Int) : Option Nat :=
  let (up, down) := powerOfTen exponent
  let unit := up * r.denominator
  let scaled := r.value * down
  let below := scaled / unit
  let distance := scaled - below * unit
  let lower := r.contains below exponent
  let upper := r.contains (below + 1) exponent
  if lower && upper then
    if 2 * distance < unit || (2 * distance == unit && below % 2 == 0) then some below
    else some (below + 1)
  else if lower then some below
  else if upper then some (below + 1)
  else none

/-- The exponent of the leading digit plus one, counted up or down from a guess. -/
def Rounded.magnitude (r : Rounded) (guess : Int) : Nat → Int
  | 0 => guess
  | fuel + 1 =>
    let (up, down) := powerOfTen guess
    if up * r.denominator ≤ r.value * down then r.magnitude (guess + 1) fuel
    else
      let (up, down) := powerOfTen (guess - 1)
      if r.value * down < up * r.denominator then r.magnitude (guess - 1) fuel
      else guess

/-- The first grid from `count` digits on with a decimal that rounds to the number. -/
def Rounded.search (r : Rounded) (magnitude : Int) (count : Nat) : Nat → Digits
  | 0 => ⟨r.value / r.denominator, 0⟩
  | fuel + 1 =>
    let exponent := magnitude - count
    match r.onGrid? exponent with
    | some digits => ⟨digits, exponent⟩
    | none => r.search magnitude (count + 1) fuel

/-- A decimal without trailing zeros, of at most `fuel` of them. -/
def Digits.trimmed (d : Digits) : Nat → Digits
  | 0 => d
  | fuel + 1 =>
    if d.digits % 10 = 0 ∧ d.digits ≠ 0 then
      Digits.trimmed ⟨d.digits / 10, d.exponent + 1⟩ fuel
    else d

/-- The shortest decimal of a positive number. -/
def Rounded.shortest (r : Rounded) : Digits :=
  (r.search (r.magnitude 0 800) 1 20).trimmed 20

/-- A finite floating-point number: its sign, and its shortest decimal unless it is zero. -/
inductive Shape where
  /-- Not a number, or an infinity. -/
  | special (negative undefined : Bool)
  /-- Zero of either sign. -/
  | zero (negative : Bool)
  /-- A number with digits. -/
  | finite (negative : Bool) (digits : Digits)
  deriving Repr

/-- What the bits of a binary format with `fraction` stored fraction bits and
`exponentBits` exponent bits stand for. -/
def Shape.ofBits (fraction exponentBits bits : Nat) : Shape :=
  let fractions := Nat.pow 2 fraction
  let exponents := Nat.pow 2 exponentBits
  let stored := bits % fractions
  let biased := bits / fractions % exponents
  let negative := bits / (fractions * exponents) % 2 == 1
  let least : Int := 2 - (exponents / 2 : Nat) - fraction
  if biased = exponents - 1 then .special negative (stored != 0)
  else if biased = 0 then
    if stored = 0 then .zero negative
    else .finite negative (Rounded.ofBinary stored least false).shortest
  else
    .finite negative
      (Rounded.ofBinary (stored + fractions) (least + biased - 1)
        (stored == 0 && biased != 1)).shortest

/-- The shape of a single-precision number. -/
def Shape.ofFloat32 (x : Float32) : Shape := Shape.ofBits 23 8 x.toBits.toNat

/-- The shape of a double-precision number. -/
def Shape.ofFloat (x : Float) : Shape := Shape.ofBits 52 11 x.toBits.toNat

/-- The digits of a number in decimal notation. -/
def digitChars (n : Nat) : List Char := Nat.toDigits 10 n

/-- Decimal notation without an exponent, with at least one digit after the point. -/
def Digits.positional (d : Digits) : List Char :=
  let chars := digitChars d.digits
  let point := chars.length + d.exponent
  if 0 ≤ d.exponent then chars ++ List.replicate d.exponent.toNat '0' ++ ['.', '0']
  else if 0 < point then chars.take point.toNat ++ '.' :: chars.drop point.toNat
  else ['0', '.'] ++ List.replicate (-point).toNat '0' ++ chars

/-- One digit before the point, the others after it, and the exponent with its sign. -/
def Digits.scientific (d : Digits) : List Char :=
  let chars := digitChars d.digits
  let power : Int := chars.length + d.exponent - 1
  let head := match chars with
    | first :: second :: rest => first :: '.' :: second :: rest
    | short => short
  head ++ 'e' :: (if power < 0 then '-' else '+') :: digitChars power.natAbs

/-- Numbers whose point falls near their digits are written positionally, the others
with an exponent. -/
structure Layout where
  /-- Most digits before the point. -/
  widest : Int
  /-- Most zeros between the point and the first digit, plus one. -/
  narrowest : Int

/-- How single-precision numbers are written. -/
def Layout.single : Layout := ⟨13, 6⟩

/-- How double-precision numbers are written. -/
def Layout.double : Layout := ⟨16, 5⟩

/-- A decimal in the notation that suits it. -/
def Layout.write (n : Layout) (d : Digits) : List Char :=
  let point := (digitChars d.digits).length + d.exponent
  if -n.narrowest < point ∧ point ≤ n.widest then d.positional else d.scientific

/-- A minus sign for a negative number. -/
def signed (negative : Bool) (text : List Char) : List Char :=
  if negative then '-' :: text else text

/-- A finite number in the notation that suits it; nothing for the special values. -/
def Layout.writeShape? (n : Layout) : Shape → Option (List Char)
  | .special _ _ => none
  | .zero negative => some (signed negative ['0', '.', '0'])
  | .finite negative digits => some (signed negative (n.write digits))

/-- A number written without an exponent, whatever its size. -/
def plainText (x : Float) : String :=
  match Shape.ofFloat x with
  | .special _ true => "NaN"
  | .special true false => "-inf"
  | .special false false => "inf"
  | .zero negative => String.ofList (signed negative ['0', '.', '0'])
  | .finite negative digits => String.ofList (signed negative digits.positional)

end Matryoshka.Decimal
