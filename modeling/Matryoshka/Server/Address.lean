import Matryoshka.Failure

/-!
# Addresses to listen on

An address is four decimal numbers with dots between them, or eight hexadecimal
numbers with colons between them, in brackets, of which one run may be left out;
and behind a colon the number of a port.
-/

namespace Matryoshka.Server

/-- An address to listen on. -/
inductive Address where
  /-- Four numbers and a port. -/
  | four (numbers : List Nat) (port : Nat)
  /-- Eight numbers, the number of a scope, and a port. -/
  | six (numbers : List Nat) (scope : Nat) (port : Nat)
  deriving Repr, DecidableEq

namespace Address

/-- Reading one part of an address. -/
abbrev Reader (α : Type) := List Char → Option (α × List Char)

/-- Read one character. -/
def eat? (c : Char) : List Char → Option (List Char)
  | [] => none
  | d :: s => if d = c then some s else none

/-- The value of a digit of a base. -/
def digit? (base : Nat) (c : Char) : Option Nat :=
  let value :=
    if '0' ≤ c && c ≤ '9' then c.toNat - '0'.toNat
    else if 'a' ≤ c && c ≤ 'f' then c.toNat - 'a'.toNat + 10
    else if 'A' ≤ c && c ≤ 'F' then c.toNat - 'A'.toNat + 10
    else base
  if value < base then some value else none

/-- The digits of a base that a text starts with. -/
def digits (base : Nat) : List Char → List Nat × List Char
  | [] => ([], [])
  | c :: s =>
    match digit? base c with
    | some value =>
      let (values, s) := digits base s
      (value :: values, s)
    | none => ([], c :: s)

/-- The number that digits stand for. -/
def ofDigits (base : Nat) (digits : List Nat) : Nat :=
  digits.foldl (fun n digit => n * base + digit) 0

/-- Read a number below a bound, of any number of digits. -/
def number (bound : Nat) : Reader Nat := fun s =>
  match digits 10 s with
  | ([], _) => none
  | (values, s) => if ofDigits 10 values < bound then some (ofDigits 10 values, s) else none

/-- Read one of four numbers: at most three digits, without a zero in front. -/
def octet : Reader Nat := fun s =>
  match digits 10 s with
  | ([], _) => none
  | (values, s) =>
    if values.length > 3 || (values.head? = some 0 && values.length > 1) then none
    else if ofDigits 10 values < 256 then some (ofDigits 10 values, s)
    else none

/-- Read one of eight numbers: at most four hexadecimal digits. -/
def group : Reader Nat := fun s =>
  match digits 16 s with
  | ([], _) => none
  | (values, s) => if values.length > 4 then none else some (ofDigits 16 values, s)

/-- Read four numbers with dots between them. -/
def octets : Reader (List Nat) := fun s => do
  let (a, s) ← octet s
  let (b, s) ← octet (← eat? '.' s)
  let (c, s) ← octet (← eat? '.' s)
  let (d, s) ← octet (← eat? '.' s)
  some ([a, b, c, d], s)

/-- Pass over the colon in front of every number but the first. -/
def separator? (isFirst : Bool) (s : List Char) : Option (List Char) :=
  if isFirst then some s else eat? ':' s

/-- Read at most `room` numbers with colons between them; the last two may be written as
four numbers with dots. The flag says whether they were. -/
def groups (isFirst : Bool) : Nat → List Char → (List Nat × Bool) × List Char
  | 0, s => (([], false), s)
  | room + 1, s =>
    let dotted := if room = 0 then none else (separator? isFirst s).bind octets
    match dotted with
    | some ([a, b, c, d], s) => (([a * 256 + b, c * 256 + d], true), s)
    | _ =>
      match (separator? isFirst s).bind group with
      | some (value, s) =>
        let ((values, dotted), s) := groups false room s
        ((value :: values, dotted), s)
      | none => (([], false), s)

/-- Read eight numbers; two colons stand for a run of zeros. -/
def eight : Reader (List Nat) := fun s =>
  let ((front, dotted), s) := groups true 8 s
  if front.length = 8 then some (front, s)
  else if dotted then none
  else do
    let s ← eat? ':' (← eat? ':' s)
    let ((back, _), s) := groups true (7 - front.length) s
    some (front ++ List.replicate (8 - front.length - back.length) 0 ++ back, s)

/-- Read the number of a scope, if there is one. -/
def scope (s : List Char) : Nat × List Char :=
  match s with
  | '%' :: rest => (number UInt32.size rest).getD (0, s)
  | s => (0, s)

/-- Read a port behind a colon at the end of the text. -/
def port? (s : List Char) : Option Nat := do
  let (port, s) ← number UInt16.size (← eat? ':' s)
  if s = [] then some port else none

/-- The address that a text stands for. -/
def parse? (text : String) : Option Address :=
  match text.toList with
  | '[' :: s => do
    let (numbers, s) ← eight s
    let (scope, s) := scope s
    let s ← eat? ']' s
    some (.six numbers scope (← port? s))
  | s => do
    let (numbers, s) ← octets s
    some (.four numbers (← port? s))

/-- The address that a text stands for, or what is wrong with it. -/
def parse (text : String) : Except String Address :=
  match parse? text with
  | some address => .ok address
  | none => .error addressSyntaxFault

end Address

end Matryoshka.Server
