import Matryoshka.Toml.Scan

/-!
# Dates and times

A moment is a date of the calendar, a time of the day, or both, with a distance
from universal time if both are given. Only its form is checked; a server has no
setting that is a moment.
-/

namespace Matryoshka.Toml.Moment

/-- The value of a decimal digit. -/
def digit? (c : Char) : Option Nat :=
  if '0' ≤ c && c ≤ '9' then some (c.toNat - '0'.toNat) else none

/-- Read two digits of a number between two bounds. -/
def twoDigits (least largest : Nat) : Reader Nat
  | a :: b :: s => do
    let n := (← digit? a) * 10 + (← digit? b)
    if least ≤ n && n ≤ largest then some (n, s) else none
  | _ => none

/-- Read the four digits of a year. -/
def year : Reader Nat
  | a :: b :: c :: d :: s => do
    let n := (((← digit? a) * 10 + (← digit? b)) * 10 + (← digit? c)) * 10 + (← digit? d)
    some (n, s)
  | _ => none

/-- Whether a year has a leap day. -/
def isLeap (year : Nat) : Bool := year % 4 == 0 && (year % 100 != 0 || year % 400 == 0)

/-- The number of days of a month. -/
def daysOf (year month : Nat) : Nat :=
  if month = 2 then (if isLeap year then 29 else 28)
  else if month = 4 || month = 6 || month = 9 || month = 11 then 30
  else 31

/-- Read a date. -/
def date? (s : List Char) : Option (List Char) := do
  let (year, s) ← year s
  let s ← eat? '-' s
  let (month, s) ← twoDigits 1 12 s
  let s ← eat? '-' s
  let (day, s) ← twoDigits 1 31 s
  if day ≤ daysOf year month then some s else none

/-- Read the fraction of a second, if there is one. -/
def skipFraction : List Char → List Char
  | '.' :: c :: s =>
    if (digit? c).isSome then s.dropWhile (fun c => (digit? c).isSome) else '.' :: c :: s
  | s => s

/-- Read a time of the day. -/
def time? (s : List Char) : Option (List Char) := do
  let (_, s) ← twoDigits 0 23 s
  let s ← eat? ':' s
  let (_, s) ← twoDigits 0 59 s
  let s ← eat? ':' s
  let (_, s) ← twoDigits 0 60 s
  some (skipFraction s)

/-- Read the distance from universal time, if there is one. -/
def offset? : List Char → Option (List Char)
  | 'Z' :: s | 'z' :: s => some s
  | '+' :: s | '-' :: s => do
    let (_, s) ← twoDigits 0 23 s
    let s ← eat? ':' s
    let (_, s) ← twoDigits 0 59 s
    some s
  | s => some s

/-- Read the time behind a date, if there is one. -/
def timeAfterDate? : List Char → Option (List Char)
  | c :: s =>
    if c = 'T' || c = 't' || c = ' ' then
      match time? s with
      | some s => offset? s
      | none => some (c :: s)
    else some (c :: s)
  | [] => some []

/-- Read a moment. -/
def read? (s : List Char) : Option (List Char) :=
  match date? s with
  | some s => timeAfterDate? s
  | none => time? s

end Matryoshka.Toml.Moment
