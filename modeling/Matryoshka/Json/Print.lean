import Matryoshka.Decimal.Shortest

/-!
# Writing documents

Documents are written without blanks. In strings only quotes, backslashes and
controls are escaped, the common controls by a letter. Single-precision numbers
have the fewest digits that read back; those that are not finite are `null`.
-/

namespace Matryoshka.Json.Print

/-- The value of a hexadecimal digit in small letters. -/
def hexChar (n : Nat) : Char := Nat.digitChar n

/-- A character inside a string. -/
def stringChar (c : Char) : List Char :=
  if c = '"' then ['\\', '"']
  else if c = '\\' then ['\\', '\\']
  else if c = '\x08' then ['\\', 'b']
  else if c = '\x0C' then ['\\', 'f']
  else if c = '\n' then ['\\', 'n']
  else if c = '\r' then ['\\', 'r']
  else if c = '\t' then ['\\', 't']
  else if c.toNat < 0x20 then
    ['\\', 'u', '0', '0', hexChar (c.toNat / 16), hexChar (c.toNat % 16)]
  else [c]

/-- A string. -/
def string (text : String) : List Char := '"' :: (text.toList.flatMap stringChar ++ ['"'])

/-- A count. -/
def count (n : Nat) : List Char := Nat.toDigits 10 n

/-- The word `null`. -/
def null : List Char := ['n', 'u', 'l', 'l']

/-- One of the words `true` and `false`. -/
def bool : Bool → List Char
  | true => ['t', 'r', 'u', 'e']
  | false => ['f', 'a', 'l', 's', 'e']

/-- A single-precision number. -/
def float32 (x : Float32) : List Char :=
  (Decimal.Layout.single.writeShape? (Decimal.Shape.ofFloat32 x)).getD null

/-- Parts with commas between them. -/
def separated : List (List Char) → List Char
  | [] => []
  | [part] => part
  | part :: parts => part ++ ',' :: separated parts

/-- A list. -/
def list (elements : List (List Char)) : List Char := '[' :: (separated elements ++ [']'])

/-- A member of an object. -/
def member (key : String) (value : List Char) : List Char := string key ++ ':' :: value

/-- An object: its members in order. -/
def object (members : List (String × List Char)) : List Char :=
  '\x7b' :: (separated (members.map fun m => member m.1 m.2) ++ ['\x7d'])

/-- A member that is left out when it has no value. -/
def optional (key : String) : Option (List Char) → List (String × List Char)
  | some value => [(key, value)]
  | none => []

end Matryoshka.Json.Print
