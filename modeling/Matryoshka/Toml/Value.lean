/-!
# Values of settings documents

A settings document is a table of values. A table remembers how it came to be,
because that decides whether later lines may add to it.
-/

namespace Matryoshka.Toml

/-- How a table came to be. -/
inductive Origin where
  /-- It has a header of its own. -/
  | header
  /-- It is named on the way to another table in a header. -/
  | implied
  /-- It is named on the way to a value in a dotted key. -/
  | dotted
  /-- It is written between braces. -/
  | inline
  deriving Repr, DecidableEq

/-- A value of a settings document. -/
inductive Value where
  /-- A string. -/
  | text (value : String)
  /-- An integer of 64 bits. -/
  | integer (value : Int)
  /-- A floating-point number. -/
  | float (value : Float)
  /-- One of the words `true` and `false`. -/
  | boolean (value : Bool)
  /-- A date, a time, or both. -/
  | moment
  /-- A list between brackets. -/
  | array (elements : List Value)
  /-- A table: its entries in the order in which they came. -/
  | table (origin : Origin) (entries : List (String × Value))
  /-- The tables whose headers stand between double brackets. -/
  | tables (elements : List Value)

/-- The entries of a table. -/
abbrev Entries := List (String × Value)

/-- The least and the largest integer of a document. -/
def fits (n : Int) : Bool := -0x8000000000000000 ≤ n && n < 0x8000000000000000

end Matryoshka.Toml
