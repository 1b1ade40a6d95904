import Matryoshka.Toml.Moment
import Matryoshka.Toml.Number

/-!
# Settings documents

A document is a list of lines, gathered into sections: first the entries without a
header, then a section for every header. Each section is put into its place in the
tree of tables. A table is defined once; a header may name the way to a table that
is defined later, and a dotted key may add to what dotted keys began.
-/

namespace Matryoshka.Toml

/-! ## Adding to tables -/

/-- The value of a key. -/
def find? (key : String) (entries : Entries) : Option Value := entries.lookup key

/-- The entries with another value for a key that they have. -/
def replace (key : String) (value : Value) (entries : Entries) : Entries :=
  entries.map fun entry => if entry.1 = key then (key, value) else entry

/-- Change the table at the end of a path, and make the tables on the way that do not
exist. A dotted key may not lead through a table with a header of its own, and
nothing leads into a table between braces. -/
def alter (dotted : Bool) (change : Origin → Entries → Option Entries) :
    List String → Origin → Entries → Option Entries
  | [], origin, entries => change origin entries
  | key :: path, _, entries =>
    match find? key entries with
    | none => do
      let origin := if dotted then .dotted else .implied
      let inner ← alter dotted change path origin []
      some (entries ++ [(key, .table origin inner)])
    | some (.table origin inner) =>
      if origin = .inline || (dotted && origin = .header) then none
      else do
        let inner ← alter dotted change path origin inner
        some (replace key (.table origin inner) entries)
    | some (.tables elements) =>
      match elements.getLast? with
      | some (.table origin inner) => do
        let inner ← alter dotted change path origin inner
        some (replace key (.tables (elements.dropLast ++ [.table origin inner])) entries)
      | _ => none
    | some _ => none

/-- Add the value of a new key. -/
def addNew (key : String) (value : Value) (entries : Entries) : Option Entries :=
  match find? key entries with
  | some _ => none
  | none => some (entries ++ [(key, value)])

/-- Add the value of a dotted key. -/
def addPair (entries : Entries) (pair : List String × Value) : Option Entries :=
  match pair.1.getLast? with
  | none => none
  | some key =>
    let path := pair.1.dropLast
    alter true (fun origin inner =>
      if path ≠ [] && origin ≠ .dotted then none else addNew key pair.2 inner)
      path .header entries

/-- Add the values of dotted keys in order. -/
def addPairs (entries : Entries) (pairs : List (List String × Value)) : Option Entries :=
  pairs.foldlM addPair entries

/-! ## Reading values -/

/-- Read a word. -/
def readKeyword (word : String) (value : Value) : Reader Value := fun s =>
  let letters := word.toList
  if s.take letters.length = letters then some (value, s.drop letters.length) else none

/-- Read a value that starts like a number: a moment, or else a number. -/
def readNumeric : Reader Value := fun s =>
  match Moment.read? s with
  | some s => some (.moment, s)
  | none => (Number.readFloat s).or (Number.readInteger s)

/-- Read a value that holds no other values. -/
def readPlain : Reader Value := fun s =>
  match s with
  | [] => none
  | c :: _ =>
    if c = '"' || c = '\'' then (Text.read s).map fun (text, s) => (.text text, s)
    else if c = '+' || c = '-' || Number.isDecimal c then readNumeric s
    else if c = 't' then readKeyword "true" (.boolean true) s
    else if c = 'f' then readKeyword "false" (.boolean false) s
    else if c = 'i' || c = 'n' then Number.readSpecial false s
    else none

mutual

/-- Read a value inside `levels` brackets. -/
def readValueWithin (levels : Nat) : Nat → Reader Value
  | 0, _ => none
  | fuel + 1, s =>
    match s with
    | '[' :: s =>
      if levels + 1 < Text.deepest then
        (readElements (levels + 1) fuel s).map fun (elements, s) => (.array elements, s)
      else none
    | '{' :: s =>
      if levels + 1 < Text.deepest then
        match skipBlank s with
        | '}' :: s => some (.table .inline [], s)
        | _ => do
          let (pairs, s) ← readPairs (levels + 1) fuel s
          let entries ← addPairs [] pairs
          some (.table .inline entries, s)
      else none
    | s => readPlain s

/-- Read the elements of an array up to its closing bracket. -/
def readElements (levels : Nat) : Nat → Reader (List Value)
  | 0, _ => none
  | fuel + 1, s =>
    match skipLines s with
    | ']' :: s => some ([], s)
    | s =>
      match readValueWithin levels fuel s with
      | none => none
      | some (value, s) =>
        match skipLines s with
        | ',' :: s => (readElements levels fuel s).map fun (values, s) => (value :: values, s)
        | ']' :: s => some ([value], s)
        | _ => none

/-- Read the entries of a table between braces up to its closing brace. -/
def readPairs (levels : Nat) : Nat → Reader (List (List String × Value))
  | 0, _ => none
  | fuel + 1, s =>
    match Text.readKey s with
    | some (key, '=' :: s) =>
      match readValueWithin levels fuel (skipBlank s) with
      | none => none
      | some (value, s) =>
        match skipBlank s with
        | ',' :: s => (readPairs levels fuel s).map fun (pairs, s) => ((key, value) :: pairs, s)
        | '}' :: s => some ([(key, value)], s)
        | _ => none
    | _ => none

end

/-- Read a value. -/
def readValue : Reader Value := fun s => readValueWithin 0 (2 * s.length + 2) s

/-! ## Reading documents -/

/-- A header. -/
inductive Header where
  /-- The header of a table. -/
  | table (path : List String)
  /-- The header of one more table of a list. -/
  | element (path : List String)

/-- A line that says something. -/
inductive Line where
  /-- A header. -/
  | header (header : Header)
  /-- An entry. -/
  | pair (key : List String) (value : Value)

/-- Read a header behind its first bracket. -/
def readHeader : Reader Header
  | '[' :: s => do
    let (path, s) ← Text.readKey s
    match s with
    | ']' :: ']' :: s => some (.element path, s)
    | _ => none
  | s => do
    let (path, s) ← Text.readKey s
    match s with
    | ']' :: s => some (.table path, s)
    | _ => none

/-- Read a line that says something, without its end. -/
def readLine : Reader Line
  | '[' :: s => (readHeader s).map fun (header, s) => (.header header, s)
  | s =>
    match Text.readKey s with
    | some (key, '=' :: s) =>
      (readValue (skipBlank s)).map fun (value, s) => (.pair key value, s)
    | _ => none

/-- The lines of a document, at most `fuel` of them, empty ones left out. -/
def readLines : Nat → List Char → Option (List Line)
  | 0, _ => none
  | fuel + 1, s =>
    match skipBlank s with
    | [] => some []
    | c :: s =>
      if c = '#' || c = '\n' || c = '\r' then do
        readLines fuel (← endOfLine? (c :: s))
      else do
        let (line, s) ← readLine (c :: s)
        let lines ← readLines fuel (← endOfLine? s)
        some (line :: lines)

/-- A header and the entries below it. -/
structure Section where
  /-- The header, unless the entries stand before all headers. -/
  header : Option Header
  /-- The entries. -/
  pairs : List (List String × Value)

/-- Gather lines into sections; the entries before the first header come first. -/
def sections : List Line → List Section
  | [] => [⟨none, []⟩]
  | .header header :: lines =>
    match sections lines with
    | first :: rest => ⟨none, []⟩ :: ⟨some header, first.pairs⟩ :: rest
    | [] => []
  | .pair key value :: lines =>
    match sections lines with
    | first :: rest => ⟨first.header, (key, value) :: first.pairs⟩ :: rest
    | [] => []

/-- Put a table into its place, on top of what is there if its name was only mentioned
on the way to another table. -/
def placeTable (key : String) (pairs : List (List String × Value)) (entries : Entries) :
    Option Entries :=
  match find? key entries with
  | none => do
    let inner ← addPairs [] pairs
    some (entries ++ [(key, .table .header inner)])
  | some (.table .implied begun) => do
    let inner ← addPairs begun pairs
    some ((entries.filter fun entry => entry.1 ≠ key) ++ [(key, .table .header inner)])
  | some _ => none

/-- Put one more table behind the others of a list. -/
def placeElement (key : String) (pairs : List (List String × Value)) (entries : Entries) :
    Option Entries := do
  let inner ← addPairs [] pairs
  match find? key entries with
  | none => some (entries ++ [(key, .tables [.table .header inner])])
  | some (.tables elements) =>
    some (replace key (.tables (elements ++ [.table .header inner])) entries)
  | some _ => none

/-- Put a section into its place. -/
def placeSection (entries : Entries) (s : Section) : Option Entries :=
  match s.header with
  | none => addPairs entries s.pairs
  | some (.table path) => do
    let key ← path.getLast?
    alter false (fun _ => placeTable key s.pairs) path.dropLast .header entries
  | some (.element path) => do
    let key ← path.getLast?
    alter false (fun _ => placeElement key s.pairs) path.dropLast .header entries

/-- The characters of a document without the mark of its byte order. -/
def withoutMark : List Char → List Char
  | '\uFEFF' :: s => s
  | s => s

/-- The table that a document stands for, unless it is malformed. -/
def parse? (document : String) : Option Entries := do
  let s := withoutMark document.toList
  let lines ← readLines (s.length + 1) s
  (sections lines).foldlM placeSection []

end Matryoshka.Toml
