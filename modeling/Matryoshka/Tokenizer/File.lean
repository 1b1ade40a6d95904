import Matryoshka.Tokenizer.Added
import Matryoshka.Tokenizer.Decoder
import Matryoshka.Tokenizer.Lengths
import Matryoshka.Tokenizer.Template

/-!
# Tokenizer files

A tokenizer is described by a document: the vocabulary, the added tokens, how text
is normalised and split, the template, and what fills up shorter sequences. Every part
must be well-formed, even one that does not matter here.
-/

namespace Matryoshka.WordLevel

open Json

/-- A vocabulary with the token of words that are not in it. -/
structure Lexicon where
  /-- The ids of words. -/
  vocabulary : Std.HashMap String TokenId
  /-- The token of words that are not in the vocabulary. -/
  unknown : String

/-- The vocabulary that the members of an object stand for. -/
def vocabulary? : Value → Option (Std.HashMap String TokenId)
  | .object members => do
    let entries ← members.mapM fun m => do some (m.1, ← id? m.2)
    some (Std.HashMap.ofList entries)
  | _ => none

/-- The vocabulary of a model. Every member that has to do with it must fit, and the last
of its kind counts; the type may be left out. -/
def lexicon? : Value → Option Lexicon
  | .object members => do
    let types ← (valuesOf "type" members).mapM string?
    let vocabularies ← (valuesOf "vocab" members).mapM vocabulary?
    let unknowns ← (valuesOf "unk_token" members).mapM string?
    if types.all fun type => type == "WordLevel" then
      some { vocabulary := ← vocabularies.getLast?, unknown := ← unknowns.getLast? }
    else none
  | _ => none

/-- The added token that a value describes. -/
def addedToken? : Value → Option AddedToken
  | .list _ => none
  | value => do
    match ← fields? ["id", "content", "single_word", "lstrip", "rstrip", "normalized",
      "special"] value with
    | [some id, some content, some aloneOnly, some stripsFront, some stripsBack, some normalized,
        some special] =>
      let _ ← id? id
      some {
        content := ← string? content
        aloneOnly := ← flag? aloneOnly
        stripsFront := ← flag? stripsFront
        stripsBack := ← flag? stripsBack
        normalized := ← flag? normalized
        special := ← flag? special }
    | _ => none

/-- The added tokens that a list describes. -/
def addedTokens? (value : Value) : Option (List AddedToken) := do
  (← elements? value).mapM addedToken?

/-- The name of the type of a part that has no other fields. -/
def typeName? (value : Value) : Option String := do
  match ← fields? ["type"] value with
  | [some type] => name? type
  | _ => none

/-- Whether text is put into small letters. -/
def smallLetters? : Value → Option Bool
  | .null => some false
  | value => do if (← typeName? value) = "Lowercase" then some true else none

/-- How text is split. -/
def split? : Value → Option Cut.Split
  | .null => some .nowhere
  | value => do
    match ← typeName? value with
    | "Whitespace" => some .atSigns
    | "WhitespaceSplit" => some .atBlanks
    | _ => none

/-- What has been read of a file. A part that comes again replaces what it said before. -/
structure Parts where
  /-- The vocabulary. -/
  lexicon : Option Lexicon := none
  /-- The added tokens. -/
  added : List AddedToken := []
  /-- Whether text between added tokens is put into small letters. -/
  smallLetters : Bool := false
  /-- How text between added tokens is split. -/
  split : Cut.Split := .nowhere
  /-- What the result is made of. -/
  template : List TemplatePiece := [.content]
  /-- The id that fills up shorter sequences, if the file names it. -/
  padding : Option TokenId := none

namespace Parts

/-- The tokenizer with some vocabulary that the other parts make up. -/
def toTokenizer (parts : Parts) (lexicon : Lexicon) : WordLevel where
  vocabulary := lexicon.vocabulary
  unknown := lexicon.unknown
  added := (Additions.ofTokens lexicon.vocabulary parts.added).ids
  early := Additions.patterns lexicon.vocabulary parts.added false
  late := (Additions.patterns lexicon.vocabulary parts.added true).map fun pattern =>
    { pattern with chars := normalize parts.smallLetters pattern.chars }
  smallLetters := parts.smallLetters
  split := parts.split
  template := parts.template
  padding := parts.padding

/-- The tokenizer that the parts make up, if they have a vocabulary and all tokens can be cut
out. -/
def toTokenizer? (parts : Parts) : Option WordLevel := do
  let tokenizer := parts.toTokenizer (← parts.lexicon)
  if (tokenizer.early ++ tokenizer.late).all Cut.Pattern.isSupported then some tokenizer else none

/-- Read the value of a part and keep what it says. -/
def readPart (keep : Value → Option Parts) : Reader Parts := fun c =>
  match Value.read 1 c with
  | .error stop => .error stop
  | .ok (value, c) =>
    match keep value with
    | some parts => .ok (parts, c)
    | none => stopAt (.mismatch "unsupported tokenizer") c.place

/-- How the value behind a key is kept, if there is a part with that name that is read as a
value. -/
def keep? (parts : Parts) : String → Option (Value → Option Parts)
  | "version" => some fun value => if string? value = some "1.0" then some parts else none
  | "added_tokens" => some fun value =>
    (addedTokens? value).map fun tokens => { parts with added := tokens }
  | "normalizer" => some fun value =>
    (smallLetters? value).map fun answer => { parts with smallLetters := answer }
  | "pre_tokenizer" => some fun value =>
    (split? value).map fun split => { parts with split := split }
  | "post_processor" => some fun value =>
    (template? value).map fun pieces => { parts with template := pieces }
  | "decoder" => some fun
    | .null => some parts
    | value => if isDecoder Value.deepest value then some parts else none
  | "model" => some fun value =>
    (lexicon? value).map fun lexicon => { parts with lexicon := some lexicon }
  | _ => none

/-- How the value behind a key is read, if there is a part with that name. -/
def reader? (parts : Parts) : String → Option (Reader Parts)
  | "truncation" => some <| mapReader (fun _ => parts) readTruncation
  | "padding" => some <| mapReader (fun id => { parts with padding := id }) readPadding
  | key => (parts.keep? key).map readPart

/-- Read one member behind its key. No value is read for a key that names no part, so that
a colon behind it is refused as what follows a member. -/
def readMember (parts : Parts) (key : String) : Reader Parts := fun c =>
  match parts.reader? key with
  | none => .ok (parts, c)
  | some reader =>
    match readColon c with
    | .error stop => .error stop
    | .ok c => reader c

/-- Read the members of a file up to its closing brace. -/
def readMembers (parts : Parts) (isFirst : Bool) : Nat → Reader Parts
  | 0, c => stopAt .eofInObject c.place
  | fuel + 1, c =>
    match Bracket.object.next isFirst c with
    | .error stop => .error stop
    | .ok (false, c) => .ok (parts, c)
    | .ok (true, c) =>
      match c.rest with
      | 0x22 :: _ =>
        match Quoted.readRest c.eat with
        | .error stop => .error stop
        | .ok (key, c) =>
          match parts.readMember key c with
          | .error stop => .error stop
          | .ok (parts, c) => readMembers parts false fuel c
      | _ => stopAt .keyExpected c.ahead

/-- Read the parts of a file. -/
def read : Reader Parts :=
  readByFirst "a tokenizer" fun b =>
    if b = 0x7B then
      some fun c => Bracket.object.finish (readMembers {} true (c.rest.length + 1) c.eat)
    else none

end Parts

/-- The tokenizer that the bytes of a file describe, or why there is none. -/
def ofBytes (bytes : List UInt8) : Except LoadFault WordLevel :=
  match readDocument Parts.read bytes with
  | .error fault => .error (.unusableTokenizer fault.message)
  | .ok parts =>
    match parts.toTokenizer? with
    | some tokenizer => .ok tokenizer
    | none => .error (.unusableTokenizer "incomplete tokenizer")

end Matryoshka.WordLevel
