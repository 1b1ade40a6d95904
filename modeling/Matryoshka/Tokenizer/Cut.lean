import Matryoshka.Text.Blank
import Matryoshka.Text.WordChar
import Matryoshka.TokenBatch

/-!
# Cutting text into words

A text is first cut at the tokens that were added to a vocabulary: at each place the
longest of them wins, and what has been cut out is not looked at again. A token may ask
to be left alone inside a word, and may take the blanks at its sides with it. What is
left is split into words, in one of three ways.
-/

namespace Matryoshka.Cut

/-- An added token, as it is looked for in a text. -/
structure Pattern where
  /-- Its characters. -/
  chars : List Char
  /-- Its id. -/
  id : TokenId
  /-- Whether it must not have characters of words at its sides. -/
  aloneOnly : Bool := false
  /-- Whether it takes the blanks in front of it with it. -/
  stripsFront : Bool := false
  /-- Whether it takes the blanks behind it with it. -/
  stripsBack : Bool := false
  deriving Repr, DecidableEq

/-- A part of a text. -/
inductive Part where
  /-- Characters between added tokens. -/
  | text (chars : List Char)
  /-- An added token. -/
  | added (pattern : Pattern)
  deriving Repr, DecidableEq

/-- Whether a text starts with a pattern that is longer than the best one so far. -/
def Pattern.beats (pattern : Pattern) (best : Option Pattern) (text : List Char) : Bool :=
  pattern.chars ≠ [] && pattern.chars.isPrefixOf text &&
    (best.map (·.chars.length)).getD 0 < pattern.chars.length

/-- The longest of some patterns that a text starts with, and of several with the same
characters the first. -/
def longest? (patterns : List Pattern) (text : List Char) : Option Pattern :=
  patterns.foldl
    (fun best pattern => if pattern.beats best text then some pattern else best) none

/-- Whether a pattern can be cut out anywhere. One of blanks only that takes the blanks in front
of it with it could begin where a token before it ends, behind its own end. -/
def Pattern.isSupported (pattern : Pattern) : Bool :=
  !(pattern.stripsFront && pattern.chars.all Text.isBlank)

/-- Whether a pattern may be cut out between the character before it and the text behind. -/
def Pattern.fits (pattern : Pattern) (before : Option Char) (behind : List Char) : Bool :=
  !pattern.aloneOnly || !(before.any Text.isWordChar || behind.head?.any Text.isWordChar)

/-- What is left of the characters in front of a pattern, in reverse. -/
def Pattern.front (pattern : Pattern) (gathered : List Char) : List Char :=
  if pattern.stripsFront then gathered.dropWhile Text.isBlank else gathered

/-- The number of characters that a pattern takes from a text that starts with it. -/
def Pattern.extent (pattern : Pattern) (text : List Char) : Nat :=
  let behind := text.drop pattern.chars.length
  pattern.chars.length +
    if pattern.stripsBack then (behind.takeWhile Text.isBlank).length else 0

/-- The characters gathered so far as a part, unless there are none. -/
def flush (gathered : List Char) : List Part :=
  if gathered = [] then [] else [.text gathered.reverse]

/-- Where the cutting of a text has got to. -/
structure Place where
  /-- The character before. -/
  before : Option Char := none
  /-- The characters since the last token that was cut out, in reverse. -/
  gathered : List Char := []
  /-- The number of characters ahead that the last token has taken. -/
  taken : Nat := 0
  /-- The number of characters ahead that belong to a token that was found, and in which
  none is looked for. -/
  found : Nat := 0
  deriving Repr, DecidableEq

/-- The place behind one more character, which is text unless a token has taken it. -/
def Place.pass (place : Place) (c : Char) : Place where
  before := some c
  gathered := if place.taken = 0 then c :: place.gathered else place.gathered
  taken := place.taken - 1
  found := place.found - 1

/-- Cut a text at patterns, from a place on. A pattern that does not fit stays text, but no
other is looked for inside it. -/
def cutFrom (patterns : List Pattern) (place : Place) : List Char → List Part
  | [] => flush place.gathered
  | c :: rest =>
    if 0 < place.found then cutFrom patterns (place.pass c) rest
    else
      match longest? patterns (c :: rest) with
      | none => cutFrom patterns (place.pass c) rest
      | some pattern =>
        let length := pattern.chars.length
        if pattern.fits place.before ((c :: rest).drop length) then
          let next : Place :=
            { gathered := [], taken := pattern.extent (c :: rest), found := length }
          flush (pattern.front place.gathered) ++
            .added pattern :: cutFrom patterns (next.pass c) rest
        else cutFrom patterns ({ place with found := length }.pass c) rest

/-- Cut a text at patterns. -/
def atPatterns (patterns : List Pattern) (text : List Char) : List Part :=
  cutFrom patterns {} text

/-- What a character is to the boundaries of words. -/
inductive Kind where
  /-- A blank. -/
  | blank
  /-- A character of words. -/
  | word
  /-- Any other character. -/
  | sign
  deriving Repr, DecidableEq

/-- The kind of a character. -/
def Kind.of (c : Char) : Kind :=
  if Text.isBlank c then blank else if Text.isWordChar c then word else sign

/-- Runs of characters of one kind, as long as possible. -/
def runs : List Char → List (Kind × List Char)
  | [] => []
  | c :: rest =>
    match runs rest with
    | (kind, run) :: later =>
      if Kind.of c = kind then (kind, c :: run) :: later
      else (Kind.of c, [c]) :: (kind, run) :: later
    | [] => [(Kind.of c, [c])]

/-- How text is split into words. -/
inductive Split where
  /-- At blanks. -/
  | atBlanks
  /-- At blanks, and between characters of words and other signs. -/
  | atSigns
  /-- Not at all. -/
  | nowhere
  deriving Repr, DecidableEq

/-- The words of a text. -/
def Split.words : Split → List Char → List (List Char)
  | atBlanks, text => Text.words text
  | atSigns, text => ((runs text).filter fun run => run.1 ≠ .blank).map Prod.snd
  | nowhere, text => if text = [] then [] else [text]

end Matryoshka.Cut
