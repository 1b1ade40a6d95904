import Std.Data.HashMap
import Matryoshka.Engine
import Matryoshka.Tokenizer.Cut

/-!
# Tokenizers with one token for each word

A text is cut into words and every word looked up in a vocabulary; a word that is
not there stands for the unknown token. Then the ids are cut so that the result,
with what a template adds in front and behind, is not longer than allowed: what the
template adds is never lost. The encoding says of every id whether the template has
added it. A text of which it holds no id is empty.
-/

namespace Matryoshka

/-- A piece of a template. -/
inductive TemplatePiece where
  /-- The ids of the text. -/
  | content
  /-- Ids that do not depend on the text. -/
  | fixed (ids : List TokenId)
  /-- Something that is not known: a template with such a piece cannot be used. -/
  | unknown
  deriving Repr, DecidableEq

namespace TemplatePiece

/-- The number of ids that a piece adds to those of the text. -/
def added : TemplatePiece → Nat
  | content => 0
  | fixed ids => ids.length
  | unknown => 0

/-- The ids of a piece, for a text with ids `text`. -/
def fill (text : List TokenId) : TemplatePiece → List TokenId
  | content => text
  | fixed ids => ids
  | unknown => []

/-- For every id of a piece whether the template adds it. -/
def mask (text : List TokenId) : TemplatePiece → List Bool
  | content => text.map fun _ => false
  | fixed ids => ids.map fun _ => true
  | unknown => []

end TemplatePiece

/-- A tokenizer with one token for each word. -/
structure WordLevel where
  /-- The ids of words. -/
  vocabulary : Std.HashMap String TokenId
  /-- The token of words that are not in the vocabulary. -/
  unknown : String
  /-- The ids of added tokens. -/
  added : List (String × TokenId)
  /-- The added tokens that are cut out of the text as it is. -/
  early : List Cut.Pattern
  /-- The added tokens that are cut out of the text between those. -/
  late : List Cut.Pattern
  /-- Whether text is put into small letters before the later tokens are cut out. -/
  smallLetters : Bool
  /-- How text between added tokens is split. -/
  split : Cut.Split
  /-- What the result is made of. -/
  template : List TemplatePiece
  /-- The id that fills up shorter sequences, if the file names it. -/
  padding : Option TokenId

namespace WordLevel

/-- The failure of a word that has no id. -/
def unknownMissing : Failure :=
  .compute "tokenizer" (.reported
    "Tokenization failed: WordLevel error: Missing [UNK] token from the vocabulary")

/-- The id of a word, or that of the unknown token. -/
def wordId? (t : WordLevel) (word : String) : Option TokenId :=
  (t.vocabulary[word]?).or t.vocabulary[t.unknown]?

/-- Text as the later tokens and the words are looked for in it. -/
def normalize (smallLetters : Bool) (chars : List Char) : List Char :=
  if smallLetters then Text.toSmall chars else chars

/-- The words of a part in which no more tokens are looked for, or the id of an added token. -/
def partTokens (t : WordLevel) : Cut.Part → List (String ⊕ TokenId)
  | .added pattern => [.inr pattern.id]
  | .text chars => (t.split.words chars).map fun word => .inl (String.ofList word)

/-- The words and added tokens of a part in which the later tokens are still to be looked for. -/
def lateTokens (t : WordLevel) : Cut.Part → List (String ⊕ TokenId)
  | .added pattern => [.inr pattern.id]
  | .text chars => (Cut.atPatterns t.late (normalize t.smallLetters chars)).flatMap t.partTokens

/-- The words and added tokens of a text, in order. -/
def tokens (t : WordLevel) (text : String) : List (String ⊕ TokenId) :=
  (Cut.atPatterns t.early text.toList).flatMap t.lateTokens

/-- The id of a word or added token. -/
def tokenId? (t : WordLevel) : String ⊕ TokenId → Option TokenId
  | .inl word => t.wordId? word
  | .inr id => some id

/-- The ids of a text alone, unless one of its words has none. -/
def contentIds? (t : WordLevel) (text : String) : Option (List TokenId) :=
  (t.tokens text).mapM t.tokenId?

/-- The number of ids that the template adds. -/
def templateLength (t : WordLevel) : Nat :=
  t.template.foldr (fun piece length => piece.added + length) 0

/-- The number of ids of a text that fit into `maxLength` with what the template adds;
the number is a word of 64 bits. -/
def room (t : WordLevel) (maxLength : Nat) : Nat :=
  (maxLength.toUInt64 - t.templateLength.toUInt64).toNat

/-- An encoding of a text. -/
structure Encoding where
  /-- Its ids. -/
  ids : List TokenId
  /-- For every id whether the template has added it. -/
  special : List Bool
  deriving Repr, DecidableEq

/-- The ids of a text that are kept, in the template. -/
def frame (t : WordLevel) (kept : List TokenId) : Encoding where
  ids := t.template.flatMap (TemplatePiece.fill kept)
  special := t.template.flatMap (TemplatePiece.mask kept)

/-- The encoding of a text, of at most `maxLength` ids, unless one of its words has none. -/
def encoding? (t : WordLevel) (maxLength : Nat) (text : String) : Option Encoding :=
  (t.contentIds? text).map fun ids => t.frame (ids.take (t.room maxLength))

/-- The ids of a text, at most `maxLength` of them. A template alone is no content. -/
def encode (t : WordLevel) (maxLength : Nat) (text : String) : Except Failure (List TokenId) :=
  match t.encoding? maxLength text with
  | none => .error unknownMissing
  | some encoding =>
    if encoding.special.count false = 0 then .error .emptyInput else .ok encoding.ids

/-- Encode a text with a template that may have pieces that are not known: once the text has
ids, the attempt breaks off at such a piece. -/
def attempt (t : WordLevel) (maxLength : Nat) (text : String) : Attempt (List TokenId) :=
  if (t.contentIds? text).isSome && t.template.contains .unknown then .aborted
  else .ofExcept (t.encode maxLength text)

/-- The id of a token, added or not. -/
def idOf? (t : WordLevel) (token : String) : Option TokenId :=
  (t.added.lookup token).or t.vocabulary[token]?

/-- The id that fills up shorter sequences: the one named, or that of the first padding
token that exists, or zero. -/
def padId (t : WordLevel) : TokenId :=
  ((((t.padding).or (t.idOf? "<pad>")).or (t.idOf? "[PAD]")).or
    (t.idOf? "<|endoftext|>")).getD 0

/-- The tokenizer for texts of at most `maxLength` ids. -/
def tokenizer (t : WordLevel) (maxLength : Nat) : Tokenizer where
  encode := t.encode maxLength
  padId := t.padId

end WordLevel

end Matryoshka
