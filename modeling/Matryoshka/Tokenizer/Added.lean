import Std.Data.HashMap
import Matryoshka.Tokenizer.Cut

/-!
# Added tokens

A file describes tokens that are added to its vocabulary. A token that is not in the
vocabulary gets the next free id, whatever the file says. A text may be described more
than once: it keeps its id, and the last description that bears the id says how the
token stands among other characters. Tokens are looked for in the text as it is or in
the text that has been normalised; special ones come before the others.
-/

namespace Matryoshka

/-- What a file says about an added token. -/
structure AddedToken where
  /-- Its text. -/
  content : String
  /-- Whether it must not have characters of words at its sides. -/
  aloneOnly : Bool
  /-- Whether it takes the blanks in front of it with it. -/
  stripsFront : Bool
  /-- Whether it takes the blanks behind it with it. -/
  stripsBack : Bool
  /-- Whether it is looked for in text that has been normalised. -/
  normalized : Bool
  /-- Whether it is special. -/
  special : Bool
  deriving Repr, DecidableEq

/-- The tokens that have been added to a vocabulary. -/
structure Additions where
  /-- The id of every text. -/
  ids : List (String × TokenId) := []
  /-- For every id the description that bears it. -/
  bearers : List (TokenId × AddedToken) := []
  /-- The descriptions that were not of an empty text or a repetition. -/
  described : List AddedToken := []
  deriving Repr, DecidableEq

namespace Additions

/-- The id of a token that is added to a vocabulary after others. -/
def nextId (vocabulary : Std.HashMap String TokenId) (ids : List (String × TokenId)) : TokenId :=
  let size := vocabulary.size.toUInt32
  match (ids.map Prod.snd).max? with
  | none => size
  | some largest => if largest ≥ size || size == 0 then largest + 1 else size

/-- Add a token. One with an empty text, and one whose description bears an id already, are
passed over. -/
def add (vocabulary : Std.HashMap String TokenId) (additions : Additions) (token : AddedToken) :
    Additions :=
  if token.content = "" || additions.bearers.any fun bearer => bearer.2 = token then additions
  else
    let known := additions.ids.lookup token.content
    let id := (known.or vocabulary[token.content]?).getD (nextId vocabulary additions.ids)
    { ids := if known.isSome then additions.ids else additions.ids ++ [(token.content, id)]
      bearers := (id, token) :: additions.bearers.filter fun bearer => bearer.1 ≠ id
      described := additions.described ++ [token] }

/-- Add some tokens to a vocabulary. -/
def ofTokens (vocabulary : Std.HashMap String TokenId) (tokens : List AddedToken) : Additions :=
  tokens.foldl (add vocabulary) {}

/-- Whether one of some tokens has a text. -/
def isAmong (tokens : List AddedToken) (content : String) : Bool :=
  tokens.any fun token => token.content = content

/-- The first description of every special text. -/
def specials (tokens : List AddedToken) : List AddedToken :=
  tokens.foldl
    (fun found token =>
      if token.special && token.content ≠ "" && !isAmong found token.content then
        found ++ [token]
      else found) []

/-- The descriptions by which tokens are looked for, special ones first. -/
def sought (vocabulary : Std.HashMap String TokenId) (tokens : List AddedToken) :
    List AddedToken :=
  let specials := specials tokens
  specials ++ (ofTokens vocabulary tokens).described.filter fun token =>
    !isAmong specials token.content

/-- The pattern of a token. It stands among other characters as the description says that
bears its id. -/
def pattern? (additions : Additions) (token : AddedToken) : Option Cut.Pattern := do
  let id ← additions.ids.lookup token.content
  let bearer ← additions.bearers.lookup id
  some {
    chars := token.content.toList
    id := id
    aloneOnly := bearer.aloneOnly
    stripsFront := bearer.stripsFront
    stripsBack := bearer.stripsBack }

/-- The patterns of the tokens that are looked for in text that has been normalised, or of
those that are looked for before. -/
def patterns (vocabulary : Std.HashMap String TokenId) (tokens : List AddedToken)
    (normalized : Bool) : List Cut.Pattern :=
  ((sought vocabulary tokens).filter (·.normalized = normalized)).filterMap
    (ofTokens vocabulary tokens).pattern?

end Additions

end Matryoshka
