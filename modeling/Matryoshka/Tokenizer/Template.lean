import Matryoshka.Tokenizer.Fields
import Matryoshka.Tokenizer.WordLevel

/-!
# Templates in tokenizer files

A file describes a template for one text and one for a pair of texts, and the special
tokens that they name. Both templates must be well-formed, though only the first is
used. Naming a special token that the file does not describe, or the second text in the
first template, is no fault before the template is used.
-/

namespace Matryoshka.WordLevel

open Json

/-- The name and the ids of a special token that a member describes. -/
def specialToken? (entry : String × Value) : Option (String × List TokenId) := do
  match ← fields? ["id", "ids", "tokens"] entry.2 with
  | [some id, some ids, some tokens] =>
    let _ ← string? id
    let _ ← (← elements? tokens).mapM string?
    some (entry.1, ← (← elements? ids).mapM id?)
  | _ => none

/-- The special tokens that a value describes; of two with one name the last counts and
comes first. -/
def specialTokens? : Value → Option (List (String × List TokenId))
  | .object members => do some (← members.mapM specialToken?).reverse
  | _ => none

/-- The name in a piece of a template. -/
def pieceName? (nameOf? : Value → Option String) (value : Value) : Option String := do
  match ← fields? ["id", "type_id"] value with
  | [some name, some type] =>
    let _ ← id? type
    nameOf? name
  | _ => none

/-- The piece of a template that a value stands for. -/
def piece? (tokens : List (String × List TokenId)) : Value → Option TemplatePiece
  | .object [("Sequence", value)] => do
    match ← pieceName? name? value with
    | "A" => some .content
    | "B" => some .unknown
    | _ => none
  | .object [("SpecialToken", value)] => do
    match tokens.lookup (← pieceName? string? value) with
    | some ids => some (.fixed ids)
    | none => some .unknown
  | _ => none

/-- The template that a value stands for; without one the result is the ids of the text. -/
def template? : Value → Option (List TemplatePiece)
  | .null => some [.content]
  | value => do
    match ← fields? ["single", "pair", "special_tokens"] value with
    | [some single, some pair, some tokens] =>
      let tokens ← specialTokens? tokens
      let _ ← (← elements? pair).mapM (piece? tokens)
      (← elements? single).mapM (piece? tokens)
    | _ => none

end Matryoshka.WordLevel
