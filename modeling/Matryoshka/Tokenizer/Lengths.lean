import Matryoshka.Tokenizer.Fields

/-!
# Lengths in tokenizer files

A file may say how long results are: how they are cut and how they are filled up. Both
must be well-formed, but of all that only the id that fills up shorter sequences is used.
-/

namespace Matryoshka.WordLevel

open Json

/-- Whether a value names the side on which something is done. -/
def isSide (value : Value) : Bool := isAmong ["Left", "Right"] value

/-- Whether a value says to which length sequences are filled up. -/
def isFillLength : Value → Bool
  | .object [("Fixed", length)] => isCount length
  | value => isAmong ["BatchLongest"] value

/-- The padding id in the fields of a padding. -/
def paddingId? : List (Option Value) → Option TokenId
  | [some length, some side, multiple, some id, some type, some token] =>
    if isFillLength length && isSide side && isNothingOr isCount multiple &&
        (id? type).isSome && isString token then
      id? id
    else none
  | _ => none

/-- Whether the fields of a truncation fit; nothing of it is kept. -/
def truncation? : List (Option Value) → Option Unit
  | [side, some length, some order, some stride] =>
    if side.all isSide && isCount length && isCount stride &&
        isAmong ["LongestFirst", "OnlyFirst", "OnlySecond"] order then
      some ()
    else none
  | _ => none

/-- Read `null` or the fields of a record, and keep what they say. -/
def readKept {β : Type} (names : List String) (keep : List (Option Value) → Option β)
    (complaint : String) : Reader (Option β) := fun c =>
  match readOption (readFields 1 names) c with
  | .error stop => .error stop
  | .ok (none, c) => .ok (none, c)
  | .ok (some fields, c) =>
    match keep fields with
    | some value => .ok (some value, c)
    | none => stopAt (.mismatch complaint) c.place

/-- The names of the fields of a padding. -/
def paddingNames : List String :=
  ["strategy", "direction", "pad_to_multiple_of", "pad_id", "pad_type_id", "pad_token"]

/-- The names of the fields of a truncation. -/
def truncationNames : List String := ["direction", "max_length", "strategy", "stride"]

/-- Read a padding: the padding id, unless there is none. -/
def readPadding : Reader (Option TokenId) := readKept paddingNames paddingId? "invalid padding"

/-- Read a truncation. -/
def readTruncation : Reader (Option Unit) :=
  readKept truncationNames truncation? "invalid truncation"

end Matryoshka.WordLevel
