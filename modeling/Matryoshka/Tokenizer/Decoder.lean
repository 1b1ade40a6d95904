import Matryoshka.Tokenizer.Fields

/-!
# Decoders

A decoder turns tokens back into text. That is never asked for, but a file that names a
decoder must describe one that exists. Of a decoder that can be told by its fields alone
the name of its type is not looked at.
-/

namespace Matryoshka.WordLevel

open Json

/-- Whether a field is there and fits. -/
def isThere (fits : Value → Bool) : Option Value → Bool
  | none => false
  | some value => fits value

/-- Whether a field is missing or fits. -/
def isMissingOr (fits : Value → Bool) : Option Value → Bool
  | none => true
  | some value => fits value

/-- Whether a value is a record whose fields fit. -/
def isRecord (fields : List (String × (Option Value → Bool))) (value : Value) : Bool :=
  match fields? (fields.map Prod.fst) value with
  | some found => (fields.zip found).all fun entry => entry.1.2 entry.2
  | none => false

/-- Whether a value is a string of one character. -/
def isCharacter : Value → Bool
  | .string text => text.length == 1
  | _ => false

/-- Whether a value is a text to look for, or a pattern. -/
def isPattern : Value → Bool
  | .object [("String", .string _)] => true
  | .object [("Regex", .string _)] => true
  | _ => false

/-- The field that names the type. -/
def ofType (name : String) : String × (Option Value → Bool) := ("type", isThere (isAmong [name]))

/-- Whether a value describes a decoder that puts a sign in the place of blanks. Without
the sign in front, this must be what its scheme says. -/
def isSignDecoder (value : Value) : Bool :=
  isRecord [ofType "Metaspace", ("replacement", isThere isCharacter),
    ("add_prefix_space", isNothingOr isFlag),
    ("prepend_scheme", isMissingOr (isAmong ["first", "never", "always"])),
    ("split", isNothingOr isFlag), ("str_rep", isNothingOr isString)] value &&
  match fields? ["add_prefix_space", "prepend_scheme"] value with
  | some [some (.bool false), scheme] => isThere (isAmong ["never"]) scheme
  | _ => true

/-- Whether a value describes a decoder that is not made of others. -/
def isSimpleDecoder (value : Value) : Bool :=
  isRecord [("suffix", isThere isString)] value ||
  isRecord [ofType "ByteLevel", ("add_prefix_space", isThere isFlag),
    ("trim_offsets", isThere isFlag), ("use_regex", isMissingOr isFlag)] value ||
  isRecord [("prefix", isThere isString), ("cleanup", isThere isFlag)] value ||
  isSignDecoder value ||
  isRecord [("pad_token", isThere isString), ("word_delimiter_token", isThere isString),
    ("cleanup", isThere isFlag)] value ||
  isRecord [("pattern", isThere isPattern), ("content", isThere isString)] value ||
  isRecord [("content", isThere isCharacter), ("start", isThere isCount),
    ("stop", isThere isCount)] value ||
  isRecord [ofType "Fuse"] value || isRecord [ofType "ByteFallback"] value

/-- Whether a value describes a decoder that is made of others at most `levels` deep. -/
def isDecoder : Nat → Value → Bool
  | 0, value => isSimpleDecoder value
  | levels + 1, value =>
    isSimpleDecoder value ||
    match fields? ["type", "decoders"] value with
    | some [some type, some (.list decoders)] =>
      isAmong ["Sequence"] type && decoders.all (isDecoder levels)
    | _ => false

end Matryoshka.WordLevel
