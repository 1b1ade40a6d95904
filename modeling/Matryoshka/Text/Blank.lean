/-!
# Blank characters

The Unicode property White_Space: the characters that separate words and that
are trimmed from the ends of a name. Splitting at blanks never yields an empty
word, and loses nothing but blanks.
-/

namespace Matryoshka.Text

/-- Whether a character has the property White_Space. -/
def isBlank (c : Char) : Bool :=
  let n := c.toNat
  (0x09 ≤ n && n ≤ 0x0D) || n == 0x20 || n == 0x85 || n == 0xA0 || n == 0x1680 ||
    (0x2000 ≤ n && n ≤ 0x200A) || n == 0x2028 || n == 0x2029 || n == 0x202F || n == 0x205F ||
    n == 0x3000

/-- Add a character in front of the first word. -/
def consFirst (c : Char) : List (List Char) → List (List Char)
  | [] => [[c]]
  | word :: words => (c :: word) :: words

/-- The pieces between blanks, empty ones included. -/
def pieces : List Char → List (List Char)
  | [] => [[]]
  | c :: rest => if isBlank c then [] :: pieces rest else consFirst c (pieces rest)

/-- The words of a text: the non-empty pieces between blanks, in order. -/
def words (text : List Char) : List (List Char) :=
  (pieces text).filter fun piece => !piece.isEmpty

/-- A text without the blanks at its two ends. -/
def trim (text : List Char) : List Char :=
  ((text.dropWhile isBlank).reverse.dropWhile isBlank).reverse

/-- No word is empty. -/
theorem ne_nil_of_mem_words {text word : List Char} (member : word ∈ words text) : word ≠ [] := by
  rintro rfl
  simp [words] at member

/-- The pieces of a text hold all its characters but the blanks, in order. -/
theorem flatten_pieces (text : List Char) :
    (pieces text).flatten = text.filter fun c => !isBlank c := by
  induction text with
  | nil => rfl
  | cons c rest ih =>
    unfold pieces
    by_cases blank : isBlank c
    · simp [blank, ih]
    · simp only [blank, Bool.false_eq_true, if_false, Bool.not_false, List.filter_cons_of_pos, ← ih]
      cases pieces rest with
      | nil => rfl
      | cons word words => rfl

end Matryoshka.Text
