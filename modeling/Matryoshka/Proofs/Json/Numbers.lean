import Matryoshka.Json.Read
import Matryoshka.Proofs.Json.Reading

/-!
# Numbers are read as they are spelled

What a number is read as depends on its digits, its point and its exponent, and not on where it
stands or what follows it (`Standalone`). So the number that a literal stands for is the one read
off the literal alone (`decodeNumber`), and readers of numbers understand documents
(`understands_readNumberAs`).
-/

namespace Matryoshka.Json

variable {α : Type} {p : Place} {bytes rest : List UInt8}

/-- Wherever some bytes stand and whatever follows them, a reader makes the same of them. -/
def Standalone (reader : Reader α) (bytes : List UInt8) : Prop :=
  ∃ decoded, ∀ (p : Place) {rest : List UInt8}, Follows rest →
    Yields decoded ⟨p.past bytes, rest⟩ (reader ⟨p, bytes ++ rest⟩)

/-- A reader that passes over some bytes and then reads like another one. -/
theorem Standalone.behind {reader other : Reader α} (standalone : Standalone other bytes)
    (before : List UInt8)
    (same : ∀ (p : Place) {rest : List UInt8}, Follows rest →
      reader ⟨p, before ++ (bytes ++ rest)⟩ = other ⟨p.past before, bytes ++ rest⟩) :
    Standalone reader (before ++ bytes) := by
  obtain ⟨decoded, reads⟩ := standalone
  refine ⟨decoded, fun p rest follows => ?_⟩
  rw [List.append_assoc, same p follows, Place.past_append]
  exact reads (p.past before) follows

/-- A reader that reads like another one. -/
theorem Standalone.like {reader other : Reader α} (standalone : Standalone other bytes)
    (same : ∀ (p : Place) {rest : List UInt8}, Follows rest →
      reader ⟨p, bytes ++ rest⟩ = other ⟨p, bytes ++ rest⟩) : Standalone reader bytes :=
  standalone.behind [] same

namespace Number

variable (isNegative : Bool) (significand dropped : Nat) (exponent : Int)
  {sign digits fraction scale others : List UInt8} {first : UInt8}

/-! ## Exponents -/

/-- Nothing is read to finish a number. -/
theorem standalone_finishFloat :
    Standalone (finishFloat isNegative significand exponent) [] := by
  refine ⟨(ofParts? significand exponent).map (signedFloat isNegative), fun p rest follows => ?_⟩
  rw [finishFloat]
  cases ofParts? significand exponent with
  | none => exact ⟨_, rfl⟩
  | some x => rfl

/-- The digits of an exponent are read to their end, unless they become too large on the way. -/
theorem readExponentDigits_eq (all : Digits digits) (value : Nat) :
    (∃ result, ∀ (p : Place) {rest : List UInt8}, (∀ b ∈ rest.head?, isDigit b = false) →
      readExponentDigits value p (digits ++ rest) = (some result, ⟨p.past digits, rest⟩)) ∨
    ∃ taken left, taken ++ left = digits ∧ ∀ (p : Place) (rest : List UInt8),
      readExponentDigits value p (digits ++ rest) = (none, ⟨p.past taken, left ++ rest⟩) := by
  induction digits generalizing value with
  | nil =>
    refine .inl ⟨value, fun p rest last => ?_⟩
    cases rest with
    | nil => rfl
    | cons b rest => simp [readExponentDigits, last b rfl]
  | cons b digits ih =>
    have digit := isDigit_of_digits all b List.mem_cons_self
    by_cases small : value * 10 + digitValue b ≤ largestExponent
    · have step (p : Place) (rest : List UInt8) :
          readExponentDigits value p (b :: (digits ++ rest)) =
            readExponentDigits (value * 10 + digitValue b) (p.after b) (digits ++ rest) := by
        simp [readExponentDigits, digit, small]
      obtain ⟨result, read⟩ | ⟨taken, left, rfl, read⟩ :=
        ih (fun b member => all b (List.mem_cons_of_mem _ member)) (value * 10 + digitValue b)
      · exact .inl ⟨result, fun p rest last => (step p rest).trans (read (p.after b) last)⟩
      · exact .inr ⟨b :: taken, left, rfl, fun p rest =>
          (step p rest).trans (read (p.after b) rest)⟩
    · exact .inr ⟨[b], digits, rfl, fun p rest => by
        simp [readExponentDigits, digit, small]⟩

/-- An exponent is read behind its sign. -/
theorem readExponent_eq (signs : sign = [] ∨ sign = [0x2B] ∨ sign = [0x2D])
    (noSign : ∀ b ∈ rest.head?, b ≠ 0x2B ∧ b ≠ 0x2D) :
    readExponent isNegative significand exponent ⟨p, sign ++ rest⟩ =
      readScale isNegative significand exponent (sign == [0x2D]) ⟨p.past sign, rest⟩ := by
  rcases signs with rfl | rfl | rfl
  · cases rest with
    | nil => rfl
    | cons b rest =>
      obtain ⟨noPlus, noMinus⟩ := noSign b rfl
      simp [readExponent, readScale, noPlus, noMinus]
  · rfl
  · rfl

/-- The digits of an exponent stand for themselves. -/
theorem standalone_readScale (down : Bool) (filled : digits ≠ []) (all : Digits digits) :
    Standalone (readScale isNegative significand exponent down) digits := by
  obtain ⟨first, others, rfl⟩ := List.exists_cons_of_ne_nil filled
  have digit := isDigit_of_digits all first List.mem_cons_self
  have allOthers : Digits others := fun b member => all b (List.mem_cons_of_mem _ member)
  have last {rest : List UInt8} (follows : Follows rest) : ∀ b ∈ rest.head?, isDigit b = false :=
    fun b head => (ends_of_follows follows b head).1
  obtain ⟨value, read⟩ | ⟨taken, left, same, read⟩ :=
    readExponentDigits_eq allOthers (digitValue first)
  · obtain ⟨decoded, finishes⟩ := standalone_finishFloat isNegative significand
      (if down then exponent - value else exponent + value)
    refine ⟨decoded, fun p rest follows => ?_⟩
    simpa [readScale, digit, read (p.after first) (last follows)] using
      finishes (p.past (first :: others)) follows
  · have allLeft : Digits left := fun b member => allOthers b (by simp [← same, member])
    have past (p : Place) : p.past others = (p.past taken).past left := by
      rw [← same, Place.past_append]
    by_cases large : ¬significand = 0 ∧ down = false
    · refine ⟨none, fun p rest follows => ?_⟩
      simp [readScale, digit, read (p.after first), large, stopAt]
    · refine ⟨some (signedFloat isNegative 0), fun p rest follows => ?_⟩
      simp [readScale, digit, read (p.after first), large, past,
        takeDigits_eq allLeft (last follows)]

/-! ## The parts of a number -/

/-- An exponent stands for itself, behind its mark. -/
theorem standalone_readExponent (signs : sign = [] ∨ sign = [0x2B] ∨ sign = [0x2D])
    (filled : digits ≠ []) (all : Digits digits) :
    Standalone (readExponent isNegative significand exponent) (sign ++ digits) := by
  refine (standalone_readScale isNegative significand exponent (sign == [0x2D]) filled all).behind
    sign fun p rest _ => readExponent_eq isNegative significand exponent signs ?_
  obtain ⟨first, others, rfl⟩ := List.exists_cons_of_ne_nil filled
  have digit := isDigit_of_digits all first List.mem_cons_self
  refine forall_head? ⟨?_, ?_⟩ <;> rintro rfl <;> cases digit

/-- What stands behind the digits before or after the point stands for itself. -/
theorem standalone_readTail (spells : SpellsExponent scale) :
    Standalone (readTail isNegative significand exponent) scale := by
  cases spells with
  | none =>
    refine (standalone_finishFloat isNegative significand exponent).like fun p rest follows => ?_
    cases rest with
    | nil => rfl
    | cons b rest =>
      obtain ⟨-, -, noMark, noCapital⟩ := ends_of_follows follows b rfl
      simp [readTail, noMark, noCapital]
  | @digits mark sign digits marks signs filled all =>
    refine (standalone_readExponent isNegative significand exponent signs filled all).behind
      [mark] fun p rest _ => ?_
    rcases marks with rfl | rfl <;> rfl

/-- The digits behind the point stand for themselves, with the exponent behind them. -/
theorem standalone_readFraction (filled : digits ≠ []) (all : Digits digits)
    (spells : SpellsExponent scale) :
    Standalone (readFraction isNegative significand exponent) (digits ++ scale) := by
  obtain ⟨first, others, rfl⟩ := List.exists_cons_of_ne_nil filled
  refine (standalone_readTail isNegative (append significand ((first :: others).map digitValue)).1
    (exponent - (append significand ((first :: others).map digitValue)).2) spells).behind
    (first :: others) fun p rest follows => ?_
  have last : ∀ b ∈ (scale ++ rest).head?, isDigit b = false := head_of_parts .none spells follows
  rw [readFraction, takeDigits_eq all last]
  rfl

/-- What stands behind the digits of an integer stands for itself. -/
theorem standalone_readAfterInteger (point : SpellsFraction fraction)
    (spells : SpellsExponent scale) :
    Standalone (readAfterInteger isNegative significand dropped) (fraction ++ scale) := by
  cases point with
  | @digits digits filled all =>
    exact (standalone_readFraction isNegative significand dropped filled all spells).behind
      [0x2E] fun p rest _ => rfl
  | none =>
    cases spells with
    | @digits mark sign digits marks signs filled all =>
      refine (standalone_readExponent isNegative significand dropped signs filled all).behind
        [mark] fun p rest _ => ?_
      rcases marks with rfl | rfl <;> rfl
    | none =>
      have ended (p : Place) {rest : List UInt8} (follows : Follows rest) :
          readAfterInteger isNegative significand dropped ⟨p, rest⟩ =
            if dropped = 0 then .ok (ofInteger isNegative significand, ⟨p, rest⟩)
            else finishFloat isNegative significand dropped ⟨p, rest⟩ := by
        cases rest with
        | nil => rfl
        | cons b rest =>
          obtain ⟨-, noPoint, noMark, noCapital⟩ := ends_of_follows follows b rfl
          simp [readAfterInteger, noPoint, noMark, noCapital]
      by_cases all : dropped = 0
      · refine ⟨some (ofInteger isNegative significand), fun p rest follows => ?_⟩
        simpa [all] using ended p follows
      · refine (standalone_finishFloat isNegative significand dropped).like fun p rest follows => ?_
        simpa [all] using ended p follows

/-- The digits of any integer but zero are appended to each other, as long as they fit. -/
theorem readUnsigned_positive (leads : 0x31 ≤ first ∧ first ≤ 0x39) (all : Digits others)
    (last : ∀ b ∈ rest.head?, isDigit b = false) :
    readUnsigned isNegative ⟨p, first :: (others ++ rest)⟩ =
      readAfterInteger isNegative (append 0 ((first :: others).map digitValue)).1
        (others.length + 1 - (append 0 ((first :: others).map digitValue)).2)
        ⟨p.past (first :: others), rest⟩ := by
  have taken := takeDigits_eq (p := p) (digits_of_leads leads all) last
  rw [List.cons_append] at taken
  simp [readUnsigned, ne_zero_of_leads leads, isDigit_of_leads leads, taken]

/-- A number that starts with a digit has no sign. -/
theorem read_of_digit (digit : isDigit first = true) :
    read ⟨p, first :: rest⟩ = readUnsigned false ⟨p, first :: rest⟩ := by
  have noSign : first ≠ 0x2D := by
    rintro rfl
    cases digit
  simp [read, noSign]

/-- A number without a sign stands for itself. -/
theorem standalone_readUnsigned (spells : SpellsUnsigned bytes) :
    Standalone (readUnsigned isNegative) bytes := by
  cases spells with
  | @parts integer fraction scale leads point scales =>
    have last {rest : List UInt8} (follows : Follows rest) :=
      head_of_parts point scales follows
    rw [List.append_assoc]
    cases leads with
    | zero =>
      refine (standalone_readAfterInteger isNegative 0 0 point scales).behind [0x30]
        fun p rest follows => ?_
      have noDigit := last follows
      rw [← List.append_assoc] at noDigit
      generalize fraction ++ scale ++ rest = more at noDigit ⊢
      cases more with
      | nil => rfl
      | cons b more => simp [readUnsigned, Cursor.eat, noDigit b rfl]
    | @positive first others leads all =>
      refine (standalone_readAfterInteger isNegative
        (append 0 ((first :: others).map digitValue)).1
        (others.length + 1 - (append 0 ((first :: others).map digitValue)).2) point scales).behind
        (first :: others) fun p rest follows => ?_
      rw [List.append_assoc]
      exact readUnsigned_positive isNegative leads all (last follows)

/-- A number stands for itself. -/
theorem standalone_read (number : SpellsNumber bytes) : Standalone read bytes := by
  cases number with
  | negative digits =>
    exact (standalone_readUnsigned true digits).behind [0x2D] fun p rest _ => rfl
  | unsigned digits =>
    refine (standalone_readUnsigned false digits).like fun p rest _ => ?_
    obtain ⟨first, others, rfl, digit⟩ := head_of_unsigned digits
    exact read_of_digit digit

end Number

/-! ## Readers of numbers -/

/-- The number that a literal stands for, unless it is too large. -/
def decodeNumber (literal : List UInt8) : Option Number :=
  (Number.read (.ofBytes literal)).toOption.map Prod.fst

/-- An integer with the digits of a number of 64 bits stands for this number. -/
theorem decodeNumber_integer {first : UInt8} {others : List UInt8} {n : Nat}
    (leads : 0x31 ≤ first ∧ first ≤ 0x39) (all : Digits others)
    (fits : Number.append 0 ((first :: others).map Number.digitValue) = (n, others.length + 1)) :
    decodeNumber (first :: others) = some (.natural n) := by
  have last : ∀ b ∈ ([] : List UInt8).head?, Number.isDigit b = false := by simp
  have read := Number.readUnsigned_positive (p := ⟨1, 0⟩) false leads all last
  rw [List.append_nil, fits] at read
  rw [decodeNumber, Cursor.ofBytes, Number.read_of_digit (Number.isDigit_of_leads leads), read]
  simp [Number.readAfterInteger, Number.ofInteger, Except.toOption]

/-- A number is read as what its literal stands for. -/
theorem read_number (number : SpellsNumber bytes) (follows : Follows rest) (p : Place) :
    Yields (decodeNumber bytes) ⟨p.past bytes, rest⟩ (Number.read ⟨p, bytes ++ rest⟩) := by
  obtain ⟨decoded, reads⟩ := Number.standalone_read number
  have ends : Follows [] := by simp [Follows]
  have alone := reads ⟨1, 0⟩ ends
  rw [List.append_nil] at alone
  have same : decodeNumber bytes = decoded := by
    rw [decodeNumber, Cursor.ofBytes]
    obtain ⟨value, rfl, read⟩ | ⟨rfl, stop, refused⟩ := alone.read_or_refused
    · rw [read]
      rfl
    · rw [refused]
      rfl
  rw [same]
  exact reads p follows

namespace Tree

/-- The number of a literal. -/
def number? : Tree → Option Number
  | number literal => decodeNumber literal
  | _ => none

/-- The number of a literal, converted. -/
def numberAs? (convert : Number → Except Problem α) (tree : Tree) : Option α :=
  tree.number?.bind fun number => (convert number).toOption

/-- The count of a literal: it is an integer and not negative. -/
def count? (tree : Tree) : Option Nat :=
  match tree.number? with
  | some (.natural n) => some n
  | _ => none

end Tree

/-- Only a number starts with the first byte of a number. -/
theorem Spells.number_of_starts {tree : Tree} {first : UInt8} {others : List UInt8}
    (spells : Spells tree (first :: others))
    (starts : (first = 0x2D || Number.isDigit first) = true) :
    tree = .number (first :: others) ∧ SpellsNumber (first :: others) := by
  cases spells with
  | number number => exact ⟨rfl, number⟩
  | string string =>
    cases string
    cases starts
  | _ => cases starts

/-- Numbers are read and converted. -/
theorem understands_readNumberAs (expected : String) (convert : Number → Except Problem α) :
    Understands (readNumberAs expected convert) (Tree.numberAs? convert) := by
  refine understands_readByFirst fun {tree first others} spells {p rest} follows => ?_
  by_cases starts : (first = 0x2D || Number.isDigit first) = true
  · obtain ⟨rfl, number⟩ := spells.number_of_starts starts
    rw [if_pos starts, Tree.numberAs?, Tree.number?, ← List.cons_append]
    obtain ⟨value, decoded, read⟩ | ⟨decoded, stop, refused⟩ :=
      (read_number number follows p).read_or_refused
    · rw [decoded, Option.bind_some]
      simp only [read]
      cases convert value with
      | ok value => rfl
      | error problem => exact ⟨_, rfl⟩
    · rw [decoded, Option.bind_none]
      simp only [refused]
      exact ⟨_, rfl⟩
  · rw [if_neg starts]
    cases spells with
    | number number => exact absurd (by simpa using first_of_number number) starts
    | _ => rfl

/-- A reader understands with every decoder that decodes alike. -/
theorem Understands.congr {reader : Reader α} {decode other : Tree → Option α}
    (understands : Understands reader decode) (same : ∀ tree, decode tree = other tree) :
    Understands reader other := by
  intro tree bytes spells p blank rest only follows
  rw [← same]
  exact understands spells only follows

/-- Counts are read as they are. -/
theorem understands_readCount : Understands readCount Tree.count? := by
  refine Understands.congr (understands_readNumberAs "usize" _) fun tree => ?_
  rw [Tree.numberAs?, Tree.count?]
  cases tree.number? with
  | none => rfl
  | some number => cases number <;> rfl

end Matryoshka.Json
