import Matryoshka.Json.Skip
import Matryoshka.Proofs.Json.Strings

/-!
# What nobody asked for is passed over

Passing over a value leads right behind it, however the value is written and however deeply its
brackets are nested (`skipValue_eq`). The brackets that are still open are on a stack, so the law
about a single value is stated for any stack: behind the value, what is left to do is to find the
next value inside the innermost bracket (`leadsTo_value`).
-/

namespace Matryoshka.Json

variable {p : Place} {blank bytes rest : List UInt8}

/-! ## Blanks and words -/

/-- What may follow a value: the end of the document, a blank, a comma or a closing bracket. -/
def Follows (rest : List UInt8) : Prop :=
  ∀ b ∈ rest.head?, b ∈ [0x20, 0x09, 0x0A, 0x0D, 0x2C, 0x5D, 0x7D]

/-- What starts with no blank. -/
def Inked (rest : List UInt8) : Prop := ∀ b ∈ rest.head?, Cursor.isBlankByte b = false

@[simp]
theorem blank_nil : Blank [] := by simp [Blank]

/-- What holds of the first byte holds of the head. -/
theorem forall_head? {P : UInt8 → Prop} {first : UInt8} {others : List UInt8} (own : P first) :
    ∀ b ∈ (first :: others).head?, P b := by
  simpa using own

/-- The bytes that are blanks. -/
theorem isBlankByte_iff (b : UInt8) :
    Cursor.isBlankByte b = true ↔ b ∈ ([0x20, 0x09, 0x0A, 0x0D] : List UInt8) := by
  simp [Cursor.isBlankByte, or_assoc]

/-- Blanks are passed over up to the first byte that is none. -/
theorem skipBlank_eq (only : Blank blank) (inked : Inked rest) :
    Cursor.skipBlank ⟨p, blank ++ rest⟩ = ⟨p.past blank, rest⟩ := by
  rw [Cursor.skipBlank]
  induction blank generalizing p with
  | nil =>
    cases rest with
    | nil => rfl
    | cons b rest =>
      have ink : Cursor.isBlankByte b = false := inked b rfl
      simp [Cursor.skipBlankFrom, ink]
  | cons b blank ih =>
    have isBlank : Cursor.isBlankByte b = true := (isBlankByte_iff b).2 (only b List.mem_cons_self)
    simp only [List.cons_append, Cursor.skipBlankFrom, isBlank, ↓reduceIte]
    exact ih fun b member => only b (List.mem_cons_of_mem _ member)

/-- Blanks are passed over up to a byte that is none. -/
theorem skipBlank_cons {first : UInt8} (only : Blank blank)
    (ink : Cursor.isBlankByte first = false) (p : Place) (rest : List UInt8) :
    Cursor.skipBlank ⟨p, blank ++ first :: rest⟩ = ⟨p.past blank, first :: rest⟩ := by
  have inked : Inked (first :: rest) := by simpa [Inked] using ink
  exact skipBlank_eq only inked

/-- A word is read letter by letter. -/
theorem readWord_eq (letters : List UInt8) (p : Place) (rest : List UInt8) :
    readWord letters ⟨p, letters ++ rest⟩ = .ok ⟨p.past letters, rest⟩ := by
  induction letters generalizing p with
  | nil => rfl
  | cons letter letters ih =>
    simp only [readWord, List.cons_append, ↓reduceIte, Cursor.eat]
    exact ih (p.after letter)

/-! ## Numbers -/

namespace Number

/-- A byte that may follow a value continues no number. -/
theorem ends_of_follows (follows : Follows rest) :
    ∀ b ∈ rest.head?, isDigit b = false ∧ b ≠ 0x2E ∧ b ≠ 0x65 ∧ b ≠ 0x45 := by
  intro b head
  have all : ∀ b ∈ ([0x20, 0x09, 0x0A, 0x0D, 0x2C, 0x5D, 0x7D] : List UInt8),
      isDigit b = false ∧ b ≠ 0x2E ∧ b ≠ 0x65 ∧ b ≠ 0x45 := by simp [isDigit]
  exact all b (follows b head)

/-- The digits of the grammar are those that are read. -/
theorem isDigit_of_digits {digits : List UInt8} (all : Digits digits) :
    ∀ b ∈ digits, isDigit b = true := by
  intro b member
  simpa [isDigit] using all b member

/-- The first digit of any integer but zero is a digit. -/
theorem isDigit_of_leads {first : UInt8} (leads : 0x31 ≤ first ∧ first ≤ 0x39) :
    isDigit first = true := by
  have large : 0x30 ≤ first := UInt8.le_trans (by decide) leads.1
  simpa [isDigit] using ⟨large, leads.2⟩

/-- The first digit of any integer but zero is not zero. -/
theorem ne_zero_of_leads {first : UInt8} (leads : 0x31 ≤ first ∧ first ≤ 0x39) :
    first ≠ 0x30 := by
  rintro rfl
  exact absurd leads.1 (by decide)

/-- The first digit of an integer and the others are digits. -/
theorem digits_of_leads {first : UInt8} {others : List UInt8}
    (leads : 0x31 ≤ first ∧ first ≤ 0x39) (all : Digits others) : Digits (first :: others) := by
  have digit := isDigit_of_leads leads
  exact List.forall_mem_cons.2 ⟨by simpa [isDigit] using digit, all⟩

/-- Digits are taken up to the first byte that is none. -/
theorem takeDigits_eq {digits : List UInt8} (all : Digits digits)
    (last : ∀ b ∈ rest.head?, isDigit b = false) :
    takeDigits p (digits ++ rest) = (digits.map digitValue, ⟨p.past digits, rest⟩) := by
  induction digits generalizing p with
  | nil =>
    cases rest with
    | nil => rfl
    | cons b rest =>
      have noDigit : isDigit b = false := last b rfl
      simp [takeDigits, noDigit]
  | cons b digits ih =>
    have digit := isDigit_of_digits all b List.mem_cons_self
    simp only [List.cons_append, takeDigits, digit, ↓reduceIte]
    rw [ih fun b member => all b (List.mem_cons_of_mem _ member)]
    rfl

/-- An exponent is passed over, behind its mark. -/
theorem skipExponent_eq {sign digits : List UInt8}
    (signs : sign = [] ∨ sign = [0x2B] ∨ sign = [0x2D]) (filled : digits ≠ []) (all : Digits digits)
    (last : ∀ b ∈ rest.head?, isDigit b = false) :
    skipExponent ⟨p, sign ++ (digits ++ rest)⟩ = .ok ⟨p.past (sign ++ digits), rest⟩ := by
  obtain ⟨first, others, rfl⟩ := List.exists_cons_of_ne_nil filled
  have digit := isDigit_of_digits all first List.mem_cons_self
  have taken (p : Place) := takeDigits_eq (p := p) all last
  rw [List.cons_append] at taken
  have noSign : first ≠ 0x2B ∧ first ≠ 0x2D := by
    constructor <;> rintro rfl <;> cases digit
  rcases signs with rfl | rfl | rfl
  · simp [skipExponent, noSign, digit, taken]
  · simp [skipExponent, digit, taken, Cursor.eat]
  · simp [skipExponent, digit, taken, Cursor.eat]

/-- A number that ends behind its digits ends there. -/
theorem skipAfterInteger_of_ends
    (ends : ∀ b ∈ rest.head?, isDigit b = false ∧ b ≠ 0x2E ∧ b ≠ 0x65 ∧ b ≠ 0x45) :
    skipAfterInteger ⟨p, rest⟩ = .ok ⟨p, rest⟩ := by
  cases rest with
  | nil => rfl
  | cons b rest =>
    obtain ⟨-, noPoint, noMark, noCapital⟩ := ends b rfl
    simp [skipAfterInteger, noPoint, noMark, noCapital]

/-- What may stand behind the digits of an integer is passed over. -/
theorem skipAfterInteger_eq {fraction exponent : List UInt8} (point : SpellsFraction fraction)
    (scale : SpellsExponent exponent) (follows : Follows rest) :
    skipAfterInteger ⟨p, fraction ++ (exponent ++ rest)⟩ =
      .ok ⟨p.past (fraction ++ exponent), rest⟩ := by
  have ends := ends_of_follows follows
  have last : ∀ b ∈ rest.head?, isDigit b = false := fun b head => (ends b head).1
  cases scale with
  | none =>
    cases point with
    | none => exact skipAfterInteger_of_ends ends
    | @digits digits filled all =>
      obtain ⟨first, others, rfl⟩ := List.exists_cons_of_ne_nil filled
      have taken (p : Place) := takeDigits_eq (p := p) all last
      rw [List.cons_append] at taken
      cases rest with
      | nil =>
        rw [List.append_nil] at taken
        simp [skipAfterInteger, skipFraction, Cursor.eat, taken]
      | cons b rest =>
        obtain ⟨-, -, noMark, noCapital⟩ := ends b rfl
        simp [skipAfterInteger, skipFraction, Cursor.eat, taken, noMark, noCapital]
  | @digits mark sign digits marks signs filled all =>
    have exponent (p : Place) := skipExponent_eq (p := p) signs filled all last
    have noDigit : isDigit mark = false := by rcases marks with rfl | rfl <;> rfl
    cases point with
    | none =>
      rcases marks with rfl | rfl
      · simp [skipAfterInteger, Cursor.eat, exponent]
      · simp [skipAfterInteger, Cursor.eat, exponent]
    | @digits fraction filledFraction allFraction =>
      obtain ⟨first, others, rfl⟩ := List.exists_cons_of_ne_nil filledFraction
      have behind : ∀ b ∈ (mark :: (sign ++ (digits ++ rest))).head?, isDigit b = false := by
        simpa using noDigit
      have taken (p : Place) := takeDigits_eq (p := p) allFraction behind
      rw [List.cons_append] at taken
      rcases marks with rfl | rfl
      · simp [skipAfterInteger, skipFraction, Cursor.eat, taken, exponent]
      · simp [skipAfterInteger, skipFraction, Cursor.eat, taken, exponent]

/-- What stands behind the digits of an integer is no digit. -/
theorem head_of_parts {fraction exponent : List UInt8} (point : SpellsFraction fraction)
    (scale : SpellsExponent exponent) (follows : Follows rest) :
    ∀ b ∈ (fraction ++ (exponent ++ rest)).head?, isDigit b = false := by
  cases point with
  | digits => simp [isDigit]
  | none =>
    cases scale with
    | none => exact fun b head => (ends_of_follows follows b head).1
    | digits marks => rcases marks with rfl | rfl <;> simp [isDigit]

/-- A number without a sign is passed over. -/
theorem skipUnsigned_eq (digits : SpellsUnsigned bytes) (follows : Follows rest) :
    skipUnsigned ⟨p, bytes ++ rest⟩ = .ok ⟨p.past bytes, rest⟩ := by
  cases digits with
  | @parts integer fraction exponent leads point scale =>
    have last := head_of_parts point scale follows
    have tail (p : Place) := skipAfterInteger_eq (p := p) point scale follows
    simp only [List.append_assoc]
    cases leads with
    | zero =>
      generalize after : fraction ++ (exponent ++ rest) = more at last tail
      cases more with
      | nil => simp [skipUnsigned, Cursor.eat, tail]
      | cons b more =>
        have noDigit : isDigit b = false := last b rfl
        simp [skipUnsigned, Cursor.eat, tail, noDigit]
    | @positive first others leads all =>
      have digit := isDigit_of_leads leads
      have notZero := ne_zero_of_leads leads
      have taken (p : Place) := takeDigits_eq (p := p) (digits_of_leads leads all) last
      rw [List.cons_append] at taken
      simp [skipUnsigned, notZero, digit, taken, tail]

/-- A number starts with a digit, or with a minus sign before one. -/
theorem head_of_unsigned (digits : SpellsUnsigned bytes) :
    ∃ first others, bytes = first :: others ∧ isDigit first = true := by
  cases digits with
  | parts leads =>
    cases leads with
    | zero => exact ⟨_, _, rfl, rfl⟩
    | positive leads => exact ⟨_, _, rfl, isDigit_of_leads leads⟩

end Number

/-! ## Values -/

variable {isFirst : Bool} {opened : List Bracket} {tree : Tree} {trees : List Tree}
  {members : List (String × Tree)} {key : String} {lead name before after : List UInt8} {fuel : Nat}

/-- A byte that some value starts with. -/
def Starts (b : UInt8) : Prop :=
  Cursor.isBlankByte b = false ∧ b ≠ 0x2C ∧ b ≠ 0x5D ∧ b ≠ 0x7D

/-- A string starts with its quote. -/
theorem starts_quote : Starts 0x22 := ⟨rfl, by decide, by decide, by decide⟩

/-- The bytes that numbers start with start a value. -/
theorem starts_of_number {b : UInt8} (number : b = 0x2D ∨ Number.isDigit b = true) : Starts b := by
  rcases number with rfl | digit
  · exact ⟨rfl, by decide, by decide, by decide⟩
  · refine ⟨Bool.eq_false_iff.2 fun isBlank => ?_, ?_, ?_, ?_⟩
    · have all : ∀ b ∈ ([0x20, 0x09, 0x0A, 0x0D] : List UInt8), Number.isDigit b = false := by
        simp [Number.isDigit]
      rw [all b ((isBlankByte_iff b).1 isBlank)] at digit
      cases digit
    · rintro rfl
      cases digit
    · rintro rfl
      cases digit
    · rintro rfl
      cases digit

/-- What a number starts with. -/
theorem head_of_number (number : SpellsNumber bytes) :
    ∃ first others, bytes = first :: others ∧ (first = 0x2D ∨ Number.isDigit first = true) := by
  cases number with
  | unsigned digits =>
    obtain ⟨first, others, same, digit⟩ := Number.head_of_unsigned digits
    exact ⟨first, others, same, .inr digit⟩
  | negative => exact ⟨_, _, rfl, .inl rfl⟩

/-- A number starts with a digit or a minus sign. -/
theorem first_of_number {first : UInt8} {others : List UInt8}
    (number : SpellsNumber (first :: others)) : first = 0x2D ∨ Number.isDigit first = true := by
  obtain ⟨head, tail, same, digit⟩ := head_of_number number
  cases same
  exact digit

/-- What a value starts with. -/
theorem Spells.head (spells : Spells tree bytes) :
    ∃ first others, bytes = first :: others ∧ Starts first := by
  have starts (b : UInt8) (own : Starts b) (others : List UInt8) :
      ∃ first more, b :: others = first :: more ∧ Starts first := ⟨b, others, rfl, own⟩
  cases spells with
  | null => exact starts _ ⟨by decide, by decide, by decide, by decide⟩ _
  | yes => exact starts _ ⟨by decide, by decide, by decide, by decide⟩ _
  | no => exact starts _ ⟨by decide, by decide, by decide, by decide⟩ _
  | number number =>
    obtain ⟨first, others, same, own⟩ := head_of_number number
    exact ⟨first, others, same, starts_of_number own⟩
  | string string =>
    cases string
    exact starts _ starts_quote _
  | list => exact starts _ ⟨by decide, by decide, by decide, by decide⟩ _
  | object => exact starts _ ⟨by decide, by decide, by decide, by decide⟩ _

/-- A value starts with no blank. -/
theorem Spells.inked (spells : Spells tree bytes) (rest : List UInt8) : Inked (bytes ++ rest) := by
  obtain ⟨first, others, rfl, starts⟩ := spells.head
  intro b head
  obtain rfl : first = b := by simpa using head
  exact starts.1

/-- Blanks may follow a value, with what may follow it. -/
theorem follows_blank (only : Blank blank) (follows : Follows rest) : Follows (blank ++ rest) := by
  cases blank with
  | nil => exact follows
  | cons b blank =>
    intro other head
    obtain rfl : b = other := by simpa using head
    have isBlank := only b List.mem_cons_self
    exact List.mem_append_left [0x2C, 0x5D, 0x7D] isBlank

/-- What leads to a later element or member may follow a value. -/
theorem Lead.follows (leads : Lead false lead) : Follows (lead ++ rest) := by
  cases leads with
  | @later before after only more =>
    have comma : Follows (0x2C :: (after ++ rest)) := by simp [Follows]
    simpa using follows_blank only comma

/-- The elements behind the first one of a list follow it. -/
theorem SpellsElements.follows (others : SpellsElements false trees bytes)
    (follows : Follows rest) : Follows (bytes ++ rest) := by
  cases others with
  | nil only => exact follows_blank only follows
  | cons leads => simpa only [List.append_assoc] using leads.follows

/-- The members behind the first one of an object follow it. -/
theorem SpellsMembers.follows (others : SpellsMembers false members bytes)
    (follows : Follows rest) : Follows (bytes ++ rest) := by
  cases others with
  | nil only => exact follows_blank only follows
  | cons leads => simpa only [List.append_assoc] using leads.follows

/-- A key is passed over with its colon. -/
theorem skipKey_eq (ahead : Blank blank) (names : SpellsString key name) (behind : Blank before) :
    skipKey ⟨p, blank ++ (name ++ (before ++ 0x3A :: rest))⟩ =
      .ok ⟨p.past (blank ++ (name ++ (before ++ [0x3A]))), rest⟩ := by
  cases names with
  | @quoted inside chars =>
    have start := skipBlank_cons ahead (show Cursor.isBlankByte 0x22 = false from rfl)
    have finish := skipBlank_cons behind (show Cursor.isBlankByte 0x3A = false from rfl)
    simp [skipKey, start, Quoted.skip_chars chars, finish, Cursor.eat]

/-- Passing over a value that is neither a list nor an object leads right behind it. -/
theorem skipScalar_eq (spells : Spells tree bytes) (follows : Follows rest)
    (scalar : ∀ b ∈ bytes.head?, b ≠ 0x5B ∧ b ≠ 0x7B) :
    ∃ first others, bytes = first :: others ∧
      skipScalar ⟨p, bytes ++ rest⟩ first = .ok ⟨p.past bytes, rest⟩ := by
  cases spells with
  | null => exact ⟨_, _, rfl, readWord_eq (Cursor.ascii "ull") _ _⟩
  | yes => exact ⟨_, _, rfl, readWord_eq (Cursor.ascii "rue") _ _⟩
  | no => exact ⟨_, _, rfl, readWord_eq (Cursor.ascii "alse") _ _⟩
  | number number =>
    cases number with
    | negative digits =>
      refine ⟨_, _, rfl, ?_⟩
      simp [skipScalar, Cursor.eat, Number.skipUnsigned_eq digits follows]
    | unsigned digits =>
      obtain ⟨first, others, rfl, digit⟩ := Number.head_of_unsigned digits
      refine ⟨_, _, rfl, ?_⟩
      have others : first ≠ 0x6E ∧ first ≠ 0x74 ∧ first ≠ 0x66 ∧ first ≠ 0x2D := by
        refine ⟨?_, ?_, ?_, ?_⟩ <;> rintro rfl <;> cases digit
      simp only [skipScalar, others, digit, ↓reduceIte]
      exact Number.skipUnsigned_eq digits follows
  | string string =>
    cases string with
    | quoted chars =>
      refine ⟨_, _, rfl, ?_⟩
      simp [skipScalar, Number.isDigit, Cursor.eat, Quoted.skip_chars chars]
  | list => exact absurd rfl (scalar _ rfl).1
  | object => exact absurd rfl (scalar _ rfl).2

/-! ## Brackets -/

/-- No closing bracket is a blank. -/
theorem isBlankByte_closing (bracket : Bracket) : Cursor.isBlankByte bracket.closing = false := by
  cases bracket <;> rfl

/-- What is left to do behind a value: with no bracket left open there is nothing more, otherwise
the next value is passed over. -/
def goOn (fuel : Nat) : Except Stop (List Bracket × Cursor) → Except Stop Cursor
  | .error stop => .error stop
  | .ok ([], c) => .ok c
  | .ok (opened, c) => skipInside opened fuel c

/-- Before a value inside a bracket; inside a brace its key is passed over first. -/
def enter (bracket : Bracket) (opened : List Bracket) (c : Cursor) :
    Except Stop (List Bracket × Cursor) :=
  match bracket with
  | .list => .ok (bracket :: opened, c)
  | .object =>
    match skipKey c with
    | .error stop => .error stop
    | .ok c => .ok (bracket :: opened, c)

/-- Passing over a list leads into it. -/
theorem skipInside_list (only : Blank blank) :
    skipInside opened (fuel + 1) ⟨p, blank ++ 0x5B :: rest⟩ =
      goOn fuel
        (skipToValue true (.list :: opened) (fuel + 1) ⟨(p.past blank).after 0x5B, rest⟩) := by
  have start := skipBlank_cons only (show Cursor.isBlankByte 0x5B = false from rfl) p rest
  rw [skipInside]
  simp only [start]
  rfl

/-- Passing over an object leads into it. -/
theorem skipInside_object (only : Blank blank) :
    skipInside opened (fuel + 1) ⟨p, blank ++ 0x7B :: rest⟩ =
      goOn fuel
        (skipToValue true (.object :: opened) (fuel + 1) ⟨(p.past blank).after 0x7B, rest⟩) := by
  have start := skipBlank_cons only (show Cursor.isBlankByte 0x7B = false from rfl) p rest
  rw [skipInside]
  simp only [start]
  rfl

/-- The closing bracket leads to the brackets outside. -/
theorem skipToValue_close (only : Blank blank) (isFirst : Bool) (bracket : Bracket)
    (opened : List Bracket) (fuel : Nat) (p : Place) (rest : List UInt8) :
    skipToValue isFirst (bracket :: opened) (fuel + 1) ⟨p, blank ++ bracket.closing :: rest⟩ =
      skipToValue false opened fuel ⟨(p.past blank).after bracket.closing, rest⟩ := by
  have start := skipBlank_cons only (isBlankByte_closing bracket) p rest
  have noComma : bracket.closing ≠ 0x2C := by cases bracket <;> decide
  rw [skipToValue]
  simp [start, noComma, Cursor.eat]

/-- What stands before an element or member leads to it, up to blanks. -/
theorem skipToValue_enter {first : UInt8} (leads : Lead isFirst lead) (starts : Starts first)
    (bracket : Bracket) (opened : List Bracket) (p : Place) (rest : List UInt8) :
    ∃ q blank, Blank blank ∧ blank.length ≤ lead.length ∧ q.past blank = p.past lead ∧
      ∀ fuel, skipToValue isFirst (bracket :: opened) (fuel + 1) ⟨p, lead ++ first :: rest⟩ =
        enter bracket opened ⟨q, blank ++ first :: rest⟩ := by
  obtain ⟨ink, noComma, noBracket, noBrace⟩ := starts
  have open' : first ≠ bracket.closing := by cases bracket <;> assumption
  cases leads with
  | first only =>
    have start := skipBlank_cons only ink p rest
    refine ⟨p.past lead, [], blank_nil, by simp, rfl, fun fuel => ?_⟩
    rw [skipToValue]
    cases bracket with
    | list => simp [start, noComma, open', enter]
    | object =>
      simp only [start, enter, List.nil_append]
      cases skipKey ⟨p.past lead, first :: rest⟩ <;> simp [noComma, open']
  | @later before after behind more =>
    have start := skipBlank_cons behind (show Cursor.isBlankByte 0x2C = false from rfl) p
      (after ++ first :: rest)
    refine ⟨(p.past before).after 0x2C, after, more, by simp; omega, by simp, fun fuel => ?_⟩
    rw [skipToValue]
    cases bracket with
    | list => simp [start, enter, Cursor.eat]
    | object =>
      simp only [List.append_assoc, List.cons_append, start, enter, Cursor.eat]
      cases skipKey ⟨(p.past before).after 0x2C, after ++ first :: rest⟩ <;> simp

/-- A key leads to its value. -/
theorem enter_object (ahead : Blank blank) (names : SpellsString key name) (behind : Blank before) :
    enter .object opened ⟨p, blank ++ (name ++ (before ++ 0x3A :: rest))⟩ =
      .ok (.object :: opened, ⟨p.past (blank ++ (name ++ (before ++ [0x3A]))), rest⟩) := by
  rw [enter, skipKey_eq ahead names behind]

/-- What stands before an element leads to it, up to blanks. -/
theorem skipToValue_element (leads : Lead isFirst lead) (spells : Spells tree bytes)
    (opened : List Bracket) (p : Place) (rest : List UInt8) :
    ∃ q blank, Blank blank ∧ blank.length ≤ lead.length ∧ q.past blank = p.past lead ∧
      ∀ fuel, skipToValue isFirst (.list :: opened) (fuel + 1) ⟨p, lead ++ (bytes ++ rest)⟩ =
        .ok (.list :: opened, ⟨q, blank ++ (bytes ++ rest)⟩) := by
  obtain ⟨first, others, rfl, starts⟩ := spells.head
  exact skipToValue_enter leads starts .list opened p (others ++ rest)

/-- What stands before the value of a member leads to it, up to blanks. -/
theorem skipToValue_member (leads : Lead isFirst lead) (names : SpellsString key name)
    (behind : Blank before) (more : Blank after) (opened : List Bracket) (p : Place)
    (rest : List UInt8) :
    ∃ q blank, Blank blank ∧ blank.length ≤ after.length ∧
      q.past blank = p.past (lead ++ (name ++ (before ++ 0x3A :: after))) ∧
      ∀ fuel, skipToValue isFirst (.object :: opened) (fuel + 1)
          ⟨p, lead ++ (name ++ (before ++ 0x3A :: (after ++ rest)))⟩ =
        .ok (.object :: opened, ⟨q, blank ++ rest⟩) := by
  have quote : ∃ others, name = 0x22 :: others := by
    cases names
    exact ⟨_, rfl⟩
  obtain ⟨others, rfl⟩ := quote
  obtain ⟨q, blank, only, -, past, entered⟩ := skipToValue_enter leads starts_quote .object opened p
    (others ++ (before ++ 0x3A :: (after ++ rest)))
  refine ⟨q.past (blank ++ (0x22 :: others ++ (before ++ [0x3A]))), after, more, Nat.le_refl _, ?_,
    fun fuel => ?_⟩
  · simp [past]
  · exact (entered fuel).trans (enter_object only names behind)

/-- Behind a value that is neither a list nor an object, what is left to do is to find the next one
inside the innermost bracket. -/
theorem skipInside_scalar (spells : Spells tree bytes) (only : Blank blank) (follows : Follows rest)
    (scalar : ∀ b ∈ bytes.head?, b ≠ 0x5B ∧ b ≠ 0x7B) :
    skipInside opened (fuel + 1) ⟨p, blank ++ (bytes ++ rest)⟩ =
      goOn fuel (skipToValue false opened (fuel + 1) ⟨(p.past blank).past bytes, rest⟩) := by
  obtain ⟨first, others, rfl, starts⟩ := spells.head
  obtain ⟨noBracket, noBrace⟩ := scalar first rfl
  obtain ⟨first', others', same, passed⟩ := skipScalar_eq (p := p.past blank) spells follows scalar
  obtain ⟨rfl, rfl⟩ : first = first' ∧ others = others' := by simpa using same
  rw [List.cons_append] at passed ⊢
  have start := skipBlank_cons only starts.1 p (others ++ rest)
  rw [skipInside]
  simp only [start, if_neg noBracket, if_neg noBrace, passed]
  rfl

/-! ## Nested values -/

/-- What passing over a value, or over the rest of a bracket, comes to: nothing is left to do but to
find the next value inside `opened` behind it, with enough fuel for what follows. -/
def LeadsTo (opened : List Bracket) (behind : Cursor) (result : Except Stop Cursor) : Prop :=
  ∃ outer inner, behind.rest.length < outer ∧ behind.rest.length < inner ∧
    result = goOn inner (skipToValue false opened outer behind)

/-- Passing over the rest of a bracket leads behind it, with enough fuel. -/
def Closes (isFirst : Bool) (bracket : Bracket) (opened : List Bracket) (c behind : Cursor) :
    Prop :=
  ∀ outer inner, c.rest.length < outer → c.rest.length < inner →
    LeadsTo opened behind (goOn inner (skipToValue isFirst (bracket :: opened) outer c))

/-- Up to blanks, nothing is left inside a bracket. -/
theorem closes_blank (only : Blank blank) (isFirst : Bool) (bracket : Bracket)
    (opened : List Bracket) (p : Place) (rest : List UInt8) :
    Closes isFirst bracket opened ⟨p, blank ++ bracket.closing :: rest⟩
      ⟨(p.past blank).after bracket.closing, rest⟩ := by
  intro outer inner enoughOuter enoughInner
  simp only [List.length_append, List.length_cons] at enoughOuter enoughInner
  obtain ⟨outer, rfl⟩ : ∃ n, outer = n + 1 := ⟨outer - 1, by omega⟩
  refine ⟨outer, inner, by simp only; omega, by simp only; omega, ?_⟩
  rw [skipToValue_close only]

/-- A bracket is left by passing over the next value in it and then over what is behind the
value. -/
theorem Closes.of_value {bracket : Bracket} {c start next behind : Cursor}
    (entered : ∀ fuel,
      skipToValue isFirst (bracket :: opened) (fuel + 1) c = .ok (bracket :: opened, start))
    (shorter : start.rest.length ≤ c.rest.length)
    (value : ∀ fuel, start.rest.length < fuel + 1 →
      LeadsTo (bracket :: opened) next (skipInside (bracket :: opened) (fuel + 1) start))
    (others : Closes false bracket opened next behind) :
    Closes isFirst bracket opened c behind := by
  intro outer inner enoughOuter enoughInner
  obtain ⟨outer, rfl⟩ : ∃ n, outer = n + 1 := ⟨outer - 1, by omega⟩
  obtain ⟨inner, rfl⟩ : ∃ n, inner = n + 1 := ⟨inner - 1, by omega⟩
  obtain ⟨outer', inner', moreOuter, moreInner, passed⟩ := value inner (by omega)
  have step : goOn (inner + 1) (.ok (bracket :: opened, start)) =
      skipInside (bracket :: opened) (inner + 1) start := rfl
  rw [entered, step, passed]
  -- The fuel that the value left is still enough for what is behind it.
  exact others outer' inner' moreOuter moreInner

mutual

/-- Passing over a value leads right behind it. -/
theorem leadsTo_value {tree : Tree} {bytes : List UInt8} (spells : Spells tree bytes) :
    ∀ (p : Place) {blank rest : List UInt8} (opened : List Bracket) (fuel : Nat), Blank blank →
      Follows rest → (blank ++ (bytes ++ rest)).length < fuel + 1 →
      LeadsTo opened ⟨(p.past blank).past bytes, rest⟩
        (skipInside opened (fuel + 1) ⟨p, blank ++ (bytes ++ rest)⟩) := by
  intro p blank rest opened fuel only follows enough
  rw [List.length_append, List.length_append] at enough
  -- Only lists and objects open a bracket; all other values are passed over in one step.
  have leads_scalar (scalar : ∀ b ∈ bytes.head?, b ≠ 0x5B ∧ b ≠ 0x7B) :
      LeadsTo opened ⟨(p.past blank).past bytes, rest⟩
        (skipInside opened (fuel + 1) ⟨p, blank ++ (bytes ++ rest)⟩) := by
    obtain ⟨first, others, rfl, -⟩ := spells.head
    rw [List.length_cons] at enough
    exact ⟨fuel + 1, fuel, by simp only; omega, by simp only; omega,
      skipInside_scalar spells only follows scalar⟩
  match spells with
  | .null => exact leads_scalar (forall_head? ⟨by decide, by decide⟩)
  | .yes => exact leads_scalar (forall_head? ⟨by decide, by decide⟩)
  | .no => exact leads_scalar (forall_head? ⟨by decide, by decide⟩)
  | .number number =>
    refine leads_scalar fun b head => ?_
    obtain ⟨first, others, rfl, digit⟩ := head_of_number number
    obtain rfl : first = b := by simpa using head
    constructor <;> rintro rfl <;> simp [Number.isDigit] at digit
  | .string string =>
    cases string
    exact leads_scalar (by simp)
  | @Spells.list elements bytes inside =>
    simp only [List.length_cons, List.length_append, List.length_nil] at enough
    have closes := closes_elements inside ((p.past blank).after 0x5B) rest opened
    have passed := closes (fuel + 1) fuel (by simp; omega) (by simp; omega)
    simp only [List.cons_append, List.append_assoc, List.nil_append]
    rw [skipInside_list only]
    simpa using passed
  | @Spells.object members bytes inside =>
    simp only [List.length_cons, List.length_append, List.length_nil] at enough
    have closes := closes_members inside ((p.past blank).after 0x7B) rest opened
    have passed := closes (fuel + 1) fuel (by simp; omega) (by simp; omega)
    simp only [List.cons_append, List.append_assoc, List.nil_append]
    rw [skipInside_object only]
    simpa using passed

/-- Passing over the elements of a list leads right behind its bracket. -/
theorem closes_elements {isFirst : Bool} {trees : List Tree} {bytes : List UInt8}
    (inside : SpellsElements isFirst trees bytes) (p : Place) (rest : List UInt8)
    (opened : List Bracket) :
    Closes isFirst .list opened ⟨p, bytes ++ 0x5D :: rest⟩ ⟨(p.past bytes).after 0x5D, rest⟩ := by
  match inside with
  | .nil only => exact closes_blank only isFirst .list opened p rest
  | @SpellsElements.cons _ _ _ lead bytes more leads first others =>
    have ends : Follows (0x5D :: rest) := by simp [Follows]
    obtain ⟨q, blank, only, short, past, entered⟩ :=
      skipToValue_element leads first opened p (more ++ 0x5D :: rest)
    have onward := closes_elements others ((q.past blank).past bytes) rest opened
    rw [past] at onward
    simp only [List.append_assoc, Place.past_append]
    refine .of_value entered (by simpa using short) (fun fuel enough => ?_) onward
    rw [← past]
    exact leadsTo_value first q (.list :: opened) fuel only (others.follows ends) enough

/-- Passing over the members of an object leads right behind its brace. -/
theorem closes_members {isFirst : Bool} {members : List (String × Tree)} {bytes : List UInt8}
    (inside : SpellsMembers isFirst members bytes) (p : Place) (rest : List UInt8)
    (opened : List Bracket) :
    Closes isFirst .object opened ⟨p, bytes ++ 0x7D :: rest⟩ ⟨(p.past bytes).after 0x7D, rest⟩ := by
  match inside with
  | .nil only => exact closes_blank only isFirst .object opened p rest
  | @SpellsMembers.cons _ _ _ _ lead name before after bytes more leads names behind ahead first
      others =>
    have ends : Follows (0x7D :: rest) := by simp [Follows]
    obtain ⟨q, blank, only, short, past, entered⟩ :=
      skipToValue_member leads names behind ahead opened p (bytes ++ (more ++ 0x7D :: rest))
    have onward := closes_members others ((q.past blank).past bytes) rest opened
    rw [past] at onward
    simp only [List.append_assoc, List.cons_append, Place.past_append, Place.past_cons]
      at past onward ⊢
    refine .of_value entered ?_ (fun fuel enough => ?_) onward
    · simp only [List.length_append, List.length_cons]
      omega
    · rw [← past]
      exact leadsTo_value first q (.object :: opened) fuel only (others.follows ends) enough

end

/-- A value that nobody asked for is passed over, with the blanks before it. -/
theorem skipValue_eq (only : Blank blank) (spells : Spells tree bytes) (follows : Follows rest) :
    skipValue ⟨p, blank ++ (bytes ++ rest)⟩ = .ok ⟨(p.past blank).past bytes, rest⟩ := by
  obtain ⟨outer, inner, enough, -, passed⟩ := leadsTo_value spells p []
    (blank ++ (bytes ++ rest)).length only follows (Nat.lt_succ_self _)
  obtain ⟨outer, rfl⟩ : ∃ n, outer = n + 1 := ⟨outer - 1, by simp only at enough; omega⟩
  rw [skipValue, passed, skipToValue, goOn]

end Matryoshka.Json
