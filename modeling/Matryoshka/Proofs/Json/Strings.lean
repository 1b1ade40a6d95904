import Matryoshka.Json.Quoted
import Matryoshka.Proofs.Json.Grammar

/-!
# Strings are read as they are spelled

However a character is written, the machine that reads strings is between characters again behind it
and has emitted the bytes of the character (`scan_char`). So a string is read as the text that it
spells (`readRest_eq`), and one that nobody asked for is passed over (`skip_chars`).
-/

namespace Matryoshka.Json

/-- The place behind some bytes. -/
def Place.past (p : Place) (bytes : List UInt8) : Place := bytes.foldl Place.after p

@[simp]
theorem Place.past_nil (p : Place) : p.past [] = p := rfl

@[simp]
theorem Place.past_cons (p : Place) (b : UInt8) (bytes : List UInt8) :
    p.past (b :: bytes) = (p.after b).past bytes := rfl

@[simp]
theorem Place.past_append (p : Place) (bytes more : List UInt8) :
    p.past (bytes ++ more) = (p.past bytes).past more := List.foldl_append

namespace Quoted

variable {p : Place} {c : Char} {chars : List Char} {bytes before rest : List UInt8}

/-! ## Single characters -/

/-- Whether a byte of a string stands for itself. -/
def IsPlain (b : UInt8) : Prop := b ≠ 0x22 ∧ b ≠ 0x5C ∧ ¬ b < 0x20

/-- A byte of another character than those of ASCII stands for itself. -/
theorem isPlain_of_le {n : Nat} (large : 128 ≤ n) (small : n < 256) : IsPlain (UInt8.ofNat n) := by
  have value : (UInt8.ofNat n).toNat = n := UInt8.toNat_ofNat_of_lt' small
  refine ⟨fun same => ?_, fun same => ?_, fun control => ?_⟩
  · rw [same] at value
    simp at value
    omega
  · rw [same] at value
    simp at value
    omega
  · rw [UInt8.lt_iff_toNat_lt, value] at control
    simp at control
    omega

/-- All bytes of a character that stands for itself do. -/
theorem isPlain_of_mem (plain : c.toNat ≠ 0x22 ∧ c.toNat ≠ 0x5C ∧ 0x20 ≤ c.toNat) :
    ∀ b ∈ String.utf8EncodeChar c, IsPlain b := by
  have number : c.val.toNat = c.toNat := rfl
  unfold String.utf8EncodeChar
  simp only [number]
  split
  · rename_i small
    intro b member
    obtain rfl := List.mem_singleton.1 member
    have below : c.toNat < 256 := by omega
    have value : (UInt8.ofNat c.toNat).toNat = c.toNat := UInt8.toNat_ofNat_of_lt' below
    refine ⟨fun same => ?_, fun same => ?_, fun control => ?_⟩
    · rw [same] at value
      exact plain.1 value.symm
    · rw [same] at value
      exact plain.2.1 value.symm
    · rw [UInt8.lt_iff_toNat_lt, value] at control
      exact absurd plain.2.2 (Nat.not_le_of_lt control)
  · split
    · simp only [List.forall_mem_cons]
      exact ⟨isPlain_of_le (by omega) (by omega), isPlain_of_le (by omega) (by omega), by simp⟩
    · split
      · simp only [List.forall_mem_cons]
        exact ⟨isPlain_of_le (by omega) (by omega), isPlain_of_le (by omega) (by omega),
          isPlain_of_le (by omega) (by omega), by simp⟩
      · simp only [List.forall_mem_cons]
        exact ⟨isPlain_of_le (by omega) (by omega), isPlain_of_le (by omega) (by omega),
          isPlain_of_le (by omega) (by omega), isPlain_of_le (by omega) (by omega), by simp⟩

/-- Bytes that stand for themselves are emitted. -/
theorem scan_plain (plain : ∀ b ∈ bytes, IsPlain b) :
    scan .plain before p (bytes ++ rest) =
      scan .plain (bytes.reverse ++ before) (p.past bytes) rest := by
  induction bytes generalizing before p with
  | nil => rfl
  | cons b bytes ih =>
    obtain ⟨noQuote, noBackslash, noControl⟩ := plain b List.mem_cons_self
    rw [List.cons_append, scan]
    simp only [Mode.move, noQuote, noBackslash, noControl, ↓reduceIte]
    rw [ih fun b member => plain b (List.mem_cons_of_mem _ member)]
    simp

/-- Bytes that stand for themselves are passed over. -/
theorem skip_plain (plain : ∀ b ∈ bytes, IsPlain b) :
    skip .plain p (bytes ++ rest) = skip .plain (p.past bytes) rest := by
  induction bytes generalizing p with
  | nil => rfl
  | cons b bytes ih =>
    obtain ⟨noQuote, noBackslash, noControl⟩ := plain b List.mem_cons_self
    rw [List.cons_append, skip]
    simp only [noQuote, noBackslash, noControl, ↓reduceIte]
    exact ih fun b member => plain b (List.mem_cons_of_mem _ member)

/-- A digit has its value. -/
theorem hexDigit?_eq {b : UInt8} {n : Nat} (hex : SpellsHex b n) : hexDigit? b = some n := by
  cases hex with
  | @digit n small =>
    have all : ∀ n < 10, hexDigit? (0x30 + n.toUInt8) = some n := by decide
    exact all n small
  | @capital n small =>
    have all : ∀ n < 6, hexDigit? (0x41 + n.toUInt8) = some (10 + n) := by decide
    exact all n small
  | @letter n small =>
    have all : ∀ n < 6, hexDigit? (0x61 + n.toUInt8) = some (10 + n) := by decide
    exact all n small

/-- The digits of a numbered escape add up to its number. -/
theorem scan_unit {n : Nat} {next : Mode} {emitted : List UInt8} (unit : SpellsUnit bytes n)
    (after : afterHex (some n) none = .go next emitted) :
    scan .plain before p (bytes ++ rest) =
      scan next (emitted.reverse ++ before) (p.past bytes) rest := by
  cases unit with
  | digits first second third fourth =>
    simp [scan, Mode.move, pushHex, hexDigit?_eq first, hexDigit?_eq second, hexDigit?_eq third,
      hexDigit?_eq fourth, after]

/-- The digits of the second half of a surrogate pair add up to its number. -/
theorem scan_trail {lead n : Nat} {next : Mode} {emitted : List UInt8} (unit : SpellsUnit bytes n)
    (after : afterHex (some n) (some lead) = .go next emitted) :
    scan (.backslash lead) before p (bytes ++ rest) =
      scan next (emitted.reverse ++ before) (p.past bytes) rest := by
  cases unit with
  | digits first second third fourth =>
    simp [scan, Mode.move, pushHex, hexDigit?_eq first, hexDigit?_eq second, hexDigit?_eq third,
      hexDigit?_eq fourth, after]

/-- A numbered escape is passed over. -/
theorem skip_unit {n : Nat} (unit : SpellsUnit bytes n) :
    skip .plain p (bytes ++ rest) = skip .plain (p.past bytes) rest := by
  cases unit with
  | digits first second third fourth =>
    simp [skip, pushHex, hexDigit?_eq first, hexDigit?_eq second, hexDigit?_eq third,
      hexDigit?_eq fourth]

/-- The letter of an escape stands for the bytes of its character. -/
theorem simpleEscape?_eq {b : UInt8} (short : (c.toNat, b) ∈ shortEscapes) :
    b ≠ 0x75 ∧ ∃ byte, simpleEscape? b = some byte ∧ String.utf8EncodeChar c = [byte] := by
  have all : ∀ entry ∈ shortEscapes, entry.2 ≠ 0x75 ∧ ∃ byte,
      simpleEscape? entry.2 = some byte ∧ String.utf8EncodeChar (Char.ofNat entry.1) = [byte] := by
    simp only [shortEscapes, List.forall_mem_cons]
    exact ⟨⟨by decide, _, rfl, rfl⟩, ⟨by decide, _, rfl, rfl⟩, ⟨by decide, _, rfl, rfl⟩,
      ⟨by decide, _, rfl, rfl⟩, ⟨by decide, _, rfl, rfl⟩, ⟨by decide, _, rfl, rfl⟩,
      ⟨by decide, _, rfl, rfl⟩, ⟨by decide, _, rfl, rfl⟩, by simp⟩
  simpa only [Char.ofNat_toNat] using all _ short

/-- A character that is not beyond the first plane is no half of a surrogate pair. -/
theorem not_surrogate (c : Char) : isTrail c.toNat = false ∧ isLead c.toNat = false := by
  have valid : c.toNat < 0xD800 ∨ 0xDFFF < c.toNat ∧ c.toNat < 0x110000 := c.valid
  simp only [isTrail, isLead, Bool.and_eq_false_iff, decide_eq_false_iff_not]
  omega

/-- A surrogate pair stands for its character. -/
theorem pair_eq {lead trail : Nat}
    (number : c.toNat = 0x10000 + (lead - 0xD800) * 0x400 + (trail - 0xDC00)) :
    pair lead trail = c := by
  rw [pair, ← number, Char.ofNat_toNat]

/-- However a character is written, its bytes are emitted. -/
theorem scan_char (char : SpellsChar c bytes) :
    scan .plain before p (bytes ++ rest) =
      scan .plain ((String.utf8EncodeChar c).reverse ++ before) (p.past bytes) rest := by
  cases char with
  | plain plain => exact scan_plain (isPlain_of_mem plain)
  | short short =>
    obtain ⟨other, byte, found, bytes⟩ := simpleEscape?_eq short
    rw [bytes]
    simp [scan, Mode.move, other, found]
  | unit number =>
    obtain ⟨noTrail, noLead⟩ := not_surrogate c
    refine scan_unit number ?_
    simp [afterHex, noTrail, noLead]
  | @pair first second lead trail leads trails inLead inTrail number =>
    have isLead_eq : isLead lead = true := by
      simp only [isLead, Bool.and_eq_true, decide_eq_true_eq]
      omega
    have noTrail : isTrail lead = false := by
      simp only [isTrail, Bool.and_eq_false_iff, decide_eq_false_iff_not]
      omega
    have isTrail_eq : isTrail trail = true := by
      simp only [isTrail, Bool.and_eq_true, decide_eq_true_eq]
      omega
    have half : afterHex (some lead) none = .go (.backslash lead) [] := by
      simp [afterHex, isLead_eq, noTrail]
    have whole : afterHex (some trail) (some lead) = .go .plain (String.utf8EncodeChar c) := by
      simp [afterHex, isTrail_eq, pair_eq number]
    rw [List.append_assoc, scan_unit leads half, scan_trail trails whole, Place.past_append]
    rfl

/-- However a character is written, it is passed over. -/
theorem skip_char (char : SpellsChar c bytes) :
    skip .plain p (bytes ++ rest) = skip .plain (p.past bytes) rest := by
  cases char with
  | plain plain => exact skip_plain (isPlain_of_mem plain)
  | short short =>
    obtain ⟨other, byte, found, -⟩ := simpleEscape?_eq short
    simp [skip, other, found]
  | unit number => exact skip_unit number
  | pair leads trails =>
    rw [List.append_assoc, skip_unit leads, skip_unit trails, Place.past_append]

/-! ## Whole strings -/

/-- The bytes of a text are emitted up to the closing quote. -/
theorem scan_chars (inside : SpellsChars chars bytes) :
    scan .plain before p (bytes ++ 0x22 :: rest) =
      .ok (before.reverse ++ chars.flatMap String.utf8EncodeChar,
        ⟨p.past bytes, 0x22 :: rest⟩) := by
  induction inside generalizing before p with
  | nil => simp [scan, Mode.move]
  | cons first others ih =>
    rw [List.append_assoc, scan_char first, ih]
    simp

/-- A text is passed over with the closing quote. -/
theorem skip_chars (inside : SpellsChars chars bytes) :
    skip .plain p (bytes ++ 0x22 :: rest) = .ok ⟨(p.past bytes).after 0x22, rest⟩ := by
  induction inside generalizing p with
  | nil => simp [skip]
  | cons first others ih =>
    rw [List.append_assoc, skip_char first, ih]
    simp

/-- The bytes of a text are those of no other. -/
theorem fromUTF8?_eq (text : String) :
    String.fromUTF8? (text.toList.flatMap String.utf8EncodeChar).toByteArray = some text := by
  have valid : (text.toList.flatMap String.utf8EncodeChar).toByteArray.IsValidUTF8 :=
    .intro text.toList rfl
  rw [String.fromUTF8?, dif_pos valid]
  exact congrArg some (String.ofList_toList)

/-- A string is read as the text that it spells. -/
theorem readRest_eq {text : String} (inside : SpellsChars text.toList bytes) (p : Place)
    (rest : List UInt8) :
    readRest ⟨p, bytes ++ 0x22 :: rest⟩ = .ok (text, ⟨(p.past bytes).after 0x22, rest⟩) := by
  rw [readRest, scan_chars inside]
  simp only [List.reverse_nil, List.nil_append, fromUTF8?_eq]
  rfl

end Quoted

end Matryoshka.Json
