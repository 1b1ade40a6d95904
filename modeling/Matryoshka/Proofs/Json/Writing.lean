import Matryoshka.Json.Print
import Matryoshka.Proofs.Json.Values
import Mathlib.Data.List.Forall2

/-!
# What is written is spelled

A printed document is one of the ways to write what it says. A printed character is spelled, since
it stands for itself or has an escape of the grammar (`spellsChar_stringChar`); a printed count is
spelled by its digits, which come to the count again as long as it has 64 bits
(`count?_count`); elements and members are spelled in order (`spells_list`, `spells_object`).
So a reader that understands documents reads back what was printed (`readDocument_utf8`).
-/

namespace Matryoshka.Json

/-- The bytes of a text. -/
def utf8 (text : List Char) : List UInt8 := text.flatMap String.utf8EncodeChar

@[simp]
theorem utf8_nil : utf8 [] = [] := rfl

@[simp]
theorem utf8_cons (c : Char) (text : List Char) :
    utf8 (c :: text) = String.utf8EncodeChar c ++ utf8 text := rfl

@[simp]
theorem utf8_append (text more : List Char) : utf8 (text ++ more) = utf8 text ++ utf8 more :=
  List.flatMap_append

/-- The bytes from an index on are listed behind those before it. -/
theorem toList_loop (bytes : ByteArray) (i : Nat) (before : List UInt8) :
    ByteArray.toList.loop bytes i before = before.reverse ++ bytes.data.toList.drop i := by
  fun_induction ByteArray.toList.loop bytes i before with
  | case1 i before inside ih =>
    have bound : i < bytes.data.toList.length := by simpa using inside
    rw [ih, List.drop_eq_getElem_cons bound]
    simp [ByteArray.get!, inside]
  | case2 i before outside =>
    have done : bytes.data.toList.length ≤ i := by simpa using Nat.le_of_not_lt outside
    rw [List.drop_eq_nil_of_le done, List.append_nil]

/-- The bytes of a string are those of its characters, one after the other. -/
theorem toUTF8_ofList (text : List Char) : (String.ofList text).toUTF8.toList = utf8 text := by
  rw [ByteArray.toList, toList_loop, String.toUTF8, String.toByteArray_ofList, List.utf8Encode,
    List.toList_data_toByteArray]
  rfl

/-! ## Strings -/

namespace Print

/-- A hexadecimal digit is spelled. -/
theorem spellsHex_hexChar {n : Nat} (small : n < 16) :
    ∃ b, String.utf8EncodeChar (hexChar n) = [b] ∧ SpellsHex b n := by
  by_cases decimal : n < 10
  · have all : ∀ n < 10, String.utf8EncodeChar (hexChar n) = [0x30 + n.toUInt8] := by decide
    exact ⟨_, all n decimal, .digit decimal⟩
  · obtain ⟨k, rfl⟩ : ∃ k, n = 10 + k := ⟨n - 10, by omega⟩
    have all : ∀ k < 6, String.utf8EncodeChar (hexChar (10 + k)) = [0x61 + k.toUInt8] := by decide
    exact ⟨_, all k (by omega), .letter (by omega)⟩

/-- A control character is spelled by its number. -/
theorem spellsChar_control {c : Char} (control : c.toNat < 0x20) :
    SpellsChar c
      (utf8 ['\\', 'u', '0', '0', hexChar (c.toNat / 16), hexChar (c.toNat % 16)]) := by
  obtain ⟨high, encodedHigh, spellsHigh⟩ := spellsHex_hexChar (n := c.toNat / 16) (by omega)
  obtain ⟨low, encodedLow, spellsLow⟩ := spellsHex_hexChar (n := c.toNat % 16) (by omega)
  have zero : SpellsHex 0x30 0 := .digit (n := 0) (by decide)
  have unit := SpellsUnit.digits zero zero spellsHigh spellsLow
  have number : ((0 * 16 + 0) * 16 + c.toNat / 16) * 16 + c.toNat % 16 = c.toNat := by omega
  have start : utf8 ['\\', 'u', '0', '0'] = [0x5C, 0x75, 0x30, 0x30] := by decide
  have digits : utf8 [hexChar (c.toNat / 16), hexChar (c.toNat % 16)] = [high, low] := by
    simp [encodedHigh, encodedLow]
  have encoded := utf8_append ['\\', 'u', '0', '0'] [hexChar (c.toNat / 16), hexChar (c.toNat % 16)]
  rw [start, digits] at encoded
  rw [number] at unit
  exact encoded ▸ .unit unit

/-- The characters that are printed with an escape of their own, and the letter of this escape. -/
def shortPrinted : List (Char × UInt8) :=
  [('"', 0x22), ('\\', 0x5C), ('\x08', 0x62), ('\x0C', 0x66), ('\n', 0x6E), ('\r', 0x72),
    ('\t', 0x74)]

/-- A character that is printed with an escape of its own is spelled by it. -/
theorem spellsChar_short {entry : Char × UInt8} (member : entry ∈ shortPrinted) :
    SpellsChar entry.1 (utf8 (stringChar entry.1)) := by
  have all : ∀ entry ∈ shortPrinted, (entry.1.toNat, entry.2) ∈ shortEscapes ∧
      utf8 (stringChar entry.1) = [0x5C, entry.2] := by decide
  obtain ⟨short, encoded⟩ := all entry member
  rw [encoded]
  exact .short short

/-- Any other character is printed by its number if it is a control character, or as it is. -/
theorem stringChar_of_others {c : Char} (others : ∀ entry ∈ shortPrinted, entry.1 ≠ c) :
    stringChar c =
      if c.toNat < 0x20 then
        ['\\', 'u', '0', '0', hexChar (c.toNat / 16), hexChar (c.toNat % 16)]
      else [c] := by
  simp only [shortPrinted, List.forall_mem_cons, ne_comm (b := c)] at others
  simp [stringChar, others]

/-- A character is spelled as it is printed. -/
theorem spellsChar_stringChar (c : Char) : SpellsChar c (utf8 (stringChar c)) := by
  by_cases short : ∃ entry ∈ shortPrinted, entry.1 = c
  · obtain ⟨entry, member, rfl⟩ := short
    exact spellsChar_short member
  · have others : ∀ entry ∈ shortPrinted, entry.1 ≠ c :=
      fun entry member same => short ⟨entry, member, same⟩
    rw [stringChar_of_others others]
    by_cases control : c.toNat < 0x20
    · rw [if_pos control]
      exact spellsChar_control control
    · have noQuote : '"' ≠ c := others ('"', 0x22) (by decide)
      have noBackslash : '\\' ≠ c := others ('\\', 0x5C) (by decide)
      have plain : c.toNat ≠ 0x22 ∧ c.toNat ≠ 0x5C ∧ 0x20 ≤ c.toNat :=
        ⟨fun same => noQuote (Char.toNat_inj.1 same.symm),
          fun same => noBackslash (Char.toNat_inj.1 same.symm), Nat.le_of_not_lt control⟩
      rw [if_neg control]
      simpa using SpellsChar.plain plain

/-- The characters of a text are spelled as they are printed. -/
theorem spellsChars_stringChar (text : List Char) :
    SpellsChars text (utf8 (text.flatMap stringChar)) := by
  induction text with
  | nil => exact .nil
  | cons c text ih =>
    rw [List.flatMap_cons, utf8_append]
    exact .cons (spellsChar_stringChar c) ih

/-- A string is spelled as it is printed. -/
theorem spellsString_string (text : String) : SpellsString text (utf8 (string text)) := by
  have quote : String.utf8EncodeChar '"' = [0x22] := by decide
  have quoted := SpellsString.quoted (spellsChars_stringChar text.toList)
  simpa [string, quote] using quoted

/-! ## Counts -/

/-- A decimal digit is spelled by one byte, which has its value. -/
theorem utf8_digit {c : Char} (digit : c.isDigit = true) :
    ∃ b, String.utf8EncodeChar c = [b] ∧ (0x30 ≤ b ∧ b ≤ 0x39) ∧
      Number.digitValue b = c.toNat - '0'.toNat ∧ (c ≠ '0' → 0x31 ≤ b) := by
  have bounds : 48 ≤ c.toNat ∧ c.toNat ≤ 57 := by
    simpa [Char.isDigit, UInt32.le_iff_toNat_le] using digit
  obtain ⟨k, small, rfl⟩ : ∃ k < 10, c = Char.ofNat (48 + k) :=
    ⟨c.toNat - 48, by omega, by
      rw [show 48 + (c.toNat - 48) = c.toNat by omega, Char.ofNat_toNat]⟩
  have all : ∀ k < 10, String.utf8EncodeChar (Char.ofNat (48 + k)) = [0x30 + k.toUInt8] ∧
      ((0x30 : UInt8) ≤ 0x30 + k.toUInt8 ∧ 0x30 + k.toUInt8 ≤ 0x39) ∧
      Number.digitValue (0x30 + k.toUInt8) = (Char.ofNat (48 + k)).toNat - '0'.toNat ∧
      (Char.ofNat (48 + k) ≠ '0' → 0x31 ≤ 0x30 + k.toUInt8) := by decide
  exact ⟨_, all k small⟩

/-- Decimal digits are spelled one after the other, with their values. -/
theorem utf8_digits {text : List Char} (digits : ∀ c ∈ text, c.isDigit = true) :
    Digits (utf8 text) ∧ (utf8 text).length = text.length ∧
      (utf8 text).map Number.digitValue = text.map fun c => c.toNat - '0'.toNat := by
  induction text with
  | nil => exact ⟨by simp [Digits], rfl, rfl⟩
  | cons c text ih =>
    obtain ⟨b, encoded, digit, value, -⟩ := utf8_digit (digits c List.mem_cons_self)
    obtain ⟨others, length, values⟩ := ih fun c member => digits c (List.mem_cons_of_mem _ member)
    rw [utf8_cons, encoded, List.singleton_append]
    exact ⟨List.forall_mem_cons.2 ⟨digit, others⟩, by simp [length], by simp [value, values]⟩

/-- The digits of a positive number start with no zero. -/
theorem toDigits_head {n : Nat} (positive : 0 < n) :
    ∃ first others, Nat.toDigits 10 n = first :: others ∧ first ≠ '0' := by
  induction n using Nat.strongRecOn with
  | ind n ih =>
    rw [Nat.toDigits_eq_if (by decide)]
    by_cases small : n < 10
    · rw [if_pos small]
      have all : ∀ n < 10, 0 < n → n.digitChar ≠ '0' := by decide
      exact ⟨_, [], rfl, all n small positive⟩
    · obtain ⟨first, others, digits, noZero⟩ := ih (n / 10) (by omega) (by omega)
      rw [if_neg small, digits]
      exact ⟨first, _, rfl, noZero⟩

end Print

/-- Digits only add to a number. -/
theorem Number.le_ofDigitChars (text : List Char) (value : Nat) :
    value ≤ Nat.ofDigitChars 10 text value := by
  induction text generalizing value with
  | nil => exact Nat.le_refl value
  | cons c text ih =>
    rw [Nat.ofDigitChars_cons]
    have grows := ih (10 * value + (c.toNat - '0'.toNat))
    omega

/-- Digits are all appended if the number that they come to has 64 bits. -/
theorem Number.append_ofDigitChars (text : List Char) (value : Nat)
    (fits : Nat.ofDigitChars 10 text value ≤ largest) :
    append value (text.map fun c => c.toNat - '0'.toNat) =
      (Nat.ofDigitChars 10 text value, text.length) := by
  induction text generalizing value with
  | nil => rfl
  | cons c text ih =>
    rw [Nat.ofDigitChars_cons, Nat.mul_comm] at fits ⊢
    have small := le_ofDigitChars text (value * 10 + (c.toNat - '0'.toNat))
    rw [List.map_cons, append, if_pos (Nat.le_trans small fits), ih _ fits]
    rfl

namespace Print

/-- The digits of a positive count are those of the grammar. -/
theorem utf8_count {n : Nat} (positive : 0 < n) :
    ∃ first others, utf8 (count n) = first :: others ∧ (0x31 ≤ first ∧ first ≤ 0x39) ∧
      Digits others ∧ others.length + 1 = (count n).length ∧
      (first :: others).map Number.digitValue = (count n).map fun c => c.toNat - '0'.toNat := by
  obtain ⟨c, text, digits, noZero⟩ := toDigits_head positive
  have decimal : ∀ d ∈ c :: text, d.isDigit = true := by
    rw [← digits]
    exact fun d member => Nat.isDigit_of_mem_toDigits (by decide) (by decide) member
  obtain ⟨first, encoded, digit, value, leads⟩ := utf8_digit (decimal c List.mem_cons_self)
  obtain ⟨others, length, values⟩ :=
    utf8_digits fun d member => decimal d (List.mem_cons_of_mem _ member)
  rw [count, digits]
  exact ⟨first, utf8 text, by rw [utf8_cons, encoded]; rfl, ⟨leads noZero, digit.2⟩, others,
    by rw [length]; rfl, by rw [List.map_cons, List.map_cons, value, values]⟩

/-- A count is spelled as it is printed. -/
theorem spellsNumber_count (n : Nat) : SpellsNumber (utf8 (count n)) := by
  have alone {digits : List UInt8} (integer : SpellsInteger digits) : SpellsNumber digits := by
    simpa using SpellsNumber.unsigned (.parts integer .none .none)
  rcases Nat.eq_zero_or_pos n with rfl | positive
  · exact alone .zero
  · obtain ⟨first, others, encoded, leads, digits, -⟩ := utf8_count positive
    rw [encoded]
    exact alone (.positive leads digits)

/-- A count of 64 bits is what its printed digits stand for. -/
theorem count?_count {n : Nat} (fits : n < UInt64.size) :
    Tree.count? (.number (utf8 (count n))) = some n := by
  have decoded : decodeNumber (utf8 (count n)) = some (.natural n) := by
    rcases Nat.eq_zero_or_pos n with rfl | positive
    · rfl
    · obtain ⟨first, others, encoded, leads, digits, length, values⟩ := utf8_count positive
      have whole : Nat.ofDigitChars 10 (count n) 0 = n :=
        Nat.ofDigitChars_toDigits (by decide) (by decide)
      rw [encoded]
      refine decodeNumber_integer leads digits ?_
      rw [values, length, Number.append_ofDigitChars (count n) 0, whole]
      rw [whole, Number.largest]
      exact Nat.le_sub_one_of_lt fits
  rw [Tree.count?, Tree.number?, decoded]

/-! ## Lists and objects -/

variable {β : Type} {tree : Tree} {trees : List Tree} {members : List (String × Tree)}
  {part : List Char} {parts : List (List Char)}

/-- Parts with commas between them are spelled in order, whatever they are parts of. -/
theorem spelled_separated (Part : β → List UInt8 → Prop)
    {Parts : Bool → List β → List UInt8 → Prop} (nil : ∀ isFirst, Parts isFirst [] [])
    (cons : ∀ {isFirst lead value bytes values rest}, Lead isFirst lead → Part value bytes →
      Parts false values rest → Parts isFirst (value :: values) (lead ++ bytes ++ rest))
    {values : List β}
    (spelled : List.Forall₂ (fun value part => Part value (utf8 part)) values parts) :
    Parts true values (utf8 (separated parts)) := by
  -- From any part on, behind whatever leads to it.
  have onward {value part values parts} (own : Part value (utf8 part))
      (others : List.Forall₂ (fun value part => Part value (utf8 part)) values parts) :
      ∀ {isFirst lead}, Lead isFirst lead →
        Parts isFirst (value :: values) (lead ++ utf8 (separated (part :: parts))) := by
    induction others generalizing value part with
    | nil =>
      intro isFirst lead leads
      simpa [separated] using cons leads own (nil false)
    | @cons next nextPart values parts first others ih =>
      intro isFirst lead leads
      have comma : Lead false (utf8 [',']) := .later blank_nil blank_nil
      have separate : separated (part :: nextPart :: parts) =
        part ++ ([','] ++ separated (nextPart :: parts)) := rfl
      rw [separate, utf8_append, utf8_append, ← List.append_assoc]
      exact cons leads own (ih first comma)
  cases spelled with
  | nil => exact nil true
  | cons first others => exact onward first others (.first blank_nil)

/-- A list is spelled as it is printed if its elements are. -/
theorem spells_list
    (spelled : List.Forall₂ (fun tree part => Spells tree (utf8 part)) trees parts) :
    Spells (.list trees) (utf8 (list parts)) := by
  have inside : SpellsElements true trees (utf8 (separated parts)) :=
    spelled_separated Spells (fun _ => .nil blank_nil) .cons spelled
  have opening : String.utf8EncodeChar '[' = [0x5B] := by decide
  have closing : String.utf8EncodeChar ']' = [0x5D] := by decide
  simpa [list, opening, closing] using Spells.list inside

/-- A member without blanks. -/
def SpellsMember (member : String × Tree) (bytes : List UInt8) : Prop :=
  ∃ name value, SpellsString member.1 name ∧ Spells member.2 value ∧
    bytes = name ++ 0x3A :: value

/-- A member has the key that is printed, and its value is spelled as it is printed. -/
def Shows (member : String × Tree) (part : String × List Char) : Prop :=
  member.1 = part.1 ∧ Spells member.2 (utf8 part.2)

/-- A member is spelled as it is printed if its value is. -/
theorem spellsMember_member {shown : String × Tree} {part : String × List Char}
    (shows : Shows shown part) : SpellsMember shown (utf8 (member part.1 part.2)) := by
  obtain ⟨key, value⟩ := shows
  have colon : String.utf8EncodeChar ':' = [0x3A] := by decide
  refine ⟨utf8 (string part.1), utf8 part.2, key ▸ spellsString_string part.1, value, ?_⟩
  simp [member, colon]

/-- An object is spelled as it is printed if the values of its members are. -/
theorem spells_object {parts : List (String × List Char)}
    (spelled : List.Forall₂ Shows members parts) :
    Spells (.object members) (utf8 (object parts)) := by
  have inside : SpellsMembers true members
      (utf8 (separated (parts.map fun part => member part.1 part.2))) := by
    refine spelled_separated SpellsMember (fun _ => .nil blank_nil) ?_ ?_
    · rintro isFirst lead ⟨key, tree⟩ bytes members rest leads ⟨name, value, names, first, rfl⟩
        others
      simpa using SpellsMembers.cons leads names blank_nil blank_nil first others
    · exact List.forall₂_map_right_iff.2 (spelled.imp fun _ _ => spellsMember_member)
  have opening : String.utf8EncodeChar '\x7b' = [0x7B] := by decide
  have closing : String.utf8EncodeChar '\x7d' = [0x7D] := by decide
  simpa [object, opening, closing] using Spells.object inside

/-- A member for a value that may be left out. -/
def memberOf (key : String) (tree : Option Tree) : List (String × Tree) :=
  tree.toList.map fun tree => (key, tree)

/-- A member that is left out when it has no value is spelled as it is printed. -/
theorem shows_optional (key : String) {tree : β → Tree} {text : β → List Char}
    (spelled : ∀ value, Spells (tree value) (utf8 (text value))) (value : Option β) :
    List.Forall₂ Shows (memberOf key (value.map tree)) (optional key (value.map text)) := by
  cases value with
  | none => exact .nil
  | some value => exact .cons ⟨rfl, spelled value⟩ .nil

end Print

/-! ## Reading what was printed -/

/-- What is printed is read back as what its document says. -/
theorem readDocument_utf8 {α : Type} {reader : Reader α} {decode : Tree → Option α} {tree : Tree}
    {text : List Char} {value : α} (understands : Understands reader decode)
    (spells : Spells tree (utf8 text)) (decoded : decode tree = some value) :
    readDocument reader (String.ofList text).toUTF8.toList = .ok value := by
  have document : SpellsDocument tree (utf8 text) := by
    simpa using SpellsDocument.value blank_nil spells blank_nil
  have read := readDocument_eq understands document
  rw [toUTF8_ofList]
  rw [decoded] at read
  cases result : readDocument reader (utf8 text) with
  | error fault =>
    rw [result] at read
    cases read
  | ok found =>
    rw [result] at read
    cases read
    rfl

end Matryoshka.Json
