import Matryoshka.Json.Value
import Matryoshka.Proofs.Json.Numbers
import Matryoshka.Proofs.Json.Records

/-!
# Values of any type are read as they are spelled

A value whose type is not known is kept as the document says it (`Tree.value?`), unless a number in
it is too large or its brackets are nested too deeply. The reader has two kinds of bounds: levels,
which are counted against the tree, and fuel, of which a document never needs more than two for
each of its bytes (`readWithin_eq`). A choice from a table is read off a string, or off an object
whose only key makes the choice (`understands_readChoice`).
-/

namespace Matryoshka.Json

/-! ## What a document says about a value of any type -/

namespace Tree

mutual

/-- The value that is kept, if it opens fewer than `levels` brackets inside each other. -/
def value? (levels : Nat) : Tree → Option Value
  | null => some .null
  | bool value => some (.bool value)
  | number literal => (decodeNumber literal).map .number
  | string text => some (.string text)
  | list elements => if levels ≤ 1 then none else (elements? (levels - 1) elements).map .list
  | object members => if levels ≤ 1 then none else (members? (levels - 1) members).map .object

/-- The elements that are kept. -/
def elements? (levels : Nat) : List Tree → Option (List Value)
  | [] => some []
  | tree :: trees =>
    (value? levels tree).bind fun value => (elements? levels trees).map (value :: ·)

/-- The members that are kept, in order and with their keys. -/
def members? (levels : Nat) : List (String × Tree) → Option (List (String × Value))
  | [] => some []
  | (key, tree) :: members =>
    (value? levels tree).bind fun value => (members? levels members).map ((key, value) :: ·)

end

end Tree

variable {p : Place} {blank bytes rest : List UInt8} {tree : Tree} {trees : List Tree}
  {members : List (String × Tree)} {isFirst : Bool}

/-! ## Values without brackets -/

/-- A word stands for its value. -/
theorem readWordAs_eq (letters : String) (value : Value) (p : Place) (rest : List UInt8) :
    Value.readWordAs letters value ⟨p, Cursor.ascii letters ++ rest⟩ =
      .ok (value, ⟨p.past (Cursor.ascii letters), rest⟩) := by
  rw [Value.readWordAs, readWord_eq]

/-- The first byte of a number is that of no word. -/
theorem no_word_of_starts {first : UInt8}
    (starts : (first = 0x2D || Number.isDigit first) = true) :
    first ≠ 0x6E ∧ first ≠ 0x74 ∧ first ≠ 0x66 := by
  refine ⟨?_, ?_, ?_⟩ <;> rintro rfl <;> cases starts

/-- A value that is neither a list nor an object is kept. -/
theorem readScalar_eq {first : UInt8} {others : List UInt8} (spells : Spells tree (first :: others))
    (scalar : first ≠ 0x5B ∧ first ≠ 0x7B) (follows : Follows rest) (levels : Nat) (p : Place) :
    Yields (tree.value? levels) ⟨p.past (first :: others), rest⟩
      (Value.readScalar first ⟨p, first :: (others ++ rest)⟩) := by
  cases spells with
  | null => exact readWordAs_eq "ull" .null (p.after 0x6E) rest
  | yes => exact readWordAs_eq "rue" (.bool true) (p.after 0x74) rest
  | no => exact readWordAs_eq "alse" (.bool false) (p.after 0x66) rest
  | number number =>
    have starts : (first = 0x2D || Number.isDigit first) = true := by
      simpa using first_of_number number
    obtain ⟨noNull, noTrue, noFalse⟩ := no_word_of_starts starts
    have own := read_number number follows p
    rw [List.cons_append] at own
    rw [Value.readScalar, if_neg noNull, if_neg noTrue, if_neg noFalse, if_pos starts, Tree.value?]
    obtain ⟨value, decoded, read⟩ | ⟨decoded, stop, refused⟩ := own.read_or_refused
    · simp [decoded, read]
    · simp [decoded, refused]
  | string string =>
    cases string with
    | quoted inside =>
      simp [Tree.value?, Value.readScalar, Number.isDigit, Cursor.eat, Quoted.readRest_eq inside]
  | list => exact absurd rfl scalar.1
  | object => exact absurd rfl scalar.2

/-! ## Lists and objects -/

/-- A value that is neither a list nor an object is kept, with the blanks before it. -/
theorem readWithin_scalar (spells : Spells tree bytes) (only : Blank blank) (follows : Follows rest)
    (scalar : ∀ b ∈ bytes.head?, b ≠ 0x5B ∧ b ≠ 0x7B) (levels fuel : Nat) (p : Place) :
    Yields (tree.value? levels) ⟨(p.past blank).past bytes, rest⟩
      (Value.readWithin levels (fuel + 1) ⟨p, blank ++ (bytes ++ rest)⟩) := by
  obtain ⟨first, others, rfl, starts⟩ := spells.head
  have own := scalar first rfl
  have start := skipBlank_cons only starts.1 p (others ++ rest)
  rw [List.cons_append, Value.readWithin]
  simp only [start]
  simpa [own] using readScalar_eq spells own follows levels (p.past blank)

/-- A list is kept if its elements are and there is a level left for it. -/
theorem readWithin_list (only : Blank blank) (levels fuel : Nat) (p : Place)
    (inside : Yields (Tree.elements? (levels - 1) trees)
      ⟨((p.past blank).after 0x5B).past bytes, 0x5D :: rest⟩
      (Value.readElementsWithin (levels - 1) true fuel
        ⟨(p.past blank).after 0x5B, bytes ++ 0x5D :: rest⟩)) :
    Yields (Tree.value? levels (.list trees))
      ⟨(((p.past blank).after 0x5B).past bytes).after 0x5D, rest⟩
      (Value.readWithin levels (fuel + 1) ⟨p, blank ++ 0x5B :: (bytes ++ 0x5D :: rest)⟩) := by
  have start := skipBlank_cons only (show Cursor.isBlankByte 0x5B = false from rfl) p
    (bytes ++ 0x5D :: rest)
  have finished := inside.finish .list blank_nil
  rw [Value.readWithin, Tree.value?]
  simp only [start]
  by_cases deep : levels ≤ 1
  · simp [deep, stopAt]
  · obtain ⟨values, decoded, read⟩ | ⟨decoded, stop, refused⟩ := finished.read_or_refused
    · simp [deep, decoded, Cursor.eat, read, Bracket.closing]
    · simp [deep, decoded, Cursor.eat, refused]

/-- An object is kept if its members are and there is a level left for it. -/
theorem readWithin_object (only : Blank blank) (levels fuel : Nat) (p : Place)
    (inside : Yields (Tree.members? (levels - 1) members)
      ⟨((p.past blank).after 0x7B).past bytes, 0x7D :: rest⟩
      (Value.readMembersWithin (levels - 1) true fuel
        ⟨(p.past blank).after 0x7B, bytes ++ 0x7D :: rest⟩)) :
    Yields (Tree.value? levels (.object members))
      ⟨(((p.past blank).after 0x7B).past bytes).after 0x7D, rest⟩
      (Value.readWithin levels (fuel + 1) ⟨p, blank ++ 0x7B :: (bytes ++ 0x7D :: rest)⟩) := by
  have start := skipBlank_cons only (show Cursor.isBlankByte 0x7B = false from rfl) p
    (bytes ++ 0x7D :: rest)
  have finished := inside.finish .object blank_nil
  rw [Value.readWithin, Tree.value?]
  simp only [start]
  by_cases deep : levels ≤ 1
  · simp [deep, stopAt]
  · obtain ⟨values, decoded, read⟩ | ⟨decoded, stop, refused⟩ := finished.read_or_refused
    · simp [deep, decoded, Cursor.eat, read, Bracket.closing]
    · simp [deep, decoded, Cursor.eat, refused]

mutual

/-- A value is kept as its document says it. Two units of fuel for each byte are enough. -/
theorem readWithin_eq {tree : Tree} {bytes : List UInt8} (spells : Spells tree bytes) :
    ∀ (levels fuel : Nat) (p : Place) {blank rest : List UInt8}, Blank blank →
      Follows rest → 2 * bytes.length ≤ fuel →
      Yields (tree.value? levels) ⟨(p.past blank).past bytes, rest⟩
        (Value.readWithin levels fuel ⟨p, blank ++ (bytes ++ rest)⟩) := by
  intro levels fuel p blank rest only follows enough
  -- Only lists and objects are read through their elements and members.
  have keeps_scalar (scalar : ∀ b ∈ bytes.head?, b ≠ 0x5B ∧ b ≠ 0x7B) :
      Yields (tree.value? levels) ⟨(p.past blank).past bytes, rest⟩
        (Value.readWithin levels fuel ⟨p, blank ++ (bytes ++ rest)⟩) := by
    obtain ⟨first, others, rfl, -⟩ := spells.head
    rw [List.length_cons] at enough
    obtain ⟨fuel, rfl⟩ : ∃ n, fuel = n + 1 := ⟨fuel - 1, by omega⟩
    exact readWithin_scalar spells only follows scalar levels fuel p
  match spells with
  | .null => exact keeps_scalar (forall_head? ⟨by decide, by decide⟩)
  | .yes => exact keeps_scalar (forall_head? ⟨by decide, by decide⟩)
  | .no => exact keeps_scalar (forall_head? ⟨by decide, by decide⟩)
  | .number number =>
    refine keeps_scalar fun b head => ?_
    obtain ⟨first, others, rfl, digit⟩ := head_of_number number
    obtain rfl : first = b := by simpa using head
    constructor <;> rintro rfl <;> simp [Number.isDigit] at digit
  | .string string =>
    cases string
    exact keeps_scalar (by simp)
  | @Spells.list elements bytes inside =>
    simp only [List.length_cons, List.length_append, List.length_nil] at enough
    obtain ⟨fuel, rfl⟩ : ∃ n, fuel = n + 1 := ⟨fuel - 1, by omega⟩
    have read := readElementsWithin_eq inside (levels - 1) fuel ((p.past blank).after 0x5B) rest
      (by omega)
    simpa using readWithin_list only levels fuel p read
  | @Spells.object members bytes inside =>
    simp only [List.length_cons, List.length_append, List.length_nil] at enough
    obtain ⟨fuel, rfl⟩ : ∃ n, fuel = n + 1 := ⟨fuel - 1, by omega⟩
    have read := readMembersWithin_eq inside (levels - 1) fuel ((p.past blank).after 0x7B) rest
      (by omega)
    simpa using readWithin_object only levels fuel p read

/-- The elements of a list are kept one after the other. -/
theorem readElementsWithin_eq {isFirst : Bool} {trees : List Tree} {bytes : List UInt8}
    (inside : SpellsElements isFirst trees bytes) (levels fuel : Nat) (p : Place)
    (rest : List UInt8) (enough : 2 * bytes.length < fuel) :
    Yields (Tree.elements? levels trees) ⟨p.past bytes, 0x5D :: rest⟩
      (Value.readElementsWithin levels isFirst fuel ⟨p, bytes ++ 0x5D :: rest⟩) := by
  obtain ⟨fuel, rfl⟩ : ∃ n, fuel = n + 1 := ⟨fuel - 1, by omega⟩
  match inside with
  | .nil only =>
    have found := next_close only .list isFirst p rest
    rw [Bracket.closing] at found
    simp [Value.readElementsWithin, found, Tree.elements?]
  | @SpellsElements.cons _ tree trees lead bytes more leads first others =>
    have ends : Follows (0x5D :: rest) := by simp [Follows]
    have found := next_element leads first .list p (more ++ 0x5D :: rest)
    have filled : 0 < bytes.length := by
      obtain ⟨head, tail, rfl, -⟩ := first.head
      exact Nat.succ_pos _
    simp only [List.length_append] at enough
    have own := readWithin_eq first levels fuel (p.past lead) blank_nil (others.follows ends)
      (by omega)
    have later := readElementsWithin_eq others levels fuel ((p.past lead).past bytes) rest
      (by omega)
    simp only [List.append_assoc, List.nil_append, Place.past_nil, Place.past_append,
      Value.readElementsWithin, found, Tree.elements?] at own ⊢
    obtain ⟨value, decoded, read⟩ | ⟨decoded, stop, refused⟩ := own.read_or_refused
    · rw [decoded, read]
      obtain ⟨values, decoded, read⟩ | ⟨decoded, stop, refused⟩ := later.read_or_refused
      · simp [decoded, read]
      · simp [decoded, refused]
    · simp [decoded, refused]

/-- The members of an object are kept one after the other. -/
theorem readMembersWithin_eq {isFirst : Bool} {members : List (String × Tree)} {bytes : List UInt8}
    (inside : SpellsMembers isFirst members bytes) (levels fuel : Nat) (p : Place)
    (rest : List UInt8) (enough : 2 * bytes.length < fuel) :
    Yields (Tree.members? levels members) ⟨p.past bytes, 0x7D :: rest⟩
      (Value.readMembersWithin levels isFirst fuel ⟨p, bytes ++ 0x7D :: rest⟩) := by
  obtain ⟨fuel, rfl⟩ : ∃ n, fuel = n + 1 := ⟨fuel - 1, by omega⟩
  match inside with
  | .nil only =>
    have found := next_close only .object isFirst p rest
    rw [Bracket.closing] at found
    simp [Value.readMembersWithin, found, Tree.members?]
  | @SpellsMembers.cons _ key tree members lead name before after bytes more leads names behind
      ahead first others =>
    have ends : Follows (0x7D :: rest) := by simp [Follows]
    cases names with
    | @quoted inside chars =>
      have found := next_lead leads starts_quote .object p
      have key (rest : List UInt8) := Quoted.readRest_eq chars ((p.past lead).after 0x22) rest
      simp only [List.length_append, List.length_cons] at enough
      have own := readWithin_eq first levels fuel
        ((((((p.past lead).after 0x22).past inside).after 0x22).past before).after 0x3A) ahead
        (others.follows ends) (by omega)
      have later := readMembersWithin_eq others levels fuel
        ((((((((p.past lead).after 0x22).past inside).after 0x22).past before).after 0x3A).past
          after).past bytes) rest (by omega)
      simp only [List.append_assoc, List.cons_append, List.nil_append, Place.past_append,
        Place.past_cons, Value.readMembersWithin, found, Cursor.eat, key, readColon_eq behind,
        Tree.members?] at own ⊢
      obtain ⟨value, decoded, read⟩ | ⟨decoded, stop, refused⟩ := own.read_or_refused
      · simp only [decoded, read]
        obtain ⟨values, decoded, read⟩ | ⟨decoded, stop, refused⟩ := later.read_or_refused
        · simp [decoded, read]
        · simp [decoded, refused]
      · simp [decoded, refused]

end

/-- Values of any type are kept as their documents say them. -/
theorem understands_value (outer : Nat) :
    Understands (Value.read outer) (Tree.value? (Value.deepest - outer)) := by
  intro tree bytes spells p blank rest only follows
  refine readWithin_eq spells _ _ p only follows ?_
  simp only [List.length_append]
  omega

/-! ## Choices -/

variable {α : Type} {before name : List UInt8} {key : String}

/-- The choice that a name makes, or an object whose only key is the name. -/
def Tree.choice? (table : List (String × α)) : Tree → Option α
  | .string name => table.lookup name
  | .object [(name, .null)] => table.lookup name
  | _ => none

/-- A name is looked up, whatever follows it. -/
theorem readName_eq (table : List (String × α)) (names : SpellsString key name)
    (only : Blank blank) (p : Place) (rest : List UInt8) :
    Yields (table.lookup key) ⟨(p.past blank).past name, rest⟩
      (readName table ⟨p, blank ++ (name ++ rest)⟩) := by
  cases names with
  | @quoted inside chars =>
    have start := skipBlank_cons only (show Cursor.isBlankByte 0x22 = false from rfl) p
    have read := Quoted.readRest_eq chars ((p.past blank).after 0x22) rest
    cases found : table.lookup key with
    | some value =>
      simp [readName, readStringAs, readByFirst, start, Cursor.eat, read, chooseByName, found]
    | none =>
      simp [readName, readStringAs, readByFirst, start, Cursor.eat, read, chooseByName, found,
        stopAt]

/-- A closing brace is no name. -/
theorem readName_close (table : List (String × α)) (only : Blank blank) (p : Place)
    (rest : List UInt8) : ∃ stop, readName table ⟨p, blank ++ 0x7D :: rest⟩ = .error stop := by
  have start := skipBlank_cons only (show Cursor.isBlankByte 0x7D = false from rfl) p rest
  obtain ⟨stop, refused⟩ := refuseValue_error (α := String × Cursor) "variant identifier"
    ⟨p.past blank, 0x7D :: rest⟩ 0x7D
  exact ⟨stop, by simp [readName, readStringAs, readByFirst, start, refused]⟩

/-- Nothing is what stands behind the name of a choice. -/
theorem readUnit_null (only : Blank blank) (p : Place) (rest : List UInt8) :
    readUnit ⟨p, blank ++ (Cursor.ascii "null" ++ rest)⟩ =
      .ok ⟨(p.past blank).past (Cursor.ascii "null"), rest⟩ := by
  have letters : Cursor.ascii "null" = 0x6E :: Cursor.ascii "ull" := rfl
  have start := skipBlank_cons only (show Cursor.isBlankByte 0x6E = false from rfl) p
    (Cursor.ascii "ull" ++ rest)
  simp [readUnit, letters, start, Cursor.eat, readWord_eq]

/-- Any other value is refused there. -/
theorem readUnit_other (spells : Spells tree bytes) (other : tree ≠ .null) (only : Blank blank)
    (p : Place) (rest : List UInt8) :
    ∃ stop, readUnit ⟨p, blank ++ (bytes ++ rest)⟩ = .error stop := by
  obtain ⟨first, others, rfl, starts⟩ := spells.head
  have start := skipBlank_cons only starts.1 p (others ++ rest)
  obtain ⟨same, -⟩ | ⟨-, noWord⟩ := spells.head_word (α := Unit)
  · exact absurd same other
  · have noWord : first ≠ 0x6E := noWord first rfl
    obtain ⟨stop, refused⟩ := refuseValue_error (α := Cursor) "unit"
      ⟨p.past blank, first :: (others ++ rest)⟩ first
    exact ⟨stop, by simp [readUnit, start, noWord, refused]⟩

/-- A value that is neither a string nor an object makes no choice. -/
theorem readChoice_other (table : List (String × α)) (spells : Spells tree bytes)
    (noName : ∀ b ∈ bytes.head?, b ≠ 0x22 ∧ b ≠ 0x7B) (only : Blank blank) (p : Place)
    (rest : List UInt8) : ∃ stop, readChoice table ⟨p, blank ++ (bytes ++ rest)⟩ = .error stop := by
  obtain ⟨first, others, rfl, starts⟩ := spells.head
  obtain ⟨noQuote, noBrace⟩ := noName first rfl
  have start := skipBlank_cons only starts.1 p (others ++ rest)
  refine ⟨.fault ⟨.valueExpected, (p.past blank).after first⟩, ?_⟩
  simp [readChoice, start, noQuote, noBrace, stopAt, Cursor.ahead, Cursor.eat]

/-- An object makes no choice unless its first key does and nothing stands behind this key. -/
theorem choice?_object {table : List (String × α)}
    (fails : tree = .null → table.lookup key = none) :
    Tree.choice? table (.object ((key, tree) :: members)) = none := by
  unfold Tree.choice?
  split
  · rename_i same
    cases same
  · rename_i same
    cases same
    exact fails rfl
  · rfl

/-- An object makes a choice if its only key does, and if nothing stands behind this key. -/
theorem readChoice_object (table : List (String × α)) (inside : SpellsMembers true members bytes)
    (only : Blank blank) (p : Place) (rest : List UInt8) :
    Yields (Tree.choice? table (.object members))
      ⟨(((p.past blank).after 0x7B).past bytes).after 0x7D, rest⟩
      (readChoice table ⟨p, blank ++ 0x7B :: (bytes ++ 0x7D :: rest)⟩) := by
  have start := skipBlank_cons only (show Cursor.isBlankByte 0x7B = false from rfl) p
    (bytes ++ 0x7D :: rest)
  simp only [readChoice, start, Cursor.eat]
  cases inside with
  | nil none =>
    obtain ⟨stop, refused⟩ := readName_close table none ((p.past blank).after 0x7B) rest
    simp [refused, Tree.choice?]
  | @cons _ key tree members lead name before after bytes more leads names behind ahead first
      others =>
    cases leads with
    | first onlyLead =>
      have own := readName_eq table names onlyLead ((p.past blank).after 0x7B)
        (before ++ 0x3A :: (after ++ (bytes ++ (more ++ 0x7D :: rest))))
      simp only [List.append_assoc, List.cons_append]
      obtain ⟨value, found, read⟩ | ⟨unknown, stop, refused⟩ := own.read_or_refused
      · simp only [read, readColon_eq behind]
        by_cases nothing : tree = .null
        · subst nothing
          cases first with
          | null =>
            simp only [readUnit_null ahead]
            -- What follows is the brace, or the comma before another member.
            cases others with
            | nil blank =>
              simp [skipBlank_cons blank (show Cursor.isBlankByte 0x7D = false from rfl),
                Tree.choice?, found]
            | cons leads =>
              cases leads with
              | later blank =>
                simp [skipBlank_cons blank (show Cursor.isBlankByte 0x2C = false from rfl),
                  Tree.choice?, stopAt]
        · obtain ⟨stop, refused⟩ := readUnit_other first nothing ahead
            ((((((p.past blank).after 0x7B).past lead).past name).past before).after 0x3A)
            (more ++ 0x7D :: rest)
          rw [choice?_object fun null => absurd null nothing]
          simp only [refused]
          exact ⟨stop, rfl⟩
      · rw [choice?_object fun _ => unknown]
        simp only [refused]
        exact ⟨stop, rfl⟩

/-- Choices are made by name. -/
theorem understands_readChoice (table : List (String × α)) :
    Understands (readChoice table) (Tree.choice? table) := by
  intro tree bytes spells p blank rest only follows
  cases spells with
  | string string =>
    have own := readName_eq table string blank_nil (p.past blank) rest
    cases string with
    | quoted inside =>
      have start := skipBlank_cons only (show Cursor.isBlankByte 0x22 = false from rfl) p
      simpa [readChoice, start, Tree.choice?] using own
  | object inside => simpa using readChoice_object table inside only p rest
  | null => exact readChoice_other table .null (forall_head? ⟨by decide, by decide⟩) only p rest
  | yes => exact readChoice_other table .yes (forall_head? ⟨by decide, by decide⟩) only p rest
  | no => exact readChoice_other table .no (forall_head? ⟨by decide, by decide⟩) only p rest
  | list inside =>
    exact readChoice_other table (.list inside) (forall_head? ⟨by decide, by decide⟩) only p rest
  | number number =>
    obtain ⟨first, others, rfl, digit⟩ := head_of_number number
    refine readChoice_other table (.number number) (forall_head? ?_) only p rest
    constructor <;> rintro rfl <;> simp [Number.isDigit] at digit

end Matryoshka.Json
