import Matryoshka.Json.Read
import Matryoshka.Proofs.Json.Skipping

/-!
# Readers read what is said

A reader understands documents when what it makes of a value depends on what the value says alone,
and not on how it is written or where it stands (`Understands`): it gives what a decoder gives for
the tree and stops right behind the value, or it refuses the value where the decoder does. Readers
that are put together from such readers understand documents as well.
-/

namespace Matryoshka.Json

variable {α β : Type}

/-! ## Understanding -/

/-- What a reader comes to: what was decoded, with the cursor right behind it, or a refusal if there
was nothing to decode. -/
def Yields (decoded : Option α) (behind : Cursor) (result : Except Stop (α × Cursor)) : Prop :=
  match decoded with
  | some value => result = .ok (value, behind)
  | none => ∃ stop, result = .error stop

@[simp]
theorem yields_some_iff {value : α} {behind : Cursor} {result : Except Stop (α × Cursor)} :
    Yields (some value) behind result ↔ result = .ok (value, behind) := Iff.rfl

@[simp]
theorem yields_none_iff {behind : Cursor} {result : Except Stop (α × Cursor)} :
    Yields none behind result ↔ ∃ stop, result = .error stop := Iff.rfl

/-- Either there was something to decode, and it was read, or there was nothing, and it was
refused. -/
theorem Yields.read_or_refused {decoded : Option α} {behind : Cursor}
    {result : Except Stop (α × Cursor)} (yields : Yields decoded behind result) :
    (∃ value, decoded = some value ∧ result = .ok (value, behind)) ∨
      decoded = none ∧ ∃ stop, result = .error stop := by
  cases decoded with
  | none => exact .inr ⟨rfl, yields⟩
  | some value => exact .inl ⟨value, rfl, yields⟩

/-- A reader reads every value as a decoder decodes what the value says. -/
def Understands (reader : Reader α) (decode : Tree → Option α) : Prop :=
  ∀ {tree : Tree} {bytes : List UInt8}, Spells tree bytes →
    ∀ {p : Place} {blank rest : List UInt8}, Blank blank → Follows rest →
      Yields (decode tree) ⟨(p.past blank).past bytes, rest⟩ (reader ⟨p, blank ++ (bytes ++ rest)⟩)

namespace Tree

/-- The text of a string. -/
def string? : Tree → Option String
  | string text => some text
  | _ => none

/-- Nothing, or a value. -/
def optional (decode : Tree → Option α) : Tree → Option (Option α)
  | null => some none
  | tree => (decode tree).map some

/-- The elements of a list. -/
def list? (decode : Tree → Option α) : Tree → Option (List α)
  | list elements => elements.mapM decode
  | _ => none

end Tree

variable {p : Place} {blank bytes rest : List UInt8} {tree : Tree} {trees : List Tree}
  {reader : Reader α} {decode : Tree → Option α}

/-! ## Single values -/

/-- A value that is not the one asked for is always refused. -/
theorem refuseValue_error (expected : String) (c : Cursor) (b : UInt8) :
    ∃ stop, refuseValue (α := α) expected c b = .error stop := by
  have word (letters found : String) (c : Cursor) :
      ∃ stop, refuseWord (α := α) letters found expected c = .error stop := by
    unfold refuseWord
    split
    · exact ⟨_, rfl⟩
    · exact ⟨_, rfl⟩
  unfold refuseValue
  split
  · exact word _ _ _
  split
  · exact word _ _ _
  split
  · exact word _ _ _
  split
  · split
    · exact ⟨_, rfl⟩
    · exact ⟨_, rfl⟩
  split
  · split
    · exact ⟨_, rfl⟩
    · exact ⟨_, rfl⟩
  split
  · exact ⟨_, rfl⟩
  split
  · exact ⟨_, rfl⟩
  · exact ⟨_, rfl⟩

/-- A value is read by its first byte. -/
theorem understands_readByFirst {expected : String} {choose : UInt8 → Option (Reader α)}
    (chosen : ∀ {tree : Tree} {first : UInt8} {others : List UInt8}, Spells tree (first :: others) →
      ∀ {p : Place} {rest : List UInt8}, Follows rest →
        match choose first with
        | some reader =>
          Yields (decode tree) ⟨p.past (first :: others), rest⟩
            (reader ⟨p, first :: (others ++ rest)⟩)
        | none => decode tree = none) :
    Understands (readByFirst expected choose) decode := by
  intro tree bytes spells p blank rest only follows
  obtain ⟨first, others, rfl, starts⟩ := spells.head
  have start := skipBlank_cons only starts.1 p (others ++ rest)
  have own := chosen spells (p := p.past blank) follows
  rw [readByFirst]
  simp only [List.cons_append, start]
  cases choice : choose first with
  | some reader => simpa only [choice] using own
  | none =>
    simp only [choice] at own
    rw [own]
    exact refuseValue_error expected _ _

/-- Strings are read as they are. -/
theorem understands_readStringAs (expected : String) :
    Understands (readStringAs expected) Tree.string? := by
  refine understands_readByFirst fun {tree first others} spells {p rest} follows => ?_
  by_cases quote : first = 0x22
  · subst quote
    cases spells with
    | string string =>
      cases string with
      | quoted inside => simp [Tree.string?, Cursor.eat, Quoted.readRest_eq inside]
    | number number => exact absurd (first_of_number number) (by decide)
  · rw [if_neg quote]
    cases spells with
    | string string =>
      cases string
      exact absurd rfl quote
    | _ => rfl

/-- Strings are read as they are. -/
theorem understands_readString : Understands readString Tree.string? :=
  understands_readStringAs _

/-- What was decoded is converted. -/
theorem Yields.map {decoded : Option α} {behind c : Cursor} (f : α → β)
    (yields : Yields decoded behind (reader c)) :
    Yields (decoded.map f) behind (mapReader f reader c) := by
  rw [mapReader]
  obtain ⟨value, rfl, read⟩ | ⟨rfl, stop, refused⟩ := yields.read_or_refused
  · simp [read]
  · simp [refused]

/-- What is read is converted. -/
theorem understands_mapReader (understands : Understands reader decode) (f : α → β) :
    Understands (mapReader f reader) fun tree => (decode tree).map f := by
  intro tree bytes spells p blank rest only follows
  exact (understands spells only follows).map f

/-- Only the word for nothing starts with its first letter. -/
theorem Spells.head_word (spells : Spells tree bytes) :
    tree = .null ∧ bytes = Cursor.ascii "null" ∨
      (∀ decode : Tree → Option α, Tree.optional decode tree = (decode tree).map some) ∧
        ∀ b ∈ bytes.head?, b ≠ 0x6E := by
  cases spells with
  | null => exact .inl ⟨rfl, rfl⟩
  | yes => exact .inr ⟨fun _ => rfl, forall_head? (by decide)⟩
  | no => exact .inr ⟨fun _ => rfl, forall_head? (by decide)⟩
  | number number =>
    obtain ⟨first, others, rfl, digit⟩ := head_of_number number
    refine .inr ⟨fun _ => rfl, fun b head => ?_⟩
    obtain rfl : first = b := by simpa using head
    rintro rfl
    simp [Number.isDigit] at digit
  | string string =>
    cases string
    exact .inr ⟨fun _ => rfl, by simp⟩
  | list => exact .inr ⟨fun _ => rfl, by simp⟩
  | object => exact .inr ⟨fun _ => rfl, by simp⟩

/-- Nothing is read as nothing, and anything else as it is. -/
theorem understands_readOption (understands : Understands reader decode) :
    Understands (readOption reader) (Tree.optional decode) := by
  intro tree bytes spells p blank rest only follows
  have start := skipBlank_eq (p := p) only (spells.inked rest)
  have own := (understands spells (p := p.past blank) blank_nil follows).map some
  rw [List.nil_append] at own
  rw [readOption]
  simp only [start]
  obtain ⟨rfl, rfl⟩ | ⟨decoded, other⟩ := spells.head_word (α := α)
  · have word := readWord_eq (Cursor.ascii "ull") ((p.past blank).after 0x6E) rest
    have letters : Cursor.ascii "null" = 0x6E :: Cursor.ascii "ull" := rfl
    simp [letters, Tree.optional, Cursor.eat, word]
  · rw [decoded]
    split
    · rename_i first others same
      obtain ⟨head, tail, rfl, -⟩ := spells.head
      cases same
      exact absurd rfl (other _ rfl)
    · exact own

/-! ## Lists -/

variable {isFirst : Bool} {bracket : Bracket} {lead : List UInt8}

/-- Right before a closing bracket, up to blanks, there is no other element or member. -/
theorem next_close (only : Blank blank) (bracket : Bracket) (isFirst : Bool) (p : Place)
    (rest : List UInt8) :
    bracket.next isFirst ⟨p, blank ++ bracket.closing :: rest⟩ =
      .ok (false, ⟨p.past blank, bracket.closing :: rest⟩) := by
  simp [Bracket.next, skipBlank_cons only (isBlankByte_closing bracket)]

/-- What stands before an element or member leads to it. -/
theorem next_lead {first : UInt8} (leads : Lead isFirst lead) (starts : Starts first)
    (bracket : Bracket) (p : Place) (rest : List UInt8) :
    bracket.next isFirst ⟨p, lead ++ first :: rest⟩ =
      .ok (true, ⟨p.past lead, first :: rest⟩) := by
  obtain ⟨ink, noComma, noBracket, noBrace⟩ := starts
  have inside : first ≠ bracket.closing := by cases bracket <;> assumption
  cases leads with
  | first only => simp [Bracket.next, skipBlank_cons only ink, inside]
  | @later before after behind more =>
    have start := skipBlank_cons behind (show Cursor.isBlankByte 0x2C = false from rfl)
    have noEnd : 0x2C ≠ bracket.closing := by cases bracket <;> decide
    simp [Bracket.next, start, Cursor.eat, noEnd, skipBlank_cons more ink, inside]

/-- What stands before an element leads to it. -/
theorem next_element (leads : Lead isFirst lead) (spells : Spells tree bytes) (bracket : Bracket)
    (p : Place) (rest : List UInt8) :
    bracket.next isFirst ⟨p, lead ++ (bytes ++ rest)⟩ =
      .ok (true, ⟨p.past lead, bytes ++ rest⟩) := by
  obtain ⟨first, others, rfl, starts⟩ := spells.head
  exact next_lead leads starts bracket p (others ++ rest)

/-- At the closing bracket, up to blanks, what was read inside is finished. -/
theorem Yields.finish {decoded : Option α} {result : Except Stop (α × Cursor)} (bracket : Bracket)
    (only : Blank blank) (yields : Yields decoded ⟨p, blank ++ bracket.closing :: rest⟩ result) :
    Yields decoded ⟨(p.past blank).after bracket.closing, rest⟩ (bracket.finish result) := by
  cases decoded with
  | none =>
    obtain ⟨stop, rfl⟩ := yields
    cases stop with
    | fault fault => exact ⟨_, rfl⟩
    | pending problem reached => exact ⟨_, rfl⟩
  | some value =>
    obtain rfl := yields
    have start := skipBlank_cons only (isBlankByte_closing bracket) p rest
    simp [Bracket.finish, Bracket.close, start, Cursor.eat]

/-- The elements of a list are read one after the other. -/
theorem readElements_eq (understands : Understands reader decode)
    (inside : SpellsElements isFirst trees bytes) (p : Place) (rest : List UInt8) {fuel : Nat}
    (enough : trees.length < fuel) :
    Yields (trees.mapM decode) ⟨p.past bytes, 0x5D :: rest⟩
      (readElements reader isFirst fuel ⟨p, bytes ++ 0x5D :: rest⟩) := by
  induction trees generalizing isFirst bytes p fuel with
  | nil =>
    obtain ⟨fuel, rfl⟩ : ∃ n, fuel = n + 1 := ⟨fuel - 1, by omega⟩
    cases inside with
    | nil only =>
      have found := next_close only .list isFirst p rest
      rw [Bracket.closing] at found
      simp [readElements, found]
  | cons tree trees ih =>
    rw [List.length_cons] at enough
    obtain ⟨fuel, rfl⟩ : ∃ n, fuel = n + 1 := ⟨fuel - 1, by omega⟩
    cases inside with
    | @cons _ _ _ lead bytes more leads first others =>
      have ends : Follows (0x5D :: rest) := by simp [Follows]
      have found := next_element leads first .list p (more ++ 0x5D :: rest)
      have own := understands first (p := p.past lead) blank_nil (others.follows ends)
      have fewer : trees.length < fuel := by omega
      have later := ih others ((p.past lead).past bytes) fewer
      simp only [List.append_assoc, List.nil_append, Place.past_nil, Place.past_append,
        readElements, found, List.mapM_cons] at own ⊢
      obtain ⟨value, decoded, read⟩ | ⟨decoded, stop, refused⟩ := own.read_or_refused
      · rw [decoded, read]
        obtain ⟨values, decoded, read⟩ | ⟨decoded, stop, refused⟩ := later.read_or_refused
        · simp [decoded, read]
        · simp [decoded, refused]
      · simp [decoded, refused]

/-- There are no more elements than bytes. -/
theorem length_le_of_elements (inside : SpellsElements isFirst trees bytes) :
    trees.length ≤ bytes.length := by
  induction trees generalizing isFirst bytes with
  | nil => exact Nat.zero_le _
  | cons tree trees ih =>
    cases inside with
    | cons leads first others =>
      obtain ⟨head, tail, rfl, -⟩ := first.head
      have shorter := ih others
      simp only [List.length_append, List.length_cons]
      omega

/-- Lists are read element by element. -/
theorem understands_readList (understands : Understands reader decode) :
    Understands (readList reader) (Tree.list? decode) := by
  refine understands_readByFirst fun {tree first others} spells {p rest} follows => ?_
  by_cases opening : first = 0x5B
  · subst opening
    rw [if_pos rfl]
    cases spells with
    | @list elements bytes inside =>
      have enough : elements.length < (0x5B :: (bytes ++ 0x5D :: rest)).length + 1 := by
        have few := length_le_of_elements inside
        simp only [List.length_cons, List.length_append]
        omega
      have read := readElements_eq understands inside (p.after 0x5B) rest enough
      have finished := read.finish .list blank_nil
      simpa [Cursor.eat, Tree.list?, Bracket.closing] using finished
    | string string => cases string
    | number number => exact absurd (first_of_number number) (by decide)
  · rw [if_neg opening]
    cases spells with
    | list => exact absurd rfl opening
    | _ => rfl

/-! ## Documents -/

/-- Blanks alone are passed over to the end. -/
theorem skipBlank_end (only : Blank blank) : Cursor.skipBlank ⟨p, blank⟩ = ⟨p.past blank, []⟩ := by
  have inked : Inked [] := by simp [Inked]
  simpa using skipBlank_eq (p := p) only inked

/-- Of a document, a reader gives what the document says, or nothing. -/
theorem readDocument_eq (understands : Understands reader decode)
    (document : SpellsDocument tree bytes) :
    (readDocument reader bytes).toOption = decode tree := by
  cases document with
  | @value before bytes after blank spells more =>
    have ends : Follows after := by
      have nothing : Follows [] := by simp [Follows]
      simpa using follows_blank more nothing
    have own := understands spells (p := ⟨1, 0⟩) blank ends
    rw [readDocument, Cursor.ofBytes, List.append_assoc]
    obtain ⟨value, decoded, read⟩ | ⟨decoded, stop, refused⟩ := own.read_or_refused
    · simp [decoded, read, skipBlank_end more, Except.toOption]
    · simp [decoded, refused, Except.toOption]

end Matryoshka.Json
