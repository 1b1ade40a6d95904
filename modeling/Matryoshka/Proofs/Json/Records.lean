import Matryoshka.Json.Record
import Matryoshka.Proofs.Json.Reading

/-!
# Records are read field by field

What a record reads depends on what its document says: on the members of an object, in order, or on
the elements of a list (`decodeRecord`). A record whose field readers understand their values
understands documents as a whole (`understands_record`), in which unknown members may say anything.
-/

namespace Matryoshka.Json

/-- A field of a record together with what its values mean. -/
structure Meaning (σ : Type) extends Field σ where
  /-- What is gathered with a value of the field, if the field can have it. -/
  decode : σ → Tree → Option σ
  /-- The value is read as it is meant. -/
  understands : ∀ gathered, Understands (read gathered) (decode gathered)

variable {σ α β : Type} {record : Record σ α} {fields : List (Meaning σ)}

/-- A field with a value that is understood, and how it is gathered. -/
def Meaning.of (name : String) (isSet : σ → Bool) (gather : σ → β → σ) {reader : Reader β}
    {decode : Tree → Option β} (understands : Understands reader decode) : Meaning σ where
  name := name
  isSet := isSet
  read gathered := mapReader (gather gathered) reader
  decode gathered tree := (decode tree).map (gather gathered)
  understands gathered := understands_mapReader understands (gather gathered)

/-! ## What a document means for a record -/

/-- What is gathered with one more member. A field comes once; an unknown member adds nothing. -/
def gatherMember (fields : List (Meaning σ)) (gathered : σ) (member : String × Tree) : Option σ :=
  match fields.find? fun field => field.name == member.1 with
  | some field => if field.isSet gathered then none else field.decode gathered member.2
  | none => some gathered

/-- What is gathered from the elements of a list, which are the values of the first fields. -/
def gatherElements : List (Meaning σ) → σ → List Tree → Option σ
  | _, gathered, [] => some gathered
  | [], _, _ :: _ => none
  | field :: fields, gathered, tree :: trees =>
    (field.decode gathered tree).bind fun gathered => gatherElements fields gathered trees

/-- What a document means for a record. -/
def decodeRecord (record : Record σ α) (fields : List (Meaning σ)) : Tree → Option α
  | .object members =>
    (members.foldlM (gatherMember fields) record.start).bind fun gathered =>
      (record.finish gathered).toOption
  | .list elements =>
    (gatherElements fields record.start elements).bind fun gathered =>
      (record.finish gathered).toOption
  | _ => none

/-! ## Members -/

variable {p : Place} {blank before after bytes rest name : List UInt8} {tree : Tree}
  {trees : List Tree} {members : List (String × Tree)} {key : String} {isFirst : Bool}
  {gathered : σ}

/-- A colon is passed over with the blanks before it. -/
theorem readColon_eq (only : Blank blank) :
    readColon ⟨p, blank ++ 0x3A :: rest⟩ = .ok ⟨(p.past blank).after 0x3A, rest⟩ := by
  have start := skipBlank_cons only (show Cursor.isBlankByte 0x3A = false from rfl) p rest
  simp [readColon, start, Cursor.eat]

/-- The field that a key stands for is looked up alike with and without its meaning. -/
theorem find?_toField (fields : List (Meaning σ)) (key : String) :
    ((fields.map Meaning.toField).find? fun field => field.name == key) =
      (fields.find? fun field => field.name == key).map Meaning.toField := by
  rw [List.find?_map]
  rfl

/-- A member is read as it is meant. -/
theorem readMember_eq (same : record.fields = fields.map Meaning.toField) (key : String)
    (gathered : σ) (behind : Blank before) (ahead : Blank after) (spells : Spells tree bytes)
    (follows : Follows rest) (p : Place) :
    Yields (gatherMember fields gathered (key, tree))
      ⟨p.past (before ++ 0x3A :: (after ++ bytes)), rest⟩
      (record.readMember key gathered ⟨p, before ++ 0x3A :: (after ++ (bytes ++ rest))⟩) := by
  rw [Record.readMember, same, find?_toField, gatherMember]
  cases found : fields.find? fun field => field.name == key with
  | none =>
    -- The value may say anything: it is only passed over.
    simp [readColon_eq behind, skipValue_eq ahead spells follows]
  | some field =>
    simp only [Option.map_some]
    by_cases again : field.isSet gathered = true
    · simp [again]
    · have own := field.understands gathered spells (p := (p.past before).after 0x3A) ahead follows
      simpa [again, readColon_eq behind] using own

/-- The members of an object are read one after the other. -/
theorem readMembers_eq (same : record.fields = fields.map Meaning.toField)
    (inside : SpellsMembers isFirst members bytes) (gathered : σ) (p : Place) (rest : List UInt8)
    {fuel : Nat} (enough : members.length < fuel) :
    Yields (members.foldlM (gatherMember fields) gathered) ⟨p.past bytes, 0x7D :: rest⟩
      (record.readMembers isFirst gathered fuel ⟨p, bytes ++ 0x7D :: rest⟩) := by
  induction members generalizing isFirst bytes p fuel gathered with
  | nil =>
    obtain ⟨fuel, rfl⟩ : ∃ n, fuel = n + 1 := ⟨fuel - 1, by omega⟩
    cases inside with
    | nil only =>
      have found := next_close only .object isFirst p rest
      rw [Bracket.closing] at found
      simp [Record.readMembers, found]
  | cons member members ih =>
    rw [List.length_cons] at enough
    obtain ⟨fuel, rfl⟩ : ∃ n, fuel = n + 1 := ⟨fuel - 1, by omega⟩
    cases inside with
    | @cons _ key tree _ lead name before after bytes more leads names behind ahead first others =>
      cases names with
      | @quoted inside chars =>
        have ends : Follows (0x7D :: rest) := by simp [Follows]
        have found := next_lead leads starts_quote .object p
        have read (rest : List UInt8) := Quoted.readRest_eq chars ((p.past lead).after 0x22) rest
        have own := readMember_eq same key gathered behind ahead first (others.follows ends)
          ((((p.past lead).after 0x22).past inside).after 0x22)
        simp only [List.append_assoc, List.cons_append, List.nil_append, Place.past_append,
          Place.past_cons, List.foldlM_cons, Record.readMembers, found, Cursor.eat,
          read] at own ⊢
        obtain ⟨gathered, decoded, read⟩ | ⟨decoded, stop, refused⟩ := own.read_or_refused
        · simp only [decoded, read]
          exact ih others gathered _ (by omega)
        · simp [decoded, refused]

/-- There are no more members than bytes. -/
theorem length_le_of_members (inside : SpellsMembers isFirst members bytes) :
    members.length ≤ bytes.length := by
  induction members generalizing isFirst bytes with
  | nil => exact Nat.zero_le _
  | cons member members ih =>
    cases inside with
    | cons leads names behind ahead first others =>
      have shorter := ih others
      simp only [List.length_append, List.length_cons]
      omega

/-! ## Elements -/

/-- Behind the fields of a record, no element may be left. -/
theorem close_elements (left : trees ≠ []) (inside : SpellsElements isFirst trees bytes) (p : Place)
    (rest : List UInt8) :
    ∃ fault, (Bracket.list.close ⟨p, bytes ++ 0x5D :: rest⟩).1 = some fault := by
  cases inside with
  | nil => exact absurd rfl left
  | @cons _ _ _ lead bytes more leads first others =>
    obtain ⟨head, tail, rfl, ink, noComma, noBracket, noBrace⟩ := first.head
    cases leads with
    | first only =>
      simp [Bracket.close, skipBlank_cons only ink, Bracket.closing, noComma, noBracket]
    | @later before after behind ahead =>
      have start := skipBlank_cons behind (show Cursor.isBlankByte 0x2C = false from rfl)
      simp [Bracket.close, start, Bracket.closing]

/-- The elements of a list are read as the values of the first fields, as long as there are both. -/
theorem readPositions_eq (inside : SpellsElements isFirst trees bytes) (fields : List (Meaning σ))
    (gathered : σ) (p : Place) (rest : List UInt8) :
    (gatherElements fields gathered trees = none ∧
      ∃ stop, Record.readPositions isFirst gathered (fields.map Meaning.toField)
        ⟨p, bytes ++ 0x5D :: rest⟩ = .error stop) ∨
    ∃ q isLater left more all, SpellsElements isLater left more ∧ q.past more = p.past bytes ∧
      gatherElements fields gathered trees = (if left.isEmpty then some all else none) ∧
      Record.readPositions isFirst gathered (fields.map Meaning.toField)
        ⟨p, bytes ++ 0x5D :: rest⟩ = .ok (all, ⟨q, more ++ 0x5D :: rest⟩) := by
  induction fields generalizing isFirst trees bytes p gathered with
  | nil =>
    -- The elements that are left are seen only when the bracket is to be closed.
    refine .inr ⟨p, isFirst, trees, bytes, gathered, inside, rfl, ?_, rfl⟩
    cases trees <;> rfl
  | cons field fields ih =>
    cases inside with
    | nil only =>
      have found := next_close only .list isFirst p rest
      rw [Bracket.closing] at found
      refine .inr ⟨p.past bytes, isFirst, [], [], gathered, .nil blank_nil, rfl, rfl, ?_⟩
      simp [Record.readPositions, found]
    | @cons _ tree trees lead bytes more leads first others =>
      have ends : Follows (0x5D :: rest) := by simp [Follows]
      have found := next_element leads first .list p (more ++ 0x5D :: rest)
      have own := field.understands gathered first (p := p.past lead) blank_nil
        (others.follows ends)
      simp only [List.append_assoc, List.nil_append, Place.past_nil, Place.past_append,
        List.map_cons, Record.readPositions, found, gatherElements] at own ⊢
      obtain ⟨gathered, decoded, read⟩ | ⟨decoded, stop, refused⟩ := own.read_or_refused
      · simp only [decoded, read]
        exact ih others gathered _
      · exact .inl ⟨by rw [decoded]; rfl, stop, by simp only [refused]⟩

/-! ## Records -/

/-- What was gathered makes a record, or a field is missing. -/
theorem Yields.complete (record : Record σ α) {decoded : Option σ} {behind : Cursor}
    {result : Except Stop (σ × Cursor)} (missing : String → Problem)
    (yields : Yields decoded behind result) :
    Yields (decoded.bind fun gathered => (record.finish gathered).toOption) behind
      (record.complete missing result) := by
  cases decoded with
  | none =>
    obtain ⟨stop, rfl⟩ := yields
    exact ⟨stop, rfl⟩
  | some gathered =>
    obtain rfl := yields
    rw [Record.complete, Option.bind_some]
    cases finished : record.finish gathered with
    | ok value => simp [Except.toOption]
    | error name => simp [Except.toOption]

/-- A record is refused when its closing bracket is not found. -/
theorem finish_error {bracket : Bracket} {missing : String → Problem} {c : Cursor} {fault : Fault}
    (problem : (bracket.close c).1 = some fault) :
    ∃ stop, bracket.finish (record.complete missing (.ok (gathered, c))) = .error stop := by
  rw [Record.complete]
  cases record.finish gathered with
  | error name => exact ⟨_, rfl⟩
  | ok value =>
    simp only [Bracket.finish]
    cases closed : bracket.close c with
    | mk found reached =>
      rw [closed] at problem
      obtain rfl := problem
      exact ⟨_, rfl⟩

/-- The members of an object make a record as they are meant. -/
theorem finish_readMembers (same : record.fields = fields.map Meaning.toField)
    (inside : SpellsMembers true members bytes) (p : Place) (rest : List UInt8) {fuel : Nat}
    (enough : members.length < fuel) :
    Yields (decodeRecord record fields (.object members)) ⟨(p.past bytes).after 0x7D, rest⟩
      (Bracket.object.finish (record.complete Record.missingField
        (record.readMembers true record.start fuel ⟨p, bytes ++ 0x7D :: rest⟩))) := by
  have read := readMembers_eq same inside record.start p rest enough
  have finished := (Yields.complete record Record.missingField read).finish .object blank_nil
  exact finished

/-- The elements of a list make a record as they are meant. -/
theorem finish_readPositions (record : Record σ α) (fields : List (Meaning σ))
    (inside : SpellsElements true trees bytes) (p : Place) (rest : List UInt8) :
    Yields (decodeRecord record fields (.list trees)) ⟨(p.past bytes).after 0x5D, rest⟩
      (Bracket.list.finish (record.complete record.tooShort
        (Record.readPositions true record.start (fields.map Meaning.toField)
          ⟨p, bytes ++ 0x5D :: rest⟩))) := by
  rw [decodeRecord]
  obtain ⟨nothing, stop, refused⟩ | ⟨q, isLater, left, more, all, others, past, gathered, read⟩ :=
    readPositions_eq inside fields record.start p rest
  · have yields : Yields none ⟨p.past bytes, 0x5D :: rest⟩ (Record.readPositions true record.start
        (fields.map Meaning.toField) ⟨p, bytes ++ 0x5D :: rest⟩) := ⟨stop, refused⟩
    rw [nothing]
    have finished := (Yields.complete record record.tooShort yields).finish .list blank_nil
    exact finished
  · rw [gathered, read]
    cases left with
    | nil =>
      cases others with
      | nil only =>
        have yields : Yields (some all) ⟨q, more ++ 0x5D :: rest⟩
            (.ok (all, ⟨q, more ++ 0x5D :: rest⟩)) := rfl
        rw [← past]
        exact (Yields.complete record record.tooShort yields).finish .list only
    | cons tree trees =>
      obtain ⟨fault, problem⟩ := close_elements (by simp) others q rest
      exact finish_error problem

/-- A record whose fields are understood is understood. -/
theorem understands_record (same : record.fields = fields.map Meaning.toField) :
    Understands record.read (decodeRecord record fields) := by
  refine understands_readByFirst fun {tree first others} spells {p rest} follows => ?_
  by_cases bracket : first = 0x5B
  · subst bracket
    rw [if_pos rfl, same]
    cases spells with
    | list inside =>
      simpa [Cursor.eat] using finish_readPositions record fields inside (p.after 0x5B) rest
    | string string => cases string
    | number number => exact absurd (first_of_number number) (by decide)
  · rw [if_neg bracket]
    by_cases brace : first = 0x7B
    · subst brace
      rw [if_pos rfl]
      cases spells with
      | @object members bytes inside =>
        have enough : members.length < (0x7B :: (bytes ++ 0x7D :: rest)).length + 1 := by
          have few := length_le_of_members inside
          simp only [List.length_cons, List.length_append]
          omega
        simpa [Cursor.eat] using finish_readMembers same inside (p.after 0x7B) rest enough
      | string string => cases string
      | number number => exact absurd (first_of_number number) (by decide)
    · rw [if_neg brace]
      cases spells with
      | list => exact absurd rfl bracket
      | object => exact absurd rfl brace
      | _ => rfl

end Matryoshka.Json
