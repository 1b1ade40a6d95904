import Matryoshka.Proofs.Json.Values
import Matryoshka.Proofs.Tokenizer.Framing
import Matryoshka.Tokenizer.File

/-!
# Tokenizers are what their files describe

A file is read member by member, and what is kept depends on what its document says
(`understands_read`). A part that comes again replaces what was said before, and a member that names
no part is refused (`Parts.describe?`). So a file whose template holds the text once, and names
nothing that it does not describe, gives a tokenizer that frames every text (`framed_ofBytes`).
-/

namespace Matryoshka.WordLevel

open Json

variable {β : Type} {p : Place} {blank before after bytes rest : List UInt8} {tree : Tree}
  {members : List (String × Tree)} {key : String} {isFirst : Bool} {parts : Parts}

/-! ## Parts with fields -/

/-- The fields of a record are kept as their values. -/
def fieldMeanings (outer : Nat) (names : List String) : List (Meaning (List (String × Value))) :=
  names.map fun name => .of name (fun found => (found.lookup name).isSome)
    (fun found value => (name, value) :: found) (understands_value (outer + 1))

/-- The fields that a document describes. -/
def describedFields? (outer : Nat) (names : List String) : Tree → Option (List (Option Value)) :=
  decodeRecord (fieldsRecord outer names) (fieldMeanings outer names)

/-- Fields are read as they are described. -/
theorem understands_readFields (outer : Nat) (names : List String) :
    Understands (readFields outer names) (describedFields? outer names) := by
  refine understands_record ?_
  rw [fieldMeanings, List.map_map]
  rfl

/-- What is kept of the fields that a document describes, or that it describes none. -/
def describedKept? (names : List String) (keep : List (Option Value) → Option β) (tree : Tree) :
    Option (Option β) :=
  (Tree.optional (describedFields? 1 names) tree).bind fun
    | none => some none
    | some fields => (keep fields).map some

/-- Fields are kept as they are described. -/
theorem understands_readKept (names : List String) (keep : List (Option Value) → Option β)
    (complaint : String) :
    Understands (readKept names keep complaint) (describedKept? names keep) := by
  intro tree bytes spells p blank rest only follows
  have own := understands_readOption (understands_readFields 1 names) spells (p := p) only follows
  rw [readKept, describedKept?]
  obtain ⟨fields, decoded, read⟩ | ⟨decoded, stop, refused⟩ := own.read_or_refused
  · rw [decoded, read]
    cases fields with
    | none => rfl
    | some fields =>
      cases kept : keep fields with
      | none => simp [kept, stopAt]
      | some value => simp [kept]
  · rw [decoded, refused]
    exact ⟨stop, rfl⟩

namespace Parts

/-- What is kept with one more member. A member that names no part cannot be kept. -/
def describe? (parts : Parts) (member : String × Tree) : Option Parts :=
  if member.1 = "truncation" then
    (describedKept? truncationNames truncation? member.2).map fun _ => parts
  else if member.1 = "padding" then
    (describedKept? paddingNames paddingId? member.2).map fun id => { parts with padding := id }
  else
    (parts.keep? member.1).bind fun keep =>
      (member.2.value? (Value.deepest - 1)).bind keep

/-- The parts that a document describes. -/
def described? : Tree → Option Parts
  | .object members => members.foldlM describe? {}
  | _ => none

/-- A value is kept as it is described. -/
theorem understands_readPart (keep : Value → Option Parts) :
    Understands (readPart keep) fun tree => (tree.value? (Value.deepest - 1)).bind keep := by
  intro tree bytes spells p blank rest only follows
  have own := understands_value 1 spells (p := p) only follows
  simp only [readPart]
  obtain ⟨value, decoded, read⟩ | ⟨decoded, stop, refused⟩ := own.read_or_refused
  · rw [decoded, read]
    cases kept : keep value with
    | none => simp [kept, stopAt]
    | some parts => simp [kept]
  · rw [decoded, refused]
    exact ⟨stop, rfl⟩

/-- A part is read as it is described. -/
theorem understands_reader? {reader : Reader Parts} (found : parts.reader? key = some reader) :
    Understands reader fun tree => parts.describe? (key, tree) := by
  unfold reader? at found
  split at found
  · cases found
    exact understands_mapReader (understands_readKept _ _ _) _
  · cases found
    exact understands_mapReader (understands_readKept _ _ _) _
  · rename_i noTruncation noPadding
    obtain ⟨keep, kept, rfl⟩ := Option.map_eq_some_iff.1 found
    simp only [describe?, if_neg noTruncation, if_neg noPadding, kept, Option.bind_some]
    exact understands_readPart keep

/-- A member whose key names no part is not described. -/
theorem describe?_of_reader? (none : parts.reader? key = none) (tree : Tree) :
    parts.describe? (key, tree) = .none := by
  unfold reader? at none
  split at none
  · cases none
  · cases none
  · rename_i noTruncation noPadding
    rw [Option.map_eq_none_iff] at none
    simp only [describe?, if_neg noTruncation, if_neg noPadding, none, Option.bind_none]

/-- Where a colon stands, there is no next member. -/
theorem next_colon (only : Blank blank) (p : Place) (rest : List UInt8) :
    ∃ stop, Bracket.object.next false ⟨p, blank ++ 0x3A :: rest⟩ = .error stop := by
  have start := skipBlank_cons only (show Cursor.isBlankByte 0x3A = false from rfl) p rest
  exact ⟨_, by simp [Bracket.next, start, Bracket.closing, stopAt]; rfl⟩

/-- The value behind a key that names a part is kept as it is described. -/
theorem readMember_eq {reader : Reader Parts} (known : parts.reader? key = some reader)
    (behind : Blank before) (ahead : Blank after) (spells : Spells tree bytes)
    (follows : Follows rest) (p : Place) :
    Yields (parts.describe? (key, tree)) ⟨p.past (before ++ 0x3A :: (after ++ bytes)), rest⟩
      (parts.readMember key ⟨p, before ++ 0x3A :: (after ++ (bytes ++ rest))⟩) := by
  have own := understands_reader? known spells (p := (p.past before).after 0x3A) ahead follows
  simpa [readMember, known, readColon_eq behind] using own

/-- The members of a file are kept one after the other. -/
theorem readMembers_eq (inside : SpellsMembers isFirst members bytes) (parts : Parts) (p : Place)
    (rest : List UInt8) {fuel : Nat} (enough : members.length < fuel) :
    Yields (members.foldlM describe? parts) ⟨p.past bytes, 0x7D :: rest⟩
      (parts.readMembers isFirst fuel ⟨p, bytes ++ 0x7D :: rest⟩) := by
  induction members generalizing isFirst bytes p fuel parts with
  | nil =>
    obtain ⟨fuel, rfl⟩ : ∃ n, fuel = n + 1 := ⟨fuel - 1, by omega⟩
    cases inside with
    | nil only =>
      have found := next_close only .object isFirst p rest
      rw [Bracket.closing] at found
      simp [readMembers, found]
  | cons member members ih =>
    rw [List.length_cons] at enough
    obtain ⟨fuel, rfl⟩ : ∃ n, fuel = n + 2 := ⟨fuel - 2, by omega⟩
    cases inside with
    | @cons _ key tree _ lead name before after bytes more leads names behind ahead first others =>
      cases names with
      | @quoted inside chars =>
        have ends : Follows (0x7D :: rest) := by simp [Follows]
        have found := next_lead leads starts_quote .object p
        have read (rest : List UInt8) := Quoted.readRest_eq chars ((p.past lead).after 0x22) rest
        simp only [List.append_assoc, List.cons_append, List.nil_append, Place.past_append,
          Place.past_cons, List.foldlM_cons, readMembers, found, Cursor.eat, read]
        cases known : parts.reader? key with
        | none =>
          -- No value is read for the key, and the colon behind it is no end of a member.
          obtain ⟨stop, refused⟩ := next_colon behind
            ((((p.past lead).after 0x22).past inside).after 0x22)
            (after ++ (bytes ++ (more ++ 0x7D :: rest)))
          simp [readMember, known, describe?_of_reader? known, refused]
        | some reader =>
          have own := readMember_eq known behind ahead first (others.follows ends)
            ((((p.past lead).after 0x22).past inside).after 0x22)
          simp only [Place.past_append, Place.past_cons] at own
          obtain ⟨kept, decoded, read⟩ | ⟨decoded, stop, refused⟩ := own.read_or_refused
          · simp only [decoded, read]
            exact ih others kept _ (show members.length < fuel + 1 by omega)
          · simp [decoded, refused]

/-- The parts of a file are read as they are described. -/
theorem understands_read : Understands Parts.read described? := by
  refine understands_readByFirst fun {tree first others} spells {p rest} follows => ?_
  by_cases brace : first = 0x7B
  · subst brace
    rw [if_pos rfl]
    cases spells with
    | @object members bytes inside =>
      have enough : members.length < (0x7B :: (bytes ++ 0x7D :: rest)).length + 1 := by
        have few := length_le_of_members inside
        simp only [List.length_cons, List.length_append]
        omega
      have read := (readMembers_eq inside {} (p.after 0x7B) rest enough).finish .object blank_nil
      simpa [Cursor.eat, described?, Bracket.closing] using read
    | string string => cases string
    | number number => exact absurd (first_of_number number) (by decide)
  · rw [if_neg brace]
    cases spells with
    | object => exact absurd rfl brace
    | _ => rfl

/-! ## Templates of files -/

/-- The template that some members describe: that of the last post-processor, or the one from
before. -/
def templateAfter (before : List TemplatePiece) (members : List (String × Tree)) :
    Option (List TemplatePiece) :=
  match (members.filter fun member => member.1 == "post_processor").getLast? with
  | none => some before
  | some member => (member.2.value? (Value.deepest - 1)).bind template?

/-- Only the value of a post-processor says anything about the template. -/
theorem template_of_keep? {kept : Parts} {keep : Value → Option Parts} {value : Value}
    (known : parts.keep? key = some keep) (keeps : keep value = some kept) :
    if key = "post_processor" then template? value = some kept.template
    else kept.template = parts.template := by
  unfold keep? at known
  split at known
  case h_8 => cases known
  -- The version and the decoder only say whether the file is refused.
  case h_1 | h_6 =>
    obtain rfl := Option.some.inj known
    dsimp only at keeps
    split at keeps <;> simp_all
  all_goals
    obtain rfl := Option.some.inj known
    obtain ⟨_, _, rfl⟩ := Option.map_eq_some_iff.1 keeps
    simp_all

/-- A post-processor describes the template, and no other member changes it. -/
theorem template_of_describe? {kept : Parts} {member : String × Tree}
    (described : parts.describe? member = some kept) :
    if member.1 = "post_processor" then
      (member.2.value? (Value.deepest - 1)).bind template? = some kept.template
    else kept.template = parts.template := by
  obtain ⟨key, tree⟩ := member
  simp only [describe?] at described
  split at described
  · rename_i truncates
    obtain ⟨_, _, rfl⟩ := Option.map_eq_some_iff.1 described
    simp [truncates]
  split at described
  · rename_i pads
    obtain ⟨_, _, rfl⟩ := Option.map_eq_some_iff.1 described
    simp [pads]
  obtain ⟨keep, known, described⟩ := Option.bind_eq_some_iff.1 described
  obtain ⟨value, valued, kept⟩ := Option.bind_eq_some_iff.1 described
  have own := template_of_keep? known kept
  rwa [valued]

/-- The template of a file is the one that its last post-processor describes. -/
theorem template_of_members {kept : Parts}
    (described : members.foldlM describe? parts = some kept) :
    templateAfter parts.template members = some kept.template := by
  induction members generalizing parts with
  | nil =>
    cases described
    rfl
  | cons member members ih =>
    rw [List.foldlM_cons, Option.bind_eq_bind, Option.bind_eq_some_iff] at described
    obtain ⟨next, first, others⟩ := described
    have own := template_of_describe? first
    have later := ih others
    rw [templateAfter] at later ⊢
    rw [List.filter_cons]
    by_cases processes : member.1 = "post_processor"
    · rw [if_pos processes] at own
      rw [if_pos (by simpa using processes), List.getLast?_cons]
      cases last : (members.filter fun member => member.1 == "post_processor").getLast? with
      | none =>
        rw [last] at later
        exact own.trans later
      | some other =>
        rw [last] at later
        exact later
    · rw [if_neg processes] at own
      rw [if_neg (by simpa using processes), ← own]
      exact later

end Parts

/-- A file gives a tokenizer exactly if it describes it. -/
theorem ofBytes_eq_ok_iff {t : WordLevel} (document : SpellsDocument tree bytes) :
    ofBytes bytes = .ok t ↔ (Parts.described? tree).bind Parts.toTokenizer? = some t := by
  rw [← readDocument_eq Parts.understands_read document, ofBytes]
  cases readDocument Parts.read bytes with
  | error fault => simp [Except.toOption]
  | ok parts => cases made : parts.toTokenizer? <;> simp [Except.toOption, made]

/-- A tokenizer has the template of its parts, and can cut out all its tokens anywhere. -/
theorem toTokenizer?_spec {t : WordLevel} (made : parts.toTokenizer? = some t) :
    t.template = parts.template ∧
      ∀ pattern ∈ t.early ++ t.late, pattern.isSupported = true := by
  obtain ⟨lexicon, -, made⟩ := Option.bind_eq_some_iff.1 made
  obtain ⟨supported, made⟩ := Option.ite_none_right_eq_some.1 made
  obtain rfl := Option.some.inj made
  exact ⟨rfl, List.all_eq_true.1 supported⟩

/-- A file whose last post-processor holds the text once, and names only what it describes, gives a
tokenizer that frames every text, and whose tokens can be cut out of every text. So does a file
without post-processor. -/
theorem framed_ofBytes {t : WordLevel} {template : List TemplatePiece}
    (document : SpellsDocument (.object members) bytes)
    (described : members.foldlM Parts.describe? {} = some parts)
    (made : parts.toTokenizer? = some t)
    (last : Parts.templateAfter [.content] members = some template)
    (once : template.count .content = 1) (known : .unknown ∉ template) :
    ofBytes bytes = .ok t ∧ (∀ pattern ∈ t.early ++ t.late, pattern.isSupported = true) ∧
      ∃ front back, t.Frames front back ∧ ∀ maxLength, front.length + back.length < maxLength →
        maxLength < UInt64.size → ∀ text, Framed t front back maxLength text := by
  have own : t.template = template := by
    have kept := Parts.template_of_members described
    rw [(toTokenizer?_spec made).1]
    exact Option.some.inj (kept.symm.trans last)
  rw [← own] at once known
  obtain ⟨front, back, frames⟩ := exists_frames_iff.2 ⟨once, known⟩
  refine ⟨?_, (toTokenizer?_spec made).2, front, back, frames, ?_⟩
  · rw [ofBytes_eq_ok_iff document, Parts.described?, described, Option.bind_some, made]
  · intro maxLength room word text
    exact .of_frames frames room word text

end Matryoshka.WordLevel
