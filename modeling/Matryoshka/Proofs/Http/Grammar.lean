import Matryoshka.Proofs.Http.Exchange
import Matryoshka.Proofs.Json.Records

/-!
# The grammar of requests for vectors

Which documents ask for vectors, and for which, is said here without a reader (`AsksFor`): an
object or a list gives values to the two fields, exactly one of them is set, and a batch has at
least one text and at most 256. A body that is a document is accepted exactly if it asks for
something in this sense, and every other one is refused with a response (`ofBody_grammar`).
-/

namespace Matryoshka

open Json

namespace Wire.EmbedRequest

/-! ## What a document says -/

/-- The values that an object has for a key. -/
def valuesOf (key : String) (members : List (String × Tree)) : List Tree :=
  (members.filter fun member => member.1 == key).map Prod.snd

/-- The values that a document gives to the two fields, where it gives them. -/
inductive Gives : Tree → Option Tree → Option Tree → Prop
  /-- An object gives values by key; none of the two keys comes again, and others do not count. -/
  | object {members : List (String × Tree)} {text texts : Option Tree}
      (ofText : valuesOf "text" members = text.toList)
      (ofTexts : valuesOf "texts" members = texts.toList) : Gives (.object members) text texts
  /-- A list gives values in order, and no more than two. -/
  | list {elements : List Tree} (short : elements.length ≤ 2) :
      Gives (.list elements) elements[0]? elements[1]?

/-- A field that is absent or `null`. -/
def Unset (given : Option Tree) : Prop := given = none ∨ given = some .null

/-- What a document asks for. -/
inductive AsksFor (tree : Tree) : EmbedInput → Prop
  /-- The vector of one text. -/
  | single {text : String} {texts : Option Tree} (gives : Gives tree (some (.string text)) texts)
      (unset : Unset texts) : AsksFor tree (.single text)
  /-- The vectors of a batch. -/
  | batch {text : Option Tree} {texts : List String}
      (gives : Gives tree text (some (.list (texts.map .string)))) (unset : Unset text)
      (filled : 1 ≤ texts.length) (small : texts.length ≤ 256) : AsksFor tree (.batch texts)

/-! ## What the fields are read as -/

/-- The fields of a request and what their values mean. -/
def meanings : List (Meaning Gathered) := [
  .of "text" (fun g => g.text.isSome) (fun g v => { g with text := some v })
    (understands_readOption understands_readString),
  .of "texts" (fun g => g.texts.isSome) (fun g v => { g with texts := some v })
    (understands_readOption (understands_readList understands_readString))]

/-- Requests are read as they are meant. -/
theorem understands_read : Understands read (decodeRecord record meanings) :=
  understands_record rfl

variable {β : Type} {decode : Tree → Option β}

/-- What becomes of a field that had the value `before` with more values: a field is set once. -/
inductive Sets (decode : Tree → Option β) : Option β → List Tree → Option β → Prop
  /-- There are no more values. -/
  | keep {before : Option β} : Sets decode before [] before
  /-- There is one for a field without a value. -/
  | set {tree : Tree} {value : β} (decoded : decode tree = some value) :
      Sets decode none [tree] (some value)

/-- Further values set no field that has one. -/
theorem sets_some_iff {value : β} {values : List Tree} {after : Option β} :
    Sets decode (some value) values after ↔ values = [] ∧ after = some value := by
  constructor
  · rintro ⟨⟩
    exact ⟨rfl, rfl⟩
  · rintro ⟨rfl, rfl⟩
    exact .keep

/-- The first of some values sets a field, and has to be the only one. -/
theorem sets_cons_iff {before after : Option β} {tree : Tree} {values : List Tree} :
    Sets decode before (tree :: values) after ↔
      before = none ∧
        ∃ value, decode tree = some value ∧ Sets decode (some value) values after := by
  constructor
  · rintro ⟨⟩
    rename_i value decoded
    exact ⟨rfl, value, decoded, .keep⟩
  · rintro ⟨rfl, value, decoded, set⟩
    obtain ⟨rfl, rfl⟩ := sets_some_iff.1 set
    exact .set decoded

/-- No values set nothing. -/
theorem sets_nil_iff {before after : Option β} : Sets decode before [] after ↔ before = after := by
  constructor
  · rintro ⟨⟩
    rfl
  · rintro rfl
    exact .keep

/-- The values for a key include those of the members that have it. -/
theorem valuesOf_cons (key : String) (member : String × Tree) (members : List (String × Tree)) :
    valuesOf key (member :: members) =
      if member.1 = key then member.2 :: valuesOf key members else valuesOf key members := by
  rw [valuesOf, List.filter_cons]
  by_cases same : member.1 = key <;> simp [same, valuesOf]

/-- The members of an object set the fields with the values that it has for their keys. -/
theorem foldlM_gatherMember_iff {members : List (String × Tree)} {before after : Gathered} :
    members.foldlM (gatherMember meanings) before = some after ↔
      Sets (Tree.optional Tree.string?) before.text (valuesOf "text" members) after.text ∧
      Sets (Tree.optional (Tree.list? Tree.string?)) before.texts (valuesOf "texts" members)
        after.texts := by
  induction members generalizing before with
  | nil =>
    obtain ⟨text, texts⟩ := before
    obtain ⟨text', texts'⟩ := after
    simp [valuesOf, sets_nil_iff]
  | cons member members ih =>
    obtain ⟨key, tree⟩ := member
    obtain ⟨text, texts⟩ := before
    simp only [List.foldlM_cons, valuesOf_cons]
    -- A member counts for one field at most, so what the other one becomes is up to the rest.
    by_cases isText : key = "text"
    · subst isText
      have added : gatherMember meanings ⟨text, texts⟩ ("text", tree) =
          if text.isSome then none
          else (Tree.optional Tree.string? tree).map fun v => ⟨some v, texts⟩ := rfl
      cases text with
      | some text => simp [added, sets_cons_iff]
      | none =>
        cases decoded : Tree.optional Tree.string? tree with
        | none => simp [added, decoded, sets_cons_iff]
        | some value => simp [added, decoded, sets_cons_iff, ih]
    · by_cases isTexts : key = "texts"
      · subst isTexts
        have added : gatherMember meanings ⟨text, texts⟩ ("texts", tree) =
            if texts.isSome then none
            else (Tree.optional (Tree.list? Tree.string?) tree).map fun v => ⟨text, some v⟩ := rfl
        cases texts with
        | some texts => simp [added, sets_cons_iff]
        | none =>
          cases decoded : Tree.optional (Tree.list? Tree.string?) tree with
          | none => simp [added, decoded, sets_cons_iff]
          | some value => simp [added, decoded, sets_cons_iff, ih]
      · have added : gatherMember meanings ⟨text, texts⟩ (key, tree) = some ⟨text, texts⟩ := by
          simp [gatherMember, meanings, Meaning.of, Ne.symm isText, Ne.symm isTexts]
        simp [added, isText, isTexts, ih]

/-- What a field that may be absent comes to. -/
def fieldOf (decode : Tree → Option β) : Option Tree → Option (Option β)
  | none => some none
  | some tree => Tree.optional decode tree

/-- A field that is set at most once comes to its only value, or to nothing. -/
theorem sets_iff_fieldOf {values : List Tree} {value : Option β} :
    (∃ after, Sets (Tree.optional decode) none values after ∧ after.join = value) ↔
      ∃ given : Option Tree, values = given.toList ∧ fieldOf decode given = some value := by
  constructor
  · rintro ⟨after, set, rfl⟩
    cases set with
    | keep => exact ⟨none, rfl, rfl⟩
    | @set tree value decoded => exact ⟨some tree, rfl, decoded⟩
  · rintro ⟨given, rfl, field⟩
    cases given with
    | none =>
      cases field
      exact ⟨none, .keep, rfl⟩
    | some tree => exact ⟨some value, .set field, rfl⟩

/-- An object makes a request exactly if its values for the two keys do. -/
theorem decodeRecord_object_iff {members : List (String × Tree)} {request : EmbedRequest} :
    decodeRecord record meanings (.object members) = some request ↔
      (∃ text, valuesOf "text" members = text.toList ∧
        fieldOf Tree.string? text = some request.text) ∧
      ∃ texts, valuesOf "texts" members = texts.toList ∧
        fieldOf (Tree.list? Tree.string?) texts = some request.texts := by
  rw [← sets_iff_fieldOf, ← sets_iff_fieldOf]
  simp only [decodeRecord, Option.bind_eq_some_iff, foldlM_gatherMember_iff]
  constructor
  · rintro ⟨⟨text, texts⟩, ⟨setText, setTexts⟩, made⟩
    cases made
    exact ⟨⟨text, setText, rfl⟩, texts, setTexts, rfl⟩
  · rintro ⟨⟨text, setText, ofText⟩, texts, setTexts, ofTexts⟩
    obtain ⟨text', texts'⟩ := request
    cases ofText
    cases ofTexts
    exact ⟨⟨text, texts⟩, ⟨setText, setTexts⟩, rfl⟩

/-- A list makes a request exactly if it is not too long and its elements do. -/
theorem decodeRecord_list_iff {elements : List Tree} {request : EmbedRequest} :
    decodeRecord record meanings (.list elements) = some request ↔
      elements.length ≤ 2 ∧ fieldOf Tree.string? elements[0]? = some request.text ∧
        fieldOf (Tree.list? Tree.string?) elements[1]? = some request.texts := by
  obtain ⟨text', texts'⟩ := request
  match elements with
  | [] => simp [decodeRecord, gatherElements, record, Except.toOption, fieldOf]
  | [text] =>
    simp only [decodeRecord, meanings, gatherElements, Meaning.of, record, fieldOf]
    cases ofText : Tree.optional Tree.string? text with
    | none => simp [ofText]
    | some value => simp [ofText, Except.toOption]
  | [text, texts] =>
    simp only [decodeRecord, meanings, gatherElements, Meaning.of, record, fieldOf]
    cases ofText : Tree.optional Tree.string? text with
    | none => simp [ofText]
    | some value =>
      cases ofTexts : Tree.optional (Tree.list? Tree.string?) texts with
      | none => simp [ofTexts]
      | some values => simp [ofText, ofTexts, Except.toOption]
  | text :: texts :: other :: others =>
    simp only [decodeRecord, meanings, gatherElements, Meaning.of]
    cases Tree.optional Tree.string? text <;>
      cases Tree.optional (Tree.list? Tree.string?) texts <;> simp

/-- A request is read from the values that its document gives to the two fields. -/
theorem decodeRecord_iff {tree : Tree} {request : EmbedRequest} :
    decodeRecord record meanings tree = some request ↔
      ∃ text texts, Gives tree text texts ∧ fieldOf Tree.string? text = some request.text ∧
        fieldOf (Tree.list? Tree.string?) texts = some request.texts := by
  constructor
  · intro decoded
    cases tree with
    | object members =>
      obtain ⟨⟨text, ofText, field⟩, texts, ofTexts, fields⟩ := decodeRecord_object_iff.1 decoded
      exact ⟨text, texts, .object ofText ofTexts, field, fields⟩
    | list elements =>
      obtain ⟨short, field, fields⟩ := decodeRecord_list_iff.1 decoded
      exact ⟨_, _, .list short, field, fields⟩
    | null => cases decoded
    | bool value => cases decoded
    | number literal => cases decoded
    | string text => cases decoded
  · rintro ⟨text, texts, gives, field, fields⟩
    cases gives with
    | object ofText ofTexts =>
      exact decodeRecord_object_iff.2 ⟨⟨text, ofText, field⟩, texts, ofTexts, fields⟩
    | list short => exact decodeRecord_list_iff.2 ⟨short, field, fields⟩

/-! ## What a request asks for -/

/-- A field comes to nothing exactly if it is absent or `null`. -/
theorem fieldOf_none_iff {given : Option Tree} :
    fieldOf decode given = some none ↔ Unset given := by
  cases given with
  | none => simp [fieldOf, Unset]
  | some tree => cases tree <;> simp [fieldOf, Unset, Tree.optional]

/-- A field comes to a value exactly if it has one that means this value. -/
theorem fieldOf_some_iff (nothing : decode .null = none) {given : Option Tree} {value : β} :
    fieldOf decode given = some (some value) ↔
      ∃ tree, given = some tree ∧ decode tree = some value := by
  cases given with
  | none => simp [fieldOf]
  | some tree => cases tree <;> simp [fieldOf, Tree.optional, nothing]

/-- Only a string is a text. -/
theorem string?_eq_some_iff {tree : Tree} {text : String} :
    tree.string? = some text ↔ tree = .string text := by
  cases tree <;> simp [Tree.string?]

/-- Only strings are texts. -/
theorem mapM_string?_eq_some_iff {trees : List Tree} {texts : List String} :
    trees.mapM Tree.string? = some texts ↔ trees = texts.map .string := by
  induction trees generalizing texts with
  | nil => cases texts <;> simp
  | cons tree trees ih =>
    simp only [List.mapM_cons, Option.bind_eq_bind, Option.bind_eq_some_iff, string?_eq_some_iff,
      ih]
    cases texts with
    | nil => simp
    | cons text texts => simp

/-- Only a list of strings is a list of texts. -/
theorem list?_eq_some_iff {tree : Tree} {texts : List String} :
    tree.list? Tree.string? = some texts ↔ tree = .list (texts.map .string) := by
  cases tree <;> simp [Tree.list?, mapM_string?_eq_some_iff]

/-- A request asks for one text exactly if it has this text and no batch. -/
theorem toInput_single_iff {request : EmbedRequest} {text : String} :
    request.toInput = .ok (.single text) ↔ request = ⟨some text, none⟩ := by
  obtain ⟨text', texts'⟩ := request
  cases text' with
  | none =>
    cases texts' with
    | none => simp [toInput]
    | some texts =>
      simp only [toInput]
      split
      · simp
      · split <;> simp
  | some text' => cases texts' <;> simp [toInput]

/-- A request asks for a batch exactly if it has this batch, of the right size, and no text. -/
theorem toInput_batch_iff {request : EmbedRequest} {texts : List String} :
    request.toInput = .ok (.batch texts) ↔
      request = ⟨none, some texts⟩ ∧ 1 ≤ texts.length ∧ texts.length ≤ 256 := by
  obtain ⟨text', texts'⟩ := request
  cases text' with
  | none =>
    cases texts' with
    | none => simp [toInput]
    | some texts' =>
      have limit : maxBatchTexts = 256 := rfl
      simp only [toInput]
      by_cases empty : texts' = []
      · subst empty
        simp only [↓reduceIte, reduceCtorEq, mk.injEq, Option.some.injEq, true_and, false_iff]
        rintro ⟨rfl, filled, -⟩
        exact absurd filled (by simp)
      · have filled := List.length_pos_of_ne_nil empty
        rw [if_neg empty]
        by_cases large : texts'.length > maxBatchTexts
        · rw [if_pos large]
          simp only [reduceCtorEq, mk.injEq, Option.some.injEq, true_and, false_iff]
          rintro ⟨rfl, -, small⟩
          omega
        · rw [if_neg large]
          simp only [Except.ok.injEq, EmbedInput.batch.injEq, mk.injEq, Option.some.injEq, true_and]
          constructor
          · rintro rfl
            exact ⟨rfl, filled, by omega⟩
          · rintro ⟨rfl, -, -⟩
            rfl
  | some text' => cases texts' <;> simp [toInput]

/-- What a document is read as asks for what the document says. -/
theorem asksFor_iff {tree : Tree} {input : EmbedInput} :
    AsksFor tree input ↔
      ∃ request, decodeRecord record meanings tree = some request ∧
        request.toInput = .ok input := by
  constructor
  · intro asks
    cases asks with
    | single gives unset =>
      refine ⟨⟨_, _⟩, decodeRecord_iff.2 ⟨_, _, gives, ?_, ?_⟩, toInput_single_iff.2 rfl⟩
      · rfl
      · exact fieldOf_none_iff.2 unset
    | batch gives unset filled small =>
      refine ⟨⟨_, _⟩, decodeRecord_iff.2 ⟨_, _, gives, ?_, ?_⟩,
        toInput_batch_iff.2 ⟨rfl, filled, small⟩⟩
      · exact fieldOf_none_iff.2 unset
      · exact (fieldOf_some_iff rfl).2 ⟨_, rfl, list?_eq_some_iff.2 rfl⟩
  · rintro ⟨request, decoded, asks⟩
    obtain ⟨text, texts, gives, field, fields⟩ := decodeRecord_iff.1 decoded
    cases input with
    | single value =>
      obtain rfl := toInput_single_iff.1 asks
      obtain ⟨tree, rfl, string⟩ := (fieldOf_some_iff rfl).1 field
      obtain rfl := string?_eq_some_iff.1 string
      exact .single gives (fieldOf_none_iff.1 fields)
    | batch values =>
      obtain ⟨rfl, filled, small⟩ := toInput_batch_iff.1 asks
      obtain ⟨tree, rfl, list⟩ := (fieldOf_some_iff rfl).1 fields
      obtain rfl := list?_eq_some_iff.1 list
      exact .batch gives (fieldOf_none_iff.1 field) filled small

/-- A document is accepted as a request for an input exactly if it asks for this input. -/
theorem accepted_iff {tree : Tree} {bytes : List UInt8} (document : SpellsDocument tree bytes)
    {input : EmbedInput} :
    (∃ request, readDocument read bytes = .ok request ∧ request.toInput = .ok input) ↔
      AsksFor tree input := by
  have decoded := readDocument_eq understands_read document
  rw [asksFor_iff, ← decoded]
  cases readDocument read bytes with
  | error fault => simp [Except.toOption]
  | ok request => simp [Except.toOption]

end Wire.EmbedRequest

namespace Http

open Wire EmbedRequest

/-! ## Bodies -/

/-- A body that asks for nothing is refused, with a response that says why. -/
theorem ofBody_refused {bytes : List UInt8}
    (nothing : ∀ input, Request.ofBody (.ok bytes) ≠ .ofInput input) :
    ∃ response, Request.ofBody (.ok bytes) = .refused .badRequest response := by
  unfold Request.ofBody at nothing ⊢
  simp only at nothing ⊢
  split
  · exact ⟨_, rfl⟩
  · rename_i request read
    simp only [read] at nothing
    split
    · rename_i text single
      exact absurd (by rw [single]; rfl) (nothing (.single text))
    · rename_i texts batch
      exact absurd (by rw [batch]; rfl) (nothing (.batch texts))
    · exact ⟨_, rfl⟩

/-- The grammar of requests is exact: a body that is a document is read as a request for an input
exactly if the document asks for it, and this is what the service is asked for. Every other document
is refused with a response. -/
theorem ofBody_grammar {tree : Tree} {bytes : List UInt8} (document : SpellsDocument tree bytes) :
    (∀ input, (∃ request, readDocument EmbedRequest.read bytes = .ok request ∧
        request.toInput = .ok input) ↔ AsksFor tree input) ∧
      (∀ input, Request.ofBody (.ok bytes) = .ofInput input ↔ AsksFor tree input) ∧
      ((∀ input, ¬ AsksFor tree input) →
        ∃ response, Request.ofBody (.ok bytes) = .refused .badRequest response) := by
  have asks (input : EmbedInput) :
      Request.ofBody (.ok bytes) = .ofInput input ↔ AsksFor tree input := by
    rw [ofBody_eq_ofInput_iff, ← accepted_iff document]
    simp
  refine ⟨fun input => accepted_iff document, asks, fun nothing => ?_⟩
  exact ofBody_refused fun input same => nothing input ((asks input).1 same)

/-- An object with a nested value that nobody asked for, and with an empty text whose key is partly
escaped, is a document that asks for the vector of the empty text. -/
theorem escapedKey_grammar :
    SpellsDocument (.object [("x", .list [.number [0x30], .object []]), ("text", .string "")])
        (Cursor.ascii "\x7b \"x\":[0, \x7b\x7d] ,\"te\\u0078t\" : \"\"\x7d") ∧
      Request.ofBody (.ok (Cursor.ascii "\x7b \"x\":[0, \x7b\x7d] ,\"te\\u0078t\" : \"\"\x7d")) =
        .embed "" := by
  have noBlank : Blank [] := blank_nil
  have oneBlank : Blank [0x20] := by simp [Blank]
  have plain (c : Char) (own : c.toNat ≠ 0x22 ∧ c.toNat ≠ 0x5C ∧ 0x20 ≤ c.toNat) :
      SpellsChar c (String.utf8EncodeChar c) := .plain own
  have escaped : SpellsChar 'x' [0x5C, 0x75, 0x30, 0x30, 0x37, 0x38] :=
    .unit (.digits (.digit (n := 0) (by decide)) (.digit (n := 0) (by decide))
      (.digit (n := 7) (by decide)) (.digit (n := 8) (by decide)))
  have keyOther : SpellsString "x" (0x22 :: [0x78] ++ [0x22]) :=
    .quoted (.cons (plain 'x' (by decide)) .nil)
  have keyText : SpellsString "text"
      (0x22 :: [0x74, 0x65, 0x5C, 0x75, 0x30, 0x30, 0x37, 0x38, 0x74] ++ [0x22]) :=
    .quoted (.cons (plain 't' (by decide)) (.cons (plain 'e' (by decide)) (.cons escaped
      (.cons (plain 't' (by decide)) .nil))))
  have empty : SpellsString "" (0x22 :: [] ++ [0x22]) := .quoted .nil
  have zero : Spells (.number [0x30]) [0x30] := .number (.unsigned (.parts .zero .none .none))
  have inner : Spells (.object []) [0x7B, 0x7D] := .object (.nil noBlank)
  have comma : Lead false ([] ++ 0x2C :: [0x20]) := .later noBlank oneBlank
  have other : Spells (.list [.number [0x30], .object []])
      [0x5B, 0x30, 0x2C, 0x20, 0x7B, 0x7D, 0x5D] :=
    .list (.cons (.first noBlank) zero (.cons comma inner (.nil noBlank)))
  have members := SpellsMembers.cons (.first oneBlank) keyOther noBlank noBlank other
    (.cons (.later oneBlank noBlank) keyText oneBlank oneBlank (.string empty) (.nil noBlank))
  have spelled := SpellsDocument.value noBlank (.object members) noBlank
  have gives : Gives (.object [("x", .list [.number [0x30], .object []]), ("text", .string "")])
      (some (.string "")) none := .object (by simp [valuesOf]) (by simp [valuesOf])
  exact ⟨spelled, ((ofBody_grammar spelled).2.1 (.single "")).2 (.single gives (.inl rfl))⟩

end Http

end Matryoshka
