import Mathlib.Data.List.Forall2
import Matryoshka.Proofs.Engine.Conduct
import Matryoshka.Tokenizer.WordLevel

/-!
# Templates around long texts

A template that holds the ids of a text once puts some ids in front of them and some behind
(`Frames`). A text that is too long loses ids of its own and never one that the template adds
(`framed`): the tokenizer leaves room for the template before it cuts, and what it returns is not
longer than the model allows, so an engine cuts nothing off. The state that pooling takes for the
last one is therefore that of the last id of the template, if the template ends with one.
-/

namespace Matryoshka.WordLevel

/-! ## The ids of a text -/

/-- The id of a word or added token. -/
inductive IdOf (t : WordLevel) : String ⊕ TokenId → TokenId → Prop
  /-- A word of the vocabulary has its own. -/
  | known {word : String} {id : TokenId} (found : t.vocabulary[word]? = some id) :
      IdOf t (.inl word) id
  /-- Any other word has that of the unknown token. -/
  | unknown {word : String} {id : TokenId} (absent : t.vocabulary[word]? = none)
      (found : t.vocabulary[t.unknown]? = some id) : IdOf t (.inl word) id
  /-- An added token has its own. -/
  | added (id : TokenId) : IdOf t (.inr id) id

/-- The ids of a text without a template. -/
def Content (t : WordLevel) (text : String) (ids : List TokenId) : Prop :=
  List.Forall₂ t.IdOf (t.tokens text) ids

/-- Some word of a text is not in the vocabulary, and the unknown token is not either. -/
def LacksWord (t : WordLevel) (text : String) : Prop :=
  ∃ word, .inl word ∈ t.tokens text ∧ t.vocabulary[word]? = none ∧
    t.vocabulary[t.unknown]? = none

variable {t : WordLevel} {text : String} {ids front back : List TokenId} {maxLength : Nat}

/-- Looking a token up finds its id. -/
theorem tokenId?_eq_some_iff {token : String ⊕ TokenId} {id : TokenId} :
    t.tokenId? token = some id ↔ t.IdOf token id := by
  cases token with
  | inr other =>
    constructor
    · intro found
      cases found
      exact .added id
    · intro own
      cases own
      rfl
  | inl word =>
    rw [tokenId?, wordId?]
    constructor
    · intro found
      cases own : t.vocabulary[word]? with
      | none => exact .unknown own (by simpa [own] using found)
      | some other => exact .known (by simpa [own] using found)
    · intro own
      cases own with
      | known found => rw [found, Option.some_or]
      | unknown absent found => rw [absent, Option.none_or, found]

/-- A token without id is a word that is not in the vocabulary, where the unknown token is not
either. -/
theorem tokenId?_eq_none_iff {token : String ⊕ TokenId} :
    t.tokenId? token = none ↔ ∃ word, token = .inl word ∧ t.vocabulary[word]? = none ∧
      t.vocabulary[t.unknown]? = none := by
  cases token with
  | inl word => simp [tokenId?, wordId?]
  | inr id => simp [tokenId?]

/-- Looking all tokens up finds the id of each. -/
theorem mapM_tokenId?_eq_some_iff {tokens : List (String ⊕ TokenId)} :
    tokens.mapM t.tokenId? = some ids ↔ List.Forall₂ t.IdOf tokens ids := by
  induction tokens generalizing ids with
  | nil => cases ids <;> simp
  | cons token tokens ih =>
    rw [List.mapM_cons, Option.bind_eq_bind, Option.bind_eq_some_iff]
    constructor
    · rintro ⟨id, found, rest⟩
      obtain ⟨others, foundRest, together⟩ := Option.bind_eq_some_iff.1 rest
      obtain rfl : id :: others = ids := Option.some.inj together
      exact .cons (tokenId?_eq_some_iff.1 found) (ih.1 foundRest)
    · intro each
      cases each with
      | cons first rest =>
        refine ⟨_, tokenId?_eq_some_iff.2 first, ?_⟩
        rw [ih.2 rest]
        rfl

/-- The ids of a text are found, unless one of its words has none. -/
theorem contentIds?_eq_some_iff : t.contentIds? text = some ids ↔ t.Content text ids :=
  mapM_tokenId?_eq_some_iff

theorem contentIds?_eq_none_iff : t.contentIds? text = none ↔ t.LacksWord text := by
  have none_iff (tokens : List (String ⊕ TokenId)) :
      tokens.mapM t.tokenId? = none ↔ ∃ token ∈ tokens, t.tokenId? token = none := by
    induction tokens with
    | nil => simp
    | cons token tokens ih =>
      cases found : t.tokenId? token <;> cases rest : tokens.mapM t.tokenId? <;> simp_all
  rw [contentIds?, none_iff, LacksWord]
  simp only [tokenId?_eq_none_iff]
  constructor
  · rintro ⟨_, member, word, rfl, missing⟩
    exact ⟨word, member, missing⟩
  · rintro ⟨word, member, missing⟩
    exact ⟨_, member, word, rfl, missing⟩

/-! ## Templates -/

/-- A template holds the ids of a text once, behind `front` and before `back`. -/
def Frames (t : WordLevel) (front back : List TokenId) : Prop :=
  ∃ before after : List (List TokenId),
    t.template = before.map .fixed ++ .content :: after.map .fixed ∧
      front = before.flatten ∧ back = after.flatten

/-- The pieces with ids that do not depend on the text put these ids in a row. -/
theorem flatMap_fill_fixed (kept : List TokenId) (pieces : List (List TokenId)) :
    (pieces.map TemplatePiece.fixed).flatMap (TemplatePiece.fill kept) = pieces.flatten := by
  induction pieces with
  | nil => rfl
  | cons piece pieces ih => rw [List.map_cons, List.flatMap_cons, ih]; rfl

/-- A template puts the ids that are kept of a text between its own. -/
theorem Frames.ids_frame (frames : t.Frames front back) (kept : List TokenId) :
    (t.frame kept).ids = front ++ kept ++ back := by
  obtain ⟨before, after, template, rfl, rfl⟩ := frames
  rw [frame, template, List.flatMap_append, List.flatMap_cons, flatMap_fill_fixed,
    flatMap_fill_fixed, List.append_assoc]
  rfl

/-- A template adds its own ids. -/
theorem Frames.templateLength_eq (frames : t.Frames front back) :
    t.templateLength = front.length + back.length := by
  obtain ⟨before, after, template, rfl, rfl⟩ := frames
  have added (pieces : List (List TokenId)) (more : Nat) :
      (pieces.map TemplatePiece.fixed).foldr (fun piece length => piece.added + length) more =
        pieces.flatten.length + more := by
    induction pieces with
    | nil => simp
    | cons piece pieces ih =>
      rw [List.map_cons, List.foldr_cons, ih, List.flatten_cons, List.length_append, Nat.add_assoc]
      rfl
  rw [templateLength, template, List.foldr_append, List.foldr_cons, added, added]
  simp [TemplatePiece.added]

/-- The mask of a piece with ids that do not depend on the text has no place for the text. -/
theorem count_flatMap_mask_fixed (kept : List TokenId) (pieces : List (List TokenId)) :
    ((pieces.map TemplatePiece.fixed).flatMap (TemplatePiece.mask kept)).count false = 0 := by
  induction pieces with
  | nil => rfl
  | cons piece pieces ih =>
    rw [List.map_cons, List.flatMap_cons, List.count_append, ih, TemplatePiece.mask,
      List.map_const', List.count_replicate, if_neg (by decide)]

/-- As many ids of an encoding are not from the template as are kept of the text. -/
theorem Frames.count_mask (frames : t.Frames front back) (kept : List TokenId) :
    (t.frame kept).special.count false = kept.length := by
  obtain ⟨before, after, template, -, -⟩ := frames
  change (t.template.flatMap (TemplatePiece.mask kept)).count false = _
  rw [template, List.flatMap_append, List.flatMap_cons, List.count_append, List.count_append,
    count_flatMap_mask_fixed, count_flatMap_mask_fixed, TemplatePiece.mask, List.map_const',
    List.count_replicate_self, Nat.zero_add, Nat.add_zero]

/-- A template that holds a text once can be used. -/
theorem Frames.usable (frames : t.Frames front back) : t.template.contains .unknown = false := by
  obtain ⟨before, after, template, -, -⟩ := frames
  rw [template]
  simp

/-- The templates that hold the ids of a text once are those in which the text comes once and
everything else is known. -/
theorem exists_frames_iff : (∃ front back, t.Frames front back) ↔
    t.template.count .content = 1 ∧ .unknown ∉ t.template := by
  have fixed_of_other (pieces : List TemplatePiece) (absent : .content ∉ pieces)
      (known : .unknown ∉ pieces) : ∃ ids : List (List TokenId), pieces = ids.map .fixed := by
    induction pieces with
    | nil => exact ⟨[], rfl⟩
    | cons piece pieces ih =>
      simp only [List.mem_cons, not_or] at absent known
      obtain ⟨rest, rfl⟩ := ih absent.2 known.2
      cases piece with
      | content => exact absurd rfl absent.1
      | unknown => exact absurd rfl known.1
      | fixed own => exact ⟨own :: rest, rfl⟩
  constructor
  · rintro ⟨front, back, before, after, template, -, -⟩
    rw [template]
    simp [List.count_eq_zero.2]
  · rintro ⟨once, known⟩
    obtain ⟨before, after, template⟩ : ∃ before after, t.template = before ++ .content :: after :=
      List.append_of_mem (List.count_pos_iff.1 (by omega))
    rw [template, List.count_append, List.count_cons_self] at once
    have absentBefore : .content ∉ before := List.count_eq_zero.1 (by omega)
    have absentAfter : .content ∉ after := List.count_eq_zero.1 (by omega)
    simp only [template, List.mem_append, List.mem_cons, not_or] at known
    obtain ⟨front, rfl⟩ := fixed_of_other before absentBefore known.1
    obtain ⟨back, rfl⟩ := fixed_of_other after absentAfter known.2.2
    exact ⟨_, _, front, back, template, rfl, rfl⟩

/-- What is left for a text of a length that a word can hold. -/
theorem room_eq (word : maxLength < UInt64.size) (fits : t.templateLength ≤ maxLength) :
    t.room maxLength = maxLength - t.templateLength := by
  have own : maxLength.toUInt64.toNat = maxLength := UInt64.toNat_ofNat_of_lt' word
  have added : t.templateLength.toUInt64.toNat = t.templateLength :=
    UInt64.toNat_ofNat_of_lt' (Nat.lt_of_le_of_lt fits word)
  rw [room, UInt64.toNat_sub_of_le, own, added]
  rw [UInt64.le_iff_toNat_le, own, added]
  exact fits

/-! ## Long texts -/

/-- What becomes of a text under a template that puts `front` before it and `back` behind, for a
model that takes `maxLength` ids. -/
structure Framed (t : WordLevel) (front back : List TokenId) (maxLength : Nat) (text : String) :
    Prop where
  /-- A word without id fails. -/
  lacking : t.LacksWord text →
    t.encode maxLength text = .error unknownMissing ∧ unknownMissing.kind = .compute
  /-- Every other text has ids of its own. -/
  content : ¬ t.LacksWord text → ∃ ids, t.Content text ids
  /-- A text with no ids is empty, whatever the template adds. -/
  empty : t.Content text [] → t.encode maxLength text = .error .emptyInput
  /-- Of any other text as many ids are kept as there is room for. -/
  cut : ∀ ids, ids ≠ [] → t.Content text ids → t.encode maxLength text =
    .ok (front ++ ids.take (maxLength - front.length - back.length) ++ back)
  /-- Encoding never breaks off. -/
  whole : t.attempt maxLength text = .ofExcept (t.encode maxLength text)
  /-- The result is not too long. -/
  length_le : ∀ ids, t.encode maxLength text = .ok ids → ids.length ≤ maxLength
  /-- An engine cuts nothing off. -/
  uncut : ∀ engine : Engine, engine.tokenizer = t.tokenizer maxLength →
    engine.model.maxSequenceLength = maxLength → engine.encode text = t.encode maxLength text
  /-- In whatever batch the text comes, the state that is taken for the last one of its row stands
  where the row has the last id of the template. -/
  last : ∀ engine : Engine, engine.tokenizer = t.tokenizer maxLength →
    engine.model.maxSequenceLength = maxLength → ∀ texts j ids, texts[j]? = some text →
    t.encode maxLength text = .ok ids → back ≠ [] →
    ∃ row, ∃ position : Nat, (engine.batchOf texts).ids[engine.rowOf texts j]? = some row ∧
      (engine.batchOf texts).lengths[engine.rowOf texts j]? = some ids.length ∧
      row[position]? = back.getLast? ∧
      ∀ width (states : List (List Float32)),
        Pooling.poolRow? .lastToken width states ids.length = states[position]?

/-- A text with ids is cut to the room that the template leaves. -/
theorem encode_eq (frames : t.Frames front back) (room : front.length + back.length < maxLength)
    (word : maxLength < UInt64.size) (content : t.Content text ids) :
    t.encode maxLength text = if ids = [] then .error .emptyInput else
      .ok (front ++ ids.take (maxLength - front.length - back.length) ++ back) := by
  have length := frames.templateLength_eq
  have left : t.room maxLength = maxLength - front.length - back.length := by
    rw [room_eq word (by omega), length, Nat.sub_add_eq]
  have positive : maxLength - front.length - back.length ≠ 0 := by omega
  rw [encode, encoding?, contentIds?_eq_some_iff.2 content]
  simp only [Option.map_some, left, frames.ids_frame, frames.count_mask]
  cases ids with
  | nil => simp
  | cons first rest => simp [positive]

/-- What a template adds to the ids that are kept is no more than there is room for. -/
theorem length_framed_le (room : front.length + back.length < maxLength) (ids : List TokenId) :
    (front ++ ids.take (maxLength - front.length - back.length) ++ back).length ≤ maxLength := by
  rw [List.length_append, List.length_append, List.length_take]
  omega

/-- What is encoded of a text with ids. -/
theorem exists_content (encoded : t.encode maxLength text = .ok ids) :
    ∃ own, t.Content text own := by
  cases found : t.contentIds? text with
  | some own => exact ⟨own, contentIds?_eq_some_iff.1 found⟩
  | none =>
    rw [encode, encoding?, found] at encoded
    cases encoded

/-- An engine leaves alone what its tokenizer has cut to the length that its model allows. -/
theorem engine_encode_eq {engine : Engine} (own : engine.tokenizer = t.tokenizer maxLength)
    (limit : engine.model.maxSequenceLength = maxLength)
    (fits : ∀ ids, t.encode maxLength text = .ok ids → ids ≠ [] ∧ ids.length ≤ maxLength) :
    engine.encode text = t.encode maxLength text := by
  have same : engine.tokenizer.encode text = t.encode maxLength text := by rw [own]; rfl
  rw [Engine.encode, same, limit]
  cases encoded : t.encode maxLength text with
  | error failure => rfl
  | ok ids =>
    obtain ⟨filled, short⟩ := fits ids encoded
    cases ids with
    | nil => exact absurd rfl filled
    | cons first rest => exact congrArg Except.ok (List.take_of_length_le short)

/-- In the batch of some texts the row of a text with ids begins with them, and the state that is
taken for the last one stands where the last of them is. -/
theorem last_of_batch {engine : Engine} {texts : List String} {j : Nat}
    (place : texts[j]? = some text) (encoded : engine.encode text = .ok ids) (filled : ids ≠ []) :
    ∃ row, ∃ position : Nat, (engine.batchOf texts).ids[engine.rowOf texts j]? = some row ∧
      (engine.batchOf texts).lengths[engine.rowOf texts j]? = some ids.length ∧
      row[position]? = ids.getLast? ∧
      ∀ width (states : List (List Float32)),
        Pooling.poolRow? .lastToken width states ids.length = states[position]? := by
  have atPlace : (texts.map engine.encode)[j]? = some (.ok ids) := by simp [place, encoded]
  have own : (engine.sequencesOf texts)[engine.rowOf texts j]? = some ids := by
    simpa [Engine.sequencesOf, Engine.rowOf, List.map_take] using Engine.getElem?_accepted atPlace
  have pads : TokenBatch.Pads (engine.sequencesOf texts) engine.tokenizer.padId
      (engine.batchOf texts) := TokenBatch.pads_ofSequences _ _
  have room := pads.room ids (List.mem_of_getElem? own)
  have positive := List.length_pos_iff.2 filled
  obtain ⟨row, found, -, cells⟩ := pads.ids _ _ own
  refine ⟨row, ids.length - 1, found, ?_, ?_, ?_⟩
  · rw [pads.lengths, List.getElem?_map, own]
    rfl
  · rw [cells _ (by omega), List.getLast?_eq_getElem?,
      List.getElem?_eq_getElem (Nat.sub_lt positive Nat.one_pos), Option.getD_some]
  · intro width states
    rw [Pooling.poolRow?, Nat.max_eq_left positive]

/-- What becomes of a text is settled by the ids that it has and the room that is left for them. -/
theorem Framed.of_frames (frames : t.Frames front back)
    (room : front.length + back.length < maxLength) (word : maxLength < UInt64.size)
    (text : String) : Framed t front back maxLength text := by
  have cases_of_ok {ids : List TokenId} (encoded : t.encode maxLength text = .ok ids) :
      ∃ own, own ≠ [] ∧
        ids = front ++ own.take (maxLength - front.length - back.length) ++ back := by
    obtain ⟨own, content⟩ := exists_content encoded
    have all := encode_eq frames room word content
    rw [encoded] at all
    split at all
    · cases all
    · rename_i filled
      exact ⟨own, filled, Except.ok.inj all⟩
  have fits (ids : List TokenId) (encoded : t.encode maxLength text = .ok ids) :
      ids ≠ [] ∧ ids.length ≤ maxLength := by
    obtain ⟨own, filled, rfl⟩ := cases_of_ok encoded
    refine ⟨?_, length_framed_le room own⟩
    have positive : maxLength - front.length - back.length ≠ 0 := by omega
    simp [filled, positive]
  constructor
  case lacking =>
    intro lacks
    rw [encode, encoding?, contentIds?_eq_none_iff.2 lacks]
    exact ⟨rfl, rfl⟩
  case content =>
    intro complete
    cases found : t.contentIds? text with
    | none => exact absurd (contentIds?_eq_none_iff.1 found) complete
    | some ids => exact ⟨ids, contentIds?_eq_some_iff.1 found⟩
  case empty =>
    intro content
    rw [encode_eq frames room word content, if_pos rfl]
  case cut =>
    intro ids filled content
    rw [encode_eq frames room word content, if_neg filled]
  case whole => rw [attempt, frames.usable, Bool.and_false, if_neg Bool.false_ne_true]
  case length_le => exact fun ids encoded => (fits ids encoded).2
  case uncut => exact fun engine own limit => engine_encode_eq own limit fits
  case last =>
    intro engine own limit texts j ids place encoded ends
    have whole : engine.encode text = .ok ids := (engine_encode_eq own limit fits).trans encoded
    obtain ⟨row, position, found, length, last, pooled⟩ :=
      last_of_batch place whole (fits ids encoded).1
    obtain ⟨kept, -, rfl⟩ := cases_of_ok encoded
    rw [List.getLast?_append_of_ne_nil _ ends] at last
    exact ⟨row, position, found, length, last, pooled⟩

/-- A text that is too long loses ids of its own and none that the template adds. The template may
put any ids before the text and behind it, as long as there is room for one more. Without a word
that has no id a text has ids of its own; if there are none it is empty, and otherwise as many of
them are kept as there is room for. So an engine with the same limit cuts nothing off, and in every
batch the state that is taken for the last one is that of the last id of the template. -/
theorem framed (frames : t.Frames front back) (room : front.length + back.length < maxLength)
    (word : maxLength < UInt64.size) (text : String) : Framed t front back maxLength text :=
  Framed.of_frames frames room word text

/-- A tokenizer whose template ends with a token of its own. -/
def endMarked : WordLevel where
  vocabulary := ((∅ : Std.HashMap String TokenId).insert "one" 3).insert "two" 4
  unknown := "[UNK]"
  added := [("<eos>", 1)]
  early := [{ chars := "<eos>".toList, id := 1 }]
  late := []
  smallLetters := false
  split := .atBlanks
  template := [.content, .fixed [1]]
  padding := some 0

/-- Of two words one has to make room for the end mark. -/
theorem endMarked_framed : endMarked.encode 2 "one two" = .ok [3, 1] := by
  have frames : endMarked.Frames [] [1] := ⟨[], [[1]], rfl, rfl, rfl⟩
  have content : endMarked.Content "one two" [3, 4] := by
    have tokens : endMarked.tokens "one two" = [.inl "one", .inl "two"] := by decide
    rw [Content, tokens]
    refine .cons (.known ?_) (.cons (.known ?_) .nil)
    · simp [endMarked, Std.HashMap.getElem_insert]
    · simp [endMarked]
  exact (framed frames (by decide) (by decide) "one two").cut [3, 4] (by simp) content

end Matryoshka.WordLevel
