import Mathlib.Data.List.TakeWhile
import Matryoshka.Tokenizer.Cut

/-!
# Cutting loses nothing but blanks

Whatever tokens are cut out of a text and however they strip the blanks around them, the parts have
the characters of the text in order, blanks aside (`visible_atPatterns`). While the text is walked
through, a token that was cut out may have taken characters ahead. Those behind its own characters
are blanks (`Place.Sound`), so nothing is lost if another token is found among them. The words of a
part have all its characters in the same sense (`visible_words`), and none of them is empty
(`Split.ne_nil_of_mem_words`).
-/

namespace Matryoshka.Cut

/-- The characters that are not blanks. -/
def visible (text : List Char) : List Char := text.filter fun c => !Text.isBlank c

/-- The characters of a part. -/
def Part.chars : Part → List Char
  | .text chars => chars
  | .added pattern => pattern.chars

variable {patterns : List Pattern} {pattern : Pattern} {place : Place} {text : List Char}

/-! ## Blanks -/

@[simp] theorem visible_append (first second : List Char) :
    visible (first ++ second) = visible first ++ visible second :=
  List.filter_append first second

theorem visible_cons (c : Char) (text : List Char) :
    visible (c :: text) = visible [c] ++ visible text :=
  visible_append [c] text

/-- There is nothing to see in a text of blanks. -/
theorem visible_eq_nil (blank : ∀ c ∈ text, Text.isBlank c = true) : visible text = [] :=
  List.filter_eq_nil_iff.2 fun c member => by simp [blank c member]

/-- Leading blanks are not seen. -/
theorem visible_dropWhile (text : List Char) :
    visible (text.dropWhile Text.isBlank) = visible text := by
  have blank : visible (text.takeWhile Text.isBlank) = [] :=
    visible_eq_nil fun c member => List.mem_takeWhile_imp member
  have whole := congrArg visible (List.takeWhile_append_dropWhile (p := Text.isBlank) (l := text))
  rwa [visible_append, blank, List.nil_append] at whole

/-- Blanks in front are not seen. -/
theorem visible_drop {count : Nat} (blank : ∀ c ∈ text.take count, Text.isBlank c = true) :
    visible (text.drop count) = visible text := by
  have whole := congrArg visible (List.take_append_drop count text)
  rwa [visible_append, visible_eq_nil blank, List.nil_append] at whole

/-! ## Patterns -/

/-- A text starts with the pattern that is found in front of it. -/
theorem starts_of_longest? (found : longest? patterns text = some pattern) :
    pattern.chars <+: text := by
  refine List.foldlRecOn
    (motive := fun best : Option Pattern => ∀ pattern ∈ best, pattern.chars <+: text)
    patterns _ (by simp) (fun best sound next _ => ?_) pattern found
  split
  · rename_i beats
    rintro _ ⟨⟩
    simp only [Pattern.beats, Bool.and_eq_true, decide_eq_true_eq, List.isPrefixOf_iff_prefix]
      at beats
    exact beats.1.2
  · exact sound

/-- A pattern that strips what is in front of it takes blanks only. -/
theorem visible_front (pattern : Pattern) (gathered : List Char) :
    visible (pattern.front gathered).reverse = visible gathered.reverse := by
  rw [Pattern.front]
  split
  · simp only [visible, List.filter_reverse]
    exact congrArg List.reverse (visible_dropWhile gathered)
  · rfl

/-- What a pattern takes of a text behind its own characters is blank. -/
theorem isBlank_of_mem_extent (pattern : Pattern) (text : List Char) :
    ∀ c ∈ (text.drop pattern.chars.length).take (pattern.extent text - pattern.chars.length),
      Text.isBlank c = true := by
  intro c member
  rw [Pattern.extent, Nat.add_sub_cancel_left] at member
  split at member
  · rw [← List.prefix_iff_eq_take.1 ( List.takeWhile_prefix _)] at member
    exact List.mem_takeWhile_imp member
  · simp at member

/-- A pattern and what is behind all that it takes have the characters of the text. -/
theorem visible_extent (starts : pattern.chars <+: text) :
    visible pattern.chars ++ visible (text.drop (pattern.extent text)) = visible text := by
  obtain ⟨behind, rfl⟩ := starts
  have blank := isBlank_of_mem_extent pattern (pattern.chars ++ behind)
  have reach : pattern.chars.length ≤ pattern.extent (pattern.chars ++ behind) :=
    Nat.le_add_right _ _
  have rest := visible_drop blank
  rw [List.drop_drop, Nat.add_sub_cancel' reach, List.drop_left] at rest
  rw [rest, visible_append]

/-! ## Whole texts -/

/-- The characters ahead that a token has taken behind its own are blanks. -/
def Place.Sound (place : Place) (text : List Char) : Prop :=
  ∀ c ∈ (text.drop place.found).take (place.taken - place.found), Text.isBlank c = true

/-- The characters of a text that are still to come behind a place. -/
def Place.ahead (place : Place) (text : List Char) : List Char :=
  visible place.gathered.reverse ++ visible (text.drop place.taken)

/-- Walking past a character neither loses nor adds one. -/
theorem Place.ahead_pass (place : Place) (c : Char) (rest : List Char) :
    (place.pass c).ahead rest = place.ahead (c :: rest) := by
  rw [Place.ahead, Place.ahead, Place.pass]
  cases taken : place.taken with
  | zero => simp [visible_cons c rest]
  | succ count => simp

/-- Walking past a character leaves what was taken behind it. -/
theorem Place.Sound.pass {c : Char} {rest : List Char} (sound : place.Sound (c :: rest)) :
    (place.pass c).Sound rest := by
  intro other member
  refine sound other ?_
  rw [Place.pass] at member
  cases found : place.found with
  | zero =>
    cases taken : place.taken with
    | zero => simp [found, taken] at member
    | succ count => simpa [found, taken] using .inr (by simpa [found, taken] using member)
  | succ inside =>
    have same : place.taken - 1 - inside = place.taken - (inside + 1) := by omega
    simpa [found, same] using member

/-- The characters gathered are those of the part they make. -/
theorem flatMap_flush (gathered : List Char) :
    (flush gathered).flatMap Part.chars = gathered.reverse := by
  cases gathered with
  | nil => rfl
  | cons c gathered => simp [flush, Part.chars]

/-- If no token reaches beyond a place, all the text behind it is still to come, but for blanks. -/
theorem Place.Sound.ahead_eq (sound : place.Sound text) (outside : place.found = 0) :
    place.ahead text = visible place.gathered.reverse ++ visible text := by
  rw [Place.Sound, outside, List.drop_zero, Nat.sub_zero] at sound
  rw [Place.ahead, visible_drop sound]

/-- A token that is not of blanks only reaches beyond what the token before it has taken. So if it
strips the blanks in front of it, it still begins before its end. -/
theorem Place.Sound.taken_lt_length (sound : place.Sound text) (outside : place.found = 0)
    (starts : pattern.chars <+: text) (solid : pattern.chars.all Text.isBlank = false) :
    place.taken < pattern.chars.length := by
  rw [Place.Sound, outside, List.drop_zero, Nat.sub_zero] at sound
  refine Nat.lt_of_not_le fun covered => ?_
  have blank : pattern.chars.all Text.isBlank = true := by
    refine List.all_eq_true.2 fun c member => sound c ?_
    rw [List.prefix_iff_eq_take.1 starts] at member
    exact List.take_subset_take_left text covered member
  simp [blank] at solid

/-- What is cut from a place on has the characters ahead. -/
theorem visible_cutFrom (sound : place.Sound text) :
    visible ((cutFrom patterns place text).flatMap Part.chars) = place.ahead text := by
  fun_induction cutFrom patterns place text with
  | case1 place => simp [flatMap_flush, Place.ahead, visible]
  | case2 place c rest inside ih => rw [ih sound.pass, place.ahead_pass]
  | case3 place c rest outside none ih => rw [ih sound.pass, place.ahead_pass]
  | case4 place c rest outside pattern found length fits next ih =>
    have starts := starts_of_longest? found
    have kept : next.Sound (c :: rest) := isBlank_of_mem_extent pattern (c :: rest)
    have later : next.ahead (c :: rest) =
        visible ((c :: rest).drop (pattern.extent (c :: rest))) := rfl
    rw [List.flatMap_append, List.flatMap_cons, flatMap_flush, visible_append, visible_append,
      ih kept.pass, next.ahead_pass, later, Part.chars, visible_extent starts, visible_front,
      sound.ahead_eq (Nat.eq_zero_of_not_pos outside)]
  | case5 place c rest outside pattern found length fits ih =>
    have skipped : Place.Sound { place with found := length } (c :: rest) := by
      intro other member
      rw [Place.Sound, Nat.eq_zero_of_not_pos outside] at sound
      refine sound other ?_
      rw [← List.drop_take] at member
      exact List.mem_of_mem_drop member
    rw [ih skipped.pass, Place.ahead_pass]
    rfl

/-- Cutting tokens out of a text loses nothing but blanks. -/
theorem visible_atPatterns (patterns : List Pattern) (text : List Char) :
    visible ((atPatterns patterns text).flatMap Part.chars) = visible text :=
  visible_cutFrom fun c member => by simp at member

/-- A token that must stand alone is left in a word, and no shorter one is looked for inside it. One
that strips blanks takes those at its sides. -/
example :
    let alone : Pattern := { chars := ['a', 'b'], id := 1, aloneOnly := true }
    let inside : Pattern := { chars := ['b'], id := 2 }
    let greedy : Pattern := { chars := ['-'], id := 3, stripsFront := true, stripsBack := true }
    atPatterns [alone, inside, greedy] "abc - ab b".toList =
      [.text "abc".toList, .added greedy, .added alone, .text " ".toList, .added inside] := by
  decide +kernel

/-! ## Words -/

/-- The characters of some runs that are not of blanks. -/
def solid (runs : List (Kind × List Char)) : List Char :=
  ((runs.filter fun run => run.1 ≠ .blank).map Prod.snd).flatten

/-- An empty run has no characters. -/
theorem solid_nil_cons (kind : Kind) (later : List (Kind × List Char)) :
    solid ((kind, []) :: later) = solid later := by
  by_cases blank : kind = .blank <;> simp [solid, blank]

/-- A character is seen in its run, unless the run is of blanks and so is the character. -/
theorem visible_solid_cons (c : Char) (run : List Char) (later : List (Kind × List Char)) :
    visible (solid ((Kind.of c, c :: run) :: later)) =
      visible [c] ++ visible (solid ((Kind.of c, run) :: later)) := by
  by_cases blank : Kind.of c = .blank
  · have unseen : Text.isBlank c = true := by
      by_contra seen
      rw [Kind.of, if_neg seen] at blank
      split at blank <;> cases blank
    simp [solid, blank, visible, unseen]
  · simp [solid, blank, visible_cons c (run ++ _)]

/-- Runs that are not of blanks have all characters that are seen. -/
theorem visible_solid_runs (text : List Char) : visible (solid (runs text)) = visible text := by
  induction text with
  | nil => rfl
  | cons c rest ih =>
    rw [visible_cons, ← ih, runs]
    split
    · rename_i kind run later found
      rw [found]
      split
      · rename_i same
        rw [← same, visible_solid_cons]
      · rw [visible_solid_cons, solid_nil_cons]
    · rename_i found
      rw [found, visible_solid_cons, solid_nil_cons]

/-- Splitting text into words loses nothing but blanks. -/
theorem visible_words (split : Split) (text : List Char) :
    visible (split.words text).flatten = visible text := by
  cases split with
  | atBlanks =>
    have nonempty : (Text.words text).flatten = (Text.pieces text).flatten :=
      List.flatten_filter_not_isEmpty
    rw [Split.words, nonempty, Text.flatten_pieces, visible, List.filter_filter]
    simp [visible]
  | atSigns => exact visible_solid_runs text
  | nowhere =>
    cases text with
    | nil => rfl
    | cons c rest => simp [Split.words]

/-- No run is empty. -/
theorem ne_nil_of_mem_runs {text : List Char} : ∀ run ∈ runs text, run.2 ≠ [] := by
  fun_induction runs text with
  | case1 => exact fun run member => absurd member List.not_mem_nil
  | case2 c rest run later found ih =>
    rw [found] at ih
    exact List.forall_mem_cons.2 ⟨List.cons_ne_nil c run, (List.forall_mem_cons.1 ih).2⟩
  | case3 c rest kind run later found other ih =>
    rw [found] at ih
    exact List.forall_mem_cons.2 ⟨List.cons_ne_nil c [], ih⟩
  | case4 c rest found ih => simp

/-- No way of splitting text yields an empty word. -/
theorem Split.ne_nil_of_mem_words {split : Split} {text word : List Char}
    (member : word ∈ split.words text) : word ≠ [] := by
  cases split with
  | atBlanks => exact Text.ne_nil_of_mem_words member
  | atSigns =>
    obtain ⟨run, kept, rfl⟩ := List.mem_map.1 member
    exact ne_nil_of_mem_runs run (List.mem_filter.1 kept).1
  | nowhere =>
    rw [Split.words] at member
    split at member
    · cases member
    · rwa [List.mem_singleton.1 member]

end Matryoshka.Cut
