import Matryoshka.Proofs.Mock.Rows

/-!
# The conduct of a computation

What `Engine.compute` does with a list of texts, for every tokenizer and every forward pass:
which texts it has encoded, which batch it hands on, and what it makes of the answer
(`Engine.Conduct`). The padded batch is described cell by cell (`TokenBatch.Pads`), the pooled
vector by the states of the tokens alone (`Pooling.Pools`) and the hidden states that are taken
by their three extents (`Engine.Shaped`). A text with tokens has at least one after it was cut, so
pooling has a state to read in every row and cannot break off.
-/

namespace Matryoshka

namespace TokenBatch

/-- A batch holds the sequences in order: it is as wide as the longest of them, a cell within a
sequence holds its id and is marked, and every other cell holds `padId` and is not. -/
structure Pads (sequences : List (List TokenId)) (padId : TokenId) (batch : TokenBatch) :
    Prop where
  /-- The lengths are those of the sequences. -/
  lengths : batch.lengths = sequences.map List.length
  /-- There is a row of ids for each sequence. -/
  rows : batch.ids.length = sequences.length
  /-- There is a row of marks for each sequence. -/
  maskRows : batch.mask.length = sequences.length
  /-- Every sequence has room. -/
  room : ∀ sequence ∈ sequences, sequence.length ≤ batch.positions
  /-- Some sequence takes all the room. -/
  tight : batch.positions = 0 ∨ ∃ sequence ∈ sequences, sequence.length = batch.positions
  /-- The row of a sequence has its ids, and then copies of `padId`. -/
  ids : ∀ (k : Nat) (sequence : List TokenId), sequences[k]? = some sequence →
    ∃ row, batch.ids[k]? = some row ∧ row.length = batch.positions ∧
      ∀ p < batch.positions, row[p]? = some (sequence[p]?.getD padId)
  /-- The marks of a sequence are set where it has ids. -/
  mask : ∀ (k : Nat) (sequence : List TokenId), sequences[k]? = some sequence →
    ∃ row, batch.mask[k]? = some row ∧ row.length = batch.positions ∧
      ∀ p < batch.positions, row[p]? = some (decide (p < sequence.length))

/-- The longest sequence is one of them. -/
theorem exists_length_eq_longest (sequences : List (List TokenId)) :
    longest sequences = 0 ∨ ∃ sequence ∈ sequences, sequence.length = longest sequences := by
  induction sequences with
  | nil => exact .inl rfl
  | cons first rest ih =>
    have step : longest (first :: rest) = max first.length (longest rest) := rfl
    rcases Nat.le_total (longest rest) first.length with shorter | longer
    · exact .inr ⟨first, List.mem_cons_self, by rw [step, Nat.max_eq_left shorter]⟩
    · rw [step, Nat.max_eq_right longer]
      exact ih.imp_right fun ⟨sequence, member, length⟩ =>
        ⟨sequence, List.mem_cons_of_mem _ member, length⟩

/-- A padded list has its own values first and then the fill. -/
theorem getElem?_padRight {β : Type} {size p : Nat} {fill : β} {values : List β}
    (inside : p < size) : (padRight size fill values)[p]? = some (values[p]?.getD fill) := by
  unfold padRight
  by_cases own : p < values.length
  · rw [List.getElem?_append_left own, List.getElem?_eq_getElem own, Option.getD_some]
  · have beyond : values.length ≤ p := Nat.le_of_not_lt own
    rw [List.getElem?_append_right beyond, List.getElem?_eq_none beyond, Option.getD_none,
      List.getElem?_replicate, if_pos (by omega)]

/-- The batch of some sequences holds them in order. -/
theorem pads_ofSequences (sequences : List (List TokenId)) (padId : TokenId) :
    Pads sequences padId (ofSequences sequences padId) := by
  have room := length_le_longest sequences
  rw [ofSequences_eq]
  refine ⟨rfl, List.length_map _, List.length_map _, room, exists_length_eq_longest sequences,
    fun k sequence place => ?_, fun k sequence place => ?_⟩
  · refine ⟨padRight (longest sequences) padId sequence, ?_, ?_, fun p inside => ?_⟩
    · simp only [List.getElem?_map, place, Option.map_some]
    · exact length_padRight _ _ _ (room sequence (List.mem_of_getElem? place))
    · exact getElem?_padRight inside
  · refine ⟨maskRow (longest sequences) sequence, ?_, ?_, fun p inside => ?_⟩
    · simp only [List.getElem?_map, place, Option.map_some]
    · refine length_padRight _ _ _ ?_
      rw [List.length_map]
      exact room sequence (List.mem_of_getElem? place)
    · refine (getElem?_padRight inside).trans ?_
      rw [List.getElem?_map]
      by_cases own : p < sequence.length
      · simp [own]
      · simp [own]

end TokenBatch

namespace Pooling

variable {α : Type} [Scalar α] {strategy : PoolingStrategy} {width : Nat}

/-- A vector that is pooled from states: the last of them, or their mean. -/
inductive Pools (width : Nat) (states : List (List α)) : PoolingStrategy → List α → Prop
  /-- The last state itself. -/
  | last {vector : List α} (last : states.getLast? = some vector) :
      Pools width states .lastToken vector
  /-- The mean of the states. -/
  | mean : Pools width states .mean (meanState width states)

/-- Of a row with tokens, the states of these tokens are pooled and no others. -/
theorem pools_of_poolRow? {row : List (List α)} {tokens : Nat} {vector : List α}
    (positive : 0 < tokens) (inside : tokens ≤ row.length)
    (pooled : poolRow? strategy width row tokens = some vector) :
    Pools width (row.take tokens) strategy vector := by
  have used : max tokens 1 = tokens := Nat.max_eq_left positive
  cases strategy with
  | lastToken =>
    simp only [poolRow?, used] at pooled
    refine .last ?_
    rw [List.getLast?_eq_getElem?, List.length_take, Nat.min_eq_left inside,
      List.getElem?_take_of_lt (by omega)]
    exact pooled
  | mean =>
    simp only [poolRow?, used, if_pos inside, Option.some.injEq] at pooled
    exact pooled ▸ .mean

/-- Rows with as many positions as tokens can all be pooled. -/
theorem exists_poolRows? {rows : List (List (List α))} {lengths : List Nat}
    (same : rows.length = lengths.length)
    (each : ∀ (k : Nat) (row : List (List α)) (tokens : Nat), rows[k]? = some row →
      lengths[k]? = some tokens → max tokens 1 ≤ row.length) :
    ∃ vectors, poolRows? strategy width rows lengths = some vectors := by
  have pooled : poolRows? strategy width rows ((rows.zip lengths).map Prod.snd) =
      some ((rows.zip lengths).map fun item =>
        (poolRow? strategy width item.1 item.2).getD []) :=
    poolRows?_eq_some (by rw [List.length_zip, ← same, Nat.min_self]) ?_
  · rw [List.map_snd_zip (Nat.le_of_eq same.symm)] at pooled
    exact ⟨_, pooled⟩
  · rintro k row ⟨own, tokens⟩ atRow atItem
    obtain ⟨atOwn, atTokens⟩ := List.getElem?_zip_eq_some.1 atItem
    obtain rfl : row = own := Option.some.inj (atRow.symm.trans atOwn)
    obtain ⟨vector, found⟩ := Option.isSome_iff_exists.1
      ((poolRow?_isSome_iff strategy width row tokens).2 (each k row tokens atRow atTokens))
    rw [found, Option.getD_some]

/-- Adding up states of one width keeps it. -/
theorem length_foldl_zipWith {states : List (List α)} {total : List α}
    (full : total.length = width) (each : ∀ state ∈ states, state.length = width) :
    (states.foldl (List.zipWith Scalar.add) total).length = width := by
  induction states generalizing total with
  | nil => exact full
  | cons state states ih =>
    refine ih ?_ fun later member => each later (List.mem_cons_of_mem _ member)
    rw [List.length_zipWith, full, each state List.mem_cons_self, Nat.min_self]

/-- A pooled vector is as wide as the states. -/
theorem length_of_poolRow? {row : List (List α)} {tokens : Nat} {vector : List α}
    (each : ∀ state ∈ row, state.length = width)
    (pooled : poolRow? strategy width row tokens = some vector) : vector.length = width := by
  cases strategy with
  | lastToken => exact each vector (List.mem_of_getElem? pooled)
  | mean =>
    simp only [poolRow?] at pooled
    split at pooled
    · cases pooled
      rw [meanState, List.length_map]
      exact length_foldl_zipWith List.length_replicate fun state member =>
        each state (List.mem_of_mem_take member)
    · cases pooled

end Pooling

namespace Engine

variable {engine : Engine} {texts : List String} {dim : Nat}

/-! ## What an engine has to do -/

/-- What becomes of a text before the forward pass. -/
inductive Encodes (engine : Engine) (text : String) : Except Failure (List TokenId) → Prop
  /-- The tokenizer fails on it. -/
  | failed {failure : Failure} (failed : engine.tokenizer.encode text = .error failure) :
      Encodes engine text (.error failure)
  /-- It has no tokens. -/
  | empty (empty : engine.tokenizer.encode text = .ok []) :
      Encodes engine text (.error .emptyInput)
  /-- It has tokens, and keeps as many of the first as the model allows. -/
  | tokens {ids : List TokenId} (found : engine.tokenizer.encode text = .ok ids)
      (some : ids ≠ []) : Encodes engine text (.ok (ids.take engine.model.maxSequenceLength))

/-- Hidden states have a row for each sequence of a batch, a state at each of its positions and
the width of the model. -/
structure Shaped (model : Model) (batch : TokenBatch) (states : Tensor Float32) : Prop where
  /-- One row for each sequence. -/
  rows : states.rows = batch.rows
  /-- At least as many positions as the batch has. -/
  positions : batch.positions ≤ states.positions
  /-- States as wide as the model says. -/
  width : states.width = model.nativeDim

/-- An outcome for the text at place `j`, read off the hidden states of its batch. -/
inductive Delivers (engine : Engine) (dim : Nat) (texts : List String)
    (states : Tensor Float32) (j : Nat) (text : String) : ItemOutcome → Prop
  /-- The text has no tokens, for this reason. -/
  | refused {failure : Failure} (encoded : engine.Encodes text (.error failure)) :
      Delivers engine dim texts states j text (.error failure)
  /-- The states of its tokens, in its own row, are pooled, cut and rescaled. -/
  | vector {ids : List TokenId} {row : List (List Float32)} {pooled vector : List Float32}
      (encoded : engine.Encodes text (.ok ids))
      (own : (engine.sequencesOf texts)[engine.rowOf texts j]? = some ids)
      (found : states.cells[engine.rowOf texts j]? = some row)
      (pools : Pooling.Pools engine.model.nativeDim (row.take ids.length) engine.model.pooling
        pooled)
      (rescaled : Vector.truncate? pooled dim = some vector) :
      Delivers engine dim texts states j text (.ok vector)
  /-- What is left of the pooled states cannot be rescaled. -/
  | flat {ids : List TokenId} {row : List (List Float32)} {pooled : List Float32}
      (encoded : engine.Encodes text (.ok ids))
      (own : (engine.sequencesOf texts)[engine.rowOf texts j]? = some ids)
      (found : states.cells[engine.rowOf texts j]? = some row)
      (pools : Pooling.Pools engine.model.nativeDim (row.take ids.length) engine.model.pooling
        pooled)
      (flat : Vector.truncate? pooled dim = none) :
      Delivers engine dim texts states j text (.error (.compute engine.model.name .zeroVector))

/-- All that a computation does, and what it comes to. -/
structure Conduct (engine : Engine) (texts : List String) (dim : Nat)
    (computation : Computation) : Prop where
  /-- A size that the model does not offer is refused before any text is looked at. -/
  refused : engine.model.accepts dim = false → computation =
    ⟨[], [], .failed (.configuration (.unsupportedDimension engine.model.name dim))⟩
  /-- Each text is encoded once. -/
  asked : engine.model.accepts dim = true → computation.encodings = texts
  /-- Texts without tokens need no forward pass, and each is reported with its own failure. -/
  tokenless : engine.model.accepts dim = true →
    (∀ text ∈ texts, ∃ failure, engine.Encodes text (.error failure)) →
    computation.passes = [] ∧ ∃ outcomes, computation.outcome = .done outcomes ∧
      outcomes.length = texts.length ∧
      ∀ (j : Nat) (text : String), texts[j]? = some text →
        ∃ failure, engine.Encodes text (.error failure) ∧ outcomes[j]? = some (.error failure)
  /-- Otherwise there is one forward pass, on the texts with tokens in order. -/
  passes : engine.model.accepts dim = true →
    (∃ text ∈ texts, ∃ ids, engine.Encodes text (.ok ids)) →
    computation.passes = [engine.batchOf texts] ∧
      TokenBatch.Pads (texts.filterMap fun text => (engine.encode text).toOption)
        engine.tokenizer.padId (engine.batchOf texts)
  /-- A failure of the forward pass fails the computation. -/
  failed : ∀ failure, computation.passes = [engine.batchOf texts] →
    engine.forward (engine.batchOf texts) = .failed failure →
    computation.outcome = .failed failure
  /-- Only a forward pass that breaks off breaks the computation off. -/
  aborted : computation.outcome = .aborted ↔ computation.passes = [engine.batchOf texts] ∧
    engine.forward (engine.batchOf texts) = .aborted
  /-- Hidden states of another shape are refused. -/
  misshapen : ∀ states, computation.passes = [engine.batchOf texts] →
    engine.forward (engine.batchOf texts) = .done states →
    ¬Shaped engine.model (engine.batchOf texts) states →
    computation.outcome = .failed (.compute engine.model.name (.unexpectedShape
      [states.rows, states.positions, states.width]
      [(engine.batchOf texts).rows, (engine.batchOf texts).positions, engine.model.nativeDim]))
  /-- From hidden states of the right shape each text has its own outcome. -/
  computed : ∀ states, computation.passes = [engine.batchOf texts] →
    engine.forward (engine.batchOf texts) = .done states →
    Shaped engine.model (engine.batchOf texts) states →
    ∃ outcomes, computation.outcome = .done outcomes ∧ outcomes.length = texts.length ∧
      ∀ (j : Nat) (text : String), texts[j]? = some text →
        ∃ outcome, outcomes[j]? = some outcome ∧
          engine.Delivers dim texts states j text outcome
  /-- A vector has as many components as were asked for, and at least one. -/
  vectors : ∀ outcomes vector, computation.outcome = .done outcomes →
    .ok vector ∈ outcomes → vector.length = dim ∧ 0 < dim

/-! ## Encoding -/

/-- Encoding does what it has to do. -/
theorem encodes_encode (engine : Engine) (text : String) :
    engine.Encodes text (engine.encode text) := by
  unfold encode
  split
  · rename_i failed
    exact .failed failed
  · rename_i empty
    exact .empty empty
  · rename_i ids some found
    exact .tokens found fun none => some none

/-- Nothing else may become of a text. -/
theorem Encodes.eq_encode {text : String} {encoded : Except Failure (List TokenId)}
    (encodes : engine.Encodes text encoded) : encoded = engine.encode text := by
  unfold encode
  cases encodes with
  | failed failed => rw [failed]
  | empty empty => rw [empty]
  | tokens found some =>
    rename_i ids
    cases ids with
    | nil => exact absurd rfl some
    | cons first rest => rw [found]

/-- The sequences of a batch are those of the texts that have tokens, in order. -/
theorem sequencesOf_eq_filterMap (engine : Engine) (texts : List String) :
    engine.sequencesOf texts = texts.filterMap fun text => (engine.encode text).toOption := by
  unfold sequencesOf
  induction texts with
  | nil => rfl
  | cons text texts ih =>
    cases encoded : engine.encode text with
    | error failure =>
      rw [List.map_cons, encoded, accepted, ih, List.filterMap_cons, encoded]
      rfl
    | ok ids =>
      rw [List.map_cons, encoded, accepted, ih, List.filterMap_cons, encoded]
      rfl

/-- No text has tokens exactly if there are no sequences. -/
theorem sequencesOf_eq_nil_iff : engine.sequencesOf texts = [] ↔
    ∀ text ∈ texts, ∃ failure, engine.Encodes text (.error failure) := by
  rw [sequencesOf_eq_filterMap, List.filterMap_eq_nil_iff]
  constructor
  · intro none text member
    have encodes := encodes_encode engine text
    cases encoded : engine.encode text with
    | error failure => exact ⟨failure, encoded ▸ encodes⟩
    | ok ids =>
      have tokens := none text member
      rw [encoded] at tokens
      cases tokens
  · intro refused text member
    obtain ⟨failure, encodes⟩ := refused text member
    rw [← encodes.eq_encode]
    rfl

/-- A text with tokens gives a sequence. -/
theorem sequencesOf_ne_nil (tokens : ∃ text ∈ texts, ∃ ids, engine.Encodes text (.ok ids)) :
    engine.sequencesOf texts ≠ [] := by
  intro none
  obtain ⟨text, member, ids, encodes⟩ := tokens
  obtain ⟨failure, refused⟩ := sequencesOf_eq_nil_iff.1 none text member
  have both := encodes.eq_encode.trans refused.eq_encode.symm
  cases both

/-! ## Hidden states -/

/-- The check of hidden states looks at their three extents. -/
theorem fits_iff {model : Model} {batch : TokenBatch} {states : Tensor Float32} :
    fits model batch states = true ↔ Shaped model batch states := by
  simp only [fits, Bool.and_eq_true, beq_iff_eq, decide_eq_true_eq]
  constructor
  · rintro ⟨⟨rows, positions⟩, width⟩
    exact ⟨rows, positions, width⟩
  · rintro ⟨rows, positions, width⟩
    exact ⟨⟨rows, positions⟩, width⟩

/-- Every sequence of a batch has its states in hidden states of the right shape. -/
theorem Shaped.room {states : Tensor Float32}
    (shaped : Shaped engine.model (engine.batchOf texts) states) {k : Nat} {ids : List TokenId}
    {row : List (List Float32)} (own : (engine.sequencesOf texts)[k]? = some ids)
    (found : states.cells[k]? = some row) : ids.length ≤ row.length := by
  have wide := shaped.positions
  rw [batchOf, TokenBatch.positions_ofSequences] at wide
  rw [states.length_row row (List.mem_of_getElem? found)]
  exact Nat.le_trans (TokenBatch.length_le_longest _ ids (List.mem_of_getElem? own)) wide

/-- Hidden states of the right shape can be pooled. -/
theorem Shaped.exists_pool? {states : Tensor Float32}
    (room : 1 ≤ engine.model.maxSequenceLength)
    (shaped : Shaped engine.model (engine.batchOf texts) states) :
    ∃ pooled, Pooling.pool? engine.model.pooling states (engine.batchOf texts).lengths =
      some pooled := by
  refine Pooling.exists_poolRows? ?_ fun k row tokens atRow atLength => ?_
  · rw [states.length_cells]
    exact shaped.rows
  · -- the last state of a row without tokens would be its first, which need not be there
    rw [batchOf, TokenBatch.lengths_ofSequences, List.getElem?_map] at atLength
    obtain ⟨ids, own, rfl⟩ := Option.map_eq_some_iff.1 atLength
    have some_ids := ne_nil_of_mem_sequencesOf room ids (List.mem_of_getElem? own)
    rw [Nat.max_eq_left (List.length_pos_iff.2 some_ids)]
    exact shaped.room own atRow

/-- Hidden states of the right shape are read. -/
theorem exists_readPass_done {states : Tensor Float32} (dim : Nat)
    (room : 1 ≤ engine.model.maxSequenceLength)
    (shaped : Shaped engine.model (engine.batchOf texts) states) :
    ∃ outcomes, engine.readPass texts dim (.done states) = .done outcomes := by
  obtain ⟨pooled, found⟩ := shaped.exists_pool? room
  refine ⟨assemble engine.model dim (texts.map engine.encode) pooled, ?_⟩
  simp only [readPass, readStates, if_pos (fits_iff.2 shaped), found]

/-- Hidden states of another shape are refused. -/
theorem readPass_of_not_shaped {states : Tensor Float32}
    (misshapen : ¬Shaped engine.model (engine.batchOf texts) states) :
    engine.readPass texts dim (.done states) =
      .failed (.compute engine.model.name (.unexpectedShape
        [states.rows, states.positions, states.width]
        [(engine.batchOf texts).rows, (engine.batchOf texts).positions,
          engine.model.nativeDim])) := by
  simp only [readPass, readStates, if_neg (mt fits_iff.1 misshapen), Tensor.shape]

/-- Nothing but the forward pass breaks off. -/
theorem readPass_eq_aborted_iff (room : 1 ≤ engine.model.maxSequenceLength)
    {answer : Attempt (Tensor Float32)} :
    engine.readPass texts dim answer = .aborted ↔ answer = .aborted := by
  constructor
  · intro aborted
    cases answer with
    | done states =>
      by_cases shaped : Shaped engine.model (engine.batchOf texts) states
      · obtain ⟨outcomes, done⟩ := exists_readPass_done dim room shaped
        rw [done] at aborted
        cases aborted
      · rw [readPass_of_not_shaped shaped] at aborted
        cases aborted
    | failed failure => cases aborted
    | aborted => rfl
  · rintro rfl
    rfl

/-- An outcome that is made from a text is read off the hidden states of its batch. -/
theorem delivers_of_answers {states : Tensor Float32} {j : Nat} {text : String}
    {outcome : ItemOutcome} (room : 1 ≤ engine.model.maxSequenceLength)
    (forwarded : engine.forward (engine.batchOf texts) = .done states)
    (shaped : Shaped engine.model (engine.batchOf texts) states)
    (answers : engine.Answers dim texts j text outcome) :
    engine.Delivers dim texts states j text outcome := by
  have encodes := encodes_encode engine text
  cases answers with
  | refused encoded => exact .refused (encoded ▸ encodes)
  | pooled encoded own again found pooled =>
    obtain rfl := Attempt.done.inj (again.symm.trans forwarded)
    rw [encoded] at encodes
    have positive := List.length_pos_iff.2 (ne_nil_of_encode room encoded)
    have pools := Pooling.pools_of_poolRow? positive (shaped.room own found) pooled
    rw [shaped.width] at pools
    unfold itemOutcome
    split <;> rename_i cut
    · exact .vector encodes own found pools cut
    · exact .flat encodes own found pools cut

/-- An outcome is a vector only as the rescaled first components of what was pooled. -/
theorem truncate?_of_itemOutcome {model : Model} {pooled : List Float32} {vector : Embedding}
    (ok : itemOutcome model dim pooled = .ok vector) :
    Vector.truncate? pooled dim = some vector := by
  unfold itemOutcome at ok
  split at ok
  · cases ok
    assumption
  · cases ok

/-- Outcomes are made for a size that the model offers. -/
theorem accepts_of_done {outcomes : List ItemOutcome}
    (computed : (engine.compute texts dim).outcome = .done outcomes) :
    engine.model.accepts dim = true := by
  have goes := engine.goes_compute texts dim
  generalize engine.compute texts dim = computation at goes computed
  cases goes with
  | refused => cases computed
  | tokenless accepts => exact accepts
  | tokens accepts => exact accepts

/-- A vector of a computation has as many components as were asked for, and at least one. -/
theorem length_of_mem_outcomes {outcomes : List ItemOutcome} {vector : Embedding}
    (computed : (engine.compute texts dim).outcome = .done outcomes)
    (member : .ok vector ∈ outcomes) : vector.length = dim ∧ 0 < dim := by
  obtain ⟨positive, narrow, -⟩ :=
    (Model.accepts_iff engine.model dim).1 (accepts_of_done computed)
  obtain ⟨j, text, made⟩ := answers_of_mem computed member
  generalize ok : (.ok vector : ItemOutcome) = outcome at made
  cases made with
  | refused => cases ok
  | pooled _ own forwarded found pooled =>
    rcases outcomes_of_compute computed with ⟨tokenless, -⟩ | ⟨states, _, again, shaped, -⟩
    · rw [tokenless] at own
      cases own
    · -- a row is as wide as the model says only because the states have passed the check
      obtain rfl := Attempt.done.inj (again.symm.trans forwarded)
      have wide := Pooling.length_of_poolRow?
        (states.length_state _ (List.mem_of_getElem? found)) pooled
      rw [Vector.length_of_truncate? (truncate?_of_itemOutcome ok.symm), wide,
        (fits_iff.1 shaped).width]
      exact ⟨Nat.min_eq_left narrow, positive⟩

/-! ## Failures -/

/-- Where a failure that an engine reports comes from. -/
inductive Reports (engine : Engine) (dim : Nat) : Failure → Prop
  /-- The tokenizer fails with it. -/
  | encode {text : String} {failure : Failure}
      (failed : engine.tokenizer.encode text = .error failure) : Reports engine dim failure
  /-- The forward pass fails with it. -/
  | forward {batch : TokenBatch} {failure : Failure}
      (failed : engine.forward batch = .failed failure) : Reports engine dim failure
  /-- A text has no tokens. -/
  | emptyInput : Reports engine dim .emptyInput
  /-- What was computed cannot be used. -/
  | compute (fault : ComputeFault) : Reports engine dim (.compute engine.model.name fault)
  /-- The model does not offer the size. -/
  | unsupported (refused : engine.model.accepts dim = false) :
      Reports engine dim (.configuration (.unsupportedDimension engine.model.name dim))

/-- A failure of a text comes from the tokenizer, or says what is wrong with the text. -/
theorem reports_of_mem {outcomes : List ItemOutcome} {failure : Failure}
    (computed : (engine.compute texts dim).outcome = .done outcomes)
    (member : .error failure ∈ outcomes) : engine.Reports dim failure := by
  obtain ⟨j, text, made⟩ := answers_of_mem computed member
  generalize error : (.error failure : ItemOutcome) = outcome at made
  cases made with
  | refused encoded =>
    cases error
    have encodes := encodes_encode engine text
    rw [encoded] at encodes
    cases encodes with
    | failed failed => exact .encode failed
    | empty => exact .emptyInput
  | pooled =>
    unfold itemOutcome at error
    split at error
    · cases error
    · cases error
      exact .compute _

/-- A failure of a whole computation comes from the forward pass, or says what is wrong with the
hidden states or with the size asked for. -/
theorem reports_of_failed {failure : Failure}
    (computed : (engine.compute texts dim).outcome = .failed failure) :
    engine.Reports dim failure := by
  have goes := engine.goes_compute texts dim
  generalize engine.compute texts dim = computation at goes computed
  cases goes with
  | refused refused =>
    cases computed
    exact .unsupported refused
  | tokenless => cases computed
  | tokens =>
    dsimp only at computed
    cases forwarded : engine.forward (engine.batchOf texts) with
    | done states =>
      rw [forwarded] at computed
      by_cases shaped : Shaped engine.model (engine.batchOf texts) states
      · simp only [readPass, readStates, if_pos (fits_iff.2 shaped)] at computed
        split at computed <;> cases computed
      · rw [readPass_of_not_shaped shaped] at computed
        cases computed
        exact .compute _
    | failed other =>
      rw [forwarded] at computed
      cases computed
      exact .forward forwarded
    | aborted =>
      rw [forwarded] at computed
      cases computed

/-! ## The law -/

/-- There is a forward pass exactly if the model offers the size and some text has tokens. -/
theorem passes_eq_iff : (engine.compute texts dim).passes = [engine.batchOf texts] ↔
    engine.model.accepts dim = true ∧ engine.sequencesOf texts ≠ [] := by
  constructor
  · intro passes
    have goes := engine.goes_compute texts dim
    generalize engine.compute texts dim = computation at goes passes
    cases goes with
    | refused => cases passes
    | tokenless => cases passes
    | tokens accepts tokens => exact ⟨accepts, tokens⟩
  · rintro ⟨accepts, tokens⟩
    rw [compute_of_tokens accepts tokens]

/-- After a forward pass the computation comes to what its answer is read as. -/
theorem outcome_of_passes (passes : (engine.compute texts dim).passes = [engine.batchOf texts]) :
    (engine.compute texts dim).outcome =
      engine.readPass texts dim (engine.forward (engine.batchOf texts)) := by
  obtain ⟨accepts, tokens⟩ := passes_eq_iff.1 passes
  rw [compute_of_tokens accepts tokens]

/-- Without a forward pass nothing breaks off. -/
theorem passes_of_aborted (aborted : (engine.compute texts dim).outcome = .aborted) :
    (engine.compute texts dim).passes = [engine.batchOf texts] := by
  have goes := engine.goes_compute texts dim
  generalize engine.compute texts dim = computation at goes aborted ⊢
  cases goes with
  | refused => cases aborted
  | tokenless => cases aborted
  | tokens => rfl

/-- Texts without tokens are reported one by one, without a forward pass. -/
theorem tokenless_compute (accepts : engine.model.accepts dim = true)
    (refused : ∀ text ∈ texts, ∃ failure, engine.Encodes text (.error failure)) :
    (engine.compute texts dim).passes = [] ∧
      ∃ outcomes, (engine.compute texts dim).outcome = .done outcomes ∧
        outcomes.length = texts.length ∧
        ∀ (j : Nat) (text : String), texts[j]? = some text →
          ∃ failure, engine.Encodes text (.error failure) ∧
            outcomes[j]? = some (.error failure) := by
  rw [compute_of_tokenless accepts (sequencesOf_eq_nil_iff.2 refused)]
  refine ⟨rfl, _, rfl, ?_, fun j text place => ?_⟩
  · rw [length_assemble, List.length_map]
  · obtain ⟨failure, encodes⟩ := refused text (List.mem_of_getElem? place)
    refine ⟨failure, encodes, getElem?_assemble_of_error ?_⟩
    rw [List.getElem?_map, place, Option.map_some, encodes.eq_encode]

/-- Hidden states of the right shape give every text an outcome of its own. -/
theorem computed_compute {states : Tensor Float32} (room : 1 ≤ engine.model.maxSequenceLength)
    (passes : (engine.compute texts dim).passes = [engine.batchOf texts])
    (forwarded : engine.forward (engine.batchOf texts) = .done states)
    (shaped : Shaped engine.model (engine.batchOf texts) states) :
    ∃ outcomes, (engine.compute texts dim).outcome = .done outcomes ∧
      outcomes.length = texts.length ∧
      ∀ (j : Nat) (text : String), texts[j]? = some text →
        ∃ outcome, outcomes[j]? = some outcome ∧
          engine.Delivers dim texts states j text outcome := by
  obtain ⟨outcomes, read⟩ := exists_readPass_done dim room shaped
  have computed : (engine.compute texts dim).outcome = .done outcomes := by
    rw [outcome_of_passes passes, forwarded, read]
  obtain ⟨length, answers⟩ := answers_of_compute computed
  refine ⟨outcomes, computed, length, fun j text place => ?_⟩
  obtain ⟨outcome, atPlace, own⟩ := answers j text place
  exact ⟨outcome, atPlace, delivers_of_answers room forwarded shaped own⟩

/-- What a computation does is laid down in full. A size that the model does not offer is refused
without looking at the texts. Otherwise every text is encoded once and cut to the length that the
model allows. If none has tokens, each is reported with its own failure. Otherwise there is one
forward pass, on the padded batch of the sequences in order: a failure of it fails the
computation, hidden states of another shape are refused, and from hidden states of the right
shape each text gets the reason why it has no tokens or the rescaled vector of its own row. Only a
forward pass that breaks off breaks the computation off. -/
theorem compute_conduct (room : 1 ≤ engine.model.maxSequenceLength) (texts : List String)
    (dim : Nat) : engine.Conduct texts dim (engine.compute texts dim) := by
  constructor
  case refused => exact compute_of_not_accepts
  case asked =>
    intro accepts
    by_cases tokenless : engine.sequencesOf texts = []
    · rw [compute_of_tokenless accepts tokenless]
    · rw [compute_of_tokens accepts tokenless]
  case tokenless => exact tokenless_compute
  case passes =>
    refine fun accepts tokens =>
      ⟨passes_eq_iff.2 ⟨accepts, sequencesOf_ne_nil tokens⟩, ?_⟩
    rw [← sequencesOf_eq_filterMap]
    exact TokenBatch.pads_ofSequences _ _
  case failed =>
    intro failure passes forwarded
    rw [outcome_of_passes passes, forwarded, readPass]
  case aborted =>
    constructor
    · intro aborted
      have passes := passes_of_aborted aborted
      rw [outcome_of_passes passes, readPass_eq_aborted_iff room] at aborted
      exact ⟨passes, aborted⟩
    · rintro ⟨passes, aborted⟩
      rw [outcome_of_passes passes, aborted, readPass]
  case misshapen =>
    intro states passes forwarded misshapen
    rw [outcome_of_passes passes, forwarded, readPass_of_not_shaped misshapen]
  case computed => exact fun states => computed_compute room
  case vectors => exact fun outcomes vector => length_of_mem_outcomes

/-- Three words are cut to two, a text without words takes no row, and a single word is padded.
Both vectors are cut to one component and rescaled. -/
theorem mixed_conduct :
    let engine := Mock.engine {} { Model.mock with nativeDim := 2, maxSequenceLength := 2 }
    let texts := ["one two three", "", "one"]
    (engine.compute texts 1).passes =
        [⟨[[42953, 46361], [42953, 0]], [[true, true], [true, false]], [2, 1], 2⟩] ∧
      (engine.compute texts 1).outcome.map (·.map Except.toOption) =
        .done [some [-1], none, some [-1]] ∧
      engine.Conduct texts 1 (engine.compute texts 1) :=
  ⟨by decide +kernel, by decide +kernel, compute_conduct (by decide) _ _⟩

end Engine

end Matryoshka
