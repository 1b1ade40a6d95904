import Matryoshka.Engine

/-!
# Outcomes and rows

An engine pads the texts that have tokens to one rectangle, and reads its outcomes off
the rows of the hidden states. The rows are fewer than the texts when some have no
tokens, so the row of a text is the number of texts before it that have tokens. Here it
is shown that every outcome of a computation is made from the row of its own text
(`answers_of_compute`), and that an engine whose states in a row depend on the tokens of
that row alone computes each text as if it were the only one (`compute_of_rowLocal`).
-/

namespace Matryoshka

namespace Pooling

variable {α : Type} [Scalar α]

/-- The pooled vector at a place comes from the row and the length at that place. -/
theorem getElem?_poolRows? (strategy : PoolingStrategy) (width : Nat)
    (rows : List (List (List α))) (lengths : List Nat) (vectors : List (List α))
    (same : rows.length = lengths.length)
    (pooled : poolRows? strategy width rows lengths = some vectors) (k : Nat)
    (inside : k < rows.length) :
    ∃ row tokens vector, rows[k]? = some row ∧ lengths[k]? = some tokens ∧
      vectors[k]? = some vector ∧ poolRow? strategy width row tokens = some vector := by
  induction rows generalizing lengths vectors k with
  | nil => simp at inside
  | cons row rows ih =>
    cases lengths with
    | nil => simp at same
    | cons tokens lengths =>
      simp only [poolRows?] at pooled
      split at pooled
      · rename_i vector rest first others
        cases pooled
        cases k with
        | zero => exact ⟨row, tokens, vector, rfl, rfl, rfl, first⟩
        | succ k => exact ih lengths rest (by simpa using same) others k (by simpa using inside)
      · cases pooled

/-- If every row can be pooled, all of them can be pooled together. -/
theorem poolRows?_eq_some {strategy : PoolingStrategy} {width : Nat} {β : Type}
    {rows : List (List (List α))} {items : List β} {tokens : β → Nat} {vector : β → List α}
    (same : rows.length = items.length)
    (each : ∀ (k : Nat) (row : List (List α)) (item : β), rows[k]? = some row →
      items[k]? = some item → poolRow? strategy width row (tokens item) = some (vector item)) :
    poolRows? strategy width rows (items.map tokens) = some (items.map vector) := by
  induction rows generalizing items with
  | nil =>
    cases items with
    | nil => rfl
    | cons item items => simp at same
  | cons row rows ih =>
    cases items with
    | nil => simp at same
    | cons item items =>
      have first := each 0 row item rfl rfl
      have others := ih (by simpa using same) fun k row item atRow atItem =>
        each (k + 1) row item (by simpa using atRow) (by simpa using atItem)
      simp only [List.map_cons, poolRows?, first, others]

/-- Pooling reads no state beyond the tokens. -/
theorem poolRow?_take (strategy : PoolingStrategy) (width : Nat) (row : List (List α))
    (tokens : Nat) (positive : 0 < tokens) (inside : tokens ≤ row.length) :
    poolRow? strategy width row tokens = poolRow? strategy width (row.take tokens) tokens := by
  have used : max tokens 1 = tokens := Nat.max_eq_left positive
  cases strategy with
  | lastToken =>
    simp only [poolRow?, used]
    rw [List.getElem?_take_of_lt (by omega)]
  | mean =>
    simp only [poolRow?, used]
    rw [if_pos inside, if_pos (by simp [inside]), List.take_take, Nat.min_self]

end Pooling

namespace Engine

variable {α : Type} (engine : Engine α)

/-- The sequences of the texts that have tokens. -/
def sequencesOf (texts : List String) : List (List TokenId) :=
  accepted (texts.map engine.encode)

/-- The batch that the forward pass gets for some texts. -/
def batchOf (texts : List String) : TokenBatch :=
  TokenBatch.ofSequences (engine.sequencesOf texts) engine.tokenizer.padId

/-- The row of the text at a place of a batch, if it has tokens: the number of texts before
it that have tokens. -/
def rowOf (texts : List String) (j : Nat) : Nat := (engine.sequencesOf (texts.take j)).length

variable [Scalar α]

/-- An outcome for the text at a place of a batch, made from this text: the reason why it
has no tokens, or the vector pooled from the row that holds its own tokens. -/
inductive Answers (dim : Nat) (texts : List String) (j : Nat) (text : String) :
    ItemOutcome α → Prop
  /-- The text has no tokens. -/
  | refused {failure : Failure} (encoded : engine.encode text = .error failure) :
      Answers dim texts j text (.error failure)
  /-- The text has tokens, and they are in its row. -/
  | pooled {ids : List TokenId} {states : Tensor α} {row : List (List α)}
      {vector : List α} (encoded : engine.encode text = .ok ids)
      (own : (engine.sequencesOf texts)[engine.rowOf texts j]? = some ids)
      (forwarded : engine.forward (engine.batchOf texts) = .done states)
      (found : states.cells[engine.rowOf texts j]? = some row)
      (pooled : Pooling.poolRow? engine.model.pooling states.width row ids.length = some vector) :
      Answers dim texts j text (itemOutcome engine.model dim vector)

variable {engine}

/-- The tokens of a text stand in its row. -/
theorem getElem?_accepted {encoded : List (Except Failure (List TokenId))} {j : Nat}
    {ids : List TokenId} (found : encoded[j]? = some (.ok ids)) :
    (accepted encoded)[(accepted (encoded.take j)).length]? = some ids := by
  induction encoded generalizing j with
  | nil => simp at found
  | cons first rest ih =>
    cases j with
    | zero =>
      obtain rfl : first = .ok ids := by simpa using found
      simp [accepted]
    | succ j =>
      have later := ih (j := j) (by simpa using found)
      cases first <;> simpa [accepted] using later

/-- A text that cannot be encoded keeps its failure. -/
theorem getElem?_assemble_of_error {model : Model} {dim : Nat}
    {encoded : List (Except Failure (List TokenId))} {pooled : List (List α)} {j : Nat}
    {failure : Failure} (found : encoded[j]? = some (.error failure)) :
    (assemble model dim encoded pooled)[j]? = some (.error failure) := by
  induction encoded generalizing pooled j with
  | nil => simp at found
  | cons first rest ih =>
    cases j with
    | zero =>
      obtain rfl : first = .error failure := by simpa using found
      simp [assemble]
    | succ j =>
      have later : rest[j]? = some (.error failure) := by simpa using found
      cases first with
      | error _ => simpa [assemble] using ih later
      | ok _ => cases pooled <;> simpa [assemble] using ih later

/-- A text with tokens gets the outcome of the vector in its row. -/
theorem getElem?_assemble_of_ok {model : Model} {dim : Nat}
    {encoded : List (Except Failure (List TokenId))} {pooled : List (List α)} {j : Nat}
    {ids : List TokenId} {vector : List α} (found : encoded[j]? = some (.ok ids))
    (row : pooled[(accepted (encoded.take j)).length]? = some vector) :
    (assemble model dim encoded pooled)[j]? = some (itemOutcome model dim vector) := by
  induction encoded generalizing pooled j with
  | nil => simp at found
  | cons first rest ih =>
    cases j with
    | zero =>
      obtain rfl : first = .ok ids := by simpa using found
      cases pooled with
      | nil => simp [accepted] at row
      | cons head tail =>
        obtain rfl : head = vector := by simpa [accepted] using row
        simp [assemble]
    | succ j =>
      have later : rest[j]? = some (.ok ids) := by simpa using found
      cases first with
      | error _ =>
        have below : (assemble model dim rest pooled)[j]? = some (itemOutcome model dim vector) :=
          ih later (by simpa [accepted] using row)
        simpa [assemble] using below
      | ok _ =>
        cases pooled with
        | nil => simp at row
        | cons head tail =>
          have below : (assemble model dim rest tail)[j]? = some (itemOutcome model dim vector) :=
            ih later (by simpa [accepted] using row)
          simpa [assemble] using below

/-! ## The three ways of a computation -/

/-- What an engine makes of the answer of its forward pass. -/
def readPass (engine : Engine α) (texts : List String) (dim : Nat) :
    Attempt (Tensor α) → Attempt (List (ItemOutcome α))
  | .done states => engine.readStates dim (texts.map engine.encode) (engine.batchOf texts) states
  | .failed failure => .failed failure
  | .aborted => .aborted

/-- A size that the model does not offer is refused at once. -/
theorem compute_of_not_accepts {texts : List String} {dim : Nat}
    (refused : engine.model.accepts dim = false) : engine.compute texts dim =
      ⟨[], [], .failed (.configuration (.unsupportedDimension engine.model.name dim))⟩ := by
  rw [compute, if_neg (by rw [refused]; exact Bool.false_ne_true)]

/-- Texts without tokens need no forward pass. -/
theorem compute_of_tokenless {texts : List String} {dim : Nat}
    (accepts : engine.model.accepts dim = true) (tokenless : engine.sequencesOf texts = []) :
    engine.compute texts dim =
      ⟨texts, [], .done (assemble engine.model dim (texts.map engine.encode) [])⟩ := by
  unfold sequencesOf at tokenless
  simp only [compute, if_pos accepts, tokenless]

/-- Texts with tokens share one forward pass. -/
theorem compute_of_tokens {texts : List String} {dim : Nat}
    (accepts : engine.model.accepts dim = true) (tokens : engine.sequencesOf texts ≠ []) :
    engine.compute texts dim = ⟨texts, [engine.batchOf texts],
      engine.readPass texts dim (engine.forward (engine.batchOf texts))⟩ := by
  unfold compute batchOf
  rw [if_pos accepts]
  dsimp only
  split
  · rename_i none
    exact absurd none tokens
  · split <;> rename_i forwarded
    · rw [sequencesOf, forwarded]
      rfl
    · rw [sequencesOf, forwarded]
      rfl
    · rw [sequencesOf, forwarded]
      rfl

/-- The three ways in which a computation goes. -/
inductive Goes (engine : Engine α) (texts : List String) (dim : Nat) : Computation α → Prop
  /-- The model does not offer the size. -/
  | refused (refused : engine.model.accepts dim = false) : Goes engine texts dim
      ⟨[], [], .failed (.configuration (.unsupportedDimension engine.model.name dim))⟩
  /-- No text has tokens. -/
  | tokenless (accepts : engine.model.accepts dim = true)
      (tokenless : engine.sequencesOf texts = []) : Goes engine texts dim
      ⟨texts, [], .done (assemble engine.model dim (texts.map engine.encode) [])⟩
  /-- Some texts have tokens. -/
  | tokens (accepts : engine.model.accepts dim = true)
      (tokens : engine.sequencesOf texts ≠ []) : Goes engine texts dim
      ⟨texts, [engine.batchOf texts],
        engine.readPass texts dim (engine.forward (engine.batchOf texts))⟩

/-- Every computation goes in one of these ways. -/
theorem goes_compute (engine : Engine α) (texts : List String) (dim : Nat) :
    engine.Goes texts dim (engine.compute texts dim) := by
  cases accepts : engine.model.accepts dim with
  | false =>
    rw [compute_of_not_accepts accepts]
    exact .refused accepts
  | true =>
    by_cases tokenless : engine.sequencesOf texts = []
    · rw [compute_of_tokenless accepts tokenless]
      exact .tokenless accepts tokenless
    · rw [compute_of_tokens accepts tokenless]
      exact .tokens accepts tokenless

/-- Outcomes are read off hidden states that fit the batch and can be pooled. -/
theorem done_of_readStates {dim : Nat} {encoded : List (Except Failure (List TokenId))}
    {batch : TokenBatch} {states : Tensor α} {outcomes : List (ItemOutcome α)}
    (read : engine.readStates dim encoded batch states = .done outcomes) :
    fits engine.model batch states = true ∧
      ∃ pooled, Pooling.pool? engine.model.pooling states batch.lengths = some pooled ∧
        outcomes = assemble engine.model dim encoded pooled := by
  unfold readStates at read
  split at read
  · rename_i shaped
    split at read
    · rename_i pooled found
      cases read
      exact ⟨shaped, pooled, found, rfl⟩
    · cases read
  · cases read

/-- A computation that comes to outcomes either had no tokens at all, or read them off the
hidden states of its batch. -/
theorem outcomes_of_compute {texts : List String} {dim : Nat} {outcomes : List (ItemOutcome α)}
    (computed : (engine.compute texts dim).outcome = .done outcomes) :
    (engine.sequencesOf texts = [] ∧
        outcomes = assemble engine.model dim (texts.map engine.encode) []) ∨
      ∃ states pooled, engine.forward (engine.batchOf texts) = .done states ∧
        fits engine.model (engine.batchOf texts) states = true ∧
        Pooling.pool? engine.model.pooling states (engine.batchOf texts).lengths = some pooled ∧
        outcomes = assemble engine.model dim (texts.map engine.encode) pooled := by
  have goes := engine.goes_compute texts dim
  generalize engine.compute texts dim = computation at goes computed
  cases goes with
  | refused => cases computed
  | tokenless _ none =>
    cases computed
    exact .inl ⟨none, rfl⟩
  | tokens =>
    dsimp only at computed
    cases forwarded : engine.forward (engine.batchOf texts) with
    | done states =>
      rw [forwarded] at computed
      obtain ⟨shaped, pooled, found, rfl⟩ := done_of_readStates computed
      exact .inr ⟨states, pooled, rfl, shaped, found, rfl⟩
    | failed failure =>
      rw [forwarded] at computed
      cases computed
    | aborted =>
      rw [forwarded] at computed
      cases computed

/-- Every outcome of a computation is made from the text in its place. -/
theorem answers_of_compute {texts : List String} {dim : Nat} {outcomes : List (ItemOutcome α)}
    (computed : (engine.compute texts dim).outcome = .done outcomes) :
    outcomes.length = texts.length ∧
      ∀ (j : Nat) (text : String), texts[j]? = some text →
        ∃ outcome, outcomes[j]? = some outcome ∧ engine.Answers dim texts j text outcome := by
  have alternatives := outcomes_of_compute computed
  constructor
  · rcases alternatives with ⟨-, rfl⟩ | ⟨_, _, _, _, _, rfl⟩ <;> simp [length_assemble]
  · intro j text place
    have atPlace : (texts.map engine.encode)[j]? = some (engine.encode text) := by simp [place]
    cases encoded : engine.encode text with
    | error failure =>
      rw [encoded] at atPlace
      refine ⟨.error failure, ?_, .refused encoded⟩
      rcases alternatives with ⟨-, rfl⟩ | ⟨_, _, _, _, _, rfl⟩ <;>
        exact getElem?_assemble_of_error atPlace
    | ok ids =>
      rw [encoded] at atPlace
      have own : (engine.sequencesOf texts)[engine.rowOf texts j]? = some ids := by
        simpa [sequencesOf, rowOf, List.map_take] using getElem?_accepted atPlace
      rcases alternatives with ⟨none, -⟩ | ⟨states, pooled, forwarded, shaped, read, rfl⟩
      · simp [none] at own
      · have rows : states.rows = (engine.batchOf texts).lengths.length := by
          simp only [fits, TokenBatch.rows, Bool.and_eq_true, beq_iff_eq] at shaped
          exact shaped.1.1
        have inside : engine.rowOf texts j < states.cells.length := by
          rw [states.length_cells, rows]
          simpa [batchOf] using (List.getElem?_eq_some_iff.1 own).1
        obtain ⟨row, tokens, vector, found, length, result, poolRow⟩ :=
          Pooling.getElem?_poolRows? _ _ _ _ _ (by rw [states.length_cells, rows]) read _ inside
        obtain rfl : ids.length = tokens := by
          simpa [batchOf, own] using length
        refine ⟨_, ?_, .pooled encoded own forwarded found poolRow⟩
        exact getElem?_assemble_of_ok atPlace
          (by simpa [sequencesOf, rowOf, List.map_take] using result)

/-- Every outcome of a computation is made from one of the texts. -/
theorem answers_of_mem {texts : List String} {dim : Nat} {outcomes : List (ItemOutcome α)}
    {outcome : ItemOutcome α} (computed : (engine.compute texts dim).outcome = .done outcomes)
    (member : outcome ∈ outcomes) : ∃ j text, engine.Answers dim texts j text outcome := by
  obtain ⟨length, answers⟩ := answers_of_compute computed
  obtain ⟨j, place⟩ := List.mem_iff_getElem?.1 member
  have inside : j < texts.length := length ▸ (List.getElem?_eq_some_iff.1 place).1
  obtain ⟨own, atPlace, made⟩ := answers j texts[j] (List.getElem?_eq_getElem inside)
  obtain rfl := Option.some.inj (atPlace.symm.trans place)
  exact ⟨j, texts[j], made⟩

/-! ## Rows that depend on their own tokens alone -/

/-- The forward pass never fails and keeps to the shape it is asked for, and the states of
the tokens of a row are `states` of these tokens, whatever the other rows hold and however
long they are. -/
structure RowLocal (engine : Engine α) (states : List TokenId → List (List α)) : Prop where
  /-- This holds for every batch of sequences with tokens. -/
  forward_done : ∀ sequences : List (List TokenId), (∀ ids ∈ sequences, ids ≠ []) →
    ∃ tensor, engine.forward (.ofSequences sequences engine.tokenizer.padId) = .done tensor ∧
      tensor.rows = sequences.length ∧ TokenBatch.longest sequences ≤ tensor.positions ∧
      tensor.width = engine.model.nativeDim ∧
      ∀ (k : Nat) (ids : List TokenId) (row : List (List α)), sequences[k]? = some ids →
        tensor.cells[k]? = some row → row.take ids.length = states ids

/-- The vector of tokens whose states are known. -/
def pooledOf (engine : Engine α) (states : List TokenId → List (List α))
    (ids : List TokenId) : List α :=
  (Pooling.poolRow? engine.model.pooling engine.model.nativeDim (states ids) ids.length).getD []

/-- The outcome of a text whose tokens have known states. -/
def alone (engine : Engine α) (states : List TokenId → List (List α)) (dim : Nat)
    (text : String) : ItemOutcome α :=
  match engine.encode text with
  | .error failure => .error failure
  | .ok ids => itemOutcome engine.model dim (engine.pooledOf states ids)

omit [Scalar α] in
/-- Encoding never leaves a text without tokens, unless the model allows none. -/
theorem ne_nil_of_encode {text : String} {ids : List TokenId}
    (room : 1 ≤ engine.model.maxSequenceLength) (encoded : engine.encode text = .ok ids) :
    ids ≠ [] := by
  unfold encode at encoded
  split at encoded
  · cases encoded
  · cases encoded
  · rename_i all some_ids _
    cases encoded
    cases all with
    | nil => exact absurd rfl some_ids
    | cons first rest =>
      obtain ⟨n, limit⟩ := Nat.exists_eq_add_of_le' room
      simp [limit]

omit [Scalar α] in
/-- Every sequence of a batch has tokens. -/
theorem ne_nil_of_mem_sequencesOf {texts : List String}
    (room : 1 ≤ engine.model.maxSequenceLength) :
    ∀ ids ∈ engine.sequencesOf texts, ids ≠ [] := by
  induction texts with
  | nil => simp [sequencesOf, accepted]
  | cons text texts ih =>
    intro ids member
    unfold sequencesOf at member
    cases encoded : engine.encode text with
    | error failure =>
      simp only [List.map_cons, encoded, accepted] at member
      exact ih ids member
    | ok own =>
      simp only [List.map_cons, encoded, accepted, List.mem_cons] at member
      rcases member with rfl | later
      · exact ne_nil_of_encode room encoded
      · exact ih ids later

/-- Outcomes made of vectors that belong to the sequences one by one belong to the texts one
by one. -/
theorem assemble_map (model : Model) (dim : Nat)
    (encoded : List (Except Failure (List TokenId))) (vector : List TokenId → List α) :
    assemble model dim encoded ((accepted encoded).map vector) =
      encoded.map fun
        | .error failure => .error failure
        | .ok ids => itemOutcome model dim (vector ids) := by
  induction encoded with
  | nil => rfl
  | cons first rest ih => cases first <;> simp [accepted, assemble, ih]

/-- The states of a batch are pooled row by row as if each row stood alone. -/
theorem pool?_of_rowLocal {states : List TokenId → List (List α)}
    {sequences : List (List TokenId)} {tensor : Tensor α}
    (tokens : ∀ ids ∈ sequences, ids ≠ []) (rows : tensor.rows = sequences.length)
    (room : TokenBatch.longest sequences ≤ tensor.positions)
    (width : tensor.width = engine.model.nativeDim)
    (own : ∀ (k : Nat) (ids : List TokenId) (row : List (List α)),
      sequences[k]? = some ids → tensor.cells[k]? = some row → row.take ids.length = states ids) :
    Pooling.pool? engine.model.pooling tensor (sequences.map List.length) =
      some (sequences.map (engine.pooledOf states)) := by
  refine Pooling.poolRows?_eq_some (by rw [tensor.length_cells, rows]) ?_
  intro k row ids atRow atIds
  have member : ids ∈ sequences := List.mem_of_getElem? atIds
  have positive : 0 < ids.length := List.length_pos_iff.2 (tokens ids member)
  have inside : ids.length ≤ row.length := by
    rw [tensor.length_row row (List.mem_of_getElem? atRow)]
    exact Nat.le_trans (TokenBatch.length_le_longest sequences ids member) room
  have long : (states ids).length = ids.length := by
    rw [← own k ids row atIds atRow]
    simp [inside]
  rw [Pooling.poolRow?_take _ _ _ _ positive inside, own k ids row atIds atRow, width]
  have pooled := (Pooling.poolRow?_isSome_iff engine.model.pooling engine.model.nativeDim
    (states ids) ids.length).2 (by omega)
  obtain ⟨vector, found⟩ := Option.isSome_iff_exists.1 pooled
  rw [pooledOf, found, Option.getD_some]

/-- An engine whose rows depend on their own tokens computes every text of a batch as if it
were alone, whatever the others are. -/
theorem compute_of_rowLocal {states : List TokenId → List (List α)} {dim : Nat}
    (rowLocal : engine.RowLocal states) (accepts : engine.model.accepts dim = true)
    (room : 1 ≤ engine.model.maxSequenceLength) (texts : List String) :
    (engine.compute texts dim).outcome = .done (texts.map (engine.alone states dim)) := by
  have outcomes := assemble_map engine.model dim (texts.map engine.encode)
    (engine.pooledOf states)
  have each : (texts.map engine.encode).map (fun
      | .error failure => .error failure
      | .ok ids => itemOutcome engine.model dim (engine.pooledOf states ids)) =
      texts.map (engine.alone states dim) := by
    simp only [List.map_map]
    rfl
  rw [each] at outcomes
  by_cases tokenless : engine.sequencesOf texts = []
  · rw [compute_of_tokenless accepts tokenless]
    unfold sequencesOf at tokenless
    rw [tokenless] at outcomes
    exact congrArg Attempt.done outcomes
  · have tokens : ∀ ids ∈ engine.sequencesOf texts, ids ≠ [] := ne_nil_of_mem_sequencesOf room
    obtain ⟨tensor, forwarded, rows, positions, width, own⟩ :=
      rowLocal.forward_done (engine.sequencesOf texts) tokens
    have pooled : Pooling.pool? engine.model.pooling tensor (engine.batchOf texts).lengths =
        some ((engine.sequencesOf texts).map (engine.pooledOf states)) := by
      rw [batchOf, TokenBatch.lengths_ofSequences]
      exact pool?_of_rowLocal tokens rows positions width own
    have shaped : fits engine.model (engine.batchOf texts) tensor = true := by
      simp [fits, batchOf, TokenBatch.rows, rows, positions, width]
    rw [compute_of_tokens accepts tokenless, batchOf, forwarded]
    simp only [readPass, readStates, if_pos shaped, pooled]
    exact congrArg Attempt.done outcomes

end Engine

end Matryoshka
