import Matryoshka.Proofs.Mock.Rows

/-!
# Batching

What an engine makes of a text does not depend on the texts that share its batch, on their
order, or on what the forward pass leaves in padded positions. Two engines whose states in a row
are the same function of the tokens of that row compute every batch alike
(`compute_eq_of_rowLocal`), so the outcomes of a batch are those of its texts one by one. Two
engines are compared instead of two computations of one, since a forward pass may come to other
paddings the second time.
-/

namespace Matryoshka

namespace Engine

variable {engine other : Engine} {states : List TokenId → List (List Float32)} {dim : Nat}

/-- The outcomes of a batch are those that another engine comes to for its texts, each in a
batch of its own. -/
def ComputesAlone (engine other : Engine) (dim : Nat) (texts : List String) : Prop :=
  ∃ outcomes, (engine.compute texts dim).outcome = .done outcomes ∧
    outcomes.length = texts.length ∧
    ∀ (i : Nat) (text : String), texts[i]? = some text →
      ∃ outcome, outcomes[i]? = some outcome ∧
        (other.compute [text] dim).outcome = .done [outcome]

/-- What is made of one text depends on the model and on how texts become tokens. -/
theorem alone_congr (model : other.model = engine.model)
    (encode : other.tokenizer.encode = engine.tokenizer.encode) :
    other.alone states dim = engine.alone states dim := by
  have encodes (text : String) : other.encode text = engine.encode text := by
    rw [Engine.encode, encode, model, Engine.encode]
  funext text
  simp only [alone, encodes, pooledOf, model]

/-- Engines with the same states in the same rows come to the same outcomes, whatever they have
in padded positions. -/
theorem compute_eq_of_rowLocal (own : engine.RowLocal states) (others : other.RowLocal states)
    (model : other.model = engine.model)
    (encode : other.tokenizer.encode = engine.tokenizer.encode)
    (accepts : engine.model.accepts dim = true) (room : 1 ≤ engine.model.maxSequenceLength)
    (texts : List String) :
    (other.compute texts dim).outcome = (engine.compute texts dim).outcome := by
  rw [compute_of_rowLocal own accepts room, compute_of_rowLocal others (model ▸ accepts)
    (model ▸ room), alone_congr model encode]

/-- Engines with the same states in the same rows compute a batch as its texts one by one. -/
theorem computesAlone_of_rowLocal (own : engine.RowLocal states) (others : other.RowLocal states)
    (model : other.model = engine.model)
    (encode : other.tokenizer.encode = engine.tokenizer.encode)
    (accepts : engine.model.accepts dim = true) (room : 1 ≤ engine.model.maxSequenceLength)
    (texts : List String) : engine.ComputesAlone other dim texts := by
  refine ⟨texts.map (engine.alone states dim), compute_of_rowLocal own accepts room texts,
    List.length_map _, fun i text place => ⟨engine.alone states dim text, ?_, ?_⟩⟩
  · rw [List.getElem?_map, place, Option.map_some]
  · rw [compute_eq_of_rowLocal own others model encode accepts room,
      compute_of_rowLocal own accepts room, List.map_singleton]

end Engine

/-! ## More positions than asked for -/

/-- A tensor with one more position in every row, whose components are all `fill`. -/
def Tensor.widen {α : Type} (tensor : Tensor α) (fill : α) : Tensor α where
  rows := tensor.rows
  positions := tensor.positions + 1
  width := tensor.width
  cells := tensor.cells.map (· ++ [List.replicate tensor.width fill])
  length_cells := by rw [List.length_map, tensor.length_cells]
  length_row := by
    intro row member
    obtain ⟨shorter, there, rfl⟩ := List.mem_map.1 member
    rw [List.length_append, tensor.length_row shorter there, List.length_singleton]
  length_state := by
    intro row member state inside
    obtain ⟨shorter, there, rfl⟩ := List.mem_map.1 member
    rcases List.mem_append.1 inside with before | last
    · exact tensor.length_state shorter there state before
    · rw [List.mem_singleton.1 last, List.length_replicate]

namespace Engine

variable {engine : Engine} {states : List TokenId → List (List Float32)}

/-- An engine whose forward pass gives one position more than it is asked for. -/
def widen (engine : Engine) (fill : Float32) : Engine where
  model := engine.model
  tokenizer := engine.tokenizer
  forward batch :=
    match engine.forward batch with
    | .done tensor => .done (tensor.widen fill)
    | .failed failure => .failed failure
    | .aborted => .aborted

/-- One position more leaves the states of the tokens as they are. -/
theorem RowLocal.widen (own : engine.RowLocal states) (fill : Float32) :
    (engine.widen fill).RowLocal states := by
  constructor
  intro sequences tokens
  obtain ⟨tensor, forwarded, rows, positions, width, cells⟩ := own.forward_done sequences tokens
  refine ⟨tensor.widen fill, ?_, rows, Nat.le_succ_of_le positions, width, ?_⟩
  · change (match engine.forward (.ofSequences sequences engine.tokenizer.padId) with
      | .done tensor => Attempt.done (tensor.widen fill)
      | .failed failure => .failed failure
      | .aborted => .aborted) = _
    rw [forwarded]
  · intro k ids row atIds atRow
    obtain ⟨shorter, place, rfl⟩ := Option.map_eq_some_iff.1
      ((List.getElem?_map (f := (· ++ [List.replicate tensor.width fill]))).symm.trans atRow)
    have inside : ids.length ≤ shorter.length := by
      rw [tensor.length_row shorter (List.mem_of_getElem? place)]
      exact Nat.le_trans
        (TokenBatch.length_le_longest sequences ids (List.mem_of_getElem? atIds)) positions
    rw [List.take_append_of_le_length inside, cells k ids shorter atIds place]

/-! ## The law -/

/-- Batching and padding never change an embedding. An engine whose forward pass always comes to
enough states of the right width, of which those of the tokens of a row are a function of these
tokens, computes a batch as its texts one by one: there is an outcome for each text, in its
place, and it is the outcome of the text alone, also when the forward pass has other states in
padded positions then. The mock model without failures is such an engine, for every description
of a model that leaves room for a token. -/
theorem batching_changes_nothing :
    (∀ (engine other : Engine) (states : List TokenId → List (List Float32)) (dim : Nat)
      (texts : List String), engine.RowLocal states → other.RowLocal states →
      other.model = engine.model → other.tokenizer.encode = engine.tokenizer.encode →
      engine.model.accepts dim = true → 1 ≤ engine.model.maxSequenceLength →
      engine.ComputesAlone other dim texts) ∧
    (∀ (model : Model) (dim : Nat) (texts : List String), model.accepts dim = true →
      1 ≤ model.maxSequenceLength →
      (Mock.engine {} model).ComputesAlone (Mock.engine {} model) dim texts) := by
  constructor
  · intro engine other states dim texts own others model encode accepts room
    exact computesAlone_of_rowLocal own others model encode accepts room texts
  · intro model dim texts accepts room
    have own := Mock.rowLocal_engine model
    exact computesAlone_of_rowLocal own own rfl rfl accepts room texts

/-- Texts of different lengths, one of them empty and one of them twice, are computed by the mock
model as they are alone by one that has further states of padding. -/
theorem mixed_batching_changes_nothing :
    let model := { Model.mock with nativeDim := 2 }
    let texts := ["one two three", "", "one", "one two three"]
    (Mock.engine {} model).ComputesAlone ((Mock.engine {} model).widen 1000) 2 texts ∧
      (Mock.engine {} model).ComputesAlone (Mock.engine {} model) 1 texts := by
  intro model texts
  have own := Mock.rowLocal_engine model
  exact ⟨batching_changes_nothing.1 _ _ _ 2 texts own (own.widen 1000) rfl rfl (by decide)
    (by decide), batching_changes_nothing.2 model 1 texts (by decide) (by decide)⟩

end Engine

end Matryoshka
