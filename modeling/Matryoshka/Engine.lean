import Matryoshka.Model
import Matryoshka.TokenBatch
import Matryoshka.Vector
import Matryoshka.Text.Quoted

/-!
# Inference

An `Engine` is a loaded model: a tokenizer and a forward pass. `compute` turns a
list of texts into one outcome for each of them. Every text is encoded once and
cut to the length that the model allows; the texts that have tokens share one
padded forward pass; the states of each are pooled, cut and rescaled. What fails
for one text is reported in its place and leaves the others alone; what fails for
the whole batch fails the call.

Like the vectors, an engine is written once for any scalars. Where none are named it
computes in single precision, as the program does.
-/

namespace Matryoshka

/-- Text to token ids. -/
structure Tokenizer where
  /-- The ids of a text, special ones included. -/
  encode : String → Except Failure (List TokenId)
  /-- The id that fills up shorter sequences. -/
  padId : TokenId

/-- A model that is ready to compute. -/
structure Engine (α : Type := Float32) where
  /-- The model it belongs to. -/
  model : Model
  /-- How texts become tokens. -/
  tokenizer : Tokenizer
  /-- How a batch of tokens becomes hidden states. -/
  forward : TokenBatch → Attempt (Tensor α)

/-- The outcome for one text. -/
abbrev ItemOutcome (α : Type := Float32) := Except Failure (List α)

/-- What a call to an engine did and returned. -/
structure Computation (α : Type := Float32) where
  /-- The texts given to the tokenizer, in order. -/
  encodings : List String
  /-- The batches given to the forward pass. -/
  passes : List TokenBatch
  /-- One outcome for each text, unless the whole batch failed. -/
  outcome : Attempt (List (ItemOutcome α))

namespace Engine

variable {α : Type}

/-- How an engine shows itself to people. -/
def describe (engine : Engine α) : String :=
  "InferenceEngine \x7b model: " ++ Text.quoted engine.model.name ++ ", .. \x7d"

/-- The ids of one text as the forward pass gets them. -/
def encode (engine : Engine α) (text : String) : Except Failure (List TokenId) :=
  match engine.tokenizer.encode text with
  | .error failure => .error failure
  | .ok [] => .error .emptyInput
  | .ok ids => .ok (ids.take engine.model.maxSequenceLength)

/-- The sequences of the texts that have tokens, in order. -/
def accepted : List (Except Failure (List TokenId)) → List (List TokenId)
  | [] => []
  | .ok ids :: rest => ids :: accepted rest
  | .error _ :: rest => accepted rest

/-- Whether some text has tokens, so that computing needs a forward pass. -/
def needsPass (engine : Engine α) (texts : List String) : Bool :=
  !(accepted (texts.map engine.encode)).isEmpty

/-- Whether hidden states can belong to a batch: a row for each sequence, a state at
each position of the batch, and states as wide as the model says. -/
def fits (model : Model) (batch : TokenBatch) (states : Tensor α) : Bool :=
  states.rows == batch.rows && batch.positions ≤ states.positions &&
    states.width == model.nativeDim

variable [Scalar α]

/-- The outcome for a text whose states were pooled to `pooled`. -/
def itemOutcome (model : Model) (dim : Nat) (pooled : List α) : ItemOutcome α :=
  match Vector.truncate? pooled dim with
  | some vector => .ok vector
  | none => .error (.compute model.name .zeroVector)

/-- The outcomes of all texts: an encoding failure in its place, and for the texts
that have tokens the pooled rows in order. -/
def assemble (model : Model) (dim : Nat) :
    List (Except Failure (List TokenId)) → List (List α) → List (ItemOutcome α)
  | [], _ => []
  | .error failure :: rest, pooled => .error failure :: assemble model dim rest pooled
  | .ok _ :: rest, row :: pooled => itemOutcome model dim row :: assemble model dim rest pooled
  | .ok _ :: rest, [] =>
    .error (.compute model.name (.reported "Missing pooled row")) :: assemble model dim rest []

/-- The outcomes of all texts, from the hidden states of those that have tokens. -/
def readStates (engine : Engine α) (dim : Nat) (encoded : List (Except Failure (List TokenId)))
    (batch : TokenBatch) (states : Tensor α) : Attempt (List (ItemOutcome α)) :=
  if fits engine.model batch states then
    match Pooling.pool? engine.model.pooling states batch.lengths with
    | some pooled => .done (assemble engine.model dim encoded pooled)
    | none => .aborted
  else
    .failed (.compute engine.model.name (.unexpectedShape states.shape
      [batch.rows, batch.positions, engine.model.nativeDim]))

/-- The vectors of `texts` with `dim` components each. -/
def compute (engine : Engine α) (texts : List String) (dim : Nat) : Computation α :=
  if engine.model.accepts dim then
    let encoded := texts.map engine.encode
    match accepted encoded with
    | [] => ⟨texts, [], .done (assemble engine.model dim encoded [])⟩
    | sequences =>
      let batch := TokenBatch.ofSequences sequences engine.tokenizer.padId
      match engine.forward batch with
      | .done states => ⟨texts, [batch], engine.readStates dim encoded batch states⟩
      | .failed failure => ⟨texts, [batch], .failed failure⟩
      | .aborted => ⟨texts, [batch], .aborted⟩
  else ⟨[], [], .failed (.configuration (.unsupportedDimension engine.model.name dim))⟩

/-- There is one outcome for every text. -/
theorem length_assemble (model : Model) (dim : Nat)
    (encoded : List (Except Failure (List TokenId))) (pooled : List (List α)) :
    (assemble model dim encoded pooled).length = encoded.length := by
  induction encoded generalizing pooled with
  | nil => rfl
  | cons first rest ih =>
    cases first with
    | error failure => simp [assemble, ih]
    | ok ids => cases pooled <;> simp [assemble, ih]

end Engine

end Matryoshka
