import Matryoshka.Failure
import Matryoshka.Pooling
import Matryoshka.Text.Blank
import Matryoshka.Text.SmallLetter

/-!
# Models

A `Model` describes one selectable family of embedding models: how wide its
vectors are, whether they may be cut, how hidden states become one vector, and
where its files are. The catalogue is fixed. A model is found by its name, in any
case and with `-` for `_`, or by one of two short names.
-/

namespace Matryoshka

/-- The description of one model family. -/
structure Model where
  /-- The name it is selected by. -/
  name : String
  /-- One line for people. -/
  description : String
  /-- Number of components of an uncut vector. -/
  nativeDim : Nat
  /-- Whether vectors may be cut to their first components. -/
  supportsTruncation : Bool
  /-- How hidden states become one vector. -/
  pooling : PoolingStrategy
  /-- Where the tokenizer is published. -/
  tokenizerId : String
  /-- Where the weights are published. -/
  weightsId : String
  /-- Number of tokens that one text may have. -/
  maxSequenceLength : Nat
  deriving Repr, DecidableEq

namespace Model

/-- The default model. -/
def qwen3 : Model where
  name := "qwen3"
  description := "Qwen3 Embedding 0.6B, 32K context decoder with MRL support"
  nativeDim := 1024
  supportsTruncation := true
  pooling := .lastToken
  tokenizerId := "Qwen/Qwen3-Embedding-0.6B"
  weightsId := "Qwen/Qwen3-Embedding-0.6B"
  maxSequenceLength := 8192

/-- A lighter decoder. -/
def gemma : Model where
  name := "gemma"
  description := "EmbeddingGemma 300M, lighter alternative with MRL support"
  nativeDim := 768
  supportsTruncation := true
  pooling := .lastToken
  tokenizerId := "onnx-community/embeddinggemma-300m-ONNX"
  weightsId := "onnx-community/embeddinggemma-300m-ONNX"
  maxSequenceLength := 2048

/-- A multilingual encoder. -/
def bgeM3 : Model where
  name := "bge_m3"
  description := "BGE-M3 multilingual encoder"
  nativeDim := 1024
  supportsTruncation := false
  pooling := .mean
  tokenizerId := "BAAI/bge-m3"
  weightsId := "BAAI/bge-m3"
  maxSequenceLength := 8192

/-- An encoder for long texts. -/
def nomic : Model where
  name := "nomic"
  description := "Nomic Embed Text v1.5, long-context BERT-compatible encoder"
  nativeDim := 768
  supportsTruncation := false
  pooling := .mean
  tokenizerId := "nomic-ai/nomic-embed-text-v1.5"
  weightsId := "nomic-ai/nomic-embed-text-v1.5"
  maxSequenceLength := 8192

/-- A multilingual encoder of middle size. -/
def e5Multi : Model where
  name := "e5_multi"
  description := "Multilingual E5 base"
  nativeDim := 768
  supportsTruncation := false
  pooling := .mean
  tokenizerId := "intfloat/multilingual-e5-base"
  weightsId := "intfloat/multilingual-e5-base"
  maxSequenceLength := 512

/-- A small multilingual encoder. -/
def e5Small : Model where
  name := "e5_small"
  description := "Multilingual E5 small, fastest and smallest"
  nativeDim := 384
  supportsTruncation := false
  pooling := .mean
  tokenizerId := "intfloat/multilingual-e5-small"
  weightsId := "intfloat/multilingual-e5-small"
  maxSequenceLength := 512

/-- The model that needs no files. -/
def mock : Model where
  name := "mock"
  description := "Deterministic hash-based model, no weights required"
  nativeDim := 384
  supportsTruncation := true
  pooling := .mean
  tokenizerId := "mock"
  weightsId := "mock"
  maxSequenceLength := 512

/-- Every model that can be selected, the default one first. -/
def catalogue : List Model := [qwen3, gemma, bgeM3, nomic, e5Multi, e5Small, mock]

/-- The model that is used when none is named. -/
def default : Model := qwen3

/-- Whether vectors of `dim` components can be produced: the native number always,
and any smaller positive number from a model that may be cut. -/
def accepts (model : Model) (dim : Nat) : Bool :=
  if dim = 0 || dim > model.nativeDim then false
  else model.supportsTruncation || dim == model.nativeDim

/-- A name in the spelling of the catalogue: trimmed, in small letters, with `_`
for `-`. -/
def canonicalSpelling (name : String) : String :=
  String.ofList ((Text.toSmall (Text.trim name.toList)).map fun c => if c = '-' then '_' else c)

/-- The catalogue name that a short name stands for. -/
def expandShortName (name : String) : String :=
  if name = "e5_base" then "e5_multi" else if name = "bge" then "bge_m3" else name

/-- The model that answers to a name. -/
def byName? (name : String) : Option Model :=
  catalogue.find? fun model => model.name == expandShortName (canonicalSpelling name)

/-- The model that answers to a name, or the list of those that exist. -/
def parse (name : String) : Except Failure Model :=
  match byName? name with
  | some model => .ok model
  | none => .error (.configuration (.unknownModel name (catalogue.map Model.name)))

/-- A dimension is accepted exactly if it is the native one or a smaller positive one
of a model that may be cut; in both cases it is positive. -/
theorem accepts_iff (model : Model) (dim : Nat) :
    model.accepts dim = true ↔
      0 < dim ∧ dim ≤ model.nativeDim ∧
        (model.supportsTruncation = true ∨ dim = model.nativeDim) := by
  unfold accepts
  split
  · rename_i outside
    simp only [Bool.or_eq_true, decide_eq_true_eq] at outside
    simp only [Bool.false_eq_true, false_iff]
    omega
  · rename_i inside
    simp only [Bool.or_eq_true, decide_eq_true_eq] at inside
    simp only [Bool.or_eq_true, beq_iff_eq]
    constructor
    · intro offered
      exact ⟨by omega, by omega, offered⟩
    · intro offered
      exact offered.2.2

/-- A positive native dimension is always accepted. -/
theorem accepts_nativeDim (model : Model) (positive : 0 < model.nativeDim) :
    model.accepts model.nativeDim = true :=
  (accepts_iff model model.nativeDim).2 ⟨positive, Nat.le_refl _, Or.inr rfl⟩

end Model

end Matryoshka
