import Matryoshka.Engine

/-!
# Files of a model

The weights and the tokenizer of a model are looked for below a directory before
anything is loaded. The weights may be in one of two places. Once both files are
found the runtime that computes with them is needed; without it loading breaks off.
-/

namespace Matryoshka.ModelFiles

/-- The path of `name` below a directory. -/
def below (directory name : String) : String :=
  if directory = "" then name
  else if directory.endsWith "/" then directory ++ name
  else directory ++ "/" ++ name

/-- The directory of the weights of a model. -/
def weightsDirectory (root : String) (model : Model) : String := below root model.weightsId

/-- The places where the weights may be. -/
def weightsPaths (root : String) (model : Model) : List String :=
  let directory := weightsDirectory root model
  [below directory "model.onnx", below (below directory "onnx") "model.onnx"]

/-- The place of the tokenizer of a model. -/
def tokenizerPath (root : String) (model : Model) : String :=
  below (below root model.tokenizerId) "tokenizer.json"

/-- The first file of a model that is missing. -/
def missing? (isFile : String → Bool) (root : String) (model : Model) : Option LoadFault :=
  if (weightsPaths root model).any isFile then
    if isFile (tokenizerPath root model) then none
    else some (.tokenizerMissing (tokenizerPath root model))
  else some (.weightsMissing (weightsDirectory root model))

/-- What loading a model from a directory comes to when there is no runtime. -/
def load (isFile : String → Bool) (root : String) (model : Model) : Attempt Engine :=
  match missing? isFile root model with
  | some fault => .failed (.modelLoad model.name fault)
  | none => .aborted

end Matryoshka.ModelFiles
