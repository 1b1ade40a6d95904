import Matryoshka.Model
import Matryoshka.Json.Print

/-!
# Models on the wire

The description of a model as a document.
-/

namespace Matryoshka.Wire

open Json

/-- The JSON text of the description of a model. -/
def printModel (model : Model) : List Char :=
  Print.object [
    ("name", Print.string model.name),
    ("description", Print.string model.description),
    ("native_dim", Print.count model.nativeDim),
    ("supports_mrl", Print.bool model.supportsTruncation),
    ("pooling_strategy", Print.string model.pooling.label),
    ("tokenizer_id", Print.string model.tokenizerId),
    ("weights_id", Print.string model.weightsId),
    ("max_sequence_length", Print.count model.maxSequenceLength)]

end Matryoshka.Wire
