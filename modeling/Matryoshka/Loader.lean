import Matryoshka.Mock
import Matryoshka.ModelFiles

/-!
# Loaders

A worker gets its model from a loader: the mock model, with failures built in and
with a pace, or the files below a directory.
-/

namespace Matryoshka

/-- Where models come from. -/
inductive Loader where
  /-- The mock model; every forward pass takes `latency` milliseconds. -/
  | mock (faults : Mock.Faults) (latency : Nat)
  /-- The files below the directory `root`; `isFile` says which there are. -/
  | files (root : String) (isFile : String → Bool)

namespace Loader

/-- The mock model without failures or delay. -/
def plain : Loader := mock {} 0

/-- What loading a model comes to. -/
def load (model : Model) : Loader → Attempt Engine
  | mock faults _ => Mock.load faults model
  | files root isFile => ModelFiles.load isFile root model

/-- How long a forward pass takes, in milliseconds. -/
def latency : Loader → Nat
  | mock _ latency => latency
  | files _ _ => 0

/-- Whether this is the mock model without failures or delay. -/
def isPlain : Loader → Bool
  | mock faults latency => faults == {} && latency == 0
  | files _ _ => false

end Loader

end Matryoshka
