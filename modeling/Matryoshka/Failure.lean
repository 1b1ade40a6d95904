/-!
# Failures

Everything that can go wrong is one of eight failures. A failure names its
cause, not its wording; `Failure.message` is the only place where the wording of
a whole failure is put together. Failures that reach the library from outside (a
tokenizer, a runtime, a file system) carry the words they came with.
-/

namespace Matryoshka

/-- Why a configuration is refused. -/
inductive ConfigurationFault where
  /-- No model answers to the name; `known` lists those that exist. -/
  | unknownModel (name : String) (known : List String)
  /-- A model that would produce vectors without components. -/
  | zeroNativeDimension (model : String)
  /-- An output dimension of zero. -/
  | zeroOutputDimension
  /-- An output dimension that the model cannot fill. -/
  | outputDimensionTooLarge (dim native : Nat) (model : String)
  /-- An output dimension below the native one, for a model that cannot be cut. -/
  | truncationUnsupported (model : String) (native dim : Nat)
  /-- Batches without room for a request. -/
  | zeroBatchSize
  /-- A queue without room for a request. -/
  | zeroQueueCapacity
  /-- A request that would expire at once. -/
  | zeroRequestTimeout
  /-- A model that would be unloaded at once. -/
  | zeroIdleThreshold
  /-- A shutdown that would not wait. -/
  | zeroShutdownTimeout
  /-- An address that cannot be parsed. -/
  | invalidBindAddress (address : String)
  /-- A request for vectors of a size that the loaded model does not offer. -/
  | unsupportedDimension (model : String) (dim : Nat)
  /-- A fault reported from outside, in its own words. -/
  | reported (text : String)
  deriving Repr, DecidableEq

/-- What is wrong with an address that cannot be parsed. -/
def addressSyntaxFault : String := "invalid socket address syntax"

/-- The wording of a refused configuration. -/
def ConfigurationFault.text : ConfigurationFault → String
  | unknownModel name known =>
    "Unknown model: " ++ name ++ " (expected one of: " ++ ", ".intercalate known ++ ")"
  | zeroNativeDimension model => "Model '" ++ model ++ "' declares a zero native dimension"
  | zeroOutputDimension => "Output dimension must be positive"
  | outputDimensionTooLarge dim native model =>
    "Output dimension " ++ toString dim ++ " exceeds native dimension " ++ toString native ++
      " of model '" ++ model ++ "'"
  | truncationUnsupported model native dim =>
    "Model '" ++ model ++ "' does not support MRL truncation; output dimension must be " ++
      toString native ++ " (got " ++ toString dim ++ ")"
  | zeroBatchSize => "Batch size must be at least 1"
  | zeroQueueCapacity => "Queue capacity must be at least 1"
  | zeroRequestTimeout => "Request timeout must be positive"
  | zeroIdleThreshold => "Idle unload threshold must be positive (omit it to never unload)"
  | zeroShutdownTimeout => "shutdown_timeout_secs must be at least 1"
  | invalidBindAddress address =>
    "Invalid bind address '" ++ address ++ "': " ++ addressSyntaxFault
  | unsupportedDimension model dim =>
    "Model '" ++ model ++ "' cannot produce " ++ toString dim ++ "-dimensional embeddings"
  | reported text => text

/-- Why a computation over loaded weights fails. -/
inductive ComputeFault where
  /-- The hidden states do not have the shape that the batch asks for. -/
  | unexpectedShape (got expected : List Nat)
  /-- The vector to rescale has no usable length. -/
  | zeroVector
  /-- The engine broke off in the middle of the batch. -/
  | engineAborted
  /-- A failure that the mock forward pass was told to produce. -/
  | injected
  /-- A fault reported from outside, in its own words. -/
  | reported (text : String)
  deriving Repr, DecidableEq

/-- The wording of a failed computation. -/
def ComputeFault.text : ComputeFault → String
  | unexpectedShape got expected =>
    "Unexpected hidden state shape [" ++ ", ".intercalate (got.map toString) ++ "], expected [" ++
      ", ".intercalate (expected.map toString) ++ "]"
  | zeroVector => "Cannot normalize zero vector"
  | engineAborted => "Inference engine panicked"
  | injected => "Injected forward pass failure"
  | reported text => text

/-- Why no worker serves a request. -/
inductive Unavailability where
  /-- The service has no worker. -/
  | notRunning
  /-- The worker takes no more requests. -/
  | shuttingDown
  /-- The queue had no room until the deadline. -/
  | queueFull
  /-- The worker took the request and vanished. -/
  | droppedRequest
  /-- The worker vanished before it was told to stop. -/
  | exitedUnexpectedly
  /-- A reason reported from outside, in its own words. -/
  | reported (text : String)
  deriving Repr, DecidableEq

/-- The wording of a reason for being unavailable. -/
def Unavailability.text : Unavailability → String
  | notRunning => "Embedding service is not running"
  | shuttingDown => "Embedding worker is shutting down"
  | queueFull => "Embedding queue is full"
  | droppedRequest => "Embedding worker dropped the request"
  | exitedUnexpectedly => "Embedding worker exited unexpectedly"
  | reported text => text

/-- Why a model cannot be loaded. -/
inductive LoadFault where
  /-- The weights are missing from the directory of the model. -/
  | weightsMissing (directory : String)
  /-- The tokenizer file is missing. -/
  | tokenizerMissing (path : String)
  /-- The tokenizer file cannot be used. -/
  | unusableTokenizer (detail : String)
  /-- The loader broke off. -/
  | loaderAborted
  /-- A failure that the mock loader was told to produce. -/
  | injected
  /-- A fault reported from outside, in its own words. -/
  | reported (text : String)
  deriving Repr, DecidableEq

/-- The wording of a failed load. -/
def LoadFault.text : LoadFault → String
  | weightsMissing directory =>
    "model.onnx not found at " ++ directory ++ " (download it first)"
  | tokenizerMissing path =>
    "tokenizer.json not found at " ++ path ++ " (download it first)"
  | unusableTokenizer detail => "Failed to load tokenizer: " ++ detail
  | loaderAborted => "Model loader panicked"
  | injected => "Injected load failure"
  | reported text => text

/-- A failure of the library. -/
inductive Failure where
  /-- A configuration is refused. -/
  | configuration (fault : ConfigurationFault)
  /-- A text has no tokens. -/
  | emptyInput
  /-- A computation over loaded weights fails. -/
  | compute (model : String) (fault : ComputeFault)
  /-- An answer did not come in time. -/
  | timeout (milliseconds : Nat)
  /-- No worker serves the request. -/
  | unavailable (reason : Unavailability)
  /-- A model cannot be loaded. -/
  | modelLoad (model : String) (fault : LoadFault)
  /-- A file cannot be read. -/
  | io (text : String)
  /-- A settings document cannot be read. A well-formed document of the wrong type
  says which; a malformed one has no text here. -/
  | document (mismatch : Option String)
  deriving Repr, DecidableEq

/-- The six kinds that callers tell apart. -/
inductive FailureKind where
  /-- The set-up is wrong: trying again does not help. -/
  | configuration
  /-- The text has nothing to embed. -/
  | emptyInput
  /-- The model failed on the batch. -/
  | compute
  /-- The answer is late. -/
  | timeout
  /-- Nobody serves the request now. -/
  | workerUnavailable
  /-- The model cannot be loaded now. -/
  | modelLoad
  deriving Repr, DecidableEq

namespace Failure

/-- The kind of a failure; unreadable files and documents are faults of the set-up. -/
def kind : Failure → FailureKind
  | configuration _ => .configuration
  | emptyInput => .emptyInput
  | compute _ _ => .compute
  | timeout _ => .timeout
  | unavailable _ => .workerUnavailable
  | modelLoad _ _ => .modelLoad
  | io _ => .configuration
  | document _ => .configuration

/-- Whether the same request may succeed later. -/
def isRetryable (failure : Failure) : Bool :=
  match failure.kind with
  | .timeout | .workerUnavailable | .modelLoad => true
  | .configuration | .emptyInput | .compute => false

/-- The wording of a failure. -/
def message : Failure → String
  | configuration fault => "Configuration error: " ++ fault.text
  | emptyInput => "Input text produced no tokens"
  | compute model fault => "Inference failed: " ++ model ++ " - " ++ fault.text
  | timeout milliseconds => "Request timed out after " ++ toString milliseconds ++ "ms"
  | unavailable reason => "Embedding worker unavailable: " ++ reason.text
  | modelLoad model fault => "Model loading failed: " ++ model ++ " - " ++ fault.text
  | io text => "IO error: " ++ text
  | document mismatch => "TOML parsing error: " ++ mismatch.getD ""

end Failure

/-- How a call into code that may break off ends. -/
inductive Attempt (α : Type) where
  /-- The call returned a value. -/
  | done (value : α)
  /-- The call returned a failure. -/
  | failed (failure : Failure)
  /-- The call broke off without returning. -/
  | aborted
  deriving Repr, DecidableEq

namespace Attempt

/-- The attempt that returns what `result` holds. -/
def ofExcept {α : Type} : Except Failure α → Attempt α
  | .ok value => done value
  | .error failure => failed failure

/-- The attempt with another value in case it returns one. -/
def map {α β : Type} (f : α → β) : Attempt α → Attempt β
  | done value => done (f value)
  | failed failure => failed failure
  | aborted => aborted

end Attempt

end Matryoshka
