import Matryoshka.Settings
import Matryoshka.Server.Address
import Matryoshka.Text.Quoted
import Matryoshka.Decimal.Shortest
import Matryoshka.Toml.Document

/-!
# Configuration of a server

A configuration has four sections, and every setting of them has a value when the
document does not give one. Unknown settings are passed over. A section is a table,
or an array with its settings in order. A setting of the wrong type makes the whole
document unusable; whether the values make sense is checked later.
-/

namespace Matryoshka.Server

open Toml

/-- Where the server listens. -/
structure Listening where
  /-- The address. -/
  bindAddress : String := "127.0.0.1:8787"
  deriving Repr, DecidableEq

/-- What the server computes. -/
structure Serving where
  /-- The name of the model. -/
  model : String := Model.default.name
  /-- The number of components wanted, if not the native one. -/
  outputDim : Option Nat := none
  /-- Most requests of one batch. -/
  batchSize : Nat := 8
  /-- Most vectors that are remembered. -/
  cacheCapacity : Nat := 1000
  /-- How many milliseconds a caller waits. -/
  requestTimeout : Nat := 30000
  /-- How many seconds an unused model is kept; zero keeps it for ever. -/
  idleUnloadSeconds : Nat := 0
  /-- Most requests that wait for the worker. -/
  queueCapacity : Nat := 1000
  /-- How many seconds the end of the worker is waited for. -/
  shutdownSeconds : Nat := 10
  /-- Whether the model is loaded before the first request. -/
  preload : Bool := false
  /-- The directory of the models. -/
  modelDir : String := "models"
  deriving Repr, DecidableEq

/-- How the runtime of the models is set up. -/
structure Runtime where
  /-- The file of the runtime, if not the usual one. -/
  libraryPath : String := ""
  /-- The number of its threads. -/
  threads : Nat := 4
  deriving Repr, DecidableEq

/-- What the server reports. -/
structure Monitoring where
  /-- How much is logged. -/
  logLevel : String := "info"
  deriving Repr, DecidableEq

/-- A configuration as it stands in the document. -/
structure Configuration where
  /-- Where the server listens. -/
  listening : Listening := {}
  /-- What the server computes. -/
  serving : Serving := {}
  /-- How the runtime of the models is set up. -/
  runtime : Runtime := {}
  /-- What the server reports. -/
  monitoring : Monitoring := {}
  deriving Repr, DecidableEq

/-- What is found at the path of a configuration. -/
inductive File where
  /-- Nothing. -/
  | missing
  /-- A directory. -/
  | directory
  /-- A file with some bytes. -/
  | content (bytes : ByteArray)

namespace Configuration

/-! ## Reading settings -/

/-- How a value is named when it is not what was asked for. -/
def describe : Value → String
  | .text value => "string " ++ Text.quoted value
  | .integer value => "integer `" ++ toString value ++ "`"
  | .float value => "floating point `" ++ Decimal.plainText value ++ "`"
  | .boolean value => "boolean `" ++ toString value ++ "`"
  | .moment => "map"
  | .array _ => "sequence"
  | .table _ _ => "map"
  | .tables _ => "sequence"

/-- The failure of finding one value where another was expected. -/
def unexpected {α : Type} (value : Value) (expected : String) : Except Failure α :=
  .error (.document (some ("invalid type: " ++ describe value ++ ", expected " ++ expected)))

/-- A setting that is a text. -/
def text : Value → Except Failure String
  | .text value => .ok value
  | value => unexpected value "a string"

/-- A setting that is a yes or a no. -/
def flag : Value → Except Failure Bool
  | .boolean value => .ok value
  | value => unexpected value "a boolean"

/-- A setting that is a count, whose type is called `expected`. -/
def count (expected : String) : Value → Except Failure Nat
  | .integer value =>
    if 0 ≤ value then .ok value.toNat
    else
      .error (.document (some ("invalid value: " ++ describe (.integer value) ++ ", expected " ++
        expected)))
  | value => unexpected value expected

/-- A setting of a section `σ`: its name, and how its value changes the section. -/
abbrev Setting (σ : Type) := String × (σ → Value → Except Failure σ)

/-- Change a section by the entries of a table. -/
def ofEntries {σ : Type} (settings : List (Setting σ)) (start : σ) (entries : Entries) :
    Except Failure σ :=
  entries.foldlM
    (fun current entry =>
      match settings.lookup entry.1 with
      | some set => set current entry.2
      | none => .ok current) start

/-- Change a section by the elements of an array, which stand for its settings in order. -/
def ofElements {σ : Type} (settings : List (Setting σ)) (start : σ) (elements : List Value) :
    Except Failure σ :=
  (settings.zip elements).foldlM (fun current pair => pair.1.2 current pair.2) start

/-- Change a section, which is called `expected`, by a value. A moment is a table without
known entries. -/
def ofSection {σ : Type} (expected : String) (settings : List (Setting σ)) (start : σ) :
    Value → Except Failure σ
  | .table _ entries => ofEntries settings start entries
  | .array elements => ofElements settings start elements
  | .tables elements => ofElements settings start elements
  | .moment => .ok start
  | value => unexpected value expected

/-- The settings of the place. -/
def listeningSettings : List (Setting Listening) := [
  ("bind_address", fun s v => do return { s with bindAddress := ← text v })]

/-- The settings of the work. -/
def servingSettings : List (Setting Serving) := [
  ("model", fun s v => do return { s with model := ← text v }),
  ("output_dim", fun s v => do return { s with outputDim := some (← count "usize" v) }),
  ("batch_size", fun s v => do return { s with batchSize := ← count "usize" v }),
  ("cache_capacity", fun s v => do return { s with cacheCapacity := ← count "usize" v }),
  ("request_timeout_ms", fun s v => do return { s with requestTimeout := ← count "u64" v }),
  ("idle_unload_after_secs", fun s v => do return { s with idleUnloadSeconds := ← count "u64" v }),
  ("queue_capacity", fun s v => do return { s with queueCapacity := ← count "usize" v }),
  ("shutdown_timeout_secs", fun s v => do return { s with shutdownSeconds := ← count "u64" v }),
  ("preload", fun s v => do return { s with preload := ← flag v }),
  ("model_dir", fun s v => do return { s with modelDir := ← text v })]

/-- The settings of the runtime. -/
def runtimeSettings : List (Setting Runtime) := [
  ("library_path", fun s v => do return { s with libraryPath := ← text v }),
  ("thread_pool_size", fun s v => do return { s with threads := ← count "usize" v })]

/-- The settings of the monitoring. -/
def monitoringSettings : List (Setting Monitoring) := [
  ("log_level", fun s v => do return { s with logLevel := ← text v })]

/-- The sections of a configuration. -/
def sections : List (Setting Configuration) := [
  ("network", fun c v => do
    return { c with listening := ← ofSection "struct NetworkConfig" listeningSettings {} v }),
  ("embedding", fun c v => do
    return { c with serving := ← ofSection "struct EmbeddingSection" servingSettings {} v }),
  ("onnx", fun c v => do
    return { c with runtime := ← ofSection "struct OnnxConfig" runtimeSettings {} v }),
  ("monitoring", fun c v => do
    return { c with monitoring := ← ofSection "struct MonitoringConfig" monitoringSettings {} v })]

/-- The configuration that a document stands for. -/
def parse (document : String) : Except Failure Configuration :=
  match Toml.parse? document with
  | some entries => ofEntries sections {} entries
  | none => .error (.document none)

/-- The configuration that a file stands for. -/
def ofFile : File → Except Failure Configuration
  | .missing => .error (.io "No such file or directory (os error 2)")
  | .directory => .error (.io "Is a directory (os error 21)")
  | .content bytes =>
    match String.fromUTF8? bytes with
    | some document => parse document
    | none => .error (.io "stream did not contain valid UTF-8")

/-! ## Checking settings -/

/-- The settings that a configuration asks for, before they are checked. -/
def Serving.draft (serving : Serving) (model : Model) : Draft where
  model := model
  outputDim := serving.outputDim
  batchSize := serving.batchSize
  cacheCapacity := serving.cacheCapacity
  queueCapacity := serving.queueCapacity
  requestTimeout := serving.requestTimeout
  idleUnload :=
    if serving.idleUnloadSeconds = 0 then none else some (serving.idleUnloadSeconds * 1000)

/-- The settings of the service. -/
def settings (c : Configuration) : Except Failure Settings := do
  let model ← Model.parse c.serving.model
  (Serving.draft c.serving model).build

/-- Check everything that a server needs before it listens. -/
def validate (c : Configuration) : Except Failure Unit :=
  match Address.parse? c.listening.bindAddress with
  | none => .error (.configuration (.invalidBindAddress c.listening.bindAddress))
  | some _ =>
    if c.serving.shutdownSeconds = 0 then .error (.configuration .zeroShutdownTimeout)
    else c.settings.map fun _ => ()

end Configuration

end Matryoshka.Server
