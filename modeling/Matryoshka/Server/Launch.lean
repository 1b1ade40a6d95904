import Matryoshka.Http.Exchange
import Matryoshka.Server.Configuration

/-!
# Launching a server

A server is launched from a configuration: the one named by the first argument, or
the usual file if it is there, or else the built-in one. The configuration is checked
before anything is said; then the server introduces itself, loads its model if it was
told to, and says that it is ready. A launch that fails says why.
-/

namespace Matryoshka.Server

/-- The usual file of the configuration. -/
def usualPath : String := "config.toml"

/-- The path of the configuration, and whether it must be there. -/
def configurationPath : List String → String × Bool
  | path :: _ => (path, true)
  | [] => (usualPath, false)

/-- The configuration that a launch uses, given what is found at its path. -/
def chosen (required : Bool) : File → Except Failure Configuration
  | .missing => if required then Configuration.ofFile .missing else .ok {}
  | file => Configuration.ofFile file

/-- A failure with its parts, as a launch reports it. -/
def report : Failure → String
  | .configuration fault => "ConfigError \x7b message: " ++ Text.quoted fault.text ++ " \x7d"
  | .emptyInput => "EmptyInput"
  | .compute model fault =>
    "ComputeError \x7b model_name: " ++ Text.quoted model ++ ", error: " ++
      Text.quoted fault.text ++ " \x7d"
  | .timeout milliseconds => "Timeout \x7b timeout_ms: " ++ toString milliseconds ++ " \x7d"
  | .unavailable reason =>
    "WorkerUnavailable \x7b reason: " ++ Text.quoted reason.text ++ " \x7d"
  | .modelLoad model fault =>
    "ModelLoadFailed \x7b model_name: " ++ Text.quoted model ++ ", error: " ++
      Text.quoted fault.text ++ " \x7d"
  | .io _ => "IoError"
  | .document _ => "TomlError"

/-- A server that is ready. -/
structure Running where
  /-- Its configuration. -/
  configuration : Configuration
  /-- The settings of its service. -/
  settings : Settings
  /-- Where its model comes from. -/
  loader : Loader
  /-- Its service. -/
  drive : Service.Drive
  /-- The number of the next call. -/
  nextCall : Service.CallId

/-- What a launch says and comes to. -/
structure Launch where
  /-- The lines that are printed. -/
  lines : List String
  /-- The server, or why there is none. -/
  outcome : Attempt Running

namespace Launch

/-- How a server introduces itself. -/
def introduction (c : Configuration) (settings : Settings) : List String := [
  "🚀 MRL Embedding Server",
  "📊 Log Level: " ++ c.monitoring.logLevel,
  "🧠 Model: " ++ settings.model.name,
  "==============================="]

/-- How a server says that it is ready. -/
def invitation (c : Configuration) : List String := [
  "📡 Ready to accept embedding requests on " ++ c.listening.bindAddress,
  "🛑 Press Ctrl+C to stop"]

/-- Where the model of a server comes from. -/
def loaderOf (c : Configuration) (settings : Settings) (isFile : String → Bool) : Loader :=
  if settings.model.name = Model.mock.name then .plain else .files c.serving.modelDir isFile

/-- How long the end of the worker is waited for, in milliseconds. -/
def patience (c : Configuration) : Nat := c.serving.shutdownSeconds * 1000

/-- Load the model before the first request. If that fails the worker is ended, and the
failure is that of the end or else that of loading. -/
def preload (running : Running) : Attempt Running :=
  let id := running.nextCall
  let move (d : Service.Drive) (label : Service.Label) (id : Service.CallId) : Service.Drive :=
    d.call running.settings running.loader label id
  let d := move running.drive (.probe id Service.Caller.warmUpText) id
  if d.isAborted then .aborted
  else
    match (d.answer? id).bind List.head? with
    | some (.error failure) =>
      let d := move d (.shutDown (id + 1) (patience running.configuration)) (id + 1)
      match d.ending? (id + 1) with
      | some (.error worse) => .failed worse
      | _ => .failed failure
    | _ => .done { running with drive := d, nextCall := id + 1 }

/-- Open the service of a checked configuration and start it. -/
def begin (c : Configuration) (settings : Settings) (loader : Loader) : Attempt Running :=
  match Service.Drive.open? settings with
  | none => .aborted
  | some d =>
    let d := d.perform settings loader .start
    if d.isAborted then .aborted
    else .done {
      configuration := c
      settings := settings
      loader := loader
      drive := d
      nextCall := 0 }

/-- Launch a server; `isFile` says which files there are. -/
def ofConfiguration (configuration : Except Failure Configuration) (isFile : String → Bool) :
    Launch :=
  match configuration with
  | .error failure => ⟨[], .failed failure⟩
  | .ok c =>
    match c.validate.bind fun _ => c.settings with
    | .error failure => ⟨[], .failed failure⟩
    | .ok settings =>
      let outcome := match begin c settings (loaderOf c settings isFile) with
        | .done running => if c.serving.preload then preload running else .done running
        | outcome => outcome
      match outcome with
      | .done running => ⟨introduction c settings ++ invitation c, .done running⟩
      | outcome => ⟨introduction c settings, outcome⟩

/-- The line that says why a launch failed. -/
def complaint : Attempt Running → Option String
  | .failed failure => some ("Error: " ++ report failure)
  | .done _ | .aborted => none

/-- The exit code of a launch, once the server has ended. -/
def exitCode : Attempt Running → Nat
  | .done _ => 0
  | .failed _ => 1
  | .aborted => 101

end Launch

namespace Running

/-- Answer a request. -/
def answer (running : Running) (request : Http.Request) : Running × Option Http.Response :=
  let (d, response) := Http.serve running.settings running.loader
    running.configuration.listening.bindAddress running.drive running.nextCall request
  ({ running with drive := d, nextCall := running.nextCall + 1 }, response)

/-- The answer to a request on one line, as lines; there are none without a response. -/
def answerLine (running : Running) (line : String) : Running × List String :=
  match running.answer (.ofLine line) with
  | (running, some response) =>
    (running, [response.status.line, String.ofList response.body.print])
  | (running, none) => (running, [])

end Running

end Matryoshka.Server
