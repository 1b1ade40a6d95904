import Matryoshka.Server.Launch

/-!
# Command line

The program is called with the path of a configuration, or without one. It launches a
server and answers requests that stand on lines of the standard input, until the
input ends.
-/

namespace Matryoshka.Main

/-- Whether a file can be read. -/
def isReadable (path : String) : IO Bool := do
  try
    let handle ← IO.FS.Handle.mk path .read
    let _ ← handle.read 1
    return true
  catch _ => return false

/-- What is found at a path. -/
def fileAt (path : String) : IO Server.File := do
  try
    return .content (← IO.FS.readBinFile path)
  catch
    | .noFileOrDirectory _ _ _ => return .missing
    | _ => return .directory

/-- The files among the given paths. -/
def existing (paths : List String) : IO (List String) := paths.filterM isReadable

/-- The places where the files of a model may be. -/
def modelPaths : Except Failure Server.Configuration → List String
  | .ok c =>
    match c.settings with
    | .ok settings =>
      let root := c.serving.modelDir
      ModelFiles.tokenizerPath root settings.model :: ModelFiles.weightsPaths root settings.model
    | .error _ => []
  | .error _ => []

/-- Answer requests until the input ends. -/
partial def serve (running : Server.Running) : IO Unit := do
  let line ← (← IO.getStdin).getLine
  if line.isEmpty then return
  let (running, reply) := running.answerLine (line.dropEndWhile (· = '\n')).toString
  reply.forM IO.println
  serve running

end Matryoshka.Main

open Matryoshka in
/-- Launch a server and answer requests. -/
def main (args : List String) : IO UInt32 := do
  let (path, required) := Server.configurationPath args
  let configuration := Server.chosen required (← Main.fileAt path)
  let files ← Main.existing (Main.modelPaths configuration)
  let launch := Server.Launch.ofConfiguration configuration (files.contains ·)
  launch.lines.forM IO.println
  match launch.outcome with
  | .done running => Main.serve running
  | .failed _ | .aborted => pure ()
  (Server.Launch.complaint launch.outcome).forM IO.eprintln
  return (Server.Launch.exitCode launch.outcome).toUInt32
