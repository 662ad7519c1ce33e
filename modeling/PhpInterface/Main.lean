import PhpInterface.Command.Run
import PhpInterface.Pattern.Written

/-!
# The command line

The outer layer of the command: it reads the files at the path of the sources, runs the request on them
and prints or writes the result.
-/

open PhpInterface

namespace PhpInterface.CommandLine

/-- Read what an entry of a folder holds. -/
partial def loadEntry (entry : IO.FS.DirEntry) : IO (String × FileTree) := do
  if ← entry.path.isDir then
    let entries ← entry.path.readDir
    let below ← entries.toList.mapM loadEntry
    pure (entry.fileName, .folder below)
  else
    let bytes ← IO.FS.readBinFile entry.path
    pure (entry.fileName, .file bytes.data.toList)

/-- Read what a path leads to. -/
def load? (path : String) : IO (Option FileTree) := do
  let here := (← IO.currentDir) / path
  if path.isEmpty || !(← here.pathExists) then pure none
  else if ← here.isDir then
    let below ← (← here.readDir).toList.mapM loadEntry
    pure (some (.folder below))
  else
    let bytes ← IO.FS.readBinFile here
    pure (some (.file bytes.data.toList))

/-- Report a failure. -/
def fail (report : String) : IO UInt32 := do
  IO.eprint report
  pure 1

/-- Why the system refused to write a file. -/
def accessFailure : IO.Error → AccessFailure
  | .noFileOrDirectory _ _ _ => .notFound
  | e => .other (toString e)

/-- Run a request on the files of the system. -/
def perform (r : Request) : IO UInt32 := do
  let here ← load? r.source
  match r.text Pattern.language here with
  | .error e => fail (e.report r)
  | .ok text =>
    match r.output with
    | none =>
      IO.println text
      pure 0
    | some path =>
      try
        IO.FS.writeFile path text
        pure 0
      catch e => fail ((CommandError.cannotWrite path (accessFailure e)).report r)

end PhpInterface.CommandLine

open PhpInterface.CommandLine

/-- The command. -/
def main (arguments : List String) : IO UInt32 := do
  match Invocation.ofArguments arguments (← IO.getEnv "INTERFACE_DISTILLER_SOURCE") with
  | .version =>
    IO.print versionLine
    pure 0
  | .help =>
    IO.print usageLine
    pure 0
  | .misuse =>
    IO.eprint usageLine
    pure 2
  | .request r => perform r
