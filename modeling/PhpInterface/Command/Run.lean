import PhpInterface.Command.Arguments
import PhpInterface.Command.Generate

/-!
# The command

A run of the command on the files of a system: what it prints, how it ends and how it leaves the files.
It prints the interface or writes it to a file, and only after all steps have gone well.  The pattern for the
names of methods may be written in any language of patterns.
-/

namespace PhpInterface

/-- The name and version of the command. -/
def versionLine : String := "interface-distiller 1.0.0\n"

/-- A short reminder of the arguments. -/
def usageLine : String := "Usage: interface-distiller --interface <INTERFACE> [OPTIONS] <CLASS>\n"

/-- Why a run fails. -/
inductive CommandError where
  /-- with what the language of patterns says about the pattern -/
  | badPattern (cause : String)
  | step (e : GenerateError)
  | cannotWrite (path : String) (failure : AccessFailure)
  deriving DecidableEq, Inhabited

/-- A message with its cause below it, each line of the cause indented. -/
def withCause (message cause : String) : String :=
  message ++ "\n\nCaused by:\n    " ++
    Text.joinWith "\n    " ((Text.pieces '\n' cause.toList).map String.ofList)

/-- The wording of a failure. -/
def CommandError.message (r : Request) : CommandError → String
  | .badPattern cause => withCause "Invalid --methods-matching pattern" cause
  | .step (.path e) => withCause ("Failed to list sources in " ++ r.source) e.message
  | .step (.source e) => e.message
  | .step (.print e) => withCause ("Failed to render interface " ++ r.interfaceName) e.message
  | .cannotWrite path failure => withCause ("Failed to write " ++ path) failure.message

/-- The report of a failed run. -/
def CommandError.report (r : Request) (e : CommandError) : String :=
  "Error: " ++ e.message r ++ "\n"

/-- The text of the interface that is asked for, given what the path of the sources leads to.  The pattern
is looked at before the files are. -/
def Request.text (language : PatternLanguage) (r : Request) (here : Option FileTree) :
    Except CommandError String :=
  match ({} : Selection).setEach language r.settings with
  | .error cause => .error (.badPattern cause)
  | .ok selection =>
    match generate here r.source r.className r.interfaceName selection with
    | .ok text => .ok text
    | .error e => .error (.step e)

/-- How a run ends. -/
structure Outcome where
  exitCode : Nat
  stdout : String
  stderr : String
  /-- the files afterwards -/
  files : FileSystem

/-- A run that is asked for an interface. -/
def Request.run (language : PatternLanguage) (r : Request) (fs : FileSystem) : Outcome :=
  let failed (e : CommandError) : Outcome :=
    { exitCode := 1, stdout := "", stderr := e.report r, files := fs }
  match r.text language (fs.at? r.source) with
  | .error e => failed e
  | .ok text =>
    match r.output with
    | none => { exitCode := 0, stdout := text ++ "\n", stderr := "", files := fs }
    | some path =>
      match fs.write path (Text.utf8 text) with
      | .ok files => { exitCode := 0, stdout := "", stderr := "", files }
      | .error failure => failed (.cannotWrite path failure)

/-- A run of the command with these arguments. -/
def runCommand (language : PatternLanguage) (fs : FileSystem) (arguments : List String)
    (environmentSource : Option String) : Outcome :=
  match Invocation.ofArguments arguments environmentSource with
  | .version => { exitCode := 0, stdout := versionLine, stderr := "", files := fs }
  | .help => { exitCode := 0, stdout := usageLine, stderr := "", files := fs }
  | .misuse => { exitCode := 2, stdout := "", stderr := usageLine, files := fs }
  | .request r => r.run language fs

end PhpInterface
