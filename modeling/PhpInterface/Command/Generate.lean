import PhpInterface.Ancestry.Resolve
import PhpInterface.FileTree.Sources
import PhpInterface.Print.Draft
import PhpInterface.Selection

/-!
# From sources to an interface

The whole way: list the source files at a path, find the class in them, select its methods and print the
interface.  The first step that fails ends it.
-/

namespace PhpInterface

/-- The extensions of source files. -/
def sourceExtensions : List String := ["php"]

/-- The step that failed, and why. -/
inductive GenerateError where
  | path (e : PathError)
  | source (e : SourceError)
  | print (e : PrintError)
  deriving DecidableEq, Inhabited

/-- The wording of a failure. -/
def GenerateError.message : GenerateError → String
  | .path e => e.message
  | .source e => e.message
  | .print e => e.message

/-- The error of one step as a failure of the whole. -/
def asFailure {ε α : Type} (f : ε → GenerateError) : Except ε α → Except GenerateError α
  | .ok a => .ok a
  | .error e => .error (f e)

/-- The text of the interface that a selection makes of a class, given what the path of the sources leads
to. -/
def generate (here : Option FileTree) (source className interfaceName : String)
    (selection : Selection) : Except GenerateError String := do
  let files ← asFailure .path (sourceFiles here source sourceExtensions)
  let c ← asFailure .source (classNamed (files.map (·.content)) className)
  asFailure .print (selection.interfaceOf c interfaceName).print

end PhpInterface
