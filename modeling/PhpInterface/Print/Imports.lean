import PhpInterface.Name.Qualified
import PhpInterface.Print.Error
import PhpInterface.Signature.Interface

/-!
# Imports of a printed interface

Signatures are printed with short names, so a class of another namespace has to be imported.  The
imports stand in the order in which the signatures first mention them, each once.  Two classes with one
short name are both imported; the printed file then has a clash, which is left to its reader.
-/

namespace PhpInterface

/-- The namespace and short name that an interface is printed under. -/
def contextOf (name : String) : Except PrintError QualifiedName :=
  match QualifiedName.parse? name with
  | some context => .ok context
  | none => .error (.invalidName name)

/-- The name of the class that a nominal type mentions. -/
def NamedType.qualified (t : NamedType) : Except PrintError QualifiedName :=
  match QualifiedName.parse? t.name with
  | some name => .ok name
  | none => .error (.unresolvableType t.name)

/-- The name to import for a type, unless its short name already means it in the namespace. -/
def NamedType.importIn (context : QualifiedName) (t : NamedType) :
    Except PrintError (Option QualifiedName) :=
  if t.namesClass then do
    let name ← t.qualified
    pure (if name.path = context.path then none else some name)
  else pure none

/-- The list without repetitions; of equal elements the first one stays. -/
def firstOccurrences {α : Type} [DecidableEq α] : List α → List α
  | [] => []
  | a :: rest => a :: (firstOccurrences rest).filter (· ≠ a)

/-- The imports of an interface with these methods, in order of first mention. -/
def importsOf (context : QualifiedName) (methods : List Method) :
    Except PrintError (List QualifiedName) := do
  let names ← (methods.flatMap Method.types).mapM (NamedType.importIn context)
  pure (firstOccurrences (names.filterMap id))

end PhpInterface
