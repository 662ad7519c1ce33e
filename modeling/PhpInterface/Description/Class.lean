import PhpInterface.Signature.Interface
import PhpInterface.Signature.Visibility
import PhpInterface.Text.Pieces

/-!
# Classes

A class with the methods that are available on it, each with the class it comes from and with the
interface that asks for it.
-/

namespace PhpInterface

/-- A method that is available on a class. -/
structure ClassMethod extends Method where
  visibility : Visibility := .pub
  isAbstract : Bool := false
  /-- the class that declares it; for the method of a trait, the class that uses the trait -/
  declaringClass : String
  /-- the interface that declares a method of this name -/
  implementedInterface : Option String := none
  deriving Inhabited

/-- A class, an interface or a trait with its methods. -/
structure ClassInfo where
  /-- the full name -/
  name : String
  parent : Option String := none
  /-- the interfaces that a class implements or an interface extends -/
  interfaces : List String := []
  traits : List String := []
  isAbstract : Bool := false
  methods : List ClassMethod := []
  deriving Inhabited

/-- The name without its namespace. -/
def ClassInfo.shortName (c : ClassInfo) : String :=
  String.ofList (Text.lastPiece '\\' c.name.toList)

end PhpInterface
