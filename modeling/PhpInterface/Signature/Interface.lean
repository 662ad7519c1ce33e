import PhpInterface.Signature.NamedType
import PhpInterface.Value.Basic

/-!
# Interfaces

An interface is a name, the interfaces it extends, and the signatures of its methods.
-/

namespace PhpInterface

/-- A parameter of a method. -/
structure Parameter where
  name : String
  type : Option NamedType := none
  byReference : Bool := false
  /-- takes all remaining arguments -/
  variadic : Bool := false
  /-- may be left out of a call -/
  optional : Bool := false
  /-- the default, if it is known without running the program -/
  default : Option Value := none
  allowsNull : Bool := false
  deriving Inhabited

/-- The signature of a method. -/
structure Method where
  name : String
  static : Bool := false
  doc : Option String := none
  parameters : List Parameter := []
  result : Option NamedType := none
  deriving Inhabited

/-- An interface declaration. -/
structure Interface where
  /-- the full name -/
  name : String
  /-- the interfaces it extends, as they are to be written -/
  parents : List String := []
  methods : List Method := []
  deriving Inhabited

/-- The types that a signature mentions, those of the parameters first. -/
def Method.types (m : Method) : List NamedType :=
  m.parameters.filterMap (·.type) ++ m.result.toList

end PhpInterface
