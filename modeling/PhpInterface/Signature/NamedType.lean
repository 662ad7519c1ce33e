import PhpInterface.Text.Case

/-!
# Types in signatures

The type of a parameter or of a result: a builtin type, a class by its full name, or one of the two
words that refer to the class they stand in.  Only a class needs an import where it is mentioned.
-/

namespace PhpInterface

/-- A type as it is mentioned in a signature. -/
structure NamedType where
  name : String
  /-- the type belongs to the language -/
  builtin : Bool
  /-- `null` is accepted beside the values of the type -/
  nullable : Bool
  deriving DecidableEq, Inhabited

namespace NamedType

/-- The type refers to the class it stands in, or to that class's parent. -/
def isRelative (t : NamedType) : Bool :=
  Text.caselessEq t.name "self" || Text.caselessEq t.name "parent"

/-- The type is a class or an interface, given by its full name. -/
def namesClass (t : NamedType) : Bool :=
  !t.builtin && !t.isRelative

/-- The same type with `null` accepted. -/
def orNull (t : NamedType) : NamedType :=
  { t with nullable := true }

/-- The builtin types that accept `null` of themselves. -/
def admitsNullUnmarked (t : NamedType) : Bool :=
  t.builtin && (t.name == "mixed" || t.name == "null")

/-- `null` is a value of the type. -/
def admitsNull (t : NamedType) : Bool :=
  t.nullable || t.admitsNullUnmarked

end NamedType

end PhpInterface
