import PhpInterface.Description.Error
import PhpInterface.Name.Scope
import PhpInterface.Signature.NamedType
import PhpInterface.Source.TypeExpr
import PhpInterface.Text.Blank

/-!
# The types of signatures

A signature mentions one type, which may also accept `null`.  So of the combined types only those are
taken over that have two alternatives of which one is `null`, in the text as well as among the
alternatives that were read.  Every other combination is refused with its text.
-/

namespace PhpInterface

/-- The types that belong to the language. -/
def languageTypes : List String :=
  ["array", "bool", "callable", "false", "float", "int", "iterable", "mixed", "never", "null", "object",
   "static", "string", "true", "void"]

/-- The type that a name in a scope means.  The words of the language are taken in any case. -/
def NamedType.ofName (scope : Scope) (name : String) : NamedType :=
  let small := Text.lower name
  if languageTypes.contains small then { name := small, builtin := true, nullable := false }
  else if small == "self" || small == "parent" then
    { name := small, builtin := false, nullable := false }
  else { name := scope.resolve name, builtin := false, nullable := false }

namespace Source

/-- The type that a simple type means. -/
def SimpleType.describe (scope : Scope) : SimpleType → Except SourceError NamedType
  | .named name => .ok (.ofName scope name)
  | .optional name => .ok (NamedType.ofName scope name).orNull
  | .interrupted page => .error (.unsupportedType page)

/-- The type that an alternative means. -/
def Alternative.describe (scope : Scope) : Alternative → Except SourceError NamedType
  | .type t => t.describe scope
  | .page text => .error (.unsupportedType text)

/-- The alternative is the word `null`. -/
def Alternative.isNull : Alternative → Bool
  | .type (.named name) => Text.caselessEq name "null"
  | _ => false

/-- The text is the word `null`, blanks around it apart. -/
def isNullText (s : List Char) : Bool :=
  Text.caselessEq (String.ofList (Text.trimBlank s)) "null"

/-- The type that a type as written means.  The alternatives are counted in the text, where a bar
inside a comment counts too. -/
def TypeExpr.describe (scope : Scope) : TypeExpr → Except SourceError NamedType
  | .simple t => t.describe scope
  | .compound text => .error (.unsupportedType text)
  | .union alternatives text =>
    let parts := Text.pieces '|' text.toList
    match alternatives.filter fun a => !a.isNull with
    | [a] =>
      if parts.length = 2 ∧ (parts.filter isNullText).length = 1 then
        (a.describe scope).map NamedType.orNull
      else .error (.unsupportedType text)
    | _ => .error (.unsupportedType text)

end Source

end PhpInterface
