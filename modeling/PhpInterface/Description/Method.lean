import PhpInterface.Description.Class
import PhpInterface.Description.Literal
import PhpInterface.Description.Type
import PhpInterface.Source.Declaration

/-!
# Describing methods

What a method as written means in a scope.  A parameter is optional if it has a default and so have all
parameters after it, because a call cannot leave out one in the middle.
-/

namespace PhpInterface.Source

/-- The name of a parameter without the marks in front of it. -/
def parameterName (text : String) : String :=
  String.ofList (text.toList.dropWhile fun c => c == '&' || c == '$' || Text.isBlank c)

/-- The type of a parameter with this default.  The default `null` makes `null` one of its values. -/
def typeWithDefault (default : Option Value) (t : NamedType) : NamedType :=
  match default with
  | some .null => if t.admitsNullUnmarked then t else t.orNull
  | _ => t

/-- The parameter that a parameter as written means, not yet marked as optional. -/
def ParameterExpr.describe (scope : Scope) (p : ParameterExpr) : Except SourceError Parameter := do
  let written ← p.type.mapM (TypeExpr.describe scope)
  let default := p.default.bind Expr.value?
  let type := written.map (typeWithDefault default)
  pure
    { name := parameterName p.name
      type
      byReference := p.byReference
      variadic := p.variadic
      optional := false
      default
      allowsNull := match type with
        | some t => t.admitsNull
        | none => true }

/-- Mark the parameters that a call can leave out; the second components tell which have a default. -/
def markOptional : List (Parameter × Bool) → List Parameter
  | [] => []
  | (p, hasDefault) :: rest =>
    let marked := markOptional rest
    let laterOptional := match marked with
      | [] => true
      | next :: _ => next.optional
    { p with optional := p.variadic || (hasDefault && laterOptional) } :: marked

/-- The parameters that parameters as written mean. -/
def describeParameters (scope : Scope) (ps : List ParameterExpr) :
    Except SourceError (List Parameter) := do
  let described ← ps.mapM (ParameterExpr.describe scope)
  pure (markOptional (described.zip (ps.map (·.default.isSome))))

/-- The comment documents what follows it: it opens with two stars and a blank. -/
def isDocumentation (comment : String) : Bool :=
  match comment.toList with
  | '/' :: '*' :: '*' :: c :: _ => Text.isBlank c
  | _ => false

/-- The visibility that the modifiers give: the first one counts, and without one it is public. -/
def visibilityOf (modifiers : List Modifier) : Visibility :=
  (modifiers.findSome? fun
    | .visibility v => some v
    | _ => none).getD .pub

/-- The method that a method as written means, as a member of the class. -/
def MethodExpr.describe (scope : Scope) (declaringClass : String) (m : MethodExpr) :
    Except SourceError ClassMethod := do
  let parameters ← describeParameters scope m.parameters
  let result ← m.result.mapM (TypeExpr.describe scope)
  pure
    { name := m.name
      static := m.modifiers.contains .static
      doc := m.comment.filter isDocumentation
      parameters
      result
      visibility := visibilityOf m.modifiers
      isAbstract := m.modifiers.contains .abstract
      declaringClass }

end PhpInterface.Source
