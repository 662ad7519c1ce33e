import PhpInterface.Print.Imports
import PhpInterface.Text.Blank
import PhpInterface.Value.Code

/-!
# Printed signatures

A method is printed on one line, its parameters with a comma and a space between them, under its
documentation comment if it has one.
-/

namespace PhpInterface

/-- The word that is printed for a type, without the mark for `null`. -/
def NamedType.token (t : NamedType) : Except PrintError String :=
  if t.namesClass then do
    let name ← t.qualified
    pure name.short
  else pure t.name

/-- A type as it is printed. -/
def NamedType.print (t : NamedType) : Except PrintError String := do
  let token ← t.token
  pure ((if t.nullable then "?" else "") ++ token)

/-- The default of a parameter as it is printed.  An optional parameter without a known default gets
`NULL` if that is one of its values, and a comment if it is not. -/
def Parameter.printDefault (p : Parameter) : String :=
  if p.optional && !p.variadic then
    match p.default with
    | some value => " = " ++ value.compactCode
    | none => if p.allowsNull then " = NULL " else " /* = unresolvable */ "
  else ""

/-- A parameter as it is printed, without the blanks that an absent type or a default leaves. -/
def Parameter.print (p : Parameter) : Except PrintError String := do
  let type ← match p.type with
    | some t => t.print
    | none => pure ""
  pure (Text.trim
    (type ++ " " ++ (if p.byReference then "&" else "") ++ (if p.variadic then "..." else "") ++
      "$" ++ p.name ++ p.printDefault))

/-- The indentation of a member. -/
def memberIndent : String := "    "

/-- A method as it is printed, with the end of its line. -/
def Method.print (m : Method) : Except PrintError String := do
  let parameters ← m.parameters.mapM Parameter.print
  let result ← match m.result with
    | some t => do
      let type ← t.print
      pure (": " ++ type)
    | none => pure ""
  let doc := match m.doc with
    | some comment => memberIndent ++ comment ++ "\n"
    | none => ""
  pure (doc ++ memberIndent ++ "public " ++ (if m.static then "static " else "") ++
    "function " ++ m.name ++ "(" ++ Text.joinWith ", " parameters ++ ")" ++ result ++ ";\n")

end PhpInterface
