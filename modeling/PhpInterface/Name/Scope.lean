import PhpInterface.Name.Qualified
import PhpInterface.Text.Case

/-!
# Scopes

Which class a name in a source file means depends on the namespace and on the imports in effect where
it stands.  A scope holds both.  Aliases are compared without regard to ASCII case and a later import
of an alias hides an earlier one, so the imports are a list with the latest in front.

All rules are rules on the text of a name as it is written, blanks between its segments included.
-/

namespace PhpInterface

/-- The namespace and the class imports in effect at a point of a source file. -/
structure Scope where
  /-- the current namespace; empty for the global one -/
  space : String := ""
  /-- lower-cased aliases with what they stand for, the latest first -/
  imports : List (String × String) := []
  deriving DecidableEq, Inhabited

namespace Scope

/-- A text without the separators in front. -/
def trimLeft (s : List Char) : List Char :=
  s.dropWhile (· == separator)

/-- A text without the separators at its two ends. -/
def trimBoth (s : List Char) : List Char :=
  (trimLeft (trimLeft s).reverse).reverse

/-- The scope at the beginning of a namespace: nothing is imported yet. -/
def ofNamespace (space : String) : Scope where
  space := String.ofList (trimBoth space.toList)

/-- Import a name, under the alias or else under its last segment. -/
def importing (scope : Scope) (name : String) (alias? : Option String) : Scope :=
  let full := trimLeft name.toList
  let aliasText := alias?.getD (String.ofList (Text.lastPiece separator full))
  { scope with imports := (Text.lower aliasText, String.ofList full) :: scope.imports }

/-- What an alias stands for. -/
def imported? (scope : Scope) (aliasText : String) : Option String :=
  scope.imports.lookup (Text.lower aliasText)

/-- A name declared in this scope, in full. -/
def declaredName (scope : Scope) (name : String) : String :=
  if scope.space.isEmpty then name else scope.space ++ String.singleton separator ++ name

/-- The full name of the class that a name as written means.  A separator in front means the name in
full; the word `namespace` in front means the current namespace; else the first segment may be an
alias, and a name that starts with none is declared in the current namespace. -/
def resolve (scope : Scope) (name : String) : String :=
  match Text.cut? separator name.toList with
  | none => (scope.imported? name).getD (scope.declaredName name)
  | some ([], full) => String.ofList full
  | some (first, below) =>
    if Text.caselessEq (String.ofList first) "namespace" then scope.declaredName (String.ofList below)
    else
      match scope.imported? (String.ofList first) with
      | some full => full ++ String.singleton separator ++ String.ofList below
      | none => scope.declaredName name

end Scope

end PhpInterface
