import PhpInterface.Signature.Visibility
import PhpInterface.Source.Expr

/-!
# Declarations as written

What the text of a file says about methods, classes, interfaces and traits, before any name in it is
given a meaning, and the statements at the top level that matter to such declarations.
-/

namespace PhpInterface.Source

/-- A word in front of a declaration. -/
inductive Modifier where
  | visibility (v : Visibility)
  | static
  | abstract
  /-- one that says nothing about a signature -/
  | other
  deriving DecidableEq, Inhabited

/-- A method as it is written. -/
structure MethodExpr where
  /-- the comment right before it -/
  comment : Option String
  modifiers : List Modifier
  name : String
  parameters : List ParameterExpr
  result : Option TypeExpr
  deriving Inhabited

/-- The kinds of declarations that have methods. -/
inductive Kind where
  | classKind
  | interfaceKind
  | traitKind
  deriving DecidableEq, Inhabited

/-- A class, interface or trait as it is written. -/
structure TypeDecl where
  kind : Kind
  name : String
  isAbstract : Bool
  /-- the names after `extends` -/
  bases : List String
  /-- the names after `implements` -/
  interfaces : List String
  /-- the names of the traits used in the body -/
  traits : List String
  methods : List MethodExpr
  deriving Inhabited

/-- A text without the backslashes in front. -/
def dropBackslashes (s : String) : String :=
  String.ofList (s.toList.dropWhile (· == '\\'))

/-- An import of a class. -/
structure Import where
  /-- the full name, possibly with a backslash in front -/
  name : String
  alias? : Option String
  deriving DecidableEq, Inhabited

/-- The import of a name below a namespace. -/
def Import.below (outer : String) (i : Import) : Import :=
  { i with name := dropBackslashes outer ++ "\\" ++ dropBackslashes i.name }

/-- One name of an import statement, as it is written. -/
structure ImportClause where
  /-- the name is that of a function or a constant -/
  foreign : Bool
  name : String
  alias? : Option String
  deriving DecidableEq, Inhabited

/-- The import that a clause stands for; `none` if it is no class. -/
def ImportClause.class? (c : ImportClause) : Option Import :=
  if c.foreign then none else some ⟨c.name, c.alias?⟩

/-- An import statement, as it is written. -/
inductive ImportStatement where
  | names (clauses : List ImportClause)
  /-- several names below one namespace, all of them classes or none -/
  | group (foreign : Bool) (outer : String) (clauses : List ImportClause)
  deriving DecidableEq, Inhabited

/-- The classes that a statement imports. -/
def ImportStatement.classes : ImportStatement → List Import
  | .names clauses => clauses.filterMap (·.class?)
  | .group foreign outer clauses =>
    if foreign then [] else (clauses.filterMap (·.class?)).map (·.below outer)

/-- A statement at the top level that matters to declarations. -/
inductive Item where
  /-- the rest of the file, or of the block around it, is in another namespace -/
  | enter (space : String)
  /-- a namespace in braces -/
  | block (space : String) (items : List Item)
  | imports (u : ImportStatement)
  | declaration (d : TypeDecl)
  deriving Inhabited

end PhpInterface.Source
