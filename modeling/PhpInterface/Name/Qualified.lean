import PhpInterface.Text.Pieces

/-!
# Qualified names

The name of a class or an interface is a sequence of identifiers with backslashes between them.  The
last one is its short name, and those before it are the path of its namespace; the empty path is the
global namespace.
-/

namespace PhpInterface

/-- The separator of namespaces. -/
def separator : Char := '\\'

/-- A character that can start an identifier. -/
def isIdentifierStart (c : Char) : Bool :=
  c == '_' || c.isAlpha || c.toNat ≥ 0x80

/-- A character that can stand in an identifier. -/
def isIdentifierPart (c : Char) : Bool :=
  isIdentifierStart c || c.isDigit

/-- An identifier: not empty, and no digit in front. -/
def isSegment : List Char → Bool
  | [] => false
  | c :: rest => isIdentifierStart c && rest.all isIdentifierPart

/-- A name with its namespace. -/
structure QualifiedName where
  /-- the namespace, from the outermost on -/
  path : List String
  /-- the last identifier -/
  short : String
  deriving DecidableEq, Inhabited

namespace QualifiedName

/-- The identifiers in one text, with separators between them. -/
def textOf (path : List String) : String :=
  String.ofList (Text.glue separator (path.map String.toList))

/-- A text without the separator in front, if there is one; a second one stays. -/
def dropRoot : List Char → List Char
  | [] => []
  | c :: rest => if c = separator then rest else c :: rest

/-- Read a name.  One separator in front is accepted, and every segment has to be an identifier. -/
def parse? (text : String) : Option QualifiedName :=
  let segments := Text.pieces separator (dropRoot text.toList)
  if segments.all isSegment then
    some
      { path := segments.dropLast.map String.ofList
        short := String.ofList (segments.getLastD []) }
  else none

/-- The name in full, without a separator in front. -/
def text (name : QualifiedName) : String :=
  textOf (name.path ++ [name.short])

/-- The namespace of the name. -/
def pathText (name : QualifiedName) : String :=
  textOf name.path

/-- The name stands in the global namespace. -/
def isGlobal (name : QualifiedName) : Bool :=
  name.path.isEmpty

end QualifiedName

end PhpInterface
