import PhpInterface.Description.Declared

/-!
# Looking up declarations

Classes, interfaces and traits are looked up by full name over the source files in their order.  Files
that are no text or break the grammar are passed over, a file that cannot be read ends the search with
an error, and the first declaration of the right kind and name is the answer.

`lookup` is that search.  The search that a run of the program makes remembers which files it has opened
already; it is in the module on catalogues.
-/

namespace PhpInterface

open Source

/-- What reading a file gives. -/
inductive Content where
  | unreadable (failure : AccessFailure)
  /-- the bytes are no text -/
  | notText
  | text (s : String)
  deriving DecidableEq, Inhabited

/-- The declarations of a file; none if it is no text or breaks the grammar. -/
def Content.declarations (c : Content) : List Declared :=
  match c with
  | .text s => (declarations? s).getD []
  | _ => []

/-- A name without the backslashes in front. -/
def plainName (name : String) : String :=
  String.ofList (name.toList.dropWhile (· == '\\'))

/-- The declaration has this kind and this name, whatever the case of its letters. -/
def Declared.answers (d : Declared) (name : String) (kind : Kind) : Bool :=
  d.decl.kind == kind && Text.caselessEq d.name (plainName name)

/-- What the first declaration of this kind and name says by itself. -/
def lookup (name : String) (kind : Kind) : List Content → Except SourceError (Option ClassInfo)
  | [] => .ok none
  | .unreadable failure :: _ => .error (.unreadable failure)
  | c :: rest =>
    match c.declarations.find? (·.answers name kind) with
    | some d => some <$> d.describe
    | none => lookup name kind rest

/-- One more than the number of names that a declaration is built on. -/
def Declared.weight (d : Declared) : Nat :=
  1 + d.decl.bases.length + d.decl.interfaces.length

/-- How many declarations there are, together with the names they are built on. -/
def extent (files : List Content) : Nat :=
  (files.flatMap Content.declarations).foldr (fun d n => d.weight + n) 0

end PhpInterface
