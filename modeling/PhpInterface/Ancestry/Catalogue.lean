import PhpInterface.Ancestry.Lookup

/-!
# Catalogues

A catalogue holds the source files in their order and opens each of them only when a search gets there.
An opened file is kept with its declarations, so that it is read once however many searches follow.
-/

namespace PhpInterface

open Source

/-- A file of a catalogue. -/
inductive Volume where
  | unopened (content : Content)
  /-- no text, or a text that breaks the grammar -/
  | skipped
  | opened (declarations : List Declared)
  deriving Inhabited

/-- The files, some of them opened. -/
abbrev Catalogue : Type :=
  List Volume

namespace Volume

/-- Open a file, unless that has been done. -/
def read : Volume → Except SourceError Volume
  | .unopened (.unreadable failure) => .error (.unreadable failure)
  | .unopened .notText => .ok .skipped
  | .unopened (.text s) =>
    match declarations? s with
    | some l => .ok (.opened l)
    | none => .ok .skipped
  | v => .ok v

/-- The declarations of an opened file. -/
def declarations : Volume → List Declared
  | .opened l => l
  | _ => []

end Volume

namespace Catalogue

/-- The catalogue of files of which none is opened. -/
def ofFiles (files : List Content) : Catalogue :=
  files.map .unopened

/-- Search for a declaration: what it says by itself, with the catalogue after the search. -/
def search (name : String) (kind : Kind) : Catalogue → Except SourceError (Option ClassInfo × Catalogue)
  | [] => .ok (none, [])
  | v :: rest =>
    match v.read with
    | .error e => .error e
    | .ok opened =>
      match opened.declarations.find? (·.answers name kind) with
      | some d =>
        match d.describe with
        | .ok c => .ok (some c, opened :: rest)
        | .error e => .error e
      | none =>
        match search name kind rest with
        | .ok (found, after) => .ok (found, opened :: after)
        | .error e => .error e

end Catalogue

end PhpInterface
