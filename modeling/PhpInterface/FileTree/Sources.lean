import PhpInterface.FileTree.Basic

/-!
# Source files in a tree

The source files at a path: the file itself, or the files below a folder.  Each folder is gone through in
the order of its entries' names, compared byte by byte, with the content of a folder in the place of its
name.
-/

namespace PhpInterface

/-- Why there are no source files at a path. -/
inductive PathError where
  | missing (path : String)
  /-- the file has another extension -/
  | notSource (path : String)
  deriving DecidableEq, Inhabited

/-- The wording of a cause. -/
def PathError.message : PathError → String
  | .missing path => "Invalid path: " ++ path ++ " does not exist"
  | .notSource path => "Invalid path: " ++ path ++ " is not a source file"

namespace FileTree

/-- What follows the last dot of a file's name.  A name whose only dot is its first character has no
extension. -/
def extension? (name : String) : Option String :=
  match (Text.pieces '.' name.toList).reverse with
  | [_, []] => none
  | last :: _ :: _ => some (String.ofList last)
  | _ => none

/-- The name has one of these extensions. -/
def bearsExtension (extensions : List String) (name : String) : Bool :=
  match extension? name with
  | some e => extensions.contains e
  | none => false

/-- The order of names in a folder. -/
def nameLe (a b : String) : Bool :=
  decide (Text.utf8 a ≤ Text.utf8 b)

mutual

/-- The files of a tree in order, each with the names that lead to it and its bytes. -/
def files : FileTree → List (List String × List UInt8)
  | .file bytes => [([], bytes)]
  | .folder entries =>
    ((filesOfEntries entries).mergeSort fun a b => nameLe a.1 b.1).flatMap fun (name, below) =>
      below.map fun (names, bytes) => (name :: names, bytes)

/-- The files of each entry of a folder, in the order of the entries. -/
def filesOfEntries : List (String × FileTree) → List (String × List (List String × List UInt8))
  | [] => []
  | (name, t) :: rest => (name, t.files) :: filesOfEntries rest

end

/-- A path below another one. -/
def joinPath (base : String) (names : List String) : String :=
  let slash := if base.toList.getLast? = some '/' then "" else "/"
  base ++ slash ++ Text.joinWith "/" names

end FileTree

/-- A source file that was listed. -/
structure SourceFile where
  path : String
  content : Content
  deriving DecidableEq, Inhabited

/-- The source files at a path, given what the path leads to. -/
def sourceFiles (here : Option FileTree) (path : String) (extensions : List String) :
    Except PathError (List SourceFile) :=
  match here with
  | none => .error (.missing path)
  | some (.file bytes) =>
    if FileTree.bearsExtension extensions ((FileTree.pathParts path).getLastD "") then
      .ok [⟨path, .ofBytes bytes⟩]
    else .error (.notSource path)
  | some (.folder entries) =>
    let all := (FileTree.folder entries).files
    .ok ((all.filter fun (names, _) => FileTree.bearsExtension extensions (names.getLastD "")).map
      fun (names, bytes) => ⟨FileTree.joinPath path names, .ofBytes bytes⟩)

/-- The source files at a path. -/
def FileSystem.sources (fs : FileSystem) (path : String) (extensions : List String) :
    Except PathError (List SourceFile) :=
  sourceFiles (fs.at? path) path extensions

end PhpInterface
