import PhpInterface.Ancestry.Lookup
import PhpInterface.Text.Utf8

/-!
# File trees

Files and folders, and the paths that lead to them.  A path is a text with slashes.  Every part of it, an
empty one too, asks for a folder to stand in; so a slash after the name of a file leads nowhere.  A path
with a slash in front starts at the root of all files, and any other one at the working folder.
-/

namespace PhpInterface

/-- What the bytes of a file read as. -/
def Content.ofBytes (bytes : List UInt8) : Content :=
  match Text.decode? bytes with
  | some s => .text s
  | none => .notText

/-- A file, or a folder with what it holds. -/
inductive FileTree where
  | file (bytes : List UInt8)
  | folder (entries : List (String × FileTree))
  deriving Inhabited

namespace FileTree

/-- The parts of a path. -/
def pathParts (path : String) : List String :=
  (Text.pieces '/' path.toList).map String.ofList

/-- The entry of a folder with this name. -/
def child? (t : FileTree) (name : String) : Option FileTree :=
  match t with
  | .file _ => none
  | .folder entries => entries.lookup name

/-- The tree is a folder. -/
def isFolder : FileTree → Bool
  | .folder _ => true
  | .file _ => false

/-- Where the folders on the way have led, the innermost first. -/
abbrev Trail : Type :=
  List (String × FileTree)

/-- The tree at the end of a trail. -/
def atTrail (root : FileTree) (trail : Trail) : FileTree :=
  match trail with
  | [] => root
  | (_, t) :: _ => t

/-- Follow the parts of a path from where a trail has led.  Going back from the root leads to the root. -/
def follow (root : FileTree) : Trail → List String → Except AccessFailure Trail
  | trail, [] => .ok trail
  | trail, part :: rest =>
    let here := root.atTrail trail
    if !here.isFolder then .error .notDirectory
    else if part = "" ∨ part = "." then follow root trail rest
    else if part = ".." then follow root trail.tail rest
    else
      match here.child? part with
      | some t => follow root ((part, t) :: trail) rest
      | none => .error .notFound

/-! ## Changing a tree -/

/-- The entries with one of them replaced or added. -/
def putEntry (name : String) (t : FileTree) : List (String × FileTree) → List (String × FileTree)
  | [] => [(name, t)]
  | (n, u) :: rest => if n = name then (n, t) :: rest else (n, u) :: putEntry name t rest

/-- The tree with another tree at the end of some names, with new folders where there are none. -/
def plant (t : FileTree) : List String → FileTree → FileTree
  | [], _ => t
  | name :: rest, here =>
    match here with
    | .file _ => .folder [(name, plant t rest (.folder []))]
    | .folder entries =>
      .folder (putEntry name (plant t rest ((entries.lookup name).getD (.folder []))) entries)

end FileTree

/-! ## File systems -/

/-- All files, with the folder in which a run works. -/
structure FileSystem where
  root : FileTree
  /-- the names that lead to the working folder from the root -/
  working : List String := []
  deriving Inhabited

namespace FileSystem

/-- The parts to follow from the root; the empty path has none. -/
def steps? (fs : FileSystem) (path : String) : Option (List String) :=
  match FileTree.pathParts path with
  | [""] => none
  | "" :: parts => some parts
  | parts => some (fs.working ++ parts)

/-- Where a path leads. -/
def trail (fs : FileSystem) (path : String) : Except AccessFailure FileTree.Trail :=
  match fs.steps? path with
  | some parts => fs.root.follow [] parts
  | none => .error .notFound

/-- What a path leads to. -/
def at? (fs : FileSystem) (path : String) : Option FileTree :=
  match fs.trail path with
  | .ok trail => some (fs.root.atTrail trail)
  | .error _ => none

/-- What reading a path gives. -/
def read (fs : FileSystem) (path : String) : Content :=
  match fs.trail path with
  | .error failure => .unreadable failure
  | .ok trail =>
    match fs.root.atTrail trail with
    | .folder _ => .unreadable .isDirectory
    | .file bytes => .ofBytes bytes

/-- The files with a new content at a path.  The folder has to be there already.  A folder cannot be written
to, and a slash at the end asks for one. -/
def write (fs : FileSystem) (path : String) (bytes : List UInt8) : Except AccessFailure FileSystem :=
  match fs.steps? path with
  | none => .error .notFound
  | some parts =>
    let names := (parts.reverse.dropWhile (· == "")).reverse
    let name := names.getLastD ""
    match fs.root.follow [] names.dropLast with
    | .error failure => .error failure
    | .ok trail =>
      match fs.root.atTrail trail with
      | .file _ => .error .notDirectory
      | .folder entries =>
        if names ≠ parts ∨ name = "" ∨ name = "." ∨ name = ".." then .error .isDirectory
        else
          match entries.lookup name with
          | some (.folder _) => .error .isDirectory
          | _ =>
            let place := (trail.map Prod.fst).reverse ++ [name]
            .ok { fs with root := FileTree.plant (.file bytes) place fs.root }

end FileSystem

end PhpInterface
