import PhpInterface.Ancestry.Catalogue

/-!
# What a class inherits

The methods available on a class are its own, then those of its traits, then those of its parent with
all that the parent inherits, and last those that its interfaces ask for and nobody provides.  Where two
have one name the first counts.

Names may be built on themselves.  The classes and traits on the way down are kept on a stack, and one
that is met again on it is an error; a name is taken off again when it is done, so that a trait may be
used in several places.  Interfaces are collected in a work list that takes every name once, so cycles
among them do no harm.  The stack never holds a name twice and only names that are declared, so the
number of declarations bounds its depth: that is the `depth` below, and a run that is given enough of it
never comes to its end.

Everything here is stated for any way of looking declarations up, so that it can be run with a catalogue
and reasoned about with the plain search.
-/

namespace PhpInterface

open Source

/-! ## Merging methods -/

/-- The list has a method of this name. -/
def hasMethod (methods : List ClassMethod) (name : String) : Bool :=
  methods.any fun m => Text.caselessEq m.name name

/-- The methods, then those of the others whose names are not taken. -/
def withMissing (methods others : List ClassMethod) : List ClassMethod :=
  others.foldl (fun l m => if hasMethod l m.name then l else l ++ [m]) methods

/-- A method of a trait as a member of the class that uses it. -/
def ClassMethod.usedBy (user : String) (m : ClassMethod) : ClassMethod :=
  { m with declaringClass := user }

/-- A method of an interface as a member of a class that implements it. -/
def ClassMethod.askedBy (interface : String) (m : ClassMethod) : ClassMethod :=
  { m with isAbstract := true, implementedInterface := some interface }

/-- A method with the interface that asks for it, as the first of these methods with its name tells. -/
def ClassMethod.markedBy (asked : List ClassMethod) (m : ClassMethod) : ClassMethod :=
  { m with
    implementedInterface :=
      (asked.find? fun a => Text.caselessEq a.name m.name).bind (·.implementedInterface) }

/-- The class with the methods of its traits. -/
def ClassInfo.withTraits (c : ClassInfo) (methods : List ClassMethod) : ClassInfo :=
  { c with methods := withMissing c.methods methods }

/-- The class with what its parent has, the parent being resolved already. -/
def ClassInfo.withParent (c : ClassInfo) : Option ClassInfo → ClassInfo
  | none => c
  | some p =>
    { c with
      methods := withMissing c.methods p.methods
      interfaces := c.interfaces ++ p.interfaces }

/-- The class with all its interfaces and the methods that they ask for. -/
def ClassInfo.withInterfaces (c : ClassInfo) (all : List String) (asked : List ClassMethod) :
    ClassInfo :=
  { c with
    interfaces := all
    methods := withMissing (c.methods.map (·.markedBy asked)) asked }

/-! ## Names that are being resolved -/

/-- A computation with the stack of the names that are being resolved, the latest first. -/
abbrev Resolving (m : Type → Type) (α : Type) : Type :=
  StateT (List String) m α

section

variable {m : Type → Type} [Monad m] [MonadExceptOf SourceError m]

/-- Put a name on the stack; one that is on it already is built on itself. -/
def enter (name : String) : Resolving m Unit := do
  let stack ← get
  if stack.contains (Text.lower name) then throw (.circular name)
  else set (Text.lower name :: stack)

/-- Take the latest name off the stack. -/
def leave : Resolving m Unit :=
  modify List.tail

/-! ## Resolving -/

variable (find : String → Kind → m (Option ClassInfo))

/-- The methods collected so far with those of one more trait and of the traits that it uses in turn. -/
def withTrait (user : String) (methodsOf : List String → Resolving m (List ClassMethod))
    (methods : List ClassMethod) (name : String) : Resolving m (List ClassMethod) := do
  match ← find name .traitKind with
  | none => pure methods
  | some t =>
    enter t.name
    let nested ← methodsOf t.traits
    leave
    pure (withMissing methods ((withMissing t.methods nested).map (·.usedBy user)))

/-- The methods of some traits, as members of the class that uses them.  A trait that is not found has
none. -/
def methodsOfTraits (user : String) : Nat → List String → Resolving m (List ClassMethod)
  | 0, _ => throw (.circular user)
  | depth + 1, names => names.foldlM (withTrait find user (methodsOfTraits user depth)) []

/-- The interfaces that can be reached from the pending ones, after the known ones, and the methods that
they ask for.  A name is taken once, whatever the case of its letters; one that is not found is kept and
leads nowhere. -/
def interfaceClosure : Nat → List String → List String → List ClassMethod →
    m (List String × List ClassMethod)
  | 0, _, known, methods => pure (known, methods)
  | _ + 1, [], known, methods => pure (known, methods)
  | steps + 1, name :: pending, known, methods =>
    if known.any fun k => Text.caselessEq k name then interfaceClosure steps pending known methods
    else do
      match ← find name .interfaceKind with
      | none => interfaceClosure steps pending (known ++ [name]) methods
      | some i =>
        interfaceClosure steps (pending ++ i.interfaces) (known ++ [name])
          (withMissing methods (i.methods.map (·.askedBy i.name)))

/-- How many steps the work list takes at most when it starts with so many names.  Every name that is
taken is one of these or one that a declaration is built on, and adds no more names than there are of
the latter. -/
def closureSteps (names size : Nat) : Nat :=
  (names + size + 1) * (size + 2)

/-- The parent of a class, if it has one and that is found. -/
def parentOf (c : ClassInfo) : m (Option ClassInfo) :=
  match c.parent with
  | none => pure none
  | some name => find name .classKind

/-- The class with all that it inherits.  `size` is the extent of the sources. -/
def assemble (size : Nat) : Nat → ClassInfo → Resolving m ClassInfo
  | 0, c => throw (.circular c.name)
  | depth + 1, c => do
    enter c.name
    let fromTraits ← methodsOfTraits find c.name depth c.traits
    let parent ← StateT.lift (parentOf find c)
    let resolved ← parent.mapM (assemble size depth)
    let inherited := (c.withTraits fromTraits).withParent resolved
    let names := inherited.interfaces
    let (all, asked) ←
      StateT.lift (interfaceClosure find (closureSteps names.length size) names [] [])
    leave
    pure (inherited.withInterfaces all asked)

end

/-! ## Finding a class -/

/-- A computation that searches a catalogue. -/
abbrev Search (α : Type) : Type :=
  StateT Catalogue (Except SourceError) α

/-- Look a declaration up in the catalogue. -/
def Search.find (name : String) (kind : Kind) : Search (Option ClassInfo) :=
  Catalogue.search name kind

/-- Find a class by its full name and resolve it, given a way of looking up. -/
def findWith {m : Type → Type} [Monad m] [MonadExceptOf SourceError m]
    (find : String → Kind → m (Option ClassInfo)) (size : Nat) (name : String) : m ClassInfo := do
  match ← find name .classKind with
  | none => throw (.classNotFound (plainName name))
  | some c => (assemble find size (size + 1) c).run' []

/-- Find a class in some files by its full name, with all that it inherits from what the files
declare. -/
def classNamed (files : List Content) (name : String) : Except SourceError ClassInfo :=
  (findWith Search.find (extent files) name).run' (Catalogue.ofFiles files)

end PhpInterface
