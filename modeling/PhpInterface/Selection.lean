import PhpInterface.Description.Class
import PhpInterface.Pattern.Language
import PhpInterface.Text.Case

/-!
# Selecting methods

An interface is made of the public methods of a class.  A selection says which of these are left out and
what the interface extends.  It starts by leaving nothing out and is changed by one setting at a time.  A
setting can hold a pattern, which is written in some language of patterns.
-/

namespace PhpInterface

/-- Which methods of a class an interface takes over. -/
structure Selection where
  /-- the interfaces to extend -/
  parents : List String := []
  dropMagic : Bool := false
  dropOldConstructors : Bool := false
  dropStatic : Bool := false
  dropAbstract : Bool := false
  dropInherited : Bool := false
  dropImplemented : Bool := false
  /-- the condition on the names of the methods to keep -/
  pattern : Option (String → Bool) := none
  deriving Inhabited

/-- Why a method is left out. -/
inductive Omission where
  | notPublic
  /-- the name starts with two underscores -/
  | magic
  /-- the name is that of the class -/
  | oldConstructor
  | static
  | abstract
  /-- another class declares it -/
  | inherited
  /-- an interface of the class asks for it -/
  | implemented
  /-- the name does not match the pattern -/
  | unmatched
  deriving DecidableEq, Inhabited

/-- The name starts with two underscores. -/
def isMagic (name : String) : Bool :=
  ['_', '_'].isPrefixOf name.toList

namespace Selection

/-- Why the selection leaves a method of a class out, if it does; the first cause counts. -/
def omission? (s : Selection) (c : ClassInfo) (m : ClassMethod) : Option Omission :=
  if m.visibility ≠ .pub then some .notPublic
  else if s.dropMagic && isMagic m.name then some .magic
  else if s.dropOldConstructors && Text.caselessEq m.name c.shortName then some .oldConstructor
  else if s.dropStatic && m.static then some .static
  else if s.dropAbstract && m.isAbstract then some .abstract
  else if s.dropInherited && !Text.caselessEq m.declaringClass c.name then some .inherited
  else if s.dropImplemented && m.implementedInterface.isSome then some .implemented
  else
    match s.pattern with
    | some isMatch => if isMatch m.name then none else some .unmatched
    | none => none

/-- The interface that a selection makes of a class, under a name. -/
def interfaceOf (s : Selection) (c : ClassInfo) (name : String) : Interface where
  name := name
  parents := s.parents
  methods := (c.methods.filter fun m => (s.omission? c m).isNone).map (·.toMethod)

end Selection

/-! ## Settings -/

/-- A change to a selection. -/
inductive Setting where
  | parents (names : List String)
  | dropMagic (on : Bool)
  | dropOldConstructors (on : Bool)
  | dropStatic (on : Bool)
  | dropAbstract (on : Bool)
  | dropInherited (on : Bool)
  | dropImplemented (on : Bool)
  /-- a pattern, or none to keep all names -/
  | pattern (text : Option String)
  deriving DecidableEq, Inhabited

namespace Selection

variable (language : PatternLanguage)

/-- The selection after a setting, or what is wrong with its pattern. -/
def set (s : Selection) : Setting → Except String Selection
  | .parents names => .ok { s with parents := names }
  | .dropMagic on => .ok { s with dropMagic := on }
  | .dropOldConstructors on => .ok { s with dropOldConstructors := on }
  | .dropStatic on => .ok { s with dropStatic := on }
  | .dropAbstract on => .ok { s with dropAbstract := on }
  | .dropInherited on => .ok { s with dropInherited := on }
  | .dropImplemented on => .ok { s with dropImplemented := on }
  | .pattern none => .ok { s with pattern := none }
  | .pattern (some text) => do
    let isMatch ← language.compile text
    pure { s with pattern := some isMatch }

/-- The selection after some settings, or what is wrong with the first of their patterns that is none. -/
def setEach (s : Selection) (settings : List Setting) : Except String Selection :=
  settings.foldlM (set language) s

/-- The selection after a setting that changes nothing if its pattern is none. -/
def trySet (s : Selection) (setting : Setting) : Selection :=
  match s.set language setting with
  | .ok next => next
  | .error _ => s

/-- The selection after some settings, where those whose patterns are none change nothing. -/
def setAll (s : Selection) (settings : List Setting) : Selection :=
  settings.foldl (trySet language) s

/-- The interface made of a class after each of some settings in turn; `none` after one whose pattern
is none, which changes nothing. -/
def session (c : ClassInfo) (name : String) : Selection → List Setting → List (Option Interface)
  | _, [] => []
  | s, setting :: rest =>
    match s.set language setting with
    | .ok next => some (next.interfaceOf c name) :: session c name next rest
    | .error _ => none :: session c name s rest

end Selection

end PhpInterface
