import PhpInterface.Description.Method
import PhpInterface.Source.File

/-!
# The declarations of a file

Each declaration of a file together with the scope in which its names have their meaning, and what it
says by itself, without what it inherits.
-/

namespace PhpInterface

open Source

/-- A declaration with its full name and its scope. -/
structure Declared where
  name : String
  scope : Scope
  decl : TypeDecl
  deriving Inhabited

namespace Source

/-- The scope after some imports. -/
def importAll (scope : Scope) (l : List Import) : Scope :=
  l.foldl (fun scope i => scope.importing i.name i.alias?) scope

/-- The scope after an item.  What a block changes ends with the block. -/
def Item.scopeAfter (scope : Scope) : Item → Scope
  | .enter space => .ofNamespace space
  | .block _ _ => scope
  | .imports u => importAll scope u.classes
  | .declaration _ => scope

mutual

/-- The declarations of an item that stands in this scope. -/
def Item.declared (scope : Scope) : Item → List Declared
  | .enter _ => []
  | .block space items => declaredIn (.ofNamespace space) items
  | .imports _ => []
  | .declaration d => [⟨scope.declaredName d.name, scope, d⟩]

/-- The declarations among some items, of which the first stands in this scope. -/
def declaredIn (scope : Scope) : List Item → List Declared
  | [] => []
  | item :: rest => item.declared scope ++ declaredIn (item.scopeAfter scope) rest

end

end Source

/-- What a declaration says by itself. -/
def Declared.describe (d : Declared) : Except SourceError ClassInfo := do
  let bases := d.decl.bases.map d.scope.resolve
  let interfaces := d.decl.interfaces.map d.scope.resolve
  let methods ← d.decl.methods.mapM (MethodExpr.describe d.scope d.name)
  pure
    { name := d.name
      parent := if d.decl.kind = .interfaceKind then none else bases.head?
      interfaces := if d.decl.kind = .interfaceKind then interfaces ++ bases else interfaces
      traits := d.decl.traits.map d.scope.resolve
      isAbstract := d.decl.isAbstract
      methods }

/-- The declarations of a source text; `none` if it breaks the grammar. -/
def declarations? (text : String) : Option (List Declared) :=
  (items? text).map (declaredIn {})

/-- The classes that a source text declares, each as it is written. -/
def classesOf (text : String) : Except SourceError (List ClassInfo) :=
  match declarations? text with
  | none => .error .unparsable
  | some l => (l.filter fun d => d.decl.kind = .classKind).mapM Declared.describe

end PhpInterface
