import PhpInterface.Source.Operand

/-!
# Definitions

The statements that define something: classes, interfaces, traits, enumerations, functions and
constants, and the imports and namespaces that decide what names mean.
-/

namespace PhpInterface.Source

open Reader

/-! ## Imports -/

/-- The word that makes an import one of a function or a constant. -/
def importKind : Reader Unit := do
  let _ ← keywordOf ["function", "const"]

/-- One name of an import with its alias. -/
def importClause (p : Position) : Reader ImportClause := do
  let foreign ← found importKind
  let text ← className p
  let alias? ← optional? (do keywordAt p "as"; word)
  pure ⟨foreign, String.ofList text, alias?.map String.ofList⟩

/-- Several names below one namespace. -/
def importGroup : Reader ImportStatement := do
  let foreign ← found importKind
  let rooted ← found (symbol "\\")
  let _ ← gap
  let (first, outer) ← spelled (do
    let w ← rawWord
    segments .last
    pure w)
  require (rooted || !isRelativeWord first)
  symbolAt .last "\\"
  symbol "\x7b"
  let l ← sepBy1 (importClause .inner) (symbol ",")
  symbol "\x7d"
  pure (.group foreign (String.ofList outer) l)

/-- The imports after the word `use`. -/
def importsRest : Reader ImportStatement := do
  let u ← oneOf
    [importGroup,
     .names <$> sepBy1 (importClause .last) (symbolAt .last ",")]
  semicolon
  pure u

section

variable (n : Nested)

/-! ## Namespaces -/

/-- A namespace, after its word. -/
def namespaceRest : Reader Item := do
  let _ ← gap
  let text ← optional? (spelled (nameWords .last))
  let space := (text.map fun (_, t) => String.ofList t).getD ""
  match ← optional? (n.blockAt .last) with
  | some items => pure (.block space items)
  | none =>
    require text.isSome
    semicolon
    pure (.enter space)

/-! ## Classes and functions -/

/-- The kind of declaration that a keyword starts. -/
def kindOf : String → Kind
  | "interface" => .interfaceKind
  | "trait" => .traitKind
  | _ => .classKind

/-- A class, interface or trait, after its keyword. -/
def typeDeclRest (kind : Kind) (modifiers : List Modifier) : Reader TypeDecl := do
  let w ← word
  let bases ← if kind = .traitKind then pure [] else clause "extends"
  let interfaces ← if kind = .classKind then clause "implements" else pure []
  let l ← members n
  pure
    { kind
      name := String.ofList w
      isAbstract := modifiers.contains .abstract
      bases
      interfaces
      traits := l.flatMap fun
        | .traits names => names
        | _ => []
      methods := l.filterMap fun
        | .method m => some m
        | _ => none }

/-- An enumeration, after its keyword. -/
def enumRest : Reader Unit := do
  let _ ← word
  if ← found (colonAt .inner) then
    let w ← word
    require (["string", "int"].contains (String.ofList w))
  let _ ← clause "implements"
  enumMembers n

/-- A function with a name, after its keyword. -/
def functionRest : Reader Unit := do
  let _ ← signature n .inner
  n.block

/-- A definition, after its attributes.  Only classes and constants have modifiers. -/
def definition : Reader (Option Item) := do
  let modifiers ← many modifier
  match ← keywordOf ["class", "const", "interface", "trait", "enum", "function"] with
  | "class" => some <$> .declaration <$> typeDeclRest n .classKind modifiers
  | "const" =>
    constants n
    pure none
  | k =>
    require modifiers.isEmpty
    match k with
    | "enum" =>
      enumRest n
      pure none
    | "function" =>
      functionRest n
      pure none
    | _ => some <$> .declaration <$> typeDeclRest n (kindOf k) []

end

end PhpInterface.Source
