import PhpInterface.Source.Parameter

/-!
# Members of classes

The members of classes, interfaces and traits: methods, the names of traits, constants and properties.
Only methods and the names of traits are kept.  An enumeration has cases instead of constants and
properties.
-/

namespace PhpInterface.Source

open Reader

/-- The words in front of a declaration that are no visibility. -/
def modifierWords : List String :=
  ["var", "static", "final", "abstract", "readonly"]

/-- A modifier. -/
def modifier : Reader Modifier := do
  if ← sees (keywordOf visibilityWords) then .visibility <$> visibility
  else
    match ← keywordOf modifierWords with
    | "static" => pure .static
    | "abstract" => pure .abstract
    | _ => pure .other

/-- A member of a class: a method, the names of traits, or anything else that a class can have. -/
inductive Member where
  | method (m : MethodExpr)
  | traits (names : List String)
  | other

section

variable (n : Nested)

/-! ## Methods, constants and properties -/

/-- The signature of a function, after the word `function`, at whose end the statement may end. -/
def signature (p : Position) : Reader (String × List ParameterExpr × Option TypeExpr) := do
  let _ ← optional? (symbol "&")
  let w ← word
  let ps ← parameters n .inner
  let result ← resultClause p
  pure (String.ofList w, ps, result)

/-- A method, after the word `function`. -/
def methodRest (comment : Option String) (modifiers : List Modifier) : Reader MethodExpr := do
  let (name, parameters, result) ← signature n .last
  oneOf
    [do let _ ← n.blockAt .last,
     semicolon]
  pure { comment, modifiers, name, parameters, result }

/-- A constant with its value. -/
def constant : Reader Unit := do
  let _ ← word
  symbol "="
  let _ ← n.value .last

/-- The constants after the word `const` have a type: the next word is a type keyword, or it is not
the name of the first constant. -/
def seesConstantType : Reader Bool := do
  let before ← get
  let _ ← gap
  let w ← nextWord
  let named ← sees (do let _ ← rawWord; symbol "=")
  set before
  pure (isTypeKeyword w || !(named || isRelativeWord w))

/-- The constants after the word `const`, which may have a type. -/
def constants : Reader Unit := do
  if ← seesConstantType then
    let _ ← typeExpr .inner
  let _ ← sepBy1 (constant n) (symbolAt .last ",")
  semicolon

/-- Properties, after their modifiers. -/
def properties : Reader Unit := do
  let _ ← variableType
  let _ ← sepBy1 (do let _ ← variableName; defaultValue n .last) (symbolAt .last ",")
  oneOf [semicolon, hooks n .last]

/-! ## Traits -/

/-- What a rule for the methods of traits does with a method: another name, another visibility, or
preference over a trait. -/
def traitAction : Reader Unit := do
  if ← found (keyword "insteadof") then
    let _ ← word
  else
    keyword "as"
    if ← sees (keywordOf visibilityWords) then
      let _ ← visibility
      let _ ← optional? (do
        let _ ← gapAt .last
        rawWord)
    else
      let _ ← word

/-- A rule for the methods of traits: a method, alone or with its class, and what is done with it. -/
def traitRule : Reader Unit := do
  let o ← n.operand .target .inner
  match o.expr with
  | .word _ => pure ()
  | _ => require (o.form == .constant)
  traitAction
  semicolon

/-- The names of traits, after the word `use`. -/
def traitsRest : Reader (List String) := do
  let l ← classNames .last
  oneOf
    [do
      symbolAt .last "\x7b"
      let _ ← many (traitRule n)
      symbol "\x7d",
     semicolon]
  pure l

/-! ## Bodies -/

/-- A member of a class. -/
def member : Reader Member := do
  let before ← openGap
  if ← found (keyword "use") then .traits <$> traitsRest n
  else
    let _ ← attributes n
    let modifiers ← many modifier
    if ← found (keyword "function") then
      .method <$> methodRest n ((lastComment? before).map String.ofList) modifiers
    else if ← found (keyword "const") then
      constants n
      pure .other
    else
      require (!modifiers.isEmpty)
      properties n
      pure .other

/-- The members of a class, in braces. -/
def members : Reader (List Member) := do
  symbol "\x7b"
  let l ← many (member n)
  symbol "\x7d"
  pure l

/-- A case of an enumeration, after its word. -/
def caseRest : Reader Unit := do
  let _ ← word
  let _ ← optional? (do symbolAt .last "="; n.value .last)
  semicolon

/-- A member of an enumeration. -/
def enumMember : Reader Unit := do
  if ← found (keyword "use") then
    let _ ← traitsRest n
  else
    let _ ← attributes n
    if ← found (keyword "case") then caseRest n
    else
      let modifiers ← many modifier
      keyword "function"
      let _ ← methodRest n none modifiers

/-- The members of an enumeration, in braces. -/
def enumMembers : Reader Unit := do
  symbol "\x7b"
  let _ ← many (enumMember n)
  symbol "\x7d"

end

end PhpInterface.Source
