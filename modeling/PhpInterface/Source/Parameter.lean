import PhpInterface.Source.Call

/-!
# Parameters

The parameters of functions.  A parameter with a visibility in front declares a property at the same
time, and a property can have hooks: functions that are called when it is read or written.
-/

namespace PhpInterface.Source

open Reader

/-- The words for the visibility of a member. -/
def visibilityWords : List String :=
  ["public", "protected", "private"]

/-- A visibility, with the word in parentheses that may follow it at once.  One with a word in
parentheses concerns writing only, so that the member counts as public. -/
def visibility : Reader Visibility := do
  let v ← keywordOf visibilityWords
  if ← sees (char '(') then
    char '('
    let _ ← word
    char ')'
    pure .pub
  else if v == "private" then pure .priv
  else if v == "protected" then pure .prot
  else pure .pub

/-- The result type of a function, if it has one. -/
def resultClause (p : Position) : Reader (Option TypeExpr) := do
  if ← found (colonAt p) then some <$> resultType p else pure none

/-- A type, unless the variable follows at once. -/
def variableType : Reader (Option TypeExpr) := do
  if ← sees (oneOf [symbol "$", symbol "&", symbol "..."]) then pure none
  else some <$> typeExpr .inner

section

variable (n : Nested)

/-- A default after an equals sign. -/
def defaultValue (p : Position) : Reader (Option Expr) :=
  optional? (do symbolAt p "="; n.value p)

/-- A parameter without a visibility. -/
def plainParameter : Reader ParameterExpr := do
  let type ← variableType
  let byReference ← found (symbol "&")
  let variadic ← found (symbol "...")
  let text ← variableName
  let default ← if variadic then pure none else defaultValue n .inner
  pure { type, name := String.ofList text, byReference, variadic, default }

/-- The body of a hook: an expression, statements, or nothing. -/
def hookBody : Reader Unit :=
  oneOf
    [do
      symbolAt .last "=>"
      let _ ← n.value .last
      semicolon,
     do
      let _ ← n.blockAt .last,
     semicolon]

/-- A hook of a property. -/
def hook : Reader Unit := do
  let _ ← attributes n
  let _ ← optional? (keyword "final")
  let _ ← optional? (symbol "&")
  let _ ← word
  let _ ← optional? (n.parameters .last)
  hookBody n

/-- The hooks of a property, in braces. -/
def hooks (p : Position) : Reader Unit := do
  symbolAt p "\x7b"
  let _ ← many (hook n)
  symbol "\x7d"

/-- The variable of a promoted parameter with its text, and whether it is a reference.  A reference can
be to anything that can be assigned to. -/
def promotedName : Reader (Bool × List Char) := do
  let _ ← gap
  spelled (do
    if ← sees (char '&') then
      n.reference .inner
      pure true
    else
      let _ ← variableName
      pure false)

/-- A parameter that declares a property at the same time. -/
def promotedParameter : Reader ParameterExpr := do
  let _ ← visibility
  let _ ← optional? (keyword "readonly")
  let type ← variableType
  let (byReference, text) ← promotedName n
  let default ← defaultValue n .inner
  let _ ← optional? (hooks n .inner)
  pure { type, name := String.ofList text, byReference, variadic := false, default }

/-- A parameter.  A visibility in front decides that it is promoted. -/
def parameter : Reader ParameterExpr := do
  let _ ← attributes n
  if ← sees (keywordOf visibilityWords) then promotedParameter n else plainParameter n

/-- The parameters of a function; a comma may stand after the last one, and even alone. -/
def parameters (p : Position) : Reader (List ParameterExpr) := do
  symbolAt p "("
  let l ← sepBy (parameter n) (symbol ",")
  let _ ← optional? (symbol ",")
  symbol ")"
  pure l

end

end PhpInterface.Source
