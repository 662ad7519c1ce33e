import PhpInterface.Source.Word

/-!
# Types as written

A type is a name, a name with a question mark, several of these with bars between them, or a form with
ampersands and parentheses.  The words for most of the language's own types take no backslash after
them when they are written in small letters.  Where the whole type is needed, its text is kept with the
gaps and comments inside it.
-/

namespace PhpInterface.Source

open Reader

/-- A type that is no combination of others. -/
inductive SimpleType where
  | named (name : String)
  /-- a name with a question mark in front -/
  | optional (name : String)
  /-- a question mark with page text between it and the name -/
  | interrupted (page : String)
  deriving DecidableEq, Inhabited

/-- What stands in a type with bars: types, and the page texts between them. -/
inductive Alternative where
  | type (t : SimpleType)
  | page (text : String)
  deriving DecidableEq, Inhabited

/-- A type as it is written. -/
inductive TypeExpr where
  | simple (t : SimpleType)
  /-- several types with bars between them -/
  | union (alternatives : List Alternative) (text : String)
  /-- a form with ampersands or parentheses -/
  | compound (text : String)
  deriving DecidableEq, Inhabited

/-- The types of the language that are keywords in small letters only. -/
def typeKeywords : List String :=
  ["array", "iterable", "bool", "float", "int", "string", "void", "mixed", "false", "null", "true"]

/-- The word is a type keyword. -/
def isTypeKeyword (w : List Char) : Bool :=
  typeKeywords.contains (String.ofList w) || smallForm w == "callable"

/-- The name of a type, as written. -/
def typeName (p : Position) : Reader String := do
  let _ ← gap
  if isTypeKeyword (← nextWord) then String.ofList <$> rawWord else String.ofList <$> name p

/-- A type that is no combination of others. -/
def simpleType (p : Position) : Reader SimpleType := do
  if ← found (symbol "?") then
    let before ← gap
    let name ← typeName p
    match pages before with
    | [] => pure (.optional name)
    | text :: _ => pure (.interrupted (String.ofList text))
  else .named <$> typeName p

/-- Something that looks into a value follows, so that what stands before it is no type. -/
def seesAccess (p : Position) : Reader Bool := do
  sees (do
    let _ ← gapAt p
    oneOf (["::", "->", "?->", "[", "("].map fun s => exactly s.toList))

/-- An ampersand with a type after it.  Before a variable the ampersand belongs to the variable. -/
def joinedType (p : Position) : Reader SimpleType := do
  symbolAt p "&"
  let t ← simpleType p
  require (!(← seesAccess p))
  pure t

/-- Types with ampersands between them, in parentheses. -/
def parenthesisedType : Reader Unit := do
  symbol "("
  let _ ← simpleType .inner
  let _ ← many (joinedType .inner)
  symbol ")"

/-- What stands between the bars of a type: a simple type, or `none` for a form in parentheses. -/
def barredType (p : Position) : Reader (Option SimpleType) :=
  oneOf [(do parenthesisedType; pure none), some <$> simpleType p]

/-- A bar with what stands after it, and with the page texts around the bar. -/
def nextAlternative (p : Position) : Reader (List (List Char) × Option SimpleType) := do
  let before ← gapAt p
  char '|'
  let after ← gap
  let t ← barredType p
  pure (pages before ++ pages after, t)

/-- What a type is, without its text. -/
inductive TypeShape where
  | simple (t : SimpleType)
  | union (alternatives : List Alternative)
  | compound

/-- The shape of a type with these alternatives after the first one. -/
def shapeOf (first : Option SimpleType) (more : List (List (List Char) × Option SimpleType)) :
    TypeShape :=
  match first with
  | none => .compound
  | some t =>
    if more.isEmpty then .simple t
    else if more.any fun (_, t) => t.isNone then .compound
    else
      .union (.type t :: more.flatMap fun (texts, t) =>
        texts.map (fun text => .page (String.ofList text)) ++ t.toList.map .type)

/-- The parts of a type. -/
def typeShape (p : Position) : Reader TypeShape := do
  let first ← barredType p
  let joined ← if first.isSome then many (joinedType p) else pure []
  if joined.isEmpty then
    let more ← many (nextAlternative p)
    pure (shapeOf first more)
  else pure .compound

/-- A type. -/
def typeExpr (p : Position) : Reader TypeExpr := do
  let _ ← gap
  let (shape, text) ← spelled (typeShape p)
  match shape with
  | .simple t => pure (.simple t)
  | .union alternatives => pure (.union alternatives (String.ofList text))
  | .compound => pure (.compound (String.ofList text))

/-- The type of a result.  The word `never` stands alone there. -/
def resultType (p : Position) : Reader TypeExpr := do
  let _ ← gap
  if String.ofList (← nextWord) == "never" then
    let w ← rawWord
    pure (.simple (.named (String.ofList w)))
  else typeExpr p

end PhpInterface.Source
