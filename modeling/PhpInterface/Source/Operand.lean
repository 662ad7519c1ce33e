import PhpInterface.Source.ArrayLiteral
import PhpInterface.Source.Member
import PhpInterface.Source.Quotation

/-!
# Operands

The operands of expressions, with the operators in front of them and with what looks into them.  A word
starts an operand of its own kind only where the grammar allows that kind; everywhere else the same
word is a name.  `Rank.reserves` says which words these are.

Signs and the other operators in front bind to the operand alone, and only an operand that can be
assigned to takes part in an assignment.
-/

namespace PhpInterface.Source

open Reader

/-- The words of casts. -/
def castWords : List String :=
  ["array", "binary", "bool", "boolean", "double", "float", "int", "integer", "object", "real", "string",
   "unset"]

/-- Operators that combine an operation with an assignment. -/
def assignmentOperators : List String :=
  ["**=", "*=", "/=", "%=", "+=", "-=", ".=", "<<=", ">>=", "&=", "^=", "|=", "??="]

/-- The place allows operators in front of an operand. -/
def Rank.allowsOperators (r : Rank) : Bool :=
  r == .expression || r == .castable

/-- The word, in small letters, starts an operand of its own kind at a place of this rank. -/
def Rank.reserves (r : Rank) (k : String) : Bool :=
  ["new", "array", "static"].contains k ||
    (r != .target && ["print", "throw", "function", "fn", "null", "true", "false"].contains k) ||
    (r.allowsOperators && ["clone", "include", "include_once"].contains k) ||
    (r == .expression && ["require", "require_once", "yield", "match", "list"].contains k)

/-- A number. -/
def number : Reader Operand := do
  let literal (expr : Expr) : Operand := { expr, form := .closed, pattern := none }
  match ← numberToken with
  | .integer text => pure (literal (.integer (String.ofList text)))
  | .float text => pure (literal (.float (String.ofList text)))

section

variable (n : Nested)

/-! ## Functions -/

/-- The variables that an anonymous function takes over. -/
def capturedVariables : Reader Unit := do
  keyword "use"
  symbol "("
  let _ ← sepBy1 (do let _ ← optional? (symbol "&"); variableName) (symbol ",")
  let _ ← optional? (symbol ",")
  symbol ")"

/-- An anonymous function, after its attributes. -/
def functionExpr (p : Position) : Reader Operand := do
  let _ ← optional? (keyword "static")
  match ← keywordOf ["function", "fn"] with
  | "function" =>
    let _ ← optional? (symbol "&")
    let _ ← parameters n .inner
    let _ ← optional? capturedVariables
    let _ ← resultClause .inner
    n.block
  | _ =>
    let _ ← optional? (symbol "&")
    let _ ← parameters n .inner
    let _ ← resultClause .inner
    symbol "=>"
    let _ ← n.value p
  pure (.plain .closed)

/-! ## Classes -/

/-- A step into a variable that names a class. -/
def classStep (p : Position) : Reader Unit :=
  oneOf
    [index n p,
     objectMember n p,
     do
      symbolAt p "::"
      simpleVariable n]

/-- What names a class after `new` and after `instanceof`: a name, a variable or an expression in
parentheses. -/
def classReference (p : Position) : Reader Unit := do
  let _ ← gap
  match ← peek with
  | some '(' => n.parenthesised
  | some '$' =>
    simpleVariable n
    let _ ← many (classStep n p)
  | _ =>
    let _ ← className p
    let _ ← optional? (do
      symbolAt p "::"
      simpleVariable n
      many (classStep n p))

/-- The names after a keyword, if it follows. -/
def clause (k : String) : Reader (List String) := do
  if ← found (keyword k) then classNames .inner else pure []

/-- An anonymous class, after the word `class`. -/
def anonymousClassRest : Reader Unit := do
  let _ ← optional? (arguments n .inner)
  let _ ← clause "extends"
  let _ ← clause "implements"
  let _ ← members n

/-- A new object, after the word `new`.  It can be looked into if it has arguments. -/
def newRest (p : Position) : Reader Operand := do
  let attributed ← attributes n
  if ← found (do let _ ← many modifier; keyword "class") then
    anonymousClassRest n
    pure (.plain .value)
  else
    require (!attributed)
    require (!(← sees (keywordOf
      ("class" :: "var" :: "final" :: "abstract" :: "readonly" :: visibilityWords))))
    classReference n p
    if ← found (arguments n p) then pure (.plain .value) else pure (.plain .closed)

/-! ## Operands that start with a word -/

/-- The operand after the word `yield`: nothing, an element of an array, or another source. -/
def yieldRest (p : Position) : Reader Operand := do
  if ← found (keywordAt p "from") then
    let _ ← n.value p
  else
    let _ ← gapAt p
    let operator ← sees (oneOf
      [(do let _ ← keywordOf ["and", "or", "xor", "instanceof", "as"]),
       (do let text ← floatToken; require (text == ['.'])),
       (do let _ ← page)])
    unless operator do
      let _ ← optional? (do
        if ← found (symbol "...") then
          let _ ← n.value p
        else if ← found (n.reference p) then pure ()
        else
          let _ ← n.value p
          let _ ← optional? (do
            symbolAt p "=>"
            oneOf [n.reference p, (do let _ ← n.value p)]))
  pure (.plain .operation)

/-- A branch of a `match`. -/
def matchBranch : Reader Unit := do
  if ← found (keyword "default") then pure ()
  else
    let _ ← sepBy1 (n.value .inner) (symbol ",")
    let _ ← optional? (symbol ",")
  symbol "=>"
  let _ ← n.value .inner

/-- A `match`, after its word. -/
def matchRest : Reader Operand := do
  n.parenthesised
  symbol "\x7b"
  let _ ← sepBy (matchBranch n) (symbol ",")
  let _ ← optional? (symbol ",")
  symbol "\x7d"
  pure (.plain .operation)

/-- A word for the class around it.  A member has to follow, or arguments. -/
def relativeOperand (p : Position) : Reader Operand := do
  let _ ← rawWord
  require (← sees (do
    let _ ← gapAt p
    oneOf [exactly [':', ':'], char '(']))
  pure (.plain .value)

/-- A name that is used as a value. -/
def nameOperand (p : Position) : Reader Operand := do
  let text ← name p
  let expr := if text.contains '\\' then .other else .word (String.ofList text)
  pure { expr, form := .value, pattern := none }

/-- The operand after one of the reserved words. -/
def reservedOperand (k : String) (p : Position) : Reader Operand := do
  let _ ← rawWord
  match k with
  | "array" => wordArray n
  | "list" => listPattern n
  | "new" => newRest n p
  | "clone" =>
    let _ ← n.operand .primary p
    pure (.plain .closed)
  | "print" | "throw" =>
    let _ ← n.value p
    pure (.plain .closed)
  | "yield" => yieldRest n p
  | "match" => matchRest n
  | "include" | "include_once" | "require" | "require_once" =>
    let _ ← n.value p
    pure (.plain .operation)
  | _ => pure { expr := .word k, form := .closed, pattern := none }

/-- An operand that starts with a word. -/
def wordOperand (r : Rank) (p : Position) : Reader Operand := do
  let w ← nextWord
  let k := smallForm w
  if r != .target && (← sees (do
      let _ ← optional? (keyword "static")
      keywordOf ["function", "fn"])) then functionExpr n p
  else if isRelativeWord w then relativeOperand p
  else if r.reserves k then reservedOperand n k p
  else nameOperand p

/-! ## Other operands -/

/-- An operand with a type in parentheses in front.  In front of something that can be assigned to, it
can be assigned to as well. -/
def castRest (r : Rank) (p : Position) : Reader Operand := do
  if r.allowsOperators then
    let o ← n.operand .castable p
    pure (.plain (if o.form == .target then .target else .closed))
  else
    n.target p
    pure (.plain .target)

/-- A cast, or an expression in parentheses.  A word for a cast makes it one, except that `array` can
also start an array. -/
def parenthesisOperand (r : Rank) (p : Position) : Reader Operand := do
  char '('
  let before ← openGap
  let k := smallForm (← nextWord)
  let closes ← sees (do let _ ← rawWord; symbol ")")
  if castWords.contains k && (closes || k != "array") then
    let _ ← rawWord
    symbol ")"
    castRest n r p
  else
    let inner ← n.value .inner
    symbol ")"
    let expr := if (pages before).isEmpty then .group inner else .other
    pure { expr, form := .value, pattern := none }

/-- An operand after `instanceof` tests that bind stronger than an operator in front of it. -/
def tested (p : Position) (o : Operand) : Reader Operand := do
  if ← foundIf o.isTestable (do keywordAt p "instanceof"; classReference n p) then
    pure (.plain .operation)
  else pure o

/-- An operand with an operator in front, which is the character given. -/
def prefixedOperand (c : Char) (p : Position) : Reader Operand := do
  char c
  let before ← openGap
  let o ← n.operand .expression p
  let o ← tested n p o
  require (o.form != .pattern)
  if c = '@' then pure (.plain .operation)
  else if (c = '+' ∨ c = '-') ∧ (pages before).isEmpty then
    pure { expr := .signed (c == '-') o.expr, form := .closed, pattern := none }
  else pure (.plain .closed)

/-- An increment or decrement. -/
def increment : Reader Unit :=
  oneOf [exactly ['+', '+'], exactly ['-', '-']]

/-- The beginning of an operand, before anything looks into it. -/
def operandStart (r : Rank) (p : Position) : Reader Operand := do
  let _ ← if r == .target then gap else openGap
  match ← peek with
  | none => failure
  | some c =>
    if c = '$' then
      simpleVariable n
      pure (.plain .target)
    else if c = '(' then parenthesisOperand n r p
    else if c = '[' then bracketArray n
    else if c = '\\' then nameOperand p
    else
      match ← optional? (oneOf [quotedText n, linesText n]) with
      | some text => pure text
      | none =>
        if r == .target then wordOperand n r p
        else if ← found increment then
          n.target p
          pure (.plain .closed)
        else if c = '\x60' then shellCommand n
        else if c = '#' then
          let _ ← attributes n
          functionExpr n p
        else if r.allowsOperators && (c = '+' || c = '-' || c = '~' || c = '!' || c = '@') then
          prefixedOperand n c p
        else oneOf [number, wordOperand n r p]

/-- An assignment, after what is assigned to.  A pattern can only take part in a plain one. -/
def assignment (isPattern : Bool) (p : Position) : Reader Unit := do
  let _ ← gapAt p
  oneOf
    [do
      require (!isPattern)
      oneOf (assignmentOperators.map fun op => exactly op.toList)
      let _ ← n.value p,
     do
      char '='
      require (!(← sees (one fun c => c == '=' || c == '>')))
      let _ ← optional? (symbol "&")
      let _ ← n.value p]

/-- An operand at a place of this rank. -/
def operand (r : Rank) (p : Position) : Reader Operand := do
  let start ← operandStart n r p
  let o ← accesses n p start
  if ← foundIf (o.form == .target && r != .target) (do let _ ← gapAt p; increment) then
    pure (.plain .closed)
  else if ← foundIf (r == .expression && (o.form == .target || o.pattern.isSome))
      (assignment n (o.form != .target) p) then
    pure (.plain .operation)
  else
    require (r == .expression || o.form != .pattern)
    pure o

end

end PhpInterface.Source
