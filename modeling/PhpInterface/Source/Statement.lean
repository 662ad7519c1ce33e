import PhpInterface.Source.Definition
import PhpInterface.Source.Expression

/-!
# Statements

Of a program's statements only those matter that change the scope or declare a class, an interface or a
trait; all others are read because a file that breaks the grammar anywhere is no source file.

At the beginning of a statement its keywords are never names.  A list of statements ends at the word or
the brace that closes it.
-/

namespace PhpInterface.Source

open Reader

section

variable (n : Nested)

/-! ## Lists of statements -/

/-- Statements up to one of some words, none of which starts a statement there. -/
def statementsUntil (closers : List String) : Reader Unit := do
  let _ ← many (do
    require (!(← sees (keywordOf closers)))
    n.statement)

/-- The words that can follow the statements after a colon. -/
def colonClosers : List String :=
  ["elseif", "else", "endif", "endwhile", "endforeach"]

/-- A colon, statements, a closing word and the end of the statement. -/
def colonBlock (p : Position) (closers : List String) (closing : String) : Reader Unit := do
  colonAt p
  statementsUntil n closers
  keyword closing
  semicolon

/-- The statement that another one controls, or several after a colon up to the closing word. -/
def controlled (closers : List String) (closing : String) : Reader Unit :=
  oneOf [colonBlock n .inner closers closing, (do let _ ← n.statement)]

/-- Like `controlled`, where the statement can also end at once. -/
def controlledOrEnd (closers : List String) (closing : String) : Reader Unit :=
  oneOf [semicolon, colonBlock n .last closers closing, (do let _ ← n.statement)]

/-! ## Branches -/

/-- The branches of an `if` with a colon, after its condition. -/
def colonBranches : Reader Unit := do
  colonAt .inner
  statementsUntil n colonClosers
  let _ ← many (do
    keyword "elseif"
    n.parenthesised
    colonAt .inner
    statementsUntil n colonClosers)
  let _ ← optional? (do
    keyword "else"
    colonAt .inner
    statementsUntil n colonClosers)
  keyword "endif"
  semicolon

/-- The branches of an `if`, after its condition. -/
def plainBranches : Reader Unit := do
  let _ ← n.statement
  let _ ← many (do
    keyword "elseif"
    n.parenthesised
    n.statement)
  let _ ← optional? (do
    keyword "else"
    n.statement)

/-- The words that end the statements of a case. -/
def caseClosers : List String :=
  ["case", "default", "endswitch"]

/-- The end of the head of a case. -/
def caseMark : Reader Unit :=
  oneOf [colonAt .last, semicolon]

/-- A case of a `switch`. -/
def switchCase : Reader Unit := do
  match ← keywordOf ["case", "default"] with
  | "case" =>
    let _ ← n.value .last
    caseMark
  | _ => caseMark
  statementsUntil n caseClosers

/-- The cases of a `switch`, after what is compared. -/
def switchRest : Reader Unit :=
  oneOf
    [do
      symbol "\x7b"
      let _ ← many (switchCase n)
      symbol "\x7d",
     do
      colonAt .inner
      let _ ← many (switchCase n)
      keyword "endswitch"
      semicolon]

/-- What follows the block of a `try`. -/
def handler : Reader Unit := do
  match ← keywordOf ["catch", "finally"] with
  | "catch" =>
    symbol "("
    let _ ← sepBy1 (name .inner) (symbol "|")
    let _ ← optional? variableName
    symbol ")"
    n.block
  | _ => n.block

/-! ## Loops -/

/-- Expressions with commas between them, or none. -/
def loopExpressions : Reader Unit := do
  let _ ← sepBy (n.value .inner) (symbol ",")

/-- The head of a `for`. -/
def forHead : Reader Unit := do
  symbol "("
  loopExpressions n
  symbol ";"
  loopExpressions n
  symbol ";"
  loopExpressions n
  symbol ")"

/-- What a `foreach` assigns to: a reference, an expression or a pattern. -/
def loopTarget : Reader Unit :=
  oneOf [n.reference .inner, (do let _ ← n.expression .inner)]

/-- The head of a `foreach`. -/
def foreachHead : Reader Unit := do
  symbol "("
  let _ ← n.value .inner
  keyword "as"
  oneOf
    [do
      let _ ← n.value .inner
      symbol "=>"
      loopTarget n,
     loopTarget n]
  symbol ")"

/-! ## Other statements -/

/-- A literal of a directive. -/
def directiveValue : Reader Unit := do
  let _ ← gap
  oneOf
    [do let _ ← quotedText n,
     do let _ ← linesText n,
     do let _ ← number,
     do let _ ← keywordOf ["null", "true", "false"]]

/-- A directive in parentheses. -/
def directive : Reader Unit := do
  symbol "("
  let w ← word
  require (["ticks", "encoding", "strict_types"].contains (String.ofList w))
  symbol "="
  directiveValue n
  symbol ")"

/-- An expression that may be missing, and the end of the statement. -/
def optionalExpression : Reader Unit := do
  unless ← found semicolon do
    let _ ← n.value .last
    semicolon

/-- Expressions with commas between them, and the end of the statement. -/
def outputRest : Reader Unit := do
  let _ ← sepBy1 (n.value .last) (symbolAt .last ",")
  semicolon

/-- The end of the program, with a value that may be left out. -/
def exitRest : Reader Unit := do
  let _ ← optional? (do
    symbolAt .last "("
    let _ ← optional? (n.value .inner)
    symbol ")")
  semicolon

/-- Variables that are removed. -/
def unsetRest : Reader Unit := do
  symbol "("
  let _ ← sepBy1 (n.target .inner) (symbol ",")
  let _ ← optional? (symbol ",")
  symbol ")"
  semicolon

/-- Variables of a function that keep their values. -/
def staticRest : Reader Unit := do
  let _ ← sepBy1 (do let _ ← variableName; defaultValue n .last) (symbolAt .last ",")
  semicolon

/-- A statement that starts with this keyword, after the keyword; `none` if the word starts none. -/
def keywordStatement : String → Option (Reader Unit)
  | "if" => some do
      n.parenthesised
      oneOf [colonBranches n, plainBranches n]
  | "switch" => some do
      n.parenthesised
      switchRest n
  | "while" => some do
      n.parenthesised
      controlled n colonClosers "endwhile"
  | "do" => some do
      let _ ← n.statement
      keyword "while"
      n.parenthesised
      semicolon
  | "for" => some do
      forHead n
      controlledOrEnd n ["endfor"] "endfor"
  | "foreach" => some do
      foreachHead n
      controlledOrEnd n colonClosers "endforeach"
  | "declare" => some do
      directive n
      controlledOrEnd n ["enddeclare"] "enddeclare"
  | "try" => some do
      n.block
      let _ ← many1 (handler n)
  | "goto" => some do
      let _ ← word
      semicolon
  | "global" => some do
      let _ ← sepBy1 (do let _ ← gap; simpleVariable n) (symbolAt .last ",")
      semicolon
  | "return" | "break" | "continue" => some (optionalExpression n)
  | "echo" => some (outputRest n)
  | "exit" => some (exitRest n)
  | "unset" => some (unsetRest n)
  | _ => none

/-- The words that only start a definition. -/
def definitionWords : List String :=
  ["class", "const", "interface", "trait", "enum", "var", "final", "abstract", "readonly"] ++
    visibilityWords

/-- A label. -/
def label : Reader Unit := do
  require (!(← sees numberToken))
  let w ← rawWord
  require (!(Rank.expression.reserves (smallForm w)) && !isRelativeWord w)
  colonAt .inner

/-- A statement that is an expression. -/
def expressionStatement : Reader (Option Item) := do
  let o ← expression n .last
  require (o.form != .pattern)
  semicolon
  pure none

/-- The definition of a function starts here. -/
def seesFunction : Reader Bool :=
  sees (do
    keyword "function"
    let _ ← optional? (symbol "&")
    word)

/-- A statement that starts with a word, or with none of the marks of statements. -/
def wordStatement : Reader (Option Item) := do
  let k := smallForm (← nextWord)
  match keywordStatement n k with
  | some rest =>
    let _ ← rawWord
    rest
    pure none
  | none =>
    if k == "use" then
      let _ ← rawWord
      some <$> .imports <$> importsRest
    else if k == "namespace" then
      let _ ← rawWord
      some <$> namespaceRest n
    else if k == "static" then
      if ← sees (do let _ ← rawWord; symbol "$") then
        let _ ← rawWord
        staticRest n
        pure none
      else oneOf [definition n, expressionStatement n]
    else if k == "function" then
      if ← seesFunction then definition n else expressionStatement n
    else if definitionWords.contains k then definition n
    else if ← found label then pure none
    else expressionStatement n

/-- A statement that starts with attributes: a definition or an anonymous function. -/
def attributedStatement : Reader (Option Item) :=
  oneOf
    [do
      let _ ← attributes n
      definition n,
     expressionStatement n]

/-- A statement. -/
def statement : Reader (Option Item) := do
  let _ ← openGap
  match ← peek with
  | none => failure
  | some c =>
    if c = ';' then
      char c
      pure none
    else if c = '\x7b' then
      n.block
      pure none
    else if c = '#' then attributedStatement n
    else wordStatement n

end

end PhpInterface.Source
