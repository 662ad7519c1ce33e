import PhpInterface.Source.Declaration

/-!
# Constructs that contain one another

An expression can hold a function, a function holds statements, and statements hold expressions again.
The readers of all these therefore take a `Nested`: readers of what stands inside the construct they
read.  The whole reader of a file ties the knot, with the length of the text as the bound on how deep
constructs can be nested.

What an operand of an expression can be used for is its `Form`.  The same brackets can be an array and
the pattern of an assignment that takes an array apart.  Which of the two they are shows only after
them, so an operand may be both.
-/

namespace PhpInterface.Source

open Reader

/-- What an operand can be used for. -/
inductive Form where
  /-- it can be assigned to -/
  | target
  /-- it is the constant of a class -/
  | constant
  /-- it is a value that can be looked into -/
  | value
  /-- it is a value that cannot be looked into -/
  | closed
  /-- it is the result of an operator, which cannot be tested for its class either -/
  | operation
  /-- it is a pattern and no value -/
  | pattern
  deriving DecidableEq, Inhabited

/-- The two ways to write a pattern. -/
inductive Brackets where
  | square
  | list
  deriving DecidableEq, Inhabited

/-- An operand of an expression, or a whole expression. -/
structure Operand where
  expr : Expr
  form : Form
  /-- the brackets, if it can be a pattern -/
  pattern : Option Brackets
  deriving Inhabited

/-- An operand that is no literal and no pattern. -/
def Operand.plain (form : Form) : Operand :=
  { expr := .other, form, pattern := none }

/-- The operand can be looked into. -/
def Operand.isOpen (o : Operand) : Bool :=
  o.form == .target || o.form == .constant || o.form == .value

/-- The operand can be tested for its class. -/
def Operand.isTestable (o : Operand) : Bool :=
  o.isOpen || o.form == .closed

/-- The operands that a place allows, from many to few. -/
inductive Rank where
  | expression
  /-- what can follow a cast -/
  | castable
  /-- no operator in front -/
  | primary
  /-- what can be looked into -/
  | target
  deriving DecidableEq, Inhabited

/-- Readers of what stands inside a construct. -/
structure Nested where
  expression : Position → Reader Operand
  operand : Rank → Position → Reader Operand
  parameters : Position → Reader (List ParameterExpr)
  statement : Reader (Option Item)

namespace Nested

variable (n : Nested)

/-- An expression that is a value. -/
def value (p : Position) : Reader Expr := do
  let o ← n.expression p
  require (o.form != .pattern)
  pure o.expr

/-- Something that can be assigned to. -/
def target (p : Position) : Reader Unit := do
  let o ← n.operand .target p
  require (o.form == .target)

/-- A reference to something that can be assigned to. -/
def reference (p : Position) : Reader Unit := do
  symbol "&"
  n.target p

/-- An expression in parentheses. -/
def parenthesised : Reader Unit := do
  symbol "("
  let _ ← n.value .inner
  symbol ")"

/-- Statements in braces at this place. -/
def blockAt (p : Position) : Reader (List Item) := do
  symbolAt p "\x7b"
  let l ← many n.statement
  symbol "\x7d"
  pure (l.filterMap id)

/-- Statements in braces. -/
def block : Reader Unit := do
  let _ ← n.blockAt .inner

end Nested

end PhpInterface.Source
