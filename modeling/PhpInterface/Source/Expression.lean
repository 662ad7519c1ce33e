import PhpInterface.Source.Operand

/-!
# Expressions

An expression is operands with operators between them.  An expression with an operator in the middle
is never a literal, so the ranking of those operators does not matter.
-/

namespace PhpInterface.Source

open Reader

/-- Operators between two operands, longer ones before their beginnings. -/
def binaryOperators : List String :=
  ["===", "!==", "<=>", "**", "??", "||", "&&", "==", "!=", "<>", "<=", ">=", "<<", ">>", "|", "^",
   "&", "<", ">", "+", "-", ".", "*", "/", "%"]

/-- Operators between two operands that are words. -/
def wordOperators : List String :=
  ["and", "or", "xor"]

section

variable (n : Nested)

/-- An operand, with the test for its class that may follow it. -/
def testedOperand (p : Position) : Reader Operand := do
  let o ← operand n .expression p
  tested n p o

/-- An operand that is a value. -/
def valueOperand (p : Position) : Reader Unit := do
  let o ← testedOperand n p
  require (o.form != .pattern)

/-- The branches of a condition, after its question mark.  The first may be left out. -/
def conditionRest (p : Position) : Reader Unit := do
  unless ← found (colonAt .inner) do
    let _ ← n.value .inner
    colonAt .inner
  valueOperand n p

/-- An operator with what follows it. -/
def continuation (p : Position) : Reader Unit := do
  let _ ← gapAt p
  oneOf
    [do
      oneOf (binaryOperators.map fun op => exactly op.toList)
      valueOperand n p,
     do
      let w ← rawWord
      require (wordOperators.contains (smallForm w))
      valueOperand n p,
     do
      char '?'
      require (!(← sees (char '>')))
      conditionRest n p]

/-- An expression. -/
def expression (p : Position) : Reader Operand := do
  let first ← testedOperand n p
  if first.form == .pattern then pure first
  else
    let more ← many (continuation n p)
    pure (if more.isEmpty then first else .plain .operation)

end

end PhpInterface.Source
