import PhpInterface.Source.Nested
import PhpInterface.Source.Number

/-!
# Looking into values

What can follow a value: an index, arguments, a member of an object or of a class.  Each of these gives
a value that can be looked into again.  Attributes are here as well, because they are names with
arguments.
-/

namespace PhpInterface.Source

open Reader

section

variable (n : Nested)

/-- An expression in braces. -/
def braced : Reader Unit := do
  symbol "\x7b"
  let _ ← n.value .inner
  symbol "\x7d"

/-- A variable, whose name may itself come from a variable or an expression. -/
def simpleVariable : Reader Unit := do
  let _ ← many1 (symbol "$")
  oneOf [(do let _ ← word), braced n]

/-- The name of a member. -/
def memberName : Reader Unit :=
  oneOf [(do let _ ← word), simpleVariable n, braced n]

/-- An index in brackets, which may be left out. -/
def index (p : Position) : Reader Unit := do
  symbolAt p "["
  let _ ← optional? (n.value .inner)
  symbol "]"

/-- A member of an object. -/
def objectMember (p : Position) : Reader Unit := do
  let _ ← gapAt p
  oneOf [exactly ['-', '>'], exactly ['?', '-', '>']]
  memberName n

/-! ## Arguments -/

/-- The words that start an expression and cannot be the name of an argument. -/
def unnamableWords : List String :=
  ["new", "clone", "print", "include", "include_once", "require", "require_once", "yield", "list"]

/-- The name in front of an argument. -/
def argumentName : Reader Unit := do
  let _ ← gap
  require (!(← sees numberToken))
  let w ← rawWord
  require (!unnamableWords.contains (smallForm w))
  colonAt .inner

/-- The value of an argument.  The word `namespace` can only be the name of an argument, and a word for
the class around it can stand alone. -/
def argumentValue : Reader Unit := do
  let _ ← openGap
  require (smallForm (← nextWord) != "namespace")
  oneOf
    [do let _ ← n.value .inner,
     do
      let w ← rawWord
      require (isRelativeWord w)]

/-- An argument of a call. -/
def argument : Reader Unit := do
  let named ← found argumentName
  let referenced ← found (symbol "&")
  if ← found (symbol "...") then
    let _ ← n.value .inner
  else if named || referenced then
    oneOf
      [do let _ ← n.value .inner,
       do
        let w ← word
        require (isRelativeWord w)]
  else argumentValue n

/-- The arguments of a call.  Three dots alone stand for the function itself. -/
def arguments (p : Position) : Reader Unit := do
  symbolAt p "("
  unless ← found (do symbol "..."; symbol ")") do
    let l ← sepBy (argument n) (symbol ",")
    unless l.isEmpty do
      let _ ← optional? (symbol ",")
    symbol ")"

/-! ## Access -/

/-- One step into a value, with the form of what it gives. -/
def access (p : Position) : Reader Form :=
  oneOf
    [do
      index n p
      pure .target,
     do
      arguments n p
      pure .target,
     do
      objectMember n p
      pure .target,
     do
      symbolAt p "::"
      if ← found (simpleVariable n) then pure .target
      else
        memberName n
        pure .constant]

/-- The steps into an operand that can be looked into. -/
def accesses (p : Position) (o : Operand) : Reader Operand := do
  if o.isOpen then
    let forms ← many (access n p)
    match forms.getLast? with
    | some form => pure (.plain form)
    | none => pure o
  else pure o

/-! ## Attributes -/

/-- A group of attributes. -/
def attributeGroup : Reader Unit := do
  let _ ← openGap
  exactly ['#', '[']
  let _ ← sepBy1 (do let _ ← className .inner; optional? (arguments n .inner)) (symbol ",")
  let _ ← optional? (symbol ",")
  symbol "]"

/-- Any number of groups of attributes; the answer tells whether there are any. -/
def attributes : Reader Bool := do
  let l ← many (attributeGroup n)
  pure (!l.isEmpty)

end

end PhpInterface.Source
