import PhpInterface.Source.Nested

/-!
# Arrays and patterns

The brackets of an array literal and those of a pattern look alike.  So both are read as slots with
commas between them, and each slot tells what it could be: an element of an array, or something that a
pattern can assign to.  Only a pattern can leave slots empty, but for one at the very end, where an
array may have a comma too many.
-/

namespace PhpInterface.Source

open Reader

/-- What stands between two commas. -/
structure Slot where
  key : Option Expr
  value : Expr
  isElement : Bool
  isTarget : Bool
  deriving Inhabited

/-- A slot without a key that an operand fills, in brackets of this kind. -/
def Slot.ofOperand (brackets : Brackets) (o : Operand) : Slot :=
  { key := none
    value := o.expr
    isElement := o.form != .pattern
    isTarget := o.form == .target || o.pattern == some brackets }

/-- A slot that a reference fills. -/
def Slot.reference : Slot :=
  { key := none, value := .other, isElement := true, isTarget := true }

/-- The slot with a key in front.  Page text around the arrow keeps the element from being a literal. -/
def Slot.withKey (key : Operand) (between : List GapPart) (slot : Slot) : Slot :=
  { key := some key.expr
    value := if (pages between).isEmpty then slot.value else .other
    isElement := slot.isElement && key.form != .pattern
    isTarget := slot.isTarget && key.form != .pattern }

/-- The slots are those of an array literal. -/
def areElements : List (Option Slot) → Bool
  | [] => true
  | [none] => true
  | [none, none] => true
  | slots => slots.dropLast.all (·.any (·.isElement)) && slots.getLast?.join.all (·.isElement)

/-- The slots are those of a pattern. -/
def areTargets (slots : List (Option Slot)) : Bool :=
  slots.all (·.all (·.isTarget))

/-- The elements that the slots are. -/
def elementsOf (slots : List (Option Slot)) : Elements :=
  .ofList ((slots.filterMap id).map fun slot => (slot.key, slot.value))

section

variable (n : Nested)

/-- A slot without a key. -/
def keylessSlot (brackets : Brackets) : Reader Slot := do
  if ← found (n.reference .inner) then pure .reference
  else .ofOperand brackets <$> n.expression .inner

/-- A slot that is not empty. -/
def slot (brackets : Brackets) : Reader Slot := do
  if ← found (symbol "...") then
    let _ ← n.value .inner
    pure { key := none, value := .other, isElement := true, isTarget := false }
  else if ← found (n.reference .inner) then pure .reference
  else
    let first ← n.expression .inner
    match ← optional? (do
        let before ← gap
        exactly ['=', '>']
        let after ← gap
        let value ← keylessSlot n brackets
        pure (before ++ after, value)) with
    | some (between, value) => pure (value.withKey first between)
    | none => pure (.ofOperand brackets first)

/-- Slots with commas between them, and the bracket that closes them. -/
def slots (brackets : Brackets) (closer : String) : Reader (List (Option Slot)) := do
  let l ← sepBy1 (optional? (slot n brackets)) (symbol ",")
  symbol closer
  pure l

/-- An array in brackets, which can be a pattern as well. -/
def bracketArray : Reader Operand := do
  symbol "["
  let l ← slots n .square "]"
  let pattern := if areTargets l then some .square else none
  if areElements l then pure { expr := .array (elementsOf l), form := .value, pattern }
  else
    require pattern.isSome
    pure { expr := .other, form := .pattern, pattern }

/-- An array after the word `array`. -/
def wordArray : Reader Operand := do
  symbol "("
  let l ← slots n .square ")"
  require (areElements l)
  pure { expr := .array (elementsOf l), form := .value, pattern := none }

/-- A pattern after the word `list`. -/
def listPattern : Reader Operand := do
  symbol "("
  let l ← slots n .list ")"
  require (areTargets l)
  pure { expr := .other, form := .pattern, pattern := some .list }

end

end PhpInterface.Source
