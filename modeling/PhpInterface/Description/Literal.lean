import PhpInterface.Description.Number
import PhpInterface.Description.Quoted
import PhpInterface.Source.Expr
import PhpInterface.Text.Case
import PhpInterface.Value.Entries

/-!
# The values of literals

`Expr.value?` is the value of an expression that is a literal: a number, a text, one of the words
`null`, `true` and `false`, a signed number, or an array of literals.  Any other expression depends on
what only a running program knows and has no value.
-/

namespace PhpInterface

/-- The key that a value stands for as the key of an array entry. -/
def Key.ofValue? : Value → Option Key
  | .int i => some (.int i)
  | .text s => some (.ofText s)
  | .bool b => some (.int (if b then 1 else 0))
  | .null => some (.text "")
  | .float x =>
    if x.isFinite then
      some (.int (Int64.ofInt
        (max Int64.minValue.toInt (min Int64.maxValue.toInt x.truncate))))
    else none
  | .array _ => none

/-- A number with a sign in front.  The negative of the least integer is a float. -/
def Value.signed? (negative : Bool) : Value → Option Value
  | .int i =>
    if negative then
      if i = Int64.minValue then some (.float (.ofNat (Nat.pow 2 63))) else some (.int (-i))
    else some (.int i)
  | .float x => some (.float (if negative then x.neg else x))
  | _ => none

namespace Source

open Description

/-- The value of a word that stands for one. -/
def wordValue? (text : String) : Option Value :=
  if Text.caselessEq text "null" then some .null
  else if Text.caselessEq text "true" then some (.bool true)
  else if Text.caselessEq text "false" then some (.bool false)
  else none

mutual

/-- The value of an expression that is a literal. -/
def Expr.value? : Expr → Option Value
  | .word text => wordValue? text
  | .integer text => integerValue? text.toList
  | .float text => floatValue? text.toList
  | .quoted text => (quotedValue? text.toList).map fun s => .text (String.ofList s)
  | .signed negative operand =>
    match operand.value? with
    | some v => v.signed? negative
    | none => none
  | .group inner => inner.value?
  | .array elements => (elements.addTo {}).map Entries.toValue
  | .other => none

/-- The entries with those of some more elements, if all of these are literals. -/
def Elements.addTo (entries : Entries) : Elements → Option Entries
  | .nil => some entries
  | .item value rest =>
    match value.value? with
    | some v => rest.addTo (entries.push v)
    | none => none
  | .keyed key value rest =>
    match key.value?, value.value? with
    | some k, some v =>
      match Key.ofValue? k with
      | some k => rest.addTo (entries.insert k v)
      | none => none
    | _, _ => none

end

end Source

end PhpInterface
