import PhpInterface.Decimal.Binary64
import PhpInterface.Decimal.Numeral

/-!
# Values

The values that a PHP program can write down as literals.  An array is an ordered list of entries; the
keys of an array that came from source text are distinct, but nothing here depends on it, so that a
description given from outside is kept as it is.
-/

namespace PhpInterface

/-- The key of an array entry. -/
inductive Key where
  | int (index : Int64)
  | text (name : String)
  deriving DecidableEq, Inhabited

/-- A literal value. -/
inductive Value where
  | null
  | bool (b : Bool)
  | int (i : Int64)
  | float (x : Binary64)
  | text (s : String)
  | array (entries : List (Key × Value))
  deriving Inhabited

/-- The 64-bit integer of which a text is the canonical decimal form: no sign but a minus sign, no
leading zeros, no minus zero, within range. -/
def canonicalInt? (s : List Char) : Option Int64 :=
  let value : Int :=
    match s with
    | '-' :: digits => -(Decimal.numeral 10 digits : Int)
    | digits => Decimal.numeral 10 digits
  if Decimal.decimalText value = s ∧ Int64.minValue.toInt ≤ value ∧ value ≤ Int64.maxValue.toInt then
    some (Int64.ofInt value)
  else none

/-- The key that a text stands for: a canonical decimal integer is an integer key, anything else is
kept as it is. -/
def Key.ofText (s : String) : Key :=
  match canonicalInt? s.toList with
  | some i => .int i
  | none => .text s

/-- The value is an array. -/
def Value.isArray : Value → Bool
  | .array _ => true
  | _ => false

end PhpInterface
