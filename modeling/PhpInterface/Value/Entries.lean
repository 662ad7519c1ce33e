import PhpInterface.Value.Basic

/-!
# Building an array

An array literal is built entry by entry.  An entry without a key takes the next index, which is one
more than the greatest integer key so far, or zero before there is one; a key that is already present
keeps its place and takes the new value.  At the greatest 64-bit integer the next index stays where it
is, so a further entry without a key replaces the one at that index.
-/

namespace PhpInterface

/-- The entries of an array under construction. -/
structure Entries where
  entries : List (Key × Value) := []
  /-- one more than the greatest integer key so far -/
  next : Option Int64 := none
  deriving Inhabited

namespace Entries

/-- The integer after `i`, or the greatest one itself. -/
def following (i : Int64) : Int64 :=
  if i = Int64.maxValue then i else i + 1

/-- The entries with `value` at `key`: in the place of the present entry, or at the end. -/
def put (key : Key) (value : Value) : List (Key × Value) → List (Key × Value)
  | [] => [(key, value)]
  | (k, v) :: rest => if k = key then (k, value) :: rest else (k, v) :: put key value rest

/-- The next index after an entry with this key. -/
def nextAfter (key : Key) (next : Option Int64) : Option Int64 :=
  match key, next with
  | .int i, some n => some (max n (following i))
  | .int i, none => some (following i)
  | .text _, n => n

/-- Give `key` the value. -/
def insert (e : Entries) (key : Key) (value : Value) : Entries :=
  { entries := put key value e.entries, next := nextAfter key e.next }

/-- Add a value without a key. -/
def push (e : Entries) (value : Value) : Entries :=
  e.insert (.int (e.next.getD 0)) value

/-- The finished array. -/
def toValue (e : Entries) : Value :=
  .array e.entries

end Entries

end PhpInterface
