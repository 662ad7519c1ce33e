import PhpInterface.Decimal.Binary64

/-!
# The shortest decimal that reads back

A finite number that is not zero is written with the fewest decimal digits that determine it.  The
decimals that read back as `m * 2 ^ q` fill an interval around it: its ends lie half way to the two
neighbours, and belong to it exactly when `m` is even, because a half goes to the even neighbour.

For one digit, two digits and so on, up to the seventeen that always suffice, the two points of the
decimal grid next to the number are tested against that interval in exact integer arithmetic.  The
first grid with a hit wins; of two hits the nearer is taken, and of two equally near ones the upper.
-/

namespace PhpInterface.Decimal

/-- The decimal number `coefficient * 10 ^ exponent`. -/
structure Scientific where
  coefficient : Nat
  exponent : Int
  deriving DecidableEq, Inhabited

/-- How many digits a number has when it is written in base ten; zero has one. -/
def digitCount (n : Nat) : Nat :=
  (Nat.toDigits 10 n).length

/-- The greatest `k` with `10 ^ k ≤ num / den`, for positive `num` and `den`. -/
def magnitude (num den : Nat) : Int :=
  if den ≤ num then (digitCount (num / den) : Int) - 1
  else -(digitCount ((den - 1) / num) : Int)

/-- A positive number with the ends of the interval of those that are rounded to it, all three as
multiples of `1 / unit`. -/
structure Neighbourhood where
  value : Nat
  low : Nat
  high : Nat
  unit : Nat
  /-- the two ends belong to the interval -/
  closed : Bool

/-- The neighbourhood of a finite number that is not zero.  Below a power of two the numbers are twice
as dense as above, so there the lower end is only half as far away. -/
def neighbourhood (x : Binary64) : Neighbourhood :=
  let m := x.significand
  let scale := Nat.pow 2 (x.exponent - 2).toNat
  let down := if m = Nat.pow 2 52 ∧ x.exponentField > 1 then 1 else 2
  { value := 4 * m * scale
    low := (4 * m - down) * scale
    high := (4 * m + 2) * scale
    unit := Nat.pow 2 (2 - x.exponent).toNat
    closed := m % 2 == 0 }

/-- The decimal with so many digits that lies in the interval and is nearest to its value, if there
is one on that grid. -/
def onGrid? (n : Neighbourhood) (digits : Nat) : Option Scientific :=
  let step := magnitude n.value n.unit - digits + 1
  -- a grid point `c` stands for `c * a / b` of the neighbourhood's units
  let a := n.unit * Nat.pow 10 step.toNat
  let b := Nat.pow 10 (-step).toNat
  let inside (c : Nat) : Bool :=
    if n.closed then n.low * b ≤ c * a && c * a ≤ n.high * b
    else n.low * b < c * a && c * a < n.high * b
  let below := n.value * b / a
  let above := below + 1
  let nearerBelow := n.value * b - below * a < above * a - n.value * b
  if inside below && (nearerBelow || !inside above) then some ⟨below, step⟩
  else if inside above then some ⟨above, step⟩
  else none

/-- The same number without zeros at the end of its coefficient; there are at most `fuel` of them. -/
def stripZeros : Nat → Scientific → Scientific
  | 0, d => d
  | fuel + 1, d =>
    if d.coefficient % 10 = 0 ∧ d.coefficient ≠ 0 then
      stripZeros fuel ⟨d.coefficient / 10, d.exponent + 1⟩
    else d

/-- The magnitude of a finite number, exactly. -/
def exact (x : Binary64) : Scientific :=
  match x.exponent with
  | .ofNat e => ⟨x.significand * Nat.pow 2 e, 0⟩
  | .negSucc e => ⟨x.significand * Nat.pow 5 (e + 1), .negSucc e⟩

/-- The fewest digits that read back as the magnitude of a finite number that is not zero. -/
def shortest (x : Binary64) : Scientific :=
  let n := neighbourhood x
  match (List.range' 1 17).findSome? (onGrid? n) with
  | some d => stripZeros 17 d
  | none => exact x

end PhpInterface.Decimal
