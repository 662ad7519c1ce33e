import PhpInterface.Decimal.Shortest

/-!
# The nearest binary number

`Binary64.nearest` rounds a positive quotient of integers to the nearest binary64 number, a half going
to the even significand, and gives infinity where the rounded exponent leaves the range.  A decimal is
such a quotient; one whose magnitude is far outside the range is settled by its number of digits,
before any power of ten is formed.
-/

namespace PhpInterface.Binary64

/-- The quotient of two integers, rounded to the nearest one; a half goes to the even neighbour. -/
def roundDiv (num den : Nat) : Nat :=
  let q := num / den
  let twice := 2 * (num % den)
  if twice < den then q
  else if den < twice then q + 1
  else q + q % 2

/-- The nearest number to `num / den`, for a positive `den`.  The significand is counted in units of
`2 ^ e`, where `e` leaves it fifty-three bits unless that is below the least exponent; a carry out of
the significand moves on into the exponent field by itself. -/
def nearest (num den : Nat) : Binary64 :=
  if num = 0 then ⟨0⟩
  else
    let guess : Int := max (-1074) ((num.log2 : Int) - den.log2 - 53)
    let units (e : Int) : Nat × Nat := (num * Nat.pow 2 (-e).toNat, den * Nat.pow 2 e.toNat)
    let e := if (units guess).1 / (units guess).2 < Nat.pow 2 53 then guess else guess + 1
    let field := (e + 1074).toNat
    if field ≥ 2047 then infinity
    else
      let bits := field * Nat.pow 2 52 + roundDiv (units e).1 (units e).2
      if bits ≥ 2047 * Nat.pow 2 52 then infinity else ⟨bits.toUInt64⟩

/-- The nearest number to a natural number. -/
def ofNat (n : Nat) : Binary64 :=
  nearest n 1

/-- The nearest number to a decimal. -/
def ofScientific (d : Decimal.Scientific) : Binary64 :=
  let top := d.exponent + Decimal.digitCount d.coefficient
  if d.coefficient = 0 then ⟨0⟩
  else if top > 310 then infinity
  else if top < -330 then ⟨0⟩
  else nearest (d.coefficient * Nat.pow 10 d.exponent.toNat) (Nat.pow 10 (-d.exponent).toNat)

end PhpInterface.Binary64
