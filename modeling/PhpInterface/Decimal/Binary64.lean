/-!
# Binary floating-point numbers

A PHP float is an IEEE 754 binary64 number.  It is kept as its 64 bits: two numbers are the same value
of the library exactly when their bits agree, which tells the two zeros apart and makes a NaN equal to
itself.  A finite number is read as `significand * 2 ^ exponent` with an integral significand, and all
rules on it are stated over these two integers.
-/

namespace PhpInterface

/-- A binary64 number, given by its bits. -/
structure Binary64 where
  /-- sign, eleven bits of exponent and fifty-two bits of fraction -/
  bits : UInt64
  deriving DecidableEq, Inhabited

namespace Binary64

/-- The sign bit. -/
def negative (x : Binary64) : Bool :=
  x.bits.toNat / Nat.pow 2 63 == 1

/-- The exponent field, which is biased by 1023. -/
def exponentField (x : Binary64) : Nat :=
  x.bits.toNat / Nat.pow 2 52 % Nat.pow 2 11

/-- The fraction field. -/
def fraction (x : Binary64) : Nat :=
  x.bits.toNat % Nat.pow 2 52

/-- Not a number: the exponent field is full and the fraction is not zero. -/
def isNaN (x : Binary64) : Bool :=
  x.exponentField == 2047 && x.fraction != 0

/-- One of the two infinities. -/
def isInfinite (x : Binary64) : Bool :=
  x.exponentField == 2047 && x.fraction == 0

/-- Neither a NaN nor an infinity. -/
def isFinite (x : Binary64) : Bool :=
  x.exponentField != 2047

/-- The integral significand of a finite number; below `2 ^ 52` only for the least exponent. -/
def significand (x : Binary64) : Nat :=
  if x.exponentField = 0 then x.fraction else Nat.pow 2 52 + x.fraction

/-- The power of two that the integral significand of a finite number counts. -/
def exponent (x : Binary64) : Int :=
  max x.exponentField 1 - 1075

/-- One of the two zeros. -/
def isZero (x : Binary64) : Bool :=
  x.isFinite && x.significand == 0

/-- The same magnitude with the other sign. -/
def neg (x : Binary64) : Binary64 :=
  ⟨x.bits ^^^ 0x8000000000000000⟩

/-- Positive infinity. -/
def infinity : Binary64 := ⟨0x7FF0000000000000⟩

/-- The integral part of a finite number, toward zero. -/
def truncate (x : Binary64) : Int :=
  let magnitude : Nat :=
    match x.exponent with
    | .ofNat e => x.significand * Nat.pow 2 e
    | .negSucc e => x.significand / Nat.pow 2 (e + 1)
  if x.negative then -(magnitude : Int) else magnitude

end Binary64

end PhpInterface
