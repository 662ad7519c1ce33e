import PhpInterface.Decimal.Nearest
import PhpInterface.Decimal.Numeral
import PhpInterface.Value.Basic

/-!
# What number tokens mean

An integer token is read in the base that its beginning tells.  A number that 64 bits with a sign
cannot hold becomes the nearest float, and one that does not even fit into 128 bits has no value.
-/

namespace PhpInterface.Description

open Decimal

/-- The base of an integer token without underscores, and its digits in that base. -/
def baseAndDigits : List Char → Nat × List Char
  | '0' :: c :: rest =>
    if c.toLower = 'x' then (16, rest)
    else if c.toLower = 'b' then (2, rest)
    else if c.toLower = 'o' then (8, rest)
    else (8, c :: rest)
  | digits => (10, digits)

/-- The value of an integer token; a base without digits has none. -/
def integerValue? (token : List Char) : Option Value :=
  let (base, digits) := baseAndDigits (token.filter (· ≠ '_'))
  let n := numeral base digits
  if digits.isEmpty then none
  else if n < Nat.pow 2 63 then some (.int (Int64.ofNat n))
  else if n < Nat.pow 2 128 then some (.float (.ofNat n))
  else none

/-- An exponent with its sign. -/
def exponentValue : List Char → Int
  | '-' :: digits => -(numeral 10 digits : Int)
  | '+' :: digits => numeral 10 digits
  | digits => numeral 10 digits

/-- The value of a float token: the nearest float to its decimal.  One without any digit before the
exponent has none. -/
def floatValue? (token : List Char) : Option Value :=
  let s := token.filter (· ≠ '_')
  let mantissa := s.takeWhile fun c => c.toLower ≠ 'e'
  let exponent := (s.dropWhile fun c => c.toLower ≠ 'e').drop 1
  let whole := mantissa.takeWhile (· ≠ '.')
  let fraction := (mantissa.dropWhile (· ≠ '.')).drop 1
  if (whole ++ fraction).isEmpty then none
  else
    some (.float (.ofScientific
      ⟨numeral 10 (whole ++ fraction), exponentValue exponent - fraction.length⟩))

end PhpInterface.Description
