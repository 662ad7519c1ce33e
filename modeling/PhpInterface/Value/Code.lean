import PhpInterface.Decimal.Shortest
import PhpInterface.Text.Blank
import PhpInterface.Value.Basic

/-!
# Values as PHP code

`Value.code` writes a value as the PHP expression that stands for it, an array with one line per
entry.  `Value.compactCode` is the same text with its layout characters left out, those inside quoted texts
too.
-/

namespace PhpInterface

/-- How a finite float that is not zero is laid out. -/
structure FloatLayout where
  /-- the least position of the point, counted from the first digit, that is written in place -/
  leastPoint : Int
  /-- the greatest position of the point that is written in place -/
  greatestPoint : Int

/-- The point is written in place for magnitudes from `0.0001` on and below `10 ^ 17`. -/
def Value.floatLayout : FloatLayout where
  leastPoint := -3
  greatestPoint := 17

/-- The digits of a decimal with its point.  `point` is the number of digits before the point; outside
the limits one digit stands before it and the exponent is written with its sign. -/
def FloatLayout.write (layout : FloatLayout) (d : Decimal.Scientific) : List Char :=
  let digits := Nat.toDigits 10 d.coefficient
  let point : Int := digits.length + d.exponent
  if point < layout.leastPoint ∨ layout.greatestPoint < point then
    let rest := digits.drop 1
    digits.take 1 ++ '.' :: (if rest.isEmpty then ['0'] else rest) ++
      'E' :: (if point - 1 < 0 then '-' else '+') :: Nat.toDigits 10 (point - 1).natAbs
  else if point ≤ 0 then
    '0' :: '.' :: List.replicate (-point).toNat '0' ++ digits
  else if digits.length ≤ point.toNat then
    digits ++ List.replicate (point.toNat - digits.length) '0' ++ ['.', '0']
  else
    digits.take point.toNat ++ '.' :: digits.drop point.toNat

/-- A float as PHP code; the two zeros keep their sign. -/
def Binary64.code (x : Binary64) : List Char :=
  if x.isNaN then ['N', 'A', 'N']
  else
    let sign := if x.negative then ['-'] else []
    if x.isInfinite then sign ++ ['I', 'N', 'F']
    else if x.isZero then sign ++ ['0', '.', '0']
    else sign ++ Value.floatLayout.write (Decimal.shortest x)

/-- An integer as PHP code.  The least one has no literal, so it is written as a difference. -/
def intCode (i : Int64) : List Char :=
  if i = Int64.minValue then Decimal.decimalText (i.toInt + 1) ++ ['-', '1'] else Decimal.decimalText i.toInt

/-- One character inside single quotes.  A NUL is not written there: the quotes are closed, and it is
joined to them from a double-quoted text. -/
def quotedChar (c : Char) : List Char :=
  if c = '\\' ∨ c = '\x27' then ['\\', c]
  else if c = '\x00' then "' . \"\\0\" . '".toList
  else [c]

/-- A text as PHP code, in single quotes. -/
def quoted (s : String) : List Char :=
  '\x27' :: s.toList.flatMap quotedChar ++ ['\x27']

/-- A key as PHP code. -/
def Key.code : Key → List Char
  | .int i => intCode i
  | .text s => quoted s

namespace Value

/-- The indentation of an array's lines at a depth of nesting. -/
def indent (depth : Nat) : List Char :=
  List.replicate (2 * depth) ' '

mutual

/-- A value as PHP code, inside arrays that are `depth` deep. -/
def codeAt (depth : Nat) : Value → List Char
  | .null => ['N', 'U', 'L', 'L']
  | .bool true => ['t', 'r', 'u', 'e']
  | .bool false => ['f', 'a', 'l', 's', 'e']
  | .int i => intCode i
  | .float x => x.code
  | .text s => quoted s
  | .array entries =>
    "array (\n".toList ++ entriesCode depth entries ++ indent depth ++ [')']

/-- The lines of an array's entries; an array inside it starts on a line of its own. -/
def entriesCode (depth : Nat) : List (Key × Value) → List Char
  | [] => []
  | (key, value) :: rest =>
    indent (depth + 1) ++ key.code ++ " => ".toList ++
      (if value.isArray then '\n' :: indent (depth + 1) else []) ++
      codeAt (depth + 1) value ++ [',', '\n'] ++ entriesCode depth rest

end

/-- The value as PHP code. -/
def code (v : Value) : String :=
  String.ofList (codeAt 0 v)

/-- The value as PHP code without layout characters, those inside quoted texts included. -/
def compactCode (v : Value) : String :=
  String.ofList ((codeAt 0 v).filter fun c => !Text.isLayout c)

end Value

end PhpInterface
