import PhpInterface.Source.Word

/-!
# Number tokens

The longest texts that are integers or floats by the rules of the language.  Underscores may stand
between digits.  A float needs a point or an exponent but no digit in front of it, so a lone point is
one, and so is the word `e5`.
-/

namespace PhpInterface.Source

open Reader

/-- More digits of a class, each run after an underscore. -/
def digitGroups (p : Char → Bool) : Reader (List Char) := do
  let groups ← many (do
    char '_'
    let d ← one p
    let ds ← run p
    pure ('_' :: d :: ds))
  pure groups.flatten

/-- Any number of digits with underscores between them. -/
def digits (p : Char → Bool) : Reader (List Char) := do
  let ds ← run p
  let more ← digitGroups p
  pure (ds ++ more)

/-- One or more digits with underscores between them. -/
def digits1 (p : Char → Bool) : Reader (List Char) := do
  let d ← one p
  let ds ← digits p
  pure (d :: ds)

/-- A digit of base sixteen. -/
def isHexDigit (c : Char) : Bool :=
  c.isDigit || ('a' ≤ c.toLower && c.toLower ≤ 'f')

/-- A digit of base eight. -/
def isOctalDigit (c : Char) : Bool :=
  '0' ≤ c && c ≤ '7'

/-- A digit of base two. -/
def isBinaryDigit (c : Char) : Bool :=
  c == '0' || c == '1'

/-- Digits after `0` and the letter of their base. -/
def basedDigits (letter : Char) (p : Char → Bool) : Reader (List Char) := do
  let z ← one (· == '0')
  let l ← one fun c => c.toLower == letter
  let ds ← digits1 p
  pure (z :: l :: ds)

/-- An integer token: base sixteen, two, eight (a zero, with or without the letter) or ten. -/
def integerToken : Reader (List Char) :=
  oneOf
    [basedDigits 'x' isHexDigit,
     basedDigits 'b' isBinaryDigit,
     do
      let z ← one (· == '0')
      let l ← optional? (one fun c => c.toLower == 'o')
      let ds ← digits isOctalDigit
      pure (z :: l.toList ++ ds),
     do
      let d ← one fun c => c.isDigit && c != '0'
      let ds ← digits Char.isDigit
      pure (d :: ds)]

/-- The exponent of a float token. -/
def exponentToken : Reader (List Char) := do
  let e ← one fun c => c.toLower == 'e'
  let sign ← optional? (one fun c => c == '+' || c == '-')
  let ds ← digits1 Char.isDigit
  pure (e :: sign.toList ++ ds)

/-- A float token: digits that may be missing, then a fraction, an exponent or both. -/
def floatToken : Reader (List Char) := do
  let whole ← digits Char.isDigit
  oneOf
    [do
      char '.'
      let fraction ← digits Char.isDigit
      let e ← optional? exponentToken
      pure (whole ++ '.' :: fraction ++ e.getD []),
     do
      let e ← exponentToken
      pure (whole ++ e)]

/-- A number token. -/
inductive NumberToken where
  | integer (text : List Char)
  | float (text : List Char)
  deriving DecidableEq, Inhabited

/-- A number.  Of an integer and a float the longer one counts, and a word that is longer than the float
is no number. -/
def numberToken : Reader NumberToken := fun s =>
  let wordLength := match rawWord s with
    | some (w, _) => w.length
    | none => 0
  match floatToken s, integerToken s with
  | some (f, rest), some (i, after) =>
    if f.length < i.length then some (.integer i, after) else some (.float f, rest)
  | some (f, rest), none => if f.length < wordLength then none else some (.float f, rest)
  | none, some (i, after) => some (.integer i, after)
  | none, none => none

end PhpInterface.Source
