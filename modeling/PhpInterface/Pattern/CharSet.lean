import PhpInterface.Text.Blank
import PhpInterface.Text.Folding
import PhpInterface.Text.Letter

/-!
# Sets of characters

What a single place of a pattern accepts.
-/

namespace PhpInterface

open Text (CharTable)

/-- Which characters count as one. -/
inductive LetterCase where
  /-- only the same ones -/
  | exact
  /-- the two cases of the ASCII letters -/
  | ascii
  /-- the cases of every letter -/
  | unicode
  deriving DecidableEq, Inhabited

/-- Characters that count as the one with this number. -/
def LetterCase.others (n : Nat) : LetterCase → List Nat
  | .exact => []
  | .ascii =>
    if 0x41 ≤ n ∧ n ≤ 0x5A then [n + 0x20] else if 0x61 ≤ n ∧ n ≤ 0x7A then [n - 0x20] else []
  | .unicode => Text.sameLetter n

/-- A set of characters. -/
inductive CharSet where
  /-- the characters of a table, and those that count as one of them -/
  | table (t : CharTable) (letterCase : LetterCase)
  | none
  | union (a b : CharSet)
  | inter (a b : CharSet)
  | compl (a : CharSet)
  deriving Inhabited

namespace CharSet

/-- The character belongs to the set. -/
def has (c : Char) : CharSet → Bool
  | .table t letterCase => t.has c.toNat || (letterCase.others c.toNat).any t.has
  | .none => false
  | .union a b => a.has c || b.has c
  | .inter a b => a.has c && b.has c
  | .compl a => !a.has c

/-- The union of some sets. -/
def unionAll (sets : List CharSet) : CharSet :=
  sets.foldr .union .none

/-- The characters of some tables. -/
def ofTables (tables : List CharTable) (letterCase : LetterCase) : CharSet :=
  unionAll (tables.map (.table · letterCase))

end CharSet

/-- The named classes of characters. -/
inductive CharClass where
  /-- decimal digits -/
  | digit
  /-- characters of words -/
  | word
  /-- blanks -/
  | space
  deriving DecidableEq, Inhabited

/-- The characters of a class, those of ASCII or all. -/
def CharClass.set (k : CharClass) (unicode : Bool) : CharSet :=
  match k, unicode with
  | .digit, true => .table Text.decimalNumbers .exact
  | .digit, false => .table { ranges := [(0x30, 0x39)] } .exact
  | .word, true => .ofTables Text.wordCharacters .exact
  | .word, false => .table { ranges := [(0x30, 0x39), (0x41, 0x5A), (0x5F, 0x5F), (0x61, 0x7A)] } .exact
  | .space, true => .table { ranges := Text.blankRanges } .exact
  | .space, false => .table { ranges := [(0x09, 0x0D), (0x20, 0x20)] } .exact

end PhpInterface
