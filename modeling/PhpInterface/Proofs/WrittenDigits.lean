import Mathlib.Data.List.Induction
import Mathlib.Data.Nat.Digits.Defs
import Mathlib.Tactic.Ring
import PhpInterface.Decimal.Numeral
import PhpInterface.Source.Number

/-!
# Digits as they are written

Escapes in texts and integer tokens are written with the digits of four bases, and a digit above nine is a
letter of either case.  `Digit` is such a digit, with the case it is written in; what it counts does not
depend on the case.  `Digit.number` is what a sequence of digits stands for by place value, and reading the
characters gives the same number (`numeral_map_char`).
-/

namespace PhpInterface

open Decimal Source

/-! ## Numerals -/

/-- A zero in front counts nothing. -/
lemma numeral_zero (base : Nat) (t : List Char) : numeral base ('0' :: t) = numeral base t := by
  rw [numeral, List.foldl_cons]
  rfl

lemma numeral_concat (base : Nat) (t : List Char) (c : Char) :
    numeral base (t ++ [c]) = base * numeral base t + digitValue c := by
  rw [numeral, List.foldl_append]
  rfl

/-- Digits count the more the more digits come after them. -/
lemma numeral_append (base : Nat) (a b : List Char) :
    numeral base (a ++ b) = numeral base a * base ^ b.length + numeral base b := by
  induction b using List.reverseRecOn with
  | nil => simp [numeral]
  | append_singleton b c ih =>
      rw [← List.append_assoc, numeral_concat, numeral_concat, ih, List.length_append, List.length_singleton,
        pow_succ]
      ring

/-! ## Digits -/

/-- A digit of a base up to sixteen as it is written.  The case matters to letters only. -/
structure Digit (base : Nat) where
  value : Fin base
  capital : Bool
  deriving DecidableEq

namespace Digit

variable {base : Nat}

/-- The character that the digit is written as. -/
def char (d : Digit base) : Char :=
  if d.capital then (Nat.digitChar d.value).toUpper else Nat.digitChar d.value

/-- The number that digits stand for, the first one counting most. -/
def number (l : List (Digit base)) : Nat :=
  Nat.ofDigits base (l.reverse.map fun d => d.value.val)

/-- What holds of the sixteen digits in both cases holds of every digit. -/
lemma forall_char {P : Char → Nat → Prop} (d : Digit base) {bound : Nat}
    (h : ∀ v < bound, ∀ capital : Bool,
      P (if capital then (Nat.digitChar v).toUpper else Nat.digitChar v) v) (hbase : base ≤ bound) :
    P d.char d.value :=
  h d.value (d.value.isLt.trans_le hbase) d.capital

lemma digitValue_char (d : Digit base) (hbase : base ≤ 16) : digitValue d.char = d.value :=
  d.forall_char (P := fun c v => digitValue c = v) (by decide) hbase

lemma isHexDigit_char (d : Digit base) (hbase : base ≤ 16) : isHexDigit d.char = true :=
  d.forall_char (P := fun c _ => isHexDigit c = true) (by decide) hbase

lemma isDigit_char (d : Digit base) (hbase : base ≤ 10) : d.char.isDigit = true :=
  d.forall_char (P := fun c _ => c.isDigit = true) (by decide) hbase

lemma isOctalDigit_char (d : Digit base) (hbase : base ≤ 8) : isOctalDigit d.char = true :=
  d.forall_char (P := fun c _ => isOctalDigit c = true) (by decide) hbase

lemma isBinaryDigit_char (d : Digit base) (hbase : base ≤ 2) : isBinaryDigit d.char = true :=
  d.forall_char (P := fun c _ => isBinaryDigit c = true) (by decide) hbase

lemma char_eq_zero_iff (d : Digit base) (hbase : base ≤ 16) : d.char = '0' ↔ d.value.val = 0 :=
  d.forall_char (P := fun c v => c = '0' ↔ v = 0) (by decide) hbase

lemma char_ne_underscore (d : Digit base) (hbase : base ≤ 16) : d.char ≠ '_' :=
  d.forall_char (P := fun c _ => c ≠ '_') (by decide) hbase

lemma number_concat (l : List (Digit base)) (d : Digit base) :
    number (l ++ [d]) = base * number l + d.value := by
  rw [number, List.reverse_append, List.map_append]
  exact Nat.ofDigits_cons.trans (Nat.add_comm _ _)

/-- Digits are read as the number they stand for, whatever the case of their letters. -/
lemma numeral_map_char (l : List (Digit base)) (hbase : base ≤ 16) :
    numeral base (l.map char) = number l := by
  induction l using List.reverseRecOn with
  | nil => rfl
  | append_singleton l d ih =>
      rw [number_concat, ← ih, List.map_append, List.map_singleton, numeral_concat, d.digitValue_char hbase]

end Digit

end PhpInterface
