import Mathlib.Algebra.Order.Field.Rat
import Mathlib.Tactic.FieldSimp
import Mathlib.Tactic.Positivity
import PhpInterface.Proofs.UnambiguousCode
import PhpInterface.Proofs.WrittenDigits

/-!
# Floats are written as the decimals they are

A finite float is written with the fewest digits that determine it, and the point can be at four places: after
the first digit with an exponent behind, before zeros in front of the digits, behind zeros after them, or
between two of them.  Whatever the place, the text is a decimal numeral for exactly the number with these
digits (`float_notation_exact`).

A `DecimalNumeral` is such a numeral on its own terms: digits on both sides of a point and perhaps an
exponent.  A text is at most one of them (`DecimalNumeral.text_injective`), so that it has one value.  The
layouts differ in where zeros are filled in, and `DecimalNumeral.value_eq` makes their values comparable: it
counts all digits as one integer and leaves the point to the exponent.

Numbers without a zero at the end of their digits are told apart by the value alone, so their texts are.
-/

namespace PhpInterface

open Decimal

/-! ## Numerals -/

/-- At least one digit, and nothing but digits. -/
def IsDigits (t : List Char) : Prop :=
  t ≠ [] ∧ ∀ c ∈ t, c.isDigit = true

lemma isDigits_zero : IsDigits ['0'] := by
  simp [IsDigits]

lemma isDigit_of_mem_zeros {k : Nat} {c : Char} (h : c ∈ List.replicate k '0') : c.isDigit = true := by
  rw [List.eq_of_mem_replicate h]
  rfl

lemma IsDigits.zeros_append {t : List Char} (h : IsDigits t) (k : Nat) : IsDigits (List.replicate k '0' ++ t) :=
  ⟨List.append_ne_nil_of_right_ne_nil _ h.1, List.forall_mem_append.2 ⟨fun _ => isDigit_of_mem_zeros, h.2⟩⟩

lemma IsDigits.append_zeros {t : List Char} (h : IsDigits t) (k : Nat) : IsDigits (t ++ List.replicate k '0') :=
  ⟨List.append_ne_nil_of_left_ne_nil h.1 _, List.forall_mem_append.2 ⟨h.2, fun _ => isDigit_of_mem_zeros⟩⟩

/-- A decimal numeral with a point. -/
@[ext] structure DecimalNumeral where
  negative : Bool
  /-- the digits before the point -/
  whole : List Char
  /-- the digits after the point -/
  fraction : List Char
  /-- whether the exponent is negative, and its digits -/
  exponent : Option (Bool × List Char)
  hwhole : IsDigits whole
  hfraction : IsDigits fraction
  hexponent : ∀ e ∈ exponent, IsDigits e.2

/-- A minus sign, or nothing. -/
def minusSign (negative : Bool) : List Char :=
  if negative then ['-'] else []

namespace DecimalNumeral

/-- An exponent as it is written, with its sign. -/
def exponentText : Option (Bool × List Char) → List Char
  | none => []
  | some (negative, digits) => 'E' :: (if negative then '-' else '+') :: digits

/-- The numeral as it is written. -/
def text (n : DecimalNumeral) : List Char :=
  minusSign n.negative ++ (n.whole ++ '.' :: (n.fraction ++ exponentText n.exponent))

/-- The number that an exponent stands for. -/
def exponentValue : Option (Bool × List Char) → Int
  | none => 0
  | some (negative, digits) => if negative then -(numeral 10 digits : Int) else numeral 10 digits

/-- The number that the numeral denotes. -/
def value (n : DecimalNumeral) : ℚ :=
  (if n.negative then -1 else 1) *
    ((numeral 10 n.whole : ℚ) + numeral 10 n.fraction / 10 ^ n.fraction.length) *
      10 ^ exponentValue n.exponent

/-- All digits as one integer, with a power of ten for the point and the exponent. -/
lemma value_eq (n : DecimalNumeral) :
    n.value = (if n.negative then -1 else 1) * (numeral 10 (n.whole ++ n.fraction) : ℚ) *
      10 ^ (exponentValue n.exponent - n.fraction.length) := by
  have hten : (10 : ℚ) ≠ 0 := by norm_num
  rw [value, numeral_append, zpow_sub₀ hten, zpow_natCast]
  push_cast
  field_simp

/-! ### One numeral for a text -/

lemma isDigit_head {t : List Char} (h : IsDigits t) (rest : List Char) :
    ∀ c ∈ (t ++ rest).head?, c.isDigit = true := by
  obtain ⟨c, t, rfl⟩ := List.exists_cons_of_ne_nil h.1
  rintro d ⟨⟩
  exact h.2 _ List.mem_cons_self

lemma head_exponentText (e : Option (Bool × List Char)) : ∀ c ∈ (exponentText e).head?, c.isDigit = false := by
  cases e with
  | none => simp [exponentText]
  | some e =>
      rintro c ⟨⟩
      rfl

lemma exponentText_injective {e e' : Option (Bool × List Char)} (h : exponentText e = exponentText e') :
    e = e' := by
  cases e with
  | none =>
      cases e' with
      | none => rfl
      | some e' => cases h
  | some e =>
      cases e' with
      | none => cases h
      | some e' =>
          obtain ⟨negative, digits⟩ := e
          obtain ⟨negative', digits'⟩ := e'
          simp only [exponentText, List.cons.injEq, true_and] at h
          obtain ⟨hsign, rfl⟩ := h
          cases negative <;> cases negative' <;> simp_all

/-- A text is at most one numeral. -/
lemma text_injective {n n' : DecimalNumeral} (h : n.text = n'.text) : n = n' := by
  -- a sign is no digit, so that it belongs to both texts or to none
  have hbody : n.negative = n'.negative ∧ n.whole ++ '.' :: (n.fraction ++ exponentText n.exponent) =
      n'.whole ++ '.' :: (n'.fraction ++ exponentText n'.exponent) := by
    unfold text minusSign at h
    have hdigit := isDigit_head n.hwhole ('.' :: (n.fraction ++ exponentText n.exponent))
    have hdigit' := isDigit_head n'.hwhole ('.' :: (n'.fraction ++ exponentText n'.exponent))
    cases hnegative : n.negative <;> cases hnegative' : n'.negative <;> simp only [hnegative, hnegative'] at h
    · exact ⟨rfl, h⟩
    · rw [if_neg Bool.false_ne_true, List.nil_append] at h
      rw [h] at hdigit
      cases hdigit '-' rfl
    · rw [if_neg Bool.false_ne_true, List.nil_append] at h
      rw [← h] at hdigit'
      cases hdigit' '-' rfl
    · exact ⟨rfl, List.append_cancel_left h⟩
  obtain ⟨hnegative, hbody⟩ := hbody
  have hpoint : ∀ t : List Char, ∀ c ∈ ('.' :: t).head?, c.isDigit = false := by
    rintro t c ⟨⟩
    rfl
  obtain ⟨hwhole, hafter⟩ := run_append_inj n.hwhole.2 n'.hwhole.2 (hpoint _) (hpoint _) hbody
  obtain ⟨hfraction, hexponent⟩ := run_append_inj n.hfraction.2 n'.hfraction.2 (head_exponentText _)
    (head_exponentText _) (List.cons.inj hafter).2
  exact DecimalNumeral.ext hnegative hwhole hfraction (exponentText_injective hexponent)

/-- There is one point in a numeral. -/
lemma count_point_text (n : DecimalNumeral) : n.text.count '.' = 1 := by
  have hdigits : ∀ t : List Char, (∀ c ∈ t, c.isDigit = true) → t.count '.' = 0 := by
    intro t ht
    rw [List.count_eq_zero]
    intro hmem
    cases ht '.' hmem
  have hsign : (minusSign n.negative).count '.' = 0 := by
    cases n.negative <;> rfl
  have hexponent : (exponentText n.exponent).count '.' = 0 := by
    cases he : n.exponent with
    | none => rfl
    | some e =>
        obtain ⟨negative, digits⟩ := e
        cases negative <;> simpa [exponentText] using hdigits digits (n.hexponent _ he).2
  rw [text, List.count_append, List.count_append, List.count_cons_self, List.count_append, hsign, hexponent,
    hdigits _ n.hwhole.2, hdigits _ n.hfraction.2]

end DecimalNumeral

/-! ## Decimals -/

namespace Decimal.Scientific

/-- The digits of the coefficient. -/
def digits (d : Scientific) : List Char :=
  Nat.toDigits 10 d.coefficient

/-- The exponent of the decimal if its point is put after the first digit. -/
def leadingExponent (d : Scientific) : Int :=
  d.digits.length - 1 + d.exponent

/-- The number that the digits stand for, with the point after the first one, times the power of ten with
that exponent. -/
def value (d : Scientific) : ℚ :=
  (numeral 10 d.digits : ℚ) / 10 ^ (d.digits.length - 1) * 10 ^ d.leadingExponent

lemma isDigits_digits (d : Scientific) : IsDigits d.digits :=
  ⟨Nat.toDigits_ne_nil, fun _ => isDigit_of_mem_toDigits⟩

lemma numeral_digits (d : Scientific) : numeral 10 d.digits = d.coefficient :=
  numeral_toDigits d.coefficient

lemma value_eq (d : Scientific) : d.value = (d.coefficient : ℚ) * 10 ^ d.exponent := by
  have hten : (10 : ℚ) ≠ 0 := by norm_num
  have hlength : 1 ≤ d.digits.length := List.length_pos_iff.2 d.isDigits_digits.1
  have hexponent : d.leadingExponent = ((d.digits.length - 1 : ℕ) : ℤ) + d.exponent := by
    rw [leadingExponent, Nat.cast_sub hlength]
    rfl
  rw [value, numeral_digits, hexponent, zpow_add₀ hten, zpow_natCast]
  field_simp

end Decimal.Scientific

/-! ## Layouts -/

/-- The digits of a decimal with its point and perhaps its exponent, as a layout puts them. -/
structure FloatLayout.Shows (layout : FloatLayout) (d : Scientific) (n : DecimalNumeral) : Prop where
  text : n.text = minusSign n.negative ++ layout.write d
  value : n.value = (if n.negative then -1 else 1) * d.value
  exponent : n.exponent.isSome = true ↔
    d.leadingExponent + 1 < layout.leastPoint ∨ layout.greatestPoint < d.leadingExponent + 1

/-- A numeral has the value of a decimal if its digits are those of the decimal with zeros after them, and
the zeros are made up for. -/
lemma value_of_digits {n : DecimalNumeral} {d : Scientific} (zeros : Nat)
    (hdigits : numeral 10 (n.whole ++ n.fraction) = d.coefficient * 10 ^ zeros)
    (hpoint : DecimalNumeral.exponentValue n.exponent - n.fraction.length + zeros = d.exponent) :
    n.value = (if n.negative then -1 else 1) * d.value := by
  have hten : (10 : ℚ) ≠ 0 := by norm_num
  rw [n.value_eq, d.value_eq, hdigits, ← hpoint, zpow_add₀ hten, zpow_natCast]
  push_cast
  ring

lemma numeral_replicate_zero (k : Nat) (t : List Char) :
    numeral 10 (List.replicate k '0' ++ t) = numeral 10 t := by
  induction k with
  | zero => rfl
  | succ k ih => rw [List.replicate_succ, List.cons_append, numeral_zero, ih]

/-- An exponent with its sign and its digits. -/
def signedExponent (e : Int) : Bool × List Char :=
  (decide (e < 0), Nat.toDigits 10 e.natAbs)

lemma exponentValue_signedExponent (e : Int) : DecimalNumeral.exponentValue (some (signedExponent e)) = e := by
  rw [signedExponent, DecimalNumeral.exponentValue, numeral_toDigits]
  by_cases he : e < 0
  · rw [decide_eq_true he, if_pos rfl]
    omega
  · rw [decide_eq_false he, if_neg Bool.false_ne_true]
    omega

lemma isDigits_signedExponent (e : Int) : ∀ x ∈ some (signedExponent e), IsDigits x.2 := by
  rintro x ⟨⟩
  exact ⟨Nat.toDigits_ne_nil, fun _ => isDigit_of_mem_toDigits⟩

section

variable (layout : FloatLayout) (d : Scientific) (negative : Bool)

/-- The layout in terms of the digits and of the exponent for a point after the first one. -/
lemma write_eq :
    layout.write d =
      if d.leadingExponent + 1 < layout.leastPoint ∨ layout.greatestPoint < d.leadingExponent + 1 then
        d.digits.take 1 ++ '.' :: ((if (d.digits.drop 1).isEmpty then ['0'] else d.digits.drop 1) ++
          DecimalNumeral.exponentText (some (signedExponent d.leadingExponent)))
      else if d.leadingExponent + 1 ≤ 0 then
        ['0'] ++ '.' :: (List.replicate (-(d.leadingExponent + 1)).toNat '0' ++ d.digits)
      else if d.digits.length ≤ (d.leadingExponent + 1).toNat then
        (d.digits ++ List.replicate ((d.leadingExponent + 1).toNat - d.digits.length) '0') ++ '.' :: ['0']
      else
        d.digits.take (d.leadingExponent + 1).toNat ++ '.' :: d.digits.drop (d.leadingExponent + 1).toNat := by
  have hpoint : (d.digits.length : Int) + d.exponent = d.leadingExponent + 1 := by
    rw [Scientific.leadingExponent]
    ring
  have hlast : d.leadingExponent + 1 - 1 = d.leadingExponent := by ring
  unfold FloatLayout.write
  dsimp only
  rw [← Scientific.digits, hpoint, hlast]
  simp [DecimalNumeral.exponentText, signedExponent]

/-- One digit before the point, and an exponent.  A single digit gets a zero after the point. -/
lemma exists_shows_exponent
    (h : d.leadingExponent + 1 < layout.leastPoint ∨ layout.greatestPoint < d.leadingExponent + 1) :
    ∃ n, n.negative = negative ∧ layout.Shows d n := by
  have hwrite := write_eq layout d
  rw [if_pos h] at hwrite
  have hnumeral := d.numeral_digits
  have hdigits := d.isDigits_digits
  have hlength : d.leadingExponent = d.digits.length - 1 + d.exponent := rfl
  obtain ⟨c, rest, hcons⟩ := List.exists_cons_of_ne_nil hdigits.1
  rw [hcons] at hwrite hnumeral hdigits hlength
  have hfirst : IsDigits [c] := by
    refine ⟨List.cons_ne_nil _ _, fun x hx => ?_⟩
    rw [List.mem_singleton.1 hx]
    exact hdigits.2 c List.mem_cons_self
  have hexponent := isDigits_signedExponent d.leadingExponent
  cases rest with
  | nil =>
      refine ⟨⟨negative, [c], ['0'], _, hfirst, isDigits_zero, hexponent⟩, rfl, ?_, ?_, by simpa using h⟩
      · rw [hwrite]
        rfl
      · refine value_of_digits 1 ?_ ?_
        · rw [numeral_append, hnumeral]
          rfl
        · rw [exponentValue_signedExponent]
          simp only [List.length_cons, List.length_nil] at hlength ⊢
          omega
  | cons c' rest =>
      have hrest : IsDigits (c' :: rest) :=
        ⟨List.cons_ne_nil _ _, fun x hx => hdigits.2 x (List.mem_cons_of_mem _ hx)⟩
      refine ⟨⟨negative, [c], c' :: rest, _, hfirst, hrest, hexponent⟩, rfl, ?_, ?_, by simpa using h⟩
      · rw [hwrite]
        rfl
      · refine value_of_digits 0 (by simpa using hnumeral) ?_
        rw [exponentValue_signedExponent]
        simp only [List.length_cons] at hlength ⊢
        omega

/-- A numeral without an exponent shows a decimal that is near enough to the point. -/
lemma shows_of_in_place {n : DecimalNumeral}
    (hlayout : ¬ (d.leadingExponent + 1 < layout.leastPoint ∨ layout.greatestPoint < d.leadingExponent + 1))
    (hexponent : n.exponent = none) (hwrite : layout.write d = n.whole ++ '.' :: n.fraction) (zeros : Nat)
    (hdigits : numeral 10 (n.whole ++ n.fraction) = d.coefficient * 10 ^ zeros)
    (hpoint : (zeros : Int) - n.fraction.length = d.exponent) : layout.Shows d n where
  text := by
    rw [hwrite, DecimalNumeral.text, hexponent, DecimalNumeral.exponentText, List.append_nil]
  value := by
    refine value_of_digits zeros hdigits ?_
    rw [hexponent, DecimalNumeral.exponentValue]
    omega
  exponent := by simpa [hexponent] using hlayout

/-- Zeros between the point and the digits. -/
lemma exists_shows_small
    (hlayout : ¬ (d.leadingExponent + 1 < layout.leastPoint ∨ layout.greatestPoint < d.leadingExponent + 1))
    (h : d.leadingExponent + 1 ≤ 0) : ∃ n, n.negative = negative ∧ layout.Shows d n := by
  have hwrite := write_eq layout d
  rw [if_neg hlayout, if_pos h] at hwrite
  have hlength : d.leadingExponent = d.digits.length - 1 + d.exponent := rfl
  have hfraction := d.isDigits_digits.zeros_append (-(d.leadingExponent + 1)).toNat
  refine ⟨⟨negative, ['0'], _, none, isDigits_zero, hfraction, nofun⟩, rfl,
    shows_of_in_place layout d hlayout rfl hwrite 0 ?_ ?_⟩
  · simp [numeral_zero, numeral_replicate_zero, d.numeral_digits]
  · simp only [List.length_append, List.length_replicate]
    push_cast
    omega

/-- Zeros between the digits and the point. -/
lemma exists_shows_integral
    (hlayout : ¬ (d.leadingExponent + 1 < layout.leastPoint ∨ layout.greatestPoint < d.leadingExponent + 1))
    (hpos : ¬ d.leadingExponent + 1 ≤ 0) (h : d.digits.length ≤ (d.leadingExponent + 1).toNat) :
    ∃ n, n.negative = negative ∧ layout.Shows d n := by
  have hwrite := write_eq layout d
  rw [if_neg hlayout, if_neg hpos, if_pos h] at hwrite
  have hlength : d.leadingExponent = d.digits.length - 1 + d.exponent := rfl
  have hwhole := d.isDigits_digits.append_zeros ((d.leadingExponent + 1).toNat - d.digits.length)
  refine ⟨⟨negative, _, ['0'], none, hwhole, isDigits_zero, nofun⟩, rfl,
    shows_of_in_place layout d hlayout rfl hwrite ((d.leadingExponent + 1).toNat - d.digits.length + 1) ?_ ?_⟩
  · have hzeros := numeral_replicate_zero ((d.leadingExponent + 1).toNat - d.digits.length) ['0']
    rw [List.append_assoc, numeral_append, hzeros, d.numeral_digits]
    simp [numeral, digitValue]
  · simp only [List.length_singleton]
    push_cast
    omega

/-- The point between two digits. -/
lemma exists_shows_split
    (hlayout : ¬ (d.leadingExponent + 1 < layout.leastPoint ∨ layout.greatestPoint < d.leadingExponent + 1))
    (hpos : ¬ d.leadingExponent + 1 ≤ 0) (h : ¬ d.digits.length ≤ (d.leadingExponent + 1).toNat) :
    ∃ n, n.negative = negative ∧ layout.Shows d n := by
  have hwrite := write_eq layout d
  rw [if_neg hlayout, if_neg hpos, if_neg h] at hwrite
  have hlength : d.leadingExponent = d.digits.length - 1 + d.exponent := rfl
  have hwhole : IsDigits (d.digits.take (d.leadingExponent + 1).toNat) := by
    refine ⟨?_, fun c hc => d.isDigits_digits.2 c (List.mem_of_mem_take hc)⟩
    rw [← List.length_pos_iff, List.length_take]
    omega
  have hfraction : IsDigits (d.digits.drop (d.leadingExponent + 1).toNat) := by
    refine ⟨?_, fun c hc => d.isDigits_digits.2 c (List.mem_of_mem_drop hc)⟩
    rw [← List.length_pos_iff, List.length_drop]
    omega
  refine ⟨⟨negative, _, _, none, hwhole, hfraction, nofun⟩, rfl,
    shows_of_in_place layout d hlayout rfl hwrite 0 ?_ ?_⟩
  · simp [d.numeral_digits]
  · simp only [List.length_drop]
    push_cast
    omega

/-- Every layout shows a decimal as a numeral. -/
lemma exists_shows : ∃ n, n.negative = negative ∧ layout.Shows d n := by
  by_cases hlayout : d.leadingExponent + 1 < layout.leastPoint ∨ layout.greatestPoint < d.leadingExponent + 1
  · exact exists_shows_exponent layout d negative hlayout
  · by_cases hpos : d.leadingExponent + 1 ≤ 0
    · exact exists_shows_small layout d negative hlayout hpos
    · by_cases hlength : d.digits.length ≤ (d.leadingExponent + 1).toNat
      · exact exists_shows_integral layout d negative hlayout hpos hlength
      · exact exists_shows_split layout d negative hlayout hpos hlength

end

/-! ## Telling decimals apart -/

/-- A sign and a decimal as a float with these digits is written. -/
def decimalCode (negative : Bool) (d : Scientific) : List Char :=
  minusSign negative ++ Value.floatLayout.write d

/-- A decimal without a zero at the end is determined by its value. -/
lemma eq_of_value_eq {d d' : Scientific} (h : d.coefficient % 10 ≠ 0) (h' : d'.coefficient % 10 ≠ 0)
    (hvalue : d.value = d'.value) : d = d' := by
  -- a greater exponent would give the other coefficient a factor of ten
  have hle : ∀ {a b : Scientific}, b.coefficient % 10 ≠ 0 → a.value = b.value → a.exponent ≤ b.exponent := by
    intro a b hb hab
    by_contra hlt
    have hten : (10 : ℚ) ≠ 0 := by norm_num
    obtain ⟨k, hk⟩ : ∃ k : Nat, a.exponent = b.exponent + (k + 1 : Nat) :=
      ⟨(a.exponent - b.exponent - 1).toNat, by push_cast; omega⟩
    rw [a.value_eq, b.value_eq, hk, zpow_add₀ hten, zpow_natCast, mul_comm (10 ^ b.exponent),
      ← mul_assoc] at hab
    have hcoefficient := mul_right_cancel₀ (zpow_ne_zero _ hten) hab
    have hnat : a.coefficient * 10 ^ (k + 1) = b.coefficient := by exact_mod_cast hcoefficient
    refine hb ?_
    rw [← hnat, pow_succ, ← mul_assoc, Nat.mul_mod_left]
  have hexponent : d.exponent = d'.exponent := le_antisymm (hle h' hvalue) (hle h hvalue.symm)
  rw [d.value_eq, d'.value_eq, hexponent] at hvalue
  have hcoefficient := mul_right_cancel₀ (zpow_ne_zero _ (by norm_num)) hvalue
  obtain ⟨coefficient, exponent⟩ := d
  obtain ⟨coefficient', exponent'⟩ := d'
  simp only [Nat.cast_inj] at hcoefficient
  simp only at hexponent
  rw [hcoefficient, hexponent]

lemma decimalCode_injective {negative negative' : Bool} {d d' : Scientific} (h : d.coefficient % 10 ≠ 0)
    (h' : d'.coefficient % 10 ≠ 0) (hcode : decimalCode negative d = decimalCode negative' d') :
    negative = negative' ∧ d = d' := by
  obtain ⟨n, hnegative, hn⟩ := exists_shows Value.floatLayout d negative
  obtain ⟨n', hnegative', hn'⟩ := exists_shows Value.floatLayout d' negative'
  have hsame : n = n' := by
    refine DecimalNumeral.text_injective ?_
    rw [hn.text, hn'.text, hnegative, hnegative']
    exact hcode
  have hsign : negative = negative' := by rw [← hnegative, ← hnegative', hsame]
  refine ⟨hsign, eq_of_value_eq h h' ?_⟩
  have hvalue : n.value = n'.value := by rw [hsame]
  rw [hn.value, hn'.value, hnegative, hnegative', hsign] at hvalue
  refine mul_left_cancel₀ ?_ hvalue
  split <;> norm_num

/-! ## The digits of floats -/

section

variable {x : Binary64}

/-- The lower end of a neighbourhood is above zero. -/
lemma low_neighbourhood_pos (h : 0 < x.significand) : 0 < (neighbourhood x).low := by
  have hdown : (if x.significand = Nat.pow 2 52 ∧ x.exponentField > 1 then 1 else 2) ≤ 2 := by
    split <;> decide
  refine Nat.mul_pos ?_ (Nat.pow_pos (by decide))
  omega

/-- Of two neighbours on a grid, the one that is chosen is not zero if zero cannot be. -/
lemma coefficient_pos_of_choice (inside : Nat → Bool) (hzero : inside 0 = false) {below : Nat} {nearer : Bool}
    {step : Int} {d : Scientific}
    (h : (if inside below && nearer then some ⟨below, step⟩
      else if inside (below + 1) then some ⟨below + 1, step⟩ else none) = some d) : 0 < d.coefficient := by
  split at h
  · next hinside =>
    cases h
    refine Nat.pos_of_ne_zero ?_
    rintro rfl
    rw [hzero] at hinside
    cases hinside
  · split at h
    · cases h
      exact Nat.succ_pos _
    · cases h

/-- A decimal in a neighbourhood is not zero. -/
lemma coefficient_pos_of_onGrid? {n : Neighbourhood} (hlow : 0 < n.low) {digits : Nat} {d : Scientific}
    (h : onGrid? n digits = some d) : 0 < d.coefficient := by
  let step := magnitude n.value n.unit - digits + 1
  let a := n.unit * Nat.pow 10 step.toNat
  let b := Nat.pow 10 (-step).toNat
  have hzero : (if n.closed then decide (n.low * b ≤ 0 * a) && decide (0 * a ≤ n.high * b)
      else decide (n.low * b < 0 * a) && decide (0 * a < n.high * b)) = false := by
    have hpos : 0 < n.low * b := Nat.mul_pos hlow (Nat.pow_pos (by decide))
    have hle : ¬ n.low * b ≤ 0 * a := by rw [Nat.zero_mul]; exact Nat.not_le.2 hpos
    rw [decide_eq_false hle, decide_eq_false fun hlt => hle (Nat.le_of_lt hlt)]
    simp
  exact coefficient_pos_of_choice (fun c =>
    if n.closed then decide (n.low * b ≤ c * a) && decide (c * a ≤ n.high * b)
    else decide (n.low * b < c * a) && decide (c * a < n.high * b)) hzero h

lemma coefficient_pos_stripZeros (fuel : Nat) {d : Scientific} (h : 0 < d.coefficient) :
    0 < (stripZeros fuel d).coefficient := by
  induction fuel generalizing d with
  | zero => exact h
  | succ fuel ih =>
      rw [stripZeros]
      split
      · refine ih ?_
        dsimp only
        omega
      · exact h

lemma coefficient_pos_exact (h : 0 < x.significand) : 0 < (exact x).coefficient := by
  unfold exact
  split <;> exact Nat.mul_pos h (Nat.pow_pos (by decide))

lemma coefficient_pos_shortest (h : 0 < x.significand) : 0 < (shortest x).coefficient := by
  unfold shortest
  dsimp only
  split
  · next d hd =>
    obtain ⟨digits, -, hgrid⟩ := List.exists_of_findSome?_eq_some hd
    exact coefficient_pos_stripZeros _ (coefficient_pos_of_onGrid? (low_neighbourhood_pos h) hgrid)
  · exact coefficient_pos_exact h

lemma significand_pos (hfinite : x.isFinite = true) (hzero : x.isZero = false) : 0 < x.significand := by
  rw [Binary64.isZero, hfinite, Bool.true_and, beq_eq_false_iff_ne] at hzero
  exact Nat.pos_of_ne_zero hzero

lemma code_of_finite (hfinite : x.isFinite = true) (hzero : x.isZero = false) :
    x.code = decimalCode x.negative (shortest x) := by
  have hfield : (x.exponentField == 2047) = false := by
    rw [beq_eq_false_iff_ne]
    simpa [Binary64.isFinite] using hfinite
  have hnan : x.isNaN = false := by rw [Binary64.isNaN, hfield, Bool.false_and]
  have hinfinite : x.isInfinite = false := by rw [Binary64.isInfinite, hfield, Bool.false_and]
  rw [Binary64.code, hnan, if_neg Bool.false_ne_true, hinfinite, if_neg Bool.false_ne_true, hzero,
    if_neg Bool.false_ne_true]
  rfl

end

/-! ## Floats -/

/-- How floats are written.  The text of a finite float that is not zero is its sign and its shortest decimal,
whose first digit is not zero.  Such a text is one decimal numeral and no other: it has one point with digits
on both sides and an exponent exactly when the point is too far from the digits, and it denotes exactly the
number with these digits.  Two signs and decimals that do not end in a zero have different texts, unless
they are the same. -/
theorem float_notation_exact :
    (∀ x : Binary64, x.isFinite = true → x.isZero = false →
      x.code = decimalCode x.negative (shortest x) ∧ (shortest x).digits.head? ≠ some '0') ∧
    (∀ (negative : Bool) (d : Scientific), ∃ n : DecimalNumeral,
      n.text = decimalCode negative d ∧ (∀ m : DecimalNumeral, m.text = decimalCode negative d → m = n) ∧
        (decimalCode negative d).count '.' = 1 ∧
        n.value = (if negative then -1 else 1) * d.value ∧
        (n.exponent.isSome = true ↔ d.leadingExponent + 1 < -3 ∨ d.leadingExponent + 1 > 17)) ∧
    ∀ (negative negative' : Bool) (d d' : Scientific), d.coefficient % 10 ≠ 0 → d'.coefficient % 10 ≠ 0 →
      decimalCode negative d = decimalCode negative' d' → negative = negative' ∧ d = d' := by
  refine ⟨fun x hfinite hzero => ⟨code_of_finite hfinite hzero, ?_⟩, fun negative d => ?_, ?_⟩
  · exact head_toDigits (coefficient_pos_shortest (significand_pos hfinite hzero))
  · obtain ⟨n, rfl, hn⟩ := exists_shows Value.floatLayout d negative
    refine ⟨n, hn.text, fun m hm => DecimalNumeral.text_injective (hm.trans hn.text.symm), ?_, hn.value,
      hn.exponent⟩
    rw [decimalCode, ← hn.text, n.count_point_text]
  · intro negative negative' d d' h h'
    exact decimalCode_injective h h'

/-- The float next to `-0.000015`. -/
def smallFloat : Binary64 :=
  ⟨0xBEEF75104D551D69⟩

theorem float_notation_exact_small :
    smallFloat.isFinite = true ∧ smallFloat.isZero = false ∧ shortest smallFloat = ⟨15, -6⟩ ∧
      smallFloat.code = "-1.5E-5".toList ∧
      (∃ n : DecimalNumeral, n.text = smallFloat.code ∧ n.value = -1 * (15 * 10 ^ (-6 : Int)) ∧
        n.exponent.isSome = true) ∧
      15 % 10 ≠ 0 ∧ decimalCode true ⟨15, -6⟩ ≠ decimalCode true ⟨15, -5⟩ := by
  have hfinite : smallFloat.isFinite = true := by decide
  have hzero : smallFloat.isZero = false := by decide
  have hshortest : shortest smallFloat = ⟨15, -6⟩ := by decide +kernel
  have hnegative : smallFloat.negative = true := by decide
  obtain ⟨hcode, hnumeral, hinjective⟩ := float_notation_exact
  have htext : smallFloat.code = decimalCode true ⟨15, -6⟩ := by
    rw [(hcode smallFloat hfinite hzero).1, hshortest, hnegative]
  refine ⟨hfinite, hzero, hshortest, htext.trans (by decide +kernel), ?_, by decide, fun h => ?_⟩
  · obtain ⟨n, hn, -, -, hvalue, hexponent⟩ := hnumeral true ⟨15, -6⟩
    refine ⟨n, hn.trans htext.symm, hvalue.trans ?_, hexponent.2 (by decide +kernel)⟩
    rw [Scientific.value_eq]
    rfl
  · have hsame := (hinjective true true ⟨15, -6⟩ ⟨15, -5⟩ (by decide) (by decide) h).2
    exact absurd hsame (by decide)

end PhpInterface
