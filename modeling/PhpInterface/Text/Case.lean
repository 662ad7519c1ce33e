/-!
# Letter case

PHP names are compared without regard to the case of ASCII letters, and only of those: `É` and `é`
are different names.  `lower` is the canonical form, and two texts are the same name exactly when
their canonical forms are equal.
-/

namespace PhpInterface.Text

/-- The text with its ASCII capitals made small and every other character kept. -/
def lower (s : String) : String :=
  String.ofList (s.toList.map Char.toLower)

/-- Equality of names: the letters agree, whatever the case of the ASCII ones. -/
def caselessEq (a b : String) : Bool :=
  lower a == lower b

/-- The code of a character made small. -/
theorem toNat_toLower (c : Char) :
    c.toLower.toNat = if 65 ≤ c.toNat ∧ c.toNat ≤ 90 then c.toNat + 32 else c.toNat := by
  by_cases hupper : c.val ≥ 'A'.val ∧ c.val ≤ 'Z'.val
  · have hrange : 65 ≤ c.toNat ∧ c.toNat ≤ 90 := hupper
    have hval : c.toLower.val = c.val + 32 := congrArg Char.val (dif_pos hupper)
    have hnat : c.toLower.toNat = (c.toNat + 32) % 2 ^ 32 :=
      (congrArg UInt32.toNat hval).trans (UInt32.toNat_add _ _)
    rw [if_pos hrange, hnat]
    omega
  · have hrange : ¬ (65 ≤ c.toNat ∧ c.toNat ≤ 90) := hupper
    have hsame : c.toLower = c := dif_neg hupper
    rw [if_neg hrange, hsame]

theorem caselessEq_iff {a b : String} : caselessEq a b = true ↔ lower a = lower b := by
  simp [caselessEq]

theorem caselessEq_eq_false_iff {a b : String} : caselessEq a b = false ↔ lower a ≠ lower b := by
  simp [caselessEq]

@[simp] theorem caselessEq_refl (a : String) : caselessEq a a = true := by
  simp [caselessEq]

theorem caselessEq_comm (a b : String) : caselessEq a b = caselessEq b a := by
  rw [Bool.eq_iff_iff, caselessEq_iff, caselessEq_iff, eq_comm]

theorem caselessEq_trans {a b c : String} (h : caselessEq a b = true) (k : caselessEq b c = true) :
    caselessEq a c = true := by
  rw [caselessEq_iff] at *
  exact h.trans k

end PhpInterface.Text
