import PhpInterface.Proofs.ArrayBuilding
import PhpInterface.Proofs.Operands
import PhpInterface.Proofs.WrittenDigits

/-!
# Texts as keys

A text that is an integer as one would write it stands for that integer when it is a key.  `CanonicalDecimal`
is the grammar of such texts, with the integer each of them is: digits of which the first is no zero, with a
minus sign in front or none, or a single zero.  An integer has exactly one of them (`canonicalDecimal_iff`).

A text is an integer key exactly if it is a canonical decimal of 64 bits, and otherwise it is kept
(`canonical_keys`).  So different texts are different keys, and of all texts only the decimal of an integer
shares its place in an array.
-/

namespace PhpInterface

open Decimal

/-! ## Canonical decimals -/

/-- The text is an integer without a plus sign, a leading zero or a minus sign before zero. -/
inductive CanonicalDecimal : List Char → Int → Prop where
  | zero : CanonicalDecimal ['0'] 0
  | positive (first : Digit 10) (others : List (Digit 10)) (hfirst : first.value.val ≠ 0) :
      CanonicalDecimal ((first :: others).map Digit.char) (Digit.number (first :: others))
  | negative (first : Digit 10) (others : List (Digit 10)) (hfirst : first.value.val ≠ 0) :
      CanonicalDecimal ('-' :: (first :: others).map Digit.char) (-Digit.number (first :: others))

namespace Digit

lemma exists_char_eq {c : Char} (h : c.isDigit = true) : ∃ d : Digit 10, d.char = c := by
  have hrange : 48 ≤ c.toNat ∧ c.toNat ≤ 57 := Char.isDigit_iff_toNat.1 h
  have hlt : c.toNat - 48 < 10 := by omega
  refine ⟨⟨⟨c.toNat - 48, hlt⟩, false⟩, Char.toNat_inj.1 ?_⟩
  show (Nat.digitChar (c.toNat - 48)).toNat = c.toNat
  rw [Nat.toNat_digitChar_of_lt_ten hlt]
  omega

lemma exists_map_char_eq {t : List Char} (h : ∀ c ∈ t, c.isDigit = true) :
    ∃ l : List (Digit 10), l.map char = t := by
  induction t with
  | nil => exact ⟨[], rfl⟩
  | cons c t ih =>
      rw [List.forall_mem_cons] at h
      obtain ⟨d, rfl⟩ := exists_char_eq h.1
      obtain ⟨l, rfl⟩ := ih h.2
      exact ⟨d :: l, rfl⟩

lemma char_eq_digitChar (d : Digit 10) : d.char = Nat.digitChar d.value :=
  d.forall_char (P := fun c v => c = Nat.digitChar v) (by decide) (Nat.le_refl 10)

lemma number_pos {first : Digit 10} (h : first.value.val ≠ 0) (others : List (Digit 10)) :
    0 < number (first :: others) := by
  induction others using List.reverseRecOn with
  | nil => simpa [number, Nat.pos_iff_ne_zero] using h
  | append_singleton others d ih =>
      rw [← List.cons_append, number_concat]
      omega

/-- The digits of a number are the ones it is written with, unless these start with a zero. -/
lemma toDigits_number {first : Digit 10} (h : first.value.val ≠ 0) (others : List (Digit 10)) :
    Nat.toDigits 10 (number (first :: others)) = (first :: others).map char := by
  induction others using List.reverseRecOn with
  | nil =>
      have hone : number [first] = first.value := by simp [number]
      rw [hone, Nat.toDigits_of_lt_base first.value.isLt, List.map_singleton, char_eq_digitChar]
  | append_singleton others d ih =>
      have hlast := Nat.toDigits_append_toDigits (by decide) (number_pos h others) d.value.isLt
      rw [← List.cons_append, number_concat, ← hlast, ih, Nat.toDigits_of_lt_base d.value.isLt,
        List.map_append, List.map_singleton, char_eq_digitChar]

end Digit

/-- The digits of a positive number, the first one being no zero. -/
lemma exists_digits_of_pos {n : Nat} (h : 0 < n) :
    ∃ (first : Digit 10) (others : List (Digit 10)),
      Nat.toDigits 10 n = (first :: others).map Digit.char ∧ first.value.val ≠ 0 ∧
      Digit.number (first :: others) = n := by
  obtain ⟨l, hl⟩ := Digit.exists_map_char_eq (t := Nat.toDigits 10 n) fun c => isDigit_of_mem_toDigits
  have hnumber : Digit.number l = n := by
    rw [← Digit.numeral_map_char l (by decide), hl, numeral_toDigits]
  obtain ⟨first, others, rfl⟩ : ∃ first others, l = first :: others :=
    List.exists_cons_of_ne_nil fun hnil => Nat.toDigits_ne_nil (hl.symm.trans (by rw [hnil]; rfl))
  refine ⟨first, others, hl.symm, fun hzero => head_toDigits h ?_, hnumber⟩
  rw [← hl, List.map_cons, List.head?_cons, (first.char_eq_zero_iff (by decide)).2 hzero]

/-- Every integer has one canonical decimal, the one it is printed with. -/
lemma canonicalDecimal_iff {s : List Char} {i : Int} : CanonicalDecimal s i ↔ s = decimalText i := by
  constructor
  · intro h
    cases h with
    | zero => rfl
    | positive first others hfirst =>
        rw [decimalText, if_neg (by omega), Int.natAbs_natCast, Digit.toDigits_number hfirst]
    | negative first others hfirst =>
        have hpos := Digit.number_pos hfirst others
        rw [decimalText, if_pos (by omega), Int.natAbs_neg, Int.natAbs_natCast, Digit.toDigits_number hfirst]
  · rintro rfl
    rcases Int.lt_trichotomy i 0 with hneg | rfl | hpos
    · obtain ⟨first, others, htext, hfirst, hnumber⟩ := exists_digits_of_pos (n := i.natAbs) (by omega)
      have hi : i = -Digit.number (first :: others) := by omega
      rw [decimalText, if_pos hneg, htext, hi]
      exact .negative first others hfirst
    · exact .zero
    · obtain ⟨first, others, htext, hfirst, hnumber⟩ := exists_digits_of_pos (n := i.natAbs) (by omega)
      have hi : i = Digit.number (first :: others) := by omega
      rw [decimalText, if_neg (by omega), htext, hi]
      exact .positive first others hfirst

/-! ## Keys -/

/-- The integer that a text is taken for if it is a decimal at all. -/
def signedNumeral : List Char → Int
  | '-' :: digits => -numeral 10 digits
  | digits => numeral 10 digits

lemma canonicalInt?_eq (s : List Char) :
    canonicalInt? s =
      if decimalText (signedNumeral s) = s ∧ Int64.minValue.toInt ≤ signedNumeral s ∧
          signedNumeral s ≤ Int64.maxValue.toInt then
        some (Int64.ofInt (signedNumeral s))
      else none :=
  rfl

lemma signedNumeral_decimalText (i : Int) : signedNumeral (decimalText i) = i := by
  rw [decimalText]
  by_cases hneg : i < 0
  · rw [if_pos hneg, signedNumeral, numeral_toDigits]
    omega
  · obtain ⟨c, t, hcons, hc⟩ := exists_toDigits i.natAbs
    have hminus : c ≠ '-' := by
      rintro rfl
      exact absurd hc (by decide)
    have hdigits : signedNumeral (c :: t) = numeral 10 (c :: t) := by
      rw [signedNumeral]
      intro digits h
      exact hminus (List.cons.inj h).1
    rw [if_neg hneg, hcons, hdigits, ← hcons, numeral_toDigits]
    omega

lemma toInt_ofInt {n : Int} (hmin : Int64.minValue.toInt ≤ n) (hmax : n ≤ Int64.maxValue.toInt) :
    (Int64.ofInt n).toInt = n := by
  rw [Int64.toInt_minValue] at hmin
  rw [Int64.toInt_maxValue] at hmax
  exact Int64.toInt_ofInt_of_le hmin (by omega)

lemma canonicalInt?_eq_some_iff {s : List Char} {i : Int64} :
    canonicalInt? s = some i ↔ CanonicalDecimal s i.toInt := by
  rw [canonicalDecimal_iff, canonicalInt?_eq]
  constructor
  · intro h
    split at h
    · next hs =>
        obtain ⟨htext, hmin, hmax⟩ := hs
        cases h
        rw [toInt_ofInt hmin hmax, htext]
    · cases h
  · rintro rfl
    rw [signedNumeral_decimalText, if_pos ⟨rfl, i.minValue_le_toInt, i.toInt_le⟩, Int64.ofInt_toInt]

namespace Key

variable {s t : String} {i : Int64}

lemma ofText_eq_int_iff : ofText s = .int i ↔ CanonicalDecimal s.toList i.toInt := by
  rw [← canonicalInt?_eq_some_iff, ofText]
  cases canonicalInt? s.toList with
  | none => simp
  | some j => simp

lemma ofText_eq_text_iff :
    ofText s = .text t ↔ t = s ∧ ∀ i : Int64, ¬ CanonicalDecimal s.toList i.toInt := by
  simp only [← canonicalInt?_eq_some_iff]
  rw [ofText]
  cases canonicalInt? s.toList with
  | none => simp [eq_comm]
  | some j => simp

/-- Only the decimal of an integer is a text with the key of the integer. -/
lemma ofText_eq_int_iff_text : ofText s = .int i ↔ s = String.ofList (decimalText i.toInt) := by
  rw [ofText_eq_int_iff, canonicalDecimal_iff, ← String.toList_inj, String.toList_ofList]

lemma ofText_injective (h : ofText s = ofText t) : s = t := by
  cases hs : ofText s with
  | int i =>
      have ht := h.symm.trans hs
      rw [ofText_eq_int_iff_text] at hs ht
      rw [hs, ht]
  | text u =>
      have ht := h.symm.trans hs
      rw [ofText_eq_text_iff] at hs ht
      rw [← hs.1, ht.1]

/-- What becomes of a canonical decimal depends on its range alone. -/
lemma ofText_of_canonicalDecimal {n : Int} (h : CanonicalDecimal s.toList n) :
    ofText s =
      if -9223372036854775808 ≤ n ∧ n ≤ 9223372036854775807 then .int (Int64.ofInt n) else .text s := by
  have hmin : Int64.minValue.toInt = -9223372036854775808 := by decide
  have hmax : Int64.maxValue.toInt = 9223372036854775807 := by decide
  rw [← hmin, ← hmax]
  split
  · next hrange =>
      rw [ofText_eq_int_iff, toInt_ofInt hrange.1 hrange.2]
      exact h
  · next hrange =>
      refine ofText_eq_text_iff.2 ⟨rfl, fun i hi => hrange ?_⟩
      have hsame : decimalText n = decimalText i.toInt :=
        (canonicalDecimal_iff.1 h).symm.trans (canonicalDecimal_iff.1 hi)
      have hn : n = i.toInt := by
        rw [← signedNumeral_decimalText n, hsame, signedNumeral_decimalText]
      rw [hn]
      exact ⟨i.minValue_le_toInt, i.toInt_le⟩

end Key

/-- A text is an integer key exactly if it is the canonical decimal of a 64-bit integer, and is kept otherwise.
So texts are told apart by their keys, every integer is the key of its decimal, and writing to an array at a
text changes what it has at an integer, or the other way round, only if the text is that decimal. -/
theorem canonical_keys (s : String) :
    (∀ i : Int64, Key.ofText s = .int i ↔ CanonicalDecimal s.toList i.toInt) ∧
      (∀ t, Key.ofText s = .text t ↔ t = s ∧ ∀ i : Int64, ¬ CanonicalDecimal s.toList i.toInt) ∧
      (∀ n, CanonicalDecimal s.toList n → Key.ofText s =
        if -9223372036854775808 ≤ n ∧ n ≤ 9223372036854775807 then .int (Int64.ofInt n) else .text s) ∧
      (∀ t, Key.ofText s = Key.ofText t → s = t) ∧
      (∀ i : Int64, CanonicalDecimal (decimalText i.toInt) i.toInt ∧
        Key.ofText (String.ofList (decimalText i.toInt)) = .int i) ∧
      (∀ i : Int64, Key.ofValue? (.text s) = Key.ofValue? (.int i) ↔
        s = String.ofList (decimalText i.toInt)) ∧
      ∀ (e : Entries) (i : Int64) (v : Value),
        (e.insert (.ofText s) v).entries.lookup (.int i) =
          (if s = String.ofList (decimalText i.toInt) then some v else e.entries.lookup (.int i)) ∧
        (e.insert (.int i) v).entries.lookup (.ofText s) =
          if s = String.ofList (decimalText i.toInt) then some v else e.entries.lookup (.ofText s) := by
  refine ⟨fun i => Key.ofText_eq_int_iff, fun t => Key.ofText_eq_text_iff,
    fun n => Key.ofText_of_canonicalDecimal, fun t => Key.ofText_injective, ?_, ?_, ?_⟩
  · intro i
    exact ⟨canonicalDecimal_iff.2 rfl, Key.ofText_eq_int_iff_text.2 rfl⟩
  · intro i
    rw [Key.ofValue?, Key.ofValue?, Option.some.injEq, Key.ofText_eq_int_iff_text]
  · intro e i v
    have hkey := Key.ofText_eq_int_iff_text (s := s) (i := i)
    rw [Entries.insert, Entries.insert, Entries.lookup_put, Entries.lookup_put]
    exact ⟨if_congr (eq_comm.trans hkey) rfl rfl, if_congr hkey rfl rfl⟩

/-- The least integer is a key and the one below it is not, and a zero in front makes another key. -/
theorem canonical_keys_least :
    CanonicalDecimal "-9223372036854775808".toList (-9223372036854775808) ∧
      Key.ofText "-9223372036854775808" = .int Int64.minValue ∧
      CanonicalDecimal "-9223372036854775809".toList (-9223372036854775809) ∧
      Key.ofText "-9223372036854775809" = .text "-9223372036854775809" ∧
      Key.ofText "8" = .int 8 ∧ Key.ofText "8" ≠ Key.ofText "08" := by
  have hleast : CanonicalDecimal "-9223372036854775808".toList (-9223372036854775808) :=
    canonicalDecimal_iff.2 (by decide)
  have hbelow : CanonicalDecimal "-9223372036854775809".toList (-9223372036854775809) :=
    canonicalDecimal_iff.2 (by decide)
  obtain ⟨-, -, hrange, -⟩ := canonical_keys "-9223372036854775808"
  obtain ⟨-, -, hrange', -⟩ := canonical_keys "-9223372036854775809"
  obtain ⟨hint, -, -, hinjective, -⟩ := canonical_keys "8"
  refine ⟨hleast, hrange _ hleast, hbelow, hrange' _ hbelow, (hint 8).2 (canonicalDecimal_iff.2 (by decide)), ?_⟩
  intro h
  exact absurd (hinjective "08" h) (by decide)

end PhpInterface
