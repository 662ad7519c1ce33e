import PhpInterface.Proofs.Operands
import PhpInterface.Proofs.WrittenDigits

/-!
# Integer literals

An integer can be written in four bases, with underscores between its digits and letters of either case.
`IntegerLiteral` are the ways to do so.  The reader of numbers takes each of them for one token
(`numberToken_text`), and the value of the token is that of the number it stands for, as far as numbers have
values (`IntegerLiteral.integerValue?_text`).
-/

namespace PhpInterface

open Reader Source Description Decimal

/-! ## Digits with underscores -/

/-- Digits in groups, with an underscore between two groups. -/
structure GroupedDigits (base : Nat) where
  first : Digit base
  /-- the other digits of the first group -/
  more : List (Digit base)
  /-- the groups after underscores, each with its first digit apart -/
  groups : List (Digit base × List (Digit base))

namespace GroupedDigits

variable {base : Nat}

/-- The digits without the underscores. -/
def digits (g : GroupedDigits base) : List (Digit base) :=
  g.first :: (g.more ++ g.groups.flatMap fun group => group.1 :: group.2)

/-- A group with its underscore, as it is written. -/
def groupText (group : Digit base × List (Digit base)) : List Char :=
  '_' :: group.1.char :: group.2.map Digit.char

/-- What is written after the first digit. -/
def tailText (g : GroupedDigits base) : List Char :=
  g.more.map Digit.char ++ g.groups.flatMap groupText

/-- The digits as they are written. -/
def text (g : GroupedDigits base) : List Char :=
  g.first.char :: g.tailText

/-- Underscores are left out before anything else. -/
lemma filter_text (g : GroupedDigits base) (hbase : base ≤ 16) :
    g.text.filter (· ≠ '_') = g.digits.map Digit.char := by
  have hdigits : ∀ l : List (Digit base), (l.map Digit.char).filter (· ≠ '_') = l.map Digit.char := by
    intro l
    rw [List.filter_eq_self]
    intro c hc
    obtain ⟨d, -, rfl⟩ := List.mem_map.1 hc
    exact decide_eq_true (d.char_ne_underscore hbase)
  have hgroups : ∀ l : List (Digit base × List (Digit base)), (l.flatMap groupText).filter (· ≠ '_') =
      (l.flatMap fun group => group.1 :: group.2).map Digit.char := by
    intro l
    induction l with
    | nil => rfl
    | cons group l ih =>
        rw [List.flatMap_cons, List.filter_append, ih, List.flatMap_cons, List.map_append]
        exact congrArg (· ++ _) (hdigits (group.1 :: group.2))
  rw [text, tailText, digits, ← List.cons_append, List.filter_append, hgroups, ← List.map_cons, hdigits,
    ← List.map_append, List.cons_append]

/-- Digits in groups are read up to where a number ends. -/
lemma digits_tailText {q : Char → Bool} (g : GroupedDigits base) (hq : ∀ d : Digit base, q d.char = true)
    (hunderscore : q '_' = false) {rest : List Char} (hrest : ∀ c ∈ rest.head?, q c = false ∧ c ≠ '_') :
    Source.digits q (g.tailText ++ rest) = some (g.tailText, rest) := by
  have hchars : ∀ l : List (Digit base), ∀ c ∈ l.map Digit.char, q c = true := by
    intro l c hc
    obtain ⟨d, -, rfl⟩ := List.mem_map.1 hc
    exact hq d
  have hgroup : ∀ (group : Digit base × List (Digit base)) (t : List Char), (∀ c ∈ t.head?, q c = false) →
      (do char '_'; let d ← one q; let ds ← run q; pure ('_' :: d :: ds)) (groupText group ++ t) =
        some (groupText group, t) := by
    intro group t ht
    rw [groupText, List.cons_append, bind_of_eq (char_cons '_'), List.cons_append,
      bind_of_eq (one_cons (hq group.1)), bind_of_eq (run_append (hchars group.2) ht)]
    rfl
  have hgroups : many (do char '_'; let d ← one q; let ds ← run q; pure ('_' :: d :: ds))
      (g.groups.flatMap groupText ++ rest) = some (g.groups.map groupText, rest) := by
    refine many_flatMap (Q := fun t => ∀ c ∈ t.head?, q c = false) ?_ ?_ fun c hc => (hrest c hc).1
    · intro group _
      refine ⟨List.cons_ne_nil _ _, ?_, hgroup group⟩
      rintro t c ⟨⟩
      exact hunderscore
    · exact bind_of_refused (char_of_refused fun c hc => (hrest c hc).2)
  have hstart : ∀ c ∈ (g.groups.flatMap groupText ++ rest).head?, q c = false := by
    cases g.groups with
    | nil => exact fun c hc => (hrest c hc).1
    | cons group l =>
        rintro c ⟨⟩
        exact hunderscore
  rw [Source.digits, tailText, List.append_assoc, bind_of_eq (run_append (hchars g.more) hstart), digitGroups,
    bind_of_eq (bind_of_eq hgroups)]
  simp [List.flatMap_def]

lemma digits_text {q : Char → Bool} (g : GroupedDigits base) (hq : ∀ d : Digit base, q d.char = true)
    (hunderscore : q '_' = false) {rest : List Char} (hrest : ∀ c ∈ rest.head?, q c = false ∧ c ≠ '_') :
    Source.digits q (g.text ++ rest) = some (g.text, rest) :=
  digits_tailText ⟨g.first, g.first :: g.more, g.groups⟩ hq hunderscore hrest

lemma digits1_text {q : Char → Bool} (g : GroupedDigits base) (hq : ∀ d : Digit base, q d.char = true)
    (hunderscore : q '_' = false) {rest : List Char} (hrest : ∀ c ∈ rest.head?, q c = false ∧ c ≠ '_') :
    digits1 q (g.text ++ rest) = some (g.text, rest) := by
  rw [digits1, text, List.cons_append, bind_of_eq (one_cons (hq g.first)),
    bind_of_eq (g.digits_tailText hq hunderscore hrest)]
  rfl

end GroupedDigits

/-! ## Ways to write an integer -/

/-- The bases that a letter tells. -/
inductive Radix where
  | sixteen
  | two
  | eight
  deriving DecidableEq

namespace Radix

/-- The number of digits that the base has. -/
def base : Radix → Nat
  | sixteen => 16
  | two => 2
  | eight => 8

/-- The letter after the zero, in small. -/
def letter : Radix → Char
  | sixteen => 'x'
  | two => 'b'
  | eight => 'o'

/-- The letter in one of its cases. -/
def mark (r : Radix) (capital : Bool) : Char :=
  if capital then r.letter.toUpper else r.letter

lemma base_le (r : Radix) : r.base ≤ 16 := by
  cases r <;> decide

lemma toLower_mark (r : Radix) (capital : Bool) : (r.mark capital).toLower = r.letter := by
  cases r <;> cases capital <;> rfl

lemma letter_injective {r s : Radix} (h : r.letter = s.letter) : r = s := by
  revert h
  cases r <;> cases s <;> decide

/-- The letter is no part of a number in base ten. -/
lemma mark_ne (r : Radix) (capital : Bool) :
    (r.mark capital).isDigit = false ∧ r.mark capital ≠ '_' ∧ r.mark capital ≠ '.' ∧ r.letter ≠ 'e' := by
  cases r <;> cases capital <;> decide

lemma isWordPart_letter (r : Radix) : isWordPart r.letter = true := by
  cases r <;> rfl

/-- A digit of base eight is no letter that tells a base. -/
lemma toLower_char_ne (r : Radix) (d : Digit 8) : d.char.toLower ≠ r.letter :=
  d.forall_char (P := fun c _ => c.toLower ≠ r.letter) (by cases r <;> decide) (Nat.le_refl 8)

end Radix

/-- An integer as it is written. -/
inductive IntegerLiteral where
  /-- in base ten, where the first digit is no zero -/
  | decimal (g : GroupedDigits 10) (hfirst : g.first.value.val ≠ 0)
  /-- in base eight, as a zero in front tells; a zero alone is one of these -/
  | zeroFirst (g : GroupedDigits 8) (hfirst : g.first.value.val = 0)
  /-- in the base that a letter of either case tells, after a zero -/
  | marked (r : Radix) (capital : Bool) (g : GroupedDigits r.base)

namespace IntegerLiteral

/-- The literal as it is written. -/
def text : IntegerLiteral → List Char
  | decimal g _ => g.text
  | zeroFirst g _ => g.text
  | marked r capital g => '0' :: r.mark capital :: g.text

/-- The number that the literal stands for. -/
def number : IntegerLiteral → Nat
  | decimal g _ => Digit.number g.digits
  | zeroFirst g _ => Digit.number g.digits
  | marked _ _ g => Digit.number g.digits

/-- The first character is a digit in all bases. -/
lemma exists_cons_text (l : IntegerLiteral) : ∃ c t, l.text = c :: t ∧ c.isDigit = true := by
  cases l with
  | decimal g _ => exact ⟨_, _, rfl, g.first.isDigit_char (Nat.le_refl 10)⟩
  | zeroFirst g _ => exact ⟨_, _, rfl, g.first.isDigit_char (by decide)⟩
  | marked r capital g => exact ⟨_, _, rfl, rfl⟩

end IntegerLiteral

/-! ### As tokens -/

section

variable {rest : List Char}

lemma isWordPart_of_isHexDigit {c : Char} (h : isHexDigit c = true) : isWordPart c = true := by
  by_contra hpart
  rw [Bool.not_eq_true] at hpart
  rw [isHexDigit, toLower_of_not_isWordPart hpart, Bool.or_eq_true, Bool.and_eq_true, decide_eq_true_eq,
    decide_eq_true_eq] at h
  rw [← Bool.not_eq_true, isWordPart_iff, isWordStart_iff] at hpart
  rcases h with hdigit | ⟨hlow, hhigh⟩
  · rw [Char.isDigit_iff_toNat] at hdigit
    exact hpart (Or.inr hdigit)
  · have hlow : 97 ≤ c.toNat := hlow
    have hhigh : c.toNat ≤ 102 := hhigh
    omega

lemma isWordPart_of_isBinaryDigit {c : Char} (h : isBinaryDigit c = true) : isWordPart c = true := by
  rw [isBinaryDigit, Bool.or_eq_true, beq_iff_eq, beq_iff_eq] at h
  rcases h with rfl | rfl <;> rfl

lemma one_zero (t : List Char) : one (· == '0') ('0' :: t) = some ('0', t) :=
  one_cons rfl

lemma one_mark (r : Radix) (capital : Bool) (t : List Char) :
    one (fun c => c.toLower == r.letter) (r.mark capital :: t) = some (r.mark capital, t) :=
  one_cons (beq_iff_eq.2 (r.toLower_mark capital))

lemma basedDigits_refused {r s : Radix} (hne : s ≠ r) (q : Char → Bool) (capital : Bool) (t : List Char) :
    basedDigits s.letter q ('0' :: r.mark capital :: t) = none := by
  have hmark : one (fun c => c.toLower == s.letter) (r.mark capital :: t) = none := by
    refine one_of_refused fun c hc => ?_
    cases hc
    rw [r.toLower_mark, beq_eq_false_iff_ne]
    exact fun h => hne (Radix.letter_injective h).symm
  rw [basedDigits, bind_of_eq (one_zero _), bind_of_refused hmark]

lemma basedDigits_text {r : Radix} {q : Char → Bool} (capital : Bool) (g : GroupedDigits r.base)
    (hq : ∀ d : Digit r.base, q d.char = true) (hunderscore : q '_' = false)
    (hpart : ∀ c, q c = true → isWordPart c = true) (hrest : EndsNumber rest) :
    basedDigits r.letter q ('0' :: r.mark capital :: (g.text ++ rest)) =
      some ('0' :: r.mark capital :: g.text, rest) := by
  rw [basedDigits, bind_of_eq (one_zero _), bind_of_eq (one_mark r capital _),
    bind_of_eq (g.digits1_text hq hunderscore (hrest.not_digit hpart))]
  rfl

lemma integerToken_decimal (g : GroupedDigits 10) (hfirst : g.first.value.val ≠ 0) (hrest : EndsNumber rest) :
    integerToken (g.text ++ rest) = some (g.text, rest) := by
  have hdigits : ∀ d : Digit 10, d.char.isDigit = true := fun d => d.isDigit_char (Nat.le_refl 10)
  have hchar : g.first.char ≠ '0' := mt (g.first.char_eq_zero_iff (by decide)).1 hfirst
  have hzero : one (· == '0') (g.text ++ rest) = none :=
    one_of_refused fun c hc => by cases hc; exact beq_eq_false_iff_ne.2 hchar
  have hone : one (fun c => c.isDigit && c != '0') (g.text ++ rest) =
      some (g.first.char, g.tailText ++ rest) := by
    refine one_cons ?_
    rw [hdigits, Bool.true_and, bne_iff_ne]
    exact hchar
  have hbased : ∀ letter q, basedDigits letter q (g.text ++ rest) = none := fun _ _ => bind_of_refused hzero
  rw [integerToken, oneOf_of_refused (hbased _ _), oneOf_of_refused (hbased _ _),
    oneOf_of_refused (bind_of_refused hzero)]
  refine oneOf_of_eq ?_
  rw [bind_of_eq hone,
    bind_of_eq (g.digits_tailText hdigits rfl (hrest.not_digit fun _ => isWordPart_of_isDigit))]
  rfl

/-- No letter that tells a base stands after a zero in front. -/
lemma GroupedDigits.letter_refused (g : GroupedDigits 8) (hrest : EndsNumber rest) (r : Radix) :
    one (fun c => c.toLower == r.letter) (g.tailText ++ rest) = none := by
  rw [tailText, List.append_assoc]
  cases g.more with
  | cons d l => exact one_of_refused fun c hc => by cases hc; exact beq_eq_false_iff_ne.2 (r.toLower_char_ne d)
  | nil =>
      cases g.groups with
      | nil => exact hrest.one_refused r.isWordPart_letter
      | cons group l => exact one_of_refused fun c hc => by cases hc; cases r <;> rfl

lemma integerToken_zeroFirst (g : GroupedDigits 8) (hfirst : g.first.value.val = 0) (hrest : EndsNumber rest) :
    integerToken (g.text ++ rest) = some (g.text, rest) := by
  have hchar : g.first.char = '0' := (g.first.char_eq_zero_iff (by decide)).2 hfirst
  have hbased : ∀ (r : Radix) q, basedDigits r.letter q ('0' :: (g.tailText ++ rest)) = none := by
    intro r q
    rw [basedDigits, bind_of_eq (one_zero _), bind_of_refused (g.letter_refused hrest r)]
  have hmark : optional? (one fun c => c.toLower == 'o') (g.tailText ++ rest) =
      some (none, g.tailText ++ rest) := optional?_of_refused (g.letter_refused hrest .eight)
  have hdigits := g.digits_tailText (fun d => d.isOctalDigit_char (Nat.le_refl 8)) rfl
    (hrest.not_digit fun _ => isWordPart_of_isOctalDigit)
  rw [GroupedDigits.text, hchar, List.cons_append]
  refine (oneOf_of_refused (hbased .sixteen _)).trans ((oneOf_of_refused (hbased .two _)).trans
    (oneOf_of_eq ?_))
  rw [bind_of_eq (one_zero _), bind_of_eq hmark, bind_of_eq hdigits]
  rfl

lemma integerToken_marked (r : Radix) (capital : Bool) (g : GroupedDigits r.base) (hrest : EndsNumber rest) :
    integerToken ('0' :: r.mark capital :: (g.text ++ rest)) =
      some ('0' :: r.mark capital :: g.text, rest) := by
  cases r with
  | sixteen =>
      exact oneOf_of_eq (basedDigits_text capital g (fun d => d.isHexDigit_char (Nat.le_refl 16)) rfl
        (fun _ => isWordPart_of_isHexDigit) hrest)
  | two =>
      refine (oneOf_of_refused (basedDigits_refused (s := .sixteen) (by decide) _ _ _)).trans (oneOf_of_eq ?_)
      exact basedDigits_text capital g (fun d => d.isBinaryDigit_char (Nat.le_refl 2)) rfl
        (fun _ => isWordPart_of_isBinaryDigit) hrest
  | eight =>
      have hmark : optional? (one fun c => c.toLower == 'o') (Radix.eight.mark capital :: (g.text ++ rest)) =
          some (some (Radix.eight.mark capital), g.text ++ rest) :=
        optional?_of_eq (one_mark .eight capital _)
      have hdigits := g.digits_text (fun d => d.isOctalDigit_char (Nat.le_refl 8)) rfl
        (hrest.not_digit fun _ => isWordPart_of_isOctalDigit)
      refine (oneOf_of_refused (basedDigits_refused (s := .sixteen) (by decide) _ _ _)).trans
        ((oneOf_of_refused (basedDigits_refused (s := .two) (by decide) _ _ _)).trans (oneOf_of_eq ?_))
      rw [bind_of_eq (one_zero _), bind_of_eq hmark, bind_of_eq hdigits]
      rfl

/-- The letter that tells a base ends a number in base ten. -/
lemma floatToken_marked (r : Radix) (capital : Bool) (t : List Char) :
    floatToken ('0' :: r.mark capital :: t) = none := by
  obtain ⟨hdigit, hunderscore, hpoint, hletter⟩ := r.mark_ne capital
  have hdigits : digits Char.isDigit ('0' :: r.mark capital :: t) = some (['0'], r.mark capital :: t) :=
    digits_append (t := ['0']) (List.forall_mem_singleton.2 rfl) fun c hc => by
      cases hc
      exact ⟨hdigit, hunderscore⟩
  refine floatToken_refused hdigits (fun c hc => by cases hc; exact hpoint) (one_of_refused fun c hc => ?_)
  cases hc
  rw [r.toLower_mark, beq_eq_false_iff_ne]
  exact hletter

/-- Digits of base ten with no point or exponent after them are no float. -/
lemma floatToken_grouped {base : Nat} (g : GroupedDigits base) (hbase : base ≤ 10) (hrest : EndsNumber rest) :
    floatToken (g.text ++ rest) = none :=
  floatToken_refused
    (g.digits_text (fun d => d.isDigit_char hbase) rfl (hrest.not_digit fun _ => isWordPart_of_isDigit))
    (fun c hc => (hrest c hc).2) (hrest.one_refused (by decide))

/-- Every way to write an integer is one token. -/
lemma numberToken_text (l : IntegerLiteral) (hrest : EndsNumber rest) :
    numberToken (l.text ++ rest) = some (.integer l.text, rest) := by
  have htokens : floatToken (l.text ++ rest) = none ∧ integerToken (l.text ++ rest) = some (l.text, rest) := by
    cases l with
    | decimal g hfirst => exact ⟨floatToken_grouped g (by decide) hrest, integerToken_decimal g hfirst hrest⟩
    | zeroFirst g hfirst =>
        exact ⟨floatToken_grouped g (by decide) hrest, integerToken_zeroFirst g hfirst hrest⟩
    | marked r capital g => exact ⟨floatToken_marked r capital _, integerToken_marked r capital g hrest⟩
  rw [numberToken, htokens.1, htokens.2]

end

/-! ### As values -/

lemma baseAndDigits_decimal {c : Char} (hc : c ≠ '0') (t : List Char) :
    baseAndDigits (c :: t) = (10, c :: t) := by
  unfold baseAndDigits
  split
  · next heq => exact absurd (List.cons.inj heq).1 hc
  · rfl

lemma baseAndDigits_mark (r : Radix) (capital : Bool) (t : List Char) :
    baseAndDigits ('0' :: r.mark capital :: t) = (r.base, t) := by
  rw [baseAndDigits, r.toLower_mark]
  cases r <;> rfl

/-- Behind a zero the digits of base eight follow at once. -/
lemma baseAndDigits_zero (d : Digit 8) (t : List Char) :
    baseAndDigits ('0' :: d.char :: t) = (8, d.char :: t) := by
  have hx : d.char.toLower ≠ 'x' := Radix.sixteen.toLower_char_ne d
  have hb : d.char.toLower ≠ 'b' := Radix.two.toLower_char_ne d
  have ho : d.char.toLower ≠ 'o' := Radix.eight.toLower_char_ne d
  rw [baseAndDigits, if_neg hx, if_neg hb, if_neg ho]

namespace IntegerLiteral

/-- The base and the digits of a literal give its number. -/
lemma baseAndDigits_text (l : IntegerLiteral) :
    ∃ base digits, baseAndDigits (l.text.filter (· ≠ '_')) = (base, digits) ∧ digits ≠ [] ∧
      numeral base digits = l.number := by
  cases l with
  | decimal g hfirst =>
      have hchar : g.first.char ≠ '0' := mt (g.first.char_eq_zero_iff (by decide)).1 hfirst
      refine ⟨10, g.digits.map Digit.char, ?_, by simp [GroupedDigits.digits], ?_⟩
      · rw [text, g.filter_text (by decide)]
        exact baseAndDigits_decimal hchar _
      · exact Digit.numeral_map_char _ (by decide)
  | zeroFirst g hfirst =>
      have hchar : g.first.char = '0' := (g.first.char_eq_zero_iff (by decide)).2 hfirst
      have hnumber := Digit.numeral_map_char g.digits (by decide)
      rw [text, g.filter_text (by decide), number, ← hnumber, GroupedDigits.digits, List.map_cons, hchar,
        numeral_zero]
      cases g.more ++ g.groups.flatMap fun group => group.1 :: group.2 with
      | nil => exact ⟨10, ['0'], rfl, by simp, rfl⟩
      | cons d more => exact ⟨8, _, baseAndDigits_zero d _, by simp, rfl⟩
  | marked r capital g =>
      have hmark : r.mark capital ≠ '_' := (r.mark_ne capital).2.1
      refine ⟨r.base, g.digits.map Digit.char, ?_, by simp [GroupedDigits.digits], ?_⟩
      · rw [text, List.filter_cons_of_pos (by decide), List.filter_cons_of_pos (by simpa using hmark),
          g.filter_text r.base_le, baseAndDigits_mark]
      · exact Digit.numeral_map_char _ r.base_le

/-- The value of a literal without signs. -/
lemma integerValue?_text (l : IntegerLiteral) :
    integerValue? l.text = if l.number < Nat.pow 2 63 then some (.int (Int64.ofNat l.number))
      else if l.number < Nat.pow 2 128 then some (.float (.ofNat l.number)) else none := by
  obtain ⟨base, digits, hdigits, hne, hnumber⟩ := l.baseAndDigits_text
  rw [integerValue?, hdigits]
  dsimp only
  rw [hnumber, if_neg (by simpa using hne)]

end IntegerLiteral

end PhpInterface
