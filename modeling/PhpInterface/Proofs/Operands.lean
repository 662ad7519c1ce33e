import PhpInterface.Description.Literal
import PhpInterface.Proofs.Tokens
import PhpInterface.Source.File
import PhpInterface.Value.Code

/-!
# Literals as operands

What the reader of operands makes of the tokens that written values consist of: the digits of an integer,
a minus sign before them, a text in single quotes, and the words for `null` and the truth values.  Each is
the beginning of an operand, and `EndsLiteral` says what may follow for it to be the whole expression.

An operand is tried in the order of the grammar.  `operandStart_plain` goes once through all that a first
character could start instead; after it only numbers, words and operators in front are left.
-/

namespace PhpInterface

open Reader Source Description Decimal

/-! ## Integers -/

section

variable {n : Nat} {c : Char} {t rest : List Char}

lemma isDigit_of_mem_toDigits (h : c ∈ Nat.toDigits 10 n) : c.isDigit = true :=
  Nat.isDigit_of_mem_toDigits (by decide) (by decide) h

lemma numeral_toDigits (n : Nat) : numeral 10 (Nat.toDigits 10 n) = n := by
  have hdigits : ∀ (l : List Char) (start : Nat), (∀ c ∈ l, c.isDigit = true) →
      l.foldl (fun n c => 10 * n + digitValue c) start = Nat.ofDigitChars 10 l start := by
    intro l
    induction l with
    | nil => intro start _; rfl
    | cons c l ih =>
        intro start hl
        rw [List.foldl_cons, ih _ fun d hd => hl d (List.mem_cons_of_mem _ hd), Nat.ofDigitChars_cons,
          digitValue, if_pos (hl c List.mem_cons_self)]
  rw [numeral, hdigits _ _ fun c => isDigit_of_mem_toDigits, Nat.ofDigitChars_ten_toDigits]

/-- A number that is not zero does not start with one. -/
lemma head_toDigits (h : 0 < n) : (Nat.toDigits 10 n).head? ≠ some '0' := by
  induction n using Nat.strongRecOn with
  | ind n ih =>
      rcases Nat.lt_or_ge n 10 with hlt | hge
      · rw [Nat.toDigits_of_lt_base hlt, List.head?_cons, Ne, Option.some.injEq, Nat.digitChar_eq_zero]
        omega
      · rw [Nat.toDigits_of_base_le (by decide) hge, List.head?_append_of_ne_nil _ Nat.toDigits_ne_nil]
        exact ih (n / 10) (by omega) (by omega)

/-- The digits of a number are a zero, or a digit that is none and more digits. -/
lemma toDigits_cases (n : Nat) :
    Nat.toDigits 10 n = ['0'] ∨
      ∃ c t, Nat.toDigits 10 n = c :: t ∧ (c.isDigit && c != '0') = true ∧ ∀ d ∈ t, d.isDigit = true := by
  rcases Nat.eq_zero_or_pos n with rfl | hpos
  · exact Or.inl (Nat.toDigits_zero 10)
  · obtain ⟨c, t, ht⟩ := List.exists_cons_of_ne_nil (Nat.toDigits_ne_nil (n := n) (b := 10))
    have hdigit : ∀ d ∈ c :: t, d.isDigit = true := fun d hd => isDigit_of_mem_toDigits (ht ▸ hd)
    have hzero : c ≠ '0' := by
      rintro rfl
      exact head_toDigits hpos (by rw [ht, List.head?_cons])
    refine Or.inr ⟨c, t, ht, ?_, fun d hd => hdigit d (List.mem_cons_of_mem _ hd)⟩
    rw [hdigit c List.mem_cons_self, Bool.true_and, bne_iff_ne]
    exact hzero

/-- No number goes on here: neither a digit, a letter nor a point follows. -/
def EndsNumber (s : List Char) : Prop :=
  ∀ c ∈ s.head?, isWordPart c = false ∧ c ≠ '.'

lemma isWordPart_of_isDigit (h : c.isDigit = true) : isWordPart c = true := by
  rw [isWordPart, h, Bool.or_true]

lemma digits_append {q : Char → Bool} (ht : ∀ c ∈ t, q c = true)
    (hrest : ∀ c ∈ rest.head?, q c = false ∧ c ≠ '_') : digits q (t ++ rest) = some (t, rest) := by
  have hgroup : char '_' rest = none := char_of_refused fun c hc => (hrest c hc).2
  rw [digits, bind_of_eq (run_append ht fun c hc => (hrest c hc).1), digitGroups,
    bind_of_eq (bind_of_eq (many_of_refused (bind_of_refused hgroup)))]
  simp

/-- Where a number ends, none of its digits can follow. -/
lemma EndsNumber.not_digit {q : Char → Bool} (hrest : EndsNumber rest)
    (hq : ∀ c, q c = true → isWordPart c = true) : ∀ c ∈ rest.head?, q c = false ∧ c ≠ '_' := by
  intro c hc
  have hpart := (hrest c hc).1
  constructor
  · by_contra htrue
    rw [hq c (Bool.not_eq_false _ ▸ htrue)] at hpart
    cases hpart
  · rintro rfl
    cases hpart

lemma isWordPart_of_isOctalDigit (h : isOctalDigit c = true) : isWordPart c = true := by
  rw [isOctalDigit, Bool.and_eq_true, decide_eq_true_eq, decide_eq_true_eq] at h
  have hlow : 48 ≤ c.toNat := h.1
  have hhigh : c.toNat ≤ 55 := h.2
  rw [isWordPart_iff]
  omega

lemma toLower_of_not_isWordPart (h : isWordPart c = false) : c.toLower = c := by
  rw [← Bool.not_eq_true, isWordPart_iff, isWordStart_iff] at h
  have hupper : ¬ (c.val ≥ 'A'.val ∧ c.val ≤ 'Z'.val) := by
    rintro ⟨hlow, hhigh⟩
    have hlow : 65 ≤ c.toNat := hlow
    have hhigh : c.toNat ≤ 90 := hhigh
    omega
  exact dif_neg hupper

/-- A letter does not follow a number. -/
lemma EndsNumber.one_refused (hrest : EndsNumber rest) {letter : Char}
    (hletter : isWordPart letter = true) : one (fun c => c.toLower == letter) rest = none := by
  refine one_of_refused fun c hc => ?_
  have hpart := (hrest c hc).1
  rw [toLower_of_not_isWordPart hpart, beq_eq_false_iff_ne]
  rintro rfl
  rw [hletter] at hpart
  cases hpart

lemma integerToken_toDigits (n : Nat) (hrest : EndsNumber rest) :
    integerToken (Nat.toDigits 10 n ++ rest) = some (Nat.toDigits 10 n, rest) := by
  rcases toDigits_cases n with hzero | ⟨c, t, hcons, hc, ht⟩
  · have hfirst : one (· == '0') ('0' :: rest) = some ('0', rest) := one_cons rfl
    have hbased : ∀ letter q, isWordPart letter = true → basedDigits letter q ('0' :: rest) = none := by
      intro letter q hletter
      rw [basedDigits, bind_of_eq hfirst, bind_of_refused (hrest.one_refused hletter)]
    have hoctal : digits isOctalDigit rest = some ([], rest) :=
      digits_append (t := []) (by simp) (hrest.not_digit fun _ => isWordPart_of_isOctalDigit)
    rw [hzero, List.singleton_append, integerToken, oneOf_of_refused (hbased 'x' _ (by decide)),
      oneOf_of_refused (hbased 'b' _ (by decide))]
    refine oneOf_of_eq ?_
    rw [bind_of_eq hfirst, bind_of_eq (optional?_of_refused (hrest.one_refused (by decide))),
      bind_of_eq hoctal]
    rfl
  · have hfirst : one (· == '0') (c :: (t ++ rest)) = none := by
      refine one_of_refused fun d hd => ?_
      cases hd
      rw [Bool.and_eq_true, bne_iff_ne] at hc
      exact beq_eq_false_iff_ne.2 hc.2
    have hbased : ∀ letter q, basedDigits letter q (c :: (t ++ rest)) = none := by
      intro letter q
      rw [basedDigits, bind_of_refused hfirst]
    rw [hcons, List.cons_append, integerToken, oneOf_of_refused (hbased 'x' _),
      oneOf_of_refused (hbased 'b' _), oneOf_of_refused (bind_of_refused hfirst)]
    refine oneOf_of_eq ?_
    rw [bind_of_eq (one_cons hc),
      bind_of_eq (digits_append ht (hrest.not_digit fun _ => isWordPart_of_isDigit))]
    rfl

/-- Digits are no float where neither a point nor an exponent follows. -/
lemma floatToken_refused {s : List Char} (hdigits : digits Char.isDigit s = some (t, rest))
    (hpoint : ∀ c ∈ rest.head?, c ≠ '.') (hletter : one (fun c => c.toLower == 'e') rest = none) :
    floatToken s = none := by
  have hexponent : exponentToken rest = none := bind_of_refused hletter
  rw [floatToken, bind_of_eq hdigits, oneOf_of_refused (bind_of_refused (char_of_refused hpoint)),
    oneOf_of_refused (bind_of_refused hexponent), oneOf_nil]

lemma floatToken_digits (ht : ∀ c ∈ t, c.isDigit = true) (hrest : EndsNumber rest) :
    floatToken (t ++ rest) = none :=
  floatToken_refused (digits_append ht (hrest.not_digit fun _ => isWordPart_of_isDigit))
    (fun c hc => (hrest c hc).2) (hrest.one_refused (by decide))

/-- The digits of a number are read as an integer. -/
lemma numberToken_toDigits (n : Nat) (hrest : EndsNumber rest) :
    numberToken (Nat.toDigits 10 n ++ rest) = some (.integer (Nat.toDigits 10 n), rest) := by
  rw [numberToken, floatToken_digits (fun _ => isDigit_of_mem_toDigits) hrest,
    integerToken_toDigits n hrest]

/-- The value of the digits of a number that 64 bits with a sign can hold. -/
lemma integerValue?_toDigits (h : n < Nat.pow 2 63) :
    integerValue? (Nat.toDigits 10 n) = some (.int (Int64.ofNat n)) := by
  have hfilter : (Nat.toDigits 10 n).filter (· ≠ '_') = Nat.toDigits 10 n := by
    rw [List.filter_eq_self]
    intro c hc
    rw [decide_eq_true_eq]
    rintro rfl
    exact Nat.underscore_not_in_toDigits hc
  have hbase : baseAndDigits (Nat.toDigits 10 n) = (10, Nat.toDigits 10 n) := by
    rcases toDigits_cases n with hzero | ⟨c, t, hcons, hc, _⟩
    · rw [hzero]
      rfl
    · rw [Bool.and_eq_true, bne_iff_ne] at hc
      rw [hcons]
      unfold baseAndDigits
      split
      · next heq =>
        cases heq
        exact absurd rfl hc.2
      · rfl
  rw [integerValue?, hfilter, hbase]
  dsimp only
  rw [numeral_toDigits, if_pos h, if_neg]
  rw [List.isEmpty_iff]
  exact Nat.toDigits_ne_nil

end

/-! ## What may follow a literal -/

/-- After blanks, nothing comes any more, or a comma, a closing parenthesis, or the arrow after a key. -/
def EndsLiteral (s : List Char) : Prop :=
  ∃ b t, s = b ++ t ∧ IsBlankText b ∧
    (t = [] ∨ t.head? = some ',' ∨ t.head? = some ')' ∨ ∃ t', t = '=' :: '>' :: t')

namespace EndsLiteral

variable {s : List Char} {n : Nested} {p : Position} {o : Operand}

/-- No token of those that can go on with an expression stands here. -/
lemma exists_solid (h : EndsLiteral s) :
    ∃ b t, s = b ++ t ∧ IsBlankText b ∧ Solid t ∧ rawWord t = none ∧
      (∀ op ∈ binaryOperators, exactly op.toList t = none) ∧
      ∀ c ∈ t.head?, c = ',' ∨ c = ')' ∨ c = '=' := by
  obtain ⟨b, t, rfl, hb, ht⟩ := h
  refine ⟨b, t, rfl, hb, ?_⟩
  cases t with
  | nil => exact ⟨solid_nil, rfl, by decide, by simp⟩
  | cons c t =>
      simp only [List.head?_cons, Option.some.injEq, List.cons.injEq, reduceCtorEq, false_or] at ht
      rcases ht with rfl | rfl | ⟨t', rfl, rfl⟩
      all_goals
        refine ⟨solid_cons rfl, rawWord_of_refused ?_, ?_, ?_⟩
        · rintro c ⟨⟩
          decide
        · simp [binaryOperators, exactly]
        · simp

lemma endsNumber (h : EndsLiteral s) : EndsNumber s := by
  obtain ⟨b, t, rfl, hb, -, -, -, ht⟩ := h.exists_solid
  intro c hc
  cases b with
  | nil => rcases ht c hc with rfl | rfl | rfl <;> decide
  | cons d b =>
      cases hc
      have hblank := hb c List.mem_cons_self
      refine ⟨isWordPart_of_isSeparator hblank, ?_⟩
      rintro rfl
      cases hblank

lemma endsWord (h : EndsLiteral s) : EndsWord s :=
  fun c hc => (h.endsNumber c hc).1

lemma access_refused (h : EndsLiteral s) : access n p s = none := by
  obtain ⟨b, t, rfl, hb, hsolid, -, -, ht⟩ := h.exists_solid
  have hmark : ∀ c more, c ≠ ',' ∧ c ≠ ')' ∧ c ≠ '=' → exactly (c :: more) t = none := by
    intro c more hc
    refine exactly_of_refused fun d hd => ?_
    rcases ht d hd with rfl | rfl | rfl
    · exact hc.1.symm
    · exact hc.2.1.symm
    · exact hc.2.2.symm
  have hindex : index n p (b ++ t) = none :=
    bind_of_refused (symbolAt_of_refused hb hsolid (hmark '[' [] (by decide)))
  have harguments : arguments n p (b ++ t) = none :=
    bind_of_refused (symbolAt_of_refused hb hsolid (hmark '(' [] (by decide)))
  have hmember : objectMember n p (b ++ t) = none := by
    rw [objectMember, bind_of_eq (gapAt_blank hb hsolid), bind_of_refused]
    rw [oneOf_of_refused (hmark '-' _ (by decide)), oneOf_of_refused (hmark '?' _ (by decide)), oneOf_nil]
  have hclass : symbolAt p "::" (b ++ t) = none :=
    symbolAt_of_refused hb hsolid (hmark ':' [':'] (by decide))
  rw [access, oneOf_of_refused (bind_of_refused hindex), oneOf_of_refused (bind_of_refused harguments),
    oneOf_of_refused (bind_of_refused hmember), oneOf_of_refused (bind_of_refused hclass), oneOf_nil]

lemma accesses_eq (h : EndsLiteral s) : accesses n p o s = some (o, s) := by
  rw [accesses]
  split
  · rw [bind_of_eq (many_of_refused h.access_refused)]
    rfl
  · rfl

lemma tested_eq (h : EndsLiteral s) : tested n p o s = some (o, s) := by
  obtain ⟨b, t, rfl, hb, hsolid, hword, -, -⟩ := h.exists_solid
  rw [tested, bind_of_eq (foundIf_of_refused (bind_of_refused (keywordAt_of_refused hb hsolid hword)) _)]
  rfl

lemma continuation_refused (h : EndsLiteral s) : continuation n p s = none := by
  obtain ⟨b, t, rfl, hb, hsolid, hword, hoperator, ht⟩ := h.exists_solid
  have hbinary : oneOf (binaryOperators.map fun op => exactly op.toList) t = none := by
    refine oneOf_eq_none fun x hx => ?_
    obtain ⟨op, hop, rfl⟩ := List.mem_map.1 hx
    exact hoperator op hop
  have hmark : char '?' t = none := by
    refine char_of_refused fun c hc => ?_
    rcases ht c hc with rfl | rfl | rfl <;> decide
  rw [continuation, bind_of_eq (gapAt_blank hb hsolid), oneOf_of_refused (bind_of_refused hbinary),
    oneOf_of_refused (bind_of_refused hword), oneOf_of_refused (bind_of_refused hmark), oneOf_nil]

end EndsLiteral

/-! ## Operands -/

/-- The operand is a value that cannot be assigned to, and no pattern either. -/
def IsFixed (o : Operand) : Prop :=
  (o.form = .value ∨ o.form = .closed) ∧ o.pattern = none

section

variable {n : Nested} {p : Position} {o : Operand} {b s t rest : List Char} {c : Char}

lemma IsFixed.form_ne (ho : IsFixed o) : (o.form != .pattern) = true := by
  rcases ho.1 with h | h <;> rw [h] <;> rfl

/-- The beginning of a literal is the whole operand. -/
lemma operand_of_start (hstart : operandStart n .expression p s = some (o, rest)) (ho : IsFixed o)
    (hrest : EndsLiteral rest) : operand n .expression p s = some (o, rest) := by
  obtain ⟨expr, form, pattern⟩ := o
  obtain ⟨rfl | rfl, rfl⟩ := ho
  all_goals
    rw [operand, bind_of_eq hstart, bind_of_eq hrest.accesses_eq]
    rfl

lemma expression_of_start (hstart : operandStart n .expression p s = some (o, rest)) (ho : IsFixed o)
    (hrest : EndsLiteral rest) : expression n p s = some (o, rest) := by
  have htested : testedOperand n p s = some (o, rest) := by
    rw [testedOperand, bind_of_eq (operand_of_start hstart ho hrest), hrest.tested_eq]
  rw [expression, bind_of_eq htested, if_neg (by simpa using ho.form_ne),
    bind_of_eq (many_of_refused hrest.continuation_refused)]
  rfl

/-- An operand that starts with this character is a number or a word, or an operator stands in front. -/
def startsPlain (c : Char) : Bool :=
  !opensGap c && c.toLower != 'b' && !"$([\\\x27\x22<\x60".toList.contains c

lemma opensGap_of_startsPlain (h : startsPlain c = true) : opensGap c = false := by
  rw [startsPlain, Bool.and_eq_true, Bool.and_eq_true, Bool.not_eq_true'] at h
  exact h.1.1

/-- The character is an operator that can stand in front of an operand. -/
def isFrontOperator (c : Char) : Bool :=
  c = '+' || c = '-' || c = '~' || c = '!' || c = '@'

lemma quotedText_refused (hbyte : c.toLower ≠ 'b') (hsingle : c ≠ '\x27') (hdouble : c ≠ '\x22') :
    quotedText n (c :: s) = none := by
  have hmark : one (fun c => c.toLower == 'b') (c :: s) = none :=
    one_of_refused fun d hd => by cases hd; exact beq_eq_false_iff_ne.2 hbyte
  have hquote : one (fun c => c == '\x27' || c == '\x22') (c :: s) = none := by
    refine one_of_refused fun d hd => ?_
    cases hd
    rw [Bool.or_eq_false_iff]
    exact ⟨beq_eq_false_iff_ne.2 hsingle, beq_eq_false_iff_ne.2 hdouble⟩
  refine bind_of_refused (spelled_of_refused ?_)
  rw [bind_of_eq (optional?_of_refused hmark), bind_of_refused hquote]

lemma operandStart_plain (hb : IsBlankText b) (hc : startsPlain c = true)
    (hincrement : increment (c :: s) = none) :
    operandStart n .expression p (b ++ c :: s) =
      if isFrontOperator c then prefixedOperand n c p (c :: s)
      else oneOf [number, wordOperand n .expression p] (c :: s) := by
  simp only [startsPlain, Bool.and_eq_true, Bool.not_eq_true', bne_iff_ne, String.reduceToList,
    List.contains_cons, List.contains_nil, Bool.or_false, Bool.or_eq_false_iff, beq_eq_false_iff_ne] at hc
  obtain ⟨⟨hgap, hbyte⟩, hdollar, hround, hsquare, hroot, hsingle, hdouble, hless, hshell⟩ := hc
  have hquoted : optional? (oneOf [quotedText n, linesText n]) (c :: s) = some (none, c :: s) := by
    have hlines : linesText n (c :: s) = none :=
      bind_of_refused (exactly_of_refused fun d hd => by cases hd; exact hless)
    refine optional?_of_refused ?_
    rw [oneOf_of_refused (quotedText_refused hbyte hsingle hdouble), oneOf_of_refused hlines, oneOf_nil]
  have hhash : c ≠ '#' := by
    rintro rfl
    cases hgap
  have hpeek : peek (c :: s) = some (some c, c :: s) := rfl
  rw [operandStart, if_neg (by decide), bind_of_eq (openGap_blank hb (solid_cons hgap))]
  beta_reduce
  rw [bind_of_eq hpeek]
  simp only [if_neg hdollar, if_neg hround, if_neg hsquare, if_neg hroot]
  rw [bind_of_eq hquoted]
  simp only [if_neg hshell, if_neg hhash]
  rw [if_neg (by decide), bind_of_eq (found_of_refused hincrement)]
  cases hfront : isFrontOperator c <;> rw [isFrontOperator] at hfront <;>
    simp [Rank.allowsOperators, hfront]

/-- Without an operator in front, an operand is a number or a word. -/
lemma operandStart_bare (hb : IsBlankText b) (hc : (startsPlain c && !isFrontOperator c) = true) :
    operandStart n .expression p (b ++ c :: s) =
      oneOf [number, wordOperand n .expression p] (c :: s) := by
  rw [Bool.and_eq_true, Bool.not_eq_true'] at hc
  have hincrement : increment (c :: s) = none := by
    rw [increment, oneOf_of_refused, oneOf_of_refused, oneOf_nil]
    all_goals
      refine exactly_of_refused ?_
      rintro d hd rfl
      cases hd
      cases hc.2
  rw [operandStart_plain hb hc.1 hincrement, if_neg (by rw [hc.2]; exact Bool.false_ne_true)]

/-! ### Numbers -/

/-- The operand that the digits of a number are. -/
def digitsOperand (k : Nat) : Operand :=
  { expr := .integer (String.ofList (Nat.toDigits 10 k)), form := .closed, pattern := none }

lemma startsPlain_of_isDigit (h : c.isDigit = true) : (startsPlain c && !isFrontOperator c) = true := by
  have htenth : ∀ k < 10, (startsPlain (Char.ofNat (48 + k)) && !isFrontOperator (Char.ofNat (48 + k))) =
      true := by decide
  rw [Char.isDigit_iff_toNat] at h
  obtain ⟨hlow, hhigh⟩ : 48 ≤ c.toNat ∧ c.toNat ≤ 57 := h
  have hc := htenth (c.toNat - 48) (by omega)
  rwa [Nat.add_sub_cancel' hlow, Char.ofNat_toNat] at hc

lemma exists_toDigits (k : Nat) : ∃ c t, Nat.toDigits 10 k = c :: t ∧ c.isDigit = true := by
  obtain ⟨c, t, ht⟩ := List.exists_cons_of_ne_nil (Nat.toDigits_ne_nil (n := k) (b := 10))
  exact ⟨c, t, ht, isDigit_of_mem_toDigits (ht ▸ List.mem_cons_self)⟩

lemma operandStart_toDigits (k : Nat) (hb : IsBlankText b) (hrest : EndsLiteral rest) :
    operandStart n .expression p (b ++ (Nat.toDigits 10 k ++ rest)) = some (digitsOperand k, rest) := by
  have hnumber : number (Nat.toDigits 10 k ++ rest) = some (digitsOperand k, rest) := by
    rw [number, bind_of_eq (numberToken_toDigits k hrest.endsNumber)]
    rfl
  obtain ⟨c, t, ht, hc⟩ := exists_toDigits k
  rw [ht, List.cons_append] at hnumber ⊢
  rw [operandStart_bare hb (startsPlain_of_isDigit hc), oneOf_of_eq hnumber]

/-- The operand that a minus sign before the digits of a number makes. -/
def negativeOperand (k : Nat) : Operand :=
  { expr := .signed true (digitsOperand k).expr, form := .closed, pattern := none }

lemma operandStart_negative {d : Nat} (k : Nat) (hb : IsBlankText b) (hrest : EndsLiteral rest) :
    operandStart (nested (d + 1)) .expression p (b ++ ('-' :: Nat.toDigits 10 k ++ rest)) =
      some (negativeOperand k, rest) := by
  have hdigits : operandStart (nested d) .expression p (Nat.toDigits 10 k ++ rest) =
      some (digitsOperand k, rest) := operandStart_toDigits (b := []) k isBlankText_nil hrest
  have hoperand : (nested (d + 1)).operand .expression p (Nat.toDigits 10 k ++ rest) =
      some (digitsOperand k, rest) := operand_of_start hdigits ⟨.inr rfl, rfl⟩ hrest
  obtain ⟨c, t, ht, hc⟩ := exists_toDigits k
  have hplain : startsPlain c = true := (Bool.and_eq_true_iff.1 (startsPlain_of_isDigit hc)).1
  have hgap : openGap (Nat.toDigits 10 k ++ rest) = some ([], Nat.toDigits 10 k ++ rest) := by
    rw [ht, List.cons_append]
    exact openGap_blank isBlankText_nil (solid_cons (opensGap_of_startsPlain hplain))
  have hprefixed : prefixedOperand (nested (d + 1)) '-' p ('-' :: Nat.toDigits 10 k ++ rest) =
      some (negativeOperand k, rest) := by
    rw [prefixedOperand, List.cons_append, bind_of_eq (char_cons '-'), bind_of_eq hgap,
      bind_of_eq hoperand, bind_of_eq hrest.tested_eq]
    rfl
  have hincrement : increment ('-' :: (Nat.toDigits 10 k ++ rest)) = none := by
    rw [increment, oneOf_of_refused rfl, oneOf_of_refused, oneOf_nil]
    rw [ht, exactly, if_pos rfl, List.cons_append]
    refine exactly_of_refused ?_
    rintro d ⟨⟩ rfl
    cases hc
  rw [List.cons_append, operandStart_plain hb rfl hincrement]
  exact hprefixed

/-! ### Texts -/

lemma quotedChar_cases (hc : c ≠ '\x00') :
    (c = '\\' ∨ c = '\x27') ∧ quotedChar c = ['\\', c] ∨
      (c ≠ '\\' ∧ c ≠ '\x27') ∧ quotedChar c = [c] := by
  by_cases h : c = '\\' ∨ c = '\x27'
  · exact Or.inl ⟨h, if_pos h⟩
  · refine Or.inr ⟨not_or.1 h, ?_⟩
    rw [quotedChar, if_neg h, if_neg hc]

lemma skipSingleQuoted_quotedChar {l : List Char} (h : ∀ c ∈ l, c ≠ '\x00') :
    skipSingleQuoted (l.flatMap quotedChar ++ '\x27' :: rest) = some rest := by
  induction l with
  | nil => rfl
  | cons c l ih =>
      have ih := ih fun d hd => h d (List.mem_cons_of_mem _ hd)
      rw [List.flatMap_cons]
      rcases quotedChar_cases (h c List.mem_cons_self) with ⟨-, hc⟩ | ⟨hplain, hc⟩
      · rw [hc]
        exact ih
      · rw [hc, List.singleton_append, List.cons_append, skipSingleQuoted, if_neg hplain.2, ih]
        intro d after heq
        exact absurd heq hplain.1

lemma singleQuoted_quotedChar {l : List Char} (h : ∀ c ∈ l, c ≠ '\x00') :
    singleQuoted (l.flatMap quotedChar) = l := by
  induction l with
  | nil => rfl
  | cons c l ih =>
      have ih := ih fun d hd => h d (List.mem_cons_of_mem _ hd)
      rw [List.flatMap_cons]
      rcases quotedChar_cases (h c List.mem_cons_self) with ⟨hescaped, hc⟩ | ⟨hplain, hc⟩
      · rw [hc, List.cons_append, List.singleton_append, singleQuoted, if_pos hescaped, ih]
      · rw [hc, List.singleton_append, singleQuoted, ih]
        intro d after heq
        exact absurd heq hplain.1

/-- The operand that a text in single quotes is. -/
def quotedOperand (text : String) : Operand :=
  { expr := .quoted (String.ofList (quoted text)), form := .value, pattern := none }

lemma value?_quotedOperand {text : String} (h : ∀ c ∈ text.toList, c ≠ '\x00') :
    (quotedOperand text).expr.value? = some (.text text) := by
  have hvalue : quotedValue? (quoted text) = some text.toList := by
    rw [quotedValue?, quoted, List.cons_append, dropByteMark, if_neg (by decide)]
    dsimp only
    rw [if_pos rfl, List.dropLast_concat, singleQuoted_quotedChar h]
  rw [quotedOperand, Expr.value?, String.toList_ofList, hvalue, Option.map_some, String.ofList_toList]

lemma quotedText_quoted {text : String} (h : ∀ c ∈ text.toList, c ≠ '\x00') :
    quotedText n (quoted text ++ rest) = some (quotedOperand text, rest) := by
  have hcons : quoted text ++ rest = '\x27' :: (text.toList.flatMap quotedChar ++ '\x27' :: rest) := by
    simp [quoted]
  have hmark : one (fun c => c.toLower == 'b') (quoted text ++ rest) = none := by
    rw [hcons]
    rfl
  have hquote : one (fun c => c == '\x27' || c == '\x22') (quoted text ++ rest) =
      some ('\x27', text.toList.flatMap quotedChar ++ '\x27' :: rest) := by
    rw [hcons]
    exact one_cons rfl
  rw [quotedText, bind_of_eq (spelled_of_eq (a := ()) ?_)]
  · rfl
  · rw [bind_of_eq (optional?_of_refused hmark), bind_of_eq hquote, if_pos (by decide),
      skipSingleQuoted_quotedChar h, Option.map_some]

lemma operandStart_quoted {text : String} (h : ∀ c ∈ text.toList, c ≠ '\x00') (hb : IsBlankText b) :
    operandStart n .expression p (b ++ (quoted text ++ rest)) = some (quotedOperand text, rest) := by
  have hgap : openGap (b ++ (quoted text ++ rest)) = some (blankParts b, quoted text ++ rest) :=
    openGap_blank hb (solid_cons rfl)
  have hpeek : peek (quoted text ++ rest) = some (some '\x27', quoted text ++ rest) := rfl
  rw [operandStart, if_neg (by decide), bind_of_eq hgap]
  beta_reduce
  rw [bind_of_eq hpeek]
  dsimp only
  rw [if_neg (by decide), if_neg (by decide), if_neg (by decide), if_neg (by decide),
    bind_of_eq (optional?_of_eq (oneOf_of_eq (quotedText_quoted h)))]
  rfl

/-! ### Words -/

/-- The character can start a number. -/
def startsNumber (c : Char) : Bool :=
  c.isDigit || c == '_' || c == '.' || c.toLower == 'e'

lemma number_refused (hc : startsNumber c = false) : number (c :: s) = none := by
  simp only [startsNumber, Bool.or_eq_false_iff, beq_eq_false_iff_ne] at hc
  obtain ⟨⟨⟨hdigit, hgroup⟩, hpoint⟩, hexponent⟩ := hc
  have hone : ∀ q : Char → Bool, q c = false → one q (c :: s) = none := by
    intro q hq
    exact one_of_refused fun d hd => by cases hd; exact hq
  have hdigits : digits Char.isDigit (c :: s) = some ([], c :: s) :=
    digits_append (t := []) (by simp) fun d hd => by cases hd; exact ⟨hdigit, hgroup⟩
  have hfloat : floatToken (c :: s) = none :=
    floatToken_refused hdigits (fun d hd => by cases hd; exact hpoint)
      (hone _ (beq_eq_false_iff_ne.2 hexponent))
  have hinteger : integerToken (c :: s) = none := by
    have hzero : one (· == '0') (c :: s) = none := by
      refine hone _ (beq_eq_false_iff_ne.2 ?_)
      rintro rfl
      cases hdigit
    have hbased : ∀ letter q, basedDigits letter q (c :: s) = none := fun _ _ => bind_of_refused hzero
    rw [integerToken, oneOf_of_refused (hbased 'x' _), oneOf_of_refused (hbased 'b' _),
      oneOf_of_refused (bind_of_refused hzero), oneOf_of_refused, oneOf_nil]
    exact bind_of_refused (hone _ (by rw [hdigit, Bool.false_and]))
  refine bind_of_refused ?_
  rw [numberToken, hfloat, hinteger]

/-- The word starts an operand of its own kind, and its first letter starts nothing else. -/
def isReservedWord (w : List Char) : Bool :=
  isWord w && !isRelativeWord w && Rank.expression.reserves (smallForm w) &&
    !(["static", "function", "fn"].contains (smallForm w)) &&
    w.head?.all fun c => startsPlain c && !isFrontOperator c && !startsNumber c

lemma operandStart_reserved {w : List Char} (hb : IsBlankText b) (hw : isReservedWord w = true)
    (hs : EndsWord s) :
    operandStart n .expression p (b ++ (w ++ s)) = reservedOperand n (smallForm w) p (w ++ s) := by
  simp only [isReservedWord, Bool.and_eq_true, Bool.not_eq_true'] at hw
  obtain ⟨⟨⟨⟨hw, hrelative⟩, hreserved⟩, hfunction⟩, hstart⟩ := hw
  rw [List.contains_cons, Bool.or_eq_false_iff, beq_eq_false_iff_ne] at hfunction
  have hsees : sees (do
      let _ ← optional? (keyword "static")
      keywordOf ["function", "fn"]) (w ++ s) = some (false, w ++ s) := by
    have hstatic : keyword "static" (w ++ s) = none :=
      keywordAt_of_ne (b := []) isBlankText_nil hw hs hfunction.1
    refine sees_of_refused ?_
    rw [bind_of_eq (optional?_of_refused hstatic)]
    exact keywordOf_of_not_mem (b := []) isBlankText_nil hw hs hfunction.2
  have hword : wordOperand n .expression p (w ++ s) = reservedOperand n (smallForm w) p (w ++ s) := by
    rw [wordOperand, bind_of_eq (nextWord_append hw hs), bind_of_eq hsees, Bool.and_false,
      if_neg Bool.false_ne_true, hrelative, if_neg Bool.false_ne_true, if_pos hreserved]
  cases w with
  | nil => cases hw
  | cons c w =>
      rw [List.head?_cons, Option.all_some, Bool.and_eq_true, Bool.not_eq_true'] at hstart
      rw [← hword, List.cons_append, operandStart_bare hb hstart.1,
        oneOf_of_refused (number_refused hstart.2), oneOf_singleton]

/-- The operand that a word for a value is. -/
def wordOperandOf (k : String) : Operand :=
  { expr := .word k, form := .closed, pattern := none }

lemma operandStart_valueWord {w : List Char} {k : String} (hb : IsBlankText b)
    (hw : isReservedWord w = true) (hk : smallForm w = k) (hvalue : k = "null" ∨ k = "true" ∨ k = "false")
    (hs : EndsWord s) :
    operandStart n .expression p (b ++ (w ++ s)) = some (wordOperandOf k, s) := by
  have hword : rawWord (w ++ s) = some (w, s) := by
    rw [isReservedWord, Bool.and_eq_true, Bool.and_eq_true, Bool.and_eq_true, Bool.and_eq_true] at hw
    exact rawWord_append hw.1.1.1.1 hs
  rw [operandStart_reserved hb hw hs, hk]
  rcases hvalue with rfl | rfl | rfl
  all_goals
    unfold reservedOperand
    rw [bind_of_eq hword]
    rfl

/-! ### No operand -/

/-- Before a closing parenthesis stands no expression. -/
lemma expression_closer (hb : IsBlankText b) : expression n p (b ++ ')' :: rest) = none := by
  have hword : rawWord (')' :: rest) = none := rawWord_cons_of_false rfl
  have hsees : sees (do
      let _ ← optional? (keyword "static")
      keywordOf ["function", "fn"]) (')' :: rest) = some (false, ')' :: rest) := by
    have hstatic : keyword "static" (')' :: rest) = none :=
      keywordAt_of_refused (b := []) isBlankText_nil (solid_cons rfl) hword
    refine sees_of_refused ?_
    rw [bind_of_eq (optional?_of_refused hstatic)]
    exact keywordOf_of_refused (b := []) isBlankText_nil (solid_cons rfl) hword
  have hname : nameOperand p (')' :: rest) = none :=
    bind_of_refused (name_refused (b := []) isBlankText_nil (solid_cons rfl) (by simp) hword)
  have hoperand : wordOperand n .expression p (')' :: rest) = none := by
    rw [wordOperand, bind_of_eq (nextWord_of_refused hword), bind_of_eq hsees, Bool.and_false,
      if_neg Bool.false_ne_true, if_neg (by decide), if_neg (by decide), hname]
  refine bind_of_refused (bind_of_refused (bind_of_refused ?_))
  rw [operandStart_bare hb (by decide), oneOf_of_refused (number_refused (by decide)), oneOf_singleton,
    hoperand]

end

end PhpInterface
