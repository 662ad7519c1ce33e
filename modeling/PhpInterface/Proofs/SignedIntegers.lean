import PhpInterface.Proofs.IntegerLiterals

/-!
# Integers are exact and never wrap

Signs and parentheses can stand around an integer literal in any number.  The value of the whole is the
mathematical one as long as 64 bits with a sign hold the magnitude, a float for magnitudes below `2 ^ 128`,
and none beyond (`integers_exact`).  `SignedInteger` is a literal with what stands around it, down to the
blanks, and its text is read as the expression it is meant to be (`SignedInteger.expressionIn_text`).

A magnitude that 64 bits hold is at most the greatest integer, so that its negative is above the least one.
The least integer is therefore no value in anything that is read, at whatever depth of an array
(`avoidsLeast_value?`), and the case of `Value.signed?` for it does not arise.  Keys are another matter: one
that is written as a float is brought into the range of integers and can be the least of them.
-/

namespace PhpInterface

open Reader Source Description Decimal

/-! ## Signs and parentheses -/

lemma Binary64.neg_neg (x : Binary64) : x.neg.neg = x := by
  rw [neg, neg, UInt64.xor_assoc, UInt64.xor_self, UInt64.xor_zero]

/-- An integer literal with signs and parentheses around it, and with the blanks between them. -/
inductive SignedInteger where
  | literal (l : IntegerLiteral)
  | signed (negative : Bool) (blanks : List Char) (inner : SignedInteger)
  | group (before : List Char) (inner : SignedInteger) (after : List Char)

namespace SignedInteger

/-- The character of a sign. -/
def signChar (negative : Bool) : Char :=
  if negative then '-' else '+'

/-- The literal with all that stands around it, as it is written. -/
def text : SignedInteger → List Char
  | literal l => l.text
  | signed negative blanks inner => signChar negative :: (blanks ++ inner.text)
  | group before inner after => '(' :: (before ++ (inner.text ++ (after ++ [')'])))

/-- The expression that is written. -/
def expr : SignedInteger → Expr
  | literal l => .integer (String.ofList l.text)
  | signed negative _ inner => .signed negative inner.expr
  | group _ inner _ => .group inner.expr

/-- The number that the literal stands for. -/
def number : SignedInteger → Nat
  | literal l => l.number
  | signed _ _ inner => inner.number
  | group _ inner _ => inner.number

/-- The product of the signs. -/
def sign : SignedInteger → Int
  | literal _ => 1
  | signed negative _ inner => (if negative then -1 else 1) * inner.sign
  | group _ inner _ => inner.sign

/-- The blanks are blank, and two equal signs do not stand side by side, which would be an increment or a
decrement. -/
def IsSpaced : SignedInteger → Prop
  | literal _ => True
  | signed negative blanks inner =>
    IsBlankText blanks ∧ (blanks ++ inner.text).head? ≠ some (signChar negative) ∧ inner.IsSpaced
  | group before inner after => IsBlankText before ∧ inner.IsSpaced ∧ IsBlankText after

/-! ### As expressions -/

/-- What a literal with signs and parentheses starts with: a digit, a sign or a parenthesis. -/
def startsSigned (c : Char) : Bool :=
  c.isDigit || c == '-' || c == '+' || c == '('

lemma exists_cons_text (e : SignedInteger) : ∃ c t, e.text = c :: t ∧ startsSigned c = true := by
  cases e with
  | literal l =>
      obtain ⟨c, t, htext, hdigit⟩ := l.exists_cons_text
      refine ⟨c, t, htext, ?_⟩
      rw [startsSigned, hdigit]
      rfl
  | signed negative blanks inner => exact ⟨_, _, rfl, by cases negative <;> rfl⟩
  | group before inner after => exact ⟨_, _, rfl, rfl⟩

lemma startsSigned_spec {c : Char} (h : startsSigned c = true) :
    opensGap c = false ∧ isWordStart c = false := by
  rw [startsSigned, Bool.or_eq_true, Bool.or_eq_true, Bool.or_eq_true, beq_iff_eq, beq_iff_eq, beq_iff_eq] at h
  rcases h with ((hdigit | rfl) | rfl) | rfl
  · refine ⟨opensGap_of_startsPlain (Bool.and_eq_true_iff.1 (startsPlain_of_isDigit hdigit)).1, ?_⟩
    rw [Char.isDigit_iff_toNat] at hdigit
    have hrange : 48 ≤ c.toNat ∧ c.toNat ≤ 57 := hdigit
    rw [← Bool.not_eq_true, isWordStart_iff]
    omega
  · decide
  · decide
  · decide

lemma solid_text (e : SignedInteger) (rest : List Char) : Solid (e.text ++ rest) := by
  obtain ⟨c, t, htext, hc⟩ := e.exists_cons_text
  rw [htext]
  exact solid_cons (startsSigned_spec hc).1

lemma rawWord_text (e : SignedInteger) (rest : List Char) : rawWord (e.text ++ rest) = none := by
  obtain ⟨c, t, htext, hc⟩ := e.exists_cons_text
  rw [htext]
  exact rawWord_cons_of_false (startsSigned_spec hc).2

/-- The operand that the literal is. -/
def operand (e : SignedInteger) : Operand :=
  { expr := e.expr
    form := match e with
      | group _ _ _ => .value
      | _ => .closed
    pattern := none }

lemma isFixed_operand (e : SignedInteger) : IsFixed e.operand := by
  cases e with
  | literal | signed => exact ⟨.inr rfl, rfl⟩
  | group => exact ⟨.inl rfl, rfl⟩

section

variable {n : Nested} {p : Position} {b rest : List Char}

lemma operandStart_literal (l : IntegerLiteral) (hb : IsBlankText b) (hrest : EndsLiteral rest) :
    operandStart n .expression p (b ++ (l.text ++ rest)) = some ((literal l).operand, rest) := by
  have hnumber : Source.number (l.text ++ rest) = some ((literal l).operand, rest) := by
    rw [Source.number, bind_of_eq (numberToken_text l hrest.endsNumber)]
    rfl
  obtain ⟨c, t, htext, hdigit⟩ := l.exists_cons_text
  rw [htext, List.cons_append] at hnumber ⊢
  rw [operandStart_bare hb (startsPlain_of_isDigit hdigit), oneOf_of_eq hnumber]

/-- A sign in front of an operand. -/
lemma operandStart_signed {negative : Bool} {blanks : List Char} {inner : SignedInteger}
    (hinner : n.operand .expression p (inner.text ++ rest) = some (inner.operand, rest))
    (hblanks : IsBlankText blanks) (hapart : (blanks ++ inner.text).head? ≠ some (signChar negative))
    (hb : IsBlankText b) (hrest : EndsLiteral rest) :
    operandStart n .expression p (b ++ ((signed negative blanks inner).text ++ rest)) =
      some ((signed negative blanks inner).operand, rest) := by
  have hgap : openGap (blanks ++ (inner.text ++ rest)) = some (blankParts blanks, inner.text ++ rest) :=
    openGap_blank hblanks (inner.solid_text rest)
  have hprefixed : prefixedOperand n (signChar negative) p
      (signChar negative :: (blanks ++ (inner.text ++ rest))) =
      some ((signed negative blanks inner).operand, rest) := by
    rw [prefixedOperand, bind_of_eq (char_cons _), bind_of_eq hgap, bind_of_eq hinner,
      bind_of_eq hrest.tested_eq, bind_of_eq (require_of_true inner.isFixed_operand.form_ne), pages_blankParts]
    cases negative <;> rfl
  have hincrement : increment (signChar negative :: (blanks ++ (inner.text ++ rest))) = none := by
    -- the text after the sign does not start with the same sign
    obtain ⟨c, t, htext, -⟩ := inner.exists_cons_text
    have hnext : ∃ d t', blanks ++ (inner.text ++ rest) = d :: t' ∧ d ≠ signChar negative := by
      rw [htext] at hapart ⊢
      cases blanks with
      | nil => exact ⟨c, t ++ rest, rfl, fun h => hapart (congrArg some h)⟩
      | cons d blanks => exact ⟨d, _, rfl, fun h => hapart (congrArg some h)⟩
    obtain ⟨d, t', hcons, hne⟩ := hnext
    have htwice : ∀ x : Char, exactly [x, x] (signChar negative :: d :: t') = none := by
      intro x
      by_cases hx : signChar negative = x
      · subst hx
        simp [exactly, hne]
      · simp [exactly, hx]
    rw [hcons, increment, oneOf_of_refused (htwice '+'), oneOf_of_refused (htwice '-'), oneOf_nil]
  have htext : (signed negative blanks inner).text ++ rest =
      signChar negative :: (blanks ++ (inner.text ++ rest)) := by
    rw [text, List.cons_append, List.append_assoc]
  rw [htext, operandStart_plain hb (by cases negative <;> decide) hincrement,
    if_pos (by cases negative <;> rfl), hprefixed]

/-- An operand in parentheses. -/
lemma operandStart_group {before after : List Char} {inner : SignedInteger}
    (hinner : n.expression .inner (inner.text ++ (after ++ ')' :: rest)) =
      some (inner.operand, after ++ ')' :: rest))
    (hbefore : IsBlankText before) (hafter : IsBlankText after) (hb : IsBlankText b) :
    operandStart n .expression p (b ++ ((group before inner after).text ++ rest)) =
      some ((group before inner after).operand, rest) := by
  have htext : (group before inner after).text ++ rest =
      '(' :: (before ++ (inner.text ++ (after ++ ')' :: rest))) := by
    simp [text]
  have hword := inner.rawWord_text (after ++ ')' :: rest)
  have hgap : openGap (before ++ (inner.text ++ (after ++ ')' :: rest))) =
      some (blankParts before, inner.text ++ (after ++ ')' :: rest)) :=
    openGap_blank hbefore (inner.solid_text _)
  have hcloses : sees (do let _ ← rawWord; symbol ")") (inner.text ++ (after ++ ')' :: rest)) =
      some (false, inner.text ++ (after ++ ')' :: rest)) := sees_of_refused (bind_of_refused hword)
  have hvalue : n.value .inner (inner.text ++ (after ++ ')' :: rest)) =
      some (inner.expr, after ++ ')' :: rest) := by
    rw [Nested.value, bind_of_eq hinner, bind_of_eq (require_of_true inner.isFixed_operand.form_ne)]
    rfl
  have hclose : symbol ")" (after ++ ')' :: rest) = some ((), rest) :=
    symbolAt_of_eq (t := [')']) rfl hafter (solid_cons rfl)
  have hpeek : ∀ t : List Char, peek ('(' :: t) = some (some '(', '(' :: t) := fun _ => rfl
  rw [htext, operandStart, if_neg (by decide), bind_of_eq (openGap_blank hb (solid_cons rfl))]
  beta_reduce
  rw [bind_of_eq (hpeek _)]
  dsimp only
  rw [if_neg (by decide), if_pos rfl, parenthesisOperand, bind_of_eq (char_cons '('), bind_of_eq hgap,
    bind_of_eq (nextWord_of_refused hword), bind_of_eq hcloses, if_neg (by decide), bind_of_eq hvalue,
    bind_of_eq hclose, pages_blankParts]
  rfl

end

/-- The text is read as the expression that is written, if the readers go deep enough. -/
lemma operandStart_text {e : SignedInteger} (he : e.IsSpaced) {d : Nat} (hd : e.text.length ≤ d + 1)
    {p : Position} {b rest : List Char} (hb : IsBlankText b) (hrest : EndsLiteral rest) :
    operandStart (nested d) .expression p (b ++ (e.text ++ rest)) = some (e.operand, rest) := by
  induction e generalizing d p b rest with
  | literal l => exact operandStart_literal l hb hrest
  | signed negative blanks inner ih =>
      obtain ⟨hblanks, hapart, hspaced⟩ := he
      obtain ⟨c, t, htext, -⟩ := inner.exists_cons_text
      rw [text, List.length_cons, List.length_append] at hd
      cases d with
      | zero =>
          rw [htext, List.length_cons] at hd
          omega
      | succ d =>
          have hstart : operandStart (nested d) .expression p (inner.text ++ rest) =
              some (inner.operand, rest) := ih (b := []) hspaced (by omega) isBlankText_nil hrest
          have hinner := operand_of_start hstart inner.isFixed_operand hrest
          exact operandStart_signed hinner hblanks hapart hb hrest
  | group before inner after ih =>
      obtain ⟨hbefore, hspaced, hafter⟩ := he
      have hends : EndsLiteral (after ++ ')' :: rest) := ⟨after, _, rfl, hafter, .inr (.inr (.inl rfl))⟩
      simp only [text, List.length_cons, List.length_append, List.length_nil] at hd
      cases d with
      | zero => omega
      | succ d =>
          have hstart : operandStart (nested d) .expression .inner (inner.text ++ (after ++ ')' :: rest)) =
              some (inner.operand, after ++ ')' :: rest) :=
            ih (b := []) hspaced (by omega) isBlankText_nil hends
          exact operandStart_group (expression_of_start hstart inner.isFixed_operand hends) hbefore hafter hb

/-- The text is read as the expression that is written. -/
lemma expressionIn_text {e : SignedInteger} (he : e.IsSpaced) {rest : List Char} (hrest : EndsLiteral rest) :
    expressionIn (e.text ++ rest) = some (e.expr, rest) := by
  have hstart : operandStart (nested (e.text ++ rest).length) .expression .inner (e.text ++ rest) =
      some (e.operand, rest) := by
    refine operandStart_text (b := []) he ?_ isBlankText_nil hrest
    rw [List.length_append]
    omega
  have hexpression : (nested ((e.text ++ rest).length + 1)).expression .inner (e.text ++ rest) =
      some (e.operand, rest) := expression_of_start hstart e.isFixed_operand hrest
  rw [expressionIn, Nested.value, bind_of_eq hexpression,
    bind_of_eq (require_of_true e.isFixed_operand.form_ne)]
  rfl

/-! ### As values -/

lemma sign_cases (e : SignedInteger) : e.sign = 1 ∨ e.sign = -1 := by
  induction e with
  | literal => exact Or.inl rfl
  | signed negative blanks inner ih => cases negative <;> simpa [sign, or_comm, neg_eq_iff_eq_neg] using ih
  | group before inner after ih => exact ih

/-- The float next to the number, with the sign of all signs together. -/
def nearestFloat (e : SignedInteger) : Binary64 :=
  if e.sign < 0 then (Binary64.ofNat e.number).neg else .ofNat e.number

/-- A magnitude below the limit keeps away from the least integer, whatever its sign. -/
lemma toInt_ofInt_signed {e : SignedInteger} (h : e.number < Nat.pow 2 63) :
    (Int64.ofInt (e.sign * e.number)).toInt = e.sign * e.number ∧
      Int64.ofInt (e.sign * e.number) ≠ Int64.minValue := by
  have hlimit : Nat.pow 2 63 = 2 ^ 63 := rfl
  have hrange : -2 ^ 63 < e.sign * e.number ∧ e.sign * e.number < 2 ^ 63 := by
    rcases e.sign_cases with hsign | hsign <;> rw [hsign] <;> omega
  have htoInt := Int64.toInt_ofInt_of_le hrange.1.le hrange.2
  refine ⟨htoInt, fun hmin => ?_⟩
  rw [hmin, Int64.toInt_minValue] at htoInt
  omega

lemma value?_of_fits {e : SignedInteger} (h : e.number < Nat.pow 2 63) :
    e.expr.value? = some (.int (Int64.ofInt (e.sign * e.number))) := by
  induction e with
  | literal l =>
      rw [number] at h
      rw [expr, Expr.value?, String.toList_ofList, l.integerValue?_text, if_pos h, sign, Int.one_mul,
        Int64.ofInt_eq_ofNat, number]
  | signed negative blanks inner ih =>
      have hmin := (toInt_ofInt_signed (e := inner) h).2
      rw [expr, Expr.value?, ih h]
      dsimp only
      cases negative with
      | false =>
          rw [Value.signed?, if_neg Bool.false_ne_true, sign, if_neg Bool.false_ne_true, Int.one_mul]
          rfl
      | true =>
          rw [Value.signed?, if_pos rfl, if_neg hmin, sign, if_pos rfl, ← Int64.ofInt_neg, Int.neg_one_mul,
            Int.neg_mul]
          rfl
  | group before inner after ih =>
      rw [expr, Expr.value?, ih h]
      rfl

lemma value?_of_large {e : SignedInteger} (h : Nat.pow 2 63 ≤ e.number) (hfloat : e.number < Nat.pow 2 128) :
    e.expr.value? = some (.float e.nearestFloat) := by
  induction e with
  | literal l =>
      rw [number] at h hfloat
      rw [expr, Expr.value?, String.toList_ofList, l.integerValue?_text, if_neg (Nat.not_lt.2 h), if_pos hfloat,
        nearestFloat, sign, if_neg (by decide), number]
  | signed negative blanks inner ih =>
      rw [expr, Expr.value?, ih h hfloat]
      dsimp only
      rw [Value.signed?, nearestFloat, nearestFloat, sign, number]
      cases negative with
      | false => simp
      | true => rcases inner.sign_cases with hsign | hsign <;> simp [hsign, Binary64.neg_neg]
  | group before inner after ih =>
      rw [expr, Expr.value?, ih h hfloat, nearestFloat, nearestFloat, sign, number]

lemma value?_of_beyond {e : SignedInteger} (h : Nat.pow 2 128 ≤ e.number) : e.expr.value? = none := by
  induction e with
  | literal l =>
      rw [number] at h
      have hlarge : Nat.pow 2 63 ≤ l.number := Nat.le_trans (by decide) h
      rw [expr, Expr.value?, String.toList_ofList, l.integerValue?_text, if_neg (Nat.not_lt.2 hlarge),
        if_neg (Nat.not_lt.2 h)]
  | signed negative blanks inner ih =>
      rw [expr, Expr.value?, ih h]
  | group before inner after ih =>
      rw [expr, Expr.value?, ih h]

end SignedInteger

/-! ## The least integer -/

/-- A value stands in another one: it is that value, or it stands in an entry of that array. -/
inductive Value.Holds : Value → Value → Prop where
  | self (v : Value) : Holds v v
  | entry {entries : List (Key × Value)} {key : Key} {v w : Value} (hmem : (key, v) ∈ entries)
      (hheld : v.Holds w) : Holds (.array entries) w

/-- The least integer stands nowhere in the value, keys apart. -/
def Value.AvoidsLeast (v : Value) : Prop :=
  ¬ v.Holds (.int Int64.minValue)

/-- No entry of an array under construction has a value with the least integer in it. -/
def Entries.AvoidLeast (e : Entries) : Prop :=
  ∀ key v, (key, v) ∈ e.entries → v.AvoidsLeast

lemma Value.avoidsLeast_int {i : Int64} : (Value.int i).AvoidsLeast ↔ i ≠ Int64.minValue := by
  constructor
  · rintro h rfl
    exact h (.self _)
  · intro h hheld
    cases hheld
    exact h rfl

/-- What is neither an integer nor an array holds no integer. -/
lemma Value.avoidsLeast_of_ne {v : Value} (harray : v.isArray = false) (hint : ∀ i, v ≠ .int i) :
    v.AvoidsLeast := by
  intro hheld
  cases hheld with
  | self => exact hint _ rfl
  | entry => cases harray

lemma Entries.AvoidLeast.toValue {e : Entries} (h : e.AvoidLeast) : e.toValue.AvoidsLeast := by
  intro hheld
  cases hheld with
  | entry hmem hheld => exact h _ _ hmem hheld

lemma Entries.AvoidLeast.insert {e : Entries} (h : e.AvoidLeast) (key : Key) {v : Value} (hv : v.AvoidsLeast) :
    (e.insert key v).AvoidLeast := by
  have hput : ∀ l : List (Key × Value), (∀ k w, (k, w) ∈ l → w.AvoidsLeast) →
      ∀ k w, (k, w) ∈ Entries.put key v l → w.AvoidsLeast := by
    intro l hl k w hmem
    induction l with
    | nil =>
        obtain ⟨-, rfl⟩ := Prod.mk.inj (List.mem_singleton.1 hmem)
        exact hv
    | cons first rest ih =>
        have hrest : ∀ k w, (k, w) ∈ rest → w.AvoidsLeast := fun k w hw => hl k w (List.mem_cons_of_mem _ hw)
        rw [Entries.put] at hmem
        split at hmem
        · rcases List.mem_cons.1 hmem with hfirst | hmem
          · obtain ⟨-, rfl⟩ := Prod.mk.inj hfirst
            exact hv
          · exact hrest k w hmem
        · rcases List.mem_cons.1 hmem with hfirst | hmem
          · exact hl k w (hfirst ▸ List.mem_cons_self)
          · exact ih hrest hmem
  exact hput e.entries h

/-- Digits count up from zero. -/
lemma avoidsLeast_integerValue? {token : List Char} {v : Value} (h : integerValue? token = some v) :
    v.AvoidsLeast := by
  rw [integerValue?] at h
  dsimp only at h
  split at h
  · cases h
  · split at h
    · next hlt =>
      cases h
      rw [Value.avoidsLeast_int]
      intro hmin
      have htoInt := Int64.toInt_ofNat_of_lt hlt
      rw [hmin, Int64.toInt_minValue] at htoInt
      omega
    · split at h
      · cases h
        exact Value.avoidsLeast_of_ne rfl (by simp)
      · cases h

lemma neg_ne_least {i : Int64} (h : i ≠ Int64.minValue) : -i ≠ Int64.minValue := by
  intro hmin
  refine h ?_
  rw [← Int64.neg_neg (a := i), hmin]
  rfl

/-- The sign of a value that avoids the least integer is changed without a float in between. -/
lemma avoidsLeast_signed? {negative : Bool} {v w : Value} (hv : v.AvoidsLeast)
    (h : v.signed? negative = some w) : w.AvoidsLeast := by
  cases v with
  | int i =>
      rw [Value.avoidsLeast_int] at hv
      cases negative with
      | false =>
          cases h
          exact Value.avoidsLeast_int.2 hv
      | true =>
          rw [Value.signed?, if_pos rfl, if_neg hv] at h
          cases h
          exact Value.avoidsLeast_int.2 (neg_ne_least hv)
  | float x =>
      cases h
      exact Value.avoidsLeast_of_ne rfl (by simp)
  | null | bool | text | array => cases h

lemma avoidsLeast_wordValue? {text : String} {v : Value} (h : wordValue? text = some v) : v.AvoidsLeast := by
  unfold wordValue? at h
  split at h
  · cases h
    exact Value.avoidsLeast_of_ne rfl (by simp)
  · split at h
    · cases h
      exact Value.avoidsLeast_of_ne rfl (by simp)
    · split at h
      · cases h
        exact Value.avoidsLeast_of_ne rfl (by simp)
      · cases h

mutual

/-- The least integer stands in no value that is read, by induction on the expression. -/
theorem avoidsLeast_value? : ∀ (e : Expr) {v : Value}, e.value? = some v → v.AvoidsLeast
  | .word text, v, h => avoidsLeast_wordValue? h
  | .integer text, v, h => avoidsLeast_integerValue? h
  | .float text, v, h => by
      rw [Expr.value?, floatValue?] at h
      split at h
      · cases h
      · cases h
        exact Value.avoidsLeast_of_ne rfl (by simp)
  | .quoted text, v, h => by
      obtain ⟨s, -, rfl⟩ := Option.map_eq_some_iff.1 h
      exact Value.avoidsLeast_of_ne rfl (by simp)
  | .signed negative operand, v, h => by
      rw [Expr.value?] at h
      split at h
      · next w hw => exact avoidsLeast_signed? (avoidsLeast_value? operand hw) h
      · cases h
  | .group inner, v, h => avoidsLeast_value? inner h
  | .array elements, v, h => by
      obtain ⟨entries, hentries, rfl⟩ := Option.map_eq_some_iff.1 h
      exact (avoidLeast_addTo elements (fun _ _ hmem => absurd hmem List.not_mem_nil) hentries).toValue
  | .other, v, h => nomatch h

theorem avoidLeast_addTo : ∀ (l : Elements) {start last : Entries}, start.AvoidLeast →
    l.addTo start = some last → last.AvoidLeast
  | .nil, start, last, hstart, h => by
      cases h
      exact hstart
  | .item value rest, start, last, hstart, h => by
      rw [Elements.addTo] at h
      split at h
      · next v hv => exact avoidLeast_addTo rest (hstart.insert _ (avoidsLeast_value? value hv)) h
      · cases h
  | .keyed key value rest, start, last, hstart, h => by
      rw [Elements.addTo] at h
      split at h
      · next k v hk hv =>
        split at h
        · exact avoidLeast_addTo rest (hstart.insert _ (avoidsLeast_value? value hv)) h
        · cases h
      · cases h

end

/-! ## Exactness -/

/-- The value of an integer literal with signs and parentheses around it.  Its text is read as one
expression, whatever the base, the underscores and the case of its letters.  The value is the product of the
signs and the number where 64 bits hold that, a float up to 128 bits, and beyond that there is none.  So the
least integer is no value in anything that is read, and the sign of an integer that is read can always be
changed. -/
theorem integers_exact (e : SignedInteger) :
    (e.IsSpaced → ∀ rest, EndsLiteral rest → expressionIn (e.text ++ rest) = some (e.expr, rest)) ∧
      (e.number < Nat.pow 2 63 → ∃ i, e.expr.value? = some (.int i) ∧ i.toInt = e.sign * e.number) ∧
      (Nat.pow 2 63 ≤ e.number → e.number < Nat.pow 2 128 → e.expr.value? = some (.float e.nearestFloat)) ∧
      (Nat.pow 2 128 ≤ e.number → e.expr.value? = none) ∧
      (∀ (x : Expr) (v : Value), x.value? = some v → ¬ v.Holds (.int Int64.minValue)) ∧
      ∀ (x : Expr) (i : Int64), x.value? = some (.int i) →
        (Expr.signed true x).value? = some (.int (-i)) ∧ (-i).toInt = -i.toInt := by
  refine ⟨fun he rest hrest => SignedInteger.expressionIn_text he hrest, fun h => ?_,
    SignedInteger.value?_of_large, SignedInteger.value?_of_beyond, fun x v => avoidsLeast_value? x, ?_⟩
  · exact ⟨_, SignedInteger.value?_of_fits h, (SignedInteger.toInt_ofInt_signed h).1⟩
  · intro x i hx
    have hmin : i ≠ Int64.minValue := Value.avoidsLeast_int.1 (avoidsLeast_value? x hx)
    constructor
    · rw [Expr.value?, hx]
      dsimp only
      rw [Value.signed?, if_pos rfl, if_neg hmin]
    · have hleast : i.toInt ≠ -2 ^ 63 := fun h => hmin (Int64.toInt_inj.1 (h.trans Int64.toInt_minValue.symm))
      have hlow := i.le_toInt
      have hhigh := i.toInt_lt
      rw [Int64.toInt_neg]
      refine Int.bmod_eq_of_le ?_ ?_ <;> omega

/-- Digits of base sixteen: one, some that are all the same, and groups of four of these. -/
def padded (first d : Digit 16) (more groups : Nat) : GroupedDigits 16 where
  first := first
  more := List.replicate more d
  groups := List.replicate groups (d, List.replicate 3 d)

/-- The negative of the greatest integer. -/
def leastWritten : SignedInteger :=
  .signed true [] (.group [] (.signed false [' ']
    (.literal (.marked .sixteen true (padded ⟨⟨7, by decide⟩, false⟩ ⟨⟨15, by decide⟩, true⟩ 3 3)))) [])

/-- One more than the greatest integer. -/
def justTooLarge : SignedInteger :=
  .signed false []
    (.literal (.marked .sixteen false (padded ⟨⟨8, by decide⟩, false⟩ ⟨⟨0, by decide⟩, false⟩ 3 3)))

/-- The first number beyond 128 bits. -/
def firstBeyond : SignedInteger :=
  .literal (.marked .sixteen false (padded ⟨⟨1, by decide⟩, false⟩ ⟨⟨0, by decide⟩, false⟩ 0 8))

theorem integers_exact_limits :
    (leastWritten.text = "-(+ 0X7FFF_FFFF_FFFF_FFFF)".toList ∧ leastWritten.IsSpaced ∧ EndsLiteral [')'] ∧
      expressionIn (leastWritten.text ++ [')']) = some (leastWritten.expr, [')'])) ∧
    (leastWritten.number < Nat.pow 2 63 ∧
      ∃ i, leastWritten.expr.value? = some (.int i) ∧ i.toInt = -9223372036854775807) ∧
    (justTooLarge.text = "+0x8000_0000_0000_0000".toList ∧ justTooLarge.number = Nat.pow 2 63 ∧
      justTooLarge.expr.value? = some (.float justTooLarge.nearestFloat)) ∧
    firstBeyond.number = Nat.pow 2 128 ∧ firstBeyond.expr.value? = none := by
  have hspaced : leastWritten.IsSpaced :=
    ⟨by decide, by decide, by decide, ⟨by decide, by decide, trivial⟩, by decide⟩
  have hends : EndsLiteral [')'] := ⟨[], [')'], rfl, isBlankText_nil, .inr (.inr (.inl rfl))⟩
  have hfits : leastWritten.number < Nat.pow 2 63 := by decide
  have hlarge : justTooLarge.number = Nat.pow 2 63 := by decide
  have hbeyond : firstBeyond.number = Nat.pow 2 128 := by decide
  refine ⟨⟨by decide, hspaced, hends, (integers_exact leastWritten).1 hspaced _ hends⟩, ⟨hfits, ?_⟩,
    ⟨by decide, hlarge, (integers_exact justTooLarge).2.2.1 hlarge.ge ?_⟩, hbeyond,
    (integers_exact firstBeyond).2.2.2.1 hbeyond.ge⟩
  · obtain ⟨i, hvalue, hi⟩ := (integers_exact leastWritten).2.1 hfits
    exact ⟨i, hvalue, hi.trans (by decide)⟩
  · rw [hlarge]
    decide

end PhpInterface
