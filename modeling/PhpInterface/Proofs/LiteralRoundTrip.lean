import PhpInterface.Proofs.ArrayBuilding
import PhpInterface.Proofs.Operands

/-!
# Literals are read as they were written

The code of a value is an expression with that value (`literal_read_back`), and so is its compact code
where no layout character stands in a text.

Both are laid out in their own way.  `Writes` is the grammar they share: blanks may stand between the
tokens of an array.  Its three properties make up the result.  What it writes is read with the value it
writes (`Writes.readsAs`), by induction on the grammar and with the length of the text as the bound on the
depth; the code of a value belongs to it (`writes_codeAt`); and it is closed under leaving out layout
characters (`Writes.compacted`).

The value has to be one whose parts have literals.  A text with a NUL character has none: it is written as
texts that are joined, and so is such a key (`nul_key_not_read_back`).
-/

namespace PhpInterface

open Reader Source Description Decimal

/-! ## Elements of arrays -/

/-- The text is read as an expression with this value, wherever a literal can end after it.  By its first
character it is neither a reference nor spread. -/
structure ReadsAs (d : Nat) (t : List Char) (v : Value) : Prop where
  exists_cons : ∃ c t', t = c :: t' ∧ opensGap c = false ∧ c ≠ '.' ∧ c ≠ '&'
  exists_operand : ∀ {b rest}, IsBlankText b → EndsLiteral rest →
    ∃ o, (nested d).expression .inner (b ++ (t ++ rest)) = some (o, rest) ∧ IsFixed o ∧
      o.expr.value? = some v

namespace ReadsAs

variable {d : Nat} {b t rest : List Char} {v : Value}

lemma solid (h : ReadsAs d t v) : Solid (t ++ rest) := by
  obtain ⟨c, t', rfl, hgap, -, -⟩ := h.exists_cons
  exact solid_cons hgap

lemma spread_refused (h : ReadsAs d t v) (hb : IsBlankText b) : symbol "..." (b ++ (t ++ rest)) = none := by
  refine symbolAt_of_refused hb h.solid ?_
  obtain ⟨c, t', rfl, -, hpoint, -⟩ := h.exists_cons
  exact exactly_of_refused fun d hd => by cases hd; exact hpoint

lemma reference_refused (h : ReadsAs d t v) (hb : IsBlankText b) (n : Nested) :
    n.reference .inner (b ++ (t ++ rest)) = none := by
  refine bind_of_refused (symbolAt_of_refused hb h.solid ?_)
  obtain ⟨c, t', rfl, -, -, hand⟩ := h.exists_cons
  exact exactly_of_refused fun d hd => by cases hd; exact hand

end ReadsAs

/-- The slot is an array element that gives this entry. -/
def Holds (slot : Slot) (entry : Key × Value) : Prop :=
  slot.isElement = true ∧ slot.value.value? = some entry.2 ∧
    ∃ e k, slot.key = some e ∧ e.value? = some k ∧ Key.ofValue? k = some entry.1

section

variable {d : Nat} {b b₀ b₁ b₂ t k v rest : List Char} {key : Key} {keyValue value : Value}
  {l : List Slot} {entries : List (Key × Value)}

lemma endsLiteral_comma (rest : List Char) : EndsLiteral (',' :: rest) :=
  ⟨[], _, rfl, isBlankText_nil, .inr (.inl rfl)⟩

lemma endsLiteral_arrow (hb : IsBlankText b) (rest : List Char) : EndsLiteral (b ++ '=' :: '>' :: rest) :=
  ⟨b, _, rfl, hb, .inr (.inr (.inr ⟨rest, rfl⟩))⟩

/-- An element with a key. -/
lemma exists_slot (hk : ReadsAs d k keyValue) (hkey : Key.ofValue? keyValue = some key)
    (hv : ReadsAs d v value) (hb₀ : IsBlankText b₀) (hb₁ : IsBlankText b₁) (hb₂ : IsBlankText b₂)
    (rest : List Char) :
    ∃ l, slot (nested d) .square (b₀ ++ (k ++ (b₁ ++ '=' :: '>' :: (b₂ ++ (v ++ ',' :: rest))))) =
      some (l, ',' :: rest) ∧ Holds l (key, value) := by
  obtain ⟨o, ho, hfixed, hkeyValue⟩ :=
    hk.exists_operand hb₀ (endsLiteral_arrow hb₁ (b₂ ++ (v ++ ',' :: rest)))
  obtain ⟨u, hu, hufixed, hvalue⟩ :=
    hv.exists_operand isBlankText_nil (endsLiteral_comma rest)
  have hkeyless : keylessSlot (nested d) .square (v ++ ',' :: rest) =
      some (.ofOperand .square u, ',' :: rest) := by
    have hreference : (nested d).reference .inner (v ++ ',' :: rest) = none :=
      hv.reference_refused (b := []) isBlankText_nil _
    rw [keylessSlot, bind_of_eq (found_of_refused hreference), if_neg Bool.false_ne_true]
    exact map_of_eq hu
  have hbefore : gap (b₁ ++ '=' :: '>' :: (b₂ ++ (v ++ ',' :: rest))) =
      some (blankParts b₁, '=' :: '>' :: (b₂ ++ (v ++ ',' :: rest))) := gapAt_blank hb₁ (solid_cons rfl)
  have hafter : gap (b₂ ++ (v ++ ',' :: rest)) = some (blankParts b₂, v ++ ',' :: rest) :=
    gapAt_blank hb₂ hv.solid
  have harrow : (do
      let before ← gap
      exactly ['=', '>']
      let after ← gap
      let value ← keylessSlot (nested d) .square
      pure (before ++ after, value)) (b₁ ++ '=' :: '>' :: (b₂ ++ (v ++ ',' :: rest))) =
      some ((blankParts b₁ ++ blankParts b₂, .ofOperand .square u), ',' :: rest) := by
    have hsymbol : exactly ['=', '>'] ('=' :: '>' :: (b₂ ++ (v ++ ',' :: rest))) =
        some ((), b₂ ++ (v ++ ',' :: rest)) := exactly_append ['=', '>']
    rw [bind_of_eq hbefore, bind_of_eq hsymbol, bind_of_eq hafter, bind_of_eq hkeyless]
    rfl
  refine ⟨(Slot.ofOperand .square u).withKey o (blankParts b₁ ++ blankParts b₂), ?_, ?_, ?_,
    o.expr, keyValue, rfl, hkeyValue, hkey⟩
  · rw [slot, bind_of_eq (found_of_refused (hk.spread_refused hb₀)), if_neg Bool.false_ne_true,
      bind_of_eq (found_of_refused (hk.reference_refused hb₀ _)), if_neg Bool.false_ne_true,
      bind_of_eq ho, bind_of_eq (optional?_of_eq harrow)]
    rfl
  · rw [Slot.withKey, Slot.ofOperand, hufixed.form_ne, hfixed.form_ne]
    rfl
  · rw [Slot.withKey, pages_append, pages_blankParts, pages_blankParts]
    exact hvalue

/-- The text is read as the entries of an array, up to the parenthesis that closes it.  The comma in front
belongs to the text before it. -/
def ReadsEntries (d : Nat) (t : List Char) (entries : List (Key × Value)) : Prop :=
  ∀ rest, ∃ l b, List.Forall₂ Holds l entries ∧ IsBlankText b ∧
    many (do let _ ← symbol ","; optional? (slot (nested d) .square)) (',' :: (t ++ ')' :: rest)) =
      some (l.map some ++ [none], b ++ ')' :: rest)

lemma comma_eq : symbol "," (',' :: rest) = some ((), rest) :=
  symbolAt_cons rfl rfl

/-- After the last comma nothing but blanks stands before the parenthesis. -/
lemma readsEntries_nil (d : Nat) (hb : IsBlankText b) : ReadsEntries d b [] := by
  intro rest
  have hsolid : Solid (')' :: rest) := solid_cons rfl
  have hspread : symbol "..." (b ++ ')' :: rest) = none := symbolAt_of_refused hb hsolid rfl
  have hreference : (nested d).reference .inner (b ++ ')' :: rest) = none :=
    bind_of_refused (symbolAt_of_refused hb hsolid rfl)
  have hexpression : (nested d).expression .inner (b ++ ')' :: rest) = none := by
    cases d with
    | zero => rfl
    | succ d => exact expression_closer hb
  have hslot : slot (nested d) .square (b ++ ')' :: rest) = none := by
    rw [slot, bind_of_eq (found_of_refused hspread), if_neg Bool.false_ne_true,
      bind_of_eq (found_of_refused hreference), if_neg Bool.false_ne_true, bind_of_refused hexpression]
  have hcomma : symbol "," (b ++ ')' :: rest) = none := symbolAt_of_refused hb hsolid rfl
  have hlast : (do let _ ← symbol ","; optional? (slot (nested d) .square)) (',' :: (b ++ ')' :: rest)) =
      some (none, b ++ ')' :: rest) := by
    rw [bind_of_eq comma_eq, optional?_of_refused hslot]
  refine ⟨[], b, .nil, hb, many_of_eq hlast ?_ (many_of_refused (bind_of_refused hcomma))⟩
  simp

lemma readsEntries_cons (hk : ReadsAs d k keyValue) (hkey : Key.ofValue? keyValue = some key)
    (hv : ReadsAs d v value) (ht : ReadsEntries d t entries) (hb₀ : IsBlankText b₀) (hb₁ : IsBlankText b₁)
    (hb₂ : IsBlankText b₂) :
    ReadsEntries d (b₀ ++ (k ++ (b₁ ++ '=' :: '>' :: (b₂ ++ (v ++ ',' :: t))))) ((key, value) :: entries) := by
  intro rest
  obtain ⟨l, b, hl, hb, hmore⟩ := ht rest
  obtain ⟨first, hfirst, hholds⟩ := exists_slot hk hkey hv hb₀ hb₁ hb₂ (t ++ ')' :: rest)
  refine ⟨first :: l, b, .cons hholds hl, hb, ?_⟩
  simp only [List.append_assoc, List.cons_append, List.map_cons]
  refine many_of_eq ?_ ?_ hmore
  · rw [bind_of_eq comma_eq, optional?_of_eq hfirst]
  · simp only [List.length_append, List.length_cons]
    omega

/-! ### The value of an array -/

/-- Entries with new keys are added at the end. -/
lemma exists_addTo (hl : List.Forall₂ Holds l entries) (start : Entries)
    (hkeys : ((start.entries ++ entries).map Prod.fst).Nodup) :
    ∃ last, (Elements.ofList (l.map fun slot => (slot.key, slot.value))).addTo start = some last ∧
      last.entries = start.entries ++ entries := by
  induction hl generalizing start with
  | nil => exact ⟨start, rfl, (List.append_nil _).symm⟩
  | @cons slot e l entries hslot _ ih =>
      obtain ⟨-, hvalue, keyExpr, keyValue, hexpr, hkeyValue, hkey⟩ := hslot
      have hnew : e.1 ∉ start.entries.map Prod.fst := by
        intro hmem
        rw [List.map_append, List.nodup_append] at hkeys
        exact hkeys.2.2 _ hmem _ List.mem_cons_self rfl
      have hentries : (start.insert e.1 e.2).entries = start.entries ++ [e] := Entries.put_of_not_mem hnew
      obtain ⟨last, hlast, hall⟩ :=
        ih (start.insert e.1 e.2) (by rw [hentries, List.append_assoc]; exact hkeys)
      refine ⟨last, ?_, by rw [hall, hentries, List.append_assoc]; rfl⟩
      rw [List.map_cons, Elements.ofList, hexpr, Elements.cons, Elements.addTo, hkeyValue, hvalue]
      dsimp only
      rw [hkey]
      exact hlast

/-- A comma after the last element does no harm. -/
lemma areElements_trailing (hl : List.Forall₂ Holds l entries) :
    areElements (l.map some ++ [none]) = true := by
  have hall : (l.map some).all (·.any (·.isElement)) = true := by
    induction hl with
    | nil => rfl
    | cons hslot _ ih =>
        rw [List.map_cons, List.all_cons, ih, Bool.and_true]
        exact hslot.1
  unfold areElements
  split
  · rfl
  · rfl
  · rfl
  · rw [List.dropLast_concat, hall, List.getLast?_concat]
    rfl

/-- The word before the parenthesis makes the entries an array. -/
lemma exists_wordArray (ht : ReadsEntries d t entries) (hkeys : (entries.map Prod.fst).Nodup)
    (hb : IsBlankText b) (rest : List Char) :
    ∃ o, wordArray (nested d) (b ++ '(' :: (t ++ ')' :: rest)) = some (o, rest) ∧ IsFixed o ∧
      o.expr.value? = some (.array entries) := by
  obtain ⟨l, b', hl, hb', hmany⟩ := ht rest
  obtain ⟨last, hlast, hentries⟩ := exists_addTo hl {} hkeys
  have hslots : slots (nested d) .square ")" (t ++ ')' :: rest) = some (l.map some ++ [none], rest) := by
    have hclose : symbol ")" (b' ++ ')' :: rest) = some ((), rest) :=
      symbolAt_of_eq (t := [')']) rfl hb' (solid_cons rfl)
    rw [slots, bind_of_eq (sepBy1_of_many comma_eq hmany (by simp)), bind_of_eq hclose]
    rfl
  have hopen : symbol "(" (b ++ '(' :: (t ++ ')' :: rest)) = some ((), t ++ ')' :: rest) :=
    symbolAt_of_eq (t := ['(']) rfl hb (solid_cons rfl)
  refine ⟨{ expr := .array (elementsOf (l.map some ++ [none])), form := .value, pattern := none }, ?_,
    ⟨.inl rfl, rfl⟩, ?_⟩
  · rw [wordArray, bind_of_eq hopen, bind_of_eq hslots,
      bind_of_eq (require_of_true (areElements_trailing hl))]
    rfl
  · have helements : elementsOf (l.map some ++ [none]) =
        .ofList (l.map fun slot => (slot.key, slot.value)) := by
      simp [elementsOf, List.filterMap_append, List.filterMap_map]
    rw [Expr.value?, helements, hlast, Option.map_some, Entries.toValue, hentries]
    rfl

end

/-! ## Ways to write a value -/

/-- The value that a key is. -/
def Key.toValue : Key → Value
  | .int i => .int i
  | .text s => .text s

mutual

/-- The text is a way to write the value as a literal.  Blanks can stand between the tokens of an array,
and a comma follows every entry. -/
inductive Writes : List Char → Value → Prop where
  | null : Writes ['N', 'U', 'L', 'L'] .null
  | true : Writes ['t', 'r', 'u', 'e'] (.bool true)
  | false : Writes ['f', 'a', 'l', 's', 'e'] (.bool false)
  | int {i : Int64} (hi : i ≠ Int64.minValue) : Writes (decimalText i.toInt) (.int i)
  | text {s : String} (hs : ∀ c ∈ s.toList, c ≠ '\x00') : Writes (quoted s) (.text s)
  | array {b t : List Char} {entries : List (Key × Value)} (hb : IsBlankText b)
      (ht : WritesEntries t entries) (hkeys : (entries.map Prod.fst).Nodup) :
      Writes (['a', 'r', 'r', 'a', 'y'] ++ (b ++ '(' :: (t ++ [')']))) (.array entries)

/-- The text is a way to write the entries between the parentheses of an array.  The keys have to be such
as are not taken for others. -/
inductive WritesEntries : List Char → List (Key × Value) → Prop where
  | nil {b : List Char} (hb : IsBlankText b) : WritesEntries b []
  | cons {b₀ b₁ b₂ k v t : List Char} {key : Key} {value : Value} {entries : List (Key × Value)}
      (hb₀ : IsBlankText b₀) (hb₁ : IsBlankText b₁) (hb₂ : IsBlankText b₂) (hk : Writes k key.toValue)
      (hkey : Key.ofValue? key.toValue = some key) (hv : Writes v value) (ht : WritesEntries t entries) :
      WritesEntries (b₀ ++ (k ++ (b₁ ++ '=' :: '>' :: (b₂ ++ (v ++ ',' :: t))))) ((key, value) :: entries)

end

section

variable {d : Nat} {b t : List Char} {v : Value} {entries : List (Key × Value)}

lemma readsAs_text {s : String} (hs : ∀ c ∈ s.toList, c ≠ '\x00') : ReadsAs (d + 1) (quoted s) (.text s) where
  exists_cons := ⟨_, _, rfl, by decide, by decide, by decide⟩
  exists_operand hb hrest :=
    ⟨quotedOperand s, expression_of_start (operandStart_quoted hs hb) ⟨.inl rfl, rfl⟩ hrest,
      ⟨.inl rfl, rfl⟩, value?_quotedOperand hs⟩

lemma exists_cons_of_isWord {w : List Char} (hw : isWord w = true) :
    ∃ c w', w = c :: w' ∧ opensGap c = false ∧ c ≠ '.' ∧ c ≠ '&' := by
  cases w with
  | nil => cases hw
  | cons c w =>
      rw [isWord, Bool.and_eq_true] at hw
      refine ⟨c, w, rfl, opensGap_of_isWordStart hw.1, ?_, ?_⟩
      all_goals
        rintro rfl
        exact absurd hw.1 (by decide)

lemma readsAs_valueWord {w : List Char} {k : String} (hw : isReservedWord w = true)
    (hk : smallForm w = k) (hvalue : k = "null" ∨ k = "true" ∨ k = "false")
    (hv : wordValue? k = some v) : ReadsAs (d + 1) w v where
  exists_cons := by
    rw [isReservedWord, Bool.and_eq_true, Bool.and_eq_true, Bool.and_eq_true, Bool.and_eq_true] at hw
    exact exists_cons_of_isWord hw.1.1.1.1
  exists_operand hb hrest :=
    ⟨wordOperandOf k,
      expression_of_start (operandStart_valueWord hb hw hk hvalue hrest.endsWord) ⟨.inr rfl, rfl⟩ hrest,
      ⟨.inr rfl, rfl⟩, by rw [wordOperandOf, Expr.value?, hv]⟩

lemma readsAs_array (ht : ReadsEntries d t entries) (hkeys : (entries.map Prod.fst).Nodup)
    (hb : IsBlankText b) :
    ReadsAs (d + 1) (['a', 'r', 'r', 'a', 'y'] ++ (b ++ '(' :: (t ++ [')']))) (.array entries) where
  exists_cons := ⟨_, _, rfl, by decide, by decide, by decide⟩
  exists_operand {b₀ rest} hb₀ hrest := by
    obtain ⟨o, ho, hfixed, hvalue⟩ := exists_wordArray ht hkeys hb rest
    refine ⟨o, ?_, hfixed, hvalue⟩
    have hends : EndsWord (b ++ '(' :: (t ++ ')' :: rest)) := (endsWord_cons (by decide)).blank hb
    have hword : operandStart (nested d) .expression .inner
        (b₀ ++ (['a', 'r', 'r', 'a', 'y'] ++ (b ++ '(' :: (t ++ ')' :: rest)))) = some (o, rest) := by
      rw [operandStart_reserved hb₀ (by decide) hends]
      have hsmall : smallForm ['a', 'r', 'r', 'a', 'y'] = "array" := by decide
      rw [hsmall]
      unfold reservedOperand
      rw [bind_of_eq (rawWord_append (by decide) hends)]
      exact ho
    simp only [List.append_assoc, List.cons_append, List.nil_append]
    exact expression_of_start hword hfixed hrest

lemma natAbs_lt {i : Int64} (hi : i ≠ Int64.minValue) : i.toInt.natAbs < Nat.pow 2 63 := by
  have hmin : i.toInt ≠ -2 ^ 63 := fun h => hi (Int64.toInt_inj.1 (h.trans Int64.toInt_minValue.symm))
  have hlow := i.le_toInt
  have hhigh := i.toInt_lt
  have hpow : Nat.pow 2 63 = 2 ^ 63 := rfl
  omega

lemma value?_digitsOperand {i : Int64} (hi : i ≠ Int64.minValue) (hsign : 0 ≤ i.toInt) :
    (digitsOperand i.toInt.natAbs).expr.value? = some (.int i) := by
  have hi64 : Int64.ofNat i.toInt.natAbs = i := by
    rw [← Int64.toInt_inj, Int64.toInt_ofNat_of_lt (natAbs_lt hi)]
    omega
  rw [digitsOperand, Expr.value?, String.toList_ofList, integerValue?_toDigits (natAbs_lt hi), hi64]

lemma value?_negativeOperand {i : Int64} (hi : i ≠ Int64.minValue) (hsign : i.toInt < 0) :
    (negativeOperand i.toInt.natAbs).expr.value? = some (.int i) := by
  have hnat := Int64.toInt_ofNat_of_lt (natAbs_lt hi)
  have hmin : Int64.ofNat i.toInt.natAbs ≠ Int64.minValue := by
    intro h
    rw [h, Int64.toInt_minValue] at hnat
    omega
  have hi64 : -Int64.ofNat i.toInt.natAbs = i := by
    rw [← Int64.toInt_inj, Int64.toInt_neg_ofNat_of_le (Nat.le_of_lt (natAbs_lt hi))]
    omega
  rw [negativeOperand, digitsOperand, Expr.value?, Expr.value?, String.toList_ofList,
    integerValue?_toDigits (natAbs_lt hi)]
  dsimp only
  rw [Value.signed?, if_pos rfl, if_neg hmin, hi64]

lemma readsAs_int {i : Int64} (hi : i ≠ Int64.minValue) :
    ReadsAs (d + 2) (decimalText i.toInt) (.int i) := by
  rw [decimalText]
  split
  · next hsign =>
    exact
      { exists_cons := ⟨_, _, rfl, by decide, by decide, by decide⟩
        exists_operand := fun hb hrest =>
          ⟨_, expression_of_start (operandStart_negative _ hb hrest) ⟨.inr rfl, rfl⟩ hrest,
            ⟨.inr rfl, rfl⟩, value?_negativeOperand hi hsign⟩ }
  · next hsign =>
    obtain ⟨c, t, ht, hc⟩ := exists_toDigits i.toInt.natAbs
    have hplain : startsPlain c = true := (Bool.and_eq_true_iff.1 (startsPlain_of_isDigit hc)).1
    have hmarks : c ≠ '.' ∧ c ≠ '&' := by
      constructor
      all_goals
        rintro rfl
        cases hc
    exact
      { exists_cons := ⟨c, t, ht, opensGap_of_startsPlain hplain, hmarks⟩
        exists_operand := fun hb hrest =>
          ⟨_, expression_of_start (operandStart_toDigits _ hb hrest) ⟨.inr rfl, rfl⟩ hrest,
            ⟨.inr rfl, rfl⟩, value?_digitsOperand hi (by omega)⟩ }

mutual

theorem Writes.readsAs : ∀ {t : List Char} {v : Value} {d : Nat}, Writes t v → t.length ≤ d →
    ReadsAs (d + 1) t v
  | _, _, _, .null, _ => readsAs_valueWord (by decide) rfl (by decide) rfl
  | _, _, _, .true, _ => readsAs_valueWord (by decide) rfl (by decide) rfl
  | _, _, _, .false, _ => readsAs_valueWord (by decide) rfl (by decide) rfl
  | _, _, 0, .int hi, hd => absurd hd (by
      rw [Nat.le_zero, List.length_eq_zero_iff, decimalText]
      split
      · exact List.cons_ne_nil _ _
      · exact Nat.toDigits_ne_nil)
  | _, _, d + 1, .int hi, _ => readsAs_int hi
  | _, _, _, .text hs, _ => readsAs_text hs
  | _, _, 0, .array _ _ _, hd => by simp at hd
  | _, _, d + 1, .array hb ht hkeys, hd => by
      simp only [List.length_append, List.length_cons] at hd
      exact readsAs_array (ht.readsEntries (by omega)) hkeys hb

theorem WritesEntries.readsEntries : ∀ {t : List Char} {entries : List (Key × Value)} {d : Nat},
    WritesEntries t entries → t.length ≤ d → ReadsEntries (d + 1) t entries
  | _, _, _, .nil hb, _ => readsEntries_nil _ hb
  | _, _, d, .cons hb₀ hb₁ hb₂ hk hkey hv ht, hd => by
      simp only [List.length_append, List.length_cons] at hd
      exact readsEntries_cons (hk.readsAs (by omega)) hkey (hv.readsAs (by omega))
        (ht.readsEntries (by omega)) hb₀ hb₁ hb₂

end

end

/-! ## Values as they are written -/

/-- The key is written as a literal that stands for this key. -/
def Key.isPlain : Key → Bool
  | .int i => i != Int64.minValue
  | .text s => Key.ofText s == .text s

/-- The characters of a key. -/
def Key.characters : Key → List Char
  | .int _ => []
  | .text s => s.toList

mutual

/-- The value is made of `null`, truth values, integers other than the least one, texts and arrays.  The
keys of an array are distinct, and each stays what it is. -/
def Value.isPlain : Value → Bool
  | .int i => i != Int64.minValue
  | .float _ => false
  | .array entries => decide (entries.map Prod.fst).Nodup && arePlain entries
  | _ => true

/-- The keys and the values of the entries are plain. -/
def arePlain : List (Key × Value) → Bool
  | [] => true
  | (key, value) :: rest => key.isPlain && value.isPlain && arePlain rest

end

mutual

/-- The characters of all texts in a value, the keys of arrays included. -/
def Value.characters : Value → List Char
  | .text s => s.toList
  | .array entries => charactersOf entries
  | _ => []

/-- The characters of all texts in the entries of an array. -/
def charactersOf : List (Key × Value) → List Char
  | [] => []
  | (key, value) :: rest => key.characters ++ value.characters ++ charactersOf rest

end

section

variable {b t : List Char} {v : Value} {key : Key} {entries : List (Key × Value)}

lemma Key.characters_toValue (key : Key) : key.toValue.characters = key.characters := by
  cases key <;> rfl

lemma codeAt_array (depth : Nat) (entries : List (Key × Value)) :
    Value.codeAt depth (.array entries) = ['a', 'r', 'r', 'a', 'y'] ++
      ([' '] ++ '(' :: (['\n'] ++ (Value.entriesCode depth entries ++ Value.indent depth) ++ [')'])) := by
  have hcode : Value.codeAt depth (.array entries) =
      "array (\n".toList ++ Value.entriesCode depth entries ++ Value.indent depth ++ [')'] := rfl
  rw [hcode]
  simp

lemma entriesCode_cons (depth : Nat) (key : Key) (value : Value) (rest : List (Key × Value)) :
    Value.entriesCode depth ((key, value) :: rest) =
      Value.indent (depth + 1) ++ (key.code ++ ([' '] ++ '=' :: '>' ::
        (' ' :: (if value.isArray then '\n' :: Value.indent (depth + 1) else []) ++
          (value.codeAt (depth + 1) ++ ',' :: (['\n'] ++ Value.entriesCode depth rest))))) := by
  have hcode : Value.entriesCode depth ((key, value) :: rest) =
      Value.indent (depth + 1) ++ key.code ++ " => ".toList ++
        (if value.isArray then '\n' :: Value.indent (depth + 1) else []) ++
        value.codeAt (depth + 1) ++ [',', '\n'] ++ Value.entriesCode depth rest := rfl
  rw [hcode]
  simp

lemma Key.ofValue?_toValue (h : key.isPlain = true) : Key.ofValue? key.toValue = some key := by
  cases key with
  | int i => rfl
  | text s => exact congrArg some (beq_iff_eq.1 h)

lemma isBlankText_indent (depth : Nat) : IsBlankText (Value.indent depth) := by
  intro c hc
  rw [List.eq_of_mem_replicate hc]
  rfl

lemma writes_intCode {i : Int64} (hi : (i != Int64.minValue) = true) : Writes (intCode i) (.int i) := by
  rw [bne_iff_ne] at hi
  rw [intCode, if_neg hi]
  exact .int hi

lemma writes_key (hkey : key.isPlain = true) (hchars : ∀ c ∈ key.characters, c ≠ '\x00') :
    Writes key.code key.toValue := by
  cases key with
  | int i => exact writes_intCode hkey
  | text s => exact .text hchars

mutual

/-- A value as code is a way to write it, at any depth. -/
theorem writes_codeAt : ∀ (v : Value) (depth : Nat), v.isPlain = true → (∀ c ∈ v.characters, c ≠ '\x00') →
    Writes (v.codeAt depth) v
  | .null, _, _, _ => .null
  | .bool true, _, _, _ => .true
  | .bool false, _, _, _ => .false
  | .int _, _, hv, _ => writes_intCode hv
  | .float _, _, hv, _ => by
      rw [Value.isPlain] at hv
      cases hv
  | .text _, _, _, hchars => .text hchars
  | .array entries, depth, hv, hchars => by
      rw [Value.isPlain, Bool.and_eq_true, decide_eq_true_eq] at hv
      rw [codeAt_array]
      exact .array (by decide) (writes_entriesCode entries depth ['\n'] hv.2 hchars (by decide)) hv.1

theorem writes_entriesCode : ∀ (entries : List (Key × Value)) (depth : Nat) (b : List Char),
    arePlain entries = true → (∀ c ∈ charactersOf entries, c ≠ '\x00') → IsBlankText b →
    WritesEntries (b ++ (Value.entriesCode depth entries ++ Value.indent depth)) entries
  | [], depth, b, _, _, hb => .nil (hb.append (isBlankText_indent depth))
  | (key, value) :: rest, depth, b, hplain, hchars, hb => by
      rw [arePlain, Bool.and_eq_true, Bool.and_eq_true] at hplain
      obtain ⟨⟨hkey, hvalue⟩, hrest⟩ := hplain
      simp only [charactersOf, List.mem_append, or_imp, forall_and] at hchars
      obtain ⟨⟨hkeyChars, hvalueChars⟩, hrestChars⟩ := hchars
      have hafter : IsBlankText (' ' :: if value.isArray then '\n' :: Value.indent (depth + 1) else []) := by
        split
        · exact IsBlankText.append (b := [' ', '\n']) (by decide) (isBlankText_indent (depth + 1))
        · decide
      have hmore := writes_entriesCode rest depth ['\n'] hrest hrestChars (by decide)
      have hspace : IsBlankText [' '] := by decide
      rw [entriesCode_cons]
      simpa only [List.append_assoc, List.cons_append, List.nil_append] using
        WritesEntries.cons (hb.append (isBlankText_indent (depth + 1))) hspace hafter
          (writes_key hkey hkeyChars) (Key.ofValue?_toValue hkey)
          (writes_codeAt value (depth + 1) hvalue hvalueChars) hmore

end

end

/-! ## Without layout -/

/-- The text without its layout characters. -/
def compacted (t : List Char) : List Char :=
  t.filter fun c => !Text.isLayout c

section

variable {a b t : List Char} {c : Char}

lemma compacted_append : compacted (a ++ b) = compacted a ++ compacted b :=
  List.filter_append _ _

lemma compacted_cons (h : Text.isLayout c = false) : compacted (c :: t) = c :: compacted t :=
  List.filter_cons_of_pos (by rw [h, Bool.not_false])

lemma compacted_eq_self (h : ∀ c ∈ t, Text.isLayout c = false) : compacted t = t :=
  List.filter_eq_self.2 fun c hc => by rw [h c hc, Bool.not_false]

lemma isBlankText_compacted (hb : IsBlankText b) : IsBlankText (compacted b) :=
  fun c hc => hb c (List.mem_of_mem_filter hc)

lemma isLayout_of_isDigit (h : c.isDigit = true) : Text.isLayout c = false := by
  by_contra hlayout
  rw [Bool.not_eq_false] at hlayout
  simp only [Text.isLayout, Bool.or_eq_true, beq_iff_eq] at hlayout
  rcases hlayout with ((((rfl | rfl) | rfl) | rfl) | rfl) | rfl <;> cases h

lemma compacted_decimalText (i : Int) : compacted (decimalText i) = decimalText i := by
  refine compacted_eq_self fun c hc => ?_
  rw [decimalText] at hc
  split at hc
  · rcases List.mem_cons.1 hc with rfl | hc
    · rfl
    · exact isLayout_of_isDigit (isDigit_of_mem_toDigits hc)
  · exact isLayout_of_isDigit (isDigit_of_mem_toDigits hc)

lemma compacted_quoted {s : String} (hs : ∀ c ∈ s.toList, c ≠ '\x00')
    (hlayout : ∀ c ∈ s.toList, Text.isLayout c = false) : compacted (quoted s) = quoted s := by
  refine compacted_eq_self fun c hc => ?_
  simp only [quoted, List.cons_append, List.mem_cons, List.mem_append, List.mem_flatMap,
    List.not_mem_nil, or_false] at hc
  rcases hc with rfl | ⟨d, hd, hc⟩ | rfl
  · rfl
  · have hmem : c = '\\' ∨ c = d := by
      rcases quotedChar_cases (hs d hd) with ⟨-, hquoted⟩ | ⟨-, hquoted⟩
      · simpa [hquoted] using hc
      · simpa [hquoted] using Or.inr hc
    rcases hmem with rfl | rfl
    · rfl
    · exact hlayout c hd
  · rfl

end

mutual

/-- Without layout characters a value is written as well, if its texts have none. -/
theorem Writes.compacted : ∀ {t : List Char} {v : Value}, Writes t v →
    (∀ c ∈ v.characters, Text.isLayout c = false) → Writes (compacted t) v
  | _, _, .null, _ => .null
  | _, _, .true, _ => .true
  | _, _, .false, _ => .false
  | _, _, .int hi, _ => by
      rw [compacted_decimalText]
      exact .int hi
  | _, _, .text hs, hlayout => by
      rw [compacted_quoted hs hlayout]
      exact .text hs
  | _, _, .array hb ht hkeys, hlayout => by
      rw [compacted_append, compacted_append, compacted_cons (c := '(') rfl, compacted_append]
      exact .array (isBlankText_compacted hb) (ht.compacted hlayout) hkeys

theorem WritesEntries.compacted : ∀ {t : List Char} {entries : List (Key × Value)}, WritesEntries t entries →
    (∀ c ∈ charactersOf entries, Text.isLayout c = false) → WritesEntries (compacted t) entries
  | _, _, .nil hb, _ => .nil (isBlankText_compacted hb)
  | _, _, .cons hb₀ hb₁ hb₂ hk hkey hv ht, hlayout => by
      simp only [charactersOf, List.mem_append, or_imp, forall_and] at hlayout
      obtain ⟨⟨hkeyLayout, hvalueLayout⟩, hrestLayout⟩ := hlayout
      rw [compacted_append, compacted_append, compacted_append, compacted_cons rfl, compacted_cons rfl,
        compacted_append, compacted_append, compacted_cons rfl]
      exact .cons (isBlankText_compacted hb₀) (isBlankText_compacted hb₁) (isBlankText_compacted hb₂)
        (hk.compacted (by rwa [Key.characters_toValue])) hkey (hv.compacted hvalueLayout)
        (ht.compacted hrestLayout)

end

/-! ## Reading back -/

/-- A text that writes a value is read as an expression with that value. -/
lemma Writes.exists_value {b t rest : List Char} {v : Value} {d : Nat} (h : Writes t v) (hd : t.length ≤ d)
    (hb : IsBlankText b) (hrest : EndsLiteral rest) :
    ∃ e, (nested (d + 1)).value .inner (b ++ (t ++ rest)) = some (e, rest) ∧ e.value? = some v := by
  obtain ⟨o, ho, hfixed, hvalue⟩ := (h.readsAs hd).exists_operand hb hrest
  refine ⟨o.expr, ?_, hvalue⟩
  rw [Nested.value, bind_of_eq ho, bind_of_eq (require_of_true hfixed.form_ne)]
  rfl

/-- Writing and reading a value are inverse.  The code of a plain value without NUL characters is an
expression with that value, by itself and as the default of a parameter.  So is the compact code, if no
text of the value has layout characters. -/
theorem literal_read_back (v : Value) (hplain : v.isPlain = true) (hnul : ∀ c ∈ v.characters, c ≠ '\x00')
    (text : String)
    (htext : text = v.code ∨ text = v.compactCode ∧ ∀ c ∈ v.characters, Text.isLayout c = false) :
    (∃ e, expressionIn text.toList = some (e, []) ∧ e.value? = some v) ∧
      ∀ depth rest, text.toList.length ≤ depth → rest.head? = some ',' ∨ rest.head? = some ')' →
        ∃ e, defaultValue (nested (depth + 1)) .inner (" = ".toList ++ text.toList ++ rest) =
          some (some e, rest) ∧ e.value? = some v := by
  have hcode : Writes (v.codeAt 0) v := writes_codeAt v 0 hplain hnul
  have hwrites : Writes text.toList v := by
    rcases htext with rfl | ⟨rfl, hlayout⟩
    · rwa [Value.code, String.toList_ofList]
    · rw [Value.compactCode, String.toList_ofList]
      exact hcode.compacted hlayout
  constructor
  · have hends : EndsLiteral [] := ⟨[], [], rfl, isBlankText_nil, .inl rfl⟩
    obtain ⟨e, he, hvalue⟩ := hwrites.exists_value (b := []) (Nat.le_refl _) isBlankText_nil hends
    refine ⟨e, ?_, hvalue⟩
    rwa [List.nil_append, List.append_nil] at he
  · intro depth rest hdepth hrest
    have hends : EndsLiteral rest :=
      ⟨[], rest, rfl, isBlankText_nil, hrest.elim (.inr ∘ .inl) (.inr ∘ .inr ∘ .inl)⟩
    obtain ⟨e, he, hvalue⟩ := hwrites.exists_value (b := [' ']) hdepth (by decide) hends
    refine ⟨e, optional?_of_eq ?_, hvalue⟩
    have hsymbol : symbolAt .inner "=" (" = ".toList ++ text.toList ++ rest) =
        some ((), [' '] ++ (text.toList ++ rest)) :=
      symbolAt_of_eq (b := [' ']) (t := ['=']) rfl (by decide) (solid_cons rfl)
    rw [bind_of_eq hsymbol, he]

/-- An array in an array, with quotes, backslashes, a negative key and a negative value. -/
def nestedSample : Value :=
  .array [(.text "it's", .array [(.int (-7), .text "a\\b"), (.int 0, .int (-12)), (.text "01", .null)]),
    (.text "", .bool true)]

theorem literal_read_back_nested :
    nestedSample.isPlain = true ∧
      (∃ e, expressionIn nestedSample.compactCode.toList = some (e, []) ∧ e.value? = some nestedSample) ∧
      ∃ e, defaultValue (nested 201) .inner (" = ".toList ++ nestedSample.code.toList ++ [')']) =
        some (some e, [')']) ∧ e.value? = some nestedSample := by
  have hplain : nestedSample.isPlain = true := by decide +kernel
  have hchars : nestedSample.characters.all (fun c => c != '\x00' && !Text.isLayout c) = true := by
    decide +kernel
  simp only [List.all_eq_true, Bool.and_eq_true, bne_iff_ne, Bool.not_eq_true'] at hchars
  have hnul : ∀ c ∈ nestedSample.characters, c ≠ '\x00' := fun c hc => (hchars c hc).1
  have hlayout : ∀ c ∈ nestedSample.characters, Text.isLayout c = false := fun c hc => (hchars c hc).2
  exact ⟨hplain, (literal_read_back nestedSample hplain hnul _ (.inr ⟨rfl, hlayout⟩)).1,
    (literal_read_back nestedSample hplain hnul _ (.inl rfl)).2 200 [')'] (by decide +kernel) (.inr rfl)⟩

/-- An array with a NUL character as its key, and no other text. -/
def nulKeySample : Value :=
  .array [(.text "\x00", .int 1)]

/-- A key with a NUL character is written as texts that are joined, and no literal is read. -/
theorem nul_key_not_read_back :
    nulKeySample.isPlain = true ∧
      ∃ e, expressionIn nulKeySample.code.toList = some (e, []) ∧ e.value? = none := by
  have hread : (expressionIn nulKeySample.code.toList).map (fun p => (p.1.value?.isNone, p.2)) =
      some (true, []) := by
    decide +kernel
  refine ⟨by decide +kernel, ?_⟩
  cases h : expressionIn nulKeySample.code.toList with
  | none =>
      rw [h] at hread
      cases hread
  | some p =>
      obtain ⟨e, rest⟩ := p
      rw [h] at hread
      obtain ⟨hvalue, rfl⟩ := Prod.mk.inj (Option.some.inj hread)
      exact ⟨e, rfl, Option.isNone_iff_eq_none.1 hvalue⟩

end PhpInterface
