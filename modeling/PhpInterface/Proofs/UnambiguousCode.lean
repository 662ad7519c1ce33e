import PhpInterface.Proofs.LiteralRoundTrip

/-!
# Values are told apart by their code

The code of a value is one flat text, and the texts inside it may look like any part of it: like quotes,
commas, arrows or whole arrays.  Still no two values without floats have the same code, and the compact codes
of two values agree only if the values do when layout characters are taken out of their texts.

Both facts are one.  Leaving characters out of a code is a filter that keeps at least all characters but
layout (`KeepsSigns`); to keep everything is such a filter, and so is to drop all layout.  `codeAt_append_inj`
reads two filtered codes side by side, with something after each that cannot belong to it (`EndsCode`), and
finds the same value, up to what the filter takes out of its texts, and the same rest.  It goes by the form
of the values, which the first character tells (`Value.mark`), and within an array from entry to entry.
Layout in front of a sign is skipped, so how deep the arrays are indented does not matter.
-/

namespace PhpInterface

open Decimal

/-! ## Values without floats, and the texts in them -/

mutual

/-- No float stands in the value, at any depth. -/
def Value.isFloatFree : Value → Bool
  | .float _ => false
  | .array entries => areFloatFree entries
  | _ => true

/-- No float stands in the values of the entries. -/
def areFloatFree : List (Key × Value) → Bool
  | [] => true
  | (_, value) :: rest => value.isFloatFree && areFloatFree rest

end

/-- The text with some of its characters left out. -/
def keptText (keep : Char → Bool) (s : String) : String :=
  String.ofList (s.toList.filter keep)

/-- The key with some of its characters left out, if it is a text. -/
def Key.keeping (keep : Char → Bool) : Key → Key
  | .int i => .int i
  | .text s => .text (keptText keep s)

mutual

/-- The value with some characters left out of all its texts and of all keys that are texts. -/
def Value.keeping (keep : Char → Bool) : Value → Value
  | .text s => .text (keptText keep s)
  | .array entries => .array (entriesKeeping keep entries)
  | v => v

/-- The entries with some characters left out of their texts and keys. -/
def entriesKeeping (keep : Char → Bool) : List (Key × Value) → List (Key × Value)
  | [] => []
  | (key, value) :: rest => (key.keeping keep, value.keeping keep) :: entriesKeeping keep rest

end

/-- The value with all layout characters left out of its texts and of the keys that are texts. -/
def Value.withoutLayout (v : Value) : Value :=
  v.keeping fun c => !Text.isLayout c

lemma keptText_true (s : String) : keptText (fun _ => true) s = s := by
  simp [keptText]

lemma Key.keeping_true (key : Key) : key.keeping (fun _ => true) = key := by
  cases key <;> simp [Key.keeping, keptText_true]

mutual

theorem Value.keeping_true : ∀ v : Value, v.keeping (fun _ => true) = v
  | .null => rfl
  | .bool _ => rfl
  | .int _ => rfl
  | .float _ => rfl
  | .text s => congrArg Value.text (keptText_true s)
  | .array entries => by rw [Value.keeping, entriesKeeping_true entries]

theorem entriesKeeping_true : ∀ entries : List (Key × Value), entriesKeeping (fun _ => true) entries = entries
  | [] => rfl
  | (key, value) :: rest => by
      rw [entriesKeeping, Key.keeping_true, Value.keeping_true value, entriesKeeping_true rest]

end

/-- Nothing but layout characters is left out. -/
def KeepsSigns (keep : Char → Bool) : Prop :=
  ∀ c, Text.isLayout c = false → keep c = true

section

variable {keep : Char → Bool} (hkeep : KeepsSigns keep)

include hkeep

lemma KeepsSigns.filter_eq_self {t : List Char} (h : ∀ c ∈ t, Text.isLayout c = false) :
    t.filter keep = t :=
  List.filter_eq_self.2 fun c hc => hkeep c (h c hc)

lemma KeepsSigns.filter_of_any {t : List Char} (h : t.any Text.isLayout = false) : t.filter keep = t := by
  refine hkeep.filter_eq_self fun c hc => ?_
  rw [List.any_eq_false] at h
  exact Bool.eq_false_iff.2 (h c hc)

end

/-! ## Runs of characters -/

/-- A run of characters of a class is told apart from what comes after it. -/
lemma run_append_inj {p : Char → Bool} {a b rest other : List Char} (ha : ∀ c ∈ a, p c = true)
    (hb : ∀ c ∈ b, p c = true) (hrest : ∀ c ∈ rest.head?, p c = false)
    (hother : ∀ c ∈ other.head?, p c = false) (h : a ++ rest = b ++ other) : a = b ∧ rest = other := by
  have htake : ∀ l t : List Char, (∀ c ∈ l, p c = true) → (∀ c ∈ t.head?, p c = false) →
      (l ++ t).takeWhile p = l := by
    intro l t hl ht
    rw [List.takeWhile_append_of_pos hl]
    cases t with
    | nil => simp
    | cons c t => simp [ht c (by simp)]
  have hab : a = b := by
    rw [← htake a rest ha hrest, h, htake b other hb hother]
  subst hab
  exact ⟨rfl, List.append_cancel_left h⟩

/-- Layout characters in front of a sign are skipped. -/
lemma layout_append_inj {a b rest other : List Char} (ha : ∀ c ∈ a, Text.isLayout c = true)
    (hb : ∀ c ∈ b, Text.isLayout c = true) (hrest : ∀ c ∈ rest.head?, Text.isLayout c = false)
    (hother : ∀ c ∈ other.head?, Text.isLayout c = false) (h : a ++ rest = b ++ other) : rest = other :=
  (run_append_inj ha hb hrest hother h).2

/-! ## Ends -/

/-- What can stand after the code of a value or a key: nothing, a comma, or an arrow with or without a space
in front of it. -/
inductive EndsCode : List Char → Prop where
  | nil : EndsCode []
  | comma (t : List Char) : EndsCode (',' :: t)
  | arrow (t : List Char) : EndsCode ('=' :: t)
  | spacedArrow (t : List Char) : EndsCode (' ' :: '=' :: t)

lemma EndsCode.head {rest : List Char} (h : EndsCode rest) :
    ∀ c ∈ rest.head?, c.isDigit = false ∧ c ≠ '-' := by
  cases h <;> simp

/-! ## Integers -/

lemma toDigits_append_inj {m n : Nat} {rest other : List Char} (hrest : ∀ c ∈ rest.head?, c.isDigit = false)
    (hother : ∀ c ∈ other.head?, c.isDigit = false)
    (h : Nat.toDigits 10 m ++ rest = Nat.toDigits 10 n ++ other) : m = n ∧ rest = other := by
  obtain ⟨hdigits, hend⟩ := run_append_inj (p := Char.isDigit) (fun c => isDigit_of_mem_toDigits)
    (fun c => isDigit_of_mem_toDigits) hrest hother h
  refine ⟨?_, hend⟩
  rw [← numeral_toDigits m, hdigits, numeral_toDigits]

lemma decimalText_append_inj {i j : Int} {rest other : List Char}
    (hrest : ∀ c ∈ rest.head?, c.isDigit = false) (hother : ∀ c ∈ other.head?, c.isDigit = false)
    (h : decimalText i ++ rest = decimalText j ++ other) : i = j ∧ rest = other := by
  -- digits do not start with a minus sign
  have hminus : ∀ (n : Nat) (t u : List Char), Nat.toDigits 10 n ++ t ≠ '-' :: u := by
    intro n t u heq
    obtain ⟨c, more, hcons⟩ := List.exists_cons_of_ne_nil (Nat.toDigits_ne_nil (n := n) (b := 10))
    have hdigit : c.isDigit = true := isDigit_of_mem_toDigits (hcons ▸ List.mem_cons_self)
    rw [hcons, List.cons_append, List.cons.injEq] at heq
    rw [heq.1] at hdigit
    exact absurd hdigit (by decide)
  unfold decimalText at h
  by_cases hi : i < 0
  · by_cases hj : j < 0
    · simp only [if_pos hi, if_pos hj, List.cons_append, List.cons.injEq, true_and] at h
      obtain ⟨habs, hend⟩ := toDigits_append_inj hrest hother h
      exact ⟨by omega, hend⟩
    · rw [if_pos hi, if_neg hj, List.cons_append] at h
      exact absurd h.symm (hminus _ _ _)
  · by_cases hj : j < 0
    · rw [if_neg hi, if_pos hj, List.cons_append] at h
      exact absurd h (hminus _ _ _)
    · rw [if_neg hi, if_neg hj] at h
      obtain ⟨habs, hend⟩ := toDigits_append_inj hrest hother h
      exact ⟨by omega, hend⟩

/-- The least integer is written as a difference, and no integer is followed by a minus sign. -/
lemma intCode_append_inj {i j : Int64} {rest other : List Char} (hrest : EndsCode rest)
    (hother : EndsCode other) (h : intCode i ++ rest = intCode j ++ other) : i = j ∧ rest = other := by
  have hdigit : ∀ {t : List Char}, EndsCode t → ∀ c ∈ t.head?, c.isDigit = false :=
    fun ht c hc => (ht.head c hc).1
  have hminus : ∀ {t u : List Char}, EndsCode t → t ≠ '-' :: u := by
    rintro t u ht rfl
    exact (ht.head '-' rfl).2 rfl
  have hone : ∀ t : List Char, ∀ c ∈ ('-' :: '1' :: t).head?, c.isDigit = false := by
    simp
  unfold intCode at h
  by_cases hi : i = Int64.minValue
  · by_cases hj : j = Int64.minValue
    · rw [hi, hj] at h ⊢
      exact ⟨rfl, List.append_cancel_left h⟩
    · rw [if_pos hi, if_neg hj, List.append_assoc] at h
      have hend := (decimalText_append_inj (hone rest) (hdigit hother) h).2
      exact absurd hend.symm (hminus hother)
  · by_cases hj : j = Int64.minValue
    · rw [if_neg hi, if_pos hj, List.append_assoc] at h
      have hend := (decimalText_append_inj (hdigit hrest) (hone other) h).2
      exact absurd hend (hminus hrest)
    · rw [if_neg hi, if_neg hj] at h
      obtain ⟨hint, hend⟩ := decimalText_append_inj (hdigit hrest) (hdigit hother) h
      exact ⟨Int64.toInt_inj.1 hint, hend⟩

lemma isLayout_of_mem_decimalText {i : Int} {c : Char} (h : c ∈ decimalText i) : Text.isLayout c = false := by
  rw [← compacted_decimalText, compacted] at h
  simpa using (List.mem_filter.1 h).2

lemma isLayout_of_mem_intCode {i : Int64} {c : Char} (h : c ∈ intCode i) : Text.isLayout c = false := by
  unfold intCode at h
  split at h
  · simp only [List.mem_append, List.mem_cons, List.not_mem_nil, or_false] at h
    rcases h with h | rfl | rfl
    · exact isLayout_of_mem_decimalText h
    · rfl
    · rfl
  · exact isLayout_of_mem_decimalText h

/-! ## Texts -/

/-- What a NUL character puts between the quotes that it closes and those that it opens again. -/
def nulSplice (keep : Char → Bool) : List Char :=
  " . \"\\0\" . '".toList.filter keep

/-- A text in quotes does not go on after its end. -/
lemma EndsCode.ne_nulSplice {keep : Char → Bool} (hkeep : KeepsSigns keep) {rest : List Char} (h : EndsCode rest)
    (t : List Char) : rest ≠ nulSplice keep ++ t := by
  have hdot : keep '.' = true := hkeep '.' rfl
  unfold nulSplice
  by_cases hspace : keep ' ' = true
  · cases h <;> simp [hspace, hdot]
  · cases h <;> simp [hspace, hdot]

section

variable {keep : Char → Bool} (hkeep : KeepsSigns keep)

include hkeep

/-- How a character that is kept stands in quotes: after a backslash, as an interruption of the text, or as
it is. -/
lemma filter_quotedChar_cases {c : Char} (hc : keep c = true) :
    (quotedChar c).filter keep = ['\\', c] ∨
      c = '\x00' ∧ (quotedChar c).filter keep = '\x27' :: nulSplice keep ∨
      (c ≠ '\\' ∧ c ≠ '\x27') ∧ (quotedChar c).filter keep = [c] := by
  have hquote : keep '\x27' = true := hkeep _ rfl
  have hslash : keep '\\' = true := hkeep _ rfl
  by_cases hnul : c = '\x00'
  · subst hnul
    refine Or.inr (Or.inl ⟨rfl, ?_⟩)
    exact List.filter_cons_of_pos hquote
  · rcases quotedChar_cases hnul with ⟨_, hquoted⟩ | ⟨hplain, hquoted⟩
    · exact Or.inl (by simp [hquoted, hc, hslash])
    · exact Or.inr (Or.inr ⟨hplain, by simp [hquoted, hc]⟩)

lemma filter_quotedChar_append_inj {c d : Char} (hc : keep c = true) (hd : keep d = true)
    {t u : List Char} (h : (quotedChar c).filter keep ++ t = (quotedChar d).filter keep ++ u) :
    c = d ∧ t = u := by
  rcases filter_quotedChar_cases hkeep hc with hcode | ⟨hnul, hcode⟩ | ⟨hplain, hcode⟩
  · rcases filter_quotedChar_cases hkeep hd with hcode' | ⟨_, hcode'⟩ | ⟨hplain', hcode'⟩
    · simpa [hcode, hcode'] using h
    · simp [hcode, hcode'] at h
    · simp [hcode, hcode', Ne.symm hplain'.1] at h
  · rcases filter_quotedChar_cases hkeep hd with hcode' | ⟨hnul', hcode'⟩ | ⟨hplain', hcode'⟩
    · simp [hcode, hcode'] at h
    · rw [hcode, hcode'] at h
      exact ⟨hnul.trans hnul'.symm, List.append_cancel_left h⟩
    · simp [hcode, hcode', Ne.symm hplain'.2] at h
  · rcases filter_quotedChar_cases hkeep hd with hcode' | ⟨_, hcode'⟩ | ⟨_, hcode'⟩
    · simp [hcode, hcode', hplain.1] at h
    · simp [hcode, hcode', hplain.2] at h
    · simpa [hcode, hcode'] using h

/-- A character in quotes is not the end of the text. -/
lemma filter_quotedChar_ne_end {d : Char} (hd : keep d = true) {rest : List Char} (hrest : EndsCode rest)
    (t : List Char) : '\x27' :: rest ≠ (quotedChar d).filter keep ++ t := by
  intro h
  rcases filter_quotedChar_cases hkeep hd with hcode | ⟨rfl, hcode⟩ | ⟨hplain, hcode⟩
  · simp [hcode] at h
  · rw [hcode, List.cons_append, List.cons.injEq] at h
    exact hrest.ne_nulSplice hkeep t h.2
  · rw [hcode, List.singleton_append, List.cons.injEq] at h
    exact hplain.2 h.1.symm

lemma flatMap_quotedChar_append_inj {s t rest other : List Char} (hs : ∀ c ∈ s, keep c = true)
    (ht : ∀ c ∈ t, keep c = true) (hrest : EndsCode rest) (hother : EndsCode other)
    (h : (s.flatMap quotedChar).filter keep ++ '\x27' :: rest =
      (t.flatMap quotedChar).filter keep ++ '\x27' :: other) : s = t ∧ rest = other := by
  induction s generalizing t with
  | nil =>
      cases t with
      | nil => simpa using h
      | cons d t =>
          simp only [List.flatMap_nil, List.filter_nil, List.nil_append, List.flatMap_cons, List.filter_append,
            List.append_assoc] at h
          exact absurd h (filter_quotedChar_ne_end hkeep (ht d List.mem_cons_self) hrest _)
  | cons c s ih =>
      cases t with
      | nil =>
          simp only [List.flatMap_nil, List.filter_nil, List.nil_append, List.flatMap_cons, List.filter_append,
            List.append_assoc] at h
          exact absurd h.symm (filter_quotedChar_ne_end hkeep (hs c List.mem_cons_self) hother _)
      | cons d t =>
          simp only [List.flatMap_cons, List.filter_append, List.append_assoc] at h
          obtain ⟨rfl, hmore⟩ := filter_quotedChar_append_inj hkeep (hs c List.mem_cons_self)
            (ht d List.mem_cons_self) h
          obtain ⟨rfl, hend⟩ := ih (fun x hx => hs x (List.mem_cons_of_mem _ hx))
            (fun x hx => ht x (List.mem_cons_of_mem _ hx)) hmore
          exact ⟨rfl, hend⟩

/-- A character that is not kept leaves no trace in quotes. -/
lemma filter_flatMap_quotedChar (s : List Char) :
    (s.flatMap quotedChar).filter keep = ((s.filter keep).flatMap quotedChar).filter keep := by
  induction s with
  | nil => rfl
  | cons c s ih =>
      rw [List.flatMap_cons, List.filter_append, ih]
      by_cases hc : keep c = true
      · rw [List.filter_cons_of_pos hc, List.flatMap_cons, List.filter_append]
      · have hlayout : Text.isLayout c = true := by
          by_contra hsign
          exact hc (hkeep c (by simpa using hsign))
        have hnul : c ≠ '\x00' := by
          rintro rfl
          exact absurd hlayout (by decide)
        have hquoted : quotedChar c = [c] := by
          rcases quotedChar_cases hnul with ⟨rfl | rfl, _⟩ | ⟨_, hquoted⟩
          · exact absurd hlayout (by decide)
          · exact absurd hlayout (by decide)
          · exact hquoted
        rw [List.filter_cons_of_neg hc, hquoted]
        simp [hc]

lemma filter_quoted (s : String) :
    (quoted s).filter keep =
      '\x27' :: (((s.toList.filter keep).flatMap quotedChar).filter keep ++ ['\x27']) := by
  have hquote : keep '\x27' = true := hkeep _ rfl
  simp [quoted, hquote, filter_flatMap_quotedChar hkeep s.toList]

lemma quoted_append_inj {s t : String} {rest other : List Char} (hrest : EndsCode rest)
    (hother : EndsCode other) (h : (quoted s).filter keep ++ rest = (quoted t).filter keep ++ other) :
    keptText keep s = keptText keep t ∧ rest = other := by
  rw [filter_quoted hkeep, filter_quoted hkeep] at h
  simp only [List.cons_append, List.append_assoc, List.cons.injEq, true_and] at h
  have hkept : ∀ l : List Char, ∀ c ∈ l.filter keep, keep c = true := fun l c hc => (List.mem_filter.1 hc).2
  obtain ⟨htext, hend⟩ := flatMap_quotedChar_append_inj hkeep (hkept _) (hkept _) hrest hother h
  exact ⟨congrArg String.ofList htext, hend⟩

end

/-! ## First characters -/

/-- What the first character of a code stands for: a digit and a minus sign for an integer, anything else
for itself. -/
def openingOf (c : Char) : Char :=
  if c.isDigit || c == '-' then '0' else c

/-- What stands for the form of a value: the opening of its code, if it is no float. -/
def Value.mark : Value → Char
  | .null => 'N'
  | .bool true => 't'
  | .bool false => 'f'
  | .int _ => '0'
  | .float _ => '.'
  | .text _ => '\x27'
  | .array _ => 'a'

lemma exists_cons_decimalText (i : Int) : ∃ c t, decimalText i = c :: t ∧ openingOf c = '0' := by
  unfold decimalText
  split
  · exact ⟨'-', _, rfl, rfl⟩
  · obtain ⟨c, t, hcons⟩ := List.exists_cons_of_ne_nil (Nat.toDigits_ne_nil (n := i.natAbs) (b := 10))
    have hdigit : c.isDigit = true := isDigit_of_mem_toDigits (hcons ▸ List.mem_cons_self)
    exact ⟨c, t, hcons, by simp [openingOf, hdigit]⟩

lemma exists_cons_intCode (i : Int64) : ∃ c t, intCode i = c :: t ∧ openingOf c = '0' := by
  unfold intCode
  split
  · obtain ⟨c, t, hcons, hopening⟩ := exists_cons_decimalText (i.toInt + 1)
    exact ⟨c, t ++ ['-', '1'], by rw [hcons, List.cons_append], hopening⟩
  · exact exists_cons_decimalText i.toInt

lemma Key.code_eq_codeAt (key : Key) : key.code = key.toValue.codeAt 0 := by
  cases key <;> rfl

lemma Key.isFloatFree_toValue (key : Key) : key.toValue.isFloatFree = true := by
  cases key <;> rfl

lemma Key.isArray_toValue (key : Key) : key.toValue.isArray = false := by
  cases key <;> rfl

/-- What stands between the arrow of an entry and its value. -/
def blankBefore (depth : Nat) (value : Value) : List Char :=
  ' ' :: if value.isArray then '\n' :: Value.indent (depth + 1) else []

lemma entriesCode_cons_blank (depth : Nat) (key : Key) (value : Value) (entries : List (Key × Value)) :
    Value.entriesCode depth ((key, value) :: entries) =
      Value.indent (depth + 1) ++ (key.code ++ ([' '] ++ (['=', '>'] ++ (blankBefore depth value ++
        (value.codeAt (depth + 1) ++ ([','] ++ (['\n'] ++ Value.entriesCode depth entries))))))) := by
  rw [entriesCode_cons]
  simp [blankBefore]

section

variable {keep : Char → Bool} (hkeep : KeepsSigns keep)

include hkeep

lemma filter_intCode (i : Int64) : (intCode i).filter keep = intCode i :=
  hkeep.filter_eq_self fun _ => isLayout_of_mem_intCode

lemma filter_codeAt_array (depth : Nat) (entries : List (Key × Value)) :
    (Value.codeAt depth (.array entries)).filter keep = ['a', 'r', 'r', 'a', 'y'] ++ ([' '].filter keep ++
      '(' :: (['\n'].filter keep ++
        ((Value.entriesCode depth entries ++ Value.indent depth).filter keep ++ [')']))) := by
  have hword : (['a', 'r', 'r', 'a', 'y']).filter keep = ['a', 'r', 'r', 'a', 'y'] :=
    hkeep.filter_of_any rfl
  have hopen : keep '(' = true := hkeep _ rfl
  have hclose : keep ')' = true := hkeep _ rfl
  simp only [codeAt_array, List.filter_append, hword, List.filter_cons_of_pos hopen,
    List.filter_cons_of_pos hclose, List.filter_nil, List.append_assoc]

/-- The code of a value without floats starts with a sign, and the sign tells its form. -/
lemma exists_cons_codeAt {v : Value} (hv : v.isFloatFree = true) (depth : Nat) :
    ∃ c t, (v.codeAt depth).filter keep = c :: t ∧ Text.isLayout c = false ∧ openingOf c = v.mark := by
  have hword : ∀ t : List Char, t.any Text.isLayout = false → t.filter keep = t :=
    fun t ht => hkeep.filter_of_any ht
  cases v with
  | null => exact ⟨'N', _, hword ['N', 'U', 'L', 'L'] rfl, rfl, rfl⟩
  | bool b =>
      cases b with
      | true => exact ⟨'t', _, hword ['t', 'r', 'u', 'e'] rfl, rfl, rfl⟩
      | false => exact ⟨'f', _, hword ['f', 'a', 'l', 's', 'e'] rfl, rfl, rfl⟩
  | int i =>
      obtain ⟨c, t, hcons, hopening⟩ := exists_cons_intCode i
      refine ⟨c, t, (filter_intCode hkeep i).trans hcons, ?_, hopening⟩
      exact isLayout_of_mem_intCode (hcons ▸ List.mem_cons_self)
  | float x =>
      rw [Value.isFloatFree] at hv
      cases hv
  | text s => exact ⟨'\x27', _, filter_quoted hkeep s, rfl, rfl⟩
  | array entries => exact ⟨'a', _, filter_codeAt_array hkeep depth entries, rfl, rfl⟩

lemma head_codeAt {v : Value} (hv : v.isFloatFree = true) (depth : Nat) (t : List Char) :
    ∀ c ∈ ((v.codeAt depth).filter keep ++ t).head?, Text.isLayout c = false ∧ openingOf c = v.mark := by
  obtain ⟨c, more, hcons, hsign, hopening⟩ := exists_cons_codeAt hkeep hv depth
  simp [hcons, hsign, hopening]

/-- Values with one code have one form. -/
lemma mark_eq_of_codeAt {v w : Value} {d e : Nat} {t u : List Char} (hv : v.isFloatFree = true)
    (hw : w.isFloatFree = true) (h : (v.codeAt d).filter keep ++ t = (w.codeAt e).filter keep ++ u) :
    v.mark = w.mark := by
  obtain ⟨c, more, hcons, -, hopening⟩ := exists_cons_codeAt hkeep hv d
  obtain ⟨c', more', hcons', -, hopening'⟩ := exists_cons_codeAt hkeep hw e
  rw [hcons, hcons', List.cons_append, List.cons_append, List.cons.injEq] at h
  rw [← hopening, ← hopening', h.1]

/-! ## Values and entries -/

lemma scalar_append_inj {v w : Value} {d e : Nat} {rest other : List Char} (hscalar : v.isArray = false)
    (hv : v.isFloatFree = true) (hw : w.isFloatFree = true) (hrest : EndsCode rest)
    (hother : EndsCode other) (h : (v.codeAt d).filter keep ++ rest = (w.codeAt e).filter keep ++ other) :
    v.keeping keep = w.keeping keep ∧ rest = other := by
  have hmark := mark_eq_of_codeAt hkeep hv hw h
  cases v with
  | null =>
      cases w with
      | null => exact ⟨rfl, List.append_cancel_left h⟩
      | bool b => cases b <;> simp [Value.mark] at hmark
      | _ => simp [Value.mark] at hmark
  | bool b =>
      cases w with
      | bool b' =>
          obtain rfl : b = b' := by
            cases b <;> cases b' <;> simp [Value.mark] at hmark <;> rfl
          have hcode : (Value.bool b).codeAt d = (Value.bool b).codeAt e := by
            cases b <;> rfl
          rw [hcode] at h
          exact ⟨rfl, List.append_cancel_left h⟩
      | _ => cases b <;> simp [Value.mark] at hmark
  | int i =>
      cases w with
      | int j =>
          have hcode : (intCode i).filter keep ++ rest = (intCode j).filter keep ++ other := h
          rw [filter_intCode hkeep, filter_intCode hkeep] at hcode
          obtain ⟨rfl, hend⟩ := intCode_append_inj hrest hother hcode
          exact ⟨rfl, hend⟩
      | bool b => cases b <;> simp [Value.mark] at hmark
      | _ => simp [Value.mark] at hmark
  | float x =>
      rw [Value.isFloatFree] at hv
      cases hv
  | text s =>
      cases w with
      | text t =>
          obtain ⟨htext, hend⟩ := quoted_append_inj hkeep hrest hother h
          exact ⟨congrArg Value.text htext, hend⟩
      | bool b => cases b <;> simp [Value.mark] at hmark
      | _ => simp [Value.mark] at hmark
  | array entries => cases hscalar

lemma key_append_inj {k l : Key} {rest other : List Char} (hrest : EndsCode rest) (hother : EndsCode other)
    (h : k.code.filter keep ++ rest = l.code.filter keep ++ other) :
    k.keeping keep = l.keeping keep ∧ rest = other := by
  rw [Key.code_eq_codeAt, Key.code_eq_codeAt] at h
  obtain ⟨hvalue, hend⟩ := scalar_append_inj hkeep k.isArray_toValue k.isFloatFree_toValue
    l.isFloatFree_toValue hrest hother h
  refine ⟨?_, hend⟩
  cases k <;> cases l <;> simp_all [Key.toValue, Value.keeping, Key.keeping]

/-- A key starts with a sign that does not close an array. -/
lemma head_key (key : Key) (t : List Char) :
    ∀ c ∈ (key.code.filter keep ++ t).head?, Text.isLayout c = false ∧ c ≠ ')' := by
  intro c hc
  rw [Key.code_eq_codeAt] at hc
  obtain ⟨hsign, hopening⟩ := head_codeAt hkeep key.isFloatFree_toValue 0 t c hc
  refine ⟨hsign, ?_⟩
  rintro rfl
  cases key <;> simp [Key.toValue, Value.mark, openingOf] at hopening

omit hkeep in
lemma isLayout_of_mem_blank {blank : List Char} (hblank : ∀ c ∈ blank, c = ' ' ∨ c = '\n') :
    ∀ c ∈ blank.filter keep, Text.isLayout c = true := by
  intro c hc
  rcases hblank c (List.mem_of_mem_filter hc) with rfl | rfl <;> rfl

omit hkeep in
lemma isLayout_of_mem_indent (depth : Nat) :
    ∀ c ∈ (Value.indent depth).filter keep, Text.isLayout c = true :=
  isLayout_of_mem_blank fun _ hc => Or.inl (List.eq_of_mem_replicate hc)

omit hkeep in
lemma isLayout_of_mem_blankBefore (depth : Nat) (value : Value) :
    ∀ c ∈ (blankBefore depth value).filter keep, Text.isLayout c = true := by
  refine isLayout_of_mem_blank fun c hc => ?_
  unfold blankBefore at hc
  split at hc
  · simp only [List.mem_cons] at hc
    rcases hc with rfl | rfl | hc
    · exact Or.inl rfl
    · exact Or.inr rfl
    · exact Or.inl (List.eq_of_mem_replicate hc)
  · exact Or.inl (by simpa using hc)

/-- An entry and all that comes after it in the code of an array, sign by sign. -/
lemma filter_entriesCode_cons (depth : Nat) (key : Key) (value : Value) (entries : List (Key × Value))
    (rest : List Char) :
    (Value.entriesCode depth ((key, value) :: entries) ++ Value.indent depth).filter keep ++ ')' :: rest =
      (Value.indent (depth + 1)).filter keep ++ (key.code.filter keep ++ ([' '].filter keep ++ '=' :: '>' ::
        ((blankBefore depth value).filter keep ++ ((value.codeAt (depth + 1)).filter keep ++ ',' ::
          (['\n'].filter keep ++
            ((Value.entriesCode depth entries ++ Value.indent depth).filter keep ++ ')' :: rest)))))) := by
  have harrow : ['=', '>'].filter keep = ['=', '>'] := hkeep.filter_of_any rfl
  have hcomma : [','].filter keep = [','] := hkeep.filter_of_any rfl
  simp only [entriesCode_cons_blank, List.filter_append, harrow, hcomma]
  simp only [List.append_assoc, List.cons_append, List.nil_append]

omit hkeep in
lemma endsCode_arrow (t : List Char) : EndsCode ([' '].filter keep ++ '=' :: t) := by
  by_cases hspace : keep ' ' = true
  · rw [List.filter_cons_of_pos hspace]
    exact .spacedArrow t
  · rw [List.filter_cons_of_neg hspace]
    exact .arrow t

/-- The parenthesis that closes an array is not the beginning of an entry. -/
lemma close_ne_entry (k : Key) (v : Value) (m : List (Key × Value)) (d e : Nat) (rest other : List Char) :
    (Value.indent d).filter keep ++ ')' :: rest ≠
      (Value.entriesCode e ((k, v) :: m) ++ Value.indent e).filter keep ++ ')' :: other := by
  intro h
  rw [filter_entriesCode_cons hkeep] at h
  have hclose := layout_append_inj (isLayout_of_mem_indent d) (isLayout_of_mem_indent (e + 1)) (by simp; rfl)
    (fun c hc => (head_key hkeep k _ c hc).1) h
  have hhead := congrArg List.head? hclose
  rw [List.head?_cons] at hhead
  exact (head_key hkeep k _ ')' hhead.symm).2 rfl

mutual

/-- A value is read off its code, and what comes after the code is read off as well. -/
theorem codeAt_append_inj : ∀ (v w : Value) (d e : Nat) (rest other : List Char),
    v.isFloatFree = true → w.isFloatFree = true → EndsCode rest → EndsCode other →
    (v.codeAt d).filter keep ++ rest = (w.codeAt e).filter keep ++ other →
    v.keeping keep = w.keeping keep ∧ rest = other
  | .null, _, _, _, _, _, hv, hw, hrest, hother, h => scalar_append_inj hkeep rfl hv hw hrest hother h
  | .bool _, _, _, _, _, _, hv, hw, hrest, hother, h => scalar_append_inj hkeep rfl hv hw hrest hother h
  | .int _, _, _, _, _, _, hv, hw, hrest, hother, h => scalar_append_inj hkeep rfl hv hw hrest hother h
  | .float _, _, _, _, _, _, hv, hw, hrest, hother, h => scalar_append_inj hkeep rfl hv hw hrest hother h
  | .text _, _, _, _, _, _, hv, hw, hrest, hother, h => scalar_append_inj hkeep rfl hv hw hrest hother h
  | .array l, w, d, e, rest, other, hv, hw, hrest, hother, h => by
      have hmark := mark_eq_of_codeAt hkeep hv hw h
      cases w with
      | array m =>
          rw [filter_codeAt_array hkeep, filter_codeAt_array hkeep] at h
          simp only [List.append_assoc, List.cons_append, List.nil_append, List.append_cancel_left_eq,
            List.cons.injEq, true_and] at h
          rw [Value.isFloatFree] at hv hw
          obtain ⟨hentries, hend⟩ := entriesCode_append_inj l m d e rest other hv hw h
          exact ⟨congrArg Value.array hentries, hend⟩
      | bool b => cases b <;> simp [Value.mark] at hmark
      | _ => simp [Value.mark] at hmark

/-- The entries of an array are read off up to the parenthesis that closes it. -/
theorem entriesCode_append_inj : ∀ (l m : List (Key × Value)) (d e : Nat) (rest other : List Char),
    areFloatFree l = true → areFloatFree m = true →
    (Value.entriesCode d l ++ Value.indent d).filter keep ++ ')' :: rest =
      (Value.entriesCode e m ++ Value.indent e).filter keep ++ ')' :: other →
    entriesKeeping keep l = entriesKeeping keep m ∧ rest = other
  | [], [], d, e, rest, other, _, _, h => by
      have hclose := layout_append_inj (isLayout_of_mem_indent d) (isLayout_of_mem_indent e) (by simp; rfl)
        (by simp; rfl) h
      exact ⟨rfl, (List.cons.inj hclose).2⟩
  | [], (k, v) :: m, d, e, rest, other, _, _, h =>
      absurd h (close_ne_entry hkeep k v m d e rest other)
  | (k, v) :: l, [], d, e, rest, other, _, _, h =>
      absurd h.symm (close_ne_entry hkeep k v l e d other rest)
  | (k, v) :: l, (k', v') :: m, d, e, rest, other, hl, hm, h => by
      rw [areFloatFree, Bool.and_eq_true] at hl hm
      rw [filter_entriesCode_cons hkeep, filter_entriesCode_cons hkeep] at h
      have hkeys := layout_append_inj (isLayout_of_mem_indent _) (isLayout_of_mem_indent _)
        (fun c hc => (head_key hkeep k _ c hc).1) (fun c hc => (head_key hkeep k' _ c hc).1) h
      obtain ⟨hkey, harrow⟩ := key_append_inj hkeep (endsCode_arrow _) (endsCode_arrow _) hkeys
      simp only [List.append_cancel_left_eq, List.cons.injEq, true_and] at harrow
      have hvalues := layout_append_inj (isLayout_of_mem_blankBefore _ _) (isLayout_of_mem_blankBefore _ _)
        (fun c hc => (head_codeAt hkeep hl.1 _ _ c hc).1) (fun c hc => (head_codeAt hkeep hm.1 _ _ c hc).1)
        harrow
      obtain ⟨hvalue, hcomma⟩ := codeAt_append_inj v v' (d + 1) (e + 1) _ _ hl.1 hm.1 (.comma _) (.comma _)
        hvalues
      simp only [List.append_cancel_left_eq, List.cons.injEq, true_and] at hcomma
      obtain ⟨hentries, hend⟩ := entriesCode_append_inj l m d e rest other hl.2 hm.2 hcomma
      exact ⟨by rw [entriesKeeping, entriesKeeping, hkey, hvalue, hentries], hend⟩

end

/-! ## What is left out -/

lemma filter_quoted_keptText (s : String) : (quoted (keptText keep s)).filter keep = (quoted s).filter keep := by
  rw [filter_quoted hkeep, filter_quoted hkeep]
  simp [keptText]

lemma filter_code_keeping (key : Key) : (key.keeping keep).code.filter keep = key.code.filter keep := by
  cases key with
  | int i => rfl
  | text s => exact filter_quoted_keptText hkeep s

omit hkeep in
lemma blankBefore_keeping (depth : Nat) (value : Value) :
    blankBefore depth (value.keeping keep) = blankBefore depth value := by
  cases value <;> simp [blankBefore, Value.keeping, Value.isArray]

mutual

/-- What is left out of a code may be left out of the texts in the value before. -/
theorem filter_codeAt_keeping : ∀ (v : Value) (depth : Nat),
    ((v.keeping keep).codeAt depth).filter keep = (v.codeAt depth).filter keep
  | .null, _ => rfl
  | .bool _, _ => rfl
  | .int _, _ => rfl
  | .float _, _ => rfl
  | .text s, _ => filter_quoted_keptText hkeep s
  | .array entries, depth => by
      rw [Value.keeping, filter_codeAt_array hkeep, filter_codeAt_array hkeep, List.filter_append,
        List.filter_append, filter_entriesCode_keeping entries depth]

theorem filter_entriesCode_keeping : ∀ (entries : List (Key × Value)) (depth : Nat),
    (Value.entriesCode depth (entriesKeeping keep entries)).filter keep =
      (Value.entriesCode depth entries).filter keep
  | [], _ => rfl
  | (key, value) :: rest, depth => by
      simp only [entriesKeeping, entriesCode_cons_blank, List.filter_append, blankBefore_keeping,
        filter_code_keeping hkeep key, filter_codeAt_keeping value (depth + 1),
        filter_entriesCode_keeping rest depth]

end

end

/-! ## Both codes -/

/-- Values without floats that have the same code are the same.  They have the same compact code exactly when
they become the same once all layout characters are left out of their texts and of the keys that are
texts. -/
theorem code_tells_apart (v w : Value) (hv : v.isFloatFree = true) (hw : w.isFloatFree = true) :
    (v.code = w.code → v = w) ∧ (v.compactCode = w.compactCode ↔ v.withoutLayout = w.withoutLayout) := by
  have hsigns : KeepsSigns fun c => !Text.isLayout c := by
    intro c hc
    simp [hc]
  refine ⟨fun h => ?_, fun h => ?_, fun h => ?_⟩
  · unfold Value.code at h
    have hcode : (v.codeAt 0).filter (fun _ => true) ++ [] = (w.codeAt 0).filter (fun _ => true) ++ [] := by
      simpa using String.ofList_injective h
    have heq := (codeAt_append_inj (fun _ _ => rfl) v w 0 0 [] [] hv hw .nil .nil hcode).1
    rwa [Value.keeping_true, Value.keeping_true] at heq
  · unfold Value.compactCode at h
    refine (codeAt_append_inj hsigns v w 0 0 [] [] hv hw .nil .nil ?_).1
    simpa using String.ofList_injective h
  · unfold Value.withoutLayout at h
    unfold Value.compactCode
    rw [← filter_codeAt_keeping hsigns v, ← filter_codeAt_keeping hsigns w, h]

/-- An array of two texts. -/
def pairSample : Value :=
  .array [(.int 0, .text "a"), (.int 1, .text "b")]

/-- An array of one text, which looks like the code of two. -/
def mimicSample : Value :=
  .array [(.int 0, .text "a',1=>'b")]

/-- The two arrays differ in both codes, and two texts with a NUL character and a space differ in the longer
one only. -/
theorem code_tells_apart_samples :
    pairSample.isFloatFree = true ∧ mimicSample.isFloatFree = true ∧
      pairSample.code ≠ mimicSample.code ∧ pairSample.compactCode ≠ mimicSample.compactCode ∧
      (Value.text "a \x00b").code ≠ (Value.text "a\x00 b").code ∧
      (Value.text "a \x00b").compactCode = (Value.text "a\x00 b").compactCode := by
  have hpair : pairSample.isFloatFree = true := rfl
  have hmimic : mimicSample.isFloatFree = true := rfl
  obtain ⟨hcode, hcompact⟩ := code_tells_apart pairSample mimicSample hpair hmimic
  obtain ⟨hcode', hcompact'⟩ := code_tells_apart (.text "a \x00b") (.text "a\x00 b") rfl rfl
  refine ⟨hpair, hmimic, fun h => ?_, fun h => ?_, fun h => ?_, hcompact'.2 ?_⟩
  · simpa [pairSample, mimicSample] using hcode h
  · simpa [pairSample, mimicSample, Value.withoutLayout, Value.keeping, entriesKeeping] using hcompact.1 h
  · simpa using hcode' h
  · exact congrArg Value.text (by decide)

end PhpInterface
