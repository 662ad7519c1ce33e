import PhpInterface.Proofs.LooseNames

/-!
# Reading what is written

`Proofs.Readers` says what can be known of a text that a reader has taken.  Here it is the other way round:
the text is given, and the question is what a reader makes of it.  A lemma of this kind says that the reader
gives a result and hands back exactly the rest, for every rest that does not go on with the last token; or
that it refuses, so that the next alternative is tried.

Every token takes the gap before it.  So a text is cut into tokens with the blanks in front of them: a run
of blanks (`IsBlankText`) and a text at which no gap starts (`Solid`).
-/

namespace PhpInterface

namespace Reader

variable {α β : Type} {x : Reader α} {f : α → Reader β} {s rest : List Char} {a : α}

/-! ## Chains and choices -/

lemma bind_of_eq (h : x s = some (a, rest)) : (x >>= f) s = f a rest := by
  have hbind : (x >>= f) s = (x s).bind fun p => f p.1 p.2 := rfl
  rw [hbind, h, Option.bind_some]

lemma bind_of_refused (h : x s = none) : (x >>= f) s = none := by
  have hbind : (x >>= f) s = (x s).bind fun p => f p.1 p.2 := rfl
  rw [hbind, h, Option.bind_none]

@[simp] lemma pure_eq (a : α) (s : List Char) : (pure a : Reader α) s = some (a, s) := rfl

lemma map_of_eq {g : α → β} (h : x s = some (a, rest)) : (g <$> x) s = some (g a, rest) := by
  rw [map_eq_pure_bind, bind_of_eq h]
  rfl

lemma map_of_refused {g : α → β} (h : x s = none) : (g <$> x) s = none := by
  rw [map_eq_pure_bind, bind_of_refused h]

lemma optional?_of_eq (h : x s = some (a, rest)) : optional? x s = some (some a, rest) := by
  rw [optional?, h]

lemma optional?_of_refused (h : x s = none) : optional? x s = some (none, s) := by
  rw [optional?, h]

lemma found_of_eq (h : x s = some (a, rest)) : found x s = some (true, rest) :=
  bind_of_eq (optional?_of_eq h)

lemma found_of_refused (h : x s = none) : found x s = some (false, s) :=
  bind_of_eq (optional?_of_refused h)

lemma sees_of_eq (h : x s = some (a, rest)) : sees x s = some (true, s) := by
  rw [sees, h, Option.isSome_some]

lemma sees_of_refused (h : x s = none) : sees x s = some (false, s) := by
  rw [sees, h, Option.isSome_none]

lemma oneOf_of_eq {more : List (Reader α)} (h : x s = some (a, rest)) :
    oneOf (x :: more) s = some (a, rest) := by
  rw [oneOf]
  dsimp only
  rw [h]

lemma oneOf_of_refused {more : List (Reader α)} (h : x s = none) :
    oneOf (x :: more) s = oneOf more s := by
  rw [oneOf]
  dsimp only
  rw [h]

lemma oneOf_eq_none {l : List (Reader α)} (h : ∀ x ∈ l, x s = none) : oneOf l s = none := by
  induction l with
  | nil => rfl
  | cons x l ih =>
      rw [oneOf_of_refused (h x List.mem_cons_self)]
      exact ih fun y hy => h y (List.mem_cons_of_mem _ hy)

lemma foundIf_of_refused (h : x s = none) (condition : Bool) : foundIf condition x s = some (false, s) := by
  cases condition with
  | false => rfl
  | true => exact found_of_refused h

lemma require_of_true {condition : Bool} (h : condition = true) : require condition s = some ((), s) := by
  rw [h]
  rfl

lemma require_of_false {condition : Bool} (h : condition = false) : require condition s = none := by
  rw [h]
  rfl

@[simp] lemma oneOf_nil : oneOf ([] : List (Reader α)) s = none := rfl

@[simp] lemma oneOf_singleton : oneOf [x] s = x s := by
  cases h : x s with
  | none => rw [oneOf_of_refused h, oneOf_nil]
  | some result => exact oneOf_of_eq h

lemma repeated_of_refused (h : x s = none) : repeated x s = ([], s) := by
  rw [repeated, h]

lemma repeated_of_eq (h : x s = some (a, rest)) (hlt : rest.length < s.length) :
    repeated x s = (a :: (repeated x rest).1, (repeated x rest).2) := by
  rw [repeated, h]
  exact dif_pos hlt

/-- A repetition stops where nothing is taken. -/
lemma repeated_of_not_lt (h : x s = some (a, rest)) (hlt : ¬ rest.length < s.length) :
    repeated x s = ([], s) := by
  rw [repeated, h]
  exact dif_neg hlt

lemma many_of_refused (h : x s = none) : many x s = some ([], s) :=
  congrArg some (repeated_of_refused h)

lemma many_of_eq {l : List α} {last : List Char} (h : x s = some (a, rest))
    (hlt : rest.length < s.length) (hmore : many x rest = some (l, last)) :
    many x s = some (a :: l, last) := by
  have hrepeated : repeated x rest = (l, last) := Option.some.inj hmore
  rw [many, repeated_of_eq h hlt, hrepeated]

/-- A text that is made of pieces.  The reader takes each of them before all that may follow a piece. -/
lemma many_flatMap {ι : Type} {l : List ι} {text : ι → List Char} {g : ι → α} {Q : List Char → Prop}
    (h : ∀ i ∈ l, text i ≠ [] ∧ (∀ rest, Q (text i ++ rest)) ∧
      ∀ rest, Q rest → x (text i ++ rest) = some (g i, rest))
    (hlast : x rest = none) (hrest : Q rest) : many x (l.flatMap text ++ rest) = some (l.map g, rest) := by
  have hall : Q (l.flatMap text ++ rest) ∧ many x (l.flatMap text ++ rest) = some (l.map g, rest) := by
    induction l with
    | nil => exact ⟨hrest, many_of_refused hlast⟩
    | cons i l ih =>
        obtain ⟨hne, hstart, hread⟩ := h i List.mem_cons_self
        obtain ⟨hmore, hmany⟩ := ih fun j hj => h j (List.mem_cons_of_mem _ hj)
        rw [List.flatMap_cons, List.append_assoc]
        refine ⟨hstart _, many_of_eq (hread _ hmore) ?_ hmany⟩
        have hpos := List.length_pos_iff.2 hne
        simp only [List.length_append]
        omega
  exact hall.2

/-- Items with separators between them, from the same items with a separator before each. -/
lemma sepBy1_of_many {sep : Reader β} {b : β} {l : List α} {last : List Char}
    (hsep : sep s = some (b, rest)) (h : many (do let _ ← sep; x) s = some (l, last)) (hl : l ≠ []) :
    sepBy1 x sep rest = some (l, last) := by
  rw [many, repeated] at h
  split at h
  · cases h
    exact absurd rfl hl
  · next first after hx =>
    rw [bind_of_eq hsep] at hx
    split at h
    · cases h
      rw [sepBy1, bind_of_eq hx]
      rfl
    · cases h
      exact absurd rfl hl

lemma spelled_of_eq {t : List Char} (h : x (t ++ rest) = some (a, rest)) :
    spelled x (t ++ rest) = some ((a, t), rest) := by
  rw [spelled, h]
  simp

lemma spelled_of_refused (h : x s = none) : spelled x s = none := by
  rw [spelled, h]

/-! ## Characters -/

@[simp] lemma char_cons (c : Char) : char c (c :: s) = some ((), s) :=
  if_pos rfl

lemma char_of_refused {c : Char} (h : ∀ d ∈ s.head?, d ≠ c) : char c s = none := by
  cases s with
  | nil => rfl
  | cons d s => exact if_neg (h d rfl)

lemma exactly_append (t : List Char) : exactly t (t ++ s) = some ((), s) := by
  induction t with
  | nil => rfl
  | cons c t ih => rw [List.cons_append, exactly, if_pos rfl, ih]

lemma exactly_of_refused {c : Char} {t : List Char} (h : ∀ d ∈ s.head?, d ≠ c) :
    exactly (c :: t) s = none := by
  cases s with
  | nil => rfl
  | cons d s => exact if_neg (h d rfl)

lemma one_cons {p : Char → Bool} {c : Char} (h : p c = true) : one p (c :: s) = some (c, s) :=
  if_pos h

lemma one_of_refused {p : Char → Bool} (h : ∀ c ∈ s.head?, p c = false) : one p s = none := by
  cases s with
  | nil => rfl
  | cons c s =>
      have hc := h c rfl
      rw [one, hc]
      rfl

/-- A run of characters of a class ends where another character follows. -/
lemma run_append {p : Char → Bool} {t : List Char} (ht : ∀ c ∈ t, p c = true)
    (hs : ∀ c ∈ s.head?, p c = false) : run p (t ++ s) = some (t, s) := by
  have hstop : s.takeWhile p = [] ∧ s.dropWhile p = s := by
    cases s with
    | nil => exact ⟨rfl, rfl⟩
    | cons c s =>
        have hc := hs c rfl
        exact ⟨by rw [List.takeWhile_cons, hc]; rfl, by rw [List.dropWhile_cons, hc]; rfl⟩
  rw [run, List.takeWhile_append_of_pos ht, List.dropWhile_append_of_pos ht, hstop.1, hstop.2,
    List.append_nil]

end Reader

namespace Source

open Reader

/-! ## Classes of characters

The classes by the numbers of their characters, so that arithmetic tells which of them meet. -/

section

variable {c : Char}

lemma isAlpha_iff :
    c.isAlpha = true ↔ (65 ≤ c.toNat ∧ c.toNat ≤ 90) ∨ (97 ≤ c.toNat ∧ c.toNat ≤ 122) := by
  have hupper : c.isUpper = decide (c.val ≥ 'A'.val ∧ c.val ≤ 'Z'.val) := rfl
  have hlower : c.isLower = (decide (c.val ≥ 'a'.val) && decide (c.val ≤ 'z'.val)) := rfl
  have halpha : c.isAlpha = (c.isUpper || c.isLower) := rfl
  simp only [halpha, hupper, hlower, ge_iff_le, Bool.or_eq_true, Bool.and_eq_true, decide_eq_true_eq,
    UInt32.le_iff_toNat_le]
  exact Iff.rfl

lemma eq_iff_toNat (d : Char) : c = d ↔ c.toNat = d.toNat :=
  Char.toNat_inj.symm

lemma isSeparator_iff :
    isSeparator c = true ↔ (9 ≤ c.toNat ∧ c.toNat ≤ 13) ∨ c.toNat = 32 ∨ c.toNat = 0xA0 ∨
      c.toNat = 0x200B ∨ c.toNat = 0x2060 ∨ c.toNat = 0xFEFF := by
  have hspace : ' '.toNat = 32 := rfl
  simp only [isSeparator, isAsciiBlank, Bool.or_eq_true, Bool.and_eq_true, beq_iff_eq,
    decide_eq_true_eq, eq_iff_toNat, hspace]
  omega

lemma isWordStart_iff :
    isWordStart c = true ↔ c.toNat = 95 ∨ (65 ≤ c.toNat ∧ c.toNat ≤ 90) ∨
      (97 ≤ c.toNat ∧ c.toNat ≤ 122) ∨
      (0x80 ≤ c.toNat ∧ c.toNat ≤ 0xFFFF ∧ ¬ isSeparator c = true) := by
  have hline : '_'.toNat = 95 := rfl
  simp only [isWordStart, Bool.or_eq_true, Bool.and_eq_true, beq_iff_eq, decide_eq_true_eq,
    Bool.not_eq_true', ← Bool.not_eq_true, eq_iff_toNat, hline, isAlpha_iff]
  tauto

lemma isWordPart_iff :
    isWordPart c = true ↔ isWordStart c = true ∨ (48 ≤ c.toNat ∧ c.toNat ≤ 57) := by
  rw [isWordPart, Bool.or_eq_true, Char.isDigit_iff_toNat]
  exact Iff.rfl

lemma isWordPart_of_isSeparator (h : isSeparator c = true) : isWordPart c = false := by
  rw [isSeparator_iff] at h
  rw [← Bool.not_eq_true, isWordPart_iff, isWordStart_iff, isSeparator_iff]
  omega

lemma opensGap_of_isWordStart (h : isWordStart c = true) : opensGap c = false := by
  have hslash : '/'.toNat = 47 := rfl
  have hhash : '#'.toNat = 35 := rfl
  have hmark : '?'.toNat = 63 := rfl
  rw [isWordStart_iff, isSeparator_iff] at h
  rw [← Bool.not_eq_true, opensGap, isSpacing]
  simp only [Bool.or_eq_true, beq_iff_eq, eq_iff_toNat, isSeparator_iff]
  omega

end

/-! ## Gaps -/

/-- No gap starts here. -/
def Solid (s : List Char) : Prop :=
  ∀ p attributes, gapPart p attributes s = none

/-- Blanks only. -/
def IsBlankText (b : List Char) : Prop :=
  ∀ c ∈ b, isSeparator c = true

instance (b : List Char) : Decidable (IsBlankText b) :=
  decidable_of_iff (b.all isSeparator = true) List.all_eq_true

variable {b s rest : List Char} {p : Position} {c : Char}

lemma solid_nil : Solid [] := fun _ _ => rfl

lemma page_of_ne (h : c ≠ '?') : page (c :: s) = none := by
  unfold page
  split
  · next heq =>
    cases heq
    exact absurd rfl h
  · rfl

lemma comment_of_ne (hslash : c ≠ '/') (hhash : c ≠ '#') : comment (c :: s) = none := by
  unfold comment
  split
  all_goals first
    | rfl
    | next heq =>
      cases heq
      first
        | exact absurd rfl hslash
        | exact absurd rfl hhash

lemma solid_cons (h : opensGap c = false) : Solid (c :: s) := by
  simp only [opensGap, isSpacing, Bool.or_eq_false_iff, beq_eq_false_iff_ne] at h
  obtain ⟨⟨⟨hblank, hslash⟩, hhash⟩, hmark⟩ := h
  intro p attributes
  unfold gapPart
  dsimp only
  rw [hblank, page_of_ne hmark, comment_of_ne hslash hhash, if_neg Bool.false_ne_true]
  split
  · rfl
  · cases p <;> rfl

/-- A question mark starts no gap unless it starts a closing tag. -/
lemma solid_mark (h : s.head? ≠ some '>') : Solid ('?' :: s) := by
  have hpage : page ('?' :: s) = none := by
    unfold page
    split
    · next heq =>
      cases heq
      exact absurd rfl h
    · rfl
  intro p attributes
  unfold gapPart
  dsimp only
  rw [hpage, comment_of_ne (by decide) (by decide)]
  cases p <;> cases attributes <;> rfl

lemma gapParts_of_refused {attributes : Bool} (h : gapPart p attributes s = none) :
    gapParts p attributes s = ([], s) := by
  rw [gapParts]
  split
  · rfl
  · next hpart =>
    rw [h] at hpart
    cases hpart

lemma gapParts_of_solid (hs : Solid s) (attributes : Bool) : gapParts p attributes s = ([], s) :=
  gapParts_of_refused (hs p attributes)

/-- What a gap of blanks only is made of. -/
def blankParts (b : List Char) : List GapPart :=
  if b.isEmpty then [] else [.blank]

lemma pages_append (a b : List GapPart) : pages (a ++ b) = pages a ++ pages b :=
  List.filterMap_append

@[simp] lemma pages_blankParts : pages (blankParts b) = [] := by
  cases b <;> rfl

@[simp] lemma lastComment?_blankParts : lastComment? (blankParts b) = none := by
  cases b <;> rfl

lemma head_of_solid (hs : Solid s) : ∀ c ∈ s.head?, isSeparator c = false := by
  intro c hc
  cases s with
  | nil => cases hc
  | cons d s =>
      cases hc
      by_contra hblank
      rw [Bool.not_eq_false] at hblank
      have hpart := hs .inner false
      unfold gapPart at hpart
      dsimp only at hpart
      rw [if_pos hblank] at hpart
      cases hpart

/-- A blank is taken with all blanks after it. -/
lemma gapPart_blank (hb : IsBlankText (c :: b)) (hs : ∀ d ∈ s.head?, isSeparator d = false)
    (attributes : Bool) : gapPart p attributes (c :: b ++ s) = some (.blank, s) := by
  have hrun := run_append (fun d hd => hb d (List.mem_cons_of_mem _ hd)) hs
  have hdrop : (b ++ s).dropWhile isSeparator = s := congrArg Prod.snd (Option.some.inj hrun)
  unfold gapPart
  rw [List.cons_append]
  dsimp only
  rw [if_pos (hb c List.mem_cons_self), hdrop]

lemma gapParts_cons {part : GapPart} {attributes : Bool} (h : gapPart p attributes s = some (part, rest)) :
    gapParts p attributes s =
      (part :: (gapParts p attributes rest).1, (gapParts p attributes rest).2) := by
  rw [gapParts]
  split
  · next hnone =>
    rw [h] at hnone
    cases hnone
  · next hsome =>
    rw [h] at hsome
    cases hsome
    rfl

/-- The blanks that a gap starts with are one part of it. -/
lemma gapParts_append (hb : IsBlankText b) (hs : ∀ d ∈ s.head?, isSeparator d = false) (attributes : Bool) :
    gapParts p attributes (b ++ s) =
      (blankParts b ++ (gapParts p attributes s).1, (gapParts p attributes s).2) := by
  cases b with
  | nil => rfl
  | cons c b =>
      rw [gapParts_cons (gapPart_blank hb hs attributes)]
      rfl

lemma gapParts_blank (hb : IsBlankText b) (hs : Solid s) (attributes : Bool) :
    gapParts p attributes (b ++ s) = (blankParts b, s) := by
  rw [gapParts_append hb (head_of_solid hs), gapParts_of_solid hs, List.append_nil]

lemma gapAt_blank (hb : IsBlankText b) (hs : Solid s) : gapAt p (b ++ s) = some (blankParts b, s) := by
  rw [gapAt, gapParts_blank hb hs]

lemma openGap_blank (hb : IsBlankText b) (hs : Solid s) :
    openGap (b ++ s) = some (blankParts b, s) := by
  rw [openGap, gapParts_blank hb hs]

lemma isBlankText_nil : IsBlankText [] := by
  simp [IsBlankText]

lemma IsBlankText.append {b b' : List Char} (hb : IsBlankText b) (hb' : IsBlankText b') :
    IsBlankText (b ++ b') := by
  intro c hc
  rcases List.mem_append.1 hc with hc | hc
  · exact hb c hc
  · exact hb' c hc

/-- A text that is made of pieces with blanks after them.  The blanks after the last piece are left for
whatever is read next. -/
lemma many_pieces {α ι : Type} {x : Reader α} {l : List ι} {text blank : ι → List Char} {g : ι → α}
    (h : ∀ i ∈ l, text i ≠ [] ∧ IsBlankText (blank i) ∧
      ∀ b rest, IsBlankText b → x (b ++ (text i ++ rest)) = some (g i, rest))
    (hb : IsBlankText b) :
    ∃ b', IsBlankText b' ∧ ∀ more last, many x (b' ++ s) = some (more, last) →
      many x (b ++ (l.flatMap (fun i => text i ++ blank i) ++ s)) = some (l.map g ++ more, last) := by
  induction l generalizing b with
  | nil => exact ⟨b, hb, fun more last hmore => hmore⟩
  | cons i l ih =>
      obtain ⟨hne, hblank, hread⟩ := h i List.mem_cons_self
      obtain ⟨b', hb', hmany⟩ := ih (fun j hj => h j (List.mem_cons_of_mem _ hj)) hblank
      refine ⟨b', hb', fun more last hmore => ?_⟩
      rw [List.flatMap_cons, List.append_assoc, List.append_assoc]
      refine many_of_eq (hread _ _ hb) ?_ (hmany more last hmore)
      have hpos := List.length_pos_iff.2 hne
      simp only [List.length_append]
      omega

/-! ## Symbols -/

lemma symbolAt_of_eq {t : List Char} {text : String} (htext : text.toList = t) (hb : IsBlankText b)
    (hs : Solid (t ++ rest)) : symbolAt p text (b ++ (t ++ rest)) = some ((), rest) := by
  rw [symbolAt, bind_of_eq (gapAt_blank hb hs), htext, exactly_append]

lemma symbolAt_of_refused {text : String} (hb : IsBlankText b) (hs : Solid s)
    (h : exactly text.toList s = none) : symbolAt p text (b ++ s) = none := by
  rw [symbolAt, bind_of_eq (gapAt_blank hb hs), h]

/-- A symbol of one character that stands at the front. -/
lemma symbolAt_cons {text : String} (htext : text.toList = [c]) (hc : opensGap c = false) :
    symbolAt p text (c :: s) = some ((), s) :=
  symbolAt_of_eq (b := []) htext isBlankText_nil (solid_cons hc)

/-- Another character stands at the front. -/
lemma symbolAt_cons_of_refused {text : String} (hc : opensGap c = false)
    (h : exactly text.toList (c :: s) = none) : symbolAt p text (c :: s) = none :=
  symbolAt_of_refused (b := []) isBlankText_nil (solid_cons hc) h

/-! ## Words -/

/-- The text is a word. -/
def isWord : List Char → Bool
  | [] => false
  | c :: rest => isWordStart c && rest.all isWordPart

/-- The text does not go on with a word. -/
def EndsWord (s : List Char) : Prop :=
  ∀ c ∈ s.head?, isWordPart c = false

lemma EndsWord.blank (hb : IsBlankText b) (hs : EndsWord s) : EndsWord (b ++ s) := by
  cases b with
  | nil => exact hs
  | cons d b =>
      rintro c ⟨⟩
      exact isWordPart_of_isSeparator (hb d List.mem_cons_self)

lemma endsWord_cons (h : isWordPart c = false) : EndsWord (c :: s) := by
  rintro d ⟨⟩
  exact h

variable {w : List Char}

lemma rawWord_append (hw : isWord w = true) (hs : EndsWord s) : rawWord (w ++ s) = some (w, s) := by
  cases w with
  | nil => cases hw
  | cons c w =>
      rw [isWord, Bool.and_eq_true, List.all_eq_true] at hw
      rw [rawWord, List.cons_append, bind_of_eq (one_cons hw.1), bind_of_eq (run_append hw.2 hs)]
      rfl

lemma rawWord_of_refused (h : ∀ c ∈ s.head?, isWordStart c = false) : rawWord s = none :=
  bind_of_refused (one_of_refused h)

lemma rawWord_cons_of_false (h : isWordStart c = false) : rawWord (c :: s) = none := by
  refine rawWord_of_refused ?_
  rintro d ⟨⟩
  exact h

lemma head?_word (hw : isWord w = true) : ∀ c ∈ (w ++ s).head?, isWordStart c = true := by
  cases w with
  | nil => cases hw
  | cons c w =>
      rw [isWord, Bool.and_eq_true] at hw
      rintro d ⟨⟩
      exact hw.1

lemma solid_word (hw : isWord w = true) : Solid (w ++ s) := by
  cases w with
  | nil => cases hw
  | cons c w =>
      rw [isWord, Bool.and_eq_true] at hw
      exact solid_cons (opensGap_of_isWordStart hw.1)

/-- A mark does not stand before a word. -/
lemma symbolAt_word_refused {mark : String} {more : List Char} (hmark : mark.toList = c :: more)
    (hc : isWordStart c = false) (hb : IsBlankText b) (hw : isWord w = true) :
    symbolAt p mark (b ++ (w ++ s)) = none := by
  refine symbolAt_of_refused hb (solid_word hw) ?_
  rw [hmark]
  refine exactly_of_refused ?_
  rintro d hd rfl
  rw [head?_word hw d hd] at hc
  cases hc

lemma word_append (hb : IsBlankText b) (hw : isWord w = true) (hs : EndsWord s) :
    word (b ++ (w ++ s)) = some (w, s) := by
  rw [word, gap, bind_of_eq (gapAt_blank hb (solid_word hw)), rawWord_append hw hs]

lemma word_of_refused (hb : IsBlankText b) (hs : Solid s) (h : rawWord s = none) :
    word (b ++ s) = none := by
  rw [word, gap, bind_of_eq (gapAt_blank hb hs), h]

lemma nextWord_append (hw : isWord w = true) (hs : EndsWord s) :
    nextWord (w ++ s) = some (w, w ++ s) := by
  rw [nextWord, rawWord_append hw hs]

lemma nextWord_of_refused (h : rawWord s = none) : nextWord s = some ([], s) := by
  rw [nextWord, h]

lemma nextWord_eq_some {rest : List Char} (h : nextWord s = some (w, rest)) : rest = s := by
  unfold nextWord at h
  split at h <;>
  · cases h
    rfl

/-! ## Names -/

/-- The rest of a name: words, each after a separator. -/
lemma segments_flatMap {ws : List (List Char)} (hws : ∀ w ∈ ws, isWord w = true) (hs : EndsWord s)
    (hend : symbolAt p "\\" s = none) :
    segments p (ws.flatMap (fun w => '\\' :: w) ++ s) = some ((), s) := by
  refine bind_of_eq (many_flatMap (Q := EndsWord) (g := id) (fun w hw => ⟨List.cons_ne_nil _ _, ?_, ?_⟩)
    (bind_of_refused hend) hs)
  · intro rest
    exact endsWord_cons (by decide)
  · intro rest hrest
    have hsymbol : symbolAt p "\\" ('\\' :: w ++ rest) = some ((), w ++ rest) :=
      symbolAt_cons rfl rfl
    rw [bind_of_eq hsymbol]
    exact word_append (b := []) isBlankText_nil (hws w hw) hrest

lemma rootedWords_refused (h : ∀ c ∈ s.head?, c ≠ '\\') : rootedWords p s = none :=
  bind_of_refused (char_of_refused h)

lemma rootedWords_of_isWord (hw : isWord w = true) : rootedWords p (w ++ s) = none := by
  refine rootedWords_refused ?_
  rintro c hc rfl
  cases head?_word hw _ hc

variable {ws : List (List Char)}

lemma endsWord_segments (hs : EndsWord s) : EndsWord (ws.flatMap (fun v => '\\' :: v) ++ s) := by
  cases ws with
  | nil => exact hs
  | cons v ws => exact endsWord_cons (by decide)

lemma nameWords_eq (hw : isWord w = true) (hws : ∀ v ∈ ws, isWord v = true) (hs : EndsWord s)
    (hend : symbolAt p "\\" s = none) :
    nameWords p (w ++ (ws.flatMap (fun v => '\\' :: v) ++ s)) = some ((), s) := by
  rw [nameWords, oneOf_of_refused (rootedWords_of_isWord hw), oneOf_singleton,
    bind_of_eq (rawWord_append hw (endsWord_segments hs)), segments_flatMap hws hs hend]

lemma classWords_eq (hw : isWord w = true) (hrelative : isRelativeWord w = false)
    (hws : ∀ v ∈ ws, isWord v = true) (hs : EndsWord s) (hend : symbolAt p "\\" s = none) :
    classWords p (w ++ (ws.flatMap (fun v => '\\' :: v) ++ s)) = some ((), s) := by
  rw [classWords, oneOf_of_refused (rootedWords_of_isWord hw), oneOf_singleton,
    bind_of_eq (rawWord_append hw (endsWord_segments hs)), hrelative, if_neg Bool.false_ne_true,
    segments_flatMap hws hs hend]

lemma name_refused (hb : IsBlankText b) (hs : Solid s) (hroot : ∀ c ∈ s.head?, c ≠ '\\')
    (hword : rawWord s = none) : name p (b ++ s) = none := by
  have hwords : nameWords p s = none := by
    rw [nameWords, oneOf_of_refused (rootedWords_refused hroot), oneOf_singleton, bind_of_refused hword]
  rw [name, gap, bind_of_eq (gapAt_blank hb hs), bind_of_refused (spelled_of_refused hwords)]

/-! ## Keywords -/

variable {k : String} {ks : List String}

lemma keywordAt_of_eq (hb : IsBlankText b) (hw : isWord w = true) (hs : EndsWord s)
    (hk : smallForm w = k) : keywordAt p k (b ++ (w ++ s)) = some ((), s) := by
  rw [keywordAt, bind_of_eq (gapAt_blank hb (solid_word hw)), bind_of_eq (rawWord_append hw hs),
    require_of_true (by rw [hk, beq_self_eq_true])]

lemma keywordAt_of_ne (hb : IsBlankText b) (hw : isWord w = true) (hs : EndsWord s)
    (hk : smallForm w ≠ k) : keywordAt p k (b ++ (w ++ s)) = none := by
  rw [keywordAt, bind_of_eq (gapAt_blank hb (solid_word hw)), bind_of_eq (rawWord_append hw hs),
    require_of_false (beq_eq_false_iff_ne.2 hk)]

lemma keywordAt_of_refused (hb : IsBlankText b) (hs : Solid s) (h : rawWord s = none) :
    keywordAt p k (b ++ s) = none := by
  rw [keywordAt, bind_of_eq (gapAt_blank hb hs), bind_of_refused h]

lemma keywordOf_of_eq (hb : IsBlankText b) (hw : isWord w = true) (hs : EndsWord s)
    (hk : smallForm w = k) (hmem : ks.contains k = true) :
    keywordOf ks (b ++ (w ++ s)) = some (k, s) := by
  rw [keywordOf, bind_of_eq (word_append hb hw hs), hk, bind_of_eq (require_of_true hmem)]
  rfl

lemma keywordOf_of_not_mem (hb : IsBlankText b) (hw : isWord w = true) (hs : EndsWord s)
    (hmem : ks.contains (smallForm w) = false) : keywordOf ks (b ++ (w ++ s)) = none := by
  rw [keywordOf, bind_of_eq (word_append hb hw hs), bind_of_refused (require_of_false hmem)]

lemma keywordOf_of_refused (hb : IsBlankText b) (hs : Solid s) (h : rawWord s = none) :
    keywordOf ks (b ++ s) = none := by
  rw [keywordOf, bind_of_refused (word_of_refused hb hs h)]

lemma semicolon_of_eq (hb : IsBlankText b) : semicolon (b ++ ';' :: rest) = some ((), rest) := by
  rw [semicolon, bind_of_eq (gapAt_blank hb (solid_cons rfl)), oneOf_of_eq (char_cons ';')]

end Source

end PhpInterface
