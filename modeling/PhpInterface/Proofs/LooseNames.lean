import PhpInterface.Proofs.Names
import PhpInterface.Proofs.Readers
import PhpInterface.Source.Word

/-!
# Names with gaps in them

A name in a source file is kept as it is written: its words, the backslashes between them, and all gaps in
between.  Such a text is called *loose* here, and what the readers of names take is always loose
(`takes_nameWords`, `takes_classWords`).

A gap starts with a blank, with a character that opens a comment, or with the question mark that opens a
page.  So a loose name without these characters has no gaps, and is segments with separators between them,
with one separator more in front at most (`isNameText_of_unbroken`).
-/

namespace PhpInterface.Source

open Reader

/-! ## Gaps -/

/-- White space, or a character that a comment starts with. -/
def isSpacing (c : Char) : Bool :=
  isSeparator c || c == '/' || c == '#'

/-- A character that a gap can start with: spacing, or the question mark of a closing tag. -/
def opensGap (c : Char) : Bool :=
  isSpacing c || c == '?'

/-- A text that starts like a gap. -/
def StartsGap (t : List Char) : Prop :=
  ∃ c rest, t = c :: rest ∧ opensGap c = true

lemma append_lineCommentRest (s : List Char) : (lineCommentRest s).1 ++ (lineCommentRest s).2 = s := by
  fun_induction lineCommentRest s <;> simp_all

lemma append_blockCommentRest? {s text rest : List Char} (h : blockCommentRest? s = some (text, rest)) :
    text ++ rest = s := by
  fun_induction blockCommentRest? s generalizing text with
  | case1 => cases h
  | case2 =>
      cases h
      rfl
  | case3 c s _ ih =>
      obtain ⟨⟨inner, after⟩, hinner, hrest⟩ := Option.map_eq_some_iff.1 h
      cases hrest
      rw [List.cons_append, ih hinner]

lemma append_comment {s text rest : List Char} (h : comment s = some (text, rest)) :
    text ++ rest = s ∧ StartsGap text := by
  unfold comment at h
  split at h
  · next s =>
    cases h
    refine ⟨?_, '/', _, rfl, by decide⟩
    rw [List.cons_append, List.cons_append, append_lineCommentRest]
  · obtain ⟨⟨inner, after⟩, hinner, hrest⟩ := Option.map_eq_some_iff.1 h
    cases hrest
    refine ⟨?_, '/', _, rfl, by decide⟩
    rw [List.cons_append, List.cons_append, append_blockCommentRest? hinner]
  · cases h
    exact ⟨rfl, '#', _, rfl, by decide⟩
  · cases h
    exact ⟨rfl, '#', _, rfl, by decide⟩
  · next s _ _ =>
    cases h
    refine ⟨?_, '#', _, rfl, by decide⟩
    rw [List.cons_append, append_lineCommentRest]
  · cases h

lemma append_tagRest (s : List Char) : (tagRest s).1 ++ (tagRest s).2 = s := by
  fun_cases tagRest s <;> simp_all

lemma append_pageRest (s : List Char) : (pageRest s).1 ++ (pageRest s).2 = s := by
  fun_induction pageRest s with
  | case1 => rfl
  | case2 rest tag code h =>
      have htag := append_tagRest rest
      rw [h] at htag
      rw [List.cons_append, List.cons_append, htag]
  | case3 c rest _ text code h ih =>
      rw [h] at ih
      rw [List.cons_append, ih]

lemma append_page {s text rest : List Char} (h : page s = some (text, rest)) :
    text ++ rest = s ∧ StartsGap text := by
  unfold page at h
  split at h
  · next s =>
    split at h
    · cases h
      exact ⟨rfl, '?', _, rfl, by decide⟩
    · cases h
      refine ⟨?_, '?', _, rfl, by decide⟩
      rw [List.cons_append, List.cons_append, append_pageRest]
  · cases h

lemma append_gapPart {p : Position} {attributes : Bool} {s rest : List Char} {part : GapPart}
    (h : gapPart p attributes s = some (part, rest)) : ∃ t, s = t ++ rest ∧ StartsGap t := by
  unfold gapPart at h
  split at h
  · cases h
  · next c s =>
    split at h
    · next hc =>
      cases h
      refine ⟨c :: s.takeWhile isSeparator, ?_, c, _, rfl, ?_⟩
      · rw [List.cons_append, List.takeWhile_append_dropWhile]
      · simp [opensGap, isSpacing, hc]
    · split at h
      · cases h
      · split at h
        · next text after hpage =>
          cases h
          obtain ⟨happend, hstarts⟩ := append_page hpage
          exact ⟨text, happend.symm, hstarts⟩
        · obtain ⟨⟨text, after⟩, hcomment, hpart⟩ := Option.map_eq_some_iff.1 h
          cases hpart
          obtain ⟨happend, hstarts⟩ := append_comment hcomment
          exact ⟨text, happend.symm, hstarts⟩

/-- A gap is empty or starts like one. -/
def IsGapText (g : List Char) : Prop :=
  g = [] ∨ StartsGap g

lemma append_gapParts (p : Position) (attributes : Bool) (s : List Char) :
    ∃ g, s = g ++ (gapParts p attributes s).2 ∧ IsGapText g := by
  fun_induction gapParts p attributes s with
  | case1 s h => exact ⟨[], rfl, Or.inl rfl⟩
  | case2 s part rest h more last hmore ih =>
      obtain ⟨t, rfl, c, inner, rfl, hc⟩ := append_gapPart h
      obtain ⟨g, hrest, _⟩ := ih
      rw [hmore] at hrest
      refine ⟨c :: inner ++ g, ?_, Or.inr ⟨c, inner ++ g, rfl, hc⟩⟩
      rw [List.append_assoc, ← hrest]

lemma takes_gapAt (p : Position) : Takes (gapAt p) IsGapText := by
  intro s parts rest h
  have hrest : (gapParts p false s).2 = rest := congrArg Prod.snd (Option.some.inj h)
  obtain ⟨g, hs, hg⟩ := append_gapParts p false s
  rw [hrest] at hs
  exact ⟨g, hs, hg⟩

/-! ## Words -/

lemma isIdentifierStart_of_isWordStart {c : Char} (h : isWordStart c = true) :
    isIdentifierStart c = true := by
  simp only [isWordStart, isIdentifierStart, Bool.or_eq_true, Bool.and_eq_true, decide_eq_true_eq] at h ⊢
  rcases h with h | ⟨⟨h, _⟩, _⟩
  · exact Or.inl h
  · exact Or.inr h

lemma isIdentifierPart_of_isWordPart {c : Char} (h : isWordPart c = true) :
    isIdentifierPart c = true := by
  simp only [isWordPart, isIdentifierPart, Bool.or_eq_true] at h ⊢
  exact h.imp_left isIdentifierStart_of_isWordStart

/-- A word is a segment of a name, and what is read is the word itself. -/
lemma rawWord_eq_some {s w rest : List Char} (h : rawWord s = some (w, rest)) :
    s = w ++ rest ∧ isSegment w = true := by
  obtain ⟨c, more, hfirst, h⟩ := bind_eq_some_iff.1 h
  obtain ⟨tail, last, hrun, hpure⟩ := bind_eq_some_iff.1 h
  cases hpure
  cases hrun
  cases s with
  | nil => cases hfirst
  | cons d s =>
      rw [one] at hfirst
      split at hfirst
      · next hd =>
        cases hfirst
        refine ⟨by rw [List.cons_append, List.takeWhile_append_dropWhile], ?_⟩
        rw [isSegment, Bool.and_eq_true, List.all_eq_true]
        refine ⟨isIdentifierStart_of_isWordStart hd, ?_⟩
        intro e he
        exact isIdentifierPart_of_isWordPart (List.all_eq_true.1 List.all_takeWhile e he)
      · cases hfirst

lemma takes_rawWord : Takes rawWord fun t => isSegment t = true :=
  fun _ w _ h => ⟨w, rawWord_eq_some h⟩

lemma yields_rawWord : Yields rawWord fun w => isSegment w = true :=
  fun _ _ _ h => (rawWord_eq_some h).2

/-! ## Loose names -/

/-- A segment after a separator, with the gaps around the separator. -/
def IsLooseSegment (t : List Char) : Prop :=
  ∃ before after w, IsGapText before ∧ IsGapText after ∧ isSegment w = true ∧
    t = before ++ separator :: (after ++ w)

/-- The segments after the first one. -/
def IsLooseTail (t : List Char) : Prop :=
  ∃ l : List (List Char), (∀ u ∈ l, IsLooseSegment u) ∧ t = l.flatten

/-- What stands in front of the first word of a name: nothing, or a separator and a gap. -/
def IsLooseRoot (t : List Char) : Prop :=
  t = [] ∨ ∃ g, IsGapText g ∧ t = separator :: g

/-- A name as it can be written, with gaps between its parts. -/
def LooseName (t : List Char) : Prop :=
  ∃ root w tail, IsLooseRoot root ∧ isSegment w = true ∧ IsLooseTail tail ∧ t = root ++ (w ++ tail)

lemma isLooseTail_nil : IsLooseTail [] :=
  ⟨[], by simp, rfl⟩

lemma IsLooseTail.append {a b : List Char} (ha : IsLooseTail a) (hb : IsLooseTail b) :
    IsLooseTail (a ++ b) := by
  obtain ⟨l, hl, rfl⟩ := ha
  obtain ⟨m, hm, rfl⟩ := hb
  refine ⟨l ++ m, ?_, List.flatten_append.symm⟩
  intro u hu
  rcases List.mem_append.1 hu with hu | hu
  · exact hl u hu
  · exact hm u hu

lemma looseName_of_isSegment {w : List Char} (h : isSegment w = true) : LooseName w :=
  ⟨[], w, [], Or.inl rfl, h, isLooseTail_nil, by simp⟩

lemma takes_symbolAt (p : Position) (text : String) :
    Takes (symbolAt p text) fun t => ∃ g, IsGapText g ∧ t = g ++ text.toList := by
  refine ((takes_gapAt p).bind fun _ => Takes.exactly text.toList).mono ?_
  rintro t ⟨g, u, hg, rfl, rfl⟩
  exact ⟨g, hg, rfl⟩

lemma takes_word : Takes word fun t => ∃ g w, IsGapText g ∧ isSegment w = true ∧ t = g ++ w :=
  (takes_gapAt .inner).bind fun _ => takes_rawWord

lemma takes_segments (p : Position) : Takes (segments p) IsLooseTail := by
  have hone : Takes (do symbolAt p "\\"; word) IsLooseSegment := by
    refine ((takes_symbolAt p "\\").bind fun _ => takes_word).mono ?_
    rintro t ⟨u, v, ⟨before, hbefore, rfl⟩, ⟨after, w, hafter, hw, rfl⟩, rfl⟩
    refine ⟨before, after, w, hbefore, hafter, hw, ?_⟩
    simp [separator]
  refine (hone.many.bind fun _ => Takes.pure ()).mono ?_
  rintro t ⟨u, v, hu, rfl, rfl⟩
  rw [List.append_nil]
  exact hu

lemma takes_rootedWords (p : Position) : Takes (rootedWords p) LooseName := by
  refine ((Takes.char '\\').bind fun _ => takes_word.bind fun _ => takes_segments p).mono ?_
  rintro t ⟨_, _, rfl, ⟨_, tail, ⟨g, w, hg, hw, rfl⟩, htail, rfl⟩, rfl⟩
  exact ⟨separator :: g, w, tail, Or.inr ⟨g, hg, rfl⟩, hw, htail, by simp [separator]⟩

lemma takes_plainWords (p : Position) : Takes (do let _ ← rawWord; segments p) LooseName := by
  refine (takes_rawWord.bind fun _ => takes_segments p).mono ?_
  rintro t ⟨w, tail, hw, htail, rfl⟩
  exact ⟨[], w, tail, Or.inl rfl, hw, htail, rfl⟩

lemma takes_nameWords (p : Position) : Takes (nameWords p) LooseName :=
  .oneOf_pair (takes_rootedWords p) (takes_plainWords p)

lemma takes_classWords (p : Position) : Takes (classWords p) LooseName := by
  refine .oneOf_pair (takes_rootedWords p) ?_
  have htail : ∀ w, Takes (if isRelativeWord w then pure () else segments p) IsLooseTail := by
    intro w
    split
    · exact (Takes.pure ()).mono fun t ht => ht ▸ isLooseTail_nil
    · exact takes_segments p
  refine (takes_rawWord.bind htail).mono ?_
  rintro t ⟨w, tail, hw, htail, rfl⟩
  exact ⟨[], w, tail, Or.inl rfl, hw, htail, rfl⟩

lemma yields_name (p : Position) : Yields (name p) LooseName :=
  .after fun _ => (yields_spelled (takes_nameWords p)).bind fun _ ht => .pure ht

lemma yields_className (p : Position) : Yields (className p) LooseName :=
  .after fun _ => (yields_spelled (takes_classWords p)).bind fun _ ht => .pure ht

/-! ## Names without gaps -/

/-- Nothing in the text opens a gap. -/
def isUnbroken (t : List Char) : Bool :=
  t.all fun c => !opensGap c

lemma isUnbroken_append {a b : List Char} :
    isUnbroken (a ++ b) = true ↔ isUnbroken a = true ∧ isUnbroken b = true := by
  rw [isUnbroken, List.all_append, Bool.and_eq_true]
  rfl

lemma eq_nil_of_isGapText {g : List Char} (hg : IsGapText g) (h : isUnbroken g = true) : g = [] := by
  rcases hg with rfl | ⟨c, rest, rfl, hc⟩
  · rfl
  · simp [isUnbroken, hc] at h

/-- A separator and a gap, or a segment: what is left of it where there are no gaps. -/
lemma eq_of_isLooseSegment {t : List Char} (ht : IsLooseSegment t) (h : isUnbroken t = true) :
    ∃ w, isSegment w = true ∧ t = separator :: w := by
  obtain ⟨before, after, w, hbefore, hafter, hw, rfl⟩ := ht
  rw [isUnbroken_append, ← List.singleton_append, isUnbroken_append, isUnbroken_append] at h
  rw [eq_nil_of_isGapText hbefore h.1, eq_nil_of_isGapText hafter h.2.2.1]
  exact ⟨w, hw, rfl⟩

lemma isNameText_of_isLooseTail {s tail : List Char} (hs : IsNameText s) (htail : IsLooseTail tail)
    (h : isUnbroken tail = true) : IsNameText (s ++ tail) := by
  obtain ⟨l, hl, rfl⟩ := htail
  induction l generalizing s with
  | nil => simpa using hs
  | cons t l ih =>
      rw [List.flatten_cons, isUnbroken_append] at h
      obtain ⟨w, hw, rfl⟩ := eq_of_isLooseSegment (hl t List.mem_cons_self) h.1
      rw [List.flatten_cons, ← List.append_assoc]
      exact ih (hs.append (.of_isSegment hw)) (fun u hu => hl u (List.mem_cons_of_mem _ hu)) h.2

/-- A name without gaps is segments with separators between them, and at most one more in front. -/
lemma isNameText_of_unbroken {t : List Char} (ht : LooseName t) (h : isUnbroken t = true) :
    IsNameText (QualifiedName.dropRoot t) := by
  obtain ⟨root, w, tail, hroot, hw, htail, rfl⟩ := ht
  rw [isUnbroken_append, isUnbroken_append] at h
  have hname : IsNameText (w ++ tail) := isNameText_of_isLooseTail (.of_isSegment hw) htail h.2.2
  rcases hroot with rfl | ⟨g, hg, rfl⟩
  · rw [List.nil_append, QualifiedName.dropRoot_of_isNameText hname]
    exact hname
  · rw [← List.singleton_append, isUnbroken_append] at h
    rw [eq_nil_of_isGapText hg h.1.2]
    simpa [QualifiedName.dropRoot] using hname

end PhpInterface.Source
