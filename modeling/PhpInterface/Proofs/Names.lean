import Mathlib.Data.List.Basic
import PhpInterface.Name.Scope

/-!
# The theory of names

A qualified name is its segments with backslashes between them, and an identifier holds no backslash.
So cutting the text of a name at the backslashes gives the segments back: reading inverts printing
(`parse?_text`), and two names with one text are one name (`text_injective`).

A scope changes names in three ways: it takes separators off their ends, puts its namespace in front of
them, and exchanges the first segment for an import.  On texts that are made of segments each of these is
an operation on the list of segments.
-/

namespace PhpInterface

/-! ## Pieces -/

namespace Text

lemma pieces_eq_splitOn (sep : Char) (s : List Char) : pieces sep s = s.splitOn sep := by
  induction s with
  | nil => rfl
  | cons c rest ih =>
      simp only [pieces, ih, List.splitOn_cons_eq_if_modifyHead, beq_iff_eq]
      split
      · rfl
      · cases h : rest.splitOn sep with
        | nil => exact absurd h (List.splitOn_ne_nil sep rest)
        | cons piece more => rfl

lemma glue_eq_intercalate (sep : Char) (l : List (List Char)) : glue sep l = [sep].intercalate l := by
  induction l with
  | nil => rfl
  | cons piece more ih =>
      cases more with
      | nil => simp [glue]
      | cons next tail =>
          rw [glue, ih, List.intercalate_cons_cons]
          · simp
          · simp

/-- Gluing loses nothing, as long as no piece holds the separator. -/
lemma pieces_glue {sep : Char} {l : List (List Char)} (hne : l ≠ []) (h : ∀ piece ∈ l, sep ∉ piece) :
    pieces sep (glue sep l) = l := by
  rw [pieces_eq_splitOn, glue_eq_intercalate]
  exact List.splitOn_intercalate sep h hne

lemma glue_append (sep : Char) {l more : List (List Char)} (hl : l ≠ []) (hmore : more ≠ []) :
    glue sep (l ++ more) = glue sep l ++ sep :: glue sep more := by
  induction l with
  | nil => exact absurd rfl hl
  | cons first rest ih =>
      cases rest with
      | nil =>
          obtain ⟨next, tail, rfl⟩ := List.exists_cons_of_ne_nil hmore
          rfl
      | cons next tail =>
          have hrest := ih (List.cons_ne_nil next tail)
          simp only [List.cons_append, glue] at hrest ⊢
          rw [hrest]
          simp

lemma pieces_append_cons (sep : Char) (a b : List Char) :
    pieces sep (a ++ sep :: b) = pieces sep a ++ pieces sep b := by
  induction a with
  | nil => simp [pieces]
  | cons c a ih =>
      rw [List.cons_append, pieces, pieces, ih]
      by_cases hc : c = sep
      · rw [if_pos hc, if_pos hc, List.cons_append]
      · obtain ⟨piece, more, ha⟩ := List.exists_cons_of_ne_nil (pieces_ne_nil sep a)
        rw [if_neg hc, if_neg hc, ha]
        rfl

lemma not_mem_of_mem_pieces {sep : Char} {s piece : List Char} (h : piece ∈ pieces sep s) : sep ∉ piece := by
  induction s generalizing piece with
  | nil => simp_all [pieces]
  | cons c s ih =>
      rw [pieces] at h
      obtain ⟨first, more, hs⟩ := List.exists_cons_of_ne_nil (pieces_ne_nil sep s)
      rw [hs] at h ih
      by_cases hc : c = sep
      · rw [if_pos hc, List.mem_cons] at h
        rcases h with rfl | h
        · simp
        · exact ih h
      · rw [if_neg hc, List.mem_cons] at h
        rcases h with rfl | h
        · rw [List.mem_cons, not_or]
          exact ⟨Ne.symm hc, ih List.mem_cons_self⟩
        · exact ih (List.mem_cons_of_mem _ h)

lemma pieces_of_not_mem {sep : Char} {s : List Char} (h : sep ∉ s) : pieces sep s = [s] := by
  simpa [glue] using pieces_glue (l := [s]) (List.cons_ne_nil _ _) (by simpa using h)

lemma cut?_eq_none {sep : Char} {s : List Char} (h : sep ∉ s) : cut? sep s = none := by
  induction s with
  | nil => rfl
  | cons c rest ih =>
      rw [List.mem_cons, not_or] at h
      rw [cut?, if_neg (Ne.symm h.1), ih h.2]
      rfl

lemma cut?_append {sep : Char} {a : List Char} (h : sep ∉ a) (b : List Char) :
    cut? sep (a ++ sep :: b) = some (a, b) := by
  induction a with
  | nil => simp [cut?]
  | cons c rest ih =>
      rw [List.mem_cons, not_or] at h
      rw [List.cons_append, cut?, if_neg (Ne.symm h.1), ih h.2]
      rfl

end Text

/-! ## Segments -/

lemma separator_not_mem_of_isSegment {s : List Char} (h : isSegment s = true) : separator ∉ s := by
  cases s with
  | nil => simp
  | cons c rest =>
      rw [isSegment, Bool.and_eq_true, List.all_eq_true] at h
      intro hmem
      rcases List.mem_cons.1 hmem with hc | hc
      · rw [← hc] at h
        exact absurd h.1 (by decide)
      · exact absurd (h.2 separator hc) (by decide)

lemma ne_nil_of_isSegment {s : List Char} (h : isSegment s = true) : s ≠ [] := by
  rintro rfl
  simp [isSegment] at h

/-- A text that is segments with separators between them: the text of a name, with no separator in
front. -/
def IsNameText (s : List Char) : Prop :=
  ∃ l : List (List Char), l ≠ [] ∧ (∀ piece ∈ l, isSegment piece = true) ∧ s = Text.glue separator l

namespace IsNameText

variable {s t : List Char}

lemma of_isSegment (h : isSegment s = true) : IsNameText s :=
  ⟨[s], List.cons_ne_nil _ _, by simpa using h, rfl⟩

/-- Two names with a separator between them are a name. -/
lemma append (hs : IsNameText s) (ht : IsNameText t) : IsNameText (s ++ separator :: t) := by
  obtain ⟨l, hl, hseg, rfl⟩ := hs
  obtain ⟨m, hm, hseg', rfl⟩ := ht
  refine ⟨l ++ m, by simp [hl], ?_, (Text.glue_append separator hl hm).symm⟩
  intro piece hpiece
  rcases List.mem_append.1 hpiece with h | h
  · exact hseg piece h
  · exact hseg' piece h

/-- A name is one segment, or a segment with a separator and a name after it. -/
lemma segment_or_append (h : IsNameText s) :
    isSegment s = true ∨ ∃ w rest, isSegment w = true ∧ IsNameText rest ∧ s = w ++ separator :: rest := by
  obtain ⟨l, hl, hseg, rfl⟩ := h
  obtain ⟨w, more, rfl⟩ := List.exists_cons_of_ne_nil hl
  have hw := hseg w List.mem_cons_self
  cases more with
  | nil => exact Or.inl hw
  | cons next tail =>
      exact Or.inr ⟨w, Text.glue separator (next :: tail), hw, ⟨next :: tail, List.cons_ne_nil _ _,
        fun piece hpiece => hseg piece (List.mem_cons_of_mem _ hpiece), rfl⟩, rfl⟩

/-- A name starts with a character that is no separator. -/
lemma exists_cons (h : IsNameText s) : ∃ c rest, s = c :: rest ∧ c ≠ separator := by
  have hfirst : ∀ w : List Char, isSegment w = true → ∃ c rest, w = c :: rest ∧ c ≠ separator := by
    intro w hw
    obtain ⟨c, rest, rfl⟩ := List.exists_cons_of_ne_nil (ne_nil_of_isSegment hw)
    exact ⟨c, rest, rfl, fun hc => separator_not_mem_of_isSegment hw (hc ▸ List.mem_cons_self)⟩
  rcases h.segment_or_append with hs | ⟨w, rest, hw, _, rfl⟩
  · exact hfirst s hs
  · obtain ⟨c, more, rfl, hc⟩ := hfirst w hw
    exact ⟨c, more ++ separator :: rest, rfl, hc⟩

/-- A name ends with a character that is no separator. -/
lemma exists_append (h : IsNameText s) : ∃ rest c, s = rest ++ [c] ∧ c ≠ separator := by
  obtain ⟨l, hl, hseg, rfl⟩ := h
  obtain ⟨init, last, rfl⟩ := List.eq_nil_or_concat' l |>.resolve_left hl
  have hlast := hseg last (by simp)
  obtain ⟨rest, c, rfl⟩ := List.eq_nil_or_concat' last |>.resolve_left (ne_nil_of_isSegment hlast)
  have hc : c ≠ separator := fun hc =>
    separator_not_mem_of_isSegment hlast (by simp [hc])
  by_cases hinit : init = []
  · exact ⟨rest, c, by simp [hinit, Text.glue], hc⟩
  · refine ⟨Text.glue separator init ++ separator :: rest, c, ?_, hc⟩
    rw [Text.glue_append separator hinit (List.cons_ne_nil _ _)]
    simp [Text.glue]

end IsNameText

/-! ## Qualified names -/

namespace QualifiedName

/-- Every part of the name is an identifier. -/
def WellFormed (name : QualifiedName) : Prop :=
  ∀ segment ∈ name.path ++ [name.short], isSegment segment.toList = true

lemma toList_text (name : QualifiedName) :
    name.text.toList = Text.glue separator ((name.path ++ [name.short]).map String.toList) := by
  rw [text, textOf, String.toList_ofList]

lemma WellFormed.isNameText {name : QualifiedName} (h : name.WellFormed) :
    IsNameText name.text.toList := by
  refine ⟨(name.path ++ [name.short]).map String.toList, by simp, ?_, toList_text name⟩
  intro piece hpiece
  obtain ⟨segment, hsegment, rfl⟩ := List.mem_map.1 hpiece
  exact h segment hsegment

lemma WellFormed.isNameText_pathText {name : QualifiedName} (h : name.WellFormed)
    (hpath : name.path ≠ []) : IsNameText name.pathText.toList := by
  refine ⟨name.path.map String.toList, by simpa using hpath, ?_, by simp [pathText, textOf]⟩
  intro piece hpiece
  obtain ⟨segment, hsegment, rfl⟩ := List.mem_map.1 hpiece
  exact h segment (List.mem_append_left _ hsegment)

lemma WellFormed.isEmpty_pathText {name : QualifiedName} (h : name.WellFormed) :
    name.pathText.isEmpty = name.path.isEmpty := by
  rw [Bool.eq_iff_iff, String.isEmpty_iff, List.isEmpty_iff]
  constructor
  · intro hempty
    by_contra hpath
    obtain ⟨c, rest, hcons, _⟩ := (h.isNameText_pathText hpath).exists_cons
    simp [hempty] at hcons
  · intro hpath
    simp [pathText, textOf, hpath, Text.glue]

lemma dropRoot_of_isNameText {s : List Char} (h : IsNameText s) : dropRoot s = s := by
  obtain ⟨c, rest, rfl, hc⟩ := h.exists_cons
  rw [dropRoot, if_neg hc]

/-- What reading a name gives, on the pieces of the text. -/
lemma parse?_eq_some_iff {t : String} {name : QualifiedName} :
    parse? t = some name ↔
      (name.path ++ [name.short]).map String.toList = Text.pieces separator (dropRoot t.toList) ∧
        name.WellFormed := by
  have hne := Text.pieces_ne_nil separator (dropRoot t.toList)
  simp only [parse?]
  generalize Text.pieces separator (dropRoot t.toList) = segments at hne
  obtain ⟨init, last, rfl⟩ := List.eq_nil_or_concat' segments |>.resolve_left hne
  have hparts : ∀ l : List (List Char), (l.map String.ofList).map String.toList = l := by
    intro l
    simp [Function.comp_def]
  constructor
  · intro h
    split at h
    · next hall =>
      cases h
      refine ⟨by simp [hparts], ?_⟩
      intro segment hsegment
      rw [List.all_eq_true] at hall
      apply hall
      simp only [List.dropLast_concat, List.getLastD_concat, List.mem_append, List.mem_map,
        List.mem_singleton] at hsegment ⊢
      rcases hsegment with ⟨piece, hpiece, rfl⟩ | rfl
      · left
        simpa using hpiece
      · right
        simp
    · cases h
  · rintro ⟨hsegments, hwf⟩
    rw [List.map_append, List.map_singleton] at hsegments
    obtain ⟨hinit, hlast⟩ := List.append_inj' hsegments rfl
    rw [List.singleton_inj] at hlast
    subst hinit hlast
    have hall : ((name.path.map String.toList) ++ [name.short.toList]).all isSegment = true := by
      rw [List.all_eq_true]
      intro piece hpiece
      rw [← List.map_singleton, ← List.map_append] at hpiece
      obtain ⟨segment, hsegment, rfl⟩ := List.mem_map.1 hpiece
      exact hwf segment hsegment
    rw [if_pos hall]
    simp

lemma wellFormed_of_parse? {t : String} {name : QualifiedName} (h : parse? t = some name) :
    name.WellFormed :=
  (parse?_eq_some_iff.1 h).2

/-- The text of a name that was read is what was read, less the separator in front. -/
lemma toList_text_of_parse? {t : String} {name : QualifiedName} (h : parse? t = some name) :
    name.text.toList = dropRoot t.toList := by
  rw [toList_text, (parse?_eq_some_iff.1 h).1, Text.glue_pieces]

/-- A name is read back from its text. -/
lemma parse?_text {name : QualifiedName} (h : name.WellFormed) : parse? name.text = some name := by
  refine parse?_eq_some_iff.2 ⟨?_, h⟩
  rw [dropRoot_of_isNameText h.isNameText, toList_text, Text.pieces_glue (by simp)]
  intro piece hpiece
  obtain ⟨segment, hsegment, rfl⟩ := List.mem_map.1 hpiece
  exact separator_not_mem_of_isSegment (h segment hsegment)

lemma text_injective {a b : QualifiedName} (ha : a.WellFormed) (hb : b.WellFormed)
    (h : a.text = b.text) : a = b := by
  have hread := parse?_text ha
  rw [h, parse?_text hb] at hread
  exact (Option.some.inj hread).symm

/-- A text that is segments with separators between them is read as a name, and is its text. -/
lemma exists_parse?_of_isNameText {t : String} (h : IsNameText t.toList) :
    ∃ name, parse? t = some name ∧ name.text = t := by
  have hdrop := dropRoot_of_isNameText h
  obtain ⟨l, hl, hseg, ht⟩ := h
  obtain ⟨init, last, rfl⟩ := List.eq_nil_or_concat' l |>.resolve_left hl
  have hpieces := Text.pieces_glue hl fun piece hp => separator_not_mem_of_isSegment (hseg piece hp)
  have hread : parse? t = some ⟨init.map String.ofList, String.ofList last⟩ := by
    refine parse?_eq_some_iff.2 ⟨?_, ?_⟩
    · rw [hdrop, ht, hpieces]
      simp [Function.comp_def]
    · intro segment hsegment
      simp only [List.mem_append, List.mem_map, List.mem_singleton] at hsegment
      rcases hsegment with ⟨piece, hpiece, rfl⟩ | rfl
      · simpa using hseg piece (by simp [hpiece])
      · simpa using hseg last (by simp)
  refine ⟨_, hread, ?_⟩
  rw [← String.toList_inj, toList_text_of_parse? hread, hdrop]

/-- The text of a name is that of its namespace, if it has one, and its short name. -/
lemma text_eq (name : QualifiedName) :
    name.text =
      if name.path.isEmpty then name.short
      else name.pathText ++ String.singleton separator ++ name.short := by
  rw [← String.toList_inj, toList_text, List.map_append]
  cases hpath : name.path with
  | nil => simp [Text.glue]
  | cons first more =>
      rw [Text.glue_append separator (by simp) (by simp)]
      simp [pathText, textOf, hpath, Text.glue]

end QualifiedName

/-! ## Scopes -/

namespace Scope

lemma trimLeft_of_isNameText {s : List Char} (h : IsNameText s) : trimLeft s = s := by
  obtain ⟨c, rest, rfl, hc⟩ := h.exists_cons
  exact List.dropWhile_cons_of_neg (by simpa using hc)

lemma trimLeft_cons_separator (s : List Char) : trimLeft (separator :: s) = trimLeft s := by
  simp [trimLeft]

lemma trimBoth_of_isNameText {s : List Char} (h : IsNameText s) : trimBoth s = s := by
  rw [trimBoth, trimLeft_of_isNameText h]
  obtain ⟨rest, c, rfl, hc⟩ := h.exists_append
  rw [List.reverse_append, List.reverse_singleton, List.singleton_append, trimLeft,
    List.dropWhile_cons_of_neg (by simpa using hc)]
  simp

/-- A namespace that is written like the path of a name is taken over as it is. -/
lemma ofNamespace_pathText {name : QualifiedName} (h : name.WellFormed) :
    ofNamespace name.pathText = { space := name.pathText } := by
  have htrim : trimBoth name.pathText.toList = name.pathText.toList := by
    by_cases hpath : name.path = []
    · simp [QualifiedName.pathText, QualifiedName.textOf, hpath, Text.glue, trimBoth, trimLeft]
    · exact trimBoth_of_isNameText (h.isNameText_pathText hpath)
  rw [ofNamespace, htrim, String.ofList_toList]

/-- A segment alone means an import, or else a name of the current namespace. -/
lemma resolve_of_isSegment (scope : Scope) {word : String} (h : isSegment word.toList = true) :
    scope.resolve word = (scope.imported? word).getD (scope.declaredName word) := by
  rw [resolve, Text.cut?_eq_none (separator_not_mem_of_isSegment h)]

end Scope

end PhpInterface
