import PhpInterface.Proofs.Names

/-!
# The grammar of qualified names

A name is written as identifiers with backslashes between them, and one more backslash may stand in front.
`Spells` is this grammar, with the identifiers that a text is made of.  Reading accepts exactly the texts of
the grammar and gives their identifiers (`parse?_eq_some_iff_spells`).

A text of the grammar does not start with a backslash, so the one in front is all that two texts of one name
can differ in (`names_read_exactly`).
-/

namespace PhpInterface

/-! ## Identifiers -/

/-- An ASCII letter, an underscore, or any character beyond ASCII. -/
def IsLetter (c : Char) : Prop :=
  ('A' ≤ c ∧ c ≤ 'Z') ∨ ('a' ≤ c ∧ c ≤ 'z') ∨ c = '_' ∨ 127 < c.toNat

/-- A letter, and after it letters and ASCII digits. -/
inductive Identifier : List Char → Prop where
  | mk {first : Char} {others : List Char} (hfirst : IsLetter first)
      (hothers : ∀ c ∈ others, IsLetter c ∨ ('0' ≤ c ∧ c ≤ '9')) : Identifier (first :: others)

lemma isIdentifierStart_iff {c : Char} : isIdentifierStart c = true ↔ IsLetter c := by
  have hupper : c.isUpper = true ↔ 'A' ≤ c ∧ c ≤ 'Z' := decide_eq_true_iff
  have hlower : c.isLower = true ↔ 'a' ≤ c ∧ c ≤ 'z' :=
    Bool.and_eq_true_iff.trans (and_congr decide_eq_true_iff decide_eq_true_iff)
  have halpha : c.isAlpha = (c.isUpper || c.isLower) := rfl
  rw [isIdentifierStart, halpha, IsLetter, ← hupper, ← hlower]
  simp only [Bool.or_eq_true, beq_iff_eq, decide_eq_true_iff]
  grind

lemma isIdentifierPart_iff {c : Char} :
    isIdentifierPart c = true ↔ IsLetter c ∨ ('0' ≤ c ∧ c ≤ '9') := by
  have hdigit : c.isDigit = true ↔ '0' ≤ c ∧ c ≤ '9' :=
    Bool.and_eq_true_iff.trans (and_congr decide_eq_true_iff decide_eq_true_iff)
  rw [isIdentifierPart, Bool.or_eq_true, isIdentifierStart_iff, hdigit]

lemma isSegment_iff {w : List Char} : isSegment w = true ↔ Identifier w := by
  cases w with
  | nil => exact ⟨nofun, nofun⟩
  | cons first others =>
      rw [isSegment, Bool.and_eq_true, List.all_eq_true, isIdentifierStart_iff]
      simp only [isIdentifierPart_iff]
      constructor
      · rintro ⟨hfirst, hothers⟩
        exact .mk hfirst hothers
      · rintro ⟨hfirst, hothers⟩
        exact ⟨hfirst, hothers⟩

/-! ## Names -/

/-- The text is these identifiers with backslashes between them. -/
inductive Spells : List String → List Char → Prop where
  | one {w : List Char} (hw : Identifier w) : Spells [String.ofList w] w
  | more {w rest : List Char} {identifiers : List String} (hw : Identifier w)
      (hrest : Spells identifiers rest) : Spells (String.ofList w :: identifiers) (w ++ '\\' :: rest)

lemma spells_iff {identifiers : List String} {s : List Char} :
    Spells identifiers s ↔ identifiers ≠ [] ∧ (∀ w ∈ identifiers, isSegment w.toList = true) ∧
      s = Text.glue separator (identifiers.map String.toList) := by
  constructor
  · intro h
    induction h with
    | one hw => exact ⟨List.cons_ne_nil _ _, by simpa using isSegment_iff.2 hw, by simp [Text.glue]⟩
    | @more w rest identifiers hw _ ih =>
        obtain ⟨hne, hsegments, rfl⟩ := ih
        refine ⟨List.cons_ne_nil _ _, ?_, ?_⟩
        · rw [List.forall_mem_cons, String.toList_ofList]
          exact ⟨isSegment_iff.2 hw, hsegments⟩
        · obtain ⟨next, others, rfl⟩ := List.exists_cons_of_ne_nil hne
          simp [Text.glue, separator]
  · rintro ⟨hne, hsegments, rfl⟩
    induction identifiers with
    | nil => exact absurd rfl hne
    | cons w identifiers ih =>
        rw [List.forall_mem_cons] at hsegments
        have hw := isSegment_iff.1 hsegments.1
        cases identifiers with
        | nil => simpa [Text.glue] using Spells.one hw
        | cons next others =>
            have hrest := ih (List.cons_ne_nil _ _) hsegments.2
            simpa [Text.glue, separator] using Spells.more hw hrest

namespace QualifiedName

variable {s t : String} {a b : QualifiedName}

lemma spells_iff_wellFormed {l : List Char} :
    Spells (a.path ++ [a.short]) l ↔ a.WellFormed ∧ l = a.text.toList := by
  rw [spells_iff, toList_text, WellFormed]
  exact ⟨fun h => h.2, fun h => ⟨by simp, h⟩⟩

/-- Reading is the inverse of spelling. -/
lemma parse?_eq_some_iff_spells :
    parse? s = some a ↔ Spells (a.path ++ [a.short]) (dropRoot s.toList) := by
  rw [spells_iff_wellFormed]
  constructor
  · intro h
    exact ⟨wellFormed_of_parse? h, (toList_text_of_parse? h).symm⟩
  · rintro ⟨hwf, htext⟩
    have hread := parse?_text hwf
    rw [parse?_eq_some_iff, dropRoot_of_isNameText hwf.isNameText, ← htext] at hread
    exact parse?_eq_some_iff.2 hread

lemma isSome_parse?_iff :
    (parse? s).isSome = true ↔ ∃ identifiers, Spells identifiers (dropRoot s.toList) := by
  rw [Option.isSome_iff_exists]
  constructor
  · rintro ⟨a, ha⟩
    exact ⟨_, parse?_eq_some_iff_spells.1 ha⟩
  · rintro ⟨identifiers, h⟩
    obtain ⟨path, short, rfl⟩ := List.eq_nil_or_concat' identifiers |>.resolve_left (spells_iff.1 h).1
    exact ⟨⟨path, short⟩, parse?_eq_some_iff_spells.2 h⟩

/-! ## The backslash in front -/

/-- The first text is the second one, or has one more backslash in front. -/
def Roots (s t : String) : Prop :=
  s = t ∨ s = "\\" ++ t

lemma roots_iff_toList : Roots s t ↔ s.toList = t.toList ∨ s.toList = separator :: t.toList := by
  rw [Roots, ← String.toList_inj, ← String.toList_inj, String.toList_append]
  rfl

lemma eq_or_eq_cons_dropRoot (l : List Char) : l = dropRoot l ∨ l = separator :: dropRoot l := by
  cases l with
  | nil => exact Or.inl rfl
  | cons c rest =>
      by_cases hc : c = separator
      · rw [dropRoot, if_pos hc, hc]
        exact Or.inr rfl
      · rw [dropRoot, if_neg hc]
        exact Or.inl rfl

/-- Texts with one rest differ at most in a backslash in front. -/
lemma roots_of_dropRoot_eq (h : dropRoot s.toList = dropRoot t.toList) : Roots s t ∨ Roots t s := by
  rw [roots_iff_toList, roots_iff_toList]
  have hs := eq_or_eq_cons_dropRoot s.toList
  have ht := eq_or_eq_cons_dropRoot t.toList
  rw [h] at hs
  rcases hs with hs | hs <;> rcases ht with ht | ht
  · exact Or.inl (Or.inl (hs.trans ht.symm))
  · exact Or.inr (Or.inr (ht.trans (congrArg (separator :: ·) hs.symm)))
  · exact Or.inl (Or.inr (hs.trans (congrArg (separator :: ·) ht.symm)))
  · exact Or.inl (Or.inl (hs.trans ht.symm))

/-- A second backslash in front cannot be read, so it does not count where the longer text is a name. -/
lemma dropRoot_eq_of_roots (hs : parse? s = some a) (h : Roots s t) :
    dropRoot s.toList = dropRoot t.toList := by
  rcases roots_iff_toList.1 h with h | h
  · rw [h]
  · have hrest : dropRoot s.toList = t.toList := by rw [h, dropRoot, if_pos rfl]
    have hname : IsNameText t.toList := by
      rw [← hrest, ← toList_text_of_parse? hs]
      exact (wellFormed_of_parse? hs).isNameText
    rw [hrest, dropRoot_of_isNameText hname]

lemma eq_iff_dropRoot_eq (hs : parse? s = some a) (ht : parse? t = some b) :
    a = b ↔ dropRoot s.toList = dropRoot t.toList := by
  rw [← toList_text_of_parse? hs, ← toList_text_of_parse? ht, String.toList_inj]
  exact ⟨congrArg text, text_injective (wellFormed_of_parse? hs) (wellFormed_of_parse? ht)⟩

/-- Two texts that are read are of one name exactly if they differ at most in a backslash in front. -/
lemma eq_iff_roots (hs : parse? s = some a) (ht : parse? t = some b) : a = b ↔ Roots s t ∨ Roots t s := by
  rw [eq_iff_dropRoot_eq hs ht]
  refine ⟨roots_of_dropRoot_eq, ?_⟩
  rintro (h | h)
  · exact dropRoot_eq_of_roots hs h
  · exact (dropRoot_eq_of_roots ht h).symm

/-- A text is read as a name exactly if it is identifiers with backslashes between them, after one backslash
in front or none.  The identifiers are those of the name, the rest of the text is what the name is shown as,
and it is read as the same name again.  Texts of one name differ at most in the backslash in front. -/
theorem names_read_exactly (s t : String) :
    (∀ a, parse? s = some a ↔ Spells (a.path ++ [a.short]) (dropRoot s.toList)) ∧
      ((parse? s).isSome = true ↔ ∃ identifiers, Spells identifiers (dropRoot s.toList)) ∧
      (∀ a, parse? s = some a → a.text = String.ofList (dropRoot s.toList) ∧ parse? a.text = some a) ∧
      ∀ a b, parse? s = some a → parse? t = some b → (a = b ↔ Roots s t ∨ Roots t s) := by
  refine ⟨fun a => parse?_eq_some_iff_spells, isSome_parse?_iff, ?_, fun a b => eq_iff_roots⟩
  intro a ha
  rw [← toList_text_of_parse? ha, String.ofList_toList]
  exact ⟨rfl, parse?_text (wellFormed_of_parse? ha)⟩

/-- A name with a letter beyond ASCII, in its two spellings; with a second backslash in front it is none. -/
theorem names_read_exactly_cafe :
    parse? "\\App\\_2\\Café" = some ⟨["App", "_2"], "Café"⟩ ∧
      parse? "App\\_2\\Café" = some ⟨["App", "_2"], "Café"⟩ ∧
      Spells ["App", "_2", "Café"] "App\\_2\\Café".toList ∧
      (⟨["App", "_2"], "Café"⟩ : QualifiedName).text = "App\\_2\\Café" ∧
      (Roots "\\App\\_2\\Café" "App\\_2\\Café" ∨ Roots "App\\_2\\Café" "\\App\\_2\\Café") ∧
      ¬ ∃ identifiers, Spells identifiers "\\App\\_2\\Café".toList := by
  have hrooted : parse? "\\App\\_2\\Café" = some ⟨["App", "_2"], "Café"⟩ := by decide
  have hplain : parse? "App\\_2\\Café" = some ⟨["App", "_2"], "Café"⟩ := by decide
  have hrefused : (parse? "\\\\App\\_2\\Café").isSome = false := by decide
  have hrest : dropRoot "\\App\\_2\\Café".toList = "App\\_2\\Café".toList := by decide
  have hrest' : dropRoot "\\\\App\\_2\\Café".toList = "\\App\\_2\\Café".toList := by decide
  obtain ⟨hspells, -, hshown, hsame⟩ := names_read_exactly "\\App\\_2\\Café" "App\\_2\\Café"
  obtain ⟨-, haccepted, -⟩ := names_read_exactly "\\\\App\\_2\\Café" ""
  have hshown' := (hshown _ hrooted).1
  rw [hrest, String.ofList_toList] at hshown'
  rw [hrest', hrefused] at haccepted
  exact ⟨hrooted, hplain, hrest ▸ (hspells _).1 hrooted, hshown', (hsame _ _ hrooted hplain).1 rfl,
    fun h => Bool.false_ne_true (haccepted.2 h)⟩

end QualifiedName

end PhpInterface
