import PhpInterface.Description.Declared
import PhpInterface.Print.Signature
import PhpInterface.Proofs.Names
import PhpInterface.Proofs.Outcome

/-!
# What a printed type means

A class is printed by its short name, and the imports above the interface are there to give that short
name its meaning.  Two parts of the program decide on this independently: the printer, which imports
every class of another namespace, and the reader of source files, whose scope looks short names up among
the imports without regard to case and lets a later import hide an earlier one.

`printedTypes_resolve_iff` says how far they agree.  In the scope of the printed file every printed type
means the class it was made from, if and only if no import has the short name of another mentioned class.
The condition is about imports only: two classes of the interface's own namespace are told apart by their
short names, even where these differ in case alone.
-/

namespace PhpInterface

open Source

/-! ## Mentioned classes -/

/-- The classes that the signatures of some methods mention, in order. -/
def mentionedNames (methods : List Method) : List QualifiedName :=
  ((methods.flatMap Method.types).filter NamedType.namesClass).filterMap fun t =>
    QualifiedName.parse? t.name

lemma mem_mentionedNames {methods : List Method} {name : QualifiedName} :
    name ∈ mentionedNames methods ↔
      ∃ t ∈ methods.flatMap Method.types, t.namesClass = true ∧
        QualifiedName.parse? t.name = some name := by
  simp only [mentionedNames, List.mem_filterMap, List.mem_filter, and_assoc]

lemma wellFormed_of_mem_mentionedNames {methods : List Method} {name : QualifiedName}
    (h : name ∈ mentionedNames methods) : name.WellFormed := by
  obtain ⟨t, _, _, hparse⟩ := mem_mentionedNames.1 h
  exact QualifiedName.wellFormed_of_parse? hparse

lemma mem_firstOccurrences {α : Type} [DecidableEq α] {l : List α} {a : α} :
    a ∈ firstOccurrences l ↔ a ∈ l := by
  induction l with
  | nil => simp [firstOccurrences]
  | cons b rest ih =>
      by_cases h : a = b
      · simp [firstOccurrences, h]
      · simp [firstOccurrences, h, ih]

lemma qualified_eq_ok_iff {t : NamedType} {name : QualifiedName} :
    t.qualified = .ok name ↔ QualifiedName.parse? t.name = some name := by
  rw [NamedType.qualified]
  cases QualifiedName.parse? t.name <;> simp

/-- What the import of a type is, where it has one to speak of. -/
lemma importIn_eq_ok_iff {context : QualifiedName} {t : NamedType} {found : Option QualifiedName} :
    t.importIn context = .ok found ↔
      if t.namesClass = true then
        ∃ name, QualifiedName.parse? t.name = some name ∧
          found = if name.path = context.path then none else some name
      else found = none := by
  rw [NamedType.importIn]
  split
  · rw [bind_eq_ok_iff]
    simp only [qualified_eq_ok_iff, pure, Except.pure, Except.ok.injEq, @eq_comm _ found]
  · simp only [pure, Except.pure, Except.ok.injEq, @eq_comm _ found]

section

variable {context : QualifiedName} {methods : List Method} {imports : List QualifiedName}

lemma importsOf_eq_ok_iff :
    importsOf context methods = .ok imports ↔
      ∃ found, (methods.flatMap Method.types).mapM (NamedType.importIn context) = .ok found ∧
        imports = firstOccurrences (found.filterMap id) := by
  rw [importsOf, bind_eq_ok_iff]
  simp only [pure, Except.pure, Except.ok.injEq, eq_comm]

/-- Where the imports can be collected, every mentioned class has a name. -/
lemma exists_parse?_of_importsOf (h : importsOf context methods = .ok imports) {t : NamedType}
    (ht : t ∈ methods.flatMap Method.types) (hclass : t.namesClass = true) :
    ∃ name, QualifiedName.parse? t.name = some name := by
  obtain ⟨found, hfound, _⟩ := importsOf_eq_ok_iff.1 h
  obtain ⟨o, _, ho⟩ := exists_ok_of_mapM hfound ht
  rw [importIn_eq_ok_iff, if_pos hclass] at ho
  obtain ⟨name, hname, _⟩ := ho
  exact ⟨name, hname⟩

/-- The imports are the mentioned classes of other namespaces. -/
lemma mem_importsOf (h : importsOf context methods = .ok imports) {name : QualifiedName} :
    name ∈ imports ↔ name ∈ mentionedNames methods ∧ name.path ≠ context.path := by
  obtain ⟨found, hfound, rfl⟩ := importsOf_eq_ok_iff.1 h
  rw [mem_firstOccurrences, List.mem_filterMap, mem_mentionedNames]
  constructor
  · rintro ⟨o, ho, rfl⟩
    obtain ⟨t, ht, hin⟩ := exists_arg_of_mapM hfound ho
    rw [importIn_eq_ok_iff] at hin
    split at hin
    · next hclass =>
      obtain ⟨read, hparse, hsome⟩ := hin
      split at hsome
      · cases hsome
      · next hpath =>
        cases hsome
        exact ⟨⟨t, ht, hclass, hparse⟩, hpath⟩
    · cases hin
  · rintro ⟨⟨t, ht, hclass, hparse⟩, hpath⟩
    obtain ⟨o, ho, hin⟩ := exists_ok_of_mapM hfound ht
    rw [importIn_eq_ok_iff, if_pos hclass] at hin
    obtain ⟨read, hread, rfl⟩ := hin
    rw [hparse] at hread
    cases hread
    rw [if_neg hpath] at ho
    exact ⟨some name, ho, rfl⟩

end

/-! ## The scope of the printed file -/

/-- The scope that a reader has below the imports of a printed interface. -/
def printedScope (context : QualifiedName) (imports : List QualifiedName) : Scope :=
  importAll (.ofNamespace context.pathText) (imports.map fun name => ⟨name.text, none⟩)

/-- What an import says: the short name, in small letters, means the name. -/
def importEntry (name : QualifiedName) : String × String :=
  (Text.lower name.short, name.text)

lemma lastPiece_text {name : QualifiedName} (h : name.WellFormed) :
    Text.lastPiece separator name.text.toList = name.short.toList := by
  rw [Text.lastPiece, QualifiedName.toList_text, Text.pieces_glue (by simp)]
  · simp
  · intro piece hpiece
    obtain ⟨segment, hsegment, rfl⟩ := List.mem_map.1 hpiece
    exact separator_not_mem_of_isSegment (h segment hsegment)

lemma importing_text (scope : Scope) {name : QualifiedName} (h : name.WellFormed) :
    scope.importing name.text none =
      { scope with imports := importEntry name :: scope.imports } := by
  simp only [Scope.importing, importEntry, Scope.trimLeft_of_isNameText h.isNameText, lastPiece_text h,
    Option.getD_none, String.ofList_toList]

lemma importAll_map_text (scope : Scope) {names : List QualifiedName} (h : ∀ i ∈ names, i.WellFormed) :
    importAll scope (names.map fun name => ⟨name.text, none⟩) =
      { scope with imports := (names.map importEntry).reverse ++ scope.imports } := by
  induction names generalizing scope with
  | nil => simp [importAll]
  | cons name rest ih =>
      have hrest := ih (scope.importing name.text none) fun i hi => h i (List.mem_cons_of_mem _ hi)
      rw [importing_text scope (h name List.mem_cons_self)] at hrest
      simp only [importAll, List.map_cons, List.foldl_cons,
        importing_text scope (h name List.mem_cons_self)] at hrest ⊢
      rw [hrest]
      simp

lemma printedScope_eq {context : QualifiedName} {imports : List QualifiedName}
    (hc : context.WellFormed) (hi : ∀ i ∈ imports, i.WellFormed) :
    printedScope context imports =
      { space := context.pathText, imports := (imports.map importEntry).reverse } := by
  rw [printedScope, Scope.ofNamespace_pathText hc, importAll_map_text _ hi]
  simp

/-! ## Reading printed types back -/

/-- The type can be printed, and in the scope the printed word means the class the type names. -/
def ReadsBack (scope : Scope) (t : NamedType) : Prop :=
  ∃ name token, t.qualified = .ok name ∧ t.token = .ok token ∧ scope.resolve token = name.text

lemma readsBack_iff {scope : Scope} {t : NamedType} {name : QualifiedName}
    (hclass : t.namesClass = true) (hparse : QualifiedName.parse? t.name = some name) :
    ReadsBack scope t ↔ scope.resolve name.short = name.text := by
  have hname : t.qualified = .ok name := qualified_eq_ok_iff.2 hparse
  have htoken : t.token = .ok name.short := by
    rw [NamedType.token, if_pos hclass, hname]
    rfl
  constructor
  · rintro ⟨read, token, hread, hprinted, hmeans⟩
    rw [hname] at hread
    rw [htoken] at hprinted
    cases hread
    cases hprinted
    exact hmeans
  · intro hmeans
    exact ⟨name, name.short, hname, htoken, hmeans⟩

section

variable {context : QualifiedName} {imports : List QualifiedName}

/-- A short name that no import has is read as a name of the interface's namespace. -/
lemma resolve_short_of_not_imported (hc : context.WellFormed) (hi : ∀ i ∈ imports, i.WellFormed)
    {name : QualifiedName} (hname : name.WellFormed)
    (hfree : ∀ i ∈ imports, Text.caselessEq i.short name.short = false)
    (hpath : name.path = context.path) :
    (printedScope context imports).resolve name.short = name.text := by
  rw [Scope.resolve_of_isSegment _ (hname name.short (by simp)), printedScope_eq hc hi]
  have hnone : (imports.map importEntry).reverse.lookup (Text.lower name.short) = none := by
    rw [List.lookup_eq_none_iff]
    intro entry hentry
    rw [List.mem_reverse, List.mem_map] at hentry
    obtain ⟨i, himem, rfl⟩ := hentry
    have := hfree i himem
    rw [Text.caselessEq_comm] at this
    simpa [importEntry, Text.caselessEq] using this
  rw [Scope.imported?, hnone, Option.getD_none, Scope.declaredName, hc.isEmpty_pathText,
    QualifiedName.text_eq, QualifiedName.pathText, QualifiedName.pathText, hpath]

/-- A short name that an import has is read as an import that has it. -/
lemma exists_imported?_short (hc : context.WellFormed) (hi : ∀ i ∈ imports, i.WellFormed)
    {word : String} {i : QualifiedName} (himem : i ∈ imports)
    (hshort : Text.caselessEq i.short word = true) :
    ∃ j ∈ imports, Text.caselessEq j.short word = true ∧
      (printedScope context imports).imported? word = some j.text := by
  rw [printedScope_eq hc hi, Scope.imported?]
  have hsome : ((imports.map importEntry).reverse.lookup (Text.lower word)).isSome = true := by
    rw [List.lookup_isSome_iff]
    refine ⟨importEntry i, by simpa using ⟨i, himem, rfl⟩, ?_⟩
    rw [Text.caselessEq_iff] at hshort
    simp [importEntry, hshort]
  obtain ⟨full, hfull⟩ := Option.isSome_iff_exists.1 hsome
  obtain ⟨before, after, hsplit, _⟩ := List.lookup_eq_some_iff.1 hfull
  have hmem : (Text.lower word, full) ∈ (imports.map importEntry).reverse := by
    rw [hsplit]
    simp
  rw [List.mem_reverse, List.mem_map] at hmem
  obtain ⟨j, hj, hentry⟩ := hmem
  rw [importEntry, Prod.mk.injEq] at hentry
  exact ⟨j, hj, Text.caselessEq_iff.2 hentry.1, by rw [hfull, hentry.2]⟩

end

lemma wellFormed_of_contextOf {name : String} {context : QualifiedName}
    (h : contextOf name = .ok context) : context.WellFormed := by
  rw [contextOf] at h
  split at h
  · next hparse =>
    cases h
    exact QualifiedName.wellFormed_of_parse? hparse
  · cases h

section

variable {context : QualifiedName} {methods : List Method} {imports : List QualifiedName}

lemma wellFormed_of_mem_importsOf (himports : importsOf context methods = .ok imports) :
    ∀ i ∈ imports, i.WellFormed := by
  intro i hi
  exact wellFormed_of_mem_mentionedNames ((mem_importsOf himports).1 hi).1

/-- Two short names that differ in case alone are one entry of the scope.  So if both classes are read
back, and one of them is imported, they are one class. -/
lemma eq_import_of_resolve_short (hc : context.WellFormed)
    (himports : importsOf context methods = .ok imports)
    (hmeans : ∀ q ∈ mentionedNames methods, (printedScope context imports).resolve q.short = q.text)
    {i other : QualifiedName} (hi : i ∈ imports) (hother : other ∈ mentionedNames methods)
    (hclash : Text.caselessEq i.short other.short = true) : other = i := by
  have hwf := wellFormed_of_mem_importsOf himports
  obtain ⟨j, _, _, hj⟩ := exists_imported?_short hc hwf hi hclash
  have hone : ∀ q ∈ mentionedNames methods,
      (printedScope context imports).imported? q.short = some j.text → q.text = j.text := by
    intro q hq hqj
    have hseg := wellFormed_of_mem_mentionedNames hq q.short (by simp)
    rw [← hmeans q hq, Scope.resolve_of_isSegment _ hseg, hqj, Option.getD_some]
  have hij : (printedScope context imports).imported? i.short = some j.text := by
    rw [Scope.imported?, Text.caselessEq_iff.1 hclash]
    exact hj
  have hiq : i ∈ mentionedNames methods := ((mem_importsOf himports).1 hi).1
  apply QualifiedName.text_injective (wellFormed_of_mem_mentionedNames hother) (hwf i hi)
  rw [hone other hother hj, hone i hiq hij]

/-- Where no import has the short name of another mentioned class, short names are read right. -/
lemma resolve_short_of_no_clash (hc : context.WellFormed)
    (himports : importsOf context methods = .ok imports)
    (hfree : ∀ i ∈ imports, ∀ other ∈ mentionedNames methods, other ≠ i →
      Text.caselessEq i.short other.short = false)
    {q : QualifiedName} (hq : q ∈ mentionedNames methods) :
    (printedScope context imports).resolve q.short = q.text := by
  have hwf := wellFormed_of_mem_importsOf himports
  have hqwf := wellFormed_of_mem_mentionedNames hq
  by_cases hpath : q.path = context.path
  · apply resolve_short_of_not_imported hc hwf hqwf _ hpath
    intro i hi
    apply hfree i hi q hq
    rintro rfl
    exact ((mem_importsOf himports).1 hi).2 hpath
  · have hqi : q ∈ imports := (mem_importsOf himports).2 ⟨hq, hpath⟩
    obtain ⟨j, hj, hshort, hmeans⟩ :=
      exists_imported?_short hc hwf hqi (Text.caselessEq_refl q.short)
    have hjq : q = j := by
      by_contra hne
      rw [hfree j hj q hq hne] at hshort
      cases hshort
    rw [Scope.resolve_of_isSegment _ (hqwf q.short (by simp)), hmeans, Option.getD_some, hjq]

end

/-- Printed types mean what they were made from, in the scope of the printed file, exactly when none of
the imports has the short name of another class that the signatures mention. -/
theorem printedTypes_resolve_iff {name : String} {methods : List Method} {context : QualifiedName}
    {imports : List QualifiedName} (hcontext : contextOf name = .ok context)
    (himports : importsOf context methods = .ok imports) :
    (∀ t ∈ methods.flatMap Method.types, t.namesClass = true →
        ReadsBack (printedScope context imports) t) ↔
      ∀ i ∈ imports, ∀ other ∈ mentionedNames methods, other ≠ i →
        Text.caselessEq i.short other.short = false := by
  have hc := wellFormed_of_contextOf hcontext
  constructor
  · intro hread i hi other hother hne
    by_contra hclash
    rw [Bool.not_eq_false] at hclash
    refine hne (eq_import_of_resolve_short hc himports ?_ hi hother hclash)
    intro q hq
    obtain ⟨t, ht, hclass, hparse⟩ := mem_mentionedNames.1 hq
    exact (readsBack_iff hclass hparse).1 (hread t ht hclass)
  · intro hfree t ht hclass
    obtain ⟨q, hparse⟩ := exists_parse?_of_importsOf himports ht hclass
    rw [readsBack_iff hclass hparse]
    exact resolve_short_of_no_clash hc himports hfree (mem_mentionedNames.2 ⟨t, ht, hclass, hparse⟩)

/-- A class of the interface's namespace, a global one and one of another namespace in one signature. -/
theorem printedTypes_resolve_mixed :
    let methods : List Method :=
      [{ name := "bill"
         parameters :=
          [{ name := "order", type := some ⟨"\\App\\Order", false, false⟩ },
           { name := "at", type := some ⟨"DateTime", false, true⟩ }]
         result := some ⟨"Billing\\Invoice", false, false⟩ }]
    let context : QualifiedName := ⟨["App"], "Api"⟩
    let imports : List QualifiedName := [⟨[], "DateTime"⟩, ⟨["Billing"], "Invoice"⟩]
    contextOf "App\\Api" = .ok context ∧ importsOf context methods = .ok imports ∧
      ∀ t ∈ methods.flatMap Method.types, t.namesClass = true →
        ReadsBack (printedScope context imports) t := by
  intro methods context imports
  have hcontext : contextOf "App\\Api" = .ok context := rfl
  have himports : importsOf context methods = .ok imports := rfl
  exact ⟨hcontext, himports, (printedTypes_resolve_iff hcontext himports).2 (by decide)⟩

end PhpInterface
