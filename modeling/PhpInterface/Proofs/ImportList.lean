import Mathlib.Data.List.Nodup
import PhpInterface.Print.Draft
import PhpInterface.Proofs.PrintedTypes

/-!
# The list of imports

The imports of an interface can be told from its signatures alone: they are the mentioned classes of other
namespaces, in the order of their first mention and each once.  `importsOf_eq_ok_iff_named` says this and
when there is such a list at all, and the rest are consequences: what is printed for two imports differs,
how a class is spelled does not matter, and more methods add imports at the end.

A class is mentioned by its full name, with or without a separator in front and whether or not `null` is
accepted beside it.  The list compares names after they are read, and reading takes the separator off.
-/

namespace PhpInterface

/-! ## First occurrences -/

section

variable {α : Type} [DecidableEq α]

lemma nodup_firstOccurrences (l : List α) : (firstOccurrences l).Nodup := by
  induction l with
  | nil => simp [firstOccurrences]
  | cons a rest ih =>
      unfold firstOccurrences
      rw [List.nodup_cons]
      exact ⟨by simp, ih.filter _⟩

/-- What comes later adds only what is new. -/
lemma firstOccurrences_append (a b : List α) :
    firstOccurrences (a ++ b) = firstOccurrences a ++ (firstOccurrences b).filter (· ∉ firstOccurrences a) := by
  induction a with
  | nil => simp [firstOccurrences]
  | cons x rest ih =>
      simp only [List.cons_append, firstOccurrences, ih, List.filter_append, List.filter_filter]
      congr 2
      refine List.filter_congr fun y _ => ?_
      by_cases hy : y = x <;> simp [hy]

/-- The elements that are kept stand in the order of their first places in the whole list. -/
lemma pairwise_idxOf_firstOccurrences_filter (p : α → Bool) (l : List α) :
    (firstOccurrences (l.filter p)).Pairwise fun a b => l.idxOf a < l.idxOf b := by
  induction l with
  | nil => simp [firstOccurrences]
  | cons x rest ih =>
      -- behind the first element all places are one further on
      have hshift : ∀ a b, a ≠ x → b ≠ x → rest.idxOf a < rest.idxOf b →
          (x :: rest).idxOf a < (x :: rest).idxOf b := by
        intro a b ha hb hlt
        rw [List.idxOf_cons_ne _ (Ne.symm ha), List.idxOf_cons_ne _ (Ne.symm hb)]
        omega
      by_cases hx : p x = true
      · rw [List.filter_cons_of_pos hx]
        unfold firstOccurrences
        refine List.Pairwise.cons ?_ ?_
        · intro b hb
          have hne : b ≠ x := by simpa using (List.mem_filter.1 hb).2
          rw [List.idxOf_cons_self, List.idxOf_cons_ne _ (Ne.symm hne)]
          omega
        · refine (ih.filter _).imp_of_mem fun {a b} ha hb hlt => ?_
          have hane : a ≠ x := by simpa using (List.mem_filter.1 ha).2
          have hbne : b ≠ x := by simpa using (List.mem_filter.1 hb).2
          exact hshift a b hane hbne hlt
      · rw [List.filter_cons_of_neg hx]
        have hkept : ∀ a ∈ firstOccurrences (rest.filter p), a ≠ x := by
          rintro a ha rfl
          exact hx (List.mem_filter.1 (mem_firstOccurrences.1 ha)).2
        exact ih.imp_of_mem fun {a b} ha hb hlt => hshift a b (hkept a ha) (hkept b hb) hlt

end

/-! ## The list -/

/-- The name that a type has to be imported by, if it has one. -/
def NamedType.outside? (context : QualifiedName) (t : NamedType) : Option QualifiedName :=
  if t.namesClass then (QualifiedName.parse? t.name).filter (·.path ≠ context.path) else none

/-- Every class that is mentioned has a name. -/
def AllNamed (methods : List Method) : Prop :=
  ∀ t ∈ methods.flatMap Method.types, t.namesClass = true → (QualifiedName.parse? t.name).isSome = true

section

variable {context : QualifiedName} {methods : List Method} {imports : List QualifiedName}

lemma importIn_of_named {t : NamedType}
    (h : t.namesClass = true → (QualifiedName.parse? t.name).isSome = true) :
    t.importIn context = .ok (t.outside? context) := by
  rw [importIn_eq_ok_iff, NamedType.outside?]
  by_cases hclass : t.namesClass = true
  · obtain ⟨name, hname⟩ := Option.isSome_iff_exists.1 (h hclass)
    rw [if_pos hclass, if_pos hclass]
    refine ⟨name, hname, ?_⟩
    by_cases hpath : name.path = context.path <;> simp [hname, hpath]
  · simp [hclass]

lemma filterMap_outside? (context : QualifiedName) (types : List NamedType) :
    types.filterMap (NamedType.outside? context) =
      ((types.filter NamedType.namesClass).filterMap fun t => QualifiedName.parse? t.name).filter
        (·.path ≠ context.path) := by
  rw [List.filter_filterMap, List.filterMap_filter]
  refine List.filterMap_congr fun t _ => ?_
  by_cases hclass : t.namesClass = true <;> simp [NamedType.outside?, hclass]

/-- There is a list of imports exactly when every mentioned class has a name, and then it has those of other
namespaces, in order of first mention. -/
lemma importsOf_eq_ok_iff_named :
    importsOf context methods = .ok imports ↔
      AllNamed methods ∧
        imports = firstOccurrences ((mentionedNames methods).filter (·.path ≠ context.path)) := by
  have hlist : AllNamed methods → importsOf context methods =
      .ok (firstOccurrences ((mentionedNames methods).filter (·.path ≠ context.path))) := by
    intro hnamed
    rw [importsOf, mapM_eq_ok_map fun t ht => importIn_of_named (hnamed t ht), ok_bind,
      List.filterMap_map, Function.id_comp, filterMap_outside?]
    rfl
  constructor
  · intro h
    have hnamed : AllNamed methods := fun t ht hclass =>
      Option.isSome_iff_exists.2 (exists_parse?_of_importsOf h ht hclass)
    rw [hlist hnamed] at h
    exact ⟨hnamed, (Except.ok.inj h).symm⟩
  · rintro ⟨hnamed, rfl⟩
    exact hlist hnamed

lemma mentionedNames_append (a b : List Method) :
    mentionedNames (a ++ b) = mentionedNames a ++ mentionedNames b := by
  simp [mentionedNames]

lemma allNamed_append {a b : List Method} : AllNamed (a ++ b) ↔ AllNamed a ∧ AllNamed b := by
  simp only [AllNamed, List.flatMap_append, List.mem_append, or_imp, forall_and]

/-- The methods that come later add the imports that are new. -/
lemma importsOf_append {a b : List Method} (h : importsOf context (a ++ b) = .ok imports) :
    ∃ ia ib, importsOf context a = .ok ia ∧ importsOf context b = .ok ib ∧
      imports = ia ++ ib.filter (· ∉ ia) := by
  obtain ⟨hnamed, himports⟩ := importsOf_eq_ok_iff_named.1 h
  obtain ⟨ha, hb⟩ := allNamed_append.1 hnamed
  rw [mentionedNames_append, List.filter_append, firstOccurrences_append] at himports
  exact ⟨_, _, importsOf_eq_ok_iff_named.2 ⟨ha, rfl⟩, importsOf_eq_ok_iff_named.2 ⟨hb, rfl⟩, himports⟩

/-! ## Printed imports -/

/-- The line that is printed for an import. -/
def importLine (name : QualifiedName) : String :=
  "use " ++ name.text ++ ";\n"

lemma importLine_injective {a b : QualifiedName} (ha : a.WellFormed) (hb : b.WellFormed)
    (h : importLine a = importLine b) : a = b := by
  apply QualifiedName.text_injective ha hb
  rw [← String.toList_inj] at h ⊢
  simpa [importLine] using h

lemma nodup_importLines (h : importsOf context methods = .ok imports) :
    (imports.map importLine).Nodup := by
  have hnodup : imports.Nodup := by
    rw [(importsOf_eq_ok_iff_named.1 h).2]
    exact nodup_firstOccurrences _
  have hwf := wellFormed_of_mem_importsOf h
  exact List.Nodup.map_on (fun a ha b hb => importLine_injective (hwf a ha) (hwf b hb)) hnodup

/-- These lines are what the printing of an interface writes, one after the other. -/
lemma importLines_infix_draft {i : Interface} (hcontext : contextOf i.name = .ok context)
    (h : importsOf context i.methods = .ok imports) : imports.map importLine <:+: i.draft.pieces := by
  unfold Interface.draft
  simp only [hcontext, h, Draft.after, Draft.afterAll]
  rw [← List.cons_append]
  exact List.infix_append' _ _ _

/-- Two spellings of a class that differ in the separator in front are one name. -/
lemma parse?_congr_dropRoot {a b : String}
    (h : QualifiedName.dropRoot a.toList = QualifiedName.dropRoot b.toList) :
    QualifiedName.parse? a = QualifiedName.parse? b := by
  unfold QualifiedName.parse?
  rw [h]

end

/-! ## Exactness -/

/-- Whenever the imports of some methods can be collected, they are the mentioned classes of other
namespaces, each once and in the order in which the signatures first mention them.  The lines that are printed
for them differ from one another.  Types whose names differ in the separator in front at most have one and
the same import, if they have any, whatever else they say.  And if the methods are given in two parts, the
second part adds those of its imports that the first one does not have. -/
theorem imports_exact {context : QualifiedName} {methods : List Method} {imports : List QualifiedName}
    (h : importsOf context methods = .ok imports) :
    (∀ t ∈ methods.flatMap Method.types, t.namesClass = true →
      ∃ name, QualifiedName.parse? t.name = some name) ∧
    (∀ name, name ∈ imports ↔ ∃ t ∈ methods.flatMap Method.types, t.namesClass = true ∧
      QualifiedName.parse? t.name = some name ∧ name.path ≠ context.path) ∧
    imports.Nodup ∧
    (imports.Pairwise fun a b => (mentionedNames methods).idxOf a < (mentionedNames methods).idxOf b) ∧
    (imports.map importLine).Nodup ∧
    (∀ i : Interface, contextOf i.name = .ok context → i.methods = methods →
      imports.map importLine <:+: i.draft.pieces) ∧
    (∀ t ∈ methods.flatMap Method.types, ∀ u ∈ methods.flatMap Method.types,
      t.namesClass = true → u.namesClass = true →
      QualifiedName.dropRoot t.name.toList = QualifiedName.dropRoot u.name.toList →
      ∃ found, t.importIn context = .ok found ∧ u.importIn context = .ok found ∧
        ∀ name ∈ found, imports.count name = 1) ∧
    ∀ a b, methods = a ++ b → ∃ ia ib, importsOf context a = .ok ia ∧ importsOf context b = .ok ib ∧
      imports = ia ++ ib.filter (· ∉ ia) := by
  obtain ⟨hnamed, himports⟩ := importsOf_eq_ok_iff_named.1 h
  have hnodup : imports.Nodup := himports ▸ nodup_firstOccurrences _
  have hmem : ∀ name, name ∈ imports ↔ ∃ t ∈ methods.flatMap Method.types, t.namesClass = true ∧
      QualifiedName.parse? t.name = some name ∧ name.path ≠ context.path := by
    intro name
    rw [mem_importsOf h, mem_mentionedNames]
    simp only [← and_assoc, exists_and_right]
  refine ⟨fun t ht hclass => exists_parse?_of_importsOf h ht hclass, hmem, hnodup,
    himports ▸ pairwise_idxOf_firstOccurrences_filter _ _, nodup_importLines h, ?_, ?_, ?_⟩
  · rintro i hcontext rfl
    exact importLines_infix_draft hcontext h
  · intro t ht u hu hclass huclass hroot
    have hsame : t.outside? context = u.outside? context := by
      simp only [NamedType.outside?, hclass, huclass, parse?_congr_dropRoot hroot]
    refine ⟨t.outside? context, importIn_of_named (hnamed t ht), ?_, ?_⟩
    · rw [hsame]
      exact importIn_of_named (hnamed u hu)
    · intro name hname
      apply List.count_eq_one_of_mem hnodup
      simp only [NamedType.outside?, if_pos hclass, Option.mem_def, Option.filter_eq_some_iff,
        decide_eq_true_eq] at hname
      exact (hmem name).2 ⟨t, ht, hclass, hname⟩
  · rintro a b rfl
    exact importsOf_append h

/-- Methods that mention one class of another namespace in three spellings, a global class, a class of the
interface's own namespace and the class they stand in. -/
def tradeMethods : List Method :=
  [{ name := "buy"
     parameters :=
      [{ name := "item", type := some ⟨"\\Lib\\Item", false, false⟩ },
       { name := "buyer", type := some ⟨"App\\Buyer", false, false⟩ }]
     result := some ⟨"Lib\\Item", false, true⟩ },
   { name := "sell"
     parameters :=
      [{ name := "shop", type := some ⟨"Shop", false, false⟩ },
       { name := "item", type := some ⟨"Lib\\Item", false, false⟩ }]
     result := some ⟨"self", false, false⟩ }]

theorem imports_exact_trade :
    importsOf ⟨["App"], "Api"⟩ tradeMethods = .ok [⟨["Lib"], "Item"⟩, ⟨[], "Shop"⟩] ∧
    ([⟨["Lib"], "Item"⟩, ⟨[], "Shop"⟩].map importLine).Nodup ∧
    (∃ found, (⟨"\\Lib\\Item", false, false⟩ : NamedType).importIn ⟨["App"], "Api"⟩ = .ok found ∧
      (⟨"Lib\\Item", false, true⟩ : NamedType).importIn ⟨["App"], "Api"⟩ = .ok found ∧
      ∀ name ∈ found, [⟨["Lib"], "Item"⟩, ⟨[], "Shop"⟩].count name = 1) ∧
    ∃ ia ib, importsOf ⟨["App"], "Api"⟩ (tradeMethods.take 1) = .ok ia ∧
      importsOf ⟨["App"], "Api"⟩ (tradeMethods.drop 1) = .ok ib ∧
      [⟨["Lib"], "Item"⟩, ⟨[], "Shop"⟩] = ia ++ ib.filter (· ∉ ia) := by
  have himports : importsOf ⟨["App"], "Api"⟩ tradeMethods =
      .ok [⟨["Lib"], "Item"⟩, ⟨[], "Shop"⟩] := rfl
  obtain ⟨-, -, -, -, hlines, -, hspellings, hparts⟩ := imports_exact himports
  refine ⟨himports, hlines, ?_, hparts _ _ rfl⟩
  exact hspellings _ (by decide) _ (by decide) (by decide) (by decide) (by decide)

end PhpInterface
