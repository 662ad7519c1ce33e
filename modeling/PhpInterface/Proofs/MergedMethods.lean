import Mathlib.Data.List.Nodup
import PhpInterface.Ancestry.Resolve

/-!
# Merging methods

Methods are merged one list after the other, and at every level of a hierarchy anew.  All these merges
together follow one rule: of the methods with one name the first counts.  `firstByName` is that rule on a
flat sequence, and `withMissing_eq` says that a merge is an instance of it.

What makes nested merges flat is that the rule absorbs itself: a part of a sequence from which it has
dropped something already may be replaced by the whole part (`firstByName_append_firstByName`), because
what was dropped there has a name that comes earlier.
-/

namespace PhpInterface

/-- What tells methods apart: the name in small letters. -/
def ClassMethod.key (m : ClassMethod) : String :=
  Text.lower m.name

/-- Of the methods with one name the first, and none whose name is taken. -/
def firstByName (taken : List String) : List ClassMethod → List ClassMethod
  | [] => []
  | m :: rest =>
    if m.key ∈ taken then firstByName taken rest else m :: firstByName (m.key :: taken) rest

lemma hasMethod_iff {methods : List ClassMethod} {m : ClassMethod} :
    hasMethod methods m.name = true ↔ m.key ∈ methods.map ClassMethod.key := by
  simp only [hasMethod, List.any_eq_true, Text.caselessEq_iff, List.mem_map, ClassMethod.key]

/-! ## The rule on a sequence -/

/-- Which names are taken matters, not in which order. -/
lemma firstByName_congr {taken other : List String} (h : ∀ k, k ∈ taken ↔ k ∈ other)
    (l : List ClassMethod) : firstByName taken l = firstByName other l := by
  induction l generalizing taken other with
  | nil => rfl
  | cons m rest ih =>
      by_cases hm : m.key ∈ taken
      · rw [firstByName, if_pos hm, firstByName, if_pos ((h m.key).1 hm)]
        exact ih h
      · rw [firstByName, if_neg hm, firstByName, if_neg fun hm' => hm ((h m.key).2 hm')]
        rw [@ih (m.key :: taken) (m.key :: other) fun k => by simp [h k]]

lemma firstByName_append (taken : List String) (a b : List ClassMethod) :
    firstByName taken (a ++ b) =
      firstByName taken a ++ firstByName (a.map ClassMethod.key ++ taken) b := by
  induction a generalizing taken with
  | nil => rfl
  | cons m rest ih =>
      rw [List.cons_append]
      by_cases hm : m.key ∈ taken
      · rw [firstByName, if_pos hm, firstByName, if_pos hm, ih]
        congr 1
        apply firstByName_congr
        intro k
        by_cases hk : k = m.key
        · simp [hk, hm]
        · simp [hk]
      · rw [firstByName, if_neg hm, firstByName, if_neg hm, ih, List.cons_append]
        congr 2
        apply firstByName_congr
        intro k
        simp only [List.mem_append, List.mem_cons, List.map_cons]
        tauto

/-- Dropping less before makes no difference. -/
lemma firstByName_firstByName {taken fewer : List String} (h : ∀ k ∈ fewer, k ∈ taken)
    (l : List ClassMethod) : firstByName taken (firstByName fewer l) = firstByName taken l := by
  induction l generalizing taken fewer with
  | nil => rfl
  | cons m rest ih =>
      by_cases hfewer : m.key ∈ fewer
      · rw [firstByName, if_pos hfewer, ih h, firstByName, if_pos (h m.key hfewer)]
      · rw [firstByName, if_neg hfewer]
        by_cases hm : m.key ∈ taken
        · rw [firstByName, if_pos hm, firstByName, if_pos hm]
          apply ih
          intro k hk
          rcases List.mem_cons.1 hk with rfl | hk
          · exact hm
          · exact h k hk
        · rw [firstByName, if_neg hm, firstByName, if_neg hm, ih]
          intro k hk
          rcases List.mem_cons.1 hk with rfl | hk
          · exact List.mem_cons_self
          · exact List.mem_cons_of_mem _ (h k hk)

/-- The names that are left are those that occur and are not taken. -/
lemma mem_key_firstByName {taken : List String} {l : List ClassMethod} {k : String} :
    k ∈ (firstByName taken l).map ClassMethod.key ↔ k ∈ l.map ClassMethod.key ∧ k ∉ taken := by
  induction l generalizing taken with
  | nil => simp [firstByName]
  | cons m rest ih =>
      by_cases hm : m.key ∈ taken
      · rw [firstByName, if_pos hm, ih, List.map_cons, List.mem_cons]
        constructor
        · rintro ⟨hk, hfree⟩
          exact ⟨Or.inr hk, hfree⟩
        · rintro ⟨rfl | hk, hfree⟩
          · exact absurd hm hfree
          · exact ⟨hk, hfree⟩
      · rw [firstByName, if_neg hm, List.map_cons, List.mem_cons, ih, List.map_cons, List.mem_cons,
          List.mem_cons]
        by_cases hk : k = m.key
        · simp [hk, hm]
        · simp [hk]

/-- No name is left twice. -/
lemma nodup_key_firstByName (taken : List String) (l : List ClassMethod) :
    ((firstByName taken l).map ClassMethod.key).Nodup := by
  induction l generalizing taken with
  | nil => simp [firstByName]
  | cons m rest ih =>
      by_cases hm : m.key ∈ taken
      · rw [firstByName, if_pos hm]
        exact ih taken
      · rw [firstByName, if_neg hm, List.map_cons, List.nodup_cons]
        refine ⟨?_, ih (m.key :: taken)⟩
        intro hmem
        exact (mem_key_firstByName.1 hmem).2 List.mem_cons_self

/-- A part from which something was dropped stands for the whole part, as long as what was dropped has a
name that is taken or comes earlier. -/
lemma firstByName_append_firstByName {taken fewer : List String} {a : List ClassMethod}
    (h : ∀ k ∈ fewer, k ∈ a.map ClassMethod.key ++ taken) (b c : List ClassMethod) :
    firstByName taken (a ++ (firstByName fewer b ++ c)) = firstByName taken (a ++ (b ++ c)) := by
  rw [firstByName_append, firstByName_append, firstByName_append taken, firstByName_append,
    firstByName_firstByName h]
  congr 2
  apply firstByName_congr
  intro k
  have hk := h k
  simp only [List.mem_append, mem_key_firstByName] at hk ⊢
  tauto

/-- A change that keeps the names can be made before or after. -/
lemma map_firstByName {f : ClassMethod → ClassMethod} (hf : ∀ m, (f m).key = m.key)
    (taken : List String) (l : List ClassMethod) :
    (firstByName taken l).map f = firstByName taken (l.map f) := by
  induction l generalizing taken with
  | nil => rfl
  | cons m rest ih =>
      rw [List.map_cons, firstByName, firstByName, hf m]
      by_cases hm : m.key ∈ taken
      · rw [if_pos hm, if_pos hm, ih]
      · rw [if_neg hm, if_neg hm, List.map_cons, ih]

/-- The first method of a name stays the first, unless the name is taken. -/
lemma find?_firstByName {taken : List String} {l : List ClassMethod} {name : String}
    (h : Text.lower name ∉ taken) :
    (firstByName taken l).find? (fun a => Text.caselessEq a.name name) =
      l.find? fun a => Text.caselessEq a.name name := by
  induction l generalizing taken with
  | nil => rfl
  | cons m rest ih =>
      by_cases hm : m.key ∈ taken
      · have hne : Text.caselessEq m.name name = false := by
          rw [Text.caselessEq_eq_false_iff]
          intro heq
          exact h (heq ▸ hm)
        rw [firstByName, if_pos hm, List.find?_cons, hne]
        exact ih h
      · rw [firstByName, if_neg hm, List.find?_cons, List.find?_cons]
        cases heq : Text.caselessEq m.name name with
        | true => rfl
        | false =>
            apply ih
            rw [List.mem_cons, not_or]
            refine ⟨?_, h⟩
            intro hkey
            exact Text.caselessEq_eq_false_iff.1 heq hkey.symm

/-- What is left is the first of its name. -/
lemma find?_of_mem_firstByName {taken : List String} {l : List ClassMethod} {m : ClassMethod}
    (h : m ∈ firstByName taken l) : l.find? (fun a => Text.caselessEq a.name m.name) = some m := by
  induction l generalizing taken with
  | nil => simp [firstByName] at h
  | cons a rest ih =>
      -- any method whose name is taken has another name than `m`
      have hskip : ∀ taken', m ∈ firstByName taken' rest → a.key ∈ taken' →
          Text.caselessEq a.name m.name = false := by
        intro taken' hm ha
        have hfree := (mem_key_firstByName.1 (List.mem_map_of_mem hm)).2
        rw [Text.caselessEq_eq_false_iff]
        intro heq
        have hkey : a.key = m.key := heq
        exact hfree (hkey ▸ ha)
      rw [firstByName] at h
      by_cases ha : a.key ∈ taken
      · rw [if_pos ha] at h
        rw [List.find?_cons, hskip taken h ha]
        exact ih h
      · rw [if_neg ha, List.mem_cons] at h
        rcases h with rfl | h
        · rw [List.find?_cons, Text.caselessEq_refl]
        · rw [List.find?_cons, hskip (a.key :: taken) h List.mem_cons_self]
          exact ih h

lemma mem_of_mem_firstByName {taken : List String} {l : List ClassMethod} {m : ClassMethod}
    (h : m ∈ firstByName taken l) : m ∈ l :=
  List.mem_of_find?_eq_some (find?_of_mem_firstByName h)

/-! ## Merges -/

/-- A merge appends what the rule leaves of the other methods. -/
lemma withMissing_eq (methods others : List ClassMethod) :
    withMissing methods others =
      methods ++ firstByName (methods.map ClassMethod.key) others := by
  induction others generalizing methods with
  | nil => simp [withMissing, firstByName]
  | cons m rest ih =>
      rw [withMissing, List.foldl_cons, firstByName]
      by_cases hm : m.key ∈ methods.map ClassMethod.key
      · rw [if_pos (hasMethod_iff.2 hm), if_pos hm]
        exact ih methods
      · rw [if_neg fun hhas => hm (hasMethod_iff.1 hhas), if_neg hm]
        have hrest := ih (methods ++ [m])
        rw [withMissing] at hrest
        rw [hrest, List.append_assoc, List.singleton_append]
        congr 2
        apply firstByName_congr
        intro k
        simp only [List.map_append, List.map_cons, List.map_nil, List.mem_append, List.mem_cons]
        tauto

lemma map_key_withMissing (methods others : List ClassMethod) (k : String) :
    k ∈ (withMissing methods others).map ClassMethod.key ↔
      k ∈ methods.map ClassMethod.key ∨ k ∈ others.map ClassMethod.key := by
  rw [withMissing_eq, List.map_append, List.mem_append, mem_key_firstByName]
  tauto

/-- Merging with methods whose names are all taken adds nothing. -/
lemma withMissing_eq_self {methods others : List ClassMethod}
    (h : ∀ k ∈ others.map ClassMethod.key, k ∈ methods.map ClassMethod.key) :
    withMissing methods others = methods := by
  have hnone : firstByName (methods.map ClassMethod.key) others = [] := by
    rw [← List.map_eq_nil_iff, List.eq_nil_iff_forall_not_mem]
    intro k hk
    obtain ⟨hmem, hfree⟩ := mem_key_firstByName.1 hk
    exact hfree (h k hmem)
  rw [withMissing_eq, hnone, List.append_nil]

/-- Merging twice is merging with both, one after the other. -/
lemma withMissing_withMissing (a b c : List ClassMethod) :
    withMissing (withMissing a b) c = withMissing a (b ++ c) := by
  rw [withMissing_eq a (b ++ c), firstByName_append, ← List.append_assoc, ← withMissing_eq,
    withMissing_eq (withMissing a b)]
  congr 1
  apply firstByName_congr
  intro k
  rw [map_key_withMissing, List.mem_append, or_comm]

/-- Merging with a sequence that holds a merge is merging with the parts. -/
lemma withMissing_append_withMissing (methods a b c d : List ClassMethod) :
    withMissing methods (a ++ (withMissing b c ++ d)) = withMissing methods (a ++ (b ++ c ++ d)) := by
  rw [withMissing_eq, withMissing_eq, withMissing_eq]
  congr 1
  have hkeys : ∀ k ∈ b.map ClassMethod.key,
      k ∈ (a ++ b).map ClassMethod.key ++ methods.map ClassMethod.key := by
    intro k hk
    rw [List.map_append]
    exact List.mem_append_left _ (List.mem_append_right _ hk)
  simpa only [List.append_assoc] using firstByName_append_firstByName hkeys c d

lemma withMissing_absorb (methods a b : List ClassMethod) :
    withMissing methods (withMissing a b) = withMissing methods (a ++ b) := by
  simpa using withMissing_append_withMissing methods [] a b []

/-- A change that keeps the names does not change which methods count. -/
lemma map_withMissing {f : ClassMethod → ClassMethod} (hf : ∀ m, (f m).key = m.key)
    (methods others : List ClassMethod) :
    (withMissing methods others).map f = withMissing (methods.map f) (others.map f) := by
  have hkeys : (methods.map f).map ClassMethod.key = methods.map ClassMethod.key := by
    rw [List.map_map]
    exact List.map_congr_left fun m _ => hf m
  rw [withMissing_eq, withMissing_eq, List.map_append, map_firstByName hf, hkeys]

lemma withMissing_firstByName (methods others : List ClassMethod) :
    withMissing methods (firstByName [] others) = withMissing methods others := by
  rw [withMissing_eq, withMissing_eq, firstByName_firstByName (by simp)]

lemma nodup_key_withMissing {methods : List ClassMethod} (h : (methods.map ClassMethod.key).Nodup)
    (others : List ClassMethod) : ((withMissing methods others).map ClassMethod.key).Nodup := by
  rw [withMissing_eq, List.map_append]
  refine h.append (nodup_key_firstByName _ others) ?_
  intro k hk hk'
  exact (mem_key_firstByName.1 hk').2 hk

/-! ## Marks -/

@[simp] lemma key_usedBy (user : String) (m : ClassMethod) : (m.usedBy user).key = m.key := rfl

@[simp] lemma key_markedBy (asked : List ClassMethod) (m : ClassMethod) :
    (m.markedBy asked).key = m.key := rfl

@[simp] lemma markedBy_markedBy (asked other : List ClassMethod) (m : ClassMethod) :
    (m.markedBy other).markedBy asked = m.markedBy asked := rfl

lemma markedBy_firstByName (asked : List ClassMethod) (m : ClassMethod) :
    m.markedBy (firstByName [] asked) = m.markedBy asked := by
  simp only [ClassMethod.markedBy, find?_firstByName (List.not_mem_nil (a := Text.lower m.name))]

/-- A method that is the first of its name among those that are asked for has its own mark. -/
lemma markedBy_of_mem_firstByName {taken : List String} {asked : List ClassMethod} {m : ClassMethod}
    (h : m ∈ firstByName taken asked) : m.markedBy asked = m := by
  simp only [ClassMethod.markedBy, find?_of_mem_firstByName h, Option.bind_some]

end PhpInterface
