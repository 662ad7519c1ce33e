import Mathlib.Data.List.Nodup
import Mathlib.Data.List.Sort
import PhpInterface.FileTree.Sources
import PhpInterface.Proofs.WrittenFiles

/-!
# The order of files

A folder is told by a file system as a list of entries, in an order that means nothing.  The files of a tree
come in an order of their own: by the names that lead to them, one name after the other, each compared byte by
byte (`NamesBefore`).  It differs from the order of paths as texts, since the slash has a place among the
other characters but none among names.

In a tree where no folder has two entries of one name, a file is listed exactly if its names lead to it
(`mem_files_iff`), and the names increase strictly (`pairwise_files`).  Both together determine the list, so
it does not depend on the order of entries (`files_eq_of_node?`); `Reordered` is a change of that order.
-/

namespace PhpInterface.FileTree

/-! ## Trees of a file system -/

/-- A name that an entry of a folder can have. -/
def IsEntryName (name : String) : Prop :=
  (name ≠ "" ∧ name ≠ "." ∧ name ≠ "..") ∧ '/' ∉ name.toList

/-- Every folder has names for its entries that tell them apart. -/
inductive WellNamed : FileTree → Prop where
  | file (bytes : List UInt8) : WellNamed (.file bytes)
  | folder {entries : List (String × FileTree)} (hdistinct : (entries.map Prod.fst).Nodup)
      (hnames : ∀ e ∈ entries, IsEntryName e.1) (hbelow : ∀ e ∈ entries, WellNamed e.2) :
      WellNamed (.folder entries)

/-- The second tree differs from the first in the order in which its folders tell their entries. -/
inductive Reordered : FileTree → FileTree → Prop where
  | shuffle {entries others : List (String × FileTree)} (h : entries.Perm others) :
      Reordered (.folder entries) (.folder others)
  | inside {before after : List (String × FileTree)} {name : String} {t u : FileTree} (h : Reordered t u) :
      Reordered (.folder (before ++ (name, t) :: after)) (.folder (before ++ (name, u) :: after))
  | trans {t u v : FileTree} (h : Reordered t u) (k : Reordered u v) : Reordered t v

section

variable {entries others : List (String × FileTree)} {t u : FileTree} {name : String}
  {names below : List String} {x : Node}

lemma WellNamed.distinct (h : (FileTree.folder entries).WellNamed) : (entries.map Prod.fst).Nodup := by
  cases h with
  | folder hdistinct _ _ => exact hdistinct

lemma WellNamed.entry (h : (FileTree.folder entries).WellNamed) (he : (name, t) ∈ entries) :
    IsEntryName name ∧ t.WellNamed := by
  cases h with
  | folder _ hnames hbelow => exact ⟨hnames _ he, hbelow _ he⟩

lemma node?_folder_cons (h : (FileTree.folder entries).WellNamed) :
    (FileTree.folder entries).node? (name :: below) = some x ↔
      ∃ t, (name, t) ∈ entries ∧ t.node? below = some x := by
  rw [node?_cons, Option.bind_eq_some_iff]
  simp only [child?, mem_iff_lookup h.distinct]

lemma WellNamed.of_descend? (h : t.WellNamed) (hu : descend? names t = some u) : u.WellNamed := by
  induction names generalizing t with
  | nil => exact Option.some.inj hu ▸ h
  | cons name rest ih =>
      rw [descend?, Option.bind_eq_some_iff] at hu
      obtain ⟨sub, hsub, hu⟩ := hu
      obtain ⟨entries, rfl, hlookup⟩ := exists_folder_of_child? hsub
      exact ih (h.entry ((mem_iff_lookup h.distinct).2 hlookup)).2 hu

/-- The names that lead somewhere are names of entries. -/
lemma WellNamed.isEntryName (h : t.WellNamed) (hx : t.node? names = some x) :
    ∀ name ∈ names, IsEntryName name := by
  induction names generalizing t with
  | nil => simp
  | cons name rest ih =>
      cases t with
      | file bytes => cases hx
      | folder entries =>
          obtain ⟨sub, hmem, hsub⟩ := (node?_folder_cons h).1 hx
          exact List.forall_mem_cons.2 ⟨(h.entry hmem).1, ih (h.entry hmem).2 hsub⟩

end

/-! ## The order of entries -/

namespace Reordered

variable {entries others before after : List (String × FileTree)} {t u : FileTree} {name : String}

lemma wellNamed (h : Reordered t u) (ht : t.WellNamed) : u.WellNamed := by
  induction h with
  | shuffle hperm =>
      exact .folder ((hperm.map Prod.fst).nodup_iff.1 ht.distinct)
        (fun e he => (ht.entry (hperm.mem_iff.2 he)).1) (fun e he => (ht.entry (hperm.mem_iff.2 he)).2)
  | @inside before after name t u _ ih =>
      cases ht with
      | folder hdistinct hnames hbelow =>
          simp only [List.forall_mem_append, List.forall_mem_cons] at hnames hbelow
          refine .folder (by simpa using hdistinct) ?_ ?_
          · simp only [List.forall_mem_append, List.forall_mem_cons]
            exact hnames
          · simp only [List.forall_mem_append, List.forall_mem_cons]
            exact ⟨hbelow.1, ih hbelow.2.1, hbelow.2.2⟩
  | trans _ _ ih ih' => exact ih' (ih ht)

/-- Folders in which the same names lead to the same are the same place by place. -/
lemma node?_folder_congr (hentries : (FileTree.folder entries).WellNamed)
    (hothers : (FileTree.folder others).WellNamed)
    (h : ∀ name below x, (∃ u, (name, u) ∈ others ∧ u.node? below = some x) ↔
      ∃ t, (name, t) ∈ entries ∧ t.node? below = some x) (names : List String) :
    (FileTree.folder others).node? names = (FileTree.folder entries).node? names := by
  cases names with
  | nil => rfl
  | cons name below =>
      ext x
      rw [node?_folder_cons hothers, node?_folder_cons hentries, h]

/-- Each place has what it had before. -/
lemma node?_eq (h : Reordered t u) (ht : t.WellNamed) (names : List String) :
    u.node? names = t.node? names := by
  induction h generalizing names with
  | shuffle hperm =>
      refine node?_folder_congr ht ((shuffle hperm).wellNamed ht) (fun name below x => ?_) names
      simp only [hperm.mem_iff]
  | @inside before after name t u h ih =>
      have hsub := ih (ht.entry (List.mem_append_right _ List.mem_cons_self)).2
      refine node?_folder_congr ht ((inside h).wellNamed ht) (fun n below x => ?_) names
      simp only [List.mem_append, List.mem_cons, Prod.mk.injEq, or_and_right, exists_or, and_assoc,
        exists_and_left, exists_eq_left, hsub]
  | trans h _ ih ih' => rw [ih' (h.wellNamed ht), ih ht]

end Reordered

/-! ## The order of files -/

/-- The first names in which the two differ are in the order of their bytes. -/
def NamesBefore (a b : List String) : Prop :=
  a.map Text.utf8 < b.map Text.utf8

lemma utf8_injective {a b : String} (h : Text.utf8 a = Text.utf8 b) : a = b :=
  String.toByteArray_inj.1 (ByteArray.ext (Array.toList_inj.1 h))

lemma utf8_lt_of_nameLe {a b : String} (h : nameLe a b = true) (hne : a ≠ b) : Text.utf8 a < Text.utf8 b := by
  have hle : Text.utf8 a ≤ Text.utf8 b := of_decide_eq_true h
  exact (List.le_iff_lt_or_eq.1 hle).resolve_right fun heq => hne (utf8_injective heq)

namespace NamesBefore

variable {name other : String} {a b : List String}

lemma cons_of_lt (h : Text.utf8 name < Text.utf8 other) (a b : List String) :
    NamesBefore (name :: a) (other :: b) := by
  rw [NamesBefore, List.map_cons, List.map_cons, List.cons_lt_cons_iff]
  exact Or.inl h

lemma append_left (h : NamesBefore a b) (front : List String) : NamesBefore (front ++ a) (front ++ b) := by
  induction front with
  | nil => exact h
  | cons name front ih =>
      rw [NamesBefore, List.cons_append, List.cons_append, List.map_cons, List.map_cons, List.cons_lt_cons_iff]
      exact Or.inr ⟨rfl, ih⟩

lemma irrefl (a : List String) : ¬ NamesBefore a a :=
  List.lt_irrefl _

lemma asymm (h : NamesBefore a b) : ¬ NamesBefore b a :=
  fun k => irrefl a (List.lt_trans h k)

end NamesBefore

/-! ## The files of a tree -/

lemma filesOfEntries_eq_map (entries : List (String × FileTree)) :
    filesOfEntries entries = entries.map fun e => (e.1, e.2.files) := by
  induction entries with
  | nil => rfl
  | cons e rest ih => rw [filesOfEntries, ih, List.map_cons]

lemma nameLe_trans {a b c : String} (hab : nameLe a b = true) (hbc : nameLe b c = true) : nameLe a c = true := by
  rw [nameLe, decide_eq_true_iff] at *
  exact List.le_trans hab hbc

lemma nameLe_total (a b : String) : (nameLe a b || nameLe b a) = true := by
  rw [Bool.or_eq_true, nameLe, nameLe, decide_eq_true_iff, decide_eq_true_iff]
  exact List.le_total _ _

section

variable {entries : List (String × FileTree)} {t u : FileTree} {names : List String} {bytes : List UInt8}

/-- The entries of a folder in the order in which it is gone through, each with its files. -/
def ordered (entries : List (String × FileTree)) : List (String × List (List String × List UInt8)) :=
  (filesOfEntries entries).mergeSort fun a b => nameLe a.1 b.1

lemma ordered_perm (entries : List (String × FileTree)) :
    (ordered entries).Perm (entries.map fun e => (e.1, e.2.files)) := by
  rw [ordered, filesOfEntries_eq_map]
  exact List.mergeSort_perm _ _

lemma files_folder (entries : List (String × FileTree)) :
    (FileTree.folder entries).files =
      (ordered entries).flatMap fun e => e.2.map fun f => (e.1 :: f.1, f.2) := by
  rw [files]
  rfl

/-- The entries are gone through in the strict order of their names. -/
lemma pairwise_ordered (h : (entries.map Prod.fst).Nodup) :
    (ordered entries).Pairwise fun a b => Text.utf8 a.1 < Text.utf8 b.1 := by
  have hsorted : (ordered entries).Pairwise fun a b => nameLe a.1 b.1 = true := by
    apply List.pairwise_mergeSort
    · exact fun a b c hab hbc => nameLe_trans hab hbc
    · exact fun a b => nameLe_total a.1 b.1
  have hdistinct : (ordered entries).Pairwise fun a b => a.1 ≠ b.1 := by
    have hperm := (ordered_perm entries).map Prod.fst
    rw [List.map_map] at hperm
    exact List.pairwise_map.1 (hperm.nodup_iff.2 h)
  exact hsorted.imp₂ (fun _ _ hle hne => utf8_lt_of_nameLe hle hne) hdistinct

lemma mem_files_folder :
    (names, bytes) ∈ (FileTree.folder entries).files ↔
      ∃ name t below, (name, t) ∈ entries ∧ (below, bytes) ∈ t.files ∧ names = name :: below := by
  rw [files_folder, List.mem_flatMap]
  simp only [(ordered_perm entries).mem_iff, List.mem_map, Prod.exists, Prod.mk.injEq]
  constructor
  · rintro ⟨name, below, ⟨n, t, hmem, rfl, rfl⟩, l, b, hl, rfl, rfl⟩
    exact ⟨n, t, l, hmem, hl, rfl⟩
  · rintro ⟨name, t, l, hmem, hl, rfl⟩
    exact ⟨name, t.files, ⟨name, t, hmem, rfl, rfl⟩, l, bytes, hl, rfl, rfl⟩

/-- The files of a tree are those that names lead to. -/
lemma mem_files_iff (h : t.WellNamed) : (names, bytes) ∈ t.files ↔ t.node? names = some (.file bytes) := by
  induction h generalizing names with
  | file content =>
      cases names with
      | nil => simp [files, node?, descend?, node, eq_comm]
      | cons name below => simp [files, node?_file_cons]
  | @folder entries hdistinct hnames hbelow ih =>
      rw [mem_files_folder]
      cases names with
      | nil => simp [node?, descend?, node]
      | cons name below =>
          rw [node?_folder_cons (.folder hdistinct hnames hbelow)]
          constructor
          · rintro ⟨n, t, l, hmem, hl, heq⟩
            obtain ⟨rfl, rfl⟩ := List.cons.inj heq
            exact ⟨t, hmem, (ih _ hmem).1 hl⟩
          · rintro ⟨t, hmem, hl⟩
            exact ⟨name, t, below, hmem, (ih _ hmem).2 hl, rfl⟩

/-- The files of a tree come in the strict order of the names that lead to them. -/
lemma pairwise_files (h : t.WellNamed) : t.files.Pairwise fun a b => NamesBefore a.1 b.1 := by
  induction h with
  | file bytes => rw [files]; exact List.pairwise_singleton _ _
  | @folder entries hdistinct _ _ ih =>
      rw [files_folder, List.pairwise_flatMap]
      constructor
      · -- within one entry the first name is the same
        intro e he
        obtain ⟨⟨name, t⟩, hmem, rfl⟩ := List.mem_map.1 ((ordered_perm entries).mem_iff.1 he)
        rw [List.pairwise_map]
        exact (ih _ hmem).imp fun hbefore => hbefore.append_left [name]
      · refine (pairwise_ordered hdistinct).imp ?_
        intro a b hlt x hx y hy
        obtain ⟨f, -, rfl⟩ := List.mem_map.1 hx
        obtain ⟨g, -, rfl⟩ := List.mem_map.1 hy
        exact .cons_of_lt hlt f.1 g.1

/-- What stands at each place determines the list of files. -/
lemma files_eq_of_node? (ht : t.WellNamed) (hu : u.WellNamed) (h : ∀ names, u.node? names = t.node? names) :
    u.files = t.files := by
  have hirrefl : Std.Irrefl fun a b : List String × List UInt8 => NamesBefore a.1 b.1 :=
    ⟨fun a => NamesBefore.irrefl a.1⟩
  have hantisymm : Std.Antisymm fun a b : List String × List UInt8 => NamesBefore a.1 b.1 :=
    ⟨fun a b hab hba => absurd hba hab.asymm⟩
  refine (pairwise_files hu).eq_of_mem_iff (pairwise_files ht) ?_
  rintro ⟨names, bytes⟩
  rw [mem_files_iff hu, mem_files_iff ht, h]

end

end PhpInterface.FileTree
