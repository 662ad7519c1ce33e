import Mathlib.Data.List.Induction
import Mathlib.Tactic.Set
import PhpInterface.FileTree.Basic
import PhpInterface.Proofs.KeyedLists

/-!
# Writing a file

Writing to a path changes one place of a tree.  Places are lists of names from the root, and `node?` tells
what stands at each of them: nothing, a folder or a file with its bytes.  A path leads to a place, but not as
a list of names: it starts at the root or at the working folder, its parts can stay where they are or go back,
and each part needs a folder to stand in.

`Rewritten` says what a write does that succeeds: the path leads to a file with the new bytes, and every place
it does not lead to has what it had.  The path leads to the place where the file was planted because what it
passes are folders, and folders stay.
-/

namespace PhpInterface

namespace FileTree

/-- What stands at a place of a tree. -/
inductive Node where
  | folder
  | file (bytes : List UInt8)
  deriving DecidableEq

/-- The root of a tree as a place of its own. -/
def node : FileTree → Node
  | .folder _ => .folder
  | .file bytes => .file bytes

/-- The tree below some names. -/
def descend? : List String → FileTree → Option FileTree
  | [], t => some t
  | name :: rest, t => (t.child? name).bind (descend? rest)

/-- What stands at the place that some names lead to. -/
def node? (t : FileTree) (names : List String) : Option Node :=
  (descend? names t).map node

/-! ## Places -/

lemma descend?_append (names more : List String) (t : FileTree) :
    descend? (names ++ more) t = (descend? names t).bind (descend? more) := by
  induction names generalizing t with
  | nil => rfl
  | cons name rest ih =>
      rw [List.cons_append, descend?, descend?, Option.bind_assoc]
      congr 1
      funext u
      exact ih u

lemma descend?_singleton (name : String) (t : FileTree) : descend? [name] t = t.child? name := by
  rw [descend?]
  cases t.child? name with
  | none => rfl
  | some u => rfl

lemma node?_cons (t : FileTree) (name : String) (rest : List String) :
    t.node? (name :: rest) = (t.child? name).bind (·.node? rest) := by
  rw [node?, descend?, Option.map_bind]
  rfl

/-- Nothing stands below a file. -/
lemma node?_file_cons (bytes : List UInt8) (name : String) (rest : List String) :
    (FileTree.file bytes).node? (name :: rest) = none := rfl

lemma exists_folder_of_child? {t u : FileTree} {name : String} (h : t.child? name = some u) :
    ∃ entries, t = .folder entries ∧ entries.lookup name = some u := by
  cases t with
  | file bytes => cases h
  | folder entries => exact ⟨entries, rfl, h⟩

lemma node?_eq_folder_iff {t : FileTree} {names : List String} :
    t.node? names = some .folder ↔ ∃ entries, descend? names t = some (.folder entries) := by
  rw [node?, Option.map_eq_some_iff]
  constructor
  · rintro ⟨u, hu, hnode⟩
    cases u with
    | file bytes => cases hnode
    | folder entries => exact ⟨entries, hu⟩
  · rintro ⟨entries, hu⟩
    exact ⟨_, hu, rfl⟩

/-! ## Planting -/

lemma lookup_putEntry (name other : String) (t : FileTree) (entries : List (String × FileTree)) :
    (putEntry name t entries).lookup other = if other = name then some t else entries.lookup other := by
  induction entries with
  | nil => exact lookup_cons_ite name t [] other
  | cons entry rest ih =>
      obtain ⟨n, u⟩ := entry
      rw [putEntry, lookup_cons_ite n u rest other]
      by_cases hn : n = name
      · rw [if_pos hn, lookup_cons_ite, hn]
        by_cases h : other = name
        · rw [if_pos h, if_pos h]
        · rw [if_neg h, if_neg h, if_neg h]
      · rw [if_neg hn, lookup_cons_ite, ih]
        by_cases h : other = n
        · rw [if_pos h, if_pos h, if_neg fun hname => hn (h ▸ hname)]
        · rw [if_neg h, if_neg h]

/-- What was planted stands where it was planted. -/
lemma descend?_plant (t : FileTree) (target : List String) (root : FileTree) :
    descend? target (plant t target root) = some t := by
  induction target generalizing root with
  | nil => rfl
  | cons name rest ih =>
      cases root with
      | file bytes => simp [plant, descend?, child?, ih]
      | folder entries => simp [plant, descend?, child?, lookup_putEntry, ih]

/-- A file that is planted in a folder, where none stands already, changes no other place. -/
lemma node?_plant {root : FileTree} {names other : List String} {last : String}
    {entries : List (String × FileTree)} (bytes : List UInt8)
    (hfolder : descend? names root = some (.folder entries))
    (hfree : ∀ inner, entries.lookup last ≠ some (.folder inner)) (hother : other ≠ names ++ [last]) :
    (plant (.file bytes) (names ++ [last]) root).node? other = root.node? other := by
  induction names generalizing root other with
  | nil =>
      obtain rfl : root = .folder entries := Option.some.inj hfolder
      cases other with
      | nil => rfl
      | cons name rest =>
          rw [List.nil_append, plant, node?_cons, node?_cons, child?, lookup_putEntry]
          by_cases hname : name = last
          · -- below a file there is nothing, neither before nor now
            subst hname
            obtain ⟨n, more, rfl⟩ : ∃ n more, rest = n :: more :=
              List.exists_cons_of_ne_nil fun hrest => hother (by rw [hrest]; rfl)
            rw [if_pos rfl, Option.bind_some, plant, node?_file_cons, child?]
            cases hlookup : entries.lookup name with
            | none => rfl
            | some u =>
                cases u with
                | file old => rfl
                | folder inner => exact absurd hlookup (hfree inner)
          · rw [if_neg hname]
            rfl
  | cons first names ih =>
      rw [descend?, Option.bind_eq_some_iff] at hfolder
      obtain ⟨sub, hsub, hfolder⟩ := hfolder
      obtain ⟨all, rfl, hlookup⟩ := exists_folder_of_child? hsub
      cases other with
      | nil => rfl
      | cons name rest =>
          rw [List.cons_append, plant, node?_cons, node?_cons, child?, lookup_putEntry, child?]
          by_cases hname : name = first
          · subst hname
            rw [if_pos rfl, Option.bind_some, hlookup, Option.getD_some, Option.bind_some]
            exact ih hfolder fun hrest => hother (by rw [hrest]; rfl)
          · rw [if_neg hname]

/-! ## Following a path -/

/-- The names that a trail has passed, from the root on. -/
def Trail.names (trail : Trail) : List String :=
  (trail.map Prod.fst).reverse

/-- Each tree of a trail is the entry of the one before it. -/
def Leads (root : FileTree) : Trail → Prop
  | [] => True
  | (name, t) :: outer => (root.atTrail outer).child? name = some t ∧ root.Leads outer

lemma leads_nil (root : FileTree) : root.Leads [] :=
  trivial

/-- Where one part of a path can lead. -/
inductive Step (root : FileTree) : Trail → String → Trail → Prop
  | stay {trail : Trail} {part : String} (hfolder : (root.atTrail trail).isFolder)
      (hpart : part = "" ∨ part = ".") : Step root trail part trail
  | back {trail : Trail} (hfolder : (root.atTrail trail).isFolder) : Step root trail ".." trail.tail
  | enter {trail : Trail} {part : String} {t : FileTree} (hpart : part ≠ "" ∧ part ≠ "." ∧ part ≠ "..")
      (hchild : (root.atTrail trail).child? part = some t) : Step root trail part ((part, t) :: trail)

lemma isFolder_of_child? {t u : FileTree} {name : String} (h : t.child? name = some u) : t.isFolder := by
  obtain ⟨entries, rfl, -⟩ := exists_folder_of_child? h
  rfl

lemma follow_cons_eq_ok_iff {root : FileTree} {trail out : Trail} {part : String} {rest : List String} :
    root.follow trail (part :: rest) = .ok out ↔
      ∃ next, root.Step trail part next ∧ root.follow next rest = .ok out := by
  rw [follow.eq_def]
  dsimp only
  constructor
  · intro h
    by_cases hfolder : (root.atTrail trail).isFolder
    · rw [hfolder, Bool.not_true, if_neg Bool.false_ne_true] at h
      by_cases hstay : part = "" ∨ part = "."
      · rw [if_pos hstay] at h
        exact ⟨trail, .stay hfolder hstay, h⟩
      · rw [if_neg hstay] at h
        by_cases hback : part = ".."
        · rw [if_pos hback] at h
          exact ⟨trail.tail, hback ▸ .back hfolder, h⟩
        · rw [if_neg hback] at h
          cases hchild : (root.atTrail trail).child? part with
          | none =>
              rw [hchild] at h
              cases h
          | some t =>
              rw [hchild] at h
              rw [not_or] at hstay
              exact ⟨_, .enter ⟨hstay.1, hstay.2, hback⟩ hchild, h⟩
    · rw [Bool.not_eq_true] at hfolder
      rw [hfolder] at h
      cases h
  · rintro ⟨next, hstep, h⟩
    cases hstep with
    | stay hfolder hpart => simpa [hfolder, hpart] using h
    | back hfolder => simpa [hfolder] using h
    | enter hpart hchild => simpa [isFolder_of_child? hchild, hpart, hchild] using h

lemma follow_append_eq_ok_iff {root : FileTree} {trail out : Trail} {parts more : List String} :
    root.follow trail (parts ++ more) = .ok out ↔
      ∃ mid, root.follow trail parts = .ok mid ∧ root.follow mid more = .ok out := by
  induction parts generalizing trail with
  | nil => exact ⟨fun h => ⟨trail, rfl, h⟩, fun ⟨mid, hmid, h⟩ => Except.ok.inj hmid ▸ h⟩
  | cons part rest ih =>
      rw [List.cons_append, follow_cons_eq_ok_iff]
      constructor
      · rintro ⟨next, hstep, hout⟩
        obtain ⟨mid, hmid, hout⟩ := ih.1 hout
        exact ⟨mid, follow_cons_eq_ok_iff.2 ⟨next, hstep, hmid⟩, hout⟩
      · rintro ⟨mid, hmid, hout⟩
        obtain ⟨next, hstep, hmid⟩ := follow_cons_eq_ok_iff.1 hmid
        exact ⟨next, hstep, ih.2 ⟨mid, hmid, hout⟩⟩

lemma follow_concat {root : FileTree} {trail out next : Trail} {parts : List String} {part : String}
    (h : root.follow trail parts = .ok out) (hstep : root.Step out part next) :
    root.follow trail (parts ++ [part]) = .ok next :=
  follow_append_eq_ok_iff.mpr ⟨out, h, follow_cons_eq_ok_iff.mpr ⟨next, hstep, rfl⟩⟩

lemma Leads.tail {root : FileTree} {trail : Trail} (h : root.Leads trail) : root.Leads trail.tail := by
  cases trail with
  | nil => exact h
  | cons entry outer => exact h.2

lemma Step.leads {root : FileTree} {trail next : Trail} {part : String} (h : root.Step trail part next)
    (hleads : root.Leads trail) : root.Leads next := by
  cases h with
  | stay _ _ => exact hleads
  | back _ => exact hleads.tail
  | enter _ hchild => exact ⟨hchild, hleads⟩

lemma leads_follow {root : FileTree} {trail out : Trail} {parts : List String}
    (h : root.follow trail parts = .ok out) (hleads : root.Leads trail) : root.Leads out := by
  induction parts generalizing trail with
  | nil => exact Except.ok.inj h ▸ hleads
  | cons part rest ih =>
      obtain ⟨next, hstep, hrest⟩ := follow_cons_eq_ok_iff.mp h
      exact ih hrest (hstep.leads hleads)

/-- A path that leads to a folder starts in one. -/
lemma isFolder_of_follow {root : FileTree} {trail out : Trail} {parts : List String}
    (h : root.follow trail parts = .ok out) (hout : (root.atTrail out).isFolder) :
    (root.atTrail trail).isFolder := by
  cases parts with
  | nil => exact Except.ok.inj h ▸ hout
  | cons part rest =>
      obtain ⟨next, hstep, -⟩ := follow_cons_eq_ok_iff.mp h
      cases hstep with
      | stay hfolder _ => exact hfolder
      | back hfolder => exact hfolder
      | enter _ hchild => exact isFolder_of_child? hchild

lemma Trail.names_cons (name : String) (t : FileTree) (outer : Trail) :
    Trail.names ((name, t) :: outer) = Trail.names outer ++ [name] := by
  rw [names, List.map_cons, List.reverse_cons]
  rfl

lemma Trail.names_tail (trail : Trail) : Trail.names trail.tail = (Trail.names trail).dropLast := by
  cases trail with
  | nil => rfl
  | cons entry outer =>
      obtain ⟨name, t⟩ := entry
      rw [names_cons, List.dropLast_concat, List.tail_cons]

/-- The names of a trail lead where the trail does. -/
lemma Leads.descend?_names {root : FileTree} {trail : Trail} (h : root.Leads trail) :
    descend? trail.names root = some (root.atTrail trail) := by
  induction trail with
  | nil => rfl
  | cons entry outer ih =>
      obtain ⟨name, t⟩ := entry
      rw [Trail.names_cons, descend?_append, ih h.2, Option.bind_some, descend?_singleton, h.1]
      rfl

/-! ## A path in two trees -/

section Kept

variable {root files : FileTree}
  (hkept : ∀ names, root.node? names = some .folder → files.node? names = some .folder)

lemma node_eq_folder_iff {t : FileTree} : t.node = .folder ↔ t.isFolder := by
  cases t with
  | file bytes => exact ⟨nofun, nofun⟩
  | folder entries => exact ⟨fun _ => rfl, fun _ => rfl⟩

include hkept in
/-- Where a trail of one tree has led to a folder, the names lead to a folder of the other. -/
lemma Leads.exists_folder {trail : Trail} (hleads : root.Leads trail)
    (hfolder : (root.atTrail trail).isFolder) :
    ∃ entries, descend? trail.names files = some (.folder entries) := by
  refine node?_eq_folder_iff.mp (hkept _ ?_)
  rw [node?, hleads.descend?_names, Option.map_some, node_eq_folder_iff.mpr hfolder]

include hkept in
/-- A step to a folder can be taken in the other tree, from the same names to the same names. -/
lemma Step.exists_step {trail trail' next : Trail} {part : String} (h : root.Step trail part next)
    (hleads : root.Leads trail) (hleads' : files.Leads trail') (hnames : trail'.names = trail.names)
    (hnext : (root.atTrail next).isFolder) :
    ∃ next', files.Step trail' part next' ∧ next'.names = next.names := by
  have hfolder_of (hfolder : (root.atTrail trail).isFolder) : (files.atTrail trail').isFolder := by
    obtain ⟨entries, hentries⟩ := hleads.exists_folder hkept hfolder
    rw [← hnames, hleads'.descend?_names] at hentries
    rw [Option.some.inj hentries]
    rfl
  cases h with
  | stay hfolder hpart => exact ⟨trail', .stay (hfolder_of hfolder) hpart, hnames⟩
  | back hfolder =>
      refine ⟨trail'.tail, .back (hfolder_of hfolder), ?_⟩
      rw [Trail.names_tail, Trail.names_tail, hnames]
  | enter hpart hchild =>
      rename_i t
      have hentered : root.Leads ((part, t) :: trail) := ⟨hchild, hleads⟩
      obtain ⟨entries, hentries⟩ := hentered.exists_folder hkept hnext
      rw [Trail.names_cons, ← hnames, descend?_append, hleads'.descend?_names, Option.bind_some,
        descend?_singleton] at hentries
      exact ⟨_, .enter hpart hentries, by rw [Trail.names_cons, Trail.names_cons, hnames]⟩

include hkept in
/-- A path to a folder leads to a folder of the same names in the other tree. -/
lemma exists_follow {trail trail' out : Trail} {parts : List String} (hleads : root.Leads trail)
    (hleads' : files.Leads trail') (hnames : trail'.names = trail.names)
    (h : root.follow trail parts = .ok out) (hout : (root.atTrail out).isFolder) :
    ∃ out', files.follow trail' parts = .ok out' ∧ out'.names = out.names := by
  induction parts generalizing trail trail' with
  | nil => exact ⟨trail', rfl, Except.ok.inj h ▸ hnames⟩
  | cons part rest ih =>
      obtain ⟨next, hstep, hrest⟩ := follow_cons_eq_ok_iff.mp h
      obtain ⟨next', hstep', hnext'⟩ :=
        hstep.exists_step hkept hleads hleads' hnames (isFolder_of_follow hrest hout)
      obtain ⟨out', hfollow', hout'⟩ := ih (hstep.leads hleads) (hstep'.leads hleads') hnext' hrest
      exact ⟨out', follow_cons_eq_ok_iff.mpr ⟨next', hstep', hfollow'⟩, hout'⟩

end Kept

end FileTree

/-! ## Writing -/

namespace FileSystem

open FileTree

/-- The place that a path leads to. -/
def locate? (fs : FileSystem) (path : String) : Option (List String) :=
  match fs.trail path with
  | .ok trail => some trail.names
  | .error _ => none

/-- The second system has these bytes at a path, and at every other place it has what the first has. -/
structure Rewritten (fs files : FileSystem) (path : String) (bytes : List UInt8) : Prop where
  working : files.working = fs.working
  content : files.at? path = some (.file bytes)
  elsewhere : ∀ names, files.locate? path ≠ some names → files.root.node? names = fs.root.node? names

section

variable {fs files : FileSystem} {path : String} {bytes : List UInt8} {parts : List String} {trail : Trail}

lemma trail_of_steps? (h : fs.steps? path = some parts) : fs.trail path = fs.root.follow [] parts := by
  rw [FileSystem.trail, h]

lemma at?_of_trail (h : fs.trail path = .ok trail) : fs.at? path = some (fs.root.atTrail trail) := by
  rw [at?, h]

lemma locate?_of_trail (h : fs.trail path = .ok trail) : fs.locate? path = some trail.names := by
  rw [locate?, h]

/-- What a write needs: a folder that has no folder under the last name. -/
lemma write_eq_ok (h : fs.write path bytes = .ok files) :
    ∃ parts last trail entries, fs.steps? path = some (parts ++ [last]) ∧
      (last ≠ "" ∧ last ≠ "." ∧ last ≠ "..") ∧ fs.root.follow [] parts = .ok trail ∧
      fs.root.atTrail trail = .folder entries ∧ (∀ inner, entries.lookup last ≠ some (.folder inner)) ∧
      files = { fs with root := plant (.file bytes) (trail.names ++ [last]) fs.root } := by
  rw [write] at h
  split at h
  · cases h
  · next all hsteps =>
      dsimp only at h
      generalize (all.reverse.dropWhile (· == "")).reverse = names at h
      split at h
      · cases h
      · next trail hfollow =>
          split at h
          · cases h
          · next entries hentries =>
              split at h
              · cases h
              · next hlast =>
                  rw [not_or, not_or, not_or, not_not] at hlast
                  obtain ⟨rfl, hname⟩ := hlast
                  cases names using List.reverseRecOn with
                  | nil => exact absurd rfl hname.1
                  | append_singleton parts last =>
                      rw [List.getLastD_concat] at h hname
                      rw [List.dropLast_concat] at hfollow
                      split at h
                      · cases h
                      · next hfree =>
                          exact ⟨parts, last, trail, entries, hsteps, hname, hfollow, hentries, hfree,
                            (Except.ok.inj h).symm⟩

/-- Whether a path can be written to, and why not, does not depend on what is written. -/
lemma write_eq_error {failure : AccessFailure} (h : fs.write path bytes = .error failure)
    (other : List UInt8) : fs.write path other = .error failure := by
  unfold write at h ⊢
  split at h
  · exact h
  · dsimp only at h ⊢
    split at h
    · exact h
    · split at h
      · exact h
      · split at h
        · next hlast => rw [if_pos hlast, ← h]
        · next hlast =>
            rw [if_neg hlast]
            split at h
            · exact h
            · cases h

/-- A write that succeeds changes what it is to change, and only that. -/
lemma rewritten_of_write (h : fs.write path bytes = .ok files) : Rewritten fs files path bytes := by
  obtain ⟨parts, last, trail, entries, hsteps, hlast, hfollow, hentries, hfree, rfl⟩ := write_eq_ok h
  have hleads : fs.root.Leads trail := leads_follow hfollow (leads_nil fs.root)
  have hfolder : descend? trail.names fs.root = some (.folder entries) := by
    rw [hleads.descend?_names, hentries]
  set root := plant (.file bytes) (trail.names ++ [last]) fs.root
  have helse {other} (hother : other ≠ trail.names ++ [last]) : root.node? other = fs.root.node? other :=
    node?_plant bytes hfolder hfree hother
  -- the place itself is no folder, so all folders stay
  have hkept (names) (hnames : fs.root.node? names = some .folder) : root.node? names = some .folder := by
    rw [helse, hnames]
    rintro rfl
    obtain ⟨inner, hinner⟩ := node?_eq_folder_iff.mp hnames
    rw [descend?_append, hfolder, Option.bind_some, descend?_singleton] at hinner
    exact hfree inner hinner
  obtain ⟨out, hout, hnames⟩ :=
    exists_follow hkept (leads_nil fs.root) (leads_nil root) rfl hfollow (by rw [hentries]; rfl)
  have hplanted : descend? (trail.names ++ [last]) root = some (.file bytes) := descend?_plant _ _ _
  have hchild : (root.atTrail out).child? last = some (.file bytes) := by
    rwa [← hnames, descend?_append, (leads_follow hout (leads_nil root)).descend?_names, Option.bind_some,
      descend?_singleton] at hplanted
  have htrail : FileSystem.trail { fs with root } path = .ok ((last, .file bytes) :: out) := by
    have hafter : FileSystem.steps? { fs with root } path = some (parts ++ [last]) := hsteps
    rw [trail_of_steps? hafter]
    exact follow_concat hout (.enter hlast hchild)
  exact
    { working := rfl
      content := at?_of_trail htrail
      elsewhere := fun names hne => helse fun heq => hne <| by
        rw [locate?_of_trail htrail, Trail.names_cons, hnames, heq] }

end

end FileSystem

end PhpInterface
