import PhpInterface.Proofs.FileOrder
import PhpInterface.Proofs.Names

/-!
# Listing source files

The source files of a folder are the files below it that have one of some extensions.  Their paths are made
by adding names to the path of the folder, so that the parts of such a path are those of the folder's path
and the names (`pathParts_joinPath`), and it leads to the file (`at?_joinPath`).  The path of the folder may
start at the root of all files or at the working folder.

The list is complete, every file comes once, and the parts of the paths increase strictly in the order of
their bytes.  It stays the same when the folders of the tree tell their entries in another order
(`sources_listed`).
-/

namespace PhpInterface

namespace Text

lemma toList_joinWith_slash (names : List String) :
    (joinWith "/" names).toList = glue '/' (names.map String.toList) := by
  induction names with
  | nil => rfl
  | cons name more ih =>
      cases more with
      | nil => simp [joinWith, glue]
      | cons next others =>
          rw [joinWith, String.toList_append, String.toList_append, ih]
          · simp [glue]
          · exact List.cons_ne_nil _ _

end Text

namespace FileTree

/-! ## Extensions -/

/-- The name ends with a dot and one of the extensions, and something stands before the dot. -/
def HasExtension (extensions : List String) (name : String) : Prop :=
  ∃ stem extension, name = stem ++ "." ++ extension ∧ stem ≠ "" ∧ '.' ∉ extension.toList ∧
    extension ∈ extensions

lemma extension?_eq_some_iff {name extension : String} :
    extension? name = some extension ↔
      ∃ stem, name = stem ++ "." ++ extension ∧ stem ≠ "" ∧ '.' ∉ extension.toList := by
  rw [extension?]
  constructor
  · intro h
    split at h
    · cases h
    · next last piece more hfirst hpieces =>
        cases h
        rw [← List.reverse_inj, List.reverse_reverse, List.reverse_cons] at hpieces
        have hfree : ∀ p ∈ (piece :: more).reverse, '.' ∉ p := fun p hp =>
          Text.not_mem_of_mem_pieces (s := name.toList) (hpieces ▸ List.mem_append_left _ hp)
        have hname := Text.glue_pieces '.' name.toList
        rw [hpieces, Text.glue_append '.' (by simp) (by simp)] at hname
        refine ⟨String.ofList (Text.glue '.' (piece :: more).reverse), ?_, ?_, ?_⟩
        · rw [← String.toList_inj, ← hname]
          simp [Text.glue]
        · intro hstem
          have hback := Text.pieces_glue (by simp) hfree
          rw [String.ofList_eq_empty_iff.1 hstem] at hback
          have hempty : piece :: more = [[]] := by
            rw [← List.reverse_inj, ← hback]
            rfl
          exact hfirst (List.cons.inj hempty).1 (List.cons.inj hempty).2
        · rw [String.toList_ofList]
          exact Text.not_mem_of_mem_pieces (s := name.toList) (by rw [hpieces]; simp)
    · cases h
  · rintro ⟨stem, rfl, hstem, hdot⟩
    have hpieces : Text.pieces '.' (stem ++ "." ++ extension).toList =
        Text.pieces '.' stem.toList ++ [extension.toList] := by
      rw [String.toList_append, String.toList_append, List.append_assoc]
      exact (Text.pieces_append_cons '.' _ _).trans (congrArg (_ ++ ·) (Text.pieces_of_not_mem hdot))
    obtain ⟨piece, more, hstems⟩ := List.exists_cons_of_ne_nil
      (List.reverse_ne_nil_iff.2 (Text.pieces_ne_nil '.' stem.toList))
    rw [hpieces, List.reverse_append, hstems]
    cases piece with
    | cons c piece => exact congrArg some String.ofList_toList
    | nil =>
        cases more with
        | cons next more => exact congrArg some String.ofList_toList
        | nil =>
            have hempty := Text.glue_pieces '.' stem.toList
            rw [List.reverse_eq_iff.1 hstems] at hempty
            exact absurd (String.toList_eq_nil_iff.1 hempty.symm) hstem

lemma bearsExtension_iff {extensions : List String} {name : String} :
    bearsExtension extensions name = true ↔ HasExtension extensions name := by
  have hmem : bearsExtension extensions name = true ↔
      ∃ extension, extension? name = some extension ∧ extension ∈ extensions := by
    rw [bearsExtension]
    cases extension? name with
    | none => simp
    | some extension => simp
  rw [hmem, HasExtension]
  simp only [extension?_eq_some_iff]
  constructor
  · rintro ⟨extension, ⟨stem, hname, hstem, hdot⟩, hextension⟩
    exact ⟨stem, extension, hname, hstem, hdot, hextension⟩
  · rintro ⟨stem, extension, hname, hstem, hdot, hextension⟩
    exact ⟨extension, ⟨stem, hname, hstem, hdot⟩, hextension⟩

/-! ## Paths below a folder -/

/-- The parts of the path of a folder, without the empty one behind a slash at its end. -/
def folderParts (path : String) : List String :=
  if path.toList.getLast? = some '/' then (pathParts path).dropLast else pathParts path

lemma pathParts_joinPath {names : List String} (hne : names ≠ []) (hnames : ∀ name ∈ names, '/' ∉ name.toList)
    (path : String) : pathParts (joinPath path names) = folderParts path ++ names := by
  have hpieces : Text.pieces '/' (Text.glue '/' (names.map String.toList)) = names.map String.toList := by
    refine Text.pieces_glue (by simpa using hne) ?_
    simpa using hnames
  have hback : (names.map String.toList).map String.ofList = names := by simp [Function.comp_def]
  rw [folderParts]
  by_cases hlast : path.toList.getLast? = some '/'
  · obtain ⟨init, hinit⟩ := List.getLast?_eq_some_iff.1 hlast
    have htext : (joinPath path names).toList = init ++ '/' :: Text.glue '/' (names.map String.toList) := by
      simp [joinPath, hinit, Text.toList_joinWith_slash]
    rw [if_pos hlast, pathParts, htext, Text.pieces_append_cons, hpieces, List.map_append, hback, pathParts, hinit,
      Text.pieces_append_cons]
    simp [Text.pieces]
  · have htext : (joinPath path names).toList =
        path.toList ++ '/' :: Text.glue '/' (names.map String.toList) := by
      simp [joinPath, hlast, Text.toList_joinWith_slash]
    rw [if_neg hlast, pathParts, htext, Text.pieces_append_cons, hpieces, List.map_append, hback, pathParts]

/-- A slash at the end of a path only asks for a folder. -/
lemma folderParts_cases (path : String) :
    pathParts path = folderParts path ∨ pathParts path = folderParts path ++ [""] := by
  rw [folderParts]
  split
  · next hlast =>
      obtain ⟨init, hinit⟩ := List.getLast?_eq_some_iff.1 hlast
      right
      rw [pathParts, hinit, Text.pieces_append_cons]
      simp [Text.pieces]
  · exact Or.inl rfl

section

variable {root t u : FileTree} {trail out : Trail} {names : List String}

/-- The empty part of a path leads nowhere else. -/
lemma Step.eq_of_empty {part : String} (h : root.Step trail part out) (hpart : part = "") : out = trail := by
  cases h with
  | stay _ _ => rfl
  | back _ => exact absurd hpart (by decide)
  | enter hname _ => exact absurd hpart hname.1

/-- Names of entries lead on from where a trail has led. -/
lemma exists_follow_of_descend? (hnames : ∀ name ∈ names, IsEntryName name)
    (hu : descend? names (root.atTrail trail) = some u) :
    ∃ out, root.follow trail names = .ok out ∧ root.atTrail out = u := by
  induction names generalizing trail with
  | nil => exact ⟨trail, rfl, Option.some.inj hu⟩
  | cons name rest ih =>
      rw [List.forall_mem_cons] at hnames
      rw [descend?, Option.bind_eq_some_iff] at hu
      obtain ⟨sub, hsub, hu⟩ := hu
      have hrest : descend? rest (root.atTrail ((name, sub) :: trail)) = some u := hu
      obtain ⟨out, hout, hlast⟩ := ih hnames.2 hrest
      exact ⟨out, follow_cons_eq_ok_iff.2 ⟨_, .enter hnames.1.1 hsub, hout⟩, hlast⟩

/-- A slash at the end of a path that leads to a folder can be left out. -/
lemma follow_of_follow_concat_empty {parts : List String} (h : root.follow trail (parts ++ [""]) = .ok out) :
    root.follow trail parts = .ok out := by
  obtain ⟨mid, hmid, hlast⟩ := follow_append_eq_ok_iff.1 h
  obtain ⟨next, hstep, hnext⟩ := follow_cons_eq_ok_iff.1 hlast
  rw [hmid, ← Except.ok.inj hnext, hstep.eq_of_empty rfl]

end

lemma pathParts_ne_nil (path : String) : pathParts path ≠ [] := by
  rw [pathParts, ne_eq, List.map_eq_nil_iff]
  exact Text.pieces_ne_nil '/' path.toList

end FileTree

namespace FileSystem

open FileTree

/-- Where a path with this first part starts, with that part if it is a name. -/
def lead (fs : FileSystem) (first : String) : List String :=
  if first = "" then [] else fs.working ++ [first]

section

variable {fs : FileSystem} {t u : FileTree} {path : String} {names parts : List String}

/-- Only the empty path has no parts to follow. -/
lemma steps?_of_pathParts {first : String} {rest : List String} (h : pathParts path = first :: rest) :
    fs.steps? path = if first = "" ∧ rest = [] then none else some (fs.lead first ++ rest) := by
  rw [steps?, h]
  by_cases hfirst : first = ""
  · subst hfirst
    cases rest with
    | nil => rfl
    | cons part rest => simp [lead]
  · split
    · next heq => exact absurd (List.cons.inj heq).1 hfirst
    · next heq => exact absurd (List.cons.inj heq).1 hfirst
    · simp [lead, hfirst]

/-- The parts to follow, before and after names are added to a path. -/
lemma exists_steps?_joinPath (h : fs.steps? path = some parts) (hne : names ≠ [])
    (hnames : ∀ name ∈ names, IsEntryName name) :
    ∃ folder, (parts = folder ∨ parts = folder ++ [""]) ∧
      fs.steps? (joinPath path names) = some (folder ++ names) := by
  have hjoined := pathParts_joinPath hne (fun name hname => (hnames name hname).2) path
  have hfolder := folderParts_cases path
  -- the folder's parts start as the path does, unless they are none at all
  cases hfirst : folderParts path with
  | nil =>
      rw [hfirst, List.nil_append] at hfolder
      rcases hfolder with hnil | hempty
      · exact absurd hnil (pathParts_ne_nil path)
      · rw [steps?, hempty] at h
        cases h
  | cons first folder =>
      rw [hfirst] at hfolder hjoined
      refine ⟨fs.lead first ++ folder, ?_, ?_⟩
      · rcases hfolder with hparts | hparts
        · rw [steps?_of_pathParts hparts] at h
          split at h
          · cases h
          · exact Or.inl (Option.some.inj h).symm
        · rw [List.cons_append] at hparts
          rw [steps?_of_pathParts hparts, if_neg (by simp)] at h
          exact Or.inr (by rw [← Option.some.inj h, List.append_assoc])
      · rw [List.cons_append] at hjoined
        rw [steps?_of_pathParts hjoined, if_neg (by simp [hne]), List.append_assoc]

lemma at?_eq_some_iff :
    fs.at? path = some t ↔
      ∃ parts out, fs.steps? path = some parts ∧ fs.root.follow [] parts = .ok out ∧
        fs.root.atTrail out = t := by
  rw [at?]
  constructor
  · intro h
    split at h
    · next out htrail =>
        cases hsteps : fs.steps? path with
        | none =>
            rw [FileSystem.trail, hsteps] at htrail
            cases htrail
        | some parts => exact ⟨parts, out, rfl, trail_of_steps? hsteps ▸ htrail, Option.some.inj h⟩
    · cases h
  · rintro ⟨parts, out, hsteps, hfollow, rfl⟩
    rw [trail_of_steps? hsteps, hfollow]

/-- The path of a folder with names behind it leads to where the names lead from the folder. -/
lemma at?_joinPath (hpath : fs.at? path = some t) (hne : names ≠ [])
    (hnames : ∀ name ∈ names, IsEntryName name) (hu : descend? names t = some u) :
    fs.at? (joinPath path names) = some u := by
  obtain ⟨parts, trail, hsteps, hfollow, rfl⟩ := at?_eq_some_iff.1 hpath
  obtain ⟨folder, hfolder, hjoined⟩ := exists_steps?_joinPath hsteps hne hnames
  have htrail : fs.root.follow [] folder = .ok trail := by
    rcases hfolder with rfl | rfl
    · exact hfollow
    · exact follow_of_follow_concat_empty hfollow
  obtain ⟨out, hout, hlast⟩ := exists_follow_of_descend? hnames hu
  exact at?_eq_some_iff.2 ⟨_, out, hjoined, follow_append_eq_ok_iff.2 ⟨trail, htrail, hout⟩, hlast⟩

/-- A path to a folder leads to the same in a tree that is the same place by place. -/
lemma exists_at?_of_node? {other : FileTree} (hsame : ∀ names, other.node? names = fs.root.node? names)
    (hpath : fs.at? path = some t) (ht : t.isFolder) :
    ∃ u, FileSystem.at? { fs with root := other } path = some u ∧ ∀ names, u.node? names = t.node? names := by
  obtain ⟨parts, out, hsteps, hfollow, rfl⟩ := at?_eq_some_iff.1 hpath
  have hkept (names : List String) (h : fs.root.node? names = some .folder) :
      other.node? names = some .folder :=
    (hsame names).trans h
  obtain ⟨out', hfollow', hnames⟩ := exists_follow hkept (leads_nil fs.root) (leads_nil other) rfl hfollow ht
  refine ⟨other.atTrail out', at?_eq_some_iff.2 ⟨parts, out', hsteps, hfollow', rfl⟩, fun names => ?_⟩
  have hplace (r : FileTree) (trail : Trail) (h : r.Leads trail) :
      r.node? (trail.names ++ names) = (r.atTrail trail).node? names := by
    rw [node?, descend?_append, h.descend?_names, Option.bind_some]
    rfl
  rw [← hplace _ _ (leads_follow hfollow (leads_nil fs.root)),
    ← hplace _ _ (leads_follow hfollow' (leads_nil other)), hnames, hsame]

lemma wellNamed_of_at? (h : fs.root.WellNamed) (ht : fs.at? path = some t) : t.WellNamed := by
  obtain ⟨parts, out, -, hfollow, rfl⟩ := at?_eq_some_iff.1 ht
  exact h.of_descend? (leads_follow hfollow (leads_nil fs.root)).descend?_names

end

end FileSystem

namespace FileTree

/-! ## The list -/

lemma pathParts_injective {a b : String} (h : pathParts a = pathParts b) : a = b := by
  have hpieces : Text.pieces '/' a.toList = Text.pieces '/' b.toList :=
    (List.map_inj_right fun _ _ hsame => String.ofList_inj.1 hsame).1 h
  rw [← String.toList_inj, ← Text.glue_pieces '/' a.toList, hpieces, Text.glue_pieces]

section

variable {path : String} {entries : List (String × FileTree)} {extensions : List String} {f : SourceFile}

/-- The source files of a folder, from the list of all its files. -/
def sourcesBelow (path : String) (extensions : List String) (t : FileTree) : List SourceFile :=
  (t.files.filter fun f => bearsExtension extensions (f.1.getLastD "")).map fun f =>
    ⟨joinPath path f.1, .ofBytes f.2⟩

/-- A file of a folder has at least its own name. -/
lemma exists_concat_of_mem_files (h : (FileTree.folder entries).WellNamed) {names : List String}
    {bytes : List UInt8} (hmem : (names, bytes) ∈ (FileTree.folder entries).files) :
    (∃ below name, names = below ++ [name]) ∧ ∀ name ∈ names, IsEntryName name := by
  have hnode := (mem_files_iff h).1 hmem
  refine ⟨?_, h.isEntryName hnode⟩
  rcases List.eq_nil_or_concat' names with rfl | hconcat
  · cases hnode
  · exact hconcat

lemma mem_sourcesBelow_iff (h : (FileTree.folder entries).WellNamed) :
    f ∈ sourcesBelow path extensions (.folder entries) ↔
      ∃ below name bytes, (FileTree.folder entries).node? (below ++ [name]) = some (.file bytes) ∧
        HasExtension extensions name ∧ pathParts f.path = folderParts path ++ (below ++ [name]) ∧
        f.content = .ofBytes bytes := by
  have hparts {names : List String} {bytes : List UInt8} (hmem : (names, bytes) ∈ (FileTree.folder entries).files) :
      pathParts (joinPath path names) = folderParts path ++ names := by
    obtain ⟨⟨below, name, rfl⟩, hnames⟩ := exists_concat_of_mem_files h hmem
    exact pathParts_joinPath (by simp) (fun n hn => (hnames n hn).2) path
  rw [sourcesBelow, List.mem_map]
  constructor
  · rintro ⟨⟨names, bytes⟩, hmem, rfl⟩
    rw [List.mem_filter] at hmem
    obtain ⟨⟨below, name, rfl⟩, -⟩ := exists_concat_of_mem_files h hmem.1
    rw [List.getLastD_concat, bearsExtension_iff] at hmem
    exact ⟨below, name, bytes, (mem_files_iff h).1 hmem.1, hmem.2, hparts hmem.1, rfl⟩
  · rintro ⟨below, name, bytes, hnode, hextension, hpath, hcontent⟩
    have hmem := (mem_files_iff h).2 hnode
    refine ⟨(below ++ [name], bytes), List.mem_filter.2 ⟨hmem, ?_⟩, ?_⟩
    · rw [List.getLastD_concat, bearsExtension_iff]
      exact hextension
    · have hsame : joinPath path (below ++ [name]) = f.path := pathParts_injective ((hparts hmem).trans hpath.symm)
      rw [hsame, ← hcontent]

/-- The parts of the paths increase as the names do. -/
lemma pairwise_sourcesBelow (h : (FileTree.folder entries).WellNamed) :
    (sourcesBelow path extensions (.folder entries)).Pairwise fun f g =>
      NamesBefore (pathParts f.path) (pathParts g.path) := by
  rw [sourcesBelow, List.pairwise_map]
  refine ((pairwise_files h).filter _).imp_of_mem ?_
  rintro ⟨a, _⟩ ⟨b, _⟩ ha hb hbefore
  obtain ⟨⟨below, name, rfl⟩, hnames⟩ := exists_concat_of_mem_files h (List.mem_filter.1 ha).1
  obtain ⟨⟨below', name', rfl⟩, hnames'⟩ := exists_concat_of_mem_files h (List.mem_filter.1 hb).1
  rw [pathParts_joinPath (by simp) fun n hn => (hnames n hn).2,
    pathParts_joinPath (by simp) fun n hn => (hnames' n hn).2]
  exact hbefore.append_left _

end

end FileTree

namespace FileSystem

open FileTree

section

variable {fs : FileSystem} {path : String} {entries : List (String × FileTree)} {extensions : List String}

lemma sources_of_folder (h : fs.at? path = some (.folder entries)) :
    fs.sources path extensions = .ok (sourcesBelow path extensions (.folder entries)) := by
  rw [sources, h]
  rfl

/-- The path of a source file leads to it. -/
lemma at?_of_mem_sourcesBelow {f : SourceFile} (h : (FileTree.folder entries).WellNamed)
    (hpath : fs.at? path = some (.folder entries)) (hf : f ∈ sourcesBelow path extensions (.folder entries)) :
    ∃ bytes, fs.at? f.path = some (.file bytes) ∧ f.content = .ofBytes bytes := by
  obtain ⟨⟨names, bytes⟩, hmem, rfl⟩ := List.mem_map.1 hf
  have hfile := (List.mem_filter.1 hmem).1
  obtain ⟨⟨below, name, rfl⟩, hnames⟩ := exists_concat_of_mem_files h hfile
  obtain ⟨u, hu, hnode⟩ := Option.map_eq_some_iff.1 ((mem_files_iff h).1 hfile)
  cases u with
  | folder _ => cases hnode
  | file content =>
      cases hnode
      exact ⟨_, at?_joinPath hpath (by simp) hnames hu, rfl⟩

/-- The source files do not depend on the order in which folders tell their entries. -/
lemma sources_reordered {other : FileTree} (h : Reordered fs.root other) (hroot : fs.root.WellNamed)
    (hpath : fs.at? path = some (.folder entries)) :
    FileSystem.sources { fs with root := other } path extensions = fs.sources path extensions := by
  obtain ⟨u, hu, hsame⟩ := exists_at?_of_node? (h.node?_eq hroot) hpath rfl
  have hother : u.WellNamed := @wellNamed_of_at? { fs with root := other } u path (h.wellNamed hroot) hu
  have hfiles := files_eq_of_node? (wellNamed_of_at? hroot hpath) hother hsame
  cases u with
  | file bytes => cases hsame []
  | folder others => rw [sources_of_folder hu, sources_of_folder hpath, sourcesBelow, sourcesBelow, hfiles]

end

/-- The source files at any path of a folder are the files below it that have one of the extensions.  Each
comes once, in the strict order of the parts of the paths, which lead to the files; and the list is the same
in whatever order the folders of the tree tell their entries. -/
theorem sources_listed {fs : FileSystem} (hroot : fs.root.WellNamed) {path : String}
    {entries : List (String × FileTree)} (hpath : fs.at? path = some (.folder entries))
    (extensions : List String) :
    ∃ listed, fs.sources path extensions = .ok listed ∧
      (∀ f, f ∈ listed ↔
        ∃ below name bytes, (FileTree.folder entries).node? (below ++ [name]) = some (.file bytes) ∧
          HasExtension extensions name ∧ pathParts f.path = folderParts path ++ (below ++ [name]) ∧
          f.content = .ofBytes bytes) ∧
      (∀ f ∈ listed, ∃ bytes, fs.at? f.path = some (.file bytes) ∧ f.content = .ofBytes bytes) ∧
      listed.Pairwise (fun f g => NamesBefore (pathParts f.path) (pathParts g.path)) ∧
      ∀ other, Reordered fs.root other →
        FileSystem.sources { fs with root := other } path extensions = .ok listed := by
  have hwell := wellNamed_of_at? hroot hpath
  have hlisted : fs.sources path extensions = .ok (sourcesBelow path extensions (.folder entries)) :=
    sources_of_folder hpath
  refine ⟨_, hlisted, fun f => mem_sourcesBelow_iff hwell, fun f => at?_of_mem_sourcesBelow hwell hpath,
    pairwise_sourcesBelow hwell, fun other hother => ?_⟩
  rw [sources_reordered hother hroot hpath, hlisted]

/-- What the folder of a library holds, told in the order of the names.  The first name has nothing before its
dot, and the last one has another extension. -/
def libraryEntries : List (String × FileTree) :=
  [(".php", .file []), ("a", .folder [("x.php", .file [88])]), ("a.php", .file [65]), ("b.php", .file [66]),
    ("c.txt", .file [67])]

/-- A system with the folder of a library, told in some order, and another one as the working folder. -/
def librarySystem (entries : List (String × FileTree)) : FileSystem where
  root := .folder [("lib", .folder entries), ("work", .folder [])]
  working := ["work"]

/-- The folder is told backwards, and its path starts at the root.  What is in `a` stands before `a.php` all the
same, although its path would come after it as a text.  The folder is listed from the working folder too. -/
theorem sources_listed_library :
    (librarySystem libraryEntries).root.WellNamed ∧
      (librarySystem libraryEntries).at? "/lib/" = some (.folder libraryEntries) ∧
      Reordered (librarySystem libraryEntries).root (librarySystem libraryEntries.reverse).root ∧
      (librarySystem libraryEntries.reverse).sources "/lib/" ["php"] =
        .ok [⟨"/lib/a/x.php", .text "X"⟩, ⟨"/lib/a.php", .text "A"⟩, ⟨"/lib/b.php", .text "B"⟩] ∧
      ∃ listed, (librarySystem libraryEntries).sources "../lib" ["php"] = .ok listed ∧
        ⟨"../lib/a/x.php", .text "X"⟩ ∈ listed := by
  have hwell : (librarySystem libraryEntries).root.WellNamed := by
    have hinner : (FileTree.folder [("x.php", .file [88])]).WellNamed :=
      .folder (by decide) (by simp [IsEntryName]) (by simp [WellNamed.file])
    have hlib : (FileTree.folder libraryEntries).WellNamed :=
      .folder (by decide) (by simp [libraryEntries, IsEntryName]) (by simp [libraryEntries, WellNamed.file, hinner])
    have hwork : (FileTree.folder []).WellNamed := .folder (by simp) (by simp) (by simp)
    exact .folder (by decide) (by simp [IsEntryName]) (by simpa using ⟨hlib, hwork⟩)
  have hpath : (librarySystem libraryEntries).at? "/lib/" = some (.folder libraryEntries) := rfl
  have hreordered : Reordered (librarySystem libraryEntries).root (librarySystem libraryEntries.reverse).root :=
    @Reordered.inside [] [("work", .folder [])] "lib" _ _ (.shuffle (List.reverse_perm _).symm)
  have hsorted : ordered libraryEntries = filesOfEntries libraryEntries :=
    List.mergeSort_of_pairwise (by decide)
  have hlisted : sourcesBelow "/lib/" ["php"] (.folder libraryEntries) =
      [⟨"/lib/a/x.php", .text "X"⟩, ⟨"/lib/a.php", .text "A"⟩, ⟨"/lib/b.php", .text "B"⟩] := by
    rw [sourcesBelow, files_folder, hsorted]
    decide +kernel
  have hback : (librarySystem libraryEntries).at? "../lib" = some (.folder libraryEntries) := rfl
  obtain ⟨listed, hsources, -, -, -, hsame⟩ := sources_listed hwell hpath ["php"]
  obtain ⟨others, hothers, hmem, -⟩ := sources_listed hwell hback ["php"]
  refine ⟨hwell, hpath, hreordered, ?_, ?_⟩
  · exact (hsame _ hreordered).trans (hsources.symm.trans (by rw [sources_of_folder hpath, hlisted]))
  · refine ⟨others, hothers, (hmem _).2 ⟨["a"], "x.php", [88], rfl, ?_, rfl, rfl⟩⟩
    exact ⟨"x", "php", rfl, by decide, by decide, by decide⟩

end FileSystem

end PhpInterface
