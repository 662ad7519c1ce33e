import PhpInterface.Proofs.CachedSearch
import PhpInterface.Proofs.Depth

/-!
# What a class depends on

A search for a class looks at the declarations that the class is built on and at no others.  Two lists of
files are compared here that declare the same names file by file (`Content.outline`), but say different
things about them.  If what they say is the same wherever the search comes (`Asked`), then the search has
the same outcome in both.  What is said elsewhere may be of any kind: types that have no description,
further declarations of a name, names that are built on themselves.

The two searches make the same lookups, so they go the same way as long as they have the same depth to go.
They are not given the same, since the extent of the files counts everything; but more depth changes
nothing.
-/

namespace PhpInterface

open Source

variable {files other : List Content} {name : String} {kind : Kind}

/-! ## Outlines -/

/-- What a declaration is found by: its kind and its name without regard to the case of letters. -/
def Declared.entry (d : Declared) : Kind × String :=
  (d.decl.kind, Text.lower d.name)

/-- The kinds and names that a file declares, in order; `none` if it is passed over. -/
def Content.outline : Content → Option (List (Kind × String))
  | .text s => (declarations? s).map fun l => l.map Declared.entry
  | _ => none

lemma getD_outline (file : Content) : file.outline.getD [] = file.declarations.map Declared.entry := by
  cases file with
  | unreadable failure => rfl
  | notText => rfl
  | text s =>
      rw [Content.outline, Content.declarations]
      cases declarations? s with
      | none => rfl
      | some l => rfl

lemma map_entry_declarations (files : List Content) :
    (files.flatMap Content.declarations).map Declared.entry =
      (files.map Content.outline).flatMap (·.getD []) := by
  rw [List.map_flatMap, List.flatMap_map]
  simp only [getD_outline]

/-- The kind and name of the first match can be read off the outlines. -/
lemma map_entry_firstMatch (files : List Content) :
    (firstMatch name kind files).map Declared.entry =
      ((files.map Content.outline).flatMap (·.getD [])).find? fun e =>
        e.1 == kind && e.2 == Text.lower (plainName name) := by
  have hanswers : (fun d : Declared => d.answers name kind) =
      (fun e => e.1 == kind && e.2 == Text.lower (plainName name)) ∘ Declared.entry := rfl
  rw [firstMatch, hanswers, ← map_entry_declarations, List.find?_map]

/-- In files of the same outlines a lookup has the same outcome, if the first matches say the same. -/
lemma lookup_eq_of_outline (hfiles : ∀ file ∈ files, file.isReadable = true)
    (hother : ∀ file ∈ other, file.isReadable = true)
    (houtline : files.map Content.outline = other.map Content.outline)
    (hsame : ∀ d d', firstMatch name kind files = some d → firstMatch name kind other = some d' →
      d.describe = d'.describe) :
    lookup name kind files = lookup name kind other := by
  have hentry : (firstMatch name kind files).map Declared.entry =
      (firstMatch name kind other).map Declared.entry := by
    rw [map_entry_firstMatch, map_entry_firstMatch, houtline]
  rw [lookup_of_isReadable hfiles, lookup_of_isReadable hother]
  cases hd : firstMatch name kind files with
  | none =>
      rw [hd, Option.map_none, eq_comm, Option.map_eq_none_iff] at hentry
      rw [hentry]
  | some d =>
      rw [hd, Option.map_some, eq_comm, Option.map_eq_some_iff] at hentry
      obtain ⟨d', hd', -⟩ := hentry
      rw [hd']
      dsimp only
      rw [hsame d d' hd hd']

/-! ## Two searches -/

/-- Equality of outcomes is a simulation. -/
def equality : Simulation (Except SourceError) where
  rel x y := x = y
  pure _ := rfl
  throw _ := rfl
  bind hx hf := by
    subst hx
    exact bind_congr_ok hf

/-- For any two lists of files that can be read and have the same outlines: if each first match that can be
reached from a class says the same in both, then the class is found alike in both, or fails to be found
for the same reason. -/
theorem reached_declarations_suffice (files other : List Content) (name : String)
    (hfiles : ∀ file ∈ files, file.isReadable = true)
    (hother : ∀ file ∈ other, file.isReadable = true)
    (houtline : files.map Content.outline = other.map Content.outline)
    (hreached : ∀ n kind, Asked (lookupIn files) name n kind →
      ∀ d d', firstMatch n kind files = some d → firstMatch n kind other = some d' →
        d.describe = d'.describe) :
    classNamed files name = classNamed other name := by
  have hlookup : ∀ n kind, Asked (lookupIn files) name n kind →
      lookupIn other n kind = lookupIn files n kind :=
    fun n kind hasked => (lookup_eq_of_outline hfiles hother houtline (hreached n kind hasked)).symm
  let large := max (extent files) (extent other)
  calc classNamed files name
      = findWith (lookupIn files) large name := (findWith_extent (Nat.le_max_left _ _) name).symm
    _ = findWith (lookupIn other) large name :=
        (equality.rel_findWith (closed_asked _ name) hlookup large .start).symm
    _ = classNamed other name := findWith_extent (Nat.le_max_right _ _) name

/-- A class with a trait and an interface. -/
def classFile : Content :=
  .text "<?php class A implements I \x7b use T; function f(int $x) \x7b\x7d \x7d"

/-- The trait and the interface of the class. -/
def traitFile : Content :=
  .text "<?php trait T \x7b function g() \x7b\x7d \x7d interface I \x7b\x7d"

/-- Nothing is wrong with the declarations that the class does not reach. -/
def plainFiles : List Content :=
  [.notText, classFile, .text "<?php class B \x7b\x7d class C \x7b\x7d", traitFile,
    .text "<?php trait T \x7b\x7d"]

/-- The same names, but one of the other classes has a type without a description, one is its own parent,
and the second trait of the name uses itself. -/
def faultyFiles : List Content :=
  [.text "<?php class", classFile,
    .text "<?php class b \x7b function f(A&B $x) \x7b\x7d \x7d class C extends c \x7b\x7d", traitFile,
    .text "<?php trait t \x7b use T; function g(int|string $x) \x7b\x7d \x7d"]

/-- The names that are looked up for the class. -/
def namesOfA : List (String × Kind) :=
  [("A", .classKind), ("T", .traitKind), ("I", .interfaceKind)]

/-- Files that have no match may stand between two of which one has. -/
lemma firstMatch_between {skipped aside later : Content}
    (hbetween : firstMatch name kind [skipped, aside] = none)
    (hshared : (firstMatch name kind [classFile, traitFile]).isSome = true) :
    firstMatch name kind [skipped, classFile, aside, traitFile, later] =
      firstMatch name kind [classFile, traitFile] := by
  have hnil : firstMatch name kind [] = none := rfl
  simp only [firstMatch_cons, hnil, Option.or_none, Option.or_eq_none_iff] at hbetween hshared ⊢
  rw [hbetween.1, hbetween.2, Option.none_or, Option.none_or, ← Option.or_assoc,
    Option.or_of_isSome hshared]

set_option maxRecDepth 100000 in
/-- The class is the same in both, though the other classes are not found in the second. -/
theorem reached_declarations_suffice_faulty :
    classNamed plainFiles "A" = classNamed faultyFiles "A" ∧
    (classNamed plainFiles "B").isOk = true ∧ (classNamed plainFiles "C").isOk = true ∧
    errorOf (classNamed faultyFiles "B") = some (.unsupportedType "A&B") ∧
    errorOf (classNamed faultyFiles "C") = some (.circular "C") := by
  -- The names lead to no others, and each has its first match in one of the two files of both lists.
  have hlookups : ∀ q ∈ namesOfA,
      (∀ link ∈ linksOf (lookupIn plainFiles q.1 q.2), link ∈ namesOfA) ∧
      (firstMatch q.1 q.2 [classFile, traitFile]).isSome = true ∧
      (firstMatch q.1 q.2 [plainFiles[0]!, plainFiles[2]!]).isNone = true ∧
      (firstMatch q.1 q.2 [faultyFiles[0]!, faultyFiles[2]!]).isNone = true := by
    decide +kernel
  refine ⟨reached_declarations_suffice plainFiles faultyFiles "A" (by decide) (by decide)
    (by decide +kernel) ?_, by decide +kernel⟩
  intro n kind hasked d d' hd hd'
  have hname := hasked.of_closed (closed_of_linksOf fun q hq => (hlookups q hq).1) (by decide)
  obtain ⟨-, hshared, hplain, hfaulty⟩ := hlookups (n, kind) hname
  rw [Option.isNone_iff_eq_none] at hplain hfaulty
  have hmatch : firstMatch n kind plainFiles = firstMatch n kind faultyFiles :=
    (firstMatch_between hplain hshared).trans (firstMatch_between hfaulty hshared).symm
  rw [hmatch, hd'] at hd
  cases hd
  rfl

end PhpInterface
