import Mathlib.Data.List.Forall2
import PhpInterface.Proofs.Lookups

/-!
# Searching without a memory

A run of the program searches a catalogue, which changes as files are opened.  What it finds does not
depend on which files are opened already: every search gives what the plain search through the files
gives, and leaves a catalogue of the same files behind.  So does everything that is built from searches.
A computation with a catalogue *agrees* with a plain one, if from every catalogue of the files both have
the same outcome; plain values, failures and single searches agree, and chains of computations that agree
do so too.  So agreement is a simulation, and all names may be looked up.

`classNamed_eq` is what the rest of the theory uses: the program may be read as if it searched the
files anew each time.
-/

namespace PhpInterface

open Source

variable {files : List Content} {α β : Type}

/-! ## Catalogues of some files -/

/-- A volume that holds this file: not opened, or as opening it leaves it. -/
def Volume.Shows (v : Volume) (file : Content) : Prop :=
  v = .unopened file ∨ (Volume.unopened file).read = .ok v

/-- A catalogue of these files, in whatever state it is. -/
def Catalogue.Of (files : List Content) (cat : Catalogue) : Prop :=
  List.Forall₂ Volume.Shows cat files

lemma Catalogue.of_ofFiles (files : List Content) : Catalogue.Of files (.ofFiles files) := by
  induction files with
  | nil => exact .nil
  | cons file rest ih => exact .cons (Or.inl rfl) ih

/-- Opening a file a second time does nothing. -/
lemma Volume.read_of_shows {v : Volume} {file : Content} (h : v.Shows file) :
    v.read = (Volume.unopened file).read := by
  rcases h with rfl | h
  · rfl
  · have hv : v.read = .ok v := by
      cases file with
      | unreadable failure => simp [Volume.read] at h
      | notText =>
          cases h
          rfl
      | text s =>
          rw [Volume.read] at h
          split at h <;>
          · cases h
            rfl
    rw [hv, h]

lemma Volume.declarations_of_read {v : Volume} {file : Content}
    (h : (Volume.unopened file).read = .ok v) : v.declarations = file.declarations := by
  cases file with
  | unreadable failure => simp [Volume.read] at h
  | notText =>
      cases h
      rfl
  | text s =>
      rw [Volume.read] at h
      split at h
      · next l hl =>
        cases h
        simp [Volume.declarations, Content.declarations, hl]
      · next hl =>
        cases h
        simp [Volume.declarations, Content.declarations, hl]

/-! ## Computations that agree -/

/-- The outcome of a search and that of a plain computation: one failure, or one result and a catalogue of
the files beside it. -/
inductive SameOutcome (files : List Content) :
    Except SourceError (α × Catalogue) → Except SourceError α → Prop where
  | ok {a : α} {after : Catalogue} (h : Catalogue.Of files after) :
      SameOutcome files (.ok (a, after)) (.ok a)
  | error (e : SourceError) : SameOutcome files (.error e) (.error e)

/-- The search has the outcome of the plain computation from every catalogue of the files. -/
def Agrees (files : List Content) (x : Search α) (y : Except SourceError α) : Prop :=
  ∀ cat, Catalogue.Of files cat → SameOutcome files (x.run cat) y

namespace Agrees

lemma pure (a : α) : Agrees files (pure a) (pure a) :=
  fun _ hcat => .ok hcat

lemma throw (e : SourceError) : Agrees (α := α) files (throw e) (throw e) :=
  fun _ _ => .error e

lemma bind {x : Search α} {y : Except SourceError α} {f : α → Search β}
    {g : α → Except SourceError β} (hx : Agrees files x y)
    (hf : ∀ a, y = .ok a → Agrees files (f a) (g a)) : Agrees files (x >>= f) (y >>= g) := by
  intro cat hcat
  have hfirst := hx cat hcat
  rw [StateT.run_bind]
  generalize x.run cat = outcome at hfirst
  cases hfirst with
  | error e => exact .error e
  | @ok a after hafter => exact hf a rfl after hafter

lemma eq_ok {x : Search α} {y : Except SourceError α} (h : Agrees files x y)
    {cat after : Catalogue} {a : α} (hcat : Catalogue.Of files cat) (hrun : x.run cat = .ok (a, after)) :
    y = .ok a := by
  have hsame := h cat hcat
  rw [hrun] at hsame
  cases hsame
  rfl

lemma exists_run {x : Search α} {y : Except SourceError α} (h : Agrees files x y) {cat : Catalogue}
    {a : α} (hcat : Catalogue.Of files cat) (hy : y = .ok a) : ∃ after, x.run cat = .ok (a, after) := by
  have hsame := h cat hcat
  rw [hy] at hsame
  generalize x.run cat = outcome at hsame
  cases hsame with
  | ok => exact ⟨_, rfl⟩

lemma run'_eq {x : Search α} {y : Except SourceError α} (h : Agrees files x y) {cat : Catalogue}
    (hcat : Catalogue.Of files cat) : x.run' cat = y := by
  have hsame := h cat hcat
  rw [StateT.run'_eq]
  generalize x.run cat = outcome at hsame
  cases hsame <;> rfl

end Agrees

/-- The plain search, as a way of looking up. -/
def lookupIn (files : List Content) (name : String) (kind : Kind) :
    Except SourceError (Option ClassInfo) :=
  lookup name kind files

/-- No letter becomes a backslash when it is made small. -/
lemma toLower_eq_backslash_iff {c : Char} : c.toLower = '\\' ↔ c = '\\' := by
  have hcode : '\\'.toNat = 92 := rfl
  rw [← Char.toNat_inj, ← Char.toNat_inj, Text.toNat_toLower, hcode]
  split <;> omega

/-- The backslashes in front of a name can be taken off before or after its letters are made small. -/
lemma lower_plainName (name : String) : Text.lower (plainName name) = plainName (Text.lower name) := by
  have hsame : (fun c : Char => c == '\\') ∘ Char.toLower = fun c => c == '\\' := by
    funext c
    rw [Function.comp_apply, Bool.eq_iff_iff, beq_iff_eq, beq_iff_eq, toLower_eq_backslash_iff]
  simp only [Text.lower, plainName, String.toList_ofList, List.dropWhile_map, hsame]

/-- Names are looked up without regard to the case of their letters and to backslashes in front. -/
lemma lookupIn_eq_of_plainName {name other : String}
    (h : Text.lower (plainName name) = Text.lower (plainName other)) (kind : Kind) :
    lookupIn files name kind = lookupIn files other kind := by
  have hanswers : ∀ d : Declared, d.answers name kind = d.answers other kind := by
    intro d
    simp only [Declared.answers, Text.caselessEq, h]
  rw [lookupIn, lookupIn]
  induction files with
  | nil => rfl
  | cons file rest ih =>
      cases file with
      | unreadable failure => rfl
      | notText => simp only [lookup, hanswers, ih]
      | text s => simp only [lookup, hanswers, ih]

lemma lookupIn_eq_of_lower {name other : String} (h : Text.lower name = Text.lower other) (kind : Kind) :
    lookupIn files name kind = lookupIn files other kind :=
  lookupIn_eq_of_plainName (by rw [lower_plainName, lower_plainName, h]) kind

/-- Looking up finds nothing, or describes a declaration of the files, or comes to a file that cannot be
read. -/
lemma lookup_cases (name : String) (kind : Kind) (files : List Content) :
    lookup name kind files = .ok none ∨
      (∃ d ∈ files.flatMap Content.declarations, d.answers name kind = true ∧
        lookup name kind files = some <$> d.describe) ∨
      ∃ failure, Content.unreadable failure ∈ files ∧
        lookup name kind files = .error (.unreadable failure) := by
  induction files with
  | nil => exact Or.inl rfl
  | cons file rest ih =>
      by_cases hread : ∃ failure, file = .unreadable failure
      · obtain ⟨failure, rfl⟩ := hread
        exact Or.inr (Or.inr ⟨failure, List.mem_cons_self, rfl⟩)
      · rw [lookup]
        · cases hfind : file.declarations.find? (·.answers name kind) with
          | some d =>
              have hd := List.mem_of_find?_eq_some hfind
              have hanswers := List.find?_some hfind
              exact Or.inr (Or.inl ⟨d, List.mem_flatMap.2 ⟨file, List.mem_cons_self, hd⟩, hanswers, rfl⟩)
          | none =>
              rcases ih with hnone | ⟨d, hd, hdescribe⟩ | ⟨failure, hmem, herror⟩
              · exact Or.inl hnone
              · rw [List.flatMap_cons]
                exact Or.inr (Or.inl ⟨d, List.mem_append_right _ hd, hdescribe⟩)
              · exact Or.inr (Or.inr ⟨failure, List.mem_cons_of_mem _ hmem, herror⟩)
        · intro failure hfile
          exact hread ⟨failure, hfile⟩

/-- What is found is what a declaration of the files says that answers to the name and the kind. -/
lemma exists_answering_of_lookup {name : String} {kind : Kind} {c : ClassInfo}
    (h : lookupIn files name kind = .ok (some c)) :
    ∃ d ∈ files.flatMap Content.declarations, d.answers name kind = true ∧ d.describe = .ok c := by
  rw [lookupIn] at h
  rcases lookup_cases name kind files with hnone | ⟨d, hd, hanswers, hdescribe⟩ | ⟨failure, _, herror⟩
  · cases hnone.symm.trans h
  · refine ⟨d, hd, hanswers, ?_⟩
    rw [hdescribe] at h
    cases hd : d.describe with
    | error e =>
        rw [hd] at h
        cases h
    | ok c' =>
        rw [hd] at h
        cases h
        rfl
  · cases herror.symm.trans h

lemma exists_declared_of_lookup {name : String} {kind : Kind} {c : ClassInfo}
    (h : lookupIn files name kind = .ok (some c)) :
    ∃ d ∈ files.flatMap Content.declarations, d.describe = .ok c := by
  obtain ⟨d, hd, -, hdescribe⟩ := exists_answering_of_lookup h
  exact ⟨d, hd, hdescribe⟩

/-- A file that cannot be read ends the plain search. -/
lemma lookup_cons_of_read_error {file : Content} {e : SourceError}
    (h : (Volume.unopened file).read = .error e) (name : String) (kind : Kind) (rest : List Content) :
    lookup name kind (file :: rest) = .error e := by
  cases file with
  | unreadable failure =>
      cases h
      rfl
  | notText => cases h
  | text s =>
      rw [Volume.read] at h
      split at h <;> cases h

/-- Any other file is looked through before those after it. -/
lemma lookup_cons_of_read {file : Content} {v : Volume} (h : (Volume.unopened file).read = .ok v)
    (name : String) (kind : Kind) (rest : List Content) :
    lookup name kind (file :: rest) =
      match v.declarations.find? (·.answers name kind) with
      | some d => some <$> d.describe
      | none => lookup name kind rest := by
  rw [Volume.declarations_of_read h]
  cases file with
  | unreadable failure => cases h
  | notText => rfl
  | text s => rfl

/-- A single search agrees with the plain one. -/
lemma agrees_find (files : List Content) (name : String) (kind : Kind) :
    Agrees files (Search.find name kind) (lookupIn files name kind) := by
  intro cat hcat
  change SameOutcome files (Catalogue.search name kind cat) (lookup name kind files)
  induction hcat with
  | nil => exact .ok .nil
  | @cons v file cat rest hv hrest ih =>
      rw [Catalogue.search, Volume.read_of_shows hv]
      cases hread : (Volume.unopened file).read with
      | error e =>
          rw [lookup_cons_of_read_error hread]
          exact .error e
      | ok opened =>
          rw [lookup_cons_of_read hread]
          have hopened : opened.Shows file := Or.inr hread
          cases hd : opened.declarations.find? (·.answers name kind) with
          | some d =>
              cases hdescribe : d.describe with
              | error e =>
                  simp only [hd, hdescribe]
                  exact .error e
              | ok c =>
                  simp only [hd, hdescribe]
                  exact .ok (.cons hopened hrest)
          | none =>
              simp only [hd]
              generalize Catalogue.search name kind cat = outcome, lookup name kind rest = plain at ih
              cases ih with
              | error e => exact .error e
              | ok hafter => exact .ok (.cons hopened hafter)

/-! ## Resolving -/

/-- Agreement goes from single searches to all that is built from them. -/
def agreement (files : List Content) : Simulation Search where
  rel := Agrees files
  pure := Agrees.pure
  throw _ := Agrees.throw _
  bind := Agrees.bind

lemma closed_all (find : String → Kind → Except SourceError (Option ClassInfo)) :
    Closed find fun _ _ => True where
  classes _ _ _ _ := ⟨fun _ _ => trivial, fun _ _ => trivial, fun _ _ => trivial⟩
  traits _ _ _ _ _ _ := trivial
  interfaces _ _ _ _ _ _ := trivial

/-- Two ways of resolving agree, whatever names are being resolved already. -/
def ResolvesAlike (files : List Content) (x : Resolving Search α)
    (y : Resolving (Except SourceError) α) : Prop :=
  ∀ stack, Agrees files (x.run stack) (y.run stack)

lemma resolvesAlike_methodsOfTraits (user : String) (depth : Nat) (names : List String) :
    ResolvesAlike files (methodsOfTraits Search.find user depth names)
      (methodsOfTraits (lookupIn files) user depth names) :=
  fun _ => (agreement files).at_methodsOfTraits (closed_all _)
    (fun name kind _ => agrees_find files name kind) user depth fun _ _ => trivial

lemma resolvesAlike_assemble (size depth : Nat) (c : ClassInfo) :
    ResolvesAlike files (assemble Search.find size depth c)
      (assemble (lookupIn files) size depth c) :=
  fun _ => (agreement files).at_assemble (closed_all _)
    (fun name kind _ => agrees_find files name kind) size depth
    ⟨fun _ _ => trivial, fun _ _ => trivial, fun _ _ => trivial⟩

/-- The program finds what it would find if it searched the files anew each time. -/
lemma classNamed_eq (files : List Content) (name : String) :
    classNamed files name = findWith (lookupIn files) (extent files) name := by
  refine Agrees.run'_eq ?_ (Catalogue.of_ofFiles files)
  exact (agreement files).rel_findWith (closed_all _)
    (fun name kind _ => agrees_find files name kind) (extent files) trivial

/-- A class that is found is looked up and resolved. -/
lemma exists_found_of_classNamed {files : List Content} {name : String} {r : ClassInfo}
    (h : classNamed files name = .ok r) :
    ∃ c after, lookupIn files name .classKind = .ok (some c) ∧
      (assemble (lookupIn files) (extent files) (extent files + 1) c).run [] = .ok (r, after) := by
  rw [classNamed_eq, findWith] at h
  obtain ⟨found, hfound, h⟩ := bind_eq_ok_iff.1 h
  cases found with
  | none => cases h
  | some c =>
      obtain ⟨⟨r', after⟩, hrun, hr⟩ := bind_eq_ok_iff.1 h
      cases hr
      exact ⟨c, after, hfound, hrun⟩

end PhpInterface
