import PhpInterface.Proofs.PlainSearch

/-!
# What a search depends on

A run of the program keeps the files that it has opened.  Whatever it has looked up before, a search gives
what the plain search gives that goes through the files in their order: it passes over files that are no text
or break the grammar, ends at the first file that cannot be read, and otherwise at the first declaration of
the right kind and name.

From this follows what files can do to a search for a class without declaring anything.  Files that are
passed over do nothing.  A file that cannot be read does nothing either, as long as everything that is looked
up has a match before it; else the search ends there.  What is looked up in the course of a search is read off
the search itself, run with a way of looking up that keeps a record (`recordedSearch`).
-/

namespace PhpInterface

open Source

variable {α β : Type} {files before rest : List Content} {name : String} {kind : Kind}

/-! ## The first match -/

/-- The file can be read. -/
def Content.isReadable : Content → Bool
  | .unreadable _ => false
  | _ => true

/-- The file can be read and is passed over: it is no text or breaks the grammar. -/
def Content.isSkipped : Content → Bool
  | .unreadable _ => false
  | .notText => true
  | .text s => (declarations? s).isNone

/-- The first declaration of this kind and name in some files. -/
def firstMatch (name : String) (kind : Kind) (files : List Content) : Option Declared :=
  (files.flatMap Content.declarations).find? (·.answers name kind)

lemma firstMatch_cons (file : Content) (rest : List Content) :
    firstMatch name kind (file :: rest) =
      (file.declarations.find? (·.answers name kind)).or (firstMatch name kind rest) := by
  rw [firstMatch, List.flatMap_cons, List.find?_append, firstMatch]

lemma lookup_cons_of_isReadable {file : Content} (h : file.isReadable = true) (rest : List Content) :
    lookup name kind (file :: rest) =
      match file.declarations.find? (·.answers name kind) with
      | some d => some <$> d.describe
      | none => lookup name kind rest := by
  cases file with
  | unreadable failure => cases h
  | notText => rfl
  | text s => rfl

/-- Files that can be read are searched for a match before the others come in. -/
lemma lookup_append (h : ∀ file ∈ before, file.isReadable = true) (rest : List Content) :
    lookup name kind (before ++ rest) =
      match firstMatch name kind before with
      | some d => some <$> d.describe
      | none => lookup name kind rest := by
  induction before with
  | nil => rfl
  | cons file before ih =>
      have hrest := ih fun other hother => h other (List.mem_cons_of_mem _ hother)
      rw [List.cons_append, lookup_cons_of_isReadable (h file List.mem_cons_self), firstMatch_cons, hrest]
      cases file.declarations.find? (·.answers name kind) with
      | none => rfl
      | some d => rfl

/-- Where all files can be read, looking up is describing the first match. -/
lemma lookup_of_isReadable (h : ∀ file ∈ files, file.isReadable = true) :
    lookup name kind files =
      match firstMatch name kind files with
      | some d => some <$> d.describe
      | none => .ok none := by
  rw [← List.append_nil files, lookup_append h [], List.append_nil, lookup]

/-! ## Files that are passed over -/

lemma declarations_of_isSkipped {file : Content} (h : file.isSkipped = true) : file.declarations = [] := by
  cases file with
  | unreadable failure => cases h
  | notText => rfl
  | text s =>
      rw [Content.isSkipped, Option.isNone_iff_eq_none] at h
      simp [Content.declarations, h]

lemma isReadable_of_isSkipped {file : Content} (h : file.isSkipped = true) : file.isReadable = true := by
  cases file with
  | unreadable failure => cases h
  | notText => rfl
  | text s => rfl

lemma firstMatch_of_isSkipped {extra : List Content} (h : ∀ file ∈ extra, file.isSkipped = true) :
    firstMatch name kind extra = none := by
  have hnone : extra.flatMap Content.declarations = [] := by
    rw [List.flatMap_eq_nil_iff]
    exact fun file hfile => declarations_of_isSkipped (h file hfile)
  rw [firstMatch, hnone, List.find?_nil]

/-- A search that goes on alike after some files is alike. -/
lemma lookup_append_congr {other : List Content} (h : lookup name kind rest = lookup name kind other)
    (before : List Content) : lookup name kind (before ++ rest) = lookup name kind (before ++ other) := by
  induction before with
  | nil => exact h
  | cons file before ih =>
      cases file with
      | unreadable failure => rfl
      | notText => simp only [List.cons_append, lookup, ih]
      | text s => simp only [List.cons_append, lookup, ih]

lemma lookupIn_insert {extra : List Content} (h : ∀ file ∈ extra, file.isSkipped = true)
    (before after : List Content) :
    lookupIn (before ++ extra ++ after) = lookupIn (before ++ after) := by
  funext name kind
  rw [lookupIn, lookupIn, List.append_assoc]
  refine lookup_append_congr ?_ before
  rw [lookup_append (fun file hfile => isReadable_of_isSkipped (h file hfile)), firstMatch_of_isSkipped h]

lemma extent_insert {extra : List Content} (h : ∀ file ∈ extra, file.isSkipped = true)
    (before after : List Content) : extent (before ++ extra ++ after) = extent (before ++ after) := by
  have hnone : extra.flatMap Content.declarations = [] := by
    rw [List.flatMap_eq_nil_iff]
    exact fun file hfile => declarations_of_isSkipped (h file hfile)
  simp only [extent, List.flatMap_append, hnone, List.append_nil]

/-! ## Descriptions -/

/-- The one thing that can make it fail is a type of a form that signatures do not have. -/
def FailsByType (x : Except SourceError α) : Prop :=
  ∀ e, x = .error e → ∃ text, e = .unsupportedType text

namespace FailsByType

lemma ok (a : α) : FailsByType (.ok a) := by
  intro e he
  cases he

lemma unsupported (text : String) : FailsByType (α := α) (.error (.unsupportedType text)) := by
  intro e he
  cases he
  exact ⟨text, rfl⟩

lemma bind {x : Except SourceError α} {f : α → Except SourceError β} (hx : FailsByType x)
    (hf : ∀ a, FailsByType (f a)) : FailsByType (x >>= f) := by
  intro e he
  rcases bind_eq_error_iff.1 he with he | ⟨a, _, he⟩
  · exact hx e he
  · exact hf a e he

lemma mapM {f : α → Except SourceError β} (hf : ∀ a, FailsByType (f a)) (l : List α) :
    FailsByType (l.mapM f) := by
  induction l with
  | nil => exact ok []
  | cons a l ih =>
      rw [List.mapM_cons]
      exact (hf a).bind fun b => ih.bind fun bs => ok (b :: bs)

lemma optionMapM {f : α → Except SourceError β} (hf : ∀ a, FailsByType (f a)) (o : Option α) :
    FailsByType (o.mapM f) := by
  cases o with
  | none => exact ok none
  | some a => exact (hf a).bind fun b => ok (some b)

lemma simpleType (scope : Scope) (t : SimpleType) : FailsByType (t.describe scope) := by
  cases t with
  | named name => exact ok _
  | optional name => exact ok _
  | interrupted page => exact unsupported page

lemma alternative (scope : Scope) (a : Alternative) : FailsByType (a.describe scope) := by
  cases a with
  | type t => exact simpleType scope t
  | page text => exact unsupported text

lemma typeExpr (scope : Scope) (t : TypeExpr) : FailsByType (t.describe scope) := by
  cases t with
  | simple t => exact simpleType scope t
  | compound text => exact unsupported text
  | union alternatives text =>
      rw [TypeExpr.describe]
      split
      · next a _ =>
        split
        · exact (alternative scope a).bind fun t => ok t.orNull
        · exact unsupported text
      · exact unsupported text

lemma method (scope : Scope) (declaringClass : String) (m : MethodExpr) :
    FailsByType (m.describe scope declaringClass) := by
  have hparameter : ∀ p : ParameterExpr, FailsByType (p.describe scope) :=
    fun p => (optionMapM (typeExpr scope) p.type).bind fun _ => ok _
  have hparameters : FailsByType (describeParameters scope m.parameters) :=
    (mapM hparameter m.parameters).bind fun _ => ok _
  exact hparameters.bind fun _ => (optionMapM (typeExpr scope) m.result).bind fun _ => ok _

lemma describe (d : Declared) : FailsByType d.describe :=
  (mapM (method d.scope d.name) d.decl.methods).bind fun _ => ok _

end FailsByType

/-- A file that cannot be read is where a lookup ends that has no match before it, and no other. -/
lemma lookup_eq_unreadable_iff {failure : AccessFailure} (h : ∀ file ∈ before, file.isReadable = true) :
    lookup name kind (before ++ .unreadable failure :: rest) = .error (.unreadable failure) ↔
      firstMatch name kind before = none := by
  rw [lookup_append h]
  cases hmatch : firstMatch name kind before with
  | none => simp [lookup]
  | some d =>
      simp only [reduceCtorEq, iff_false]
      intro herror
      cases hdescribe : d.describe with
      | ok c =>
          rw [hdescribe] at herror
          cases herror
      | error e =>
          obtain ⟨text, rfl⟩ := FailsByType.describe d e hdescribe
          rw [hdescribe] at herror
          cases herror

/-! ## A record of what is looked up -/

/-- A computation that keeps a record of what it looks up, also when it fails. -/
abbrev Recorded (α : Type) : Type :=
  ExceptT SourceError (StateM (List (String × Kind))) α

/-- Look a declaration up and put that on record. -/
def Recorded.find (files : List Content) (name : String) (kind : Kind) : Recorded (Option ClassInfo) :=
  ExceptT.mk fun record => (lookup name kind files, record ++ [(name, kind)])

/-- The search for a class, with a record of all that is looked up in its course. -/
def recordedSearch (files : List Content) (name : String) :
    Except SourceError ClassInfo × List (String × Kind) :=
  (findWith (Recorded.find files) (extent files) name).run.run []

/-- What a computation adds to a record that it is given, besides its outcome: a failed lookup is its end,
and unless it refuses by itself a failed lookup is on record. -/
structure Recorded.Adds (files : List Content) (more : List (String × Kind)) (y : Except SourceError α) :
    Prop where
  fails : ∀ q ∈ more, ∀ e, lookup q.1 q.2 files = .error e → y = .error e
  cause : ∀ e, y = .error e → e.IsRefusal ∨ ∃ q ∈ more, lookup q.1 q.2 files = .error e

/-- The recorded computation has the outcome of the plain one and adds to the record what that looks up. -/
def Recorded.Follows (files : List Content) (x : Recorded α) (y : Except SourceError α) : Prop :=
  ∀ record, ∃ more, x.run.run record = (y, record ++ more) ∧ Recorded.Adds files more y

namespace Recorded

lemma follows_pure (a : α) : Follows files (pure a) (pure a) := by
  intro record
  refine ⟨[], ?_, ⟨by simp, ?_⟩⟩
  · rw [List.append_nil]
    rfl
  · intro e he
    cases he

lemma follows_throw {e : SourceError} (h : e.IsRefusal) :
    Follows (α := α) files (throw e) (throw e) := by
  intro record
  refine ⟨[], ?_, ⟨by simp, ?_⟩⟩
  · rw [List.append_nil]
    rfl
  · intro e' he
    cases he
    exact Or.inl h

lemma run_bind_of_ok {x : Recorded α} {f : α → Recorded β} {a : α} {record after : List (String × Kind)}
    (h : x.run.run record = (.ok a, after)) : (x >>= f).run.run record = (f a).run.run after := by
  rw [ExceptT.run_bind, StateT.run_bind, h]
  rfl

lemma run_bind_of_error {x : Recorded α} {f : α → Recorded β} {e : SourceError}
    {record after : List (String × Kind)} (h : x.run.run record = (.error e, after)) :
    (x >>= f).run.run record = (.error e, after) := by
  rw [ExceptT.run_bind, StateT.run_bind, h]
  rfl

lemma follows_bind {x : Recorded α} {y : Except SourceError α} {f : α → Recorded β}
    {g : α → Except SourceError β} (hx : Follows files x y)
    (hf : ∀ a, y = .ok a → Follows files (f a) (g a)) : Follows files (x >>= f) (y >>= g) := by
  intro record
  obtain ⟨more, hrun, hadds⟩ := hx record
  cases y with
  | error e =>
      refine ⟨more, run_bind_of_error hrun, ?_, ?_⟩
      · intro q hq e' he
        cases hadds.fails q hq e' he
        rfl
      · intro e' he
        cases he
        exact hadds.cause e rfl
  | ok a =>
      obtain ⟨further, hrest, hrestAdds⟩ := hf a rfl (record ++ more)
      refine ⟨more ++ further, ?_, ?_, ?_⟩
      · rw [run_bind_of_ok hrun, hrest, List.append_assoc]
        rfl
      · intro q hq e he
        rcases List.mem_append.1 hq with hq | hq
        · cases hadds.fails q hq e he
        · exact hrestAdds.fails q hq e he
      · intro e he
        rcases hrestAdds.cause e he with hrefusal | ⟨q, hq, he⟩
        · exact Or.inl hrefusal
        · exact Or.inr ⟨q, List.mem_append_right _ hq, he⟩

lemma follows_find (files : List Content) (name : String) (kind : Kind) :
    Follows files (Recorded.find files name kind) (lookupIn files name kind) := by
  intro record
  refine ⟨[(name, kind)], rfl, ?_, ?_⟩
  · intro q hq e he
    rw [List.mem_singleton.1 hq] at he
    exact he
  · intro e he
    exact Or.inr ⟨(name, kind), List.mem_singleton_self _, he⟩

/-- Keeping a record is a simulation. -/
def simulation (files : List Content) : Simulation Recorded where
  rel := Follows files
  pure := follows_pure
  throw := follows_throw
  bind := follows_bind

end Recorded

/-- A recorded search has the outcome of the search. -/
lemma recordedSearch_spec (files : List Content) (name : String) :
    (recordedSearch files name).1 = classNamed files name ∧
      Recorded.Adds files (recordedSearch files name).2 (classNamed files name) := by
  have hfollows : Recorded.Follows files (findWith (Recorded.find files) (extent files) name)
      (findWith (lookupIn files) (extent files) name) :=
    (Recorded.simulation files).rel_findWith (closed_all _)
      (fun name kind _ => Recorded.follows_find files name kind) (extent files) trivial
  obtain ⟨more, hrun, hadds⟩ := hfollows []
  rw [classNamed_eq, recordedSearch, hrun]
  exact ⟨rfl, hadds⟩

/-- A search ends at a file that cannot be read exactly when something is looked up in its course that has
no match before the file. -/
lemma classNamed_eq_unreadable_iff {failure : AccessFailure} (h : ∀ file ∈ before, file.isReadable = true)
    (hfiles : files = before ++ .unreadable failure :: rest) :
    classNamed files name = .error (.unreadable failure) ↔
      ∃ q ∈ (recordedSearch files name).2, firstMatch q.1 q.2 before = none := by
  obtain ⟨_, hadds⟩ := recordedSearch_spec files name
  have hends : ∀ q : String × Kind, lookup q.1 q.2 files = .error (.unreadable failure) ↔
      firstMatch q.1 q.2 before = none := by
    intro q
    rw [hfiles]
    exact lookup_eq_unreadable_iff h
  constructor
  · intro herror
    rcases hadds.cause _ herror with (⟨_, hrefusal⟩ | ⟨_, hrefusal⟩) | ⟨q, hq, hlookup⟩
    · cases hrefusal
    · cases hrefusal
    · exact ⟨q, hq, (hends q).1 hlookup⟩
  · rintro ⟨q, hq, hnone⟩
    exact hadds.fails q hq _ ((hends q).2 hnone)

/-! ## Every search -/

/-- The catalogue of some files after some searches, if none of them fails. -/
def Catalogue.afterSearches (files : List Content) (earlier : List (String × Kind)) :
    Except SourceError Catalogue :=
  earlier.foldlM (fun cat q => Prod.snd <$> Catalogue.search q.1 q.2 cat) (.ofFiles files)

/-- Searches that do not fail leave a catalogue of the same files. -/
lemma Catalogue.of_afterSearches {earlier : List (String × Kind)} {cat : Catalogue}
    (h : Catalogue.afterSearches files earlier = .ok cat) : Catalogue.Of files cat := by
  have hstart := Catalogue.of_ofFiles files
  rw [Catalogue.afterSearches] at h
  generalize Catalogue.ofFiles files = start at h hstart
  induction earlier generalizing start with
  | nil =>
      cases h
      exact hstart
  | cons q earlier ih =>
      rw [List.foldlM_cons] at h
      obtain ⟨next, hstep, hrest⟩ := bind_eq_ok_iff.1 h
      have hsame : SameOutcome files (Catalogue.search q.1 q.2 start) (lookupIn files q.1 q.2) :=
        agrees_find files q.1 q.2 start hstart
      generalize Catalogue.search q.1 q.2 start = outcome, lookupIn files q.1 q.2 = plain at hstep hsame
      cases hsame with
      | error e => cases hstep
      | ok hafter =>
          cases hstep
          exact ih _ hrest hafter

/-- After whatever searches that did not fail, a search gives what the plain search gives.  So files that
are passed over may be put in anywhere, and a search for a class comes out the same.  And a search for a
class fails at the first file that cannot be read exactly when something that it looks up has no match in
the files before. -/
theorem cached_search_plain (files : List Content) (name : String) :
    (∀ earlier cat, Catalogue.afterSearches files earlier = .ok cat →
      ∀ n kind, Prod.fst <$> Catalogue.search n kind cat = lookup n kind files) ∧
    (∀ before extra after, files = before ++ after → (∀ file ∈ extra, file.isSkipped = true) →
      classNamed (before ++ extra ++ after) name = classNamed files name) ∧
    (recordedSearch files name).1 = classNamed files name ∧
    (∀ before failure after, files = before ++ .unreadable failure :: after →
      (∀ file ∈ before, file.isReadable = true) →
      (classNamed files name = .error (.unreadable failure) ↔
        ∃ q ∈ (recordedSearch files name).2, firstMatch q.1 q.2 before = none)) := by
  refine ⟨?_, ?_, (recordedSearch_spec files name).1, ?_⟩
  · intro earlier cat hcat n kind
    exact (agrees_find files n kind).run'_eq (Catalogue.of_afterSearches hcat)
  · intro before extra after hfiles hextra
    rw [hfiles, classNamed_eq, classNamed_eq, lookupIn_insert hextra, extent_insert hextra]
  · intro before failure after hfiles hreadable
    exact classNamed_eq_unreadable_iff hreadable hfiles

/-- A file that cannot be read, before the one that declares a parent. -/
def interruptedFiles : List Content :=
  [.text "<?php class A extends P \x7b use T; \x7d",
   .text "<?php trait T \x7b function f() \x7b\x7d \x7d",
   .unreadable .notFound,
   .text "<?php class P \x7b\x7d"]

set_option maxRecDepth 100000 in
/-- The class and its trait are found, and looking for the parent ends at the file in between. -/
theorem cached_search_plain_interrupted :
    (∃ cat, Catalogue.afterSearches interruptedFiles [("T", .traitKind)] = .ok cat ∧
      Prod.fst <$> Catalogue.search "a" .classKind cat = lookup "a" .classKind interruptedFiles) ∧
    classNamed (interruptedFiles.take 1 ++ [.notText, .text "<?php class"] ++ interruptedFiles.drop 1) "A" =
      classNamed interruptedFiles "A" ∧
    (recordedSearch interruptedFiles "A").2 = [("A", .classKind), ("T", .traitKind), ("P", .classKind)] ∧
    classNamed interruptedFiles "A" = .error (.unreadable .notFound) := by
  obtain ⟨hcached, hskipped, -, hinterrupted⟩ := cached_search_plain interruptedFiles "A"
  have hearlier : (Catalogue.afterSearches interruptedFiles [("T", .traitKind)]).isOk = true := by
    decide +kernel
  have hextra : ∀ file ∈ [Content.notText, .text "<?php class"], file.isSkipped = true := by decide +kernel
  have hrecord : (recordedSearch interruptedFiles "A").2 =
      [("A", .classKind), ("T", .traitKind), ("P", .classKind)] := by
    decide +kernel
  have hunmatched : firstMatch "P" .classKind (interruptedFiles.take 2) = none := by
    rw [← Option.isNone_iff_eq_none]
    decide +kernel
  obtain ⟨cat, hcat⟩ := exists_ok_of_isOk hearlier
  refine ⟨⟨cat, hcat, hcached _ cat hcat "a" .classKind⟩, ?_, hrecord, ?_⟩
  · exact hskipped _ _ _ (List.take_append_drop 1 interruptedFiles).symm hextra
  · refine (hinterrupted (interruptedFiles.take 2) .notFound (interruptedFiles.drop 3) rfl (by decide)).2 ?_
    exact ⟨("P", .classKind), by rw [hrecord]; decide, hunmatched⟩

end PhpInterface
