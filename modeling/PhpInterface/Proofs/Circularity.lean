import Mathlib.Data.List.Perm.Subperm
import PhpInterface.Proofs.PlainSearch
import PhpInterface.Proofs.Resolution

/-!
# What is built on itself

A resolution goes from a class to its parents and from each of these down through the traits, and keeps
the names on its way on a stack.  So what stands on the stack is always a *chain*: steps to parents,
followed by steps to traits.  A class is refused as circular exactly when there is a chain from it in which
a name comes twice (`circular_iff_chain_repeats`).

* One half is about success: a run that succeeds has gone down every chain, so each of them is free of
  repetitions (`nodup_of_assemble`).
* The other half is about failure: unless a declaration cannot be described, a run fails at the name that
  completes a chain with a repetition (`cause_of_assemble_error`).  The depth never runs out before that,
  because the stack holds declared names, each of them once (`Fits`).

The branches of a hierarchy are different chains, so a trait may be reached on many of them, and interfaces
are on none.
-/

namespace PhpInterface

open Source

variable {find : String → Kind → Except SourceError (Option ClassInfo)} {size : Nat}

/-! ## Chains -/

/-- A chain of traits, each used by the one before it. -/
inductive TraitChain (find : String → Kind → Except SourceError (Option ClassInfo)) :
    ClassInfo → List ClassInfo → Prop where
  | last (c : ClassInfo) : TraitChain find c [c]
  | uses {c t : ClassInfo} {name : String} {rest : List ClassInfo} (hmem : name ∈ c.traits)
      (hfind : find name .traitKind = .ok (some t)) (hrest : TraitChain find t rest) :
      TraitChain find c (c :: rest)

/-- A chain of classes, each the parent of the one before it, and below the last a chain of traits. -/
inductive Chain (find : String → Kind → Except SourceError (Option ClassInfo)) :
    ClassInfo → List ClassInfo → Prop where
  | traits {c : ClassInfo} {chain : List ClassInfo} (h : TraitChain find c chain) : Chain find c chain
  | parent {c p : ClassInfo} {rest : List ClassInfo} (hparent : parentOf find c = .ok (some p))
      (hrest : Chain find p rest) : Chain find c (c :: rest)

/-- The names on a chain, in small letters. -/
def chainNames (chain : List ClassInfo) : List String :=
  chain.map fun c => Text.lower c.name

/-- Two members of the chain have one name, whatever the case of its letters. -/
def Repeats (chain : List ClassInfo) : Prop :=
  ¬ (chainNames chain).Nodup

/-- The first name of a chain may as well be the latest on the stack. -/
lemma nodup_chainNames_cons {c : ClassInfo} {rest : List ClassInfo} {stack : List String} :
    (chainNames (c :: rest) ++ stack).Nodup ↔ (chainNames rest ++ Text.lower c.name :: stack).Nodup :=
  List.nodup_middle.symm

/-! ## Success -/

section

variable {user : String} {depth : Nat} {names stack after : List String} {methods : List ClassMethod}

/-- A run that succeeds for some traits does so for each that is found, with its name on the stack. -/
lemma methodsOfTraits_of_mem
    (h : (methodsOfTraits find user (depth + 1) names).run stack = .ok (methods, after))
    {name : String} {t : ClassInfo} (hmem : name ∈ names) (hfind : find name .traitKind = .ok (some t)) :
    Text.lower t.name ∉ stack ∧ ∃ nested inner,
      (methodsOfTraits find user depth t.traits).run (Text.lower t.name :: stack) =
        .ok (nested, inner) := by
  rw [methodsOfTraits] at h
  generalize ([] : List ClassMethod) = start at h
  induction names generalizing start with
  | nil => simp at hmem
  | cons first names ih =>
      rw [List.foldlM_cons, StateT.run_bind] at h
      obtain ⟨⟨middle, between⟩, hstep, hrest⟩ := bind_eq_ok_iff.1 h
      rcases run_withTrait_eq_ok_iff.1 hstep with
        ⟨hnone, rfl, rfl⟩ | ⟨u, nested, inner, hfound, hfree, hnested, rfl, rfl⟩
      · rcases List.mem_cons.1 hmem with rfl | hmem
        · cases hnone.symm.trans hfind
        · exact ih hmem _ hrest
      · rcases List.mem_cons.1 hmem with rfl | hmem
        · cases hfound.symm.trans hfind
          exact ⟨hfree, nested, inner, hnested⟩
        · obtain ⟨rfl, _⟩ := methodsOfTraits_spec hnested
          exact ih hmem _ hrest

/-- Below traits that are resolved no name comes twice, and none that is on the stack. -/
lemma nodup_of_methodsOfTraits (hstack : stack.Nodup)
    (h : (methodsOfTraits find user depth names).run stack = .ok (methods, after)) {name : String}
    {t : ClassInfo} {chain : List ClassInfo} (hmem : name ∈ names)
    (hfind : find name .traitKind = .ok (some t)) (hchain : TraitChain find t chain) :
    (chainNames chain ++ stack).Nodup := by
  induction depth generalizing names stack after methods name t chain with
  | zero => cases h
  | succ depth ih =>
      obtain ⟨hfree, nested, inner, hnested⟩ := methodsOfTraits_of_mem h hmem hfind
      have hpushed : (Text.lower t.name :: stack).Nodup := List.nodup_cons.2 ⟨hfree, hstack⟩
      cases hchain with
      | last => exact hpushed
      | uses hmem' hfind' hrest =>
          exact nodup_chainNames_cons.2 (ih hpushed hnested hmem' hfind' hrest)

end

section

variable {depth : Nat} {c r : ClassInfo} {stack after : List String}

/-- On the chains from a class that is resolved no name comes twice, and none that is on the stack. -/
lemma nodup_of_assemble (hstack : stack.Nodup)
    (h : (assemble find size depth c).run stack = .ok (r, after)) {chain : List ClassInfo}
    (hchain : Chain find c chain) : (chainNames chain ++ stack).Nodup := by
  induction depth generalizing c r stack after chain with
  | zero => cases h
  | succ depth ih =>
      cases (run_assemble_eq_ok_iff.1 h).2 with
      | of hfree htraits hparent _ =>
          have hpushed : (Text.lower c.name :: stack).Nodup := List.nodup_cons.2 ⟨hfree, hstack⟩
          cases hchain with
          | traits hchain =>
              cases hchain with
              | last => exact hpushed
              | uses hmem hfind hrest =>
                  exact nodup_chainNames_cons.2
                    (nodup_of_methodsOfTraits hpushed htraits hmem hfind hrest)
          | parent hfound hrest =>
              cases hparent with
              | absent hnone => cases hnone.symm.trans hfound
              | found hfound' hrun =>
                  cases hfound'.symm.trans hfound
                  exact nodup_chainNames_cons.2 (ih hpushed hrun hrest)

end

/-! ## Failure -/

/-- A declaration that a search for this class looks up gives this error. -/
def LookupFails (find : String → Kind → Except SourceError (Option ClassInfo)) (start : String)
    (e : SourceError) : Prop :=
  ∃ name kind, Asked find start name kind ∧ find name kind = .error e

/-- The stack holds declared names, each once, and the depth is enough for all the others. -/
structure Fits (declared : List String) (depth : Nat) (stack : List String) : Prop where
  nodup : stack.Nodup
  subset : stack ⊆ declared
  enough : declared.length < stack.length + depth

lemma Fits.depth_ne_zero {declared : List String} {depth : Nat} {stack : List String}
    (h : Fits declared depth stack) : depth ≠ 0 := by
  have hle : stack.length ≤ declared.length := (h.nodup.subperm h.subset).length_le
  have henough := h.enough
  omega

lemma Fits.push {declared : List String} {depth : Nat} {stack : List String} {name : String}
    (h : Fits declared (depth + 1) stack) (hname : name ∈ declared) (hfree : name ∉ stack) :
    Fits declared depth (name :: stack) where
  nodup := List.nodup_cons.2 ⟨hfree, h.nodup⟩
  subset := List.cons_subset.2 ⟨hname, h.subset⟩
  enough := by
    have henough := h.enough
    rw [List.length_cons]
    omega

section

variable {user : String} {depth : Nat} {names stack : List String} {e : SourceError}

/-- Traits fail to be collected because of one of them: it cannot be described, it is on the stack, or
the traits that it uses fail. -/
lemma exists_mem_of_methodsOfTraits_error
    (h : (methodsOfTraits find user (depth + 1) names).run stack = .error e) :
    ∃ name ∈ names, find name .traitKind = .error e ∨
      ∃ t, find name .traitKind = .ok (some t) ∧
        ((Text.lower t.name ∈ stack ∧ e = .circular t.name) ∨
          (Text.lower t.name ∉ stack ∧
            (methodsOfTraits find user depth t.traits).run (Text.lower t.name :: stack) = .error e)) := by
  rw [methodsOfTraits] at h
  generalize ([] : List ClassMethod) = start at h
  induction names generalizing start with
  | nil => cases h
  | cons first names ih =>
      rw [List.foldlM_cons, StateT.run_bind] at h
      rcases bind_eq_error_iff.1 h with hstep | ⟨⟨middle, between⟩, hstep, hrest⟩
      · refine ⟨first, List.mem_cons_self, ?_⟩
        rw [run_withTrait] at hstep
        rcases bind_eq_error_iff.1 hstep with hfind | ⟨found, hfind, hfound⟩
        · exact Or.inl hfind
        · cases found with
          | none => cases hfound
          | some t =>
              refine Or.inr ⟨t, hfind, ?_⟩
              by_cases hstack : Text.lower t.name ∈ stack
              · simp only [if_pos hstack] at hfound
                cases hfound
                exact Or.inl ⟨hstack, rfl⟩
              · simp only [if_neg hstack] at hfound
                rcases bind_eq_error_iff.1 hfound with hnested | ⟨_, _, hnever⟩
                · exact Or.inr ⟨hstack, hnested⟩
                · cases hnever
      · -- the traits before have left the stack as it was
        obtain rfl := withTrait_stack hstep
        obtain ⟨name, hmem, hcause⟩ := ih _ hrest
        exact ⟨name, List.mem_cons_of_mem _ hmem, hcause⟩

/-- Why traits fail to be collected: a declaration cannot be described, or below one of them a name comes
twice or one that is on the stack. -/
lemma cause_of_methodsOfTraits_error {start : String} {declared : List String}
    (hdeclared : ∀ name kind t, find name kind = .ok (some t) → Text.lower t.name ∈ declared)
    (hfits : Fits declared depth stack) (hnames : ∀ n ∈ names, Asked find start n .traitKind)
    (h : (methodsOfTraits find user depth names).run stack = .error e) :
    LookupFails find start e ∨ ∃ m name t chain, e = .circular m ∧ name ∈ names ∧
      find name .traitKind = .ok (some t) ∧ TraitChain find t chain ∧
      ¬ (chainNames chain ++ stack).Nodup := by
  induction depth generalizing names stack with
  | zero => exact absurd rfl hfits.depth_ne_zero
  | succ depth ih =>
      obtain ⟨name, hmem, hcause⟩ := exists_mem_of_methodsOfTraits_error h
      rcases hcause with hfind | ⟨t, hfind, ⟨hstack, rfl⟩ | ⟨hfree, hnested⟩⟩
      · exact Or.inl ⟨name, .traitKind, hnames name hmem, hfind⟩
      · refine Or.inr ⟨t.name, name, t, [t], rfl, hmem, hfind, .last t, ?_⟩
        intro hnodup
        exact (List.nodup_cons.1 hnodup).1 hstack
      · have hused : ∀ n ∈ t.traits, Asked find start n .traitKind :=
          fun n hn => .trait (hnames name hmem) (by decide) hfind hn
        rcases ih (hfits.push (hdeclared _ _ _ hfind) hfree) hused hnested with
          hfails | ⟨m, n, u, chain, he, hn, hu, hchain, hrepeats⟩
        · exact Or.inl hfails
        · exact Or.inr ⟨m, name, t, t :: chain, he, hmem, hfind, .uses hn hu hchain,
            fun hnodup => hrepeats (nodup_chainNames_cons.1 hnodup)⟩

end

/-- Why a class fails to be resolved: a declaration cannot be described, or there is a chain from the class
on which a name comes twice or one that is on the stack. -/
lemma cause_of_assemble_error {start name : String} {declared stack : List String} {depth : Nat}
    {c : ClassInfo} {e : SourceError}
    (hdeclared : ∀ name kind t, find name kind = .ok (some t) → Text.lower t.name ∈ declared)
    (hfits : Fits declared depth stack) (hname : Asked find start name .classKind)
    (hfind : find name .classKind = .ok (some c))
    (h : (assemble find size depth c).run stack = .error e) :
    LookupFails find start e ∨ ∃ m chain, e = .circular m ∧ Chain find c chain ∧
      ¬ (chainNames chain ++ stack).Nodup := by
  induction depth generalizing name c stack with
  | zero => exact absurd rfl hfits.depth_ne_zero
  | succ depth ih =>
      have hpush := fun hfree => hfits.push (hdeclared _ _ _ hfind) hfree
      have hasked := closed_asked find start
      have hc := hasked.classes name c hname hfind
      cases refused_of_run_assemble h with
      | again hstack he =>
          refine Or.inr ⟨c.name, [c], he, .traits (.last c), ?_⟩
          intro hnodup
          exact (List.nodup_cons.1 hnodup).1 hstack
      | traits hfree htraits =>
          rcases cause_of_methodsOfTraits_error hdeclared (hpush hfree) hc.traits htraits with
            hfails | ⟨m, n, t, chain, he, hn, ht, hchain, hrepeats⟩
          · exact Or.inl hfails
          · exact Or.inr ⟨m, c :: chain, he, .traits (.uses hn ht hchain),
              fun hnodup => hrepeats (nodup_chainNames_cons.1 hnodup)⟩
      | lookup hlookup =>
          rw [parentOf] at hlookup
          split at hlookup
          · cases hlookup
          · next p hp => exact Or.inl ⟨p, .classKind, hc.parent p hp, hlookup⟩
      | parent hfree hfound hrun =>
          obtain ⟨n, hn, hp⟩ := exists_find_of_parentOf hfound
          rcases ih (hpush hfree) (hc.parent n hn) hp hrun with hfails | ⟨m, chain, he, hchain, hrepeats⟩
          · exact Or.inl hfails
          · exact Or.inr ⟨m, c :: chain, he, .parent hfound hchain,
              fun hnodup => hrepeats (nodup_chainNames_cons.1 hnodup)⟩
      | @interfaces fromTraits _ hparent hclosure =>
          have hinherited := within_withParent hasked hc fromTraits hparent
            fun p q hp hrun => within_of_assemble hasked hp hrun
          have hfails : Reaches find (Asked find start) (.error e) :=
            hclosure ▸ reaches_interfaceClosure hasked hinherited (List.forall_mem_nil _)
          exact Or.inl hfails

/-! ## Files -/

/-- The names that some files declare, in small letters. -/
def declaredNames (files : List Content) : List String :=
  (files.flatMap Content.declarations).map fun d => Text.lower d.name

lemma length_declaredNames_le (files : List Content) : (declaredNames files).length ≤ extent files := by
  rw [declaredNames, List.length_map, extent]
  induction files.flatMap Content.declarations with
  | nil => exact Nat.le_refl 0
  | cons d rest ih =>
      rw [List.length_cons, List.foldr_cons, Declared.weight]
      omega

lemma name_of_describe {d : Declared} {c : ClassInfo} (h : d.describe = .ok c) : c.name = d.name := by
  obtain ⟨methods, _, hc⟩ := bind_eq_ok_iff.1 h
  cases hc
  rfl

/-- What is found is declared. -/
lemma mem_declaredNames {files : List Content} {name : String} {kind : Kind} {c : ClassInfo}
    (h : lookupIn files name kind = .ok (some c)) : Text.lower c.name ∈ declaredNames files := by
  obtain ⟨d, hd, hdescribe⟩ := exists_declared_of_lookup h
  rw [name_of_describe hdescribe]
  exact List.mem_map_of_mem hd

/-- At the start of a search the depth is enough. -/
lemma fits_declaredNames (files : List Content) : Fits (declaredNames files) (extent files + 1) [] where
  nodup := List.nodup_nil
  subset := List.nil_subset _
  enough := by
    have hle := length_declaredNames_le files
    rw [List.length_nil]
    omega

lemma classNamed_of_found {files : List Content} {name : String} {c : ClassInfo}
    (hfound : lookupIn files name .classKind = .ok (some c)) :
    classNamed files name =
      (assemble (lookupIn files) (extent files) (extent files + 1) c).run [] >>= fun p => .ok p.1 := by
  rw [classNamed_eq, findWith, hfound]
  rfl

/-- A search for a class that exists ends as it should: with the class, or with a chain on which a name
comes twice, or with the error of a declaration that it looks up. -/
lemma classNamed_cases {files : List Content} {name : String} {c : ClassInfo}
    (hfound : lookupIn files name .classKind = .ok (some c)) :
    (∃ r, classNamed files name = .ok r ∧ ∀ chain, Chain (lookupIn files) c chain → ¬ Repeats chain) ∨
      (∃ m chain, classNamed files name = .error (.circular m) ∧ Chain (lookupIn files) c chain ∧
        Repeats chain) ∨
      ∃ e, classNamed files name = .error e ∧ LookupFails (lookupIn files) name e := by
  rw [classNamed_of_found hfound]
  cases hrun : (assemble (lookupIn files) (extent files) (extent files + 1) c).run [] with
  | ok p =>
      refine Or.inl ⟨p.1, rfl, ?_⟩
      intro chain hchain hrepeats
      have hnodup := nodup_of_assemble List.nodup_nil hrun hchain
      rw [List.append_nil] at hnodup
      exact hrepeats hnodup
  | error e =>
      have hdeclared : ∀ name kind t, lookupIn files name kind = .ok (some t) →
          Text.lower t.name ∈ declaredNames files := fun _ _ _ ht => mem_declaredNames ht
      rcases cause_of_assemble_error hdeclared (fits_declaredNames files) .start hfound hrun with
        hfails | ⟨m, chain, rfl, hchain, hrepeats⟩
      · exact Or.inr (Or.inr ⟨e, rfl, hfails⟩)
      · rw [List.append_nil] at hrepeats
        exact Or.inr (Or.inl ⟨m, chain, rfl, hchain, hrepeats⟩)

/-- Every file can be read, and every declaration in them says something by itself. -/
def describable (files : List Content) : Bool :=
  files.all fun file =>
    match file with
    | .unreadable _ => false
    | _ => file.declarations.all (·.describe.isOk)

lemma not_lookupFails_of_describable {files : List Content} (h : describable files = true)
    (name : String) (e : SourceError) : ¬ LookupFails (lookupIn files) name e := by
  rintro ⟨n, kind, _, herror⟩
  rw [lookupIn] at herror
  have hfile := List.all_eq_true.1 h
  rcases lookup_cases n kind files with hnone | ⟨d, hd, -, hdescribe⟩ | ⟨failure, hmem, _⟩
  · cases hnone.symm.trans herror
  · obtain ⟨file, hmem, hd⟩ := List.mem_flatMap.1 hd
    have hok : d.describe.isOk = true := by
      have hall := hfile file hmem
      cases file with
      | unreadable failure => cases hall
      | notText => exact List.all_eq_true.1 hall d hd
      | text s => exact List.all_eq_true.1 hall d hd
    rw [hdescribe] at herror
    cases hc : d.describe with
    | error e' =>
        rw [hc] at hok
        cases hok
    | ok c =>
        rw [hc] at herror
        cases herror
  · cases hfile _ hmem

/-! ## The criterion -/

/-- A class that exists is refused as circular exactly when a name comes twice on one of the chains from
it, unless the search ends at a declaration that it looks up and that cannot be described.  If no chain
repeats a name the class is found, however often its branches share a trait and whatever the interfaces
are built on.  And every run that succeeds, for a class or for traits, leaves the stack as it was. -/
theorem circular_iff_chain_repeats {files : List Content} {name : String} {c : ClassInfo}
    (hfound : lookupIn files name .classKind = .ok (some c))
    (hdescribed : ∀ e, LookupFails (lookupIn files) name e → classNamed files name ≠ .error e) :
    ((∃ n, classNamed files name = .error (.circular n)) ↔
      ∃ chain, Chain (lookupIn files) c chain ∧ Repeats chain) ∧
    ((∀ chain, Chain (lookupIn files) c chain → ¬ Repeats chain) → ∃ r, classNamed files name = .ok r) ∧
    (∀ cat depth d stack r left after, Catalogue.Of files cat →
      ((assemble Search.find (extent files) depth d).run stack).run cat = .ok ((r, left), after) →
      left = stack) ∧
    (∀ cat user depth names stack methods left after, Catalogue.Of files cat →
      ((methodsOfTraits Search.find user depth names).run stack).run cat =
        .ok ((methods, left), after) →
      left = stack) := by
  have hcases := classNamed_cases hfound
  refine ⟨⟨?_, ?_⟩, ?_, ?_, ?_⟩
  · rintro ⟨n, hn⟩
    rcases hcases with ⟨r, hr, _⟩ | ⟨m, chain, _, hchain, hrepeats⟩ | ⟨e, he, hfails⟩
    · cases hn.symm.trans hr
    · exact ⟨chain, hchain, hrepeats⟩
    · exact absurd he (hdescribed e hfails)
  · rintro ⟨chain, hchain, hrepeats⟩
    rcases hcases with ⟨r, _, hfree⟩ | ⟨m, _, hm, _⟩ | ⟨e, he, hfails⟩
    · exact absurd hrepeats (hfree chain hchain)
    · exact ⟨m, hm⟩
    · exact absurd he (hdescribed e hfails)
  · intro hfree
    rcases hcases with ⟨r, hr, _⟩ | ⟨m, chain, _, hchain, hrepeats⟩ | ⟨e, he, hfails⟩
    · exact ⟨r, hr⟩
    · exact absurd hrepeats (hfree chain hchain)
    · exact absurd he (hdescribed e hfails)
  · intro cat depth d stack r left after hcat hrun
    exact assemble_stack ((resolvesAlike_assemble (extent files) depth d stack).eq_ok hcat hrun)
  · intro cat user depth names stack methods left after hcat hrun
    exact (methodsOfTraits_spec
      ((resolvesAlike_methodsOfTraits user depth names stack).eq_ok hcat hrun)).1

/-- A trait that is used by a class, by its parent and by two other traits, and two interfaces that extend
each other. -/
def sharedFiles : List Content :=
  [.text "<?php
class C extends P implements I \x7b use T, U; \x7d
class P \x7b use T; \x7d
trait T \x7b use V; \x7d
trait U \x7b use V, T; \x7d
trait V \x7b function f() \x7b\x7d \x7d
interface I extends J \x7b\x7d
interface J extends i \x7b\x7d"]

/-- A class whose parent uses a trait that comes to use itself. -/
def loopFiles : List Content :=
  [.text "<?php
class A extends B \x7b\x7d
class B \x7b use T; \x7d
trait T \x7b use U; \x7d
trait U \x7b use t; \x7d"]

set_option maxRecDepth 100000 in
theorem circular_iff_chain_repeats_samples :
    (∃ c r, lookupIn sharedFiles "C" .classKind = .ok (some c) ∧ classNamed sharedFiles "C" = .ok r ∧
      ¬ ∃ chain, Chain (lookupIn sharedFiles) c chain ∧ Repeats chain) ∧
    ∃ c, lookupIn loopFiles "A" .classKind = .ok (some c) ∧
      classNamed loopFiles "A" = .error (.circular "T") ∧
      ∃ chain, Chain (lookupIn loopFiles) c chain ∧ Repeats chain := by
  have hshared : describable sharedFiles = true := by decide +kernel
  have hloop : describable loopFiles = true := by decide +kernel
  constructor
  · have hsome : ((lookupIn sharedFiles "C" .classKind).toOption.bind id).isSome = true := by
      decide +kernel
    have hisOk : (classNamed sharedFiles "C").isOk = true := by decide +kernel
    obtain ⟨c, hc⟩ := exists_ok_some_of_isSome hsome
    obtain ⟨r, hr⟩ := exists_ok_of_isOk hisOk
    refine ⟨c, r, hc, hr, ?_⟩
    rw [← (circular_iff_chain_repeats hc
      fun e he => absurd he (not_lookupFails_of_describable hshared "C" e)).1, hr]
    rintro ⟨n, hn⟩
    cases hn
  · have hsome : ((lookupIn loopFiles "A" .classKind).toOption.bind id).isSome = true := by
      decide +kernel
    have hcause : errorOf (classNamed loopFiles "A") = some (.circular "T") := by decide +kernel
    obtain ⟨c, hc⟩ := exists_ok_some_of_isSome hsome
    have herror := eq_error_of_errorOf hcause
    refine ⟨c, hc, herror, ?_⟩
    exact (circular_iff_chain_repeats hc
      fun e he => absurd he (not_lookupFails_of_describable hloop "A" e)).1.1 ⟨"T", herror⟩

end PhpInterface
