import PhpInterface.Proofs.AskedMethods

/-!
# Resolving twice

A class that is resolved has all that its traits, its ancestors and its interfaces have to give, and lists
all of these interfaces.  So a second resolution finds nothing to add: it goes through the same traits and
parents, its merges meet only names that are taken (`withMissing_eq_self`), its work list starts with names
that lead to no others (`collects_self`), and the marks that it makes are there already.  The outcome is the
same class, in every detail and in the same order (`resolved_again`).
-/

namespace PhpInterface

open Source

variable {find : String → Kind → Except SourceError (Option ClassInfo)}

/-! ## The work list -/

lemma collects_of_known {pending known : List String}
    (h : ∀ n ∈ pending, Text.lower n ∈ known.map Text.lower) : Collects find pending known known := by
  induction pending with
  | nil => exact .done known
  | cons name pending ih =>
      exact .again (h name List.mem_cons_self) (ih fun n hn => h n (List.mem_cons_of_mem _ hn))

/-- Names that can be looked up and lead to no others are collected in their order, whatever else of them is
pending later. -/
lemma collects_self {known rest later : List String} (hnodup : ((known ++ rest).map Text.lower).Nodup)
    (hrest : ∀ n ∈ rest, (∃ found, find n .interfaceKind = .ok found) ∧
      ∀ j ∈ extendsOf find n, Text.lower j ∈ (known ++ rest).map Text.lower)
    (hlater : ∀ n ∈ later, Text.lower n ∈ (known ++ rest).map Text.lower) :
    Collects find (rest ++ later) known (known ++ rest) := by
  induction rest generalizing known later with
  | nil =>
      rw [List.append_nil] at hlater ⊢
      exact collects_of_known hlater
  | cons name rest ih =>
      obtain ⟨⟨found, hfound⟩, hextends⟩ := hrest name List.mem_cons_self
      have hfree : Text.lower name ∉ known.map Text.lower := by
        rw [List.map_append, List.map_cons, List.nodup_middle] at hnodup
        exact fun hmem => (List.nodup_cons.1 hnodup).1 (List.mem_append_left _ hmem)
      rw [List.append_cons known name rest] at hnodup hrest hlater hextends ⊢
      rw [List.cons_append]
      refine .take hfree hfound ?_
      rw [List.append_assoc rest later]
      refine ih hnodup (fun n hn => hrest n (List.mem_cons_of_mem _ hn)) fun n hn => ?_
      rcases List.mem_append.1 hn with hn | hn
      · exact hlater n hn
      · exact hextends n hn

/-! ## Merges that add nothing -/

section

variable {c r : ClassInfo} {fromTraits asked : List ClassMethod} {resolved : Option ClassInfo}
  {all : List String}

/-- A resolved class has the names of all methods that went into it. -/
lemma mem_key_resolved {k : String}
    (hr : r = ((c.withTraits fromTraits).withParent resolved).withInterfaces all asked) :
    k ∈ r.methods.map ClassMethod.key ↔
      ((k ∈ c.methods.map ClassMethod.key ∨ k ∈ fromTraits.map ClassMethod.key) ∨
        k ∈ (resolved.elim [] (·.methods)).map ClassMethod.key) ∨ k ∈ asked.map ClassMethod.key := by
  have hmarked : ∀ l : List ClassMethod,
      (l.map (·.markedBy asked)).map ClassMethod.key = l.map ClassMethod.key := by
    intro l
    rw [List.map_map]
    rfl
  rw [hr, ClassInfo.withInterfaces, map_key_withMissing, hmarked]
  cases resolved with
  | none =>
      simp only [ClassInfo.withParent, ClassInfo.withTraits, map_key_withMissing, Option.elim_none,
        List.map_nil, List.not_mem_nil, or_false]
  | some p =>
      simp only [ClassInfo.withParent, ClassInfo.withTraits, map_key_withMissing, Option.elim_some]

/-- What a resolved class was made of can be put into it again without a change, but for the interfaces of
the parent that are pending once more. -/
lemma withParent_withTraits_resolved
    (hr : r = ((c.withTraits fromTraits).withParent resolved).withInterfaces all asked) :
    (r.withTraits fromTraits).withParent resolved =
      { r with interfaces := r.interfaces ++ resolved.elim [] (·.interfaces) } := by
  have htraits : withMissing r.methods fromTraits = r.methods :=
    withMissing_eq_self fun k hk => (mem_key_resolved hr).2 (Or.inl (Or.inl (Or.inr hk)))
  have hparent : withMissing r.methods (resolved.elim [] (·.methods)) = r.methods :=
    withMissing_eq_self fun k hk => (mem_key_resolved hr).2 (Or.inl (Or.inr hk))
  rw [ClassInfo.withTraits, htraits]
  cases resolved with
  | none => simp [ClassInfo.withParent]
  | some p =>
      rw [Option.elim_some] at hparent
      rw [ClassInfo.withParent, hparent]
      rfl

/-- Marking the methods of a resolved class again changes nothing, and none is missing. -/
lemma withInterfaces_resolved (names : List String)
    (hr : r = ((c.withTraits fromTraits).withParent resolved).withInterfaces all (firstByName [] asked)) :
    ({ r with interfaces := names } : ClassInfo).withInterfaces r.interfaces (firstByName [] asked) = r := by
  have hmissing : withMissing r.methods asked = r.methods := by
    refine withMissing_eq_self fun k hk => (mem_key_resolved hr).2 (Or.inr ?_)
    exact mem_key_firstByName.2 ⟨hk, List.not_mem_nil⟩
  have hmarks : r.methods.map (·.markedBy asked) = r.methods := by
    rw [hr, methods_withInterfaces, List.map_map]
    rfl
  have hmethods := methods_withInterfaces { r with interfaces := names } r.interfaces asked
  rw [hmissing, hmarks] at hmethods
  exact congrArg (fun l => { r with methods := l }) hmethods

end

/-! ## Every run -/

section

variable {declared reach stack : List String} {size depth : Nat} {c r : ClassInfo}

/-- Which parent a class has, and below which name it is resolved, depends on no more than the names. -/
lemma ParentResolved.congr {d : ClassInfo} {resolved : Option ClassInfo} (hname : d.name = c.name)
    (hparent : d.parent = c.parent) (h : ParentResolved find size depth stack c resolved) :
    ParentResolved find size depth stack d resolved := by
  have hfound : parentOf find d = parentOf find c := by
    rw [parentOf, parentOf, hparent]
  cases h with
  | absent hnone => exact .absent (hfound.trans hnone)
  | found hsome hrun =>
      rw [← hname] at hrun
      exact .found (hfound.trans hsome) hrun

/-- A resolved class is resolved to itself, by the same steps. -/
lemma Assembled.again (hsized : Sized find declared reach size) (h : Assembled find size depth stack c r) :
    Assembled find size depth stack r r := by
  cases h with
  | @of fromTraits asked resolved all hfree htraits hparent hclosure =>
      rw [interfaces_withParent] at hclosure
      obtain ⟨hcollects, rfl⟩ :=
        (interfaceClosure_eq_ok_iff hsized (room_closureSteps _ hsized.length_reach)).1 hclosure
      generalize hr : ((c.withTraits fromTraits).withParent resolved).withInterfaces all
        (firstByName [] (interfaceMethods find all)) = r
      obtain rfl : r.interfaces = all := by
        rw [← hr]
        rfl
      have hnames : r.name = c.name ∧ r.traits = c.traits ∧ r.parent = c.parent := by
        rw [← hr]
        cases resolved <;> exact ⟨rfl, rfl, rfl⟩
      obtain ⟨hname, hused, hextended⟩ := hnames
      have hcollected : Collects find (r.interfaces ++ resolved.elim [] (·.interfaces)) [] r.interfaces :=
        collects_self (hcollects.nodup List.nodup_nil) hcollects.leads fun n hn =>
          hcollects.covers_pending n (List.mem_append_right _ hn)
      have hsame := withParent_withTraits_resolved hr.symm
      have hagain := Assembled.of (c := r) (by rwa [hname]) (by rwa [hname, hused])
        (hparent.congr hname hextended)
        ((interfaceClosure_eq_ok_iff hsized (room_closureSteps _ hsized.length_reach)).2
          ⟨by rwa [hsame], rfl⟩)
      rwa [hsame, withInterfaces_resolved _ hr.symm] at hagain

end

/-- Whenever a class is resolved, from any catalogue of the files and below any names, the result can be
resolved again, from any other catalogue of the same files, and that gives the same result. -/
theorem resolved_again {files : List Content} {cat other after : Catalogue} {depth : Nat} {c r : ClassInfo}
    {stack left : List String} (hcat : Catalogue.Of files cat) (hother : Catalogue.Of files other)
    (h : ((assemble Search.find (extent files) depth c).run stack).run cat = .ok ((r, left), after)) :
    ∃ later, ((assemble Search.find (extent files) depth r).run stack).run other =
      .ok ((r, stack), later) := by
  have hplain := (resolvesAlike_assemble (extent files) depth c stack).eq_ok hcat h
  cases depth with
  | zero => cases hplain
  | succ depth =>
      obtain ⟨rfl, hassembled⟩ := run_assemble_eq_ok_iff.1 hplain
      have hagain := run_assemble_eq_ok_iff.2 ⟨rfl, hassembled.again (sized_lookupIn files)⟩
      exact (resolvesAlike_assemble (extent files) (depth + 1) r left).exists_run hother hagain

/-- Nested traits, a parent with an interface, and interfaces that extend each other. -/
def tangledFiles : List Content :=
  [.text "<?php
trait T \x7b use U; function t() \x7b\x7d \x7d
trait U \x7b function O() \x7b\x7d function u() \x7b\x7d \x7d
class P implements I \x7b function p() \x7b\x7d \x7d
interface I extends J \x7b function i(); function P(); \x7d
interface J extends i \x7b function j(); \x7d"]

def tangledClass : ClassInfo :=
  { name := "C"
    parent := some "P"
    interfaces := ["j"]
    traits := ["T"]
    methods := [{ name := "o", declaringClass := "C" }] }

set_option maxRecDepth 100000 in
theorem resolved_again_tangled :
    ∃ r left after later,
      ((assemble Search.find (extent tangledFiles) 4 tangledClass).run []).run (.ofFiles tangledFiles) =
        .ok ((r, left), after) ∧
      r.methods.map (fun m => (m.name, m.implementedInterface)) =
        [("o", none), ("t", none), ("u", none), ("p", some "I"), ("i", some "I"), ("j", some "J")] ∧
      r.interfaces = ["j", "I"] ∧
      ((assemble Search.find (extent tangledFiles) 4 r).run []).run (.ofFiles tangledFiles) =
        .ok ((r, []), later) := by
  have hshape : ((((assemble Search.find (extent tangledFiles) 4 tangledClass).run []).run
      (.ofFiles tangledFiles)).toOption.map fun p =>
        (p.1.1.methods.map (fun m => (m.name, m.implementedInterface)), p.1.1.interfaces)) =
        some ([("o", none), ("t", none), ("u", none), ("p", some "I"), ("i", some "I"), ("j", some "J")],
          ["j", "I"]) := by
    decide +kernel
  obtain ⟨⟨⟨r, left⟩, after⟩, hrun, hshape⟩ := exists_ok_of_map_toOption hshape
  obtain ⟨hmethods, hinterfaces⟩ := Prod.mk.inj hshape
  have hcat := Catalogue.of_ofFiles tangledFiles
  obtain ⟨later, hagain⟩ := resolved_again hcat hcat hrun
  exact ⟨r, left, after, later, hrun, hmethods, hinterfaces, hagain⟩

end PhpInterface
