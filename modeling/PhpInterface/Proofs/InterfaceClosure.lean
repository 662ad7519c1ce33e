import Mathlib.Logic.Relation
import PhpInterface.Proofs.Depth

/-!
# All interfaces of a class

The interfaces that a resolved class lists are those that it and its ancestors implement, and those that
these interfaces extend, directly or through others.  `HasInterface` says so without a work list, and
`resolved_interfaces` that the list has exactly these names, each once, and starts with the names that the
class itself gives.

The work list takes names from its front and puts what they extend at its end.  `Collects` is such a run
without a bound on its steps; since the bound is never met (`Room`), it is the run that is made.  Three facts
carry over from step to step: no name is known twice, whatever is pending gets known, and what a known name
extends is known or pending.  So it does not matter if interfaces extend each other.

Names are compared without regard to the case of their letters.  A name that is not found is taken like any
other, and leads nowhere.
-/

namespace PhpInterface

open Source

variable {find : String → Kind → Except SourceError (Option ClassInfo)}

/-! ## Runs of the work list -/

/-- With these names pending and those known, the work list ends with all of the last. -/
inductive Collects (find : String → Kind → Except SourceError (Option ClassInfo)) :
    List String → List String → List String → Prop where
  | done (known : List String) : Collects find [] known known
  | again {name : String} {pending known all : List String}
      (hknown : Text.lower name ∈ known.map Text.lower) (h : Collects find pending known all) :
      Collects find (name :: pending) known all
  | take {name : String} {pending known all : List String} {found : Option ClassInfo}
      (hfree : Text.lower name ∉ known.map Text.lower) (hfind : find name .interfaceKind = .ok found)
      (h : Collects find (pending ++ extendsOf find name) (known ++ [name]) all) :
      Collects find (name :: pending) known all

section

variable {pending known all : List String}

/-- What an interface extends is within the bounds of all that there is to be found. -/
lemma Sized.extendsOf {declared reach : List String} {size : Nat} (h : Sized find declared reach size)
    (name : String) : extendsOf find name ⊆ reach ∧ (extendsOf find name).length ≤ size := by
  rw [PhpInterface.extendsOf]
  split
  · next i hfound => exact h.subset_reach name i hfound
  · exact ⟨List.nil_subset reach, Nat.zero_le size⟩

/-- A work list that has steps enough makes such a run, and fails if there is none. -/
lemma interfaceClosure_eq_ok_iff {declared reach free : List String} {size steps : Nat}
    {asked : List ClassMethod} (hsized : Sized find declared reach size)
    (hroom : Room reach size steps pending known free) :
    interfaceClosure find steps pending known (firstByName [] (interfaceMethods find known)) =
        .ok (all, asked) ↔
      Collects find pending known all ∧ asked = firstByName [] (interfaceMethods find all) := by
  induction steps generalizing pending known free with
  | zero => exact absurd hroom.enough (Nat.not_lt_zero _)
  | succ steps ih =>
      cases pending with
      | nil =>
          constructor
          · intro h
            cases h
            exact ⟨.done _, rfl⟩
          · rintro ⟨h, rfl⟩
            cases h
            rfl
      | cons name pending =>
          by_cases hknown : Text.lower name ∈ known.map Text.lower
          · rw [interfaceClosure_cons_of_known hknown, ih hroom.skip]
            constructor
            · rintro ⟨h, hasked⟩
              exact ⟨.again hknown h, hasked⟩
            · rintro ⟨h, hasked⟩
              cases h with
              | again _ h => exact ⟨h, hasked⟩
              | take hfree _ _ => exact absurd hknown hfree
          · obtain ⟨hreach, hlength⟩ := hsized.extendsOf name
            rw [interfaceClosure_cons_of_free hknown, bind_eq_ok_iff]
            simp only [ih (hroom.take hknown hreach hlength)]
            constructor
            · rintro ⟨found, hfound, h, hasked⟩
              exact ⟨.take hknown hfound h, hasked⟩
            · rintro ⟨h, hasked⟩
              cases h with
              | again hseen _ => exact absurd hseen hknown
              | take _ hfound h => exact ⟨_, hfound, h, hasked⟩

namespace Collects

/-- No name is taken twice. -/
lemma nodup (h : Collects find pending known all) (hknown : (known.map Text.lower).Nodup) :
    (all.map Text.lower).Nodup := by
  induction h with
  | done => exact hknown
  | again _ _ ih => exact ih hknown
  | take hfree _ _ ih =>
      apply ih
      rw [List.map_append, List.map_singleton, List.nodup_append_comm]
      exact List.nodup_cons.2 ⟨hfree, hknown⟩

/-- What is known or pending gets known. -/
lemma covers (h : Collects find pending known all) :
    ∀ n ∈ known ++ pending, Text.lower n ∈ all.map Text.lower := by
  induction h with
  | done known =>
      intro n hn
      rw [List.append_nil] at hn
      exact List.mem_map_of_mem hn
  | again hknown _ ih =>
      intro n hn
      rcases List.mem_append.1 hn with hn | hn
      · exact ih n (List.mem_append_left _ hn)
      rcases List.mem_cons.1 hn with rfl | hn
      · obtain ⟨k, hk, heq⟩ := List.mem_map.1 hknown
        rw [← heq]
        exact ih k (List.mem_append_left _ hk)
      · exact ih n (List.mem_append_right _ hn)
  | take _ _ _ ih =>
      intro n hn
      apply ih
      simp only [List.mem_append, List.mem_cons, List.not_mem_nil, or_false] at hn ⊢
      tauto

lemma covers_pending (h : Collects find pending known all) :
    ∀ n ∈ pending, Text.lower n ∈ all.map Text.lower :=
  fun n hn => h.covers n (List.mem_append_right _ hn)

/-- A name that was not known before has been looked up, and all that it extends is known at last. -/
lemma leads_of_known (h : Collects find pending known all) :
    ∀ n ∈ all, n ∈ known ∨ (∃ found, find n .interfaceKind = .ok found) ∧
      ∀ j ∈ extendsOf find n, Text.lower j ∈ all.map Text.lower := by
  induction h with
  | done => exact fun n hn => Or.inl hn
  | again _ _ ih => exact ih
  | @take name pending known all found _ hfind h ih =>
      intro n hn
      rcases ih n hn with hmem | hlater
      · rcases List.mem_append.1 hmem with hmem | hmem
        · exact Or.inl hmem
        · rw [List.mem_singleton.1 hmem]
          refine Or.inr ⟨⟨found, hfind⟩, fun j hj => h.covers j ?_⟩
          exact List.mem_append_right _ (List.mem_append_right _ hj)
      · exact Or.inr hlater

/-- If nothing is known before, every name has been looked up and leads to no others. -/
lemma leads (h : Collects find pending [] all) :
    ∀ n ∈ all, (∃ found, find n .interfaceKind = .ok found) ∧
      ∀ j ∈ extendsOf find n, Text.lower j ∈ all.map Text.lower :=
  fun n hn => (h.leads_of_known n hn).resolve_left (List.not_mem_nil (a := n))

end Collects

end

/-! ## Repeated names -/

/-- Of the names that differ in the case of letters at most the first, and none that is known. -/
def firstSpellings (known : List String) : List String → List String
  | [] => []
  | name :: rest =>
    if Text.lower name ∈ known.map Text.lower then firstSpellings known rest
    else name :: firstSpellings (known ++ [name]) rest

lemma firstSpellings_prefix_append (known a b : List String) :
    firstSpellings known a <+: firstSpellings known (a ++ b) := by
  induction a generalizing known with
  | nil => exact List.nil_prefix
  | cons name rest ih =>
      rw [List.cons_append, firstSpellings, firstSpellings]
      split
      · exact ih known
      · exact List.cons_prefix_cons.2 ⟨rfl, ih _⟩

/-- The names that are pending at the start are taken first. -/
lemma Collects.prefix_of_pending {pending known all : List String} (h : Collects find pending known all) :
    known ++ firstSpellings known pending <+: all := by
  induction h with
  | done known => simp [firstSpellings]
  | again hknown _ ih =>
      rw [firstSpellings, if_pos hknown]
      exact ih
  | @take name pending known all _ hfree _ _ ih =>
      rw [firstSpellings, if_neg hfree, List.append_cons]
      refine List.IsPrefix.trans ?_ ih
      exact (List.prefix_append_right_inj _).2 (firstSpellings_prefix_append _ pending _)

lemma eraseDupsBy_loop_eq (l known : List String) :
    List.eraseDupsBy.loop Text.caselessEq l known.reverse = known ++ firstSpellings known l := by
  induction l generalizing known with
  | nil => simp [List.eraseDupsBy.loop, firstSpellings]
  | cons name rest ih =>
      have hany : (known.reverse.any (Text.caselessEq name)) = true ↔
          Text.lower name ∈ known.map Text.lower := by
        rw [List.any_reverse, ← any_caselessEq_iff, funext (Text.caselessEq_comm name)]
      rw [List.eraseDupsBy.loop, firstSpellings]
      by_cases hknown : Text.lower name ∈ known.map Text.lower
      · rw [hany.2 hknown, if_pos hknown]
        exact ih known
      · rw [Bool.eq_false_iff.2 fun h => hknown (hany.1 h), if_neg hknown]
        have hrest := ih (known ++ [name])
        rw [List.reverse_append, List.reverse_singleton, List.singleton_append] at hrest
        rw [hrest, List.append_assoc, List.singleton_append]

lemma firstSpellings_nil (l : List String) : firstSpellings [] l = l.eraseDupsBy Text.caselessEq :=
  (eraseDupsBy_loop_eq l []).symm

/-! ## The interfaces of a class -/

/-- The class itself or one of its ancestors, as far as they are found. -/
def IsAncestor (find : String → Kind → Except SourceError (Option ClassInfo)) :
    ClassInfo → ClassInfo → Prop :=
  Relation.ReflTransGen fun c p => parentOf find c = .ok (some p)

/-- The names of interfaces that a class has: those that it and its ancestors implement, and those that an
interface among them extends if it is found. -/
inductive HasInterface (find : String → Kind → Except SourceError (Option ClassInfo)) (c : ClassInfo) :
    String → Prop where
  | implemented {d : ClassInfo} {name : String} (h : IsAncestor find c d) (hmem : name ∈ d.interfaces) :
      HasInterface find c name
  | extended {name j : String} {i : ClassInfo} (h : HasInterface find c name)
      (hfind : find name .interfaceKind = .ok (some i)) (hmem : j ∈ i.interfaces) :
      HasInterface find c j

/-- The interfaces of a class lead to no others, and its ancestors to none that it does not have. -/
lemma closed_hasInterface (find : String → Kind → Except SourceError (Option ClassInfo)) (c : ClassInfo) :
    Closed find fun
      | name, .classKind => ∀ p, find name .classKind = .ok (some p) → IsAncestor find c p
      | _, .traitKind => True
      | name, .interfaceKind => HasInterface find c name where
  classes _ d hname hfind :=
    { parent := fun p hp q hq => (hname d hfind).tail (by rw [parentOf, hp]; exact hq)
      traits := fun _ _ => trivial
      interfaces := fun _ hi => .implemented (hname d hfind) hi }
  traits _ _ _ _ _ _ := trivial
  interfaces _ _ hname hfind _ hj := .extended hname hfind hj

section

variable {declared reach stack after : List String} {size depth : Nat} {c r : ClassInfo}

/-- Every interface that a resolved class lists is one that it has. -/
lemma hasInterface_of_assemble (h : (assemble find size depth c).run stack = .ok (r, after)) :
    ∀ name ∈ r.interfaces, HasInterface find c name := by
  refine within_of_assemble (closed_hasInterface find c) ?_ h
  refine ⟨fun p hp q hq => .single ?_, fun _ _ => trivial, fun _ hi => .implemented .refl hi⟩
  rw [parentOf, hp]
  exact hq

lemma interfaces_withParent (c : ClassInfo) (resolved : Option ClassInfo) :
    (c.withParent resolved).interfaces = c.interfaces ++ resolved.elim [] (·.interfaces) := by
  cases resolved with
  | none => exact (List.append_nil _).symm
  | some p => rfl

/-- The interfaces of a resolved class are collected from its own and those of its resolved parent. -/
lemma collects_of_assemble (hsized : Sized find declared reach size)
    (h : (assemble find size depth c).run stack = .ok (r, after)) :
    ∃ below resolved, ParentResolved find size below stack c resolved ∧
      Collects find (c.interfaces ++ resolved.elim [] (·.interfaces)) [] r.interfaces := by
  cases depth with
  | zero => cases h
  | succ depth =>
      cases (run_assemble_eq_ok_iff.1 h).2 with
      | @of _ _ resolved _ _ _ hparent hclosure =>
          refine ⟨depth, resolved, hparent, ?_⟩
          rw [interfaces_withParent] at hclosure
          have hroom := room_closureSteps (c.interfaces ++ resolved.elim [] (·.interfaces))
            hsized.length_reach
          exact ((interfaceClosure_eq_ok_iff hsized hroom).1 hclosure).1

/-- What an ancestor implements is listed by a class that is resolved. -/
lemma listed_of_isAncestor (hsized : Sized find declared reach size) {d : ClassInfo} {name : String}
    (hd : IsAncestor find c d) (hname : name ∈ d.interfaces)
    (h : (assemble find size depth c).run stack = .ok (r, after)) :
    Text.lower name ∈ r.interfaces.map Text.lower := by
  -- from the class down to the ancestor, with every class resolved in some run
  induction hd using Relation.ReflTransGen.head_induction_on generalizing depth stack r after with
  | refl =>
      obtain ⟨_, _, _, hcollects⟩ := collects_of_assemble hsized h
      exact hcollects.covers_pending name (List.mem_append_left _ hname)
  | head hparent _ ih =>
      obtain ⟨_, _, hresolved, hcollects⟩ := collects_of_assemble hsized h
      cases hresolved with
      | absent hnone => cases hnone.symm.trans hparent
      | found hfound hrun =>
          cases hfound.symm.trans hparent
          obtain ⟨k, hk, heq⟩ := List.mem_map.1 (ih hrun)
          rw [← heq]
          exact hcollects.covers_pending k (List.mem_append_right _ hk)

/-- Every interface that a class has is listed when the class is resolved. -/
lemma listed_of_hasInterface (hsized : Sized find declared reach size)
    (hcase : ∀ a b, Text.lower a = Text.lower b → find a .interfaceKind = find b .interfaceKind)
    (h : (assemble find size depth c).run stack = .ok (r, after)) {name : String}
    (hname : HasInterface find c name) : Text.lower name ∈ r.interfaces.map Text.lower := by
  induction hname with
  | implemented hd hmem => exact listed_of_isAncestor hsized hd hmem h
  | @extended name j i _ hfind hmem ih =>
      obtain ⟨k, hk, heq⟩ := List.mem_map.1 ih
      have hextends : extendsOf find k = i.interfaces := by
        rw [extendsOf, hcase k name heq, hfind]
      obtain ⟨_, _, _, hcollects⟩ := collects_of_assemble hsized h
      exact (hcollects.leads k hk).2 j (hextends ▸ hmem)

end

/-! ## Every run -/

/-- Whenever a class is resolved, from any catalogue of the files and below any names, no name comes twice
among its interfaces.  They start with its own, of which repetitions are dropped, and are exactly those that
the class has. -/
theorem resolved_interfaces {files : List Content} {cat after : Catalogue} {depth : Nat} {c r : ClassInfo}
    {stack left : List String} (hcat : Catalogue.Of files cat)
    (h : ((assemble Search.find (extent files) depth c).run stack).run cat = .ok ((r, left), after)) :
    (r.interfaces.map Text.lower).Nodup ∧
      c.interfaces.eraseDupsBy Text.caselessEq <+: r.interfaces ∧
      (∀ name ∈ r.interfaces, HasInterface (lookupIn files) c name) ∧
      ∀ name, HasInterface (lookupIn files) c name →
        ∃ listed ∈ r.interfaces, Text.caselessEq listed name = true := by
  have hplain := (resolvesAlike_assemble (extent files) depth c stack).eq_ok hcat h
  have hsized := sized_lookupIn files
  obtain ⟨_, resolved, _, hcollects⟩ := collects_of_assemble hsized hplain
  refine ⟨hcollects.nodup List.nodup_nil, ?_, hasInterface_of_assemble hplain, ?_⟩
  · rw [← firstSpellings_nil]
    exact (firstSpellings_prefix_append [] c.interfaces _).trans hcollects.prefix_of_pending
  · intro name hname
    rw [← List.any_eq_true, any_caselessEq_iff]
    exact listed_of_hasInterface hsized (fun a b hab => lookupIn_eq_of_lower hab _) hplain hname

/-- Interfaces that extend each other in other letters, and one that is nowhere. -/
def cyclicFiles : List Content :=
  [.text "<?php
class P implements K, j \x7b\x7d
interface I extends L, Gone \x7b\x7d
interface J \x7b\x7d
interface K extends i, J \x7b\x7d
interface L extends k \x7b\x7d"]

def cyclicClass : ClassInfo :=
  { name := "C", parent := some "P", interfaces := ["J", "I", "j"] }

set_option maxRecDepth 100000 in
theorem resolved_interfaces_cyclic :
    ∃ r left after,
      ((assemble Search.find (extent cyclicFiles) 3 cyclicClass).run []).run (.ofFiles cyclicFiles) =
        .ok ((r, left), after) ∧
      r.interfaces = ["J", "I", "K", "L", "Gone"] ∧
      (r.interfaces.map Text.lower).Nodup ∧
      ["J", "I"] <+: r.interfaces ∧
      (∀ name ∈ r.interfaces, HasInterface (lookupIn cyclicFiles) cyclicClass name) ∧
      ∀ name, HasInterface (lookupIn cyclicFiles) cyclicClass name →
        ∃ listed ∈ r.interfaces, Text.caselessEq listed name = true := by
  have hlist : ((((assemble Search.find (extent cyclicFiles) 3 cyclicClass).run []).run
      (.ofFiles cyclicFiles)).toOption.map fun p => p.1.1.interfaces) =
        some ["J", "I", "K", "L", "Gone"] := by
    decide +kernel
  have hown : cyclicClass.interfaces.eraseDupsBy Text.caselessEq = ["J", "I"] := by
    decide +kernel
  obtain ⟨⟨⟨r, left⟩, after⟩, hrun, hinterfaces⟩ := exists_ok_of_map_toOption hlist
  obtain ⟨hnodup, hprefix, hsound, hcomplete⟩ :=
    resolved_interfaces (Catalogue.of_ofFiles cyclicFiles) hrun
  rw [hown] at hprefix
  exact ⟨r, left, after, hrun, hinterfaces, hnodup, hprefix, hsound, hcomplete⟩

end PhpInterface
