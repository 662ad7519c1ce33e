import Mathlib.Algebra.Order.BigOperators.Group.List
import Mathlib.Tactic.Ring
import PhpInterface.Proofs.Circularity

/-!
# Enough depth

A resolution is given a depth and its work list of interfaces a number of steps, both computed from the extent
of the sources.  They are bounds and nothing else: more of them gives the same result, failures included
(`findWith_extent`), so that what a class is does not depend on what other declarations there are.

* The depth cannot run out before a name comes twice on the stack, which is the invariant `Fits`.
* The work list takes every name once.  There is a step for each pending name and for each that the names not
  yet taken can add, and this is the invariant `Room`.
-/

namespace PhpInterface

open Source

variable {find : String → Kind → Except SourceError (Option ClassInfo)}

/-! ## The work list -/

/-- The steps are enough for the pending names and for all that can follow.  Whatever can still come up is
known or among the free names, and taking one of these adds so many pending names at most. -/
structure Room (reach : List String) (size steps : Nat) (pending known free : List String) : Prop where
  covers_pending : ∀ n ∈ pending, Text.lower n ∈ known.map Text.lower ∨ Text.lower n ∈ free
  covers_reach : ∀ n ∈ reach, Text.lower n ∈ known.map Text.lower ∨ Text.lower n ∈ free
  enough : pending.length + free.length * (size + 1) < steps

section

variable {reach pending known free : List String} {size steps : Nat} {name : String}

lemma Room.skip (h : Room reach size (steps + 1) (name :: pending) known free) :
    Room reach size steps pending known free where
  covers_pending := fun n hn => h.covers_pending n (List.mem_cons_of_mem _ hn)
  covers_reach := h.covers_reach
  enough := by
    have henough := h.enough
    rw [List.length_cons] at henough
    omega

lemma Room.take (h : Room reach size (steps + 1) (name :: pending) known free)
    (hname : Text.lower name ∉ known.map Text.lower) {more : List String} (hmore : more ⊆ reach)
    (hlength : more.length ≤ size) :
    Room reach size steps (pending ++ more) (known ++ [name]) (free.erase (Text.lower name)) := by
  have hfree : Text.lower name ∈ free := (h.covers_pending name List.mem_cons_self).resolve_left hname
  have hmove : ∀ k, k ∈ known.map Text.lower ∨ k ∈ free →
      k ∈ (known ++ [name]).map Text.lower ∨ k ∈ free.erase (Text.lower name) := by
    intro k hk
    rw [List.map_append, List.mem_append]
    rcases hk with hk | hk
    · exact Or.inl (Or.inl hk)
    · by_cases heq : k = Text.lower name
      · exact Or.inl (Or.inr (by simp [heq]))
      · exact Or.inr ((List.mem_erase_of_ne heq).2 hk)
  refine ⟨?_, fun n hn => hmove _ (h.covers_reach n hn), ?_⟩
  · intro n hn
    rcases List.mem_append.1 hn with hn | hn
    · exact hmove _ (h.covers_pending n (List.mem_cons_of_mem _ hn))
    · exact hmove _ (h.covers_reach n (hmore hn))
  · have henough := h.enough
    have hpos : 0 < free.length := List.length_pos_of_mem hfree
    obtain ⟨k, hk⟩ : ∃ k, free.length = k + 1 := ⟨free.length - 1, by omega⟩
    rw [List.length_append, List.length_erase_of_mem hfree, hk, Nat.add_sub_cancel]
    rw [List.length_cons, hk, Nat.add_mul] at henough
    omega

/-- More steps than enough change nothing. -/
lemma interfaceClosure_steps {methods : List ClassMethod} {more : Nat}
    (hfind : ∀ n i, find n .interfaceKind = .ok (some i) →
      i.interfaces ⊆ reach ∧ i.interfaces.length ≤ size)
    (hroom : Room reach size steps pending known free) (hmore : steps ≤ more) :
    interfaceClosure find steps pending known methods =
      interfaceClosure find more pending known methods := by
  induction steps generalizing more pending known free methods with
  | zero => exact absurd hroom.enough (Nat.not_lt_zero _)
  | succ steps ih =>
      obtain ⟨more, rfl⟩ : ∃ n, more = n + 1 := ⟨more - 1, by omega⟩
      cases pending with
      | nil => rfl
      | cons name pending =>
          rw [interfaceClosure, interfaceClosure]
          by_cases hseen : (known.any fun k => Text.caselessEq k name) = true
          · rw [if_pos hseen, if_pos hseen]
            exact ih hroom.skip (by omega)
          · rw [if_neg hseen, if_neg hseen]
            rw [any_caselessEq_iff] at hseen
            refine bind_congr_ok fun found hfound => ?_
            cases found with
            | none =>
                have hnext := hroom.take hseen (List.nil_subset reach) (Nat.zero_le size)
                rw [List.append_nil] at hnext
                exact ih hnext (by omega)
            | some i =>
                obtain ⟨hreach, hlength⟩ := hfind name i hfound
                exact ih (hroom.take hseen hreach hlength) (by omega)

/-- The number of steps that the work list is given is enough. -/
lemma room_closureSteps (names : List String) (hreach : reach.length ≤ size) :
    Room reach size (closureSteps names.length size) names [] ((names ++ reach).map Text.lower) where
  covers_pending := fun n hn => Or.inr (List.mem_map_of_mem (List.mem_append_left _ hn))
  covers_reach := fun n hn => Or.inr (List.mem_map_of_mem (List.mem_append_right _ hn))
  enough := by
    have hmul : (names.length + reach.length) * (size + 1) ≤ (names.length + size) * (size + 1) :=
      Nat.mul_le_mul_right _ (by omega)
    have hsteps : closureSteps names.length size =
        (names.length + size) * (size + 1) + (names.length + size) + (size + 2) := by
      rw [closureSteps]
      ring
    rw [List.length_map, List.length_append, hsteps]
    omega

end

/-! ## The stack -/

/-- How much there is to be found: the names of declarations and of what interfaces extend. -/
structure Sized (find : String → Kind → Except SourceError (Option ClassInfo)) (declared reach : List String)
    (size : Nat) : Prop where
  mem_declared : ∀ n kind c, find n kind = .ok (some c) → Text.lower c.name ∈ declared
  subset_reach : ∀ n i, find n .interfaceKind = .ok (some i) →
    i.interfaces ⊆ reach ∧ i.interfaces.length ≤ size
  length_reach : reach.length ≤ size

section

variable {user : String} {declared reach : List String} {size depth : Nat} {names stack : List String}

/-- A walk over some names that leaves the stack as it was at each of them can be replaced step by step. -/
lemma run_foldlM_congr {f g : List ClassMethod → String → Resolving (Except SourceError) (List ClassMethod)}
    (hstack : ∀ methods name result after,
      (f methods name).run stack = .ok (result, after) → after = stack)
    (h : ∀ methods name, (f methods name).run stack = (g methods name).run stack)
    (names : List String) (start : List ClassMethod) :
    (names.foldlM f start).run stack = (names.foldlM g start).run stack := by
  induction names generalizing start with
  | nil => rfl
  | cons name names ih =>
      rw [List.foldlM_cons, List.foldlM_cons, StateT.run_bind, StateT.run_bind, ← h]
      refine bind_congr_ok ?_
      rintro ⟨result, after⟩ hrun
      obtain rfl := hstack _ _ _ _ hrun
      exact ih result

/-- More depth than enough changes nothing for traits. -/
lemma methodsOfTraits_depth {more : Nat}
    (hdeclared : ∀ n kind c, find n kind = .ok (some c) → Text.lower c.name ∈ declared)
    (hfits : Fits declared depth stack) (hmore : depth ≤ more) :
    (methodsOfTraits find user depth names).run stack =
      (methodsOfTraits find user more names).run stack := by
  induction depth generalizing more names stack with
  | zero => exact absurd rfl hfits.depth_ne_zero
  | succ depth ih =>
      obtain ⟨more, rfl⟩ : ∃ n, more = n + 1 := ⟨more - 1, by omega⟩
      refine run_foldlM_congr (fun methods name result after => withTrait_stack) ?_ names []
      intro methods name
      rw [run_withTrait, run_withTrait]
      refine bind_congr_ok fun found hfound => ?_
      cases found with
      | none => rfl
      | some t =>
          by_cases hstack : Text.lower t.name ∈ stack
          · simp only [if_pos hstack]
          · simp only [if_neg hstack]
            rw [ih (hfits.push (hdeclared _ _ _ hfound) hstack) (Nat.le_of_succ_le_succ hmore)]

/-- More depth and more steps than enough change nothing for a class. -/
lemma assemble_depth {more large : Nat} {c : ClassInfo} (hsized : Sized find declared reach size)
    (hc : Text.lower c.name ∈ declared) (hfits : Fits declared depth stack) (hmore : depth ≤ more)
    (hlarge : size ≤ large) :
    (assemble find size depth c).run stack = (assemble find large more c).run stack := by
  induction depth generalizing more c stack with
  | zero => exact absurd rfl hfits.depth_ne_zero
  | succ depth ih =>
      obtain ⟨more, rfl⟩ : ∃ n, more = n + 1 := ⟨more - 1, by omega⟩
      rw [run_assemble_succ, run_assemble_succ]
      by_cases hstack : Text.lower c.name ∈ stack
      · rw [if_pos hstack, if_pos hstack]
      rw [if_neg hstack, if_neg hstack]
      have hpushed := hfits.push hc hstack
      rw [← methodsOfTraits_depth hsized.mem_declared hpushed (Nat.le_of_succ_le_succ hmore)]
      refine bind_congr_ok ?_
      rintro ⟨fromTraits, inner⟩ htraits
      obtain ⟨rfl, _⟩ := methodsOfTraits_spec htraits
      refine bind_congr_ok fun parent hparent => ?_
      have hbelow : (parent.mapM (assemble find size depth)).run (Text.lower c.name :: stack) =
          (parent.mapM (assemble find large more)).run (Text.lower c.name :: stack) := by
        cases parent with
        | none => rfl
        | some p =>
            obtain ⟨n, _, hp⟩ := exists_find_of_parentOf hparent
            have hrun := ih (hsized.mem_declared _ _ _ hp) hpushed (by omega : depth ≤ more)
            simp only [Option.mapM_some, map_eq_pure_bind, StateT.run_bind, hrun]
      rw [← hbelow]
      refine bind_congr_ok fun q _ => ?_
      dsimp only
      rw [interfaceClosure_steps hsized.subset_reach (room_closureSteps _ hsized.length_reach)]
      exact Nat.mul_le_mul (by omega) (by omega)

end

/-! ## Files -/

/-- The names that the declarations of some files extend or implement, in full. -/
def extendedNames (files : List Content) : List String :=
  (files.flatMap Content.declarations).flatMap fun d =>
    (d.decl.interfaces ++ d.decl.bases).map d.scope.resolve

section

variable {files : List Content}

lemma extent_eq_sum (files : List Content) :
    extent files = ((files.flatMap Content.declarations).map Declared.weight).sum := by
  rw [extent, List.sum_eq_foldr, List.foldr_map]

lemma weight_le_extent {d : Declared} (h : d ∈ files.flatMap Content.declarations) :
    d.weight ≤ extent files := by
  rw [extent_eq_sum]
  exact List.single_le_sum (fun _ _ => Nat.zero_le _) _ (List.mem_map_of_mem h)

lemma length_extendedNames_le (files : List Content) : (extendedNames files).length ≤ extent files := by
  rw [extendedNames, List.length_flatMap, extent_eq_sum]
  refine List.sum_le_sum fun d _ => ?_
  rw [List.length_map, List.length_append, Declared.weight]
  omega

lemma interfaces_of_describe {d : Declared} {c : ClassInfo} (h : d.describe = .ok c) :
    c.interfaces = (d.decl.interfaces ++ d.decl.bases).map d.scope.resolve ∨
      c.interfaces = d.decl.interfaces.map d.scope.resolve := by
  obtain ⟨methods, _, hc⟩ := bind_eq_ok_iff.1 h
  cases hc
  dsimp only
  split
  · exact Or.inl (by rw [List.map_append])
  · exact Or.inr rfl

/-- The extent of some files is enough for all that is found in them. -/
lemma sized_lookupIn (files : List Content) :
    Sized (lookupIn files) (declaredNames files) (extendedNames files) (extent files) where
  mem_declared := fun _ _ _ hfound => mem_declaredNames hfound
  subset_reach := by
    intro n i hfound
    obtain ⟨d, hd, hdescribe⟩ := exists_declared_of_lookup hfound
    have hweight : d.decl.bases.length + d.decl.interfaces.length ≤ extent files := by
      have hle := weight_le_extent hd
      rw [Declared.weight] at hle
      omega
    have hall : (d.decl.interfaces ++ d.decl.bases).map d.scope.resolve ⊆ extendedNames files :=
      fun j hj => List.mem_flatMap.2 ⟨d, hd, hj⟩
    rcases interfaces_of_describe hdescribe with hi | hi
    · rw [hi]
      refine ⟨hall, ?_⟩
      rw [List.length_map, List.length_append]
      omega
    · rw [hi]
      refine ⟨fun j hj => hall ?_, ?_⟩
      · rw [List.map_append]
        exact List.mem_append_left _ hj
      · rw [List.length_map]
        omega
  length_reach := length_extendedNames_le files

/-- A search that is given more than the extent of the files finds the same. -/
lemma findWith_extent {large : Nat} (h : extent files ≤ large) (name : String) :
    findWith (lookupIn files) large name = classNamed files name := by
  rw [classNamed_eq, findWith, findWith]
  refine bind_congr_ok fun found hfound => ?_
  cases found with
  | none => rfl
  | some c =>
      have hrun := assemble_depth (sized_lookupIn files) (mem_declaredNames hfound)
        (fits_declaredNames files) (Nat.succ_le_succ h) h
      dsimp only
      rw [StateT.run'_eq, StateT.run'_eq, hrun]

end

end PhpInterface
