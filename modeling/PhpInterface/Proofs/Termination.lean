import Mathlib.Data.Finset.Card
import PhpInterface.Proofs.InterfaceClosure

/-!
# Every resolution ends

A class is resolved by calls within calls: from a class to its traits and to its parent, and from a trait to
the traits that it uses.  Neither is given a bound here.  `ClassRun` and `TraitsRun` say what such calls do,
failures included, and list all the calls that are made on the way, each with its level and with the stack as
it finds it.  `WorkRun` does so for the work list of interfaces, and lists the names that it takes.

That a run ends is that it exists.  What carries the proof is one invariant (`Call.Orderly`): the names on the
stack are names of classes and traits, none of them twice, and there is one for each call that a call is made
from.  So the calls are never nested deeper than there are such names, and one more.  The work list takes no
name twice, and only such as it starts with or a declared interface extends.

The depth and the steps that the definitions are given are never used up, so that these runs are those that
are made (`resolution_ends`).
-/

namespace PhpInterface

open Source

variable {find : String → Kind → Except SourceError (Option ClassInfo)}

/-! ## Calls -/

/-- A call that is made while a class is resolved: how many calls are under way, with this one, and the names
that are on the stack. -/
structure Call where
  level : Nat
  stack : List String

namespace Call

/-- The first call, with nothing on the stack. -/
def outermost : Call :=
  ⟨1, []⟩

/-- A call that is made from this one with one more name on the stack. -/
def below (call : Call) (name : String) : Call :=
  ⟨call.level + 1, Text.lower name :: call.stack⟩

/-- The names on the stack are among these, each of them once, and there is one for each call around this
one. -/
structure Orderly (declared : List String) (call : Call) : Prop where
  nodup : call.stack.Nodup
  subset : call.stack ⊆ declared
  level_eq : call.level = call.stack.length + 1

variable {declared : List String} {call : Call}

lemma orderly_outermost : outermost.Orderly declared :=
  ⟨List.nodup_nil, List.nil_subset _, rfl⟩

lemma Orderly.below {name : String} (h : call.Orderly declared) (hname : Text.lower name ∈ declared)
    (hfree : Text.lower name ∉ call.stack) : (call.below name).Orderly declared where
  nodup := List.nodup_cons.2 ⟨hfree, h.nodup⟩
  subset := List.cons_subset.2 ⟨hname, h.subset⟩
  level_eq := by
    rw [Call.below, h.level_eq, List.length_cons]

end Call

lemma length_le_card {l names : List String} (hnodup : l.Nodup) (hsubset : l ⊆ names) :
    l.length ≤ names.toFinset.card := by
  rw [← List.toFinset_card_of_nodup hnodup]
  exact Finset.card_le_card fun k hk => List.mem_toFinset.2 (hsubset (List.mem_toFinset.1 hk))

lemma Call.Orderly.level_le {declared : List String} {call : Call} (h : call.Orderly declared) :
    call.level ≤ declared.toFinset.card + 1 := by
  rw [h.level_eq]
  exact Nat.succ_le_succ (length_le_card h.nodup h.subset)

/-! ## Traits -/

/-- Collecting the methods of traits for a class, with those that there are already.  The calls are those that
are made from this one. -/
inductive TraitsRun (find : String → Kind → Except SourceError (Option ClassInfo)) (user : String) :
    Call → List String → List ClassMethod → List Call → Except SourceError (List ClassMethod) → Prop where
  | done (call : Call) (methods : List ClassMethod) : TraitsRun find user call [] methods [] (.ok methods)
  | lookupFails {call : Call} {name : String} {names : List String} {methods : List ClassMethod}
      {e : SourceError} (hfind : find name .traitKind = .error e) :
      TraitsRun find user call (name :: names) methods [] (.error e)
  | missing {call : Call} {name : String} {names : List String} {methods : List ClassMethod}
      {calls : List Call} {result : Except SourceError (List ClassMethod)}
      (hfind : find name .traitKind = .ok none) (hrest : TraitsRun find user call names methods calls result) :
      TraitsRun find user call (name :: names) methods calls result
  | again {call : Call} {name : String} {names : List String} {methods : List ClassMethod} {t : ClassInfo}
      (hfind : find name .traitKind = .ok (some t)) (hstack : Text.lower t.name ∈ call.stack) :
      TraitsRun find user call (name :: names) methods [] (.error (.circular t.name))
  | nestedFails {call : Call} {name : String} {names : List String} {methods : List ClassMethod}
      {t : ClassInfo} {calls : List Call} {e : SourceError}
      (hfind : find name .traitKind = .ok (some t)) (hfree : Text.lower t.name ∉ call.stack)
      (hnested : TraitsRun find user (call.below t.name) t.traits [] calls (.error e)) :
      TraitsRun find user call (name :: names) methods (call.below t.name :: calls) (.error e)
  | found {call : Call} {name : String} {names : List String} {methods nested : List ClassMethod}
      {t : ClassInfo} {calls more : List Call} {result : Except SourceError (List ClassMethod)}
      (hfind : find name .traitKind = .ok (some t)) (hfree : Text.lower t.name ∉ call.stack)
      (hnested : TraitsRun find user (call.below t.name) t.traits [] calls (.ok nested))
      (hrest : TraitsRun find user call names
        (withMissing methods ((withMissing t.methods nested).map (·.usedBy user))) more result) :
      TraitsRun find user call (name :: names) methods (call.below t.name :: calls ++ more) result

section

variable {user : String} {declared : List String} {call : Call} {names : List String}
  {methods : List ClassMethod} {calls : List Call} {result : Except SourceError (List ClassMethod)}

/-- All calls from an orderly call for traits are orderly. -/
lemma TraitsRun.orderly
    (hdeclared : ∀ n t, find n .traitKind = .ok (some t) → Text.lower t.name ∈ declared)
    (h : TraitsRun find user call names methods calls result) (hcall : call.Orderly declared) :
    ∀ inner ∈ calls, inner.Orderly declared := by
  induction h with
  | done => simp
  | lookupFails => simp
  | missing _ _ ih => exact ih hcall
  | again => simp
  | nestedFails hfind hfree _ ih =>
      have hbelow := hcall.below (hdeclared _ _ hfind) hfree
      exact List.forall_mem_cons.2 ⟨hbelow, ih hbelow⟩
  | found hfind hfree _ _ ihnested ihrest =>
      have hbelow := hcall.below (hdeclared _ _ hfind) hfree
      exact List.forall_mem_append.2 ⟨List.forall_mem_cons.2 ⟨hbelow, ihnested hbelow⟩, ihrest hcall⟩

/-- One turn of the loop over traits. -/
lemma run_foldlM_withTrait_cons {methodsOf : List String → Resolving (Except SourceError) (List ClassMethod)}
    {name : String} {stack : List String} :
    ((name :: names).foldlM (withTrait find user methodsOf) methods).run stack =
      find name .traitKind >>= fun
        | none => (names.foldlM (withTrait find user methodsOf) methods).run stack
        | some t =>
          if Text.lower t.name ∈ stack then .error (.circular t.name)
          else
            (methodsOf t.traits).run (Text.lower t.name :: stack) >>= fun p =>
              (names.foldlM (withTrait find user methodsOf)
                (withMissing methods ((withMissing t.methods p.1).map (·.usedBy user)))).run p.2.tail := by
  rw [List.foldlM_cons, StateT.run_bind, run_withTrait, bind_assoc]
  refine bind_congr_ok fun found _ => ?_
  cases found with
  | none => rfl
  | some t =>
      by_cases hstack : Text.lower t.name ∈ stack
      · simp only [if_pos hstack]
        rfl
      · simp only [if_neg hstack, bind_assoc, ok_bind]

/-- A depth that fits is enough for a run, which leaves the stack as it was. -/
lemma exists_traitsRun {depth : Nat}
    (hdeclared : ∀ n t, find n .traitKind = .ok (some t) → Text.lower t.name ∈ declared)
    (hfits : Fits declared depth call.stack) (names : List String) :
    ∃ calls result, TraitsRun find user call names [] calls result ∧
      (methodsOfTraits find user depth names).run call.stack = (·, call.stack) <$> result := by
  induction depth generalizing call names with
  | zero => exact absurd rfl hfits.depth_ne_zero
  | succ depth ih =>
      suffices hloop : ∀ (names : List String) (methods : List ClassMethod),
          ∃ calls result, TraitsRun find user call names methods calls result ∧
            (names.foldlM (withTrait find user (methodsOfTraits find user depth)) methods).run call.stack =
              (·, call.stack) <$> result from hloop names []
      intro names
      induction names with
      | nil => exact fun methods => ⟨[], .ok methods, .done call methods, rfl⟩
      | cons name names ihnames =>
          intro methods
          simp only [run_foldlM_withTrait_cons]
          cases hfind : find name .traitKind with
          | error e => exact ⟨[], .error e, .lookupFails hfind, rfl⟩
          | ok found =>
              simp only [ok_bind]
              cases found with
              | none =>
                  obtain ⟨calls, result, hrun, heq⟩ := ihnames methods
                  exact ⟨calls, result, .missing hfind hrun, heq⟩
              | some t =>
                  by_cases hstack : Text.lower t.name ∈ call.stack
                  · exact ⟨[], .error (.circular t.name), .again hfind hstack, if_pos hstack⟩
                  · simp only [if_neg hstack]
                    have hbelow : Fits declared depth (call.below t.name).stack :=
                      hfits.push (hdeclared _ _ hfind) hstack
                    obtain ⟨calls, outcome, hnested, heq⟩ := ih hbelow t.traits
                    rw [Call.below] at heq
                    simp only [heq]
                    cases outcome with
                    | error e => exact ⟨_, .error e, .nestedFails hfind hstack hnested, rfl⟩
                    | ok nested =>
                        obtain ⟨more, result, hrest, heqrest⟩ := ihnames
                          (withMissing methods ((withMissing t.methods nested).map (·.usedBy user)))
                        exact ⟨_, result, .found hfind hstack hnested hrest, heqrest⟩

end

/-! ## The work list -/

/-- A run of the work list with these names pending and those known; the names are those that it takes, and
it ends with all that are known at last. -/
inductive WorkRun (find : String → Kind → Except SourceError (Option ClassInfo)) :
    List String → List String → List String → Except SourceError (List String) → Prop where
  | done (known : List String) : WorkRun find [] known [] (.ok known)
  | skip {name : String} {pending known taken : List String} {result : Except SourceError (List String)}
      (hknown : Text.lower name ∈ known.map Text.lower) (h : WorkRun find pending known taken result) :
      WorkRun find (name :: pending) known taken result
  | lookupFails {name : String} {pending known : List String} {e : SourceError}
      (hfree : Text.lower name ∉ known.map Text.lower) (hfind : find name .interfaceKind = .error e) :
      WorkRun find (name :: pending) known [name] (.error e)
  | take {name : String} {pending known taken : List String} {found : Option ClassInfo}
      {result : Except SourceError (List String)} (hfree : Text.lower name ∉ known.map Text.lower)
      (hfind : find name .interfaceKind = .ok found)
      (h : WorkRun find (pending ++ extendsOf find name) (known ++ [name]) taken result) :
      WorkRun find (name :: pending) known (name :: taken) result

section

variable {pending known taken reach : List String} {result : Except SourceError (List String)}

/-- A name that is taken was not known before. -/
lemma WorkRun.not_known (h : WorkRun find pending known taken result) :
    ∀ n ∈ taken, Text.lower n ∉ known.map Text.lower := by
  induction h with
  | done => simp
  | skip _ _ ih => exact ih
  | lookupFails hfree _ => simpa using hfree
  | take hfree _ _ ih =>
      refine List.forall_mem_cons.2 ⟨hfree, fun n hn hknown => ih n hn ?_⟩
      rw [List.map_append]
      exact List.mem_append_left _ hknown

/-- No name is taken twice. -/
lemma WorkRun.nodup_taken (h : WorkRun find pending known taken result) :
    (taken.map Text.lower).Nodup := by
  induction h with
  | done => simp
  | skip _ _ ih => exact ih
  | lookupFails => simp
  | @take name pending known taken found result hfree hfind h ih =>
      refine List.nodup_cons.2 ⟨fun hmem => ?_, ih⟩
      obtain ⟨n, hn, heq⟩ := List.mem_map.1 hmem
      exact h.not_known n hn (by simp [heq])

/-- A name that is taken was pending or is one that an interface extends. -/
lemma WorkRun.taken_subset (hreach : ∀ n, extendsOf find n ⊆ reach)
    (h : WorkRun find pending known taken result) : taken ⊆ pending ++ reach := by
  induction h with
  | done => simp
  | skip _ _ ih => exact List.Subset.trans ih (List.subset_cons_self _ _)
  | lookupFails => simp
  | @take name pending known taken found result hfree hfind h ih =>
      refine List.cons_subset.2 ⟨List.mem_cons_self, fun n hn => ?_⟩
      have hmem := ih hn
      simp only [List.mem_append, List.mem_cons] at hmem ⊢
      rcases hmem with (hpending | hextends) | hn
      · exact Or.inl (Or.inr hpending)
      · exact Or.inr (hreach name hextends)
      · exact Or.inr hn

lemma WorkRun.length_taken_le (hreach : ∀ n, extendsOf find n ⊆ reach)
    (h : WorkRun find pending known taken result) :
    taken.length ≤ ((pending ++ reach).map Text.lower).toFinset.card := by
  rw [← List.length_map Text.lower]
  exact length_le_card h.nodup_taken (List.map_subset _ (h.taken_subset hreach))

/-- Steps for which there is room are enough for a run. -/
lemma exists_workRun {declared free : List String} {size steps : Nat}
    (hsized : Sized find declared reach size) (hroom : Room reach size steps pending known free) :
    ∃ taken result, WorkRun find pending known taken result ∧
      interfaceClosure find steps pending known (firstByName [] (interfaceMethods find known)) =
        (fun all => (all, firstByName [] (interfaceMethods find all))) <$> result := by
  induction steps generalizing pending known free with
  | zero => exact absurd hroom.enough (Nat.not_lt_zero _)
  | succ steps ih =>
      cases pending with
      | nil => exact ⟨[], .ok known, .done known, rfl⟩
      | cons name pending =>
          by_cases hknown : Text.lower name ∈ known.map Text.lower
          · obtain ⟨taken, result, hrun, heq⟩ := ih hroom.skip
            refine ⟨taken, result, .skip hknown hrun, ?_⟩
            rw [interfaceClosure_cons_of_known hknown, heq]
          · rw [interfaceClosure_cons_of_free hknown]
            cases hfind : find name .interfaceKind with
            | error e => exact ⟨[name], .error e, .lookupFails hknown hfind, rfl⟩
            | ok found =>
                obtain ⟨hreach, hlength⟩ := hsized.extendsOf name
                obtain ⟨taken, result, hrun, heq⟩ := ih (hroom.take hknown hreach hlength)
                exact ⟨name :: taken, result, .take hknown hfind hrun, heq⟩

end

/-! ## Classes -/

/-- The class with the interfaces that a work list ends with, and with what they ask for. -/
def ClassInfo.withCollected (find : String → Kind → Except SourceError (Option ClassInfo)) (c : ClassInfo)
    (all : List String) : ClassInfo :=
  c.withInterfaces all (firstByName [] (interfaceMethods find all))

/-- Resolving a class.  The calls are those that are made from this one: for its traits, for its parent, and
from these in turn. -/
inductive ClassRun (find : String → Kind → Except SourceError (Option ClassInfo)) :
    Call → ClassInfo → List Call → Except SourceError ClassInfo → Prop where
  | again {call : Call} {c : ClassInfo} (hstack : Text.lower c.name ∈ call.stack) :
      ClassRun find call c [] (.error (.circular c.name))
  | traitsFail {call : Call} {c : ClassInfo} {calls : List Call} {e : SourceError}
      (hfree : Text.lower c.name ∉ call.stack)
      (htraits : TraitsRun find c.name (call.below c.name) c.traits [] calls (.error e)) :
      ClassRun find call c (call.below c.name :: calls) (.error e)
  | lookupFails {call : Call} {c : ClassInfo} {calls : List Call} {methods : List ClassMethod}
      {e : SourceError} (hfree : Text.lower c.name ∉ call.stack)
      (htraits : TraitsRun find c.name (call.below c.name) c.traits [] calls (.ok methods))
      (hparent : parentOf find c = .error e) :
      ClassRun find call c (call.below c.name :: calls) (.error e)
  | parentFails {call : Call} {c p : ClassInfo} {calls more : List Call} {methods : List ClassMethod}
      {e : SourceError} (hfree : Text.lower c.name ∉ call.stack)
      (htraits : TraitsRun find c.name (call.below c.name) c.traits [] calls (.ok methods))
      (hparent : parentOf find c = .ok (some p)) (hrun : ClassRun find (call.below c.name) p more (.error e)) :
      ClassRun find call c (call.below c.name :: calls ++ call.below c.name :: more) (.error e)
  | withoutParent {call : Call} {c : ClassInfo} {calls : List Call} {methods : List ClassMethod}
      {taken : List String} {work : Except SourceError (List String)}
      (hfree : Text.lower c.name ∉ call.stack)
      (htraits : TraitsRun find c.name (call.below c.name) c.traits [] calls (.ok methods))
      (hparent : parentOf find c = .ok none)
      (hwork : WorkRun find (c.withTraits methods).interfaces [] taken work) :
      ClassRun find call c (call.below c.name :: calls) ((c.withTraits methods).withCollected find <$> work)
  | withParent {call : Call} {c p r : ClassInfo} {calls more : List Call} {methods : List ClassMethod}
      {taken : List String} {work : Except SourceError (List String)}
      (hfree : Text.lower c.name ∉ call.stack)
      (htraits : TraitsRun find c.name (call.below c.name) c.traits [] calls (.ok methods))
      (hparent : parentOf find c = .ok (some p)) (hrun : ClassRun find (call.below c.name) p more (.ok r))
      (hwork : WorkRun find ((c.withTraits methods).withParent (some r)).interfaces [] taken work) :
      ClassRun find call c (call.below c.name :: calls ++ call.below c.name :: more)
        (((c.withTraits methods).withParent (some r)).withCollected find <$> work)

/-- Classes and traits that are found have names among these. -/
def NamesAmong (find : String → Kind → Except SourceError (Option ClassInfo)) (declared : List String) : Prop :=
  ∀ n kind c, kind ≠ .interfaceKind → find n kind = .ok (some c) → Text.lower c.name ∈ declared

section

variable {declared : List String} {call : Call} {c : ClassInfo} {calls : List Call}
  {result : Except SourceError ClassInfo}

lemma NamesAmong.of_trait (h : NamesAmong find declared) :
    ∀ n t, find n .traitKind = .ok (some t) → Text.lower t.name ∈ declared :=
  fun n t hfind => h n .traitKind t (by decide) hfind

lemma NamesAmong.of_parentOf (h : NamesAmong find declared) {p : ClassInfo}
    (hparent : parentOf find c = .ok (some p)) : Text.lower p.name ∈ declared := by
  obtain ⟨n, _, hfind⟩ := exists_find_of_parentOf hparent
  exact h n .classKind p (by decide) hfind

lemma NamesAmong.dedup (h : NamesAmong find declared) : NamesAmong find declared.dedup :=
  fun n kind c hkind hfind => List.mem_dedup.2 (h n kind c hkind hfind)

/-- The call for the traits of a class is orderly, with all that are made from it. -/
lemma TraitsRun.orderly_below (hdeclared : NamesAmong find declared) {methods : List ClassMethod}
    {outcome : Except SourceError (List ClassMethod)} (hcall : call.Orderly declared)
    (hc : Text.lower c.name ∈ declared) (hfree : Text.lower c.name ∉ call.stack)
    (h : TraitsRun find c.name (call.below c.name) c.traits methods calls outcome) :
    ∀ inner ∈ call.below c.name :: calls, inner.Orderly declared := by
  have hbelow := hcall.below hc hfree
  exact List.forall_mem_cons.2 ⟨hbelow, h.orderly hdeclared.of_trait hbelow⟩

/-- All calls from an orderly call for a class are orderly. -/
lemma ClassRun.orderly (hdeclared : NamesAmong find declared) (h : ClassRun find call c calls result)
    (hcall : call.Orderly declared) (hc : Text.lower c.name ∈ declared) :
    ∀ inner ∈ calls, inner.Orderly declared := by
  induction h with
  | again => simp
  | traitsFail hfree htraits => exact htraits.orderly_below hdeclared hcall hc hfree
  | lookupFails hfree htraits _ => exact htraits.orderly_below hdeclared hcall hc hfree
  | withoutParent hfree htraits _ _ => exact htraits.orderly_below hdeclared hcall hc hfree
  | parentFails hfree htraits hparent _ ih =>
      have hbelow := hcall.below hc hfree
      exact List.forall_mem_append.2 ⟨htraits.orderly_below hdeclared hcall hc hfree,
        List.forall_mem_cons.2 ⟨hbelow, ih hbelow (hdeclared.of_parentOf hparent)⟩⟩
  | withParent hfree htraits hparent _ _ ih =>
      have hbelow := hcall.below hc hfree
      exact List.forall_mem_append.2 ⟨htraits.orderly_below hdeclared hcall hc hfree,
        List.forall_mem_cons.2 ⟨hbelow, ih hbelow (hdeclared.of_parentOf hparent)⟩⟩

/-- The last part of a resolution: a work list runs and the class gets what it ends with. -/
lemma exists_collected {all reach : List String} {size : Nat} (hsized : Sized find all reach size)
    (inherited : ClassInfo) (stack : List String) :
    ∃ taken work, WorkRun find inherited.interfaces [] taken work ∧
      (interfaceClosure find (closureSteps inherited.interfaces.length size) inherited.interfaces [] [] >>=
        fun reached => .ok (inherited.withInterfaces reached.1 reached.2, stack)) =
      (·, stack) <$> (inherited.withCollected find <$> work) := by
  obtain ⟨taken, work, hrun, heq⟩ :=
    exists_workRun hsized (room_closureSteps inherited.interfaces hsized.length_reach)
  have hnone : firstByName [] (interfaceMethods find []) = [] := rfl
  rw [hnone] at heq
  refine ⟨taken, work, hrun, ?_⟩
  rw [heq]
  cases work <;> rfl

/-- A depth that fits is enough for a run, which leaves the stack as it was. -/
lemma exists_classRun {all reach : List String} {size depth : Nat} (hdeclared : NamesAmong find declared)
    (hsized : Sized find all reach size) (hfits : Fits declared depth call.stack)
    (hc : Text.lower c.name ∈ declared) :
    ∃ calls result, ClassRun find call c calls result ∧
      (assemble find size depth c).run call.stack = (·, call.stack) <$> result := by
  induction depth generalizing call c with
  | zero => exact absurd rfl hfits.depth_ne_zero
  | succ depth ih =>
      rw [run_assemble_succ]
      by_cases hstack : Text.lower c.name ∈ call.stack
      · exact ⟨[], .error (.circular c.name), .again hstack, if_pos hstack⟩
      rw [if_neg hstack]
      have hbelow : Fits declared depth (call.below c.name).stack := hfits.push hc hstack
      obtain ⟨calls, outcome, htraits, heq⟩ := exists_traitsRun hdeclared.of_trait hbelow c.traits
      rw [Call.below] at heq
      rw [heq]
      cases outcome with
      | error e => exact ⟨_, .error e, .traitsFail hstack htraits, rfl⟩
      | ok methods =>
          simp only [map_ok, ok_bind]
          cases hparent : parentOf find c with
          | error e => exact ⟨_, .error e, .lookupFails hstack htraits hparent, rfl⟩
          | ok parent =>
              cases parent with
              | none =>
                  obtain ⟨taken, work, hwork, heq⟩ :=
                    exists_collected hsized (c.withTraits methods) call.stack
                  exact ⟨_, _, .withoutParent hstack htraits hparent hwork, heq⟩
              | some p =>
                  obtain ⟨more, outcome, hrun, heq⟩ := ih hbelow (hdeclared.of_parentOf hparent)
                  rw [Call.below] at heq
                  simp only [ok_bind, Option.mapM_some, StateT.run_map, heq]
                  cases outcome with
                  | error e => exact ⟨_, .error e, .parentFails hstack htraits hparent hrun, rfl⟩
                  | ok r =>
                      obtain ⟨taken, work, hwork, heq⟩ :=
                        exists_collected hsized ((c.withTraits methods).withParent (some r)) call.stack
                      exact ⟨_, _, .withParent hstack htraits hparent hrun hwork, heq⟩

end

/-! ## Files -/

/-- The names of the classes and traits that some files declare, in small letters. -/
def resolvableNames (files : List Content) : List String :=
  ((files.flatMap Content.declarations).filter fun d => d.decl.kind ≠ .interfaceKind).map fun d =>
    Text.lower d.name

/-- The names that the interfaces of some files extend, in full. -/
def extendsLists (files : List Content) : List String :=
  ((files.flatMap Content.declarations).filter fun d => d.decl.kind = .interfaceKind).flatMap fun d =>
    (d.describe.toOption.map (·.interfaces)).getD []

/-- The names on the stack are names of classes and traits, none of them twice, and the level is one more than
there are such names at most. -/
structure Call.Bounded (files : List Content) (call : Call) : Prop where
  nodup : call.stack.Nodup
  subset : call.stack ⊆ resolvableNames files
  level_le : call.level ≤ (resolvableNames files).toFinset.card + 1

section

variable {files : List Content} {call : Call}

lemma Call.Orderly.bounded (h : call.Orderly (resolvableNames files)) : call.Bounded files :=
  ⟨h.nodup, h.subset, h.level_le⟩

lemma kind_of_answers {d : Declared} {name : String} {kind : Kind} (h : d.answers name kind = true) :
    d.decl.kind = kind := by
  rw [Declared.answers, Bool.and_eq_true, beq_iff_eq] at h
  exact h.1

lemma namesAmong_lookupIn (files : List Content) : NamesAmong (lookupIn files) (resolvableNames files) := by
  intro n kind c hkind hfound
  obtain ⟨d, hd, hanswers, hdescribe⟩ := exists_answering_of_lookup hfound
  rw [name_of_describe hdescribe]
  refine List.mem_map_of_mem (List.mem_filter.2 ⟨hd, ?_⟩)
  rw [kind_of_answers hanswers]
  exact decide_eq_true hkind

lemma extendsOf_subset_extendsLists (files : List Content) (name : String) :
    extendsOf (lookupIn files) name ⊆ extendsLists files := by
  unfold extendsOf
  split
  · next i hfound =>
    obtain ⟨d, hd, hanswers, hdescribe⟩ := exists_answering_of_lookup hfound
    intro j hj
    refine List.mem_flatMap.2 ⟨d, List.mem_filter.2 ⟨hd, decide_eq_true (kind_of_answers hanswers)⟩, ?_⟩
    rw [hdescribe]
    exact hj
  · exact List.nil_subset _

lemma card_resolvableNames_le (files : List Content) :
    (resolvableNames files).toFinset.card ≤ extent files := by
  calc (resolvableNames files).toFinset.card
      ≤ (resolvableNames files).length := List.toFinset_card_le _
    _ ≤ (files.flatMap Content.declarations).length := by
        rw [resolvableNames, List.length_map]
        exact List.length_filter_le _ _
    _ ≤ extent files := by
        rw [← List.length_map (fun d => Text.lower d.name)]
        exact length_declaredNames_le files

/-- A depth fits that is more than the number of names that are not on the stack. -/
lemma fits_dedup {declared : List String} {depth : Nat} (h : call.Orderly declared)
    (hdepth : declared.toFinset.card < call.stack.length + depth) :
    Fits declared.dedup depth call.stack where
  nodup := h.nodup
  subset := fun k hk => List.mem_dedup.2 (h.subset hk)
  enough := by rwa [← List.card_toFinset]

/-- In a run for a class that is found all calls are bounded. -/
lemma ClassRun.bounded {name : String} {c : ClassInfo} {calls : List Call}
    {result : Except SourceError ClassInfo} (h : ClassRun (lookupIn files) call c calls result)
    (hcall : call.Orderly (resolvableNames files)) (hfound : lookupIn files name .classKind = .ok (some c)) :
    ∀ inner ∈ call :: calls, inner.Bounded files := by
  have hnames := namesAmong_lookupIn files
  refine List.forall_mem_cons.2 ⟨hcall.bounded, fun inner hinner => ?_⟩
  exact (h.orderly hnames hcall (hnames name .classKind c (by decide) hfound) inner hinner).bounded

/-- There is a run for a class that is found, and with depth enough it is made. -/
lemma exists_classRun_of_found {name : String} {c : ClassInfo} {depth : Nat}
    (hcall : call.Orderly (resolvableNames files))
    (hdepth : (resolvableNames files).toFinset.card < call.stack.length + depth)
    (hfound : lookupIn files name .classKind = .ok (some c)) :
    ∃ calls result, ClassRun (lookupIn files) call c calls result ∧
      (assemble (lookupIn files) (extent files) depth c).run call.stack = (·, call.stack) <$> result := by
  have hnames := (namesAmong_lookupIn files).dedup
  exact exists_classRun hnames (sized_lookupIn files) (fits_dedup hcall hdepth)
    (hnames name .classKind c (by decide) hfound)

/-- The search for a class is a run from the outermost call, and all its calls are bounded. -/
lemma exists_classRun_classNamed {name : String} {c : ClassInfo}
    (hfound : lookupIn files name .classKind = .ok (some c)) :
    ∃ calls, ClassRun (lookupIn files) .outermost c calls (classNamed files name) ∧
      ∀ inner ∈ .outermost :: calls, inner.Bounded files := by
  have hdepth : (resolvableNames files).toFinset.card < Call.outermost.stack.length + (extent files + 1) := by
    have hcard := card_resolvableNames_le files
    omega
  obtain ⟨calls, result, hrun, heq⟩ := exists_classRun_of_found Call.orderly_outermost hdepth hfound
  have hnamed : classNamed files name = result := by
    rw [Call.outermost] at heq
    rw [classNamed_of_found hfound, heq]
    cases result <;> rfl
  rw [hnamed]
  exact ⟨calls, hrun, hrun.bounded Call.orderly_outermost hfound⟩

end

/-- For any files, whatever is built on itself in them.  Resolving a class, collecting the methods of traits and
collecting interfaces end with a result or an error, from any orderly call and any catalogue of the files.
They do so in runs that no bound cuts short.  The calls of such a run are never deeper than there are names of
classes and traits, and one more, so that this is depth enough; and the work list takes as many names at most
as there are among those that it starts with and those that declared interfaces extend. -/
theorem resolution_ends (files : List Content) (cat : Catalogue) (hcat : Catalogue.Of files cat)
    (call : Call) (hcall : call.Orderly (resolvableNames files)) (depth : Nat)
    (hdepth : (resolvableNames files).toFinset.card < call.stack.length + depth) :
    (∀ name c, lookupIn files name .classKind = .ok (some c) →
      (∃ calls, ClassRun (lookupIn files) .outermost c calls (classNamed files name) ∧
        ∀ inner ∈ .outermost :: calls, inner.Bounded files) ∧
      (∃ calls result, ClassRun (lookupIn files) call c calls result ∧
        ((assemble Search.find (extent files) depth c).run call.stack).run' cat =
          (·, call.stack) <$> result) ∧
      ∀ calls result, ClassRun (lookupIn files) call c calls result →
        ∀ inner ∈ call :: calls, inner.Bounded files) ∧
    (∀ user names,
      (∃ calls result, TraitsRun (lookupIn files) user call names [] calls result ∧
        ((methodsOfTraits Search.find user depth names).run call.stack).run' cat =
          (·, call.stack) <$> result) ∧
      ∀ calls result, TraitsRun (lookupIn files) user call names [] calls result →
        ∀ inner ∈ call :: calls, inner.Bounded files) ∧
    ∀ start,
      (∃ taken result, WorkRun (lookupIn files) start [] taken result ∧
        (interfaceClosure Search.find (closureSteps start.length (extent files)) start [] []).run' cat =
          (fun all => (all, firstByName [] (interfaceMethods (lookupIn files) all))) <$> result) ∧
      ∀ taken result, WorkRun (lookupIn files) start [] taken result →
        taken.length ≤ ((start ++ extendsLists files).map Text.lower).toFinset.card := by
  have hnames := namesAmong_lookupIn files
  have hsized := sized_lookupIn files
  refine ⟨fun name c hfound => ⟨exists_classRun_classNamed hfound, ?_, ?_⟩, fun user names => ⟨?_, ?_⟩,
    fun start => ⟨?_, ?_⟩⟩
  · obtain ⟨calls, result, hrun, heq⟩ := exists_classRun_of_found hcall hdepth hfound
    refine ⟨calls, result, hrun, ?_⟩
    rw [← heq]
    exact (resolvesAlike_assemble (extent files) depth c call.stack).run'_eq hcat
  · exact fun calls result hrun => hrun.bounded hcall hfound
  · obtain ⟨calls, result, hrun, heq⟩ :=
      exists_traitsRun hnames.dedup.of_trait (fits_dedup hcall hdepth) names
    refine ⟨calls, result, hrun, ?_⟩
    rw [← heq]
    exact (resolvesAlike_methodsOfTraits user depth names call.stack).run'_eq hcat
  · intro calls result hrun
    refine List.forall_mem_cons.2 ⟨hcall.bounded, fun inner hinner => ?_⟩
    exact (hrun.orderly hnames.of_trait hcall inner hinner).bounded
  · obtain ⟨taken, result, hrun, heq⟩ := exists_workRun hsized (room_closureSteps start hsized.length_reach)
    refine ⟨taken, result, hrun, ?_⟩
    rw [← heq]
    refine Agrees.run'_eq ?_ hcat
    exact (agreement files).rel_interfaceClosure (closed_all _) (fun name kind _ => agrees_find files name kind)
      _ (fun _ _ => trivial) [] []
  · exact fun taken result hrun => hrun.length_taken_le (extendsOf_subset_extendsLists files)

/-- Two classes that are each other's parents, two traits that use each other, and two interfaces that extend
each other and one that is not declared. -/
def knottedFile : Content :=
  .text ("<?php class A extends B \x7b\x7d class B extends a \x7b\x7d trait T \x7b use U; \x7d " ++
    "trait U \x7b use t; \x7d interface I extends J \x7b\x7d interface J extends i, K \x7b\x7d")

set_option maxRecDepth 100000 in
/-- All three end: the classes and the traits with an error, the interfaces with a result.  There are four names
of classes and traits, and three of interfaces. -/
theorem resolution_ends_knotted :
    (∃ c calls, lookupIn [knottedFile] "A" .classKind = .ok (some c) ∧
      ClassRun (lookupIn [knottedFile]) .outermost c calls (.error (.circular "A")) ∧
      ∀ inner ∈ calls, inner.level ≤ 5) ∧
    (∃ calls, TraitsRun (lookupIn [knottedFile]) "A" ⟨2, ["a"]⟩ ["T"] [] calls (.error (.circular "T")) ∧
      ∀ inner ∈ calls, inner.level ≤ 5) ∧
    ∃ taken, WorkRun (lookupIn [knottedFile]) ["i"] [] taken (.ok ["i", "J", "K"]) ∧ taken.length ≤ 3 := by
  -- all that has to be computed, at once, so that the file is read once
  have hfacts : ["a"] ⊆ resolvableNames [knottedFile] ∧
      (resolvableNames [knottedFile]).toFinset.card = 4 ∧
      ((["i"] ++ extendsLists [knottedFile]).map Text.lower).toFinset.card = 3 ∧
      ((lookupIn [knottedFile] "A" .classKind).toOption.bind id).isSome = true ∧
      errorOf (classNamed [knottedFile] "A") = some (.circular "A") ∧
      errorOf (((methodsOfTraits Search.find "A" 4 ["T"]).run ["a"]).run' (.ofFiles [knottedFile])) =
        some (.circular "T") ∧
      ((interfaceClosure Search.find (closureSteps 1 (extent [knottedFile])) ["i"] [] []).run'
        (.ofFiles [knottedFile])).toOption.map (·.1) = some ["i", "J", "K"] := by
    decide +kernel
  obtain ⟨hsubset, hcard, hextends, hfound, hnamed, hcollected, hall⟩ := hfacts
  obtain ⟨c, hfound⟩ := exists_ok_some_of_isSome hfound
  have hlevel : ∀ inner : Call, inner.Bounded [knottedFile] → inner.level ≤ 5 := by
    intro inner hbounded
    have hle := hbounded.level_le
    rwa [hcard] at hle
  obtain ⟨hclass, htraits, hwork⟩ := resolution_ends [knottedFile] (.ofFiles [knottedFile])
    (Catalogue.of_ofFiles _) ⟨2, ["a"]⟩ ⟨by decide, hsubset, rfl⟩ 4 (by rw [hcard]; decide)
  refine ⟨?_, ?_, ?_⟩
  · obtain ⟨calls, hrun, hbounded⟩ := (hclass "A" c hfound).1
    rw [eq_error_of_errorOf hnamed] at hrun
    exact ⟨c, calls, hfound, hrun, fun inner hinner =>
      hlevel inner (hbounded inner (List.mem_cons_of_mem _ hinner))⟩
  · obtain ⟨⟨calls, result, hrun, heq⟩, hbounded⟩ := htraits "A" ["T"]
    rw [heq] at hcollected
    cases result with
    | ok methods => cases hcollected
    | error e =>
        cases hcollected
        exact ⟨calls, hrun, fun inner hinner =>
          hlevel inner (hbounded calls _ hrun inner (List.mem_cons_of_mem _ hinner))⟩
  · obtain ⟨⟨taken, result, hrun, heq⟩, hlength⟩ := hwork ["i"]
    rw [List.length_singleton] at heq
    rw [heq] at hall
    cases result with
    | error e => cases hall
    | ok all =>
        cases hall
        exact ⟨taken, hrun, hextends ▸ hlength taken _ hrun⟩

end PhpInterface
