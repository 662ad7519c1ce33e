import PhpInterface.Proofs.MergedMethods
import PhpInterface.Proofs.Outcome

/-!
# What a resolution does

A resolution is a run down the parents of a class and, at each of them, down the traits that are used.
Here such a run is taken apart, for any plain way of looking declarations up.  There is one lemma for what
each function does when it succeeds, and all that is said later of successful runs comes from these.

Two facts belong to every run.  The stack is left as it was found: what is put on it is taken off again.
And a run that succeeds does so too with fewer names on the stack and with more depth at hand, with the
same result, so that what a class resolves to does not depend on who asked for it.
-/

namespace PhpInterface

open Source

variable {find : String → Kind → Except SourceError (Option ClassInfo)}

/-! ## The stack -/

lemma run_enter (name : String) (stack : List String) :
    (enter name : Resolving (Except SourceError) Unit).run stack =
      if Text.lower name ∈ stack then .error (.circular name)
      else .ok ((), Text.lower name :: stack) := by
  have hrun : (enter name : Resolving (Except SourceError) Unit).run stack =
      (if stack.contains (Text.lower name) then throw (.circular name)
        else set (Text.lower name :: stack) : Resolving (Except SourceError) Unit).run stack := rfl
  rw [hrun]
  by_cases h : Text.lower name ∈ stack
  · rw [if_pos (List.contains_iff_mem.2 h), if_pos h]
    rfl
  · rw [if_neg fun hc => h (List.contains_iff_mem.1 hc), if_neg h]
    rfl

/-! ## Traits -/

section

variable {user : String} {methodsOf : List String → Resolving (Except SourceError) (List ClassMethod)}
  {methods result : List ClassMethod} {name : String} {stack after : List String}

lemma run_withTrait :
    (withTrait find user methodsOf methods name).run stack =
      find name .traitKind >>= fun
        | none => .ok (methods, stack)
        | some t =>
          if Text.lower t.name ∈ stack then .error (.circular t.name)
          else
            (methodsOf t.traits).run (Text.lower t.name :: stack) >>= fun p =>
              .ok (withMissing methods ((withMissing t.methods p.1).map (·.usedBy user)), p.2.tail) := by
  rw [withTrait, StateT.run_bind, StateT.run_monadLift, monadLift_self]
  cases hfind : find name .traitKind with
  | error e => rfl
  | ok found =>
      cases found with
      | none => rfl
      | some t =>
          change ((enter t.name : Resolving (Except SourceError) Unit).run stack >>= _) =
            if Text.lower t.name ∈ stack then _ else _
          rw [run_enter]
          split
          · rfl
          · rfl

/-- What one more trait adds to a run that succeeds. -/
lemma run_withTrait_eq_ok_iff :
    (withTrait find user methodsOf methods name).run stack = .ok (result, after) ↔
      (find name .traitKind = .ok none ∧ result = methods ∧ after = stack) ∨
      ∃ t nested inner, find name .traitKind = .ok (some t) ∧ Text.lower t.name ∉ stack ∧
        (methodsOf t.traits).run (Text.lower t.name :: stack) = .ok (nested, inner) ∧
        result = withMissing methods ((withMissing t.methods nested).map (·.usedBy user)) ∧
        after = inner.tail := by
  rw [run_withTrait, bind_eq_ok_iff]
  constructor
  · rintro ⟨found, hfound, h⟩
    cases found with
    | none =>
        cases h
        exact Or.inl ⟨hfound, rfl, rfl⟩
    | some t =>
        by_cases hstack : Text.lower t.name ∈ stack
        · simp only [if_pos hstack] at h
          cases h
        · simp only [if_neg hstack] at h
          obtain ⟨⟨nested, inner⟩, hnested, h⟩ := bind_eq_ok_iff.1 h
          cases h
          exact Or.inr ⟨t, nested, inner, hfound, hstack, hnested, rfl, rfl⟩
  · rintro (⟨hfound, rfl, rfl⟩ | ⟨t, nested, inner, hfound, hstack, hnested, rfl, rfl⟩)
    · exact ⟨none, hfound, rfl⟩
    · refine ⟨some t, hfound, ?_⟩
      simp only [if_neg hstack]
      exact bind_eq_ok_iff.2 ⟨(nested, inner), hnested, rfl⟩

end

/-- The methods of some traits in order: those of each trait, as members of the class that uses it, then
those of the traits it uses in turn.  Traits that are not found are passed over. -/
inductive TraitWalk (find : String → Kind → Except SourceError (Option ClassInfo)) (user : String) :
    List String → List ClassMethod → Prop where
  | nil : TraitWalk find user [] []
  | missing {name : String} {names : List String} {more : List ClassMethod}
      (hfind : find name .traitKind = .ok none) (hmore : TraitWalk find user names more) :
      TraitWalk find user (name :: names) more
  | found {name : String} {names : List String} {t : ClassInfo} {nested more : List ClassMethod}
      (hfind : find name .traitKind = .ok (some t)) (hnested : TraitWalk find user t.traits nested)
      (hmore : TraitWalk find user names more) :
      TraitWalk find user (name :: names)
        (t.methods.map (fun m => { m with declaringClass := user }) ++ nested ++ more)

/-- Every method of the walk is a member of the class that uses the traits. -/
lemma TraitWalk.map_usedBy {user : String} {names : List String} {walk : List ClassMethod}
    (h : TraitWalk find user names walk) : walk.map (·.usedBy user) = walk := by
  induction h with
  | nil => rfl
  | missing _ _ ih => exact ih
  | found _ _ _ ihnested ihmore =>
      rw [List.map_append, List.map_append, ihnested, ihmore, List.map_map]
      rfl

/-- A trait's methods merged with those of the traits it uses are merged like the flat walk. -/
lemma withMissing_map_usedBy {user : String} {names : List String} {walk : List ClassMethod}
    (h : TraitWalk find user names walk) (methods own : List ClassMethod) :
    withMissing methods ((withMissing own (firstByName [] walk)).map (·.usedBy user)) =
      withMissing methods (own.map (·.usedBy user) ++ walk) := by
  rw [withMissing_firstByName, map_withMissing (key_usedBy user), h.map_usedBy, withMissing_absorb]

section

variable {user : String} {depth : Nat} {names stack after : List String} {methods : List ClassMethod}

/-- Collecting the methods of traits leaves the stack as it was and gives the first of every name in
their walk. -/
lemma methodsOfTraits_spec (h : (methodsOfTraits find user depth names).run stack = .ok (methods, after)) :
    after = stack ∧ ∃ walk, TraitWalk find user names walk ∧ methods = firstByName [] walk := by
  induction depth generalizing names stack after methods with
  | zero => cases h
  | succ depth ih =>
      -- the merged methods so far are arbitrary in the induction on the names
      suffices hfold : ∀ (names : List String) (start : List ClassMethod),
          (names.foldlM (withTrait find user (methodsOfTraits find user depth)) start).run stack =
            .ok (methods, after) →
          after = stack ∧ ∃ walk, TraitWalk find user names walk ∧ methods = withMissing start walk by
        obtain ⟨hstack, walk, hwalk, hmethods⟩ := hfold names [] h
        exact ⟨hstack, walk, hwalk, by simpa [withMissing_eq] using hmethods⟩
      clear h
      intro names
      induction names with
      | nil =>
          intro start h
          cases h
          exact ⟨rfl, [], .nil, by simp [withMissing]⟩
      | cons name names ihnames =>
          intro start h
          rw [List.foldlM_cons, StateT.run_bind] at h
          obtain ⟨⟨middle, between⟩, hstep, hrest⟩ := bind_eq_ok_iff.1 h
          rcases run_withTrait_eq_ok_iff.1 hstep with
            ⟨hfind, rfl, rfl⟩ | ⟨t, nested, inner, hfind, _, hnested, rfl, rfl⟩
          · obtain ⟨hstack, walk, hwalk, hmethods⟩ := ihnames _ hrest
            exact ⟨hstack, walk, .missing hfind hwalk, hmethods⟩
          · obtain ⟨rfl, walk, hwalk, rfl⟩ := ih hnested
            obtain ⟨hstack, more, hmore, hmethods⟩ := ihnames _ hrest
            refine ⟨hstack, _, .found hfind hwalk hmore, ?_⟩
            rw [hmethods, withMissing_map_usedBy hwalk, withMissing_withMissing]
            rfl

/-- One more trait leaves the stack as it was. -/
lemma withTrait_stack {result : List ClassMethod} {name : String}
    (h : (withTrait find user (methodsOfTraits find user depth) methods name).run stack =
      .ok (result, after)) : after = stack := by
  rcases run_withTrait_eq_ok_iff.1 h with ⟨_, _, rfl⟩ | ⟨t, nested, inner, _, _, hnested, _, rfl⟩
  · rfl
  · rw [(methodsOfTraits_spec hnested).1, List.tail_cons]

/-- Fewer names on the stack and more depth do not change a success. -/
lemma methodsOfTraits_mono {more : Nat} {fewer : List String} (hdepth : depth ≤ more)
    (hfewer : ∀ k ∈ fewer, k ∈ stack)
    (h : (methodsOfTraits find user depth names).run stack = .ok (methods, after)) :
    (methodsOfTraits find user more names).run fewer = .ok (methods, fewer) := by
  induction depth generalizing more names stack fewer after methods with
  | zero => cases h
  | succ depth ih =>
      obtain ⟨more, rfl⟩ : ∃ n, more = n + 1 := ⟨more - 1, by omega⟩
      suffices hfold : ∀ (names : List String) (start : List ClassMethod),
          (names.foldlM (withTrait find user (methodsOfTraits find user depth)) start).run stack =
            .ok (methods, after) →
          (names.foldlM (withTrait find user (methodsOfTraits find user more)) start).run fewer =
            .ok (methods, fewer) from hfold names [] h
      clear h
      intro names
      induction names with
      | nil =>
          intro start h
          cases h
          rfl
      | cons name names ihnames =>
          intro start h
          rw [List.foldlM_cons, StateT.run_bind] at h ⊢
          obtain ⟨⟨middle, between⟩, hstep, hrest⟩ := bind_eq_ok_iff.1 h
          rw [bind_eq_ok_iff]
          rcases run_withTrait_eq_ok_iff.1 hstep with
            ⟨hfind, rfl, rfl⟩ | ⟨t, nested, inner, hfind, hstack, hnested, rfl, rfl⟩
          · exact ⟨(middle, fewer), run_withTrait_eq_ok_iff.2 (Or.inl ⟨hfind, rfl, rfl⟩),
              ihnames middle hrest⟩
          · obtain ⟨rfl, _⟩ := methodsOfTraits_spec hnested
            have hinner : ∀ k ∈ Text.lower t.name :: fewer, k ∈ Text.lower t.name :: stack := by
              intro k hk
              rcases List.mem_cons.1 hk with rfl | hk
              · exact List.mem_cons_self
              · exact List.mem_cons_of_mem _ (hfewer k hk)
            refine ⟨(_, fewer), run_withTrait_eq_ok_iff.2 (Or.inr ⟨t, nested, Text.lower t.name :: fewer,
              hfind, fun hk => hstack (hfewer _ hk), ih (by omega) hinner hnested, rfl, rfl⟩), ?_⟩
            exact ihnames _ hrest

end

/-! ## Interfaces -/

/-- The methods that some interfaces ask for, in order, made abstract and marked with their interface; one
that is not found asks for none. -/
def interfaceMethods (find : String → Kind → Except SourceError (Option ClassInfo))
    (names : List String) : List ClassMethod :=
  names.flatMap fun name =>
    match find name .interfaceKind with
    | .ok (some i) =>
      i.methods.map fun m => { m with isAbstract := true, implementedInterface := some i.name }
    | _ => []

/-- The names that an interface extends; one that is not found extends none. -/
def extendsOf (find : String → Kind → Except SourceError (Option ClassInfo)) (name : String) :
    List String :=
  match find name .interfaceKind with
  | .ok (some i) => i.interfaces
  | _ => []

lemma any_caselessEq_iff {known : List String} {name : String} :
    (known.any fun k => Text.caselessEq k name) = true ↔ Text.lower name ∈ known.map Text.lower := by
  simp only [List.any_eq_true, Text.caselessEq_iff, List.mem_map]

section

variable {steps : Nat} {name : String} {pending known all : List String}

/-- What one more interface asks for is merged with what the known ones do. -/
lemma firstByName_interfaceMethods_concat (known : List String) (name : String) :
    firstByName [] (interfaceMethods find (known ++ [name])) =
      withMissing (firstByName [] (interfaceMethods find known)) (interfaceMethods find [name]) := by
  have hmerge : ∀ l, firstByName [] l = withMissing [] l := by
    intro l
    simp [withMissing_eq]
  rw [hmerge, hmerge, withMissing_withMissing, interfaceMethods, List.flatMap_append]
  rfl

lemma interfaceClosure_cons_of_known (h : Text.lower name ∈ known.map Text.lower)
    (methods : List ClassMethod) :
    interfaceClosure find (steps + 1) (name :: pending) known methods =
      interfaceClosure find steps pending known methods := by
  rw [interfaceClosure, if_pos (any_caselessEq_iff.2 h)]

/-- A new name is looked up and taken, with what it extends and what it asks for. -/
lemma interfaceClosure_cons_of_free (h : Text.lower name ∉ known.map Text.lower) :
    interfaceClosure find (steps + 1) (name :: pending) known
        (firstByName [] (interfaceMethods find known)) =
      find name .interfaceKind >>= fun _ =>
        interfaceClosure find steps (pending ++ extendsOf find name) (known ++ [name])
          (firstByName [] (interfaceMethods find (known ++ [name]))) := by
  rw [interfaceClosure, if_neg fun hseen => h (any_caselessEq_iff.1 hseen),
    firstByName_interfaceMethods_concat]
  refine bind_congr_ok fun found hfound => ?_
  cases found with
  | none => simp [interfaceMethods, extendsOf, hfound, withMissing]
  | some i => simp [interfaceMethods, extendsOf, hfound, ClassMethod.askedBy]

/-- The work list collects, at every step, the first of every name among what the known interfaces ask
for. -/
lemma interfaceClosure_methods {asked : List ClassMethod}
    (h : interfaceClosure find steps pending known (firstByName [] (interfaceMethods find known)) =
      .ok (all, asked)) :
    asked = firstByName [] (interfaceMethods find all) := by
  induction steps generalizing pending known with
  | zero =>
      cases h
      rfl
  | succ steps ih =>
      cases pending with
      | nil =>
          cases h
          rfl
      | cons name pending =>
          by_cases hknown : Text.lower name ∈ known.map Text.lower
          · rw [interfaceClosure_cons_of_known hknown] at h
            exact ih h
          · rw [interfaceClosure_cons_of_free hknown] at h
            obtain ⟨_, _, h⟩ := bind_eq_ok_iff.1 h
            exact ih h

end

/-! ## Classes -/

section

variable {size depth : Nat} {c r : ClassInfo} {stack after : List String}

lemma run_assemble_succ :
    (assemble find size (depth + 1) c).run stack =
      if Text.lower c.name ∈ stack then .error (.circular c.name)
      else
        (methodsOfTraits find c.name depth c.traits).run (Text.lower c.name :: stack) >>= fun p =>
        parentOf find c >>= fun parent =>
        (parent.mapM (assemble find size depth)).run p.2 >>= fun q =>
        let inherited := (c.withTraits p.1).withParent q.1
        interfaceClosure find (closureSteps inherited.interfaces.length size) inherited.interfaces [] []
          >>= fun reached => .ok (inherited.withInterfaces reached.1 reached.2, q.2.tail) := by
  rw [assemble, StateT.run_bind, run_enter]
  split
  · rfl
  · rw [ok_bind, StateT.run_bind]
    congr 1
    funext p
    rw [StateT.run_bind_lift]
    congr 1
    funext parent
    rw [StateT.run_bind]
    congr 1
    funext q
    dsimp only
    rw [StateT.run_bind_lift]
    rfl

/-- A parent that is found is resolved in turn, and one that is not is passed over. -/
lemma run_mapM_eq_ok_iff {f : ClassInfo → Resolving (Except SourceError) ClassInfo}
    {parent resolved : Option ClassInfo} :
    (parent.mapM f).run stack = .ok (resolved, after) ↔
      (parent = none ∧ resolved = none ∧ after = stack) ∨
      ∃ p q, parent = some p ∧ resolved = some q ∧ (f p).run stack = .ok (q, after) := by
  cases parent with
  | none =>
      constructor
      · intro h
        cases h
        exact Or.inl ⟨rfl, rfl, rfl⟩
      · rintro (⟨_, rfl, rfl⟩ | ⟨p, q, hp, _⟩)
        · rfl
        · cases hp
  | some p =>
      have hrun : ((some p).mapM f).run stack =
          (f p).run stack >>= fun q => .ok (some q.1, q.2) := rfl
      rw [hrun, bind_eq_ok_iff]
      constructor
      · rintro ⟨⟨q, inner⟩, hq, h⟩
        cases h
        exact Or.inr ⟨p, q, rfl, rfl, hq⟩
      · rintro (⟨hnone, _⟩ | ⟨p', q, hp, rfl, hq⟩)
        · cases hnone
        · cases hp
          exact ⟨(q, after), hq, rfl⟩

/-- Resolving a class leaves the stack as it was. -/
lemma assemble_stack (h : (assemble find size depth c).run stack = .ok (r, after)) : after = stack := by
  induction depth generalizing c r stack after with
  | zero => cases h
  | succ depth ih =>
      rw [run_assemble_succ] at h
      split at h
      · cases h
      · obtain ⟨⟨fromTraits, inner⟩, htraits, h⟩ := bind_eq_ok_iff.1 h
        obtain ⟨parent, _, h⟩ := bind_eq_ok_iff.1 h
        obtain ⟨⟨resolved, below⟩, hparent, h⟩ := bind_eq_ok_iff.1 h
        obtain ⟨reached, _, h⟩ := bind_eq_ok_iff.1 h
        cases h
        obtain ⟨rfl, _⟩ := methodsOfTraits_spec htraits
        rcases run_mapM_eq_ok_iff.1 hparent with ⟨_, _, rfl⟩ | ⟨p, q, _, _, hrun⟩
        · rfl
        · rw [ih hrun]
          rfl

lemma exists_find_of_parentOf {p : ClassInfo} (h : parentOf find c = .ok (some p)) :
    ∃ name, c.parent = some name ∧ find name .classKind = .ok (some p) := by
  rw [parentOf] at h
  split at h
  · cases h
  · next name hname => exact ⟨name, hname, h⟩

/-- The parent of a class, resolved on a stack with the class on top; none if there is none to be
found. -/
inductive ParentResolved (find : String → Kind → Except SourceError (Option ClassInfo))
    (size depth : Nat) (stack : List String) (c : ClassInfo) : Option ClassInfo → Prop where
  | absent (h : parentOf find c = .ok none) : ParentResolved find size depth stack c none
  | found {p q : ClassInfo} (h : parentOf find c = .ok (some p))
      (hrun : (assemble find size depth p).run (Text.lower c.name :: stack) =
        .ok (q, Text.lower c.name :: stack)) :
      ParentResolved find size depth stack c (some q)

lemma parentResolved_of_run {parent resolved : Option ClassInfo} {below : List String}
    (hfound : parentOf find c = .ok parent)
    (hrun : (parent.mapM (assemble find size depth)).run (Text.lower c.name :: stack) =
      .ok (resolved, below)) :
    ParentResolved find size depth stack c resolved := by
  rcases run_mapM_eq_ok_iff.1 hrun with ⟨rfl, rfl, _⟩ | ⟨p, q, rfl, rfl, hbelow⟩
  · exact .absent hfound
  · obtain rfl := assemble_stack hbelow
    exact .found hfound hbelow

/-- The parts of a resolution that succeeds: the class is not being resolved already, its traits are
collected and its parent is resolved below it, and the interfaces are those of both. -/
inductive Assembled (find : String → Kind → Except SourceError (Option ClassInfo))
    (size depth : Nat) (stack : List String) (c : ClassInfo) : ClassInfo → Prop where
  | of {fromTraits asked : List ClassMethod} {resolved : Option ClassInfo} {all : List String}
      (hfree : Text.lower c.name ∉ stack)
      (htraits : (methodsOfTraits find c.name depth c.traits).run (Text.lower c.name :: stack) =
        .ok (fromTraits, Text.lower c.name :: stack))
      (hparent : ParentResolved find size depth stack c resolved)
      (hclosure : interfaceClosure find
        (closureSteps ((c.withTraits fromTraits).withParent resolved).interfaces.length size)
        ((c.withTraits fromTraits).withParent resolved).interfaces [] [] = .ok (all, asked)) :
      Assembled find size depth stack c
        (((c.withTraits fromTraits).withParent resolved).withInterfaces all asked)

lemma run_assemble_eq_ok_iff :
    (assemble find size (depth + 1) c).run stack = .ok (r, after) ↔
      after = stack ∧ Assembled find size depth stack c r := by
  constructor
  · intro h
    refine ⟨assemble_stack h, ?_⟩
    rw [run_assemble_succ] at h
    split at h
    · cases h
    · next hfree =>
      obtain ⟨⟨fromTraits, inner⟩, htraits, h⟩ := bind_eq_ok_iff.1 h
      obtain ⟨parent, hfound, h⟩ := bind_eq_ok_iff.1 h
      obtain ⟨⟨resolved, below⟩, hparent, h⟩ := bind_eq_ok_iff.1 h
      obtain ⟨⟨all, asked⟩, hclosure, h⟩ := bind_eq_ok_iff.1 h
      cases h
      obtain ⟨rfl, _⟩ := methodsOfTraits_spec htraits
      exact .of hfree htraits (parentResolved_of_run hfound hparent) hclosure
  · rintro ⟨rfl, hassembled⟩
    cases hassembled with
    | @of fromTraits asked resolved all hfree htraits hparent hclosure =>
        rw [run_assemble_succ, if_neg hfree]
        refine bind_eq_ok_iff.2 ⟨_, htraits, ?_⟩
        cases hparent with
        | absent hfound =>
            refine bind_eq_ok_iff.2 ⟨_, hfound, ?_⟩
            exact bind_eq_ok_iff.2 ⟨(none, _), rfl, bind_eq_ok_iff.2 ⟨_, hclosure, rfl⟩⟩
        | @found p q hfound hrun =>
            refine bind_eq_ok_iff.2 ⟨_, hfound, ?_⟩
            refine bind_eq_ok_iff.2 ⟨(some q, Text.lower c.name :: after), ?_,
              bind_eq_ok_iff.2 ⟨_, hclosure, rfl⟩⟩
            exact run_mapM_eq_ok_iff.2 (Or.inr ⟨p, q, rfl, rfl, hrun⟩)

lemma name_of_assemble (h : (assemble find size depth c).run stack = .ok (r, after)) :
    r.name = c.name := by
  cases depth with
  | zero => cases h
  | succ depth =>
      cases (run_assemble_eq_ok_iff.1 h).2 with
      | of _ _ hparent _ => cases hparent <;> rfl

/-- The ways in which a resolution fails: the class is being resolved already, its traits cannot be
collected, its parent cannot be looked up or resolved, or one of all the interfaces cannot be looked up. -/
inductive Refused (find : String → Kind → Except SourceError (Option ClassInfo))
    (size depth : Nat) (stack : List String) (c : ClassInfo) (e : SourceError) : Prop where
  | again (hstack : Text.lower c.name ∈ stack) (he : e = .circular c.name)
  | traits (hfree : Text.lower c.name ∉ stack)
      (htraits : (methodsOfTraits find c.name depth c.traits).run (Text.lower c.name :: stack) = .error e)
  | lookup (hlookup : parentOf find c = .error e)
  | parent {p : ClassInfo} (hfree : Text.lower c.name ∉ stack) (hfound : parentOf find c = .ok (some p))
      (hrun : (assemble find size depth p).run (Text.lower c.name :: stack) = .error e)
  | interfaces {fromTraits : List ClassMethod} {resolved : Option ClassInfo}
      (hparent : ParentResolved find size depth stack c resolved)
      (hclosure : interfaceClosure find
        (closureSteps ((c.withTraits fromTraits).withParent resolved).interfaces.length size)
        ((c.withTraits fromTraits).withParent resolved).interfaces [] [] = .error e)

lemma refused_of_run_assemble {e : SourceError}
    (h : (assemble find size (depth + 1) c).run stack = .error e) :
    Refused find size depth stack c e := by
  rw [run_assemble_succ] at h
  split at h
  · next hstack =>
    cases h
    exact .again hstack rfl
  · next hfree =>
    rcases bind_eq_error_iff.1 h with htraits | ⟨⟨fromTraits, inner⟩, htraits, h⟩
    · exact .traits hfree htraits
    obtain ⟨rfl, _⟩ := methodsOfTraits_spec htraits
    rcases bind_eq_error_iff.1 h with hlookup | ⟨parent, hfound, h⟩
    · exact .lookup hlookup
    rcases bind_eq_error_iff.1 h with hparent | ⟨⟨resolved, below⟩, hparent, h⟩
    · cases parent with
      | none => cases hparent
      | some p =>
          rcases bind_eq_error_iff.1 hparent with hrun | ⟨_, _, hnever⟩
          · exact .parent hfree hfound hrun
          · cases hnever
    · rcases bind_eq_error_iff.1 h with hclosure | ⟨_, _, hnever⟩
      · exact .interfaces (parentResolved_of_run hfound hparent) hclosure
      · cases hnever

/-- Fewer names on the stack and more depth do not change a success. -/
lemma assemble_mono {more : Nat} {fewer : List String} (hdepth : depth ≤ more)
    (hfewer : ∀ k ∈ fewer, k ∈ stack) (h : (assemble find size depth c).run stack = .ok (r, after)) :
    (assemble find size more c).run fewer = .ok (r, fewer) := by
  induction depth generalizing more c r stack fewer after with
  | zero => cases h
  | succ depth ih =>
      obtain ⟨more, rfl⟩ : ∃ n, more = n + 1 := ⟨more - 1, by omega⟩
      obtain ⟨rfl, hassembled⟩ := run_assemble_eq_ok_iff.1 h
      refine run_assemble_eq_ok_iff.2 ⟨rfl, ?_⟩
      have hinner : ∀ k ∈ Text.lower c.name :: fewer, k ∈ Text.lower c.name :: after := by
        intro k hk
        rcases List.mem_cons.1 hk with rfl | hk
        · exact List.mem_cons_self
        · exact List.mem_cons_of_mem _ (hfewer k hk)
      cases hassembled with
      | of hfree htraits hparent hclosure =>
          refine .of (fun hk => hfree (hfewer _ hk))
            (methodsOfTraits_mono (by omega) hinner htraits) ?_ hclosure
          cases hparent with
          | absent hfound => exact .absent hfound
          | found hfound hrun => exact .found hfound (ih (by omega) hinner hrun)

/-- A class resolves to another description of it, in some run that starts with nothing on the stack. -/
def Resolves (find : String → Kind → Except SourceError (Option ClassInfo)) (size : Nat)
    (c r : ClassInfo) : Prop :=
  ∃ depth, (assemble find size depth c).run [] = .ok (r, [])

lemma resolves_of_assemble (h : (assemble find size depth c).run stack = .ok (r, after)) :
    Resolves find size c r :=
  ⟨depth, assemble_mono (Nat.le_refl depth) (by simp) h⟩

/-- There is one description at most that a class resolves to. -/
lemma Resolves.unique {other : ClassInfo} (h : Resolves find size c r)
    (hother : Resolves find size c other) : r = other := by
  obtain ⟨depth, hrun⟩ := h
  obtain ⟨depth', hrun'⟩ := hother
  have hmax := assemble_mono (Nat.le_max_left depth depth') (fun k hk => hk) hrun
  rw [assemble_mono (Nat.le_max_right depth depth') (fun k hk => hk) hrun'] at hmax
  cases hmax
  rfl

end

end PhpInterface
