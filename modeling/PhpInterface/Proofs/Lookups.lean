import PhpInterface.Proofs.Resolution

/-!
# What a resolution looks up

A resolution learns about the sources in one way only: it looks names up.  Which names those are can be said
without the resolution.  They start with the class that is asked for and go on with what the declarations
found so far are built on (`Asked`), and all that is needed of them is that they lead to no others
(`Closed`).

So two resolutions that find the same under these names go the same way, and this holds for whatever "the
same" is: equal results, results of a search that keeps something in mind, or results with a record of the
search.  A `Simulation` is such a notion, and `Simulation.rel_findWith` takes it from single lookups to the
whole of a resolution.  Everything else that is said about lookups is an instance.
-/

namespace PhpInterface

open Source

variable {find : String → Kind → Except SourceError (Option ClassInfo)} {size : Nat}
  {A : String → Kind → Prop}

/-! ## The names -/

/-- The names that a search for a class looks up, each with the kind that it is looked up as. -/
inductive Asked (find : String → Kind → Except SourceError (Option ClassInfo)) (start : String) :
    String → Kind → Prop where
  | start : Asked find start start .classKind
  | parent {name p : String} {c : ClassInfo} (h : Asked find start name .classKind)
      (hfind : find name .classKind = .ok (some c)) (hparent : c.parent = some p) :
      Asked find start p .classKind
  | trait {name t : String} {kind : Kind} {c : ClassInfo} (h : Asked find start name kind)
      (hkind : kind ≠ .interfaceKind) (hfind : find name kind = .ok (some c)) (hmem : t ∈ c.traits) :
      Asked find start t .traitKind
  | interface {name i : String} {kind : Kind} {c : ClassInfo} (h : Asked find start name kind)
      (hkind : kind ≠ .traitKind) (hfind : find name kind = .ok (some c)) (hmem : i ∈ c.interfaces) :
      Asked find start i .interfaceKind

/-- The names that a class is built on are among these. -/
structure ClassInfo.Within (A : String → Kind → Prop) (c : ClassInfo) : Prop where
  parent : ∀ p, c.parent = some p → A p .classKind
  traits : ∀ t ∈ c.traits, A t .traitKind
  interfaces : ∀ i ∈ c.interfaces, A i .interfaceKind

/-- What is found under these names is built on such names again, as far as a resolution follows it. -/
structure Closed (find : String → Kind → Except SourceError (Option ClassInfo))
    (A : String → Kind → Prop) : Prop where
  classes : ∀ name c, A name .classKind → find name .classKind = .ok (some c) → c.Within A
  traits : ∀ name t, A name .traitKind → find name .traitKind = .ok (some t) →
    ∀ u ∈ t.traits, A u .traitKind
  interfaces : ∀ name i, A name .interfaceKind → find name .interfaceKind = .ok (some i) →
    ∀ j ∈ i.interfaces, A j .interfaceKind

lemma closed_asked (find : String → Kind → Except SourceError (Option ClassInfo)) (start : String) :
    Closed find (Asked find start) where
  classes _ _ hname hfind :=
    { parent := fun _ hp => .parent hname hfind hp
      traits := fun _ ht => .trait hname (by decide) hfind ht
      interfaces := fun _ hi => .interface hname (by decide) hfind hi }
  traits _ _ hname hfind _ hu := .trait hname (by decide) hfind hu
  interfaces _ _ hname hfind _ hj := .interface hname (by decide) hfind hj

/-- The names that are looked up are the fewest that hold the class and lead to no others. -/
lemma Asked.of_closed {start name : String} {kind : Kind} (h : Asked find start name kind)
    (hA : Closed find A) (hstart : A start .classKind) : A name kind := by
  induction h with
  | start => exact hstart
  | parent _ hfind hparent ih => exact (hA.classes _ _ ih hfind).parent _ hparent
  | @trait name t kind c _ hkind hfind hmem ih =>
      cases kind with
      | classKind => exact (hA.classes _ _ ih hfind).traits _ hmem
      | interfaceKind => exact absurd rfl hkind
      | traitKind => exact hA.traits _ _ ih hfind _ hmem
  | @interface name i kind c _ hkind hfind hmem ih =>
      cases kind with
      | classKind => exact (hA.classes _ _ ih hfind).interfaces _ hmem
      | interfaceKind => exact hA.interfaces _ _ ih hfind _ hmem
      | traitKind => exact absurd rfl hkind

/-- The names that a declaration is built on, each with the kind that it is looked up as. -/
def ClassInfo.links (c : ClassInfo) : List (String × Kind) :=
  c.parent.toList.map (·, .classKind) ++ c.traits.map (·, .traitKind) ++
    c.interfaces.map (·, .interfaceKind)

/-- The names that the outcome of a lookup leads to. -/
def linksOf : Except SourceError (Option ClassInfo) → List (String × Kind)
  | .ok (some c) => c.links
  | _ => []

/-- For a list of names it can be checked that they lead to no others. -/
lemma closed_of_linksOf {names : List (String × Kind)}
    (h : ∀ q ∈ names, ∀ link ∈ linksOf (find q.1 q.2), link ∈ names) :
    Closed find fun name kind => (name, kind) ∈ names := by
  have hlinks : ∀ name kind c, (name, kind) ∈ names → find name kind = .ok (some c) → c.links ⊆ names := by
    intro name kind c hname hfind link hlink
    refine h (name, kind) hname link ?_
    rw [hfind]
    exact hlink
  refine ⟨fun name c hname hfind => ⟨?_, ?_, ?_⟩, ?_, ?_⟩
  · intro p hp
    exact hlinks _ _ _ hname hfind (by simp [ClassInfo.links, hp])
  · intro t ht
    exact hlinks _ _ _ hname hfind (by simp [ClassInfo.links, ht])
  · intro i hi
    exact hlinks _ _ _ hname hfind (by simp [ClassInfo.links, hi])
  · intro name t hname hfind u hu
    exact hlinks _ _ _ hname hfind (by simp [ClassInfo.links, hu])
  · intro name i hname hfind j hj
    exact hlinks _ _ _ hname hfind (by simp [ClassInfo.links, hj])

/-- What a work list of interfaces may come to: names among these, or the error of one of their lookups. -/
def Reaches (find : String → Kind → Except SourceError (Option ClassInfo)) (A : String → Kind → Prop) :
    Except SourceError (List String × List ClassMethod) → Prop
  | .ok (all, _) => ∀ i ∈ all, A i .interfaceKind
  | .error e => ∃ name kind, A name kind ∧ find name kind = .error e

/-- The work list of interfaces holds names among these, and only looking up can stop it. -/
lemma reaches_interfaceClosure (hA : Closed find A) {steps : Nat} {pending known : List String}
    {methods : List ClassMethod} (hpending : ∀ i ∈ pending, A i .interfaceKind)
    (hknown : ∀ i ∈ known, A i .interfaceKind) :
    Reaches find A (interfaceClosure find steps pending known methods) := by
  induction steps generalizing pending known methods with
  | zero => exact hknown
  | succ steps ih =>
      cases pending with
      | nil => exact hknown
      | cons name pending =>
          have hname := hpending name List.mem_cons_self
          have hrest : ∀ i ∈ pending, A i .interfaceKind :=
            fun i hi => hpending i (List.mem_cons_of_mem _ hi)
          have hnext : ∀ i ∈ known ++ [name], A i .interfaceKind := by
            intro i hi
            rcases List.mem_append.1 hi with hi | hi
            · exact hknown i hi
            · rw [List.mem_singleton.1 hi]
              exact hname
          rw [interfaceClosure]
          by_cases hseen : (known.any fun k => Text.caselessEq k name) = true
          · rw [if_pos hseen]
            exact ih hrest hknown
          · rw [if_neg hseen]
            cases hfind : find name .interfaceKind with
            | error e => exact ⟨name, .interfaceKind, hname, hfind⟩
            | ok found =>
                rw [ok_bind]
                cases found with
                | none => exact ih hrest hnext
                | some d =>
                    refine ih ?_ hnext
                    intro i hi
                    rcases List.mem_append.1 hi with hi | hi
                    · exact hrest i hi
                    · exact hA.interfaces name d hname hfind i hi

section

variable {depth : Nat} {c r : ClassInfo} {stack after : List String}

lemma ClassInfo.Within.parentOf (hA : Closed find A) (hc : c.Within A) {p : ClassInfo}
    (hparent : parentOf find c = .ok (some p)) : p.Within A := by
  obtain ⟨n, hn, hp⟩ := exists_find_of_parentOf hparent
  exact hA.classes n p (hc.parent n hn) hp

/-- The interfaces of a class and of its resolved parent are among the names, if those of classes resolved
one level below are. -/
lemma within_withParent (hA : Closed find A) (hc : c.Within A) (fromTraits : List ClassMethod)
    {resolved : Option ClassInfo} (hparent : ParentResolved find size depth stack c resolved)
    (hbelow : ∀ p q, p.Within A → (assemble find size depth p).run (Text.lower c.name :: stack) =
        .ok (q, Text.lower c.name :: stack) → ∀ i ∈ q.interfaces, A i .interfaceKind) :
    ∀ i ∈ ((c.withTraits fromTraits).withParent resolved).interfaces, A i .interfaceKind := by
  cases hparent with
  | absent _ => exact hc.interfaces
  | found hfound hrun =>
      intro i hi
      rcases List.mem_append.1 hi with hi | hi
      · exact hc.interfaces i hi
      · exact hbelow _ _ (hc.parentOf hA hfound) hrun i hi

/-- The interfaces of a class that is resolved are among the names. -/
lemma within_of_assemble (hA : Closed find A) (hc : c.Within A)
    (h : (assemble find size depth c).run stack = .ok (r, after)) :
    ∀ i ∈ r.interfaces, A i .interfaceKind := by
  induction depth generalizing c r stack after with
  | zero => cases h
  | succ depth ih =>
      cases (run_assemble_eq_ok_iff.1 h).2 with
      | @of fromTraits _ _ _ _ _ hparent hclosure =>
          have hinherited := within_withParent hA hc fromTraits hparent fun p q hp hrun => ih hp hrun
          have hall : Reaches find A (.ok _) :=
            hclosure ▸ reaches_interfaceClosure hA hinherited (List.forall_mem_nil _)
          exact hall

end

/-! ## Simulations -/

/-- The errors that a resolution raises by itself, not because of a lookup. -/
def SourceError.IsRefusal (e : SourceError) : Prop :=
  (∃ name, e = .circular name) ∨ ∃ name, e = .classNotFound name

/-- A relation between computations of some monad and plain ones, which holds of whole computations if it
holds of their parts.  What comes after a part may make use of what the part has given. -/
structure Simulation (m : Type → Type) [Monad m] [MonadExceptOf SourceError m] where
  rel {α : Type} : m α → Except SourceError α → Prop
  pure {α : Type} (a : α) : rel (pure a) (pure a)
  throw {α : Type} {e : SourceError} (h : e.IsRefusal) :
    rel (throw e : m α) (throw e : Except SourceError α)
  bind {α β : Type} {x : m α} {y : Except SourceError α} {f : α → m β} {g : α → Except SourceError β}
    (hx : rel x y) (hf : ∀ a, y = .ok a → rel (f a) (g a)) : rel (x >>= f) (y >>= g)

namespace Simulation

variable {m : Type → Type} [Monad m] [MonadExceptOf SourceError m] (sim : Simulation m) {α β : Type}

/-- The relation between two ways of resolving, with these names on the stack. -/
def At (stack : List String) (x : Resolving m α) (y : Resolving (Except SourceError) α) : Prop :=
  sim.rel (x.run stack) (y.run stack)

variable {sim} {stack : List String}

lemma at_pure (a : α) : sim.At stack (Pure.pure a) (Pure.pure a) :=
  sim.pure (a, stack)

lemma at_throw {e : SourceError} (h : e.IsRefusal) :
    sim.At (α := α) stack (MonadExcept.throw e) (MonadExcept.throw e) :=
  sim.bind (sim.throw h) fun a _ => sim.pure (a, stack)

lemma at_bind {x : Resolving m α} {y : Resolving (Except SourceError) α} {f : α → Resolving m β}
    {g : α → Resolving (Except SourceError) β} (hx : sim.At stack x y)
    (hf : ∀ a after, y.run stack = .ok (a, after) → sim.At after (f a) (g a)) :
    sim.At stack (x >>= f) (y >>= g) := by
  rw [At, StateT.run_bind, StateT.run_bind]
  exact sim.bind hx fun p hp => hf p.1 p.2 hp

lemma at_lift_bind {x : m α} {y : Except SourceError α} {f : α → Resolving m β}
    {g : α → Resolving (Except SourceError) β} (hx : sim.rel x y)
    (hf : ∀ a, y = .ok a → sim.At stack (f a) (g a)) :
    sim.At stack (StateT.lift x >>= f) (StateT.lift y >>= g) := by
  refine at_bind (sim.bind hx fun a _ => sim.pure (a, stack)) fun a after hlift => ?_
  obtain ⟨a', ha', hpair⟩ := bind_eq_ok_iff.1 hlift
  cases hpair
  exact hf a ha'

lemma at_enter (name : String) : sim.At stack (enter name) (enter name) := by
  refine at_bind (sim.pure (stack, stack)) fun names _ _ => ?_
  split
  · exact at_throw (Or.inl ⟨name, rfl⟩)
  · exact sim.pure ((), Text.lower name :: names)

lemma at_leave : sim.At stack leave leave :=
  sim.pure ((), stack.tail)

lemma at_foldlM {f : β → α → Resolving m β} {g : β → α → Resolving (Except SourceError) β} {l : List α}
    (h : ∀ a ∈ l, ∀ b stack, sim.At stack (f b a) (g b a)) (b : β) :
    sim.At stack (l.foldlM f b) (l.foldlM g b) := by
  induction l generalizing b stack with
  | nil => exact at_pure b
  | cons a rest ih =>
      rw [List.foldlM_cons, List.foldlM_cons]
      refine at_bind (h a List.mem_cons_self b stack) fun b' after _ => ?_
      exact ih (fun a' ha' => h a' (List.mem_cons_of_mem _ ha')) b'

/-! ## From lookups to resolutions -/

variable {lookUp : String → Kind → m (Option ClassInfo)}

section

variable (sim)
variable (hA : Closed find A) (hfind : ∀ name kind, A name kind → sim.rel (lookUp name kind) (find name kind))

include hA hfind

lemma at_withTrait (user : String) {methodsOf : List String → Resolving m (List ClassMethod)}
    {plain : List String → Resolving (Except SourceError) (List ClassMethod)}
    (h : ∀ names, (∀ t ∈ names, A t .traitKind) → ∀ stack, sim.At stack (methodsOf names) (plain names))
    (methods : List ClassMethod) {name : String} (hname : A name .traitKind) :
    sim.At stack (withTrait lookUp user methodsOf methods name)
      (withTrait find user plain methods name) := by
  refine at_lift_bind (hfind name .traitKind hname) fun found hfound => ?_
  cases found with
  | none => exact at_pure methods
  | some t =>
      refine at_bind (at_enter t.name) fun _ _ _ => ?_
      refine at_bind (h t.traits (hA.traits name t hname hfound) _) fun _ _ _ => ?_
      exact at_bind at_leave fun _ _ _ => at_pure _

lemma at_methodsOfTraits (user : String) (depth : Nat) {names : List String}
    (hnames : ∀ t ∈ names, A t .traitKind) :
    sim.At stack (methodsOfTraits lookUp user depth names) (methodsOfTraits find user depth names) := by
  induction depth generalizing names stack with
  | zero => exact at_throw (Or.inl ⟨user, rfl⟩)
  | succ depth ih =>
      refine at_foldlM (fun name hname methods stack => ?_) []
      exact sim.at_withTrait hA hfind user (fun names hnames stack => ih hnames) methods (hnames name hname)

lemma rel_interfaceClosure (steps : Nat) {pending : List String}
    (hpending : ∀ i ∈ pending, A i .interfaceKind) (known : List String) (methods : List ClassMethod) :
    sim.rel (interfaceClosure lookUp steps pending known methods)
      (interfaceClosure find steps pending known methods) := by
  induction steps generalizing pending known methods with
  | zero => exact sim.pure _
  | succ steps ih =>
      cases pending with
      | nil => exact sim.pure _
      | cons name pending =>
          have hname := hpending name List.mem_cons_self
          have hrest : ∀ i ∈ pending, A i .interfaceKind :=
            fun i hi => hpending i (List.mem_cons_of_mem _ hi)
          rw [interfaceClosure, interfaceClosure]
          split
          · exact ih hrest known methods
          · refine sim.bind (hfind name .interfaceKind hname) fun found hfound => ?_
            cases found with
            | none => exact ih hrest _ _
            | some i =>
                refine ih (fun j hj => ?_) _ _
                rcases List.mem_append.1 hj with hj | hj
                · exact hrest j hj
                · exact hA.interfaces name i hname hfound j hj

omit hA in
lemma rel_parentOf {c : ClassInfo} (hc : c.Within A) :
    sim.rel (parentOf lookUp c) (parentOf find c) := by
  rw [parentOf, parentOf]
  split
  · exact sim.pure none
  · next p hp => exact hfind p .classKind (hc.parent p hp)

lemma at_assemble (size depth : Nat) {c : ClassInfo} (hc : c.Within A) :
    sim.At stack (assemble lookUp size depth c) (assemble find size depth c) := by
  induction depth generalizing c stack with
  | zero => exact at_throw (Or.inl ⟨c.name, rfl⟩)
  | succ depth ih =>
      refine at_bind (at_enter c.name) fun _ _ _ => ?_
      refine at_bind (sim.at_methodsOfTraits hA hfind c.name depth hc.traits) fun fromTraits _ _ => ?_
      refine at_lift_bind (sim.rel_parentOf hfind hc) fun parent hparent => ?_
      have hbelow : ∀ stack, sim.At stack (parent.mapM (assemble lookUp size depth))
          (parent.mapM (assemble find size depth)) := by
        intro stack
        cases parent with
        | none => exact at_pure none
        | some p => exact at_bind (ih (hc.parentOf hA hparent)) fun r _ _ => at_pure (some r)
      refine at_bind (hbelow _) fun resolved _ hresolved => ?_
      have hinterfaces : ∀ i ∈ ((c.withTraits fromTraits).withParent resolved).interfaces,
          A i .interfaceKind := by
        rcases run_mapM_eq_ok_iff.1 hresolved with ⟨_, rfl, _⟩ | ⟨p, q, rfl, rfl, hrun⟩
        · exact hc.interfaces
        · intro i hi
          rcases List.mem_append.1 hi with hi | hi
          · exact hc.interfaces i hi
          · exact within_of_assemble hA (hc.parentOf hA hparent) hrun i hi
      refine at_lift_bind (sim.rel_interfaceClosure hA hfind _ hinterfaces [] []) fun _ _ => ?_
      exact at_bind at_leave fun _ _ _ => at_pure _

/-- Searches for a class are related if the lookups under the names are, and the class is one of them. -/
lemma rel_findWith [LawfulMonad m] (size : Nat) {name : String} (hname : A name .classKind) :
    sim.rel (findWith lookUp size name) (findWith find size name) := by
  refine sim.bind (hfind name .classKind hname) fun found hfound => ?_
  cases found with
  | none => exact sim.throw (Or.inr ⟨plainName name, rfl⟩)
  | some c =>
      dsimp only
      rw [StateT.run'_eq, StateT.run'_eq, map_eq_pure_bind, map_eq_pure_bind]
      exact sim.bind (sim.at_assemble hA hfind size (size + 1) (hA.classes name c hname hfound))
        fun p _ => sim.pure p.1

end

end Simulation

end PhpInterface
