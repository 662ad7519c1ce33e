import PhpInterface.Proofs.Circularity
import PhpInterface.Proofs.Precedence
import PhpInterface.Selection

/-!
# Where methods come from

Every method of a class says which class it comes from, and a selection that leaves inherited methods out
looks at nothing else.  A method that is written in a declaration comes from that declaration, and the
method of a trait from the class that uses the trait, however many traits lie between.  Of all methods that
count for a class (`precedence`), its own and those of its traits come from it therefore, and of the others
none does, because two classes of a lineage never have one name.

The one way in which another method can seem to come from the class is an interface of its name, since the
names of classes and interfaces are looked up apart.
-/

namespace PhpInterface

open Source

variable {find : String → Kind → Except SourceError (Option ClassInfo)} {size : Nat}

/-! ## Methods and their classes -/

/-- Each method of the declaration comes from it. -/
def ClassInfo.OwnsMethods (c : ClassInfo) : Prop :=
  ∀ m ∈ c.methods, m.declaringClass = c.name

lemma declaringClass_of_methodExpr {scope : Scope} {user : String} {e : MethodExpr} {m : ClassMethod}
    (h : e.describe scope user = .ok m) : m.declaringClass = user := by
  obtain ⟨_, _, h⟩ := bind_eq_ok_iff.1 h
  obtain ⟨_, _, h⟩ := bind_eq_ok_iff.1 h
  cases h
  rfl

lemma ownsMethods_of_lookup {files : List Content} {name : String} {kind : Kind} {c : ClassInfo}
    (h : lookupIn files name kind = .ok (some c)) : c.OwnsMethods := by
  obtain ⟨d, _, hdescribe⟩ := exists_declared_of_lookup h
  obtain ⟨methods, hmethods, hc⟩ := bind_eq_ok_iff.1 hdescribe
  cases hc
  intro m hm
  obtain ⟨e, _, he⟩ := exists_arg_of_mapM hmethods hm
  exact declaringClass_of_methodExpr he

/-- The methods of traits come from the class that uses them. -/
lemma TraitWalk.declaringClass {user : String} {names : List String} {walk : List ClassMethod}
    (h : TraitWalk find user names walk) : ∀ m ∈ walk, m.declaringClass = user := by
  intro m hm
  rw [← h.map_usedBy] at hm
  obtain ⟨m', _, rfl⟩ := List.mem_map.1 hm
  rfl

/-- The methods that interfaces ask for come from these interfaces. -/
lemma exists_interface_of_mem (hfind : ∀ name kind c, find name kind = .ok (some c) → c.OwnsMethods)
    {names : List String} {m : ClassMethod} (h : m ∈ interfaceMethods find names) :
    ∃ n ∈ names, ∃ i, find n .interfaceKind = .ok (some i) ∧ m.declaringClass = i.name := by
  obtain ⟨n, hn, hm⟩ := List.mem_flatMap.1 h
  split at hm
  · next i hfound =>
    obtain ⟨m', hm', rfl⟩ := List.mem_map.1 hm
    exact ⟨n, hn, i, hfound, hfind n _ i hfound m' hm'⟩
  · cases hm

/-! ## Lineages -/

section

variable {c : ClassInfo} {line : List Ancestor}

/-- A lineage is a chain of parents. -/
lemma Lineage.chain (h : Lineage find size c line) : Chain find c (line.map (·.declared)) := by
  induction h with
  | last _ _ _ => exact .traits (.last _)
  | child hparent _ _ _ ih => exact .parent hparent ih

/-- What holds of a class and goes over to parents holds of the whole lineage. -/
lemma Lineage.forall_declared {P : ClassInfo → Prop} (h : Lineage find size c line) (hc : P c)
    (hparents : ∀ d p, P d → parentOf find d = .ok (some p) → P p) : ∀ a ∈ line, P a.declared := by
  induction h with
  | last _ _ _ => simpa using hc
  | child hparent _ _ _ ih => exact List.forall_mem_cons.2 ⟨hc, ih (hparents _ _ hc hparent)⟩

lemma Lineage.traitWalk (h : Lineage find size c line) :
    ∀ a ∈ line, TraitWalk find a.declared.name a.declared.traits a.traitMethods := by
  induction h with
  | last _ hwalk _ => simpa using hwalk
  | child _ hwalk _ _ ih => exact List.forall_mem_cons.2 ⟨hwalk, ih⟩

lemma Lineage.resolves (h : Lineage find size c line) :
    ∀ a ∈ line, ∃ r, Resolves find size a.declared r ∧ a.interfaces = r.interfaces := by
  induction h with
  | last _ _ hresolved => simpa using ⟨_, hresolved, rfl⟩
  | child _ _ hresolved _ ih => exact List.forall_mem_cons.2 ⟨⟨_, hresolved, rfl⟩, ih⟩

/-- The interfaces of a lineage are among the names that are looked up. -/
lemma Lineage.within {A : String → Kind → Prop} (h : Lineage find size c line) (hA : Closed find A)
    (hc : c.Within A) : ∀ a ∈ line, ∀ i ∈ a.interfaces, A i .interfaceKind := by
  intro a ha
  have hdeclared : a.declared.Within A := h.forall_declared hc (fun _ _ hd hp => hd.parentOf hA hp) a ha
  obtain ⟨r, ⟨depth, hrun⟩, hr⟩ := h.resolves a ha
  rw [hr]
  exact within_of_assemble hA hdeclared hrun

/-- The ancestors of a class have other names than the class, if no name comes twice on its chains. -/
lemma Lineage.name_ne {first : Ancestor} {ancestors : List Ancestor}
    (h : Lineage find size c (first :: ancestors))
    (hchains : ∀ chain, Chain find c chain → (chainNames chain).Nodup) :
    ∀ a ∈ ancestors, Text.lower a.declared.name ≠ Text.lower first.declared.name := by
  intro a ha heq
  have hnodup := hchains _ h.chain
  rw [List.map_cons, chainNames, List.map_cons, List.nodup_cons] at hnodup
  refine hnodup.1 ?_
  rw [← heq]
  exact List.mem_map_of_mem (List.mem_map_of_mem ha)

/-- In a lineage, own methods and those of traits come from the class that has them. -/
lemma Lineage.declaringClass (h : Lineage find size c line)
    (hfind : ∀ name kind c, find name kind = .ok (some c) → c.OwnsMethods) (hc : c.OwnsMethods) :
    ∀ a ∈ line, ∀ m ∈ a.declared.methods ++ a.traitMethods, m.declaringClass = a.declared.name := by
  intro a ha m hm
  have hparents : ∀ d p, d.OwnsMethods → parentOf find d = .ok (some p) → p.OwnsMethods := by
    intro d p _ hp
    obtain ⟨n, _, hfound⟩ := exists_find_of_parentOf hp
    exact hfind n _ p hfound
  rcases List.mem_append.1 hm with hm | hm
  · exact h.forall_declared hc hparents a ha m hm
  · exact (h.traitWalk a ha).declaringClass m hm

end

/-! ## The methods of other classes -/

/-- What a class can get besides its own methods and those of its traits. -/
def inheritable (find : String → Kind → Except SourceError (Option ClassInfo)) (line : List Ancestor) :
    List ClassMethod :=
  line.tail.flatMap (fun a => a.declared.methods ++ a.traitMethods) ++
    line.reverse.flatMap fun a => interfaceMethods find a.interfaces

lemma precedence_cons (first : Ancestor) (ancestors : List Ancestor) :
    precedence find (first :: ancestors) = first.traitMethods ++ inheritable find (first :: ancestors) :=
  List.append_assoc _ _ _

/-- Nothing of it comes from the class, if no name comes twice on the chains from the class and none of its
interfaces has its name. -/
lemma declaringClass_ne_of_mem_inheritable {c : ClassInfo} {line : List Ancestor} {m : ClassMethod}
    (hfind : ∀ name kind c, find name kind = .ok (some c) → c.OwnsMethods) (hc : c.OwnsMethods)
    (hline : Lineage find size c line)
    (hchains : ∀ chain, Chain find c chain → (chainNames chain).Nodup)
    (hinterfaces : ∀ a ∈ line, ∀ n ∈ a.interfaces, ∀ i, find n .interfaceKind = .ok (some i) →
      Text.lower i.name ≠ Text.lower c.name)
    (hm : m ∈ inheritable find line) : Text.lower m.declaringClass ≠ Text.lower c.name := by
  rcases List.mem_append.1 hm with hm | hm
  · obtain ⟨first, ancestors, rfl, rfl⟩ := hline.exists_cons
    obtain ⟨a, ha, hm⟩ := List.mem_flatMap.1 hm
    rw [hline.declaringClass hfind hc a (List.mem_cons_of_mem _ ha) m hm]
    exact hline.name_ne hchains a ha
  · obtain ⟨a, ha, hm⟩ := List.mem_flatMap.1 hm
    obtain ⟨n, hn, i, hfound, hfrom⟩ := exists_interface_of_mem hfind hm
    rw [hfrom]
    exact hinterfaces a (List.mem_reverse.1 ha) n hn i hfound

/-! ## The selection -/

/-- Leaving out what is inherited keeps the public methods that come from the class. -/
lemma isNone_omission?_dropInherited (c : ClassInfo) (m : ClassMethod) :
    (({ dropInherited := true } : Selection).omission? c m).isNone =
      (m.visibility == .pub && Text.caselessEq m.declaringClass c.name) := by
  rw [Selection.omission?]
  by_cases hpub : m.visibility = .pub
  · cases hfrom : Text.caselessEq m.declaringClass c.name <;> simp [hpub]
  · simp [hpub]

/-- A mark on the methods does not show in what is selected by class and visibility. -/
lemma filter_map_markedBy (asked : List ClassMethod) (name : String) (l : List ClassMethod) :
    ((l.map (·.markedBy asked)).filter fun m =>
        m.visibility == .pub && Text.caselessEq m.declaringClass name).map (·.toMethod) =
      (l.filter fun m => m.visibility == .pub && Text.caselessEq m.declaringClass name).map
        (·.toMethod) := by
  rw [List.filter_map, List.map_map]
  rfl

/-- Of methods that come from a class, followed by others that do not, the public ones among the first are
selected. -/
lemma filter_of_own_append {name : String} {own others : List ClassMethod}
    (hown : ∀ m ∈ own, Text.caselessEq m.declaringClass name = true)
    (hothers : ∀ m ∈ others, Text.caselessEq m.declaringClass name = false) :
    ((own ++ others).filter fun m => m.visibility == .pub && Text.caselessEq m.declaringClass name) =
      own.filter (·.visibility == .pub) := by
  have hkept : (own.filter fun m => m.visibility == .pub && Text.caselessEq m.declaringClass name) =
      own.filter (·.visibility == .pub) :=
    List.filter_congr fun m hm => by rw [hown m hm, Bool.and_true]
  have hdropped : (others.filter fun m =>
      m.visibility == .pub && Text.caselessEq m.declaringClass name) = [] :=
    List.filter_eq_nil_iff.2 fun m hm => by simp [hothers m hm]
  rw [List.filter_append, hkept, hdropped, List.append_nil]

/-- Where a class is found and none of the interfaces that can be reached from it has its name, leaving out
what is inherited keeps exactly its own methods and after them the first of every other name in the one
walk through its traits, as far as they are public. -/
theorem own_methods_selected {files : List Content} {name : String} {r : ClassInfo}
    (h : classNamed files name = .ok r)
    (hinterfaces : ∀ n i, Asked (lookupIn files) name n .interfaceKind →
      lookupIn files n .interfaceKind = .ok (some i) → Text.caselessEq i.name r.name = false)
    (interfaceName : String) :
    ∃ c walk, lookupIn files name .classKind = .ok (some c) ∧
      TraitWalk (lookupIn files) c.name c.traits walk ∧
      (∀ other, TraitWalk (lookupIn files) c.name c.traits other → other = walk) ∧
      ({ dropInherited := true } : Selection).interfaceOf r interfaceName =
        { name := interfaceName
          parents := []
          methods := ((c.methods ++ firstByName (c.methods.map ClassMethod.key) walk).filter
            (·.visibility == .pub)).map (·.toMethod) } := by
  obtain ⟨c, after, hfound, hrun⟩ := exists_found_of_classNamed h
  obtain ⟨line, hline, hmethods⟩ := exists_lineage_of_assemble hrun
  have hname : r.name = c.name := name_of_assemble hrun
  have hfind : ∀ n kind d, lookupIn files n kind = .ok (some d) → d.OwnsMethods :=
    fun _ _ _ hd => ownsMethods_of_lookup hd
  have howns := hfind name .classKind c hfound
  have hchains : ∀ chain, Chain (lookupIn files) c chain → (chainNames chain).Nodup := by
    intro chain hchain
    simpa using nodup_of_assemble List.nodup_nil hrun hchain
  have hasked := closed_asked (lookupIn files) name
  have hothers : ∀ m ∈ inheritable (lookupIn files) line,
      Text.caselessEq m.declaringClass r.name = false := by
    intro m hm
    rw [Text.caselessEq_eq_false_iff, hname]
    refine declaringClass_ne_of_mem_inheritable hfind howns hline hchains ?_ hm
    intro a ha n hn i hi
    have hreached := hline.within hasked (hasked.classes name c .start hfound) a ha n hn
    rw [← hname, ← Text.caselessEq_eq_false_iff]
    exact hinterfaces n i hreached hi
  obtain ⟨first, ancestors, rfl, rfl⟩ := hline.exists_cons
  have hwalk := hline.traitWalk first List.mem_cons_self
  refine ⟨first.declared, first.traitMethods, hfound, hwalk, fun other hother => hother.unique hwalk, ?_⟩
  have hown : ∀ m ∈ first.declared.methods ++
      firstByName (first.declared.methods.map ClassMethod.key) first.traitMethods,
      Text.caselessEq m.declaringClass r.name = true := by
    intro m hm
    have hm' : m ∈ first.declared.methods ++ first.traitMethods := by
      rcases List.mem_append.1 hm with hm | hm
      · exact List.mem_append_left _ hm
      · exact List.mem_append_right _ (mem_of_mem_firstByName hm)
    rw [hline.declaringClass hfind howns first List.mem_cons_self m hm', hname, Text.caselessEq_refl]
  simp only [Selection.interfaceOf, isNone_omission?_dropInherited]
  rw [hmethods, filter_map_markedBy, withMissing_eq, precedence_cons, firstByName_append,
    ← List.append_assoc, filter_of_own_append hown]
  intro m hm
  exact hothers m (mem_of_mem_firstByName hm)

/-- A class with nested traits, a parent with a trait of its own and an interface.  The second interface has
the name of the class but is not reached from it. -/
def familyFiles : List Content :=
  [.text "<?php class C extends p implements I \x7b use T; function o() \x7b\x7d private function q() \x7b\x7d \x7d",
   .text "<?php trait T \x7b use U; function F() \x7b\x7d function Q() \x7b\x7d \x7d",
   .text "<?php trait U \x7b function f() \x7b\x7d function g() \x7b\x7d \x7d",
   .text "<?php class P \x7b use V; function G() \x7b\x7d \x7d",
   .text "<?php trait V \x7b function v() \x7b\x7d \x7d",
   .text "<?php interface I \x7b function i(); \x7d interface c \x7b\x7d"]

/-- The names that are looked up for the class. -/
def namesOfC : List (String × Kind) :=
  [("C", .classKind), ("p", .classKind), ("I", .interfaceKind), ("T", .traitKind), ("U", .traitKind),
    ("V", .traitKind)]

set_option maxRecDepth 100000 in
/-- The class has methods of all its relatives, and its own and those of its traits are selected. -/
theorem own_methods_selected_family :
    ∃ r c walk, classNamed familyFiles "C" = .ok r ∧
      r.methods.map (·.name) = ["o", "q", "F", "g", "v", "i"] ∧
      (({ dropInherited := true } : Selection).interfaceOf r "X").methods.map (·.name) = ["o", "F", "g"] ∧
      lookupIn familyFiles "C" .classKind = .ok (some c) ∧
      TraitWalk (lookupIn familyFiles) c.name c.traits walk ∧
      ({ dropInherited := true } : Selection).interfaceOf r "X" =
        { name := "X"
          parents := []
          methods := ((c.methods ++ firstByName (c.methods.map ClassMethod.key) walk).filter
            (·.visibility == .pub)).map (·.toMethod) } := by
  have hnames : ((classNamed familyFiles "C").toOption.map fun r => (r.name, r.methods.map (·.name),
      (({ dropInherited := true } : Selection).interfaceOf r "X").methods.map (·.name))) =
        some ("C", ["o", "q", "F", "g", "v", "i"], ["o", "F", "g"]) := by
    decide +kernel
  have hlookups : ∀ q ∈ namesOfC,
      (∀ link ∈ linksOf (lookupIn familyFiles q.1 q.2), link ∈ namesOfC) ∧
      (q.2 = .interfaceKind →
        ((lookupIn familyFiles q.1 q.2).toOption.bind id).all (!Text.caselessEq ·.name "C") = true) := by
    decide +kernel
  have hinterfaces : ∀ n i, Asked (lookupIn familyFiles) "C" n .interfaceKind →
      lookupIn familyFiles n .interfaceKind = .ok (some i) → Text.caselessEq i.name "C" = false := by
    intro n i hasked hfound
    have hname := hasked.of_closed (closed_of_linksOf fun q hq => (hlookups q hq).1) (by decide)
    have hother := (hlookups (n, .interfaceKind) hname).2 rfl
    rw [hfound] at hother
    simpa [Except.toOption] using hother
  cases hrun : classNamed familyFiles "C" with
  | error e =>
      rw [hrun] at hnames
      cases hnames
  | ok r =>
      rw [hrun] at hnames
      simp only [Except.toOption, Option.map_some, Option.some.injEq, Prod.mk.injEq] at hnames
      obtain ⟨hname, hall, hselected⟩ := hnames
      obtain ⟨c, walk, hfound, hwalk, _, hinterface⟩ :=
        own_methods_selected hrun (fun n i hn hi => hname ▸ hinterfaces n i hn hi) "X"
      exact ⟨r, c, walk, rfl, hall, hselected, hfound, hwalk, hinterface⟩

end PhpInterface
