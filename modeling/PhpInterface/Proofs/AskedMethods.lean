import PhpInterface.Proofs.InterfaceClosure
import PhpInterface.Proofs.Precedence
import PhpInterface.Selection

/-!
# Methods that an interface asks for

Every method of a resolved class tells which interface asks for it.  The mark is made anew at each level of
a lineage, with the interfaces of that level, and methods that no class provides come with a mark of their
own; so a mark could be left over from a level below.  It is not (`marks_exact`): the mark names the first
interface in the list of the resolved class that is found and declares a method of the name, for all methods
alike.

Together with what the list holds this makes the mark a fact about the sources.  A method is marked exactly
if a found interface of the class declares its name (`InterfaceAsks`), and a selection that leaves marked
methods out keeps none of these.
-/

namespace PhpInterface

open Source

variable {find : String → Kind → Except SourceError (Option ClassInfo)}

/-- The declared name of an interface, if it is found and declares a method of this name. -/
def askingInterface (find : String → Kind → Except SourceError (Option ClassInfo))
    (method name : String) : Option String :=
  match find name .interfaceKind with
  | .ok (some i) => if hasMethod i.methods method then some i.name else none
  | _ => none

/-- A found interface of the class declares a method of this name. -/
def InterfaceAsks (find : String → Kind → Except SourceError (Option ClassInfo)) (c : ClassInfo)
    (method : String) : Prop :=
  ∃ name i, HasInterface find c name ∧ find name .interfaceKind = .ok (some i) ∧
    hasMethod i.methods method = true

/-! ## The first interface -/

lemma askingInterface_eq_some_iff {method name declared : String} :
    askingInterface find method name = some declared ↔
      ∃ i, find name .interfaceKind = .ok (some i) ∧ hasMethod i.methods method = true ∧
        i.name = declared := by
  rw [askingInterface]
  split
  · next i hfound =>
    rw [Option.ite_none_right_eq_some, Option.some.injEq]
    simp [hfound]
  · next hnone =>
    constructor
    · intro h
      cases h
    · rintro ⟨i, hfound, _⟩
      exact absurd hfound (hnone i)

lemma hasMethod_eq_isSome (methods : List ClassMethod) (name : String) :
    hasMethod methods name = (methods.find? fun a => Text.caselessEq a.name name).isSome := by
  rw [hasMethod, Bool.eq_iff_iff, List.any_eq_true, List.find?_isSome]

/-- The first method of a name that some interfaces ask for has the mark of the first of them that declares
the name. -/
lemma bind_find?_interfaceMethods (names : List String) (method : String) :
    ((interfaceMethods find names).find? fun a => Text.caselessEq a.name method).bind
        (·.implementedInterface) =
      names.findSome? (askingInterface find method) := by
  induction names with
  | nil => rfl
  | cons name rest ih =>
      rw [interfaceMethods, List.flatMap_cons, List.find?_append, List.findSome?_cons, askingInterface]
      cases find name .interfaceKind with
      | error e => exact ih
      | ok found =>
          cases found with
          | none => exact ih
          | some i =>
              simp only [List.find?_map, Function.comp_def, hasMethod_eq_isSome]
              cases i.methods.find? fun a => Text.caselessEq a.name method with
              | none => exact ih
              | some a => rfl

/-! ## The methods of a resolved class -/

section

variable {size depth : Nat} {c r : ClassInfo} {stack after : List String}

/-- The last thing that a resolution does: it adds the methods that the listed interfaces ask for, and marks
all methods with these interfaces. -/
lemma methods_of_assemble (h : (assemble find size depth c).run stack = .ok (r, after)) :
    ∃ inherited, r.methods = (withMissing inherited (interfaceMethods find r.interfaces)).map
      (·.markedBy (interfaceMethods find r.interfaces)) := by
  cases depth with
  | zero => cases h
  | succ depth =>
      cases (run_assemble_eq_ok_iff.1 h).2 with
      | of _ _ _ hclosure =>
          obtain rfl := @interfaceClosure_methods find _ _ [] _ _ hclosure
          exact ⟨_, methods_withInterfaces _ _ _⟩

/-- The mark of a method names the first interface in the list that asks for it. -/
lemma implementedInterface_of_assemble (h : (assemble find size depth c).run stack = .ok (r, after))
    {m : ClassMethod} (hm : m ∈ r.methods) :
    m.implementedInterface = r.interfaces.findSome? (askingInterface find m.name) := by
  obtain ⟨inherited, hmethods⟩ := methods_of_assemble h
  rw [hmethods] at hm
  obtain ⟨m', _, rfl⟩ := List.mem_map.1 hm
  exact bind_find?_interfaceMethods r.interfaces m'.name

/-- Every name that a listed interface declares is the name of a method. -/
lemma hasMethod_of_assemble (h : (assemble find size depth c).run stack = .ok (r, after))
    {name method : String} {i : ClassInfo} (hname : name ∈ r.interfaces)
    (hfind : find name .interfaceKind = .ok (some i)) (hmethod : hasMethod i.methods method = true) :
    hasMethod r.methods method = true := by
  obtain ⟨a, ha, heq⟩ := List.any_eq_true.1 hmethod
  obtain ⟨inherited, hmethods⟩ := methods_of_assemble h
  have hasked : a.askedBy i.name ∈ interfaceMethods find r.interfaces := by
    refine List.mem_flatMap.2 ⟨name, hname, ?_⟩
    rw [hfind]
    exact List.mem_map.2 ⟨a, ha, rfl⟩
  have hkey : a.key ∈ r.methods.map ClassMethod.key := by
    rw [hmethods, map_withMissing (key_markedBy _), map_key_withMissing, List.map_map, List.map_map]
    exact Or.inr (List.mem_map.2 ⟨_, hasked, rfl⟩)
  obtain ⟨m, hm, hmkey⟩ := List.mem_map.1 hkey
  refine List.any_eq_true.2 ⟨m, hm, Text.caselessEq_trans (Text.caselessEq_iff.2 hmkey) heq⟩

end

/-! ## Selections -/

/-- A method that an interface asks for is left out by a selection without such methods. -/
lemma omission?_of_dropImplemented {s : Selection} (hs : s.dropImplemented = true) (c : ClassInfo)
    {m : ClassMethod} (h : s.omission? c m = none) : m.implementedInterface = none := by
  cases hmark : m.implementedInterface with
  | none => rfl
  | some interface =>
      -- the causes that come before are refused one by one, and this one holds
      simp only [Selection.omission?, hs, hmark, Option.isSome_some, Bool.and_self, if_true,
        ite_eq_iff, reduceCtorEq, and_false, or_false] at h

/-! ## Every run -/

/-- Whenever a class is resolved, from any catalogue of the files and below any names, each method is marked
with the first interface in the list that is found and declares its name, and has no mark exactly if no found
interface of the class does.  Every name that such an interface declares is the name of a method, and a
selection that leaves marked methods out keeps none of these names. -/
theorem marks_exact {files : List Content} {cat after : Catalogue} {depth : Nat} {c r : ClassInfo}
    {stack left : List String} (hcat : Catalogue.Of files cat)
    (h : ((assemble Search.find (extent files) depth c).run stack).run cat = .ok ((r, left), after)) :
    (∀ m ∈ r.methods,
      m.implementedInterface = r.interfaces.findSome? (askingInterface (lookupIn files) m.name) ∧
      (m.implementedInterface = none ↔ ¬ InterfaceAsks (lookupIn files) c m.name)) ∧
    (∀ method, InterfaceAsks (lookupIn files) c method → hasMethod r.methods method = true) ∧
    ∀ (s : Selection) (interfaceName : String), s.dropImplemented = true →
      ∀ m ∈ (s.interfaceOf r interfaceName).methods, ¬ InterfaceAsks (lookupIn files) c m.name := by
  have hplain := (resolvesAlike_assemble (extent files) depth c stack).eq_ok hcat h
  have hcase : ∀ a b, Text.lower a = Text.lower b →
      lookupIn files a .interfaceKind = lookupIn files b .interfaceKind :=
    fun a b hab => lookupIn_eq_of_lower hab _
  -- an interface of the class may be listed in other letters, but is found all the same
  have hlisted : ∀ method, InterfaceAsks (lookupIn files) c method → ∃ name ∈ r.interfaces, ∃ i,
      lookupIn files name .interfaceKind = .ok (some i) ∧ hasMethod i.methods method = true := by
    rintro method ⟨name, i, hname, hfind, hmethod⟩
    obtain ⟨k, hk, heq⟩ :=
      List.mem_map.1 (listed_of_hasInterface (sized_lookupIn files) hcase hplain hname)
    exact ⟨k, hk, i, (hcase k name heq).trans hfind, hmethod⟩
  have hmark : ∀ m ∈ r.methods, m.implementedInterface = none ↔
      ¬ InterfaceAsks (lookupIn files) c m.name := by
    intro m hm
    rw [implementedInterface_of_assemble hplain hm, List.findSome?_eq_none_iff]
    constructor
    · intro hnone hasks
      obtain ⟨name, hname, i, hfind, hmethod⟩ := hlisted m.name hasks
      have hsome := askingInterface_eq_some_iff.2 ⟨i, hfind, hmethod, rfl⟩
      cases (hnone name hname).symm.trans hsome
    · intro hasks name hname
      rw [Option.eq_none_iff_forall_ne_some]
      intro declared hsome
      obtain ⟨i, hfind, hmethod, _⟩ := askingInterface_eq_some_iff.1 hsome
      exact hasks ⟨name, i, hasInterface_of_assemble hplain name hname, hfind, hmethod⟩
  refine ⟨fun m hm => ⟨implementedInterface_of_assemble hplain hm, hmark m hm⟩, ?_, ?_⟩
  · intro method hasks
    obtain ⟨name, hname, i, hfind, hmethod⟩ := hlisted method hasks
    exact hasMethod_of_assemble hplain hname hfind hmethod
  · intro s interfaceName hs m hm
    obtain ⟨m', hm', rfl⟩ := List.mem_map.1 hm
    obtain ⟨hmem, hkept⟩ := List.mem_filter.1 hm'
    exact (hmark m' hmem).1 (omission?_of_dropImplemented hs r (Option.isNone_iff_eq_none.1 hkept))

/-- A parent whose methods its own interface asks for, and an interface that asks for one of them again. -/
def markedFiles : List Content :=
  [.text "<?php
class P implements I \x7b function F() \x7b\x7d function g() \x7b\x7d function h() \x7b\x7d \x7d
interface I \x7b function f(); function H(); \x7d
interface J extends K \x7b function f(); \x7d
interface K \x7b function k(); \x7d"]

def markedClass : ClassInfo :=
  { name := "C"
    parent := some "P"
    interfaces := ["j"]
    methods := [{ name := "o", declaringClass := "C" }] }

set_option maxRecDepth 100000 in
/-- The method `F` of the parent is marked anew, and two of all methods are selected. -/
theorem marks_exact_anew :
    ∃ r left after,
      ((assemble Search.find (extent markedFiles) 3 markedClass).run []).run (.ofFiles markedFiles) =
        .ok ((r, left), after) ∧
      r.methods.map (fun m => (m.name, m.implementedInterface)) =
        [("o", none), ("F", some "J"), ("g", none), ("h", some "I"), ("k", some "K")] ∧
      (({ dropImplemented := true } : Selection).interfaceOf r "X").methods.map (·.name) = ["o", "g"] ∧
      (∀ m ∈ r.methods,
        m.implementedInterface = r.interfaces.findSome? (askingInterface (lookupIn markedFiles) m.name) ∧
        (m.implementedInterface = none ↔ ¬ InterfaceAsks (lookupIn markedFiles) markedClass m.name)) ∧
      (∀ method, InterfaceAsks (lookupIn markedFiles) markedClass method →
        hasMethod r.methods method = true) ∧
      ∀ m ∈ (({ dropImplemented := true } : Selection).interfaceOf r "X").methods,
        ¬ InterfaceAsks (lookupIn markedFiles) markedClass m.name := by
  have hmarks : ((((assemble Search.find (extent markedFiles) 3 markedClass).run []).run
      (.ofFiles markedFiles)).toOption.map fun p =>
        (p.1.1.methods.map (fun m => (m.name, m.implementedInterface)),
          (({ dropImplemented := true } : Selection).interfaceOf p.1.1 "X").methods.map (·.name))) =
        some ([("o", none), ("F", some "J"), ("g", none), ("h", some "I"), ("k", some "K")],
          ["o", "g"]) := by
    decide +kernel
  obtain ⟨⟨⟨r, left⟩, after⟩, hrun, hshape⟩ := exists_ok_of_map_toOption hmarks
  obtain ⟨hmethods, hselected⟩ := Prod.mk.inj hshape
  obtain ⟨hmark, hall, hkept⟩ := marks_exact (Catalogue.of_ofFiles markedFiles) hrun
  exact ⟨r, left, after, hrun, hmethods, hselected, hmark, hall,
    hkept { dropImplemented := true } "X" rfl⟩

end PhpInterface
