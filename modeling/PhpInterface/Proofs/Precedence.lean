import PhpInterface.Proofs.PlainSearch
import PhpInterface.Proofs.Resolution

/-!
# Which method counts

The resolution of a class merges at every level: traits into traits, traits into the class, the resolved
parent into its child, and the methods of interfaces last, at each level again.  The law behind all these
merges is one order on a flat sequence, in which the first method of every name counts: the traits of the
class, then for every ancestor its own methods and those of its traits, from the nearest to the farthest,
and at last the methods of the interfaces, from the farthest ancestor back to the class itself.

`resolved_methods` states this for every run, from any catalogue of the files and with any names on the
stack.  All of a method is taken over; the one thing that a resolution itself says about a method is which
interface asks for it (`ClassMethod.markedBy`).
-/

namespace PhpInterface

open Source

variable {find : String → Kind → Except SourceError (Option ClassInfo)} {size : Nat}

/-! ## The flat sequence -/

/-- What a class of a lineage brings along. -/
structure Ancestor where
  /-- the class as it is written -/
  declared : ClassInfo
  /-- the methods of its traits, in the order of a walk through them -/
  traitMethods : List ClassMethod
  /-- all the interfaces that it has when it is resolved -/
  interfaces : List String

/-- A class and its ancestors, as far as they are found, each with what it brings along. -/
inductive Lineage (find : String → Kind → Except SourceError (Option ClassInfo)) (size : Nat) :
    ClassInfo → List Ancestor → Prop where
  | last {c r : ClassInfo} {walk : List ClassMethod} (hparent : parentOf find c = .ok none)
      (hwalk : TraitWalk find c.name c.traits walk) (hresolved : Resolves find size c r) :
      Lineage find size c [⟨c, walk, r.interfaces⟩]
  | child {c p r : ClassInfo} {walk : List ClassMethod} {line : List Ancestor}
      (hparent : parentOf find c = .ok (some p)) (hwalk : TraitWalk find c.name c.traits walk)
      (hresolved : Resolves find size c r) (hline : Lineage find size p line) :
      Lineage find size c (⟨c, walk, r.interfaces⟩ :: line)

/-- The methods that a class can get, in the order in which they count: from its traits, from its
ancestors with theirs, and from the interfaces of the whole lineage, the farthest first. -/
def precedence (find : String → Kind → Except SourceError (Option ClassInfo)) :
    List Ancestor → List ClassMethod
  | [] => []
  | c :: ancestors =>
    c.traitMethods ++ ancestors.flatMap (fun a => a.declared.methods ++ a.traitMethods) ++
      (c :: ancestors).reverse.flatMap fun a => interfaceMethods find a.interfaces

lemma Lineage.exists_cons {c : ClassInfo} {line : List Ancestor} (h : Lineage find size c line) :
    ∃ a rest, line = a :: rest ∧ a.declared = c := by
  cases h with
  | last _ _ _ => exact ⟨_, _, rfl, rfl⟩
  | child _ _ _ _ => exact ⟨_, _, rfl, rfl⟩

/-- There is one way at most to walk through some traits. -/
lemma TraitWalk.unique {user : String} {names : List String} {walk other : List ClassMethod}
    (h : TraitWalk find user names walk) (hother : TraitWalk find user names other) : walk = other := by
  induction h generalizing other with
  | nil =>
      cases hother
      rfl
  | missing hfind _ ih =>
      cases hother with
      | missing _ hmore => exact ih hmore
      | found hfind' _ _ => cases hfind.symm.trans hfind'
  | found hfind _ _ ihnested ihmore =>
      cases hother with
      | missing hfind' _ => cases hfind.symm.trans hfind'
      | found hfind' hnested hmore =>
          cases hfind.symm.trans hfind'
          rw [ihnested hnested, ihmore hmore]

lemma Lineage.unique {c : ClassInfo} {line other : List Ancestor} (h : Lineage find size c line)
    (hother : Lineage find size c other) : line = other := by
  induction h generalizing other with
  | last hparent hwalk hresolved =>
      cases hother with
      | last _ hwalk' hresolved' => rw [hwalk.unique hwalk', hresolved.unique hresolved']
      | child hparent' _ _ _ => cases hparent.symm.trans hparent'
  | child hparent hwalk hresolved _ ih =>
      cases hother with
      | last hparent' _ _ => cases hparent.symm.trans hparent'
      | child hparent' hwalk' hresolved' hline =>
          cases hparent.symm.trans hparent'
          rw [hwalk.unique hwalk', hresolved.unique hresolved', ih hline]

/-- Below a class stands its parent's own sequence, between its traits and its interfaces. -/
lemma precedence_cons_cons (c p : Ancestor) (rest : List Ancestor) :
    precedence find (c :: p :: rest) =
      c.traitMethods ++ (p.declared.methods ++ precedence find (p :: rest) ++
        interfaceMethods find c.interfaces) := by
  simp [precedence, List.append_assoc]

/-! ## Every level -/

/-- The methods that the interfaces ask for are the last to count, and with them every method is marked. -/
lemma methods_withInterfaces (c : ClassInfo) (all : List String) (asked : List ClassMethod) :
    (c.withInterfaces all (firstByName [] asked)).methods =
      (withMissing c.methods asked).map (·.markedBy asked) := by
  have hmark : c.methods.map (·.markedBy (firstByName [] asked)) = c.methods.map (·.markedBy asked) := by
    apply List.map_congr_left
    intro m _
    exact markedBy_firstByName asked m
  have hkeys : (c.methods.map (·.markedBy asked)).map ClassMethod.key = c.methods.map ClassMethod.key := by
    rw [List.map_map]
    rfl
  have hasked : (firstByName (c.methods.map ClassMethod.key) asked).map (·.markedBy asked) =
      firstByName (c.methods.map ClassMethod.key) asked := by
    rw [List.map_congr_left fun m hm => markedBy_of_mem_firstByName hm, List.map_id']
  rw [ClassInfo.withInterfaces, hmark, withMissing_eq, withMissing_eq, hkeys, List.map_append, hasked,
    firstByName_firstByName (by simp)]

/-- Marks that were made before do not show once the methods are marked anew. -/
lemma map_markedBy_withMissing_marked (asked other a b c : List ClassMethod) :
    (withMissing (withMissing a (b.map (·.markedBy other))) c).map (·.markedBy asked) =
      (withMissing (withMissing a b) c).map (·.markedBy asked) := by
  have hmarks : (b.map (·.markedBy other)).map (·.markedBy asked) = b.map (·.markedBy asked) := by
    rw [List.map_map]
    exact List.map_congr_left fun m _ => markedBy_markedBy asked other m
  simp only [map_withMissing (key_markedBy asked), hmarks]

/-- Every class that resolves has a lineage, and its methods are merged in the order of precedence. -/
lemma exists_lineage_of_assemble {depth : Nat} {c r : ClassInfo} {stack after : List String}
    (h : (assemble find size depth c).run stack = .ok (r, after)) :
    ∃ line, Lineage find size c line ∧
      r.methods = (withMissing c.methods (precedence find line)).map
        (·.markedBy (interfaceMethods find r.interfaces)) := by
  induction depth generalizing c r stack after with
  | zero => cases h
  | succ depth ih =>
      have hresolves := resolves_of_assemble h
      cases (run_assemble_eq_ok_iff.1 h).2 with
      | @of fromTraits asked resolved all _ htraits hparent hclosure =>
          obtain ⟨_, walk, hwalk, rfl⟩ := methodsOfTraits_spec htraits
          obtain rfl := @interfaceClosure_methods find _ _ [] all asked hclosure
          have htop : (c.withTraits (firstByName [] walk)).methods = withMissing c.methods walk :=
            withMissing_firstByName c.methods walk
          rw [methods_withInterfaces]
          cases hparent with
          | absent hnone =>
              refine ⟨_, .last hnone hwalk hresolves, ?_⟩
              rw [ClassInfo.withParent, htop, withMissing_withMissing]
              simp [precedence, ClassInfo.withInterfaces]
          | @found p q hfound hrun =>
              obtain ⟨line, hline, hq⟩ := ih hrun
              refine ⟨_, .child hfound hwalk hresolves hline, ?_⟩
              obtain ⟨a, rest, rfl, rfl⟩ := hline.exists_cons
              rw [ClassInfo.withParent, htop, hq, map_markedBy_withMissing_marked, withMissing_withMissing,
                withMissing_withMissing, withMissing_append_withMissing, precedence_cons_cons]
              rfl

/-- A method whose name is found nowhere else in the lineage is what an interface asks for, and abstract. -/
lemma isAbstract_of_mem_precedence {line : List Ancestor} {m : ClassMethod} (hm : m ∈ precedence find line)
    (hkey : m.key ∉ (line.flatMap fun a => a.declared.methods ++ a.traitMethods).map ClassMethod.key) :
    m.isAbstract = true := by
  have hother : ∀ a ∈ line, m ∉ a.declared.methods ++ a.traitMethods := fun a ha hma =>
    hkey (List.mem_map_of_mem (List.mem_flatMap.2 ⟨a, ha, hma⟩))
  cases line with
  | nil => cases hm
  | cons c ancestors =>
      rcases List.mem_append.1 hm with hm | hm
      · rcases List.mem_append.1 hm with hm | hm
        · exact absurd (List.mem_append_right _ hm) (hother c List.mem_cons_self)
        · obtain ⟨a, ha, hma⟩ := List.mem_flatMap.1 hm
          exact absurd hma (hother a (List.mem_cons_of_mem _ ha))
      · obtain ⟨a, _, hma⟩ := List.mem_flatMap.1 hm
        obtain ⟨name, _, hmi⟩ := List.mem_flatMap.1 hma
        split at hmi
        · obtain ⟨m', _, rfl⟩ := List.mem_map.1 hmi
          rfl
        · cases hmi

/-! ## Every run -/

/-- Whenever a class is resolved, from any catalogue of the files and below any names, it has one lineage.
Its methods are its own as they stand, and then the first of every name in the order of precedence, each
whole and marked with the interface that asks for it: all but the mark is as it was, and abstract is what
only interfaces ask for.  So no name comes twice unless the class itself declares it twice. -/
theorem resolved_methods {files : List Content} {cat after : Catalogue} {depth : Nat} {c r : ClassInfo}
    {stack left : List String} (hcat : Catalogue.Of files cat)
    (h : ((assemble Search.find (extent files) depth c).run stack).run cat = .ok ((r, left), after)) :
    ∃ line, Lineage (lookupIn files) (extent files) c line ∧
      (∀ other, Lineage (lookupIn files) (extent files) c other → other = line) ∧
      r.methods =
        (c.methods ++
          firstByName (c.methods.map ClassMethod.key) (precedence (lookupIn files) line)).map
          (·.markedBy (interfaceMethods (lookupIn files) r.interfaces)) ∧
      r.methods.map (fun m => { m with implementedInterface := none }) =
        (c.methods ++
          firstByName (c.methods.map ClassMethod.key) (precedence (lookupIn files) line)).map
          (fun m => { m with implementedInterface := none }) ∧
      (∀ m ∈ r.methods,
        m.key ∉ (line.flatMap fun a => a.declared.methods ++ a.traitMethods).map ClassMethod.key →
          m.isAbstract = true) ∧
      ((c.methods.map ClassMethod.key).Nodup → (r.methods.map ClassMethod.key).Nodup) := by
  have hplain := (resolvesAlike_assemble (extent files) depth c stack).eq_ok hcat h
  obtain ⟨line, hline, hmethods⟩ := exists_lineage_of_assemble hplain
  rw [withMissing_eq] at hmethods
  refine ⟨line, hline, fun other hother => hother.unique hline, hmethods, ?_, ?_, ?_⟩
  · rw [hmethods, List.map_map]
    rfl
  · intro m hm hkey
    rw [hmethods] at hm
    obtain ⟨m', hm', rfl⟩ := List.mem_map.1 hm
    rcases List.mem_append.1 hm' with hown | hfirst
    · obtain ⟨a, rest, rfl, rfl⟩ := hline.exists_cons
      refine absurd (List.mem_map.2 ⟨m', ?_, rfl⟩) hkey
      exact List.mem_flatMap.2 ⟨a, List.mem_cons_self, List.mem_append_left _ hown⟩
    · exact @isAbstract_of_mem_precedence _ _ m' (mem_of_mem_firstByName hfirst) hkey
  · intro hown
    have hkeys : r.methods.map ClassMethod.key =
        (withMissing c.methods (precedence (lookupIn files) line)).map ClassMethod.key := by
      rw [hmethods, ← withMissing_eq, List.map_map]
      rfl
    rw [hkeys]
    exact nodup_key_withMissing hown _

/-- A trait that uses another, a parent and two interfaces: each has a method that comes too late. -/
def layeredFiles : List Content :=
  [.text "<?php
trait T \x7b use U; function F() \x7b\x7d function O() \x7b\x7d \x7d
trait U \x7b function f() \x7b\x7d function g() \x7b\x7d \x7d
class P implements J \x7b function G() \x7b\x7d function h() \x7b\x7d \x7d
interface I \x7b function H(); function j(); \x7d
interface J \x7b function J(int $x); \x7d"]

def layeredClass : ClassInfo :=
  { name := "C"
    parent := some "P"
    interfaces := ["I"]
    traits := ["T"]
    methods := [{ name := "o", declaringClass := "C" }] }

/-- What tells of a method where it comes from. -/
def ClassMethod.origin (m : ClassMethod) : String × Bool × String × Option String :=
  (m.name, m.isAbstract, m.declaringClass, m.implementedInterface)

set_option maxRecDepth 100000 in
theorem resolved_methods_layered :
    ∃ r left after line,
      ((assemble Search.find (extent layeredFiles) 4 layeredClass).run []).run (.ofFiles layeredFiles) =
        .ok ((r, left), after) ∧
      r.methods.map ClassMethod.origin =
        [("o", false, "C", none), ("F", false, "C", none), ("g", false, "C", none),
         ("h", false, "P", some "I"), ("J", true, "J", some "I")] ∧
      Lineage (lookupIn layeredFiles) (extent layeredFiles) layeredClass line ∧
      r.methods =
        (layeredClass.methods ++ firstByName ["o"] (precedence (lookupIn layeredFiles) line)).map
          (·.markedBy (interfaceMethods (lookupIn layeredFiles) r.interfaces)) ∧
      (r.methods.map ClassMethod.key).Nodup := by
  have horigins : ((((assemble Search.find (extent layeredFiles) 4 layeredClass).run []).run
      (.ofFiles layeredFiles)).toOption.map fun p => p.1.1.methods.map ClassMethod.origin) =
        some [("o", false, "C", none), ("F", false, "C", none), ("g", false, "C", none),
          ("h", false, "P", some "I"), ("J", true, "J", some "I")] := by
    decide +kernel
  have hkeys : layeredClass.methods.map ClassMethod.key = ["o"] := by
    decide +kernel
  cases hrun : ((assemble Search.find (extent layeredFiles) 4 layeredClass).run []).run
      (.ofFiles layeredFiles) with
  | error e =>
      rw [hrun] at horigins
      cases horigins
  | ok p =>
      obtain ⟨⟨r, left⟩, after⟩ := p
      rw [hrun] at horigins
      obtain ⟨line, hline, _, hmethods, _, _, hnodup⟩ :=
        resolved_methods (Catalogue.of_ofFiles layeredFiles) hrun
      rw [hkeys] at hmethods hnodup
      exact ⟨r, left, after, line, rfl, Option.some.inj horigins, hline, hmethods,
        hnodup (List.nodup_singleton "o")⟩

end PhpInterface
