import PhpInterface.Proofs.CachedSearch
import PhpInterface.Proofs.Depth

/-!
# Names in any letters

A class says by name what it is built on, and the letters of such a name may be small or capital.  Every way
that such a name takes through a resolution disregards this: aliases of imports, the word for the current
namespace, lookups, the stack of what is being resolved, and the work list of interfaces.

To fold a description is to make the names small that it is built on.  A resolution commutes with this
(`run_assemble_folded`): looking at folded descriptions only, it does the same and ends with the folded
result.  So sources with the same folded declarations give the same class up to the letters in its lists
of names (`references_caseless`); what the class is called, and all its methods, stay the same to the letter.

A file has to be read for this, and there letters matter in one place.  The words `self` and `parent` are
keywords in small letters only, and no backslash can follow them (`small_self_unreadable`).  Texts that are
both read and differ in such names only have the same folded declarations (`content_folded_of_alike`, in
`Proofs.Recasing`).
-/

namespace PhpInterface

open Source

/-! ## Small letters -/

lemma toLower_toLower (c : Char) : c.toLower.toLower = c.toLower := by
  rw [← Char.toNat_inj, Text.toNat_toLower, Text.toNat_toLower]
  split
  · next hupper => rw [if_neg (by omega)]
  · rfl

@[simp] lemma lower_lower (s : String) : Text.lower (Text.lower s) = Text.lower s := by
  have htwice : Char.toLower ∘ Char.toLower = Char.toLower := funext toLower_toLower
  simp [Text.lower, htwice]

lemma lower_append (a b : String) : Text.lower (a ++ b) = Text.lower a ++ Text.lower b := by
  simp [Text.lower]

/-- The separators stand in the same places after the letters are made small. -/
lemma cut?_map_toLower (s : List Char) :
    Text.cut? separator (s.map Char.toLower) =
      (Text.cut? separator s).map (Prod.map (List.map Char.toLower) (List.map Char.toLower)) := by
  induction s with
  | nil => rfl
  | cons c rest ih =>
      have hsep : c.toLower = separator ↔ c = separator := toLower_eq_backslash_iff
      rw [List.map_cons, Text.cut?, Text.cut?, ih]
      by_cases hc : c = separator
      · rw [if_pos hc, if_pos (hsep.2 hc)]
        rfl
      · rw [if_neg hc, if_neg fun h => hc (hsep.1 h)]
        cases Text.cut? separator rest <;> rfl

/-! ## Scopes -/

section

variable (scope : Scope)

lemma imported?_lower (a : String) : scope.imported? (Text.lower a) = scope.imported? a := by
  simp [Scope.imported?]

lemma lower_declaredName (a : String) :
    Text.lower (scope.declaredName (Text.lower a)) = Text.lower (scope.declaredName a) := by
  unfold Scope.declaredName
  split <;> simp [lower_append]

/-- What a name means is told by its letters, whatever their case. -/
lemma lower_resolve_lower (name : String) :
    Text.lower (scope.resolve (Text.lower name)) = Text.lower (scope.resolve name) := by
  have hlist : (Text.lower name).toList = name.toList.map Char.toLower := by
    simp [Text.lower]
  have hofList : ∀ l : List Char, String.ofList (l.map Char.toLower) = Text.lower (String.ofList l) := by
    intro l
    simp [Text.lower]
  unfold Scope.resolve
  rw [hlist, cut?_map_toLower]
  cases hcut : Text.cut? separator name.toList with
  | none =>
      simp only [Option.map_none, imported?_lower]
      cases scope.imported? name with
      | none => exact lower_declaredName scope name
      | some full => rfl
  | some parts =>
      obtain ⟨first, below⟩ := parts
      cases first with
      | nil => simp [hofList]
      | cons c first =>
          have hword : Text.caselessEq (Text.lower (String.ofList (c :: first))) "namespace" =
              Text.caselessEq (String.ofList (c :: first)) "namespace" := by
            simp [Text.caselessEq]
          simp only [Option.map_some, Prod.map, List.map_cons]
          rw [← List.map_cons, hofList, hofList, hword, imported?_lower]
          split
          · exact lower_declaredName scope _
          · cases scope.imported? (String.ofList (c :: first)) with
            | none => exact lower_declaredName scope name
            | some full => simp [lower_append]

end

/-! ## Folded descriptions -/

/-- A declaration with small letters in the names that it is built on. -/
def Declared.folded (d : Declared) : Declared :=
  { d with
    decl :=
      { d.decl with
        bases := d.decl.bases.map Text.lower
        interfaces := d.decl.interfaces.map Text.lower
        traits := d.decl.traits.map Text.lower } }

/-- What a file declares, with small letters in the names that the declarations are built on; nothing, if
the file is passed over. -/
def Content.folded : Content → Except AccessFailure (Option (List Declared))
  | .unreadable failure => .error failure
  | .notText => .ok none
  | .text s => .ok ((declarations? s).map fun l => l.map Declared.folded)

/-- A description with small letters in the names that it is built on. -/
def ClassInfo.folded (c : ClassInfo) : ClassInfo :=
  { c with
    parent := c.parent.map Text.lower
    interfaces := c.interfaces.map Text.lower
    traits := c.traits.map Text.lower }

@[simp] lemma folded_name (c : ClassInfo) : c.folded.name = c.name := rfl

@[simp] lemma folded_interfaces (c : ClassInfo) : c.folded.interfaces = c.interfaces.map Text.lower := rfl

@[simp] lemma folded_traits (c : ClassInfo) : c.folded.traits = c.traits.map Text.lower := rfl

lemma withTraits_folded (c : ClassInfo) (methods : List ClassMethod) :
    c.folded.withTraits methods = (c.withTraits methods).folded := rfl

lemma withParent_folded (c : ClassInfo) (resolved : Option ClassInfo) :
    c.folded.withParent (resolved.map ClassInfo.folded) = (c.withParent resolved).folded := by
  cases resolved with
  | none => rfl
  | some p => simp [ClassInfo.withParent, ClassInfo.folded]

lemma withInterfaces_folded (c : ClassInfo) (all : List String) (asked : List ClassMethod) :
    c.folded.withInterfaces (all.map Text.lower) asked = (c.withInterfaces all asked).folded := rfl

/-- What a folded declaration says is the same up to folding. -/
lemma describe_folded (d : Declared) :
    ClassInfo.folded <$> d.folded.describe = ClassInfo.folded <$> d.describe := by
  have hresolve : (Text.lower ∘ d.scope.resolve) ∘ Text.lower = Text.lower ∘ d.scope.resolve :=
    funext (lower_resolve_lower d.scope)
  unfold Declared.describe Declared.folded
  cases d.decl.methods.mapM (MethodExpr.describe d.scope d.name) with
  | error e => rfl
  | ok methods =>
      by_cases hkind : d.decl.kind = .interfaceKind <;>
        simp [hkind, ClassInfo.folded, Functor.map, Except.map, pure, Except.pure, ← Function.comp_assoc,
          hresolve]

/-! ## Folded resolutions -/

/-- A way of looking up that folds what it finds. -/
def foldedFind (find : String → Kind → Except SourceError (Option ClassInfo)) (name : String)
    (kind : Kind) : Except SourceError (Option ClassInfo) :=
  Option.map ClassInfo.folded <$> find name kind

/-- Names are looked up without regard to the case of their letters. -/
def Caseless (find : String → Kind → Except SourceError (Option ClassInfo)) : Prop :=
  ∀ name kind, find (Text.lower name) kind = find name kind

section

variable {find : String → Kind → Except SourceError (Option ClassInfo)} (hfind : Caseless find)

include hfind

lemma foldedFind_lower (name : String) (kind : Kind) :
    foldedFind find (Text.lower name) kind = Option.map ClassInfo.folded <$> find name kind := by
  rw [foldedFind, hfind]

/-- One more trait has the same methods, though the traits that it uses are named in small letters. -/
lemma withTrait_folded {user : String}
    {methodsOf other : List String → Resolving (Except SourceError) (List ClassMethod)}
    (hsame : ∀ names, methodsOf (names.map Text.lower) = other names) (methods : List ClassMethod)
    (name : String) :
    withTrait (foldedFind find) user methodsOf methods (Text.lower name) =
      withTrait find user other methods name := by
  refine StateT.ext fun stack => ?_
  rw [run_withTrait, run_withTrait, foldedFind_lower hfind, bind_map_left]
  refine bind_congr_ok fun found _ => ?_
  cases found with
  | none => rfl
  | some t => simp only [Option.map_some, ClassInfo.folded, hsame]

/-- Traits have the same methods, in whatever letters they are named. -/
lemma methodsOfTraits_folded (user : String) (depth : Nat) (names : List String) :
    methodsOfTraits (foldedFind find) user depth (names.map Text.lower) =
      methodsOfTraits find user depth names := by
  induction depth generalizing names with
  | zero => rfl
  | succ depth ih =>
      rw [methodsOfTraits, methodsOfTraits, List.foldlM_map]
      simp only [withTrait_folded hfind ih]

/-- The work list takes the same interfaces, in whatever letters they are named. -/
lemma interfaceClosure_folded (steps : Nat) (pending known : List String) (methods : List ClassMethod) :
    interfaceClosure (foldedFind find) steps (pending.map Text.lower) (known.map Text.lower) methods =
      Prod.map (List.map Text.lower) id <$> interfaceClosure find steps pending known methods := by
  induction steps generalizing pending known methods with
  | zero => rfl
  | succ steps ih =>
      cases pending with
      | nil => rfl
      | cons name pending =>
          have hseen : ((known.map Text.lower).any fun k => Text.caselessEq k (Text.lower name)) =
              known.any fun k => Text.caselessEq k name := by
            simp [Text.caselessEq, List.any_map, Function.comp_def]
          have htaken : known.map Text.lower ++ [Text.lower name] = (known ++ [name]).map Text.lower := by
            simp
          rw [List.map_cons, interfaceClosure, interfaceClosure, hseen]
          split
          · exact ih pending known methods
          · rw [foldedFind_lower hfind, bind_map_left, map_bind]
            refine bind_congr_ok fun found _ => ?_
            cases found with
            | none => simp only [Option.map_none, htaken, ih]
            | some i => simp only [Option.map_some, ClassInfo.folded, htaken, ← List.map_append, ih]

lemma parentOf_folded (c : ClassInfo) :
    parentOf (foldedFind find) c.folded = Option.map ClassInfo.folded <$> parentOf find c := by
  unfold parentOf
  cases hparent : c.parent with
  | none => simp [ClassInfo.folded, hparent]
  | some name => simp [ClassInfo.folded, hparent, foldedFind_lower hfind]

omit hfind in
lemma run_mapM_folded {f g : ClassInfo → Resolving (Except SourceError) ClassInfo}
    (hsame : ∀ c stack, (f c.folded).run stack = Prod.map ClassInfo.folded id <$> (g c).run stack)
    (parent : Option ClassInfo) (stack : List String) :
    ((parent.map ClassInfo.folded).mapM f).run stack =
      Prod.map (Option.map ClassInfo.folded) id <$> (parent.mapM g).run stack := by
  cases parent with
  | none => rfl
  | some p =>
      simp only [Option.map_some, Option.mapM_some, StateT.run_map, hsame, Functor.map_map]
      rfl

/-- A folded class resolves to the folded result, and fails as the class itself does. -/
lemma run_assemble_folded (size depth : Nat) (c : ClassInfo) (stack : List String) :
    (assemble (foldedFind find) size depth c.folded).run stack =
      Prod.map ClassInfo.folded id <$> (assemble find size depth c).run stack := by
  induction depth generalizing c stack with
  | zero => rfl
  | succ depth ih =>
      rw [run_assemble_succ, run_assemble_succ, folded_name, folded_traits, methodsOfTraits_folded hfind,
        parentOf_folded hfind]
      by_cases hstack : Text.lower c.name ∈ stack
      · rw [if_pos hstack, if_pos hstack]
        rfl
      rw [if_neg hstack, if_neg hstack, map_bind]
      refine bind_congr_ok fun p _ => ?_
      rw [map_bind, bind_map_left]
      refine bind_congr_ok fun parent _ => ?_
      rw [run_mapM_folded ih, map_bind, bind_map_left]
      refine bind_congr_ok fun q _ => ?_
      -- the inherited interfaces are the same but for their letters, so the work list starts alike
      have hclosure := interfaceClosure_folded hfind
        (closureSteps ((c.withTraits p.1).withParent q.1).interfaces.length size)
        ((c.withTraits p.1).withParent q.1).interfaces [] []
      rw [List.map_nil] at hclosure
      simp only [Prod.map_fst, Prod.map_snd, withTraits_folded, withParent_folded, folded_interfaces,
        List.length_map, hclosure, map_bind, bind_map_left, withInterfaces_folded]
      rfl

/-- A search that looks at folded descriptions only finds the folded class. -/
lemma findWith_folded (size : Nat) (name : String) :
    findWith (foldedFind find) size name = ClassInfo.folded <$> findWith find size name := by
  rw [findWith, findWith, foldedFind, map_bind, bind_map_left]
  refine bind_congr_ok fun found _ => ?_
  cases found with
  | none => rfl
  | some c =>
      simp only [Option.map_some, StateT.run'_eq, run_assemble_folded hfind, Functor.map_map]
      rfl

end

/-! ## Files -/

section

variable {files other : List Content}

lemma caseless_lookupIn (files : List Content) : Caseless (lookupIn files) :=
  fun name kind => lookupIn_eq_of_lower (lower_lower name) kind

/-- A search in files whose declarations are folded already. -/
def lookupFolded (name : String) (kind : Kind) :
    List (Except AccessFailure (Option (List Declared))) → Except SourceError (Option ClassInfo)
  | [] => .ok none
  | .error failure :: _ => .error (.unreadable failure)
  | .ok declared :: rest =>
    match (declared.getD []).find? (·.answers name kind) with
    | some d => some <$> ClassInfo.folded <$> d.describe
    | none => lookupFolded name kind rest

lemma find?_map_folded (name : String) (kind : Kind) (l : List Declared) :
    (l.map Declared.folded).find? (·.answers name kind) =
      (l.find? (·.answers name kind)).map Declared.folded :=
  List.find?_map

/-- What is found, up to folding, is told by the folded declarations. -/
lemma foldedFind_lookupIn (files : List Content) (name : String) (kind : Kind) :
    foldedFind (lookupIn files) name kind = lookupFolded name kind (files.map Content.folded) := by
  rw [foldedFind, lookupIn]
  induction files with
  | nil => rfl
  | cons file rest ih =>
      cases file with
      | unreadable failure => rfl
      | notText => exact ih
      | text s =>
          simp only [lookup, List.map_cons, Content.folded, Content.declarations, lookupFolded]
          cases declarations? s with
          | none => exact ih
          | some l =>
              simp only [Option.map_some, Option.getD_some, find?_map_folded]
              cases l.find? (·.answers name kind) with
              | none => exact ih
              | some d =>
                  simp only [Option.map_some, describe_folded, Functor.map_map]

/-- A class is found under all the spellings of its name, and is missing under all of them. -/
lemma classNamed_spelled (files : List Content) {name spelled : String}
    (h : Text.lower (plainName name) = Text.lower (plainName spelled)) :
    classNamed files name = classNamed files spelled ∨
      classNamed files name = .error (.classNotFound (plainName name)) ∧
        classNamed files spelled = .error (.classNotFound (plainName spelled)) := by
  rw [classNamed_eq, classNamed_eq, findWith, findWith, lookupIn_eq_of_plainName h]
  cases lookupIn files spelled .classKind with
  | error e => exact Or.inl rfl
  | ok found =>
      cases found with
      | none => exact Or.inr ⟨rfl, rfl⟩
      | some c => exact Or.inl rfl

/-- Sources with the same folded declarations have the same classes up to folding. -/
lemma classNamed_folded (h : files.map Content.folded = other.map Content.folded) (name : String) :
    ClassInfo.folded <$> classNamed files name = ClassInfo.folded <$> classNamed other name := by
  have hfind : foldedFind (lookupIn files) = foldedFind (lookupIn other) := by
    funext name kind
    rw [foldedFind_lookupIn, foldedFind_lookupIn, h]
  let large := max (extent files) (extent other)
  calc ClassInfo.folded <$> classNamed files name
      = ClassInfo.folded <$> findWith (lookupIn files) large name := by
        rw [findWith_extent (Nat.le_max_left _ _)]
    _ = findWith (foldedFind (lookupIn files)) large name :=
        (findWith_folded (caseless_lookupIn files) large name).symm
    _ = ClassInfo.folded <$> findWith (lookupIn other) large name := by
        rw [hfind, findWith_folded (caseless_lookupIn other)]
    _ = ClassInfo.folded <$> classNamed other name := by
        rw [findWith_extent (Nat.le_max_right _ _)]

end

/-- The same cause, but for the spelling under which a missing class was asked for. -/
inductive SourceError.Alike : SourceError → SourceError → Prop where
  | same (e : SourceError) : Alike e e
  | missing {name spelled : String} (h : Text.caselessEq name spelled = true) :
      Alike (.classNotFound name) (.classNotFound spelled)

lemma forall₂_caselessEq {a b : List String} (h : a.map Text.lower = b.map Text.lower) :
    List.Forall₂ (fun i j => Text.caselessEq i j = true) a b := by
  simp only [Text.caselessEq_iff]
  rwa [← List.forall₂_eq_eq_eq, List.forall₂_map_left_iff, List.forall₂_map_right_iff] at h

/-- For any two lists of files that differ, in what they declare, only in the letters of the names that the
declarations are built on, and for any two spellings of a class: it is found in both or in neither.  Found,
it has the same name and methods, and the same interfaces in the same order up to the case of letters;
otherwise the cause is the same. -/
theorem references_caseless (files other : List Content) (name spelled : String)
    (hfiles : files.map Content.folded = other.map Content.folded)
    (hname : Text.lower (plainName name) = Text.lower (plainName spelled)) :
    (∃ c d, classNamed files name = .ok c ∧ classNamed other spelled = .ok d ∧
      c.name = d.name ∧ c.isAbstract = d.isAbstract ∧ c.methods = d.methods ∧
      List.Forall₂ (fun i j => Text.caselessEq i j = true) c.interfaces d.interfaces) ∨
    ∃ e e', classNamed files name = .error e ∧ classNamed other spelled = .error e' ∧ e.Alike e' := by
  have hfolded := classNamed_folded hfiles name
  rcases classNamed_spelled other hname with hsame | ⟨hmissing, hspelled⟩
  · rw [hsame] at hfolded
    rcases cases_of_map_eq hfolded with ⟨c, d, hc, hd, hcd⟩ | ⟨e, hc, hd⟩
    · rw [ClassInfo.folded, ClassInfo.folded, ClassInfo.mk.injEq] at hcd
      obtain ⟨hcname, -, hinterfaces, -, habstract, hmethods⟩ := hcd
      exact Or.inl ⟨c, d, hc, hd, hcname, habstract, hmethods, forall₂_caselessEq hinterfaces⟩
    · exact Or.inr ⟨e, e, hc, hd, .same e⟩
  · rw [hmissing] at hfolded
    rcases cases_of_map_eq hfolded with ⟨_, _, _, hd, _⟩ | ⟨e, hc, hd⟩
    · cases hd
    · cases hd
      exact Or.inr ⟨_, _, hc, hspelled, .missing (Text.caselessEq_iff.2 hname)⟩

/-- A declaration without its methods. -/
structure Head where
  name : String
  scope : Scope
  kind : Kind
  ownName : String
  isAbstract : Bool
  bases : List String
  interfaces : List String
  traits : List String
  deriving DecidableEq

/-- The declaration with this head and without methods. -/
def Head.declared (h : Head) : Declared :=
  ⟨h.name, h.scope, ⟨h.kind, h.ownName, h.isAbstract, h.bases, h.interfaces, h.traits, []⟩⟩

/-- The head of a folded declaration. -/
def Declared.foldedHead (d : Declared) : Head :=
  ⟨d.name, d.scope, d.decl.kind, d.decl.name, d.decl.isAbstract, d.decl.bases.map Text.lower,
    d.decl.interfaces.map Text.lower, d.decl.traits.map Text.lower⟩

/-- The folded heads of what a text declares; `none` if it breaks the grammar or there are methods. -/
def foldedHeads? (s : String) : Option (List Head) :=
  (declarations? s).bind fun l =>
    if l.all fun d => d.decl.methods.isEmpty then some (l.map Declared.foldedHead) else none

/-- Without methods, the heads tell the folded declarations. -/
lemma folded_of_foldedHeads? {s : String} {heads : List Head} (h : foldedHeads? s = some heads) :
    (Content.text s).folded = .ok (some (heads.map Head.declared)) := by
  obtain ⟨l, hl, hheads⟩ := Option.bind_eq_some_iff.1 h
  split at hheads
  · next hempty =>
    cases hheads
    have hsame : ∀ d ∈ l, d.folded = d.foldedHead.declared := by
      intro d hd
      have hmethods : d.decl.methods = [] := List.isEmpty_iff.1 (List.all_eq_true.1 hempty d hd)
      simp [Declared.folded, Declared.foldedHead, Head.declared, hmethods]
    rw [Content.folded, hl, Option.map_some, List.map_congr_left hsame, List.map_map]
    rfl
  · cases hheads

/-- A class with a parent, an imported trait and an interface, and another interface. -/
def shopText : String :=
  "<?php namespace Shop; use Log\\T; class A extends B implements I \x7b use T; \x7d " ++
    "interface J extends I \x7b\x7d"

/-- The same with other letters in the names that the two are built on. -/
def respelledText : String :=
  "<?php namespace Shop; use Log\\T; class A extends b implements i \x7b use t; \x7d " ++
    "interface J extends i \x7b\x7d"

/-- What both of them declare. -/
def shopHeads : List Head :=
  [⟨"Shop\\A", ⟨"Shop", [("t", "Log\\T")]⟩, .classKind, "A", false, ["b"], ["i"], ["t"]⟩,
    ⟨"Shop\\J", ⟨"Shop", [("t", "Log\\T")]⟩, .interfaceKind, "J", false, ["i"], [], []⟩]

/-- What the class is built on. -/
def stockFile : Content :=
  .text ("<?php namespace Log; trait T \x7b function g() \x7b\x7d \x7d " ++
    "namespace Shop; class B \x7b\x7d interface I extends J \x7b function f(); \x7d")

set_option maxRecDepth 100000 in
/-- The class is found in both.  Its list of interfaces has the letters of the names as they are written. -/
theorem references_caseless_shop :
    (∃ c d, classNamed [.text shopText, stockFile] "Shop\\A" = .ok c ∧
      classNamed [.text respelledText, stockFile] "\\\\shop\\a" = .ok d ∧
      c.name = d.name ∧ c.isAbstract = d.isAbstract ∧ c.methods = d.methods ∧
      List.Forall₂ (fun i j => Text.caselessEq i j = true) c.interfaces d.interfaces) ∧
    (classNamed [.text shopText, stockFile] "Shop\\A").toOption.map (·.interfaces) =
      some ["Shop\\I", "Shop\\J"] ∧
    (classNamed [.text respelledText, stockFile] "Shop\\A").toOption.map (·.interfaces) =
      some ["Shop\\i", "Shop\\J"] := by
  have hfacts : foldedHeads? shopText = some shopHeads ∧ foldedHeads? respelledText = some shopHeads ∧
      (classNamed [.text shopText, stockFile] "Shop\\A").toOption.map (·.interfaces) =
        some ["Shop\\I", "Shop\\J"] ∧
      (classNamed [.text respelledText, stockFile] "Shop\\A").toOption.map (·.interfaces) =
        some ["Shop\\i", "Shop\\J"] := by
    decide +kernel
  obtain ⟨hshop, hrespelled, hresult⟩ := hfacts
  have hfiles : [.text shopText, stockFile].map Content.folded =
      [.text respelledText, stockFile].map Content.folded := by
    simp only [List.map_cons, folded_of_foldedHeads? hshop, folded_of_foldedHeads? hrespelled]
  refine ⟨?_, hresult⟩
  rcases references_caseless [.text shopText, stockFile] [.text respelledText, stockFile] "Shop\\A"
    "\\\\shop\\a" hfiles (by decide +kernel) with hfound | ⟨e, e', herror, -⟩
  · exact hfound
  · rw [herror] at hresult
    cases hresult.1

/-- A class whose parent has this name. -/
def childFile (parent : String) : Content :=
  .text ("<?php class A extends " ++ parent ++ " \x7b\x7d")

set_option maxRecDepth 100000 in
/-- The word `self` in small letters cannot begin a longer name, so that the file is passed over; in other
letters it can. -/
theorem small_self_unreadable :
    Text.caselessEq "Self\\B" "self\\B" = true ∧
    (classNamed [childFile "Self\\B"] "A").isOk = true ∧
    classNamed [childFile "self\\B"] "A" = .error (.classNotFound "A") :=
  ⟨by decide, by decide +kernel, eq_error_of_errorOf (by decide +kernel)⟩

end PhpInterface
