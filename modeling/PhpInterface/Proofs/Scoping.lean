import Mathlib.Data.List.DropRight
import Mathlib.Data.List.Forall2
import PhpInterface.Description.Declared

/-!
# The scope of a declaration

The items of a file are walked through with a scope that some of them change.  One kind of item starts it
anew, one adds to it, and one puts it aside for a while.  What a declaration finds after all these changes
can be said without the walk.  It depends on the place of the declaration only: on the name of the block
around it, and on the items before it in this block (`Site`).

* The namespace is the last that was entered in the block, or else that of the block.
* What is imported are the classes of the import statements since then, under their aliases, and of two
  aliases that differ in the case of their letters at most the later one counts.

Both halves of `declarations_scoped` rest on this: the scope of every declaration of a file, and that
nothing else in the file has a say in it.  For the second half a file is cut open at the block in question
(`fill`), however deep it lies.
-/

namespace PhpInterface

open Source

/-! ## Places -/

/-- A place at which a declaration stands: the name of the block around it, and the items before it in this
block.  The file is a block without a name. -/
structure Site where
  block : String
  before : List Item
  decl : TypeDecl

namespace Source

mutual

/-- The places of the declarations of an item, which stands itself after these items of this block. -/
def Item.sites (block : String) (before : List Item) : Item → List Site
  | .enter _ => []
  | .block space items => sitesIn space [] items
  | .imports _ => []
  | .declaration d => [⟨block, before, d⟩]

/-- The places of the declarations of some items, the first of which stands after these items of this
block. -/
def sitesIn (block : String) (before : List Item) : List Item → List Site
  | [] => []
  | item :: rest => item.sites block before ++ sitesIn block (before ++ [item]) rest

end

/-- The namespace that an item enters for the rest of its block. -/
def Item.entered? : Item → Option String
  | .enter space => some space
  | _ => none

/-- The alias that a clause gives to a name, with the name: the alias that is written, or else the last
segment. -/
def ImportClause.known (c : ImportClause) (full : String) : String × String :=
  (c.alias?.getD (String.ofList (Text.lastPiece separator full.toList)), full)

/-- The aliases of classes that an item brings, each with the full name that it stands for.  In a group the
outer name is put in front, and functions and constants are left out. -/
def Item.aliases : Item → List (String × String)
  | .imports (.names clauses) =>
    (clauses.filter (!·.foreign)).map fun c => c.known (dropBackslashes c.name)
  | .imports (.group false outer clauses) =>
    (clauses.filter (!·.foreign)).map fun c =>
      c.known (dropBackslashes (outer ++ "\\" ++ dropBackslashes c.name))
  | _ => []

end Source

/-- The namespace after some items of a block: the last that was entered, or else that of the block. -/
def namespaceAt (block : String) (before : List Item) : String :=
  (before.reverse.findSome? Item.entered?).getD block

/-- The aliases that items of a block bring since the last of them that enters a namespace. -/
def aliasesAt (before : List Item) : List (String × String) :=
  (before.rtakeWhile fun item => item.entered?.isNone).flatMap Item.aliases

/-- A declaration is the one that stands at a place, and its scope is the one that the place gives it. -/
structure Declared.StandsAt (d : Declared) (s : Site) : Prop where
  decl : d.decl = s.decl
  name : d.name = d.scope.declaredName s.decl.name
  /-- the namespace, with no separator at either end -/
  space : d.scope.space = String.ofList (Scope.trimBoth (namespaceAt s.block s.before).toList)
  /-- the last alias counts, whatever the case of its letters -/
  imported : ∀ aliasText, d.scope.imported? aliasText =
    ((aliasesAt s.before).reverse.find? fun p => Text.caselessEq p.1 aliasText).map Prod.snd

/-! ## The walk -/

/-- The scope after some items of a block, as a walk has it. -/
def scopeAt (block : String) (before : List Item) : Scope :=
  before.foldl (fun scope item => item.scopeAfter scope) (.ofNamespace block)

/-- The declaration at a place. -/
def Site.declared (s : Site) : Declared :=
  ⟨(scopeAt s.block s.before).declaredName s.decl.name, scopeAt s.block s.before, s.decl⟩

section

variable (block : String) (before : List Item) (item : Item)

lemma scopeAt_concat : scopeAt block (before ++ [item]) = item.scopeAfter (scopeAt block before) := by
  simp [scopeAt]

lemma namespaceAt_concat :
    namespaceAt block (before ++ [item]) = item.entered?.getD (namespaceAt block before) := by
  cases h : item.entered? <;> simp [namespaceAt, h]

lemma aliasesAt_concat :
    aliasesAt (before ++ [item]) =
      if item.entered?.isNone then aliasesAt before ++ item.aliases else [] := by
  cases h : item.entered? <;> simp [aliasesAt, h]

end

mutual

lemma declared_eq_sites (block : String) (before : List Item) :
    ∀ item : Item, item.declared (scopeAt block before) = (item.sites block before).map Site.declared
  | .enter _ => rfl
  | .block space items => declaredIn_eq_sites space [] items
  | .imports _ => rfl
  | .declaration _ => rfl

/-- The walk comes to the declarations at their places, each with the scope of its place. -/
lemma declaredIn_eq_sites (block : String) (before : List Item) :
    ∀ items : List Item, declaredIn (scopeAt block before) items =
      (sitesIn block before items).map Site.declared
  | [] => rfl
  | item :: rest => by
      rw [declaredIn, sitesIn, List.map_append, declared_eq_sites block before item, ← scopeAt_concat,
        declaredIn_eq_sites block (before ++ [item]) rest]

end

/-! ## Aliases -/

/-- The alias that an import gives, with the name that it stands for. -/
def Source.Import.known (i : Import) : String × String :=
  (i.alias?.getD (String.ofList (Text.lastPiece separator (dropBackslashes i.name).toList)),
    dropBackslashes i.name)

/-- Backslashes in front of the first part of a name may be dropped before the parts are joined. -/
lemma dropBackslashes_append (outer name : String) :
    dropBackslashes (dropBackslashes outer ++ name) = dropBackslashes (outer ++ name) := by
  have hdrop : ∀ a b : List Char,
      (a.dropWhile (· == '\\') ++ b).dropWhile (· == '\\') = (a ++ b).dropWhile (· == '\\') := by
    intro a b
    induction a with
    | nil => rfl
    | cons c a ih =>
        rw [List.cons_append, List.dropWhile_cons, List.dropWhile_cons]
        split
        · exact ih
        · next hc => rw [List.cons_append, List.dropWhile_cons, if_neg hc]
  simp only [dropBackslashes, String.toList_append, String.toList_ofList, hdrop]

lemma filterMap_class? (clauses : List ImportClause) :
    clauses.filterMap (·.class?) = (clauses.filter (!·.foreign)).map fun c => ⟨c.name, c.alias?⟩ := by
  induction clauses with
  | nil => rfl
  | cons c rest ih =>
      rw [List.filterMap_cons, ih, ImportClause.class?]
      cases h : c.foreign <;> simp [h]

/-- The aliases that an import statement brings are those of the classes that it imports. -/
lemma aliases_imports (u : ImportStatement) : (Item.imports u).aliases = u.classes.map Import.known := by
  cases u with
  | names clauses =>
      rw [Item.aliases, ImportStatement.classes, filterMap_class?, List.map_map]
      rfl
  | group foreign outer clauses =>
      cases foreign with
      | true => rfl
      | false =>
          have hfull : ∀ c : ImportClause,
              c.known (dropBackslashes (outer ++ "\\" ++ dropBackslashes c.name)) =
                ((Import.mk c.name c.alias?).below outer).known := by
            intro c
            simp only [Import.known, ImportClause.known, Import.below, String.append_assoc,
              dropBackslashes_append]
          rw [Item.aliases, ImportStatement.classes, filterMap_class?, if_neg Bool.false_ne_true,
            List.map_map, List.map_map]
          exact List.map_congr_left fun c _ => hfull c

/-- The imports of a scope are these aliases, the latest in front. -/
def Scope.Knows (scope : Scope) (aliases : List (String × String)) : Prop :=
  scope.imports = (aliases.map fun p => (Text.lower p.1, p.2)).reverse

lemma Scope.Knows.importAll {scope : Scope} {aliases : List (String × String)} (h : scope.Knows aliases)
    (l : List Import) : (importAll scope l).Knows (aliases ++ l.map Import.known) := by
  induction l generalizing scope aliases with
  | nil => simpa [Source.importAll] using h
  | cons i rest ih =>
      have hnext : (scope.importing i.name i.alias?).Knows (aliases ++ [i.known]) := by
        rw [Knows] at h ⊢
        rw [importing, h, List.map_append, List.reverse_append]
        simp [Import.known, dropBackslashes, trimLeft, separator]
      simpa [Source.importAll] using ih hnext

/-- Where a scope knows these aliases, the last one of a name counts, whatever the case of its letters. -/
lemma Scope.Knows.imported?_eq {scope : Scope} {aliases : List (String × String)} (h : scope.Knows aliases)
    (aliasText : String) :
    scope.imported? aliasText =
      (aliases.reverse.find? fun p => Text.caselessEq p.1 aliasText).map Prod.snd := by
  rw [imported?, h, ← List.map_reverse]
  induction aliases.reverse with
  | nil => rfl
  | cons p rest ih =>
      rw [List.map_cons, List.lookup_cons, List.find?_cons, Text.caselessEq,
        BEq.comm (a := Text.lower aliasText)]
      cases Text.lower p.1 == Text.lower aliasText with
      | true => rfl
      | false => exact ih

/-! ## The scope at a place -/

lemma space_importAll (scope : Scope) (l : List Import) : (importAll scope l).space = scope.space := by
  induction l generalizing scope with
  | nil => rfl
  | cons i rest ih => exact ih (scope.importing i.name i.alias?)

/-- The namespace of the scope after some items.  The last item is the one that counts, so the induction
starts at the end. -/
lemma space_scopeAt (block : String) (before : List Item) :
    (scopeAt block before).space = String.ofList (Scope.trimBoth (namespaceAt block before).toList) := by
  induction before using List.reverseRecOn with
  | nil => rfl
  | append_singleton before item ih =>
      rw [scopeAt_concat, namespaceAt_concat]
      cases item with
      | enter space => rfl
      | block space items => exact ih
      | imports u => exact (space_importAll _ u.classes).trans ih
      | declaration d => exact ih

lemma knows_scopeAt (block : String) (before : List Item) :
    (scopeAt block before).Knows (aliasesAt before) := by
  induction before using List.reverseRecOn with
  | nil => rfl
  | append_singleton before item ih =>
      rw [scopeAt_concat, aliasesAt_concat]
      cases item with
      | enter space => rfl
      | block space items => simpa [Item.entered?, Item.aliases, Item.scopeAfter] using ih
      | imports u => simpa [Item.entered?, Item.scopeAfter, aliases_imports] using ih.importAll u.classes
      | declaration d => simpa [Item.entered?, Item.aliases, Item.scopeAfter] using ih

lemma Site.standsAt_declared (s : Site) : s.declared.StandsAt s where
  decl := rfl
  name := rfl
  space := space_scopeAt s.block s.before
  imported := (knows_scopeAt s.block s.before).imported?_eq

/-- All declarations of some items at their places. -/
lemma forall₂_standsAt (items : List Item) :
    List.Forall₂ Declared.StandsAt (declaredIn {} items) (sitesIn "" [] items) := by
  have hwalk : declaredIn {} items = (sitesIn "" [] items).map Site.declared :=
    declaredIn_eq_sites "" [] items
  rw [hwalk, List.forall₂_map_left_iff, List.forall₂_same]
  intro s _
  exact s.standsAt_declared

/-! ## What has no say -/

/-- A block with what stands before and after it. -/
structure Level where
  before : List Item
  space : String
  after : List Item

/-- The items of a file, given the blocks around a point from the outermost to the innermost, and the
content of the innermost. -/
def fill : List Level → List Item → List Item
  | [], content => content
  | level :: inner, content => level.before ++ .block level.space (fill inner content) :: level.after

/-- The name of the innermost of some blocks, the outermost of which stands in this one. -/
def innermost (block : String) : List Level → String
  | [] => block
  | level :: inner => innermost level.space inner

lemma declaredIn_append (scope : Scope) (a b : List Item) :
    declaredIn scope (a ++ b) =
      declaredIn scope a ++ declaredIn (a.foldl (fun scope item => item.scopeAfter scope) scope) b := by
  induction a generalizing scope with
  | nil => rfl
  | cons item a ih => rw [List.cons_append, declaredIn, ih, declaredIn, List.append_assoc, List.foldl_cons]

/-- The declarations outside of a block are the same whatever it holds, and those inside depend on nothing
outside but the block's name. -/
lemma exists_declaredIn_fill (block : String) (levels : List Level) :
    ∃ first last, ∀ content, declaredIn (.ofNamespace block) (fill levels content) =
      first ++ declaredIn (.ofNamespace (innermost block levels)) content ++ last := by
  induction levels generalizing block with
  | nil => exact ⟨[], [], fun content => by simp [fill, innermost]⟩
  | cons level inner ih =>
      obtain ⟨first, last, hinner⟩ := ih level.space
      refine ⟨declaredIn (.ofNamespace block) level.before ++ first,
        last ++ declaredIn (scopeAt block level.before) level.after, ?_⟩
      intro content
      rw [fill, declaredIn_append, declaredIn, Item.declared, hinner, innermost, Item.scopeAfter]
      simp only [List.append_assoc]
      rfl

/-! ## Files -/

/-- Every declaration of a file has the name and the scope that its place gives it.  Of two files that
differ inside one block only, the declarations outside of it are the same, and those inside depend on
nothing outside of the block but its name.  And what comes after a declaration does not change it: the
declarations of a part of a block stay the first ones when the block goes on. -/
theorem declarations_scoped {text : String} {items : List Item} (h : items? text = some items) :
    (∃ l, declarations? text = some l ∧ List.Forall₂ Declared.StandsAt l (sitesIn "" [] items)) ∧
    (∀ levels, ∃ first last, ∀ content other, items? other = some (fill levels content) →
      declarations? other =
        some (first ++ declaredIn (.ofNamespace (innermost "" levels)) content ++ last)) ∧
    (∀ scope content more, declaredIn scope content <+: declaredIn scope (content ++ more)) := by
  refine ⟨⟨declaredIn {} items, ?_, forall₂_standsAt items⟩, ?_, ?_⟩
  · rw [declarations?, h, Option.map_some]
  · intro levels
    obtain ⟨first, last, hfill⟩ := exists_declaredIn_fill "" levels
    refine ⟨first, last, fun content other hother => ?_⟩
    rw [declarations?, hother, Option.map_some, ← hfill content]
    rfl
  · intro scope content more
    rw [declaredIn_append]
    exact List.prefix_append _ _

/-- Namespaces of both forms, one of them inside another, and imports of every kind.  The alias `Y` is
imported twice, and the function `f` and the constant `y` do not count. -/
def scopedText : String :=
  "<?php
namespace A;
use X\\Y, function F\\f, X\\Z as y;
class C extends Y \x7b\x7d
namespace B \x7b
  use P\\\x7bQ, const y, S as T\x7d;
  class D extends t \x7b\x7d
  namespace N;
  class E extends T \x7b\x7d
  namespace M\\O \x7b interface I extends Y \x7b\x7d use X\\Y; \x7d
  trait U \x7b\x7d
\x7d
class F extends \\A\\C \x7b use Y, f; \x7d"

set_option maxRecDepth 100000 in
theorem declarations_scoped_mixed :
    ∃ items l, items? scopedText = some items ∧ declarations? scopedText = some l ∧
      List.Forall₂ Declared.StandsAt l (sitesIn "" [] items) ∧
      l.map (fun d => (d.name, (d.decl.bases ++ d.decl.traits).map d.scope.resolve)) =
        [("A\\C", ["X\\Z"]), ("B\\D", ["P\\S"]), ("N\\E", ["N\\T"]), ("M\\O\\I", ["M\\O\\Y"]),
          ("N\\U", []), ("A\\F", ["A\\C", "X\\Z", "A\\f"])] := by
  have hnames : ((declarations? scopedText).map fun l =>
      l.map fun d => (d.name, (d.decl.bases ++ d.decl.traits).map d.scope.resolve)) =
        some [("A\\C", ["X\\Z"]), ("B\\D", ["P\\S"]), ("N\\E", ["N\\T"]),
          ("M\\O\\I", ["M\\O\\Y"]), ("N\\U", []), ("A\\F", ["A\\C", "X\\Z", "A\\f"])] := by
    decide +kernel
  obtain ⟨_, hdeclared, -⟩ := Option.map_eq_some_iff.1 hnames
  obtain ⟨items, hitems, -⟩ := Option.map_eq_some_iff.1 hdeclared
  obtain ⟨⟨l, hl, hstands⟩, -⟩ := declarations_scoped hitems
  rw [hl, Option.map_some] at hnames
  exact ⟨items, l, hitems, hl, hstands, Option.some.inj hnames⟩

end PhpInterface
