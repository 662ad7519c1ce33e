import PhpInterface.Proofs.Delivery
import PhpInterface.Proofs.Precedence
import PhpInterface.Proofs.WrittenNames
import PhpInterface.Selection

/-!
# Whatever is found can be printed

Printing fails where a signature mentions a class whose name is no qualified name.  The names that come to a
signature go a long way: they are read from the file, lose a separator in front, are put below a namespace
or below an import, and are handed on through traits, parents and interfaces.  Every step of that way keeps
them names, if they are written without gaps between their segments (`found_printable`).

The invariant is on scopes (`Scope.WellFormed`): the namespace and all that is imported are names with no
separator in front.  It holds at the beginning of a file and after every item of it, and in a well-formed
scope a name resolves to a name.

A gap in a name does come through.  That is so for spaces and comments, and also for the page between a
closing and an opening tag (`paged_name_unprintable`), which is no part of the program.
-/

namespace PhpInterface

open Source

/-! ## Scopes -/

/-- A name as it is written without gaps: a separator may stand in front. -/
def IsPlainName (name : String) : Prop :=
  IsNameText (QualifiedName.dropRoot name.toList)

/-- The namespace, if there is one, and all imports are names with no separator in front. -/
structure Scope.WellFormed (scope : Scope) : Prop where
  space : scope.space = "" ∨ IsNameText scope.space.toList
  imports : ∀ entry ∈ scope.imports, IsNameText entry.2.toList

namespace Scope

lemma wellFormed_empty : Scope.WellFormed {} where
  space := Or.inl rfl
  imports := by simp

/-- A separator in front is all that trimming takes off a name. -/
lemma trimLeft_eq_dropRoot {t : List Char} (h : IsNameText (QualifiedName.dropRoot t)) :
    trimLeft t = QualifiedName.dropRoot t := by
  cases t with
  | nil => rfl
  | cons c rest =>
      by_cases hc : c = separator
      · rw [QualifiedName.dropRoot, if_pos hc] at h ⊢
        rw [hc, trimLeft_cons_separator, trimLeft_of_isNameText h]
      · rw [QualifiedName.dropRoot, if_neg hc] at h ⊢
        exact trimLeft_of_isNameText h

lemma wellFormed_ofNamespace {space : String} (h : IsPlainName space) :
    (ofNamespace space).WellFormed where
  space := by
    have htrim : trimBoth space.toList = QualifiedName.dropRoot space.toList := by
      have hboth := trimBoth_of_isNameText h
      rw [trimBoth, trimLeft_of_isNameText h] at hboth
      rw [trimBoth, trimLeft_eq_dropRoot h, hboth]
    right
    rw [ofNamespace, htrim, String.toList_ofList]
    exact h
  imports := by simp [ofNamespace]

lemma WellFormed.importing {scope : Scope} (hscope : scope.WellFormed) {name : String}
    (h : IsPlainName name) (alias? : Option String) : (scope.importing name alias?).WellFormed where
  space := hscope.space
  imports := by
    intro entry hentry
    rcases List.mem_cons.1 hentry with rfl | hentry
    · rw [String.toList_ofList, trimLeft_eq_dropRoot h]
      exact h
    · exact hscope.imports entry hentry

lemma WellFormed.isNameText_declaredName {scope : Scope} (hscope : scope.WellFormed) {name : String}
    (h : IsNameText name.toList) : IsNameText (scope.declaredName name).toList := by
  rw [declaredName]
  split
  · exact h
  · next hspace =>
    rcases hscope.space with hempty | hname
    · exact absurd (String.isEmpty_iff.2 hempty) hspace
    · simpa using hname.append h

lemma WellFormed.isNameText_imported? {scope : Scope} (hscope : scope.WellFormed) {word full : String}
    (h : scope.imported? word = some full) : IsNameText full.toList := by
  obtain ⟨before, after, himports, _⟩ := List.lookup_eq_some_iff.1 h
  exact hscope.imports (Text.lower word, full) (by rw [himports]; simp)

/-- In a well-formed scope a name means a name with no separator in front. -/
lemma WellFormed.isNameText_resolve {scope : Scope} (hscope : scope.WellFormed) {name : String}
    (h : IsPlainName name) : IsNameText (scope.resolve name).toList := by
  rw [IsPlainName] at h
  cases hname : name.toList with
  | nil =>
      rw [hname] at h
      obtain ⟨c, rest, hcons, _⟩ := h.exists_cons
      cases hcons
  | cons c rest =>
      by_cases hc : c = separator
      · -- a name in full
        rw [hname, QualifiedName.dropRoot, if_pos hc] at h
        rw [resolve, hname, hc, Text.cut?, if_pos rfl]
        simpa using h
      · rw [hname, QualifiedName.dropRoot, if_neg hc, ← hname] at h
        rcases h.segment_or_append with hsegment | ⟨w, below, hw, hbelow, heq⟩
        · rw [resolve_of_isSegment scope hsegment]
          cases himport : scope.imported? name with
          | none => exact hscope.isNameText_declaredName h
          | some full => exact hscope.isNameText_imported? himport
        · obtain ⟨d, more, rfl⟩ := List.exists_cons_of_ne_nil (ne_nil_of_isSegment hw)
          rw [resolve, heq, Text.cut?_append (separator_not_mem_of_isSegment hw)]
          dsimp only
          split
          · exact hscope.isNameText_declaredName (by simpa using hbelow)
          · split
            · next full himport => simpa using (hscope.isNameText_imported? himport).append hbelow
            · exact hscope.isNameText_declaredName h

end Scope

/-! ## Declarations -/

/-- All these names are written without gaps. -/
def AllPlain (names : List String) : Prop :=
  ∀ name ∈ names, IsPlainName name

lemma allPlain_append {a b : List String} : AllPlain (a ++ b) ↔ AllPlain a ∧ AllPlain b :=
  List.forall_mem_append

/-- A declaration in a well-formed scope, with the names in its types written without gaps. -/
def Declared.Sound (d : Declared) : Prop :=
  d.scope.WellFormed ∧ AllPlain d.decl.typeNames

lemma wellFormed_importAll {scope : Scope} (hscope : scope.WellFormed) {l : List Import}
    (h : AllPlain (l.map (·.name))) : (importAll scope l).WellFormed := by
  induction l generalizing scope with
  | nil => exact hscope
  | cons i rest ih =>
      rw [importAll, List.foldl_cons]
      refine ih (hscope.importing (h i.name (by simp)) i.alias?) ?_
      intro name hname
      exact h name (List.mem_cons_of_mem _ hname)

lemma wellFormed_scopeAfter {scope : Scope} (hscope : scope.WellFormed) {item : Item}
    (h : AllPlain item.names) : (item.scopeAfter scope).WellFormed := by
  cases item with
  | enter space => exact Scope.wellFormed_ofNamespace (h space (by simp [Item.names]))
  | block space items => exact hscope
  | imports l => exact wellFormed_importAll hscope h
  | declaration d => exact hscope

mutual

lemma sound_of_mem_declared {scope : Scope} (hscope : scope.WellFormed) :
    ∀ {item : Item}, AllPlain item.names → ∀ d ∈ item.declared scope, d.Sound
  | .enter _, _, d, hd => by simp [Item.declared] at hd
  | .block space items, h, d, hd => by
      rw [Item.names, allPlain_append] at h
      refine sound_of_mem_declaredIn ?_ h.2 d hd
      by_cases hspace : space.isEmpty = true
      · rw [String.isEmpty_iff.1 hspace]
        exact Scope.wellFormed_empty
      · rw [if_neg hspace] at h
        exact Scope.wellFormed_ofNamespace (h.1 space (by simp))
  | .imports _, _, d, hd => by simp [Item.declared] at hd
  | .declaration decl, h, d, hd => by
      rw [Item.declared, List.mem_singleton] at hd
      rw [hd]
      exact ⟨hscope, h⟩

/-- Every declaration of a file stands in a well-formed scope. -/
lemma sound_of_mem_declaredIn {scope : Scope} (hscope : scope.WellFormed) :
    ∀ {items : List Item}, AllPlain (namesIn items) → ∀ d ∈ declaredIn scope items, d.Sound
  | [], _, d, hd => by simp [declaredIn] at hd
  | item :: rest, h, d, hd => by
      rw [namesIn, allPlain_append] at h
      rw [declaredIn] at hd
      rcases List.mem_append.1 hd with hd | hd
      · exact sound_of_mem_declared hscope h.1 d hd
      · exact sound_of_mem_declaredIn (wellFormed_scopeAfter hscope h.1) h.2 d hd

end

/-! ## Types -/

/-- If the type is a class, its name is a name with no separator in front. -/
def NamedType.Nameable (t : NamedType) : Prop :=
  t.namesClass = true → IsNameText t.name.toList

lemma NamedType.Nameable.orNull {t : NamedType} (h : t.Nameable) : t.orNull.Nameable := h

lemma NamedType.nameable_ofName {scope : Scope} (hscope : scope.WellFormed) {name : String}
    (h : IsPlainName name) : (NamedType.ofName scope name).Nameable := by
  intro hclass
  unfold NamedType.ofName at hclass ⊢
  dsimp only at hclass ⊢
  split at hclass
  · simp [NamedType.namesClass] at hclass
  · next hlanguage =>
    rw [if_neg hlanguage]
    split at hclass
    · next hrelative =>
      simp only [Bool.or_eq_true, beq_iff_eq] at hrelative
      rcases hrelative with hself | hparent
      · simp [NamedType.namesClass, NamedType.isRelative, hself] at hclass
      · simp [NamedType.namesClass, NamedType.isRelative, hparent] at hclass
    · next hrelative =>
      rw [if_neg hrelative]
      exact hscope.isNameText_resolve h

section

variable {scope : Scope} {t : NamedType}

lemma nameable_of_simpleType (hscope : scope.WellFormed) {e : SimpleType} (h : AllPlain e.names)
    (hdescribe : e.describe scope = .ok t) : t.Nameable := by
  cases e with
  | named name =>
      cases hdescribe
      exact NamedType.nameable_ofName hscope (h name (by simp [SimpleType.names]))
  | optional name =>
      cases hdescribe
      exact (NamedType.nameable_ofName hscope (h name (by simp [SimpleType.names]))).orNull
  | interrupted page => cases hdescribe

lemma nameable_of_alternative (hscope : scope.WellFormed) {e : Alternative} (h : AllPlain e.names)
    (hdescribe : e.describe scope = .ok t) : t.Nameable := by
  cases e with
  | type e => exact nameable_of_simpleType hscope h hdescribe
  | page text => cases hdescribe

/-- A type whose names are written without gaps means one that can be named. -/
lemma nameable_of_typeExpr (hscope : scope.WellFormed) {e : TypeExpr} (h : AllPlain e.names)
    (hdescribe : e.describe scope = .ok t) : t.Nameable := by
  cases e with
  | simple e => exact nameable_of_simpleType hscope h hdescribe
  | compound text => cases hdescribe
  | union alternatives text =>
      rw [TypeExpr.describe] at hdescribe
      split at hdescribe
      · next a halone =>
        split at hdescribe
        · have hmem : a ∈ alternatives := by
            have ha : a ∈ alternatives.filter fun a => !a.isNull := by simp [halone]
            exact List.mem_of_mem_filter ha
          have hnames : AllPlain a.names := fun name hname =>
            h name (List.mem_flatMap.2 ⟨a, hmem, hname⟩)
          cases hinner : a.describe scope with
          | error e =>
              rw [hinner] at hdescribe
              cases hdescribe
          | ok u =>
              rw [hinner] at hdescribe
              cases hdescribe
              exact (nameable_of_alternative hscope hnames hinner).orNull
        · cases hdescribe
      · cases hdescribe

lemma nameable_typeWithDefault {default : Option Value} (h : t.Nameable) :
    (typeWithDefault default t).Nameable := by
  unfold typeWithDefault
  split
  · split
    · exact h
    · exact h
  · exact h

end

/-! ## Methods -/

/-- Every class that the signature mentions can be named. -/
def Method.Nameable (m : Method) : Prop :=
  ∀ t ∈ m.types, t.Nameable

/-- Marking parameters as optional leaves their types alone. -/
lemma map_type_markOptional (l : List (Parameter × Bool)) :
    (markOptional l).map (·.type) = l.map (·.1.type) := by
  induction l with
  | nil => rfl
  | cons p rest ih =>
      rw [markOptional, List.map_cons, List.map_cons, ← ih]

/-- What can fail and what cannot, for a type that may be missing. -/
lemma forall_of_mapM_option {e : Option TypeExpr} {o : Option NamedType} {scope : Scope}
    (hscope : scope.WellFormed) (h : ∀ x ∈ e, AllPlain x.names)
    (hdescribe : e.mapM (TypeExpr.describe scope) = .ok o) : ∀ t ∈ o, t.Nameable := by
  cases e with
  | none =>
      cases hdescribe
      simp
  | some x =>
      obtain ⟨u, hu, ho⟩ := bind_eq_ok_iff.1 hdescribe
      cases ho
      intro t ht
      cases ht
      exact nameable_of_typeExpr hscope (h x rfl) hu

lemma nameable_of_parameterExpr {scope : Scope} (hscope : scope.WellFormed) {e : ParameterExpr}
    (h : ∀ x ∈ e.type, AllPlain x.names) {p : Parameter} (hdescribe : e.describe scope = .ok p) :
    ∀ t ∈ p.type, t.Nameable := by
  obtain ⟨written, hwritten, hp⟩ := bind_eq_ok_iff.1 hdescribe
  cases hp
  intro t ht
  obtain ⟨u, hu, rfl⟩ := Option.map_eq_some_iff.1 ht
  exact nameable_typeWithDefault (forall_of_mapM_option hscope h hwritten u hu)

lemma nameable_of_parameters {scope : Scope} (hscope : scope.WellFormed) {l : List ParameterExpr}
    (h : ∀ e ∈ l, ∀ x ∈ e.type, AllPlain x.names) {ps : List Parameter}
    (hdescribe : describeParameters scope l = .ok ps) : ∀ p ∈ ps, ∀ t ∈ p.type, t.Nameable := by
  obtain ⟨described, hdescribed, hps⟩ := bind_eq_ok_iff.1 hdescribe
  cases hps
  intro p hp t ht
  have hmem : some t ∈ (described.zip (l.map (·.default.isSome))).map (·.1.type) := by
    rw [← map_type_markOptional]
    exact List.mem_map.2 ⟨p, hp, ht⟩
  obtain ⟨⟨q, hasDefault⟩, hq, htype⟩ := List.mem_map.1 hmem
  obtain ⟨e, he, hread⟩ := exists_arg_of_mapM hdescribed (List.of_mem_zip hq).1
  exact nameable_of_parameterExpr hscope (h e he) hread t htype

lemma nameable_of_methodExpr {scope : Scope} (hscope : scope.WellFormed) {e : MethodExpr}
    (h : AllPlain e.typeNames) {owner : String} {m : ClassMethod}
    (hdescribe : e.describe scope owner = .ok m) : m.toMethod.Nameable := by
  have hnames : ∀ x ∈ e.parameters.filterMap (·.type) ++ e.result.toList, AllPlain x.names :=
    fun x hx name hname => h name (List.mem_flatMap.2 ⟨x, hx, hname⟩)
  obtain ⟨ps, hps, hrest⟩ := bind_eq_ok_iff.1 hdescribe
  obtain ⟨result, hresult, hm⟩ := bind_eq_ok_iff.1 hrest
  cases hm
  intro t ht
  rcases List.mem_append.1 ht with ht | ht
  · obtain ⟨p, hp, htype⟩ := List.mem_filterMap.1 ht
    refine nameable_of_parameters hscope ?_ hps p hp t htype
    intro q hq x hx
    exact hnames x (List.mem_append_left _ (List.mem_filterMap.2 ⟨q, hq, hx⟩))
  · refine forall_of_mapM_option hscope ?_ hresult t (Option.mem_toList.1 ht)
    intro x hx
    exact hnames x (List.mem_append_right _ (Option.mem_toList.2 hx))

/-- What a sound declaration says by itself mentions only classes that can be named. -/
lemma Declared.Sound.nameable {d : Declared} (h : d.Sound) {c : ClassInfo}
    (hdescribe : d.describe = .ok c) : ∀ m ∈ c.methods, m.toMethod.Nameable := by
  obtain ⟨methods, hmethods, hc⟩ := bind_eq_ok_iff.1 hdescribe
  cases hc
  intro m hm
  obtain ⟨e, he, hread⟩ := exists_arg_of_mapM hmethods hm
  refine nameable_of_methodExpr h.1 ?_ hread
  intro name hname
  exact h.2 name (List.mem_flatMap.2 ⟨e, he, hname⟩)

/-! ## Inheritance -/

section

variable {find : String → Kind → Except SourceError (Option ClassInfo)} {size : Nat} {P : Method → Prop}

/-- Signatures are handed on as they are: what holds of all that are found holds of a walk through some
traits. -/
lemma forall_mem_of_traitWalk
    (hfind : ∀ name kind c, find name kind = .ok (some c) → ∀ m ∈ c.methods, P m.toMethod)
    {user : String} {names : List String} {walk : List ClassMethod}
    (h : TraitWalk find user names walk) : ∀ m ∈ walk, P m.toMethod := by
  induction h with
  | nil => simp
  | missing _ _ ih => exact ih
  | found hfound _ _ ihnested ihmore =>
      intro m hm
      rcases List.mem_append.1 hm with hm | hm
      · rcases List.mem_append.1 hm with hm | hm
        · obtain ⟨m', hm', rfl⟩ := List.mem_map.1 hm
          exact hfind _ _ _ hfound m' hm'
        · exact ihnested m hm
      · exact ihmore m hm

lemma forall_mem_interfaceMethods
    (hfind : ∀ name kind c, find name kind = .ok (some c) → ∀ m ∈ c.methods, P m.toMethod)
    (names : List String) : ∀ m ∈ interfaceMethods find names, P m.toMethod := by
  intro m hm
  obtain ⟨name, _, hm⟩ := List.mem_flatMap.1 hm
  split at hm
  · next i hfound =>
    obtain ⟨m', hm', rfl⟩ := List.mem_map.1 hm
    exact hfind _ _ _ hfound m' hm'
  · cases hm

/-- What holds of all signatures that are found holds of those that count for a class. -/
lemma forall_mem_precedence
    (hfind : ∀ name kind c, find name kind = .ok (some c) → ∀ m ∈ c.methods, P m.toMethod)
    {c : ClassInfo} {line : List Ancestor} (h : Lineage find size c line) :
    ∀ m ∈ precedence find line, P m.toMethod := by
  induction h with
  | last _ hwalk _ =>
      intro m hm
      simp only [precedence, List.flatMap_nil, List.append_nil, List.reverse_singleton,
        List.flatMap_singleton] at hm
      rcases List.mem_append.1 hm with hm | hm
      · exact forall_mem_of_traitWalk hfind hwalk m hm
      · exact forall_mem_interfaceMethods hfind _ m hm
  | child hparent hwalk _ hline ih =>
      obtain ⟨a, rest, rfl, rfl⟩ := hline.exists_cons
      intro m hm
      rw [precedence_cons_cons, List.mem_append, List.mem_append, List.mem_append] at hm
      rcases hm with hm | (hm | hm) | hm
      · exact forall_mem_of_traitWalk hfind hwalk m hm
      · obtain ⟨_, _, hfound⟩ := exists_find_of_parentOf hparent
        exact hfind _ _ _ hfound m hm
      · exact ih m hm
      · exact forall_mem_interfaceMethods hfind _ m hm

/-- What holds of all signatures that are found holds of those of a resolved class. -/
lemma forall_mem_of_assemble
    (hfind : ∀ name kind c, find name kind = .ok (some c) → ∀ m ∈ c.methods, P m.toMethod)
    {depth : Nat} {c r : ClassInfo} {stack after : List String} (hc : ∀ m ∈ c.methods, P m.toMethod)
    (h : (assemble find size depth c).run stack = .ok (r, after)) : ∀ m ∈ r.methods, P m.toMethod := by
  obtain ⟨line, hline, hmethods⟩ := exists_lineage_of_assemble h
  intro m hm
  rw [hmethods, withMissing_eq] at hm
  obtain ⟨m', hm', rfl⟩ := List.mem_map.1 hm
  rcases List.mem_append.1 hm' with hm' | hm'
  · exact hc m' hm'
  · exact forall_mem_precedence hfind hline m' (mem_of_mem_firstByName hm')

end

/-- The names of namespaces, imports and types in a file, as they are written; none if it is no text or
breaks the grammar. -/
def Content.writtenNames : Content → List String
  | .text s => ((items? s).map namesIn).getD []
  | _ => []

/-- The names of namespaces, imports and types in the files are written without gaps. -/
def UnbrokenNames (files : List Content) : Prop :=
  ∀ name ∈ files.flatMap Content.writtenNames, isUnbroken name.toList = true

instance (files : List Content) : Decidable (UnbrokenNames files) :=
  inferInstanceAs
    (Decidable (∀ name ∈ files.flatMap Content.writtenNames, isUnbroken name.toList = true))

lemma sound_of_mem_declarations {files : List Content} (h : UnbrokenNames files) {d : Declared}
    (hd : d ∈ files.flatMap Content.declarations) : d.Sound := by
  obtain ⟨file, hfile, hd⟩ := List.mem_flatMap.1 hd
  cases file with
  | unreadable failure => cases hd
  | notText => cases hd
  | text s =>
      rw [Content.declarations, declarations?] at hd
      cases hitems : items? s with
      | none =>
          rw [hitems] at hd
          cases hd
      | some items =>
          rw [hitems] at hd
          refine sound_of_mem_declaredIn Scope.wellFormed_empty ?_ d hd
          intro name hname
          have hwritten : name ∈ (Content.text s).writtenNames := by
            rw [Content.writtenNames, hitems]
            exact hname
          exact isNameText_of_unbroken (looseName_of_items? hitems name hname)
            (h name (List.mem_flatMap.2 ⟨.text s, hfile, hwritten⟩))

/-- Every signature of a class that is found mentions only classes that can be named. -/
lemma nameable_of_classNamed {files : List Content} {name : String} {r : ClassInfo}
    (hnames : UnbrokenNames files) (h : classNamed files name = .ok r) :
    ∀ m ∈ r.methods, m.toMethod.Nameable := by
  have hfind : ∀ name kind c, lookupIn files name kind = .ok (some c) →
      ∀ m ∈ c.methods, m.toMethod.Nameable := by
    intro name kind c hfound
    obtain ⟨d, hd, hdescribe⟩ := exists_declared_of_lookup hfound
    exact (sound_of_mem_declarations hnames hd).nameable hdescribe
  obtain ⟨c, _, hfound, hrun⟩ := exists_found_of_classNamed h
  exact forall_mem_of_assemble hfind (hfind _ _ _ hfound) hrun

/-! ## Printing -/

/-- A type whose class can be named is not refused. -/
lemma NamedType.Nameable.refusal?_eq {t : NamedType} (h : t.Nameable) : t.refusal? = none := by
  rw [NamedType.refusal?, NamedType.isUnnamed]
  cases hclass : t.namesClass with
  | false => rfl
  | true =>
      obtain ⟨name, hname, _⟩ := QualifiedName.exists_parse?_of_isNameText (h hclass)
      rw [hname]
      rfl

/-- An interface prints if it has a name and every class that it mentions can be named. -/
lemma Interface.exists_print {i : Interface} {context : QualifiedName}
    (hname : QualifiedName.parse? i.name = some context) (h : ∀ m ∈ i.methods, m.Nameable) :
    ∃ text, i.print = .ok text := by
  have hfailure : i.draft.failure = none := by
    rw [Interface.failure_draft, contextOf, hname, errorOf_ok, Option.none_or,
      List.findSome?_eq_none_iff]
    intro t ht
    obtain ⟨m, hm, ht⟩ := List.mem_flatMap.1 ht
    exact (h m hm t ht).refusal?_eq
  refine ⟨i.draft.text, ?_⟩
  rw [Interface.print, Draft.toText, hfailure]

/-! ## From files to text -/

/-- Where names are written without gaps, every type in the signatures of a class that is found is none
that names a class, or has a name that can be read and starts with no separator.  So whatever interface is
made of the class, under whatever name, it prints. -/
theorem found_printable {files : List Content} {name : String} {r : ClassInfo}
    (hnames : UnbrokenNames files) (h : classNamed files name = .ok r) :
    (∀ m ∈ r.methods, ∀ t ∈ m.types, t.namesClass = false ∨
      ((∃ q, QualifiedName.parse? t.name = some q) ∧ t.name.toList.head? ≠ some separator)) ∧
    ∀ (s : Selection) (interface : String) (context : QualifiedName),
      QualifiedName.parse? interface = some context →
      ∃ text, (s.interfaceOf r interface).print = .ok text := by
  have hnameable := nameable_of_classNamed hnames h
  constructor
  · intro m hm t ht
    cases hclass : t.namesClass with
    | false => exact Or.inl rfl
    | true =>
        have htext : IsNameText t.name.toList := hnameable m hm t ht hclass
        obtain ⟨q, hq, _⟩ := QualifiedName.exists_parse?_of_isNameText htext
        obtain ⟨c, rest, hcons, hc⟩ := htext.exists_cons
        refine Or.inr ⟨⟨q, hq⟩, ?_⟩
        rw [hcons, List.head?_cons]
        intro heq
        exact hc (Option.some.inj heq)
  · intro s interface context hcontext
    refine Interface.exists_print hcontext ?_
    intro m hm
    obtain ⟨m', hm', rfl⟩ := List.mem_map.1 hm
    exact hnameable m' (List.mem_of_mem_filter hm')

/-- Names of every kind: below the namespace, of an aliased and of a grouped import, relative to the
namespace, in full and with a question mark; in a class, its parent, a trait and an interface. -/
def namedFiles : List Content :=
  [.text "<?php
namespace A\\B;
use C\\D as E;
use F\\\x7bG, H\\I\x7d;
class K extends L \x7b use T; function f(E\\M $x, ?G $y): \\N\\O; \x7d
class L implements J \x7b function g(I|null $x): namespace\\P; \x7d
trait T \x7b function h(Q $x): self; \x7d
interface J \x7b function i(int $x); \x7d"]

set_option maxRecDepth 100000 in
theorem found_printable_named :
    UnbrokenNames namedFiles ∧ ∃ r, classNamed namedFiles "A\\B\\K" = .ok r ∧
      (r.methods.flatMap fun m => m.types.map (·.name)) =
        ["C\\D\\M", "F\\G", "N\\O", "A\\B\\Q", "self", "F\\H\\I", "A\\B\\P", "int"] ∧
      ∃ text, (({} : Selection).interfaceOf r "X\\Y").print = .ok text := by
  have hnames : UnbrokenNames namedFiles := by decide +kernel
  have htypes : ((classNamed namedFiles "A\\B\\K").toOption.map fun r =>
      r.methods.flatMap fun m => m.types.map (·.name)) =
        some ["C\\D\\M", "F\\G", "N\\O", "A\\B\\Q", "self", "F\\H\\I", "A\\B\\P", "int"] := by
    decide +kernel
  cases h : classNamed namedFiles "A\\B\\K" with
  | error e =>
      rw [h] at htypes
      cases htypes
  | ok r =>
      rw [h] at htypes
      have hprint := (found_printable hnames h).2 {} "X\\Y" ⟨["X"], "Y"⟩ (by decide +kernel)
      exact ⟨hnames, r, rfl, Option.some.inj htypes, hprint⟩

/-- A type with a page between the segments of its name. -/
def pagedFiles : List Content :=
  [.text "<?php
class C
\x7b
    function f(A\\?><?phpB $x) \x7b\x7d
\x7d
"]

set_option maxRecDepth 100000 in
/-- White space and comments are not all that may come between the segments of a name. -/
theorem paged_name_unprintable :
    (∀ name ∈ pagedFiles.flatMap Content.writtenNames, (name.toList.all fun c => !isSpacing c) = true) ∧
    ∃ r, classNamed pagedFiles "C" = .ok r ∧
      (∃ m ∈ r.methods, ∃ t ∈ m.types, t.namesClass = true ∧ QualifiedName.parse? t.name = none) ∧
      (({} : Selection).interfaceOf r "I").print = .error (.unresolvableType "A\\?><?phpB") := by
  constructor
  · decide +kernel
  have hparts : ((classNamed pagedFiles "C").toOption.map fun r =>
      ((r.methods.any fun m => m.types.any fun t =>
          t.namesClass && (QualifiedName.parse? t.name).isNone),
        errorOf (({} : Selection).interfaceOf r "I").print)) =
        some (true, some (.unresolvableType "A\\?><?phpB")) := by
    decide +kernel
  cases h : classNamed pagedFiles "C" with
  | error e =>
      rw [h] at hparts
      cases hparts
  | ok r =>
      rw [h] at hparts
      obtain ⟨htype, hprint⟩ := Prod.mk.inj (Option.some.inj hparts)
      refine ⟨r, rfl, ?_, eq_error_of_errorOf hprint⟩
      obtain ⟨m, hm, htype⟩ := List.any_eq_true.1 htype
      obtain ⟨t, ht, htype⟩ := List.any_eq_true.1 htype
      rw [Bool.and_eq_true, Option.isNone_iff_eq_none] at htype
      exact ⟨m, hm, t, ht, htype⟩

end PhpInterface
