import PhpInterface.Proofs.LooseNames
import PhpInterface.Source.File

/-!
# The names in a source file

Reading a file gives names for namespaces, for imports and for the types in signatures.  All of them are
loose (`looseName_of_items?`), from the plain word of a type to the names that a group of imports puts
together from two texts.

The proof follows the readers.  Of a statement only those parts matter that hold such names, and a statement
holds others only in the block of a namespace, so that one assumption about inner statements is enough
(`yields_statement`) and the depth of nesting is an induction (`yields_nested`).
-/

namespace PhpInterface.Source

open Reader

/-! ## The names of a file -/

def SimpleType.names : SimpleType → List String
  | .named name => [name]
  | .optional name => [name]
  | .interrupted _ => []

def Alternative.names : Alternative → List String
  | .type t => t.names
  | .page _ => []

/-- The names that a type is made of, as far as they can come to a signature. -/
def TypeExpr.names : TypeExpr → List String
  | .simple t => t.names
  | .union alternatives _ => alternatives.flatMap Alternative.names
  | .compound _ => []

/-- The names in the types of a method. -/
def MethodExpr.typeNames (m : MethodExpr) : List String :=
  (m.parameters.filterMap (·.type) ++ m.result.toList).flatMap TypeExpr.names

/-- The names in the types of all methods of a declaration. -/
def TypeDecl.typeNames (d : TypeDecl) : List String :=
  d.methods.flatMap MethodExpr.typeNames

mutual

/-- The names of namespaces, imports and types in an item, as they are written. -/
def Item.names : Item → List String
  | .enter space => [space]
  | .block space items => (if space.isEmpty then [] else [space]) ++ namesIn items
  | .imports u => u.classes.map (·.name)
  | .declaration d => d.typeNames

/-- The names of namespaces, imports and types in some items, as they are written. -/
def namesIn : List Item → List String
  | [] => []
  | item :: rest => item.names ++ namesIn rest

end

/-- All these names are written as names can be. -/
def AllLoose (names : List String) : Prop :=
  ∀ name ∈ names, LooseName name.toList

lemma mem_namesIn {items : List Item} {name : String} :
    name ∈ namesIn items ↔ ∃ item ∈ items, name ∈ item.names := by
  induction items with
  | nil => simp [namesIn]
  | cons item rest ih => simp [namesIn, ih]

/-! ## Types -/

lemma allLoose_singleton {t : List Char} (h : LooseName t) : AllLoose [String.ofList t] := by
  intro name hname
  rw [List.mem_singleton.1 hname, String.toList_ofList]
  exact h

lemma yields_typeName (p : Position) : Yields (typeName p) fun name => AllLoose [name] := by
  refine .after fun _ => .after fun w => ?_
  split
  · exact .map (yields_rawWord.mono fun w hw => allLoose_singleton (looseName_of_isSegment hw))
  · exact .map ((yields_name p).mono fun t ht => allLoose_singleton ht)

lemma yields_simpleType (p : Position) : Yields (simpleType p) fun t => AllLoose t.names := by
  refine .after fun marked => ?_
  split
  · refine .after fun before => (yields_typeName p).bind fun name hname => ?_
    split
    · exact .pure hname
    · exact .pure (by simp [AllLoose, SimpleType.names])
  · exact .map (yields_typeName p)

lemma yields_barredType (p : Position) : Yields (barredType p) fun o => ∀ t ∈ o, AllLoose t.names := by
  exact .oneOf_pair (.after fun _ => .pure (by simp)) (yields_simpleType p).map_some

lemma yields_nextAlternative (p : Position) :
    Yields (nextAlternative p) fun q => ∀ t ∈ q.2, AllLoose t.names :=
  .after fun _ => .after fun _ => .after fun _ => (yields_barredType p).bind fun _ ht => .pure ht

/-- The names that a type of this shape is made of. -/
def TypeShape.names : TypeShape → List String
  | .simple t => t.names
  | .union alternatives => alternatives.flatMap Alternative.names
  | .compound => []

lemma allLoose_shapeOf {first : Option SimpleType} {more : List (List (List Char) × Option SimpleType)}
    (hfirst : ∀ t ∈ first, AllLoose t.names) (hmore : ∀ q ∈ more, ∀ t ∈ q.2, AllLoose t.names) :
    AllLoose (shapeOf first more).names := by
  have hnone : AllLoose TypeShape.compound.names := by simp [AllLoose, TypeShape.names]
  unfold shapeOf
  split
  · exact hnone
  · next t =>
    split
    · exact hfirst t rfl
    · split
      · exact hnone
      · intro name hname
        obtain ⟨a, ha, hname⟩ := List.mem_flatMap.1 hname
        rcases List.mem_cons.1 ha with rfl | ha
        · exact hfirst t rfl name hname
        · obtain ⟨⟨texts, u⟩, hq, ha⟩ := List.mem_flatMap.1 ha
          rcases List.mem_append.1 ha with ha | ha
          · obtain ⟨text, _, rfl⟩ := List.mem_map.1 ha
            simp [Alternative.names] at hname
          · obtain ⟨v, hv, rfl⟩ := List.mem_map.1 ha
            exact hmore _ hq v (Option.mem_toList.1 hv) name hname

lemma yields_typeShape (p : Position) : Yields (typeShape p) fun shape => AllLoose shape.names := by
  refine (yields_barredType p).bind fun first hfirst => ?_
  have hrest : ∀ joined : List SimpleType, Yields
      (if joined.isEmpty then do
        let more ← many (nextAlternative p)
        pure (shapeOf first more)
      else pure .compound) fun shape => AllLoose shape.names := by
    intro joined
    split
    · exact (yields_nextAlternative p).many.bind fun more hmore =>
        .pure (allLoose_shapeOf hfirst hmore)
    · exact .pure (by simp [AllLoose, TypeShape.names])
  dsimp only
  split
  · exact .after hrest
  · exact .after hrest

lemma yields_typeExpr (p : Position) : Yields (typeExpr p) fun t => AllLoose t.names := by
  refine .after fun _ => (yields_typeShape p).spelled.bind fun q hq => ?_
  obtain ⟨shape, text⟩ := q
  cases shape with
  | simple t => exact .pure hq
  | union alternatives => exact .pure hq
  | compound => exact .pure hq

lemma yields_resultType (p : Position) : Yields (resultType p) fun t => AllLoose t.names := by
  refine .after fun _ => .after fun next => ?_
  split
  · exact yields_rawWord.bind fun w hw => .pure (allLoose_singleton (looseName_of_isSegment hw))
  · exact yields_typeExpr p

lemma yields_resultClause (p : Position) :
    Yields (resultClause p) fun o => ∀ t ∈ o, AllLoose t.names := by
  refine .after fun marked => ?_
  split
  · exact (yields_resultType p).map_some
  · exact .pure (by simp)

lemma yields_variableType : Yields variableType fun o => ∀ t ∈ o, AllLoose t.names := by
  refine .after fun bare => ?_
  split
  · exact .pure (by simp)
  · exact (yields_typeExpr .inner).map_some

/-! ## Declarations -/

section

variable (n : Nested)

lemma yields_plainParameter : Yields (plainParameter n) fun q => ∀ t ∈ q.type, AllLoose t.names := by
  refine yields_variableType.bind fun type htype => .after fun _ => .after fun variadic => ?_
  refine .after fun _ => ?_
  dsimp only
  split
  · exact .after fun _ => .pure htype
  · exact .after fun _ => .pure htype

lemma yields_promotedParameter :
    Yields (promotedParameter n) fun q => ∀ t ∈ q.type, AllLoose t.names :=
  .after fun _ => .after fun _ => yields_variableType.bind fun _ htype =>
    .after fun _ => .after fun _ => .after fun _ => .pure htype

lemma yields_parameters (p : Position) :
    Yields (parameters n p) fun l => ∀ q ∈ l, ∀ t ∈ q.type, AllLoose t.names := by
  have hone : Yields (parameter n) fun q => ∀ t ∈ q.type, AllLoose t.names := by
    refine .after fun _ => .after fun promoted => ?_
    split
    · exact yields_promotedParameter n
    · exact yields_plainParameter n
  exact .after fun _ => hone.sepBy.bind fun _ hl => .after fun _ => .after fun _ => .pure hl

lemma yields_signature (p : Position) :
    Yields (signature n p) fun q =>
      (∀ r ∈ q.2.1, ∀ t ∈ r.type, AllLoose t.names) ∧ ∀ t ∈ q.2.2, AllLoose t.names :=
  .after fun _ => .after fun _ => (yields_parameters n .inner).bind fun _ hps =>
    (yields_resultClause p).bind fun _ hresult => .pure ⟨hps, hresult⟩

lemma yields_methodRest (comment : Option String) (modifiers : List Modifier) :
    Yields (methodRest n comment modifiers) fun m => AllLoose m.typeNames := by
  refine (yields_signature n .last).bind fun q hq => .after fun _ => .pure ?_
  intro name hname
  obtain ⟨t, ht, hname⟩ := List.mem_flatMap.1 hname
  rcases List.mem_append.1 ht with ht | ht
  · obtain ⟨r, hr, htype⟩ := List.mem_filterMap.1 ht
    exact hq.1 r hr t htype name hname
  · exact hq.2 t (Option.mem_toList.1 ht) name hname

/-- The names in the types of a member. -/
def Member.typeNames : Member → List String
  | .method m => m.typeNames
  | _ => []

lemma yields_member : Yields (member n) fun m => AllLoose m.typeNames := by
  have hother : AllLoose Member.other.typeNames := by simp [AllLoose, Member.typeNames]
  refine .after fun before => .after fun uses => ?_
  split
  · exact .map (fun _ _ _ _ => by simp [AllLoose, Member.typeNames])
  · refine .after fun _ => .after fun modifiers => .after fun isMethod => ?_
    split
    · exact .map (yields_methodRest n _ modifiers)
    · refine .after fun isConstant => ?_
      split
      · exact .after fun _ => .pure hother
      · exact .after fun _ => .after fun _ => .pure hother

lemma yields_typeDeclRest (kind : Kind) (modifiers : List Modifier) :
    Yields (typeDeclRest n kind modifiers) fun d => AllLoose d.typeNames := by
  have hmembers : Yields (members n) fun l => ∀ m ∈ l, AllLoose m.typeNames :=
    .after fun _ => (yields_member n).many.bind fun _ hl => .after fun _ => .pure hl
  refine .after fun w => ?_
  dsimp only
  -- whichever clauses the kind of declaration has, the members come after them
  split <;> split
  all_goals
    refine .after fun bases => .after fun interfaces => hmembers.bind fun l hl => .pure ?_
    intro name hname
    obtain ⟨m, hm, hname⟩ := List.mem_flatMap.1 hname
    obtain ⟨member, hmember, hm⟩ := List.mem_filterMap.1 hm
    cases member with
    | method m' =>
        cases hm
        exact hl _ hmember name hname
    | traits names => cases hm
    | other => cases hm

end

/-! ## Imports -/

lemma dropWhile_of_isSegment {w : List Char} (hw : isSegment w = true) (tail : List Char) :
    (w ++ tail).dropWhile (· == '\\') = w ++ tail := by
  obtain ⟨c, rest, rfl⟩ := List.exists_cons_of_ne_nil (ne_nil_of_isSegment hw)
  have hc : c ≠ '\\' := fun hc => separator_not_mem_of_isSegment hw (hc ▸ List.mem_cons_self)
  exact List.dropWhile_cons_of_neg (by simpa using hc)

/-- Without the backslashes in front a name starts with a gap or with its first word. -/
lemma dropWhile_of_looseName {t : List Char} (h : LooseName t) :
    ∃ g w tail, IsGapText g ∧ isSegment w = true ∧ IsLooseTail tail ∧
      t.dropWhile (· == '\\') = g ++ (w ++ tail) := by
  obtain ⟨root, w, tail, hroot, hw, htail, rfl⟩ := h
  rcases hroot with rfl | ⟨g, hg, rfl⟩
  · exact ⟨[], w, tail, Or.inl rfl, hw, htail, dropWhile_of_isSegment hw tail⟩
  · refine ⟨g, w, tail, hg, hw, htail, ?_⟩
    rw [List.cons_append, List.dropWhile_cons_of_pos (by decide)]
    rcases hg with rfl | ⟨c, rest, rfl, hc⟩
    · exact dropWhile_of_isSegment hw tail
    · have hne : c ≠ '\\' := by
        rintro rfl
        exact absurd hc (by decide)
      exact List.dropWhile_cons_of_neg (by simpa using hne)

/-- A name of a group: the text in front of the group, a backslash, and the name in the group. -/
lemma looseName_below {outer inner : List Char}
    (houter : ∃ w tail, isSegment w = true ∧ IsLooseTail tail ∧ outer = w ++ tail)
    (hinner : LooseName inner) :
    LooseName
      (dropBackslashes (String.ofList outer) ++ "\\" ++ dropBackslashes (String.ofList inner)).toList := by
  obtain ⟨w, tail, hw, htail, rfl⟩ := houter
  obtain ⟨g, v, more, hg, hv, hmore, hdrop⟩ := dropWhile_of_looseName hinner
  have hsegment : IsLooseTail (separator :: (g ++ v)) :=
    ⟨[separator :: (g ++ v)], by simpa using ⟨[], g, v, Or.inl rfl, hg, hv, rfl⟩, by simp⟩
  refine ⟨[], w, tail ++ (separator :: (g ++ v) ++ more), Or.inl rfl, hw,
    htail.append (hsegment.append hmore), ?_⟩
  simp only [dropBackslashes, String.toList_append, String.toList_ofList, hdrop,
    dropWhile_of_isSegment hw tail]
  simp [separator]

lemma yields_importClause (p : Position) :
    Yields (importClause p) fun c => LooseName c.name.toList := by
  refine .after fun foreign => (yields_className p).bind fun text htext => .after fun _ => .pure ?_
  rw [String.toList_ofList]
  exact htext

/-- The class that a clause imports has the name of the clause. -/
lemma exists_clause_of_mem {clauses : List ImportClause} {i : Import}
    (h : i ∈ clauses.filterMap (·.class?)) : ∃ c ∈ clauses, i.name = c.name := by
  obtain ⟨c, hc, hclass⟩ := List.mem_filterMap.1 h
  rw [ImportClause.class?] at hclass
  split at hclass
  · cases hclass
  · cases hclass
    exact ⟨c, hc, rfl⟩

lemma yields_importGroup : Yields importGroup fun u => ∀ i ∈ u.classes, LooseName i.name.toList := by
  have houter : Takes (do let w ← rawWord; segments .last; pure w)
      fun t => ∃ w tail, isSegment w = true ∧ IsLooseTail tail ∧ t = w ++ tail := by
    refine (takes_rawWord.bind fun w => (takes_segments .last).bind fun _ => Takes.pure w).mono ?_
    rintro t ⟨w, _, hw, ⟨tail, _, htail, rfl, rfl⟩, rfl⟩
    exact ⟨w, tail, hw, htail, by rw [List.append_nil]⟩
  refine .after fun foreign => .after fun _ => .after fun _ => ?_
  refine (yields_spelled houter).bind fun q hq => .after fun _ => .after fun _ => .after fun _ => ?_
  refine (yields_importClause .inner).sepBy1.bind fun l hl => .after fun _ => .pure ?_
  rw [ImportStatement.classes]
  split
  · simp
  · intro i hi
    obtain ⟨j, hj, rfl⟩ := List.mem_map.1 hi
    obtain ⟨c, hc, hname⟩ := exists_clause_of_mem hj
    have hbelow := looseName_below hq (hl c hc)
    rw [String.ofList_toList, ← hname] at hbelow
    exact hbelow

lemma yields_importsRest : Yields importsRest fun u => ∀ i ∈ u.classes, LooseName i.name.toList := by
  have hplain : Yields (ImportStatement.names <$> sepBy1 (importClause .last) (symbolAt .last ","))
      fun u => ∀ i ∈ u.classes, LooseName i.name.toList := by
    refine .map ((yields_importClause .last).sepBy1.mono ?_)
    intro l hl i hi
    obtain ⟨c, hc, hname⟩ := exists_clause_of_mem hi
    rw [hname]
    exact hl c hc
  exact (Yields.oneOf_pair yields_importGroup hplain).bind fun _ hu => .after fun _ => .pure hu

/-! ## Statements -/

/-- The names in an item, if there is one, are written as names can be. -/
def LooseItem (o : Option Item) : Prop :=
  ∀ item ∈ o, AllLoose item.names

lemma looseItem_none : LooseItem none := by
  simp [LooseItem]

lemma looseItem_some {item : Item} (h : AllLoose item.names) : LooseItem (some item) := by
  intro other hother
  cases hother
  exact h

lemma allLoose_filterMap {l : List (Option Item)} (h : ∀ o ∈ l, LooseItem o) :
    AllLoose (namesIn (l.filterMap id)) := by
  intro name hname
  obtain ⟨item, hitem, hname⟩ := mem_namesIn.1 hname
  obtain ⟨o, ho, rfl⟩ := List.mem_filterMap.1 hitem
  exact h _ ho item rfl name hname

section

variable {n : Nested} (hn : Yields n.statement LooseItem)

include hn

lemma yields_blockAt (p : Position) : Yields (n.blockAt p) fun items => AllLoose (namesIn items) :=
  .after fun _ => hn.many.bind fun _ hl => .after fun _ => .pure (allLoose_filterMap hl)

lemma yields_namespaceRest : Yields (namespaceRest n) fun item => AllLoose item.names := by
  refine .after fun _ => (yields_spelled (takes_nameWords .last)).optional?.bind fun text htext => ?_
  refine (yields_blockAt hn .last).optional?.bind fun block hblock => ?_
  cases block with
  | some items =>
      refine .pure ?_
      intro name hname
      rw [Item.names] at hname
      rcases List.mem_append.1 hname with hname | hname
      · cases text with
        | none => simp at hname
        | some q =>
            split at hname
            · simp at hname
            · exact allLoose_singleton (htext q rfl) name hname
      · exact hblock items rfl name hname
  | none =>
      refine .require fun hsome => .after fun _ => .pure ?_
      cases text with
      | none => cases hsome
      | some q => exact allLoose_singleton (htext q rfl)

end

section

variable (n : Nested)

lemma yields_expressionStatement : Yields (expressionStatement n) LooseItem :=
  .after fun _ => .after fun _ => .after fun _ => .pure looseItem_none

lemma yields_declaration {kind : Kind} {modifiers : List Modifier} :
    Yields (some <$> .declaration <$> typeDeclRest n kind modifiers) LooseItem :=
  .map (.map ((yields_typeDeclRest n kind modifiers).mono fun _ hd => looseItem_some hd))

lemma yields_definition : Yields (definition n) LooseItem := by
  refine .after fun modifiers => .after fun k => ?_
  split
  · exact yields_declaration n
  · exact .after fun _ => .pure looseItem_none
  · refine .after fun _ => ?_
    split
    · exact .after fun _ => .pure looseItem_none
    · exact .after fun _ => .pure looseItem_none
    · exact yields_declaration n

end

section

variable {n : Nested} (hn : Yields n.statement LooseItem)

include hn

lemma yields_wordStatement : Yields (wordStatement n) LooseItem := by
  refine .after fun w => ?_
  dsimp only
  split
  · exact .after fun _ => .after fun _ => .pure looseItem_none
  · split
    · refine .after fun _ => .map (.map (yields_importsRest.mono fun l hl => looseItem_some ?_))
      intro name hname
      obtain ⟨i, hi, rfl⟩ := List.mem_map.1 hname
      exact hl i hi
    · split
      · exact .after fun _ => .map ((yields_namespaceRest hn).mono fun _ hitem => looseItem_some hitem)
      · split
        · refine .after fun isVariable => ?_
          split
          · exact .after fun _ => .after fun _ => .pure looseItem_none
          · exact .oneOf_pair (yields_definition n) (yields_expressionStatement n)
        · split
          · refine .after fun isFunction => ?_
            split
            · exact yields_definition n
            · exact yields_expressionStatement n
          · split
            · exact yields_definition n
            · refine .after fun isLabel => ?_
              split
              · exact .pure looseItem_none
              · exact yields_expressionStatement n

/-- A statement whose inner statements give names as they can be written does so too. -/
lemma yields_statement : Yields (statement n) LooseItem := by
  refine .after fun _ => .after fun next => ?_
  split
  · exact .failure
  · split
    · exact .after fun _ => .pure looseItem_none
    · split
      · exact .after fun _ => .pure looseItem_none
      · split
        · exact .oneOf_pair (.after fun _ => yields_definition n) (yields_expressionStatement n)
        · exact yields_wordStatement hn

end

/-! ## Files -/

/-- However deep statements are nested, their names are written as names can be. -/
lemma yields_nested (depth : Nat) : Yields (nested depth).statement LooseItem := by
  induction depth with
  | zero => exact .failure
  | succ depth ih => exact yields_statement ih

/-- The names of a file are written as names can be. -/
lemma looseName_of_items? {text : String} {items : List Item} (h : items? text = some items) :
    AllLoose (namesIn items) := by
  have hprogram : Yields program fun items => AllLoose (namesIn items) :=
    .after fun s => (yields_nested (s.length + 1)).many.bind fun _ hl =>
      .after fun _ => .after fun _ => .after fun _ => .pure (allLoose_filterMap hl)
  unfold items? at h
  dsimp only at h
  split at h
  · cases h
  · obtain ⟨⟨l, rest⟩, hrun, hitems⟩ := Option.map_eq_some_iff.1 h
    cases hitems
    exact hprogram _ _ _ hrun

end PhpInterface.Source
