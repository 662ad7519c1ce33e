import PhpInterface.Proofs.Capitals
import PhpInterface.Proofs.Respelling

/-!
# Files in other letters

Two texts with the same letters, where what differs in case are the names that declarations are built on:
after `extends`, after `implements`, and after `use` in a body.  If both of them are source files, they
declare the same up to folding (`content_folded_of_alike`), so that a search finds the same class up to
folding (`classNamed_of_alike`).

A file is taken apart step by step, into statements and these into members, and the two texts are compared
at each step (`Alike`).  Where the step is a declaration or names traits, the letters of the texts are enough:
`declaration_folded` and `traits_folded` compare both of them with the text in capitals.  Everything else that
a step gives has to be the same, since case matters in strings and in the names of methods.
-/

namespace PhpInterface

open Text Source

/-! ## Texts that are read alike -/

namespace Reader

variable {α β : Type} {f : α → β} {x : Reader α} {s s' : List Char}

/-- Two texts with the same letters that a repetition of the reader takes apart in the same way.  Each of its
steps gives the same up to `f`. -/
inductive Alike (f : α → β) (x : Reader α) : List Char → List Char → Prop where
  /-- the rest is the same to the letter -/
  | same (s : List Char) : Alike f x s s
  | stop {s s' : List Char} (letters : capitals s = capitals s') (h : x s = none) (h' : x s' = none) :
      Alike f x s s'
  | step {s s' rest rest' : List Char} {a a' : α} (letters : capitals s = capitals s')
      (h : x s = some (a, rest)) (h' : x s' = some (a', rest')) (ha : f a = f a')
      (more : Alike f x rest rest') : Alike f x s s'

lemma Alike.letters (h : Alike f x s s') : capitals s = capitals s' := by
  cases h with
  | same => rfl
  | stop letters _ _ => exact letters
  | step letters _ _ _ _ => exact letters

lemma Alike.length (h : Alike f x s s') : s.length = s'.length := by
  rw [← length_capitals, h.letters, length_capitals]

/-- The repetition gives the same up to `f`. -/
lemma Alike.map_repeated (h : Alike f x s s') : (repeated x s).1.map f = (repeated x s').1.map f := by
  induction h with
  | same s => rfl
  | stop _ h h' => rw [repeated_of_refused h, repeated_of_refused h', List.map_nil]
  | @step s s' rest rest' a a' letters h h' ha more ih =>
      -- the texts are equally long before and after the step, so that both repetitions go on or both stop
      have hlength : s.length = s'.length := by rw [← length_capitals, letters, length_capitals]
      by_cases hlt : rest.length < s.length
      · rw [repeated_of_eq h hlt, repeated_of_eq h' (by rw [← more.length, ← hlength]; exact hlt),
          List.map_cons, List.map_cons, ha, ih]
      · rw [repeated_of_not_lt h hlt, repeated_of_not_lt h' (by rw [← more.length, ← hlength]; exact hlt)]

end Reader

namespace Source

open Reader

/-! ## Declarations -/

/-- The names after a keyword, where this kind of declaration can have them. -/
def clauseIf (condition : Bool) (k : String) : Reader (List String) :=
  if condition then clause k else pure []

/-- The text of a declaration up to its members.  The declaration has no members yet. -/
def heading (kind : Kind) (modifiers : List Modifier) : Reader TypeDecl := do
  let w ← word
  let bases ← clauseIf (kind != .traitKind) "extends"
  let interfaces ← clauseIf (kind == .classKind) "implements"
  symbol "\x7b"
  pure
    { kind
      name := String.ofList w
      isAbstract := modifiers.contains .abstract
      bases
      interfaces
      traits := []
      methods := [] }

/-- The names of traits among members. -/
def traitsIn (l : List Member) : List String :=
  l.flatMap fun
    | .traits names => names
    | _ => []

/-- The methods among members. -/
def methodsIn (l : List Member) : List MethodExpr :=
  l.filterMap fun
    | .method m => some m
    | _ => none

/-- A declaration with these members. -/
def TypeDecl.having (d : TypeDecl) (l : List Member) : TypeDecl :=
  { d with traits := traitsIn l, methods := methodsIn l }

lemma typeDeclRest_eq_heading (n : Nested) (kind : Kind) (modifiers : List Modifier) :
    typeDeclRest n kind modifiers =
      (do
        let head ← heading kind modifiers
        let l ← many (member n)
        symbol "\x7d"
        pure (head.having l)) := by
  unfold typeDeclRest heading members
  cases kind <;> simp only [bind_assoc, pure_bind] <;> rfl

lemma clauseIf_capitals {condition : Bool} {k : String} {s rest : List Char} {l : List String}
    (h : clauseIf condition k s = some (l, rest)) (hrest : Detached .inner rest) :
    Detached .inner s ∧ clauseIf condition k (capitals s) = some (l.map upper, capitals rest) := by
  cases condition with
  | true => exact clause_capitals h hrest
  | false =>
      cases h
      exact ⟨hrest, rfl⟩

/-- A declaration with capitals in its own name and in those that it is built on. -/
def TypeDecl.upper (d : TypeDecl) : TypeDecl :=
  { d with
    name := Text.upper d.name
    bases := d.bases.map Text.upper
    interfaces := d.interfaces.map Text.upper }

lemma heading_capitals {kind : Kind} {modifiers : List Modifier} {s rest : List Char} {d : TypeDecl}
    (h : heading kind modifiers s = some (d, rest)) :
    heading kind modifiers (capitals s) = some (d.upper, capitals rest) := by
  obtain ⟨w, t, hword, h⟩ := bind_eq_some_iff.1 h
  obtain ⟨bases, t, hbases, h⟩ := bind_eq_some_iff.1 h
  obtain ⟨interfaces, t, hinterfaces, h⟩ := bind_eq_some_iff.1 h
  obtain ⟨u, t, hopen, h⟩ := bind_eq_some_iff.1 h
  cases h
  have hlast : Detached .inner _ := detached_of_eq (fun _ => rfl) hopen
  obtain ⟨hmiddle, hinterfaces⟩ := clauseIf_capitals hinterfaces hlast
  obtain ⟨-, hbases⟩ := clauseIf_capitals hbases hmiddle
  have hopen := (recases_symbolAt .inner "\x7b" (by decide)).of_eq hopen
  rw [heading, bind_of_eq (recases_word.of_eq hword), bind_of_eq hbases, bind_of_eq hinterfaces, symbol,
    bind_of_eq hopen]
  simp [TypeDecl.upper, upper]

/-- A declaration up to its members, from its modifiers on. -/
def opening : Reader TypeDecl := do
  let modifiers ← many modifier
  let k ← keywordOf ["class", "const", "interface", "trait", "enum", "function"]
  heading (kindOf k) modifiers

/-- In capitals a declaration opens with the same names in capitals. -/
lemma opening_capitals {s rest : List Char} {d : TypeDecl} (h : opening s = some (d, rest)) :
    opening (capitals s) = some (d.upper, capitals rest) := by
  obtain ⟨modifiers, after, hmodifiers, h⟩ := bind_eq_some_iff.1 h
  obtain ⟨k, t, hk, h⟩ := bind_eq_some_iff.1 h
  have hsame : many modifier (capitals s) = some (modifiers, capitals after) := by
    simpa using recases_modifier.many.of_eq hmodifiers
  rw [opening, bind_of_eq hsame, bind_of_eq ((recases_keywordOf _).of_eq hk)]
  exact heading_capitals h

section

variable {n : Nested} {s s' rest rest' : List Char} {d d' : TypeDecl}

lemma typeDeclRest_eq_some {kind : Kind} {modifiers : List Modifier}
    (h : typeDeclRest n kind modifiers s = some (d, rest)) :
    ∃ head body, heading kind modifiers s = some (head, body) ∧
      d = head.having (repeated (member n) body).1 := by
  rw [typeDeclRest_eq_heading] at h
  obtain ⟨head, body, hhead, h⟩ := bind_eq_some_iff.1 h
  obtain ⟨l, t, hmany, h⟩ := bind_eq_some_iff.1 h
  obtain ⟨u, t, hclose, h⟩ := bind_eq_some_iff.1 h
  cases h
  have hl : repeated (member n) body = (l, _) := Option.some.inj hmany
  exact ⟨head, body, hhead, by rw [hl]⟩

lemma require_eq_some {condition : Bool} {u : Unit} (h : require condition s = some (u, rest)) :
    condition = true ∧ rest = s := by
  cases condition with
  | true =>
      cases h
      exact ⟨rfl, rfl⟩
  | false => cases h

/-- A definition that is kept is a declaration, which opens before its members. -/
lemma definition_eq_some {item : Item} (h : definition n s = some (some item, rest)) :
    ∃ head body, opening s = some (head, body) ∧
      item = .declaration (head.having (repeated (member n) body).1) := by
  obtain ⟨modifiers, t, hmodifiers, h⟩ := bind_eq_some_iff.1 h
  obtain ⟨k, t, hk, h⟩ := bind_eq_some_iff.1 h
  have hopening : opening s = heading (kindOf k) modifiers t := by
    rw [opening, bind_of_eq hmodifiers, bind_of_eq hk]
  have hdeclaration {kind : Kind} {modifiers : List Modifier}
      (h : (some <$> Item.declaration <$> typeDeclRest n kind modifiers) t = some (some item, rest)) :
      ∃ head body, heading kind modifiers t = some (head, body) ∧
        item = .declaration (head.having (repeated (member n) body).1) := by
    obtain ⟨i, hi, hitem⟩ := map_eq_some h
    obtain ⟨d, hd, rfl⟩ := map_eq_some hi
    obtain ⟨head, body, hhead, rfl⟩ := typeDeclRest_eq_some hd
    exact ⟨head, body, hhead, Option.some.inj hitem⟩
  rw [hopening]
  split at h
  · exact hdeclaration h
  · obtain ⟨u, t, -, h⟩ := bind_eq_some_iff.1 h
    cases h
  · obtain ⟨u, after, hempty, hkind⟩ := bind_eq_some_iff.1 h
    obtain ⟨hnil, rfl⟩ := require_eq_some hempty
    rw [List.isEmpty_iff.1 hnil]
    split at hkind
    · obtain ⟨u, t, -, h⟩ := bind_eq_some_iff.1 hkind
      cases h
    · obtain ⟨u, t, -, h⟩ := bind_eq_some_iff.1 hkind
      cases h
    · exact hdeclaration hkind

end

/-! ## Statements -/

/-- A namespace up to the statements in its braces. -/
def namespaceOpening : Reader String := do
  let _ ← rawWord
  let _ ← gap
  let text ← optional? (spelled (nameWords .last))
  symbolAt .last "\x7b"
  pure ((text.map fun (_, t) => String.ofList t).getD "")

section

variable {n : Nested} {s s' rest rest' : List Char} {d d' : TypeDecl}

lemma yields_namespace (n : Nested) :
    Yields (do let _ ← rawWord; namespaceRest n) fun item => ∀ d, item ≠ .declaration d := by
  refine .after fun _ => .after fun _ => .after fun _ => .after fun block => ?_
  cases block with
  | some items => exact .pure fun _ h => by cases h
  | none => exact .after fun _ => .after fun _ => .pure fun _ h => by cases h

lemma namespaceRest_eq_some {space : String} {items : List Item}
    (h : (do let _ ← rawWord; namespaceRest n) s = some (.block space items, rest)) :
    ∃ inner, namespaceOpening s = some (space, inner) ∧
      items = (repeated n.statement inner).1.filterMap id := by
  obtain ⟨w, t, hword, h⟩ := bind_eq_some_iff.1 h
  obtain ⟨parts, t, hgap, h⟩ := bind_eq_some_iff.1 h
  obtain ⟨text, t, htext, h⟩ := bind_eq_some_iff.1 h
  cases hblock : n.blockAt .last t with
  | none =>
      rw [bind_of_eq (optional?_of_refused hblock)] at h
      obtain ⟨u, t, -, h⟩ := bind_eq_some_iff.1 h
      obtain ⟨u, t, -, h⟩ := bind_eq_some_iff.1 h
      cases h
  | some taken =>
      obtain ⟨inside, after⟩ := taken
      rw [bind_of_eq (optional?_of_eq hblock)] at h
      cases h
      obtain ⟨u, inner, hopen, hblock⟩ := bind_eq_some_iff.1 hblock
      obtain ⟨l, t, hmany, hblock⟩ := bind_eq_some_iff.1 hblock
      obtain ⟨v, t, -, hblock⟩ := bind_eq_some_iff.1 hblock
      cases hblock
      have hl : repeated n.statement inner = (l, _) := Option.some.inj hmany
      refine ⟨inner, ?_, by rw [hl]⟩
      rw [namespaceOpening, bind_of_eq hword, bind_of_eq hgap, bind_of_eq htext, bind_of_eq hopen]
      rfl

/-- What only ever gives nothing does not give an item. -/
lemma elim_of_yields_none {P : Prop} {x : Reader (Option Item)} {item : Item} (hx : Yields x (· = none))
    (h : x s = some (some item, rest)) : P := by
  cases hx _ _ _ h

/-- An item that starts with a word is a definition, a namespace or an import. -/
lemma wordStatement_eq_some {item : Item} (h : wordStatement n s = some (some item, rest)) :
    definition n s = some (some item, rest) ∨
      (do let _ ← rawWord; namespaceRest n) s = some (item, rest) ∨ ∃ u, item = .imports u := by
  have hexpression : Yields (expressionStatement n) (· = none) :=
    .after fun _ => .after fun _ => .after fun _ => .pure rfl
  obtain ⟨w, t, hword, hrest⟩ := bind_eq_some_iff.1 h
  obtain rfl := (nextWord_eq_some hword).symm
  -- the word decides what is read; most of what it can start is no item
  cases hstarts : keywordStatement n (smallForm w) with
  | some read =>
      rw [hstarts] at hrest
      exact elim_of_yields_none (.after fun _ => .after fun _ => .pure rfl) hrest
  | none =>
      rw [hstarts] at hrest
      dsimp only at hrest
      split at hrest
      · obtain ⟨w, t, -, hrest⟩ := bind_eq_some_iff.1 hrest
        obtain ⟨i, hi, hitem⟩ := map_eq_some hrest
        obtain ⟨u, -, rfl⟩ := map_eq_some hi
        exact Or.inr (Or.inr ⟨u, Option.some.inj hitem⟩)
      split at hrest
      · obtain ⟨w, t, hw, hrest⟩ := bind_eq_some_iff.1 hrest
        obtain ⟨i, hi, hitem⟩ := map_eq_some hrest
        cases hitem
        exact Or.inr (Or.inl ((bind_of_eq hw).trans hi))
      split at hrest
      · obtain ⟨isVariable, t, hsees, hrest⟩ := bind_eq_some_iff.1 hrest
        cases hsees
        split at hrest
        · exact elim_of_yields_none (.after fun _ => .after fun _ => .pure rfl) hrest
        · cases hdefinition : definition n s with
          | some taken =>
              rw [oneOf_of_eq hdefinition] at hrest
              exact Or.inl hrest
          | none =>
              rw [oneOf_of_refused hdefinition, oneOf_singleton] at hrest
              exact elim_of_yields_none hexpression hrest
      split at hrest
      · obtain ⟨isFunction, t, hsees, hrest⟩ := bind_eq_some_iff.1 hrest
        cases hsees
        split at hrest
        · exact Or.inl hrest
        · exact elim_of_yields_none hexpression hrest
      split at hrest
      · exact Or.inl hrest
      · obtain ⟨isLabel, t, -, hrest⟩ := bind_eq_some_iff.1 hrest
        split at hrest
        · exact elim_of_yields_none (.pure rfl) hrest
        · exact elim_of_yields_none hexpression hrest

/-- The text from its first token on. -/
def start (s : List Char) : List Char :=
  (gapParts .inner true s).2

/-- Where no attribute comes first, an item starts with a word. -/
lemma statement_eq_some {item : Item} (h : statement n s = some (some item, rest))
    (hplain : (start s).head? ≠ some '#') : wordStatement n (start s) = some (some item, rest) := by
  obtain ⟨parts, t, hgap, h⟩ := bind_eq_some_iff.1 h
  obtain rfl : start s = t := congrArg Prod.snd (Option.some.inj hgap)
  obtain ⟨next, t, hpeek, hrest⟩ := bind_eq_some_iff.1 h
  obtain ⟨hnext, rfl⟩ : (start s).head? = next ∧ start s = t := Prod.mk.inj (Option.some.inj hpeek)
  cases next with
  | none => cases hrest
  | some c =>
      dsimp only at hrest
      split at hrest
      · exact elim_of_yields_none (.after fun _ => .pure rfl) hrest
      split at hrest
      · exact elim_of_yields_none (.after fun _ => .pure rfl) hrest
      split at hrest
      · next hhash => exact absurd (hhash ▸ hnext) hplain
      · exact hrest

end

/-! ## Traits -/

/-- A member that names traits, up to the last of them. -/
def traitNames : Reader (List String) := do
  let _ ← openGap
  keyword "use"
  classNames .last

section

variable {n : Nested} {s s' rest rest' : List Char} {names names' : List String}

/-- After the names of traits there is no backslash. -/
lemma detached_of_traitsRest {u : Unit} (h : oneOf
      [do
        symbolAt .last "\x7b"
        let _ ← many (traitRule n)
        symbol "\x7d",
       semicolon] s = some (u, rest)) : Detached .last s := by
  cases hopen : symbolAt .last "\x7b" s with
  | some taken => exact detached_of_eq (fun _ => rfl) hopen
  | none =>
      rw [oneOf_of_refused (bind_of_refused hopen), oneOf_singleton] at h
      exact detached_of_eq (fun _ => rfl) h

lemma member_eq_some (h : member n s = some (.traits names, rest)) :
    ∃ after, traitNames s = some (names, after) ∧ Detached .last after := by
  obtain ⟨parts, t, hgap, h⟩ := bind_eq_some_iff.1 h
  obtain ⟨isUse, t, hfound, hmember⟩ := bind_eq_some_iff.1 h
  rcases found_eq_some hfound with ⟨rfl, u, huse⟩ | ⟨rfl, rfl⟩
  · obtain ⟨l, htraits, hl⟩ := map_eq_some hmember
    cases hl
    obtain ⟨l, after, hnames, h⟩ := bind_eq_some_iff.1 htraits
    obtain ⟨v, t, hend, h⟩ := bind_eq_some_iff.1 h
    cases h
    refine ⟨after, ?_, ?_⟩
    · rw [traitNames, bind_of_eq hgap, bind_of_eq huse, hnames]
    · exact detached_of_traitsRest hend
  · refine absurd rfl ((?_ : Yields _ fun m => ∀ names, m ≠ Member.traits names) _ _ _ hmember names)
    refine .after fun _ => .after fun modifiers => .after fun isMethod => ?_
    split
    · exact .map fun _ _ _ _ _ h => by cases h
    · refine .after fun isConstant => ?_
      split
      · exact .after fun _ => .pure fun _ h => by cases h
      · exact .after fun _ => .after fun _ => .pure fun _ h => by cases h

lemma traitNames_capitals (h : traitNames s = some (names, rest)) (hrest : Detached .last rest) :
    traitNames (capitals s) = some (names.map upper, capitals rest) := by
  obtain ⟨parts, t, hgap, h⟩ := bind_eq_some_iff.1 h
  obtain ⟨u, t, huse, h⟩ := bind_eq_some_iff.1 h
  have huse := (recases_keywordAt .inner "use").of_eq huse
  rw [traitNames, bind_of_eq (recases_openGap.of_eq hgap), keyword, bind_of_eq huse]
  exact classNames_capitals h hrest

end

/-! ## Folded items -/

/-- A member with small letters in the names of traits. -/
def Member.folded : Member → Member
  | .traits names => .traits (names.map lower)
  | m => m

/-- A declaration with small letters in the names that it is built on. -/
def TypeDecl.folded (d : TypeDecl) : TypeDecl :=
  { d with
    bases := d.bases.map lower
    interfaces := d.interfaces.map lower
    traits := d.traits.map lower }

mutual

/-- An item with small letters in the names that its declarations are built on. -/
def Item.folded : Item → Item
  | .enter space => .enter space
  | .block space items => .block space (foldedIn items)
  | .imports u => .imports u
  | .declaration d => .declaration d.folded

/-- Items with small letters in the names that their declarations are built on. -/
def foldedIn : List Item → List Item
  | [] => []
  | item :: rest => item.folded :: foldedIn rest

end

lemma foldedIn_eq_map (items : List Item) : foldedIn items = items.map Item.folded := by
  induction items with
  | nil => rfl
  | cons item rest ih => rw [foldedIn, ih, List.map_cons]

lemma foldedIn_filterMap {l l' : List (Option Item)}
    (h : l.map (Option.map Item.folded) = l'.map (Option.map Item.folded)) :
    foldedIn (l.filterMap id) = foldedIn (l'.filterMap id) := by
  have hmap (l : List (Option Item)) :
      foldedIn (l.filterMap id) = (l.map (Option.map Item.folded)).filterMap id := by
    rw [foldedIn_eq_map, List.filterMap_map, List.map_filterMap]
    rfl
  rw [hmap, h, ← hmap]

lemma scopeAfter_folded (scope : Scope) (item : Item) :
    item.folded.scopeAfter scope = item.scopeAfter scope := by
  cases item <;> rfl

mutual

lemma declared_folded (scope : Scope) :
    ∀ item : Item, (item.declared scope).map Declared.folded = item.folded.declared scope
  | .enter _ => rfl
  | .block space items => declaredIn_folded (.ofNamespace space) items
  | .imports _ => rfl
  | .declaration _ => rfl

lemma declaredIn_folded (scope : Scope) :
    ∀ items : List Item, (declaredIn scope items).map Declared.folded = declaredIn scope (foldedIn items)
  | [] => rfl
  | item :: rest => by
      rw [declaredIn, List.map_append, declared_folded scope item,
        declaredIn_folded (item.scopeAfter scope) rest, foldedIn, declaredIn, scopeAfter_folded]

end

lemma traitsIn_folded (l : List Member) : traitsIn (l.map Member.folded) = (traitsIn l).map lower := by
  rw [traitsIn, traitsIn, List.flatMap_map, List.map_flatMap]
  congr 1
  funext m
  cases m <;> rfl

lemma methodsIn_folded (l : List Member) : methodsIn (l.map Member.folded) = methodsIn l := by
  rw [methodsIn, methodsIn, List.filterMap_map]
  congr 1
  funext m
  cases m <;> rfl

section

variable {n : Nested} {s s' rest rest' : List Char}

lemma having_folded {head head' : TypeDecl} {l l' : List Member} (hhead : head.upper = head'.upper)
    (hname : head.name = head'.name) (hl : l.map Member.folded = l'.map Member.folded) :
    (head.having l).folded = (head'.having l').folded := by
  rw [TypeDecl.upper, TypeDecl.upper, TypeDecl.mk.injEq] at hhead
  obtain ⟨hkind, -, habstract, hbases, hinterfaces, -, -⟩ := hhead
  rw [TypeDecl.folded, TypeDecl.folded, TypeDecl.mk.injEq]
  refine ⟨hkind, hname, habstract, map_lower_of_map_upper hbases, map_lower_of_map_upper hinterfaces,
    ?_, ?_⟩
  · change (traitsIn l).map lower = (traitsIn l').map lower
    rw [← traitsIn_folded, hl, traitsIn_folded]
  · change methodsIn l = methodsIn l'
    rw [← methodsIn_folded, hl, methodsIn_folded]

/-- Two texts with the same letters open declarations alike. -/
lemma opening_alike {head head' : TypeDecl} {body body' : List Char} (letters : capitals s = capitals s')
    (h : opening s = some (head, body)) (h' : opening s' = some (head', body')) :
    head.upper = head'.upper ∧ capitals body = capitals body' := by
  have hsame := opening_capitals h
  rw [letters, opening_capitals h'] at hsame
  obtain ⟨hhead, hbody⟩ := Prod.mk.inj (Option.some.inj hsame)
  exact ⟨hhead.symm, hbody.symm⟩

lemma start_capitals (s : List Char) : start (capitals s) = capitals (start s) :=
  congrArg Prod.snd (gapParts_capitals .inner true s)

lemma head?_start_of_letters (letters : capitals s = capitals s') (h : (start s).head? ≠ some '#') :
    (start s').head? ≠ some '#' := by
  have hsame : capitals (start s) = capitals (start s') := by
    rw [← start_capitals, letters, start_capitals]
  intro hhash
  obtain ⟨t, ht⟩ := List.head?_eq_some_iff.1 hhash
  rw [ht] at hsame
  obtain ⟨t, ht, -⟩ := exists_cons_of_capitals (d := '#') rfl hsame
  exact h (by rw [ht]; rfl)

lemma declaration_eq_some {d : TypeDecl} (h : statement n s = some (some (.declaration d), rest))
    (hplain : (start s).head? ≠ some '#') :
    ∃ head body, opening (start s) = some (head, body) ∧
      d = head.having (repeated (member n) body).1 := by
  rcases wordStatement_eq_some (statement_eq_some h hplain) with h | h | ⟨u, h⟩
  · obtain ⟨head, body, hopen, hd⟩ := definition_eq_some h
    exact ⟨head, body, hopen, Item.declaration.inj hd⟩
  · cases yields_namespace n _ _ _ h d rfl
  · cases h

lemma block_eq_some {space : String} {items : List Item}
    (h : statement n s = some (some (.block space items), rest)) (hplain : (start s).head? ≠ some '#') :
    ∃ inner, namespaceOpening (start s) = some (space, inner) ∧
      items = (repeated n.statement inner).1.filterMap id := by
  rcases wordStatement_eq_some (statement_eq_some h hplain) with h | h | ⟨u, h⟩
  · obtain ⟨head, body, -, hd⟩ := definition_eq_some h
    cases hd
  · exact namespaceRest_eq_some h
  · cases h

/-- Members that name traits in two texts with the same letters are the same up to folding. -/
theorem traits_folded {names names' : List String} (letters : capitals s = capitals s')
    (h : member n s = some (.traits names, rest)) (h' : member n s' = some (.traits names', rest')) :
    (Member.traits names).folded = (Member.traits names').folded := by
  obtain ⟨after, hnames, hdetached⟩ := member_eq_some h
  obtain ⟨after', hnames', hdetached'⟩ := member_eq_some h'
  have hsame := traitNames_capitals hnames hdetached
  rw [letters, traitNames_capitals hnames' hdetached'] at hsame
  have hupper : names.map upper = names'.map upper := (congrArg Prod.fst (Option.some.inj hsame)).symm
  rw [Member.folded, Member.folded, map_lower_of_map_upper hupper]

/-- Declarations in two texts with the same letters are the same up to folding, if they are called the same
and their members are read alike. -/
theorem declaration_folded {d d' : TypeDecl} (letters : capitals s = capitals s')
    (hplain : (start s).head? ≠ some '#')
    (h : statement n s = some (some (.declaration d), rest))
    (h' : statement n s' = some (some (.declaration d'), rest')) (hname : d.name = d'.name)
    (hbody : ∀ head body head' body', opening (start s) = some (head, body) →
      opening (start s') = some (head', body') → Alike Member.folded (member n) body body') :
    d.folded = d'.folded := by
  obtain ⟨head, body, hopen, rfl⟩ := declaration_eq_some h hplain
  obtain ⟨head', body', hopen', rfl⟩ := declaration_eq_some h' (head?_start_of_letters letters hplain)
  have hstart : capitals (start s) = capitals (start s') := by
    rw [← start_capitals, letters, start_capitals]
  obtain ⟨hhead, -⟩ := opening_alike hstart hopen hopen'
  exact having_folded hhead hname (hbody _ _ _ _ hopen hopen').map_repeated

/-- Namespaces in braces are the same up to folding if their statements are read alike. -/
theorem block_folded {space : String} {items items' : List Item}
    (hplain : (start s).head? ≠ some '#') (hplain' : (start s').head? ≠ some '#')
    (h : statement n s = some (some (.block space items), rest))
    (h' : statement n s' = some (some (.block space items'), rest'))
    (hinner : ∀ inner inner', namespaceOpening (start s) = some (space, inner) →
      namespaceOpening (start s') = some (space, inner') →
        Alike (Option.map Item.folded) n.statement inner inner') :
    (Item.block space items).folded = (Item.block space items').folded := by
  obtain ⟨inner, hopen, rfl⟩ := block_eq_some h hplain
  obtain ⟨inner', hopen', rfl⟩ := block_eq_some h' hplain'
  rw [Item.folded, Item.folded, foldedIn_filterMap (hinner _ _ hopen hopen').map_repeated]

lemma items?_eq_some {text : String} {items : List Item} (h : items? text = some items) :
    items = (repeated (nested ((pageRest text.toList).2.length + 1)).statement
      (pageRest text.toList).2).1.filterMap id := by
  unfold items? at h
  dsimp only at h
  split at h
  · cases h
  · obtain ⟨⟨l, rest⟩, hrun, hitems⟩ := Option.map_eq_some_iff.1 h
    cases hitems
    obtain ⟨t, t', hget, hrun⟩ := bind_eq_some_iff.1 hrun
    cases hget
    obtain ⟨l, t, hmany, hrun⟩ := bind_eq_some_iff.1 hrun
    obtain ⟨parts, t, -, hrun⟩ := bind_eq_some_iff.1 hrun
    obtain ⟨t, t', -, hrun⟩ := bind_eq_some_iff.1 hrun
    obtain ⟨u, t, -, hrun⟩ := bind_eq_some_iff.1 hrun
    cases hrun
    have hl : repeated (nested ((pageRest text.toList).2.length + 1)).statement _ = (l, _) :=
      Option.some.inj hmany
    rw [hl]

end

end Source

/-- Two source files whose statements are read alike declare the same up to folding. -/
theorem content_folded_of_alike {text text' : String} {items items' : List Item}
    (h : items? text = some items) (h' : items? text' = some items')
    (halike : Reader.Alike (Option.map Item.folded) (nested ((pageRest text.toList).2.length + 1)).statement
      (pageRest text.toList).2 (pageRest text'.toList).2) :
    (Content.text text).folded = (Content.text text').folded := by
  have hitems : foldedIn items = foldedIn items' := by
    rw [items?_eq_some h, items?_eq_some h', ← halike.length]
    exact foldedIn_filterMap halike.map_repeated
  simp only [Content.folded, declarations?, h, h', Option.map_some, declaredIn_folded, hitems]

/-- The same file, or one whose statements are read alike. -/
inductive Content.Alike : Content → Content → Prop where
  | same (c : Content) : Alike c c
  | text {text text' : String} {items items' : List Item} (h : items? text = some items)
      (h' : items? text' = some items')
      (halike : Reader.Alike (Option.map Item.folded) (nested ((pageRest text.toList).2.length + 1)).statement
        (pageRest text.toList).2 (pageRest text'.toList).2) : Alike (.text text) (.text text')

lemma map_folded_of_alike {files other : List Content} (h : List.Forall₂ Content.Alike files other) :
    files.map Content.folded = other.map Content.folded := by
  induction h with
  | nil => rfl
  | cons halike _ ih =>
      rw [List.map_cons, List.map_cons, ih]
      cases halike with
      | same c => rfl
      | text h h' halike => rw [content_folded_of_alike h h' halike]

/-- In files that are read alike a search finds the same class up to folding. -/
theorem classNamed_of_alike {files other : List Content} (h : List.Forall₂ Content.Alike files other)
    (name : String) :
    ClassInfo.folded <$> classNamed files name = ClassInfo.folded <$> classNamed other name :=
  classNamed_folded (map_folded_of_alike h) name

/-! ## A pair of files -/

/-- A class with a parent, an interface and a trait. -/
def kinText : String :=
  "<?php class A extends B implements N\\I \x7b use T; \x7d"

/-- The same with other letters in the names that the class is built on. -/
def recasedText : String :=
  "<?php class A extends b implements n\\i \x7b use t; \x7d"

/-- What a declaration is called. -/
def ownName? : Option Item → Option String
  | some (.declaration d) => some d.name
  | _ => none

/-- The traits that a member names. -/
def traits? : Member → Option (List String)
  | .traits names => some names
  | _ => none

lemma eq_of_ownName? {o : Option Item} {name : String} (h : ownName? o = some name) :
    ∃ d, o = some (.declaration d) ∧ d.name = name := by
  unfold ownName? at h
  split at h
  · exact ⟨_, rfl, Option.some.inj h⟩
  · cases h

lemma eq_of_traits? {m : Member} {names : List String} (h : traits? m = some names) : m = .traits names := by
  unfold traits? at h
  split at h
  · rw [Option.some.inj h]
  · cases h

/-- A step of a repetition, from what can be told of its result. -/
lemma exists_of_told {α β : Type} {x : Reader α} {s rest : List Char} {told : α → β} {b : β}
    (h : (x s).map (Prod.map told id) = some (b, rest)) : ∃ a, x s = some (a, rest) ∧ told a = b := by
  obtain ⟨⟨a, t⟩, hx, ha⟩ := Option.map_eq_some_iff.1 h
  cases ha
  exact ⟨a, hx, rfl⟩

set_option maxRecDepth 100000 in
theorem kin_alike : Content.Alike (.text kinText) (.text recasedText) := by
  let n := nested (pageRest kinText.toList).2.length
  have hfacts : (items? kinText).isSome = true ∧ (items? recasedText).isSome = true ∧
      (statement n (pageRest kinText.toList).2).map (Prod.map ownName? id) = some (some "A", []) ∧
      (statement n (pageRest recasedText.toList).2).map (Prod.map ownName? id) = some (some "A", []) ∧
      (opening (start (pageRest kinText.toList).2)).map Prod.snd = some " use T; \x7d".toList ∧
      (opening (start (pageRest recasedText.toList).2)).map Prod.snd = some " use t; \x7d".toList ∧
      (member n " use T; \x7d".toList).map (Prod.map traits? id) = some (some ["T"], " \x7d".toList) ∧
      (member n " use t; \x7d".toList).map (Prod.map traits? id) = some (some ["t"], " \x7d".toList) := by
    decide +kernel
  obtain ⟨hsome, hsome', hread, hread', hopen, hopen', huse, huse'⟩ := hfacts
  obtain ⟨items, hitems⟩ := Option.isSome_iff_exists.1 hsome
  obtain ⟨items', hitems'⟩ := Option.isSome_iff_exists.1 hsome'
  obtain ⟨o, hdeclared, htold⟩ := exists_of_told hread
  obtain ⟨d, rfl, hname⟩ := eq_of_ownName? htold
  obtain ⟨o, hdeclared', htold'⟩ := exists_of_told hread'
  obtain ⟨d', rfl, hname'⟩ := eq_of_ownName? htold'
  obtain ⟨m, htraits, htold⟩ := exists_of_told huse
  obtain rfl := eq_of_traits? htold
  obtain ⟨m', htraits', htold'⟩ := exists_of_told huse'
  obtain rfl := eq_of_traits? htold'
  have hletters : capitals (pageRest kinText.toList).2 = capitals (pageRest recasedText.toList).2 := by
    decide +kernel
  have hd : d.folded = d'.folded := by
    refine declaration_folded hletters (by decide +kernel) hdeclared hdeclared' (hname.trans hname'.symm) ?_
    intro head body head' body' hhead hhead'
    rw [hhead, Option.map_some, Option.some.injEq] at hopen
    rw [hhead', Option.map_some, Option.some.injEq] at hopen'
    subst hopen hopen'
    have hbody : capitals " use T; \x7d".toList = capitals " use t; \x7d".toList := by decide
    exact .step hbody htraits htraits' (traits_folded hbody htraits htraits') (.same _)
  exact .text hitems hitems' (.step hletters hdeclared hdeclared' (by simp [Item.folded, hd]) (.same []))

end PhpInterface
