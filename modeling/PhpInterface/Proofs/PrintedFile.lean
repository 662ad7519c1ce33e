import PhpInterface.Proofs.ReadSignatures

/-!
# Printed files are read back

A printed file is meant to be read by the same program again.  Its namespace, its imports and its declaration
are statements of the grammar (`statement_namespace`, `statement_use`, `statement_interface`), and a file made
of them is read up to its end (`items?_eq`).  It declares one interface, in the scope that the imports make
(`declaredIn_printedItems`), and in that scope the declaration says what the printed interface was
(`describe_printed`).

`printed_interface_read_back` puts this together with the printer.  Not all of an interface is in its printed
form: whether a parameter accepts `null` follows from its type, and a parameter that takes all remaining
arguments can always be left out.  `Parameter.readBack` and `Method.readBack` say what is read in place of
the original.
-/

namespace PhpInterface

open Reader Source

/-! ## Qualified names -/

/-- A qualified name is its first segment and then segments with a separator in front. -/
lemma glue_cons (w : List Char) (ws : List (List Char)) :
    Text.glue separator (w :: ws) = w ++ ws.flatMap fun v => '\\' :: v := by
  induction ws generalizing w with
  | nil => simp [Text.glue]
  | cons v ws ih =>
      rw [Text.glue, ih v, List.flatMap_cons]
      · rfl
      · exact List.cons_ne_nil _ _

lemma exists_textOf {kind : List Char → Bool} (hkind : ∀ w, kind w = true → isIdentifier w = true)
    {path : List String} (hne : path ≠ []) (h : AllSegments kind path) :
    ∃ (w : List Char) (ws : List (List Char)),
      (QualifiedName.textOf path).toList = w ++ ws.flatMap (fun v => '\\' :: v) ∧
      kind w = true ∧ ∀ v ∈ ws, isWord v = true := by
  cases path with
  | nil => exact absurd rfl hne
  | cons first more =>
      refine ⟨first.toList, more.map String.toList, ?_, h first List.mem_cons_self, ?_⟩
      · rw [QualifiedName.textOf, String.toList_ofList, List.map_cons, glue_cons]
      · intro v hv
        obtain ⟨segment, hsegment, rfl⟩ := List.mem_map.1 hv
        exact isWord_of_isIdentifier (hkind _ (h segment (List.mem_cons_of_mem _ hsegment)))

/-! ## Statements -/

section

variable {n : Nested} {p : Position} {b s w : List Char} {ws : List (List Char)}

/-- A statement that starts with a word. -/
lemma statement_of_word (hb : IsBlankText b) (hw : isWord w = true) :
    statement n (b ++ (w ++ s)) = wordStatement n (w ++ s) := by
  rw [statement, bind_of_eq (openGap_blank hb (solid_word hw))]
  cases w with
  | nil => cases hw
  | cons c w =>
      have hc : isWordStart c = true := head?_word (s := s) hw c rfl
      have hpeek : peek (c :: w ++ s) = some (some c, c :: w ++ s) := rfl
      have hne : ∀ d, isWordStart d = false → c ≠ d := by
        rintro d hd rfl
        rw [hc] at hd
        cases hd
      rw [bind_of_eq hpeek]
      dsimp only
      rw [if_neg (hne ';' rfl), if_neg (hne '\x7b' rfl), if_neg (hne '#' rfl)]

lemma wordStatement_namespace :
    wordStatement n (['n', 'a', 'm', 'e', 's', 'p', 'a', 'c', 'e'] ++ ' ' :: s) =
      (some <$> namespaceRest n) (' ' :: s) := by
  have hword : isWord ['n', 'a', 'm', 'e', 's', 'p', 'a', 'c', 'e'] = true := by decide
  have hends : EndsWord (' ' :: s) := endsWord_cons (by decide)
  have hsmall : smallForm ['n', 'a', 'm', 'e', 's', 'p', 'a', 'c', 'e'] = "namespace" := by decide
  have hkeyword : keywordStatement n "namespace" = none := rfl
  rw [wordStatement, bind_of_eq (nextWord_append hword hends), hsmall, hkeyword]
  dsimp only
  rw [if_neg (by decide), if_pos (by decide), bind_of_eq (rawWord_append hword hends)]

lemma wordStatement_use :
    wordStatement n (['u', 's', 'e'] ++ ' ' :: s) = (some <$> .imports <$> importsRest) (' ' :: s) := by
  have hword : isWord ['u', 's', 'e'] = true := by decide
  have hends : EndsWord (' ' :: s) := endsWord_cons (by decide)
  have hsmall : smallForm ['u', 's', 'e'] = "use" := by decide
  have hkeyword : keywordStatement n "use" = none := rfl
  rw [wordStatement, bind_of_eq (nextWord_append hword hends), hsmall, hkeyword]
  dsimp only
  rw [if_pos (by decide), bind_of_eq (rawWord_append hword hends)]

lemma wordStatement_interface :
    wordStatement n (['i', 'n', 't', 'e', 'r', 'f', 'a', 'c', 'e'] ++ ' ' :: s) =
      definition n (['i', 'n', 't', 'e', 'r', 'f', 'a', 'c', 'e'] ++ ' ' :: s) := by
  have hword : isWord ['i', 'n', 't', 'e', 'r', 'f', 'a', 'c', 'e'] = true := by decide
  have hends : EndsWord (' ' :: s) := endsWord_cons (by decide)
  have hsmall : smallForm ['i', 'n', 't', 'e', 'r', 'f', 'a', 'c', 'e'] = "interface" := by decide
  have hkeyword : keywordStatement n "interface" = none := rfl
  rw [wordStatement, bind_of_eq (nextWord_append hword hends), hsmall, hkeyword]
  dsimp only
  rw [if_neg (by decide), if_neg (by decide), if_neg (by decide), if_neg (by decide), if_pos (by decide)]

lemma endsWord_semicolon : EndsWord (';' :: s) :=
  endsWord_cons (by decide)

lemma separator_refused : symbolAt p "\\" (';' :: s) = none :=
  symbolAt_cons_of_refused rfl rfl

lemma blockAt_refused : n.blockAt p (';' :: s) = none :=
  bind_of_refused (symbolAt_cons_of_refused rfl rfl)

lemma semicolon_eq : semicolon (';' :: s) = some ((), s) :=
  semicolon_of_eq (b := []) isBlankText_nil

variable {path : List String}

/-- A printed namespace. -/
lemma statement_namespace (hb : IsBlankText b) (hne : path ≠ []) (hpath : AllSegments isIdentifier path) :
    statement n (b ++ (['n', 'a', 'm', 'e', 's', 'p', 'a', 'c', 'e'] ++
        ' ' :: ((QualifiedName.textOf path).toList ++ ';' :: s))) =
      some (some (.enter (QualifiedName.textOf path)), s) := by
  obtain ⟨w, ws, htext, hidentifier, hws⟩ := exists_textOf (fun w => id) hne hpath
  have hw := isWord_of_isIdentifier hidentifier
  have hwords : nameWords .last ((QualifiedName.textOf path).toList ++ ';' :: s) = some ((), ';' :: s) := by
    rw [htext, List.append_assoc]
    exact nameWords_eq hw hws endsWord_semicolon separator_refused
  have hgap : gap (' ' :: ((QualifiedName.textOf path).toList ++ ';' :: s)) =
      some ([.blank], (QualifiedName.textOf path).toList ++ ';' :: s) := by
    rw [htext, List.append_assoc]
    exact gapAt_blank (b := [' ']) (by decide) (solid_word hw)
  have hrest : namespaceRest n (' ' :: ((QualifiedName.textOf path).toList ++ ';' :: s)) =
      some (.enter (QualifiedName.textOf path), s) := by
    rw [namespaceRest, bind_of_eq hgap, bind_of_eq (optional?_of_eq (spelled_of_eq hwords)),
      bind_of_eq (optional?_of_refused blockAt_refused)]
    dsimp only
    rw [Option.isSome_some, bind_of_eq (require_of_true rfl), bind_of_eq semicolon_eq]
    simp
  rw [statement_of_word hb (by decide), wordStatement_namespace]
  exact map_of_eq hrest

/-- The word after `use` imports no function and no constant. -/
lemma importKind_refused (hb : IsBlankText b) (hw : isPlainName w = true) (hs : EndsWord s) :
    found importKind (b ++ (w ++ s)) = some (false, b ++ (w ++ s)) := by
  refine found_of_refused (bind_of_refused (keywordOf_of_not_mem hb ?_ hs ?_))
  · exact isWord_of_isPlainName hw
  · exact contains_of_isPlainName hw (by decide)

/-- An import of one name is no group of imports. -/
lemma importGroup_refused (hb : IsBlankText b) (hw : isPlainName w = true) (hws : ∀ v ∈ ws, isWord v = true) :
    importGroup (b ++ (w ++ (ws.flatMap (fun v => '\\' :: v) ++ ';' :: s))) = none := by
  have hword := isWord_of_isPlainName hw
  have hends : EndsWord (ws.flatMap (fun v => '\\' :: v) ++ ';' :: s) := endsWord_segments endsWord_semicolon
  have hrooted : symbol "\\" (b ++ (w ++ (ws.flatMap (fun v => '\\' :: v) ++ ';' :: s))) = none :=
    symbolAt_word_refused rfl rfl hb hword
  have houter : (do let w ← rawWord; segments .last; pure w : Reader (List Char))
      ((w ++ ws.flatMap fun v => '\\' :: v) ++ ';' :: s) = some (w, ';' :: s) := by
    rw [List.append_assoc, bind_of_eq (rawWord_append hword hends),
      bind_of_eq (segments_flatMap hws endsWord_semicolon separator_refused)]
    rfl
  have hrelative : (false || !isRelativeWord w) = true := by
    rw [isRelativeWord_of_isPlainName hw]
    rfl
  rw [importGroup, bind_of_eq (importKind_refused hb hw hends), bind_of_eq (found_of_refused hrooted),
    gap, bind_of_eq (gapAt_blank hb (solid_word hword)), ← List.append_assoc w,
    bind_of_eq (spelled_of_eq houter)]
  dsimp only
  -- a group would go on with a separator after the outer name, and here the statement ends
  rw [bind_of_eq (require_of_true hrelative), bind_of_refused separator_refused]

lemma importClause_eq (hb : IsBlankText b) (hw : isPlainName w = true) (hws : ∀ v ∈ ws, isWord v = true) :
    importClause .last (b ++ (w ++ (ws.flatMap (fun v => '\\' :: v) ++ ';' :: s))) =
      some (⟨false, String.ofList (w ++ ws.flatMap fun v => '\\' :: v), none⟩, ';' :: s) := by
  have hword := isWord_of_isPlainName hw
  have hwords : classWords .last ((w ++ ws.flatMap fun v => '\\' :: v) ++ ';' :: s) =
      some ((), ';' :: s) := by
    rw [List.append_assoc]
    exact classWords_eq hword (isRelativeWord_of_isPlainName hw) hws endsWord_semicolon separator_refused
  have hname : className .last (b ++ (w ++ (ws.flatMap (fun v => '\\' :: v) ++ ';' :: s))) =
      some (w ++ ws.flatMap (fun v => '\\' :: v), ';' :: s) := by
    rw [className, gap, bind_of_eq (gapAt_blank hb (solid_word hword)), ← List.append_assoc w,
      bind_of_eq (spelled_of_eq hwords)]
    rfl
  have halias : keywordAt .last "as" (';' :: s) = none :=
    keywordAt_of_refused (b := []) isBlankText_nil (solid_cons rfl) (rawWord_cons_of_false rfl)
  rw [importClause, bind_of_eq (importKind_refused hb hw (endsWord_segments endsWord_semicolon)),
    bind_of_eq hname, bind_of_eq (optional?_of_refused (bind_of_refused halias))]
  rfl

/-- A printed import. -/
lemma statement_use (hb : IsBlankText b) (hne : path ≠ []) (hpath : AllSegments isPlainName path) :
    statement n (b ++ (['u', 's', 'e'] ++ ' ' :: ((QualifiedName.textOf path).toList ++ ';' :: s))) =
      some (some (.imports (.names [⟨false, QualifiedName.textOf path, none⟩])), s) := by
  obtain ⟨w, ws, htext, hw, hws⟩ := exists_textOf (fun w => isIdentifier_of_isPlainName) hne hpath
  have hcomma : symbolAt .last "," (';' :: s) = none := symbolAt_cons_of_refused rfl rfl
  have hgroup : importGroup (' ' :: ((QualifiedName.textOf path).toList ++ ';' :: s)) = none := by
    rw [htext, List.append_assoc]
    exact importGroup_refused (b := [' ']) (by decide) hw hws
  have hclause : importClause .last (' ' :: ((QualifiedName.textOf path).toList ++ ';' :: s)) =
      some (⟨false, QualifiedName.textOf path, none⟩, ';' :: s) := by
    rw [← String.ofList_toList (s := QualifiedName.textOf path), String.toList_ofList, htext,
      List.append_assoc]
    exact importClause_eq (b := [' ']) (by decide) hw hws
  have hclauses : (ImportStatement.names <$> sepBy1 (importClause .last) (symbolAt .last ","))
      (' ' :: ((QualifiedName.textOf path).toList ++ ';' :: s)) =
      some (.names [⟨false, QualifiedName.textOf path, none⟩], ';' :: s) := by
    have hlist : sepBy1 (importClause .last) (symbolAt .last ",")
        (' ' :: ((QualifiedName.textOf path).toList ++ ';' :: s)) =
        some ([⟨false, QualifiedName.textOf path, none⟩], ';' :: s) := by
      rw [sepBy1, bind_of_eq hclause, bind_of_eq (many_of_refused (bind_of_refused hcomma))]
      rfl
    exact map_of_eq hlist
  have hrest : importsRest (' ' :: ((QualifiedName.textOf path).toList ++ ';' :: s)) =
      some (.names [⟨false, QualifiedName.textOf path, none⟩], s) := by
    rw [importsRest, bind_of_eq ((oneOf_of_refused hgroup).trans (oneOf_of_eq hclauses)),
      bind_of_eq semicolon_eq]
    rfl
  rw [statement_of_word hb (by decide), wordStatement_use]
  exact map_of_eq (map_of_eq hrest)

/-- The declaration that a printed interface is read as. -/
def Source.TypeDecl.ofMethods (short : String) (methods : List Method) : TypeDecl where
  kind := .interfaceKind
  name := short
  isAbstract := false
  bases := []
  interfaces := []
  traits := []
  methods := methods.map .ofMethod

lemma typeDeclRest_eq {short : String} {methods : List Method} (hshort : isIdentifier short.toList = true)
    (hmethods : ∀ m ∈ methods, m.isPlain = true) :
    typeDeclRest n .interfaceKind [] (' ' :: (short.toList ++ '\n' :: (bodyText methods ++ s))) =
      some (.ofMethods short methods, s) := by
  have hword : word (' ' :: (short.toList ++ '\n' :: (bodyText methods ++ s))) =
      some (short.toList, '\n' :: (bodyText methods ++ s)) :=
    word_append (b := [' ']) (by decide) (isWord_of_isIdentifier hshort) (endsWord_cons (by decide))
  have hextends : keyword "extends" ('\n' :: (bodyText methods ++ s)) = none :=
    keywordAt_of_refused (b := ['\n']) (by decide) (solid_cons rfl) (rawWord_cons_of_false rfl)
  have hbases : clause "extends" ('\n' :: (bodyText methods ++ s)) =
      some ([], '\n' :: (bodyText methods ++ s)) :=
    bind_of_eq (found_of_refused hextends)
  have hmembers : members n ('\n' :: (bodyText methods ++ s)) =
      some (methods.map fun m => .method (.ofMethod m), s) :=
    members_eq (b := ['\n']) hmethods (by decide)
  rw [typeDeclRest, bind_of_eq hword, if_neg (by decide), bind_of_eq hbases]
  dsimp only
  rw [if_neg (by decide), pure_bind, bind_of_eq hmembers, String.ofList_toList, TypeDecl.ofMethods]
  simp [List.flatMap_map, List.filterMap_map]

/-- A printed declaration. -/
lemma statement_interface {short : String} {methods : List Method} (hb : IsBlankText b)
    (hshort : isIdentifier short.toList = true) (hmethods : ∀ m ∈ methods, m.isPlain = true) :
    statement n (b ++ (declarationText short methods ++ s)) =
      some (some (.declaration (.ofMethods short methods)), s) := by
  have htext : declarationText short methods ++ s = ['i', 'n', 't', 'e', 'r', 'f', 'a', 'c', 'e'] ++ ' ' ::
      (short.toList ++ '\n' :: (bodyText methods ++ s)) := by
    simp [declarationText]
  have hword : isWord ['i', 'n', 't', 'e', 'r', 'f', 'a', 'c', 'e'] = true := by decide
  have hends : ∀ s, EndsWord (' ' :: s) := fun s => endsWord_cons (by decide)
  have hmodifier : ∀ s, modifier (['i', 'n', 't', 'e', 'r', 'f', 'a', 'c', 'e'] ++ ' ' :: s) = none :=
    fun s => modifier_refused (b := []) isBlankText_nil hword (hends s) (by decide)
  have hkind : ∀ s, keywordOf ["class", "const", "interface", "trait", "enum", "function"]
      (['i', 'n', 't', 'e', 'r', 'f', 'a', 'c', 'e'] ++ ' ' :: s) = some ("interface", ' ' :: s) :=
    fun s => keywordOf_of_eq (b := []) isBlankText_nil hword (hends s) (by decide) (by decide)
  have hdefinition : ∀ s, definition n (['i', 'n', 't', 'e', 'r', 'f', 'a', 'c', 'e'] ++ ' ' :: s) =
      (some <$> Item.declaration <$> typeDeclRest n .interfaceKind []) (' ' :: s) := by
    intro s
    rw [definition, bind_of_eq (many_of_refused (hmodifier s)), bind_of_eq (hkind s)]
    rfl
  rw [htext, statement_of_word hb hword, wordStatement_interface, hdefinition]
  exact map_of_eq (map_of_eq (typeDeclRest_eq hshort hmethods))

end

/-! ## The file -/

/-- The statements of a printed file. -/
def printedItems (context : QualifiedName) (imports : List QualifiedName) (methods : List Method) :
    List Item :=
  (if context.isGlobal then [] else [.enter context.pathText]) ++
    (imports.map (fun name => .imports (.names [⟨false, name.text, none⟩])) ++
      [.declaration (.ofMethods context.short methods)])

section

variable {n : Nested} {b : List Char} {context : QualifiedName} {imports : List QualifiedName}
  {methods : List Method}

lemma statement_nil : statement n [] = none := by
  have hgap : openGap [] = some ([], []) := openGap_blank (b := []) isBlankText_nil solid_nil
  rw [statement, bind_of_eq hgap]
  rfl

/-- Below the namespace stand the imports, and after them the declaration. -/
lemma many_statement_imports (hb : IsBlankText b)
    (hshort : isIdentifier context.short.toList = true)
    (himports : ∀ name ∈ imports, AllSegments isPlainName (name.path ++ [name.short]))
    (hmethods : ∀ m ∈ methods, m.isPlain = true) :
    many (statement n) (b ++ (imports.flatMap importText ++ ((if imports.isEmpty then [] else ['\n']) ++
        declarationText context.short methods))) =
      some (imports.map (fun name => some (.imports (.names [⟨false, name.text, none⟩]))) ++
        [some (.declaration (.ofMethods context.short methods))], []) := by
  have htext : importText =
      fun name => (['u', 's', 'e'] ++ ' ' :: (name.text.toList ++ [';'])) ++ ['\n'] := by
    funext name
    simp [importText]
  have hread : ∀ name ∈ imports, ['u', 's', 'e'] ++ ' ' :: (name.text.toList ++ [';']) ≠ [] ∧
      IsBlankText ['\n'] ∧ ∀ b rest, IsBlankText b →
        statement n (b ++ (['u', 's', 'e'] ++ ' ' :: (name.text.toList ++ [';']) ++ rest)) =
          some (some (.imports (.names [⟨false, name.text, none⟩])), rest) := by
    intro name hname
    refine ⟨List.cons_ne_nil _ _, by decide, fun b rest hb => ?_⟩
    have huse : statement n (b ++ (['u', 's', 'e'] ++ ' ' :: (name.text.toList ++ ';' :: rest))) =
        some (some (.imports (.names [⟨false, name.text, none⟩])), rest) :=
      statement_use hb (by simp) (himports name hname)
    simpa only [List.append_assoc, List.cons_append, List.nil_append] using huse
  obtain ⟨b', hb', hmany⟩ := many_pieces hread hb
    (s := (if imports.isEmpty then [] else ['\n']) ++ declarationText context.short methods)
  rw [htext]
  refine hmany _ _ ?_
  -- the empty line after the imports belongs to the gap before the declaration
  have hblank : IsBlankText (b' ++ if imports.isEmpty then [] else ['\n']) :=
    hb'.append (by split <;> decide)
  have hstatement := statement_interface (n := n) (s := []) hblank hshort hmethods
  rw [List.append_nil, List.append_assoc] at hstatement
  refine many_of_eq hstatement ?_ (many_of_refused statement_nil)
  simp only [declarationText, List.length_append, List.length_cons, List.length_nil]
  omega

/-- A printed file is read statement by statement up to its end. -/
lemma many_statement (hcontext : AllSegments isIdentifier (context.path ++ [context.short]))
    (himports : ∀ name ∈ imports, AllSegments isPlainName (name.path ++ [name.short]))
    (hmethods : ∀ m ∈ methods, m.isPlain = true) (hb : IsBlankText b) :
    many (statement n) (b ++ programText context imports methods) =
      some ((printedItems context imports methods).map some, []) := by
  have hshort : isIdentifier context.short.toList = true := hcontext context.short (by simp)
  have hrest := fun b hb => many_statement_imports (n := n) (b := b) hb hshort himports hmethods
  rw [programText, spaceText, printedItems]
  cases hglobal : context.isGlobal with
  | true => simpa [Function.comp_def] using hrest b hb
  | false =>
      have hne : context.path ≠ [] := by
        rintro hnil
        rw [QualifiedName.isGlobal, hnil] at hglobal
        cases hglobal
      have hpath : AllSegments isIdentifier context.path := fun segment hsegment =>
        hcontext segment (List.mem_append_left _ hsegment)
      have hblank : IsBlankText ['\n', '\n'] := by decide
      have hnamespace := statement_namespace (n := n) (s := ['\n', '\n'] ++ (imports.flatMap importText ++
        ((if imports.isEmpty then [] else ['\n']) ++ declarationText context.short methods))) hb hne hpath
      have hmany := many_of_eq hnamespace (by simp; omega) (hrest _ hblank)
      simpa [QualifiedName.pathText, Function.comp_def] using hmany

/-- A printed file follows the grammar, and these are its statements. -/
lemma items?_eq {text : String} (hcontext : AllSegments isIdentifier (context.path ++ [context.short]))
    (himports : ∀ name ∈ imports, AllSegments isPlainName (name.path ++ [name.short]))
    (hmethods : ∀ m ∈ methods, m.isPlain = true)
    (htext : text.toList = ['<', '?', 'p', 'h', 'p', '\n', '\n'] ++ programText context imports methods)
    (hnul : '\x00' ∉ text.toList) : items? text = some (printedItems context imports methods) := by
  have hpage : (pageRest text.toList).2 = ['\n', '\n'] ++ programText context imports methods := by
    rw [htext]
    rfl
  have hprogram : program (['\n', '\n'] ++ programText context imports methods) =
      some (printedItems context imports methods, []) := by
    -- the bound on the depth comes from the length of the text; any other would do
    have hmany : ∀ depth, many (nested (depth + 1)).statement
        (['\n', '\n'] ++ programText context imports methods) =
        some ((printedItems context imports methods).map some, []) := fun depth =>
      many_statement (n := nested depth) hcontext himports hmethods (by decide)
    have hgap : gap [] = some ([], []) := gapAt_blank (b := []) isBlankText_nil solid_nil
    have hget : ∀ s : List Char, (get : Reader (List Char)) s = some (s, s) := fun s => rfl
    rw [program, bind_of_eq (hget _), bind_of_eq (hmany _), bind_of_eq hgap, bind_of_eq (hget _),
      bind_of_eq (require_of_true List.isEmpty_nil)]
    simp
  rw [items?, hpage, hprogram, if_neg (by simpa using hnul)]
  rfl

end

/-! ## What the file says -/

section

variable {scope : Scope} {t : NamedType} {p : Parameter} {m : Method}

/-- In the scope the printed types mean the classes that they were made from. -/
def MeansTypes (scope : Scope) (types : List NamedType) : Prop :=
  ∀ t ∈ types, t.namesClass = true → scope.resolve (String.ofList t.word) = t.name

lemma describe_ofType (ht : t.isPlain = true)
    (hmeans : t.namesClass = true → scope.resolve (String.ofList t.word) = t.name) :
    (TypeExpr.simple (.ofType t)).describe scope = .ok t := by
  rw [TypeExpr.describe, SimpleType.ofType]
  cases hnull : t.nullable with
  | true =>
      rw [if_pos rfl, SimpleType.describe, NamedType.ofName_word ht hmeans, NamedType.orNull, ← hnull]
  | false =>
      rw [if_neg Bool.false_ne_true, SimpleType.describe, NamedType.ofName_word ht hmeans, ← hnull]

lemma mapM_describe_ofType {o : Option NamedType} (ho : ∀ t ∈ o, t.isPlain = true)
    (hmeans : MeansTypes scope o.toList) :
    (o.map fun t => TypeExpr.simple (.ofType t)).mapM (TypeExpr.describe scope) = .ok o := by
  cases o with
  | none => rfl
  | some t =>
      have ht := describe_ofType (ho t rfl) (hmeans t (by simp))
      simp [ht]

/-- The mark in front of a name is no part of it. -/
lemma parameterName_eq {name : String} (h : isIdentifier name.toList = true) :
    parameterName (String.ofList ('$' :: name.toList)) = name := by
  obtain ⟨c, rest, hname, -, hc, -⟩ := isIdentifier_cases h
  have hmark : (c == '&' || c == '$' || Text.isBlank c) = false := by
    rw [isBlank_of_isNameChar hc, Bool.or_false, Bool.or_eq_false_iff, beq_eq_false_iff_ne,
      beq_eq_false_iff_ne]
    constructor
    all_goals
      rintro rfl
      cases hc
  rw [parameterName, String.toList_ofList, List.dropWhile_cons_of_pos (by decide), hname,
    List.dropWhile_cons_of_neg (by rw [hmark]; exact Bool.false_ne_true), ← hname, String.ofList_toList]

/-- The parameter that is read: it may be left out if it takes all remaining arguments, it has no default,
and whether it accepts `null` follows from its type. -/
def Parameter.readBack (p : Parameter) : Parameter :=
  { p with
    optional := p.variadic
    default := none
    allowsNull := p.type.all NamedType.admitsNull }

lemma describe_ofParameter (hp : p.isPlain = true) (hmeans : MeansTypes scope p.type.toList) :
    (ParameterExpr.ofParameter p).describe scope = .ok { p.readBack with optional := false } := by
  obtain ⟨hname, htype, -⟩ := Parameter.isPlain_iff.1 hp
  rw [ParameterExpr.describe, ParameterExpr.ofParameter]
  dsimp only
  rw [mapM_describe_ofType htype hmeans, parameterName_eq hname]
  cases hcase : p.type with
  | none => simp [Parameter.readBack, hcase, pure, Except.pure]
  | some t => simp [Parameter.readBack, hcase, pure, Except.pure, typeWithDefault]

/-- Without defaults only a parameter that takes all remaining arguments can be left out. -/
lemma markOptional_of_required {l : List (Parameter × Bool)} (h : ∀ x ∈ l, x.2 = false) :
    markOptional l = l.map fun x => { x.1 with optional := x.1.variadic } := by
  induction l with
  | nil => rfl
  | cons x l ih =>
      obtain ⟨q, hasDefault⟩ := x
      have hdefault : hasDefault = false := h _ List.mem_cons_self
      rw [markOptional, ih fun y hy => h y (List.mem_cons_of_mem _ hy), hdefault]
      simp

lemma describeParameters_eq {l : List Parameter} (hl : ∀ p ∈ l, p.isPlain = true)
    (hmeans : MeansTypes scope (l.filterMap (·.type))) :
    describeParameters scope (l.map .ofParameter) = .ok (l.map .readBack) := by
  have hdescribed : (l.map ParameterExpr.ofParameter).mapM (ParameterExpr.describe scope) =
      .ok (l.map fun p => { p.readBack with optional := false }) := by
    rw [List.mapM_map]
    refine mapM_eq_ok_map fun p hp => describe_ofParameter (hl p hp) fun t ht => ?_
    exact hmeans t (List.mem_filterMap.2 ⟨p, hp, by simpa using ht⟩)
  have hmarked : markOptional ((l.map fun p => { p.readBack with optional := false }).zip
      ((l.map ParameterExpr.ofParameter).map (·.default.isSome))) = l.map .readBack := by
    rw [List.map_map, List.zip_map', markOptional_of_required, List.map_map]
    · rfl
    · intro x hx
      obtain ⟨p, -, rfl⟩ := List.mem_map.1 hx
      rfl
  rw [describeParameters, hdescribed]
  exact congrArg Except.ok hmarked

/-- The method that is read, as a member of the interface. -/
def Method.readBack (declaringClass : String) (m : Method) : ClassMethod :=
  { m with
    parameters := m.parameters.map .readBack
    declaringClass }

lemma describe_ofMethod {declaringClass : String} (hm : m.isPlain = true)
    (hmeans : MeansTypes scope m.types) :
    (MethodExpr.ofMethod m).describe scope declaringClass = .ok (m.readBack declaringClass) := by
  obtain ⟨-, hparameters, hresult, hdoc⟩ := Method.isPlain_iff.1 hm
  have hread := describeParameters_eq hparameters fun t ht => hmeans t (List.mem_append_left _ ht)
  have htype := mapM_describe_ofType hresult fun t ht => hmeans t (List.mem_append_right _ ht)
  have hcomment : m.doc.filter isDocumentation = m.doc := by
    cases hcase : m.doc with
    | none => rfl
    | some comment =>
        have hplain := hdoc comment hcase
        simp only [isPlainComment, Bool.and_eq_true] at hplain
        rw [Option.filter, if_pos hplain.1.1.1]
  rw [MethodExpr.describe, MethodExpr.ofMethod]
  dsimp only
  rw [hread, htype, hcomment]
  cases hstatic : m.static with
  | true => simp [Method.readBack, hstatic, visibilityOf, pure, Except.pure]
  | false => simp [Method.readBack, hstatic, visibilityOf, pure, Except.pure]

end

section

variable {context : QualifiedName} {imports : List QualifiedName} {methods : List Method}

/-- Imports that stand one after the other are all in effect below them. -/
lemma declaredIn_imports (scope : Scope) (rest : List Item) :
    declaredIn scope (imports.map (fun name => .imports (.names [⟨false, name.text, none⟩])) ++ rest) =
      declaredIn (importAll scope (imports.map fun name => ⟨name.text, none⟩)) rest := by
  induction imports generalizing scope with
  | nil => rfl
  | cons name imports ih =>
      rw [List.map_cons, List.cons_append, declaredIn, Item.declared, List.nil_append, ih]
      rfl

/-- A printed file declares the interface and nothing else, in the scope of its namespace and imports. -/
lemma declaredIn_printedItems (hc : context.WellFormed) (hi : ∀ name ∈ imports, name.WellFormed) :
    declaredIn {} (printedItems context imports methods) =
      [⟨context.text, printedScope context imports, .ofMethods context.short methods⟩] := by
  have hname : (printedScope context imports).declaredName (TypeDecl.ofMethods context.short methods).name =
      context.text := by
    rw [TypeDecl.ofMethods, printedScope_eq hc hi, Scope.declaredName, hc.isEmpty_pathText,
      QualifiedName.text_eq]
  have hspace : declaredIn {} (printedItems context imports methods) =
      declaredIn (.ofNamespace context.pathText)
        (imports.map (fun name => .imports (.names [⟨false, name.text, none⟩])) ++
          [.declaration (.ofMethods context.short methods)]) := by
    rw [printedItems]
    cases hglobal : context.isGlobal with
    | false =>
        rw [if_neg Bool.false_ne_true, List.singleton_append, declaredIn, Item.declared, List.nil_append,
          Item.scopeAfter]
    | true =>
        have hpath : context.pathText = "" := by
          rw [QualifiedName.pathText, List.isEmpty_iff.1 hglobal]
          rfl
        rw [if_pos rfl, List.nil_append, hpath]
        rfl
  rw [hspace, declaredIn_imports, declaredIn, Item.declared, declaredIn, List.append_nil,
    ← printedScope, hname]

/-- What the printed file says about the interface. -/
lemma describe_printed {name : String} {scope : Scope} {short : String} (hm : ∀ m ∈ methods, m.isPlain = true)
    (hmeans : MeansTypes scope (methods.flatMap Method.types)) :
    (⟨name, scope, .ofMethods short methods⟩ : Declared).describe =
      .ok { name, methods := methods.map (Method.readBack name) } := by
  have hmethods : (methods.map MethodExpr.ofMethod).mapM (MethodExpr.describe scope name) =
      .ok (methods.map (Method.readBack name)) := by
    rw [List.mapM_map]
    refine mapM_eq_ok_map fun m hmem => describe_ofMethod (hm m hmem) fun t ht => ?_
    exact hmeans t (List.mem_flatMap.2 ⟨m, hmem, ht⟩)
  rw [Declared.describe, TypeDecl.ofMethods]
  dsimp only
  rw [hmethods]
  rfl

end

/-! ## Reading back -/

/-- No class that has to be imported has the short name of another class that the signatures mention. -/
def Interface.HasClearImports (i : Interface) : Prop :=
  ∀ context ∈ QualifiedName.parse? i.name, ∀ name ∈ mentionedNames i.methods, name.path ≠ context.path →
    ∀ other ∈ mentionedNames i.methods, other ≠ name → Text.caselessEq name.short other.short = false

section

variable {methods : List Method} {context : QualifiedName} {imports : List QualifiedName}

lemma isPlain_of_mem_types (hmethods : ∀ m ∈ methods, m.isPlain = true) {t : NamedType}
    (ht : t ∈ methods.flatMap Method.types) : t.isPlain = true := by
  obtain ⟨m, hm, ht⟩ := List.mem_flatMap.1 ht
  obtain ⟨-, hparameters, hresult, -⟩ := Method.isPlain_iff.1 (hmethods m hm)
  rcases List.mem_append.1 ht with ht | ht
  · obtain ⟨p, hp, htype⟩ := List.mem_filterMap.1 ht
    exact (Parameter.isPlain_iff.1 (hparameters p hp)).2.1 t htype
  · exact hresult t (by simpa using ht)

/-- All that plain signatures mention can be imported. -/
lemma exists_importsOf (hmethods : ∀ m ∈ methods, m.isPlain = true) (context : QualifiedName) :
    ∃ imports, importsOf context methods = .ok imports := by
  refine eq_ok_of_errorOf ?_
  rw [errorOf_importsOf, List.findSome?_eq_none_iff]
  intro t ht
  rw [← t.errorOf_print, NamedType.print_eq (isPlain_of_mem_types hmethods ht), errorOf_ok]

lemma exists_qualified_of_mem (hmethods : ∀ m ∈ methods, m.isPlain = true) {t : NamedType}
    (ht : t ∈ methods.flatMap Method.types) (hclass : t.namesClass = true) :
    ∃ q, QualifiedName.parse? t.name = some q ∧ q.text = t.name ∧ q.short.toList = t.word ∧
      AllSegments isPlainName (q.path ++ [q.short]) := by
  rcases NamedType.isPlain_cases (isPlain_of_mem_types hmethods ht) with ⟨hnot, -⟩ | ⟨-, hplain⟩
  · rw [hclass] at hnot
    cases hnot
  · exact NamedType.exists_qualified hplain hclass

lemma allSegments_of_mem_importsOf (hmethods : ∀ m ∈ methods, m.isPlain = true)
    (himports : importsOf context methods = .ok imports) :
    ∀ name ∈ imports, AllSegments isPlainName (name.path ++ [name.short]) := by
  intro name hname
  obtain ⟨t, ht, hclass, hparse⟩ := mem_mentionedNames.1 ((mem_importsOf himports).1 hname).1
  obtain ⟨q, hq, -, -, hsegments⟩ := exists_qualified_of_mem hmethods ht hclass
  rw [hparse] at hq
  cases hq
  exact hsegments

/-- Where no import clashes with another class, every printed type means the class it was made from. -/
lemma meansTypes_printedScope (hmethods : ∀ m ∈ methods, m.isPlain = true) (hc : context.WellFormed)
    (himports : importsOf context methods = .ok imports)
    (hfree : ∀ name ∈ imports, ∀ other ∈ mentionedNames methods, other ≠ name →
      Text.caselessEq name.short other.short = false) :
    MeansTypes (printedScope context imports) (methods.flatMap Method.types) := by
  intro t ht hclass
  obtain ⟨q, hq, htext, hshort, -⟩ := exists_qualified_of_mem hmethods ht hclass
  rw [← hshort, String.ofList_toList, ← htext]
  exact resolve_short_of_no_clash hc himports hfree (mem_mentionedNames.2 ⟨t, ht, hclass, hq⟩)

end

/-- A plain interface is printed to a file that declares it again: the file follows the grammar, it declares
one interface and nothing else, and that interface has the same full name and the same methods. -/
theorem printed_interface_read_back {i : Interface} (hplain : i.isPlain = true) (hclear : i.HasClearImports) :
    ∃ text d, i.print = .ok text ∧ declarations? text = some [d] ∧ d.decl.kind = .interfaceKind ∧
      d.name = String.ofList (QualifiedName.dropRoot i.name.toList) ∧
      d.describe = .ok { name := d.name, methods := i.methods.map (Method.readBack d.name) } := by
  obtain ⟨-, hname, hmethods⟩ := Interface.isPlain_iff.1 hplain
  obtain ⟨context, hparse, -, hsegments⟩ := exists_parse?_of_pieces (fun w => id) i.name hname
  have hcontext : contextOf i.name = .ok context := by rw [contextOf, hparse]
  have hc := wellFormed_of_contextOf hcontext
  obtain ⟨imports, himports⟩ := exists_importsOf hmethods context
  have hplainImports := allSegments_of_mem_importsOf hmethods himports
  obtain ⟨text, hprint, htext⟩ := Interface.print_eq hplain hcontext himports
  have hnul : '\x00' ∉ text.toList := by
    have hprogram := nul_not_mem_programText hsegments hplainImports hmethods
    rw [htext]
    simpa using hprogram
  have hitems := items?_eq hsegments hplainImports hmethods htext hnul
  have hfree : ∀ name ∈ imports, ∀ other ∈ mentionedNames i.methods, other ≠ name →
      Text.caselessEq name.short other.short = false := by
    intro name hmem
    obtain ⟨hmentioned, hpath⟩ := (mem_importsOf himports).1 hmem
    exact hclear context hparse name hmentioned hpath
  refine ⟨text, ⟨context.text, printedScope context imports, .ofMethods context.short i.methods⟩, hprint, ?_,
    rfl, ?_, ?_⟩
  · rw [declarations?, hitems, Option.map_some,
      declaredIn_printedItems hc (wellFormed_of_mem_importsOf himports)]
  · rw [← QualifiedName.toList_text_of_parse? hparse, String.ofList_toList]
  · exact describe_printed hmethods (meansTypes_printedScope hmethods hc himports hfree)

/-- Documentation, a static method, a parameter that takes all remaining arguments by reference, and classes
of three namespaces. -/
theorem printed_interface_read_back_shop :
    let shop : Interface :=
      { name := "\\App\\Shop"
        methods :=
          [{ name := "order"
             static := true
             doc := some "/** Sells.\n     * All of it. */"
             parameters :=
              [{ name := "at", type := some ⟨"DateTime", false, true⟩ },
               { name := "items", type := some ⟨"App\\Item", false, false⟩, byReference := true,
                 variadic := true, optional := true }]
             result := some ⟨"Billing\\Invoice", false, true⟩ },
           { name := "list", parameters := [{ name := "filter" }], result := some ⟨"array", true, false⟩ },
           { name := "clone", result := some ⟨"self", false, false⟩ }] }
    shop.isPlain = true ∧ shop.HasClearImports ∧
      ∃ text d, shop.print = .ok text ∧ declarations? text = some [d] ∧ d.decl.kind = .interfaceKind ∧
        d.name = String.ofList (QualifiedName.dropRoot shop.name.toList) ∧
        d.describe = .ok { name := d.name, methods := shop.methods.map (Method.readBack d.name) } := by
  intro shop
  have hplain : shop.isPlain = true := by decide +kernel
  have hclear : shop.HasClearImports := by
    unfold Interface.HasClearImports
    decide +kernel
  exact ⟨hplain, hclear, printed_interface_read_back hplain hclear⟩

end PhpInterface
