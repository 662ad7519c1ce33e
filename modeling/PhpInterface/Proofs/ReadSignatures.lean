import PhpInterface.Proofs.PrintedText
import PhpInterface.Source.Statement

/-!
# Reading printed signatures

What the reader of source files makes of the texts of `Proofs.PrintedText`, from a single type (`typeExpr_eq`)
over parameters (`parameters_eq`) and methods with their documentation (`member_eq`) to all members of an
interface (`members_eq`).  What it reads are types, parameters and methods *as written*; `ofType`,
`ofParameter` and `ofMethod` say which.

Each lemma speaks of every text that can follow.  A type ends before a variable or a semicolon (`EndsType`), a
parameter before a comma or the closing parenthesis (`EndsParameter`).  The hard case is an ampersand: after a
type it could join another type, and only what follows it tells that it belongs to a variable.

A printed signature holds no expression and no block, so the readers of what is nested in a construct are
never called, and the lemmas hold for any of them.
-/

namespace PhpInterface

open Reader Source

/-! ## Types -/

/-- What stands after a printed type: the variable of a parameter, or the end of the line. -/
def EndsType (s : List Char) : Prop :=
  EndsWord s ∧ ∃ b c t, s = b ++ c :: t ∧ IsBlankText b ∧
    (c = ';' ∨ c = '$' ∨ c = '.' ∨ c = '&' ∧ ∀ d ∈ t.head?, d = '$' ∨ d = '.')

section

variable {p : Position} {b s w : List Char}

/-- At a mark that starts neither a name nor a type nothing is read as a type. -/
lemma simpleType_refused (hs : Solid s) (hword : rawWord s = none)
    (hmarks : ∀ c ∈ s.head?, c ≠ '?' ∧ c ≠ '\\') : simpleType p s = none := by
  have hmark : symbol "?" s = none :=
    symbolAt_of_refused (b := []) isBlankText_nil hs (exactly_of_refused fun c hc => (hmarks c hc).1)
  have hname : name p s = none :=
    name_refused (b := []) isBlankText_nil hs (fun c hc => (hmarks c hc).2) hword
  have hgap : gap s = some ([], s) := gapAt_blank (b := []) isBlankText_nil hs
  rw [simpleType, bind_of_eq (found_of_refused hmark), if_neg Bool.false_ne_true]
  refine map_of_refused ?_
  rw [typeName, bind_of_eq hgap, bind_of_eq (nextWord_of_refused hword), if_neg (by decide)]
  exact map_of_refused hname

/-- Before a variable nothing is read as a type. -/
lemma simpleType_variable (h : ∀ c ∈ s.head?, c = '$' ∨ c = '.') : simpleType p s = none := by
  refine simpleType_refused ?_ (rawWord_of_refused fun c hc => ?_) fun c hc => ?_
  · cases s with
    | nil => exact solid_nil
    | cons c s => rcases h c rfl with rfl | rfl <;> exact solid_cons rfl
  · rcases h c hc with rfl | rfl <;> rfl
  · rcases h c hc with rfl | rfl <;> decide

namespace EndsType

lemma exists_solid (h : EndsType s) :
    ∃ b c t, s = b ++ c :: t ∧ IsBlankText b ∧ Solid (c :: t) ∧ c ≠ '\\' ∧ c ≠ '|' ∧
      (c = '&' → ∀ d ∈ t.head?, d = '$' ∨ d = '.') := by
  obtain ⟨-, b, c, t, rfl, hb, hc⟩ := h
  refine ⟨b, c, t, rfl, hb, ?_⟩
  rcases hc with rfl | rfl | rfl | ⟨rfl, hvariable⟩
  · exact ⟨solid_cons rfl, by decide, by decide, fun hand => absurd hand (by decide)⟩
  · exact ⟨solid_cons rfl, by decide, by decide, fun hand => absurd hand (by decide)⟩
  · exact ⟨solid_cons rfl, by decide, by decide, fun hand => absurd hand (by decide)⟩
  · exact ⟨solid_cons rfl, by decide, by decide, fun _ => hvariable⟩

lemma separator_eq_none (h : EndsType s) : symbolAt p "\\" s = none := by
  obtain ⟨b, c, t, rfl, hb, hsolid, hseparator, -⟩ := h.exists_solid
  refine symbolAt_of_refused hb hsolid (exactly_of_refused ?_)
  rintro d ⟨⟩
  exact hseparator

/-- An ampersand after a type belongs to the variable after it. -/
lemma joinedType_eq_none (h : EndsType s) : joinedType p s = none := by
  obtain ⟨b, c, t, rfl, hb, hsolid, -, -, hvariable⟩ := h.exists_solid
  by_cases hand : c = '&'
  · subst hand
    have hsymbol : symbolAt p "&" (b ++ '&' :: t) = some ((), t) :=
      symbolAt_of_eq (t := ['&']) rfl hb hsolid
    rw [joinedType, bind_of_eq hsymbol, bind_of_refused (simpleType_variable (hvariable rfl))]
  · refine bind_of_refused (symbolAt_of_refused hb hsolid (exactly_of_refused ?_))
    rintro d ⟨⟩
    exact hand

lemma nextAlternative_eq_none (h : EndsType s) : nextAlternative p s = none := by
  obtain ⟨b, c, t, rfl, hb, hsolid, -, hbar, -⟩ := h.exists_solid
  have hchar : char '|' (c :: t) = none := by
    refine char_of_refused ?_
    rintro d ⟨⟩
    exact hbar
  rw [nextAlternative, bind_of_eq (gapAt_blank hb hsolid), bind_of_refused hchar]

end EndsType

lemma typeName_eq (hb : IsBlankText b) (hw : isWord w = true) (hs : EndsType s) :
    typeName p (b ++ (w ++ s)) = some (String.ofList w, s) := by
  have hgap : gap (b ++ (w ++ s)) = some (blankParts b, w ++ s) := gapAt_blank hb (solid_word hw)
  have hname : name p (w ++ s) = some (w, s) := by
    have hwords : nameWords p (w ++ ([].flatMap (fun v => '\\' :: v) ++ s)) = some ((), s) :=
      nameWords_eq hw (by simp) hs.1 hs.separator_eq_none
    rw [List.flatMap_nil, List.nil_append] at hwords
    have hstart : gap (w ++ s) = some ([], w ++ s) := gapAt_blank (b := []) isBlankText_nil (solid_word hw)
    rw [name, bind_of_eq hstart, bind_of_eq (spelled_of_eq hwords)]
    rfl
  rw [typeName, bind_of_eq hgap, bind_of_eq (nextWord_append hw hs.1)]
  split
  · exact map_of_eq (rawWord_append hw hs.1)
  · exact map_of_eq hname

/-- A printed type as it is read. -/
def Source.SimpleType.ofType (t : NamedType) : SimpleType :=
  if t.nullable then .optional (String.ofList t.word) else .named (String.ofList t.word)

variable {t : NamedType}

lemma NamedType.head?_text (hw : isWord t.word = true) :
    ∀ c ∈ (t.text ++ s).head?, c = '?' ∨ isWordStart c = true := by
  intro c hc
  rw [NamedType.text] at hc
  split at hc
  · cases hc
    exact Or.inl rfl
  · exact Or.inr (head?_word hw c hc)

lemma NamedType.solid_text (hw : isWord t.word = true) : Solid (t.text ++ s) := by
  rw [NamedType.text]
  split
  · refine solid_mark fun hend => ?_
    cases head?_word hw _ hend
  · exact solid_word hw

/-- A mark that is no question mark does not stand before a printed type. -/
lemma symbolAt_text_refused {mark : String} {m : Char} {more : List Char} (hmark : mark.toList = m :: more)
    (hm : m ≠ '?' ∧ isWordStart m = false) (hb : IsBlankText b) (hw : isWord t.word = true) :
    symbolAt p mark (b ++ (t.text ++ s)) = none := by
  refine symbolAt_of_refused hb (NamedType.solid_text hw) ?_
  rw [hmark]
  refine exactly_of_refused ?_
  rintro d hd rfl
  rcases NamedType.head?_text hw d hd with rfl | hstart
  · exact hm.1 rfl
  · rw [hm.2] at hstart
    cases hstart

lemma simpleType_eq (hw : isWord t.word = true) (hs : EndsType s) :
    simpleType p (t.text ++ s) = some (.ofType t, s) := by
  rw [SimpleType.ofType, NamedType.text, simpleType]
  cases hnull : t.nullable with
  | false =>
      have hmark : symbol "?" (t.word ++ s) = none :=
        symbolAt_word_refused (b := []) rfl rfl isBlankText_nil hw
      rw [if_neg Bool.false_ne_true, List.nil_append, bind_of_eq (found_of_refused hmark),
        if_neg Bool.false_ne_true]
      exact map_of_eq (typeName_eq (b := []) isBlankText_nil hw hs)
  | true =>
      have hmark : symbol "?" ('?' :: (t.word ++ s)) = some ((), t.word ++ s) := by
        refine symbolAt_of_eq (b := []) (t := ['?']) rfl isBlankText_nil (solid_mark fun hend => ?_)
        cases head?_word hw _ hend
      have hgap : gap (t.word ++ s) = some ([], t.word ++ s) :=
        gapAt_blank (b := []) isBlankText_nil (solid_word hw)
      have hname : typeName p (t.word ++ s) = some (String.ofList t.word, s) :=
        typeName_eq (b := []) isBlankText_nil hw hs
      rw [if_pos rfl, List.append_assoc, List.singleton_append, bind_of_eq (found_of_eq hmark), if_pos rfl,
        bind_of_eq hgap, bind_of_eq hname]
      rfl

lemma typeExpr_eq (hb : IsBlankText b) (hw : isWord t.word = true) (hs : EndsType s) :
    typeExpr p (b ++ (t.text ++ s)) = some (.simple (.ofType t), s) := by
  have hgap : gap (b ++ (t.text ++ s)) = some (blankParts b, t.text ++ s) :=
    gapAt_blank hb (NamedType.solid_text hw)
  have hparenthesis : (do parenthesisedType; pure none : Reader (Option SimpleType)) (t.text ++ s) = none :=
    bind_of_refused (bind_of_refused (symbolAt_text_refused (b := []) rfl (by decide) isBlankText_nil hw))
  have hfirst : barredType p (t.text ++ s) = some (some (.ofType t), s) := by
    rw [barredType, oneOf_of_refused hparenthesis, oneOf_singleton]
    exact map_of_eq (simpleType_eq hw hs)
  have hshape : typeShape p (t.text ++ s) = some (.simple (.ofType t), s) := by
    rw [typeShape, bind_of_eq hfirst, Option.isSome_some, if_pos rfl,
      bind_of_eq (many_of_refused hs.joinedType_eq_none)]
    beta_reduce
    rw [if_pos List.isEmpty_nil, bind_of_eq (many_of_refused hs.nextAlternative_eq_none)]
    rfl
  rw [typeExpr, bind_of_eq hgap, bind_of_eq (spelled_of_eq hshape)]
  rfl

lemma resultType_eq (hb : IsBlankText b) (hw : isWord t.word = true)
    (hnever : (String.ofList t.word == "never") = false) (hs : EndsType s) :
    resultType p (b ++ (t.text ++ s)) = some (.simple (.ofType t), s) := by
  have hgap : gap (b ++ (t.text ++ s)) = some (blankParts b, t.text ++ s) :=
    gapAt_blank hb (NamedType.solid_text hw)
  have hnext : ∃ w, nextWord (t.text ++ s) = some (w, t.text ++ s) ∧
      (String.ofList w == "never") = false := by
    rw [NamedType.text]
    split
    · exact ⟨[], nextWord_of_refused (rawWord_cons_of_false rfl), by decide⟩
    · exact ⟨t.word, nextWord_append hw hs.1, hnever⟩
  obtain ⟨w, hnext, hw'⟩ := hnext
  rw [resultType, bind_of_eq hgap, bind_of_eq hnext, hw', if_neg Bool.false_ne_true]
  exact typeExpr_eq (b := []) isBlankText_nil hw hs

end

/-! ## Parameters -/

section

variable {n : Nested} {b s t : List Char} {p : Parameter}

/-- A mark that is written where a flag is set. -/
lemma exists_found_symbol (mark : String) (hmark : mark.toList = t) (flag : Bool) (hb : IsBlankText b)
    (ht : Solid (t ++ s)) (hs : Solid s) (hrefused : exactly t s = none) :
    ∃ b', IsBlankText b' ∧
      found (symbol mark) (b ++ ((if flag then t else []) ++ s)) = some (flag, b' ++ s) := by
  cases flag with
  | true => exact ⟨[], isBlankText_nil, found_of_eq (symbolAt_of_eq hmark hb ht)⟩
  | false => exact ⟨b, hb, found_of_refused (symbolAt_of_refused hb hs (hmark ▸ hrefused))⟩

/-- No attribute stands here. -/
lemma attributes_refused (hb : IsBlankText b) (hs : Solid s) (hhash : ∀ c ∈ s.head?, c ≠ '#') :
    attributes n (b ++ s) = some (false, b ++ s) := by
  refine bind_of_eq (many_of_refused ?_)
  rw [attributeGroup, bind_of_eq (openGap_blank hb hs), bind_of_refused (exactly_of_refused hhash)]

lemma variableName_eq {w : List Char} (hb : IsBlankText b) (hw : isWord w = true) (hs : EndsWord s) :
    variableName (b ++ ('$' :: w ++ s)) = some ('$' :: w, s) := by
  have hgap : gap (b ++ ('$' :: w ++ s)) = some (blankParts b, '$' :: w ++ s) :=
    gapAt_blank hb (solid_cons rfl)
  have hread : (do char '$'; word) ('$' :: w ++ s) = some (w, s) := by
    rw [List.cons_append, bind_of_eq (char_cons '$')]
    exact word_append (b := []) isBlankText_nil hw hs
  rw [variableName, bind_of_eq hgap, bind_of_eq (spelled_of_eq hread)]
  rfl

/-- What stands after a printed parameter. -/
def EndsParameter (s : List Char) : Prop :=
  ∃ c t, s = c :: t ∧ (c = ',' ∨ c = ')')

/-- A printed parameter as it is read. -/
def Source.ParameterExpr.ofParameter (p : Parameter) : ParameterExpr where
  type := p.type.map fun t => .simple (.ofType t)
  name := String.ofList ('$' :: p.name.toList)
  byReference := p.byReference
  variadic := p.variadic
  default := none

namespace EndsParameter

lemma endsWord (hs : EndsParameter s) : EndsWord s := by
  obtain ⟨c, t, rfl, hc⟩ := hs
  rcases hc with rfl | rfl <;> exact endsWord_cons (by decide)

lemma defaultValue_eq (hs : EndsParameter s) : defaultValue n .inner s = some (none, s) := by
  obtain ⟨c, t, rfl, hc⟩ := hs
  refine optional?_of_refused (bind_of_refused ?_)
  refine symbolAt_of_refused (b := []) isBlankText_nil ?_ (exactly_of_refused ?_)
  · rcases hc with rfl | rfl <;> exact solid_cons rfl
  · rintro d ⟨⟩
    rcases hc with rfl | rfl <;> decide

end EndsParameter

lemma Parameter.isWord_name (hp : p.isPlain = true) : isWord p.name.toList = true :=
  isWord_of_isIdentifier (Parameter.isPlain_iff.1 hp).1

/-- After the type of a parameter, its variable is read with the marks before it. -/
lemma plainParameter_of_type {start : List Char} {type : Option TypeExpr} (hp : p.isPlain = true)
    (htype : variableType start = some (type, b ++ (p.variableText ++ s))) (hb : IsBlankText b)
    (hs : EndsParameter s) :
    plainParameter n start = some ({ ParameterExpr.ofParameter p with type }, s) := by
  have hdollar : Solid ('$' :: p.name.toList ++ s) := solid_cons rfl
  have hdots : Solid ((if p.variadic then ['.', '.', '.'] else []) ++ ('$' :: p.name.toList ++ s)) := by
    cases p.variadic <;> exact solid_cons rfl
  have hnot : exactly ['&'] ((if p.variadic then ['.', '.', '.'] else []) ++ ('$' :: p.name.toList ++ s)) =
      none := by
    cases p.variadic <;> rfl
  -- a mark that is missing leaves the blanks before it to the next token
  obtain ⟨b₁, hb₁, hreference⟩ :=
    exists_found_symbol (t := ['&']) "&" rfl p.byReference hb (solid_cons rfl) hdots hnot
  obtain ⟨b₂, hb₂, hvariadic⟩ :=
    exists_found_symbol (t := ['.', '.', '.']) "..." rfl p.variadic hb₁ (solid_cons rfl) hdollar rfl
  have htext : b ++ (p.variableText ++ s) = b ++ ((if p.byReference then ['&'] else []) ++
      ((if p.variadic then ['.', '.', '.'] else []) ++ ('$' :: p.name.toList ++ s))) := by
    simp [Parameter.variableText]
  rw [htext] at htype
  rw [plainParameter, bind_of_eq htype, bind_of_eq hreference, bind_of_eq hvariadic,
    bind_of_eq (variableName_eq hb₂ (Parameter.isWord_name hp) hs.endsWord)]
  rw [ParameterExpr.ofParameter]
  cases p.variadic with
  | true => rfl
  | false =>
      dsimp only
      rw [if_neg Bool.false_ne_true, bind_of_eq hs.defaultValue_eq]
      rfl

/-- The variable of a parameter starts with one of three marks. -/
lemma variableText_cases (p : Parameter) (s : List Char) :
    (∃ t, p.variableText ++ s = '$' :: t) ∨
      (∃ t, p.variableText ++ s = '&' :: t ∧ ∀ c ∈ t.head?, c = '$' ∨ c = '.') ∨
      ∃ t, p.variableText ++ s = ['.', '.', '.'] ++ t := by
  rw [Parameter.variableText]
  cases p.byReference with
  | true =>
      refine Or.inr (Or.inl ⟨_, rfl, ?_⟩)
      cases p.variadic <;> simp
  | false =>
      cases p.variadic with
      | true => exact Or.inr (Or.inr ⟨_, rfl⟩)
      | false => exact Or.inl ⟨_, rfl⟩

/-- Before a variable no type is read. -/
lemma variableType_none (hb : IsBlankText b) :
    variableType (b ++ (p.variableText ++ s)) = some (none, b ++ (p.variableText ++ s)) := by
  have hsees : sees (oneOf [symbol "$", symbol "&", symbol "..."]) (b ++ (p.variableText ++ s)) =
      some (true, b ++ (p.variableText ++ s)) := by
    rcases variableText_cases p s with ⟨t, ht⟩ | ⟨t, ht, -⟩ | ⟨t, ht⟩
    · have hdollar : symbol "$" (b ++ '$' :: t) = some ((), t) :=
        symbolAt_of_eq (t := ['$']) rfl hb (solid_cons rfl)
      rw [ht]
      exact sees_of_eq (oneOf_of_eq hdollar)
    · have hdollar : symbol "$" (b ++ '&' :: t) = none := symbolAt_of_refused hb (solid_cons rfl) rfl
      have hand : symbol "&" (b ++ '&' :: t) = some ((), t) :=
        symbolAt_of_eq (t := ['&']) rfl hb (solid_cons rfl)
      rw [ht]
      exact sees_of_eq ((oneOf_of_refused hdollar).trans (oneOf_of_eq hand))
    · have hdollar : symbol "$" (b ++ (['.', '.', '.'] ++ t)) = none :=
        symbolAt_of_refused hb (solid_cons rfl) rfl
      have hand : symbol "&" (b ++ (['.', '.', '.'] ++ t)) = none :=
        symbolAt_of_refused hb (solid_cons rfl) rfl
      have hdots : symbol "..." (b ++ (['.', '.', '.'] ++ t)) = some ((), t) :=
        symbolAt_of_eq rfl hb (solid_cons rfl)
      rw [ht]
      exact sees_of_eq ((oneOf_of_refused hdollar).trans ((oneOf_of_refused hand).trans (oneOf_of_eq hdots)))
  rw [variableType, bind_of_eq hsees]
  rfl

lemma variableType_some {t : NamedType} (hb : IsBlankText b) (hw : isWord t.word = true) (hs : EndsType s) :
    variableType (b ++ (t.text ++ s)) = some (some (.simple (.ofType t)), s) := by
  have hsees : sees (oneOf [symbol "$", symbol "&", symbol "..."]) (b ++ (t.text ++ s)) =
      some (false, b ++ (t.text ++ s)) := by
    refine sees_of_refused (oneOf_eq_none fun x hx => ?_)
    simp only [List.mem_cons, List.not_mem_nil, or_false] at hx
    rcases hx with rfl | rfl | rfl
    all_goals exact symbolAt_text_refused rfl (by decide) hb hw
  rw [variableType, bind_of_eq hsees, if_neg Bool.false_ne_true]
  exact map_of_eq (typeExpr_eq hb hw hs)

/-- After a printed type comes the variable. -/
lemma endsType_variableText (p : Parameter) (s : List Char) : EndsType (' ' :: (p.variableText ++ s)) := by
  refine ⟨endsWord_cons (by decide), ?_⟩
  rcases variableText_cases p s with ⟨t, ht⟩ | ⟨t, ht, hvariable⟩ | ⟨t, ht⟩
  · exact ⟨[' '], '$', t, by rw [ht]; rfl, by decide, .inr (.inl rfl)⟩
  · exact ⟨[' '], '&', t, by rw [ht]; rfl, by decide, .inr (.inr (.inr ⟨rfl, hvariable⟩))⟩
  · exact ⟨[' '], '.', '.' :: '.' :: t, by rw [ht]; rfl, by decide, .inr (.inr (.inl rfl))⟩

/-- A parameter with no attribute and no visibility in front is a plain one. -/
lemma parameter_of_not_visibility (hb : IsBlankText b) (hs : Solid s) (hhash : ∀ c ∈ s.head?, c ≠ '#')
    (hvisibility : keywordOf visibilityWords (b ++ s) = none) :
    parameter n (b ++ s) = plainParameter n (b ++ s) := by
  rw [parameter, bind_of_eq (attributes_refused hb hs hhash), bind_of_eq (sees_of_refused hvisibility),
    if_neg Bool.false_ne_true]

/-- A printed type is no visibility. -/
lemma keywordOf_visibility_refused {t : NamedType} (ht : t.isPlain = true) (hb : IsBlankText b)
    (hs : EndsWord s) : keywordOf visibilityWords (b ++ (t.text ++ s)) = none := by
  obtain ⟨hidentifier, hvisibility, -⟩ := NamedType.isIdentifier_word ht
  have hw := isWord_of_isIdentifier hidentifier
  have hsolid : Solid (t.text ++ s) := NamedType.solid_text hw
  cases hnull : t.nullable with
  | true =>
      rw [NamedType.text, hnull] at hsolid ⊢
      exact keywordOf_of_refused hb hsolid (rawWord_cons_of_false rfl)
  | false =>
      rw [NamedType.text, hnull]
      exact keywordOf_of_not_mem hb hw hs hvisibility

lemma parameter_eq (hp : p.isPlain = true) (hb : IsBlankText b) (hs : EndsParameter s) :
    parameter n (b ++ (p.text ++ s)) = some (.ofParameter p, s) := by
  cases htype : p.type with
  | none =>
      have htext : p.text = p.variableText := by rw [Parameter.text, htype]
      have hread := plainParameter_of_type (n := n) hp (variableType_none hb) hb hs
      -- no mark of a variable starts an attribute or a word, so no visibility is seen
      have hstart : Solid (p.variableText ++ s) ∧ rawWord (p.variableText ++ s) = none ∧
          ∀ c ∈ (p.variableText ++ s).head?, c ≠ '#' := by
        rcases variableText_cases p s with ⟨t, ht⟩ | ⟨t, ht, -⟩ | ⟨t, ht⟩
        all_goals
          rw [ht]
          exact ⟨solid_cons rfl, rawWord_cons_of_false rfl, by simp⟩
      rw [htext, parameter_of_not_visibility hb hstart.1 hstart.2.2
        (keywordOf_of_refused hb hstart.1 hstart.2.1), hread, ParameterExpr.ofParameter, htype]
      rfl
  | some t =>
      have ht := (Parameter.isPlain_iff.1 hp).2.1 t htype
      have hw := isWord_of_isIdentifier (NamedType.isIdentifier_word ht).1
      have hends := endsType_variableText p s
      have htext : p.text ++ s = t.text ++ ' ' :: (p.variableText ++ s) := by
        rw [Parameter.text, htype, List.append_assoc, List.cons_append]
      have hread : plainParameter n (b ++ (t.text ++ ' ' :: (p.variableText ++ s))) =
          some ({ ParameterExpr.ofParameter p with type := some (.simple (.ofType t)) }, s) :=
        plainParameter_of_type (b := [' ']) hp (variableType_some hb hw hends) (by decide) hs
      have hhash : ∀ c ∈ (t.text ++ ' ' :: (p.variableText ++ s)).head?, c ≠ '#' := by
        rintro c hc rfl
        rcases NamedType.head?_text hw _ hc with h | h <;> cases h
      rw [htext, parameter_of_not_visibility hb (NamedType.solid_text hw) hhash
        (keywordOf_visibility_refused ht hb hends.1), hread, ParameterExpr.ofParameter, htype]
      rfl

/-! ## Lists of parameters -/

/-- Before the closing parenthesis stands no parameter. -/
lemma parameter_closer : parameter n (')' :: s) = none := by
  have hsolid : Solid (')' :: s) := solid_cons rfl
  have hword : rawWord (')' :: s) = none := rawWord_cons_of_false rfl
  have hsees : sees (oneOf [symbol "$", symbol "&", symbol "..."]) (')' :: s) = some (false, ')' :: s) := by
    refine sees_of_refused (oneOf_eq_none fun x hx => ?_)
    simp only [List.mem_cons, List.not_mem_nil, or_false] at hx
    rcases hx with rfl | rfl | rfl
    all_goals exact symbolAt_cons_of_refused rfl rfl
  have htype : typeExpr .inner (')' :: s) = none := by
    have hgap : gap (')' :: s) = some ([], ')' :: s) := gapAt_blank (b := []) isBlankText_nil hsolid
    have hparenthesis : parenthesisedType (')' :: s) = none :=
      bind_of_refused (symbolAt_cons_of_refused rfl rfl)
    have hsimple : simpleType .inner (')' :: s) = none :=
      simpleType_refused hsolid hword fun c hc => by cases hc; decide
    have hbarred : barredType .inner (')' :: s) = none := by
      rw [barredType, oneOf_of_refused (bind_of_refused hparenthesis), oneOf_singleton,
        map_of_refused hsimple]
    have hshape : typeShape .inner (')' :: s) = none := bind_of_refused hbarred
    rw [typeExpr, bind_of_eq hgap, bind_of_refused (spelled_of_refused hshape)]
  have hplain : plainParameter n (')' :: s) = none := by
    refine bind_of_refused ?_
    rw [variableType, bind_of_eq hsees, if_neg Bool.false_ne_true, map_of_refused htype]
  have hparameter := parameter_of_not_visibility (n := n) (b := []) isBlankText_nil hsolid (by simp)
    (keywordOf_of_refused isBlankText_nil hsolid hword)
  rw [List.nil_append] at hparameter
  rw [hparameter, hplain]

/-- A list of parameters goes on with a comma or ends. -/
lemma endsParameter_more (rest : List Parameter) (s : List Char) :
    EndsParameter (rest.flatMap (fun q => ',' :: ' ' :: q.text) ++ ')' :: s) := by
  cases rest with
  | nil => exact ⟨')', s, rfl, Or.inr rfl⟩
  | cons q rest => exact ⟨',', _, rfl, Or.inl rfl⟩

lemma sepBy_parameter {l : List Parameter} (hl : ∀ p ∈ l, p.isPlain = true) :
    sepBy (parameter n) (symbol ",") (parametersText l ++ ')' :: s) =
      some (l.map .ofParameter, ')' :: s) := by
  have hcomma : symbol "," (')' :: s) = none := symbolAt_cons_of_refused rfl rfl
  cases l with
  | nil => exact bind_of_eq (optional?_of_refused (bind_of_refused parameter_closer))
  | cons p rest =>
      have hfirst : parameter n (p.text ++ (rest.flatMap (fun q => ',' :: ' ' :: q.text) ++ ')' :: s)) =
          some (.ofParameter p, rest.flatMap (fun q => ',' :: ' ' :: q.text) ++ ')' :: s) :=
        parameter_eq (b := []) (hl p List.mem_cons_self) isBlankText_nil (endsParameter_more rest s)
      have hmore : many (do let _ ← symbol ","; parameter n)
          (rest.flatMap (fun q => ',' :: ' ' :: q.text) ++ ')' :: s) =
          some (rest.map .ofParameter, ')' :: s) := by
        refine many_flatMap (Q := EndsParameter) (fun q hq => ⟨List.cons_ne_nil _ _, ?_, ?_⟩)
          (bind_of_refused hcomma) (endsParameter_more [] s)
        · exact fun after => ⟨',', _, rfl, Or.inl rfl⟩
        · intro after hafter
          have hsymbol : symbol "," (',' :: ' ' :: q.text ++ after) = some ((), [' '] ++ (q.text ++ after)) :=
            symbolAt_cons rfl rfl
          rw [bind_of_eq hsymbol]
          exact parameter_eq (hl q (List.mem_cons_of_mem _ hq)) (by decide) hafter
      have hlist : sepBy1 (parameter n) (symbol ",") (parametersText (p :: rest) ++ ')' :: s) =
          some ((p :: rest).map .ofParameter, ')' :: s) := by
        rw [parametersText, List.append_assoc, sepBy1, bind_of_eq hfirst, bind_of_eq hmore]
        rfl
      exact bind_of_eq (optional?_of_eq hlist)

lemma parameters_eq {l : List Parameter} (hl : ∀ p ∈ l, p.isPlain = true) :
    parameters n .inner ('(' :: (parametersText l ++ ')' :: s)) = some (l.map .ofParameter, s) := by
  have hopen : symbolAt .inner "(" ('(' :: (parametersText l ++ ')' :: s)) =
      some ((), parametersText l ++ ')' :: s) :=
    symbolAt_cons rfl rfl
  have hcomma : symbol "," (')' :: s) = none := symbolAt_cons_of_refused rfl rfl
  have hclose : symbol ")" (')' :: s) = some ((), s) := symbolAt_cons rfl rfl
  rw [parameters, bind_of_eq hopen, bind_of_eq (sepBy_parameter hl),
    bind_of_eq (optional?_of_refused hcomma), bind_of_eq hclose]
  rfl

end

/-! ## Documentation -/

/-- A comment ends at the first place where it can. -/
lemma blockCommentRest?_append {t s : List Char} (hend : ['*', '/'] <:+ t)
    (hfirst : ¬ ['*', '/'] <:+: t.dropLast) : blockCommentRest? (t ++ s) = some (t, s) := by
  induction t with
  | nil => simp at hend
  | cons c t ih =>
      cases t with
      | nil => simp [List.suffix_cons_iff] at hend
      | cons d t =>
          rw [List.dropLast_cons_cons] at hfirst
          by_cases hcd : c = '*' ∧ d = '/'
          · obtain ⟨rfl, rfl⟩ := hcd
            cases t with
            | nil => rfl
            | cons e t =>
                rw [List.dropLast_cons_cons] at hfirst
                exact absurd (List.IsPrefix.isInfix ⟨_, rfl⟩) hfirst
          · have hend' : ['*', '/'] <:+ d :: t := by
              rcases List.suffix_cons_iff.1 hend with heq | hend
              · cases heq
                exact absurd ⟨rfl, rfl⟩ hcd
              · exact hend
            have hrest := ih hend' fun h => hfirst (List.infix_cons h)
            rw [List.cons_append, blockCommentRest?, hrest]
            · rfl
            · rintro after rfl heq
              cases heq
              exact hcd ⟨rfl, rfl⟩

lemma exists_of_isPlainComment {text : String} (h : isPlainComment text = true) :
    ∃ t, text.toList = '/' :: '*' :: t ∧ ['*', '/'] <:+ t ∧ ¬ ['*', '/'] <:+: t.dropLast := by
  simp only [isPlainComment, Bool.and_eq_true, decide_eq_true_eq] at h
  obtain ⟨⟨⟨hdoc, hend⟩, hfirst⟩, -⟩ := h
  rw [isDocumentation] at hdoc
  split at hdoc
  · next c more htext =>
    rw [htext] at hend hfirst
    refine ⟨'*' :: c :: more, htext, ?_, fun hinfix => hfirst ?_⟩
    · simpa [List.suffix_cons_iff] using hend
    · simp only [List.dropLast_cons_cons] at hinfix ⊢
      exact List.infix_cons (List.infix_cons hinfix)
  · cases hdoc

/-- A documentation comment is one part of a gap. -/
lemma gapPart_of_isPlainComment {p : Position} {attributes : Bool} {text : String} {s : List Char}
    (h : isPlainComment text = true) :
    gapPart p attributes (text.toList ++ s) = some (.comment text.toList, s) := by
  obtain ⟨t, htext, hend, hfirst⟩ := exists_of_isPlainComment h
  have hcomment : comment ('/' :: '*' :: (t ++ s)) = some ('/' :: '*' :: t, s) := by
    rw [comment, blockCommentRest?_append hend hfirst]
    rfl
  rw [htext, List.cons_append, List.cons_append]
  unfold gapPart
  dsimp only
  rw [page_of_ne (by decide), hcomment]
  cases p <;> cases attributes <;> rfl

/-- The gap before a printed method holds its documentation, which is the last comment in it. -/
lemma exists_openGap_docText {m : Method} {b s : List Char} (hm : ∀ text ∈ m.doc, isPlainComment text = true)
    (hb : IsBlankText b) (hs : Solid s) :
    ∃ parts, openGap (b ++ (m.docText ++ s)) = some (parts, s) ∧
      (lastComment? parts).map String.ofList = m.doc := by
  cases hdoc : m.doc with
  | none =>
      refine ⟨blankParts b, ?_, by rw [lastComment?_blankParts]; rfl⟩
      rw [Method.docText, hdoc]
      exact openGap_blank hb hs
  | some text =>
      have hplain := hm text hdoc
      have hhead : ∀ c ∈ (text.toList ++ ('\n' :: indentText ++ s)).head?, isSeparator c = false := by
        obtain ⟨t, htext, -⟩ := exists_of_isPlainComment hplain
        rw [htext]
        rintro c ⟨⟩
        rfl
      have hparts : gapParts .inner true (text.toList ++ ('\n' :: indentText ++ s)) =
          ([.comment text.toList, .blank], s) := by
        rw [gapParts_cons (gapPart_of_isPlainComment hplain), gapParts_blank (by decide) hs]
        rfl
      have hlast : lastComment? (blankParts b ++ [.comment text.toList, .blank]) = some text.toList := by
        cases b <;> rfl
      refine ⟨blankParts b ++ [.comment text.toList, .blank], ?_, ?_⟩
      · have hdocText : m.docText ++ s = text.toList ++ ('\n' :: indentText ++ s) := by
          rw [Method.docText, hdoc, List.append_assoc]
        rw [hdocText, openGap, gapParts_append hb hhead, hparts]
      · rw [hlast, Option.map_some, String.ofList_toList]

/-! ## Methods -/

/-- A printed method as it is read. -/
def Source.MethodExpr.ofMethod (m : Method) : MethodExpr where
  comment := m.doc
  modifiers := .visibility .pub :: if m.static then [.static] else []
  name := m.name
  parameters := m.parameters.map .ofParameter
  result := m.result.map fun t => .simple (.ofType t)

section

variable {n : Nested} {b s w : List Char} {m : Method}

/-- At the end of the line stands no type any more. -/
lemma resultClause_eq (hm : ∀ t ∈ m.result, t.isPlain = true) :
    resultClause .last (m.resultText ++ ';' :: s) =
      some (m.result.map fun t => .simple (.ofType t), ';' :: s) := by
  rw [Method.resultText]
  cases hresult : m.result with
  | none =>
      have hcolon : colonAt .last (';' :: s) = none :=
        bind_of_refused (symbolAt_cons_of_refused rfl rfl)
      exact bind_of_eq (found_of_refused hcolon)
  | some t =>
      obtain ⟨hidentifier, -, hnever⟩ := NamedType.isIdentifier_word (hm t hresult)
      have hcolon : colonAt .last (':' :: ' ' :: (t.text ++ ';' :: s)) =
          some ((), [' '] ++ (t.text ++ ';' :: s)) := by
        have hsymbol : symbolAt .last ":" (':' :: ' ' :: (t.text ++ ';' :: s)) =
            some ((), ' ' :: (t.text ++ ';' :: s)) :=
          symbolAt_cons rfl rfl
        rw [colonAt, bind_of_eq hsymbol]
        rfl
      have hends : EndsType (';' :: s) := ⟨endsWord_cons (by decide), [], ';', s, rfl, by decide, .inl rfl⟩
      have htype : resultType .last ([' '] ++ (t.text ++ ';' :: s)) = some (.simple (.ofType t), ';' :: s) :=
        resultType_eq (by decide) (isWord_of_isIdentifier hidentifier) hnever hends
      dsimp only
      rw [List.cons_append, List.cons_append, resultClause, bind_of_eq (found_of_eq hcolon), if_pos rfl,
        map_of_eq htype]
      rfl

lemma signature_eq (hm : m.isPlain = true) (hb : IsBlankText b) :
    signature n .last (b ++ (m.signatureText ++ ';' :: s)) =
      some ((m.name, m.parameters.map .ofParameter, m.result.map fun t => .simple (.ofType t)),
        ';' :: s) := by
  obtain ⟨hname, hparameters, hresult, -⟩ := Method.isPlain_iff.1 hm
  have hw := isWord_of_isIdentifier hname
  have htext : m.signatureText ++ ';' :: s =
      m.name.toList ++ '(' :: (parametersText m.parameters ++ ')' :: (m.resultText ++ ';' :: s)) := by
    simp [Method.signatureText]
  have hmark : symbol "&" (b ++ (m.signatureText ++ ';' :: s)) = none := by
    rw [htext]
    exact symbolAt_word_refused rfl rfl hb hw
  rw [signature, bind_of_eq (optional?_of_refused hmark), htext,
    bind_of_eq (word_append hb hw (endsWord_cons (by decide))), bind_of_eq (parameters_eq hparameters),
    bind_of_eq (resultClause_eq hresult), String.ofList_toList]
  rfl

lemma methodRest_eq (hm : m.isPlain = true) (hb : IsBlankText b) (modifiers : List Modifier) :
    methodRest n m.doc modifiers (b ++ (m.signatureText ++ ';' :: s)) =
      some ({ MethodExpr.ofMethod m with modifiers }, s) := by
  have hblock : (do let _ ← n.blockAt .last : Reader Unit) (';' :: s) = none :=
    bind_of_refused (bind_of_refused (symbolAt_cons_of_refused rfl rfl))
  have hend : semicolon (';' :: s) = some ((), s) := semicolon_of_eq (b := []) isBlankText_nil
  rw [methodRest, bind_of_eq (signature_eq hm hb)]
  dsimp only
  rw [bind_of_eq ((oneOf_of_refused hblock).trans (oneOf_of_eq hend))]
  rfl

/-! ## Members -/

/-- The word `public`. -/
lemma modifier_public (hb : IsBlankText b) :
    modifier (b ++ (['p', 'u', 'b', 'l', 'i', 'c'] ++ ' ' :: s)) = some (.visibility .pub, ' ' :: s) := by
  have hkeyword : keywordOf visibilityWords (b ++ (['p', 'u', 'b', 'l', 'i', 'c'] ++ ' ' :: s)) =
      some ("public", ' ' :: s) :=
    keywordOf_of_eq hb (by decide) (endsWord_cons (by decide)) (by decide) (by decide)
  have hvisibility : visibility (b ++ (['p', 'u', 'b', 'l', 'i', 'c'] ++ ' ' :: s)) =
      some (.pub, ' ' :: s) := by
    rw [visibility, bind_of_eq hkeyword]
    rfl
  rw [modifier, bind_of_eq (sees_of_eq hkeyword), if_pos rfl, map_of_eq hvisibility]

/-- The word `static`. -/
lemma modifier_static (hb : IsBlankText b) :
    modifier (b ++ (['s', 't', 'a', 't', 'i', 'c'] ++ ' ' :: s)) = some (.static, ' ' :: s) := by
  have hends : EndsWord (' ' :: s) := endsWord_cons (by decide)
  have hvisibility : keywordOf visibilityWords (b ++ (['s', 't', 'a', 't', 'i', 'c'] ++ ' ' :: s)) = none :=
    keywordOf_of_not_mem hb (by decide) hends (by decide)
  have hkeyword : keywordOf modifierWords (b ++ (['s', 't', 'a', 't', 'i', 'c'] ++ ' ' :: s)) =
      some ("static", ' ' :: s) :=
    keywordOf_of_eq hb (by decide) hends (by decide) (by decide)
  rw [modifier, bind_of_eq (sees_of_refused hvisibility), if_neg Bool.false_ne_true, bind_of_eq hkeyword]
  rfl

/-- Modifiers end at the first word that is none. -/
lemma modifier_refused (hb : IsBlankText b) (hw : isWord w = true) (hs : EndsWord s)
    (hnone : (visibilityWords ++ modifierWords).contains (smallForm w) = false) :
    modifier (b ++ (w ++ s)) = none := by
  rw [List.contains_append, Bool.or_eq_false_iff] at hnone
  rw [modifier, bind_of_eq (sees_of_refused (keywordOf_of_not_mem hb hw hs hnone.1)),
    if_neg Bool.false_ne_true, bind_of_refused (keywordOf_of_not_mem hb hw hs hnone.2)]

/-- Before the word `function` stand the modifiers. -/
lemma many_modifier (static : Bool) :
    many modifier (['p', 'u', 'b', 'l', 'i', 'c'] ++ ' ' ::
        ((if static then ['s', 't', 'a', 't', 'i', 'c', ' '] else []) ++
          (['f', 'u', 'n', 'c', 't', 'i', 'o', 'n'] ++ ' ' :: s))) =
      some (.visibility .pub :: if static then [.static] else [],
        ' ' :: (['f', 'u', 'n', 'c', 't', 'i', 'o', 'n'] ++ ' ' :: s)) := by
  have hlast : many modifier (' ' :: (['f', 'u', 'n', 'c', 't', 'i', 'o', 'n'] ++ ' ' :: s)) =
      some ([], ' ' :: (['f', 'u', 'n', 'c', 't', 'i', 'o', 'n'] ++ ' ' :: s)) :=
    many_of_refused (modifier_refused (b := [' ']) (w := ['f', 'u', 'n', 'c', 't', 'i', 'o', 'n'])
      (by decide) (by decide) (endsWord_cons (by decide)) (by decide))
  refine many_of_eq (modifier_public (b := []) isBlankText_nil) (by simp) ?_
  cases static with
  | false => exact hlast
  | true => exact many_of_eq (modifier_static (b := [' ']) (by decide)) (by simp) hlast

/-- A printed method is read as a member, together with its documentation. -/
lemma member_eq (hm : m.isPlain = true) (hb : IsBlankText b) :
    member n (b ++ (m.docText ++ (m.lineText ++ s))) = some (.method (.ofMethod m), s) := by
  have hline : m.lineText ++ s = ['p', 'u', 'b', 'l', 'i', 'c'] ++ ' ' ::
      ((if m.static then ['s', 't', 'a', 't', 'i', 'c', ' '] else []) ++
        (['f', 'u', 'n', 'c', 't', 'i', 'o', 'n'] ++ ' ' :: (m.signatureText ++ ';' :: s))) := by
    simp [Method.lineText]
  have hsolid : Solid (m.lineText ++ s) := by
    rw [hline]
    exact solid_word (by decide)
  have huse : keyword "use" (m.lineText ++ s) = none := by
    rw [hline]
    exact keywordAt_of_ne (b := []) (w := ['p', 'u', 'b', 'l', 'i', 'c']) isBlankText_nil (by decide)
      (endsWord_cons (by decide)) (by decide)
  have hhash : ∀ c ∈ (m.lineText ++ s).head?, c ≠ '#' := by
    rw [hline]
    simp
  have hattributes : attributes n (m.lineText ++ s) = some (false, m.lineText ++ s) :=
    attributes_refused (b := []) isBlankText_nil hsolid hhash
  have hmodifiers := many_modifier (s := m.signatureText ++ ';' :: s) m.static
  have hfunction : keyword "function"
      (' ' :: (['f', 'u', 'n', 'c', 't', 'i', 'o', 'n'] ++ ' ' :: (m.signatureText ++ ';' :: s))) =
      some ((), [' '] ++ (m.signatureText ++ ';' :: s)) :=
    keywordAt_of_eq (b := [' ']) (w := ['f', 'u', 'n', 'c', 't', 'i', 'o', 'n']) (by decide) (by decide)
      (endsWord_cons (by decide)) (by decide)
  obtain ⟨parts, hgap, hcomment⟩ := exists_openGap_docText (Method.isPlain_iff.1 hm).2.2.2 hb hsolid
  rw [member, bind_of_eq hgap, bind_of_eq (found_of_refused huse), if_neg Bool.false_ne_true,
    bind_of_eq hattributes, hline, bind_of_eq hmodifiers, bind_of_eq (found_of_eq hfunction), if_pos rfl,
    hcomment]
  exact map_of_eq (methodRest_eq hm (by decide) _)

/-- Before the closing brace stands no member. -/
lemma member_closer (hb : IsBlankText b) : member n (b ++ '\x7d' :: s) = none := by
  have hsolid : Solid ('\x7d' :: s) := solid_cons rfl
  have hword : rawWord ('\x7d' :: s) = none := rawWord_cons_of_false rfl
  have hkeyword : ∀ k, keyword k ('\x7d' :: s) = none := fun k =>
    keywordAt_of_refused (b := []) isBlankText_nil hsolid hword
  have hattributes : attributes n ('\x7d' :: s) = some (false, '\x7d' :: s) :=
    attributes_refused (b := []) isBlankText_nil hsolid (by simp)
  have hmodifier : modifier ('\x7d' :: s) = none := by
    have hkeywordOf : ∀ ks, keywordOf ks ('\x7d' :: s) = none := fun ks =>
      keywordOf_of_refused (b := []) isBlankText_nil hsolid hword
    rw [modifier, bind_of_eq (sees_of_refused (hkeywordOf _)), if_neg Bool.false_ne_true,
      bind_of_refused (hkeywordOf _)]
  rw [member, bind_of_eq (openGap_blank hb hsolid), bind_of_eq (found_of_refused (hkeyword "use")),
    if_neg Bool.false_ne_true, bind_of_eq hattributes, bind_of_eq (many_of_refused hmodifier),
    bind_of_eq (found_of_refused (hkeyword "function")), if_neg Bool.false_ne_true,
    bind_of_eq (found_of_refused (hkeyword "const")), if_neg Bool.false_ne_true]
  rfl

lemma members_eq {methods : List Method} (hm : ∀ m ∈ methods, m.isPlain = true) (hb : IsBlankText b) :
    members n (b ++ (bodyText methods ++ s)) = some (methods.map fun m => .method (.ofMethod m), s) := by
  have hbody : bodyText methods ++ s = ['\x7b'] ++ (['\n'] ++ (methodsText methods ++ '\x7d' :: s)) := by
    simp [bodyText]
  have hopen : symbol "\x7b" (b ++ (bodyText methods ++ s)) =
      some ((), ['\n'] ++ (methodsText methods ++ '\x7d' :: s)) := by
    rw [hbody]
    exact symbolAt_of_eq rfl hb (solid_cons rfl)
  have htext : methodsText methods =
      methods.flatMap fun m => (indentText ++ (m.docText ++ m.lineText)) ++ ['\n', '\n'] := by
    simp only [methodsText, List.append_assoc]
  have hread : ∀ m ∈ methods, indentText ++ (m.docText ++ m.lineText) ≠ [] ∧ IsBlankText ['\n', '\n'] ∧
      ∀ b rest, IsBlankText b → member n (b ++ (indentText ++ (m.docText ++ m.lineText) ++ rest)) =
        some (.method (.ofMethod m), rest) := by
    intro m hmem
    refine ⟨List.cons_ne_nil _ _, by decide, fun b rest hb => ?_⟩
    -- the indentation belongs to the gap before the member
    have hmember : member n ((b ++ indentText) ++ (m.docText ++ (m.lineText ++ rest))) =
        some (.method (.ofMethod m), rest) :=
      member_eq (hm m hmem) (hb.append (by decide))
    simpa only [List.append_assoc] using hmember
  obtain ⟨b', hb', hmany⟩ := many_pieces hread (b := ['\n']) (s := '\x7d' :: s) (by decide)
  have hlist := hmany [] _ (many_of_refused (member_closer hb'))
  have hclose : symbol "\x7d" (b' ++ '\x7d' :: s) = some ((), s) :=
    symbolAt_of_eq (t := ['\x7d']) rfl hb' (solid_cons rfl)
  rw [← htext, List.append_nil] at hlist
  rw [members, bind_of_eq hopen, bind_of_eq hlist, bind_of_eq hclose]
  rfl

end

end PhpInterface
