import PhpInterface.Proofs.FloatNotation
import PhpInterface.Proofs.NullableUnions
import PhpInterface.Proofs.OptionalTail
import PhpInterface.Proofs.Printable

/-!
# A default `NULL` fits its type

`NULL` is printed as a default for two reasons: the default is `null`, or it is not known and `null` is a
value of the type.  In both cases the type that is printed with it accepts `null` (`null_default_fits`).  Where
it does not, a default that is not known is printed as a comment.

Two decisions have to agree for that.  Describing a parameter settles its type, its default and whether `null`
is one of its values; printing goes by the default and by that last mark alone.  `ParameterExpr.Means` keeps
what describing has settled, through the marking of optional parameters, and the two facts that printing
relies on follow from it: the mark is right (`Means.allowsNull_iff`), and a type with the default
`null` accepts it (`Means.admitsNull_of_null`).
-/

namespace PhpInterface

open Source Decimal

/-! ## Codes that read `NULL` -/

/-- A layout starts with a digit. -/
lemma FloatLayout.exists_cons_write (layout : FloatLayout) (d : Scientific) :
    ∃ c t, layout.write d = c :: t ∧ c.isDigit = true := by
  obtain ⟨n, hnegative, hn⟩ := exists_shows layout d false
  have htext := hn.text
  rw [DecimalNumeral.text, hnegative] at htext
  have hwrite := (List.append_cancel_left htext).symm
  obtain ⟨c, t, hcons⟩ := List.exists_cons_of_ne_nil n.hwhole.1
  rw [hcons, List.cons_append] at hwrite
  exact ⟨c, _, hwrite, n.hwhole.2 c (hcons ▸ List.mem_cons_self)⟩

/-- A float does not start like `NULL`; the letter they share is that of no number. -/
lemma Binary64.code_cases (x : Binary64) :
    x.code = ['N', 'A', 'N'] ∨ ∃ c t, x.code = c :: t ∧ (c.isDigit = true ∨ c = '-' ∨ c = 'I') := by
  rw [code]
  dsimp only
  split
  · exact Or.inl rfl
  · right
    cases x.negative with
    | true =>
        rw [if_pos rfl]
        split_ifs <;> exact ⟨'-', _, rfl, Or.inr (Or.inl rfl)⟩
    | false =>
        rw [if_neg Bool.false_ne_true]
        split_ifs
        · exact ⟨'I', _, rfl, Or.inr (Or.inr rfl)⟩
        · exact ⟨'0', _, rfl, Or.inl rfl⟩
        · obtain ⟨c, t, hwrite, hc⟩ := Value.floatLayout.exists_cons_write (shortest x)
          exact ⟨c, t, hwrite, Or.inl hc⟩

/-- Nothing but `null` is written with the first two letters of `NULL`. -/
lemma eq_null_of_compactCode {v : Value} {rest : List Char}
    (h : v.compactCode.toList = 'N' :: 'U' :: rest) : v = .null := by
  rw [Value.compactCode, String.toList_ofList] at h
  have hfirst : ∀ {c t}, v.codeAt 0 = c :: t → Text.isLayout c = false → c = 'N' := by
    intro c t hcode hc
    rw [hcode, List.filter_cons_of_pos (by simp [hc])] at h
    exact (List.cons.inj h).1
  cases v with
  | null => rfl
  | bool b => cases b <;> cases hfirst rfl rfl
  | int i =>
      obtain ⟨c, t, hcode, hopening⟩ := exists_cons_intCode i
      obtain rfl := hfirst hcode (isLayout_of_mem_intCode (hcode ▸ List.mem_cons_self))
      cases hopening
  | float x =>
      rcases x.code_cases with hcode | ⟨c, t, hcode, hc⟩
      · have hword : (Value.float x).codeAt 0 = ['N', 'A', 'N'] := hcode
        rw [hword] at h
        cases h
      · rcases hc with hdigit | rfl | rfl
        · obtain rfl := hfirst hcode (isLayout_of_isDigit hdigit)
          cases hdigit
        · cases hfirst hcode rfl
        · cases hfirst hcode rfl
  | text s => cases hfirst rfl rfl
  | array entries => cases hfirst rfl rfl

/-! ## What describing settles -/

namespace Source

/-- The parameter is what the expression means in the scope, whatever its mark.  It is marked as optional only
if it is variadic or has a default. -/
structure ParameterExpr.Means (scope : Scope) (e : ParameterExpr) (p : Parameter) : Prop where
  described : e.describe scope = .ok { p with optional := false }
  variadic_or_default : p.optional = true → p.variadic = true ∨ e.default.isSome = true

/-- The parameter is described from the expression, in some scope and at some place of a list. -/
def ParameterExpr.DescribedAs (e : ParameterExpr) (p : Parameter) : Prop :=
  ∃ (scope : Scope) (l : List ParameterExpr) (ps : List Parameter) (i : Nat),
    describeParameters scope l = .ok ps ∧ l[i]? = some e ∧ ps[i]? = some p

lemma optional_of_describe {scope : Scope} {e : ParameterExpr} {p : Parameter} (h : e.describe scope = .ok p) :
    p.optional = false := by
  obtain ⟨written, _, hp⟩ := bind_eq_ok_iff.1 h
  cases hp
  rfl

lemma forall₂_means_markOptional {scope : Scope} {l : List ParameterExpr} {ps : List Parameter}
    (h : List.Forall₂ (fun e p => e.describe scope = .ok p) l ps) :
    List.Forall₂ (ParameterExpr.Means scope) l (markOptional (ps.zip (l.map (·.default.isSome)))) := by
  induction h with
  | nil => exact .nil
  | @cons e p l ps hp _ ih =>
      rw [List.map_cons, List.zip_cons_cons, markOptional]
      refine .cons ⟨?_, ?_⟩ ih
      · rw [hp, ← optional_of_describe hp]
      · intro hoptional
        simp only [Bool.or_eq_true, Bool.and_eq_true] at hoptional
        exact hoptional.imp_right And.left

lemma ParameterExpr.DescribedAs.means {e : ParameterExpr} {p : Parameter} (h : e.DescribedAs p) :
    ∃ scope, e.Means scope p := by
  obtain ⟨scope, l, ps, i, hdescribe, he, hp⟩ := h
  obtain ⟨described, hdescribed, hps⟩ := bind_eq_ok_iff.1 hdescribe
  cases hps
  have hall := forall₂_means_markOptional (mapM_eq_ok_iff.1 hdescribed)
  obtain ⟨hi, rfl⟩ := List.getElem?_eq_some_iff.1 he
  obtain ⟨hj, rfl⟩ := List.getElem?_eq_some_iff.1 hp
  exact ⟨scope, hall.get hi hj⟩

namespace ParameterExpr.Means

variable {scope : Scope} {e : ParameterExpr} {p : Parameter}

/-- What describing settles about the default, the type and `null`. -/
lemma fields (h : e.Means scope p) :
    p.default = e.default.bind Expr.value? ∧
      (∃ written : Option NamedType, p.type = written.map (typeWithDefault p.default)) ∧
      p.allowsNull = p.type.all NamedType.admitsNull := by
  obtain ⟨written, _, hp⟩ := bind_eq_ok_iff.1 h.described
  have hfields := Except.ok.inj hp
  simp only [Parameter.mk.injEq] at hfields
  obtain ⟨-, htype, -, -, -, hdefault, hallows⟩ := hfields
  refine ⟨hdefault.symm, ⟨written, by rw [← htype, ← hdefault]⟩, ?_⟩
  rw [← hallows, htype]
  cases p.type <;> rfl

/-- The mark for `null` says whether it is a value of the type. -/
lemma allowsNull_iff (h : e.Means scope p) : p.allowsNull = true ↔ ∀ t ∈ p.type, t.admitsNull = true := by
  rw [h.fields.2.2]
  cases p.type <;> simp

/-- A type accepts the default `null`. -/
lemma admitsNull_of_null (h : e.Means scope p) (hnull : p.default = some .null) :
    ∀ t ∈ p.type, t.admitsNull = true := by
  obtain ⟨-, ⟨written, htype⟩, -⟩ := h.fields
  intro t ht
  rw [htype, hnull] at ht
  obtain ⟨u, _, rfl⟩ := Option.map_eq_some_iff.1 ht
  rw [typeWithDefault]
  split
  · next hunmarked => rw [NamedType.admitsNull, hunmarked, Bool.or_true]
  · rfl

end ParameterExpr.Means

end Source

/-! ## What printing makes of it -/

namespace NamedType

variable {t : NamedType}

lemma admitsNull_iff :
    t.admitsNull = true ↔ t.nullable = true ∨ t.builtin = true ∧ (t.name = "mixed" ∨ t.name = "null") := by
  simp [admitsNull, admitsNullUnmarked]

/-- A type that accepts `null` is printed with the mark for it, or as one of two words. -/
lemma print_of_admitsNull {s : String} (ht : t.admitsNull = true) (h : t.print = .ok s) :
    (∃ token, s = "?" ++ token) ∨ t.builtin = true ∧ (s = "mixed" ∨ s = "null") := by
  obtain ⟨token, htoken, hs⟩ := bind_eq_ok_iff.1 h
  cases hs
  cases hnullable : t.nullable with
  | true => exact Or.inl ⟨token, rfl⟩
  | false =>
      rw [admitsNull_iff, hnullable] at ht
      obtain ⟨hbuiltin, hname⟩ := ht.resolve_left Bool.false_ne_true
      rw [NamedType.token, namesClass, hbuiltin] at htoken
      cases htoken
      exact Or.inr ⟨hbuiltin, by simpa using hname⟩

end NamedType

/-- A default that is written out reads `NULL` for `null` alone. -/
lemma trim_assigned_iff {v : Value} : Text.trim (" = " ++ v.compactCode) = "= NULL" ↔ v = .null := by
  constructor
  · intro h
    have hsplit : (" = " ++ v.compactCode).toList = [' '] ++ (['='] ++ ' ' :: v.compactCode.toList) := by
      rw [String.toList_append]
      rfl
    have htrim : ['='] ++ (' ' :: v.compactCode.toList).rdropWhile Text.isBlank = "= NULL".toList := by
      rw [← h, Text.trim, String.toList_ofList, hsplit,
        Text.trimBlank_append (List.cons_ne_nil _ _) (List.forall_mem_singleton.2 rfl)]
      rfl
    have hkept : (' ' :: v.compactCode.toList).rdropWhile Text.isBlank = [' ', 'N', 'U', 'L', 'L'] :=
      List.append_cancel_left htrim
    obtain ⟨rest, hrest⟩ := List.rdropWhile_prefix Text.isBlank (' ' :: v.compactCode.toList)
    rw [hkept] at hrest
    exact eq_null_of_compactCode (List.cons.inj hrest).2.symm
  · rintro rfl
    decide

namespace Parameter

variable {p : Parameter}

/-- When the default is printed as `NULL`. -/
lemma trim_printDefault_iff :
    Text.trim p.printDefault = "= NULL" ↔ p.optional = true ∧ p.variadic = false ∧
      (p.default = some .null ∨ p.default = none ∧ p.allowsNull = true) := by
  rw [printDefault, ← and_assoc, ← Bool.not_eq_true' p.variadic, ← Bool.and_eq_true]
  cases p.optional && !p.variadic with
  | false =>
      have hblank : Text.trim "" ≠ "= NULL" := by decide
      simp [hblank]
  | true =>
      rw [if_pos rfl]
      cases p.default with
      | some v => simp [trim_assigned_iff]
      | none =>
          have hnull : Text.trim " = NULL " = "= NULL" := by decide
          have hcomment : Text.trim " /* = unresolvable */ " ≠ "= NULL" := by decide
          cases p.allowsNull <;> simp [hnull, hcomment]

/-- The text of a parameter that is not variadic.  The blank in front of the mark `&` or the name is gone if no
type stands before it, and those behind the default are gone. -/
lemma eq_of_print {s body gap : String} {t : List Char} {c : Char} (hvariadic : p.variadic = false)
    (hdefault : p.printDefault = body ++ gap) (hbody : body.toList = t ++ [c])
    (hc : Text.isBlank c = false) (hgap : gap.toList.all Text.isBlank = true) (h : p.print = .ok s) :
    ∃ type, (p.type = none ∧ type = "" ∨ ∃ t, p.type = some t ∧ t.print = .ok type) ∧
      s = String.ofList ((type ++ " " ++ (if p.byReference then "&" else "")).toList.dropWhile Text.isBlank) ++
        "$" ++ p.name ++ body := by
  have hfront : ∀ front : String, Text.trim (front ++ "" ++ "$" ++ p.name ++ (body ++ gap)) =
      String.ofList (front.toList.dropWhile Text.isBlank) ++ "$" ++ p.name ++ body := by
    intro front
    have hsplit : (front ++ "" ++ "$" ++ p.name ++ (body ++ gap)).toList =
        (front.toList ++ (['$'] ++ (p.name.toList ++ t))) ++ ([c] ++ gap.toList) := by
      simp [hbody]
    rw [Text.trim, hsplit, Text.trimBlank_append (List.cons_ne_nil _ _) (List.forall_mem_singleton.2 hc),
      Text.dropWhile_append_of_not_blank (List.cons_ne_nil _ _) (List.forall_mem_singleton.2 rfl),
      List.rdropWhile_eq_nil_iff.2 (List.all_eq_true.1 hgap), ← String.toList_inj]
    simp [hbody]
  rw [print, hvariadic, hdefault] at h
  cases htype : p.type with
  | none =>
      rw [htype] at h
      exact ⟨"", Or.inl ⟨rfl, rfl⟩, (Except.ok.inj h).symm.trans (hfront _)⟩
  | some t =>
      rw [htype] at h
      obtain ⟨type, hprint, hs⟩ := bind_eq_ok_iff.1 h
      exact ⟨type, Or.inr ⟨t, rfl, hprint⟩, (Except.ok.inj hs).symm.trans (hfront _)⟩

lemma exists_gap_of_trim (h : Text.trim p.printDefault = "= NULL") :
    ∃ gap : String, p.printDefault = " = NULL" ++ gap ∧ gap.toList.all Text.isBlank = true := by
  obtain ⟨hoptional, hvariadic, hnull | ⟨hnone, hallows⟩⟩ := trim_printDefault_iff.1 h
  · refine ⟨"", ?_, by decide⟩
    have hcode : " = " ++ Value.null.compactCode = " = NULL" ++ "" := by decide
    rw [printDefault, hoptional, hvariadic, hnull]
    exact hcode
  · refine ⟨" ", ?_, by decide⟩
    rw [printDefault, hoptional, hvariadic, hnone, hallows]
    rfl

/-- What stands before the default `NULL`, if the type accepts `null`. -/
lemma exists_front_of_trim {s : String} (htype : ∀ t ∈ p.type, t.admitsNull = true)
    (hnull : Text.trim p.printDefault = "= NULL") (h : p.print = .ok s) :
    ∃ front, s = front ++ (if p.byReference then "&" else "") ++ "$" ++ p.name ++ " = NULL" ∧
      (p.type = none ∧ front = "" ∨ (∃ token, front = "?" ++ token ++ " ") ∨
        ∃ t, p.type = some t ∧ t.builtin = true ∧ (front = "mixed " ∨ front = "null ")) := by
  obtain ⟨gap, hdefault, hgap⟩ := exists_gap_of_trim hnull
  have hbody : " = NULL".toList = [' ', '=', ' ', 'N', 'U', 'L'] ++ ['L'] := by decide
  obtain ⟨type, hprint, rfl⟩ :=
    eq_of_print (trim_printDefault_iff.1 hnull).2.1 hdefault hbody (by decide) hgap h
  rcases hprint with ⟨hnone, rfl⟩ | ⟨t, ht, hprint⟩
  · refine ⟨"", ?_, Or.inl ⟨hnone, rfl⟩⟩
    cases p.byReference <;> rfl
  · -- the text of a type starts with no blank, so nothing is trimmed in front of it
    have hkept : ∀ {c : Char} {rest : List Char}, type.toList = c :: rest → Text.isBlank c = false →
        String.ofList ((type ++ " " ++ if p.byReference then "&" else "").toList.dropWhile Text.isBlank) =
          type ++ " " ++ if p.byReference then "&" else "" := by
      intro c rest hcons hc
      rw [String.toList_append, String.toList_append, hcons, List.cons_append, List.cons_append,
        List.dropWhile_cons_of_neg (by simp [hc]), ← List.cons_append, ← List.cons_append, ← hcons,
        ← String.toList_append, ← String.toList_append, String.ofList_toList]
    refine ⟨type ++ " ", ?_, Or.inr ?_⟩
    · rcases NamedType.print_of_admitsNull (htype t ht) hprint with ⟨token, rfl⟩ | ⟨-, rfl | rfl⟩
      · rw [hkept (String.toList_append ..) (by decide)]
      · rw [hkept rfl (by decide)]
      · rw [hkept rfl (by decide)]
    · rcases NamedType.print_of_admitsNull (htype t ht) hprint with ⟨token, rfl⟩ | ⟨hbuiltin, hword⟩
      · exact Or.inl ⟨token, rfl⟩
      · exact Or.inr ⟨t, ht, hbuiltin, hword.imp (congrArg (· ++ " ")) (congrArg (· ++ " "))⟩

end Parameter

/-- `NULL` is printed where the default is `null`, and where it is not known and the type accepts `null`. -/
lemma Source.ParameterExpr.Means.trim_printDefault_iff {scope : Scope} {e : ParameterExpr} {p : Parameter}
    (h : e.Means scope p) :
    Text.trim p.printDefault = "= NULL" ↔ p.optional = true ∧ p.variadic = false ∧ ∃ x, e.default = some x ∧
      (x.value? = some .null ∨ x.value? = none ∧ ∀ t ∈ p.type, t.admitsNull = true) := by
  rw [Parameter.trim_printDefault_iff, h.allowsNull_iff, h.fields.1]
  refine and_congr_right fun hoptional => and_congr_right fun hvariadic => ?_
  cases hdefault : e.default with
  | some x => simp
  | none =>
      have hmark := h.variadic_or_default hoptional
      rw [hvariadic, hdefault] at hmark
      simp at hmark

/-- The type of a parameter with the default `NULL` accepts `null`, whichever the reason. -/
lemma Source.ParameterExpr.Means.admitsNull_of_trim {scope : Scope} {e : ParameterExpr} {p : Parameter}
    (h : e.Means scope p) (hnull : Text.trim p.printDefault = "= NULL") :
    ∀ t ∈ p.type, t.admitsNull = true := by
  obtain ⟨-, -, hdefault | ⟨-, hallows⟩⟩ := Parameter.trim_printDefault_iff.1 hnull
  · exact h.admitsNull_of_null hdefault
  · exact h.allowsNull_iff.1 hallows

/-- A default that is not known is a comment where the type does not accept `null`. -/
lemma Source.ParameterExpr.Means.printDefault_of_unknown {scope : Scope} {e : ParameterExpr} {p : Parameter}
    (h : e.Means scope p) (hoptional : p.optional = true) (hvariadic : p.variadic = false)
    (hunknown : ∀ x, e.default = some x → x.value? = none) {t : NamedType} (ht : p.type = some t)
    (hrefuses : t.admitsNull = false) : p.printDefault = " /* = unresolvable */ " := by
  have hdefault : p.default = none := by
    rw [h.fields.1, Option.bind_eq_none_iff]
    exact hunknown
  have hallows : p.allowsNull = false := by
    rw [← Bool.not_eq_true, h.allowsNull_iff]
    intro hall
    rw [hall t ht] at hrefuses
    cases hrefuses
  rw [Parameter.printDefault, hoptional, hvariadic, hdefault, hallows]
  rfl

/-- The parameters of every class that is found are described from parameters as written. -/
lemma described_of_classNamed {files : List Content} {name : String} {r : ClassInfo}
    (h : classNamed files name = .ok r) :
    ∀ m ∈ r.methods, ∀ p ∈ m.parameters, ∃ e : ParameterExpr, e.DescribedAs p := by
  have hfind : ∀ name kind c, lookupIn files name kind = .ok (some c) →
      ∀ m ∈ c.methods, ∀ p ∈ m.toMethod.parameters, ∃ e : ParameterExpr, e.DescribedAs p := by
    intro name kind c hfound m hm p hp
    obtain ⟨d, _, hdescribe⟩ := exists_declared_of_lookup hfound
    obtain ⟨methods, hmethods, hc⟩ := bind_eq_ok_iff.1 hdescribe
    cases hc
    obtain ⟨e, _, hread⟩ := exists_arg_of_mapM hmethods hm
    obtain ⟨ps, hps, hrest⟩ := bind_eq_ok_iff.1 hread
    obtain ⟨result, _, hmethod⟩ := bind_eq_ok_iff.1 hrest
    cases hmethod
    obtain ⟨i, hi⟩ := List.mem_iff_getElem?.1 hp
    obtain ⟨x, hx⟩ := (marked_describeParameters hps).place_iff.1 ⟨p, hi⟩
    exact ⟨x, d.scope, e.parameters, ps, i, hps, hx, hi⟩
  obtain ⟨c, _, hfound, hrun⟩ := exists_found_of_classNamed h
  exact forall_mem_of_assemble (P := fun m => ∀ p ∈ m.parameters, ∃ e : ParameterExpr, e.DescribedAs p)
    hfind (hfind _ _ _ hfound) hrun

/-! ## Types and defaults together -/

/-- A default `NULL` fits its type.  Every parameter of a class that is found, in whatever files, is described
from a parameter as written, at its place in a list.  Its default is printed as `NULL` exactly where it is
optional and not variadic and the default is `null`, or is not known and `null` is a value of the type.  Then
no type is printed, or one that starts with a question mark, or one of the builtin types `mixed` and `null`.
Where the default is not known and `null` is no value of the type, a comment is all that is printed. -/
theorem null_default_fits :
    (∀ files name r, classNamed files name = .ok r → ∀ m ∈ r.methods, ∀ p ∈ m.parameters,
      ∃ e : ParameterExpr, e.DescribedAs p) ∧
    ∀ (e : ParameterExpr) (p : Parameter), e.DescribedAs p →
      (Text.trim p.printDefault = "= NULL" ↔ p.optional = true ∧ p.variadic = false ∧
        ∃ x, e.default = some x ∧ (x.value? = some .null ∨ x.value? = none ∧
          ∀ t ∈ p.type, t.nullable = true ∨ t.builtin = true ∧ (t.name = "mixed" ∨ t.name = "null"))) ∧
      (Text.trim p.printDefault = "= NULL" → ∀ s, p.print = .ok s → ∃ front,
        s = front ++ (if p.byReference then "&" else "") ++ "$" ++ p.name ++ " = NULL" ∧
          (p.type = none ∧ front = "" ∨ (∃ token, front = "?" ++ token ++ " ") ∨
            ∃ t, p.type = some t ∧ t.builtin = true ∧ (front = "mixed " ∨ front = "null "))) ∧
      (p.optional = true → p.variadic = false → (∀ x, e.default = some x → x.value? = none) →
        ∀ t, p.type = some t → t.nullable = false →
          ¬ (t.builtin = true ∧ (t.name = "mixed" ∨ t.name = "null")) →
          p.printDefault = " /* = unresolvable */ " ∧
            ∀ s, p.print = .ok s → ∃ front, s = front ++ "$" ++ p.name ++ " /* = unresolvable */") := by
  refine ⟨fun _ _ _ => described_of_classNamed, ?_⟩
  intro e p hdescribed
  obtain ⟨scope, hmeans⟩ := hdescribed.means
  refine ⟨?_, ?_, ?_⟩
  · simp only [hmeans.trim_printDefault_iff, NamedType.admitsNull_iff]
  · intro hnull s hprint
    exact Parameter.exists_front_of_trim (hmeans.admitsNull_of_trim hnull) hnull hprint
  · intro hoptional hvariadic hunknown t ht hnullable hbuiltin
    have hrefuses : t.admitsNull = false := by
      rw [← Bool.not_eq_true, NamedType.admitsNull_iff, hnullable]
      exact not_or.2 ⟨Bool.false_ne_true, hbuiltin⟩
    have hcomment := hmeans.printDefault_of_unknown hoptional hvariadic hunknown ht hrefuses
    refine ⟨hcomment, fun s hprint => ?_⟩
    have hbody : " /* = unresolvable */".toList = " /* = unresolvable *".toList ++ ['/'] := by decide
    have hgap : " /* = unresolvable */ " = " /* = unresolvable */" ++ " " := by decide
    obtain ⟨type, -, hs⟩ :=
      Parameter.eq_of_print hvariadic (hcomment.trans hgap) hbody (by decide) (by decide) hprint
    exact ⟨_, hs⟩

/-- The parameters `int $a = null, mixed &$b = X, $c = X, int $d = X`, where `X` is a constant. -/
def nullSample : List ParameterExpr :=
  [{ type := some (.simple (.named "int")), name := "$a", byReference := false, variadic := false,
     default := some (.word "null") },
   { type := some (.simple (.named "mixed")), name := "$b", byReference := true, variadic := false,
     default := some (.word "X") },
   { type := none, name := "$c", byReference := false, variadic := false, default := some (.word "X") },
   { type := some (.simple (.named "int")), name := "$d", byReference := false, variadic := false,
     default := some (.word "X") }]

/-- What they mean. -/
def nullSampleMeaning : List Parameter :=
  [{ name := "a", type := some ⟨"int", true, true⟩, optional := true, default := some .null,
     allowsNull := true },
   { name := "b", type := some ⟨"mixed", true, false⟩, byReference := true, optional := true,
     allowsNull := true },
   { name := "c", optional := true, allowsNull := true },
   { name := "d", type := some ⟨"int", true, false⟩, optional := true }]

/-- A class with a method that has them. -/
def nullFiles : List Content :=
  [.text "<?php class C \x7b function f(int $a = null, mixed &$b = X, $c = X, int $d = X) \x7b\x7d \x7d"]

set_option maxRecDepth 100000 in
theorem null_default_fits_sample :
    (∃ r, classNamed nullFiles "C" = .ok r ∧
      (r.methods.map fun m => m.parameters.map (·.print.toOption)) =
        [[some "?int $a = NULL", some "mixed &$b = NULL", some "$c = NULL",
          some "int $d /* = unresolvable */"]] ∧
      ∀ m ∈ r.methods, ∀ p ∈ m.parameters, ∃ e : ParameterExpr, e.DescribedAs p) ∧
    describeParameters {} nullSample = .ok nullSampleMeaning ∧
    (∀ p ∈ nullSampleMeaning.take 3, ∃ s front, p.print = .ok s ∧
      s = front ++ (if p.byReference then "&" else "") ++ "$" ++ p.name ++ " = NULL" ∧
        (p.type = none ∧ front = "" ∨ (∃ token, front = "?" ++ token ++ " ") ∨
          ∃ t, p.type = some t ∧ t.builtin = true ∧ (front = "mixed " ∨ front = "null "))) ∧
    ∀ p ∈ nullSampleMeaning.drop 3, p.printDefault = " /* = unresolvable */ " := by
  have hdescribe : describeParameters {} nullSample = .ok nullSampleMeaning := rfl
  have hplace : ∀ {e p} (i : Nat), nullSample[i]? = some e → nullSampleMeaning[i]? = some p →
      e.DescribedAs p :=
    fun i he hp => ⟨{}, _, _, i, hdescribe, he, hp⟩
  refine ⟨?_, hdescribe, ?_, ?_⟩
  · have htexts : ((classNamed nullFiles "C").toOption.map fun r =>
        r.methods.map fun m => m.parameters.map (·.print.toOption)) =
          some [[some "?int $a = NULL", some "mixed &$b = NULL", some "$c = NULL",
            some "int $d /* = unresolvable */"]] := by
      decide +kernel
    obtain ⟨r, hr, htexts⟩ := exists_ok_of_map_toOption htexts
    exact ⟨r, hr, htexts, null_default_fits.1 _ _ r hr⟩
  · intro p hp
    simp only [nullSampleMeaning, List.take_succ_cons, List.take_zero, List.mem_cons, List.not_mem_nil,
      or_false] at hp
    rcases hp with rfl | rfl | rfl
    · obtain ⟨front, hfront⟩ := (null_default_fits.2 _ _ (hplace 0 rfl rfl)).2.1 (by decide +kernel) _ rfl
      exact ⟨_, front, rfl, hfront⟩
    · obtain ⟨front, hfront⟩ := (null_default_fits.2 _ _ (hplace 1 rfl rfl)).2.1 (by decide +kernel) _ rfl
      exact ⟨_, front, rfl, hfront⟩
    · obtain ⟨front, hfront⟩ := (null_default_fits.2 _ _ (hplace 2 rfl rfl)).2.1 (by decide +kernel) _ rfl
      exact ⟨_, front, rfl, hfront⟩
  · intro p hp
    obtain rfl := List.mem_singleton.1 hp
    refine ((null_default_fits.2 _ _ (hplace 3 rfl rfl)).2.2 rfl rfl ?_ _ rfl rfl (by decide)).1
    rintro x ⟨⟩
    rfl

end PhpInterface
