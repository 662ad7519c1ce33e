import PhpInterface.Description.Method
import PhpInterface.Proofs.Outcome
import PhpInterface.Source.File

/-!
# Which parameters are optional

A call leaves out arguments from the end, so a parameter with a default is optional if a call can stop before
it.  `canStop` says that of a list of parameters as written, and describing them marks each parameter with
what it says of the list that starts there (`marked_describeParameters`).

If every parameter after an optional one were optional too, the optional ones would be a tail of the list.
That is so but for one arrangement (`optional_tail_iff`).  A variadic parameter can be left out whatever
comes after it, and the language wants it to be the last.  Where it is not, a default right before it is
taken for optional although a parameter that has to be given may follow further on.
-/

namespace PhpInterface.Source

/-- An argument has to be given for the parameter. -/
def ParameterExpr.isRequired (e : ParameterExpr) : Bool :=
  !e.variadic && e.default.isNone

/-- A call can stop before these parameters: the first one takes any number of arguments, or it has a
default and a call can stop after it. -/
def canStop : List ParameterExpr → Bool
  | [] => true
  | e :: rest => e.variadic || (e.default.isSome && canStop rest)

/-- Somewhere a variadic parameter stands right behind one with a default and before one for which an
argument has to be given. -/
def hidesRequired : List ParameterExpr → Bool
  | e :: v :: more =>
    (!e.variadic && e.default.isSome && v.variadic && more.any (·.isRequired)) || hidesRequired (v :: more)
  | _ => false

/-! ## Stopping -/

section

variable {l : List ParameterExpr}

/-- Up to the next variadic parameter all have defaults. -/
lemma canStop_iff : canStop l = true ↔ ∀ e ∈ l.takeWhile (!·.variadic), e.default.isSome = true := by
  induction l with
  | nil => simp [canStop]
  | cons e rest ih =>
      rw [canStop, List.takeWhile_cons]
      cases e.variadic with
      | true => simp
      | false => simp [ih]

lemma canStop_of_no_required (h : ∀ e ∈ l, e.isRequired = false) : canStop l = true := by
  induction l with
  | nil => rfl
  | cons e rest ih =>
      have he := h e List.mem_cons_self
      rw [canStop, ih fun f hf => h f (List.mem_cons_of_mem _ hf), Bool.and_true]
      cases hvariadic : e.variadic with
      | true => rfl
      | false =>
          rw [ParameterExpr.isRequired, hvariadic] at he
          simpa [← Option.not_isSome] using he

/-- Behind a default, in a list without the exception, a call can stop only where nothing has to be given. -/
lemma no_required_of_canStop {e : ParameterExpr} (hvariadic : e.variadic = false)
    (hdefault : e.default.isSome = true) (hhides : hidesRequired (e :: l) = false) (hstop : canStop l = true) :
    ∀ f ∈ l, f.isRequired = false := by
  induction l generalizing e with
  | nil => simp
  | cons f rest ih =>
      rw [hidesRequired, Bool.or_eq_false_iff] at hhides
      rw [List.forall_mem_cons]
      cases hf : f.variadic with
      | true =>
          have hmore : rest.any (·.isRequired) = false := by simpa [hvariadic, hdefault, hf] using hhides.1
          exact ⟨by rw [ParameterExpr.isRequired, hf]; rfl, by simpa using hmore⟩
      | false =>
          rw [canStop, hf, Bool.false_or, Bool.and_eq_true] at hstop
          refine ⟨?_, ih hf hstop.1 hhides.2 hstop.2⟩
          rw [ParameterExpr.isRequired, ← Option.not_isSome, hstop.1]
          simp

lemma exists_of_hidesRequired (h : hidesRequired l = true) :
    ∃ before e v more r, l = before ++ e :: v :: more ∧ e.variadic = false ∧ e.default.isSome = true ∧
      v.variadic = true ∧ r ∈ more ∧ r.isRequired = true := by
  fun_induction hidesRequired l with
  | case1 e v more ih =>
      rw [Bool.or_eq_true] at h
      rcases h with h | h
      · simp only [Bool.and_eq_true, Bool.not_eq_true', List.any_eq_true] at h
        obtain ⟨⟨⟨hvariadic, hdefault⟩, hv⟩, r, hr, hrequired⟩ := h
        exact ⟨[], e, v, more, r, rfl, hvariadic, hdefault, hv, hr, hrequired⟩
      · obtain ⟨before, e', v', more', r, hl, hrest⟩ := ih h
        exact ⟨e :: before, e', v', more', r, by rw [hl, List.cons_append], hrest⟩
  | case2 => cases h

lemma hidesRequired_drop (h : hidesRequired l = false) (i : Nat) : hidesRequired (l.drop i) = false := by
  induction i generalizing l with
  | zero => exact h
  | succ i ih =>
      cases l with
      | nil => rfl
      | cons e rest =>
          refine ih (l := rest) ?_
          cases rest with
          | nil => rfl
          | cons v more =>
              rw [hidesRequired, Bool.or_eq_false_iff] at h
              exact h.2

end

/-! ## Marks -/

/-- The parameters are those as written, marked as optional where a call can stop. -/
inductive Marked : List ParameterExpr → List Parameter → Prop where
  | nil : Marked [] []
  | cons {e : ParameterExpr} {l : List ParameterExpr} {p : Parameter} {ps : List Parameter} :
      p.variadic = e.variadic → p.optional = canStop (e :: l) → Marked l ps → Marked (e :: l) (p :: ps)

lemma variadic_describe {scope : Scope} {e : ParameterExpr} {p : Parameter} (h : e.describe scope = .ok p) :
    p.variadic = e.variadic := by
  obtain ⟨written, _, hp⟩ := bind_eq_ok_iff.1 h
  cases hp
  rfl

section

variable {l : List ParameterExpr} {ps : List Parameter}

/-- The first mark tells whether a call can stop before the whole list. -/
lemma Marked.first_optional (h : Marked l ps) : ps.head?.all (·.optional) = canStop l := by
  cases h with
  | nil => rfl
  | cons _ hoptional _ => exact hoptional

lemma marked_markOptional {scope : Scope} (h : List.Forall₂ (fun e p => e.describe scope = .ok p) l ps) :
    Marked l (markOptional (ps.zip (l.map (·.default.isSome)))) := by
  induction h with
  | nil => exact .nil
  | @cons e p l ps hp _ ih =>
      have hvariadic : p.variadic = e.variadic := variadic_describe hp
      rw [List.map_cons, List.zip_cons_cons, markOptional]
      refine .cons hvariadic ?_ ih
      rw [canStop, ← ih.first_optional, ← hvariadic]
      cases markOptional (ps.zip (l.map (·.default.isSome))) <;> rfl

/-- Describing parameters marks them. -/
lemma marked_describeParameters {scope : Scope} (h : describeParameters scope l = .ok ps) : Marked l ps := by
  obtain ⟨described, hdescribed, hps⟩ := bind_eq_ok_iff.1 h
  cases hps
  exact marked_markOptional (mapM_eq_ok_iff.1 hdescribed)

lemma Marked.length_eq (h : Marked l ps) : ps.length = l.length := by
  induction h with
  | nil => rfl
  | cons _ _ _ ih => rw [List.length_cons, List.length_cons, ih]

lemma Marked.place_iff (h : Marked l ps) {i : Nat} : (∃ p, ps[i]? = some p) ↔ ∃ e, l[i]? = some e := by
  rw [← Option.isSome_iff_exists, ← Option.isSome_iff_exists]
  simp [h.length_eq]

lemma Marked.drop (h : Marked l ps) (i : Nat) : Marked (l.drop i) (ps.drop i) := by
  induction i generalizing l ps with
  | zero => exact h
  | succ i ih =>
      cases h with
      | nil => exact .nil
      | cons _ _ hrest => exact ih hrest

/-- The parameter at a place, with the list from there on. -/
lemma Marked.at_place (h : Marked l ps) {i : Nat} {p : Parameter} {e : ParameterExpr} (hp : ps[i]? = some p)
    (he : l[i]? = some e) :
    l.drop i = e :: l.drop (i + 1) ∧ p.variadic = e.variadic ∧ p.optional = canStop (e :: l.drop (i + 1)) := by
  have hl : l.drop i = e :: l.drop (i + 1) := by
    obtain ⟨hi, rfl⟩ := List.getElem?_eq_some_iff.1 he
    exact List.drop_eq_getElem_cons hi
  have hps : ps.drop i = p :: ps.drop (i + 1) := by
    obtain ⟨hi, rfl⟩ := List.getElem?_eq_some_iff.1 hp
    exact List.drop_eq_getElem_cons hi
  have hdrop := h.drop i
  rw [hl, hps] at hdrop
  cases hdrop with
  | cons hvariadic hoptional _ => exact ⟨hl, hvariadic, hoptional⟩

/-- All are optional exactly when none has to be given. -/
lemma Marked.all_optional_iff (h : Marked l ps) :
    (∀ p ∈ ps, p.optional = true) ↔ ∀ e ∈ l, e.isRequired = false := by
  induction h with
  | nil => simp
  | @cons e l p ps _ hoptional _ ih =>
      rw [List.forall_mem_cons, List.forall_mem_cons, ih, hoptional]
      constructor
      · rintro ⟨hstop, hrest⟩
        refine ⟨?_, hrest⟩
        rw [canStop, Bool.or_eq_true, Bool.and_eq_true] at hstop
        rcases hstop with hvariadic | ⟨hdefault, -⟩
        · rw [ParameterExpr.isRequired, hvariadic]
          rfl
        · rw [ParameterExpr.isRequired, ← Option.not_isSome, hdefault]
          simp
      · rintro ⟨hfirst, hrest⟩
        exact ⟨canStop_of_no_required (List.forall_mem_cons.2 ⟨hfirst, hrest⟩), hrest⟩

/-- Without a hidden parameter the optional ones are a tail. -/
lemma Marked.optional_iff (h : Marked l ps) (hhides : hidesRequired l = false) {i : Nat} {p : Parameter}
    {e : ParameterExpr} (hp : ps[i]? = some p) (he : l[i]? = some e) :
    p.optional = true ↔ e.variadic = true ∨ e.default.isSome = true ∧
      ∀ q ∈ ps.drop (i + 1), q.optional = true := by
  obtain ⟨hl, -, hoptional⟩ := h.at_place hp he
  rw [hoptional, canStop, Bool.or_eq_true, Bool.and_eq_true, (h.drop (i + 1)).all_optional_iff]
  cases hvariadic : e.variadic with
  | true => simp
  | false =>
      have hsuffix : hidesRequired (e :: l.drop (i + 1)) = false := hl ▸ hidesRequired_drop hhides i
      refine or_congr Iff.rfl (and_congr_right fun hdefault => ⟨?_, canStop_of_no_required⟩)
      exact no_required_of_canStop hvariadic hdefault hsuffix

/-- A hidden parameter is behind one that is optional for its default. -/
lemma Marked.exists_optional_of_hides (h : Marked l ps) (hhides : hidesRequired l = true) :
    ∃ i p, ps[i]? = some p ∧ p.variadic = false ∧ p.optional = true ∧
      ¬ ∀ q ∈ ps.drop (i + 1), q.optional = true := by
  obtain ⟨before, e, v, more, r, rfl, hvariadic, hdefault, hv, hr, hrequired⟩ :=
    exists_of_hidesRequired hhides
  have he : (before ++ e :: v :: more)[before.length]? = some e := by simp
  obtain ⟨p, hp⟩ := h.place_iff.2 ⟨e, he⟩
  obtain ⟨hl, hsame, hoptional⟩ := h.at_place hp he
  have hrest : (before ++ e :: v :: more).drop (before.length + 1) = v :: more := by
    rw [List.drop_left] at hl
    exact (List.cons.inj hl).2.symm
  refine ⟨before.length, p, hp, hsame.trans hvariadic, ?_, fun hall => ?_⟩
  · rw [hoptional, hrest, canStop, canStop, hv, hdefault]
    simp
  · rw [(h.drop _).all_optional_iff, hrest] at hall
    rw [hall r (List.mem_cons_of_mem _ hr)] at hrequired
    cases hrequired

end

/-! ## Optional parameters as a tail -/

/-- When the optional parameters are a tail.  Whatever the order of the parameters, one is optional exactly
when it is variadic, or has a default and so have all after it up to the next variadic one.  And unless a
required parameter is hidden, one is optional exactly when it is variadic, or has a default and all after it
are optional; then a parameter that is optional for its default is followed by optional ones only.  A hidden
one breaks both rules. -/
theorem optional_tail_iff (scope : Scope) (l : List ParameterExpr) (ps : List Parameter)
    (h : describeParameters scope l = .ok ps) :
    ps.length = l.length ∧
      (∀ i p e, ps[i]? = some p → l[i]? = some e → p.variadic = e.variadic ∧
        (p.optional = true ↔ e.variadic = true ∨ e.default.isSome = true ∧
          ∀ f ∈ (l.drop (i + 1)).takeWhile (!·.variadic), f.default.isSome = true)) ∧
      (hidesRequired l = false ↔ ∀ i p e, ps[i]? = some p → l[i]? = some e →
        (p.optional = true ↔ e.variadic = true ∨ e.default.isSome = true ∧
          ∀ q ∈ ps.drop (i + 1), q.optional = true)) ∧
      (hidesRequired l = false ↔ ∀ i p, ps[i]? = some p → p.variadic = false → p.optional = true →
        ∀ q ∈ ps.drop (i + 1), q.optional = true) := by
  have hmarked := marked_describeParameters h
  -- a tail of optional parameters, and then nothing required behind one, and then nothing hidden
  have htail := fun hhides i p e => hmarked.optional_iff hhides (i := i) (p := p) (e := e)
  have hbehind : (∀ i p e, ps[i]? = some p → l[i]? = some e →
      (p.optional = true ↔ e.variadic = true ∨ e.default.isSome = true ∧
        ∀ q ∈ ps.drop (i + 1), q.optional = true)) →
      ∀ i p, ps[i]? = some p → p.variadic = false → p.optional = true →
        ∀ q ∈ ps.drop (i + 1), q.optional = true := by
    intro hrule i p hp hvariadic hoptional
    obtain ⟨e, he⟩ := hmarked.place_iff.1 ⟨p, hp⟩
    rw [(hmarked.at_place hp he).2.1] at hvariadic
    rcases (hrule i p e hp he).1 hoptional with hsame | hbehind
    · rw [hvariadic] at hsame
      cases hsame
    · exact hbehind.2
  have hhidden : (∀ i p, ps[i]? = some p → p.variadic = false → p.optional = true →
      ∀ q ∈ ps.drop (i + 1), q.optional = true) → hidesRequired l = false := by
    intro hrule
    rw [← Bool.not_eq_true]
    intro hhides
    obtain ⟨i, p, hp, hvariadic, hoptional, hnot⟩ := hmarked.exists_optional_of_hides hhides
    exact hnot (hrule i p hp hvariadic hoptional)
  refine ⟨hmarked.length_eq, ?_, ⟨htail, hhidden ∘ hbehind⟩, ⟨hbehind ∘ htail, hhidden⟩⟩
  intro i p e hp he
  obtain ⟨-, hvariadic, hoptional⟩ := hmarked.at_place hp he
  rw [hoptional, canStop, Bool.or_eq_true, Bool.and_eq_true, canStop_iff]
  exact ⟨hvariadic, Iff.rfl⟩

/-- The parameters `$a, $b = 1, $c = X, ...$d`, where `X` is a constant. -/
def tailSample : List ParameterExpr :=
  [{ type := none, name := "$a", byReference := false, variadic := false, default := none },
   { type := none, name := "$b", byReference := false, variadic := false, default := some (.integer "1") },
   { type := none, name := "$c", byReference := false, variadic := false, default := some (.word "X") },
   { type := none, name := "$d", byReference := false, variadic := true, default := none }]

theorem optional_tail_constant :
    hidesRequired tailSample = false ∧ ∃ ps, describeParameters {} tailSample = .ok ps ∧
      ps.map (·.optional) = [false, true, true, true] ∧
      ∀ i p, ps[i]? = some p → p.variadic = false → p.optional = true →
        ∀ q ∈ ps.drop (i + 1), q.optional = true :=
  ⟨by decide, _, rfl, by decide, (optional_tail_iff {} tailSample _ rfl).2.2.2.1 (by decide)⟩

/-- The variadic and the optional ones among the parameters that a text in parentheses is. -/
def parameterMarks? (text : String) : Option (List (Bool × Bool)) := do
  let (l, _) ← parameters (nested text.length) .last text.toList
  let ps ← (describeParameters {} l).toOption
  pure (ps.map fun p => (p.variadic, p.optional))

/-- A default before a variadic parameter makes its parameter optional, though the last one is required. -/
theorem variadic_hides_required :
    parameterMarks? "($a = 1, ...$b, $c)" = some [(false, true), (true, true), (false, false)] := by
  decide +kernel

end PhpInterface.Source
