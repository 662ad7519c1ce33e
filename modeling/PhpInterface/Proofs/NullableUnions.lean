import Mathlib.Data.List.DropRight
import Mathlib.Data.List.Forall2
import PhpInterface.Description.Type
import PhpInterface.Proofs.Names
import PhpInterface.Proofs.Tokens

/-!
# Unions with `null`

A type with a bar can be taken over if it is one type or `null`.  Whether it is so is decided on two views of
the type: its members as they were read, and its text, which is cut at the bars.  The views agree as long as
the text between the bars is the members and blanks.

Here the text of such a type is taken apart: the members, and spacing around the bars between them
(`exists_texts`).  Spacing is white space and comments, and a comment can have a bar in it or stand on the side
of `null`.  Then the views differ, and the type is refused (`nullable_union_iff`).  It is never taken for
another type.
-/

namespace PhpInterface

namespace Source

open Reader

/-! ## Spacing -/

/-- White space and comments, one after the other. -/
inductive Spacing : List Char → Prop where
  | nil : Spacing []
  | blank {c : Char} {g : List Char} : isSeparator c = true → Spacing g → Spacing (c :: g)
  | comment {text after g : List Char} : comment (text ++ after) = some (text, after) → Spacing g →
      Spacing (text ++ g)

variable {p : Position} {s rest : List Char}

lemma Spacing.blanks {b g : List Char} (hb : IsBlankText b) (hg : Spacing g) : Spacing (b ++ g) := by
  induction b with
  | nil => exact hg
  | cons c b ih =>
      exact .blank (hb c List.mem_cons_self) (ih fun d hd => hb d (List.mem_cons_of_mem _ hd))

/-- A part of a gap that is no page, in front of spacing. -/
lemma exists_spacing_of_gapPart {attributes : Bool} {part : GapPart}
    (h : gapPart p attributes s = some (part, rest)) (hpage : pages [part] = []) :
    ∃ t, s = t ++ rest ∧ ∀ g, Spacing g → Spacing (t ++ g) := by
  unfold gapPart at h
  split at h
  · cases h
  · next c s =>
    split at h
    · next hc =>
      cases h
      refine ⟨c :: s.takeWhile isSeparator, ?_, fun g hg => .blank hc (.blanks ?_ hg)⟩
      · rw [List.cons_append, List.takeWhile_append_dropWhile]
      · intro d hd
        exact List.all_eq_true.1 List.all_takeWhile d hd
    · split at h
      · cases h
      · split at h
        · cases h
          cases hpage
        · obtain ⟨⟨text, after⟩, hcomment, hpart⟩ := Option.map_eq_some_iff.1 h
          cases hpart
          obtain ⟨happend, -⟩ := append_comment hcomment
          have hread : comment (text ++ rest) = some (text, rest) := by rw [happend, hcomment]
          exact ⟨text, happend.symm, fun g hg => .comment hread hg⟩

/-- A gap without pages is spacing. -/
lemma exists_spacing {attributes : Bool} {parts : List GapPart}
    (h : gapParts p attributes s = (parts, rest)) (hpages : pages parts = []) :
    ∃ g, s = g ++ rest ∧ Spacing g := by
  fun_induction gapParts p attributes s generalizing parts with
  | case1 s hnone =>
      cases h
      exact ⟨[], rfl, .nil⟩
  | case2 s part after hpart more last hmore ih =>
      cases h
      have hsplit : pages [part] = [] ∧ pages more = [] := by
        rw [← List.singleton_append, pages_append] at hpages
        exact List.append_eq_nil_iff.1 hpages
      obtain ⟨t, rfl, ht⟩ := exists_spacing_of_gapPart hpart hsplit.1
      obtain ⟨g, rfl, hg⟩ := ih hmore hsplit.2
      exact ⟨t ++ g, by rw [List.append_assoc], ht g hg⟩

/-- Where no part of a gap is read, none starts in any way. -/
lemma solid_of_gapPart (h : gapPart .inner false s = none) : Solid s := by
  intro p attributes
  cases s with
  | nil => rfl
  | cons c s =>
      unfold gapPart at h ⊢
      dsimp only at h ⊢
      split at h
      · cases h
      · next hc =>
        rw [if_neg hc]
        simp only [Bool.false_and, Bool.false_eq_true, if_false] at h
        split
        · rfl
        · split at h
          · cases h
          · next hpage =>
            split
            · next htext => exact absurd htext (hpage _ _ rfl)
            · exact h

/-- Behind a gap no other one starts. -/
lemma solid_gapParts (s : List Char) : Solid (gapParts .inner false s).2 := by
  generalize hp : Position.inner = p
  generalize ha : false = attributes
  fun_induction gapParts p attributes s with
  | case1 s hnone =>
      subst hp ha
      exact solid_of_gapPart hnone
  | case2 s part after hpart more last hmore ih =>
      rw [hmore] at ih
      exact ih

lemma gap_of_solid (hs : Solid s) : gap s = some ([], s) := by
  rw [gap, gapAt, gapParts_of_solid hs]

lemma gap_eq_some {parts : List GapPart} (h : gap s = some (parts, rest)) :
    Solid rest ∧ (pages parts = [] → ∃ g, s = g ++ rest ∧ Spacing g) := by
  have hparts : gapParts .inner false s = (parts, rest) := Option.some.inj h
  refine ⟨?_, exists_spacing hparts⟩
  have hsolid := solid_gapParts s
  rwa [hparts] at hsolid

/-! ## The texts of members -/

/-- The text of a type that is no combination of others: its name, or its name behind a question mark. -/
def SimpleType.Spells : SimpleType → List Char → Prop
  | .named name, t => t = name.toList
  | .optional name, t => ∃ g, Spacing g ∧ t = '?' :: (g ++ name.toList)
  | .interrupted _, t => ∃ between, t = '?' :: between

lemma name_eq_some {text : List Char} (hs : Solid s) (h : name p s = some (text, rest)) :
    s = text ++ rest := by
  rw [name, bind_of_eq (gap_of_solid hs)] at h
  obtain ⟨⟨_, t⟩, after, hspelled, hpure⟩ := bind_eq_some_iff.1 h
  cases hpure
  obtain ⟨hwords, htaken⟩ := spelled_eq_some hspelled
  obtain ⟨u, hu, -⟩ := takes_nameWords p _ _ _ hwords
  rw [htaken u hu, hu]

lemma typeName_eq_some {name : String} (hs : Solid s) (h : typeName p s = some (name, rest)) :
    s = name.toList ++ rest := by
  rw [typeName, bind_of_eq (gap_of_solid hs)] at h
  obtain ⟨w, s₁, hnext, hread⟩ := bind_eq_some_iff.1 h
  rw [nextWord_eq_some hnext] at hread
  split at hread
  · obtain ⟨v, hv, rfl⟩ := map_eq_some hread
    rw [String.toList_ofList]
    exact (rawWord_eq_some hv).1
  · obtain ⟨text, htext, rfl⟩ := map_eq_some hread
    rw [String.toList_ofList]
    exact name_eq_some hs htext

lemma simpleType_eq_some {t : SimpleType} (hs : Solid s) (h : simpleType p s = some (t, rest)) :
    ∃ m, s = m ++ rest ∧ t.Spells m := by
  obtain ⟨marked, s₁, hmark, hread⟩ := bind_eq_some_iff.1 h
  rcases found_eq_some hmark with ⟨rfl, _, hsymbol⟩ | ⟨rfl, rfl⟩
  · rw [symbol, symbolAt, ← gap, bind_of_eq (gap_of_solid hs)] at hsymbol
    obtain ⟨_, rfl, rfl⟩ := Takes.exactly _ _ _ _ hsymbol
    rw [if_pos rfl] at hread
    obtain ⟨before, s₂, hgap, hread⟩ := bind_eq_some_iff.1 hread
    obtain ⟨name, s₃, hname, hread⟩ := bind_eq_some_iff.1 hread
    obtain ⟨hsolid, hspacing⟩ := gap_eq_some hgap
    have hrest := typeName_eq_some hsolid hname
    cases hpages : pages before with
    | nil =>
        rw [hpages] at hread
        cases hread
        obtain ⟨g, rfl, hg⟩ := hspacing hpages
        exact ⟨'?' :: (g ++ name.toList), by rw [hrest]; simp, g, hg, rfl⟩
    | cons page more =>
        rw [hpages] at hread
        cases hread
        obtain ⟨g, rfl, -⟩ := takes_gapAt _ _ _ _ hgap
        exact ⟨'?' :: (g ++ name.toList), by rw [hrest]; simp, _, rfl⟩
  · rw [if_neg Bool.false_ne_true] at hread
    obtain ⟨name, hname, rfl⟩ := map_eq_some hread
    exact ⟨name.toList, typeName_eq_some hs hname, rfl⟩

lemma barredType_eq_some {t : SimpleType} (h : barredType p s = some (some t, rest)) :
    simpleType p s = some (t, rest) := by
  rw [barredType, oneOf] at h
  dsimp only at h
  split at h
  · next result hresult =>
    cases h
    obtain ⟨_, _, _, hpure⟩ := bind_eq_some_iff.1 hresult
    cases hpure
  · rw [oneOf_singleton] at h
    obtain ⟨u, hu, heq⟩ := map_eq_some h
    cases heq
    exact hu

/-- The text of a further member: the bar with spacing around it, and the member. -/
def Barred (t : SimpleType) (u : List Char) : Prop :=
  ∃ g g' m, Spacing g ∧ Spacing g' ∧ t.Spells m ∧ u = g ++ '|' :: (g' ++ m)

lemma nextAlternative_eq_some {t : SimpleType} (h : nextAlternative p s = some (([], some t), rest)) :
    ∃ u, s = u ++ rest ∧ Barred t u := by
  obtain ⟨before, s₁, hbefore, hread⟩ := bind_eq_some_iff.1 h
  obtain ⟨_, s₂, hbar, hread⟩ := bind_eq_some_iff.1 hread
  obtain ⟨after, s₃, hafter, hread⟩ := bind_eq_some_iff.1 hread
  obtain ⟨o, s₄, ho, hpure⟩ := bind_eq_some_iff.1 hread
  simp only [pure_eq, Option.some.injEq, Prod.mk.injEq, List.append_eq_nil_iff] at hpure
  obtain ⟨⟨⟨hbeforePages, hafterPages⟩, rfl⟩, rfl⟩ := hpure
  obtain ⟨g, rfl, hg⟩ := exists_spacing (Option.some.inj hbefore) hbeforePages
  obtain ⟨_, rfl, rfl⟩ := Takes.char _ _ _ _ hbar
  obtain ⟨hsolid, hspacing⟩ := gap_eq_some hafter
  obtain ⟨g', rfl, hg'⟩ := hspacing hafterPages
  obtain ⟨m, rfl, hm⟩ := simpleType_eq_some hsolid (barredType_eq_some ho)
  exact ⟨g ++ '|' :: (g' ++ m), by simp, g, g', m, hg, hg', hm, rfl⟩

/-- Where no page stands among the alternatives, there is none around the bars. -/
lemma alternatives_eq_map {more : List (List (List Char) × Option SimpleType)} {l : List SimpleType}
    (hsome : ∀ q ∈ more, q.2.isSome = true)
    (h : (more.flatMap fun (texts, t) =>
      texts.map (fun text => .page (String.ofList text)) ++ t.toList.map Alternative.type) = l.map .type) :
    more = l.map fun t => ([], some t) := by
  induction more generalizing l with
  | nil =>
      rw [List.flatMap_nil, eq_comm, List.map_eq_nil_iff] at h
      rw [h, List.map_nil]
  | cons q more ih =>
      obtain ⟨texts, o⟩ := q
      obtain ⟨t, rfl⟩ := Option.isSome_iff_exists.1 (hsome _ List.mem_cons_self)
      rw [List.flatMap_cons] at h
      cases texts with
      | cons text texts =>
          cases l with
          | nil => cases h
          | cons u l => cases h
      | nil =>
          cases l with
          | nil => cases h
          | cons u l =>
              obtain ⟨htype, hrest⟩ := List.cons.inj h
              cases htype
              rw [ih (fun r hr => hsome r (List.mem_cons_of_mem _ hr)) hrest, List.map_cons]

/-- A union of types without pages between them, from the first alternative and the others. -/
lemma shapeOf_eq_union {first : Option SimpleType} {more : List (List (List Char) × Option SimpleType)}
    {members : List SimpleType} (h : shapeOf first more = .union (members.map .type)) :
    ∃ t l, first = some t ∧ members = t :: l ∧ l ≠ [] ∧ more = l.map fun t => ([], some t) := by
  cases first with
  | none => cases h
  | some t =>
      rw [shapeOf] at h
      split at h
      · cases h
      · next hne =>
        split at h
        · cases h
        · next hsome =>
          cases members with
          | nil => cases h
          | cons u l =>
              obtain ⟨htype, hrest⟩ := List.cons.inj (TypeShape.union.inj h)
              cases htype
              have hmore : more = l.map fun t => ([], some t) := by
                refine alternatives_eq_map (fun q hq => ?_) hrest
                by_contra hnone
                exact hsome (List.any_eq_true.2 ⟨q, hq, by simpa using hnone⟩)
              refine ⟨t, l, rfl, rfl, ?_, hmore⟩
              rintro rfl
              exact hne (by rw [hmore]; rfl)

lemma typeShape_eq_union {alternatives : List Alternative}
    (h : typeShape p s = some (.union alternatives, rest)) :
    ∃ first more s₁, barredType p s = some (first, s₁) ∧ many (nextAlternative p) s₁ = some (more, rest) ∧
      shapeOf first more = .union alternatives := by
  obtain ⟨first, s₁, hfirst, hread⟩ := bind_eq_some_iff.1 h
  have hmore : (many (nextAlternative p) >>= fun more => pure (shapeOf first more)) s₁ =
      some (.union alternatives, rest) := by
    cases first with
    | none => exact hread
    | some t =>
        rw [Option.isSome_some, if_pos rfl] at hread
        obtain ⟨joined, s₂, hjoined, hrest⟩ := bind_eq_some_iff.1 hread
        cases joined with
        | nil =>
            -- no ampersand was read, and so nothing was taken
            obtain ⟨texts, htexts, rfl⟩ := many_eq_some (R := fun _ _ => True) (by simp) hjoined
            cases htexts
            exact hrest
        | cons u joined => cases hrest
  obtain ⟨more, s₂, hmany, hpure⟩ := bind_eq_some_iff.1 hmore
  simp only [pure_eq, Option.some.injEq, Prod.mk.injEq] at hpure
  obtain ⟨hshape, rfl⟩ := hpure
  exact ⟨first, more, s₁, hfirst, hmany, hshape⟩

/-- The text of a type with bars is that of its members, with bars and spacing between them. -/
lemma exists_texts {members : List SimpleType} {text : String}
    (h : typeExpr p s = some (.union (members.map .type) text, rest)) :
    ∃ t l m texts, members = t :: l ∧ l ≠ [] ∧ t.Spells m ∧ List.Forall₂ Barred l texts ∧
      text.toList = m ++ texts.flatten := by
  obtain ⟨_, s₁, hgap, hread⟩ := bind_eq_some_iff.1 h
  obtain ⟨⟨shape, taken⟩, s₂, hspelled, hpure⟩ := bind_eq_some_iff.1 hread
  have hshape : shape = .union (members.map .type) ∧ text = String.ofList taken ∧ s₂ = rest := by
    cases shape <;> cases hpure
    exact ⟨rfl, rfl, rfl⟩
  obtain ⟨rfl, rfl, rfl⟩ := hshape
  obtain ⟨hread, htaken⟩ := spelled_eq_some hspelled
  obtain ⟨first, more, s₃, hfirst, hmany, hshape⟩ := typeShape_eq_union hread
  obtain ⟨t, l, rfl, rfl, hl, rfl⟩ := shapeOf_eq_union hshape
  obtain ⟨m, rfl, hm⟩ := simpleType_eq_some (gap_eq_some hgap).1 (barredType_eq_some hfirst)
  obtain ⟨texts, htexts, rfl⟩ := many_eq_some (R := fun q u => ∀ t, q = ([], some t) → Barred t u)
    (fun q hq s rest hnext => by
      obtain ⟨t, -, rfl⟩ := List.mem_map.1 hq
      obtain ⟨u, hu, hbarred⟩ := nextAlternative_eq_some hnext
      exact ⟨u, hu, fun t' ht' => by cases ht'; exact hbarred⟩) hmany
  refine ⟨t, l, m, texts, rfl, hl, hm, ?_, ?_⟩
  · rw [List.forall₂_map_left_iff] at htexts
    exact htexts.imp fun _ _ hbarred => hbarred _ rfl
  · rw [String.toList_ofList]
    exact htaken _ (by rw [List.append_assoc])

end Source

/-! ## The word `null` in a text -/

namespace Text

/-- The word `null` has neither a blank nor a bar in it. -/
lemma null_letters {w : List Char} (h : caselessEq (String.ofList w) "null" = true) :
    w.length = 4 ∧ ∀ c ∈ w, isBlank c = false ∧ c ≠ '|' := by
  have hletters : w.map Char.toLower = ['n', 'u', 'l', 'l'] := by
    have hlower := congrArg String.toList (caselessEq_iff.1 h)
    rw [lower, String.toList_ofList, String.toList_ofList] at hlower
    exact hlower
  refine ⟨by simpa using congrArg List.length hletters, ?_⟩
  intro c hc
  have hmem : c.toLower ∈ ['n', 'u', 'l', 'l'] := hletters ▸ List.mem_map.2 ⟨c, hc, rfl⟩
  have hnat : c.toLower.toNat = 110 ∨ c.toLower.toNat = 117 ∨ c.toLower.toNat = 108 := by
    simp only [List.mem_cons, List.not_mem_nil, or_false] at hmem
    rcases hmem with h | h | h | h <;> simp [h]
  have hcode : 76 ≤ c.toNat ∧ c.toNat ≤ 117 := by
    rw [toNat_toLower] at hnat
    split at hnat <;> omega
  constructor
  · simp only [isBlank, blankRanges, List.any_cons, List.any_nil, Bool.or_false, Bool.or_eq_false_iff,
      Bool.and_eq_false_iff, decide_eq_false_iff_not]
    omega
  · rintro rfl
    have : '|'.toNat = 124 := rfl
    omega

/-- Trimming stops at what is not blank. -/
lemma dropWhile_append_of_not_blank {a w b : List Char} (hne : w ≠ []) (hw : ∀ c ∈ w, isBlank c = false) :
    (a ++ (w ++ b)).dropWhile isBlank = a.dropWhile isBlank ++ (w ++ b) := by
  induction a with
  | nil =>
      obtain ⟨c, w, rfl⟩ := List.exists_cons_of_ne_nil hne
      have hc := hw c List.mem_cons_self
      simp [hc]
  | cons c a ih =>
      rw [List.cons_append, List.dropWhile_cons, List.dropWhile_cons, ih]
      split <;> rfl

lemma trimBlank_append {a w b : List Char} (hne : w ≠ []) (hw : ∀ c ∈ w, isBlank c = false) :
    trimBlank (a ++ (w ++ b)) = a.dropWhile isBlank ++ (w ++ b.rdropWhile isBlank) := by
  have hreverse : (a.dropWhile isBlank ++ (w ++ b)).reverse =
      b.reverse ++ (w.reverse ++ (a.dropWhile isBlank).reverse) := by
    simp
  rw [trimBlank, dropWhile_append_of_not_blank hne hw, hreverse,
    dropWhile_append_of_not_blank (by simpa using hne) (by simpa using hw)]
  simp [List.rdropWhile]

end Text

namespace Source

/-- A text with the word `null` in it reads `null` if the rest of it is blank. -/
lemma isNullText_around {a w b : List Char} (hw : Text.caselessEq (String.ofList w) "null" = true) :
    isNullText (a ++ (w ++ b)) = (a.all Text.isBlank && b.all Text.isBlank) := by
  obtain ⟨hlength, hletters⟩ := Text.null_letters hw
  have hne : w ≠ [] := by
    rintro rfl
    cases hlength
  rw [isNullText, Text.trimBlank_append hne fun c hc => (hletters c hc).1, Bool.eq_iff_iff, Bool.and_eq_true,
    List.all_eq_true, List.all_eq_true, ← List.dropWhile_eq_nil_iff, ← List.rdropWhile_eq_nil_iff]
  constructor
  · intro h
    have htotal := (Text.null_letters h).1
    simp only [List.length_append, hlength] at htotal
    exact ⟨List.length_eq_zero_iff.1 (by omega), List.length_eq_zero_iff.1 (by omega)⟩
  · rintro ⟨ha, hb⟩
    rw [ha, hb, List.nil_append, List.append_nil]
    exact hw

/-! ## The two sides of the bar -/

/-- A text passes for one type or `null` if it has one bar and one of its sides reads `null`. -/
lemma passes_iff (left right : List Char) :
    ((Text.pieces '|' (left ++ '|' :: right)).length = 2 ∧
        ((Text.pieces '|' (left ++ '|' :: right)).filter isNullText).length = 1) ↔
      '|' ∉ left ∧ '|' ∉ right ∧ isNullText left ≠ isNullText right := by
  by_cases hbars : '|' ∉ left ∧ '|' ∉ right
  · have hpieces : Text.pieces '|' (left ++ '|' :: right) = [left, right] :=
      Text.pieces_glue (l := [left, right]) (by simp) (by simpa using hbars)
    rw [hpieces]
    cases hleft : isNullText left <;> cases hright : isNullText right <;> simp [hleft, hright, hbars]
  · have hcount : 0 < left.count '|' + right.count '|' := by
      rw [← List.count_eq_zero, ← List.count_eq_zero] at hbars
      omega
    rw [Text.length_pieces, List.count_append, List.count_cons_self]
    constructor
    · rintro ⟨hlength, -⟩
      omega
    · rintro ⟨hleft, hright, -⟩
      exact absurd ⟨hleft, hright⟩ hbars

/-- The text of a union of `null` and another member: what stands between the word and the bar, and the other
side of the bar. -/
inductive BesideNull (other : SimpleType) : List Char → List Char → List Char → Prop where
  | first {w g g' m : List Char} : Text.caselessEq (String.ofList w) "null" = true → Spacing g → Spacing g' →
      other.Spells m → BesideNull other g (g' ++ m) (w ++ (g ++ '|' :: (g' ++ m)))
  | second {w g g' m : List Char} : Text.caselessEq (String.ofList w) "null" = true → Spacing g → Spacing g' →
      other.Spells m → BesideNull other g' (m ++ g) (m ++ (g ++ '|' :: (g' ++ w)))

/-- The bar between the members is the only one, and one of its sides reads `null`: that of the word, if
nothing but blanks stands between the two, or the other, where a name can end in letters that are blanks to
trimming. -/
def passesForNullable (spacing side : List Char) : Bool :=
  !spacing.contains '|' && !side.contains '|' && spacing.all Text.isBlank != isNullText side

lemma BesideNull.passes_iff {other : SimpleType} {spacing side text : List Char}
    (h : BesideNull other spacing side text) :
    ((Text.pieces '|' text).length = 2 ∧ ((Text.pieces '|' text).filter isNullText).length = 1) ↔
      passesForNullable spacing side = true := by
  have hpasses : passesForNullable spacing side = true ↔
      '|' ∉ spacing ∧ '|' ∉ side ∧ spacing.all Text.isBlank ≠ isNullText side := by
    simp [passesForNullable, and_assoc]
  rw [hpasses]
  cases h with
  | @first w _ g' m hw _ _ _ =>
      have hbar : '|' ∉ w := fun hmem => ((Text.null_letters hw).2 _ hmem).2 rfl
      have hnull : isNullText (w ++ spacing) = spacing.all Text.isBlank := isNullText_around (a := []) hw
      rw [← List.append_assoc, Source.passes_iff, hnull, List.mem_append]
      simp [hbar]
  | @second w g _ m hw _ _ _ =>
      have hbar : '|' ∉ w := fun hmem => ((Text.null_letters hw).2 _ hmem).2 rfl
      have hnull : isNullText (spacing ++ w) = spacing.all Text.isBlank := by
        simpa using isNullText_around (a := spacing) (b := []) hw
      rw [← List.append_assoc, Source.passes_iff, hnull, List.mem_append (s := spacing), ne_comm]
      simp [hbar, and_left_comm]

/-! ## What a union means -/

/-- The type is the word `null`. -/
def SimpleType.isNull : SimpleType → Bool
  | .named name => Text.caselessEq name "null"
  | _ => false

/-- The member beside `null`, if there are two members and one of them is `null`. -/
def nullableMember? : List SimpleType → Option SimpleType
  | [a, b] =>
    match a.isNull, b.isNull with
    | true, false => some b
    | false, true => some a
    | _, _ => none
  | _ => none

section

variable {scope : Scope} {members : List SimpleType} {other : SimpleType} {text : String}

lemma filter_not_isNull (members : List SimpleType) :
    ((members.map Alternative.type).filter fun a => !a.isNull) =
      (members.filter fun t => !t.isNull).map .type := by
  rw [List.filter_map]
  congr 2
  funext t
  cases t <;> rfl

lemma describe_of_filter (hother : (members.filter fun t => !t.isNull) = [other]) :
    (TypeExpr.union (members.map .type) text).describe scope =
      if (Text.pieces '|' text.toList).length = 2 ∧
          ((Text.pieces '|' text.toList).filter isNullText).length = 1 then
        (other.describe scope).map NamedType.orNull
      else .error (.unsupportedType text) := by
  rw [TypeExpr.describe, filter_not_isNull, hother]
  rfl

lemma describe_of_filter_ne (hnone : ∀ other, (members.filter fun t => !t.isNull) ≠ [other]) :
    (TypeExpr.union (members.map .type) text).describe scope = .error (.unsupportedType text) := by
  rw [TypeExpr.describe, filter_not_isNull]
  split
  · next a ha =>
    obtain ⟨t, rest, hfilter, -, hrest⟩ := List.map_eq_cons_iff.1 ha
    rw [List.map_eq_nil_iff.1 hrest] at hfilter
    exact absurd hfilter (hnone t)
  · rfl

lemma nullableMember?_eq_some (h : nullableMember? members = some other) :
    ∃ word, word.isNull = true ∧ other.isNull = false ∧ (members = [word, other] ∨ members = [other, word]) := by
  unfold nullableMember? at h
  split at h
  · next a b =>
    split at h
    · next ha hb =>
      cases h
      exact ⟨a, ha, hb, .inl rfl⟩
    · next ha hb =>
      cases h
      exact ⟨b, hb, ha, .inr rfl⟩
    · cases h
  · cases h

lemma filter_of_nullableMember? (h : nullableMember? members = some other) :
    (members.filter fun t => !t.isNull) = [other] := by
  obtain ⟨word, hword, hother, rfl | rfl⟩ := nullableMember?_eq_some h <;> simp [hword, hother]

/-- One member beside any number of `null`s: the number is not one. -/
lemma length_ne_two (h : nullableMember? members = none)
    (hother : (members.filter fun t => !t.isNull) = [other]) : members.length ≠ 2 := by
  intro hlength
  obtain ⟨a, b, rfl⟩ := List.length_eq_two.1 hlength
  rw [nullableMember?] at h
  cases ha : a.isNull <;> cases hb : b.isNull <;> simp [ha, hb] at h hother

end

variable {p : Position} {s rest : List Char} {members : List SimpleType} {text : String}

lemma count_flatten {l : List SimpleType} {texts : List (List Char)} (h : List.Forall₂ Barred l texts) :
    l.length ≤ texts.flatten.count '|' := by
  induction h with
  | nil => simp
  | cons hbarred _ ih =>
      obtain ⟨g, g', m, -, -, -, rfl⟩ := hbarred
      rw [List.flatten_cons, List.count_append, List.count_append, List.count_cons_self, List.length_cons]
      omega

/-- There is a bar before every member but the first. -/
lemma length_le_pieces (h : typeExpr p s = some (.union (members.map .type) text, rest)) :
    2 ≤ members.length ∧ members.length ≤ (Text.pieces '|' text.toList).length := by
  obtain ⟨t, l, m, texts, rfl, hl, -, htexts, htext⟩ := exists_texts h
  have hcount := count_flatten htexts
  have hpos := List.length_pos_iff.2 hl
  rw [Text.length_pieces, htext, List.count_append, List.length_cons]
  omega

lemma exists_besideNull {other : SimpleType} (h : typeExpr p s = some (.union (members.map .type) text, rest))
    (hother : nullableMember? members = some other) :
    ∃ spacing side, BesideNull other spacing side text.toList := by
  obtain ⟨t, l, m, texts, hmembers, -, hm, htexts, htext⟩ := exists_texts h
  obtain ⟨word, hword, -, hboth⟩ := nullableMember?_eq_some hother
  -- the text of `null` is its name
  have hname : ∀ {u}, word.Spells u → Text.caselessEq (String.ofList u) "null" = true := by
    intro u hu
    cases word with
    | named name =>
        rw [SimpleType.Spells] at hu
        rw [hu, String.ofList_toList]
        exact hword
    | optional name => cases hword
    | interrupted page => cases hword
  have hpair : ∀ {a}, l = [a] → ∃ u, Barred a u ∧ text.toList = m ++ u := by
    rintro a rfl
    cases htexts with
    | cons hbarred hnil =>
        cases hnil
        exact ⟨_, hbarred, by rw [htext, List.flatten_cons, List.flatten_nil, List.append_nil]⟩
  rcases hboth with hboth | hboth
  · obtain ⟨rfl, hl⟩ := List.cons.inj (hmembers.symm.trans hboth)
    obtain ⟨u, ⟨g, g', m', hg, hg', hm', rfl⟩, htext⟩ := hpair hl
    exact ⟨g, g' ++ m', htext ▸ .first (hname hm) hg hg' hm'⟩
  · obtain ⟨rfl, hl⟩ := List.cons.inj (hmembers.symm.trans hboth)
    obtain ⟨u, ⟨g, g', m', hg, hg', hm', rfl⟩, htext⟩ := hpair hl
    exact ⟨g', m ++ g, htext ▸ .second (hname hm') hg hg' hm⟩

/-- When a type with bars is read as one type or `null`.  Unless it has two members of which one is `null`, it
is refused with its text.  If it has, its text is the word and the other member with spacing around the bar,
and however it is so divided, it is read as the other one with `null` accepted if the text passes for such a
type too, and refused otherwise.  So spacing never makes another type of it: for the same members in another
layout the type is the same, or there is none. -/
theorem nullable_union_iff (h : typeExpr p s = some (.union (members.map .type) text, rest)) (scope : Scope) :
    (nullableMember? members = none →
      (TypeExpr.union (members.map .type) text).describe scope = .error (.unsupportedType text)) ∧
    (∀ other, nullableMember? members = some other →
      (∃ spacing side, BesideNull other spacing side text.toList) ∧
        ∀ spacing side, BesideNull other spacing side text.toList →
          (TypeExpr.union (members.map .type) text).describe scope =
            if passesForNullable spacing side then (other.describe scope).map NamedType.orNull
            else .error (.unsupportedType text)) ∧
    ∀ t, (TypeExpr.union (members.map .type) text).describe scope = .ok t →
      ∀ layout, (TypeExpr.union (members.map .type) layout).describe scope = .ok t ∨
        (TypeExpr.union (members.map .type) layout).describe scope = .error (.unsupportedType layout) := by
  have hrefused : nullableMember? members = none →
      (TypeExpr.union (members.map .type) text).describe scope = .error (.unsupportedType text) := by
    intro hnone
    by_cases hone : ∃ other, (members.filter fun t => !t.isNull) = [other]
    · obtain ⟨other, hother⟩ := hone
      have hlength := length_ne_two hnone hother
      obtain ⟨htwo, hpieces⟩ := length_le_pieces h
      rw [describe_of_filter hother, if_neg fun hpasses => by omega]
    · exact describe_of_filter_ne fun other hother => hone ⟨other, hother⟩
  refine ⟨hrefused, ?_, ?_⟩
  · intro other hother
    refine ⟨exists_besideNull h hother, ?_⟩
    intro spacing side hbeside
    rw [describe_of_filter (filter_of_nullableMember? hother), if_congr hbeside.passes_iff rfl rfl]
  · intro t ht layout
    cases hother : nullableMember? members with
    | none =>
        rw [hrefused hother] at ht
        cases ht
    | some other =>
        rw [describe_of_filter (filter_of_nullableMember? hother)] at ht ⊢
        split at ht
        · split
          · exact .inl ht
          · exact .inr rfl
        · cases ht

theorem nullable_union_shop :
    typeExpr .inner " Money /* in cents */ |\n NULL $price".toList =
        some (.union ([.named "Money", .named "NULL"].map .type) "Money /* in cents */ |\n NULL",
          " $price".toList) ∧
      BesideNull (.named "Money") "\n ".toList "Money /* in cents */ ".toList
        "Money /* in cents */ |\n NULL".toList ∧
      (TypeExpr.union ([.named "Money", .named "NULL"].map .type) "Money /* in cents */ |\n NULL").describe
          { space := "Shop", imports := [] } =
        .ok { name := "Shop\\Money", builtin := false, nullable := true } := by
  have hread : typeExpr .inner " Money /* in cents */ |\n NULL $price".toList =
      some (.union ([.named "Money", .named "NULL"].map .type) "Money /* in cents */ |\n NULL",
        " $price".toList) := by
    decide +kernel
  have hcomment : comment ("/* in cents */".toList ++ []) = some ("/* in cents */".toList, []) := by
    decide +kernel
  have hbeside : BesideNull (.named "Money") "\n ".toList "Money /* in cents */ ".toList
      "Money /* in cents */ |\n NULL".toList :=
    .second (w := "NULL".toList) (m := "Money".toList) (by decide)
      (.blank (by decide) (.comment hcomment (.blank (by decide) .nil)))
      (.blank (by decide) (.blank (by decide) .nil)) rfl
  exact ⟨hread, hbeside,
    ((nullable_union_iff hread { space := "Shop", imports := [] }).2.1 (.named "Money") rfl).2 _ _ hbeside⟩

/-- A comment between the bar and `null` keeps a type from being read as nullable. -/
theorem comment_before_null_refused :
    typeExpr .inner "int|/* or */null $x".toList =
        some (.union [.type (.named "int"), .type (.named "null")] "int|/* or */null", " $x".toList) ∧
      (TypeExpr.union [.type (.named "int"), .type (.named "null")] "int|/* or */null").describe {} =
        .error (.unsupportedType "int|/* or */null") ∧
      (TypeExpr.union [.type (.named "int"), .type (.named "null")] "int|null").describe {} =
        .ok { name := "int", builtin := true, nullable := true } := by
  decide +kernel

end Source

end PhpInterface
