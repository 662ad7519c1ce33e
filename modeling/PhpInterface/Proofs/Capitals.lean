import PhpInterface.Proofs.LooseNames
import PhpInterface.Proofs.Tokens
import PhpInterface.Source.Operand

/-!
# Texts in capitals

The grammar disregards the case of letters nearly everywhere.  To compare two texts with the same letters,
compare each of them with the text in capitals: a reader that takes as much there and gives its result in
capitals (`Recases`) does the same on both.

Gaps, words, keywords and marks are read so.  Names of classes are not quite, since `self` and `parent` are
keywords in small letters only, and no backslash can follow a keyword.  A name that is not followed by a
backslash is read alike, though (`className_capitals`), and so are the names of a clause
(`clause_capitals`).
-/

namespace PhpInterface

/-! ## Characters -/

namespace Text

/-- The code of a character made capital. -/
lemma toNat_toUpper (c : Char) :
    c.toUpper.toNat = if 97 ≤ c.toNat ∧ c.toNat ≤ 122 then c.toNat - 32 else c.toNat := by
  by_cases hlower : 'a'.val ≤ c.val ∧ c.val ≤ 'z'.val
  · have hrange : 97 ≤ c.toNat ∧ c.toNat ≤ 122 := hlower
    have hupper : c.toUpper = _ := dif_pos hlower
    have hshift : ('A'.val - 'a'.val).toNat = 4294967264 := rfl
    rw [if_pos hrange, hupper]
    change (c.val + ('A'.val - 'a'.val)).toNat = _
    rw [UInt32.toNat_add, hshift]
    change (c.toNat + 4294967264) % 2 ^ 32 = _
    omega
  · have hrange : ¬ (97 ≤ c.toNat ∧ c.toNat ≤ 122) := hlower
    have hsame : c.toUpper = c := dif_neg hlower
    rw [if_neg hrange, hsame]

/-- A character that is no letter comes from itself only. -/
lemma toUpper_eq_iff {c d : Char} (hd : d.isAlpha = false) : c.toUpper = d ↔ c = d := by
  rw [← Bool.not_eq_true, Source.isAlpha_iff] at hd
  rw [← Char.toNat_inj, ← Char.toNat_inj, toNat_toUpper]
  split <;> omega

lemma toUpper_toUpper (c : Char) : c.toUpper.toUpper = c.toUpper := by
  rw [← Char.toNat_inj, toNat_toUpper, toNat_toUpper]
  split <;> (try split) <;> omega

lemma toLower_toUpper (c : Char) : c.toUpper.toLower = c.toLower := by
  rw [← Char.toNat_inj, toNat_toLower, toNat_toLower, toNat_toUpper]
  split <;> split <;> (try split) <;> omega

/-- The text in capitals. -/
def capitals (s : List Char) : List Char :=
  s.map Char.toUpper

@[simp] lemma capitals_nil : capitals [] = [] := rfl

@[simp] lemma capitals_cons (c : Char) (s : List Char) : capitals (c :: s) = c.toUpper :: capitals s := rfl

@[simp] lemma capitals_append (s t : List Char) : capitals (s ++ t) = capitals s ++ capitals t :=
  List.map_append

@[simp] lemma length_capitals (s : List Char) : (capitals s).length = s.length := List.length_map _

/-- Where a mark stands in the capitals it stands in the text. -/
lemma exists_cons_of_capitals {d : Char} (hd : d.isAlpha = false) {s t : List Char}
    (h : capitals s = d :: t) : ∃ rest, s = d :: rest ∧ t = capitals rest := by
  cases s with
  | nil => cases h
  | cons c rest =>
      obtain ⟨hc, ht⟩ := List.cons.inj h
      exact ⟨rest, by rw [(toUpper_eq_iff hd).1 hc], ht.symm⟩

/-- A name in capitals. -/
def upper (name : String) : String :=
  String.ofList (capitals name.toList)

lemma lower_upper (name : String) : lower (upper name) = lower name := by
  have hcomp : Char.toLower ∘ Char.toUpper = Char.toLower := funext toLower_toUpper
  simp [lower, upper, capitals, hcomp]

lemma map_lower_of_map_upper {a b : List String} (h : a.map upper = b.map upper) :
    a.map lower = b.map lower := by
  have hlower (l : List String) : l.map lower = (l.map upper).map lower := by simp [lower_upper]
  rw [hlower a, h, ← hlower b]

end Text

open Text

/-! ## Readers -/

namespace Reader

variable {α β : Type}

/-- In capitals the second reader takes as much as the first one does, and gives the image of its result. -/
def Recases {β : Type} (f : α → β) (x : Reader α) (y : Reader β) : Prop :=
  ∀ s, y (capitals s) = (x s).map (Prod.map f capitals)

namespace Recases

variable {f : α → β} {x : Reader α} {y : Reader β}

lemma of_eq (h : Recases f x y) {s rest : List Char} {a : α} (hx : x s = some (a, rest)) :
    y (capitals s) = some (f a, capitals rest) := by
  rw [h, hx]
  rfl

lemma of_refused (h : Recases f x y) {s : List Char} (hx : x s = none) : y (capitals s) = none := by
  rw [h, hx]
  rfl

lemma pure {a : α} {b : β} (h : f a = b) : Recases f (Pure.pure a) (Pure.pure b) := by
  subst h
  exact fun _ => rfl

lemma bind {γ δ : Type} {k : γ → δ} {g : α → Reader γ} {g' : β → Reader δ} (hx : Recases f x y)
    (hg : ∀ a, Recases k (g a) (g' (f a))) : Recases k (x >>= g) (y >>= g') := by
  intro s
  cases h : x s with
  | none => rw [bind_of_refused h, bind_of_refused (hx.of_refused h), Option.map_none]
  | some taken =>
      obtain ⟨a, rest⟩ := taken
      rw [bind_of_eq h, bind_of_eq (hx.of_eq h), hg]

/-- What comes first has no letters in it, or the rest does not look at them. -/
lemma keep {γ δ : Type} {k : γ → δ} {x y : Reader α} {g : α → Reader γ} {g' : α → Reader δ}
    (hx : Recases id x y) (hg : ∀ a, Recases k (g a) (g' a)) : Recases k (x >>= g) (y >>= g') :=
  hx.bind hg

lemma require (condition : Bool) : Recases id (require condition) (require condition) := by
  cases condition with
  | true => exact fun _ => rfl
  | false => exact fun _ => rfl

lemma found (hx : Recases f x y) : Recases id (found x) (found y) := by
  intro s
  cases h : x s with
  | none => rw [found_of_refused h, found_of_refused (hx.of_refused h)]; rfl
  | some taken => rw [found_of_eq h, found_of_eq (hx.of_eq h)]; rfl

lemma sees (hx : Recases f x y) : Recases id (sees x) (sees y) := by
  intro s
  cases h : x s with
  | none => rw [sees_of_refused h, sees_of_refused (hx.of_refused h)]; rfl
  | some taken => rw [sees_of_eq h, sees_of_eq (hx.of_eq h)]; rfl

lemma repeated (hx : Recases f x y) (s : List Char) :
    repeated y (capitals s) = (repeated x s).map (List.map f) capitals := by
  fun_induction Reader.repeated x s with
  | case1 s h => rw [repeated_of_refused (hx.of_refused h)]; rfl
  | case2 s a rest h hlt more last hmore ih =>
      rw [repeated_of_eq (hx.of_eq h) (by simpa using hlt), ih, hmore]
      rfl
  | case3 s a rest h hlt => rw [repeated_of_not_lt (hx.of_eq h) (by simpa using hlt)]; rfl

lemma many (hx : Recases f x y) : Recases (List.map f) (many x) (many y) :=
  fun s => congrArg some (hx.repeated s)

lemma char {c : Char} (hc : c.isAlpha = false) : Recases id (char c) (char c) := by
  intro s
  cases s with
  | nil => rfl
  | cons d rest =>
      rw [capitals_cons, Reader.char, Reader.char]
      simp only [toUpper_eq_iff hc]
      split <;> rfl

lemma exactly {t : List Char} (ht : ∀ c ∈ t, c.isAlpha = false) :
    Recases id (exactly t) (exactly t) := by
  induction t with
  | nil => exact fun s => rfl
  | cons c t ih =>
      intro s
      cases s with
      | nil => rfl
      | cons d rest =>
          rw [capitals_cons, Reader.exactly, Reader.exactly]
          simp only [toUpper_eq_iff (ht c List.mem_cons_self)]
          split
          · exact ih (fun e he => ht e (List.mem_cons_of_mem c he)) rest
          · rfl

lemma one {p : Char → Bool} (hp : ∀ c, p c.toUpper = p c) :
    Recases Char.toUpper (one p) (one p) := by
  intro s
  cases s with
  | nil => rfl
  | cons c rest =>
      rw [capitals_cons, Reader.one, Reader.one, hp]
      split <;> rfl

lemma run {p : Char → Bool} (hp : ∀ c, p c.toUpper = p c) : Recases capitals (run p) (run p) := by
  have hcomp : p ∘ Char.toUpper = p := funext hp
  intro s
  change some ((s.map Char.toUpper).takeWhile p, (s.map Char.toUpper).dropWhile p) = _
  rw [List.takeWhile_map, List.dropWhile_map, hcomp]
  rfl

end Recases

end Reader

namespace Source

open Reader

/-! ## Gaps -/

lemma isSeparator_toUpper (c : Char) : isSeparator c.toUpper = isSeparator c := by
  rw [Bool.eq_iff_iff, isSeparator_iff, isSeparator_iff, toNat_toUpper]
  split <;> omega

lemma isWordStart_toUpper (c : Char) : isWordStart c.toUpper = isWordStart c := by
  rw [Bool.eq_iff_iff, isWordStart_iff, isWordStart_iff, isSeparator_iff, isSeparator_iff, toNat_toUpper]
  split <;> omega

lemma isWordPart_toUpper (c : Char) : isWordPart c.toUpper = isWordPart c := by
  rw [Bool.eq_iff_iff, isWordPart_iff, isWordPart_iff, isWordStart_toUpper, toNat_toUpper]
  refine or_congr Iff.rfl ?_
  split <;> omega

lemma isAsciiBlank_toUpper (c : Char) : isAsciiBlank c.toUpper = isAsciiBlank c := by
  have hspace : ' '.toNat = 32 := rfl
  rw [Bool.eq_iff_iff]
  simp only [isAsciiBlank, Bool.or_eq_true, Bool.and_eq_true, beq_iff_eq, decide_eq_true_eq, eq_iff_toNat,
    hspace, toNat_toUpper]
  split <;> omega

lemma lineCommentRest_capitals (s : List Char) :
    lineCommentRest (capitals s) = (lineCommentRest s).map capitals capitals := by
  have hmark : '?'.toUpper = '?' := rfl
  have hreturn : '\r'.toUpper = '\r' := rfl
  fun_induction lineCommentRest s with
  | case1 => rfl
  | case2 rest => rfl
  | case3 after => rfl
  | case4 rest hrest =>
      rw [capitals_cons, capitals_cons, hmark, hreturn, lineCommentRest]
      · rfl
      · intro after h
        obtain ⟨after, rfl, -⟩ := exists_cons_of_capitals rfl h
        exact hrest after rfl
  | case5 rest => rfl
  | case6 c rest hn hr hg text after heq ih =>
      rw [heq] at ih
      rw [capitals_cons, capitals_cons, hmark]
      unfold lineCommentRest
      simp [toUpper_eq_iff, hn, hr, hg, ih, hmark]
  | case7 c rest hlast hc =>
      rw [capitals_cons]
      unfold lineCommentRest
      cases rest with
      | nil => simp [toUpper_eq_iff, hc]
      | cons d rest =>
          have hne : c ≠ '?' := fun h => hlast d rest h rfl
          simp [toUpper_eq_iff, hne, hc.resolve_left hne]
  | case8 c rest hlast hc text after heq ih =>
      obtain ⟨hne, hr, hn⟩ : c ≠ '?' ∧ c ≠ '\r' ∧ c ≠ '\n' := by simpa using hc
      rw [heq] at ih
      rw [capitals_cons]
      unfold lineCommentRest
      simp [toUpper_eq_iff, hne, hr, hn, ih]

lemma blockCommentRest?_capitals (s : List Char) :
    blockCommentRest? (capitals s) = (blockCommentRest? s).map (Prod.map capitals capitals) := by
  fun_induction blockCommentRest? s with
  | case1 => rfl
  | case2 rest => rfl
  | case3 c rest hc ih =>
      rw [capitals_cons, blockCommentRest?, ih, Option.map_map, Option.map_map]
      · rfl
      · intro after hstar hslash
        obtain ⟨after, rfl, -⟩ := exists_cons_of_capitals rfl hslash
        exact hc after ((toUpper_eq_iff rfl).1 hstar) rfl

lemma comment_capitals (s : List Char) :
    comment (capitals s) = (comment s).map (Prod.map capitals capitals) := by
  fun_cases comment s with
  | case1 rest text after h =>
      change comment ('/' :: '/' :: capitals rest) = _
      rw [comment, lineCommentRest_capitals, h]
      rfl
  | case2 rest =>
      change comment ('/' :: '*' :: capitals rest) = _
      rw [comment, blockCommentRest?_capitals, Option.map_map, Option.map_map]
      rfl
  | case3 rest => rfl
  | case4 rest => rfl
  | case5 rest hbracket hmark text after h =>
      change comment ('#' :: capitals rest) = _
      rw [comment, lineCommentRest_capitals, h]
      · rfl
      · intro after h
        obtain ⟨after, rfl, -⟩ := exists_cons_of_capitals rfl h
        exact hbracket after rfl
      · intro after h
        obtain ⟨after, rfl, -⟩ := exists_cons_of_capitals rfl h
        exact hmark after rfl
  | case6 _ hline hblock _ _ hhash =>
      rw [Option.map_none]
      generalize hu : capitals s = u
      fun_cases comment u with
      | case1 rest text after _ =>
          obtain ⟨t, rfl, ht⟩ := exists_cons_of_capitals rfl hu
          obtain ⟨t, rfl, -⟩ := exists_cons_of_capitals rfl ht.symm
          exact absurd rfl (hline t)
      | case2 rest =>
          obtain ⟨t, rfl, ht⟩ := exists_cons_of_capitals rfl hu
          obtain ⟨t, rfl, -⟩ := exists_cons_of_capitals rfl ht.symm
          exact absurd rfl (hblock t)
      | case3 rest | case4 rest | case5 rest =>
          obtain ⟨t, rfl, -⟩ := exists_cons_of_capitals rfl hu
          exact absurd rfl (hhash t)
      | case6 => rfl

lemma tagRest_capitals (s : List Char) : tagRest (capitals s) = (tagRest s).map capitals capitals := by
  have hequals (s : List Char) (h : ∀ rest, s = '=' :: rest → False) (rest : List Char) :
      capitals s = '=' :: rest → False := by
    intro hs
    obtain ⟨t, rfl, -⟩ := exists_cons_of_capitals rfl hs
    exact h t rfl
  fun_cases tagRest s with
  | case1 rest => rfl
  | case2 p h q rest hnot hp =>
      rw [capitals_cons, capitals_cons, capitals_cons, tagRest,
        if_pos (by simpa only [toLower_toUpper] using hp)]
      · rfl
      · exact fun h => hnot ((toUpper_eq_iff rfl).1 h)
  | case3 p h q rest hnot hp =>
      rw [capitals_cons, capitals_cons, capitals_cons, tagRest,
        if_neg (by simpa only [toLower_toUpper] using hp)]
      · rfl
      · exact fun h => hnot ((toUpper_eq_iff rfl).1 h)
  | case4 _ hequal hthree =>
      rw [tagRest]
      · rfl
      · exact hequals s hequal
      · intro p h q rest hs
        have hlength := congrArg List.length hs
        rw [length_capitals] at hlength
        obtain ⟨a, b, c, t, rfl⟩ : ∃ a b c t, s = a :: b :: c :: t := by
          match s, hlength with
          | a :: b :: c :: t, _ => exact ⟨a, b, c, t, rfl⟩
        exact hthree a b c t rfl

lemma pageRest_capitals (s : List Char) :
    pageRest (capitals s) = (pageRest s).map capitals capitals := by
  fun_induction pageRest s with
  | case1 => rfl
  | case2 rest tag code h =>
      change pageRest ('<' :: '?' :: capitals rest) = _
      rw [pageRest, tagRest_capitals, h]
      rfl
  | case3 c rest hc text code h ih =>
      rw [capitals_cons, pageRest, ih, h]
      · rfl
      · intro after hopen hmark
        obtain ⟨after, rfl, -⟩ := exists_cons_of_capitals rfl hmark
        exact hc after ((toUpper_eq_iff rfl).1 hopen) rfl

lemma isBareEnd_capitals (isOpen : Bool) (s : List Char) :
    isBareEnd isOpen (capitals s) = isBareEnd isOpen s := by
  fun_induction isBareEnd isOpen s with
  | case1 isOpen => rfl
  | case2 c rest ih =>
      have hline : (c.toUpper != '\n') = (c != '\n') := by
        rw [Bool.eq_iff_iff, bne_iff_ne, bne_iff_ne, ne_eq, ne_eq, toUpper_eq_iff rfl]
      rw [capitals_cons, isBareEnd, hline, ih]
  | case3 rest ih => exact ih
  | case4 c rest hc ih =>
      rw [capitals_cons, isBareEnd, ih, isAsciiBlank_toUpper]
      intro after hslash hnext
      obtain ⟨after, rfl, -⟩ := exists_cons_of_capitals rfl hnext
      exact hc after ((toUpper_eq_iff rfl).1 hslash) rfl

lemma page_capitals (s : List Char) : page (capitals s) = (page s).map (Prod.map capitals capitals) := by
  fun_cases page s with
  | case1 rest hbare =>
      change page ('?' :: '>' :: capitals rest) = _
      rw [page, if_pos (by rw [isBareEnd_capitals, hbare])]
      rfl
  | case2 rest hbare text code h =>
      change page ('?' :: '>' :: capitals rest) = _
      rw [page, if_neg (by rw [isBareEnd_capitals]; exact hbare), pageRest_capitals, h]
      rfl
  | case3 _ hs =>
      rw [Option.map_none]
      generalize hu : capitals s = u
      fun_cases page u with
      | case1 rest | case2 rest =>
          obtain ⟨t, rfl, ht⟩ := exists_cons_of_capitals rfl hu
          obtain ⟨t, rfl, -⟩ := exists_cons_of_capitals rfl ht.symm
          exact absurd rfl (hs t)
      | case3 => rfl

lemma startsAttribute_capitals (s : List Char) : startsAttribute (capitals s) = startsAttribute s := by
  fun_cases startsAttribute s with
  | case1 rest => rfl
  | case2 _ hs =>
      generalize hu : capitals s = u
      fun_cases startsAttribute u with
      | case1 rest =>
          obtain ⟨t, rfl, ht⟩ := exists_cons_of_capitals rfl hu
          obtain ⟨t, rfl, -⟩ := exists_cons_of_capitals rfl ht.symm
          exact absurd rfl (hs t)
      | case2 => rfl

/-- A part of a gap in capitals. -/
def GapPart.capitals : GapPart → GapPart
  | .blank => .blank
  | .comment text => .comment (Text.capitals text)
  | .page text => .page (Text.capitals text)

lemma gapPart_capitals (p : Position) (attributes : Bool) (s : List Char) :
    gapPart p attributes (capitals s) =
      (gapPart p attributes s).map (Prod.map GapPart.capitals capitals) := by
  cases s with
  | nil => rfl
  | cons c rest =>
      have hdrop : (capitals rest).dropWhile isSeparator = capitals (rest.dropWhile isSeparator) := by
        rw [capitals, capitals, List.dropWhile_map]
        congr 2
        funext d
        exact isSeparator_toUpper d
      unfold gapPart
      simp only [capitals_cons]
      rw [isSeparator_toUpper, ← capitals_cons, startsAttribute_capitals, page_capitals, comment_capitals,
        hdrop]
      split
      · rfl
      · split
        · rfl
        · cases p with
          | inner =>
              cases page (c :: rest) with
              | none => simp [Option.map_map, Function.comp_def, GapPart.capitals]
              | some taken => rfl
          | last => simp [Option.map_map, Function.comp_def, GapPart.capitals]

lemma gapParts_capitals (p : Position) (attributes : Bool) (s : List Char) :
    gapParts p attributes (capitals s) =
      (gapParts p attributes s).map (List.map GapPart.capitals) capitals := by
  fun_induction gapParts p attributes s with
  | case1 s h =>
      have hpart := gapPart_capitals p attributes s
      rw [h] at hpart
      exact gapParts_of_refused hpart
  | case2 s part rest h more last hmore ih =>
      have hpart := gapPart_capitals p attributes s
      rw [h] at hpart
      rw [gapParts_cons hpart, ih, hmore]
      rfl

/-! ## Words -/

lemma smallForm_capitals (w : List Char) : smallForm (capitals w) = smallForm w := by
  have hcomp : Char.toLower ∘ Char.toUpper = Char.toLower := funext toLower_toUpper
  simp [smallForm, capitals, lower, hcomp]

lemma recases_gapAt (p : Position) : Recases (List.map GapPart.capitals) (gapAt p) (gapAt p) :=
  fun s => congrArg some (gapParts_capitals p false s)

lemma recases_openGap : Recases (List.map GapPart.capitals) openGap openGap :=
  fun s => congrArg some (gapParts_capitals .inner true s)

lemma recases_rawWord : Recases capitals rawWord rawWord :=
  (Recases.one isWordStart_toUpper).bind fun _ =>
    (Recases.run isWordPart_toUpper).bind fun _ => .pure rfl

lemma recases_word : Recases capitals word word :=
  (recases_gapAt .inner).bind fun _ => recases_rawWord

lemma recases_keywordAt (p : Position) (k : String) : Recases id (keywordAt p k) (keywordAt p k) := by
  refine (recases_gapAt p).bind fun _ => recases_rawWord.bind fun w => ?_
  rw [smallForm_capitals]
  exact .require _

lemma recases_keywordOf (ks : List String) : Recases id (keywordOf ks) (keywordOf ks) := by
  refine recases_word.bind fun w => ?_
  rw [smallForm_capitals]
  exact (Recases.require _).keep fun _ => .pure rfl

lemma recases_symbolAt (p : Position) (mark : String) (hmark : mark.toList.all (!·.isAlpha) = true) :
    Recases id (symbolAt p mark) (symbolAt p mark) := by
  refine (recases_gapAt p).bind fun _ => .exactly fun c hc => ?_
  simpa using List.all_eq_true.1 hmark c hc

lemma recases_segments (p : Position) : Recases id (segments p) (segments p) :=
  ((recases_symbolAt p "\\" (by decide)).keep fun _ => recases_word).many.bind fun _ => .pure rfl

lemma recases_rootedWords (p : Position) : Recases id (rootedWords p) (rootedWords p) :=
  (Recases.char rfl).keep fun _ => recases_word.bind fun _ => recases_segments p

lemma recases_visibility : Recases id visibility visibility := by
  refine (recases_keywordOf _).keep fun v => (Recases.sees (.char rfl)).keep fun marked => ?_
  split
  · exact (Recases.char rfl).keep fun _ => recases_word.bind fun _ =>
      (Recases.char rfl).keep fun _ => .pure rfl
  · split
    · exact .pure rfl
    · split
      · exact .pure rfl
      · exact .pure rfl

lemma recases_modifier : Recases id modifier modifier := by
  refine (recases_keywordOf _).sees.keep fun named => ?_
  split
  · exact recases_visibility.keep fun _ => .pure rfl
  · refine (recases_keywordOf _).keep fun k => ?_
    split <;> exact .pure rfl

/-! ## Names of classes -/

/-- No backslash follows: what ends here cannot be the front part of a longer name. -/
def Detached (p : Position) (s : List Char) : Prop :=
  ∀ c ∈ (gapParts p false s).2.head?, c ≠ '\\'

section

variable {p : Position} {s rest : List Char}

lemma symbolAt_of_detached (h : Detached p s) : symbolAt p "\\" s = none :=
  exactly_of_refused h

/-- Something follows that cannot start with a backslash. -/
lemma detached_of_eq {α : Type} {x : Reader α} {a : α} (hx : ∀ t, x ('\\' :: t) = none)
    (h : (gapAt p >>= fun _ => x) s = some (a, rest)) : Detached p s := by
  change x (gapParts p false s).2 = some (a, rest) at h
  intro c hc
  rintro rfl
  obtain ⟨t, ht⟩ := List.head?_eq_some_iff.1 hc
  rw [ht, hx] at h
  cases h

lemma detached_of_keyword {k : String} {a : Unit} (h : keyword k s = some (a, rest)) :
    Detached .inner s :=
  detached_of_eq (fun _ => bind_of_refused (rawWord_cons_of_false (by decide))) h

lemma ofList_capitals_ne {w : List Char} {k : String} (hk : k.toList.any (fun c => c.toUpper != c) = true) :
    String.ofList (capitals w) ≠ k := by
  rintro rfl
  obtain ⟨c, hc, hne⟩ := List.any_eq_true.1 hk
  rw [String.toList_ofList] at hc
  obtain ⟨d, -, rfl⟩ := List.mem_map.1 hc
  exact bne_iff_ne.1 hne (toUpper_toUpper d)

/-- Two of the words for a class are words like others in capitals. -/
lemma isRelativeWord_capitals {w : List Char} (h : isRelativeWord w = false) :
    isRelativeWord (capitals w) = false := by
  simp only [isRelativeWord, Bool.or_eq_false_iff, beq_eq_false_iff_ne] at h ⊢
  rw [smallForm_capitals]
  exact ⟨⟨ofList_capitals_ne (by decide), ofList_capitals_ne (by decide)⟩, h.2⟩

/-- The words of a name that no backslash follows are the same in capitals. -/
lemma classWords_capitals (h : classWords p s = some ((), rest)) (hrest : Detached p rest) :
    classWords p (capitals s) = some ((), capitals rest) := by
  have hroot := recases_rootedWords p
  unfold classWords at h ⊢
  cases hrooted : rootedWords p s with
  | some taken =>
      rw [oneOf_of_eq hrooted] at h
      cases h
      exact oneOf_of_eq (hroot.of_eq hrooted)
  | none =>
      rw [oneOf_of_refused hrooted, oneOf_singleton] at h
      rw [oneOf_of_refused (hroot.of_refused hrooted), oneOf_singleton]
      obtain ⟨w, after, hword, h⟩ := bind_eq_some_iff.1 h
      rw [bind_of_eq (recases_rawWord.of_eq hword)]
      cases hrelative : isRelativeWord w with
      | false =>
          rw [hrelative, if_neg (by decide)] at h
          rw [isRelativeWord_capitals hrelative, if_neg (by decide)]
          exact (recases_segments p).of_eq h
      | true =>
          rw [hrelative, if_pos rfl] at h
          cases h
          -- in capitals the word may be one like others, and then a backslash is looked for in vain
          have hnone := (recases_symbolAt p "\\" (by decide)).of_refused (symbolAt_of_detached hrest)
          have hsegments : segments p (capitals rest) = some ((), capitals rest) :=
            bind_of_eq (many_of_refused (bind_of_refused hnone))
          split
          · rfl
          · exact hsegments

lemma classWords_capitals_refused (h : classWords p s = none) : classWords p (capitals s) = none := by
  have hroot := recases_rootedWords p
  unfold classWords at h ⊢
  cases hrooted : rootedWords p s with
  | some taken =>
      rw [oneOf_of_eq hrooted] at h
      cases h
  | none =>
      rw [oneOf_of_refused hrooted, oneOf_singleton] at h
      rw [oneOf_of_refused (hroot.of_refused hrooted), oneOf_singleton]
      cases hword : rawWord s with
      | none => exact bind_of_refused (recases_rawWord.of_refused hword)
      | some taken =>
          -- once there is a word, nothing after it is refused
          obtain ⟨w, after⟩ := taken
          rw [bind_of_eq hword] at h
          split at h <;> cases h

lemma className_eq_some {a : List Char} (h : className p s = some (a, rest)) :
    ∃ parts, gap s = some (parts, a ++ rest) ∧ classWords p (a ++ rest) = some ((), rest) := by
  obtain ⟨parts, after, hgap, h⟩ := bind_eq_some_iff.1 h
  obtain ⟨⟨u, text⟩, last, hspelled, h⟩ := bind_eq_some_iff.1 h
  cases h
  obtain ⟨hwords, htext⟩ := spelled_eq_some hspelled
  obtain ⟨t, rfl, -⟩ := takes_classWords p _ _ _ hwords
  rw [htext t rfl]
  exact ⟨parts, hgap, hwords⟩

lemma length_className {a : List Char} (h : className p s = some (a, rest)) :
    rest.length ≤ s.length := by
  obtain ⟨parts, hgap, -⟩ := className_eq_some h
  obtain ⟨g, hs, -⟩ := takes_gapAt .inner _ _ _ hgap
  rw [hs, List.length_append, List.length_append]
  omega

lemma className_capitals {a : List Char} (h : className p s = some (a, rest)) (hrest : Detached p rest) :
    className p (capitals s) = some (capitals a, capitals rest) := by
  obtain ⟨parts, hgap, hwords⟩ := className_eq_some h
  have hcapitals := classWords_capitals hwords hrest
  rw [capitals_append] at hcapitals
  have hafter := (recases_gapAt .inner).of_eq hgap
  rw [capitals_append] at hafter
  rw [className, gap, bind_of_eq hafter, bind_of_eq (spelled_of_eq hcapitals)]
  rfl

lemma className_capitals_refused (h : className p s = none) : className p (capitals s) = none := by
  have hwords : classWords p (gapParts .inner false s).2 = none := by
    cases hwords : classWords p (gapParts .inner false s).2 with
    | none => rfl
    | some taken =>
        obtain ⟨u, last⟩ := taken
        obtain ⟨t, ht, -⟩ := takes_classWords p _ _ _ hwords
        rw [ht] at hwords
        have hsome : className p s = some (t, last) := by
          have hgap : gap s = some ((gapParts .inner false s).1, t ++ last) := by
            rw [← ht]
            rfl
          rw [className, bind_of_eq hgap, bind_of_eq (spelled_of_eq hwords)]
          rfl
        rw [h] at hsome
        cases hsome
  have hafter : gap (capitals s) = some (_, capitals (gapParts .inner false s).2) :=
    (recases_gapAt .inner).of_eq rfl
  rw [className, bind_of_eq hafter]
  exact bind_of_refused (spelled_of_refused (classWords_capitals_refused hwords))

/-- One more name after a comma. -/
def commaName (p : Position) : Reader (List Char) := do
  let _ ← symbolAt p ","
  className p

lemma recases_comma (p : Position) : Recases id (symbolAt p ",") (symbolAt p ",") :=
  recases_symbolAt p "," (by decide)

lemma detached_of_commaName {a : List Char} (h : commaName p s = some (a, rest)) : Detached p s := by
  obtain ⟨u, after, hcomma, -⟩ := bind_eq_some_iff.1 h
  exact detached_of_eq (fun _ => rfl) hcomma

lemma length_commaName {a : List Char} (h : commaName p s = some (a, rest)) : rest.length < s.length := by
  obtain ⟨u, after, hcomma, h⟩ := bind_eq_some_iff.1 h
  have hle := length_className h
  obtain ⟨t, rfl, g, -, rfl⟩ := takes_symbolAt p "," _ _ _ hcomma
  have hone : ",".toList.length = 1 := rfl
  rw [List.length_append, List.length_append]
  omega

/-- If no backslash follows the last name, none follows any of them. -/
lemma repeated_commaName_capitals (hrest : Detached p (repeated (commaName p) s).2) :
    Detached p s ∧
      repeated (commaName p) (capitals s) = (repeated (commaName p) s).map (List.map capitals) capitals := by
  fun_induction Reader.repeated (commaName p) s with
  | case1 s h =>
      refine ⟨hrest, repeated_of_refused ?_⟩
      cases hcomma : symbolAt p "," s with
      | none => exact bind_of_refused ((recases_comma p).of_refused hcomma)
      | some taken =>
          rw [commaName, bind_of_eq hcomma] at h
          rw [commaName, bind_of_eq ((recases_comma p).of_eq hcomma)]
          exact className_capitals_refused h
  | case2 s a rest h hlt more last hmore ih =>
      rw [hmore] at ih
      obtain ⟨hdetached, hcapitals⟩ := ih hrest
      obtain ⟨u, after, hcomma, hname⟩ := bind_eq_some_iff.1 h
      have hone : commaName p (capitals s) = some (capitals a, capitals rest) := by
        rw [commaName, bind_of_eq ((recases_comma p).of_eq hcomma)]
        exact className_capitals hname hdetached
      refine ⟨detached_of_commaName h, ?_⟩
      rw [repeated_of_eq hone (by simpa using hlt), hcapitals]
      rfl
  | case3 s a rest h hlt => exact absurd (length_commaName h) hlt

end

lemma map_upper_ofList (l : List (List Char)) :
    (l.map String.ofList).map upper = (l.map capitals).map String.ofList := by
  simp [upper]

section

variable {s rest : List Char} {l : List String}

lemma classNames_capitals {p : Position} (h : classNames p s = some (l, rest)) (hrest : Detached p rest) :
    classNames p (capitals s) = some (l.map upper, capitals rest) := by
  obtain ⟨names, after, hnames, h⟩ := bind_eq_some_iff.1 h
  cases h
  obtain ⟨a, after, hfirst, h⟩ := bind_eq_some_iff.1 hnames
  obtain ⟨more, last, hmore, h⟩ := bind_eq_some_iff.1 h
  cases h
  have hrepeated : repeated (commaName p) after = (more, rest) := Option.some.inj hmore
  obtain ⟨hafter, hcapitals⟩ := repeated_commaName_capitals (s := after) (by rwa [hrepeated])
  rw [hrepeated] at hcapitals
  have hmany : many (do let _ ← symbolAt p ","; className p) (capitals after) =
      some (more.map capitals, capitals rest) := congrArg some hcapitals
  rw [map_upper_ofList]
  exact bind_of_eq ((bind_of_eq (className_capitals hfirst hafter)).trans (bind_of_eq hmany))

lemma clause_capitals {k : String} (h : clause k s = some (l, rest)) (hrest : Detached .inner rest) :
    Detached .inner s ∧ clause k (capitals s) = some (l.map upper, capitals rest) := by
  have hkeyword := recases_keywordAt .inner k
  obtain ⟨marked, after, hfound, hnames⟩ := bind_eq_some_iff.1 h
  have hcapitals : found (keyword k) (capitals s) = some (marked, capitals after) :=
    hkeyword.found.of_eq hfound
  rw [clause, bind_of_eq hcapitals]
  rcases found_eq_some hfound with ⟨rfl, u, hword⟩ | ⟨rfl, rfl⟩
  · exact ⟨detached_of_keyword hword, classNames_capitals hnames hrest⟩
  · have hnone : some (([] : List String), after) = some (l, rest) := hnames
    cases hnone
    exact ⟨hrest, rfl⟩

end

end Source

end PhpInterface
