import Mathlib.Data.List.Basic
import Mathlib.Data.List.Forall2
import PhpInterface.Text.Reader

/-!
# What readers give and take

Two things can be said of a reader, whatever text it is given: which results it *yields*, and which texts
it *takes* off the front.  There is one rule for each way of putting readers together, so that a fact about
a large reader is put together from facts about its parts in the shape in which the reader itself is.

The rules for results ask nothing of the parts whose results do not matter.  A reader of statements has
many of these: of an expression, say, nothing has to be known but that something is read after it.
-/

namespace PhpInterface

namespace Reader

variable {α β : Type} {x : Reader α} {P Q : α → Prop} {T U : List Char → Prop}

/-- Every result of the reader has the property. -/
def Yields (x : Reader α) (P : α → Prop) : Prop :=
  ∀ s a rest, x s = some (a, rest) → P a

/-- Whatever the reader takes off the front of a text has the property. -/
def Takes (x : Reader α) (T : List Char → Prop) : Prop :=
  ∀ s a rest, x s = some (a, rest) → ∃ t, s = t ++ rest ∧ T t

/-! ## From a result to what was read -/

section

variable {s rest : List Char}

/-- A chain gives a result exactly when both of its parts do. -/
lemma bind_eq_some_iff {f : α → Reader β} {s last : List Char} {b : β} :
    (x >>= f) s = some (b, last) ↔ ∃ a rest, x s = some (a, rest) ∧ f a rest = some (b, last) := by
  have hbind : (x >>= f) s = (x s).bind fun p => f p.1 p.2 := rfl
  rw [hbind, Option.bind_eq_some_iff, Prod.exists]

lemma map_eq_some {g : α → β} {b : β} (h : (g <$> x) s = some (b, rest)) :
    ∃ a, x s = some (a, rest) ∧ b = g a := by
  rw [map_eq_pure_bind] at h
  obtain ⟨a, after, ha, hpure⟩ := bind_eq_some_iff.1 h
  cases hpure
  exact ⟨a, ha, rfl⟩

lemma found_eq_some {b : Bool} (h : found x s = some (b, rest)) :
    (b = true ∧ ∃ a, x s = some (a, rest)) ∨ (b = false ∧ rest = s) := by
  obtain ⟨o, after, ho, hpure⟩ := bind_eq_some_iff.1 h
  cases hpure
  rw [optional?] at ho
  split at ho
  · next a last hx =>
    cases ho
    exact .inl ⟨rfl, a, hx⟩
  · cases ho
    exact .inr ⟨rfl, rfl⟩

lemma spelled_eq_some {a : α} {text : List Char} (h : spelled x s = some ((a, text), rest)) :
    x s = some (a, rest) ∧ ∀ t, s = t ++ rest → text = t := by
  rw [spelled] at h
  split at h
  · next b last hx =>
    cases h
    refine ⟨hx, ?_⟩
    rintro t rfl
    simp
  · cases h

/-- Repetition takes the texts of its results one after the other. -/
lemma many_eq_some {R : α → List Char → Prop} {l : List α}
    (hx : ∀ a ∈ l, ∀ s rest, x s = some (a, rest) → ∃ t, s = t ++ rest ∧ R a t)
    (h : many x s = some (l, rest)) :
    ∃ texts, List.Forall₂ R l texts ∧ s = texts.flatten ++ rest := by
  have hrepeated : repeated x s = (l, rest) := Option.some.inj h
  clear h
  fun_induction repeated x s generalizing l rest with
  | case1 s hnone =>
      cases hrepeated
      exact ⟨[], .nil, rfl⟩
  | case2 s a after ha hlt more last hmore ih =>
      cases hrepeated
      obtain ⟨t, rfl, ht⟩ := hx a List.mem_cons_self s after ha
      obtain ⟨texts, htexts, rfl⟩ := ih (fun b hb => hx b (List.mem_cons_of_mem _ hb)) hmore
      exact ⟨t :: texts, .cons ht htexts, by rw [List.flatten_cons, List.append_assoc]⟩
  | case3 s a after ha hlt =>
      cases hrepeated
      exact ⟨[], .nil, rfl⟩

end

/-! ## Results -/

namespace Yields

lemma mono (h : Yields x P) (himp : ∀ a, P a → Q a) : Yields x Q :=
  fun s a rest hx => himp a (h s a rest hx)

lemma pure {a : α} (h : P a) : Yields (pure a) P := by
  intro s b rest hx
  cases hx
  exact h

lemma failure : Yields (failure : Reader α) P := by
  intro s a rest hx
  cases hx

lemma bind {f : α → Reader β} {R : β → Prop} (hx : Yields x P) (hf : ∀ a, P a → Yields (f a) R) :
    Yields (x >>= f) R := by
  intro s b last h
  obtain ⟨a, rest, ha, hb⟩ := bind_eq_some_iff.1 h
  exact hf a (hx s a rest ha) rest b last hb

/-- What comes first does not matter if the rest is right after all of it. -/
lemma after {f : α → Reader β} {R : β → Prop} (hf : ∀ a, Yields (f a) R) : Yields (x >>= f) R :=
  bind (fun _ _ _ _ => trivial) fun a (_ : True) => hf a

/-- After a requirement it may be relied on. -/
lemma require {condition : Bool} {f : Unit → Reader β} {R : β → Prop}
    (hf : condition = true → Yields (f ()) R) : Yields (require condition >>= f) R := by
  cases condition with
  | true => exact bind (fun _ _ _ _ => trivial) fun _ (_ : True) => hf rfl
  | false => exact bind (P := fun _ => False) failure fun _ h => h.elim

lemma map {f : α → β} {R : β → Prop} (h : Yields x fun a => R (f a)) : Yields (f <$> x) R :=
  bind h fun _ ha => pure ha

lemma map_some (h : Yields x P) : Yields (some <$> x) fun o => ∀ a ∈ o, P a := by
  refine map (h.mono ?_)
  intro a ha b hb
  cases hb
  exact ha

lemma optional? (h : Yields x P) : Yields (optional? x) fun o => ∀ a ∈ o, P a := by
  intro s o rest hx
  rw [Reader.optional?] at hx
  split at hx
  · next a _ ha =>
    cases hx
    intro b hb
    cases hb
    exact h _ _ _ ha
  · cases hx
    intro a ha
    cases ha

lemma oneOf {l : List (Reader α)} (h : ∀ x ∈ l, Yields x P) : Yields (oneOf l) P := by
  induction l with
  | nil => exact failure
  | cons x more ih =>
      intro s a rest hx
      rw [Reader.oneOf] at hx
      dsimp only at hx
      split at hx
      · next result hresult =>
        cases hx
        exact h x List.mem_cons_self s a rest hresult
      · exact ih (fun y hy => h y (List.mem_cons_of_mem _ hy)) s a rest hx

/-- The choice between two readers. -/
lemma oneOf_pair {y : Reader α} (hx : Yields x P) (hy : Yields y P) : Yields (Reader.oneOf [x, y]) P := by
  refine oneOf fun z hz => ?_
  rcases List.mem_cons.1 hz with rfl | hz
  · exact hx
  · rw [List.mem_singleton.1 hz]
    exact hy

lemma repeated (h : Yields x P) (s : List Char) : ∀ a ∈ (repeated x s).1, P a := by
  fun_induction Reader.repeated x s with
  | case1 s hnone => simp
  | case2 s first rest hfirst hlt more last hmore ih =>
      intro a ha
      rcases List.mem_cons.1 ha with rfl | ha
      · exact h s a rest hfirst
      · rw [hmore] at ih
        exact ih a ha
  | case3 s first rest hfirst hlt => simp

lemma many (h : Yields x P) : Yields (many x) fun l => ∀ a ∈ l, P a := by
  intro s l rest hx
  have hrepeated : (Reader.repeated x s).1 = l := congrArg Prod.fst (Option.some.inj hx)
  rw [← hrepeated]
  exact h.repeated s

lemma sepBy1 {sep : Reader β} (h : Yields x P) : Yields (sepBy1 x sep) fun l => ∀ a ∈ l, P a := by
  refine h.bind fun first hfirst => ?_
  refine (many (after fun _ => h)).bind fun more hmore => pure ?_
  intro a ha
  rcases List.mem_cons.1 ha with rfl | ha
  · exact hfirst
  · exact hmore a ha

lemma sepBy {sep : Reader β} (h : Yields x P) : Yields (sepBy x sep) fun l => ∀ a ∈ l, P a := by
  have hsome : Yields (Reader.sepBy1 x sep) fun l => ∀ a ∈ l, P a := h.sepBy1
  refine hsome.optional?.bind fun l hl => pure ?_
  cases l with
  | none => simp
  | some l => exact hl l rfl

lemma spelled (h : Yields x P) : Yields (spelled x) fun p => P p.1 := by
  rintro s ⟨a, text⟩ rest hx
  exact h s a rest (spelled_eq_some hx).1

end Yields

/-! ## Texts -/

namespace Takes

lemma mono (h : Takes x T) (himp : ∀ t, T t → U t) : Takes x U := by
  intro s a rest hx
  obtain ⟨t, hs, ht⟩ := h s a rest hx
  exact ⟨t, hs, himp t ht⟩

/-- A chain takes what its parts take, one after the other. -/
lemma bind {f : α → Reader β} (hx : Takes x T) (hf : ∀ a, Takes (f a) U) :
    Takes (x >>= f) fun t => ∃ a b, T a ∧ U b ∧ t = a ++ b := by
  intro s b last h
  obtain ⟨a, rest, ha, hb⟩ := bind_eq_some_iff.1 h
  obtain ⟨t, rfl, ht⟩ := hx s a rest ha
  obtain ⟨u, rfl, hu⟩ := hf a rest b last hb
  exact ⟨t ++ u, by rw [List.append_assoc], t, u, ht, hu, rfl⟩

/-- Giving a result takes nothing. -/
lemma pure (a : α) : Takes (pure a) fun t => t = [] := by
  intro s b rest hx
  cases hx
  exact ⟨[], rfl, rfl⟩

lemma oneOf_pair {y : Reader α} (hx : Takes x T) (hy : Takes y T) : Takes (Reader.oneOf [x, y]) T := by
  intro s a rest h
  rw [Reader.oneOf] at h
  dsimp only at h
  split at h
  · next result hresult =>
    cases h
    exact hx s a rest hresult
  · rw [Reader.oneOf] at h
    dsimp only at h
    split at h
    · next result hresult =>
      cases h
      exact hy s a rest hresult
    · cases h

lemma char (c : Char) : Takes (char c) fun t => t = [c] := by
  intro s a rest h
  cases s with
  | nil => cases h
  | cons d s =>
      rw [Reader.char] at h
      split at h
      · next hd =>
        cases h
        exact ⟨[c], by rw [hd, List.singleton_append], rfl⟩
      · cases h

lemma exactly (text : List Char) : Takes (exactly text) fun t => t = text := by
  induction text with
  | nil =>
      intro s a rest h
      cases h
      exact ⟨[], rfl, rfl⟩
  | cons c more ih =>
      intro s a rest h
      cases s with
      | nil => cases h
      | cons d s =>
          rw [Reader.exactly] at h
          split at h
          · next hd =>
            obtain ⟨t, rfl, rfl⟩ := ih s a rest h
            exact ⟨c :: t, by rw [hd, List.cons_append], rfl⟩
          · cases h

/-- Repetition takes texts one after the other, each as a single reading does. -/
lemma many (h : Takes x T) :
    Takes (many x) fun t => ∃ l : List (List Char), (∀ u ∈ l, T u) ∧ t = l.flatten := by
  intro s results rest hx
  obtain ⟨l, hl, hs⟩ := many_eq_some (R := fun _ t => T t) (fun a _ s rest ha => h s a rest ha) hx
  have hboth : List.Forall₂ (fun t _ => T t ∧ True) l results := hl.flip.imp fun _ _ ht => ⟨ht, trivial⟩
  exact ⟨l.flatten, hs, l, ((List.forall₂_and_left _ _).1 hboth).1, rfl⟩

end Takes

/-- The text that is handed back is the one that was taken. -/
lemma yields_spelled (h : Takes x T) : Yields (spelled x) fun p => T p.2 := by
  rintro s ⟨a, text⟩ rest hx
  obtain ⟨hread, htaken⟩ := spelled_eq_some hx
  obtain ⟨t, hs, ht⟩ := h s a rest hread
  exact htaken t hs ▸ ht

end Reader

end PhpInterface
