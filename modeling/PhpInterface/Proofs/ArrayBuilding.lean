import Mathlib.Data.List.Nodup
import PhpInterface.Description.Literal
import PhpInterface.Proofs.KeyedLists
import PhpInterface.Source.File
import PhpInterface.Value.Code

/-!
# Arrays and what was written to them

An array is built by writes: a value at a key, or a value alone, which takes an index.  What comes of them
can be told without the builder, from the list of all writes so far.  The keys are those of the list, each at
the place of its first write; the value of a key is that of its last write; and the next index is one more
than the greatest index of the list, as far as there is such an integer (`built_by_writes`).  `Reflects` is
this relation between an array under construction and a list of writes, and one step keeps it.

A value alone is meant to be a further entry.  Its index is new unless the index before it was the greatest
there is; then it is that one again, and the entry that was there is lost (`keyless_element_kept`).
-/

namespace PhpInterface

namespace Entries

/-! ## One entry -/

section

variable {key : Key} {value : Value} {entries : List (Key × Value)}

lemma put_of_not_mem (h : key ∉ entries.map Prod.fst) : put key value entries = entries ++ [(key, value)] := by
  induction entries with
  | nil => rfl
  | cons e entries ih =>
      obtain ⟨k, v⟩ := e
      rw [List.map_cons, List.mem_cons, not_or] at h
      rw [put, if_neg (Ne.symm h.1), ih h.2, List.cons_append]

/-- A key that is there keeps its place. -/
lemma put_of_mem (h : key ∈ entries.map Prod.fst) (value : Value) :
    ∃ before old after, entries = before ++ (key, old) :: after ∧
      put key value entries = before ++ (key, value) :: after := by
  induction entries with
  | nil => simp at h
  | cons e entries ih =>
      obtain ⟨k, v⟩ := e
      by_cases hk : k = key
      · exact ⟨[], v, entries, by rw [hk, List.nil_append], by rw [put, if_pos hk, hk, List.nil_append]⟩
      · rw [List.map_cons, List.mem_cons] at h
        obtain ⟨before, old, after, hentries, hput⟩ := ih (h.resolve_left (Ne.symm hk))
        exact ⟨(k, v) :: before, old, after, by rw [hentries, List.cons_append],
          by rw [put, if_neg hk, hput, List.cons_append]⟩

lemma map_fst_put (key : Key) (value : Value) (entries : List (Key × Value)) :
    (put key value entries).map Prod.fst =
      if key ∈ entries.map Prod.fst then entries.map Prod.fst else entries.map Prod.fst ++ [key] := by
  split
  · next h =>
    obtain ⟨before, old, after, hentries, hput⟩ := put_of_mem h value
    rw [hput, hentries]
    simp
  · next h =>
    rw [put_of_not_mem h]
    simp

lemma lookup_put (key : Key) (value : Value) (entries : List (Key × Value)) (k : Key) :
    (put key value entries).lookup k = if k = key then some value else entries.lookup k := by
  induction entries with
  | nil => exact lookup_cons_ite key value [] k
  | cons e entries ih =>
      obtain ⟨k', v⟩ := e
      by_cases hk : k' = key
      · rw [put, if_pos hk, hk, lookup_cons_ite, lookup_cons_ite]
        by_cases h : k = key <;> simp [h]
      · rw [put, if_neg hk, lookup_cons_ite, lookup_cons_ite, ih]
        by_cases h : k = key
        · rw [h, if_pos rfl, if_neg (Ne.symm hk), if_pos rfl]
        · simp [h]

end

/-! ## Steps and writes -/

/-- One way of writing to an array under construction. -/
inductive Step where
  | insert (key : Key) (value : Value)
  | push (value : Value)

/-- The array after one more step. -/
def apply (e : Entries) : Step → Entries
  | .insert key value => e.insert key value
  | .push value => e.push value

/-- The array that a sequence of steps builds from nothing. -/
def built (steps : List Step) : Entries :=
  steps.foldl apply {}

/-- The integer keys among some writes. -/
def indices (written : List (Key × Value)) : List Int :=
  written.filterMap fun
    | (.int i, _) => some i.toInt
    | (.text _, _) => none

/-- The index after the greatest one among some writes; at the end of the 64-bit integers it stays there. -/
def nextIndex? (written : List (Key × Value)) : Option Int :=
  (indices written).max?.map fun greatest => min (greatest + 1) Int64.maxValue.toInt

/-- What a step writes, after the writes before it. -/
def Step.write (written : List (Key × Value)) : Step → Key × Value
  | .insert key value => (key, value)
  | .push value => (.int (Int64.ofInt ((nextIndex? written).getD 0)), value)

/-- All that a sequence of steps writes, in order. -/
def writes (steps : List Step) : List (Key × Value) :=
  steps.foldl (fun written step => written ++ [step.write written]) []

/-- The array is what these writes come to. -/
structure Reflects (e : Entries) (written : List (Key × Value)) : Prop where
  keys : e.entries.map Prod.fst = (written.map Prod.fst).eraseDups
  nodup : (e.entries.map Prod.fst).Nodup
  lookup : ∀ key, e.entries.lookup key = written.reverse.lookup key
  next : e.next.map Int64.toInt = nextIndex? written

/-! ## The next index -/

lemma toInt_following (i : Int64) : (following i).toInt = min (i.toInt + 1) Int64.maxValue.toInt := by
  have hmax := Int64.toInt_maxValue
  have hlower := i.le_toInt
  have hupper := i.toInt_lt
  rw [following]
  split
  · next h =>
    rw [h]
    omega
  · next h =>
    have hne : i.toInt ≠ Int64.maxValue.toInt := fun heq => h (Int64.toInt_inj.1 heq)
    have hsum : (i + 1).toInt = i.toInt + 1 := by
      rw [Int64.toInt_add, Int64.toInt_one]
      exact Int.bmod_eq_of_le (by omega) (by omega)
    rw [hsum]
    omega

lemma toInt_max (a b : Int64) : (max a b).toInt = max a.toInt b.toInt := by
  have hmax : max a b = if a ≤ b then b else a := rfl
  rw [hmax]
  split
  · next h =>
    rw [Int64.le_iff_toInt_le] at h
    omega
  · next h =>
    rw [Int64.le_iff_toInt_le] at h
    omega

@[simp] lemma indices_concat_int (written : List (Key × Value)) (i : Int64) (value : Value) :
    indices (written ++ [(.int i, value)]) = indices written ++ [i.toInt] := by
  simp [indices]

@[simp] lemma indices_concat_text (written : List (Key × Value)) (name : String) (value : Value) :
    indices (written ++ [(.text name, value)]) = indices written := by
  simp [indices]

lemma mem_indices {written : List (Key × Value)} {n : Int} :
    n ∈ indices written ↔ ∃ i : Int64, .int i ∈ written.map Prod.fst ∧ i.toInt = n := by
  simp only [indices, List.mem_filterMap, List.mem_map]
  constructor
  · rintro ⟨⟨key, value⟩, hmem, hn⟩
    cases key with
    | int i => exact ⟨i, ⟨_, hmem, rfl⟩, Option.some.inj hn⟩
    | text name => cases hn
  · rintro ⟨i, ⟨⟨key, value⟩, hmem, hkey⟩, rfl⟩
    cases hkey
    exact ⟨_, hmem, rfl⟩

/-- The greatest of some numbers and one more. -/
lemma max?_concat (l : List Int) (i : Int) : (l ++ [i]).max? = some ((l.max?.map (max · i)).getD i) := by
  cases h : l.max? with
  | none =>
      rw [List.max?_eq_none_iff] at h
      rw [h]
      rfl
  | some m =>
      obtain ⟨hmem, hle⟩ := List.max?_eq_some_iff.1 h
      rw [List.max?_eq_some_iff, Option.map_some, Option.getD_some]
      constructor
      · rcases Int.le_total m i with hi | hi
        · simp [Int.max_eq_right hi]
        · simp [Int.max_eq_left hi, hmem]
      · intro b hb
        rcases List.mem_append.1 hb with hb | hb
        · have := hle b hb
          omega
        · rw [List.mem_singleton.1 hb]
          omega

lemma nextIndex?_concat {written : List (Key × Value)} {next : Option Int64}
    (h : next.map Int64.toInt = nextIndex? written) (key : Key) (value : Value) :
    (nextAfter key next).map Int64.toInt = nextIndex? (written ++ [(key, value)]) := by
  cases key with
  | text name => rw [nextIndex?, indices_concat_text, ← nextIndex?, ← h, nextAfter]
  | int i =>
      rw [nextIndex?] at h ⊢
      rw [indices_concat_int, max?_concat, Option.map_some]
      cases hmax : (indices written).max? with
      | none =>
          rw [hmax, Option.map_none, Option.map_eq_none_iff] at h
          rw [h, nextAfter, Option.map_some, toInt_following]
          rfl
      | some m =>
          rw [hmax, Option.map_some, Option.map_eq_some_iff] at h
          obtain ⟨n, rfl, hn⟩ := h
          rw [nextAfter, Option.map_some, toInt_max, toInt_following, hn]
          simp only [Option.map_some, Option.getD_some, Option.some.injEq]
          omega

/-! ## A step and a run -/

section

variable {e : Entries} {written : List (Key × Value)}

lemma reflects_nil : Reflects {} [] where
  keys := rfl
  nodup := List.nodup_nil
  lookup _ := rfl
  next := rfl

lemma Reflects.mem_keys (h : Reflects e written) {key : Key} :
    key ∈ e.entries.map Prod.fst ↔ key ∈ written.map Prod.fst := by
  rw [h.keys, List.mem_eraseDups]

lemma Reflects.insert (h : Reflects e written) (key : Key) (value : Value) :
    Reflects (e.insert key value) (written ++ [(key, value)]) where
  keys := by
    rw [Entries.insert, map_fst_put, List.map_append, List.eraseDups_append, ← h.keys]
    by_cases hkey : key ∈ written.map Prod.fst
    · rw [if_pos (h.mem_keys.2 hkey)]
      simp [List.removeAll, hkey]
    · rw [if_neg (mt h.mem_keys.1 hkey)]
      simp [List.removeAll, hkey, List.eraseDups_cons]
  nodup := by
    rw [Entries.insert, map_fst_put]
    split
    · exact h.nodup
    · next hkey => exact List.nodup_append.2 ⟨h.nodup, by simp, by grind⟩
  lookup k := by
    rw [Entries.insert, lookup_put, List.reverse_concat, lookup_cons_ite, h.lookup]
  next := nextIndex?_concat h.next key value

/-- A value alone is written at the next index. -/
lemma Reflects.index_eq (h : Reflects e written) :
    Int64.ofInt ((nextIndex? written).getD 0) = e.next.getD 0 := by
  rw [← h.next]
  cases e.next with
  | none => rfl
  | some n => exact n.ofInt_toInt

lemma Reflects.apply (h : Reflects e written) (step : Step) :
    Reflects (e.apply step) (written ++ [step.write written]) := by
  cases step with
  | insert key value => exact h.insert key value
  | push value =>
      rw [Step.write, h.index_eq]
      exact h.insert _ value

lemma Reflects.foldl (h : Reflects e written) (steps : List Step) :
    Reflects (steps.foldl Entries.apply e)
      (steps.foldl (fun written step => written ++ [step.write written]) written) := by
  induction steps generalizing e written with
  | nil => exact h
  | cons step steps ih => exact ih (h.apply step)

/-- Whatever the steps are, the array is what they wrote. -/
lemma reflects_built (steps : List Step) : Reflects (built steps) (writes steps) :=
  reflects_nil.foldl steps

lemma Reflects.next_eq_none_iff (h : Reflects e written) :
    e.next = none ↔ ∀ i, .int i ∉ written.map Prod.fst := by
  rw [← Option.map_eq_none_iff (f := Int64.toInt), h.next, nextIndex?, Option.map_eq_none_iff,
    List.max?_eq_none_iff, List.eq_nil_iff_forall_not_mem]
  simp only [mem_indices]
  grind

/-- The next index comes from the greatest one so far. -/
lemma Reflects.exists_greatest (h : Reflects e written) {n : Int64} (hn : e.next = some n) :
    ∃ greatest : Int64, .int greatest ∈ written.map Prod.fst ∧
      (∀ i, .int i ∈ written.map Prod.fst → i ≤ greatest) ∧
      n.toInt = min (greatest.toInt + 1) Int64.maxValue.toInt := by
  have hnext := h.next
  rw [hn, nextIndex?, Option.map_some, eq_comm, Option.map_eq_some_iff] at hnext
  obtain ⟨m, hm, hmin⟩ := hnext
  obtain ⟨hmem, hle⟩ := List.max?_eq_some_iff.1 hm
  obtain ⟨greatest, hgreatest, rfl⟩ := mem_indices.1 hmem
  refine ⟨greatest, hgreatest, ?_, hmin.symm⟩
  intro i hi
  exact Int64.le_iff_toInt_le.2 (hle _ (mem_indices.2 ⟨i, hi, rfl⟩))

end

end Entries

open Entries in
/-- Arrays follow the writes to them.  The entries have distinct keys, in the order of the first write to
each, and with the value of the last write; and there is a next index if an integer key was written, which
is one more than the greatest of these, or the last 64-bit integer.  Every point of a run is the end of a
shorter one, so this holds throughout. -/
theorem built_by_writes (steps : List Step) :
    ((built steps).entries.map Prod.fst).Nodup ∧
      (built steps).entries.map Prod.fst = ((writes steps).map Prod.fst).eraseDups ∧
      (∀ key value, (key, value) ∈ (built steps).entries ↔
        (writes steps).reverse.lookup key = some value) ∧
      ((built steps).next = none ↔ ∀ i, .int i ∉ (writes steps).map Prod.fst) ∧
      ∀ n, (built steps).next = some n →
        ∃ greatest : Int64, .int greatest ∈ (writes steps).map Prod.fst ∧
          (∀ i, .int i ∈ (writes steps).map Prod.fst → i ≤ greatest) ∧
          n.toInt = min (greatest.toInt + 1) Int64.maxValue.toInt := by
  have hbuilt := reflects_built steps
  refine ⟨hbuilt.nodup, hbuilt.keys, ?_, hbuilt.next_eq_none_iff, fun n hn => hbuilt.exists_greatest hn⟩
  intro key value
  rw [mem_iff_lookup hbuilt.nodup, hbuilt.lookup]

/-! ## Elements without a key -/

namespace Entries

variable {e : Entries} {written : List (Key × Value)}

/-- Behind the last integer there is no further index. -/
lemma Reflects.next_of_last (h : Reflects e written) (hlast : .int Int64.maxValue ∈ e.entries.map Prod.fst) :
    e.next = some Int64.maxValue := by
  rw [h.mem_keys] at hlast
  obtain ⟨n, hn⟩ : ∃ n, e.next = some n := by
    rw [← Option.ne_none_iff_exists']
    exact fun hnone => h.next_eq_none_iff.1 hnone _ hlast
  obtain ⟨greatest, -, hle, hmin⟩ := h.exists_greatest hn
  have hgreatest := Int64.le_iff_toInt_le.1 (hle _ hlast)
  rw [hn, Int64.toInt_inj.1 (show n.toInt = Int64.maxValue.toInt by omega)]

/-- The next index is new unless it is the last integer. -/
lemma Reflects.next_not_mem (h : Reflects e written)
    (hlast : .int Int64.maxValue ∉ e.entries.map Prod.fst) :
    .int (e.next.getD 0) ∉ e.entries.map Prod.fst := by
  intro hmem
  rw [h.mem_keys] at hmem
  cases hn : e.next with
  | none => exact h.next_eq_none_iff.1 hn _ hmem
  | some n =>
      rw [hn, Option.getD_some] at hmem
      obtain ⟨greatest, -, hle, hmin⟩ := h.exists_greatest hn
      have hgreatest := Int64.le_iff_toInt_le.1 (hle _ hmem)
      -- an index that is not above all others can only be the last one
      have heq : n = Int64.maxValue := Int64.toInt_inj.1 (by omega)
      exact hlast (h.mem_keys.2 (heq ▸ hmem))

lemma Reflects.push_of_not_last (h : Reflects e written)
    (hlast : .int Int64.maxValue ∉ e.entries.map Prod.fst) (value : Value) :
    ∃ key, key ∉ e.entries.map Prod.fst ∧ (e.push value).entries = e.entries ++ [(key, value)] :=
  ⟨_, h.next_not_mem hlast, put_of_not_mem (h.next_not_mem hlast)⟩

lemma Reflects.push_of_last (h : Reflects e written)
    (hlast : .int Int64.maxValue ∈ e.entries.map Prod.fst) (value : Value) :
    ∃ before old after, e.entries = before ++ (.int Int64.maxValue, old) :: after ∧
      (e.push value).entries = before ++ (.int Int64.maxValue, value) :: after := by
  rw [push, h.next_of_last hlast, Option.getD_some]
  exact put_of_mem hlast value

end Entries

namespace Source

/-- The step that an element of an array literal stands for, if it is a literal. -/
def stepOf? : Option Expr × Expr → Option Entries.Step
  | (none, value) => value.value?.map .push
  | (some key, value) => do
    let k ← key.value?
    let v ← value.value?
    let k ← Key.ofValue? k
    pure (.insert k v)

lemma addTo_cons (element : Option Expr × Expr) (rest : Elements) (e : Entries) :
    (Elements.cons element rest).addTo e = (stepOf? element).bind fun step => rest.addTo (e.apply step) := by
  obtain ⟨key, value⟩ := element
  cases key with
  | none =>
      rw [Elements.cons, Elements.addTo, stepOf?]
      cases value.value? <;> rfl
  | some key =>
      rw [Elements.cons, Elements.addTo, stepOf?]
      cases key.value? with
      | none => rfl
      | some k =>
          cases value.value? with
          | none => rfl
          | some v => cases hk : Key.ofValue? k <;> simp [hk, Entries.apply]

/-- An array literal is a sequence of steps. -/
lemma addTo_ofList (l : List (Option Expr × Expr)) (e : Entries) :
    (Elements.ofList l).addTo e = (l.mapM stepOf?).map fun steps => steps.foldl Entries.apply e := by
  induction l generalizing e with
  | nil => simp [Elements.ofList, Elements.addTo]
  | cons element l ih =>
      rw [Elements.ofList, addTo_cons, List.mapM_cons]
      cases stepOf? element with
      | none => rfl
      | some step =>
          rw [Option.bind_some, ih]
          cases l.mapM stepOf? <;> simp

/-- The value of an array literal, step by step. -/
lemma value?_array (l : List (Option Expr × Expr)) :
    (Expr.array (.ofList l)).value? = (l.mapM stepOf?).map fun steps => (Entries.built steps).toValue := by
  rw [Expr.value?, addTo_ofList, Option.map_map]
  rfl

lemma value?_array_concat {l : List (Option Expr × Expr)} {steps : List Entries.Step}
    (h : l.mapM stepOf? = some steps) (e : Expr) :
    (Expr.array (.ofList (l ++ [(none, e)]))).value? =
      e.value?.map fun v => ((Entries.built steps).push v).toValue := by
  rw [value?_array, List.mapM_append, h]
  cases he : e.value? <;> simp [stepOf?, he, Entries.built, Entries.apply]

end Source

open Source in
/-- When an element without a key is an entry of its own.  An array literal with entries is made longer by
one such element.  If the element is no literal, neither is the array.  If it is one, it is added behind the
entries exactly when the last integer is not among their keys; otherwise it replaces the entry there. -/
theorem keyless_element_kept (l : List (Option Expr × Expr)) (entries : List (Key × Value))
    (h : (Expr.array (.ofList l)).value? = some (.array entries)) (e : Expr) :
    (e.value? = none → (Expr.array (.ofList (l ++ [(none, e)]))).value? = none) ∧
      ∀ value, e.value? = some value →
        ((∃ key, key ∉ entries.map Prod.fst ∧
            (Expr.array (.ofList (l ++ [(none, e)]))).value? = some (.array (entries ++ [(key, value)]))) ↔
          .int Int64.maxValue ∉ entries.map Prod.fst) ∧
        (.int Int64.maxValue ∈ entries.map Prod.fst → ∃ before old after,
          entries = before ++ (.int Int64.maxValue, old) :: after ∧
            (Expr.array (.ofList (l ++ [(none, e)]))).value? =
              some (.array (before ++ (.int Int64.maxValue, value) :: after))) := by
  rw [value?_array, Option.map_eq_some_iff] at h
  obtain ⟨steps, hsteps, hentries⟩ := h
  cases hentries
  have hbuilt := Entries.reflects_built steps
  simp only [value?_array_concat hsteps]
  refine ⟨fun he => by rw [he, Option.map_none], fun value he => ?_⟩
  rw [he, Option.map_some, Entries.toValue]
  refine ⟨⟨?_, ?_⟩, ?_⟩
  · rintro ⟨key, -, hadded⟩ hlast
    obtain ⟨before, old, after, hbefore, hpush⟩ := hbuilt.push_of_last hlast value
    -- the array has not become longer
    have hlength := congrArg List.length (Value.array.inj (Option.some.inj hadded))
    rw [hpush, hbefore] at hlength
    simp at hlength
  · intro hlast
    obtain ⟨key, hnew, hpush⟩ := hbuilt.push_of_not_last hlast value
    exact ⟨key, hnew, by rw [hpush]⟩
  · intro hlast
    obtain ⟨before, old, after, hbefore, hpush⟩ := hbuilt.push_of_last hlast value
    exact ⟨before, old, after, hbefore, by rw [hpush]⟩

/-- The literal `['8' => true, 2.5 => 'x', null]`, whose first two keys become integers. -/
def castKeysSample : List (Option Source.Expr × Source.Expr) :=
  [(some (.quoted "'8'"), .word "true"), (some (.float "2.5"), .quoted "'x'"), (none, .word "null")]

theorem keyless_element_kept_cast :
    (Source.Expr.array (.ofList castKeysSample)).value? =
        some (.array [(.int 8, .bool true), (.int 2, .text "x"), (.int 9, .null)]) ∧
      ∃ key, key ∉ [Key.int 8, .int 2, .int 9] ∧
        (Source.Expr.array (.ofList (castKeysSample ++ [(none, .integer "7")]))).value? =
          some (.array [(.int 8, .bool true), (.int 2, .text "x"), (.int 9, .null), (key, .int 7)]) := by
  have hvalue : (Source.Expr.array (.ofList castKeysSample)).value? =
      some (.array [(.int 8, .bool true), (.int 2, .text "x"), (.int 9, .null)]) := by rfl
  exact ⟨hvalue, ((keyless_element_kept _ _ hvalue (.integer "7")).2 (.int 7) (by rfl)).1.2 (by decide)⟩

/-- The code of the literal that a text is. -/
def literalCode? (text : String) : Option String :=
  ((Source.expressionIn text.toList).bind fun p => p.1.value?).map Value.compactCode

/-- Behind the last integer key an element without a key takes the place of another. -/
theorem last_index_taken_again :
    literalCode? "[9223372036854775807 => 'a']" = some "array(9223372036854775807=>'a',)" ∧
      literalCode? "[9223372036854775807 => 'a', 'b']" = some "array(9223372036854775807=>'b',)" := by
  decide +kernel

end PhpInterface
