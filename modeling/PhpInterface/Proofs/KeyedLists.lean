import Mathlib.Data.List.Nodup

/-!
# Lists with keys

The entries of an array and those of a folder are lists of pairs that are looked up by their first part.  The
first pair with a key counts; where no key comes twice, looking up a key finds exactly its pair.
-/

namespace PhpInterface

variable {α β : Type} [DecidableEq α] {key : α} {value : β} {entries : List (α × β)}

lemma lookup_cons_ite (key : α) (value : β) (entries : List (α × β)) (k : α) :
    ((key, value) :: entries).lookup k = if k = key then some value else entries.lookup k := by
  rw [List.lookup_cons]
  by_cases h : k = key
  · rw [if_pos h, beq_iff_eq.2 h]
  · rw [if_neg h, beq_eq_false_iff_ne.2 h]

/-- Where no key comes twice, an entry is what its key is looked up to. -/
lemma mem_iff_lookup (h : (entries.map Prod.fst).Nodup) :
    (key, value) ∈ entries ↔ entries.lookup key = some value := by
  induction entries with
  | nil => simp
  | cons e entries ih =>
      obtain ⟨k, v⟩ := e
      rw [List.map_cons, List.nodup_cons] at h
      rw [List.mem_cons, lookup_cons_ite]
      by_cases hk : key = k
      · have hnone : (k, value) ∉ entries := fun hmem => h.1 (List.mem_map.2 ⟨_, hmem, rfl⟩)
        simp [hk, hnone, eq_comm]
      · simp [hk, ih h.2]

end PhpInterface
