import Mathlib.Data.Finset.Card
import Mathlib.Data.List.AList
import Mathlib.Data.List.Nodup

/-!
# Bounded queues of records with keys

A queue keeps records that each have a key, at most so many and at most one for each key. `amend`
changes the first record with a key, and `enqueue` puts a record last, for which the first goes
where the queue is full. Where the keys are distinct, the first record with a key is the only one,
and `amend` is a map (`amend_eq_map`), from whichever end it is looked for (`amend_reverse`). A table
whose keys are in a set grows no larger than that (`length_entries_lt`).
-/

namespace Keyed

universe u v
variable {α : Type u} {κ : Type v} [DecidableEq κ] (key : α → κ)

/-- The first record with a key is changed. -/
def amend (k : κ) (f : α → α) (l : List α) : List α :=
  l.replaceF fun a => if key a = k then some (f a) else none

/-- A record is put last; the first goes if there are `limit` already. -/
def enqueue (limit : Nat) (l : List α) (a : α) : List α :=
  (if limit ≤ l.length then l.tail else l) ++ [a]

@[simp] theorem length_amend (k : κ) (f : α → α) (l : List α) :
    (amend key k f l).length = l.length := List.length_replaceF

variable {key}

theorem amend_cons_of_eq {k : κ} {f : α → α} {a : α} {l : List α} (h : key a = k) :
    amend key k f (a :: l) = f a :: l := by
  simp [amend, h]

theorem amend_cons_of_ne {k : κ} {f : α → α} {a : α} {l : List α} (h : key a ≠ k) :
    amend key k f (a :: l) = a :: amend key k f l := by
  simp [amend, h]

/-- Where the keys are distinct, that is the only record it is changed in. -/
theorem amend_eq_map {k : κ} {f : α → α} {l : List α} (h : (l.map key).Nodup) :
    amend key k f l = l.map fun a => if key a = k then f a else a := by
  induction l with
  | nil => rfl
  | cons a l ih =>
    rw [List.map_cons, List.nodup_cons] at h
    by_cases hk : key a = k
    · have hrest : l.map (fun b => if key b = k then f b else b) = l := by
        refine (List.map_congr_left fun b hb => ?_).trans (List.map_id l)
        rw [if_neg, id]
        intro hb'
        exact h.1 (hk.trans hb'.symm ▸ List.mem_map_of_mem hb)
      rw [amend_cons_of_eq hk, List.map_cons, if_pos hk, hrest]
    · rw [amend_cons_of_ne hk, List.map_cons, if_neg hk, ih h.2]

/-- So it is from the other end. -/
theorem amend_reverse {k : κ} {f : α → α} {l : List α} (h : (l.map key).Nodup) :
    (amend key k f l.reverse).reverse = l.map fun a => if key a = k then f a else a := by
  rw [amend_eq_map (by rwa [List.map_reverse, List.nodup_reverse]), List.map_reverse,
    List.reverse_reverse]

/-- What keeps the keys of the records keeps those of a queue. -/
theorem map_key_map {k : κ} {f : α → α} {l : List α} (hf : ∀ a, key (f a) = key a) :
    (l.map fun a => if key a = k then f a else a).map key = l.map key := by
  rw [List.map_map]
  refine List.map_congr_left fun a _ => ?_
  rw [Function.comp_apply]
  split
  · exact hf a
  · rfl

omit [DecidableEq κ] in
/-- A queue has room for what is put last. -/
theorem length_enqueue_le {limit : Nat} {l : List α} {a : α} (h : l.length ≤ limit)
    (hpos : 0 < limit) : (enqueue limit l a).length ≤ limit := by
  unfold enqueue
  split <;> simp only [List.length_append, List.length_tail, List.length_singleton] <;> omega

omit [DecidableEq κ] in
/-- What is in a queue afterwards was in it, or is what was put last. -/
theorem mem_of_mem_enqueue {limit : Nat} {l : List α} {a b : α} (h : b ∈ enqueue limit l a) :
    b ∈ l ∨ b = a := by
  rcases List.mem_append.1 h with h | h
  · split at h
    · exact .inl (List.mem_of_mem_tail h)
    · exact .inl h
  · exact .inr (List.mem_singleton.1 h)

omit [DecidableEq κ] in
/-- A record with a new key keeps the keys distinct. -/
theorem nodup_enqueue {limit : Nat} {l : List α} {a : α} (h : (l.map key).Nodup)
    (ha : key a ∉ l.map key) : ((enqueue limit l a).map key).Nodup := by
  have hsub : ((if limit ≤ l.length then l.tail else l).map key).Sublist (l.map key) := by
    split
    · exact (List.tail_sublist l).map key
    · exact .refl _
  rw [enqueue, List.map_append, List.map_singleton, ← List.concat_eq_append]
  exact List.Nodup.concat (fun hmem => ha (hsub.subset hmem)) (hsub.nodup h)

/-- A table has fewer entries than a set that has its keys and one more. -/
theorem length_entries_lt {β : κ → Type*} {table : AList β} {s : Finset κ} {k : κ}
    (htable : ∀ k ∈ table, k ∈ s) (hk : k ∈ s) (hnot : k ∉ table) :
    table.entries.length < s.card := by
  have hkeys : table.keys.toFinset ⊆ s := fun j hj =>
    htable j (AList.mem_keys.2 (List.mem_toFinset.1 hj))
  have hfresh : k ∉ table.keys.toFinset := fun h => hnot (AList.mem_keys.2 (List.mem_toFinset.1 h))
  have hlt := Finset.card_lt_card (Finset.ssubset_iff_of_subset hkeys |>.2 ⟨k, hk, hfresh⟩)
  rw [List.toFinset_card_of_nodup table.keys_nodup, AList.keys, List.keys, List.length_map] at hlt
  exact hlt

end Keyed
