import Mathlib.Order.Lattice
import Mathlib.Data.List.Basic

/-!
# Maps in the order of their keys

A map as the list of its entries, in the order of their keys. Putting the entries of a map into an
empty one, one after the other, gives the map again (`ofEntries_entries`).
-/

/-- A map from keys to values. -/
@[ext]
structure SortedMap (κ β : Type) [LinearOrder κ] where
  entries : List (κ × β)
  sorted : entries.Pairwise (·.1 < ·.1)

namespace SortedMap

variable {κ β : Type} [LinearOrder κ]

instance [DecidableEq β] : DecidableEq (SortedMap κ β) := fun m n =>
  decidable_of_iff (m.entries = n.entries) (by cases m; cases n; simp)

/-- Entries with one put in its place, or in the place of the one there was. -/
def insertEntry (k : κ) (v : β) : List (κ × β) → List (κ × β)
  | [] => [(k, v)]
  | e :: es =>
    if k < e.1 then (k, v) :: e :: es
    else if k = e.1 then (k, v) :: es
    else e :: insertEntry k v es

theorem mem_insertEntry {k : κ} {v : β} {es : List (κ × β)} {e : κ × β}
    (h : e ∈ insertEntry k v es) : e = (k, v) ∨ e ∈ es := by
  induction es with
  | nil => simpa [insertEntry] using h
  | cons e' es ih =>
    rw [insertEntry] at h
    split at h
    · exact List.mem_cons.1 h
    split at h
    · rcases List.mem_cons.1 h with h | h
      · exact .inl h
      · exact .inr (List.mem_cons_of_mem _ h)
    · rcases List.mem_cons.1 h with h | h
      · exact .inr (h ▸ List.mem_cons_self)
      · exact (ih h).imp_right (List.mem_cons_of_mem _)

theorem sorted_insertEntry (k : κ) (v : β) {es : List (κ × β)} (h : es.Pairwise (·.1 < ·.1)) :
    (insertEntry k v es).Pairwise (·.1 < ·.1) := by
  induction es with
  | nil => exact List.pairwise_singleton ..
  | cons e es ih =>
    rw [List.pairwise_cons] at h
    rw [insertEntry]
    split
    · next hlt =>
      refine List.pairwise_cons.2 ⟨fun e' he' => ?_, List.pairwise_cons.2 h⟩
      rcases List.mem_cons.1 he' with rfl | he'
      · exact hlt
      · exact lt_trans hlt (h.1 e' he')
    split
    · next heq => exact List.pairwise_cons.2 ⟨fun e' he' => heq ▸ h.1 e' he', h.2⟩
    · next hnlt hne =>
      refine List.pairwise_cons.2 ⟨fun e' he' => ?_, ih h.2⟩
      rcases mem_insertEntry he' with rfl | he'
      · exact lt_of_le_of_ne (not_lt.1 hnlt) (Ne.symm hne)
      · exact h.1 e' he'

/-- The map without entries. -/
def empty : SortedMap κ β := ⟨[], .nil⟩

/-- The map with a value for a key. -/
def insert (m : SortedMap κ β) (k : κ) (v : β) : SortedMap κ β :=
  ⟨insertEntry k v m.entries, sorted_insertEntry k v m.sorted⟩

/-- The map that entries make up, of which the last counts where a key is repeated. -/
def ofEntries (es : List (κ × β)) : SortedMap κ β := es.foldl (fun m e => m.insert e.1 e.2) empty

/-- An entry with the largest key comes last. -/
theorem insertEntry_of_lt {k : κ} {v : β} {es : List (κ × β)} (h : ∀ e ∈ es, e.1 < k) :
    insertEntry k v es = es ++ [(k, v)] := by
  induction es with
  | nil => rfl
  | cons e es ih =>
    rw [List.forall_mem_cons] at h
    rw [insertEntry, if_neg (not_lt.2 (le_of_lt h.1)), if_neg (ne_of_gt h.1), ih h.2]
    rfl

theorem entries_foldl_insert (es : List (κ × β)) (m : SortedMap κ β)
    (h : (m.entries ++ es).Pairwise (·.1 < ·.1)) :
    (es.foldl (fun m e => m.insert e.1 e.2) m).entries = m.entries ++ es := by
  induction es generalizing m with
  | nil => simp
  | cons e es ih =>
    have hlt : ∀ e' ∈ m.entries, e'.1 < e.1 := fun e' he' =>
      (List.pairwise_append.1 h).2.2 e' he' e List.mem_cons_self
    have hinsert : (m.insert e.1 e.2).entries = m.entries ++ [e] := insertEntry_of_lt hlt
    rw [List.foldl_cons, ih]
    · rw [hinsert, List.append_assoc, List.singleton_append]
    · rwa [hinsert, List.append_assoc, List.singleton_append]

/-- A map is made up of its entries. -/
theorem ofEntries_entries (m : SortedMap κ β) : ofEntries m.entries = m :=
  SortedMap.ext (entries_foldl_insert m.entries empty m.sorted)

end SortedMap
