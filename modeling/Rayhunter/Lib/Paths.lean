import Mathlib.Data.List.Basic

/-!
# Paths as text

A text names what lies in or below what another names where it goes on with a separator after it.
That is the order of their segments (`within_iff_segments`): what shares only the beginning of a
segment is not below. The texts a path lies within are in line, one within the other
(`Within.comparable`).
-/

namespace Paths

variable {α : Type*} {sep : α} {path root root' : List α}

/-- A path is another one, or below it. -/
def Within (sep : α) (path root : List α) : Prop := path = root ∨ root ++ [sep] <+: path

instance [DecidableEq α] : Decidable (Within sep path root) :=
  inferInstanceAs (Decidable (path = root ∨ root ++ [sep] <+: path))

theorem Within.refl (sep : α) (path : List α) : Within sep path path := .inl rfl

theorem Within.isPrefix (h : Within sep path root) : root <+: path := by
  rcases h with rfl | h
  · exact List.prefix_rfl
  · exact (List.prefix_append root [sep]).trans h

theorem intercalate_append {ls ms : List (List α)} (hl : ls ≠ []) (hm : ms ≠ []) :
    [sep].intercalate (ls ++ ms) = [sep].intercalate ls ++ sep :: [sep].intercalate ms := by
  induction ls with
  | nil => exact absurd rfl hl
  | cons l ls ih =>
    cases ls with
    | nil =>
      rw [List.singleton_append, List.intercalate_cons_of_ne_nil hm, List.intercalate_singleton,
        List.append_assoc, List.singleton_append]
    | cons l' ls =>
      have hne : l' :: ls ≠ [] := List.cons_ne_nil l' ls
      have hne' : l' :: ls ++ ms ≠ [] := List.append_ne_nil_of_left_ne_nil hne ms
      rw [List.cons_append, List.intercalate_cons_of_ne_nil hne', ih hne,
        List.intercalate_cons_of_ne_nil hne, List.append_assoc, List.append_assoc,
        List.append_assoc]

/-- **Being within is an order of segments.** -/
theorem within_iff_segments [DecidableEq α] :
    Within sep path root ↔ root.splitOn sep <+: path.splitOn sep := by
  constructor
  · rintro (rfl | ⟨rest, rfl⟩)
    · exact List.prefix_rfl
    · rw [List.append_assoc, List.singleton_append, List.splitOn_append_cons_self]
      exact List.prefix_append ..
  · rintro ⟨rest, hrest⟩
    have hpath : [sep].intercalate (path.splitOn sep) = path := List.intercalate_splitOn sep
    have hroot : [sep].intercalate (root.splitOn sep) = root := List.intercalate_splitOn sep
    rw [← hrest] at hpath
    rcases eq_or_ne rest [] with rfl | hne
    · left
      rw [← hpath, List.append_nil, hroot]
    · right
      rw [intercalate_append (List.splitOn_ne_nil sep root) hne, hroot] at hpath
      exact ⟨[sep].intercalate rest, by rw [← hpath]; simp⟩

/-- The roots of a path are in line. -/
theorem Within.comparable [DecidableEq α] (h : Within sep path root) (h' : Within sep path root') :
    Within sep root root' ∨ Within sep root' root := by
  rw [within_iff_segments] at h h'
  rw [within_iff_segments, within_iff_segments]
  exact (List.prefix_or_prefix_of_prefix h h').symm

end Paths
