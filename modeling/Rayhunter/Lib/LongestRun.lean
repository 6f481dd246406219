import Mathlib.Data.List.Chain

/-!
# The longest run at the end of a list

A run is a stretch whose neighbours are all related. The longest one a list ends with grows with an
element related to the last (`LongestRun.concat`), and begins anew at one that is not
(`LongestRun.restart`).
-/

variable {α : Type*} {R : α → α → Prop} {xs run : List α} {x y : α}

/-- The longest run the list ends with. -/
structure LongestRun (R : α → α → Prop) (xs run : List α) : Prop where
  suffix : run <:+ xs
  isChain : run.IsChain R
  longest : ∀ ys, ys <:+ xs → ys.IsChain R → ys <:+ run

namespace LongestRun

theorem nil : LongestRun R [] [] := ⟨List.nil_suffix, .nil, fun _ h _ => h⟩

/-- There is one. -/
theorem unique {run' : List α} (h : LongestRun R xs run) (h' : LongestRun R xs run') :
    run = run' :=
  (h'.longest run h.suffix h.isChain).eq_of_length_le
    (h.longest run' h'.suffix h'.isChain).length_le

/-- It ends where the list ends. -/
theorem getLast?_eq (h : LongestRun R xs run) : run.getLast? = xs.getLast? := by
  rcases List.eq_nil_or_concat' xs with rfl | ⟨xs, x, rfl⟩
  · rw [List.suffix_nil.1 h.suffix]
  · obtain ⟨run', rfl⟩ : [x] <:+ run :=
      h.longest [x] (List.suffix_append _ _) (List.isChain_singleton x)
    simp

theorem concat (h : LongestRun R xs run) (hx : ∀ y ∈ run.getLast?, R y x) :
    LongestRun R (xs ++ [x]) (run ++ [x]) where
  suffix := List.suffix_concat_iff.2 (.inr ⟨run, rfl, h.suffix⟩)
  isChain := h.isChain.append (List.isChain_singleton x) fun y hy z hz => by
    cases hz
    exact hx y hy
  longest ys hys hchain := by
    rcases List.suffix_concat_iff.1 hys with rfl | ⟨zs, rfl, hzs⟩
    · exact List.nil_suffix
    · obtain ⟨before, hrun⟩ := h.longest zs hzs hchain.left_of_append
      exact ⟨before, by rw [← List.append_assoc, hrun]⟩

theorem restart (h : LongestRun R xs run) (hy : y ∈ run.getLast?) (hx : ¬ R y x) :
    LongestRun R (xs ++ [x]) [x] where
  suffix := List.suffix_append _ _
  isChain := List.isChain_singleton x
  longest ys hys hchain := by
    rcases List.suffix_concat_iff.1 hys with rfl | ⟨zs, rfl, hzs⟩
    · exact List.nil_suffix
    · rcases List.eq_nil_or_concat' zs with rfl | ⟨zs, z, rfl⟩
      · exact List.suffix_rfl
      · -- what comes before `x` is the end of the run, which `x` does not go on with
        obtain ⟨before, rfl⟩ := h.longest _ hzs hchain.left_of_append
        obtain rfl : z = y := by simpa using hy
        exact absurd ((List.isChain_append.1 hchain).2.2 z (by simp) x rfl) hx

end LongestRun
