import Mathlib.Data.List.Basic

/-!
# Stopping at an error and going past it

Two ways to run over a list of which each element gives a list or an error: one ends with the first
error (`untilError`), the other goes past it (`pastErrors`). They give the same just where nothing
is left behind an error (`untilError_eq_pastErrors_iff`).
-/

namespace Stopping

variable {α β ε : Type*} (f : α → Except ε (List β))

/-- What an element gives, nothing where it gives an error. -/
def given (a : α) : List β :=
  match f a with
  | .ok bs => bs
  | .error _ => []

/-- An element that gives an error. -/
def Fails (a : α) : Prop := ∃ e, f a = .error e

/-- What is given up to the first error. -/
def untilError : List α → List β
  | [] => []
  | a :: l =>
    match f a with
    | .ok bs => bs ++ untilError l
    | .error _ => []

/-- What is given, errors or not. -/
def pastErrors (l : List α) : List β := l.flatMap (given f)

theorem given_of_fails {a : α} (h : Fails f a) : given f a = [] := by
  obtain ⟨e, h⟩ := h
  rw [given, h]

theorem untilError_cons_of_fails {a : α} (h : Fails f a) (l : List α) :
    untilError f (a :: l) = [] := by
  obtain ⟨e, h⟩ := h
  rw [untilError, h]

theorem untilError_cons_of_not_fails {a : α} (h : ¬ Fails f a) (l : List α) :
    untilError f (a :: l) = given f a ++ untilError f l := by
  cases hf : f a with
  | error e => exact absurd ⟨e, hf⟩ h
  | ok bs => rw [untilError, given, hf]

theorem pastErrors_eq_nil_iff {l : List α} : pastErrors f l = [] ↔ ∀ a ∈ l, given f a = [] :=
  List.flatMap_eq_nil_iff

/-- Stopping at the first error loses nothing just where no element after one that fails gives
anything. -/
theorem untilError_eq_pastErrors_iff (l : List α) :
    untilError f l = pastErrors f l ↔
      l.Pairwise fun a later => Fails f a → given f later = [] := by
  induction l with
  | nil => exact iff_of_true rfl .nil
  | cons a l ih =>
    rw [List.pairwise_cons, pastErrors, List.flatMap_cons]
    by_cases ha : Fails f a
    · rw [untilError_cons_of_fails f ha, given_of_fails f ha, List.nil_append, eq_comm,
        ← pastErrors, pastErrors_eq_nil_iff]
      constructor
      · intro hl
        refine ⟨fun later hlater _ => hl later hlater, ?_⟩
        exact List.pairwise_of_forall_mem_list fun _ _ later hlater _ => hl later hlater
      · exact fun hl later hlater => hl.1 later hlater ha
    · rw [untilError_cons_of_not_fails f ha, List.append_cancel_left_eq, ← pastErrors, ih]
      exact ⟨fun hl => ⟨fun _ _ hfails => absurd hfails ha, hl⟩, And.right⟩

end Stopping
