import Mathlib.Data.List.Basic
import Mathlib.Data.List.Induction

/-!
# Machines that answer each input

A machine is a function from a state and an input to an answer and the next state. `after` is the
state some inputs lead to, `answers` what is said to them, one answer for each; both are read off
the inputs from left to right, so they come apart at any place (`after_append`, `answers_append`).

Something that some inputs bring about and others end is there after a list of inputs if one of them
has brought it about and none from there on has ended it (`after_iff_since`).
-/

namespace Mealy

variable {σ ι ο : Type*} (step : σ → ι → ο × σ)

/-- The state some inputs lead to. -/
def after (s : σ) : List ι → σ
  | [] => s
  | i :: is => after (step s i).2 is

/-- The answers to some inputs, in their order. -/
def answers (s : σ) : List ι → List ο
  | [] => []
  | i :: is => (step s i).1 :: answers (step s i).2 is

variable {step} {s : σ}

@[simp] theorem after_nil : after step s [] = s := rfl

@[simp] theorem after_cons (i : ι) (is : List ι) :
    after step s (i :: is) = after step (step s i).2 is := rfl

@[simp] theorem answers_nil : answers step s [] = [] := rfl

@[simp] theorem answers_cons (i : ι) (is : List ι) :
    answers step s (i :: is) = (step s i).1 :: answers step (step s i).2 is := rfl

@[simp] theorem after_append (is js : List ι) :
    after step s (is ++ js) = after step (after step s is) js := by
  induction is generalizing s with
  | nil => rfl
  | cons i is ih => exact ih

@[simp] theorem answers_append (is js : List ι) :
    answers step s (is ++ js) = answers step s is ++ answers step (after step s is) js := by
  induction is generalizing s with
  | nil => rfl
  | cons i is ih => exact congrArg _ ih

/-- What every input in a list keeps is there after all of them. -/
theorem after_invariant {P : σ → Prop} {is : List ι}
    (hs : ∀ s, ∀ i ∈ is, P s → P (step s i).2) (h : P s) : P (after step s is) := by
  induction is generalizing s with
  | nil => exact h
  | cons i is ih =>
    exact ih (fun s j hj => hs s j (List.mem_cons_of_mem _ hj)) (hs s i List.mem_cons_self h)

/-! ## What lasts until it is ended -/

/-- One of the inputs marks, and none from there on frees. -/
def Since (marks frees : ι → Prop) (is : List ι) : Prop :=
  ∃ l i r, is = l ++ i :: r ∧ marks i ∧ ∀ j ∈ i :: r, ¬ frees j

variable {marks frees : ι → Prop}

theorem not_since_nil : ¬ Since marks frees [] := by
  rintro ⟨l, i, r, h, -⟩
  simp at h

theorem since_concat {is : List ι} {i : ι} :
    Since marks frees (is ++ [i]) ↔ (Since marks frees is ∨ marks i) ∧ ¬ frees i := by
  constructor
  · rintro ⟨l, j, r, heq, hm, hf⟩
    rcases r.eq_nil_or_concat' with rfl | ⟨r, k, rfl⟩
    · obtain ⟨rfl, rfl⟩ := List.append_singleton_inj.1 heq
      exact ⟨.inr hm, hf i List.mem_cons_self⟩
    · rw [← List.cons_append, ← List.append_assoc] at heq
      obtain ⟨rfl, rfl⟩ := List.append_singleton_inj.1 heq
      have hf' : ∀ k ∈ j :: r ++ [i], ¬ frees k := hf
      exact ⟨.inl ⟨l, j, r, rfl, hm, fun k hk => hf' k (List.mem_append_left _ hk)⟩,
        hf' i List.mem_concat_self⟩
  · rintro ⟨⟨l, j, r, rfl, hm, hf⟩ | hm, hi⟩
    · refine ⟨l, j, r ++ [i], by simp, hm, fun k hk => ?_⟩
      rw [← List.cons_append] at hk
      rcases List.mem_append.1 hk with hk | hk
      · exact hf k hk
      · exact List.mem_singleton.1 hk ▸ hi
    · exact ⟨is, i, [], rfl, hm, fun k hk => List.mem_singleton.1 hk ▸ hi⟩

/-- **What each step keeps or brings about, unless it ends it, is what has been brought about and
not been ended since.** -/
theorem after_iff_since {P : σ → Prop}
    (hstep : ∀ s i, P (step s i).2 ↔ (P s ∨ marks i) ∧ ¬ frees i) (h : ¬ P s) (is : List ι) :
    P (after step s is) ↔ Since marks frees is := by
  induction is using List.reverseRecOn with
  | nil => exact iff_of_false h not_since_nil
  | append_singleton is i ih => rw [after_append, after_cons, after_nil, hstep, ih, since_concat]

end Mealy
