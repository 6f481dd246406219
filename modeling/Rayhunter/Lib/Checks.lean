import Mathlib.Data.List.Basic

/-!
# Checks in a row

What it means that a sequence of checks, each of which may refuse with an error, lets a value pass.
-/

namespace Checks

variable {ε α β : Type*}

/-- An error where a condition holds. -/
def refuseIf (c : Prop) [Decidable c] (e : ε) : Except ε Unit := if c then .error e else .ok ()

theorem refuseIf_eq_ok {c : Prop} [Decidable c] {e : ε} : refuseIf c e = .ok () ↔ ¬ c := by
  unfold refuseIf
  split <;> simp [*]

/-- One check after another. -/
def andThen (x y : Except ε Unit) : Except ε Unit :=
  match x with
  | .ok () => y
  | .error e => .error e

theorem andThen_eq_ok {x y : Except ε Unit} : andThen x y = .ok () ↔ x = .ok () ∧ y = .ok () := by
  cases x <;> simp [andThen]

/-- Checks, up to the first that refuses. -/
def inTurn : List (Except ε Unit) → Except ε Unit
  | [] => .ok ()
  | x :: xs => andThen x (inTurn xs)

theorem inTurn_eq_ok {xs : List (Except ε Unit)} : inTurn xs = .ok () ↔ ∀ x ∈ xs, x = .ok () := by
  induction xs with
  | nil => simp [inTurn]
  | cons x xs ih => rw [inTurn, andThen_eq_ok, ih, List.forall_mem_cons]

/-- Every element is turned into something where each of them is. -/
theorem exists_mapM {f : α → Except ε β} {l : List α} (h : ∀ a ∈ l, ∃ b, f a = .ok b) :
    ∃ bs, l.mapM f = .ok bs := by
  induction l with
  | nil => exact ⟨[], rfl⟩
  | cons a l ih =>
    rw [List.forall_mem_cons] at h
    obtain ⟨b, hb⟩ := h.1
    obtain ⟨bs, hbs⟩ := ih h.2
    refine ⟨b :: bs, ?_⟩
    rw [List.mapM_cons, hb, hbs]
    rfl

/-- What is made of a list is made of its elements, one by one. -/
theorem forall₂_of_mapM {f : α → Except ε β} {l : List α} {bs : List β} (h : l.mapM f = .ok bs) :
    List.Forall₂ (fun a b => f a = .ok b) l bs := by
  induction l generalizing bs with
  | nil =>
    cases h
    exact .nil
  | cons a l ih =>
    rw [List.mapM_cons] at h
    cases ha : f a with
    | error e => rw [ha] at h; cases h
    | ok b =>
      cases hl : l.mapM f with
      | error e => rw [ha, hl] at h; cases h
      | ok bs' =>
        rw [ha, hl] at h
        cases h
        exact .cons ha (ih hl)

theorem exists_of_mapM {f : α → Except ε β} {l : List α} {bs : List β} (h : l.mapM f = .ok bs)
    {a : α} (ha : a ∈ l) : ∃ b ∈ bs, f a = .ok b := by
  have hforall := forall₂_of_mapM h
  clear h
  induction hforall with
  | nil => cases ha
  | cons hb _ ih =>
    rcases List.mem_cons.1 ha with rfl | ha
    · exact ⟨_, List.mem_cons_self, hb⟩
    · obtain ⟨b, hmem, hb⟩ := ih ha
      exact ⟨b, List.mem_cons_of_mem _ hmem, hb⟩

end Checks
