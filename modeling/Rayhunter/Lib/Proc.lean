import Mathlib.Order.RelClasses

/-!
# Procedures that may not return

A procedure changes a state, and ends with a value, with an error, or not at all: it waits for what
never comes, or it panics. One that returned is taken apart into its steps (`bind_eq_ok`), and what
every step does to the state, and is transitive, the whole does, however it ends (`Always`).
-/

/-- How a procedure ends. -/
inductive Proc.Ended (ε α : Type)
  | ok (a : α)
  | error (e : ε)
  | waits
  | panics
  deriving DecidableEq, Repr

/-- A procedure over a state. -/
def Proc (σ ε α : Type) := σ → Proc.Ended ε α × σ

namespace Proc

variable {σ ε α β : Type}

/-- One step after another, if that returns. -/
def andThen (p : Proc σ ε α) (f : α → Proc σ ε β) : Proc σ ε β := fun s =>
  match p s with
  | (.ok a, s) => f a s
  | (.error e, s) => (.error e, s)
  | (.waits, s) => (.waits, s)
  | (.panics, s) => (.panics, s)

instance : Monad (Proc σ ε) where
  pure a := fun s => (.ok a, s)
  bind := andThen

/-- An error. -/
def fail (e : ε) : Proc σ ε α := fun s => (.error e, s)

theorem pure_apply (a : α) (s : σ) : (pure a : Proc σ ε α) s = (.ok a, s) := rfl

theorem bind_eq_ok {p : Proc σ ε α} {f : α → Proc σ ε β} {s s'' : σ} {b : β} :
    (p >>= f) s = (.ok b, s'') ↔ ∃ a s', p s = (.ok a, s') ∧ f a s' = (.ok b, s'') := by
  show andThen p f s = _ ↔ _
  unfold andThen
  constructor
  · intro h
    split at h
    · next a s' hp => exact ⟨a, s', hp, h⟩
    all_goals cases h
  · rintro ⟨a, s', hp, hf⟩
    rw [hp]
    exact hf

/-- What a procedure does to every state, however it ends. -/
def Always (R : σ → σ → Prop) (p : Proc σ ε α) : Prop := ∀ s, R s (p s).2

variable {R : σ → σ → Prop}

theorem Always.pure [Std.Refl R] (a : α) : Always R (pure a : Proc σ ε α) :=
  fun s => Std.Refl.refl s

theorem Always.fail [Std.Refl R] (e : ε) : Always R (fail e : Proc σ ε α) :=
  fun s => Std.Refl.refl s

theorem Always.bind [IsTrans σ R] {p : Proc σ ε α} {f : α → Proc σ ε β} (hp : Always R p)
    (hf : ∀ a, Always R (f a)) : Always R (p >>= f) := by
  intro s
  have hs := hp s
  show R s (andThen p f s).2
  unfold andThen
  split
  · next a s' h =>
    rw [h] at hs
    exact IsTrans.trans _ _ _ hs (hf a s')
  all_goals
    next h =>
      rw [h] at hs
      exact hs

end Proc
