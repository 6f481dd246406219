import Mathlib.Logic.Basic
import Mathlib.Data.List.Basic
import Mathlib.Order.WellFounded

/-!
# Guarded runs of a step function

A system is a set of initial states and a partial step function on inputs: `step s i = none` is an
input that ends the run. `Reach init step ok` holds of the states a run visits when every step it
takes satisfies `ok` in the state it is taken in, so one definition serves a system under every
assumption about its inputs. `Reach.invariant` is the induction on such a run, and
`Reach.invariant_with` the same where an invariant already proved may be used.
-/

namespace Runs

universe u v
variable {σ : Type u} {ι : Type v}

/-- The states visited by the runs from `init` whose steps all satisfy `ok`. -/
inductive Reach (init : σ → Prop) (step : σ → ι → Option σ) (ok : σ → ι → Prop) : σ → Prop
  | init {s : σ} : init s → Reach init step ok s
  | step {s s' : σ} {i : ι} : Reach init step ok s → ok s i → step s i = some s' →
      Reach init step ok s'

variable {init : σ → Prop} {step : σ → ι → Option σ} {ok : σ → ι → Prop}

/-- What holds initially and is kept by every allowed step holds in every state of a run. -/
theorem Reach.invariant {Inv : σ → Prop} (h₀ : ∀ s, init s → Inv s)
    (hs : ∀ s i s', Inv s → ok s i → step s i = some s' → Inv s') {s : σ}
    (h : Reach init step ok s) : Inv s := by
  induction h with
  | init h => exact h₀ _ h
  | step _ hok hst ih => exact hs _ _ _ ih hok hst

/-- The induction of `Reach.invariant`, with an invariant `J` of the same runs at hand. -/
theorem Reach.invariant_with {J Inv : σ → Prop} (hJ : ∀ s, Reach init step ok s → J s)
    (h₀ : ∀ s, init s → Inv s)
    (hs : ∀ s i s', J s → Inv s → ok s i → step s i = some s' → Inv s') {s : σ}
    (h : Reach init step ok s) : Inv s := by
  induction h with
  | init h => exact h₀ _ h
  | step hr hok hst ih => exact hs _ _ _ (hJ _ hr) ih hok hst

/-- A run is one of another kind if each of its steps is. -/
theorem Reach.strengthen {ok' : σ → ι → Prop}
    (hok : ∀ s i, Reach init step ok s → ok s i → ok' s i) {s : σ} (h : Reach init step ok s) :
    Reach init step ok' s := by
  induction h with
  | init h => exact .init h
  | step hr hi hst ih => exact .step ih (hok _ _ hr hi) hst

/-- Some inputs, each of which leads to a step, make a run. -/
theorem Reach.of_foldlM {s s' : σ} {is : List ι} (h : Reach init step (fun _ _ => True) s)
    (hs : is.foldlM step s = some s') : Reach init step (fun _ _ => True) s' := by
  induction is generalizing s with
  | nil => cases hs; exact h
  | cons i is ih =>
    rw [List.foldlM_cons] at hs
    obtain ⟨s₁, hs₁, hrest⟩ := Option.bind_eq_some_iff.1 hs
    exact ih (h.step trivial hs₁) hrest

/-- So do some inputs that are allowed where they are taken. -/
theorem Reach.of_foldlM_guarded [∀ s i, Decidable (ok s i)] {s s' : σ} {is : List ι}
    (h : Reach init step ok s)
    (hs : is.foldlM (fun s i => if ok s i then step s i else none) s = some s') :
    Reach init step ok s' := by
  induction is generalizing s with
  | nil => cases hs; exact h
  | cons i is ih =>
    rw [List.foldlM_cons] at hs
    obtain ⟨s₁, hs₁, hrest⟩ := Option.bind_eq_some_iff.1 hs
    split at hs₁
    · next hok => exact ih (h.step hok hs₁) hrest
    · cases hs₁

/-- A run is seen as one of another system if each of its steps is seen as a step of that, or as
none. -/
theorem Reach.simulate {τ κ : Type*} {init' : τ → Prop} {step' : τ → κ → Option τ}
    {ok' : τ → κ → Prop} (f : σ → τ) (hinit : ∀ s, init s → init' (f s))
    (hstep : ∀ s i s', ok s i → step s i = some s' →
      f s' = f s ∨ ∃ k, ok' (f s) k ∧ step' (f s) k = some (f s')) {s : σ}
    (h : Reach init step ok s) : Reach init' step' ok' (f s) := by
  induction h with
  | init h => exact .init (hinit _ h)
  | step _ hok hst ih =>
    rcases hstep _ _ _ hok hst with heq | ⟨k, hk, hst'⟩
    · rwa [heq]
    · exact ih.step hk hst'

/-! ## The steps of a run -/

/-- The steps a run takes, each with the states before and after it. The run ends at an input that
is not taken. -/
def transitions (step : σ → ι → Option σ) (s : σ) : List ι → List (σ × ι × σ)
  | [] => []
  | i :: is =>
    match step s i with
    | none => []
    | some s' => (s, i, s') :: transitions step s' is

/-- Where an invariant is kept by the steps that do what they should, and a step from a state with
the invariant does what it should exactly where it is allowed, so do all steps of a run. -/
theorem forall_transitions_iff {Good : σ → ι → σ → Prop} (Inv : σ → Prop)
    (hinv : ∀ s i s', Inv s → step s i = some s' → Good s i s' → Inv s')
    (hgood : ∀ s i s', Inv s → step s i = some s' → (Good s i s' ↔ ok s i)) {s : σ} (h : Inv s)
    (is : List ι) : (∀ t ∈ transitions step s is, Good t.1 t.2.1 t.2.2) ↔
      ∀ t ∈ transitions step s is, ok t.1 t.2.1 := by
  induction is generalizing s with
  | nil => simp [transitions]
  | cons i is ih =>
    rw [transitions]
    cases hs : step s i with
    | none => simp
    | some s' =>
      simp only [List.forall_mem_cons, hgood s i s' h hs]
      constructor
      · rintro ⟨hok, hrest⟩
        exact ⟨hok, (ih (hinv s i s' h hs ((hgood s i s' h hs).2 hok))).1 hrest⟩
      · rintro ⟨hok, hrest⟩
        exact ⟨hok, (ih (hinv s i s' h hs ((hgood s i s' h hs).2 hok))).2 hrest⟩

/-! ## What is bound to happen -/

/-- However allowed steps go on from a state, they come to one with `P`: as long as they have not,
there is something to do. -/
inductive Inevitable (step : σ → ι → Option σ) (ok : σ → ι → Prop) (P : σ → Prop) : σ → Prop
  | now {s : σ} : P s → Inevitable step ok P s
  | later {s : σ} : (∃ i s', step s i = some s') →
      (∀ i s', ok s i → step s i = some s' → Inevitable step ok P s') → Inevitable step ok P s

/-- It is found where an invariant of the allowed steps leaves only states with `P` nothing to do,
and every such step goes down in a rank. -/
theorem Inevitable.of_rank {α : Type*} [LT α] [WellFoundedLT α] {P : σ → Prop} (Inv : σ → Prop)
    (rank : σ → α)
    (hinv : ∀ s i s', Inv s → ok s i → step s i = some s' → Inv s' ∧ rank s' < rank s)
    (hgo : ∀ s, Inv s → P s ∨ ∃ i s', step s i = some s') {s : σ} (h : Inv s) :
    Inevitable step ok P s := by
  induction hn : rank s using WellFoundedLT.induction generalizing s with
  | ind n ih =>
    subst hn
    rcases hgo s h with hp | hstep
    · exact .now hp
    · refine .later hstep fun i s' hok hs => ?_
      obtain ⟨hs', hlt⟩ := hinv s i s' h hok hs
      exact ih _ hlt hs' rfl

end Runs
