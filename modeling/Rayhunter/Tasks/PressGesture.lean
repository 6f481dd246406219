import Mathlib.Data.List.DropRight
import Rayhunter.Lib.Mealy

/-!
# Several presses in quick succession

`PressGesture` of `daemon/src/wifi_ap.rs`. The presses that are remembered are those since the gesture
was last complete, without some that are out of the window and stay so (`Remembers`). A press
completes the gesture where enough of those since then are in the window (`press_completes_iff`).
-/

namespace Rayhunter

open Mealy

/-- `MIN_PRESSES` (`wifi_ap.rs:54`). -/
def MIN_PRESSES : Nat := 4

/-- `MAX_PRESSES` (`wifi_ap.rs:57`). -/
def MAX_PRESSES : Nat := 20

/-- `PressGesture` (`wifi_ap.rs:66`), with times in nanoseconds. -/
structure PressGesture where
  pressesRequired : Nat
  window : Nat
  recent : List Nat
  deriving DecidableEq, Repr

namespace PressGesture

/-- `new` (`wifi_ap.rs:73`). -/
def new (pressesRequired : UInt8) (window : Nat) : PressGesture where
  pressesRequired := min (max pressesRequired.toNat MIN_PRESSES) MAX_PRESSES
  window := window
  recent := []

/-- `press` (`wifi_ap.rs:86`). -/
def press (g : PressGesture) (now : Nat) : Bool × PressGesture :=
  let recent := g.recent.dropWhile (fun oldest => g.window < now - oldest) ++ [now]
  if g.pressesRequired ≤ recent.length then (true, { g with recent := [] })
  else (false, { g with recent })

/-- The presses since the one that completed the gesture last, of some and what was said to them. -/
def sinceComplete (presses : List (Nat × Bool)) : List Nat :=
  (presses.rtakeWhile (!·.2)).map (·.1)

/-- Some presses, with what was said to them. -/
def answered (g : PressGesture) (times : List Nat) : List (Nat × Bool) :=
  times.zip (answers press g times)

/-- What is remembered after some presses: those since the gesture was complete, but for some at the
beginning that are out of the window now and will be later. -/
def Remembers (g : PressGesture) (presses : List (Nat × Bool)) : Prop :=
  ∃ old, sinceComplete presses = old ++ g.recent ∧
    ∀ t ∈ old, ∀ now, (∀ p ∈ presses, p.1 ≤ now) → g.window < now - t

variable {g : PressGesture} {presses : List (Nat × Bool)} {now : Nat}

/-- The presses that are out of the window come before those that are in it. -/
theorem dropWhile_eq_filter {window : Nat} {recent : List Nat} (h : recent.Pairwise (· ≤ ·)) :
    recent.dropWhile (fun oldest => window < now - oldest) =
      recent.filter (fun oldest => now - oldest ≤ window) := by
  induction recent with
  | nil => rfl
  | cons t recent ih =>
    obtain ⟨hfirst, hrest⟩ := List.pairwise_cons.1 h
    by_cases hout : window < now - t
    · have hin : ¬now - t ≤ window := Nat.not_le.2 hout
      simp only [List.dropWhile_cons, List.filter_cons, hout, hin, decide_true, decide_false,
        if_true, Bool.false_eq_true, if_false]
      exact ih hrest
    · simp only [List.dropWhile_cons, hout, decide_false, Bool.false_eq_true, if_false]
      rw [eq_comm, List.filter_eq_self]
      intro s hs
      rw [decide_eq_true_eq]
      rcases List.mem_cons.1 hs with rfl | hs
      · omega
      · have := hfirst s hs
        omega

theorem sinceComplete_sublist (presses : List (Nat × Bool)) :
    (sinceComplete presses).Sublist (presses.map (·.1)) :=
  (List.rtakeWhile_suffix _ presses).sublist.map _

/-- **A press completes the gesture where enough of those since the last time are in the window.** -/
theorem Remembers.press_iff (h : g.Remembers presses) (now : Nat)
    (hsorted : (presses.map (·.1)).Pairwise (· ≤ ·)) (hnow : ∀ p ∈ presses, p.1 ≤ now) :
    (g.press now).1 = true ↔ g.pressesRequired ≤
      ((sinceComplete presses ++ [now]).filter fun t => now - t ≤ g.window).length := by
  obtain ⟨old, hsince, hold⟩ := h
  have hrecent : g.recent.Pairwise (· ≤ ·) := by
    have hall := hsorted.sublist (sinceComplete_sublist presses)
    rw [hsince] at hall
    exact hall.sublist (List.sublist_append_right old g.recent)
  have hforgotten : old.filter (fun t => now - t ≤ g.window) = [] := by
    rw [List.filter_eq_nil_iff]
    intro t ht
    rw [decide_eq_true_eq]
    exact Nat.not_le.2 (hold t ht now hnow)
  have hlast : [now].filter (fun t => now - t ≤ g.window) = [now] := by
    rw [List.filter_singleton, Nat.sub_self, decide_eq_true (Nat.zero_le _), cond_true]
  rw [hsince, List.filter_append, List.filter_append, hforgotten, hlast, List.nil_append,
    ← dropWhile_eq_filter hrecent, press]
  split
  next henough => exact iff_of_true rfl henough
  next hfew => exact iff_of_false Bool.false_ne_true hfew

/-- What is remembered after one more press. -/
theorem Remembers.press (h : g.Remembers presses) :
    (g.press now).2.Remembers (presses ++ [(now, (g.press now).1)]) := by
  obtain ⟨old, hsince, hold⟩ := h
  rw [PressGesture.press]
  split
  · exact ⟨[], by rw [sinceComplete, List.rtakeWhile_concat_neg _ _ _ (by simp)]; rfl, by simp⟩
  · refine ⟨old ++ g.recent.takeWhile (fun oldest => g.window < now - oldest), ?_, ?_⟩
    · rw [sinceComplete, List.rtakeWhile_concat_pos _ _ _ rfl, List.map_append,
        ← sinceComplete, hsince, List.append_assoc, List.append_assoc, ← List.append_assoc _ _ [now],
        List.takeWhile_append_dropWhile]
      rfl
    · intro t ht later hlater
      have hbefore : now ≤ later := hlater _ List.mem_concat_self
      rcases List.mem_append.1 ht with ht | ht
      · exact hold t ht later fun p hp => hlater p (List.mem_append_left _ hp)
      · have hout : decide (g.window < now - t) = true :=
          List.mem_takeWhile_imp (p := fun oldest => decide (g.window < now - oldest)) ht
        exact (of_decide_eq_true hout).trans_le (Nat.sub_le_sub_right hbefore t)

/-! ## Runs -/

theorem length_answers (g : PressGesture) (times : List Nat) :
    (answers press g times).length = times.length := by
  induction times generalizing g with
  | nil => rfl
  | cons now times ih => exact congrArg (· + 1) (ih _)

theorem answered_concat (g : PressGesture) (times : List Nat) (now : Nat) :
    answered g (times ++ [now]) = answered g times ++ [(now, ((after press g times).press now).1)] := by
  rw [answered, answers_append, List.zip_append (length_answers g times).symm]
  rfl

theorem map_fst_answered (g : PressGesture) (times : List Nat) :
    (answered g times).map (·.1) = times := by
  rw [answered, List.map_fst_zip (Nat.le_of_eq (length_answers g times).symm)]

theorem press_required (g : PressGesture) (now : Nat) :
    (g.press now).2.pressesRequired = g.pressesRequired ∧ (g.press now).2.window = g.window := by
  rw [press]
  split <;> exact ⟨rfl, rfl⟩

theorem after_required (g : PressGesture) (times : List Nat) :
    (after press g times).pressesRequired = g.pressesRequired ∧
      (after press g times).window = g.window := by
  refine after_invariant (P := fun s : PressGesture =>
    s.pressesRequired = g.pressesRequired ∧ s.window = g.window) ?_ ⟨rfl, rfl⟩
  rintro s now - ⟨hrequired, hwindow⟩
  obtain ⟨hrequired', hwindow'⟩ := press_required s now
  exact ⟨hrequired'.trans hrequired, hwindow'.trans hwindow⟩

theorem after_remembers (hnew : g.recent = []) (times : List Nat) :
    (after press g times).Remembers (answered g times) := by
  induction times using List.reverseRecOn with
  | nil => exact ⟨[], by rw [after_nil, hnew]; rfl, by simp⟩
  | append_singleton times now ih =>
    rw [after_append, answered_concat]
    exact ih.press

/-- **Presses complete the gesture.** In every sequence of presses in the order of time, one is
answered with true exactly where, of those since the last one that was and itself, at least as many
as are required lie no more than the window before it. -/
theorem press_completes_iff (pressesRequired : UInt8) (window : Nat) (before later : List Nat)
    (now : Nat) (hsorted : (before ++ now :: later).Pairwise (· ≤ ·)) :
    (answers press (new pressesRequired window) (before ++ now :: later))[before.length]? =
        some true ↔
      min (max pressesRequired.toNat MIN_PRESSES) MAX_PRESSES ≤
        ((sinceComplete (answered (new pressesRequired window) before) ++ [now]).filter
          fun t => now - t ≤ window).length := by
  obtain ⟨hbefore, -, hcross⟩ := List.pairwise_append.1 hsorted
  have hremembers := after_remembers (g := new pressesRequired window) rfl before
  obtain ⟨hrequired, hwindow⟩ := after_required (new pressesRequired window) before
  have hpress := hremembers.press_iff now
    (by rw [map_fst_answered]; exact hbefore)
    (fun p hp => hcross p.1 (map_fst_answered _ before ▸ List.mem_map_of_mem hp) now
      List.mem_cons_self)
  rw [hrequired, hwindow] at hpress
  rw [answers_append, List.getElem?_append_right (Nat.le_of_eq (length_answers _ before)),
    length_answers, Nat.sub_self, answers_cons, List.getElem?_cons_zero, Option.some.injEq]
  exact hpress

/-- Five presses, half a second apart, and five are required. -/
theorem press_completes_five :
    (answers press (new 5 4000000000)
      [0, 500000000, 1000000000, 1500000000, 2000000000])[4]? = some true :=
  (press_completes_iff 5 4000000000 [0, 500000000, 1000000000, 1500000000] [] 2000000000
    (by decide)).2 (by decide)

end PressGesture

end Rayhunter
