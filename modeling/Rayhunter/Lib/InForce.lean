import Mathlib.Data.List.Induction

/-!
# A value in force, and what has come since it changed

Some of the messages of a stream announce a value, which is in force until another is announced.
`ChangesTo` are the positions at which a value comes into force, and `SinceChange` holds of a
position after the last of them. Where the value in force at a position is announced again and no
other is, the position stays such (`SinceChange.append`), and where no other than the one in force
at a position is announced after it, it is such (`sinceChange_of_quiet`).
-/

namespace InForce

universe u v
variable {α : Type u} {κ : Type v} (f : α → Option κ)

/-- The value announced last. -/
def inForce (xs : List α) : Option κ := (xs.filterMap f).getLast?

/-- The message at a position announces a value that is not in force. -/
def ChangesTo (xs : List α) (c : κ) (j : Nat) : Prop :=
  xs[j]?.bind f = some c ∧ inForce f (xs.take j) ≠ some c

/-- A position is after the latest change to a value. -/
def SinceChange (xs : List α) (c : κ) (i : Nat) : Prop :=
  (∃ j, ChangesTo f xs c j) ∧ ∀ j, ChangesTo f xs c j → j < i

variable {f}

@[simp] theorem inForce_nil : inForce f [] = none := rfl

theorem inForce_append (xs ys : List α) : inForce f (xs ++ ys) = (inForce f ys).or (inForce f xs) := by
  rw [inForce, List.filterMap_append, List.getLast?_append]
  rfl

theorem inForce_singleton (a : α) : inForce f [a] = f a := by
  cases h : f a <;> simp [inForce, h]

/-- Announcing one value only leaves it in force. -/
theorem inForce_append_of_forall {xs ys : List α} {c : κ} (hxs : inForce f xs = some c)
    (hys : ∀ d ∈ ys.filterMap f, d = c) : inForce f (xs ++ ys) = some c := by
  rw [inForce_append, hxs]
  cases h : inForce f ys with
  | none => rfl
  | some d => rw [hys d (List.mem_of_getLast? h), Option.some_or]

theorem changesTo_lt {xs : List α} {c : κ} {j : Nat} (h : ChangesTo f xs c j) : j < xs.length := by
  by_contra hge
  have hj := h.1
  rw [List.getElem?_eq_none (Nat.le_of_not_lt hge)] at hj
  cases hj

/-- What comes later changes nothing about the positions before it. -/
theorem changesTo_append {xs ys : List α} {c : κ} {j : Nat} (hj : j < xs.length) :
    ChangesTo f (xs ++ ys) c j ↔ ChangesTo f xs c j := by
  rw [ChangesTo, List.getElem?_append_left hj, List.take_append_of_le_length (Nat.le_of_lt hj),
    ChangesTo]

/-- A value that is in force came into force at some position. -/
theorem exists_changesTo {xs : List α} {c : κ} (h : inForce f xs = some c) :
    ∃ j, ChangesTo f xs c j := by
  induction xs using List.reverseRecOn with
  | nil => cases h
  | append_singleton xs a ih =>
    by_cases hxs : inForce f xs = some c
    · obtain ⟨j, hj⟩ := ih hxs
      exact ⟨j, (changesTo_append (changesTo_lt hj)).2 hj⟩
    · refine ⟨xs.length, ?_, by rwa [List.take_left]⟩
      rw [inForce_append, inForce_singleton] at h
      rw [List.getElem?_concat_length, Option.bind_some]
      cases ha : f a with
      | none => exact absurd (by rwa [ha] at h) hxs
      | some d => rwa [ha, Option.some_or] at h

/-- Where a value is in force and no other is announced, it does not come into force again. -/
theorem not_changesTo_of_quiet {xs ys : List α} {c : κ} {j : Nat} (hxs : inForce f xs = some c)
    (hys : ∀ d ∈ ys.filterMap f, d = c) (hj : xs.length ≤ j) : ¬ ChangesTo f (xs ++ ys) c j := by
  rintro ⟨-, hne⟩
  rw [List.take_append, List.take_of_length_le hj] at hne
  exact hne (inForce_append_of_forall hxs fun d hd =>
    hys d (((List.take_sublist _ ys).filterMap f).subset hd))

/-- A position after the latest change to the value in force stays so while no other is announced.
-/
theorem SinceChange.append {xs ys : List α} {c : κ} {i : Nat} (h : SinceChange f xs c i)
    (hxs : inForce f xs = some c) (hys : ∀ d ∈ ys.filterMap f, d = c) :
    SinceChange f (xs ++ ys) c i := by
  obtain ⟨⟨j, hj⟩, hlast⟩ := h
  refine ⟨⟨j, (changesTo_append (changesTo_lt hj)).2 hj⟩, fun k hk => ?_⟩
  rcases Nat.lt_or_ge k xs.length with hlt | hge
  · exact hlast k ((changesTo_append hlt).1 hk)
  · exact absurd hk (not_changesTo_of_quiet hxs hys hge)

/-- So is the end of a stream in which a value is in force, while no other is announced after it. -/
theorem sinceChange_of_quiet {xs ys : List α} {c : κ} (hxs : inForce f xs = some c)
    (hys : ∀ d ∈ ys.filterMap f, d = c) : SinceChange f (xs ++ ys) c xs.length :=
  SinceChange.append ⟨exists_changesTo hxs, fun _ hj => changesTo_lt hj⟩ hxs hys

/-- If no value but the one in force is announced after a position, it is after the latest change to
the value that is in force in the end. -/
theorem sinceChange_of_inForce {xs ys : List α} {c : κ} (h : inForce f (xs ++ ys) = some c)
    (hys : ∀ d ∈ ys.filterMap f, inForce f xs = some d) : SinceChange f (xs ++ ys) c xs.length := by
  have hxs : inForce f xs = some c := by
    rw [inForce_append] at h
    cases hl : inForce f ys with
    | none => rwa [hl] at h
    | some d =>
      rw [hl, Option.some_or] at h
      rw [hys d (List.mem_of_getLast? hl), h]
  exact sinceChange_of_quiet hxs fun d hd => Option.some.inj ((hys d hd).symm.trans hxs)

/-! ## What is found, and where -/

section
variable {β : Type*} (g : α → Option β)

/-- What is found in some messages, each with the position it is found at. -/
def found (xs : List α) : List (Nat × β) := xs.zipIdx.filterMap fun (a, i) => (g a).map (i, ·)

variable {g}

/-- It is found where it is. -/
theorem mem_found {k : Nat} {b : β} {xs : List α} (h : (k, b) ∈ found g xs) :
    k < xs.length ∧ xs[k]?.bind g = some b := by
  obtain ⟨⟨a, j⟩, hmem, hsome⟩ := List.mem_filterMap.1 h
  obtain ⟨b', hb', hpair⟩ := Option.map_eq_some_iff.1 hsome
  cases hpair
  have ha := List.mem_zipIdx_iff_getElem?.1 hmem
  refine ⟨?_, by rw [ha, Option.bind_some, hb']⟩
  exact (List.getElem?_eq_some_iff.1 ha).1

/-- All of it is found, in order. -/
theorem found_map_snd (xs : List α) : (found g xs).map (·.2) = xs.filterMap g := by
  have hpairs : (found g xs).map (·.2) = xs.zipIdx.filterMap (g ∘ Prod.fst) := by
    rw [found, List.map_filterMap]
    refine congrArg (List.filterMap · xs.zipIdx) (funext fun ⟨a, i⟩ => ?_)
    change ((g a).map (i, ·)).map (·.2) = g a
    cases g a <;> rfl
  rw [hpairs, ← List.filterMap_map, List.zipIdx_map_fst]

end

end InForce
