import Mathlib.Data.List.Basic

/-!
# Pictures row after row

`rows w h f` is the picture of `h` rows of `w` pixels in which the pixel in column `x` of row `y` is
`f x y`, from the top and from the left. What is `stride` pixels a row to a reader finds every pixel
of it in its place exactly where that is the picture's own width or there is no second row
(`rows_stride_iff`).

`Paints w h a step S` says of a step on pictures that it succeeds and that `a` is then at the pixels
in `S` and what was there at the others. One pixel is painted by `set?`, and what one step paints
and another paints after it is in one set or in the other (`Paints.foldlM`).
-/

namespace Raster

variable {α : Type*} {w h : Nat} {f : Nat → Nat → α}

/-- The pixels of a picture, row after row. -/
def rows (w h : Nat) (f : Nat → Nat → α) : List α :=
  (List.range h).flatMap fun y => (List.range w).map fun x => f x y

theorem rows_succ : rows w (h + 1) f = rows w h f ++ (List.range w).map fun x => f x h := by
  simp [rows, List.range_succ]

@[simp] theorem length_rows : (rows w h f).length = h * w := by
  induction h with
  | zero => simp [rows]
  | succ h ih => rw [rows_succ, List.length_append, ih, Nat.succ_mul]; simp

theorem map_rows {β : Type*} (g : α → β) : (rows w h f).map g = rows w h fun x y => g (f x y) := by
  simp only [rows, List.map_flatMap, List.map_map, Function.comp_def]

/-- Where a pixel is. -/
theorem index_lt {x y : Nat} (hx : x < w) (hy : y < h) : y * w + x < h * w :=
  calc y * w + x < y * w + w := Nat.add_lt_add_left hx _
    _ = (y + 1) * w := (Nat.succ_mul y w).symm
    _ ≤ h * w := Nat.mul_le_mul_right w hy

/-- No two pixels are in one place. -/
theorem index_inj {x y x' y' : Nat} (hx : x < w) (hx' : x' < w) :
    y * w + x = y' * w + x' ↔ x = x' ∧ y = y' := by
  constructor
  · intro heq
    have hcol := congrArg (· % w) heq
    simp only [Nat.mul_add_mod_of_lt hx, Nat.mul_add_mod_of_lt hx'] at hcol
    subst hcol
    exact ⟨rfl, Nat.eq_of_mul_eq_mul_right (Nat.zero_lt_of_lt hx) (Nat.add_right_cancel heq)⟩
  · rintro ⟨rfl, rfl⟩
    rfl

/-- A place in a row is in no other. -/
theorem row_eq {x y y' : Nat} (hx : x < w) (hle : y' * w ≤ y * w + x)
    (hlt : y * w + x < y' * w + w) : y' = y := by
  obtain ⟨x', hx'⟩ := Nat.exists_eq_add_of_le hle
  have hlt' : x' < w := by omega
  exact ((index_inj hx hlt').1 hx').2.symm

theorem getElem?_rows {x y : Nat} (hx : x < w) (hy : y < h) :
    (rows w h f)[y * w + x]? = some (f x y) := by
  induction h with
  | zero => cases hy
  | succ h ih =>
    rw [rows_succ]
    obtain hlt | rfl := Nat.lt_succ_iff_lt_or_eq.1 hy
    · rw [List.getElem?_append_left (length_rows.symm ▸ index_lt hx hlt), ih hlt]
    · rw [List.getElem?_append_right (by rw [length_rows]; exact Nat.le_add_right _ _), length_rows,
        Nat.add_sub_cancel_left, List.getElem?_map, List.getElem?_range hx]
      rfl

/-- **A picture is read as it is exactly where it is read at its own width**, or has no second
row. -/
theorem rows_stride_iff {stride : Nat} (hw : 0 < w) (hle : w ≤ stride) :
    (∀ x y, x < w → y < h → (rows w h f)[y * stride + x]? = some (f x y)) ↔
      stride = w ∨ h ≤ 1 := by
  constructor
  · intro hall
    by_contra hnot
    obtain ⟨hstride, hrows⟩ := not_or.1 hnot
    -- the last pixel is looked for beyond the end
    obtain ⟨k, rfl⟩ : ∃ k, h = k + 2 := ⟨h - 2, by omega⟩
    have hlast := hall (w - 1) (k + 1) (Nat.sub_one_lt_of_lt hw) (Nat.lt_succ_self _)
    have hbeyond : (k + 2) * w ≤ (k + 1) * stride + (w - 1) := by
      have hmore := Nat.mul_le_mul_left (k + 1) (show w + 1 ≤ stride by omega)
      rw [Nat.mul_succ] at hmore
      rw [Nat.succ_mul]
      omega
    rw [List.getElem?_eq_none (length_rows.symm ▸ hbeyond)] at hlast
    cases hlast
  · rintro (rfl | hrows) x y hx hy
    · exact getElem?_rows hx hy
    · obtain rfl : y = 0 := by omega
      have hfirst := getElem?_rows (f := f) hx hy
      rwa [Nat.zero_mul] at hfirst ⊢

/-! ## Painting -/

/-- Writes an element of a list, if it has it. -/
def set? (l : List α) (i : Nat) (a : α) : Option (List α) :=
  if i < l.length then some (l.set i a) else none

/-- The columns and rows of a rectangle, from `x₀` to before `x₁` and from `y₀` to before `y₁`, row
after row. -/
def rectangle (x₀ x₁ y₀ y₁ : Nat) : List (Nat × Nat) :=
  (List.range' y₀ (y₁ - y₀)).flatMap fun y => (List.range' x₀ (x₁ - x₀)).map fun x => (x, y)

theorem mem_rectangle {x₀ x₁ y₀ y₁ x y : Nat} :
    (x, y) ∈ rectangle x₀ x₁ y₀ y₁ ↔ (x₀ ≤ x ∧ x < x₁) ∧ y₀ ≤ y ∧ y < y₁ := by
  simp only [rectangle, List.mem_flatMap, List.mem_map, List.mem_range'_1, Prod.mk.injEq]
  constructor
  · rintro ⟨y', hy, x', hx, rfl, rfl⟩
    omega
  · intro h
    exact ⟨y, by omega, x, by omega, rfl, rfl⟩

/-- That a step paints these pixels of a picture of `h` rows of `w`, and no others. -/
def Paints (w h : Nat) (a : α) (step : List α → Option (List α)) (S : Nat → Nat → Prop) : Prop :=
  ∀ l : List α, l.length = h * w → ∃ l', step l = some l' ∧ l'.length = h * w ∧
    ∀ x y, x < w → y < h →
      (S x y → l'[y * w + x]? = some a) ∧ (¬S x y → l'[y * w + x]? = l[y * w + x]?)

namespace Paints

variable {a : α} {step step' : List α → Option (List α)} {S T : Nat → Nat → Prop}

theorem nothing : Paints w h a some fun _ _ => False :=
  fun l hl => ⟨l, rfl, hl, fun _ _ _ _ => ⟨False.elim, fun _ => rfl⟩⟩

theorem set? {x₀ y₀ : Nat} (hx₀ : x₀ < w) (hy₀ : y₀ < h) :
    Paints w h a (fun l => Raster.set? l (y₀ * w + x₀) a) fun x y => x = x₀ ∧ y = y₀ := by
  intro l hl
  have hlt : y₀ * w + x₀ < l.length := hl ▸ index_lt hx₀ hy₀
  refine ⟨l.set (y₀ * w + x₀) a, if_pos hlt, by rw [List.length_set, hl], ?_⟩
  intro x y hx hy
  constructor
  · rintro ⟨rfl, rfl⟩
    exact List.getElem?_set_self hlt
  · intro hne
    exact List.getElem?_set_ne fun heq => hne ((index_inj hx hx₀).1 heq.symm)

theorem mono (h₁ : Paints w h a step S) (hst : ∀ x y, x < w → y < h → (S x y ↔ T x y)) :
    Paints w h a step T := by
  intro l hl
  obtain ⟨l', hstep, hl', hpixel⟩ := h₁ l hl
  refine ⟨l', hstep, hl', fun x y hx hy => ?_⟩
  rw [← hst x y hx hy]
  exact hpixel x y hx hy

/-- What a step paints and the next one does. -/
theorem bind (h₁ : Paints w h a step S) (h₂ : Paints w h a step' T) :
    Paints w h a (fun l => (step l).bind step') fun x y => S x y ∨ T x y := by
  intro l hl
  obtain ⟨l', hstep, hl', hpixel⟩ := h₁ l hl
  obtain ⟨l'', hstep', hl'', hpixel'⟩ := h₂ l' hl'
  refine ⟨l'', Option.bind_eq_some_iff.2 ⟨l', hstep, hstep'⟩, hl'', fun x y hx hy => ⟨?_, ?_⟩⟩
  · intro hst
    by_cases ht : T x y
    · exact (hpixel' x y hx hy).1 ht
    · rw [(hpixel' x y hx hy).2 ht]
      exact (hpixel x y hx hy).1 (hst.resolve_right ht)
  · intro hnot
    rw [(hpixel' x y hx hy).2 fun ht => hnot (.inr ht)]
    exact (hpixel x y hx hy).2 fun hs => hnot (.inl hs)

/-- A loop paints what its turns do. -/
theorem foldlM {β : Type*} {turn : List α → β → Option (List α)} {S : β → Nat → Nat → Prop} :
    ∀ {bs : List β}, (∀ b ∈ bs, Paints w h a (turn · b) (S b)) →
      Paints w h a (bs.foldlM turn) fun x y => ∃ b ∈ bs, S b x y
  | [], _ => nothing.mono fun _ _ _ _ => by simp
  | b :: bs, hturn => by
    have hfirst := hturn b List.mem_cons_self
    have hrest := foldlM fun c hc => hturn c (List.mem_cons_of_mem b hc)
    exact (hfirst.bind hrest).mono fun x y _ _ => by simp

end Paints

end Raster
