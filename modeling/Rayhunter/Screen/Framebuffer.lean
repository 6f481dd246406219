import Rayhunter.Lib.Raster

/-!
# Pictures on a panel

`image_to_buffer` (`daemon/src/display/generic_framebuffer.rs`) and the drivers that write what it
gives. The drivers write pixel after pixel, so that a row of the panel ends where the panel does;
the buffer's rows end where the picture's do.
-/

namespace Rayhunter.Framebuffer

/-- Red, green and blue, as a buffer for a panel has them. -/
structure Rgb where
  red : UInt8
  green : UInt8
  blue : UInt8
  deriving DecidableEq, Repr

/-- `Dimensions` (`generic_framebuffer.rs:35`). -/
structure Dimensions where
  height : Nat
  width : Nat
  deriving DecidableEq, Repr

/-- `MAX_GIF_DIMENSION` (`generic_framebuffer.rs:722`). -/
def MAX_GIF_DIMENSION : Nat := 512

/-- The `image` crate, as far as it is called on a decoded image: its sides, the pixels it has as
`to_rgb8`, and `resize`. `scaled` is the arithmetic of the last, `n * bound / side` to a whole
number. -/
class ImageCrate (ι : Type) where
  width : ι → Nat
  height : ι → Nat
  pixel : ι → Nat → Nat → Rgb
  resize : ι → Nat → Nat → ι
  scaled : Nat → Nat → Nat → Nat

section
variable {ι : Type} [ImageCrate ι]

open ImageCrate

/-- An image within the limit that uploads are held to. -/
structure InLimit (img : ι) : Prop where
  width_pos : 0 < width img
  width_le : width img ≤ MAX_GIF_DIMENSION
  height_pos : 0 < height img
  height_le : height img ≤ MAX_GIF_DIMENSION

variable (ι) in
/-- What the crate says of `resize`: the image keeps its aspect ratio and is as large as fits within
the bounds. One side is its bound, the other is in proportion to the nearest pixel, and neither is
less than one. -/
structure KeepsAspect : Prop where
  near : ∀ n bound side, 0 < side →
    2 * (n * bound) ≤ 2 * (scaled ι n bound side * side) + side ∧
      2 * (scaled ι n bound side * side) ≤ 2 * (n * bound) + side
  wide : ∀ (img : ι) w h, InLimit img → w * height img ≤ h * width img →
    width (resize img w h) = max 1 w ∧
      height (resize img w h) = max 1 (scaled ι (height img) w (width img))
  tall : ∀ (img : ι) w h, InLimit img → h * width img ≤ w * height img →
    width (resize img w h) = max 1 (scaled ι (width img) h (height img)) ∧
      height (resize img w h) = max 1 h

/-- The image that is shown: what does not fit is made smaller. -/
def fitted (d : Dimensions) (img : ι) : ι :=
  if d.height < height img ∨ d.width < width img then resize img d.width d.height else img

/-- `image_to_buffer` (`generic_framebuffer.rs:165`). -/
def imageToBuffer (d : Dimensions) (img : ι) : List Rgb :=
  if d.height < height img ∨ d.width < width img then
    let resized := resize img d.width d.height
    Raster.rows (min d.width (width resized)) (min d.height (height resized)) (pixel resized)
  else Raster.rows (width img) (height img) (pixel img)

/-- What the drivers make of a pixel, 5, 6 and 5 bits of it (`orbic.rs:165`). -/
def rgb565 (p : Rgb) : UInt16 :=
  ((p.red.toUInt16 &&& 0b11111000) <<< 8) ||| ((p.green.toUInt16 &&& 0b11111100) <<< 3) |||
    (p.blue.toUInt16 >>> 3)

/-- `write_buffer` (`orbic.rs:162`), each pixel in two bytes in the order the panel has. -/
def writeBuffer (buffer : List Rgb) : List UInt16 := buffer.map rgb565

/-- What is in a column of a row of the panel, of what was written from its start on. -/
def panel (d : Dimensions) (written : List UInt16) (x y : Nat) : Option UInt16 :=
  written[y * d.width + x]?

/-- That every pixel of the image that is shown is in its own column and row. -/
def Unskewed (d : Dimensions) (img : ι) : Prop :=
  ∀ x y, x < width (fitted d img) → y < height (fitted d img) →
    panel d (writeBuffer (imageToBuffer d img)) x y = some (rgb565 (pixel (fitted d img) x y))

/-- That the image has the panel's width once it is shown, or is one row: it has that width itself,
if it fits; else it is in proportion no taller than the panel, or so little that its width comes
to the panel's to the nearest pixel. -/
def FillsWidth (d : Dimensions) (img : ι) : Prop :=
  if d.height < height img ∨ d.width < width img then
    0 < d.width ∧ 0 < d.height ∧
      (d.width * height img ≤ d.height * width img ∨
        max 1 (scaled ι (width img) d.height (height img)) = d.width ∨ d.height = 1)
  else d.width = width img ∨ height img = 1

/-! ## The resized image -/

namespace KeepsAspect

variable (hk : KeepsAspect ι) {d : Dimensions} {img : ι}
include hk

/-- A side in proportion to one that is cut short is no longer than its bound. -/
theorem scaled_le {n bound side m : Nat} (hside : 0 < side) (hle : n * bound ≤ m * side) :
    scaled ι n bound side ≤ m := by
  have hnear := (hk.near n bound side hside).2
  by_contra hlt
  have hmore := Nat.mul_le_mul_right side (Nat.succ_le_of_lt (Nat.lt_of_not_le hlt))
  rw [Nat.succ_mul] at hmore
  omega

theorem width_le (hl : InLimit img) (hw : 0 < d.width) :
    width (resize img d.width d.height) ≤ d.width := by
  obtain h | h := Nat.le_total (d.width * height img) (d.height * width img)
  · rw [(hk.wide img _ _ hl h).1]
    exact Nat.max_le.2 ⟨hw, Nat.le_refl _⟩
  · rw [(hk.tall img _ _ hl h).1]
    exact Nat.max_le.2 ⟨hw, hk.scaled_le hl.height_pos (by rwa [Nat.mul_comm])⟩

theorem height_le (hl : InLimit img) (hh : 0 < d.height) :
    height (resize img d.width d.height) ≤ d.height := by
  obtain h | h := Nat.le_total (d.width * height img) (d.height * width img)
  · rw [(hk.wide img _ _ hl h).2]
    exact Nat.max_le.2 ⟨hh, hk.scaled_le hl.width_pos (by rwa [Nat.mul_comm])⟩
  · rw [(hk.tall img _ _ hl h).2]
    exact Nat.max_le.2 ⟨hh, Nat.le_refl _⟩

theorem one_le (hl : InLimit img) :
    1 ≤ width (resize img d.width d.height) ∧ 1 ≤ height (resize img d.width d.height) := by
  obtain h | h := Nat.le_total (d.width * height img) (d.height * width img)
  · rw [(hk.wide img _ _ hl h).1, (hk.wide img _ _ hl h).2]
    exact ⟨Nat.le_max_left _ _, Nat.le_max_left _ _⟩
  · rw [(hk.tall img _ _ hl h).1, (hk.tall img _ _ hl h).2]
    exact ⟨Nat.le_max_left _ _, Nat.le_max_left _ _⟩

end KeepsAspect

/-! ## What is on the panel -/

/-- A buffer of a picture's rows has its pixels in their places exactly where its rows are the
panel's, or it is one row. -/
theorem panel_rows_iff {d : Dimensions} {w h : Nat} {f : Nat → Nat → Rgb} (hw : 0 < w)
    (hle : w ≤ d.width) :
    (∀ x y, x < w → y < h →
      panel d (writeBuffer (Raster.rows w h f)) x y = some (rgb565 (f x y))) ↔
      d.width = w ∨ h ≤ 1 := by
  rw [writeBuffer, Raster.map_rows]
  exact Raster.rows_stride_iff hw hle

/-- **An image is shown unskewed exactly where it comes to the panel's width**, or is one row. -/
theorem unskewed_iff (hk : KeepsAspect ι) (d : Dimensions) (img : ι) (hl : InLimit img) :
    Unskewed d img ↔ FillsWidth d img := by
  unfold Unskewed FillsWidth imageToBuffer fitted
  by_cases hlarge : d.height < height img ∨ d.width < width img
  · simp only [if_pos hlarge]
    obtain ⟨hw, hh⟩ := hk.one_le (d := d) hl
    by_cases hpanel : 0 < d.width ∧ 0 < d.height
    · have hwle := hk.width_le hl hpanel.1
      have hhle := hk.height_le hl hpanel.2
      rw [Nat.min_eq_right hwle, Nat.min_eq_right hhle, panel_rows_iff hw hwle]
      by_cases hwide : d.width * height img ≤ d.height * width img
      · rw [(hk.wide img _ _ hl hwide).1]
        exact iff_of_true (.inl (Nat.max_eq_right hpanel.1).symm) ⟨hpanel.1, hpanel.2, .inl hwide⟩
      · have htall := hk.tall img d.width d.height hl (Nat.le_of_not_le hwide)
        rw [htall.1, htall.2, Nat.max_eq_right hpanel.2, eq_comm (a := d.width)]
        constructor
        · rintro (hwidth | hrow)
          · exact ⟨hpanel.1, hpanel.2, .inr (.inl hwidth)⟩
          · exact ⟨hpanel.1, hpanel.2, .inr (.inr (Nat.le_antisymm hrow hpanel.2))⟩
        · rintro ⟨-, -, hle | hwidth | hrow⟩
          · exact absurd hle hwide
          · exact .inl hwidth
          · exact .inr (Nat.le_of_eq hrow)
    · -- a panel without pixels shows none
      refine iff_of_false (fun hall => ?_) fun h => hpanel ⟨h.1, h.2.1⟩
      have hnone : Raster.rows (min d.width (width (resize img d.width d.height)))
          (min d.height (height (resize img d.width d.height)))
          (pixel (resize img d.width d.height)) = [] := by
        rw [← List.length_eq_zero_iff, Raster.length_rows, Nat.mul_eq_zero]
        omega
      have hfirst := hall 0 0 hw hh
      rw [hnone] at hfirst
      cases hfirst
  · simp only [if_neg hlarge]
    rw [panel_rows_iff hl.width_pos (by omega)]
    have hpos := hl.height_pos
    omega

end

/-! ## Plain images -/

/-- An image of one colour. -/
structure Plain where
  width : Nat
  height : Nat
  colour : Rgb
  deriving DecidableEq

/-- `a / b` to the nearest whole number, a half up. -/
def nearest (a b : Nat) : Nat := (2 * a + b) / (2 * b)

/-- The crate on images of one colour, which no filter changes. -/
instance : ImageCrate Plain where
  width := Plain.width
  height := Plain.height
  pixel img _ _ := img.colour
  resize img w h :=
    if w * img.height ≤ h * img.width then
      ⟨max 1 w, max 1 (nearest (img.height * w) img.width), img.colour⟩
    else ⟨max 1 (nearest (img.width * h) img.height), max 1 h, img.colour⟩
  scaled n bound side := nearest (n * bound) side

theorem near_nearest (a : Nat) {b : Nat} (hb : 0 < b) :
    2 * a ≤ 2 * (nearest a b * b) + b ∧ 2 * (nearest a b * b) ≤ 2 * a + b := by
  have hsplit := Nat.div_add_mod (2 * a + b) (2 * b)
  have hmod := Nat.mod_lt (2 * a + b) (show 0 < 2 * b by omega)
  have hdouble : 2 * b * nearest a b = 2 * (nearest a b * b) := by
    rw [Nat.mul_assoc, Nat.mul_comm b]
  rw [← nearest, hdouble] at hsplit
  omega

theorem nearest_mul (a : Nat) {b : Nat} (hb : 0 < b) : nearest (a * b) b = a := by
  have hnear := near_nearest (a * b) hb
  refine Nat.le_antisymm ?_ ?_
  · by_contra hlt
    have hmore := Nat.mul_le_mul_right b (Nat.succ_le_of_lt (Nat.lt_of_not_le hlt))
    rw [Nat.succ_mul] at hmore
    omega
  · by_contra hlt
    have hmore := Nat.mul_le_mul_right b (Nat.succ_le_of_lt (Nat.lt_of_not_le hlt))
    rw [Nat.succ_mul] at hmore
    omega

theorem keepsAspect_plain : KeepsAspect Plain where
  near n bound side := near_nearest (n * bound)
  wide img w h _ hwide := by
    unfold ImageCrate.resize ImageCrate.width ImageCrate.height instImageCratePlain at *
    simp only [if_pos hwide, and_self]
  tall img w h hl htall := by
    have hwpos := hl.width_pos
    have hhpos := hl.height_pos
    unfold ImageCrate.resize ImageCrate.width ImageCrate.height ImageCrate.scaled
      instImageCratePlain at *
    by_cases hwide : w * img.height ≤ h * img.width
    · -- in the panel's own proportions
      have heq := Nat.le_antisymm hwide htall
      have hwidth : nearest (img.width * h) img.height = w := by
        rw [Nat.mul_comm, ← heq, nearest_mul w hhpos]
      have hheight : nearest (img.height * w) img.width = h := by
        rw [Nat.mul_comm, heq, nearest_mul h hwpos]
      simp only [if_pos hwide, hwidth, hheight, and_self]
    · simp only [if_neg hwide, and_self]

/-- The screens that are 128 pixels square. -/
def square : Dimensions := ⟨128, 128⟩

/-- A picture of twice a screen's sides is shown as it is. -/
theorem unskewed_iff_twice : Unskewed square (⟨256, 256, ⟨0xff, 0, 0⟩⟩ : Plain) := by
  refine (unskewed_iff keepsAspect_plain square _
    ⟨by decide, by decide, by decide, by decide⟩).2 ?_
  rw [FillsWidth, if_pos (by decide)]
  exact ⟨by decide, by decide, .inl (by decide)⟩

/-- A picture of half a screen's sides is written in the upper quarter of the screen, two of its
rows to each of the panel's, and its last pixel is not where it should be. -/
theorem not_unskewed_half : ¬Unskewed square (⟨64, 64, ⟨0xff, 0, 0⟩⟩ : Plain) := by
  have hfits : ¬(square.height < 64 ∨ square.width < 64) := by decide
  intro h
  unfold Unskewed imageToBuffer fitted at h
  simp only [ImageCrate.width, ImageCrate.height, if_neg hfits] at h
  have hwidth := (panel_rows_iff (by decide) (by decide)).1 h
  exact absurd hwidth (by decide)

end Rayhunter.Framebuffer
