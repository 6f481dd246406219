import Rayhunter.Lib.Hex
import Rayhunter.Recorder.Task
import Rayhunter.Screen.QrCode
import Rayhunter.Settings.Request

/-!
# The status line

What a display state looks like (`daemon/src/display/generic_framebuffer.rs`): its colour and its
pattern, as rows at the top of the panel, with a strip of text under them when there is one.
-/

namespace Rayhunter.Framebuffer

/-- `Color` (`generic_framebuffer.rs:49`). -/
inductive Color
  | red
  | green
  | blue
  | white
  | black
  | cyan
  | yellow
  | pink
  | orange
  | rgb (r g b : UInt8)
  deriving DecidableEq, Repr

/-- `Color::rgb` (`generic_framebuffer.rs:66`). -/
def Color.toRgb : Color → Rgb
  | red => ⟨0xff, 0, 0⟩
  | green => ⟨0, 0xff, 0⟩
  | blue => ⟨0, 0, 0xff⟩
  | white => ⟨0xff, 0xff, 0xff⟩
  | black => ⟨0, 0, 0⟩
  | cyan => ⟨0, 0xff, 0xff⟩
  | yellow => ⟨0xff, 0xff, 0⟩
  | pink => ⟨0xfe, 0x24, 0xff⟩
  | orange => ⟨0xff, 0xa5, 0⟩
  | rgb r g b => ⟨r, g, b⟩

/-- `LinePattern` (`generic_framebuffer.rs:41`). -/
inductive LinePattern
  | solid
  | dashed
  | dotted
  deriving DecidableEq, Repr

/-- Whether a column of the line has the colour (`generic_framebuffer.rs:363`). -/
def LinePattern.draws : LinePattern → Nat → Bool
  | solid, _ => true
  | dashed, col => col / 4 % 2 = 0
  | dotted, col => col % 4 = 0

/-- `parse_hex_color` (`config.rs:153`). -/
def parseHexColor (hex : String) : Option (UInt8 × UInt8 × UInt8) :=
  let hex := match hex.toList with
    | '#' :: rest => rest
    | cs => cs
  let component (a b : Char) : Option UInt8 := do
    let high ← Hex.value? a
    let low ← Hex.value? b
    return UInt8.ofNat (16 * high + low)
  match hex with
  | [a, b, c, d, e, f] => do return (← component a b, ← component c d, ← component e f)
  | _ => none

/-- `override_or` (`generic_framebuffer.rs:84`). -/
def overrideOr (overrideHex : Option String) (default : Color) : Color :=
  match overrideHex.bind parseHexColor with
  | some (r, g, b) => .rgb r g b
  | none => default

/-- `state_key` (`generic_framebuffer.rs:100`): an informational event looks like a recording. -/
def stateKey : DisplayState → DisplayStateKey
  | .paused => .paused
  | .recording => .recording
  | .warningDetected eventType =>
    match eventType with
    | .informational => .recording
    | .low => .warningLow
    | .medium => .warningMedium
    | .high => .warningHigh

/-- The name of a state's settings. -/
def keyName : DisplayStateKey → String
  | .paused => "paused"
  | .recording => "recording"
  | .warningLow => "warning_low"
  | .warningMedium => "warning_medium"
  | .warningHigh => "warning_high"

/-- `display_style_from_state` (`generic_framebuffer.rs:113`). -/
def displayStyleFromState (state : DisplayState) (colorblindMode : Bool)
    (colors : DisplayStateKey → Option String) : Color × LinePattern :=
  let recordingDefault := if colorblindMode then Color.blue else Color.green
  let recording := overrideOr (colors .recording) recordingDefault
  match state with
  | .paused => (overrideOr (colors .paused) .white, .solid)
  | .recording => (recording, .solid)
  | .warningDetected eventType =>
    match eventType with
    | .informational => (recording, .solid)
    | .low => (overrideOr (colors .warningLow) .yellow, .dotted)
    | .medium => (overrideOr (colors .warningMedium) .orange, .dashed)
    | .high => (overrideOr (colors .warningHigh) .red, .solid)

/-- The screens that are drawn on so. -/
inductive Panel
  | orbic
  | tplink
  | wingtech
  deriving DecidableEq, Repr

/-- `dimensions` of each (`orbic.rs:154`, `tplink_framebuffer.rs:30`, `wingtech.rs:23`). -/
def Panel.dimensions : Panel → Dimensions
  | orbic => ⟨128, 128⟩
  | tplink => ⟨128, 128⟩
  | wingtech => ⟨128, 160⟩

theorem one_le_height (p : Panel) : 1 ≤ p.dimensions.height := by cases p <;> decide

/-- `BANNER_HEIGHT` (`qr.rs:216`). -/
def BANNER_HEIGHT : Nat := Qr.GLYPH_H + 2

/-- The screen that a strip of text is. -/
def Panel.strip (p : Panel) : Qr.ScreenGeometry :=
  ⟨UInt32.ofNat p.dimensions.width, UInt32.ofNat BANNER_HEIGHT, 0⟩

/-- The text of a strip, drawn on what it is on. -/
def drawStrip (p : Panel) (text : String) (buf : List Rgb) : Option (List Rgb) :=
  Qr.drawText p.strip 1 1 Qr.WHITE ((p.dimensions.width - Qr.textWidth text 1) / 2) text.toList buf

/-- `banner_strip` (`qr.rs:219`). -/
def bannerStrip (p : Panel) (text : String) : List Rgb :=
  (drawStrip p text (List.replicate (p.dimensions.width * BANNER_HEIGHT) Qr.BLACK)).getD []

/-- No text is beyond the strip. -/
theorem drawStrip_eq (p : Panel) (text : String) :
    drawStrip p text (List.replicate (p.dimensions.width * BANNER_HEIGHT) Qr.BLACK) =
      some (bannerStrip p text) := by
  have hgeo : p.strip.width.toNat * p.strip.height.toNat < 2 ^ 32 := by cases p <;> decide
  have hrows : 1 + Qr.GLYPH_H * 1 ≤ p.strip.height.toNat := by cases p <;> decide
  have hlength : (List.replicate (p.dimensions.width * BANNER_HEIGHT) Qr.BLACK).length =
      p.strip.height.toNat * p.strip.width.toNat := by
    rw [List.length_replicate]
    cases p <;> rfl
  obtain ⟨S, hpaints, -⟩ := Qr.paints_drawText hgeo hrows text.toList
    ((p.dimensions.width - Qr.textWidth text 1) / 2)
  obtain ⟨buf, hbuf, -⟩ := hpaints _ hlength
  rw [bannerStrip, show drawStrip p text _ = some buf from hbuf]
  rfl

/-- The rows of a status line. -/
def statusRows (p : Panel) (color : Color) (height : Nat) (pattern : LinePattern) : List Rgb :=
  Raster.rows p.dimensions.width height fun col _ =>
    if pattern.draws col then color.toRgb else ⟨0, 0, 0⟩

/-- `draw_status` (`generic_framebuffer.rs:344`), what it writes: with a strip under it the line is
as high as that leaves room for. -/
def drawStatus (p : Panel) (color : Color) (height : Nat) (pattern : LinePattern)
    (banner : Option String) : List Rgb :=
  match banner with
  | some text =>
    statusRows p color (min height (p.dimensions.height - BANNER_HEIGHT)) pattern ++
      bannerStrip p text
  | none => statusRows p color height pattern

/-- A line that is drawn at least one row high is seen, with a strip under it or without. -/
theorem exists_rows_drawStatus (p : Panel) {height : Nat} (h : 1 ≤ height) (color : Color)
    (pattern : LinePattern) (banner : Option String) :
    ∃ rows, 1 ≤ rows ∧ statusRows p color rows pattern <+:
      drawStatus p color height pattern banner := by
  cases banner with
  | none => exact ⟨height, h, List.prefix_rfl⟩
  | some text =>
    refine ⟨_, Nat.le_min.2 ⟨h, ?_⟩, List.prefix_append _ _⟩
    cases p <;> decide

end Rayhunter.Framebuffer
