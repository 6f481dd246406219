import Rayhunter.Lib.Reach
import Rayhunter.Screen.StatusLine

/-!
# The display loop

`update_ui` (`daemon/src/display/generic_framebuffer.rs`), pass after pass, on the screens that are
drawn on as framebuffers, and what of an upload `set_display_gif` looks at. That a picture takes the
status line's place goes by the kind of its file; that one was drawn does not.
-/

namespace Rayhunter.Framebuffer

open Runs

/-- The `image` crate, as far as it is called on a file: the frames of a GIF that decode, and the
picture of `load_from_memory`. -/
class ImageFiles (ι : Type) extends ImageCrate ι where
  frames : List UInt8 → List ι
  loadFromMemory : List UInt8 → Option ι

open ImageFiles

/-! ## Uploads -/

/-- `MAX_GIF_BYTES` (`server.rs:1086`). -/
def MAX_GIF_BYTES : Nat := 2 * 1024 * 1024

/-- `ImageKind` (`generic_framebuffer.rs:752`). -/
inductive ImageKind
  | animated
  | still
  deriving DecidableEq, Repr

/-- `image_kind` (`generic_framebuffer.rs:763`): `GIF87a`, `GIF89a` and the signature of a PNG. -/
def imageKind (bytes : List UInt8) : Option ImageKind :=
  if [0x47, 0x49, 0x46, 0x38, 0x37, 0x61].isPrefixOf bytes ||
      [0x47, 0x49, 0x46, 0x38, 0x39, 0x61].isPrefixOf bytes then some .animated
  else if [0x89, 0x50, 0x4e, 0x47, 0x0d, 0x0a, 0x1a, 0x0a].isPrefixOf bytes then some .still
  else none

/-- `gif_dimensions` (`generic_framebuffer.rs:731`). -/
def gifDimensions (bytes : List UInt8) : Option (Nat × Nat) :=
  match bytes.drop 6 with
  | a :: b :: c :: d :: _ => some (a.toNat + 256 * b.toNat, c.toNat + 256 * d.toNat)
  | _ => none

/-- `u32::from_be_bytes`. -/
def fromBeBytes (a b c d : UInt8) : Nat :=
  ((a.toNat * 256 + b.toNat) * 256 + c.toNat) * 256 + d.toNat

/-- `image_dimensions` (`generic_framebuffer.rs:779`). -/
def imageDimensions (bytes : List UInt8) : Option (Nat × Nat) :=
  (imageKind bytes).bind fun
    | .animated => gifDimensions bytes
    | .still =>
      match bytes.drop 16 with
      | a :: b :: c :: d :: e :: f :: g :: h :: _ => some (fromBeBytes a b c d, fromBeBytes e f g h)
      | _ => none

/-- What `set_display_gif` finds wrong with a file. -/
inductive UploadError
  | noData
  | tooManyBytes (n : Nat)
  | unknownKind
  | noDimensions
  | emptyCanvas (width height : Nat)
  | largeCanvas (width height : Nat)
  deriving DecidableEq, Repr

/-- The checks of `set_display_gif` on a file (`server.rs:1121`). -/
def checkUpload (body : List UInt8) : Except UploadError Unit :=
  if body = [] then .error .noData
  else if MAX_GIF_BYTES < body.length then .error (.tooManyBytes body.length)
  else if imageKind body = none then .error .unknownKind
  else
    match imageDimensions body with
    | none => .error .noDimensions
    | some (width, height) =>
      if width = 0 ∨ height = 0 then .error (.emptyCanvas width height)
      else if MAX_GIF_DIMENSION < width ∨ MAX_GIF_DIMENSION < height then
        .error (.largeCanvas width height)
      else .ok ()

/-- A file that was taken. -/
structure StoredImage where
  bytes : List UInt8
  accepted : checkUpload bytes = .ok ()

/-! ## The loop -/

/-- `DEFAULT_STATUS_BAR_HEIGHT` (`generic_framebuffer.rs:34`). -/
def DEFAULT_STATUS_BAR_HEIGHT : Nat := 2

/-- `gif_path` (`generic_framebuffer.rs:746`). -/
def gifPath (gifStorePath state : String) : String := gifStorePath ++ "/" ++ state ++ ".gif"

/-- What the loop is started with, the files it finds, and the pictures compiled into the binary. -/
structure Display (ι : Type) where
  panel : Panel
  settings : OtherSettings
  stored : DisplayStateKey → Option StoredImage
  orca : List UInt8
  eff : ι

/-- What a pass finds: the updates that wait at its start, whether a file can be read, the picture
that is up, whether a key was just pressed, the text that is up, and the frame of an animation
before which a further update waits. -/
structure Pass where
  updates : List DisplayState := []
  readable : Bool := true
  picture : Option (List Rgb) := none
  suppressed : Bool := false
  banner : Option String := none
  waiting : Option Nat := none

/-- What the loop keeps from pass to pass (`generic_framebuffer.rs:479`). -/
structure Loop where
  state : DisplayState := .recording
  customGif : Option (String × List UInt8) := none
  stillPixels : Option (List Rgb) := none
  overrideWasShowing : Bool := false

namespace Display

variable {ι : Type} [ImageFiles ι] (u : Display ι)

/-- The level, one of those at which the screen is drawn on. -/
def level : UiLevel := u.settings .uiLevel

/-- `covers_the_screen` (`generic_framebuffer.rs:455`). -/
def coversTheScreen : Bool :=
  match u.level with
  | .customGif | .highVisibility | .effLogo | .demo => true
  | _ => false

/-- The colour and the pattern of a state. -/
def style (state : DisplayState) : Color × LinePattern :=
  displayStyleFromState state (u.settings .colorblindMode) fun key =>
    u.settings (.displayColors key)

/-- `status_bar_height`, as it is at first (`generic_framebuffer.rs:542`). -/
def statusBarHeight : Nat :=
  max 1 (min (((u.settings .statusBarHeight : Option UInt32).map UInt32.toNat).getD
    DEFAULT_STATUS_BAR_HEIGHT) u.panel.dimensions.height)

/-- The path of a state's own picture, if it is to have one. -/
def wanted (state : DisplayState) : Option String :=
  (u.settings (.displayGifs (stateKey state)) : Option String).map fun _ =>
    gifPath (u.settings .gifStorePath) (keyName (stateKey state))

/-- The picture's file is read where the state is another (`generic_framebuffer.rs:519`). -/
def load (readable : Bool) (s : Loop) : Loop :=
  match u.wanted s.state with
  | some path =>
    if s.customGif.map (·.1) ≠ some path then
      match if readable then u.stored (stateKey s.state) else none with
      | some image => { s with customGif := some (path, image.bytes), stillPixels := none }
      | none => { s with customGif := none, stillPixels := none }
    else s
  | none => { s with customGif := none, stillPixels := none }

/-- `draw_gif_interruptible` (`generic_framebuffer.rs:211`), what it writes. -/
def playGif (bytes : List UInt8) (waiting : Option Nat) : List (List Rgb) :=
  match gifDimensions bytes with
  | none => []
  | some (width, height) =>
    if MAX_GIF_DIMENSION < width ∨ MAX_GIF_DIMENSION < height then []
    else
      let written := (frames bytes : List ι).map (imageToBuffer u.panel.dimensions)
      match waiting with
      | none => written
      | some n => written.take n

/-- `decode_still_image` (`generic_framebuffer.rs:291`). -/
def decodeStillImage (bytes : List UInt8) : Option (List Rgb) :=
  match imageDimensions bytes with
  | none => none
  | some (width, height) =>
    if MAX_GIF_DIMENSION < width ∨ MAX_GIF_DIMENSION < height then none
    else (loadFromMemory bytes : Option ι).map (imageToBuffer u.panel.dimensions)

/-- `draw_line` (`generic_framebuffer.rs:330`). -/
def drawLine (color : Color) (height : Nat) : List Rgb :=
  drawStatus u.panel color height .solid none

/-- What a pass draws by the level, and the height it leaves the status line
(`generic_framebuffer.rs:598`). -/
def drawLevel (s : Loop) (waiting : Option Nat) (height : Nat) : Loop × List (List Rgb) × Nat :=
  match u.level with
  | .demo => (s, u.playGif u.orca waiting, height)
  | .customGif =>
    match s.customGif with
    | none => (s, [], height)
    | some (_, bytes) =>
      match imageKind bytes with
      | some .animated => ({ s with stillPixels := none }, u.playGif bytes waiting, 0)
      | some .still =>
        let pixels := s.stillPixels.or (u.decodeStillImage bytes)
        match pixels with
        | some px => ({ s with stillPixels := pixels }, [px], 0)
        | none => ({ s with stillPixels := pixels }, [], height)
      | none => (s, [], height)
  | .effLogo => (s, [imageToBuffer u.panel.dimensions u.eff], height)
  | .highVisibility => (s, [], u.panel.dimensions.height)
  | .transFlag =>
    (s, [u.drawLine .cyan 128, u.drawLine .pink 102, u.drawLine .white 76, u.drawLine .pink 50,
      u.drawLine .cyan 25], height)
  | _ => (s, [], height)

/-- A status line of the state, if it has rows or there is text to go with it. -/
def writeStatus (state : DisplayState) (height : Nat) (banner : Option String) : List (List Rgb) :=
  if 0 < height ∨ banner.isSome then
    [drawStatus u.panel (u.style state).1 height (u.style state).2 banner]
  else []

/-- What a pass finds out before it draws: the newest state, and its picture. -/
def refresh (s : Loop) (p : Pass) : Loop :=
  let s := { s with state := p.updates.getLast?.getD s.state }
  if u.level = .customGif then u.load p.readable s else s

/-- A pass of the loop (`generic_framebuffer.rs:495`), with the buffers it writes. -/
def pass (s : Loop) (p : Pass) : Loop × List (List Rgb) :=
  let s := u.refresh s p
  if (u.coversTheScreen || p.picture.isSome) && p.suppressed then
    (s, if 0 < u.statusBarHeight then
        [drawStatus u.panel (u.style s.state).1 u.statusBarHeight (u.style s.state).2 p.banner]
      else [])
  else
    match p.picture with
    | some px => ({ s with overrideWasShowing := true }, [px])
    | none =>
      let cleared :=
        if s.overrideWasShowing then
          [List.replicate (u.panel.dimensions.width * u.panel.dimensions.height) ⟨0, 0, 0⟩]
        else []
      let drawn := u.drawLevel { s with overrideWasShowing := false } p.waiting u.statusBarHeight
      (drawn.1, cleared ++ drawn.2.1 ++ u.writeStatus s.state drawn.2.2 p.banner)

/-- A pass as a step of a run: no pass ends it. -/
def step (s : Loop) (p : Pass) : Option Loop := some (u.pass s p).1

/-! ## What is to be seen -/

/-- The picture that is configured for a state, where its file is there. -/
def configured (state : DisplayState) : Option StoredImage :=
  (u.settings (.displayGifs (stateKey state)) : Option String).bind fun _ =>
    u.stored (stateKey state)

/-- What a file is decoded to, by its kind. -/
def decoded (bytes : List UInt8) : List ι :=
  match imageKind bytes with
  | some .animated => frames bytes
  | some .still => (loadFromMemory bytes).toList
  | none => []

/-- That of what is written, something tells the state: a frame of the picture that is configured
for it, or a line in its colour. -/
inductive Shown (state : DisplayState) (written : List (List Rgb)) : Prop
  | picture {image : StoredImage} {frame : ι} (configured : u.configured state = some image)
      (decoded : frame ∈ (decoded image.bytes : List ι))
      (mem : imageToBuffer u.panel.dimensions frame ∈ written)
  | line {buffer : List Rgb} {rows : Nat} (mem : buffer ∈ written) (pos : 1 ≤ rows)
      (rows : statusRows u.panel (u.style state).1 rows (u.style state).2 <+: buffer)

/-- That a pass has nothing to show but an animation without a frame that decodes, which it has in
memory or can read. -/
def Blank (s : Loop) (p : Pass) : Prop :=
  let state := p.updates.getLast?.getD s.state
  u.level = .customGif ∧ p.suppressed = false ∧
    (p.readable = true ∨ s.customGif.map (·.1) = u.wanted state) ∧
    ∃ image, u.configured state = some image ∧ imageKind image.bytes = some .animated ∧
      (frames image.bytes : List ι) = []

end Display

/-! ## A line, or a picture -/

/-- A file that was taken has a kind, and sides within the limit. -/
theorem StoredImage.dimensions (image : StoredImage) :
    ∃ kind width height, imageKind image.bytes = some kind ∧
      imageDimensions image.bytes = some (width, height) ∧
      ¬(MAX_GIF_DIMENSION < width ∨ MAX_GIF_DIMENSION < height) := by
  have h := image.accepted
  unfold checkUpload at h
  split at h
  · cases h
  split at h
  · cases h
  split at h
  · cases h
  · next hkind =>
    obtain ⟨kind, hkind⟩ := Option.ne_none_iff_exists'.1 hkind
    split at h
    · cases h
    · next width height hdims =>
      split at h
      · cases h
      split at h
      · cases h
      · next hlimit => exact ⟨kind, width, height, hkind, hdims, hlimit⟩

theorem keyName_inj {key key' : DisplayStateKey} (h : keyName key = keyName key') : key = key' := by
  cases key <;> cases key' <;> first | rfl | exact absurd h (by decide)

/-- The states' pictures are in files of their own. -/
theorem gifPath_inj {store : String} {key key' : DisplayStateKey}
    (h : gifPath store (keyName key) = gifPath store (keyName key')) : key = key' := by
  have hlist := congrArg String.toList h
  simp only [gifPath, String.toList_append, List.append_assoc, List.append_cancel_left_eq,
    List.append_cancel_right_eq] at hlist
  exact keyName_inj (String.ext hlist)

namespace Display

variable {ι : Type} {u : Display ι} {s : Loop} {p : Pass}

theorem one_le_statusBarHeight : 1 ≤ u.statusBarHeight := Nat.le_max_left _ _

/-- One path, one picture. -/
theorem configured_of_wanted {state state' : DisplayState} {path : String}
    (h : u.wanted state = some path) (h' : u.wanted state' = some path) :
    u.configured state = u.configured state' := by
  obtain ⟨_, -, rfl⟩ := Option.map_eq_some_iff.1 h
  obtain ⟨_, -, hpath⟩ := Option.map_eq_some_iff.1 h'
  rw [configured, configured, gifPath_inj hpath]

/-- A state with a picture has the file there is for it. -/
theorem configured_eq_stored {state : DisplayState} {path : String}
    (h : u.wanted state = some path) : u.configured state = u.stored (stateKey state) := by
  obtain ⟨_, hgif, -⟩ := Option.map_eq_some_iff.1 h
  rw [configured, hgif]
  rfl

/-- That what is in memory, if anything is, is the picture of the loop's state, after a pass on
which it was kept or read. -/
def Current (u : Display ι) (s : Loop) (p : Pass) (after : Loop) : Prop :=
  ∀ path bytes, after.customGif = some (path, bytes) →
    (p.readable = true ∨ s.customGif.map (·.1) = u.wanted after.state) ∧
      ∃ image, u.configured after.state = some image ∧ image.bytes = bytes

theorem Current.of_none {after : Loop} (h : after.customGif = none) : u.Current s p after := by
  intro path bytes hsome
  rw [h] at hsome
  cases hsome

variable [ImageFiles ι]

/-- What is in memory is the picture of a state that is to have one, and what of it is kept decoded
is it. -/
structure Inv (u : Display ι) (s : Loop) : Prop where
  file : ∀ path bytes, s.customGif = some (path, bytes) → ∃ state image,
    u.wanted state = some path ∧ u.configured state = some image ∧ image.bytes = bytes
  pixels : ∀ px, s.stillPixels = some px → ∃ path bytes frame,
    s.customGif = some (path, bytes) ∧ imageKind bytes = some .still ∧
      loadFromMemory bytes = some (frame : ι) ∧ px = imageToBuffer u.panel.dimensions frame

theorem Inv.of_none (hfile : s.customGif = none) (hpixels : s.stillPixels = none) : u.Inv s where
  file path bytes h := by
    rw [hfile] at h
    cases h
  pixels px h := by
    rw [hpixels] at h
    cases h

theorem Inv.load (hi : u.Inv s) :
    u.Inv (u.load p.readable s) ∧ (u.load p.readable s).state = s.state ∧
      u.Current s p (u.load p.readable s) := by
  unfold Display.load
  split
  · next path hwanted =>
    split
    · next hother =>
      split
      · next image himage =>
        split at himage
        · next hreadable =>
          rw [← configured_eq_stored hwanted] at himage
          refine ⟨⟨fun path' bytes h => ?_, fun px h => by cases h⟩, rfl, fun path' bytes h => ?_⟩
          · cases h
            exact ⟨s.state, image, hwanted, himage, rfl⟩
          · cases h
            exact ⟨.inl hreadable, image, himage, rfl⟩
        · cases himage
      · exact ⟨.of_none rfl rfl, rfl, .of_none rfl⟩
    · next hsame =>
      have hpath := Decidable.not_not.1 hsame
      refine ⟨hi, rfl, fun path' bytes h => ⟨.inr (hpath.trans hwanted.symm), ?_⟩⟩
      obtain ⟨state, image, hstate, himage, rfl⟩ := hi.file path' bytes h
      rw [h] at hpath
      cases hpath
      exact ⟨image, configured_of_wanted hwanted hstate ▸ himage, rfl⟩
  · exact ⟨.of_none rfl rfl, rfl, .of_none rfl⟩

/-- What a pass finds out is the newest state, and at the level that shows pictures, its picture. -/
theorem Inv.refresh (hi : u.Inv s) :
    u.Inv (u.refresh s p) ∧ (u.refresh s p).state = p.updates.getLast?.getD s.state ∧
      (u.level = .customGif → u.Current s p (u.refresh s p)) := by
  have hi' : u.Inv { s with state := p.updates.getLast?.getD s.state } := ⟨hi.file, hi.pixels⟩
  unfold Display.refresh
  split
  · obtain ⟨hinv, hstate, hcurrent⟩ := hi'.load (p := p)
    exact ⟨hinv, hstate, fun _ => hcurrent⟩
  · next hlevel => exact ⟨hi', rfl, fun h => absurd h hlevel⟩

theorem decodeStillImage_eq_some {bytes : List UInt8} {px : List Rgb}
    (h : u.decodeStillImage bytes = some px) : ∃ frame : ι,
      loadFromMemory bytes = some frame ∧ px = imageToBuffer u.panel.dimensions frame := by
  unfold decodeStillImage at h
  split at h
  · cases h
  · split at h
    · cases h
    · obtain ⟨frame, hframe, rfl⟩ := Option.map_eq_some_iff.1 h
      exact ⟨frame, hframe, rfl⟩

/-- What is shown of a still picture is what is in memory, decoded. -/
theorem Inv.still (hi : u.Inv s) {path : String} {bytes : List UInt8} {px : List Rgb}
    (hfile : s.customGif = some (path, bytes))
    (hpx : s.stillPixels.or (u.decodeStillImage bytes) = some px) : ∃ frame : ι,
      loadFromMemory bytes = some frame ∧ px = imageToBuffer u.panel.dimensions frame := by
  obtain hkept | ⟨-, hdecoded⟩ := Option.or_eq_some_iff.1 hpx
  · obtain ⟨_, _, frame, hfile', -, hframe, rfl⟩ := hi.pixels px hkept
    cases hfile.symm.trans hfile'
    exact ⟨frame, hframe, rfl⟩
  · exact decodeStillImage_eq_some hdecoded

/-- Drawing keeps what is decoded of the picture in memory. -/
theorem Inv.drawLevel (hi : u.Inv s) (waiting : Option Nat) (height : Nat) :
    u.Inv (u.drawLevel s waiting height).1 := by
  unfold Display.drawLevel
  split
  · exact hi
  · split
    · exact hi
    · next path bytes hfile =>
      split
      · exact ⟨hi.file, fun px h => by cases h⟩
      · next hkind =>
        have hpixels : ∀ px, s.stillPixels.or (u.decodeStillImage bytes) = some px →
            ∃ path bytes frame, s.customGif = some (path, bytes) ∧ imageKind bytes = some .still ∧
              loadFromMemory bytes = some (frame : ι) ∧
              px = imageToBuffer u.panel.dimensions frame := by
          intro px hpx
          obtain ⟨frame, hframe, rfl⟩ := hi.still hfile hpx
          exact ⟨path, bytes, frame, hfile, hkind, hframe, rfl⟩
        dsimp only
        split
        · exact ⟨hi.file, hpixels⟩
        · exact ⟨hi.file, hpixels⟩
      · exact hi
  · exact hi
  · exact hi
  · exact hi
  · exact hi

theorem Inv.showing (hi : u.Inv s) (b : Bool) : u.Inv { s with overrideWasShowing := b } :=
  ⟨hi.file, hi.pixels⟩

/-- **A pass keeps the invariant.** -/
theorem Inv.pass (hi : u.Inv s) : u.Inv (u.pass s p).1 := by
  have hi' := (hi.refresh (p := p)).1
  unfold Display.pass
  dsimp only
  split
  · exact hi'
  · split
    · exact hi'.showing true
    · exact (hi'.showing false).drawLevel p.waiting u.statusBarHeight

/-- In every run, what is in memory is the picture of a state. -/
theorem inv_of_reach {ok : Loop → Pass → Prop} (h : Reach (· = {}) u.step ok s) : u.Inv s := by
  refine h.invariant (fun s hs => ?_) fun s p s' hi _ hs' => ?_
  · subst hs
    exact .of_none rfl rfl
  · cases hs'
    exact hi.pass

/-! ## What a pass writes -/

/-- A status line that is written is seen. -/
theorem Shown.of_writeStatus {state : DisplayState} {height : Nat} (h : 1 ≤ height)
    {banner : Option String} {before : List (List Rgb)} :
    u.Shown state (before ++ u.writeStatus state height banner) := by
  obtain ⟨rows, hpos, hrows⟩ := exists_rows_drawStatus u.panel h (u.style state).1
    (u.style state).2 banner
  refine .line (List.mem_append_right _ ?_) hpos hrows
  rw [writeStatus, if_pos (.inl h)]
  exact List.mem_singleton_self _

/-- An animation that is not interrupted is written as far as it decodes. -/
theorem playGif_eq {image : StoredImage} (hkind : imageKind image.bytes = some .animated) :
    u.playGif image.bytes none =
      (frames image.bytes : List ι).map (imageToBuffer u.panel.dimensions) := by
  obtain ⟨kind, width, height, hkind', hdims, hlimit⟩ := image.dimensions
  have hgif : gifDimensions image.bytes = some (width, height) := by
    rwa [imageDimensions, hkind] at hdims
  unfold playGif
  rw [hgif]
  exact if_neg hlimit

/-- Whatever the level, something of the state is drawn, or the height of its line is left. -/
theorem drawLevel_shown (hi : u.Inv s)
    (hpicture : u.level = .customGif → ∀ path bytes, s.customGif = some (path, bytes) →
      ∃ image, u.configured s.state = some image ∧ image.bytes = bytes ∧
        (imageKind bytes = some .animated → (frames bytes : List ι) ≠ []))
    {height : Nat} (h : 1 ≤ height) {cleared : List (List Rgb)} {banner : Option String} :
    u.Shown s.state (cleared ++ (u.drawLevel s none height).2.1 ++
      u.writeStatus s.state (u.drawLevel s none height).2.2 banner) := by
  unfold drawLevel
  split
  · exact .of_writeStatus h
  · next hlevel =>
    split
    · exact .of_writeStatus h
    · next path bytes hfile =>
      obtain ⟨image, himage, rfl, hframes⟩ := hpicture hlevel path bytes hfile
      split
      · next hkind =>
        obtain ⟨frame, hframe⟩ := List.exists_mem_of_ne_nil _ (hframes hkind)
        have hwritten : imageToBuffer u.panel.dimensions frame ∈ u.playGif image.bytes none := by
          rw [playGif_eq hkind]
          exact List.mem_map_of_mem hframe
        refine .picture himage ?_ (List.mem_append_left _ (List.mem_append_right _ hwritten))
        rw [decoded, hkind]
        exact hframe
      · next hkind =>
        dsimp only
        split
        · next px hpx =>
          obtain ⟨frame, hframe, rfl⟩ := hi.still hfile hpx
          refine .picture himage ?_
            (List.mem_append_left _ (List.mem_append_right _ (List.mem_singleton_self _)))
          rw [decoded, hkind]
          exact Option.mem_toList.2 hframe
        · exact .of_writeStatus h
      · exact .of_writeStatus h
  · exact .of_writeStatus h
  · exact .of_writeStatus (one_le_height u.panel)
  · exact .of_writeStatus h
  · exact .of_writeStatus h

/-- **In every run, a pass tells the state**, if there is no other picture up and no update waits,
where it does not have but an animation without a frame. -/
theorem shown_of_reach (u : Display ι) {s : Loop} (hs : Reach (· = {}) u.step (fun _ _ => True) s)
    {p : Pass} (hpicture : p.picture = none) (hwaiting : p.waiting = none)
    (hblank : ¬u.Blank s p) : u.Shown (p.updates.getLast?.getD s.state) (u.pass s p).2 := by
  have hi := inv_of_reach hs
  obtain ⟨hi', hstate, hcurrent⟩ := hi.refresh (p := p)
  rw [← hstate]
  unfold pass
  rw [hpicture, hwaiting]
  dsimp only
  split
  · have hpos : 0 < u.statusBarHeight := one_le_statusBarHeight
    obtain ⟨rows, hpos', hrows⟩ := exists_rows_drawStatus u.panel hpos
      (u.style (u.refresh s p).state).1 (u.style (u.refresh s p).state).2 p.banner
    rw [if_pos hpos]
    exact .line (List.mem_singleton_self _) hpos' hrows
  · next hpaused =>
    refine drawLevel_shown (hi'.showing false) (fun hlevel path bytes hfile => ?_)
      one_le_statusBarHeight
    obtain ⟨hheld, image, himage, rfl⟩ := hcurrent hlevel path bytes hfile
    refine ⟨image, himage, rfl, fun hkind hnone => hblank ⟨hlevel, ?_, ?_, image, ?_, hkind, hnone⟩⟩
    · have hcovers : u.coversTheScreen = true := by rw [coversTheScreen, hlevel]
      rw [hcovers, Bool.true_or, Bool.true_and] at hpaused
      exact Bool.eq_false_iff.2 hpaused
    · rw [← hstate]
      exact hheld
    · rw [← hstate]
      exact himage

end Display

/-! ## An animation without frames -/

/-- An animation of one white pixel. -/
def tinyGif : List UInt8 :=
  [0x47, 0x49, 0x46, 0x38, 0x39, 0x61, 0x01, 0x00, 0x01, 0x00, 0x80, 0x00, 0x00, 0xff, 0xff, 0xff,
    0x00, 0x00, 0x00, 0x2c, 0x00, 0x00, 0x00, 0x00, 0x01, 0x00, 0x01, 0x00, 0x00, 0x02, 0x02, 0x44,
    0x01, 0x00, 0x3b]

/-- The first ten bytes of one. -/
def bareGif : List UInt8 := [0x47, 0x49, 0x46, 0x38, 0x39, 0x61, 0x01, 0x00, 0x01, 0x00]

/-- The decoder on these two. -/
instance : ImageFiles Plain where
  frames bytes := if bytes = tinyGif then [⟨1, 1, ⟨0xff, 0xff, 0xff⟩⟩] else []
  loadFromMemory _ := none

/-- A screen with a picture for recordings and one without frames for severe warnings. -/
def gifDisplay : Display Plain where
  panel := .orbic
  settings
    | .uiLevel => .customGif
    | .displayGifs key => if key = .recording ∨ key = .warningHigh then some "picture.gif" else none
    | s => s.default
  stored
    | .recording => some ⟨tinyGif, rfl⟩
    | .warningHigh => some ⟨bareGif, rfl⟩
    | _ => none
  orca := tinyGif
  eff := ⟨1, 1, ⟨0xff, 0xff, 0xff⟩⟩

/-- A pass that finds nothing new shows the picture for recordings. -/
theorem shown_of_reach_recording : gifDisplay.Shown .recording (gifDisplay.pass {} {}).2 := by
  refine Display.shown_of_reach gifDisplay (p := {}) (.init rfl) rfl rfl ?_
  rintro ⟨-, -, -, image, himage, -, hnone⟩
  have hstored : image = ⟨tinyGif, rfl⟩ := (Option.some.inj himage).symm
  subst hstored
  cases hnone

/-- A severe warning leaves that picture where it is: the pass that takes it up writes nothing. -/
theorem not_shown_frameless :
    Reach (· = {}) gifDisplay.step (fun _ _ => True) (gifDisplay.pass {} {}).1 ∧
      ¬gifDisplay.Shown (.warningDetected .high)
        (gifDisplay.pass (gifDisplay.pass {} {}).1 { updates := [.warningDetected .high] }).2 := by
  refine ⟨.step (.init rfl) trivial rfl, fun h => ?_⟩
  have hnothing : (gifDisplay.pass (gifDisplay.pass {} {}).1
      { updates := [.warningDetected .high] }).2 = [] := rfl
  rw [hnothing] at h
  cases h with
  | picture _ _ hmem => cases hmem
  | line hmem => cases hmem

end Rayhunter.Framebuffer
