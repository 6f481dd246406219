import Mathlib.Data.List.Basic
import Mathlib.Order.MinMax
import Rayhunter.Recorder.Task

/-!
# Who draws over the screen

`DisplayOverride` (`daemon/src/display/mod.rs`), which has room for one picture and one banner, and
the two components that put theirs there: `StepUp` (`daemon/src/stepup.rs`) and `Pairing`
(`daemon/src/pairing.rs`). A warning that stands from the start (`daemon/src/main.rs`) is a banner
too. A call takes no time, and one with an `.await` in it is a call for what comes after it. What
comes from elsewhere, such as a random code or whether the unit has an owner, is in the call.
-/

namespace Rayhunter.Screen

/-- Who puts something on the screen, or takes it off. -/
inductive Component
  | startUp
  | stepUp
  | pairing
  | display
  deriving DecidableEq, Repr

/-- What the pictures show. -/
inductive Picture
  | stepUpCode (code : String)
  | setupCode (token : String)
  | fingerprint (hex : String)
  | pressTheButton
  | continueOnYourPhone
  deriving DecidableEq, Repr

/-- Whose picture it is. -/
def Picture.owner : Picture → Component
  | stepUpCode _ => .stepUp
  | _ => .pairing

/-- The texts of the banners. -/
inductive Banner
  | storeDamaged
  | noTls
  | terminalActive
  deriving DecidableEq, Repr

/-- What the unit says (`main.rs:786`, `:790`, `stepup.rs:34`). -/
def Banner.text : Banner → String
  | storeDamaged => "PAIRING STORE DAMAGED"
  | noTls => "WEB OPEN: NO TLS"
  | terminalActive => "TERMINAL ACTIVE"

/-- Whose banner it is. -/
def Banner.owner : Banner → Component
  | terminalActive => .stepUp
  | _ => .startUp

/-- So many seconds. -/
def seconds (n : Nat) : Nat := n * 1000000000

/-- `DisplayOverride` (`display/mod.rs:109`), with when each of the two is over. -/
structure DisplayOverride where
  picture : Option (Picture × Instant) := none
  banner : Option (Banner × Instant) := none
  deriving DecidableEq, Repr

namespace DisplayOverride

/-- `show` (`display/mod.rs:130`). -/
def showPicture (now : Instant) (p : Picture) (period : Nat) (o : DisplayOverride) :
    DisplayOverride :=
  { o with picture := some (p, now + period) }

/-- `clear` (`display/mod.rs:139`). -/
def clear (o : DisplayOverride) : DisplayOverride := { o with picture := none }

/-- `show_banner` (`display/mod.rs:164`). -/
def showBanner (now : Instant) (b : Banner) (period : Nat) (o : DisplayOverride) :
    DisplayOverride :=
  { o with banner := some (b, now + period) }

/-- `clear_banner` (`display/mod.rs:169`). -/
def clearBanner (o : DisplayOverride) : DisplayOverride := { o with banner := none }

/-- What is left of a picture or banner that is looked at (`display/mod.rs:147`, `:175`): one that
is over is dropped. -/
def look {α : Type} (now : Instant) : Option (α × Instant) → Option (α × Instant)
  | some (a, ending) => if now < ending then some (a, ending) else none
  | none => none

/-- `current` and `current_banner` (`display/mod.rs:147`, `:175`), as the display loop calls them. -/
def paint (now : Instant) (o : DisplayOverride) : DisplayOverride :=
  ⟨look now o.picture, look now o.banner⟩

end DisplayOverride

/-! ## The step-up -/

/-- `CODE_TTL` (`stepup.rs:27`). -/
def CODE_TTL : Nat := seconds 60

/-- `WINDOW` (`stepup.rs:29`). -/
def WINDOW : Nat := seconds (5 * 60)

/-- `HARD_CAP` (`stepup.rs:31`). -/
def HARD_CAP : Nat := seconds (30 * 60)

/-- `MAX_WRONG` (`stepup.rs:33`). -/
def MAX_WRONG : Nat := 3

/-- `StepUpError` (`stepup.rs:37`). -/
inductive StepUpError
  | noPending
  | expired
  | wrongCode (attemptsLeft : Nat)
  | tooManyWrong
  deriving DecidableEq, Repr

/-- `Pending` (`stepup.rs:51`). -/
structure Pending where
  code : String
  started : Instant
  wrong : Nat
  deriving DecidableEq, Repr

/-- `Window` (`stepup.rs:58`). -/
structure Window where
  opened : Instant
  lastUsed : Instant
  deriving DecidableEq, Repr

/-- `Window::expires_at` (`stepup.rs:64`). -/
def Window.expiresAt (w : Window) : Instant := min (w.lastUsed + WINDOW) (w.opened + HARD_CAP)

/-- `StepUp` (`stepup.rs:76`), by browser. `screen` says whether it has one. -/
structure StepUp where
  pending : List (String × Pending) := []
  windows : List (String × Window) := []
  screen : Bool := true
  deriving DecidableEq, Repr

/-- A map with one value more, or another one. -/
def insert {α : Type} (key : String) (a : α) (l : List (String × α)) : List (String × α) :=
  (key, a) :: l.filter (·.1 ≠ key)

/-- The codes that are still good. -/
def StepUp.live (now : Instant) (s : StepUp) : List (String × Pending) :=
  s.pending.filter (now - ·.2.started < CODE_TTL)

/-! ## Pairing -/

/-- `SETUP_WINDOW` (`pairing.rs:44`). -/
def SETUP_WINDOW : Nat := seconds (10 * 60)

/-- `MAX_SETUP_ATTEMPTS` (`pairing.rs:47`). -/
def MAX_SETUP_ATTEMPTS : Nat := 10

/-- `PRESS_WINDOW` (`pairing.rs:253`). -/
def PRESS_WINDOW : Nat := seconds 30

/-- `FINGERPRINT_VIEW` (`pairing.rs:259`). -/
def FINGERPRINT_VIEW : Nat := seconds 15

/-- `PairError` (`pairing.rs:137`), as far as these calls return it. -/
inductive PairError
  | alreadyComplete
  | windowClosed
  | wrongToken (attemptsLeft : Nat)
  | pressPending (secs : Nat)
  | storage
  deriving DecidableEq, Repr

/-- `SetupWindow` (`pairing.rs:168`). -/
structure SetupWindow where
  token : String
  opened : Instant
  wrong : Nat
  deriving DecidableEq, Repr

/-- `PressRequest` (`pairing.rs:268`). -/
structure PressRequest where
  id : String
  created : Instant
  approved : Option Instant
  deriving DecidableEq, Repr

/-- `Pairing` (`pairing.rs:226`), as far as the screen goes. `screen` says whether it has one, and
`fits` whether a setup code does on it. `timers` has when the fingerprint is to give way to the code
again. -/
structure Pairing where
  setup : Option SetupWindow := none
  press : Option PressRequest := none
  showingFingerprint : Bool := false
  timers : List Instant := []
  fingerprint : Option String := none
  screen : Bool := true
  fits : Bool := true
  deriving DecidableEq, Repr

/-- The setup window, if one is open (`setup_window`, `pairing.rs:471`). One that is over is dropped
there, and stays over here. -/
def Pairing.open? (now : Instant) (p : Pairing) : Option SetupWindow :=
  p.setup.filter fun w => now - w.opened < SETUP_WINDOW

/-- `normalize_token` (`pairing.rs:310`). -/
def normalizeToken (input : String) : String :=
  String.ofList ((input.toList.filter fun c => !Text.isWhitespace c && c ≠ '-').map fun c =>
    match c.toUpper with
    | 'O' => '0'
    | 'I' => '1'
    | 'L' => '1'
    | other => other)

/-! ## The calls -/

/-- The components and the screen they share. -/
structure State where
  override : DisplayOverride := {}
  stepUp : StepUp := {}
  pairing : Pairing := {}
  deriving DecidableEq, Repr

namespace State

/-- `refresh_banner` (`stepup.rs:261`). -/
def refreshBanner (now : Instant) (s : State) : State :=
  if s.stepUp.screen then
    let windows := s.stepUp.windows.filter (now < ·.2.expiresAt)
    let longest := (windows.map (·.2.expiresAt)).max?
    { s with
      stepUp := { s.stepUp with windows }
      override :=
        match longest with
        | some ending => s.override.showBanner now .terminalActive (ending - now)
        | none => s.override.clearBanner }
  else s

/-- `StepUp::start` (`stepup.rs:108`), with the code that was drawn, if one was. -/
def start (now : Instant) (device : String) (code : Option String) (s : State) :
    Except StepUpError Nat × State :=
  match code with
  | none => (.error .expired, s)
  | some code =>
    let stepUp := { s.stepUp with pending := insert device ⟨code, now, 0⟩ (s.stepUp.live now) }
    (.ok CODE_TTL, { s with
      stepUp
      override :=
        if s.stepUp.screen then s.override.showPicture now (.stepUpCode code) CODE_TTL
        else s.override })

/-- `open_window` (`stepup.rs:170`). -/
def openWindow (now : Instant) (device : String) (s : State) : State :=
  refreshBanner now { s with
    stepUp := { s.stepUp with windows := insert device ⟨now, now⟩ s.stepUp.windows }
    override := if s.stepUp.screen then s.override.clear else s.override }

/-- `confirm` (`stepup.rs:190`). -/
def confirm (now : Instant) (device code : String) (s : State) : Except StepUpError Nat × State :=
  let code := String.ofList (code.toList.filter (·.isDigit))
  let live := s.stepUp.live now
  let s := { s with stepUp := { s.stepUp with pending := live } }
  match live.find? (·.1 = device) with
  | none => (.error .noPending, s)
  | some (_, p) =>
    if p.code = code then
      let pending := live.filter (·.1 ≠ device)
      (.ok WINDOW, openWindow now device { s with stepUp := { s.stepUp with pending } })
    else if MAX_WRONG ≤ p.wrong + 1 then
      let pending := live.filter (·.1 ≠ device)
      (.error .tooManyWrong, { s with stepUp := { s.stepUp with pending } })
    else
      let pending := insert device { p with wrong := p.wrong + 1 } live
      (.error (.wrongCode (MAX_WRONG - (p.wrong + 1))),
        { s with stepUp := { s.stepUp with pending } })

/-- The newest of some pending codes. Of several it is up to the order of the hash map, in which
`first` comes before the others. -/
def newest (first : String) (live : List (String × Pending)) : Option String :=
  let latest := (live.filter fun p => live.all fun q => q.2.started ≤ p.2.started).map (·.1)
  if first ∈ latest then some first else latest.head?

/-- `StepUp::button_pressed` (`stepup.rs:211`). -/
def stepUpButton (now : Instant) (first : String) (s : State) : Bool × State :=
  let live := s.stepUp.live now
  match newest first live with
  | none => (false, { s with stepUp := { s.stepUp with pending := live } })
  | some device =>
    let pending := live.filter (·.1 ≠ device)
    (true, openWindow now device { s with stepUp := { s.stepUp with pending } })

/-- `active` (`stepup.rs:222`). -/
def active (now : Instant) (device : String) (s : State) : Bool × State :=
  match s.stepUp.windows.find? (·.1 = device) with
  | none => (false, s)
  | some (_, w) =>
    if now < w.expiresAt then (true, s)
    else
      let windows := s.stepUp.windows.filter (·.1 ≠ device)
      (false, refreshBanner now { s with stepUp := { s.stepUp with windows } })

/-- `extend` (`stepup.rs:237`). -/
def extend (now : Instant) (device : String) (s : State) : State :=
  let windows := s.stepUp.windows.map fun w =>
    if w.1 = device then (w.1, { w.2 with lastUsed := now }) else w
  refreshBanner now { s with stepUp := { s.stepUp with windows } }

/-- `end` (`stepup.rs:253`). -/
def endStepUp (now : Instant) (device : String) (s : State) : State :=
  let windows := s.stepUp.windows.filter (·.1 ≠ device)
  refreshBanner now { s with stepUp := { s.stepUp with windows } }

/-- `show_code` (`pairing.rs:540`). -/
def showCode (now : Instant) (token : String) (s : State) : State :=
  if s.pairing.screen && s.pairing.fits then
    { s with override := s.override.showPicture now (.setupCode token) SETUP_WINDOW }
  else s

/-- `open_setup_window` (`pairing.rs:492`) after it has seen whether the unit has an owner or a
paired browser, with the token that would be drawn, if one could. -/
def openSetupWindow (now : Instant) (owned : Bool) (token : Option String) (s : State) :
    Except PairError String × State :=
  if owned then (.error .alreadyComplete, s)
  else
    match s.pairing.open? now with
    | some w =>
      (.ok w.token, showCode now w.token
        { s with pairing := { s.pairing with setup := some { w with opened := now } } })
    | none =>
      match token with
      | none => (.error .storage, s)
      | some token =>
        (.ok token, showCode now token
          { s with pairing := { s.pairing with setup := some ⟨token, now, 0⟩ } })

/-- `close_setup_window` (`pairing.rs:523`). -/
def closeSetupWindow (s : State) : State :=
  { s with
    pairing := { s.pairing with setup := none }
    override := if s.pairing.screen then s.override.clear else s.override }

/-- `check_setup_token` (`pairing.rs:562`). -/
def checkSetupToken (now : Instant) (token : String) (s : State) : Except PairError Unit × State :=
  match s.pairing.open? now with
  | none => (.error .windowClosed, { s with pairing := { s.pairing with setup := none } })
  | some w =>
    if normalizeToken token = w.token then (.ok (), s)
    else if MAX_SETUP_ATTEMPTS ≤ w.wrong + 1 then (.error .windowClosed, closeSetupWindow s)
    else
      (.error (.wrongToken (MAX_SETUP_ATTEMPTS - (w.wrong + 1))),
        { s with pairing := { s.pairing with setup := some { w with wrong := w.wrong + 1 } } })

/-- `request_press` (`pairing.rs:663`) after it has seen whether the unit has an owner or a paired
browser, with the name that was drawn, if one was. -/
def requestPress (now : Instant) (owned : Bool) (id : Option String) (s : State) :
    Except PairError String × State :=
  if owned then (.error .alreadyComplete, s)
  else
    match id with
    | none => (.error .storage, s)
    | some id =>
      match s.pairing.press.filter fun p => now - p.created < PRESS_WINDOW with
      | some p => (.error (.pressPending (max ((PRESS_WINDOW - (now - p.created)) / seconds 1) 1)), s)
      | none =>
        (.ok id, { s with
          pairing := { s.pairing with press := some ⟨id, now, none⟩ }
          override :=
            if s.pairing.screen then s.override.showPicture now .pressTheButton PRESS_WINDOW
            else s.override })

/-- `Pairing::button_pressed` (`pairing.rs:722`). Where neither a request is approved nor the
fingerprint shown, it goes on with `openSetupWindow`, which is a call of its own. -/
def pairingButton (now : Instant) (s : State) : State :=
  match s.pairing.press.filter fun p => p.approved.isNone && now - p.created < PRESS_WINDOW with
  | some p =>
    { s with
      pairing := { s.pairing with press := some { p with approved := some now } }
      override :=
        if s.pairing.screen then s.override.showPicture now .continueOnYourPhone PRESS_WINDOW
        else s.override }
  | none =>
    match s.pairing.open? now, s.pairing.fingerprint with
    | some w, some hex =>
      if !s.pairing.showingFingerprint && s.pairing.screen then
        { s with
          pairing :=
            { s.pairing with
              showingFingerprint := true
              timers := (now + FINGERPRINT_VIEW) :: s.pairing.timers
              setup := some { w with opened := now } }
          override := s.override.showPicture now (.fingerprint hex) FINGERPRINT_VIEW }
      else s
    | _, _ => s

/-- What `show_fingerprint` (`pairing.rs:647`) leaves for when the fingerprint has been shown. -/
def fingerprintOver (now : Instant) (s : State) : State :=
  match s.pairing.timers.find? (· ≤ now) with
  | none => s
  | some due =>
    let s := { s with
      pairing := { s.pairing with
        showingFingerprint := false
        timers := s.pairing.timers.erase due } }
    match s.pairing.open? now with
    | some w => showCode now w.token s
    | none => s

end State

/-- The calls on the screen. -/
inductive Call
  | start (device : String) (code : Option String)
  | confirm (device code : String)
  | stepUpButton (first : String)
  | active (device : String)
  | extend (device : String)
  | endStepUp (device : String)
  | openSetupWindow (owned : Bool) (token : Option String)
  | closeSetupWindow
  | checkSetupToken (token : String)
  | requestPress (owned : Bool) (id : Option String)
  | pairingButton
  | fingerprintOver
  | paint
  deriving DecidableEq, Repr

/-- Whose call it is. -/
def Call.component : Call → Component
  | start _ _ | confirm _ _ | stepUpButton _ | active _ | extend _ | endStepUp _ => .stepUp
  | openSetupWindow _ _ | closeSetupWindow | checkSetupToken _ | requestPress _ _ | pairingButton
  | fingerprintOver => .pairing
  | paint => .display

/-- What a call does. -/
def State.step (s : State) (now : Instant) : Call → State
  | .start device code => (s.start now device code).2
  | .confirm device code => (s.confirm now device code).2
  | .stepUpButton first => (s.stepUpButton now first).2
  | .active device => (s.active now device).2
  | .extend device => s.extend now device
  | .endStepUp device => s.endStepUp now device
  | .openSetupWindow owned token => (s.openSetupWindow now owned token).2
  | .closeSetupWindow => s.closeSetupWindow
  | .checkSetupToken token => (s.checkSetupToken now token).2
  | .requestPress owned id => (s.requestPress now owned id).2
  | .pairingButton => s.pairingButton now
  | .fingerprintOver => s.fingerprintOver now
  | .paint => { s with override := s.override.paint now }

/-- `forever` (`main.rs:784`), a year. -/
def forever : Nat := seconds (3600 * 24 * 365)

/-- What stands on the screen from the start (`main.rs:785-791`). -/
def State.startUp (now : Instant) (storeDamaged tls : Bool) (tlsPort : UInt16) (s : State) : State :=
  { s with override :=
      if storeDamaged then s.override.showBanner now .storeDamaged forever
      else if !tls && tlsPort ≠ 0 then s.override.showBanner now .noTls forever
      else s.override }

end Rayhunter.Screen
