import Rayhunter.Lib.Lines
import Rayhunter.Settings.Config

/-!
# Which browsers are trusted

`AuthState` and what the operations of `Pairing` do to it (`daemon/src/pairing.rs`). Each of them is
refused, or changes what is in memory and then writes that to the flash. What is drawn for a new
device and what time it is then comes from elsewhere and is in `Drawn`.
-/

namespace Rayhunter.Auth

/-- `MIN_PASSPHRASE_LEN` (`pairing.rs:50`). -/
def MIN_PASSPHRASE_LEN : Nat := 8

/-- `MAX_DEVICES` (`pairing.rs:256`). -/
def MAX_DEVICES : Nat := 32

/-- `TrustedDevice` (`pairing.rs:69`). -/
structure TrustedDevice where
  id : String
  name : String
  tokenSha256 : String
  created : String
  lastSeen : String
  userAgent : String
  deriving DecidableEq, Repr

/-- `AuthState` (`pairing.rs:87`). -/
structure AuthState where
  setupComplete : Bool := false
  ownerPassphraseHash : Option String := none
  devices : List TrustedDevice := []
  deriving DecidableEq, Repr

/-- `IssuedDevice` (`pairing.rs:110`). -/
structure IssuedDevice where
  id : String
  name : String
  cookieValue : String
  deriving DecidableEq, Repr

/-- `PairError` (`pairing.rs:135`). -/
inductive PairError
  | alreadyComplete
  | windowClosed
  | wrongToken (attemptsLeft : Nat)
  | passphraseTooShort
  | wrongPassphrase
  | backoff (secs : Nat)
  | noPassphrase
  | noSuchDevice
  | noCode
  | notPressed
  | pressPending (secs : Nat)
  | tooManyDevices
  | storage (text : String)
  deriving DecidableEq, Repr

def PairError.display : PairError → String
  | alreadyComplete => "this unit is already set up"
  | windowClosed => "the setup window is closed; press the button on the unit to open it again"
  | wrongToken attemptsLeft => s!"wrong token; {attemptsLeft} attempts left"
  | passphraseTooShort => s!"the passphrase must be at least {MIN_PASSPHRASE_LEN} characters"
  | wrongPassphrase => "wrong passphrase"
  | backoff secs => s!"too many wrong attempts; wait {secs} seconds"
  | noPassphrase => "no passphrase has been set on this unit"
  | noSuchDevice => "no such device"
  | noCode => "no add-a-device code is active; make one from a trusted browser"
  | notPressed => "nobody pressed the button in time"
  | pressPending secs =>
    s!"another pairing request is already waiting for the button; try again in {secs} seconds"
  | tooManyDevices => s!"this unit already trusts {MAX_DEVICES} devices; remove one first"
  | storage text => s!"could not save: {text}"

/-! ## Devices -/

/-- A device cookie token and what is stored for it (`issue_token`, `pairing.rs:332`). -/
structure Token where
  value : String
  sha256 : String
  id : String
  deriving DecidableEq, Repr

/-- What is drawn for a new device, and what time it is then. -/
structure Drawn where
  token : Except String Token
  now : String

/-- `default_device_name` (`pairing.rs:341`). -/
def defaultDeviceName (userAgent : String) : String :=
  let ua := Text.contains userAgent.toList
  let platform :=
    if ua "iPhone" then "iPhone"
    else if ua "iPad" then "iPad"
    else if ua "Android" then "Android"
    else if ua "Windows" then "Windows"
    else if ua "Mac OS" || ua "Macintosh" then "Mac"
    else if ua "CrOS" then "Chromebook"
    else if ua "Linux" then "Linux"
    else "Browser"
  let browser :=
    if ua "Firefox/" then some "Firefox"
    else if ua "Edg/" then some "Edge"
    else if ua "OPR/" then some "Opera"
    else if ua "Chrome/" || ua "CriOS/" then some "Chrome"
    else if ua "Safari/" then some "Safari"
    else none
  match browser with
  | some b => s!"{platform} ({b})"
  | none => platform

/-- The first so many characters. -/
def takeChars (n : Nat) (s : String) : String := String.ofList (s.toList.take n)

/-- The name a device gets. -/
def nameOf (deviceName : Option String) (userAgent : String) : String :=
  match (deviceName.map Text.trim).filter (· ≠ "") with
  | some name => takeChars 64 name
  | none => defaultDeviceName userAgent

namespace AuthState

/-- `add_device` (`pairing.rs:1094`). -/
def addDevice (s : AuthState) (drawn : Drawn) (deviceName : Option String) (userAgent : String) :
    Except PairError (AuthState × IssuedDevice) :=
  if MAX_DEVICES ≤ s.devices.length then .error .tooManyDevices
  else
    match drawn.token with
    | .error e => .error (.storage e)
    | .ok token =>
      let name := nameOf deviceName userAgent
      let device : TrustedDevice :=
        { id := token.id
          name
          tokenSha256 := token.sha256
          created := drawn.now
          lastSeen := drawn.now
          userAgent := takeChars 256 userAgent }
      .ok ({ s with devices := s.devices ++ [device] }, ⟨token.id, name, token.value⟩)

/-- There is room for a device, and a token. -/
def Admits (s : AuthState) (drawn : Drawn) : Prop :=
  s.devices.length < MAX_DEVICES ∧ ∃ token, drawn.token = .ok token

variable {s s' : AuthState} {drawn : Drawn} {deviceName : Option String} {userAgent : String}
  {issued : IssuedDevice}

/-- A device that is added comes last, and there was room for it. -/
theorem addDevice_eq_ok (h : s.addDevice drawn deviceName userAgent = .ok (s', issued)) :
    s.Admits drawn ∧ ∃ d, s' = { s with devices := s.devices ++ [d] } := by
  unfold addDevice at h
  split at h
  · cases h
  · next hroom =>
    split at h
    · cases h
    · next token htoken =>
      cases h
      exact ⟨⟨Nat.lt_of_not_le hroom, token, htoken⟩, _, rfl⟩

/-- One is added where there is room for it. -/
theorem exists_addDevice (h : s.Admits drawn) (deviceName : Option String) (userAgent : String) :
    ∃ s' issued, s.addDevice drawn deviceName userAgent = .ok (s', issued) := by
  obtain ⟨hroom, token, htoken⟩ := h
  rw [addDevice, if_neg (by omega), htoken]
  exact ⟨_, _, rfl⟩

/-! ## What is done under the lock -/

/-- The same for a device that is named: the first one of this `id` gets something else. -/
def mapDevice (s : AuthState) (id : String) (f : TrustedDevice → TrustedDevice) :
    Option AuthState :=
  (s.devices.findIdx? (·.id = id)).map fun i => { s with devices := s.devices.modify i f }

/-- `finish_setup` (`pairing.rs:884`). -/
def finishSetup (s : AuthState) (drawn : Drawn) (hash : String) (deviceName : Option String)
    (userAgent : String) : Except PairError (AuthState × IssuedDevice) :=
  if s.setupComplete || !s.devices.isEmpty then .error .alreadyComplete
  else
    (s.addDevice drawn deviceName userAgent).map fun (s, issued) =>
      ({ s with ownerPassphraseHash := some hash, setupComplete := true }, issued)

/-- `pair_with_passphrase` (`pairing.rs:917`). -/
def pairWithPassphrase (s : AuthState) (drawn : Drawn) (deviceName : Option String)
    (userAgent : String) : Except PairError (AuthState × IssuedDevice) :=
  (s.addDevice drawn deviceName userAgent).map fun (s, issued) =>
    ({ s with setupComplete := true }, issued)

/-- `pair_with_account` (`pairing.rs:940`). -/
def pairWithAccount (s : AuthState) (drawn : Drawn) (hash : Option String)
    (deviceName : Option String) (userAgent : String) :
    Except PairError (AuthState × IssuedDevice) :=
  (s.addDevice drawn deviceName userAgent).map fun (s, issued) =>
    ({ s with ownerPassphraseHash := s.ownerPassphraseHash.or hash, setupComplete := true }, issued)

/-- `revoke_device` (`pairing.rs:1079`). -/
def revokeDevice (s : AuthState) (id : String) : Except PairError AuthState :=
  let devices := s.devices.filter (·.id ≠ id)
  if devices.length = s.devices.length then .error .noSuchDevice else .ok { s with devices }

/-- `rename_device` (`pairing.rs:1067`), with a name that will do. -/
def renameDevice (s : AuthState) (id name : String) : Except PairError AuthState :=
  match s.mapDevice id fun d => { d with name } with
  | none => .error .noSuchDevice
  | some s => .ok s

/-- `touch` (`pairing.rs:1025`). -/
def touch (s : AuthState) (id now : String) : AuthState :=
  (s.mapDevice id fun d => { d with lastSeen := now }).getD s

end AuthState

/-- What a call does while it holds the lock for writing. -/
inductive Write
  | finishSetup (hash : String) (deviceName : Option String) (userAgent : String)
  | changePassphrase (hash : String)
  | pairWithCode (deviceName : Option String) (userAgent : String)
  | pairWithPassphrase (deviceName : Option String) (userAgent : String)
  | pairWithAccount (hash : Option String) (deviceName : Option String) (userAgent : String)
  | renameDevice (id name : String)
  | revokeDevice (id : String)
  | touch (id : String)
  deriving DecidableEq, Repr

/-- What is changed in memory, and what a browser gets that is trusted from then on. -/
def Write.change (w : Write) (drawn : Drawn) (s : AuthState) :
    Except PairError (AuthState × Option IssuedDevice) :=
  match w with
  | finishSetup hash deviceName userAgent =>
    (s.finishSetup drawn hash deviceName userAgent).map fun (s, i) => (s, some i)
  | changePassphrase hash => .ok ({ s with ownerPassphraseHash := some hash }, none)
  | pairWithCode deviceName userAgent =>
    (s.addDevice drawn deviceName userAgent).map fun (s, i) => (s, some i)
  | pairWithPassphrase deviceName userAgent =>
    (s.pairWithPassphrase drawn deviceName userAgent).map fun (s, i) => (s, some i)
  | pairWithAccount hash deviceName userAgent =>
    (s.pairWithAccount drawn hash deviceName userAgent).map fun (s, i) => (s, some i)
  | renameDevice id name => (s.renameDevice id name).map (·, none)
  | revokeDevice id => (s.revokeDevice id).map (·, none)
  | touch id => .ok (s.touch id drawn.now, none)

end Rayhunter.Auth
