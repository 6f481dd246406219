import Mathlib.Data.Rat.Defs
import Rayhunter.Lib.Text
import Rayhunter.Store.Manifest

/-!
# The settings

What the handlers of `daemon/src/server.rs` that change `config.toml` look at and set. The other
fields of `Config` are one, `other`, of any type.
-/

namespace Rayhunter

/-- `WebUser` (`web_auth.rs:53`), an account of the web interface. -/
structure WebUser where
  username : String
  passwordHash : String
  deriving DecidableEq, Repr

/-- `WebdavConfig` (`config.rs:386`). -/
structure WebdavConfig where
  url : String := ""
  username : Option String := none
  password : Option String := none
  uploadTimeoutSecs : UInt64 := 300
  pollIntervalSecs : UInt64 := 3600
  minAgeSecs : Int := 86400
  deleteOnUpload : Bool := false
  deriving DecidableEq, Repr

/-- `wifi_station::SecurityType`. -/
inductive SecurityType
  | wpaPsk
  | sae
  deriving DecidableEq, Repr

/-- `Config` (`config.rs:158`). -/
structure Config (ρ : Type) where
  qmdlStorePath : String := "/data/rayhunter/qmdl"
  removableStorePath : Option String := none
  webUsers : List WebUser := []
  terminalEnabled : Bool := false
  adbEnabled : Option Bool := none
  gpsMode : GpsMode := .disabled
  gpsFixedLatitude : Option ℚ := none
  gpsFixedLongitude : Option ℚ := none
  gpsApiOpen : Bool := false
  wifiSsid : Option String := none
  wifiPassword : Option String := none
  wifiSecurity : Option SecurityType := none
  webdav : WebdavConfig := {}
  other : ρ
  deriving DecidableEq, Repr

/-- `WebdavConfig::validate` (`config.rs:429`). -/
def WebdavConfig.validate (c : WebdavConfig) : Except String Unit :=
  if ¬ (1 ≤ c.uploadTimeoutSecs ∧ c.uploadTimeoutSecs ≤ 3600) then
    .error s!"webdav upload_timeout_secs must be between 1 and 3600, got {c.uploadTimeoutSecs}"
  else if ¬ (1 ≤ c.pollIntervalSecs ∧ c.pollIntervalSecs ≤ 604800) then
    .error s!"webdav poll_interval_secs must be between 1 and 604800, got {c.pollIntervalSecs}"
  else if ¬ (0 ≤ c.minAgeSecs ∧ c.minAgeSecs ≤ 315360000) then
    .error s!"webdav min_age_secs must be between 0 and 315360000, got {c.minAgeSecs}"
  else .ok ()

/-- The settings of the defaults are accepted. -/
theorem WebdavConfig.validate_default : ({} : WebdavConfig).validate = .ok () := rfl

namespace Config

variable {ρ : Type}

/-- `validate_storage` (`config.rs:560`). -/
def validateStorage (c : Config ρ) : Except String Unit :=
  match c.removableStorePath.map Text.trim with
  | none => .ok ()
  | some removable =>
    if removable = "" then .ok ()
    else if removable.toList.head? ≠ some '/' then
      .error s!"removable_store_path must be an absolute path, got {removable}"
    else if Text.trimEndMatches removable "/" = Text.trimEndMatches c.qmdlStorePath "/" then
      .error "removable_store_path must differ from qmdl_store_path (internal storage)"
    else .ok ()

/-- The network of the WiFi client is kept elsewhere (`server.rs:1051`, `:2692`). -/
def withoutWifi (c : Config ρ) : Config ρ :=
  { c with wifiSsid := none, wifiPassword := none, wifiSecurity := none }

/-- What `set_config` makes of a request before it looks at it further (`server.rs:1019-1027`): the
parts of the position that do not go with its mode are left out. -/
def withoutUnusedGps (c : Config ρ) : Config ρ :=
  let c := if c.gpsMode ≠ .fixed then { c with gpsFixedLatitude := none, gpsFixedLongitude := none }
    else c
  if c.gpsMode ≠ .api then { c with gpsApiOpen := false } else c

/-- What `set_config` writes (`server.rs:1036-1053`): the accounts of the daemon that runs, its
terminal switch, and its password where the request has none. -/
def toWrite (c startUp : Config ρ) (users : List WebUser) : Config ρ :=
  let c := { c with webUsers := users, terminalEnabled := startUp.terminalEnabled }
  let c := if c.webdav.password.isNone then
      { c with webdav := { c.webdav with password := startUp.webdav.password } }
    else c
  c.withoutWifi

/-- What `write_web_users` writes (`server.rs:2690-2694`): the settings the daemon was started with
and other accounts. -/
def withUsers (startUp : Config ρ) (users : List WebUser) : Config ρ :=
  { startUp with webUsers := users }.withoutWifi

@[simp] theorem webUsers_toWrite (c startUp : Config ρ) (users : List WebUser) :
    (c.toWrite startUp users).webUsers = users := by
  unfold toWrite
  dsimp only
  split <;> rfl

@[simp] theorem webUsers_withUsers (startUp : Config ρ) (users : List WebUser) :
    (startUp.withUsers users).webUsers = users := rfl

/-- A configuration is what it is but for its accounts. -/
def SameSettings (c c' : Config ρ) : Prop := { c with webUsers := [] } = { c' with webUsers := [] }

/-- The checks `set_config` makes of a request (`server.rs:1011-1034`). The answer is a status and
a text. -/
def check (c startUp : Config ρ) (steppedUp : Bool) :
    Except (Nat × String) (Config ρ) :=
  let turningAdbOn := c.adbEnabled = some true ∧ startUp.adbEnabled ≠ some true
  if turningAdbOn ∧ !steppedUp then .error (428, "\x7b\"stepup\":\"required\",\"for\":\"adb_enabled\"\x7d")
  else
    let c := c.withoutUnusedGps
    match c.webdav.validate, c.validateStorage with
    | .error msg, _ => .error (400, msg)
    | .ok (), .error msg => .error (400, msg)
    | .ok (), .ok () => .ok c

end Config

/-! ## Accounts -/

/-- `MAX_USERNAME_LEN` (`web_auth.rs:45`). -/
def MAX_USERNAME_LEN : Nat := 64

/-- `MAX_PASSWORD_LEN` (`web_auth.rs:44`). -/
def MAX_PASSWORD_LEN : Nat := 256

/-- What a request asks for: an account with a password, or that there is none. -/
inductive AccountChange
  | set (username password : String)
  | delete (username : String)
  deriving DecidableEq, Repr

/-- The checks `set_web_user` makes of a request (`server.rs:2602-2626`). -/
def checkWebUser (username password : String) : Except (Nat × String) AccountChange :=
  let username := Text.trim username
  if username = "" then .error (400, "username is empty")
  else if MAX_USERNAME_LEN < username.utf8ByteSize then
    .error (400, s!"username is too long (limit {MAX_USERNAME_LEN} bytes)")
  else if password.length < 8 then .error (400, "password must be at least 8 characters")
  else if MAX_PASSWORD_LEN < password.utf8ByteSize then
    .error (400, s!"password is too long (limit {MAX_PASSWORD_LEN} bytes)")
  else .ok (.set username password)

/-- What is done to the accounts. -/
inductive AccountEdit
  | put (username passwordHash : String)
  | remove (username : String)
  deriving DecidableEq, Repr

/-- The first account of a name gets another password, or a new one comes last. -/
def putUser (username passwordHash : String) : List WebUser → List WebUser
  | [] => [⟨username, passwordHash⟩]
  | u :: users =>
    if u.username = username then { u with passwordHash } :: users
    else u :: putUser username passwordHash users

/-- The accounts after it. -/
def AccountEdit.apply : AccountEdit → List WebUser → List WebUser
  | put username passwordHash, users => putUser username passwordHash users
  | remove username, users => users.filter (·.username ≠ username)

/-- What the answer says of it (`server.rs:2650`, `:2681`). -/
def AccountEdit.done : AccountEdit → String
  | put username _ => s!"saved {username}"
  | remove username => s!"removed {username}"

end Rayhunter
