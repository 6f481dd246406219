import Rayhunter.Recorder.Task
import Rayhunter.Settings.Config

/-!
# A request that names some of the settings

The body of `POST /api/config` may have any of the settings in it. What it does not name is filled in
while it is read, with what a fresh configuration has (`Config.ofBody`), before `set_config` sees
it, and `set_config` knows of three settings only that they are not for the request to say. So
saving some settings sets the others back (`unnamed_reset`), unless they are at their defaults
already (`unnamed_kept_iff`).
-/

namespace Rayhunter

/-! ## The settings by name -/

/-- `Device` (`lib/src/lib.rs:43`), the kinds of units. -/
inductive UnitKind
  | orbic
  | tplink
  | tmobile
  | wingtech
  | pinephone
  | uz801
  | moxee
  deriving DecidableEq, Repr

/-- `UiLevel` (`config.rs:22`). -/
inductive UiLevel
  | invisible
  | subtle
  | demo
  | effLogo
  | highVisibility
  | customGif
  | transFlag
  deriving DecidableEq, Repr

/-- `ClockSyncMode` (`config.rs:42`). -/
inductive ClockSyncMode
  | off
  | autosync
  | prompt
  deriving DecidableEq, Repr

/-- `KeyInputMode` (`config.rs:54`). -/
inductive KeyInputMode
  | disabled
  | doubleTapPower
  deriving DecidableEq, Repr

/-- `KeepScreenOn` (`config.rs:72`). -/
inductive KeepScreenOn
  | never
  | always
  | whenPluggedIn
  deriving DecidableEq, Repr

/-- `WifiApOffMode` (`wifi_ap.rs:39`). -/
inductive WifiApOffMode
  | temporary
  | untilRestart
  deriving DecidableEq, Repr

/-- `DISPLAY_STATE_KEYS` (`config.rs:108`), the fields of `DisplayColors` and `DisplayGifs`. -/
inductive DisplayStateKey
  | paused
  | recording
  | warningLow
  | warningMedium
  | warningHigh
  deriving DecidableEq, Repr

/-- The fields of `AnalyzerConfig` (`analyzer.rs:34`). -/
inductive AnalyzerKey
  | diagnosticAnalyzer
  | connectionRedirect2gDowngrade
  | lteSib6And7Downgrade
  | nullCipher
  | nasNullCipher
  | incompleteSib
  | testAnalyzer
  | imsiRequested
  | lppLocationRequest
  | lppLocationTracking
  | rrlpLocationRequest
  | timingAdvance
  | flashCatch
  | noNasMessages
  deriving DecidableEq, Repr

/-- The settings the handlers do not look at. -/
inductive OtherSetting
  | removableStoreDevice
  | diagDevicePath
  | port
  | debugMode
  | device
  | uiLevel
  | colorblindMode
  | displayColors (state : DisplayStateKey)
  | statusBarHeight
  | displayGifs (state : DisplayStateKey)
  | gifStorePath
  | demoMode
  | keyInputMode
  | authStorePath
  | tlsPort
  | frontDoorAddress
  | serveWifiClientAddress
  | showSubscriberIdentity
  | keepScreenOn
  | pauseDisplayOnKeypress
  | wifiApButtonToggle
  | wifiApTogglePresses
  | wifiApToggleWindowSecs
  | wifiApOffMode
  | wifiApOffMinutes
  | ntfyUrl
  | enabledNotifications
  | autoCheckUpdates
  | clockSyncMode
  | analyzers (analyzer : AnalyzerKey)
  | minSpaceToStartRecordingMb
  | minSpaceToContinueRecordingMb
  | autoDeleteCleanRecordings
  | maxRecordingSizeMb
  | maxRecordingMinutes
  | wifiEnabled
  | dnsServers
  deriving DecidableEq, Repr

/-- What a setting can be. -/
def OtherSetting.Value : OtherSetting → Type
  | removableStoreDevice | diagDevicePath | displayColors _ | displayGifs _ | frontDoorAddress
  | ntfyUrl => Option String
  | gifStorePath | authStorePath => String
  | port | tlsPort => UInt16
  | debugMode | colorblindMode | demoMode | serveWifiClientAddress | showSubscriberIdentity
  | pauseDisplayOnKeypress | wifiApButtonToggle | autoCheckUpdates | analyzers _
  | autoDeleteCleanRecordings | wifiEnabled => Bool
  | device => UnitKind
  | uiLevel => UiLevel
  | statusBarHeight => Option UInt32
  | keyInputMode => KeyInputMode
  | keepScreenOn => KeepScreenOn
  | wifiApTogglePresses => UInt8
  | wifiApToggleWindowSecs | wifiApOffMinutes | minSpaceToStartRecordingMb
  | minSpaceToContinueRecordingMb => UInt64
  | wifiApOffMode => WifiApOffMode
  | enabledNotifications => List NotificationType
  | clockSyncMode => ClockSyncMode
  | maxRecordingSizeMb | maxRecordingMinutes => Option UInt64
  | dnsServers => Option (List String)

/-- The analyzers that `AnalyzerConfig::default` (`analyzer.rs:54`) has on. -/
def AnalyzerKey.default : AnalyzerKey → Bool
  | testAnalyzer | noNasMessages => false
  | _ => true

/-- What `Config::default` (`config.rs:462`) has for a setting. -/
def OtherSetting.default : (s : OtherSetting) → s.Value
  | removableStoreDevice => none
  | diagDevicePath => none
  | port => (8080 : UInt16)
  | debugMode => false
  | device => UnitKind.orbic
  | uiLevel => UiLevel.subtle
  | colorblindMode => false
  | displayColors _ => none
  | statusBarHeight => none
  | displayGifs _ => none
  | gifStorePath => "/data/rayhunter/gifs"
  | demoMode => false
  | keyInputMode => KeyInputMode.disabled
  | authStorePath => "/data/rayhunter/auth"
  | tlsPort => (8443 : UInt16)
  | frontDoorAddress => none
  | serveWifiClientAddress => true
  | showSubscriberIdentity => false
  | keepScreenOn => KeepScreenOn.never
  | pauseDisplayOnKeypress => true
  | wifiApButtonToggle => false
  | wifiApTogglePresses => (5 : UInt8)
  | wifiApToggleWindowSecs => (4 : UInt64)
  | wifiApOffMode => WifiApOffMode.temporary
  | wifiApOffMinutes => (60 : UInt64)
  | ntfyUrl => none
  | enabledNotifications =>
    [NotificationType.warning, NotificationType.lowBattery, NotificationType.storage]
  | autoCheckUpdates => true
  | clockSyncMode => ClockSyncMode.prompt
  | analyzers analyzer => analyzer.default
  | minSpaceToStartRecordingMb => (1 : UInt64)
  | minSpaceToContinueRecordingMb => (1 : UInt64)
  | autoDeleteCleanRecordings => false
  | maxRecordingSizeMb => none
  | maxRecordingMinutes => none
  | wifiEnabled => false
  | dnsServers => none

/-- `default_true` (`config.rs:446`). -/
def defaultTrue : Bool := true

/-- `default_wifi_ap_toggle_presses` (`config.rs:450`). -/
def defaultWifiApTogglePresses : UInt8 := 5

/-- `default_wifi_ap_toggle_window_secs` (`config.rs:454`). -/
def defaultWifiApToggleWindowSecs : UInt64 := 4

/-- `default_wifi_ap_off_minutes` (`config.rs:458`). -/
def defaultWifiApOffMinutes : UInt64 := 60

/-- What a setting is read as where it is missing: the default its field is declared with, if it is,
and else that of the configuration. -/
def OtherSetting.missing : (s : OtherSetting) → s.Value
  | frontDoorAddress => none
  | serveWifiClientAddress => defaultTrue
  | wifiApButtonToggle => false
  | wifiApTogglePresses => defaultWifiApTogglePresses
  | wifiApToggleWindowSecs => defaultWifiApToggleWindowSecs
  | wifiApOffMode => WifiApOffMode.temporary
  | wifiApOffMinutes => defaultWifiApOffMinutes
  | s => s.default

/-- The defaults of fields are those of the configuration. -/
theorem OtherSetting.missing_eq_default (s : OtherSetting) : s.missing = s.default := by
  cases s <;> rfl

/-- A value for each of them. -/
abbrev OtherSettings := (s : OtherSetting) → s.Value

/-- The settings a request can name: those that handlers look at, and the others. -/
inductive Setting
  | qmdlStorePath
  | removableStorePath
  | webUsers
  | terminalEnabled
  | adbEnabled
  | gpsMode
  | gpsFixedLatitude
  | gpsFixedLongitude
  | gpsApiOpen
  | wifiSsid
  | wifiPassword
  | wifiSecurity
  | webdavUrl
  | webdavUsername
  | webdavPassword
  | webdavUploadTimeoutSecs
  | webdavPollIntervalSecs
  | webdavMinAgeSecs
  | webdavDeleteOnUpload
  | other (s : OtherSetting)
  deriving DecidableEq, Repr

/-- What a setting can be. -/
def Setting.Value : Setting → Type
  | qmdlStorePath | webdavUrl => String
  | removableStorePath | wifiSsid | wifiPassword | webdavUsername | webdavPassword => Option String
  | webUsers => List WebUser
  | terminalEnabled | gpsApiOpen | webdavDeleteOnUpload => Bool
  | adbEnabled => Option Bool
  | gpsMode => GpsMode
  | gpsFixedLatitude | gpsFixedLongitude => Option ℚ
  | wifiSecurity => Option SecurityType
  | webdavUploadTimeoutSecs | webdavPollIntervalSecs => UInt64
  | webdavMinAgeSecs => Int
  | other s => s.Value

namespace Config

/-- What a configuration has for a setting. -/
def get (c : Config OtherSettings) : (s : Setting) → s.Value
  | .qmdlStorePath => c.qmdlStorePath
  | .removableStorePath => c.removableStorePath
  | .webUsers => c.webUsers
  | .terminalEnabled => c.terminalEnabled
  | .adbEnabled => c.adbEnabled
  | .gpsMode => c.gpsMode
  | .gpsFixedLatitude => c.gpsFixedLatitude
  | .gpsFixedLongitude => c.gpsFixedLongitude
  | .gpsApiOpen => c.gpsApiOpen
  | .wifiSsid => c.wifiSsid
  | .wifiPassword => c.wifiPassword
  | .wifiSecurity => c.wifiSecurity
  | .webdavUrl => c.webdav.url
  | .webdavUsername => c.webdav.username
  | .webdavPassword => c.webdav.password
  | .webdavUploadTimeoutSecs => c.webdav.uploadTimeoutSecs
  | .webdavPollIntervalSecs => c.webdav.pollIntervalSecs
  | .webdavMinAgeSecs => c.webdav.minAgeSecs
  | .webdavDeleteOnUpload => c.webdav.deleteOnUpload
  | .other s => c.other s

/-- `Config::default` (`config.rs:462`). -/
def fresh : Config OtherSettings := { other := OtherSetting.default }

end Config

/-! ## A body -/

/-- The body of a request: a value for each setting it names. -/
abbrev Body := (s : Setting) → Option s.Value

namespace Config

/-- A body read as a configuration: what it does not name has the default. -/
def ofBody (body : Body) : Config OtherSettings where
  qmdlStorePath := (body .qmdlStorePath).getD fresh.qmdlStorePath
  removableStorePath := (body .removableStorePath).getD fresh.removableStorePath
  webUsers := (body .webUsers).getD fresh.webUsers
  terminalEnabled := (body .terminalEnabled).getD fresh.terminalEnabled
  adbEnabled := (body .adbEnabled).getD none
  gpsMode := (body .gpsMode).getD fresh.gpsMode
  gpsFixedLatitude := (body .gpsFixedLatitude).getD fresh.gpsFixedLatitude
  gpsFixedLongitude := (body .gpsFixedLongitude).getD fresh.gpsFixedLongitude
  gpsApiOpen := (body .gpsApiOpen).getD false
  wifiSsid := (body .wifiSsid).getD fresh.wifiSsid
  wifiPassword := (body .wifiPassword).getD fresh.wifiPassword
  wifiSecurity := (body .wifiSecurity).getD fresh.wifiSecurity
  webdav :=
    { url := (body .webdavUrl).getD fresh.webdav.url
      username := (body .webdavUsername).getD fresh.webdav.username
      password := (body .webdavPassword).getD fresh.webdav.password
      uploadTimeoutSecs := (body .webdavUploadTimeoutSecs).getD fresh.webdav.uploadTimeoutSecs
      pollIntervalSecs := (body .webdavPollIntervalSecs).getD fresh.webdav.pollIntervalSecs
      minAgeSecs := (body .webdavMinAgeSecs).getD fresh.webdav.minAgeSecs
      deleteOnUpload := (body .webdavDeleteOnUpload).getD fresh.webdav.deleteOnUpload }
  other := fun s => (body (.other s)).getD s.missing

theorem get_ofBody (body : Body) (s : Setting) :
    (ofBody body).get s = (body s).getD (fresh.get s) := by
  cases s with
  | other s => exact congrArg (Option.getD (body (.other s))) s.missing_eq_default
  | _ => rfl

/-- `set_config` (`server.rs:1003`) up to the text of the file: what is written for a body, by a
daemon that was started with `startUp` and goes by the accounts `users`. -/
def setConfig (startUp : Config OtherSettings) (users : List WebUser) (body : Body)
    (steppedUp : Bool) : Except (Nat × String) (Config OtherSettings) :=
  ((ofBody body).check startUp steppedUp).map (·.toWrite startUp users)

end Config

namespace Setting

/-- What a handler clears or keeps elsewhere whatever the request has: the network of the WiFi
client, the fixed position in another mode, and the open switch in another mode. -/
def isForced (mode : GpsMode) : Setting → Bool
  | wifiSsid | wifiPassword | wifiSecurity => true
  | gpsFixedLatitude | gpsFixedLongitude => mode ≠ .fixed
  | gpsApiOpen => mode ≠ .api
  | _ => false

/-- What the daemon has for a setting that `set_config` carries over where the request does not
name it (`server.rs:1042-1050`). -/
def carried (startUp : Config OtherSettings) (users : List WebUser) : (s : Setting) → Option s.Value
  | webUsers => some users
  | terminalEnabled => some startUp.terminalEnabled
  | webdavPassword => some startUp.webdav.password
  | _ => none

end Setting

namespace Config

theorem check_eq_ok {ρ : Type} {c c' startUp : Config ρ} {steppedUp : Bool}
    (h : c.check startUp steppedUp = .ok c') : c' = c.withoutUnusedGps := by
  unfold check at h
  dsimp only at h
  split at h
  · cases h
  · split at h
    · cases h
    · cases h
    · exact (Except.ok.inj h).symm

theorem withoutUnusedGps_eq {ρ : Type} (c : Config ρ) :
    c.withoutUnusedGps =
      { c with
        gpsFixedLatitude := if c.gpsMode ≠ .fixed then none else c.gpsFixedLatitude
        gpsFixedLongitude := if c.gpsMode ≠ .fixed then none else c.gpsFixedLongitude
        gpsApiOpen := if c.gpsMode ≠ .api then false else c.gpsApiOpen } := by
  unfold withoutUnusedGps
  dsimp only
  split_ifs <;> rfl

/-- The parts of a position that do not go with the mode are the only ones taken out. -/
theorem get_withoutUnusedGps (c : Config OtherSettings) {s : Setting}
    (h : s.isForced c.gpsMode = false) : c.withoutUnusedGps.get s = c.get s := by
  rw [withoutUnusedGps_eq]
  cases s with
  | gpsFixedLatitude => exact if_neg (of_decide_eq_false h)
  | gpsFixedLongitude => exact if_neg (of_decide_eq_false h)
  | gpsApiOpen => exact if_neg (of_decide_eq_false h)
  | _ => rfl

theorem toWrite_eq {ρ : Type} (c startUp : Config ρ) (users : List WebUser) :
    c.toWrite startUp users =
      { c with
        webUsers := users
        terminalEnabled := startUp.terminalEnabled
        wifiSsid := none
        wifiPassword := none
        wifiSecurity := none
        webdav := { c.webdav with password := c.webdav.password.or startUp.webdav.password } } := by
  obtain ⟨_, _, _, _, _, _, _, _, _, _, _, _, ⟨_, _, password, _, _, _, _⟩, _⟩ := c
  cases password <;> rfl

theorem setConfig_eq_ok {startUp written : Config OtherSettings} {users : List WebUser} {body : Body}
    {steppedUp : Bool} (h : setConfig startUp users body steppedUp = .ok written) :
    written = (ofBody body).withoutUnusedGps.toWrite startUp users := by
  unfold setConfig at h
  cases hc : (ofBody body).check startUp steppedUp with
  | error e =>
    rw [hc] at h
    cases h
  | ok c =>
    rw [hc, check_eq_ok hc] at h
    exact (Except.ok.inj h).symm

/-- What has been asked for is written, where it is for the request to say. -/
theorem get_setConfig_named {startUp written : Config OtherSettings} {users : List WebUser}
    {body : Body} {steppedUp : Bool} (h : setConfig startUp users body steppedUp = .ok written)
    {s : Setting} (hf : s.isForced (ofBody body).gpsMode = false)
    (hc : s.carried startUp users = none) {v : s.Value} (hv : body s = some v) :
    written.get s = v := by
  have hget : (ofBody body).withoutUnusedGps.get s = v := by
    rw [get_withoutUnusedGps _ hf, get_ofBody, hv]
    rfl
  rw [setConfig_eq_ok h, toWrite_eq, ← hget]
  cases s with
  | webUsers => cases hc
  | terminalEnabled => cases hc
  | webdavPassword => cases hc
  | wifiSsid => cases hf
  | wifiPassword => cases hf
  | wifiSecurity => cases hf
  | _ => rfl

/-- What has not been asked for is written as the daemon has it or as a fresh configuration does. -/
theorem get_setConfig_unnamed {startUp written : Config OtherSettings} {users : List WebUser}
    {body : Body} {steppedUp : Bool} (h : setConfig startUp users body steppedUp = .ok written)
    {s : Setting} (hf : s.isForced (ofBody body).gpsMode = false) (hs : body s = none) :
    written.get s = (s.carried startUp users).getD (fresh.get s) := by
  have hget : (ofBody body).withoutUnusedGps.get s = fresh.get s := by
    rw [get_withoutUnusedGps _ hf, get_ofBody, hs]
    rfl
  rw [setConfig_eq_ok h, toWrite_eq]
  cases s with
  | webUsers => rfl
  | terminalEnabled => rfl
  | webdavPassword =>
    -- the password of a body without one is empty, so the daemon's comes in
    have hnone : (ofBody body).withoutUnusedGps.webdav.password = none := hget
    show (ofBody body).withoutUnusedGps.webdav.password.or startUp.webdav.password = _
    rw [hnone]
    rfl
  | wifiSsid => cases hf
  | wifiPassword => cases hf
  | wifiSecurity => cases hf
  | _ => exact hget

end Config

/-! ## What is left alone -/

/-- What a body does not name is stored as it comes out: at its default, or as the daemon has it
where the daemon's is carried over. -/
structure LeavesRest (startUp stored : Config OtherSettings) (users : List WebUser) (body : Body) :
    Prop where
  atDefault : ∀ s, body s = none → s.isForced (Config.ofBody body).gpsMode = false →
    s.carried startUp users = none → stored.get s = Config.fresh.get s
  inStep : ∀ s v, body s = none → s.carried startUp users = some v → stored.get s = v

/-- No setting that the daemon has is cleared. -/
theorem Setting.isForced_of_carried {startUp : Config OtherSettings} {users : List WebUser}
    {s : Setting} {v : s.Value} (h : s.carried startUp users = some v) (mode : GpsMode) :
    s.isForced mode = false := by
  cases s <;> first | rfl | cases h

/-- **What a request does not name stays as it was** just where what is stored for it is what comes
in its place. -/
theorem unnamed_kept_iff (startUp stored written : Config OtherSettings) (users : List WebUser)
    (body : Body) (steppedUp : Bool)
    (h : Config.setConfig startUp users body steppedUp = .ok written) :
    (∀ s, body s = none → s.isForced (Config.ofBody body).gpsMode = false →
      written.get s = stored.get s) ↔ LeavesRest startUp stored users body := by
  constructor
  · refine fun hkept => ⟨fun s hs hf hc => ?_, fun s v hs hc => ?_⟩
    · have hwritten := Config.get_setConfig_unnamed h hf hs
      rw [hkept s hs hf, hc] at hwritten
      exact hwritten
    · have hf := Setting.isForced_of_carried hc (Config.ofBody body).gpsMode
      have hwritten := Config.get_setConfig_unnamed h hf hs
      rw [hkept s hs hf, hc] at hwritten
      exact hwritten
  · intro hrest s hs hf
    rw [Config.get_setConfig_unnamed h hf hs]
    cases hc : s.carried startUp users with
    | none => exact (hrest.atDefault s hs hf hc).symm
    | some v => exact (hrest.inStep s v hs hc).symm

/-- A body that turns the colours for the colour-blind on and names nothing else. -/
def colorblindBody : Body
  | .other .colorblindMode => some true
  | _ => none

/-- On a unit with the settings it comes with it leaves them. -/
theorem unnamed_kept_iff_fresh :
    ∃ written, Config.setConfig Config.fresh [] colorblindBody false = .ok written ∧
      ∀ s, colorblindBody s = none → s.isForced (Config.ofBody colorblindBody).gpsMode = false →
        written.get s = Config.fresh.get s := by
  refine ⟨_, rfl, (unnamed_kept_iff Config.fresh Config.fresh _ [] colorblindBody false rfl).mpr
    ⟨fun _ _ _ _ => rfl, fun s v _ hc => ?_⟩⟩
  cases s <;> first | exact Option.some.inj hc | cases hc

/-- The settings of a unit that sends notifications. -/
def notifying : Config OtherSettings where
  other
    | .ntfyUrl => some "https://ntfy.sh/mine"
    | s => s.default

/-- On one that has been set up for notifications it takes away where they go. -/
theorem unnamed_reset :
    ¬ ∀ (stored written : Config OtherSettings) (body : Body) (steppedUp : Bool),
      Config.setConfig stored stored.webUsers body steppedUp = .ok written →
        ∀ s, body s = none → s.isForced (Config.ofBody body).gpsMode = false →
          written.get s = stored.get s := by
  intro h
  have hurl := h notifying _ colorblindBody false rfl (.other .ntfyUrl) rfl rfl
  cases hurl

end Rayhunter
