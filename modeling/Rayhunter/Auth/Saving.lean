import Rayhunter.Auth.Store

/-!
# Whether an operation that fails changes anything

The operations of `Pairing` as a whole: what each of them checks before it takes the lock, what it
changes under it, and what becomes of that when it cannot be saved. Memory is changed first and not
changed back, so `error_leaves_state_iff`: an operation that is answered with an error leaves
everything as it was unless it has changed something and could not save it.
-/

namespace Rayhunter.Auth

/-- What an operation meets. -/
structure Circumstances where
  /-- The setup proof, the code, or the guess it comes with. -/
  checked : Except PairError Unit
  /-- What the key derivation gives, if it is not interrupted. -/
  hash : Option String
  drawn : Drawn
  /-- Whether `save` (`pairing.rs:448`) can write. -/
  saved : Except String Unit

/-- The operations. -/
inductive Operation
  | finishSetup (passphrase : String) (deviceName : Option String) (userAgent : String)
  | changePassphrase (new : String)
  | pairWithCode (deviceName : Option String) (userAgent : String)
  | pairWithPassphrase (deviceName : Option String) (userAgent : String)
  | pairWithAccount (users : List WebUser) (username : String) (deviceName : Option String)
      (userAgent : String)
  | renameDevice (id name : String)
  | revokeDevice (id : String)
  deriving DecidableEq, Repr

/-- A passphrase that will do (`pairing.rs:816`, `:890-895`). -/
def checkPassphrase (passphrase : String) : Except PairError Unit :=
  if passphrase.length < MIN_PASSPHRASE_LEN ∨ MAX_PASSWORD_LEN < passphrase.utf8ByteSize then
    .error .passphraseTooShort
  else .ok ()

/-- `hash_off_thread` (`pairing.rs:1126`). -/
def hashed (hash : Option String) : Except PairError String :=
  match hash with
  | some hash => .ok hash
  | none => .error (.storage "hashing was interrupted")

/-- A name that will do (`pairing.rs:1068-1071`). -/
def checkName (name : String) : Except PairError String :=
  let name := Text.trim name
  if name = "" ∨ 64 < name.length then .error .noSuchDevice else .ok name

/-- The hash of the account that was logged in to (`pairing.rs:964-967`). -/
def hashOfAccount (users : List WebUser) (username : String) : Option String :=
  (users.find? (·.username = username)).map (·.passwordHash)

/-- What an operation does before it takes the lock. -/
def Operation.prepare (c : Circumstances) : Operation → Except PairError Write
  | finishSetup passphrase deviceName userAgent => do
    c.checked
    checkPassphrase passphrase
    return .finishSetup (← hashed c.hash) deviceName userAgent
  | changePassphrase new => do
    c.checked
    checkPassphrase new
    return .changePassphrase (← hashed c.hash)
  | pairWithCode deviceName userAgent => do
    c.checked
    return .pairWithCode deviceName userAgent
  | pairWithPassphrase deviceName userAgent => do
    c.checked
    return .pairWithPassphrase deviceName userAgent
  | pairWithAccount users username deviceName userAgent => do
    c.checked
    return .pairWithAccount (hashOfAccount users username) deviceName userAgent
  | renameDevice id name => do
    return .renameDevice id (← checkName name)
  | revokeDevice id => return .revokeDevice id

/-- What is done under the lock: the change, and then the save. -/
def Write.run (w : Write) (drawn : Drawn) (saved : Except String Unit) (s : AuthState) :
    Except PairError (Option IssuedDevice) × AuthState :=
  match w.change drawn s with
  | .error e => (.error e, s)
  | .ok (s', issued) =>
    match saved with
    | .ok () => (.ok issued, s')
    | .error e => (.error (.storage e), s')

/-- An operation with nothing else going on. -/
def Operation.run (op : Operation) (c : Circumstances) (s : AuthState) :
    Except PairError (Option IssuedDevice) × AuthState :=
  match op.prepare c with
  | .error e => (.error e, s)
  | .ok w => w.run c.drawn c.saved s

/-! ## What changes something -/

/-- Under the lock there is something to change. -/
def Write.Changes (drawn : Drawn) (s : AuthState) : Write → Prop
  | finishSetup _ _ _ => s.setupComplete = false ∧ s.devices = [] ∧ s.Admits drawn
  | changePassphrase hash => s.ownerPassphraseHash ≠ some hash
  | pairWithCode _ _ | pairWithPassphrase _ _ | pairWithAccount _ _ _ => s.Admits drawn
  | renameDevice id name => ∃ d, s.devices.find? (·.id = id) = some d ∧ d.name ≠ name
  | revokeDevice id => ∃ d ∈ s.devices, d.id = id
  | touch id => ∃ d, s.devices.find? (·.id = id) = some d ∧ d.lastSeen ≠ drawn.now

/-- An operation gets as far as the lock and changes something there. -/
def Operation.Changes (op : Operation) (c : Circumstances) (s : AuthState) : Prop :=
  ∃ w, op.prepare c = .ok w ∧ w.Changes c.drawn s

namespace AuthState

variable {s : AuthState} {drawn : Drawn} {deviceName : Option String} {userAgent : String}

/-- A device more is a change, whatever else is done to go with it. -/
theorem exists_addDevice_map_ne {f : AuthState × IssuedDevice → AuthState × Option IssuedDevice}
    (hf : ∀ p, (f p).1.devices = p.1.devices) :
    (∃ s' issued, (s.addDevice drawn deviceName userAgent).map f = .ok (s', issued) ∧ s' ≠ s) ↔
      s.Admits drawn := by
  constructor
  · rintro ⟨s', issued, h, -⟩
    cases hadd : s.addDevice drawn deviceName userAgent with
    | error e => rw [hadd] at h; cases h
    | ok p => exact (addDevice_eq_ok hadd).1
  · intro h
    obtain ⟨s₁, issued, hadd⟩ := exists_addDevice h deviceName userAgent
    obtain ⟨-, d, rfl⟩ := addDevice_eq_ok hadd
    refine ⟨_, _, by rw [hadd]; rfl, fun he => ?_⟩
    have hdevices := (hf _).symm.trans (congrArg AuthState.devices he)
    exact List.cons_ne_nil d [] (List.append_right_eq_self.1 hdevices)

/-- The first element that is sought is replaced, by itself or by another. -/
theorem findIdx?_modify {α : Type} (p : α → Bool) (f : α → α) (l : List α) :
    (l.find? p = none ∧ l.findIdx? p = none) ∨
      ∃ a i, l.find? p = some a ∧ l.findIdx? p = some i ∧ (l.modify i f = l ↔ f a = a) := by
  induction l with
  | nil => exact .inl ⟨rfl, rfl⟩
  | cons x l ih =>
    by_cases hx : p x
    · refine .inr ⟨x, 0, List.find?_cons_of_pos hx, by simp [List.findIdx?_cons, hx], ?_⟩
      simp
    · rw [List.find?_cons_of_neg hx, List.findIdx?_cons, if_neg hx]
      rcases ih with ⟨hfind, hidx⟩ | ⟨a, i, hfind, hidx, hiff⟩
      · exact .inl ⟨hfind, by rw [hidx]; rfl⟩
      · refine .inr ⟨a, i + 1, hfind, by rw [hidx]; rfl, ?_⟩
        simpa using hiff

/-- So is the device of an `id`. -/
theorem exists_mapDevice_ne {id : String} {f : TrustedDevice → TrustedDevice} :
    (∃ s', s.mapDevice id f = some s' ∧ s' ≠ s) ↔
      ∃ d, s.devices.find? (·.id = id) = some d ∧ f d ≠ d := by
  unfold mapDevice
  rcases findIdx?_modify (·.id = id) f s.devices with ⟨hfind, hidx⟩ | ⟨d, i, hfind, hidx, hiff⟩
  · simp [hfind, hidx]
  · rw [hfind, hidx]
    have hsame : ({ s with devices := s.devices.modify i f } = s) ↔ f d = d := by
      rw [← hiff]
      exact ⟨fun h => congrArg AuthState.devices h, fun h => by rw [h]⟩
    simp [hsame]

/-- Devices that go are a change. -/
theorem filter_length_eq_iff {id : String} :
    (s.devices.filter (·.id ≠ id)).length = s.devices.length ↔ ∀ d ∈ s.devices, d.id ≠ id := by
  simp [List.length_filter_eq_length_iff]

end AuthState

open AuthState

/-- What is made of what is made. -/
theorem except_map_map {ε α β γ : Type} (x : Except ε α) (f : α → β) (g : β → γ) :
    (x.map f).map g = x.map (g ∘ f) := by cases x <;> rfl

/-- There is something to change exactly where a change is made. -/
theorem Write.changes_iff {w : Write} {drawn : Drawn} {s : AuthState} :
    w.Changes drawn s ↔ ∃ s' issued, w.change drawn s = .ok (s', issued) ∧ s' ≠ s := by
  cases w with
  | finishSetup hash deviceName userAgent =>
    simp only [Changes, change, AuthState.finishSetup]
    by_cases hfresh : s.setupComplete = false ∧ s.devices = []
    · rw [if_neg (by simp [hfresh]), except_map_map, exists_addDevice_map_ne (fun _ => rfl)]
      exact ⟨fun h => h.2.2, fun h => ⟨hfresh.1, hfresh.2, h⟩⟩
    · have hold : (s.setupComplete || !s.devices.isEmpty) = true := by
        rw [← Bool.not_eq_false]
        simpa using hfresh
      rw [if_pos hold]
      constructor
      · rintro ⟨hc, hd, -⟩
        exact absurd ⟨hc, hd⟩ hfresh
      · rintro ⟨_, _, h, -⟩
        cases h
  | changePassphrase hash =>
    simp only [Changes, change]
    constructor
    · intro h
      exact ⟨_, _, rfl, fun he => h (congrArg AuthState.ownerPassphraseHash he).symm⟩
    · rintro ⟨_, _, ⟨⟩, hne⟩ he
      exact hne (by rw [← he])
  | pairWithCode deviceName userAgent => exact (exists_addDevice_map_ne fun _ => rfl).symm
  | pairWithPassphrase deviceName userAgent =>
    simp only [Changes, change, AuthState.pairWithPassphrase, except_map_map]
    exact (exists_addDevice_map_ne fun _ => rfl).symm
  | pairWithAccount hash deviceName userAgent =>
    simp only [Changes, change, AuthState.pairWithAccount, except_map_map]
    exact (exists_addDevice_map_ne fun _ => rfl).symm
  | renameDevice id name =>
    have hne : ∀ d : TrustedDevice, ({ d with name } : TrustedDevice) ≠ d ↔ d.name ≠ name := by
      intro d
      refine not_congr ⟨fun h => (congrArg TrustedDevice.name h).symm, fun h => by rw [← h]⟩
    simp only [Changes, ← hne, ← exists_mapDevice_ne, change, AuthState.renameDevice]
    cases s.mapDevice id fun d => { d with name } with
    | none => simp [Except.map]
    | some s' => simp [Except.map]
  | revokeDevice id =>
    simp only [Changes, change, AuthState.revokeDevice, filter_length_eq_iff]
    split
    · next h =>
      constructor
      · rintro ⟨d, hd, hid⟩
        exact absurd hid (h d hd)
      · rintro ⟨_, _, h, -⟩
        cases h
    · next h =>
      refine ⟨fun _ => ⟨_, _, rfl, fun he => h ?_⟩, fun _ => ?_⟩
      · exact filter_length_eq_iff.1 (congrArg (·.devices.length) he)
      · simpa using h
  | touch id =>
    have hne : ∀ d : TrustedDevice,
        ({ d with lastSeen := drawn.now } : TrustedDevice) ≠ d ↔ d.lastSeen ≠ drawn.now := by
      intro d
      refine not_congr ⟨fun h => (congrArg TrustedDevice.lastSeen h).symm, fun h => by rw [← h]⟩
    simp only [Changes, ← hne, ← exists_mapDevice_ne, change, AuthState.touch]
    cases s.mapDevice id fun d => { d with lastSeen := drawn.now } with
    | none => simp
    | some s' => simp

/-- What is done under the lock and answered with an error changes nothing unless there was
something to change and no saving it. -/
theorem Write.run_error_iff (w : Write) (drawn : Drawn) (saved : Except String Unit)
    (s : AuthState) :
    (∀ e, (w.run drawn saved s).1 = .error e → (w.run drawn saved s).2 = s) ↔
      ¬ (w.Changes drawn s ∧ ∃ e, saved = .error e) := by
  rw [changes_iff, run]
  cases hchange : w.change drawn s with
  | error e => simp
  | ok p =>
    obtain ⟨s', issued⟩ := p
    cases saved with
    | ok _ => simp
    | error e => simp

/-- **An operation that is answered with an error** leaves what is in memory as it was, unless it
got as far as changing something and could not save that. -/
theorem error_leaves_state_iff (op : Operation) (c : Circumstances) (s : AuthState) :
    (∀ e, (op.run c s).1 = .error e → (op.run c s).2 = s) ↔
      ¬ (op.Changes c s ∧ ∃ e, c.saved = .error e) := by
  rw [Operation.Changes, Operation.run]
  cases hprepare : op.prepare c with
  | error e => simp
  | ok w =>
    rw [Write.run_error_iff]
    simp

/-- A flash that is full. -/
def fullFlash : Circumstances where
  checked := .ok ()
  hash := some "pbkdf2-sha256$20000$c2FsdA==$aGFzaA=="
  drawn := ⟨.ok ⟨"dG9rZW4", "9f86d081884c7d65", "9f86d081"⟩, "2024-08-19T03:33:54+00:00"⟩
  saved := .error "No space left on device"

/-- On a full flash the setup fails, and the unit has an owner until it is started again. -/
theorem failed_setup_stands :
    ¬ ∀ (op : Operation) (c : Circumstances) (s : AuthState) (e : PairError),
      (op.run c s).1 = .error e → (op.run c s).2 = s := by
  intro h
  have hsame := h (.finishSetup "correct horse" (some "Laptop") "") fullFlash {} _ rfl
  exact absurd (congrArg AuthState.setupComplete hsame) (by decide)

end Rayhunter.Auth
