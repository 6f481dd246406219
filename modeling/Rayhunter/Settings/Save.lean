import Mathlib.Logic.Function.Basic
import Rayhunter.Lib.Reach
import Rayhunter.Settings.Config

/-!
# Saving the settings

`set_config`, `set_web_user` and `delete_web_user` (`daemon/src/server.rs`) with the file they all
write, as parties that take turns: a request stands still at each of its `.await`s. A save makes the
temporary file, or empties the one there is, writes to it piece by piece, and renames it to the
config file. The file is made by name, and from then on written through the handle, wherever the
name may be by then.
-/

namespace Rayhunter.Settings

/-- The files: what is in each of them, and which of them have the two names, `config.toml.new` and
`config.toml`. -/
structure Disk where
  files : Nat → List UInt8
  /-- Files from here on are not made yet. -/
  next : Nat
  temp : Option Nat
  target : Nat

namespace Disk

/-- `File::create` (`server.rs:2735`): the file that has the name is emptied, or there is a new
one. -/
def create (d : Disk) : Disk × Nat :=
  match d.temp with
  | some ino => ({ d with files := Function.update d.files ino [] }, ino)
  | none =>
    ({ d with files := Function.update d.files d.next [], next := d.next + 1, temp := some d.next },
      d.next)

/-- A piece is written at a place in a file. A file that ends before it is filled up with zeros. -/
def write (d : Disk) (ino offset : Nat) (piece : List UInt8) : Disk :=
  let old := d.files ino
  let before := old.take offset ++ List.replicate (offset - old.length) 0
  let new := before ++ piece ++ old.drop (offset + piece.length)
  { d with files := Function.update d.files ino new }

/-- `rename` (`server.rs:2739`) of the file that has the one name to the other. -/
def rename (d : Disk) : Option Disk := d.temp.map fun ino => { d with temp := none, target := ino }

/-- What is in the config file. -/
def config (d : Disk) : List UInt8 := d.files d.target

end Disk

variable {ρ : Type} (toml : Config ρ → Except String (List UInt8))

/-- For whom a save is. -/
inductive SaveKind (ρ : Type)
  | settings (request : Config ρ)
  | account (edit : AccountEdit)

/-- A save: what is to be in the file, and its text. -/
structure Save where
  kind : SaveKind ρ
  config : Config ρ
  text : List UInt8
  isText : toml config = .ok text

/-- Where `write_config_atomically` (`server.rs:2722`) is: before it makes the file, with so much
of the text written to it, and with the file closed. -/
inductive Stage
  | creating
  | writing (ino offset : Nat)
  | synced
  deriving DecidableEq, Repr

/-- Where a request is. -/
inductive Phase
  /-- There is no such request. -/
  | away
  /-- `set_config` before it reads the accounts (`server.rs:1042`). -/
  | checked (request : Config ρ)
  /-- `set_web_user` and `delete_web_user` before they have `WEB_USER_MUTATION`. -/
  | waiting (change : AccountChange)
  /-- They have it, before they read the accounts. -/
  | locked (change : AccountChange)
  /-- `set_web_user` with the accounts it has read, while the password is hashed. -/
  | hashing (username : String) (users : List WebUser)
  | saving (save : Save toml) (stage : Stage)
  /-- The file has the other name; what is left is to say so. -/
  | saved (save : Save toml)
  | answered (status : Nat) (text : String)

/-- The daemon: the files, the accounts it goes by (`ServerState.web_users`), who has
`WEB_USER_MUTATION`, and the requests. `log` has the saves that were renamed to the config file and
whose they were, the latest first. -/
structure State where
  disk : Disk
  webUsers : List WebUser
  lock : Option Nat
  phase : Nat → Phase toml
  log : List (Nat × Save toml)

/-- What happens to a request. What comes back from the system is in it. -/
inductive Action (ρ : Type)
  | setConfig (request : Config ρ) (steppedUp : Bool)
  | setWebUser (username password : String)
  | deleteWebUser (username : String)
  | lock
  | readUsers
  | hash (result : Except String String)
  | create (io : Except String Unit)
  | write (n : Nat)
  | writeFails (err : String)
  | sync (io : Except String Unit)
  | rename (io : Except String Unit)
  | finish

namespace SaveKind

/-- The answer where there is no text for what is to be saved (`server.rs:1055`, `:2696`). -/
def notText (err : String) : SaveKind ρ → String
  | settings _ => s!"failed to serialize config as TOML: {err}"
  | account _ => s!"failed to serialize config: {err}"

/-- The answer where the file was not written (`server.rs:1068`, `:2707`). -/
def notWritten (err : String) : SaveKind ρ → String
  | settings _ => s!"failed to write config file: {err}"
  | account _ => s!"failed to write config: {err}"

/-- Whether the save is for a request that has `WEB_USER_MUTATION`. -/
def isAccount : SaveKind ρ → Bool
  | settings _ => false
  | account _ => true

end SaveKind

namespace State

variable {toml}

/-- A request goes on. -/
def goTo (s : State toml) (i : Nat) (p : Phase toml) : State toml :=
  { s with phase := Function.update s.phase i p }

/-- It is answered, and gives back the lock if it had it. -/
def answer (s : State toml) (i : Nat) (locked : Bool) (status : Nat) (text : String) : State toml :=
  { s.goTo i (.answered status text) with lock := if locked then none else s.lock }

/-- There is something to save, and a text for it or not. -/
def beginSave (s : State toml) (i : Nat) (kind : SaveKind ρ) (config : Config ρ) : State toml :=
  match h : toml config with
  | .ok text => s.goTo i (.saving ⟨kind, config, text, h⟩ .creating)
  | .error err => s.answer i kind.isAccount 500 (kind.notText err)

/-- The file was not written. -/
def notWritten (s : State toml) (i : Nat) (save : Save toml) (err : String) : State toml :=
  s.answer i save.kind.isAccount 500 (save.kind.notWritten err)

end State

/-- One step of a request, if that is where it is. `startUp` is the configuration the daemon was
started with (`ServerState.config`). -/
def step (startUp : Config ρ) (s : State toml) : Nat × Action ρ → Option (State toml)
  | (i, .setConfig request steppedUp) =>
    match s.phase i with
    | .away =>
      match request.check startUp steppedUp with
      | .ok request => some (s.goTo i (.checked request))
      | .error (status, text) => some (s.answer i false status text)
    | _ => none
  | (i, .setWebUser username password) =>
    match s.phase i with
    | .away =>
      match checkWebUser username password with
      | .ok change => some (s.goTo i (.waiting change))
      | .error (status, text) => some (s.answer i false status text)
    | _ => none
  | (i, .deleteWebUser username) =>
    match s.phase i with
    | .away => some (s.goTo i (.waiting (.delete username)))
    | _ => none
  | (i, .lock) =>
    match s.phase i, s.lock with
    | .waiting change, none => some { s.goTo i (.locked change) with lock := some i }
    | _, _ => none
  | (i, .readUsers) =>
    match s.phase i with
    | .checked request =>
      some (s.beginSave i (.settings request) (request.toWrite startUp s.webUsers))
    | .locked (.set username _) => some (s.goTo i (.hashing username s.webUsers))
    | .locked (.delete username) =>
      let users := (AccountEdit.remove username).apply s.webUsers
      if users.length = s.webUsers.length then
        some (s.answer i true 404 s!"no account {username}")
      else some (s.beginSave i (.account (.remove username)) (startUp.withUsers users))
    | _ => none
  | (i, .hash result) =>
    match s.phase i, result with
    | .hashing username users, .ok hash =>
      let edit := AccountEdit.put username hash
      some (s.beginSave i (.account edit) (startUp.withUsers (edit.apply users)))
    | .hashing _ _, .error err => some (s.answer i true 500 s!"failed to hash password: {err}")
    | _, _ => none
  | (i, .create io) =>
    match s.phase i, io with
    | .saving save .creating, .ok () =>
      let (disk, ino) := s.disk.create
      some { s.goTo i (.saving save (.writing ino 0)) with disk }
    | .saving save .creating, .error err => some (s.notWritten i save err)
    | _, _ => none
  | (i, .write n) =>
    match s.phase i with
    | .saving save (.writing ino offset) =>
      if 0 < n ∧ offset + n ≤ save.text.length then
        some { s.goTo i (.saving save (.writing ino (offset + n))) with
          disk := s.disk.write ino offset ((save.text.drop offset).take n) }
      else none
    | _ => none
  | (i, .writeFails err) =>
    match s.phase i with
    | .saving save (.writing _ _) => some (s.notWritten i save err)
    | _ => none
  | (i, .sync io) =>
    match s.phase i, io with
    | .saving save (.writing _ offset), .ok () =>
      if offset = save.text.length then some (s.goTo i (.saving save .synced)) else none
    | .saving save (.writing _ _), .error err => some (s.notWritten i save err)
    | _, _ => none
  | (i, .rename io) =>
    match s.phase i, io with
    | .saving save .synced, .ok () =>
      match s.disk.rename with
      | some disk => some { s.goTo i (.saved save) with disk, log := (i, save) :: s.log }
      | none => some (s.notWritten i save "No such file or directory (os error 2)")
    | .saving save .synced, .error err => some (s.notWritten i save err)
    | _, _ => none
  | (i, .finish) =>
    match s.phase i with
    | .saved save =>
      match save.kind with
      | .settings _ => some (s.answer i false 202 "wrote config and triggered restart")
      | .account edit =>
        some { s.answer i true 202 edit.done with webUsers := save.config.webUsers }
    | _ => none

/-! ## What a step does -/

namespace Phase

variable {toml}

/-- Whether a request has `WEB_USER_MUTATION`. -/
def isLocked : Phase toml → Bool
  | locked _ | hashing _ _ => true
  | saving save _ | saved save => save.kind.isAccount
  | _ => false

/-- Whether an account change has been saved and not yet taken over. -/
def isPublishing : Phase toml → Bool
  | saved save => save.kind.isAccount
  | _ => false

/-- Whether its save has been renamed to the config file, and it is not answered. -/
def isSaved : Phase toml → Bool
  | saved _ => true
  | _ => false

/-- Whether it is answered. -/
def isAnswered : Phase toml → Bool
  | answered _ _ => true
  | _ => false

/-- The save that is between making the file and renaming it. -/
def underway : Phase toml → Option (Save toml)
  | saving save (.writing _ _) | saving save .synced => some save
  | _ => none

end Phase

/-- The cases of a step. -/
inductive Moves (startUp : Config ρ) (s : State toml) (i : Nat) : Action ρ → State toml → Prop
  | answered {a : Action ρ} (status : Nat) (text : String)
      (hopen : (s.phase i).isAnswered = false) (hpublished : (s.phase i).isPublishing = false)
      (hstatus : status = 202 ↔ (s.phase i).isSaved) :
      Moves startUp s i a (s.answer i (s.phase i).isLocked status text)
  | checked {a : Action ρ} (request : Config ρ) (h : s.phase i = .away) :
      Moves startUp s i a (s.goTo i (.checked request))
  | waits {a : Action ρ} (change : AccountChange) (h : s.phase i = .away) :
      Moves startUp s i a (s.goTo i (.waiting change))
  | locks (change : AccountChange) (h : s.phase i = .waiting change) (hfree : s.lock = none) :
      Moves startUp s i .lock { s.goTo i (.locked change) with lock := some i }
  | reads {a : Action ρ} (username password : String)
      (h : s.phase i = .locked (.set username password)) :
      Moves startUp s i a (s.goTo i (.hashing username s.webUsers))
  | beginsSettings (request : Config ρ) (save : Save toml) (h : s.phase i = .checked request)
      (hkind : save.kind = .settings request)
      (hconfig : save.config = request.toWrite startUp s.webUsers) :
      Moves startUp s i .readUsers (s.goTo i (.saving save .creating))
  | beginsDelete {a : Action ρ} (username : String) (save : Save toml)
      (h : s.phase i = .locked (.delete username)) (hkind : save.kind = .account (.remove username))
      (hconfig : save.config =
        startUp.withUsers ((AccountEdit.remove username).apply s.webUsers)) :
      Moves startUp s i a (s.goTo i (.saving save .creating))
  | beginsPut {a : Action ρ} (username hash : String) (users : List WebUser) (save : Save toml)
      (h : s.phase i = .hashing username users) (hkind : save.kind = .account (.put username hash))
      (hconfig : save.config = startUp.withUsers ((AccountEdit.put username hash).apply users)) :
      Moves startUp s i a (s.goTo i (.saving save .creating))
  | creates (save : Save toml) (h : s.phase i = .saving save .creating) :
      Moves startUp s i (.create (.ok ()))
        { s.goTo i (.saving save (.writing s.disk.create.2 0)) with disk := s.disk.create.1 }
  | writes {a : Action ρ} (save : Save toml) (ino offset n : Nat)
      (h : s.phase i = .saving save (.writing ino offset)) (hn : offset + n ≤ save.text.length) :
      Moves startUp s i a
        { s.goTo i (.saving save (.writing ino (offset + n))) with
          disk := s.disk.write ino offset ((save.text.drop offset).take n) }
  | syncs {a : Action ρ} (save : Save toml) (ino : Nat)
      (h : s.phase i = .saving save (.writing ino save.text.length)) :
      Moves startUp s i a (s.goTo i (.saving save .synced))
  | renames {a : Action ρ} (save : Save toml) (disk : Disk) (h : s.phase i = .saving save .synced)
      (hrename : s.disk.rename = some disk) :
      Moves startUp s i a { s.goTo i (.saved save) with disk, log := (i, save) :: s.log }
  | publishes {a : Action ρ} (save : Save toml) (edit : AccountEdit) (h : s.phase i = .saved save)
      (hkind : save.kind = .account edit) :
      Moves startUp s i a { s.answer i true 202 edit.done with webUsers := save.config.webUsers }

variable {toml}

/-- A save begins, or its request is answered. -/
theorem beginSave_cases (s : State toml) (i : Nat) (kind : SaveKind ρ) (config : Config ρ) :
    (∃ save : Save toml, save.kind = kind ∧ save.config = config ∧
      s.beginSave i kind config = s.goTo i (.saving save .creating)) ∨
    ∃ text, s.beginSave i kind config = s.answer i kind.isAccount 500 text := by
  unfold State.beginSave
  split
  · next text h => exact .inl ⟨⟨kind, config, text, h⟩, rfl, rfl, rfl⟩
  · exact .inr ⟨_, rfl⟩

/-- An answer to a request that gives back the lock it has. -/
theorem Moves.answer {startUp : Config ρ} {s : State toml} {i : Nat} {a : Action ρ} {locked : Bool}
    {status : Nat} {text : String} (hlocked : (s.phase i).isLocked = locked)
    (hopen : (s.phase i).isAnswered = false) (hpublished : (s.phase i).isPublishing = false) (hstatus : status = 202 ↔ (s.phase i).isSaved) :
    Moves toml startUp s i a (s.answer i locked status text) := by
  rw [← hlocked]
  exact .answered status text hopen hpublished hstatus

/-- A request that is refused is not answered as one that is done. -/
theorem check_status {c startUp : Config ρ} {steppedUp : Bool} {status : Nat} {text : String}
    (h : c.check startUp steppedUp = .error (status, text)) : status ≠ 202 := by
  unfold Config.check at h
  dsimp only at h
  split at h
  · cases h; decide
  · split at h <;> cases h <;> decide

theorem checkWebUser_status {username password : String} {status : Nat} {text : String}
    (h : checkWebUser username password = .error (status, text)) : status ≠ 202 := by
  unfold checkWebUser at h
  dsimp only at h
  repeat' split at h
  all_goals cases h
  all_goals decide

/-- Every step is one of the cases. -/
theorem step_moves {startUp : Config ρ} {s s' : State toml} {i : Nat} {a : Action ρ}
    (h : step toml startUp s (i, a) = some s') : Moves toml startUp s i a s' := by
  cases a with
  | setConfig request steppedUp =>
    simp only [step] at h
    split at h
    · next haway =>
      split at h
      · cases h; exact .checked _ haway
      · next status text herror =>
        have hstatus := check_status herror
        cases h
        exact .answer (by rw [haway]; rfl) (by rw [haway]; rfl) (by rw [haway]; rfl) (by simp [haway, Phase.isSaved, hstatus])
    · cases h
  | setWebUser username password =>
    simp only [step] at h
    split at h
    · next haway =>
      split at h
      · cases h; exact .waits _ haway
      · next status text herror =>
        have hstatus := checkWebUser_status herror
        cases h
        exact .answer (by rw [haway]; rfl) (by rw [haway]; rfl) (by rw [haway]; rfl) (by simp [haway, Phase.isSaved, hstatus])
    · cases h
  | deleteWebUser username =>
    simp only [step] at h
    split at h
    · next haway => cases h; exact .waits _ haway
    · cases h
  | lock =>
    simp only [step] at h
    split at h
    · next hphase hfree => cases h; exact .locks _ hphase hfree
    · cases h
  | readUsers =>
    simp only [step] at h
    split at h
    · next request hphase =>
      cases h
      rcases beginSave_cases s i (.settings request) (request.toWrite startUp s.webUsers) with
        ⟨save, hkind, hconfig, hbegin⟩ | ⟨text, hfail⟩
      · rw [hbegin]; exact .beginsSettings request save hphase hkind hconfig
      · rw [hfail]; exact .answer (by rw [hphase]; rfl) (by rw [hphase]; rfl) (by rw [hphase]; rfl) (by simp [hphase, Phase.isSaved])
    · next hphase => cases h; exact .reads _ _ hphase
    · next username hphase =>
      split at h
      · cases h; exact .answer (by rw [hphase]; rfl) (by rw [hphase]; rfl) (by rw [hphase]; rfl) (by simp [hphase, Phase.isSaved])
      · cases h
        rcases beginSave_cases s i (.account (.remove username))
            (startUp.withUsers ((AccountEdit.remove username).apply s.webUsers)) with
          ⟨save, hkind, hconfig, hbegin⟩ | ⟨text, hfail⟩
        · rw [hbegin]; exact .beginsDelete username save hphase hkind hconfig
        · rw [hfail]; exact .answer (by rw [hphase]; rfl) (by rw [hphase]; rfl) (by rw [hphase]; rfl) (by simp [hphase, Phase.isSaved])
    · cases h
  | hash result =>
    simp only [step] at h
    split at h
    · next username users hash hphase =>
      cases h
      rcases beginSave_cases s i (.account (.put username hash))
          (startUp.withUsers ((AccountEdit.put username hash).apply users)) with
        ⟨save, hkind, hconfig, hbegin⟩ | ⟨text, hfail⟩
      · rw [hbegin]; exact .beginsPut username hash users save hphase hkind hconfig
      · rw [hfail]; exact .answer (by rw [hphase]; rfl) (by rw [hphase]; rfl) (by rw [hphase]; rfl) (by simp [hphase, Phase.isSaved])
    · next hphase => cases h; exact .answer (by rw [hphase]; rfl) (by rw [hphase]; rfl) (by rw [hphase]; rfl) (by simp [hphase, Phase.isSaved])
    · cases h
  | create io =>
    simp only [step] at h
    split at h
    · next save hphase => cases h; exact .creates save hphase
    · next save err hphase => cases h; exact .answer (by rw [hphase]; rfl) (by rw [hphase]; rfl) (by rw [hphase]; rfl) (by simp [hphase, Phase.isSaved])
    · cases h
  | write n =>
    simp only [step] at h
    split at h
    · next save ino offset hphase =>
      split at h
      · next hn => cases h; exact .writes save ino offset n hphase hn.2
      · cases h
    · cases h
  | writeFails err =>
    simp only [step] at h
    split at h
    · next hphase => cases h; exact .answer (by rw [hphase]; rfl) (by rw [hphase]; rfl) (by rw [hphase]; rfl) (by simp [hphase, Phase.isSaved])
    · cases h
  | sync io =>
    simp only [step] at h
    split at h
    · next save ino offset hphase =>
      split at h
      · next hall => cases h; exact .syncs save ino (hall ▸ hphase)
      · cases h
    · next hphase => cases h; exact .answer (by rw [hphase]; rfl) (by rw [hphase]; rfl) (by rw [hphase]; rfl) (by simp [hphase, Phase.isSaved])
    · cases h
  | rename io =>
    simp only [step] at h
    split at h
    · next save hphase =>
      split at h
      · next disk hrename => cases h; exact .renames save disk hphase hrename
      · cases h; exact .answer (by rw [hphase]; rfl) (by rw [hphase]; rfl) (by rw [hphase]; rfl) (by simp [hphase, Phase.isSaved])
    · next hphase => cases h; exact .answer (by rw [hphase]; rfl) (by rw [hphase]; rfl) (by rw [hphase]; rfl) (by simp [hphase, Phase.isSaved])
    · cases h
  | finish =>
    simp only [step] at h
    split at h
    · next save hphase =>
      split at h
      · next hkind =>
        cases h
        exact .answer (by rw [hphase]; simp [Phase.isLocked, hkind, SaveKind.isAccount])
          (by rw [hphase]; rfl)
          (by rw [hphase]; simp [Phase.isPublishing, hkind, SaveKind.isAccount])
          (by rw [hphase]; simp [Phase.isSaved])
      · next edit hkind => cases h; exact .publishes save edit hphase hkind
    · cases h

end Rayhunter.Settings
