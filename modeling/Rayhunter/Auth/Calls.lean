import Mathlib.Logic.Function.Basic
import Rayhunter.Auth.Saving
import Rayhunter.Screen.Components

/-!
# Calls on the pairing of a unit, at the same time

`Pairing` (`daemon/src/pairing.rs`) with any number of calls under way. A call goes on at its own
pace from one `.await` to the next, and what it does between two of them is one step. The lock on
`AuthState` is held for writing while what was changed is saved; `setup_lock` is held for the whole
of a first contact; and one key derivation runs at a time (`web_auth.rs:103`). The guess a call
comes with is checked against the back-off before it waits for its turn, and counted after that.

A call nobody waits for any more goes no further and gives up what it holds. What it has changed
stays changed.
-/

namespace Rayhunter.Auth

open Screen (seconds)

/-- `web_auth::verify_password` (`web_auth.rs:133`). -/
class Pbkdf2 where
  verifyPassword : String → String → Bool

/-! ## The back-off -/

/-- `MAX_BACKOFF` (`pairing.rs:63`). -/
def MAX_BACKOFF : Nat := seconds 60

/-- `BACKOFF_MEMORY` (`pairing.rs:65`). -/
def BACKOFF_MEMORY : Nat := seconds (10 * 60)

/-- `Backoff` (`pairing.rs:186`). -/
structure Backoff where
  failures : Nat := 0
  lastFailure : Option Instant := none
  deriving DecidableEq, Repr

namespace Backoff

/-- How long the next attempt has to wait after so many failures. -/
def delay (failures : Nat) : Nat := min (seconds (2 ^ min failures 6)) MAX_BACKOFF

/-- `wait_remaining` (`pairing.rs:193`). -/
def waitRemaining (b : Backoff) (now : Instant) : Option Nat :=
  match b.lastFailure with
  | none => none
  | some last =>
    if BACKOFF_MEMORY ≤ now - last then none
    else if now ≤ last + delay b.failures then some (last + delay b.failures - now)
    else none

/-- `failed` (`pairing.rs:202`). The failures are a `u32`. -/
def failed (b : Backoff) (now : Instant) : Backoff :=
  let failures :=
    match b.lastFailure with
    | some last => if BACKOFF_MEMORY ≤ now - last then 0 else b.failures
    | none => b.failures
  ⟨min (failures + 1) (2 ^ 32 - 1), some now⟩

end Backoff

/-! ## Calls -/

/-- `PAIR_CODE_TTL` (`pairing.rs:248`). -/
def PAIR_CODE_TTL : Nat := seconds (5 * 60)

/-- `MAX_CODE_ATTEMPTS` (`pairing.rs:249`). -/
def MAX_CODE_ATTEMPTS : Nat := 5

/-- `PairCode` (`pairing.rs:261`). -/
structure PairCode where
  code : String
  created : Instant
  wrong : Nat
  deriving DecidableEq, Repr

/-- How a browser shows that its person holds the unit. -/
inductive Proof
  | token (token : String)
  | press (id : String)
  deriving DecidableEq, Repr

/-- What else it comes with. -/
structure SetupRequest where
  passphrase : String
  deviceName : Option String
  userAgent : String
  deriving DecidableEq, Repr

/-- What the passphrase is for: the terminal, another passphrase, or a browser to trust. -/
inductive Purpose
  | stepUp
  | change (new : String)
  | pair (deviceName : Option String) (userAgent : String)
  deriving DecidableEq, Repr

/-- What a key derivation is for. A guess has with it when the back-off was read. -/
inductive Job
  | setup (byPress : Bool) (request : SetupRequest)
  | newPassphrase (new : String)
  | passphrase (given hash : String) (purpose : Purpose) (started : Instant)
  | account (users : List WebUser) (username password : String) (deviceName : Option String)
      (userAgent : String) (started : Instant)
  deriving DecidableEq, Repr

/-- When a guess read the back-off. -/
def Job.started : Job → Option Instant
  | .passphrase _ _ _ started | .account _ _ _ _ _ started => some started
  | .setup _ _ | .newPassphrase _ => none

/-- What a call is answered. -/
inductive Answer
  | done
  | token (token : String)
  | press (id : String)
  | device (issued : IssuedDevice)
  deriving DecidableEq, Repr

/-- Where a call is. -/
inductive Phase
  | away
  /-- `open_setup_window`, before it reads `setup_complete`, and before it counts the devices. -/
  | opening
  | openingCounts
  /-- `request_press`, the same. -/
  | asking
  | askingCounts
  /-- A first contact waits for `setup_lock`, and has it. -/
  | completing (p : Proof) (request : SetupRequest)
  | checking (p : Proof) (request : SetupRequest)
  /-- `verify_passphrase` has read the back-off and not yet the hash. -/
  | reading (given : String) (purpose : Purpose) (started : Instant)
  /-- A key derivation waits for its turn, and runs. -/
  | queued (job : Job)
  | underway (job : Job)
  /-- A change waits for the lock, and is saved. -/
  | storing (w : Write) (byPress : Bool)
  | saving (w : Write) (byPress : Bool) (issued : Option IssuedDevice)
  | answered (r : Except PairError Answer)
  | gone

/-- A guess that was wrong: when it read the back-off, when it was done with, and how many failures
there were then. -/
structure WrongGuess where
  started : Instant
  done : Instant
  failures : Nat
  deriving DecidableEq, Repr

/-- A change that was made in memory. -/
structure Commit where
  write : Write
  before : AuthState
  after : AuthState
  deriving DecidableEq, Repr

/-- `Pairing` (`pairing.rs:226`) with the calls on it. The window, the request for a press and the
picture are in `screen`. `wrong` has the wrong guesses of the run of failures that is on, and
`commits` the changes in memory, the latest first in both. -/
structure PairingState where
  auth : AuthState := {}
  screen : Screen.State := {}
  backoff : Backoff := {}
  pairCode : Option PairCode := none
  now : Instant := 0
  writer : Option Nat := none
  setupLock : Option Nat := none
  kdfGate : Option Nat := none
  phase : Nat → Phase := fun _ => .away
  wrong : List WrongGuess := []
  commits : List Commit := []

/-- What happens. -/
inductive Event
  | tick (d : Nat)
  /-- The fingerprint has been shown. -/
  | fingerprintOver
  /-- A code is drawn for another browser. -/
  | mintCode (code : Except String String)
  /-- Calls. -/
  | openSetupWindow (i : Nat)
  | buttonPressed (i : Nat)
  | requestPress (i : Nat)
  | completeSetup (i : Nat) (p : Proof) (request : SetupRequest)
  | pairWithCode (i : Nat) (code : String) (deviceName : Option String) (userAgent : String)
  | verifyPassphrase (i : Nat) (given : String) (purpose : Purpose)
  | pairWithAccount (i : Nat) (users : List WebUser) (username password : String)
      (deviceName : Option String) (userAgent : String)
  | renameDevice (i : Nat) (id name : String)
  | revokeDevice (i : Nat) (id : String)
  | touch (i : Nat) (id : String)
  /-- Calls go on. -/
  | readComplete (i : Nat)
  | countDevices (i : Nat) (drawn : Except String String)
  | lockSetup (i : Nat)
  | prove (i : Nat)
  | readHash (i : Nat)
  | startKdf (i : Nat)
  | finishKdf (i : Nat) (hash : Option String)
  | write (i : Nat) (drawn : Drawn)
  | saved (i : Nat) (io : Except String Unit)
  | leave (i : Nat)

namespace PairingState

/-! ## What a call does to itself -/

/-- A call goes on. -/
def goTo (u : PairingState) (i : Nat) (p : Phase) : PairingState :=
  { u with phase := Function.update u.phase i p }

/-- Whoever holds a lock gives it up. -/
def release (i : Nat) (holder : Option Nat) : Option Nat := if holder = some i then none else holder

/-- A call is answered, and gives up `setup_lock`. -/
def reply (u : PairingState) (i : Nat) (r : Except PairError Answer) : PairingState :=
  { u.goTo i (.answered r) with setupLock := release i u.setupLock }

/-- A new call. -/
def call (u : PairingState) (i : Nat) (p : Phase) : Option PairingState :=
  match u.phase i with
  | .away => some (u.goTo i p)
  | _ => none

/-! ## Checks -/

/-- `check_backoff` (`pairing.rs:979`). -/
def checkBackoff (u : PairingState) : Except PairError Unit :=
  match u.backoff.waitRemaining u.now with
  | some left => .error (.backoff (max (left / seconds 1) 1))
  | none => .ok ()

/-- `note_failure` (`pairing.rs:987`), of a guess that has read the back-off some time ago. -/
def noteFailure (u : PairingState) (started : Instant) : PairingState :=
  let backoff := u.backoff.failed u.now
  { u with backoff, wrong := ⟨started, u.now, backoff.failures⟩ :: u.wrong }

/-- `note_success` (`pairing.rs:994`). -/
def noteSuccess (u : PairingState) : PairingState := { u with backoff := {}, wrong := [] }

/-- What `pair_with_code` (`pairing.rs:844-868`) says of a code. -/
def checkCode (u : PairingState) (code : String) : Except PairError Unit × PairingState :=
  let given := String.ofList (code.toList.filter (·.isDigit))
  match u.pairCode with
  | none => (.error .noCode, u)
  | some pc =>
    if PAIR_CODE_TTL ≤ u.now - pc.created then (.error .noCode, { u with pairCode := none })
    else if pc.code = given then (.ok (), { u with pairCode := none })
    else if MAX_CODE_ATTEMPTS ≤ pc.wrong + 1 then (.error .noCode, { u with pairCode := none })
    else
      (.error (.wrongToken (MAX_CODE_ATTEMPTS - (pc.wrong + 1))),
        { u with pairCode := some { pc with wrong := pc.wrong + 1 } })

/-- `press_status` (`pairing.rs:706`). -/
def pressStatus (u : PairingState) (id : String) : Option Bool :=
  match u.screen.pairing.press with
  | none => none
  | some p =>
    if p.id = id ∧ u.now - p.approved.getD p.created < Screen.PRESS_WINDOW then
      some p.approved.isSome
    else none

/-- An error of a call on the screen. Where nothing could be drawn, the text says why. -/
def ofScreen (text : String) : Screen.PairError → PairError
  | .alreadyComplete => .alreadyComplete
  | .windowClosed => .windowClosed
  | .wrongToken attemptsLeft => .wrongToken attemptsLeft
  | .pressPending secs => .pressPending secs
  | .storage => .storage text

/-- What a proof is worth (`pairing.rs:610`, `:778-781`). -/
def checkProof (u : PairingState) : Proof → Except PairError Unit × PairingState
  | .token token =>
    let r := u.screen.checkSetupToken u.now token
    (r.1.mapError (ofScreen ""), { u with screen := r.2 })
  | .press id => (if u.pressStatus id = some true then .ok () else .error .notPressed, u)

/-- A button press approves a request, or shows the fingerprint (`pairing.rs:723-750`), and that is
all. -/
def buttonTaken (u : PairingState) : Bool :=
  (u.screen.pairing.press.filter fun p =>
      p.approved.isNone && u.now - p.created < Screen.PRESS_WINDOW).isSome ||
    ((u.screen.pairing.open? u.now).isSome && u.screen.pairing.fingerprint.isSome &&
      !u.screen.pairing.showingFingerprint && u.screen.pairing.screen)

/-- `web_auth::credentials_are_valid` (`web_auth.rs:183`). An unknown name is checked against a hash
of nothing, and refused. -/
def credentialsAreValid [Pbkdf2] (users : List WebUser) (username password : String) : Bool :=
  if MAX_USERNAME_LEN < username.utf8ByteSize ∨ MAX_PASSWORD_LEN < password.utf8ByteSize then false
  else
    match users.find? (·.username = username) with
    | some user => Pbkdf2.verifyPassword password user.passwordHash
    | none => false

/-! ## Steps -/

/-- A call that asks whether the unit has an owner already (`pairing.rs:493`, `:664`, `:607`). -/
def readComplete (u : PairingState) (i : Nat) : Option PairingState :=
  if u.writer.isSome then none
  else
    match u.phase i with
    | .opening =>
      some (if u.auth.setupComplete then u.reply i (.error .alreadyComplete)
        else u.goTo i .openingCounts)
    | .asking =>
      some (if u.auth.setupComplete then u.reply i (.error .alreadyComplete)
        else u.goTo i .askingCounts)
    | _ => none

/-- It asks whether there is a device, and opens the window or waits for a press. -/
def countDevices (u : PairingState) (i : Nat) (drawn : Except String String) :
    Option PairingState :=
  let owned := !u.auth.devices.isEmpty
  let text := match drawn with | .ok _ => "" | .error e => e
  if u.writer.isSome then none
  else
    match u.phase i with
    | .openingCounts =>
      let r := u.screen.openSetupWindow u.now owned drawn.toOption
      some ({ u with screen := r.2 }.reply i ((r.1.mapError (ofScreen text)).map .token))
    | .askingCounts =>
      let r := u.screen.requestPress u.now owned drawn.toOption
      some ({ u with screen := r.2 }.reply i ((r.1.mapError (ofScreen text)).map .press))
    | _ => none

/-- A first contact has the lock for itself. -/
def lockSetup (u : PairingState) (i : Nat) : Option PairingState :=
  match u.setupLock, u.phase i with
  | none, .completing p request => some { u.goTo i (.checking p request) with setupLock := some i }
  | _, _ => none

/-- It is checked, and the passphrase that goes with it (`pairing.rs:604-611`, `:776-786`,
`:890-895`). -/
def prove (u : PairingState) (i : Nat) : Option PairingState :=
  if u.writer.isSome then none
  else
    match u.phase i with
    | .checking p request =>
      if u.auth.setupComplete then some (u.reply i (.error .alreadyComplete))
      else
        match u.checkProof p with
        | (.error e, u) => some (u.reply i (.error e))
        | (.ok (), u) =>
          match checkPassphrase request.passphrase with
          | .error e => some (u.reply i (.error e))
          | .ok () => some (u.goTo i (.queued (.setup (p matches .press _) request)))
    | _ => none

/-- A guess is counted as wrong, and answered. -/
def refuse (u : PairingState) (i : Nat) (started : Instant) : PairingState :=
  (u.noteFailure started).reply i (.error .wrongPassphrase)

/-- `verify_passphrase` (`pairing.rs:797-804`) reads the hash. A passphrase that is too long is
wrong without being derived. -/
def readHash (u : PairingState) (i : Nat) : Option PairingState :=
  if u.writer.isSome then none
  else
    match u.phase i with
    | .reading given purpose started =>
      match u.auth.ownerPassphraseHash with
      | none => some (u.reply i (.error .noPassphrase))
      | some hash =>
        if MAX_PASSWORD_LEN < given.utf8ByteSize then some (u.refuse i started)
        else some (u.goTo i (.queued (.passphrase given hash purpose started)))
    | _ => none

/-- A key derivation starts. -/
def startKdf (u : PairingState) (i : Nat) : Option PairingState :=
  match u.kdfGate, u.phase i with
  | none, .queued job => some { u.goTo i (.underway job) with kdfGate := some i }
  | _, _ => none

/-- What comes after a passphrase that was right (`pairing.rs:806`, `:815-819`, `:924`). -/
def verified (u : PairingState) (i : Nat) : Purpose → PairingState
  | .stepUp => u.reply i (.ok .done)
  | .change new =>
    match checkPassphrase new with
    | .error e => u.reply i (.error e)
    | .ok () => u.goTo i (.queued (.newPassphrase new))
  | .pair deviceName userAgent =>
    u.goTo i (.storing (.pairWithPassphrase deviceName userAgent) false)

/-- A hash that was derived is to be stored. -/
def store (u : PairingState) (i : Nat) (byPress : Bool) (w : String → Write)
    (hash : Option String) : PairingState :=
  match hashed hash with
  | .error e => u.reply i (.error e)
  | .ok hash => u.goTo i (.storing (w hash) byPress)

variable [Pbkdf2]

/-- A guess is right. One whose derivation was interrupted is not. -/
def Job.right (ran : Bool) : Job → Bool
  | .passphrase given hash _ _ => ran && Pbkdf2.verifyPassword given hash
  | .account users username password _ _ _ => ran && credentialsAreValid users username password
  | .setup _ _ | .newPassphrase _ => true

/-- A key derivation ends, with a hash or interrupted. What was derived for a guess is compared
there. -/
def finishKdf (u : PairingState) (i : Nat) (hash : Option String) : Option PairingState :=
  match u.phase i with
  | .underway job =>
    let u := { u with kdfGate := release i u.kdfGate }
    match job with
    | .setup byPress r =>
      some (u.store i byPress (.finishSetup · r.deviceName r.userAgent) hash)
    | .newPassphrase _ => some (u.store i false .changePassphrase hash)
    | .passphrase _ _ purpose started =>
      if Job.right hash.isSome job then some (u.noteSuccess.verified i purpose)
      else some (u.refuse i started)
    | .account users username _ deviceName userAgent started =>
      if Job.right hash.isSome job then
        some (u.noteSuccess.goTo i
          (.storing (.pairWithAccount (hashOfAccount users username) deviceName userAgent) false))
      else some (u.refuse i started)
  | _ => none

/-- A change is made in memory, or refused. -/
def write (u : PairingState) (i : Nat) (drawn : Drawn) : Option PairingState :=
  match u.writer, u.phase i with
  | none, .storing w byPress =>
    match w.change drawn u.auth with
    | .error e => some (u.reply i (.error e))
    | .ok (auth, issued) =>
      some { u.goTo i (.saving w byPress issued) with
        auth
        writer := some i
        commits := ⟨w, u.auth, auth⟩ :: u.commits }
  | _, _ => none

/-- A browser that is trusted ends the setup, whichever way it came (`pairing.rs:910`, `:932`,
`:973`), and a press that let it in is forgotten (`:789-790`). -/
def afterSave (u : PairingState) (w : Write) (byPress : Bool) : PairingState :=
  match w with
  | .finishSetup _ _ _ =>
    let screen := u.screen.closeSetupWindow
    let press := if byPress then none else screen.pairing.press
    { u with screen := { screen with pairing := { screen.pairing with press } } }
  | .pairWithPassphrase _ _ | .pairWithAccount _ _ _ =>
    { u with screen := u.screen.closeSetupWindow }
  | _ => u

/-- What a call is answered whose change was saved. -/
def answerOf : Option IssuedDevice → Answer
  | some issued => .device issued
  | none => .done

/-- The change is saved, or not. For the time a browser was seen that is only a warning
(`pairing.rs:1046`). -/
def saved (u : PairingState) (i : Nat) (io : Except String Unit) : Option PairingState :=
  match u.phase i with
  | .saving w byPress issued =>
    let u := { u with writer := release i u.writer }
    match io, w with
    | .ok (), _ => some ((u.afterSave w byPress).reply i (.ok (answerOf issued)))
    | .error _, .touch _ => some (u.reply i (.ok .done))
    | .error e, _ => some (u.reply i (.error (.storage e)))
  | _ => none

/-- Nobody waits for a call any more. A guess that is derived then is compared all the same, and not
counted. -/
def leave (u : PairingState) (i : Nat) : Option PairingState :=
  match u.phase i with
  | .away | .answered _ | .gone => none
  | p =>
    let wrong :=
      match p with
      | .underway job =>
        if Job.right true job then u.wrong
        else (job.started.map (⟨·, u.now, u.backoff.failures⟩)).toList ++ u.wrong
      | _ => u.wrong
    some { u.goTo i .gone with
      writer := release i u.writer
      setupLock := release i u.setupLock
      kdfGate := release i u.kdfGate
      wrong }

/-- One step. -/
def step (u : PairingState) : Event → Option PairingState
  | .tick d => some { u with now := u.now + d }
  | .fingerprintOver => some { u with screen := u.screen.fingerprintOver u.now }
  | .mintCode (.ok code) => some { u with pairCode := some ⟨code, u.now, 0⟩ }
  | .mintCode (.error _) => some u
  | .openSetupWindow i => u.call i .opening
  | .buttonPressed i =>
    ({ u with screen := u.screen.pairingButton u.now }.call i
      (if u.buttonTaken then .answered (.ok .done) else .opening))
  | .requestPress i => u.call i .asking
  | .completeSetup i p request => u.call i (.completing p request)
  | .pairWithCode i code deviceName userAgent =>
    match u.checkCode code with
    | (.ok (), u) => u.call i (.storing (.pairWithCode deviceName userAgent) false)
    | (.error e, u) => u.call i (.answered (.error e))
  | .verifyPassphrase i given purpose =>
    match u.checkBackoff with
    | .ok () => u.call i (.reading given purpose u.now)
    | .error e => u.call i (.answered (.error e))
  | .pairWithAccount i users username password deviceName userAgent =>
    match u.checkBackoff with
    | .ok () => u.call i (.queued (.account users username password deviceName userAgent u.now))
    | .error e => u.call i (.answered (.error e))
  | .renameDevice i id name =>
    match checkName name with
    | .ok name => u.call i (.storing (.renameDevice id name) false)
    | .error e => u.call i (.answered (.error e))
  | .revokeDevice i id => u.call i (.storing (.revokeDevice id) false)
  | .touch i id => u.call i (.storing (.touch id) false)
  | .readComplete i => u.readComplete i
  | .countDevices i drawn => u.countDevices i drawn
  | .lockSetup i => u.lockSetup i
  | .prove i => u.prove i
  | .readHash i => u.readHash i
  | .startKdf i => u.startKdf i
  | .finishKdf i hash => u.finishKdf i hash
  | .write i drawn => u.write i drawn
  | .saved i io => u.saved i io
  | .leave i => u.leave i

end PairingState

end Rayhunter.Auth
