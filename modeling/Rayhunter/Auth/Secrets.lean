import Rayhunter.Auth.FirstContact

/-!
# What can be done with a setup token or a code

The token of a setup window and the code for another browser (`open_setup_window`,
`check_setup_token`, `mint_code` and `pair_with_code`, `daemon/src/pairing.rs`). What is minted, what
is guessed and who is let in is written down as it happens, and `live` tells from that alone what has
become of the secret that was minted last. `secrets_guarded`: in every run a secret is accepted only
while it lives, and a code lets in one device.
-/

namespace Rayhunter.Auth

open Runs
open Screen (seconds SETUP_WINDOW MAX_SETUP_ATTEMPTS normalizeToken)

/-- The secrets there are. -/
inductive Kind
  | token
  | code
  deriving DecidableEq, Repr

namespace Kind

/-- How long one is good. -/
def ttl : Kind → Nat
  | token => SETUP_WINDOW
  | code => PAIR_CODE_TTL

/-- How many wrong guesses one takes. -/
def attempts : Kind → Nat
  | token => MAX_SETUP_ATTEMPTS
  | code => MAX_CODE_ATTEMPTS

/-- What is read of a guess (`pairing.rs:573`, `:849`). -/
def read (k : Kind) (given : String) : String :=
  match k with
  | token => normalizeToken given
  | code => String.ofList (given.toList.filter (·.isDigit))

end Kind

/-- What happens to the secrets. -/
inductive Happening
  | minted (k : Kind) (secret : String) (now : Instant)
  /-- The clock of the token starts again. -/
  | rearmed (now : Instant)
  /-- Somebody is trusted, and the token is taken off the screen. -/
  | closed
  /-- A call guesses. -/
  | guessed (k : Kind) (i : Nat) (given : String) (now : Instant) (accepted : Bool)
  /-- A device is added for a call that came with a code. -/
  | joined (i : Nat)
  deriving DecidableEq, Repr

/-- What has become of a secret: since when its clock runs, and how many guesses were refused and
accepted since it was minted. -/
structure Minted where
  secret : String
  armed : Instant
  wrong : Nat := 0
  accepted : Nat := 0
  deriving DecidableEq, Repr

/-- The secret of a kind that was minted last. What happened last comes first. -/
def live (k : Kind) : List Happening → Option Minted
  | [] => none
  | .minted k' secret now :: log => if k' = k then some { secret, armed := now } else live k log
  | .rearmed now :: log =>
    if k = .token then (live k log).map fun m => { m with armed := now } else live k log
  | .closed :: log => if k = .token then none else live k log
  | .guessed k' _ _ _ accepted :: log =>
    if k' = k then
      (live k log).map fun m =>
        if accepted then { m with accepted := m.accepted + 1 } else { m with wrong := m.wrong + 1 }
    else live k log
  | .joined _ :: log => live k log

/-- How many codes were minted. -/
def codesMinted : List Happening → Nat
  | [] => 0
  | .minted .code _ _ :: log => codesMinted log + 1
  | _ :: log => codesMinted log

/-- Which of them let a call in. -/
def codeOf (i : Nat) : List Happening → Option Nat
  | [] => none
  | .guessed .code j _ _ true :: log => if j = i then some (codesMinted log) else codeOf i log
  | _ :: log => codeOf i log

/-- The calls for which a device was added. -/
def joins (log : List Happening) : List Nat :=
  log.filterMap fun | .joined i => some i | _ => none

/-- A guess may be accepted, after what has happened before it: it is the secret that was minted
last, in time, and there were not too many wrong guesses since. A code has not been used. -/
def Admissible (k : Kind) (given : String) (now : Instant) (log : List Happening) : Prop :=
  ∃ m, live k log = some m ∧ k.read given = m.secret ∧ m.armed ≤ now ∧ now - m.armed < k.ttl ∧
    m.wrong < k.attempts ∧ (k = .code → m.accepted = 0)

/-- What the secrets are good for. -/
structure Guarded (log : List Happening) : Prop where
  accepted : ∀ later k i given now earlier, log = later ++ .guessed k i given now true :: earlier →
    Admissible k given now earlier
  /-- Whoever was let in by a code was let in by one of those minted, each by another one. -/
  known : ∀ i ∈ joins log, (codeOf i log).isSome = true
  once : ((joins log).map (codeOf · log)).Nodup

/-- The change of a browser that came with a code. -/
def Write.byCode : Write → Bool
  | .pairWithCode _ _ => true
  | _ => false

/-- A call is to make that change. -/
def Phase.byCode : Phase → Bool
  | .storing w _ => w.byCode
  | _ => false

/-- A call has not come. -/
def Phase.isAway : Phase → Bool
  | .away => true
  | _ => false

namespace PairingState

/-- The button shows the fingerprint (`pairing.rs:737-745`), and starts the clock of the window
again. -/
def showsFingerprint (u : PairingState) : Bool :=
  (u.screen.pairing.press.filter fun p =>
      p.approved.isNone && u.now - p.created < Screen.PRESS_WINDOW).isNone &&
    (u.screen.pairing.open? u.now).isSome && u.screen.pairing.fingerprint.isSome &&
    !u.screen.pairing.showingFingerprint && u.screen.pairing.screen

/-- What an event is to the secrets. -/
def happens (u : PairingState) : Event → List Happening
  | .mintCode (.ok code) => [.minted .code code u.now]
  | .countDevices i drawn =>
    match u.phase i, u.auth.devices, u.screen.pairing.open? u.now, drawn with
    | .openingCounts, [], some _, _ => [.rearmed u.now]
    | .openingCounts, [], none, .ok token => [.minted .token token u.now]
    | _, _, _, _ => []
  | .buttonPressed _ => if u.showsFingerprint then [.rearmed u.now] else []
  | .prove i =>
    match u.phase i with
    | .checking (.token given) _ =>
      if u.auth.setupComplete then []
      else [.guessed .token i given u.now (u.checkProof (.token given)).1.isOk]
    | _ => []
  | .pairWithCode i given _ _ => [.guessed .code i given u.now (u.checkCode given).1.isOk]
  | .write i drawn =>
    match u.phase i with
    | .storing w _ => if w.byCode && (w.change drawn u.auth).isOk then [.joined i] else []
    | _ => []
  | .saved i (.ok ()) =>
    match u.phase i with
    | .saving w _ _ => if w.ends then [.closed] else []
    | _ => []
  | _ => []

end PairingState

open PairingState

/-- A unit, and what has happened to its secrets: the latest first. -/
structure SecretRun where
  unit : PairingState
  log : List Happening := []

namespace SecretRun

/-- There is no secret. -/
structure Starts (r : SecretRun) : Prop where
  unit : r.unit.Starts
  setup : r.unit.screen.pairing.setup = none
  pairCode : r.unit.pairCode = none
  log : r.log = []

def step [Pbkdf2] (r : SecretRun) (e : Event) : Option SecretRun :=
  (r.unit.step e).map fun u => ⟨u, r.unit.happens e ++ r.log⟩

end SecretRun

/-! ## The log -/

section Log

variable {log : List Happening} {h : Happening}

/-- What is added to a log in which everything accepted was admissible keeps it so, if it is no
guess that is accepted, or an admissible one. -/
theorem accepted_cons
    (hlog : ∀ later k i given now earlier, log = later ++ .guessed k i given now true :: earlier →
      Admissible k given now earlier)
    (hh : ∀ k i given now, h = .guessed k i given now true → Admissible k given now log)
    (later : List Happening) (k : Kind) (i : Nat) (given : String) (now : Instant)
    (earlier : List Happening) (heq : h :: log = later ++ .guessed k i given now true :: earlier) :
    Admissible k given now earlier := by
  cases later with
  | nil =>
    obtain ⟨rfl, rfl⟩ := List.cons.inj heq
    exact hh k i given now rfl
  | cons x later =>
    obtain ⟨rfl, rfl⟩ := List.cons.inj heq
    exact hlog later k i given now earlier rfl

end Log

/-! ## What a step leaves -/

namespace PairingState

/-- Nothing is done with a code. -/
structure Codeless (u u' : PairingState) : Prop where
  pairCode : u'.pairCode = u.pairCode
  now : u.now ≤ u'.now
  commits : u'.commits.filter (·.write.byCode) = u.commits.filter (·.write.byCode)
  away : ∀ j, (u'.phase j).isAway = true → (u.phase j).isAway = true
  byCode : ∀ j, (u'.phase j).byCode = true → (u.phase j).byCode = true

variable {u u' v : PairingState} {e : Event} {i : Nat} {p : Phase}

/-- A call that goes on, and has nothing to do with a code. -/
theorem Codeless.goes (hpair : u'.pairCode = u.pairCode) (hnow : u'.now = u.now)
    (hcommits : u'.commits = u.commits) (hphase : u'.phase = Function.update u.phase i p)
    (haway : p.isAway = false) (hcode : p.byCode = false) : Codeless u u' := by
  refine ⟨hpair, hnow.ge, by rw [hcommits], fun j hj => ?_, fun j hj => ?_⟩
  all_goals
    rw [hphase] at hj
    rcases eq_or_ne j i with rfl | hne
  · rw [Function.update_self, haway] at hj
    cases hj
  · rwa [Function.update_of_ne hne] at hj
  · rw [Function.update_self, hcode] at hj
    cases hj
  · rwa [Function.update_of_ne hne] at hj

/-- A call that comes. -/
theorem Codeless.call (h : v.call i p = some u') (hpair : v.pairCode = u.pairCode)
    (hnow : v.now = u.now) (hcommits : v.commits = u.commits) (hphase : v.phase = u.phase)
    (haway : p.isAway = false) (hcode : p.byCode = false) : Codeless u u' := by
  unfold PairingState.call at h
  split at h
  · cases h
    exact .goes (i := i) hpair hnow hcommits (by rw [← hphase]; rfl) haway hcode
  · cases h

theorem checkProof_codeless (u : PairingState) (p : Proof) :
    (u.checkProof p).2.pairCode = u.pairCode ∧ (u.checkProof p).2.now = u.now ∧
      (u.checkProof p).2.commits = u.commits ∧ (u.checkProof p).2.phase = u.phase := by
  cases p <;> exact ⟨rfl, rfl, rfl, rfl⟩

theorem afterSave_codeless (u : PairingState) (w : Write) (byPress : Bool) :
    (u.afterSave w byPress).pairCode = u.pairCode ∧ (u.afterSave w byPress).now = u.now ∧
      (u.afterSave w byPress).commits = u.commits ∧ (u.afterSave w byPress).phase = u.phase := by
  cases w <;> exact ⟨rfl, rfl, rfl, rfl⟩

theorem Codeless.store {byPress : Bool} {w : String → Write} {hash : Option String}
    (hpair : v.pairCode = u.pairCode) (hnow : v.now = u.now) (hcommits : v.commits = u.commits)
    (hphase : v.phase = u.phase) (hw : ∀ hash, (w hash).byCode = false) :
    Codeless u (v.store i byPress w hash) := by
  unfold PairingState.store
  split
  · exact .goes hpair hnow hcommits (by rw [← hphase]; rfl) rfl rfl
  · exact .goes (p := .storing (w _) byPress) hpair hnow hcommits (by rw [← hphase]; rfl) rfl (hw _)

theorem Codeless.verified (purpose : Purpose) (hpair : v.pairCode = u.pairCode)
    (hnow : v.now = u.now) (hcommits : v.commits = u.commits) (hphase : v.phase = u.phase) :
    Codeless u (v.verified i purpose) := by
  cases purpose with
  | stepUp | pair deviceName userAgent =>
    exact .goes hpair hnow hcommits (by rw [← hphase]; rfl) rfl rfl
  | change new =>
    unfold PairingState.verified
    dsimp only
    split <;> exact .goes hpair hnow hcommits (by rw [← hphase]; rfl) rfl rfl

/-- The events that are about codes. A change may be one that a code let in. -/
def ofCode : Event → Bool
  | .mintCode _ | .pairWithCode _ _ _ _ | .write _ _ => true
  | _ => false

variable [Pbkdf2]

theorem step_codeless (h : u.step e = some u') (he : ofCode e = false) : Codeless u u' := by
  cases e with
  | mintCode code | pairWithCode i code deviceName userAgent | write i drawn => cases he
  | tick d =>
    cases h
    exact ⟨rfl, Nat.le_add_right _ _, rfl, fun _ hj => hj, fun _ hj => hj⟩
  | fingerprintOver =>
    cases h
    exact ⟨rfl, Nat.le_refl _, rfl, fun _ hj => hj, fun _ hj => hj⟩
  | openSetupWindow i | requestPress i | completeSetup i p request | revokeDevice i id
  | touch i id => exact .call h rfl rfl rfl rfl rfl rfl
  | buttonPressed i =>
    refine .call h rfl rfl rfl rfl ?_ ?_ <;> split <;> rfl
  | verifyPassphrase i given purpose =>
    simp only [step] at h
    split at h <;> exact .call h rfl rfl rfl rfl rfl rfl
  | pairWithAccount i users username password deviceName userAgent =>
    simp only [step] at h
    split at h <;> exact .call h rfl rfl rfl rfl rfl rfl
  | renameDevice i id name =>
    simp only [step] at h
    split at h <;> exact .call h rfl rfl rfl rfl rfl rfl
  | readComplete i =>
    simp only [step, readComplete] at h
    split at h
    · cases h
    · split at h <;> cases h <;> split <;> exact .goes rfl rfl rfl rfl rfl rfl
  | countDevices i drawn =>
    simp only [step, countDevices] at h
    split at h
    · cases h
    · split at h <;> cases h <;> exact .goes rfl rfl rfl rfl rfl rfl
  | lockSetup i =>
    simp only [step, lockSetup] at h
    split at h <;> cases h
    exact .goes rfl rfl rfl rfl rfl rfl
  | prove i =>
    simp only [step, prove] at h
    split at h
    · cases h
    · split at h
      · next p request _ =>
        obtain ⟨hpair, hnow, hcommits, hphase⟩ := checkProof_codeless u p
        split at h
        · cases h
          exact .goes rfl rfl rfl rfl rfl rfl
        · split at h <;> rename_i hproof <;> rw [hproof] at hpair hnow hcommits hphase
          · cases h
            exact .goes hpair hnow hcommits (by rw [← hphase]; rfl) rfl rfl
          · split at h <;> cases h <;>
              exact .goes hpair hnow hcommits (by rw [← hphase]; rfl) rfl rfl
      · cases h
  | readHash i =>
    simp only [step, readHash] at h
    split at h
    · cases h
    · split at h
      · split at h
        · cases h
          exact .goes rfl rfl rfl rfl rfl rfl
        · split at h <;> cases h <;> exact .goes rfl rfl rfl rfl rfl rfl
      · cases h
  | startKdf i =>
    simp only [step, startKdf] at h
    split at h <;> cases h
    exact .goes rfl rfl rfl rfl rfl rfl
  | finishKdf i hash =>
    simp only [step, finishKdf] at h
    split at h
    · next job hphase =>
      cases job with
      | setup byPress r =>
        cases h
        exact .store rfl rfl rfl rfl fun _ => rfl
      | newPassphrase new =>
        cases h
        exact .store rfl rfl rfl rfl fun _ => rfl
      | passphrase given hash' purpose started =>
        simp only at h
        split at h <;> cases h
        · exact .verified purpose rfl rfl rfl rfl
        · exact .goes rfl rfl rfl rfl rfl rfl
      | account users username password deviceName userAgent started =>
        simp only at h
        split at h <;> cases h <;> exact .goes rfl rfl rfl rfl rfl rfl
    · cases h
  | saved i io =>
    simp only [step, saved] at h
    split at h
    · next w byPress issued hphase =>
      split at h <;> cases h
      · obtain ⟨hpair, hnow, hcommits, hph⟩ :=
          afterSave_codeless { u with writer := release i u.writer } w byPress
        exact .goes hpair hnow hcommits (congrArg (Function.update · i _) hph) rfl rfl
      · exact .goes rfl rfl rfl rfl rfl rfl
      · exact .goes rfl rfl rfl rfl rfl rfl
    · cases h
  | leave i =>
    simp only [step, leave] at h
    split at h <;> cases h
    exact .goes rfl rfl rfl rfl rfl rfl

omit [Pbkdf2] in
/-- A call that comes does nothing else. -/
theorem call_frame (h : v.call i p = some u') : u'.screen = v.screen ∧ u'.now = v.now := by
  unfold call at h
  split at h
  · cases h
    exact ⟨rfl, rfl⟩
  · cases h

omit [Pbkdf2] in
theorem checkCode_screen (u : PairingState) (code : String) :
    (u.checkCode code).2.screen = u.screen ∧ (u.checkCode code).2.now = u.now := by
  unfold checkCode
  dsimp only
  repeat' split
  all_goals exact ⟨rfl, rfl⟩

/-- The events that are about the setup window. -/
def ofWindow : Event → Bool
  | .countDevices _ _ | .buttonPressed _ | .prove _ | .saved _ _ => true
  | _ => false

omit [Pbkdf2] in
theorem setup_fingerprintOver (now : Instant) (s : Screen.State) :
    (s.fingerprintOver now).pairing.setup = s.pairing.setup := by
  unfold Screen.State.fingerprintOver Screen.State.showCode
  dsimp only
  repeat' split
  all_goals rfl

/-- Every other event leaves the window alone. -/
theorem step_setup (h : u.step e = some u') (he : ofWindow e = false) :
    u'.screen.pairing.setup = u.screen.pairing.setup ∧ u.now ≤ u'.now := by
  have same : ∀ {v : PairingState}, v.screen = u.screen ∧ v.now = u.now →
      v.screen.pairing.setup = u.screen.pairing.setup ∧ u.now ≤ v.now :=
    fun hv => ⟨by rw [hv.1], hv.2.ge⟩
  cases e with
  | countDevices i drawn | buttonPressed i | prove i | saved i io => cases he
  | tick d =>
    cases h
    exact ⟨rfl, Nat.le_add_right _ _⟩
  | fingerprintOver =>
    cases h
    exact ⟨setup_fingerprintOver u.now u.screen, Nat.le_refl _⟩
  | mintCode code =>
    cases code <;> cases h <;> exact same ⟨rfl, rfl⟩
  | openSetupWindow i | requestPress i | completeSetup i p request | revokeDevice i id
  | touch i id => exact same (call_frame h)
  | pairWithCode i code deviceName userAgent =>
    obtain ⟨hscreen, hnow⟩ := checkCode_screen u code
    simp only [step] at h
    split at h <;> rename_i hcode <;> rw [hcode] at hscreen hnow <;>
      exact same ⟨(call_frame h).1.trans hscreen, (call_frame h).2.trans hnow⟩
  | verifyPassphrase i given purpose =>
    simp only [step] at h
    split at h <;> exact same (call_frame h)
  | pairWithAccount i users username password deviceName userAgent =>
    simp only [step] at h
    split at h <;> exact same (call_frame h)
  | renameDevice i id name =>
    simp only [step] at h
    split at h <;> exact same (call_frame h)
  | readComplete i =>
    simp only [step, readComplete] at h
    split at h
    · cases h
    · split at h <;> cases h <;> split <;> exact same ⟨rfl, rfl⟩
  | lockSetup i =>
    simp only [step, lockSetup] at h
    split at h <;> cases h
    exact same ⟨rfl, rfl⟩
  | readHash i =>
    simp only [step, readHash] at h
    split at h
    · cases h
    · split at h
      · split at h
        · cases h
          exact same ⟨rfl, rfl⟩
        · split at h <;> cases h <;> exact same ⟨rfl, rfl⟩
      · cases h
  | startKdf i =>
    simp only [step, startKdf] at h
    split at h <;> cases h
    exact same ⟨rfl, rfl⟩
  | finishKdf i hash =>
    simp only [step, finishKdf] at h
    split at h
    · next job hphase =>
      cases job with
      | setup byPress r =>
        cases h
        unfold store
        split <;> exact same ⟨rfl, rfl⟩
      | newPassphrase new =>
        cases h
        unfold store
        split <;> exact same ⟨rfl, rfl⟩
      | passphrase given hash' purpose started =>
        simp only at h
        split at h <;> cases h
        · cases purpose with
          | stepUp | pair deviceName userAgent => exact same ⟨rfl, rfl⟩
          | change new =>
            unfold verified
            dsimp only
            split <;> exact same ⟨rfl, rfl⟩
        · exact same ⟨rfl, rfl⟩
      | account users username password deviceName userAgent started =>
        simp only at h
        split at h <;> cases h <;> exact same ⟨rfl, rfl⟩
    · cases h
  | write i drawn =>
    simp only [step, write] at h
    split at h
    · split at h <;> cases h <;> exact same ⟨rfl, rfl⟩
    · cases h
  | leave i =>
    simp only [step, leave] at h
    split at h <;> cases h
    exact same ⟨rfl, rfl⟩

omit [Pbkdf2]

/-! ## The token -/

/-- The window has the token that was minted last, and the log knows how it has fared. -/
structure TokenInv (u : PairingState) (log : List Happening) : Prop where
  live : ∀ w, u.screen.pairing.setup = some w →
    ∃ accepted, live .token log = some ⟨w.token, w.opened, w.wrong, accepted⟩
  few : ∀ w, u.screen.pairing.setup = some w → w.wrong < MAX_SETUP_ATTEMPTS
  past : ∀ w, u.screen.pairing.setup = some w → w.opened ≤ u.now

variable {log : List Happening} {w : Screen.SetupWindow} {s : Screen.State} {now : Instant}

theorem setup_of_open? (h : s.pairing.open? now = some w) :
    s.pairing.setup = some w ∧ now - w.opened < SETUP_WINDOW := by
  obtain ⟨hsetup, hopen⟩ := Option.filter_eq_some_iff.1 h
  exact ⟨hsetup, of_decide_eq_true hopen⟩

theorem setup_showCode (now : Instant) (token : String) (s : Screen.State) :
    (s.showCode now token).pairing.setup = s.pairing.setup := by
  unfold Screen.State.showCode
  split <;> rfl

theorem setup_requestPress (now : Instant) (owned : Bool) (id : Option String)
    (s : Screen.State) : (s.requestPress now owned id).2.pairing.setup = s.pairing.setup := by
  unfold Screen.State.requestPress
  repeat' split
  all_goals rfl

/-- No window is open after this. -/
theorem TokenInv.of_none (h : u.screen.pairing.setup = none) : TokenInv u log := by
  refine ⟨?_, ?_, ?_⟩ <;>
  · intro w hw
    rw [h] at hw
    cases hw

/-- The window is what it was, and the log says nothing else of its token. -/
theorem TokenInv.keep {log' : List Happening} (hi : TokenInv u log)
    (hsetup : u'.screen.pairing.setup = u.screen.pairing.setup) (hnow : u.now ≤ u'.now)
    (hlive : ∀ m, Auth.live .token log = some m → ∃ accepted,
      Auth.live .token log' = some { m with accepted }) : TokenInv u' log' := by
  refine ⟨fun w hw => ?_, fun w hw => hi.few w (hsetup ▸ hw), fun w hw => ?_⟩
  · obtain ⟨accepted, h⟩ := hi.live w (hsetup ▸ hw)
    exact hlive _ h
  · exact (hi.past w (hsetup ▸ hw)).trans hnow

/-- Its clock starts again. -/
theorem TokenInv.rearm (hi : TokenInv u log) (hw : u.screen.pairing.setup = some w)
    (hsetup : u'.screen.pairing.setup = some { w with opened := u.now }) (hnow : u'.now = u.now) :
    TokenInv u' (.rearmed u.now :: log) := by
  obtain ⟨accepted, h⟩ := hi.live w hw
  refine ⟨fun w' hw' => ?_, fun w' hw' => ?_, fun w' hw' => ?_⟩ <;> rw [hsetup] at hw' <;> cases hw'
  · exact ⟨accepted, by simp [Auth.live, h]⟩
  · exact hi.few w hw
  · exact hnow.ge

theorem live_token_happens (he : ofWindow e = false) :
    live .token (u.happens e ++ log) = live .token log := by
  cases e with
  | countDevices i drawn | buttonPressed i | prove i | saved i io => cases he
  | mintCode code => cases code <;> rfl
  | pairWithCode i given deviceName userAgent => rfl
  | write i drawn =>
    simp only [happens]
    split
    · split <;> rfl
    · rfl
  | _ => rfl

/-- `open_setup_window` restarts the clock of an open window, or mints a token. -/
theorem TokenInv.openSetupWindow {drawn : Except String String} (hi : TokenInv u log)
    (hphase : u.phase i = .openingCounts)
    (hscreen : u'.screen =
      (u.screen.openSetupWindow u.now (!u.auth.devices.isEmpty) drawn.toOption).2)
    (hnow : u'.now = u.now) : TokenInv u' (u.happens (.countDevices i drawn) ++ log) := by
  cases hdevices : u.auth.devices with
  | cons d ds =>
    have hquiet : u.happens (.countDevices i drawn) = [] := by simp [happens, hphase, hdevices]
    rw [hquiet]
    rw [hdevices] at hscreen
    refine hi.keep (by rw [hscreen]; rfl) hnow.ge fun m hm => ⟨m.accepted, hm⟩
  | nil =>
    rw [hdevices] at hscreen
    unfold Screen.State.openSetupWindow at hscreen
    cases hopen : u.screen.pairing.open? u.now with
    | some w =>
      have hhappens : u.happens (.countDevices i drawn) = [.rearmed u.now] := by
        simp [happens, hphase, hdevices, hopen]
      rw [hopen] at hscreen
      rw [hhappens]
      exact hi.rearm (setup_of_open? hopen).1 (by rw [hscreen]; exact setup_showCode ..) hnow
    | none =>
      rw [hopen] at hscreen
      cases drawn with
      | error text =>
        have hquiet : u.happens (.countDevices i (.error text)) = [] := by
          simp [happens, hphase, hdevices, hopen]
        rw [hquiet]
        exact hi.keep (by rw [hscreen]; rfl) hnow.ge fun m hm => ⟨m.accepted, hm⟩
      | ok token =>
        have hhappens : u.happens (.countDevices i (.ok token)) = [.minted .token token u.now] := by
          simp [happens, hphase, hdevices, hopen]
        have hsetup : u'.screen.pairing.setup = some ⟨token, u.now, 0⟩ := by
          rw [hscreen]
          exact setup_showCode ..
        rw [hhappens]
        refine ⟨fun w hw => ?_, fun w hw => ?_, fun w hw => ?_⟩ <;> rw [hsetup] at hw <;> cases hw
        · exact ⟨0, rfl⟩
        · exact Nat.zero_lt_succ _
        · exact hnow.ge

/-- The button restarts it too where it shows the fingerprint. -/
theorem TokenInv.pairingButton (hi : TokenInv u log)
    (hscreen : u'.screen = u.screen.pairingButton u.now) (hnow : u'.now = u.now) :
    TokenInv u' (u.happens (.buttonPressed i) ++ log) := by
  have hquiet : u.showsFingerprint = false → u'.screen.pairing.setup = u.screen.pairing.setup →
      TokenInv u' (u.happens (.buttonPressed i) ++ log) := by
    intro hshows hsetup
    simp only [happens, hshows]
    exact hi.keep hsetup hnow.ge fun m hm => ⟨m.accepted, hm⟩
  unfold Screen.State.pairingButton at hscreen
  cases hpress : u.screen.pairing.press.filter (fun p =>
      p.approved.isNone && u.now - p.created < Screen.PRESS_WINDOW) with
  | some p =>
    rw [hpress] at hscreen
    exact hquiet (by rw [showsFingerprint, hpress]; rfl) (by rw [hscreen])
  | none =>
    rw [hpress] at hscreen
    cases hopen : u.screen.pairing.open? u.now with
    | none =>
      rw [hopen] at hscreen
      exact hquiet (by rw [showsFingerprint, hopen]; simp) (by rw [hscreen])
    | some w =>
      cases hfp : u.screen.pairing.fingerprint with
      | none =>
        rw [hopen, hfp] at hscreen
        exact hquiet (by rw [showsFingerprint, hfp]; simp) (by rw [hscreen])
      | some hex =>
        rw [hopen, hfp] at hscreen
        have hfits : u.showsFingerprint =
            (!u.screen.pairing.showingFingerprint && u.screen.pairing.screen) := by
          rw [showsFingerprint, hpress, hopen, hfp]
          rfl
        dsimp only at hscreen
        rw [← hfits] at hscreen
        cases hshows : u.showsFingerprint with
        | false =>
          rw [hshows] at hscreen
          exact hquiet hshows (by rw [hscreen]; rfl)
        | true =>
          rw [hshows] at hscreen
          simp only [happens, hshows]
          exact hi.rearm (setup_of_open? hopen).1 (by rw [hscreen]; rfl) hnow

/-- A guess at the token is counted where it is refused. -/
theorem TokenInv.checkSetupToken {given : String} (hi : TokenInv u log)
    (hscreen : u'.screen = (u.screen.checkSetupToken u.now given).2) (hnow : u'.now = u.now) :
    TokenInv u' (.guessed .token i given u.now (u.checkProof (.token given)).1.isOk :: log) := by
  simp only [checkProof]
  unfold Screen.State.checkSetupToken at hscreen ⊢
  cases hopen : u.screen.pairing.open? u.now with
  | none =>
    rw [hopen] at hscreen
    exact .of_none (by rw [hscreen])
  | some w =>
    obtain ⟨hsetup, -⟩ := setup_of_open? hopen
    rw [hopen] at hscreen
    dsimp only at hscreen ⊢
    split at hscreen
    · next hgiven =>
      rw [if_pos hgiven]
      refine hi.keep (by rw [hscreen]) hnow.ge fun m hm => ⟨m.accepted + 1, ?_⟩
      simp [Auth.live, hm, Except.mapError, Except.isOk, Except.toBool]
    · next hgiven =>
      rw [if_neg hgiven]
      split at hscreen
      · exact .of_none (by rw [hscreen]; rfl)
      · next hmany =>
        rw [if_neg hmany]
        obtain ⟨accepted, h⟩ := hi.live w hsetup
        refine ⟨fun w' hw' => ?_, fun w' hw' => ?_, fun w' hw' => ?_⟩ <;>
          rw [hscreen] at hw' <;> cases hw'
        · refine ⟨accepted, ?_⟩
          simp [Auth.live, h, Except.mapError, Except.isOk, Except.toBool]
        · exact Nat.lt_of_not_le hmany
        · rw [hnow]
          exact hi.past w hsetup

/-- Where it is accepted, it was the token, in time, and not guessed at too often. -/
theorem TokenInv.admissible {given : String} (hi : TokenInv u log)
    (h : (u.checkProof (.token given)).1.isOk = true) : Admissible .token given u.now log := by
  simp only [checkProof] at h
  unfold Screen.State.checkSetupToken at h
  cases hopen : u.screen.pairing.open? u.now with
  | none => rw [hopen] at h; cases h
  | some w =>
    obtain ⟨hsetup, hin⟩ := setup_of_open? hopen
    obtain ⟨accepted, hlive⟩ := hi.live w hsetup
    rw [hopen] at h
    dsimp only at h
    split at h
    · next hgiven =>
      exact ⟨_, hlive, hgiven, hi.past w hsetup, hin, hi.few w hsetup, fun hk => by cases hk⟩
    · split at h <;> cases h

/-- What a first contact that is checked does to the screen is what the check does. -/
theorem prove_screen (h : u.prove i = some u') : ∃ p request, u.phase i = .checking p request ∧
    u'.now = u.now ∧
      u'.screen = if u.auth.setupComplete then u.screen else (u.checkProof p).2.screen := by
  simp only [PairingState.prove] at h
  split at h
  · cases h
  · split at h
    · next p request hphase =>
      refine ⟨p, request, hphase, ?_⟩
      have hnow := (checkProof_codeless u p).2.1
      split at h
      · next howned =>
        cases h
        exact ⟨rfl, by rw [if_pos howned]; rfl⟩
      · next howned =>
        rw [if_neg howned]
        split at h <;> rename_i hproof <;> rw [hproof] at hnow ⊢
        · cases h
          exact ⟨hnow, rfl⟩
        · split at h <;> cases h <;> exact ⟨hnow, rfl⟩
    · cases h

theorem TokenInv.prove (hi : TokenInv u log) (h : u.prove i = some u') :
    TokenInv u' (u.happens (.prove i) ++ log) := by
  obtain ⟨p, request, hphase, hnow, hscreen⟩ := prove_screen h
  have hkeep : u.happens (.prove i) = [] → u'.screen = u.screen →
      TokenInv u' (u.happens (.prove i) ++ log) := by
    intro hquiet hscreen
    rw [hquiet]
    exact hi.keep (by rw [hscreen]) hnow.ge fun m hm => ⟨m.accepted, hm⟩
  cases howned : u.auth.setupComplete with
  | true =>
    rw [howned] at hscreen
    exact hkeep (by cases p <;> simp [happens, hphase, howned]) hscreen
  | false =>
    rw [howned] at hscreen
    cases p with
    | press id => exact hkeep (by simp [happens, hphase]) hscreen
    | token given =>
      have hguess : u.happens (.prove i) =
          [.guessed .token i given u.now (u.checkProof (.token given)).1.isOk] := by
        simp [happens, hphase, howned]
      rw [hguess]
      exact hi.checkSetupToken hscreen hnow

/-- Whoever ends the setup closes the window. -/
theorem setup_afterSave (u : PairingState) (w : Write) (byPress : Bool) :
    (u.afterSave w byPress).screen.pairing.setup =
      if w.ends then none else u.screen.pairing.setup := by
  cases w <;> rfl

theorem TokenInv.saved {io : Except String Unit} (hi : TokenInv u log)
    (h : u.saved i io = some u') : TokenInv u' (u.happens (.saved i io) ++ log) := by
  simp only [PairingState.saved] at h
  split at h
  · next w byPress issued hphase =>
    cases io with
    | error text =>
      have hquiet : u.happens (.saved i (.error text)) = [] := rfl
      rw [hquiet]
      cases w <;> cases h <;> exact hi.keep rfl (Nat.le_refl _) fun m hm => ⟨m.accepted, hm⟩
    | ok _ =>
      obtain ⟨-, hnow, -, -⟩ := afterSave_codeless { u with writer := release i u.writer } w byPress
      have hsetup := setup_afterSave { u with writer := release i u.writer } w byPress
      cases h
      simp only [happens, hphase]
      cases hends : w.ends with
      | true =>
        rw [hends] at hsetup
        exact .of_none hsetup
      | false =>
        rw [hends] at hsetup
        exact hi.keep hsetup hnow.ge fun m hm => ⟨m.accepted, hm⟩
  · cases h

theorem TokenInv.step [Pbkdf2] (hi : TokenInv u log) (h : u.step e = some u') :
    TokenInv u' (u.happens e ++ log) := by
  cases he : ofWindow e with
  | false =>
    obtain ⟨hsetup, hnow⟩ := step_setup h he
    exact hi.keep hsetup hnow fun m hm => ⟨m.accepted, by rw [live_token_happens he]; exact hm⟩
  | true =>
    cases e with
    | countDevices i drawn =>
      simp only [PairingState.step, countDevices] at h
      split at h
      · cases h
      · split at h <;> cases h <;> rename_i hphase
        · exact hi.openSetupWindow hphase rfl rfl
        · have hquiet : u.happens (.countDevices i drawn) = [] := by simp [happens, hphase]
          rw [hquiet]
          exact hi.keep (setup_requestPress ..) (Nat.le_refl _) fun m hm => ⟨m.accepted, hm⟩
    | buttonPressed i =>
      obtain ⟨hscreen, hnow⟩ := call_frame h
      exact hi.pairingButton hscreen hnow
    | prove i => exact hi.prove h
    | saved i io => exact hi.saved h
    | _ => cases he

/-! ## Codes -/

/-- The code is the one that was minted last, the log knows how it has fared, and nobody was let in
by it. -/
structure CodeInv (u : PairingState) (log : List Happening) : Prop where
  live : ∀ pc, u.pairCode = some pc →
    live .code log = some { secret := pc.code, armed := pc.created, wrong := pc.wrong }
  few : ∀ pc, u.pairCode = some pc → pc.wrong < MAX_CODE_ATTEMPTS
  past : ∀ pc, u.pairCode = some pc → pc.created ≤ u.now
  unused : ∀ pc, u.pairCode = some pc → ∀ i, codeOf i log ≠ some (codesMinted log)

/-- Whoever was let in by a code was let in by one that was minted, each by another one, and a
device was added for each of them at most once. -/
structure CallInv (u : PairingState) (log : List Happening) : Prop where
  bound : ∀ i n, codeOf i log = some n → n ≤ codesMinted log
  apart : ∀ i j n, codeOf i log = some n → codeOf j log = some n → i = j
  away : ∀ i, (u.phase i).isAway = true → codeOf i log = none
  storing : ∀ i, (u.phase i).byCode = true → (codeOf i log).isSome = true ∧ i ∉ joins log
  known : ∀ i ∈ joins log, (codeOf i log).isSome = true
  once : (joins log).Nodup
  commits : (u.commits.filter (·.write.byCode)).length = (joins log).length

/-- The logs say the same of the codes. -/
structure SameCodes (log log' : List Happening) : Prop where
  minted : codesMinted log' = codesMinted log
  codeOf : ∀ i, codeOf i log' = codeOf i log
  joins : joins log' = joins log

variable {log' : List Happening}

theorem SameCodes.refl (log : List Happening) : SameCodes log log := ⟨rfl, fun _ => rfl, rfl⟩

/-- What is not about codes does not change what the log says of them. -/
theorem happens_codes (he : ofCode e = false) (log : List Happening) :
    SameCodes log (u.happens e ++ log) ∧
      Auth.live .code (u.happens e ++ log) = Auth.live .code log := by
  cases e with
  | mintCode code | pairWithCode i code deviceName userAgent | write i drawn => cases he
  | countDevices i drawn =>
    simp only [happens]
    split <;> exact ⟨⟨rfl, fun _ => rfl, rfl⟩, rfl⟩
  | buttonPressed i =>
    simp only [happens]
    split <;> exact ⟨⟨rfl, fun _ => rfl, rfl⟩, rfl⟩
  | prove i =>
    simp only [happens]
    split
    · split <;> exact ⟨⟨rfl, fun _ => rfl, rfl⟩, rfl⟩
    · exact ⟨.refl _, rfl⟩
  | saved i io =>
    cases io with
    | error text => exact ⟨.refl _, rfl⟩
    | ok _ =>
      simp only [happens]
      split
      · split <;> exact ⟨⟨rfl, fun _ => rfl, rfl⟩, rfl⟩
      · exact ⟨.refl _, rfl⟩
  | _ => exact ⟨.refl _, rfl⟩

/-- No code is good after this. -/
theorem CodeInv.of_none (h : u.pairCode = none) : CodeInv u log := by
  refine ⟨?_, ?_, ?_, ?_⟩ <;>
  · intro pc hpc
    rw [h] at hpc
    cases hpc

theorem CodeInv.keep (hi : CodeInv u log) (hpair : u'.pairCode = u.pairCode) (hnow : u.now ≤ u'.now)
    (hsame : SameCodes log log') (hlive : Auth.live .code log' = Auth.live .code log) :
    CodeInv u' log' := by
  refine ⟨fun pc hpc => ?_, fun pc hpc => hi.few pc (hpair ▸ hpc), fun pc hpc => ?_,
    fun pc hpc i => ?_⟩
  · rw [hlive]
    exact hi.live pc (hpair ▸ hpc)
  · exact (hi.past pc (hpair ▸ hpc)).trans hnow
  · rw [hsame.codeOf, hsame.minted]
    exact hi.unused pc (hpair ▸ hpc) i

/-- Calls go on that are not let in by a code just now, and nothing is added for a code. -/
theorem CallInv.keep (hi : CallInv u log) (hsame : SameCodes log log')
    (haway : ∀ j, (u'.phase j).isAway = true → (u.phase j).isAway = true)
    (hcode : ∀ j, (u'.phase j).byCode = true → (u.phase j).byCode = true)
    (hcommits : u'.commits.filter (·.write.byCode) = u.commits.filter (·.write.byCode)) :
    CallInv u' log' where
  bound i n h := by
    rw [hsame.codeOf] at h
    rw [hsame.minted]
    exact hi.bound i n h
  apart i j n h h' := by
    rw [hsame.codeOf] at h h'
    exact hi.apart i j n h h'
  away j hj := by
    rw [hsame.codeOf]
    exact hi.away j (haway j hj)
  storing j hj := by
    rw [hsame.codeOf, hsame.joins]
    exact hi.storing j (hcode j hj)
  known := by
    rw [hsame.joins]
    intro i hj
    rw [hsame.codeOf]
    exact hi.known i hj
  once := by rw [hsame.joins]; exact hi.once
  commits := by rw [hcommits, hsame.joins]; exact hi.commits

/-- A code is minted. -/
theorem mintCode_inv (hi : CallInv u log) (code : String) :
    CodeInv { u with pairCode := some ⟨code, u.now, 0⟩ } (.minted .code code u.now :: log) ∧
      CallInv { u with pairCode := some ⟨code, u.now, 0⟩ } (.minted .code code u.now :: log) := by
  have hcodeOf : ∀ i, codeOf i (.minted .code code u.now :: log) = codeOf i log := fun _ => rfl
  have hminted : codesMinted (.minted .code code u.now :: log) = codesMinted log + 1 := rfl
  constructor
  · refine ⟨fun pc hpc => ?_, fun pc hpc => ?_, fun pc hpc => ?_, fun pc hpc i hused => ?_⟩
    · cases hpc
      rfl
    · cases hpc
      exact Nat.zero_lt_succ _
    · cases hpc
      exact Nat.le_refl _
    · rw [hcodeOf, hminted] at hused
      exact absurd (hi.bound i _ hused) (Nat.not_succ_le_self _)
  · exact
      { bound := fun i n h => (hi.bound i n h).trans (Nat.le_succ _)
        apart := hi.apart
        away := hi.away
        storing := hi.storing
        known := hi.known
        once := hi.once
        commits := hi.commits }

/-- A guess at the code is right, and uses it up, or is refused and counted. -/
theorem checkCode_cases (u : PairingState) (given : String) :
    (∃ pc, u.pairCode = some pc ∧ u.now - pc.created < PAIR_CODE_TTL ∧
      Kind.code.read given = pc.code ∧
      u.checkCode given = (.ok (), { u with pairCode := none })) ∨
    ∃ e next, u.checkCode given = (.error e, { u with pairCode := next }) ∧
      (next = none ∨ ∃ pc, u.pairCode = some pc ∧ pc.wrong + 1 < MAX_CODE_ATTEMPTS ∧
        next = some { pc with wrong := pc.wrong + 1 }) := by
  unfold checkCode
  cases hpair : u.pairCode with
  | none =>
    refine .inr ⟨.noCode, none, ?_, .inl rfl⟩
    cases u
    cases hpair
    rfl
  | some pc =>
    dsimp only
    split
    · exact .inr ⟨.noCode, none, rfl, .inl rfl⟩
    · next hin =>
      split
      · next hgiven => exact .inl ⟨pc, rfl, Nat.lt_of_not_le hin, hgiven.symm, rfl⟩
      · split
        · exact .inr ⟨.noCode, none, rfl, .inl rfl⟩
        · next hfew =>
          exact .inr ⟨_, _, rfl, .inr ⟨pc, rfl, Nat.lt_of_not_le hfew, rfl⟩⟩

/-- A code that is accepted was the one, in time, not used, and not guessed at too often. -/
theorem CodeInv.admissible {given : String} (hc : CodeInv u log)
    (h : (u.checkCode given).1.isOk = true) : Admissible .code given u.now log := by
  rcases checkCode_cases u given with ⟨pc, hpair, hin, hgiven, -⟩ | ⟨e, next, hcheck, -⟩
  · exact ⟨_, hc.live pc hpair, hgiven, hc.past pc hpair, hin, hc.few pc hpair, fun _ => rfl⟩
  · rw [hcheck] at h
    cases h

/-- A call that did not come before comes with a code. -/
theorem pairWithCode_inv {given : String} {deviceName : Option String} {userAgent : String}
    [Pbkdf2] (hc : CodeInv u log) (hi : CallInv u log)
    (h : u.step (.pairWithCode i given deviceName userAgent) = some u') :
    CodeInv u' (u.happens (.pairWithCode i given deviceName userAgent) ++ log) ∧
      CallInv u' (u.happens (.pairWithCode i given deviceName userAgent) ++ log) := by
  simp only [step] at h
  rcases checkCode_cases u given with ⟨pc, hpair, -, -, hcheck⟩ | ⟨e, next, hcheck, hnext⟩
  · have hlog : u.happens (.pairWithCode i given deviceName userAgent) ++ log =
        .guessed .code i given u.now true :: log := by
      simp only [happens, hcheck]
      rfl
    rw [hcheck] at h
    dsimp only [call] at h
    split at h
    · next haway =>
      cases h
      have hnew : codeOf i log = none := hi.away i (by rw [haway]; rfl)
      have hself : codeOf i (.guessed .code i given u.now true :: log) = some (codesMinted log) :=
        if_pos rfl
      have hother : ∀ j, j ≠ i → codeOf j (.guessed .code i given u.now true :: log) =
          codeOf j log := fun j hne => if_neg hne.symm
      have hjoins : joins (.guessed .code i given u.now true :: log) = joins log := rfl
      rw [hlog]
      refine ⟨.of_none rfl, ?_⟩
      have hphase : ∀ j, j ≠ i → (({ u with pairCode := none } : PairingState).goTo i
          (.storing (.pairWithCode deviceName userAgent) false)).phase j = u.phase j :=
        fun j hne => Function.update_of_ne hne ..
      refine ⟨fun j n hj => ?_, fun j k n hj hk => ?_, fun j hj => ?_, fun j hj => ?_,
        fun j hj => ?_, hi.once, hi.commits⟩
      · rcases eq_or_ne j i with rfl | hne
        · rw [hself] at hj
          cases hj
          exact Nat.le_refl _
        · exact hi.bound j n (by rwa [hother j hne] at hj)
      · rcases eq_or_ne j i with rfl | hne <;> rcases eq_or_ne k j with rfl | hne'
        · rfl
        · rw [hself] at hj
          rw [hother k hne'] at hk
          cases hj
          exact absurd hk (hc.unused pc hpair k)
        · rfl
        · rw [hother j hne] at hj
          rcases eq_or_ne k i with rfl | hne''
          · rw [hself] at hk
            cases hk
            exact absurd hj (hc.unused pc hpair j)
          · rw [hother k hne''] at hk
            exact hi.apart j k n hj hk
      · rcases eq_or_ne j i with rfl | hne
        · simp [goTo, Phase.isAway] at hj
        · rw [hother j hne]
          refine hi.away j ?_
          rwa [hphase j hne] at hj
      · rw [hjoins]
        rcases eq_or_ne j i with rfl | hne
        · refine ⟨by rw [hself]; rfl, fun hjoined => ?_⟩
          have hknown := hi.known j hjoined
          rw [hnew] at hknown
          cases hknown
        · rw [hother j hne]
          refine hi.storing j ?_
          rwa [hphase j hne] at hj
      · rcases eq_or_ne j i with rfl | hne
        · rw [hself]
          rfl
        · rw [hother j hne]
          exact hi.known j hj
    · cases h
  · have hlog : u.happens (.pairWithCode i given deviceName userAgent) ++ log =
        .guessed .code i given u.now false :: log := by
      simp only [happens, hcheck]
      rfl
    have hsame : SameCodes log (.guessed .code i given u.now false :: log) :=
      ⟨rfl, fun _ => rfl, rfl⟩
    rw [hcheck] at h
    have hgoes : Codeless { u with pairCode := next } u' := .call h rfl rfl rfl rfl rfl rfl
    rw [hlog]
    refine ⟨?_, hi.keep hsame hgoes.away hgoes.byCode hgoes.commits⟩
    rcases hnext with rfl | ⟨pc, hpair, hfew, rfl⟩
    · exact .of_none hgoes.pairCode
    · refine ⟨fun pc' hpc => ?_, fun pc' hpc => ?_, fun pc' hpc => ?_, fun pc' hpc j => ?_⟩ <;>
        rw [hgoes.pairCode] at hpc <;> cases hpc
      · simp [Auth.live, hc.live pc hpair]
      · exact hfew
      · exact (hc.past pc hpair).trans hgoes.now
      · exact hc.unused pc hpair j

/-- A device is added for a call that was let in by a code, once. -/
theorem write_inv {drawn : Drawn} (hc : CodeInv u log) (hi : CallInv u log)
    (h : u.write i drawn = some u') :
    CodeInv u' (u.happens (.write i drawn) ++ log) ∧
      CallInv u' (u.happens (.write i drawn) ++ log) := by
  simp only [write] at h
  split at h
  · next w byPress hwriter hphase =>
    split at h <;> cases h
    · next e hchange =>
      have hquiet : u.happens (.write i drawn) = [] := by
        simp [happens, hphase, hchange, Except.isOk, Except.toBool]
      have hgoes : Codeless u (u.reply i (.error e)) := .goes rfl rfl rfl rfl rfl rfl
      rw [hquiet]
      exact ⟨hc.keep hgoes.pairCode hgoes.now (.refl _) rfl,
        hi.keep (.refl _) hgoes.away hgoes.byCode hgoes.commits⟩
    · next auth issued hchange =>
      have hgoes : Codeless u (u.goTo i (.saving w byPress issued)) :=
        .goes rfl rfl rfl rfl rfl rfl
      have haway := hgoes.away
      have hcode := hgoes.byCode
      cases hw : w.byCode with
      | false =>
        have hquiet : u.happens (.write i drawn) = [] := by simp [happens, hphase, hw]
        rw [hquiet]
        refine ⟨hc.keep rfl (Nat.le_refl _) (.refl _) rfl, hi.keep (.refl _) haway hcode ?_⟩
        exact List.filter_cons_of_neg (by rw [hw]; decide)
      | true =>
        have hjoins : u.happens (.write i drawn) = [.joined i] := by
          simp [happens, hphase, hw, hchange, Except.isOk, Except.toBool]
        obtain ⟨hlet, hfirst⟩ := hi.storing i (by rw [hphase]; exact hw)
        have hcons : joins ([.joined i] ++ log) = i :: joins log := rfl
        have hself : ((u.goTo i (.saving w byPress issued)).phase i).byCode = false := by
          simp [goTo, Phase.byCode]
        rw [hjoins]
        refine ⟨⟨hc.live, hc.few, hc.past, hc.unused⟩, ?_⟩
        exact
          { bound := hi.bound
            apart := hi.apart
            away := fun j hj => hi.away j (haway j hj)
            storing := fun j hj => by
              obtain ⟨hsome, hnot⟩ := hi.storing j (hcode j hj)
              refine ⟨hsome, fun hmem => ?_⟩
              rcases List.mem_cons.1 hmem with rfl | hmem
              · rw [show PairingState.phase _ j = _ from Function.update_self ..] at hj
                cases hj
              · exact hnot hmem
            known := List.forall_mem_cons.2 ⟨hlet, hi.known⟩
            once := List.nodup_cons.2 ⟨hfirst, hi.once⟩
            commits := by
              rw [hcons, List.length_cons, ← hi.commits]
              have hcons : (⟨w, u.auth, auth⟩ :: u.commits : List Commit).filter
                  (·.write.byCode) = ⟨w, u.auth, auth⟩ :: u.commits.filter (·.write.byCode) :=
                List.filter_cons_of_pos hw
              exact congrArg List.length hcons }
  · cases h

variable [Pbkdf2]

theorem codes_step (hc : CodeInv u log) (hi : CallInv u log) (h : u.step e = some u') :
    CodeInv u' (u.happens e ++ log) ∧ CallInv u' (u.happens e ++ log) := by
  cases he : ofCode e with
  | false =>
    have hgoes := step_codeless h he
    obtain ⟨hsame, hlive⟩ := happens_codes (u := u) he log
    exact ⟨hc.keep hgoes.pairCode hgoes.now hsame hlive,
      hi.keep hsame hgoes.away hgoes.byCode hgoes.commits⟩
  | true =>
    cases e with
    | mintCode code =>
      cases code with
      | error text => cases h; exact ⟨hc, hi⟩
      | ok code => cases h; exact mintCode_inv hi code
    | pairWithCode i given deviceName userAgent => exact pairWithCode_inv hc hi h
    | write i drawn => exact write_inv hc hi h
    | _ => cases he

omit [Pbkdf2] in
/-- At most one thing happens to the secrets in a step. -/
theorem happens_cases (u : PairingState) (e : Event) :
    u.happens e = [] ∨ ∃ x, u.happens e = [x] := by
  unfold happens
  repeat' split
  all_goals first | exact .inl rfl | exact .inr ⟨_, rfl⟩

omit [Pbkdf2] in
/-- Every guess that is accepted may be. -/
theorem happens_admissible {k : Kind} {given : String} {now : Instant} (ht : TokenInv u log)
    (hc : CodeInv u log) (h : u.happens e = [.guessed k i given now true]) :
    Admissible k given now log := by
  cases e with
  | mintCode code => cases code <;> cases h
  | countDevices j drawn =>
    simp only [happens] at h
    split at h <;> cases h
  | buttonPressed j =>
    simp only [happens] at h
    split at h <;> cases h
  | prove j =>
    simp only [happens] at h
    split at h
    · split at h
      · cases h
      · simp only [List.cons.injEq, Happening.guessed.injEq, and_true] at h
        obtain ⟨rfl, -, rfl, rfl, hok⟩ := h
        exact ht.admissible hok
    · cases h
  | pairWithCode j given' deviceName userAgent =>
    simp only [happens, List.cons.injEq, Happening.guessed.injEq, and_true] at h
    obtain ⟨rfl, -, rfl, rfl, hok⟩ := h
    exact hc.admissible hok
  | write j drawn =>
    simp only [happens] at h
    split at h
    · split at h <;> cases h
    · cases h
  | saved j io =>
    cases io with
    | error text => cases h
    | ok _ =>
      simp only [happens] at h
      split at h
      · split at h <;> cases h
      · cases h
  | _ => cases h

end PairingState

/-! ## Runs -/

namespace SecretRun

/-- What holds of a run. -/
structure Inv (r : SecretRun) : Prop where
  token : TokenInv r.unit r.log
  code : CodeInv r.unit r.log
  call : CallInv r.unit r.log
  accepted : ∀ later k i given now earlier,
    r.log = later ++ .guessed k i given now true :: earlier → Admissible k given now earlier

variable {r r' : SecretRun} {e : Event}

theorem Inv.of_starts (h : r.Starts) : Inv r where
  token := .of_none h.setup
  code := .of_none h.pairCode
  call := by
    rw [h.log]
    exact
      { bound := fun i n hi => by cases hi
        apart := fun i j n hi => by cases hi
        away := fun _ _ => rfl
        storing := fun i hi => by rw [h.unit.phase i] at hi; cases hi
        known := List.forall_mem_nil _
        once := .nil
        commits := by rw [h.unit.commits]; rfl }
  accepted := by
    rw [h.log]
    intro later k i given now earlier heq
    simp at heq

theorem Inv.step [Pbkdf2] (hi : Inv r) (h : r.step e = some r') : Inv r' := by
  obtain ⟨u, hu, rfl⟩ := Option.map_eq_some_iff.1 h
  obtain ⟨hcode, hcall⟩ := codes_step hi.code hi.call hu
  refine ⟨hi.token.step hu, hcode, hcall, ?_⟩
  rcases happens_cases r.unit e with hquiet | ⟨x, hx⟩
  · rw [hquiet]
    exact hi.accepted
  · rw [hx]
    refine accepted_cons hi.accepted fun k i given now hguess => ?_
    rw [hguess] at hx
    exact happens_admissible hi.token hi.code hx

/-- **A secret is accepted only while it lives**: it was minted last, its time is not over, and
fewer wrong guesses were made since than it takes. A code lets in one device. -/
theorem secrets_guarded [Pbkdf2] (r : SecretRun)
    (h : Reach Starts step (fun _ _ => True) r) : Guarded r.log ∧
      (r.unit.commits.filter (·.write.byCode)).length = (joins r.log).length := by
  have hi : Inv r := h.invariant (fun _ => Inv.of_starts) fun _ _ _ hi _ => hi.step
  have hc := hi.call
  refine ⟨⟨hi.accepted, hc.known, ?_⟩, hc.commits⟩
  refine (List.nodup_map_iff_inj_on hc.once).2 fun i hmem j hmem' heq => ?_
  obtain ⟨n, hn⟩ := Option.isSome_iff_exists.1 (hc.known i hmem)
  exact hc.apart i j n hn (heq.symm.trans hn)

/-- Two phones with one code, which the second one has to type twice. -/
def sharedCode : List Event :=
  [.mintCode (.ok "042137"), .pairWithCode 0 "042-138" none "iPhone Safari/", .tick (seconds 20),
    .pairWithCode 1 "042 137" none "iPhone Safari/", .pairWithCode 2 "042137" none "Android Chrome/",
    .write 1 firstDevice]

/-- The first one that has it right gets in. -/
theorem secrets_guarded_shared :
    let _ := allWrong
    ∃ r : SecretRun, r.log =
      [.joined 1, .guessed .code 2 "042137" (seconds 20) false,
        .guessed .code 1 "042 137" (seconds 20) true, .guessed .code 0 "042-138" 0 false,
        .minted .code "042137" 0] ∧ Guarded r.log := by
  let _ := allWrong
  intro _
  have hlog : (sharedCode.foldlM step ⟨{}, []⟩).map (·.log) =
      some [.joined 1, .guessed .code 2 "042137" (seconds 20) false,
        .guessed .code 1 "042 137" (seconds 20) true, .guessed .code 0 "042-138" 0 false,
        .minted .code "042137" 0] := by decide +kernel
  obtain ⟨r, hr, hl⟩ := Option.map_eq_some_iff.1 hlog
  exact ⟨r, hl, (secrets_guarded r
    (.of_foldlM (.init ⟨PairingState.starts_empty, rfl, rfl, rfl⟩) hr)).1⟩

end SecretRun

end Rayhunter.Auth
