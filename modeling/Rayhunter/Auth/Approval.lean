import Rayhunter.Auth.FirstContact

/-!
# What an approval is worth

A request for a press of the button is approved for thirty seconds from the press on
(`press_status`, `daemon/src/pairing.rs:706`), and there is room for one request. Whether another
one may take its place is asked of when it was made, and not of when it was approved
(`request_press`, `pairing.rs:677`): one that is approved late can be shoved aside while its approval
still stands (`approval_replaced`). `approvals_honoured` is about the runs in which that does not
happen.
-/

namespace Rayhunter.Auth

open Runs
open Screen (seconds PRESS_WINDOW)

namespace PairingState

/-- The request that a press of the button approves (`pairing.rs:724-731`). -/
def approves (u : PairingState) : Event → Option String
  | .buttonPressed _ =>
    (u.screen.pairing.press.filter fun p =>
      p.approved.isNone && u.now - p.created < PRESS_WINDOW).map (·.id)
  | _ => none

/-- A request takes the place of one whose approval still stands. -/
def replaces (u : PairingState) : Event → Bool
  | .countDevices i (.ok _) =>
    match u.phase i with
    | .askingCounts =>
      u.auth.devices.isEmpty && u.screen.pairing.press.any fun p =>
        (p.approved.any fun since => u.now - since < PRESS_WINDOW) &&
          PRESS_WINDOW ≤ u.now - p.created
    | _ => false
  | _ => false

/-- Nothing is in the way of a call that has not come yet. -/
def free (u : PairingState) (i : Nat) : Bool :=
  (match u.phase i with | .away => true | _ => false) && u.writer.isNone && u.setupLock.isNone &&
    u.kdfGate.isNone && u.auth.devices.isEmpty

/-- A first contact by a press from its start to its end (`complete_setup_by_press`,
`pairing.rs:769`). -/
def contactByPress (i : Nat) (id : String) (request : SetupRequest) (hash : String)
    (drawn : Drawn) : List Event :=
  [.completeSetup i (.press id) request, .lockSetup i, .prove i, .startKdf i,
    .finishKdf i (some hash), .write i drawn, .saved i (.ok ())]

/-- What the requester may expect of an approval. -/
structure Honours [Pbkdf2] (u : PairingState) (id : String) : Prop where
  /-- Whenever it is looked at, it is good. -/
  proves : ∀ (i : Nat) (request : SetupRequest), u.writer = none →
    u.phase i = .checking (.press id) request → checkPassphrase request.passphrase = .ok () →
    u.step (.prove i) = some (u.goTo i (.queued (.setup true request)))
  /-- Whoever comes with it, and is not interrupted, becomes the owner. -/
  completes : ∀ (i : Nat) (request : SetupRequest) (hash : String) (token : Token) (now : String),
    u.free i = true → checkPassphrase request.passphrase = .ok () →
    ∃ u' issued, (contactByPress i id request hash ⟨.ok token, now⟩).foldlM step u = some u' ∧
      u'.phase i = .answered (.ok (.device issued)) ∧ u'.auth.setupComplete = true

end PairingState

open PairingState

/-- A unit, and the approvals that its button has given, each with when it was: the latest first. -/
structure PressRun where
  unit : PairingState
  approved : List (String × Instant) := []

namespace PressRun

structure Starts (r : PressRun) : Prop where
  unit : r.unit.Starts
  approved : r.approved = []

variable [Pbkdf2]

def step (r : PressRun) (e : Event) : Option PressRun :=
  (r.unit.step e).map fun u =>
    ⟨u, ((r.unit.approves e).map (·, r.unit.now)).toList ++ r.approved⟩

/-- While an approval stands, and the unit has no owner, it is honoured. -/
def Honoured (r : PressRun) : Prop :=
  ∀ a ∈ r.approved, r.unit.now - a.2 < PRESS_WINDOW → r.unit.auth.setupComplete = false →
    Honours r.unit a.1

end PressRun

/-! ## What becomes of an approval -/

variable {w : Write} {drawn : Drawn} {s s' : AuthState} {issued : Option IssuedDevice}

/-- An owner stays. -/
theorem Write.setupComplete_mono (h : w.change drawn s = .ok (s', issued))
    (hs : s.setupComplete = true) : s'.setupComplete = true := by
  cases Write.changed h with
  | setup hc => exact absurd (hs.symm.trans hc.1) (by decide)
  | pairs d _ _ _ hcomplete _ => rw [hcomplete, hs, Bool.or_true]
  | keeps _ _ hcomplete _ => rw [hcomplete, hs]

/-- A first contact makes one. -/
theorem Write.setupComplete_of_isSetup (h : w.change drawn s = .ok (s', issued))
    (hw : w.isSetup = true) : s'.setupComplete = true := by
  cases Write.changed h with
  | setup hc =>
    obtain ⟨-, -, hash, deviceName, userAgent, d, -, hs'⟩ := hc
    exact congrArg AuthState.setupComplete hs'
  | pairs d hnot _ _ _ _ => exact absurd (hw.symm.trans hnot) (by decide)
  | keeps hends _ _ _ => exact absurd (hw.symm.trans (isSetup_of_ends hends)) (by decide)

namespace PairingState

variable {u u' : PairingState} {e : Event} {i : Nat} {p : Screen.PressRequest} {since : Instant}

/-- What is on the screen does not change a request that is approved. -/
theorem Shows.press {screen : Screen.State} {now : Instant} (h : Shows u screen now)
    (hp : u.screen.pairing.press = some p) (hsince : p.approved = some since) :
    screen.pairing.press = some p := by
  cases h with
  | same d => exact hp
  | ended =>
    unfold Screen.State.fingerprintOver Screen.State.showCode
    dsimp only
    repeat' split
    all_goals exact hp
  | button =>
    unfold Screen.State.pairingButton
    have hnone : u.screen.pairing.press.filter (fun p =>
        p.approved.isNone && u.now - p.created < PRESS_WINDOW) = none := by
      simp [hp, hsince]
    rw [hnone]
    dsimp only
    repeat' split
    all_goals exact hp
  | token token =>
    unfold Screen.State.checkSetupToken Screen.State.closeSetupWindow
    dsimp only
    repeat' split
    all_goals exact hp

theorem Shows.now_le {screen : Screen.State} {now : Instant} (h : Shows u screen now) :
    u.now ≤ now := by
  cases h with
  | same d => exact Nat.le_add_right _ _
  | ended | button | token => exact Nat.le_refl _

theorem press_openSetupWindow (now : Instant) (owned : Bool) (token : Option String)
    (s : Screen.State) : (s.openSetupWindow now owned token).2.pairing.press = s.pairing.press := by
  unfold Screen.State.openSetupWindow Screen.State.showCode
  dsimp only
  repeat' split
  all_goals rfl

/-- Nor does a request that does not take its place. -/
theorem press_requestPress {now : Instant} {owned : Bool} {id : Option String} {s : Screen.State}
    (hp : s.pairing.press = some p)
    (h : owned = false → id.isSome = true → now - p.created < PRESS_WINDOW) :
    (s.requestPress now owned id).2.pairing.press = some p := by
  unfold Screen.State.requestPress
  cases owned with
  | true => exact hp
  | false =>
    cases id with
    | none => exact hp
    | some id =>
      have hyoung : s.pairing.press.filter (fun p => now - p.created < PRESS_WINDOW) = some p := by
        simp [hp, h rfl rfl]
      simp only [Bool.false_eq_true, if_false, hyoung]
      exact hp

variable [Pbkdf2]

/-- Counting the devices leaves an approval that stands where it is, unless the request that counts
them takes its place. -/
theorem press_countDevices {drawn : Except String String}
    (h : u.step (.countDevices i drawn) = some u')
    (hspares : u.replaces (.countDevices i drawn) = false)
    (hp : u.screen.pairing.press = some p) (hsince : p.approved = some since)
    (hstands : u.now - since < PRESS_WINDOW) : u'.screen.pairing.press = some p := by
  simp only [step, countDevices] at h
  split at h
  · cases h
  · split at h <;> cases h <;> rename_i hphase
    · exact (press_openSetupWindow _ _ _ _).trans hp
    · refine press_requestPress hp fun howned hdrawn => ?_
      cases drawn with
      | error e => cases hdrawn
      | ok id =>
        simp only [replaces, hphase, hp, hsince, Option.any_some, Bool.and_eq_false_iff,
          decide_eq_false_iff_not, Nat.not_le] at hspares
        rcases hspares with hdevices | hspares | hspares
        · rw [hdevices] at howned
          cases howned
        · exact absurd hstands hspares
        · exact hspares

/-- As long as there is no owner, a step that does not put a request in its place leaves an approval
where it is. -/
theorem press_step (h : u.step e = some u') (hspares : u.replaces e = false)
    (hsetups : ∀ j w byPress, (u.phase j).saves = some (w, byPress) → w.isSetup = true →
      u.auth.setupComplete = true)
    (hunowned : u'.auth.setupComplete = false) (hp : u.screen.pairing.press = some p)
    (hsince : p.approved = some since) (hstands : u.now - since < PRESS_WINDOW) :
    u'.screen.pairing.press = some p := by
  cases step_moves h with
  | still _ hshows => exact hshows.press hp hsince
  | opens i drawn _ _ _ _ hscreen | asks i drawn _ _ _ _ hscreen =>
    exact press_countDevices h hspares hp hsince hstands
  | writes i drawn w byPress auth issued _ _ _ => exact hp
  | saves i io w byPress _ _ hsaves hauth _ _ _ _ _ hscreen =>
    rw [hscreen]
    split
    · cases w with
      | finishSetup hash deviceName userAgent =>
        have howned := hsetups i _ byPress hsaves rfl
        rw [hauth, howned] at hunowned
        cases hunowned
      | _ => exact hp
    · exact hp
  | leaves i _ _ _ _ _ hscreen _ => rwa [hscreen]

/-- Time does not go back, and an owner stays. -/
theorem step_mono (h : u.step e = some u') : u.now ≤ u'.now ∧
    (u.auth.setupComplete = true → u'.auth.setupComplete = true) := by
  cases step_moves h with
  | still hstill hshows => exact ⟨hshows.now_le, fun ho => by rwa [hstill.auth]⟩
  | opens _ _ _ hstill _ hnow | asks _ _ _ hstill _ hnow =>
    exact ⟨hnow.ge, fun ho => by rwa [hstill.auth]⟩
  | writes _ _ _ _ _ _ _ _ hchange =>
    exact ⟨Nat.le_refl _, Write.setupComplete_mono hchange⟩
  | saves _ _ _ _ _ _ _ hauth _ _ _ _ hnow | leaves _ _ hauth _ _ _ _ hnow =>
    exact ⟨hnow.ge, fun ho => by rwa [hauth]⟩

omit [Pbkdf2] in
/-- What is being saved after a call went on was so before, unless that call saves it. -/
theorem saves_update {j : Nat} {q : Phase} {x : Write × Bool}
    (hphase : u'.phase = Function.update u.phase i q) (hj : (u'.phase j).saves = some x) :
    q.saves = some x ∨ (u.phase j).saves = some x := by
  rw [hphase] at hj
  rcases eq_or_ne j i with rfl | hne
  · rw [Function.update_self] at hj
    exact .inl hj
  · rw [Function.update_of_ne hne] at hj
    exact .inr hj

/-- A first contact that is being saved has made an owner. -/
theorem saves_step (h : u.step e = some u')
    (hsetups : ∀ j w byPress, (u.phase j).saves = some (w, byPress) → w.isSetup = true →
      u.auth.setupComplete = true) (j : Nat) (w : Write) (byPress : Bool)
    (hj : (u'.phase j).saves = some (w, byPress)) (hw : w.isSetup = true) :
    u'.auth.setupComplete = true := by
  have hmono := (step_mono h).2
  cases step_moves h with
  | still hstill _ | opens _ _ _ hstill | asks _ _ _ hstill =>
    rw [hstill.saves j] at hj
    exact hmono (hsetups j w byPress hj hw)
  | writes i drawn w' byPress' auth issued _ _ hchange =>
    rcases saves_update rfl hj with hj | hj
    · cases hj
      exact Write.setupComplete_of_isSetup hchange hw
    · exact hmono (hsetups j w byPress hj hw)
  | saves i _ _ _ p _ _ _ _ _ hphase hp =>
    rcases saves_update hphase hj with hj | hj
    · rw [hp] at hj
      cases hj
    · exact hmono (hsetups j w byPress hj hw)
  | leaves i _ _ _ _ hphase =>
    rcases saves_update hphase hj with hj | hj
    · cases hj
    · exact hmono (hsetups j w byPress hj hw)

/-- A press of the button that approves a request leaves that request approved. -/
theorem press_approves {id : String} (h : u.step e = some u') (hid : u.approves e = some id) :
    ∃ p, u'.screen.pairing.press = some p ∧ p.id = id ∧ p.approved = some u.now := by
  cases e with
  | buttonPressed i =>
    obtain ⟨p, hp, rfl⟩ := Option.map_eq_some_iff.1 hid
    simp only [step, call] at h
    split at h
    · cases h
      refine ⟨{ p with approved := some u.now }, ?_, rfl, rfl⟩
      simp [goTo, Screen.State.pairingButton, hp]
    · cases h
  | _ => cases hid

/-! ## What it is worth -/

omit [Pbkdf2] in
theorem eq_away_of_free (h : u.free i = true) : u.phase i = .away ∧ u.writer = none ∧
    u.setupLock = none ∧ u.kdfGate = none ∧ u.auth.devices = [] := by
  simp only [free, Bool.and_eq_true, Option.isNone_iff_eq_none, List.isEmpty_iff] at h
  obtain ⟨⟨⟨⟨haway, hwriter⟩, hlock⟩, hgate⟩, hdevices⟩ := h
  refine ⟨?_, hwriter, hlock, hgate, hdevices⟩
  split at haway
  · assumption
  · cases haway

theorem prove_of_pressStatus {id : String} {request : SetupRequest}
    (hpress : u.pressStatus id = some true) (hunowned : u.auth.setupComplete = false)
    (hwriter : u.writer = none) (hphase : u.phase i = .checking (.press id) request)
    (hpass : checkPassphrase request.passphrase = .ok ()) :
    u.step (.prove i) = some (u.goTo i (.queued (.setup true request))) := by
  simp [step, prove, hwriter, hphase, hunowned, checkProof, hpress, hpass]

/-- A step that is taken, and the steps after it. -/
theorem foldlM_step {es : List Event} {v : PairingState} (h : u.step e = some v) :
    (e :: es).foldlM step u = es.foldlM step v := by
  rw [List.foldlM_cons, h]
  rfl

theorem completes_of_pressStatus {id : String} {request : SetupRequest} (hash : String)
    (token : Token) (now : String) (hpress : u.pressStatus id = some true)
    (hunowned : u.auth.setupComplete = false) (hfree : u.free i = true)
    (hpass : checkPassphrase request.passphrase = .ok ()) :
    ∃ u' issued, (contactByPress i id request hash ⟨.ok token, now⟩).foldlM step u = some u' ∧
      u'.phase i = .answered (.ok (.device issued)) ∧ u'.auth.setupComplete = true := by
  obtain ⟨haway, hwriter, hlock, hgate, hdevices⟩ := eq_away_of_free hfree
  have hroom : u.auth.Admits ⟨.ok token, now⟩ :=
    ⟨by rw [hdevices]; exact Nat.zero_lt_succ _, token, rfl⟩
  obtain ⟨s, issued, hadd⟩ := AuthState.exists_addDevice hroom request.deviceName request.userAgent
  have hchange : (Write.finishSetup hash request.deviceName request.userAgent).change
      ⟨.ok token, now⟩ u.auth =
        .ok ({ s with ownerPassphraseHash := some hash, setupComplete := true }, some issued) := by
    simp [Write.change, AuthState.finishSetup, hunowned, hdevices, hadd, Except.map]
  simp only [contactByPress]
  rw [foldlM_step (v := u.goTo i (.completing (.press id) request)) (by simp [step, call, haway])]
  rw [foldlM_step (v := { u.goTo i (.checking (.press id) request) with setupLock := some i })
    (by simp [step, lockSetup, goTo, hlock])]
  have hprove : PairingState.step
      { u.goTo i (.checking (.press id) request) with setupLock := some i } (.prove i) =
        some { u.goTo i (.queued (.setup true request)) with setupLock := some i } := by
    rw [prove_of_pressStatus (u := { u.goTo i (.checking (.press id) request) with
      setupLock := some i }) hpress hunowned hwriter (Function.update_self ..) hpass]
    simp [goTo]
  rw [foldlM_step hprove]
  rw [foldlM_step (v := { u.goTo i (.underway (.setup true request)) with
      setupLock := some i
      kdfGate := some i })
    (by simp [step, startKdf, goTo, hgate])]
  rw [foldlM_step (v := { u.goTo i (.storing
        (.finishSetup hash request.deviceName request.userAgent) true) with setupLock := some i })
    (by simp [step, finishKdf, store, hashed, release, goTo, hgate])]
  simp only [List.foldlM_cons, step, write, goTo, hwriter, Function.update_self, hchange]
  simp [saved, reply, goTo, afterSave, answerOf]

end PairingState

/-! ## Runs -/

namespace PressRun

/-- Where the approvals are that stand. -/
structure Inv (r : PressRun) : Prop where
  held : ∀ a ∈ r.approved, r.unit.now - a.2 < PRESS_WINDOW → r.unit.auth.setupComplete = false →
    ∃ p, r.unit.screen.pairing.press = some p ∧ p.id = a.1 ∧ p.approved = some a.2
  setups : ∀ i w byPress, (r.unit.phase i).saves = some (w, byPress) → w.isSetup = true →
    r.unit.auth.setupComplete = true

variable [Pbkdf2] {r r' : PressRun} {e : Event}

omit [Pbkdf2] in
theorem Inv.of_starts (h : r.Starts) : Inv r where
  held := by rw [h.approved]; exact List.forall_mem_nil _
  setups := by
    intro i w byPress hi
    rw [h.unit.phase i] at hi
    cases hi

theorem Inv.step (hi : Inv r) (hspares : r.unit.replaces e = false) (h : r.step e = some r') :
    Inv r' := by
  obtain ⟨u, hu, rfl⟩ := Option.map_eq_some_iff.1 h
  obtain ⟨hnow, hmono⟩ := step_mono hu
  refine ⟨fun a ha hstands hunowned => ?_, saves_step hu hi.setups⟩
  rcases List.mem_append.1 ha with ha | ha
  · -- The approval of this step.
    rw [Option.mem_toList, Option.map_eq_some_iff] at ha
    obtain ⟨id, hid, rfl⟩ := ha
    obtain ⟨p, hp, hpid, hsince⟩ := press_approves hu hid
    exact ⟨p, hp, hpid, hsince⟩
  · -- One from before, which stood before this step too.
    have hunowned₀ : r.unit.auth.setupComplete = false :=
      Bool.eq_false_iff.2 fun ho => absurd ((hmono ho).symm.trans hunowned) (by decide)
    have hstands₀ : r.unit.now - a.2 < PRESS_WINDOW :=
      Nat.lt_of_le_of_lt (Nat.sub_le_sub_right hnow a.2) hstands
    obtain ⟨p, hp, hpid, hsince⟩ := hi.held a ha hstands₀ hunowned₀
    exact ⟨p, press_step hu hspares hi.setups hunowned hp hsince hstands₀, hpid, hsince⟩

/-- **An approval is honoured** for as long as it stands, in every run in which no request takes the
place of one whose approval still stands. -/
theorem approvals_honoured (r : PressRun)
    (h : Reach Starts step (fun r e => r.unit.replaces e = false) r) : r.Honoured := by
  have hi : Inv r := h.invariant (fun _ => Inv.of_starts) fun _ _ _ => Inv.step
  intro a ha hstands hunowned
  obtain ⟨p, hp, hpid, hsince⟩ := hi.held a ha hstands hunowned
  have hpress : r.unit.pressStatus a.1 = some true := by
    simp [pressStatus, hp, hpid, hsince, hstands]
  exact
    { proves := fun i request hwriter hphase hpass =>
        prove_of_pressStatus hpress hunowned hwriter hphase hpass
      completes := fun i request hash token now hfree hpass =>
        completes_of_pressStatus hash token now hpress hunowned hfree hpass }

omit [Pbkdf2]

/-- A phone asks for a press of the button, and gets it twenty seconds later. -/
def latePress : List Event :=
  [.requestPress 0, .readComplete 0, .countDevices 0 (.ok "0011223344556677"), .tick (seconds 20),
    .buttonPressed 1]

/-- Ten seconds later somebody else asks for one. -/
def shoved : List Event :=
  latePress ++ [.tick (seconds 10), .requestPress 2, .readComplete 2,
    .countDevices 2 (.ok "8899aabbccddeeff")]

theorem starts_empty : Starts ⟨{}, []⟩ := ⟨PairingState.starts_empty, rfl⟩

/-- The phone has its approval. -/
theorem approvals_honoured_late :
    let _ := allWrong
    ∃ r : PressRun, r.approved = [("0011223344556677", seconds 20)] ∧ r.Honoured := by
  let _ := allWrong
  intro _
  have happroved : (latePress.foldlM (fun r e =>
      if r.unit.replaces e = false then step r e else none) ⟨{}, []⟩).map (·.approved) =
        some [("0011223344556677", seconds 20)] := by decide +kernel
  obtain ⟨r, hr, ha⟩ := Option.map_eq_some_iff.1 happroved
  exact ⟨r, ha, approvals_honoured r (.of_foldlM_guarded (.init starts_empty) hr)⟩

/-- The approval stands for twenty seconds more, and is not there. -/
theorem approval_replaced :
    let _ := allWrong
    ¬ ∀ r : PressRun, Reach Starts step (fun _ _ => True) r → r.Honoured := by
  let _ := allWrong
  intro _ h
  have hrun : (shoved.foldlM step ⟨{}, []⟩).map (fun r =>
      (r.approved, r.unit.now, r.unit.auth.setupComplete, r.unit.free 3,
        ((contactByPress 3 "0011223344556677" (ownerRequest "iPhone Safari/") "hash"
          firstDevice).foldlM PairingState.step r.unit).isSome)) =
      some ([("0011223344556677", seconds 20)], seconds 30, false, true, false) := by
    decide +kernel
  obtain ⟨r, hr, heq⟩ := Option.map_eq_some_iff.1 hrun
  simp only [Prod.mk.injEq] at heq
  obtain ⟨ha, hnow, hunowned, hfree, hfails⟩ := heq
  have hhonours := h r (.of_foldlM (.init starts_empty) hr) ("0011223344556677", seconds 20)
    (by rw [ha]; exact List.mem_singleton_self _) (by rw [hnow]; decide) hunowned
  obtain ⟨u', issued, hdone, -⟩ := hhonours.completes 3 (ownerRequest "iPhone Safari/") "hash" _ _
    hfree rfl
  rw [firstDevice, hdone] at hfails
  cases hfails

end PressRun

end Rayhunter.Auth
