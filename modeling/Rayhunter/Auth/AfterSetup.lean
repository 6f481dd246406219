import Rayhunter.Auth.FirstContact

/-!
# What is open once a unit has an owner

A unit without an owner may have its setup window open, its code on the screen, and a request
waiting for a press of the button (`daemon/src/pairing.rs`). A call that ends the setup closes the
window once its change is saved; one by a press takes the request with it. `press_left_waiting` has
a request that waits on when the setup is ended with the token on the screen. `nothing_open` is
about the runs in which that does not happen, in which a change that ends the setup can be saved,
and in which nobody opens a window on a unit that has an owner and has lost its last device.

Whether a unit has an owner is read under the lock, so what counts is what is open while nobody
holds that for writing.
-/

namespace Rayhunter.Auth

open Runs Screen

/-- No request waits for a press that would still approve it. -/
def NoPress (now : Instant) (s : Screen.State) : Prop :=
  ∀ p, s.pairing.press = some p → p.approved = none → ¬ now - p.created < PRESS_WINDOW

/-- There is no setup window, no setup code on the screen, and no request for a press. -/
structure Clear (now : Instant) (s : Screen.State) : Prop where
  window : s.pairing.open? now = none
  code : ∀ token ending, s.override.picture = some (.setupCode token, ending) → ¬ now < ending
  press : NoPress now s

/-- A setup code is on a screen only where there is one. -/
def OnScreen (s : Screen.State) : Prop :=
  ∀ token ending, s.override.picture = some (.setupCode token, ending) → s.pairing.screen = true

instance (now : Instant) (s : Screen.State) : Decidable (NoPress now s) :=
  inferInstanceAs (Decidable (∀ p ∈ s.pairing.press, _ → ¬ _))

instance (now : Instant) (s : Screen.State) : Decidable (Clear now s) :=
  decidable_of_iff (s.pairing.open? now = none ∧
      (∀ p ∈ s.override.picture, p.1 matches .setupCode _ → ¬ now < p.2) ∧ NoPress now s)
    (by
      constructor
      · rintro ⟨hwindow, hcode, hpress⟩
        exact ⟨hwindow, fun _ _ hp => hcode _ hp rfl, hpress⟩
      · intro h
        refine ⟨h.window, ?_, h.press⟩
        rintro ⟨p, ending⟩ hp hcode
        cases p with
        | setupCode token => exact h.code token ending hp
        | _ => cases hcode)

namespace PairingState

/-- Nothing is open. -/
structure StartsClosed (u : PairingState) : Prop extends u.Starts where
  setup : u.screen.pairing.setup = none
  press : u.screen.pairing.press = none
  picture : u.screen.override.picture = none

/-- A call that ends the setup is saved, with no request for a press left that is not its own, and
is not left before; or nothing was open. A window is not opened, and a press not asked for, on a unit
that has an owner and no device. -/
def Tidy (u : PairingState) : Event → Prop
  | .saved i io => ∀ w byPress, (u.phase i).saves = some (w, byPress) → w.ends = true →
      (io = .ok () ∧ (NoPress u.now u.screen ∨ w.isSetup ∧ byPress)) ∨ Clear u.now u.screen
  | .leave i => ∀ w byPress, (u.phase i).saves = some (w, byPress) → w.ends = true →
      Clear u.now u.screen
  | .countDevices _ _ => u.auth.setupComplete = true → u.auth.devices ≠ []
  | _ => True

instance (u : PairingState) (e : Event) : Decidable (Tidy u e) :=
  match e with
  | .saved i io =>
    decidable_of_iff (∀ x ∈ (u.phase i).saves, x.1.ends = true →
        (io = .ok () ∧ (NoPress u.now u.screen ∨ x.1.isSetup ∧ x.2)) ∨ Clear u.now u.screen)
      ⟨fun h w byPress hx => h (w, byPress) hx, fun h x hx => h x.1 x.2 hx⟩
  | .leave i =>
    decidable_of_iff (∀ x ∈ (u.phase i).saves, x.1.ends = true → Clear u.now u.screen)
      ⟨fun h w byPress hx => h (w, byPress) hx, fun h x hx => h x.1 x.2 hx⟩
  | .countDevices _ _ =>
    inferInstanceAs (Decidable (u.auth.setupComplete = true → u.auth.devices ≠ []))
  | .tick _ | .fingerprintOver | .mintCode _ | .openSetupWindow _ | .buttonPressed _
  | .requestPress _ | .completeSetup _ _ _ | .pairWithCode _ _ _ _ | .verifyPassphrase _ _ _
  | .pairWithAccount _ _ _ _ _ _ | .renameDevice _ _ _ | .revokeDevice _ _ | .touch _ _
  | .readComplete _ | .lockSetup _ | .prove _ | .readHash _ | .startKdf _ | .finishKdf _ _
  | .write _ _ => .isTrue trivial

end PairingState

/-! ## What happens to the screen -/

section

variable {now : Nat} {s : Screen.State}

theorem open?_eq_none (h : s.pairing.setup = none) : s.pairing.open? now = none := by
  rw [Pairing.open?, h]
  rfl

/-- A window that is over stays so. -/
theorem open?_mono {later : Nat} (hle : now ≤ later) (h : s.pairing.open? now = none) :
    s.pairing.open? later = none := by
  simp only [Pairing.open?, Option.filter_eq_none_iff, decide_eq_true_eq] at h ⊢
  intro w hw hlt
  exact h w hw (Nat.lt_of_le_of_lt (Nat.sub_le_sub_right hle _) hlt)

theorem Clear.later {later : Nat} (h : Clear now s) (hle : now ≤ later) : Clear later s where
  window := open?_mono hle h.window
  code token ending hp hlt := h.code token ending hp (Nat.lt_of_le_of_lt hle hlt)
  press p hp hwaits hlt :=
    h.press p hp hwaits (Nat.lt_of_le_of_lt (Nat.sub_le_sub_right hle _) hlt)

/-- A press that finds nothing open does nothing. -/
theorem pairingButton_eq (h : Clear now s) : s.pairingButton now = s := by
  have hpress : s.pairing.press.filter (fun p =>
      p.approved.isNone && now - p.created < PRESS_WINDOW) = none := by
    rw [Option.filter_eq_none_iff]
    intro p hp hwaits
    simp only [Bool.and_eq_true, Option.isNone_iff_eq_none, decide_eq_true_eq] at hwaits
    exact h.press p hp hwaits.1 hwaits.2
  simp only [State.pairingButton, hpress, h.window]

/-- So does the end of the fingerprint, apart from that. -/
theorem fingerprintOver_clear (h : Clear now s) : Clear now (s.fingerprintOver now) := by
  unfold State.fingerprintOver
  split
  · exact h
  · dsimp only
    split
    · next hopen => cases hopen.symm.trans h.window
    · exact ⟨h.window, h.code, h.press⟩

/-- A token is refused. -/
theorem checkSetupToken_clear (h : Clear now s) (token : String) :
    Clear now (s.checkSetupToken now token).2 := by
  simp only [State.checkSetupToken, h.window]
  exact ⟨open?_eq_none rfl, h.code, h.press⟩

/-- A code is shown only on a screen. -/
theorem showCode_onScreen (h : OnScreen s) (token : String) : OnScreen (s.showCode now token) := by
  unfold State.showCode
  split
  · next hscreen => exact fun _ _ _ => (Bool.and_eq_true_iff.1 hscreen).1
  · exact h

theorem openSetupWindow_onScreen (h : OnScreen s) (owned : Bool) (token : Option String) :
    OnScreen (s.openSetupWindow now owned token).2 := by
  unfold State.openSetupWindow
  split
  · exact h
  · split
    · next w _ =>
      exact showCode_onScreen (s := { s with
        pairing := { s.pairing with setup := some { w with opened := now } } }) h _
    · split
      · exact h
      · next token =>
        exact showCode_onScreen (s := { s with
          pairing := { s.pairing with setup := some ⟨token, now, 0⟩ } }) h _

/-- A picture that goes over another and is no code. -/
theorem OnScreen.other {s' : Screen.State} (h : OnScreen s) (screen : Bool) (p : Picture)
    (ending : Instant) (hne : ∀ token, p ≠ .setupCode token)
    (hpicture : s'.override.picture = if screen then some (p, ending) else s.override.picture)
    (hscreen : s'.pairing.screen = s.pairing.screen) : OnScreen s' := by
  intro token e hp
  rw [hpicture] at hp
  split at hp
  · cases hp
    exact absurd rfl (hne token)
  · rw [hscreen]
    exact h token e hp

theorem requestPress_onScreen (h : OnScreen s) (owned : Bool) (id : Option String) :
    OnScreen (s.requestPress now owned id).2 := by
  unfold State.requestPress
  split
  · exact h
  · split
    · exact h
    · split
      · exact h
      · refine h.other s.pairing.screen .pressTheButton (now + PRESS_WINDOW)
          (fun _ he => by cases he) ?_ rfl
        dsimp only
        split <;> rfl

theorem closeSetupWindow_onScreen (h : OnScreen s) : OnScreen s.closeSetupWindow := by
  intro token ending hp
  simp only [State.closeSetupWindow] at hp ⊢
  split at hp
  · cases hp
  · exact h token ending hp

/-- No code is left on the screen when the window is closed. -/
theorem closeSetupWindow_code (h : OnScreen s) (token : String) (ending : Instant) :
    s.closeSetupWindow.override.picture ≠ some (.setupCode token, ending) := by
  intro hp
  simp only [State.closeSetupWindow] at hp
  split at hp
  · cases hp
  · next hscreen => exact hscreen (h token ending hp)

theorem pairingButton_onScreen (h : OnScreen s) : OnScreen (s.pairingButton now) := by
  unfold State.pairingButton
  split
  · refine h.other s.pairing.screen .continueOnYourPhone (now + PRESS_WINDOW)
      (fun _ he => by cases he) ?_ rfl
    dsimp only
    split <;> rfl
  · split
    · next hex _ _ =>
      split
      · exact h.other true (.fingerprint hex) (now + FINGERPRINT_VIEW) (fun _ he => by cases he) rfl
          rfl
      · exact h
    · exact h

theorem fingerprintOver_onScreen (h : OnScreen s) : OnScreen (s.fingerprintOver now) := by
  unfold State.fingerprintOver
  split
  · exact h
  · dsimp only
    split
    · exact showCode_onScreen (s := { s with pairing := { s.pairing with
        showingFingerprint := false, timers := _ } }) h _
    · exact h

theorem checkSetupToken_onScreen (h : OnScreen s) (token : String) :
    OnScreen (s.checkSetupToken now token).2 := by
  unfold State.checkSetupToken
  split
  · exact h
  · split
    · exact h
    · split
      · exact closeSetupWindow_onScreen h
      · exact h

end

/-! ## Runs -/

namespace PairingState

variable {u u' : PairingState} {e : Event} {now : Nat}

/-- While nobody opens anything, what is closed stays closed. -/
theorem Shows.clear {s : Screen.State} (h : Shows u s now) (hclear : Clear u.now u.screen) :
    Clear now s := by
  cases h with
  | same d => exact hclear.later (Nat.le_add_right _ _)
  | ended => exact fingerprintOver_clear hclear
  | button =>
    rw [pairingButton_eq hclear]
    exact hclear
  | token token => exact checkSetupToken_clear hclear token

theorem Shows.onScreen {s : Screen.State} (h : Shows u s now) (hon : OnScreen u.screen) :
    OnScreen s := by
  cases h with
  | same d => exact hon
  | ended => exact fingerprintOver_onScreen hon
  | button => exact pairingButton_onScreen hon
  | token token => exact checkSetupToken_onScreen hon token

/-- Where a change that ends the setup is being saved, what it ends is still to be closed; where
there is an owner otherwise, nothing is open. -/
structure AfterInv (u : PairingState) : Prop where
  clear : u.auth.setupComplete = true →
    (∀ i, u.writer = some i → ∀ w byPress, (u.phase i).saves = some (w, byPress) →
      w.ends = false) → Clear u.now u.screen
  holder : ∀ i, u.writer = some i → ∃ x, (u.phase i).saves = some x
  unique : ∀ i x, (u.phase i).saves = some x → u.writer = some i
  shown : OnScreen u.screen

theorem AfterInv.of_starts (h : u.StartsClosed) : AfterInv u where
  clear _ _ :=
    { window := open?_eq_none h.setup
      code := by rw [h.picture]; rintro _ _ ⟨⟩
      press := by rw [NoPress, h.press]; rintro _ ⟨⟩ }
  holder := by rw [h.writer]; rintro _ ⟨⟩
  unique := by
    intro i x hx
    rw [h.phase i] at hx
    cases hx
  shown := by rw [OnScreen, h.picture]; rintro _ _ ⟨⟩

/-- The lock is given up by the one that has it. -/
theorem release_eq {i : Nat} {holder : Option Nat} (h : holder = some i) :
    release i holder = none := by rw [release, if_pos h]

theorem release_ne {i : Nat} {holder : Option Nat} (h : holder ≠ some i) :
    release i holder = holder := by rw [release, if_neg h]

/-- Nothing happens to what is being saved. -/
theorem AfterInv.still (hi : AfterInv u) (hs : Still u u')
    (hclear : u.auth.setupComplete = true → Clear u.now u.screen → Clear u'.now u'.screen)
    (hon : OnScreen u'.screen) : AfterInv u' where
  clear hc hw := by
    rw [hs.auth] at hc
    refine hclear hc (hi.clear hc fun i hi' w byPress hsaves => ?_)
    exact hw i (hs.writer.trans hi') w byPress ((hs.saves i).trans hsaves)
  holder i h := by
    obtain ⟨x, hx⟩ := hi.holder i (hs.writer.symm.trans h)
    exact ⟨x, (hs.saves i).trans hx⟩
  unique i x hx := hs.writer.trans (hi.unique i x ((hs.saves i).symm.trans hx))
  shown := hon

/-- The lock is given up, and nothing is open. -/
theorem AfterInv.released {i : Nat} {p : Phase} {x : Write × Bool} (hi : AfterInv u)
    (hsaves : (u.phase i).saves = some x) (hwriter : u'.writer = release i u.writer)
    (hphase : u'.phase = Function.update u.phase i p) (hp : p.saves = none)
    (hclear : u'.auth.setupComplete = true → Clear u'.now u'.screen) (hon : OnScreen u'.screen) :
    AfterInv u' := by
  have hheld := hi.unique i x hsaves
  rw [release_eq hheld] at hwriter
  refine ⟨fun hc _ => hclear hc, by rw [hwriter]; rintro _ ⟨⟩, fun j y hy => ?_, hon⟩
  rw [hphase] at hy
  rcases eq_or_ne j i with rfl | hne
  · rw [Function.update_self, hp] at hy
    cases hy
  · rw [Function.update_of_ne hne] at hy
    exact absurd (Option.some.inj (hheld.symm.trans (hi.unique j y hy))).symm hne

/-- A unit that has an owner after a change had one before, unless the change ends the setup. -/
theorem complete_of_changed {w : Write} {s s' : AuthState} (h : Changed w s s')
    (hends : w.ends = false) (hc : s'.setupComplete = true) : s.setupComplete = true := by
  cases h with
  | setup c =>
    obtain ⟨-, -, hash, deviceName, userAgent, d, rfl, -⟩ := c
    cases hends
  | pairs d _ _ _ hcomplete _ => rwa [hcomplete, hends, Bool.false_or] at hc
  | keeps _ _ hcomplete _ => exact hcomplete.symm.trans hc

/-- A call that ends the setup has closed everything once it is saved, but for a request that is not
its own. -/
theorem afterSave_clear {w : Write} {byPress : Bool} (hends : w.ends = true)
    (hon : OnScreen u.screen) (hpress : NoPress u.now u.screen ∨ w.isSetup ∧ byPress) :
    Clear u.now (u.afterSave w byPress).screen := by
  cases w with
  | finishSetup hash deviceName userAgent =>
    refine ⟨open?_eq_none rfl, fun token ending hp => ?_, ?_⟩
    · exact absurd hp (closeSetupWindow_code hon token ending)
    · cases byPress with
      | true => rintro _ ⟨⟩
      | false => exact hpress.elim (fun h => h) fun h => absurd h.2 (by decide)
  | pairWithPassphrase deviceName userAgent =>
    refine ⟨open?_eq_none rfl, fun token ending hp => ?_, ?_⟩
    · exact absurd hp (closeSetupWindow_code hon token ending)
    · exact hpress.elim (fun h => h) fun h => by cases h.1
  | pairWithAccount hash deviceName userAgent =>
    refine ⟨open?_eq_none rfl, fun token ending hp => ?_, ?_⟩
    · exact absurd hp (closeSetupWindow_code hon token ending)
    · exact hpress.elim (fun h => h) fun h => by cases h.1
  | _ => cases hends

theorem afterSave_onScreen (hon : OnScreen u.screen) (w : Write) (byPress : Bool) :
    OnScreen (u.afterSave w byPress).screen := by
  cases w with
  | finishSetup _ _ _ => exact closeSetupWindow_onScreen hon
  | pairWithPassphrase _ _ | pairWithAccount _ _ _ => exact closeSetupWindow_onScreen hon
  | _ => exact hon

variable [Pbkdf2]

theorem AfterInv.step (hi : AfterInv u) (hok : Tidy u e) (h : u.step e = some u') :
    AfterInv u' := by
  cases step_moves h with
  | still hstill hshows => exact hi.still hstill (fun _ => hshows.clear) (hshows.onScreen hi.shown)
  | opens i drawn u' hstill hwriter hnow hscreen =>
    refine hi.still hstill (fun hc hclear => ?_) ?_
    · have howned : (!u.auth.devices.isEmpty) = true := by simpa using hok hc
      rw [hnow, hscreen, howned]
      exact hclear
    · rw [hscreen]
      exact openSetupWindow_onScreen hi.shown _ _
  | asks i drawn u' hstill hwriter hnow hscreen =>
    refine hi.still hstill (fun hc hclear => ?_) ?_
    · have howned : (!u.auth.devices.isEmpty) = true := by simpa using hok hc
      rw [hnow, hscreen, howned]
      exact hclear
    · rw [hscreen]
      exact requestPress_onScreen hi.shown _ _
  | writes i drawn w byPress auth issued hwriter hphase hchange =>
    have hself : (Function.update u.phase i (.saving w byPress issued) i).saves =
        some (w, byPress) := by
      rw [Function.update_self]
      rfl
    refine ⟨fun hc hw => ?_, ?_, fun j x hx => ?_, hi.shown⟩
    · have hends : w.ends = false := hw i rfl w byPress hself
      have hbefore := complete_of_changed (Write.changed hchange) hends hc
      exact hi.clear hbefore (by rw [hwriter]; rintro _ ⟨⟩)
    · rintro _ ⟨⟩
      exact ⟨(w, byPress), hself⟩
    · rcases eq_or_ne j i with rfl | hne
      · rfl
      · have hold : (Function.update u.phase i (.saving w byPress issued) j).saves = some x := hx
        rw [Function.update_of_ne hne] at hold
        cases hwriter.symm.trans (hi.unique j x hold)
  | saves i io w byPress p u' hsaves hauth hcommits hwriter hphase hp hnow hscreen =>
    refine hi.released hsaves hwriter hphase hp (fun hc => ?_) ?_
    · rw [hauth] at hc
      rw [hnow, hscreen]
      cases hends : w.ends with
      | true =>
        rcases hok w byPress hsaves hends with ⟨rfl, hpress⟩ | hclear
        · rw [if_pos rfl]
          exact afterSave_clear hends hi.shown hpress
        · split
          · exact afterSave_clear hends hi.shown (.inl hclear.press)
          · exact hclear
      | false =>
        have hclear : Clear u.now u.screen := by
          refine hi.clear hc fun j hj w' byPress' hsaves' => ?_
          cases (hi.unique i _ hsaves).symm.trans hj
          cases hsaves.symm.trans hsaves'
          exact hends
        have hsame : (u.afterSave w byPress).screen = u.screen := by
          cases w <;> first | rfl | cases hends
        rwa [hsame, ite_self]
    · rw [hscreen]
      split
      · exact afterSave_onScreen hi.shown w byPress
      · exact hi.shown
  | leaves i u' hauth hcommits hwriter hphase hscreen hnow =>
    cases hsaves : (u.phase i).saves with
    | some x =>
      refine hi.released hsaves hwriter hphase rfl (fun hc => ?_) (by rw [hscreen]; exact hi.shown)
      rw [hauth] at hc
      rw [hnow, hscreen]
      cases hends : x.1.ends with
      | true => exact hok x.1 x.2 hsaves hends
      | false =>
        refine hi.clear hc fun j hj w' byPress' hsaves' => ?_
        cases (hi.unique i _ hsaves).symm.trans hj
        cases hsaves.symm.trans hsaves'
        exact hends
    | none =>
      have hother : u.writer ≠ some i := by
        intro h
        obtain ⟨x, hx⟩ := hi.holder i h
        cases hsaves.symm.trans hx
      rw [release_ne hother] at hwriter
      refine hi.still (.update hauth hcommits hwriter hphase hsaves rfl) (fun _ h => ?_) ?_
      · rw [hnow, hscreen]
        exact h
      · rw [hscreen]
        exact hi.shown

/-- **Nothing is open** on a unit that has an owner, in the runs in which calls that end the setup
are saved and have no request left that waits for a press. -/
theorem nothing_open (u : PairingState) (h : Reach StartsClosed step Tidy u)
    (hwriter : u.writer = none) (hcomplete : u.auth.setupComplete = true) :
    Clear u.now u.screen := by
  have hi : AfterInv u :=
    h.invariant (fun _ => AfterInv.of_starts) fun _ _ _ => AfterInv.step
  exact hi.clear hcomplete (by rw [hwriter]; rintro _ ⟨⟩)

omit [Pbkdf2]

theorem startsClosed_empty : StartsClosed {} := ⟨starts_empty, rfl, rfl, rfl⟩

/-- Two browsers race for a unit, and one of them wins. -/
theorem nothing_open_racing :
    let _ := allWrong
    ∃ u : PairingState, u.auth.devices.length = 1 ∧ Clear u.now u.screen := by
  let _ := allWrong
  intro _
  have hends : (racingBrowsers.foldlM (fun u e => if Tidy u e then step u e else none) {}).map
      (fun u => (u.auth.devices.length, u.writer, u.auth.setupComplete)) =
        some (1, none, true) := by decide +kernel
  obtain ⟨u, hu, hend⟩ := Option.map_eq_some_iff.1 hends
  simp only [Prod.mk.injEq] at hend
  exact ⟨u, hend.1, nothing_open u (.of_foldlM_guarded (.init startsClosed_empty) hu) hend.2.1
    hend.2.2⟩

/-- A request waits for a press while another browser sets the unit up with the token on the
screen. -/
def pressAndToken : List Event :=
  [.openSetupWindow 0, .readComplete 0, .countDevices 0 (.ok "7K3M9XWQ"), .requestPress 1,
    .readComplete 1, .countDevices 1 (.ok "0011223344556677"),
    .completeSetup 2 (.token "7K3M9XWQ") (ownerRequest "Linux Firefox/"), .lockSetup 2, .prove 2,
    .startKdf 2, .finishKdf 2 (some "hash"), .write 2 firstDevice, .saved 2 (.ok ())]

/-- It waits on when the unit has an owner, and a press would approve it. -/
theorem press_left_waiting :
    let _ := allWrong
    ¬ ∀ u : PairingState, Reach StartsClosed step (fun _ _ => True) u → u.writer = none →
      u.auth.setupComplete = true → Clear u.now u.screen := by
  let _ := allWrong
  intro _ h
  have hends : (pressAndToken.foldlM step {}).map
      (fun u => (u.writer, u.auth.setupComplete, decide (NoPress u.now u.screen))) =
        some (none, true, false) := by decide +kernel
  obtain ⟨u, hu, hend⟩ := Option.map_eq_some_iff.1 hends
  simp only [Prod.mk.injEq, decide_eq_false_iff_not] at hend
  exact hend.2.2 (h u (.of_foldlM (.init startsClosed_empty) hu) hend.1 hend.2.1).press

end PairingState

end Rayhunter.Auth
