import Rayhunter.Screen.Components

/-!
# Whether one takes another's picture down

Neither a picture nor a banner says whose it is to those who clear it. `StepUp` clears the picture
with every code that is confirmed, and whatever it does to its windows it sets or clears the banner;
`Pairing` clears the picture when the setup window closes. So each takes down what another has put
there, as `StepUp` does with the warning that stands from the start (`standing_warning_taken`).
`others_left_up_iff` says, of every run, in which calls that does not happen.
-/

namespace Rayhunter.Screen

/-- What a slot has is a component's own, or over, or nothing. -/
def Own {α : Type} (owner : α → Component) (by' : Component) (now : Instant)
    (slot : Option (α × Instant)) : Prop :=
  ∀ a ending, slot = some (a, ending) → now < ending → owner a = by'

/-- A picture is put up again and not anew: the code of a setup window that was open before. -/
def State.Again (s : State) (now : Instant) (p : Picture) : Prop :=
  ∃ w, s.pairing.open? now = some w ∧ p = .setupCode w.token

/-- A call leaves up what another component has put up and what is not over, unless it puts up a
picture anew: then the newest one is on the screen. -/
structure LeavesOthers (s : State) (now : Instant) (c : Call) : Prop where
  picture : ∀ p ending, s.override.picture = some (p, ending) → now < ending → p.owner ≠ c.component →
    (s.step now c).override.picture = some (p, ending) ∨
      ∃ p' ending', (s.step now c).override.picture = some (p', ending') ∧ ¬ s.Again now p'
  banner : ∀ b ending, s.override.banner = some (b, ending) → now < ending → b.owner ≠ c.component →
    (s.step now c).override.banner = some (b, ending)

/-- There is a code to be confirmed. -/
def State.Confirms (s : State) (now : Instant) (device code : String) : Prop :=
  ∃ p, (s.stepUp.live now).find? (·.1 = device) = some p ∧
    p.2.code = String.ofList (code.toList.filter (·.isDigit))

/-- A window of a browser is over and still there. -/
def State.Lapsed (s : State) (now : Instant) (device : String) : Prop :=
  ∃ w, s.stepUp.windows.find? (·.1 = device) = some w ∧ ¬ now < w.2.expiresAt

/-- A wrong token is the last one. -/
def State.LastAttempt (s : State) (now : Instant) (token : String) : Prop :=
  ∃ w, s.pairing.open? now = some w ∧ normalizeToken token ≠ w.token ∧
    MAX_SETUP_ATTEMPTS ≤ w.wrong + 1

/-- The picture is the component's, or over, or there is none. -/
def State.PictureOwn (s : State) (now : Instant) (c : Component) : Prop :=
  Own Picture.owner c now s.override.picture

/-- The same of the banner. -/
def State.BannerOwn (s : State) (now : Instant) (c : Component) : Prop :=
  Own Banner.owner c now s.override.banner

/-- Where a call takes something down or puts it up again, that is its own, or over, or there is
nothing. -/
def Harmless (s : State) (now : Instant) : Call → Prop
  | .confirm device code =>
    s.stepUp.screen → s.Confirms now device code →
      s.PictureOwn now .stepUp ∧ s.BannerOwn now .stepUp
  | .stepUpButton _ =>
    s.stepUp.screen → s.stepUp.live now ≠ [] → s.PictureOwn now .stepUp ∧ s.BannerOwn now .stepUp
  | .active device => s.stepUp.screen → s.Lapsed now device → s.BannerOwn now .stepUp
  | .extend _ | .endStepUp _ => s.stepUp.screen → s.BannerOwn now .stepUp
  | .openSetupWindow owned _ =>
    s.pairing.screen ∧ s.pairing.fits → owned = false → (s.pairing.open? now).isSome →
      s.PictureOwn now .pairing
  | .closeSetupWindow => s.pairing.screen → s.PictureOwn now .pairing
  | .checkSetupToken token =>
    s.pairing.screen → s.LastAttempt now token → s.PictureOwn now .pairing
  | .fingerprintOver =>
    s.pairing.screen ∧ s.pairing.fits → (∃ due ∈ s.pairing.timers, due ≤ now) →
      (s.pairing.open? now).isSome → s.PictureOwn now .pairing
  | .start _ _ | .requestPress _ _ | .pairingButton | .paint => True

/-! ## One slot -/

section Slot

variable {α : Type} {owner : α → Component} {by' : Component} {now : Instant}
  {slot after : Option (α × Instant)}

/-- What is another's and not over is still there after. -/
def Left (owner : α → Component) (by' : Component) (now : Instant)
    (slot after : Option (α × Instant)) : Prop :=
  ∀ a ending, slot = some (a, ending) → now < ending → owner a ≠ by' → after = some (a, ending)

theorem Left.refl : Left owner by' now slot slot := fun _ _ h _ _ => h

/-- After looking at a slot what is not over is still there. -/
theorem Left.look : Left owner by' now slot (DisplayOverride.look now slot) := by
  intro a ending hslot hnow _
  rw [hslot, DisplayOverride.look, if_pos hnow]

/-- Nothing of another's is left where there is nothing or something of one's own. -/
theorem left_iff_own (hafter : ∀ a ending, after = some (a, ending) → owner a = by') :
    Left owner by' now slot after ↔ Own owner by' now slot := by
  constructor
  · intro h a ending hslot hnow
    by_contra hne
    exact hne (hafter a ending (h a ending hslot hnow hne))
  · intro h a ending hslot hnow hne
    exact (hne (h a ending hslot hnow)).elim

end Slot

/-- A call leaves others' up if it leaves the banner and the picture, or puts one up anew. -/
theorem leavesOthers_iff (s : State) (now : Instant) (c : Call) :
    LeavesOthers s now c ↔
      ((∃ p ending, (s.step now c).override.picture = some (p, ending) ∧ ¬ s.Again now p) ∨
        Left Picture.owner c.component now s.override.picture (s.step now c).override.picture) ∧
      Left Banner.owner c.component now s.override.banner (s.step now c).override.banner := by
  constructor
  · intro h
    refine ⟨?_, h.banner⟩
    by_cases hnew : ∃ p ending, (s.step now c).override.picture = some (p, ending) ∧ ¬ s.Again now p
    · exact .inl hnew
    · exact .inr fun p ending hslot hnow hne => (h.picture p ending hslot hnow hne).resolve_right hnew
  · rintro ⟨hpicture, hbanner⟩
    refine ⟨fun p ending hslot hnow hne => ?_, hbanner⟩
    exact hpicture.symm.imp_left fun h => h p ending hslot hnow hne

/-- A call that leaves the screen as it is. -/
theorem leavesOthers_same {s : State} {now : Instant} {c : Call}
    (h : (s.step now c).override = s.override) : LeavesOthers s now c := by
  rw [leavesOthers_iff, h]
  exact ⟨.inr .refl, .refl⟩

/-- A call that puts a picture up anew. -/
theorem leavesOthers_new {s : State} {now : Instant} {c : Call} {p : Picture} {period : Nat}
    (h : (s.step now c).override = s.override.showPicture now p period) (hnew : ¬ s.Again now p) :
    LeavesOthers s now c := by
  rw [leavesOthers_iff, h]
  exact ⟨.inl ⟨p, _, rfl, hnew⟩, .refl⟩

/-- A call that puts a picture up again. -/
theorem leavesOthers_again {s : State} {now : Instant} {c : Call} {p : Picture} {period : Nat}
    (h : (s.step now c).override = s.override.showPicture now p period) (hagain : s.Again now p)
    (howner : p.owner = c.component) : LeavesOthers s now c ↔ s.PictureOwn now c.component := by
  rw [leavesOthers_iff, h]
  have hown : Left Picture.owner c.component now s.override.picture
      (s.override.showPicture now p period).picture ↔ s.PictureOwn now c.component := by
    refine left_iff_own fun q ending hq => ?_
    obtain ⟨rfl, -⟩ := Prod.mk.inj (Option.some.inj hq)
    exact howner
  constructor
  · rintro ⟨⟨q, ending, hq, hnew⟩ | hleft, -⟩
    · obtain ⟨rfl, -⟩ := Prod.mk.inj (Option.some.inj hq)
      exact (hnew hagain).elim
    · exact hown.mp hleft
  · exact fun h => ⟨.inr (hown.mpr h), .refl⟩

/-- A call that takes the picture down. -/
theorem leavesOthers_clear {s : State} {now : Instant} {c : Call}
    (h : (s.step now c).override = s.override.clear) :
    LeavesOthers s now c ↔ s.PictureOwn now c.component := by
  rw [leavesOthers_iff, h]
  have hown : Left Picture.owner c.component now s.override.picture s.override.clear.picture ↔
      s.PictureOwn now c.component := left_iff_own fun q ending hq => by cases hq
  constructor
  · rintro ⟨⟨q, ending, hq, -⟩ | hleft, -⟩
    · cases hq
    · exact hown.mp hleft
  · exact fun h => ⟨.inr (hown.mpr h), .refl⟩

/-! ## The banner of the step-up -/

/-- Without a screen there is nothing to refresh. -/
theorem refreshBanner_off {s : State} {now : Instant} (h : s.stepUp.screen = false) :
    s.refreshBanner now = s := by
  rw [State.refreshBanner, h]
  rfl

theorem picture_refreshBanner (s : State) (now : Instant) :
    (s.refreshBanner now).override.picture = s.override.picture := by
  unfold State.refreshBanner
  split
  · dsimp only
    split <;> rfl
  · rfl

/-- A banner that is refreshed is gone, or the step-up's. -/
theorem banner_refreshBanner {s : State} {now : Instant} (h : s.stepUp.screen = true) {b : Banner}
    {ending : Instant} (hb : (s.refreshBanner now).override.banner = some (b, ending)) :
    b.owner = .stepUp := by
  rw [State.refreshBanner, if_pos h] at hb
  dsimp only at hb
  split at hb
  · obtain ⟨rfl, -⟩ := Prod.mk.inj (Option.some.inj hb)
    rfl
  · cases hb

/-- A call that ends with refreshing the banner. -/
theorem leavesOthers_refresh {s r : State} {now : Instant} {c : Call}
    (hc : c.component = .stepUp) (hstep : s.step now c = r.refreshBanner now)
    (hscreen : r.stepUp.screen = s.stepUp.screen) (hoverride : r.override = s.override) :
    LeavesOthers s now c ↔ (s.stepUp.screen → s.BannerOwn now .stepUp) := by
  cases hs : s.stepUp.screen with
  | false =>
    rw [hs] at hscreen
    rw [refreshBanner_off hscreen] at hstep
    exact iff_of_true (leavesOthers_same (by rw [hstep, hoverride])) (fun h => by cases h)
  | true =>
    rw [hs] at hscreen
    rw [leavesOthers_iff, hc, hstep, picture_refreshBanner, hoverride,
      left_iff_own fun b ending hb => banner_refreshBanner hscreen hb]
    exact ⟨fun h _ => h.2, fun h => ⟨.inr .refl, h rfl⟩⟩

/-- A window that opens on a unit without a screen. -/
theorem override_openWindow_off {s : State} {now : Instant} {device : String}
    (h : s.stepUp.screen = false) : (s.openWindow now device).override = s.override := by
  rw [State.openWindow, refreshBanner_off]
  · rw [h]
    rfl
  · exact h

theorem picture_openWindow {s : State} {now : Instant} {device : String}
    (h : s.stepUp.screen = true) : (s.openWindow now device).override.picture = none := by
  rw [State.openWindow, picture_refreshBanner, if_pos h]
  rfl

theorem banner_openWindow {s : State} {now : Instant} {device : String}
    (h : s.stepUp.screen = true) {b : Banner} {ending : Instant}
    (hb : (s.openWindow now device).override.banner = some (b, ending)) : b.owner = .stepUp := by
  rw [State.openWindow] at hb
  exact banner_refreshBanner (by exact h) hb

/-- A call that opens a window. -/
theorem leavesOthers_open {s r : State} {now : Instant} {c : Call} {device : String}
    (hc : c.component = .stepUp) (hstep : s.step now c = r.openWindow now device)
    (hscreen : r.stepUp.screen = s.stepUp.screen) (hoverride : r.override = s.override) :
    LeavesOthers s now c ↔
      (s.stepUp.screen → s.PictureOwn now .stepUp ∧ s.BannerOwn now .stepUp) := by
  cases hs : s.stepUp.screen with
  | false =>
    rw [hs] at hscreen
    refine iff_of_true (leavesOthers_same ?_) (fun h => by cases h)
    rw [hstep, override_openWindow_off hscreen, hoverride]
  | true =>
    rw [hs] at hscreen
    have hown : Left Picture.owner .stepUp now s.override.picture none ↔ s.PictureOwn now .stepUp :=
      left_iff_own fun p ending hp => by cases hp
    rw [leavesOthers_iff, hc, hstep, picture_openWindow hscreen,
      left_iff_own fun b ending hb => banner_openWindow hscreen hb]
    constructor
    · rintro ⟨⟨p, ending, hp, -⟩ | hleft, hb⟩
      · cases hp
      · exact fun _ => ⟨hown.mp hleft, hb⟩
    · exact fun h => ⟨.inr (hown.mpr (h rfl).1), (h rfl).2⟩

/-! ## One call -/

/-- The same with other codes waiting. -/
def State.withPending (s : State) (pending : List (String × Pending)) : State :=
  { s with stepUp := { s.stepUp with pending } }

/-- The same with other windows. -/
def State.withWindows (s : State) (windows : List (String × Window)) : State :=
  { s with stepUp := { s.stepUp with windows } }

theorem leavesOthers_confirm (s : State) (now : Instant) (device code : String) :
    LeavesOthers s now (.confirm device code) ↔ Harmless s now (.confirm device code) := by
  cases hfind : (s.stepUp.live now).find? (·.1 = device) with
  | none =>
    refine iff_of_true (leavesOthers_same ?_) fun _ ⟨p, hp, _⟩ => ?_
    · simp only [State.step, State.confirm, hfind]
    · rw [hfind] at hp
      cases hp
  | some p =>
    by_cases hcode : p.2.code = String.ofList (code.toList.filter (·.isDigit))
    · have hstep : s.step now (.confirm device code) =
          (s.withPending ((s.stepUp.live now).filter (·.1 ≠ device))).openWindow now device := by
        simp only [State.step, State.confirm, hfind, hcode, if_true]
        rfl
      rw [leavesOthers_open rfl hstep rfl rfl]
      exact ⟨fun h hscreen _ => h hscreen, fun h hscreen => h hscreen ⟨p, hfind, hcode⟩⟩
    · refine iff_of_true (leavesOthers_same ?_) fun _ ⟨q, hq, hqcode⟩ => ?_
      · simp only [State.step, State.confirm, hfind, hcode, if_false]
        split <;> rfl
      · rw [hfind] at hq
        obtain rfl := Option.some.inj hq
        exact (hcode hqcode).elim

/-- Of some pending codes one is the newest. -/
theorem exists_newest {live : List (String × Pending)} (h : live ≠ []) :
    ∃ p ∈ live, ∀ q ∈ live, q.2.started ≤ p.2.started := by
  induction live with
  | nil => exact (h rfl).elim
  | cons p live ih =>
    by_cases hlive : live = []
    · subst hlive
      exact ⟨p, List.mem_cons_self, fun q hq => by rw [List.mem_singleton.mp hq]⟩
    · obtain ⟨r, hr, hmax⟩ := ih hlive
      rcases le_total r.2.started p.2.started with hle | hle
      · refine ⟨p, List.mem_cons_self, fun q hq => ?_⟩
        rcases List.mem_cons.mp hq with rfl | hq
        · exact le_rfl
        · exact (hmax q hq).trans hle
      · refine ⟨r, List.mem_cons_of_mem _ hr, fun q hq => ?_⟩
        rcases List.mem_cons.mp hq with rfl | hq
        · exact hle
        · exact hmax q hq

theorem newest_eq_none_iff (first : String) (live : List (String × Pending)) :
    State.newest first live = none ↔ live = [] := by
  constructor
  · intro h
    by_contra hlive
    obtain ⟨p, hp, hmax⟩ := exists_newest hlive
    unfold State.newest at h
    dsimp only at h
    split at h
    · cases h
    · have hmem : p ∈ live.filter fun p => live.all fun q => q.2.started ≤ p.2.started :=
        List.mem_filter.mpr ⟨hp, List.all_eq_true.mpr fun q hq => decide_eq_true (hmax q hq)⟩
      rw [List.head?_eq_none_iff, List.map_eq_nil_iff] at h
      rw [h] at hmem
      cases hmem
  · rintro rfl
    rfl

theorem leavesOthers_stepUpButton (s : State) (now : Instant) (first : String) :
    LeavesOthers s now (.stepUpButton first) ↔ Harmless s now (.stepUpButton first) := by
  cases hnewest : State.newest first (s.stepUp.live now) with
  | none =>
    have hlive := (newest_eq_none_iff first _).mp hnewest
    refine iff_of_true (leavesOthers_same ?_) fun _ hne => (hne hlive).elim
    simp only [State.step, State.stepUpButton, hnewest]
  | some device =>
    have hlive : s.stepUp.live now ≠ [] := by
      rw [Ne, ← newest_eq_none_iff first, hnewest]
      exact Option.some_ne_none _
    have hstep : s.step now (.stepUpButton first) =
        (s.withPending ((s.stepUp.live now).filter (·.1 ≠ device))).openWindow now device := by
      simp only [State.step, State.stepUpButton, hnewest]
      rfl
    rw [leavesOthers_open rfl hstep rfl rfl]
    exact ⟨fun h hscreen _ => h hscreen, fun h hscreen => h hscreen hlive⟩

theorem leavesOthers_active (s : State) (now : Instant) (device : String) :
    LeavesOthers s now (.active device) ↔ Harmless s now (.active device) := by
  cases hfind : s.stepUp.windows.find? (·.1 = device) with
  | none =>
    refine iff_of_true (leavesOthers_same ?_) fun _ ⟨w, hw, _⟩ => ?_
    · simp only [State.step, State.active, hfind]
    · rw [hfind] at hw
      cases hw
  | some w =>
    by_cases hnow : now < w.2.expiresAt
    · refine iff_of_true (leavesOthers_same ?_) fun _ ⟨v, hv, hlapsed⟩ => ?_
      · simp only [State.step, State.active, hfind, hnow, if_true]
      · rw [hfind] at hv
        obtain rfl := Option.some.inj hv
        exact (hlapsed hnow).elim
    · have hstep : s.step now (.active device) =
          (s.withWindows (s.stepUp.windows.filter (·.1 ≠ device))).refreshBanner now := by
        simp only [State.step, State.active, hfind, hnow, if_false]
        rfl
      rw [leavesOthers_refresh rfl hstep rfl rfl]
      exact ⟨fun h hscreen _ => h hscreen, fun h hscreen => h hscreen ⟨w, hfind, hnow⟩⟩

theorem leavesOthers_start (s : State) (now : Instant) (device : String) (code : Option String) :
    LeavesOthers s now (.start device code) := by
  cases code with
  | none => exact leavesOthers_same rfl
  | some code =>
    cases hscreen : s.stepUp.screen with
    | false => exact leavesOthers_same (by
        simp only [State.step, State.start, hscreen, Bool.false_eq_true, if_false])
    | true =>
      refine leavesOthers_new (p := .stepUpCode code) (by
        simp only [State.step, State.start, hscreen, if_true]; rfl) ?_
      rintro ⟨w, -, hp⟩
      cases hp

/-- The code is shown, if there is a screen and it fits. -/
theorem override_showCode_on {s : State} {now : Instant} {token : String}
    (h : s.pairing.screen ∧ s.pairing.fits) :
    (s.showCode now token).override = s.override.showPicture now (.setupCode token) SETUP_WINDOW := by
  rw [State.showCode, h.1, h.2]
  rfl

theorem override_showCode_off {s : State} {now : Instant} {token : String}
    (h : ¬ (s.pairing.screen ∧ s.pairing.fits)) : (s.showCode now token).override = s.override := by
  rw [State.showCode, if_neg (by simpa only [Bool.and_eq_true] using h)]

/-- A call that shows the code of the window that is open. -/
theorem leavesOthers_showCode {s r : State} {now : Instant} {c : Call} {w : SetupWindow}
    (hc : c.component = .pairing) (hopen : s.pairing.open? now = some w)
    (hstep : s.step now c = r.showCode now w.token) (hscreen : r.pairing.screen = s.pairing.screen)
    (hfits : r.pairing.fits = s.pairing.fits) (hoverride : r.override = s.override) :
    LeavesOthers s now c ↔ (s.pairing.screen ∧ s.pairing.fits → s.PictureOwn now .pairing) := by
  by_cases hshow : s.pairing.screen ∧ s.pairing.fits
  · have hafter := @override_showCode_on r now w.token (by rw [hscreen, hfits]; exact hshow)
    rw [hoverride] at hafter
    rw [leavesOthers_again (by rw [hstep, hafter]) ⟨w, hopen, rfl⟩ (by rw [hc]; rfl), hc]
    exact ⟨fun h _ => h, fun h => h hshow⟩
  · refine iff_of_true (leavesOthers_same ?_) fun h => (hshow h).elim
    rw [hstep, override_showCode_off (by rw [hscreen, hfits]; exact hshow), hoverride]

/-- The same with another setup window, or none. -/
def State.withSetup (s : State) (setup : Option SetupWindow) : State :=
  { s with pairing := { s.pairing with setup } }

theorem leavesOthers_openSetupWindow (s : State) (now : Instant) (owned : Bool)
    (token : Option String) :
    LeavesOthers s now (.openSetupWindow owned token) ↔
      Harmless s now (.openSetupWindow owned token) := by
  cases owned with
  | true => exact iff_of_true (leavesOthers_same rfl) fun _ h => by cases h
  | false =>
    cases hopen : s.pairing.open? now with
    | some w =>
      have hstep : s.step now (.openSetupWindow false token) =
          (s.withSetup (some { w with opened := now })).showCode now w.token := by
        simp only [State.step, State.openSetupWindow, hopen, Bool.false_eq_true, if_false]
        rfl
      rw [leavesOthers_showCode rfl hopen hstep rfl rfl rfl]
      exact ⟨fun h hshow _ _ => h hshow, fun h hshow => h hshow rfl (by rw [hopen]; rfl)⟩
    | none =>
      refine iff_of_true ?_ fun _ _ h => by rw [hopen] at h; cases h
      cases token with
      | none => exact leavesOthers_same (by
          simp only [State.step, State.openSetupWindow, hopen, Bool.false_eq_true, if_false])
      | some token =>
        have hstep : s.step now (.openSetupWindow false (some token)) =
            (s.withSetup (some ⟨token, now, 0⟩)).showCode now token := by
          simp only [State.step, State.openSetupWindow, hopen, Bool.false_eq_true, if_false]
          rfl
        by_cases hshow : s.pairing.screen ∧ s.pairing.fits
        · refine leavesOthers_new (p := .setupCode token)
            (by rw [hstep, override_showCode_on (by exact hshow)]; rfl) ?_
          rintro ⟨w, hw, -⟩
          rw [hopen] at hw
          cases hw
        · exact leavesOthers_same (by rw [hstep, override_showCode_off (by exact hshow)]; rfl)

/-- A call that closes the setup window. -/
theorem leavesOthers_close {s : State} {now : Instant} {c : Call} (hc : c.component = .pairing)
    (hstep : s.step now c = s.closeSetupWindow) :
    LeavesOthers s now c ↔ (s.pairing.screen → s.PictureOwn now .pairing) := by
  cases hscreen : s.pairing.screen with
  | false =>
    refine iff_of_true (leavesOthers_same ?_) fun h => by cases h
    simp only [hstep, State.closeSetupWindow, hscreen, Bool.false_eq_true, if_false]
  | true =>
    have hclear : (s.step now c).override = s.override.clear := by
      simp only [hstep, State.closeSetupWindow, hscreen, if_true]
    rw [leavesOthers_clear hclear, hc]
    exact ⟨fun h _ => h, fun h => h rfl⟩

theorem leavesOthers_checkSetupToken (s : State) (now : Instant) (token : String) :
    LeavesOthers s now (.checkSetupToken token) ↔ Harmless s now (.checkSetupToken token) := by
  cases hopen : s.pairing.open? now with
  | none =>
    refine iff_of_true (leavesOthers_same ?_) fun _ ⟨w, hw, _⟩ => ?_
    · simp only [State.step, State.checkSetupToken, hopen]
    · rw [hopen] at hw
      cases hw
  | some w =>
    by_cases hlast : normalizeToken token ≠ w.token ∧ MAX_SETUP_ATTEMPTS ≤ w.wrong + 1
    · have hstep : s.step now (.checkSetupToken token) = s.closeSetupWindow := by
        simp only [State.step, State.checkSetupToken, hopen, hlast.1, hlast.2, if_true, if_false]
      rw [leavesOthers_close rfl hstep]
      exact ⟨fun h hscreen _ => h hscreen, fun h hscreen => h hscreen ⟨w, hopen, hlast⟩⟩
    · refine iff_of_true (leavesOthers_same ?_) fun _ ⟨v, hv, hattempt⟩ => ?_
      · simp only [State.step, State.checkSetupToken, hopen]
        split
        · rfl
        · next hne =>
          rw [if_neg fun hmax => hlast ⟨hne, hmax⟩]
      · rw [hopen] at hv
        obtain rfl := Option.some.inj hv
        exact (hlast hattempt).elim

theorem leavesOthers_requestPress (s : State) (now : Instant) (owned : Bool) (id : Option String) :
    LeavesOthers s now (.requestPress owned id) := by
  cases owned with
  | true => exact leavesOthers_same rfl
  | false =>
    cases id with
    | none => exact leavesOthers_same rfl
    | some id =>
      cases hpress : s.pairing.press.filter fun p => now - p.created < PRESS_WINDOW with
      | some p => exact leavesOthers_same (by
          simp only [State.step, State.requestPress, hpress, Bool.false_eq_true, if_false])
      | none =>
        cases hscreen : s.pairing.screen with
        | false => exact leavesOthers_same (by
            simp only [State.step, State.requestPress, hpress, hscreen, Bool.false_eq_true, if_false])
        | true =>
          refine leavesOthers_new (p := .pressTheButton) (by
            simp only [State.step, State.requestPress, hpress, hscreen, Bool.false_eq_true, if_false,
              if_true]
            rfl) ?_
          rintro ⟨w, -, hp⟩
          cases hp

theorem leavesOthers_pairingButton (s : State) (now : Instant) :
    LeavesOthers s now .pairingButton := by
  cases hpress : s.pairing.press.filter fun p =>
      p.approved.isNone && now - p.created < PRESS_WINDOW with
  | some p =>
    cases hscreen : s.pairing.screen with
    | false => exact leavesOthers_same (by
        simp only [State.step, State.pairingButton, hpress, hscreen, Bool.false_eq_true, if_false])
    | true =>
      refine leavesOthers_new (p := .continueOnYourPhone) (by
        simp only [State.step, State.pairingButton, hpress, hscreen, if_true]; rfl) ?_
      rintro ⟨w, -, hp⟩
      cases hp
  | none =>
    by_cases hshow : ∃ w hex, s.pairing.open? now = some w ∧ s.pairing.fingerprint = some hex ∧
        (!s.pairing.showingFingerprint && s.pairing.screen) = true
    · obtain ⟨w, hex, hopen, hfingerprint, hshow⟩ := hshow
      refine leavesOthers_new (p := .fingerprint hex) (by
        simp only [State.step, State.pairingButton, hpress, hopen, hfingerprint, hshow, if_true]
        rfl) ?_
      rintro ⟨w, -, hp⟩
      cases hp
    · refine leavesOthers_same ?_
      simp only [State.step, State.pairingButton, hpress]
      split
      · next w hex hopen hfingerprint =>
        rw [if_neg fun h => hshow ⟨w, hex, hopen, hfingerprint, h⟩]
      · rfl

theorem leavesOthers_fingerprintOver (s : State) (now : Instant) :
    LeavesOthers s now .fingerprintOver ↔ Harmless s now .fingerprintOver := by
  cases hdue : s.pairing.timers.find? (· ≤ now) with
  | none =>
    refine iff_of_true (leavesOthers_same ?_) fun _ ⟨due, hmem, hle⟩ => ?_
    · simp only [State.step, State.fingerprintOver, hdue]
    · have hnone := List.find?_eq_none.mp hdue due hmem
      exact (hnone (by simpa using hle)).elim
  | some due =>
    have hfired : ∃ due ∈ s.pairing.timers, due ≤ now :=
      ⟨due, List.mem_of_find?_eq_some hdue, by simpa using List.find?_some hdue⟩
    cases hopen : s.pairing.open? now with
    | none =>
      refine iff_of_true (leavesOthers_same ?_) fun _ _ h => by rw [hopen] at h; cases h
      have hopen' : (s.pairing.setup.filter fun w => now - w.opened < SETUP_WINDOW) = none := hopen
      simp only [State.step, State.fingerprintOver, hdue, Pairing.open?, hopen']
    | some w =>
      have hopen' : (s.pairing.setup.filter fun w => now - w.opened < SETUP_WINDOW) = some w := hopen
      have hstep : s.step now .fingerprintOver = State.showCode now w.token
          { s with pairing := { s.pairing with
            showingFingerprint := false
            timers := s.pairing.timers.erase due } } := by
        simp only [State.step, State.fingerprintOver, hdue, Pairing.open?, hopen']
      rw [leavesOthers_showCode rfl hopen hstep rfl rfl rfl]
      exact ⟨fun h hshow _ _ => h hshow, fun h hshow => h hshow hfired (by rw [hopen]; rfl)⟩

/-- A call leaves up what others have put up if and only if it is harmless. -/
theorem leavesOthers_iff_harmless (s : State) (now : Instant) (c : Call) :
    LeavesOthers s now c ↔ Harmless s now c := by
  cases c with
  | start device code => exact iff_of_true (leavesOthers_start s now device code) trivial
  | confirm device code => exact leavesOthers_confirm s now device code
  | stepUpButton first => exact leavesOthers_stepUpButton s now first
  | active device => exact leavesOthers_active s now device
  | extend device =>
    have hstep : s.step now (.extend device) = (s.withWindows (s.stepUp.windows.map fun w =>
        if w.1 = device then (w.1, { w.2 with lastUsed := now }) else w)).refreshBanner now := rfl
    exact leavesOthers_refresh rfl hstep rfl rfl
  | endStepUp device =>
    have hstep : s.step now (.endStepUp device) =
        (s.withWindows (s.stepUp.windows.filter (·.1 ≠ device))).refreshBanner now := rfl
    exact leavesOthers_refresh rfl hstep rfl rfl
  | openSetupWindow owned token => exact leavesOthers_openSetupWindow s now owned token
  | closeSetupWindow => exact leavesOthers_close rfl rfl
  | checkSetupToken token => exact leavesOthers_checkSetupToken s now token
  | requestPress owned id => exact iff_of_true (leavesOthers_requestPress s now owned id) trivial
  | pairingButton => exact iff_of_true (leavesOthers_pairingButton s now) trivial
  | fingerprintOver => exact leavesOthers_fingerprintOver s now
  | paint =>
    refine iff_of_true ?_ trivial
    rw [leavesOthers_iff]
    exact ⟨.inr .look, .look⟩

/-! ## Runs -/

/-- The state after some calls, each with when it is made. -/
def State.run (s : State) : List (Instant × Call) → State
  | [] => s
  | (now, c) :: calls => (s.step now c).run calls

/-- Something holds of every call of a run where it is made. -/
def Along (P : State → Instant → Call → Prop) (s : State) : List (Instant × Call) → Prop
  | [] => True
  | (now, c) :: calls => P s now c ∧ Along P (s.step now c) calls

/-- In a run, whatever it starts from, every call leaves up what others have put up if and only if
every call is harmless. -/
theorem others_left_up_iff (s : State) (calls : List (Instant × Call)) :
    Along LeavesOthers s calls ↔ Along Harmless s calls := by
  induction calls generalizing s with
  | nil => exact Iff.rfl
  | cons e calls ih =>
    obtain ⟨now, c⟩ := e
    exact and_congr (leavesOthers_iff_harmless s now c) (ih _)

/-- In a run of harmless calls a standing warning is there until it is over. -/
theorem standing_warning_kept (s : State) (calls : List (Instant × Call)) (b : Banner)
    (ending : Instant) (hb : s.override.banner = some (b, ending)) (howner : b.owner = .startUp)
    (hnow : ∀ e ∈ calls, e.1 < ending) (h : Along Harmless s calls) :
    (s.run calls).override.banner = some (b, ending) := by
  induction calls generalizing s with
  | nil => exact hb
  | cons e calls ih =>
    obtain ⟨now, c⟩ := e
    have hleaves := (leavesOthers_iff_harmless s now c).mpr h.1
    refine ih _ (hleaves.banner b ending hb (hnow _ List.mem_cons_self) ?_)
      (fun e he => hnow e (List.mem_cons_of_mem _ he)) h.2
    rw [howner]
    cases c <;> simp [Call.component]

/-- A unit without TLS says so from the start, and no longer once somebody has asked it to end a
step-up there is not. -/
theorem standing_warning_taken :
    (State.startUp 0 false false 8443 {}).override.banner = some (.noTls, forever) ∧
      ((State.startUp 0 false false 8443 {}).run
        [(seconds 60, .endStepUp "loopback")]).override.banner = none ∧
      ¬ Along LeavesOthers (State.startUp 0 false false 8443 {})
        [(seconds 60, .endStepUp "loopback")] := by
  have hgone : ((State.startUp 0 false false 8443 {}).step (seconds 60)
      (.endStepUp "loopback")).override.banner = none := by decide
  refine ⟨rfl, hgone, fun h => ?_⟩
  have hleft := h.1.banner .noTls (0 + forever) rfl (by decide) (by decide)
  rw [hgone] at hleft
  cases hleft

end Rayhunter.Screen
