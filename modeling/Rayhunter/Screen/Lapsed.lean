import Mathlib.Data.List.Nodup
import Mathlib.Logic.Function.Basic
import Rayhunter.Lib.Reach
import Rayhunter.Screen.Taken

/-!
# Whether a window of the terminal that has lapsed stays so

A confirmed step-up opens a window for a browser (`daemon/src/stepup.rs`). It is over some minutes
after it was last used, and half an hour after it was opened whatever happens. That is looked at
when somebody asks (`active`) and when the banner is drawn anew; `extend` does not look. A window
that is over and still there goes on when it is extended (`lapsed_extended`). `lapsed_stays` is
about the runs in which nobody extends such a window: one that is over stays so until the browser
has confirmed a step-up of its own again.
-/

namespace Rayhunter.Screen

open Runs

/-- The digits of what was typed. -/
def digits (given : String) : String := String.ofList (given.toList.filter (·.isDigit))

/-- The calls on the components, with when they come, how late it is, and when each browser has
confirmed a step-up last. -/
structure StepUpRun where
  state : State := {}
  now : Instant := 0
  log : List (Instant × Call) := []
  confirmed : String → Option Instant := fun _ => none

/-- The browser that confirms a step-up. -/
def State.confirmedBy (s : State) (now : Instant) : Call → Option String
  | .confirm device code =>
    if (s.confirm now device code).1.toOption.isSome then some device else none
  | .stepUpButton first => State.newest first (s.stepUp.live now)
  | _ => none

namespace StepUpRun

/-- A call, some time after the one before. -/
def step (r : StepUpRun) (e : Nat × Call) : Option StepUpRun :=
  let now := r.now + e.1
  some
    { state := r.state.step now e.2
      now
      log := (now, e.2) :: r.log
      confirmed :=
        match r.state.confirmedBy now e.2 with
        | some device => Function.update r.confirmed device (some now)
        | none => r.confirmed }

/-- The daemon has just started. -/
structure Starts (r : StepUpRun) : Prop where
  pending : r.state.stepUp.pending = []
  windows : r.state.stepUp.windows = []
  log : r.log = []

/-- What a browser would be told that asks now. -/
def Reported (r : StepUpRun) (device : String) : Prop := (r.state.active r.now device).1 = true

/-- Nobody extends a window that is over and still there. -/
def Timely (r : StepUpRun) (e : Nat × Call) : Prop :=
  ∀ device, e.2 = .extend device → ¬ r.state.Lapsed (r.now + e.1) device

/-- The last step-up a browser has started: when, with which code, and how often it has tried one
since. -/
def lastStart (device : String) : List (Instant × Call) → Option (Instant × String × Nat)
  | [] => none
  | (now, .start d (some code)) :: earlier =>
    if d = device then some (now, code, 0) else lastStart device earlier
  | (_, .confirm d _) :: earlier =>
    if d = device then
      (lastStart device earlier).map fun (started, code, tries) => (started, code, tries + 1)
    else lastStart device earlier
  | _ :: earlier => lastStart device earlier

/-- A browser confirms a step-up that it has started itself and not long ago: with the right code
after fewer than the allowed wrong tries, or by a press of the button while it is the newest one
that waits. -/
def Fresh (r : StepUpRun) (e : Nat × Call) (device : String) : Prop :=
  ∃ started code tries, lastStart device r.log = some (started, code, tries) ∧
    r.now + e.1 - started < CODE_TTL ∧
    ((∃ given, e.2 = .confirm device given ∧
        digits given = code ∧ tries < MAX_WRONG) ∨
      ((∃ first, e.2 = .stepUpButton first) ∧
        ∀ q ∈ r.state.stepUp.live (r.now + e.1), q.2.started ≤ started))

end StepUpRun

/-! ## Lists by name -/

section Keyed

variable {α : Type} {key d : String} {a : α} {l : List (String × α)}

/-- No name twice. -/
def Keyed (l : List (String × α)) : Prop := (l.map (·.1)).Nodup

theorem Keyed.filter (h : Keyed l) (p : String × α → Bool) : Keyed (l.filter p) :=
  h.sublist (List.filter_sublist.map _)

theorem keyed_insert (h : Keyed l) : Keyed (insert key a l) := by
  refine List.nodup_cons.2 ⟨fun hmem => ?_, h.filter _⟩
  obtain ⟨x, hx, hkey⟩ := List.mem_map.1 hmem
  exact absurd hkey (by simpa using (List.mem_filter.1 hx).2)

theorem mem_insert {x : String × α} (h : x ∈ insert key a l) :
    x = (key, a) ∨ (x ∈ l ∧ x.1 ≠ key) := by
  rcases List.mem_cons.1 h with rfl | h
  · exact .inl rfl
  · exact .inr ⟨(List.mem_filter.1 h).1, by simpa using (List.mem_filter.1 h).2⟩

/-- What is found by a name is all there is of it. -/
theorem find?_eq_some_of_keyed (h : Keyed l) {x : String × α} (hx : x ∈ l) :
    l.find? (·.1 = x.1) = some x := by
  induction l with
  | nil => cases hx
  | cons y l ih =>
    rcases List.mem_cons.1 hx with rfl | hx
    · simp
    · have hne : y.1 ≠ x.1 := fun he =>
        (List.nodup_cons.1 h).1 (List.mem_map.2 ⟨x, hx, he.symm⟩)
      rw [List.find?_cons_of_neg (by simpa using hne)]
      exact ih (List.nodup_cons.1 h).2 hx

end Keyed

/-! ## What a call does to the windows -/

section

variable {s : State} {now : Instant} {c : Call} {x : String × Window}

/-- Calls of others are nothing to the step-up. -/
theorem stepUp_step (h : c.component ≠ .stepUp) : (s.step now c).stepUp = s.stepUp := by
  cases c with
  | openSetupWindow owned token =>
    simp only [State.step, State.openSetupWindow, State.showCode]
    repeat' split
    all_goals rfl
  | closeSetupWindow => rfl
  | checkSetupToken token =>
    simp only [State.step, State.checkSetupToken, State.closeSetupWindow]
    repeat' split
    all_goals rfl
  | requestPress owned id =>
    simp only [State.step, State.requestPress]
    repeat' split
    all_goals rfl
  | pairingButton =>
    simp only [State.step, State.pairingButton]
    repeat' split
    all_goals rfl
  | fingerprintOver =>
    simp only [State.step, State.fingerprintOver, State.showCode]
    repeat' split
    all_goals rfl
  | paint => rfl
  | _ => exact absurd rfl h

theorem mem_refreshBanner (h : x ∈ (s.refreshBanner now).stepUp.windows) :
    x ∈ s.stepUp.windows := by
  unfold State.refreshBanner at h
  split at h
  · exact (List.mem_filter.1 h).1
  · exact h

theorem keyed_refreshBanner (h : Keyed s.stepUp.windows) :
    Keyed (s.refreshBanner now).stepUp.windows := by
  unfold State.refreshBanner
  split
  · exact h.filter _
  · exact h

theorem pending_refreshBanner : (s.refreshBanner now).stepUp.pending = s.stepUp.pending := by
  unfold State.refreshBanner
  split <;> rfl

theorem mem_openWindow {device : String} (h : x ∈ (s.openWindow now device).stepUp.windows) :
    x = (device, ⟨now, now⟩) ∨ (x ∈ s.stepUp.windows ∧ x.1 ≠ device) :=
  mem_insert (mem_refreshBanner h)

theorem keyed_openWindow {device : String} (h : Keyed s.stepUp.windows) :
    Keyed (s.openWindow now device).stepUp.windows :=
  keyed_refreshBanner (keyed_insert h)

/-- What becomes of a code that is typed. -/
inductive Confirmation (s : State) (now : Instant) (device given : String) : Prop
  | none : (s.stepUp.live now).find? (·.1 = device) = .none →
      s.confirm now device given = (.error .noPending, s.withPending (s.stepUp.live now)) →
      Confirmation s now device given
  | right (p : String × Pending) : (s.stepUp.live now).find? (·.1 = device) = some p →
      p.2.code = digits given → s.confirm now device given =
        (.ok WINDOW,
          (s.withPending ((s.stepUp.live now).filter (·.1 ≠ device))).openWindow now device) →
      Confirmation s now device given
  | last (p : String × Pending) : (s.stepUp.live now).find? (·.1 = device) = some p →
      p.2.code ≠ digits given → s.confirm now device given =
        (.error .tooManyWrong, s.withPending ((s.stepUp.live now).filter (·.1 ≠ device))) →
      Confirmation s now device given
  | wrong (p : String × Pending) : (s.stepUp.live now).find? (·.1 = device) = some p →
      p.2.code ≠ digits given → p.2.wrong + 1 < MAX_WRONG → s.confirm now device given =
        (.error (.wrongCode (MAX_WRONG - (p.2.wrong + 1))), s.withPending
          (insert device { p.2 with wrong := p.2.wrong + 1 } (s.stepUp.live now))) →
      Confirmation s now device given

theorem confirmation (s : State) (now : Instant) (device given : String) :
    Confirmation s now device given := by
  cases hfind : (s.stepUp.live now).find? (·.1 = device) with
  | none =>
    refine .none hfind ?_
    simp only [State.confirm, hfind]
    rfl
  | some p =>
    by_cases hcode : p.2.code = digits given
    · refine .right p hfind hcode ?_
      simp only [State.confirm, hfind]
      exact if_pos hcode
    · by_cases hlast : MAX_WRONG ≤ p.2.wrong + 1
      · refine .last p hfind hcode ?_
        simp only [State.confirm, hfind]
        exact (if_neg hcode).trans (if_pos hlast)
      · refine .wrong p hfind hcode (Nat.lt_of_not_le hlast) ?_
        simp only [State.confirm, hfind]
        exact (if_neg hcode).trans (if_neg hlast)

/-- A press with nothing to confirm, and one that confirms the newest step-up. -/
theorem stepUpButton_none {first : String} (h : State.newest first (s.stepUp.live now) = none) :
    s.stepUpButton now first = (false, s.withPending (s.stepUp.live now)) := by
  simp only [State.stepUpButton, h]
  rfl

theorem stepUpButton_some {first device : String}
    (h : State.newest first (s.stepUp.live now) = some device) :
    s.stepUpButton now first = (true,
      (s.withPending ((s.stepUp.live now).filter (·.1 ≠ device))).openWindow now device) := by
  simp only [State.stepUpButton, h]
  rfl

theorem windows_withPending (s : State) (pending : List (String × Pending)) :
    (s.withPending pending).stepUp.windows = s.stepUp.windows := rfl

/-- Where the windows come from: a browser that has confirmed a step-up has a new one, and the
others are those there were, or one of them that was extended. -/
inductive From (s : State) (now : Instant) (c : Call) (x : String × Window) : Prop
  | opened : s.confirmedBy now c = some x.1 → x.2 = ⟨now, now⟩ → From s now c x
  | kept : s.confirmedBy now c ≠ some x.1 → x ∈ s.stepUp.windows → From s now c x
  | extended (w : Window) : s.confirmedBy now c = none → c = .extend x.1 →
      (x.1, w) ∈ s.stepUp.windows → x.2 = { w with lastUsed := now } → From s now c x

/-- One that is opened for a browser takes the place of the one it had. -/
theorem From.of_openWindow {r : State} {device : String} (hc : s.confirmedBy now c = some device)
    (hr : r.stepUp.windows = s.stepUp.windows)
    (hx : x ∈ (r.openWindow now device).stepUp.windows) : From s now c x := by
  rcases mem_openWindow hx with rfl | ⟨hx, hne⟩
  · exact .opened hc rfl
  · rw [hr] at hx
    exact .kept (fun h => hne (Option.some.inj (h.symm.trans hc))) hx

theorem from_step (hx : x ∈ (s.step now c).stepUp.windows) : From s now c x := by
  by_cases hcomponent : c.component = .stepUp
  · cases c with
    | start device code =>
      refine .kept (fun h => by cases h) ?_
      simp only [State.step, State.start] at hx
      split at hx <;> exact hx
    | confirm device given =>
      cases confirmation s now device given with
      | none _ h | last _ _ _ h | wrong _ _ _ _ h =>
        simp only [State.step, h] at hx
        refine .kept (fun hc => ?_) hx
        simp only [State.confirmedBy, h] at hc
        cases hc
      | right p _ _ h =>
        simp only [State.step, h] at hx
        refine .of_openWindow ?_ (windows_withPending s _) hx
        simp only [State.confirmedBy, h]
        rfl
    | stepUpButton first =>
      cases hnewest : State.newest first (s.stepUp.live now) with
      | none =>
        rw [State.step, stepUpButton_none hnewest] at hx
        exact .kept (fun hc => by cases hnewest.symm.trans hc) hx
      | some device =>
        rw [State.step, stepUpButton_some hnewest] at hx
        exact .of_openWindow hnewest (windows_withPending s _) hx
    | active device =>
      refine .kept (fun h => by cases h) ?_
      simp only [State.step, State.active] at hx
      split at hx
      · exact hx
      · split at hx
        · exact hx
        · exact (List.mem_filter.1 (mem_refreshBanner hx)).1
    | extend device =>
      obtain ⟨w, hw, rfl⟩ := List.mem_map.1 (mem_refreshBanner hx)
      by_cases hdevice : w.1 = device
      · refine .extended w.2 rfl ?_ ?_ ?_ <;> simp only [if_pos hdevice]
        · rw [hdevice]
        · exact hw
      · simp only [if_neg hdevice]
        exact .kept (fun h => by cases h) hw
    | endStepUp device =>
      exact .kept (fun h => by cases h) (List.mem_filter.1 (mem_refreshBanner hx)).1
    | _ => cases hcomponent
  · rw [stepUp_step hcomponent] at hx
    refine .kept (fun h => ?_) hx
    cases c <;> first | cases h | exact hcomponent rfl

/-- A browser has one window at most. -/
theorem keyed_step (h : Keyed s.stepUp.windows) : Keyed (s.step now c).stepUp.windows := by
  by_cases hcomponent : c.component = .stepUp
  · cases c with
    | start device code =>
      simp only [State.step, State.start]
      split <;> exact h
    | confirm device given =>
      cases confirmation s now device given with
      | none _ hc | last _ _ _ hc | wrong _ _ _ _ hc =>
        rw [State.step, hc]
        exact h
      | right p _ _ hc =>
        rw [State.step, hc]
        exact keyed_openWindow h
    | stepUpButton first =>
      cases hnewest : State.newest first (s.stepUp.live now) with
      | none =>
        rw [State.step, stepUpButton_none hnewest]
        exact h
      | some device =>
        rw [State.step, stepUpButton_some hnewest]
        exact keyed_openWindow h
    | active device =>
      simp only [State.step, State.active]
      split
      · exact h
      · split
        · exact h
        · exact keyed_refreshBanner (h.filter _)
    | extend device =>
      refine keyed_refreshBanner ?_
      have hkeys : (s.stepUp.windows.map fun w =>
          if w.1 = device then (w.1, { w.2 with lastUsed := now }) else w).map (·.1) =
            s.stepUp.windows.map (·.1) := by
        rw [List.map_map]
        refine List.map_congr_left fun w _ => ?_
        simp only [Function.comp_apply]
        split <;> rfl
      exact (congrArg List.Nodup hkeys).mpr h
    | endStepUp device => exact keyed_refreshBanner (h.filter _)
    | _ => cases hcomponent
  · rwa [stepUp_step hcomponent]

/-- Where the codes that wait come from. -/
inductive Waits (s : State) (now : Instant) (c : Call) (x : String × Pending) : Prop
  | kept : x ∈ s.stepUp.pending → (∀ code, c ≠ .start x.1 (some code)) →
      (∀ given, c ≠ .confirm x.1 given) → Waits s now c x
  | started (code : String) : c = .start x.1 (some code) → x.2 = ⟨code, now, 0⟩ → Waits s now c x
  | tried (given : String) (p : Pending) : c = .confirm x.1 given → (x.1, p) ∈ s.stepUp.pending →
      p.wrong + 1 < MAX_WRONG → x.2 = { p with wrong := p.wrong + 1 } → Waits s now c x

theorem mem_live {x : String × Pending} (h : x ∈ s.stepUp.live now) :
    x ∈ s.stepUp.pending ∧ now - x.2.started < CODE_TTL :=
  ⟨(List.mem_filter.1 h).1, of_decide_eq_true (List.mem_filter.1 h).2⟩

/-- What is left after a code was found wrong, or right, is of others. -/
theorem Waits.of_ne {device given : String} {x : String × Pending} (hx : x ∈ s.stepUp.pending)
    (hne : x.1 ≠ device) : Waits s now (.confirm device given) x :=
  .kept hx (fun _ h => by cases h) fun _ h => by cases h; exact hne rfl

theorem waits_step {x : String × Pending} (hx : x ∈ (s.step now c).stepUp.pending) :
    Waits s now c x := by
  by_cases hcomponent : c.component = .stepUp
  · cases c with
    | start device code =>
      simp only [State.step, State.start] at hx
      split at hx
      · exact .kept hx (fun _ h => by cases h) fun _ h => by cases h
      · rcases mem_insert hx with rfl | ⟨hx, hne⟩
        · exact .started _ rfl rfl
        · exact .kept (mem_live hx).1 (fun _ h => by cases h; exact hne rfl) fun _ h => by cases h
    | confirm device given =>
      cases confirmation s now device given with
      | none hfind h =>
        rw [State.step, h] at hx
        refine .of_ne (mem_live hx).1 fun hkey => ?_
        exact absurd (List.find?_eq_none.1 hfind x hx) (by simpa using hkey)
      | right p hfind hcode h =>
        rw [State.step, h, State.openWindow, pending_refreshBanner] at hx
        have hmem := List.mem_filter.1 hx
        exact .of_ne (mem_live hmem.1).1 (by simpa using hmem.2)
      | last p hfind hcode h =>
        rw [State.step, h] at hx
        have hmem := List.mem_filter.1 hx
        exact .of_ne (mem_live hmem.1).1 (by simpa using hmem.2)
      | wrong p hfind hcode hwrong h =>
        rw [State.step, h] at hx
        rcases mem_insert hx with rfl | ⟨hx, hne⟩
        · have hkey : p.1 = device := by simpa using List.find?_some hfind
          have hmem := (mem_live (List.mem_of_find?_eq_some hfind)).1
          exact .tried given p.2 rfl (by rw [← hkey]; exact hmem) hwrong rfl
        · exact .of_ne (mem_live hx).1 hne
    | stepUpButton first =>
      refine .kept ?_ (fun _ h => by cases h) fun _ h => by cases h
      cases hnewest : State.newest first (s.stepUp.live now) with
      | none =>
        rw [State.step, stepUpButton_none hnewest] at hx
        exact (mem_live hx).1
      | some device =>
        rw [State.step, stepUpButton_some hnewest, State.openWindow, pending_refreshBanner] at hx
        exact (mem_live (List.mem_filter.1 hx).1).1
    | active device =>
      refine .kept ?_ (fun _ h => by cases h) fun _ h => by cases h
      simp only [State.step, State.active] at hx
      split at hx
      · exact hx
      · split at hx
        · exact hx
        · rw [pending_refreshBanner] at hx
          exact hx
    | extend device =>
      rw [State.step, State.extend, pending_refreshBanner] at hx
      exact .kept hx (fun _ h => by cases h) fun _ h => by cases h
    | endStepUp device =>
      rw [State.step, State.endStepUp, pending_refreshBanner] at hx
      exact .kept hx (fun _ h => by cases h) fun _ h => by cases h
    | _ => cases hcomponent
  · rw [stepUp_step hcomponent] at hx
    refine .kept hx (fun _ h => ?_) fun _ h => ?_ <;> rw [h] at hcomponent <;>
      exact hcomponent rfl

/-- The newest one waits, and the others that wait are not newer. -/
theorem exists_of_newest {first device : String} {live : List (String × Pending)}
    (h : State.newest first live = some device) :
    ∃ p ∈ live, p.1 = device ∧ ∀ q ∈ live, q.2.started ≤ p.2.started := by
  have hmem : device ∈ (live.filter fun p => live.all fun q => q.2.started ≤ p.2.started).map
      (·.1) := by
    unfold State.newest at h
    dsimp only at h
    split at h
    · next hfirst =>
      cases h
      exact hfirst
    · exact List.mem_of_mem_head? h
  obtain ⟨p, hp, hkey⟩ := List.mem_map.1 hmem
  refine ⟨p, (List.mem_filter.1 hp).1, hkey, fun q hq => ?_⟩
  exact of_decide_eq_true (List.all_eq_true.1 (List.mem_filter.1 hp).2 q hq)

end

/-! ## Runs -/

namespace StepUpRun

variable {r r' : StepUpRun} {e : Nat × Call} {device : String}

/-- What the codes and the windows have to do with the calls so far. -/
structure Inv (r : StepUpRun) : Prop where
  keyed : Keyed r.state.stepUp.windows
  opened : ∀ x ∈ r.state.stepUp.windows, r.confirmed x.1 = some x.2.opened
  waits : ∀ x ∈ r.state.stepUp.pending,
    lastStart x.1 r.log = some (x.2.started, x.2.code, x.2.wrong) ∧ x.2.wrong < MAX_WRONG

theorem Inv.of_starts (h : r.Starts) : r.Inv where
  keyed := by rw [h.windows]; exact List.nodup_nil
  opened := by rw [h.windows]; exact List.forall_mem_nil _
  waits := by rw [h.pending]; exact List.forall_mem_nil _

/-- A call that neither starts a step-up of a browser nor tries a code is nothing to what it has
started last. -/
theorem lastStart_cons {now : Instant} {c : Call} {log : List (Instant × Call)}
    (hstart : ∀ code, c ≠ .start device (some code))
    (hconfirm : ∀ given, c ≠ .confirm device given) :
    lastStart device ((now, c) :: log) = lastStart device log := by
  cases c with
  | start d code =>
    cases code with
    | none => rfl
    | some code => exact if_neg fun h => hstart code (by rw [h])
  | confirm d given => exact if_neg fun h => hconfirm given (by rw [h])
  | _ => rfl

theorem Inv.step (hi : r.Inv) (h : r.step e = some r') : r'.Inv := by
  cases h
  refine ⟨keyed_step hi.keyed, fun x hx => ?_, fun x hx => ?_⟩
  · cases from_step hx with
    | opened hc hnew =>
      simp only [hc, hnew, Function.update_self]
    | kept hc hold =>
      cases hconf : r.state.confirmedBy (r.now + e.1) e.2 with
      | none =>
        exact hi.opened x hold
      | some d =>
        rw [hconf, Ne, Option.some.injEq] at hc
        simp only [Function.update_of_ne (Ne.symm hc)]
        exact hi.opened x hold
    | extended w hc _ hw hnew =>
      simp only [hc, hnew]
      exact hi.opened _ hw
  · cases waits_step hx with
    | kept hold hstart hconfirm =>
      rw [lastStart_cons hstart hconfirm]
      exact hi.waits x hold
    | started code hc hnew =>
      dsimp only
      rw [hc, lastStart, if_pos rfl, hnew]
      exact ⟨rfl, show 0 < MAX_WRONG by decide⟩
    | tried given p hc hp hwrong hnew =>
      have hlast := (hi.waits _ hp).1
      dsimp only at hlast ⊢
      rw [hc, lastStart, if_pos rfl, hlast, hnew]
      exact ⟨rfl, hwrong⟩

/-- Whoever confirms a step-up does so freshly. -/
theorem Inv.fresh (hi : r.Inv) (h : r.state.confirmedBy (r.now + e.1) e.2 = some device) :
    r.Fresh e device := by
  obtain ⟨d, c⟩ := e
  cases c with
  | confirm device' given =>
    cases confirmation r.state (r.now + d) device' given with
    | none _ hc | last _ _ _ hc | wrong _ _ _ _ hc =>
      simp only [State.confirmedBy, hc] at h
      cases h
    | right p hfind hcode hc =>
      simp only [State.confirmedBy, hc] at h
      obtain ⟨-, rfl⟩ : (Except.ok WINDOW : Except StepUpError Nat).toOption.isSome ∧
          device' = device := by simpa using h
      have hkey : p.1 = device' := by simpa using List.find?_some hfind
      obtain ⟨hmem, hlive⟩ := mem_live (List.mem_of_find?_eq_some hfind)
      obtain ⟨hlast, hwrong⟩ := hi.waits p hmem
      rw [hkey] at hlast
      exact ⟨_, _, _, hlast, hlive, .inl ⟨given, rfl, hcode.symm, hwrong⟩⟩
  | stepUpButton first =>
    obtain ⟨p, hp, hkey, hmax⟩ := exists_of_newest h
    obtain ⟨hmem, hlive⟩ := mem_live hp
    have hlast := (hi.waits p hmem).1
    rw [hkey] at hlast
    exact ⟨_, _, _, hlast, hlive, .inr ⟨⟨first, rfl⟩, hmax⟩⟩
  | _ => cases h

/-- A browser is told that it has a window if it has one that is not over. -/
theorem Inv.reported_iff (hi : r.Inv) : r.Reported device ↔
    ∃ x ∈ r.state.stepUp.windows, x.1 = device ∧ r.now < x.2.expiresAt := by
  unfold Reported State.active
  cases hfind : r.state.stepUp.windows.find? (·.1 = device) with
  | none =>
    refine iff_of_false (fun h => by cases h) ?_
    rintro ⟨x, hx, hkey, -⟩
    exact absurd (List.find?_eq_none.1 hfind x hx) (by simpa using hkey)
  | some x =>
    have hkey : x.1 = device := by simpa using List.find?_some hfind
    have hmem := List.mem_of_find?_eq_some hfind
    dsimp only
    split
    · next hnow => exact iff_of_true rfl ⟨x, hmem, hkey, hnow⟩
    · next hnow =>
      refine iff_of_false (fun h => by cases h) ?_
      rintro ⟨y, hy, rfl, hlt⟩
      rw [find?_eq_some_of_keyed hi.keyed hy, Option.some.injEq] at hfind
      rw [← hfind] at hnow
      exact hnow hlt

/-- A browser without a window does not get one by a call that is no confirmation of its own and
extends no window that is over. -/
theorem Inv.not_reported_step (hi : r.Inv) (hnot : ¬ r.Reported device) (hok : r.Timely e)
    (hfresh : ¬ r.Fresh e device) (h : r.step e = some r') : ¬ r'.Reported device := by
  rw [(hi.step h).reported_iff]
  rw [hi.reported_iff] at hnot
  cases h
  rintro ⟨x, hx, rfl, hlt⟩
  have hlater : ∀ {y : Window}, r.now + e.1 < y.expiresAt → r.now < y.expiresAt :=
    fun hy => Nat.lt_of_le_of_lt (Nat.le_add_right _ _) hy
  cases from_step hx with
  | opened hc _ => exact hfresh (hi.fresh hc)
  | kept _ hold => exact hnot ⟨x, hold, rfl, hlater hlt⟩
  | extended w _ hc hw _ =>
    have hfind := find?_eq_some_of_keyed hi.keyed hw
    refine hnot ⟨_, hw, rfl, hlater (not_not.1 fun hover => ?_)⟩
    exact hok x.1 hc ⟨(x.1, w), hfind, hover⟩

/-- **A window that has lapsed stays so** until its browser has confirmed a step-up anew, in the
runs in which no window is extended that is over; and no window is there half an hour after that. -/
theorem lapsed_stays (r : StepUpRun) (hr : Reach Starts step Timely r) (device : String) :
    (r.Reported device → ∃ opened, r.confirmed device = some opened ∧ r.now < opened + HARD_CAP) ∧
      (¬ r.Reported device → ∀ r',
        Reach (· = r) step (fun r e => r.Timely e ∧ ¬ r.Fresh e device) r' →
          ¬ r'.Reported device) := by
  have hi : r.Inv := hr.invariant (fun _ => Inv.of_starts) fun _ _ _ hi _ h => hi.step h
  constructor
  · rw [hi.reported_iff]
    rintro ⟨x, hx, rfl, hlt⟩
    exact ⟨_, hi.opened x hx, Nat.lt_of_lt_of_le hlt (Nat.min_le_right _ _)⟩
  · intro hnot r' h
    have hboth : r'.Inv ∧ ¬ r'.Reported device := by
      induction h with
      | init h =>
        cases h
        exact ⟨hi, hnot⟩
      | step _ hok hs ih => exact ⟨ih.1.step hs, ih.1.not_reported_step ih.2 hok.1 hok.2 hs⟩
    exact hboth.2

/-! ## A window that is extended -/

/-- A browser confirms a step-up, and five minutes go by. -/
def idleMinutes : List (Nat × Call) :=
  [(0, .start "9f86d081" (some "1234")), (seconds 5, .confirm "9f86d081" "1234"),
    (seconds (5 * 60), .paint)]

theorem starts_empty : Starts {} := ⟨rfl, rfl, rfl⟩

instance (r : StepUpRun) (device : String) : Decidable (r.Reported device) :=
  inferInstanceAs (Decidable (_ = true))

/-- The window is over then, and stays so. -/
theorem lapsed_stays_idle : ∃ r : StepUpRun, r.confirmed "9f86d081" = some (seconds 5) ∧
    ∀ r', Reach (· = r) step (fun r e => r.Timely e ∧ ¬ r.Fresh e "9f86d081") r' →
      ¬ r'.Reported "9f86d081" := by
  have hrun : (idleMinutes.foldlM (fun r e => if (e.2 matches .extend _) = false then step r e
      else none) {}).map (fun r => (r.confirmed "9f86d081", decide (r.Reported "9f86d081"))) =
        some (some (seconds 5), false) := by decide +kernel
  obtain ⟨r, hr, hend⟩ := Option.map_eq_some_iff.1 hrun
  simp only [Prod.mk.injEq, decide_eq_false_iff_not] at hend
  have hquiet : Reach Starts step (fun _ e => (e.2 matches .extend _) = false) r :=
    .of_foldlM_guarded (.init starts_empty) hr
  have htimely : Reach Starts step Timely r :=
    hquiet.strengthen fun _ e _ hq _ he => by rw [he] at hq; cases hq
  exact ⟨r, hend.1, (lapsed_stays r htimely _).2 hend.2⟩

/-- A command that comes then extends it, and the browser has its window again. -/
theorem lapsed_extended : ¬ ∀ (r : StepUpRun) (device : String),
    Reach Starts step (fun _ _ => True) r → ¬ r.Reported device →
      ∀ r', Reach (· = r) step (fun r e => ¬ r.Fresh e device) r' → ¬ r'.Reported device := by
  intro h
  have hrun : (idleMinutes.foldlM step {}).map (fun r => (decide (r.Reported "9f86d081"),
      (r.step (0, .extend "9f86d081")).map fun r => decide (r.Reported "9f86d081"))) =
        some (false, some true) := by decide +kernel
  obtain ⟨r, hr, hend⟩ := Option.map_eq_some_iff.1 hrun
  simp only [Prod.mk.injEq, decide_eq_false_iff_not, Option.map_eq_some_iff] at hend
  obtain ⟨hnot, r', hs, hreported⟩ := hend
  refine h r "9f86d081" (.of_foldlM (.init starts_empty) hr) hnot r'
    (.step (.init rfl) ?_ hs) (of_decide_eq_true hreported)
  rintro ⟨_, _, _, _, _, ⟨_, hc, -⟩ | ⟨⟨_, hc⟩, -⟩⟩ <;> cases hc

end StepUpRun

end Rayhunter.Screen
