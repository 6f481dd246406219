import Rayhunter.Auth.Guessing

/-!
# First contact is won once

Any number of browsers may try to become the owner of a unit at the same time: with the token on its
screen, with a press of its button, or with an account from before. Whether the unit has an owner is
read under the lock on `AuthState`, in the same step as the change is made, and nothing takes an
owner away. `won_once` follows the changes of any run (`commits`).
-/

namespace Rayhunter.Auth

open Runs

/-! ## What a change does -/

/-- The change of a first contact. -/
def Write.isSetup : Write → Bool
  | .finishSetup _ _ _ => true
  | _ => false

/-- A change that ends the setup. -/
def Write.ends : Write → Bool
  | .finishSetup _ _ _ | .pairWithPassphrase _ _ | .pairWithAccount _ _ _ => true
  | _ => false

namespace Commit

/-- The unit has an owner from then on. -/
def completes (c : Commit) : Bool := !c.before.setupComplete && c.after.setupComplete

/-- The setup gives the owner a passphrase: that of a first contact, or that of an account where
there was none. -/
def installs (c : Commit) : Bool :=
  match c.write with
  | .finishSetup _ _ _ => true
  | .pairWithAccount _ _ _ =>
    c.before.ownerPassphraseHash.isNone && c.after.ownerPassphraseHash.isSome
  | _ => false

/-- A first contact gives a unit without an owner and without devices the passphrase that was chosen
and one device. -/
def FirstContact (c : Commit) : Prop :=
  c.before.setupComplete = false ∧ c.before.devices = [] ∧
    ∃ hash deviceName userAgent d, c.write = .finishSetup hash deviceName userAgent ∧
      c.after = { setupComplete := true, ownerPassphraseHash := some hash, devices := [d] }

end Commit

/-- The changes lead from one state to another. -/
def Linked (first : AuthState) : List Commit → AuthState → Prop
  | [], s => s = first
  | c :: cs, s => c.after = s ∧ Linked first cs c.before

variable {w : Write} {drawn : Drawn} {s s' : AuthState} {issued : Option IssuedDevice}

/-- A result that is passed on was there. -/
theorem exists_of_map_eq_ok {ε α β : Type} {x : Except ε α} {f : α → β} {b : β}
    (h : x.map f = .ok b) : ∃ a, x = .ok a ∧ f a = b := by
  cases x with
  | error e => cases h
  | ok a => exact ⟨a, rfl, Except.ok.inj h⟩

/-- What a change does, by the kinds there are. -/
inductive Changed (w : Write) (s s' : AuthState) : Prop
  | setup (c : Commit.FirstContact ⟨w, s, s'⟩)
  | pairs (d : TrustedDevice) : w.isSetup = false → s.devices.length < MAX_DEVICES →
      s'.devices = s.devices ++ [d] →
      s'.setupComplete = (w.ends || s.setupComplete) →
      (s'.ownerPassphraseHash = s.ownerPassphraseHash ∨ s.ownerPassphraseHash = none) →
      Changed w s s'
  | keeps : w.ends = false → s'.devices.length ≤ s.devices.length →
      s'.setupComplete = s.setupComplete →
      (s.ownerPassphraseHash.isSome → s'.ownerPassphraseHash.isSome) → Changed w s s'

theorem Write.changed (h : w.change drawn s = .ok (s', issued)) : Changed w s s' := by
  cases w with
  | finishSetup hash deviceName userAgent =>
    obtain ⟨⟨s₁, i⟩, h, heq⟩ := exists_of_map_eq_ok h
    simp only [AuthState.finishSetup] at h
    split at h
    · cases h
    · next hfresh =>
      obtain ⟨⟨s₂, i₂⟩, hadd, heq₂⟩ := exists_of_map_eq_ok h
      obtain ⟨-, d, rfl⟩ := AuthState.addDevice_eq_ok hadd
      cases heq₂
      cases heq
      simp only [Bool.or_eq_true, Bool.not_eq_true', List.isEmpty_eq_false_iff, not_or,
        Bool.not_eq_true, not_not] at hfresh
      exact .setup ⟨hfresh.1, hfresh.2, hash, deviceName, userAgent, d, rfl, by
        rw [hfresh.2]
        rfl⟩
  | changePassphrase hash =>
    cases h
    exact .keeps rfl (Nat.le_refl _) rfl fun _ => rfl
  | pairWithCode deviceName userAgent =>
    obtain ⟨⟨s₁, i⟩, hadd, heq⟩ := exists_of_map_eq_ok h
    obtain ⟨⟨hroom, -⟩, d, rfl⟩ := AuthState.addDevice_eq_ok hadd
    cases heq
    exact .pairs d rfl hroom rfl rfl (.inl rfl)
  | pairWithPassphrase deviceName userAgent =>
    obtain ⟨⟨s₁, i⟩, h, heq⟩ := exists_of_map_eq_ok h
    obtain ⟨⟨s₂, i₂⟩, hadd, heq₂⟩ := exists_of_map_eq_ok h
    obtain ⟨⟨hroom, -⟩, d, rfl⟩ := AuthState.addDevice_eq_ok hadd
    cases heq₂
    cases heq
    exact .pairs d rfl hroom rfl rfl (.inl rfl)
  | pairWithAccount hash deviceName userAgent =>
    obtain ⟨⟨s₁, i⟩, h, heq⟩ := exists_of_map_eq_ok h
    obtain ⟨⟨s₂, i₂⟩, hadd, heq₂⟩ := exists_of_map_eq_ok h
    obtain ⟨⟨hroom, -⟩, d, rfl⟩ := AuthState.addDevice_eq_ok hadd
    cases heq₂
    cases heq
    refine .pairs d rfl hroom rfl rfl ?_
    cases s.ownerPassphraseHash with
    | none => exact .inr rfl
    | some old => exact .inl rfl
  | renameDevice id name =>
    obtain ⟨s₁, h, heq⟩ := exists_of_map_eq_ok h
    simp only [AuthState.renameDevice, AuthState.mapDevice] at h
    split at h
    · cases h
    · next hmap =>
      obtain ⟨i, -, rfl⟩ := Option.map_eq_some_iff.1 hmap
      cases h
      cases heq
      exact .keeps rfl (Nat.le_of_eq (List.length_modify ..)) rfl fun h => h
  | revokeDevice id =>
    obtain ⟨s₁, h, heq⟩ := exists_of_map_eq_ok h
    simp only [AuthState.revokeDevice] at h
    split at h
    · cases h
    · cases h
      cases heq
      exact .keeps rfl (List.length_filter_le ..) rfl fun h => h
  | touch id =>
    cases h
    unfold AuthState.touch AuthState.mapDevice
    cases s.devices.findIdx? (·.id = id) with
    | none => exact .keeps rfl (Nat.le_refl _) rfl fun h => h
    | some i => exact .keeps rfl (Nat.le_of_eq (List.length_modify ..)) rfl fun h => h

/-! ## What a step does -/

/-- What a call is saving. -/
def Phase.saves : Phase → Option (Write × Bool)
  | .saving w byPress _ => some (w, byPress)
  | _ => none

namespace PairingState

variable {u u' v : PairingState} {e : Event} {i : Nat} {p : Phase}

/-- What may happen to the screen, and how late it is then, while nobody opens a window or asks for
a press. -/
inductive Shows (u : PairingState) : Screen.State → Instant → Prop
  | same (d : Nat) : Shows u u.screen (u.now + d)
  | ended : Shows u (u.screen.fingerprintOver u.now) u.now
  | button : Shows u (u.screen.pairingButton u.now) u.now
  | token (token : String) : Shows u (u.screen.checkSetupToken u.now token).2 u.now

/-- Nobody is trusted, or saved, by a step. -/
structure Still (u u' : PairingState) : Prop where
  auth : u'.auth = u.auth
  commits : u'.commits = u.commits
  writer : u'.writer = u.writer
  saves : ∀ j, (u'.phase j).saves = (u.phase j).saves

/-- The steps, by what they do to `AuthState` and to the screen. -/
inductive Moves (u : PairingState) : Event → PairingState → Prop
  | still {e : Event} {u' : PairingState} : Still u u' → Shows u u'.screen u'.now → Moves u e u'
  | opens (i : Nat) (drawn : Except String String) (u' : PairingState) : Still u u' →
      u.writer = none → u'.now = u.now →
      u'.screen = (u.screen.openSetupWindow u.now (!u.auth.devices.isEmpty) drawn.toOption).2 →
      Moves u (.countDevices i drawn) u'
  | asks (i : Nat) (drawn : Except String String) (u' : PairingState) : Still u u' →
      u.writer = none → u'.now = u.now →
      u'.screen = (u.screen.requestPress u.now (!u.auth.devices.isEmpty) drawn.toOption).2 →
      Moves u (.countDevices i drawn) u'
  | writes (i : Nat) (drawn : Drawn) (w : Write) (byPress : Bool) (auth : AuthState)
      (issued : Option IssuedDevice) : u.writer = none → u.phase i = .storing w byPress →
      w.change drawn u.auth = .ok (auth, issued) →
      Moves u (.write i drawn) { u.goTo i (.saving w byPress issued) with
        auth
        writer := some i
        commits := ⟨w, u.auth, auth⟩ :: u.commits }
  | saves (i : Nat) (io : Except String Unit) (w : Write) (byPress : Bool) (p : Phase)
      (u' : PairingState) : (u.phase i).saves = some (w, byPress) → u'.auth = u.auth →
      u'.commits = u.commits → u'.writer = release i u.writer →
      u'.phase = Function.update u.phase i p → p.saves = none → u'.now = u.now →
      u'.screen = (if io = .ok () then (u.afterSave w byPress).screen else u.screen) →
      Moves u (.saved i io) u'
  | leaves (i : Nat) (u' : PairingState) : u'.auth = u.auth → u'.commits = u.commits →
      u'.writer = release i u.writer → u'.phase = Function.update u.phase i .gone →
      u'.screen = u.screen → u'.now = u.now → Moves u (.leave i) u'

/-- A call that saves nothing, before or after, goes on. -/
theorem Still.update (hauth : u'.auth = u.auth) (hcommits : u'.commits = u.commits)
    (hwriter : u'.writer = u.writer) (hphase : u'.phase = Function.update u.phase i p)
    (hold : (u.phase i).saves = none) (hnew : p.saves = none) : Still u u' := by
  refine ⟨hauth, hcommits, hwriter, fun j => ?_⟩
  rw [hphase]
  rcases eq_or_ne j i with rfl | hne
  · rw [Function.update_self, hold, hnew]
  · rw [Function.update_of_ne hne]

theorem Moves.goes (hauth : u'.auth = u.auth) (hcommits : u'.commits = u.commits)
    (hwriter : u'.writer = u.writer) (hphase : u'.phase = Function.update u.phase i p)
    (hold : (u.phase i).saves = none) (hnew : p.saves = none) (hshows : Shows u u'.screen u'.now) :
    Moves u e u' :=
  .still (.update hauth hcommits hwriter hphase hold hnew) hshows

/-- A call that comes. -/
theorem Moves.call (h : v.call i p = some u') (hauth : v.auth = u.auth)
    (hcommits : v.commits = u.commits) (hwriter : v.writer = u.writer) (hphase : v.phase = u.phase)
    (hp : p.saves = none) (hshows : Shows u v.screen v.now) : Moves u e u' := by
  unfold PairingState.call at h
  split at h
  · next haway =>
    cases h
    rw [hphase] at haway
    exact .goes (i := i) hauth hcommits hwriter (by rw [← hphase]; rfl) (by rw [haway]; rfl) hp
      hshows
  · cases h

theorem checkCode_still (u : PairingState) (code : String) :
    (u.checkCode code).2.auth = u.auth ∧ (u.checkCode code).2.commits = u.commits ∧
      (u.checkCode code).2.writer = u.writer ∧ (u.checkCode code).2.phase = u.phase ∧
      Shows u (u.checkCode code).2.screen (u.checkCode code).2.now := by
  unfold checkCode
  dsimp only
  repeat' split
  all_goals exact ⟨rfl, rfl, rfl, rfl, .same 0⟩

theorem checkProof_still (u : PairingState) (p : Proof) :
    (u.checkProof p).2.auth = u.auth ∧ (u.checkProof p).2.commits = u.commits ∧
      (u.checkProof p).2.writer = u.writer ∧ (u.checkProof p).2.phase = u.phase ∧
      Shows u (u.checkProof p).2.screen (u.checkProof p).2.now := by
  cases p with
  | token token => exact ⟨rfl, rfl, rfl, rfl, .token token⟩
  | press id => exact ⟨rfl, rfl, rfl, rfl, .same 0⟩

theorem afterSave_still (u : PairingState) (w : Write) (byPress : Bool) :
    (u.afterSave w byPress).auth = u.auth ∧ (u.afterSave w byPress).commits = u.commits ∧
      (u.afterSave w byPress).writer = u.writer ∧ (u.afterSave w byPress).phase = u.phase ∧
      (u.afterSave w byPress).now = u.now := by
  cases w <;> exact ⟨rfl, rfl, rfl, rfl, rfl⟩

variable [Pbkdf2]

omit [Pbkdf2] in
theorem Moves.store {byPress : Bool} {w : String → Write} {hash : Option String}
    (hauth : v.auth = u.auth) (hcommits : v.commits = u.commits) (hwriter : v.writer = u.writer)
    (hphase : v.phase = u.phase) (hold : (u.phase i).saves = none)
    (hshows : Shows u v.screen v.now) : Moves u e (v.store i byPress w hash) := by
  unfold PairingState.store
  split
  · exact .goes hauth hcommits hwriter (by rw [← hphase]; rfl) hold rfl hshows
  · exact .goes hauth hcommits hwriter (by rw [← hphase]; rfl) hold rfl hshows

omit [Pbkdf2] in
theorem Moves.verified (purpose : Purpose) (hauth : v.auth = u.auth)
    (hcommits : v.commits = u.commits) (hwriter : v.writer = u.writer) (hphase : v.phase = u.phase)
    (hold : (u.phase i).saves = none) (hshows : Shows u v.screen v.now) :
    Moves u e (v.verified i purpose) := by
  cases purpose with
  | stepUp => exact .goes hauth hcommits hwriter (by rw [← hphase]; rfl) hold rfl hshows
  | change new =>
    unfold PairingState.verified
    dsimp only
    split <;> exact .goes hauth hcommits hwriter (by rw [← hphase]; rfl) hold rfl hshows
  | pair deviceName userAgent =>
    exact .goes hauth hcommits hwriter (by rw [← hphase]; rfl) hold rfl hshows

theorem step_moves (h : u.step e = some u') : Moves u e u' := by
  cases e with
  | tick d =>
    cases h
    exact .still ⟨rfl, rfl, rfl, fun _ => rfl⟩ (.same d)
  | fingerprintOver =>
    cases h
    exact .still ⟨rfl, rfl, rfl, fun _ => rfl⟩ .ended
  | mintCode code =>
    cases code <;> cases h <;> exact .still ⟨rfl, rfl, rfl, fun _ => rfl⟩ (.same 0)
  | openSetupWindow i | requestPress i | completeSetup i p request | revokeDevice i id
  | touch i id => exact .call h rfl rfl rfl rfl rfl (.same 0)
  | buttonPressed i =>
    refine .call h rfl rfl rfl rfl ?_ .button
    split <;> rfl
  | pairWithCode i code deviceName userAgent =>
    obtain ⟨hauth, hcommits, hwriter, hphase, hshows⟩ := checkCode_still u code
    simp only [step] at h
    split at h <;> rename_i hcode <;> rw [hcode] at hauth hcommits hwriter hphase hshows <;>
      exact .call h hauth hcommits hwriter hphase rfl hshows
  | verifyPassphrase i given purpose =>
    simp only [step] at h
    split at h <;> exact .call h rfl rfl rfl rfl rfl (.same 0)
  | pairWithAccount i users username password deviceName userAgent =>
    simp only [step] at h
    split at h <;> exact .call h rfl rfl rfl rfl rfl (.same 0)
  | renameDevice i id name =>
    simp only [step] at h
    split at h <;> exact .call h rfl rfl rfl rfl rfl (.same 0)
  | readComplete i =>
    simp only [step, readComplete] at h
    split at h
    · cases h
    · split at h <;> cases h <;> rename_i hphase <;> split <;>
        exact .goes rfl rfl rfl rfl (by rw [hphase]; rfl) rfl (.same 0)
  | countDevices i drawn =>
    simp only [step, countDevices] at h
    split at h
    · cases h
    · next hwriter =>
      rw [Bool.not_eq_true, Option.isSome_eq_false_iff, Option.isNone_iff_eq_none] at hwriter
      split at h <;> cases h <;> rename_i hphase
      · exact .opens i drawn _ (.update rfl rfl rfl rfl (by rw [hphase]; rfl) rfl) hwriter rfl rfl
      · exact .asks i drawn _ (.update rfl rfl rfl rfl (by rw [hphase]; rfl) rfl) hwriter rfl rfl
  | lockSetup i =>
    simp only [step, lockSetup] at h
    split at h <;> cases h
    next hphase => exact .goes rfl rfl rfl rfl (by rw [hphase]; rfl) rfl (.same 0)
  | prove i =>
    simp only [step, prove] at h
    split at h
    · cases h
    · split at h
      · next p request hold =>
        have hold' : (u.phase i).saves = none := by rw [hold]; rfl
        obtain ⟨hauth, hcommits, hwriter, hphase, hshows⟩ := checkProof_still u p
        split at h
        · cases h
          exact .goes rfl rfl rfl rfl hold' rfl (.same 0)
        · split at h <;> rename_i hproof <;>
            rw [hproof] at hauth hcommits hwriter hphase hshows
          · cases h
            exact .goes hauth hcommits hwriter (by rw [← hphase]; rfl) hold' rfl hshows
          · split at h <;> cases h <;>
              exact .goes hauth hcommits hwriter (by rw [← hphase]; rfl) hold' rfl hshows
      · cases h
  | readHash i =>
    simp only [step, readHash] at h
    split at h
    · cases h
    · split at h
      · next hphase =>
        have hold : (u.phase i).saves = none := by rw [hphase]; rfl
        split at h
        · cases h
          exact .goes rfl rfl rfl rfl hold rfl (.same 0)
        · split at h <;> cases h <;> exact .goes rfl rfl rfl rfl hold rfl (.same 0)
      · cases h
  | startKdf i =>
    simp only [step, startKdf] at h
    split at h <;> cases h
    next hphase => exact .goes rfl rfl rfl rfl (by rw [hphase]; rfl) rfl (.same 0)
  | finishKdf i hash =>
    simp only [step, finishKdf] at h
    split at h
    · next job hphase =>
      have hold : (u.phase i).saves = none := by rw [hphase]; rfl
      cases job with
      | setup byPress r =>
        cases h
        exact .store rfl rfl rfl rfl hold (.same 0)
      | newPassphrase new =>
        cases h
        exact .store rfl rfl rfl rfl hold (.same 0)
      | passphrase given hash' purpose started =>
        simp only at h
        split at h <;> cases h
        · exact .verified purpose rfl rfl rfl rfl hold (.same 0)
        · exact .goes rfl rfl rfl rfl hold rfl (.same 0)
      | account users username password deviceName userAgent started =>
        simp only at h
        split at h <;> cases h <;> exact .goes rfl rfl rfl rfl hold rfl (.same 0)
    · cases h
  | write i drawn =>
    simp only [step, write] at h
    split at h
    · next w byPress hwriter hphase =>
      split at h <;> cases h
      · exact .goes rfl rfl rfl rfl (by rw [hphase]; rfl) rfl (.same 0)
      · next hchange => exact .writes i drawn w byPress _ _ hwriter hphase hchange
    · cases h
  | saved i io =>
    simp only [step, saved] at h
    split at h
    · next w byPress issued hphase =>
      have hsaves : (u.phase i).saves = some (w, byPress) := by rw [hphase]; rfl
      split at h <;> cases h
      · obtain ⟨hauth, hcommits, hwriter, hph, hnow⟩ :=
          afterSave_still { u with writer := release i u.writer } w byPress
        refine .saves i _ w byPress _ _ hsaves hauth hcommits hwriter
          (congrArg (Function.update · i _) hph) rfl hnow ?_
        rw [if_pos rfl]
        cases w <;> rfl
      · exact .saves i _ _ byPress _ _ hsaves rfl rfl rfl rfl rfl rfl rfl
      · exact .saves i _ w byPress _ _ hsaves rfl rfl rfl rfl rfl rfl rfl
    · cases h
  | leave i =>
    simp only [step, leave] at h
    split at h <;> cases h
    exact .leaves i _ rfl rfl rfl rfl rfl rfl

end PairingState

/-! ## Runs -/

/-- What some changes come to that lead from one state to another. -/
structure WonOnce (first : AuthState) (cs : List Commit) (s : AuthState) : Prop where
  linked : Linked first cs s
  /-- The setup is complete from one of them on, and stays so. -/
  completes : (cs.filter Commit.completes).length ≤ 1
  stays : ∀ c ∈ cs, c.before.setupComplete = true → c.after.setupComplete = true
  /-- One of them installs the passphrase of the owner. -/
  installs : (cs.filter Commit.installs).length ≤ 1
  /-- One of them is a first contact, and that adds one device. -/
  setups : (cs.filter (·.write.isSetup)).length ≤ 1
  contact : ∀ c ∈ cs, c.write.isSetup = true → c.FirstContact
  devices : s.devices.length ≤ max MAX_DEVICES first.devices.length

/-- The same with what it takes to go on: what there is not yet, has not been made. -/
structure OwnerInv (first : AuthState) (cs : List Commit) (s : AuthState) : Prop extends
    WonOnce first cs s where
  owned : s.setupComplete = false → cs.filter Commit.completes = []
  known : s.setupComplete = false ∨ s.ownerPassphraseHash = none →
    cs.filter Commit.installs = []
  unset : s.setupComplete = false → cs.filter (·.write.isSetup) = []

theorem OwnerInv.nil (s : AuthState) : OwnerInv s [] s where
  linked := rfl
  completes := Nat.zero_le _
  stays := List.forall_mem_nil _
  installs := Nat.zero_le _
  setups := Nat.zero_le _
  contact := List.forall_mem_nil _
  devices := Nat.le_max_right _ _
  owned _ := rfl
  known _ := rfl
  unset _ := rfl

/-- Of a list with one element more, those of a kind are at most one if that one is not of the kind,
or there was none. -/
theorem filter_cons_le {α : Type} {p : α → Bool} {a : α} {l : List α}
    (hle : (l.filter p).length ≤ 1) (h : p a = true → l.filter p = []) :
    ((a :: l).filter p).length ≤ 1 := by
  cases ha : p a with
  | true => rw [List.filter_cons_of_pos ha, h ha]; rfl
  | false => rwa [List.filter_cons_of_neg (by rw [ha]; decide)]

theorem filter_cons_nil {α : Type} {p : α → Bool} {a : α} {l : List α} (ha : p a = false)
    (h : l.filter p = []) : (a :: l).filter p = [] := by
  rwa [List.filter_cons_of_neg (by rw [ha]; decide)]

/-- A passphrase is installed by a setup, where there was none, and there is one after it. -/
theorem installs_eq_true {c : Commit} (hsetup : c.write.isSetup = false)
    (h : c.installs = true) : c.write.ends = true ∧ c.before.ownerPassphraseHash = none ∧
      c.after.ownerPassphraseHash ≠ none := by
  obtain ⟨w, s, s'⟩ := c
  cases w with
  | finishSetup hash deviceName userAgent => cases hsetup
  | pairWithAccount hash deviceName userAgent =>
    simp only [Commit.installs, Bool.and_eq_true, Option.isNone_iff_eq_none] at h
    exact ⟨rfl, h.1, fun he => by rw [he] at h; cases h.2⟩
  | _ => cases h

theorem isSetup_of_ends (h : w.ends = false) : w.isSetup = false := by
  cases w <;> first | rfl | cases h

/-- One change more. -/
theorem OwnerInv.change {first : AuthState} {cs : List Commit} (hi : OwnerInv first cs s)
    (h : w.change drawn s = .ok (s', issued)) : OwnerInv first (⟨w, s, s'⟩ :: cs) s' := by
  cases Write.changed h with
  | setup hc =>
    have hcontact := hc
    obtain ⟨hnot, hnone, hash, deviceName, userAgent, d, rfl, rfl⟩ := hc
    exact
      { linked := ⟨rfl, hi.linked⟩
        completes := filter_cons_le hi.completes fun _ => hi.owned hnot
        stays := List.forall_mem_cons.2 ⟨fun _ => rfl, hi.stays⟩
        installs := filter_cons_le hi.installs fun _ => hi.known (.inl hnot)
        setups := filter_cons_le hi.setups fun _ => hi.unset hnot
        contact := List.forall_mem_cons.2 ⟨fun _ => hcontact, hi.contact⟩
        devices := by simp [MAX_DEVICES]
        owned := fun h => by cases h
        known := fun h => by simp at h
        unset := fun h => by cases h }
  | pairs d hsetup hroom hdevices hcomplete hhash =>
    refine ⟨⟨⟨rfl, hi.linked⟩, ?_, ?_, ?_, ?_, ?_, ?_⟩, ?_, ?_, ?_⟩
    · refine filter_cons_le hi.completes fun h => hi.owned ?_
      simpa using (Bool.and_eq_true_iff.1 h).1
    · refine List.forall_mem_cons.2 ⟨fun h => ?_, hi.stays⟩
      exact hcomplete.trans (by rw [show s.setupComplete = true from h, Bool.or_true])
    · exact filter_cons_le hi.installs fun h => hi.known (.inr (installs_eq_true hsetup h).2.1)
    · exact filter_cons_le hi.setups fun h => absurd (hsetup.symm.trans h) (by decide)
    · exact List.forall_mem_cons.2 ⟨fun h => absurd (hsetup.symm.trans h) (by decide), hi.contact⟩
    · rw [hdevices, List.length_append]
      exact (Nat.succ_le_of_lt hroom).trans (Nat.le_max_left _ _)
    · intro h
      rw [hcomplete, Bool.or_eq_false_iff] at h
      refine filter_cons_nil ?_ (hi.owned h.2)
      simp [Commit.completes, hcomplete, h]
    · intro h
      refine filter_cons_nil (Bool.eq_false_iff.2 fun hinst => ?_) (hi.known ?_)
      · obtain ⟨hends, -, hsome⟩ := installs_eq_true hsetup hinst
        rcases h with h | h
        · rw [hcomplete, show w.ends = true from hends] at h
          cases h
        · exact hsome h
      · rw [hcomplete, Bool.or_eq_false_iff] at h
        rcases h with h | h
        · exact .inl h.2
        · rcases hhash with hhash | hhash
          · exact .inr (hhash.symm.trans h)
          · exact .inr hhash
    · intro h
      rw [hcomplete, Bool.or_eq_false_iff] at h
      exact filter_cons_nil hsetup (hi.unset h.2)
  | keeps hends hdevices hcomplete hhash =>
    have hsetup := isSetup_of_ends hends
    have hcompletes : Commit.completes ⟨w, s, s'⟩ = false := by
      simp [Commit.completes, hcomplete]
    have hinstalls : Commit.installs ⟨w, s, s'⟩ = false :=
      Bool.eq_false_iff.2 fun h =>
        absurd (hends.symm.trans (installs_eq_true hsetup h).1) (by decide)
    refine ⟨⟨⟨rfl, hi.linked⟩, ?_, ?_, ?_, ?_, ?_, ?_⟩, ?_, ?_, ?_⟩
    · exact filter_cons_le hi.completes fun h => absurd (hcompletes.symm.trans h) (by decide)
    · exact List.forall_mem_cons.2 ⟨fun h => hcomplete.trans h, hi.stays⟩
    · exact filter_cons_le hi.installs fun h => absurd (hinstalls.symm.trans h) (by decide)
    · exact filter_cons_le hi.setups fun h => absurd (hsetup.symm.trans h) (by decide)
    · exact List.forall_mem_cons.2 ⟨fun h => absurd (hsetup.symm.trans h) (by decide), hi.contact⟩
    · exact hdevices.trans hi.devices
    · exact fun h => filter_cons_nil hcompletes (hi.owned (hcomplete.symm.trans h))
    · refine fun h => filter_cons_nil hinstalls (hi.known ?_)
      rcases h with h | h
      · exact .inl (hcomplete.symm.trans h)
      · refine .inr (Option.not_isSome_iff_eq_none.1 fun hsome => ?_)
        rw [h] at hhash
        exact absurd (hhash hsome) (by decide)
    · exact fun h => filter_cons_nil hsetup (hi.unset (hcomplete.symm.trans h))

namespace PairingState

variable [Pbkdf2] {u : PairingState}

/-- **First contact is won once**, however many browsers try it. -/
theorem won_once (first : AuthState) (u : PairingState)
    (h : Reach (fun u => u.Starts ∧ u.auth = first) step (fun _ _ => True) u) :
    WonOnce first u.commits u.auth := by
  have hi : OwnerInv first u.commits u.auth := by
    induction h with
    | init h =>
      obtain ⟨hs, rfl⟩ := h
      rw [hs.commits]
      exact .nil _
    | step _ _ hs ih =>
      cases step_moves hs with
      | still hstill _ | opens _ _ _ hstill | asks _ _ _ hstill =>
        rw [hstill.commits, hstill.auth]
        exact ih
      | writes i drawn w byPress auth issued _ _ hchange => exact ih.change hchange
      | saves _ _ _ _ _ _ _ hauth hcommits | leaves _ _ hauth hcommits =>
        rw [hcommits, hauth]
        exact ih
  exact hi.toWonOnce

omit [Pbkdf2]

/-- A unit from the box. -/
theorem starts_empty : Starts {} := ⟨rfl, rfl, rfl, rfl, fun _ => rfl, rfl, rfl⟩

/-- What a browser comes with. -/
def ownerRequest (userAgent : String) : SetupRequest := ⟨"correct horse", none, userAgent⟩

/-- What is drawn for the first device. -/
def firstDevice : Drawn := ⟨.ok ⟨"dG9rZW4", "9f86d081884c7d65", "9f86d081"⟩, "2024-08-19T03:33:54Z"⟩

/-- Two browsers with the token on the screen. -/
def racingBrowsers : List Event :=
  [.openSetupWindow 0, .readComplete 0, .countDevices 0 (.ok "7K3M9XWQ"),
    .completeSetup 1 (.token "7k3m 9xwq") (ownerRequest "iPhone Safari/"),
    .completeSetup 2 (.token "7K3M9XWQ") (ownerRequest "Windows Firefox/"), .lockSetup 1, .prove 1,
    .startKdf 1, .finishKdf 1 (some "hash"), .write 1 firstDevice, .saved 1 (.ok ()), .lockSetup 2,
    .prove 2]

/-- One of them wins. -/
theorem won_once_racing :
    let _ := allWrong
    ∃ u : PairingState, u.auth.devices.map (·.name) = ["iPhone (Safari)"] ∧
      WonOnce {} u.commits u.auth := by
  let _ := allWrong
  intro _
  have hname : (racingBrowsers.foldlM step {}).map (·.auth.devices.map (·.name)) =
      some ["iPhone (Safari)"] := by decide +kernel
  obtain ⟨u, hu, hn⟩ := Option.map_eq_some_iff.1 hname
  exact ⟨u, hn, won_once {} u (.of_foldlM (.init ⟨starts_empty, rfl⟩) hu)⟩

end PairingState

end Rayhunter.Auth
