import Rayhunter.Settings.Whole

/-!
# Whether a save undoes another

`set_config` writes the request with the accounts the daemon goes by, which it reads before it
writes; the account handlers write the configuration the daemon was started with and other
accounts. So a save of the settings undoes an account change it did not see, and an account change
undoes every save of the settings before it (`settings_undone`), until the daemon starts again.
`saves_kept` is about the runs in which an account change begins only when the settings are those
the daemon was started with, and no save of the settings is between reading the accounts and
renaming the file while an account change has `WEB_USER_MUTATION`.
-/

namespace Rayhunter.Settings

open Runs

variable {ρ : Type} {toml : Config ρ → Except String (List UInt8)}

/-- What should be in the config file after some saves, the latest first: the settings of the last
one that was of the settings, and the accounts after all changes. -/
def wanted (startUp : Config ρ) : List (Nat × Save toml) → Config ρ
  | [] => startUp.withoutWifi
  | (_, save) :: log =>
    match save.kind with
    | .settings request => request.toWrite startUp (wanted startUp log).webUsers
    | .account edit =>
      { wanted startUp log with webUsers := edit.apply (wanted startUp log).webUsers }

/-- A save of the settings that has read the accounts, until the file is renamed. -/
def Phase.savesSettings : Phase toml → Bool
  | saving save _ => !save.kind.isAccount
  | _ => false

/-- `set_config` reads the accounts while nobody changes them, and an account change begins while
nobody saves the settings and they are as they were when the daemon was started. -/
def Fresh (startUp : Config ρ) (s : State toml) : Nat × Action ρ → Prop
  | (i, .readUsers) => ∀ request, s.phase i = .checked request → s.lock = none
  | (_, .lock) =>
    (∀ j, (s.phase j).savesSettings = false) ∧ (wanted startUp s.log).SameSettings startUp.withoutWifi
  | _ => True

/-! ## What each request is sure of -/

/-- What a request is sure of about what should be in the config file now. -/
def Phase.Current (startUp now : Config ρ) (lock : Option Nat) : Phase toml → Prop
  | locked _ => now.SameSettings startUp.withoutWifi
  | hashing _ users => now.SameSettings startUp.withoutWifi ∧ users = now.webUsers
  | saving save _ =>
    match save.kind with
    | .settings request => lock = none ∧ save.config = request.toWrite startUp now.webUsers
    | .account edit =>
      now.SameSettings startUp.withoutWifi ∧
        save.config = startUp.withUsers (edit.apply now.webUsers)
  | saved save =>
    save.kind.isAccount →
      now.SameSettings startUp.withoutWifi ∧ save.config.webUsers = now.webUsers
  | _ => True

namespace Phase

variable {startUp now now' : Config ρ} {lock lock' : Option Nat} {p : Phase toml}

theorem current_settings {save : Save toml} {stage : Stage} {request : Config ρ}
    (hkind : save.kind = .settings request) :
    (saving save stage).Current startUp now lock ↔
      lock = none ∧ save.config = request.toWrite startUp now.webUsers := by
  simp only [Current, hkind]

theorem current_account {save : Save toml} {stage : Stage} {edit : AccountEdit}
    (hkind : save.kind = .account edit) :
    (saving save stage).Current startUp now lock ↔
      now.SameSettings startUp.withoutWifi ∧
        save.config = startUp.withUsers (edit.apply now.webUsers) := by
  simp only [Current, hkind]

/-- Only a save of the settings looks at the lock. -/
theorem Current.relock (h : p.Current startUp now lock)
    (hp : p.savesSettings = false ∨ lock' = none) : p.Current startUp now lock' := by
  cases p with
  | saving save stage =>
    cases hkind : save.kind with
    | settings request =>
      rw [current_settings hkind] at h ⊢
      refine ⟨hp.resolve_left ?_, h.2⟩
      simp [savesSettings, hkind, SaveKind.isAccount]
    | account edit =>
      rw [current_account hkind] at h ⊢
      exact h
  | _ => exact h

/-- Only an account change looks at the settings. -/
theorem Current.unlocked (h : p.Current startUp now lock) (hp : p.isLocked = false)
    (husers : now'.webUsers = now.webUsers) : p.Current startUp now' lock := by
  cases p with
  | saving save stage =>
    cases hkind : save.kind with
    | settings request =>
      rw [current_settings hkind] at h ⊢
      rw [husers]
      exact h
    | account edit =>
      simp only [isLocked, hkind, SaveKind.isAccount, Bool.true_eq_false] at hp
  | saved save =>
    intro haccount
    rw [isLocked, haccount] at hp
    cases hp
  | locked _ => cases hp
  | hashing _ _ => cases hp
  | _ => trivial

/-- One that does not change the accounts and does not save the settings looks at nothing. -/
theorem Current.idle (hp : p.isLocked = false) (hs : p.savesSettings = false) :
    p.Current startUp now lock := by
  cases p with
  | saving save stage =>
    rw [isLocked] at hp
    rw [savesSettings, hp] at hs
    cases hs
  | saved save =>
    intro haccount
    rw [isLocked, haccount] at hp
    cases hp
  | locked _ => cases hp
  | hashing _ _ => cases hp
  | _ => trivial

end Phase

/-- The accounts the daemon goes by are those of the config file, but for those of an account change
that has been saved and not yet been taken over, and every request is sure of what it should be. -/
structure Current (startUp : Config ρ) (s : State toml) : Prop where
  head : ∀ i save, s.log.head? = some (i, save) → save.config = wanted startUp s.log
  memory : (∀ i, (s.phase i).isPublishing = false) → s.webUsers = (wanted startUp s.log).webUsers
  phases : ∀ i, (s.phase i).Current startUp (wanted startUp s.log) s.lock

/-- Who is about to take the accounts over has the lock. -/
theorem Phase.isLocked_of_isPublishing {p : Phase toml} (h : p.isPublishing = true) :
    p.isLocked = true := by
  cases p with
  | saved save => exact h
  | _ => cases h

/-- Whoever has the lock is the only one who may be about to take the accounts over. -/
theorem isPublishing_of_locked {s : State toml} {i : Nat} (hl : LockHeld s) (hi : s.lock = some i)
    (hpi : (s.phase i).isPublishing = false) (j : Nat) : (s.phase j).isPublishing = false := by
  by_contra hj
  rw [Bool.not_eq_false] at hj
  have heq := (hl j (Phase.isLocked_of_isPublishing hj)).symm.trans hi
  rw [Option.some.inj heq, hpi] at hj
  cases hj

/-- Nobody is while nobody has it. -/
theorem isPublishing_of_free {s : State toml} (hl : LockHeld s) (hfree : s.lock = none) (j : Nat) :
    (s.phase j).isPublishing = false := by
  by_contra hj
  rw [Bool.not_eq_false] at hj
  rw [hl j (Phase.isLocked_of_isPublishing hj)] at hfree
  cases hfree

/-- A step that saves nothing and takes nothing over. -/
theorem Current.goTo {startUp : Config ρ} {s s' : State toml} {i : Nat} {p : Phase toml}
    (h : Current startUp s) (hlog : s'.log = s.log) (husers : s'.webUsers = s.webUsers)
    (hphase : s'.phase = Function.update s.phase i p) (hwas : (s.phase i).isPublishing = false)
    (hlock : s'.lock = s.lock ∨ s'.lock = none ∨ ∀ j, (s.phase j).savesSettings = false)
    (hp : p.Current startUp (wanted startUp s.log) s'.lock) : Current startUp s' := by
  refine ⟨by rw [hlog]; exact h.head, fun hnone => ?_, fun j => ?_⟩
  · rw [husers, hlog]
    refine h.memory fun j => ?_
    by_cases hji : j = i
    · rw [hji]
      exact hwas
    · have hj := hnone j
      rwa [hphase, Function.update_of_ne hji] at hj
  · rw [hlog, hphase]
    by_cases hji : j = i
    · rw [hji, Function.update_self]
      exact hp
    · rw [Function.update_of_ne hji]
      rcases hlock with hlock | hlock | hlock
      · rw [hlock]
        exact h.phases j
      · exact (h.phases j).relock (.inr hlock)
      · exact (h.phases j).relock (.inl (hlock j))

/-- Where the settings are those of the start, the accounts are all that a change changes. -/
theorem withUsers_eq {startUp now : Config ρ} (h : now.SameSettings startUp.withoutWifi)
    (users : List WebUser) : startUp.withUsers users = { now with webUsers := users } :=
  (congrArg (fun c : Config ρ => { c with webUsers := users }) h).symm

/-- The settings are renamed to the config file. -/
theorem Current.renames_settings {startUp : Config ρ} {s : State toml} {i : Nat} {save : Save toml}
    {disk : Disk} {request : Config ρ} (hl : LockHeld s) (h : Current startUp s)
    (hphase : s.phase i = .saving save .synced) (hkind : save.kind = .settings request) :
    Current startUp { s.goTo i (.saved save) with disk, log := (i, save) :: s.log } := by
  obtain ⟨hfree, hconfig⟩ := (Phase.current_settings hkind).mp (hphase ▸ h.phases i)
  have hnow : wanted startUp ((i, save) :: s.log) =
      request.toWrite startUp (wanted startUp s.log).webUsers := by
    rw [wanted, hkind]
  have husers : (wanted startUp ((i, save) :: s.log)).webUsers = (wanted startUp s.log).webUsers := by
    rw [hnow, Config.webUsers_toWrite]
  refine ⟨fun j save' hhead => ?_, fun _ => ?_, fun j => ?_⟩
  · obtain ⟨-, rfl⟩ := Prod.mk.inj (Option.some.inj hhead)
    exact hconfig.trans hnow.symm
  · exact (h.memory (isPublishing_of_free hl hfree)).trans husers.symm
  · simp only [State.phase_goTo, State.lock_goTo]
    by_cases hji : j = i
    · rw [hji, Function.update_self]
      intro haccount
      rw [hkind] at haccount
      cases haccount
    · rw [Function.update_of_ne hji]
      refine (h.phases j).unlocked ?_ husers
      by_contra hj
      rw [hl j (by simpa using hj)] at hfree
      cases hfree

/-- An account change is renamed to the config file. -/
theorem Current.renames_account {startUp : Config ρ} {s : State toml} {i : Nat} {save : Save toml}
    {disk : Disk} {edit : AccountEdit} (hl : LockHeld s) (h : Current startUp s)
    (hphase : s.phase i = .saving save .synced) (hkind : save.kind = .account edit) :
    Current startUp { s.goTo i (.saved save) with disk, log := (i, save) :: s.log } := by
  obtain ⟨hsame, hconfig⟩ := (Phase.current_account hkind).mp (hphase ▸ h.phases i)
  have hlock : s.lock = some i := hl i (by simp [hphase, Phase.isLocked, hkind, SaveKind.isAccount])
  have hnow : wanted startUp ((i, save) :: s.log) = save.config := by
    rw [hconfig, withUsers_eq hsame, wanted, hkind]
  have hsame' : (wanted startUp ((i, save) :: s.log)).SameSettings startUp.withoutWifi := by
    rw [hnow, hconfig]
    rfl
  refine ⟨fun j save' hhead => ?_, fun hnone => ?_, fun j => ?_⟩
  · obtain ⟨-, rfl⟩ := Prod.mk.inj (Option.some.inj hhead)
    exact hnow.symm
  · have hi := hnone i
    simp only [State.phase_goTo, Function.update_self, Phase.isPublishing, hkind, SaveKind.isAccount,
      Bool.true_eq_false] at hi
  · simp only [State.phase_goTo, State.lock_goTo]
    by_cases hji : j = i
    · rw [hji, Function.update_self]
      exact fun _ => ⟨hsame', by rw [hnow]⟩
    · rw [Function.update_of_ne hji]
      refine .idle ?_ ?_
      · by_contra hj
        have heq := (hl j (by simpa using hj)).symm.trans hlock
        exact hji (Option.some.inj heq)
      · by_contra hj
        have hfree : s.lock = none := by
          cases hp : s.phase j with
          | saving other stage =>
            rw [hp] at hj
            cases hother : other.kind with
            | settings request => exact ((Phase.current_settings hother).mp (hp ▸ h.phases j)).1
            | account edit => simp [Phase.savesSettings, hother, SaveKind.isAccount] at hj
          | _ => rw [hp] at hj; exact (hj rfl).elim
        rw [hlock] at hfree
        cases hfree

theorem Current.step {startUp : Config ρ} {s s' : State toml} {e : Nat × Action ρ}
    (hl : LockHeld s) (h : Current startUp s) (hfresh : Fresh startUp s e)
    (hs : Settings.step toml startUp s e = some s') : Current startUp s' := by
  obtain ⟨i, a⟩ := e
  cases step_moves hs with
  | answered status text _ hpublished _ =>
    refine h.goTo rfl rfl rfl hpublished ?_ trivial
    cases hlocked : (s.phase i).isLocked
    · exact .inl rfl
    · exact .inr (.inl rfl)
  | checked request hphase => exact h.goTo rfl rfl rfl (by rw [hphase]; rfl) (.inl rfl) trivial
  | waits change hphase => exact h.goTo rfl rfl rfl (by rw [hphase]; rfl) (.inl rfl) trivial
  | locks change hphase hfree =>
    exact h.goTo rfl rfl rfl (by rw [hphase]; rfl) (.inr (.inr hfresh.1)) hfresh.2
  | reads username password hphase =>
    have hwas : (s.phase i).isPublishing = false := by rw [hphase]; rfl
    have hlock : s.lock = some i := hl i (by rw [hphase]; rfl)
    have hsame : (wanted startUp s.log).SameSettings startUp.withoutWifi := by
      have := h.phases i
      rwa [hphase] at this
    exact h.goTo rfl rfl rfl hwas (.inl rfl)
      ⟨hsame, h.memory (isPublishing_of_locked hl hlock hwas)⟩
  | beginsSettings request save hphase hkind hconfig =>
    have hfree : s.lock = none := hfresh request hphase
    refine h.goTo rfl rfl rfl (by rw [hphase]; rfl) (.inl rfl)
      ((Phase.current_settings hkind).mpr ⟨hfree, ?_⟩)
    rw [hconfig, h.memory (isPublishing_of_free hl hfree)]
  | beginsDelete username save hphase hkind hconfig =>
    have hwas : (s.phase i).isPublishing = false := by rw [hphase]; rfl
    have hlock : s.lock = some i := hl i (by rw [hphase]; rfl)
    have hsame : (wanted startUp s.log).SameSettings startUp.withoutWifi := by
      have := h.phases i
      rwa [hphase] at this
    refine h.goTo rfl rfl rfl hwas (.inl rfl) ((Phase.current_account hkind).mpr ⟨hsame, ?_⟩)
    rw [hconfig, h.memory (isPublishing_of_locked hl hlock hwas)]
  | beginsPut username hash users save hphase hkind hconfig =>
    obtain ⟨hsame, husers⟩ : (wanted startUp s.log).SameSettings startUp.withoutWifi ∧
        users = (wanted startUp s.log).webUsers := by
      have := h.phases i
      rwa [hphase] at this
    refine h.goTo rfl rfl rfl (by rw [hphase]; rfl) (.inl rfl)
      ((Phase.current_account hkind).mpr ⟨hsame, ?_⟩)
    rw [hconfig, husers]
  | creates save hphase =>
    have hsave := h.phases i
    rw [hphase] at hsave
    exact h.goTo rfl rfl rfl (by rw [hphase]; rfl) (.inl rfl) hsave
  | writes save ino offset n hphase _ =>
    have hsave := h.phases i
    rw [hphase] at hsave
    exact h.goTo rfl rfl rfl (by rw [hphase]; rfl) (.inl rfl) hsave
  | syncs save ino hphase =>
    have hsave := h.phases i
    rw [hphase] at hsave
    exact h.goTo rfl rfl rfl (by rw [hphase]; rfl) (.inl rfl) hsave
  | renames save disk hphase _ =>
    cases hkind : save.kind with
    | settings request => exact h.renames_settings hl hphase hkind
    | account edit => exact h.renames_account hl hphase hkind
  | publishes save edit hphase hkind =>
    have hsaved := h.phases i
    rw [hphase] at hsaved
    have husers := (hsaved (by rw [hkind]; rfl)).2
    refine ⟨h.head, fun _ => husers, fun j => ?_⟩
    by_cases hji : j = i
    · rw [hji]
      simp only [State.answer, State.phase_goTo, Function.update_self]
      trivial
    · simp only [State.answer, State.phase_goTo, Function.update_of_ne hji]
      exact (h.phases j).relock (.inr rfl)

/-! ## Who is told that a save is done -/

/-- The requests whose saves were renamed are those that have been, or will be, told so. -/
structure Told (s : State toml) : Prop where
  answered : ∀ i status text, s.phase i = .answered status text →
    (status = 202 ↔ ∃ save, (i, save) ∈ s.log)
  saved : ∀ i, (s.phase i).isSaved → ∃ save, (i, save) ∈ s.log
  late : ∀ i save, (i, save) ∈ s.log → (s.phase i).isSaved ∨ (s.phase i).isAnswered

/-- A step of a request that was not renamed and is not answered. -/
theorem Told.goTo {s s' : State toml} {i : Nat} {p : Phase toml} (h : Told s)
    (hlog : s'.log = s.log) (hphase : s'.phase = Function.update s.phase i p)
    (hwas : (s.phase i).isSaved = false ∧ (s.phase i).isAnswered = false)
    (hp : p.isSaved = false ∧ p.isAnswered = false) : Told s' := by
  refine ⟨fun j status text hj => ?_, fun j hj => ?_, fun j save hj => ?_⟩
  · rw [hphase] at hj
    rw [hlog]
    by_cases hji : j = i
    · rw [hji, Function.update_self] at hj
      rw [hj] at hp
      cases hp.2
    · rw [Function.update_of_ne hji] at hj
      exact h.answered j status text hj
  · rw [hphase] at hj
    rw [hlog]
    by_cases hji : j = i
    · rw [hji, Function.update_self, hp.1] at hj
      cases hj
    · rw [Function.update_of_ne hji] at hj
      exact h.saved j hj
  · rw [hlog] at hj
    have hlate := h.late j save hj
    rw [hphase]
    by_cases hji : j = i
    · rw [hji, hwas.1, hwas.2] at hlate
      rcases hlate with hlate | hlate <;> cases hlate
    · rw [Function.update_of_ne hji]
      exact hlate

/-- A request is answered that its save is done if and only if it is. -/
theorem Told.answer {s s' : State toml} {i status : Nat} {text : String} (h : Told s)
    (hlog : s'.log = s.log) (hphase : s'.phase = Function.update s.phase i (.answered status text))
    (hopen : (s.phase i).isAnswered = false) (hstatus : status = 202 ↔ (s.phase i).isSaved) :
    Told s' := by
  have hsaved : (s.phase i).isSaved ↔ ∃ save, (i, save) ∈ s.log := by
    refine ⟨h.saved i, fun ⟨save, hsave⟩ => (h.late i save hsave).resolve_right ?_⟩
    rw [hopen]
    exact Bool.false_ne_true
  refine ⟨fun j status' text' hj => ?_, fun j hj => ?_, fun j save hj => ?_⟩
  · rw [hphase] at hj
    rw [hlog]
    by_cases hji : j = i
    · rw [hji, Function.update_self] at hj
      obtain ⟨rfl, rfl⟩ := Phase.answered.inj hj
      rw [hji]
      exact hstatus.trans hsaved
    · rw [Function.update_of_ne hji] at hj
      exact h.answered j status' text' hj
  · rw [hphase] at hj
    rw [hlog]
    by_cases hji : j = i
    · rw [hji, Function.update_self] at hj
      cases hj
    · rw [Function.update_of_ne hji] at hj
      exact h.saved j hj
  · rw [hlog] at hj
    rw [hphase]
    by_cases hji : j = i
    · rw [hji, Function.update_self]
      exact .inr rfl
    · rw [Function.update_of_ne hji]
      exact h.late j save hj

theorem Told.step {startUp : Config ρ} {s s' : State toml} {e : Nat × Action ρ} (h : Told s)
    (hs : Settings.step toml startUp s e = some s') : Told s' := by
  obtain ⟨i, a⟩ := e
  cases step_moves hs with
  | answered status text hopen _ hstatus => exact h.answer rfl rfl hopen hstatus
  | checked request hphase => exact h.goTo rfl rfl (by rw [hphase]; exact ⟨rfl, rfl⟩) ⟨rfl, rfl⟩
  | waits change hphase => exact h.goTo rfl rfl (by rw [hphase]; exact ⟨rfl, rfl⟩) ⟨rfl, rfl⟩
  | locks change hphase _ => exact h.goTo rfl rfl (by rw [hphase]; exact ⟨rfl, rfl⟩) ⟨rfl, rfl⟩
  | reads username password hphase =>
    exact h.goTo rfl rfl (by rw [hphase]; exact ⟨rfl, rfl⟩) ⟨rfl, rfl⟩
  | beginsSettings request save hphase _ _ =>
    exact h.goTo rfl rfl (by rw [hphase]; exact ⟨rfl, rfl⟩) ⟨rfl, rfl⟩
  | beginsDelete username save hphase _ _ =>
    exact h.goTo rfl rfl (by rw [hphase]; exact ⟨rfl, rfl⟩) ⟨rfl, rfl⟩
  | beginsPut username hash users save hphase _ _ =>
    exact h.goTo rfl rfl (by rw [hphase]; exact ⟨rfl, rfl⟩) ⟨rfl, rfl⟩
  | creates save hphase => exact h.goTo rfl rfl (by rw [hphase]; exact ⟨rfl, rfl⟩) ⟨rfl, rfl⟩
  | writes save ino offset n hphase _ =>
    exact h.goTo rfl rfl (by rw [hphase]; exact ⟨rfl, rfl⟩) ⟨rfl, rfl⟩
  | syncs save ino hphase => exact h.goTo rfl rfl (by rw [hphase]; exact ⟨rfl, rfl⟩) ⟨rfl, rfl⟩
  | renames save disk hphase _ =>
    refine ⟨fun j status text hj => ?_, fun j hj => ?_, fun j other hj => ?_⟩
    · simp only [State.phase_goTo] at hj
      by_cases hji : j = i
      · rw [hji, Function.update_self] at hj
        cases hj
      · rw [Function.update_of_ne hji] at hj
        simpa [hji] using h.answered j status text hj
    · simp only [State.phase_goTo] at hj
      by_cases hji : j = i
      · exact ⟨save, by rw [hji]; exact List.mem_cons_self⟩
      · rw [Function.update_of_ne hji] at hj
        obtain ⟨other, hother⟩ := h.saved j hj
        exact ⟨other, List.mem_cons_of_mem _ hother⟩
    · simp only [State.phase_goTo]
      by_cases hji : j = i
      · rw [hji, Function.update_self]
        exact .inl rfl
      · rw [Function.update_of_ne hji]
        refine h.late j other ((List.mem_cons.mp hj).resolve_left fun heq => ?_)
        exact hji (Prod.mk.inj heq).1
  | publishes save edit hphase _ =>
    exact h.answer rfl rfl (by rw [hphase]; rfl) (by simp [hphase, Phase.isSaved])

/-! ## Runs -/

/-- In every run whose steps are alone and fresh, and in every state of it, a request has been
answered that it is done if and only if its save is one of those renamed, and the config file has
the settings of the last of these that was of the settings and the accounts after all of them. -/
theorem saves_kept (startUp : Config ρ) (initial : List UInt8) (s : State toml)
    (h : Reach (Starts startUp initial) (step toml startUp)
      (fun s e => Alone s e ∧ Fresh startUp s e) s) :
    (∀ i status text, s.phase i = .answered status text →
      (status = 202 ↔ ∃ save, (i, save) ∈ s.log)) ∧
    (s.log = [] → s.disk.config = initial) ∧
    (s.log ≠ [] → toml (wanted startUp s.log) = .ok s.disk.config) := by
  have hcurrent : Current startUp s := by
    refine h.invariant_with (fun _ => reach_lockHeld) (fun s hs => ⟨?_, fun _ => ?_, fun i => ?_⟩)
      fun _ _ _ hl hc hok hs => hc.step hl hok.2 hs
    · rw [hs.log]
      exact fun _ _ hhead => (Option.some_ne_none _ hhead.symm).elim
    · rw [hs.log, hs.webUsers]
      rfl
    · rw [hs.phase i]
      trivial
  have htold : Told s := by
    refine h.invariant (fun s hs => ⟨fun i _ _ hi => ?_, fun i hi => ?_, fun i save hsave => ?_⟩)
      fun _ _ _ ht _ hs => ht.step hs
    · rw [hs.phase i] at hi
      cases hi
    · rw [hs.phase i] at hi
      cases hi
    · rw [hs.log] at hsave
      exact (List.not_mem_nil hsave).elim
  have hconfig := (reach_whole (fun _ _ hok => hok.1) h).config
  refine ⟨htold.answered, fun hnil => ?_, fun hne => ?_⟩
  · rw [hconfig, State.lastText, hnil]
    rfl
  · obtain ⟨⟨i, save⟩, log, hlog⟩ := List.exists_cons_of_ne_nil hne
    have hsave := hcurrent.head i save (by rw [hlog]; rfl)
    have htext : s.disk.config = save.text := by
      rw [hconfig, State.lastText, hlog]
      rfl
    rw [htext, ← hsave]
    exact save.isText

/-- Whether a request gets the lock. -/
def Action.isLock : Action ρ → Bool
  | .lock => true
  | _ => false

/-- A save of the settings is fresh if nobody changes accounts. -/
theorem fresh_of_free {startUp : Config ρ} {s : State toml} {e : Nat × Action ρ}
    (hfree : s.lock = none) (he : e.2.isLock = false) : Fresh startUp s e := by
  obtain ⟨i, a⟩ := e
  cases a with
  | readUsers => exact fun _ _ => hfree
  | lock => cases he
  | _ => trivial

/-- The save of `savedRun` is kept. -/
theorem saves_kept_saved :
    ∃ s, Reach (Starts plainConfig plainText) (step configToml plainConfig)
      (fun s e => Alone s e ∧ Fresh plainConfig s e) s ∧ s.log.length = 1 ∧
      configToml (wanted plainConfig s.log) = .ok s.disk.config := by
  have hrun : (savedRun.foldlM (fun s e => if e.1 = 0 ∧ s.lock = none ∧ e.2.isLock = false then
      step configToml plainConfig s e else none) plainStart).map (·.log.length) = some 1 := by
    decide +kernel
  obtain ⟨s, hs, hlog⟩ := Option.map_eq_some_iff.mp hrun
  have hone : Reach (Starts plainConfig plainText) (step configToml plainConfig)
      (fun s e => e.1 = 0 ∧ s.lock = none ∧ e.2.isLock = false) s :=
    Reach.of_foldlM_guarded (.init plainStart_starts) hs
  have hok : Reach (Starts plainConfig plainText) (step configToml plainConfig)
      (fun s e => Alone s e ∧ Fresh plainConfig s e) s := by
    refine hone.strengthen fun s e hr he => ⟨alone_of_away ?_, fresh_of_free he.2.1 he.2.2⟩
    rw [he.1]
    exact away_of_ne (hr.strengthen fun _ _ _ hguard => hguard.1)
  exact ⟨s, hok, hlog, (saves_kept plainConfig plainText s hok).2.2
    (List.ne_nil_of_length_pos (by omega))⟩

/-- The account that is added in `undoneRun`. -/
def owner : WebUser := ⟨"owner", "pbkdf2-sha256$10000$AAAA$BBBB"⟩

/-- The settings are saved, and then an account is added before the daemon starts again. -/
def undoneRun : List (Nat × Action Unit) :=
  savedRun ++ [(1, .setWebUser owner.username "correct horse"), (1, .lock), (1, .readUsers),
    (1, .hash (.ok owner.passwordHash)), (1, .create (.ok ())), (1, .write 140), (1, .sync (.ok ())),
    (1, .rename (.ok ())), (1, .finish)]

/-- Both are told that it is done, and the config file has the settings of before. -/
theorem settings_undone :
    ∃ s, Reach (Starts plainConfig plainText) (step configToml plainConfig) (fun _ _ => True) s ∧
      ((s.phase 0).isAnswered ∧ (s.phase 1).isAnswered ∧ s.log.length = 2) ∧
      configToml { plainConfig with webUsers := [owner] } = .ok s.disk.config ∧
      configToml (wanted plainConfig s.log) ≠ .ok s.disk.config := by
  have hrun : (undoneRun.foldlM (step configToml plainConfig) plainStart).map (fun s =>
      ((s.phase 0).isAnswered && (s.phase 1).isAnswered && s.log.length = 2, s.disk.config,
        (configToml (wanted plainConfig s.log)).toOption)) =
      some (true, (configToml { plainConfig with webUsers := [owner] }).toOption.getD [],
        (configToml { plainConfig with gpsMode := .api, webUsers := [owner] }).toOption) := by
    decide +kernel
  obtain ⟨s, hs, heq⟩ := Option.map_eq_some_iff.mp hrun
  obtain ⟨hanswered, hconfig, hwanted⟩ : _ ∧ _ ∧ _ := by simpa only [Prod.mk.injEq] using heq
  refine ⟨s, Reach.of_foldlM (.init plainStart_starts) hs, by simpa [and_assoc] using hanswered, ?_,
    fun h => ?_⟩
  · rw [hconfig]
    rfl
  · rw [h, hconfig] at hwanted
    exact absurd hwanted (by decide +kernel)

end Rayhunter.Settings
