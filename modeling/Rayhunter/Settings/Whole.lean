import Rayhunter.Settings.Save

/-!
# Whether the config file is torn

All saves write the same temporary file. One that makes it empties what another has written, and
one that renames it makes a config file of whatever is in it by then, in which the other may still
write: `config_torn` is such a run. `config_never_torn` is about the runs in which no save makes the
file while another is between making and renaming it. Two account changes never are, as they have
`WEB_USER_MUTATION`, so this is about a save of the settings and any other.
-/

namespace Rayhunter.Settings

open Runs

variable {ρ : Type} {toml : Config ρ → Except String (List UInt8)}

namespace State

@[simp] theorem disk_goTo (s : State toml) (i : Nat) (p : Phase toml) : (s.goTo i p).disk = s.disk := rfl
@[simp] theorem webUsers_goTo (s : State toml) (i : Nat) (p : Phase toml) :
    (s.goTo i p).webUsers = s.webUsers := rfl
@[simp] theorem lock_goTo (s : State toml) (i : Nat) (p : Phase toml) : (s.goTo i p).lock = s.lock := rfl
@[simp] theorem log_goTo (s : State toml) (i : Nat) (p : Phase toml) : (s.goTo i p).log = s.log := rfl
@[simp] theorem phase_goTo (s : State toml) (i : Nat) (p : Phase toml) :
    (s.goTo i p).phase = Function.update s.phase i p := rfl

/-- The text of the save that was renamed last, or what was in the config file before. -/
def lastText (s : State toml) (initial : List UInt8) : List UInt8 :=
  (s.log.head?.map (·.2.text)).getD initial

end State

/-- A daemon that has just started: the two names are of different files, and nobody asks for
anything. A file may have been left behind by a save that a crash cut short. -/
structure Starts (startUp : Config ρ) (initial : List UInt8) (s : State toml) : Prop where
  config : s.disk.config = initial
  target_lt : s.disk.target < s.disk.next
  temp : ∀ ino ∈ s.disk.temp, ino < s.disk.next ∧ ino ≠ s.disk.target
  webUsers : s.webUsers = startUp.webUsers
  lock : s.lock = none
  phase : ∀ i, s.phase i = .away
  log : s.log = []

/-- A save does not make the file while another one is between making and renaming it, unless both
change accounts. -/
def Alone (s : State toml) : Nat × Action ρ → Prop
  | (i, .create _) =>
    ∀ save, s.phase i = .saving save .creating → ∀ j other, (s.phase j).underway = some other →
      save.kind.isAccount ∧ other.kind.isAccount
  | _ => True

/-! ## The lock -/

/-- Every request that has the lock is the one that has it. -/
def LockHeld (s : State toml) : Prop := ∀ i, (s.phase i).isLocked → s.lock = some i

/-- A step of a request keeps it if the request has the lock after it as it had it before. -/
theorem LockHeld.goTo {s s' : State toml} {i : Nat} {p : Phase toml} (h : LockHeld s)
    (hlock : s'.lock = s.lock) (hphase : s'.phase = Function.update s.phase i p)
    (hp : p.isLocked = (s.phase i).isLocked) : LockHeld s' := by
  intro j hj
  rw [hphase] at hj
  rw [hlock]
  by_cases hji : j = i
  · subst hji
    rw [Function.update_self, hp] at hj
    exact h j hj
  · rw [Function.update_of_ne hji] at hj
    exact h j hj

/-- So does one that gives it back. -/
theorem LockHeld.release {s s' : State toml} {i : Nat} {p : Phase toml} (h : LockHeld s)
    (hlock : s'.lock = if (s.phase i).isLocked then none else s.lock)
    (hphase : s'.phase = Function.update s.phase i p) (hp : p.isLocked = false) : LockHeld s' := by
  intro j hj
  rw [hphase] at hj
  by_cases hji : j = i
  · subst hji
    rw [Function.update_self, hp] at hj
    cases hj
  · rw [Function.update_of_ne hji] at hj
    have hheld := h j hj
    rw [hlock, if_neg]
    · exact hheld
    · intro hi
      have hi := h i hi
      rw [hheld] at hi
      exact hji (Option.some.inj hi)

theorem LockHeld.step {startUp : Config ρ} {s s' : State toml} {e : Nat × Action ρ}
    (h : LockHeld s) (hs : step toml startUp s e = some s') : LockHeld s' := by
  obtain ⟨i, a⟩ := e
  cases step_moves hs with
  | answered status text _ _ _ => exact h.release rfl rfl rfl
  | checked request hphase => exact h.goTo rfl rfl (by rw [hphase]; rfl)
  | waits change hphase => exact h.goTo rfl rfl (by rw [hphase]; rfl)
  | locks change hphase hfree =>
    intro j hj
    by_cases hji : j = i
    · rw [hji]
    · have hj' : (s.phase j).isLocked = true := by
        simpa only [State.phase_goTo, Function.update_of_ne hji] using hj
      rw [h j hj'] at hfree
      cases hfree
  | reads username password hphase => exact h.goTo rfl rfl (by rw [hphase]; rfl)
  | beginsSettings request save hphase hkind _ =>
    exact h.goTo rfl rfl (by rw [hphase, Phase.isLocked, hkind]; rfl)
  | beginsDelete username save hphase hkind _ =>
    exact h.goTo rfl rfl (by simp [hphase, Phase.isLocked, hkind, SaveKind.isAccount])
  | beginsPut username hash users save hphase hkind _ =>
    exact h.goTo rfl rfl (by simp [hphase, Phase.isLocked, hkind, SaveKind.isAccount])
  | creates save hphase => exact h.goTo rfl rfl (by rw [hphase]; rfl)
  | writes save ino offset n hphase _ => exact h.goTo rfl rfl (by rw [hphase]; rfl)
  | syncs save ino hphase => exact h.goTo rfl rfl (by rw [hphase]; rfl)
  | renames save disk hphase _ => exact h.goTo rfl rfl (by rw [hphase]; rfl)
  | publishes save edit hphase hkind =>
    have hlocked : (s.phase i).isLocked = true := by rw [hphase, Phase.isLocked, hkind]; rfl
    exact h.release (by rw [hlocked]; rfl) rfl rfl

/-! ## The files -/

/-- What a save is sure of while it is the only one: it writes the file that has the temporary name,
and this has what was written of the text. -/
structure Whole (initial : List UInt8) (s : State toml) : Prop where
  target_lt : s.disk.target < s.disk.next
  temp : ∀ ino ∈ s.disk.temp, ino < s.disk.next ∧ ino ≠ s.disk.target
  config : s.disk.config = s.lastText initial
  one : ∀ i j save other, (s.phase i).underway = some save → (s.phase j).underway = some other → i = j
  writing : ∀ i save ino offset, s.phase i = .saving save (.writing ino offset) →
    s.disk.temp = some ino ∧ offset ≤ save.text.length ∧ s.disk.files ino = save.text.take offset
  synced : ∀ i save, s.phase i = .saving save .synced →
    ∃ ino, s.disk.temp = some ino ∧ s.disk.files ino = save.text

/-- A step that is not of a save underway is nothing to the files. -/
theorem Whole.quiet {initial : List UInt8} {s s' : State toml} {i : Nat} {p : Phase toml}
    (h : Whole initial s) (hdisk : s'.disk = s.disk) (hlog : s'.log = s.log)
    (hphase : s'.phase = Function.update s.phase i p) (hp : p.underway = none) :
    Whole initial s' := by
  have hsame : ∀ {j save}, (s'.phase j).underway = some save → s'.phase j = s.phase j := by
    intro j save hj
    by_cases hji : j = i
    · rw [hphase, hji, Function.update_self, hp] at hj
      cases hj
    · rw [hphase, Function.update_of_ne hji]
  refine ⟨?_, ?_, ?_, fun j k save other hj hk => ?_, fun j save ino offset hj => ?_,
    fun j save hj => ?_⟩
  · rw [hdisk]; exact h.target_lt
  · rw [hdisk]; exact h.temp
  · rw [hdisk, State.lastText, hlog]; exact h.config
  · rw [hsame hj] at hj
    rw [hsame hk] at hk
    exact h.one j k save other hj hk
  · have := @hsame j save (by rw [hj]; rfl)
    rw [hdisk]
    exact h.writing j save ino offset (by rw [← this, hj])
  · have := @hsame j save (by rw [hj]; rfl)
    rw [hdisk]
    exact h.synced j save (by rw [← this, hj])

/-- A save that is underway has the lock if it is of the accounts. -/
theorem Phase.isLocked_of_underway {p : Phase toml} {save : Save toml}
    (h : p.underway = some save) : p.isLocked = save.kind.isAccount := by
  cases p with
  | saving save' stage => cases stage <;> cases h <;> rfl
  | _ => cases h

/-- A save that makes the file is the only one underway. -/
theorem none_underway {s : State toml} {i : Nat} {save : Save toml} (hl : LockHeld s)
    (hphase : s.phase i = .saving save .creating) (halone : Alone s (i, .create (.ok ()))) (j : Nat) :
    (s.phase j).underway = none := by
  rw [Option.eq_none_iff_forall_not_mem]
  intro other hother
  obtain ⟨hsave, haccount⟩ := halone save hphase j other hother
  have hi : s.lock = some i := hl i (by rw [hphase]; exact hsave)
  have hj : s.lock = some j := hl j (by rw [Phase.isLocked_of_underway hother]; exact haccount)
  rw [hi] at hj
  obtain rfl := Option.some.inj hj
  rw [hphase] at hother
  cases hother

/-- The file that is made is empty, has the temporary name, and is not the config file. -/
theorem Disk.create_spec {d d' : Disk} {ino : Nat} (hd : d.create = (d', ino))
    (htarget : d.target < d.next) (htemp : ∀ ino ∈ d.temp, ino < d.next ∧ ino ≠ d.target) :
    d'.temp = some ino ∧ d'.files ino = [] ∧ d'.target = d.target ∧ d'.config = d.config ∧
      ino < d'.next ∧ d'.target < d'.next ∧ ino ≠ d'.target := by
  unfold Disk.create at hd
  cases ht : d.temp with
  | some old =>
    rw [ht] at hd
    obtain ⟨rfl, rfl⟩ := Prod.mk.inj hd
    obtain ⟨hlt, hne⟩ := htemp old ht
    exact ⟨rfl, Function.update_self .., rfl, Function.update_of_ne hne.symm .., hlt, htarget, hne⟩
  | none =>
    rw [ht] at hd
    obtain ⟨rfl, rfl⟩ := Prod.mk.inj hd
    have hne : d.next ≠ d.target := by omega
    refine ⟨rfl, Function.update_self .., rfl, Function.update_of_ne hne.symm .., ?_, ?_, hne⟩
    · exact Nat.lt_succ_self _
    · exact Nat.lt_succ_of_lt htarget

/-- A piece written where a file ends comes after what is in it. -/
theorem Disk.files_write {d : Disk} {ino offset : Nat} (hend : (d.files ino).length = offset)
    (piece : List UInt8) :
    (d.write ino offset piece).files = Function.update d.files ino (d.files ino ++ piece) := by
  unfold Disk.write
  simp only
  rw [List.take_of_length_le (by omega), List.drop_eq_nil_of_le (by omega), hend, Nat.sub_self]
  simp

/-- The save that is in a phase after one of its steps is the only one underway. -/
theorem only_underway {s : State toml} {i : Nat} {p : Phase toml}
    (hothers : ∀ j ≠ i, (s.phase j).underway = none) {j : Nat} {save : Save toml}
    (hj : (Function.update s.phase i p j).underway = some save) : j = i := by
  by_contra hji
  rw [Function.update_of_ne hji, hothers j hji] at hj
  cases hj

theorem Whole.creates {initial : List UInt8} {s : State toml} {i ino : Nat} {save : Save toml}
    {disk : Disk} (h : Whole initial s) (hdisk : s.disk.create = (disk, ino))
    (hothers : ∀ j ≠ i, (s.phase j).underway = none) :
    Whole initial { s.goTo i (.saving save (.writing ino 0)) with disk } := by
  obtain ⟨htemp, hempty, htarget, hconfig, hlt, hbelow, hne⟩ :=
    Disk.create_spec hdisk h.target_lt h.temp
  refine ⟨hbelow, fun ino' hino' => ?_, hconfig.trans h.config, fun j k _ _ hj hk =>
    (only_underway hothers hj).trans (only_underway hothers hk).symm, fun j save' ino offset hj => ?_,
    fun j save' hj => ?_⟩
  · have heq : some ino = some ino' := htemp.symm.trans hino'
    obtain rfl := Option.some.inj heq
    exact ⟨hlt, hne⟩
  · simp only [State.phase_goTo] at hj
    obtain rfl := only_underway hothers (by rw [hj]; rfl)
    simp only [Function.update_self, Phase.saving.injEq, Stage.writing.injEq] at hj
    obtain ⟨rfl, rfl, rfl⟩ := hj
    exact ⟨htemp, Nat.zero_le _, hempty⟩
  · simp only [State.phase_goTo] at hj
    obtain rfl := only_underway hothers (by rw [hj]; rfl)
    simp only [Function.update_self, Phase.saving.injEq, reduceCtorEq, and_false] at hj

theorem Whole.others {initial : List UInt8} {s : State toml} {i : Nat} {save : Save toml}
    (h : Whole initial s) (hi : (s.phase i).underway = some save) :
    ∀ j ≠ i, (s.phase j).underway = none := by
  intro j hji
  rw [Option.eq_none_iff_forall_not_mem]
  intro other hother
  exact hji (h.one j i other save hother hi)

theorem Whole.writes {initial : List UInt8} {s : State toml} {i ino offset n : Nat}
    {save : Save toml} (h : Whole initial s)
    (hphase : s.phase i = .saving save (.writing ino offset))
    (hn : offset + n ≤ save.text.length) :
    Whole initial { s.goTo i (.saving save (.writing ino (offset + n))) with
      disk := s.disk.write ino offset ((save.text.drop offset).take n) } := by
  obtain ⟨htemp, hoffset, hfile⟩ := h.writing i save ino offset hphase
  have hunderway : (s.phase i).underway = some save := by rw [hphase]; rfl
  have hothers := h.others hunderway
  have hne : ino ≠ s.disk.target := (h.temp ino htemp).2
  have hfiles := @Disk.files_write s.disk ino offset
    (by rw [hfile, List.length_take, Nat.min_eq_left hoffset]) ((save.text.drop offset).take n)
  refine ⟨h.target_lt, h.temp, ?_, fun j k _ _ hj hk =>
    (only_underway hothers hj).trans (only_underway hothers hk).symm, fun j save' ino offset hj => ?_,
    fun j save' hj => ?_⟩
  · refine Eq.trans ?_ h.config
    simp only [Disk.config, hfiles]
    exact Function.update_of_ne hne.symm ..
  · simp only [State.phase_goTo] at hj
    obtain rfl := only_underway hothers (by rw [hj]; rfl)
    simp only [Function.update_self, Phase.saving.injEq, Stage.writing.injEq] at hj
    obtain ⟨rfl, rfl, rfl⟩ := hj
    refine ⟨htemp, hn, ?_⟩
    simp only [hfiles, Function.update_self, hfile]
    exact List.take_add.symm
  · simp only [State.phase_goTo] at hj
    obtain rfl := only_underway hothers (by rw [hj]; rfl)
    simp only [Function.update_self, Phase.saving.injEq, reduceCtorEq, and_false] at hj

theorem Whole.syncs {initial : List UInt8} {s : State toml} {i ino : Nat} {save : Save toml}
    (h : Whole initial s) (hphase : s.phase i = .saving save (.writing ino save.text.length)) :
    Whole initial (s.goTo i (.saving save .synced)) := by
  obtain ⟨htemp, -, hfile⟩ := h.writing i save ino _ hphase
  have hunderway : (s.phase i).underway = some save := by rw [hphase]; rfl
  have hothers := h.others hunderway
  refine ⟨h.target_lt, h.temp, h.config, fun j k _ _ hj hk =>
    (only_underway hothers hj).trans (only_underway hothers hk).symm, fun j save' ino offset hj => ?_,
    fun j save' hj => ?_⟩
  · simp only [State.phase_goTo] at hj
    obtain rfl := only_underway hothers (by rw [hj]; rfl)
    simp only [Function.update_self, Phase.saving.injEq, reduceCtorEq, and_false] at hj
  · simp only [State.phase_goTo] at hj
    obtain rfl := only_underway hothers (by rw [hj]; rfl)
    simp only [Function.update_self, Phase.saving.injEq, and_true] at hj
    subst hj
    exact ⟨ino, htemp, hfile.trans List.take_length⟩

/-- The file that is renamed has the whole text, and nobody is left to write to it. -/
theorem Whole.renames {initial : List UInt8} {s : State toml} {i : Nat} {save : Save toml}
    {disk : Disk} (h : Whole initial s) (hphase : s.phase i = .saving save .synced)
    (hrename : s.disk.rename = some disk) :
    Whole initial { s.goTo i (.saved save) with disk, log := (i, save) :: s.log } := by
  obtain ⟨ino, htemp, hfile⟩ := h.synced i save hphase
  have hunderway : (s.phase i).underway = some save := by rw [hphase]; rfl
  have hothers := h.others hunderway
  have hnone : ∀ {j save'}, (Function.update s.phase i (.saved save) j).underway ≠ some save' := by
    intro j save' hj
    obtain rfl := only_underway hothers hj
    rw [Function.update_self] at hj
    cases hj
  rw [Disk.rename, htemp] at hrename
  cases hrename
  refine ⟨(h.temp ino htemp).1, fun ino' hino' => (Option.not_mem_none _ hino').elim, hfile,
    fun j k _ _ hj _ => (hnone hj).elim, fun j save' ino offset hj => ?_, fun j save' hj => ?_⟩
  · simp only [State.phase_goTo] at hj
    exact (@hnone j save' (by rw [hj]; rfl)).elim
  · simp only [State.phase_goTo] at hj
    exact (@hnone j save' (by rw [hj]; rfl)).elim

theorem Whole.step {startUp : Config ρ} {initial : List UInt8} {s s' : State toml}
    {e : Nat × Action ρ} (hl : LockHeld s) (h : Whole initial s) (halone : Alone s e)
    (hs : Settings.step toml startUp s e = some s') : Whole initial s' := by
  obtain ⟨i, a⟩ := e
  cases step_moves hs with
  | answered status text _ _ _ => exact h.quiet rfl rfl rfl rfl
  | checked request _ => exact h.quiet rfl rfl rfl rfl
  | waits change _ => exact h.quiet rfl rfl rfl rfl
  | locks change _ _ => exact h.quiet rfl rfl rfl rfl
  | reads username password _ => exact h.quiet rfl rfl rfl rfl
  | beginsSettings request save _ _ _ => exact h.quiet rfl rfl rfl rfl
  | beginsDelete username save _ _ _ => exact h.quiet rfl rfl rfl rfl
  | beginsPut username hash users save _ _ _ => exact h.quiet rfl rfl rfl rfl
  | creates save hphase => exact h.creates rfl fun j _ => none_underway hl hphase halone j
  | writes save ino offset n hphase hn => exact h.writes hphase hn
  | syncs save ino hphase => exact h.syncs hphase
  | renames save disk hphase hrename => exact h.renames hphase hrename
  | publishes save edit _ _ => exact h.quiet rfl rfl rfl rfl

/-! ## Runs -/

theorem Starts.lockHeld {startUp : Config ρ} {initial : List UInt8} {s : State toml}
    (h : Starts startUp initial s) : LockHeld s := by
  intro i hi
  rw [h.phase i] at hi
  cases hi

theorem Starts.whole {startUp : Config ρ} {initial : List UInt8} {s : State toml}
    (h : Starts startUp initial s) : Whole initial s := by
  refine ⟨h.target_lt, h.temp, by rw [h.config, State.lastText, h.log]; rfl,
    fun i _ _ _ hi => ?_, fun i save ino offset hi => ?_, fun i save hi => ?_⟩
  all_goals
    rw [h.phase i] at hi
    cases hi

theorem reach_lockHeld {startUp : Config ρ} {initial : List UInt8}
    {ok : State toml → Nat × Action ρ → Prop} {s : State toml}
    (h : Reach (Starts startUp initial) (step toml startUp) ok s) : LockHeld s :=
  h.invariant (fun _ hs => hs.lockHeld) fun _ _ _ hl _ hs => hl.step hs

/-- In every run in which saves are alone the files are as they should be. -/
theorem reach_whole {startUp : Config ρ} {initial : List UInt8}
    {ok : State toml → Nat × Action ρ → Prop} (hok : ∀ s e, ok s e → Alone s e) {s : State toml}
    (h : Reach (Starts startUp initial) (step toml startUp) ok s) : Whole initial s :=
  h.invariant_with (fun _ => reach_lockHeld) (fun _ hs => hs.whole)
    fun _ _ _ hl hw halone hs => hw.step hl (hok _ _ halone) hs

/-- In every state of a run in which no save makes the temporary file while another is between
making and renaming it, the config file is the whole text of the save that was renamed last, or
what it was at the start. -/
theorem config_never_torn (startUp : Config ρ) (initial : List UInt8) (s : State toml)
    (h : Reach (Starts startUp initial) (step toml startUp) Alone s) :
    s.disk.config = s.lastText initial :=
  (reach_whole (fun _ _ => id) h).config

/-! ## Two saves, and one -/

/-- The characters of a text that has only those of ASCII. -/
def ascii (s : String) : List UInt8 := s.toList.map fun c => UInt8.ofNat c.toNat

/-- The lines of a `config.toml` for some of the settings. -/
def configToml (c : Config Unit) : Except String (List UInt8) :=
  let flag (b : Bool) := ascii (if b then "true" else "false")
  let mode := ascii (match c.gpsMode with | .disabled => "0" | .fixed => "1" | .api => "2")
  let user (u : WebUser) :=
    ascii "[[web_users]]\nusername = \"" ++ ascii u.username ++ ascii "\"\npassword_hash = \"" ++
      ascii u.passwordHash ++ ascii "\"\n"
  .ok (ascii "terminal_enabled = " ++ (flag c.terminalEnabled ++ ascii "\ngps_mode = " ++ mode ++
    ascii "\ngps_api_open = " ++ flag c.gpsApiOpen ++ ascii "\n" ++ c.webUsers.flatMap user))

/-- The configuration of the examples, which is the default. -/
def plainConfig : Config Unit := { other := () }

/-- Its text. -/
def plainText : List UInt8 := (configToml plainConfig).toOption.getD []

/-- A daemon that was started with it. -/
def plainStart : State configToml where
  disk := { files := fun _ => plainText, next := 1, temp := none, target := 0 }
  webUsers := []
  lock := none
  phase := fun _ => .away
  log := []

theorem plainStart_starts : Starts plainConfig plainText plainStart := by
  refine ⟨rfl, Nat.zero_lt_one, fun _ h => (Option.not_mem_none _ h).elim, rfl, rfl, fun _ => rfl, rfl⟩

/-- Two saves of the settings. The second one empties the file the first one has written, and the
first one renames it with ten bytes in it. -/
def tornRun : List (Nat × Action Unit) :=
  [(0, .setConfig { plainConfig with gpsMode := .api } false), (0, .readUsers),
    (1, .setConfig plainConfig false), (1, .readUsers),
    (0, .create (.ok ())), (0, .write 59), (0, .sync (.ok ())),
    (1, .create (.ok ())), (1, .write 10), (0, .rename (.ok ()))]

/-- Then the config file has ten bytes, which is the text of no configuration. -/
theorem config_torn :
    ∃ s, Reach (Starts plainConfig plainText) (step configToml plainConfig) (fun _ _ => True) s ∧
      s.disk.config = ascii "terminal_e" ∧ ∀ c, configToml c ≠ .ok (ascii "terminal_e") := by
  have hrun : (tornRun.foldlM (step configToml plainConfig) plainStart).map (·.disk.config) =
      some (ascii "terminal_e") := by decide +kernel
  obtain ⟨s, hs, hconfig⟩ := Option.map_eq_some_iff.mp hrun
  refine ⟨s, Reach.of_foldlM (.init plainStart_starts) hs, hconfig, fun c hc => ?_⟩
  have hlength := congrArg List.length (Except.ok.inj hc)
  rw [List.length_append] at hlength
  have hlong : (ascii "terminal_enabled = ").length = 19 := by decide
  have hshort : (ascii "terminal_e").length = 10 := by decide
  omega

/-- A step of a request is none of the others'. -/
theorem step_other {startUp : Config ρ} {s s' : State toml} {i j : Nat} {a : Action ρ}
    (hs : step toml startUp s (i, a) = some s') (hj : j ≠ i) : s'.phase j = s.phase j := by
  cases step_moves hs <;> exact Function.update_of_ne hj ..

/-- In a run in which there is only one request there is no other one. -/
theorem away_of_ne {startUp : Config ρ} {initial : List UInt8} {i : Nat} {s : State toml}
    (h : Reach (Starts startUp initial) (step toml startUp) (fun _ e => e.1 = i) s) :
    ∀ j ≠ i, s.phase j = .away := by
  induction h with
  | init hs => exact fun j _ => hs.phase j
  | step _ he hstep ih =>
    intro j hj
    rw [step_other hstep (he ▸ hj)]
    exact ih j hj

/-- It is alone. -/
theorem alone_of_away {s : State toml} {e : Nat × Action ρ} (h : ∀ j ≠ e.1, s.phase j = .away) :
    Alone s e := by
  obtain ⟨i, a⟩ := e
  cases a with
  | create io =>
    intro save hsave j other hother
    by_cases hji : j = i
    · rw [hji, hsave] at hother
      cases hother
    · rw [h j hji] at hother
      cases hother
  | _ => trivial

/-- A save of the settings that nothing else happens to. -/
def savedRun : List (Nat × Action Unit) :=
  [(0, .setConfig { plainConfig with gpsMode := .api } false), (0, .readUsers),
    (0, .create (.ok ())), (0, .write 20), (0, .write 39), (0, .sync (.ok ())), (0, .rename (.ok ())),
    (0, .finish)]

theorem config_never_torn_saved :
    ∃ s, Reach (Starts plainConfig plainText) (step configToml plainConfig) Alone s ∧
      s.log.length = 1 ∧ s.disk.config = s.lastText plainText := by
  have hrun : (savedRun.foldlM (fun s e => if e.1 = 0 then step configToml plainConfig s e else none)
      plainStart).map (·.log.length) = some 1 := by decide +kernel
  obtain ⟨s, hs, hlog⟩ := Option.map_eq_some_iff.mp hrun
  have hone : Reach (Starts plainConfig plainText) (step configToml plainConfig)
      (fun _ e => e.1 = 0) s := Reach.of_foldlM_guarded (.init plainStart_starts) hs
  have halone := hone.strengthen fun s e hr he => alone_of_away (e := e) (he ▸ away_of_ne hr)
  exact ⟨s, halone, hlog, config_never_torn plainConfig plainText s halone⟩

end Rayhunter.Settings
