import Rayhunter.Recorder.Lasting

/-!
# Making room before giving up

Where the task runs `prune_clean_recordings` in a step (`Recorder.Prunes`), and where it stops a
recording or refuses to start one over a reading of free space (`Recorder.GivesUp`). The write loop
makes room between the two limits and stops below the lower one without trying; a start makes room by
one reading and decides by the next. Elsewhere room is made first (`room_made_iff`).
-/

namespace Rayhunter

open Storage Runs

/-- What the space checks of the task go by: the two limits, and what may be deleted. -/
structure SpaceSettings where
  minSpaceToStartMb : UInt64
  minSpaceToContinueMb : UInt64
  autoDeleteClean : Bool
  uploadsConfigured : Bool
  deriving DecidableEq, Repr

namespace Recorder

variable [Decoders] [Detectors]

/-! ## The settings stay -/

/-- The settings of the recorder's task. -/
def settings (r : Recorder) : SpaceSettings :=
  ⟨r.task.minSpaceToStartMb, r.task.minSpaceToContinueMb, r.task.autoDeleteClean,
    r.task.uploadsConfigured⟩

/-- The settings last, whatever packet timestamp is known. -/
theorem settings_of_after {r r' : Recorder} {newest : Option Int}
    (h : r'.lasting = r.lasting.after newest) : r'.settings = r.settings := by
  have hsettings := congrArg (fun t : DiagTask => (⟨t.minSpaceToStartMb, t.minSpaceToContinueMb,
    t.autoDeleteClean, t.uploadsConfigured⟩ : SpaceSettings)) h
  exact hsettings

theorem settings_of_lasting {r r' : Recorder} (h : r'.lasting = r.lasting) :
    r'.settings = r.settings :=
  settings_of_after (h.trans (DiagTask.after_none _).symm)

/-- A check of the space comes out the same under the same settings. -/
theorem checkSpace_congr {r r' : Recorder} (h : r'.settings = r.settings) (reading : DiskReading) :
    r'.checkSpace reading = r.checkSpace reading := by
  unfold settings at h
  simp only [SpaceSettings.mk.injEq] at h
  unfold checkSpace
  rw [h.1, h.2.1]

variable [Gzip] [SerdeJson] [Chrono] [Toml] [Sidecar] [Build]

/-! ## Starts refused for want of space -/

/-- A reading below a limit. -/
def Below (reading : DiskReading) (limit : UInt64) : Prop :=
  ∃ availableBytes, reading = .ok availableBytes ∧ availableMb availableBytes < limit

omit [Gzip] [SerdeJson] [Chrono] [Toml] [Sidecar] [Build] in
/-- A start is refused where the reading is low, for the limit that it is below. -/
theorem spaceRefusal_cases (r : Recorder) (reading : DiskReading) :
    ((r.checkSpace reading).isLow = false ∧ r.spaceRefusal reading = none) ∨
    ((r.checkSpace reading).isLow = true ∧ ∃ mb limit,
      r.spaceRefusal reading = some (.insufficientDiskSpace mb limit) ∧ Below reading limit) := by
  unfold spaceRefusal
  cases hc : r.checkSpace reading with
  | ok mb => exact .inl ⟨rfl, rfl⟩
  | failed => exact .inl ⟨rfl, rfl⟩
  | critical mb =>
    refine .inr ⟨rfl, mb, _, rfl, ?_⟩
    unfold checkSpace checkDiskSpace at hc
    split at hc
    · cases hc
    · split at hc
      · next b hlow => exact ⟨b, rfl, hlow⟩
      · split at hc <;> cases hc
  | warning mb =>
    refine .inr ⟨rfl, mb, _, rfl, ?_⟩
    unfold checkSpace checkDiskSpace at hc
    split at hc
    · cases hc
    · split at hc
      · cases hc
      · split at hc
        · next b _ hlow => exact ⟨b, rfl, hlow⟩
        · cases hc

omit [Decoders] [Detectors] [Gzip] [SerdeJson] [Chrono] in
/-- A new entry fails for other reasons. -/
theorem newEntry_ne_insufficient (s : Storage) (gpsMode : GpsMode) (io : NewEntryIo)
    (mb limit : UInt64) :
    (s.newEntry gpsMode io).1 ≠ .error (.insufficientDiskSpace mb limit) := by
  have hclaim : ∀ n attempts last (s : Storage),
      (claimFiles gpsMode n attempts last s).1 ≠ .error (.insufficientDiskSpace mb limit) := by
    intro n
    induction n with
    | zero => exact fun _ _ _ h => (by cases h)
    | succ n ih =>
      intro attempts last s h
      rw [claimFiles] at h
      split at h
      · split at h
        · exact ih _ _ _ h
        · cases h
      · split at h
        · next e d hc =>
          unfold claimCompanions at hc
          split at hc
          · cases hc; cases h
          · split at hc
            · cases hc; cases h
            · cases hc
        · cases h
  intro h
  unfold newEntry at h
  have hfiles := hclaim MAX_ATTEMPTS io.attempts none (s.closeOpenEntry io.finish)
  generalize claimFiles gpsMode MAX_ATTEMPTS io.attempts none (s.closeOpenEntry io.finish) = q
    at h hfiles
  obtain ⟨result, s₁⟩ := q
  cases result with
  | error e => exact hfiles h
  | ok entry =>
    simp only [writeManifest] at h
    cases hf : io.manifest.fault with
    | none => simp only [hf] at h; cases h
    | some f => simp only [hf] at h; cases h

omit [Gzip] [Chrono] [Toml] [Sidecar] in
theorem openWriters_ne_insufficient (r : Recorder) (entry : ManifestEntry) (io : StartIo)
    (mb limit : UInt64) :
    (r.openWriters entry io).1 ≠ .error (.insufficientDiskSpace mb limit) := by
  have hpos : (r.writeFixedPosition (entry.getFilepath .qmdl r.storage.store.path) io.gps).1 ≠
      .error (.insufficientDiskSpace mb limit) := by
    intro h
    unfold writeFixedPosition at h
    split at h
    · simp only at h
      split at h
      · next e he =>
        unfold openEntryGpsForAppend at he
        split at he
        · split at he <;> cases he
          cases h
        · cases he
      · cases h
      · split at h <;> cases h
    · cases h
  intro h
  simp only [openWriters] at h
  generalize r.writeFixedPosition _ io.gps = q at h hpos
  obtain ⟨result, r₁⟩ := q
  cases result with
  | error e => exact hpos h
  | ok u =>
    simp only at h
    split at h <;> cases h

omit [Chrono] in
/-- A start fails for want of space just where its last reading is low. -/
theorem startInner_insufficient_iff (r : Recorder) (io : StartIo) (mb limit : UInt64) :
    (r.startInner io).1 = .error (.insufficientDiskSpace mb limit) ↔
      r.spaceRefusal io.space = some (.insufficientDiskSpace mb limit) := by
  have hrefuse : (r.resetCounters.makeRoom io).spaceRefusal io.space = r.spaceRefusal io.space :=
    (spaceRefusal_congr (makeRoom_task r.resetCounters io) _).trans rfl
  unfold startInner
  simp only [hrefuse]
  cases hs : r.spaceRefusal io.space with
  | some e => simp
  | none =>
    rw [show (r.resetCounters.makeRoom io).finishRunning io.finish = r.ready io from rfl]
    have hnew := newEntry_ne_insufficient (r.ready io).storage (r.ready io).task.gpsMode io.entry
      mb limit
    simp only
    generalize (r.ready io).storage.newEntry _ io.entry = q at hnew ⊢
    obtain ⟨result, s⟩ := q
    cases result with
    | error e => simpa using hnew
    | ok entry => simpa using openWriters_ne_insufficient ((r.ready io).withStorage s) entry io mb limit

/-! ## What a step does about space -/

/-- The space check that a step comes to: a container is handled while something is recorded, and
enough has been written since the last. -/
def spaceCheck (r : Recorder) : RecorderStep → Option ContainerIo
  | .container container io | .injectDemo (some container) io =>
    if container.dataType = .userSpace ∧ r.task.state.isRecording = true ∧
        DISK_CHECK_BYTES_INTERVAL ≤ r.task.bytesSinceSpaceCheck then some io
    else none
  | _ => none

/-- The start a step comes to, with the recorder that is started. -/
def starting (r : Recorder) : RecorderStep → Option (Recorder × StartIo)
  | .startRecording io => some (r.withStoppedByUser false, io)
  | .switchStore path reason io => (r.resumesFrom path reason io).map (·, io.start)
  | op => (r.rotation op).map fun q => (rotated q, q.2.2.start)

/-- A step runs `prune_clean_recordings`: in the write loop between the two limits, or before a start
below either. -/
inductive Prunes (r : Recorder) (op : RecorderStep) : Prop
  | kept {io : ContainerIo} {mb : UInt64} (h : r.spaceCheck op = some io)
    (hauto : r.task.autoDeleteClean = true) (hlow : r.checkSpace io.reading = .warning mb)
  | started {r₁ : Recorder} {io : StartIo} (h : r.starting op = some (r₁, io))
    (hauto : r₁.task.autoDeleteClean = true) (hlow : (r₁.checkSpace io.first).isLow = true)

/-- A step stops a recording, or refuses to start one, over a reading below a limit, and leaves a
store. -/
inductive GivesUp (r : Recorder) (op : RecorderStep) : Storage → DiskReading → UInt64 → Prop
  | stopped {io : ContainerIo} {r' : Recorder} (h : r.spaceCheck op = some io)
    (hstop : r.keepSpace io = .error r') :
    GivesUp r op r'.storage io.reading r.task.minSpaceToContinueMb
  | refused {r₁ : Recorder} {io : StartIo} {mb limit : UInt64} (h : r.starting op = some (r₁, io))
    (hrefused : (r₁.startInner io).1 = .error (.insufficientDiskSpace mb limit)) :
    GivesUp r op (r₁.startInner io).2.storage io.space limit

/-- No store is left with a recording that may be deleted, whatever reading its report comes to. -/
def NothingLeft (s : Storage) (uploadsConfigured : Bool) : Prop :=
  ∀ index report, verdictFor s index uploadsConfigured report ≠ .clean

/-- Room is made before anything is given up: no check in the write loop reads less than the lower
limit, and no start has a low reading only after it would have made room, unless the write loop has
made some in the same step. -/
structure RoomFirst (r : Recorder) (op : RecorderStep) : Prop where
  kept : ∀ io, r.spaceCheck op = some io → ∀ mb, r.checkSpace io.reading ≠ .critical mb
  started : ∀ r₁ io, r.starting op = some (r₁, io) → (r.checkSpace io.space).isLow = true →
    (r.checkSpace io.first).isLow = true ∨
      ∃ io', r.spaceCheck op = some io' ∧ (r.checkSpace io'.reading).isLow = true

section
omit [Gzip] [SerdeJson] [Chrono] [Toml] [Sidecar] [Build]

/-- The space check is one of a container that is recorded. -/
theorem spaceCheck_eq_some {r : Recorder} {op : RecorderStep} {io : ContainerIo}
    (h : r.spaceCheck op = some io) :
    r.task.state.isRecording = true ∧ DISK_CHECK_BYTES_INTERVAL ≤ r.task.bytesSinceSpaceCheck ∧
      ∃ container, container.dataType = .userSpace ∧
        (op = .container container io ∨ op = .injectDemo (some container) io) := by
  unfold spaceCheck at h
  split at h
  · split at h
    · next hif =>
      cases h
      exact ⟨hif.2.1, hif.2.2, _, hif.1, .inl rfl⟩
    · cases h
  · split at h
    · next hif =>
      cases h
      exact ⟨hif.2.1, hif.2.2, _, hif.1, .inr rfl⟩
    · cases h
  · cases h

end

omit [Chrono] [Build] in
/-- The write loop stops below the lower limit, and makes room between the two. -/
theorem keepSpace_cases {r : Recorder}
    (hdue : DISK_CHECK_BYTES_INTERVAL ≤ r.task.bytesSinceSpaceCheck) (io : ContainerIo) :
    ((∃ mb, r.checkSpace io.reading = .critical mb) ∧ ∃ r', r.keepSpace io = .error r') ∨
    ((∀ mb, r.checkSpace io.reading ≠ .critical mb) ∧ ∃ r', r.keepSpace io = .ok r' ∧
      ((∃ mb, r.checkSpace io.reading = .warning mb) → r.task.autoDeleteClean = true →
        r'.storage = (pruneCleanRecordings r.storage r.task.minSpaceToStartMb
          r.task.uploadsConfigured io.prune).2)) := by
  have hcheck : (r.withSpaceCheck 0 r.task.lowSpaceWarned).checkSpace io.reading =
      r.checkSpace io.reading := rfl
  unfold keepSpace
  rw [if_neg (by omega)]
  simp only [hcheck]
  cases hc : r.checkSpace io.reading with
  | critical mb => exact .inl ⟨⟨mb, rfl⟩, _, rfl⟩
  | ok mb => exact .inr ⟨fun _ h => (by cases h), _, rfl, fun ⟨_, h⟩ => (by cases h)⟩
  | failed => exact .inr ⟨fun _ h => (by cases h), _, rfl, fun ⟨_, h⟩ => (by cases h)⟩
  | warning mb =>
    refine .inr ⟨fun _ h => (by cases h), ?_⟩
    simp only
    generalize hp : (if (r.withSpaceCheck 0 r.task.lowSpaceWarned).task.autoDeleteClean = true then
      pruneCleanRecordings (r.withSpaceCheck 0 r.task.lowSpaceWarned).storage
        (r.withSpaceCheck 0 r.task.lowSpaceWarned).task.minSpaceToStartMb
        (r.withSpaceCheck 0 r.task.lowSpaceWarned).task.uploadsConfigured io.prune
      else (0, (r.withSpaceCheck 0 r.task.lowSpaceWarned).storage)) = p
    have hstorage : r.task.autoDeleteClean = true → p.2 = (pruneCleanRecordings r.storage
        r.task.minSpaceToStartMb r.task.uploadsConfigured io.prune).2 := by
      intro hauto
      rw [← hp]
      exact congrArg Prod.snd (if_pos hauto)
    split
    · exact ⟨_, rfl, fun _ => hstorage⟩
    · split
      · exact ⟨_, rfl, fun _ => hstorage⟩
      · exact ⟨_, rfl, fun _ => hstorage⟩

omit [Build] in
/-- A recording that is stopped for want of space is not rotated. -/
theorem starting_of_stopped {r r' : Recorder} {op : RecorderStep} {io : ContainerIo}
    (h : r.spaceCheck op = some io) (hstop : r.keepSpace io = .error r') : r.starting op = none := by
  obtain ⟨hrec, -, container, hd, hop⟩ := spaceCheck_eq_some h
  obtain ⟨qw, aw, hstate⟩ := DiagState.isRecording_iff.1 hrec
  have hnone : ∀ demo, r.rotationOf container demo io = none := by
    intro demo
    unfold rotationOf recordContainer
    simp only [hstate, hstop]
    split <;> rfl
  rcases hop with rfl | rfl
  · simp only [starting, rotation, hnone]
    rfl
  · simp only [starting, rotation, hnone]
    rfl

omit [Build] in
/-- A step starts a recording under the settings it began with. -/
theorem settings_starting {r r₁ : Recorder} {op : RecorderStep} {io : StartIo}
    (h : r.starting op = some (r₁, io)) : r₁.settings = r.settings := by
  have hrotation : (r.rotation op).map (fun q => (rotated q, q.2.2.start)) = some (r₁, io) →
      r₁.settings = r.settings := by
    intro h
    obtain ⟨q, hq, hpair⟩ := Option.map_eq_some_iff.1 h
    cases hpair
    exact settings_of_after (lasting_rotated hq)
  cases op with
  | startRecording io => cases h; rfl
  | switchStore path reason io =>
    obtain ⟨r₂, hr₂, hpair⟩ := Option.map_eq_some_iff.1 h
    cases hpair
    exact settings_of_lasting (lasting_resumesFrom hr₂)
  | _ => exact hrotation h

/-- That is the start the step ends with. -/
theorem step_of_starting {r r₁ : Recorder} {op : RecorderStep} {io : StartIo}
    (h : r.starting op = some (r₁, io)) :
    r.step op = some (r₁.start io).2 ∨
      ∃ q, r.rotation op = some q ∧ (r₁, io) = (rotated q, q.2.2.start) ∧
        r.step op = some (q.1.rotate q.2.1 q.2.2) := by
  have hrotation : ∀ {container demo io'}, r.rotation op = r.rotationOf container demo io' →
      r.step op = some (r.processContainerInner container demo io') →
      (r.rotation op).map (fun q => (rotated q, q.2.2.start)) = some (r₁, io) →
      ∃ q, r.rotation op = some q ∧ (r₁, io) = (rotated q, q.2.2.start) ∧
        r.step op = some (q.1.rotate q.2.1 q.2.2) := by
    intro container demo io' hrot hstep h
    obtain ⟨q, hq, hpair⟩ := Option.map_eq_some_iff.1 h
    refine ⟨q, hq, hpair.symm, ?_⟩
    rw [hrot] at hq
    unfold rotationOf at hq
    split at hq
    · cases hq
    · next hd =>
      obtain ⟨reason, hreason, rfl⟩ := Option.map_eq_some_iff.1 hq
      rw [hstep, processContainerInner, if_neg hd]
      generalize r.recordContainer container demo io' = p at hreason ⊢
      obtain ⟨r₂, reason'⟩ := p
      cases hreason
      rfl
  cases op with
  | startRecording io => cases h; exact .inl rfl
  | switchStore path reason io =>
    obtain ⟨r₂, hr₂, hpair⟩ := Option.map_eq_some_iff.1 h
    cases hpair
    rcases r.switchStore_cases path reason io with ⟨hnone, -⟩ | ⟨r₃, hr₃, -, -, heq, -⟩
    · rw [hr₂] at hnone
      cases hnone
    · rw [hr₂] at hr₃
      cases hr₃
      exact .inl (congrArg some heq)
  | container container io => exact .inr (hrotation rfl rfl h)
  | injectDemo container io =>
    cases container with
    | none => cases h
    | some container => exact .inr (hrotation rfl rfl h)
  | _ => cases h

/-- Below the lower limit the write loop gives up without making room. -/
theorem gives_up_of_critical {r : Recorder} {op : RecorderStep} {io : ContainerIo} {mb : UInt64}
    (hcheck : r.spaceCheck op = some io) (hcrit : r.checkSpace io.reading = .critical mb) :
    ∃ s, r.GivesUp op s io.reading r.task.minSpaceToContinueMb ∧ ¬ r.Prunes op := by
  rcases keepSpace_cases (spaceCheck_eq_some hcheck).2.1 io with ⟨-, r', hstop⟩ | ⟨hnot, -⟩
  · refine ⟨_, .stopped hcheck hstop, fun hprunes => ?_⟩
    cases hprunes with
    | kept hcheck' _ hwarn =>
      rw [hcheck] at hcheck'
      cases hcheck'
      rw [hcrit] at hwarn
      cases hwarn
    | started hstart =>
      rw [starting_of_stopped hcheck hstop] at hstart
      cases hstart
  · exact absurd hcrit (hnot mb)

/-- **Room is made before a recording is given up**, in any step of any run with automatic deletion
on, just where no check in the write loop reads less than the lower limit, and no start has a low
reading only after it would have made room. -/
theorem room_made_iff {config : RecorderConfig} (hauto : config.autoDeleteClean = true)
    {r : Recorder} (h : Reach (Fresh config) Recorder.step (fun _ _ => True) r)
    (op : RecorderStep) :
    (∀ s reading limit, r.GivesUp op s reading limit →
      r.Prunes op ∧ (NothingLeft s config.uploadsConfigured ∨ Below reading limit)) ↔
      r.RoomFirst op := by
  have hsettings : r.settings.autoDeleteClean = true := by
    have hinit : ∀ s, Fresh config s → s.settings.autoDeleteClean = true := by
      intro s hs
      unfold settings
      rw [hs.task]
      exact hauto
    have hstep : ∀ (s : Recorder) (op : RecorderStep) (s' : Recorder),
        s.settings.autoDeleteClean = true → True → s.step op = some s' →
          s'.settings.autoDeleteClean = true := by
      intro s op s' hi _ hst
      rw [settings_of_after (lasting_step hst)]
      exact hi
    exact h.invariant hinit hstep
  constructor
  · refine fun hp => ⟨fun io hcheck mb hcrit => ?_, fun r₁ io hstart hlow => ?_⟩
    · obtain ⟨s, hgives, hnot⟩ := gives_up_of_critical hcheck hcrit
      exact hnot (hp _ _ _ hgives).1
    · have hsame := settings_starting hstart
      rw [← checkSpace_congr hsame] at hlow ⊢
      rcases r₁.spaceRefusal_cases io.space with ⟨hroomy, -⟩ | ⟨-, mb, limit, hrefused, -⟩
      · rw [hroomy] at hlow
        cases hlow
      · have herr := (startInner_insufficient_iff r₁ io mb limit).2 hrefused
        obtain ⟨hprunes, -⟩ := hp _ _ _ (.refused hstart herr)
        cases hprunes with
        | kept hcheck _ hwarn => exact .inr ⟨_, hcheck, by rw [hwarn]; rfl⟩
        | started hstart' _ hfirst =>
          rw [hstart] at hstart'
          cases hstart'
          exact .inl hfirst
  · rintro ⟨hkept, hstarted⟩ s reading limit hgives
    cases hgives with
    | @stopped io r' hcheck hstop =>
      rcases keepSpace_cases (spaceCheck_eq_some hcheck).2.1 io with ⟨⟨mb, hcrit⟩, -⟩ | ⟨-, r'', hok, -⟩
      · exact absurd hcrit (hkept io hcheck mb)
      · rw [hok] at hstop
        cases hstop
    | @refused r₁ io mb _ hstart hrefused =>
      have hsame := settings_starting hstart
      have hauto₁ : r₁.task.autoDeleteClean = true := by
        rw [← hsame] at hsettings
        exact hsettings
      have hrefusal := (startInner_insufficient_iff r₁ io mb limit).1 hrefused
      rcases r₁.spaceRefusal_cases io.space with ⟨-, hnone⟩ | ⟨hlow, mb', limit', hsome, hbelow⟩
      · rw [hnone] at hrefusal
        cases hrefusal
      · rw [hsome] at hrefusal
        cases hrefusal
        refine ⟨?_, .inr hbelow⟩
        rw [checkSpace_congr hsame] at hlow
        rcases hstarted r₁ io hstart hlow with hfirst | ⟨io', hcheck, hlow'⟩
        · rw [← checkSpace_congr hsame] at hfirst
          exact .started hstart hauto₁ hfirst
        · cases hc : r.checkSpace io'.reading with
          | critical mb => exact absurd hc (hkept io' hcheck mb)
          | warning mb => exact .kept hcheck hsettings hc
          | ok mb => rw [hc] at hlow'; cases hlow'
          | failed => rw [hc] at hlow'; cases hlow'

/-! ## A device with the limits it comes with -/

/-- The configuration a device comes with, with automatic deletion on. -/
def pruningConfig : RecorderConfig := { defaultConfig with autoDeleteClean := true }

/-- The recorder of such a device before it has recorded anything. -/
def pruningRecorder : Recorder := { blankRecorder with task := .new pruningConfig }

/-- A start of a device that is full and stays so. -/
def fullStart : StartIo :=
  { startAt anInstant with
    first := diskFull
    prune := ⟨diskFull, fun _ => { reading := diskFull }⟩
    space := diskFull }

omit [Decoders] [Detectors] [Gzip] [SerdeJson] [Chrono] [Toml] [Sidecar] [Build] in
/-- A start on a full device makes room before it is refused. -/
theorem room_made_iff_full :
    let _ := nasDecoders
    let _ := nullCipherDetectors
    let _ := storedGzip
    let _ := jsonText
    let _ := sidecarJson
    let _ := oneInstant
    let _ := deviceBuild
    let _ := tomlAt "2024-08-19T03:33:54+00:00"
    (∃ s limit, pruningRecorder.GivesUp (.startRecording fullStart) s diskFull limit) ∧
      pruningRecorder.Prunes (.startRecording fullStart) := by
  let _ := nasDecoders
  let _ := nullCipherDetectors
  let _ := storedGzip
  let _ := jsonText
  let _ := sidecarJson
  let _ := oneInstant
  let _ := deviceBuild
  let _ := tomlAt "2024-08-19T03:33:54+00:00"
  intro _ _ _ _ _ _ _ _
  have hrefused : ((pruningRecorder.withStoppedByUser false).startInner fullStart).1 =
      .error (.insufficientDiskSpace 0 1) := (startInner_insufficient_iff _ _ _ _).2 rfl
  have hstarting : pruningRecorder.starting (.startRecording fullStart) =
      some (pruningRecorder.withStoppedByUser false, fullStart) := rfl
  have hgives := GivesUp.refused hstarting hrefused
  have hauto : pruningConfig.autoDeleteClean = true := rfl
  have hroom : pruningRecorder.RoomFirst (.startRecording fullStart) := by
    refine ⟨fun io h => (by cases h), fun r₁ io h _ => .inl ?_⟩
    cases h
    rfl
  exact ⟨⟨_, _, hgives⟩, ((room_made_iff hauto (.init ⟨rfl, rfl, rfl, rfl, rfl, rfl⟩) _).2
    hroom _ _ _ hgives).1⟩

omit [SerdeJson] [Chrono] [Build] in
/-- A container that is stored without a fault, where the size of a recording is not limited. -/
theorem storeContainer_containerAt {r : Recorder} {i : Nat}
    (hcurrent : r.storage.store.currentEntry = some i) (hsize : r.task.maxRecordingBytes = none)
    (htime : r.task.maxRecordingDuration = none) (qw : QmdlWriter) (aw : AnalysisWriter)
    (container : MessagesContainer) (now : DateTime) :
    ∃ r' qw', r.storeContainer qw aw container (containerAt now) = .ok (r', qw', none) ∧
      r'.task.bytesSinceSpaceCheck = r.task.bytesSinceSpaceCheck := by
  have hwritten : (qw.writeContainer container (containerAt now).write r.storage.device.disk).1 =
      .ok () := rfl
  unfold storeContainer
  generalize qw.writeContainer container _ r.storage.device.disk = p at hwritten ⊢
  obtain ⟨result, qw', d⟩ := p
  obtain rfl : result = .ok () := hwritten
  simp only
  have hstore : ((r.withDisk d).withState (.recording qw' aw)).storage.store.currentEntry = some i :=
    hcurrent
  have htask : ((r.withDisk d).withState (.recording qw' aw)).task =
      { r.task with state := .recording qw' aw } := rfl
  generalize (r.withDisk d).withState (.recording qw' aw) = r₁ at hstore htask ⊢
  have hmanifest : (r₁.storage.updateCurrentEntryQmdlSize qw'.position now {}).1 = .ok () := by
    unfold updateCurrentEntryQmdlSize
    rw [hstore]
    exact (writeManifest_isOk _ _).2 rfl
  have hnoted : ∀ s, ((r₁.note .size (some qw'.path)).withStorage s).task = r₁.task := fun s =>
    task_note ..
  simp only [QmdlWriter.size, containerAt, storage_note]
  generalize r₁.storage.updateCurrentEntryQmdlSize qw'.position now {} = q at hmanifest ⊢
  obtain ⟨result, s⟩ := q
  obtain rfl : result = .ok () := hmanifest
  refine ⟨(r₁.note .size (some qw'.path)).withStorage s, qw', ?_, by rw [hnoted, htask]⟩
  simp only [sizeReason, timeReason, task_note, htask, hsize, htime]
  rfl

omit [Gzip] [Toml] [Sidecar] [Build] in
/-- A container that is analysed is counted, and the recording goes on. -/
theorem analyzeContainer_bytes (r : Recorder) (qw : QmdlWriter) (aw : AnalysisWriter)
    (container : MessagesContainer) (demo : Bool) (faults : Nat → WriteFault) :
    (r.analyzeContainer qw aw container demo faults).task.state.isRecording = true ∧
      (r.analyzeContainer qw aw container demo faults).task.bytesSinceSpaceCheck =
        r.task.bytesSinceSpaceCheck + container.bytes.length := by
  have hannounce : ∀ (r : Recorder) maxType,
      (r.announce maxType).task.bytesSinceSpaceCheck = r.task.bytesSinceSpaceCheck := by
    intro r maxType
    unfold announce
    simp only
    by_cases hpos : EventType.informational < maxType
    · simp only [if_pos hpos]
      split <;> rfl
    · simp only [if_neg hpos]
      split <;> rfl
  simp only [analyzeContainer]
  generalize aw.analyzeContainerInner container _ faults _ = p
  obtain ⟨analysis, aw', d⟩ := p
  cases analysis with
  | ok maxType => exact ⟨by rw [(announce_same _ _).1]; rfl, by rw [hannounce]; rfl⟩
  | error e => exact ⟨by rw [(announce_same _ _).1]; rfl, by rw [hannounce]; rfl⟩

/-- A container of as many bytes as are written between two space checks. -/
def fillingContainer : MessagesContainer :=
  containerOf [List.replicate DISK_CHECK_BYTES_INTERVAL 0]

/-- A container that comes when the disk is full. -/
def fullContainer : ContainerIo := { containerAt anInstant with reading := diskFull }

/-- A recorder that is recording comes to a space check after such a container. -/
theorem filled_bytes {r : Recorder} {i : Nat} (hrec : r.task.state.isRecording = true)
    (hcurrent : r.storage.store.currentEntry = some i) (hzero : r.task.bytesSinceSpaceCheck = 0)
    (hsize : r.task.maxRecordingBytes = none) (htime : r.task.maxRecordingDuration = none)
    (now : DateTime) :
    let r' := r.processContainerInner fillingContainer false (containerAt now)
    r'.task.state.isRecording = true ∧ r'.task.bytesSinceSpaceCheck = DISK_CHECK_BYTES_INTERVAL := by
  obtain ⟨qw, aw, hstate⟩ := DiagState.isRecording_iff.1 hrec
  have hkeep : r.keepSpace (containerAt now) = .ok r := if_pos (by rw [hzero]; decide)
  obtain ⟨r₁, qw', hstore, hbytes⟩ :=
    storeContainer_containerAt hcurrent hsize htime qw aw fillingContainer now
  have hlength : fillingContainer.bytes.length = DISK_CHECK_BYTES_INTERVAL := by
    simp [fillingContainer, containerOf, MessagesContainer.bytes]
  intro r'
  have hr' : r' = r₁.analyzeContainer qw' aw fillingContainer false (containerAt now).analysis := by
    show (if _ then _ else _) = _
    rw [if_neg (by simp [fillingContainer, containerOf]), recordContainer_of_stored hstate hkeep hstore]
  obtain ⟨hgoes, hcount⟩ :=
    r₁.analyzeContainer_bytes qw' aw fillingContainer false (containerAt now).analysis
  rw [hr']
  exact ⟨hgoes, by rw [hcount, hbytes, hzero, hlength, Nat.zero_add]⟩

omit [Decoders] [Detectors] [Gzip] [SerdeJson] [Chrono] [Toml] [Sidecar] [Build] in
/-- A recording that fills the disk is stopped with nothing deleted. -/
theorem stopped_without_room :
    let _ := nasDecoders
    let _ := nullCipherDetectors
    let _ := storedGzip
    let _ := jsonText
    let _ := sidecarJson
    let _ := oneInstant
    let _ := deviceBuild
    let _ := tomlAt "2024-08-19T03:33:54+00:00"
    ¬ ∀ (config : RecorderConfig) (r : Recorder), config.autoDeleteClean = true →
      Reach (Fresh config) Recorder.step (fun _ _ => True) r → ∀ op s reading limit,
      r.GivesUp op s reading limit →
        r.Prunes op ∧ (NothingLeft s config.uploadsConfigured ∨ Below reading limit) := by
  let _ := nasDecoders
  let _ := nullCipherDetectors
  let _ := storedGzip
  let _ := jsonText
  let _ := sidecarJson
  let _ := oneInstant
  let _ := deviceBuild
  let _ := tomlAt "2024-08-19T03:33:54+00:00"
  intro _ _ _ _ _ _ _ _ h
  have hstarted : Reach (Fresh pruningConfig) Recorder.step (fun _ _ => True) _ :=
    .step (.init (s := pruningRecorder) ⟨rfl, rfl, rfl, rfl, rfl, rfl⟩)
      (i := .startRecording (startAt anInstant)) trivial rfl
  have hfilled := hstarted.step (i := .container fillingContainer (containerAt anInstant)) trivial rfl
  obtain ⟨hrec, hbytes⟩ := filled_bytes (i := 0) (r := ((pruningRecorder.withStoppedByUser
    false).start (startAt anInstant)).2) (by decide +kernel) (by decide +kernel) (by decide +kernel)
    (by decide +kernel) (by decide +kernel) anInstant
  have hlimits : ∀ {r : Recorder}, r.settings = pruningRecorder.settings →
      r.checkSpace diskFull = .critical 0 := fun hs => (checkSpace_congr hs diskFull).trans rfl
  have hcheck : Recorder.spaceCheck _ (.container fillingContainer fullContainer) =
      some fullContainer := if_pos ⟨rfl, hrec, hbytes.ge⟩
  obtain ⟨s, hgives, hnot⟩ := gives_up_of_critical hcheck
    (hlimits ((settings_of_after (lasting_processContainerInner ..)).trans
      (settings_of_lasting (lasting_start ..))))
  exact hnot (h pruningConfig _ rfl hfilled _ _ _ _ hgives).1

end Recorder

end Rayhunter
