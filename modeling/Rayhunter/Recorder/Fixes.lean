import Rayhunter.Recorder.Space

/-!
# Positions and the packets they belong to

A position is written to the current recording with the packet timestamp the task knows last. That
one is the task's, and none of the transitions that open a recording forget it, so a position in a
recording without packets carries a timestamp from an earlier recording (`fix_of_earlier`). In a run
where no update comes between the opening of a recording and its first packet, unless there has been
no packet at all, every position carries a timestamp of its own recording (`fixes_in_time`).

`Tracked` puts beside a recorder what has come in: the timestamps of containers, the latest first,
of the current recording and of earlier ones, and the positions written.
-/

namespace Rayhunter

open Storage Runs

/-! ## What writing a position leaves on disk -/

namespace Recorder

variable [Decoders] [Detectors]

/-- A position with this packet timestamp is written to the current recording, and leaves a disk. -/
def Noted (r : Recorder) (latest : Option Int) (lat lon : Coordinate) (io : GpsIo) (d : Disk) :
    Prop :=
  ∃ i entry opened, r.storage.store.getCurrentEntry = some (i, entry) ∧
    openEntryGpsForAppend r.storage.device.disk (entry.getFilepath .gps r.storage.store.path)
      io.open = .ok (some opened) ∧
    d = appendLine opened (entry.getFilepath .gps r.storage.store.path)
      (gpsLine latest io.now lat lon) io.write

/-- An update finds a recording, and the file of its positions can be opened. -/
def writesUpdate (r : Recorder) (io : GpsIo) : Bool :=
  r.storage.store.getCurrentEntry.isSome && io.open.isNone

omit [Decoders] [Detectors] in
theorem openEntryGpsForAppend_eq_some {d : Disk} {p : FilePath} {fault : Option IoError}
    {opened : Disk} (h : openEntryGpsForAppend d p fault = .ok (some opened)) : fault = none := by
  unfold openEntryGpsForAppend at h
  cases fault with
  | none => rfl
  | some e =>
    simp only at h
    split at h <;> cases h

/-- An update writes a position with the timestamp the task knows, or does nothing. -/
theorem handleGpsUpdate_noted (r : Recorder) (lat lon : Coordinate) (io : GpsIo) :
    (r.writesUpdate io = false ∧ r.handleGpsUpdate lat lon io = r) ∨
    (r.writesUpdate io = true ∧ r.Noted r.task.latestPacketTimestamp lat lon io
      (r.handleGpsUpdate lat lon io).storage.device.disk) := by
  unfold handleGpsUpdate writesUpdate
  cases hget : r.storage.store.getCurrentEntry with
  | none => exact .inl ⟨rfl, rfl⟩
  | some p =>
    obtain ⟨i, entry⟩ := p
    simp only
    cases ho : openEntryGpsForAppend r.storage.device.disk
        (entry.getFilepath .gps r.storage.store.path) io.open with
    | error e =>
      cases hf : io.open with
      | none => rw [hf] at ho; cases ho
      | some e => exact .inl ⟨rfl, rfl⟩
    | ok opened =>
      cases opened with
      | none =>
        cases hf : io.open with
        | none => rw [hf] at ho; cases ho
        | some e => exact .inl ⟨rfl, rfl⟩
      | some opened =>
        refine .inr ⟨by rw [openEntryGpsForAppend_eq_some ho]; rfl, i, entry, opened, hget, ho, ?_⟩
        simp only [storage_note]
        rfl

/-- A configured position is written without a timestamp, if it is written. -/
theorem writeFixedPosition_noted (r : Recorder) (writer : FilePath) (io : GpsIo) :
    (r.writeFixedPosition writer io).2.storage = r.storage ∨
    ∃ lat lon, r.Noted none lat lon io
      (r.writeFixedPosition writer io).2.storage.device.disk := by
  unfold writeFixedPosition
  split
  · next lat lon i entry _ _ hget =>
    simp only
    split
    · exact .inl rfl
    · exact .inl rfl
    · next opened ho =>
      refine .inr ⟨lat, lon, i, entry, opened, hget, ho, ?_⟩
      split
      · simp only [storage_note]
        rfl
      · simp only [storage_note]
        rfl
  · exact .inl rfl

/-! ## Opening a recording -/

variable [Gzip] [SerdeJson] [Chrono] [Toml] [Sidecar] [Build]

/-- A step opens another recording: it starts one, and there is room. -/
def opens (r : Recorder) (op : RecorderStep) : Bool :=
  match r.starting op with
  | none => false
  | some (r₁, io) => (r₁.spaceRefusal io.space).isNone

omit [Build] in
theorem starting_of_rotation {r : Recorder} {op : RecorderStep}
    {q : Recorder × String × RotateIo} (h : r.rotation op = some q) :
    r.starting op = some (rotated q, q.2.2.start) := by
  cases op with
  | startRecording io => cases h
  | switchStore path reason io => cases h
  | container container io => exact congrArg (Option.map _) h
  | injectDemo container io => exact congrArg (Option.map _) h
  | _ => cases h

omit [Chrono] in
theorem StartOutcome.current {r : Recorder} {io : StartIo} {res : Except RecordingStoreError Unit}
    {v : View} (h : StartOutcome r io res v) (hs : (r.spaceRefusal io.space).isNone = false) :
    v.current = r.view.current := by
  cases h with
  | refused => rfl
  | unclaimed h => rw [h] at hs; cases hs
  | half h => rw [h] at hs; cases hs
  | started h => rw [h.space] at hs; cases hs

/-- **A step that opens no recording leaves the current one, or none.** -/
theorem current_of_not_opens {r r' : Recorder} {op : RecorderStep} (h : r.step op = some r')
    (hop : r.opens op = false) :
    r'.view.current = r.view.current ∨ r'.view.current = none := by
  unfold opens at hop
  have ho := step_outcome h
  generalize r'.view = v at ho ⊢
  cases ho with
  | quiet => exact .inl rfl
  | halted => exact .inr rfl
  | userStopped => exact .inr rfl
  | raised _ maxType =>
    rcases r.view.raised_cases maxType with heq | ⟨-, heq⟩
    · rw [heq]; exact .inl rfl
    · rw [heq]; exact .inl rfl
  | released => exact .inr rfl
  | userStarted io hstart ho =>
    subst hstart
    exact .inl (ho.current hop)
  | resumed path reason io r₁ hswitch hr hrel _ ho =>
    subst hswitch
    simp only [starting, hr, Option.map_some] at hop
    rw [ho.current hop]
    rcases hrel with hv | ⟨-, hv⟩
    · rw [hv]; exact .inr rfl
    · rw [hv]; exact .inl rfl
  | rotated q hrot _ _ hs =>
    simp only [starting_of_rotation hrot, hs.space, Option.isNone_none] at hop
    cases hop
  | unrotated => exact .inr rfl

end Recorder

/-! ## What has come in -/

/-- A position written to a recording: the packet timestamp it carries, and the newest timestamps of
the containers the recording had by then, the latest first. -/
structure Fix where
  latestPacketTimestamp : Option Int
  containers : List Int
  deriving DecidableEq, Repr

/-- The timestamp, if there is one, is that of a container of the recording. -/
def Fix.InTime (f : Fix) : Prop := ∀ ts, f.latestPacketTimestamp = some ts → ts ∈ f.containers

section
variable [Decoders] [Detectors]

/-- A recorder with the newest timestamps of the containers of its current recording and of earlier
ones, and the positions it has written where a fix came in. -/
structure Tracked where
  recorder : Recorder
  earlier : List Int := []
  containers : List Int := []
  fixes : List Fix := []

end

namespace Tracked

variable [Decoders] [Detectors] [Gzip] [SerdeJson] [Chrono] [Toml] [Sidecar] [Build]

/-- The position a step writes of a fix that comes in. -/
def fix? (t : Tracked) : RecorderStep → Option Fix
  | .gpsUpdate _ _ io =>
    if t.recorder.writesUpdate io then some ⟨t.recorder.task.latestPacketTimestamp, t.containers⟩
    else none
  | _ => none

/-- A step of the recorder, with what comes in. -/
def step (t : Tracked) (op : RecorderStep) : Option Tracked :=
  (t.recorder.step op).map fun recorder =>
    let containers := (t.recorder.newest op).toList ++ t.containers
    let fixes := (t.fix? op).toList ++ t.fixes
    if t.recorder.opens op then ⟨recorder, containers ++ t.earlier, [], fixes⟩
    else ⟨recorder, t.earlier, containers, fixes⟩

/-- The recorder when the task begins, before anything has come in. -/
structure Begun (config : RecorderConfig) (t : Tracked) : Prop where
  fresh : t.recorder.Fresh config
  earlier : t.earlier = []
  containers : t.containers = []
  fixes : t.fixes = []

/-- An update comes once the current recording has a packet, or before there has been any. -/
def Timely (t : Tracked) : RecorderStep → Prop
  | .gpsUpdate .. => t.containers = [] → t.earlier = []
  | _ => True

/-- The timestamp the task knows is the latest that has come in. -/
def Knows (t : Tracked) : Prop :=
  t.recorder.task.latestPacketTimestamp = (t.containers ++ t.earlier).head?

theorem knows_step {t t' : Tracked} {op : RecorderStep} (h : t.Knows)
    (hst : t.step op = some t') : t'.Knows := by
  obtain ⟨r, hr, rfl⟩ := Option.map_eq_some_iff.1 hst
  have hlast : r.task.latestPacketTimestamp =
      (t.recorder.newest op).or t.recorder.task.latestPacketTimestamp :=
    congrArg DiagTask.latestPacketTimestamp (Recorder.lasting_step hr)
  have hknows : r.task.latestPacketTimestamp =
      ((t.recorder.newest op).toList ++ t.containers ++ t.earlier).head? := by
    rw [hlast, h]
    cases t.recorder.newest op <;> rfl
  dsimp only
  split
  · exact hknows
  · exact hknows

theorem fixes_step {t t' : Tracked} {op : RecorderStep} (h : t.step op = some t') :
    t'.fixes = (t.fix? op).toList ++ t.fixes := by
  obtain ⟨r, -, rfl⟩ := Option.map_eq_some_iff.1 h
  dsimp only
  split <;> rfl

omit [Gzip] [SerdeJson] [Chrono] [Toml] [Sidecar] [Build] in
/-- A position that is written is in time just where the update is. -/
theorem fix_inTime_iff {t : Tracked} (h : t.Knows) {op : RecorderStep} {f : Fix}
    (hf : t.fix? op = some f) : f.InTime ↔ t.Timely op := by
  cases op with
  | gpsUpdate lat lon io =>
    simp only [fix?] at hf
    split at hf
    · cases hf
      show (∀ ts, t.recorder.task.latestPacketTimestamp = some ts → ts ∈ t.containers) ↔
        (t.containers = [] → t.earlier = [])
      rw [h]
      cases t.containers with
      | nil =>
        cases t.earlier with
        | nil => simp
        | cons ts earlier => simp
      | cons ts containers => simp
    · cases hf
  | _ => cases hf

/-- **Positions belong in time to their recording** in every run where no update comes before the
first packet of a recording that is not the first one with packets, and a configured position never
carries a timestamp. -/
theorem fixes_in_time {config : RecorderConfig} {t : Tracked}
    (h : Reach (Begun config) Tracked.step Timely t) :
    (∀ f ∈ t.fixes, f.InTime) ∧
    ∀ (r : Recorder) (writer : FilePath) (io : Recorder.GpsIo),
      (r.writeFixedPosition writer io).2.storage = r.storage ∨
      ∃ lat lon, r.Noted none lat lon io
        (r.writeFixedPosition writer io).2.storage.device.disk := by
  have hbegun : ∀ t, Begun config t → t.Knows := by
    intro t ht
    rw [Knows, ht.fresh.task, ht.containers, ht.earlier]
    rfl
  have hknows : ∀ t, Reach (Begun config) Tracked.step Timely t → t.Knows :=
    fun t ht => ht.invariant hbegun fun _ _ _ hi _ hst => knows_step hi hst
  have hnone : ∀ t, Begun config t → ∀ f ∈ t.fixes, f.InTime := by
    intro t ht f hf
    rw [ht.fixes] at hf
    cases hf
  refine ⟨h.invariant_with hknows hnone fun t op t' hk hi hok hst f hf => ?_,
    Recorder.writeFixedPosition_noted⟩
  rw [fixes_step hst] at hf
  rcases List.mem_append.1 hf with hf | hf
  · exact (fix_inTime_iff hk (Option.mem_toList.1 hf)).2 hok
  · exact hi f hf

/-! ## A device whose positions come from outside -/

/-- The configuration a device comes with, with positions taken from clients. -/
def apiConfig : RecorderConfig := { Recorder.defaultConfig with gpsMode := .api }

/-- The recorder of such a device before it has recorded anything. -/
def apiTracked : Tracked where
  recorder := { Recorder.blankRecorder with task := .new apiConfig }

omit [Gzip] [SerdeJson] [Chrono] [Toml] [Sidecar] [Build] in
theorem apiTracked_begun : Begun apiConfig apiTracked :=
  ⟨⟨rfl, rfl, rfl, rfl, rfl, rfl⟩, rfl, rfl, rfl⟩

omit [Decoders] [Detectors] [Gzip] [SerdeJson] [Chrono] [Toml] [Sidecar] [Build] in
/-- The position carries the timestamp of the container. -/
theorem fixes_in_time_fixed :
    let _ := nasDecoders
    let _ := nullCipherDetectors
    let _ := storedGzip
    let _ := jsonText
    let _ := sidecarJson
    let _ := oneInstant
    let _ := deviceBuild
    let _ := tomlAt "2024-08-19T03:33:54+00:00"
    ∃ t : Tracked, t.fixes = [⟨some 1724038434, [1724038434]⟩] ∧ ∀ f ∈ t.fixes, f.InTime := by
  let _ := nasDecoders
  let _ := nullCipherDetectors
  let _ := storedGzip
  let _ := jsonText
  let _ := sidecarJson
  let _ := oneInstant
  let _ := deviceBuild
  let _ := tomlAt "2024-08-19T03:33:54+00:00"
  intro _ _ _ _ _ _ _ _
  have hrun : Reach (Begun apiConfig) Tracked.step Timely _ :=
    .step (.step (.step (.init apiTracked_begun) (i := .startRecording (Recorder.startAt anInstant))
        trivial rfl)
      (i := .container (containerOf [nullCipherFrame]) (Recorder.containerAt anInstant)) trivial rfl)
      (i := .gpsUpdate "52.5" "13.4" { now := anInstant }) (fun _ => by decide +kernel) rfl
  exact ⟨_, by decide +kernel, (fixes_in_time hrun).1⟩

/-- A recording with a container, and a fix that comes in for the next one. -/
def restarted : List RecorderStep :=
  [.startRecording (Recorder.startAt anInstant),
    .container (containerOf [nullCipherFrame]) (Recorder.containerAt anInstant),
    .stopRecording (Recorder.finishAt anInstant),
    .startRecording (Recorder.startAt anInstant),
    .gpsUpdate "52.5" "13.4" { now := anInstant }]

omit [Decoders] [Detectors] [Gzip] [SerdeJson] [Chrono] [Toml] [Sidecar] [Build] in
/-- The position in the second recording carries the timestamp of the first one's container. -/
theorem fix_of_earlier :
    let _ := nasDecoders
    let _ := nullCipherDetectors
    let _ := storedGzip
    let _ := jsonText
    let _ := sidecarJson
    let _ := oneInstant
    let _ := deviceBuild
    let _ := tomlAt "2024-08-19T03:33:54+00:00"
    ¬ ∀ t, Reach (Begun apiConfig) Tracked.step (fun _ _ => True) t → ∀ f ∈ t.fixes, f.InTime := by
  let _ := nasDecoders
  let _ := nullCipherDetectors
  let _ := storedGzip
  let _ := jsonText
  let _ := sidecarJson
  let _ := oneInstant
  let _ := deviceBuild
  let _ := tomlAt "2024-08-19T03:33:54+00:00"
  intro _ _ _ _ _ _ _ _ h
  obtain ⟨t, hrun, hfixes⟩ : ∃ t, restarted.foldlM Tracked.step apiTracked = some t ∧
      t.fixes = [⟨some 1724038434, []⟩] := ⟨_, rfl, by decide +kernel⟩
  have hin := h t (Reach.of_foldlM (.init apiTracked_begun) hrun) _
    (hfixes ▸ List.mem_singleton_self _) _ rfl
  cases hin

end Tracked

end Rayhunter
