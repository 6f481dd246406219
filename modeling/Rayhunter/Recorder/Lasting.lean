import Rayhunter.Recorder.Capture

/-!
# What lasts of the recording task

What the task of a recorder holds is either blanked or counted anew as recordings come and go, or it
lasts (`Recorder.lasting`): what it was configured with, which nothing changes, and the packet
timestamp it knows, which a container with one that is recorded replaces (`Recorder.newest`) and no
start, stop, rotation or storage switch forgets (`lasting_step`).
-/

namespace Rayhunter

open Storage

section
variable [Decoders] [Detectors]

/-- The task once a container is recorded whose newest packet timestamp this is, if it has one. -/
def DiagTask.after (t : DiagTask) (newest : Option Int) : DiagTask :=
  { t with latestPacketTimestamp := newest.or t.latestPacketTimestamp }

@[simp] theorem DiagTask.after_none (t : DiagTask) : t.after none = t := rfl

end

namespace Recorder

variable [Decoders] [Detectors]

/-- What of the task neither a start nor a stop touches; the rest is blanked out. -/
def lasting (r : Recorder) : DiagTask :=
  { r.task with
    recordingStartedAt := none
    state := .stopped
    maxTypeSeen := .informational
    bytesSinceSpaceCheck := 0
    lowSpaceWarned := false
    stoppedByUser := false }

theorem lasting_of_task {r r' : Recorder} (h : r'.task = r.task) : r'.lasting = r.lasting := by
  unfold lasting
  rw [h]

variable [Gzip] [SerdeJson] [Chrono] [Toml] [Sidecar] [Build]

section
omit [SerdeJson] [Chrono] [Build]

@[simp] theorem lasting_finishCurrentEntry (r : Recorder) (reason : Option String)
    (io : FinishIo) : (r.finishCurrentEntry reason io).lasting = r.lasting := by
  unfold lasting
  rw [finishCurrentEntry_task]

@[simp] theorem lasting_stop (r : Recorder) (reason : Option String) (io : FinishIo) :
    (r.stop reason io).lasting = r.lasting :=
  lasting_finishCurrentEntry ..

end

omit [Gzip] [Chrono] [Toml] [Sidecar] in
theorem lasting_openWriters (r : Recorder) (entry : ManifestEntry) (io : StartIo) :
    (r.openWriters entry io).2.lasting = r.lasting := by
  have hpos := r.writeFixedPosition_task (entry.getFilepath .qmdl r.storage.store.path) io.gps
  simp only [openWriters]
  generalize r.writeFixedPosition _ io.gps = q at hpos ⊢
  obtain ⟨result, r₁⟩ := q
  have hsave : (r₁.saveSidecar io.sidecar).task = r.task := by
    rw [← hpos]
    unfold saveSidecar
    split <;> rfl
  cases result with
  | error e => exact lasting_of_task hpos
  | ok u =>
    simp only
    generalize AnalysisWriter.new _ _ _ io.analysis _ = q
    obtain ⟨result, d⟩ := q
    cases result with
    | error e => exact lasting_of_task hsave
    | ok aw =>
      have hlasting := lasting_of_task hsave
      unfold lasting at hlasting ⊢
      exact hlasting

omit [Chrono] in
@[simp] theorem lasting_start (r : Recorder) (io : StartIo) :
    (r.start io).2.lasting = r.lasting := by
  have hroom : (r.resetCounters.makeRoom io).lasting = r.lasting :=
    lasting_of_task (r := r.resetCounters) (makeRoom_task ..)
  have hready : (r.ready io).lasting = r.lasting := by
    unfold ready finishRunning
    split
    · rw [lasting_finishCurrentEntry, hroom]
    · exact hroom
  have hinner : (r.startInner io).2.lasting = r.lasting := by
    unfold startInner
    simp only
    split
    · exact hroom
    · rw [show (r.resetCounters.makeRoom io).finishRunning io.finish = r.ready io from rfl]
      generalize (r.ready io).storage.newEntry _ io.entry = q
      obtain ⟨result, s⟩ := q
      cases result with
      | error e => exact hready
      | ok entry => exact (lasting_openWriters ((r.ready io).withStorage s) entry io).trans hready
  unfold start
  generalize r.startInner io = q at hinner ⊢
  obtain ⟨result, r₁⟩ := q
  cases result <;> exact hinner

omit [Chrono] in
@[simp] theorem lasting_rotate (r : Recorder) (reason : String) (io : RotateIo) :
    (r.rotate reason io).lasting = r.lasting := by
  have hstart := (r.finishCurrentEntry (some reason) io.finish).lasting_start io.start
  rw [lasting_finishCurrentEntry] at hstart
  unfold rotate
  generalize (r.finishCurrentEntry (some reason) io.finish).start io.start = q at hstart ⊢
  obtain ⟨result, r₁⟩ := q
  cases result with
  | error e => exact (lasting_stop ..).trans hstart
  | ok u =>
    simp only
    split <;> exact hstart

omit [SerdeJson] [Build] in
/-- What a storage switch starts from has what lasts of the task. -/
theorem lasting_resumesFrom {r r₁ : Recorder} {path : PathBuf} {reason : String} {io : SwitchIo}
    (h : r.resumesFrom path reason io = some r₁) : r₁.lasting = r.lasting := by
  have hclosed : (if r.task.state.isRecording then
      r.finishCurrentEntry (some s!"storage changed: {reason}") io.finish else r).lasting =
      r.lasting := by
    split
    · exact lasting_finishCurrentEntry ..
    · rfl
  simp only [resumesFrom] at h
  generalize (if r.task.state.isRecording then
    r.finishCurrentEntry (some s!"storage changed: {reason}") io.finish else r) = closed at h hclosed
  split at h
  · split at h
    · cases h; exact hclosed
    · cases h
  · generalize RecordingStore.openOrRecover closed.storage.device path io.open = q at h
    obtain ⟨result, device⟩ := q
    cases result with
    | error e =>
      simp only at h
      split at h
      · cases h; exact hclosed
      · cases h
    | ok store =>
      simp only at h
      split at h
      · cases h; exact hclosed
      · cases h

@[simp] theorem lasting_switchStore (r : Recorder) (path : PathBuf) (reason : String)
    (io : SwitchIo) : (r.switchStore path reason io).2.lasting = r.lasting := by
  have hclosed : (r.finishCurrentEntry (some s!"storage changed: {reason}") io.finish).lasting =
      r.lasting := lasting_finishCurrentEntry ..
  simp only [switchStore]
  generalize r.finishCurrentEntry (some s!"storage changed: {reason}") io.finish = closed at hclosed ⊢
  split
  · split
    · exact (lasting_start ..).trans hclosed
    · split
      · exact lasting_start ..
      · rfl
  · have hr : (if r.task.state.isRecording = true then closed else r).lasting = r.lasting := by
      split
      · exact hclosed
      · rfl
    generalize (if r.task.state.isRecording = true then closed else r) = r₁ at hr ⊢
    generalize RecordingStore.openOrRecover r₁.storage.device path io.open = q
    obtain ⟨result, device⟩ := q
    cases result with
    | error e =>
      simp only
      split
      · exact (lasting_start ..).trans hr
      · exact hr
    | ok store =>
      simp only
      split
      · exact (lasting_start ..).trans hr
      · exact hr

omit [Chrono] [Build] in
theorem lasting_keepSpace (r : Recorder) (io : ContainerIo) :
    (∀ r', r.keepSpace io = .error r' → r'.lasting = r.lasting) ∧
      ∀ r', r.keepSpace io = .ok r' → r'.lasting = r.lasting := by
  unfold keepSpace
  split
  · exact ⟨fun _ h => (by cases h), fun r' h => by cases h; rfl⟩
  · have hs : (r.withSpaceCheck 0 r.task.lowSpaceWarned).lasting = r.lasting := rfl
    generalize r.withSpaceCheck 0 r.task.lowSpaceWarned = r₁ at hs ⊢
    simp only
    split
    · exact ⟨fun r' h => by cases h; exact (lasting_stop ..).trans hs, fun _ h => (by cases h)⟩
    · generalize (if r₁.task.autoDeleteClean = true then pruneCleanRecordings r₁.storage
        r₁.task.minSpaceToStartMb r₁.task.uploadsConfigured io.prune else (0, r₁.storage)) = p
      refine ⟨fun r' h => ?_, fun r' h => ?_⟩
      · split at h
        · cases h
        · split at h <;> cases h
      · split at h
        · cases h; exact hs
        · split at h <;> cases h <;> exact hs
    · exact ⟨fun _ h => (by cases h), fun r' h => by cases h; exact hs⟩
    · exact ⟨fun _ h => (by cases h), fun r' h => by cases h; exact hs⟩

omit [SerdeJson] [Chrono] [Sidecar] [Build] in
theorem lasting_stored {r r₁ : Recorder} {qmdlWriter qw : QmdlWriter}
    {analysisWriter : AnalysisWriter} {container : MessagesContainer} {io : ContainerIo}
    (h : Stored r qmdlWriter analysisWriter container io r₁ qw) :
    r₁.lasting = r.lasting := by
  induction h with
  | written => rfl
  | sized _ _ ih => exact (lasting_of_task (task_note ..)).trans ih

omit [Gzip] [SerdeJson] [Chrono] [Toml] [Sidecar] [Build] in
theorem lasting_announce (r : Recorder) (maxType : EventType) :
    (r.announce maxType).lasting = r.lasting := by
  have hnote : (if .informational < maxType then r.notify (detectionNotice maxType)
      else r).lasting = r.lasting := by
    split <;> rfl
  unfold announce
  generalize (if EventType.informational < maxType then r.notify (detectionNotice maxType) else r) =
    r₁ at hnote ⊢
  simp only
  split
  · split <;> exact hnote
  · exact hnote

omit [Gzip] [Toml] [Sidecar] [Build] in
theorem lasting_analyzeContainer (r : Recorder) (qmdlWriter : QmdlWriter)
    (analysisWriter : AnalysisWriter) (container : MessagesContainer) (demo : Bool)
    (faults : Nat → WriteFault) :
    (r.analyzeContainer qmdlWriter analysisWriter container demo faults).lasting =
      r.lasting.after container.latestTimestamp := by
  simp only [analyzeContainer]
  generalize analysisWriter.analyzeContainerInner _ _ _ _ = q
  obtain ⟨result, aw, d⟩ := q
  cases result with
  | error e => exact lasting_announce ..
  | ok maxType => exact lasting_announce ..

/-- The newest packet timestamp of a container, if it has one and the disk lets the container
through. -/
def newestOf (r : Recorder) (container : MessagesContainer) (io : ContainerIo) : Option Int :=
  match r.task.state with
  | .stopped => none
  | .recording qmdlWriter analysisWriter =>
    match r.keepSpace io with
    | .error _ => none
    | .ok r =>
      match r.storeContainer qmdlWriter analysisWriter container io with
      | .error _ => none
      | .ok _ => container.latestTimestamp

omit [Build] in
theorem lasting_recordContainer (r : Recorder) (container : MessagesContainer) (demo : Bool)
    (io : ContainerIo) : (r.recordContainer container demo io).1.lasting =
      r.lasting.after (r.newestOf container io) := by
  unfold recordContainer newestOf
  cases hs : r.task.state with
  | stopped => rfl
  | recording qw aw =>
    obtain ⟨herr, hok⟩ := r.lasting_keepSpace io
    cases hk : r.keepSpace io with
    | error r₁ => exact herr r₁ hk
    | ok r₁ =>
      obtain ⟨r₂, qw', hstored, ⟨reason, hst⟩ | ⟨reason, hst⟩⟩ :=
        r₁.storeContainer_cases qw aw container io
      · simp only [hst]
        exact (lasting_stop ..).trans ((lasting_stored hstored).trans (hok r₁ hk))
      · simp only [hst]
        rw [lasting_analyzeContainer, lasting_stored hstored, hok r₁ hk]

/-- The newest packet timestamp of the container a step records, if there is one. -/
def newest (r : Recorder) : RecorderStep → Option Int
  | .container container io | .injectDemo (some container) io =>
    if container.dataType = .userSpace then r.newestOf container io else none
  | _ => none

theorem lasting_processContainerInner (r : Recorder) (container : MessagesContainer)
    (demo : Bool) (io : ContainerIo) :
    (r.processContainerInner container demo io).lasting =
      r.lasting.after (if container.dataType = .userSpace then r.newestOf container io else none) := by
  have hrec := r.lasting_recordContainer container demo io
  unfold processContainerInner
  by_cases hd : container.dataType = .userSpace
  swap
  · rw [if_pos hd, if_neg hd, DiagTask.after_none]
  · rw [if_neg (not_not.mpr hd), if_pos hd]
    generalize r.recordContainer container demo io = p at hrec ⊢
    obtain ⟨r₁, reason⟩ := p
    cases reason with
    | none => exact hrec
    | some reason => exact (lasting_rotate ..).trans hrec

omit [Build] in
/-- What a rotation starts from comes after the container. -/
theorem lasting_rotated {r : Recorder} {op : RecorderStep} {q : Recorder × String × RotateIo}
    (h : r.rotation op = some q) : (rotated q).lasting = r.lasting.after (r.newest op) := by
  have hcontainer : ∀ {container demo io}, r.rotationOf container demo io = some q →
      (rotated q).lasting = r.lasting.after
        (if container.dataType = .userSpace then r.newestOf container io else none) := by
    intro container demo io h
    unfold rotationOf at h
    split at h
    · cases h
    · next hd =>
      obtain ⟨reason, -, rfl⟩ := Option.map_eq_some_iff.1 h
      rw [if_pos (Decidable.not_not.mp hd)]
      exact (lasting_finishCurrentEntry ..).trans (lasting_recordContainer ..)
  cases op with
  | container container io => exact hcontainer h
  | injectDemo container io =>
    cases container with
    | none => cases h
    | some container => exact hcontainer h
  | _ => cases h

/-- **A step leaves what lasts of the task**, but for the timestamp of a container it records. -/
theorem lasting_step {r r' : Recorder} {op : RecorderStep} (h : r.step op = some r') :
    r'.lasting = r.lasting.after (r.newest op) := by
  cases op with
  | injectDemo container io =>
    cases container with
    | none => cases h; rfl
    | some container => cases h; exact lasting_processContainerInner ..
  | stopRecording io => cases h; exact lasting_stop ..
  | switchStore path reason io =>
    cases h
    exact lasting_switchStore ..
  | startRecording io => cases h; exact lasting_start ..
  | deleteEntry name stop io =>
    cases h
    unfold deleteEntry
    simp only
    split
    · exact lasting_stop ..
    · rfl
  | deleteAllEntries stop io => cases h; exact lasting_stop ..
  | gpsUpdate lat lon io =>
    cases h
    unfold handleGpsUpdate
    split
    · rfl
    · simp only
      split
      · rfl
      · rfl
      · exact lasting_of_task (task_note ..)
  | exit => cases h
  | container container io => cases h; exact lasting_processContainerInner ..
  | setEntryAnnotations name displayName notes io => cases h; rfl
  | markEntryAsUploaded name uploadTime io => cases h; rfl
  | files disk => cases h; rfl

end Recorder

end Rayhunter
