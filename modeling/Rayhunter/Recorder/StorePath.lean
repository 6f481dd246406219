import Rayhunter.Recorder.Capture

/-!
# Where a recorder records

The directory of the recorder's store (`Recorder.storePath`). Whatever the task handles leaves it
(`storePath_step`), but for a storage switch: that ends in the new directory where the store there
could be opened, and in the old one where it could not (`storePath_switchStore`), and whether it
reports a success is a matter of the start that follows.
-/

namespace Rayhunter

open Storage

namespace Storage

variable [Build] [Toml] [Sidecar]

omit [Build] [Toml] in
theorem path_closeCurrentEntry (s : Storage) (io : SidecarIo) :
    (s.closeCurrentEntry io).2.store.path = s.store.path := by
  rw [closeCurrentEntry_store]

theorem path_newEntry (s : Storage) (gpsMode : GpsMode) (io : NewEntryIo) :
    (s.newEntry gpsMode io).2.store.path = s.store.path := by
  rcases s.newEntry_cases gpsMode io with ⟨e, -, -, h⟩ | ⟨entry, -, -, -, h⟩
  · rw [h]
  · rw [h]

omit [Build] in
theorem path_deleteEntry (s : Storage) (name : String) (io : DeleteIo) :
    (s.deleteEntry name io).2.store.path = s.store.path := by
  rcases s.deleteEntry_cases name io with ⟨-, h⟩ | ⟨i, entry, e, -, -, h⟩ | ⟨i, entry, -, h⟩
  · rw [h]
  · rw [h]
  · rw [h]

omit [Build] in
theorem path_deleteAllEntries (s : Storage) (io : DeleteAllIo) :
    (s.deleteAllEntries io).2.store.path = s.store.path := by
  obtain ⟨kept, -, h⟩ := s.deleteAllEntries_store io
  rw [h]

omit [Build] in
theorem path_prune [SerdeJson] (s : Storage) (targetMb : UInt64) (uploadsConfigured : Bool)
    (io : PruneIo) :
    (pruneCleanRecordings s targetMb uploadsConfigured io).2.store.path = s.store.path :=
  pruneCleanRecordings_induction (P := fun s' => s'.store.path = s.store.path)
    (fun s' name _ _ _ io h _ _ => (path_deleteEntry s' name io).trans h) targetMb io rfl

end Storage

namespace Recorder

variable [Decoders] [Detectors]

/-- The directory recordings go to. -/
def storePath (r : Recorder) : PathBuf := r.storage.store.path

@[simp] theorem storePath_withStorage (r : Recorder) (s : Storage) :
    (r.withStorage s).storePath = s.store.path := rfl

@[simp] theorem storePath_note (r : Recorder) (kind : NoteKind) (writer : Option FilePath) :
    (r.note kind writer).storePath = r.storePath := by
  rw [storePath, storage_note, storePath]

variable [Gzip] [SerdeJson] [Chrono] [Toml] [Sidecar] [Build]

/-! ## Finishing and starting -/

omit [SerdeJson] [Chrono] [Sidecar] [Build] in
theorem storePath_stopCurrentRecording (r : Recorder) (io : CloseIo) :
    (r.stopCurrentRecording io).storePath = r.storePath := by
  unfold stopCurrentRecording
  cases r.task.state with
  | stopped => rfl
  | recording qmdlWriter analysisWriter =>
    simp only
    generalize qmdlWriter.close io.close _ = q
    obtain ⟨result, d⟩ := q
    cases result with
    | error e => rfl
    | ok size =>
      simp only [storePath_withStorage, storage_note]
      exact (updateCurrentEntryQmdlSize_same _ size io.now io.manifest).path

omit [SerdeJson] [Chrono] [Build] in
theorem storePath_finishCurrentEntry (r : Recorder) (reason : Option String) (io : FinishIo) :
    (r.finishCurrentEntry reason io).storePath = r.storePath := by
  have hnote : ∀ (r : Recorder) (writer : Option FilePath),
      (r.noteStopReason reason writer io.reason).storePath = r.storePath := by
    intro r writer
    unfold noteStopReason
    cases reason with
    | none => rfl
    | some reason =>
      simp only [storePath_withStorage, storage_note]
      exact (setCurrentStopReason_same _ reason io.reason).path
  have hqueue : ∀ (r : Recorder) (writer : Option FilePath),
      (r.queueAnalysis writer).storePath = r.storePath := by
    intro r writer
    unfold queueAnalysis
    split
    · rfl
    · exact storePath_note ..
  show (Storage.closeCurrentEntry _ io.sidecar).2.store.path = _
  rw [path_closeCurrentEntry]
  show (queueAnalysis _ _).storePath = _
  rw [hqueue, hnote]
  exact storePath_stopCurrentRecording r io.close

omit [SerdeJson] [Chrono] [Build] in
theorem storePath_stop (r : Recorder) (reason : Option String) (io : FinishIo) :
    (r.stop reason io).storePath = r.storePath :=
  storePath_finishCurrentEntry ..

omit [Gzip] [Chrono] [Build] in
theorem storePath_makeRoom (r : Recorder) (io : StartIo) :
    (r.makeRoom io).storePath = r.storePath := by
  unfold makeRoom
  split
  · exact path_prune ..
  · rfl

omit [Gzip] [SerdeJson] [Chrono] [Toml] [Sidecar] [Build] in
theorem storePath_writeFixedPosition (r : Recorder) (writer : FilePath) (io : GpsIo) :
    (r.writeFixedPosition writer io).2.storePath = r.storePath := by
  unfold writeFixedPosition
  split
  · simp only
    split
    · rfl
    · rfl
    · split <;> exact storePath_note ..
  · rfl

omit [Gzip] [Chrono] [Toml] [Sidecar] in
theorem storePath_openWriters (r : Recorder) (entry : ManifestEntry) (io : StartIo) :
    (r.openWriters entry io).2.storePath = r.storePath := by
  have hpos := r.storePath_writeFixedPosition (entry.getFilepath .qmdl r.storage.store.path) io.gps
  simp only [openWriters]
  generalize r.writeFixedPosition _ io.gps = q at hpos ⊢
  obtain ⟨result, r₁⟩ := q
  have hsave : (r₁.saveSidecar io.sidecar).storePath = r₁.storePath := by
    unfold saveSidecar
    split <;> rfl
  cases result with
  | error e => exact hpos
  | ok u =>
    simp only
    generalize AnalysisWriter.new _ _ _ io.analysis _ = q
    obtain ⟨result, d⟩ := q
    cases result with
    | error e => exact hsave.trans hpos
    | ok aw => exact hsave.trans hpos

omit [Chrono] in
theorem storePath_start (r : Recorder) (io : StartIo) :
    (r.start io).2.storePath = r.storePath := by
  have hroom : (r.resetCounters.makeRoom io).storePath = r.storePath :=
    storePath_makeRoom r.resetCounters io
  have hready : (r.ready io).storePath = r.storePath := by
    unfold ready finishRunning
    split
    · exact (storePath_finishCurrentEntry ..).trans hroom
    · exact hroom
  have hinner : (r.startInner io).2.storePath = r.storePath := by
    unfold startInner
    simp only
    split
    · exact hroom
    · rw [show (r.resetCounters.makeRoom io).finishRunning io.finish = r.ready io from rfl]
      have hnew := path_newEntry (r.ready io).storage (r.ready io).task.gpsMode io.entry
      generalize (r.ready io).storage.newEntry _ io.entry = q at hnew ⊢
      obtain ⟨result, s⟩ := q
      cases result with
      | error e => exact hnew.trans hready
      | ok entry => exact (storePath_openWriters ..).trans (hnew.trans hready)
  unfold start
  generalize r.startInner io = q at hinner ⊢
  obtain ⟨result, r₁⟩ := q
  cases result <;> exact hinner

omit [Chrono] in
theorem storePath_rotate (r : Recorder) (reason : String) (io : RotateIo) :
    (r.rotate reason io).storePath = r.storePath := by
  have hstart := (r.finishCurrentEntry (some reason) io.finish).storePath_start io.start
  rw [storePath_finishCurrentEntry] at hstart
  unfold rotate
  generalize (r.finishCurrentEntry (some reason) io.finish).start io.start = q at hstart ⊢
  obtain ⟨result, r₁⟩ := q
  cases result with
  | error e => exact (storePath_stop ..).trans hstart
  | ok u =>
    simp only
    split <;> exact hstart

/-! ## Containers -/

omit [Chrono] [Build] in
theorem storePath_keepSpace (r : Recorder) (io : ContainerIo) :
    (∀ r', r.keepSpace io = .error r' → r'.storePath = r.storePath) ∧
      ∀ r', r.keepSpace io = .ok r' → r'.storePath = r.storePath := by
  unfold keepSpace
  split
  · exact ⟨fun _ h => (by cases h), fun r' h => by cases h; rfl⟩
  · have hs : (r.withSpaceCheck 0 r.task.lowSpaceWarned).storePath = r.storePath := rfl
    generalize r.withSpaceCheck 0 r.task.lowSpaceWarned = r₁ at hs ⊢
    simp only
    split
    · exact ⟨fun r' h => by cases h; exact (storePath_stop ..).trans hs, fun _ h => (by cases h)⟩
    · have hpruned : (if r₁.task.autoDeleteClean = true then pruneCleanRecordings r₁.storage
          r₁.task.minSpaceToStartMb r₁.task.uploadsConfigured io.prune
          else (0, r₁.storage)).2.store.path = r.storePath := by
        split
        · exact (path_prune ..).trans hs
        · exact hs
      generalize (if r₁.task.autoDeleteClean = true then pruneCleanRecordings r₁.storage
        r₁.task.minSpaceToStartMb r₁.task.uploadsConfigured io.prune else (0, r₁.storage)) = p
        at hpruned
      refine ⟨fun r' h => ?_, fun r' h => ?_⟩
      · split at h
        · cases h
        · split at h <;> cases h
      · split at h
        · cases h; exact hpruned
        · split at h <;> cases h <;> exact hpruned
    · exact ⟨fun _ h => (by cases h), fun r' h => by cases h; exact hs⟩
    · exact ⟨fun _ h => (by cases h), fun r' h => by cases h; exact hs⟩

omit [SerdeJson] [Chrono] [Sidecar] [Build] in
theorem storePath_stored {r r₁ : Recorder} {qmdlWriter qw : QmdlWriter}
    {analysisWriter : AnalysisWriter} {container : MessagesContainer} {io : ContainerIo}
    (h : Stored r qmdlWriter analysisWriter container io r₁ qw) :
    r₁.storePath = r.storePath := by
  induction h with
  | written => rfl
  | sized fileSize _ ih =>
    exact (updateCurrentEntryQmdlSize_same _ fileSize io.now io.manifest).path.trans ih

omit [Gzip] [SerdeJson] [Chrono] [Toml] [Sidecar] [Build] in
theorem storePath_announce (r : Recorder) (maxType : EventType) :
    (r.announce maxType).storePath = r.storePath := by
  have hnote : (if .informational < maxType then r.notify (detectionNotice maxType)
      else r).storePath = r.storePath := by
    split <;> rfl
  unfold announce
  generalize (if EventType.informational < maxType then r.notify (detectionNotice maxType) else r) =
    r₁ at hnote ⊢
  simp only
  split
  · split <;> exact hnote
  · exact hnote

omit [Gzip] [Toml] [Sidecar] [Build] in
theorem storePath_analyzeContainer (r : Recorder) (qmdlWriter : QmdlWriter)
    (analysisWriter : AnalysisWriter) (container : MessagesContainer) (demo : Bool)
    (faults : Nat → WriteFault) :
    (r.analyzeContainer qmdlWriter analysisWriter container demo faults).storePath =
      r.storePath := by
  simp only [analyzeContainer]
  generalize analysisWriter.analyzeContainerInner _ _ _ _ = q
  obtain ⟨result, aw, d⟩ := q
  cases result with
  | error e => exact storePath_announce ..
  | ok maxType => exact storePath_announce ..

omit [Build] in
theorem storePath_recordContainer (r : Recorder) (container : MessagesContainer) (demo : Bool)
    (io : ContainerIo) : (r.recordContainer container demo io).1.storePath = r.storePath := by
  unfold recordContainer
  cases hs : r.task.state with
  | stopped => rfl
  | recording qw aw =>
    obtain ⟨herr, hok⟩ := r.storePath_keepSpace io
    cases hk : r.keepSpace io with
    | error r₁ => exact herr r₁ hk
    | ok r₁ =>
      obtain ⟨r₂, qw', hstored, ⟨reason, hst⟩ | ⟨reason, hst⟩⟩ :=
        r₁.storeContainer_cases qw aw container io
      · simp only [hst]
        exact (storePath_stop ..).trans ((storePath_stored hstored).trans (hok r₁ hk))
      · simp only [hst]
        rw [storePath_analyzeContainer, storePath_stored hstored, hok r₁ hk]

theorem storePath_processContainerInner (r : Recorder) (container : MessagesContainer)
    (demo : Bool) (io : ContainerIo) :
    (r.processContainerInner container demo io).storePath = r.storePath := by
  have hrec := r.storePath_recordContainer container demo io
  unfold processContainerInner
  split
  · rfl
  · generalize r.recordContainer container demo io = p at hrec ⊢
    obtain ⟨r₁, reason⟩ := p
    cases reason with
    | none => exact hrec
    | some reason => exact (storePath_rotate ..).trans hrec

/-! ## The loop -/

/-- Recordings stay where they go, unless the store is switched. -/
theorem storePath_step {r r' : Recorder} {op : RecorderStep}
    (hop : ∀ path reason io, op ≠ .switchStore path reason io) (h : r.step op = some r') :
    r'.storePath = r.storePath := by
  cases op with
  | injectDemo container io =>
    cases container with
    | none => cases h; rfl
    | some container => cases h; exact storePath_processContainerInner ..
  | stopRecording io => cases h; exact storePath_stop ..
  | switchStore path reason io => exact absurd rfl (hop path reason io)
  | startRecording io => cases h; exact storePath_start ..
  | deleteEntry name stop io =>
    cases h
    unfold deleteEntry
    simp only
    split
    · exact (path_deleteEntry ..).trans (storePath_stop ..)
    · exact path_deleteEntry ..
  | deleteAllEntries stop io =>
    cases h
    exact (path_deleteAllEntries ..).trans (storePath_stop ..)
  | gpsUpdate lat lon io =>
    cases h
    unfold handleGpsUpdate
    split
    · rfl
    · simp only
      split
      · rfl
      · rfl
      · exact storePath_note ..
  | exit => cases h
  | container container io => cases h; exact storePath_processContainerInner ..
  | setEntryAnnotations name displayName notes io =>
    cases h
    exact (setEntryAnnotations_same ..).path
  | markEntryAsUploaded name uploadTime io => cases h; exact (markEntryAsUploaded_same ..).path
  | files disk => cases h; rfl

/-! ## Switching -/

/-- The switch moves the store, and recording, which is to go on there, cannot start. -/
def StrandedBy (r : Recorder) (path : PathBuf) (reason : String) (io : SwitchIo) : Prop :=
  r.storePath ≠ path ∧ ∃ r', r.resumesFrom path reason io = some r' ∧ r'.storePath = path ∧
    ¬ r'.Startable io.start

/-- The results a storage switch can report, with the directory it ends in. -/
inductive SwitchOutcome (r : Recorder) (path : PathBuf) (reason : String) (io : SwitchIo) :
    Except RecordingStoreError Unit → PathBuf → Prop
  | moved (h : ¬ r.StrandedBy path reason io) : SwitchOutcome r path reason io (.ok ()) path
  | stayed {e : RecordingStoreError} (h : ¬ r.StrandedBy path reason io) :
    SwitchOutcome r path reason io (.error e) r.storePath
  | stranded {e : RecordingStoreError} (h : r.StrandedBy path reason io) :
    SwitchOutcome r path reason io (.error e) path

/-- **Where a storage switch ends.** A success ends in the new directory; so does a failure that
strands the recorder there, and every other failure ends in the old one. -/
theorem switchStore_outcome (r : Recorder) (path : PathBuf) (reason : String) (io : SwitchIo) :
    SwitchOutcome r path reason io (r.switchStore path reason io).1
      (r.switchStore path reason io).2.storePath := by
  by_cases hp : r.storePath = path
  · have hnot : ¬ r.StrandedBy path reason io := fun h => h.1 hp
    have hstart : ∀ r' : Recorder, r'.storePath = r.storePath →
        SwitchOutcome r path reason io (r'.start io.start).1 (r'.start io.start).2.storePath := by
      intro r' hr'
      rw [storePath_start, hr']
      cases (r'.start io.start).1 with
      | error e => exact .stayed hnot
      | ok u => rw [hp]; exact .moved hnot
    unfold switchStore
    rw [if_pos (show r.storage.store.path = path from hp)]
    split
    · exact hstart _ (storePath_finishCurrentEntry ..)
    · split
      · exact hstart _ rfl
      · rw [hp]; exact .moved hnot
  · have hclosed : (if r.task.state.isRecording then
        r.finishCurrentEntry (some s!"storage changed: {reason}") io.finish else r).storePath =
        r.storePath := by
      split
      · exact storePath_finishCurrentEntry ..
      · rfl
    have hstopped : (if r.task.state.isRecording then
        r.finishCurrentEntry (some s!"storage changed: {reason}") io.finish
        else r).task.stoppedByUser = r.task.stoppedByUser := by
      split
      · rw [finishCurrentEntry_task]
      · rfl
    have hres : ∀ r', r.resumesFrom path reason io = some r' → r'.storePath = path →
        (r.StrandedBy path reason io ↔ ¬ r'.Startable io.start) := by
      intro r' hr' hpath
      constructor
      · rintro ⟨-, r'', hr'', -, hn⟩
        rw [hr'] at hr''
        cases hr''
        exact hn
      · exact fun hn => ⟨hp, r', hr', hpath, hn⟩
    have hstays : (∀ r', r.resumesFrom path reason io = some r' → r'.storePath = r.storePath) →
        ¬ r.StrandedBy path reason io := by
      rintro h ⟨-, r', hr', hpath, -⟩
      exact hp ((h r' hr').symm.trans hpath)
    unfold switchStore
    unfold resumesFrom at hres hstays
    rw [if_neg (show ¬ r.storage.store.path = path from hp)] at hres hstays ⊢
    simp only at hres hstays ⊢
    generalize (if r.task.state.isRecording then
      r.finishCurrentEntry (some s!"storage changed: {reason}") io.finish else r) = closed
      at hclosed hstopped hres hstays ⊢
    have hopen := @openOrRecover_store _ _ closed.storage.device path io.open
    generalize RecordingStore.openOrRecover closed.storage.device path io.open = q
      at hres hstays hopen ⊢
    obtain ⟨result, device⟩ := q
    cases result with
    | error e =>
      have hnot : ¬ r.StrandedBy path reason io := by
        refine hstays fun r' hr' => ?_
        simp only at hr'
        split at hr'
        · cases hr'; exact hclosed
        · cases hr'
      simp only
      split
      · rw [storePath_start]
        show SwitchOutcome r path reason io _ closed.storePath
        rw [hclosed]
        exact .stayed hnot
      · show SwitchOutcome r path reason io _ closed.storePath
        rw [hclosed]
        exact .stayed hnot
    | ok store =>
      have hpath : store.path = path := (hopen rfl).1
      have hstopped' : (closed.withStorage ⟨store, device⟩).task.stoppedByUser =
          r.task.stoppedByUser := hstopped
      simp only [hstopped'] at hres ⊢
      split
      · next hgo =>
        rw [if_pos hgo] at hres
        have hiff := hres _ rfl hpath
        rw [← start_ok_iff] at hiff
        rw [storePath_start, storePath_withStorage, hpath]
        cases hs : ((closed.withStorage ⟨store, device⟩).start io.start).1 with
        | error e => exact .stranded (hiff.2 (by rw [hs]; simp))
        | ok u => exact .moved fun h => hiff.1 h hs
      · next hgo =>
        rw [storePath_withStorage, hpath]
        refine .moved (hstays fun r' hr' => ?_)
        simp only [if_neg hgo] at hr'
        cases hr'

/-- A switch that reports a success strands no recorder. -/
theorem not_strandedBy_of_ok {r : Recorder} {path : PathBuf} {reason : String} {io : SwitchIo}
    (h : (r.switchStore path reason io).1 = .ok ()) : ¬ r.StrandedBy path reason io := by
  have hout := r.switchStore_outcome path reason io
  rw [h] at hout
  generalize (r.switchStore path reason io).2.storePath = p at hout
  cases hout with
  | moved hnot => exact hnot

end Recorder

end Rayhunter
