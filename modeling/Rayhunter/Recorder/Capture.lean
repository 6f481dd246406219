import Rayhunter.Recorder.Closing

/-!
# The file of the capture

While a recording is made its capture grows through the writer alone: the messages the task handles,
and what they do to other recordings, leave the file as the writer left it. So the position of the
writer is the length of the file in every run of the recorder (`measured_step`), and the size that
is noted when the writer is closed is the length the file is left with (`closesWell_finish`).
-/

namespace Rayhunter

open Storage

/-- The length of a file that is there. -/
def Disk.length (d : Disk) (p : FilePath) : Option Nat := (d.files p).map (·.toBytes.length)

theorem Disk.length_congr {d d' : Disk} {p : FilePath} (h : d'.files p = d.files p) :
    d'.length p = d.length p := by
  rw [length, h]
  rfl

/-- What is written to one file leaves the others. -/
theorem Disk.modify_files_of_ne (d : Disk) {p q : FilePath} (f : FileContent → FileContent)
    (h : q ≠ p) : (d.modify p f).files q = d.files q := set_files_of_ne d _ h

/-- A writer that stands at the end of its file does so after a write, whatever of it landed. -/
theorem QmdlWriter.advance_length [Gzip] (w : QmdlWriter) (ops : List GzipOp) (finished : Bool)
    (fault : WriteFault) {d : Disk} (h : d.length w.path = some w.position) :
    (w.advance ops finished fault d).2.2.length w.path =
      some (w.advance ops finished fault d).2.1.position := by
  obtain ⟨content, hfile, hlen⟩ := Option.map_eq_some_iff.1 h
  have happend : ∀ data, (content.appendBytes data).toBytes.length = w.position + data.length := by
    intro data
    rw [← hlen]
    exact List.length_append
  simp only [advance, Disk.length, Disk.modify, Disk.set_files_self, hfile, Option.map_some, happend]

/-- A writer that is closed without a fault knows the length it leaves. -/
theorem QmdlWriter.close_length [Gzip] (w : QmdlWriter) {d : Disk}
    (h : d.length w.path = some w.position) :
    ∃ size d', w.close {} d = (.ok size, d') ∧ d'.length w.path = some size :=
  ⟨_, _, rfl, w.advance_length [] true none h⟩

/-! ## Other files -/

/-- A capture is no sidecar on its way. -/
theorem ManifestEntry.qmdl_ne_sidecarTmp {e e' : ManifestEntry} {dir dir' : PathBuf} :
    e.getFilepath .qmdl dir ≠ sidecarTmp (e'.getFilepath .metadata dir') := by
  intro heq
  have ht := congrArg (fun p => p.name.toList.getLast?) heq
  revert ht
  cases hc : e.compressed <;> simp [getFilepath, FileKind.getFilepath, FileKind.getFilename,
    FileKind.suffix, sidecarTmp, hc]

namespace Storage

variable [Toml]

/-- Editing an entry leaves the files of recordings. -/
theorem writeManifest_files (s : Storage) (io : ManifestIo) (e : ManifestEntry) (kind : FileKind) :
    (s.writeManifest io).2.files (e.getFilepath kind s.store.path) =
      s.files (e.getFilepath kind s.store.path) :=
  manifestDisk_files _ _ _ ManifestEntry.ne_manifestPath ManifestEntry.ne_manifestTmpPath

theorem updateCurrentEntryQmdlSize_files (s : Storage) (size : Nat) (now : DateTime)
    (io : ManifestIo) (e : ManifestEntry) (kind : FileKind) :
    (s.updateCurrentEntryQmdlSize size now io).2.files (e.getFilepath kind s.store.path) =
      s.files (e.getFilepath kind s.store.path) := by
  unfold updateCurrentEntryQmdlSize
  split
  · rfl
  · exact writeManifest_files (s.modifyEntry _ _) io e kind

theorem setCurrentStopReason_files (s : Storage) (reason : String) (io : ManifestIo)
    (e : ManifestEntry) (kind : FileKind) :
    (s.setCurrentStopReason reason io).2.files (e.getFilepath kind s.store.path) =
      s.files (e.getFilepath kind s.store.path) := by
  unfold setCurrentStopReason
  split
  · rfl
  · exact writeManifest_files (s.modifyEntry _ _) io e kind

theorem setEntryAnnotations_files (s : Storage) (name : String) (displayName notes : Option String)
    (io : ManifestIo) (e : ManifestEntry) (kind : FileKind) :
    (s.setEntryAnnotations name displayName notes io).2.files (e.getFilepath kind s.store.path) =
      s.files (e.getFilepath kind s.store.path) := by
  unfold setEntryAnnotations
  split
  · rfl
  · exact writeManifest_files (s.modifyEntry _ _) io e kind

theorem markEntryAsUploaded_files (s : Storage) (name : String) (uploadTime : DateTime)
    (io : ManifestIo) (e : ManifestEntry) (kind : FileKind) :
    (s.markEntryAsUploaded name uploadTime io).2.files (e.getFilepath kind s.store.path) =
      s.files (e.getFilepath kind s.store.path) := by
  unfold markEntryAsUploaded
  split
  · rfl
  · exact writeManifest_files (s.modifyEntry _ _) io e kind

variable [Sidecar]

omit [Toml] in
/-- Closing an entry leaves the captures. -/
theorem closeCurrentEntry_qmdl (s : Storage) (io : SidecarIo) (e : ManifestEntry) :
    (s.closeCurrentEntry io).2.files (e.getFilepath .qmdl s.store.path) =
      s.files (e.getFilepath .qmdl s.store.path) := by
  unfold closeCurrentEntry
  split
  · rfl
  · split
    · exact finishSidecar_files _ _ _ (ManifestEntry.qmdl_ne (by decide))
        ManifestEntry.qmdl_ne_sidecarTmp
    · rfl

/-- Deleting another recording leaves the capture of the current one. -/
theorem deleteEntry_keeps_capture {s : Storage} {q : FilePath} {name : String}
    (hq : s.store.capture = some (some q)) (h : s.store.isCurrentEntry name = false)
    (io : DeleteIo) : (s.deleteEntry name io).2.files q = s.files q := by
  obtain ⟨i, e, hi, he, rfl⟩ := RecordingStore.capture_eq_some.1 hq
  cases hf : s.store.entryForName name with
  | none => rw [deleteEntry, hf]
  | some p =>
    obtain ⟨j, e'⟩ := p
    refine (deleteEntry_deleted hf io).qmdl e fun hkey => ?_
    obtain ⟨-, -, hname⟩ := RecordingStore.entryForName_eq_some hf
    have hsame : e.name = name := (congrArg Prod.fst hkey).trans hname
    rw [RecordingStore.isCurrentEntry, RecordingStore.getCurrentEntry_eq_some.2 ⟨hi, he⟩] at h
    simp [hsame] at h

/-- Pruning leaves the capture of the current recording. -/
theorem prune_keeps_capture [SerdeJson] {s : Storage} {q : FilePath}
    (hq : s.store.capture = some (some q)) (targetMb : UInt64) (uploadsConfigured : Bool)
    (io : PruneIo) : (pruneCleanRecordings s targetMb uploadsConfigured io).2.files q = s.files q := by
  refine (pruneCleanRecordings_induction
    (P := fun s' => s'.store.capture = some (some q) ∧ s'.files q = s.files q)
    (fun s' name i e report io h hf hv => ?_) targetMb io ⟨hq, rfl⟩).2
  obtain ⟨e', hget, hexempt, -⟩ := verdictFor_eq_clean.1 hv
  obtain ⟨-, hget', rfl⟩ := RecordingStore.entryForName_eq_some hf
  rw [hget] at hget'
  cases hget'
  have hother := Bool.eq_false_iff.2 fun hc => hexempt (.inl hc)
  exact ⟨(deleteEntry_capture hother io).trans h.1, (deleteEntry_keeps_capture h.1 hother io).trans h.2⟩

omit [Toml] [Sidecar] in
/-- The companion files of a new entry are no captures. -/
theorem claimCompanions_qmdl {d d' : Disk} {entry : ManifestEntry} {dir : PathBuf} {io : EntryIo}
    (h : claimCompanions d entry dir io = (.ok (), d')) :
    d'.files (entry.getFilepath .qmdl dir) = d.files (entry.getFilepath .qmdl dir) := by
  unfold claimCompanions at h
  split at h
  · cases h
  · next d₁ h₁ =>
    obtain ⟨-, -, rfl⟩ := Disk.createNew_eq_ok.1 h₁
    split at h
    · cases h
    · next d₂ h₂ =>
      obtain ⟨-, -, rfl⟩ := Disk.createNew_eq_ok.1 h₂
      cases h
      rw [Disk.set_files_of_ne _ _ (ManifestEntry.qmdl_ne (by decide)),
        Disk.set_files_of_ne _ _ (ManifestEntry.qmdl_ne (by decide))]

variable [Build]

omit [Toml] [Sidecar] in
/-- The capture of a new entry is an empty file. -/
theorem claimFiles_qmdl {gpsMode : GpsMode} {n : Nat} {attempts : Nat → EntryIo}
    {last : Option IoError} {s s' : Storage} {entry : ManifestEntry}
    (h : claimFiles gpsMode n attempts last s = (.ok entry, s')) :
    s'.files (entry.getFilepath .qmdl s.store.path) = some (.text "") := by
  induction n generalizing attempts last s with
  | zero => cases h
  | succ n ih =>
    rw [claimFiles] at h
    simp only [nextSequence_store] at h
    split at h
    · split at h
      · exact ih (s := s.nextSequence) h
      · cases h
    · next d hd =>
      obtain ⟨-, -, rfl⟩ := Disk.createNew_eq_ok.1 hd
      split at h
      · cases h
      · next d' hd' =>
        cases h
        exact (claimCompanions_qmdl hd').trans (Disk.set_files_self ..)

theorem newEntry_qmdl {gpsMode : GpsMode} {io : NewEntryIo} {s s' : Storage}
    {entry : ManifestEntry} (h : s.newEntry gpsMode io = (.ok entry, s')) :
    s'.files (entry.getFilepath .qmdl s'.store.path) = some (.text "") := by
  unfold newEntry at h
  split at h
  · cases h
  · next entry' s₁ hc =>
    have hstore := claimFiles_store gpsMode MAX_ATTEMPTS io.attempts none
      (s.closeOpenEntry io.finish)
    rw [hc] at hstore
    have hfile := claimFiles_qmdl hc
    rw [← hstore] at hfile
    split at h
    · cases h
    · next s₂ hw =>
      cases h
      have hwrite := (writeManifest_files (s₁.publish entry) io.manifest entry .qmdl).trans hfile
      rw [hw] at hwrite
      have hpath := writeManifest_store (s₁.publish entry) io.manifest
      rw [hw] at hpath
      rw [hpath]
      exact hwrite

end Storage

/-! ## The writer and its file -/

namespace Recorder

theorem appendLine_files (d : Disk) {p q : FilePath} (line : String) (io : WriteIo) (h : q ≠ p) :
    (appendLine d p line io).files q = d.files q := by
  unfold appendLine
  split <;> exact Disk.modify_files_of_ne _ _ h

theorem openEntryGpsForAppend_files {d d' : Disk} {p q : FilePath} {fault : Option IoError}
    (ho : openEntryGpsForAppend d p fault = .ok (some d')) (h : q ≠ p) : d'.files q = d.files q := by
  unfold openEntryGpsForAppend at ho
  cases fault with
  | some e => simp only at ho; split at ho <;> cases ho
  | none =>
    cases ho
    split
    · rfl
    · exact Disk.set_files_of_ne _ _ h

theorem writeLine_files [SerdeJson] (d : Disk) {p q : FilePath} (value : Json)
    (fault : WriteFault) (h : q ≠ p) : (writeLine d p value fault).files q = d.files q := by
  unfold writeLine Disk.writeText
  split <;> exact Disk.modify_files_of_ne _ _ h

variable [Decoders] [Detectors]

/-- A report that is begun is at its path, and nothing else is written. -/
theorem new_ok [SerdeJson] [Build] {p : FilePath} {config : AnalyzerConfig}
    {metadata : DeviceMetadata} {fault : WriteFault} {d d' : Disk} {aw : AnalysisWriter}
    (h : AnalysisWriter.new p config metadata fault d = (.ok aw, d')) :
    aw.path = p ∧ ∀ q, q ≠ p → d'.files q = d.files q := by
  cases fault with
  | some f => cases h
  | none =>
    cases h
    exact ⟨rfl, fun q hq => writeLine_files _ _ _ hq⟩

/-- The writer stands at the end of its file, and the report goes to another file. -/
def Measured (r : Recorder) : Prop :=
  ∀ qmdlWriter analysisWriter, r.task.state = .recording qmdlWriter analysisWriter →
    r.storage.device.disk.length qmdlWriter.path = some qmdlWriter.position ∧
    ∃ (e : ManifestEntry) (dir : PathBuf), qmdlWriter.path = e.getFilepath .qmdl dir ∧
      analysisWriter.path = e.getFilepath .analysis dir

theorem measured_of_idle {r : Recorder} (h : r.view.writer = none) : r.Measured := by
  intro qw aw hs
  rw [view, hs] at h
  cases h

theorem Measured.of_same {r r' : Recorder} (h : r.Measured) (hs : r'.task.state = r.task.state)
    (hf : ∀ p, r.view.writer = some p → r'.storage.files p = r.storage.files p) :
    r'.Measured := by
  intro qw aw hst
  rw [hs] at hst
  obtain ⟨hlen, hpath⟩ := h qw aw hst
  refine ⟨?_, hpath⟩
  rw [Disk.length_congr (hf qw.path (by rw [view, hst]; rfl)), hlen]

/-- What is written to is a capture. -/
theorem Measured.capture {r : Recorder} (h : r.Measured) {p : FilePath}
    (hp : r.view.writer = some p) :
    ∃ (e : ManifestEntry) (dir : PathBuf), p = e.getFilepath .qmdl dir := by
  obtain ⟨qw, aw, hs⟩ := DiagState.isRecording_iff.1 (by rw [isRecording_eq, hp]; rfl)
  obtain ⟨-, e, dir, hq, -⟩ := h qw aw hs
  rw [view, hs] at hp
  exact ⟨e, dir, (Option.some.inj hp).symm.trans hq⟩

/-! ## Positions -/

/-- A position goes to no capture. -/
theorem handleGpsUpdate_measured {r : Recorder} (h : r.Measured) (lat lon : Coordinate)
    (io : GpsIo) : (r.handleGpsUpdate lat lon io).Measured := by
  unfold handleGpsUpdate
  split
  · exact h
  · next i entry hget =>
    simp only
    split
    · exact h
    · exact h
    · next d hd =>
      refine h.of_same (by rw [task_note]; rfl) fun p hp => ?_
      obtain ⟨e, dir, rfl⟩ := h.capture hp
      have hne : e.getFilepath .qmdl dir ≠ entry.getFilepath .gps r.storage.store.path :=
        ManifestEntry.qmdl_ne (by decide)
      rw [storage_note]
      exact (appendLine_files d _ _ hne).trans (openEntryGpsForAppend_files hd hne)

theorem writeFixedPosition_files (r : Recorder) (writer : FilePath) (io : GpsIo)
    (e : ManifestEntry) :
    (r.writeFixedPosition writer io).2.storage.store = r.storage.store ∧
      (r.writeFixedPosition writer io).2.storage.files (e.getFilepath .qmdl r.storage.store.path) =
        r.storage.files (e.getFilepath .qmdl r.storage.store.path) := by
  unfold writeFixedPosition
  split
  · simp only
    split
    · exact ⟨rfl, rfl⟩
    · exact ⟨rfl, rfl⟩
    · next d hd =>
      have hne : ∀ e' : ManifestEntry, e.getFilepath .qmdl r.storage.store.path ≠
          e'.getFilepath .gps r.storage.store.path := fun e' => ManifestEntry.qmdl_ne (by decide)
      split <;>
      · rw [storage_note]
        exact ⟨rfl, (appendLine_files d _ _ (hne _)).trans (openEntryGpsForAppend_files hd (hne _))⟩
  · exact ⟨rfl, rfl⟩

/-! ## Starting -/

theorem saveSidecar_files (r : Recorder) (io : SidecarIo) (e : ManifestEntry) :
    (r.saveSidecar io).storage.store = r.storage.store ∧
      (r.saveSidecar io).storage.files (e.getFilepath .qmdl r.storage.store.path) =
        r.storage.files (e.getFilepath .qmdl r.storage.store.path) := by
  unfold saveSidecar
  split
  · exact ⟨rfl, rfl⟩
  · exact ⟨rfl, writeSidecar_files _ _ _ (ManifestEntry.qmdl_ne (by decide))
      ManifestEntry.qmdl_ne_sidecarTmp⟩

section
variable [Gzip] [SerdeJson] [Chrono] [Toml] [Sidecar] [Build]

omit [Gzip] [SerdeJson] [Chrono] [Toml] [Sidecar] [Build] in
theorem writeFixedPosition_task (r : Recorder) (writer : FilePath) (io : GpsIo) :
    (r.writeFixedPosition writer io).2.task = r.task := by
  unfold writeFixedPosition
  split
  · simp only
    split
    · rfl
    · rfl
    · split <;> exact task_note ..
  · rfl

omit [Gzip] [Chrono] [Toml] [Sidecar] in
/-- A new writer is at the beginning of an empty file, which nothing that is written before the
recording begins goes to. -/
theorem openWriters_measured {r : Recorder} {entry : ManifestEntry} (hw : r.view.writer = none)
    (hf : r.storage.files (entry.getFilepath .qmdl r.storage.store.path) = some (.text ""))
    (io : StartIo) : (r.openWriters entry io).2.Measured := by
  have htask := r.writeFixedPosition_task (entry.getFilepath .qmdl r.storage.store.path) io.gps
  obtain ⟨hstore, hfile⟩ :=
    r.writeFixedPosition_files (entry.getFilepath .qmdl r.storage.store.path) io.gps entry
  simp only [openWriters]
  generalize r.writeFixedPosition _ io.gps = q at htask hstore hfile ⊢
  obtain ⟨result, r₁⟩ := q
  have hidle : ∀ r₂ : Recorder, r₂.task = r.task → r₂.Measured := fun r₂ ht =>
    measured_of_idle (by rw [← hw, view, ht]; rfl)
  cases result with
  | error e => exact hidle r₁ htask
  | ok u =>
    obtain ⟨-, hsave⟩ := r₁.saveSidecar_files io.sidecar entry
    have hsavetask : (r₁.saveSidecar io.sidecar).task = r.task := by
      rw [← htask]
      unfold saveSidecar
      split <;> rfl
    simp only at hstore hfile
    rw [hstore, hfile, hf] at hsave
    simp only
    cases hn : AnalysisWriter.new (entry.getFilepath .analysis r.storage.store.path)
      (r₁.saveSidecar io.sidecar).task.analyzerConfig ⟨io.homePlmn⟩ io.analysis
      (r₁.saveSidecar io.sidecar).storage.device.disk with
    | mk result d =>
      cases result with
      | error e => exact hidle _ hsavetask
      | ok aw =>
        obtain ⟨hpath, hfiles⟩ := new_ok hn
        intro qw aw' hst
        cases hst
        refine ⟨?_, entry, r.storage.store.path, rfl, hpath⟩
        show d.length (entry.getFilepath .qmdl r.storage.store.path) = some 0
        rw [Disk.length_congr (hfiles _ (ManifestEntry.qmdl_ne (by decide))), Disk.length]
        exact congrArg (Option.map _) hsave

omit [Gzip] [Chrono] [Build] in
/-- Making room leaves the capture. -/
theorem makeRoom_measured {r : Recorder} (h : r.Measured) (hp : r.view.Paired) (io : StartIo) :
    (r.resetCounters.makeRoom io).Measured := by
  refine h.of_same (by rw [makeRoom_task]; rfl) fun p hw => ?_
  unfold makeRoom
  split
  · exact prune_keeps_capture (hp p hw) _ _ _
  · rfl

omit [Chrono] in
theorem start_measured {r : Recorder} (h : r.Measured) (hp : r.view.Paired) (io : StartIo) :
    (r.start io).2.Measured := by
  have hroom := makeRoom_measured h hp io
  have hready : (r.ready io).view.writer = none := by rw [ready_view]
  have hinner : (r.startInner io).2.Measured := by
    unfold startInner
    simp only
    split
    · exact hroom
    · rw [show (r.resetCounters.makeRoom io).finishRunning io.finish = r.ready io from rfl]
      have hidle : ∀ s, ((r.ready io).withStorage s).Measured := fun s => measured_of_idle hready
      cases hn : (r.ready io).storage.newEntry (r.ready io).task.gpsMode io.entry with
      | mk result s =>
        cases result with
        | error e => exact hidle s
        | ok entry => exact openWriters_measured (r := (r.ready io).withStorage s) hready (newEntry_qmdl hn) io
  unfold start
  generalize r.startInner io = q at hinner ⊢
  obtain ⟨result, r₁⟩ := q
  cases result <;> exact hinner

omit [Chrono] in
/-- A rotation ends with a new writer or with none. -/
theorem rotate_measured (r : Recorder) (reason : String) (io : RotateIo) :
    (r.rotate reason io).Measured := by
  have hidle : (r.finishCurrentEntry (some reason) io.finish).view.writer = none := by
    rw [finishCurrentEntry_view]
    rfl
  have hstart := start_measured (measured_of_idle hidle)
    (fun w hw => by rw [hidle] at hw; cases hw) io.start
  unfold rotate
  generalize (r.finishCurrentEntry (some reason) io.finish).start io.start = q at hstart ⊢
  obtain ⟨result, r₁⟩ := q
  cases result with
  | error e => exact measured_of_idle (by rw [stop_view]; rfl)
  | ok u =>
    simp only
    split <;> exact hstart

/-- So does a move to another store. -/
theorem switchStore_measured (r : Recorder) (path : PathBuf) (reason : String) (io : SwitchIo) :
    (r.switchStore path reason io).2.Measured := by
  rcases r.switchStore_cases path reason io with ⟨-, -, hrel, -⟩ | ⟨r₁, -, hrel, -, heq, -⟩
  · exact measured_of_idle hrel.writer
  · rw [heq]
    exact start_measured (measured_of_idle hrel.writer)
      (fun w hw => by rw [hrel.writer] at hw; cases hw) io.start

/-! ## Containers -/

omit [Decoders] [Detectors] [Gzip] [Toml] [Sidecar] [Build] in
theorem writeRows_files {p q : FilePath} (h : q ≠ p) (rows : List AnalysisRow)
    (faults : Nat → WriteFault) (maxType : EventType) (d : Disk) :
    (writeRows p rows faults maxType d).2.files q = d.files q := by
  induction rows generalizing faults maxType d with
  | nil => rfl
  | cons row rows ih =>
    rw [writeRows]
    split
    · exact ih _ _ _
    · split
      · next e n hf => exact writeLine_files d row.toJson (some (e, n)) h
      · rw [ih]
        exact writeLine_files d row.toJson none h

omit [Gzip] [Toml] [Sidecar] [Build] in
/-- An analysis writes to its report alone. -/
theorem analyzeContainerInner_files (w : AnalysisWriter) (container : MessagesContainer)
    (label : Option String) (faults : Nat → WriteFault) (d : Disk) :
    (w.analyzeContainerInner container label faults d).2.1.path = w.path ∧
      ∀ q, q ≠ w.path → (w.analyzeContainerInner container label faults d).2.2.files q = d.files q :=
  ⟨rfl, fun _ hq => writeRows_files hq _ _ _ _⟩

omit [Chrono] [Build] in
/-- The space check leaves the capture, whether the recording is to go on or not. -/
theorem keepSpace_measured {r : Recorder} (h : r.Measured) (hp : r.view.Paired) (io : ContainerIo) :
    (∀ c, r.spaceClosing io = some c → c.recorder.Measured) ∧
      ∀ r', r.keepSpace io = .ok r' → r'.Measured ∧ r'.task.state = r.task.state := by
  have hcheck : ∀ n b, (r.withSpaceCheck n b).Measured := fun n b =>
    h.of_same rfl fun _ _ => rfl
  constructor
  · intro c hc
    unfold spaceClosing at hc
    split at hc
    · cases hc
    · simp only at hc
      split at hc
      · cases hc
        exact Measured.of_same (hcheck 0 r.task.lowSpaceWarned) rfl fun _ _ => rfl
      · cases hc
  · intro r' hk
    unfold keepSpace at hk
    split at hk
    · cases hk
      exact ⟨h, rfl⟩
    · have hp₁ : (r.withSpaceCheck 0 r.task.lowSpaceWarned).view.Paired := hp
      have hs₁ : (r.withSpaceCheck 0 r.task.lowSpaceWarned).task.state = r.task.state := rfl
      have h₁ := hcheck 0 r.task.lowSpaceWarned
      generalize r.withSpaceCheck 0 r.task.lowSpaceWarned = r₁ at hk hp₁ hs₁ h₁
      simp only at hk
      split at hk
      · cases hk
      · generalize hq : (if r₁.task.autoDeleteClean = true then pruneCleanRecordings r₁.storage
          r₁.task.minSpaceToStartMb r₁.task.uploadsConfigured io.prune else (0, r₁.storage)) = q at hk
        have hprune : ∀ r₂ : Recorder, r₂.task.state = r₁.task.state → r₂.storage = q.2 →
            r₂.Measured := by
          intro r₂ hs₂ hst
          refine h₁.of_same hs₂ fun p hw => ?_
          rw [hst, ← hq]
          split
          · exact prune_keeps_capture (hp₁ p hw) _ _ _
          · rfl
        split at hk
        · cases hk; exact ⟨hprune _ rfl rfl, hs₁⟩
        · split at hk <;> cases hk <;> exact ⟨hprune _ rfl rfl, hs₁⟩
      · cases hk; exact ⟨h₁, hs₁⟩
      · cases hk; exact ⟨h₁, hs₁⟩

omit [SerdeJson] [Chrono] [Sidecar] [Build] in
/-- A container is written at the end of the capture, whatever of it lands, and the capture is not what
noting its size rewrites. -/
theorem Measured.stored {r r₁ : Recorder} (h : r.Measured) (hp : r.view.Paired)
    {qmdlWriter qw : QmdlWriter} {analysisWriter : AnalysisWriter} {container : MessagesContainer}
    {io : ContainerIo} (hs : r.task.state = .recording qmdlWriter analysisWriter)
    (hstored : Stored r qmdlWriter analysisWriter container io r₁ qw) :
    r₁.Measured ∧ r₁.task.state = .recording qw analysisWriter := by
  have hw : r.view.writer = some qmdlWriter.path := by rw [view, hs]; rfl
  induction hstored with
  | @written result qw d hwrite =>
    have hpath := qmdlWriter.writeContainer_path container io.write r.storage.device.disk
    rw [hwrite] at hpath
    obtain ⟨hlen, e, dir, hq, ha⟩ := h _ _ hs
    have hat := qmdlWriter.advance_length (QmdlWriter.containerOps container) false io.write hlen
    rw [← QmdlWriter.writeContainer, hwrite] at hat
    refine ⟨fun qw' aw' hst => ?_, rfl⟩
    cases hst
    exact ⟨hpath ▸ hat, e, dir, hpath.trans hq, ha⟩
  | @sized r₁ qw fileSize hprev ih =>
    obtain ⟨hmeasured, hs₁⟩ := ih
    have hcur : r₁.view.current = some (some qw.path) := by
      rw [hprev.view hw, hprev.path]
      exact hp _ hw
    obtain ⟨i, e, -, -, he⟩ := RecordingStore.capture_eq_some.1 hcur
    have hfiles := r₁.storage.updateCurrentEntryQmdlSize_files fileSize io.now io.manifest e .qmdl
    rw [← he] at hfiles
    have hstate := congrArg DiagTask.state (task_note r₁ .size (some qw.path))
    refine ⟨hmeasured.of_same hstate fun p hsome => ?_, hstate.trans hs₁⟩
    have hpath : qw.path = p := by
      rw [view, hs₁] at hsome
      exact Option.some.inj hsome
    rw [← hpath]
    exact hfiles

omit [SerdeJson] [Chrono] [Build] in
theorem storeContainer_measured {r : Recorder} (h : r.Measured) (hp : r.view.Paired)
    {qmdlWriter : QmdlWriter} {analysisWriter : AnalysisWriter}
    (hs : r.task.state = .recording qmdlWriter analysisWriter) (container : MessagesContainer)
    (io : ContainerIo) :
    (∀ c, r.storeClosing qmdlWriter analysisWriter container io = some c → c.recorder.Measured) ∧
      ∀ p, r.storeContainer qmdlWriter analysisWriter container io = .ok p →
        p.1.Measured ∧ p.1.task.state = .recording p.2.1 analysisWriter := by
  obtain ⟨r₁, qw, hstored, ⟨reason, hc, hst⟩ | ⟨hc, reason, hst⟩⟩ :=
    r.storeClosing_cases qmdlWriter analysisWriter container io
  · refine ⟨fun c hk => ?_, fun p hk => ?_⟩
    · cases hc.symm.trans hk
      exact (h.stored hp hs hstored).1
    · cases hst.symm.trans hk
  · refine ⟨fun c hk => ?_, fun p hk => ?_⟩
    · cases hc.symm.trans hk
    · cases hst.symm.trans hk
      exact h.stored hp hs hstored

omit [Gzip] [SerdeJson] [Chrono] [Toml] [Sidecar] [Build] in
theorem announce_same (r : Recorder) (maxType : EventType) :
    (r.announce maxType).task.state = r.task.state ∧ (r.announce maxType).storage = r.storage := by
  unfold announce
  simp only
  by_cases hpos : EventType.informational < maxType
  · simp only [if_pos hpos]
    split <;> exact ⟨rfl, rfl⟩
  · simp only [if_neg hpos]
    split <;> exact ⟨rfl, rfl⟩

omit [Gzip] [Toml] [Sidecar] [Build] in
/-- The report of a container is no capture. -/
theorem analyzeContainer_measured {r : Recorder} (h : r.Measured) {qmdlWriter : QmdlWriter}
    {analysisWriter : AnalysisWriter} (hs : r.task.state = .recording qmdlWriter analysisWriter)
    (container : MessagesContainer) (demo : Bool) (faults : Nat → WriteFault) :
    (r.analyzeContainer qmdlWriter analysisWriter container demo faults).Measured := by
  obtain ⟨hlen, e, dir, hq, ha⟩ := h _ _ hs
  unfold analyzeContainer
  simp only
  obtain ⟨hpath, hfiles⟩ := analyzeContainerInner_files analysisWriter container
    (if demo then some DEMO_PREFIX else none) faults (r.countContainer container).storage.device.disk
  have hother := hfiles qmdlWriter.path (by rw [hq, ha]; exact ManifestEntry.qmdl_ne (by decide))
  generalize analysisWriter.analyzeContainerInner container _ faults _ = p at hpath hother ⊢
  obtain ⟨analysis, aw, d⟩ := p
  simp only at hpath hother
  have hwritten : (((r.countContainer container).withDisk d).withState
      (.recording qmdlWriter aw)).Measured := by
    intro qw' aw' hst
    cases hst
    exact ⟨(Disk.length_congr hother).trans hlen, e, dir, hq, hpath.trans ha⟩
  have hannounce : ∀ maxType, ((((r.countContainer container).withDisk d).withState
      (.recording qmdlWriter aw)).announce maxType).Measured := by
    intro maxType
    obtain ⟨hst, hsame⟩ := announce_same (((r.countContainer container).withDisk d).withState
      (.recording qmdlWriter aw)) maxType
    exact hwritten.of_same hst fun _ _ => by rw [hsame]
  cases analysis <;> exact hannounce _

omit [Build] in
theorem recordContainer_measured {r : Recorder} (h : r.Measured) (hp : r.view.Paired)
    (container : MessagesContainer) (demo : Bool) (io : ContainerIo) :
    (r.recordContainer container demo io).1.Measured := by
  unfold recordContainer
  cases hs : r.task.state with
  | stopped => exact h
  | recording qw aw =>
    have hw : r.view.writer = some qw.path := by rw [view, hs]; rfl
    obtain ⟨herr, hview⟩ := r.keepSpace_view io
    simp only
    cases hk : r.keepSpace io with
    | error r' => exact measured_of_idle (by rw [herr r' hk]; rfl)
    | ok r₁ =>
      obtain ⟨h₁, hs₁⟩ := (keepSpace_measured h hp io).2 r₁ hk
      have hv₁ := hview r₁ hk
      simp only
      cases hst : r₁.storeContainer qw aw container io with
      | error r' =>
        have hv := (storeContainer_view (hv₁ ▸ hw) aw container io).1 r' hst
        exact measured_of_idle (by rw [hv]; rfl)
      | ok p =>
        obtain ⟨h₂, hs₂⟩ := (storeContainer_measured h₁ (by rw [hv₁]; exact hp) (hs₁.trans hs)
          container io).2 p hst
        exact analyzeContainer_measured h₂ hs₂ _ _ _

theorem processContainerInner_measured {r : Recorder} (h : r.Measured) (hp : r.view.Paired)
    (container : MessagesContainer) (demo : Bool) (io : ContainerIo) :
    (r.processContainerInner container demo io).Measured := by
  rcases r.processContainerInner_cases container demo io with heq | ⟨-, heq⟩ | ⟨reason, -, heq⟩
  · rw [heq]; exact h
  · rw [heq]; exact recordContainer_measured h hp _ _ _
  · rw [heq]; exact rotate_measured _ _ _

omit [Build] in
/-- What a container closes is closed with the writer at the end of its file. -/
theorem containerClosing_measured {r : Recorder} (h : r.Measured) (hp : r.view.Paired)
    {container : MessagesContainer} {demo : Bool} {io : ContainerIo} {c : Closing}
    (hc : r.containerClosing container demo io = some c) : c.recorder.Measured := by
  unfold containerClosing at hc
  split at hc
  · cases hc
  · split at hc
    · cases hc
    · next qw aw hs =>
      split at hc
      · exact (keepSpace_measured h hp io).1 c hc
      · next r₁ hk =>
        obtain ⟨h₁, hs₁⟩ := (keepSpace_measured h hp io).2 r₁ hk
        have hv₁ := (r.keepSpace_view io).2 r₁ hk
        split at hc
        · exact (storeContainer_measured h₁ (by rw [hv₁]; exact hp) (hs₁.trans hs) container io).1 c hc
        · obtain ⟨q, hq, rfl⟩ := Option.map_eq_some_iff.1 hc
          have hrec := recordContainer_measured h hp container demo io
          unfold rotationOf at hq
          split at hq
          · cases hq
          · obtain ⟨reason, -, rfl⟩ := Option.map_eq_some_iff.1 hq
            exact hrec

/-! ## Every step -/

omit [Build] in
/-- What a step closes is closed with the writer at the end of its file. -/
theorem closing_measured {r : Recorder} {op : RecorderStep} {c : Closing} (h : r.Measured)
    (hp : r.view.Paired) (hc : r.closing op = some c) : c.recorder.Measured := by
  have hwith : ∀ {reason io}, r.closingWith reason io = some c → c.recorder.Measured := by
    intro reason io hc
    obtain ⟨-, rfl⟩ := closingWith_eq_some hc
    exact h
  cases op with
  | injectDemo container io =>
    cases container with
    | none => cases hc
    | some container => exact containerClosing_measured h hp hc
  | stopRecording io =>
    obtain ⟨-, rfl⟩ := closingWith_eq_some hc
    exact Measured.of_same h rfl fun _ _ => rfl
  | switchStore path reason io => exact hwith hc
  | startRecording io =>
    have hc' : (r.withStoppedByUser false).startClosing io = some c := hc
    have hroom := makeRoom_measured (r := r.withStoppedByUser false) (h.of_same rfl fun _ _ => rfl)
      hp io
    unfold startClosing at hc'
    simp only at hc'
    split at hc'
    · cases hc'
    · obtain ⟨-, rfl⟩ := closingWith_eq_some hc'
      exact hroom
  | deleteEntry name stop io =>
    simp only [closing] at hc
    split at hc
    · exact hwith hc
    · cases hc
  | deleteAllEntries stop io => exact hwith hc
  | gpsUpdate lat lon io => cases hc
  | exit => cases hc
  | container container io => exact containerClosing_measured h hp hc
  | setEntryAnnotations name displayName notes io => cases hc
  | markEntryAsUploaded name uploadTime io => cases hc
  | files disk => cases hc

omit [Gzip] [SerdeJson] [Chrono] [Toml] [Sidecar] [Build] in
/-- An entry that is edited leaves the writer at the end of its file. -/
theorem Measured.withStorage {r : Recorder} (h : r.Measured) (hp : r.view.Paired) {s : Storage}
    (hf : ∀ e : ManifestEntry, s.files (e.getFilepath .qmdl r.storage.store.path) =
      r.storage.files (e.getFilepath .qmdl r.storage.store.path)) : (r.withStorage s).Measured := by
  refine h.of_same rfl fun p hw => ?_
  obtain ⟨i, e, -, -, rfl⟩ := RecordingStore.capture_eq_some.1 (hp p hw)
  exact hf e

/-- **The writer stays at the end of its file**, as long as nobody else touches the files. -/
theorem measured_step {r r' : Recorder} {op : RecorderStep} (h : r.Measured) (hp : r.view.Paired)
    (hop : ∀ d, op ≠ .files d) (hst : r.step op = some r') : r'.Measured := by
  cases op with
  | injectDemo container io =>
    cases container with
    | none => cases hst; exact h
    | some container => cases hst; exact processContainerInner_measured h hp _ _ _
  | stopRecording io => cases hst; exact measured_of_idle (by rw [stop_view]; rfl)
  | switchStore path reason io => cases hst; exact switchStore_measured _ _ _ _
  | startRecording io =>
    cases hst
    exact start_measured (r := r.withStoppedByUser false) (h.of_same rfl fun _ _ => rfl) hp io
  | deleteEntry name stop io =>
    cases hst
    by_cases hc : r.storage.store.isCurrentEntry name = true
    · exact measured_of_idle (by rw [deleteEntry_view, if_pos hc]; rfl)
    · unfold Recorder.deleteEntry
      rw [if_neg hc]
      exact h.of_same rfl fun p hw =>
        deleteEntry_keeps_capture (hp p hw) (Bool.eq_false_iff.2 hc) io
  | deleteAllEntries stop io => cases hst; exact measured_of_idle (by rw [deleteAllEntries_view]; rfl)
  | gpsUpdate lat lon io => cases hst; exact handleGpsUpdate_measured h _ _ _
  | exit => cases hst
  | container container io => cases hst; exact processContainerInner_measured h hp _ _ _
  | setEntryAnnotations name displayName notes io =>
    cases hst
    exact h.withStorage hp fun e => setEntryAnnotations_files _ _ _ _ _ e .qmdl
  | markEntryAsUploaded name uploadTime io =>
    cases hst
    exact h.withStorage hp fun e => markEntryAsUploaded_files _ _ _ _ e .qmdl
  | files disk => exact absurd rfl (hop disk)

/-! ## What a closing leaves -/

/-- The closing of a capture took `before` to `after`: it found the entry of the capture current, the
size the manifest has for that entry is the length of the file, and the entry is closed. -/
def ClosedProperly (before after : Recorder) : Prop :=
  ∀ qmdlWriter analysisWriter, before.task.state = .recording qmdlWriter analysisWriter →
    ∃ i e e', before.storage.store.getCurrentEntry = some (i, e) ∧
      qmdlWriter.path = e.getFilepath .qmdl before.storage.store.path ∧
      after.storage.store.manifest.entries[i]? = some e' ∧ e'.key = e.key ∧
      after.storage.device.disk.length qmdlWriter.path = some e'.qmdlSizeBytes ∧
      after.storage.store.currentEntry = none

/-- The entry at `i` is that of the capture `q`, and its size is the length of the file. -/
def SizedEntry (s : Storage) (i : Nat) (key : String × Bool) (q : FilePath) : Prop :=
  ∃ e, s.store.manifest.entries[i]? = some e ∧ e.key = key ∧
    q = e.getFilepath .qmdl s.store.path ∧ s.device.disk.length q = some e.qmdlSizeBytes

omit [Decoders] [Detectors] [Gzip] [SerdeJson] [Chrono] [Sidecar] [Build] in
/-- A stop reason changes neither. -/
theorem SizedEntry.setCurrentStopReason {s : Storage} {i : Nat} {key : String × Bool}
    {q : FilePath} (h : SizedEntry s i key q) (reason : String) (io : ManifestIo) :
    SizedEntry (s.setCurrentStopReason reason io).2 i key q := by
  obtain ⟨e, he, hkey, hq, hlen⟩ := h
  have hfile := s.setCurrentStopReason_files reason io e .qmdl
  rw [← hq] at hfile
  have hlen' := (Disk.length_congr hfile).trans hlen
  unfold Storage.setCurrentStopReason at hlen' ⊢
  cases hcur : s.store.currentEntry with
  | none => exact ⟨e, he, hkey, hq, hlen⟩
  | some j =>
    rw [hcur] at hlen'
    have hget : (s.store.manifest.entries.modify j fun e => { e with stopReason := some reason })[i]? =
        some (if j = i then { e with stopReason := some reason } else e) := by
      rw [List.getElem?_modify, he]
      rfl
    refine ⟨_, hget, ?_, ?_, hlen'.trans ?_⟩
    · split <;> exact hkey
    · split <;> exact hq
    · split <;> rfl

omit [Decoders] [Detectors] [Gzip] [SerdeJson] [Chrono] [Toml] [Build] in
/-- Nor does closing an entry. -/
theorem SizedEntry.closeCurrentEntry {s : Storage} {i : Nat} {key : String × Bool} {q : FilePath}
    (h : SizedEntry s i key q) (io : SidecarIo) : SizedEntry (s.closeCurrentEntry io).2 i key q := by
  obtain ⟨e, he, hkey, hq, hlen⟩ := h
  have hfile := s.closeCurrentEntry_qmdl io e
  rw [← hq] at hfile
  refine ⟨e, ?_, hkey, ?_, (Disk.length_congr hfile).trans hlen⟩
  · rw [closeCurrentEntry_store]
    exact he
  · rw [closeCurrentEntry_store]
    exact hq

omit [Decoders] [Detectors] [Gzip] [SerdeJson] [Chrono] [Sidecar] [Build] in
/-- The size that is noted is that of the current entry. -/
theorem updateCurrentEntryQmdlSize_sized {s : Storage} {i : Nat} {e : ManifestEntry} {q : FilePath}
    {size : Nat} (hc : s.store.getCurrentEntry = some (i, e))
    (hq : q = e.getFilepath .qmdl s.store.path) (hlen : s.device.disk.length q = some size)
    (now : DateTime) (io : ManifestIo) :
    SizedEntry (s.updateCurrentEntryQmdlSize size now io).2 i e.key q := by
  obtain ⟨hi, he⟩ := RecordingStore.getCurrentEntry_eq_some.1 hc
  have hfile := s.updateCurrentEntryQmdlSize_files size now io e .qmdl
  rw [← hq] at hfile
  have hlen' := (Disk.length_congr hfile).trans hlen
  have hget : (s.store.manifest.entries.modify i fun e =>
      { e with qmdlSizeBytes := size, lastMessageTime := some now })[i]? =
      some { e with qmdlSizeBytes := size, lastMessageTime := some now } := by
    rw [List.getElem?_modify_eq, he]
    rfl
  unfold updateCurrentEntryQmdlSize at hlen' ⊢
  rw [hi] at hlen' ⊢
  exact ⟨_, hget, rfl, hq, hlen'⟩

omit [SerdeJson] [Chrono] [Sidecar] [Build] in
/-- The size noted when the writers are closed is the length the capture is left with. -/
theorem stopCurrentRecording_sized {r : Recorder} (h : r.Measured) {io : CloseIo}
    (hio : io.close = {}) {qmdlWriter : QmdlWriter} {analysisWriter : AnalysisWriter}
    (hs : r.task.state = .recording qmdlWriter analysisWriter) {i : Nat} {e : ManifestEntry}
    (hc : r.storage.store.getCurrentEntry = some (i, e))
    (hq : qmdlWriter.path = e.getFilepath .qmdl r.storage.store.path) :
    SizedEntry (r.stopCurrentRecording io).storage i e.key qmdlWriter.path := by
  obtain ⟨size, d, hclose, hsize⟩ := qmdlWriter.close_length (h _ _ hs).1
  have hstorage : (r.stopCurrentRecording io).storage =
      ((r.storage.withDisk d).updateCurrentEntryQmdlSize size io.now io.manifest).2 := by
    unfold stopCurrentRecording
    rw [hs]
    simp only [hio]
    rw [show qmdlWriter.close {} (r.withState .stopped).storage.device.disk = _ from hclose]
    simp only [storage_note]
    rfl
  rw [hstorage]
  exact updateCurrentEntryQmdlSize_sized (s := r.storage.withDisk d) hc hq hsize _ _

omit [SerdeJson] [Chrono] [Build] in
/-- **A capture is closed properly** where its entry is current and the disk takes what closing it
writes. -/
theorem finishCurrentEntry_closedProperly {r : Recorder} (h : r.Measured) (hp : r.view.Paired)
    (reason : Option String) {io : FinishIo} (hio : io.close.close = {}) :
    r.ClosedProperly (r.finishCurrentEntry reason io) := by
  intro qw aw hs
  obtain ⟨i, e, hi, he, hq⟩ := RecordingStore.capture_eq_some.1 (hp qw.path (by rw [view, hs]; rfl))
  have hget := RecordingStore.getCurrentEntry_eq_some.2 ⟨hi, he⟩
  have hsized := stopCurrentRecording_sized h hio hs hget hq
  have hclosed : (r.finishCurrentEntry reason io).storage.store.currentEntry = none := by
    rw [← RecordingStore.capture_eq_none]
    exact congrArg View.current (r.finishCurrentEntry_view reason io)
  have hnoted : ∀ r₁ : Recorder, SizedEntry r₁.storage i e.key qw.path → ∀ writer,
      SizedEntry (r₁.noteStopReason reason writer io.reason).storage i e.key qw.path := by
    intro r₁ h₁ writer
    unfold noteStopReason
    cases reason with
    | none => exact h₁
    | some reason =>
      simp only [storage_note]
      exact h₁.setCurrentStopReason reason io.reason
  have hqueued : ∀ (r₁ : Recorder) (writer : Option FilePath),
      (r₁.queueAnalysis writer).storage = r₁.storage := by
    intro r₁ writer
    unfold queueAnalysis
    split
    · rfl
    · exact storage_note ..
  obtain ⟨e', he', hkey, -, hlen⟩ : SizedEntry (r.finishCurrentEntry reason io).storage i e.key
      qw.path := by
    unfold finishCurrentEntry
    simp only [withStorage]
    rw [hqueued]
    exact (hnoted ((r.stopCurrentRecording io.close).withStartedAt none) hsized _).closeCurrentEntry _
  exact ⟨i, e, e', hget, hq, he', hkey, hlen, hclosed⟩

end

end Recorder

end Rayhunter
