import Rayhunter.Recorder.Task

/-!
# What the recording task does

The functions of `DiagTask` (`daemon/src/diag.rs`) and the messages its loop handles. What clock and
device answer is an argument of each function, one record for each; a reading of the disk or of the
clock is one answer for each time it is taken.
-/

namespace Rayhunter

open Storage

namespace Recorder

variable [Decoders] [Detectors] [Gzip] [SerdeJson] [Chrono] [Toml] [Sidecar] [Build]

/-! ## Finishing a recording -/

/-- What the device answers `stop_current_recording`. -/
structure CloseIo where
  close : QmdlWriter.CloseIo := {}
  now : DateTime
  manifest : ManifestIo := {}

/-- `stop_current_recording` (`diag.rs:598`). The report is written and flushed line by line, so
closing it has nothing left to do. -/
def stopCurrentRecording (r : Recorder) (io : CloseIo) : Recorder :=
  match r.task.state with
  | .stopped => r
  | .recording qmdlWriter _ =>
    let r := r.withState .stopped
    match qmdlWriter.close io.close r.storage.device.disk with
    | (.error _, d) => r.withDisk d
    | (.ok size, d) =>
      let r := (r.withDisk d).note .size (some qmdlWriter.path)
      r.withStorage (r.storage.updateCurrentEntryQmdlSize size io.now io.manifest).2

/-- What the device answers `finish_current_entry`. -/
structure FinishIo where
  close : CloseIo
  reason : ManifestIo := {}
  sidecar : SidecarIo := {}

/-- The reason a recording stopped for, noted on it (`diag.rs:411`). -/
def noteStopReason (r : Recorder) (reason : Option String) (writer : Option FilePath)
    (io : ManifestIo) : Recorder :=
  match reason with
  | none => r
  | some reason =>
    let r := r.note .stopReason writer
    r.withStorage (r.storage.setCurrentStopReason reason io).2

/-- The current recording is queued for analysis (`diag.rs:416`). -/
def queueAnalysis (r : Recorder) (writer : Option FilePath) : Recorder :=
  match r.storage.store.getCurrentEntry with
  | none => r
  | some (_, entry) =>
    { r.note .recordingFinished writer with finished := entry.name :: r.finished }

/-- `finish_current_entry` (`diag.rs:404`). -/
def finishCurrentEntry (r : Recorder) (reason : Option String) (io : FinishIo) : Recorder :=
  let writer := r.task.state.writerPath?
  let r := (r.stopCurrentRecording io.close).withStartedAt none
  let r := (r.noteStopReason reason writer io.reason).queueAnalysis writer
  r.withStorage (r.storage.closeCurrentEntry io.sidecar).2

/-- `stop` (`diag.rs:486`). -/
def stop (r : Recorder) (reason : Option String) (io : FinishIo) : Recorder :=
  (r.finishCurrentEntry reason io).showOn .paused

/-! ## Positions -/

/-- What the device answers where a position is noted. -/
structure GpsIo where
  «open» : Option IoError := none
  now : DateTime
  write : WriteIo := {}

/-- `GpsRecord` (`gps.rs:51`) as a line of the positions of a recording. -/
def gpsLine (latestPacketTimestamp : Option Int) (now : DateTime) (lat lon : Coordinate) : String :=
  let latest := match latestPacketTimestamp with
    | none => "null"
    | some t => toString t
  "\x7b\"latest_packet_timestamp\":" ++ latest ++ ",\"system_time\":" ++ toString now.timestamp ++
    ",\"lat\":" ++ lat ++ ",\"lon\":" ++ lon ++ "\x7d\n"

/-- `open_entry_gps_for_append` (`qmdl_store.rs:485`), which creates a file that is not there: the
disk with the file open, or nothing where there is no directory for it. -/
def openEntryGpsForAppend (d : Disk) (p : FilePath) (fault : Option IoError) :
    Except RecordingStoreError (Option Disk) :=
  match fault with
  | some e => if e.kind = .notFound then .ok none else .error (.createFileError e)
  | none => .ok (some (if d.Exists p then d else d.set p (some (.text ""))))

/-- A line added to a file nobody flushes. -/
def appendLine (d : Disk) (p : FilePath) (line : String) (io : WriteIo) : Disk :=
  match io.landed with
  | none => d.modify p (·.appendText line)
  | some n => d.modify p (·.appendBytes ((utf8 line).take n))

/-- The configured position, noted as soon as there is a recording to note it on (`diag.rs:321`);
`writer` is the capture just created. -/
def writeFixedPosition (r : Recorder) (writer : FilePath) (io : GpsIo) :
    Except RecordingStoreError Unit × Recorder :=
  match r.task.gpsMode, r.task.gpsFixedCoords, r.storage.store.getCurrentEntry with
  | .fixed, some (lat, lon), some (_, entry) =>
    let path := entry.getFilepath .gps r.storage.store.path
    match openEntryGpsForAppend r.storage.device.disk path io.open with
    | .error e => (.error e, r)
    | .ok none => (.error .gpsStorageNotFound, r)
    | .ok (some d) =>
      let r := (r.withDisk (appendLine d path (gpsLine none io.now lat lon) io.write)).note .gps
        (some writer)
      match io.write.reported with
      | some e => (.error (.writeFileError e), r)
      | none => (.ok (), r)
  | _, _, _ => (.ok (), r)

/-- `handle_gps_update` (`diag.rs:567`). -/
def handleGpsUpdate (r : Recorder) (lat lon : Coordinate) (io : GpsIo) : Recorder :=
  match r.storage.store.getCurrentEntry with
  | none => r
  | some (_, entry) =>
    let path := entry.getFilepath .gps r.storage.store.path
    match openEntryGpsForAppend r.storage.device.disk path io.open with
    | .error _ => r
    | .ok none => r
    | .ok (some d) =>
      (r.withDisk (appendLine d path (gpsLine r.task.latestPacketTimestamp io.now lat lon)
        io.write)).note .gps r.task.state.writerPath?

/-! ## Starting a recording -/

/-- What the device answers `start`. -/
structure StartIo where
  first : DiskReading
  prune : PruneIo
  space : DiskReading
  finish : FinishIo
  entry : NewEntryIo
  gps : GpsIo
  homePlmn : List String := []
  sidecar : SidecarIo := {}
  analysis : WriteFault := none
  startedAt : Instant

/-- `check_disk_space` with the limits of the task. -/
def checkSpace (r : Recorder) (reading : DiskReading) : DiskSpaceCheck :=
  checkDiskSpace reading r.task.minSpaceToStartMb r.task.minSpaceToContinueMb

/-- Recordings that found nothing, deleted to make room (`diag.rs:263`). -/
def makeRoom (r : Recorder) (io : StartIo) : Recorder :=
  if r.task.autoDeleteClean ∧ (r.checkSpace io.first).isLow then
    r.withStorage (pruneCleanRecordings r.storage r.task.minSpaceToStartMb
      r.task.uploadsConfigured io.prune).2
  else r

/-- The error of a start there is no space for (`diag.rs:283`). -/
def spaceRefusal (r : Recorder) (reading : DiskReading) : Option RecordingStoreError :=
  match r.checkSpace reading with
  | .critical mb => some (.insufficientDiskSpace mb r.task.minSpaceToContinueMb)
  | .warning mb => some (.insufficientDiskSpace mb r.task.minSpaceToStartMb)
  | .ok _ => none
  | .failed => none

/-- What `start_inner` forgets first (`diag.rs:252`). -/
def resetCounters (r : Recorder) : Recorder :=
  (r.withMaxTypeSeen .informational).withSpaceCheck 0 false

/-- A recording that is still running is finished before the next one (`diag.rs:314`). -/
def finishRunning (r : Recorder) (io : FinishIo) : Recorder :=
  if r.task.state.isRecording then r.finishCurrentEntry none io else r

/-- The sidecar of the current recording; a failure is only logged (`diag.rs:357`). -/
def saveSidecar (r : Recorder) (io : SidecarIo) : Recorder :=
  match r.storage.store.getCurrentEntry with
  | none => r
  | some (_, entry) =>
    r.withDisk (writeSidecar r.storage.device.disk
      (entry.getFilepath .metadata r.storage.store.path) io)

/-- The end of `start_inner` (`diag.rs:318`), once the files of `entry` are there. -/
def openWriters (r : Recorder) (entry : ManifestEntry) (io : StartIo) :
    Except RecordingStoreError Unit × Recorder :=
  let path := r.storage.store.path
  match r.writeFixedPosition (entry.getFilepath .qmdl path) io.gps with
  | (.error e, r) => (.error e, r)
  | (.ok (), r) =>
    let r := r.saveSidecar io.sidecar
    match AnalysisWriter.new (entry.getFilepath .analysis path) r.task.analyzerConfig
        ⟨io.homePlmn⟩ io.analysis r.storage.device.disk with
    | (.error e, d) => (.error (.writeFileError e), r.withDisk d)
    | (.ok analysisWriter, d) =>
      let r := (r.withDisk d).withState
        (.recording (.new (entry.getFilepath .qmdl path)) analysisWriter)
      (.ok (), (r.withStartedAt (some io.startedAt)).showOn .recording)

/-- `start_inner` (`diag.rs:248`). -/
def startInner (r : Recorder) (io : StartIo) : Except RecordingStoreError Unit × Recorder :=
  let r := r.resetCounters.makeRoom io
  match r.spaceRefusal io.space with
  | some e => (.error e, r)
  | none =>
    let r := r.finishRunning io.finish
    match r.storage.newEntry r.task.gpsMode io.entry with
    | (.error e, s) => (.error e, r.withStorage s)
    | (.ok entry, s) => (r.withStorage s).openWriters entry io

/-- `start` (`diag.rs:234`). -/
def start (r : Recorder) (io : StartIo) : Except RecordingStoreError Unit × Recorder :=
  match r.startInner io with
  | (.error e, r) => (.error e, r.showOn .paused)
  | (.ok (), r) => (.ok (), r)

/-! ## Moving to another recording -/

/-- What the device answers `switch_store`. -/
structure SwitchIo where
  finish : FinishIo
  «open» : OpenIo
  start : StartIo

/-- `switch_store` (`diag.rs:437`). -/
def switchStore (r : Recorder) (path : PathBuf) (reason : String) (io : SwitchIo) :
    Except RecordingStoreError Unit × Recorder :=
  let wasRecording := r.task.state.isRecording
  if r.storage.store.path = path then
    if wasRecording then
      (r.finishCurrentEntry (some s!"storage changed: {reason}") io.finish).start io.start
    else if !r.task.stoppedByUser then r.start io.start
    else (.ok (), r)
  else
    let r := if wasRecording then
        r.finishCurrentEntry (some s!"storage changed: {reason}") io.finish
      else r
    match RecordingStore.openOrRecover r.storage.device path io.open with
    | (.error e, device) =>
      let r := r.withStorage { r.storage with device }
      (.error e, if wasRecording then (r.start io.start).2 else r)
    | (.ok store, device) =>
      let r := r.withStorage { store, device }
      if wasRecording || !r.task.stoppedByUser then r.start io.start else (.ok (), r)

/-- What the device answers `rotate`; `stop` is for a start that fails. -/
structure RotateIo where
  finish : FinishIo
  start : StartIo
  stop : FinishIo

/-- `rotate` (`diag.rs:504`). -/
def rotate (r : Recorder) (reason : String) (io : RotateIo) : Recorder :=
  let carried := r.task.maxTypeSeen
  match (r.finishCurrentEntry (some reason) io.finish).start io.start with
  | (.error e, r) =>
    let reason := s!"couldn't start the next recording after rotating: {e.display}"
    (r.notify ⟨.warning, reason, none⟩).stop (some reason) io.stop
  | (.ok (), r) =>
    let r := r.withMaxTypeSeen carried
    if .informational < carried then r.showOn (.warningDetected carried) else r

/-! ## Deleting -/

/-- `delete_entry` (`diag.rs:540`). -/
def deleteEntry (r : Recorder) (name : String) (stopIo : FinishIo) (io : DeleteIo) :
    Except RecordingStoreError Unit × Recorder :=
  let r := if r.storage.store.isCurrentEntry name then r.stop none stopIo else r
  let (result, s) := r.storage.deleteEntry name io
  (result, r.withStorage s)

/-- `delete_all_entries` (`diag.rs:555`). -/
def deleteAllEntries (r : Recorder) (stopIo : FinishIo) (io : DeleteAllIo) :
    Except RecordingStoreError Unit × Recorder :=
  let r := r.stop none stopIo
  let (result, s) := r.storage.deleteAllEntries io
  (result, r.withStorage s)

/-! ## Containers -/

/-- What the device answers `process_container_inner`; `analysis k` is for the row at `k`, `stop`
for a recording that cannot go on. -/
structure ContainerIo where
  reading : DiskReading
  prune : PruneIo
  write : WriteFault := none
  size : Option IoError := none
  now : DateTime
  manifest : ManifestIo := {}
  instant : Instant
  analysis : Nat → WriteFault := fun _ => none
  stop : FinishIo
  rotate : RotateIo

/-- The space check in the write loop (`diag.rs:661`). An error is the recorder with which
`process_container_inner` returns. -/
def keepSpace (r : Recorder) (io : ContainerIo) : Except Recorder Recorder :=
  if r.task.bytesSinceSpaceCheck < DISK_CHECK_BYTES_INTERVAL then .ok r
  else
    let r := r.withSpaceCheck 0 r.task.lowSpaceWarned
    match r.checkSpace io.reading with
    | .critical mb =>
      let reason :=
        s!"Disk space critically low ({mb.toNat}MB free), recording stopped automatically"
      .error ((r.notify ⟨.warning, reason, none⟩).stop (some reason) io.stop)
    | .warning mb =>
      let (freed, s) :=
        if r.task.autoDeleteClean then
          pruneCleanRecordings r.storage r.task.minSpaceToStartMb r.task.uploadsConfigured io.prune
        else (0, r.storage)
      let r := r.withStorage s
      if 0 < freed then .ok (r.withSpaceCheck 0 false)
      else if r.task.lowSpaceWarned then .ok r
      else
        .ok ((r.withSpaceCheck 0 true).notify
          ⟨.warning, s!"Disk space low: {mb.toNat}MB free", some 30⟩)
    | .ok _ => .ok r
    | .failed => .ok r

/-- The reason to rotate at the size limit (`diag.rs:757`). -/
def sizeReason (r : Recorder) (fileSize : Nat) : Option String :=
  (r.task.maxRecordingBytes.filter (·.toNat ≤ fileSize)).map fun limit =>
    s!"Started a new recording automatically: reached the {(limit / 1024 / 1024).toNat} MB limit"

/-- The reason to rotate at the time limit (`diag.rs:771`). -/
def timeReason (r : Recorder) (now : Instant) : Option String :=
  match r.task.maxRecordingDuration, r.task.recordingStartedAt with
  | some limit, some started =>
    if limit.toNat * 1000000000 ≤ now - started then
      some
        s!"Started a new recording automatically: reached the {(limit / 60).toNat} minute limit"
    else none
  | _, _ => none

/-- A container is written to the capture and its size noted (`diag.rs:737`), with the reason to
rotate if there is one. An error is the recorder with which `process_container_inner` returns. -/
def storeContainer (r : Recorder) (qmdlWriter : QmdlWriter) (analysisWriter : AnalysisWriter)
    (container : MessagesContainer) (io : ContainerIo) :
    Except Recorder (Recorder × QmdlWriter × Option String) :=
  match qmdlWriter.writeContainer container io.write r.storage.device.disk with
  | (result, qmdlWriter, d) =>
    let r := (r.withDisk d).withState (.recording qmdlWriter analysisWriter)
    match result with
    | .error e =>
      .error (r.stop (some s!"failed to write to QMDL (disk full?): {e.text}") io.stop)
    | .ok () =>
      match qmdlWriter.size io.size with
      | .error _ => .ok (r, qmdlWriter, r.timeReason io.instant)
      | .ok fileSize =>
        let r := r.note .size (some qmdlWriter.path)
        match r.storage.updateCurrentEntryQmdlSize fileSize io.now io.manifest with
        | (.error e, s) =>
          .error ((r.withStorage s).stop
            (some s!"failed to update manifest (disk full?): {e.display}") io.stop)
        | (.ok (), s) =>
          .ok (r.withStorage s, qmdlWriter, (r.sizeReason fileSize).or (r.timeReason io.instant))

/-- `DEMO_PREFIX` (`demo.rs:36`). -/
def DEMO_PREFIX : String := "[DEMO, NOT REAL] "

/-- The notification of a detection (`diag.rs:827`). -/
def detectionNotice (maxType : EventType) : Notification :=
  ⟨.warning, s!"Rayhunter has detected a {maxType.name} severity event", some (60 * 5)⟩

/-- What follows from the highest severity of a container (`diag.rs:817`). -/
def announce (r : Recorder) (maxType : EventType) : Recorder :=
  let r := if .informational < maxType then r.notify (detectionNotice maxType) else r
  if r.task.maxTypeSeen < maxType then
    let r := r.withMaxTypeSeen maxType
    if .informational < maxType then r.showOn (.warningDetected maxType) else r
  else r

/-- The counts a container adds to (`diag.rs:782`). -/
def countContainer (r : Recorder) (container : MessagesContainer) : Recorder :=
  { r with
    task :=
      { r.task with
        latestPacketTimestamp := container.latestTimestamp.or r.task.latestPacketTimestamp
        bytesSinceSpaceCheck := r.task.bytesSinceSpaceCheck + container.bytes.length } }

/-- A container is analysed (`diag.rs:782`). An analysis that fails counts as nothing found. -/
def analyzeContainer (r : Recorder) (qmdlWriter : QmdlWriter) (analysisWriter : AnalysisWriter)
    (container : MessagesContainer) (demo : Bool) (faults : Nat → WriteFault) : Recorder :=
  let r := r.countContainer container
  match analysisWriter.analyzeContainerInner container (if demo then some DEMO_PREFIX else none)
      faults r.storage.device.disk with
  | (analysis, analysisWriter, d) =>
    let r := (r.withDisk d).withState (.recording qmdlWriter analysisWriter)
    match analysis with
    | .ok maxType => r.announce maxType
    | .error _ => r.announce .informational

/-- What `process_container_inner` does with the writers (`diag.rs:656`), and the reason to rotate
afterwards. -/
def recordContainer (r : Recorder) (container : MessagesContainer) (demo : Bool)
    (io : ContainerIo) : Recorder × Option String :=
  match r.task.state with
  | .stopped => (r, none)
  | .recording qmdlWriter analysisWriter =>
    match r.keepSpace io with
    | .error r => (r, none)
    | .ok r =>
      match r.storeContainer qmdlWriter analysisWriter container io with
      | .error r => (r, none)
      | .ok (r, qmdlWriter, rotateReason) =>
        (r.analyzeContainer qmdlWriter analysisWriter container demo io.analysis, rotateReason)

/-- `process_container_inner` (`diag.rs:637`). -/
def processContainerInner (r : Recorder) (container : MessagesContainer) (demo : Bool)
    (io : ContainerIo) : Recorder :=
  if container.dataType ≠ .userSpace then r
  else
    match r.recordContainer container demo io with
    | (r, none) => r
    | (r, some reason) => r.rotate reason io.rotate

/-! ## The loop -/

end Recorder

open Recorder in
/-- What the task handles: the messages of `DiagDeviceCtrlMessage` (`diag.rs:50`), each with the
answers of the device, and a container off the air. The last three are other holders of the store's
lock, between messages. -/
inductive RecorderStep
  | injectDemo (container : Option MessagesContainer) (io : ContainerIo)
  | stopRecording (io : FinishIo)
  | switchStore (path : PathBuf) (reason : String) (io : SwitchIo)
  | startRecording (io : StartIo)
  | deleteEntry (name : String) (stop : FinishIo) (io : DeleteIo)
  | deleteAllEntries (stop : FinishIo) (io : DeleteAllIo)
  | gpsUpdate (lat lon : Coordinate) (io : GpsIo)
  | exit
  | container (container : MessagesContainer) (io : ContainerIo)
  | setEntryAnnotations (name : String) (displayName notes : Option String) (io : ManifestIo)
  | markEntryAsUploaded (name : String) (uploadTime : DateTime) (io : ManifestIo)
  | files (disk : Disk)

namespace Recorder

section
variable [Decoders] [Detectors]

/-- The recorder with another answer to whether the user stopped it. -/
def withStoppedByUser (r : Recorder) (stoppedByUser : Bool) : Recorder :=
  { r with task := { r.task with stoppedByUser } }

/-- The recorder when the task begins: `main` hands it a store it has opened. -/
structure Fresh (config : RecorderConfig) (r : Recorder) : Prop where
  task : r.task = .new config
  current : r.storage.store.currentEntry = none
  display : r.display = []
  notifications : r.notifications = []
  finished : r.finished = []
  attributed : r.attributed = []

end

variable [Decoders] [Detectors] [Gzip] [SerdeJson] [Chrono] [Toml] [Sidecar] [Build]

/-- One round of the loop of `run_diag_read_thread` (`diag.rs:1077`). Nothing is handled after
`Exit`. -/
def step (r : Recorder) : RecorderStep → Option Recorder
  | .injectDemo none _ => some r
  | .injectDemo (some container) io => some (r.processContainerInner container true io)
  | .stopRecording io => some ((r.withStoppedByUser true).stop none io)
  | .switchStore path reason io => some (r.switchStore path reason io).2
  | .startRecording io => some ((r.withStoppedByUser false).start io).2
  | .deleteEntry name stop io => some (r.deleteEntry name stop io).2
  | .deleteAllEntries stop io => some (r.deleteAllEntries stop io).2
  | .gpsUpdate lat lon io => some (r.handleGpsUpdate lat lon io)
  | .exit => none
  | .container container io => some (r.processContainerInner container false io)
  | .setEntryAnnotations name displayName notes io =>
    some (r.withStorage (r.storage.setEntryAnnotations name displayName notes io).2)
  | .markEntryAsUploaded name uploadTime io =>
    some (r.withStorage (r.storage.markEntryAsUploaded name uploadTime io).2)
  | .files disk => some (r.withDisk disk)

/-! ## A device that answers without faults -/

/-- A reading of a disk with a gigabyte left. -/
def diskRoomy : DiskReading := .ok (some 1073741824)

/-- A pruning of a disk with a gigabyte left. -/
def pruneRoomy : PruneIo := ⟨diskRoomy, fun _ => { reading := diskRoomy }⟩

/-- The configuration a device comes with, with the one detector on. -/
def defaultConfig : RecorderConfig where
  analyzerConfig := nullCipherConfig
  minSpaceToStartMb := 1
  minSpaceToContinueMb := 1
  maxRecordingSizeMb := none
  maxRecordingMinutes := none
  autoDeleteClean := false
  uploadsConfigured := false
  gpsMode := .disabled
  gpsFixedCoords := none

/-- A finish at an instant. -/
def finishAt (now : DateTime) : FinishIo := { close := { now } }

/-- A start at an instant. -/
def startAt (now : DateTime) : StartIo where
  first := diskRoomy
  prune := pruneRoomy
  space := diskRoomy
  finish := finishAt now
  entry := entryAt now
  gps := { now }
  startedAt := 0

/-- A container at an instant. -/
def containerAt (now : DateTime) : ContainerIo where
  reading := diskRoomy
  prune := pruneRoomy
  now
  instant := 0
  stop := finishAt now
  rotate := ⟨finishAt now, startAt now, finishAt now⟩

/-- A storage switch at an instant, to an empty directory. -/
def switchAt (now : DateTime) : SwitchIo where
  finish := finishAt now
  «open» := { dirExists := .ok false, manifestExists := .ok false, recover := { entries := [] } }
  start := startAt now

/-- The recorder of a device that has not recorded anything. -/
def blankRecorder : Recorder where
  task := .new defaultConfig
  storage := ⟨⟨defaultStorePath, ⟨[]⟩, none⟩, emptyDevice⟩

omit [Gzip] [SerdeJson] [Chrono] [Toml] [Sidecar] [Build] in
theorem blankRecorder_fresh : Fresh defaultConfig blankRecorder := ⟨rfl, rfl, rfl, rfl, rfl, rfl⟩

end Recorder

end Rayhunter
