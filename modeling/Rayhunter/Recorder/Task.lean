import Rayhunter.Analysis.Writer
import Rayhunter.Cleanup.Prune
import Rayhunter.Qmdl.Stream
import Rayhunter.Store.Recover

/-!
# The recording task

The state of `DiagTask` (`daemon/src/diag.rs`) with the store it is handed and what it has sent to
the display, the notification worker and the analysis thread. The tracker of cells, which only the
web interface reads, and the hardware and WiFi details, which only the sidecar's text holds, are
left out; the sidecar's text and the home networks of the SIM are answers of the device.
-/

namespace Rayhunter

/-! ## Messages to other tasks -/

/-- `DisplayState` (`display/mod.rs:22`). -/
inductive DisplayState
  | recording
  | paused
  | warningDetected (eventType : EventType)
  deriving DecidableEq, Repr

/-- `NotificationType` (`notifications.rs:26`). -/
inductive NotificationType
  | warning
  | lowBattery
  | update
  | storage
  deriving DecidableEq, Repr

/-- `Notification` (`notifications.rs:35`); the seconds in which it is not repeated. -/
structure Notification where
  notificationType : NotificationType
  message : String
  debounce : Option Nat
  deriving DecidableEq, Repr

/-- What the task notes about a recording. -/
inductive NoteKind
  | size
  | stopReason
  | recordingFinished
  | gps
  deriving DecidableEq, Repr

/-- A note, with the capture of the recording it is put down to and the file of the writer it is
about, where one was open. -/
structure Attribution where
  kind : NoteKind
  recording : FilePath
  writer : Option FilePath
  deriving DecidableEq, Repr

/-! ## Limits -/

/-- `DISK_CHECK_BYTES_INTERVAL` (`diag.rs:48`). -/
def DISK_CHECK_BYTES_INTERVAL : Nat := 256 * 1024

/-- `saturating_mul`. -/
def saturatingMul (a b : UInt64) : UInt64 := UInt64.ofNat (min (a.toNat * b.toNat) (2 ^ 64 - 1))

/-- `rotation_bytes` (`diag.rs:167`). -/
def rotationBytes (mb : Option UInt64) : Option UInt64 :=
  (mb.filter (0 < ·)).map (saturatingMul · (1024 * 1024))

/-- `rotation_duration` (`diag.rs:173`), in seconds. -/
def rotationDuration (minutes : Option UInt64) : Option UInt64 :=
  (minutes.filter (0 < ·)).map (saturatingMul · 60)

/-- A limit that is set is not zero, so a recording does not rotate before anything is in it. -/
theorem rotationBytes_pos {mb : Option UInt64} {limit : UInt64}
    (h : rotationBytes mb = some limit) : 0 < limit.toNat := by
  obtain ⟨m, hm, rfl⟩ := Option.map_eq_some_iff.1 h
  obtain ⟨-, hpos⟩ := Option.filter_eq_some_iff.1 hm
  have hlt : (0 : UInt64) < m := by simpa using hpos
  have hm' : 0 < m.toNat := UInt64.lt_iff_toNat_lt.1 hlt
  have hf : (1024 * 1024 : UInt64).toNat = 1048576 := by decide
  rw [saturatingMul, hf, UInt64.toNat_ofNat']
  omega

/-- `DiskSpaceCheck` (`diag.rs:137`). -/
inductive DiskSpaceCheck
  | ok (mb : UInt64)
  | warning (mb : UInt64)
  | critical (mb : UInt64)
  | failed
  deriving DecidableEq, Repr

/-- `check_disk_space` (`diag.rs:144`). -/
def checkDiskSpace (reading : DiskReading) (warningMb criticalMb : UInt64) : DiskSpaceCheck :=
  match reading with
  | .error _ => .failed
  | .ok availableBytes =>
    if availableMb availableBytes < criticalMb then .critical (availableMb availableBytes)
    else if availableMb availableBytes < warningMb then .warning (availableMb availableBytes)
    else .ok (availableMb availableBytes)

/-- Space below either limit. -/
def DiskSpaceCheck.isLow : DiskSpaceCheck → Bool
  | .critical _ => true
  | .warning _ => true
  | _ => false

/-! ## The task -/

/-- A coordinate, as `serde_json` writes it. -/
abbrev Coordinate := String

/-- A point in monotonic time, in nanoseconds. -/
abbrev Instant := Nat

section
variable [Decoders] [Detectors]

/-- `DiagState` (`diag.rs:129`). -/
inductive DiagState
  | recording (qmdlWriter : QmdlWriter) (analysisWriter : AnalysisWriter)
  | stopped

/-- `DiagTask` (`diag.rs:83`). -/
structure DiagTask where
  analyzerConfig : AnalyzerConfig
  minSpaceToStartMb : UInt64
  minSpaceToContinueMb : UInt64
  autoDeleteClean : Bool
  uploadsConfigured : Bool
  maxRecordingBytes : Option UInt64
  maxRecordingDuration : Option UInt64
  recordingStartedAt : Option Instant
  gpsMode : GpsMode
  gpsFixedCoords : Option (Coordinate × Coordinate)
  state : DiagState
  maxTypeSeen : EventType
  bytesSinceSpaceCheck : Nat
  lowSpaceWarned : Bool
  stoppedByUser : Bool
  latestPacketTimestamp : Option Int

/-- What `DiagTask::new` takes from the configuration. -/
structure RecorderConfig where
  analyzerConfig : AnalyzerConfig
  minSpaceToStartMb : UInt64
  minSpaceToContinueMb : UInt64
  maxRecordingSizeMb : Option UInt64
  maxRecordingMinutes : Option UInt64
  autoDeleteClean : Bool
  uploadsConfigured : Bool
  gpsMode : GpsMode
  gpsFixedCoords : Option (Coordinate × Coordinate)

/-- `DiagTask::new` (`diag.rs:180`). -/
def DiagTask.new (config : RecorderConfig) : DiagTask where
  analyzerConfig := config.analyzerConfig
  minSpaceToStartMb := config.minSpaceToStartMb
  minSpaceToContinueMb := config.minSpaceToContinueMb
  autoDeleteClean := config.autoDeleteClean
  uploadsConfigured := config.uploadsConfigured
  maxRecordingBytes := rotationBytes config.maxRecordingSizeMb
  maxRecordingDuration := rotationDuration config.maxRecordingMinutes
  recordingStartedAt := none
  gpsMode := config.gpsMode
  gpsFixedCoords := config.gpsFixedCoords
  state := .stopped
  maxTypeSeen := .informational
  bytesSinceSpaceCheck := 0
  lowSpaceWarned := false
  stoppedByUser := false
  latestPacketTimestamp := none

/-- The task with its store, and what it has sent, the latest first: to the display, to the
notification worker and to the analysis thread. A message that is not received is sent all the
same. `attributed` is what it has noted about recordings. -/
structure Recorder where
  task : DiagTask
  storage : Storage
  display : List DisplayState := []
  notifications : List Notification := []
  finished : List String := []
  attributed : List Attribution := []

namespace DiagState

/-- `matches!(self.state, DiagState::Recording { .. })`. -/
def isRecording : DiagState → Bool
  | recording .. => true
  | stopped => false

/-- The file of the capture being written. -/
def writerPath? : DiagState → Option FilePath
  | recording qmdlWriter _ => some qmdlWriter.path
  | stopped => none

theorem isRecording_iff {s : DiagState} : s.isRecording = true ↔ ∃ qw aw, s = .recording qw aw := by
  cases s with
  | recording qw aw => exact ⟨fun _ => ⟨qw, aw, rfl⟩, fun _ => rfl⟩
  | stopped => exact ⟨nofun, fun ⟨_, _, h⟩ => nomatch h⟩

theorem eq_stopped_iff {s : DiagState} : s = .stopped ↔ s.isRecording = false := by
  cases s <;> simp [isRecording]

end DiagState

namespace Recorder

/-- The recorder with another store. -/
def withStorage (r : Recorder) (s : Storage) : Recorder := { r with storage := s }

/-- The recorder with another disk. -/
def withDisk (r : Recorder) (d : Disk) : Recorder := r.withStorage (r.storage.withDisk d)

/-- The recorder with another state of the task. -/
def withState (r : Recorder) (s : DiagState) : Recorder :=
  { r with task := { r.task with state := s } }

/-- The recorder with another highest severity. -/
def withMaxTypeSeen (r : Recorder) (t : EventType) : Recorder :=
  { r with task := { r.task with maxTypeSeen := t } }

/-- The recorder with another time its recording began. -/
def withStartedAt (r : Recorder) (startedAt : Option Instant) : Recorder :=
  { r with task := { r.task with recordingStartedAt := startedAt } }

/-- The recorder with other counts for the space check. -/
def withSpaceCheck (r : Recorder) (bytes : Nat) (warned : Bool) : Recorder :=
  { r with task := { r.task with bytesSinceSpaceCheck := bytes, lowSpaceWarned := warned } }

/-- A message to the display. -/
def showOn (r : Recorder) (d : DisplayState) : Recorder := { r with display := d :: r.display }

/-- A message to the notification worker. -/
def notify (r : Recorder) (n : Notification) : Recorder :=
  { r with notifications := n :: r.notifications }

/-- A note about the current recording, if there is one. -/
def note (r : Recorder) (kind : NoteKind) (writer : Option FilePath) : Recorder :=
  match r.storage.store.getCurrentEntry with
  | none => r
  | some (_, entry) =>
    { r with
      attributed :=
        ⟨kind, entry.getFilepath .qmdl r.storage.store.path, writer⟩ :: r.attributed }

end Recorder

end

end Rayhunter
