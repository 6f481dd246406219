import Rayhunter.Cleanup.Reanalysis

/-!
# The analysis worker

`run_analysis_thread` of `daemon/src/analysis.rs`: the one task that analyses recordings again, with
the queue the server fills and the messages it is sent. It takes up a message, counts what is queued,
and analyses so many recordings, each in the steps of `System`. What an analysis returns as an error
is logged and the recording marked finished all the same; what reading the recording returns as one
is unwrapped, and takes the worker down for good. In the runs in which that does not happen, the
worker serves whatever is queued (`AnalysisThread.keepsServing`, `Analysis.Serving`).
-/

namespace Rayhunter

open Runs

/-! ## The queue -/

/-- `AnalysisStatus` (`analysis.rs:127`). -/
structure AnalysisStatus where
  queued : List String
  running : Option String
  finished : List String
  deriving DecidableEq, Repr

namespace AnalysisStatus

/-- `AnalysisStatus::new` (`analysis.rs:137`). -/
def new (store : RecordingStore) : AnalysisStatus := ⟨[], none, store.names⟩

/-- `queue_qmdl` (`analysis.rs:306`). -/
def queueQmdl (status : AnalysisStatus) (name : String) : Bool × AnalysisStatus :=
  if name ∈ status.queued ∨ status.running = some name then (false, status)
  else (true, { status with queued := status.queued ++ [name] })

/-- The first of some names that can be queued; the loop stops at it (`analysis.rs:345`). -/
def queueAny (status : AnalysisStatus) : List String → Bool × AnalysisStatus
  | [] => (false, status)
  | name :: names =>
    match status.queueQmdl name with
    | (true, status) => (true, status)
    | (false, status) => status.queueAny names

/-- What `start_analysis` queues (`analysis.rs:335`). -/
def request (status : AnalysisStatus) (store : RecordingStore) (name : String) :
    Bool × AnalysisStatus :=
  if name.isEmpty then
    status.queueAny <| match store.currentEntry with
      | some i => store.names.eraseIdx i
      | none => store.names
  else status.queueQmdl name

/-- A recording is to be analysed or being analysed. -/
def Busy (status : AnalysisStatus) (name : String) : Prop :=
  name ∈ status.queued ∨ status.running = some name

instance (status : AnalysisStatus) (name : String) : Decidable (status.Busy name) :=
  inferInstanceAs (Decidable (_ ∨ _))

/-- A name is put at the end of the queue, or it is there and nothing changes. -/
theorem queueQmdl_cases (status : AnalysisStatus) (name : String) :
    status.queueQmdl name = (false, status) ∨ ¬ status.Busy name ∧
      status.queueQmdl name = (true, { status with queued := status.queued ++ [name] }) := by
  unfold queueQmdl
  split
  · exact .inl rfl
  · next hbusy => exact .inr ⟨hbusy, rfl⟩

theorem queueAny_cases (status : AnalysisStatus) (names : List String) :
    status.queueAny names = (false, status) ∨ ∃ name, ¬ status.Busy name ∧
      status.queueAny names = (true, { status with queued := status.queued ++ [name] }) := by
  induction names with
  | nil => exact .inl rfl
  | cons name names ih =>
    unfold queueAny
    rcases status.queueQmdl_cases name with h | ⟨hbusy, h⟩ <;> rw [h]
    · exact ih
    · exact .inr ⟨name, hbusy, rfl⟩

theorem request_cases (status : AnalysisStatus) (store : RecordingStore) (name : String) :
    status.request store name = (false, status) ∨ ∃ name', ¬ status.Busy name' ∧
      status.request store name =
        (true, { status with queued := status.queued ++ [name'] }) := by
  unfold request
  split
  · exact status.queueAny_cases _
  · exact (status.queueQmdl_cases name).imp_right fun h => ⟨name, h⟩

/-- The names the worker knows of. -/
def Knows (status : AnalysisStatus) (name : String) : Prop :=
  name ∈ status.queued ∨ status.running = some name ∨ name ∈ status.finished

end AnalysisStatus

/-- `AnalysisCtrlMessage` (`analysis.rs:153`). -/
inductive AnalysisCtrlMessage
  | newFilesQueued
  | recordingFinished (name : String)
  | exit
  deriving DecidableEq, Repr

/-- The room in the channel to the worker (`main.rs:634`). -/
def ANALYSIS_CHANNEL : Nat := 5

/-! ## The worker -/

/-- Where the worker is in its loop; `left` is how many recordings it has still to take up, and at
`round 0` it waits for a message. -/
inductive WorkerPhase
  | round (left : Nat)
  | counting
  | opening (left : Nat) (name : String)
  | reading (left : Nat) (name : String)
  | finishing (left : Nat) (name : String)
  | exited
  | panicked
  deriving DecidableEq, Repr

namespace WorkerPhase

/-- How many recordings are still to be taken up. -/
def left : WorkerPhase → Nat
  | round n | opening n _ | reading n _ | finishing n _ => n
  | counting | exited | panicked => 0

/-- The recording in hand. -/
def name : WorkerPhase → Option String
  | opening _ name | reading _ name | finishing _ name => some name
  | round _ | counting | exited | panicked => none

end WorkerPhase

variable [Decoders] [Detectors] [Gzip] [SerdeJson] [Chrono]

/-- The worker with what it shares: the store and the analysis under way, the status, and the
messages sent to it. -/
structure AnalysisThread where
  system : System
  status : AnalysisStatus
  inbox : List AnalysisCtrlMessage
  phase : WorkerPhase

/-- An error the device answers a read with. The operating system has none for an unexpected end of
file. -/
abbrev ReadError := { e : IoError // e.kind ≠ .unexpectedEof }

/-- The steps of the worker, each with what the device answers it. -/
inductive WorkerStep
  | recv
  | count
  | dequeue
  | openRecording (io : BeginIo) (probe : Option Nat)
  | metadata (deviceMetadata : DeviceMetadata) (readFault : Option IoError) (fault : WriteFault)
  | packet (readFault : Option ReadError) (fault : WriteFault)
  | finish

namespace AnalysisThread

/-- The loop of `run_analysis_thread` at a message (`analysis.rs:256`). -/
def recv (x : AnalysisThread) : Option AnalysisThread :=
  match x.inbox with
  | [] => none
  | .newFilesQueued :: inbox => some { x with inbox, phase := .counting }
  | .recordingFinished name :: inbox =>
    some { x with inbox, status := { x.status with finished := x.status.finished ++ [name] } }
  | .exit :: inbox => some { x with inbox, phase := .exited }

/-- `dequeue_to_running` (`analysis.rs:163`). -/
def dequeue (x : AnalysisThread) (left : Nat) : AnalysisThread :=
  match x.status.queued with
  | [] => { x with phase := .panicked }
  | name :: queued =>
    if x.status.running.isSome then
      { x with status := { x.status with queued }, phase := .panicked }
    else
      { x with
        status := { x.status with queued, running := some name }
        phase := .opening left name }

/-- A recording read without knowing whether it is compressed: where `is_gzip_stream` fails it
counts as not, and is read from where that left the file (`qmdl.rs:150`). -/
def unprobed (x : AnalysisThread) (probe : Option Nat) (j : Job) : Job :=
  match probe, x.system.storage.store.first j.name with
  | some position, some entry =>
    match x.system.storage.files (entry.getFilepath .qmdl x.system.storage.store.path) with
    | some c => { j with reader := ⟨false, c.toBytes.drop position, none⟩ }
    | none => j
  | _, _ => j

/-- `perform_analysis` up to where it gives the lock up; it returns an error where no analysis is
under way then (`analysis.rs:184`). -/
def openRecording (x : AnalysisThread) (left : Nat) (name : String) (io : BeginIo)
    (probe : Option Nat) : AnalysisThread :=
  let system := x.system.beginAnalysis name io
  match system.job with
  | none => { x with system, phase := .finishing left name }
  | some j =>
    { x with
      system := { system with job := some (x.unprobed probe j) }
      phase := .reading left name }

/-- `perform_analysis` at the first line of the report (`analysis.rs:222`). -/
def metadata [Build] [Sidecar] (config : AnalyzerConfig) (x : AnalysisThread) (left : Nat)
    (name : String) (j : Job) (deviceMetadata : DeviceMetadata) (readFault : Option IoError)
    (fault : WriteFault) : AnalysisThread :=
  let system := x.system.writeMetadata config deviceMetadata j readFault fault
  { x with
    system
    phase := if system.job.isSome then .reading left name else .finishing left name }

/-- One round of its loop over the messages, or the end of it (`analysis.rs:227`). An error of
`get_next_message` is unwrapped; closing the writer, whether it fails or not, ends the analysis. -/
def packet (x : AnalysisThread) (left : Nat) (name : String) (j : Job) (w : AnalysisWriter)
    (readFault : Option ReadError) (fault : WriteFault) : AnalysisThread :=
  match readFault, j.reader.getNextMessage.1 with
  | none, .ok _ =>
    let system := x.system.analyzePacket j w fault
    { x with
      system
      phase := if system.job.isSome then .reading left name else .finishing left name }
  | _, _ => { x with phase := .panicked }

/-- `finish_running_analysis` (`analysis.rs:171`). -/
def finish (x : AnalysisThread) (left : Nat) : AnalysisThread :=
  match x.status.running with
  | none => { x with phase := .panicked }
  | some name =>
    { x with
      status := { x.status with running := none, finished := x.status.finished ++ [name] }
      phase := .round left }

/-- A step of the worker, where it is at it. -/
def work [Build] [Sidecar] (config : AnalyzerConfig) (x : AnalysisThread) :
    WorkerStep → Option AnalysisThread
  | .recv => if x.phase = .round 0 then x.recv else none
  | .count =>
    match x.phase with
    | .counting => some { x with phase := .round x.status.queued.length }
    | _ => none
  | .dequeue =>
    match x.phase with
    | .round (left + 1) => some (x.dequeue left)
    | _ => none
  | .openRecording io probe =>
    match x.phase with
    | .opening left name => some (x.openRecording left name io probe)
    | _ => none
  | .metadata deviceMetadata readFault fault =>
    match x.phase, x.system.job with
    | .reading left name, some j =>
      if j.writer.isNone then
        some (x.metadata config left name j deviceMetadata readFault fault)
      else none
    | _, _ => none
  | .packet readFault fault =>
    match x.phase, x.system.job with
    | .reading left name, some j => j.writer.map fun w => x.packet left name j w readFault fault
    | _, _ => none
  | .finish =>
    match x.phase with
    | .finishing left _ => some (x.finish left)
    | _ => none

end AnalysisThread

/-! ## With the other tasks -/

/-- The steps of the system: those of the worker, a request to analyse recordings, the messages of
the recorder and of the shutdown, and whatever any task does to the recordings. -/
inductive ThreadStep
  | startAnalysis (name : String)
  | recordingFinished (name : String)
  | exit
  | others (s : Storage)
  | worker (step : WorkerStep)

namespace AnalysisThread

/-- A message sent where there is room for it. -/
def send (x : AnalysisThread) (message : AnalysisCtrlMessage) : Option AnalysisThread :=
  if x.inbox.length < ANALYSIS_CHANNEL then some { x with inbox := x.inbox ++ [message] } else none

/-- One step of the system. -/
def step [Build] [Sidecar] (config : AnalyzerConfig) (x : AnalysisThread) :
    ThreadStep → Option AnalysisThread
  | .startAnalysis name =>
    match x.status.request x.system.storage.store name with
    | (true, status) => send { x with status } .newFilesQueued
    | (false, status) => some { x with status }
  | .recordingFinished name => x.send (.recordingFinished name)
  | .exit => x.send .exit
  | .others s => some { x with system := { x.system with storage := s } }
  | .worker w => x.work config w

/-- The daemon has just started. -/
def Init (x : AnalysisThread) : Prop :=
  x.status = .new x.system.storage.store ∧ x.system.job = none ∧ x.inbox = [] ∧ x.phase = .round 0

/-! ## Serving the queue -/

/-- The worker does not read on in a recording of which no whole message is left and whose stream
ends in an error, and the device answers its reads. -/
def Readable (x : AnalysisThread) : WorkerStep → Prop
  | .packet readFault _ => readFault = none ∧
      ∀ j, x.system.job = some j → j.reader.data.any isTerminator = true ∨ j.reader.ending = none
  | _ => True

/-- `Readable` for the steps of the system. -/
def ReadableStep (x : AnalysisThread) : ThreadStep → Prop
  | .worker w => x.Readable w
  | _ => True

/-- Nothing is queued or in hand, and whatever was known of is finished; or the worker has been told
to exit. -/
def ServedFrom (x y : AnalysisThread) : Prop :=
  (y.phase = .round 0 ∧ y.inbox = [] ∧ y.status.queued = [] ∧ y.status.running = none ∧
    ∀ name, x.status.Knows name → name ∈ y.status.finished) ∨
  (y.phase = .exited ∧ (x.phase = .exited ∨ .exit ∈ x.inbox))

/-- The worker is there, says what it has in hand, and left to itself it is bound to serve
everything that is queued. -/
structure KeepsServing [Build] [Sidecar] (config : AnalyzerConfig) (x : AnalysisThread) : Prop where
  alive : x.phase ≠ .panicked
  running : x.status.running = x.phase.name
  serves : Inevitable (work config) Readable x.ServedFrom x

end AnalysisThread

end Rayhunter
