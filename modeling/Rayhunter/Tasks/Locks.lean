import Rayhunter.Analysis.Worker
import Rayhunter.Lib.Deadlock

/-!
# The locks of the daemon

The two locks and two channels that the recorder, the analysis worker, the requests to analyse
recordings and the shutdown share, and the order in which each takes them. `start_analysis`
(`daemon/src/analysis.rs`) tells the worker of what it has queued with both locks held, the recorder
(`daemon/src/diag.rs`) and the shutdown (`daemon/src/main.rs`) send with the store's lock held; the
worker and the recorder take up what they are sent one message at a time, and need those locks for
it. In the runs in which nobody comes to a full channel with a lock in hand, unless its receiver is
on its way to it, no tasks wait for one another in a cycle (`Daemon.no_cycle`).
-/

namespace Rayhunter

open Runs Sync Relation

/-! ## What is shared -/

/-- The tasks: any number of requests, the recorder (`run_diag_read_thread`), the worker
(`run_analysis_thread`), the shutdown, and any number of others that use a lock by itself or send the
recorder a message with none. -/
inductive Task
  | request (i : Nat)
  | diag
  | worker
  | shutdown
  | client (i : Nat)
  deriving DecidableEq, Repr

/-- `analysis_status_lock` and `qmdl_store_lock`. -/
inductive DaemonLock
  | status
  | store
  deriving DecidableEq, Repr

/-- The channel to the worker and the channel to the recorder. -/
inductive DaemonChannel
  | analysis
  | control
  deriving DecidableEq, Repr

/-- `DiagDeviceCtrlMessage` (`diag.rs:38`), by its kinds. -/
inductive DiagDeviceCtrlMessage
  | startRecording
  | stopRecording
  | switchStore
  | injectDemo
  | deleteEntry
  | deleteAllEntries
  | gpsUpdate
  | exit
  deriving DecidableEq, Repr

/-- What is sent over the two channels. -/
inductive DaemonMessage
  | analysis (message : AnalysisCtrlMessage)
  | control (message : DiagDeviceCtrlMessage)
  deriving DecidableEq

/-- The room in the channels (`main.rs:621`, `main.rs:634`). -/
def channelRoom : DaemonChannel → Nat
  | .analysis => ANALYSIS_CHANNEL
  | .control => 1

/-- Who receives from them. -/
def channelReceiver : DaemonChannel → Task
  | .analysis => .worker
  | .control => .diag

/-- The tasks with what they share. -/
abbrev Daemon := Machine Task DaemonLock DaemonChannel DaemonMessage

abbrev DaemonOp := Op DaemonLock DaemonChannel DaemonMessage

/-! ## What the tasks do -/

/-- A lock taken and given up. -/
def useLock (l : DaemonLock) (m : Mode) : List DaemonOp := [.acquire l m, .release l m]

/-- `start_analysis` (`analysis.rs:329`), where there is something to queue or not. -/
def startAnalysisProgram (queued : Bool) : List DaemonOp :=
  [.acquire .status .write, .acquire .store .read] ++
    (if queued then [.send .analysis (.analysis .newFilesQueued)] else []) ++
    [.release .store .read, .release .status .write]

/-- The recorder at a container or at a message (`diag.rs:1077`), which finishes these recordings on
the way (`finish_current_entry`, `diag.rs:407`). -/
def recorderProgram (finished : List String) : List DaemonOp :=
  .acquire .store .write ::
    finished.map (fun name => .send .analysis (.analysis (.recordingFinished name))) ++
    [.release .store .write]

/-- The recorder at a message; `built` is whether there is a demo container. -/
def controlProgram (finished : List String) (built : Bool) : DaemonMessage → List DaemonOp
  | .control .exit => useLock .store .write ++ [.close .control]
  | .control .gpsUpdate => useLock .store .read
  | .control .injectDemo => if built then recorderProgram finished else []
  | .control _ => recorderProgram finished
  | .analysis _ => []

/-- The worker at a recording: `dequeue_to_running`, `perform_analysis`, `finish_running_analysis`
(`analysis.rs:264`). -/
def recordingProgram : List DaemonOp :=
  useLock .status .write ++ useLock .store .write ++ useLock .status .write

/-- The worker at a message (`analysis.rs:257`), which counts so many recordings. -/
def analysisProgram (count : Nat) : DaemonMessage → List DaemonOp
  | .analysis .newFilesQueued =>
    useLock .status .read ++ (List.replicate count recordingProgram).flatten
  | .analysis (.recordingFinished _) => useLock .status .write
  | .analysis .exit => [.close .analysis]
  | .control _ => []

/-- `run_shutdown_thread` (`main.rs:514`); it returns early where the recording cannot be closed. -/
def shutdownProgram (closes : Bool) : List DaemonOp :=
  .acquire .store .write ::
    (if closes then
      [.send .control (.control .exit), .send .analysis (.analysis .exit)] else []) ++
    [.release .store .write]

/-- The steps of the daemon: a task takes its next step, or one with nothing to do begins
something. -/
inductive TaskStep
  | run (t : Task)
  | startAnalysis (i : Nat) (queued : Bool)
  | container (finished : List String)
  | deviceError
  | control (finished : List String) (built : Bool)
  | message (count : Nat)
  | useLock (i : Nat) (l : DaemonLock) (m : Mode)
  | post (i : Nat) (message : DiagDeviceCtrlMessage)

namespace Daemon

/-- One step. The recorder reads the device until it has gone. -/
def step (s : Daemon) : TaskStep → Option Daemon
  | .run t => s.run channelRoom t
  | .startAnalysis i queued => s.start (.request i) (startAnalysisProgram queued)
  | .container finished =>
    if (s.chan .control).closed then none else s.start .diag (recorderProgram finished)
  | .deviceError => if (s.chan .control).closed then none else s.start .diag [.close .control]
  | .control finished built => s.receive channelRoom .diag .control (controlProgram finished built)
  | .message count => s.receive channelRoom .worker .analysis (analysisProgram count)
  | .useLock i l m => s.start (.client i) (Rayhunter.useLock l m)
  | .post i message => s.start (.client i) [.send .control (.control message)]

/-- The daemon has started: the recorder has sent itself the message to record (`diag.rs:1073`), and
the shutdown waits for its signal. -/
def Init (s : Daemon) : Prop :=
  ∃ closes, s.lock = (fun _ => {}) ∧
    s.chan = (fun
      | .analysis => {}
      | .control => { messages := [.control .startRecording] }) ∧
    s.todo = fun t => if t = .shutdown then shutdownProgram closes else []

/-! ## Coming to a channel with a lock in hand -/

/-- A task holds a lock. -/
def HasLock (s : Daemon) (t : Task) : Prop := ∃ l m, (t, m) ∈ (s.lock l).held

/-- A message for a channel gets through at once. -/
def Open (s : Daemon) (c : DaemonChannel) : Prop :=
  (s.chan c).closed = true ∨
    (s.chan c).senders = [] ∧ (s.chan c).messages.length < channelRoom c

/-- The worker comes to its channel again without taking a lock. -/
def Returns (s : Daemon) : Prop := ∀ op ∈ s.todo .worker, ¬ op.IsAcquire

/-- Nobody comes to a full channel with a lock in hand, unless it is the worker's and the worker is
on its way to it. -/
def SendsOpen (s : Daemon) : TaskStep → Prop
  | .run t => ∀ c message rest, s.todo t = .send c message :: rest → s.HasLock t →
      s.Open c ∨ c = .analysis ∧ s.Returns
  | _ => True

end Daemon

end Rayhunter
