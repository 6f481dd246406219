import Rayhunter.Analysis.Writer
import Rayhunter.Cleanup.Prune
import Rayhunter.Lib.Reach
import Rayhunter.Qmdl.Stream

/-!
# Pruning while a recording is analysed again

`perform_analysis` (`daemon/src/analysis.rs`) empties a recording's report under the store's lock,
gives the lock up, and writes the report again line by line; `prune_clean_recordings` holds the lock
all the while it judges and deletes. So the two meet at every line: a system of the store, one
re-analysis, which is all the analysis thread runs at a time, and one pruning, in steps between
which the other may act.
-/

namespace Rayhunter

open Storage

variable [Decoders] [Detectors]

/-! ## The state -/

/-- A re-analysis under way: the report and the sidecar of its recording, the messages still to be
read, and the writer, once the first line has been written. -/
structure Job where
  name : String
  report : FilePath
  metaPath : FilePath
  reader : QmdlMessageReader
  writer : Option AnalysisWriter := none

/-- A pruning under way: the names still to be looked at, and the one whose recording has been judged
clean and is to be deleted next. -/
structure Pruning where
  targetMb : UInt64
  uploadsConfigured : Bool
  names : List String
  decided : Option String := none
  removed : Nat := 0

/-- The store, the re-analysis and the pruning; `unfinished` holds the names of the recordings whose
report was emptied by a re-analysis that has not come to its end, still going or stopped early. -/
structure System where
  storage : Storage
  job : Option Job := none
  pruning : Option Pruning := none
  unfinished : List String := []

/-! ## Re-analysis -/

/-- What the disk answers `perform_analysis` while it holds the lock. -/
structure BeginIo where
  truncate : Option IoError := none
  «open» : Option IoError := none
  deriving DecidableEq, Repr

/-- `clear_and_open_entry_analysis` (`qmdl_store.rs:502`). The report has to be there. -/
def Storage.clearEntryAnalysis (s : Storage) (entry : ManifestEntry) (fault : Option IoError) :
    Option Storage :=
  match fault, reportOf s entry with
  | none, some _ =>
    some (s.withDisk (s.device.disk.set (entry.getFilepath .analysis s.store.path) (some (.text ""))))
  | _, _ => none

/-- The reader of a recording's messages, where its file can be opened (`analysis.rs:195`). -/
def Storage.openQmdl [Gzip] (s : Storage) (entry : ManifestEntry) (fault : Option IoError) :
    Option QmdlMessageReader :=
  match fault with
  | some _ => none
  | none => (s.files (entry.getFilepath .qmdl s.store.path)).map fun c => .new c.toBytes

/-- The home network of a recording: the one saved with it, where there is one, before the device's
own (`analysis.rs:209`). -/
def metadataFor [Sidecar] (deviceMetadata : DeviceMetadata) (sidecar : Option FileContent) :
    DeviceMetadata :=
  match sidecar.bind Sidecar.homePlmn with
  | some (p :: ps) => ⟨p :: ps⟩
  | _ => deviceMetadata

namespace System

/-- `perform_analysis` up to where it gives the lock up (`analysis.rs:184`). -/
def beginAnalysis [Gzip] (x : System) (name : String) (io : BeginIo) : System :=
  match x.storage.store.entryForName name with
  | none => x
  | some (_, entry) =>
    match x.storage.clearEntryAnalysis entry io.truncate with
    | none => x
    | some s =>
      { x with
        storage := s
        unfinished := name :: x.unfinished
        job := (s.openQmdl entry io.open).map fun reader =>
          { name
            report := entry.getFilepath .analysis s.store.path
            metaPath := entry.getFilepath .metadata s.store.path
            reader } }

variable [SerdeJson] [Chrono]

/-- The first line of a report (`analysis.rs:222`); `readFault` is for the sidecar. -/
def writeMetadata [Build] [Sidecar] (config : AnalyzerConfig) (deviceMetadata : DeviceMetadata)
    (x : System) (j : Job) (readFault : Option IoError) (fault : WriteFault) : System :=
  let d := x.storage.device.disk
  let sidecar := if readFault.isSome then none else d.files j.metaPath
  match AnalysisWriter.new j.report config (metadataFor deviceMetadata sidecar) fault d with
  | (.error _, d) => { x with storage := x.storage.withDisk d, job := none }
  | (.ok w, d) =>
    { x with storage := x.storage.withDisk d, job := some { j with writer := some w } }

/-- One round of the loop over the messages (`analysis.rs:227`). A reader that fails takes the
thread down. -/
def analyzePacket (x : System) (j : Job) (w : AnalysisWriter) (fault : WriteFault) : System :=
  match j.reader.getNextMessage with
  | (.error _, _) => { x with job := none }
  | (.ok none, _) => { x with job := none, unfinished := x.unfinished.filter (· ≠ j.name) }
  | (.ok (some item), reader) =>
    match w.analyzeMessage item fault x.storage.device.disk with
    | (.error _, _, d) => { x with storage := x.storage.withDisk d, job := none }
    | (.ok _, w, d) =>
      { x with
        storage := x.storage.withDisk d
        job := some { j with reader, writer := some w } }

/-! ## Pruning -/

/-- One round of the loop of `prune_clean_recordings` up to the verdict (`cleanup.rs:184`). The
verdict is about the report as it stands when the reader meets its end: meanwhile it is only added
to, since emptying it takes the lock. -/
def judge (x : System) (p : Pruning) (reading : DiskReading) (report : ReportIo) : System :=
  match p.names with
  | [] => { x with pruning := none }
  | name :: names =>
    if p.targetMb ≤ pruneAvailableMb reading then { x with pruning := none }
    else
      match x.storage.store.entryForName name with
      | none => { x with pruning := some { p with names } }
      | some (index, _) =>
        let clean := verdictFor x.storage index p.uploadsConfigured report = .clean
        { x with pruning := some { p with names, decided := if clean then some name else none } }

/-- The deletion that follows a clean verdict (`cleanup.rs:194`). -/
def delete [Toml] [Sidecar] (x : System) (p : Pruning) (name : String) (io : DeleteIo) : System :=
  let (result, s) := x.storage.deleteEntry name io
  let removed := if result.isOk then p.removed + 1 else p.removed
  { x with storage := s, pruning := some { p with decided := none, removed } }

end System

/-! ## Steps -/

/-- The steps of the system, each with what the device answers it. -/
inductive SystemStep
  | beginAnalysis (name : String) (io : BeginIo)
  | writeMetadata (readFault : Option IoError) (fault : WriteFault)
  | analyzePacket (fault : WriteFault)
  | startPruning (targetMb : UInt64) (uploadsConfigured : Bool) (reading : DiskReading)
  | judge (reading : DiskReading) (report : ReportIo)
  | delete (io : DeleteIo)

namespace System

variable [Gzip] [SerdeJson] [Chrono] [Build] [Toml] [Sidecar]

/-- One step, where it is the turn of it. A re-analysis begins when none is going and no pruning
holds the lock. -/
def step (config : AnalyzerConfig) (deviceMetadata : DeviceMetadata) (x : System) :
    SystemStep → Option System
  | .beginAnalysis name io =>
    match x.job, x.pruning with
    | none, none => some (x.beginAnalysis name io)
    | _, _ => none
  | .writeMetadata readFault fault =>
    match x.job with
    | some j => if j.writer.isNone then
        some (writeMetadata config deviceMetadata x j readFault fault) else none
    | none => none
  | .analyzePacket fault =>
    match x.job with
    | some j => j.writer.map fun w => x.analyzePacket j w fault
    | none => none
  | .startPruning targetMb uploadsConfigured reading =>
    match x.pruning with
    | some _ => none
    | none =>
      if targetMb ≤ pruneAvailableMb reading then some x
      else some { x with pruning := some { targetMb, uploadsConfigured, names := x.storage.store.names } }
  | .judge reading report =>
    match x.pruning with
    | some p => if p.decided.isNone then some (x.judge p reading report) else none
    | none => none
  | .delete io =>
    match x.pruning with
    | some p => p.decided.map fun name => x.delete p name io
    | none => none

/-- A store before anything happens to it. -/
def start (s : Storage) : System := { storage := s }

/-! ## Pruning without interruption -/

section
variable (config : AnalyzerConfig) (deviceMetadata : DeviceMetadata)

/-- The runs that go on from a state. -/
abbrev From (x : System) : System → Prop :=
  Runs.Reach (· = x) (step config deviceMetadata) fun _ _ => True

/-- A pruning that no other task interrupts goes through its loop. -/
theorem pruneLoop_from {targetMb : UInt64} {uploadsConfigured : Bool} {names : List String}
    {x₀ x : System} {removed : Nat} (steps : Nat → PruneStepIo)
    (h : From config deviceMetadata x₀
      { x with pruning := some { targetMb, uploadsConfigured, names, removed } }) :
    From config deviceMetadata x₀
      { x with
        storage := (pruneLoop targetMb uploadsConfigured names steps x.storage).2
        pruning := none } := by
  induction names generalizing x steps removed with
  | nil => exact .step h (i := .judge (.ok none) {}) trivial rfl
  | cons name names ih =>
    rw [pruneLoop]
    by_cases hsp : targetMb ≤ pruneAvailableMb (steps 0).reading
    · rw [if_pos hsp]
      refine .step h (i := .judge (steps 0).reading {}) trivial ?_
      simp [step, judge, hsp]
    · rw [if_neg hsp]
      have hnext : ∀ y, step config deviceMetadata _ (.judge (steps 0).reading (steps 0).report) =
          some y → From config deviceMetadata x₀ y := fun y hy => .step h trivial hy
      simp only [step, judge, if_neg hsp, Option.isNone_none, if_true, Option.some.injEq] at hnext
      cases he : x.storage.store.entryForName name with
      | none =>
        simp only [he] at hnext ⊢
        exact ih _ (hnext _ rfl)
      | some q =>
        obtain ⟨i, e⟩ := q
        simp only [he] at hnext ⊢
        by_cases hv : verdictFor x.storage i uploadsConfigured (steps 0).report = .clean
        · simp only [hv, if_true] at hnext ⊢
          have hdel : ∀ y, step config deviceMetadata _ (.delete (steps 0).delete) = some y →
              From config deviceMetadata x₀ y := fun y hy => .step (hnext _ rfl) trivial hy
          simp only [step, delete, Option.map_some, Option.some.injEq] at hdel
          generalize x.storage.deleteEntry name (steps 0).delete = r at hdel ⊢
          obtain ⟨res, s⟩ := r
          cases res with
          | ok u => exact ih (x := { x with storage := s }) _ (hdel _ rfl)
          | error e => exact ih (x := { x with storage := s }) _ (hdel _ rfl)
        · simp only [hv, if_false] at hnext ⊢
          exact ih _ (hnext _ rfl)

/-- `prune_clean_recordings` is a run of the system in which nothing else acts. -/
theorem pruneCleanRecordings_from {x : System} (hp : x.pruning = none) (targetMb : UInt64)
    (uploadsConfigured : Bool) (io : PruneIo) :
    From config deviceMetadata x
      { x with storage := (pruneCleanRecordings x.storage targetMb uploadsConfigured io).2 } := by
  obtain ⟨storage, job, pruning, unfinished⟩ := x
  obtain rfl : pruning = none := hp
  rw [pruneCleanRecordings]
  split
  · exact .init rfl
  · next hsp =>
    have hstart : From config deviceMetadata ⟨storage, job, none, unfinished⟩
        { storage, job, unfinished,
          pruning := some { targetMb, uploadsConfigured, names := storage.store.names } } :=
      .step (.init rfl) (i := .startPruning targetMb uploadsConfigured io.first) trivial
        (by simp [step, hsp])
    exact pruneLoop_from config deviceMetadata (x := ⟨storage, job, none, unfinished⟩) io.steps
      hstart

end

end System

end Rayhunter
