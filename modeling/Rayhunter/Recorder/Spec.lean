import Rayhunter.Recorder.View

/-!
# What the functions of the recording task do

One statement for each function of `Rayhunter.Recorder.Step` about the view it leaves. Where a
function can end in several ways there is one case for each, with the condition on the state before
and the answers of the device under which it is the one.
-/

namespace Rayhunter

open Storage

namespace Recorder

variable [Decoders] [Detectors] [Gzip] [SerdeJson] [Chrono] [Toml] [Sidecar] [Build]

/-! ## Finishing a recording -/

omit [SerdeJson] [Chrono] [Sidecar] [Build] in
/-- Stopping the writers leaves nothing to write to, whatever the disk says. -/
theorem stopCurrentRecording_view (r : Recorder) (io : CloseIo) :
    (r.stopCurrentRecording io).view = { r.view with writer := none } := by
  unfold stopCurrentRecording
  cases hs : r.task.state with
  | stopped => simp [view, hs, DiagState.writerPath?]
  | recording qmdlWriter analysisWriter =>
    simp only
    generalize qmdlWriter.close io.close _ = p
    obtain ⟨result, d⟩ := p
    cases result with
    | error e => rfl
    | ok size =>
      simp only [view_withStorage, view_note, storage_note]
      rw [(updateCurrentEntryQmdlSize_same _ _ _ _).capture]
      rfl

omit [SerdeJson] [Chrono] [Sidecar] [Build] in
theorem stopCurrentRecording_task (r : Recorder) (io : CloseIo) :
    (r.stopCurrentRecording io).task = { r.task with state := .stopped } := by
  unfold stopCurrentRecording
  cases hs : r.task.state with
  | stopped => simp [← hs]
  | recording qmdlWriter analysisWriter =>
    simp only
    generalize qmdlWriter.close io.close _ = p
    obtain ⟨result, d⟩ := p
    cases result with
    | error e => rfl
    | ok size => exact task_note ..

omit [Gzip] [SerdeJson] [Chrono] [Sidecar] [Build] in
/-- A reason noted changes nothing that is seen. -/
theorem noteStopReason_view (r : Recorder) (reason : Option String) (writer : Option FilePath)
    (io : ManifestIo) : (r.noteStopReason reason writer io).view = r.view := by
  unfold noteStopReason
  cases reason with
  | none => rfl
  | some reason =>
    simp only
    rw [view_withStorage_of_capture, view_note]
    exact (setCurrentStopReason_same _ _ _).capture

omit [Gzip] [SerdeJson] [Chrono] [Toml] [Sidecar] [Build] in
theorem queueAnalysis_view (r : Recorder) (writer : Option FilePath) :
    (r.queueAnalysis writer).view = r.view := by
  unfold queueAnalysis
  split
  · rfl
  · exact view_note ..

omit [SerdeJson] [Chrono] [Build] in
/-- Finishing a recording closes it, whatever fails on the way. -/
@[simp] theorem finishCurrentEntry_view (r : Recorder) (reason : Option String) (io : FinishIo) :
    (r.finishCurrentEntry reason io).view = r.view.closed := by
  unfold finishCurrentEntry
  simp only [view_withStorage, closeCurrentEntry_capture, queueAnalysis_view, noteStopReason_view,
    view_withStartedAt, stopCurrentRecording_view]
  rfl

omit [SerdeJson] [Chrono] [Build] in
/-- It leaves the rest of the task as it is. -/
theorem finishCurrentEntry_task (r : Recorder) (reason : Option String) (io : FinishIo) :
    (r.finishCurrentEntry reason io).task =
      { r.task with state := .stopped, recordingStartedAt := none } := by
  have hnote : ∀ (r : Recorder) (writer : Option FilePath),
      (r.noteStopReason reason writer io.reason).task = r.task := by
    intro r writer
    unfold noteStopReason
    cases reason with
    | none => rfl
    | some reason => exact task_note ..
  have hqueue : ∀ (r : Recorder) (writer : Option FilePath),
      (r.queueAnalysis writer).task = r.task := by
    intro r writer
    unfold queueAnalysis
    split
    · rfl
    · exact task_note ..
  show (queueAnalysis _ _).task = _
  rw [hqueue, hnote, withStartedAt, stopCurrentRecording_task]

omit [SerdeJson] [Chrono] [Build] in
@[simp] theorem stop_view (r : Recorder) (reason : Option String) (io : FinishIo) :
    (r.stop reason io).view = r.view.halted := by
  rw [stop, view_showOn, finishCurrentEntry_view]
  rfl

/-! ## Positions -/

omit [Gzip] [SerdeJson] [Chrono] [Toml] [Sidecar] [Build] in
theorem handleGpsUpdate_view (r : Recorder) (lat lon : Coordinate) (io : GpsIo) :
    (r.handleGpsUpdate lat lon io).view = r.view := by
  unfold handleGpsUpdate
  split
  · rfl
  · simp only
    split
    · rfl
    · rfl
    · rw [view_note, view_withDisk]

/-- The configured position, where there is one, can be noted. -/
def PositionNoted (r : Recorder) (io : GpsIo) : Prop :=
  r.task.gpsMode = .fixed → r.task.gpsFixedCoords.isSome → io.open = none ∧
    io.write.reported = none

omit [Gzip] [SerdeJson] [Chrono] [Toml] [Sidecar] [Build] in
/-- Noting the configured position changes nothing that is seen, and fails exactly where there is
one that cannot be noted. -/
theorem writeFixedPosition_cases {r : Recorder} {p : FilePath}
    (hc : r.view.current = some (some p)) (writer : FilePath) (io : GpsIo) :
    (r.writeFixedPosition writer io).2.view = r.view ∧
      ((r.PositionNoted io ∧ (r.writeFixedPosition writer io).1 = .ok ()) ∨
        (¬ r.PositionNoted io ∧ ∃ e, (r.writeFixedPosition writer io).1 = .error e)) := by
  obtain ⟨i, entry, hi, he, -⟩ := RecordingStore.capture_eq_some.1 hc
  have hget := RecordingStore.getCurrentEntry_eq_some.2 ⟨hi, he⟩
  unfold writeFixedPosition PositionNoted
  rw [hget]
  cases r.task.gpsMode with
  | disabled => exact ⟨rfl, .inl ⟨nofun, rfl⟩⟩
  | api => exact ⟨rfl, .inl ⟨nofun, rfl⟩⟩
  | fixed =>
    cases r.task.gpsFixedCoords with
    | none => exact ⟨rfl, .inl ⟨by simp, rfl⟩⟩
    | some coords =>
      simp only [openEntryGpsForAppend]
      cases ho : io.open with
      | some e =>
        simp only
        split
        · exact ⟨rfl, .inr ⟨by simp, _, rfl⟩⟩
        · next heq => split at heq <;> cases heq; exact ⟨rfl, .inr ⟨by simp, _, rfl⟩⟩
        · next heq => split at heq <;> cases heq
      | none =>
        simp only
        cases hr : io.write.reported with
        | some e => exact ⟨view_note .., .inr ⟨by simp, _, rfl⟩⟩
        | none => exact ⟨view_note .., .inl ⟨by simp, rfl⟩⟩

/-! ## Starting a recording -/

section
omit [Chrono] [Build]

omit [Gzip] in
theorem makeRoom_view (r : Recorder) (io : StartIo) : (r.makeRoom io).view = r.view := by
  unfold makeRoom
  split
  · exact view_withStorage_of_capture (prune_capture ..)
  · rfl

omit [Gzip] in
theorem makeRoom_task (r : Recorder) (io : StartIo) : (r.makeRoom io).task = r.task := by
  unfold makeRoom
  split <;> rfl

omit [SerdeJson] in
theorem finishRunning_view (r : Recorder) (io : FinishIo) :
    (r.finishRunning io).view = if r.view.writer.isSome then r.view.closed else r.view := by
  unfold finishRunning
  rw [isRecording_eq]
  split
  · exact finishCurrentEntry_view ..
  · rfl

omit [SerdeJson] in
theorem finishRunning_task (r : Recorder) (io : FinishIo) :
    (r.finishRunning io).task.gpsMode = r.task.gpsMode ∧
      (r.finishRunning io).task.gpsFixedCoords = r.task.gpsFixedCoords := by
  unfold finishRunning
  split
  · rw [finishCurrentEntry_task]
    exact ⟨rfl, rfl⟩
  · exact ⟨rfl, rfl⟩

/-- The recorder with which `start_inner` calls `new_entry`. -/
def ready (r : Recorder) (io : StartIo) : Recorder :=
  (r.resetCounters.makeRoom io).finishRunning io.finish

theorem ready_view (r : Recorder) (io : StartIo) :
    (r.ready io).view =
      { r.view with
        writer := none
        current := if r.view.writer.isSome then none else r.view.current
        severity := .informational } := by
  have hreset : r.resetCounters.view = { r.view with severity := .informational } := rfl
  rw [ready, finishRunning_view, makeRoom_view, hreset]
  cases hw : r.view.writer with
  | none => simp [hw]
  | some w => rfl

end

omit [Gzip] [SerdeJson] [Chrono] [Toml] [Sidecar] [Build] in
/-- The limits of the task do not change while it makes room. -/
theorem spaceRefusal_congr {r r' : Recorder} (h : r'.task = r.task) (reading : DiskReading) :
    r'.spaceRefusal reading = r.spaceRefusal reading := by
  unfold spaceRefusal checkSpace
  rw [h]

/-- What follows the claim of an entry's files in `start_inner` goes through: the manifest, the
configured position and the first line of the report can be written. -/
structure Completes (r : Recorder) (io : StartIo) : Prop where
  manifest : io.entry.manifest.fault = none
  position : r.PositionNoted io.gps
  analysis : io.analysis = none

/-- The files of a new entry can be claimed once there is room and nothing is running. -/
def CanClaim (r : Recorder) (io : StartIo) : Prop :=
  (r.ready io).storage.CanClaim r.task.gpsMode io.entry

/-- A start goes through. -/
structure Startable (r : Recorder) (io : StartIo) : Prop where
  space : r.spaceRefusal io.space = none
  claim : r.CanClaim io
  complete : r.Completes io

/-- The ways a start can end, with the view it leaves. -/
inductive StartOutcome (r : Recorder) (io : StartIo) :
    Except RecordingStoreError Unit → View → Prop
  | refused {e : RecordingStoreError} (h : r.spaceRefusal io.space = some e) :
    StartOutcome r io (.error e) ({ r.view with severity := .informational }.showing .paused)
  | unclaimed {e : RecordingStoreError} (h : r.spaceRefusal io.space = none)
    (hc : ¬ r.CanClaim io) : StartOutcome r io (.error e)
      ({ r.view.closed with severity := .informational }.showing .paused)
  | half {e : RecordingStoreError} {p : FilePath} (h : r.spaceRefusal io.space = none)
    (hc : r.CanClaim io) (hf : ¬ r.Completes io) : StartOutcome r io (.error e)
      ({ r.view with
        writer := none
        current := some (some p)
        severity := .informational }.showing .paused)
  | started {p : FilePath} (h : r.Startable io) : StartOutcome r io (.ok ())
      ({ r.view with
        writer := some p
        current := some (some p)
        severity := .informational }.showing .recording)

omit [Gzip] [Chrono] [Toml] [Sidecar] in
/-- Once the files of an entry are claimed, opening the writers fails exactly where the position or
the first line of the report cannot be written. -/
theorem openWriters_cases {r : Recorder} {entry : ManifestEntry}
    (hc : r.view.current = some (some (entry.getFilepath .qmdl r.storage.store.path)))
    (io : StartIo) :
    ((r.PositionNoted io.gps ∧ io.analysis = none) ∧ (r.openWriters entry io).1 = .ok () ∧
      (r.openWriters entry io).2.view =
        { r.view with writer := some (entry.getFilepath .qmdl r.storage.store.path) }.showing
          .recording) ∨
    (¬ (r.PositionNoted io.gps ∧ io.analysis = none) ∧ (∃ e, (r.openWriters entry io).1 = .error e) ∧
      (r.openWriters entry io).2.view = r.view) := by
  obtain ⟨hv, hres⟩ := writeFixedPosition_cases hc (entry.getFilepath .qmdl r.storage.store.path)
    io.gps
  simp only [openWriters]
  generalize r.writeFixedPosition _ io.gps = q at hv hres ⊢
  obtain ⟨result, r₁⟩ := q
  rcases hres with ⟨hp, hok⟩ | ⟨hp, e, herr⟩
  · obtain rfl : result = .ok () := hok
    have hsave : (r₁.saveSidecar io.sidecar).view = r₁.view := by
      unfold saveSidecar
      split <;> rfl
    cases ha : io.analysis with
    | none =>
      simp only [AnalysisWriter.new_none]
      refine .inl ⟨⟨hp, trivial⟩, trivial, ?_⟩
      simp only [view_showOn, view_withStartedAt, view_withState, view_withDisk, hsave, hv]
      rfl
    | some f =>
      obtain ⟨e, n⟩ := f
      simp only [AnalysisWriter.new_some]
      refine .inr ⟨by simp, ⟨_, rfl⟩, ?_⟩
      simp only [view_withDisk, hsave, hv]
  · obtain rfl : result = .error e := herr
    exact .inr ⟨fun h => hp h.1, ⟨e, rfl⟩, hv⟩

omit [Chrono] in
/-- **How a start ends**, and that the display is told. -/
theorem start_outcome (r : Recorder) (io : StartIo) :
    StartOutcome r io (r.start io).1 (r.start io).2.view := by
  unfold start startInner
  have htask : (r.resetCounters.makeRoom io).task = r.resetCounters.task := makeRoom_task ..
  have hrefuse : (r.resetCounters.makeRoom io).spaceRefusal io.space = r.spaceRefusal io.space :=
    (spaceRefusal_congr htask _).trans rfl
  simp only [hrefuse]
  cases hs : r.spaceRefusal io.space with
  | some e =>
    have hv : (r.resetCounters.makeRoom io).view = { r.view with severity := .informational } :=
      makeRoom_view ..
    simp only [view_showOn, hv]
    exact .refused hs
  | none =>
    have hready := r.ready_view io
    have hmode : (r.ready io).task.gpsMode = r.task.gpsMode :=
      (finishRunning_task _ _).1.trans (by rw [htask]; rfl)
    have hcoords : (r.ready io).task.gpsFixedCoords = r.task.gpsFixedCoords :=
      (finishRunning_task _ _).2.trans (by rw [htask]; rfl)
    rw [show (r.resetCounters.makeRoom io).finishRunning io.finish = r.ready io from rfl]
    have hnew := (r.ready io).storage.newEntry_capture (r.ready io).task.gpsMode io.entry
    simp only
    generalize (r.ready io).storage.newEntry _ io.entry = q at hnew ⊢
    obtain ⟨result, s⟩ := q
    rw [hmode] at hnew
    rcases hnew with ⟨hcan, ⟨e, he⟩, hcap⟩ | ⟨hcan, entry, hcap, hok, herr⟩
    · obtain rfl : result = .error e := he
      simp only [view_showOn, view_withStorage, hready, hcap]
      exact .unclaimed hs hcan
    · by_cases hf : io.entry.manifest.fault = none
      · obtain rfl : result = .ok entry := hok hf
        have hpos : ((r.ready io).withStorage s).PositionNoted io.gps ↔ r.PositionNoted io.gps := by
          unfold PositionNoted
          rw [← hmode, ← hcoords]
          rfl
        have hopen := openWriters_cases (r := (r.ready io).withStorage s) hcap io
        rw [hpos] at hopen
        simp only
        generalize ((r.ready io).withStorage s).openWriters entry io = q at hopen ⊢
        obtain ⟨result, r'⟩ := q
        rcases hopen with ⟨⟨hp, ha⟩, hres, hv⟩ | ⟨hp, ⟨e, hres⟩, hv⟩
        · obtain rfl : result = .ok () := hres
          have hv' : r'.view = _ := hv
          simp only [view_withStorage, hready] at hv'
          simp only [hv', hcap]
          exact .started ⟨hs, hcan, ⟨hf, hp, ha⟩⟩
        · obtain rfl : result = .error e := hres
          have hv' : r'.view = _ := hv
          simp only [view_showOn, hv', view_withStorage, hready, hcap]
          exact .half hs hcan fun hc => hp ⟨hc.position, hc.analysis⟩
      · obtain ⟨e, he⟩ := herr hf
        obtain rfl : result = .error e := he
        simp only [view_showOn, view_withStorage, hready, hcap]
        exact .half hs hcan fun hc => hf hc.manifest

omit [Chrono] in
theorem start_ok_iff {r : Recorder} {io : StartIo} :
    (r.start io).1 = .ok () ↔ r.Startable io := by
  have ho := r.start_outcome io
  generalize (r.start io).2.view = v at ho
  generalize (r.start io).1 = res at ho ⊢
  cases ho with
  | refused hs => exact ⟨nofun, fun h => by rw [h.space] at hs; cases hs⟩
  | unclaimed _ hc => exact ⟨nofun, fun h => absurd h.claim hc⟩
  | half _ _ hf => exact ⟨nofun, fun h => absurd h.complete hf⟩
  | started h => exact ⟨fun _ => h, fun _ => rfl⟩

/-! ## Moving to another recording -/

omit [Chrono] in
/-- How a rotation ends: with a new recording and the severity carried over, or stopped with the
severity forgotten. -/
theorem rotate_cases (r : Recorder) (reason : String) (io : RotateIo) :
    ((r.finishCurrentEntry (some reason) io.finish).Startable io.start ∧ ∃ p,
      (r.rotate reason io).view =
        { r.view with writer := some p, current := some (some p) }.showing
          (if EventType.informational < r.view.severity then .warningDetected r.view.severity
            else .recording)) ∨
    (¬ (r.finishCurrentEntry (some reason) io.finish).Startable io.start ∧
      (r.rotate reason io).view = { r.view.halted with severity := .informational }) := by
  have hstart := (r.finishCurrentEntry (some reason) io.finish).start_outcome io.start
  have hfin := r.finishCurrentEntry_view (some reason) io.finish
  unfold rotate
  generalize (r.finishCurrentEntry (some reason) io.finish).start io.start = q at hstart ⊢
  obtain ⟨result, r'⟩ := q
  generalize hv : r'.view = v at hstart
  simp only at hstart
  have hfail : ∀ (n : Notification) (why : Option String),
      v.shown = some .paused → v.severity = .informational →
      v.stoppedByUser = r.view.stoppedByUser →
      ((r'.notify n).stop why io.stop).view = { r.view.halted with severity := .informational } := by
    intro n why h₁ h₂ h₃
    rw [stop_view, view_notify, hv]
    simp [View.halted, View.closed, View.showing, h₂, h₃]
  cases hstart with
  | refused h => exact .inr ⟨fun hs => by simp [hs.space] at h, hfail _ _ rfl rfl (by rw [hfin]; rfl)⟩
  | unclaimed h hc => exact .inr ⟨fun hs => hc hs.claim, hfail _ _ rfl rfl (by rw [hfin]; rfl)⟩
  | half h hc hf => exact .inr ⟨fun hs => hf hs.complete, hfail _ _ rfl rfl (by rw [hfin]; rfl)⟩
  | @started p h =>
    refine .inl ⟨h, p, ?_⟩
    rw [hfin] at hv
    simp only
    show (if EventType.informational < r.view.severity then _ else _ : Recorder).view = _
    split
    · rw [view_showOn, view_withMaxTypeSeen, hv]
      rfl
    · rw [view_withMaxTypeSeen, hv]
      rfl

/-- The recorder with which `switch_store` calls `start`, where it does. -/
def resumesFrom (r : Recorder) (path : PathBuf) (reason : String) (io : SwitchIo) :
    Option Recorder :=
  let wasRecording := r.task.state.isRecording
  let closed := if wasRecording then
      r.finishCurrentEntry (some s!"storage changed: {reason}") io.finish
    else r
  if r.storage.store.path = path then
    if wasRecording || !r.task.stoppedByUser then some closed else none
  else
    match RecordingStore.openOrRecover closed.storage.device path io.open with
    | (.error _, device) =>
      if wasRecording then some (closed.withStorage { closed.storage with device }) else none
    | (.ok store, device) =>
      if wasRecording || !r.task.stoppedByUser then some (closed.withStorage { store, device })
      else none

/-- Nothing is written to any more, and nothing else has changed. -/
def Released (r r' : Recorder) : Prop :=
  r'.view = r.view.closed ∨ (r.view.writer = none ∧ r'.view = r.view)

/-- What `switch_store` comes down to: it starts a recording from where it has let go of the old
one, or it only lets go, which it reports as a success where the user had stopped. -/
theorem switchStore_cases (r : Recorder) (path : PathBuf) (reason : String) (io : SwitchIo) :
    (r.resumesFrom path reason io = none ∧ r.view.writer = none ∧
      r.Released (r.switchStore path reason io).2 ∧
      ((r.switchStore path reason io).1 = .ok () → r.view.stoppedByUser = true)) ∨
    (∃ r', r.resumesFrom path reason io = some r' ∧ r.Released r' ∧
      (r.view.stoppedByUser = true → r.view.writer.isSome) ∧
      (r.switchStore path reason io).2 = (r'.start io.start).2 ∧
      ((r.switchStore path reason io).1 = .ok () → (r'.start io.start).1 = .ok ())) := by
  unfold switchStore resumesFrom
  have hstop : ∀ s, (r.withStorage s).task.stoppedByUser = r.view.stoppedByUser := fun _ => rfl
  have hstop' : r.task.stoppedByUser = r.view.stoppedByUser := rfl
  cases hw : r.view.writer with
  | some w =>
    have hrec : r.task.state.isRecording = true := by rw [isRecording_eq, hw]; rfl
    simp only [hrec, if_true, Bool.true_or]
    right
    by_cases hp : r.storage.store.path = path
    · rw [if_pos hp, if_pos hp]
      exact ⟨_, rfl, .inl (finishCurrentEntry_view ..), fun _ => rfl, rfl, id⟩
    · rw [if_neg hp, if_neg hp]
      generalize hf : r.finishCurrentEntry _ io.finish = r₁
      have hv : r₁.view = r.view.closed := by rw [← hf, finishCurrentEntry_view]
      generalize ho : RecordingStore.openOrRecover r₁.storage.device path io.open = q
      obtain ⟨result, device⟩ := q
      cases result with
      | error e => exact ⟨_, rfl, .inl hv, fun _ => rfl, rfl, fun heq => by cases heq⟩
      | ok store =>
        have hcap : store.capture = none := by
          rw [RecordingStore.capture_eq_none]
          exact (openOrRecover_store (by rw [ho])).2
        refine ⟨_, rfl, .inl ?_, fun _ => rfl, rfl, id⟩
        rw [view_withStorage, hv, hcap]
        rfl
  | none =>
    have hrec : r.task.state.isRecording = false := by rw [isRecording_eq, hw]; rfl
    simp only [hrec, Bool.false_eq_true, if_false, Bool.false_or, hstop, hstop']
    have hsame : r.Released r := .inr ⟨hw, rfl⟩
    by_cases hp : r.storage.store.path = path
    · rw [if_pos hp, if_pos hp]
      cases hu : r.view.stoppedByUser with
      | true => exact .inl ⟨rfl, trivial, hsame, fun _ => rfl⟩
      | false => exact .inr ⟨r, rfl, hsame, fun heq => (by cases heq), rfl, id⟩
    · rw [if_neg hp, if_neg hp]
      generalize ho : RecordingStore.openOrRecover r.storage.device path io.open = q
      obtain ⟨result, device⟩ := q
      cases result with
      | error e => exact .inl ⟨rfl, trivial, hsame, fun heq => by cases heq⟩
      | ok store =>
        have hcap : store.capture = none := by
          rw [RecordingStore.capture_eq_none]
          exact (openOrRecover_store (by rw [ho])).2
        have hmoved : r.Released (r.withStorage ⟨store, device⟩) := by
          left
          rw [view_withStorage, hcap]
          simp [View.closed, hw]
        cases hu : r.view.stoppedByUser with
        | true => exact .inl ⟨rfl, trivial, hmoved, fun _ => rfl⟩
        | false => exact .inr ⟨_, rfl, hmoved, fun heq => (by cases heq), rfl, id⟩

/-! ## Deleting -/

section
omit [Chrono] [Build]

omit [SerdeJson] in
/-- The recording that is deleted is stopped first; any other leaves things as they look. -/
theorem deleteEntry_view (r : Recorder) (name : String) (stopIo : FinishIo) (io : DeleteIo) :
    (r.deleteEntry name stopIo io).2.view =
      if r.storage.store.isCurrentEntry name then r.view.halted else r.view := by
  unfold deleteEntry
  by_cases hc : r.storage.store.isCurrentEntry name = true
  · rw [if_pos hc, if_pos hc]
    have hv := r.stop_view none stopIo
    have hcap : (r.stop none stopIo).storage.store.capture = none :=
      congrArg View.current hv
    have hnot : (r.stop none stopIo).storage.store.isCurrentEntry name = false := by
      rw [RecordingStore.capture_eq_none] at hcap
      simp [RecordingStore.isCurrentEntry, RecordingStore.getCurrentEntry, hcap]
    exact (view_withStorage_of_capture (deleteEntry_capture hnot io)).trans hv
  · rw [if_neg hc, if_neg hc]
    exact view_withStorage_of_capture (deleteEntry_capture (Bool.eq_false_iff.2 hc) io)

omit [SerdeJson] in
theorem deleteAllEntries_view (r : Recorder) (stopIo : FinishIo) (io : DeleteAllIo) :
    (r.deleteAllEntries stopIo io).2.view = r.view.halted := by
  have hv := r.stop_view none stopIo
  have hcap := deleteAllEntries_capture (r.stop none stopIo).storage io
  show ((r.stop none stopIo).withStorage
    ((r.stop none stopIo).storage.deleteAllEntries io).2).view = _
  rw [view_withStorage, hcap, hv]
  rfl

end

/-! ## Containers -/

section
omit [Chrono] [Build]

/-- The space check stops the recording, or leaves it as it is. -/
theorem keepSpace_view (r : Recorder) (io : ContainerIo) :
    (∀ r', r.keepSpace io = .error r' → r'.view = r.view.halted) ∧
      ∀ r', r.keepSpace io = .ok r' → r'.view = r.view := by
  unfold keepSpace
  split
  · exact ⟨fun _ h => (nomatch h), fun r' h => by cases h; rfl⟩
  · have hv : (r.withSpaceCheck 0 r.task.lowSpaceWarned).view = r.view := rfl
    generalize r.withSpaceCheck 0 r.task.lowSpaceWarned = r₁ at hv ⊢
    simp only
    split
    · exact ⟨fun r' h => by cases h; rw [stop_view, view_notify, hv], fun _ h => (nomatch h)⟩
    · generalize hp : (if r₁.task.autoDeleteClean = true then pruneCleanRecordings r₁.storage
        r₁.task.minSpaceToStartMb r₁.task.uploadsConfigured io.prune else (0, r₁.storage)) = p
      have hcap : p.2.store.capture = r₁.storage.store.capture := by
        rw [← hp]
        split
        · exact prune_capture ..
        · rfl
      have hv' := (view_withStorage_of_capture hcap).trans hv
      refine ⟨fun r' h => ?_, fun r' h => ?_⟩
      · split at h
        · cases h
        · split at h <;> cases h
      · split at h
        · cases h; exact hv'
        · split at h <;> cases h <;> exact hv'
    · exact ⟨fun _ h => (nomatch h), fun r' h => by cases h; exact hv⟩
    · exact ⟨fun _ h => (nomatch h), fun r' h => by cases h; exact hv⟩

/-- What writing a container leaves: the writer on the disk as the write leaves it, and what noting a
size in the manifest leaves of that. -/
inductive Stored (r : Recorder) (qmdlWriter : QmdlWriter) (analysisWriter : AnalysisWriter)
    (container : MessagesContainer) (io : ContainerIo) : Recorder → QmdlWriter → Prop
  | written {result : Except IoError Unit} {qw : QmdlWriter} {d : Disk} :
    qmdlWriter.writeContainer container io.write r.storage.device.disk = (result, qw, d) →
    Stored r qmdlWriter analysisWriter container io
      ((r.withDisk d).withState (.recording qw analysisWriter)) qw
  | sized {r₁ : Recorder} {qw : QmdlWriter} (fileSize : Nat) :
    Stored r qmdlWriter analysisWriter container io r₁ qw →
    Stored r qmdlWriter analysisWriter container io
      ((r₁.note .size (some qw.path)).withStorage
        (r₁.storage.updateCurrentEntryQmdlSize fileSize io.now io.manifest).2) qw

omit [SerdeJson] in
/-- **What `storeContainer` can do**: it stops the recording in such a state, or goes on with it. -/
theorem storeContainer_cases (r : Recorder) (qmdlWriter : QmdlWriter)
    (analysisWriter : AnalysisWriter) (container : MessagesContainer) (io : ContainerIo) :
    ∃ r₁ qw, Stored r qmdlWriter analysisWriter container io r₁ qw ∧
      ((∃ reason, r.storeContainer qmdlWriter analysisWriter container io =
          .error (r₁.stop (some reason) io.stop)) ∨
        ∃ reason, r.storeContainer qmdlWriter analysisWriter container io = .ok (r₁, qw, reason)) := by
  unfold storeContainer
  cases hw : qmdlWriter.writeContainer container io.write r.storage.device.disk with
  | mk result p =>
    obtain ⟨qw, d⟩ := p
    have hwritten : Stored r qmdlWriter analysisWriter container io _ qw := .written hw
    simp only
    generalize (r.withDisk d).withState (.recording qw analysisWriter) = r₁ at hwritten ⊢
    cases result with
    | error e => exact ⟨r₁, qw, hwritten, .inl ⟨_, rfl⟩⟩
    | ok u =>
      simp only
      cases qw.size io.size with
      | error e => exact ⟨r₁, qw, hwritten, .inr ⟨_, rfl⟩⟩
      | ok fileSize =>
        have hsized := hwritten.sized fileSize
        simp only [storage_note]
        generalize r₁.storage.updateCurrentEntryQmdlSize fileSize io.now io.manifest = q at hsized ⊢
        obtain ⟨result, s⟩ := q
        cases result with
        | error e => exact ⟨_, qw, hsized, .inl ⟨_, rfl⟩⟩
        | ok u => exact ⟨_, qw, hsized, .inr ⟨_, rfl⟩⟩

omit [SerdeJson] [Sidecar] in
theorem Stored.path {r r₁ : Recorder} {qmdlWriter qw : QmdlWriter} {analysisWriter : AnalysisWriter}
    {container : MessagesContainer} {io : ContainerIo}
    (h : Stored r qmdlWriter analysisWriter container io r₁ qw) : qw.path = qmdlWriter.path := by
  induction h with
  | written hw =>
    have hpath := qmdlWriter.writeContainer_path container io.write r.storage.device.disk
    rw [hw] at hpath
    exact hpath
  | sized fileSize _ ih => exact ih

omit [SerdeJson] [Sidecar] in
/-- The capture and the entry stay what they are. -/
theorem Stored.view {r r₁ : Recorder} {qmdlWriter qw : QmdlWriter} {analysisWriter : AnalysisWriter}
    {container : MessagesContainer} {io : ContainerIo}
    (h : Stored r qmdlWriter analysisWriter container io r₁ qw)
    (hw : r.view.writer = some qmdlWriter.path) : r₁.view = r.view := by
  induction h with
  | written hwrite =>
    have hstored : Stored r qmdlWriter analysisWriter container io _ _ := .written hwrite
    rw [view_withState, view_withDisk, DiagState.writerPath?, hstored.path, ← hw]
  | @sized r₁ qw fileSize _ ih =>
    have hsame := (r₁.storage.updateCurrentEntryQmdlSize_same fileSize io.now io.manifest).capture
    rw [view_withStorage_of_capture (by rw [storage_note]; exact hsame), view_note, ih]

omit [SerdeJson] in
/-- Writing a container stops the recording, or leaves it as it is. -/
theorem storeContainer_view {r : Recorder} {qmdlWriter : QmdlWriter}
    (hw : r.view.writer = some qmdlWriter.path) (analysisWriter : AnalysisWriter)
    (container : MessagesContainer) (io : ContainerIo) :
    (∀ r', r.storeContainer qmdlWriter analysisWriter container io = .error r' →
      r'.view = r.view.halted) ∧
    ∀ r' qw reason, r.storeContainer qmdlWriter analysisWriter container io = .ok (r', qw, reason) →
      r'.view = r.view ∧ qw.path = qmdlWriter.path := by
  obtain ⟨r₁, qw, hstored, ⟨reason, heq⟩ | ⟨reason, heq⟩⟩ :=
    r.storeContainer_cases qmdlWriter analysisWriter container io
  · refine ⟨fun r' h => ?_, fun r' qw reason h => ?_⟩
    · cases heq.symm.trans h
      rw [stop_view, hstored.view hw]
    · cases heq.symm.trans h
  · refine ⟨fun r' h => ?_, fun r' qw reason h => ?_⟩
    · cases heq.symm.trans h
    · cases heq.symm.trans h
      exact ⟨hstored.view hw, hstored.path⟩

end

omit [Gzip] [SerdeJson] [Chrono] [Toml] [Sidecar] [Build] in
theorem announce_view (r : Recorder) (maxType : EventType) :
    (r.announce maxType).view = r.view.raised maxType := by
  have hnote : (if .informational < maxType then r.notify (detectionNotice maxType) else r).view =
      r.view := by
    split <;> rfl
  unfold announce View.raised
  generalize (if EventType.informational < maxType then r.notify (detectionNotice maxType) else r) =
    r₁ at hnote ⊢
  rw [← hnote]
  simp only
  split
  · next h =>
    have hpos : EventType.informational < maxType :=
      lt_of_le_of_lt (EventType.informational_le _) h
    rw [if_pos hpos]
    exact (if_pos h).symm
  · next h => exact (if_neg h).symm

omit [Gzip] [Toml] [Sidecar] [Build] in
/-- Analysing a container shows its severity where it is the highest so far. -/
theorem analyzeContainer_view {r : Recorder} {qmdlWriter : QmdlWriter}
    (hw : r.view.writer = some qmdlWriter.path) (analysisWriter : AnalysisWriter)
    (container : MessagesContainer) (demo : Bool) (faults : Nat → WriteFault) :
    ∃ maxType, (r.analyzeContainer qmdlWriter analysisWriter container demo faults).view =
      r.view.raised maxType := by
  unfold analyzeContainer
  simp only
  generalize analysisWriter.analyzeContainerInner container _ faults _ = p
  obtain ⟨analysis, aw, d⟩ := p
  have hv : (((r.countContainer container).withDisk d).withState (.recording qmdlWriter aw)).view =
      r.view := by
    rw [view_withState, view_withDisk]
    show { r.view with writer := some qmdlWriter.path } = r.view
    rw [← hw]
  cases analysis with
  | ok maxType => exact ⟨maxType, by rw [announce_view, hv]⟩
  | error e => exact ⟨.informational, by rw [announce_view, hv]⟩

/-- The ways a container can be recorded, with the view it leaves and whether the recording is to be
rotated. -/
inductive ContainerOutcome (r : Recorder) : View → Bool → Prop
  | idle (h : r.view.writer = none) : ContainerOutcome r r.view false
  | halted (h : r.view.writer.isSome) : ContainerOutcome r r.view.halted false
  | analysed (h : r.view.writer.isSome) (maxType : EventType) (rotates : Bool) :
    ContainerOutcome r (r.view.raised maxType) rotates

omit [Build] in
/-- A container that is let through by the disk is analysed. -/
theorem recordContainer_of_stored {r r₁ r₂ : Recorder} {qw qw' : QmdlWriter} {aw : AnalysisWriter}
    {container : MessagesContainer} {io : ContainerIo} {reason : Option String}
    (hs : r.task.state = .recording qw aw) (hk : r.keepSpace io = .ok r₁)
    (hst : r₁.storeContainer qw aw container io = .ok (r₂, qw', reason)) (demo : Bool) :
    r.recordContainer container demo io =
      (r₂.analyzeContainer qw' aw container demo io.analysis, reason) := by
  simp only [recordContainer, hs, hk, hst]

omit [Build] in
/-- **How recording a container ends**, before a rotation. -/
theorem recordContainer_outcome (r : Recorder) (container : MessagesContainer) (demo : Bool)
    (io : ContainerIo) :
    ContainerOutcome r (r.recordContainer container demo io).1.view
      (r.recordContainer container demo io).2.isSome := by
  unfold recordContainer
  cases hs : r.task.state with
  | stopped => exact .idle (by rw [view, hs]; rfl)
  | recording qmdlWriter analysisWriter =>
    have hw : r.view.writer = some qmdlWriter.path := by rw [view, hs]; rfl
    have hsome : r.view.writer.isSome := by rw [hw]; rfl
    obtain ⟨herr, hok⟩ := r.keepSpace_view io
    simp only
    cases hk : r.keepSpace io with
    | error r' =>
      simp only [herr r' hk]
      exact .halted hsome
    | ok r₁ =>
      have hv₁ := hok r₁ hk
      obtain ⟨herr', hok'⟩ := storeContainer_view (hv₁ ▸ hw) analysisWriter container io
      simp only
      cases hst : r₁.storeContainer qmdlWriter analysisWriter container io with
      | error r' =>
        simp only [herr' r' hst, hv₁]
        exact .halted hsome
      | ok p =>
        obtain ⟨r₂, qw, reason⟩ := p
        obtain ⟨hv₂, hpath⟩ := hok' _ _ _ hst
        have hw₂ : r₂.view.writer = some qw.path := by rw [hv₂, hv₁, hw, hpath]
        obtain ⟨maxType, hv₃⟩ :=
          analyzeContainer_view hw₂ analysisWriter container demo io.analysis
        simp only [hv₃, hv₂, hv₁]
        exact .analysed hsome maxType _

/-- A container is recorded, and rotates the recording or does not. -/
theorem processContainerInner_cases (r : Recorder) (container : MessagesContainer) (demo : Bool)
    (io : ContainerIo) :
    r.processContainerInner container demo io = r ∨
    ((r.recordContainer container demo io).2 = none ∧
      r.processContainerInner container demo io = (r.recordContainer container demo io).1) ∨
    (∃ reason, (r.recordContainer container demo io).2 = some reason ∧
      r.processContainerInner container demo io =
        (r.recordContainer container demo io).1.rotate reason io.rotate) := by
  unfold processContainerInner
  split
  · exact .inl rfl
  · right
    generalize r.recordContainer container demo io = p
    obtain ⟨r₁, reason⟩ := p
    cases reason with
    | none => exact .inl ⟨rfl, rfl⟩
    | some reason => exact .inr ⟨reason, rfl, rfl⟩

/-- What is not of the type `UserSpace` is skipped (`diag.rs:657`). -/
theorem processContainerInner_skips (r : Recorder) {container : MessagesContainer}
    (h : container.dataType ≠ .userSpace) (demo : Bool) (io : ContainerIo) :
    r.processContainerInner container demo io = r := by
  rw [processContainerInner, if_pos h]

/-- Capturing what the device has sent is capturing its containers of the type `UserSpace`. -/
theorem foldl_processContainerInner (captured : List (MessagesContainer × ContainerIo))
    (r : Recorder) :
    captured.foldl (fun r (container, io) => r.processContainerInner container false io) r =
      (captured.filter (·.1.dataType = .userSpace)).foldl
        (fun r (container, io) => r.processContainerInner container false io) r := by
  induction captured generalizing r with
  | nil => rfl
  | cons c captured ih =>
    obtain ⟨container, io⟩ := c
    rw [List.foldl_cons]
    by_cases h : container.dataType = .userSpace
    · rw [List.filter_cons_of_pos (by simpa using h), List.foldl_cons]
      exact ih _
    · rw [List.filter_cons_of_neg (by simpa using h), ← ih r]
      simp only [processContainerInner_skips r h]

end Recorder

end Rayhunter
