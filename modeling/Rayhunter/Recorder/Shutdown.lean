import Rayhunter.Recorder.Capture

/-!
# Shutting down

`run_shutdown_thread` (`daemon/src/main.rs`) takes the store's lock, closes the entry that is
current, and only then sends the recording task its `Exit`, on which the task stops its writers
(`run_diag_read_thread`, `daemon/src/diag.rs`). Between the two, and before them, the task goes on
with its messages and containers. A capture that is open when either has its turn is not closed
properly (`closes_properly`): the thread closes the entry under the writer, whose size the task then
has no entry to note on, and the `Exit` closes no entry at all.
-/

namespace Rayhunter

open Storage Runs

variable [Decoders] [Detectors]

/-- A capture that has been closed: the task before its closing steps and after them, and what the
device answered the closing of the writers. -/
structure Closed where
  before : Recorder
  io : Recorder.CloseIo
  after : Recorder

/-- The recording task with the shutdown thread: whether each has had its last turn, and if so
whether a capture was open then, and the captures the task has closed, the latest first. -/
structure Shutdown where
  recorder : Recorder
  thread : Option Bool := none
  exit : Option Bool := none
  closed : List Closed := []

/-- The turns: a message or a container of the task, the shutdown thread's with the store's lock,
and the task's `Exit`. -/
inductive ShutdownStep
  | task (op : RecorderStep)
  | thread (io : SidecarIo)
  | exit (io : Recorder.CloseIo)

namespace Shutdown

/-- The task begins with a store it has just been handed. -/
def Init (config : RecorderConfig) (s : Shutdown) : Prop :=
  Recorder.Fresh config s.recorder ∧ s.thread = none ∧ s.exit = none ∧ s.closed = []

/-- Both have had their last turn. -/
def Finished (s : Shutdown) : Prop := s.thread.isSome ∧ s.exit.isSome

/-- The task closed every capture properly. -/
def Proper (s : Shutdown) : Prop := ∀ c ∈ s.closed, c.before.ClosedProperly c.after

/-- The disk took what closing the captures wrote. -/
def Taken (s : Shutdown) : Prop := ∀ c ∈ s.closed, c.io.close = {}

/-- No capture was open when the shutdown thread had the lock, nor when the task took its `Exit`. -/
def NothingOpen (s : Shutdown) : Prop := s.thread = some false ∧ s.exit = some false

variable [Gzip] [SerdeJson] [Chrono] [Toml] [Sidecar] [Build]

/-- What a closing leaves. -/
def closedBy (c : Closing) : Closed :=
  ⟨c.recorder, c.io.close, c.recorder.finishCurrentEntry c.reason c.io⟩

/-- One turn. What others do to the files of a recording is left out. -/
def step (s : Shutdown) : ShutdownStep → Option Shutdown
  | .task op =>
    match s.exit, op with
    | none, .files _ => none
    | none, op =>
      (s.recorder.step op).map fun r =>
        { s with recorder := r, closed := ((s.recorder.closing op).map closedBy).toList ++ s.closed }
    | some _, _ => none
  | .thread io =>
    match s.thread with
    | none => some
        { s with
          recorder := s.recorder.withStorage (s.recorder.storage.closeOpenEntry io)
          thread := some s.recorder.task.state.isRecording }
    | some _ => none
  | .exit io =>
    match s.thread, s.exit with
    | some _, none =>
      let r := s.recorder.stopCurrentRecording io
      let closed := if s.recorder.task.state.isRecording then ⟨s.recorder, io, r⟩ :: s.closed
        else s.closed
      some { s with recorder := r, exit := some s.recorder.task.state.isRecording, closed }
    | _, _ => none

/-- What a turn of the task comes to. -/
theorem step_task {s s' : Shutdown} {op : RecorderStep} (h : s.step (.task op) = some s') :
    s.exit = none ∧ (∀ d, op ≠ .files d) ∧ ∃ r, s.recorder.step op = some r ∧
      s' = { s with
        recorder := r
        closed := ((s.recorder.closing op).map closedBy).toList ++ s.closed } := by
  unfold step at h
  cases he : s.exit with
  | some b => rw [he] at h; cases h
  | none =>
    rw [he] at h
    cases op with
    | files d => cases h
    | _ =>
      obtain ⟨r, hr, rfl⟩ := Option.map_eq_some_iff.1 h
      exact ⟨rfl, fun _ h => (nomatch h), r, hr, rfl⟩

/-- What the turn of the shutdown thread comes to. -/
theorem step_thread {s s' : Shutdown} {io : SidecarIo} (h : s.step (.thread io) = some s') :
    s.thread = none ∧ s' = { s with
      recorder := s.recorder.withStorage (s.recorder.storage.closeOpenEntry io)
      thread := some s.recorder.view.writer.isSome } := by
  simp only [step] at h
  cases ht : s.thread with
  | some b => rw [ht] at h; cases h
  | none =>
    rw [ht] at h
    cases h
    exact ⟨rfl, by rw [Recorder.isRecording_eq]⟩

/-- What the task's `Exit` comes to. -/
theorem step_exit {s s' : Shutdown} {io : Recorder.CloseIo} (h : s.step (.exit io) = some s') :
    s.thread.isSome ∧ s.exit = none ∧ s' = { s with
      recorder := s.recorder.stopCurrentRecording io
      exit := some s.recorder.view.writer.isSome
      closed := if s.recorder.view.writer.isSome then
          ⟨s.recorder, io, s.recorder.stopCurrentRecording io⟩ :: s.closed
        else s.closed } := by
  simp only [step] at h
  split at h
  · next b ht hx =>
    cases h
    exact ⟨by rw [ht]; rfl, hx, by rw [Recorder.isRecording_eq]⟩
  · cases h

/-! ## Captures closed in time -/

/-- As long as the thread has not closed an entry under its writer, the writer and the current entry
are in step and the writer stands at the end of its file. -/
structure InTime (s : Shutdown) : Prop where
  paired : s.thread ≠ some true → s.recorder.view.Paired
  measured : s.thread ≠ some true → s.recorder.Measured
  proper : s.thread ≠ some true → s.exit ≠ some true →
    ∀ c ∈ s.closed, c.io.close = {} → c.before.ClosedProperly c.after

/-- The thread closes no entry under a writer, or it is too late; the task closes what it finds
current. -/
theorem inTime_step {s s' : Shutdown} {op : ShutdownStep} (h : s.InTime)
    (hst : s.step op = some s') : s'.InTime := by
  obtain ⟨hp, hm, hc⟩ := h
  cases op with
  | task op =>
    obtain ⟨he, hop, r, hr, rfl⟩ := step_task hst
    refine ⟨fun ht => Recorder.paired_step (hp ht) hr,
      fun ht => Recorder.measured_step (hm ht) (hp ht) hop hr, fun ht hx c hmem hio => ?_⟩
    rcases List.mem_append.1 hmem with hmem | hmem
    · obtain ⟨c', hclosing, rfl⟩ := Option.map_eq_some_iff.1 (Option.mem_toList.1 hmem)
      obtain ⟨hkept, -⟩ := Recorder.closing_kept hclosing
      refine Recorder.finishCurrentEntry_closedProperly
        (Recorder.closing_measured (hm ht) (hp ht) hclosing) (fun w hw => ?_) _ hio
      rw [hkept.writer] at hw
      rw [hkept.current]
      exact hp ht w hw
    · exact hc ht hx c hmem hio
  | thread io =>
    obtain ⟨ht, rfl⟩ := step_thread hst
    have hidle : some s.recorder.view.writer.isSome ≠ some true → s.recorder.view.writer = none := by
      intro hne
      simpa using hne
    refine ⟨fun hne w hw => ?_, fun hne => Recorder.measured_of_idle (hidle hne),
      fun _ => hc (by rw [ht]; nofun)⟩
    have hnone := hidle hne
    rw [show s.recorder.view.writer = some w from hw] at hnone
    cases hnone
  | exit io =>
    obtain ⟨-, hx, rfl⟩ := step_exit hst
    have hidle : (s.recorder.stopCurrentRecording io).view.writer = none := by
      rw [Recorder.stopCurrentRecording_view]
    refine ⟨fun _ w hw => ?_, fun _ => Recorder.measured_of_idle hidle, fun hne hrec => ?_⟩
    · rw [show (s.recorder.stopCurrentRecording io).view.writer = some w from hw] at hidle
      cases hidle
    · simp only [ne_eq, Option.some.injEq] at hrec
      simp only [if_neg hrec]
      exact hc hne (by rw [hx]; nofun)

/-! ## Captures closed too late -/

/-- Some capture was not closed properly. -/
def Broken (s : Shutdown) : Prop := ∃ c ∈ s.closed, ¬ c.before.ClosedProperly c.after

/-- A capture that was open at the last turn of the thread or of the task has not been closed
properly, or is still open with no entry current. -/
structure TooLate (s : Shutdown) : Prop where
  order : s.thread = none → s.exit = none
  thread : s.thread = some true → s.Broken ∨
    (s.exit = none ∧ s.recorder.view.writer.isSome ∧ s.recorder.view.current = none)
  exit : s.exit = some true → s.Broken

omit [Gzip] [SerdeJson] [Chrono] [Toml] [Sidecar] [Build] in
/-- A capture whose entry is not current is not closed properly, and neither is one whose entry stays
current. -/
theorem not_closedProperly {before after : Recorder} (hw : before.view.writer.isSome)
    (h : before.view.current = none ∨ after.view.current = before.view.current) :
    ¬ before.ClosedProperly after := by
  intro hclosed
  obtain ⟨qw, aw, hs⟩ := DiagState.isRecording_iff.1 (by rw [Recorder.isRecording_eq]; exact hw)
  obtain ⟨i, e, e', hget, -, -, -, -, hnone⟩ := hclosed qw aw hs
  have hcur : before.view.current = some (some (e.getFilepath .qmdl before.storage.store.path)) :=
    RecordingStore.capture_of_getCurrentEntry hget
  rcases h with h | h
  · rw [hcur] at h
    cases h
  · rw [hcur, show after.view.current = none from RecordingStore.capture_eq_none.2 hnone] at h
    cases h

theorem tooLate_step {s s' : Shutdown} {op : ShutdownStep} (h : s.TooLate)
    (hst : s.step op = some s') : s'.TooLate := by
  obtain ⟨ho, ht, hx⟩ := h
  cases op with
  | task op =>
    obtain ⟨he, -, r, hr, rfl⟩ := step_task hst
    have hgrow : s.Broken → ∃ c ∈ ((s.recorder.closing op).map closedBy).toList ++ s.closed,
        ¬ c.before.ClosedProperly c.after := fun ⟨c, hc, hn⟩ => ⟨c, List.mem_append_right _ hc, hn⟩
    refine ⟨ho, fun hthread => ?_, fun hexit => by rw [show s.exit = some true from hexit] at he; cases he⟩
    rcases ht hthread with hb | ⟨-, hw, hcur⟩
    · exact .inl (hgrow hb)
    · cases hclosing : s.recorder.closing op with
      | none =>
        have hkept := Recorder.kept_of_closing_eq_none hclosing hw hr
        exact .inr ⟨he, by rw [hkept.writer]; exact hw, by rw [hkept.current]; exact hcur⟩
      | some c =>
        obtain ⟨hkept, -⟩ := Recorder.closing_kept hclosing
        refine .inl ⟨closedBy c, by simp, not_closedProperly ?_ (.inl ?_)⟩
        · show c.recorder.view.writer.isSome
          rw [hkept.writer]
          exact hw
        · exact hkept.current.trans hcur
  | thread io =>
    obtain ⟨hthread, rfl⟩ := step_thread hst
    refine ⟨nofun, fun hrec => .inr ⟨ho hthread, Option.some.inj hrec, ?_⟩, hx⟩
    show (s.recorder.storage.closeOpenEntry io).store.capture = none
    rw [RecordingStore.capture_eq_none, closeOpenEntry_store]
  | exit io =>
    obtain ⟨hthread, -, rfl⟩ := step_exit hst
    have hbroken : s.recorder.view.writer.isSome → Broken { s with
        recorder := s.recorder.stopCurrentRecording io
        exit := some s.recorder.view.writer.isSome
        closed := if s.recorder.view.writer.isSome then
            ⟨s.recorder, io, s.recorder.stopCurrentRecording io⟩ :: s.closed
          else s.closed } := by
      intro hw
      refine ⟨⟨s.recorder, io, s.recorder.stopCurrentRecording io⟩, ?_,
        not_closedProperly hw (.inr ?_)⟩
      · simp only [if_pos hw]
        exact List.mem_cons_self ..
      · rw [Recorder.stopCurrentRecording_view]
    refine ⟨fun hnone => ?_, fun htrue => .inl ?_, fun hrec => hbroken (Option.some.inj hrec)⟩
    · rw [show s.thread = none from hnone] at hthread
      cases hthread
    · rcases ht htrue with ⟨c, hc, hn⟩ | ⟨-, hw, -⟩
      · refine ⟨c, ?_, hn⟩
        simp only
        split
        · exact List.mem_cons_of_mem _ hc
        · exact hc
      · exact hbroken hw

/-- **When shutting down closes the recording.** In every run of the shutdown thread and the
recording task in which both have finished: the task has closed every capture properly only where no
capture was open when the thread had the lock or the task took its `Exit`; and there it has, as far
as the disk took what closing the captures wrote. -/
theorem closes_properly {config : RecorderConfig} {s : Shutdown}
    (h : Reach (Init config) step (fun _ _ => True) s) (hf : s.Finished) :
    (s.Proper → s.NothingOpen) ∧ (s.NothingOpen → s.Taken → s.Proper) := by
  have hin : s.InTime := by
    refine h.invariant (fun s hi => ?_) fun s op s' hi _ hst => inTime_step hi hst
    obtain ⟨hr, -, -, hc⟩ := hi
    have hidle : s.recorder.view.writer = none := by rw [Recorder.view, hr.task]; rfl
    refine ⟨fun _ w hw => ?_, fun _ => Recorder.measured_of_idle hidle, fun _ _ => by simp [hc]⟩
    rw [hidle] at hw
    cases hw
  have hlate : s.TooLate := by
    refine h.invariant (fun s hi => ?_) fun s op s' hi _ hst => tooLate_step hi hst
    obtain ⟨-, ht, he, -⟩ := hi
    exact ⟨fun _ => he, by simp [ht], by simp [he]⟩
  obtain ⟨hthread, hexit⟩ := hf
  have hok : s.Proper → ¬ s.Broken := by
    rintro hp ⟨c, hc, hn⟩
    exact hn (hp c hc)
  constructor
  · intro hp
    constructor
    · obtain ⟨b, hb⟩ := Option.isSome_iff_exists.1 hthread
      cases b with
      | false => exact hb
      | true =>
        rcases hlate.thread hb with hbroken | ⟨he, -⟩
        · exact absurd hbroken (hok hp)
        · rw [he] at hexit; cases hexit
    · obtain ⟨b, hb⟩ := Option.isSome_iff_exists.1 hexit
      cases b with
      | false => exact hb
      | true => exact absurd (hlate.exit hb) (hok hp)
  · rintro ⟨ht, he⟩ htaken c hc
    exact hin.proper (by simp [ht]) (by simp [he]) c hc (htaken c hc)

/-- The device that has not recorded anything, with nothing told to shut down. -/
def blankShutdown : Shutdown := { recorder := Recorder.blankRecorder }

omit [Gzip] [SerdeJson] [Chrono] [Toml] [Sidecar] [Build] in
theorem blankShutdown_init : Init Recorder.defaultConfig blankShutdown :=
  ⟨Recorder.blankRecorder_fresh, rfl, rfl, rfl⟩

/-- A recording is begun and captures a container. -/
def recorded : List ShutdownStep :=
  [.task (.startRecording (Recorder.startAt anInstant)),
    .task (.container (containerOf [nullCipherFrame]) (Recorder.containerAt anInstant))]

/-- The device is shut down. -/
def shutDown : List ShutdownStep := [.thread {}, .exit { now := anInstant }]

omit [Decoders] [Detectors] [Gzip] [SerdeJson] [Chrono] [Toml] [Sidecar] [Build] in
/-- A recording that is stopped before the device shuts down. -/
theorem closes_properly_stopped :
    let _ := nasDecoders
    let _ := nullCipherDetectors
    let _ := storedGzip
    let _ := jsonText
    let _ := sidecarJson
    let _ := oneInstant
    let _ := deviceBuild
    let _ := tomlAt "2024-08-19T03:33:54+00:00"
    ∃ s : Shutdown, s.closed.length = 1 ∧ s.Proper := by
  let _ := nasDecoders
  let _ := nullCipherDetectors
  let _ := storedGzip
  let _ := jsonText
  let _ := sidecarJson
  let _ := oneInstant
  let _ := deviceBuild
  let _ := tomlAt "2024-08-19T03:33:54+00:00"
  intro _ _ _ _ _ _ _ _
  have hfacts : ((recorded ++ .task (.stopRecording (Recorder.finishAt anInstant)) ::
      shutDown).foldlM step blankShutdown).any (fun s => s.closed.length = 1 ∧
        s.thread = some false ∧ s.exit = some false ∧ ∀ c ∈ s.closed, c.io.close = {}) = true := by
    decide +kernel
  obtain ⟨s, hs, hgood⟩ := (Option.any_eq_true _ _).1 hfacts
  obtain ⟨hone, hthread, hexit, htaken⟩ := of_decide_eq_true hgood
  exact ⟨s, hone, (closes_properly (Reach.of_foldlM (.init blankShutdown_init) hs)
    ⟨by rw [hthread]; rfl, by rw [hexit]; rfl⟩).2 ⟨hthread, hexit⟩ htaken⟩

omit [Decoders] [Detectors] [Gzip] [SerdeJson] [Chrono] [Toml] [Sidecar] [Build] in
/-- A recording that is open when the device shuts down: its writer is closed with no entry
current. -/
theorem closed_under_writer :
    let _ := nasDecoders
    let _ := nullCipherDetectors
    let _ := storedGzip
    let _ := jsonText
    let _ := sidecarJson
    let _ := oneInstant
    let _ := deviceBuild
    let _ := tomlAt "2024-08-19T03:33:54+00:00"
    ¬ ∀ s : Shutdown, Reach (Init Recorder.defaultConfig) step (fun _ _ => True) s →
      s.Finished → s.Proper := by
  let _ := nasDecoders
  let _ := nullCipherDetectors
  let _ := storedGzip
  let _ := jsonText
  let _ := sidecarJson
  let _ := oneInstant
  let _ := deviceBuild
  let _ := tomlAt "2024-08-19T03:33:54+00:00"
  intro _ _ _ _ _ _ _ _ h
  have hfacts : ((recorded ++ shutDown).foldlM step blankShutdown).any (fun s =>
      s.thread.isSome ∧ s.exit.isSome ∧ s.closed.any fun c =>
        c.before.view.writer.isSome && c.before.view.current.isNone) = true := by
    decide +kernel
  obtain ⟨s, hs, hbad⟩ := (Option.any_eq_true _ _).1 hfacts
  obtain ⟨hthread, hexit, hclosed⟩ := of_decide_eq_true hbad
  obtain ⟨c, hc, hnone⟩ := List.any_eq_true.1 hclosed
  obtain ⟨hw, hcur⟩ := Bool.and_eq_true_iff.1 hnone
  exact not_closedProperly hw (.inl (Option.isNone_iff_eq_none.1 hcur))
    (h s (Reach.of_foldlM (.init blankShutdown_init) hs) ⟨hthread, hexit⟩ c hc)

end Shutdown

end Rayhunter
