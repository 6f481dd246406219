import Rayhunter.Cleanup.Classify
import Rayhunter.Lib.Reach
import Rayhunter.Recorder.Outcome

/-!
# A recorder that is stopped

Two things about the stopped state in every run of the recorder. Once the user has stopped it, it
stays stopped until it is started by hand, and as long as the user has not, a storage switch that
reports success has resumed the recording (`stop_means_stop`). And a stopped recorder has no current
entry (`currentEntry_none_of_stopped`), as long as no start fails between claiming the files of an
entry and opening the writers: such a start leaves the entry current.
-/

namespace Rayhunter

open Storage Runs

/-- Where nothing is written to no entry is current. -/
def View.NoneLeft (v : View) : Prop := v.writer = none → v.current = none

namespace Recorder

variable [Decoders] [Detectors] [Gzip] [SerdeJson] [Chrono] [Toml] [Sidecar] [Build]

/-! ## Stopped by the user -/

section
omit [Chrono]

omit [Gzip] [SerdeJson] [Toml] [Sidecar] [Build] in
theorem state_eq_stopped_iff {r : Recorder} : r.task.state = .stopped ↔ r.view.writer = none := by
  rw [DiagState.eq_stopped_iff, isRecording_eq, ← Option.not_isSome_iff_eq_none, Bool.not_eq_true]

omit [Gzip] [SerdeJson] [Toml] [Sidecar] [Build] in
theorem Released.stoppedByUser {r r' : Recorder} (h : r.Released r') :
    r'.view.stoppedByUser = r.view.stoppedByUser := by
  rcases h with h | ⟨-, h⟩ <;> rw [h]; rfl

omit [Gzip] [SerdeJson] [Toml] [Sidecar] [Build] in
theorem Released.writer {r r' : Recorder} (h : r.Released r') : r'.view.writer = none := by
  rcases h with h | ⟨hw, h⟩
  · rw [h]; rfl
  · rw [h]; exact hw

theorem StartOutcome.stoppedByUser {r : Recorder} {io : StartIo}
    {res : Except RecordingStoreError Unit} {v : View} (h : StartOutcome r io res v) :
    v.stoppedByUser = r.view.stoppedByUser := by
  cases h <;> rfl

end

/-- The user has stopped the recorder, and it is stopped. -/
structure UserStopped (r : Recorder) : Prop where
  writer : r.view.writer = none
  stopped : r.view.stoppedByUser = true

/-- It stays so until it is started by hand. -/
theorem UserStopped.step {r r' : Recorder} {op : RecorderStep} (h : r.UserStopped)
    (hop : ∀ io, op ≠ .startRecording io) (hst : r.step op = some r') : r'.UserStopped := by
  obtain ⟨hw, hu⟩ := h
  have hnot : ¬ r.view.writer.isSome := by simp [hw]
  have ho := step_outcome hst
  suffices hv : r'.view.writer = none ∧ r'.view.stoppedByUser = true from ⟨hv.1, hv.2⟩
  generalize r'.view = v at ho ⊢
  cases ho with
  | quiet => exact ⟨hw, hu⟩
  | halted => exact ⟨rfl, hu⟩
  | userStopped io heq => exact ⟨rfl, rfl⟩
  | raised hw' => exact absurd hw' hnot
  | released => exact ⟨rfl, hu⟩
  | userStarted io heq => exact absurd heq (hop io)
  | resumed _ _ _ _ _ _ _ hu' => exact absurd (hu' hu) hnot
  | rotated _ _ hw' => exact absurd hw' hnot
  | unrotated _ _ hw' => exact absurd hw' hnot

/-- Whether the user stopped the recorder changes at his messages alone. -/
theorem stoppedByUser_step {r r' : Recorder} {op : RecorderStep}
    (h : r.view.stoppedByUser = false) (hop : ∀ io, op ≠ .stopRecording io)
    (hst : r.step op = some r') : r'.view.stoppedByUser = false := by
  have ho := step_outcome hst
  generalize r'.view = v at ho ⊢
  have hraised : ∀ maxType, (r.view.raised maxType).stoppedByUser = false := by
    intro maxType
    rcases r.view.raised_cases maxType with heq | ⟨-, heq⟩ <;> (rw [heq]; exact h)
  cases ho with
  | quiet => exact h
  | halted => exact h
  | userStopped io heq => exact absurd heq (hop io)
  | raised _ maxType => exact hraised maxType
  | released => exact h
  | userStarted io _ ho => rw [ho.stoppedByUser]; rfl
  | resumed _ _ _ _ _ _ hrel _ ho => rw [ho.stoppedByUser, hrel.stoppedByUser]; exact h
  | rotated _ _ _ maxType => exact hraised maxType
  | unrotated => exact h

/-- A storage switch that reports success has resumed the recording, unless the user had stopped
it. -/
theorem switchStore_resumes {r : Recorder} {path : PathBuf} {reason : String} {io : SwitchIo}
    (h : r.view.stoppedByUser = false) (hok : (r.switchStore path reason io).1 = .ok ()) :
    (r.switchStore path reason io).2.task.state.isRecording = true := by
  rw [isRecording_eq]
  rcases r.switchStore_cases path reason io with ⟨-, -, -, hu⟩ | ⟨r₁, -, -, -, heq, hres⟩
  · rw [hu hok] at h
    cases h
  · have ho := r₁.start_outcome io.start
    rw [heq]
    rw [hres hok] at ho
    generalize (r₁.start io.start).2.view = v at ho ⊢
    cases ho
    rfl

/-- **Stop means stop.** After `StopRecording` nothing but `StartRecording` makes the recorder
record; and from the beginning, or from a `StartRecording`, until the next `StopRecording`, a storage
switch that reports success leaves it recording. -/
theorem stop_means_stop (config : RecorderConfig) :
    (∀ (r r' r'' : Recorder) (io : FinishIo), r.step (.stopRecording io) = some r' →
      Reach (· = r') Recorder.step (fun _ op => ∀ io, op ≠ .startRecording io) r'' →
        r''.task.state = .stopped) ∧
    (∀ (r r' : Recorder) (path : PathBuf) (reason : String) (io : SwitchIo),
      (Fresh config r ∨ ∃ (p : Recorder) (io : StartIo), p.step (.startRecording io) = some r) →
      Reach (· = r) Recorder.step (fun _ op => ∀ io, op ≠ .stopRecording io) r' →
      (r'.switchStore path reason io).1 = .ok () →
        (r'.switchStore path reason io).2.task.state.isRecording = true) := by
  constructor
  · intro r r' r'' io hstop hrun
    have hstopped : r'.UserStopped := by
      cases hstop
      constructor <;> rw [stop_view] <;> rfl
    have hinv : r''.UserStopped := by
      refine hrun.invariant (fun s hs => ?_) fun s op s' h hop hst => h.step hop hst
      rw [hs]
      exact hstopped
    exact state_eq_stopped_iff.2 hinv.writer
  · intro r r' path reason io hr hrun hok
    have hstart : r.view.stoppedByUser = false := by
      rcases hr with hfresh | ⟨p, io, hst⟩
      · show r.task.stoppedByUser = false
        rw [hfresh.task]
        rfl
      · cases hst
        exact (start_outcome _ io).stoppedByUser
    have hinv : r'.view.stoppedByUser = false := by
      refine hrun.invariant (fun s hs => ?_) fun s op s' h hop hst => stoppedByUser_step h hop hst
      rw [hs]
      exact hstart
    exact switchStore_resumes hinv hok

/-- The directory recordings are kept in on a card. -/
def cardStorePath : PathBuf := ["media", "card", "rayhunter", "qmdl"]

omit [Decoders] [Detectors] [Gzip] [SerdeJson] [Chrono] [Toml] [Sidecar] [Build] in
/-- A recorder that moves to a card, once after the user stopped it and once before. -/
theorem stop_means_stop_switched :
    let _ := nasDecoders
    let _ := nullCipherDetectors
    let _ := storedGzip
    let _ := jsonText
    let _ := sidecarJson
    let _ := oneInstant
    let _ := deviceBuild
    let _ := tomlAt "2024-08-19T03:33:54+00:00"
    (∃ r r' : Recorder, blankRecorder.step (.stopRecording (finishAt anInstant)) = some r ∧
      r.step (.switchStore cardStorePath "card inserted" (switchAt anInstant)) = some r' ∧
      r'.task.state = .stopped) ∧
    (blankRecorder.switchStore cardStorePath "card inserted"
      (switchAt anInstant)).2.task.state.isRecording = true := by
  let _ := nasDecoders
  let _ := nullCipherDetectors
  let _ := storedGzip
  let _ := jsonText
  let _ := sidecarJson
  let _ := oneInstant
  let _ := deviceBuild
  let _ := tomlAt "2024-08-19T03:33:54+00:00"
  intro _ _ _ _ _ _ _ _
  constructor
  · exact ⟨_, _, rfl, rfl, (stop_means_stop defaultConfig).1 blankRecorder _ _ _ rfl
      (.step (.init rfl) (i := .switchStore cardStorePath "card inserted" (switchAt anInstant))
        (fun _ h => nomatch h) rfl)⟩
  · exact (stop_means_stop defaultConfig).2 blankRecorder _ _ _ _ (.inl blankRecorder_fresh)
      (.init rfl) (by decide +kernel)

/-! ## No current entry -/

/-- A start that claims the files of an entry goes through. -/
def ClaimCompletes (r : Recorder) (io : StartIo) : Prop :=
  r.spaceRefusal io.space = none → r.CanClaim io → r.Completes io

/-- The steps that leave no recording half started: their start, if there is one, goes through once
it has claimed the files of an entry. A rotation may fail there, since it then stops. -/
def NotHalfStarted (r : Recorder) : RecorderStep → Prop
  | .startRecording io => (r.withStoppedByUser false).ClaimCompletes io
  | .switchStore path reason io =>
    ∀ r', r.resumesFrom path reason io = some r' → r'.ClaimCompletes io.start
  | _ => True

omit [Chrono] in
theorem StartOutcome.noneLeft {r : Recorder} {io : StartIo} {res : Except RecordingStoreError Unit}
    {v : View} (h : StartOutcome r io res v) (hr : r.view.NoneLeft)
    (hc : r.ClaimCompletes io) : v.NoneLeft := by
  cases h with
  | refused => exact hr
  | unclaimed => exact fun _ => rfl
  | half hs hcan hf => exact absurd (hc hs hcan) hf
  | started => exact nofun

omit [Gzip] [SerdeJson] [Chrono] [Toml] [Sidecar] [Build] in
theorem Released.noneLeft {r r' : Recorder} (h : r.Released r') (hr : r.view.NoneLeft) :
    r'.view.NoneLeft := by
  rcases h with h | ⟨-, h⟩
  · rw [h]; exact fun _ => rfl
  · rw [h]; exact hr

/-- A step that leaves no recording half started leaves no entry current in a stopped recorder. -/
theorem noneLeft_step {r r' : Recorder} {op : RecorderStep} (h : r.view.NoneLeft)
    (hop : r.NotHalfStarted op) (hst : r.step op = some r') : r'.view.NoneLeft := by
  have ho := step_outcome hst
  generalize r'.view = v at ho ⊢
  cases ho with
  | quiet => exact h
  | halted => exact fun _ => rfl
  | userStopped => exact fun _ => rfl
  | raised _ maxType =>
    rcases r.view.raised_cases maxType with heq | ⟨-, heq⟩
    · rw [heq]; exact h
    · rw [heq]; exact h
  | released => exact fun _ => rfl
  | userStarted io heq ho =>
    subst heq
    exact ho.noneLeft h hop
  | resumed path reason io r₁ heq hr hrel _ ho =>
    subst heq
    exact ho.noneLeft (hrel.noneLeft h) (hop r₁ hr)
  | rotated => exact nofun
  | unrotated => exact fun _ => rfl

/-- **A stopped recorder has no current entry**, in every run in which no start fails after it has
claimed the files of an entry. -/
theorem currentEntry_none_of_stopped {config : RecorderConfig} {r : Recorder}
    (h : Reach (Fresh config) Recorder.step NotHalfStarted r) (hs : r.task.state = .stopped) :
    r.storage.store.currentEntry = none := by
  have hinv : r.view.NoneLeft := by
    refine h.invariant (fun s hs _ => ?_) fun s op s' hi hop hst => noneLeft_step hi hop hst
    exact RecordingStore.capture_eq_none.2 hs.current
  exact RecordingStore.capture_eq_none.1 (hinv (state_eq_stopped_iff.1 hs))

omit [Decoders] [Detectors] [Gzip] [SerdeJson] [Chrono] [Toml] [Sidecar] [Build] in
/-- A recording that is made and stopped. -/
theorem currentEntry_none_of_stopped_made :
    let _ := nasDecoders
    let _ := nullCipherDetectors
    let _ := storedGzip
    let _ := jsonText
    let _ := sidecarJson
    let _ := oneInstant
    let _ := deviceBuild
    let _ := tomlAt "2024-08-19T03:33:54+00:00"
    ∃ r : Recorder, r.finished = ["1724038434-0"] ∧ r.storage.store.currentEntry = none := by
  let _ := nasDecoders
  let _ := nullCipherDetectors
  let _ := storedGzip
  let _ := jsonText
  let _ := sidecarJson
  let _ := oneInstant
  let _ := deviceBuild
  let _ := tomlAt "2024-08-19T03:33:54+00:00"
  intro _ _ _ _ _ _ _ _
  have hrun : Reach (Fresh defaultConfig) Recorder.step NotHalfStarted _ :=
    .step (.step (.init blankRecorder_fresh) (i := .startRecording (startAt anInstant))
      (fun _ _ => ⟨rfl, nofun, rfl⟩) rfl) (i := .stopRecording (finishAt anInstant)) trivial rfl
  exact ⟨_, by decide +kernel, currentEntry_none_of_stopped hrun
    (DiagState.eq_stopped_iff.2 (by decide +kernel))⟩

omit [Decoders] [Detectors] [Gzip] [SerdeJson] [Chrono] [Toml] [Sidecar] [Build] in
/-- A start whose manifest cannot be written stops with the new entry current. -/
theorem stopped_with_currentEntry :
    let _ := nasDecoders
    let _ := nullCipherDetectors
    let _ := storedGzip
    let _ := jsonText
    let _ := sidecarJson
    let _ := oneInstant
    let _ := deviceBuild
    let _ := tomlAt "2024-08-19T03:33:54+00:00"
    ¬ ∀ r : Recorder, Reach (Fresh defaultConfig) Recorder.step (fun _ _ => True) r →
      r.task.state = .stopped → r.storage.store.currentEntry = none := by
  let _ := nasDecoders
  let _ := nullCipherDetectors
  let _ := storedGzip
  let _ := jsonText
  let _ := sidecarJson
  let _ := oneInstant
  let _ := deviceBuild
  let _ := tomlAt "2024-08-19T03:33:54+00:00"
  intro _ _ _ _ _ _ _ _ h
  let failing : StartIo :=
    { startAt anInstant with
      entry := { entryAt anInstant with manifest := { create := some noSpaceLeft } } }
  have hrun : Reach (Fresh defaultConfig) Recorder.step (fun _ _ => True) _ :=
    .step (.init blankRecorder_fresh) (i := .startRecording failing) trivial rfl
  exact absurd (h _ hrun (DiagState.eq_stopped_iff.2 (by decide +kernel))) (by decide +kernel)

end Recorder

end Rayhunter
