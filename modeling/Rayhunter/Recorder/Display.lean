import Rayhunter.Recorder.Stopped

/-!
# What the device shows

The light on the device and the severity behind it in every run of the recorder. The display says
that nothing is recorded exactly where nothing is (`display_agrees`), as long as no start by hand is
refused for want of space while a recording is running: the recording goes on and the display is told
otherwise. A severity that has been seen stays and is shown (`severity_stays`), as long as a step that
forgets it finds none: a start forgets it first thing, and a storage switch, a start by hand that
fails and a rotation that fails all come to one.
-/

namespace Rayhunter

open Storage Runs

/-- The display, where it was told anything, was last told whether something is written to. -/
def View.Agrees (v : View) : Prop := ∀ d, v.shown = some d → (d = .paused ↔ v.writer = none)

/-- It is so after something has been shown that agrees. -/
theorem View.agrees_of_shown {v : View} {d : DisplayState} (hd : v.shown = some d)
    (h : d = .paused ↔ v.writer = none) : v.Agrees := by
  intro d' hd'
  rw [hd] at hd'
  cases hd'
  exact h

/-- A severity above Informational that was found by what is being recorded is shown. -/
def View.ShowsSeverity (v : View) : Prop :=
  v.writer.isSome → EventType.informational < v.severity →
    v.shown = some (.warningDetected v.severity)

/-- Raising a severity does not lower it. -/
theorem View.severity_le_raised (v : View) (maxType : EventType) :
    v.severity ≤ (v.raised maxType).severity := by
  rcases v.raised_cases maxType with heq | ⟨hlt, heq⟩
  · rw [heq]
  · rw [heq]; exact hlt.le

namespace Recorder

variable [Decoders] [Detectors] [Gzip] [SerdeJson] [Chrono] [Toml] [Sidecar] [Build]

/-! ## Paused or not -/

/-- The steps that do not refuse a start while a recording is running. -/
def NotRefusedRunning (r : Recorder) : RecorderStep → Prop
  | .startRecording io => r.task.state.isRecording = true → r.spaceRefusal io.space = none
  | _ => True

omit [Chrono] in
theorem StartOutcome.agrees {r : Recorder} {io : StartIo} {res : Except RecordingStoreError Unit}
    {v : View} (h : StartOutcome r io res v)
    (hr : r.view.writer.isSome → r.spaceRefusal io.space = none) : v.Agrees := by
  cases h with
  | refused hs =>
    refine View.agrees_of_shown rfl ⟨fun _ => ?_, fun _ => rfl⟩
    cases hw : r.view.writer with
    | none => exact hw
    | some w =>
      rw [hr (by rw [hw]; rfl)] at hs
      cases hs
  | unclaimed => exact View.agrees_of_shown rfl ⟨fun _ => rfl, fun _ => rfl⟩
  | half => exact View.agrees_of_shown rfl ⟨fun _ => rfl, fun _ => rfl⟩
  | started => exact View.agrees_of_shown rfl ⟨nofun, nofun⟩

/-- A step that refuses no start of a running recorder keeps the display right. -/
theorem agrees_step {r r' : Recorder} {op : RecorderStep} (h : r.view.Agrees)
    (hop : r.NotRefusedRunning op) (hst : r.step op = some r') : r'.view.Agrees := by
  have ho := step_outcome hst
  generalize r'.view = v at ho ⊢
  cases ho with
  | quiet => exact h
  | halted => exact View.agrees_of_shown rfl ⟨fun _ => rfl, fun _ => rfl⟩
  | userStopped => exact View.agrees_of_shown rfl ⟨fun _ => rfl, fun _ => rfl⟩
  | raised hw maxType =>
    rcases r.view.raised_cases maxType with heq | ⟨-, heq⟩
    · rw [heq]; exact h
    · rw [heq]
      exact View.agrees_of_shown rfl ⟨fun heq => (by cases heq), fun hnone => by simp_all [View.showing]⟩
  | released hw => exact fun d hd => (h d hd).trans ⟨fun _ => rfl, fun _ => hw⟩
  | userStarted io heq ho =>
    subst heq
    refine ho.agrees fun hw => ?_
    have hrec : r.task.state.isRecording = true := by rw [isRecording_eq]; exact hw
    exact (hop hrec : r.spaceRefusal io.space = none)
  | resumed _ _ _ r₁ _ _ hrel _ ho => exact ho.agrees fun hw => by simp [hrel.writer] at hw
  | rotated =>
    refine View.agrees_of_shown rfl ⟨fun heq => ?_, fun heq => by cases heq⟩
    split at heq <;> cases heq
  | unrotated => exact View.agrees_of_shown rfl ⟨fun _ => rfl, fun _ => rfl⟩

/-- A start of a device whose disk has filled up. -/
def refusedStart : StartIo := { startAt anInstant with space := diskFull }

/-- A start by hand that is carried out. -/
def StartsByHand (r : Recorder) (op : RecorderStep) : Prop :=
  ∃ io, op = .startRecording io ∧ ((r.withStoppedByUser false).start io).1 = .ok ()

/-- A step that forgets the severity, other than a start by hand that is carried out: one that fails,
a storage switch that comes to a start, and a rotation whose start fails. -/
def Forgets (r : Recorder) : RecorderStep → Prop
  | .startRecording io => ¬ (r.withStoppedByUser false).Startable io
  | .switchStore path reason io => (r.resumesFrom path reason io).isSome
  | op => ∃ q, r.rotation op = some q ∧ ¬ (rotated q).Startable q.2.2.start

/-- There is nothing to forget, or the step does not forget it. -/
def KeepsSeverity (r : Recorder) (op : RecorderStep) : Prop :=
  r.task.maxTypeSeen = .informational ∨ ¬ r.Forgets op

/-- A rotation whose start fails forgets the severity. -/
theorem forgets_of_rotation {r : Recorder} {op : RecorderStep} {q : Recorder × String × RotateIo}
    (h : r.rotation op = some q) (hs : ¬ (rotated q).Startable q.2.2.start) : r.Forgets op := by
  cases op with
  | startRecording io => cases h
  | switchStore path reason io => cases h
  | _ => exact ⟨q, h, hs⟩

/-- Any other step keeps the severity or raises it. -/
theorem severity_le_step {r r' : Recorder} {op : RecorderStep} (hhand : ¬ r.StartsByHand op)
    (hop : r.KeepsSeverity op) (hst : r.step op = some r') :
    r.task.maxTypeSeen ≤ r'.task.maxTypeSeen := by
  rcases hop with hnone | hkeep
  · rw [hnone]
    exact EventType.informational_le _
  · show r.view.severity ≤ r'.view.severity
    have ho := step_outcome hst
    generalize r'.view = v at ho ⊢
    cases ho with
    | quiet => exact le_refl _
    | halted => exact le_refl _
    | userStopped => exact le_refl _
    | raised _ maxType => exact r.view.severity_le_raised maxType
    | released => exact le_refl _
    | userStarted io heq =>
      subst heq
      exact absurd ⟨io, rfl, start_ok_iff.2 (not_not.1 hkeep)⟩ hhand
    | resumed path reason io r₁ heq hr =>
      subst heq
      exact absurd (by rw [hr]; rfl : (r.resumesFrom path reason io).isSome) hkeep
    | rotated _ _ _ maxType => exact r.view.severity_le_raised maxType
    | unrotated q h _ hs => exact absurd (forgets_of_rotation h hs) hkeep

omit [Chrono] in
/-- A start has no severity to show. -/
theorem StartOutcome.showsSeverity {r : Recorder} {io : StartIo}
    {res : Except RecordingStoreError Unit} {v : View} (h : StartOutcome r io res v) :
    v.ShowsSeverity := by
  intro _ hpos
  cases h <;> exact absurd hpos (lt_irrefl _)

/-- Every step leaves the severity shown while something is recorded. -/
theorem showsSeverity_step {r r' : Recorder} {op : RecorderStep} (h : r.view.ShowsSeverity)
    (hst : r.step op = some r') : r'.view.ShowsSeverity := by
  have ho := step_outcome hst
  generalize r'.view = v at ho ⊢
  cases ho with
  | quiet => exact h
  | halted => exact nofun
  | userStopped => exact nofun
  | raised _ maxType =>
    rcases r.view.raised_cases maxType with heq | ⟨-, heq⟩
    · rw [heq]; exact h
    · rw [heq]; exact fun _ _ => rfl
  | released => exact nofun
  | userStarted io _ ho => exact ho.showsSeverity
  | resumed _ _ _ _ _ _ _ _ ho => exact ho.showsSeverity
  | rotated _ _ _ maxType => exact fun _ hpos => congrArg some (if_pos hpos)
  | unrotated => exact nofun

/-- **A severity stays until a recording is started by hand, and is shown**, in every run whose steps
find nothing to forget or do not forget it. -/
theorem severity_stays {config : RecorderConfig} {r r' : Recorder}
    (h : Reach (Fresh config) Recorder.step (fun _ _ => True) r)
    (h' : Reach (· = r) Recorder.step (fun r op => ¬ r.StartsByHand op ∧ r.KeepsSeverity op) r') :
    r.task.maxTypeSeen ≤ r'.task.maxTypeSeen ∧
      (r'.task.state.isRecording = true → .informational < r'.task.maxTypeSeen →
        r'.display.head? = some (.warningDetected r'.task.maxTypeSeen)) := by
  have hshown : r.view.ShowsSeverity := by
    refine h.invariant (fun s hs _ hpos => ?_) fun s op s' hi _ hst => showsSeverity_step hi hst
    have hinfo : s.view.severity = .informational := by
      show s.task.maxTypeSeen = _
      rw [hs.task]
      rfl
    rw [hinfo] at hpos
    exact absurd hpos (lt_irrefl _)
  have hle : r.task.maxTypeSeen ≤ r'.task.maxTypeSeen := by
    refine @Reach.invariant _ _ _ _ _ (fun s => r.task.maxTypeSeen ≤ s.task.maxTypeSeen)
      (fun s hs => ?_) (fun s op s' hi hop hst => ?_) r' h'
    · rw [hs]
    · exact hi.trans (severity_le_step hop.1 hop.2 hst)
  have hshown' : r'.view.ShowsSeverity := by
    refine h'.invariant (fun s hs => ?_) fun s op s' hi _ hst => showsSeverity_step hi hst
    rw [hs]
    exact hshown
  refine ⟨hle, fun hrec hpos => hshown' ?_ hpos⟩
  rw [← isRecording_eq]
  exact hrec

omit [Decoders] [Detectors] [Gzip] [SerdeJson] [Chrono] [Toml] [Sidecar] [Build] in
/-- A recording in which a null cipher is found. -/
theorem severity_stays_found :
    let _ := nasDecoders
    let _ := nullCipherDetectors
    let _ := storedGzip
    let _ := jsonText
    let _ := sidecarJson
    let _ := oneInstant
    let _ := deviceBuild
    let _ := tomlAt "2024-08-19T03:33:54+00:00"
    ∃ r r' : Recorder, r.task.maxTypeSeen ≤ r'.task.maxTypeSeen ∧ r'.task.maxTypeSeen = .high ∧
      r'.display.head? = some (.warningDetected r'.task.maxTypeSeen) := by
  let _ := nasDecoders
  let _ := nullCipherDetectors
  let _ := storedGzip
  let _ := jsonText
  let _ := sidecarJson
  let _ := oneInstant
  let _ := deviceBuild
  let _ := tomlAt "2024-08-19T03:33:54+00:00"
  intro _ _ _ _ _ _ _ _
  let r : Recorder := ((blankRecorder.withStoppedByUser false).start (startAt anInstant)).2
  have hrun : Reach (Fresh defaultConfig) Recorder.step (fun _ _ => True) r :=
    .step (.init blankRecorder_fresh) (i := .startRecording (startAt anInstant)) trivial rfl
  have hrun' : Reach (· = r) Recorder.step
      (fun r op => ¬ r.StartsByHand op ∧ r.KeepsSeverity op) _ :=
    .step (.init rfl) (i := .container (containerOf [nullCipherFrame]) (containerAt anInstant))
      ⟨fun ⟨_, h, _⟩ => (nomatch h), .inl (by decide +kernel)⟩ rfl
  obtain ⟨hle, hshown⟩ := severity_stays hrun hrun'
  exact ⟨_, _, hle, by decide +kernel, hshown (by decide +kernel) (by decide +kernel)⟩

omit [Decoders] [Detectors] [Gzip] [SerdeJson] [Chrono] [Toml] [Sidecar] [Build] in
/-- A storage switch to where the recordings are already forgets a severity. -/
theorem switchStore_forgets_severity :
    let _ := nasDecoders
    let _ := nullCipherDetectors
    let _ := storedGzip
    let _ := jsonText
    let _ := sidecarJson
    let _ := oneInstant
    let _ := deviceBuild
    let _ := tomlAt "2024-08-19T03:33:54+00:00"
    ¬ ∀ r r' : Recorder, Reach (Fresh defaultConfig) Recorder.step (fun _ _ => True) r →
      Reach (· = r) Recorder.step (fun r op => ¬ r.StartsByHand op) r' →
        r.task.maxTypeSeen ≤ r'.task.maxTypeSeen := by
  let _ := nasDecoders
  let _ := nullCipherDetectors
  let _ := storedGzip
  let _ := jsonText
  let _ := sidecarJson
  let _ := oneInstant
  let _ := deviceBuild
  let _ := tomlAt "2024-08-19T03:33:54+00:00"
  intro _ _ _ _ _ _ _ _ h
  let r : Recorder := ((blankRecorder.withStoppedByUser false).start
    (startAt anInstant)).2.processContainerInner (containerOf [nullCipherFrame]) false
      (containerAt anInstant)
  have hrun : Reach (Fresh defaultConfig) Recorder.step (fun _ _ => True) r :=
    .step (.step (.init blankRecorder_fresh) (i := .startRecording (startAt anInstant)) trivial rfl)
      (i := .container (containerOf [nullCipherFrame]) (containerAt anInstant)) trivial rfl
  have hrun' : Reach (· = r) Recorder.step (fun r op => ¬ r.StartsByHand op) _ :=
    .step (.init rfl) (i := .switchStore defaultStorePath "card inserted" (switchAt anInstant))
      (fun ⟨_, h, _⟩ => nomatch h) rfl
  exact absurd (h _ _ hrun hrun') (by decide +kernel)

end Recorder

end Rayhunter
