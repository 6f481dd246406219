import Rayhunter.Recorder.Spec

/-!
# What a step of the recorder can do

Every message the task handles comes down to one of nine changes of what can be seen
(`step_outcome`). What holds of every run of the recorder is proved from these, and not from the
functions.
-/

namespace Rayhunter

open Storage

namespace Recorder

variable [Decoders] [Detectors] [Gzip] [SerdeJson] [Chrono] [Toml] [Sidecar] [Build]

/-- The recorder a container rotates, with the reason and the answers of the device, where it
does. -/
def rotationOf (r : Recorder) (container : MessagesContainer) (demo : Bool) (io : ContainerIo) :
    Option (Recorder × String × RotateIo) :=
  if container.dataType ≠ .userSpace then none
  else
    (r.recordContainer container demo io).2.map fun reason =>
      ((r.recordContainer container demo io).1, reason, io.rotate)

/-- The rotation a step comes to, where it does. -/
def rotation (r : Recorder) : RecorderStep → Option (Recorder × String × RotateIo)
  | .container container io => r.rotationOf container false io
  | .injectDemo (some container) io => r.rotationOf container true io
  | _ => none

/-- The recorder a rotation starts the next recording from. -/
def rotated : Recorder × String × RotateIo → Recorder
  | (r, reason, io) => r.finishCurrentEntry (some reason) io.finish

/-- What a step can do to the view. -/
inductive StepOutcome (r : Recorder) (op : RecorderStep) : View → Prop
  | quiet : StepOutcome r op r.view
  | halted : StepOutcome r op r.view.halted
  | userStopped (io : FinishIo) (h : op = .stopRecording io) :
    StepOutcome r op { r.view.halted with stoppedByUser := true }
  | raised (h : r.view.writer.isSome) (maxType : EventType) :
    StepOutcome r op (r.view.raised maxType)
  | released (hw : r.view.writer = none) : StepOutcome r op r.view.closed
  | userStarted (io : StartIo) (h : op = .startRecording io)
    {res : Except RecordingStoreError Unit} {v : View}
    (ho : StartOutcome (r.withStoppedByUser false) io res v) : StepOutcome r op v
  | resumed (path : PathBuf) (reason : String) (io : SwitchIo) (r₁ : Recorder)
    (h : op = .switchStore path reason io) (hr : r.resumesFrom path reason io = some r₁)
    (hrel : r.Released r₁) (hu : r.view.stoppedByUser = true → r.view.writer.isSome)
    {res : Except RecordingStoreError Unit} {v : View} (ho : StartOutcome r₁ io.start res v) :
    StepOutcome r op v
  | rotated (q : Recorder × String × RotateIo) (h : r.rotation op = some q)
    (hw : r.view.writer.isSome) (maxType : EventType)
    (hs : (Recorder.rotated q).Startable q.2.2.start) (p : FilePath) : StepOutcome r op
      ({ r.view.raised maxType with
        writer := some p
        current := some (some p) }.showing
          (if EventType.informational < (r.view.raised maxType).severity then
            .warningDetected (r.view.raised maxType).severity
          else .recording))
  | unrotated (q : Recorder × String × RotateIo) (h : r.rotation op = some q)
    (hw : r.view.writer.isSome) (hs : ¬ (Recorder.rotated q).Startable q.2.2.start) :
    StepOutcome r op { r.view.halted with severity := .informational }

/-- What a container can do. -/
theorem processContainerInner_outcome (r : Recorder) (op : RecorderStep)
    (container : MessagesContainer) (demo : Bool) (io : ContainerIo)
    (hop : r.rotation op = r.rotationOf container demo io) :
    StepOutcome r op (r.processContainerInner container demo io).view := by
  have hrec := r.recordContainer_outcome container demo io
  unfold rotationOf at hop
  unfold processContainerInner
  split
  · exact .quiet
  · next hd =>
    rw [if_neg hd] at hop
    generalize r.recordContainer container demo io = p at hrec hop ⊢
    obtain ⟨r₁, reason⟩ := p
    cases reason with
    | none =>
      simp only
      generalize hv : r₁.view = v at hrec ⊢
      simp only [Option.isSome_none] at hrec
      cases hrec with
      | idle h => exact .quiet
      | halted h => exact .halted
      | analysed h maxType => exact .raised h maxType
    | some reason =>
      generalize hv : r₁.view = v at hrec
      simp only [Option.isSome_some] at hrec
      cases hrec with
      | analysed h maxType =>
        rcases r₁.rotate_cases reason io.rotate with ⟨hs, p, hr⟩ | ⟨hs, hr⟩
        · simp only [hr, hv]
          exact .rotated _ hop h maxType hs p
        · have hview : { r₁.view.halted with severity := EventType.informational } =
              { r.view.halted with severity := EventType.informational } := by
            rw [hv]
            rcases r.view.raised_cases maxType with heq | ⟨-, heq⟩
            · rw [heq]
            · rw [heq]; rfl
          simp only [hr, hview]
          exact .unrotated _ hop h hs

/-- **Every step of the recorder is one of these.** -/
theorem step_outcome {r r' : Recorder} {op : RecorderStep} (h : r.step op = some r') :
    StepOutcome r op r'.view := by
  cases op with
  | injectDemo container io =>
    cases container with
    | none => cases h; exact .quiet
    | some container => cases h; exact processContainerInner_outcome _ _ _ _ _ rfl
  | stopRecording io =>
    cases h
    rw [stop_view]
    exact .userStopped io rfl
  | switchStore path reason io =>
    cases h
    rcases r.switchStore_cases path reason io with ⟨-, hw, hrel, -⟩ | ⟨r₁, hr, hrel, hu, heq, -⟩
    · rcases hrel with hv | ⟨-, hv⟩ <;> rw [hv]
      · exact .released hw
      · exact .quiet
    · rw [heq]
      exact .resumed path reason io r₁ rfl hr hrel hu (r₁.start_outcome io.start)
  | startRecording io =>
    cases h
    exact .userStarted io rfl (start_outcome _ io)
  | deleteEntry name stop io =>
    cases h
    rw [deleteEntry_view]
    split
    · exact .halted
    · exact .quiet
  | deleteAllEntries stop io =>
    cases h
    rw [deleteAllEntries_view]
    exact .halted
  | gpsUpdate lat lon io =>
    cases h
    rw [handleGpsUpdate_view]
    exact .quiet
  | exit => cases h
  | container container io => cases h; exact processContainerInner_outcome _ _ _ _ _ rfl
  | setEntryAnnotations name displayName notes io =>
    cases h
    rw [view_withStorage_of_capture (setEntryAnnotations_same _ _ _ _ _).capture]
    exact .quiet
  | markEntryAsUploaded name uploadTime io =>
    cases h
    rw [view_withStorage_of_capture (markEntryAsUploaded_same _ _ _ _).capture]
    exact .quiet
  | files disk => cases h; exact .quiet

end Recorder

end Rayhunter
