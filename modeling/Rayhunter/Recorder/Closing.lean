import Rayhunter.Recorder.Notes

/-!
# Where a capture is closed

The task closes the capture it writes to by `finish_current_entry`, which many of its messages come
to. `Recorder.closing` names the call a step makes with a capture open; a step without one leaves
the capture open and the current entry where it is (`kept_of_closing_eq_none`).
-/

namespace Rayhunter

open Storage

/-- A call of `finish_current_entry` with a capture open: what it is called on, the reason it is
given, and what the device answers. -/
structure Closing [Decoders] [Detectors] where
  recorder : Recorder
  reason : Option String
  io : Recorder.FinishIo

namespace Recorder

variable [Decoders] [Detectors]

/-- The closing of a capture that is open. -/
def closingWith (r : Recorder) (reason : Option String) (io : FinishIo) : Option Closing :=
  if r.task.state.isRecording then some ⟨r, reason, io⟩ else none

theorem closingWith_eq_some {r : Recorder} {reason : Option String} {io : FinishIo} {c : Closing}
    (h : r.closingWith reason io = some c) : r.view.writer.isSome ∧ c = ⟨r, reason, io⟩ := by
  unfold closingWith at h
  split at h
  · next hr =>
    cases h
    exact ⟨by rw [← isRecording_eq]; exact hr, rfl⟩
  · cases h

theorem closingWith_eq_none {r : Recorder} {reason : Option String} {io : FinishIo}
    (h : r.closingWith reason io = none) : r.view.writer = none := by
  unfold closingWith at h
  split at h
  · cases h
  · next hr =>
    rw [isRecording_eq] at hr
    simpa using hr

variable [Gzip] [SerdeJson] [Chrono] [Toml] [Sidecar] [Build]

/-- Where `start_inner` closes (`diag.rs:314`). -/
def startClosing (r : Recorder) (io : StartIo) : Option Closing :=
  let r := r.resetCounters.makeRoom io
  match r.spaceRefusal io.space with
  | some _ => none
  | none => r.closingWith none io.finish

/-- Where the space check does (`diag.rs:661`). -/
def spaceClosing (r : Recorder) (io : ContainerIo) : Option Closing :=
  if r.task.bytesSinceSpaceCheck < DISK_CHECK_BYTES_INTERVAL then none
  else
    let r := r.withSpaceCheck 0 r.task.lowSpaceWarned
    match r.checkSpace io.reading with
    | .critical mb =>
      let reason :=
        s!"Disk space critically low ({mb.toNat}MB free), recording stopped automatically"
      some ⟨r.notify ⟨.warning, reason, none⟩, some reason, io.stop⟩
    | _ => none

/-- Where the write of a container does (`diag.rs:737`). -/
def storeClosing (r : Recorder) (qmdlWriter : QmdlWriter) (analysisWriter : AnalysisWriter)
    (container : MessagesContainer) (io : ContainerIo) : Option Closing :=
  match qmdlWriter.writeContainer container io.write r.storage.device.disk with
  | (result, qmdlWriter, d) =>
    let r := (r.withDisk d).withState (.recording qmdlWriter analysisWriter)
    match result with
    | .error e => some ⟨r, some s!"failed to write to QMDL (disk full?): {e.text}", io.stop⟩
    | .ok () =>
      match qmdlWriter.size io.size with
      | .error _ => none
      | .ok fileSize =>
        let r := r.note .size (some qmdlWriter.path)
        match r.storage.updateCurrentEntryQmdlSize fileSize io.now io.manifest with
        | (.error e, s) =>
          some ⟨r.withStorage s, some s!"failed to update manifest (disk full?): {e.display}",
            io.stop⟩
        | (.ok (), _) => none

/-- Where a container does (`diag.rs:637`). -/
def containerClosing (r : Recorder) (container : MessagesContainer) (demo : Bool)
    (io : ContainerIo) : Option Closing :=
  if container.dataType ≠ .userSpace then none
  else
    match r.task.state with
    | .stopped => none
    | .recording qmdlWriter analysisWriter =>
      match r.keepSpace io with
      | .error _ => r.spaceClosing io
      | .ok r₁ =>
        match r₁.storeContainer qmdlWriter analysisWriter container io with
        | .error _ => r₁.storeClosing qmdlWriter analysisWriter container io
        | .ok _ => (r.rotationOf container demo io).map fun (r₂, reason, io) =>
            ⟨r₂, some reason, io.finish⟩

/-- Where a step does. -/
def closing (r : Recorder) : RecorderStep → Option Closing
  | .injectDemo (some container) io => r.containerClosing container true io
  | .stopRecording io => (r.withStoppedByUser true).closingWith none io
  | .switchStore _ reason io => r.closingWith (some s!"storage changed: {reason}") io.finish
  | .startRecording io => (r.withStoppedByUser false).startClosing io
  | .deleteEntry name stop _ =>
    if r.storage.store.isCurrentEntry name then r.closingWith none stop else none
  | .deleteAllEntries stop _ => r.closingWith none stop
  | .container container io => r.containerClosing container false io
  | _ => none

/-! ## What is closed -/

/-- The same capture is open, and the same entry is current. -/
structure Kept (r r' : Recorder) : Prop where
  writer : r'.view.writer = r.view.writer
  current : r'.view.current = r.view.current

omit [Gzip] [SerdeJson] [Chrono] [Toml] [Sidecar] [Build] in
theorem Kept.of_view {r r' : Recorder} (h : r'.view = r.view) : r.Kept r' := by
  constructor <;> rw [h]

omit [Chrono] [Build] in
/-- The space check closes the capture, or keeps it. -/
theorem keepSpace_closing (r : Recorder) (io : ContainerIo) :
    (∃ c, r.spaceClosing io = some c ∧ c.recorder.view = r.view ∧
      r.keepSpace io = .error (c.recorder.stop c.reason c.io)) ∨
    (∃ r', r.keepSpace io = .ok r' ∧ r'.view = r.view) := by
  cases hk : r.keepSpace io with
  | ok r' => exact .inr ⟨r', rfl, (r.keepSpace_view io).2 r' hk⟩
  | error r' =>
    left
    unfold keepSpace at hk
    unfold spaceClosing
    split at hk
    · cases hk
    · next hb =>
      rw [if_neg hb]
      simp only at hk ⊢
      cases hs : (r.withSpaceCheck 0 r.task.lowSpaceWarned).checkSpace io.reading with
      | critical mb =>
        rw [hs] at hk
        cases hk
        exact ⟨_, rfl, rfl, rfl⟩
      | warning mb =>
        -- the recording goes on, whatever pruning frees
        rw [hs] at hk
        simp only at hk
        generalize (if (r.withSpaceCheck 0 r.task.lowSpaceWarned).task.autoDeleteClean = true
          then _ else _ : Nat × Storage) = p at hk
        split at hk
        · cases hk
        · split at hk <;> cases hk
      | ok mb => rw [hs] at hk; cases hk
      | failed => rw [hs] at hk; cases hk

omit [SerdeJson] [Chrono] [Build] in
/-- Where the write of a container stops the recording is where it closes the capture. -/
theorem storeClosing_cases (r : Recorder) (qmdlWriter : QmdlWriter)
    (analysisWriter : AnalysisWriter) (container : MessagesContainer) (io : ContainerIo) :
    ∃ r₁ qw, Stored r qmdlWriter analysisWriter container io r₁ qw ∧
      ((∃ reason, r.storeClosing qmdlWriter analysisWriter container io =
          some ⟨r₁, some reason, io.stop⟩ ∧
        r.storeContainer qmdlWriter analysisWriter container io =
          .error (r₁.stop (some reason) io.stop)) ∨
        (r.storeClosing qmdlWriter analysisWriter container io = none ∧
          ∃ reason, r.storeContainer qmdlWriter analysisWriter container io =
            .ok (r₁, qw, reason))) := by
  unfold storeClosing storeContainer
  cases hw : qmdlWriter.writeContainer container io.write r.storage.device.disk with
  | mk result p =>
    obtain ⟨qw, d⟩ := p
    have hwritten : Stored r qmdlWriter analysisWriter container io _ qw := .written hw
    simp only
    generalize (r.withDisk d).withState (.recording qw analysisWriter) = r₁ at hwritten ⊢
    cases result with
    | error e => exact ⟨r₁, qw, hwritten, .inl ⟨_, rfl, rfl⟩⟩
    | ok u =>
      simp only
      cases qw.size io.size with
      | error e => exact ⟨r₁, qw, hwritten, .inr ⟨rfl, _, rfl⟩⟩
      | ok fileSize =>
        have hsized := hwritten.sized fileSize
        simp only [storage_note]
        generalize r₁.storage.updateCurrentEntryQmdlSize fileSize io.now io.manifest = q at hsized ⊢
        obtain ⟨result, s⟩ := q
        cases result with
        | error e => exact ⟨_, qw, hsized, .inl ⟨_, rfl, rfl⟩⟩
        | ok u => exact ⟨_, qw, hsized, .inr ⟨rfl, _, rfl⟩⟩

omit [Gzip] [SerdeJson] [Chrono] [Toml] [Sidecar] [Build] in
theorem Kept.of_raised {r r' : Recorder} {maxType : EventType}
    (h : r'.view = r.view.raised maxType) : r.Kept r' := by
  rcases r.view.raised_cases maxType with heq | ⟨-, heq⟩
  · exact .of_view (h.trans heq)
  · constructor <;> rw [h, heq] <;> rfl

/-- A container closes the capture, or keeps it. -/
theorem container_closing (r : Recorder) (container : MessagesContainer) (demo : Bool)
    (io : ContainerIo) :
    (∃ c, r.containerClosing container demo io = some c ∧ r.Kept c.recorder ∧
      r.view.writer.isSome) ∨
    (r.containerClosing container demo io = none ∧
      (r.view.writer.isSome → r.Kept (r.processContainerInner container demo io))) := by
  unfold containerClosing
  by_cases hd : container.dataType = .userSpace
  · rw [if_neg (by simpa using hd)]
    cases hs : r.task.state with
    | stopped => exact .inr ⟨rfl, by simp [view, hs, DiagState.writerPath?]⟩
    | recording qw aw =>
      have hw : r.view.writer = some qw.path := by rw [view, hs]; rfl
      simp only
      rcases r.keepSpace_closing io with ⟨c, hc, hv, hk⟩ | ⟨r₁, hk, hv⟩
      · rw [hk]
        exact .inl ⟨c, hc, .of_view hv, by rw [hw]; rfl⟩
      · rw [hk]
        simp only
        obtain ⟨r₂, qw', hstored, ⟨reason, hc, hst⟩ | ⟨-, reason, hst⟩⟩ :=
          r₁.storeClosing_cases qw aw container io
        · rw [hst]
          have hv' := (hstored.view (hv ▸ hw)).trans hv
          exact .inl ⟨_, hc, .of_view hv', by rw [hw]; rfl⟩
        · have hrec := recordContainer_of_stored hs hk hst demo
          have hv' := (hstored.view (hv ▸ hw)).trans hv
          have hpath₂ : r₂.view.writer = some qw'.path := by rw [hv', hw, hstored.path]
          obtain ⟨maxType, hraised⟩ := analyzeContainer_view hpath₂ aw container demo io.analysis
          rw [hv'] at hraised
          rw [hst, rotationOf, if_neg (by simpa using hd), hrec, processContainerInner,
            if_neg (by simpa using hd), hrec]
          cases reason with
          | none => exact .inr ⟨rfl, fun _ => .of_raised hraised⟩
          | some reason => exact .inl ⟨_, rfl, .of_raised hraised, by rw [hw]; rfl⟩
  · rw [if_pos hd, processContainerInner_skips r hd]
    exact .inr ⟨rfl, fun _ => .of_view rfl⟩

omit [Chrono] in
/-- A start closes the capture once there is room, or is refused and keeps it. -/
theorem start_closing (r : Recorder) (io : StartIo) :
    (∃ c, r.startClosing io = some c ∧ r.Kept c.recorder ∧ r.view.writer.isSome) ∨
    (r.startClosing io = none ∧ (r.view.writer.isSome → r.Kept (r.start io).2)) := by
  have hroom : (r.resetCounters.makeRoom io).view = { r.view with severity := .informational } :=
    makeRoom_view ..
  have hrefuse : (r.resetCounters.makeRoom io).spaceRefusal io.space = r.spaceRefusal io.space :=
    spaceRefusal_congr (r := r.resetCounters) (makeRoom_task ..) _
  unfold startClosing
  simp only [hrefuse]
  cases hs : r.spaceRefusal io.space with
  | some e =>
    refine .inr ⟨rfl, fun _ => ?_⟩
    have ho := r.start_outcome io
    generalize hv : (r.start io).2.view = v at ho
    generalize (r.start io).1 = result at ho
    cases ho with
    | refused => constructor <;> rw [hv] <;> rfl
    | unclaimed h => rw [hs] at h; cases h
    | half h => rw [hs] at h; cases h
    | started h => have hspace := h.space; rw [hs] at hspace; cases hspace
  | none =>
    simp only
    cases hc : (r.resetCounters.makeRoom io).closingWith none io.finish with
    | none =>
      have hw := closingWith_eq_none hc
      rw [hroom] at hw
      exact .inr ⟨rfl, fun h => by rw [show r.view.writer = none from hw] at h; cases h⟩
    | some c =>
      obtain ⟨hw, rfl⟩ := closingWith_eq_some hc
      rw [hroom] at hw
      exact .inl ⟨_, rfl, ⟨by rw [hroom], by rw [hroom]⟩, hw⟩

/-- A capture is closed where it was open, with the entry current that was. -/
theorem closing_kept {r : Recorder} {op : RecorderStep} {c : Closing} (h : r.closing op = some c) :
    r.Kept c.recorder ∧ r.view.writer.isSome := by
  have hwith : ∀ {reason io}, r.closingWith reason io = some c →
      r.Kept c.recorder ∧ r.view.writer.isSome := by
    intro reason io h
    obtain ⟨hw, rfl⟩ := closingWith_eq_some h
    exact ⟨.of_view rfl, hw⟩
  have hcontainer : ∀ {container demo io}, r.containerClosing container demo io = some c →
      r.Kept c.recorder ∧ r.view.writer.isSome := by
    intro container demo io h
    rcases r.container_closing container demo io with ⟨c', hc, hkept⟩ | ⟨hc, -⟩
    · rw [h] at hc
      cases hc
      exact hkept
    · rw [h] at hc
      cases hc
  cases op with
  | injectDemo container io =>
    cases container with
    | none => cases h
    | some container => exact hcontainer h
  | stopRecording io =>
    obtain ⟨hw, rfl⟩ := closingWith_eq_some h
    exact ⟨⟨rfl, rfl⟩, hw⟩
  | switchStore path reason io => exact hwith h
  | startRecording io =>
    rcases (r.withStoppedByUser false).start_closing io with ⟨c', hc, hkept, hw⟩ | ⟨hc, -⟩
    · rw [show (r.withStoppedByUser false).startClosing io = some c from h] at hc
      cases hc
      exact ⟨⟨hkept.writer, hkept.current⟩, hw⟩
    · rw [show (r.withStoppedByUser false).startClosing io = some c from h] at hc
      cases hc
  | deleteEntry name stop io =>
    simp only [closing] at h
    split at h
    · exact hwith h
    · cases h
  | deleteAllEntries stop io => exact hwith h
  | gpsUpdate lat lon io => cases h
  | exit => cases h
  | container container io => exact hcontainer h
  | setEntryAnnotations name displayName notes io => cases h
  | markEntryAsUploaded name uploadTime io => cases h
  | files disk => cases h

/-- **A step that does not close the capture keeps it**, and the current entry with it. -/
theorem kept_of_closing_eq_none {r r' : Recorder} {op : RecorderStep} (h : r.closing op = none)
    (hw : r.view.writer.isSome) (hst : r.step op = some r') : r.Kept r' := by
  have hwith : ∀ {reason io}, r.closingWith reason io ≠ none := by
    intro reason io h
    rw [closingWith_eq_none h] at hw
    cases hw
  have hcontainer : ∀ {container demo io}, r.containerClosing container demo io = none →
      r.Kept (r.processContainerInner container demo io) := by
    intro container demo io h
    rcases r.container_closing container demo io with ⟨c, hc, -⟩ | ⟨-, hkept⟩
    · rw [h] at hc
      cases hc
    · exact hkept hw
  cases op with
  | injectDemo container io =>
    cases container with
    | none => cases hst; exact .of_view rfl
    | some container => cases hst; exact hcontainer h
  | stopRecording io =>
    have hnone := closingWith_eq_none h
    rw [view_withStoppedByUser] at hnone
    rw [show r.view.writer = none from hnone] at hw
    cases hw
  | switchStore path reason io => exact absurd h hwith
  | startRecording io =>
    cases hst
    rcases (r.withStoppedByUser false).start_closing io with ⟨c, hc, -⟩ | ⟨-, hkept⟩
    · rw [show (r.withStoppedByUser false).startClosing io = none from h] at hc
      cases hc
    · exact ⟨(hkept hw).writer, (hkept hw).current⟩
  | deleteEntry name stop io =>
    cases hst
    simp only [closing] at h
    split at h
    · exact absurd h hwith
    · next hc => exact .of_view (by rw [deleteEntry_view, if_neg hc])
  | deleteAllEntries stop io => exact absurd h hwith
  | gpsUpdate lat lon io => cases hst; exact .of_view (handleGpsUpdate_view ..)
  | exit => cases hst
  | container container io => cases hst; exact hcontainer h
  | setEntryAnnotations name displayName notes io =>
    cases hst
    exact .of_view (view_withStorage_of_capture (setEntryAnnotations_same ..).capture)
  | markEntryAsUploaded name uploadTime io =>
    cases hst
    exact .of_view (view_withStorage_of_capture (markEntryAsUploaded_same ..).capture)
  | files disk => cases hst; exact .of_view rfl

end Recorder

end Rayhunter
