import Rayhunter.Recorder.Stopped

/-!
# Notes about recordings

The writer is in the task, the index of the current entry in the store, and what the task notes about
a recording (sizes, stop reasons, positions, that it is finished) is put down to the entry the index
stands at. In every run of the recorder the two are in step: while something is written to, the
current entry is the one it belongs to, and every note that is about a capture is put down to the
recording of that capture (`writer_and_entry_in_step`).
-/

namespace Rayhunter

open Storage Runs

/-- The current entry is the one whose capture is written to. -/
def View.Paired (v : View) : Prop := ∀ w, v.writer = some w → v.current = some (some w)

theorem View.paired_closed (v : View) : v.closed.Paired := nofun

namespace Recorder

variable [Decoders] [Detectors] [Gzip] [SerdeJson] [Chrono] [Toml] [Sidecar] [Build]

/-! ## The current entry -/

omit [Chrono] in
theorem StartOutcome.paired {r : Recorder} {io : StartIo} {res : Except RecordingStoreError Unit}
    {v : View} (h : StartOutcome r io res v) (hr : r.view.Paired) : v.Paired := by
  cases h with
  | refused => exact hr
  | unclaimed => exact nofun
  | half => exact nofun
  | started => exact fun w hw => congrArg some hw

/-- Every step keeps the writer and the current entry in step. -/
theorem paired_step {r r' : Recorder} {op : RecorderStep} (h : r.view.Paired)
    (hst : r.step op = some r') : r'.view.Paired := by
  have ho := step_outcome hst
  generalize r'.view = v at ho ⊢
  cases ho with
  | quiet => exact h
  | halted => exact nofun
  | userStopped => exact nofun
  | raised _ maxType =>
    rcases r.view.raised_cases maxType with heq | ⟨-, heq⟩
    · rw [heq]; exact h
    · rw [heq]; exact h
  | released => exact nofun
  | userStarted io _ ho => exact ho.paired h
  | resumed _ _ _ r₁ _ _ hrel _ ho =>
    refine ho.paired fun w hw => ?_
    rw [hrel.writer] at hw
    cases hw
  | rotated _ _ _ _ _ p => exact fun w hw => congrArg some hw
  | unrotated => exact nofun

/-! ## What is noted -/

/-- Every note that is about a capture is put down to the recording of that capture. -/
def Faithful (r : Recorder) : Prop :=
  ∀ a ∈ r.attributed, ∀ w, a.writer = some w → a.recording = w

section
omit [Gzip] [SerdeJson] [Chrono] [Toml] [Sidecar] [Build]

theorem Faithful.withDisk {r : Recorder} (h : r.Faithful) (d : Disk) : (r.withDisk d).Faithful := h

theorem Faithful.withStorage {r : Recorder} (h : r.Faithful) (s : Storage) :
    (r.withStorage s).Faithful := h

/-- A note about the capture of the current entry. -/
theorem Faithful.note {r : Recorder} (h : r.Faithful) {writer : Option FilePath}
    (hw : ∀ w, writer = some w → r.view.current = some (some w)) (kind : NoteKind) :
    (r.note kind writer).Faithful := by
  unfold Recorder.note
  split
  · exact h
  · next i entry hget =>
    intro a ha w haw
    rcases List.mem_cons.1 ha with rfl | ha
    · have hcap : r.view.current = some (some (entry.getFilepath .qmdl r.storage.store.path)) :=
        RecordingStore.capture_of_getCurrentEntry hget
      have hcur := hw w haw
      rw [hcap] at hcur
      exact Option.some.inj (Option.some.inj hcur)
    · exact h a ha w haw

theorem Faithful.queueAnalysis {r : Recorder} (h : r.Faithful) {writer : Option FilePath}
    (hw : ∀ w, writer = some w → r.view.current = some (some w)) :
    (r.queueAnalysis writer).Faithful := by
  unfold Recorder.queueAnalysis
  split
  · exact h
  · exact h.note hw _

theorem Faithful.writeFixedPosition {r : Recorder} (h : r.Faithful) {writer : FilePath}
    (hw : r.view.current = some (some writer)) (io : GpsIo) :
    (r.writeFixedPosition writer io).2.Faithful := by
  unfold Recorder.writeFixedPosition
  split
  · simp only
    split
    · exact h
    · exact h
    · have hnote : ∀ d, ((r.withDisk d).note .gps (some writer)).Faithful := fun d =>
        (h.withDisk d).note (fun w hsome => by cases hsome; exact hw) .gps
      split <;> exact hnote _
  · exact h

theorem Faithful.handleGpsUpdate {r : Recorder} (h : r.Faithful) (hp : r.view.Paired)
    (lat lon : Coordinate) (io : GpsIo) : (r.handleGpsUpdate lat lon io).Faithful := by
  unfold Recorder.handleGpsUpdate
  split
  · exact h
  · have hnote : ∀ d, ((r.withDisk d).note .gps r.task.state.writerPath?).Faithful := fun d =>
      (h.withDisk d).note hp .gps
    simp only
    split
    · exact h
    · exact h
    · exact hnote _

end

/-! ## Notes of the functions -/

section
omit [SerdeJson] [Chrono] [Build]

theorem Faithful.finishCurrentEntry {r : Recorder} (h : r.Faithful) (hp : r.view.Paired)
    (reason : Option String) (io : FinishIo) : (r.finishCurrentEntry reason io).Faithful := by
  have hstop : (r.stopCurrentRecording io.close).Faithful := by
    unfold Recorder.stopCurrentRecording
    cases hs : r.task.state with
    | stopped => exact h
    | recording qmdlWriter analysisWriter =>
      have hw : r.view.writer = some qmdlWriter.path := by rw [view, hs]; rfl
      simp only
      split
      · exact h
      · have hstopped : (r.withState .stopped).Faithful := h
        exact (hstopped.withDisk _).note (fun w hsome => by cases hsome; exact hp _ hw) .size
  -- the notes that follow are about the writer that has just been closed
  have hcur : ∀ w, r.view.writer = some w →
      (r.stopCurrentRecording io.close).view.current = some (some w) := by
    intro w hw
    rw [stopCurrentRecording_view]
    exact hp w hw
  have hreason : (((r.stopCurrentRecording io.close).withStartedAt none).noteStopReason reason
      r.task.state.writerPath? io.reason).Faithful := by
    unfold Recorder.noteStopReason
    cases reason with
    | none => exact hstop
    | some reason =>
      exact Faithful.note (r := (r.stopCurrentRecording io.close).withStartedAt none) hstop hcur _
  refine Faithful.queueAnalysis hreason fun w hw => ?_
  rw [noteStopReason_view]
  exact hcur w hw

theorem Faithful.stop {r : Recorder} (h : r.Faithful) (hp : r.view.Paired)
    (reason : Option String) (io : FinishIo) : (r.stop reason io).Faithful :=
  h.finishCurrentEntry hp reason io

end

section
omit [Chrono]

omit [Gzip] [Toml] [Sidecar] in
/-- The position is noted on the entry whose capture has just been created. -/
theorem Faithful.openWriters {r : Recorder} (h : r.Faithful) {entry : ManifestEntry}
    (hc : r.view.current = some (some (entry.getFilepath .qmdl r.storage.store.path)))
    (io : StartIo) : (r.openWriters entry io).2.Faithful := by
  have hgps := h.writeFixedPosition hc io.gps
  simp only [Recorder.openWriters]
  generalize r.writeFixedPosition _ io.gps = q at hgps ⊢
  obtain ⟨result, r₁⟩ := q
  cases result with
  | error e => exact hgps
  | ok u =>
    have hsave : (r₁.saveSidecar io.sidecar).Faithful := by
      unfold saveSidecar
      split <;> exact hgps
    simp only
    split <;> exact hsave

theorem Faithful.start {r : Recorder} (h : r.Faithful) (hp : r.view.Paired) (io : StartIo) :
    (r.start io).2.Faithful := by
  have hroom : (r.resetCounters.makeRoom io).Faithful := by
    unfold Recorder.makeRoom
    split <;> exact h
  have hready : (r.ready io).Faithful := by
    unfold ready finishRunning
    split
    · refine hroom.finishCurrentEntry (fun w hw => ?_) _ _
      rw [makeRoom_view] at hw ⊢
      exact hp w hw
    · exact hroom
  have hinner : (r.startInner io).2.Faithful := by
    unfold startInner
    simp only
    split
    · exact hroom
    · rw [show (r.resetCounters.makeRoom io).finishRunning io.finish = r.ready io from rfl]
      have hnew := (r.ready io).storage.newEntry_capture (r.ready io).task.gpsMode io.entry
      generalize (r.ready io).storage.newEntry _ io.entry = q at hnew ⊢
      obtain ⟨result, s⟩ := q
      cases result with
      | error e => exact hready
      | ok entry =>
        rcases hnew with ⟨-, ⟨e, he⟩, -⟩ | ⟨-, entry', hcap, hok, herr⟩
        · cases he
        · obtain rfl : entry = entry' := by
            by_cases hf : io.entry.manifest.fault = none
            · exact Except.ok.inj (hok hf)
            · obtain ⟨e, he⟩ := herr hf
              cases he
          exact (hready.withStorage s).openWriters hcap io
  unfold Recorder.start
  generalize r.startInner io = q at hinner ⊢
  obtain ⟨result, r₁⟩ := q
  cases result <;> exact hinner

theorem Faithful.rotate {r : Recorder} (h : r.Faithful) (hp : r.view.Paired) (reason : String)
    (io : RotateIo) : (r.rotate reason io).Faithful := by
  have hfin := h.finishCurrentEntry hp (some reason) io.finish
  have hclosed : (r.finishCurrentEntry (some reason) io.finish).view.Paired := by
    rw [finishCurrentEntry_view]
    exact View.paired_closed _
  have hstart := hfin.start hclosed io.start
  have hpaired := ((r.finishCurrentEntry (some reason) io.finish).start_outcome io.start).paired
    hclosed
  unfold Recorder.rotate
  generalize (r.finishCurrentEntry (some reason) io.finish).start io.start = q at hstart hpaired ⊢
  obtain ⟨result, r₁⟩ := q
  cases result with
  | error e => exact Faithful.stop (r := r₁.notify _) hstart hpaired _ _
  | ok u =>
    simp only
    split <;> exact hstart

end

theorem Faithful.switchStore {r : Recorder} (h : r.Faithful) (hp : r.view.Paired) (path : PathBuf)
    (reason : String) (io : SwitchIo) : (r.switchStore path reason io).2.Faithful := by
  have hclosed : ∀ why, (r.finishCurrentEntry why io.finish).view.Paired := by
    intro why
    rw [finishCurrentEntry_view]
    exact View.paired_closed _
  have hfin := fun why => h.finishCurrentEntry hp why io.finish
  unfold Recorder.switchStore
  cases hrec : r.task.state.isRecording with
  | true =>
    simp only [if_true, Bool.true_or]
    split
    · exact (hfin _).start (hclosed _) _
    · generalize hf : r.finishCurrentEntry (some s!"storage changed: {reason}") io.finish = r₁
      have hr₁ : r₁.Faithful := hf ▸ hfin _
      have hw : r₁.view.writer = none := by rw [← hf, finishCurrentEntry_view]; rfl
      -- a store that is put in place changes neither the notes nor the writer
      have hmoved : ∀ s : Storage, ((r₁.withStorage s).start io.start).2.Faithful := fun s =>
        Faithful.start (r := r₁.withStorage s) hr₁
          (fun w hw' => by rw [view_withStorage, hw] at hw'; cases hw') io.start
      split <;> exact hmoved _
  | false =>
    have hw : r.view.writer = none := by
      rw [isRecording_eq] at hrec
      simpa using hrec
    have hmoved : ∀ s : Storage, ((r.withStorage s).start io.start).2.Faithful := fun s =>
      Faithful.start (r := r.withStorage s) h
        (fun w hw' => by rw [view_withStorage, hw] at hw'; cases hw') io.start
    simp only [Bool.false_eq_true, if_false, Bool.false_or]
    split
    · split
      · exact h.start hp _
      · exact h
    · split
      · exact h
      · split
        · exact hmoved _
        · exact h

/-! ## Notes of a container -/

section
omit [Chrono] [Build]

theorem Faithful.keepSpace {r : Recorder} (h : r.Faithful) (hp : r.view.Paired)
    (io : ContainerIo) :
    (∀ r', r.keepSpace io = .error r' → r'.Faithful) ∧
      ∀ r', r.keepSpace io = .ok r' → r'.Faithful := by
  unfold Recorder.keepSpace
  split
  · exact ⟨fun _ h => (nomatch h), fun r' heq => by cases heq; exact h⟩
  · have hv : (r.withSpaceCheck 0 r.task.lowSpaceWarned).view.Paired := hp
    have hf : (r.withSpaceCheck 0 r.task.lowSpaceWarned).Faithful := h
    generalize r.withSpaceCheck 0 r.task.lowSpaceWarned = r₁ at hv hf ⊢
    simp only
    split
    · refine ⟨fun r' heq => ?_, fun _ h => (nomatch h)⟩
      have hnotify : ∀ n, (r₁.notify n).Faithful := fun _ => hf
      cases heq
      exact (hnotify _).stop hv _ _
    · generalize (if r₁.task.autoDeleteClean = true then pruneCleanRecordings r₁.storage
        r₁.task.minSpaceToStartMb r₁.task.uploadsConfigured io.prune else (0, r₁.storage)) = p
      refine ⟨fun r' heq => ?_, fun r' heq => ?_⟩
      · split at heq
        · cases heq
        · split at heq <;> cases heq
      · split at heq
        · cases heq; exact hf
        · split at heq <;> cases heq <;> exact hf
    · exact ⟨fun _ h => (nomatch h), fun r' heq => by cases heq; exact hf⟩
    · exact ⟨fun _ h => (nomatch h), fun r' heq => by cases heq; exact hf⟩

omit [SerdeJson] [Sidecar] in
/-- The size is noted on the recording the writer is for. -/
theorem Faithful.stored {r r₁ : Recorder} (h : r.Faithful) (hp : r.view.Paired)
    {qmdlWriter qw : QmdlWriter} (hw : r.view.writer = some qmdlWriter.path)
    {analysisWriter : AnalysisWriter} {container : MessagesContainer} {io : ContainerIo}
    (hstored : Stored r qmdlWriter analysisWriter container io r₁ qw) : r₁.Faithful := by
  induction hstored with
  | written hwrite => exact h
  | sized fileSize hprev ih =>
    refine Faithful.withStorage (ih.note (fun w hsome => ?_) .size) _
    cases hsome
    rw [hprev.view hw, hprev.path]
    exact hp _ hw

omit [SerdeJson] in
theorem Faithful.storeContainer {r : Recorder} (h : r.Faithful) (hp : r.view.Paired)
    {qmdlWriter : QmdlWriter} (hw : r.view.writer = some qmdlWriter.path)
    (analysisWriter : AnalysisWriter) (container : MessagesContainer) (io : ContainerIo) :
    (∀ r', r.storeContainer qmdlWriter analysisWriter container io = .error r' → r'.Faithful) ∧
    ∀ p, r.storeContainer qmdlWriter analysisWriter container io = .ok p → p.1.Faithful := by
  obtain ⟨r₁, qw, hstored, ⟨reason, heq⟩ | ⟨reason, heq⟩⟩ :=
    r.storeContainer_cases qmdlWriter analysisWriter container io
  · refine ⟨fun r' hk => ?_, fun p hk => ?_⟩
    · cases heq.symm.trans hk
      exact (h.stored hp hw hstored).stop (by rw [hstored.view hw]; exact hp) _ _
    · cases heq.symm.trans hk
  · refine ⟨fun r' hk => ?_, fun p hk => ?_⟩
    · cases heq.symm.trans hk
    · cases heq.symm.trans hk
      exact h.stored hp hw hstored

end

omit [Gzip] [Toml] [Sidecar] [Build] in
/-- The analysis notes nothing. -/
theorem Faithful.analyzeContainer {r : Recorder} (h : r.Faithful) (qmdlWriter : QmdlWriter)
    (analysisWriter : AnalysisWriter) (container : MessagesContainer) (demo : Bool)
    (faults : Nat → WriteFault) :
    (r.analyzeContainer qmdlWriter analysisWriter container demo faults).Faithful := by
  have hannounce : ∀ (r : Recorder) (maxType : EventType), r.Faithful →
      (r.announce maxType).Faithful := by
    intro r maxType h
    have hnote : (if EventType.informational < maxType then r.notify (detectionNotice maxType)
        else r).Faithful := by
      split <;> exact h
    unfold announce
    generalize (if EventType.informational < maxType then r.notify (detectionNotice maxType)
      else r) = r₁ at hnote ⊢
    simp only
    split
    · split <;> exact hnote
    · exact hnote
  unfold Recorder.analyzeContainer
  simp only
  generalize analysisWriter.analyzeContainerInner container _ faults _ = p
  obtain ⟨analysis, aw, d⟩ := p
  cases analysis <;> exact hannounce _ _ h

omit [Build] in
theorem Faithful.recordContainer {r : Recorder} (h : r.Faithful) (hp : r.view.Paired)
    (container : MessagesContainer) (demo : Bool) (io : ContainerIo) :
    (r.recordContainer container demo io).1.Faithful := by
  unfold Recorder.recordContainer
  cases hs : r.task.state with
  | stopped => exact h
  | recording qmdlWriter analysisWriter =>
    have hw : r.view.writer = some qmdlWriter.path := by rw [view, hs]; rfl
    obtain ⟨herr, hok⟩ := h.keepSpace hp io
    obtain ⟨-, hview⟩ := r.keepSpace_view io
    simp only
    cases hk : r.keepSpace io with
    | error r' => exact herr r' hk
    | ok r₁ =>
      have hv₁ := hview r₁ hk
      obtain ⟨herr', hok'⟩ := (hok r₁ hk).storeContainer (by rw [hv₁]; exact hp)
        (by rw [hv₁]; exact hw) analysisWriter container io
      simp only
      cases hst : r₁.storeContainer qmdlWriter analysisWriter container io with
      | error r' => exact herr' r' hst
      | ok p => exact (hok' p hst).analyzeContainer _ _ _ _ _

theorem Faithful.processContainerInner {r : Recorder} (h : r.Faithful) (hp : r.view.Paired)
    (container : MessagesContainer) (demo : Bool) (io : ContainerIo) :
    (r.processContainerInner container demo io).Faithful := by
  have hrec := h.recordContainer hp container demo io
  have hpaired : (r.recordContainer container demo io).1.view.Paired := by
    have ho := r.recordContainer_outcome container demo io
    generalize (r.recordContainer container demo io).1.view = v at ho ⊢
    generalize (r.recordContainer container demo io).2.isSome = rotates at ho
    cases ho with
    | idle => exact hp
    | halted => exact nofun
    | analysed _ maxType =>
      rcases r.view.raised_cases maxType with heq | ⟨-, heq⟩
      · rw [heq]; exact hp
      · rw [heq]; exact hp
  rcases r.processContainerInner_cases container demo io with heq | ⟨-, heq⟩ | ⟨reason, -, heq⟩
  · rw [heq]; exact h
  · rw [heq]; exact hrec
  · rw [heq]; exact hrec.rotate hpaired reason io.rotate

/-! ## Every run -/

/-- Every step puts its notes down to the right recording. -/
theorem faithful_step {r r' : Recorder} {op : RecorderStep} (h : r.Faithful) (hp : r.view.Paired)
    (hst : r.step op = some r') : r'.Faithful := by
  cases op with
  | injectDemo container io =>
    cases container with
    | none => cases hst; exact h
    | some container => cases hst; exact h.processContainerInner hp _ _ _
  | stopRecording io =>
    cases hst
    exact Faithful.stop (r := r.withStoppedByUser true) h hp _ _
  | switchStore path reason io => cases hst; exact h.switchStore hp _ _ _
  | startRecording io =>
    cases hst
    exact Faithful.start (r := r.withStoppedByUser false) h hp _
  | deleteEntry name stop io =>
    cases hst
    unfold Recorder.deleteEntry
    split
    · exact h.stop hp _ _
    · exact h
  | deleteAllEntries stop io => cases hst; exact h.stop hp _ _
  | gpsUpdate lat lon io => cases hst; exact h.handleGpsUpdate hp _ _ _
  | exit => cases hst
  | container container io => cases hst; exact h.processContainerInner hp _ _ _
  | setEntryAnnotations name displayName notes io => cases hst; exact h
  | markEntryAsUploaded name uploadTime io => cases hst; exact h
  | files disk => cases hst; exact h

/-- **The writer and the current entry are in step** in every run of the recorder. While it records,
the current entry is the one whose capture is written to, and no note about a capture is put down to
the recording of another. -/
theorem writer_and_entry_in_step {config : RecorderConfig} {r : Recorder}
    (h : Reach (Fresh config) Recorder.step (fun _ _ => True) r) :
    (∀ qmdlWriter analysisWriter, r.task.state = .recording qmdlWriter analysisWriter →
      ∃ i e, r.storage.store.currentEntry = some i ∧ r.storage.store.manifest.entries[i]? = some e ∧
        qmdlWriter.path = e.getFilepath .qmdl r.storage.store.path) ∧
    ∀ a ∈ r.attributed, ∀ w, a.writer = some w → a.recording = w := by
  have hpaired : ∀ s, Reach (Fresh config) Recorder.step (fun _ _ => True) s → s.view.Paired := by
    intro s hs
    refine hs.invariant (fun s hs w hw => ?_) fun s op s' hi _ hst => paired_step hi hst
    have hstopped : s.view.writer = none := by
      rw [view, hs.task]
      rfl
    rw [hstopped] at hw
    cases hw
  have hfaithful : r.Faithful := by
    refine h.invariant_with hpaired (fun s hs a ha => ?_)
      fun s op s' hp hi _ hst => faithful_step hi hp hst
    rw [hs.attributed] at ha
    cases ha
  refine ⟨fun qmdlWriter analysisWriter hs => ?_, hfaithful⟩
  exact RecordingStore.capture_eq_some.1 (hpaired r h qmdlWriter.path (by rw [view, hs]; rfl))

omit [Decoders] [Detectors] [Gzip] [SerdeJson] [Chrono] [Toml] [Sidecar] [Build] in
/-- A recording with a container in it. -/
theorem writer_and_entry_in_step_recorded :
    let _ := nasDecoders
    let _ := nullCipherDetectors
    let _ := storedGzip
    let _ := jsonText
    let _ := sidecarJson
    let _ := oneInstant
    let _ := deviceBuild
    let _ := tomlAt "2024-08-19T03:33:54+00:00"
    ∃ r : Recorder, r.task.state.isRecording = true ∧ r.attributed.length = 1 ∧
      (∀ qmdlWriter analysisWriter, r.task.state = .recording qmdlWriter analysisWriter →
        ∃ i e, r.storage.store.currentEntry = some i ∧
          r.storage.store.manifest.entries[i]? = some e ∧
          qmdlWriter.path = e.getFilepath .qmdl r.storage.store.path) ∧
      ∀ a ∈ r.attributed, ∀ w, a.writer = some w → a.recording = w := by
  let _ := nasDecoders
  let _ := nullCipherDetectors
  let _ := storedGzip
  let _ := jsonText
  let _ := sidecarJson
  let _ := oneInstant
  let _ := deviceBuild
  let _ := tomlAt "2024-08-19T03:33:54+00:00"
  intro _ _ _ _ _ _ _ _
  have hrun : Reach (Fresh defaultConfig) Recorder.step (fun _ _ => True) _ :=
    .step (.step (.init blankRecorder_fresh) (i := .startRecording (startAt anInstant)) trivial rfl)
      (i := .container (containerOf [nullCipherFrame]) (containerAt anInstant)) trivial rfl
  exact ⟨_, by decide +kernel, by decide +kernel, writer_and_entry_in_step hrun⟩

end Recorder

end Rayhunter
