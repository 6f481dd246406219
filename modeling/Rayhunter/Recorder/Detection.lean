import Rayhunter.Cleanup.Classify
import Rayhunter.Recorder.Spec

/-!
# Detections and a failing disk

A container's rows are analysed before the first of them is written, but their severity is collected
while they are: a row that cannot be written ends the loop, and the recorder takes what it then gets
for nothing found. So a detection is announced exactly where every row of its container can be
written (`detection_announced_iff`).
-/

namespace Rayhunter

open Storage

namespace Recorder

variable [Decoders] [Detectors] [SerdeJson] [Chrono]

/-- A detection has been announced: its notice is the one message sent, and the severity is at least
that of the row. -/
structure Announced (r r' : Recorder) (row : AnalysisRow) : Prop where
  notice : ∃ maxType, row.getMaxEventType ≤ maxType ∧
    r'.notifications = detectionNotice maxType :: r.notifications
  severity : row.getMaxEventType ≤ r'.task.maxTypeSeen

omit [SerdeJson] [Chrono] in
/-- What follows from a severity: nothing from Informational, else a notice and a highest severity
that is at least as high. -/
theorem announce_cases (r : Recorder) (maxType : EventType) :
    (maxType = .informational ∧ r.announce maxType = r) ∨
    (EventType.informational < maxType ∧
      (r.announce maxType).notifications = detectionNotice maxType :: r.notifications ∧
      maxType ≤ (r.announce maxType).task.maxTypeSeen) := by
  by_cases hpos : EventType.informational < maxType
  · refine .inr ⟨hpos, ?_⟩
    unfold announce
    simp only [if_pos hpos]
    split
    · exact ⟨rfl, le_refl _⟩
    · next h => exact ⟨rfl, not_lt.1 h⟩
  · have hinfo : maxType = .informational := by
      rw [EventType.informational_lt, not_not] at hpos
      exact hpos
    have hle : ¬ r.task.maxTypeSeen < maxType := by
      rw [hinfo]
      exact not_lt.2 (EventType.informational_le _)
    refine .inl ⟨hinfo, ?_⟩
    unfold announce
    simp only [if_neg hpos, if_neg hle]

/-- The analysis announces the highest severity where every row is written, and nothing
elsewhere. -/
theorem analyzeContainer_eq_announce (r : Recorder) (qw : QmdlWriter) (aw : AnalysisWriter)
    (container : MessagesContainer) (demo : Bool) (faults : Nat → WriteFault) :
    let rows := (aw.harness.analyzeQmdlMessages container).1
    ∃ r₁ : Recorder, r₁.notifications = r.notifications ∧
      (WritesSucceed rows faults → r.analyzeContainer qw aw container demo faults =
        r₁.announce (maxSeverity .informational rows)) ∧
      (¬ WritesSucceed rows faults → r.analyzeContainer qw aw container demo faults = r₁) := by
  intro rows
  have hres := aw.analyzeContainerInner_result container (if demo then some DEMO_PREFIX else none)
    faults (r.countContainer container).storage.device.disk
  unfold analyzeContainer
  simp only
  generalize aw.analyzeContainerInner container _ faults _ = p at hres ⊢
  obtain ⟨analysis, aw', d⟩ := p
  refine ⟨((r.countContainer container).withDisk d).withState (.recording qw aw'), rfl, fun h => ?_,
    fun h => ?_⟩
  · obtain rfl : analysis = _ := hres.1 h
    rfl
  · obtain ⟨e, he⟩ := hres.2 h
    obtain rfl : analysis = .error e := he
    rcases announce_cases (((r.countContainer container).withDisk d).withState (.recording qw aw'))
      .informational with ⟨-, heq⟩ | ⟨hlt, -⟩
    · exact heq
    · exact absurd hlt (lt_irrefl _)

/-- **A detection is announced exactly where the disk takes every row of its container.** -/
theorem detection_announced_iff (r : Recorder) (qmdlWriter : QmdlWriter)
    (analysisWriter : AnalysisWriter) (container : MessagesContainer) (demo : Bool)
    (faults : Nat → WriteFault) :
    (∀ row ∈ (analysisWriter.harness.analyzeQmdlMessages container).1,
      row.containsWarnings = true → Announced r
        (r.analyzeContainer qmdlWriter analysisWriter container demo faults) row) ↔
    (∀ row ∈ (analysisWriter.harness.analyzeQmdlMessages container).1,
      row.containsWarnings = false) ∨
    WritesSucceed (analysisWriter.harness.analyzeQmdlMessages container).1 faults := by
  obtain ⟨r₁, hnotes, hok, hfail⟩ :=
    r.analyzeContainer_eq_announce qmdlWriter analysisWriter container demo faults
  generalize (analysisWriter.harness.analyzeQmdlMessages container).1 = rows at hok hfail ⊢
  by_cases hw : WritesSucceed rows faults
  · refine ⟨fun _ => .inr hw, fun _ row hrow hwarn => ?_⟩
    have hle := (le_maxSeverity .informational rows).2 row hrow
    have hpos : EventType.informational < row.getMaxEventType := by
      rw [EventType.informational_lt]
      simpa [AnalysisRow.containsWarnings] using hwarn
    rw [hok hw]
    rcases r₁.announce_cases (maxSeverity .informational rows) with ⟨hinfo, -⟩ | ⟨-, hsent, hmax⟩
    · rw [hinfo] at hle
      exact absurd (hpos.trans_le hle) (lt_irrefl _)
    · exact ⟨⟨_, hle, by rw [hsent, hnotes]⟩, hle.trans hmax⟩
  · rw [hfail hw]
    constructor
    · intro h
      refine .inl fun row hrow => ?_
      by_contra hwarn
      obtain ⟨maxType, -, hsent⟩ := (h row hrow (by simpa using hwarn)).notice
      rw [hnotes] at hsent
      exact absurd (congrArg List.length hsent) (by simp)
    · rintro (h | h) row hrow hwarn
      · rw [h row hrow] at hwarn
        cases hwarn
      · exact absurd h hw

omit [Decoders] [Detectors] [SerdeJson] [Chrono] in
/-- The row of a detection that cannot be written takes the detection with it. -/
theorem detection_swallowed :
    let _ := nasDecoders
    let _ := nullCipherDetectors
    let _ := jsonText
    let _ := oneInstant
    ¬ ∀ (r : Recorder) (qmdlWriter : QmdlWriter) (analysisWriter : AnalysisWriter)
      (container : MessagesContainer) (demo : Bool) (faults : Nat → WriteFault),
      ∀ row ∈ (analysisWriter.harness.analyzeQmdlMessages container).1,
        row.containsWarnings = true → Announced r
          (r.analyzeContainer qmdlWriter analysisWriter container demo faults) row := by
  let _ := nasDecoders
  let _ := nullCipherDetectors
  let _ := jsonText
  let _ := oneInstant
  intro _ _ _ _ h
  let path : FilePath := ⟨defaultStorePath, "1724038434-0.ndjson"⟩
  let writer : AnalysisWriter := ⟨path, Harness.newWithConfig nullCipherConfig ⟨[]⟩⟩
  have hany : (writer.harness.analyzeQmdlMessages (containerOf [nullCipherFrame])).1.any
      (·.containsWarnings) = true := by
    decide +kernel
  obtain ⟨row, hrow, hwarn⟩ := List.any_eq_true.1 hany
  have hannounced := h blankRecorder (.new path) writer (containerOf [nullCipherFrame]) false
    (fun _ => some (noSpaceLeft, 0)) row hrow hwarn
  obtain ⟨maxType, -, hsent⟩ := hannounced.notice
  have hnone : (blankRecorder.analyzeContainer (.new path) writer (containerOf [nullCipherFrame])
      false (fun _ => some (noSpaceLeft, 0))).notifications =
        [] := by
    decide +kernel
  rw [hnone] at hsent
  cases hsent

end Recorder

end Rayhunter
