import Rayhunter.Analysis.Harness
import Rayhunter.Store.Disk

/-!
# The analysis writer

`AnalysisWriter` of `daemon/src/analysis.rs`: a harness and the report its rows go to, one JSON
value a line. A row is written and flushed before the next is looked at, and a write that fails ends
the analysis of its container.
-/

namespace Rayhunter

/-! ## Rows on their way to a report -/

/-- An event of a demonstration. -/
def labelEvent (label : String) (e : Event) : Event := { e with message := label ++ e.message }

/-- A row of a demonstration: its events are labelled (`analysis.rs:86`). -/
def labelRow (label : Option String) (row : AnalysisRow) : AnalysisRow :=
  match label with
  | none => row
  | some label => { row with events := row.events.map fun e => e.map (labelEvent label) }

/-- The highest severity of some rows, at least `maxType`. -/
def maxSeverity (maxType : EventType) (rows : List AnalysisRow) : EventType :=
  rows.foldl (fun t row => max t row.getMaxEventType) maxType

/-- Labels leave the severities of a row alone. -/
@[simp] theorem labelRow_severities (label : Option String) (row : AnalysisRow) :
    (labelRow label row).severities = row.severities := by
  cases label with
  | none => rfl
  | some label =>
    simp only [labelRow, AnalysisRow.severities]
    induction row.events with
    | nil => rfl
    | cons e es ih => cases e <;> simp_all [labelEvent]

@[simp] theorem labelRow_getMaxEventType (label : Option String) (row : AnalysisRow) :
    (labelRow label row).getMaxEventType = row.getMaxEventType := by
  simp [AnalysisRow.getMaxEventType]

@[simp] theorem labelRow_isEmpty (label : Option String) (row : AnalysisRow) :
    (labelRow label row).isEmpty = row.isEmpty := by
  have hw : (labelRow label row).containsWarnings = row.containsWarnings := by
    simp [AnalysisRow.containsWarnings]
  unfold AnalysisRow.isEmpty
  rw [hw]
  cases label <;> rfl

@[simp] theorem maxSeverity_map_labelRow (label : Option String) (maxType : EventType)
    (rows : List AnalysisRow) :
    maxSeverity maxType (rows.map (labelRow label)) = maxSeverity maxType rows := by
  simp [maxSeverity, List.foldl_map]

/-- The highest severity is at least what it started from and at least every row's. -/
theorem le_maxSeverity (maxType : EventType) (rows : List AnalysisRow) :
    maxType ≤ maxSeverity maxType rows ∧
      ∀ row ∈ rows, row.getMaxEventType ≤ maxSeverity maxType rows := by
  induction rows generalizing maxType with
  | nil => exact ⟨le_refl _, by simp⟩
  | cons row rows ih =>
    obtain ⟨h₁, h₂⟩ := ih (max maxType row.getMaxEventType)
    refine ⟨(le_max_left _ _).trans h₁, fun r hr => ?_⟩
    rcases List.mem_cons.1 hr with rfl | hr
    · exact (le_max_right _ _).trans h₁
    · exact h₂ r hr

/-- The highest severity is that of a row, or the one it started from. -/
theorem maxSeverity_mem (maxType : EventType) (rows : List AnalysisRow) :
    maxSeverity maxType rows = maxType ∨
      ∃ row ∈ rows, maxSeverity maxType rows = row.getMaxEventType := by
  induction rows generalizing maxType with
  | nil => exact .inl rfl
  | cons row rows ih =>
    rcases ih (max maxType row.getMaxEventType) with h | ⟨r, hr, h⟩
    · rcases max_choice maxType row.getMaxEventType with hm | hm
      · exact .inl (h.trans hm)
      · exact .inr ⟨row, by simp, h.trans hm⟩
    · exact .inr ⟨r, by simp [hr], h⟩

/-- Every row that is written is written without a fault. -/
def WritesSucceed (rows : List AnalysisRow) (faults : Nat → WriteFault) : Prop :=
  ∀ k row, rows[k]? = some row → row.isEmpty = false → faults k = none

theorem writesSucceed_cons {row : AnalysisRow} {rows : List AnalysisRow}
    {faults : Nat → WriteFault} : WritesSucceed (row :: rows) faults ↔
      (row.isEmpty = false → faults 0 = none) ∧ WritesSucceed rows fun k => faults (k + 1) := by
  constructor
  · exact fun h => ⟨h 0 row rfl, fun k r hr => h (k + 1) r hr⟩
  · rintro ⟨h₀, h⟩ k r hr
    cases k with
    | zero => cases hr; exact h₀
    | succ k => exact h k r hr

theorem writesSucceed_map_labelRow {label : Option String} {rows : List AnalysisRow}
    {faults : Nat → WriteFault} :
    WritesSucceed (rows.map (labelRow label)) faults ↔ WritesSucceed rows faults := by
  induction rows generalizing faults with
  | nil => simp [WritesSucceed]
  | cons row rows ih => simp [writesSucceed_cons, ih]

/-! ## Writing lines -/

section
variable [SerdeJson] [Chrono]

/-- `AnalysisWriter::write` (`analysis.rs:110`). -/
def writeLine (d : Disk) (path : FilePath) (value : Json) (fault : WriteFault) : Disk :=
  d.writeText path (SerdeJson.toString value ++ "\n") fault

/-- The loop of `analyze_container_inner` (`analysis.rs:85`) over the rows that remain; `faults k` is
for the write of the row at `k`, if it is written. -/
def writeRows (path : FilePath) :
    List AnalysisRow → (Nat → WriteFault) → EventType → Disk → Except IoError EventType × Disk
  | [], _, maxType, d => (.ok maxType, d)
  | row :: rows, faults, maxType, d =>
    if row.isEmpty then
      writeRows path rows (fun k => faults (k + 1)) (max maxType row.getMaxEventType) d
    else
      match faults 0 with
      | some (e, n) => (.error e, writeLine d path row.toJson (some (e, n)))
      | none =>
        writeRows path rows (fun k => faults (k + 1)) (max maxType row.getMaxEventType)
          (writeLine d path row.toJson none)

/-- The loop returns the highest severity of the rows exactly where every write succeeds, and an
error anywhere else. -/
theorem writeRows_result (path : FilePath) (rows : List AnalysisRow) (faults : Nat → WriteFault)
    (maxType : EventType) (d : Disk) :
    (WritesSucceed rows faults →
      (writeRows path rows faults maxType d).1 = .ok (maxSeverity maxType rows)) ∧
    (¬ WritesSucceed rows faults → ∃ e, (writeRows path rows faults maxType d).1 = .error e) := by
  induction rows generalizing faults maxType d with
  | nil => exact ⟨fun _ => rfl, fun h => absurd (by simp [WritesSucceed]) h⟩
  | cons row rows ih =>
    rw [writesSucceed_cons, writeRows]
    by_cases he : row.isEmpty = true
    · rw [if_pos he]
      obtain ⟨hok, herr⟩ := ih (fun k => faults (k + 1)) (max maxType row.getMaxEventType) d
      exact ⟨fun h => hok h.2, fun h => herr fun h' => h ⟨by simp [he], h'⟩⟩
    · rw [if_neg he]
      cases hf : faults 0 with
      | some p => exact ⟨fun h => absurd (h.1 (by simpa using he)) (by simp), fun _ => ⟨p.1, rfl⟩⟩
      | none =>
        obtain ⟨hok, herr⟩ := ih (fun k => faults (k + 1)) (max maxType row.getMaxEventType)
          (writeLine d path row.toJson none)
        exact ⟨fun h => hok h.2, fun h => herr fun h' => h ⟨fun _ => rfl, h'⟩⟩

end

/-! ## The writer -/

variable [Decoders] [Detectors] [SerdeJson] [Chrono]

/-- `AnalysisWriter` (`analysis.rs:25`), with the path its file was opened at. -/
structure AnalysisWriter where
  path : FilePath
  harness : Harness

namespace AnalysisWriter

/-- `AnalysisWriter::new` (`analysis.rs:37`). -/
def new [Build] (path : FilePath) (config : AnalyzerConfig) (metadata : DeviceMetadata)
    (fault : WriteFault) (d : Disk) : Except IoError AnalysisWriter × Disk :=
  let harness := Harness.newWithConfig config metadata
  let d := writeLine d path harness.getMetadata.toJson fault
  match fault with
  | some (e, _) => (.error e, d)
  | none => (.ok ⟨path, harness⟩, d)

omit [Chrono] in
/-- A report is begun with the line of its metadata, or with a part of it. -/
theorem new_none [Build] (path : FilePath) (config : AnalyzerConfig) (metadata : DeviceMetadata)
    (d : Disk) : new path config metadata none d =
      (.ok ⟨path, Harness.newWithConfig config metadata⟩,
        writeLine d path (Harness.newWithConfig config metadata).getMetadata.toJson none) := rfl

omit [Chrono] in
theorem new_some [Build] (path : FilePath) (config : AnalyzerConfig) (metadata : DeviceMetadata)
    (e : IoError) (n : Nat) (d : Disk) : new path config metadata (some (e, n)) d =
      (.error e, writeLine d path (Harness.newWithConfig config metadata).getMetadata.toJson
        (some (e, n))) := rfl

/-- `analyze_container_inner` (`analysis.rs:78`): the rows are all computed before the first is
written. -/
def analyzeContainerInner (w : AnalysisWriter) (container : MessagesContainer)
    (label : Option String) (faults : Nat → WriteFault) (d : Disk) :
    Except IoError EventType × AnalysisWriter × Disk :=
  let (rows, harness) := w.harness.analyzeQmdlMessages container
  let (result, d) := writeRows w.path (rows.map (labelRow label)) faults .informational d
  (result, { w with harness }, d)

/-- `analyze_message` (`analysis.rs:99`). -/
def analyzeMessage (w : AnalysisWriter) (item : MessageItem) (fault : WriteFault) (d : Disk) :
    Except IoError EventType × AnalysisWriter × Disk :=
  let (row, harness) := w.harness.analyzeQmdlMessage item
  if row.isEmpty then (.ok row.getMaxEventType, { w with harness }, d)
  else
    let d := writeLine d w.path row.toJson fault
    match fault with
    | some (e, _) => (.error e, { w with harness }, d)
    | none => (.ok row.getMaxEventType, { w with harness }, d)

/-- A message takes the analysis one packet further. Its row goes to the report where it is not
empty; the analysis goes on where that is written without a fault. -/
theorem analyzeMessage_cases (w : AnalysisWriter) (item : MessageItem) (fault : WriteFault)
    (d : Disk) :
    let row := (w.harness.analyzeQmdlMessage item).1
    let w' : AnalysisWriter := { w with harness := (w.harness.analyzeQmdlMessage item).2 }
    (row.isEmpty = true ∧
      w.analyzeMessage item fault d = (.ok row.getMaxEventType, w', d)) ∨
    (row.isEmpty = false ∧ fault = none ∧
      w.analyzeMessage item fault d =
        (.ok row.getMaxEventType, w', writeLine d w.path row.toJson none)) ∨
    (row.isEmpty = false ∧ ∃ e n, fault = some (e, n) ∧
      w.analyzeMessage item fault d = (.error e, w', writeLine d w.path row.toJson fault)) := by
  intro row w'
  unfold analyzeMessage
  cases he : row.isEmpty with
  | true => exact .inl ⟨rfl, if_pos he⟩
  | false =>
    right
    have hne : ¬ row.isEmpty = true := by rw [he]; decide
    cases fault with
    | none => exact .inl ⟨rfl, rfl, if_neg hne⟩
    | some p => exact .inr ⟨rfl, p.1, p.2, rfl, if_neg hne⟩

/-- Analysing a container gives the highest severity in it exactly where every row that is written
is written without a fault. -/
theorem analyzeContainerInner_result (w : AnalysisWriter) (container : MessagesContainer)
    (label : Option String) (faults : Nat → WriteFault) (d : Disk) :
    (WritesSucceed (w.harness.analyzeQmdlMessages container).1 faults →
      (w.analyzeContainerInner container label faults d).1 =
        .ok (maxSeverity .informational (w.harness.analyzeQmdlMessages container).1)) ∧
    (¬ WritesSucceed (w.harness.analyzeQmdlMessages container).1 faults →
      ∃ e, (w.analyzeContainerInner container label faults d).1 = .error e) := by
  have h := writeRows_result w.path
    ((w.harness.analyzeQmdlMessages container).1.map (labelRow label)) faults .informational d
  rwa [writesSucceed_map_labelRow, maxSeverity_map_labelRow] at h

end AnalysisWriter

end Rayhunter
