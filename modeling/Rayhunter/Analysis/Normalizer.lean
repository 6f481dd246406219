import Rayhunter.Analysis.Serde
import Rayhunter.Lib.Joining
import Rayhunter.Store.Disk

/-!
# Reports on their way to the page

`AnalysisLineNormalizer` (`analyzer.rs:221`) and the stream `get_analysis_report` (`diag.rs:1357`)
makes with it: the first line of a report is brought to the current version, every other is read as
a row and written as rows are now, and a line that is not read is passed on as it is. Empty lines
are left out. What a row says is in the line it becomes (`normalizeRow_row`).
-/

namespace Rayhunter

variable [SerdeJson] [Chrono]

/-! ## Reading the metadata line -/

def deU32 : Json → Option Nat
  | .int n => if 0 ≤ n ∧ n < 2 ^ 32 then some n.toNat else none
  | _ => none

/-- The derived `AnalyzerMetadata: Deserialize`. -/
def AnalyzerMetadata.deserialize : Json → Option AnalyzerMetadata
  | .obj ms =>
    match required deString ms "name", required deString ms "description",
      required deU32 ms "version" with
    | some n, some d, some v => some ⟨n, d, v⟩
    | _, _, _ => none
  | .arr [n, d, v] =>
    match deString n, deString d, deU32 v with
    | some n, some d, some v => some ⟨n, d, v⟩
    | _, _, _ => none
  | _ => none

/-- The derived `RuntimeMetadata: Deserialize`. -/
def RuntimeMetadata.deserialize : Json → Option RuntimeMetadata
  | .obj ms =>
    match required deString ms "rayhunter_version", required deString ms "system_os",
      required deString ms "arch" with
    | some v, some s, some a => some ⟨v, s, a⟩
    | _, _, _ => none
  | .arr [v, s, a] =>
    match deString v, deString s, deString a with
    | some v, some s, some a => some ⟨v, s, a⟩
    | _, _, _ => none
  | _ => none

/-- A field of a struct with `#[serde(default)]`, which is its default where it is missing. -/
def orDefault {α : Type} (f : Json → Option α) (default : α) : Option Json → Option α
  | none => some default
  | some v => f v

/-- The derived `ReportMetadata: Deserialize` from its three fields. -/
def ReportMetadata.ofFields [Build] (analyzers rayhunter reportVersion : Option Json) :
    Option ReportMetadata :=
  match orDefault (deVec AnalyzerMetadata.deserialize) [] analyzers,
    orDefault RuntimeMetadata.deserialize Build.runtimeMetadata rayhunter,
    orDefault deU32 0 reportVersion with
  | some a, some r, some v => some ⟨a, r, v⟩
  | _, _, _ => none

/-- The derived `ReportMetadata: Deserialize`. -/
def ReportMetadata.deserialize [Build] : Json → Option ReportMetadata
  | .obj ms =>
    match field ms "analyzers", field ms "rayhunter", field ms "report_version" with
    | some a, some r, some v => ReportMetadata.ofFields a r v
    | _, _, _ => none
  | .arr xs =>
    if xs.length ≤ 3 then ReportMetadata.ofFields xs[0]? xs[1]? xs[2]? else none
  | _ => none

/-! ## Normalizing -/

/-- `ReportMetadata::normalize` (`analyzer.rs:213`). -/
def ReportMetadata.normalize (m : ReportMetadata) : ReportMetadata :=
  { m with reportVersion := REPORT_VERSION }

/-- What becomes of the first line. -/
def normalizeMetadata [Build] (line : String) : String :=
  match (SerdeJson.fromStr line).bind ReportMetadata.deserialize with
  | some metadata => SerdeJson.toString metadata.normalize.toJson
  | none => line

/-- What becomes of another line. -/
def normalizeRow (line : String) : String :=
  match AnalysisRow.fromStr line with
  | some row => SerdeJson.toString row.toJson
  | none => line

/-- `AnalysisLineNormalizer` (`analyzer.rs:221`). -/
structure AnalysisLineNormalizer where
  isFirst : Bool := true

/-- `normalize_line` (`analyzer.rs:238`): the line, and the normalizer after it. -/
def AnalysisLineNormalizer.normalizeLine [Build] (n : AnalysisLineNormalizer) (line : String) :
    String × AnalysisLineNormalizer :=
  if n.isFirst then (normalizeMetadata line ++ "\n", { n with isFirst := false })
  else (normalizeRow line ++ "\n", n)

/-- The stream `get_analysis_report` answers with (`diag.rs:1384`); nothing where it ends in an
error, as it does at a line that is not UTF-8. -/
def normalizedStream [Build] (normalizer : AnalysisLineNormalizer) :
    List (Option String) → Option String
  | [] => some ""
  | none :: _ => none
  | some line :: lines =>
    if line = "" then normalizedStream normalizer lines
    else
      (normalizedStream (normalizer.normalizeLine line).2 lines).map
        ((normalizer.normalizeLine line).1 ++ ·)

/-- The body of an answer of `get_analysis_report` (`diag.rs:1357`). -/
def getAnalysisReport [Build] (report : FileContent) : Option String :=
  normalizedStream {} report.lines

/-! ## What becomes of the lines -/

/-- The lines the stream is made of, without their line feeds. -/
def normalizedLines [Build] (lines : List String) : List String :=
  match lines.filter (· ≠ "") with
  | [] => []
  | line :: lines => normalizeMetadata line :: lines.map normalizeRow

theorem normalizedStream_rows [Build] (lines : List String) :
    normalizedStream ⟨false⟩ (lines.map some) =
      some (Joining.ofLines ((lines.filter (· ≠ "")).map normalizeRow)) := by
  induction lines with
  | nil => rfl
  | cons line lines ih =>
    rw [List.map_cons, normalizedStream]
    by_cases he : line = ""
    · rw [if_pos he, ih, List.filter_cons_of_neg (by simpa using he)]
    · have hnext : (AnalysisLineNormalizer.mk false).normalizeLine line =
          (normalizeRow line ++ "\n", ⟨false⟩) := rfl
      rw [if_neg he, hnext, ih, List.filter_cons_of_pos (by simpa using he)]
      rfl

/-- The stream of a report whose lines are texts. -/
theorem normalizedStream_lines [Build] (lines : List String) :
    normalizedStream {} (lines.map some) = some (Joining.ofLines (normalizedLines lines)) := by
  induction lines with
  | nil => rfl
  | cons line lines ih =>
    rw [List.map_cons, normalizedStream, normalizedLines]
    by_cases he : line = ""
    · rw [if_pos he, ih, normalizedLines, List.filter_cons_of_neg (by simpa using he)]
    · have hnext : (AnalysisLineNormalizer.mk true).normalizeLine line =
          (normalizeMetadata line ++ "\n", ⟨false⟩) := rfl
      rw [if_neg he, hnext, normalizedStream_rows, List.filter_cons_of_pos (by simpa using he)]
      rfl

/-- A stream that does not end in an error is that of lines that are texts. -/
theorem exists_of_normalizedStream [Build] {n : AnalysisLineNormalizer}
    {lines : List (Option String)} {body : String} (h : normalizedStream n lines = some body) :
    ∃ texts : List String, lines = texts.map some := by
  induction lines generalizing n body with
  | nil => exact ⟨[], rfl⟩
  | cons line lines ih =>
    cases line with
    | none => cases h
    | some line =>
      rw [normalizedStream] at h
      have hrest : ∃ m rest, normalizedStream m lines = some rest := by
        split at h
        · exact ⟨n, body, h⟩
        · obtain ⟨rest, hrest, -⟩ := Option.map_eq_some_iff.mp h
          exact ⟨_, rest, hrest⟩
      obtain ⟨m, rest, hrest⟩ := hrest
      obtain ⟨texts, rfl⟩ := ih hrest
      exact ⟨line :: texts, rfl⟩

/-- A line that is no JSON is passed on as it is. -/
theorem normalize_bad [Build] {line : String} (h : SerdeJson.fromStr line = none) :
    normalizeMetadata line = line ∧ normalizeRow line = line := by
  constructor
  · rw [normalizeMetadata, h]
    rfl
  · rw [normalizeRow, AnalysisRow.fromStr, h]
    rfl

omit [SerdeJson] [Chrono] in
/-- The versions of analyzers that are read are words. -/
theorem AnalyzerMetadata.version_lt {j : Json} {a : AnalyzerMetadata}
    (h : AnalyzerMetadata.deserialize j = some a) : a.version < 2 ^ 32 := by
  have hword : ∀ {v : Json} {n : Nat}, deU32 v = some n → n < 2 ^ 32 := by
    intro v n hv
    cases v with
    | int i =>
      rw [deU32] at hv
      split at hv
      · cases hv
        omega
      · cases hv
    | _ => cases hv
  cases j with
  | obj ms =>
    rw [AnalyzerMetadata.deserialize] at h
    split at h
    · next hv =>
      cases h
      obtain ⟨v, -, hv⟩ := lookup_of_required hv
      exact hword hv
    · cases h
  | arr xs =>
    unfold AnalyzerMetadata.deserialize at h
    split at h
    · next heq => cases heq
    · split at h
      · next hv =>
        cases h
        exact hword hv
      · cases h
    · cases h
  | _ => cases h

omit [SerdeJson] [Chrono] in
theorem ReportMetadata.version_lt_of_fields [Build] {a r v : Option Json} {m : ReportMetadata}
    (h : ReportMetadata.ofFields a r v = some m) : ∀ x ∈ m.analyzers, x.version < 2 ^ 32 := by
  intro x hx
  rw [ReportMetadata.ofFields] at h
  split at h
  · next ha _ _ =>
    cases h
    cases a with
    | none =>
      cases ha
      cases hx
    | some j =>
      cases j with
      | arr xs =>
        obtain ⟨y, -, hy⟩ := exists_of_mem_mapM ha hx
        exact AnalyzerMetadata.version_lt hy
      | _ => cases ha
  · cases h

omit [SerdeJson] [Chrono] in
theorem ReportMetadata.version_lt [Build] {j : Json} {m : ReportMetadata}
    (h : ReportMetadata.deserialize j = some m) : ∀ x ∈ m.analyzers, x.version < 2 ^ 32 := by
  cases j with
  | obj ms =>
    rw [ReportMetadata.deserialize] at h
    split at h
    · exact ReportMetadata.version_lt_of_fields h
    · cases h
  | arr xs =>
    rw [ReportMetadata.deserialize] at h
    split at h
    · exact ReportMetadata.version_lt_of_fields h
    · cases h
  | _ => cases h

omit [SerdeJson] in
/-- Metadata that is read and normalized is a report value. -/
theorem ReportMetadata.normalize_value [Build] {j : Json} {m : ReportMetadata}
    (h : ReportMetadata.deserialize j = some m) : ReportValue m.normalize.toJson := by
  refine .metadata _ (show REPORT_VERSION < 2 ^ 32 by decide) ?_
  show ∀ x ∈ m.analyzers, x.version < 2 ^ 32
  exact ReportMetadata.version_lt h

/-- The packet number of a row that is read is a word. -/
theorem AnalysisRow.packetNum_lt (hs : SerdeJson.Lawful) {j : Json} {row : AnalysisRow}
    (h : AnalysisRow.deserialize j = some row) : ∀ n ∈ row.packetNum, n < 2 ^ 64 := by
  have husize := hs.usizeMax_lt
  have hword : ∀ {v : Json} {n : Option Nat}, deOption deUsize v = some n →
      ∀ k ∈ n, k < 2 ^ 64 := by
    intro v n hv k hk
    cases hk
    cases v with
    | int i =>
      obtain ⟨k', hk', hkk⟩ := Option.map_eq_some_iff.mp hv
      cases hkk
      rw [deUsize] at hk'
      split at hk'
      · cases hk'
        omega
      · cases hk'
    | _ => cases hv
  rw [AnalysisRow.deserialize] at h
  split at h
  · have hnum : row.packetNum = none := by
      unfold AnalysisRow.ofV1 at h
      split at h
      · cases h
        rfl
      · cases h
        rfl
      · cases h
    rw [hnum]
    intro n hn
    cases hn
  · cases j with
    | obj ms =>
      have hnum := (V2Format.deserialize_obj h).1
      rw [optional] at hnum
      split at hnum
      · exact hword hnum
      · rw [← Option.some.inj hnum]
        intro n hn
        cases hn
      · cases hnum
    | arr xs =>
      unfold V2Format.deserialize at h
      split at h
      · next heq => cases heq
      · split at h
        · next hnum _ _ _ =>
          cases h
          exact hword hnum
        · cases h
      · cases h
    | _ => cases h

/-- A line that is passed on is the same line, or a report value is written for it. -/
def PassedOn (line line' : String) : Prop :=
  line' = line ∨ ∃ j, ReportValue j ∧ line' = SerdeJson.toString j

theorem passedOn_metadata [Build] (line : String) : PassedOn line (normalizeMetadata line) := by
  rw [normalizeMetadata]
  cases hd : (SerdeJson.fromStr line).bind ReportMetadata.deserialize with
  | none => exact .inl rfl
  | some m =>
    obtain ⟨j, -, hj⟩ := Option.bind_eq_some_iff.mp hd
    exact .inr ⟨_, ReportMetadata.normalize_value hj, rfl⟩

theorem passedOn_row (hs : SerdeJson.Lawful) (line : String) :
    PassedOn line (normalizeRow line) := by
  rw [normalizeRow]
  cases hd : AnalysisRow.fromStr line with
  | none => exact .inl rfl
  | some row =>
    obtain ⟨j, -, hj⟩ := Option.bind_eq_some_iff.mp hd
    exact .inr ⟨_, .row row (AnalysisRow.packetNum_lt hs hj), rfl⟩

/-- What is passed on is a line where it was one. -/
theorem PassedOn.newline (hs : SerdeJson.Lawful) {line line' : String} (h : PassedOn line line')
    (hl : '\n' ∉ line.toList) : '\n' ∉ line'.toList := by
  rcases h with rfl | ⟨j, hj, rfl⟩
  · exact hl
  · exact (hs.isLine_toString hj).1

/-- The metadata line is written as metadata is. -/
theorem normalizeMetadata_metadata [Build] (hs : SerdeJson.Lawful) {m : ReportMetadata}
    (h : ReportValue m.toJson) : ∃ m' : ReportMetadata, ReportValue m'.toJson ∧
      normalizeMetadata (SerdeJson.toString m.toJson) = SerdeJson.toString m'.toJson := by
  rw [normalizeMetadata, hs.fromStr_toString h]
  cases hd : (some m.toJson).bind ReportMetadata.deserialize with
  | none => exact ⟨m, h, rfl⟩
  | some m' => exact ⟨m'.normalize, ReportMetadata.normalize_value (j := m.toJson) hd, rfl⟩

/-- The line of a row is written as a row with the same number and the same events. -/
theorem normalizeRow_row (hs : SerdeJson.Lawful) {row : AnalysisRow}
    (hn : ∀ n ∈ row.packetNum, n < 2 ^ 64) : ∃ row' : AnalysisRow,
      row'.packetNum = row.packetNum ∧ row'.events = row.events ∧ ReportValue row'.toJson ∧
      normalizeRow (SerdeJson.toString row.toJson) = SerdeJson.toString row'.toJson := by
  rw [normalizeRow, AnalysisRow.fromStr, hs.fromStr_toString (.row row hn)]
  cases hd : (some row.toJson).bind AnalysisRow.deserialize with
  | none => exact ⟨row, rfl, rfl, .row row hn, rfl⟩
  | some row' =>
    have hde : AnalysisRow.deserialize row.toJson = some row' := hd
    obtain ⟨hnum, hevents⟩ := AnalysisRow.deserialize_toJson hde
    refine ⟨row', hnum, hevents, .row row' ?_, rfl⟩
    rw [hnum]
    exact hn

end Rayhunter
