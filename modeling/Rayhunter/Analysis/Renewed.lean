import Mathlib.Data.List.Forall2
import Rayhunter.Analysis.Normalizer

/-!
# What a report keeps when it is normalized

A line is read back as it was written, so that a normalized report is not changed again. A row of the
current shape and of the one before it keeps its events. A row of version 1 has a list of analyses,
each with its events, and keeps the first: `normalize_keeps_iff`.
-/

namespace Rayhunter

variable [SerdeJson] [Chrono]

/-- What is taken from `chrono`: an instant that was read is read again from the text it is written
as. -/
def Chrono.RoundTrips : Prop :=
  ∀ s t, Chrono.parseDateTime s = some t → Chrono.parseDateTime (Chrono.formatDateTime t) = some t

/-! ## Reading what was written -/

/-- A row that can be read: its packet number is a `usize`, and its time was read from a text. -/
structure AnalysisRow.Readable (row : AnalysisRow) : Prop where
  packetNum : ∀ n ∈ row.packetNum, n ≤ SerdeJson.usizeMax
  packetTimestamp : ∀ t ∈ row.packetTimestamp, ∃ s, Chrono.parseDateTime s = some t

omit [Chrono] in
theorem deUsize_le {j : Json} {n : Nat} (h : deUsize j = some n) : n ≤ SerdeJson.usizeMax := by
  cases j with
  | int i =>
    rw [deUsize] at h
    split at h
    · cases h
      omega
    · cases h
  | _ => cases h

omit [SerdeJson] in
theorem exists_of_deDateTime {j : Json} {t : DateTime} (h : deDateTime j = some t) :
    ∃ s, Chrono.parseDateTime s = some t := by
  cases j with
  | str s => exact ⟨s, h⟩
  | _ => cases h

omit [SerdeJson] [Chrono] in
/-- A value that may be `null` is read as such. -/
theorem of_deOption {α : Type} {f : Json → Option α} {j : Json} {o : Option α} {P : α → Prop}
    (hf : ∀ a, f j = some a → P a) (h : deOption f j = some o) : ∀ a ∈ o, P a := by
  intro a ha
  cases ha
  cases j with
  | null => cases h
  | _ =>
    obtain ⟨b, hb, heq⟩ := Option.map_eq_some_iff.1 h
    exact Option.some.inj heq ▸ hf b hb

omit [SerdeJson] [Chrono] in
/-- So is a field that may be left out. -/
theorem of_optional {α : Type} {f : Json → Option α} {ms : List (String × Json)} {key : String}
    {o : Option α} {P : α → Prop} (hf : ∀ j a, f j = some a → P a)
    (h : optional f ms key = some o) : ∀ a ∈ o, P a := by
  unfold optional at h
  split at h
  · exact of_deOption (hf _) h
  · cases h
    intro a ha
    cases ha
  · cases h

theorem V2Format.readable {j : Json} {row : AnalysisRow} (h : V2Format.deserialize j = some row) :
    row.Readable := by
  unfold V2Format.deserialize at h
  split at h
  · split at h
    · next hn ht _ _ =>
      cases h
      exact ⟨of_optional (fun _ _ => deUsize_le) hn, of_optional (fun _ _ => exists_of_deDateTime) ht⟩
    · cases h
  · split at h
    · next hn ht _ _ =>
      cases h
      exact ⟨of_deOption (fun _ => deUsize_le) hn, of_deOption (fun _ => exists_of_deDateTime) ht⟩
    · cases h
  · cases h

omit [SerdeJson] in
theorem V1AnalysisEntry.readable {j : Json} {entry : V1AnalysisEntry}
    (h : V1AnalysisEntry.deserialize j = some entry) :
    ∃ s, Chrono.parseDateTime s = some entry.timestamp := by
  unfold V1AnalysisEntry.deserialize at h
  split at h
  · split at h
    · next ht _ =>
      cases h
      obtain ⟨v, -, hv⟩ := lookup_of_required ht
      exact exists_of_deDateTime hv
    · cases h
  · split at h
    · next ht _ =>
      cases h
      exact exists_of_deDateTime ht
    · cases h
  · cases h

omit [SerdeJson] in
theorem V1Format.readable {j : Json} {v1 : V1Format} (h : V1Format.deserialize j = some v1) :
    (∃ s, Chrono.parseDateTime s = some v1.timestamp) ∧
      ∀ entry ∈ v1.analysis, ∃ s, Chrono.parseDateTime s = some entry.timestamp := by
  have hentries : ∀ {j : Json} {entries : List V1AnalysisEntry},
      deVec V1AnalysisEntry.deserialize j = some entries →
      ∀ entry ∈ entries, ∃ s, Chrono.parseDateTime s = some entry.timestamp := by
    intro j entries hj entry hentry
    cases j with
    | arr xs =>
      obtain ⟨x, -, hx⟩ := exists_of_mem_mapM hj hentry
      exact V1AnalysisEntry.readable hx
    | _ => cases hj
  unfold V1Format.deserialize at h
  split at h
  · split at h
    · next ht _ hanalysis =>
      cases h
      obtain ⟨v, -, hv⟩ := lookup_of_required ht
      obtain ⟨w, -, hw⟩ := lookup_of_required hanalysis
      exact ⟨exists_of_deDateTime hv, hentries hw⟩
    · cases h
  · split at h
    · next ht _ hanalysis =>
      cases h
      exact ⟨exists_of_deDateTime ht, hentries hanalysis⟩
    · cases h
  · cases h

/-- Every row that is read can be read. -/
theorem AnalysisRow.readable {j : Json} {row : AnalysisRow}
    (h : AnalysisRow.deserialize j = some row) : row.Readable := by
  unfold AnalysisRow.deserialize at h
  split at h
  · next v1 hv1 =>
    obtain ⟨htime, hentries⟩ := V1Format.readable hv1
    unfold AnalysisRow.ofV1 at h
    split at h
    · next first _ hanalysis =>
      cases h
      refine ⟨by simp, ?_⟩
      rintro _ ⟨⟩
      exact hentries first (by rw [hanalysis]; exact List.mem_cons_self)
    · cases h
      refine ⟨by simp, ?_⟩
      rintro _ ⟨⟩
      exact htime
    · cases h
  · exact V2Format.readable h

omit [SerdeJson] [Chrono] in
/-- A value that may be missing is read as it was written. -/
theorem deOption_optionToJson {α : Type} {f : Json → Option α} {g : α → Json} {o : Option α}
    (hf : ∀ a ∈ o, f (g a) = some a) (hnull : ∀ a, g a ≠ .null) :
    deOption f (optionToJson g o) = some o := by
  cases o with
  | none => rfl
  | some a =>
    have hread : deOption f (g a) = (f (g a)).map some := by
      unfold deOption
      split
      · next hg => exact absurd hg (hnull a)
      · rfl
    rw [optionToJson, hread, hf a rfl]
    rfl

omit [SerdeJson] in
/-- The fields of a row, each written at most once. -/
theorem AnalysisRow.field_toJson (row : AnalysisRow) : ∃ ms, row.toJson = .obj ms ∧
    field ms "packet_num" = some (row.packetNum.map fun n => .int n) ∧
    field ms "packet_timestamp" = some (some
      (optionToJson (fun t => .str (Chrono.formatDateTime t)) row.packetTimestamp)) ∧
    field ms "skipped_message_reason" =
      some (some (optionToJson .str row.skippedMessageReason)) ∧
    field ms "events" = some (some (.arr (row.events.map (optionToJson Event.toJson)))) := by
  obtain ⟨n, t, r, es⟩ := row
  refine ⟨_, rfl, ?_, ?_, ?_, ?_⟩ <;> cases n <;> rfl

/-- A row that can be read is read as it was written. -/
theorem AnalysisRow.deserialize_toJson_self (hc : Chrono.RoundTrips) {row : AnalysisRow}
    (h : row.Readable) : AnalysisRow.deserialize row.toJson = some row := by
  obtain ⟨ms, hms, hnum, htime, hreason, hevents⟩ := row.field_toJson
  have hn : optional deUsize ms "packet_num" = some row.packetNum := by
    rw [optional, hnum]
    cases hp : row.packetNum with
    | none => rfl
    | some n =>
      have hread : deUsize (.int n) = some n :=
        if_pos ⟨Int.natCast_nonneg n, by exact_mod_cast h.packetNum n hp⟩
      show (deUsize (.int n)).map some = _
      rw [hread]
      rfl
  have ht : optional deDateTime ms "packet_timestamp" = some row.packetTimestamp := by
    rw [optional, htime]
    refine deOption_optionToJson (fun t ht => ?_) (by simp)
    obtain ⟨s, hs⟩ := h.packetTimestamp t ht
    exact hc s t hs
  have hr : optional deString ms "skipped_message_reason" = some row.skippedMessageReason := by
    rw [optional, hreason]
    exact deOption_optionToJson (fun _ _ => rfl) (by simp)
  have hes : required deEvents ms "events" = some row.events := by
    rw [required, hevents]
    exact deEvents_toJson row.events
  rw [AnalysisRow.deserialize, v1_toJson, hms]
  show V2Format.deserialize (.obj ms) = _
  rw [V2Format.deserialize, hn, ht, hr, hes]

/-! ## Normalizing twice -/

omit [SerdeJson] [Chrono] in
/-- Metadata whose versions are words is read as it was written. -/
theorem ReportMetadata.deserialize_toJson [Build] {m : ReportMetadata}
    (hv : m.reportVersion < 2 ^ 32) (ha : ∀ a ∈ m.analyzers, a.version < 2 ^ 32) :
    ReportMetadata.deserialize m.toJson = some m := by
  have hword : ∀ {n : Nat}, n < 2 ^ 32 → deU32 (.int n) = some n := by
    intro n hn
    rw [deU32, if_pos (by omega)]
    rfl
  have hanalyzer : ∀ a ∈ m.analyzers, AnalyzerMetadata.deserialize a.toJson = some a := by
    intro a hmem
    have hfield : field [("name", .str a.name), ("description", .str a.description),
        ("version", .int a.version)] "version" = some (some (.int a.version)) := rfl
    have hversion : required deU32 [("name", .str a.name), ("description", .str a.description),
        ("version", .int a.version)] "version" = some a.version := by
      rw [required, hfield]
      exact hword (ha a hmem)
    rw [AnalyzerMetadata.toJson, AnalyzerMetadata.deserialize, hversion]
    rfl
  have hanalyzers : deVec AnalyzerMetadata.deserialize
      (.arr (m.analyzers.map AnalyzerMetadata.toJson)) = some m.analyzers := by
    show (m.analyzers.map AnalyzerMetadata.toJson).mapM AnalyzerMetadata.deserialize = _
    exact mapM_map hanalyzer
  show ReportMetadata.ofFields (some (.arr (m.analyzers.map AnalyzerMetadata.toJson)))
    (some m.rayhunter.toJson) (some (.int m.reportVersion)) = some m
  rw [ReportMetadata.ofFields, orDefault, hanalyzers, orDefault, orDefault, hword hv]
  rfl

/-- Normalizing the first line twice changes nothing. -/
theorem normalizeMetadata_twice [Build] (hs : SerdeJson.Lawful) (line : String) :
    normalizeMetadata (normalizeMetadata line) = normalizeMetadata line := by
  cases hd : (SerdeJson.fromStr line).bind ReportMetadata.deserialize with
  | none =>
    have hsame : normalizeMetadata line = line := by rw [normalizeMetadata, hd]
    rw [hsame, hsame]
  | some m =>
    obtain ⟨j, -, hj⟩ := Option.bind_eq_some_iff.mp hd
    have hvalue := ReportMetadata.normalize_value hj
    have hread : ReportMetadata.deserialize m.normalize.toJson = some m.normalize :=
      ReportMetadata.deserialize_toJson (show REPORT_VERSION < 2 ^ 32 by decide)
        (show ∀ a ∈ m.analyzers, a.version < 2 ^ 32 from ReportMetadata.version_lt hj)
    have hline : normalizeMetadata line = SerdeJson.toString m.normalize.toJson := by
      rw [normalizeMetadata, hd]
    rw [hline, normalizeMetadata, hs.fromStr_toString hvalue, Option.bind_some, hread]
    rfl

/-- Normalizing another line twice changes nothing. -/
theorem normalizeRow_twice (hs : SerdeJson.Lawful) (hc : Chrono.RoundTrips) (line : String) :
    normalizeRow (normalizeRow line) = normalizeRow line := by
  cases hd : AnalysisRow.fromStr line with
  | none =>
    have hsame : normalizeRow line = line := by rw [normalizeRow, hd]
    rw [hsame, hsame]
  | some row =>
    obtain ⟨j, -, hj⟩ := Option.bind_eq_some_iff.mp hd
    have hline : normalizeRow line = SerdeJson.toString row.toJson := by rw [normalizeRow, hd]
    have hread : AnalysisRow.fromStr (SerdeJson.toString row.toJson) = some row := by
      rw [AnalysisRow.fromStr, hs.fromStr_toString (.row row (AnalysisRow.packetNum_lt hs hj)),
        Option.bind_some, AnalysisRow.deserialize_toJson_self hc (AnalysisRow.readable hj)]
    rw [hline, normalizeRow, hread]

/-- No line that is passed on is empty. -/
theorem PassedOn.ne_empty (hs : SerdeJson.Lawful) {line line' : String} (h : PassedOn line line')
    (hl : line ≠ "") : line' ≠ "" := by
  rcases h with rfl | ⟨j, hj, rfl⟩
  · exact hl
  · exact hs.toString_ne_empty hj

/-- The lines of a report after its first, without the empty ones. -/
def rowLines (lines : List String) : List String := (lines.filter (· ≠ "")).tail

theorem filter_normalizedLines [Build] (hs : SerdeJson.Lawful) (lines : List String) :
    (normalizedLines lines).filter (· ≠ "") = normalizedLines lines := by
  have hne : ∀ line ∈ lines.filter (· ≠ ""), line ≠ "" := by
    intro line hline
    simpa using (List.mem_filter.1 hline).2
  rw [normalizedLines]
  cases hf : lines.filter (· ≠ "") with
  | nil => rfl
  | cons first rows =>
    rw [hf] at hne
    refine List.filter_eq_self.2 fun line hline => ?_
    rcases List.mem_cons.1 hline with rfl | hline
    · simpa using (passedOn_metadata first).ne_empty hs (hne first (by simp))
    · obtain ⟨row, hrow, rfl⟩ := List.mem_map.1 hline
      simpa using (passedOn_row hs row).ne_empty hs (hne row (by simp [hrow]))

/-- Each row of a normalized report is a row of the report, normalized. -/
theorem rowLines_normalizedLines [Build] (hs : SerdeJson.Lawful) (lines : List String) :
    rowLines (normalizedLines lines) = (rowLines lines).map normalizeRow := by
  rw [rowLines, filter_normalizedLines hs, normalizedLines, rowLines]
  cases lines.filter (· ≠ "") with
  | nil => rfl
  | cons first rows => rfl

/-- Normalizing a report twice changes nothing. -/
theorem normalizedLines_twice [Build] (hs : SerdeJson.Lawful) (hc : Chrono.RoundTrips)
    (lines : List String) :
    normalizedLines (normalizedLines lines) = normalizedLines lines := by
  rw [normalizedLines, filter_normalizedLines hs, normalizedLines]
  cases lines.filter (· ≠ "") with
  | nil => rfl
  | cons first rows =>
    have hrows : (rows.map normalizeRow).map normalizeRow = rows.map normalizeRow := by
      rw [List.map_map]
      exact List.map_congr_left fun line _ => normalizeRow_twice hs hc line
    show normalizeMetadata (normalizeMetadata first) :: _ = _
    rw [normalizeMetadata_twice hs, hrows]

/-! ## The findings of a report -/

/-- The events that are written in a row: in one of version 1, those of each of its analyses. -/
def rowEvents (j : Json) : List Event :=
  match V1Format.deserialize j with
  | some v1 => v1.analysis.flatMap fun entry => entry.events.filterMap id
  | none =>
    match V2Format.deserialize j with
    | some row => row.events.filterMap id
    | none => []

/-- The events of the analyses after the first in a row of version 1. -/
def laterRowEvents (j : Json) : List Event :=
  match V1Format.deserialize j with
  | some v1 => v1.analysis.tail.flatMap fun entry => entry.events.filterMap id
  | none => []

/-- The events of a line, which has none if it is no row. -/
def lineEvents (line : String) : List Event :=
  match SerdeJson.fromStr line with
  | some j => rowEvents j
  | none => []

/-- Those of them that are in a later analysis. -/
def laterEvents (line : String) : List Event :=
  match SerdeJson.fromStr line with
  | some j => laterRowEvents j
  | none => []

/-- The events above Informational. -/
def findings (events : List Event) : List Event :=
  events.filter (·.eventType ≠ .informational)

/-- The greatest severity of some events. -/
def greatestSeverity (events : List Event) : EventType :=
  (events.map Event.eventType).max?.getD .informational

/-- A row's events are those of the row it is read as and those of its later analyses. -/
theorem rowEvents_of_deserialize {j : Json} {row : AnalysisRow}
    (h : AnalysisRow.deserialize j = some row) :
    rowEvents j = row.events.filterMap id ++ laterRowEvents j := by
  unfold AnalysisRow.deserialize at h
  unfold rowEvents laterRowEvents
  cases hv1 : V1Format.deserialize j with
  | none =>
    rw [hv1] at h
    have hv2 : V2Format.deserialize j = some row := h
    simp [hv2]
  | some v1 =>
    rw [hv1] at h
    have hof : AnalysisRow.ofV1 v1 = some row := h
    unfold AnalysisRow.ofV1 at hof
    split at hof
    · next hanalysis =>
      cases hof
      simp [hanalysis]
    · next hanalysis _ =>
      cases hof
      simp [hanalysis]
    · cases hof

/-- What is not read as a row has no events. -/
theorem laterRowEvents_of_none {j : Json} (h : AnalysisRow.deserialize j = none) :
    laterRowEvents j = [] := by
  unfold AnalysisRow.deserialize at h
  unfold laterRowEvents
  cases hv1 : V1Format.deserialize j with
  | none => rfl
  | some v1 =>
    rw [hv1] at h
    have hof : AnalysisRow.ofV1 v1 = none := h
    unfold AnalysisRow.ofV1 at hof
    split at hof
    · cases hof
    · cases hof
    · next hanalysis _ => simp [hanalysis]

omit [SerdeJson] in
theorem laterRowEvents_toJson (row : AnalysisRow) : laterRowEvents row.toJson = [] := by
  rw [laterRowEvents, v1_toJson]

/-- A line keeps its events but for those of its later analyses. -/
theorem lineEvents_eq (hs : SerdeJson.Lawful) (hc : Chrono.RoundTrips) (line : String) :
    lineEvents line = lineEvents (normalizeRow line) ++ laterEvents line := by
  cases hj : SerdeJson.fromStr line with
  | none =>
    have hsame : normalizeRow line = line := by
      rw [normalizeRow, AnalysisRow.fromStr, hj]
      rfl
    rw [hsame, laterEvents, hj, List.append_nil]
  | some j =>
    have hlater : laterEvents line = laterRowEvents j := by rw [laterEvents, hj]
    have hread : AnalysisRow.fromStr line = AnalysisRow.deserialize j := by
      rw [AnalysisRow.fromStr, hj]
      rfl
    cases hrow : AnalysisRow.deserialize j with
    | none =>
      have hsame : normalizeRow line = line := by rw [normalizeRow, hread, hrow]
      rw [hsame, hlater, laterRowEvents_of_none hrow, List.append_nil]
    | some row =>
      have hline : normalizeRow line = SerdeJson.toString row.toJson := by
        rw [normalizeRow, hread, hrow]
      have hback : SerdeJson.fromStr (SerdeJson.toString row.toJson) = some row.toJson :=
        hs.fromStr_toString (.row row (AnalysisRow.packetNum_lt hs hrow))
      have hevents : lineEvents (normalizeRow line) = row.events.filterMap id := by
        rw [hline, lineEvents, hback]
        show rowEvents row.toJson = _
        rw [rowEvents_of_deserialize
          (AnalysisRow.deserialize_toJson_self hc (AnalysisRow.readable hrow)),
          laterRowEvents_toJson, List.append_nil]
      rw [hevents, hlater, lineEvents, hj]
      exact rowEvents_of_deserialize hrow

omit [SerdeJson] [Chrono] in
theorem le_greatestSeverity {events : List Event} {e : Event} (h : e ∈ events) :
    e.eventType ≤ greatestSeverity events := by
  have hmem : e.eventType ∈ events.map Event.eventType := List.mem_map_of_mem h
  rw [greatestSeverity]
  cases hm : (events.map Event.eventType).max? with
  | none =>
    rw [List.max?_eq_none_iff.1 hm] at hmem
    cases hmem
  | some m => exact (List.max?_eq_some_iff.1 hm).2 _ hmem

omit [SerdeJson] [Chrono] in
/-- The greatest severity is that of a finding where it is above Informational. -/
theorem exists_greatestSeverity {events : List Event}
    (h : greatestSeverity events ≠ .informational) :
    ∃ e ∈ findings events, e.eventType = greatestSeverity events := by
  rw [greatestSeverity] at h ⊢
  cases hm : (events.map Event.eventType).max? with
  | none =>
    rw [hm] at h
    exact absurd rfl h
  | some m =>
    rw [hm] at h
    obtain ⟨e, he, rfl⟩ := List.mem_map.1 (List.max?_eq_some_iff.1 hm).1
    exact ⟨e, List.mem_filter.2 ⟨he, by simpa using h⟩, rfl⟩

omit [SerdeJson] [Chrono] in
/-- Where the findings are there, so is the severity. -/
theorem greatestSeverity_mono {events events' : List Event}
    (h : ∀ e ∈ findings events, e ∈ events') :
    greatestSeverity events ≤ greatestSeverity events' := by
  by_cases hinf : greatestSeverity events = .informational
  · rw [hinf]
    exact EventType.informational_le _
  · obtain ⟨e, he, heq⟩ := exists_greatestSeverity hinf
    rw [← heq]
    exact le_greatestSeverity (h e he)

/-- A line keeps its findings exactly when its later analyses have none. -/
theorem findings_normalizeRow_iff (hs : SerdeJson.Lawful) (hc : Chrono.RoundTrips)
    (line : String) :
    (findings (lineEvents line)).Sublist (findings (lineEvents (normalizeRow line))) ↔
      findings (laterEvents line) = [] := by
  have hsplit : findings (lineEvents line) =
      findings (lineEvents (normalizeRow line)) ++ findings (laterEvents line) := by
    rw [lineEvents_eq hs hc line, findings, List.filter_append]
    rfl
  rw [hsplit]
  constructor
  · intro hsub
    have hlen := hsub.length_le
    rw [List.length_append] at hlen
    exact List.eq_nil_of_length_eq_zero (by omega)
  · intro hnone
    rw [hnone, List.append_nil]

/-- Normalizing a report keeps its findings exactly when no row of version 1 has one in an analysis
after its first. -/
theorem normalize_keeps_iff [Build] (hs : SerdeJson.Lawful) (hc : Chrono.RoundTrips)
    (lines : List String) :
    (greatestSeverity ((rowLines (normalizedLines lines)).flatMap lineEvents) =
        greatestSeverity ((rowLines lines).flatMap lineEvents) ∧
      List.Forall₂ (fun line line' =>
          (findings (lineEvents line)).Sublist (findings (lineEvents line')))
        (rowLines lines) (rowLines (normalizedLines lines)) ∧
      normalizedLines (normalizedLines lines) = normalizedLines lines) ↔
    ∀ line ∈ rowLines lines, ∀ e ∈ laterEvents line, e.eventType = .informational := by
  have hnone : ∀ line, findings (laterEvents line) = [] ↔
      ∀ e ∈ laterEvents line, e.eventType = .informational := by
    intro line
    rw [findings, List.filter_eq_nil_iff]
    simp
  rw [rowLines_normalizedLines hs]
  constructor
  · rintro ⟨-, hkept, -⟩ line hline
    rw [List.forall₂_map_right_iff, List.forall₂_same] at hkept
    exact (hnone line).1 ((findings_normalizeRow_iff hs hc line).1 (hkept line hline))
  · intro hlater
    have hkept : ∀ line ∈ rowLines lines, (findings (lineEvents line)).Sublist
        (findings (lineEvents (normalizeRow line))) := by
      intro line hline
      exact (findings_normalizeRow_iff hs hc line).2 ((hnone line).2 (hlater line hline))
    refine ⟨le_antisymm (greatestSeverity_mono ?_) (greatestSeverity_mono ?_), ?_,
      normalizedLines_twice hs hc lines⟩
    · intro e he
      obtain ⟨line', hline', hmem⟩ := List.mem_flatMap.1 (List.mem_filter.1 he).1
      obtain ⟨line, hline, rfl⟩ := List.mem_map.1 hline'
      refine List.mem_flatMap.2 ⟨line, hline, ?_⟩
      rw [lineEvents_eq hs hc line]
      exact List.mem_append_left _ hmem
    · intro e he
      obtain ⟨hmem, hfinding⟩ := List.mem_filter.1 he
      obtain ⟨line, hline, hmem⟩ := List.mem_flatMap.1 hmem
      have hnormal := (hkept line hline).subset (List.mem_filter.2 ⟨hmem, hfinding⟩)
      exact List.mem_flatMap.2 ⟨normalizeRow line, List.mem_map_of_mem hline,
        (List.mem_filter.1 hnormal).1⟩
    · rw [List.forall₂_map_right_iff, List.forall₂_same]
      exact hkept

omit [SerdeJson] [Chrono] in
theorem oneInstant_roundTrips : @Chrono.RoundTrips oneInstant := by
  intro s t h
  have ht : t = anInstant := by
    have hread : (if s = "2024-08-19T03:33:54+00:00" then some anInstant else none) = some t := h
    split at hread
    · exact (Option.some.inj hread).symm
    · cases hread
  rw [ht]
  rfl

/-- An analysis of version 1 at some time. -/
def v1Analysis (events : List Json) : Json :=
  .obj [("timestamp", .str "2024-08-19T03:33:54+00:00"), ("events", .arr events)]

/-- A report of version 1: a row of two analyses, of which the second found something. -/
def twoAnalyses : List String := [
  jsonText.toString (.obj [("analyzers", .arr []), ("report_version", .int 1)]),
  jsonText.toString (.obj [("timestamp", .str "2024-08-19T03:33:54+00:00"),
    ("skipped_message_reasons", .arr []),
    ("analysis", .arr [v1Analysis [.null],
      v1Analysis [.obj [
        ("event_type", .obj [("type", .str "QualitativeWarning"), ("severity", .str "High")]),
        ("message", .str "IMSI requested")]]])])]

omit [SerdeJson] [Chrono] in
theorem normalize_keeps_iff_twoAnalyses :
    let _ := jsonText
    let _ := oneInstant
    let _ := deviceBuild
    (greatestSeverity ((rowLines (normalizedLines twoAnalyses)).flatMap lineEvents) =
        greatestSeverity ((rowLines twoAnalyses).flatMap lineEvents) ∧
      List.Forall₂ (fun line line' =>
          (findings (lineEvents line)).Sublist (findings (lineEvents line')))
        (rowLines twoAnalyses) (rowLines (normalizedLines twoAnalyses)) ∧
      normalizedLines (normalizedLines twoAnalyses) = normalizedLines twoAnalyses) ↔
    ∀ line ∈ rowLines twoAnalyses, ∀ e ∈ laterEvents line, e.eventType = .informational := by
  let _ := jsonText
  let _ := oneInstant
  let _ := deviceBuild
  exact normalize_keeps_iff jsonText_lawful oneInstant_roundTrips twoAnalyses

/-- What is in its row. -/
def twoAnalysesRow : List (String × Json) :=
  [("timestamp", .str "2024-08-19T03:33:54+00:00"), ("skipped_message_reasons", .arr []),
    ("analysis", .arr [v1Analysis [.null],
      v1Analysis [.obj [
        ("event_type", .obj [("type", .str "QualitativeWarning"), ("severity", .str "High")]),
        ("message", .str "IMSI requested")]]])]

omit [SerdeJson] [Chrono] in
theorem toString_obj_ne_empty (ms : List (String × Json)) :
    (jsonText.toString (.obj ms) ≠ "") = True := by
  refine eq_true fun hempty => ?_
  have hfirst := (JsonText.print_obj_ends ms).1
  rw [String.ofList_eq_empty_iff.1 hempty] at hfirst
  cases hfirst

omit [SerdeJson] [Chrono] in
theorem rowLines_twoAnalyses :
    rowLines twoAnalyses = [jsonText.toString (.obj twoAnalysesRow)] := by
  simp only [rowLines, twoAnalyses, List.filter_cons, toString_obj_ne_empty, decide_true, if_true,
    List.filter_nil, List.tail_cons, twoAnalysesRow]

omit [SerdeJson] [Chrono] in
theorem fromStr_twoAnalyses :
    jsonText.fromStr (jsonText.toString (.obj twoAnalysesRow)) = some (.obj twoAnalysesRow) := by
  refine jsonText_fromStr_obj ?_
  rw [show JsonText.maxDepth = 121 + 1 + 1 + 1 + 1 + 1 + 1 from rfl]
  simp [twoAnalysesRow, v1Analysis, JsonText.PlainAt]

omit [SerdeJson] [Chrono] in
theorem rowEvents_twoAnalyses :
    @rowEvents jsonText oneInstant (.obj twoAnalysesRow) = [⟨.high, "IMSI requested"⟩] ∧
      @laterRowEvents oneInstant (.obj twoAnalysesRow) = [⟨.high, "IMSI requested"⟩] := by
  decide

/-- A row whose events are all in its later analyses has none of them when it is normalized. -/
theorem lineEvents_of_fromStr (hs : SerdeJson.Lawful) (hc : Chrono.RoundTrips) {line : String}
    {j : Json} (hread : SerdeJson.fromStr line = some j) (h : laterRowEvents j = rowEvents j) :
    lineEvents line = rowEvents j ∧ lineEvents (normalizeRow line) = [] := by
  have hall : lineEvents line = rowEvents j := by rw [lineEvents, hread]
  have hlater : laterEvents line = rowEvents j := by rw [laterEvents, hread, ← h]
  have hsplit := lineEvents_eq hs hc line
  rw [hall, hlater] at hsplit
  exact ⟨hall, List.append_left_eq_self.1 hsplit.symm⟩

omit [SerdeJson] [Chrono] in
theorem lineEvents_twoAnalyses :
    @lineEvents jsonText oneInstant (jsonText.toString (.obj twoAnalysesRow)) =
        [⟨.high, "IMSI requested"⟩] ∧
      @lineEvents jsonText oneInstant (@normalizeRow jsonText oneInstant
        (jsonText.toString (.obj twoAnalysesRow))) = [] := by
  have hboth := @lineEvents_of_fromStr jsonText oneInstant (@jsonText_lawful oneInstant)
    oneInstant_roundTrips _ _ fromStr_twoAnalyses
    (rowEvents_twoAnalyses.2.trans rowEvents_twoAnalyses.1.symm)
  exact ⟨hboth.1.trans rowEvents_twoAnalyses.1, hboth.2⟩

omit [SerdeJson] [Chrono] in
/-- What the second analysis found is not in the normalized report. -/
theorem later_analysis_lost :
    let _ := jsonText
    let _ := oneInstant
    let _ := deviceBuild
    greatestSeverity ((rowLines twoAnalyses).flatMap lineEvents) = .high ∧
      greatestSeverity ((rowLines (normalizedLines twoAnalyses)).flatMap lineEvents) =
        .informational := by
  have hrows := @rowLines_normalizedLines jsonText oneInstant deviceBuild (@jsonText_lawful oneInstant)
    twoAnalyses
  rw [rowLines_twoAnalyses, List.map_singleton] at hrows
  dsimp only
  rw [hrows, rowLines_twoAnalyses, List.flatMap_singleton, List.flatMap_singleton,
    lineEvents_twoAnalyses.1, lineEvents_twoAnalyses.2]
  exact ⟨by decide, by decide⟩

end Rayhunter
