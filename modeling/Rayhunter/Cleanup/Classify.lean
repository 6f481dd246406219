import Rayhunter.Analysis.Serde

/-!
# Reading a report line for pruning

`classify_line` of `daemon/src/cleanup.rs`, the pruner's own reader of a report line, against
`AnalysisRow`, the reader of everything else. The pruner's reader knows one shape of a finding, an
object with a severity's name in an `events` array at the top of the line; the row reader takes
version 1 lines, events of the older form, and sequences in place of objects too.
-/

namespace Rayhunter

/-- `Verdict` (`cleanup.rs:19`). -/
inductive Verdict
  | clean
  | hasWarnings
  | unknown
  deriving DecidableEq, Repr

/-- `LineClass` (`cleanup.rs:32`). -/
inductive LineClass
  | warning
  | noWarning
  | malformed
  deriving DecidableEq, Repr

/-- The test `classify_line` puts to one event. -/
def eventWarns (event : Json) : Bool :=
  ((event.get "event_type").bind Json.asStr).any (· ≠ "Informational")

/-- `has_warning` of `classify_line` (`cleanup.rs:60`). -/
def valueWarns (value : Json) : Bool :=
  ((value.get "events").bind Json.asArray).any fun events => events.any eventWarns

/-- `classify_line` (`cleanup.rs:52`). -/
def classifyLine [SerdeJson] (line : String) : LineClass :=
  let trimmed := Text.trim line
  if trimmed = "" then .noWarning
  else
    match SerdeJson.fromStr trimmed with
    | none => .malformed
    | some value => if valueWarns value then .warning else .noWarning

/-! ## The shape the pruner's reader knows -/

/-- An object whose `event_type`, the last one where it is repeated, is the name of something other
than the lowest severity. -/
def NamesSeverity (event : Json) : Prop :=
  ∃ ms t, event = .obj ms ∧ Json.lookup "event_type" ms = some (.str t) ∧ t ≠ "Informational"

/-- An object with such an event in its `events` array. -/
def NamesWarning (value : Json) : Prop :=
  ∃ ms events, value = .obj ms ∧ Json.lookup "events" ms = some (.arr events) ∧
    ∃ event ∈ events, NamesSeverity event

theorem eventWarns_iff {event : Json} : eventWarns event = true ↔ NamesSeverity event := by
  rw [eventWarns, Option.any_eq_true]
  constructor
  · rintro ⟨t, ht, hne⟩
    obtain ⟨v, hv, hs⟩ := Option.bind_eq_some_iff.1 ht
    cases event with
    | obj ms => exact ⟨ms, t, rfl, by rw [← Json.asStr_eq_some hs]; exact hv, by simpa using hne⟩
    | _ => simp [Json.get] at hv
  · rintro ⟨ms, t, rfl, ht, hne⟩
    exact ⟨t, by simp [ht], by simpa using hne⟩

theorem valueWarns_iff {value : Json} : valueWarns value = true ↔ NamesWarning value := by
  rw [valueWarns, Option.any_eq_true]
  constructor
  · rintro ⟨events, he, hany⟩
    obtain ⟨v, hv, ha⟩ := Option.bind_eq_some_iff.1 he
    obtain ⟨event, hmem, hw⟩ := List.any_eq_true.1 hany
    cases value with
    | obj ms =>
      exact ⟨ms, events, rfl, by rw [← Json.asArray_eq_some ha]; exact hv, event, hmem,
        eventWarns_iff.1 hw⟩
    | _ => simp [Json.get] at hv
  · rintro ⟨ms, events, rfl, he, event, hmem, hw⟩
    exact ⟨events, by simp [he], List.any_eq_true.2 ⟨event, hmem, eventWarns_iff.2 hw⟩⟩

section
variable [SerdeJson] [Chrono]

/-- How a line that holds a value is classified. -/
theorem classifyLine_of_fromStr (hs : SerdeJson.Lawful) {line : String} {j : Json}
    (h : SerdeJson.fromStr line = some j) :
    classifyLine line = if valueWarns j then .warning else .noWarning := by
  have htrim := hs.fromStr_trim h
  have hne : Text.trim line ≠ "" := by
    intro he
    rw [he, hs.fromStr_empty] at htrim
    cases htrim
  simp only [classifyLine, if_neg hne, htrim]

/-! ## Rows in the current form -/

/-- A row written as the code writes rows now: an object that is no version 1 line, its events
nothing or objects with a severity's name. -/
def CurrentForm (j : Json) : Prop :=
  V1Format.deserialize j = none ∧ ∃ ms, j = .obj ms ∧
    ∀ events, Json.lookup "events" ms = some (.arr events) → ∀ event ∈ events,
      event = .null ∨ ∃ fs t, event = .obj fs ∧ Json.lookup "event_type" fs = some (.str t)

omit [SerdeJson] [Chrono] in
/-- An event that is read from an object with a severity's name names its own severity. -/
theorem namesSeverity_of_deserialize {fs : List (String × Json)} {t : String} {e : Event}
    (ht : Json.lookup "event_type" fs = some (.str t))
    (h : Event.deserialize (.obj fs) = some e) (he : e.eventType ≠ .informational) :
    NamesSeverity (.obj fs) := by
  refine ⟨fs, t, rfl, ht, ?_⟩
  rintro rfl
  rw [Event.deserialize] at h
  split at h
  · next ty m hty hm =>
    cases h
    obtain ⟨v, hv, hd⟩ := lookup_of_required hty
    rw [ht] at hv
    cases hv
    simp only [EventType.deserialize, if_true, Option.some.injEq] at hd
    exact he hd.symm
  · cases h

/-- A warning in a row of the current form is one the pruner's reader knows. -/
theorem namesWarning_of_currentForm {j : Json} {row : AnalysisRow} (hj : CurrentForm j)
    (hrow : AnalysisRow.deserialize j = some row) (hw : row.containsWarnings = true) :
    NamesWarning j := by
  obtain ⟨hv1, ms, rfl, hform⟩ := hj
  rw [AnalysisRow.deserialize, hv1, V2Format.deserialize] at hrow
  simp only at hrow
  split at hrow
  · next n t r es _ _ _ hes =>
    cases hrow
    obtain ⟨v, hv, hde⟩ := lookup_of_required hes
    cases v with
    | arr events =>
      obtain ⟨ty, hmem, hne⟩ := AnalysisRow.containsWarnings_iff.1 hw
      obtain ⟨e, hes', rfl⟩ := AnalysisRow.mem_severities.1 hmem
      obtain ⟨x, hx, hfx⟩ := exists_of_mem_mapM hde hes'
      refine ⟨ms, events, rfl, hv, x, hx, ?_⟩
      rcases hform events hv x hx with rfl | ⟨fs, s, rfl, hs⟩
      · cases hfx
      · simp only [deOption, Option.map_eq_some_iff, Option.some.injEq, exists_eq_right] at hfx
        exact namesSeverity_of_deserialize hs hfx hne
    | _ => simp [deEvents, deVec] at hde
  · cases hrow

omit [SerdeJson] in
/-- The code writes rows in the current form. -/
theorem currentForm_toJson (row : AnalysisRow) : CurrentForm row.toJson := by
  obtain ⟨ms, hms, hes, -⟩ := lookup_events_toJson row
  refine ⟨v1_toJson row, ms, hms, fun events hev event hmem => ?_⟩
  rw [hes] at hev
  cases hev
  obtain ⟨e, -, rfl⟩ := List.mem_map.1 hmem
  cases e with
  | none => exact .inl rfl
  | some e => exact .inr ⟨_, e.eventType.name, rfl, rfl⟩

omit [SerdeJson] in
/-- A row with a warning is written so that the pruner's reader knows it. -/
theorem namesWarning_toJson {row : AnalysisRow} (hw : row.containsWarnings = true) :
    NamesWarning row.toJson := by
  obtain ⟨t, ht, hne⟩ := AnalysisRow.containsWarnings_iff.1 hw
  obtain ⟨e, he, rfl⟩ := AnalysisRow.mem_severities.1 ht
  obtain ⟨ms, hms, hes, -⟩ := lookup_events_toJson row
  refine ⟨ms, _, hms, hes, e.toJson, ?_, _, e.eventType.name, rfl, rfl, ?_⟩
  · exact List.mem_map.2 ⟨some e, he, rfl⟩
  · cases h : e.eventType with
    | informational => exact absurd h hne
    | _ => decide

/-- The line of a row with a warning is a warning. -/
theorem classifyLine_row (hs : SerdeJson.Lawful) {row : AnalysisRow}
    (hn : ∀ n ∈ row.packetNum, n < 2 ^ 64) (hw : row.containsWarnings = true) :
    classifyLine (SerdeJson.toString row.toJson) = .warning := by
  rw [classifyLine_of_fromStr hs (hs.fromStr_toString (.row row hn)),
    if_pos (valueWarns_iff.2 (namesWarning_toJson hw))]

/-! ## Where the two readers agree -/

/-- **The two readers agree exactly on the shape the pruner's knows.** A line that the row reader
takes as a row with a warning is told from a clean one if and only if it names a severity above the
lowest in an `events` array at its top. Every such row in the current form does. -/
theorem classifyLine_ne_noWarning_iff (hs : SerdeJson.Lawful) {line : String} {row : AnalysisRow}
    (hrow : AnalysisRow.fromStr line = some row) (hw : row.containsWarnings = true) :
    (classifyLine line ≠ .noWarning ↔ ∃ j, SerdeJson.fromStr line = some j ∧ NamesWarning j) ∧
      ∀ j, SerdeJson.fromStr line = some j → CurrentForm j → classifyLine line = .warning := by
  obtain ⟨j, hj, hde⟩ := Option.bind_eq_some_iff.1 hrow
  rw [classifyLine_of_fromStr hs hj]
  refine ⟨⟨fun h => ⟨j, hj, valueWarns_iff.1 ?_⟩, ?_⟩, ?_⟩
  · by_contra hf
    exact h (by rw [if_neg hf])
  · rintro ⟨j', hj', hn⟩
    rw [hj] at hj'
    cases hj'
    rw [if_pos (valueWarns_iff.2 hn)]
    decide
  · intro j' hj' hform
    rw [hj] at hj'
    cases hj'
    rw [if_pos (valueWarns_iff.2 (namesWarning_of_currentForm hform hde hw))]

end

/-! ## A line where they do not -/

/-- A version 1 line with a detection of high severity. -/
def v1Line : Json :=
  .obj [("timestamp", .str "2024-08-19T03:33:54+00:00"),
    ("skipped_message_reasons", .arr []),
    ("analysis", .arr [.obj [("timestamp", .str "2024-08-19T03:33:54+00:00"),
      ("events", .arr [.obj [
        ("event_type", .obj [("type", .str "QualitativeWarning"), ("severity", .str "High")]),
        ("message", .str "IMSI requested")]])]])]

/-- The text of the line is read as the line. -/
theorem fromStr_v1Line :
    jsonText.fromStr (String.ofList (JsonText.print v1Line)) = some v1Line := by
  have hplain : ∀ d, JsonText.PlainAt (d + 6) v1Line := by
    intro d
    simp [v1Line, JsonText.PlainAt]
  exact jsonText_fromStr_obj (hplain 121)

/-- A detection in a version 1 line reads as nothing found. -/
theorem classifyLine_misses_v1_finding :
    ¬ ∀ line row, @AnalysisRow.fromStr jsonText oneInstant line = some row →
      row.containsWarnings = true → @classifyLine jsonText line ≠ .noWarning := by
  let _ := jsonText
  let _ := oneInstant
  intro h
  refine h (String.ofList (JsonText.print v1Line))
    ⟨none, some anInstant, none, [some ⟨.high, "IMSI requested"⟩]⟩ ?_ ?_ ?_
  · rw [AnalysisRow.fromStr, fromStr_v1Line]
    decide
  · decide
  · rw [classifyLine_of_fromStr jsonText_lawful fromStr_v1Line]
    decide

/-- A row in the current form is recognised. -/
theorem classifyLine_ne_noWarning_iff_row :
    let row : AnalysisRow := ⟨some 7, none, none, [none, some ⟨.low, "IMSI requested"⟩]⟩
    @classifyLine jsonText (String.ofList (JsonText.print (@AnalysisRow.toJson oneInstant row))) =
      .warning := by
  let _ := jsonText
  let _ := oneInstant
  intro row
  have hread : SerdeJson.fromStr (String.ofList (JsonText.print row.toJson)) = some row.toJson :=
    jsonText_lawful.fromStr_toString (.row row (by decide))
  have hrow : AnalysisRow.fromStr (String.ofList (JsonText.print row.toJson)) = some row := by
    rw [AnalysisRow.fromStr, hread]
    decide
  exact (classifyLine_ne_noWarning_iff jsonText_lawful hrow (by decide)).2 _ hread
    (currentForm_toJson row)

end Rayhunter
