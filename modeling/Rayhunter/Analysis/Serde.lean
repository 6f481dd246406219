import Rayhunter.Analysis.Event
import Rayhunter.Lib.JsonText

/-!
# Report rows as JSON

How `serde` writes the report types of `analyzer.rs` and how it reads rows back. Writing is the
derived `Serialize`. Reading is the hand-written `Deserialize` of `EventType` (`analyzer.rs:88`)
and `AnalysisRow` (`analyzer.rs:318`) over derived ones: a derived struct is read from a map, each
of its fields written at most once and unknown keys passed over, or from a sequence of exactly its
fields; an untagged enum takes the first form that fits; the old event type is internally tagged,
its tag written as a name or as the variant's index.
-/

namespace Rayhunter

variable [SerdeJson] [Chrono]

/-! ## Writing -/

/-- The name a severity is written as. -/
def EventType.name : EventType → String
  | .informational => "Informational"
  | .low => "Low"
  | .medium => "Medium"
  | .high => "High"

/-- A value written as `null` where it is missing. -/
def optionToJson {α : Type} (f : α → Json) : Option α → Json
  | none => .null
  | some a => f a

def Event.toJson (e : Event) : Json :=
  .obj [("event_type", .str e.eventType.name), ("message", .str e.message)]

/-- `AnalysisRow: Serialize`; a missing packet number is left out. -/
def AnalysisRow.toJson (row : AnalysisRow) : Json :=
  .obj ((match row.packetNum with
      | none => []
      | some n => [("packet_num", .int n)]) ++
    [("packet_timestamp", optionToJson (fun t => .str (Chrono.formatDateTime t))
        row.packetTimestamp),
      ("skipped_message_reason", optionToJson .str row.skippedMessageReason),
      ("events", .arr (row.events.map (optionToJson Event.toJson)))])

def AnalyzerMetadata.toJson (m : AnalyzerMetadata) : Json :=
  .obj [("name", .str m.name), ("description", .str m.description), ("version", .int m.version)]

def RuntimeMetadata.toJson (m : RuntimeMetadata) : Json :=
  .obj [("rayhunter_version", .str m.rayhunterVersion), ("system_os", .str m.systemOs),
    ("arch", .str m.arch)]

/-- `ReportMetadata: Serialize`. -/
def ReportMetadata.toJson (m : ReportMetadata) : Json :=
  .obj [("analyzers", .arr (m.analyzers.map AnalyzerMetadata.toJson)),
    ("rayhunter", m.rayhunter.toJson), ("report_version", .int m.reportVersion)]

/-! ## Reading derived types -/

/-- A field of a derived struct read from a map: refused where it is written twice. -/
def field (ms : List (String × Json)) (key : String) : Option (Option Json) :=
  match Json.occurrences key ms with
  | [] => some none
  | [v] => some (some v)
  | _ => none

/-- A field that must be there. -/
def required {α : Type} (f : Json → Option α) (ms : List (String × Json)) (key : String) :
    Option α :=
  match field ms key with
  | some (some v) => f v
  | _ => none

def deString : Json → Option String
  | .str s => some s
  | _ => none

def deUsize : Json → Option Nat
  | .int n => if 0 ≤ n ∧ n ≤ SerdeJson.usizeMax then some n.toNat else none
  | _ => none

def deDateTime : Json → Option DateTime
  | .str s => Chrono.parseDateTime s
  | _ => none

def deOption {α : Type} (f : Json → Option α) : Json → Option (Option α)
  | .null => some none
  | j => (f j).map some

def deVec {α : Type} (f : Json → Option α) : Json → Option (List α)
  | .arr xs => xs.mapM f
  | _ => none

/-- A field that may be left out: an `Option`, or one with `#[serde(default)]`. -/
def optional {α : Type} (f : Json → Option α) (ms : List (String × Json)) (key : String) :
    Option (Option α) :=
  match field ms key with
  | some (some v) => deOption f v
  | some none => some none
  | none => none

/-! ## Events -/

/-- `OldEventType` (`analyzer.rs:95`), the form events had before the severities were plain
names. -/
inductive OldEventType
  | qualitativeWarning (severity : String)
  | informational

/-- The tag of `OldEventType`, by name or by index; `true` is `QualitativeWarning`. -/
def oldEventTag : Json → Option Bool
  | .str s =>
    if s = "QualitativeWarning" then some true
    else if s = "Informational" then some false
    else none
  | .int n => if n = 0 then some true else if n = 1 then some false else none
  | _ => none

/-- What stands beside the tag of `OldEventType`. -/
def oldEventVariant : Bool → Json → Option OldEventType
  | true, .obj ms => (required deString ms "severity").map .qualitativeWarning
  | true, .arr [s] => (deString s).map .qualitativeWarning
  | false, .obj _ => some .informational
  | false, .arr [] => some .informational
  | _, _ => none

def OldEventType.deserialize : Json → Option OldEventType
  | .obj ms =>
    (required oldEventTag ms "type").bind fun tag =>
      oldEventVariant tag (.obj (ms.filter fun m => m.1 ≠ "type"))
  | .arr (tag :: rest) => (oldEventTag tag).bind fun tag => oldEventVariant tag (.arr rest)
  | _ => none

/-- `EventType: Deserialize` (`analyzer.rs:88`). -/
def EventType.deserialize : Json → Option EventType
  | .str s =>
    if s = "Informational" then some .informational
    else if s = "Low" then some .low
    else if s = "Medium" then some .medium
    else if s = "High" then some .high
    else none
  | j =>
    match OldEventType.deserialize j with
    | some .informational => some .informational
    | some (.qualitativeWarning severity) =>
      if severity = "Low" then some .low
      else if severity = "Medium" then some .medium
      else if severity = "High" then some .high
      else none
    | none => none

/-- The derived `Event: Deserialize`. -/
def Event.deserialize : Json → Option Event
  | .obj ms =>
    match required EventType.deserialize ms "event_type", required deString ms "message" with
    | some t, some m => some ⟨t, m⟩
    | _, _ => none
  | .arr [t, m] =>
    match EventType.deserialize t, deString m with
    | some t, some m => some ⟨t, m⟩
    | _, _ => none
  | _ => none

/-! ## Rows -/

/-- `V1AnalysisEntry` (`analyzer.rs:326`). -/
structure V1AnalysisEntry where
  timestamp : DateTime
  events : List (Option Event)

/-- `V1Format` (`analyzer.rs:332`). -/
structure V1Format where
  timestamp : DateTime
  skippedMessageReasons : List String
  analysis : List V1AnalysisEntry

def deEvents : Json → Option (List (Option Event)) := deVec (deOption Event.deserialize)

def V1AnalysisEntry.deserialize : Json → Option V1AnalysisEntry
  | .obj ms =>
    match required deDateTime ms "timestamp", required deEvents ms "events" with
    | some t, some es => some ⟨t, es⟩
    | _, _ => none
  | .arr [t, es] =>
    match deDateTime t, deEvents es with
    | some t, some es => some ⟨t, es⟩
    | _, _ => none
  | _ => none

def V1Format.deserialize : Json → Option V1Format
  | .obj ms =>
    match required deDateTime ms "timestamp",
      required (deVec deString) ms "skipped_message_reasons",
      required (deVec V1AnalysisEntry.deserialize) ms "analysis" with
    | some t, some rs, some as => some ⟨t, rs, as⟩
    | _, _, _ => none
  | .arr [t, rs, as] =>
    match deDateTime t, deVec deString rs, deVec V1AnalysisEntry.deserialize as with
    | some t, some rs, some as => some ⟨t, rs, as⟩
    | _, _, _ => none
  | _ => none

/-- `V2Format` (`analyzer.rs:339`), read as the row it becomes. -/
def V2Format.deserialize : Json → Option AnalysisRow
  | .obj ms =>
    match optional deUsize ms "packet_num", optional deDateTime ms "packet_timestamp",
      optional deString ms "skipped_message_reason", required deEvents ms "events" with
    | some n, some t, some r, some es => some ⟨n, t, r, es⟩
    | _, _, _, _ => none
  | .arr [n, t, r, es] =>
    match deOption deUsize n, deOption deDateTime t, deOption deString r, deEvents es with
    | some n, some t, some r, some es => some ⟨n, t, r, es⟩
    | _, _, _, _ => none
  | _ => none

/-- The row a version 1 line becomes: its first analysis, else its first skipped message. -/
def AnalysisRow.ofV1 (v1 : V1Format) : Option AnalysisRow :=
  match v1.analysis, v1.skippedMessageReasons with
  | first :: _, _ => some ⟨none, some first.timestamp, none, first.events⟩
  | [], reason :: _ => some ⟨none, some v1.timestamp, some reason, []⟩
  | [], [] => none

/-- `AnalysisRow: Deserialize` (`analyzer.rs:318`). -/
def AnalysisRow.deserialize (j : Json) : Option AnalysisRow :=
  match V1Format.deserialize j with
  | some v1 => AnalysisRow.ofV1 v1
  | none => V2Format.deserialize j

/-- `serde_json::from_str::<AnalysisRow>`. -/
def AnalysisRow.fromStr (line : String) : Option AnalysisRow :=
  (SerdeJson.fromStr line).bind AnalysisRow.deserialize

/-! ## Members of what was read -/

omit [SerdeJson] [Chrono] in
/-- A field that is read is the one value under its key. -/
theorem lookup_of_required {α : Type} {f : Json → Option α} {ms : List (String × Json)}
    {key : String} {a : α} (h : required f ms key = some a) :
    ∃ v, Json.lookup key ms = some v ∧ f v = some a := by
  unfold required field at h
  rw [Json.lookup_eq_getLast?]
  split at h
  · next v hv =>
    split at hv
    · cases hv
    · next w hw =>
      obtain rfl : w = v := by simpa using hv
      exact ⟨w, by rw [hw]; rfl, h⟩
    · cases hv
  · cases h

omit [SerdeJson] [Chrono] in
/-- Every element that is read comes from one that is written. -/
theorem exists_of_mem_mapM {α β : Type} {f : α → Option β} {xs : List α} {ys : List β}
    (h : xs.mapM f = some ys) {y : β} (hy : y ∈ ys) : ∃ x ∈ xs, f x = some y := by
  induction xs generalizing ys with
  | nil => simp only [List.mapM_nil, Option.pure_def, Option.some.injEq] at h; subst h; cases hy
  | cons x xs ih =>
    simp only [List.mapM_cons, Option.pure_def, Option.bind_eq_bind, Option.bind_eq_some_iff,
      Option.some.injEq] at h
    obtain ⟨z, hz, zs, hzs, rfl⟩ := h
    rcases List.mem_cons.1 hy with rfl | hy
    · exact ⟨x, by simp, hz⟩
    · obtain ⟨w, hw, hfw⟩ := ih hzs hy
      exact ⟨w, by simp [hw], hfw⟩

omit [SerdeJson] in
/-- The events of a row are written under their key. -/
theorem lookup_events_toJson (row : AnalysisRow) : ∃ ms, row.toJson = .obj ms ∧
    Json.lookup "events" ms = some (.arr (row.events.map (optionToJson Event.toJson))) ∧
    Json.lookup "timestamp" ms = none := by
  obtain ⟨n, t, r, es⟩ := row
  refine ⟨_, rfl, ?_, ?_⟩ <;> cases n <;> rfl

omit [SerdeJson] in
/-- A row as the code writes rows now is no version 1 line. -/
theorem v1_toJson (row : AnalysisRow) : V1Format.deserialize row.toJson = none := by
  obtain ⟨ms, hms, -, hts⟩ := lookup_events_toJson row
  rw [hms, V1Format.deserialize]
  split
  · next t _ _ ht _ _ =>
    obtain ⟨v, hv, -⟩ := lookup_of_required ht
    rw [hts] at hv
    cases hv
  · rfl

/-! ## Reading what was written -/

omit [SerdeJson] [Chrono] in
/-- What is read from what is written, element by element. -/
theorem mapM_map {α β : Type} {f : β → Option α} {g : α → β} {xs : List α}
    (h : ∀ a ∈ xs, f (g a) = some a) : (xs.map g).mapM f = some xs := by
  induction xs with
  | nil => rfl
  | cons x xs ih => simp [h x, ih fun a ha => h a (by simp [ha])]

omit [SerdeJson] [Chrono] in
/-- An event is read as it was written. -/
theorem Event.deserialize_toJson (e : Event) : Event.deserialize e.toJson = some e := by
  obtain ⟨t, m⟩ := e
  cases t <;> rfl

omit [SerdeJson] [Chrono] in
theorem deEvents_toJson (es : List (Option Event)) :
    deEvents (.arr (es.map (optionToJson Event.toJson))) = some es := by
  refine mapM_map fun e _ => ?_
  cases e with
  | none => rfl
  | some e =>
    show (Event.deserialize e.toJson).map some = some (some e)
    rw [e.deserialize_toJson]
    rfl

/-- The fields of a row in an object. -/
theorem V2Format.deserialize_obj {ms : List (String × Json)} {row : AnalysisRow}
    (h : V2Format.deserialize (.obj ms) = some row) :
    optional deUsize ms "packet_num" = some row.packetNum ∧
      required deEvents ms "events" = some row.events := by
  rw [V2Format.deserialize] at h
  split at h
  · next hn _ _ hes =>
    cases h
    exact ⟨hn, hes⟩
  · cases h

/-- A packet number is read as it was written. -/
theorem packetNum_toJson {row : AnalysisRow} {ms : List (String × Json)}
    {n : Option Nat} (hms : row.toJson = .obj ms) (h : optional deUsize ms "packet_num" = some n) :
    n = row.packetNum := by
  obtain ⟨m, t, r, es⟩ := row
  cases hms
  cases m with
  | none => exact (Option.some.inj h).symm
  | some m =>
    have hde : (deUsize (.int m)).map some = some n := h
    rw [deUsize] at hde
    split at hde
    · exact (Option.some.inj hde).symm
    · cases hde

/-- A row that is read back has the number and the events it was written with. -/
theorem AnalysisRow.deserialize_toJson {row row' : AnalysisRow}
    (h : AnalysisRow.deserialize row.toJson = some row') :
    row'.packetNum = row.packetNum ∧ row'.events = row.events := by
  rw [AnalysisRow.deserialize, v1_toJson] at h
  obtain ⟨ms, hms, hes, -⟩ := lookup_events_toJson row
  rw [hms] at h
  obtain ⟨hn, hread⟩ := V2Format.deserialize_obj h
  refine ⟨packetNum_toJson hms hn, ?_⟩
  obtain ⟨v, hv, hde⟩ := lookup_of_required hread
  rw [hes] at hv
  cases hv
  rw [deEvents_toJson] at hde
  exact (Option.some.inj hde).symm

/-! ## What the rules for `serde` say about report lines -/

/-- The values the code writes to a report; their numbers are machine words. -/
inductive ReportValue : Json → Prop
  | metadata (m : ReportMetadata) (hv : m.reportVersion < 2 ^ 32)
      (ha : ∀ a ∈ m.analyzers, a.version < 2 ^ 32) : ReportValue m.toJson
  | row (row : AnalysisRow) (hn : ∀ n ∈ row.packetNum, n < 2 ^ 64) : ReportValue row.toJson

/-- What is taken from `serde_json`: white space around a value does not matter, the empty text is
no value, and a report value is written on one line, without white space around it, and is read
back as it was; and a `usize` has at most 64 bits. -/
structure SerdeJson.Lawful : Prop where
  fromStr_trim {s : String} {j : Json} :
    SerdeJson.fromStr s = some j → SerdeJson.fromStr (Text.trim s) = some j
  fromStr_empty : SerdeJson.fromStr "" = none
  usizeMax_lt : SerdeJson.usizeMax < 2 ^ 64
  fromStr_toString {j : Json} : ReportValue j → SerdeJson.fromStr (SerdeJson.toString j) = some j
  trim_toString {j : Json} : ReportValue j →
    Text.trim (SerdeJson.toString j) = SerdeJson.toString j
  isLine_toString {j : Json} : ReportValue j → Text.IsLine (SerdeJson.toString j)

/-- A report value is no empty line. -/
theorem SerdeJson.Lawful.toString_ne_empty (hs : SerdeJson.Lawful) {j : Json}
    (h : ReportValue j) : SerdeJson.toString j ≠ "" := by
  intro he
  have hread := hs.fromStr_toString h
  rw [he, hs.fromStr_empty] at hread
  cases hread

/-! ## Report lines as JSON text -/

/-- `serde_json` as the reader and the writer of `Rayhunter.Lib.JsonText`, on a device with words of
32 bits. -/
@[reducible] def jsonText : SerdeJson where
  fromStr s := JsonText.parse (Text.trim s).toList
  toString j := String.ofList (JsonText.print j)
  usizeMax := 2 ^ 32 - 1

omit [SerdeJson] in
/-- A report value is an object of the kind whose text is read back. -/
theorem ReportValue.plainAt {j : Json} (h : ReportValue j) :
    JsonText.PlainAt JsonText.maxDepth j ∧ ∃ ms, j = .obj ms := by
  have hint : ∀ {d n : Nat}, n < 2 ^ 64 → JsonText.PlainAt d (.int n) := by
    intro d n hn
    cases d <;> exact ⟨by omega, by omega⟩
  have hstr : ∀ {d s}, JsonText.PlainAt d (.str s) := by intro d s; cases d <;> trivial
  have hnull : ∀ {d}, JsonText.PlainAt d .null := by intro d; cases d <;> trivial
  have hdepth : JsonText.maxDepth = 124 + 1 + 1 + 1 := rfl
  cases h with
  | metadata m hv ha =>
    refine ⟨?_, _, rfl⟩
    rw [hdepth, ReportMetadata.toJson]
    intro x hx
    simp only [List.mem_cons, List.not_mem_nil, or_false] at hx
    rcases hx with rfl | rfl | rfl
    · intro y hy
      obtain ⟨a, hmem, rfl⟩ := List.mem_map.1 hy
      have hav := ha a hmem
      intro z hz
      simp only [List.mem_cons, List.not_mem_nil, or_false] at hz
      rcases hz with rfl | rfl | rfl
      · exact hstr
      · exact hstr
      · exact hint (by omega)
    · intro z hz
      simp only [List.mem_cons, List.not_mem_nil, or_false] at hz
      rcases hz with rfl | rfl | rfl <;> exact hstr
    · exact hint (by omega)
  | row row hn =>
    refine ⟨?_, _, rfl⟩
    rw [hdepth, AnalysisRow.toJson]
    intro x hx
    simp only [List.mem_append, List.mem_cons, List.not_mem_nil, or_false] at hx
    rcases hx with hx | rfl | rfl | rfl
    · cases hp : row.packetNum with
      | none => rw [hp] at hx; cases hx
      | some n =>
        rw [hp] at hx hn
        simp only [List.mem_singleton] at hx
        subst hx
        exact hint (hn n rfl)
    · cases row.packetTimestamp with
      | none => exact hnull
      | some t => exact hstr
    · cases row.skippedMessageReason with
      | none => exact hnull
      | some r => exact hstr
    · intro y hy
      obtain ⟨e, -, rfl⟩ := List.mem_map.1 hy
      cases e with
      | none => exact hnull
      | some e =>
        intro z hz
        simp only [List.mem_cons, List.not_mem_nil, or_false] at hz
        rcases hz with rfl | rfl <;> exact hstr

omit [SerdeJson] [Chrono] in
/-- The text of an object has no white space at its ends. -/
theorem trim_print_obj (ms : List (String × Json)) :
    Text.trim (String.ofList (JsonText.print (.obj ms))) =
      String.ofList (JsonText.print (.obj ms)) := by
  obtain ⟨hh, hl⟩ := JsonText.print_obj_ends ms
  exact Text.trim_eq_self (by rwa [String.toList_ofList]) (by rwa [String.toList_ofList])
    (by decide) (by decide)

omit [SerdeJson] [Chrono] in
/-- The text of an object is read as the object. -/
theorem jsonText_fromStr_obj {ms : List (String × Json)}
    (h : JsonText.PlainAt JsonText.maxDepth (.obj ms)) :
    jsonText.fromStr (String.ofList (JsonText.print (.obj ms))) = some (.obj ms) := by
  show JsonText.parse (Text.trim (String.ofList (JsonText.print (.obj ms)))).toList = _
  rw [trim_print_obj, String.toList_ofList]
  exact JsonText.parse_print h

omit [SerdeJson] in
/-- The rules taken from `serde_json` hold of the reader and the writer of JSON text. -/
theorem jsonText_lawful : @SerdeJson.Lawful jsonText _ := by
  let _ := jsonText
  refine ⟨?_, ?_, by decide, ?_, ?_, ?_⟩
  · intro s j h
    show JsonText.parse (Text.trim (Text.trim s)).toList = some j
    rw [Text.trim_trim]
    exact h
  · show JsonText.parse (Text.trim "").toList = none
    rfl
  · intro j h
    obtain ⟨hp, ms, rfl⟩ := h.plainAt
    exact jsonText_fromStr_obj hp
  · intro j h
    obtain ⟨-, ms, rfl⟩ := h.plainAt
    exact trim_print_obj ms
  · intro j h
    have hmem := JsonText.le_toNat_of_mem_print h.plainAt.1
    show Text.IsLine (String.ofList (JsonText.print j))
    rw [Text.IsLine, String.toList_ofList]
    refine ⟨fun hnl => absurd (hmem _ hnl) (by decide), fun hcr => ?_⟩
    exact absurd (hmem _ (List.mem_of_getLast? hcr)) (by decide)

end Rayhunter
