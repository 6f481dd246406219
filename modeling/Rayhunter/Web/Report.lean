import Rayhunter.Analysis.Normalizer

/-!
# Reports on the page

The reader of reports of the web interface (`daemon/web/src/lib`): `parse_ndjson` (`ndjson.ts`) puts
the lines of a text together to JSON values, and `parse_finished_report` (`analysis.svelte.ts`) makes
a report of them, metadata first. A line that is no JSON is joined with those after it until the
whole is one, so a damaged line makes the reader refuse the report or costs it the lines it is
joined with, and no others (`findings_read`). A row cut short by a power loss makes it refuse
(`torn_row_refused`).
-/

namespace Rayhunter.Web

/-! ## JSON in the browser -/

open JsonText in
/-- A text with every escape of half a surrogate pair written as that of the replacement
character. The first argument is fuel. -/
def mend : Nat → List Char → List Char
  | 0, cs => cs
  | _ + 1, [] => []
  | n + 1, c :: cs =>
    if c ≠ backslash then c :: mend n cs
    else
      match cs with
      | [] => [c]
      | e :: cs =>
        match e, cs with
        | 'u', h₁ :: h₂ :: h₃ :: h₄ :: cs =>
          match hex4 h₁ h₂ h₃ h₄ with
          | none => c :: e :: mend n (h₁ :: h₂ :: h₃ :: h₄ :: cs)
          | some u =>
            if isHigh u ∧ (readLow u cs).isSome then
              c :: e :: h₁ :: h₂ :: h₃ :: h₄ :: (cs.take 6 ++ mend n (cs.drop 6))
            else if isHigh u ∨ isLow u then c :: e :: 'f' :: 'f' :: 'f' :: 'd' :: mend n cs
            else c :: e :: h₁ :: h₂ :: h₃ :: h₄ :: mend n cs
        | e, cs => c :: e :: mend n cs

/-- The value of a text for `JSON.parse`, which nests as deep as the text goes. -/
def parseDeep (cs : List Char) : Option Json := JsonText.parseTo (JsonText.maxDepth + cs.length) cs

/-- `JSON.parse`. Half a surrogate pair is a character to it, kept as the replacement character;
numbers are kept as they are written. -/
def jsonParse (text : String) : Option Json :=
  match parseDeep text.toList with
  | some j => some j
  | none => parseDeep (mend text.length text.toList)

/-- Whether the number a text writes is zero as a double: it is no more than half the smallest
one. -/
def isZero (text : String) : Bool :=
  let (int, cs) := JsonText.splitDigits (text.toList.dropWhile (· = '-'))
  let (frac, cs) :=
    match cs with
    | '.' :: cs => JsonText.splitDigits cs
    | cs => ([], cs)
  let exp : Int :=
    match cs with
    | _ :: '-' :: ds => -(Nat.ofDigitChars 10 ds 0 : Int)
    | _ :: '+' :: ds => Nat.ofDigitChars 10 ds 0
    | _ :: ds => Nat.ofDigitChars 10 ds 0
    | [] => 0
  let n := Nat.ofDigitChars 10 (int ++ frac) 0
  let e := exp - frac.length
  n = 0 || (e < 0 && n * 2 ^ 1075 ≤ 10 ^ (-e).toNat)

/-- Whether a value counts as true. -/
def truthy : Json → Bool
  | .null => false
  | .bool b => b
  | .int n => n ≠ 0
  | .float text => !isZero text
  | .str s => s ≠ ""
  | .arr _ | .obj _ => true

/-! ## The text of an answer -/

/-- The byte order mark. -/
def byteOrderMark : Char := Char.ofNat 0xFEFF

/-- A text without the byte order mark it starts with. -/
def withoutMark (s : String) : String :=
  if s.toList.head? = some byteOrderMark then String.ofList s.toList.tail else s

/-- What `response.text()` (`utils.svelte.ts:265`) makes of a body. -/
def responseText (body : String) : String := withoutMark body

/-- `parse_ndjson` (`ndjson.ts:3`); the error is what could not be read. -/
def parseNdjson (input : String) : Except String (List Json) :=
  Joining.readJoined jsonParse "" (Joining.split input)

/-! ## Reports -/

/-- Why there is no report: the answer ended in an error, the text is not `ndjson`, a property of
nothing was read, or an event is of no known type. -/
inductive ReportError
  | response
  | ndjson (currentLine : String)
  | typeError
  | eventType (type : Option Json)

/-- `ReportMetadata` (`analysis.svelte.ts:27`); a property that is not there is `none`. -/
structure ReportMetadata where
  analyzers : Option Json
  rayhunter : Option Json
  reportVersion : Json

/-- The constructor of `ReportMetadata`. -/
def ReportMetadata.new : Option Json → Except ReportError ReportMetadata
  | none | some .null => .error .typeError
  | some ndjson => .ok {
      analyzers := ndjson.get "analyzers"
      rayhunter := ndjson.get "rayhunter"
      reportVersion := ((ndjson.get "report_version").filter truthy).getD (.int 2) }

/-- `AnalysisRow` (`analysis.svelte.ts:51`). The number of a packet is one the JSON writes, its
timestamp what is handed to `Date`, its events as they are read. -/
inductive AnalysisRow
  | skipped (reason : Json)
  | analysis (packetNum : Option Json) (packetTimestamp : Option Json) (events : List Json)

/-- The type an event has, `EventType` (`analysis.svelte.ts:75`). -/
def eventType (event : Json) : Option EventType :=
  match event.get "event_type" with
  | some (.str s) => [EventType.informational, .low, .medium, .high].find? (·.name = s)
  | _ => none

/-- `get_event` (`analysis.svelte.ts:82`). -/
def getEvent (event : Json) : Except ReportError Json :=
  if (eventType event).isSome then .ok event else .error (.eventType (event.get "event_type"))

/-- What `get_rows` makes of an element of `events`. -/
def getEventOrNull : Json → Except ReportError Json
  | .null => .ok .null
  | event => getEvent event

/-- The events of a row. -/
def getEvents (row : Json) : Except ReportError (List Json) :=
  match row.get "events" with
  | none | some .null => .ok []
  | some (.arr events) => events.mapM getEventOrNull
  | some _ => .error .typeError

/-- The value is `null`. -/
def isNull : Json → Bool
  | .null => true
  | _ => false

/-- The value is a number. -/
def isNumber : Json → Bool
  | .int _ | .float _ => true
  | _ => false

/-- The row of a skipped packet. -/
def skippedRow (row : Json) : List AnalysisRow :=
  match row.get "skipped_message_reason" with
  | some reason => if truthy reason then [.skipped reason] else []
  | none => []

/-- The row of an analyzed packet. -/
def analysisRow (row : Json) (events : List Json) : List AnalysisRow :=
  if events.any (!isNull ·) then
    [.analysis ((row.get "packet_num").filter isNumber) (row.get "packet_timestamp") events]
  else []

/-- One turn of the loop of `get_rows`. -/
def getRow (row : Json) : Except ReportError (List AnalysisRow) :=
  if isNull row then .error .typeError
  else (getEvents row).map fun events => skippedRow row ++ analysisRow row events

/-- `get_rows` (`analysis.svelte.ts:90`). -/
def getRows (rows : List Json) : Except ReportError (List AnalysisRow) :=
  (rows.mapM getRow).map List.flatten

/-- `ReportStatistics` (`analysis.svelte.ts:10`). -/
structure ReportStatistics where
  numWarnings : Nat
  numInformationalLogs : Nat
  numSkippedPackets : Nat
  bySeverity : EventType → Nat

/-- The types of the events of a row. -/
def AnalysisRow.eventTypes : AnalysisRow → List EventType
  | .skipped _ => []
  | .analysis _ _ events => events.filterMap eventType

/-- The row is of a skipped packet. -/
def AnalysisRow.isSkipped : AnalysisRow → Bool
  | .skipped _ => true
  | .analysis .. => false

/-- `get_report_stats` (`analysis.svelte.ts:119`). -/
def getReportStats (rows : List AnalysisRow) : ReportStatistics :=
  let types := rows.flatMap AnalysisRow.eventTypes
  { numWarnings := types.countP (· ≠ .informational)
    numInformationalLogs := types.count .informational
    numSkippedPackets := rows.countP AnalysisRow.isSkipped
    bySeverity := fun t => types.count t }

/-- `AnalysisReport` (`analysis.svelte.ts:4`). -/
structure AnalysisReport where
  metadata : ReportMetadata
  rows : List AnalysisRow
  statistics : ReportStatistics

/-- `parse_finished_report` (`analysis.svelte.ts:153`). -/
def parseFinishedReport (reportJson : List Json) : Except ReportError AnalysisReport :=
  match ReportMetadata.new reportJson.head?, getRows reportJson.tail with
  | .ok metadata, .ok rows => .ok { metadata, rows, statistics := getReportStats rows }
  | .error e, _ => .error e
  | _, .error e => .error e

/-- `get_report` (`analysis.svelte.ts:164`) on the body of the answer, where there is one. -/
def getReport (body : Option String) : Except ReportError AnalysisReport :=
  match body with
  | none => .error .response
  | some body =>
    match parseNdjson (responseText body) with
    | .error currentLine => .error (.ndjson currentLine)
    | .ok reportJson => parseFinishedReport reportJson

/-! ## What the reader makes of report values -/

/-- A text that begins with the byte order mark is no JSON. -/
theorem jsonParse_mark {s : String} (h : s.toList.head? = some byteOrderMark) :
    jsonParse s = none := by
  have hnone : ∀ cs, parseDeep (byteOrderMark :: cs) = none := by
    intro cs
    have hmark : byteOrderMark ≠ 'n' ∧ byteOrderMark ≠ 't' ∧ byteOrderMark ≠ 'f' ∧
        byteOrderMark ≠ JsonText.quote ∧ byteOrderMark ≠ '[' ∧ byteOrderMark ≠ '{' ∧
        byteOrderMark ≠ '-' ∧ JsonText.isWs byteOrderMark = false ∧
        byteOrderMark.isDigit = false := by decide
    obtain ⟨h₁, h₂, h₃, h₄, h₅, h₆, h₇, h₈, h₉⟩ := hmark
    simp [parseDeep, JsonText.parseTo, JsonText.parseValue, JsonText.skipWs, JsonText.parseNumber,
      JsonText.parseUnsigned, JsonText.splitDigits, h₁, h₂, h₃, h₄, h₅, h₆, h₇, h₈, h₉]
  obtain ⟨cs, hcs⟩ : ∃ cs, s.toList = byteOrderMark :: cs := by
    cases hl : s.toList with
    | nil => rw [hl] at h; cases h
    | cons c cs => rw [hl] at h; cases h; exact ⟨cs, rfl⟩
  have hmend : ∃ cs', mend s.length (byteOrderMark :: cs) = byteOrderMark :: cs' := by
    cases s.length with
    | zero => exact ⟨cs, rfl⟩
    | succ n => exact ⟨mend n cs, if_pos (by decide)⟩
  obtain ⟨cs', hcs'⟩ := hmend
  rw [jsonParse, hcs, hnone, hcs']
  exact hnone cs'

theorem withoutMark_of_parse {s : String} {j : Json} (h : jsonParse s = some j) :
    withoutMark s = s := by
  refine if_neg fun hm => ?_
  rw [jsonParse_mark hm] at h
  cases h

@[simp] theorem withoutMark_empty : withoutMark "" = "" := rfl

/-- Taking the byte order mark off a text takes it off its first line. -/
theorem withoutMark_ofLines (line : String) (lines : List String) :
    withoutMark (Joining.ofLines (line :: lines)) =
      Joining.ofLines (withoutMark line :: lines) := by
  have htext : ∀ l, Joining.ofLines (l :: lines) = l ++ ("\n" ++ Joining.ofLines lines) := by
    intro l
    rw [Joining.ofLines, String.append_assoc]
  rw [htext, htext, withoutMark, withoutMark, String.toList_append]
  cases hl : line.toList with
  | nil =>
    have hne : ('\n' : Char) ≠ byteOrderMark := by decide
    simp [String.toList_append, hne]
  | cons c cs =>
    by_cases hc : c = byteOrderMark
    · simp only [List.cons_append, List.head?_cons, hc, if_true, List.tail_cons]
      rw [String.ofList_append, String.ofList_toList]
    · simp [hc]

/-- The events of a row are of the types the page knows. -/
theorem getEvents_toJson [Chrono] (row : Rayhunter.AnalysisRow) :
    getEvents row.toJson = .ok (row.events.map (optionToJson Event.toJson)) := by
  have hevent : ∀ e : Option Event, getEventOrNull (optionToJson Event.toJson e) =
      .ok (optionToJson Event.toJson e) := by
    intro e
    cases e with
    | none => rfl
    | some e =>
      have htype : (eventType e.toJson).isSome := by
        obtain ⟨t, m⟩ := e
        cases t <;> rfl
      show getEvent e.toJson = .ok e.toJson
      exact if_pos htype
  have hmap : ∀ es : List (Option Event), (es.map (optionToJson Event.toJson)).mapM
      getEventOrNull = .ok (es.map (optionToJson Event.toJson)) := by
    intro es
    induction es with
    | nil => rfl
    | cons e es ih =>
      rw [List.map_cons, List.mapM_cons, hevent, ih]
      rfl
  obtain ⟨ms, hms, hes, -⟩ := lookup_events_toJson row
  rw [getEvents, hms, Json.get_obj, hes]
  exact hmap row.events

/-- The row the page makes of one with a warning. -/
theorem analysisRow_toJson [Chrono] {row : Rayhunter.AnalysisRow}
    (hw : row.containsWarnings = true) : ∃ timestamp,
      analysisRow row.toJson (row.events.map (optionToJson Event.toJson)) =
        [.analysis (row.packetNum.map fun n : Nat => Json.int n) timestamp
          (row.events.map (optionToJson Event.toJson))] := by
  obtain ⟨t, ht, -⟩ := AnalysisRow.containsWarnings_iff.1 hw
  obtain ⟨e, he, -⟩ := AnalysisRow.mem_severities.1 ht
  have hany : (row.events.map (optionToJson Event.toJson)).any (!isNull ·) = true := by
    refine List.any_eq_true.2 ⟨e.toJson, List.mem_map.2 ⟨some e, he, rfl⟩, rfl⟩
  have hnum : (row.toJson.get "packet_num").filter isNumber =
      row.packetNum.map fun n : Nat => Json.int n := by
    obtain ⟨n, t, r, es⟩ := row
    cases n <;> rfl
  exact ⟨row.toJson.get "packet_timestamp", by rw [analysisRow, if_pos hany, hnum]⟩

/-- What the loop of `get_rows` makes of each value is in the rows. -/
theorem mem_of_getRows {values : List Json} {rows : List AnalysisRow}
    (h : getRows values = .ok rows) {value : Json} (hv : value ∈ values) :
    ∃ made, getRow value = .ok made ∧ ∀ row ∈ made, row ∈ rows := by
  rw [getRows] at h
  cases hm : values.mapM getRow with
  | error e => rw [hm] at h; cases h
  | ok lists =>
    rw [hm] at h
    obtain rfl : lists.flatten = rows := by cases h; rfl
    clear h
    induction values generalizing lists with
    | nil => cases hv
    | cons v values ih =>
      rw [List.mapM_cons] at hm
      cases hr : getRow v with
      | error e => rw [hr] at hm; cases hm
      | ok made =>
        cases hrest : values.mapM getRow with
        | error e => rw [hr, hrest] at hm; cases hm
        | ok rest =>
          rw [hr, hrest] at hm
          cases hm
          rcases List.mem_cons.1 hv with rfl | hv
          · exact ⟨made, hr, fun row hrow => List.mem_append_left _ hrow⟩
          · obtain ⟨made', hmade, hall⟩ := ih hv rest hrest
            exact ⟨made', hmade, fun row hrow => List.mem_append_right _ (hall row hrow)⟩

/-! ## Damaged reports -/

section
variable [SerdeJson] [Chrono]

/-- A line that is no JSON; it has no text where it is not UTF-8. -/
structure BadLine where
  text : Option String
  isLine : ∀ t ∈ text, '\n' ∉ t.toList
  unread : ∀ t ∈ text, SerdeJson.fromStr t = none

/-- Nothing is left of a bad line but, at most, a byte order mark. -/
def BadLine.Blank (line : BadLine) : Prop := ∃ t ∈ line.text, withoutMark t = ""

/-- A line of a report after the metadata. -/
inductive ReportLine
  | row (row : Rayhunter.AnalysisRow) (word : ∀ n ∈ row.packetNum, n < 2 ^ 64)
  | bad (line : BadLine)

def ReportLine.text : ReportLine → Option String
  | .row r _ => some (SerdeJson.toString r.toJson)
  | .bad line => line.text

/-- A report as the analyzer writes it with bad lines anywhere. The metadata line may be one of
them. -/
structure Report where
  before : List BadLine
  metadata : Option Rayhunter.ReportMetadata
  rest : List ReportLine
  words : ∀ m ∈ metadata, ReportValue m.toJson
  begun : metadata = none → ∃ line ∈ before, ¬ line.Blank

/-- The lines up to the metadata. -/
def Report.head (report : Report) : List (Option String) :=
  report.before.map BadLine.text ++
    (report.metadata.map fun m => some (SerdeJson.toString m.toJson)).toList

/-- The lines of the file. -/
def Report.lines (report : Report) : List (Option String) :=
  report.head ++ report.rest.map ReportLine.text

/-- The texts of some lines. -/
def texts (lines : List (Option String)) : List String := lines.filterMap id

omit [SerdeJson] [Chrono] in
@[simp] theorem texts_map_some (lines : List String) : texts (lines.map some) = lines := by
  simp [texts]

omit [SerdeJson] [Chrono] in
@[simp] theorem texts_append (lines lines' : List (Option String)) :
    texts (lines ++ lines') = texts lines ++ texts lines' := List.filterMap_append ..

omit [SerdeJson] [Chrono] in
theorem map_some_texts {lines : List (Option String)} (h : ∀ line ∈ lines, line.isSome) :
    lines = (texts lines).map some := by
  induction lines with
  | nil => rfl
  | cons line lines ih =>
    obtain ⟨t, rfl⟩ := Option.isSome_iff_exists.1 (h line List.mem_cons_self)
    have htexts : texts (some t :: lines) = t :: texts lines := rfl
    rw [htexts, List.map_cons, ← ih fun l hl => h l (List.mem_cons_of_mem _ hl)]

omit [SerdeJson] [Chrono] in
theorem mem_texts {lines : List (Option String)} {t : String} :
    t ∈ texts lines ↔ some t ∈ lines := by
  simp [texts]

/-- The lines of a report have no line feeds in them. -/
theorem Report.newline (hs : SerdeJson.Lawful) (report : Report) {t : String}
    (ht : some t ∈ report.lines) : '\n' ∉ t.toList := by
  rw [Report.lines, Report.head, List.append_assoc, List.mem_append, List.mem_append] at ht
  rcases ht with ht | ht | ht
  · obtain ⟨line, -, hline⟩ := List.mem_map.1 ht
    exact line.isLine t hline
  · rw [Option.mem_toList] at ht
    obtain ⟨m, hm, htm⟩ := Option.map_eq_some_iff.1 ht
    rw [← Option.some.inj htm]
    exact (hs.isLine_toString (report.words m hm)).1
  · obtain ⟨line, -, hline⟩ := List.mem_map.1 ht
    cases line with
    | row row hn =>
      cases hline
      exact (hs.isLine_toString (.row row hn)).1
    | bad line => exact line.isLine t hline

variable [Build]

/-- The lines of a report as the page gets them. -/
def shown (lines : List String) : List String :=
  match normalizedLines lines with
  | [] => []
  | line :: lines => withoutMark line :: lines

/-- The lines after the first. -/
def shownRows (lines : List String) : List String := (lines.filter (· ≠ "")).map normalizeRow

omit [SerdeJson] [Chrono] [Build] in
theorem mem_withoutMark {s : String} {c : Char} (h : c ∈ (withoutMark s).toList) :
    c ∈ s.toList := by
  rw [withoutMark] at h
  split at h
  · rw [String.toList_ofList] at h
    exact List.mem_of_mem_tail h
  · exact h

/-- What the page makes of a report whose lines are texts. -/
theorem getReport_lines (hs : SerdeJson.Lawful) {content : FileContent} {lines : List String}
    (h : content.lines = lines.map some) (hnl : ∀ line ∈ lines, '\n' ∉ line.toList) :
    getReport (getAnalysisReport content) =
      match Joining.readJoined jsonParse "" (shown lines ++ [""]) with
      | .error currentLine => .error (.ndjson currentLine)
      | .ok reportJson => parseFinishedReport reportJson := by
  have hsplit : Joining.split (responseText (Joining.ofLines (normalizedLines lines))) =
      shown lines ++ [""] := by
    have hline : ∀ line ∈ normalizedLines lines, '\n' ∉ line.toList := by
      intro line hmem
      unfold normalizedLines at hmem
      split at hmem
      · cases hmem
      · next first rest hf =>
        have hfrom : ∀ l ∈ first :: rest, '\n' ∉ l.toList := by
          intro l hl
          rw [← hf] at hl
          exact hnl l (List.mem_of_mem_filter hl)
        rcases List.mem_cons.1 hmem with rfl | hmem
        · exact (passedOn_metadata first).newline hs (hfrom first List.mem_cons_self)
        · obtain ⟨l, hl, rfl⟩ := List.mem_map.1 hmem
          exact (passedOn_row hs l).newline hs (hfrom l (List.mem_cons_of_mem _ hl))
    rw [shown]
    cases hn : normalizedLines lines with
    | nil => rfl
    | cons first rest =>
      rw [hn] at hline
      rw [responseText, withoutMark_ofLines, Joining.split_ofLines]
      intro line hmem hc
      rcases List.mem_cons.1 hmem with rfl | hmem
      · exact hline first List.mem_cons_self (mem_withoutMark hc)
      · exact hline line (List.mem_cons_of_mem _ hmem) hc
  rw [getAnalysisReport, h, normalizedStream_lines]
  simp only [getReport]
  rw [parseNdjson, hsplit]

/-! ### Every finding is read or joined -/

/-- What is taken from `serde_json` for the page: the report values it writes are JSON texts of
these values. -/
def ReadsReports : Prop := ∀ j, ReportValue j → jsonParse (SerdeJson.toString j) = some j

omit [Build] in
/-- The line of a report value is nothing but the value. -/
theorem ReadsReports.visible (hr : ReadsReports) {j : Json} (hj : ReportValue j) :
    withoutMark (SerdeJson.toString j) ≠ "" := by
  rw [withoutMark_of_parse (hr j hj)]
  intro he
  have hparse := hr j hj
  rw [he] at hparse
  cases hparse

omit [Build] in
theorem visible_of_passedOn (hr : ReadsReports) {line line' : String} (h : PassedOn line line')
    (hl : withoutMark line ≠ "") : withoutMark line' ≠ "" := by
  rcases h with rfl | ⟨j, hj, rfl⟩
  · exact hl
  · exact hr.visible hj

/-- A line that is not blank shows on the page. -/
theorem exists_shown (hs : SerdeJson.Lawful) (hr : ReadsReports) {lines : List String} {t : String}
    (ht : t ∈ lines) (hv : withoutMark t ≠ "") : ∃ line ∈ shown lines, line ≠ "" := by
  have hne : t ≠ "" := by
    rintro rfl
    exact hv rfl
  have hmem : t ∈ lines.filter (· ≠ "") := List.mem_filter.2 ⟨ht, by simpa using hne⟩
  rw [shown, normalizedLines]
  cases hf : lines.filter (· ≠ "") with
  | nil =>
    rw [hf] at hmem
    cases hmem
  | cons first rest =>
    rw [hf] at hmem
    rcases List.mem_cons.1 hmem with rfl | hmem
    · exact ⟨_, List.mem_cons_self, visible_of_passedOn hr (passedOn_metadata t) hv⟩
    · have hrow := visible_of_passedOn hr (passedOn_row hs t) hv
      refine ⟨normalizeRow t, List.mem_cons_of_mem _ (List.mem_map.2 ⟨t, hmem, rfl⟩), ?_⟩
      intro he
      rw [he] at hrow
      exact hrow rfl

omit [Build] in
/-- The metadata line of a report, or what is left of it, shows. -/
theorem Report.exists_visible (hr : ReadsReports) (report : Report) {lines : List String}
    (h : report.lines = lines.map some) : ∃ t, some t ∈ report.head ∧ withoutMark t ≠ "" := by
  cases hm : report.metadata with
  | some m =>
    refine ⟨SerdeJson.toString m.toJson, List.mem_append_right _ ?_,
      hr.visible (report.words m hm)⟩
    rw [hm]
    exact List.mem_singleton_self _
  | none =>
    obtain ⟨line, hmem, hblank⟩ := report.begun hm
    have hhead : line.text ∈ report.head := List.mem_append_left _ (List.mem_map.2 ⟨line, hmem, rfl⟩)
    have hline : line.text ∈ lines.map some := by
      rw [← h]
      exact List.mem_append_left _ hhead
    obtain ⟨t, -, ht⟩ := List.mem_map.1 hline
    rw [← ht] at hhead
    exact ⟨t, hhead, fun hv => hblank ⟨t, ht.symm, hv⟩⟩

/-- A row of a report among the lines on the page. -/
theorem shown_append {before : List String} (after : List String) {line : String} (hl : line ≠ "")
    (hb : shown before ≠ []) :
    shown (before ++ line :: after) = shown before ++ normalizeRow line :: shownRows after := by
  rw [shown, normalizedLines] at hb ⊢
  rw [List.filter_append, List.filter_cons_of_pos (by simpa using hl), shown, normalizedLines]
  cases hf : before.filter (· ≠ "") with
  | nil =>
    rw [hf] at hb
    exact (hb rfl).elim
  | cons first rest => simp [shownRows]

/-- The page shows a row with a warning: its number and its events. -/
def Shows (page : AnalysisReport) (row : Rayhunter.AnalysisRow) : Prop :=
  ∃ timestamp, AnalysisRow.analysis (row.packetNum.map fun n : Nat => Json.int n) timestamp
    (row.events.map (optionToJson Event.toJson)) ∈ page.rows

omit [SerdeJson] [Build] in
/-- A row is shown where its value is among those of the report, behind another. -/
theorem shows_of_values {first : Json} {front later : List Json} {page : AnalysisReport}
    {row row' : Rayhunter.AnalysisRow} (hnum : row'.packetNum = row.packetNum)
    (hevents : row'.events = row.events) (hw : row.containsWarnings = true)
    (h : parseFinishedReport (first :: front ++ row'.toJson :: later) = .ok page) :
    Shows page row := by
  have hw' : row'.containsWarnings = true := by
    rw [AnalysisRow.containsWarnings, AnalysisRow.getMaxEventType, AnalysisRow.severities, hevents]
    exact hw
  rw [parseFinishedReport] at h
  split at h
  · next metadata rows _ hrows =>
    cases h
    obtain ⟨made, hmade, hall⟩ := mem_of_getRows hrows
      (List.mem_append_right front (List.mem_cons_self (a := row'.toJson) (l := later)))
    obtain ⟨timestamp, hrow⟩ := analysisRow_toJson hw'
    have hnull : isNull row'.toJson = false := rfl
    rw [getRow, hnull, getEvents_toJson] at hmade
    cases hmade
    refine ⟨timestamp, hall _ (List.mem_append_right _ ?_)⟩
    rw [hrow, hnum, hevents]
    exact List.mem_singleton_self _
  · cases h
  · cases h

/-- **A report that is shown shows every finding**, unless the line it is on has been joined to one
that is no JSON. -/
theorem shows_or_joinedAt (hs : SerdeJson.Lawful) (hr : ReadsReports) {report : Report}
    {content : FileContent} (hc : content.lines = report.lines) {page : AnalysisReport}
    (hp : getReport (getAnalysisReport content) = .ok page) {front back : List ReportLine}
    {row : Rayhunter.AnalysisRow} {hn : ∀ n ∈ row.packetNum, n < 2 ^ 64}
    (hrest : report.rest = front ++ .row row hn :: back) (hw : row.containsWarnings = true) :
    Shows page row ∨
      Joining.JoinedAt jsonParse (shown (texts (report.head ++ front.map ReportLine.text)))
        (normalizeRow (SerdeJson.toString row.toJson))
        (shownRows (texts (back.map ReportLine.text)) ++ [""]) := by
  -- the lines of a report that is answered with are texts
  obtain ⟨lines, hlines⟩ : ∃ lines : List String, report.lines = lines.map some := by
    cases hbody : getAnalysisReport content with
    | none =>
      rw [hbody] at hp
      cases hp
    | some body =>
      rw [getAnalysisReport, hc] at hbody
      exact exists_of_normalizedStream hbody
  have hnl : ∀ line ∈ lines, '\n' ∉ line.toList := by
    intro line hmem
    refine report.newline hs ?_
    rw [hlines]
    exact List.mem_map.2 ⟨line, hmem, rfl⟩
  have htexts : lines = texts (report.head ++ front.map ReportLine.text) ++
      SerdeJson.toString row.toJson :: texts (back.map ReportLine.text) := by
    rw [← texts_map_some lines, ← hlines, Report.lines, hrest, List.map_append, ← List.append_assoc,
      texts_append]
    rfl
  -- something shows before the row
  obtain ⟨t, ht, hvisible⟩ := report.exists_visible hr hlines
  have hmem : t ∈ texts (report.head ++ front.map ReportLine.text) :=
    mem_texts.2 (List.mem_append_left _ ht)
  obtain ⟨line, hline, hne⟩ := exists_shown hs hr hmem hvisible
  have hbefore : shown (texts (report.head ++ front.map ReportLine.text)) ≠ [] :=
    List.ne_nil_of_mem hline
  have hshown := shown_append (texts (back.map ReportLine.text))
    (hs.toString_ne_empty (.row row hn)) hbefore
  rw [← htexts] at hshown
  obtain ⟨row', hnum, hevents, hvalue, hrow⟩ := normalizeRow_row hs hn
  rw [getReport_lines hs (hc.trans hlines) hnl, Joining.readJoined_eq_scan (.inl rfl)] at hp
  rw [hshown, List.append_assoc, List.cons_append] at hp
  split at hp
  · cases hp
  · next reportJson hread =>
    split at hread
    · next hleft =>
      have hne' : normalizeRow (SerdeJson.toString row.toJson) ≠ "" := by
        rw [hrow]
        exact hs.toString_ne_empty hvalue
      have hvalue' : jsonParse (normalizeRow (SerdeJson.toString row.toJson)) =
          some row'.toJson := by
        rw [hrow]
        exact hr _ hvalue
      refine (Joining.mem_of_scan hne' hvalue' hleft).imp_left ?_
      rintro ⟨hempty, later, hscan⟩
      obtain ⟨first, values, hvalues⟩ := List.exists_cons_of_ne_nil
        (Joining.scan_ne_nil (.inr ⟨line, hline, hne⟩) hempty)
      rw [hscan, hvalues] at hread
      cases hread
      exact shows_of_values hnum hevents hw hp
    · cases hread

/-! ### Empty lines do no harm -/

omit [SerdeJson] [Build] in
theorem getRow_toJson (row : Rayhunter.AnalysisRow) : ∃ made, getRow row.toJson = .ok made := by
  have hnull : isNull row.toJson = false := rfl
  rw [getRow, hnull, getEvents_toJson]
  exact ⟨_, rfl⟩

omit [SerdeJson] [Build] in
theorem getRows_toJson (rows : List Rayhunter.AnalysisRow) :
    ∃ made, getRows (rows.map Rayhunter.AnalysisRow.toJson) = .ok made := by
  have hmap : ∃ lists, (rows.map Rayhunter.AnalysisRow.toJson).mapM getRow = .ok lists := by
    induction rows with
    | nil => exact ⟨[], rfl⟩
    | cons row rows ih =>
      obtain ⟨made, hmade⟩ := getRow_toJson row
      obtain ⟨lists, hlists⟩ := ih
      rw [List.map_cons, List.mapM_cons, hmade, hlists]
      exact ⟨made :: lists, rfl⟩
  obtain ⟨lists, hlists⟩ := hmap
  rw [getRows, hlists]
  exact ⟨lists.flatten, rfl⟩

omit [Build] in
/-- The rest of a report whose bad lines are empty is the rows in it. -/
theorem shownRows_of_empty (hs : SerdeJson.Lawful) {rest : List ReportLine}
    (h : ∀ line, .bad line ∈ rest → line.text = some "") :
    ∃ rows : List Rayhunter.AnalysisRow, (∀ row ∈ rows, ReportValue row.toJson) ∧
      shownRows (texts (rest.map ReportLine.text)) =
        rows.map fun row => SerdeJson.toString row.toJson := by
  induction rest with
  | nil => exact ⟨[], by simp, rfl⟩
  | cons line rest ih =>
    obtain ⟨rows, hvalues, hrows⟩ := ih fun l hl => h l (List.mem_cons_of_mem _ hl)
    cases line with
    | row row hn =>
      obtain ⟨row', -, -, hvalue, hrow⟩ := normalizeRow_row hs hn
      have hne := hs.toString_ne_empty (.row row hn)
      refine ⟨row' :: rows, ?_, ?_⟩
      · intro r hr
        rcases List.mem_cons.1 hr with rfl | hr
        · exact hvalue
        · exact hvalues r hr
      · have htext : texts ((ReportLine.row row hn :: rest).map ReportLine.text) =
            SerdeJson.toString row.toJson :: texts (rest.map ReportLine.text) := rfl
        rw [shownRows, htext, List.filter_cons_of_pos (by simpa using hne), List.map_cons, hrow,
          ← shownRows, hrows]
        rfl
    | bad line =>
      refine ⟨rows, hvalues, ?_⟩
      have htext : texts ((ReportLine.bad line :: rest).map ReportLine.text) =
          "" :: texts (rest.map ReportLine.text) := by
        have hline : (ReportLine.bad line).text = some "" := h line List.mem_cons_self
        rw [List.map_cons, hline]
        rfl
      rw [shownRows, htext]
      exact hrows

/-- Every bad line of the report is empty. -/
def Report.OnlyEmpty (report : Report) : Prop :=
  (∀ line ∈ report.before, line.text = some "") ∧
    ∀ line, .bad line ∈ report.rest → line.text = some ""

omit [Build] in
/-- Then every line is a text. -/
theorem Report.isSome_of_onlyEmpty (report : Report) (h : report.OnlyEmpty)
    {line : Option String} (hl : line ∈ report.lines) : line.isSome := by
  rw [Report.lines, Report.head, List.append_assoc, List.mem_append, List.mem_append] at hl
  rcases hl with hl | hl | hl
  · obtain ⟨bad, hbad, rfl⟩ := List.mem_map.1 hl
    rw [h.1 bad hbad]
    rfl
  · rw [Option.mem_toList] at hl
    obtain ⟨m, -, rfl⟩ := Option.map_eq_some_iff.1 hl
    rfl
  · obtain ⟨l, hmem, rfl⟩ := List.mem_map.1 hl
    cases l with
    | row row hn => rfl
    | bad bad =>
      have hbad : (ReportLine.bad bad).text = some "" := h.2 bad hmem
      rw [hbad]
      rfl

/-- The page gets such a report as report values alone. -/
theorem shown_of_onlyEmpty (hs : SerdeJson.Lawful) (hr : ReadsReports) {report : Report}
    (h : report.OnlyEmpty) : ∃ (m : Rayhunter.ReportMetadata) (rows : List Rayhunter.AnalysisRow),
      ReportValue m.toJson ∧ (∀ row ∈ rows, ReportValue row.toJson) ∧
      shown (texts report.lines) = SerdeJson.toString m.toJson ::
        rows.map fun row => SerdeJson.toString row.toJson := by
  obtain ⟨m, hm⟩ : ∃ m, report.metadata = some m := by
    cases hm : report.metadata with
    | some m => exact ⟨m, rfl⟩
    | none =>
      obtain ⟨line, hline, hblank⟩ := report.begun hm
      exact (hblank ⟨"", h.1 line hline, rfl⟩).elim
  obtain ⟨rows, hvalues, hrows⟩ := shownRows_of_empty hs h.2
  have hvalue := report.words m hm
  obtain ⟨m', hvalue', hmeta⟩ := normalizeMetadata_metadata hs hvalue
  have hbefore : (texts (report.before.map BadLine.text)).filter (· ≠ "") = [] := by
    rw [List.filter_eq_nil_iff]
    intro t ht
    obtain ⟨line, hline, htext⟩ := List.mem_map.1 (mem_texts.1 ht)
    rw [h.1 line hline] at htext
    cases htext
    simp
  have hlines : texts report.lines = texts (report.before.map BadLine.text) ++
      SerdeJson.toString m.toJson :: texts (report.rest.map ReportLine.text) := by
    rw [Report.lines, Report.head, hm, List.append_assoc, texts_append]
    rfl
  refine ⟨m', rows, hvalue', hvalues, ?_⟩
  rw [shown, normalizedLines, hlines, List.filter_append, hbefore, List.nil_append,
    List.filter_cons_of_pos (by simpa using hs.toString_ne_empty hvalue)]
  simp only [hmeta, withoutMark_of_parse (hr _ hvalue')]
  rw [← hrows, shownRows]

omit [Chrono] [Build] in
/-- Texts of values, and the empty one behind them, are read as the values. -/
theorem readJoined_values {values : List Json}
    (h : ∀ j ∈ values, jsonParse (SerdeJson.toString j) = some j) :
    Joining.readJoined jsonParse "" (values.map SerdeJson.toString ++ [""]) = .ok values := by
  have hnone : jsonParse "" = none := rfl
  have hscan : Joining.scan jsonParse "" (values.map SerdeJson.toString ++ [""]) =
      (values, "") := by
    induction values with
    | nil => rfl
    | cons j values ih =>
      have hj := h j List.mem_cons_self
      have hne : SerdeJson.toString j ≠ "" := by
        intro he
        rw [he, hnone] at hj
        cases hj
      have hnext : Joining.next jsonParse "" (SerdeJson.toString j) = ([j], "") := by
        rw [Joining.next, String.empty_append, if_neg hne, hj]
      rw [List.map_cons, List.cons_append, Joining.scan, hnext,
        ih fun k hk => h k (List.mem_cons_of_mem _ hk)]
      rfl
  rw [Joining.readJoined_eq_scan (.inl rfl), hscan]
  rfl

/-- A report whose bad lines are empty is shown. -/
theorem exists_page (hs : SerdeJson.Lawful) (hr : ReadsReports) {report : Report}
    {content : FileContent} (hc : content.lines = report.lines) (h : report.OnlyEmpty) :
    ∃ page, getReport (getAnalysisReport content) = .ok page := by
  have hlines := map_some_texts fun line hline => report.isSome_of_onlyEmpty h hline
  have hnl : ∀ line ∈ texts report.lines, '\n' ∉ line.toList :=
    fun line hmem => report.newline hs (mem_texts.1 hmem)
  obtain ⟨m, rows, hm, hrows, hshown⟩ := shown_of_onlyEmpty hs hr h
  have hmap : shown (texts report.lines) =
      (m.toJson :: rows.map Rayhunter.AnalysisRow.toJson).map SerdeJson.toString := by
    rw [hshown, List.map_cons, List.map_map]
    rfl
  have hread : ∀ j ∈ m.toJson :: rows.map Rayhunter.AnalysisRow.toJson,
      jsonParse (SerdeJson.toString j) = some j := by
    intro j hj
    rcases List.mem_cons.1 hj with rfl | hj
    · exact hr _ hm
    · obtain ⟨row, hrow, rfl⟩ := List.mem_map.1 hj
      exact hr _ (hrows row hrow)
  obtain ⟨made, hmade⟩ := getRows_toJson rows
  rw [getReport_lines hs (hc.trans hlines) hnl, hmap, readJoined_values hread]
  simp only [parseFinishedReport, List.head?_cons, List.tail_cons, hmade]
  exact ⟨_, rfl⟩

/-- Every row with a warning is shown. -/
def ShowsFindings (page : AnalysisReport) (report : Report) : Prop :=
  ∀ row hn, .row row hn ∈ report.rest → row.containsWarnings = true → Shows page row

/-- With no other bad lines than empty ones, nothing is joined. -/
theorem not_joinedAt (hs : SerdeJson.Lawful) (hr : ReadsReports) {report : Report}
    (h : report.OnlyEmpty) {line : String} {after : List String} :
    ¬ Joining.JoinedAt jsonParse (shown (texts report.lines)) line after := by
  rintro ⟨earlier, bad, between, -, hbefore, -, hread, -⟩
  obtain ⟨m, rows, hm, hrows, hshown⟩ := shown_of_onlyEmpty hs hr h
  have hmem : bad ∈ shown (texts report.lines) := by
    rw [hbefore]
    exact List.mem_append_right _ List.mem_cons_self
  obtain ⟨j, hj, rfl⟩ : ∃ j, ReportValue j ∧ SerdeJson.toString j = bad := by
    rw [hshown] at hmem
    rcases List.mem_cons.1 hmem with rfl | hmem
    · exact ⟨_, hm, rfl⟩
    · obtain ⟨row, hrow, rfl⟩ := List.mem_map.1 hmem
      exact ⟨_, hrows row hrow, rfl⟩
  rw [hr j hj] at hread
  cases hread

/-- **Findings in a damaged report.** With no bad lines but empty ones the page shows every row with
a warning. With others it shows no report at all, or one that has every such row whose line has not
been joined to a bad one before it. -/
theorem findings_read (hs : SerdeJson.Lawful) (hr : ReadsReports) (report : Report)
    (content : FileContent) (hc : content.lines = report.lines) :
    (report.OnlyEmpty → ∃ page, getReport (getAnalysisReport content) = .ok page ∧
      ShowsFindings page report) ∧
    ∀ page, getReport (getAnalysisReport content) = .ok page →
      ∀ front row hn back, report.rest = front ++ .row row hn :: back →
        row.containsWarnings = true → Shows page row ∨
          Joining.JoinedAt jsonParse (shown (texts (report.head ++ front.map ReportLine.text)))
            (normalizeRow (SerdeJson.toString row.toJson))
            (shownRows (texts (back.map ReportLine.text)) ++ [""]) := by
  constructor
  · intro hempty
    obtain ⟨page, hpage⟩ := exists_page hs hr hc hempty
    refine ⟨page, hpage, fun row hn hmem hw => ?_⟩
    obtain ⟨front, back, hrest⟩ := List.append_of_mem hmem
    refine (shows_or_joinedAt hs hr hc hpage hrest hw).resolve_right ?_
    -- the report up to the row is one with empty bad lines, too
    have hfront : ({ report with rest := front } : Report).OnlyEmpty := by
      refine ⟨hempty.1, fun line hline => hempty.2 line ?_⟩
      rw [hrest]
      exact List.mem_append_left _ hline
    exact not_joinedAt hs hr hfront
  · intro page hpage front row hn back hrest hw
    exact shows_or_joinedAt hs hr hc hpage hrest hw

end

/-! ## A torn row -/

theorem jsonText_readsReports [Chrono] : @ReadsReports jsonText _ := by
  intro j hj
  have hdeep : parseDeep (String.ofList (JsonText.print j)).toList = some j := by
    rw [String.toList_ofList]
    exact JsonText.parseTo_print (hj.plainAt.1.mono (by omega))
  show jsonParse (String.ofList (JsonText.print j)) = some j
  rw [jsonParse, hdeep]

/-- A row with a finding. -/
def findingRow : Rayhunter.AnalysisRow where
  packetNum := some 2
  events := [some ⟨.high, "IMSI requested"⟩]

/-- The metadata of a report without analyzers. -/
def someMetadata : Rayhunter.ReportMetadata := ⟨[], deviceBuild.runtimeMetadata, REPORT_VERSION⟩

section
variable [SerdeJson] [Chrono]

/-- The report of that row, a bad line before it. -/
def reportWith (bad : String) (hl : '\n' ∉ bad.toList) (hb : SerdeJson.fromStr bad = none) :
    Report where
  before := []
  metadata := some someMetadata
  rest := [.bad ⟨some bad, fun t ht => by cases ht; exact hl, fun t ht => by cases ht; exact hb⟩,
    .row findingRow fun n hn => by cases hn; decide]
  words m hm := by
    cases hm
    exact .metadata _ (by decide) fun a ha => by cases ha
  begun h := by cases h

/-- The file of that report. -/
def fileWith (bad : String) : FileContent :=
  .text ("" ++ SerdeJson.toString someMetadata.toJson ++ "\n" ++ bad ++ "\n" ++
    SerdeJson.toString findingRow.toJson ++ "\n")

theorem fileWith_lines (hs : SerdeJson.Lawful) {bad : String} (hbad : Text.IsLine bad)
    (hb : SerdeJson.fromStr bad = none) :
    (fileWith bad).lines = (reportWith bad hbad.1 hb).lines := by
  have hm := hs.isLine_toString ((reportWith bad hbad.1 hb).words someMetadata rfl)
  have hrow := hs.isLine_toString (.row findingRow fun n hn => by cases hn; decide)
  obtain ⟨h₁, hc₁⟩ := Text.lines_append_line Text.complete_empty hm
  obtain ⟨h₂, hc₂⟩ := Text.lines_append_line hc₁ hbad
  obtain ⟨h₃, -⟩ := Text.lines_append_line hc₂ hrow
  rw [fileWith, FileContent.lines, h₃, h₂, h₁]
  rfl

theorem reportWith_onlyEmpty (hl : '\n' ∉ "".toList) (hb : SerdeJson.fromStr "" = none) :
    (reportWith "" hl hb).OnlyEmpty := by
  constructor
  · intro line hline
    cases hline
  · intro line hline
    rcases List.mem_cons.1 hline with h | h
    · cases h
      rfl
    · cases List.mem_singleton.1 h

/-- The page refuses the report where the bad line and the row behind it make no JSON. -/
theorem reportWith_refused [Build] (hs : SerdeJson.Lawful) (hr : ReadsReports) {bad : String}
    (hl : Text.IsLine bad) (hb : SerdeJson.fromStr bad = none) (hne : bad ≠ "")
    (hparse : jsonParse bad = none) (hjoined : ∀ row : Rayhunter.AnalysisRow,
      jsonParse (bad ++ SerdeJson.toString row.toJson) = none) (page : AnalysisReport) :
    getReport (getAnalysisReport (fileWith bad)) ≠ .ok page := by
  have hmeta := (reportWith bad hl.1 hb).words someMetadata rfl
  have hfinding : ∀ n ∈ findingRow.packetNum, n < 2 ^ 64 := fun n hn => by cases hn; decide
  obtain ⟨m, hm, hmline⟩ := normalizeMetadata_metadata hs hmeta
  obtain ⟨row, -, -, -, hrow⟩ := normalizeRow_row hs hfinding
  have hmne := hs.toString_ne_empty hm
  have hlines : (reportWith bad hl.1 hb).lines = [SerdeJson.toString someMetadata.toJson, bad,
      SerdeJson.toString findingRow.toJson].map some := rfl
  have hshown : shown [SerdeJson.toString someMetadata.toJson, bad,
      SerdeJson.toString findingRow.toJson] =
        [SerdeJson.toString m.toJson, bad, SerdeJson.toString row.toJson] := by
    simp [shown, normalizedLines, hs.toString_ne_empty hmeta,
      hs.toString_ne_empty (.row findingRow hfinding), hne, hmline, hrow, (normalize_bad hb).2,
      withoutMark_of_parse (hr _ hm)]
  have hnl : ∀ line ∈ [SerdeJson.toString someMetadata.toJson, bad,
      SerdeJson.toString findingRow.toJson], '\n' ∉ line.toList := by
    intro line hline
    refine (reportWith bad hl.1 hb).newline hs ?_
    rw [hlines]
    exact List.mem_map.2 ⟨line, hline, rfl⟩
  have hleft : (Joining.scan jsonParse "" ([SerdeJson.toString m.toJson, bad,
      SerdeJson.toString row.toJson] ++ [""])).2 = bad ++ SerdeJson.toString row.toJson := by
    simp [Joining.scan, Joining.next, hmne, hr _ hm, hne, hparse, hjoined]
  rw [getReport_lines hs ((fileWith_lines hs hl hb).trans hlines) hnl, hshown,
    Joining.readJoined_eq_scan (.inl rfl), hleft, if_neg (by simp [hne])]
  intro h
  cases h

end

/-- A report with an empty line is shown with its finding. -/
theorem findings_read_empty : ∃ page, @getReport (@getAnalysisReport jsonText oneInstant deviceBuild
    (@fileWith jsonText oneInstant "")) = .ok page ∧ Shows page findingRow := by
  let _ := jsonText
  let _ := oneInstant
  let _ := deviceBuild
  have hb : SerdeJson.fromStr "" = none := jsonText_lawful.fromStr_empty
  have hl : Text.IsLine "" := ⟨by simp, by simp⟩
  obtain ⟨page, hpage, hshows⟩ := (findings_read jsonText_lawful jsonText_readsReports
    (reportWith "" hl.1 hb) (fileWith "") (fileWith_lines jsonText_lawful hl hb)).1
    (reportWith_onlyEmpty hl.1 hb)
  exact ⟨page, hpage, hshows findingRow _ (List.mem_cons_of_mem _ (List.mem_singleton_self _))
    (by decide)⟩

/-- Two opening braces begin no JSON. -/
theorem jsonParse_braces {s : String} (cs : List Char) (h : s.toList = '\x7b' :: '\x7b' :: cs) :
    jsonParse s = none := by
  have hnone : ∀ cs, parseDeep ('\x7b' :: '\x7b' :: cs) = none := by
    intro cs
    simp [parseDeep, JsonText.parseTo, JsonText.parseValue, JsonText.parseMembers,
      JsonText.parseMember, JsonText.skipWs, JsonText.isWs, JsonText.quote]
  obtain ⟨n, hn⟩ : ∃ n, s.length = n + 2 := by
    rw [← String.length_toList, h]
    exact ⟨cs.length, rfl⟩
  have hmend : mend (n + 2) ('\x7b' :: '\x7b' :: cs) = '\x7b' :: '\x7b' :: mend n cs := by
    have hne : ('\x7b' : Char) ≠ JsonText.backslash := by decide
    simp [mend, hne]
  rw [jsonParse, h, hnone, hn, hmend]
  exact hnone _

/-- **A torn row.** A row cut short after its first character makes the page refuse the report, the
finding on the line after it with it. -/
theorem torn_row_refused :
    let _ := jsonText
    let _ := oneInstant
    let _ := deviceBuild
    ¬ ∀ (report : Report) (content : FileContent), content.lines = report.lines →
      ∃ page, getReport (getAnalysisReport content) = .ok page ∧ ShowsFindings page report := by
  let _ := jsonText
  let _ := oneInstant
  let _ := deviceBuild
  intro _ _ _ h
  have hb : SerdeJson.fromStr "\x7b" = none := by decide
  have hl : Text.IsLine "\x7b" := ⟨by decide, by decide⟩
  have hjoined : ∀ row : Rayhunter.AnalysisRow,
      jsonParse ("\x7b" ++ SerdeJson.toString row.toJson) = none := by
    intro row
    obtain ⟨ms, hms, -⟩ := lookup_events_toJson row
    refine jsonParse_braces (JsonText.printMembers ms) ?_
    rw [hms, String.toList_append]
    show '\x7b' :: (String.ofList (JsonText.print (.obj ms))).toList = _
    rw [String.toList_ofList, JsonText.print]
  obtain ⟨page, hpage, -⟩ := h (reportWith "\x7b" hl.1 hb) (fileWith "\x7b")
    (fileWith_lines jsonText_lawful hl hb)
  exact reportWith_refused jsonText_lawful jsonText_readsReports hl hb (by decide) (by decide)
    hjoined page hpage

end Rayhunter.Web
