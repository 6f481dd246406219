import Rayhunter.Cleanup.Reanalysis
import Rayhunter.Store.Files

/-!
# Findings are kept

What a recording's analysis finds, put beside what its report says. While a report is being written
again it lacks the rows that are still to come, and a report whose writer stopped early lacks them
for good; a pruning that judges one in between takes a recording for clean whatever is in it. In the
runs in which no such report is judged, a report that reads as clean is one that covers its
recording, and no recording with a finding is deleted (`prune_keeps_findings`).
-/

namespace Rayhunter

open Storage Runs

variable [Decoders] [Detectors] [Gzip] [SerdeJson] [Sidecar]

/-! ## What a recording holds -/

section
variable (config : AnalyzerConfig) (deviceMetadata : DeviceMetadata)

/-- The rows of the complete analysis of a recording that consists of these two files. -/
def rowsOf (qmdl sidecar : Option FileContent) : List AnalysisRow :=
  match qmdl with
  | none => []
  | some c =>
    ((Harness.newWithConfig config (metadataFor deviceMetadata sidecar)).analyzeItems
      (QmdlMessageReader.new c.toBytes).readAll.1).1

/-- The rows of the complete analysis of a recording. -/
def completeRows (s : Storage) (e : ManifestEntry) : List AnalysisRow :=
  rowsOf config deviceMetadata (s.files (e.getFilepath .qmdl s.store.path))
    (s.files (e.getFilepath .metadata s.store.path))

/-- The complete analysis of a recording has an event above Informational. -/
def HasFinding (s : Storage) (e : ManifestEntry) : Prop :=
  ∃ row ∈ completeRows config deviceMetadata s e, row.containsWarnings = true

/-- A report has the line of every row of the complete analysis that is written at all. -/
def Covers [Chrono] (s : Storage) (e : ManifestEntry) (report : FileContent) : Prop :=
  ∀ row ∈ completeRows config deviceMetadata s e, row.isEmpty = false →
    some (SerdeJson.toString row.toJson) ∈ report.lines

/-- The reports of a store that look clean cover their recordings. -/
def Trusted [Chrono] (s : Storage) : Prop :=
  ∀ name i e report, s.store.entryForName name = some (i, e) → reportOf s e = some report →
    LooksClean report.lines → Covers config deviceMetadata s e report

end

/-! ## The steps that keep findings -/

/-- The steps of the runs in question: no recording is judged by a report that a re-analysis has not
finished, unless it is exempt or the report does not look clean; and a re-analysis can read the
sidecar of its recording. -/
def JudgesFinished (x : System) : SystemStep → Prop
  | .judge _ _ => ∀ p name names i e, x.pruning = some p → p.names = name :: names →
      x.storage.store.entryForName name = some (i, e) → name ∈ x.unfinished →
        Exempt x.storage.store e p.uploadsConfigured ∨
          ∀ report, reportOf x.storage e = some report → ¬ LooksClean report.lines
  | .writeMetadata readFault _ => readFault = none
  | _ => True

/-! ## Reports that cover their recordings -/

section
variable {config : AnalyzerConfig} {deviceMetadata : DeviceMetadata}

omit [Sidecar] [Gzip] in
/-- The rows of an analysis have numbers that fit a machine word. -/
theorem packetNum_lt [Chrono] (hs : SerdeJson.Lawful) {h : Harness} {items : List MessageItem}
    {row : AnalysisRow} (hrow : row ∈ (h.analyzeItems items).1) :
    ∀ n ∈ row.packetNum, n < 2 ^ 64 := fun n hn =>
  (Harness.packetNum_le_of_mem hrow n hn).trans_lt hs.usizeMax_lt

theorem packetNum_lt_of_mem_rowsOf [Chrono] (hs : SerdeJson.Lawful)
    {qmdl sidecar : Option FileContent} {row : AnalysisRow}
    (hrow : row ∈ rowsOf config deviceMetadata qmdl sidecar) :
    ∀ n ∈ row.packetNum, n < 2 ^ 64 := by
  unfold rowsOf at hrow
  split at hrow
  · cases hrow
  · exact packetNum_lt hs hrow

/-- A recording whose report covers it and looks clean has no finding. -/
theorem not_hasFinding_of_covers [Chrono] (hs : SerdeJson.Lawful) {s : Storage}
    {e : ManifestEntry} {report : FileContent} (hc : Covers config deviceMetadata s e report)
    (hl : LooksClean report.lines) : ¬ HasFinding config deviceMetadata s e := by
  rintro ⟨row, hrow, hw⟩
  obtain ⟨line, hline, hclass⟩ := hl.1 _ (hc row hrow (AnalysisRow.isEmpty_of_containsWarnings hw))
  cases hline
  rw [classifyLine_row hs (packetNum_lt_of_mem_rowsOf hs hrow) hw] at hclass
  cases hclass

omit [Decoders] [Detectors] [Gzip] [Sidecar] in
/-- A report that was read with an error does not look clean. -/
theorem LooksClean.of_reportLines {report : FileContent} {io : ReportIo}
    (h : LooksClean (reportLines report io)) : LooksClean report.lines := by
  unfold reportLines at h
  split at h
  · exact h
  · obtain ⟨line, hline, -⟩ := h.1 none (by simp)
    cases hline

/-- Recordings of one key are the same files. -/
theorem completeRows_of_key {s : Storage} {e e' : ManifestEntry} (h : e.key = e'.key) :
    completeRows config deviceMetadata s e = completeRows config deviceMetadata s e' := by
  simp only [completeRows, ManifestEntry.getFilepath_congr h]

/-- The complete analysis depends on the capture and the sidecar. -/
theorem completeRows_congr {s s' : Storage} {e : ManifestEntry}
    (hp : s'.store.path = s.store.path)
    (hq : s'.files (e.getFilepath .qmdl s.store.path) =
      s.files (e.getFilepath .qmdl s.store.path))
    (hm : s'.files (e.getFilepath .metadata s.store.path) =
      s.files (e.getFilepath .metadata s.store.path)) :
    completeRows config deviceMetadata s' e = completeRows config deviceMetadata s e := by
  simp only [completeRows, hp, hq, hm]

end

/-! ## The invariant -/

section
variable [Chrono] (config : AnalyzerConfig) (deviceMetadata : DeviceMetadata)

/-- What is written of a report: lines, each whole, with one for every row so far that is written
at all. A report that has gone is not written to. -/
def Written (report : Option FileContent) (rows : List AnalysisRow) : Prop :=
  report = none ∨ ∃ t, report = some (.text t) ∧ Text.Complete t ∧
    ∀ row ∈ rows, row.isEmpty = false → SerdeJson.toString row.toJson ∈ Text.lines t

/-- A re-analysis is about the recording its name is found at, and its report has the rows of the
messages read so far. -/
structure Job.Right (s : Storage) (j : Job) (e : ManifestEntry) : Prop where
  found : s.store.first j.name = some e
  report : j.report = e.getFilepath .analysis s.store.path
  metaPath : j.metaPath = e.getFilepath .metadata s.store.path
  opened : j.writer = none → Written (s.files j.report) [] ∧
    ∃ c, s.files (e.getFilepath .qmdl s.store.path) = some c ∧ j.reader = .new c.toBytes
  writing : ∀ w, j.writer = some w → w.path = j.report ∧
    ∃ done, completeRows config deviceMetadata s e =
        done ++ (w.harness.analyzeItems j.reader.readAll.1).1 ∧
      Written (s.files j.report) done

/-- A recording of the store `s₀` is as it was there: listed, with its capture, and with its
sidecar as long as it has a report. -/
structure Kept (s₀ s : Storage) (e : ManifestEntry) : Prop where
  listed : e ∈ s.store.manifest.entries
  qmdl : s.files (e.getFilepath .qmdl s₀.store.path) = s₀.files (e.getFilepath .qmdl s₀.store.path)
  sidecar : s.files (e.getFilepath .analysis s₀.store.path) = none ∨
    s.files (e.getFilepath .metadata s₀.store.path) =
      s₀.files (e.getFilepath .metadata s₀.store.path)

/-- The invariant of the runs in question from the store `s₀`. -/
structure System.Inv (s₀ : Storage) (x : System) : Prop where
  path : x.storage.store.path = s₀.store.path
  kept : ∀ e ∈ s₀.store.manifest.entries, HasFinding config deviceMetadata s₀ e →
    Kept s₀ x.storage e
  trusted : ∀ name e report, x.storage.store.first name = some e → name ∉ x.unfinished →
    reportOf x.storage e = some report → LooksClean report.lines →
      Covers config deviceMetadata x.storage e report
  job : ∀ j, x.job = some j → j.name ∈ x.unfinished ∧
    ∃ e, j.Right config deviceMetadata x.storage e
  decided : ∀ p name, x.pruning = some p → p.decided = some name → name ∉ x.unfinished ∧
    ∀ e, x.storage.store.first name = some e → ∀ e₀ ∈ s₀.store.manifest.entries,
      e₀.key = e.key → ¬ HasFinding config deviceMetadata s₀ e₀

end

section
variable [Chrono] {config : AnalyzerConfig} {deviceMetadata : DeviceMetadata}

/-- A re-analysis goes on when a recording of another name is deleted. -/
theorem Job.Right.deleted {s s' : Storage} {j : Job} {e e' : ManifestEntry}
    (h : j.Right config deviceMetadata s e') (hdel : Deleted e s s') (hne : j.name ≠ e.name) :
    j.Right config deviceMetadata s' e' := by
  have hname : e'.name ≠ e.name := by rwa [RecordingStore.name_of_first h.found]
  have hkey : e'.key ≠ e.key := fun hk => hname (congrArg Prod.fst hk)
  have hq := hdel.qmdl e' hkey
  have hm := hdel.sidecar e' hname
  have hw : ∀ rows, Written (s.files j.report) rows → Written (s'.files j.report) rows := by
    intro rows hrows
    rw [h.report] at hrows ⊢
    rcases hdel.sameOrGone e' .analysis with hs | hs
    · rwa [hs]
    · exact .inl hs
  refine ⟨(hdel.first _ hne).trans h.found, ?_, ?_, fun hnone => ?_, fun w hsome => ?_⟩
  · rw [hdel.path, h.report]
  · rw [hdel.path, h.metaPath]
  · obtain ⟨hwritten, c, hc, hreader⟩ := h.opened hnone
    exact ⟨hw _ hwritten, c, by rw [hdel.path, hq, hc], hreader⟩
  · obtain ⟨hpath, done, hrows, hwritten⟩ := h.writing w hsome
    exact ⟨hpath, done, by rw [completeRows_congr hdel.path hq hm, hrows], hw _ hwritten⟩

end

namespace System

variable [Chrono] {config : AnalyzerConfig} {deviceMetadata : DeviceMetadata} {s₀ : Storage}

/-! ## Writing a report -/

/-- The disk `d` with the report of a recording written to, emptied or left alone. -/
structure ReportWritten (e : ManifestEntry) (path : PathBuf) (d d' : Disk) : Prop where
  others : ∀ p, p ≠ e.getFilepath .analysis path → d'.files p = d.files p
  gone : d.files (e.getFilepath .analysis path) = none →
    d'.files (e.getFilepath .analysis path) = none

/-- Writing one report keeps the invariant where the recording counts as unfinished; `job` is the
re-analysis afterwards. -/
theorem Inv.write {x : System} (h : x.Inv config deviceMetadata s₀) {name : String}
    {e : ManifestEntry} (hf : x.storage.store.first name = some e) {d : Disk}
    (hd : ReportWritten e x.storage.store.path x.storage.device.disk d) {u : List String}
    (hu : x.unfinished ⊆ u) (hname : name ∈ u)
    (hdec : ∀ p n, x.pruning = some p → p.decided = some n → n ∉ u) {job : Option Job}
    (hjob : ∀ j, job = some j → j.name ∈ u ∧
      ∃ e, j.Right config deviceMetadata (x.storage.withDisk d) e) :
    Inv config deviceMetadata s₀
      { x with storage := x.storage.withDisk d, unfinished := u, job } := by
  have hq : ∀ e' : ManifestEntry, d.files (e'.getFilepath .qmdl x.storage.store.path) =
      x.storage.files (e'.getFilepath .qmdl x.storage.store.path) := fun e' =>
    hd.others _ (ManifestEntry.qmdl_ne (by decide))
  have hm : ∀ e' : ManifestEntry, d.files (e'.getFilepath .metadata x.storage.store.path) =
      x.storage.files (e'.getFilepath .metadata x.storage.store.path) := fun e' =>
    hd.others _ (ManifestEntry.metadata_ne (by decide))
  refine ⟨h.path, fun e' he' hfind => ?_, fun n e' report hf' hn hr hl => ?_, hjob,
    fun p n hp hpn => ?_⟩
  · obtain ⟨hlist, hqmdl, hside⟩ := h.kept e' he' hfind
    rw [← h.path] at hqmdl hside
    refine ⟨hlist, ?_, ?_⟩ <;> rw [← h.path]
    · exact (hq e').trans hqmdl
    · rcases hside with hnone | hsame
      · left
        by_cases hp : e'.getFilepath .analysis x.storage.store.path =
            e.getFilepath .analysis x.storage.store.path
        · rw [hp] at hnone ⊢
          exact hd.gone hnone
        · exact (hd.others _ hp).trans hnone
      · exact .inr ((hm e').trans hsame)
  · have hne : e'.name ≠ e.name := by
      rw [RecordingStore.name_of_first hf', RecordingStore.name_of_first hf]
      rintro rfl
      exact hn hname
    have hrep : reportOf (x.storage.withDisk d) e' = reportOf x.storage e' :=
      hd.others _ fun hp => hne (ManifestEntry.name_of_analysis hp)
    rw [hrep] at hr
    have hcov := h.trusted n e' report hf' (fun hmem => hn (hu hmem)) hr hl
    have hrows : completeRows config deviceMetadata (x.storage.withDisk d) e' =
        completeRows config deviceMetadata x.storage e' := completeRows_congr rfl (hq e') (hm e')
    rw [Covers, hrows]
    exact hcov
  · exact ⟨hdec p n hp hpn, (h.decided p n hp hpn).2⟩

omit [Decoders] [Detectors] [Gzip] [Sidecar] [Chrono] in
/-- A line written to a report, or a part of it. -/
theorem reportWritten_writeLine {e : ManifestEntry} {path : PathBuf} (d : Disk) (value : Json)
    (fault : WriteFault) :
    ReportWritten e path d (writeLine d (e.getFilepath .analysis path) value fault) := by
  refine ⟨fun p hp => ?_, fun hnone => ?_⟩
  · unfold writeLine Disk.writeText
    split <;> exact Disk.set_files_of_ne _ _ hp
  · unfold writeLine Disk.writeText Disk.modify
    split <;> simp [hnone]

omit [Decoders] [Detectors] [Gzip] [Sidecar] in
/-- A line that is written whole is a line of the report, so that the rows it is for are there. -/
theorem written_writeLine (hs : SerdeJson.Lawful) {d : Disk} {p : FilePath}
    {rows : List AnalysisRow} (h : Written (d.files p) rows) {value : Json}
    (hv : ReportValue value) (more : List AnalysisRow) (hmore : ∀ row ∈ more, row.isEmpty = false → row.toJson = value) :
    Written ((writeLine d p value none).files p) (rows ++ more) := by
  have hfile : (writeLine d p value none).files p =
      (d.files p).map (·.appendText (SerdeJson.toString value ++ "\n")) := by
    simp [writeLine, Disk.writeText, Disk.modify]
  rw [hfile]
  rcases h with hnone | ⟨t, ht, hcomplete, hlines⟩
  · exact .inl (by rw [hnone]; rfl)
  · obtain ⟨hnew, hcomplete'⟩ := Text.lines_append_line hcomplete (hs.isLine_toString hv)
    refine .inr ⟨t ++ (SerdeJson.toString value ++ "\n"), by rw [ht]; rfl, ?_, ?_⟩
    · rwa [← String.append_assoc]
    · intro row hrow he
      rw [← String.append_assoc, hnew]
      rcases List.mem_append.1 hrow with hrow | hrow
      · exact List.mem_append_left _ (hlines row hrow he)
      · rw [hmore row hrow he]
        simp

/-! ## The steps of a re-analysis -/

/-- Beginning a re-analysis keeps the invariant. -/
theorem Inv.beginAnalysis {x : System} (h : x.Inv config deviceMetadata s₀)
    (hp : x.pruning = none) (name : String) (io : BeginIo) :
    (x.beginAnalysis name io).Inv config deviceMetadata s₀ := by
  unfold System.beginAnalysis
  cases he : x.storage.store.entryForName name with
  | none => exact h
  | some q =>
    obtain ⟨i, e⟩ := q
    simp only
    have hf : x.storage.store.first name = some e := RecordingStore.first_eq_some.2 ⟨i, he⟩
    cases hc : x.storage.clearEntryAnalysis e io.truncate with
    | none => exact h
    | some s =>
      obtain ⟨d, rfl, hd⟩ : ∃ d, s = x.storage.withDisk d ∧
          d = x.storage.device.disk.set (e.getFilepath .analysis x.storage.store.path)
            (some (.text "")) ∧ (reportOf x.storage e).isSome := by
        unfold Storage.clearEntryAnalysis at hc
        split at hc
        · next hr => cases hc; exact ⟨_, rfl, rfl, by rw [hr]; rfl⟩
        · cases hc
      obtain ⟨rfl, hsome⟩ := hd
      refine h.write hf ⟨fun p hp => Disk.set_files_of_ne _ _ hp, fun hnone => ?_⟩
        (List.subset_cons_self _ _) (List.mem_cons_self ..) ?_ ?_
      · have hrep : reportOf x.storage e = none := hnone
        rw [hrep] at hsome
        cases hsome
      · intro p n hp'
        rw [hp] at hp'
        cases hp'
      · intro j hj'
        obtain ⟨reader, hr, rfl⟩ := Option.map_eq_some_iff.1 hj'
        refine ⟨List.mem_cons_self .., e, hf, rfl, rfl, fun _ => ⟨?_, ?_⟩, nofun⟩
        · exact .inr ⟨"", Disk.set_files_self .., Text.complete_empty, by simp⟩
        · unfold Storage.openQmdl at hr
          split at hr
          · cases hr
          · obtain ⟨c, hc', rfl⟩ := Option.map_eq_some_iff.1 hr
            exact ⟨c, hc', rfl⟩

/-- A re-analysis that stops early leaves its recording unfinished. -/
theorem Inv.stopEarly {x : System} (h : x.Inv config deviceMetadata s₀) :
    Inv config deviceMetadata s₀ { x with job := none } :=
  ⟨h.path, h.kept, h.trusted, nofun, h.decided⟩

/-- Writing a line of the report in hand keeps the invariant, where `job` is right afterwards. -/
theorem Inv.writeLine {x : System} (h : x.Inv config deviceMetadata s₀) {j : Job}
    (hj : x.job = some j) (value : Json) (fault : WriteFault) {job : Option Job}
    (hjob : ∀ e, j.Right config deviceMetadata x.storage e → ∀ j', job = some j' →
      j'.name = j.name ∧ ∃ e', j'.Right config deviceMetadata
        (x.storage.withDisk (Rayhunter.writeLine x.storage.device.disk j.report value fault)) e') :
    Inv config deviceMetadata s₀
      { x with
        storage := x.storage.withDisk
          (Rayhunter.writeLine x.storage.device.disk j.report value fault)
        job } := by
  obtain ⟨hmem, e, hright⟩ := h.job j hj
  refine h.write hright.found ?_ (List.Subset.refl _) hmem
    (fun p n hp hn => (h.decided p n hp hn).1) fun j' hj' => ?_
  · rw [hright.report]
    exact reportWritten_writeLine _ _ _
  · obtain ⟨hname, hr⟩ := hjob e hright j' hj'
    exact ⟨by rw [hname]; exact hmem, hr⟩

/-- The recording in hand has the same rows once a line of its report is written. -/
theorem completeRows_writeLine {s : Storage} {j : Job} {e e' : ManifestEntry}
    (hright : j.Right config deviceMetadata s e) (value : Json) (fault : WriteFault) :
    completeRows config deviceMetadata
        (s.withDisk (Rayhunter.writeLine s.device.disk j.report value fault)) e' =
      completeRows config deviceMetadata s e' := by
  have hd : ReportWritten e s.store.path s.device.disk
      (Rayhunter.writeLine s.device.disk j.report value fault) := by
    rw [hright.report]; exact reportWritten_writeLine _ _ _
  exact completeRows_congr rfl (hd.others _ (ManifestEntry.qmdl_ne (by decide)))
    (hd.others _ (ManifestEntry.metadata_ne (by decide)))

/-- Writing the first line keeps the invariant. -/
theorem Inv.writeMetadata [Build] (hs : SerdeJson.Lawful) {x : System}
    (h : x.Inv config deviceMetadata s₀) {j : Job} (hj : x.job = some j) (hw : j.writer = none)
    (fault : WriteFault) :
    (x.writeMetadata config deviceMetadata j none fault).Inv config deviceMetadata s₀ := by
  unfold System.writeMetadata
  simp only [Option.isSome_none, Bool.false_eq_true, if_false]
  cases fault with
  | some q =>
    rw [AnalysisWriter.new_some]
    exact h.writeLine hj _ _ fun _ _ _ hj' => nomatch hj'
  | none =>
    rw [AnalysisWriter.new_none]
    refine h.writeLine hj _ _ fun e hright j' hj' => ?_
    cases hj'
    obtain ⟨hwritten, c, hc, hreader⟩ := hright.opened hw
    refine ⟨rfl, e, hright.found, hright.report, hright.metaPath, nofun, ?_⟩
    rintro w ⟨⟩
    refine ⟨rfl, [], ?_, ?_⟩
    · rw [completeRows_writeLine hright, completeRows, hc, ← hright.metaPath, hreader]
      rfl
    · refine written_writeLine hs hwritten 
        (.metadata _ (show REPORT_VERSION < 2 ^ 32 by decide) ?_) [] (by simp)
      intro a ha
      obtain ⟨b, -, rfl⟩ := List.mem_map.1 ha
      exact UInt32.toNat_lt _

omit [Chrono] in
/-- The next message's row is the next of the complete analysis. -/
theorem completeRows_next {s : Storage} {j : Job} {e : ManifestEntry} {w : AnalysisWriter}
    {item : MessageItem} (hitem : j.reader.getNextMessage.1 = .ok (some item))
    {done : List AnalysisRow}
    (hrows : completeRows config deviceMetadata s e =
      done ++ (w.harness.analyzeItems j.reader.readAll.1).1) :
    completeRows config deviceMetadata s e =
      (done ++ [(w.harness.analyzeQmdlMessage item).1]) ++
        ((w.harness.analyzeQmdlMessage item).2.analyzeItems
          j.reader.getNextMessage.2.readAll.1).1 := by
  rw [hrows, QmdlMessageReader.readAll_of_some hitem]
  simp [Harness.analyzeItems]

/-- The end of the recording keeps the invariant: its report covers it. -/
theorem Inv.finishAnalysis {x : System} (h : x.Inv config deviceMetadata s₀) {j : Job}
    (hj : x.job = some j) {w : AnalysisWriter} (hw : j.writer = some w)
    (hend : j.reader.getNextMessage.1 = .ok none) :
    Inv config deviceMetadata s₀
      { x with job := none, unfinished := x.unfinished.filter (· ≠ j.name) } := by
  obtain ⟨-, e, hright⟩ := h.job j hj
  obtain ⟨-, done, hrows, hwritten⟩ := hright.writing w hw
  rw [QmdlMessageReader.readAll_of_none hend] at hrows
  simp only [Harness.analyzeItems, List.append_nil] at hrows
  rw [hright.report] at hwritten
  refine ⟨h.path, h.kept, fun n e' report hf hn hr hl => ?_, fun j hj => (by cases hj),
    fun p n hp hpn => ?_⟩
  · by_cases hname : n = j.name
    · subst hname
      rw [hright.found] at hf
      cases hf
      intro row hrow he
      rw [hrows] at hrow
      rcases hwritten with hgone | ⟨t, ht, -, hlines⟩
      · rw [show reportOf x.storage e = none from hgone] at hr
        cases hr
      · rw [show reportOf x.storage e = some (.text t) from ht] at hr
        cases hr
        exact List.mem_map_of_mem (hlines row hrow he)
    · refine h.trusted n e' report hf (fun hmem' => hn ?_) hr hl
      exact List.mem_filter.2 ⟨hmem', by simpa using hname⟩
  · exact ⟨fun hmem' => (h.decided p n hp hpn).1 (List.mem_filter.1 hmem').1,
      (h.decided p n hp hpn).2⟩

/-- The writer in hand writes the report of its recording. -/
theorem Inv.writer_path {x : System} (h : x.Inv config deviceMetadata s₀) {j : Job}
    (hj : x.job = some j) {w : AnalysisWriter} (hw : j.writer = some w) : w.path = j.report := by
  obtain ⟨-, e, hright⟩ := h.job j hj
  exact (hright.writing w hw).1

/-- A packet whose row is not written keeps the invariant. -/
theorem Inv.skipRow {x : System} (h : x.Inv config deviceMetadata s₀) {j : Job}
    (hj : x.job = some j) {w : AnalysisWriter} (hw : j.writer = some w) (item : MessageItem)
    (hitem : j.reader.getNextMessage.1 = .ok (some item))
    (he : (w.harness.analyzeQmdlMessage item).1.isEmpty = true) :
    Inv config deviceMetadata s₀
      { x with
        job := some
          { j with
            reader := j.reader.getNextMessage.2
            writer := some { w with harness := (w.harness.analyzeQmdlMessage item).2 } } } := by
  obtain ⟨hmem, e, hright⟩ := h.job j hj
  refine ⟨h.path, h.kept, h.trusted, ?_, h.decided⟩
  rintro j' ⟨⟩
  obtain ⟨hpath, done, hrows, hwritten⟩ := hright.writing w hw
  refine ⟨hmem, e, hright.found, hright.report, hright.metaPath, nofun, ?_⟩
  rintro w' ⟨⟩
  refine ⟨hpath, done ++ [(w.harness.analyzeQmdlMessage item).1], completeRows_next hitem hrows,
    ?_⟩
  rcases hwritten with hgone | ⟨t, ht, hcomplete, hlines⟩
  · exact .inl hgone
  · refine .inr ⟨t, ht, hcomplete, fun row hrow hne => ?_⟩
    rcases List.mem_append.1 hrow with hrow | hrow
    · exact hlines row hrow hne
    · rw [List.mem_singleton.1 hrow, he] at hne
      cases hne

/-- A packet whose row is written keeps the invariant. -/
theorem Inv.writeRow (hs : SerdeJson.Lawful) {x : System} (h : x.Inv config deviceMetadata s₀)
    {j : Job} (hj : x.job = some j) {w : AnalysisWriter} (hw : j.writer = some w)
    (item : MessageItem) (hitem : j.reader.getNextMessage.1 = .ok (some item)) :
    Inv config deviceMetadata s₀
      { x with
        storage := x.storage.withDisk (Rayhunter.writeLine x.storage.device.disk w.path
          (w.harness.analyzeQmdlMessage item).1.toJson none)
        job := some
          { j with
            reader := j.reader.getNextMessage.2
            writer := some { w with harness := (w.harness.analyzeQmdlMessage item).2 } } } := by
  have hpath := h.writer_path hj hw
  rw [hpath]
  refine h.writeLine hj _ _ fun e hright j' hj' => ?_
  cases hj'
  obtain ⟨-, done, hrows, hwritten⟩ := hright.writing w hw
  refine ⟨rfl, e, hright.found, hright.report, hright.metaPath, nofun, ?_⟩
  rintro w' ⟨⟩
  refine ⟨rfl, done ++ [(w.harness.analyzeQmdlMessage item).1], ?_, ?_⟩
  · rw [completeRows_writeLine hright]
    exact completeRows_next hitem hrows
  · refine written_writeLine hs hwritten (.row _ ?_) [_] ?_
    · have hmem : (w.harness.analyzeQmdlMessage item).1 ∈ (w.harness.analyzeItems [item]).1 := by
        simp [Harness.analyzeItems]
      exact packetNum_lt hs hmem
    · intro row hrow _
      rw [List.mem_singleton.1 hrow]

/-- One round of the loop over the messages keeps the invariant. -/
theorem Inv.analyzePacket (hs : SerdeJson.Lawful) {x : System}
    (h : x.Inv config deviceMetadata s₀) {j : Job} (hj : x.job = some j) {w : AnalysisWriter}
    (hw : j.writer = some w) (fault : WriteFault) :
    (x.analyzePacket j w fault).Inv config deviceMetadata s₀ := by
  unfold System.analyzePacket
  have hend := h.finishAnalysis hj hw
  have hskip := h.skipRow hj hw
  have hwrite := h.writeRow hs hj hw
  generalize j.reader.getNextMessage = q at hend hskip hwrite ⊢
  obtain ⟨next, reader⟩ := q
  cases next with
  | error e => exact h.stopEarly
  | ok item =>
    cases item with
    | none => exact hend rfl
    | some item =>
      rcases w.analyzeMessage_cases item fault x.storage.device.disk with
        ⟨he, heq⟩ | ⟨-, -, heq⟩ | ⟨-, e, n, -, heq⟩ <;> simp only [heq]
      · exact hskip item rfl he
      · exact hwrite item rfl
      · rw [h.writer_path hj hw]
        exact h.writeLine hj _ _ fun _ _ _ hj' => nomatch hj'

/-! ## The steps of a pruning -/

/-- A recording judged clean has no finding in the store the run began with. -/
theorem Inv.not_hasFinding_of_clean (hs : SerdeJson.Lawful) {x : System}
    (h : x.Inv config deviceMetadata s₀) {name : String} {e : ManifestEntry}
    (hf : x.storage.store.first name = some e) (hn : name ∉ x.unfinished) {report : FileContent}
    (hr : reportOf x.storage e = some report) (hl : LooksClean report.lines)
    {e₀ : ManifestEntry} (he₀ : e₀ ∈ s₀.store.manifest.entries) (hkey : e₀.key = e.key) :
    ¬ HasFinding config deviceMetadata s₀ e₀ := by
  intro hfind
  have hkept := h.kept e₀ he₀ hfind
  have hcov := h.trusted name e report hf hn hr hl
  -- the report is there, so the recording is what it was in the first store
  have hreport : x.storage.files (e₀.getFilepath .analysis s₀.store.path) = some report := by
    rw [← h.path, ManifestEntry.getFilepath_congr hkey]
    exact hr
  have hside := hkept.sidecar.resolve_left (by rw [hreport]; simp)
  have hsame : completeRows config deviceMetadata x.storage e₀ =
      completeRows config deviceMetadata s₀ e₀ :=
    completeRows_congr h.path hkept.qmdl hside
  refine not_hasFinding_of_covers hs hcov hl ?_
  unfold HasFinding at hfind ⊢
  rwa [← completeRows_of_key hkey, hsame]

/-- Judging a recording keeps the invariant, unless it is judged by an unfinished report. -/
theorem Inv.judge (hs : SerdeJson.Lawful) {x : System} (h : x.Inv config deviceMetadata s₀)
    {p : Pruning} (hp : x.pruning = some p) {reading : DiskReading} {report : ReportIo}
    (hok : JudgesFinished x (.judge reading report)) :
    (x.judge p reading report).Inv config deviceMetadata s₀ := by
  have hdecided : ∀ pruning : Option Pruning,
      (∀ p' name, pruning = some p' → p'.decided = some name → name ∉ x.unfinished ∧
        ∀ e, x.storage.store.first name = some e → ∀ e₀ ∈ s₀.store.manifest.entries,
          e₀.key = e.key → ¬ HasFinding config deviceMetadata s₀ e₀) →
      Inv config deviceMetadata s₀ { x with pruning } := fun pruning hdec =>
    ⟨h.path, h.kept, h.trusted, h.job, hdec⟩
  unfold System.judge
  split
  · exact hdecided none (fun _ _ hnone => nomatch hnone)
  · next name names hnames =>
    split
    · exact hdecided none (fun _ _ hnone => nomatch hnone)
    · split
      · refine hdecided _ fun p' n hp' hn => h.decided p n hp ?_
        cases hp'
        exact hn
      · next i e he =>
        refine hdecided _ fun p' n hp' hn => ?_
        cases hp'
        simp only at hn
        split at hn
        · next hv =>
          cases hn
          obtain ⟨e', he', hex, -, r, hr, hl⟩ := verdictFor_eq_clean.1 (by simpa using hv)
          obtain ⟨-, hget, -⟩ := RecordingStore.entryForName_eq_some he
          rw [hget] at he'
          cases he'
          have hlook := hl.of_reportLines
          have hnot : name ∉ x.unfinished := by
            intro hmem
            rcases hok p name names i e hp hnames he hmem with hexempt | hdirty
            · exact hex hexempt
            · exact hdirty r hr hlook
          have hfirst := RecordingStore.first_eq_some.2 ⟨i, he⟩
          refine ⟨hnot, fun e' hf' e₀ he₀ hkey => ?_⟩
          rw [hfirst] at hf'
          cases hf'
          exact h.not_hasFinding_of_clean hs hfirst hnot hr hlook he₀ hkey
        · cases hn

/-- A report that is left when a recording is deleted is the one it was, and so are the files it is
about. -/
theorem trusted_of_deleted {s s' : Storage} {u : List String}
    (h : ∀ name e report, s.store.first name = some e → name ∉ u →
      reportOf s e = some report → LooksClean report.lines →
        Covers config deviceMetadata s e report)
    {e : ManifestEntry} (hfirst : s.store.first e.name = some e) (hdel : Deleted e s s') :
    ∀ name e' report, s'.store.first name = some e' → name ∉ u →
      reportOf s' e' = some report → LooksClean report.lines →
        Covers config deviceMetadata s' e' report := by
  intro name e' report hf hn hr hl
  unfold reportOf at hr
  rw [hdel.path] at hr
  have hleft : s'.files (e'.getFilepath .analysis s.store.path) ≠ none := by rw [hr]; simp
  have hf' : s.store.first name = some e' := by
    by_cases hname : name = e.name
    · subst hname
      rcases hdel.again e' hf with rfl | hgone
      · exact hfirst
      · exact absurd hgone hleft
    · rw [← hdel.first name hname]
      exact hf
  have hr' : reportOf s e' = some report := by
    rw [← hr]
    exact ((hdel.sameOrGone e' .analysis).resolve_right hleft).symm
  have hmeta := (hdel.reportFirst e').resolve_right hleft
  intro row hrow he
  rcases hdel.sameOrGone e' .qmdl with hq | hgone
  · rw [completeRows_congr hdel.path hq hmeta] at hrow
    exact h name e' report hf' hn hr' hl row hrow he
  · rw [completeRows, hdel.path, hgone] at hrow
    cases hrow

/-- Deleting a recording that was judged clean keeps the invariant. -/
theorem Inv.delete [Toml] {x : System} (h : x.Inv config deviceMetadata s₀) {p : Pruning}
    (hp : x.pruning = some p) {name : String} (hdec : p.decided = some name) (io : DeleteIo) :
    (x.delete p name io).Inv config deviceMetadata s₀ := by
  obtain ⟨hnot, hclean⟩ := h.decided p name hp hdec
  unfold System.delete
  cases he : x.storage.store.entryForName name with
  | none =>
    have heq : x.storage.deleteEntry name io = (.error .noSuchEntryError, x.storage) := by
      unfold deleteEntry
      simp only [he]
    rw [heq]
    refine ⟨h.path, h.kept, h.trusted, h.job, fun p' n hp' hn => ?_⟩
    cases hp'
    cases hn
  | some q =>
    obtain ⟨i, e⟩ := q
    have hfirst := RecordingStore.first_eq_some.2 ⟨i, he⟩
    obtain ⟨-, hget, hname⟩ := RecordingStore.entryForName_eq_some he
    have hdel := deleteEntry_deleted he io
    obtain rfl := hname
    generalize x.storage.deleteEntry e.name io = r at hdel ⊢
    obtain ⟨res, s⟩ := r
    simp only at hdel ⊢
    refine ⟨hdel.path.trans h.path, fun e₀ he₀ hfind => ?_, fun n e' report hf hn hr hl => ?_,
      fun j hj => ?_, fun p' n hp' hn => ?_⟩
    · have hkey : e₀.key ≠ e.key := fun hkey => hclean e hfirst e₀ he₀ hkey hfind
      obtain ⟨hlist, hqmdl, hside⟩ := h.kept e₀ he₀ hfind
      rw [← h.path] at hqmdl hside
      refine ⟨hdel.listed e₀ hlist hkey, ?_, ?_⟩ <;> rw [← h.path]
      · exact (hdel.qmdl e₀ hkey).trans hqmdl
      · rcases hside with hnone | hsame
        · left
          rcases hdel.sameOrGone e₀ .analysis with hs | hs
          · exact hs.trans hnone
          · exact hs
        · rcases hdel.reportFirst e₀ with hm | hm
          · exact .inr (hm.trans hsame)
          · exact .inl hm
    · exact trusted_of_deleted h.trusted hfirst hdel n e' report hf hn hr hl
    · obtain ⟨hmem, e', hright⟩ := h.job j hj
      exact ⟨hmem, e', hright.deleted hdel fun heq => hnot (heq ▸ hmem)⟩
    · cases hp'
      cases hn

/-! ## Every run -/

variable [Build] [Toml]

/-- Every step of the runs in question keeps the invariant. -/
theorem Inv.step (hs : SerdeJson.Lawful) {x x' : System} (h : x.Inv config deviceMetadata s₀)
    {i : SystemStep} (hok : JudgesFinished x i)
    (hst : x.step config deviceMetadata i = some x') : x'.Inv config deviceMetadata s₀ := by
  cases i with
  | beginAnalysis name io =>
    simp only [System.step] at hst
    split at hst
    · next hp => cases hst; exact h.beginAnalysis hp name io
    · cases hst
  | writeMetadata readFault fault =>
    simp only [System.step] at hst
    split at hst
    · next j hj =>
      split at hst
      · next hw =>
        cases hst
        obtain rfl : readFault = none := hok
        exact h.writeMetadata hs hj (Option.isNone_iff_eq_none.1 hw) fault
      · cases hst
    · cases hst
  | analyzePacket fault =>
    simp only [System.step] at hst
    split at hst
    · next j hj =>
      obtain ⟨w, hw, rfl⟩ := Option.map_eq_some_iff.1 hst
      exact h.analyzePacket hs hj hw fault
    · cases hst
  | startPruning targetMb uploadsConfigured reading =>
    simp only [System.step] at hst
    split at hst
    · cases hst
    · split at hst <;> cases hst
      · exact h
      · refine ⟨h.path, h.kept, h.trusted, h.job, fun p n hp hn => ?_⟩
        cases hp
        cases hn
  | judge reading report =>
    simp only [System.step] at hst
    split at hst
    · next p hp =>
      split at hst
      · cases hst; exact h.judge hs hp hok
      · cases hst
    · cases hst
  | delete io =>
    simp only [System.step] at hst
    split at hst
    · next p hp =>
      obtain ⟨name, hn, rfl⟩ := Option.map_eq_some_iff.1 hst
      exact h.delete hp hn io
    · cases hst

omit [Build] [Toml] in
/-- The invariant holds before anything happens. -/
theorem inv_start (ht : Trusted config deviceMetadata s₀) :
    (start s₀).Inv config deviceMetadata s₀ := by
  refine ⟨rfl, fun e he _ => ⟨he, rfl, .inr rfl⟩, fun n e report hf _ hr hl => ?_, nofun, nofun⟩
  obtain ⟨i, hi⟩ := RecordingStore.first_eq_some.1 hf
  exact ht n i e report hi hr hl

/-- **No recording with a finding is pruned** in a run from a store whose reports can be trusted, in
which no recording is judged by an unfinished report; and where one is judged clean, its report
covers it. -/
theorem prune_keeps_findings (hs : SerdeJson.Lawful) (ht : Trusted config deviceMetadata s₀)
    {x : System}
    (h : Reach (· = start s₀) (step config deviceMetadata) JudgesFinished x) :
    (∀ e ∈ s₀.store.manifest.entries, HasFinding config deviceMetadata s₀ e →
      e ∈ x.storage.store.manifest.entries ∧
        x.storage.files (e.getFilepath .qmdl s₀.store.path) =
          s₀.files (e.getFilepath .qmdl s₀.store.path)) ∧
    ∀ p name names i e reading io, x.pruning = some p → p.names = name :: names →
      x.storage.store.entryForName name = some (i, e) → JudgesFinished x (.judge reading io) →
      verdictFor x.storage i p.uploadsConfigured io = .clean →
        ∃ report, reportOf x.storage e = some report ∧
          Covers config deviceMetadata x.storage e report := by
  have hinv : x.Inv config deviceMetadata s₀ :=
    h.invariant (fun x hx => by rw [hx]; exact inv_start ht)
      fun x i x' hi hok hst => hi.step hs hok hst
  refine ⟨fun e he hfind => ?_, fun p name names i e reading io hp hnames he hok hv => ?_⟩
  · obtain ⟨hlist, hqmdl, -⟩ := hinv.kept e he hfind
    exact ⟨hlist, hqmdl⟩
  · obtain ⟨e', he', hex, -, report, hr, hl⟩ := verdictFor_eq_clean.1 hv
    obtain ⟨-, hget, -⟩ := RecordingStore.entryForName_eq_some he
    rw [hget] at he'
    cases he'
    have hlook := hl.of_reportLines
    refine ⟨report, hr, hinv.trusted name e report (RecordingStore.first_eq_some.2 ⟨i, he⟩) ?_ hr
      hlook⟩
    intro hmem
    rcases hok p name names i e hp hnames he hmem with hexempt | hdirty
    · exact hex hexempt
    · exact hdirty report hr hlook

end System

/-! ## A finding that is deleted -/

/-- A recording of the demonstration's security mode command. -/
def nullCipherEntry : ManifestEntry := @ManifestEntry.new deviceBuild .disabled anInstant 0

/-- The container it was recorded from. -/
def nullCipherContainers : List MessagesContainer := [containerOf [nullCipherFrame]]

/-- A store with that recording, closed, and an empty report. -/
def nullCipherStorage : Storage where
  store := ⟨defaultStorePath, ⟨[nullCipherEntry]⟩, none⟩
  device :=
    { disk := ((Disk.mk fun _ => none).set (nullCipherEntry.getFilepath .qmdl defaultStorePath)
        (some (.bytes (storedEncode (QmdlWriter.recordOps nullCipherContainers) true)))).set
          (nullCipherEntry.getFilepath .analysis defaultStorePath) (some (.text ""))
      entrySequence := 1 }

omit [Decoders] [Detectors] [Gzip] [SerdeJson] [Sidecar] in
/-- The recording has a finding. -/
theorem hasFinding_nullCipher :
    let _ := nasDecoders
    let _ := nullCipherDetectors
    let _ := storedGzip
    let _ := jsonText
    let _ := sidecarJson
    HasFinding nullCipherConfig ⟨[]⟩ nullCipherStorage nullCipherEntry := by
  let _ := nasDecoders
  let _ := nullCipherDetectors
  let _ := storedGzip
  let _ := jsonText
  let _ := sidecarJson
  intro _ _ _ _ _
  have hq : nullCipherStorage.files
        (nullCipherEntry.getFilepath .qmdl nullCipherStorage.store.path) =
      some (.bytes (Gzip.encode (QmdlWriter.recordOps nullCipherContainers) true)) := rfl
  have hrows : completeRows nullCipherConfig ⟨[]⟩ nullCipherStorage nullCipherEntry =
      ((Harness.newWithConfig nullCipherConfig (metadataFor ⟨[]⟩ (nullCipherStorage.files
        (nullCipherEntry.getFilepath .metadata nullCipherStorage.store.path)))).analyzeItems
        ((Chunks.splitInclusive isTerminator (QmdlWriter.frames nullCipherContainers).flatten).map
          Message.fromHdlc)).1 := by
    rw [completeRows, hq, rowsOf]
    simp only [FileContent.toBytes]
    rw [QmdlMessageReader.readAll_encode storedGzip_lossless]
  have hany : (((Harness.newWithConfig nullCipherConfig ⟨[]⟩).analyzeItems
      ((Chunks.splitInclusive isTerminator (QmdlWriter.frames nullCipherContainers).flatten).map
        Message.fromHdlc)).1).any (·.containsWarnings) = true := by
    decide +kernel
  unfold HasFinding
  rw [hrows]
  obtain ⟨row, hrow, hw⟩ := List.any_eq_true.1 hany
  exact ⟨row, hrow, hw⟩

omit [Decoders] [Detectors] [Gzip] [SerdeJson] [Sidecar] in
/-- A blank report does not look clean, so the store's reports can be trusted. -/
theorem trusted_nullCipher :
    let _ := nasDecoders
    let _ := nullCipherDetectors
    let _ := storedGzip
    let _ := jsonText
    let _ := sidecarJson
    let _ := oneInstant
    Trusted nullCipherConfig ⟨[]⟩ nullCipherStorage := by
  let _ := nasDecoders
  let _ := nullCipherDetectors
  let _ := storedGzip
  let _ := jsonText
  let _ := sidecarJson
  let _ := oneInstant
  intro _ _ _ _ _ _ name i e report he hr hl
  obtain ⟨-, hget, -⟩ := RecordingStore.entryForName_eq_some he
  obtain ⟨-, line, hline, -⟩ := hl
  have hmem : e ∈ [nullCipherEntry] := List.mem_of_getElem? hget
  obtain rfl := List.mem_singleton.1 hmem
  have hblank : reportOf nullCipherStorage nullCipherEntry = some (.text "") := rfl
  rw [hblank] at hr
  cases hr
  cases hline

omit [Decoders] [Detectors] [Gzip] [SerdeJson] [Sidecar] in
/-- A pruning that comes between the first line of a new report and the rows deletes a recording
with a finding. -/
theorem prune_deletes_finding :
    let _ := nasDecoders
    let _ := nullCipherDetectors
    let _ := storedGzip
    let _ := jsonText
    let _ := sidecarJson
    let _ := oneInstant
    let _ := deviceBuild
    let _ := tomlAt "2024-08-19T03:33:54+00:00"
    ¬ ∀ (s₀ : Storage) (x : System), Trusted nullCipherConfig ⟨[]⟩ s₀ →
      Reach (· = System.start s₀) (System.step nullCipherConfig ⟨[]⟩) (fun _ _ => True) x →
      ∀ e ∈ s₀.store.manifest.entries, HasFinding nullCipherConfig ⟨[]⟩ s₀ e →
        e ∈ x.storage.store.manifest.entries := by
  let _ := nasDecoders
  let _ := nullCipherDetectors
  let _ := storedGzip
  let _ := jsonText
  let _ := sidecarJson
  let _ := oneInstant
  let _ := deviceBuild
  let _ := tomlAt "2024-08-19T03:33:54+00:00"
  intro _ _ _ _ _ _ _ _ h
  let metadata := (Harness.newWithConfig nullCipherConfig ⟨[]⟩).getMetadata
  let report := "" ++ (SerdeJson.toString metadata.toJson ++ "\n")
  -- the report has been emptied and has its first line again when the pruning starts
  obtain ⟨x, hrun, hp, hreport, hstore, hdel⟩ : ∃ x : System,
      Reach (· = System.start nullCipherStorage) (System.step nullCipherConfig ⟨[]⟩)
        (fun _ _ => True) x ∧
      x.pruning = some ⟨1, false, [nullCipherEntry.name], none, 0⟩ ∧
      reportOf x.storage nullCipherEntry = some (.text report) ∧
      x.storage.store = nullCipherStorage.store ∧
      (x.storage.deleteEntry nullCipherEntry.name {}).2.store.manifest.entries = [] :=
    ⟨_, .step (.step (.step (.init rfl) (i := .beginAnalysis nullCipherEntry.name {}) trivial rfl)
      (i := .writeMetadata none none) trivial rfl)
      (i := .startPruning 1 false diskFull) trivial rfl, rfl, rfl, rfl, rfl⟩
  have hvalue : ReportValue metadata.toJson := .metadata _ (by decide) (by decide)
  have hlines : (FileContent.text report).lines = [some (SerdeJson.toString metadata.toJson)] := by
    obtain ⟨hnew, -⟩ := Text.lines_append_line Text.complete_empty
      (jsonText_lawful.isLine_toString hvalue)
    show (Text.lines report).map some = _
    rw [show report = "" ++ SerdeJson.toString metadata.toJson ++ "\n" from
      (String.append_assoc ..).symm, hnew]
    rfl
  have hclean : verdictFor x.storage 0 false {} = .clean := by
    refine verdictFor_eq_clean.2 ⟨nullCipherEntry, by rw [hstore]; rfl, by rw [hstore]; decide, rfl,
      _, hreport, ?_⟩
    show LooksClean (FileContent.text report).lines
    rw [hlines]
    have hclass : classifyLine (SerdeJson.toString metadata.toJson) = .noWarning := by
      rw [classifyLine_of_fromStr jsonText_lawful (jsonText_lawful.fromStr_toString hvalue)]
      decide
    refine ⟨fun l hl => ⟨_, List.mem_singleton.1 hl, hclass⟩, _, List.mem_singleton.2 rfl, ?_⟩
    rw [jsonText_lawful.trim_toString hvalue]
    exact jsonText_lawful.toString_ne_empty hvalue
  have hfound : x.storage.store.entryForName nullCipherEntry.name = some (0, nullCipherEntry) := by
    rw [hstore]; rfl
  have hjudged := Reach.step hrun (i := .judge diskFull {}) trivial
    (show System.step nullCipherConfig ⟨[]⟩ x (.judge diskFull {}) = some
      { x with pruning := some ⟨1, false, [], some nullCipherEntry.name, 0⟩ } by
        have hroom : ¬ (1 : UInt64) ≤ pruneAvailableMb diskFull := by decide
        simp only [System.step, hp, System.judge, if_neg hroom, hfound, hclean]
        rfl)
  have hgone := Reach.step hjudged (i := .delete {}) trivial rfl
  have hmem := h _ _ trusted_nullCipher hgone nullCipherEntry (List.mem_singleton.2 rfl)
    hasFinding_nullCipher
  have hnil : nullCipherEntry ∈
      (x.storage.deleteEntry nullCipherEntry.name {}).2.store.manifest.entries := hmem
  rw [hdel] at hnil
  cases hnil

omit [Decoders] [Detectors] [Gzip] [SerdeJson] [Sidecar] in
/-- A pruning that comes before the first line of the new report leaves the recording alone. -/
theorem prune_keeps_findings_blank :
    let _ := nasDecoders
    let _ := nullCipherDetectors
    let _ := storedGzip
    let _ := jsonText
    let _ := sidecarJson
    let _ := oneInstant
    let _ := deviceBuild
    let _ := tomlAt "2024-08-19T03:33:54+00:00"
    ∃ x : System, x.unfinished = [nullCipherEntry.name] ∧
      x.pruning = some ⟨1, false, [], none, 0⟩ ∧
      nullCipherEntry ∈ x.storage.store.manifest.entries := by
  let _ := nasDecoders
  let _ := nullCipherDetectors
  let _ := storedGzip
  let _ := jsonText
  let _ := sidecarJson
  let _ := oneInstant
  let _ := deviceBuild
  let _ := tomlAt "2024-08-19T03:33:54+00:00"
  intro _ _ _ _ _ _ _ _
  have hrun : Reach (· = System.start nullCipherStorage) (System.step nullCipherConfig ⟨[]⟩)
      JudgesFinished _ :=
    .step (.step (.step (.init rfl) (i := .beginAnalysis nullCipherEntry.name {}) trivial rfl)
      (i := .startPruning 1 false diskFull) trivial rfl) (i := .judge diskFull {}) ?_ rfl
  · refine ⟨_, ?_, ?_, ((System.prune_keeps_findings jsonText_lawful trusted_nullCipher hrun).1
      nullCipherEntry (List.mem_singleton.2 rfl) hasFinding_nullCipher).1⟩
    · rfl
    · rfl
  · rintro p name names i e ⟨⟩ - he -
    refine .inr fun report hr hl => ?_
    obtain ⟨-, hget, -⟩ := RecordingStore.entryForName_eq_some he
    have hmem : e ∈ [nullCipherEntry] := List.mem_of_getElem? hget
    obtain rfl := List.mem_singleton.1 hmem
    obtain ⟨-, line, hline, -⟩ := hl
    have hblank : some (FileContent.text "") = some report := hr
    cases hblank
    cases hline

end Rayhunter
