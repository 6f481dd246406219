import Rayhunter.Lib.Reach
import Rayhunter.Lib.Text
import Rayhunter.Recorder.Step

/-!
# Downloading a recording

`get_zip` (`daemon/src/server.rs`) looks a recording up once and remembers where it stands in the
manifest. The archive is put together afterwards by a task of its own, which takes the store's lock
anew for each file and opens what stands at that place by then. The lock is free in between, so
recordings before it may have been deleted, or another store opened. Where each opening still finds the
recording, or no file, everything in the archive is the recording's (`Zip.archive_about_one`).
-/

namespace Rayhunter

open Runs Storage

/-! ## The archive -/

/-- A file of the archive, by what it was made from: a file of the store as it is, a capture
converted with the positions merged into it, `metadata.json` of an entry with the detectors of a
report, and what was redacted from a capture. -/
inductive ArchiveFile
  | stored (kind : FileKind) (source : FilePath)
  | pcap (source : FilePath) (gps : Option FilePath)
  | metadata (id : String) (analysis : Option FilePath)
  | redactionReport (source : FilePath)
  deriving DecidableEq, Repr

namespace ArchiveFile

/-- The name of a file in the archive; the capture is never compressed there (`server.rs:1575`). -/
def name (qmdlIdx : String) : ArchiveFile → String
  | stored kind _ => kind.getFilename qmdlIdx false
  | pcap _ _ => s!"{qmdlIdx}.pcapng"
  | metadata _ _ => "metadata.json"
  | redactionReport _ => "redaction-report.json"

/-- The files of the store it was made from, each with the kind it was opened as. -/
def sources : ArchiveFile → List (FileKind × FilePath)
  | stored kind source => [(kind, source)]
  | pcap source gps => (.qmdl, source) :: gps.toList.map (.gps, ·)
  | metadata _ analysis => analysis.toList.map (.analysis, ·)
  | redactionReport source => [(.qmdl, source)]

/-- The recording it says it is about. -/
def describes : ArchiveFile → Option String
  | metadata id _ => some id
  | _ => none

end ArchiveFile

/-! ## The request -/

/-- How far a request is: what it opens next, or how it ended. `stored kind kinds` is before `kind`,
with `kinds` after it; `gps` is in the handler, the rest in the task it has spawned. -/
inductive ZipStage
  | gps
  | stored (kind : FileKind) (kinds : List FileKind)
  | pcap
  | metadata
  | closed
  | aborted
  | panicked
  deriving DecidableEq, Repr

namespace ZipStage

/-- The kind of file that is opened next. -/
def opens : ZipStage → Option FileKind
  | gps => some .gps
  | stored kind _ => some kind
  | pcap => some .qmdl
  | metadata => some .analysis
  | _ => none

/-- The stage at which these kinds of files are still to be stored. -/
def storing : List FileKind → ZipStage
  | [] => pcap
  | kind :: kinds => stored kind kinds

end ZipStage

/-- A request that found its recording: the entry as it was then (`manifest_entry`) with the
directory of the store, the positions loaded for it, the capture a redaction report is about, and
the archive so far. -/
structure Download where
  redact : Bool
  qmdlIdx : String
  entryIndex : Nat
  entry : ManifestEntry
  dir : PathBuf
  gpsRecords : Option FilePath := none
  redactionReport : Option FilePath := none
  archive : List ArchiveFile := []
  stage : ZipStage := .gps
  deriving DecidableEq, Repr

/-- Whether a query asks for a redacted archive (`server.rs:1485`). -/
def asksToRedact (rawQuery : Option String) : Bool :=
  (rawQuery.map fun q => (q.toList.splitOn '&').any fun pair =>
    String.ofList pair = "redact=1" || String.ofList pair = "redact=true").getD false

/-- `get_zip` (`server.rs:1475`) up to the end of its first lock; the error is the status code with
the body. -/
def Storage.getZip (s : Storage) (entryName : String) (rawQuery : Option String) :
    Except (Nat × String) Download :=
  let qmdlIdx := Text.trimEndMatches entryName ".zip"
  match s.store.entryForName qmdlIdx with
  | none => .error (404, s!"couldn't find entry with name {qmdlIdx}")
  | some (entryIndex, entry) =>
    if entry.qmdlSizeBytes = 0 then .error (503, "QMDL file is empty, try again in a bit!")
    else
      .ok { redact := asksToRedact rawQuery, qmdlIdx, entryIndex, entry, dir := s.store.path }

namespace Download

/-- The name the archive is saved under (`server.rs:1695`). -/
def filename (d : Download) : String :=
  let suffix := if d.redact then "-redacted" else ""
  match d.entry.displayName with
  | some name => s!"{name}-{d.qmdlIdx}{suffix}.zip"
  | none => s!"{d.qmdlIdx}{suffix}.zip"

/-- How much of a file reached the archive before an error, if there was one. -/
inductive Written
  | nothing
  | part
  | all
  deriving DecidableEq, Repr

/-- What disk and client answer while a file is opened and copied: the error of opening it, whether
what is read is what is looked for there (device details, or the first line of a report), whether a
capture could be converted to its end, and how much of the file was written, with the same for the
redaction report that comes last. -/
structure ZipIo where
  «open» : Option IoError := none
  readable : Bool := true
  converted : Bool := true
  written : Written := .all
  report : Written := .all
  deriving DecidableEq, Repr

/-- The kinds of files an archive is given, without the capture where it is redacted
(`server.rs:1528`). -/
def storedKinds (redact : Bool) : List FileKind :=
  FileKind.ALL.filter fun kind => !(redact && kind == .qmdl)

/-- The request at another stage. -/
def moveTo (d : Download) (stage : ZipStage) : Download := { d with stage }

/-- A file written to the archive, which ends with it where not all of it could be. -/
def write (d : Download) (file : ArchiveFile) (written : Written) (after : ZipStage) : Download :=
  match written with
  | .nothing => d.moveTo .aborted
  | .part => { d with archive := d.archive ++ [file], stage := .aborted }
  | .all => { d with archive := d.archive ++ [file], stage := after }

/-- A round of the loop over the stored files (`server.rs:1528`). -/
def store (d : Download) (kind : FileKind) (kinds : List FileKind)
    (opened : Except RecordingStoreError (Option FilePath)) (io : ZipIo) : Download :=
  match opened with
  | .error _ => d.moveTo .aborted
  | .ok none => d.moveTo (.storing kinds)
  | .ok (some path) =>
    -- Device details nobody can redact are left out, and the archive goes on without them.
    if d.redact && kind == .metadata && !io.readable then d.moveTo (.storing kinds)
    else d.write (.stored kind path) io.written (.storing kinds)

/-- The capture converted (`server.rs:1596`). What is left of one that cannot be converted stays in
the archive, which ends there where it is redacted. -/
def convert (d : Download) (opened : Except RecordingStoreError (Option FilePath)) (io : ZipIo) :
    Download :=
  match opened with
  | .error _ => d.moveTo .aborted
  | .ok none => d.moveTo .aborted
  | .ok (some path) =>
    let file := .pcap path d.gpsRecords
    if d.redact then
      if io.converted then { d with redactionReport := some path }.write file io.written .metadata
      else d.write file io.written .aborted
    else d.write file io.written .metadata

/-- The end of the archive (`server.rs:1649`): `metadata.json`, and what was redacted. -/
def describe (d : Download) (opened : Except RecordingStoreError (Option FilePath)) (io : ZipIo) :
    Download :=
  let analysis := if io.readable then opened.toOption.join else none
  let d' := d.write (.metadata d.entry.name analysis) io.written .closed
  match d.redactionReport, io.written with
  | some path, .all => d'.write (.redactionReport path) io.report .closed
  | _, _ => d'

/-- What a request does with what it has opened. -/
def receive (d : Download) (opened : Except RecordingStoreError (Option FilePath)) (io : ZipIo) :
    Download :=
  match d.stage with
  | .gps =>
    { d with gpsRecords := opened.toOption.join, stage := .storing (storedKinds d.redact) }
  | .stored kind kinds => d.store kind kinds opened io
  | .pcap => d.convert opened io
  | .metadata => d.describe opened io
  | _ => d

/-- The next opening of a request, under a lock of its own. There is none once it has ended. -/
def next (d : Download) (s : Storage) (io : ZipIo) : Option Download :=
  d.stage.opens.map fun kind =>
    match s.openFile d.entryIndex kind io.open with
    | none => d.moveTo .panicked
    | some opened => d.receive opened io

/-! ## Whose files they are -/

/-- The files of the store a request has read so far, each with the kind it was opened as. -/
def sources (d : Download) : List (FileKind × FilePath) :=
  d.gpsRecords.toList.map (.gps, ·) ++ d.redactionReport.toList.map (.qmdl, ·) ++
    d.archive.flatMap ArchiveFile.sources

/-- The archive is about the recording that was asked for, and putting it together has not
panicked. -/
structure AboutOne (d : Download) : Prop where
  named : d.entry.name = d.qmdlIdx
  own : ∀ file ∈ d.archive, ∀ source ∈ file.sources,
    source.2 = d.entry.getFilepath source.1 d.dir
  described : ∀ file ∈ d.archive, ∀ id ∈ file.describes, id = d.qmdlIdx
  stage : d.stage ≠ .panicked

/-- Where the recording stood there still is one, and the file of it that is to be opened is the
file of the recording that was asked for, or is not there. -/
def findsRecording (d : Download) (s : Storage) : Bool :=
  d.stage.opens.all fun kind =>
    (s.store.manifest.entries[d.entryIndex]?).any fun e =>
      e.getFilepath kind s.store.path = d.entry.getFilepath kind d.dir ||
        !s.device.disk.Exists (e.getFilepath kind s.store.path)

/-- What holds of a request between its openings: all it has read is the recording's. -/
structure Inv (d : Download) : Prop where
  named : d.entry.name = d.qmdlIdx
  own : ∀ source ∈ d.sources, source.2 = d.entry.getFilepath source.1 d.dir
  described : ∀ file ∈ d.archive, ∀ id ∈ file.describes, id = d.qmdlIdx
  stage : d.stage ≠ .panicked

theorem Inv.aboutOne {d : Download} (h : d.Inv) : d.AboutOne where
  named := h.named
  own file hf source hs :=
    h.own source (List.mem_append_right _ (List.mem_flatMap.2 ⟨file, hf, hs⟩))
  described := h.described
  stage := h.stage

/-! ### What an opening keeps -/

/-- What has been opened as a file of this kind is the recording's. -/
def Own (d : Download) (kind : FileKind)
    (opened : Except RecordingStoreError (Option FilePath)) : Prop :=
  ∀ path, opened = .ok (some path) → path = d.entry.getFilepath kind d.dir

/-- A request that finds its recording opens a file of it, if any. -/
theorem openFile_own {d : Download} {s : Storage} {kind : FileKind} (h : d.findsRecording s = true)
    (hk : d.stage.opens = some kind) (fault : Option IoError) :
    ∃ opened, s.openFile d.entryIndex kind fault = some opened ∧ d.Own kind opened := by
  rw [findsRecording, hk, Option.all_some, Option.any_eq_true] at h
  obtain ⟨e, he, h⟩ := h
  obtain ⟨opened, hopen⟩ : ∃ opened, s.openFile d.entryIndex kind fault = some opened :=
    ⟨_, by rw [openFile, he, Option.map_some]⟩
  refine ⟨opened, hopen, fun path hp => ?_⟩
  obtain ⟨e', he', rfl, hex⟩ := openFile_found (hopen.trans (congrArg some hp))
  cases he.symm.trans he'
  simpa [hex] using h

theorem storing_ne (kinds : List FileKind) : ZipStage.storing kinds ≠ .panicked := by
  cases kinds <;> nofun

theorem Inv.moveTo {d : Download} (h : d.Inv) {stage : ZipStage} (hs : stage ≠ .panicked) :
    (d.moveTo stage).Inv := ⟨h.named, h.own, h.described, hs⟩

/-- A file made from the recording's keeps the archive about it. -/
theorem Inv.write {d : Download} (h : d.Inv) {file : ArchiveFile} {after : ZipStage}
    (hown : ∀ source ∈ file.sources, source.2 = d.entry.getFilepath source.1 d.dir)
    (hdesc : ∀ id ∈ file.describes, id = d.qmdlIdx) (hafter : after ≠ .panicked)
    (written : Written) : (d.write file written after).Inv := by
  have hadded : ∀ stage, stage ≠ .panicked →
      Inv { d with archive := d.archive ++ [file], stage := stage } := by
    refine fun stage hs => ⟨h.named, fun source hmem => ?_, fun f hf => ?_, hs⟩
    · have hmem' : source ∈ d.sources ++ file.sources := by
        simpa [sources, or_assoc] using hmem
      rcases List.mem_append.1 hmem' with hold | hnew
      · exact h.own source hold
      · exact hown source hnew
    · rcases List.mem_append.1 hf with hold | hnew
      · exact h.described f hold
      · exact (List.mem_singleton.1 hnew) ▸ hdesc
  cases written with
  | nothing => exact h.moveTo nofun
  | part => exact hadded _ nofun
  | all => exact hadded _ hafter

theorem Inv.store {d : Download} (h : d.Inv) {kind : FileKind} (kinds : List FileKind)
    {opened : Except RecordingStoreError (Option FilePath)} (ho : d.Own kind opened) (io : ZipIo) :
    (d.store kind kinds opened io).Inv := by
  unfold Download.store
  split
  · exact h.moveTo nofun
  · exact h.moveTo (storing_ne kinds)
  · next path =>
    split
    · exact h.moveTo (storing_ne kinds)
    · refine h.write (fun source hs => ?_) (by simp [ArchiveFile.describes]) (storing_ne kinds) _
      rw [ArchiveFile.sources, List.mem_singleton] at hs
      exact hs ▸ ho path rfl

/-- The positions merged into the converted capture are the recording's, as the capture is. -/
theorem Inv.pcap {d : Download} (h : d.Inv) {path : FilePath}
    (hp : path = d.entry.getFilepath .qmdl d.dir) :
    ∀ source ∈ (ArchiveFile.pcap path d.gpsRecords).sources,
      source.2 = d.entry.getFilepath source.1 d.dir := by
  intro source hs
  rw [ArchiveFile.sources, List.mem_cons] at hs
  rcases hs with rfl | hgps
  · exact hp
  · exact h.own source (List.mem_append_left _ (List.mem_append_left _ hgps))

theorem Inv.withReport {d : Download} (h : d.Inv) {path : FilePath}
    (hp : path = d.entry.getFilepath .qmdl d.dir) :
    Inv { d with redactionReport := some path } := by
  refine ⟨h.named, fun source hs => ?_, h.described, h.stage⟩
  rcases List.mem_append.1 hs with hs | hs
  · rcases List.mem_append.1 hs with hs | hs
    · exact h.own source (List.mem_append_left _ (List.mem_append_left _ hs))
    · rw [Option.toList_some, List.map_singleton, List.mem_singleton] at hs
      exact hs ▸ hp
  · exact h.own source (List.mem_append_right _ hs)

theorem Inv.convert {d : Download} (h : d.Inv)
    {opened : Except RecordingStoreError (Option FilePath)} (ho : d.Own .qmdl opened) (io : ZipIo) :
    (d.convert opened io).Inv := by
  unfold Download.convert
  split
  · exact h.moveTo nofun
  · exact h.moveTo nofun
  · next path =>
    have hown := h.pcap (ho path rfl)
    have hdesc : ∀ id ∈ (ArchiveFile.pcap path d.gpsRecords).describes, id = d.qmdlIdx := by
      simp [ArchiveFile.describes]
    split
    · split
      · exact (h.withReport (ho path rfl)).write hown hdesc (by decide) _
      · exact h.write hown hdesc (by decide) _
    · exact h.write hown hdesc (by decide) _

theorem Inv.describe {d : Download} (h : d.Inv)
    {opened : Except RecordingStoreError (Option FilePath)} (ho : d.Own .analysis opened)
    (io : ZipIo) : (d.describe opened io).Inv := by
  have hown : ∀ path, (if io.readable then opened.toOption.join else none) = some path →
      path = d.entry.getFilepath .analysis d.dir := by
    intro path hp
    split at hp
    · cases opened with
      | error e => cases hp
      | ok found => exact ho path (congrArg _ hp)
    · cases hp
  unfold Download.describe
  generalize (if io.readable then opened.toOption.join else none) = analysis at hown
  have hmeta : ∀ written, (d.write (.metadata d.entry.name analysis) written .closed).Inv := by
    refine h.write (fun source hs => ?_) (fun id hid => ?_) (by decide)
    · simp only [ArchiveFile.sources, List.mem_map, Option.mem_toList] at hs
      obtain ⟨path, hpath, rfl⟩ := hs
      exact hown path hpath
    · exact (Option.some.inj hid).symm.trans h.named
  simp only
  split
  · next path _ hreport hall =>
    refine (hmeta io.written).write (fun source hs => ?_) (by simp [ArchiveFile.describes])
      (by decide) io.report
    rw [ArchiveFile.sources, List.mem_singleton] at hs
    rw [hall]
    exact h.own source (List.mem_append_left _ (List.mem_append_right _ (by simp [hreport, hs])))
  · exact hmeta io.written

theorem Inv.loadGps {d : Download} (h : d.Inv)
    {opened : Except RecordingStoreError (Option FilePath)} (ho : d.Own .gps opened)
    (kinds : List FileKind) :
    Inv { d with gpsRecords := opened.toOption.join, stage := .storing kinds } := by
  refine ⟨h.named, fun source hs => ?_, h.described, storing_ne kinds⟩
  rcases List.mem_append.1 hs with hs | hs
  · rcases List.mem_append.1 hs with hs | hs
    · simp only [List.mem_map, Option.mem_toList] at hs
      obtain ⟨path, hpath, rfl⟩ := hs
      cases opened with
      | error e => cases hpath
      | ok found => exact ho path (congrArg _ hpath)
    · exact h.own source (List.mem_append_left _ (List.mem_append_right _ hs))
  · exact h.own source (List.mem_append_right _ hs)

/-- An opening that finds the recording keeps the archive about it. -/
theorem Inv.next {d d' : Download} {s : Storage} {io : ZipIo} (h : d.Inv)
    (hf : d.findsRecording s = true) (hn : d.next s io = some d') : d'.Inv := by
  obtain ⟨kind, hk, rfl⟩ := Option.map_eq_some_iff.1 hn
  obtain ⟨opened, hopen, ho⟩ := openFile_own hf hk io.open
  rw [hopen]
  simp only [receive]
  cases hstage : d.stage with
  | gps => rw [hstage] at hk; cases hk; exact h.loadGps ho _
  | stored k kinds => rw [hstage] at hk; cases hk; exact h.store kinds ho io
  | pcap => rw [hstage] at hk; cases hk; exact h.convert ho io
  | metadata => rw [hstage] at hk; cases hk; exact h.describe ho io
  | closed => exact h
  | aborted => exact h
  | panicked => exact h

/-- A request begins about the recording it names. -/
theorem inv_getZip {s : Storage} {entryName : String} {rawQuery : Option String} {d : Download}
    (h : s.getZip entryName rawQuery = .ok d) : d.Inv := by
  simp only [getZip] at h
  split at h
  · cases h
  · next hfound =>
    split at h
    · cases h
    · cases h
      exact ⟨(RecordingStore.entryForName_eq_some hfound).2.2, nofun, nofun, nofun⟩

/-! ### What an opening that does not find the recording does -/

/-- There is nothing at its place, or the file of another. -/
theorem openFile_lost {d : Download} {s : Storage} (h : d.findsRecording s = false) :
    ∃ kind, d.stage.opens = some kind ∧ (s.openFile d.entryIndex kind none = none ∨
      ∃ path, s.openFile d.entryIndex kind none = some (.ok (some path)) ∧
        path ≠ d.entry.getFilepath kind d.dir) := by
  rw [findsRecording, Option.all_eq_false] at h
  obtain ⟨kind, hk, h⟩ := h
  refine ⟨kind, hk, ?_⟩
  rw [openFile]
  cases he : s.store.manifest.entries[d.entryIndex]? with
  | none => exact .inl rfl
  | some e =>
    rw [he] at h
    obtain ⟨hne, hex⟩ : e.getFilepath kind s.store.path ≠ d.entry.getFilepath kind d.dir ∧
        s.device.disk.Exists (e.getFilepath kind s.store.path) := by simpa using h
    exact .inr ⟨e.getFilepath kind s.store.path, by simp [hex], hne⟩

/-- What is received is among what has been read. -/
theorem mem_sources_receive {d : Download} {kind : FileKind} (hk : d.stage.opens = some kind)
    (path : FilePath) : (kind, path) ∈ (d.receive (.ok (some path)) {}).sources := by
  unfold receive
  cases hstage : d.stage with
  | gps => rw [hstage] at hk; cases hk; simp [sources, Except.toOption]
  | stored k kinds =>
    rw [hstage] at hk; cases hk
    simp [Download.store, write, sources, ArchiveFile.sources]
  | pcap =>
    rw [hstage] at hk; cases hk
    simp only [convert]
    split <;> simp [write, sources, ArchiveFile.sources]
  | metadata =>
    rw [hstage] at hk; cases hk
    simp only [describe]
    split <;> simp [write, sources, ArchiveFile.sources, Except.toOption]
  | _ => rw [hstage] at hk; cases hk

/-- A request that does not find its recording reads a file of another, or panics. -/
theorem next_lost {d : Download} {s : Storage} (h : d.findsRecording s = false) :
    ∃ d', d.next s {} = some d' ∧ (d'.stage = .panicked ∨
      ∃ source ∈ d'.sources, source.2 ≠ d.entry.getFilepath source.1 d.dir) := by
  obtain ⟨kind, hk, hlost⟩ := openFile_lost h
  rw [next, hk, Option.map_some]
  rcases hlost with hnone | ⟨path, hopen, hne⟩
  · exact ⟨_, rfl, .inl (by rw [hnone]; rfl)⟩
  · rw [hopen]
    exact ⟨_, rfl, .inr ⟨_, mem_sources_receive hk path, hne⟩⟩

end Download

/-! ## Requests beside everything else -/

section
variable [Decoders] [Detectors] [Gzip] [SerdeJson] [Chrono] [Toml] [Sidecar] [Build]

/-- The recording task, and the requests there have been. -/
structure Zip where
  recorder : Recorder
  downloads : List Download := []

/-- The steps: the recording task takes a message, the upload worker deletes what it has uploaded, a
request comes in, a request opens its next file. -/
inductive ZipStep
  | recorder (op : RecorderStep)
  | deleteUploaded (name : String) (io : DeleteIo)
  | getZip (entryName : String) (rawQuery : Option String)
  | next (i : Nat) (io : Download.ZipIo)

namespace Zip

/-- One step. -/
def step (s : Zip) : ZipStep → Option Zip
  | .recorder op => (s.recorder.step op).map fun recorder => { s with recorder }
  | .deleteUploaded name io =>
    some { s with recorder := s.recorder.withStorage (s.recorder.storage.deleteEntry name io).2 }
  | .getZip entryName rawQuery =>
    match s.recorder.storage.getZip entryName rawQuery with
    | .error _ => some s
    | .ok d => some { s with downloads := s.downloads ++ [d] }
  | .next i io =>
    (s.downloads[i]?).bind fun d =>
      (d.next s.recorder.storage io).map fun d' => { s with downloads := s.downloads.set i d' }

/-- The recording task begins, and nothing has been asked for. -/
def Init (config : RecorderConfig) (s : Zip) : Prop :=
  s.recorder.Fresh config ∧ s.downloads = []

/-- A request that opens a file finds its recording. -/
def undisturbed (s : Zip) : ZipStep → Bool
  | .next i _ => (s.downloads[i]?).all (·.findsRecording s.recorder.storage)
  | _ => true

/-- Every request stays about its recording where it finds it. -/
theorem inv_step {s s' : Zip} {op : ZipStep} (h : ∀ d ∈ s.downloads, d.Inv)
    (hok : s.undisturbed op = true) (hst : s.step op = some s') : ∀ d ∈ s'.downloads, d.Inv := by
  cases op with
  | recorder op =>
    obtain ⟨recorder, -, rfl⟩ := Option.map_eq_some_iff.1 hst
    exact h
  | deleteUploaded name io => cases hst; exact h
  | getZip entryName rawQuery =>
    simp only [step] at hst
    split at hst
    · cases hst; exact h
    · next d hd =>
      cases hst
      intro d' hmem
      rcases List.mem_append.1 hmem with hold | hnew
      · exact h d' hold
      · exact List.mem_singleton.1 hnew ▸ Download.inv_getZip hd
  | next i io =>
    obtain ⟨d, hd, hst⟩ := Option.bind_eq_some_iff.1 hst
    obtain ⟨d', hn, rfl⟩ := Option.map_eq_some_iff.1 hst
    have hfinds : d.findsRecording s.recorder.storage = true := by
      simpa [undisturbed, hd] using hok
    have hd' : d'.Inv := (h d (List.mem_of_getElem? hd)).next hfinds hn
    intro d₁ hmem
    rcases List.mem_or_eq_of_mem_set hmem with hold | rfl
    · exact h d₁ hold
    · exact hd'

/-- **A downloaded archive is about one recording**, in every run of the recording task, the upload
worker and any number of requests in which each opening of a request finds its recording. -/
theorem archive_about_one {config : RecorderConfig} {s : Zip}
    (h : Reach (Init config) step (fun s op => s.undisturbed op = true) s) :
    ∀ d ∈ s.downloads, d.AboutOne := by
  have hinv : ∀ d ∈ s.downloads, d.Inv :=
    h.invariant (fun s hi => by simp [hi.2]) fun s op s' hs hok hst => inv_step hs hok hst
  exact fun d hd => (hinv d hd).aboutOne

/-- The device that has not recorded anything, with nothing asked for. -/
def blankZip : Zip := { recorder := Recorder.blankRecorder }

omit [Gzip] [SerdeJson] [Chrono] [Toml] [Sidecar] [Build] in
theorem blankZip_init : Init Recorder.defaultConfig blankZip :=
  ⟨Recorder.blankRecorder_fresh, rfl⟩

/-- Recordings made one after the other, each with a container in it. -/
def recordings (n : Nat) : List ZipStep :=
  (List.replicate n [.recorder (.startRecording (Recorder.startAt anInstant)),
    .recorder (.container (containerOf [nullCipherFrame]) (Recorder.containerAt anInstant)),
    .recorder (.stopRecording (Recorder.finishAt anInstant))]).flatten

/-- The first request opens all it opens. -/
def openings : List ZipStep := List.replicate 7 (.next 0 {})

omit [Decoders] [Detectors] [Gzip] [SerdeJson] [Chrono] [Toml] [Sidecar] [Build] in
/-- An archive with the four files of a recording, the converted capture and `metadata.json`, of
the second of two recordings while a third is made. -/
theorem archive_about_one_of_two :
    let _ := nasDecoders
    let _ := nullCipherDetectors
    let _ := storedGzip
    let _ := jsonText
    let _ := sidecarJson
    let _ := oneInstant
    let _ := deviceBuild
    let _ := tomlAt "2024-08-19T03:33:54+00:00"
    ∃ d : Download, d.archive.length = 6 ∧ d.stage = .closed ∧ d.AboutOne := by
  let _ := nasDecoders
  let _ := nullCipherDetectors
  let _ := storedGzip
  let _ := jsonText
  let _ := sidecarJson
  let _ := oneInstant
  let _ := deviceBuild
  let _ := tomlAt "2024-08-19T03:33:54+00:00"
  intro _ _ _ _ _ _ _ _
  have hfacts : ((recordings 2 ++ .getZip "1724038434-1.zip" none :: recordings 1 ++
      openings).foldlM (fun s op => if s.undisturbed op = true then step s op else none)
        blankZip).any (fun s => s.downloads.any fun d =>
          d.archive.length = 6 ∧ d.stage = .closed) = true := by
    decide +kernel
  obtain ⟨s, hs, hgood⟩ := (Option.any_eq_true _ _).1 hfacts
  obtain ⟨d, hd, hclosed⟩ := List.any_eq_true.1 hgood
  obtain ⟨hsix, hstage⟩ := of_decide_eq_true hclosed
  exact ⟨d, hsix, hstage,
    archive_about_one (Reach.of_foldlM_guarded (.init blankZip_init) hs) d hd⟩

omit [Decoders] [Detectors] [Gzip] [SerdeJson] [Chrono] [Toml] [Sidecar] [Build] in
/-- An archive of the second of three recordings, while the first is deleted: what it opens is the
third. -/
theorem archive_of_another :
    let _ := nasDecoders
    let _ := nullCipherDetectors
    let _ := storedGzip
    let _ := jsonText
    let _ := sidecarJson
    let _ := oneInstant
    let _ := deviceBuild
    let _ := tomlAt "2024-08-19T03:33:54+00:00"
    ¬ ∀ s : Zip, Reach (Init Recorder.defaultConfig) step (fun _ _ => True) s →
      ∀ d ∈ s.downloads, d.AboutOne := by
  let _ := nasDecoders
  let _ := nullCipherDetectors
  let _ := storedGzip
  let _ := jsonText
  let _ := sidecarJson
  let _ := oneInstant
  let _ := deviceBuild
  let _ := tomlAt "2024-08-19T03:33:54+00:00"
  intro _ _ _ _ _ _ _ _ h
  have hfacts : ((recordings 3 ++ .getZip "1724038434-1" none ::
      .recorder (.deleteEntry "1724038434-0" (Recorder.finishAt anInstant) {}) ::
      openings).foldlM step blankZip).any (fun s => s.downloads.any fun d =>
        d.archive.any fun file => file.sources.any fun source =>
          source.2 ≠ d.entry.getFilepath source.1 d.dir) = true := by
    decide +kernel
  obtain ⟨s, hs, hbad⟩ := (Option.any_eq_true _ _).1 hfacts
  obtain ⟨d, hd, hbad⟩ := List.any_eq_true.1 hbad
  obtain ⟨file, hfile, hbad⟩ := List.any_eq_true.1 hbad
  obtain ⟨source, hsource, hne⟩ := List.any_eq_true.1 hbad
  exact of_decide_eq_true hne
    ((h s (Reach.of_foldlM (.init blankZip_init) hs) d hd).own file hfile source hsource)

end Zip

end

end Rayhunter
