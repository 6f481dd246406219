import Rayhunter.Cleanup.Reanalysis
import Rayhunter.Recorder.Step

/-!
# Uploading recordings

`run_webdav_upload_worker` (`daemon/src/webdav.rs`) takes the oldest recording not uploaded yet,
uploads its files at the same time, each looked up by name under a lock of its own, and where none
failed marks the recording as uploaded, or deletes it, again by name. Between the lookups and the mark
the lock is free: a re-analysis may empty the report, another store with a recording of that name may
be opened. A file that is not there counts as uploaded, the capture too. Where at the mark each file
the recording has is the one that was found and has stayed as it was, all of it has been uploaded
(`Webdav.settled_uploaded`).
-/

namespace Rayhunter

open Runs Storage

/-! ## The next recording -/

/-- How long ago a recording had its last message, or began, in nanoseconds. -/
def ManifestEntry.age (e : ManifestEntry) (now : DateTime) : Int :=
  now.nanos - (e.lastMessageTime.getD e.startTime).nanos

namespace RecordingStore

/-- The recordings to upload, with how old they are (`qmdl_store.rs:579`). -/
def unuploaded (store : RecordingStore) (minAge : Int) (now : DateTime) : List (String × Int) :=
  store.manifest.entries.filterMap fun e =>
    if store.isCurrentEntry e.name || e.uploadTime.isSome then none
    else if minAge < e.age now then some (e.name, e.age now)
    else none

/-- `get_next_unuploaded_entry` (`qmdl_store.rs:574`). `max_by_key` returns the last of several. -/
def getNextUnuploadedEntry (store : RecordingStore) (minAge : Int) (now : DateTime) :
    Option String :=
  ((store.unuploaded minAge now).reverse.maxOn? Prod.snd).map Prod.fst

theorem mem_unuploaded {store : RecordingStore} {minAge : Int} {now : DateTime} {c : String × Int} :
    c ∈ store.unuploaded minAge now ↔ ∃ e ∈ store.manifest.entries,
      store.isCurrentEntry e.name = false ∧ e.uploadTime = none ∧ minAge < e.age now ∧
        c = (e.name, e.age now) := by
  simp only [unuploaded, List.mem_filterMap]
  refine exists_congr fun e => and_congr_right fun _ => ?_
  cases store.isCurrentEntry e.name with
  | true => simp
  | false =>
    cases e.uploadTime with
    | some t => simp
    | none => simp [eq_comm]

/-- A recording that is found is not current, has not been uploaded and is old enough, and none of
those is older. -/
theorem getNextUnuploadedEntry_eq_some {store : RecordingStore} {minAge : Int} {now : DateTime}
    {name : String} (h : store.getNextUnuploadedEntry minAge now = some name) :
    ∃ age, (name, age) ∈ store.unuploaded minAge now ∧
      ∀ c ∈ store.unuploaded minAge now, c.2 ≤ age := by
  obtain ⟨c, hc, rfl⟩ := Option.map_eq_some_iff.1 h
  refine ⟨c.2, List.mem_reverse.1 (List.maxOn?_mem hc), fun c' hc' => ?_⟩
  have hle := List.le_apply_get_maxOn?_of_mem (f := Prod.snd) (List.mem_reverse.2 hc')
  simpa only [hc, Option.get_some] using hle

end RecordingStore

/-! ## One file -/

/-- What of `WebdavUploadWorkerConfig` (`webdav.rs:16`) the worker's decisions depend on; the age is in
nanoseconds. -/
structure WebdavUploadWorkerConfig where
  minAge : Int
  url : String
  deleteOnUpload : Bool

/-- The URL a client is made for ends with a slash (`webdav.rs:66`). -/
def webDavUrl (url : String) : String := if Text.endsWith url "/" then url else url ++ "/"

/-- A file opened for an upload: its path and what it held then, the URL it is put to, and whether
it has been written to or removed since. -/
structure UploadFile where
  path : FilePath
  target : String
  content : FileContent
  touched : Bool := false
  deriving DecidableEq, Repr

namespace UploadFile

/-- The files of the device change while it is open, or after it was. -/
def touch (before after : Disk) (file : UploadFile) : UploadFile :=
  { file with touched := file.touched || before.files file.path ≠ after.files file.path }

/-- Its path, if it has not been touched since. -/
def untouched (file : UploadFile) : Option FilePath :=
  if file.touched then none else some file.path

/-- It goes by its own name, and the disk holds what it held unless it has been touched. -/
structure Held (url : String) (d : Disk) (file : UploadFile) : Prop where
  target : file.target = webDavUrl url ++ file.path.name
  content : file.touched = false → d.files file.path = some file.content

theorem Held.touch {url : String} {d d' : Disk} {file : UploadFile} (h : file.Held url d) :
    (file.touch d d').Held url d' := by
  refine ⟨h.target, fun ht => ?_⟩
  obtain ⟨hno, hsame⟩ : file.touched = false ∧ d.files file.path = d'.files file.path := by
    simpa [UploadFile.touch, Bool.or_eq_false_iff] using ht
  exact hsame ▸ h.content hno

end UploadFile

/-- What becomes of a request: it fails or is given up, or the server takes what was read of the file,
which is all it held when it was opened, or something else. -/
inductive UploadAnswer
  | failed
  | whole
  | torn (body : FileContent)
  deriving DecidableEq, Repr

/-- How far the upload of one file is (`try_upload_entry`): not looked up yet, not there, on its way,
or done, with the body the server has accepted. -/
inductive Upload
  | pending
  | missing
  | sending (file : UploadFile)
  | uploaded (file : UploadFile) (body : FileContent)
  | failed
  deriving DecidableEq, Repr

/-- The first half of `try_upload_entry` (`webdav.rs:115`), under the lock. -/
def Storage.openUpload (s : Storage) (url entryName : String) (kind : FileKind)
    (fault : Option IoError) : Upload :=
  match s.store.entryForName entryName with
  | none => .failed
  | some (entryIdx, entry) =>
    match s.openFile entryIdx kind fault with
    | some (.ok (some path)) =>
      match s.files path with
      | some content =>
        .sending ⟨path, webDavUrl url ++ kind.getFilename entryName entry.compressed, content, false⟩
      | none => .failed
    | some (.ok none) => .missing
    | some (.error _) => .failed
    -- The index is of the same lock, so it is not out of bounds.
    | none => .failed

namespace Upload

/-- The other half (`webdav.rs:137`). Of a file that is changed while it is read, anything may have
been sent. -/
def finish (u : Upload) (answer : UploadAnswer) : Option Upload :=
  match u, answer with
  | sending _, .failed => some failed
  | sending file, .whole => some (uploaded file file.content)
  | sending file, .torn body => if file.touched then some (uploaded file body) else none
  | _, _ => none

/-- What `try_upload_entry` returns, once it has. -/
def result : Upload → Option Bool
  | pending => none
  | missing => some true
  | sending _ => none
  | uploaded _ _ => some true
  | failed => some false

/-- The files of the device change. -/
def touch (before after : Disk) : Upload → Upload
  | sending file => sending (file.touch before after)
  | uploaded file body => uploaded (file.touch before after) body
  | u => u

/-- The path of the file that was found, if it has not been touched since. -/
def foundUntouched : Upload → Option FilePath
  | sending file => file.untouched
  | uploaded file _ => file.untouched
  | _ => none

/-! ### What is sent -/

/-- What is under way to the server, or there, is held on the disk, and the server has the content that
was opened, each as far as the file has not been touched. -/
def Faithful (url : String) (d : Disk) : Upload → Prop
  | sending file => file.Held url d
  | uploaded file body => file.Held url d ∧ (file.touched = false → body = file.content)
  | _ => True

variable {url : String} {d d' : Disk} {u u' : Upload}

theorem Faithful.touch (h : u.Faithful url d) : (u.touch d d').Faithful url d' := by
  cases u with
  | sending file => exact UploadFile.Held.touch h
  | uploaded file body =>
    refine ⟨h.1.touch, fun ht => h.2 ?_⟩
    exact (Bool.or_eq_false_iff.1 ht).1
  | pending => trivial
  | missing => trivial
  | failed => trivial

/-- The server's answer to a request keeps this: a body of another content is that of a file which has
been touched. -/
theorem Faithful.finish {answer : UploadAnswer} (h : u.Faithful url d)
    (hu : u.finish answer = some u') : u'.Faithful url d := by
  cases u with
  | sending file =>
    cases answer with
    | failed => cases hu; trivial
    | whole => cases hu; exact ⟨h, fun _ => rfl⟩
    | torn body =>
      simp only [Upload.finish] at hu
      split at hu
      · next ht => cases hu; exact ⟨h, fun hno => by rw [ht] at hno; cases hno⟩
      · cases hu
  | _ => cases hu

/-- A file is what the disk holds when it is opened. -/
theorem faithful_openUpload {s : Storage} {entryName : String} {kind : FileKind}
    {fault : Option IoError} :
    (s.openUpload url entryName kind fault).Faithful url s.device.disk := by
  unfold Storage.openUpload
  split
  · trivial
  · next i entry hfound =>
    split
    · next path hopen =>
      split
      · next content hcontent =>
        obtain ⟨-, hentry, hname⟩ := RecordingStore.entryForName_eq_some hfound
        obtain ⟨e, he, rfl, -⟩ := openFile_found hopen
        cases hentry.symm.trans he
        exact ⟨by rw [← hname]; rfl, fun _ => hcontent⟩
      · trivial
    · trivial
    · trivial
    · trivial

end Upload

/-! ## The worker -/

/-- The uploads of one recording, which are joined (`webdav.rs:196`). -/
structure UploadRound where
  entryName : String
  uploads : FileKind → Upload := fun _ => .pending

/-- The round with one upload further on. -/
def UploadRound.set (r : UploadRound) (kind : FileKind) (u : Upload) : UploadRound :=
  { r with uploads := Function.update r.uploads kind u }

@[simp] theorem UploadRound.set_uploads_self (r : UploadRound) (kind : FileKind) (u : Upload) :
    (r.set kind u).uploads kind = u := Function.update_self ..

theorem UploadRound.set_uploads_of_ne (r : UploadRound) {kind kind' : FileKind} (u : Upload)
    (h : kind' ≠ kind) : (r.set kind u).uploads kind' = r.uploads kind' :=
  Function.update_of_ne h ..

/-- A recording the worker has marked or deleted, as far as the disk let it: the entry its name found,
the directory and the disk at that moment, and the uploads before it. -/
structure Settlement where
  entry : ManifestEntry
  dir : PathBuf
  disk : Disk
  uploads : FileKind → Upload

namespace Settlement

/-- The file of a kind the recording has, or would have. -/
def path (r : Settlement) (kind : FileKind) : FilePath := r.entry.getFilepath kind r.dir

/-- The capture, and every other file of the recording, has been uploaded under its name as it is. -/
def Uploaded (url : String) (r : Settlement) : Prop :=
  ∀ kind, kind = .qmdl ∨ r.disk.Exists (r.path kind) →
    ∃ file body, r.uploads kind = .uploaded file body ∧ file.path = r.path kind ∧
      file.target = webDavUrl url ++ (r.path kind).name ∧ r.disk.files (r.path kind) = some body

/-- Whether a file that has been uploaded is still what it was then. -/
def asUploaded (r : Settlement) (kind : FileKind) : Bool :=
  match r.uploads kind with
  | .uploaded _ body => r.disk.files (r.path kind) = some body
  | _ => false

theorem Uploaded.asUploaded {url : String} {r : Settlement} (h : r.Uploaded url) {kind : FileKind}
    (hex : r.disk.Exists (r.path kind)) : r.asUploaded kind = true := by
  obtain ⟨file, body, hu, -, -, hbody⟩ := h kind (.inr hex)
  simp [Settlement.asUploaded, hu, hbody]

end Settlement

section
variable [Decoders] [Detectors] [Gzip] [SerdeJson] [Chrono] [Toml] [Sidecar] [Build]

/-- The recording task, the re-analysis under way, the worker between its polls or in a round, and the
recordings it has settled, the latest first. -/
structure Webdav where
  recorder : Recorder
  job : Option Job := none
  round : Option UploadRound := none
  settled : List Settlement := []

/-- The steps: the recording task takes a message, a re-analysis goes on, and of the worker a look at
the store, an upload that begins, one that ends, and the end of a round. -/
inductive WebdavStep
  | recorder (op : RecorderStep)
  | analysis (config : AnalyzerConfig) (deviceMetadata : DeviceMetadata) (op : SystemStep)
  | poll (now : DateTime)
  | «open» (kind : FileKind) (fault : Option IoError)
  | sent (kind : FileKind) (answer : UploadAnswer)
  | settle (now : DateTime) (delete : DeleteIo) (mark : ManifestIo)

namespace Webdav

/-- The store with the re-analysis of it. -/
def system (s : Webdav) : System := { storage := s.recorder.storage, job := s.job }

/-- Another task has acted. -/
def elsewhere (s : Webdav) (recorder : Recorder) : Webdav :=
  { s with
    recorder
    round := s.round.map fun r =>
      { r with
        uploads := fun kind =>
          (r.uploads kind).touch s.recorder.storage.device.disk recorder.storage.device.disk } }

/-- The mark, or the deletion (`webdav.rs:214`). -/
def markOrDelete (s : Storage) (config : WebdavUploadWorkerConfig) (entryName : String)
    (now : DateTime) (delete : DeleteIo) (mark : ManifestIo) : Storage :=
  if config.deleteOnUpload then (s.deleteEntry entryName delete).2
  else (s.markEntryAsUploaded entryName now mark).2

/-- What is settled with the mark or the deletion. -/
def settlement (s : Storage) (r : UploadRound) : Option Settlement :=
  (s.store.entryForName r.entryName).map fun (_, entry) =>
    ⟨entry, s.store.path, s.device.disk, r.uploads⟩

/-- The end of a round whose uploads have all ended (`webdav.rs:210`). -/
def settle (s : Webdav) (config : WebdavUploadWorkerConfig) (r : UploadRound) (now : DateTime)
    (delete : DeleteIo) (mark : ManifestIo) : Webdav :=
  if FileKind.ALL.all fun kind => (r.uploads kind).result = some true then
    { s with
      recorder := s.recorder.withStorage
        (markOrDelete s.recorder.storage config r.entryName now delete mark)
      round := none
      settled := (settlement s.recorder.storage r).toList ++ s.settled }
  else { s with round := none }

/-- One step. -/
def step (config : WebdavUploadWorkerConfig) (s : Webdav) : WebdavStep → Option Webdav
  | .recorder op => (s.recorder.step op).map s.elsewhere
  | .analysis analyzerConfig deviceMetadata op =>
    (s.system.step analyzerConfig deviceMetadata op).map fun x =>
      { s.elsewhere (s.recorder.withStorage x.storage) with job := x.job }
  | .poll now =>
    match s.round with
    | some _ => none
    | none =>
      some { s with
        round := (s.recorder.storage.store.getNextUnuploadedEntry config.minAge now).map
          fun entryName => { entryName } }
  | .open kind fault =>
    s.round.bind fun r =>
      if r.uploads kind = .pending then
        some { s with
          round := some (r.set kind
            (s.recorder.storage.openUpload config.url r.entryName kind fault)) }
      else none
  | .sent kind answer =>
    s.round.bind fun r =>
      ((r.uploads kind).finish answer).map fun u => { s with round := some (r.set kind u) }
  | .settle now delete mark =>
    s.round.bind fun r =>
      if FileKind.ALL.all fun kind => (r.uploads kind).result.isSome then
        some (s.settle config r now delete mark)
      else none

/-- The recording task and the worker begin. -/
def Init (config : RecorderConfig) (s : Webdav) : Prop :=
  s.recorder.Fresh config ∧ s.job = none ∧ s.round = none ∧ s.settled = []

/-- At the end of a round the capture of the entry its name finds, and every other file of it there is,
is what was found for its upload and has not been touched since. -/
def upToDate (s : Webdav) : WebdavStep → Bool
  | .settle _ _ _ =>
    s.round.all fun r =>
      (settlement s.recorder.storage r).all fun settlement =>
        FileKind.ALL.all fun kind =>
          (kind ≠ .qmdl && !settlement.disk.Exists (settlement.path kind)) ||
            (r.uploads kind).foundUntouched = some (settlement.path kind)
  | _ => true

/-! ### What the steps keep -/

/-- What holds between the steps: of the round under way, and of what has been settled. -/
structure Inv (config : WebdavUploadWorkerConfig) (s : Webdav) : Prop where
  round : ∀ r, s.round = some r → ∀ kind,
    (r.uploads kind).Faithful config.url s.recorder.storage.device.disk
  settled : ∀ x ∈ s.settled, x.Uploaded config.url

variable {config : WebdavUploadWorkerConfig} {s s' : Webdav}

omit [Gzip] [SerdeJson] [Chrono] [Toml] [Sidecar] [Build] in
/-- Whatever another task does to the files, the uploads see it. -/
theorem Inv.elsewhere (h : s.Inv config) (recorder : Recorder) :
    (s.elsewhere recorder).Inv config := by
  refine ⟨fun r hr kind => ?_, h.settled⟩
  obtain ⟨r', hr', rfl⟩ := Option.map_eq_some_iff.1 hr
  exact (h.round r' hr' kind).touch

omit [Gzip] [SerdeJson] [Chrono] [Toml] [Sidecar] [Build] in
/-- An upload of the round that goes on. -/
theorem Inv.set (h : s.Inv config) {r : UploadRound} (hr : s.round = some r) {kind : FileKind}
    {u : Upload} (hu : u.Faithful config.url s.recorder.storage.device.disk) :
    Inv config { s with round := some (r.set kind u) } := by
  refine ⟨fun r' hr' kind' => ?_, h.settled⟩
  cases hr'
  by_cases hk : kind' = kind
  · rw [hk, UploadRound.set_uploads_self]
    exact hu
  · rw [UploadRound.set_uploads_of_ne r u hk]
    exact h.round r hr kind'

omit [Gzip] [SerdeJson] [Chrono] [Toml] [Sidecar] [Build] in
/-- What is settled up to date has been uploaded: the uploads have succeeded, each with the content its
file had when it was opened, which is the one it has. -/
theorem Inv.uploaded (h : s.Inv config) {r : UploadRound} (hr : s.round = some r)
    (hall : FileKind.ALL.all (fun kind => (r.uploads kind).result = some true) = true)
    {x : Settlement} (hx : settlement s.recorder.storage r = some x)
    (hdate : FileKind.ALL.all (fun kind => (kind ≠ .qmdl && !x.disk.Exists (x.path kind)) ||
      (r.uploads kind).foundUntouched = some (x.path kind)) = true) :
    x.Uploaded config.url := by
  intro kind hkind
  have hmem : kind ∈ FileKind.ALL := by cases kind <;> decide
  have hresult : (r.uploads kind).result = some true :=
    of_decide_eq_true (List.all_eq_true.1 hall _ hmem)
  have hfound : (r.uploads kind).foundUntouched = some (x.path kind) := by
    have := List.all_eq_true.1 hdate _ hmem
    rcases hkind with rfl | hex
    · simpa using this
    · simpa [hex] using this
  have hfaithful := h.round r hr kind
  obtain ⟨⟨i, entry⟩, -, rfl⟩ := Option.map_eq_some_iff.1 hx
  cases hu : r.uploads kind with
  | uploaded file body =>
    rw [hu] at hfound hfaithful
    obtain ⟨hheld, hbody⟩ := hfaithful
    simp only [Upload.foundUntouched, UploadFile.untouched, Option.ite_none_left_eq_some,
      Bool.not_eq_true, Option.some.injEq] at hfound
    obtain ⟨hno, hpath⟩ := hfound
    refine ⟨file, body, hu, hpath, hpath ▸ hheld.target, ?_⟩
    rw [← hpath, hbody hno]
    exact hheld.content hno
  | missing => rw [hu] at hfound; cases hfound
  | pending => rw [hu] at hresult; cases hresult
  | sending file => rw [hu] at hresult; cases hresult
  | failed => rw [hu] at hresult; cases hresult

/-- Every step keeps this, where what is settled is up to date. -/
theorem inv_step {op : WebdavStep} (h : s.Inv config) (hok : s.upToDate op = true)
    (hst : s.step config op = some s') : s'.Inv config := by
  cases op with
  | recorder op =>
    obtain ⟨recorder, -, rfl⟩ := Option.map_eq_some_iff.1 hst
    exact h.elsewhere recorder
  | analysis analyzerConfig deviceMetadata op =>
    obtain ⟨x, -, rfl⟩ := Option.map_eq_some_iff.1 hst
    exact ⟨(h.elsewhere _).round, h.settled⟩
  | poll now =>
    simp only [step] at hst
    split at hst
    · cases hst
    · cases hst
      refine ⟨fun r hr kind => ?_, h.settled⟩
      obtain ⟨entryName, -, rfl⟩ := Option.map_eq_some_iff.1 hr
      trivial
  | «open» kind fault =>
    obtain ⟨r, hr, hst⟩ := Option.bind_eq_some_iff.1 hst
    split at hst
    · cases hst
      exact h.set hr Upload.faithful_openUpload
    · cases hst
  | sent kind answer =>
    obtain ⟨r, hr, hst⟩ := Option.bind_eq_some_iff.1 hst
    obtain ⟨u, hu, rfl⟩ := Option.map_eq_some_iff.1 hst
    exact h.set hr ((h.round r hr kind).finish hu)
  | settle now delete mark =>
    obtain ⟨r, hr, hst⟩ := Option.bind_eq_some_iff.1 hst
    split at hst
    · cases hst
      unfold settle
      split
      · next hall =>
        refine ⟨nofun, fun x hx => ?_⟩
        rcases List.mem_append.1 hx with hnew | hold
        · have hx' := Option.mem_toList.1 hnew
          refine h.uploaded hr hall hx' ?_
          simpa only [upToDate, hr, Option.all_some, Option.mem_def.1 hx'] using hok
        · exact h.settled x hold
      · exact ⟨nofun, h.settled⟩
    · cases hst

/-- The device that has not recorded anything, with the worker between its polls. -/
def blankWebdav : Webdav := { recorder := Recorder.blankRecorder }

omit [Gzip] [SerdeJson] [Chrono] [Toml] [Sidecar] [Build] in
theorem blankWebdav_init : Init Recorder.defaultConfig blankWebdav :=
  ⟨Recorder.blankRecorder_fresh, rfl, rfl, rfl⟩

/-- A configuration that uploads what has had no message for a second. -/
def uploadAfterSecond (deleteOnUpload : Bool) : WebdavUploadWorkerConfig :=
  ⟨1000000000, "https://example.com/rayhunter", deleteOnUpload⟩

/-- A recording is made. -/
def recordingMade : List WebdavStep :=
  [.recorder (.startRecording (Recorder.startAt anInstant)),
    .recorder (.container (containerOf [nullCipherFrame]) (Recorder.containerAt anInstant)),
    .recorder (.stopRecording (Recorder.finishAt anInstant))]

/-- The worker finds it a minute later, and uploads all its files. -/
def filesUploaded : List WebdavStep :=
  .poll ⟨anInstant.nanos + 60000000000, 0⟩ :: FileKind.ALL.map (.open · none) ++
    FileKind.ALL.map (.sent · .whole)

end Webdav

end

end Rayhunter
