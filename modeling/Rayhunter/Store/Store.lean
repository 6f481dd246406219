import Rayhunter.Analysis.Serde
import Rayhunter.Store.Manifest

/-!
# The recording store

The operations of `RecordingStore` (`daemon/src/qmdl_store.rs`) and of the sidecar beside each
recording (`daemon/src/recording_metadata.rs`). A state is the store in memory with the device
under it; an operation returns its result and the state it leaves, which is changed also where it
fails. What the disk answers is an argument of each operation, one record for each.
-/

namespace Rayhunter

/-- The store and the device it lives on. -/
structure Storage where
  store : RecordingStore
  device : Device

namespace Storage

/-- The files on disk. -/
abbrev files (s : Storage) : FilePath → Option FileContent := s.device.disk.files

/-- The state with another disk. -/
def withDisk (s : Storage) (d : Disk) : Storage := { s with device := { s.device with disk := d } }

/-- The state with another list of entries. -/
def withEntries (s : Storage) (entries : List ManifestEntry) : Storage :=
  { s with store := { s.store with manifest := ⟨entries⟩ } }

/-- The state with another current entry. -/
def withCurrent (s : Storage) (current : Option Nat) : Storage :=
  { s with store := { s.store with currentEntry := current } }

@[simp] theorem withDisk_store (s : Storage) (d : Disk) : (s.withDisk d).store = s.store := rfl
@[simp] theorem withDisk_disk (s : Storage) (d : Disk) : (s.withDisk d).device.disk = d := rfl
@[simp] theorem withEntries_entries (s : Storage) (es : List ManifestEntry) :
    (s.withEntries es).store.manifest.entries = es := rfl
@[simp] theorem withEntries_current (s : Storage) (es : List ManifestEntry) :
    (s.withEntries es).store.currentEntry = s.store.currentEntry := rfl
@[simp] theorem withEntries_path (s : Storage) (es : List ManifestEntry) :
    (s.withEntries es).store.path = s.store.path := rfl
@[simp] theorem withEntries_device (s : Storage) (es : List ManifestEntry) :
    (s.withEntries es).device = s.device := rfl
@[simp] theorem withCurrent_current (s : Storage) (c : Option Nat) :
    (s.withCurrent c).store.currentEntry = c := rfl
@[simp] theorem withCurrent_manifest (s : Storage) (c : Option Nat) :
    (s.withCurrent c).store.manifest = s.store.manifest := rfl
@[simp] theorem withCurrent_path (s : Storage) (c : Option Nat) :
    (s.withCurrent c).store.path = s.store.path := rfl
@[simp] theorem withCurrent_device (s : Storage) (c : Option Nat) :
    (s.withCurrent c).device = s.device := rfl

end Storage

/-! ## The manifest file -/

/-- What the disk answers `write_manifest`. -/
structure ManifestIo where
  create : Option IoError := none
  write : WriteIo := {}
  rename : Option IoError := none
  deriving DecidableEq, Repr

/-- The error `write_manifest` returns, if it returns one. -/
def ManifestIo.fault (io : ManifestIo) : Option IoError :=
  io.create.or (io.write.reported.or io.rename)

/-- `manifest.toml` in a directory. -/
def manifestPath (path : PathBuf) : FilePath := ⟨path, "manifest.toml"⟩

/-- `manifest.toml.new` in a directory. -/
def manifestTmpPath (path : PathBuf) : FilePath := ⟨path, "manifest.toml.new"⟩

section
variable [Toml]

/-- What of a text reaches a file it is written to. -/
def WriteIo.content (io : WriteIo) (s : String) : FileContent :=
  match io.landed with
  | none => .text s
  | some n => .bytes ((utf8 s).take n)

/-- The files after `write_manifest`. -/
def manifestDisk (d : Disk) (store : RecordingStore) (io : ManifestIo) : Disk :=
  let written := io.write.content (Toml.toStringPretty store.manifest)
  let d' := d.set (manifestTmpPath store.path) (some written)
  match io.create, io.write.reported, io.rename with
  | some _, _, _ => d
  | none, some _, _ => d'
  | none, none, some _ => d'
  | none, none, none =>
    (d'.set (manifestPath store.path) (some written)).set (manifestTmpPath store.path) none

/-- `write_manifest` (`qmdl_store.rs:552`). -/
def Storage.writeManifest (s : Storage) (io : ManifestIo) :
    Except RecordingStoreError Unit × Storage :=
  (match io.fault with
    | some e => .error (.writeManifestError e)
    | none => .ok (),
   s.withDisk (manifestDisk s.device.disk s.store io))

/-- The disk after `write_manifest` differs in the two manifest files alone. -/
theorem manifestDisk_files (d : Disk) (store : RecordingStore) (io : ManifestIo) {p : FilePath}
    (h₁ : p ≠ manifestPath store.path) (h₂ : p ≠ manifestTmpPath store.path) :
    (manifestDisk d store io).files p = d.files p := by
  unfold manifestDisk
  split
  · rfl
  · exact Disk.set_files_of_ne _ _ h₂
  · exact Disk.set_files_of_ne _ _ h₂
  · rw [Disk.set_files_of_ne _ _ h₂, Disk.set_files_of_ne _ _ h₁, Disk.set_files_of_ne _ _ h₂]

namespace Storage

@[simp] theorem writeManifest_store (s : Storage) (io : ManifestIo) :
    (s.writeManifest io).2.store = s.store := rfl

theorem writeManifest_isOk (s : Storage) (io : ManifestIo) :
    (s.writeManifest io).1 = .ok () ↔ io.fault = none := by
  unfold writeManifest
  cases io.fault <;> simp

end Storage

end

/-! ## The sidecar -/

/-- The sidecar's reader: the home networks of a recording, where its sidecar reads as one
(`recording_metadata::read`). -/
class Sidecar where
  homePlmn : FileContent → Option (List String)

/-- The reader of sidecars that looks for the list of home networks alone. -/
@[reducible] def sidecarJson : Sidecar where
  homePlmn c :=
    ((c.asText.bind jsonText.fromStr).bind (Json.get "home_plmn")).bind fun j =>
      j.asArray.bind (List.mapM Json.asStr)

/-- What the disk answers a rewrite of a sidecar; `contents` is what is written, with the readings
of the moment in it. -/
structure SidecarIo where
  readFault : Option IoError := none
  contents : String := ""
  write : WriteFault := none
  rename : Option IoError := none
  deriving DecidableEq, Repr

/-- The temporary file a sidecar is written through. -/
def sidecarTmp (p : FilePath) : FilePath := ⟨p.dir, p.name ++ ".tmp"⟩

/-- `recording_metadata::write` (`recording_metadata.rs:95`). -/
def writeSidecar (d : Disk) (p : FilePath) (io : SidecarIo) : Disk :=
  match io.write with
  | some (_, n) => d.set (sidecarTmp p) (some (.bytes ((utf8 io.contents).take n)))
  | none =>
    match io.rename with
    | some _ => d.set (sidecarTmp p) (some (.text io.contents))
    | none => (d.set p (some (.text io.contents))).set (sidecarTmp p) none

/-- `recording_metadata::finish` (`recording_metadata.rs:129`): a recording without a readable
sidecar is left alone. -/
def finishSidecar [Sidecar] (d : Disk) (p : FilePath) (io : SidecarIo) : Disk :=
  match io.readFault, (d.files p).bind Sidecar.homePlmn with
  | none, some _ => writeSidecar d p io
  | _, _ => d

theorem writeSidecar_files (d : Disk) (p : FilePath) (io : SidecarIo) {q : FilePath} (h₁ : q ≠ p)
    (h₂ : q ≠ sidecarTmp p) : (writeSidecar d p io).files q = d.files q := by
  unfold writeSidecar
  split
  · exact Disk.set_files_of_ne _ _ h₂
  · split
    · exact Disk.set_files_of_ne _ _ h₂
    · rw [Disk.set_files_of_ne _ _ h₂, Disk.set_files_of_ne _ _ h₁]

theorem finishSidecar_files [Sidecar] (d : Disk) (p : FilePath) (io : SidecarIo) {q : FilePath} (h₁ : q ≠ p)
    (h₂ : q ≠ sidecarTmp p) : (finishSidecar d p io).files q = d.files q := by
  unfold finishSidecar
  split
  · exact writeSidecar_files d p io h₁ h₂
  · rfl

namespace Storage

variable [Build] [Toml] [Sidecar]

/-! ## Closing and annotating -/

/-- `close_current_entry` (`qmdl_store.rs:517`). -/
def closeCurrentEntry (s : Storage) (io : SidecarIo) : Except RecordingStoreError Unit × Storage :=
  match s.store.currentEntry with
  | none => (.error .noCurrentEntry, s)
  | some i =>
    match s.store.manifest.entries[i]? with
    | some entry =>
      (.ok (), (s.withCurrent none).withDisk
        (finishSidecar s.device.disk (entry.getFilepath .metadata s.store.path) io))
    | none => (.ok (), s.withCurrent none)

/-- The manifest with one entry changed. -/
def modifyEntry (s : Storage) (i : Nat) (f : ManifestEntry → ManifestEntry) : Storage :=
  s.withEntries (s.store.manifest.entries.modify i f)

/-- `update_current_entry_qmdl_size` (`qmdl_store.rs:539`). -/
def updateCurrentEntryQmdlSize (s : Storage) (sizeBytes : Nat) (now : DateTime) (io : ManifestIo) :
    Except RecordingStoreError Unit × Storage :=
  match s.store.currentEntry with
  | none => (.error .noCurrentEntry, s)
  | some i =>
    (s.modifyEntry i fun e =>
      { e with qmdlSizeBytes := sizeBytes, lastMessageTime := some now }).writeManifest io

/-- `set_current_stop_reason` (`qmdl_store.rs:606`). -/
def setCurrentStopReason (s : Storage) (reason : String) (io : ManifestIo) :
    Except RecordingStoreError Unit × Storage :=
  match s.store.currentEntry with
  | none => (.ok (), s)
  | some i => (s.modifyEntry i fun e => { e with stopReason := some reason }).writeManifest io

/-- `set_entry_annotations` (`qmdl_store.rs:622`). -/
def setEntryAnnotations (s : Storage) (name : String) (displayName notes : Option String)
    (io : ManifestIo) : Except RecordingStoreError Unit × Storage :=
  match s.store.position name with
  | none => (.error .noSuchEntryError, s)
  | some i =>
    (s.modifyEntry i fun e => { e with displayName, notes }).writeManifest io

/-- `mark_entry_as_uploaded` (`qmdl_store.rs:640`). -/
def markEntryAsUploaded (s : Storage) (name : String) (uploadTime : DateTime) (io : ManifestIo) :
    Except RecordingStoreError Unit × Storage :=
  match s.store.position name with
  | none => (.error .noSuchEntryError, s)
  | some i =>
    (s.modifyEntry i fun e => { e with uploadTime := some uploadTime }).writeManifest io

/-! ## New entries -/

/-- What clock and disk answer one attempt of `new_entry`. -/
structure EntryIo where
  now : DateTime
  qmdl : Option IoError := none
  analysis : Option IoError := none
  gps : Option IoError := none
  deriving DecidableEq, Repr

/-- What they answer all of it, `attempts k` the attempt number `k`. -/
structure NewEntryIo where
  finish : SidecarIo := {}
  attempts : Nat → EntryIo
  manifest : ManifestIo := {}

/-- A `new_entry` that is called at one instant and meets no fault. -/
def entryAt (now : DateTime) : NewEntryIo := { attempts := fun _ => { now } }

/-- `MAX_ATTEMPTS` (`qmdl_store.rs:416`). -/
def MAX_ATTEMPTS : Nat := 1024

/-- `ENTRY_SEQUENCE.fetch_add(1)`. -/
def nextSequence (s : Storage) : Storage :=
  { s with device := { s.device with entrySequence := s.device.entrySequence + 1 } }

omit [Build] [Toml] [Sidecar] in
@[simp] theorem nextSequence_store (s : Storage) : s.nextSequence.store = s.store := rfl

omit [Build] [Toml] [Sidecar] in
@[simp] theorem nextSequence_disk (s : Storage) :
    s.nextSequence.device.disk = s.device.disk := rfl

/-- The entry an attempt of `new_entry` would add. -/
def candidate (s : Storage) (gpsMode : GpsMode) (io : EntryIo) : ManifestEntry :=
  .new gpsMode io.now s.device.entrySequence

/-- The companion files of a recording whose QMDL file is claimed (`qmdl_store.rs:441`). -/
def claimCompanions (d : Disk) (entry : ManifestEntry) (path : PathBuf) (io : EntryIo) :
    Except RecordingStoreError Unit × Disk :=
  match d.createNew (entry.getFilepath .analysis path) io.analysis with
  | .error e => (.error (.createFileError e), d)
  | .ok d =>
    match d.createNew (entry.getFilepath .gps path) io.gps with
    | .error e => (.error (.createFileError e), d)
    | .ok d => (.ok (), d)

/-- The error of `new_entry` when every attempt met a file that was there already. -/
def exhausted : IoError := ⟨.alreadyExists, "exhausted recording name attempts"⟩

/-- The loop of `new_entry` (`qmdl_store.rs:418`) with `n` attempts left, `attempts` what they
meet: the entry whose files it has created. -/
def claimFiles (gpsMode : GpsMode) :
    Nat → (Nat → EntryIo) → Option IoError → Storage →
      Except RecordingStoreError ManifestEntry × Storage
  | 0, _, lastCollision, s => (.error (.createFileError (lastCollision.getD exhausted)), s)
  | n + 1, attempts, _, s =>
    let entry := s.candidate gpsMode (attempts 0)
    let s := s.nextSequence
    match s.device.disk.createNew (entry.getFilepath .qmdl s.store.path) (attempts 0).qmdl with
    | .error e =>
      if e.kind = .alreadyExists then
        claimFiles gpsMode n (fun k => attempts (k + 1)) (some e) s
      else (.error (.createFileError e), s)
    | .ok d =>
      match claimCompanions d entry s.store.path (attempts 0) with
      | (.error e, d) => (.error e, s.withDisk d)
      | (.ok (), d) => (.ok entry, s.withDisk d)

/-- The manifest with a new entry at its end, which is the current one. -/
def publish (s : Storage) (entry : ManifestEntry) : Storage :=
  (s.withEntries (s.store.manifest.entries ++ [entry])).withCurrent
    (some s.store.manifest.entries.length)

/-- The entry that is still open when `new_entry` is called is closed first. -/
def closeOpenEntry (s : Storage) (io : SidecarIo) : Storage :=
  match s.store.currentEntry with
  | some _ => (s.closeCurrentEntry io).2
  | none => s

/-- `new_entry` (`qmdl_store.rs:403`). The two files it returns are those of the entry. -/
def newEntry (s : Storage) (gpsMode : GpsMode) (io : NewEntryIo) :
    Except RecordingStoreError ManifestEntry × Storage :=
  match claimFiles gpsMode MAX_ATTEMPTS io.attempts none (s.closeOpenEntry io.finish) with
  | (.error e, s) => (.error e, s)
  | (.ok entry, s) =>
    match (s.publish entry).writeManifest io.manifest with
    | (.error e, s) => (.error e, s)
    | (.ok (), s) => (.ok entry, s)

/-! ## Removing entries -/

/-- What the disk answers the removal of a recording. -/
structure DeleteIo where
  files : FileKind → Option IoError := fun _ => none
  finish : SidecarIo := {}
  manifest : ManifestIo := {}

/-- The loop over `FileKind::ALL`: the files of a recording removed until one cannot be. -/
def removeFiles (entry : ManifestEntry) (path : PathBuf) (faults : FileKind → Option IoError) :
    List FileKind → Disk → Option IoError × Disk
  | [], d => (none, d)
  | kind :: kinds, d =>
    match d.removeFileIfExists (entry.getFilepath kind path) (faults kind) with
    | .error e => (some e, d)
    | .ok d => removeFiles entry path faults kinds d

/-- The current entry after the entry at `i` is taken out. -/
def releaseEntry (s : Storage) (i : Nat) (io : SidecarIo) : Storage :=
  match s.store.currentEntry with
  | some j =>
    if j = i then (s.closeCurrentEntry io).2
    else if i < j then s.withCurrent (some (j - 1))
    else s
  | none => s

/-- `delete_entry` (`qmdl_store.rs:666`). -/
def deleteEntry (s : Storage) (name : String) (io : DeleteIo) :
    Except RecordingStoreError Unit × Storage :=
  match s.store.entryForName name with
  | none => (.error .noSuchEntryError, s)
  | some (i, entry) =>
    match removeFiles entry s.store.path io.files FileKind.ALL s.device.disk with
    | (some e, d) => (.error (.deleteFileError e), s.withDisk d)
    | (none, d) =>
      let s := (s.withDisk d).releaseEntry i io.finish
      (s.withEntries (s.store.manifest.entries.eraseIdx i)).writeManifest io.manifest

/-- What the disk answers `delete_all_entries`; `files k` is for the entry at `k`. -/
structure DeleteAllIo where
  finish : SidecarIo := {}
  files : Nat → FileKind → Option IoError := fun _ _ => none
  manifest : ManifestIo := {}

/-- The loop of `delete_all_entries` (`qmdl_store.rs:710`): the entries it keeps, those whose files
could not all be removed. -/
def removeEntries (path : PathBuf) :
    List ManifestEntry → (Nat → FileKind → Option IoError) → Disk → List ManifestEntry × Disk
  | [], _, d => ([], d)
  | entry :: entries, faults, d =>
    match removeFiles entry path (faults 0) FileKind.ALL d with
    | (some _, d) =>
      let (kept, d) := removeEntries path entries (fun k => faults (k + 1)) d
      (entry :: kept, d)
    | (none, d) => removeEntries path entries (fun k => faults (k + 1)) d

/-- `delete_all_entries` (`qmdl_store.rs:703`). -/
def deleteAllEntries (s : Storage) (io : DeleteAllIo) :
    Except RecordingStoreError Unit × Storage :=
  let s := s.closeOpenEntry io.finish
  let (kept, d) := removeEntries s.store.path s.store.manifest.entries io.files s.device.disk
  ((s.withDisk d).withEntries kept).writeManifest io.manifest

/-! ## Opening -/

omit [Build] [Toml] [Sidecar] in
/-- `open_file` (`qmdl_store.rs:470`): the path that is opened, where a file is there. `none` is an
index out of bounds, at which it panics. -/
def openFile (s : Storage) (entryIndex : Nat) (kind : FileKind) (fault : Option IoError) :
    Option (Except RecordingStoreError (Option FilePath)) :=
  (s.store.manifest.entries[entryIndex]?).map fun entry =>
    let path := entry.getFilepath kind s.store.path
    match fault with
    | some e => if e.kind = .notFound then .ok none else .error (.readFileError e)
    | none => .ok (if s.device.disk.Exists path then some path else none)

omit [Build] [Toml] [Sidecar] in
/-- A file that is opened is there, and is the entry's at that index. -/
theorem openFile_found {s : Storage} {entryIndex : Nat} {kind : FileKind} {fault : Option IoError}
    {path : FilePath} (h : s.openFile entryIndex kind fault = some (.ok (some path))) :
    ∃ e, s.store.manifest.entries[entryIndex]? = some e ∧
      path = e.getFilepath kind s.store.path ∧ s.device.disk.Exists path := by
  obtain ⟨e, he, hopen⟩ := Option.map_eq_some_iff.1 h
  refine ⟨e, he, ?_⟩
  cases fault with
  | some err =>
    simp only at hopen
    split at hopen <;> cases hopen
  | none =>
    simp only [Except.ok.injEq] at hopen
    split at hopen
    · next hex => cases hopen; exact ⟨rfl, hex⟩
    · cases hopen

end Storage

end Rayhunter
