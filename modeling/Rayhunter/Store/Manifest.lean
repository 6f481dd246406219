import Rayhunter.Analysis.Event
import Rayhunter.Store.Disk

/-!
# The manifest

The data of `daemon/src/qmdl_store.rs`: recordings and the files they consist of, the manifest that
lists them, the store that holds the manifest, and its errors.
-/

namespace Rayhunter

/-- `GpsMode` (`config.rs:13`). -/
inductive GpsMode
  | disabled
  | fixed
  | api
  deriving DecidableEq, Repr

/-! ## Files -/

/-- `FileKind` (`qmdl_store.rs:55`). -/
inductive FileKind
  | qmdl
  | analysis
  | gps
  | metadata
  deriving DecidableEq, Repr

/-- `FileKind::ALL` (`qmdl_store.rs:66`), in the order a recording's files are removed. -/
def FileKind.ALL : List FileKind := [.qmdl, .analysis, .gps, .metadata]

/-- What `get_filename` (`qmdl_store.rs:73`) puts after the name of the entry. -/
def FileKind.suffix : FileKind → Bool → String
  | .qmdl, true => ".qmdl.gz"
  | .qmdl, false => ".qmdl"
  | .analysis, _ => ".ndjson"
  | .gps, _ => "-gps.ndjson"
  | .metadata, _ => "-meta.json"

/-- `get_filename` (`qmdl_store.rs:73`). -/
def FileKind.getFilename (kind : FileKind) (entryName : String) (qmdlCompressed : Bool) : String :=
  entryName ++ kind.suffix qmdlCompressed

/-- `FileKind::get_filepath` (`qmdl_store.rs:83`). -/
def FileKind.getFilepath (kind : FileKind) (entryName : String) (basePath : PathBuf)
    (qmdlCompressed : Bool) : FilePath :=
  ⟨basePath, kind.getFilename entryName qmdlCompressed⟩

/-- The files of one kind tell their recordings apart. -/
theorem FileKind.getFilepath_inj {kind : FileKind} {n m : String} {path : PathBuf} {c : Bool} :
    kind.getFilepath n path c = kind.getFilepath m path c ↔ n = m := by
  simp only [getFilepath, getFilename, FilePath.mk.injEq, true_and]
  exact ⟨String.append_left_inj _ |>.1, fun h => by rw [h]⟩

/-! ## Entries -/

/-- `ManifestEntry` (`qmdl_store.rs:120`). -/
structure ManifestEntry where
  name : String
  startTime : DateTime
  lastMessageTime : Option DateTime
  qmdlSizeBytes : Nat
  rayhunterVersion : Option String
  systemOs : Option String
  arch : Option String
  stopReason : Option String
  uploadTime : Option DateTime
  gpsMode : Option GpsMode
  compressed : Bool
  displayName : Option String
  notes : Option String
  deriving DecidableEq, Repr

/-- `ManifestEntry::new` (`qmdl_store.rs:192`) at the adjusted time `now`, with the value `sequence`
taken from `ENTRY_SEQUENCE`. -/
def ManifestEntry.new [Build] (gpsMode : GpsMode) (now : DateTime) (sequence : UInt64) :
    ManifestEntry where
  name := s!"{now.timestamp}-{sequence.toNat}"
  startTime := now
  lastMessageTime := none
  qmdlSizeBytes := 0
  rayhunterVersion := some Build.runtimeMetadata.rayhunterVersion
  systemOs := some Build.runtimeMetadata.systemOs
  arch := some Build.runtimeMetadata.arch
  stopReason := none
  uploadTime := none
  gpsMode := some gpsMode
  compressed := true
  displayName := none
  notes := none

/-- `ManifestEntry::get_filepath` (`qmdl_store.rs:217`). -/
def ManifestEntry.getFilepath (e : ManifestEntry) (kind : FileKind) (path : PathBuf) : FilePath :=
  kind.getFilepath e.name path e.compressed

/-- `Manifest` (`qmdl_store.rs:113`). -/
structure Manifest where
  entries : List ManifestEntry
  deriving DecidableEq, Repr

/-- `toml`: writing a manifest and reading one, with the text of the error where it fails. -/
class Toml where
  toStringPretty : Manifest → String
  fromStr : String → Except String Manifest

/-- A key with a text, as `toml` writes it; a missing value is left out. -/
def tomlText (key : String) : Option String → String
  | none => ""
  | some v => key ++ " = \"" ++ v ++ "\"\n"

/-- An entry as `toml` writes it, where its texts need no escapes and its times are `time`. -/
def tomlEntry (time : String) (e : ManifestEntry) : String :=
  "[[entries]]\n" ++ tomlText "name" (some e.name) ++ tomlText "start_time" (some time) ++
    tomlText "last_message_time" (e.lastMessageTime.map fun _ => time) ++
    s!"qmdl_size_bytes = {e.qmdlSizeBytes}\n" ++
    tomlText "rayhunter_version" e.rayhunterVersion ++ tomlText "system_os" e.systemOs ++
    tomlText "arch" e.arch ++ tomlText "stop_reason" e.stopReason ++
    tomlText "upload_time" (e.uploadTime.map fun _ => time) ++
    (match e.gpsMode with
      | none => ""
      | some .disabled => "gps_mode = 0\n"
      | some .fixed => "gps_mode = 1\n"
      | some .api => "gps_mode = 2\n") ++
    s!"compressed = {e.compressed}\n" ++
    tomlText "display_name" e.displayName ++ tomlText "notes" e.notes

/-- `toml` for manifests whose entries all carry one time, reading the empty one only. -/
@[reducible] def tomlAt (time : String) : Toml where
  toStringPretty m :=
    if m.entries = [] then "entries = []\n"
    else String.intercalate "\n" (m.entries.map (tomlEntry time))
  fromStr s := if s = "entries = []\n" then .ok ⟨[]⟩ else .error "unknown manifest"

/-! ## The store -/

/-- `RecordingStore` (`qmdl_store.rs:106`). `currentEntry` is an index into the manifest. -/
structure RecordingStore where
  path : PathBuf
  manifest : Manifest
  currentEntry : Option Nat
  deriving DecidableEq, Repr

/-- `RecordingStoreError` (`qmdl_store.rs:25`). -/
inductive RecordingStoreError
  | noCurrentEntry
  | noSuchEntryError
  | createFileError (e : IoError)
  | readFileError (e : IoError)
  | writeFileError (e : IoError)
  | deleteFileError (e : IoError)
  | openDirError (e : IoError)
  | readManifestError (e : IoError)
  | writeManifestError (e : IoError)
  | parseManifestError (text : String)
  | insufficientDiskSpace (available required : UInt64)
  | gpsStorageNotFound
  deriving DecidableEq, Repr

/-- The text of an error, as `thiserror` derives it. -/
def RecordingStoreError.display : RecordingStoreError → String
  | noCurrentEntry => "Can't close an entry when there's no current entry"
  | noSuchEntryError => "An entry with that name doesn't exist"
  | createFileError e => s!"Couldn't create file: {e.text}"
  | readFileError e => s!"Couldn't read file: {e.text}"
  | writeFileError e => s!"Couldn't write file: {e.text}"
  | deleteFileError e => s!"Couldn't delete file: {e.text}"
  | openDirError e => s!"Couldn't open directory at path: {e.text}"
  | readManifestError e => s!"Couldn't read manifest file: {e.text}"
  | writeManifestError e => s!"Couldn't write manifest file: {e.text}"
  | parseManifestError text => s!"Couldn't parse QMDL store manifest file: {text}"
  | insufficientDiskSpace available required =>
    s!"Insufficient disk space: {available.toNat}MB available, {required.toNat}MB required"
  | gpsStorageNotFound => "GPS storage directory not found"

namespace RecordingStore

/-- The names of the recordings, in the order of the manifest. -/
def names (store : RecordingStore) : List String := store.manifest.entries.map (·.name)

/-- The position of the first entry with a name, as every by-name operation finds it. -/
def position (store : RecordingStore) (name : String) : Option Nat :=
  store.manifest.entries.findIdx? (·.name = name)

/-- `entry_for_name` (`qmdl_store.rs:592`). -/
def entryForName (store : RecordingStore) (name : String) : Option (Nat × ManifestEntry) :=
  (store.position name).bind fun i => (store.manifest.entries[i]?).map fun e => (i, e)

/-- `get_current_entry` (`qmdl_store.rs:601`). -/
def getCurrentEntry (store : RecordingStore) : Option (Nat × ManifestEntry) :=
  store.currentEntry.bind fun i => (store.manifest.entries[i]?).map fun e => (i, e)

/-- `is_current_entry` (`qmdl_store.rs:656`), by name. -/
def isCurrentEntry (store : RecordingStore) (name : String) : Bool :=
  match store.getCurrentEntry with
  | some (_, entry) => entry.name = name
  | none => false

/-- The entry a name is found at has that name. -/
theorem entryForName_eq_some {store : RecordingStore} {name : String} {i : Nat}
    {e : ManifestEntry} (h : store.entryForName name = some (i, e)) :
    store.position name = some i ∧ store.manifest.entries[i]? = some e ∧ e.name = name := by
  rw [entryForName, Option.bind_eq_some_iff] at h
  obtain ⟨j, hj, h⟩ := h
  rw [Option.map_eq_some_iff] at h
  obtain ⟨f, hf, heq⟩ := h
  cases heq
  refine ⟨hj, hf, ?_⟩
  obtain ⟨hlt, hp, -⟩ := List.findIdx?_eq_some_iff_getElem.1 hj
  have hget := (List.getElem?_eq_some_iff.1 hf).2
  rw [hget] at hp
  simpa using hp

/-- The first entry with a name. -/
def first (store : RecordingStore) (name : String) : Option ManifestEntry :=
  store.manifest.entries.find? (·.name = name)

/-- It is the one every by-name operation finds. -/
theorem first_eq_some {store : RecordingStore} {name : String} {e : ManifestEntry} :
    store.first name = some e ↔ ∃ i, store.entryForName name = some (i, e) := by
  rw [first, List.find?_eq_bind_findIdx?_getElem?]
  simp only [entryForName, position, Option.bind_eq_some_iff, Option.map_eq_some_iff,
    Prod.mk.injEq]
  constructor
  · rintro ⟨i, hi, he⟩
    exact ⟨i, i, hi, e, he, rfl, rfl⟩
  · rintro ⟨_, i, hi, _, he, -, rfl⟩
    exact ⟨i, hi, he⟩

theorem name_of_first {store : RecordingStore} {name : String} {e : ManifestEntry}
    (h : store.first name = some e) : e.name = name := by
  have := List.find?_some h
  simpa using this

/-- The current entry is the one the index stands at. -/
theorem getCurrentEntry_eq_some {store : RecordingStore} {i : Nat} {e : ManifestEntry} :
    store.getCurrentEntry = some (i, e) ↔
      store.currentEntry = some i ∧ store.manifest.entries[i]? = some e := by
  rw [getCurrentEntry]
  cases store.currentEntry with
  | none => simp
  | some j =>
    simp only [Option.bind_some, Option.map_eq_some_iff, Prod.mk.injEq, Option.some.injEq]
    constructor
    · rintro ⟨f, hf, rfl, rfl⟩; exact ⟨rfl, hf⟩
    · rintro ⟨rfl, hf⟩; exact ⟨e, hf, rfl, rfl⟩

end RecordingStore

end Rayhunter
