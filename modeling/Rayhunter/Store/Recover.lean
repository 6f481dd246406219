import Mathlib.Data.List.Sort
import Rayhunter.Store.Spec

/-!
# Opening a store

`load`, `create`, `recover` and `open_or_recover` (`daemon/src/qmdl_store.rs`). Recovery rebuilds a
manifest from the names of the files in a directory, in the order the kernel lists them.
-/

namespace Rayhunter

variable [Toml]

/-! ## Loading and creating -/

/-- `read_manifest` (`qmdl_store.rs:389`). -/
def readManifest (d : Disk) (path : PathBuf) (fault : Option IoError) :
    Except RecordingStoreError Manifest :=
  match fault with
  | some e => .error (.readManifestError e)
  | none =>
    match d.files (manifestPath path) with
    | none => .error (.readManifestError ⟨.notFound, "No such file or directory (os error 2)"⟩)
    | some c =>
      match c.asText with
      | none =>
        .error (.readManifestError ⟨.invalidData, "stream did not contain valid UTF-8"⟩)
      | some s =>
        match Toml.fromStr s with
        | .error e => .error (.parseManifestError e)
        | .ok manifest => .ok manifest

/-- `load` (`qmdl_store.rs:225`). -/
def RecordingStore.load (d : Disk) (path : PathBuf) (fault : Option IoError) :
    Except RecordingStoreError RecordingStore :=
  match readManifest d path fault with
  | .error e => .error e
  | .ok manifest => .ok ⟨path, manifest, none⟩

/-- A store that has been opened, with the error of the manifest write that ends opening it. -/
def openedWith (store : RecordingStore) (device : Device) (io : ManifestIo) :
    Except RecordingStoreError RecordingStore × Device :=
  match (Storage.mk store device).writeManifest io with
  | (.error e, s) => (.error e, s.device)
  | (.ok (), s) => (.ok store, s.device)

/-- What the disk answers `create`. -/
structure CreateIo where
  createDir : Option IoError := none
  manifest : ManifestIo := {}

/-- `create` (`qmdl_store.rs:240`). -/
def RecordingStore.create (device : Device) (path : PathBuf) (io : CreateIo) :
    Except RecordingStoreError RecordingStore × Device :=
  match io.createDir with
  | some e => (.error (.openDirError e), device)
  | none => openedWith ⟨path, ⟨[]⟩, none⟩ device io.manifest

/-- A store that has just been created on a device with nothing on its disk. -/
def createdStorage : Storage :=
  ⟨⟨defaultStorePath, ⟨[]⟩, none⟩,
    (RecordingStore.create emptyDevice defaultStorePath {}).2⟩

/-! ## Recovery -/

/-- An entry of a directory: its name, where that is UTF-8, its size, and when it was written. -/
structure DirEntry where
  fileName : Option String
  metadata : Except IoError Nat
  modified : Option DateTime

/-- The name of a recording and whether it is compressed, by the name of its QMDL file
(`qmdl_store.rs:319`). -/
def recordingStem (fileName : String) : Option (String × Bool) :=
  if Text.endsWith fileName ".qmdl" then some (Text.trimEndMatches fileName ".qmdl", false)
  else if Text.endsWith fileName ".qmdl.gz" then
    some (Text.trimEndMatches fileName ".qmdl.gz", true)
  else none

/-- A number in decimal digits. -/
def parseDigits (cs : List Char) : Option Nat :=
  if cs ≠ [] ∧ cs.all Char.isDigit then
    some (cs.foldl (fun n c => n * 10 + (c.toNat - '0'.toNat)) 0)
  else none

/-- `str::parse::<i64>`. -/
def parseI64 : List Char → Option Int
  | '+' :: ds => (parseDigits ds).bind fun n => if n < 2 ^ 63 then some (n : Int) else none
  | '-' :: ds => (parseDigits ds).bind fun n => if n ≤ 2 ^ 63 then some (-(n : Int)) else none
  | ds => (parseDigits ds).bind fun n => if n < 2 ^ 63 then some (n : Int) else none

variable [Chrono]

/-- The entry recovered for a file, with its start time taken from the seconds before the first
hyphen of its name (`qmdl_store.rs:315`); nothing for any other file. -/
def recoverEntry (file : DirEntry) : Option ManifestEntry :=
  match file.fileName.bind recordingStem with
  | none => none
  | some (stem, compressed) =>
    match parseI64 (stem.toList.takeWhile (· ≠ '-')), file.metadata with
    | some startTimestamp, .ok size =>
      match Chrono.fromTimestamp startTimestamp, file.modified with
      | some startTime, some lastMessageTime =>
        some
          { name := stem
            startTime
            lastMessageTime := some lastMessageTime
            qmdlSizeBytes := size
            rayhunterVersion := none
            systemOs := none
            arch := none
            stopReason := none
            uploadTime := none
            gpsMode := none
            compressed
            displayName := none
            notes := none }
      | _, _ => none
    | _, _ => none

/-- What the disk answers `recover`: the files of the directory as far as they are listed, and the
error the listing ends with. -/
structure RecoverIo where
  readDir : Option IoError := none
  entries : List DirEntry
  nextEntry : Option IoError := none
  manifest : ManifestIo := {}

/-- The entries recovered from a listing, in the order they were started. -/
def recoverEntries (files : List DirEntry) : List ManifestEntry :=
  (files.filterMap recoverEntry).insertionSort fun a b => a.startTime.nanos ≤ b.startTime.nanos

/-- `recover` (`qmdl_store.rs:301`). -/
def RecordingStore.recover (device : Device) (path : PathBuf) (io : RecoverIo) :
    Except RecordingStoreError RecordingStore × Device :=
  match io.readDir.or io.nextEntry with
  | some e => (.error (.openDirError e), device)
  | none => openedWith ⟨path, ⟨recoverEntries io.entries⟩, none⟩ device io.manifest

/-- What the disk answers `open_or_recover`. -/
structure OpenIo where
  dirExists : Except IoError Bool
  manifestExists : Except IoError Bool
  load : Option IoError := none
  recover : RecoverIo
  create : CreateIo := {}

/-- `open_or_recover` (`qmdl_store.rs:267`). -/
def RecordingStore.openOrRecover (device : Device) (path : PathBuf) (io : OpenIo) :
    Except RecordingStoreError RecordingStore × Device :=
  match io.dirExists with
  | .error e => (.error (.openDirError e), device)
  | .ok false => RecordingStore.create device path io.create
  | .ok true =>
    match io.manifestExists with
    | .error e => (.error (.readManifestError e), device)
    | .ok false => RecordingStore.recover device path io.recover
    | .ok true =>
      match RecordingStore.load device.disk path io.load with
      | .ok store => (.ok store, device)
      | .error (.parseManifestError _) => RecordingStore.recover device path io.recover
      | .error e => (.error e, device)

/-! ## What an opened store is like -/

section
omit [Chrono]

theorem openedWith_store {store store' : RecordingStore} {device : Device} {io : ManifestIo}
    (h : (openedWith store device io).1 = .ok store') : store' = store := by
  unfold openedWith at h
  split at h
  · cases h
  · cases h; rfl

theorem load_store {d : Disk} {path : PathBuf} {fault : Option IoError} {store : RecordingStore}
    (h : RecordingStore.load d path fault = .ok store) :
    store.path = path ∧ store.currentEntry = none ∧ readManifest d path fault = .ok store.manifest
    := by
  unfold RecordingStore.load at h
  split at h
  · cases h
  · next m hm => cases h; exact ⟨rfl, rfl, hm⟩

theorem create_store {device : Device} {path : PathBuf} {io : CreateIo} {store : RecordingStore}
    (h : (RecordingStore.create device path io).1 = .ok store) : store = ⟨path, ⟨[]⟩, none⟩ := by
  unfold RecordingStore.create at h
  split at h
  · cases h
  · exact openedWith_store h

end

theorem recover_store {device : Device} {path : PathBuf} {io : RecoverIo}
    {store : RecordingStore} (h : (RecordingStore.recover device path io).1 = .ok store) :
    store = ⟨path, ⟨recoverEntries io.entries⟩, none⟩ := by
  unfold RecordingStore.recover at h
  split at h
  · cases h
  · exact openedWith_store h

/-- Opening a store never leaves it with a current entry. -/
theorem openOrRecover_store {device : Device} {path : PathBuf} {io : OpenIo}
    {store : RecordingStore} (h : (RecordingStore.openOrRecover device path io).1 = .ok store) :
    store.path = path ∧ store.currentEntry = none := by
  unfold RecordingStore.openOrRecover at h
  split at h
  · cases h
  · rw [create_store h]; exact ⟨rfl, rfl⟩
  · split at h
    · cases h
    · rw [recover_store h]; exact ⟨rfl, rfl⟩
    · split at h
      · next hl =>
        cases h
        obtain ⟨hp, hc, -⟩ := load_store hl
        exact ⟨hp, hc⟩
      · rw [recover_store h]; exact ⟨rfl, rfl⟩
      · cases h

omit [Toml] in
/-- Recovery lists every recovered file once. -/
theorem recoverEntries_perm (files : List DirEntry) :
    (recoverEntries files).Perm (files.filterMap recoverEntry) := List.perm_insertionSort _ _

end Rayhunter
