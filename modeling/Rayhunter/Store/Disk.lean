import Mathlib.Logic.Function.Basic
import Rayhunter.Lib.Text
import Rayhunter.External

/-!
# The disk

Files, as far as the recording store uses them: a file is found by its directory and its name, and
holds bytes or text. Every call that can fail takes its outcome from its caller, so that a property
proved over all of them holds whatever the storage does; a write that fails may leave any prefix of
what was to be written.
-/

namespace Rayhunter

/-- `std::io::Error`: its kind, and the text it is shown as. -/
structure IoError where
  kind : ErrorKind
  text : String
  deriving DecidableEq, Repr

/-- The error of a disk with nothing left. -/
def noSpaceLeft : IoError := ⟨.other, "No space left on device (os error 28)"⟩

/-- `PathBuf`, by its components. -/
abbrev PathBuf := List String

/-- The directory recordings are kept in where the configuration names no other (`config.rs`). -/
def defaultStorePath : PathBuf := ["data", "rayhunter", "qmdl"]

/-- The path of a file. -/
structure FilePath where
  dir : PathBuf
  name : String
  deriving DecidableEq, Repr

/-! ## What a file holds -/

/-- The content of a file. What the code writes as text is kept as text. -/
inductive FileContent
  | bytes (data : List UInt8)
  | text (s : String)
  deriving DecidableEq, Repr

/-- The bytes of a text, in UTF-8. -/
def utf8 (s : String) : List UInt8 := s.toUTF8.data.toList

/-- The text some bytes are in UTF-8. -/
def fromUtf8 (data : List UInt8) : Option String := String.fromUTF8? ⟨data.toArray⟩

/-- The bytes of a text are that text. -/
theorem fromUtf8_utf8 (s : String) : fromUtf8 (utf8 s) = some s := by
  have hbytes : (⟨(utf8 s).toArray⟩ : ByteArray) = s.toByteArray := by simp [utf8]
  rw [fromUtf8, hbytes, String.fromUTF8?, dif_pos s.isValidUTF8]
  rfl

namespace FileContent

/-- The bytes of a file. -/
def toBytes : FileContent → List UInt8
  | bytes data => data
  | text s => utf8 s

/-- `read_to_string`. -/
def asText : FileContent → Option String
  | bytes data => fromUtf8 data
  | text s => some s

/-- `AsyncBufReadExt::lines`: the lines of a file, nothing for one that is not UTF-8. -/
def lines : FileContent → List (Option String)
  | bytes data =>
    (Chunks.splitInclusive (· == 10) data).map fun l => fromUtf8 (Text.stripNewline 10 13 l)
  | text s => (Text.lines s).map some

/-- The content with a text added at its end. -/
def appendText (s : String) : FileContent → FileContent
  | bytes data => bytes (data ++ utf8 s)
  | text t => text (t ++ s)

/-- The content with bytes added at its end. -/
def appendBytes (data : List UInt8) (c : FileContent) : FileContent := bytes (c.toBytes ++ data)

end FileContent

/-! ## Writing -/

/-- A write, with the flush that makes it known whether it went through: `none` where it did, else
the error and how many of the bytes reached the file. -/
abbrev WriteFault := Option (IoError × Nat)

/-- A write nobody waits for: `tokio::fs::File` hands it to another thread, so the file may hold
any prefix of it (`landed`, `none` for all) whether or not an error is reported. -/
structure WriteIo where
  landed : Option Nat := none
  reported : Option IoError := none
  deriving DecidableEq, Repr

/-- The files of the device. -/
structure Disk where
  files : FilePath → Option FileContent

namespace Disk

/-- Whether a file is there. -/
def Exists (d : Disk) (p : FilePath) : Prop := (d.files p).isSome

instance (d : Disk) (p : FilePath) : Decidable (d.Exists p) :=
  inferInstanceAs (Decidable ((d.files p).isSome = true))

/-- The disk with the content of one file replaced. -/
def set (d : Disk) (p : FilePath) (c : Option FileContent) : Disk :=
  ⟨Function.update d.files p c⟩

@[simp] theorem set_files_self (d : Disk) (p : FilePath) (c : Option FileContent) :
    (d.set p c).files p = c := by simp [set]

theorem set_files_of_ne (d : Disk) {p q : FilePath} (c : Option FileContent) (h : q ≠ p) :
    (d.set p c).files q = d.files q := by simp [set, Function.update_of_ne h]

/-- A file put in place leaves every other that was there. -/
theorem Exists.set {d : Disk} {p q : FilePath} {c : FileContent} (h : d.Exists q) :
    (d.set p (some c)).Exists q := by
  unfold Exists at *
  by_cases hq : q = p
  · simp [hq]
  · rwa [set_files_of_ne _ _ hq]

/-- What an open file is written with: its content changed, or nothing where it has been removed
meanwhile. -/
def modify (d : Disk) (p : FilePath) (f : FileContent → FileContent) : Disk :=
  d.set p ((d.files p).map f)

/-- A text written at the end of a file. -/
def writeText (d : Disk) (p : FilePath) (s : String) (fault : WriteFault) : Disk :=
  match fault with
  | none => d.modify p (·.appendText s)
  | some (_, n) => d.modify p (·.appendBytes ((utf8 s).take n))

/-- `OpenOptions::create_new(true).open`. -/
def createNew (d : Disk) (p : FilePath) (fault : Option IoError) : Except IoError Disk :=
  match fault with
  | some e => .error e
  | none =>
    if d.Exists p then .error ⟨.alreadyExists, "File exists (os error 17)"⟩
    else .ok (d.set p (some (.text "")))

/-- `remove_file_if_exists` (`qmdl_store.rs:732`). A file that is not found is not there. -/
def removeFileIfExists (d : Disk) (p : FilePath) (fault : Option IoError) :
    Except IoError Disk :=
  match fault with
  | some e => if e.kind = .notFound then .ok (d.set p none) else .error e
  | none => .ok (d.set p none)

/-- Creating a file succeeds exactly where nothing is in its place and the disk lets it. -/
theorem createNew_eq_ok {d d' : Disk} {p : FilePath} {fault : Option IoError} :
    d.createNew p fault = .ok d' ↔
      fault = none ∧ ¬ d.Exists p ∧ d' = d.set p (some (.text "")) := by
  unfold createNew
  cases fault with
  | some e => simp
  | none => by_cases h : d.Exists p <;> simp [h, eq_comm]

/-- Where a file is removed it is gone, and nothing else has changed. -/
theorem removeFileIfExists_ok {d d' : Disk} {p : FilePath} {fault : Option IoError}
    (h : d.removeFileIfExists p fault = .ok d') : d' = d.set p none := by
  unfold removeFileIfExists at h
  cases fault with
  | some e => by_cases hk : e.kind = .notFound <;> simp_all
  | none => cases h; rfl

end Disk

/-- The device a process runs on: its disk, and the process-wide `ENTRY_SEQUENCE`
(`qmdl_store.rs:11`). -/
structure Device where
  disk : Disk
  entrySequence : UInt64

/-- A device with nothing on its disk. -/
def emptyDevice : Device := ⟨⟨fun _ => none⟩, 0⟩

end Rayhunter
