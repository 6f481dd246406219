import Rayhunter.Store.Recover

/-!
# Opening a damaged store

What `open_or_recover` makes of the bytes `manifest.toml` may hold. Bytes that are no text end it
with an error; a text that is no manifest is rebuilt from the recordings beside it; a text that is a
manifest, though a shorter one than was written, is taken as it is. Recovery itself finds every
recording with a conventional name, `<unix-seconds>` or `<unix-seconds>-<sequence>`, whose seconds
carry no sign.
-/

namespace Rayhunter

/-! ## Conventional names -/

/-- The name of a recording by the seconds it began at: the old form, and with a sequence number the
one `ManifestEntry::new` (`qmdl_store.rs:192`) gives. -/
def conventionalStem (seconds : Int) : Option Nat → String
  | none => toString seconds
  | some sequence => s!"{seconds}-{sequence}"

theorem new_name [Build] (gpsMode : GpsMode) (now : DateTime) (sequence : UInt64) :
    (ManifestEntry.new gpsMode now sequence).name =
      conventionalStem now.timestamp (some sequence.toNat) := rfl

/-- The name of a QMDL file of that convention, of an instant `chrono` represents. -/
def Conventional [Chrono] (fileName : String) : Prop :=
  ∃ (seconds : Int) (sequence : Option Nat) (compressed : Bool),
    -(2 ^ 63) ≤ seconds ∧ seconds < 2 ^ 63 ∧ (Chrono.fromTimestamp seconds).isSome ∧
      fileName = FileKind.qmdl.getFilename (conventionalStem seconds sequence) compressed

/-- A name that begins with a hyphen. The seconds before the first hyphen are none. -/
def BeginsWithHyphen (name : String) : Prop := name.toList.head? = some '-'

/-- The text of a number ends with a digit. -/
theorem getLast?_repr (n : Nat) : ∃ c, n.repr.toList.getLast? = some c ∧ c.isDigit := by
  rw [Nat.toList_repr]
  cases h : (Nat.toDigits 10 n).getLast? with
  | none => exact absurd (List.getLast?_eq_none_iff.1 h) Nat.toDigits_ne_nil
  | some c =>
    exact ⟨c, rfl, Nat.isDigit_of_mem_toDigits (by decide) (by decide) (List.mem_of_getLast? h)⟩

/-- What follows the sign of a number. -/
theorem toList_toString_int (k : Int) :
    (toString k).toList = if 0 ≤ k then Nat.toDigits 10 k.toNat
      else '-' :: Nat.toDigits 10 (-k).toNat := by
  rw [Int.toString_eq_repr, Int.repr_eq_if]
  split
  · exact Nat.toList_repr
  · rw [String.toList_append, Nat.toList_repr]; rfl

theorem toList_conventionalStem (seconds : Int) (sequence : Option Nat) :
    (conventionalStem seconds sequence).toList = (toString seconds).toList ++
      match sequence with
      | none => []
      | some n => '-' :: n.repr.toList := by
  cases sequence with
  | none => simp [conventionalStem]
  | some n =>
    show (toString seconds ++ "-" ++ toString n).toList = _
    rw [String.toList_append, String.toList_append, List.append_assoc]
    rfl

/-- A conventional name ends with a digit. -/
theorem getLast?_conventionalStem (seconds : Int) (sequence : Option Nat) :
    ∃ c, (conventionalStem seconds sequence).toList.getLast? = some c ∧ c.isDigit := by
  rw [toList_conventionalStem]
  cases sequence with
  | none =>
    rw [List.append_nil, toList_toString_int]
    split
    · obtain ⟨c, hc, hd⟩ := getLast?_repr seconds.toNat
      exact ⟨c, by rwa [Nat.toList_repr] at hc, hd⟩
    · obtain ⟨c, hc, hd⟩ := getLast?_repr (-seconds).toNat
      rw [Nat.toList_repr] at hc
      exact ⟨c, by rw [List.getLast?_cons, hc]; rfl, hd⟩
  | some n =>
    obtain ⟨c, hc, hd⟩ := getLast?_repr n
    exact ⟨c, by rw [List.getLast?_append, List.getLast?_cons, hc]; rfl, hd⟩

/-- A conventional file name gives its recording back. -/
theorem recordingStem_getFilename (seconds : Int) (sequence : Option Nat) (compressed : Bool) :
    recordingStem (FileKind.qmdl.getFilename (conventionalStem seconds sequence) compressed) =
      some (conventionalStem seconds sequence, compressed) := by
  obtain ⟨c, hc, hd⟩ := getLast?_conventionalStem seconds sequence
  have hne : ∀ d : Char, d.isDigit = false → d ≠ c := by
    rintro d hdig rfl
    rw [hd] at hdig
    cases hdig
  cases compressed with
  | false =>
    have hend : Text.endsWith (conventionalStem seconds sequence) ".qmdl" = false :=
      Text.endsWith_eq_false hc (d := 'l') (by decide) (hne 'l' (by decide))
    simp only [recordingStem, FileKind.getFilename, FileKind.suffix, Text.endsWith_append,
      Text.trimEndMatches_append (by decide) hend, if_true]
  | true =>
    have hend : Text.endsWith (conventionalStem seconds sequence) ".qmdl.gz" = false :=
      Text.endsWith_eq_false hc (d := 'z') (by decide) (hne 'z' (by decide))
    have hplain : Text.endsWith (conventionalStem seconds sequence ++ ".qmdl.gz") ".qmdl" = false :=
      Text.endsWith_eq_false (c := 'z') (d := 'l')
        (by rw [String.toList_append, List.getLast?_append]; rfl) (by decide) (by decide)
    simp only [recordingStem, FileKind.getFilename, FileKind.suffix, hplain, Text.endsWith_append,
      Text.trimEndMatches_append (by decide) hend, if_true, if_false, Bool.false_eq_true]

/-! ## The seconds of a name -/

/-- The digits of a number are read as that number. -/
theorem parseDigits_toDigits (n : Nat) : parseDigits (Nat.toDigits 10 n) = some n := by
  have hall : (Nat.toDigits 10 n).all Char.isDigit = true := by
    rw [List.all_eq_true]
    exact fun c hc => Nat.isDigit_of_mem_toDigits (by decide) (by decide) hc
  rw [parseDigits, if_pos ⟨Nat.toDigits_ne_nil, hall⟩]
  have hfold := Nat.ofDigitChars_ten_toDigits (n := n)
  rw [Nat.ofDigitChars_eq_foldl] at hfold
  simp only [Nat.mul_comm _ 10]
  exact congrArg some hfold

/-- No digit is a hyphen or a sign. -/
theorem ne_of_mem_toDigits {n : Nat} {c d : Char} (hc : c ∈ Nat.toDigits 10 n)
    (hd : d.isDigit = false) : c ≠ d := by
  rintro rfl
  rw [Nat.isDigit_of_mem_toDigits (by decide) (by decide) hc] at hd
  cases hd

/-- The seconds of a conventional name, as recovery reads them. -/
theorem secondsPart_conventionalStem (seconds : Int) (sequence : Option Nat) :
    (conventionalStem seconds sequence).toList.takeWhile (· ≠ '-') =
      if 0 ≤ seconds then Nat.toDigits 10 seconds.toNat else [] := by
  rw [toList_conventionalStem, toList_toString_int]
  split
  · have hall : ∀ c ∈ Nat.toDigits 10 seconds.toNat, decide (c ≠ '-') = true := by
      intro c hc
      simpa using ne_of_mem_toDigits hc (by decide)
    rw [List.takeWhile_append_of_pos hall]
    cases sequence <;> simp
  · rfl

/-- They are read where they carry no sign. -/
theorem parseI64_toDigits {n : Nat} (h : n < 2 ^ 63) :
    parseI64 (Nat.toDigits 10 n) = some (n : Int) := by
  have hp := parseDigits_toDigits n
  cases hd : Nat.toDigits 10 n with
  | nil => exact absurd hd Nat.toDigits_ne_nil
  | cons c cs =>
    have hc : c ∈ Nat.toDigits 10 n := by rw [hd]; simp
    rw [hd] at hp
    unfold parseI64
    split
    · next heq => cases heq; exact absurd rfl (ne_of_mem_toDigits hc (by decide))
    · next heq => cases heq; exact absurd rfl (ne_of_mem_toDigits hc (by decide))
    · rw [hp, Option.bind_some, if_pos h]

/-! ## What recovery finds -/

/-- The store has an entry for the QMDL file of that name. -/
def RecordingStore.Lists (store : RecordingStore) (fileName : String) : Prop :=
  ∃ e ∈ store.manifest.entries, e.getFilepath .qmdl store.path = ⟨store.path, fileName⟩

/-- Everything the kernel says about a file can be read. -/
structure DirEntry.Readable (file : DirEntry) : Prop where
  metadata : ∃ size, file.metadata = .ok size
  modified : ∃ time, file.modified = some time

section
variable [Chrono]

/-- A recording with a conventional name and no sign is recovered. -/
theorem recoverEntry_conventional {file : DirEntry} (hfile : file.Readable) {name : String}
    (hname : file.fileName = some name) (hconv : Conventional name)
    (hsign : ¬ BeginsWithHyphen name) :
    ∃ e, recoverEntry file = some e ∧ ∀ path, e.getFilepath .qmdl path = ⟨path, name⟩ := by
  obtain ⟨seconds, sequence, compressed, -, hlt, hrange, rfl⟩ := hconv
  obtain ⟨size, hsize⟩ := hfile.metadata
  obtain ⟨time, htime⟩ := hfile.modified
  obtain ⟨start, hstart⟩ := Option.isSome_iff_exists.1 hrange
  have hpos : 0 ≤ seconds := by
    by_contra hneg
    refine hsign ?_
    rw [BeginsWithHyphen, FileKind.getFilename, String.toList_append, toList_conventionalStem,
      toList_toString_int, if_neg hneg]
    rfl
  have hparse : parseI64 (Nat.toDigits 10 seconds.toNat) = some seconds := by
    rw [parseI64_toDigits (by omega), Int.toNat_of_nonneg hpos]
  obtain ⟨e, he, hstem, hcompressed⟩ : ∃ e, recoverEntry file = some e ∧
      e.name = conventionalStem seconds sequence ∧ e.compressed = compressed := by
    simp only [recoverEntry, hname, Option.bind_some, recordingStem_getFilename,
      secondsPart_conventionalStem, if_pos hpos, hparse, hsize, hstart, htime]
    exact ⟨_, rfl, rfl, rfl⟩
  exact ⟨e, he, fun path => by rw [ManifestEntry.getFilepath, hstem, hcompressed]; rfl⟩

/-- A recovered entry has the name of its file without the ending, and the seconds in it are
read. -/
theorem recoverEntry_eq_some {file : DirEntry} {e : ManifestEntry} (h : recoverEntry file = some e) :
    ∃ seconds, parseI64 (e.name.toList.takeWhile (· ≠ '-')) = some seconds := by
  unfold recoverEntry at h
  split at h
  · cases h
  · next stem compressed hstem =>
    split at h
    · next seconds size hparse hmeta =>
      split at h
      · cases h; exact ⟨seconds, hparse⟩
      · cases h
    · cases h

/-- What is recovered from a directory lists a conventional name exactly where that has no sign. -/
theorem lists_recoverEntries {files : List DirEntry} {path : PathBuf}
    (hfiles : ∀ f ∈ files, f.Readable) {file : DirEntry} (hmem : file ∈ files) {name : String}
    (hname : file.fileName = some name) (hconv : Conventional name) :
    RecordingStore.Lists ⟨path, ⟨recoverEntries files⟩, none⟩ name ↔ ¬ BeginsWithHyphen name := by
  constructor
  · rintro ⟨e, he, hpath⟩ hsign
    obtain ⟨f, -, hf⟩ := List.mem_filterMap.1 ((recoverEntries_perm files).mem_iff.1 he)
    obtain ⟨seconds, hparse⟩ := recoverEntry_eq_some hf
    -- the entry's name begins as the file's does
    have hhead : e.name.toList.head? = some '-' := by
      have heq : e.name ++ FileKind.qmdl.suffix e.compressed = name := congrArg FilePath.name hpath
      rw [BeginsWithHyphen, ← heq, String.toList_append, List.head?_append] at hsign
      cases hn : e.name.toList.head? with
      | some c => rw [hn] at hsign; exact hsign
      | none =>
        rw [hn] at hsign
        revert hsign
        cases e.compressed <;> decide
    cases hl : e.name.toList with
    | nil => rw [hl] at hhead; cases hhead
    | cons c cs =>
      rw [hl] at hhead hparse
      cases hhead
      simp [parseI64, parseDigits] at hparse
  · intro hsign
    obtain ⟨e, he, hpath⟩ := recoverEntry_conventional (hfiles file hmem) hname hconv hsign
    refine ⟨e, ?_, hpath path⟩
    exact (recoverEntries_perm files).mem_iff.2 (List.mem_filterMap.2 ⟨file, hmem, he⟩)

end

/-! ## Opening over a damaged manifest -/

section
variable [Toml] [Chrono]

/-- The directory and the manifest are there, and every call on them succeeds. -/
structure OpenIo.Working (io : OpenIo) : Prop where
  dirExists : io.dirExists = .ok true
  manifestExists : io.manifestExists = .ok true
  load : io.load = none
  readDir : io.recover.readDir = none
  nextEntry : io.recover.nextEntry = none
  manifest : io.recover.manifest.fault = none
  files : ∀ f ∈ io.recover.entries, f.Readable

/-- A complete manifest, as `write_manifest` writes one. -/
def CompleteManifest (c : FileContent) : Prop :=
  ∃ m : Manifest, c.toBytes = utf8 (Toml.toStringPretty m)

/-- The store lists every recording with a conventional name among some files. -/
def RecordingStore.ListsAll (store : RecordingStore) (files : List DirEntry) : Prop :=
  ∀ f ∈ files, ∀ name, f.fileName = some name → Conventional name → store.Lists name

/-- `open_or_recover` returns a store, and over anything but a complete manifest it lists every
recording with a conventional name. -/
def Reopens (device : Device) (path : PathBuf) (io : OpenIo) (c : FileContent) : Prop :=
  ∃ store, (RecordingStore.openOrRecover device path io).1 = .ok store ∧
    (¬ CompleteManifest c → store.ListsAll io.recover.entries)

/-- The bytes of the manifest are a text. Where that is no complete manifest, either it parses as
one that lists every recording, or it does not parse and no recording's name begins with a
hyphen. -/
def Recoverable (path : PathBuf) (files : List DirEntry) (c : FileContent) : Prop :=
  ∃ text, c.asText = some text ∧ (¬ CompleteManifest c →
    match Toml.fromStr text with
    | .ok m => RecordingStore.ListsAll ⟨path, m, none⟩ files
    | .error _ => ∀ f ∈ files, ∀ name, f.fileName = some name → Conventional name →
        ¬ BeginsWithHyphen name)

/-- What `open_or_recover` returns where every call succeeds. -/
theorem openOrRecover_of_working {device : Device} {path : PathBuf} {io : OpenIo} {c : FileContent}
    (hio : io.Working) (hc : device.disk.files (manifestPath path) = some c) :
    (RecordingStore.openOrRecover device path io).1 =
      match c.asText with
      | none => .error (.readManifestError ⟨.invalidData, "stream did not contain valid UTF-8"⟩)
      | some text =>
        match Toml.fromStr text with
        | .ok m => .ok ⟨path, m, none⟩
        | .error _ => .ok ⟨path, ⟨recoverEntries io.recover.entries⟩, none⟩ := by
  simp only [RecordingStore.openOrRecover, hio.dirExists, hio.manifestExists, RecordingStore.load,
    readManifest, hio.load, hc]
  cases c.asText with
  | none => rfl
  | some text =>
    simp only
    cases Toml.fromStr text with
    | ok m => rfl
    | error e =>
      simp only [RecordingStore.recover, hio.readDir, hio.nextEntry, Option.or_none]
      unfold openedWith Storage.writeManifest
      rw [hio.manifest]

/-- **A damaged manifest costs neither the start nor a recording exactly where it is
recoverable.** -/
theorem reopens_iff {device : Device} {path : PathBuf} {io : OpenIo} {c : FileContent}
    (hio : io.Working) (hc : device.disk.files (manifestPath path) = some c) :
    Reopens device path io c ↔ Recoverable path io.recover.entries c := by
  unfold Reopens Recoverable
  rw [openOrRecover_of_working hio hc]
  cases c.asText with
  | none => simp
  | some text =>
    simp only [Option.some.injEq, exists_eq_left']
    cases Toml.fromStr text with
    | ok m => simp only [Except.ok.injEq, exists_eq_left']
    | error e =>
      simp only [Except.ok.injEq, exists_eq_left']
      refine imp_congr_right fun _ => forall₂_congr fun f hf => forall₃_congr fun name hname hconv =>
        lists_recoverEntries hio.files hf hname hconv

end

/-! ## A manifest that is no text -/

/-- A device with one recording, its manifest overwritten with some bytes. -/
def damagedDevice (c : FileContent) : Device :=
  ⟨emptyDevice.disk.set (manifestPath defaultStorePath) (some c), 0⟩

/-- Opening the store on it. -/
def damagedIo : OpenIo where
  dirExists := .ok true
  manifestExists := .ok true
  recover := { entries := [⟨some "1724038434-0.qmdl.gz", .ok 1024, some anInstant⟩] }

theorem damagedIo_working : damagedIo.Working := by
  refine ⟨rfl, rfl, rfl, rfl, rfl, rfl, ?_⟩
  intro f hf
  obtain rfl := List.mem_singleton.1 hf
  exact ⟨⟨_, rfl⟩, ⟨_, rfl⟩⟩

/-- A manifest that was emptied is recovered. -/
theorem reopens_iff_emptied :
    let _ := tomlAt "2024-08-19T03:33:54+00:00"
    let _ := oneInstant
    damagedIo.Working ∧
      (damagedDevice (.bytes [])).disk.files (manifestPath defaultStorePath) = some (.bytes []) ∧
      (Reopens (damagedDevice (.bytes [])) defaultStorePath damagedIo (.bytes []) ↔
        Recoverable defaultStorePath damagedIo.recover.entries (.bytes [])) := by
  let _ := tomlAt "2024-08-19T03:33:54+00:00"
  let _ := oneInstant
  have hc := Disk.set_files_self emptyDevice.disk (manifestPath defaultStorePath)
    (some (.bytes []))
  exact ⟨damagedIo_working, hc, reopens_iff damagedIo_working hc⟩

/-- A manifest that holds a byte which is no text keeps the store from being opened. -/
theorem not_reopened :
    let _ := tomlAt "2024-08-19T03:33:54+00:00"
    let _ := oneInstant
    ¬ ∀ (device : Device) (path : PathBuf) (io : OpenIo) (c : FileContent), io.Working →
      device.disk.files (manifestPath path) = some c → Reopens device path io c := by
  let _ := tomlAt "2024-08-19T03:33:54+00:00"
  let _ := oneInstant
  intro _ _ h
  obtain ⟨store, hstore, -⟩ := h (damagedDevice (.bytes [0xff])) defaultStorePath damagedIo _
    damagedIo_working (Disk.set_files_self ..)
  revert hstore
  have herr : (RecordingStore.openOrRecover (damagedDevice (.bytes [0xff])) defaultStorePath
      damagedIo).1 =
        .error (.readManifestError ⟨.invalidData, "stream did not contain valid UTF-8"⟩) := by
    decide +kernel
  rw [herr]
  exact fun hstore => nomatch hstore

end Rayhunter
