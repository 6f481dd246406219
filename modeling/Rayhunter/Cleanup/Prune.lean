import Rayhunter.Cleanup.Classify
import Rayhunter.Store.Spec

/-!
# Making room

`verdict_for` and `prune_clean_recordings` (`daemon/src/cleanup.rs`): recordings whose report reads
as nothing found are deleted, oldest first, until there is room.
-/

namespace Rayhunter

open Storage

/-! ## Free space -/

/-- A reading of `DiskStats::new` (`stats.rs`): the bytes available, where they are known. -/
abbrev DiskReading := Except String (Option UInt64)

/-- A reading of a disk with nothing left. -/
def diskFull : DiskReading := .ok (some 0)

/-- The megabytes a reading says are available. -/
def availableMb (availableBytes : Option UInt64) : UInt64 := availableBytes.getD 0 / 1024 / 1024

/-- `available_mb` of `prune_clean_recordings` (`cleanup.rs:160`): a reading that failed counts as
plenty. -/
def pruneAvailableMb : DiskReading → UInt64
  | .ok availableBytes => availableMb availableBytes
  | .error _ => 0xffffffffffffffff

/-! ## The verdict on a recording -/

/-- What the disk answers when a report is read: an error opening it, or one after some of its
lines. -/
structure ReportIo where
  «open» : Option IoError := none
  read : Option Nat := none
  deriving DecidableEq, Repr

/-- The lines a reader gets, `none` for the error it stops at. -/
def reportLines (report : FileContent) (io : ReportIo) : List (Option String) :=
  match io.read with
  | none => report.lines
  | some n => report.lines.take n ++ [none]

section
variable [SerdeJson]

/-- The loop of `verdict_for` (`cleanup.rs:111`). -/
def verdictOfLines : Bool → List (Option String) → Verdict
  | sawALine, [] => if sawALine then .clean else .unknown
  | _, none :: _ => .unknown
  | sawALine, some line :: lines =>
    match classifyLine line with
    | .warning => .hasWarnings
    | .malformed => .unknown
    | .noWarning => verdictOfLines (sawALine || Text.trim line != "") lines

/-- The report of an entry as `open_file` finds it. -/
def reportOf (s : Storage) (entry : ManifestEntry) : Option FileContent :=
  s.files (entry.getFilepath .analysis s.store.path)

/-- A recording `verdict_for` leaves alone whatever its report says: the one being written, one
that waits to be uploaded, and one somebody has named or annotated. -/
def Exempt (store : RecordingStore) (entry : ManifestEntry) (uploadsConfigured : Bool) : Prop :=
  store.isCurrentEntry entry.name = true ∨
    (uploadsConfigured = true ∧ entry.uploadTime = none) ∨
    (entry.displayName ≠ none ∨ entry.notes ≠ none)

instance (store : RecordingStore) (entry : ManifestEntry) (uploadsConfigured : Bool) :
    Decidable (Exempt store entry uploadsConfigured) :=
  inferInstanceAs (Decidable (_ ∨ _ ∨ _))

/-- `verdict_for` (`cleanup.rs:79`). -/
def verdictFor (s : Storage) (index : Nat) (uploadsConfigured : Bool) (io : ReportIo) : Verdict :=
  match s.store.manifest.entries[index]? with
  | none => .unknown
  | some entry =>
    if Exempt s.store entry uploadsConfigured then .unknown
    else
      match io.open, reportOf s entry with
      | none, some report => verdictOfLines false (reportLines report io)
      | _, _ => .unknown

/-- A report that certifies a recording as clean: every line of it is read, is JSON and shows no
warning, and there is one that is not blank. -/
def LooksClean (lines : List (Option String)) : Prop :=
  (∀ l ∈ lines, ∃ line, l = some line ∧ classifyLine line = .noWarning) ∧
    ∃ line, some line ∈ lines ∧ Text.trim line ≠ ""

/-- The loop says clean of exactly these reports. -/
theorem verdictOfLines_eq_clean {saw : Bool} {lines : List (Option String)} :
    verdictOfLines saw lines = .clean ↔
      (∀ l ∈ lines, ∃ line, l = some line ∧ classifyLine line = .noWarning) ∧
        (saw = true ∨ ∃ line, some line ∈ lines ∧ Text.trim line ≠ "") := by
  induction lines generalizing saw with
  | nil => cases saw <;> simp [verdictOfLines]
  | cons l lines ih =>
    cases l with
    | none => simp [verdictOfLines]
    | some line =>
      rw [verdictOfLines]
      cases hc : classifyLine line with
      | warning => simp [hc]
      | malformed => simp [hc]
      | noWarning =>
        simp only [ih, List.mem_cons, forall_eq_or_imp, Option.some.injEq, exists_eq_left', hc,
          true_and, Bool.or_eq_true, bne_iff_ne, ne_eq]
        constructor
        · rintro ⟨hall, (h | h) | ⟨m, hm, ht⟩⟩
          · exact ⟨hall, .inl h⟩
          · exact ⟨hall, .inr ⟨line, .inl rfl, h⟩⟩
          · exact ⟨hall, .inr ⟨m, .inr hm, ht⟩⟩
        · rintro ⟨hall, h | ⟨m, rfl | hm, ht⟩⟩
          · exact ⟨hall, .inl (.inl h)⟩
          · exact ⟨hall, .inl (.inr ht)⟩
          · exact ⟨hall, .inr ⟨m, hm, ht⟩⟩

/-- The verdict is clean exactly on a recording that is not exempt and whose report, as it is read,
looks clean. -/
theorem verdictFor_eq_clean {s : Storage} {index : Nat} {uploadsConfigured : Bool} {io : ReportIo} :
    verdictFor s index uploadsConfigured io = .clean ↔
      ∃ entry, s.store.manifest.entries[index]? = some entry ∧
        ¬ Exempt s.store entry uploadsConfigured ∧ io.open = none ∧
        ∃ report, reportOf s entry = some report ∧ LooksClean (reportLines report io) := by
  rw [verdictFor]
  cases s.store.manifest.entries[index]? with
  | none => simp
  | some entry =>
    by_cases he : Exempt s.store entry uploadsConfigured
    · simp [he]
    · cases ho : io.open with
      | some e => simp [he]
      | none =>
        cases hr : reportOf s entry with
        | none => simp [he, hr]
        | some report => simp [he, hr, verdictOfLines_eq_clean, LooksClean]

end

/-! ## Pruning -/

/-- What the device answers one round of the loop of `prune_clean_recordings`. -/
structure PruneStepIo where
  reading : DiskReading
  report : ReportIo := {}
  delete : DeleteIo := {}

/-- What it answers all of it, `steps k` the round for the name at `k`. -/
structure PruneIo where
  first : DiskReading
  steps : Nat → PruneStepIo

variable [SerdeJson] [Toml] [Sidecar]

/-- The loop of `prune_clean_recordings` (`cleanup.rs:184`) over the names that remain. -/
def pruneLoop (targetMb : UInt64) (uploadsConfigured : Bool) :
    List String → (Nat → PruneStepIo) → Storage → Nat × Storage
  | [], _, s => (0, s)
  | name :: names, steps, s =>
    if targetMb ≤ pruneAvailableMb (steps 0).reading then (0, s)
    else
      let rest := pruneLoop targetMb uploadsConfigured names fun k => steps (k + 1)
      match s.store.entryForName name with
      | none => rest s
      | some (index, _) =>
        if verdictFor s index uploadsConfigured (steps 0).report = .clean then
          match s.deleteEntry name (steps 0).delete with
          | (.ok (), s) => ((rest s).1 + 1, (rest s).2)
          | (.error _, s) => rest s
        else rest s

/-- `prune_clean_recordings` (`cleanup.rs:152`). -/
def pruneCleanRecordings (s : Storage) (targetMb : UInt64) (uploadsConfigured : Bool)
    (io : PruneIo) : Nat × Storage :=
  if targetMb ≤ pruneAvailableMb io.first then (0, s)
  else pruneLoop targetMb uploadsConfigured s.store.names io.steps s

/-- What pruning keeps: whatever survives the deletion of a recording that is judged clean. -/
theorem pruneCleanRecordings_induction {P : Storage → Prop} {uploadsConfigured : Bool}
    (hdel : ∀ s name i e report io, P s → s.store.entryForName name = some (i, e) →
      verdictFor s i uploadsConfigured report = .clean → P (s.deleteEntry name io).2)
    {s : Storage} (targetMb : UInt64) (io : PruneIo) (h : P s) :
    P (pruneCleanRecordings s targetMb uploadsConfigured io).2 := by
  have hloop : ∀ (names : List String) (steps : Nat → PruneStepIo) (s : Storage), P s → P (pruneLoop targetMb uploadsConfigured names steps s).2 := by
    intro names
    induction names with
    | nil => exact fun _ _ h => h
    | cons name names ih =>
      intro steps s h
      rw [pruneLoop]
      split
      · exact h
      · simp only
        split
        · exact ih _ _ h
        · next i e he =>
          split
          · next hv =>
            have hd := hdel s name i e _ (steps 0).delete h he hv
            split
            · next heq => rw [heq] at hd; exact ih _ _ hd
            · next heq => rw [heq] at hd; exact ih _ _ hd
          · exact ih _ _ h
  rw [pruneCleanRecordings]
  split
  · exact h
  · exact hloop _ _ _ h

end Rayhunter
