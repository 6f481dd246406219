import Rayhunter.Store.Files
import Rayhunter.Store.Recover

/-!
# Memory and disk

Every operation of the store that changes the manifest changes the list in memory first and writes
it to `manifest.toml` last. So an operation that fails before its edit leaves both as they were, and
one whose manifest write fails leaves the edit in memory alone. What a restart would load is then
what is in memory only where the edit changed nothing.
-/

namespace Rayhunter

open Storage

/-! ## What a fresh load returns -/

section
variable [Toml]

/-- What `manifest.toml` reads as. -/
def Storage.onDisk (s : Storage) : Except RecordingStoreError Manifest :=
  readManifest s.device.disk s.store.path none

/-- A fresh load of `manifest.toml` would return the entries in memory. -/
def Storage.Agree (s : Storage) : Prop := s.onDisk = .ok s.store.manifest

/-- What is read depends on `manifest.toml` alone. -/
theorem readManifest_congr {d d' : Disk} {path : PathBuf}
    (h : d'.files (manifestPath path) = d.files (manifestPath path)) (fault : Option IoError) :
    readManifest d' path fault = readManifest d path fault := by
  unfold readManifest
  rw [h]

omit [Toml] in
theorem manifestTmpPath_ne (path : PathBuf) : manifestPath path ≠ manifestTmpPath path := by
  simp [manifestPath, manifestTmpPath]

/-- A manifest write that reports an error has not touched `manifest.toml`. -/
theorem manifestDisk_of_fault {d : Disk} {store : RecordingStore} {io : ManifestIo}
    (h : io.fault ≠ none) :
    (manifestDisk d store io).files (manifestPath store.path) =
      d.files (manifestPath store.path) := by
  obtain ⟨create, write, rename⟩ := io
  unfold manifestDisk
  cases create with
  | some e => rfl
  | none =>
    cases hw : write.reported with
    | some e => exact Disk.set_files_of_ne _ _ (manifestTmpPath_ne _)
    | none =>
      cases rename with
      | some e => exact Disk.set_files_of_ne _ _ (manifestTmpPath_ne _)
      | none => simp [ManifestIo.fault, hw] at h

theorem writeManifest_onDisk {s : Storage} {io : ManifestIo} (h : io.fault ≠ none) :
    (s.writeManifest io).2.onDisk = s.onDisk :=
  readManifest_congr (manifestDisk_of_fault h) none

end

/-! ## The operations -/

/-- The operations that change the manifest. -/
inductive ManifestOp
  | newEntry (gpsMode : GpsMode) (io : NewEntryIo)
  | updateCurrentEntryQmdlSize (sizeBytes : Nat) (now : DateTime) (io : ManifestIo)
  | setCurrentStopReason (reason : String) (io : ManifestIo)
  | setEntryAnnotations (name : String) (displayName notes : Option String) (io : ManifestIo)
  | markEntryAsUploaded (name : String) (uploadTime : DateTime) (io : ManifestIo)
  | deleteEntry (name : String) (io : DeleteIo)
  | deleteAllEntries (io : DeleteAllIo)

/-- A file that can be removed, or is not there. -/
def Removable : Option IoError → Prop
  | some e => e.kind = .notFound
  | none => True

instance : DecidablePred Removable := fun
  | some e => inferInstanceAs (Decidable (e.kind = .notFound))
  | none => inferInstanceAs (Decidable True)

/-- The entries `delete_all_entries` keeps: those with a file that cannot be removed. -/
def keptEntries : List ManifestEntry → (Nat → FileKind → Option IoError) → List ManifestEntry
  | [], _ => []
  | entry :: entries, faults =>
    let kept := keptEntries entries fun k => faults (k + 1)
    if ∀ kind ∈ FileKind.ALL, Removable (faults 0 kind) then kept else entry :: kept

namespace ManifestOp

variable [Build] [Toml] [Sidecar]

/-- An operation carried out: its error, if it returns one, and the state it leaves. -/
def run (s : Storage) : ManifestOp → Except RecordingStoreError Unit × Storage
  | newEntry gpsMode io => ((s.newEntry gpsMode io).1.map fun _ => (), (s.newEntry gpsMode io).2)
  | updateCurrentEntryQmdlSize size now io => s.updateCurrentEntryQmdlSize size now io
  | setCurrentStopReason reason io => s.setCurrentStopReason reason io
  | setEntryAnnotations name displayName notes io =>
    s.setEntryAnnotations name displayName notes io
  | markEntryAsUploaded name uploadTime io => s.markEntryAsUploaded name uploadTime io
  | deleteEntry name io => s.deleteEntry name io
  | deleteAllEntries io => s.deleteAllEntries io

/-- The operation returns an error. -/
def Fails (s : Storage) (op : ManifestOp) : Prop := ∃ e, (op.run s).1 = .error e

/-- What the disk answers the manifest write of an operation. -/
def manifestIo : ManifestOp → ManifestIo
  | newEntry _ io => io.manifest
  | updateCurrentEntryQmdlSize _ _ io => io
  | setCurrentStopReason _ io => io
  | setEntryAnnotations _ _ _ io => io
  | markEntryAsUploaded _ _ io => io
  | deleteEntry _ io => io.manifest
  | deleteAllEntries io => io.manifest

/-- The operation comes to its manifest write, with these entries to write. -/
def Edits (s : Storage) (op : ManifestOp) (entries : List ManifestEntry) : Prop :=
  match op with
  | newEntry gpsMode io =>
    ∃ k < MAX_ATTEMPTS, (∀ j < k, (s.closeOpenEntry io.finish).Collides gpsMode io.attempts j) ∧
      (s.closeOpenEntry io.finish).Claimable gpsMode io.attempts k ∧
      entries = s.store.manifest.entries ++ [s.attemptEntry gpsMode io.attempts k]
  | updateCurrentEntryQmdlSize size now _ =>
    ∃ i, s.store.currentEntry = some i ∧ entries = s.store.manifest.entries.modify i fun e =>
      { e with qmdlSizeBytes := size, lastMessageTime := some now }
  | setCurrentStopReason reason _ =>
    ∃ i, s.store.currentEntry = some i ∧ entries = s.store.manifest.entries.modify i fun e =>
      { e with stopReason := some reason }
  | setEntryAnnotations name displayName notes _ =>
    ∃ i, s.store.position name = some i ∧ entries = s.store.manifest.entries.modify i fun e =>
      { e with displayName, notes }
  | markEntryAsUploaded name uploadTime _ =>
    ∃ i, s.store.position name = some i ∧ entries = s.store.manifest.entries.modify i fun e =>
      { e with uploadTime := some uploadTime }
  | deleteEntry name io =>
    ∃ i e, s.store.entryForName name = some (i, e) ∧
      (∀ kind ∈ FileKind.ALL, Removable (io.files kind)) ∧
      entries = s.store.manifest.entries.eraseIdx i
  | deleteAllEntries io => entries = keptEntries s.store.manifest.entries io.files

/-- `manifest.toml` already reads as the operation is about to leave the entries: as they are,
where it fails before its edit, else as the edit makes them. -/
def Settled (s : Storage) (op : ManifestOp) : Prop :=
  (∀ entries, op.Edits s entries → s.onDisk = .ok ⟨entries⟩) ∧
    ((∀ entries, ¬ op.Edits s entries) → s.Agree)

end ManifestOp

/-! ## What leaves the manifest file alone -/

/-- `s'` has the store `s` has at its place, with the same `manifest.toml`. -/
structure SameFile (s s' : Storage) : Prop where
  path : s'.store.path = s.store.path
  file : s'.files (manifestPath s.store.path) = s.files (manifestPath s.store.path)

theorem SameFile.refl (s : Storage) : SameFile s s := ⟨rfl, rfl⟩

theorem SameFile.trans {s s' s'' : Storage} (h₁ : SameFile s s') (h₂ : SameFile s' s'') :
    SameFile s s'' := by
  refine ⟨h₂.path.trans h₁.path, ?_⟩
  rw [← h₁.file, ← h₁.path]
  exact h₂.file

theorem SameFile.onDisk [Toml] {s s' : Storage} (h : SameFile s s') : s'.onDisk = s.onDisk := by
  unfold Storage.onDisk
  rw [h.path]
  exact readManifest_congr h.file none

/-- The manifest is no sidecar on its way either. -/
theorem manifestPath_ne_sidecarTmp (e : ManifestEntry) (path : PathBuf) :
    manifestPath path ≠ sidecarTmp (e.getFilepath .metadata path) := by
  intro heq
  have ht := congrArg (fun p => p.name.toList.getLast?) heq
  simp [manifestPath, sidecarTmp] at ht

section
variable [Sidecar]

theorem finishSidecar_manifest (d : Disk) (e : ManifestEntry) (path : PathBuf) (io : SidecarIo) :
    (finishSidecar d (e.getFilepath .metadata path) io).files (manifestPath path) =
      d.files (manifestPath path) :=
  finishSidecar_files _ _ _ ManifestEntry.ne_manifestPath.symm (manifestPath_ne_sidecarTmp e path)

theorem sameFile_closeCurrentEntry (s : Storage) (io : SidecarIo) :
    SameFile s (s.closeCurrentEntry io).2 := by
  refine ⟨by rw [closeCurrentEntry_store], ?_⟩
  unfold closeCurrentEntry
  cases s.store.currentEntry with
  | none => rfl
  | some i =>
    simp only
    cases s.store.manifest.entries[i]? with
    | none => rfl
    | some e => exact finishSidecar_manifest _ e _ _

theorem sameFile_closeOpenEntry (s : Storage) (io : SidecarIo) :
    SameFile s (s.closeOpenEntry io) := by
  unfold closeOpenEntry
  cases s.store.currentEntry with
  | none => exact .refl s
  | some i => exact sameFile_closeCurrentEntry s io

theorem sameFile_releaseEntry (s : Storage) (i : Nat) (io : SidecarIo) :
    SameFile s (s.releaseEntry i io) := by
  unfold releaseEntry
  cases s.store.currentEntry with
  | none => exact .refl s
  | some j =>
    simp only
    split
    · exact sameFile_closeCurrentEntry s io
    · split <;> exact ⟨rfl, rfl⟩

end

/-- A file of a recording that is created leaves the manifest. -/
theorem createNew_manifest {d d' : Disk} {e : ManifestEntry} {kind : FileKind} {path : PathBuf}
    {fault : Option IoError} (h : d.createNew (e.getFilepath kind path) fault = .ok d') :
    d'.files (manifestPath path) = d.files (manifestPath path) := by
  obtain ⟨-, -, rfl⟩ := Disk.createNew_eq_ok.1 h
  exact Disk.set_files_of_ne _ _ ManifestEntry.ne_manifestPath.symm

theorem claimCompanions_manifest (d : Disk) (e : ManifestEntry) (path : PathBuf) (io : EntryIo) :
    (claimCompanions d e path io).2.files (manifestPath path) = d.files (manifestPath path) := by
  unfold claimCompanions
  split
  · rfl
  · next d₁ h₁ =>
    split
    · exact createNew_manifest h₁
    · next d₂ h₂ => rw [createNew_manifest h₂, createNew_manifest h₁]

theorem sameFile_claimFiles [Build] (gpsMode : GpsMode) (n : Nat) (attempts : Nat → EntryIo)
    (last : Option IoError) (s : Storage) :
    SameFile s (claimFiles gpsMode n attempts last s).2 := by
  induction n generalizing attempts last s with
  | zero => exact .refl s
  | succ n ih =>
    rw [claimFiles]
    have hnext : SameFile s s.nextSequence := ⟨rfl, rfl⟩
    split
    · split
      · exact hnext.trans (ih _ _ _)
      · exact hnext
    · next d hd =>
      have hcomp := claimCompanions_manifest d (s.candidate gpsMode (attempts 0)) s.store.path
        (attempts 0)
      split
      all_goals
        next d' hd' =>
        rw [nextSequence_store] at hd'
        rw [hd'] at hcomp
        exact ⟨rfl, hcomp.trans (createNew_manifest hd)⟩

/-! ## What a removal comes to -/

/-- A file is removed where it is there or not found. -/
theorem removeFileIfExists_isOk (d : Disk) (p : FilePath) (fault : Option IoError) :
    (∃ d', d.removeFileIfExists p fault = .ok d') ↔ Removable fault := by
  unfold Disk.removeFileIfExists Removable
  cases fault with
  | none => simp
  | some e => by_cases hk : e.kind = .notFound <;> simp [hk]

/-- The files of a recording are all removed exactly where each can be. -/
theorem removeFiles_eq_none (e : ManifestEntry) (path : PathBuf)
    (faults : FileKind → Option IoError) (kinds : List FileKind) (d : Disk) :
    (removeFiles e path faults kinds d).1 = none ↔ ∀ kind ∈ kinds, Removable (faults kind) := by
  induction kinds generalizing d with
  | nil => simp [removeFiles]
  | cons kind kinds ih =>
    have hok := removeFileIfExists_isOk d (e.getFilepath kind path) (faults kind)
    rw [removeFiles, List.forall_mem_cons, ← hok]
    cases d.removeFileIfExists (e.getFilepath kind path) (faults kind) with
    | error err => simp
    | ok d₁ => simp [ih]

theorem removeFiles_manifest (e : ManifestEntry) (path : PathBuf)
    (faults : FileKind → Option IoError) (kinds : List FileKind) (d : Disk) :
    (removeFiles e path faults kinds d).2.files (manifestPath path) =
      d.files (manifestPath path) :=
  removeFiles_others (fun _ => ManifestEntry.ne_manifestPath.symm) faults kinds d

/-- The loop of `delete_all_entries` keeps the entries with a file that cannot be removed. -/
theorem removeEntries_fst (path : PathBuf) (entries : List ManifestEntry)
    (faults : Nat → FileKind → Option IoError) (d : Disk) :
    (removeEntries path entries faults d).1 = keptEntries entries faults := by
  induction entries generalizing faults d with
  | nil => rfl
  | cons e es ih =>
    have hnone := removeFiles_eq_none e path (faults 0) FileKind.ALL d
    rw [removeEntries, keptEntries]
    generalize removeFiles e path (faults 0) FileKind.ALL d = p at hnone
    obtain ⟨res, d₁⟩ := p
    cases res with
    | none => rw [if_pos (hnone.1 rfl)]; exact ih _ _
    | some err =>
      have hsome : ¬ ∀ kind ∈ FileKind.ALL, Removable (faults 0 kind) := fun h => by
        cases hnone.2 h
      rw [if_neg hsome]
      exact congrArg _ (ih _ _)

theorem removeEntries_manifest (path : PathBuf) (entries : List ManifestEntry)
    (faults : Nat → FileKind → Option IoError) (d : Disk) :
    (removeEntries path entries faults d).2.files (manifestPath path) =
      d.files (manifestPath path) := by
  induction entries generalizing faults d with
  | nil => rfl
  | cons e es ih =>
    have hfirst := removeFiles_manifest e path (faults 0) FileKind.ALL d
    rw [removeEntries]
    generalize removeFiles e path (faults 0) FileKind.ALL d = p at hfirst
    obtain ⟨res, d₁⟩ := p
    cases res with
    | none => exact (ih _ _).trans hfirst
    | some err => exact (ih _ _).trans hfirst

/-! ## What an operation comes to -/

namespace ManifestOp

variable [Build] [Toml] [Sidecar]

/-- An operation either comes to no edit, with the entries and the manifest file as they were; or
hands the edited entries to `write_manifest`. -/
inductive Outcome (s : Storage) (op : ManifestOp) : Prop
  | rejected (edits : ∀ entries, ¬ op.Edits s entries)
      (manifest : (op.run s).2.store.manifest = s.store.manifest)
      (file : SameFile s (op.run s).2)
  | written (entries : List ManifestEntry) (edits : ∀ es, op.Edits s es ↔ es = entries)
      (manifest : (op.run s).2.store.manifest = ⟨entries⟩)
      (file : op.Fails s → (op.run s).2.onDisk = s.onDisk)

omit [Build] [Sidecar] in
/-- A manifest write fails where the disk reports an error. -/
theorem fault_of_error {s : Storage} {io : ManifestIo} {e : RecordingStoreError}
    (h : (s.writeManifest io).1 = .error e) : io.fault ≠ none := by
  intro hf
  rw [(s.writeManifest_isOk io).2 hf] at h
  cases h

/-- The outcome of an operation that ends with a manifest write in `s₁`. -/
theorem Outcome.of_write {s s₁ : Storage} {op : ManifestOp} (entries : List ManifestEntry)
    {io : ManifestIo} (hrun : op.run s = s₁.writeManifest io)
    (hedits : ∀ es, op.Edits s es ↔ es = entries) (hman : s₁.store.manifest = ⟨entries⟩)
    (hfile : SameFile s s₁) : op.Outcome s := by
  refine .written entries hedits ?_ fun hf => ?_
  · rw [hrun, writeManifest_store, hman]
  · obtain ⟨e, he⟩ := hf
    rw [hrun] at he ⊢
    rw [writeManifest_onDisk (fault_of_error he), hfile.onDisk]

/-- The outcome of an operation that changes one entry. -/
theorem Outcome.of_modify {s : Storage} {op : ManifestOp} {i : Nat}
    {f : ManifestEntry → ManifestEntry} {io : ManifestIo}
    (hrun : op.run s = (s.modifyEntry i f).writeManifest io)
    (hedits : ∀ es, op.Edits s es ↔ es = s.store.manifest.entries.modify i f) : op.Outcome s :=
  .of_write _ hrun hedits rfl ⟨rfl, rfl⟩

omit [Toml] [Sidecar] in
/-- The attempt whose files are created is the first that meets no recording of its name. -/
theorem attempt_unique {s : Storage} {gpsMode : GpsMode} {attempts : Nat → EntryIo} {j k : Nat}
    (hj : ∀ i < j, s.Collides gpsMode attempts i) (hjc : s.Claimable gpsMode attempts j)
    (hk : ∀ i < k, s.Collides gpsMode attempts i) (hkc : s.Claimable gpsMode attempts k) :
    j = k := by
  have hne : ∀ i, s.Claimable gpsMode attempts i → ¬ s.Collides gpsMode attempts i := by
    intro i hi hcol
    unfold Collides at hcol
    rw [hi.qmdl] at hcol
    exact hi.absent .qmdl (by simp) hcol
  rcases Nat.lt_trichotomy j k with hlt | heq | hgt
  · exact absurd (hk j hlt) (hne j hjc)
  · exact heq
  · exact absurd (hj k hgt) (hne k hkc)

omit [Toml] in
theorem attemptEntry_closeOpenEntry (s : Storage) (gpsMode : GpsMode) (attempts : Nat → EntryIo)
    (k : Nat) (io : SidecarIo) :
    (s.closeOpenEntry io).attemptEntry gpsMode attempts k = s.attemptEntry gpsMode attempts k := by
  have hseq : (s.closeOpenEntry io).device.entrySequence = s.device.entrySequence := by
    unfold closeOpenEntry
    cases hc : s.store.currentEntry with
    | none => rfl
    | some i =>
      simp only [closeCurrentEntry, hc]
      cases s.store.manifest.entries[i]? <;> rfl
  simp only [attemptEntry, hseq]

theorem outcome_newEntry (s : Storage) (gpsMode : GpsMode) (io : NewEntryIo) :
    (newEntry gpsMode io).Outcome s := by
  have hfile : SameFile s (s.claims gpsMode io).2 :=
    (sameFile_closeOpenEntry s io.finish).trans (sameFile_claimFiles ..)
  have hman : (s.claims gpsMode io).2.store = { s.store with currentEntry := none } := by
    rw [claims, claimFiles_store, closeOpenEntry_store]
  cases hc : s.claims gpsMode io with
  | mk res s' =>
    rw [hc] at hfile hman
    have hclaims : claimFiles gpsMode MAX_ATTEMPTS io.attempts none (s.closeOpenEntry io.finish) =
        (res, s') := hc
    cases res with
    | error e =>
      have hrun : (newEntry gpsMode io).run s = (.error e, s') := by
        simp only [run, Storage.newEntry, hclaims, Except.map]
      refine .rejected (fun es he => ?_) ?_ ?_
      · obtain ⟨k, hk, hcol, hcan, -⟩ := he
        obtain ⟨entry, hok⟩ := (s.claims_isOk gpsMode io).2 ⟨k, hk, hcol, hcan⟩
        rw [hc] at hok
        cases hok
      · rw [hrun, hman]
      · rw [hrun]; exact hfile
    | ok entry =>
      obtain ⟨k, hk, hcol, hcan, rfl⟩ := claimFiles_ok hclaims
      rw [attemptEntry_closeOpenEntry] at hclaims
      let s₁ := s'.publish (s.attemptEntry gpsMode io.attempts k)
      have hrun : (newEntry gpsMode io).run s = s₁.writeManifest io.manifest := by
        simp only [run, Storage.newEntry, hclaims]
        cases hw : s₁.writeManifest io.manifest with
        | mk r s₂ =>
          cases r <;> rfl
      refine .of_write (s.store.manifest.entries ++ [s.attemptEntry gpsMode io.attempts k])
        hrun (fun es => ?_) ?_ (hfile.trans ⟨rfl, rfl⟩)
      · constructor
        · rintro ⟨k', hk', hcol', hcan', rfl⟩
          rw [attempt_unique hcol' hcan' hcol hcan]
        · rintro rfl
          exact ⟨k, hk, hcol, hcan, rfl⟩
      · show Manifest.mk (s'.store.manifest.entries ++ _) = _
        rw [hman]

theorem outcome_deleteEntry (s : Storage) (name : String) (io : DeleteIo) :
    (deleteEntry name io).Outcome s := by
  cases hf : s.store.entryForName name with
  | none =>
    have hrun : (deleteEntry name io).run s = (.error .noSuchEntryError, s) := by
      simp only [run, Storage.deleteEntry, hf]
    refine .rejected (fun es he => ?_) (by rw [hrun]) (by rw [hrun]; exact .refl s)
    obtain ⟨i, e, hfind, -⟩ := he
    rw [hf] at hfind
    cases hfind
  | some p =>
    obtain ⟨i, e⟩ := p
    have hnone := removeFiles_eq_none e s.store.path io.files FileKind.ALL s.device.disk
    have hkeep := removeFiles_manifest e s.store.path io.files FileKind.ALL s.device.disk
    cases hr : removeFiles e s.store.path io.files FileKind.ALL s.device.disk with
    | mk res d =>
      rw [hr] at hnone hkeep
      cases res with
      | some err =>
        have hrun : (deleteEntry name io).run s = (.error (.deleteFileError err), s.withDisk d) := by
          simp only [run, Storage.deleteEntry, hf, hr]
        refine .rejected (fun es he => ?_) (by rw [hrun]; rfl) (by rw [hrun]; exact ⟨rfl, hkeep⟩)
        obtain ⟨j, e', hfind, hall, -⟩ := he
        rw [hf] at hfind
        cases hfind
        cases hnone.2 hall
      | none =>
        let s₁ := (s.withDisk d).releaseEntry i io.finish
        have hrun : (deleteEntry name io).run s =
            (s₁.withEntries (s₁.store.manifest.entries.eraseIdx i)).writeManifest io.manifest := by
          simp only [run, Storage.deleteEntry, hf, hr, s₁]
        have hman : s₁.store.manifest = s.store.manifest := by
          rw [releaseEntry_store]; rfl
        refine .of_write (s.store.manifest.entries.eraseIdx i) hrun (fun es => ?_)
          (by rw [hman]; rfl) ?_
        · constructor
          · rintro ⟨j, e', hfind, -, rfl⟩
            rw [hf] at hfind
            cases hfind
            rfl
          · rintro rfl
            exact ⟨i, e, hf, hnone.1 rfl, rfl⟩
        · have hrel : SameFile (s.withDisk d) s₁ := sameFile_releaseEntry _ _ _
          have hremoved : SameFile s (s.withDisk d) := ⟨rfl, hkeep⟩
          exact hremoved.trans (hrel.trans ⟨rfl, rfl⟩)

theorem outcome_deleteAllEntries (s : Storage) (io : DeleteAllIo) :
    (deleteAllEntries io).Outcome s := by
  let s₀ := s.closeOpenEntry io.finish
  have hst : s₀.store = { s.store with currentEntry := none } := closeOpenEntry_store ..
  let p := removeEntries s₀.store.path s₀.store.manifest.entries io.files s₀.device.disk
  have hkept : p.1 = keptEntries s.store.manifest.entries io.files := by
    rw [removeEntries_fst, hst]
  have hrun : (deleteAllEntries io).run s =
      ((s₀.withDisk p.2).withEntries p.1).writeManifest io.manifest := rfl
  refine .of_write (keptEntries s.store.manifest.entries io.files) hrun
    (fun es => Iff.rfl) (by rw [hkept]; rfl) ?_
  have hclose : SameFile s s₀ := sameFile_closeOpenEntry s io.finish
  exact hclose.trans ⟨rfl, removeEntries_manifest ..⟩

/-- An operation that finds nothing to change fails or does nothing. -/
theorem Outcome.of_missing {s : Storage} {op : ManifestOp} {res : Except RecordingStoreError Unit}
    (hrun : op.run s = (res, s)) (hedits : ∀ es, ¬ op.Edits s es) : op.Outcome s :=
  .rejected hedits (by rw [hrun]) (by rw [hrun]; exact .refl s)

/-- What any of the operations comes to. -/
theorem outcome (s : Storage) (op : ManifestOp) : op.Outcome s := by
  cases op with
  | newEntry gpsMode io => exact outcome_newEntry s gpsMode io
  | deleteEntry name io => exact outcome_deleteEntry s name io
  | deleteAllEntries io => exact outcome_deleteAllEntries s io
  | updateCurrentEntryQmdlSize size now io =>
    cases hc : s.store.currentEntry with
    | none =>
      exact .of_missing (by simp only [run, Storage.updateCurrentEntryQmdlSize, hc]; rfl)
        (by simp [Edits, hc])
    | some i =>
      exact .of_modify (by simp only [run, Storage.updateCurrentEntryQmdlSize, hc]; rfl)
        (by simp [Edits, hc])
  | setCurrentStopReason reason io =>
    cases hc : s.store.currentEntry with
    | none =>
      exact .of_missing (by simp only [run, Storage.setCurrentStopReason, hc]; rfl)
        (by simp [Edits, hc])
    | some i =>
      exact .of_modify (by simp only [run, Storage.setCurrentStopReason, hc]; rfl)
        (by simp [Edits, hc])
  | setEntryAnnotations name displayName notes io =>
    cases hc : s.store.position name with
    | none =>
      exact .of_missing (by simp only [run, Storage.setEntryAnnotations, hc]; rfl)
        (by simp [Edits, hc])
    | some i =>
      exact .of_modify (by simp only [run, Storage.setEntryAnnotations, hc]; rfl)
        (by simp [Edits, hc])
  | markEntryAsUploaded name uploadTime io =>
    cases hc : s.store.position name with
    | none =>
      exact .of_missing (by simp only [run, Storage.markEntryAsUploaded, hc]; rfl)
        (by simp [Edits, hc])
    | some i =>
      exact .of_modify (by simp only [run, Storage.markEntryAsUploaded, hc]; rfl)
        (by simp [Edits, hc])

/-! ## When memory and disk agree after an error -/

/-- The operation comes to no edit, or its edit leaves every entry as it is. -/
def NothingToDo (s : Storage) : ManifestOp → Prop
  | newEntry gpsMode io => ¬ s.CanClaim gpsMode io
  | updateCurrentEntryQmdlSize size now _ =>
    ∀ i e, s.store.getCurrentEntry = some (i, e) →
      e.qmdlSizeBytes = size ∧ e.lastMessageTime = some now
  | setCurrentStopReason reason _ =>
    ∀ i e, s.store.getCurrentEntry = some (i, e) → e.stopReason = some reason
  | setEntryAnnotations name displayName notes _ =>
    ∀ i e, s.store.entryForName name = some (i, e) → e.displayName = displayName ∧ e.notes = notes
  | markEntryAsUploaded name uploadTime _ =>
    ∀ i e, s.store.entryForName name = some (i, e) → e.uploadTime = some uploadTime
  | deleteEntry name io =>
    ∀ i e, s.store.entryForName name = some (i, e) →
      ∃ kind ∈ FileKind.ALL, ¬ Removable (io.files kind)
  | deleteAllEntries io =>
    ∀ i < s.store.manifest.entries.length, ∃ kind ∈ FileKind.ALL, ¬ Removable (io.files i kind)

omit [Build] [Toml] [Sidecar] in
/-- Changing one element leaves a list as it is where the element stays. -/
theorem modify_eq_self_iff {α : Type} {l : List α} {i : Nat} {f : α → α} :
    l.modify i f = l ↔ ∀ a, l[i]? = some a → f a = a := by
  constructor
  · intro h a ha
    have hi := congrArg (·[i]?) h
    simpa [ha] using hi
  · intro h
    refine List.ext_getElem? fun j => ?_
    rw [List.getElem?_modify]
    cases hj : l[j]? with
    | none => rfl
    | some a =>
      by_cases hij : i = j
      · subst hij; simp [h a hj]
      · simp [hij]

omit [Build] [Toml] [Sidecar] in
/-- A change at a position, if there is one, leaves a list as it is where what stands there has `P`, the
property of what the change keeps. -/
theorem changes_nothing_iff {α : Type} {position : Option Nat} {l : List α} {f : α → α} {P : α → Prop}
    (hf : ∀ a, P a ↔ f a = a) :
    (∀ i, position = some i → ∀ a, l[i]? = some a → P a) ↔
      ∀ l', (∃ i, position = some i ∧ l' = l.modify i f) → l' = l := by
  constructor
  · rintro h _ ⟨i, hi, rfl⟩
    exact modify_eq_self_iff.2 fun a ha => (hf a).1 (h i hi a ha)
  · intro h i hi a ha
    exact (hf a).2 (modify_eq_self_iff.1 (h _ ⟨i, hi, rfl⟩) a ha)

omit [Build] [Toml] [Sidecar] in
theorem keptEntries_length_le (entries : List ManifestEntry)
    (faults : Nat → FileKind → Option IoError) :
    (keptEntries entries faults).length ≤ entries.length := by
  induction entries generalizing faults with
  | nil => exact Nat.le_refl _
  | cons e es ih =>
    have := ih fun k => faults (k + 1)
    rw [keptEntries]
    split <;> simp only [List.length_cons] <;> omega

omit [Build] [Toml] [Sidecar] in
/-- Every entry is kept where each has a file that cannot be removed. -/
theorem keptEntries_eq_self {entries : List ManifestEntry}
    {faults : Nat → FileKind → Option IoError} :
    keptEntries entries faults = entries ↔
      ∀ i < entries.length, ∃ kind ∈ FileKind.ALL, ¬ Removable (faults i kind) := by
  induction entries generalizing faults with
  | nil => simp [keptEntries]
  | cons e es ih =>
    rw [keptEntries]
    split
    · next hall =>
      constructor
      · intro heq
        have hlen := keptEntries_length_le es fun k => faults (k + 1)
        rw [heq, List.length_cons] at hlen
        omega
      · intro h
        obtain ⟨kind, hk, hno⟩ := h 0 (by simp)
        exact absurd (hall kind hk) hno
    · next hsome =>
      push Not at hsome
      rw [List.cons.injEq, ih]
      constructor
      · rintro ⟨-, h⟩ i hi
        cases i with
        | zero => exact hsome
        | succ i => exact h i (by simpa using hi)
      · intro h
        exact ⟨rfl, fun i hi => h (i + 1) (by simpa using hi)⟩

omit [Build] [Toml] [Sidecar] in
/-- What is found by name is what is found at its position. -/
theorem forall_entryForName {store : RecordingStore} {name : String}
    {P : Nat → ManifestEntry → Prop} :
    (∀ i e, store.entryForName name = some (i, e) → P i e) ↔
      ∀ i, store.position name = some i → ∀ e, store.manifest.entries[i]? = some e → P i e := by
  simp only [RecordingStore.entryForName, Option.bind_eq_some_iff, Option.map_eq_some_iff,
    Prod.mk.injEq]
  constructor
  · intro h i hi e he
    exact h i e ⟨i, hi, e, he, rfl, rfl⟩
  · rintro h _ _ ⟨i, hi, e, he, rfl, rfl⟩
    exact h i hi e he

omit [Build] [Toml] [Sidecar] in
theorem forall_getCurrentEntry {store : RecordingStore} {P : Nat → ManifestEntry → Prop} :
    (∀ i e, store.getCurrentEntry = some (i, e) → P i e) ↔
      ∀ i, store.currentEntry = some i → ∀ e, store.manifest.entries[i]? = some e → P i e := by
  simp only [RecordingStore.getCurrentEntry_eq_some]
  exact ⟨fun h i hi e he => h i e ⟨hi, he⟩, fun h i e he => h i he.1 e he.2⟩

omit [Toml] in
/-- There is nothing to do exactly where what would be written is what is there. -/
theorem nothingToDo_iff (s : Storage) (op : ManifestOp) :
    op.NothingToDo s ↔ ∀ entries, op.Edits s entries → entries = s.store.manifest.entries := by
  cases op with
  | newEntry gpsMode io =>
    constructor
    · rintro hno es ⟨k, hk, hcol, hcan, -⟩
      exact absurd ⟨k, hk, hcol, hcan⟩ hno
    · rintro h ⟨k, hk, hcol, hcan⟩
      have := h _ ⟨k, hk, hcol, hcan, rfl⟩
      simp at this
  | updateCurrentEntryQmdlSize size now io =>
    simp only [NothingToDo, Edits, forall_getCurrentEntry]
    refine changes_nothing_iff fun e => ⟨fun ⟨h₁, h₂⟩ => by rw [← h₁, ← h₂], fun h => ?_⟩
    rw [← h]
    exact ⟨rfl, rfl⟩
  | setCurrentStopReason reason io =>
    simp only [NothingToDo, Edits, forall_getCurrentEntry]
    exact changes_nothing_iff fun e => ⟨fun h => by rw [← h], fun h => by rw [← h]⟩
  | setEntryAnnotations name displayName notes io =>
    simp only [NothingToDo, Edits, forall_entryForName]
    refine changes_nothing_iff fun e => ⟨fun ⟨h₁, h₂⟩ => by rw [← h₁, ← h₂], fun h => ?_⟩
    rw [← h]
    exact ⟨rfl, rfl⟩
  | markEntryAsUploaded name uploadTime io =>
    simp only [NothingToDo, Edits, forall_entryForName]
    exact changes_nothing_iff fun e => ⟨fun h => by rw [← h], fun h => by rw [← h]⟩
  | deleteEntry name io =>
    constructor
    · rintro h _ ⟨i, e, hf, hall, rfl⟩
      obtain ⟨kind, hk, hno⟩ := h i e hf
      exact absurd (hall kind hk) hno
    · intro h i e hf
      by_contra hno
      push Not at hno
      have hlen := congrArg List.length (h _ ⟨i, e, hf, hno, rfl⟩)
      obtain ⟨-, hget, -⟩ := RecordingStore.entryForName_eq_some hf
      obtain ⟨hi, -⟩ := List.getElem?_eq_some_iff.1 hget
      rw [List.length_eraseIdx_of_lt hi] at hlen
      omega
  | deleteAllEntries io =>
    simp only [NothingToDo, Edits, forall_eq, keptEntries_eq_self]

/-- From a state in which memory and disk agree, an operation is settled where the entries it is
about to write are the ones that are there. -/
theorem settled_iff_of_agree {s : Storage} {op : ManifestOp} (h : s.Agree) :
    op.Settled s ↔ ∀ entries, op.Edits s entries → entries = s.store.manifest.entries := by
  unfold Settled
  have hdisk : ∀ es, s.onDisk = .ok ⟨es⟩ ↔ es = s.store.manifest.entries := by
    intro es
    rw [h, Except.ok.injEq]
    exact ⟨fun heq => by rw [heq], fun heq => by rw [heq]⟩
  simp only [hdisk]
  exact ⟨fun ha => ha.1, fun ha => ⟨ha, fun _ => h⟩⟩

/-- After an error memory and disk agree where the operation was settled. -/
theorem agree_run_iff {s : Storage} {op : ManifestOp} (h : op.Fails s) :
    (op.run s).2.Agree ↔ op.Settled s := by
  unfold Settled Agree
  cases op.outcome s with
  | rejected hedits hman hfile =>
    rw [hfile.onDisk, hman]
    exact ⟨fun ha => ⟨fun es he => absurd he (hedits es), fun _ => ha⟩, fun ha => ha.2 hedits⟩
  | written entries hedits hman hfile =>
    rw [hfile h, hman]
    constructor
    · intro ha
      exact ⟨fun es he => by rw [(hedits es).1 he, ha],
        fun hno => absurd ((hedits entries).2 rfl) (hno entries)⟩
    · intro ha
      exact ha.1 entries ((hedits entries).2 rfl)

/-- **After an error memory and disk agree exactly where the operation was settled**: where
`manifest.toml` read beforehand as the operation leaves the entries. Where they agreed beforehand,
that is where there was nothing to do. -/
theorem agree_after_error_iff {s : Storage} {op : ManifestOp} (h : op.Fails s) :
    ((op.run s).2.Agree ↔ op.Settled s) ∧ (s.Agree → (op.Settled s ↔ op.NothingToDo s)) := by
  refine ⟨agree_run_iff h, fun ha => ?_⟩
  rw [settled_iff_of_agree ha, nothingToDo_iff]

/-! ## A device whose manifest cannot be written -/

/-- A new entry whose files are created and whose manifest is not. -/
def entryUnwritten : ManifestOp :=
  .newEntry .disabled { entryAt anInstant with manifest := { create := some noSpaceLeft } }

omit [Build] [Toml] [Sidecar] in
theorem agree_after_error_iff_unwritten :
    let _ := deviceBuild
    let _ := tomlAt "2024-08-19T03:33:54+00:00"
    let _ := sidecarJson
    let _ := jsonText
    entryUnwritten.Fails createdStorage ∧
      (((entryUnwritten.run createdStorage).2.Agree ↔ entryUnwritten.Settled createdStorage) ∧
        (createdStorage.Agree →
          (entryUnwritten.Settled createdStorage ↔ entryUnwritten.NothingToDo createdStorage))) := by
  let _ := deviceBuild
  let _ := tomlAt "2024-08-19T03:33:54+00:00"
  let _ := sidecarJson
  let _ := jsonText
  have hfails : entryUnwritten.Fails createdStorage :=
    ⟨.writeManifestError noSpaceLeft, by decide +kernel⟩
  exact ⟨hfails, agree_after_error_iff hfails⟩

omit [Build] [Toml] [Sidecar] in
/-- A new entry that could not be written to the manifest is in memory and not on disk. -/
theorem entry_in_memory_only :
    let _ := deviceBuild
    let _ := tomlAt "2024-08-19T03:33:54+00:00"
    let _ := sidecarJson
    let _ := jsonText
    ¬ ∀ (s : Storage) (op : ManifestOp), s.Agree → op.Fails s → (op.run s).2.Agree := by
  let _ := deviceBuild
  let _ := tomlAt "2024-08-19T03:33:54+00:00"
  let _ := sidecarJson
  let _ := jsonText
  intro _ _ _ _ h
  have hfails : entryUnwritten.Fails createdStorage :=
    ⟨.writeManifestError noSpaceLeft, by decide +kernel⟩
  have hagree := h createdStorage entryUnwritten (by unfold Storage.Agree; decide +kernel) hfails
  exact absurd hagree (by unfold Storage.Agree; decide +kernel)

end ManifestOp

end Rayhunter
