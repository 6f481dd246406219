import Rayhunter.Store.Spec

/-!
# Whose file is whose

The files of two recordings can only be the same file where the recordings share a name, or where
one's report is the other's list of positions; a recording and a sidecar belong to nothing else. So
deleting a recording removes the captures and the sidecars of its own name and at worst takes a
report with it.
-/

namespace Rayhunter

open Storage

/-! ## Names of files -/

/-- The last five characters of a file name, in reverse. -/
def tailOf (name : String) : List Char := name.toList.reverse.take 5

/-- They are those of the suffix of the file's kind. -/
theorem tailOf_getFilename (kind : FileKind) (n : String) (c : Bool) :
    tailOf (kind.getFilename n c) = tailOf (kind.suffix c) := by
  have hlen : 5 ≤ (kind.suffix c).toList.reverse.length := by
    cases kind <;> cases c <;> decide
  rw [FileKind.getFilename, tailOf, tailOf, String.toList_append, List.reverse_append,
    List.take_append_of_le_length hlen]

theorem tailOf_getFilepath (e : ManifestEntry) (kind : FileKind) (path : PathBuf) :
    tailOf (e.getFilepath kind path).name = tailOf (kind.suffix e.compressed) :=
  tailOf_getFilename ..

namespace ManifestEntry

variable {e e' : ManifestEntry} {kind : FileKind} {path : PathBuf}

/-- A capture is no file of another kind. -/
theorem qmdl_ne {path' : PathBuf} (h : kind ≠ .qmdl) :
    e.getFilepath .qmdl path ≠ e'.getFilepath kind path' := by
  intro heq
  have ht := congrArg (fun p => tailOf p.name) heq
  simp only [tailOf_getFilepath] at ht
  revert ht
  cases e.compressed <;> cases e'.compressed <;> cases kind <;>
    first | exact absurd rfl h | decide

/-- A sidecar is no file of another kind. -/
theorem metadata_ne (h : kind ≠ .metadata) :
    e.getFilepath .metadata path ≠ e'.getFilepath kind path := by
  intro heq
  have ht := congrArg (fun p => tailOf p.name) heq
  simp only [tailOf_getFilepath] at ht
  revert ht
  cases e.compressed <;> cases e'.compressed <;> cases kind <;>
    first | exact absurd rfl h | decide

/-- A capture tells its recording. -/
theorem key_of_qmdl (h : e.getFilepath .qmdl path = e'.getFilepath .qmdl path) :
    e.key = e'.key := by
  have ht := congrArg (fun p => tailOf p.name) h
  simp only [tailOf_getFilepath] at ht
  have hc : e.compressed = e'.compressed := by
    revert ht
    cases e.compressed <;> cases e'.compressed <;> decide
  rw [getFilepath, getFilepath, hc] at h
  rw [key, key, FileKind.getFilepath_inj.1 h, hc]

/-- A sidecar tells the name of its recording, and so does a report. -/
theorem name_of_metadata (h : e.getFilepath .metadata path = e'.getFilepath .metadata path) :
    e.name = e'.name := (FileKind.getFilepath_inj (c := true)).1 (show FileKind.metadata.getFilepath _ _ _ = _ from h)

theorem name_of_analysis (h : e.getFilepath .analysis path = e'.getFilepath .analysis path) :
    e.name = e'.name := (FileKind.getFilepath_inj (c := true)).1 (show FileKind.analysis.getFilepath _ _ _ = _ from h)

/-- Recordings of one name have one report and one sidecar. -/
theorem analysis_of_name (h : e.name = e'.name) :
    e.getFilepath .analysis path = e'.getFilepath .analysis path := by
  rw [getFilepath, getFilepath, h]; rfl

theorem metadata_of_name (h : e.name = e'.name) :
    e.getFilepath .metadata path = e'.getFilepath .metadata path := by
  rw [getFilepath, getFilepath, h]; rfl

/-- The manifest is no file of a recording. -/
theorem ne_manifestPath : e.getFilepath kind path ≠ manifestPath path := by
  intro heq
  have ht := congrArg (fun p => tailOf p.name) heq
  simp only [tailOf_getFilepath, manifestPath] at ht
  revert ht
  cases kind <;> cases e.compressed <;> decide

theorem ne_manifestTmpPath : e.getFilepath kind path ≠ manifestTmpPath path := by
  intro heq
  have ht := congrArg (fun p => tailOf p.name) heq
  simp only [tailOf_getFilepath, manifestTmpPath] at ht
  revert ht
  cases kind <;> cases e.compressed <;> decide

end ManifestEntry

/-! ## Claiming the files of a new entry -/

section
variable [Build] [Toml] [Sidecar]

omit [Build] [Toml] [Sidecar] in
/-- Where none of the companion files is there they can be created. -/
theorem Storage.claimCompanions_of_absent {d : Disk} {e : ManifestEntry} {path : PathBuf} {io : EntryIo}
    (ha : io.analysis = none) (hg : io.gps = none) (hna : ¬ d.Exists (e.getFilepath .analysis path))
    (hng : ¬ d.Exists (e.getFilepath .gps path)) :
    ∃ d', claimCompanions d e path io = (.ok (), d') := by
  have hne : e.getFilepath .gps path ≠ e.getFilepath .analysis path := by
    intro heq
    have hname : e.name ++ "-gps.ndjson" = e.name ++ ".ndjson" := congrArg FilePath.name heq
    exact absurd ((String.append_right_inj _).1 hname) (by decide)
  have hng' : ¬ (d.set (e.getFilepath .analysis path) (some (.text ""))).Exists
      (e.getFilepath .gps path) := by
    rwa [Disk.Exists, Disk.set_files_of_ne _ _ hne]
  rw [claimCompanions, Disk.createNew_eq_ok.2 ⟨ha, hna, rfl⟩]
  simp only
  rw [Disk.createNew_eq_ok.2 ⟨hg, hng', rfl⟩]
  exact ⟨_, rfl⟩

/-- The attempts of `new_entry` in `s` come to one whose three files can be created, and every one
before it met a recording of its name. -/
def Storage.CanClaim (s : Storage) (gpsMode : GpsMode) (io : NewEntryIo) : Prop :=
  ∃ k < MAX_ATTEMPTS, (∀ j < k, (s.closeOpenEntry io.finish).Collides gpsMode io.attempts j) ∧
    (s.closeOpenEntry io.finish).Claimable gpsMode io.attempts k

omit [Toml] [Sidecar] in
/-- The loop comes to the first attempt that meets no recording of its name. -/
theorem Storage.claimFiles_of_claimable {gpsMode : GpsMode} {n : Nat} {attempts : Nat → EntryIo}
    {last : Option IoError} {s : Storage} {k : Nat} (hk : k < n)
    (hcol : ∀ j < k, s.Collides gpsMode attempts j) (hcan : s.Claimable gpsMode attempts k) :
    ∃ entry, (claimFiles gpsMode n attempts last s).1 = .ok entry := by
  induction n generalizing attempts last s k with
  | zero => omega
  | succ n ih =>
    rw [claimFiles, candidate_eq_attemptEntry]
    cases k with
    | zero =>
      obtain ⟨hq, ha, hg, habs⟩ := hcan
      have hqmdl := habs .qmdl (by simp)
      have hkeep : ∀ kind, kind ≠ .qmdl →
          ¬ s.device.disk.Exists ((s.attemptEntry gpsMode attempts 0).getFilepath kind s.store.path) →
          ¬ (s.device.disk.set ((s.attemptEntry gpsMode attempts 0).getFilepath .qmdl s.store.path)
            (some (.text ""))).Exists
              ((s.attemptEntry gpsMode attempts 0).getFilepath kind s.store.path) := by
        intro kind hne h
        rwa [Disk.Exists, Disk.set_files_of_ne _ _ (ManifestEntry.qmdl_ne hne).symm]
      obtain ⟨d', hd'⟩ := claimCompanions_of_absent ha hg
        (hkeep .analysis (by decide) (habs .analysis (by simp)))
        (hkeep .gps (by decide) (habs .gps (by simp)))
      simp only [nextSequence_store, nextSequence_disk]
      rw [Disk.createNew_eq_ok.2 ⟨hq, hqmdl, rfl⟩]
      simp only
      rw [hd']
      exact ⟨_, rfl⟩
    | succ k =>
      have hfirst := hcol 0 (by omega)
      obtain ⟨e, he, hkind⟩ : ∃ e, s.device.disk.createNew
          ((s.attemptEntry gpsMode attempts 0).getFilepath .qmdl s.store.path) (attempts 0).qmdl =
            .error e ∧ e.kind = .alreadyExists := by
        unfold Collides at hfirst
        cases hq : (attempts 0).qmdl with
        | some e =>
          rw [hq] at hfirst
          exact ⟨e, rfl, hfirst⟩
        | none =>
          rw [hq] at hfirst
          exact ⟨_, if_pos hfirst, rfl⟩
      simp only [nextSequence_store, nextSequence_disk]
      rw [he]
      simp only [hkind, if_true]
      refine ih (by omega) (fun j hj => ?_) (claimable_nextSequence.2 hcan)
      exact collides_nextSequence.2 (hcol (j + 1) (by omega))

omit [Toml] in
/-- `new_entry` can claim the files of an entry exactly there. -/
theorem Storage.claims_isOk (s : Storage) (gpsMode : GpsMode) (io : NewEntryIo) :
    (∃ entry, (s.claims gpsMode io).1 = .ok entry) ↔ s.CanClaim gpsMode io := by
  constructor
  · rintro ⟨entry, h⟩
    have hc : s.claims gpsMode io = (.ok entry, (s.claims gpsMode io).2) := by rw [← h]
    obtain ⟨k, hk, hcol, hcan, -⟩ := claimFiles_ok hc
    exact ⟨k, hk, hcol, hcan⟩
  · rintro ⟨k, hk, hcol, hcan⟩
    exact claimFiles_of_claimable hk hcol hcan

end

/-! ## What a deletion removes -/

/-- The disk `d'` is `d` without some of the files of a recording. The sidecar goes after the
report. -/
structure Removed (e : ManifestEntry) (path : PathBuf) (d d' : Disk) : Prop where
  others : ∀ p, (∀ kind, p ≠ e.getFilepath kind path) → d'.files p = d.files p
  sameOrGone : ∀ p, d'.files p = d.files p ∨ d'.files p = none
  reportFirst : d'.files (e.getFilepath .metadata path) = d.files (e.getFilepath .metadata path) ∨
    d'.files (e.getFilepath .analysis path) = none

/-- Removing files of a recording removes nothing else. -/
theorem removeFiles_others {e : ManifestEntry} {path : PathBuf} {p : FilePath}
    (h : ∀ kind, p ≠ e.getFilepath kind path) (faults : FileKind → Option IoError)
    (kinds : List FileKind) (d : Disk) :
    (removeFiles e path faults kinds d).2.files p = d.files p := by
  induction kinds generalizing d with
  | nil => rfl
  | cons kind kinds ih =>
    rw [removeFiles]
    split
    · rfl
    · next d₁ h₁ =>
      rw [ih, Disk.removeFileIfExists_ok h₁, Disk.set_files_of_ne _ _ (h kind)]

/-- A file is left as it is, or is gone. -/
theorem removeFiles_sameOrGone (e : ManifestEntry) (path : PathBuf)
    (faults : FileKind → Option IoError) (kinds : List FileKind) (d : Disk) (p : FilePath) :
    (removeFiles e path faults kinds d).2.files p = d.files p ∨
      (removeFiles e path faults kinds d).2.files p = none := by
  induction kinds generalizing d with
  | nil => exact .inl rfl
  | cons kind kinds ih =>
    rw [removeFiles]
    split
    · exact .inl rfl
    · next d₁ h₁ =>
      rw [Disk.removeFileIfExists_ok h₁]
      by_cases hp : p = e.getFilepath kind path
      · subst hp
        rcases ih (d.set (e.getFilepath kind path) none) with h | h
        · exact .inr (by rw [h, Disk.set_files_self])
        · exact .inr h
      · rcases ih (d.set (e.getFilepath kind path) none) with h | h
        · exact .inl (by rw [h, Disk.set_files_of_ne _ _ hp])
        · exact .inr h

/-- Either nothing is removed, or the first file is. -/
theorem removeFiles_cons (e : ManifestEntry) (path : PathBuf) (faults : FileKind → Option IoError)
    (kind : FileKind) (kinds : List FileKind) (d : Disk) :
    (∃ err, removeFiles e path faults (kind :: kinds) d = (some err, d)) ∨
    (removeFiles e path faults (kind :: kinds) d =
        removeFiles e path faults kinds (d.set (e.getFilepath kind path) none) ∧
      (removeFiles e path faults (kind :: kinds) d).2.files (e.getFilepath kind path) = none) := by
  rw [removeFiles]
  split
  · exact .inl ⟨_, rfl⟩
  · next d₁ h₁ =>
    rw [Disk.removeFileIfExists_ok h₁]
    refine .inr ⟨rfl, ?_⟩
    rcases removeFiles_sameOrGone e path faults kinds (d.set (e.getFilepath kind path) none)
      (e.getFilepath kind path) with h | h
    · rw [h, Disk.set_files_self]
    · exact h

/-- Where every removal goes through, all of the files are gone. -/
theorem removeFiles_gone {e : ManifestEntry} {path : PathBuf} {faults : FileKind → Option IoError}
    {kinds : List FileKind} {d : Disk} (h : (removeFiles e path faults kinds d).1 = none) :
    ∀ kind ∈ kinds, (removeFiles e path faults kinds d).2.files (e.getFilepath kind path) = none
    := by
  induction kinds generalizing d with
  | nil => simp
  | cons kind kinds ih =>
    rcases removeFiles_cons e path faults kind kinds d with ⟨err, heq⟩ | ⟨heq, hgone⟩
    · rw [heq] at h; cases h
    · rintro k hk
      rcases List.mem_cons.1 hk with rfl | hk
      · exact hgone
      · rw [heq] at h ⊢
        exact ih h k hk

theorem removeFiles_removed (e : ManifestEntry) (path : PathBuf)
    (faults : FileKind → Option IoError) (d : Disk) :
    Removed e path d (removeFiles e path faults FileKind.ALL d).2 := by
  refine ⟨fun p hp => removeFiles_others hp _ _ _, removeFiles_sameOrGone _ _ _ _ _, ?_⟩
  rw [FileKind.ALL]
  rcases removeFiles_cons e path faults .qmdl [.analysis, .gps, .metadata] d with
    ⟨err, heq⟩ | ⟨heq, -⟩
  · exact .inl (by rw [heq])
  · rw [heq]
    rcases removeFiles_cons e path faults .analysis [.gps, .metadata]
      (d.set (e.getFilepath .qmdl path) none) with ⟨err, heq'⟩ | ⟨-, hgone⟩
    · rw [heq']
      exact .inl (Disk.set_files_of_ne _ _ (ManifestEntry.metadata_ne (by decide)))
    · exact .inr hgone

section
variable [Toml] [Sidecar]

omit [Toml] in
/-- A recording without a sidecar is left alone when it is finished. -/
theorem finishSidecar_of_none {d : Disk} {p : FilePath} (h : d.files p = none) (io : SidecarIo) :
    finishSidecar d p io = d := by
  unfold finishSidecar
  simp only [h, Option.bind_none]
  split <;> simp_all

/-- The files a recording's deletion leaves, where they are files of recordings. Either the
recording is still there, or every file of it is gone. -/
theorem deleteEntry_files {s : Storage} {name : String} {i : Nat} {e : ManifestEntry}
    (h : s.store.entryForName name = some (i, e)) (io : DeleteIo) :
    ∃ d, Removed e s.store.path s.device.disk d ∧
      (∀ (e' : ManifestEntry) (kind : FileKind),
        (s.deleteEntry name io).2.files (e'.getFilepath kind s.store.path) =
          d.files (e'.getFilepath kind s.store.path)) ∧
      ((s.deleteEntry name io).2.store = s.store ∨
        (s.deleteEntry name io).2.store =
          { s.store with
            manifest := ⟨s.store.manifest.entries.eraseIdx i⟩
            currentEntry := currentAfterErase s.store.currentEntry i } ∧
        ∀ kind, d.files (e.getFilepath kind s.store.path) = none) := by
  refine ⟨_, removeFiles_removed e s.store.path io.files s.device.disk, ?_⟩
  unfold deleteEntry
  simp only [h]
  have hgone := @removeFiles_gone e s.store.path io.files FileKind.ALL s.device.disk
  generalize removeFiles e s.store.path io.files FileKind.ALL s.device.disk = p at hgone ⊢
  obtain ⟨res, d⟩ := p
  cases res with
  | some err => exact ⟨fun _ _ => rfl, .inl rfl⟩
  | none =>
    have hall : ∀ kind, d.files (e.getFilepath kind s.store.path) = none := by
      intro kind
      exact hgone rfl kind (by cases kind <;> decide)
    have hrel : ((s.withDisk d).releaseEntry i io.finish).device.disk = d := by
      obtain ⟨-, he, -⟩ := RecordingStore.entryForName_eq_some h
      unfold releaseEntry
      cases hc : (s.withDisk d).store.currentEntry with
      | none => rfl
      | some j =>
        simp only
        split
        · next hj =>
          subst hj
          have hc' : s.store.currentEntry = some j := hc
          unfold closeCurrentEntry
          simp only [withDisk_store, hc', he, withDisk_disk]
          exact finishSidecar_of_none (hall .metadata) _
        · split <;> rfl
    refine ⟨fun e' kind => ?_, .inr ⟨?_, hall⟩⟩
    · have hpath : ((s.withDisk d).releaseEntry i io.finish).store.path = s.store.path := by
        rw [releaseEntry_store]; rfl
      simp only [writeManifest, Storage.files, withDisk_disk]
      rw [manifestDisk_files, withEntries_device, hrel]
      · rw [withEntries_path, hpath]; exact ManifestEntry.ne_manifestPath
      · rw [withEntries_path, hpath]; exact ManifestEntry.ne_manifestTmpPath
    · simp [releaseEntry_store, withEntries]

/-- The store `s'` is `s` without the recording `e`, or with it still there for a part. -/
structure Deleted (e : ManifestEntry) (s s' : Storage) : Prop where
  path : s'.store.path = s.store.path
  first : ∀ name, name ≠ e.name → s'.store.first name = s.store.first name
  again : ∀ e', s'.store.first e.name = some e' →
    e' = e ∨ s'.files (e'.getFilepath .analysis s.store.path) = none
  listed : ∀ e' ∈ s.store.manifest.entries, e'.key ≠ e.key → e' ∈ s'.store.manifest.entries
  qmdl : ∀ e' : ManifestEntry, e'.key ≠ e.key →
    s'.files (e'.getFilepath .qmdl s.store.path) = s.files (e'.getFilepath .qmdl s.store.path)
  sidecar : ∀ e' : ManifestEntry, e'.name ≠ e.name →
    s'.files (e'.getFilepath .metadata s.store.path) =
      s.files (e'.getFilepath .metadata s.store.path)
  reportFirst : ∀ e' : ManifestEntry, s'.files (e'.getFilepath .metadata s.store.path) =
      s.files (e'.getFilepath .metadata s.store.path) ∨
    s'.files (e'.getFilepath .analysis s.store.path) = none
  sameOrGone : ∀ (e' : ManifestEntry) (kind : FileKind),
    s'.files (e'.getFilepath kind s.store.path) = s.files (e'.getFilepath kind s.store.path) ∨
      s'.files (e'.getFilepath kind s.store.path) = none

/-- Deleting a recording leaves every other capture, and the sidecars of other names. -/
theorem deleteEntry_deleted {s : Storage} {name : String} {i : Nat} {e : ManifestEntry}
    (h : s.store.entryForName name = some (i, e)) (io : DeleteIo) :
    Deleted e s (s.deleteEntry name io).2 := by
  obtain ⟨d, hrem, hfiles, hstore⟩ := deleteEntry_files h io
  obtain ⟨-, hget, rfl⟩ := RecordingStore.entryForName_eq_some h
  have hfirst := RecordingStore.first_eq_some.2 ⟨i, h⟩
  generalize (s.deleteEntry e.name io).2 = s' at hfiles hstore ⊢
  have hmeta : ∀ e' : ManifestEntry, e'.name ≠ e.name →
      s'.files (e'.getFilepath .metadata s.store.path) =
        s.files (e'.getFilepath .metadata s.store.path) := by
    intro e' hne
    rw [hfiles]
    refine hrem.others _ fun kind => ?_
    by_cases hk : kind = .metadata
    · subst hk
      exact fun heq => hne (ManifestEntry.name_of_metadata heq)
    · exact ManifestEntry.metadata_ne hk
  refine ⟨?_, fun m hm => ?_, fun e' he' => ?_, fun e' he' hk => ?_, fun e' hk => ?_, hmeta,
    fun e' => ?_, fun e' kind => ?_⟩
  · rcases hstore with hst | ⟨hst, -⟩ <;> rw [hst]
  · rcases hstore with hst | ⟨hst, -⟩ <;> rw [hst]
    exact find?_eraseIdx hget (by simpa using fun heq => hm heq.symm)
  · rcases hstore with hst | ⟨hst, hgone⟩
    · left
      rw [hst, hfirst] at he'
      exact (Option.some.inj he').symm
    · right
      rw [hfiles, ManifestEntry.analysis_of_name (RecordingStore.name_of_first he')]
      exact hgone .analysis
  · rcases hstore with hst | ⟨hst, -⟩ <;> rw [hst]
    · exact he'
    · obtain ⟨k, hk'⟩ := List.mem_iff_getElem?.1 he'
      refine List.mem_eraseIdx_iff_getElem?.2 ⟨k, ?_, hk'⟩
      rintro rfl
      rw [hget] at hk'
      cases hk'
      exact hk rfl
  · rw [hfiles]
    refine hrem.others _ fun kind => ?_
    by_cases hq : kind = .qmdl
    · subst hq
      exact fun heq => hk (ManifestEntry.key_of_qmdl heq)
    · exact ManifestEntry.qmdl_ne hq
  · by_cases hname : e'.name = e.name
    · rw [hfiles, hfiles, ManifestEntry.metadata_of_name hname,
        ManifestEntry.analysis_of_name hname]
      exact hrem.reportFirst
    · exact .inl (hmeta e' hname)
  · rw [hfiles]
    exact hrem.sameOrGone _

end

end Rayhunter
