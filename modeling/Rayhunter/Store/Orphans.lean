import Rayhunter.Store.Agree

/-!
# The files a new entry leaves

`new_entry` creates three files for a recording, one after another, and lists it last. The first
file claims a name and is created where there is none; when a later step fails, what was created
stays. A failed `new_entry` so leaves files that no manifest lists, unless the attempt that claims a
name also creates the two other files: `newEntry_tidy_iff`.
-/

namespace Rayhunter

open Storage

/-! ## Files of recordings -/

/-- A path that is a file of some recording in the directory. -/
def RecordingFile (path : PathBuf) (p : FilePath) : Prop :=
  ∃ (e : ManifestEntry) (kind : FileKind), p = e.getFilepath kind path

/-- The files of a recording that `new_entry` creates. -/
def FileKind.created : List FileKind := [.qmdl, .analysis, .gps]

/-- From `d` to `d'` no file of a recording is left that the manifest does not list, and no entry
is left without its files, but for those that were so before. -/
structure Tidy (path : PathBuf) (d d' : Disk) (entries entries' : List ManifestEntry) : Prop where
  files : ∀ p, RecordingFile path p → ¬ d.Exists p → d'.Exists p →
    ∃ e ∈ entries', ∃ kind, p = e.getFilepath kind path
  entries : ∀ e ∈ entries', ∀ kind ∈ FileKind.created, d'.Exists (e.getFilepath kind path) ∨
    e ∈ entries ∧ ¬ d.Exists (e.getFilepath kind path)

theorem RecordingFile.ne_sidecarTmp {path : PathBuf} {p : FilePath} (h : RecordingFile path p)
    (e' : ManifestEntry) : p ≠ sidecarTmp (e'.getFilepath .metadata path) := by
  rintro heq
  obtain ⟨e, kind, rfl⟩ := h
  have ht := congrArg (fun p => p.name.toList.getLast?) heq
  revert ht
  cases kind <;> cases hc : e.compressed <;>
    simp [ManifestEntry.getFilepath, FileKind.getFilepath, FileKind.getFilename, FileKind.suffix,
      sidecarTmp, hc]

theorem RecordingFile.ne_manifest {path : PathBuf} {p : FilePath} (h : RecordingFile path p) :
    p ≠ manifestPath path ∧ p ≠ manifestTmpPath path := by
  obtain ⟨e, kind, rfl⟩ := h
  exact ⟨ManifestEntry.ne_manifestPath, ManifestEntry.ne_manifestTmpPath⟩

/-- Where no file of a recording comes or goes everything stays tidy. -/
theorem tidy_of_exists {path : PathBuf} {d d' : Disk} {entries : List ManifestEntry}
    (h : ∀ p, RecordingFile path p → (d'.Exists p ↔ d.Exists p)) :
    Tidy path d d' entries entries := by
  refine ⟨fun p hp habsent hex => absurd ((h p hp).1 hex) habsent, fun e he kind _ => ?_⟩
  by_cases hex : d.Exists (e.getFilepath kind path)
  · exact .inl ((h _ ⟨e, kind, rfl⟩).2 hex)
  · exact .inr ⟨he, hex⟩

/-- Where the files of one recording come, its capture among them, everything stays tidy exactly
when the manifest lists a recording of that name. -/
theorem tidy_iff_listed {path : PathBuf} {d d' : Disk} {e : ManifestEntry}
    {entries : List ManifestEntry}
    (hnew : ∀ p, RecordingFile path p → ¬ d.Exists p → d'.Exists p →
      ∃ kind ∈ FileKind.created, p = e.getFilepath kind path)
    (hkept : ∀ p, RecordingFile path p → d.Exists p → d'.Exists p)
    (habsent : ¬ d.Exists (e.getFilepath .qmdl path)) (hex : d'.Exists (e.getFilepath .qmdl path)) :
    Tidy path d d' entries entries ↔ e.key ∈ entries.map (·.key) := by
  constructor
  · rintro ⟨hfiles, -⟩
    obtain ⟨e', he', kind, hpath⟩ := hfiles _ ⟨e, .qmdl, rfl⟩ habsent hex
    have hkind : kind = .qmdl := by
      by_contra hne
      exact ManifestEntry.qmdl_ne hne hpath
    subst hkind
    exact List.mem_map.2 ⟨e', he', (ManifestEntry.key_of_qmdl hpath).symm⟩
  · intro hkey
    obtain ⟨e', he', hkey⟩ := List.mem_map.1 hkey
    constructor
    · intro p hp habsent hex
      obtain ⟨kind, -, rfl⟩ := hnew p hp habsent hex
      exact ⟨e', he', kind, (ManifestEntry.getFilepath_congr hkey kind path).symm⟩
    · intro e'' he'' kind _
      by_cases hex : d.Exists (e''.getFilepath kind path)
      · exact .inl (hkept _ ⟨e'', kind, rfl⟩ hex)
      · exact .inr ⟨he'', hex⟩

/-! ## Closing what is open -/

section
variable [Sidecar]

/-- The details of the recording that is open, and the file they are written through. -/
def Storage.IsOpenSidecar (s : Storage) (p : FilePath) : Prop :=
  ∃ i e, s.store.currentEntry = some i ∧ s.store.manifest.entries[i]? = some e ∧
    (p = e.getFilepath .metadata s.store.path ∨
      p = sidecarTmp (e.getFilepath .metadata s.store.path))

theorem closeOpenEntry_files {s : Storage} {p : FilePath} (h : ¬ s.IsOpenSidecar p)
    (io : SidecarIo) : (s.closeOpenEntry io).device.disk.files p = s.device.disk.files p := by
  unfold closeOpenEntry
  cases hc : s.store.currentEntry with
  | none => rfl
  | some i =>
    simp only [closeCurrentEntry, hc]
    cases he : s.store.manifest.entries[i]? with
    | none => rfl
    | some e =>
      refine finishSidecar_files _ _ _ ?_ ?_
      · exact fun heq => h ⟨i, e, hc, he, .inl heq⟩
      · exact fun heq => h ⟨i, e, hc, he, .inr heq⟩

omit [Sidecar] in
/-- Details are written over details. -/
theorem writeSidecar_exists {d : Disk} {p : FilePath} (hp : d.Exists p) (io : SidecarIo) :
    (writeSidecar d p io).Exists p := by
  have hne : p ≠ sidecarTmp p := by
    intro heq
    have hlen := congrArg (fun p => p.name.toList.length) heq
    simp [sidecarTmp] at hlen
  unfold writeSidecar
  split
  · exact hp.set
  · split
    · exact hp.set
    · rw [Disk.Exists, Disk.set_files_of_ne _ _ hne, Disk.set_files_self]
      rfl

/-- Closing makes no file of a recording and removes none. -/
theorem closeOpenEntry_exists (s : Storage) (io : SidecarIo) {p : FilePath}
    (h : RecordingFile s.store.path p) :
    (s.closeOpenEntry io).device.disk.Exists p ↔ s.device.disk.Exists p := by
  unfold closeOpenEntry
  cases hc : s.store.currentEntry with
  | none => rfl
  | some i =>
    simp only [closeCurrentEntry, hc]
    cases he : s.store.manifest.entries[i]? with
    | none => rfl
    | some e =>
      show (finishSidecar s.device.disk (e.getFilepath .metadata s.store.path) io).Exists p ↔ _
      by_cases hp : p = e.getFilepath .metadata s.store.path
      · subst hp
        unfold finishSidecar
        split
        · next hread =>
          obtain ⟨c, hfile, -⟩ := Option.bind_eq_some_iff.1 hread
          have hex : s.device.disk.Exists (e.getFilepath .metadata s.store.path) := by
            rw [Disk.Exists, hfile]
            rfl
          exact ⟨fun _ => hex, fun _ => writeSidecar_exists hex io⟩
        · rfl
      · rw [Disk.Exists, finishSidecar_files _ _ _ hp (h.ne_sidecarTmp e), Disk.Exists]

end

/-! ## Claiming a name -/

/-- From `d` to `d'` some of a recording's files are created, and nothing else changes. -/
structure Adds (e : ManifestEntry) (path : PathBuf) (d d' : Disk) : Prop where
  kept : ∀ p, d.Exists p → d'.files p = d.files p
  new : ∀ p, ¬ d.Exists p → d'.Exists p → ∃ kind ∈ FileKind.created, p = e.getFilepath kind path

theorem Adds.refl (e : ManifestEntry) (path : PathBuf) (d : Disk) : Adds e path d d :=
  ⟨fun _ _ => rfl, fun _ h h' => absurd h' h⟩

theorem Adds.exists {e : ManifestEntry} {path : PathBuf} {d d' : Disk} (h : Adds e path d d')
    {p : FilePath} (hp : d.Exists p) : d'.Exists p := by
  rwa [Disk.Exists, h.kept p hp]

theorem Adds.trans {e : ManifestEntry} {path : PathBuf} {d d' d'' : Disk} (h : Adds e path d d')
    (h' : Adds e path d' d'') : Adds e path d d'' := by
  constructor
  · intro p hp
    rw [h'.kept p (h.exists hp), h.kept p hp]
  · intro p hp hp''
    by_cases hp' : d'.Exists p
    · exact h.new p hp hp'
    · exact h'.new p hp' hp''

theorem Adds.of_createNew {e : ManifestEntry} {path : PathBuf} {d d' : Disk} {kind : FileKind}
    (hkind : kind ∈ FileKind.created) {fault : Option IoError}
    (h : d.createNew (e.getFilepath kind path) fault = .ok d') : Adds e path d d' := by
  obtain ⟨-, habsent, rfl⟩ := Disk.createNew_eq_ok.1 h
  constructor
  · intro p hp
    have hne : p ≠ e.getFilepath kind path := by
      rintro rfl
      exact habsent hp
    exact Disk.set_files_of_ne _ _ hne
  · intro p hp hp'
    by_cases heq : p = e.getFilepath kind path
    · exact ⟨kind, hkind, heq⟩
    · rw [Disk.Exists, Disk.set_files_of_ne _ _ heq] at hp'
      exact absurd hp' hp

theorem adds_claimCompanions (d : Disk) (e : ManifestEntry) (path : PathBuf) (io : EntryIo) :
    Adds e path d (claimCompanions d e path io).2 := by
  unfold claimCompanions
  split
  · exact .refl e path d
  · next d₁ h₁ =>
    have hanalysis := Adds.of_createNew (by decide) h₁
    split
    · exact hanalysis
    · next d₂ h₂ => exact hanalysis.trans (Adds.of_createNew (by decide) h₂)

section
variable [Build]

/-- Attempt `k` of a loop that starts in `s` is made and creates its QMDL file. -/
structure Storage.ClaimsName (s : Storage) (gpsMode : GpsMode) (attempts : Nat → EntryIo)
    (k : Nat) : Prop where
  before : ∀ j < k, s.Collides gpsMode attempts j
  fault : (attempts k).qmdl = none
  absent : ¬ s.device.disk.Exists
    ((s.attemptEntry gpsMode attempts k).getFilepath .qmdl s.store.path)

/-- One attempt claims a name at most. -/
theorem Storage.ClaimsName.unique {s : Storage} {gpsMode : GpsMode} {attempts : Nat → EntryIo}
    {j k : Nat} (hj : s.ClaimsName gpsMode attempts j) (hk : s.ClaimsName gpsMode attempts k) :
    j = k := by
  have hne : ∀ {i}, s.ClaimsName gpsMode attempts i → ¬ s.Collides gpsMode attempts i := by
    intro i hi hcol
    unfold Collides at hcol
    rw [hi.fault] at hcol
    exact hi.absent hcol
  rcases Nat.lt_trichotomy j k with hlt | heq | hgt
  · exact absurd (hk.before j hlt) (hne hj)
  · exact heq
  · exact absurd (hj.before k hgt) (hne hk)

/-- After an attempt that met its name taken, the others are those of the loop one number later. -/
theorem claimsName_nextSequence {s : Storage} {gpsMode : GpsMode} {attempts : Nat → EntryIo}
    (h : s.Collides gpsMode attempts 0) {k : Nat} :
    s.nextSequence.ClaimsName gpsMode (fun j => attempts (j + 1)) k ↔
      s.ClaimsName gpsMode attempts (k + 1) := by
  constructor
  · rintro ⟨hbefore, hfault, habsent⟩
    refine ⟨fun j hj => ?_, hfault, ?_⟩
    · cases j with
      | zero => exact h
      | succ j => exact collides_nextSequence.1 (hbefore j (by omega))
    · rwa [attemptEntry_nextSequence] at habsent
  · rintro ⟨hbefore, hfault, habsent⟩
    refine ⟨fun j hj => collides_nextSequence.2 (hbefore (j + 1) (by omega)), hfault, ?_⟩
    rwa [attemptEntry_nextSequence]

theorem claimsName_zero {s : Storage} {gpsMode : GpsMode} {attempts : Nat → EntryIo} {d : Disk}
    (h : s.device.disk.createNew
      ((s.attemptEntry gpsMode attempts 0).getFilepath .qmdl s.store.path) (attempts 0).qmdl =
        .ok d) : s.ClaimsName gpsMode attempts 0 := by
  obtain ⟨hfault, habsent, -⟩ := Disk.createNew_eq_ok.1 h
  exact ⟨fun j hj => absurd hj (Nat.not_lt_zero j), hfault, habsent⟩

/-- What the loop of `new_entry` has created when it comes to attempt `k`. -/
structure Storage.Claimed (s : Storage) (gpsMode : GpsMode) (attempts : Nat → EntryIo) (k : Nat)
    (result : Except RecordingStoreError ManifestEntry × Storage) : Prop where
  claims : s.ClaimsName gpsMode attempts k
  adds : Adds (s.attemptEntry gpsMode attempts k) s.store.path s.device.disk result.2.device.disk
  qmdl : result.2.device.disk.Exists
    ((s.attemptEntry gpsMode attempts k).getFilepath .qmdl s.store.path)
  all : ∀ entry, result.1 = .ok entry → entry = s.attemptEntry gpsMode attempts k ∧
    ∀ kind ∈ FileKind.created, result.2.device.disk.Exists (entry.getFilepath kind s.store.path)

omit [Build] in
theorem claimCompanions_all {d d' : Disk} {entry : ManifestEntry} {path : PathBuf} {io : EntryIo}
    (hq : d.Exists (entry.getFilepath .qmdl path))
    (h : claimCompanions d entry path io = (.ok (), d')) :
    ∀ kind ∈ FileKind.created, d'.Exists (entry.getFilepath kind path) := by
  unfold claimCompanions at h
  split at h
  · cases h
  · next d₁ h₁ =>
    obtain ⟨-, -, rfl⟩ := Disk.createNew_eq_ok.1 h₁
    split at h
    · cases h
    · next d₂ h₂ =>
      obtain ⟨-, -, rfl⟩ := Disk.createNew_eq_ok.1 h₂
      cases h
      intro kind hkind
      simp only [FileKind.created, List.mem_cons, List.not_mem_nil, or_false] at hkind
      rcases hkind with rfl | rfl | rfl
      · exact hq.set.set
      · exact Disk.Exists.set (by rw [Disk.Exists, Disk.set_files_self]; rfl)
      · rw [Disk.Exists, Disk.set_files_self]
        rfl

/-- The loop of `new_entry` creates files for the one attempt that claims a name, if there is
one. -/
theorem claimFiles_cases (gpsMode : GpsMode) (n : Nat) (attempts : Nat → EntryIo)
    (last : Option IoError) (s : Storage) :
    ((∀ k < n, ¬ s.ClaimsName gpsMode attempts k) ∧
      (∃ e, (claimFiles gpsMode n attempts last s).1 = .error e) ∧
      (claimFiles gpsMode n attempts last s).2.device.disk = s.device.disk) ∨
    ∃ k < n, s.Claimed gpsMode attempts k (claimFiles gpsMode n attempts last s) := by
  induction n generalizing attempts last s with
  | zero => exact .inl ⟨fun k hk => absurd hk (Nat.not_lt_zero k), ⟨_, rfl⟩, rfl⟩
  | succ n ih =>
    rw [claimFiles, candidate_eq_attemptEntry]
    simp only [nextSequence_store, nextSequence_disk]
    cases hq : s.device.disk.createNew
        ((s.attemptEntry gpsMode attempts 0).getFilepath .qmdl s.store.path) (attempts 0).qmdl with
    | error e =>
      have hnot : ¬ s.ClaimsName gpsMode attempts 0 := by
        rintro ⟨-, hfault, habsent⟩
        rw [Disk.createNew_eq_ok.2 ⟨hfault, habsent, rfl⟩] at hq
        cases hq
      by_cases hkind : e.kind = .alreadyExists
      · -- the name is taken, and the loop goes on
        simp only [hkind, if_true]
        have hcol : s.Collides gpsMode attempts 0 := by
          unfold Collides
          cases hf : (attempts 0).qmdl with
          | some e' =>
            rw [hf] at hq
            cases hq
            exact hkind
          | none =>
            by_contra hex
            exact hnot ⟨fun j hj => absurd hj (Nat.not_lt_zero j), hf, hex⟩
        rcases ih (fun k => attempts (k + 1)) (some e) s.nextSequence with ⟨hnone, herr, hdisk⟩ |
          ⟨k, hk, hclaimed⟩
        · refine .inl ⟨fun k hk hclaims => ?_, herr, hdisk⟩
          cases k with
          | zero => exact hnot hclaims
          | succ k => exact hnone k (by omega) ((claimsName_nextSequence hcol).2 hclaims)
        · refine .inr ⟨k + 1, by omega, ?_⟩
          obtain ⟨hclaims, hadds, hqmdl, hall⟩ := hclaimed
          rw [attemptEntry_nextSequence] at hadds hqmdl hall
          exact ⟨(claimsName_nextSequence hcol).1 hclaims, hadds, hqmdl, hall⟩
      · simp only [hkind, if_false]
        refine .inl ⟨fun k hk hclaims => ?_, ⟨_, rfl⟩, rfl⟩
        cases k with
        | zero => exact hnot hclaims
        | succ k =>
          -- the loop stops at an error of another kind
          have hcol := hclaims.before 0 (by omega)
          unfold Collides at hcol
          cases hf : (attempts 0).qmdl with
          | some e' =>
            rw [hf] at hq hcol
            cases hq
            exact hkind hcol
          | none =>
            rw [hf] at hq hcol
            rw [Disk.createNew, if_pos hcol] at hq
            cases hq
            exact hkind rfl
    | ok d =>
      refine .inr ⟨0, by omega, ?_⟩
      have hadds := Adds.of_createNew (by decide) hq
      have hexists : d.Exists
          ((s.attemptEntry gpsMode attempts 0).getFilepath .qmdl s.store.path) := by
        obtain ⟨-, -, rfl⟩ := Disk.createNew_eq_ok.1 hq
        rw [Disk.Exists, Disk.set_files_self]
        rfl
      have hcomp := adds_claimCompanions d (s.attemptEntry gpsMode attempts 0) s.store.path
        (attempts 0)
      cases hc : claimCompanions d (s.attemptEntry gpsMode attempts 0) s.store.path
          (attempts 0) with
      | mk r d' =>
        rw [hc] at hcomp
        simp only [hc]
        cases r with
        | error e =>
          refine ⟨claimsName_zero hq, hadds.trans hcomp, hcomp.exists hexists, ?_⟩
          intro entry h
          cases h
        | ok u =>
          refine ⟨claimsName_zero hq, hadds.trans hcomp, hcomp.exists hexists, ?_⟩
          intro entry h
          cases h
          exact ⟨rfl, claimCompanions_all hexists hc⟩

end

/-! ## A new entry -/

section
variable [Build] [Toml] [Sidecar]

/-- What `new_entry` is there to write over: the manifest, the file it is written through, and the
details of the recording it closes. -/
def Storage.Rewrites (s : Storage) (p : FilePath) : Prop :=
  p = manifestPath s.store.path ∨ p = manifestTmpPath s.store.path ∨ s.IsOpenSidecar p

/-- The entries `manifest.toml` lists. -/
def Storage.listed (s : Storage) : List ManifestEntry :=
  match s.onDisk with
  | .ok manifest => manifest.entries
  | .error _ => []

omit [Toml] in
theorem claims_store (s : Storage) (gpsMode : GpsMode) (io : NewEntryIo) :
    (s.claims gpsMode io).2.store = { s.store with currentEntry := none } := by
  rw [claims, claimFiles_store, closeOpenEntry_store]

/-- `new_entry` comes to an end with its loop, or with the manifest write after it. -/
theorem newEntry_of_claims (s : Storage) (gpsMode : GpsMode) (io : NewEntryIo) :
    (∃ e, (s.claims gpsMode io).1 = .error e ∧
      s.newEntry gpsMode io = (.error e, (s.claims gpsMode io).2)) ∨
    ∃ entry, (s.claims gpsMode io).1 = .ok entry ∧
      (s.newEntry gpsMode io).2 =
        (((s.claims gpsMode io).2.publish entry).writeManifest io.manifest).2 ∧
      (io.manifest.fault = none → (s.newEntry gpsMode io).1 = .ok entry) := by
  unfold newEntry
  rw [← claims]
  cases hc : s.claims gpsMode io with
  | mk r s' =>
    cases r with
    | error e => exact .inl ⟨e, rfl, rfl⟩
    | ok entry =>
      refine .inr ⟨entry, rfl, ?_⟩
      simp only
      cases hw : (s'.publish entry).writeManifest io.manifest with
      | mk r s'' =>
        have hok := writeManifest_isOk (s'.publish entry) io.manifest
        rw [hw] at hok
        cases r with
        | error e =>
          refine ⟨rfl, fun hfault => ?_⟩
          cases hok.2 hfault
        | ok u => exact ⟨rfl, fun _ => rfl⟩

/-- After its files are claimed `new_entry` writes the manifest alone. -/
theorem newEntry_files (s : Storage) (gpsMode : GpsMode) (io : NewEntryIo) {p : FilePath}
    (h : p ≠ manifestPath s.store.path) (h' : p ≠ manifestTmpPath s.store.path) :
    (s.newEntry gpsMode io).2.device.disk.files p =
      (s.claims gpsMode io).2.device.disk.files p := by
  rcases newEntry_of_claims s gpsMode io with ⟨e, -, hrun⟩ | ⟨entry, -, hrun, -⟩
  · rw [hrun]
  · have hpath : ((s.claims gpsMode io).2.publish entry).store.path = s.store.path := by
      rw [show ((s.claims gpsMode io).2.publish entry).store.path =
        (s.claims gpsMode io).2.store.path from rfl, claims_store]
    rw [hrun]
    exact manifestDisk_files _ _ _ (by rw [hpath]; exact h) (by rw [hpath]; exact h')

theorem newEntry_exists (s : Storage) (gpsMode : GpsMode) (io : NewEntryIo) {p : FilePath}
    (h : RecordingFile s.store.path p) :
    (s.newEntry gpsMode io).2.device.disk.Exists p ↔
      (s.claims gpsMode io).2.device.disk.Exists p := by
  rw [Disk.Exists, newEntry_files s gpsMode io h.ne_manifest.1 h.ne_manifest.2, Disk.Exists]

/-- A `new_entry` that fails has not touched the manifest. -/
theorem newEntry_manifest {s : Storage} {gpsMode : GpsMode} {io : NewEntryIo}
    {e : RecordingStoreError} (h : (s.newEntry gpsMode io).1 = .error e) :
    SameFile s (s.newEntry gpsMode io).2 := by
  have hfile : SameFile s (s.claims gpsMode io).2 :=
    (sameFile_closeOpenEntry s io.finish).trans (sameFile_claimFiles ..)
  rcases newEntry_of_claims s gpsMode io with ⟨e, -, hrun⟩ | ⟨entry, -, hrun, hok⟩
  · rw [hrun]
    exact hfile
  · have hfault : io.manifest.fault ≠ none := by
      intro hnone
      rw [hok hnone] at h
      cases h
    have hpublish : SameFile s ((s.claims gpsMode io).2.publish entry) := hfile.trans ⟨rfl, rfl⟩
    rw [hrun]
    exact hpublish.trans ⟨rfl, manifestDisk_of_fault hfault⟩

/-- Of the files that are there `new_entry` changes only those it is there to write over. -/
theorem newEntry_keeps (s : Storage) (gpsMode : GpsMode) (io : NewEntryIo) {p : FilePath}
    {c : FileContent} (hp : s.device.disk.files p = some c) (h : ¬ s.Rewrites p) :
    (s.newEntry gpsMode io).2.device.disk.files p = some c := by
  rw [Rewrites, not_or, not_or] at h
  have hclosed := closeOpenEntry_files h.2.2 io.finish
  rw [newEntry_files s gpsMode io h.1 h.2.1, ← hp, ← hclosed, claims]
  rcases claimFiles_cases gpsMode MAX_ATTEMPTS io.attempts none (s.closeOpenEntry io.finish) with
    ⟨-, -, hdisk⟩ | ⟨k, -, hclaimed⟩
  · rw [hdisk]
  · refine hclaimed.adds.kept p ?_
    rw [Disk.Exists, hclosed, hp]
    rfl

/-- Attempt `k` of `new_entry` creates its QMDL file. -/
def Storage.TakesName (s : Storage) (gpsMode : GpsMode) (io : NewEntryIo) (k : Nat) : Prop :=
  k < MAX_ATTEMPTS ∧ (s.closeOpenEntry io.finish).ClaimsName gpsMode io.attempts k

/-- Attempt `k` of `new_entry` can create all three files. -/
def Storage.TakesFiles (s : Storage) (gpsMode : GpsMode) (io : NewEntryIo) (k : Nat) : Prop :=
  (s.closeOpenEntry io.finish).Claimable gpsMode io.attempts k

omit [Toml] in
/-- The files `new_entry` creates are those of the attempt that takes a name. -/
theorem claims_cases (s : Storage) (gpsMode : GpsMode) (io : NewEntryIo) :
    ((∀ k, ¬ s.TakesName gpsMode io k) ∧ (∃ e, (s.claims gpsMode io).1 = .error e) ∧
      ∀ p, RecordingFile s.store.path p →
        ((s.claims gpsMode io).2.device.disk.Exists p ↔ s.device.disk.Exists p)) ∨
    ∃ k, s.TakesName gpsMode io k ∧
      (s.closeOpenEntry io.finish).Claimed gpsMode io.attempts k (s.claims gpsMode io) := by
  rcases claimFiles_cases gpsMode MAX_ATTEMPTS io.attempts none (s.closeOpenEntry io.finish) with
    ⟨hnone, herr, hdisk⟩ | ⟨k, hk, hclaimed⟩
  · refine .inl ⟨fun k hk => hnone k hk.1 hk.2, herr, fun p hp => ?_⟩
    rw [claims, hdisk]
    exact closeOpenEntry_exists s io.finish hp
  · exact .inr ⟨k, ⟨hk, hclaimed.claims⟩, hclaimed⟩

omit [Toml] in
theorem Storage.TakesName.unique {s : Storage} {gpsMode : GpsMode} {io : NewEntryIo} {j k : Nat}
    (hj : s.TakesName gpsMode io j) (hk : s.TakesName gpsMode io k) : j = k :=
  hj.2.unique hk.2

omit [Toml] in
/-- The loop succeeds where the attempt that takes a name creates all three files. -/
theorem claims_ok_iff {s : Storage} {gpsMode : GpsMode} {io : NewEntryIo} {k : Nat}
    (hk : s.TakesName gpsMode io k) :
    (∃ entry, (s.claims gpsMode io).1 = .ok entry) ↔ s.TakesFiles gpsMode io k := by
  rw [s.claims_isOk gpsMode io]
  constructor
  · rintro ⟨j, hj, hcol, hcan⟩
    have htakes : s.TakesName gpsMode io j :=
      ⟨hj, hcol, hcan.qmdl, hcan.absent .qmdl (by decide)⟩
    exact hk.unique htakes ▸ hcan
  · exact fun hcan => ⟨k, hk.1, hk.2.before, hcan⟩

/-- What a failed `new_entry` leaves where attempt `k` took a name: files of its recording. -/
theorem newEntry_tidy_iff_listed {s : Storage} {gpsMode : GpsMode} {io : NewEntryIo} {k : Nat}
    (hclaimed : (s.closeOpenEntry io.finish).Claimed gpsMode io.attempts k (s.claims gpsMode io))
    (entries : List ManifestEntry) :
    Tidy s.store.path s.device.disk (s.newEntry gpsMode io).2.device.disk entries entries ↔
      (s.attemptEntry gpsMode io.attempts k).key ∈ entries.map (·.key) := by
  obtain ⟨hclaims, hadds, hqmdl, -⟩ := hclaimed
  have hpath : (s.closeOpenEntry io.finish).store.path = s.store.path := by
    rw [closeOpenEntry_store]
  have habsent := hclaims.absent
  rw [ManifestOp.attemptEntry_closeOpenEntry, hpath] at hadds hqmdl habsent
  refine tidy_iff_listed (fun p hp h h' => ?_) (fun p hp h => ?_) (fun h => ?_) ?_
  · rw [← closeOpenEntry_exists s io.finish hp] at h
    exact hadds.new p h ((newEntry_exists s gpsMode io hp).1 h')
  · rw [← closeOpenEntry_exists s io.finish hp] at h
    exact (newEntry_exists s gpsMode io hp).2 (hadds.exists h)
  · exact habsent ((closeOpenEntry_exists s io.finish ⟨_, .qmdl, rfl⟩).2 h)
  · exact (newEntry_exists s gpsMode io ⟨_, .qmdl, rfl⟩).2 hqmdl

/-- What it leaves where the manifest could not be written: the entry is listed in memory. -/
theorem newEntry_tidy_published {s : Storage} {gpsMode : GpsMode} {io : NewEntryIo} {k : Nat}
    {entry : ManifestEntry} (hok : (s.claims gpsMode io).1 = .ok entry)
    (hclaimed : (s.closeOpenEntry io.finish).Claimed gpsMode io.attempts k (s.claims gpsMode io)) :
    Tidy s.store.path s.device.disk (s.newEntry gpsMode io).2.device.disk
      s.store.manifest.entries (s.store.manifest.entries ++ [entry]) := by
  have hpath : (s.closeOpenEntry io.finish).store.path = s.store.path := by
    rw [closeOpenEntry_store]
  obtain ⟨rfl, hall⟩ := hclaimed.all entry hok
  have hadds := hclaimed.adds
  rw [hpath] at hall hadds
  refine ⟨fun p hp h h' => ?_, fun e he kind hkind => ?_⟩
  · rw [← closeOpenEntry_exists s io.finish hp] at h
    obtain ⟨kind, -, rfl⟩ := hadds.new p h ((newEntry_exists s gpsMode io hp).1 h')
    exact ⟨_, List.mem_append_right _ (List.mem_singleton_self _), kind, rfl⟩
  · have hrecording : RecordingFile s.store.path (e.getFilepath kind s.store.path) :=
      ⟨e, kind, rfl⟩
    rw [newEntry_exists s gpsMode io hrecording]
    rcases List.mem_append.1 he with he | he
    · by_cases hex : s.device.disk.Exists (e.getFilepath kind s.store.path)
      · refine .inl (hadds.exists ?_)
        exact (closeOpenEntry_exists s io.finish hrecording).2 hex
      · exact .inr ⟨he, hex⟩
    · obtain rfl := List.mem_singleton.1 he
      exact .inl (hall kind hkind)

/-- The entries in memory after a `new_entry` that fails. -/
theorem newEntry_entries {s : Storage} {gpsMode : GpsMode} {io : NewEntryIo} :
    (∀ e, (s.claims gpsMode io).1 = .error e →
      (s.newEntry gpsMode io).2.store.manifest.entries = s.store.manifest.entries) ∧
    ∀ entry, (s.claims gpsMode io).1 = .ok entry →
      (s.newEntry gpsMode io).2.store.manifest.entries =
        s.store.manifest.entries ++ [entry] := by
  have hstore := claims_store s gpsMode io
  rcases newEntry_of_claims s gpsMode io with ⟨e', hfails, hrun⟩ | ⟨entry', hok, hrun, -⟩
  · refine ⟨fun e he => ?_, fun entry h => ?_⟩
    · rw [hrun, hstore]
    · rw [hfails] at h
      cases h
  · refine ⟨fun e h => ?_, fun entry h => ?_⟩
    · rw [hok] at h
      cases h
    · rw [hok] at h
      cases h
      rw [hrun]
      show (s.claims gpsMode io).2.store.manifest.entries ++ [entry'] = _
      rw [hstore]

/-- `new_entry` changes no file that is there but the manifest, the file that is written through and
the details of the recording it closes. When it fails `manifest.toml` is as it was; the manifest in
memory and the files agree as before exactly where the attempt that took a name could create all its
files; and `manifest.toml` and the files do exactly where no attempt took a name. A name that is
listed already makes no difference to either. -/
theorem newEntry_tidy_iff (s : Storage) (gpsMode : GpsMode) (io : NewEntryIo) :
    (∀ p c, s.device.disk.files p = some c → ¬ s.Rewrites p →
      (s.newEntry gpsMode io).2.device.disk.files p = some c) ∧
    ∀ e, (s.newEntry gpsMode io).1 = .error e →
      (s.newEntry gpsMode io).2.device.disk.files (manifestPath s.store.path) =
        s.device.disk.files (manifestPath s.store.path) ∧
      (Tidy s.store.path s.device.disk (s.newEntry gpsMode io).2.device.disk
          s.store.manifest.entries (s.newEntry gpsMode io).2.store.manifest.entries ↔
        ∀ k, s.TakesName gpsMode io k → s.TakesFiles gpsMode io k ∨
          (s.attemptEntry gpsMode io.attempts k).key ∈ s.store.manifest.entries.map (·.key)) ∧
      (Tidy s.store.path s.device.disk (s.newEntry gpsMode io).2.device.disk
          s.listed (s.newEntry gpsMode io).2.listed ↔
        ∀ k, s.TakesName gpsMode io k →
          (s.attemptEntry gpsMode io.attempts k).key ∈ s.listed.map (·.key)) := by
  refine ⟨fun p c hp h => newEntry_keeps s gpsMode io hp h, fun e herr => ?_⟩
  have hmanifest := newEntry_manifest herr
  have hlisted : (s.newEntry gpsMode io).2.listed = s.listed := by
    rw [Storage.listed, Storage.listed, hmanifest.onDisk]
  rw [hlisted]
  refine ⟨hmanifest.file, ?_⟩
  rcases claims_cases s gpsMode io with ⟨hnone, ⟨e', hfails⟩, hsame⟩ | ⟨k, hk, hclaimed⟩
  · have hexists : ∀ p, RecordingFile s.store.path p →
        ((s.newEntry gpsMode io).2.device.disk.Exists p ↔ s.device.disk.Exists p) := by
      intro p hp
      rw [newEntry_exists s gpsMode io hp, hsame p hp]
    rw [newEntry_entries.1 e' hfails]
    exact ⟨⟨fun _ k hk => absurd hk (hnone k), fun _ => tidy_of_exists hexists⟩,
      ⟨fun _ k hk => absurd hk (hnone k), fun _ => tidy_of_exists hexists⟩⟩
  · have hone : ∀ {P : Nat → Prop}, (∀ j, s.TakesName gpsMode io j → P j) ↔ P k :=
      ⟨fun h => h k hk, fun h j hj => hj.unique hk ▸ h⟩
    rw [hone, hone]
    refine ⟨?_, newEntry_tidy_iff_listed hclaimed s.listed⟩
    cases hres : (s.claims gpsMode io).1 with
    | error e' =>
      -- a companion file could not be created
      have hnot : ¬ s.TakesFiles gpsMode io k := by
        rw [← claims_ok_iff hk, hres]
        rintro ⟨entry, h⟩
        cases h
      rw [newEntry_entries.1 e' hres, newEntry_tidy_iff_listed hclaimed, or_iff_right hnot]
    | ok entry =>
      -- the manifest could not be written
      have htakes : s.TakesFiles gpsMode io k := (claims_ok_iff hk).1 ⟨entry, hres⟩
      rw [newEntry_entries.2 entry hres]
      exact ⟨fun _ => .inl htakes, fun _ => newEntry_tidy_published hres hclaimed⟩

/-- A disk that is full once the QMDL file is there. -/
def fullAfterQmdl : NewEntryIo where
  attempts := fun _ => { now := anInstant, analysis := some noSpaceLeft }

omit [Build] [Toml] [Sidecar] in
theorem newEntry_tidy_iff_fullAfterQmdl :
    let _ := deviceBuild
    let _ := tomlAt "2024-08-19T03:33:54+00:00"
    let _ := sidecarJson
    (createdStorage.newEntry .disabled fullAfterQmdl).1 = .error (.createFileError noSpaceLeft) ∧
      (Tidy createdStorage.store.path createdStorage.device.disk
          (createdStorage.newEntry .disabled fullAfterQmdl).2.device.disk
          createdStorage.store.manifest.entries
          (createdStorage.newEntry .disabled fullAfterQmdl).2.store.manifest.entries ↔
        ∀ k, createdStorage.TakesName .disabled fullAfterQmdl k →
          createdStorage.TakesFiles .disabled fullAfterQmdl k ∨
            (createdStorage.attemptEntry .disabled fullAfterQmdl.attempts k).key ∈
              createdStorage.store.manifest.entries.map (·.key)) := by
  let _ := deviceBuild
  let _ := tomlAt "2024-08-19T03:33:54+00:00"
  let _ := sidecarJson
  have herr : (createdStorage.newEntry .disabled fullAfterQmdl).1 =
      .error (.createFileError noSpaceLeft) := by decide +kernel
  exact ⟨herr, ((newEntry_tidy_iff createdStorage .disabled fullAfterQmdl).2 _ herr).2.1⟩

omit [Build] [Toml] [Sidecar] in
/-- The QMDL file of a recording that could not be started is listed nowhere. -/
theorem qmdl_left_behind :
    let _ := deviceBuild
    let _ := tomlAt "2024-08-19T03:33:54+00:00"
    let _ := sidecarJson
    ¬ ∀ (s : Storage) (gpsMode : GpsMode) (io : NewEntryIo) (e : RecordingStoreError),
      (s.newEntry gpsMode io).1 = .error e →
      Tidy s.store.path s.device.disk (s.newEntry gpsMode io).2.device.disk
        s.store.manifest.entries (s.newEntry gpsMode io).2.store.manifest.entries := by
  let _ := deviceBuild
  let _ := tomlAt "2024-08-19T03:33:54+00:00"
  let _ := sidecarJson
  intro _ _ _ h
  have herr : (createdStorage.newEntry .disabled fullAfterQmdl).1 =
      .error (.createFileError noSpaceLeft) := by decide +kernel
  have hfile := (h _ _ _ _ herr).files
    ((createdStorage.attemptEntry .disabled fullAfterQmdl.attempts 0).getFilepath .qmdl
      defaultStorePath) ⟨_, _, rfl⟩ (by decide +kernel) (by decide +kernel)
  obtain ⟨e, he, -⟩ := hfile
  have hempty : (createdStorage.newEntry .disabled fullAfterQmdl).2.store.manifest.entries = [] := by
    decide +kernel
  rw [hempty] at he
  cases he

end

end Rayhunter
