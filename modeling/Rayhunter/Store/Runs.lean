import Rayhunter.Cleanup.Prune
import Rayhunter.Lib.Reach
import Rayhunter.Store.Recover

/-!
# Runs of the recording store

A store is created, recovered from a directory or loaded, and then goes through any of its
operations, each with any answers of the disk, while others change the files under it. The names of
its entries stay distinct and its current entry stays the one the last `new_entry` made, as long as
a recovered directory does not hold a recording twice and `new_entry` does not hit one of its two
gaps: a name the manifest has already and the disk does not, and a manifest that cannot be written.
-/

namespace Rayhunter

open Storage Runs

variable [Build] [Toml] [Sidecar] [SerdeJson] [Chrono]

/-- A store, with what its runs remember: the manifests handed to `write_manifest` so far, and the
name of the entry the last successful `new_entry` made since the store was opened. -/
structure StoreRun where
  storage : Option Storage
  written : List Manifest
  created : Option String

/-- What happens to a store. -/
inductive StoreOp
  | create (device : Device) (path : PathBuf) (io : CreateIo)
  | recover (device : Device) (path : PathBuf) (io : RecoverIo)
  | load (device : Device) (path : PathBuf) (fault : Option IoError)
  | newEntry (gpsMode : GpsMode) (io : NewEntryIo)
  | closeCurrentEntry (io : SidecarIo)
  | updateCurrentEntryQmdlSize (sizeBytes : Nat) (now : DateTime) (io : ManifestIo)
  | setCurrentStopReason (reason : String) (io : ManifestIo)
  | setEntryAnnotations (name : String) (displayName notes : Option String) (io : ManifestIo)
  | markEntryAsUploaded (name : String) (uploadTime : DateTime) (io : ManifestIo)
  | deleteEntry (name : String) (io : DeleteIo)
  | deleteAllEntries (io : DeleteAllIo)
  | prune (targetMb : UInt64) (uploadsConfigured : Bool) (io : PruneIo)
  | files (disk : Disk)

namespace StoreRun

/-- The run once its store has become `s`. -/
def after (r : StoreRun) (s : Storage) : StoreRun :=
  { r with storage := some s, written := s.store.manifest :: r.written }

/-- The run once a store has been opened. -/
def opened (r : StoreRun) : Except RecordingStoreError RecordingStore × Device → Option StoreRun
  | (.ok store, device) => some ⟨some ⟨store, device⟩, store.manifest :: r.written, none⟩
  | (.error _, _) => none

/-- The run once `new_entry` has returned. -/
def afterNewEntry (r : StoreRun) : Except RecordingStoreError ManifestEntry × Storage → StoreRun
  | (.ok entry, s) => { r.after s with created := some entry.name }
  | (.error _, s) => r.after s

/-- What an operation on an open store makes of the run. -/
def operate (r : StoreRun) (s : Storage) : StoreOp → StoreRun
  | .newEntry gpsMode io => r.afterNewEntry (s.newEntry gpsMode io)
  | .closeCurrentEntry io => r.after (s.closeCurrentEntry io).2
  | .updateCurrentEntryQmdlSize size now io => r.after (s.updateCurrentEntryQmdlSize size now io).2
  | .setCurrentStopReason reason io => r.after (s.setCurrentStopReason reason io).2
  | .setEntryAnnotations name displayName notes io =>
    r.after (s.setEntryAnnotations name displayName notes io).2
  | .markEntryAsUploaded name uploadTime io => r.after (s.markEntryAsUploaded name uploadTime io).2
  | .deleteEntry name io => r.after (s.deleteEntry name io).2
  | .deleteAllEntries io => r.after (s.deleteAllEntries io).2
  | .prune targetMb uploadsConfigured io =>
    r.after (pruneCleanRecordings s targetMb uploadsConfigured io).2
  | .files disk => r.after (s.withDisk disk)
  | .create .. | .recover .. | .load .. => r

/-- One step of a run. A store that cannot be opened is none, and before there is one nothing else
happens. -/
def step (r : StoreRun) : StoreOp → Option StoreRun
  | .create device path io => r.opened (RecordingStore.create device path io)
  | .recover device path io => r.opened (RecordingStore.recover device path io)
  | .load device path fault => r.opened (RecordingStore.load device.disk path fault, device)
  | op => r.storage.map fun s => r.operate s op

/-- Before there is a store. -/
def start : StoreRun := ⟨none, [], none⟩

/-! ## What the runs are about -/

/-- A manifest that is loaded is one this code wrote. -/
def LoadsOwn (r : StoreRun) : StoreOp → Prop
  | .load device path fault => ∀ m, readManifest device.disk path fault = .ok m → m ∈ r.written
  | _ => True

/-- The names of the recordings recovered from a listing. -/
def recoveredNames (files : List DirEntry) : List String :=
  (files.filterMap recoverEntry).map (·.name)

/-- Whichever attempt of `new_entry` can create its files, the manifest does not have its name and
can be written. -/
def NewEntryFresh (s : Storage) (gpsMode : GpsMode) (io : NewEntryIo) : Prop :=
  let s₀ := s.closeOpenEntry io.finish
  ∀ k < MAX_ATTEMPTS, (∀ j < k, s₀.Collides gpsMode io.attempts j) →
    s₀.Claimable gpsMode io.attempts k →
      (s₀.attemptEntry gpsMode io.attempts k).name ∉ s.store.names ∧ io.manifest.fault = none

/-- The steps that keep the names apart and the current entry right. -/
def KeepsNames (r : StoreRun) : StoreOp → Prop
  | .recover _ _ io => (recoveredNames io.entries).Nodup
  | .newEntry gpsMode io => ∀ s, r.storage = some s → NewEntryFresh s gpsMode io
  | _ => True

/-- The current entry is there, and it is the one `new_entry` made last. -/
def CurrentIsCreated (created : Option String) (store : RecordingStore) : Prop :=
  ∀ i, store.currentEntry = some i →
    ∃ e, store.manifest.entries[i]? = some e ∧ created = some e.name

/-- The invariant of these runs. -/
structure Inv (r : StoreRun) : Prop where
  written : ∀ m ∈ r.written, (m.entries.map (·.name)).Nodup
  names : ∀ s, r.storage = some s → s.store.names.Nodup
  current : ∀ s, r.storage = some s → CurrentIsCreated r.created s.store

/-! ## The invariant is kept -/

omit [Build] [Toml] [Sidecar] [SerdeJson] [Chrono] in
theorem currentIsCreated_of_none {created : Option String} {store : RecordingStore}
    (h : store.currentEntry = none) : CurrentIsCreated created store := by
  intro i hi
  rw [h] at hi
  cases hi

omit [Build] [Toml] [Sidecar] [SerdeJson] [Chrono] in
/-- A store with the same recordings keeps both. -/
theorem CurrentIsCreated.same {created : Option String} {a b : RecordingStore} (h : a.Same b)
    (hb : CurrentIsCreated created b) : CurrentIsCreated created a := by
  intro i hi
  obtain ⟨e, he, hc⟩ := hb i (by rw [← h.current]; exact hi)
  obtain ⟨e', he', hk⟩ := h.getElem? he
  simp only [ManifestEntry.key, Prod.mk.injEq] at hk
  exact ⟨e', he', by rw [hk.1]; exact hc⟩

omit [Build] [Toml] [Sidecar] [SerdeJson] [Chrono] in
theorem names_of_same {a b : RecordingStore} (h : a.Same b) : a.names = b.names := by
  rw [RecordingStore.names_eq_map_keys, RecordingStore.names_eq_map_keys, h.keys]

omit [Build] [Toml] [Sidecar] [SerdeJson] [Chrono] in
/-- The invariant of a run whose store has become `s'`, with `created` the entry made last. -/
theorem Inv.record {r : StoreRun} (h : r.Inv) {s' : Storage} {created : Option String}
    (hn : s'.store.names.Nodup) (hc : CurrentIsCreated created s'.store) :
    Inv { r.after s' with created } := by
  refine ⟨?_, ?_, ?_⟩
  · intro m hm
    rcases List.mem_cons.1 hm with rfl | hm
    · exact hn
    · exact h.written m hm
  · rintro s ⟨⟩; exact hn
  · rintro s ⟨⟩; exact hc

omit [Build] [Toml] [Sidecar] [SerdeJson] [Chrono] in
theorem Inv.after_same {r : StoreRun} (h : r.Inv) {s s' : Storage} (hs : r.storage = some s)
    (hsame : s'.store.Same s.store) : (r.after s').Inv := by
  refine h.record ?_ ((h.current s hs).same hsame)
  rw [names_of_same hsame]
  exact h.names s hs

omit [Build] [SerdeJson] [Chrono] in
/-- Taking a recording out keeps the names apart and the current entry the same recording. -/
theorem deleteEntry_keeps {created : Option String} {s : Storage} (name : String) (io : DeleteIo)
    (hn : s.store.names.Nodup) (hc : CurrentIsCreated created s.store) :
    (s.deleteEntry name io).2.store.names.Nodup ∧
      CurrentIsCreated created (s.deleteEntry name io).2.store := by
  rcases s.deleteEntry_cases name io with ⟨-, heq⟩ | ⟨_, _, _, -, -, heq⟩ | ⟨i, e, -, heq⟩
  · rw [heq]; exact ⟨hn, hc⟩
  · rw [heq]; exact ⟨hn, hc⟩
  · rw [heq]
    refine ⟨?_, ?_⟩
    · refine List.Nodup.sublist ?_ hn
      exact (List.eraseIdx_sublist _ _).map _
    · intro j hj
      obtain ⟨k, hk, -, hget⟩ := getElem?_eraseIdx_currentAfterErase (l := s.store.manifest.entries)
        (by exact hj)
      obtain ⟨e, he, hcr⟩ := hc k hk
      exact ⟨e, by rw [← he]; exact hget, hcr⟩

omit [SerdeJson] [Chrono] in
/-- A new entry with a fresh name keeps the names apart and is the current one. -/
theorem Inv.newEntry {r : StoreRun} (h : r.Inv) {s : Storage} (hs : r.storage = some s)
    {gpsMode : GpsMode} {io : NewEntryIo} (hf : NewEntryFresh s gpsMode io) :
    (r.afterNewEntry (s.newEntry gpsMode io)).Inv := by
  have hn := h.names s hs
  rcases s.newEntry_cases gpsMode io with ⟨e, -, hres, hst⟩ | ⟨entry, hcl, hok, -, hst⟩
  · generalize s.newEntry gpsMode io = p at hres hst ⊢
    obtain ⟨res, s'⟩ := p
    obtain rfl : res = .error e := hres
    refine h.record ?_ (currentIsCreated_of_none ?_)
    · rw [hst]; exact hn
    · rw [hst]
  · have hclaim : s.claims gpsMode io = (.ok entry, (s.claims gpsMode io).2) := by rw [← hcl]
    obtain ⟨k, hk, hcol, hcan, hentry⟩ := claimFiles_ok hclaim
    obtain ⟨hfresh, hfault⟩ := hf k hk hcol hcan
    rw [← hentry] at hfresh
    have hres := hok.2 hfault
    generalize s.newEntry gpsMode io = p at hres hst ⊢
    obtain ⟨res, s'⟩ := p
    obtain rfl : res = .ok entry := hres
    show Inv { r.after s' with created := some entry.name }
    refine h.record ?_ ?_
    · have hnames : s'.store.names = s.store.names ++ [entry.name] := by
        rw [hst]; simp [RecordingStore.names]
      rw [hnames, List.nodup_append]
      refine ⟨hn, by simp, ?_⟩
      rintro a ha b hb rfl
      exact hfresh (by rwa [List.mem_singleton.1 hb] at ha)
    · intro i hi
      rw [hst] at hi ⊢
      obtain rfl : s.store.manifest.entries.length = i := by simpa using hi
      exact ⟨entry, by simp, rfl⟩

omit [Build] [Toml] [Sidecar] [SerdeJson] [Chrono] in
/-- A store that has been opened has no current entry. -/
theorem Inv.opened {r r' : StoreRun} (h : r.Inv)
    {res : Except RecordingStoreError RecordingStore × Device} (hr : r.opened res = some r')
    (hstore : ∀ store, res.1 = .ok store → store.names.Nodup ∧ store.currentEntry = none) :
    r'.Inv := by
  obtain ⟨res, device⟩ := res
  cases res with
  | error e => cases hr
  | ok store =>
    cases hr
    obtain ⟨hn, hc⟩ := hstore store rfl
    show Inv { r.after ⟨store, device⟩ with created := none }
    exact h.record hn (currentIsCreated_of_none hc)

omit [Toml] [SerdeJson] [Sidecar] [Build] in
/-- Sorting the recovered entries does not make two of a name. -/
theorem nodup_recoverEntries {files : List DirEntry} (h : (recoveredNames files).Nodup) :
    ((recoverEntries files).map (·.name)).Nodup :=
  ((recoverEntries_perm files).map _).nodup_iff.2 h

/-- An operation on an open store keeps the invariant. -/
theorem Inv.operate {r : StoreRun} (h : r.Inv) {s : Storage} (hs : r.storage = some s)
    {op : StoreOp} (hop : KeepsNames r op) : (r.operate s op).Inv := by
  have hn := h.names s hs
  have hc := h.current s hs
  cases op with
  | create | recover | load => exact h
  | newEntry gpsMode io => exact h.newEntry hs (hop s hs)
  | closeCurrentEntry io =>
    have hst := s.closeCurrentEntry_store io
    exact h.record (by rw [hst]; exact hn) (currentIsCreated_of_none (by rw [hst]))
  | updateCurrentEntryQmdlSize size now io =>
    exact h.after_same hs (s.updateCurrentEntryQmdlSize_same size now io)
  | setCurrentStopReason reason io => exact h.after_same hs (s.setCurrentStopReason_same reason io)
  | setEntryAnnotations name displayName notes io =>
    exact h.after_same hs (s.setEntryAnnotations_same name displayName notes io)
  | markEntryAsUploaded name uploadTime io =>
    exact h.after_same hs (s.markEntryAsUploaded_same name uploadTime io)
  | deleteEntry name io =>
    obtain ⟨hn', hc'⟩ := deleteEntry_keeps name io hn hc
    exact h.record hn' hc'
  | deleteAllEntries io =>
    obtain ⟨kept, hsub, hst⟩ := s.deleteAllEntries_store io
    refine h.record ?_ (currentIsCreated_of_none (by rw [hst]))
    rw [hst]
    exact (hsub.map _).nodup hn
  | prune targetMb uploadsConfigured io =>
    let s' := (pruneCleanRecordings s targetMb uploadsConfigured io).2
    have hkeep : s'.store.names.Nodup ∧ CurrentIsCreated r.created s'.store :=
      pruneCleanRecordings_induction
        (P := fun s => s.store.names.Nodup ∧ CurrentIsCreated r.created s.store)
        (fun s name _ _ _ io h _ _ => deleteEntry_keeps name io h.1 h.2) targetMb io ⟨hn, hc⟩
    obtain ⟨hn', hc'⟩ := hkeep
    exact h.record hn' hc'
  | files disk => exact h.record hn hc

/-- Every step keeps the invariant. -/
theorem Inv.step {r r' : StoreRun} (h : r.Inv) {op : StoreOp} (hload : LoadsOwn r op)
    (hop : KeepsNames r op) (hst : r.step op = some r') : r'.Inv := by
  have hopen : (r.storage.map fun s => r.operate s op) = some r' → r'.Inv := by
    intro hst
    obtain ⟨s, hs, rfl⟩ := Option.map_eq_some_iff.1 hst
    exact h.operate hs hop
  cases op with
  | create device path io =>
    refine h.opened hst fun store hstore => ?_
    rw [create_store hstore]
    exact ⟨List.nodup_nil, rfl⟩
  | recover device path io =>
    refine h.opened hst fun store hstore => ?_
    rw [recover_store hstore]
    exact ⟨nodup_recoverEntries hop, rfl⟩
  | load device path fault =>
    refine h.opened hst fun store hstore => ?_
    obtain ⟨-, hc, hm⟩ := load_store hstore
    exact ⟨h.written _ (hload _ hm), hc⟩
  | _ => exact hopen hst

/-! ## Every reachable store -/

/-- **Names stay distinct and the current entry stays right** in every run that loads what it wrote,
recovers no recording twice and finds `new_entry` a fresh name and a manifest it can write. -/
theorem names_nodup_and_current {r : StoreRun}
    (h : Reach (· = start) step (fun r op => LoadsOwn r op ∧ KeepsNames r op) r) {s : Storage}
    (hs : r.storage = some s) :
    s.store.names.Nodup ∧ ∀ i, s.store.currentEntry = some i →
      ∃ e, s.store.manifest.entries[i]? = some e ∧ r.created = some e.name := by
  have hinv : r.Inv := by
    refine h.invariant (fun s hs => ?_) fun r op r' hi hok hst => hi.step hok.1 hok.2 hst
    subst hs
    exact ⟨by simp [start], by simp [start], by simp [start]⟩
  exact ⟨hinv.names s hs, hinv.current s hs⟩

/-! ## Runs on a device -/

omit [Build] [Toml] [Sidecar] [SerdeJson] [Chrono] in
/-- A store that is created and gets an entry. -/
theorem names_nodup_and_current_created :
    let _ := deviceBuild
    let _ := tomlAt "2024-08-19T03:33:54+00:00"
    let _ := sidecarJson
    let _ := jsonText
    let _ := oneInstant
    ∃ r : StoreRun, r.storage.map (·.store.names) = some ["1724038434-0"] ∧
      ∀ s, r.storage = some s → s.store.names.Nodup ∧ ∀ i, s.store.currentEntry = some i →
        ∃ e, s.store.manifest.entries[i]? = some e ∧ r.created = some e.name := by
  let _ := deviceBuild
  let _ := tomlAt "2024-08-19T03:33:54+00:00"
  let _ := sidecarJson
  let _ := jsonText
  let _ := oneInstant
  intro _ _ _ _ _
  have hrun : Reach (· = start) step (fun r op => LoadsOwn r op ∧ KeepsNames r op) _ :=
    .step (.step (.init rfl) (i := .create emptyDevice defaultStorePath {}) ⟨trivial, trivial⟩ rfl)
      (i := .newEntry .disabled (entryAt anInstant)) ⟨trivial, ?_⟩ rfl
  · refine ⟨_, ?_, fun s hs => names_nodup_and_current hrun hs⟩
    decide
  · rintro s ⟨⟩ k hk hcol -
    cases k with
    | zero => exact ⟨by decide, rfl⟩
    | succ k =>
      have hexists : Disk.Exists _ _ := hcol 0 (by omega)
      exact absurd hexists (by decide)

/-- A plain and a compressed recording of one name. -/
def twoOfAName : List DirEntry :=
  [⟨some "1724038434.qmdl", .ok 2048, some anInstant⟩,
    ⟨some "1724038434.qmdl.gz", .ok 1024, some anInstant⟩]

omit [Build] [Toml] [Sidecar] [SerdeJson] [Chrono] in
/-- A directory with a plain and a compressed recording of one name is recovered as two entries of
that name. -/
theorem recover_repeats_name :
    let _ := deviceBuild
    let _ := tomlAt "2024-08-19T03:33:54+00:00"
    let _ := sidecarJson
    let _ := jsonText
    let _ := oneInstant
    ¬ ∀ (r : StoreRun) (s : Storage), Reach (· = start) step LoadsOwn r → r.storage = some s →
      s.store.names.Nodup := by
  let _ := deviceBuild
  let _ := tomlAt "2024-08-19T03:33:54+00:00"
  let _ := sidecarJson
  let _ := jsonText
  let _ := oneInstant
  intro _ _ _ _ _ h
  have hrun : Reach (· = start) step LoadsOwn _ :=
    .step (.init rfl) (i := .recover emptyDevice defaultStorePath { entries := twoOfAName })
      trivial rfl
  exact absurd (h _ _ hrun rfl) (by decide)

end StoreRun

end Rayhunter
