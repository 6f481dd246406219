import Rayhunter.Store.Store

/-!
# What the operations do to the store

One lemma for each operation of `Rayhunter.Store.Store` about the store in memory: which entries it
leaves, in which order, and where the current entry stands. The other modules cite these and do not
unfold the operations.
-/

namespace Rayhunter

/-- What the paths of a recording's files depend on. -/
def ManifestEntry.key (e : ManifestEntry) : String × Bool := (e.name, e.compressed)

/-- The keys of the entries, in order. -/
def RecordingStore.keys (store : RecordingStore) : List (String × Bool) :=
  store.manifest.entries.map (·.key)

theorem RecordingStore.names_eq_map_keys (store : RecordingStore) :
    store.names = store.keys.map Prod.fst := by
  simp [names, keys, ManifestEntry.key]

/-- The stores `a` and `b` have the same recordings in the same order, and the same one of them is
current; what the entries note may differ. -/
structure RecordingStore.Same (a b : RecordingStore) : Prop where
  path : a.path = b.path
  current : a.currentEntry = b.currentEntry
  keys : a.keys = b.keys

theorem RecordingStore.Same.refl (a : RecordingStore) : Same a a := ⟨rfl, rfl, rfl⟩

theorem RecordingStore.Same.trans {a b c : RecordingStore} (h₁ : Same a b) (h₂ : Same b c) :
    Same a c := ⟨h₁.path.trans h₂.path, h₁.current.trans h₂.current, h₁.keys.trans h₂.keys⟩

theorem RecordingStore.Same.length {a b : RecordingStore} (h : Same a b) :
    a.manifest.entries.length = b.manifest.entries.length := by
  have := congrArg List.length h.keys
  simpa [RecordingStore.keys] using this

/-- The entry at a position keeps its key. -/
theorem RecordingStore.Same.getElem? {a b : RecordingStore} (h : Same a b) {i : Nat}
    {e : ManifestEntry} (he : b.manifest.entries[i]? = some e) :
    ∃ e', a.manifest.entries[i]? = some e' ∧ e'.key = e.key := by
  have hk : a.keys[i]? = b.keys[i]? := by rw [h.keys]
  simp only [RecordingStore.keys, List.getElem?_map, he, Option.map_some] at hk
  obtain ⟨e', he', hkey⟩ := Option.map_eq_some_iff.1 hk
  exact ⟨e', he', hkey⟩

/-- Entries with the same key have the same files. -/
theorem ManifestEntry.getFilepath_congr {e e' : ManifestEntry} (h : e.key = e'.key)
    (kind : FileKind) (path : PathBuf) : e.getFilepath kind path = e'.getFilepath kind path := by
  simp only [key, Prod.mk.injEq] at h
  simp only [getFilepath, h.1, h.2]

namespace Storage

/-! ## Entries that note something -/

/-- Changing what one entry notes. -/
theorem modifyEntry_same (s : Storage) (i : Nat) {f : ManifestEntry → ManifestEntry}
    (hf : ∀ e, (f e).key = e.key) : (s.modifyEntry i f).store.Same s.store := by
  refine ⟨rfl, rfl, ?_⟩
  simp only [RecordingStore.keys, modifyEntry, withEntries_entries]
  refine List.ext_getElem? fun j => ?_
  simp only [List.getElem?_map, List.getElem?_modify]
  cases s.store.manifest.entries[j]? with
  | none => rfl
  | some e => by_cases h : i = j <;> simp [h, hf]

section
variable [Toml]

theorem updateCurrentEntryQmdlSize_same (s : Storage) (size : Nat) (now : DateTime)
    (io : ManifestIo) : (s.updateCurrentEntryQmdlSize size now io).2.store.Same s.store := by
  unfold updateCurrentEntryQmdlSize
  cases s.store.currentEntry with
  | none => exact .refl _
  | some i => exact modifyEntry_same _ _ fun e => rfl

theorem setCurrentStopReason_same (s : Storage) (reason : String) (io : ManifestIo) :
    (s.setCurrentStopReason reason io).2.store.Same s.store := by
  unfold setCurrentStopReason
  cases s.store.currentEntry with
  | none => exact .refl _
  | some i => exact modifyEntry_same _ _ fun e => rfl

theorem setEntryAnnotations_same (s : Storage) (name : String) (displayName notes : Option String)
    (io : ManifestIo) :
    (s.setEntryAnnotations name displayName notes io).2.store.Same s.store := by
  unfold setEntryAnnotations
  cases s.store.position name with
  | none => exact .refl _
  | some i => exact modifyEntry_same _ _ fun e => rfl

theorem markEntryAsUploaded_same (s : Storage) (name : String) (uploadTime : DateTime)
    (io : ManifestIo) : (s.markEntryAsUploaded name uploadTime io).2.store.Same s.store := by
  unfold markEntryAsUploaded
  cases s.store.position name with
  | none => exact .refl _
  | some i => exact modifyEntry_same _ _ fun e => rfl

end

/-! ## Closing -/

section
variable [Sidecar]

/-- Closing the current entry leaves the manifest as it is. -/
theorem closeCurrentEntry_store (s : Storage) (io : SidecarIo) :
    (s.closeCurrentEntry io).2.store = { s.store with currentEntry := none } := by
  unfold closeCurrentEntry
  cases hc : s.store.currentEntry with
  | none => simp [← hc]
  | some i => simp only; cases s.store.manifest.entries[i]? <;> rfl

theorem closeOpenEntry_store (s : Storage) (io : SidecarIo) :
    (s.closeOpenEntry io).store = { s.store with currentEntry := none } := by
  unfold closeOpenEntry
  cases hc : s.store.currentEntry with
  | none => simp [← hc]
  | some i => exact closeCurrentEntry_store s io

end

/-! ## New entries -/

/-- Where both companion files are created, neither was there; nothing else has changed. -/
theorem claimCompanions_ok {d d' : Disk} {entry : ManifestEntry} {path : PathBuf} {io : EntryIo}
    (h : claimCompanions d entry path io = (.ok (), d')) :
    io.analysis = none ∧ io.gps = none ∧ ¬ d.Exists (entry.getFilepath .analysis path) ∧
      ¬ (d.set (entry.getFilepath .analysis path) (some (.text ""))).Exists
        (entry.getFilepath .gps path) := by
  unfold claimCompanions at h
  split at h
  · simp at h
  · next d₁ h₁ =>
    obtain ⟨ha, hna, rfl⟩ := Disk.createNew_eq_ok.1 h₁
    split at h
    · simp at h
    · next d₂ h₂ =>
      obtain ⟨hg, hng, -⟩ := Disk.createNew_eq_ok.1 h₂
      exact ⟨ha, hg, hna, hng⟩

section
variable [Build]

/-- The entry of attempt `k` of a loop that starts in `s`. -/
def attemptEntry (s : Storage) (gpsMode : GpsMode) (attempts : Nat → EntryIo) (k : Nat) :
    ManifestEntry :=
  .new gpsMode (attempts k).now (s.device.entrySequence + UInt64.ofNat k)

/-- Attempt `k` of a loop that starts in `s` meets a recording with its name. -/
def Collides (s : Storage) (gpsMode : GpsMode) (attempts : Nat → EntryIo) (k : Nat) : Prop :=
  match (attempts k).qmdl with
  | some e => e.kind = .alreadyExists
  | none => s.device.disk.Exists
      ((s.attemptEntry gpsMode attempts k).getFilepath .qmdl s.store.path)

/-- The three files of attempt `k` of a loop that starts in `s` can be created. -/
structure Claimable (s : Storage) (gpsMode : GpsMode) (attempts : Nat → EntryIo) (k : Nat) :
    Prop where
  qmdl : (attempts k).qmdl = none
  analysis : (attempts k).analysis = none
  gps : (attempts k).gps = none
  absent : ∀ kind ∈ [FileKind.qmdl, .analysis, .gps],
    ¬ s.device.disk.Exists ((s.attemptEntry gpsMode attempts k).getFilepath kind s.store.path)

/-- The attempts after the first are those of the loop that starts one number later. -/
theorem attemptEntry_nextSequence (s : Storage) (gpsMode : GpsMode) (attempts : Nat → EntryIo)
    (k : Nat) :
    s.nextSequence.attemptEntry gpsMode (fun j => attempts (j + 1)) k =
      s.attemptEntry gpsMode attempts (k + 1) := by
  have h : s.device.entrySequence + 1 + UInt64.ofNat k =
      s.device.entrySequence + UInt64.ofNat (k + 1) := by
    rw [UInt64.ofNat_add, UInt64.add_assoc, UInt64.add_comm 1]
    rfl
  simp only [attemptEntry, nextSequence, h]

theorem candidate_eq_attemptEntry (s : Storage) (gpsMode : GpsMode) (attempts : Nat → EntryIo) :
    s.candidate gpsMode (attempts 0) = s.attemptEntry gpsMode attempts 0 := by
  simp [candidate, attemptEntry]

theorem collides_nextSequence {s : Storage} {gpsMode : GpsMode} {attempts : Nat → EntryIo}
    {k : Nat} : s.nextSequence.Collides gpsMode (fun j => attempts (j + 1)) k ↔
      s.Collides gpsMode attempts (k + 1) := by
  simp only [Collides, attemptEntry_nextSequence]
  rfl

theorem claimable_nextSequence {s : Storage} {gpsMode : GpsMode} {attempts : Nat → EntryIo}
    {k : Nat} : s.nextSequence.Claimable gpsMode (fun j => attempts (j + 1)) k ↔
      s.Claimable gpsMode attempts (k + 1) := by
  constructor
  all_goals
    rintro ⟨h₁, h₂, h₃, h₄⟩
    refine ⟨h₁, h₂, h₃, ?_⟩
    simpa only [attemptEntry_nextSequence, nextSequence_store, nextSequence_disk] using h₄

/-- The loop of `new_entry` leaves the store as it is. -/
theorem claimFiles_store (gpsMode : GpsMode) (n : Nat) (attempts : Nat → EntryIo)
    (last : Option IoError) (s : Storage) :
    (claimFiles gpsMode n attempts last s).2.store = s.store := by
  induction n generalizing attempts last s with
  | zero => rfl
  | succ n ih =>
    rw [claimFiles]
    split
    · split
      · rw [ih]; rfl
      · rfl
    · split <;> rfl

/-- The loop creates the files of the first attempt that meets no recording of its name. -/
theorem claimFiles_ok {gpsMode : GpsMode} {n : Nat} {attempts : Nat → EntryIo}
    {last : Option IoError} {s s' : Storage} {entry : ManifestEntry}
    (h : claimFiles gpsMode n attempts last s = (.ok entry, s')) :
    ∃ k < n, (∀ j < k, s.Collides gpsMode attempts j) ∧ s.Claimable gpsMode attempts k ∧
      entry = s.attemptEntry gpsMode attempts k := by
  induction n generalizing attempts last s with
  | zero => simp [claimFiles] at h
  | succ n ih =>
    rw [claimFiles, candidate_eq_attemptEntry] at h
    split at h
    · next e he =>
      split at h
      · next hk =>
        -- the name is taken: the loop goes on from the next number
        obtain ⟨k, hlt, hj, hc, rfl⟩ := ih h
        refine ⟨k + 1, by omega, fun j hj' => ?_, claimable_nextSequence.1 hc,
          attemptEntry_nextSequence ..⟩
        cases j with
        | zero =>
          unfold Collides
          unfold Disk.createNew at he
          cases hq : (attempts 0).qmdl with
          | some e' => simp_all
          | none =>
            rw [hq] at he
            simp only at he ⊢
            split at he
            · assumption
            · cases he
        | succ j => exact collides_nextSequence.1 (hj j (by omega))
      · simp at h
    · next d hd =>
      obtain ⟨hq, hnq, rfl⟩ := Disk.createNew_eq_ok.1 hd
      split at h
      · simp at h
      · next d' hd' =>
        cases h
        obtain ⟨ha, hg, hna, hng⟩ := claimCompanions_ok hd'
        refine ⟨0, by omega, by simp, ⟨hq, ha, hg, ?_⟩, rfl⟩
        -- what was there at the start is there when the later files are created
        intro kind hkind hex
        simp only [List.mem_cons, List.not_mem_nil, or_false] at hkind
        rcases hkind with rfl | rfl | rfl
        · exact hnq hex
        · exact hna hex.set
        · exact hng hex.set.set

end

section
variable [Build] [Toml] [Sidecar]

/-- The files of a new entry are created when `new_entry` is called in `s`. -/
def claims (s : Storage) (gpsMode : GpsMode) (io : NewEntryIo) :
    Except RecordingStoreError ManifestEntry × Storage :=
  claimFiles gpsMode MAX_ATTEMPTS io.attempts none (s.closeOpenEntry io.finish)

/-- What `new_entry` does to the store. Either no entry's files could be created, and the open
entry has been closed; or the new entry is the last one and the current one, and the result is that
of the manifest write. -/
theorem newEntry_cases (s : Storage) (gpsMode : GpsMode) (io : NewEntryIo) :
    (∃ e, (s.claims gpsMode io).1 = .error e ∧ (s.newEntry gpsMode io).1 = .error e ∧
      (s.newEntry gpsMode io).2.store = { s.store with currentEntry := none }) ∨
    (∃ entry, (s.claims gpsMode io).1 = .ok entry ∧
      ((s.newEntry gpsMode io).1 = .ok entry ↔ io.manifest.fault = none) ∧
      ((s.newEntry gpsMode io).1.isOk ↔ io.manifest.fault = none) ∧
      (s.newEntry gpsMode io).2.store =
        { s.store with
          manifest := ⟨s.store.manifest.entries ++ [entry]⟩
          currentEntry := some s.store.manifest.entries.length }) := by
  have hstore : (s.claims gpsMode io).2.store = { s.store with currentEntry := none } := by
    rw [claims, claimFiles_store, closeOpenEntry_store]
  unfold newEntry
  rw [← claims]
  cases hc : s.claims gpsMode io with
  | mk r s' =>
    rw [hc] at hstore
    simp only at hstore
    cases r with
    | error e => exact .inl ⟨e, rfl, rfl, hstore⟩
    | ok entry =>
      right
      refine ⟨entry, rfl, ?_⟩
      unfold writeManifest
      cases io.manifest.fault <;> simp [publish, withEntries, withCurrent, hstore, Except.isOk,
        Except.toBool]

end

/-! ## Removing entries -/

/-- Where the current entry stands once the entry at `i` is taken out. -/
def currentAfterErase (current : Option Nat) (i : Nat) : Option Nat :=
  current.bind fun j => if j = i then none else if i < j then some (j - 1) else some j

section
variable [Sidecar]

theorem releaseEntry_store (s : Storage) (i : Nat) (io : SidecarIo) :
    (s.releaseEntry i io).store =
      { s.store with currentEntry := currentAfterErase s.store.currentEntry i } := by
  obtain ⟨⟨path, manifest, current⟩, device⟩ := s
  cases current with
  | none => rfl
  | some j =>
    simp only [releaseEntry, currentAfterErase, Option.bind_some]
    split
    · rw [closeCurrentEntry_store]
    · split <;> rfl

end

/-- The current entry is the same recording after another has been taken out. -/
theorem getElem?_eraseIdx_currentAfterErase {α : Type} {l : List α} {c : Option Nat} {i j : Nat}
    (h : currentAfterErase c i = some j) : ∃ k, c = some k ∧ k ≠ i ∧ (l.eraseIdx i)[j]? = l[k]? := by
  unfold currentAfterErase at h
  obtain ⟨k, hc, h⟩ := Option.bind_eq_some_iff.1 h
  split at h
  · cases h
  · next hne =>
    refine ⟨k, hc, hne, ?_⟩
    split at h
    · cases h
      rw [List.getElem?_eraseIdx_of_ge (by omega)]
      congr 1
      omega
    · cases h
      exact List.getElem?_eraseIdx_of_lt (by omega)

/-- Taking out an element a search does not want does not change what it finds. -/
theorem find?_eraseIdx {α : Type} {p : α → Bool} {l : List α} {i : Nat} {a : α}
    (ha : l[i]? = some a) (hp : p a = false) : (l.eraseIdx i).find? p = l.find? p := by
  induction l generalizing i with
  | nil => rfl
  | cons b l ih =>
    cases i with
    | zero =>
      obtain rfl : b = a := by simpa using ha
      simp [hp]
    | succ i =>
      rw [List.eraseIdx_cons_succ, List.find?_cons, List.find?_cons, ih (by simpa using ha)]

/-- The loop of `delete_all_entries` keeps the order of the entries. -/
theorem removeEntries_sublist (path : PathBuf) (entries : List ManifestEntry)
    (faults : Nat → FileKind → Option IoError) (d : Disk) :
    (removeEntries path entries faults d).1.Sublist entries := by
  induction entries generalizing faults d with
  | nil => exact .slnil
  | cons e es ih =>
    rw [removeEntries]
    split
    · exact (ih _ _).cons_cons _
    · exact (ih _ _).cons _

section
variable [Toml] [Sidecar]

/-- What `delete_entry` does to the store: nothing where there is no such entry or a file of it
stays; else the first entry with the name is taken out, whatever the manifest write says. -/
theorem deleteEntry_cases (s : Storage) (name : String) (io : DeleteIo) :
    (s.store.entryForName name = none ∧ s.deleteEntry name io = (.error .noSuchEntryError, s)) ∨
    (∃ i entry e, s.store.entryForName name = some (i, entry) ∧
      (s.deleteEntry name io).1 = .error e ∧ (s.deleteEntry name io).2.store = s.store) ∨
    (∃ i entry, s.store.entryForName name = some (i, entry) ∧
      (s.deleteEntry name io).2.store =
        { s.store with
          manifest := ⟨s.store.manifest.entries.eraseIdx i⟩
          currentEntry := currentAfterErase s.store.currentEntry i }) := by
  unfold deleteEntry
  cases hf : s.store.entryForName name with
  | none => exact .inl ⟨rfl, rfl⟩
  | some p =>
    obtain ⟨i, entry⟩ := p
    right
    cases hr : removeFiles entry s.store.path io.files FileKind.ALL s.device.disk with
    | mk r d =>
      cases r with
      | some e => exact .inl ⟨i, entry, .deleteFileError e, rfl, by simp [hr], by simp [hr]⟩
      | none => exact .inr ⟨i, entry, rfl, by simp [hr, releaseEntry_store, withEntries]⟩

/-- What `delete_all_entries` leaves: some of the entries, in order, and none of them current. -/
theorem deleteAllEntries_store (s : Storage) (io : DeleteAllIo) :
    ∃ kept, kept.Sublist s.store.manifest.entries ∧
      (s.deleteAllEntries io).2.store =
        { s.store with manifest := ⟨kept⟩, currentEntry := none } := by
  let s' := s.closeOpenEntry io.finish
  have hs : s'.store = { s.store with currentEntry := none } := closeOpenEntry_store ..
  refine ⟨(removeEntries s'.store.path s'.store.manifest.entries io.files s'.device.disk).1, ?_, ?_⟩
  · have := removeEntries_sublist s'.store.path s'.store.manifest.entries io.files s'.device.disk
    rwa [hs] at this ⊢
  · show ({ s'.store with manifest := _ } : RecordingStore) = _
    rw [hs]

end

end Storage

end Rayhunter
