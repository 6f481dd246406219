import Rayhunter.Recorder.Step
import Rayhunter.Store.Files

/-!
# What a recorder looks like from outside

A recorder has a writer in one object, an index in another and a light on the device. `View` is what
an observer can compare: the capture that is written to, the capture the index stands at, what the
display was last told, the highest severity, and whether the user stopped it. This module says what
each function of the task makes of the view, and of the notes about recordings; the other modules
cite that and do not unfold the functions.
-/

namespace Rayhunter

open Storage

/-! ## The capture of the current entry -/

/-- The capture the current entry stands at, where there is a current entry. -/
def RecordingStore.capture (store : RecordingStore) : Option (Option FilePath) :=
  store.currentEntry.map fun i =>
    (store.manifest.entries[i]?).map fun e => e.getFilepath .qmdl store.path

namespace RecordingStore

theorem capture_eq_none {store : RecordingStore} :
    store.capture = none ↔ store.currentEntry = none := by
  simp [capture]

theorem capture_eq_some {store : RecordingStore} {p : FilePath} :
    store.capture = some (some p) ↔ ∃ i e, store.currentEntry = some i ∧
      store.manifest.entries[i]? = some e ∧ p = e.getFilepath .qmdl store.path := by
  simp only [capture, Option.map_eq_some_iff]
  constructor
  · rintro ⟨i, hi, e, he, rfl⟩
    exact ⟨i, e, hi, he, rfl⟩
  · rintro ⟨i, e, hi, he, rfl⟩
    exact ⟨i, hi, e, he, rfl⟩

theorem capture_of_getCurrentEntry {store : RecordingStore} {i : Nat} {e : ManifestEntry}
    (h : store.getCurrentEntry = some (i, e)) :
    store.capture = some (some (e.getFilepath .qmdl store.path)) := by
  obtain ⟨hi, he⟩ := getCurrentEntry_eq_some.1 h
  exact capture_eq_some.2 ⟨i, e, hi, he, rfl⟩

/-- Stores with the same recordings have the same capture. -/
theorem Same.capture {a b : RecordingStore} (h : a.Same b) : a.capture = b.capture := by
  unfold RecordingStore.capture
  rw [h.current]
  cases hc : b.currentEntry with
  | none => rfl
  | some i =>
    have hk : a.keys[i]? = b.keys[i]? := by rw [h.keys]
    simp only [RecordingStore.keys, List.getElem?_map] at hk
    cases hb : b.manifest.entries[i]? with
    | none => rw [hb] at hk; simp_all
    | some e =>
      obtain ⟨e', he', hkey⟩ := h.getElem? hb
      simp [hb, he', h.path, ManifestEntry.getFilepath_congr hkey]

/-- The entry a name is found at is not the current one where the current one has another name. -/
theorem currentEntry_ne_of_isCurrentEntry {store : RecordingStore} {name : String} {i : Nat}
    {e : ManifestEntry} (h : store.isCurrentEntry name = false)
    (hf : store.entryForName name = some (i, e)) : store.currentEntry ≠ some i := by
  intro hc
  obtain ⟨-, hget, hname⟩ := entryForName_eq_some hf
  rw [isCurrentEntry, getCurrentEntry_eq_some.2 ⟨hc, hget⟩] at h
  simp [hname] at h

/-- Taking out another recording leaves the capture. -/
theorem capture_eraseIdx {store : RecordingStore} {i : Nat} (h : store.currentEntry ≠ some i) :
    RecordingStore.capture
      { store with
        manifest := ⟨store.manifest.entries.eraseIdx i⟩
        currentEntry := currentAfterErase store.currentEntry i } = store.capture := by
  unfold RecordingStore.capture
  cases hc : store.currentEntry with
  | none => rfl
  | some j =>
    have hne : j ≠ i := fun heq => h (by rw [hc, heq])
    obtain ⟨k, hk⟩ : ∃ k, currentAfterErase (some j) i = some k := by
      simp only [currentAfterErase, Option.bind_some, if_neg hne]
      split <;> exact ⟨_, rfl⟩
    obtain ⟨j', hj', -, hget⟩ :=
      getElem?_eraseIdx_currentAfterErase (l := store.manifest.entries) hk
    cases hj'
    simp [hk, hget]

end RecordingStore

namespace Storage

section
variable [Toml] [Sidecar]

/-- Deleting a recording of another name leaves the capture. -/
theorem deleteEntry_capture {s : Storage} {name : String}
    (h : s.store.isCurrentEntry name = false) (io : DeleteIo) :
    (s.deleteEntry name io).2.store.capture = s.store.capture := by
  rcases s.deleteEntry_cases name io with ⟨-, heq⟩ | ⟨_, _, _, -, -, heq⟩ | ⟨i, e, hf, heq⟩
  · rw [heq]
  · rw [heq]
  · rw [heq]
    exact RecordingStore.capture_eraseIdx
      (RecordingStore.currentEntry_ne_of_isCurrentEntry h hf)

/-- Pruning leaves the capture, since the recording being written is exempt. -/
theorem prune_capture [SerdeJson] (s : Storage) (targetMb : UInt64) (uploadsConfigured : Bool)
    (io : PruneIo) : (pruneCleanRecordings s targetMb uploadsConfigured io).2.store.capture =
      s.store.capture := by
  refine pruneCleanRecordings_induction (P := fun s' => s'.store.capture = s.store.capture)
    (fun s' name i e report io h hf hv => ?_) targetMb io rfl
  obtain ⟨e', hget, hexempt, -⟩ := verdictFor_eq_clean.1 hv
  obtain ⟨-, hget', rfl⟩ := RecordingStore.entryForName_eq_some hf
  rw [hget] at hget'
  cases hget'
  rw [deleteEntry_capture (Bool.eq_false_iff.2 fun hc => hexempt (.inl hc)), h]

theorem deleteAllEntries_capture (s : Storage) (io : DeleteAllIo) :
    (s.deleteAllEntries io).2.store.capture = none := by
  obtain ⟨kept, -, hst⟩ := s.deleteAllEntries_store io
  rw [RecordingStore.capture_eq_none, hst]

omit [Toml] in
theorem closeCurrentEntry_capture (s : Storage) (io : SidecarIo) :
    (s.closeCurrentEntry io).2.store.capture = none := by
  rw [RecordingStore.capture_eq_none, closeCurrentEntry_store]

/-- What `new_entry` does to the capture. Where no entry's files can be claimed there is none
afterwards; else it is that of the new entry, which is also returned where the manifest can be
written. -/
theorem newEntry_capture [Build] (s : Storage) (gpsMode : GpsMode) (io : NewEntryIo) :
    (¬ s.CanClaim gpsMode io ∧ (∃ e, (s.newEntry gpsMode io).1 = .error e) ∧
      (s.newEntry gpsMode io).2.store.capture = none) ∨
    (s.CanClaim gpsMode io ∧ ∃ entry,
      (s.newEntry gpsMode io).2.store.capture =
        some (some (entry.getFilepath .qmdl (s.newEntry gpsMode io).2.store.path)) ∧
      (io.manifest.fault = none → (s.newEntry gpsMode io).1 = .ok entry) ∧
      (io.manifest.fault ≠ none → ∃ e, (s.newEntry gpsMode io).1 = .error e)) := by
  rcases s.newEntry_cases gpsMode io with ⟨e, hcl, hres, hst⟩ | ⟨entry, hcl, hok, hisOk, hst⟩
  · refine .inl ⟨fun hcan => ?_, ⟨e, hres⟩, RecordingStore.capture_eq_none.2 (by rw [hst])⟩
    obtain ⟨entry, hentry⟩ := (s.claims_isOk gpsMode io).2 hcan
    rw [hcl] at hentry
    cases hentry
  · refine .inr ⟨(s.claims_isOk gpsMode io).1 ⟨entry, hcl⟩, entry, ?_, hok.2, fun hf => ?_⟩
    · rw [RecordingStore.capture_eq_some, hst]
      exact ⟨_, entry, rfl, by simp, rfl⟩
    · cases hr : (s.newEntry gpsMode io).1 with
      | error e => exact ⟨e, rfl⟩
      | ok entry' => exact absurd (hisOk.1 (by rw [hr]; rfl)) hf

end

end Storage

/-! ## The view -/

/-- What can be compared from outside: the capture that is written to, the capture of the current
entry, the last message to the display, the highest severity, and whether the user stopped the
recording. -/
structure View where
  writer : Option FilePath
  current : Option (Option FilePath)
  shown : Option DisplayState
  severity : EventType
  stoppedByUser : Bool

namespace View

/-- Nothing is written to, and no entry is current. -/
def closed (v : View) : View := { v with writer := none, current := none }

/-- The display has been told something. -/
def showing (v : View) (d : DisplayState) : View := { v with shown := some d }

/-- Nothing is written to, and the display says so. -/
def halted (v : View) : View := v.closed.showing .paused

/-- A severity has become known: it is shown where it is the highest so far. -/
def raised (v : View) (maxType : EventType) : View :=
  if v.severity < maxType then { v with severity := maxType }.showing (.warningDetected maxType)
  else v

theorem raised_cases (v : View) (maxType : EventType) :
    v.raised maxType = v ∨ (v.severity < maxType ∧
      v.raised maxType = { v with severity := maxType }.showing (.warningDetected maxType)) := by
  unfold raised
  split
  · next h => exact .inr ⟨h, rfl⟩
  · exact .inl rfl

end View

namespace Recorder

variable [Decoders] [Detectors]

/-- The view of a recorder. -/
def view (r : Recorder) : View where
  writer := r.task.state.writerPath?
  current := r.storage.store.capture
  shown := r.display.head?
  severity := r.task.maxTypeSeen
  stoppedByUser := r.task.stoppedByUser

/-- A recorder with another store has its capture. -/
@[simp] theorem view_withStorage (r : Recorder) (s : Storage) :
    (r.withStorage s).view = { r.view with current := s.store.capture } := rfl

@[simp] theorem view_withDisk (r : Recorder) (d : Disk) : (r.withDisk d).view = r.view := rfl

@[simp] theorem view_withState (r : Recorder) (s : DiagState) :
    (r.withState s).view = { r.view with writer := s.writerPath? } := rfl

@[simp] theorem view_withMaxTypeSeen (r : Recorder) (t : EventType) :
    (r.withMaxTypeSeen t).view = { r.view with severity := t } := rfl

@[simp] theorem view_withStartedAt (r : Recorder) (startedAt : Option Instant) :
    (r.withStartedAt startedAt).view = r.view := rfl

@[simp] theorem view_withSpaceCheck (r : Recorder) (bytes : Nat) (warned : Bool) :
    (r.withSpaceCheck bytes warned).view = r.view := rfl

@[simp] theorem view_withStoppedByUser (r : Recorder) (stopped : Bool) :
    (r.withStoppedByUser stopped).view = { r.view with stoppedByUser := stopped } := rfl

@[simp] theorem view_showOn (r : Recorder) (d : DisplayState) :
    (r.showOn d).view = r.view.showing d := rfl

@[simp] theorem view_notify (r : Recorder) (n : Notification) : (r.notify n).view = r.view := rfl

@[simp] theorem view_note (r : Recorder) (kind : NoteKind) (writer : Option FilePath) :
    (r.note kind writer).view = r.view := by
  unfold note
  split <;> rfl

@[simp] theorem storage_note (r : Recorder) (kind : NoteKind) (writer : Option FilePath) :
    (r.note kind writer).storage = r.storage := by
  unfold note
  split <;> rfl

@[simp] theorem task_note (r : Recorder) (kind : NoteKind) (writer : Option FilePath) :
    (r.note kind writer).task = r.task := by
  unfold note
  split <;> rfl

/-- A recorder whose store has the same recordings looks the same. -/
theorem view_withStorage_of_capture {r : Recorder} {s : Storage}
    (h : s.store.capture = r.storage.store.capture) : (r.withStorage s).view = r.view := by
  rw [view_withStorage, h]
  rfl

/-- A recorder records where it has a writer. -/
theorem isRecording_eq (r : Recorder) : r.task.state.isRecording = r.view.writer.isSome := by
  unfold view
  cases r.task.state <;> rfl

end Recorder

end Rayhunter
