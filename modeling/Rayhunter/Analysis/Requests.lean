import Mathlib.Data.List.Nodup
import Rayhunter.Analysis.Worker

/-!
# A request for every recording

`start_analysis` with no name (`daemon/src/analysis.rs:335`) goes over the recordings other than the
current one and queues them in `Iterator::any`, which stops at the first it has queued. So it queues
one of those that are not queued or running yet, the first in the manifest (`queueAny_eq`), and all
of them where there is no other (`startAnalysis_all_iff`).
-/

namespace Rayhunter

/-- The recordings other than the current one, in the order of the manifest (`analysis.rs:336`). -/
def RecordingStore.others (store : RecordingStore) : List String :=
  match store.currentEntry with
  | some i => store.names.eraseIdx i
  | none => store.names

namespace AnalysisStatus

/-- `start_analysis` (`analysis.rs:329`): what is sent to the worker, and the status after it. -/
def startAnalysis (status : AnalysisStatus) (store : RecordingStore) (name : String) :
    List AnalysisCtrlMessage × AnalysisStatus :=
  match status.request store name with
  | (true, status) => ([.newFilesQueued], status)
  | (false, status) => ([], status)

/-- The recordings that may be queued: not the current one, and not queued or running yet. -/
def pending (status : AnalysisStatus) (store : RecordingStore) : List String :=
  store.others.filter fun name => ¬ status.Busy name

theorem mem_pending {status : AnalysisStatus} {store : RecordingStore} {name : String} :
    name ∈ status.pending store ↔ name ∈ store.others ∧ ¬ status.Busy name := by
  simp [pending]

/-- Names are put at the end of the queue. -/
def push (status : AnalysisStatus) (names : List String) : AnalysisStatus :=
  { status with queued := status.queued ++ names }

theorem push_nil (status : AnalysisStatus) : status.push [] = status := by
  rw [push, List.append_nil]

theorem push_inj {status : AnalysisStatus} {ms ns : List String} :
    status.push ms = status.push ns ↔ ms = ns := by
  refine ⟨fun h => ?_, congrArg status.push⟩
  exact List.append_cancel_left (congrArg AnalysisStatus.queued h)

theorem queueQmdl_of_busy {status : AnalysisStatus} {name : String} (h : status.Busy name) :
    status.queueQmdl name = (false, status) := if_pos h

theorem queueQmdl_of_not_busy {status : AnalysisStatus} {name : String} (h : ¬ status.Busy name) :
    status.queueQmdl name = (true, status.push [name]) := if_neg h

/-- The first name that is not there yet is queued, and no more. -/
theorem queueAny_eq (status : AnalysisStatus) (names : List String) :
    status.queueAny names =
      match names.filter fun name => ¬ status.Busy name with
      | [] => (false, status)
      | name :: _ => (true, status.push [name]) := by
  induction names with
  | nil => rfl
  | cons name names ih =>
    rw [queueAny]
    by_cases hbusy : status.Busy name
    · rw [queueQmdl_of_busy hbusy, List.filter_cons_of_neg (by simpa using hbusy)]
      exact ih
    · rw [queueQmdl_of_not_busy hbusy, List.filter_cons_of_pos (by simpa using hbusy)]

/-- What a request with no name sends and queues. -/
theorem startAnalysis_eq (status : AnalysisStatus) (store : RecordingStore) :
    status.startAnalysis store "" =
      match status.pending store with
      | [] => ([], status)
      | name :: _ => ([.newFilesQueued], status.push [name]) := by
  have hrequest : status.request store "" = status.queueAny store.others := rfl
  rw [startAnalysis, hrequest, queueAny_eq, ← pending]
  cases status.pending store <;> rfl

/-- Every recording that may be queued is, once, and a message is sent for each. -/
def QueuesAll (status : AnalysisStatus) (store : RecordingStore) : Prop :=
  ∃ names, names.Nodup ∧ (∀ name, name ∈ names ↔ name ∈ store.others ∧ ¬ status.Busy name) ∧
    status.startAnalysis store "" =
      (List.replicate names.length .newFilesQueued, status.push names)

/-- **A request with no name queues every recording** exactly where there are no two to be queued.
-/
theorem startAnalysis_all_iff (status : AnalysisStatus) (store : RecordingStore) :
    status.QueuesAll store ↔
      ∀ a b, (a ∈ store.others ∧ ¬ status.Busy a) → (b ∈ store.others ∧ ¬ status.Busy b) →
        a = b := by
  simp only [QueuesAll, ← mem_pending, startAnalysis_eq]
  constructor
  · rintro ⟨names, -, hmem, h⟩ a b ha hb
    cases hp : status.pending store with
    | nil => rw [hp] at ha; cases ha
    | cons name rest =>
      rw [hp] at h
      obtain rfl : [name] = names := push_inj.1 (Prod.mk.inj h).2
      rw [← hmem, List.mem_singleton] at ha hb
      rw [ha, hb]
  · intro h
    cases hp : status.pending store with
    | nil => exact ⟨[], .nil, fun _ => Iff.rfl, by rw [push_nil]; rfl⟩
    | cons name rest =>
      have hname : name ∈ status.pending store := hp ▸ List.mem_cons_self ..
      refine ⟨[name], List.nodup_singleton name, fun other => ?_, rfl⟩
      rw [List.mem_singleton, ← hp]
      exact ⟨fun heq => heq ▸ hname, fun hother => h other name hother hname⟩

/-- Two recordings that are not being made. -/
def twoRecordings : RecordingStore where
  path := defaultStorePath
  manifest := ⟨[@ManifestEntry.new deviceBuild .disabled anInstant 0,
    @ManifestEntry.new deviceBuild .disabled anInstant 1]⟩
  currentEntry := none

/-- Of two recordings, one is queued. -/
theorem startAnalysis_one_of_two :
    ¬ ∀ (status : AnalysisStatus) (store : RecordingStore), status.QueuesAll store := by
  intro h
  obtain ⟨names, -, hmem, heq⟩ := h (.new twoRecordings) twoRecordings
  have hstart : (AnalysisStatus.new twoRecordings).startAnalysis twoRecordings "" =
      ([.newFilesQueued], (AnalysisStatus.new twoRecordings).push ["1724038434-0"]) := by decide
  have hnames : ["1724038434-0"] = names := push_inj.1 (Prod.mk.inj (hstart.symm.trans heq)).2
  have hother : "1724038434-1" ∈ names := (hmem _).2 (by decide)
  rw [← hnames] at hother
  exact absurd hother (by decide)

end AnalysisStatus

end Rayhunter
