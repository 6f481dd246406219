import Mathlib.Logic.Function.Basic
import Rayhunter.Analysis.Serving

/-!
# The page's analysis manager

`AnalysisManager` of `daemon/web/src/lib/analysisManager.svelte.ts`: the page asks the daemon every
second what is queued, running and finished, and fetches the report of a recording that it did not
know to be finished. The daemon lists a recording as finished from its first analysis on, so while
it is analysed again it is both; the page is then told that it is running and, in the same answer,
that it is finished. The page ends up with the report of the last analysis exactly in the runs whose
polls do not fall so (`finished_report_iff`).
-/

namespace Rayhunter

open Runs

/-! ## The manager -/

/-- `AnalysisStatus` of the page (`analysisManager.svelte.ts:4`). -/
inductive AnalysisManager.Status
  | running
  | queued
  | finished
  deriving DecidableEq, Repr

/-- A report on its way to the page, and when it was asked for. -/
structure ReportFetch where
  name : String
  requestedAt : Nat
  deriving DecidableEq, Repr

/-- `AnalysisManager` (`analysisManager.svelte.ts:25`). A report, or the text of an error, is kept
with the moment it was asked for, of which the page knows nothing. -/
structure AnalysisManager (ρ : Type) where
  status : String → Option AnalysisManager.Status := fun _ => none
  reports : String → Option (Nat × Except String ρ) := fun _ => none

namespace AnalysisManager

variable {ρ : Type}

/-- `this.status.set`. -/
def setStatus (m : AnalysisManager ρ) (name : String) (s : Status) : AnalysisManager ρ :=
  { m with status := Function.update m.status name (some s) }

/-- `this.reports.delete`. -/
def deleteReport (m : AnalysisManager ρ) (name : String) : AnalysisManager ρ :=
  { m with reports := Function.update m.reports name none }

/-- `set_queued_status` (`analysisManager.svelte.ts:28`). -/
def setQueuedStatus (m : AnalysisManager ρ) (name : String) : AnalysisManager ρ :=
  (m.setStatus name .queued).deleteReport name

/-- What `update` does with the names of the answer that are not finished
(`analysisManager.svelte.ts:35`). The empty name is no name to it. -/
def markUnfinished (m : AnalysisManager ρ) (answer : AnalysisStatus) : AnalysisManager ρ :=
  let m := match answer.running with
    | some name => if name.isEmpty then m else m.setStatus name .running
    | none => m
  answer.queued.foldl (fun m name => m.setStatus name .queued) m

/-- What `update` does with those that are (`analysisManager.svelte.ts:43`), and the reports it asks
for. -/
def markFinished (m : AnalysisManager ρ) (now : Nat) :
    List String → AnalysisManager ρ × List ReportFetch
  | [] => (m, [])
  | name :: names =>
    if m.status name = some .finished then m.markFinished now names
    else
      let (m, fetches) := ((m.setStatus name .finished).deleteReport name).markFinished now names
      (m, ⟨name, now⟩ :: fetches)

/-- `update`, when the answer is there (`analysisManager.svelte.ts:33`). -/
def update (m : AnalysisManager ρ) (now : Nat) (answer : AnalysisStatus) :
    AnalysisManager ρ × List ReportFetch :=
  (m.markUnfinished answer).markFinished now answer.finished

/-- A report has come, or an error (`analysisManager.svelte.ts:54`). -/
def setReport (m : AnalysisManager ρ) (fetch : ReportFetch) (result : Except String ρ) :
    AnalysisManager ρ :=
  let result := match result with
    | .ok report => .ok report
    | .error e => .error s!"Failed to get analysis: {e}"
  { m with reports := Function.update m.reports fetch.name (some (fetch.requestedAt, result)) }

theorem foldl_setStatus_reports (m : AnalysisManager ρ) (names : List String) (s : Status) :
    (names.foldl (fun m name => m.setStatus name s) m).reports = m.reports := by
  induction names generalizing m with
  | nil => rfl
  | cons name names ih => exact ih _

theorem foldl_setStatus_status (m : AnalysisManager ρ) (names : List String) (s : Status)
    (name : String) : (names.foldl (fun m name => m.setStatus name s) m).status name =
      if name ∈ names then some s else m.status name := by
  induction names generalizing m with
  | nil => rfl
  | cons first names ih =>
    rw [List.foldl_cons, ih]
    by_cases h : name ∈ names
    · simp [h]
    · by_cases heq : name = first
      · subst heq
        simp [setStatus]
      · simp [h, heq, setStatus]

@[simp] theorem markUnfinished_reports (m : AnalysisManager ρ) (answer : AnalysisStatus) :
    (m.markUnfinished answer).reports = m.reports := by
  unfold markUnfinished
  rw [foldl_setStatus_reports]
  split
  · split <;> rfl
  · rfl

/-- A name is queued, running, or as it was; it is as it was where the answer does not have it. -/
theorem markUnfinished_status (m : AnalysisManager ρ) (answer : AnalysisStatus) (name : String) :
    (m.markUnfinished answer).status name =
      if name ∈ answer.queued then some .queued
      else if answer.running = some name ∧ name ≠ "" then some .running else m.status name := by
  unfold markUnfinished
  rw [foldl_setStatus_status]
  congr 1
  cases answer.running with
  | none => simp
  | some running =>
    by_cases hempty : running = ""
    · subst hempty
      by_cases hname : "" = name
      · simp [← hname]
      · simp [hname]
    · have hne : ¬ running.isEmpty = true := by simpa [String.isEmpty_iff] using hempty
      by_cases hname : running = name
      · subst hname
        simp [hempty, setStatus]
      · simp [hname, hne, setStatus, Function.update_of_ne (Ne.symm hname)]

/-- Every name that is finished is marked so; those that were not lose their report, and it is
fetched. -/
theorem markFinished_spec (m : AnalysisManager ρ) (now : Nat) (names : List String) :
    (∀ name, (m.markFinished now names).1.status name =
      if name ∈ names then some .finished else m.status name) ∧
    (∀ name, (m.markFinished now names).1.reports name =
      if name ∈ names ∧ m.status name ≠ some .finished then none else m.reports name) ∧
    ∀ fetch, fetch ∈ (m.markFinished now names).2 ↔ fetch.requestedAt = now ∧
      fetch.name ∈ names ∧ m.status fetch.name ≠ some .finished := by
  induction names generalizing m with
  | nil => simp [markFinished]
  | cons first names ih =>
    rw [markFinished]
    by_cases hfirst : m.status first = some .finished
    · obtain ⟨hstatus, hreports, hfetches⟩ := ih m
      rw [if_pos hfirst]
      refine ⟨fun name => ?_, fun name => ?_, fun fetch => ?_⟩
      · rw [hstatus]
        by_cases hname : name = first
        · simp [hname, hfirst]
        · simp [hname]
      · rw [hreports]
        by_cases hname : name = first
        · simp [hname, hfirst]
        · simp [hname]
      · rw [hfetches]
        by_cases hname : fetch.name = first
        · simp [hname, hfirst]
        · simp [hname]
    · obtain ⟨hstatus, hreports, hfetches⟩ := ih ((m.setStatus first .finished).deleteReport first)
      have hself : ((m.setStatus first .finished).deleteReport first).status first =
          some .finished := by
        simp [setStatus, deleteReport]
      have hother : ∀ name, name ≠ first →
          ((m.setStatus first .finished).deleteReport first).status name = m.status name := by
        intro name hne
        simp [setStatus, deleteReport, Function.update_of_ne hne]
      rw [if_neg hfirst]
      refine ⟨fun name => ?_, fun name => ?_, fun fetch => ?_⟩
      · rw [hstatus]
        by_cases hname : name = first
        · simp [hname, hself]
        · simp [hname, hother name hname]
      · rw [hreports]
        by_cases hname : name = first
        · simp [hname, hfirst, deleteReport]
        · simp [hname, deleteReport, setStatus]
      · rw [List.mem_cons, hfetches]
        obtain ⟨name, requestedAt⟩ := fetch
        by_cases hname : name = first
        · subst hname
          simp [hself, hfirst]
        · simp [hname, hother name hname]

end AnalysisManager

/-! ## With the daemon -/

variable [Decoders] [Detectors] [Gzip] [SerdeJson] [Chrono]

/-- The daemon and a page: its manager, the answers on their way to it, in any order, the reports it
fetches, and the recordings its button was pressed for where the daemon's answer is still to come.
`clock` counts the steps, `ended` has for each recording when its last re-analysis ended, and
`polled` when the manager handled the last poll. -/
structure Page (ρ : Type) where
  thread : AnalysisThread
  manager : AnalysisManager ρ := {}
  answers : List AnalysisStatus := []
  fetches : List ReportFetch := []
  pressed : List String := []
  clock : Nat := 0
  ended : String → Option Nat := fun _ => none
  polled : Option Nat := none

/-- The steps: those of the daemon, a poll answered by it and handled by the manager, a report that
comes, the button, and the daemon's answer to it handled. -/
inductive PageStep (ρ : Type)
  | daemon (step : ThreadStep)
  | answer
  | handle (k : Nat)
  | arrive (k : Nat) (result : Except String ρ)
  | press (name : String)
  | accepted (k : Nat)

namespace Page

variable {ρ : Type}

/-- The recording whose re-analysis ends with a step of the daemon. -/
def endOf (thread : AnalysisThread) : ThreadStep → Option String
  | .worker .finish => thread.status.running
  | _ => none

/-- When the last re-analysis of each recording ended, after a step of the daemon. -/
def endedAfter (x : Page ρ) (e : ThreadStep) : String → Option Nat :=
  match endOf x.thread e with
  | some name => Function.update x.ended name (some x.clock)
  | none => x.ended

/-- The manager handles the answer at `k`. -/
def handle (x : Page ρ) (k : Nat) (answer : AnalysisStatus) : Page ρ :=
  let (manager, fetches) := x.manager.update x.clock answer
  { x with
    manager
    answers := x.answers.eraseIdx k
    fetches := x.fetches ++ fetches
    clock := x.clock + 1
    polled := some x.clock }

/-- One step. -/
def step [Build] [Sidecar] (config : AnalyzerConfig) (x : Page ρ) : PageStep ρ → Option (Page ρ)
  | .daemon e =>
    (x.thread.step config e).map fun thread =>
      { x with thread, clock := x.clock + 1, ended := x.endedAfter e }
  | .answer => some { x with answers := x.answers ++ [x.thread.status], clock := x.clock + 1 }
  | .handle k =>
    x.answers[k]?.map (x.handle k)
  | .arrive k result =>
    x.fetches[k]?.map fun fetch =>
      { x with
        manager := x.manager.setReport fetch result
        fetches := x.fetches.eraseIdx k
        clock := x.clock + 1 }
  | .press name =>
    (x.thread.step config (.startAnalysis name)).map fun thread =>
      { x with thread, pressed := x.pressed ++ [name], clock := x.clock + 1 }
  | .accepted k =>
    x.pressed[k]?.map fun name =>
      { x with
        manager := x.manager.setQueuedStatus name
        pressed := x.pressed.eraseIdx k
        clock := x.clock + 1 }

/-- A page that has just been loaded, at any moment of the daemon's life. -/
def Loaded [Build] [Sidecar] (config : AnalyzerConfig) (x : Page ρ) : Prop :=
  Reach AnalysisThread.Init (AnalysisThread.step config) (fun _ _ => True) x.thread ∧
    x = { thread := x.thread }

end Page

/-! ## What is claimed of it -/

namespace Page

variable {ρ : Type}

/-- The last re-analysis of a recording ended at this moment. -/
def EndedAt (x : Page ρ) (name : String) (t : Nat) : Prop :=
  x.ended name = some t ∧ ¬ x.thread.status.Busy name

/-- A poll has been handled since. -/
def PolledSince (x : Page ρ) (t : Nat) : Prop := ∃ p, x.polled = some p ∧ t < p

/-- When the reports of a recording that the manager holds or is fetching were asked for. -/
def Asked (x : Page ρ) (name : String) (r : Nat) : Prop :=
  (∃ result, x.manager.reports name = some (r, result)) ∨ ⟨name, r⟩ ∈ x.fetches

/-- The report the manager holds or is fetching was asked for after that moment. -/
def Fresh (x : Page ρ) (name : String) (t : Nat) : Prop :=
  (∃ r, x.Asked name r) ∧ ∀ r, x.Asked name r → t < r

/-- What the page should do: after the first poll handled once a recording's last re-analysis has
ended, its report was asked for after that, and a poll that names it as queued or running does not
leave it marked finished. -/
structure Shows (x : Page ρ) (e : PageStep ρ) (y : Page ρ) : Prop where
  fresh : ∀ name t, y.EndedAt name t → y.PolledSince t → y.Fresh name t
  unfinished : ∀ k answer name, e = .handle k → x.answers[k]? = some answer → answer.Busy name →
    y.manager.status name ≠ some .finished

/-- The polls that are handled so. -/
structure Meets (x : Page ρ) (answer : AnalysisStatus) : Prop where
  apart : ∀ name, answer.Busy name → name ∉ answer.finished
  unnamed : answer.running = some "" → "" ∉ answer.queued → x.manager.status "" ≠ some .finished
  first : ∀ name t, x.EndedAt name t → ¬ x.PolledSince t → name ∈ answer.finished ∧
    x.manager.status name ≠ some .finished ∧ ∀ fetch ∈ x.fetches, fetch.name ≠ name

/-- The steps in question. -/
def Timely (x : Page ρ) : PageStep ρ → Prop
  | .handle k => ∀ answer, x.answers[k]? = some answer → x.Meets answer
  | .accepted k => ∀ name t, x.pressed[k]? = some name → x.EndedAt name t → x.PolledSince t →
      ∃ fetch ∈ x.fetches, fetch.name = name
  | _ => True

end Page

/-! ## The daemon's side -/

namespace AnalysisThread

variable [Build] [Sidecar] {config : AnalyzerConfig}

/-- What the worker says it has in hand it has, as long as it is there. -/
def Honest (t : AnalysisThread) : Prop :=
  t.phase = .panicked ∨ t.status.running = t.phase.name

omit [Gzip] [SerdeJson] [Chrono] [Build] [Sidecar] in
theorem Honest.of_phase {t : AnalysisThread} (h : t.Honest) {phase : WorkerPhase}
    (hp : t.phase = phase) (hne : phase ≠ .panicked) : t.status.running = phase.name := by
  rcases h with h | h
  · exact absurd (hp.symm.trans h) hne
  · rw [h, hp]

/-- A step of the worker keeps it so, and takes no recording from those that are busy but the one
that it finishes. -/
theorem Honest.work {t t' : AnalysisThread} (h : t.Honest) {w : WorkerStep}
    (hst : t.work config w = some t') : t'.Honest ∧ ∀ name, ¬ t'.status.Busy name →
      ¬ t.status.Busy name ∨ Page.endOf t (.worker w) = some name := by
  cases w with
  | recv =>
    simp only [AnalysisThread.work] at hst
    split at hst
    · next hp =>
      have hrunning := h.of_phase hp (by simp)
      unfold recv at hst
      split at hst
      · cases hst
      · cases hst; exact ⟨.inr hrunning, fun _ hname => .inl hname⟩
      · cases hst; exact ⟨.inr (by rw [hp]; exact hrunning), fun _ hname => .inl hname⟩
      · cases hst; exact ⟨.inr hrunning, fun _ hname => .inl hname⟩
    · cases hst
  | count =>
    simp only [AnalysisThread.work] at hst
    split at hst
    · next hp =>
      have hrunning := h.of_phase hp (by simp)
      cases hst
      exact ⟨.inr hrunning, fun _ hname => .inl hname⟩
    · cases hst
  | dequeue =>
    simp only [AnalysisThread.work] at hst
    split at hst
    · next left hp =>
      have hrunning : t.status.running = none := h.of_phase hp (by simp)
      cases hst
      unfold dequeue
      split
      · exact ⟨.inl rfl, fun _ hname => .inl hname⟩
      · next first queued hq =>
        rw [hrunning]
        refine ⟨.inr rfl, fun name hname => .inl ?_⟩
        rintro (hmem | hrun)
        · rw [hq] at hmem
          rcases List.mem_cons.1 hmem with rfl | hmem
          · exact hname (.inr rfl)
          · exact hname (.inl hmem)
        · rw [hrunning] at hrun
          cases hrun
    · cases hst
  | openRecording io probe =>
    simp only [AnalysisThread.work] at hst
    split at hst
    · next left name hp =>
      have hrunning := h.of_phase hp (by simp)
      cases hst
      unfold openRecording
      simp only
      split
      · exact ⟨.inr hrunning, fun _ hname => .inl hname⟩
      · exact ⟨.inr hrunning, fun _ hname => .inl hname⟩
    · cases hst
  | metadata deviceMetadata readFault fault =>
    simp only [AnalysisThread.work] at hst
    split at hst
    · next left name j hp hj =>
      have hrunning := h.of_phase hp (by simp)
      split at hst
      · cases hst
        refine ⟨.inr ?_, fun _ hname => .inl hname⟩
        unfold AnalysisThread.metadata
        simp only
        split <;> exact hrunning
      · cases hst
    · cases hst
  | packet readFault fault =>
    simp only [AnalysisThread.work] at hst
    split at hst
    · next left name j hp hj =>
      have hrunning := h.of_phase hp (by simp)
      obtain ⟨w, -, rfl⟩ := Option.map_eq_some_iff.1 hst
      unfold packet
      split
      · refine ⟨.inr ?_, fun _ hname => .inl hname⟩
        simp only
        split <;> exact hrunning
      · exact ⟨.inl rfl, fun _ hname => .inl hname⟩
    · cases hst
  | finish =>
    simp only [AnalysisThread.work] at hst
    split at hst
    · next left finished hp =>
      have hrunning : t.status.running = some finished := h.of_phase hp (by simp)
      cases hst
      unfold finish
      rw [hrunning]
      refine ⟨.inr rfl, fun name hname => ?_⟩
      by_cases heq : finished = name
      · subst heq
        exact .inr hrunning
      · left
        rintro (hmem | hrun)
        · exact hname (.inl hmem)
        · rw [hrunning] at hrun
          exact heq (Option.some.inj hrun)
    · cases hst

/-- So does every step of the daemon. -/
theorem Honest.step {t t' : AnalysisThread} (h : t.Honest) {e : ThreadStep}
    (hst : t.step config e = some t') : t'.Honest ∧ ∀ name, ¬ t'.status.Busy name →
      ¬ t.status.Busy name ∨ Page.endOf t e = some name := by
  have hsend : ∀ {u : AnalysisThread} {message}, u.Honest →
      (∀ name, t.status.Busy name → u.status.Busy name) → u.send message = some t' →
      t'.Honest ∧ ∀ name, ¬ t'.status.Busy name →
        ¬ t.status.Busy name ∨ Page.endOf t e = some name := by
    intro u message hu hbusy hst
    unfold send at hst
    split at hst
    · cases hst
      exact ⟨hu, fun name hname => .inl fun hb => hname (hbusy name hb)⟩
    · cases hst
  cases e with
  | startAnalysis name =>
    simp only [AnalysisThread.step] at hst
    rcases t.status.request_cases t.system.storage.store name with hq | ⟨name', -, hq⟩
    · rw [hq] at hst
      cases hst
      exact ⟨h, fun _ hname => .inl hname⟩
    · rw [hq] at hst
      let u := { t with status := { t.status with queued := t.status.queued ++ [name'] } }
      refine hsend (u := u) h ?_ hst
      rintro name (hmem | hrun)
      · exact .inl (List.mem_append_left _ hmem)
      · exact .inr hrun
  | recordingFinished name => exact hsend h (fun _ hb => hb) hst
  | exit => exact hsend h (fun _ hb => hb) hst
  | others s =>
    cases hst
    exact ⟨h, fun _ hname => .inl hname⟩
  | worker w => exact h.work hst

theorem honest_of_reach {t : AnalysisThread}
    (h : Reach Init (AnalysisThread.step config) (fun _ _ => True) t) : t.Honest :=
  h.invariant (fun t ⟨hstatus, _, _, hphase⟩ => .inr (by rw [hstatus, hphase]; rfl))
    fun _ _ _ ht _ hst => (ht.step hst).1

end AnalysisThread

/-! ## The page's side -/

namespace Page

variable {ρ : Type} [Build] [Sidecar] {config : AnalyzerConfig}

/-- What is between the steps: everything noted is past, a report was asked for when a poll was
handled, and what should be shown is. -/
structure Inv (x : Page ρ) : Prop where
  honest : x.thread.Honest
  ended : ∀ name t, x.ended name = some t → t < x.clock
  polled : ∀ p, x.polled = some p → p < x.clock
  asked : ∀ name r, x.Asked name r → ∃ p, x.polled = some p ∧ r ≤ p
  fresh : ∀ name t, x.EndedAt name t → x.PolledSince t → x.Fresh name t

omit [Gzip] [SerdeJson] [Chrono] [Build] [Sidecar] in
/-- A report asked for after a moment was asked for in a poll since. -/
theorem Inv.polledSince {x : Page ρ} (h : x.Inv) {name : String} {t r : Nat}
    (hr : x.Asked name r) (ht : t < r) : x.PolledSince t := by
  obtain ⟨p, hp, hle⟩ := h.asked name r hr
  exact ⟨p, hp, by omega⟩

section
omit [Gzip] [SerdeJson] [Chrono] [Build] [Sidecar]

/-- What is asked for once an answer has been handled: the reports of the recordings that are found
to be finished, and what was asked for before. -/
theorem asked_handle (x : Page ρ) (k : Nat) (answer : AnalysisStatus) (name : String) (r : Nat) :
    (x.handle k answer).Asked name r ↔
      if name ∈ answer.finished ∧
          (x.manager.markUnfinished answer).status name ≠ some .finished then
        r = x.clock ∨ ⟨name, r⟩ ∈ x.fetches
      else x.Asked name r := by
  obtain ⟨-, hreports, hfetches⟩ :=
    (x.manager.markUnfinished answer).markFinished_spec x.clock answer.finished
  simp only [handle, Asked, AnalysisManager.update, hreports, List.mem_append, hfetches,
    AnalysisManager.markUnfinished_reports]
  split
  · next h => simp [h, or_comm]
  · next h => simp [h]

theorem status_handle (x : Page ρ) (k : Nat) (answer : AnalysisStatus) (name : String) :
    (x.handle k answer).manager.status name =
      if name ∈ answer.finished then some .finished
      else (x.manager.markUnfinished answer).status name :=
  ((x.manager.markUnfinished answer).markFinished_spec x.clock answer.finished).1 name

omit [Decoders] [Detectors] in
/-- A name that the answer does not have as busy is marked as before. -/
theorem markUnfinished_of_not_busy (m : AnalysisManager ρ) {answer : AnalysisStatus} {name : String}
    (h : ¬ answer.Busy name) : (m.markUnfinished answer).status name = m.status name := by
  rw [AnalysisManager.markUnfinished_status, if_neg fun hq => h (.inl hq),
    if_neg fun hr => h (.inr hr.1)]

/-- The reports asked for are fresh once the first poll has been handled that is handled as it
should be. -/
theorem Inv.fresh_handle {x : Page ρ} (h : x.Inv) {k : Nat} {answer : AnalysisStatus}
    (hm : x.Meets answer) {name : String} {t : Nat} (he : x.EndedAt name t) :
    (x.handle k answer).Fresh name t := by
  have ht : t < x.clock := h.ended name t he.1
  by_cases hpoll : x.PolledSince t
  · obtain ⟨⟨r, hr⟩, hall⟩ := h.fresh name t he hpoll
    constructor
    · by_cases hre : name ∈ answer.finished ∧
        (x.manager.markUnfinished answer).status name ≠ some .finished
      · exact ⟨x.clock, by rw [asked_handle, if_pos hre]; exact .inl rfl⟩
      · exact ⟨r, by rw [asked_handle, if_neg hre]; exact hr⟩
    · intro r' hr'
      rw [asked_handle] at hr'
      split at hr'
      · rcases hr' with rfl | hmem
        · exact ht
        · exact hall r' (.inr hmem)
      · exact hall r' hr'
  · obtain ⟨hfin, hstatus, hnone⟩ := hm.first name t he hpoll
    have hidle : ¬ answer.Busy name := fun hb => hm.apart name hb hfin
    have hre : name ∈ answer.finished ∧
        (x.manager.markUnfinished answer).status name ≠ some .finished :=
      ⟨hfin, by rwa [markUnfinished_of_not_busy _ hidle]⟩
    refine ⟨⟨x.clock, by rw [asked_handle, if_pos hre]; exact .inl rfl⟩, fun r hr => ?_⟩
    rw [asked_handle, if_pos hre] at hr
    rcases hr with rfl | hmem
    · exact ht
    · exact absurd rfl (hnone _ hmem)

/-- A poll shows what it should exactly where it is handled so. -/
theorem Inv.shows_handle {x : Page ρ} (h : x.Inv) {k : Nat} {answer : AnalysisStatus}
    (ha : x.answers[k]? = some answer) :
    x.Shows (.handle k) (x.handle k answer) ↔ x.Meets answer := by
  constructor
  · intro hs
    have hbusy : ∀ name, answer.Busy name → name ∉ answer.finished ∧
        (x.manager.markUnfinished answer).status name ≠ some .finished := by
      intro name hb
      have hne := hs.unfinished k answer name rfl ha hb
      rw [status_handle] at hne
      split at hne
      · exact absurd rfl hne
      · next hfin => exact ⟨hfin, hne⟩
    refine ⟨fun name hb => (hbusy name hb).1, fun hr hq => ?_, fun name t he hpoll => ?_⟩
    · have hne := (hbusy "" (.inr hr)).2
      rwa [AnalysisManager.markUnfinished_status, if_neg hq, if_neg fun hc => hc.2 rfl] at hne
    · have ht : t < x.clock := h.ended name t he.1
      obtain ⟨⟨r, hr⟩, hall⟩ := hs.fresh name t he ⟨x.clock, rfl, ht⟩
      by_cases hre : name ∈ answer.finished ∧
        (x.manager.markUnfinished answer).status name ≠ some .finished
      · have hidle : ¬ answer.Busy name := fun hb => (hbusy name hb).1 hre.1
        refine ⟨hre.1, by rw [← markUnfinished_of_not_busy _ hidle]; exact hre.2, ?_⟩
        rintro ⟨_, r'⟩ hmem rfl
        have hlate := hall r' (by rw [asked_handle, if_pos hre]; exact .inr hmem)
        exact hpoll (h.polledSince (.inr hmem) hlate)
      · rw [asked_handle, if_neg hre] at hr
        have hlate := hall r (by rw [asked_handle, if_neg hre]; exact hr)
        exact absurd (h.polledSince hr hlate) hpoll
  · intro hm
    refine ⟨fun name t he _ => h.fresh_handle hm he, ?_⟩
    rintro k' answer' name heq ha' hb
    cases heq
    rw [ha] at ha'
    cases ha'
    rw [status_handle, if_neg (hm.apart name hb), AnalysisManager.markUnfinished_status]
    split
    · simp
    · next hq =>
      split
      · simp
      · next hr =>
        have hrun := hb.resolve_left hq
        have hempty : name = "" := by
          by_contra hne
          exact hr ⟨hrun, hne⟩
        subst hempty
        exact hm.unnamed hrun hq

theorem endedAfter_apply (x : Page ρ) (e : ThreadStep) (name : String) :
    x.endedAfter e name =
      if endOf x.thread e = some name then some x.clock else x.ended name := by
  unfold endedAfter
  cases endOf x.thread e with
  | none => simp
  | some other =>
    by_cases h : name = other
    · simp [h]
    · simp [h, Ne.symm h]

/-- A step after which no report more is asked for, and no poll more is noted. -/
theorem Inv.fresh_of_eq {x y : Page ρ} (h : x.Inv) (hm : y.manager = x.manager)
    (hf : y.fetches = x.fetches) (hp : y.polled = x.polled) {name : String} {t : Nat}
    (he : x.EndedAt name t) (hpoll : y.PolledSince t) : y.Fresh name t := by
  have hasked : ∀ r, y.Asked name r ↔ x.Asked name r := by
    intro r
    rw [Asked, Asked, hm, hf]
  rw [PolledSince, hp] at hpoll
  obtain ⟨⟨r, hr⟩, hall⟩ := h.fresh name t he hpoll
  exact ⟨⟨r, (hasked r).2 hr⟩, fun r' hr' => hall r' ((hasked r').1 hr')⟩

/-- The page when a report has come. -/
theorem asked_of_arrive {x : Page ρ} {k : Nat} {fetch : ReportFetch}
    (hk : x.fetches[k]? = some fetch) {result : Except String ρ} {clock : Nat} {name : String}
    {r : Nat} (hr : Asked { x with
      manager := x.manager.setReport fetch result
      fetches := x.fetches.eraseIdx k
      clock := clock } name r) : x.Asked name r := by
  rcases hr with ⟨result', hheld⟩ | hin
  · by_cases hname : name = fetch.name
    · subst hname
      simp only [AnalysisManager.setReport, Function.update_self, Option.some.injEq,
        Prod.mk.injEq] at hheld
      rw [← hheld.1]
      exact .inr (List.mem_of_getElem? hk)
    · refine .inl ⟨result', ?_⟩
      simpa [AnalysisManager.setReport, Function.update_of_ne hname] using hheld
  · exact .inr (List.mem_of_mem_eraseIdx hin)

/-- A report that has come was on its way. -/
theorem Inv.fresh_arrive {x : Page ρ} (h : x.Inv) {k : Nat} {fetch : ReportFetch}
    (hk : x.fetches[k]? = some fetch) (result : Except String ρ) (clock : Nat) {name : String}
    {t : Nat} (he : x.EndedAt name t) (hpoll : x.PolledSince t) :
    Fresh { x with
      manager := x.manager.setReport fetch result
      fetches := x.fetches.eraseIdx k
      clock := clock } name t := by
  obtain ⟨⟨r, hr⟩, hall⟩ := h.fresh name t he hpoll
  refine ⟨?_, fun r' hr' => hall r' (asked_of_arrive hk hr')⟩
  by_cases hname : name = fetch.name
  · subst hname
    exact ⟨fetch.requestedAt, .inl ⟨_, by simp [AnalysisManager.setReport]; rfl⟩⟩
  · refine ⟨r, ?_⟩
    rcases hr with ⟨result', hheld⟩ | hin
    · exact .inl ⟨result', by simpa [AnalysisManager.setReport, Function.update_of_ne hname]⟩
    · obtain ⟨i, hi⟩ := List.mem_iff_getElem?.1 hin
      refine .inr (List.mem_eraseIdx_iff_getElem?.2 ⟨i, ?_, hi⟩)
      rintro rfl
      rw [hk] at hi
      exact hname (congrArg ReportFetch.name (Option.some.inj hi)).symm

/-- What is asked for when the button's answer has been handled. -/
theorem asked_accepted (x : Page ρ) (k : Nat) (name other : String) (clock r : Nat) :
    Asked { x with
      manager := x.manager.setQueuedStatus name
      pressed := x.pressed.eraseIdx k
      clock := clock } other r ↔
      if other = name then ⟨name, r⟩ ∈ x.fetches else x.Asked other r := by
  by_cases hname : other = name
  · subst hname
    simp [Asked, AnalysisManager.setQueuedStatus, AnalysisManager.deleteReport]
  · simp [Asked, AnalysisManager.setQueuedStatus, AnalysisManager.deleteReport, hname,
      AnalysisManager.setStatus]

/-- The button's answer leaves the report of a recording that is being fetched. -/
theorem Inv.shows_accepted {x : Page ρ} (h : x.Inv) {k : Nat} {name : String}
    (hk : x.pressed[k]? = some name) :
    x.Shows (.accepted k) { x with
      manager := x.manager.setQueuedStatus name
      pressed := x.pressed.eraseIdx k
      clock := x.clock + 1 } ↔ x.Timely (.accepted k) := by
  constructor
  · rintro hs name' t hk' he hpoll
    rw [hk] at hk'
    cases hk'
    obtain ⟨⟨r, hr⟩, -⟩ := hs.fresh name t he hpoll
    rw [asked_accepted, if_pos rfl] at hr
    exact ⟨_, hr, rfl⟩
  · intro ht
    refine ⟨fun other t he hpoll => ?_, fun _ _ _ heq => by cases heq⟩
    obtain ⟨⟨r, hr⟩, hall⟩ := h.fresh other t he hpoll
    by_cases hname : other = name
    · subst hname
      obtain ⟨⟨_, r'⟩, hmem, rfl⟩ := ht other t hk he hpoll
      refine ⟨⟨r', by rw [asked_accepted, if_pos rfl]; exact hmem⟩, fun r'' hr'' => ?_⟩
      rw [asked_accepted, if_pos rfl] at hr''
      exact hall r'' (.inr hr'')
    · refine ⟨⟨r, by rw [asked_accepted, if_neg hname]; exact hr⟩, fun r'' hr'' => ?_⟩
      rw [asked_accepted, if_neg hname] at hr''
      exact hall r'' hr''

end

/-- A step of the daemon leaves the page as it is. -/
theorem Inv.fresh_daemon {x y : Page ρ} (h : x.Inv) {e : ThreadStep}
    (hst : x.thread.step config e = some y.thread) {name : String} {t : Nat}
    (he : y.EndedAt name t) (hpoll : y.PolledSince t) (hm : y.manager = x.manager)
    (hf : y.fetches = x.fetches) (hp : y.polled = x.polled) (hended : y.ended = x.endedAfter e) :
    y.Fresh name t := by
  obtain ⟨hat, hidle⟩ := he
  rw [hended, endedAfter_apply] at hat
  split at hat
  · obtain ⟨p, hpp, hlt⟩ := hpoll
    have := h.polled p (hp ▸ hpp)
    cases hat
    omega
  · next hend =>
    exact h.fresh_of_eq hm hf hp ⟨hat, ((h.honest.step hst).2 name hidle).resolve_right hend⟩ hpoll

/-- **A step of the page shows what it should exactly where it is timely.** -/
theorem Inv.shows_iff {x y : Page ρ} (h : x.Inv) {e : PageStep ρ} (hst : x.step config e = some y) :
    x.Shows e y ↔ x.Timely e := by
  cases e with
  | daemon e =>
    obtain ⟨thread, hthread, rfl⟩ := Option.map_eq_some_iff.1 hst
    refine ⟨fun _ => trivial, fun _ => ⟨fun name t he hpoll => ?_, fun _ _ _ heq => by cases heq⟩⟩
    exact h.fresh_daemon hthread he hpoll rfl rfl rfl rfl
  | answer =>
    cases hst
    refine ⟨fun _ => trivial, fun _ => ⟨fun name t he hpoll => ?_, fun _ _ _ heq => by cases heq⟩⟩
    exact h.fresh_of_eq rfl rfl rfl he hpoll
  | handle k =>
    obtain ⟨answer, hanswer, rfl⟩ := Option.map_eq_some_iff.1 hst
    rw [h.shows_handle hanswer]
    constructor
    · intro hm answer' hanswer'
      rw [hanswer] at hanswer'
      cases hanswer'
      exact hm
    · exact fun ht => ht answer hanswer
  | arrive k result =>
    obtain ⟨fetch, hfetch, rfl⟩ := Option.map_eq_some_iff.1 hst
    refine ⟨fun _ => trivial, fun _ => ⟨fun name t he hpoll => ?_, fun _ _ _ heq => by cases heq⟩⟩
    exact h.fresh_arrive hfetch result _ he hpoll
  | press name =>
    obtain ⟨thread, hthread, rfl⟩ := Option.map_eq_some_iff.1 hst
    refine ⟨fun _ => trivial, fun _ => ⟨fun name t he hpoll => ?_, fun _ _ _ heq => by cases heq⟩⟩
    exact h.fresh_daemon hthread he hpoll rfl rfl rfl rfl
  | accepted k =>
    obtain ⟨name, hname, rfl⟩ := Option.map_eq_some_iff.1 hst
    exact h.shows_accepted hname

/-- What is noted is past after every step. -/
theorem Inv.step {x y : Page ρ} (h : x.Inv) {e : PageStep ρ} (hst : x.step config e = some y)
    (hs : x.Shows e y) : y.Inv := by
  have hpast : ∀ {n t : Nat}, t < n → t < n + 1 := fun hlt => by omega
  cases e with
  | daemon e =>
    obtain ⟨thread, hthread, rfl⟩ := Option.map_eq_some_iff.1 hst
    refine ⟨(h.honest.step hthread).1, fun name t hat => ?_, fun p hp => hpast (h.polled p hp),
      h.asked, hs.fresh⟩
    simp only [endedAfter_apply] at hat
    split at hat
    · cases hat
      exact Nat.lt_succ_self _
    · exact hpast (h.ended name t hat)
  | answer =>
    cases hst
    exact ⟨h.honest, fun name t hat => hpast (h.ended name t hat),
      fun p hp => hpast (h.polled p hp), h.asked, hs.fresh⟩
  | handle k =>
    obtain ⟨answer, -, rfl⟩ := Option.map_eq_some_iff.1 hst
    refine ⟨h.honest, fun name t hat => hpast (h.ended name t hat), ?_, fun name r hr => ?_,
      hs.fresh⟩
    · rintro p hp
      cases hp
      exact Nat.lt_succ_self _
    · refine ⟨x.clock, rfl, ?_⟩
      have hbefore : ∀ r, x.Asked name r → r ≤ x.clock := by
        intro r hr
        obtain ⟨p, hp, hle⟩ := h.asked name r hr
        have := h.polled p hp
        omega
      rw [asked_handle] at hr
      split at hr
      · rcases hr with rfl | hmem
        · exact le_refl _
        · exact hbefore r (.inr hmem)
      · exact hbefore r hr
  | arrive k result =>
    obtain ⟨fetch, hfetch, rfl⟩ := Option.map_eq_some_iff.1 hst
    refine ⟨h.honest, fun name t hat => hpast (h.ended name t hat),
      fun p hp => hpast (h.polled p hp), fun name r hr => h.asked name r ?_, hs.fresh⟩
    exact asked_of_arrive hfetch hr
  | press name =>
    obtain ⟨thread, hthread, rfl⟩ := Option.map_eq_some_iff.1 hst
    exact ⟨(h.honest.step hthread).1, fun name t hat => hpast (h.ended name t hat),
      fun p hp => hpast (h.polled p hp), h.asked, hs.fresh⟩
  | accepted k =>
    obtain ⟨name, hname, rfl⟩ := Option.map_eq_some_iff.1 hst
    refine ⟨h.honest, fun name t hat => hpast (h.ended name t hat),
      fun p hp => hpast (h.polled p hp), fun other r hr => h.asked other r ?_, hs.fresh⟩
    rw [asked_accepted] at hr
    split at hr
    · next heq =>
      subst heq
      exact .inr hr
    · exact hr

/-- A page that has just been loaded has nothing to show yet. -/
theorem Inv.of_loaded {x : Page ρ} (h : x.Loaded config) : x.Inv := by
  obtain ⟨hreach, heq⟩ := h
  rw [heq]
  refine ⟨AnalysisThread.honest_of_reach hreach, ?_, ?_, ?_, ?_⟩
  · intro name t hat
    cases hat
  · intro p hp
    cases hp
  · rintro name r (⟨_, hheld⟩ | hin)
    · cases hheld
    · cases hin
  · rintro name t ⟨hat, -⟩
    cases hat

/-- **The page ends up with the finished report in exactly the runs whose steps are timely.** -/
theorem finished_report_iff {x : Page ρ} (h : x.Loaded config) (steps : List (PageStep ρ)) :
    (∀ t ∈ transitions (step config) x steps, t.1.Shows t.2.1 t.2.2) ↔
      ∀ t ∈ transitions (step config) x steps, t.1.Timely t.2.1 :=
  forall_transitions_iff Inv (fun _ _ _ hinv hst hs => hinv.step hst hs)
    (fun _ _ _ hinv hst => hinv.shows_iff hst) (Inv.of_loaded h) steps

omit [Decoders] [Detectors] [Gzip] [SerdeJson] [Chrono] [Build] [Sidecar] in
/-- A poll that falls into a re-analysis leaves the recording marked finished. -/
theorem finished_while_queued :
    let _ := nasDecoders
    let _ := nullCipherDetectors
    let _ := strictGzip
    let _ := jsonText
    let _ := oneInstant
    let _ := deviceBuild
    let _ := sidecarJson
    ¬ ∀ (x : Page String), x.Loaded nullCipherConfig → ∀ steps : List (PageStep String),
      ∀ t ∈ transitions (step nullCipherConfig) x steps, t.1.Shows t.2.1 t.2.2 := by
  let _ := nasDecoders
  let _ := nullCipherDetectors
  let _ := strictGzip
  let _ := jsonText
  let _ := oneInstant
  let _ := deviceBuild
  let _ := sidecarJson
  intro _ _ _ _ _ _ _ h
  let page : Page String := { thread := startedWith (.bytes []) }
  have hloaded : page.Loaded nullCipherConfig := ⟨.init ⟨rfl, rfl, rfl, rfl⟩, rfl⟩
  let steps : List (PageStep String) :=
    [.press closedEntry.name, .answer, .handle 0]
  have hmarked : ∃ x y, (x, PageStep.handle 0, y) ∈ transitions (step nullCipherConfig) page steps ∧
      x.answers[0]? = some ⟨[closedEntry.name], none, [closedEntry.name]⟩ ∧
      y.manager.status closedEntry.name = some .finished :=
    ⟨_, _, .tail _ (.tail _ (.head _)), rfl,
      (status_handle _ _ _ _).trans (if_pos (List.mem_singleton_self _))⟩
  obtain ⟨x, y, hmem, hanswer, hstatus⟩ := hmarked
  exact (h page hloaded steps _ hmem).unfinished 0 _ closedEntry.name rfl hanswer
    (.inl (List.mem_singleton_self _)) hstatus

omit [Decoders] [Detectors] [Gzip] [SerdeJson] [Chrono] [Build] [Sidecar] in
/-- A page whose button is pressed, and that polls again when the re-analysis has ended, shows the
report. -/
theorem finished_report_pressed :
    let _ := nasDecoders
    let _ := nullCipherDetectors
    let _ := strictGzip
    let _ := jsonText
    let _ := oneInstant
    let _ := deviceBuild
    let _ := sidecarJson
    let page : Page String := { thread := startedWith (.bytes []) }
    let work : WorkerStep → PageStep String := fun w => .daemon (.worker w)
    ∀ t ∈ transitions (step nullCipherConfig) page
      [.press closedEntry.name, .accepted 0, work .recv, work .count, work .dequeue,
        work (.openRecording {} none), work (.metadata ⟨[]⟩ none none), work (.packet none none),
        work .finish, .answer, .handle 0, .arrive 0 (.ok "report")],
      t.1.Shows t.2.1 t.2.2 := by
  let _ := nasDecoders
  let _ := nullCipherDetectors
  let _ := strictGzip
  let _ := jsonText
  let _ := oneInstant
  let _ := deviceBuild
  let _ := sidecarJson
  intro _ _ _ _ _ _ _ page work
  refine (finished_report_iff ⟨.init ⟨rfl, rfl, rfl, rfl⟩, rfl⟩ _).2 ?_
  refine List.forall_mem_cons.2 ⟨trivial, List.forall_mem_cons.2 ⟨?_, ?_⟩⟩
  · rintro name t hname ⟨hat, -⟩
    cases hat
  iterate 8 refine List.forall_mem_cons.2 ⟨trivial, ?_⟩
  refine List.forall_mem_cons.2 ⟨?_, List.forall_mem_cons.2 ⟨trivial, List.forall_mem_nil _⟩⟩
  rintro answer hanswer
  cases hanswer
  refine ⟨?_, ?_, ?_⟩
  · rintro name (hq | hr)
    · cases hq
    · cases hr
  · intro hr
    cases hr
  · rintro name t ⟨hat, -⟩ -
    -- the one re-analysis that has ended, at the ninth step
    have hat' : Function.update (fun _ => none) closedEntry.name (some 8) name = some t := hat
    have hname : name = closedEntry.name := by
      by_contra hne
      rw [Function.update_of_ne hne] at hat'
      cases hat'
    subst hname
    refine ⟨List.mem_cons_self, ?_, fun fetch hfetch => by cases hfetch⟩
    show Function.update (fun _ => none) closedEntry.name (some .queued) closedEntry.name ≠
      some AnalysisManager.Status.finished
    simp

end Page

end Rayhunter
