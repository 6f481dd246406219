import Mathlib.Data.List.Nodup
import Rayhunter.Analysis.Serving

/-!
# Requests and the queue

The queue the server fills and the messages it sends for it (`start_analysis`,
`daemon/src/analysis.rs`) are two things: a request queues a recording, and then sends a message with
the status' lock in its hand, which may have to wait for room in the channel and may fail. In the runs
in which every request that queues a recording finds room and a worker that is there, the two go
together: nothing is queued or taken up twice, and once the worker is through with its messages
everything that was ever queued has been taken up (`AnalysisControl.inStep`).
-/

namespace Rayhunter

open Runs

variable [Decoders] [Detectors] [Gzip] [SerdeJson] [Chrono]

/-! ## Steps -/

/-- The worker and what is sent to it, whether a request waits for room in the channel with the
status' lock in its hand, and an account of the runs: the names that have been queued, the messages
sent for them and taken up, and the names taken up, each with the number of its message. -/
structure AnalysisControl where
  thread : AnalysisThread
  waiting : Bool
  asked : List String
  sent : Nat
  heard : Nat
  taken : List (String × Nat)

/-- The steps: a request arrives, one that waits is served, or its client goes away; the messages of
the recorder and the shutdown, what other tasks do to the recordings, and the steps of the worker. -/
inductive ControlStep
  | startAnalysis (name : String)
  | deliver
  | abandon
  | recordingFinished (name : String)
  | exit
  | others (s : Storage)
  | worker (w : WorkerStep)

namespace AnalysisControl

/-- The worker has gone, and its end of the channel with it. -/
def Gone (x : AnalysisControl) : Prop := x.thread.phase = .exited ∨ x.thread.phase = .panicked

instance (x : AnalysisControl) : Decidable x.Gone :=
  inferInstanceAs (Decidable (_ ∨ _))

/-- There is room in the channel. -/
def Room (x : AnalysisControl) : Prop := x.thread.inbox.length < ANALYSIS_CHANNEL

instance (x : AnalysisControl) : Decidable x.Room := inferInstanceAs (Decidable (_ < _))

/-- A request at its `send` (`analysis.rs:352`): an error where the worker has gone, the message
where there is room; else it waits. -/
def sendQueued (x : AnalysisControl) : AnalysisControl :=
  if x.Gone then { x with waiting := false }
  else if x.Room then
    { x with
      thread := { x.thread with inbox := x.thread.inbox ++ [.newFilesQueued] }
      waiting := false
      sent := x.sent + 1 }
  else { x with waiting := true }

omit [Gzip] [SerdeJson] [Chrono] in
theorem sendQueued_of_room {x : AnalysisControl} (hgone : ¬ x.Gone) (hroom : x.Room) :
    x.sendQueued =
      { x with
        thread := { x.thread with inbox := x.thread.inbox ++ [.newFilesQueued] }
        waiting := false
        sent := x.sent + 1 } := by
  rw [sendQueued, if_neg hgone, if_pos hroom]

/-- `start_analysis` (`analysis.rs:329`), up to where it ends or waits. -/
def startAnalysis (x : AnalysisControl) (name : String) : AnalysisControl :=
  match x.thread.status.request x.thread.system.storage.store name with
  | (true, status) =>
    sendQueued { x with
      thread := { x.thread with status }
      asked := x.asked ++ status.queued.getLast?.toList }
  | (false, status) => { x with thread := { x.thread with status } }

/-- Whether a step of the worker takes the status' lock. What it does with a message of the recorder
is let go ahead of a request that waits. -/
def usesLock : WorkerStep → Bool
  | .count | .dequeue | .finish => true
  | _ => false

/-- The messages the worker has heard after a step, by what is before it. -/
def heardAfter (heard : Nat) (inbox : List AnalysisCtrlMessage) : WorkerStep → Nat
  | .recv => if inbox.head? = some .newFilesQueued then heard + 1 else heard
  | _ => heard

/-- The names taken up after a step, by what is before it. -/
def takenAfter (taken : List (String × Nat)) (heard : Nat) (queued : List String) :
    WorkerStep → List (String × Nat)
  | .dequeue => taken ++ queued.head?.toList.map (·, heard)
  | _ => taken

/-- A step of the worker, with its account. -/
def work [Build] [Sidecar] (config : AnalyzerConfig) (x : AnalysisControl) (w : WorkerStep) :
    Option AnalysisControl :=
  if x.waiting ∧ usesLock w then none
  else
    (x.thread.work config w).map fun thread =>
      { x with
        thread
        heard := heardAfter x.heard x.thread.inbox w
        taken := takenAfter x.taken x.heard x.thread.status.queued w }

/-- One step of the system. -/
def step [Build] [Sidecar] (config : AnalyzerConfig) (x : AnalysisControl) :
    ControlStep → Option AnalysisControl
  | .startAnalysis name => if x.waiting then none else some (x.startAnalysis name)
  | .deliver => if x.waiting ∧ (x.Gone ∨ x.Room) then some x.sendQueued else none
  | .abandon => if x.waiting then some { x with waiting := false } else none
  | .recordingFinished name =>
    (x.thread.send (.recordingFinished name)).map fun thread => { x with thread }
  | .exit => (x.thread.send .exit).map fun thread => { x with thread }
  | .others s =>
    some { x with thread := { x.thread with system := { x.thread.system with storage := s } } }
  | .worker w => x.work config w

/-- The daemon has just started. -/
def Init (x : AnalysisControl) : Prop :=
  x.thread.Init ∧ x.waiting = false ∧ x.asked = [] ∧ x.sent = 0 ∧ x.heard = 0 ∧ x.taken = []

/-- A request that queues a recording finds the worker there and room in its channel, and the worker
meets no error in reading. -/
def Served (x : AnalysisControl) : ControlStep → Prop
  | .startAnalysis name =>
    (x.thread.status.request x.thread.system.storage.store name).1 = true → ¬ x.Gone ∧ x.Room
  | .worker w => x.thread.Readable w
  | _ => True

/-! ## Names that are asked for -/

/-- What is between the steps of such a run: nobody waits, and the queue and the messages are in
step. -/
structure Inv (x : AnalysisControl) : Prop where
  thread : x.thread.Inv
  waiting : x.waiting = false
  nodup : x.thread.status.queued.Nodup
  apart : ∀ name, x.thread.status.running = some name → name ∉ x.thread.status.queued
  sent : x.sent = x.asked.length
  account : x.asked = x.taken.map Prod.fst ++ x.thread.status.queued
  messages : x.heard + x.thread.inbox.count .newFilesQueued = x.sent
  serving : x.thread.phase = .counting ∨ 0 < x.thread.phase.left → 1 ≤ x.heard
  numbered : ∀ p ∈ x.taken, 1 ≤ p.2 ∧ p.2 ≤ x.heard

section
variable [Build] [Sidecar] {config : AnalyzerConfig}

/-- A step that takes no recording up leaves the queue as it is. -/
theorem status_of_work {x y : AnalysisThread} (h : x.Inv) {w : WorkerStep} (hr : x.Readable w)
    (hst : x.work config w = some y) (hw : w ≠ .dequeue) :
    y.status.queued = x.status.queued ∧
      (y.status.running = x.status.running ∨ y.status.running = none) := by
  cases h.outcome hr hst with
  | dequeued hp hq hrunning =>
    cases w with
    | dequeue => exact absurd rfl hw
    | _ => simp [AnalysisThread.work, hp] at hst
  | finished hp hrunning => exact ⟨rfl, .inr rfl⟩
  | _ => exact ⟨rfl, .inl rfl⟩

/-- Messages are heard in the order they were sent, and with none heard nothing is taken up. -/
theorem Inv.messages_of_work {x : AnalysisControl} {y : AnalysisThread} (h : x.Inv)
    {w : WorkerStep} (hst : x.thread.work config w = some y)
    (ho : AnalysisThread.Outcome x.thread y) :
    heardAfter x.heard x.thread.inbox w + y.inbox.count .newFilesQueued = x.sent ∧
      x.heard ≤ heardAfter x.heard x.thread.inbox w ∧
      (y.phase = .counting ∨ 0 < y.phase.left → 1 ≤ heardAfter x.heard x.thread.inbox w) := by
  have hmessages := h.messages
  have hserving := h.serving
  cases ho with
  | newFiles hp hi | recordingFinished hp hi | exit hp hi =>
    cases w with
    | recv =>
      rw [hi] at hmessages
      simp only [heardAfter, hi, List.head?_cons]
      simp [hp, WorkerPhase.left] at hmessages ⊢
      try omega
    | _ => simp [AnalysisThread.work, hp] at hst
  | counted hp =>
    cases w with
    | count => exact ⟨hmessages, le_rfl, fun _ => hserving (.inl hp)⟩
    | _ => simp [AnalysisThread.work, hp] at hst
  | dequeued hp =>
    cases w with
    | dequeue =>
      exact ⟨hmessages, le_rfl, fun _ => hserving (.inr (by rw [hp]; exact Nat.succ_pos _))⟩
    | _ => simp [AnalysisThread.work, hp] at hst
  | @opened left name system hp | @read left name system hp =>
    have hheard : heardAfter x.heard x.thread.inbox w = x.heard := by
      cases w with
      | recv => simp [AnalysisThread.work, hp] at hst
      | _ => rfl
    have hleft : (if system.job.isSome then WorkerPhase.reading left name
        else .finishing left name).left = left := by split <;> rfl
    rw [hheard]
    refine ⟨hmessages, le_rfl, ?_⟩
    rintro (hcounting | hpos)
    · simp only at hcounting
      split at hcounting <;> cases hcounting
    · simp only [hleft] at hpos
      exact hserving (.inr (by rw [hp]; exact hpos))
  | @finished left name hp =>
    cases w with
    | finish =>
      refine ⟨hmessages, le_rfl, ?_⟩
      rintro (hcounting | hpos)
      · cases hcounting
      · exact hserving (.inr (by rw [hp]; exact hpos))
    | _ => simp [AnalysisThread.work, hp] at hst

/-- What is before the worker when it takes a recording up. -/
theorem dequeue_of_work {x y : AnalysisThread} (h : x.Inv)
    (hst : x.work config .dequeue = some y) :
    ∃ left name queued, x.phase = .round (left + 1) ∧ x.status.queued = name :: queued ∧
      y = { x with
        status := { x.status with queued, running := some name }
        phase := .opening left name } := by
  cases h.outcome (w := .dequeue) trivial hst with
  | dequeued hp hq hrunning => exact ⟨_, _, _, hp, hq, rfl⟩
  | newFiles hp | recordingFinished hp | exit hp | counted hp | opened system hp | read hp
  | finished hp =>
    simp [AnalysisThread.work, hp] at hst

/-- What a step of the worker does to the queue and the account. -/
theorem Inv.work {x y : AnalysisControl} (h : x.Inv) {w : WorkerStep}
    (hr : x.thread.Readable w) (hst : x.work config w = some y) :
    y.Inv ∧ AnalysisThread.Outcome x.thread y.thread ∧ y.asked = x.asked := by
  unfold AnalysisControl.work at hst
  split at hst
  · cases hst
  obtain ⟨thread, hthread, rfl⟩ := Option.map_eq_some_iff.1 hst
  have ho := h.thread.outcome hr hthread
  obtain ⟨hmessages, hheard, hserving⟩ := h.messages_of_work hthread ho
  refine ⟨?_, ho, rfl⟩
  by_cases hw : w = .dequeue
  · subst hw
    obtain ⟨left, name, queued, hp, hq, rfl⟩ := dequeue_of_work h.thread hthread
    have hnodup := h.nodup
    have haccount := h.account
    rw [hq] at hnodup haccount
    exact
      { thread := h.thread.ofOutcome ho
        waiting := h.waiting
        nodup := (List.nodup_cons.1 hnodup).2
        apart := by
          rintro name' ⟨⟩
          exact (List.nodup_cons.1 hnodup).1
        sent := h.sent
        account := by simp [takenAfter, hq, haccount]
        messages := hmessages
        serving := hserving
        numbered := by
          simp only [takenAfter, hq, List.head?_cons]
          intro p hp'
          rcases List.mem_append.1 hp' with hp' | hp'
          · exact h.numbered p hp'
          · obtain rfl := List.mem_singleton.1 hp'
            exact ⟨h.serving (.inr (by rw [hp]; exact Nat.succ_pos left)), le_rfl⟩ }
  · obtain ⟨hqueued, hrunning⟩ := status_of_work h.thread hr hthread hw
    have htaken : takenAfter x.taken x.heard x.thread.status.queued w = x.taken := by
      cases w with
      | dequeue => exact absurd rfl hw
      | _ => rfl
    rw [htaken]
    exact
      { thread := h.thread.ofOutcome ho
        waiting := h.waiting
        nodup := hqueued ▸ h.nodup
        apart := by
          intro name hname
          rw [hqueued]
          rcases hrunning with hsame | hnone
          · exact h.apart name (hsame ▸ hname)
          · cases hnone.symm.trans hname
        sent := h.sent
        account := hqueued ▸ h.account
        messages := hmessages
        serving := hserving
        numbered := fun p hp => ⟨(h.numbered p hp).1, (h.numbered p hp).2.trans hheard⟩ }

omit [Gzip] [SerdeJson] [Chrono] [Build] [Sidecar] in
/-- A request that finds room sends a message for what it queues. -/
theorem Inv.startAnalysis {x : AnalysisControl} (h : x.Inv) {name : String}
    (hserved : x.Served (.startAnalysis name)) : (x.startAnalysis name).Inv := by
  unfold AnalysisControl.startAnalysis
  rcases x.thread.status.request_cases x.thread.system.storage.store name with
    hq | ⟨name', hbusy, hq⟩
  · rw [hq]
    exact h
  · obtain ⟨hgone, hroom⟩ := hserved (by rw [hq])
    rw [hq]
    simp only [List.getLast?_concat, Option.toList_some]
    have hthread : AnalysisThread.Inv { x.thread with
        inbox := x.thread.inbox ++ [.newFilesQueued]
        status := { x.thread.status with queued := x.thread.status.queued ++ [name'] } } :=
      h.thread.startAnalysis (if_pos hroom)
    rw [sendQueued_of_room]
    rotate_left
    · exact hgone
    · exact hroom
    obtain ⟨hnotin, hnotrunning⟩ := not_or.1 hbusy
    exact
      { thread := hthread
        waiting := rfl
        nodup := by simpa using List.Nodup.concat hnotin h.nodup
        apart := by
          intro other hother hmem
          rcases List.mem_append.1 hmem with hmem | hmem
          · exact h.apart other hother hmem
          · obtain rfl := List.mem_singleton.1 hmem
            exact hnotrunning hother
        sent := by simp [h.sent]
        account := by simp [h.account]
        messages := by
          have := h.messages
          simp
          omega
        serving := h.serving
        numbered := h.numbered }

omit [Gzip] [SerdeJson] [Chrono] [Build] [Sidecar] in
/-- A message of another kind changes nothing but the channel. -/
theorem Inv.send {x : AnalysisControl} (h : x.Inv) {message : AnalysisCtrlMessage}
    (hne : message ≠ .newFilesQueued) {thread : AnalysisThread}
    (hst : x.thread.send message = some thread) :
    AnalysisControl.Inv { x with thread } := by
  have hthread := h.thread.send hst
  unfold AnalysisThread.send at hst
  split at hst
  · cases hst
    exact
      { thread := hthread
        waiting := h.waiting
        nodup := h.nodup
        apart := h.apart
        sent := h.sent
        account := h.account
        messages := by
          have := h.messages
          simpa [List.count_singleton, hne] using this
        serving := h.serving
        numbered := h.numbered }
  · cases hst

theorem Inv.step {x y : AnalysisControl} (h : x.Inv) {i : ControlStep} (hserved : x.Served i)
    (hst : x.step config i = some y) : y.Inv := by
  cases i with
  | startAnalysis name =>
    simp only [AnalysisControl.step, h.waiting] at hst
    cases hst
    exact h.startAnalysis hserved
  | deliver | abandon =>
    simp [AnalysisControl.step, h.waiting] at hst
  | recordingFinished name | exit =>
    obtain ⟨thread, hthread, rfl⟩ := Option.map_eq_some_iff.1 hst
    exact h.send (by simp) hthread
  | others s =>
    cases hst
    have hothers : x.thread.step config (.others s) =
        some { x.thread with system := { x.thread.system with storage := s } } := rfl
    have hreadable : x.thread.ReadableStep (.others s) := trivial
    exact { h with thread := h.thread.step hreadable hothers }
  | worker w => exact (h.work hserved hst).1

theorem inv_of_reach {x : AnalysisControl} (h : Reach Init (step config) Served x) : x.Inv :=
  h.invariant
    (fun x ⟨hthread, hwaiting, hasked, hsent, hheard, htaken⟩ => by
      have hinv := AnalysisThread.inv_of_reach (.init hthread : Reach _ (AnalysisThread.step config) _ _)
      obtain ⟨hstatus, -, hinbox, hphase⟩ := hthread
      exact
        { thread := hinv
          waiting := hwaiting
          nodup := by simp [hstatus, AnalysisStatus.new]
          apart := by simp [hstatus, AnalysisStatus.new]
          sent := by simp [hsent, hasked]
          account := by simp [hasked, htaken, hstatus, AnalysisStatus.new]
          messages := by simp [hheard, hinbox, hsent]
          serving := by simp [hphase, WorkerPhase.left]
          numbered := by simp [htaken] })
    fun _ _ _ hx hserved hst => hx.step hserved hst

/-! ## Coming to the end of the messages -/

/-- What goes on by itself: the worker's steps, and a request that waits. -/
def advance (config : AnalyzerConfig) (x : AnalysisControl) : Option WorkerStep →
    Option AnalysisControl
  | some w => x.work config w
  | none => x.step config .deliver

/-- Everything that had been asked for has been taken up, and the worker has no message left; or it
has been told to exit. -/
def Drained (x y : AnalysisControl) : Prop :=
  (y.thread.phase = .round 0 ∧ y.thread.inbox = [] ∧ y.waiting = false ∧
    y.taken.map Prod.fst = x.asked) ∨
  (y.thread.phase = .exited ∧ (x.thread.phase = .exited ∨ .exit ∈ x.thread.inbox))

/-- The queue and the messages are in step: a recording is taken up only where one is queued, none is
queued twice or queued and running, a message is sent for each that is asked for, each is queued or
has been taken up, in order, for one of the messages heard, and left to itself the worker comes to
have taken up all. -/
structure InStep (config : AnalyzerConfig) (x : AnalysisControl) : Prop where
  dequeue : ∀ left, x.thread.phase = .round (left + 1) →
    x.thread.status.queued ≠ [] ∧ x.thread.status.running = none
  nodup : x.thread.status.queued.Nodup
  apart : ∀ name, x.thread.status.running = some name → name ∉ x.thread.status.queued
  sent : x.sent = x.asked.length
  heard : x.heard + x.thread.inbox.count .newFilesQueued = x.sent
  account : x.asked = x.taken.map Prod.fst ++ x.thread.status.queued
  numbered : ∀ p ∈ x.taken, 1 ≤ p.2 ∧ p.2 ≤ x.heard
  drains : Inevitable (advance config) (fun y i => ∀ w ∈ i, y.thread.Readable w) x.Drained x

/-- A worker that has messages left has something to do. -/
theorem Inv.goes_on {x y : AnalysisControl} (h : y.Inv)
    (hf : AnalysisThread.Follows x.thread y.thread) (hasked : y.asked = x.asked) :
    x.Drained y ∨ ∃ i z, advance config y i = some z := by
  have hgoes : x.thread.ServedFrom y.thread ∨ ∃ w z, y.thread.work config w = some z :=
    h.thread.goes_on hf
  obtain (⟨hphase, hinbox, hqueued, -⟩ | hexited) | ⟨w, thread, hst⟩ := hgoes
  · refine .inl (.inl ⟨hphase, hinbox, h.waiting, ?_⟩)
    rw [← hasked, h.account, hqueued, List.append_nil]
  · exact .inl (.inr hexited)
  · refine .inr ⟨some w, ?_⟩
    simp only [advance, AnalysisControl.work, h.waiting, hst]
    exact ⟨_, rfl⟩

/-- **In every run in which the requests find room and the worker, and the worker can read, the queue
and the messages are in step.** -/
theorem inStep {x : AnalysisControl} (h : Reach Init (step config) Served x) :
    x.InStep config := by
  have hinv := inv_of_reach h
  refine
    { dequeue := fun left hp => ?_
      nodup := hinv.nodup
      apart := hinv.apart
      sent := hinv.sent
      heard := hinv.messages
      account := hinv.account
      numbered := hinv.numbered
      drains := ?_ }
  · have henough := hinv.thread.enough
    have hrunning := hinv.thread.running
    rw [hp] at henough hrunning
    exact ⟨List.ne_nil_of_length_pos (Nat.lt_of_lt_of_le left.succ_pos henough), hrunning⟩
  · refine Inevitable.of_rank
      (fun y => y.Inv ∧ AnalysisThread.Follows x.thread y.thread ∧ y.asked = x.asked)
      (fun y => y.thread.rank) ?_ ?_ ⟨hinv, .refl x.thread, rfl⟩
    · rintro y i z ⟨hy, hf, hasked⟩ hr hst
      cases i with
      | none => simp [advance, AnalysisControl.step, hy.waiting] at hst
      | some w =>
        obtain ⟨hz, ho, hsame⟩ := hy.work (hr w rfl) hst
        exact ⟨⟨hz, hf.ofOutcome ho, hsame.trans hasked⟩, ho.rank_lt⟩
    · rintro y ⟨hy, hf, hasked⟩
      exact hy.goes_on hf hasked

end

end AnalysisControl

/-! ## Seven requests -/

/-- The worker and nothing else when the daemon has just started. -/
def idleControl : AnalysisControl :=
  ⟨startedWith (.bytes []), false, [], 0, 0, []⟩

/-- The worker has taken up the first of seven recordings when the others are asked for. -/
def sevenRequests : List ControlStep :=
  [.startAnalysis "a", .worker .recv, .worker .count, .worker .dequeue, .startAnalysis "b",
    .startAnalysis "c", .startAnalysis "d", .startAnalysis "e", .startAnalysis "f",
    .startAnalysis "g", .worker (.openRecording {} none)]

omit [Decoders] [Detectors] [Gzip] [SerdeJson] [Chrono] in
/-- The last waits at a full channel when the worker comes to the end of the first recording. -/
theorem after_sevenRequests :
    let _ := nasDecoders
    let _ := nullCipherDetectors
    let _ := strictGzip
    let _ := jsonText
    let _ := oneInstant
    let _ := deviceBuild
    let _ := sidecarJson
    ∃ x, sevenRequests.foldlM (AnalysisControl.step nullCipherConfig) idleControl = some x ∧
      x.waiting = true ∧ x.thread.phase = .finishing 0 "a" ∧
      x.thread.inbox.length = ANALYSIS_CHANNEL :=
  ⟨_, rfl, rfl, rfl, rfl⟩

omit [Decoders] [Detectors] [Gzip] [SerdeJson] [Chrono] in
/-- One request is served. -/
theorem inStep_one_request :
    let _ := nasDecoders
    let _ := nullCipherDetectors
    let _ := strictGzip
    let _ := jsonText
    let _ := oneInstant
    let _ := deviceBuild
    let _ := sidecarJson
    ∃ x : AnalysisControl, x.asked = ["a"] ∧ x.InStep nullCipherConfig := by
  let _ := nasDecoders
  let _ := nullCipherDetectors
  let _ := strictGzip
  let _ := jsonText
  let _ := oneInstant
  let _ := deviceBuild
  let _ := sidecarJson
  intro _ _ _ _ _ _ _
  have hinit : idleControl.Init := ⟨⟨rfl, rfl, rfl, rfl⟩, rfl, rfl, rfl, rfl, rfl⟩
  have hserved : idleControl.Served (.startAnalysis "a") := fun _ => ⟨by decide, by decide⟩
  exact ⟨_, rfl, AnalysisControl.inStep ((Reach.init hinit).step hserved rfl)⟩

omit [Decoders] [Detectors] [Gzip] [SerdeJson] [Chrono] in
/-- The last of seven requests waits for the worker, and the worker for it. -/
theorem seventh_request_strands :
    let _ := nasDecoders
    let _ := nullCipherDetectors
    let _ := strictGzip
    let _ := jsonText
    let _ := oneInstant
    let _ := deviceBuild
    let _ := sidecarJson
    ¬ ∀ x, Reach AnalysisControl.Init (AnalysisControl.step nullCipherConfig) (fun _ _ => True) x →
      x.InStep nullCipherConfig := by
  let _ := nasDecoders
  let _ := nullCipherDetectors
  let _ := strictGzip
  let _ := jsonText
  let _ := oneInstant
  let _ := deviceBuild
  let _ := sidecarJson
  intro _ _ _ _ _ _ _ h
  have hinit : idleControl.Init := ⟨⟨rfl, rfl, rfl, rfl⟩, rfl, rfl, rfl, rfl, rfl⟩
  obtain ⟨x, hx, hwaiting, hphase, hinbox⟩ := after_sevenRequests
  have hreach := Reach.of_foldlM (.init hinit) hx
  have hgone : ¬ x.Gone := by rw [AnalysisControl.Gone, hphase]; simp
  have hroom : ¬ x.Room := by rw [AnalysisControl.Room, hinbox]; exact lt_irrefl _
  cases (h x hreach).drains with
  | now hdrained =>
    obtain ⟨hp, -⟩ | ⟨hp, -⟩ := hdrained
    · cases hphase.symm.trans hp
    · cases hphase.symm.trans hp
  | later hgo =>
    obtain ⟨i, z, hst⟩ := hgo
    cases i with
    | none => simp [AnalysisControl.advance, AnalysisControl.step, hgone, hroom] at hst
    | some w =>
      cases w with
      | count | dequeue | finish =>
        simp [AnalysisControl.advance, AnalysisControl.work, AnalysisControl.usesLock,
          hwaiting] at hst
      | recv | openRecording | metadata | packet =>
        simp [AnalysisControl.advance, AnalysisControl.work, AnalysisControl.usesLock,
          AnalysisThread.work, hphase] at hst

end Rayhunter
