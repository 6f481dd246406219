import Mathlib.Data.Prod.Lex
import Mathlib.Order.WellFounded
import Rayhunter.Analysis.Worker

/-!
# The analysis worker keeps serving

What one step of the worker does (`AnalysisThread.Outcome`), and from it that a worker which meets
no error in reading is never lost and comes to the end of its queue. A recording with a damaged gzip
stream is one it does not survive (`worker_lost`).
-/

namespace Rayhunter

open Runs

variable [Decoders] [Detectors] [Gzip] [SerdeJson] [Chrono]

namespace AnalysisThread

/-! ## What a step does -/

/-- What is left to do for an analysis under way. -/
def toRead : Option Job → Nat
  | none => 0
  | some j => j.reader.data.length + if j.writer.isNone then 1 else 0

/-- What is between the steps: the worker has what it says it has in hand, what it is to take up is
queued, and if anything else is queued it has been told. -/
structure Inv (x : AnalysisThread) : Prop where
  alive : x.phase ≠ .panicked
  running : x.status.running = x.phase.name
  enough : x.phase.left ≤ x.status.queued.length
  told : x.phase = .exited ∨ x.phase = .counting ∨ .newFilesQueued ∈ x.inbox ∨
    x.status.queued.length ≤ x.phase.left
  job : x.system.job.isSome = true ↔ ∃ left name, x.phase = .reading left name

/-- What a step of the worker does where it does not panic. -/
inductive Outcome (x : AnalysisThread) : AnalysisThread → Prop
  | newFiles {inbox : List AnalysisCtrlMessage} : x.phase = .round 0 →
      x.inbox = .newFilesQueued :: inbox → Outcome x { x with inbox, phase := .counting }
  | recordingFinished {name : String} {inbox : List AnalysisCtrlMessage} : x.phase = .round 0 →
      x.inbox = .recordingFinished name :: inbox →
      Outcome x { x with
        inbox, status := { x.status with finished := x.status.finished ++ [name] } }
  | exit {inbox : List AnalysisCtrlMessage} : x.phase = .round 0 → x.inbox = .exit :: inbox →
      Outcome x { x with inbox, phase := .exited }
  | counted : x.phase = .counting → Outcome x { x with phase := .round x.status.queued.length }
  | dequeued {left : Nat} {name : String} {queued : List String} : x.phase = .round (left + 1) →
      x.status.queued = name :: queued → x.status.running = none →
      Outcome x { x with
        status := { x.status with queued, running := some name }, phase := .opening left name }
  | opened {left : Nat} {name : String} (system : System) : x.phase = .opening left name →
      Outcome x { x with
        system,
        phase := if system.job.isSome then .reading left name else .finishing left name }
  | read {left : Nat} {name : String} {system : System} : x.phase = .reading left name →
      (system.job.isSome → toRead system.job < toRead x.system.job) →
      Outcome x { x with
        system,
        phase := if system.job.isSome then .reading left name else .finishing left name }
  | finished {left : Nat} {name : String} : x.phase = .finishing left name →
      x.status.running = some name →
      Outcome x { x with
        status := { x.status with running := none, finished := x.status.finished ++ [name] }
        phase := .round left }

omit [Gzip] [Chrono] in
/-- The first line of the report leaves the messages to be read. -/
theorem toRead_writeMetadata [Build] [Sidecar] (config : AnalyzerConfig)
    (deviceMetadata : DeviceMetadata) (s : System) {j : Job} (hj : j.writer.isNone = true)
    (readFault : Option IoError) (fault : WriteFault)
    (h : (s.writeMetadata config deviceMetadata j readFault fault).job.isSome = true) :
    toRead (s.writeMetadata config deviceMetadata j readFault fault).job < toRead (some j) := by
  unfold System.writeMetadata at h ⊢
  simp only at h ⊢
  split at h
  · cases h
  · simp [toRead, hj]

omit [Gzip] in
/-- A message read and analysed is one less to read. -/
theorem toRead_analyzePacket (s : System) {j : Job} {w : AnalysisWriter} (hw : j.writer = some w)
    (fault : WriteFault) (h : (s.analyzePacket j w fault).job.isSome = true) :
    toRead (s.analyzePacket j w fault).job < toRead (some j) := by
  unfold System.analyzePacket at h ⊢
  have hlen := @QmdlMessageReader.getNextMessage_length _ j.reader
  generalize j.reader.getNextMessage = p at h hlen ⊢
  obtain ⟨result, reader⟩ := p
  cases result with
  | error e => cases h
  | ok item =>
    cases item with
    | none => cases h
    | some item =>
      have hlt := hlen rfl
      simp only at h hlt ⊢
      split at h
      · cases h
      · simpa [toRead, hw] using hlt

section
variable [Build] [Sidecar] {config : AnalyzerConfig}

/-- Every step of a worker that can read is one of these. -/
theorem Inv.outcome {x y : AnalysisThread} (h : x.Inv) {w : WorkerStep} (hr : x.Readable w)
    (hst : x.work config w = some y) : Outcome x y := by
  cases w with
  | recv =>
    simp only [work] at hst
    split at hst
    · next hp =>
      unfold recv at hst
      split at hst
      · cases hst
      · next hi => cases hst; exact .newFiles hp hi
      · next hi => cases hst; exact .recordingFinished hp hi
      · next hi => cases hst; exact .exit hp hi
    · cases hst
  | count =>
    simp only [work] at hst
    split at hst
    · next hp => cases hst; exact .counted hp
    · cases hst
  | dequeue =>
    simp only [work] at hst
    split at hst
    · next left hp =>
      have henough := h.enough
      have hrunning := h.running
      rw [hp] at henough hrunning
      cases hst
      unfold dequeue
      cases hq : x.status.queued with
      | nil => rw [hq] at henough; cases henough
      | cons name queued =>
        rw [hrunning]
        exact .dequeued hp hq hrunning
    · cases hst
  | openRecording io probe =>
    simp only [work] at hst
    split at hst
    · next left name hp =>
      cases hst
      unfold openRecording
      simp only
      split
      · next hnone =>
        have := Outcome.opened (x.system.beginAnalysis name io) hp
        rwa [hnone] at this
      · next j hsome =>
        exact .opened { x.system.beginAnalysis name io with job := some (x.unprobed probe j) } hp
    · cases hst
  | metadata deviceMetadata readFault fault =>
    simp only [work] at hst
    split at hst
    · next left name j hp hj =>
      split at hst
      · next hw =>
        cases hst
        refine .read hp fun hsome => ?_
        rw [hj]
        exact toRead_writeMetadata config deviceMetadata x.system hw readFault fault hsome
      · cases hst
    · cases hst
  | packet readFault fault =>
    simp only [work] at hst
    split at hst
    · next left name j hp hj =>
      obtain ⟨w, hw, rfl⟩ := Option.map_eq_some_iff.1 hst
      obtain ⟨rfl, hread⟩ := hr
      obtain ⟨item, hitem⟩ := (j.reader.getNextMessage_ok_iff).2 (hread j hj)
      unfold packet
      rw [hitem]
      refine .read hp fun hsome => ?_
      rw [hj]
      exact toRead_analyzePacket x.system hw fault hsome
    · cases hst
  | finish =>
    simp only [work] at hst
    split at hst
    · next left name hp =>
      have hrunning := h.running
      rw [hp] at hrunning
      cases hst
      unfold finish
      rw [hrunning]
      exact .finished hp hrunning
    · cases hst

end

/-! ## The invariant -/

omit [Gzip] [SerdeJson] [Chrono] in
/-- What is between the steps stays so. -/
theorem Inv.ofOutcome {x y : AnalysisThread} (h : x.Inv) (ho : Outcome x y) : y.Inv := by
  obtain ⟨-, hrunning, henough, htold, hjob⟩ := h
  have hnojob : (∀ left name, x.phase ≠ .reading left name) → x.system.job = none := by
    intro hne
    rw [← Option.not_isSome_iff_eq_none, hjob]
    rintro ⟨left, name, hp⟩
    exact hne left name hp
  cases ho with
  | newFiles hp hi =>
    rw [hp] at hrunning
    exact ⟨nofun, hrunning, Nat.zero_le _, .inr (.inl rfl), by simp [hnojob (by simp [hp])]⟩
  | recordingFinished hp hi =>
    refine ⟨by simp [hp], hrunning, henough, ?_, hjob⟩
    rcases htold with hx | hx | hx | hx
    · exact .inl hx
    · exact .inr (.inl hx)
    · rw [hi] at hx
      exact .inr (.inr (.inl (by simpa using hx)))
    · exact .inr (.inr (.inr hx))
  | exit hp hi =>
    rw [hp] at hrunning
    exact ⟨nofun, hrunning, Nat.zero_le _, .inl rfl, by simp [hnojob (by simp [hp])]⟩
  | counted hp =>
    rw [hp] at hrunning
    exact ⟨nofun, hrunning, le_refl _, .inr (.inr (.inr (le_refl _))),
      by simp [hnojob (by simp [hp])]⟩
  | dequeued hp hq hr =>
    rw [hp, hq] at henough htold
    refine ⟨nofun, rfl, Nat.le_of_succ_le_succ henough, ?_, by simp [hnojob (by simp [hp])]⟩
    rcases htold with hx | hx | hx | hx
    · cases hx
    · cases hx
    · exact .inr (.inr (.inl hx))
    · exact .inr (.inr (.inr (Nat.le_of_succ_le_succ hx)))
  | @opened left name system hp =>
    rw [hp] at hrunning henough htold
    have htold' := htold.resolve_left nofun |>.resolve_left nofun
    cases hs : system.job with
    | none => exact ⟨nofun, hrunning, henough, .inr (.inr htold'), by simp [hs]⟩
    | some j => exact ⟨nofun, hrunning, henough, .inr (.inr htold'), by simp [hs]⟩
  | @read left name system hp hlt =>
    rw [hp] at hrunning henough htold
    have htold' := htold.resolve_left nofun |>.resolve_left nofun
    cases hs : system.job with
    | none => exact ⟨nofun, hrunning, henough, .inr (.inr htold'), by simp [hs]⟩
    | some j => exact ⟨nofun, hrunning, henough, .inr (.inr htold'), by simp [hs]⟩
  | finished hp hr =>
    rw [hp] at henough htold
    have htold' := htold.resolve_left nofun |>.resolve_left nofun
    exact ⟨nofun, rfl, henough, .inr (.inr htold'), by simp [hnojob (by simp [hp])]⟩

omit [Gzip] [SerdeJson] [Chrono] in
/-- A message more changes nothing for the worker. -/
theorem Inv.send {x y : AnalysisThread} (h : x.Inv) {message : AnalysisCtrlMessage}
    (hst : x.send message = some y) : y.Inv := by
  unfold AnalysisThread.send at hst
  split at hst
  · cases hst
    refine ⟨h.alive, h.running, h.enough, ?_, h.job⟩
    rcases h.told with hx | hx | hx | hx
    · exact .inl hx
    · exact .inr (.inl hx)
    · exact .inr (.inr (.inl (List.mem_append_left _ hx)))
    · exact .inr (.inr (.inr hx))
  · cases hst

omit [Gzip] [SerdeJson] [Chrono] in
/-- A request that queues a recording tells the worker. -/
theorem Inv.startAnalysis {x y : AnalysisThread} (h : x.Inv) {name : String}
    (hst : AnalysisThread.send
      { x with status := { x.status with queued := x.status.queued ++ [name] } } .newFilesQueued =
        some y) : y.Inv := by
  unfold AnalysisThread.send at hst
  split at hst
  · cases hst
    refine ⟨h.alive, h.running, ?_, .inr (.inr (.inl ?_)), h.job⟩
    · have := h.enough
      simp only [List.length_append, List.length_singleton]
      omega
    · simp
  · cases hst

section
variable [Build] [Sidecar] {config : AnalyzerConfig}

/-- So it is in every state of a run of readable steps. -/
theorem Inv.step {x y : AnalysisThread} (h : x.Inv) {i : ThreadStep} (hr : x.ReadableStep i)
    (hst : x.step config i = some y) : y.Inv := by
  cases i with
  | startAnalysis name =>
    simp only [AnalysisThread.step] at hst
    rcases x.status.request_cases x.system.storage.store name with hq | ⟨name', -, hq⟩
    · rw [hq] at hst; cases hst; exact h
    · rw [hq] at hst; exact h.startAnalysis hst
  | recordingFinished name => exact h.send hst
  | exit => exact h.send hst
  | others s => cases hst; exact ⟨h.alive, h.running, h.enough, h.told, h.job⟩
  | worker w => exact h.ofOutcome (h.outcome hr hst)

theorem inv_of_reach {x : AnalysisThread} (h : Reach Init (step config) ReadableStep x) : x.Inv :=
  h.invariant
    (fun x ⟨hstatus, hjob, hinbox, hphase⟩ => by
      refine ⟨by simp [hphase], ?_, ?_, .inr (.inr (.inr ?_)), ?_⟩ <;>
        simp [hphase, hstatus, hjob, AnalysisStatus.new, WorkerPhase.name, WorkerPhase.left])
    fun _ _ _ hx hr hst => hx.step hr hst

/-! ## Coming to the end of the queue -/

/-- How far a message or a recording in hand is from its end. -/
def WorkerPhase.stage : WorkerPhase → Nat
  | .opening _ _ => 3
  | .reading _ _ => 2
  | .finishing _ _ => 1
  | .round _ | .counting | .exited | .panicked => 0

/-- What the worker has before it: messages, then recordings, then what is left of one. -/
def rank (x : AnalysisThread) : ℕ ×ₗ ℕ ×ₗ ℕ :=
  toLex (2 * x.inbox.length + (if x.phase = .counting then 1 else 0),
    toLex (4 * x.phase.left + WorkerPhase.stage x.phase, toRead x.system.job))

omit [Gzip] [SerdeJson] [Chrono] [Build] [Sidecar] in
/-- A step leaves less before it. -/
theorem Outcome.rank_lt {x y : AnalysisThread} (h : Outcome x y) : y.rank < x.rank := by
  cases h with
  | newFiles hp hi | recordingFinished hp hi | exit hp hi =>
    simp [rank, hp, hi, Prod.Lex.toLex_lt_toLex]
    try omega
  | counted hp => simp [rank, hp, Prod.Lex.toLex_lt_toLex]
  | dequeued hp hq hr =>
    simp [rank, hp, WorkerPhase.stage, WorkerPhase.left, Prod.Lex.toLex_lt_toLex]
    omega
  | @opened left name system hp =>
    cases hs : system.job <;>
      simp [rank, hp, hs, WorkerPhase.stage, WorkerPhase.left, Prod.Lex.toLex_lt_toLex]
  | @read left name system hp hlt =>
    cases hs : system.job with
    | none => simp [rank, hp, hs, WorkerPhase.stage, WorkerPhase.left, Prod.Lex.toLex_lt_toLex]
    | some j =>
      have := hlt (by rw [hs]; rfl)
      rw [hs] at this
      simp [rank, hp, hs, WorkerPhase.stage, WorkerPhase.left, Prod.Lex.toLex_lt_toLex, this]
  | finished hp hr =>
    simp [rank, hp, WorkerPhase.stage, WorkerPhase.left, Prod.Lex.toLex_lt_toLex]

/-- What the worker has come to from a state: what was known there still is, and if it has been told
to exit it had been there. -/
structure Follows (x y : AnalysisThread) : Prop where
  knows : ∀ name, x.status.Knows name → y.status.Knows name
  told : .exit ∈ y.inbox → .exit ∈ x.inbox
  exited : y.phase = .exited → x.phase = .exited ∨ .exit ∈ x.inbox

omit [Gzip] [SerdeJson] [Chrono] [Build] [Sidecar] in
theorem Follows.refl (x : AnalysisThread) : Follows x x := ⟨fun _ h => h, id, .inl⟩

omit [Gzip] [SerdeJson] [Chrono] [Build] [Sidecar] in
/-- A step takes no name away. -/
theorem Follows.ofOutcome {x y z : AnalysisThread} (h : Follows x y) (ho : Outcome y z) :
    Follows x z := by
  obtain ⟨hknows, htold, hexited⟩ := h
  cases ho with
  | newFiles hp hi =>
    exact ⟨hknows, fun hm => htold (by rw [hi]; exact List.mem_cons_of_mem _ hm), nofun⟩
  | recordingFinished hp hi =>
    refine ⟨fun name hn => ?_, fun hm => htold (by rw [hi]; exact List.mem_cons_of_mem _ hm),
      hexited⟩
    rcases hknows name hn with hq | hr | hf
    · exact .inl hq
    · exact .inr (.inl hr)
    · exact .inr (.inr (List.mem_append_left _ hf))
  | exit hp hi =>
    have hx : .exit ∈ x.inbox := htold (by rw [hi]; exact List.mem_cons_self ..)
    exact ⟨hknows, fun _ => hx, fun _ => .inr hx⟩
  | counted hp => exact ⟨hknows, htold, nofun⟩
  | dequeued hp hq hr =>
    refine ⟨fun name hn => ?_, htold, nofun⟩
    rcases hknows name hn with hn | hn | hn
    · rw [hq] at hn
      rcases List.mem_cons.1 hn with rfl | hn
      · exact .inr (.inl rfl)
      · exact .inl hn
    · rw [hr] at hn; cases hn
    · exact .inr (.inr hn)
  | @opened left name system hp | @read left name system hp =>
    refine ⟨hknows, htold, fun hx => ?_⟩
    split at hx <;> cases hx
  | finished hp hr =>
    refine ⟨fun name hn => ?_, htold, nofun⟩
    rcases hknows name hn with hn | hn | hn
    · exact .inl hn
    · rw [hr] at hn
      cases hn
      exact .inr (.inr (List.mem_append_right _ (List.mem_singleton_self _)))
    · exact .inr (.inr (List.mem_append_left _ hn))

/-- A worker that has not served everything has something to do. -/
theorem Inv.goes_on {x y : AnalysisThread} (h : y.Inv) (hf : Follows x y) :
    x.ServedFrom y ∨ ∃ w z, y.work config w = some z := by
  cases hp : y.phase with
  | round left =>
    cases left with
    | zero =>
      cases hi : y.inbox with
      | nil =>
        have hrunning := h.running
        have htold := h.told
        rw [hp] at hrunning
        simp only [hp, hi, WorkerPhase.left, List.not_mem_nil, false_or, Nat.le_zero,
          List.length_eq_zero_iff, reduceCtorEq] at htold
        refine .inl (.inl ⟨hp, hi, htold, hrunning, fun name hn => ?_⟩)
        rcases hf.knows name hn with hn | hn | hn
        · rw [htold] at hn; cases hn
        · rw [hrunning] at hn; cases hn
        · exact hn
      | cons message inbox =>
        right
        cases message <;> exact ⟨.recv, _, by simp only [work, if_pos hp, recv, hi]; rfl⟩
    | succ left => exact .inr ⟨.dequeue, _, by simp only [work, hp]; rfl⟩
  | counting => exact .inr ⟨.count, _, by simp only [work, hp]; rfl⟩
  | opening left name => exact .inr ⟨.openRecording {} none, _, by simp only [work, hp]; rfl⟩
  | reading left name =>
    right
    obtain ⟨j, hj⟩ := Option.isSome_iff_exists.1 (h.job.2 ⟨left, name, hp⟩)
    cases hw : j.writer with
    | none => exact ⟨.metadata ⟨[]⟩ none none, _, by simp only [work, hp, hj, hw]; rfl⟩
    | some w => exact ⟨.packet none none, _, by simp only [work, hp, hj, hw]; rfl⟩
  | finishing left name => exact .inr ⟨.finish, _, by simp only [work, hp]; rfl⟩
  | exited => exact .inl (.inr ⟨hp, hf.exited hp⟩)
  | panicked => exact absurd hp h.alive

/-- A step that is not readable loses the worker. -/
theorem panicked_of_not_readable {x y : AnalysisThread} {w : WorkerStep} (hr : ¬ x.Readable w)
    (hst : x.work config w = some y) : y.phase = .panicked := by
  cases w with
  | packet readFault fault =>
    simp only [work] at hst
    split at hst
    · next left name j hp hj =>
      obtain ⟨w, -, rfl⟩ := Option.map_eq_some_iff.1 hst
      unfold packet
      split
      · next hitem =>
        refine absurd ⟨rfl, fun j' hj' => ?_⟩ hr
        rw [hj] at hj'
        cases hj'
        exact (j.reader.getNextMessage_ok_iff).1 ⟨_, hitem⟩
      · rfl
    · cases hst
  | recv | count | dequeue | openRecording | metadata | finish => exact absurd trivial hr

/-- A worker that is lost stays lost, with the recording it had in hand still running. -/
theorem panicked_step {x y : AnalysisThread} (hp : x.phase = .panicked) {i : ThreadStep}
    (hst : x.step config i = some y) :
    y.phase = .panicked ∧ y.status.running = x.status.running ∧
      y.status.finished = x.status.finished := by
  have hsend : ∀ (z : AnalysisThread) message, z.send message = some y →
      y.phase = z.phase ∧ y.status = z.status := by
    intro z message hz
    unfold AnalysisThread.send at hz
    split at hz <;> cases hz
    exact ⟨rfl, rfl⟩
  cases i with
  | startAnalysis name =>
    simp only [AnalysisThread.step] at hst
    rcases x.status.request_cases x.system.storage.store name with hq | ⟨name', -, hq⟩ <;>
      rw [hq] at hst
    · cases hst; exact ⟨hp, rfl, rfl⟩
    · obtain ⟨hphase, hstatus⟩ := hsend _ _ hst
      exact ⟨hphase.trans hp, by rw [hstatus], by rw [hstatus]⟩
  | recordingFinished name | exit =>
    obtain ⟨hphase, hstatus⟩ := hsend _ _ hst
    exact ⟨hphase.trans hp, by rw [hstatus], by rw [hstatus]⟩
  | others s => cases hst; exact ⟨hp, rfl, rfl⟩
  | worker w => cases w <;> simp [AnalysisThread.step, work, hp] at hst

end

end AnalysisThread

/-! ## A damaged recording -/

/-- Gzip with stored blocks, where a block of the type the format reserves is an error. -/
@[reducible] def strictGzip : Gzip where
  encode := storedEncode
  decode stream :=
    match stream.drop storedHeader.length with
    | [] => storedDecode stream
    | b :: _ =>
      if b &&& 6 = 6 then ([], some ⟨.other, "corrupt deflate stream"⟩) else storedDecode stream

/-- A recording that is not being made. -/
def closedEntry : ManifestEntry := @ManifestEntry.new deviceBuild .disabled anInstant 0

/-- A store with that recording, of some content, and an empty report. -/
def storageOf (content : FileContent) : Storage where
  store := ⟨defaultStorePath, ⟨[closedEntry]⟩, none⟩
  device :=
    { disk := ((Disk.mk fun _ => none).set (closedEntry.getFilepath .qmdl defaultStorePath)
        (some content)).set (closedEntry.getFilepath .analysis defaultStorePath) (some (.text ""))
      entrySequence := 1 }

/-- The worker when the daemon has just started with that store. -/
def startedWith (content : FileContent) : AnalysisThread :=
  ⟨.start (storageOf content), .new (storageOf content).store, [], .round 0⟩

/-- The header of a gzip stream and a block of the reserved type. -/
def damagedStream : List UInt8 := storedHeader ++ [7]

end Rayhunter
