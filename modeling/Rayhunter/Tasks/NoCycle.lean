import Rayhunter.Lib.Reach
import Rayhunter.Tasks.Locks

/-!
# No tasks of the daemon wait in a cycle

The locks are taken in one order, so a cycle goes through a channel. Where every send with a lock in
hand finds its way, only the worker's channel is waited for by somebody who holds one, and then the
worker does not wait.
-/

namespace Rayhunter

open Runs Sync Machine Relation

/-! ## The discipline -/

/-- `analysis_status_lock` is taken before `qmdl_store_lock`. -/
def lockRank : DaemonLock → ℕ
  | .status => 0
  | .store => 1

/-- What the tasks hold when they send. -/
def maySend : Task → List (DaemonLock × Mode) → DaemonChannel → Prop
  | .request _, held, .analysis => (.status, .write) ∈ held ∧ (.store, .read) ∈ held
  | .diag, held, .analysis => (.store, .write) ∈ held
  | .shutdown, held, _ => (.store, .write) ∈ held
  | .client _, held, .control => held = []
  | _, _, _ => False

section
variable {t : Task} {rest : List DaemonOp}

/-- A lock used by itself leaves nothing held. -/
theorem fits_useLock {l : DaemonLock} {m : Mode} (h : Fits lockRank (maySend t) [] rest) :
    Fits lockRank (maySend t) [] (useLock l m ++ rest) := by
  simpa [useLock, Fits] using h

theorem fits_useLock_alone {l : DaemonLock} {m : Mode} :
    Fits lockRank (maySend t) [] (useLock l m) := by
  simpa using fits_useLock (t := t) (l := l) (m := m) (show Fits lockRank (maySend t) [] [] from rfl)

theorem fits_startAnalysisProgram (i : Nat) (queued : Bool) :
    Fits lockRank (maySend (.request i)) [] (startAnalysisProgram queued) := by
  cases queued <;> simp [startAnalysisProgram, Fits, lockRank, maySend]

theorem fits_recorderProgram (finished : List String) :
    Fits lockRank (maySend .diag) [] (recorderProgram finished) := by
  have hsends : Fits lockRank (maySend .diag) [(.store, .write)]
      (finished.map (fun name => Op.send DaemonChannel.analysis
        (DaemonMessage.analysis (.recordingFinished name))) ++ [.release .store .write]) := by
    induction finished with
    | nil => simp [Fits]
    | cons name finished ih => exact ⟨by simp [maySend], ih⟩
  exact ⟨by simp, hsends⟩

theorem fits_controlProgram (finished : List String) (built : Bool) (message : DaemonMessage) :
    Fits lockRank (maySend .diag) [] (controlProgram finished built message) := by
  cases message with
  | analysis message => rfl
  | control message =>
    cases message with
    | exit => exact fits_useLock rfl
    | gpsUpdate => exact fits_useLock_alone
    | injectDemo =>
      cases built with
      | true => exact fits_recorderProgram finished
      | false => rfl
    | startRecording | stopRecording | switchStore | deleteEntry | deleteAllEntries =>
      exact fits_recorderProgram finished

theorem fits_analysisProgram (count : Nat) (message : DaemonMessage) :
    Fits lockRank (maySend .worker) [] (analysisProgram count message) := by
  cases message with
  | control message => rfl
  | analysis message =>
    cases message with
    | exit => rfl
    | recordingFinished name => exact fits_useLock_alone
    | newFilesQueued =>
      refine fits_useLock ?_
      induction count with
      | zero => rfl
      | succ count ih =>
        rw [List.replicate_succ, List.flatten_cons, recordingProgram, List.append_assoc,
          List.append_assoc]
        exact fits_useLock (fits_useLock (fits_useLock ih))

theorem fits_shutdownProgram (closes : Bool) :
    Fits lockRank (maySend .shutdown) [] (shutdownProgram closes) := by
  cases closes <;> simp [shutdownProgram, Fits, maySend]

end

namespace Daemon

/-! ## The invariant -/

/-- What is between the steps of the daemon. -/
structure Calm (s : Daemon) : Prop where
  inv : Inv lockRank maySend s
  room : ∀ c, (s.chan c).messages.length ≤ channelRoom c
  returns : (s.chan .analysis).senders ≠ [] → s.Returns
  shutdown : .shutdown ∉ (s.chan .control).senders.map Prod.fst

/-- What a task holds that comes to a channel. -/
theorem mays_of_send {s : Daemon} (h : Inv lockRank maySend s) {t : Task} {c : DaemonChannel}
    {message : DaemonMessage} {rest : List DaemonOp} (ht : s.todo t = .send c message :: rest) :
    ∃ held, (∀ l m, (t, m) ∈ (s.lock l).held ↔ (l, m) ∈ held) ∧ maySend t held c := by
  obtain ⟨held, hh⟩ := h.holds t
  have hfits := hh.fits
  rw [ht] at hfits
  exact ⟨held, hh.mem, hfits.1⟩

theorem mays_of_sending {s : Daemon} (h : Inv lockRank maySend s) {t : Task} {c : DaemonChannel}
    (ht : t ∈ (s.chan c).senders.map Prod.fst) :
    ∃ held, (∀ l m, (t, m) ∈ (s.lock l).held ↔ (l, m) ∈ held) ∧ maySend t held c := by
  obtain ⟨⟨t', message⟩, hmem, rfl⟩ := List.mem_map.1 ht
  obtain ⟨rest, hrest⟩ := h.sending c t' message hmem
  exact mays_of_send h hrest

/-- Who comes to the worker's channel holds the store's lock, and if only to read then the other lock
as well. -/
theorem holds_of_maySend {s : Daemon} {t : Task} {held : List (DaemonLock × Mode)}
    (hmem : ∀ l m, (t, m) ∈ (s.lock l).held ↔ (l, m) ∈ held) (hmay : maySend t held .analysis) :
    (∃ m, (t, m) ∈ (s.lock .store).held) ∧
      ((t, .write) ∈ (s.lock .store).held ∨ (t, .write) ∈ (s.lock .status).held) := by
  simp only [hmem]
  cases t with
  | request i => exact ⟨⟨_, hmay.2⟩, .inr hmay.1⟩
  | diag | shutdown => exact ⟨⟨_, hmay⟩, .inl hmay⟩
  | worker | client i => exact hmay.elim

/-- So no two tasks do. -/
theorem senders_analysis {s : Daemon} (h : Inv lockRank maySend s) :
    (s.chan .analysis).senders.length ≤ 1 := by
  have alone : ∀ {l : DaemonLock} {t u : Task} {m : Mode}, (t, .write) ∈ (s.lock l).held →
      (u, m) ∈ (s.lock l).held → t = u := by
    intro l t u m ht hu
    rw [h.exclusive l _ ht rfl] at hu
    exact (Prod.mk.inj (List.mem_singleton.1 hu)).1.symm
  have same : ∀ t u, t ∈ (s.chan .analysis).senders.map Prod.fst →
      u ∈ (s.chan .analysis).senders.map Prod.fst → t = u := by
    intro t u ht hu
    obtain ⟨_, hmem, hmay⟩ := mays_of_sending h ht
    obtain ⟨_, hmem', hmay'⟩ := mays_of_sending h hu
    obtain ⟨⟨m, hts⟩, ht⟩ := holds_of_maySend hmem hmay
    obtain ⟨⟨m', hus⟩, hu⟩ := holds_of_maySend hmem' hmay'
    rcases ht with ht | ht
    · exact alone ht hus
    · rcases hu with hu | hu
      · exact (alone hu hts).symm
      · exact alone ht hu
  have hnodup := h.senders_nodup .analysis
  cases hs : (s.chan .analysis).senders with
  | nil => simp
  | cons w senders =>
    cases senders with
    | nil => simp
    | cons w' senders =>
      rw [hs] at hnodup same
      have heq := same w.1 w'.1 (by simp) (by simp)
      simp [heq] at hnodup

/-- A channel somebody comes to when it is open has nobody waiting afterwards. -/
theorem senders_of_open {s : Daemon} {c : DaemonChannel} (hopen : s.Open c) (t : Task)
    (message : DaemonMessage) :
    (((s.offer t c message).deliver channelRoom c).chan c).senders = [] := by
  rw [deliver_senders]
  rcases hopen with hclosed | ⟨hnil, hroom⟩
  · simp [offer, hclosed]
  · split
    · rfl
    · have : 1 ≤ channelRoom c - (s.chan c).messages.length := by omega
      simpa [offer, hnil] using this

/-- A worker on its way stays on it. -/
theorem Returns.suffix {s s' : Daemon} (h : s.Returns)
    (hs : s'.todo .worker <:+ s.todo .worker) : s'.Returns := fun op hop => h op (hs.subset hop)

/-- A step of a task that changes no channel leaves the daemon calm. -/
theorem Calm.frame {s s' : Daemon} (h : s.Calm) (hinv : Inv lockRank maySend s')
    (hchan : s'.chan = s.chan) (htodo : s'.todo .worker <:+ s.todo .worker) : s'.Calm :=
  ⟨hinv, by rw [hchan]; exact h.room, fun hs => (h.returns (by rwa [hchan] at hs)).suffix htodo,
    by rw [hchan]; exact h.shutdown⟩

/-- A message for a channel leaves the daemon calm, where it gets through at once or the worker is on
its way to it. -/
theorem Calm.send {s : Daemon} (h : s.Calm) {t : Task} {c : DaemonChannel}
    {message : DaemonMessage} {rest : List DaemonOp} (ht : s.todo t = .send c message :: rest)
    (hinv : Inv lockRank maySend ((s.offer t c message).deliver channelRoom c))
    (hopen : s.HasLock t → s.Open c ∨ c = .analysis ∧ s.Returns) :
    Calm ((s.offer t c message).deliver channelRoom c) := by
  obtain ⟨-, hother, htodo⟩ := deliver_frame channelRoom (s.offer t c message) c
  have hsame : ∀ c', c' ≠ c →
      ((s.offer t c message).deliver channelRoom c).chan c' = s.chan c' := fun c' hc => by
    rw [hother c' hc]
    simp [offer, hc]
  obtain ⟨held, hmem, hmay⟩ := mays_of_send h.inv ht
  refine ⟨hinv, fun c' => ?_, fun hs => ?_, fun hmem' => ?_⟩
  · by_cases hc : c' = c
    · subst hc
      exact deliver_messages_le (by simpa [offer] using h.room c')
    · rw [hsame c' hc]
      exact h.room c'
  · cases c with
    | control =>
      rw [hsame .analysis (by decide)] at hs
      exact (h.returns hs).suffix (htodo _)
    | analysis =>
      obtain ⟨⟨m, hm⟩, -⟩ := holds_of_maySend hmem hmay
      rcases hopen ⟨_, m, hm⟩ with hopen | ⟨-, hreturns⟩
      · exact absurd (senders_of_open hopen t message) hs
      · exact hreturns.suffix (htodo _)
  · cases c with
    | analysis =>
      rw [hsame .control (by decide)] at hmem'
      exact h.shutdown hmem'
    | control =>
      by_cases htask : t = .shutdown
      · subst htask
        have hopen := (hopen ⟨_, _, (hmem _ _).2 hmay⟩).resolve_right (by simp)
        rw [senders_of_open hopen] at hmem'
        cases hmem'
      · obtain ⟨w, hw, hname⟩ := List.mem_map.1 hmem'
        rw [deliver_senders] at hw
        split at hw
        · cases hw
        · have hold := List.mem_of_mem_drop hw
          simp only [offer, Function.update_self, List.mem_append, List.mem_singleton] at hold
          rcases hold with hold | rfl
          · exact h.shutdown (List.mem_map.2 ⟨w, hold, hname⟩)
          · exact htask hname

/-- A receiver that goes away leaves the daemon calm. -/
theorem Calm.shut {s : Daemon} (h : s.Calm) {t : Task} {c : DaemonChannel}
    (hinv : Inv lockRank maySend ((s.shut t c).deliver channelRoom c)) :
    Calm ((s.shut t c).deliver channelRoom c) := by
  obtain ⟨-, hother, htodo⟩ := deliver_frame channelRoom (s.shut t c) c
  have hsame : ∀ c', c' ≠ c → ((s.shut t c).deliver channelRoom c).chan c' = s.chan c' :=
    fun c' hc => by
      rw [hother c' hc]
      simp [Machine.shut, hc]
  have hnil : (((s.shut t c).deliver channelRoom c).chan c).senders = [] := by
    rw [deliver_senders]
    simp [Machine.shut]
  refine ⟨hinv, fun c' => ?_, fun hs => ?_, fun hmem => ?_⟩
  · by_cases hc : c' = c
    · subst hc
      exact deliver_messages_le (by simp [Machine.shut])
    · rw [hsame c' hc]
      exact h.room c'
  · by_cases hc : DaemonChannel.analysis = c
    · subst hc
      exact absurd hnil hs
    · rw [hsame _ hc] at hs
      exact (h.returns hs).suffix ((htodo _).trans (s.advance_suffix t _))
  · by_cases hc : DaemonChannel.control = c
    · subst hc
      rw [hnil] at hmem
      cases hmem
    · rw [hsame _ hc] at hmem
      exact h.shutdown hmem

theorem Calm.run {s s' : Daemon} (h : s.Calm) {t : Task} (hopen : s.SendsOpen (.run t))
    (hst : s.run channelRoom t = some s') : s'.Calm := by
  have hinv := h.inv.run hst
  unfold Machine.run at hst
  split at hst
  · cases hst
  · next l m rest ht =>
    split at hst
    · cases hst
    · cases hst
      obtain ⟨hchan, htodo⟩ := settle_frame (s.ask t l m) l
      exact h.frame hinv hchan (htodo _)
  · next l m rest ht =>
    cases hst
    obtain ⟨hchan, htodo⟩ := settle_frame (s.drop t l m) l
    exact h.frame hinv hchan ((htodo _).trans (s.advance_suffix t _))
  · next c message rest ht =>
    split at hst
    · cases hst
    · next hnew =>
      cases hst
      exact h.send ht hinv (hopen c message rest ht)
  · next c rest ht =>
    cases hst
    exact h.shut hinv

/-- A task that takes up a message leaves the daemon calm: nobody waits to send to the worker once
it has. -/
theorem Calm.receive {s s' : Daemon} (h : s.Calm) {t : Task} {c : DaemonChannel}
    (htask : t = .worker ↔ c = .analysis) {program : DaemonMessage → List DaemonOp}
    (hp : ∀ message, Fits lockRank (maySend t) [] (program message))
    (hst : s.receive channelRoom t c program = some s') : s'.Calm := by
  have hinv := h.inv.receive hp hst
  unfold Machine.receive at hst
  split at hst
  · next message messages ht hmessages =>
    cases hst
    set s₁ : Daemon := { s with
      todo := Function.update s.todo t (program message)
      chan := Function.update s.chan c { s.chan c with messages } } with hs₁
    obtain ⟨-, hother, htodo⟩ := deliver_frame channelRoom s₁ c
    have hsame : ∀ c', c' ≠ c → (s₁.deliver channelRoom c).chan c' = s.chan c' := fun c' hc => by
      rw [hother c' hc]
      simp [hs₁, hc]
    have hroom := h.room c
    rw [hmessages, List.length_cons] at hroom
    have hsenders : ((s₁.deliver channelRoom c).chan c).senders ⊆ (s.chan c).senders := by
      rw [deliver_senders]
      split
      · exact List.nil_subset _
      · intro w hw
        simpa [hs₁] using List.mem_of_mem_drop hw
    refine ⟨hinv, fun c' => ?_, fun hs => ?_, fun hmem => ?_⟩
    · by_cases hc : c' = c
      · subst hc
        exact deliver_messages_le (by simp [hs₁]; omega)
      · rw [hsame c' hc]
        exact h.room c'
    · by_cases hc : c = .analysis
      · subst hc
        refine absurd ?_ hs
        have hone := senders_analysis h.inv
        rw [deliver_senders]
        split
        · rfl
        · refine List.drop_eq_nil_of_le ?_
          simp only [hs₁, Function.update_self]
          omega
      · rw [hsame _ (Ne.symm hc)] at hs
        refine (h.returns hs).suffix ((htodo _).trans ?_)
        have hne : Task.worker ≠ t := fun heq => hc (htask.1 heq.symm)
        simp [hs₁, hne]
    · by_cases hc : c = .control
      · subst hc
        obtain ⟨w, hw, hname⟩ := List.mem_map.1 hmem
        exact h.shutdown (List.mem_map.2 ⟨w, hsenders hw, hname⟩)
      · rw [hsame _ (Ne.symm hc)] at hmem
        exact h.shutdown hmem
  · cases hst

theorem Calm.start {s s' : Daemon} (h : s.Calm) {t : Task} (ht : t ≠ .worker)
    {program : List DaemonOp} (hp : Fits lockRank (maySend t) [] program)
    (hst : s.start t program = some s') : s'.Calm := by
  have hinv := h.inv.start hp hst
  unfold Machine.start at hst
  split at hst
  · cases hst
    refine h.frame hinv rfl ?_
    simp [Ne.symm ht]
  · cases hst

theorem Calm.step {s s' : Daemon} (h : s.Calm) {i : TaskStep} (hopen : s.SendsOpen i)
    (hst : Daemon.step s i = some s') : s'.Calm := by
  cases i with
  | run t => exact h.run hopen hst
  | startAnalysis i queued => exact h.start (by simp) (fits_startAnalysisProgram i queued) hst
  | container finished =>
    simp only [Daemon.step] at hst
    split at hst
    · cases hst
    · exact h.start (by simp) (fits_recorderProgram finished) hst
  | deviceError =>
    simp only [Daemon.step] at hst
    split at hst
    · cases hst
    · exact h.start (by simp) (by simp [Fits]) hst
  | control finished built =>
    exact h.receive (by simp) (fits_controlProgram finished built) hst
  | message count => exact h.receive (by simp) (fits_analysisProgram count) hst
  | useLock i l m => exact h.start (by simp) fits_useLock_alone hst
  | post i message => exact h.start (by simp) (by simp [Fits, maySend]) hst

theorem Calm.init {s : Daemon} (h : s.Init) : s.Calm := by
  obtain ⟨closes, hlock, hchan, htodo⟩ := h
  have hsenders : ∀ c, (s.chan c).senders = [] := by
    intro c
    rw [hchan]
    cases c <;> rfl
  refine ⟨⟨fun t => ⟨[], List.nodup_nil, by simp [hlock], ?_⟩, by simp [hlock, Exclusive],
    by simp [hlock], by simp [hlock], by simp [hlock], by simp [hsenders], by simp [hsenders]⟩,
    fun c => ?_, by simp [hsenders], by simp [hsenders]⟩
  · rw [htodo]
    simp only
    split
    · next ht => subst ht; exact fits_shutdownProgram closes
    · rfl
  · rw [hchan]
    cases c <;> simp [channelRoom, ANALYSIS_CHANNEL]

/-! ## No cycle -/

/-- A worker on its way to its channel waits for nobody. -/
theorem Calm.worker_free {s : Daemon} (h : s.Calm) (hr : s.Returns) (u : Task) :
    ¬ WaitsFor channelReceiver s .worker u := by
  rintro (⟨l, hq, -⟩ | ⟨c, hc, -⟩)
  · obtain ⟨m, rest, htodo⟩ := h.inv.todo_of_queued hq
    exact hr (.acquire l m) (by rw [htodo]; exact List.mem_cons_self ..) trivial
  · obtain ⟨held, -, hmay⟩ := mays_of_sending h.inv hc
    exact hmay

/-- Nobody waits for who waits to send to the recorder. -/
theorem Calm.unwaited {s : Daemon} (h : s.Calm) {t : Task}
    (ht : t ∈ (s.chan .control).senders.map Prod.fst) (v : Task) :
    ¬ WaitsFor channelReceiver s v t := by
  obtain ⟨held, hmem, hmay⟩ := mays_of_sending h.inv ht
  cases t with
  | shutdown => exact absurd ht h.shutdown
  | request i | diag | worker => exact hmay.elim
  | client i =>
    obtain rfl : held = [] := hmay
    rintro (⟨l, -, hheld | hplace⟩ | ⟨c, -, hc⟩)
    · obtain ⟨⟨u, m⟩, hu, rfl⟩ := List.mem_map.1 hheld
      exact List.not_mem_nil ((hmem l m).1 hu)
    · obtain ⟨m, rest, htodo⟩ := h.inv.todo_of_queued (mem_of_place_lt hplace)
      obtain ⟨⟨u, message⟩, hu, rfl⟩ := List.mem_map.1 ht
      obtain ⟨rest', hrest⟩ := h.inv.sending _ _ _ hu
      rw [htodo] at hrest
      cases hrest
    · cases c <;> cases hc

/-- **No tasks wait for one another in a cycle**, in the runs in which nobody comes to a full channel
with a lock in hand, unless it is the worker's and the worker is on its way to it. -/
theorem no_cycle {s : Daemon} (h : Reach Init Daemon.step SendsOpen s) (t : Task) :
    ¬ TransGen (WaitsFor channelReceiver s) t t := by
  have hcalm : s.Calm := h.invariant (fun _ h => .init h) fun _ _ _ h ho hst => h.step ho hst
  refine hcalm.inv.acyclic (fun c t ht ⟨v, hv⟩ => ?_) t
  cases c with
  | analysis => exact hcalm.worker_free (hcalm.returns (by rintro hnil; rw [hnil] at ht; cases ht))
  | control => exact absurd hv (hcalm.unwaited ht v)

/-! ## A cycle -/

/-- The daemon has started. -/
def started : Daemon where
  lock _ := {}
  chan
    | .analysis => {}
    | .control => { messages := [.control .startRecording] }
  todo t := if t = .shutdown then shutdownProgram true else []

/-- A request that finds room for its message. -/
def wholeRequest (i : Nat) : List TaskStep :=
  .startAnalysis i true :: List.replicate 5 (.run (.request i))

/-- The worker takes up the message of a first request and has opened its recording; while it reads,
five more requests fill the channel, and a seventh waits with both locks in hand when the worker asks
for one to finish. -/
def sevenRequests : List TaskStep :=
  wholeRequest 0 ++ .message 1 :: List.replicate 6 (.run .worker) ++
    [1, 2, 3, 4, 5].flatMap wholeRequest ++
    .startAnalysis 6 true :: List.replicate 3 (.run (.request 6)) ++ [.run .worker]

theorem init_started : started.Init := ⟨true, rfl, by funext c; cases c <;> rfl, rfl⟩

/-- The worker and a request wait for one another. -/
theorem worker_and_request_wait : ¬ ∀ s : Daemon, Reach Init Daemon.step (fun _ _ => True) s →
    ∀ t, ¬ TransGen (WaitsFor channelReceiver s) t t := by
  intro h
  have hfacts : (sevenRequests.foldlM Daemon.step started).any (fun s =>
      .request 6 ∈ (s.chan .analysis).senders.map Prod.fst ∧
        .worker ∈ (s.lock .status).queue.map Prod.fst ∧
        .request 6 ∈ (s.lock .status).held.map Prod.fst) = true := by
    decide +kernel
  obtain ⟨s, hs, hw⟩ := (Option.any_eq_true _ _).1 hfacts
  obtain ⟨hsends, hqueued, hheld⟩ := of_decide_eq_true hw
  refine h s (Reach.of_foldlM (.init init_started) hs) .worker ?_
  exact .tail (.single (.inl ⟨.status, hqueued, .inl hheld⟩)) (.inr ⟨.analysis, hsends, rfl⟩)

/-- A container the recorder has asked the store's lock for. -/
theorem no_cycle_container : ∃ s : Daemon, s.todo .diag = [.release .store .write] ∧
    ∀ t, ¬ TransGen (WaitsFor channelReceiver s) t t := by
  have hrun : Reach Init Daemon.step SendsOpen _ :=
    .step (.step (.init init_started) (i := .container []) trivial rfl) (i := .run .diag) ?_ rfl
  · exact ⟨_, rfl, no_cycle hrun⟩
  · rintro c message rest ⟨⟩

end Daemon

end Rayhunter
