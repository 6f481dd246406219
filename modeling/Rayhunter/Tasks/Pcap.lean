import Mathlib.Data.List.Count
import Rayhunter.Lib.Reach
import Rayhunter.Lib.Sync

/-!
# A request that waits for itself

`get_pcap` (`daemon/src/pcap.rs`) reads the store's lock, and with that guard in hand calls
`load_gps_records_for_entry`, which reads the same lock again. The lock is fair, so where a writer has
asked for it in between, the request waits behind the writer and the writer for the request. Where at
every second reading nobody waits for the lock, no request does (`Pcap.not_waiting_for_itself`).
-/

namespace Rayhunter

open Runs Sync Machine

/-! ## The tasks -/

/-- The requests, and whatever else takes the store's lock. -/
inductive PcapTask
  | request (i : Nat)
  | other (i : Nat)
  deriving DecidableEq, Repr

/-- `qmdl_store_lock`. -/
inductive StoreLock
  | store
  deriving DecidableEq, Repr

abbrev PcapOp := Op StoreLock Empty Empty

/-- The tasks with the lock. -/
abbrev Pcap := Machine PcapTask StoreLock Empty Empty

/-- `get_pcap` (`pcap.rs:35`): its own guard, and where there is a recording to convert the one of
`load_gps_records_for_entry` (`pcap.rs:80`), which is given up first. -/
def getPcapProgram (found : Bool) : List PcapOp :=
  .acquire .store .read ::
    (if found then [.acquire .store .read, .release .store .read] else []) ++
    [.release .store .read]

/-- The steps: a task takes its next step, a request comes in, another task begins something. -/
inductive PcapStep
  | run (t : PcapTask)
  | getPcap (i : Nat) (found : Bool)
  | other (i : Nat) (program : List PcapOp)

namespace Pcap

/-- One step. -/
def step (s : Pcap) : PcapStep → Option Pcap
  | .run t => s.run nofun t
  | .getPcap i found => s.start (.request i) (getPcapProgram found)
  | .other i program => s.start (.other i) program

/-- Nobody does anything. -/
def Init (s : Pcap) : Prop :=
  (s.lock .store).held = [] ∧ (s.lock .store).queue = [] ∧ s.todo = fun _ => []

/-- A request that asks for the lock a second time finds nobody waiting for it. -/
def FindsFree (s : Pcap) : PcapStep → Prop
  | .run (.request i) => ∀ m rest, s.todo (.request i) = .acquire .store m :: rest →
      .request i ∈ (s.lock .store).held.map Prod.fst → (s.lock .store).queue = []
  | _ => True

/-! ## The invariant -/

/-- How many guards a program still gives up that it does not take. -/
def guards : List PcapOp → Nat
  | .release _ _ :: rest => guards rest + 1
  | .acquire _ _ :: rest => guards rest - 1
  | _ => 0

/-- Where a request is: it has not begun, or is so far. -/
def Shape (program : List PcapOp) : Prop :=
  program <:+ getPcapProgram true ∨ program <:+ getPcapProgram false

/-- A request that is at a lock has begun with it, or is at its second guard. -/
theorem Shape.acquire {l : StoreLock} {m : Mode} {rest : List PcapOp}
    (h : Shape (.acquire l m :: rest)) : m = .read ∧
      ((∃ found, .acquire l m :: rest = getPcapProgram found) ∨
        rest = [.release .store .read, .release .store .read]) := by
  cases l
  rcases h with h | h <;>
    simp only [getPcapProgram, if_true, Bool.false_eq_true, if_false, List.cons_append,
      List.nil_append, List.suffix_cons_iff, List.suffix_nil, List.cons.injEq, Op.acquire.injEq,
      reduceCtorEq, false_and, or_false, true_and] at h
  · rcases h with ⟨rfl, rfl⟩ | ⟨rfl, rfl⟩
    · exact ⟨rfl, .inl ⟨true, rfl⟩⟩
    · exact ⟨rfl, .inr rfl⟩
  · obtain ⟨rfl, rfl⟩ := h
    exact ⟨rfl, .inl ⟨false, rfl⟩⟩

/-- It gives up what it has read. -/
theorem Shape.release {l : StoreLock} {m : Mode} {rest : List PcapOp}
    (h : Shape (.release l m :: rest)) : m = .read := by
  rcases h with h | h <;> simp [getPcapProgram, List.suffix_cons_iff] at h <;> tauto

theorem Shape.tail {program : List PcapOp} (h : Shape program) : Shape program.tail :=
  h.imp (List.tail_suffix _).trans (List.tail_suffix _).trans

theorem shape_getPcapProgram (found : Bool) : Shape (getPcapProgram found) := by
  cases found
  · exact .inr (List.suffix_refl _)
  · exact .inl (List.suffix_refl _)

/-- What is between the steps: a request holds the guards it will give up, and waits only for its
first. -/
structure Inv (s : Pcap) : Prop where
  exclusive : Exclusive (s.lock .store).held
  shape : ∀ i, Shape (s.todo (.request i))
  count : ∀ i, (s.lock .store).held.count (.request i, .read) = guards (s.todo (.request i))
  reads : ∀ i, (.request i, .write) ∉ (s.lock .store).held
  queued : ∀ i m, (.request i, m) ∈ (s.lock .store).queue →
    m = .read ∧ ∃ found, s.todo (.request i) = getPcapProgram found
  nodup : ((s.lock .store).queue.map Prod.fst).Nodup

/-- A guard granted is the first of a request, or somebody else's. -/
theorem Inv.grantFirst {s s' : Pcap} (h : s.Inv) (hg : s.grantFirst .store = some s') : s'.Inv := by
  unfold Machine.grantFirst at hg
  cases hq : (s.lock .store).queue with
  | nil => rw [hq] at hg; cases hg
  | cons w queue =>
    obtain ⟨t, m⟩ := w
    rw [hq] at hg
    simp only at hg
    split at hg
    · next hadmits =>
      cases hg
      have hnodup := h.nodup
      rw [hq, List.map_cons, List.nodup_cons] at hnodup
      have hexclusive := h.exclusive.append (g := (t, m)) hadmits
      have hin : ∀ i m, (.request i, m) ∈ queue → PcapTask.request i ≠ t := by
        rintro i m hmem rfl
        exact hnodup.1 (List.mem_map.2 ⟨_, hmem, rfl⟩)
      have hqueued : ∀ i m, (.request i, m) ∈ queue →
          m = .read ∧ ∃ found, (s.advance t).todo (.request i) = getPcapProgram found := by
        intro i m hmem
        rw [advance_todo_of_ne s (hin i m hmem)]
        exact h.queued i m (by rw [hq]; exact List.mem_cons_of_mem _ hmem)
      refine ⟨by simpa using hexclusive, fun i => ?_, fun i => ?_, fun i hw => ?_,
        by simpa using hqueued, by simpa using hnodup.2⟩
      · by_cases hi : PcapTask.request i = t
        · subst hi
          show Shape ((s.advance _).todo _)
          rw [advance_todo_self]
          exact (h.shape i).tail
        · show Shape ((s.advance _).todo _)
          rw [advance_todo_of_ne s hi]
          exact h.shape i
      · show _ = guards ((s.advance t).todo _)
        simp only [Function.update_self, List.count_append, h.count]
        by_cases hi : PcapTask.request i = t
        · subst hi
          obtain ⟨rfl, found, htodo⟩ := h.queued i m (by rw [hq]; exact List.mem_cons_self ..)
          rw [advance_todo_self, htodo]
          cases found <;> simp [getPcapProgram, guards]
        · rw [advance_todo_of_ne s hi]
          simp [Ne.symm hi]
      · simp only [Function.update_self, List.mem_append, List.mem_singleton] at hw
        rcases hw with hw | hw
        · exact h.reads i hw
        · cases hw
          cases (h.queued i .write (by rw [hq]; exact List.mem_cons_self ..)).1
    · cases hg

theorem Inv.settle {s : Pcap} (h : s.Inv) : Inv (s.settle .store) :=
  settle_induction (fun _ _ h hg => h.grantFirst hg) h

/-- A task that asks for its first guard, or any other's, waits. -/
theorem Inv.ask {s : Pcap} (h : s.Inv) {t : PcapTask} {m : Mode}
    (ht : ∀ i, t = .request i → m = .read ∧ ∃ found, s.todo t = getPcapProgram found)
    (hq : t ∉ (s.lock .store).queue.map Prod.fst) : Inv (s.ask t .store m) := by
  refine ⟨by simpa [Machine.ask] using h.exclusive, h.shape, by simpa [Machine.ask] using h.count,
    by simpa [Machine.ask] using h.reads, fun i m' hmem => ?_, ?_⟩
  · simp only [Machine.ask, Function.update_self, List.mem_append, List.mem_singleton] at hmem
    rcases hmem with hmem | hmem
    · exact h.queued i m' hmem
    · cases hmem
      exact ht i rfl
  · simp only [Machine.ask, Function.update_self, List.map_append]
    exact h.nodup.append (List.nodup_singleton _) (List.disjoint_singleton.2 hq)

/-- A guard given up. -/
theorem Inv.drop {s : Pcap} (h : s.Inv) {t : PcapTask} {m : Mode} {rest : List PcapOp}
    (ht : s.todo t = .release .store m :: rest) : Inv (s.drop t .store m) := by
  refine ⟨?_, fun i => ?_, fun i => ?_, fun i hw => ?_, fun i m' hmem => ?_,
    by simpa [Machine.drop] using h.nodup⟩
  · simpa [Machine.drop] using h.exclusive.sublist List.erase_sublist
  · show Shape ((s.advance t).todo _)
    by_cases hi : PcapTask.request i = t
    · subst hi; rw [advance_todo_self]; exact (h.shape i).tail
    · rw [advance_todo_of_ne s hi]; exact h.shape i
  · show _ = guards ((s.advance t).todo _)
    simp only [Machine.drop, Function.update_self]
    by_cases hi : PcapTask.request i = t
    · subst hi
      have hm : m = .read := Shape.release (ht ▸ h.shape i)
      have hcount := h.count i
      rw [ht] at hcount
      subst hm
      rw [List.count_erase_self, hcount, advance_todo_self, ht]
      rfl
    · rw [List.count_erase_of_ne (by simp [hi]), advance_todo_of_ne s hi]
      exact h.count i
  · simp only [Machine.drop, Function.update_self] at hw
    exact h.reads i (List.mem_of_mem_erase hw)
  · simp only [Machine.drop, Function.update_self] at hmem
    obtain ⟨hm, found, htodo⟩ := h.queued i m' hmem
    refine ⟨hm, found, ?_⟩
    have hi : PcapTask.request i ≠ t := by
      rintro rfl
      rw [ht] at htodo
      cases found <;> cases htodo
    exact (advance_todo_of_ne s hi).trans htodo

/-- A second guard is granted at once where nobody waits for the lock. -/
theorem Inv.askAgain {s : Pcap} (h : s.Inv) {i : Nat}
    (ht : s.todo (.request i) =
      [.acquire .store .read, .release .store .read, .release .store .read])
    (hq : (s.lock .store).queue = []) (hheld : (.request i, .read) ∈ (s.lock .store).held) :
    Inv ((s.ask (.request i) .store .read).settle .store) := by
  have hadmits : admits (s.lock .store).held .read = true := by
    refine List.all_eq_true.2 fun g hg => decide_eq_true ?_
    by_contra hw
    obtain ⟨u, m⟩ := g
    cases m with
    | read => exact hw rfl
    | write =>
      rw [h.exclusive _ hg rfl] at hheld
      cases List.mem_singleton.1 hheld
  rw [settle_ask hq _ hadmits]
  refine ⟨?_, fun j => ?_, fun j => ?_, by simpa using h.reads, by simp, by simp⟩
  · simpa using h.exclusive.append (g := (PcapTask.request i, Mode.read)) hadmits
  · show Shape ((s.advance _).todo _)
    by_cases hj : PcapTask.request j = .request i
    · rw [hj, advance_todo_self]; exact (h.shape i).tail
    · rw [advance_todo_of_ne s hj]; exact h.shape j
  · show _ = guards ((s.advance _).todo _)
    simp only [Function.update_self, List.count_append, h.count]
    by_cases hj : PcapTask.request j = .request i
    · rw [hj, advance_todo_self, ht]; simp [guards]
    · rw [advance_todo_of_ne s hj]; simp [Ne.symm hj]

theorem Inv.run {s s' : Pcap} (h : s.Inv) {t : PcapTask} (hfree : s.FindsFree (.run t))
    (hst : s.run nofun t = some s') : s'.Inv := by
  unfold Machine.run at hst
  split at hst
  · cases hst
  · next l m rest ht =>
    cases l
    split at hst
    · cases hst
    · next hq =>
      cases hst
      cases t with
      | other i => exact (h.ask (fun _ hi => by cases hi) hq).settle
      | request i =>
        obtain ⟨rfl, hfirst | rfl⟩ := (ht ▸ h.shape i : Shape (.acquire .store m :: rest)).acquire
        · refine (h.ask (fun j hj => ?_) hq).settle
          cases hj
          exact ⟨rfl, hfirst.imp fun found hp => ht.trans hp⟩
        · have hcount := h.count i
          rw [ht] at hcount
          have hheld : (PcapTask.request i, Mode.read) ∈ (s.lock .store).held :=
            List.count_pos_iff.1 (by rw [hcount]; decide)
          exact h.askAgain ht (hfree _ _ ht (List.mem_map.2 ⟨_, hheld, rfl⟩)) hheld
  · next l m rest ht =>
    cases l
    cases hst
    exact (h.drop ht).settle
  · next c _ _ _ => exact c.elim
  · next c _ _ => exact c.elim

/-- A request that has come in holds nothing yet. -/
theorem Inv.start {s s' : Pcap} (h : s.Inv) {t : PcapTask} {program : List PcapOp}
    (hp : ∀ i, t = .request i → ∃ found, program = getPcapProgram found)
    (hst : s.start t program = some s') : s'.Inv := by
  unfold Machine.start at hst
  split at hst
  · next ht =>
    cases hst
    refine ⟨h.exclusive, fun i => ?_, fun i => ?_, h.reads, fun i m hmem => ?_, h.nodup⟩
    · by_cases hi : PcapTask.request i = t
      · obtain ⟨found, rfl⟩ := hp i hi.symm
        simpa [hi] using shape_getPcapProgram found
      · simpa [hi] using h.shape i
    · by_cases hi : PcapTask.request i = t
      · obtain ⟨found, rfl⟩ := hp i hi.symm
        have hcount := h.count i
        rw [hi, ht] at hcount
        cases found <;> simpa [hi, guards, getPcapProgram] using hcount
      · simpa [hi] using h.count i
    · obtain ⟨hm, found, htodo⟩ := h.queued i m hmem
      have hi : PcapTask.request i ≠ t := by
        rintro rfl
        rw [ht] at htodo
        cases found <;> cases htodo
      exact ⟨hm, found, by simpa [hi] using htodo⟩
  · cases hst

theorem Inv.step {s s' : Pcap} (h : s.Inv) {i : PcapStep} (hfree : s.FindsFree i)
    (hst : Pcap.step s i = some s') : s'.Inv := by
  cases i with
  | run t => exact h.run hfree hst
  | getPcap i found => exact h.start (fun _ _ => ⟨found, rfl⟩) hst
  | other i program => exact h.start (fun _ hi => by cases hi) hst

theorem inv_of_reach {s : Pcap} (h : Reach Init Pcap.step FindsFree s) : s.Inv := by
  refine h.invariant (fun s ⟨hheld, hqueue, htodo⟩ => ?_) fun _ _ _ hi hf hst => hi.step hf hst
  exact ⟨by simp [hheld, Exclusive], fun i => by rw [htodo]; exact .inl (List.nil_suffix),
    fun i => by simp [hheld, htodo, guards], by simp [hheld], by simp [hqueue], by simp [hqueue]⟩

/-! ## Waiting for itself -/

/-- A request holds the lock and waits for it. -/
def WaitsForItself (s : Pcap) (i : Nat) : Prop :=
  .request i ∈ (s.lock .store).held.map Prod.fst ∧ .request i ∈ (s.lock .store).queue.map Prod.fst

/-- **No request waits for itself**, in the runs in which nobody waits for the lock when a request
asks for it a second time. -/
theorem not_waiting_for_itself {s : Pcap} (h : Reach Init Pcap.step FindsFree s) (i : Nat) :
    ¬ s.WaitsForItself i := by
  rintro ⟨hheld, hqueue⟩
  have hinv := inv_of_reach h
  obtain ⟨⟨t, m⟩, hqueued, rfl⟩ := List.mem_map.1 hqueue
  obtain ⟨-, found, htodo⟩ := hinv.queued i m hqueued
  have hcount := hinv.count i
  rw [htodo] at hcount
  obtain ⟨⟨t, m'⟩, hmem, rfl⟩ := List.mem_map.1 hheld
  cases m' with
  | write => exact hinv.reads i hmem
  | read =>
    have hpos := List.count_pos_iff.2 hmem
    rw [hcount] at hpos
    cases found <;> cases hpos

/-- The store's lock is free and nobody wants it. -/
def idle : Pcap := ⟨fun _ => {}, nofun, fun _ => []⟩

/-- A request, and the recorder that asks for the lock while the request is at its recording. -/
def requestAndRecorder : List PcapStep :=
  [.getPcap 0 true, .run (.request 0), .other 0 [.acquire .store .write, .release .store .write],
    .run (.other 0), .run (.request 0)]

/-- The request waits behind the recorder, which waits for the request. -/
theorem request_waits_for_itself :
    ¬ ∀ s : Pcap, Reach Init Pcap.step (fun _ _ => True) s → ∀ i, ¬ s.WaitsForItself i := by
  intro h
  have hfacts : (requestAndRecorder.foldlM Pcap.step idle).any (fun s =>
      .request 0 ∈ (s.lock .store).held.map Prod.fst ∧
        .request 0 ∈ (s.lock .store).queue.map Prod.fst) = true := by
    decide +kernel
  obtain ⟨s, hs, hw⟩ := (Option.any_eq_true _ _).1 hfacts
  have hwaits : s.WaitsForItself 0 := by simpa [WaitsForItself] using hw
  exact h s (Reach.of_foldlM (.init ⟨rfl, rfl, rfl⟩) hs) 0 hwaits

/-- A request that nobody comes in between of. -/
theorem not_waiting_for_itself_alone : ∃ s : Pcap,
    (s.lock .store).held = [(.request 0, .read), (.request 0, .read)] ∧
      ∀ i, ¬ s.WaitsForItself i := by
  have hrun : Reach Init Pcap.step FindsFree _ :=
    .step (.step (.step (.init (s := idle) ⟨rfl, rfl, rfl⟩) (i := .getPcap 0 true) trivial rfl)
      (i := .run (.request 0)) (fun _ _ _ _ => rfl) rfl)
      (i := .run (.request 0)) (fun _ _ _ _ => rfl) rfl
  exact ⟨_, rfl, not_waiting_for_itself hrun⟩

end Pcap

end Rayhunter
