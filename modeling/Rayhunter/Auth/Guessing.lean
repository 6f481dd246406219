import Rayhunter.Auth.Calls
import Rayhunter.Lib.Reach

/-!
# How fast a passphrase can be guessed

Each failure doubles the wait for the next guess, and a success forgets the failures (`Backoff`,
`daemon/src/pairing.rs:186`). A guess reads the back-off when it comes and is counted when its key
has been derived, which takes its time and waits for its turn. Guesses that have come by then are
not held up by it: `guesses_together` has two of them at a time after three failures.
`guesses_spaced` is about the runs in which no failure is counted between a guess being let in and
its being counted as one itself.
-/

namespace Rayhunter.Auth

open Runs
open Screen (seconds)

/-- When the guess of a call read the back-off. -/
def Phase.started : Phase → Option Instant
  | .reading _ _ started => some started
  | .queued job | .underway job => job.started
  | _ => none

/-- Every guess of a run of failures comes after those before it by the wait for so many
failures. -/
def Spaced : List WrongGuess → Prop
  | [] => True
  | w :: earlier =>
    (∀ latest ∈ earlier.head?, ∀ w' ∈ earlier,
      w'.done + Backoff.delay latest.failures ≤ w.started) ∧ Spaced earlier

instance decidableSpaced : (l : List WrongGuess) → Decidable (Spaced l)
  | [] => .isTrue trivial
  | _ :: earlier =>
    have := decidableSpaced earlier
    inferInstanceAs (Decidable (_ ∧ _))

namespace PairingState

/-- Nothing is under way, and nothing has failed. -/
structure Starts (u : PairingState) : Prop where
  backoff : u.backoff = {}
  writer : u.writer = none
  setupLock : u.setupLock = none
  kdfGate : u.kdfGate = none
  phase : ∀ i, u.phase i = .away
  wrong : u.wrong = []
  commits : u.commits = []

variable [Pbkdf2] {u u' : PairingState} {e : Event}

/-- The guess that an event counts as wrong, by when it read the back-off. -/
def countsWrong (u : PairingState) : Event → Option Instant
  | .readHash i =>
    match u.phase i with
    | .reading given _ started =>
      if u.writer = none ∧ u.auth.ownerPassphraseHash.isSome ∧
          MAX_PASSWORD_LEN < given.utf8ByteSize then some started
      else none
    | _ => none
  | .finishKdf i hash =>
    match u.phase i with
    | .underway job => if Job.right hash.isSome job then none else job.started
    | _ => none
  | _ => none

/-- Whoever leaves leaves a wrong guess that is derived. -/
def leavesWrong (u : PairingState) : Event → Bool
  | .leave i =>
    match u.phase i with
    | .underway job => !Job.right true job
    | _ => false
  | _ => false

/-- No failure has been counted since the guess read the back-off that is counted as wrong now, and
nobody leaves while a wrong guess is derived. -/
structure Separate (u : PairingState) (e : Event) : Prop where
  counted : ∀ started ∈ u.countsWrong e, ∀ last ∈ u.backoff.lastFailure, last < started
  stays : u.leavesWrong e = false

instance (u : PairingState) (e : Event) : Decidable (Separate u e) :=
  decidable_of_iff ((∀ started ∈ u.countsWrong e, ∀ last ∈ u.backoff.lastFailure, last < started) ∧
      u.leavesWrong e = false)
    ⟨fun h => ⟨h.1, h.2⟩, fun h => ⟨h.1, h.2⟩⟩

/-! ## What a step does to the back-off -/

/-- A guess that is under way was so before, or has just been let in. -/
def LetIn (u u' : PairingState) : Prop :=
  ∀ j started, (u'.phase j).started = some started →
    (u.phase j).started = some started ∨ (started = u.now ∧ u.checkBackoff = .ok ())

/-- What a step does. -/
inductive Guesses (u : PairingState) (e : Event) (u' : PairingState) : Prop
  | quiet : u'.backoff = u.backoff → u'.wrong = u.wrong → u.now ≤ u'.now → LetIn u u' →
      Guesses u e u'
  | wrong (started : Instant) (i : Nat) : (u.phase i).started = some started →
      u.countsWrong e = some started → u'.backoff = u.backoff.failed u.now →
      u'.wrong = ⟨started, u.now, (u.backoff.failed u.now).failures⟩ :: u.wrong →
      u'.now = u.now → LetIn u u' → Guesses u e u'
  | right : u'.backoff = {} → u'.wrong = [] → u'.now = u.now → LetIn u u' → Guesses u e u'
  | left : u.leavesWrong e = true → Guesses u e u'

omit [Pbkdf2] in
/-- A call that goes on is still the guess it was, or none. -/
theorem letIn_update {i : Nat} {p : Phase} (h : u'.phase = Function.update u.phase i p)
    (hp : ∀ started, p.started = some started →
      (u.phase i).started = some started ∨ (started = u.now ∧ u.checkBackoff = .ok ())) :
    LetIn u u' := by
  intro j started hj
  rw [h] at hj
  rcases eq_or_ne j i with rfl | hne
  · rw [Function.update_self] at hj
    exact hp started hj
  · rw [Function.update_of_ne hne] at hj
    exact .inl hj

omit [Pbkdf2] in
theorem letIn_none {i : Nat} {p : Phase} (h : u'.phase = Function.update u.phase i p)
    (hp : p.started = none) : LetIn u u' :=
  letIn_update h fun started hs => by rw [hp] at hs; cases hs

/-- A call that comes, with nothing else. -/
theorem Guesses.call {i : Nat} {p : Phase} {v : PairingState} (h : v.call i p = some u')
    (hbackoff : v.backoff = u.backoff) (hwrong : v.wrong = u.wrong) (hnow : v.now = u.now)
    (hphase : v.phase = u.phase)
    (hp : ∀ started, p.started = some started → started = u.now ∧ u.checkBackoff = .ok ()) :
    Guesses u e u' := by
  unfold PairingState.call at h
  split at h
  · cases h
    exact .quiet hbackoff hwrong hnow.ge
      (letIn_update (i := i) (by rw [← hphase]; rfl) fun started hs => .inr (hp started hs))
  · cases h

/-- A call that goes on and is no guess any more, with nothing else. -/
theorem Guesses.goes {i : Nat} {p : Phase} (hbackoff : u'.backoff = u.backoff)
    (hwrong : u'.wrong = u.wrong) (hnow : u'.now = u.now)
    (hphase : u'.phase = Function.update u.phase i p) (hp : p.started = none) : Guesses u e u' :=
  .quiet hbackoff hwrong hnow.ge (letIn_none hphase hp)

omit [Pbkdf2] in
theorem checkCode_frame (u : PairingState) (code : String) :
    (u.checkCode code).2.backoff = u.backoff ∧ (u.checkCode code).2.wrong = u.wrong ∧
      (u.checkCode code).2.now = u.now ∧ (u.checkCode code).2.phase = u.phase := by
  unfold checkCode
  dsimp only
  repeat' split
  all_goals exact ⟨rfl, rfl, rfl, rfl⟩

omit [Pbkdf2] in
theorem checkProof_frame (u : PairingState) (p : Proof) :
    (u.checkProof p).2.backoff = u.backoff ∧ (u.checkProof p).2.wrong = u.wrong ∧
      (u.checkProof p).2.now = u.now ∧ (u.checkProof p).2.phase = u.phase := by
  cases p <;> exact ⟨rfl, rfl, rfl, rfl⟩

omit [Pbkdf2] in
theorem afterSave_frame (u : PairingState) (w : Write) (byPress : Bool) :
    (u.afterSave w byPress).backoff = u.backoff ∧ (u.afterSave w byPress).wrong = u.wrong ∧
      (u.afterSave w byPress).now = u.now ∧ (u.afterSave w byPress).phase = u.phase := by
  cases w <;> exact ⟨rfl, rfl, rfl, rfl⟩

/-- What is answered once a hash is derived is no guess. -/
theorem Guesses.store {v : PairingState} {i : Nat} {byPress : Bool} {w : String → Write}
    {hash : Option String} (hbackoff : v.backoff = u.backoff) (hwrong : v.wrong = u.wrong)
    (hnow : v.now = u.now) (hphase : v.phase = u.phase) :
    Guesses u e (v.store i byPress w hash) := by
  unfold PairingState.store
  split
  · exact .goes hbackoff hwrong hnow (by rw [← hphase]; rfl) rfl
  · exact .goes hbackoff hwrong hnow (by rw [← hphase]; rfl) rfl

/-- After a right passphrase nothing is left of the failures. -/
theorem Guesses.verified {v : PairingState} {i : Nat} (purpose : Purpose) (hnow : v.now = u.now)
    (hphase : v.phase = u.phase) : Guesses u e (v.noteSuccess.verified i purpose) := by
  cases purpose with
  | stepUp => exact .right rfl rfl hnow (letIn_none (by rw [← hphase]; rfl) rfl)
  | change new =>
    unfold PairingState.verified
    dsimp only
    split
    · exact .right rfl rfl hnow (letIn_none (by rw [← hphase]; rfl) rfl)
    · exact .right rfl rfl hnow (letIn_none (by rw [← hphase]; rfl) rfl)
  | pair deviceName userAgent =>
    exact .right rfl rfl hnow (letIn_none (by rw [← hphase]; rfl) rfl)

/-- A step counts a guess as wrong, forgets the failures, or is nothing to them. -/
theorem step_guesses (h : u.step e = some u') : Guesses u e u' := by
  cases e with
  | tick d =>
    cases h
    exact .quiet rfl rfl (Nat.le_add_right _ _) fun _ _ hj => .inl hj
  | fingerprintOver =>
    cases h
    exact .quiet rfl rfl (Nat.le_refl _) fun _ _ hj => .inl hj
  | mintCode code =>
    cases code <;> cases h <;> exact .quiet rfl rfl (Nat.le_refl _) fun _ _ hj => .inl hj
  | openSetupWindow i | requestPress i | completeSetup i p request | revokeDevice i id
  | touch i id => exact .call h rfl rfl rfl rfl fun _ hs => by cases hs
  | buttonPressed i =>
    refine .call h rfl rfl rfl rfl fun _ hs => ?_
    split at hs <;> cases hs
  | pairWithCode i code deviceName userAgent =>
    obtain ⟨hbackoff, hwrong, hnow, hphase⟩ := checkCode_frame u code
    simp only [step] at h
    split at h <;> rename_i hcode <;> rw [hcode] at hbackoff hwrong hnow hphase <;>
      exact .call h hbackoff hwrong hnow hphase fun _ hs => by cases hs
  | verifyPassphrase i given purpose =>
    simp only [step] at h
    split at h
    · next hok =>
      refine .call h rfl rfl rfl rfl fun _ hs => ?_
      cases hs
      exact ⟨rfl, hok⟩
    · exact .call h rfl rfl rfl rfl fun _ hs => by cases hs
  | pairWithAccount i users username password deviceName userAgent =>
    simp only [step] at h
    split at h
    · next hok =>
      refine .call h rfl rfl rfl rfl fun _ hs => ?_
      cases hs
      exact ⟨rfl, hok⟩
    · exact .call h rfl rfl rfl rfl fun _ hs => by cases hs
  | renameDevice i id name =>
    simp only [step] at h
    split at h <;> exact .call h rfl rfl rfl rfl fun _ hs => by cases hs
  | readComplete i =>
    simp only [step, readComplete] at h
    split at h
    · cases h
    · split at h <;> cases h <;> split <;> exact .goes rfl rfl rfl rfl rfl
  | countDevices i drawn =>
    simp only [step, countDevices] at h
    split at h
    · cases h
    · split at h <;> cases h <;> exact .goes rfl rfl rfl rfl rfl
  | lockSetup i =>
    simp only [step, lockSetup] at h
    split at h <;> cases h
    exact .goes rfl rfl rfl rfl rfl
  | prove i =>
    simp only [step, prove] at h
    split at h
    · cases h
    · split at h
      · next p request _ =>
        obtain ⟨hbackoff, hwrong, hnow, hphase⟩ := checkProof_frame u p
        split at h
        · cases h
          exact .goes rfl rfl rfl rfl rfl
        · split at h <;> rename_i hproof <;> rw [hproof] at hbackoff hwrong hnow hphase
          · cases h
            exact .goes hbackoff hwrong hnow (by rw [← hphase]; rfl) rfl
          · split at h <;> cases h <;>
              exact .goes hbackoff hwrong hnow (by rw [← hphase]; rfl) rfl
      · cases h
  | readHash i =>
    simp only [step, readHash] at h
    split at h
    · cases h
    · next hwriter =>
      rw [Bool.not_eq_true, Option.isSome_eq_false_iff, Option.isNone_iff_eq_none] at hwriter
      split at h
      · next given purpose started hphase =>
        split at h
        · cases h
          exact .goes rfl rfl rfl rfl rfl
        · next hash hhash =>
          split at h <;> cases h
          · next hlong =>
            refine .wrong started i (by rw [hphase]; rfl) ?_ rfl rfl rfl (letIn_none rfl rfl)
            simp only [countsWrong, hphase, hwriter, hhash, hlong, Option.isSome_some, and_self,
              if_true]
          · refine .quiet rfl rfl (Nat.le_refl _) (letIn_update rfl fun started hs => .inl ?_)
            rw [hphase]
            exact hs
      · cases h
  | startKdf i =>
    simp only [step, startKdf] at h
    split at h <;> cases h
    next job _ hphase =>
    refine .quiet rfl rfl (Nat.le_refl _) (letIn_update rfl fun started hs => .inl ?_)
    rw [hphase]
    exact hs
  | finishKdf i hash =>
    simp only [step, finishKdf] at h
    split at h
    · next job hphase =>
      cases job with
      | setup byPress r =>
        cases h
        exact .store rfl rfl rfl rfl
      | newPassphrase new =>
        cases h
        exact .store rfl rfl rfl rfl
      | passphrase given hash' purpose started =>
        simp only at h
        split at h <;> cases h
        · exact .verified purpose rfl rfl
        · next hwrong =>
          refine .wrong started i (by rw [hphase]; rfl) ?_ rfl rfl rfl (letIn_none rfl rfl)
          simp only [countsWrong, hphase, hwrong, if_false, Job.started, Bool.false_eq_true]
      | account users username password deviceName userAgent started =>
        simp only at h
        split at h <;> cases h
        · exact .right rfl rfl rfl (letIn_none rfl rfl)
        · next hwrong =>
          refine .wrong started i (by rw [hphase]; rfl) ?_ rfl rfl rfl (letIn_none rfl rfl)
          simp only [countsWrong, hphase, hwrong, if_false, Job.started, Bool.false_eq_true]
    · cases h
  | write i drawn =>
    simp only [step, write] at h
    split at h
    · split at h <;> cases h <;> exact .goes rfl rfl rfl rfl rfl
    · cases h
  | saved i io =>
    simp only [step, saved] at h
    split at h
    · next w byPress issued _ =>
      split at h <;> cases h
      · obtain ⟨hbackoff, hwrong, hnow, hphase⟩ :=
          afterSave_frame { u with writer := release i u.writer } w byPress
        exact .goes hbackoff hwrong hnow (congrArg (Function.update · i _) hphase) rfl
      · exact .goes rfl rfl rfl rfl rfl
      · exact .goes rfl rfl rfl rfl rfl
    · cases h
  | leave i =>
    simp only [step, leave] at h
    split at h <;> try cases h
    cases hphase : u.phase i with
    | underway job =>
      cases hright : Job.right true job with
      | false => exact .left (by simp [leavesWrong, hphase, hright])
      | true => exact .goes rfl (by simp [hright]) rfl rfl rfl
    | _ => exact .goes rfl (by simp) rfl rfl rfl

/-! ## Runs -/

/-- What the back-off and the guesses under way have to do with the failures of the run. -/
structure GuessInv (u : PairingState) : Prop where
  latest : u.backoff.lastFailure = u.wrong.head?.map (·.done)
  failures : ∀ w ∈ u.wrong.head?, u.backoff.failures = w.failures
  sorted : u.wrong.Pairwise fun later earlier => earlier.done ≤ later.done
  past : ∀ w ∈ u.wrong, w.done ≤ u.now
  /-- A guess under way waited for every failure there was when it came. -/
  waited : ∀ (i started : Nat), (u.phase i).started = some started → ∀ (last : Nat),
    u.backoff.lastFailure = some last → last < started →
      last + Backoff.delay u.backoff.failures ≤ started
  come : ∀ (i started : Nat), (u.phase i).started = some started → started ≤ u.now
  spaced : Spaced u.wrong

end PairingState

/-- No wait is longer than the failures are remembered. -/
theorem Backoff.delay_le (failures : Nat) : delay failures ≤ BACKOFF_MEMORY :=
  (Nat.min_le_right _ _).trans (by decide)

/-- A guess that is let in has waited. -/
theorem Backoff.waited {b : Backoff} {now last : Nat} (h : b.waitRemaining now = none)
    (hlast : b.lastFailure = some last) (hpast : last ≤ now) :
    last + delay b.failures ≤ now := by
  have hdelay := delay_le b.failures
  simp only [waitRemaining, hlast] at h
  split at h
  · omega
  · split at h
    · cases h
    · next hnot => exact Nat.le_of_lt (Nat.lt_of_not_le hnot)

namespace PairingState

variable [Pbkdf2] {u u' : PairingState} {e : Event}

omit [Pbkdf2] in
theorem waitRemaining_of_checkBackoff (h : u.checkBackoff = .ok ()) :
    u.backoff.waitRemaining u.now = none := by
  unfold checkBackoff at h
  split at h
  · cases h
  · assumption

omit [Pbkdf2] in
theorem GuessInv.of_starts (h : u.Starts) : GuessInv u where
  latest := by rw [h.backoff, h.wrong]; rfl
  failures := by rw [h.wrong]; rintro w ⟨⟩
  sorted := by rw [h.wrong]; exact .nil
  past := by rw [h.wrong]; exact List.forall_mem_nil _
  waited := by
    intro i started hs
    rw [h.phase i] at hs
    cases hs
  come := by
    intro i started hs
    rw [h.phase i] at hs
    cases hs
  spaced := by rw [h.wrong]; trivial

theorem GuessInv.step (hi : GuessInv u) (hok : Separate u e) (h : u.step e = some u') :
    GuessInv u' := by
  cases step_guesses h with
  | quiet hbackoff hwrong hnow hin =>
    refine ⟨by rw [hbackoff, hwrong, hi.latest], ?_, by rw [hwrong]; exact hi.sorted, ?_, ?_, ?_,
      by rw [hwrong]; exact hi.spaced⟩
    · rw [hbackoff, hwrong]
      exact hi.failures
    · rw [hwrong]
      exact fun w hw => (hi.past w hw).trans hnow
    · intro j started hj last hlast hlt
      rw [hbackoff] at hlast ⊢
      rcases hin j started hj with hj | ⟨rfl, hchecked⟩
      · exact hi.waited j started hj last hlast hlt
      · exact Backoff.waited (waitRemaining_of_checkBackoff hchecked) hlast (Nat.le_of_lt hlt)
    · intro j started hj
      rcases hin j started hj with hj | ⟨rfl, -⟩
      · exact (hi.come j started hj).trans hnow
      · exact hnow
  | wrong started i hstarted hcounts hbackoff hwrong hnow hin =>
    have hpast : ∀ w ∈ u'.wrong, w.done ≤ u.now := by
      rw [hwrong]
      exact List.forall_mem_cons.2 ⟨Nat.le_refl _, hi.past⟩
    refine ⟨by rw [hbackoff, hwrong]; rfl, ?_, ?_, by rwa [hnow], ?_, ?_, ?_⟩
    · rw [hbackoff, hwrong]
      rintro w ⟨⟩
      rfl
    · rw [hwrong]
      exact List.pairwise_cons.2 ⟨hi.past, hi.sorted⟩
    · intro j t hj last hlast hlt
      rw [hbackoff] at hlast
      cases hlast
      have hle : t ≤ u.now := by
        rcases hin j t hj with hj | ⟨rfl, -⟩
        · exact hi.come j t hj
        · exact Nat.le_refl _
      exact absurd hlt (Nat.not_lt.2 hle)
    · intro j t hj
      rw [hnow]
      rcases hin j t hj with hj | ⟨rfl, -⟩
      · exact hi.come j t hj
      · exact Nat.le_refl _
    · rw [hwrong]
      refine ⟨?_, hi.spaced⟩
      intro latest hlatest w hw
      have hlast : u.backoff.lastFailure = some latest.done := by rw [hi.latest, hlatest]; rfl
      have hlt := hok.counted started hcounts _ hlast
      have hwait := hi.waited i started hstarted _ hlast hlt
      rw [hi.failures latest hlatest] at hwait
      obtain ⟨rest, hrest⟩ := List.head?_eq_some_iff.1 hlatest
      have hle : w.done ≤ latest.done := by
        have hsorted := hi.sorted
        rw [hrest] at hw hsorted
        rcases List.mem_cons.1 hw with rfl | hw
        · exact Nat.le_refl _
        · exact List.rel_of_pairwise_cons hsorted hw
      exact (Nat.add_le_add_right hle _).trans hwait
  | left hleft =>
    rw [hok.stays] at hleft
    cases hleft
  | right hbackoff hwrong hnow hin =>
    refine ⟨by rw [hbackoff, hwrong]; rfl, by rw [hwrong]; rintro w ⟨⟩, by rw [hwrong]; exact .nil,
      by rw [hwrong]; exact List.forall_mem_nil _, ?_, ?_, by rw [hwrong]; trivial⟩
    · intro j started _ last hlast
      rw [hbackoff] at hlast
      cases hlast
    · intro j started hj
      rw [hnow]
      rcases hin j started hj with hj | ⟨rfl, -⟩
      · exact hi.come j started hj
      · exact Nat.le_refl _

/-- **Guesses are spaced** in every run in which no failure is counted between a guess being let in
and its being counted as one itself, and nobody leaves while a wrong guess is derived. -/
theorem guesses_spaced (u : PairingState) (h : Reach Starts step Separate u) : Spaced u.wrong :=
  (h.invariant (fun _ => GuessInv.of_starts) fun _ _ _ => GuessInv.step).spaced

omit [Pbkdf2]

/-! ## Guesses at the same time -/

/-- Every guess is wrong. -/
@[reducible] def allWrong : Pbkdf2 := ⟨fun _ _ => false⟩

/-- A unit with an owner, just started. -/
def ownedUnit : PairingState where
  auth :=
    { setupComplete := true
      ownerPassphraseHash := some "pbkdf2-sha256$20000$c2FsdA==$aGFzaA==" }

theorem starts_ownedUnit : ownedUnit.Starts := ⟨rfl, rfl, rfl, rfl, fun _ => rfl, rfl, rfl⟩

/-- A guess by itself. -/
def oneGuess (i : Nat) : List Event :=
  [.verifyPassphrase i "password" .stepUp, .readHash i, .startKdf i, .finishKdf i (some "")]

/-- Two guesses, the second one after the wait for the first. -/
def patientGuesses : List Event := oneGuess 0 ++ [.tick (seconds 3)] ++ oneGuess 1

/-- Three failures, and then two guesses that come together. -/
def hastyGuesses : List Event :=
  oneGuess 0 ++ [.tick (seconds 3)] ++ oneGuess 1 ++ [.tick (seconds 5)] ++ oneGuess 2 ++
    [.tick (seconds 9), .verifyPassphrase 3 "letmein" .stepUp,
      .verifyPassphrase 4 "12345678" .stepUp, .readHash 3, .readHash 4, .startKdf 3,
      .finishKdf 3 (some ""), .startKdf 4, .finishKdf 4 (some "")]

/-- A patient guesser is kept waiting. -/
theorem guesses_spaced_patient :
    let _ := allWrong
    ∃ u : PairingState, u.wrong = [⟨seconds 3, seconds 3, 2⟩, ⟨0, 0, 1⟩] ∧ Spaced u.wrong := by
  let _ := allWrong
  intro _
  have hwrong : (patientGuesses.foldlM (fun u e => if Separate u e then step u e else none)
      ownedUnit).map (·.wrong) = some [⟨seconds 3, seconds 3, 2⟩, ⟨0, 0, 1⟩] := by decide +kernel
  obtain ⟨u, hu, hw⟩ := Option.map_eq_some_iff.1 hwrong
  exact ⟨u, hw, guesses_spaced u (.of_foldlM_guarded (.init starts_ownedUnit) hu)⟩

/-- Two guesses are made at a time after three failures, for which the wait is eight seconds. -/
theorem guesses_together :
    let _ := allWrong
    ¬ ∀ u : PairingState, Reach Starts step (fun _ _ => True) u → Spaced u.wrong := by
  let _ := allWrong
  intro _ h
  have hwrong : (hastyGuesses.foldlM step ownedUnit).map (·.wrong) =
      some [⟨seconds 17, seconds 17, 5⟩, ⟨seconds 17, seconds 17, 4⟩, ⟨seconds 8, seconds 8, 3⟩,
        ⟨seconds 3, seconds 3, 2⟩, ⟨0, 0, 1⟩] := by decide +kernel
  obtain ⟨u, hu, hw⟩ := Option.map_eq_some_iff.1 hwrong
  have hspaced := h u (.of_foldlM (.init starts_ownedUnit) hu)
  rw [hw] at hspaced
  exact absurd hspaced (by decide +kernel)

end PairingState

end Rayhunter.Auth
