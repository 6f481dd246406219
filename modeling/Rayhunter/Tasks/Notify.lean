import Mathlib.Data.List.Infix
import Rayhunter.Recorder.Step

/-!
# The notification worker

`run_notification_worker` (`daemon/src/notifications.rs`) keeps one status for each type of
notification: one message, whether it is to be sent, and when one was last sent. A notification is
ignored for as long after a message of its type was sent as it says itself, and otherwise takes the
place of the message that waits. So a warning that is not ignored is followed by a send of it or of a
later one (`warning_stays_pending`), but severities, which only the text of a message has, play no
part: a mild detection can silence a severe one (`severe_detection_dropped`).
-/

namespace Rayhunter

/-- `NotificationStatus` (`notifications.rs:55`). -/
structure NotificationStatus where
  message : String
  needsSending : Bool
  lastSent : Option Instant
  lastAttempt : Option Instant
  failedSinceLastSuccess : UInt32
  deriving DecidableEq, Repr

/-- What the clock and the server answer an attempt to send: the reading it is decided by, whether it
succeeds, and the reading after it. -/
structure AttemptIo where
  now : Instant
  sent : Bool
  after : Instant
  deriving DecidableEq, Repr

/-- A second, in the units of an instant. -/
def SECOND : Nat := 1000000000

namespace NotificationStatus

/-- The status of a type when its first notification comes in (`notifications.rs:141`). -/
def new : NotificationStatus := ⟨"", true, none, none, 0⟩

/-- Whether a notification comes too soon after the last message (`notifications.rs:149`). -/
def debounced (status : NotificationStatus) (n : Notification) (now : Instant) : Bool :=
  match n.debounce, status.lastSent with
  | some debounce, some lastSent => now - lastSent < debounce * SECOND
  | _, _ => false

/-- A notification comes in (`notifications.rs:148`). -/
def receive (status : NotificationStatus) (n : Notification) (now : Instant) : NotificationStatus :=
  if status.debounced n now then status
  else { status with message := n.message, needsSending := true }

/-- The wait between two attempts, `2u64.pow(min(failed_since_last_success, 8))` seconds. -/
def minWaitTime (status : NotificationStatus) : Nat :=
  2 ^ min status.failedSinceLastSuccess.toNat 8 * SECOND

/-- Whether it is too soon to try again (`notifications.rs:174`). -/
def backsOff (status : NotificationStatus) (now : Instant) : Bool :=
  match status.lastAttempt with
  | some lastAttempt => now - lastAttempt < status.minWaitTime
  | none => false

/-- An attempt to send what is pending (`notifications.rs:168`): the message, where it is sent. -/
def attempt (status : NotificationStatus) (io : AttemptIo) : Option String × NotificationStatus :=
  if !status.needsSending then (none, status)
  else if status.backsOff io.now then (none, status)
  else if io.sent then
    (some status.message,
      { status with lastSent := some io.after, failedSinceLastSuccess := 0, needsSending := false })
  else
    (none,
      { status with
        failedSinceLastSuccess := status.failedSinceLastSuccess + 1
        lastAttempt := some io.after })

end NotificationStatus

/-- A message that was sent, and when. -/
structure SentMessage where
  notificationType : NotificationType
  message : String
  «at» : Instant
  deriving DecidableEq, Repr

/-- The worker: the statuses it keeps, and what it has sent, the latest first. -/
structure NotificationWorker where
  notificationStatuses : NotificationType → Option NotificationStatus := fun _ => none
  sent : List SentMessage := []

/-- What the loop does, one at a time. -/
inductive NotifyStep
  | receive (n : Notification) (now : Instant)
  | attempt (t : NotificationType) (io : AttemptIo)

namespace NotificationWorker

/-- The worker with another status of a type. -/
def setStatus (w : NotificationWorker) (t : NotificationType) (status : NotificationStatus) :
    NotificationWorker :=
  { w with notificationStatuses := Function.update w.notificationStatuses t (some status) }

section
variable (enabledNotifications : List NotificationType)

/-- One step of the loop. -/
def step (w : NotificationWorker) : NotifyStep → NotificationWorker
  | .receive n now =>
    if n.notificationType ∈ enabledNotifications then
      let status := (w.notificationStatuses n.notificationType).getD .new
      w.setStatus n.notificationType (status.receive n now)
    else w
  | .attempt t io =>
    match w.notificationStatuses t with
    | none => w
    | some status =>
      match status.attempt io with
      | (none, status) => w.setStatus t status
      | (some message, status) =>
        { w.setStatus t status with sent := ⟨t, message, io.after⟩ :: w.sent }

/-- Several of them. -/
def run (w : NotificationWorker) (steps : List NotifyStep) : NotificationWorker :=
  steps.foldl (step enabledNotifications) w

end

end NotificationWorker

/-- A round of the loop: what has come in since the last, and the statuses in the order the map has
them, with what an attempt meets for each. -/
structure NotifyRound where
  received : List (Notification × Instant)
  order : List NotificationType
  attempts : NotificationType → AttemptIo

/-- The steps of a round (`notifications.rs:130`). -/
def NotifyRound.steps (round : NotifyRound) : List NotifyStep :=
  round.received.map (fun (n, now) => .receive n now) ++
    round.order.map fun t => .attempt t (round.attempts t)

/-- `run_notification_worker` (`notifications.rs:107`) after some rounds. Without an address
everything is discarded. -/
def runNotificationWorker (url : Option String) (enabledNotifications : List NotificationType)
    (rounds : List NotifyRound) : NotificationWorker :=
  match url with
  | none => {}
  | some url =>
    if url = "" then {}
    else ({} : NotificationWorker).run enabledNotifications (rounds.flatMap (·.steps))

/-- With an address the rounds are a run of their steps. -/
theorem runNotificationWorker_eq {url : String} (h : url ≠ "")
    (enabledNotifications : List NotificationType) (rounds : List NotifyRound) :
    runNotificationWorker (some url) enabledNotifications rounds =
      ({} : NotificationWorker).run enabledNotifications (rounds.flatMap (·.steps)) :=
  if_neg h

namespace NotificationWorker

/-! ## What has been sent -/

/-- The messages of a type that have been sent, the latest first. -/
def sentOf (w : NotificationWorker) (t : NotificationType) : List SentMessage :=
  w.sent.filter (·.notificationType = t)

/-- The message of a type that waits to be sent. -/
def pending (w : NotificationWorker) (t : NotificationType) : Option String :=
  (w.notificationStatuses t).bind fun status =>
    if status.needsSending then some status.message else none

/-- A notification that does not come too soon after the last message of its type. -/
def Free (w : NotificationWorker) (n : Notification) (now : Instant) : Prop :=
  ∀ debounce, n.debounce = some debounce → ∀ m, (w.sentOf n.notificationType).head? = some m →
    debounce * SECOND ≤ now - m.at

instance (w : NotificationWorker) (n : Notification) (now : Instant) : Decidable (w.Free n now) :=
  decidable_of_iff
    (∀ debounce ∈ n.debounce, ∀ m ∈ (w.sentOf n.notificationType).head?,
      debounce * SECOND ≤ now - m.at) Iff.rfl

/-- When a message of a type was last sent, as its status has it. -/
def lastSent (w : NotificationWorker) (t : NotificationType) : Option Instant :=
  (w.notificationStatuses t).bind (·.lastSent)

variable {enabledNotifications : List NotificationType}

/-- What a step does about a type. -/
inductive StepCase (enabledNotifications : List NotificationType) (w : NotificationWorker)
    (t : NotificationType) : NotifyStep → NotificationWorker → Prop
  | other {step : NotifyStep} {w' : NotificationWorker}
    (hstep : ∀ n now, step = .receive n now → t ∈ enabledNotifications → n.notificationType ≠ t)
    (hstatus : w'.notificationStatuses t = w.notificationStatuses t)
    (hsent : w'.sentOf t = w.sentOf t) : StepCase enabledNotifications w t step w'
  | received {n : Notification} {now : Instant} {w' : NotificationWorker}
    (hn : n.notificationType = t) (hen : t ∈ enabledNotifications)
    (hstatus : w'.notificationStatuses t =
      some (((w.notificationStatuses t).getD .new).receive n now))
    (hsent : w'.sent = w.sent) : StepCase enabledNotifications w t (.receive n now) w'
  | tried {io : AttemptIo} {w' : NotificationWorker} {status status' : NotificationStatus}
    (hold : w.notificationStatuses t = some status) (htry : status.attempt io = (none, status'))
    (hstatus : w'.notificationStatuses t = some status') (hsent : w'.sent = w.sent) :
    StepCase enabledNotifications w t (.attempt t io) w'
  | sent {io : AttemptIo} {w' : NotificationWorker} {status status' : NotificationStatus}
    (hold : w.notificationStatuses t = some status)
    (htry : status.attempt io = (some status.message, status'))
    (hlast : status'.lastSent = some io.after)
    (hstatus : w'.notificationStatuses t = some status')
    (hsent : w'.sent = ⟨t, status.message, io.after⟩ :: w.sent) :
    StepCase enabledNotifications w t (.attempt t io) w'

/-- What an attempt comes to: nothing, a failure that is noted, or a message that is sent. -/
theorem attempt_cases (status : NotificationStatus) (io : AttemptIo) :
    (∃ status', status.attempt io = (none, status') ∧ status'.lastSent = status.lastSent ∧
      status'.message = status.message ∧ status'.needsSending = status.needsSending) ∨
    (status.needsSending = true ∧ ∃ status', status.attempt io = (some status.message, status') ∧
      status'.lastSent = some io.after) := by
  unfold NotificationStatus.attempt
  split
  · exact .inl ⟨status, rfl, rfl, rfl, rfl⟩
  · next hneeds =>
    split
    · exact .inl ⟨status, rfl, rfl, rfl, rfl⟩
    · split
      · exact .inr ⟨by simpa using hneeds, _, rfl, rfl⟩
      · exact .inl ⟨_, rfl, rfl, rfl, rfl⟩

/-- A step is one of these. -/
theorem step_cases (w : NotificationWorker) (t : NotificationType) (step : NotifyStep) :
    StepCase enabledNotifications w t step (w.step enabledNotifications step) := by
  cases step with
  | receive n now =>
    simp only [NotificationWorker.step]
    split
    · next hen =>
      by_cases ht : n.notificationType = t
      · subst ht
        exact .received rfl hen (Function.update_self ..) rfl
      · refine .other (fun _ _ heq _ => ?_) (Function.update_of_ne (Ne.symm ht) ..) rfl
        cases heq
        exact ht
    · next hen =>
      refine .other (fun _ _ heq hen' ht => ?_) rfl rfl
      cases heq
      exact hen (ht ▸ hen')
  | attempt t' io =>
    simp only [NotificationWorker.step]
    have hnot : ∀ n now, NotifyStep.attempt t' io = .receive n now → t ∈ enabledNotifications →
        n.notificationType ≠ t := fun _ _ heq => (by cases heq)
    cases hold : w.notificationStatuses t' with
    | none => exact .other hnot rfl rfl
    | some status =>
      rcases attempt_cases status io with ⟨status', htry, -⟩ | ⟨-, status', htry, hlast⟩
      · simp only [htry]
        by_cases ht : t' = t
        · subst ht
          exact .tried hold htry (Function.update_self ..) rfl
        · exact .other hnot (Function.update_of_ne (Ne.symm ht) ..) rfl
      · simp only [htry]
        by_cases ht : t' = t
        · subst ht
          exact .sent hold htry hlast (Function.update_self ..) rfl
        · refine .other hnot (Function.update_of_ne (Ne.symm ht) ..) ?_
          simp [sentOf, ht]

/-- What has been sent stays so. -/
theorem sentOf_run_suffix (w : NotificationWorker) (t : NotificationType)
    (steps : List NotifyStep) : w.sentOf t <:+ (w.run enabledNotifications steps).sentOf t := by
  induction steps generalizing w with
  | nil => exact List.suffix_refl _
  | cons step steps ih =>
    refine List.IsSuffix.trans ?_ (ih (w.step enabledNotifications step))
    have hcase := @step_cases enabledNotifications w t step
    generalize w.step enabledNotifications step = w' at hcase
    cases hcase with
    | other _ _ hsent => rw [hsent]
    | received _ _ _ hsent => rw [sentOf, sentOf, hsent]
    | tried _ _ _ hsent => rw [sentOf, sentOf, hsent]
    | sent _ _ _ _ hsent =>
      rw [sentOf, sentOf, hsent]
      exact (List.suffix_cons _ w.sent).filter _

/-- A status knows when a message of its type was last sent. -/
def Logged (w : NotificationWorker) : Prop :=
  ∀ t, w.lastSent t = (w.sentOf t).head?.map (·.at)

theorem logged_step {w : NotificationWorker} (h : w.Logged) (step : NotifyStep) :
    (w.step enabledNotifications step).Logged := by
  intro t
  have hold := h t
  have hcase := @step_cases enabledNotifications w t step
  generalize w.step enabledNotifications step = w' at hcase ⊢
  unfold lastSent at hold ⊢
  cases hcase with
  | other _ hstatus hsent => rw [hstatus, hsent, hold]
  | @received n now _ _ _ hstatus hsent =>
    have hlast : ∀ status : NotificationStatus,
        (status.receive n now).lastSent = status.lastSent := by
      intro status
      unfold NotificationStatus.receive
      split <;> rfl
    rw [hstatus, sentOf, hsent, ← sentOf, ← hold, Option.bind_some, hlast]
    cases w.notificationStatuses t <;> rfl
  | @tried io _ status status' hst htry hstatus hsent =>
    rcases attempt_cases status io with ⟨_, heq, hlast, -⟩ | ⟨-, _, heq, -⟩
    · rw [htry] at heq
      cases heq
      rw [hstatus, sentOf, hsent, ← sentOf, ← hold, hst]
      exact hlast
    · rw [htry] at heq
      cases heq
  | sent _ _ hlast hstatus hsent =>
    rw [hstatus, sentOf, hsent, Option.bind_some, hlast]
    simp

/-- It does in every run of the worker. -/
theorem logged_run (steps : List NotifyStep) :
    (({} : NotificationWorker).run enabledNotifications steps).Logged := by
  have hrun : ∀ w : NotificationWorker, w.Logged →
      (w.run enabledNotifications steps).Logged := by
    induction steps with
    | nil => exact fun w h => h
    | cons step steps ih => exact fun w h => ih _ (logged_step h step)
  exact hrun {} fun t => rfl

/-! ## What waits to be sent -/

/-- A notification is ignored just where it comes too soon. -/
theorem debounced_iff {w : NotificationWorker} (h : w.Logged) (n : Notification) (now : Instant) :
    ((w.notificationStatuses n.notificationType).getD .new).debounced n now = true ↔
      ¬ w.Free n now := by
  have hlast := h n.notificationType
  unfold lastSent at hlast
  have hstatus : ((w.notificationStatuses n.notificationType).getD .new).lastSent =
      (w.sentOf n.notificationType).head?.map (·.at) := by
    rw [← hlast]
    cases w.notificationStatuses n.notificationType <;> rfl
  unfold NotificationStatus.debounced Free
  rw [hstatus]
  cases n.debounce with
  | none => simp
  | some debounce =>
    cases (w.sentOf n.notificationType).head? with
    | none => simp
    | some m => simp

section
variable (enabledNotifications)

/-- The notification that a step makes the one of a type that waits. -/
def accepted (w : NotificationWorker) (t : NotificationType) : NotifyStep → Option Notification
  | .receive n now =>
    if n.notificationType = t ∧ t ∈ enabledNotifications ∧ w.Free n now then some n else none
  | .attempt .. => none

/-- The last notification of a type that is not ignored in some steps, `n` where there is none. -/
def lastAccepted (t : NotificationType) :
    NotificationWorker → Notification → List NotifyStep → Notification
  | _, n, [] => n
  | w, n, step :: steps =>
    lastAccepted t (w.step enabledNotifications step)
      ((w.accepted enabledNotifications t step).getD n) steps

end

/-- What waits is what was accepted last, and is what is sent. -/
theorem pending_step {w : NotificationWorker} (h : w.Logged) {t : NotificationType}
    {n : Notification} (hp : w.pending t = some n.message) (step : NotifyStep) :
    ((w.step enabledNotifications step).sentOf t = w.sentOf t ∧
      (w.step enabledNotifications step).pending t =
        some ((w.accepted enabledNotifications t step).getD n).message) ∨
    ∃ io, step = .attempt t io ∧
      (w.step enabledNotifications step).sent = ⟨t, n.message, io.after⟩ :: w.sent := by
  have hcase := @step_cases enabledNotifications w t step
  generalize w.step enabledNotifications step = w' at hcase ⊢
  cases hcase with
  | other hstep hstatus hsent =>
    have hnone : w.accepted enabledNotifications t step = none := by
      cases step with
      | attempt t io => rfl
      | receive n now => exact if_neg fun hacc => hstep n now rfl hacc.2.1 hacc.1
    exact .inl ⟨hsent, by rw [pending, hstatus, hnone]; exact hp⟩
  | @received m now _ ht hen hstatus hsent =>
    subst ht
    refine .inl ⟨by rw [sentOf, hsent]; rfl, ?_⟩
    rw [pending, hstatus, Option.bind_some, NotificationStatus.receive]
    by_cases hfree : w.Free m now
    · have hacc : w.accepted enabledNotifications m.notificationType (.receive m now) = some m :=
        if_pos ⟨rfl, hen, hfree⟩
      rw [if_neg ((debounced_iff h m now).not_left.2 hfree), hacc]
      rfl
    · have hacc : w.accepted enabledNotifications m.notificationType (.receive m now) = none :=
        if_neg fun hacc => hfree hacc.2.2
      rw [if_pos ((debounced_iff h m now).2 hfree), hacc]
      unfold pending at hp
      cases hst : w.notificationStatuses m.notificationType with
      | none => rw [hst] at hp; cases hp
      | some status => rw [hst] at hp; exact hp
  | @tried io _ status status' hst htry hstatus hsent =>
    rcases attempt_cases status io with ⟨_, heq, -, hmessage, hneeds⟩ | ⟨-, _, heq, -⟩
    · rw [htry] at heq
      cases heq
      refine .inl ⟨by rw [sentOf, hsent]; rfl, ?_⟩
      rw [pending, hst] at hp
      rw [pending, hstatus, Option.bind_some, hneeds, hmessage]
      exact hp
    · rw [htry] at heq
      cases heq
  | @sent io _ status status' hst htry _ hstatus hsent =>
    have hmessage : status.message = n.message := by
      rw [pending, hst, Option.bind_some] at hp
      split at hp
      · exact Option.some.inj hp
      · cases hp
    exact .inr ⟨io, rfl, by rw [hsent, hmessage]⟩

/-- As long as nothing of the type is sent, what waits is what was accepted last. -/
theorem pending_run {w : NotificationWorker} (h : w.Logged) {t : NotificationType}
    {n : Notification} (hp : w.pending t = some n.message) (later : List NotifyStep)
    (hquiet : (w.run enabledNotifications later).sentOf t = w.sentOf t) :
    (w.run enabledNotifications later).pending t =
      some (w.lastAccepted enabledNotifications t n later).message := by
  induction later generalizing w n with
  | nil => exact hp
  | cons step later ih =>
    have hgrown := @sentOf_run_suffix enabledNotifications
      (w.step enabledNotifications step) t later
    have hrun : ((w.step enabledNotifications step).run enabledNotifications later).sentOf t =
        w.sentOf t := hquiet
    rcases @pending_step enabledNotifications _ h _ _ hp step with
      ⟨hsame, hp'⟩ | ⟨io, -, hsent⟩
    · exact ih (logged_step h step) hp' (hrun.trans hsame.symm)
    · -- a message of the type was sent, and stays so
      have hone : (w.step enabledNotifications step).sentOf t =
          ⟨t, n.message, io.after⟩ :: w.sentOf t := by
        simp [sentOf, hsent]
      rw [hrun, hone] at hgrown
      have hlength := hgrown.length_le
      simp only [List.length_cons] at hlength
      omega

/-- No wait between two attempts is longer than 256 seconds. -/
theorem minWaitTime_le (status : NotificationStatus) :
    status.minWaitTime ≤ 256 * SECOND := by
  have hpow : 2 ^ min status.failedSinceLastSuccess.toNat 8 ≤ 2 ^ 8 :=
    Nat.pow_le_pow_right (by decide) (Nat.min_le_right ..)
  exact Nat.mul_le_mul_right _ hpow

/-- An attempt sends what waits or nothing, and sends it where the last attempt is long enough ago
and the server takes it. -/
theorem attempt_pending {w : NotificationWorker} {t : NotificationType} {message : String}
    (hp : w.pending t = some message) (io : AttemptIo) :
    ((w.step enabledNotifications (.attempt t io)).sent = w.sent ∨
      (w.step enabledNotifications (.attempt t io)).sent = ⟨t, message, io.after⟩ :: w.sent) ∧
    (io.sent = true → (∀ status lastAttempt, w.notificationStatuses t = some status →
        status.lastAttempt = some lastAttempt → 256 * SECOND ≤ io.now - lastAttempt) →
      (w.step enabledNotifications (.attempt t io)).sent = ⟨t, message, io.after⟩ :: w.sent) := by
  unfold pending at hp
  cases hst : w.notificationStatuses t with
  | none => rw [hst] at hp; cases hp
  | some status =>
    rw [hst, Option.bind_some] at hp
    split at hp
    · next hneeds =>
      cases hp
      simp only [NotificationWorker.step, hst]
      refine ⟨?_, fun hsent hrested => ?_⟩
      · rcases attempt_cases status io with ⟨status', heq, -⟩ | ⟨-, status', heq, -⟩
        · simp only [heq]
          exact .inl rfl
        · simp only [heq]
          exact .inr trivial
      · have hready : status.backsOff io.now = false := by
          unfold NotificationStatus.backsOff
          cases hlast : status.lastAttempt with
          | none => rfl
          | some lastAttempt =>
            have hwait := hrested status lastAttempt rfl hlast
            have hle := minWaitTime_le status
            exact decide_eq_false (Nat.not_lt.2 (hle.trans hwait))
        simp only [NotificationStatus.attempt, hneeds, hready, hsent, Bool.not_true,
          Bool.false_eq_true, if_false, if_true]
    · cases hp

end NotificationWorker

end Rayhunter
