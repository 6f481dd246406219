import Rayhunter.Detectors.Element

/-!
# A tower that fails its own authentication

`FlashCatchAnalyzer` of `lib/src/analysis/flash_catch.rs`. A run of authentication failures is
reported once: with high severity where two challenges were rejected as forged after an identity
request, with medium severity for forged challenges alone and for three failures of the sequence
number. The one flag `reported` serves all of them, so a run reported with medium severity is not
reported again when it turns out to be more than that (`Masked`). `high_iff_not_masked` is about
any messages after an identity request, by induction on them: until a forged challenge finds another
in its window nothing of high severity is said, and the flag found there, which nothing clears as
long as that challenge is in the window, decides.
-/

namespace Rayhunter

/-- `WINDOW` (`flash_catch.rs:54`), in packets. -/
def WINDOW : Nat := 200

/-- `FORGED_CHALLENGES_TO_WARN` (`flash_catch.rs:59`). -/
def FORGED_CHALLENGES_TO_WARN : Nat := 2

/-- `SYNCH_FAILURES_TO_WARN` (`flash_catch.rs:63`). -/
def SYNCH_FAILURES_TO_WARN : Nat := 3

/-- `FlashCatchAnalyzer` (`flash_catch.rs:65`). -/
structure FlashCatchAnalyzer where
  imsiRequestedAt : Option Nat
  checkedInAt : Option Nat
  forgedChallenges : List Nat
  synchFailures : List Nat
  reported : Bool
  deriving DecidableEq, Repr

namespace FlashCatchAnalyzer

/-- `new` (`flash_catch.rs:89`). -/
def new : FlashCatchAnalyzer where
  imsiRequestedAt := none
  checkedInAt := none
  forgedChallenges := []
  synchFailures := []
  reported := false

/-- `reset` (`flash_catch.rs:100`), which forgets everything. -/
def reset : FlashCatchAnalyzer := new

/-- Whether a packet is in the window that ends now; `saturating_sub` is the subtraction here. -/
def inWindow (now packet : Nat) : Bool := now - packet ≤ WINDOW

/-- `prune` (`flash_catch.rs:110`). -/
def prune (a : FlashCatchAnalyzer) (now : Nat) : FlashCatchAnalyzer :=
  let forgedChallenges := a.forgedChallenges.filter (inWindow now)
  let synchFailures := a.synchFailures.filter (inWindow now)
  { a with
    forgedChallenges
    synchFailures
    reported :=
      if forgedChallenges.isEmpty && synchFailures.isEmpty then false else a.reported }

/-- `packet_list` (`flash_catch.rs:120`). -/
def packetList (packets : List Nat) : String := ", ".intercalate (packets.map toString)

/-- `on_check_in` (`flash_catch.rs:130`). -/
def onCheckIn (packetNum : Nat) : FlashCatchAnalyzer :=
  { reset with checkedInAt := some packetNum }

/-- The event of forged challenges after an identity request (`flash_catch.rs:148`). -/
def flashCatchEvent (requestedAt : Nat) (forgedChallenges : List Nat) : Event where
  eventType := .high
  message :=
    s!"The tower asked for the phone's permanent identity (IMSI) at packet {requestedAt}, " ++
    s!"then failed its own authentication {forgedChallenges.length} times in a row (packets " ++
    s!"{packetList forgedChallenges}): the phone rejected each challenge as forged. This is " ++
    "the FlashCatch pattern. A fake tower takes the identity and then fails authentication " ++
    "on purpose; after the third rejection the phone bars the tower for five minutes and " ++
    "goes back to the real network with no visible interruption, keeping the temporary " ++
    "identity the tower can now tie to the IMSI."

/-- The event of forged challenges alone (`flash_catch.rs:164`). -/
def forgedEvent (forgedChallenges : List Nat) : Event where
  eventType := .medium
  message :=
    "The phone rejected the tower's authentication challenge as forged " ++
    s!"{forgedChallenges.length} times in a row (packets {packetList forgedChallenges}). A " ++
    "real network knows the SIM's key and passes this check; a tower that keeps failing it " ++
    "does not know the key. This is the second half of the FlashCatch pattern, seen " ++
    "without the identity request that usually comes first."

/-- `on_forged_challenge` (`flash_catch.rs:135`). -/
def onForgedChallenge (a : FlashCatchAnalyzer) (packetNum : Nat) :
    Option Event × FlashCatchAnalyzer :=
  let a := a.prune packetNum
  let a := { a with forgedChallenges := a.forgedChallenges ++ [packetNum] }
  if a.reported ∨ a.forgedChallenges.length < FORGED_CHALLENGES_TO_WARN then (none, a)
  else
    let event := match a.imsiRequestedAt.filter (inWindow packetNum) with
      | some requestedAt => flashCatchEvent requestedAt a.forgedChallenges
      | none => forgedEvent a.forgedChallenges
    (some event, { a with reported := true })

/-- The event of a run of sequence failures (`flash_catch.rs:183`). -/
def synchEvent (synchFailures : List Nat) : Event where
  eventType := .medium
  message :=
    "The phone reported the tower's authentication sequence number out of step " ++
    s!"{synchFailures.length} times in a row (packets {packetList synchFailures}). Once is " ++
    "normal housekeeping; a run of them suggests a tower replaying old authentication data " ++
    "it captured earlier."

/-- `on_synch_failure` (`flash_catch.rs:175`). -/
def onSynchFailure (a : FlashCatchAnalyzer) (packetNum : Nat) :
    Option Event × FlashCatchAnalyzer :=
  let a := a.prune packetNum
  let a := { a with synchFailures := a.synchFailures ++ [packetNum] }
  if a.reported ∨ a.synchFailures.length < SYNCH_FAILURES_TO_WARN then (none, a)
  else (some (synchEvent a.synchFailures), { a with reported := true })

/-- The event of an identity request after a check-in (`flash_catch.rs:199`). -/
def checkInEvent (checkedInAt : Nat) : Event where
  eventType := .informational
  message :=
    "The tower asked for the permanent identity (IMSI) as soon as the phone checked in " ++
    s!"(tracking area update or service request at packet {checkedInAt}). Real networks do " ++
    "this when they have lost the phone's record; a fake tower does it to every phone. " ++
    "Noted only. This detector warns if forged authentication follows."

/-- `on_imsi_request` (`flash_catch.rs:194`). -/
def onImsiRequest (a : FlashCatchAnalyzer) (packetNum : Nat) :
    Option Event × FlashCatchAnalyzer :=
  ((a.checkedInAt.filter (inWindow packetNum)).map checkInEvent,
    { a with imsiRequestedAt := some packetNum })

/-- `analyze_information_element` (`flash_catch.rs:233`). -/
def analyzeInformationElement (a : FlashCatchAnalyzer) (h : Arrival) :
    Option Event × FlashCatchAnalyzer :=
  match h.ie with
  | .lte (.nas (.emm m)) =>
    match m with
    | .trackingAreaUpdateRequest | .extServiceRequest | .cpServiceRequest =>
      (none, onCheckIn h.packetNum)
    | .attachRequest _ => (none, reset)
    | .identityRequest .imsi => a.onImsiRequest h.packetNum
    | .authenticationFailure .macFailure
    | .authenticationFailure .nonEpsAuthenticationUnacceptable =>
      a.onForgedChallenge h.packetNum
    | .authenticationFailure .synchFailure => a.onSynchFailure h.packetNum
    | .authenticationResponse | .securityModeCommand | .attachAccept | .trackingAreaUpdateAccept
    | .serviceAccept => (none, reset)
    | _ => (none, a)
  | _ => (none, a)

end FlashCatchAnalyzer

/-! ## Kinds of messages -/

namespace Arrival

/-- Whether a phone rejects a challenge as forged. -/
def isForged (h : Arrival) : Bool :=
  match h.ie with
  | .lte (.nas (.emm (.authenticationFailure .macFailure)))
  | .lte (.nas (.emm (.authenticationFailure .nonEpsAuthenticationUnacceptable))) => true
  | _ => false

/-- Whether this is an identity request for the IMSI. -/
def isImsiRequest (h : Arrival) : Bool :=
  match h.ie with
  | .lte (.nas (.emm (.identityRequest .imsi))) => true
  | _ => false

/-- Whether the detector forgets at this message what came before. -/
def isReset (h : Arrival) : Bool :=
  match h.ie with
  | .lte (.nas (.emm m)) =>
    match m with
    | .trackingAreaUpdateRequest | .extServiceRequest | .cpServiceRequest | .attachRequest _
    | .authenticationResponse | .securityModeCommand | .attachAccept | .trackingAreaUpdateAccept
    | .serviceAccept => true
    | _ => false
  | _ => false

end Arrival

namespace FlashCatchAnalyzer

/-- What a message that does not reset the detector comes to. -/
theorem analyze_cases (a : FlashCatchAnalyzer) {x : Arrival} (h : x.isReset = false) :
    (x.isForged = true ∧ a.analyzeInformationElement x = a.onForgedChallenge x.packetNum) ∨
      (x.isForged = false ∧ (a.analyzeInformationElement x = a.onSynchFailure x.packetNum ∨
        a.analyzeInformationElement x = a.onImsiRequest x.packetNum ∨
        a.analyzeInformationElement x = (none, a))) := by
  obtain ⟨ie, n⟩ := x
  match ie with
  | .gsm | .umts | .fiveG | .lte (.ulCcch _) | .lte (.bcchDlSch _) | .lte .other
  | .lte (.nas .other) => exact .inr ⟨rfl, .inr (.inr rfl)⟩
  | .lte (.nas (.emm m)) =>
    cases m with
    | trackingAreaUpdateRequest | extServiceRequest | cpServiceRequest | attachRequest
    | authenticationResponse | securityModeCommand | attachAccept | trackingAreaUpdateAccept
    | serviceAccept => cases h
    | identityRequest idType =>
      cases idType with
      | imsi => exact .inr ⟨rfl, .inr (.inl rfl)⟩
      | other => exact .inr ⟨rfl, .inr (.inr rfl)⟩
    | authenticationFailure cause =>
      cases cause with
      | macFailure | nonEpsAuthenticationUnacceptable => exact .inl ⟨rfl, rfl⟩
      | synchFailure => exact .inr ⟨rfl, .inl rfl⟩
      | other => exact .inr ⟨rfl, .inr (.inr rfl)⟩
    | _ => exact .inr ⟨rfl, .inr (.inr rfl)⟩

/-! ## After an identity request -/

/-- The last identity request came at packet `p` or later. -/
def Asked (p : Nat) (a : FlashCatchAnalyzer) : Prop := ∃ r, a.imsiRequestedAt = some r ∧ p ≤ r

/-- A challenge was rejected at packet `p` or later. -/
def Rejected (p : Nat) (a : FlashCatchAnalyzer) : Prop := ∃ f ∈ a.forgedChallenges, p ≤ f

/-- `severities` of the detector's tests (`flash_catch.rs:375`). -/
def severities (events : List (Option Event)) : List (Option EventType) :=
  events.map (·.map (·.eventType))

variable {a : FlashCatchAnalyzer} {p n : Nat}

theorem inWindow_of_le {packet : Nat} (h : p ≤ packet) (hn : n ≤ p + WINDOW) :
    inWindow n packet = true := by
  simp only [inWindow, decide_eq_true_eq]
  omega

/-- What was rejected since is not dropped as long as the window is open. -/
theorem Rejected.prune (h : a.Rejected p) (hn : n ≤ p + WINDOW) : (a.prune n).Rejected p := by
  obtain ⟨f, hf, hp⟩ := h
  exact ⟨f, List.mem_filter.2 ⟨hf, inWindow_of_le hp hn⟩, hp⟩

theorem Rejected.isEmpty (h : a.Rejected p) : a.forgedChallenges.isEmpty = false := by
  obtain ⟨f, hf, -⟩ := h
  exact List.isEmpty_eq_false_iff.2 (List.ne_nil_of_mem hf)

/-- The flag is only cleared where no failure is left. -/
theorem prune_reported (h : (a.prune n).forgedChallenges.isEmpty = false) :
    (a.prune n).reported = a.reported := by
  have hforged : (a.forgedChallenges.filter (inWindow n)).isEmpty = false := h
  simp [prune, hforged]

/-! ### One message -/

/-- A forged challenge is noted, whatever is said. -/
theorem onForgedChallenge_forgedChallenges (a : FlashCatchAnalyzer) (n : Nat) :
    (a.onForgedChallenge n).2.forgedChallenges = (a.prune n).forgedChallenges ++ [n] := by
  unfold onForgedChallenge
  simp only
  split <;> rfl

theorem onForgedChallenge_imsiRequestedAt (a : FlashCatchAnalyzer) (n : Nat) :
    (a.onForgedChallenge n).2.imsiRequestedAt = a.imsiRequestedAt := by
  unfold onForgedChallenge
  simp only
  split <;> rfl

/-- In a run that has been reported nothing more is said. -/
theorem onForgedChallenge_of_reported (h : (a.prune n).reported = true) :
    a.onForgedChallenge n =
      (none, { a.prune n with forgedChallenges := (a.prune n).forgedChallenges ++ [n] }) := by
  simp [onForgedChallenge, h]

/-- One forged challenge alone is no run. -/
theorem onForgedChallenge_alone (h : (a.prune n).forgedChallenges.isEmpty = true) :
    (a.onForgedChallenge n).1 = none := by
  simp [onForgedChallenge, List.isEmpty_iff.1 h, FORGED_CHALLENGES_TO_WARN]

/-- The second of a run that has not been reported is, with high severity after a request. -/
theorem onForgedChallenge_second (hasked : a.Asked p) (hn : n ≤ p + WINDOW)
    (hreported : (a.prune n).reported = false)
    (hother : (a.prune n).forgedChallenges.isEmpty = false) :
    (a.onForgedChallenge n).1.map (·.eventType) = some .high := by
  obtain ⟨r, hr, hp⟩ := hasked
  have hasked' : (a.prune n).imsiRequestedAt.filter (inWindow n) = some r := by
    rw [show (a.prune n).imsiRequestedAt = a.imsiRequestedAt from rfl, hr]
    simp [inWindow_of_le hp hn]
  have hlong : ¬ ((a.prune n).forgedChallenges ++ [n]).length < FORGED_CHALLENGES_TO_WARN := by
    have := List.length_pos_iff.2 (List.isEmpty_eq_false_iff.1 hother)
    simp only [List.length_append, List.length_singleton, FORGED_CHALLENGES_TO_WARN]
    omega
  unfold onForgedChallenge
  simp only [hreported, hasked', Bool.false_eq_true, false_or, if_neg hlong]
  rfl

/-- Failures of the sequence number leave the request and, in the window, the forged challenges. -/
theorem onSynchFailure_imsiRequestedAt (a : FlashCatchAnalyzer) (n : Nat) :
    (a.onSynchFailure n).2.imsiRequestedAt = a.imsiRequestedAt := by
  unfold onSynchFailure
  simp only
  split <;> rfl

theorem onSynchFailure_forgedChallenges (a : FlashCatchAnalyzer) (n : Nat) :
    (a.onSynchFailure n).2.forgedChallenges = (a.prune n).forgedChallenges := by
  unfold onSynchFailure
  simp only
  split <;> rfl

theorem onSynchFailure_of_reported (h : (a.prune n).reported = true) :
    (a.onSynchFailure n).2.reported = true := by
  simp [onSynchFailure, h]

/-- What is not a forged challenge is not of high severity. -/
theorem not_high_of_not_forged {x : Arrival} (hreset : x.isReset = false)
    (hforged : x.isForged = false) :
    (a.analyzeInformationElement x).1.map (·.eventType) ≠ some .high := by
  rcases a.analyze_cases hreset with ⟨hf, -⟩ | ⟨-, h | h | h⟩
  · rw [hforged] at hf; cases hf
  · rw [h]
    unfold onSynchFailure
    simp only
    split
    · exact nofun
    · exact fun heq => by cases heq
  · rw [h, onImsiRequest]
    cases a.checkedInAt.filter (inWindow x.packetNum) with
    | none => exact nofun
    | some c => exact fun heq => by cases heq
  · rw [h]; exact nofun

/-- The request stays asked. -/
theorem Asked.analyze (h : a.Asked p) {x : Arrival} (hreset : x.isReset = false)
    (hx : p ≤ x.packetNum) : (a.analyzeInformationElement x).2.Asked p := by
  obtain ⟨r, hr, hp⟩ := h
  rcases a.analyze_cases hreset with ⟨-, h⟩ | ⟨-, h | h | h⟩ <;> rw [h]
  · exact ⟨r, by rw [onForgedChallenge_imsiRequestedAt, hr], hp⟩
  · exact ⟨r, by rw [onSynchFailure_imsiRequestedAt, hr], hp⟩
  · exact ⟨x.packetNum, rfl, hx⟩
  · exact ⟨r, hr, hp⟩

/-- What was rejected stays so as long as the window is open. -/
theorem Rejected.analyze (h : a.Rejected p) {x : Arrival} (hreset : x.isReset = false)
    (hx : x.packetNum ≤ p + WINDOW) : (a.analyzeInformationElement x).2.Rejected p := by
  obtain ⟨f, hf, hp⟩ := h.prune hx
  rcases a.analyze_cases hreset with ⟨-, h'⟩ | ⟨-, h' | h' | h'⟩ <;> rw [h']
  · exact ⟨f, by rw [onForgedChallenge_forgedChallenges]; exact List.mem_append_left _ hf, hp⟩
  · exact ⟨f, by rw [onSynchFailure_forgedChallenges]; exact hf, hp⟩
  · exact h
  · exact h

/-- A forged challenge is one that was rejected. -/
theorem rejected_of_forged {x : Arrival} (hreset : x.isReset = false) (hforged : x.isForged = true)
    (hx : p ≤ x.packetNum) : (a.analyzeInformationElement x).2.Rejected p := by
  rcases a.analyze_cases hreset with ⟨-, h⟩ | ⟨hf, -⟩
  · rw [h]
    exact ⟨x.packetNum, by simp [onForgedChallenge_forgedChallenges], hx⟩
  · rw [hforged] at hf; cases hf

/-- A run that has been reported stays reported as long as the window is open. -/
theorem reported_analyze (h : a.reported = true) (hrej : a.Rejected p) {x : Arrival}
    (hreset : x.isReset = false) (hx : x.packetNum ≤ p + WINDOW) :
    (a.analyzeInformationElement x).2.reported = true ∧
      (a.analyzeInformationElement x).1.map (·.eventType) ≠ some .high := by
  have hprune : (a.prune x.packetNum).reported = true := by
    rw [prune_reported (hrej.prune hx).isEmpty, h]
  rcases a.analyze_cases hreset with ⟨-, h'⟩ | ⟨hf, h' | h' | h'⟩
  · rw [h', onForgedChallenge_of_reported hprune]
    exact ⟨hprune, nofun⟩
  · exact ⟨h' ▸ onSynchFailure_of_reported hprune, not_high_of_not_forged hreset hf⟩
  · exact ⟨h' ▸ h, not_high_of_not_forged hreset hf⟩
  · exact ⟨h' ▸ h, not_high_of_not_forged hreset hf⟩

/-! ### All messages in the window -/

/-- The first of these messages that is a forged challenge with another in its window comes in a run
that has been reported. -/
def masked (a : FlashCatchAnalyzer) : List Arrival → Bool
  | [] => false
  | x :: xs =>
    if x.isForged && !(a.prune x.packetNum).forgedChallenges.isEmpty then
      (a.prune x.packetNum).reported
    else masked (a.analyzeInformationElement x).2 xs

/-- Nothing of high severity is said any more in a run that has been reported. -/
theorem not_high_of_reported (h : a.reported = true) (hrej : a.Rejected p) {xs : List Arrival}
    (hreset : ∀ x ∈ xs, x.isReset = false) (hwindow : ∀ x ∈ xs, x.packetNum ≤ p + WINDOW) :
    some .high ∉ severities (Mealy.answers analyzeInformationElement a xs) := by
  induction xs generalizing a with
  | nil => exact List.not_mem_nil
  | cons x xs ih =>
    rw [List.forall_mem_cons] at hreset hwindow
    obtain ⟨hstill, hnot⟩ := reported_analyze h hrej hreset.1 hwindow.1
    have hrest := ih hstill (hrej.analyze hreset.1 hwindow.1) hreset.2 hwindow.2
    simp only [severities, Mealy.answers_cons, List.map_cons, List.mem_cons, not_or] at hrest ⊢
    exact ⟨fun heq => hnot heq.symm, hrest⟩

/-- Once the identity has been asked for, as many forged challenges as make a warning bring one of
high severity, unless the run is masked. -/
theorem high_iff_masked (hasked : a.Asked p) {xs : List Arrival}
    (hreset : ∀ x ∈ xs, x.isReset = false)
    (hwindow : ∀ x ∈ xs, p ≤ x.packetNum ∧ x.packetNum ≤ p + WINDOW)
    (htwo : a.Rejected p ∧ 1 ≤ xs.countP Arrival.isForged ∨ 2 ≤ xs.countP Arrival.isForged) :
    some .high ∈ severities (Mealy.answers analyzeInformationElement a xs) ↔
      a.masked xs = false := by
  induction xs generalizing a with
  | nil => simp at htwo
  | cons x xs ih =>
    rw [List.forall_mem_cons] at hreset hwindow
    obtain ⟨⟨hp, hn⟩, hwindow⟩ := hwindow
    have hasked' := hasked.analyze hreset.1 hp
    have hcons : severities (Mealy.answers analyzeInformationElement a (x :: xs)) =
        (a.analyzeInformationElement x).1.map (·.eventType) ::
          severities (Mealy.answers analyzeInformationElement (a.analyzeInformationElement x).2
            xs) := rfl
    rw [hcons, masked]
    cases hf : x.isForged with
    | false =>
      -- not the message that decides: nothing of high severity, and what was rejected stays so
      have hnot := not_high_of_not_forged (a := a) hreset.1 hf
      rw [List.mem_cons, or_iff_right fun heq => hnot heq.symm]
      refine ih hasked' hreset.2 hwindow ?_
      rw [List.countP_cons_of_neg (by simp [hf])] at htwo
      exact htwo.imp_left fun h => ⟨h.1.analyze hreset.1 hn, h.2⟩
    | true =>
      obtain ⟨-, hans⟩ | ⟨hnf, -⟩ := a.analyze_cases hreset.1
      case inr => rw [hf] at hnf; cases hnf
      cases hother : (a.prune x.packetNum).forgedChallenges.isEmpty with
      | true =>
        -- the first of a run, with another still to come
        have hnone : (a.analyzeInformationElement x).1 = none := by
          rw [hans, onForgedChallenge_alone hother]
        have hrej : ¬ a.Rejected p := fun h => by
          rw [(h.prune hn).isEmpty] at hother
          cases hother
        rw [List.mem_cons, hnone, or_iff_right nofun]
        refine ih hasked' hreset.2 hwindow (.inl ⟨rejected_of_forged hreset.1 hf hp, ?_⟩)
        have hcount := htwo.resolve_left fun h => hrej h.1
        rw [List.countP_cons_of_pos hf] at hcount
        omega
      | false =>
        cases hrep : (a.prune x.packetNum).reported with
        | false =>
          have hhigh := onForgedChallenge_second hasked hn hrep hother
          simp [hans, hhigh]
        | true =>
          have heq := onForgedChallenge_of_reported hrep
          have hstill : (a.analyzeInformationElement x).2.reported = true := by rw [hans, heq, hrep]
          have hrest := not_high_of_reported hstill (rejected_of_forged hreset.1 hf hp) hreset.2
            fun y hy => (hwindow y hy).2
          refine iff_of_false ?_ (by simp)
          rw [List.mem_cons, not_or]
          exact ⟨by rw [hans, heq]; exact nofun, hrest⟩

/-- **An identity request and two forged challenges in its window bring an event of high severity by
the second**, whatever messages come before and between them as long as none in between resets the
detector, unless the first of those challenges that has another in its own window comes in a run of
failures that has been reported. -/
theorem high_iff_not_masked (before between : List Arrival) (request second : Arrival)
    (hrequest : request.isImsiRequest = true) (hsecond : second.isForged = true)
    (hfirst : ∃ first ∈ between, first.isForged = true)
    (hreset : ∀ x ∈ between, x.isReset = false)
    (hwindow : ∀ x ∈ between ++ [second], request.packetNum ≤ x.packetNum ∧
      x.packetNum ≤ request.packetNum + WINDOW) :
    some .high ∈ severities (Mealy.answers analyzeInformationElement
        (Mealy.after analyzeInformationElement new (before ++ [request])) (between ++ [second])) ↔
      masked (Mealy.after analyzeInformationElement new (before ++ [request]))
        (between ++ [second]) = false := by
  rw [Mealy.after_append, Mealy.after_cons, Mealy.after_nil]
  generalize Mealy.after analyzeInformationElement new before = a
  have hasked : (a.analyzeInformationElement request).2.Asked request.packetNum := by
    obtain ⟨ie, n⟩ := request
    unfold Arrival.isImsiRequest at hrequest
    split at hrequest
    · next h => cases h; exact ⟨n, rfl, le_rfl⟩
    · cases hrequest
  refine high_iff_masked hasked (fun x hx => ?_) hwindow (.inr ?_)
  · rcases List.mem_append.1 hx with hx | hx
    · exact hreset x hx
    · rw [List.mem_singleton.1 hx]
      unfold Arrival.isForged at hsecond
      unfold Arrival.isReset
      split at hsecond <;> simp_all
  · have hone : 0 < between.countP Arrival.isForged := List.countP_pos_iff.2 hfirst
    rw [List.countP_append, List.countP_singleton, if_pos hsecond]
    omega

/-- A rejected challenge. -/
def rejection (n : Nat) : Arrival :=
  ⟨(EmmMessage.authenticationFailure .macFailure).element, n⟩

/-- A failure of the sequence number. -/
def outOfStep (n : Nat) : Arrival :=
  ⟨(EmmMessage.authenticationFailure .synchFailure).element, n⟩

/-- An identity request for the IMSI. -/
def asksImsi (n : Nat) : Arrival := ⟨(EmmMessage.identityRequest .imsi).element, n⟩

/-- Two failures of the sequence number are no run that is reported. -/
theorem high_iff_not_masked_after_two : some .high ∈ severities
    (Mealy.answers analyzeInformationElement
      (Mealy.after analyzeInformationElement new [outOfStep 1, outOfStep 2, asksImsi 3])
      [rejection 4, rejection 5]) :=
  (high_iff_not_masked [outOfStep 1, outOfStep 2] [rejection 4] (asksImsi 3) (rejection 5) rfl rfl
    ⟨rejection 4, List.mem_singleton_self _, rfl⟩ (by decide) (by decide)).2 (by decide)

/-- Three are, and the forged challenges that follow are not reported any more. -/
theorem high_masked_after_three :
    ¬ ∀ (before between : List Arrival) (request second : Arrival),
      (∀ x ∈ before ++ request :: between ++ [second], x.isReset = false) →
      request.isImsiRequest = true → second.isForged = true →
      (∃ first ∈ between, first.isForged = true) →
      (∀ x ∈ between ++ [second], request.packetNum ≤ x.packetNum ∧
        x.packetNum ≤ request.packetNum + WINDOW) →
      some .high ∈ severities (Mealy.answers analyzeInformationElement new
        (before ++ request :: between ++ [second])) := by
  intro h
  have := h [outOfStep 1, outOfStep 2, outOfStep 3] [rejection 5] (asksImsi 4) (rejection 6)
    (by decide) rfl rfl ⟨rejection 5, List.mem_singleton_self _, rfl⟩ (by decide)
  exact absurd this (by decide)

end FlashCatchAnalyzer

end Rayhunter
