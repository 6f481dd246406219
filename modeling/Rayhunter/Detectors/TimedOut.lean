import Rayhunter.Detectors.ImsiRequested

/-!
# How long an identity request has waited

The event of `ImsiRequestedAnalyzer` for a request that nothing came of is meant for one that has
waited for `TIMEOUT_THRESHHOLD` messages. The count is kept where a phone is disconnected, and the
request that comes next does not start it anew as one in any other state does; so what it says of
that request may be what it counted for an earlier one. Where no request finds such a count
(`NoneCounted`), the count is never ahead of the wait (`Waited`), by induction on the messages.
-/

namespace Rayhunter

/-- Whether this is an identity request. -/
def Arrival.isIdentityRequest (h : Arrival) : Bool :=
  match h.ie with
  | .lte (.nas (.emm (.identityRequest _))) => true
  | _ => false

namespace ImsiRequestedAnalyzer

/-- What is said when the count runs out (`imsi_requested.rs:318`). -/
def timedOutEvent : Event :=
  ⟨.informational, "Identity request happened without auth request followup"⟩

/-- The detector after these messages. -/
abbrev run (homePlmn : List String) (arrivals : List Arrival) : ImsiRequestedAnalyzer :=
  Mealy.after analyzeInformationElement (new homePlmn) arrivals

/-- These are the last messages, the first of them is the last identity request, and the detector
has been waiting for what comes of it ever since. -/
def Waiting (homePlmn : List String) (arrivals since : List Arrival) : Prop :=
  ∃ before request during, arrivals = before ++ request :: during ∧ since = request :: during ∧
    request.isIdentityRequest = true ∧ (∀ m ∈ during, m.isIdentityRequest = false) ∧
    ∀ part, part <+: during → (run homePlmn (before ++ request :: part)).state = .identityRequest

/-- No identity request finds the count an earlier one has left where the phone is disconnected. -/
def NoneCounted (homePlmn : List String) (arrivals : List Arrival) : Prop :=
  ∀ before request after, arrivals = before ++ request :: after →
    request.isIdentityRequest = true → (run homePlmn before).state = .disconnect →
    (run homePlmn before).timeoutCounter = 0

/-! ## One message -/

variable {a : ImsiRequestedAnalyzer} {x : Arrival} {homePlmn : List String}
  {arrivals since : List Arrival}

theorem countTimeout_state (a : ImsiRequestedAnalyzer) : a.countTimeout.state = a.state := by
  unfold countTimeout
  split
  · split <;> rfl
  · rfl

theorem countTimeout_timeoutCounter_le (a : ImsiRequestedAnalyzer) :
    a.countTimeout.timeoutCounter ≤ a.timeoutCounter + 1 := by
  unfold countTimeout
  split
  · split
    · exact Nat.zero_le _
    · exact le_rfl
  · exact Nat.le_succ _

/-- The count runs out only at its end. -/
theorem countTimeout_flag (h : a.flag ≠ some timedOutEvent)
    (hflag : a.countTimeout.flag = some timedOutEvent) :
    a.state = .identityRequest ∧ TIMEOUT_THRESHHOLD ≤ a.timeoutCounter + 1 := by
  unfold countTimeout at hflag
  split at hflag
  · next hs =>
    split at hflag
    · next hlong => exact ⟨hs, hlong⟩
    · exact absurd hflag h
  · exact absurd hflag h

/-- A transition says other things. -/
theorem transition_flag (h : a.flag = none) (nextState : State) :
    (a.transition nextState).flag ≠ some timedOutEvent := by
  have hdisconnected : some a.disconnectedEvent ≠ some timedOutEvent := by
    unfold disconnectedEvent
    split
    · exact fun heq => by cases congrArg (Option.map Event.eventType) heq
    · exact fun heq => by cases congrArg (Option.map Event.eventType) heq
  cases hs : a.state <;> cases nextState <;> simp [transition, hs, h, timedOutEvent]
  all_goals simpa [timedOutEvent] using hdisconnected

theorem hear_flag (h : a.flag = none) (lte : LteInformationElement) :
    (a.hear lte).flag ≠ some timedOutEvent := by
  have hnone : a.flag ≠ some timedOutEvent := by simp [h]
  unfold hear
  split <;> first
    | exact transition_flag h _
    | exact hnone
    | (split <;> exact transition_flag h _)

/-- An identity request starts the count anew, but where it finds one it does not start. -/
theorem transition_timeoutCounter (h : a.Settled)
    (hcount : a.state = .disconnect → a.timeoutCounter = 0) :
    (a.transition .identityRequest).timeoutCounter = 0 := by
  cases hs : a.state with
  | disconnect => simpa [transition, hs] using hcount hs
  | authAccept => simpa [transition, hs] using h.accepted hs
  | unattached | attachRequest | identityRequest | likelyValidAttachReject => simp [transition, hs]

/-- What is heard that is not an identity request leads out of the waiting state or changes
nothing. -/
theorem hear_waiting {lte : LteInformationElement}
    (hx : ∀ idType, lte ≠ .nas (.emm (.identityRequest idType)))
    (hs : (a.hear lte).state = .identityRequest) : a.hear lte = a := by
  unfold hear at hs ⊢
  split at hs <;> first
    | rfl
    | exact absurd rfl (hx _)
    | (simp at hs)
    | (split at hs <;> simp at hs)

/-- A message is a first system information block, which is not counted, an identity request, or
another, after which the detector waits only if it did before. -/
theorem analyze_heard (h : a.Settled) (x : Arrival) :
    (x.isIdentityRequest = false ∧ (a.analyzeInformationElement x).1 = none ∧
        (a.analyzeInformationElement x).2.state = a.state ∧
        (a.analyzeInformationElement x).2.timeoutCounter = a.timeoutCounter) ∨
      ∃ b : ImsiRequestedAnalyzer, b.flag ≠ some timedOutEvent ∧
        a.analyzeInformationElement x =
          (b.countTimeout.flag, { b.countTimeout with flag := none }) ∧
        (x.isIdentityRequest = true ∧ b = a.transition .identityRequest ∨
          x.isIdentityRequest = false ∧ (b.state = .identityRequest → b = a)) := by
  obtain ⟨ie, n⟩ := x
  have hnone : a.flag ≠ some timedOutEvent := by simp [h.flag]
  unfold analyzeInformationElement
  split
  · next plmns hie =>
    obtain rfl : ie = .lte (.bcchDlSch (.systemInformationBlockType1 plmns)) := hie
    exact .inl ⟨rfl, rfl, rfl, rfl⟩
  · next lte _ hie =>
    obtain rfl : ie = .lte lte := hie
    refine .inr ⟨a.hear lte, hear_flag h.flag lte, rfl, ?_⟩
    by_cases hx : ∃ idType, lte = .nas (.emm (.identityRequest idType))
    · obtain ⟨idType, rfl⟩ := hx
      exact .inl ⟨rfl, rfl⟩
    · refine .inr ⟨?_, hear_waiting fun idType heq => hx ⟨idType, heq⟩⟩
      unfold Arrival.isIdentityRequest
      split
      · next idType heq => cases heq; exact absurd ⟨idType, rfl⟩ hx
      · rfl
  · next _ hie =>
    refine .inr ⟨a, hnone, rfl, .inr ⟨?_, fun _ => rfl⟩⟩
    unfold Arrival.isIdentityRequest
    split
    · next idType heq => exact absurd heq (hie _)
    · rfl

/-- After a message the detector waits for an identity request that was this message, with no count,
or for the one it waited for, with the count it had. -/
theorem analyze_waiting (h : a.Settled)
    (hcount : x.isIdentityRequest = true → a.state = .disconnect → a.timeoutCounter = 0)
    (hs : (a.analyzeInformationElement x).2.state = .identityRequest) :
    ∃ k, (x.isIdentityRequest = true ∧ k = 0 ∨
        x.isIdentityRequest = false ∧ a.state = .identityRequest ∧ k = a.timeoutCounter) ∧
      (a.analyzeInformationElement x).2.timeoutCounter ≤ k + 1 ∧
      ((a.analyzeInformationElement x).1 = some timedOutEvent → TIMEOUT_THRESHHOLD ≤ k + 1) := by
  obtain ⟨hx, hevent, hstate, hcounter⟩ | ⟨b, hflag, heq, hb⟩ := analyze_heard h x
  · refine ⟨a.timeoutCounter, .inr ⟨hx, hstate ▸ hs, rfl⟩, hcounter ▸ Nat.le_succ _, ?_⟩
    rw [hevent]
    exact nofun
  · rw [heq] at hs ⊢
    have hbs : b.state = .identityRequest := by rw [← countTimeout_state b]; exact hs
    refine ⟨b.timeoutCounter, ?_, b.countTimeout_timeoutCounter_le,
      fun hout => (countTimeout_flag hflag hout).2⟩
    rcases hb with ⟨hx, rfl⟩ | ⟨hx, hsame⟩
    · exact .inl ⟨hx, transition_timeoutCounter h (hcount hx)⟩
    · obtain rfl := hsame hbs
      exact .inr ⟨hx, hbs, rfl⟩

/-- The count runs out only while the detector waits. -/
theorem state_of_timedOut (h : a.Settled)
    (hout : (a.analyzeInformationElement x).1 = some timedOutEvent) :
    (a.analyzeInformationElement x).2.state = .identityRequest := by
  obtain ⟨-, hevent, -⟩ | ⟨b, hflag, heq, -⟩ := analyze_heard h x
  · rw [hevent] at hout
    cases hout
  · rw [heq] at hout ⊢
    exact (countTimeout_state b).trans (countTimeout_flag hflag hout).1

/-! ## All messages -/

theorem settled_run (homePlmn : List String) (arrivals : List Arrival) :
    (run homePlmn arrivals).Settled :=
  Mealy.after_invariant (fun _ x _ h => h.analyzeInformationElement x) (settled_new homePlmn)

theorem run_concat (homePlmn : List String) (arrivals : List Arrival) (x : Arrival) :
    run homePlmn (arrivals ++ [x]) =
      ((run homePlmn arrivals).analyzeInformationElement x).2 := by
  rw [run, Mealy.after_append]
  rfl

theorem NoneCounted.of_append {later : List Arrival} (h : NoneCounted homePlmn (arrivals ++ later)) :
    NoneCounted homePlmn arrivals := by
  rintro before request after rfl
  exact h before request (after ++ later) (by simp)

/-- An identity request begins a wait. -/
theorem waiting_request (hx : x.isIdentityRequest = true)
    (hs : (run homePlmn (arrivals ++ [x])).state = .identityRequest) :
    Waiting homePlmn (arrivals ++ [x]) [x] :=
  ⟨arrivals, x, [], rfl, rfl, hx, nofun, fun part hpart => by
    rwa [List.prefix_nil.1 hpart]⟩

/-- Another message in which the detector stays waiting prolongs it. -/
theorem Waiting.concat (h : Waiting homePlmn arrivals since) (hx : x.isIdentityRequest = false)
    (hs : (run homePlmn (arrivals ++ [x])).state = .identityRequest) :
    Waiting homePlmn (arrivals ++ [x]) (since ++ [x]) := by
  obtain ⟨before, request, during, rfl, rfl, hrequest, hduring, hstay⟩ := h
  refine ⟨before, request, during ++ [x], by simp, rfl, hrequest, ?_, fun part hpart => ?_⟩
  · simpa [or_imp, forall_and, hx] using hduring
  · rcases List.prefix_concat_iff.1 hpart with rfl | hpart
    · simpa using hs
    · exact hstay part hpart

/-- What the detector has counted is no more than it has waited. -/
theorem waited (h : NoneCounted homePlmn arrivals)
    (hs : (run homePlmn arrivals).state = .identityRequest) :
    ∃ since, Waiting homePlmn arrivals since ∧
      (run homePlmn arrivals).timeoutCounter ≤ since.length := by
  induction arrivals using List.reverseRecOn with
  | nil => cases hs
  | append_singleton arrivals x ih =>
    have hs' := hs
    rw [run_concat] at hs'
    obtain ⟨k, hk, hcounter, -⟩ := analyze_waiting (settled_run homePlmn arrivals)
      (h arrivals x [] rfl) hs'
    rw [← run_concat] at hcounter
    rcases hk with ⟨hx, rfl⟩ | ⟨hx, hbefore, rfl⟩
    · exact ⟨[x], waiting_request hx hs, hcounter⟩
    · obtain ⟨since, hwaiting, hle⟩ := ih h.of_append hbefore
      refine ⟨since ++ [x], hwaiting.concat hx hs, ?_⟩
      rw [List.length_append, List.length_singleton]
      omega

/-- **A request is said to have timed out only after it has waited for `TIMEOUT_THRESHHOLD`
messages**, whatever messages come, as long as none is an identity request to a disconnected phone
that finds a count an earlier request has left. -/
theorem timedOut_waited (homePlmn : List String) (arrivals : List Arrival)
    (hcounted : NoneCounted homePlmn arrivals) :
    ∀ before x after, arrivals = before ++ x :: after →
      ((run homePlmn before).analyzeInformationElement x).1 = some timedOutEvent →
      ∃ since, Waiting homePlmn (before ++ [x]) since ∧ TIMEOUT_THRESHHOLD ≤ since.length := by
  rintro before x after rfl hout
  have hsettled := settled_run homePlmn before
  have hs := state_of_timedOut hsettled hout
  have hupto : NoneCounted homePlmn (before ++ [x]) :=
    .of_append (show NoneCounted homePlmn (before ++ [x] ++ after) by simpa using hcounted)
  obtain ⟨k, hk, -, hlong⟩ := analyze_waiting hsettled (hupto before x [] rfl) hs
  rw [← run_concat] at hs
  rcases hk with ⟨hx, rfl⟩ | ⟨hx, hbefore, rfl⟩
  · exact ⟨[x], waiting_request hx hs, hlong hout⟩
  · obtain ⟨since, hwaiting, hle⟩ := waited hupto.of_append hbefore
    refine ⟨since ++ [x], hwaiting.concat hx hs, (hlong hout).trans ?_⟩
    rw [List.length_append, List.length_singleton]
    omega

/-- An identity request with as many messages after it that it does not answer. -/
def leftOpen (others : Nat) : List Arrival :=
  ⟨(EmmMessage.identityRequest .imsi).element, 1⟩ :: List.replicate others ⟨.umts, 2⟩

/-- A request is said to have timed out at the 49th message after it. -/
theorem timedOut_waited_leftOpen :
    ∃ since, Waiting [] (leftOpen 48 ++ [⟨.umts, 2⟩]) since ∧ TIMEOUT_THRESHHOLD ≤ since.length :=
  timedOut_waited [] (leftOpen 49)
    (fun before request after heq hrequest hs => by
      cases before with
      | nil => cases hs
      | cons first before =>
        have hmem : request ∈ List.replicate 49 (⟨.umts, 2⟩ : Arrival) := by
          rw [(List.cons.inj heq).2]
          exact List.mem_append_right _ List.mem_cons_self
        rw [List.eq_of_mem_replicate hmem] at hrequest
        cases hrequest)
    (leftOpen 48) ⟨.umts, 2⟩ [] rfl (by decide +kernel)

/-- A request that is the last message has not waited yet. -/
theorem Waiting.length_of_request (h : Waiting homePlmn (arrivals ++ [x]) since)
    (hx : x.isIdentityRequest = true) : since.length = 1 := by
  obtain ⟨before, request, during, heq, rfl, -, hduring, -⟩ := h
  rcases List.eq_nil_or_concat during with rfl | ⟨during, y, rfl⟩
  · rfl
  · have hlast : arrivals ++ [x] = (before ++ request :: during) ++ [y] := by simpa using heq
    obtain rfl : x = y := List.singleton_inj.1 (List.append_inj_right' hlast rfl)
    rw [hduring x (by simp)] at hx
    cases hx

/-- **A request to a phone turned away after 48 messages times out as it comes.** -/
theorem timedOut_at_once :
    ¬ ∀ (homePlmn : List String) (before : List Arrival) (x : Arrival),
      ((run homePlmn before).analyzeInformationElement x).1 = some timedOutEvent →
      ∃ since, Waiting homePlmn (before ++ [x]) since ∧ TIMEOUT_THRESHHOLD ≤ since.length := by
  intro h
  obtain ⟨since, hwaiting, hlong⟩ := h [] (turnedAway 48)
    ⟨(EmmMessage.identityRequest .imsi).element, 4⟩ (by decide +kernel)
  rw [hwaiting.length_of_request rfl] at hlong
  exact absurd hlong (by decide)

end ImsiRequestedAnalyzer

end Rayhunter
