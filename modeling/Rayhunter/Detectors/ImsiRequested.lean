import Rayhunter.Detectors.Element

/-!
# Identity requests

`ImsiRequestedAnalyzer` of `lib/src/analysis/imsi_requested.rs` and `decode_packed_bcd` of
`lib/src/plmn.rs`. The detector follows a phone through attaching, being asked for its identity,
being authenticated and being disconnected. It counts the messages after an identity request that
nothing has come of, and at `TIMEOUT_THRESHHOLD` of them says so instead of whatever else it had to
say. A disconnect does not reset that count, and neither does the identity request that comes next,
so that request may be the message the count runs out at (`identity_request_high_iff`).
-/

namespace Rayhunter

/-! ## Networks -/

/-- `PACKED_BCD_LEN` (`plmn.rs:14`). -/
def PACKED_BCD_LEN : Nat := 3

/-- `(b'0' + d) as char`. -/
def digitChar (d : UInt8) : Char := Char.ofNat (48 + d.toNat)

/-- `decode_packed_bcd` (`plmn.rs:20`). -/
def decodePackedBcd : List UInt8 → Option String
  | [b0, b1, b2] =>
    if b0 = 0xff ∧ b1 = 0xff ∧ b2 = 0xff then none
    else
      let mccDigits := [b0 &&& 0x0f, (b0 >>> 4) &&& 0x0f, b1 &&& 0x0f]
      let mncDigit3 := (b1 >>> 4) &&& 0x0f
      let mncDigits12 := [b2 &&& 0x0f, (b2 >>> 4) &&& 0x0f]
      if mccDigits.any (9 < ·) || mncDigits12.any (9 < ·) then none
      else
        let out := mccDigits.map digitChar ++ '-' :: mncDigits12.map digitChar
        if mncDigit3 = 0xf then some (String.ofList out)
        else if mncDigit3 ≤ 9 then some (String.ofList (out ++ [digitChar mncDigit3]))
        else none
  | _ => none

-- two and three digits of the network
example : decodePackedBcd [0x32, 0xf2, 0x30] = some "232-03" := by decide
example : decodePackedBcd [0x13, 0x00, 0x62] = some "310-260" := by decide

/-- `TIMEOUT_THRESHHOLD` (`imsi_requested.rs:22`). -/
def TIMEOUT_THRESHHOLD : Nat := 50

namespace ImsiRequestedAnalyzer

/-- `State` (`imsi_requested.rs:25`). -/
inductive State
  | unattached
  | attachRequest
  | identityRequest
  | authAccept
  | disconnect
  | likelyValidAttachReject
  deriving DecidableEq, Repr

end ImsiRequestedAnalyzer

/-- `ImsiRequestedAnalyzer` (`imsi_requested.rs:34`); the home networks are in order. -/
structure ImsiRequestedAnalyzer where
  state : ImsiRequestedAnalyzer.State
  timeoutCounter : Nat
  flag : Option Event
  likelyEnbPlmns : List String
  likelyUePlmn : Option String
  homePlmn : List String
  deriving DecidableEq, Repr

namespace ImsiRequestedAnalyzer

/-- `new` (`imsi_requested.rs:51`). -/
def new (homePlmn : List String) : ImsiRequestedAnalyzer where
  state := .unattached
  timeoutCounter := 0
  flag := none
  likelyEnbPlmns := []
  likelyUePlmn := none
  homePlmn

/-- `enb_is_home_network` (`imsi_requested.rs:64`). -/
def enbIsHomeNetwork (a : ImsiRequestedAnalyzer) : Bool :=
  a.likelyUePlmn.any a.likelyEnbPlmns.contains || a.homePlmn.any a.likelyEnbPlmns.contains

/-- Networks in a message, which may be unknown. -/
def plmnsText (plmns : List String) : String :=
  if plmns.isEmpty then "Unknown" else ", ".intercalate plmns

/-- The event of a disconnect after an identity request (`imsi_requested.rs:109`). -/
def disconnectedEvent (a : ImsiRequestedAnalyzer) : Event :=
  if a.enbIsHomeNetwork then
    ⟨.high, "Disconnected after Identity Request without Auth Accept on home network!"⟩
  else
    ⟨.low, "Disconnected after Identity Request without Auth Accept, but this could be a " ++
      "false positive roaming issue - Tower PLMN: " ++ plmnsText a.likelyEnbPlmns ++ ", UE PLMN: " ++
      a.likelyUePlmn.getD "Unknown" ++ ", SIM home PLMN: " ++ plmnsText a.homePlmn⟩

/-- `transition` (`imsi_requested.rs:77`). -/
def transition (a : ImsiRequestedAnalyzer) (nextState : State) : ImsiRequestedAnalyzer :=
  let a := match a.state, nextState with
    | _, .authAccept => { a with timeoutCounter := 0 }
    | .authAccept, .identityRequest =>
      { a with flag := some ⟨.high, "Identity requested after auth request"⟩ }
    | .disconnect, .identityRequest =>
      { a with flag := some ⟨.high, "Identity requested without Attach Request"⟩ }
    | .identityRequest, .likelyValidAttachReject =>
      { a with flag := some ⟨.low, "Identity requested without authentication but its likely " ++
          "a false positive unless your SIM card has an active plan"⟩ }
    | .identityRequest, .disconnect => { a with flag := some a.disconnectedEvent }
    | _, .identityRequest => { a with timeoutCounter := 0 }
    | _, _ => a
  { a with state := if nextState = .likelyValidAttachReject then .disconnect else nextState }

/-- `plmn_identity_to_str` (`imsi_requested.rs:180`). -/
def plmnIdentityToStr (plmn : PlmnIdentity) : String :=
  String.join ((plmn.mcc.getD []).map fun n => toString n.toNat) ++ "-" ++
    String.join (plmn.mnc.map fun n => toString n.toNat)

/-- `tai_to_plmn_str` (`imsi_requested.rs:203`). -/
def taiToPlmnStr (maybeTai : Option Tai) : Option String :=
  maybeTai.bind fun tai =>
    if tai.plmn.length ≠ PACKED_BCD_LEN then none else decodePackedBcd tai.plmn

/-- What an LTE element that is not a first system information block leads to. -/
def hear (a : ImsiRequestedAnalyzer) : LteInformationElement → ImsiRequestedAnalyzer
  | .nas (.emm (.attachRequest oldTai)) =>
    ({ a with likelyUePlmn := (taiToPlmnStr oldTai).or a.likelyUePlmn }).transition .attachRequest
  | .nas (.emm .extServiceRequest) => a.transition .attachRequest
  | .nas (.emm (.identityRequest _)) => a.transition .identityRequest
  | .nas (.emm .attachComplete) | .nas (.emm .authenticationResponse) => a.transition .authAccept
  | .nas (.emm .serviceReject) | .nas (.emm .detachRequestMo) | .nas (.emm .detachRequestMt)
  | .nas (.emm .trackingAreaUpdateReject) => a.transition .disconnect
  | .nas (.emm (.attachReject emmCause)) =>
    if emmCause = .epsServicesAndNonEpsServicesNotAllowed then
      a.transition .likelyValidAttachReject
    else a.transition .disconnect
  | .ulCcch .rrcConnectionRequest | .ulCcch .rrcConnectionReestablishmentRequest =>
    a.transition .attachRequest
  | _ => a

/-- The count of messages after an identity request, and what is said when it runs out. -/
def countTimeout (a : ImsiRequestedAnalyzer) : ImsiRequestedAnalyzer :=
  if a.state = .identityRequest then
    if TIMEOUT_THRESHHOLD ≤ a.timeoutCounter + 1 then
      { a with
        flag := some ⟨.informational, "Identity request happened without auth request followup"⟩
        timeoutCounter := 0 }
    else { a with timeoutCounter := a.timeoutCounter + 1 }
  else a

/-- `analyze_information_element` (`imsi_requested.rs:228`). -/
def analyzeInformationElement (a : ImsiRequestedAnalyzer) (h : Arrival) :
    Option Event × ImsiRequestedAnalyzer :=
  match h.ie with
  | .lte (.bcchDlSch (.systemInformationBlockType1 plmnIdentityList)) =>
    (none, { a with likelyEnbPlmns := plmnIdentityList.map plmnIdentityToStr })
  | .lte lte =>
    let a := (a.hear lte).countTimeout
    (a.flag, { a with flag := none })
  | _ =>
    let a := a.countTimeout
    (a.flag, { a with flag := none })

/-! ## Between two messages -/

/-- Nothing is left to be said, and an authenticated phone has nothing to wait for. -/
structure Settled (a : ImsiRequestedAnalyzer) : Prop where
  flag : a.flag = none
  accepted : a.state = .authAccept → a.timeoutCounter = 0

theorem settled_new (homePlmn : List String) : (new homePlmn).Settled := ⟨rfl, nofun⟩

@[simp] theorem transition_state (a : ImsiRequestedAnalyzer) (nextState : State) :
    (a.transition nextState).state =
      if nextState = .likelyValidAttachReject then .disconnect else nextState := rfl

/-- A transition to the accepted state starts the count anew, and any other leads elsewhere. -/
theorem transition_accepted (a : ImsiRequestedAnalyzer) (nextState : State)
    (h : (a.transition nextState).state = .authAccept) :
    (a.transition nextState).timeoutCounter = 0 := by
  cases nextState with
  | authAccept => simp [transition]
  | unattached | attachRequest | identityRequest | disconnect | likelyValidAttachReject =>
    simp at h

theorem hear_accepted {a : ImsiRequestedAnalyzer}
    (h : a.state = .authAccept → a.timeoutCounter = 0) (lte : LteInformationElement)
    (hs : (a.hear lte).state = .authAccept) : (a.hear lte).timeoutCounter = 0 := by
  unfold hear at hs ⊢
  split at hs <;> first
    | exact transition_accepted _ _ hs
    | exact h hs
    | (split at hs <;> simp at hs)

theorem countTimeout_accepted {a : ImsiRequestedAnalyzer}
    (h : a.state = .authAccept → a.timeoutCounter = 0)
    (hs : a.countTimeout.state = .authAccept) : a.countTimeout.timeoutCounter = 0 := by
  unfold countTimeout at hs ⊢
  split at hs
  · next hi =>
    split at hs <;> (rw [hi] at hs; cases hs)
  · next hi =>
    rw [if_neg hi]
    exact h hs

theorem Settled.analyzeInformationElement {a : ImsiRequestedAnalyzer} (h : a.Settled)
    (x : Arrival) : (a.analyzeInformationElement x).2.Settled := by
  unfold ImsiRequestedAnalyzer.analyzeInformationElement
  split
  · exact ⟨h.flag, h.accepted⟩
  · exact ⟨rfl, countTimeout_accepted (hear_accepted h.accepted _)⟩
  · exact ⟨rfl, countTimeout_accepted h.accepted⟩

/-! ## Asked for the identity -/

/-- The transition a request makes there: something is to be said, and the count goes on. -/
theorem transition_identityRequest {a : ImsiRequestedAnalyzer}
    (hs : a.state = .disconnect ∨ a.state = .authAccept) : ∃ message,
      a.transition .identityRequest =
        { a with state := .identityRequest, flag := some ⟨.high, message⟩ } := by
  rcases hs with hs | hs
  · exact ⟨"Identity requested without Attach Request", by simp [transition, hs]⟩
  · exact ⟨"Identity requested after auth request", by simp [transition, hs]⟩

/-- What is said to an identity request from a phone that is disconnected or authenticated. -/
theorem identityRequest_answer {a : ImsiRequestedAnalyzer} {idType : IdType} {n : Nat}
    (hs : a.state = .disconnect ∨ a.state = .authAccept) :
    (a.analyzeInformationElement ⟨(EmmMessage.identityRequest idType).element, n⟩).1.map
        (·.eventType) =
      some (if TIMEOUT_THRESHHOLD ≤ a.timeoutCounter + 1 then .informational else .high) := by
  obtain ⟨message, htransition⟩ := transition_identityRequest hs
  show (a.transition .identityRequest).countTimeout.flag.map (·.eventType) = _
  rw [htransition, countTimeout, if_pos rfl]
  split <;> rfl

/-- **Asked for its identity while disconnected or authenticated, the phone is warned of with high
severity**, in every sequence of messages, unless it is disconnected and the request is the message
at which the count runs out that an earlier request had started. -/
theorem identity_request_high_iff (homePlmn : List String) (arrivals : List Arrival) (n : Nat)
    (hs : (Mealy.after analyzeInformationElement (new homePlmn) arrivals).state = .disconnect ∨
      (Mealy.after analyzeInformationElement (new homePlmn) arrivals).state = .authAccept) :
    ((Mealy.after analyzeInformationElement (new homePlmn) arrivals).analyzeInformationElement
        ⟨(EmmMessage.identityRequest .imsi).element, n⟩).1.map (·.eventType) = some .high ↔
      ¬ ((Mealy.after analyzeInformationElement (new homePlmn) arrivals).state = .disconnect ∧
        TIMEOUT_THRESHHOLD ≤
          (Mealy.after analyzeInformationElement (new homePlmn) arrivals).timeoutCounter + 1) := by
  have hsettled : (Mealy.after analyzeInformationElement (new homePlmn) arrivals).Settled :=
    Mealy.after_invariant (fun _ x _ h => h.analyzeInformationElement x) (settled_new homePlmn)
  generalize Mealy.after analyzeInformationElement (new homePlmn) arrivals = a at hs hsettled ⊢
  rw [identityRequest_answer hs]
  rcases hs with hs | hs
  · simp [hs]
  · have hzero := hsettled.accepted hs
    simp [hs, hzero, TIMEOUT_THRESHHOLD]

/-- A phone that has been asked for its identity, with as many messages after it, and is then turned
away. -/
def turnedAway (others : Nat) : List Arrival :=
  ⟨(EmmMessage.identityRequest .imsi).element, 1⟩ ::
    (List.replicate others ⟨.umts, 2⟩ ++ [⟨EmmMessage.serviceReject.element, 3⟩])

/-- Turned away at once, it is warned of when it is asked again. -/
theorem identity_request_high_at_once :
    ((Mealy.after analyzeInformationElement (new []) (turnedAway 0)).analyzeInformationElement
      ⟨(EmmMessage.identityRequest .imsi).element, 4⟩).1.map (·.eventType) = some .high :=
  (identity_request_high_iff [] (turnedAway 0) 4 (by decide)).2 (by decide)

/-- Turned away after 48 messages that it did not answer, it is not. -/
theorem identity_request_timed_out :
    ¬ ∀ (homePlmn : List String) (arrivals : List Arrival) (n : Nat),
      ((Mealy.after analyzeInformationElement (new homePlmn) arrivals).state = .disconnect ∨
        (Mealy.after analyzeInformationElement (new homePlmn) arrivals).state = .authAccept) →
      ((Mealy.after analyzeInformationElement (new homePlmn) arrivals).analyzeInformationElement
        ⟨(EmmMessage.identityRequest .imsi).element, n⟩).1.map (·.eventType) = some .high :=
  fun h => absurd (h [] (turnedAway 48) 4 (by decide +kernel)) (by decide +kernel)

end ImsiRequestedAnalyzer

end Rayhunter
