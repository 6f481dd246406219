import Mathlib.Data.Finset.Erase
import Mathlib.Data.Finset.Insert
import Rayhunter.Detectors.Element

/-!
# Location requests

The two detectors of `lib/src/analysis/lpp.rs`: `LppLocationRequestAnalyzer` reads the fixed prefix
of an LPP message, `LppLocationTrackingAnalyzer` what a location request asks for and a report says
after it. Both hold the transactions they have warned about, so that a transaction warns once.
-/

namespace Rayhunter

/-! ## Reading bits -/

/-- `BitReader` (`lpp.rs:44`). -/
structure BitReader where
  bytes : List UInt8
  position : Nat

/-- What reads bits, up to the end of the bytes. -/
abbrev BitReading := StateT BitReader Option

/-- `bit` (`lpp.rs:54`). -/
def bit : BitReading Bool := fun reader => do
  let byte ← reader.bytes[reader.position / 8]?
  return ((byte >>> (7 - UInt8.ofNat (reader.position % 8))) &&& 1 == 1,
    { reader with position := reader.position + 1 })

/-- `bits` (`lpp.rs:61`), of which no more than eight are read here. -/
def bits (count : Nat) : BitReading Nat :=
  (List.range count).foldlM (fun value _ => return 2 * value + (← bit).toNat) 0

/-! ## The prefix of a message -/

/-- `Initiator` (`lpp.rs:74`). -/
inductive Initiator
  | locationServer
  | targetDevice
  deriving DecidableEq, Repr

/-- A transaction: who started it, and the number it was given. -/
abbrev LppTransaction := Initiator × UInt8

/-- `LppBody` (`lpp.rs:81`). -/
inductive LppBody
  | requestCapabilities
  | provideCapabilities
  | requestAssistanceData
  | provideAssistanceData
  | requestLocationInformation
  | provideLocationInformation
  | abort
  | error
  | reserved
  | absent
  deriving DecidableEq, Repr

/-- `LppSummary` (`lpp.rs:100`). -/
structure LppSummary where
  transaction : Option LppTransaction
  endTransaction : Bool
  body : LppBody
  deriving DecidableEq, Repr

/-- The transaction of a message; of an extended one nothing after it can be read. -/
def readTransaction : BitReading LppTransaction := do
  let idExtended ← bit
  if ← bit then failure
  let initiator := if ← bit then Initiator.targetDevice else .locationServer
  let number ← bits 8
  if idExtended then failure
  return (initiator, UInt8.ofNat number)

/-- The kind of message an index says. -/
def LppBody.ofIndex : Nat → LppBody
  | 0 => .requestCapabilities
  | 1 => .provideCapabilities
  | 2 => .requestAssistanceData
  | 3 => .provideAssistanceData
  | 4 => .requestLocationInformation
  | 5 => .provideLocationInformation
  | 6 => .abort
  | 7 => .error
  | _ => .reserved

/-- `read_lpp_prefix` (`lpp.rs:130`). -/
def readLppPrefix : BitReading LppSummary := do
  let hasTransactionId ← bit
  let hasSequenceNumber ← bit
  let hasAcknowledgement ← bit
  let hasBody ← bit
  let transaction ← if hasTransactionId then some <$> readTransaction else pure none
  let endTransaction ← bit
  if hasSequenceNumber then
    let _ ← bits 8
  if hasAcknowledgement then
    let hasIndicator ← bit
    let _ ← bit
    if hasIndicator then
      let _ ← bits 8
  let body ← if hasBody then
      if ← bit then pure .reserved else LppBody.ofIndex <$> bits 4
    else pure .absent
  return ⟨transaction, endTransaction, body⟩

/-- `decode_lpp_prefix` (`lpp.rs:123`). -/
def decodeLppPrefix (bytes : List UInt8) : Option LppSummary := readLppPrefix.run' ⟨bytes, 0⟩

/-! ## What a location message says -/

/-- `Methods` (`lpp.rs:203`). -/
structure Methods where
  gnss : Bool
  otdoa : Bool
  ecid : Bool
  epdu : Bool
  deriving DecidableEq, Repr

/-- `describe` (`lpp.rs:219`). -/
def Methods.describe (m : Methods) : String :=
  let parts :=
    ([(m.gnss, "satellite (GNSS)"), (m.otdoa, "tower timing (OTDOA)"), (m.ecid, "cell ID (E-CID)"),
      (m.epdu, "an external protocol")].filter (·.1)).map (·.2)
  if parts.isEmpty then "an unspecified method" else ", ".intercalate parts

/-- `any` (`lpp.rs:240`). -/
def Methods.any (m : Methods) : Bool := m.gnss || m.otdoa || m.ecid || m.epdu

/-- `LocInfoType` (`lpp.rs:247`). -/
inductive LocInfoType
  | estimateRequired
  | measurementsRequired
  | estimatePreferred
  | measurementsPreferred
  | unknown
  deriving DecidableEq, Repr

/-- `LppDetailKind` (`lpp.rs:258`). -/
inductive LppDetailKind
  | request (methods : Methods) (periodic : Bool) (infoType : LocInfoType)
  | response (methods : Methods) (providedEstimate declined : Bool)
  | other
  deriving DecidableEq, Repr

/-- `LppDetail` (`lpp.rs:285`). -/
structure LppDetail where
  summary : LppSummary
  kind : LppDetailKind
  deriving DecidableEq, Repr

/-- `enter_r9` (`lpp.rs:316`). -/
def enterR9 : BitReading Bool := do
  if ← bit then return false
  return (← bits 2) == 0

/-- The methods named in a location message. -/
def readMethods : BitReading Methods := return ⟨← bit, ← bit, ← bit, ← bit⟩

/-- `read_request_detail` (`lpp.rs:328`). -/
def readRequestDetail : BitReading LppDetailKind := do
  if ← enterR9 then
    let _ext ← bit
    let common ← bit
    let methods ← readMethods
    if common then
      let _cext ← bit
      let _triggered ← bit
      let periodic ← bit
      let _additionalInfo ← bit
      let _qos ← bit
      let _environment ← bit
      let _coordinateTypes ← bit
      let _velocityTypes ← bit
      let extended ← bit
      let index ← bits 2
      return .request methods periodic <| match extended, index with
        | false, 0 => .estimateRequired
        | false, 1 => .measurementsRequired
        | false, 2 => .estimatePreferred
        | false, 3 => .measurementsPreferred
        | _, _ => .unknown
    else return .request methods false .unknown
  else return .other

/-- `read_response_detail` (`lpp.rs:380`). -/
def readResponseDetail : BitReading LppDetailKind := do
  if ← enterR9 then
    let _ext ← bit
    let common ← bit
    let methods ← readMethods
    if common then
      let _cext ← bit
      let providedEstimate ← bit
      let _velocity ← bit
      let declined ← bit
      return .response methods providedEstimate declined
    else return .response methods false false
  else return .other

/-- What follows the prefix, for each kind of message. -/
def readDetail : LppBody → BitReading LppDetailKind
  | .requestLocationInformation => readRequestDetail
  | .provideLocationInformation => readResponseDetail
  | _ => pure .other

/-- `decode_lpp_detail` (`lpp.rs:302`). -/
def decodeLppDetail (bytes : List UInt8) : Option LppDetail :=
  (do
    let summary ← readLppPrefix
    let kind ← readDetail summary.body
    return ⟨summary, kind⟩ : BitReading LppDetail).run' ⟨bytes, 0⟩

-- a location request of transaction 5 that asks for reports until it is stopped
example : decodeLppDetail [0x90, 0x0a, 0x20, 0x40, 0x80, 0x18] =
    some ⟨⟨some (.locationServer, 5), false, .requestLocationInformation⟩,
      .request ⟨false, false, false, false⟩ true .estimateRequired⟩ := by decide +kernel

/-- A message is read as far as its prefix, and then in detail. -/
theorem decodeLppDetail_eq_some {bytes : List UInt8} {d : LppDetail}
    (h : decodeLppDetail bytes = some d) : ∃ reader rest,
      readLppPrefix ⟨bytes, 0⟩ = some (d.summary, reader) ∧
        readDetail d.summary.body reader = some (d.kind, rest) := by
  change ((readLppPrefix ⟨bytes, 0⟩).bind fun s => (readDetail s.1.body s.2).bind fun k =>
    some (LppDetail.mk s.1 k.1, k.2)).map Prod.fst = some d at h
  obtain ⟨_, hread, rfl⟩ := Option.map_eq_some_iff.1 h
  obtain ⟨⟨summary, reader⟩, hs, hread⟩ := Option.bind_eq_some_iff.1 hread
  obtain ⟨⟨kind, rest⟩, hk, hread⟩ := Option.bind_eq_some_iff.1 hread
  cases hread
  exact ⟨reader, rest, hs, hk⟩

/-- Only a location message is read in detail. -/
theorem decodeLppDetail_kind {bytes : List UInt8} {d : LppDetail}
    (h : decodeLppDetail bytes = some d) (hk : d.kind ≠ .other) :
    d.summary.body = .requestLocationInformation ∨
      d.summary.body = .provideLocationInformation := by
  obtain ⟨reader, rest, -, hread⟩ := decodeLppDetail_eq_some h
  generalize d.summary.body = body at hread ⊢
  cases body with
  | requestLocationInformation => exact .inl rfl
  | provideLocationInformation => exact .inr rfl
  | _ => exact absurd (congrArg Prod.fst (Option.some.inj hread)).symm hk

/-! ## The detectors -/

/-- `Direction` (`lpp.rs:423`). -/
inductive Direction
  | downlink
  | uplink
  deriving DecidableEq, Repr

/-- The end of a message about a transaction (`lpp.rs:442`). -/
def transactionNote : Option LppTransaction → String
  | some (.locationServer, n) => s!" (network transaction {n.toNat})"
  | some (.targetDevice, n) => s!" (device transaction {n.toNat})"
  | none => ""

/-- What `location_event` and `escalating_event` do: an event the first time a transaction moves
location information, an informational one when it does so again. -/
def warnOnce (warnedTransactions : Finset LppTransaction) (transaction : Option LppTransaction)
    (severity : EventType) (firstMessage repeatMessage : String) : Event × Finset LppTransaction :=
  match transaction with
  | some t =>
    if t ∈ warnedTransactions then (⟨.informational, repeatMessage⟩, warnedTransactions)
    else (⟨severity, firstMessage⟩, insert t warnedTransactions)
  | none => (⟨severity, firstMessage⟩, warnedTransactions)

/-- What becomes of the transactions at the end of `event_for`. -/
def forget (warnedTransactions : Finset LppTransaction) (transaction : Option LppTransaction) :
    Finset LppTransaction :=
  match transaction with
  | some t => warnedTransactions.erase t
  | none => warnedTransactions

/-- `LppLocationRequestAnalyzer` (`lpp.rs:429`). -/
structure LppLocationRequestAnalyzer where
  warnedTransactions : Finset LppTransaction
  deriving DecidableEq

namespace LppLocationRequestAnalyzer

/-- `new` (`lpp.rs:444`). -/
def new : LppLocationRequestAnalyzer := ⟨∅⟩

/-- `location_event` (`lpp.rs:528`). -/
def locationEvent (a : LppLocationRequestAnalyzer) (summary : LppSummary)
    (firstMessage repeatMessage : String) : Event × LppLocationRequestAnalyzer :=
  let (event, warned) :=
    warnOnce a.warnedTransactions summary.transaction .low firstMessage repeatMessage
  (event, ⟨warned⟩)

/-- The event of a message, and the transactions warned about with it. -/
def report (a : LppLocationRequestAnalyzer) (summary : LppSummary) (direction : Direction) :
    Event × LppLocationRequestAnalyzer :=
  let note := transactionNote summary.transaction
  let informational := fun message => ((⟨.informational, message ++ note⟩ : Event), a)
  match summary.body, direction with
  | .requestLocationInformation, .downlink =>
    a.locationEvent summary
      ("Network requested this device's location over LPP" ++ note)
      ("Network repeated its LPP location request" ++ note)
  | .requestLocationInformation, .uplink =>
    (⟨.low, "This device sent an LPP location request uplink, which is not a normal flow" ++ note⟩,
      a)
  | .provideLocationInformation, .uplink =>
    a.locationEvent summary
      ("This device reported its location to the network over LPP" ++ note)
      ("This device sent another LPP location report" ++ note)
  | .provideLocationInformation, .downlink =>
    informational "Network sent an LPP location report downlink"
  | .requestCapabilities, _ => informational "LPP positioning capability request"
  | .provideCapabilities, _ => informational "LPP positioning capability response"
  | .requestAssistanceData, _ => informational "LPP assistance data request"
  | .provideAssistanceData, _ => informational "LPP assistance data (routine GPS help)"
  | .abort, _ => informational "LPP transaction aborted"
  | .error, _ => informational "LPP error message"
  | .reserved, _ | .absent, _ => informational "LPP message with no readable body"

/-- `event_for` (`lpp.rs:441`). -/
def eventFor (a : LppLocationRequestAnalyzer) (summary : LppSummary) (direction : Direction) :
    Event × LppLocationRequestAnalyzer :=
  let (event, a) := a.report summary direction
  if summary.endTransaction ∨ summary.body = .abort then
    (event, ⟨forget a.warnedTransactions summary.transaction⟩)
  else (event, a)

end LppLocationRequestAnalyzer

/-- `LppLocationTrackingAnalyzer` (`lpp.rs:635`). -/
structure LppLocationTrackingAnalyzer where
  warnedTransactions : Finset LppTransaction
  deriving DecidableEq

namespace LppLocationTrackingAnalyzer

/-- `new` (`lpp.rs:649`). -/
def new : LppLocationTrackingAnalyzer := ⟨∅⟩

/-- `escalating_event` (`lpp.rs:763`). -/
def escalatingEvent (a : LppLocationTrackingAnalyzer) (detail : LppDetail) (severity : EventType)
    (firstMessage repeatMessage : String) : Event × LppLocationTrackingAnalyzer :=
  let (event, warned) :=
    warnOnce a.warnedTransactions detail.summary.transaction severity firstMessage repeatMessage
  (event, ⟨warned⟩)

/-- The event of a message, and the transactions warned about with it; there is none for a message
that is not read in detail. -/
def report (a : LppLocationTrackingAnalyzer) (detail : LppDetail) (direction : Direction) :
    Option (Event × LppLocationTrackingAnalyzer) :=
  let note := transactionNote detail.summary.transaction
  match detail.kind, direction with
  | .request methods periodic _, .downlink =>
    if periodic then
      a.escalatingEvent detail .medium
        ("Network requested CONTINUOUS location tracking via " ++ methods.describe ++
          ": reports repeat until stopped" ++ note)
        ("Network's continuous LPP tracking request repeated" ++ note)
    else
      a.escalatingEvent detail .low
        ("Network requested a one-off location fix via " ++ methods.describe ++ note)
        ("Network repeated its one-off LPP location request" ++ note)
  | .request methods _ _, .uplink =>
    some (⟨.low, "This device sent an LPP location request uplink (" ++ methods.describe ++
      "), which is unusual" ++ note⟩, a)
  | .response methods providedEstimate declined, .uplink =>
    if declined && !providedEstimate && !methods.any then
      some (⟨.informational,
        "This device declined the network's LPP location request" ++ note⟩, a)
    else
      let how := if methods.any then methods.describe else "an estimate"
      a.escalatingEvent detail .low
        ("This device reported its position to the network via " ++ how ++ note)
        ("This device sent another LPP location report" ++ note)
  | .response .., .downlink =>
    some (⟨.informational,
      "Network sent an LPP location report downlink, which is unusual" ++ note⟩, a)
  | .other, _ => none

/-- `event_for` (`lpp.rs:655`). -/
def eventFor (a : LppLocationTrackingAnalyzer) (detail : LppDetail) (direction : Direction) :
    Option Event × LppLocationTrackingAnalyzer :=
  match a.report detail direction with
  | none => (none, a)
  | some (event, a) =>
    if detail.summary.endTransaction ∨ detail.summary.body = .abort then
      (some event, ⟨forget a.warnedTransactions detail.summary.transaction⟩)
    else (some event, a)

end LppLocationTrackingAnalyzer

/-! ## The messages they read -/

namespace Arrival

/-- `lpp_container` (`lpp.rs:605`). -/
def lppContainer (h : Arrival) : Option (List UInt8 × Direction) :=
  match h.ie with
  | .lte (.nas (.emm (.dlGenericNasTransport .lppMessageContainer container))) =>
    some (container, .downlink)
  | .lte (.nas (.emm (.ulGenericNasTransport .lppMessageContainer container))) =>
    some (container, .uplink)
  | _ => none

/-- What is read of a message in detail. -/
def lppDetail (h : Arrival) : Option (LppDetail × Direction) :=
  h.lppContainer.bind fun (container, direction) =>
    (decodeLppDetail container).map (·, direction)

end Arrival

/-- `analyze_information_element` of the location requests (`lpp.rs:565`). -/
def LppLocationRequestAnalyzer.analyzeInformationElement (a : LppLocationRequestAnalyzer)
    (h : Arrival) : Option Event × LppLocationRequestAnalyzer :=
  match h.lppContainer with
  | none => (none, a)
  | some (container, direction) =>
    match decodeLppPrefix container with
    | some summary =>
      let (event, a) := a.eventFor summary direction
      (some event, a)
    | none => (some ⟨.informational, "LPP message seen, but its type could not be read"⟩, a)

/-- `analyze_information_element` of the tracking (`lpp.rs:803`). -/
def LppLocationTrackingAnalyzer.analyzeInformationElement (a : LppLocationTrackingAnalyzer)
    (h : Arrival) : Option Event × LppLocationTrackingAnalyzer :=
  match h.lppDetail with
  | none => (none, a)
  | some (detail, direction) => a.eventFor detail direction

end Rayhunter
