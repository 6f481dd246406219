import Rayhunter.Lib.Lines
import Rayhunter.Radio.Glob
import Rayhunter.Radio.Observation

/-!
# Detection rules

`Signature` and what it is matched by (`radio/src/signature.rs`). A signature matches if all its
conditions do, and each of them gives a reason.
-/

namespace Rayhunter

/-- `{:?}` of a `str`, for the reasons. -/
class DebugStr where
  debug : String → String

/-- `MacField` (`signature.rs:75`). -/
inductive MacField
  | any
  | bssid
  | transmitter
  | receiver
  | addr3
  deriving DecidableEq, Repr

/-- `MatchCondition` (`signature.rs:91`). -/
inductive MatchCondition
  | macExact (field : MacField) (mac : MacAddr)
  | macPrefix (field : MacField) (pre : MacPrefix) (allowLocallyAdministered : Bool)
  | ssidExact (ssid : String)
  | ssidContains (substring : String)
  | ssidGlob (pattern : String)
  | ssidWildcard
  | frameType (frame : FrameKind)
  | informationElement (id : UInt8) (pre : Option (List UInt8))
  | vendorOui (oui : MacPrefix)
  | ieIdSequence (ids : List UInt8)
  | bleCompanyId (id : UInt16)
  | bleServiceUuid (uuid : String)
  | bleNameContains (substring : String)
  deriving DecidableEq, Repr

/-- `Confidence` (`signature.rs:32`). -/
inductive Confidence
  | info
  | low
  | medium
  | high
  deriving DecidableEq, Repr

/-- `Severity` (`signature.rs:61`). -/
inductive Severity
  | informational
  | low
  | medium
  | high
  deriving DecidableEq, Repr

/-- `Signature` (`signature.rs:151`), without the texts that only people read. -/
structure Signature where
  id : String
  vendor : String
  product : Option String
  technology : RadioTech
  conditions : List MatchCondition
  confidence : Confidence
  severity : Severity
  enabled : Bool
  deriving DecidableEq, Repr

/-- `Detection` (`signature.rs:291`). -/
structure Detection where
  signatureId : String
  vendor : String
  product : Option String
  technology : RadioTech
  confidence : Confidence
  severity : Severity
  matchedFields : List String
  deriving DecidableEq, Repr

/-- The conditions that `reachable_via_bss_scan` finds no scan can meet (`signature.rs:194`). -/
def MatchCondition.unreachable : MatchCondition → Bool
  | frameType frame =>
    match frame with
    | .beacon | .probeResponse | .beaconOrProbeResponse => false
    | _ => true
  | ieIdSequence _ => true
  | informationElement _ pre => pre.isSome
  | vendorOui _ => true
  | bleCompanyId _ | bleServiceUuid _ | bleNameContains _ => true
  | _ => false

/-- `Signature::reachable_via_bss_scan` (`signature.rs:193`). -/
def Signature.reachableViaBssScan (sig : Signature) : Bool :=
  !sig.conditions.any MatchCondition.unreachable

/-- `addresses_for` (`signature.rs:445`). -/
def addressesFor (field : MacField) (w : WifiObservation) : List MacAddr :=
  match field with
  | .any => [w.transmitter, w.bssid, w.addr3, w.receiver].filterMap id
  | .bssid => w.bssid.toList
  | .transmitter => w.transmitter.toList
  | .receiver => w.receiver.toList
  | .addr3 => w.addr3.toList

/-- `field_name` (`signature.rs:458`). -/
def fieldName : MacField → String
  | .any => "address"
  | .bssid => "BSSID"
  | .transmitter => "transmitter"
  | .receiver => "receiver"
  | .addr3 => "addr3"

/-- `{:?}` of a `FrameKind`. -/
def FrameKind.debug : FrameKind → String
  | beacon => "Beacon"
  | probeRequest => "ProbeRequest"
  | probeResponse => "ProbeResponse"
  | beaconOrProbeResponse => "BeaconOrProbeResponse"
  | data => "Data"
  | other => "Other"

/-- `{:?}` of a list whose members are written so. -/
def debugList (l : List String) : String := "[" ++ String.intercalate ", " l ++ "]"

/-- An address a prefix is held against (`signature.rs:377`): none of a group, and none that was
made up, unless the rule is about such ones. -/
def MacPrefix.hits (p : MacPrefix) (allowLocallyAdministered : Bool) (a : MacAddr) : Bool :=
  !a.isMulticast && (allowLocallyAdministered || !a.isLocallyAdministered) && p.matches a

section
variable [DebugStr]

open DebugStr Text

/-- `match_wifi` (`signature.rs:362`). -/
def matchWifi (condition : MatchCondition) (w : WifiObservation) : Option String :=
  match condition with
  | .macExact field mac =>
    if (addressesFor field w).any (· == mac) then
      some (fieldName field ++ " is " ++ String.ofList mac.display)
    else none
  | .macPrefix field pre allowLocallyAdministered =>
    match (addressesFor field w).find? (pre.hits allowLocallyAdministered) with
    | some hit =>
      some (fieldName field ++ " " ++ String.ofList hit.display ++ " matches prefix " ++
        String.ofList pre.display)
    | none => none
  | .ssidExact ssid =>
    w.ssid.bind fun observed =>
      if observed.display = ssid then some ("SSID is " ++ debug ssid) else none
  | .ssidContains substring =>
    w.ssid.bind fun observed =>
      if contains observed.display.toList substring then
        some ("SSID contains " ++ debug substring)
      else none
  | .ssidGlob pattern =>
    w.ssid.bind fun observed =>
      if globMatch pattern observed.display then
        some ("SSID matches pattern " ++ debug pattern)
      else none
  | .ssidWildcard =>
    w.ssid.bind fun observed =>
      if observed.isWildcard then some "wildcard (zero-length) SSID observed" else none
  | .frameType frame =>
    w.frame.bind fun observed =>
      if observed = frame then some ("frame type is " ++ frame.debug) else none
  | .informationElement id pre =>
    (w.informationElements.find? (·.id == id)).bind fun element =>
      match pre with
      | none => some ("information element " ++ toString id ++ " present")
      | some bytes =>
        if bytes.isPrefixOf element.data then
          some ("information element " ++ toString id ++ " starts with " ++
            debugList (bytes.map fun b => String.ofList (Hex.byte b)))
        else none
  | .vendorOui oui =>
    let hit := w.informationElements.findSome? fun ie =>
      ie.vendorOui.bind fun vendor =>
        if oui.matches ⟨#v[vendor.1, vendor.2.1, vendor.2.2, 0, 0, 0]⟩ then some vendor else none
    hit.map fun hit =>
      "vendor-specific element with OUI " ++ String.ofList (List.intercalate [':']
        [Hex.byte hit.1, Hex.byte hit.2.1, Hex.byte hit.2.2])
  | .ieIdSequence ids =>
    if w.informationElements.map (·.id) = ids then
      some ("information-element fingerprint " ++ debugList (ids.map toString) ++ " matched")
    else none
  | .bleCompanyId _ | .bleServiceUuid _ | .bleNameContains _ => none

/-- `eq_ignore_ascii_case`. -/
def eqIgnoreAsciiCase (s t : String) : Bool :=
  s.toList.map Char.toLower == t.toList.map Char.toLower

/-- What `match_one` does with a BLE observation (`signature.rs:317`). -/
def matchBle (condition : MatchCondition) (b : BleObservation) : Option String :=
  match condition with
  | .macExact _ mac =>
    b.address.bind fun address =>
      if address = mac then some ("BLE address is " ++ String.ofList mac.display) else none
  | .macPrefix _ pre allowLocallyAdministered =>
    b.address.bind fun addr =>
      if b.addressIsRandom then none
      else if addr.isMulticast || addr.isLocallyAdministered && !allowLocallyAdministered then none
      else if pre.matches addr then
        some ("BLE address " ++ String.ofList addr.display ++ " matches prefix " ++
          String.ofList pre.display)
      else none
  | .bleCompanyId id =>
    b.companyId.bind fun companyId =>
      if companyId = id then
        some ("BLE company ID 0x" ++
          String.ofList (Hex.byte (id >>> 8).toUInt8 ++ Hex.byte id.toUInt8))
      else none
  | .bleServiceUuid uuid =>
    if b.serviceUuids.any (eqIgnoreAsciiCase · uuid) then some ("BLE service UUID " ++ uuid)
    else none
  | .bleNameContains substring =>
    b.localName.bind fun name =>
      if contains name.toList substring then some ("BLE name contains " ++ debug substring)
      else none
  | _ => none

/-- `match_one` (`signature.rs:314`). -/
def matchOne (condition : MatchCondition) (payload : ObservationPayload) : Option String :=
  match payload with
  | .wifi w => matchWifi condition w
  | .ble b => matchBle condition b
  | .remoteId => none

/-- `match_all` (`signature.rs:305`). -/
def matchAll (conditions : List MatchCondition) (payload : ObservationPayload) :
    Option (List String) :=
  conditions.mapM (matchOne · payload)

/-- What an enabled signature makes of a payload (`signature.rs:269`). -/
def Signature.detect (sig : Signature) (payload : ObservationPayload) : Option Detection :=
  if sig.technology ≠ payload.tech then none
  else
    (matchAll sig.conditions payload).map fun reasons =>
      { signatureId := sig.id
        vendor := sig.vendor
        product := sig.product
        technology := sig.technology
        confidence := sig.confidence
        severity := sig.severity
        matchedFields := reasons }

/-- `SignatureDb::match_observation` (`signature.rs:266`). -/
def matchObservation (signatures : List Signature) (payload : ObservationPayload) :
    List Detection :=
  (signatures.filter (·.enabled)).filterMap (·.detect payload)

/-! ## When a signature matches -/

/-- What a condition asks of an observation. -/
def MatchCondition.MetBy (w : WifiObservation) : MatchCondition → Prop
  | macExact field mac => mac ∈ addressesFor field w
  | macPrefix field pre allow => ∃ a ∈ addressesFor field w, pre.hits allow a = true
  | ssidExact ssid => ∃ s, w.ssid = some s ∧ s.display = ssid
  | ssidContains substring => ∃ s, w.ssid = some s ∧ substring.toList <:+: s.display.toList
  | ssidGlob pattern => ∃ s, w.ssid = some s ∧ globMatch pattern s.display = true
  | ssidWildcard => w.ssid = some .wildcard
  | frameType frame => w.frame = some frame
  | informationElement id pre =>
    ∃ e, w.informationElements.find? (·.id == id) = some e ∧ pre.getD [] <+: e.data
  | vendorOui oui => ∃ e ∈ w.informationElements, ∃ a b c, e.vendorOui = some (a, b, c) ∧
      oui.matches ⟨#v[a, b, c, 0, 0, 0]⟩ = true
  | ieIdSequence ids => w.informationElements.map (·.id) = ids
  | bleCompanyId _ | bleServiceUuid _ | bleNameContains _ => False

/-- A condition gives a reason just if it is met. -/
theorem isSome_matchWifi {c : MatchCondition} {w : WifiObservation} :
    (matchWifi c w).isSome = true ↔ c.MetBy w := by
  have hif : ∀ {p : Prop} [Decidable p] {r : String},
      (if p then some r else none).isSome = true ↔ p := by
    intro p _ r
    split <;> simp [*]
  cases c with
  | macExact field mac => simp [matchWifi, hif, MatchCondition.MetBy]
  | macPrefix field pre allow =>
    simp only [matchWifi, MatchCondition.MetBy]
    rw [← List.find?_isSome]
    split <;> simp [*]
  | ssidExact ssid =>
    simp only [matchWifi, MatchCondition.MetBy]
    cases w.ssid <;> simp [hif]
  | ssidContains substring =>
    simp only [matchWifi, MatchCondition.MetBy]
    cases w.ssid <;> simp [hif, contains]
  | ssidGlob pattern =>
    simp only [matchWifi, MatchCondition.MetBy]
    cases w.ssid <;> simp [hif]
  | ssidWildcard =>
    simp only [matchWifi, MatchCondition.MetBy]
    cases w.ssid with
    | none => simp
    | some s => cases s <;> simp [Ssid.isWildcard]
  | frameType frame =>
    simp only [matchWifi, MatchCondition.MetBy]
    cases w.frame <;> simp [hif]
  | informationElement id pre =>
    simp only [matchWifi, MatchCondition.MetBy]
    cases w.informationElements.find? (·.id == id) with
    | none => simp
    | some e => cases pre <;> simp [hif]
  | vendorOui oui =>
    simp only [matchWifi, MatchCondition.MetBy]
    rw [Option.isSome_map, List.findSome?_isSome_iff]
    refine exists_congr fun e => and_congr_right fun _ => ?_
    cases e.vendorOui with
    | none => simp
    | some vendor =>
      obtain ⟨a, b, c⟩ := vendor
      simp
  | ieIdSequence ids => simp [matchWifi, hif, MatchCondition.MetBy]
  | bleCompanyId id => simp [matchWifi, MatchCondition.MetBy]
  | bleServiceUuid uuid => simp [matchWifi, MatchCondition.MetBy]
  | bleNameContains substring => simp [matchWifi, MatchCondition.MetBy]

theorem isSome_matchAll {conditions : List MatchCondition} {payload : ObservationPayload} :
    (matchAll conditions payload).isSome = true ↔
      ∀ c ∈ conditions, (matchOne c payload).isSome = true := by
  unfold matchAll
  induction conditions with
  | nil => simp
  | cons c conditions ih =>
    rw [List.mapM_cons, List.forall_mem_cons, ← ih]
    cases matchOne c payload with
    | none => simp
    | some reason =>
      cases conditions.mapM (matchOne · payload) <;> simp

/-- A signature for Wi-Fi matches what all its conditions are met by. -/
theorem Signature.isSome_detect {sig : Signature} (h : sig.technology = .wifi)
    (w : WifiObservation) : (sig.detect (.wifi w)).isSome = true ↔
      ∀ c ∈ sig.conditions, (matchWifi c w).isSome = true := by
  have htech : ¬ sig.technology ≠ (ObservationPayload.wifi w).tech := fun hne => hne h
  rw [detect, if_neg htech, Option.isSome_map, isSome_matchAll]
  rfl

end

end Rayhunter
