import Rayhunter.Lib.Utf8
import Rayhunter.Radio.Mac

/-!
# What a radio saw of a network

`ObservationPayload` (`radio/src/observation.rs`) and the types of its fields. What is cut on the way
in is cut in the constructors of the source: a name at 32 bytes, the payload of an element at 255.
-/

namespace Rayhunter

/-- `RadioTech` (`observation.rs:17`). -/
inductive RadioTech
  | wifi
  | ble
  | remoteId
  deriving DecidableEq, Repr

/-- `FrameKind` (`observation.rs:56`). -/
inductive FrameKind
  | beacon
  | probeRequest
  | probeResponse
  | beaconOrProbeResponse
  | data
  | other
  deriving DecidableEq, Repr

/-- `char::is_control`. -/
def isControl (c : Char) : Bool := c.toNat < 0x20 || 0x7f ≤ c.toNat && c.toNat < 0xa0

/-- `Ssid` (`observation.rs:73`): a zero-length element is not a name of no bytes. -/
inductive Ssid
  | wildcard
  | named (bytes : List UInt8)
  deriving DecidableEq, Repr

namespace Ssid

/-- `Ssid::MAX_LEN` (`observation.rs:83`). -/
def maxLen : Nat := 32

/-- `Ssid::from_bytes` (`observation.rs:85`). -/
def fromBytes (bytes : List UInt8) : Ssid :=
  if bytes = [] then wildcard else named (bytes.take maxLen)

/-- `Ssid::is_wildcard` (`observation.rs:94`). -/
def isWildcard : Ssid → Bool
  | wildcard => true
  | named _ => false

/-- The bytes of a name, none of them for a wildcard. -/
def bytes : Ssid → List UInt8
  | wildcard => []
  | named bytes => bytes

/-- No bytes are lost of a name that fits in an element. -/
theorem bytes_fromBytes {b : List UInt8} (h : b.length ≤ maxLen) : (fromBytes b).bytes = b := by
  unfold fromBytes
  split
  · next hb => exact hb.symm
  · exact List.take_of_length_le h

/-- `Ssid::display` (`observation.rs:105`): what is no text becomes text, and what moves a cursor
becomes something to see. -/
def display : Ssid → String
  | wildcard => ""
  | named bytes =>
    String.ofList ((Utf8.lossy bytes).map fun c => if isControl c then Utf8.replacement else c)

/-- What is beyond the end of a name is not in it. -/
theorem fromBytes_take (b : List UInt8) : fromBytes (b.take maxLen) = fromBytes b := by
  cases b with
  | nil => rfl
  | cons x b => simp [fromBytes, maxLen, List.take_take]

theorem length_bytes_fromBytes_le (b : List UInt8) : (fromBytes b).bytes.length ≤ maxLen := by
  unfold fromBytes
  split
  · exact Nat.zero_le _
  · exact List.length_take_le ..

end Ssid

/-- `InformationElement` (`observation.rs:118`). -/
structure InformationElement where
  id : UInt8
  data : List UInt8
  deriving DecidableEq, Repr

namespace InformationElement

/-- `InformationElement::MAX_DATA` (`observation.rs:125`). -/
def maxData : Nat := 255

/-- `InformationElement::VENDOR_SPECIFIC` (`observation.rs:127`). -/
def vendorSpecific : UInt8 := 221

/-- `InformationElement::new` (`observation.rs:129`). -/
def new (id : UInt8) (data : List UInt8) : InformationElement := ⟨id, data.take maxData⟩

/-- `InformationElement::vendor_oui` (`observation.rs:139`). -/
def vendorOui (e : InformationElement) : Option (UInt8 × UInt8 × UInt8) :=
  if e.id ≠ vendorSpecific then none
  else
    match e.data with
    | a :: b :: c :: _ => some (a, b, c)
    | _ => none

end InformationElement

/-- `Security` (`observation.rs:154`). -/
structure Security where
  isOpen : Bool := false
  wep : Bool := false
  wpa : Bool := false
  wpa2 : Bool := false
  wpa3 : Bool := false
  enterprise : Bool := false
  deriving DecidableEq, Repr

/-- `WifiObservation` (`observation.rs:213`), with the values of `WifiObservation::empty`. -/
structure WifiObservation where
  bssid : Option MacAddr := none
  transmitter : Option MacAddr := none
  receiver : Option MacAddr := none
  addr3 : Option MacAddr := none
  ssid : Option Ssid := none
  frequencyMhz : Option UInt32 := none
  rssiDbm : Option Int16 := none
  frame : Option FrameKind := none
  informationElements : List InformationElement := []
  security : Option Security := none
  lastSeenMs : Option UInt32 := none
  wps : Bool := false
  deriving DecidableEq, Repr

/-- `WifiObservation::empty` (`observation.rs:236`). -/
def WifiObservation.empty : WifiObservation := {}

/-- `BleObservation` (`observation.rs:277`), with the fields conditions are about. -/
structure BleObservation where
  address : Option MacAddr
  addressIsRandom : Bool
  localName : Option String
  companyId : Option UInt16
  serviceUuids : List String
  deriving DecidableEq, Repr

/-- `ObservationPayload` (`observation.rs:310`). No condition is about a drone. -/
inductive ObservationPayload
  | wifi (w : WifiObservation)
  | ble (b : BleObservation)
  | remoteId
  deriving DecidableEq, Repr

/-- `ObservationPayload::tech` (`observation.rs:317`). -/
def ObservationPayload.tech : ObservationPayload → RadioTech
  | wifi _ => .wifi
  | ble _ => .ble
  | remoteId => .remoteId

end Rayhunter
