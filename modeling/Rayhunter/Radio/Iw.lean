import Rayhunter.Radio.Scan

/-!
# How `iw` prints a scan

The text `parse_iw_scan` is given: for every access point a line `BSS` in column 0, then the lines
of its attributes and of its elements, indented. An element has a line with its name and lines for
what is in it, indented further. Bytes of a name that are not printed as they are become `\xNN`.

What elements print below their names can be any text: that is where a reader that trims its lines
can take one thing for another.
-/

namespace Rayhunter.Iw

open Text Scan

/-- Text on one line. -/
abbrev Inline := { cs : List Char // '\n' ∉ cs }

/-! ## Names of networks -/

/-- The bytes of an SSID element. -/
abbrev Name := { bytes : List UInt8 // bytes.length ≤ Ssid.maxLen }

/-- `isprint` in the C locale. -/
def isPrint (b : UInt8) : Bool := 0x20 ≤ b && b ≤ 0x7e

/-- A byte of a name: as it is if it is printed and no backslash, and for a blank if it is neither
first nor last. -/
def escapeByte (edge : Bool) (b : UInt8) : List Char :=
  if isPrint b && b != backslash && !(b == 0x20 && edge) then [Char.ofNat b.toNat]
  else '\\' :: 'x' :: Hex.byte b

/-- The bytes after the first one. -/
def escapeRest : List UInt8 → List Char
  | [] => []
  | [b] => escapeByte true b
  | b :: bytes => escapeByte false b ++ escapeRest bytes

/-- The bytes of a name, as they are printed. -/
def escape : List UInt8 → List Char
  | [] => []
  | b :: bytes => escapeByte true b ++ escapeRest bytes

/-! ## Suites -/

/-- Who numbered a suite. -/
structure Oui where
  a : UInt8
  b : UInt8
  c : UInt8
  deriving DecidableEq, Repr

/-- The suites of IEEE 802.11. -/
def ieee : Oui := ⟨0x00, 0x0f, 0xac⟩

/-- The suites of the first WPA. -/
def microsoft : Oui := ⟨0x00, 0x50, 0xf2⟩

/-- The suites of the Wi-Fi Alliance. -/
def alliance : Oui := ⟨0x50, 0x6f, 0x9a⟩

/-- A suite of authentication and key management, and whether this `iw` has a name for it. -/
structure Suite where
  oui : Oui
  number : UInt8
  byName : Bool
  deriving DecidableEq, Repr

namespace Suite

/-- The names there are. -/
def names : List ((Oui × UInt8) × String) :=
  [((ieee, 1), "IEEE 802.1X"), ((ieee, 2), "PSK"), ((ieee, 3), "FT/IEEE 802.1X"),
    ((ieee, 4), "FT/PSK"), ((ieee, 5), "IEEE 802.1X/SHA-256"), ((ieee, 6), "PSK/SHA-256"),
    ((ieee, 7), "TDLS/TPK"), ((ieee, 8), "SAE"), ((ieee, 9), "FT/SAE"),
    ((ieee, 11), "IEEE 802.1X/SUITE-B"), ((ieee, 12), "IEEE 802.1X/SUITE-B-192"),
    ((ieee, 13), "FT/IEEE 802.1X/SHA-384"), ((ieee, 14), "FILS/SHA-256"),
    ((ieee, 15), "FILS/SHA-384"), ((ieee, 16), "FT/FILS/SHA-256"), ((ieee, 17), "FT/FILS/SHA-384"),
    ((ieee, 18), "OWE"), ((microsoft, 1), "IEEE 802.1X"), ((microsoft, 2), "PSK"),
    ((alliance, 1), "OSEN"), ((alliance, 2), "DPP")]

/-- A suite by its number. -/
def selector (s : Suite) : List Char :=
  Hex.byte s.oui.a ++ '-' :: Hex.byte s.oui.b ++ '-' :: Hex.byte s.oui.c ++ ':' ::
    Nat.toDigits 10 s.number.toNat

/-- The name of a suite, if this `iw` has one. -/
def name? (s : Suite) : Option String :=
  if s.byName then names.lookup (s.oui, s.number) else none

/-- A suite as it is printed. -/
def text (s : Suite) : List Char :=
  match s.name? with
  | some name => name.toList
  | none => s.selector

/-- SAE, with fast transition or without. -/
def isSae (s : Suite) : Bool := s.oui == ieee && (s.number == 8 || s.number == 9)

/-- 802.1X, with whatever transition, hash or strength. -/
def isEnterprise (s : Suite) : Bool :=
  s.oui == ieee && [1, 3, 5, 11, 12, 13].contains s.number || s.oui == microsoft && s.number == 1

end Suite

/-! ## Lines -/

/-- What an element prints below its name: a list of suites or any other text. -/
inductive Detail
  | suites (l : List Suite)
  | text (t : Inline)

/-- Suites, a blank before each. -/
def suitesText (l : List Suite) : List Char := l.flatMap fun s => ' ' :: s.text

/-- The line of a detail. -/
def Detail.line : Detail → List Char
  | suites l => "\t\t * Authentication suites:".toList ++ suitesText l
  | text t => "\t\t".toList ++ t.1

/-- The suites a detail lists. -/
def Detail.suitesOf : Detail → List Suite
  | suites l => l
  | text _ => []

/-- A detail is no list of the network's suites: such lists stand below the name of a block. -/
def Detail.isBelow (block : Bool) : Detail → Bool
  | suites _ => !block
  | text _ => true

/-- The line of what has a name: an attribute or an element. -/
def nameLine (name : String) (text : List Char) : List Char :=
  '\t' :: name.toList ++ ':' :: text

/-! ## Elements -/

/-- The elements with a number the reader has a use for, but for the name and RSN. -/
inductive Numbered
  | supportedRates
  | dsParameterSet
  | tim
  | country
  | erp
  | extendedSupportedRates
  | htCapabilities
  | htOperation
  | extendedCapabilities
  | vhtCapabilities
  | vhtOperation
  deriving DecidableEq, Repr

namespace Numbered

/-- The name in print. -/
def name : Numbered → String
  | supportedRates => "Supported rates"
  | dsParameterSet => "DS Parameter set"
  | tim => "TIM"
  | country => "Country"
  | erp => "ERP"
  | extendedSupportedRates => "Extended supported rates"
  | htCapabilities => "HT capabilities"
  | htOperation => "HT operation"
  | extendedCapabilities => "Extended capabilities"
  | vhtCapabilities => "VHT capabilities"
  | vhtOperation => "VHT operation"

/-- The number of the element. -/
def id : Numbered → UInt8
  | supportedRates => 1
  | dsParameterSet => 3
  | tim => 5
  | country => 7
  | erp => 42
  | extendedSupportedRates => 50
  | htCapabilities => 45
  | htOperation => 61
  | extendedCapabilities => 127
  | vhtCapabilities => 191
  | vhtOperation => 192

end Numbered

/-- The attributes of a record, but for the capabilities. -/
inductive AttributeName
  | lastSeen
  | tsf
  | freq
  | beaconInterval
  | signal
  | elementsFromProbeResponse
  deriving DecidableEq, Repr

/-- The name in print. -/
def AttributeName.name : AttributeName → String
  | lastSeen => "last seen"
  | tsf => "TSF"
  | freq => "freq"
  | beaconInterval => "beacon interval"
  | signal => "signal"
  | elementsFromProbeResponse => "Information elements from Probe Response frame"

/-- An attribute. -/
structure Attribute where
  name : AttributeName
  text : Inline

/-- The names that no other element has: of lines the reader has a use for. -/
def reservedNames : List String :=
  ["freq", "signal", "capability", "RSN", "WPA", "WPS", "* Authentication suites", "last seen",
    "SSID", "Supported rates", "DS Parameter set", "TIM", "Country", "ERP",
    "Extended supported rates", "HT capabilities", "HT operation", "Extended capabilities",
    "VHT capabilities", "VHT operation"]

/-- A name stands on one line, has no colon in it and does not begin with white space. -/
structure IsName (name : String) : Prop where
  inline : '\n' ∉ name.toList
  no_colon : ':' ∉ name.toList
  starts : ∃ c, name.toList.head? = some c ∧ isWhitespace c = false

/-- The name of an element the reader has no use for. -/
structure OtherName where
  name : String
  isName : IsName name
  free : name ∉ reservedNames

/-- What the line of an element starts with. -/
inductive Head
  | rsn
  | wpa
  | wps
  | numbered (n : Numbered)
  | other (n : OtherName)

namespace Head

/-- The name in print. -/
def name : Head → String
  | rsn => "RSN"
  | wpa => "WPA"
  | wps => "WPS"
  | numbered n => n.name
  | other n => n.name

/-- The numbers the reader has for an element. -/
def id? : Head → Option UInt8
  | rsn => some 48
  | numbered n => some n.id
  | _ => none

/-- The suites of the network are in this element. -/
def isBlock : Head → Bool
  | rsn => true
  | wpa => true
  | _ => false

/-- It is an RSN element. -/
def isRsn : Head → Bool
  | rsn => true
  | _ => false

/-- It is a WPA element. -/
def isWpa : Head → Bool
  | wpa => true
  | _ => false

/-- It is a WPS element. -/
def isWps : Head → Bool
  | wps => true
  | _ => false

end Head

/-- An element: its name, what follows on that line, what is printed below. -/
structure Element where
  head : Head
  text : Inline
  details : List Detail

namespace Element

def lines (e : Element) : List (List Char) :=
  nameLine e.head.name e.text.1 :: e.details.map Detail.line

/-- The suites of the network that are listed in this element. -/
def suites (e : Element) : List Suite :=
  if e.head.isBlock then e.details.flatMap Detail.suitesOf else []

/-- What is printed below the name and is no list of the network's suites. -/
def below (e : Element) : List Detail := e.details.filter (Detail.isBelow e.head.isBlock)

end Element

/-! ## Records -/

/-- Flags in the line of capabilities, those of 60 GHz networks among them. -/
inductive Capability
  | ess
  | ibss
  | cfPollable
  | cfPollReq
  | privacy
  | shortPreamble
  | pbcc
  | channelAgility
  | spectrumMgmt
  | qos
  | shortSlotTime
  | apsd
  | radioMeasure
  | dsssOfdm
  | delayedBack
  | immediateBack
  | dmgEss
  | dmgPcp
  | dmgIbss
  | cbapOnly
  | cbapSrc
  | ecpac
  deriving DecidableEq, Repr

/-- The word in print. -/
def Capability.word : Capability → String
  | ess => "ESS"
  | ibss => "IBSS"
  | cfPollable => "CfPollable"
  | cfPollReq => "CfPollReq"
  | privacy => "Privacy"
  | shortPreamble => "ShortPreamble"
  | pbcc => "PBCC"
  | channelAgility => "ChannelAgility"
  | spectrumMgmt => "SpectrumMgmt"
  | qos => "QoS"
  | shortSlotTime => "ShortSlotTime"
  | apsd => "APSD"
  | radioMeasure => "RadioMeasure"
  | dsssOfdm => "DSSS-OFDM"
  | delayedBack => "DelayedBACK"
  | immediateBack => "ImmediateBACK"
  | dmgEss => "DMG_ESS"
  | dmgPcp => "DMG_PCP"
  | dmgIbss => "DMG_IBSS"
  | cbapOnly => "CBAP_Only"
  | cbapSrc => "CBAP_Src"
  | ecpac => "ECPAC"

/-- The capabilities of an access point, as flags and as the number they are. -/
structure Capabilities where
  flags : List Capability
  value : UInt16
  deriving DecidableEq, Repr

def Capabilities.text (c : Capabilities) : List Char :=
  c.flags.flatMap (fun flag => ' ' :: flag.word.toList) ++ " (0x".toList ++
    Hex.byte (c.value >>> 8).toUInt8 ++ Hex.byte c.value.toUInt8 ++ [')']

/-- An access point, as a scan found it. Its elements are in any order, and the name is one of
them. -/
structure AccessPoint where
  bssid : MacAddr
  iface : Option Inline
  status : Option Inline
  attributes : List Attribute
  capability : Option Capabilities
  moreAttributes : List Attribute
  before : List Element
  ssid : Option Name
  after : List Element

namespace AccessPoint

def elements (ap : AccessPoint) : List Element := ap.before ++ ap.after

/-- What follows the address on the first line. -/
def headerRest (ap : AccessPoint) : List Char :=
  (ap.iface.elim [] fun d => "(on ".toList ++ d.1 ++ [')']) ++
    ap.status.elim [] fun s => " -- ".toList ++ s.1

/-- The first line of a record. -/
def header (ap : AccessPoint) : List Char := "BSS ".toList ++ ap.bssid.display ++ ap.headerRest

def attributeLines (l : List Attribute) : List (List Char) :=
  l.map fun a => nameLine a.name.name (' ' :: a.text.1)

/-- The lines up to the name. -/
def linesBefore (ap : AccessPoint) : List (List Char) :=
  attributeLines ap.attributes ++
    (ap.capability.map fun c => nameLine "capability" c.text).toList ++
    attributeLines ap.moreAttributes ++ ap.before.flatMap Element.lines

/-- The line of the name. -/
def ssidLine (name : Name) : List Char := nameLine "SSID" (' ' :: escape name.1)

/-- The lines after the first one. -/
def body (ap : AccessPoint) : List (List Char) :=
  ap.linesBefore ++ (ap.ssid.map ssidLine).toList ++ ap.after.flatMap Element.lines

def lines (ap : AccessPoint) : List (List Char) := ap.header :: ap.body

end AccessPoint

/-- A scan, as it is printed. -/
def print (aps : List AccessPoint) : String := written (aps.flatMap AccessPoint.lines)

end Rayhunter.Iw
