import Rayhunter.Gsmtap.Parser
import Rayhunter.Nas.Export

/-!
# Information elements

`lib/src/analysis/information_element.rs`: what the analysis reads in a GSMTAP frame, which is a
matter of the frame's type and payload alone (`tryFrom_congr`). With it the decoders of a diag
message are those of the source, up to the crates they call (`RecordCrates`), and so are the frames
an export makes of one (`parseAll_message`).
-/

namespace Rayhunter

/-- The crates a record goes through: `deku`, with the layouts derived for it, `telcom_parser` for
RRC messages, `pycrate_rs` for NAS messages, and the floating point in which `to_datetime`
(`diaglog/mod.rs:119`) counts milliseconds. -/
class RecordCrates extends Deku where
  DekuError : Type
  fromBytes : List UInt8 → Except DekuError (List UInt8 × Message LogBody)
  debugDekuError : DekuError → List UInt8 → String
  debugHdlcError : HdlcError → List UInt8 → String
  millis : Timestamp → Nat
  RrcMessage : LteRrcSubtype → Type
  RrcError : Type
  decode : (subtype : LteRrcSubtype) → List UInt8 → Except RrcError (RrcMessage subtype)
  debugRrcError : RrcError → String
  NASMessage : Type
  NasError : Type
  parseNas : List UInt8 → Except NasError NASMessage
  debugNasError : NasError → String
  debugGsmtapType : GsmtapType → String

/-- Crates that decode no message and count milliseconds exactly, for records that are not decoded. -/
@[reducible] def plainCrates : RecordCrates where
  debugError _ := "DekuError"
  DekuError := Unit
  fromBytes _ := .error ()
  debugDekuError _ _ := "DekuError"
  debugHdlcError _ _ := "HdlcError"
  millis t := (t.ts.toNat / 65536 * 51200 + t.ts.toNat % 65536) / 40960
  RrcMessage _ := Empty
  RrcError := Unit
  decode _ _ := .error ()
  debugRrcError _ := "ParsingError"
  NASMessage := Empty
  NasError := Unit
  parseNas _ := .error ()
  debugNasError _ := "ParseError"
  debugGsmtapType t := reprStr t

namespace Gsmtap

/-! ## Random access responses -/

/-- `MacRandomAccessResponse` (`information_element.rs:92`). -/
structure MacRandomAccessResponse where
  timingAdvance : UInt16
  tcRnti : UInt16
  preamble : UInt8
  deriving DecidableEq, Repr

/-- `RA_RNTI` (`information_element.rs:124`). -/
def RA_RNTI : UInt8 := 2

/-- `parse_mac_rar` (`information_element.rs:132`): after the context and the tag come the
subheader and the six bytes of the response. -/
def parseMacRar : List UInt8 → Option MacRandomAccessResponse
  | _ :: _ :: rntiType :: tag :: subheader :: b₀ :: b₁ :: _ :: _ :: b₄ :: b₅ :: _ =>
    if tag ≠ MAC_LTE_PAYLOAD_TAG ∨ rntiType ≠ RA_RNTI then none
    else some
      { timingAdvance := ((b₀ &&& 0b01111111).toUInt16 <<< 4) ||| (b₁.toUInt16 >>> 4)
        tcRnti := (b₄.toUInt16 <<< 8) ||| b₅.toUInt16
        preamble := subheader &&& 0b00111111 }
  | _ => none

/-- What has the tag of a transport block is no response. -/
theorem parseMacRar_of_tag {payload : List UInt8} {tag : UInt8} (h : payload[3]? = some tag)
    (htag : tag ≠ MAC_LTE_PAYLOAD_TAG) : parseMacRar payload = none := by
  unfold parseMacRar
  split
  · obtain rfl := Option.some.inj h
    rw [if_pos (.inl htag)]
  · rfl

/-! ## Elements -/

variable [RecordCrates]

/-- `LteInformationElement` (`information_element.rs:47`); the RRC messages go by their channel. -/
inductive LteInformationElement
  | rrc (subtype : LteRrcSubtype) (message : RecordCrates.RrcMessage subtype)
  | nas (message : RecordCrates.NASMessage)
  | macRar (response : MacRandomAccessResponse)

/-- `InformationElement` (`information_element.rs:23`). -/
inductive InformationElement
  | gsm (channel : UmSubtype) (bytes : List UInt8)
  | umts
  | lte (element : LteInformationElement)
  | fiveG

/-- `InformationElementError` (`information_element.rs:12`). -/
inductive InformationElementError
  | rrcDecodingError (e : RecordCrates.RrcError)
  | nasDecodingError (e : RecordCrates.NasError)
  | unsupportedGsmtapType (gsmtapType : GsmtapType)

/-- The text of such an error. -/
def InformationElementError.debug : InformationElementError → String
  | rrcDecodingError e => s!"RRCDecodingError({RecordCrates.debugRrcError e})"
  | nasDecodingError e => s!"NASDecodingError({RecordCrates.debugNasError e})"
  | unsupportedGsmtapType gsmtapType =>
    s!"UnsupportedGsmtapType({RecordCrates.debugGsmtapType gsmtapType})"

/-- `is_deliberately_unanalysed` (`analyzer.rs:288`). -/
def isDeliberatelyUnanalysed : InformationElementError → Bool
  | .unsupportedGsmtapType _ => true
  | _ => false

/-- The channels whose RRC messages are decoded (`information_element.rs:166`). -/
def decodedChannels : List LteRrcSubtype :=
  [.dlCcch, .dlDcch, .ulCcch, .ulDcch, .bcchBch, .bcchDlSch, .pcch, .mcch, .scMcch, .bcchBchMbms,
    .bcchDlSchBr, .bcchDlSchMbms, .sbcchSlBch, .sbcchSlBchV2x]

/-- `InformationElement::try_from` (`information_element.rs:157`). -/
def tryFrom (gsmtapMsg : GsmtapMessage) : Except InformationElementError InformationElement :=
  match gsmtapMsg.header.gsmtapType with
  | .lteRrc subtype =>
    if subtype ∈ decodedChannels then
      match RecordCrates.decode subtype gsmtapMsg.payload with
      | .ok message => .ok (.lte (.rrc subtype message))
      | .error e => .error (.rrcDecodingError e)
    else .error (.unsupportedGsmtapType (.lteRrc subtype))
  | .lteNas .plain =>
    match RecordCrates.parseNas gsmtapMsg.payload with
    | .ok message => .ok (.lte (.nas message))
    | .error e => .error (.nasDecodingError e)
  | .lteMacFramed | .lteMac =>
    match parseMacRar gsmtapMsg.payload with
    | some response => .ok (.lte (.macRar response))
    | none => .error (.unsupportedGsmtapType gsmtapMsg.header.gsmtapType)
  | .um channel => .ok (.gsm channel gsmtapMsg.payload)
  | gsmtapType => .error (.unsupportedGsmtapType gsmtapType)

/-- An element is read off the type and the payload. -/
theorem tryFrom_congr {m m' : GsmtapMessage}
    (htype : m.header.gsmtapType = m'.header.gsmtapType) (hpayload : m.payload = m'.payload) :
    tryFrom m = tryFrom m' := by
  unfold tryFrom
  rw [htype, hpayload]

/-- `Timestamp::to_datetime` (`diaglog/mod.rs:119`): milliseconds from the GPS epoch. -/
def toDatetime (t : Timestamp) : DateTime :=
  ⟨(315964800000 + (RecordCrates.millis t : Int)) * 1000000, 0⟩

end Gsmtap

/-! ## Decoders -/

variable [RecordCrates]

/-- The decoders of the source. -/
instance : Decoders where
  LogBody := LogBody
  DekuError := RecordCrates.DekuError
  fromBytes := RecordCrates.fromBytes
  debugDekuError := RecordCrates.debugDekuError
  debugHdlcError := RecordCrates.debugHdlcError
  toDatetime := Gsmtap.toDatetime
  GsmtapMessage := GsmtapMessage
  ParserError := GsmtapParserError
  parse := GsmtapParser.parse
  debugParserError := GsmtapParserError.debug
  InformationElement := Gsmtap.InformationElement
  InformationElementError := Gsmtap.InformationElementError
  tryFrom := Gsmtap.tryFrom
  isDeliberatelyUnanalysed := Gsmtap.isDeliberatelyUnanalysed
  debugInformationElementError := Gsmtap.InformationElementError.debug

/-- The frames of the source. -/
instance : GsmtapFrames where
  OtherFrame := GsmtapMessage
  nas4GMessage
    | .nas4GMessage _ direction _ _ _ _ msg => some (direction = .uplink, msg)
    | _ => none
  otherFrames := GsmtapParser.logToGsmtapAll

/-- The message of a frame. -/
def GsmtapFrame.message : GsmtapFrame → GsmtapMessage
  | .lteNas uplink payload =>
    ⟨{ GsmtapHeader.new (.lteNas .plain) with uplink }, payload⟩
  | .other frame => frame

/-- The frames of a record are those `log_to_gsmtap_all` makes of it. -/
theorem logToGsmtapAll_message (body : LogBody) :
    (logToGsmtapAll body).map (·.map GsmtapFrame.message) = GsmtapParser.logToGsmtapAll body := by
  cases hnas : GsmtapFrames.nas4GMessage body with
  | some found =>
    cases body with
    | nas4GMessage => rfl
    | _ => cases hnas
  | none =>
    have hother : logToGsmtapAll body =
        (GsmtapParser.logToGsmtapAll body).map (·.map GsmtapFrame.other) := by
      rw [logToGsmtapAll, hnas]
      rfl
    rw [hother]
    cases GsmtapParser.logToGsmtapAll body with
    | error e => rfl
    | ok frames => exact congrArg Except.ok ((List.map_map ..).trans (List.map_id _))

/-- The frames of a message are those `parse_all` makes of it. -/
theorem parseAll_message (msg : Message LogBody) :
    (parseAll msg).map (·.map fun frame => (frame.1, frame.2.message)) =
      GsmtapParser.parseAll msg := by
  cases msg with
  | response => rfl
  | log pendingMsgs outerLength innerLength logType timestamp body =>
    rw [parseAll, GsmtapParser.parseAll, ← logToGsmtapAll_message]
    cases logToGsmtapAll body with
    | error e => rfl
    | ok frames => exact congrArg Except.ok (by simp [List.map_map, Function.comp_def])

/-- What is not marked as an LTE NAS frame is none. -/
theorem other_ne_lteNas {body : LogBody} {frames : List GsmtapMessage}
    (hbody : GsmtapFrames.nas4GMessage body = none)
    (h : GsmtapParser.logToGsmtapAll body = .ok frames) {m : GsmtapMessage} (hm : m ∈ frames)
    (subtype : LteNasSubtype) : m.header.gsmtapType ≠ .lteNas subtype := by
  intro htype
  obtain ⟨packet, -, hm⟩ | ⟨-, hsingle⟩ := GsmtapParser.mem_cases h hm
  · rw [(GsmtapParser.frame_of_transport hm).1] at htype
    cases htype
  · have hnas := (GsmtapParser.ofRecord_of_single hsingle).nas subtype htype
    cases body with
    | nas4GMessage => cases hbody
    | _ => cases hnas

end Rayhunter
