import Rayhunter.Diag.Hdlc
import Rayhunter.External
import Rayhunter.Lib.Chunks

/-!
# Diag messages and their containers

`Message`, `MessagesContainer` and the reading of messages out of a container, from
`lib/src/diag/mod.rs`. The bodies of log records and the decoder `deku` derives for a message are
parameters (`Decoders`), and so are the two decoders the analysis applies to a message after that:
`gsmtap_parser::parse` and the conversion to an `InformationElement`.
-/

namespace Rayhunter

/-- `DataType` (`diag/mod.rs:54`). -/
inductive DataType
  | userSpace
  | other (id : UInt32)
  deriving DecidableEq, Repr

/-- `HdlcEncapsulatedMessage` (`diag/mod.rs:104`). -/
structure HdlcEncapsulatedMessage where
  len : UInt32
  data : List UInt8
  deriving DecidableEq, Repr

/-- `MessagesContainer` (`diag/mod.rs:84`). -/
structure MessagesContainer where
  dataType : DataType
  numMessages : UInt32
  messages : List HdlcEncapsulatedMessage
  deriving DecidableEq, Repr

/-- `Timestamp` (`diag/diaglog/mod.rs:114`). -/
structure Timestamp where
  ts : UInt64
  deriving DecidableEq, Repr

/-- `LogConfigResponse` (`diag/mod.rs:171`), the one `ResponsePayload`. -/
inductive LogConfigResponse
  | retrieveIdRanges (logMaskSizes : List UInt32)
  | setMask
  deriving DecidableEq, Repr

/-- `Message` (`diag/mod.rs:112`) over the type of log bodies. -/
inductive Message (LogBody : Type)
  | log (pendingMsgs : UInt8) (outerLength innerLength logType : UInt16) (timestamp : Timestamp)
      (body : LogBody)
  | response (opcode1 opcode2 opcode3 opcode4 : UInt8) (subopcode status : UInt32)
      (payload : LogConfigResponse)

/-- The decoders a diag message goes through, each with the text its error is shown as: the
derived `Message::from_bytes`, which also returns the bytes it leaves over, `Timestamp::to_datetime`,
which computes in floating point, `gsmtap_parser::parse` and `InformationElement::try_from`. -/
class Decoders where
  LogBody : Type
  DekuError : Type
  fromBytes : List UInt8 → Except DekuError (List UInt8 × Message LogBody)
  debugDekuError : DekuError → List UInt8 → String
  debugHdlcError : HdlcError → List UInt8 → String
  toDatetime : Timestamp → DateTime
  GsmtapMessage : Type
  ParserError : Type
  parse : Message LogBody → Except ParserError (Option (Timestamp × GsmtapMessage))
  debugParserError : ParserError → String
  InformationElement : Type
  InformationElementError : Type
  tryFrom : GsmtapMessage → Except InformationElementError InformationElement
  isDeliberatelyUnanalysed : InformationElementError → Bool
  debugInformationElementError : InformationElementError → String

/-! ## Decoders for NAS records -/

/-- A number given low byte first. -/
def fromLe (bytes : List UInt8) : Nat := bytes.foldr (fun b n => b.toNat + 256 * n) 0

/-- `Timestamp::to_datetime` (`diaglog/mod.rs:119`) in whole milliseconds from the GPS epoch, where
the floating point of the source is exact. -/
def Timestamp.toDatetime (t : Timestamp) : DateTime :=
  let millis := (t.ts.toNat / 65536 * 51200 + t.ts.toNat % 65536) / 40960
  ⟨(315964800000 + millis) * 1000000, 0⟩

/-- `LOG_TYPE_EMM_NAS_DOWNLINK` (`demo.rs:28`). -/
def LOG_TYPE_EMM_NAS_DOWNLINK : UInt16 := 0xb0ec

/-- A log record with an EMM NAS message: the header, and the message after the four version bytes
of its body. -/
def nasRecord : List UInt8 → Option (List UInt8 × Message (List UInt8))
  | 16 :: pending :: o₀ :: o₁ :: i₀ :: i₁ :: t₀ :: t₁ :: rest =>
    let inner := fromLe [i₀, i₁]
    let logType := UInt16.ofNat (fromLe [t₀, t₁])
    let body := (rest.drop 8).take (inner - 12)
    if logType = LOG_TYPE_EMM_NAS_DOWNLINK ∧ body.length = inner - 12 ∧ 4 ≤ body.length then
      some (rest.drop (8 + (inner - 12)),
        .log pending (UInt16.ofNat (fromLe [o₀, o₁])) (UInt16.ofNat inner) logType
          ⟨UInt64.ofNat (fromLe (rest.take 8))⟩ (body.drop 4))
    else none
  | _ => none

/-- Decoders that take EMM NAS messages from the network and nothing else; an element is the
message's bytes. -/
@[reducible] def nasDecoders : Decoders where
  LogBody := List UInt8
  DekuError := String
  fromBytes data :=
    match nasRecord data with
    | some r => .ok r
    | none => .error "no NAS record"
  debugDekuError e data := s!"MessageParsingError({e}, {data.map (·.toNat)})"
  debugHdlcError _ data := s!"HdlcDecapsulationError({data.map (·.toNat)})"
  toDatetime := Timestamp.toDatetime
  GsmtapMessage := List UInt8
  ParserError := Empty
  parse
    | .log _ _ _ _ timestamp msg => .ok (some (timestamp, msg))
    | .response .. => .ok none
  debugParserError e := e.elim
  InformationElement := List UInt8
  InformationElementError := Empty
  tryFrom := .ok
  isDeliberatelyUnanalysed e := e.elim
  debugInformationElementError e := e.elim

variable [Decoders]

/-- `DiagParsingError` (`diag/mod.rs:62`). -/
inductive DiagParsingError
  | messageParsingError (e : Decoders.DekuError) (data : List UInt8)
  | hdlcDecapsulationError (e : HdlcError) (data : List UInt8)

/-- One item of a message stream. -/
abbrev MessageItem := Except DiagParsingError (Message Decoders.LogBody)

/-- `Message::from_hdlc` (`diag/mod.rs:143`). -/
def Message.fromHdlc (data : List UInt8) : MessageItem :=
  match hdlcDecapsulate data with
  | .ok data =>
    match Decoders.fromBytes data with
    | .ok (_, res) => .ok res
    | .error e => .error (.messageParsingError e data)
  | .error e => .error (.hdlcDecapsulationError e data)

/-- Whether a byte ends a message. -/
def isTerminator (b : UInt8) : Bool := b == MESSAGE_TERMINATOR

/-- `MessagesContainer::messages` (`diag/mod.rs:92`). -/
def MessagesContainer.items (container : MessagesContainer) : List MessageItem :=
  container.messages.flatMap fun msg =>
    (Chunks.splitInclusive isTerminator msg.data).map Message.fromHdlc

/-- The bytes of a container's messages, one after the other. -/
def MessagesContainer.bytes (container : MessagesContainer) : List UInt8 :=
  (container.messages.map (·.data)).flatten

/-- The timestamp of a log record. -/
def Message.timestamp? {LogBody : Type} : Message LogBody → Option Timestamp
  | .log _ _ _ _ timestamp _ => some timestamp
  | .response .. => none

/-- The latest packet timestamp of a container in whole seconds, as the recorder takes it from the
container's messages (`diag.rs:783`). -/
def MessagesContainer.latestTimestamp (container : MessagesContainer) : Option Int :=
  (container.items.filterMap fun
    | .ok message => message.timestamp?.map fun t => (Decoders.toDatetime t).timestamp
    | .error _ => none).max?

end Rayhunter
