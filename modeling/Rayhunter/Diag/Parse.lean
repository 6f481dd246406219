import Rayhunter.Diag.LogBody
import Rayhunter.Lib.BitReader

/-!
# Reading diag messages

What `deku` derives for `Message` (`lib/src/diag/mod.rs`) and for the bodies of log records
(`lib/src/diag/diaglog`), field by field, and `Message::from_hdlc` on top of it. A number has its low
byte first, and a field of some bits the low ones of what is left, so that all are taken off one
stream of bits. A value that no variant has, or that an assertion excludes, is refused; a difference
that the code takes without saturation is a fault where it is negative.
-/

namespace Rayhunter

open Reader

namespace Parse

/-! ## RRC messages -/

/-- `LteRrcOtaPacket` (`rrc.rs:7`), whose variant is that of the header's version. -/
def lteRrcOtaPacket (extHeaderVersion : UInt8) : Reader LteRrcOtaPacket :=
  if extHeaderVersion ≤ 4 then
    counted (.v0 <$> u8 <*> u8 <*> u8 <*> u16 <*> u16 <*> u16 <*> u8) u16 UInt16.toNat
  else if extHeaderVersion ≤ 7 then
    counted (.v5 <$> u8 <*> u8 <*> u8 <*> u16 <*> u16 <*> u16 <*> u8 <*> u32) u16 UInt16.toNat
  else if extHeaderVersion ≤ 24 then
    counted (.v8 <$> u8 <*> u8 <*> u8 <*> u16 <*> u32 <*> u16 <*> u8 <*> u32) u16 UInt16.toNat
  else
    counted (.v25 <$> u8 <*> u8 <*> u8 <*> u8 <*> u8 <*> u16 <*> u32 <*> u16 <*> u8 <*> u32) u16
      UInt16.toNat

/-! ## Random access -/

/-- `AttemptHeader` (`mac.rs:330`). -/
def attemptHeader (version : UInt8) : Reader AttemptHeader :=
  match version with
  | 0x02 => .v2 <$> u8 <*> u8 <*> u8 <*> u8
  | 0x03 | 0x31 | 0x32 => .v3 <$> u8 <*> u8 <*> u8 <*> u8 <*> u8 <*> u8
  | _ => stop .refused

/-- `Msg1` (`mac.rs:247`). -/
def msg1 (version : UInt8) : Reader Msg1 :=
  match version with
  | 0x02 => .v2 <$> u8 <*> u8 <*> UInt16.toInt16 <$> u16
  | 0x03 | 0x31 => .v3Or31 <$> u8 <*> u8 <*> UInt16.toInt16 <$> u16
  | 0x32 => .v32 <$> u8 <*> u8 <*> UInt16.toInt16 <$> u16 <*> u16 <*> UInt8.toInt8 <$> u8
  | _ => stop .refused

/-- `Msg2` (`mac.rs:281`). -/
def msg2 : Reader Msg2 := .mk <$> u16 <*> u8 <*> u16 <*> u16

/-- `Msg3Grant` (`mac.rs:309`), of which the later one has its high byte first. -/
def msg3Grant (version : UInt8) : Reader Msg3Grant :=
  if version < 0x32 then .v1 <$> mapGrant <$> u32
  else .v32 <$> mapGrant <$> u32be

/-- `Msg3` (`mac.rs:290`). -/
def msg3 (version : UInt8) : Reader Msg3 := .mk <$> msg3Grant version <*> u16 <*> u8 <*> bytes 10

/-- `AdditionalInfo` (`mac.rs:237`). -/
def additionalInfo : Reader AdditionalInfo := .mk <$> u32 <*> u8 <*> u8 <*> u32 <*> u32

/-- `rach::Attempt` (`mac.rs:196`). -/
def attempt (version : UInt8) : Reader Attempt :=
  .mk <$> attemptHeader version <*> msg1 version <*> msg2 <*> msg3 version <*>
    if version = 0x31 ∨ version = 0x32 then some <$> additionalInfo else pure none

/-! ## MAC packets -/

/-- `DlBlock` (`mac.rs:71`). -/
def dlBlock (version : UInt8) : Reader DlBlock :=
  match version with
  | 0x02 => counted (.v2 <$> u16 <*> u8 <*> u8 <*> u16 <*> u16 <*> u8 <*> u16) u8 UInt8.toNat
  | 0x04 => counted (.v4 <$> u8 <*> u8 <*> u16 <*> u8 <*> u8 <*> u16 <*> u16 <*> u8 <*> u16) u8
      UInt8.toNat
  | _ => stop .refused

/-- `UlBlock` (`mac.rs:136`). -/
def ulBlock (version : UInt8) : Reader UlBlock :=
  match version with
  | 0x01 => counted (.v1 <$> u8 <*> u8 <*> u16 <*> u16 <*> u8 <*> u16 <*> u8 <*> u8) u8 UInt8.toNat
  | 0x02 | 0x03 | 0x05 | 0x08 =>
    counted (.v2 <$> u8 <*> u8 <*> u8 <*> u8 <*> u16 <*> u16 <*> u8 <*> u16 <*> u8 <*> u8) u8
      UInt8.toNat
  | _ => stop .refused

/-- The blocks of `DlBlocks` and `UlBlocks` (`mac.rs:58`, `mac.rs:127`), after their number. -/
def samples {α : Type} (block : Reader α) : Reader (List α) := do
  let numSamples ← u8
  count block numSamples.toNat

/-- `SubpacketBody` (`mac.rs:28`). -/
def subpacketBody (id version : UInt8) (size : Nat) : Reader SubpacketBody :=
  match id with
  | 0x06 => .rachAttempt <$> attempt version
  | 0x07 => .dlTransportBlock <$> samples (dlBlock version)
  | 0x08 => .ulTransportBlock <$> samples (ulBlock version)
  | _ => .other <$> bytes size

/-- `Subpacket` (`mac.rs:17`), whose size includes its header. -/
def subpacket : Reader Subpacket := do
  let id ← u8
  let version ← u8
  let size ← u16
  -- `*size - 4`, where the other lengths saturate
  let bodySize ← sub size.toNat 4
  .mk id version size <$> subpacketBody id version bodySize

/-- `mac::Packet` (`mac.rs:8`). -/
def macPacket : Reader MacPacket := do
  let version ← u8
  check (version = 1)
  let numSubpackets ← u8
  pad 16
  .mk version <$> count subpacket numSubpackets.toNat

/-! ## Measurements -/

/-- A field of some bits, as a number of one byte, of two and of four. -/
def bits8 (width : Nat) : Reader UInt8 := UInt8.ofNat <$> Reader.bits width

@[inherit_doc bits8]
def bits16 (width : Nat) : Reader UInt16 := UInt16.ofNat <$> Reader.bits width

@[inherit_doc bits8]
def bits32 (width : Nat) : Reader UInt32 := UInt32.ofNat <$> Reader.bits width

/-- `MeasurementAndEvaluationHeader` (`ml1.rs:44`). -/
def measurementAndEvaluationHeader : Reader MeasurementAndEvaluationHeader := do
  let id ← u8
  match id with
  | 4 => .v4 <$> u8 <*> u16 <*> u16 <*> bits16 9 <*> bits8 7
  | 5 => .v5 <$> u8 <*> u16 <*> u32 <*> bits16 9 <*> padAfter (bits8 7) 16
  | _ => stop .refused

/-- `get_rrc_rel` (`ml1.rs:67`). -/
def getRrcRel : MeasurementAndEvaluationHeader → UInt8
  | .v4 rrcRel _ _ _ _ => rrcRel
  | .v5 rrcRel _ _ _ _ => rrcRel

/-- `MeasurementAndEvaluation` (`ml1.rs:26`). -/
def measurementAndEvaluation : Reader MeasurementAndEvaluation := do
  let header ← measurementAndEvaluationHeader
  .mk header <$> padAfter (bits16 12) 20 <*> padAfter (bits16 12) 20 <*> padAfter (bits16 10) 22 <*>
    padBefore 10 (padAfter (bits16 11) 11) <*> u32 <*> u32 <*>
    if getRrcRel header = 0x01 then some <$> u32 else pure none

-- the first measurement the source's tests decode, one of cell 214
example : measurementAndEvaluation.run (Bits.ofBytes
      [0x04, 0x01, 0x00, 0x00, 0x9C, 0x18, 0xD6, 0x0A, 0xEC, 0xC4, 0x4E, 0x00, 0xE2, 0x24, 0x4E, 0x00,
        0xFF, 0xFC, 0xE3, 0x0F, 0xFE, 0xD8, 0x0A, 0x00, 0x47, 0xAD, 0x56, 0x02, 0x1D, 0x31, 0x01, 0x00,
        0xA2, 0x62, 0x41, 0x00]) =
    .ok (⟨.v4 1 0 6300 214 5, 1260, 1250, 255, 694, 39234887, 78109, some 4285090⟩, []) := by
  decide +kernel

/-- `MeasurementsHeader` (`ml1.rs:130`). -/
def measurementsHeader : Reader MeasurementsHeader := do
  let id ← u8
  match id with
  | 4 => .v4 <$> u8 <*> u16 <*> u16 <*> bits8 6 <*> bits16 10
  | 5 => .v5 <$> u8 <*> u16 <*> u32 <*> bits8 6 <*> bits32 26
  | _ => stop .refused

/-- `get_n_cells` (`ml1.rs:163`). -/
def getNCells : MeasurementsHeader → Nat
  | .v4 _ _ _ _ nCells => nCells.toNat
  | .v5 _ _ _ _ nCells => nCells.toNat

/-- `MeasurementsCell` (`ml1.rs:188`). -/
def measurementsCell : Reader MeasurementsCell :=
  .mk <$> bits16 9 <*> bits16 11 <*> bits16 12 <*> padBefore 12 (padAfter (bits16 12) 8) <*>
    padBefore 12 (padAfter (bits16 10) 10) <*> padAfter (bits16 10) 10 <*> padAfter (bits8 6) 6 <*>
    u16 <*> u16 <*> u32 <*> u32 <*> u32

/-- `Measurements` (`ml1.rs:171`). -/
def measurements : Reader Measurements := do
  let header ← measurementsHeader
  .mk header <$> count measurementsCell (getNCells header)

/-- `TimingAdjustment` (`ll1.rs:34`). -/
def timingAdjustment : Reader (Int × Int × Int8) := do
  let dlFrameTimingAdjustment ← signed 11
  check (-512 ≤ dlFrameTimingAdjustment ∧ dlFrameTimingAdjustment ≤ 511)
  let ulFrameTimingAdjustment ← signed 5
  check (-16 ≤ ulFrameTimingAdjustment ∧ ulFrameTimingAdjustment ≤ 15)
  let timingAdvance ← UInt8.toInt8 <$> u8
  check (-128 ≤ timingAdvance ∧ timingAdvance ≤ 127)
  return (dlFrameTimingAdjustment, ulFrameTimingAdjustment, timingAdvance)

/-- `ServingCellTiming` (`ll1.rs:4`), of which the adjustments are kept. -/
def servingCellTiming : Reader (List (Int × Int × Int8)) := do
  let version ← u8
  check (version = 1)
  let numRecords ← Reader.bits 5
  check (1 ≤ numRecords ∧ numRecords ≤ 20)
  let startingSubFn ← Reader.bits 4
  check (startingSubFn ≤ 9)
  let startingSystemFn ← padAfter (Reader.bits 10) 5
  check (startingSystemFn ≤ 1023)
  let startingDlFrameTimingOffs ← padAfter (Reader.bits 19) 13
  check (startingDlFrameTimingOffs ≤ 307200)
  let startingUlFrameTimingOffs ← Reader.bits 19
  check (startingUlFrameTimingOffs ≤ 307200)
  let _startingUlTimingAdvance ← padAfter (Reader.bits 11) 2
  count timingAdjustment numRecords

/-! ## Bodies -/

/-- `Nas4GMessageDirection` (`diaglog/mod.rs:101`). -/
def nas4GMessageDirection (logType : UInt16) : Reader Nas4GMessageDirection :=
  match logType with
  | 0xb0e2 | 0xb0ec => pure .downlink
  | 0xb0e3 | 0xb0ed => pure .uplink
  | _ => stop .refused

/-- `LogBody` (`diaglog/mod.rs:13`), whose variant is that of the record's type; `hdrLen` is its
length after the headers. -/
def logBody (logType : UInt16) (hdrLen : Nat) : Reader LogBody :=
  match logType with
  | 0x412f => counted (.wcdmaSignallingMessage <$> u8 <*> u8) u16 UInt16.toNat
  | 0x512f => counted (.gsmRrSignallingMessage <$> u8 <*> u8) u8 UInt8.toNat
  | 0x5226 => counted (.gprsMacSignallingMessage <$> u8 <*> u8) u8 UInt8.toNat
  | 0xb0c0 => do
    let extHeaderVersion ← u8
    .lteRrcOtaMessage extHeaderVersion <$> lteRrcOtaPacket extHeaderVersion
  | 0xb0e2 | 0xb0e3 | 0xb0ec | 0xb0ed =>
    .nas4GMessage logType <$> nas4GMessageDirection logType <*> u8 <*> u8 <*> u8 <*> u8 <*>
      bytes (hdrLen - 4)
  | 0x11eb => .ipTraffic <$> bytes (hdrLen - 8)
  | 0x713a => counted (.umtsNasOtaMessage <$> u8) u32 UInt32.toNat
  | 0xb821 => .nrRrcOtaMessage <$> bytes hdrLen
  | 0xb17f => .lteMl1ServingCellMeasurementAndEvaluation <$> measurementAndEvaluation
  | 0xb180 => .lteMl1NeighborCellsMeasurements <$> measurements
  | 0xb062 => .lteMacRachResponse <$> macPacket
  | 0xb063 => .lteMacDl <$> macPacket
  | 0xb064 => .lteMacUl <$> macPacket
  | 0xb114 => (fun _ => .lteLl1ServingCellTiming) <$> servingCellTiming
  | _ => stop .refused

/-! ## Messages -/

/-- `LogConfigResponse` (`diag/mod.rs:171`). -/
def logConfigResponse (subopcode : UInt32) : Reader LogConfigResponse :=
  match subopcode with
  | 1 => .retrieveIdRanges <$> count u32 16
  | 3 => pure .setMask
  | _ => stop .refused

/-- `ResponsePayload` (`diag/mod.rs:164`). -/
def responsePayload (opcode : Nat) (subopcode : UInt32) : Reader LogConfigResponse :=
  if opcode = 115 then logConfigResponse subopcode else stop .refused

/-- `Message::Response` (`diag/mod.rs:128`), whose first opcode is the message's id. -/
def response (opcode1 : UInt8) : Reader (Message LogBody) := do
  let opcode2 ← u8
  let opcode3 ← u8
  let opcode4 ← u8
  let subopcode ← u32
  let status ← u32
  .response opcode1 opcode2 opcode3 opcode4 subopcode status <$>
    responsePayload (fromLe [opcode1, opcode2, opcode3, opcode4]) subopcode

/-- `Message::Log` (`diag/mod.rs:115`). -/
def logRecord : Reader (Message LogBody) := do
  let pendingMsgs ← u8
  let outerLength ← u16
  let innerLength ← u16
  let logType ← u16
  let timestamp ← Timestamp.mk <$> u64
  .log pendingMsgs outerLength innerLength logType timestamp <$>
    logBody logType (innerLength.toNat - 12)

/-- `Message` (`diag/mod.rs:112`). -/
def message : Reader (Message LogBody) := do
  let id ← u8
  if id = 16 then logRecord else response id

end Parse

deriving instance DecidableEq for Message

/-- `Message::from_bytes`, with the bits it leaves over. -/
def Message.read (data : List UInt8) : Except Stop (Message LogBody × List Bool) :=
  Parse.message.run (Bits.ofBytes data)

/-! ## Frames -/

/-- `hdlc_decapsulate` (`hdlc.rs:56`), with nothing where it indexes out of range. -/
def hdlcDecapsulate? (data : List UInt8) : Option (Except HdlcError (List UInt8)) :=
  if data.length < 3 then some (.error .tooShort)
  else if data.length < 1 then none
  else do
    let last ← data[data.length - 1]?
    if last ≠ MESSAGE_TERMINATOR then return .error (.noTrailingCharacter last)
    let body ← if data.length - 1 ≤ data.length then some (data.take (data.length - 1)) else none
    match unescape false body with
    | .error e => return .error e
    | .ok unescaped => return takeChecksum unescaped

/-- `DiagParsingError` (`diag/mod.rs:62`). -/
inductive ParsingError
  | messageParsingError (e : Stop) (data : List UInt8)
  | hdlcDecapsulationError (e : HdlcError) (data : List UInt8)
  deriving DecidableEq, Repr

/-- `Message::from_hdlc` (`diag/mod.rs:143`), with nothing where it panics. -/
def Message.fromHdlc? (data : List UInt8) : Option (Except ParsingError (Message LogBody)) := do
  match ← hdlcDecapsulate? data with
  | .error e => return .error (.hdlcDecapsulationError e data)
  | .ok data =>
    match Message.read data with
    | .ok (res, _) => return .ok res
    | .error .fault => none
    | .error e => return .error (.messageParsingError e data)

end Rayhunter
