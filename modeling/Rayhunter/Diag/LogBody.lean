import Rayhunter.Diag.Measurements
import Rayhunter.Diag.Message

/-!
# The bodies of log records

`LogBody` (`lib/src/diag/diaglog/mod.rs`) with the records of the LTE radio protocols: RRC messages
(`rrc.rs`), what the MAC layer logs of transport blocks and of random access (`mac.rs`), and the
measurements of the physical layer, with what is read off each. What the record of its timing holds
is left out.
-/

namespace Rayhunter

/-! ## RRC messages -/

/-- `LteRrcOtaPacket` (`rrc.rs:7`): an RRC message, in the layouts of the versions of its header. -/
inductive LteRrcOtaPacket
  | v0 (rrcRelMaj rrcRelMin bearerId : UInt8) (phyCellId earfcn sfnSubfn : UInt16) (pduNum : UInt8)
    (len : UInt16) (packet : List UInt8)
  | v5 (rrcRelMaj rrcRelMin bearerId : UInt8) (phyCellId earfcn sfnSubfn : UInt16) (pduNum : UInt8)
    (sibMask : UInt32) (len : UInt16) (packet : List UInt8)
  | v8 (rrcRelMaj rrcRelMin bearerId : UInt8) (phyCellId : UInt16) (earfcn : UInt32)
    (sfnSubfn : UInt16) (pduNum : UInt8) (sibMask : UInt32) (len : UInt16) (packet : List UInt8)
  | v25 (rrcRelMaj rrcRelMin nrRrcRelMaj nrRrcRelMin bearerId : UInt8) (phyCellId : UInt16)
    (earfcn : UInt32) (sfnSubfn : UInt16) (pduNum : UInt8) (sibMask : UInt32) (len : UInt16)
    (packet : List UInt8)
  deriving DecidableEq, Repr

namespace LteRrcOtaPacket

/-- `get_sfn_subfn` (`rrc.rs:68`). -/
def getSfnSubfn : LteRrcOtaPacket → UInt16
  | v0 _ _ _ _ _ sfnSubfn _ _ _ => sfnSubfn
  | v5 _ _ _ _ _ sfnSubfn _ _ _ _ => sfnSubfn
  | v8 _ _ _ _ _ sfnSubfn _ _ _ _ => sfnSubfn
  | v25 _ _ _ _ _ _ _ sfnSubfn _ _ _ _ => sfnSubfn

/-- `get_sfn` (`rrc.rs:76`). -/
def getSfn (p : LteRrcOtaPacket) : UInt32 := p.getSfnSubfn.toUInt32 >>> 4

/-- `get_subfn` (`rrc.rs:80`). -/
def getSubfn (p : LteRrcOtaPacket) : UInt8 := (p.getSfnSubfn &&& 0xf).toUInt8

/-- `get_pdu_num` (`rrc.rs:84`). -/
def getPduNum : LteRrcOtaPacket → UInt8
  | v0 _ _ _ _ _ _ pduNum _ _ => pduNum
  | v5 _ _ _ _ _ _ pduNum _ _ _ => pduNum
  | v8 _ _ _ _ _ _ pduNum _ _ _ => pduNum
  | v25 _ _ _ _ _ _ _ _ pduNum _ _ _ => pduNum

/-- `get_earfcn` (`rrc.rs:93`). -/
def getEarfcn : LteRrcOtaPacket → UInt32
  | v0 _ _ _ _ earfcn _ _ _ _ => earfcn.toUInt32
  | v5 _ _ _ _ earfcn _ _ _ _ _ => earfcn.toUInt32
  | v8 _ _ _ _ earfcn _ _ _ _ _ => earfcn
  | v25 _ _ _ _ _ _ earfcn _ _ _ _ _ => earfcn

/-- `take_payload` (`rrc.rs:102`). -/
def takePayload : LteRrcOtaPacket → List UInt8
  | v0 _ _ _ _ _ _ _ _ packet => packet
  | v5 _ _ _ _ _ _ _ _ _ packet => packet
  | v8 _ _ _ _ _ _ _ _ _ packet => packet
  | v25 _ _ _ _ _ _ _ _ _ _ _ packet => packet

end LteRrcOtaPacket

/-! ## Transport blocks -/

/-- `DlBlock` (`mac.rs:71`): a downlink transport block. -/
inductive DlBlock
  | v2 (sfnSubfn : UInt16) (rntiType harqId : UInt8) (pmchId dlTbs : UInt16) (rlcPdus : UInt8)
    (padding : UInt16) (headerLen : UInt8) (macHeader : List UInt8)
  | v4 (subId cellId : UInt8) (sfnSubfn : UInt16) (rntiType harqId : UInt8) (pmchId dlTbs : UInt16)
    (rlcPdus : UInt8) (padding : UInt16) (headerLen : UInt8) (macHeader : List UInt8)
  deriving DecidableEq, Repr

namespace DlBlock

/-- `sfn_subfn` (`mac.rs:104`). -/
def sfnSubfn : DlBlock → UInt16
  | v2 sfnSubfn _ _ _ _ _ _ _ _ => sfnSubfn
  | v4 _ _ sfnSubfn _ _ _ _ _ _ _ _ => sfnSubfn

/-- `rnti_type` (`mac.rs:110`). -/
def rntiType : DlBlock → UInt8
  | v2 _ rntiType _ _ _ _ _ _ _ => rntiType
  | v4 _ _ _ rntiType _ _ _ _ _ _ _ => rntiType

/-- `mac_header` (`mac.rs:117`). -/
def macHeader : DlBlock → List UInt8
  | v2 _ _ _ _ _ _ _ _ macHeader => macHeader
  | v4 _ _ _ _ _ _ _ _ _ _ macHeader => macHeader

end DlBlock

/-- `UlBlock` (`mac.rs:136`): an uplink transport block. -/
inductive UlBlock
  | v1 (harqId rntiType : UInt8) (sfnSubfn grant : UInt16) (rlcPdus : UInt8) (padding : UInt16)
    (bsrEvent bsrTrig headerLen : UInt8) (macHeader : List UInt8)
  | v2 (subId cellId harqId rntiType : UInt8) (sfnSubfn grant : UInt16) (rlcPdus : UInt8)
    (padding : UInt16) (bsrEvent bsrTrig headerLen : UInt8) (macHeader : List UInt8)
  deriving DecidableEq, Repr

namespace UlBlock

/-- `sfn_subfn` (`mac.rs:170`). -/
def sfnSubfn : UlBlock → UInt16
  | v1 _ _ sfnSubfn _ _ _ _ _ _ _ => sfnSubfn
  | v2 _ _ _ _ sfnSubfn _ _ _ _ _ _ _ => sfnSubfn

/-- `rnti_type` (`mac.rs:176`). -/
def rntiType : UlBlock → UInt8
  | v1 _ rntiType _ _ _ _ _ _ _ _ => rntiType
  | v2 _ _ _ rntiType _ _ _ _ _ _ _ _ => rntiType

/-- `mac_header` (`mac.rs:182`). -/
def macHeader : UlBlock → List UInt8
  | v1 _ _ _ _ _ _ _ _ _ macHeader => macHeader
  | v2 _ _ _ _ _ _ _ _ _ _ _ macHeader => macHeader

end UlBlock

/-! ## Random access -/

/-- `AttemptHeader` (`mac.rs:330`). -/
inductive AttemptHeader
  | v2 (numAttempt rachResult contention msgBitmask : UInt8)
  | v3 (subId cellId numAttempt rachResult contention msgBitmask : UInt8)
  deriving DecidableEq, Repr

/-- `get_bitmask` (`mac.rs:350`). -/
def AttemptHeader.getBitmask : AttemptHeader → UInt8
  | v2 _ _ _ msgBitmask => msgBitmask
  | v3 _ _ _ _ _ msgBitmask => msgBitmask

/-- Whether the message of a bit of the mask is there: `has_msg1`, `has_msg2` and `has_msg3`
(`mac.rs:357`). -/
def AttemptHeader.has (header : AttemptHeader) (bit : UInt8) : Bool :=
  0 < header.getBitmask &&& bit

/-- `Msg1` (`mac.rs:247`): the preamble that was sent. -/
inductive Msg1
  | v2 (preambleIndex preambleIndexMask : UInt8) (preamblePowerOffset : Int16)
  | v3Or31 (preambleIndex preambleIndexMask : UInt8) (preamblePowerOffset : Int16)
  | v32 (preambleIndex preambleIndexMask : UInt8) (preamblePowerOffset : Int16) (unk1 : UInt16)
    (group : Int8)
  deriving DecidableEq, Repr

/-- `get_preamble_index` (`mac.rs:271`). -/
def Msg1.getPreambleIndex : Msg1 → UInt8
  | v2 preambleIndex _ _ => preambleIndex
  | v3Or31 preambleIndex _ _ => preambleIndex
  | v32 preambleIndex _ _ _ _ => preambleIndex

/-- `Msg2` (`mac.rs:281`): the response. -/
structure Msg2 where
  backoff : UInt16
  result : UInt8
  tcRnti : UInt16
  ta : UInt16
  deriving DecidableEq, Repr

/-- A grant as `map_grant` (`mac.rs:323`) leaves it: twenty bits. -/
structure Grant where
  value : UInt32
  lt : value.toNat < 2 ^ 20
  deriving DecidableEq, Repr

/-- `map_grant` (`mac.rs:323`). -/
def mapGrant (grant : UInt32) : Grant where
  value := grant &&& 0xfffff
  lt := by
    rw [UInt32.toNat_and]
    exact Nat.and_lt_two_pow _ (by decide)

/-- `Msg3Grant` (`mac.rs:309`). -/
inductive Msg3Grant
  | v1 (grant : Grant)
  | v32 (grant : Grant)
  deriving DecidableEq, Repr

/-- `Msg3` (`mac.rs:290`): what was sent in answer to the response. -/
structure Msg3 where
  grant : Msg3Grant
  unkGrant : UInt16
  harqId : UInt8
  macPdu : List UInt8
  deriving DecidableEq, Repr

/-- `get_grant` (`mac.rs:299`). -/
def Msg3.getGrant (m : Msg3) : Grant :=
  match m.grant with
  | .v1 grant => grant
  | .v32 grant => grant

/-- `AdditionalInfo` (`mac.rs:237`). -/
structure AdditionalInfo where
  ulEarfcn : UInt32
  pMax : UInt8
  scellId : UInt8
  unk1 : UInt32
  unk2 : UInt32
  deriving DecidableEq, Repr

/-- `rach::Attempt` (`mac.rs:196`). The messages are read through the header's mask. -/
structure Attempt where
  header : AttemptHeader
  msg1 : Msg1
  msg2 : Msg2
  msg3 : Msg3
  additionalInfo : Option AdditionalInfo
  deriving DecidableEq, Repr

namespace Attempt

/-- `get_msg1` (`mac.rs:211`). -/
def getMsg1 (a : Attempt) : Option Msg1 := if a.header.has 0x01 then some a.msg1 else none

/-- `get_msg2` (`mac.rs:219`). -/
def getMsg2 (a : Attempt) : Option Msg2 := if a.header.has 0x02 then some a.msg2 else none

/-- `get_msg3` (`mac.rs:227`). -/
def getMsg3 (a : Attempt) : Option Msg3 := if a.header.has 0x04 then some a.msg3 else none

end Attempt

/-! ## MAC packets -/

/-- `SubpacketBody` (`mac.rs:28`); the blocks are counted by `num_samples`. -/
inductive SubpacketBody
  | rachAttempt (attempt : Attempt)
  | dlTransportBlock (samples : List DlBlock)
  | ulTransportBlock (samples : List UlBlock)
  | other (data : List UInt8)
  deriving DecidableEq, Repr

/-- `Subpacket` (`mac.rs:17`). -/
structure Subpacket where
  id : UInt8
  version : UInt8
  size : UInt16
  body : SubpacketBody
  deriving DecidableEq, Repr

/-- `mac::Packet` (`mac.rs:8`), its subpackets counted by `num_subpackets`. -/
structure MacPacket where
  version : UInt8
  subpackets : List Subpacket
  deriving DecidableEq, Repr

/-! ## Bodies -/

/-- `Nas4GMessageDirection` (`diaglog/mod.rs:101`). -/
inductive Nas4GMessageDirection
  | downlink
  | uplink
  deriving DecidableEq, Repr

/-- `LogBody` (`diaglog/mod.rs:13`). -/
inductive LogBody
  | wcdmaSignallingMessage (channelType radioBearer : UInt8) (length : UInt16) (msg : List UInt8)
  | gsmRrSignallingMessage (channelType messageType length : UInt8) (msg : List UInt8)
  | gprsMacSignallingMessage (channelType messageType length : UInt8) (msg : List UInt8)
  | lteRrcOtaMessage (extHeaderVersion : UInt8) (packet : LteRrcOtaPacket)
  | nas4GMessage (logType : UInt16) (direction : Nas4GMessageDirection)
    (extHeaderVersion rrcRel rrcVersionMinor rrcVersionMajor : UInt8) (msg : List UInt8)
  | ipTraffic (msg : List UInt8)
  | umtsNasOtaMessage (isUplink : UInt8) (length : UInt32) (msg : List UInt8)
  | nrRrcOtaMessage (msg : List UInt8)
  | lteMl1ServingCellMeasurementAndEvaluation (data : MeasurementAndEvaluation)
  | lteMl1NeighborCellsMeasurements (data : Measurements)
  | lteMacRachResponse (packet : MacPacket)
  | lteMacDl (packet : MacPacket)
  | lteMacUl (packet : MacPacket)
  | lteLl1ServingCellTiming
  deriving DecidableEq, Repr

end Rayhunter
