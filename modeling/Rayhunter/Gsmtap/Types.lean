import Mathlib.Data.List.Nodup
import Rayhunter.Lib.BitFields

/-!
# GSMTAP messages

The types of `lib/src/gsmtap/mod.rs`: what kind of message a frame holds, with the two numbers that
say so in the frame, and the header that carries them. A header as it is built can be written, in
sixteen bytes with those numbers in places of their own (`GsmtapHeader.WellFormed.toBytes`), and they
read back as the kind they came from (`GsmtapType.new_getType`).
-/

namespace Rayhunter

/-! ## Subtypes -/

/-- The number of a subtype, which is its place among all of its kind. -/
def subtypeNumber {α : Type} [DecidableEq α] (all : List α) (subtype : α) : UInt8 :=
  UInt8.ofNat (all.idxOf subtype)

/-- The subtype with a number, where there is one. -/
def subtypeWithNumber {α : Type} (all : List α) (number : UInt8) : Option α := all[number.toNat]?

theorem subtypeWithNumber_subtypeNumber {α : Type} [DecidableEq α] {all : List α} {subtype : α}
    (h : subtype ∈ all) (hlen : all.length ≤ 256) :
    subtypeWithNumber all (subtypeNumber all subtype) = some subtype := by
  have hlt : all.idxOf subtype < all.length := List.idxOf_lt_length_of_mem h
  rw [subtypeWithNumber, subtypeNumber, UInt8.toNat_ofNat_of_lt' (hlt.trans_le hlen),
    List.getElem?_eq_getElem hlt, List.getElem_idxOf hlt]

/-- `LteNasSubtype` (`gsmtap/mod.rs:38`), numbered from zero in this order. -/
inductive LteNasSubtype
  | plain | secure
  deriving DecidableEq, Repr

/-- Every `LteNasSubtype`, in order. -/
def LteNasSubtype.ALL : List LteNasSubtype :=
  [.plain, .secure]

/-- `UmSubtype` (`gsmtap/mod.rs:45`), numbered from zero in this order. -/
inductive UmSubtype
  | unknown | bcch | ccch | rach | agch | pch | sdcch | sdcch4 | sdcch8 | tchF | tchH | pacch
  | cbch52 | pdch | ptcch | cbch51
  deriving DecidableEq, Repr

/-- Every `UmSubtype`, in order. -/
def UmSubtype.ALL : List UmSubtype :=
  [.unknown, .bcch, .ccch, .rach, .agch, .pch, .sdcch, .sdcch4, .sdcch8, .tchF, .tchH, .pacch,
  .cbch52, .pdch, .ptcch, .cbch51]

/-- `UmtsRrcSubtype` (`gsmtap/mod.rs:66`), numbered from zero in this order. -/
inductive UmtsRrcSubtype
  | dlDcch | ulDcch | dlCcch | ulCcch | pcch | dlShcch | ulShcch | bcchFach | bcchBch | mcch
  | msch | handoverToUtranCommand | interRatHandoverInfo | systemInformationBch
  | systemInformationContainer | ueRadioAccessCapabilityInfo | masterInformationBlock
  | sysInfoType1 | sysInfoType2 | sysInfoType3 | sysInfoType4 | sysInfoType5 | sysInfoType5bis
  | sysInfoType6 | sysInfoType7 | sysInfoType8 | sysInfoType9 | sysInfoType10 | sysInfoType11
  | sysInfoType11bis | sysInfoType12 | sysInfoType13 | sysInfoType13_1 | sysInfoType13_2
  | sysInfoType13_3 | sysInfoType13_4 | sysInfoType14 | sysInfoType15 | sysInfoType15bis
  | sysInfoType15_1 | sysInfoType15_1bis | sysInfoType15_2 | sysInfoType15_2bis
  | sysInfoType15_2ter | sysInfoType15_3 | sysInfoType15_3bis | sysInfoType15_4
  | sysInfoType15_5 | sysInfoType15_6 | sysInfoType15_7 | sysInfoType15_8 | sysInfoType16
  | sysInfoType17 | sysInfoType18 | sysInfoType19 | sysInfoType20 | sysInfoType21
  | sysInfoType22 | sysInfoTypeSb1 | sysInfoTypeSb2 | toTargetRncContainer
  | targetRncToSourceRncContainer
  deriving DecidableEq, Repr

/-- Every `UmtsRrcSubtype`, in order. -/
def UmtsRrcSubtype.ALL : List UmtsRrcSubtype :=
  [.dlDcch, .ulDcch, .dlCcch, .ulCcch, .pcch, .dlShcch, .ulShcch, .bcchFach, .bcchBch, .mcch,
  .msch, .handoverToUtranCommand, .interRatHandoverInfo, .systemInformationBch,
  .systemInformationContainer, .ueRadioAccessCapabilityInfo, .masterInformationBlock,
  .sysInfoType1, .sysInfoType2, .sysInfoType3, .sysInfoType4, .sysInfoType5, .sysInfoType5bis,
  .sysInfoType6, .sysInfoType7, .sysInfoType8, .sysInfoType9, .sysInfoType10, .sysInfoType11,
  .sysInfoType11bis, .sysInfoType12, .sysInfoType13, .sysInfoType13_1, .sysInfoType13_2,
  .sysInfoType13_3, .sysInfoType13_4, .sysInfoType14, .sysInfoType15, .sysInfoType15bis,
  .sysInfoType15_1, .sysInfoType15_1bis, .sysInfoType15_2, .sysInfoType15_2bis,
  .sysInfoType15_2ter, .sysInfoType15_3, .sysInfoType15_3bis, .sysInfoType15_4,
  .sysInfoType15_5, .sysInfoType15_6, .sysInfoType15_7, .sysInfoType15_8, .sysInfoType16,
  .sysInfoType17, .sysInfoType18, .sysInfoType19, .sysInfoType20, .sysInfoType21,
  .sysInfoType22, .sysInfoTypeSb1, .sysInfoTypeSb2, .toTargetRncContainer,
  .targetRncToSourceRncContainer]

/-- `LteRrcSubtype` (`gsmtap/mod.rs:133`), numbered from zero in this order. -/
inductive LteRrcSubtype
  | dlCcch | dlDcch | ulCcch | ulDcch | bcchBch | bcchDlSch | pcch | mcch | bcchBchMbms
  | bcchDlSchBr | bcchDlSchMbms | scMcch | sbcchSlBch | sbcchSlBchV2x | dlCcchNb | dlDcchNb
  | ulCcchNb | ulDcchNb | bcchBchNb | bcchBchTddNb | bcchDlSchNb | pcchNb | scMcchNb
  deriving DecidableEq, Repr

/-- Every `LteRrcSubtype`, in order. -/
def LteRrcSubtype.ALL : List LteRrcSubtype :=
  [.dlCcch, .dlDcch, .ulCcch, .ulDcch, .bcchBch, .bcchDlSch, .pcch, .mcch, .bcchBchMbms,
  .bcchDlSchBr, .bcchDlSchMbms, .scMcch, .sbcchSlBch, .sbcchSlBchV2x, .dlCcchNb, .dlDcchNb,
  .ulCcchNb, .ulDcchNb, .bcchBchNb, .bcchBchTddNb, .bcchDlSchNb, .pcchNb, .scMcchNb]

/-! ## Types -/

/-- `GsmtapType` (`gsmtap/mod.rs:12`). -/
inductive GsmtapType
  | um (subtype : UmSubtype)
  | abis
  | umBurst
  | sim
  | tetraI1
  | tetraI1Burst
  | wmxBurst
  | gbLlc
  | gbSndcp
  | gmr1Um
  | umtsRlcMac
  | umtsRrc (subtype : UmtsRrcSubtype)
  | lteRrc (subtype : LteRrcSubtype)
  | lteMac
  | lteMacFramed
  | osmocoreLog
  | qcDiag
  | lteNas (subtype : LteNasSubtype)
  | e1T1
  | gsmRlp
  deriving DecidableEq, Repr

/-- `GsmtapTypeError` (`gsmtap/mod.rs:160`). -/
inductive GsmtapTypeError
  | invalidTypeSubtypeCombo (gsmtapType gsmtapSubtype : UInt8)
  deriving DecidableEq, Repr

namespace GsmtapType

/-- `GsmtapType::new` (`gsmtap/mod.rs:165`). -/
def new (gsmtapType gsmtapSubtype : UInt8) : Except GsmtapTypeError GsmtapType :=
  let maybeResult : Option GsmtapType := match gsmtapType with
    | 0x01 => (subtypeWithNumber UmSubtype.ALL gsmtapSubtype).map um
    | 0x02 => some abis
    | 0x03 => some umBurst
    | 0x04 => some sim
    | 0x05 => some tetraI1
    | 0x06 => some tetraI1Burst
    | 0x07 => some wmxBurst
    | 0x08 => some gbLlc
    | 0x09 => some gbSndcp
    | 0x0a => some gmr1Um
    | 0x0b => some umtsRlcMac
    | 0x0c => (subtypeWithNumber UmtsRrcSubtype.ALL gsmtapSubtype).map umtsRrc
    | 0x0d => (subtypeWithNumber LteRrcSubtype.ALL gsmtapSubtype).map lteRrc
    | 0x0e => some lteMac
    | 0x0f => some lteMacFramed
    | 0x10 => some osmocoreLog
    | 0x11 => some qcDiag
    | 0x12 => (subtypeWithNumber LteNasSubtype.ALL gsmtapSubtype).map lteNas
    | 0x13 => some e1T1
    | 0x14 => some gsmRlp
    | _ => none
  match maybeResult with
  | some result => .ok result
  | none => .error (.invalidTypeSubtypeCombo gsmtapType gsmtapSubtype)

/-- `get_type` (`gsmtap/mod.rs:210`). -/
def getType : GsmtapType → UInt8
  | um _ => 0x01
  | abis => 0x02
  | umBurst => 0x03
  | sim => 0x04
  | tetraI1 => 0x05
  | tetraI1Burst => 0x06
  | wmxBurst => 0x07
  | gbLlc => 0x08
  | gbSndcp => 0x09
  | gmr1Um => 0x0a
  | umtsRlcMac => 0x0b
  | umtsRrc _ => 0x0c
  | lteRrc _ => 0x0d
  | lteMac => 0x0e
  | lteMacFramed => 0x0f
  | osmocoreLog => 0x10
  | qcDiag => 0x11
  | lteNas _ => 0x12
  | e1T1 => 0x13
  | gsmRlp => 0x14

/-- `get_subtype` (`gsmtap/mod.rs:235`). -/
def getSubtype : GsmtapType → UInt8
  | um subtype => subtypeNumber UmSubtype.ALL subtype
  | umtsRrc subtype => subtypeNumber UmtsRrcSubtype.ALL subtype
  | lteRrc subtype => subtypeNumber LteRrcSubtype.ALL subtype
  | lteNas subtype => subtypeNumber LteNasSubtype.ALL subtype
  | _ => 0

/-- The two numbers of a type are read back as the type. -/
theorem new_getType (t : GsmtapType) : new t.getType t.getSubtype = .ok t := by
  cases t with
  | um s =>
    have hs : s ∈ UmSubtype.ALL := by cases s <;> decide
    simp only [new, getType, getSubtype, subtypeWithNumber_subtypeNumber hs (by decide),
      Option.map_some]
  | umtsRrc s =>
    have hs : s ∈ UmtsRrcSubtype.ALL := by cases s <;> decide
    simp only [new, getType, getSubtype, subtypeWithNumber_subtypeNumber hs (by decide),
      Option.map_some]
  | lteRrc s =>
    have hs : s ∈ LteRrcSubtype.ALL := by cases s <;> decide
    simp only [new, getType, getSubtype, subtypeWithNumber_subtypeNumber hs (by decide),
      Option.map_some]
  | lteNas s =>
    have hs : s ∈ LteNasSubtype.ALL := by cases s <;> decide
    simp only [new, getType, getSubtype, subtypeWithNumber_subtypeNumber hs (by decide),
      Option.map_some]
  | _ => rfl

end GsmtapType

/-! ## Headers -/

/-- What `deku` refuses to write: a field that is not what it is asserted to be, and a value that is
larger than its bits. -/
inductive DekuWriteError
  | assertion (field : String)
  | tooLarge (value bits : Nat)
  deriving DecidableEq, Repr

/-- The text `deku` shows such an error as. -/
class Deku where
  debugError : DekuWriteError → String

/-- Fields as `deku` writes them. -/
def writeFields (fields : List BitFields.Field) : Except DekuWriteError (List UInt8) :=
  match BitFields.write fields with
  | .error f => .error (.tooLarge f.value f.width)
  | .ok bytes => .ok bytes

theorem writeFields_of_fits {fields : List BitFields.Field} (h : ∀ f ∈ fields, f.Fits) :
    writeFields fields = .ok (BitFields.toBytes fields) := by
  rw [writeFields, BitFields.write_of_fits h]

/-- `GsmtapHeader` (`gsmtap/mod.rs:248`). -/
structure GsmtapHeader where
  gsmtapType : GsmtapType
  version : UInt8
  headerLen : UInt8
  packetType : UInt8
  timeslot : UInt8
  pcsBandIndicator : Bool
  uplink : Bool
  arfcn : UInt16
  signalDbm : Int8
  signalNoiseRatioDb : UInt8
  frameNumber : UInt32
  subtype : UInt8
  antennaNumber : UInt8
  subslot : UInt8
  reserved : UInt8
  deriving DecidableEq, Repr

namespace GsmtapHeader

/-- `GsmtapHeader::new` (`gsmtap/mod.rs:277`). -/
def new (gsmtapType : GsmtapType) : GsmtapHeader where
  gsmtapType
  version := 2
  headerLen := 4
  packetType := gsmtapType.getType
  timeslot := 0
  pcsBandIndicator := false
  uplink := false
  arfcn := 0
  signalDbm := 0
  signalNoiseRatioDb := 0
  frameNumber := 0
  subtype := gsmtapType.getSubtype
  antennaNumber := 0
  subslot := 0
  reserved := 0

/-- The fields that are written; the first is not. -/
def fields (h : GsmtapHeader) : List BitFields.Field :=
  [BitFields.byte h.version, BitFields.byte h.headerLen, BitFields.byte h.packetType,
    BitFields.byte h.timeslot, BitFields.bit h.pcsBandIndicator, BitFields.bit h.uplink,
    ⟨14, h.arfcn.toNat⟩, BitFields.byte h.signalDbm.toUInt8, BitFields.byte h.signalNoiseRatioDb,
    ⟨32, h.frameNumber.toNat⟩, BitFields.byte h.subtype, BitFields.byte h.antennaNumber,
    BitFields.byte h.subslot, BitFields.byte h.reserved]

/-- `to_bytes` as `deku` derives it (`gsmtap/mod.rs:246`). -/
def toBytes (h : GsmtapHeader) : Except DekuWriteError (List UInt8) :=
  if h.version ≠ 2 then .error (.assertion "version")
  else if h.headerLen ≠ 4 then .error (.assertion "header_len")
  else
    match writeFields h.fields with
    | .error e => .error e
    | .ok bytes => if h.reserved ≠ 0 then .error (.assertion "reserved") else .ok bytes

/-- A header as it is built for a type: the asserted fields are right, the numbers are those of the
type, and the channel number has been cut to its bits. -/
structure WellFormed (h : GsmtapHeader) : Prop where
  version : h.version = 2
  headerLen : h.headerLen = 4
  reserved : h.reserved = 0
  packetType : h.packetType = h.gsmtapType.getType
  subtype : h.subtype = h.gsmtapType.getSubtype
  arfcn : h.arfcn.toNat < 2 ^ 14

theorem new_wellFormed (t : GsmtapType) : (new t).WellFormed where
  version := rfl
  headerLen := rfl
  reserved := rfl
  packetType := rfl
  subtype := rfl
  arfcn := by show (0 : UInt16).toNat < 2 ^ 14; decide

/-- The direction is free. -/
theorem WellFormed.setUplink {h : GsmtapHeader} (hw : h.WellFormed) (uplink : Bool) :
    ({ h with uplink := uplink } : GsmtapHeader).WellFormed :=
  ⟨hw.version, hw.headerLen, hw.reserved, hw.packetType, hw.subtype, hw.arfcn⟩

/-- A channel number is cut to its bits; the frame and the subframe are free. -/
theorem WellFormed.setChannel {h : GsmtapHeader} (hw : h.WellFormed) (arfcn : UInt16)
    (frameNumber : UInt32) (subslot : UInt8) :
    ({ h with arfcn := arfcn &&& 0x3FFF, frameNumber, subslot } : GsmtapHeader).WellFormed := by
  refine ⟨hw.version, hw.headerLen, hw.reserved, hw.packetType, hw.subtype, ?_⟩
  rw [UInt16.toNat_and]
  exact Nat.and_lt_two_pow _ (by decide)

theorem fields_fit {h : GsmtapHeader} (ha : h.arfcn.toNat < 2 ^ 14) :
    ∀ f ∈ h.fields, f.Fits := by
  have hframe : h.frameNumber.toNat < 2 ^ 32 := h.frameNumber.toNat_lt
  simp only [fields, List.forall_mem_cons, BitFields.byte_fits, BitFields.bit_fits, true_and]
  exact ⟨ha, hframe, List.forall_mem_nil _⟩

/-- The bytes of a header, of which all but the channel and the frame number are fields. -/
theorem toBytes_fields {h : GsmtapHeader} (ha : h.arfcn.toNat < 2 ^ 14) :
    BitFields.toBytes h.fields =
      [h.version, h.headerLen, h.packetType, h.timeslot] ++
        BitFields.toBytes
          [BitFields.bit h.pcsBandIndicator, BitFields.bit h.uplink, ⟨14, h.arfcn.toNat⟩] ++
        [h.signalDbm.toUInt8, h.signalNoiseRatioDb] ++
        BitFields.toBytes [⟨32, h.frameNumber.toNat⟩] ++
        [h.subtype, h.antennaNumber, h.subslot, h.reserved] := by
  have hsplit : h.fields =
      [h.version, h.headerLen, h.packetType, h.timeslot].map BitFields.byte ++
        ([BitFields.bit h.pcsBandIndicator, BitFields.bit h.uplink, ⟨14, h.arfcn.toNat⟩] ++
          ([h.signalDbm.toUInt8, h.signalNoiseRatioDb].map BitFields.byte ++
            ([⟨32, h.frameNumber.toNat⟩] ++
              ([h.subtype, h.antennaNumber, h.subslot, h.reserved].map BitFields.byte ++
                [])))) := rfl
  have hfit := fields_fit ha
  rw [hsplit] at hfit ⊢
  obtain ⟨-, hchannel⟩ := List.forall_mem_append.1 hfit
  obtain ⟨-, hpower⟩ := List.forall_mem_append.1 hchannel
  obtain ⟨-, hframe⟩ := List.forall_mem_append.1 hpower
  obtain ⟨-, hlast⟩ := List.forall_mem_append.1 hframe
  rw [BitFields.toBytes_bytes _ ⟨12, rfl⟩ hchannel,
    BitFields.toBytes_append ⟨2, rfl⟩ ⟨10, rfl⟩ hpower,
    BitFields.toBytes_bytes _ ⟨8, rfl⟩ hframe,
    BitFields.toBytes_append ⟨4, rfl⟩ ⟨4, rfl⟩ hlast,
    BitFields.toBytes_bytes _ ⟨0, rfl⟩ (by simp)]
  simp only [List.append_assoc]
  rfl

/-- A well-formed header is written in sixteen bytes, the third the type and the thirteenth the
subtype. -/
theorem WellFormed.toBytes {h : GsmtapHeader} (hw : h.WellFormed) :
    ∃ bytes, h.toBytes = .ok bytes ∧ bytes.length = 16 ∧
      bytes[2]? = some h.gsmtapType.getType ∧ bytes[12]? = some h.gsmtapType.getSubtype := by
  have hfields := toBytes_fields hw.arfcn
  have hwrite : h.toBytes = .ok (BitFields.toBytes h.fields) := by
    rw [GsmtapHeader.toBytes, if_neg (not_not.2 hw.version), if_neg (not_not.2 hw.headerLen),
      writeFields_of_fits (fields_fit hw.arfcn)]
    exact if_neg (not_not.2 hw.reserved)
  have hwidth : BitFields.width h.fields = 128 := rfl
  refine ⟨_, hwrite, by rw [BitFields.length_toBytes, hwidth], ?_, ?_⟩
  · rw [hfields, ← hw.packetType]
    rfl
  · have hbefore : ([h.version, h.headerLen, h.packetType, h.timeslot] ++
        BitFields.toBytes
          [BitFields.bit h.pcsBandIndicator, BitFields.bit h.uplink, ⟨14, h.arfcn.toNat⟩] ++
        [h.signalDbm.toUInt8, h.signalNoiseRatioDb] ++
        BitFields.toBytes [⟨32, h.frameNumber.toNat⟩]).length = 12 := by
      simp [BitFields.bit]
    rw [hfields, ← hw.subtype, List.getElem?_append_right hbefore.le, hbefore]
    rfl

end GsmtapHeader

/-! ## Messages -/

/-- `GsmtapMessage` (`gsmtap/mod.rs:299`). -/
structure GsmtapMessage where
  header : GsmtapHeader
  payload : List UInt8
  deriving DecidableEq, Repr

/-- `to_bytes` as `deku` derives it (`gsmtap/mod.rs:298`). -/
def GsmtapMessage.toBytes (m : GsmtapMessage) : Except DekuWriteError (List UInt8) :=
  m.header.toBytes.map (· ++ m.payload)

end Rayhunter
