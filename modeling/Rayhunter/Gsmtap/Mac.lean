import Rayhunter.Diag.LogBody
import Rayhunter.Gsmtap.Types

/-!
# MAC frames

`lib/src/gsmtap/mac.rs`: the frame of a transport block and that of a random access response, each
with the context the dissector needs ahead of it. What they are built from fits the fields it is
written to, so building one does not fail (`transportBlockGsmtap_eq`, `macSubpacketToGsmtap_eq`); the
two kinds of frame differ in the tag after the context.
-/

namespace Rayhunter

/-! ## Context -/

/-- `RadioType` (`mac.rs:22`), with its number. -/
inductive RadioType
  | fdd
  | tdd
  deriving DecidableEq, Repr

/-- The number of a radio type. -/
def RadioType.id : RadioType → UInt8
  | fdd => 1
  | tdd => 2

/-- `mac::Direction` (`mac.rs:31`). -/
inductive MacDirection
  | uplink
  | downlink
  deriving DecidableEq, Repr

/-- The number of a direction. -/
def MacDirection.id : MacDirection → UInt8
  | uplink => 0
  | downlink => 1

/-- `RntiType` (`mac.rs:40`). -/
inductive RntiType
  | no | p | ra | c | si | sps | m | sl | sc | g
  deriving DecidableEq, Repr

/-- The number of a kind of identity. -/
def RntiType.id : RntiType → UInt8
  | no => 0
  | p => 1
  | ra => 2
  | c => 3
  | si => 4
  | sps => 5
  | m => 6
  | sl => 7
  | sc => 9
  | g => 10

/-- `mac::Header` (`mac.rs:15`). -/
structure MacHeader where
  radioType : RadioType
  direction : MacDirection
  rntiType : RntiType
  deriving DecidableEq, Repr

/-- `to_bytes` of a `Header`. -/
def MacHeader.toBytes (h : MacHeader) : Except DekuWriteError (List UInt8) :=
  writeFields [BitFields.byte h.radioType.id, BitFields.byte h.direction.id,
    BitFields.byte h.rntiType.id]

theorem MacHeader.toBytes_eq (h : MacHeader) :
    h.toBytes = .ok [h.radioType.id, h.direction.id, h.rntiType.id] := by
  have hfit : ∀ f ∈ [h.radioType.id, h.direction.id, h.rntiType.id].map BitFields.byte ++ [],
      f.Fits := by simp
  exact (writeFields_of_fits hfit).trans
    (congrArg Except.ok (BitFields.toBytes_bytes _ ⟨0, rfl⟩ (by simp)))

/-! ## Random access responses -/

/-- `ETRAPIDSubheader` (`mac.rs:66`). -/
structure ETRAPIDSubheader where
  extended : Bool
  typeField : Bool
  rapid : UInt8
  deriving DecidableEq, Repr

/-- `to_bytes` of an `ETRAPIDSubheader`. -/
def ETRAPIDSubheader.toBytes (h : ETRAPIDSubheader) : Except DekuWriteError (List UInt8) :=
  writeFields [BitFields.bit h.extended, BitFields.bit h.typeField, ⟨6, h.rapid.toNat⟩]

/-- `RACHResponse` (`mac.rs:77`). -/
structure RACHResponse where
  tac : UInt16
  ulGrant : UInt32
  tcRnti : UInt16
  deriving DecidableEq, Repr

/-- The fields of a `RACHResponse`, the first of them a bit of padding. -/
def RACHResponse.fields (r : RACHResponse) : List BitFields.Field :=
  [⟨1, 0⟩, ⟨11, r.tac.toNat⟩, ⟨20, r.ulGrant.toNat⟩, ⟨16, r.tcRnti.toNat⟩]

/-- `to_bytes` of a `RACHResponse`. -/
def RACHResponse.toBytes (r : RACHResponse) : Except DekuWriteError (List UInt8) :=
  writeFields r.fields

/-- `MAC_LTE_PAYLOAD_TAG` (`mac.rs:90`). -/
def MAC_LTE_PAYLOAD_TAG : UInt8 := 0x01

/-- `MAC_LTE_FRAME_SUBFRAME_TAG` (`mac.rs:91`). -/
def MAC_LTE_FRAME_SUBFRAME_TAG : UInt8 := 0x04

/-- What a response is written from: the preamble, the advance cut to its bits, the grant and the
temporary identity. -/
def Attempt.subheader (msg1 : Msg1) : ETRAPIDSubheader :=
  ⟨false, true, msg1.getPreambleIndex &&& 0b111111⟩

/-- The body of a response. -/
def Attempt.response (msg2 : Msg2) (msg3 : Msg3) : RACHResponse :=
  ⟨msg2.ta &&& 0b11111111111, msg3.getGrant.value, msg2.tcRnti⟩

/-- `mac_subpacket_to_gsmtap` (`mac.rs:174`). -/
def macSubpacketToGsmtap : SubpacketBody → Except DekuWriteError (Option GsmtapMessage)
  | .rachAttempt attempt =>
    match attempt.getMsg1, attempt.getMsg2, attempt.getMsg3 with
    | some msg1, some msg2, some msg3 => do
      let header ← MacHeader.toBytes ⟨.fdd, .downlink, .ra⟩
      let subheader ← (Attempt.subheader msg1).toBytes
      let response ← (Attempt.response msg2 msg3).toBytes
      return some ⟨.new .lteMacFramed, header ++ MAC_LTE_PAYLOAD_TAG :: subheader ++ response⟩
    | _, _, _ => .ok none
  | _ => .ok none

theorem Attempt.toBytes_subheader (msg1 : Msg1) :
    (Attempt.subheader msg1).toBytes = .ok (BitFields.toBytes
      [BitFields.bit false, BitFields.bit true,
        ⟨6, (msg1.getPreambleIndex &&& 0b111111).toNat⟩]) := by
  refine writeFields_of_fits ?_
  have hrapid : (msg1.getPreambleIndex &&& 0b111111).toNat < 2 ^ 6 := by
    rw [UInt8.toNat_and]
    exact Nat.and_lt_two_pow _ (by decide)
  simp only [Attempt.subheader, List.forall_mem_cons, BitFields.bit_fits, true_and]
  exact ⟨hrapid, List.forall_mem_nil _⟩

theorem Attempt.toBytes_response (msg2 : Msg2) (msg3 : Msg3) :
    (Attempt.response msg2 msg3).toBytes =
      .ok (BitFields.toBytes (Attempt.response msg2 msg3).fields) := by
  refine writeFields_of_fits ?_
  have htac : (msg2.ta &&& 0b11111111111).toNat < 2 ^ 11 := by
    rw [UInt16.toNat_and]
    exact Nat.and_lt_two_pow _ (by decide)
  have hrnti : msg2.tcRnti.toNat < 2 ^ 16 := msg2.tcRnti.toNat_lt
  simp only [Attempt.response, RACHResponse.fields, List.forall_mem_cons]
  exact ⟨by decide, htac, msg3.getGrant.lt, hrnti, List.forall_mem_nil _⟩

/-- The payload of a response. -/
def rachPayload (msg1 : Msg1) (msg2 : Msg2) (msg3 : Msg3) : List UInt8 :=
  [1, 1, 2, MAC_LTE_PAYLOAD_TAG] ++
    BitFields.toBytes [BitFields.bit false, BitFields.bit true,
      ⟨6, (msg1.getPreambleIndex &&& 0b111111).toNat⟩] ++
    BitFields.toBytes (Attempt.response msg2 msg3).fields

/-- Whether a subpacket makes a response: it is an attempt with all of the three messages. -/
def SubpacketBody.rachMessages : SubpacketBody → Option (Msg1 × Msg2 × Msg3)
  | .rachAttempt attempt => do
    return (← attempt.getMsg1, ← attempt.getMsg2, ← attempt.getMsg3)
  | _ => none

theorem rachMessages_eq_some_iff {attempt : Attempt} {msg1 : Msg1} {msg2 : Msg2} {msg3 : Msg3} :
    (SubpacketBody.rachAttempt attempt).rachMessages = some (msg1, msg2, msg3) ↔
      attempt.getMsg1 = some msg1 ∧ attempt.getMsg2 = some msg2 ∧ attempt.getMsg3 = some msg3 := by
  simp [SubpacketBody.rachMessages, Option.bind_eq_some_iff]

/-- A subpacket makes its response, or no frame; it does not fail. -/
theorem macSubpacketToGsmtap_eq (subpacket : SubpacketBody) :
    macSubpacketToGsmtap subpacket = .ok (subpacket.rachMessages.map fun (msg1, msg2, msg3) =>
      ⟨.new .lteMacFramed, rachPayload msg1 msg2 msg3⟩) := by
  cases subpacket with
  | rachAttempt attempt =>
    simp only [macSubpacketToGsmtap, SubpacketBody.rachMessages]
    generalize attempt.getMsg1 = first, attempt.getMsg2 = second, attempt.getMsg3 = third
    cases first with
    | none => rfl
    | some msg1 =>
    cases second with
    | none => rfl
    | some msg2 =>
    cases third with
    | none => rfl
    | some msg3 =>
      simp only [MacHeader.toBytes_eq, Attempt.toBytes_subheader, Attempt.toBytes_response]
      rfl
  | dlTransportBlock samples => rfl
  | ulTransportBlock samples => rfl
  | other data => rfl

/-! ## Transport blocks -/

/-- `wireshark_rnti_type` (`mac.rs:107`). -/
def wiresharkRntiType : UInt8 → RntiType
  | 0 | 4 => .c
  | 2 => .p
  | 3 => .ra
  | 5 => .si
  | _ => .no

/-- `transport_block_gsmtap` (`mac.rs:122`). -/
def transportBlockGsmtap (downlink : Bool) (rntiType : UInt8) (sfnSubfn : UInt16)
    (macHeader : List UInt8) : Except DekuWriteError GsmtapMessage := do
  let header ← MacHeader.toBytes
    ⟨.fdd, if downlink then .downlink else .uplink, wiresharkRntiType rntiType⟩
  return ⟨.new .lteMacFramed, header ++ MAC_LTE_FRAME_SUBFRAME_TAG ::
    BitFields.bytesBe 2 sfnSubfn.toNat ++ MAC_LTE_PAYLOAD_TAG :: macHeader⟩

/-- The payload of a transport block. -/
def transportPayload (downlink : Bool) (rntiType : UInt8) (sfnSubfn : UInt16)
    (macHeader : List UInt8) : List UInt8 :=
  [1, if downlink then 1 else 0, (wiresharkRntiType rntiType).id, MAC_LTE_FRAME_SUBFRAME_TAG] ++
    BitFields.bytesBe 2 sfnSubfn.toNat ++ MAC_LTE_PAYLOAD_TAG :: macHeader

theorem transportBlockGsmtap_eq (downlink : Bool) (rntiType : UInt8) (sfnSubfn : UInt16)
    (macHeader : List UInt8) :
    transportBlockGsmtap downlink rntiType sfnSubfn macHeader =
      .ok ⟨.new .lteMacFramed, transportPayload downlink rntiType sfnSubfn macHeader⟩ := by
  rw [transportBlockGsmtap, MacHeader.toBytes_eq]
  cases downlink <;> rfl

/-- `mac_transport_to_gsmtap` (`mac.rs:157`). -/
def macTransportToGsmtap : SubpacketBody → Except DekuWriteError (List GsmtapMessage)
  | .dlTransportBlock samples =>
    samples.mapM fun b => transportBlockGsmtap true b.rntiType b.sfnSubfn b.macHeader
  | .ulTransportBlock samples =>
    samples.mapM fun b => transportBlockGsmtap false b.rntiType b.sfnSubfn b.macHeader
  | _ => .ok []

/-- The payloads of a subpacket's blocks. -/
def SubpacketBody.transportPayloads : SubpacketBody → List (List UInt8)
  | .dlTransportBlock samples =>
    samples.map fun b => transportPayload true b.rntiType b.sfnSubfn b.macHeader
  | .ulTransportBlock samples =>
    samples.map fun b => transportPayload false b.rntiType b.sfnSubfn b.macHeader
  | _ => []

/-- A subpacket makes a frame for each of its blocks; it does not fail. -/
theorem macTransportToGsmtap_eq (subpacket : SubpacketBody) :
    macTransportToGsmtap subpacket =
      .ok (subpacket.transportPayloads.map fun payload => ⟨.new .lteMacFramed, payload⟩) := by
  have hall {α : Type} (f : α → List UInt8) (xs : List α) :
      (xs.mapM fun x => (.ok ⟨.new .lteMacFramed, f x⟩ : Except DekuWriteError GsmtapMessage)) =
        .ok ((xs.map f).map fun payload => ⟨.new .lteMacFramed, payload⟩) := by
    rw [List.map_map]
    exact List.mapM_pure (m := Except DekuWriteError)
  cases subpacket with
  | rachAttempt attempt => rfl
  | dlTransportBlock samples =>
    simp only [macTransportToGsmtap, transportBlockGsmtap_eq]
    exact hall _ _
  | ulTransportBlock samples =>
    simp only [macTransportToGsmtap, transportBlockGsmtap_eq]
    exact hall _ _
  | other data => rfl

end Rayhunter
