import Rayhunter.Gsmtap.Element

/-!
# Random access responses, there and back

The frame `mac_subpacket_to_gsmtap` (`lib/src/gsmtap/mac.rs`) packs a random access attempt into is
taken apart again by `parse_mac_rar` (`lib/src/analysis/information_element.rs`), which was written
apart from it. What it reads is what the attempt had, each number cut to the bits it has in the frame,
and it reads nothing in the frame of a transport block (`macRar_roundtrip`).
-/

namespace Rayhunter

/-! ## Bits -/

/-- The first half of a response: the advance is in the low seven bits of the first byte and the
high four of the second. -/
theorem advance_bytes {tac grant : Nat} (htac : tac < 2 ^ 11) (hgrant : grant < 2 ^ 20) :
    ∃ b₀ b₁ b₂ b₃ : UInt8,
      BitFields.toBytes [⟨1, 0⟩, ⟨11, tac⟩, ⟨20, grant⟩] = [b₀, b₁, b₂, b₃] ∧
      b₀.toNat = tac / 16 ∧ b₁.toNat / 16 = tac % 16 := by
  have hpack : BitFields.toBytes [⟨1, 0⟩, ⟨11, tac⟩, ⟨20, grant⟩] =
      BitFields.bytesBe 4 (tac * 1048576 + grant) := by
    simp [BitFields.toBytes, BitFields.pack]
  refine ⟨_, _, _, _, hpack, ?_, ?_⟩
  · rw [UInt8.toNat_ofNat']
    show (tac * 1048576 + grant) / 16777216 % 256 = tac / 16
    omega
  · rw [UInt8.toNat_ofNat']
    show (tac * 1048576 + grant) / 65536 % 256 / 16 = tac % 16
    omega

/-- The second half: the two bytes of the identity. -/
theorem identity_bytes (tcRnti : UInt16) :
    ∃ b₄ b₅ : UInt8, BitFields.toBytes [BitFields.word tcRnti] = [b₄, b₅] ∧
      tcRnti.toNat = b₄.toNat * 256 + b₅.toNat := by
  have hpack : BitFields.toBytes [BitFields.word tcRnti] = BitFields.bytesBe 2 tcRnti.toNat := by
    simp [BitFields.toBytes, BitFields.pack, BitFields.word]
  have hlt : tcRnti.toNat < 65536 := tcRnti.toNat_lt
  refine ⟨_, _, hpack, ?_⟩
  rw [UInt8.toNat_ofNat', UInt8.toNat_ofNat']
  show tcRnti.toNat = tcRnti.toNat / 256 % 256 * 256 + tcRnti.toNat / 1 % 256
  omega

/-- The subheader: the preamble is in the low six bits. -/
theorem subheader_bytes {rapid : Nat} (hrapid : rapid < 2 ^ 6) :
    ∃ b : UInt8, BitFields.toBytes [BitFields.bit false, BitFields.bit true, ⟨6, rapid⟩] = [b] ∧
      b.toNat = 64 + rapid := by
  have hpack : BitFields.toBytes [BitFields.bit false, BitFields.bit true, ⟨6, rapid⟩] =
      BitFields.bytesBe 1 (64 + rapid) := by
    simp [BitFields.toBytes, BitFields.pack, BitFields.bit]
  refine ⟨_, hpack, ?_⟩
  rw [UInt8.toNat_ofNat']
  show (64 + rapid) / 1 % 256 = 64 + rapid
  omega

/-- A number in the low bits, after others. -/
theorem shiftLeft_or {a b : Nat} (n : Nat) (hb : b < 2 ^ n) : a <<< n ||| b = a * 2 ^ n + b := by
  rw [← Nat.shiftLeft_add_eq_or_of_lt hb, Nat.shiftLeft_eq]

/-- What `parse_mac_rar` reads of the first two bytes of a response is the advance. -/
theorem advance_read {tac : UInt16} {b₀ b₁ : UInt8} (htac : tac.toNat < 2 ^ 11)
    (h₀ : b₀.toNat = tac.toNat / 16) (h₁ : b₁.toNat / 16 = tac.toNat % 16) :
    ((b₀ &&& 0b01111111).toUInt16 <<< 4) ||| (b₁.toUInt16 >>> 4) = tac := by
  have hseven : b₀.toNat &&& 127 = tac.toNat / 16 := by
    rw [Nat.and_two_pow_sub_one_eq_mod _ 7, h₀]
    omega
  have hhigh : ((b₀ &&& 0b01111111).toUInt16 <<< 4).toNat = (tac.toNat / 16) <<< 4 := by
    rw [UInt16.toNat_shiftLeft, UInt8.toNat_toUInt16, UInt8.toNat_and]
    show (b₀.toNat &&& 127) <<< 4 % 65536 = _
    rw [hseven, Nat.shiftLeft_eq]
    omega
  have hlow : (b₁.toUInt16 >>> 4).toNat = tac.toNat % 16 := by
    rw [UInt16.toNat_shiftRight, UInt8.toNat_toUInt16, ← h₁]
    exact Nat.shiftRight_eq_div_pow _ 4
  have hlt : tac.toNat % 16 < 2 ^ 4 := Nat.mod_lt _ (by decide)
  refine UInt16.toNat_inj.1 ?_
  rw [UInt16.toNat_or, hhigh, hlow, shiftLeft_or 4 hlt]
  omega

/-- What it reads of the last two is the identity. -/
theorem identity_read {tcRnti : UInt16} {b₄ b₅ : UInt8}
    (h : tcRnti.toNat = b₄.toNat * 256 + b₅.toNat) :
    (b₄.toUInt16 <<< 8) ||| b₅.toUInt16 = tcRnti := by
  have h₄ : b₄.toNat < 256 := b₄.toNat_lt
  have hhigh : (b₄.toUInt16 <<< 8).toNat = b₄.toNat <<< 8 := by
    rw [UInt16.toNat_shiftLeft, UInt8.toNat_toUInt16]
    show b₄.toNat <<< 8 % 65536 = _
    rw [Nat.shiftLeft_eq]
    omega
  refine UInt16.toNat_inj.1 ?_
  rw [UInt16.toNat_or, hhigh, UInt8.toNat_toUInt16, shiftLeft_or 8 b₅.toNat_lt, h]
  rfl

/-- What it reads of the subheader is the preamble. -/
theorem preamble_read {rapid b : UInt8} (hrapid : rapid.toNat < 2 ^ 6)
    (h : b.toNat = 64 + rapid.toNat) : b &&& 0b00111111 = rapid := by
  refine UInt8.toNat_inj.1 ?_
  rw [UInt8.toNat_and]
  show b.toNat &&& 63 = rapid.toNat
  rw [Nat.and_two_pow_sub_one_eq_mod _ 6, h]
  omega

/-! ## Frames -/

/-- The response that an attempt's messages make. -/
def expectedResponse (msg1 : Msg1) (msg2 : Msg2) : Gsmtap.MacRandomAccessResponse where
  timingAdvance := msg2.ta &&& 0b11111111111
  tcRnti := msg2.tcRnti
  preamble := msg1.getPreambleIndex &&& 0b111111

/-- What is read of the payload of a response. -/
theorem parseMacRar_rachPayload (msg1 : Msg1) (msg2 : Msg2) (msg3 : Msg3) :
    Gsmtap.parseMacRar (rachPayload msg1 msg2 msg3) = some (expectedResponse msg1 msg2) := by
  have htac : (msg2.ta &&& 0b11111111111).toNat < 2 ^ 11 := by
    rw [UInt16.toNat_and]
    exact Nat.and_lt_two_pow _ (by decide)
  have hrapid : (msg1.getPreambleIndex &&& 0b111111).toNat < 2 ^ 6 := by
    rw [UInt8.toNat_and]
    exact Nat.and_lt_two_pow _ (by decide)
  obtain ⟨b₀, b₁, b₂, b₃, hadvance, h₀, h₁⟩ := advance_bytes htac msg3.getGrant.lt
  obtain ⟨b₄, b₅, hidentity, h₄₅⟩ := identity_bytes msg2.tcRnti
  obtain ⟨b, hsubheader, hb⟩ := subheader_bytes hrapid
  have hbody : BitFields.toBytes (Attempt.response msg2 msg3).fields = [b₀, b₁, b₂, b₃, b₄, b₅] := by
    have hsplit : (Attempt.response msg2 msg3).fields =
        [⟨1, 0⟩, ⟨11, (msg2.ta &&& 0b11111111111).toNat⟩, ⟨20, msg3.getGrant.value.toNat⟩] ++
          [BitFields.word msg2.tcRnti] := rfl
    rw [hsplit, BitFields.toBytes_append ⟨4, rfl⟩ ⟨2, rfl⟩ (by simp), hadvance, hidentity]
    rfl
  have hpayload : rachPayload msg1 msg2 msg3 =
      [1, 1, 2, MAC_LTE_PAYLOAD_TAG, b, b₀, b₁, b₂, b₃, b₄, b₅] := by
    rw [rachPayload, hsubheader, hbody]
    rfl
  rw [hpayload, Gsmtap.parseMacRar, if_neg (by decide), expectedResponse, advance_read htac h₀ h₁,
    identity_read h₄₅, preamble_read hrapid hb]

variable [RecordCrates]

omit [RecordCrates] in
/-- The frame of a response can be written. -/
theorem toBytes_rach (payload : List UInt8) :
    ∃ bytes, (⟨.new .lteMacFramed, payload⟩ : GsmtapMessage).toBytes = .ok bytes := by
  obtain ⟨header, hheader, -⟩ := (GsmtapHeader.new_wellFormed .lteMacFramed).toBytes
  exact ⟨header ++ payload, by rw [GsmtapMessage.toBytes, hheader]; rfl⟩

/-- The frame of a response is read as the response. -/
theorem tryFrom_rach (msg1 : Msg1) (msg2 : Msg2) (msg3 : Msg3) :
    Gsmtap.tryFrom ⟨.new .lteMacFramed, rachPayload msg1 msg2 msg3⟩ =
      .ok (.lte (.macRar (expectedResponse msg1 msg2))) := by
  unfold Gsmtap.tryFrom
  simp only [GsmtapHeader.new, parseMacRar_rachPayload]

/-- The frame of a transport block is not read. -/
theorem tryFrom_transport {packet : MacPacket} {frame : GsmtapMessage}
    (hframe : frame ∈ GsmtapParser.transportFrames packet) :
    Gsmtap.tryFrom frame = .error (.unsupportedGsmtapType .lteMacFramed) := by
  obtain ⟨hheader, htag⟩ := GsmtapParser.frame_of_transport hframe
  have htype : frame.header.gsmtapType = .lteMacFramed := by rw [hheader]; rfl
  unfold Gsmtap.tryFrom
  simp only [htype, Gsmtap.parseMacRar_of_tag htag (by decide)]

/-- **A random access response survives the way through a frame, and no transport block is taken for
one.** -/
theorem macRar_roundtrip :
    (∀ attempt : Attempt, ∃ frame?, macSubpacketToGsmtap (.rachAttempt attempt) = .ok frame? ∧
      (frame?.isSome ↔
        attempt.getMsg1.isSome ∧ attempt.getMsg2.isSome ∧ attempt.getMsg3.isSome) ∧
      ∀ frame ∈ frame?, (∃ bytes, frame.toBytes = .ok bytes) ∧
        ∃ msg1 msg2, attempt.getMsg1 = some msg1 ∧ attempt.getMsg2 = some msg2 ∧
          Gsmtap.tryFrom frame = .ok (.lte (.macRar (expectedResponse msg1 msg2)))) ∧
      ∀ subpacket : SubpacketBody, ∃ frames, macTransportToGsmtap subpacket = .ok frames ∧
        ∀ frame ∈ frames, ∀ response,
          Gsmtap.tryFrom frame ≠ .ok (.lte (.macRar response)) := by
  constructor
  · intro attempt
    refine ⟨_, macSubpacketToGsmtap_eq _, ?_⟩
    cases hmessages : (SubpacketBody.rachAttempt attempt).rachMessages with
    | none =>
      rw [Option.map_none]
      refine ⟨iff_of_false (by decide) ?_, fun frame hframe => by cases hframe⟩
      simp only [Option.isSome_iff_exists]
      rintro ⟨⟨msg1, h₁⟩, ⟨msg2, h₂⟩, msg3, h₃⟩
      cases hmessages.symm.trans (rachMessages_eq_some_iff.2 ⟨h₁, h₂, h₃⟩)
    | some messages =>
      obtain ⟨msg1, msg2, msg3⟩ := messages
      obtain ⟨h₁, h₂, h₃⟩ := rachMessages_eq_some_iff.1 hmessages
      refine ⟨by simp [h₁, h₂, h₃], fun frame hframe => ?_⟩
      obtain rfl := Option.mem_some_iff.1 hframe
      exact ⟨toBytes_rach _, msg1, msg2, h₁, h₂, tryFrom_rach msg1 msg2 msg3⟩
  · intro subpacket
    refine ⟨_, macTransportToGsmtap_eq subpacket, fun frame hframe response hread => ?_⟩
    have hmem : frame ∈ GsmtapParser.transportFrames ⟨0, [⟨0, 0, 0, subpacket⟩]⟩ := by
      simpa [GsmtapParser.transportFrames] using hframe
    cases hread.symm.trans (tryFrom_transport hmem)

end Rayhunter
