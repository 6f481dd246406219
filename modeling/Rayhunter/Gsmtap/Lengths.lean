import Rayhunter.Diag.Hostile
import Rayhunter.Gsmtap.Offsets

/-!
# The lengths a packet states

`write_gsmtap_message` (`lib/src/pcap.rs`) adds the lengths of the IP and the UDP header to that of
the frame in sixteen bits. What comes out is the number of bytes that are written exactly where that
is less than `2 ^ 16` (`lengthsTrue_iff`), so where the payload is not longer than `longestPayload`.
A record of four kinds can declare a longer one (`DeclaresLong`): the lengths of the others are of
one byte.
-/

namespace Rayhunter

open Reader

/-! ## Lengths in sixteen bits -/

/-- The longest payload whose packet has a length of sixteen bits, after the headers of GSMTAP, UDP and
IP. -/
def longestPayload : Nat := 2 ^ 16 - 1 - (16 + 8 + 20)

section
variable [RecordCrates] {GpsPoint : Type}

/-- A frame is refused, or its packet states the lengths of what is written, of which the sums stay
within sixteen bits. -/
def LengthsTrue (comment : GpsPoint → String) (w : GsmtapPcapWriter) (msg : GsmtapMessage)
    (timestamp : Timestamp) (gps : Option GpsPoint) : Prop :=
  (∃ e, w.writeGsmtapMessage comment msg timestamp gps = .error e) ∨
    ∃ msgBytes ip udp packet, msg.toBytes = .ok msgBytes ∧
      (packetHeaders w.ipId msgBytes).1.toBytes = .ok ip ∧
      (packetHeaders w.ipId msgBytes).2.toBytes = .ok udp ∧
      w.writeGsmtapMessage comment msg timestamp gps = .ok ⟨w.packets ++ [packet], w.ipId + 1⟩ ∧
      packet.data = ip ++ udp ++ msgBytes ∧
      (UInt16.ofNat msgBytes.length).toNat + IP_HEADER_LEN.toNat + UDP_HEADER_LEN.toNat < 2 ^ 16 ∧
      (packetHeaders w.ipId msgBytes).1.totalLen.toNat = packet.data.length ∧
      (packetHeaders w.ipId msgBytes).2.length.toNat = (udp ++ msgBytes).length

/-- They do where the payload is no longer than the longest. -/
theorem lengthsTrue_iff (comment : GpsPoint → String) (w : GsmtapPcapWriter) {msg : GsmtapMessage}
    (hmsg : msg.header.WellFormed) (timestamp : Timestamp) (gps : Option GpsPoint) :
    LengthsTrue comment w msg timestamp gps ↔ msg.payload.length ≤ longestPayload := by
  obtain ⟨header, hheader, hlength, -⟩ := hmsg.toBytes
  have hbytes : msg.toBytes = .ok (header ++ msg.payload) := by
    rw [GsmtapMessage.toBytes, hheader]
    rfl
  have hmsglen : (header ++ msg.payload).length = 16 + msg.payload.length := by
    rw [List.length_append, hlength]
  obtain ⟨ip, udp, hip, hiplen, hudp, hudplen, hwrite⟩ :=
    writeGsmtapMessage_packet comment w hbytes timestamp gps
  constructor
  · rintro (⟨e, he⟩ | ⟨msgBytes, ip', udp', packet, hbytes', hip', hudp', -, hdata, -, htotal, -⟩)
    · cases hwrite.symm.trans he
    · cases hbytes.symm.trans hbytes'
      cases hip.symm.trans hip'
      cases hudp.symm.trans hudp'
      have hlt := (packetHeaders w.ipId (header ++ msg.payload)).1.totalLen.toNat_lt
      rw [htotal, hdata, List.length_append, List.length_append, hiplen, hudplen, hmsglen] at hlt
      unfold longestPayload
      omega
  · intro hle
    have hsmall : 16 + msg.payload.length + 20 + 8 < 2 ^ 16 := by
      unfold longestPayload at hle
      omega
    have hword : (UInt16.ofNat (header ++ msg.payload).length).toNat = 16 + msg.payload.length := by
      rw [UInt16.toNat_ofNat', hmsglen]
      exact Nat.mod_eq_of_lt (by omega)
    refine .inr ⟨_, ip, udp, _, hbytes, hip, hudp, hwrite, rfl, ?_, ?_, ?_⟩
    · rw [hword]
      exact hsmall
    · show (UInt16.ofNat _ + IP_HEADER_LEN + UDP_HEADER_LEN).toNat = (ip ++ udp ++ _).length
      rw [UInt16.toNat_add, UInt16.toNat_add, hword, List.length_append, List.length_append, hiplen,
        hudplen, hmsglen]
      show ((16 + msg.payload.length + 20) % 2 ^ 16 + 8) % 2 ^ 16 = _
      omega
    · show (UInt16.ofNat _ + UDP_HEADER_LEN).toNat = _
      rw [UInt16.toNat_add, hword, List.length_append, hudplen, hmsglen]
      show (16 + msg.payload.length + 8) % 2 ^ 16 = _
      omega

end

/-! ## Lengths that records declare -/

/-- The length that an RRC packet declares. -/
def LteRrcOtaPacket.len : LteRrcOtaPacket → UInt16
  | v0 _ _ _ _ _ _ _ len _ => len
  | v5 _ _ _ _ _ _ _ _ len _ => len
  | v8 _ _ _ _ _ _ _ _ len _ => len
  | v25 _ _ _ _ _ _ _ _ _ _ len _ => len

theorem LteRrcOtaPacket.Counted.length {packet : LteRrcOtaPacket} (h : packet.Counted) :
    packet.takePayload.length = packet.len.toNat := by
  cases packet <;> exact h

/-- A body that declares a message too long for a packet. -/
def LogBody.DeclaresLong (hdrLen : Nat) : LogBody → Prop
  | wcdmaSignallingMessage _ _ length _ => longestPayload < length.toNat
  | lteRrcOtaMessage _ packet => longestPayload < packet.len.toNat
  | nas4GMessage .. => longestPayload < hdrLen - 4
  | umtsNasOtaMessage _ length _ => longestPayload < length.toNat
  | _ => False

/-- A record whose body does. -/
def DeclaresLong : Message LogBody → Prop
  | .log _ _ innerLength _ _ body => body.DeclaresLong (innerLength.toNat - 12)
  | .response .. => False

namespace GsmtapParser

/-- A transport block is short, for its header is counted by a byte. -/
theorem length_of_transport {packet : MacPacket}
    (hcounted : ∀ subpacket ∈ packet.subpackets, subpacket.Counted) {m : GsmtapMessage}
    (hm : m ∈ transportFrames packet) : m.payload.length ≤ longestPayload := by
  obtain ⟨subpacket, hmem, hm⟩ := List.mem_flatMap.1 hm
  obtain ⟨payload, hpayload, rfl⟩ := List.mem_map.1 hm
  have hbody := (hcounted subpacket hmem).2
  -- seven bytes come before the header
  have hshort (downlink : Bool) (rntiType : UInt8) (sfnSubfn : UInt16) {macHeader : List UInt8}
      {headerLen : UInt8} (h : macHeader.length = headerLen.toNat) :
      (transportPayload downlink rntiType sfnSubfn macHeader).length ≤ longestPayload := by
    have hlen := headerLen.toNat_lt
    simp only [transportPayload, longestPayload, List.length_append, List.length_cons,
      BitFields.length_bytesBe, List.length_nil]
    omega
  cases hkind : subpacket.body with
  | dlTransportBlock samples =>
    rw [hkind] at hpayload hbody
    obtain ⟨block, hblock, rfl⟩ := List.mem_map.1 hpayload
    cases block with
    | v2 | v4 => exact hshort _ _ _ (hbody _ hblock)
  | ulTransportBlock samples =>
    rw [hkind] at hpayload hbody
    obtain ⟨block, hblock, rfl⟩ := List.mem_map.1 hpayload
    cases block with
    | v1 | v2 => exact hshort _ _ _ (hbody _ hblock)
  | rachAttempt | other =>
    rw [hkind] at hpayload
    cases hpayload

variable [Deku]

/-- The payload of a record's one frame is too long where the record declares it to be. -/
theorem length_of_single {hdrLen : Nat} {body : LogBody} (hcounted : body.Counted hdrLen)
    {m : GsmtapMessage} (h : logToGsmtap body = .ok (some m)) :
    longestPayload < m.payload.length ↔ body.DeclaresLong hdrLen := by
  cases body with
  | lteRrcOtaMessage extHeaderVersion packet =>
    simp only [logToGsmtap] at h
    cases hsubtype : rrcSubtype extHeaderVersion packet.getPduNum with
    | error e => rw [hsubtype] at h; cases h
    | ok subtype =>
      rw [hsubtype] at h
      cases h
      show longestPayload < packet.takePayload.length ↔ longestPayload < packet.len.toNat
      rw [LteRrcOtaPacket.Counted.length hcounted]
  | nas4GMessage | umtsNasOtaMessage =>
    cases h
    rw [LogBody.DeclaresLong, ← hcounted]
  | wcdmaSignallingMessage channelType =>
    obtain ⟨subtype, -, rfl⟩ := Option.map_eq_some_iff.1 (Except.ok.inj h)
    rw [LogBody.DeclaresLong, ← hcounted]
  | gprsMacSignallingMessage channelType messageType length msg =>
    cases h
    have hlen := length.toNat_lt
    refine iff_of_false (Nat.not_lt.2 ?_) not_false
    rw [hcounted, longestPayload]
    omega
  | gsmRrSignallingMessage channelType messageType length msg =>
    obtain ⟨subtype, -, rfl⟩ := Option.map_eq_some_iff.1 (Except.ok.inj h)
    have hlen := length.toNat_lt
    refine iff_of_false (Nat.not_lt.2 ?_) not_false
    rw [hcounted, longestPayload]
    omega
  | lteMacRachResponse packet =>
    simp only [logToGsmtap] at h
    split at h
    · cases h
    next subpacket subpackets _ =>
      rw [macSubpacketToGsmtap_eq] at h
      obtain ⟨messages, -, rfl⟩ := Option.map_eq_some_iff.1 (Except.ok.inj h)
      refine iff_of_false (Nat.not_lt.2 ?_) not_false
      simp [rachPayload, longestPayload, RACHResponse.fields, BitFields.bit]
  | _ => cases h

/-- So is that of any frame of a message that has been read. -/
theorem length_of_parseAll {data : List UInt8} {rest : List Bool} {msg : Message LogBody}
    (hread : Message.read data = .ok (msg, rest)) {frames : List (Timestamp × GsmtapMessage)}
    (hparse : parseAll msg = .ok frames) {timestamp : Timestamp} {m : GsmtapMessage}
    (hm : (timestamp, m) ∈ frames) : longestPayload < m.payload.length ↔ DeclaresLong msg := by
  have hcounted := Parse.yields_message _ _ _ hread
  cases msg with
  | response =>
    cases hparse
    cases hm
  | log pendingMsgs outerLength innerLength logType time body =>
    rw [parseAll] at hparse
    cases hall : logToGsmtapAll body with
    | error e => rw [hall] at hparse; cases hparse
    | ok messages =>
      rw [hall] at hparse
      cases hparse
      obtain ⟨m', hm', hpair⟩ := List.mem_map.1 hm
      cases hpair
      obtain ⟨packet, htransport, hframe⟩ | ⟨-, hsingle⟩ := mem_cases hall hm'
      · cases body with
        | lteMacDl | lteMacUl =>
          cases htransport
          exact iff_of_false (Nat.not_lt.2 (length_of_transport hcounted hframe)) not_false
        | _ => cases htransport
      · exact length_of_single hcounted hsingle

end GsmtapParser

/-! ## Packets of records -/

section
variable [RecordCrates] {GpsPoint : Type}

/-- **The packet of a frame states the lengths of what is written exactly where the record does not
declare a message of more than 65491 bytes**, of every frame of a message that has been read. -/
theorem lengths_true_iff (comment : GpsPoint → String) (w : GsmtapPcapWriter) (gps : Option GpsPoint)
    (data : List UInt8) (rest : List Bool) (msg : Message LogBody)
    (hread : Message.read data = .ok (msg, rest)) (frames : List (Timestamp × GsmtapMessage))
    (hparse : GsmtapParser.parseAll msg = .ok frames) (timestamp : Timestamp) (frame : GsmtapMessage)
    (hframe : (timestamp, frame) ∈ frames) :
    LengthsTrue comment w frame timestamp gps ↔ ¬ DeclaresLong msg := by
  rw [lengthsTrue_iff comment w (GsmtapParser.wellFormed_of_parseAll hparse hframe) timestamp gps,
    ← Nat.not_lt, GsmtapParser.length_of_parseAll hread hparse hframe]

end

/-- The message of the source's first test. -/
def pagingMessage : Message LogBody := .log 0 38 38 0xb0c0 ⟨72659535985485082⟩ pagingRecord

/-- The packet of that message states them. -/
theorem lengths_true_iff_paging :
    let _ := plainCrates
    LengthsTrue (fun _ : Unit => "") ⟨[], 0⟩ pagingFrame ⟨72659535985485082⟩ none := by
  intro _
  exact (lengths_true_iff _ _ _
    [16, 0, 38, 0, 38, 0, 192, 176, 26, 165, 245, 135, 118, 35, 2, 1, 20, 14, 48, 0, 160, 0, 2, 8, 0, 0,
      217, 15, 5, 0, 0, 0, 0, 7, 0, 64, 1, 238, 173, 213, 77, 208]
    [] pagingMessage (by decide +kernel) [(⟨72659535985485082⟩, pagingFrame)] rfl _ _
    (List.mem_singleton_self _)).2 fun h => absurd (show longestPayload < 7 from h) (by decide)

/-- A log record is read by its header, its timestamp and its body. -/
theorem read_log (i₀ i₁ t₀ t₁ : UInt8) {data : List UInt8} {timestamp : Timestamp} {s : List Bool}
    {body : LogBody} (htimestamp : (Timestamp.mk <$> u64).run (Bits.ofBytes data) = .ok (timestamp, s))
    (hbody : ∀ hdrLen, (Parse.logBody (UInt16.ofNat (t₀.toNat + 256 * t₁.toNat)) hdrLen).run s =
      .ok (body, [])) :
    ∃ innerLength logType, Message.read (16 :: 0 :: i₀ :: i₁ :: i₀ :: i₁ :: t₀ :: t₁ :: data) =
      .ok (.log 0 innerLength innerLength logType timestamp body, []) := by
  refine ⟨UInt16.ofNat (i₀.toNat + 256 * i₁.toNat), UInt16.ofNat (t₀.toNat + 256 * t₁.toNat), ?_⟩
  rw [Message.read, Parse.message, run_bind, run_u8_cons, andThen, if_pos rfl]
  simp only [Parse.logRecord, run_bind, run_u8_cons, run_u16_cons, andThen, htimestamp, run_map, hbody]

/-- A record of a UMTS message: its inner length in two bytes and the length of the message in two. -/
def umtsRecord (i₀ i₁ b₀ b₁ : UInt8) (payload : List UInt8) : List UInt8 :=
  16 :: 0 :: i₀ :: i₁ :: i₀ :: i₁ :: 0x2f :: 0x41 :: 0 :: 0 :: 0 :: 0 :: 0 :: 0 :: 0 :: 0 ::
    0 :: 0 :: b₀ :: b₁ :: payload

/-- It is read as that message, where the length of the message is right. -/
theorem read_umtsRecord (i₀ i₁ b₀ b₁ : UInt8) {payload : List UInt8}
    (h : payload.length = Parse.declaredSize b₀ b₁) :
    ∃ innerLength logType length timestamp, Message.read (umtsRecord i₀ i₁ b₀ b₁ payload) =
      .ok (.log 0 innerLength innerLength logType timestamp
        (.wcdmaSignallingMessage 0 0 length payload), []) := by
  have hlength : (UInt16.ofNat (b₀.toNat + 256 * b₁.toNat)).toNat = payload.length :=
    (Parse.toNat_declaredSize b₀ b₁).trans h.symm
  have hbytes := run_bytes (Nat.le_refl payload.length)
  rw [List.take_length, List.drop_length] at hbytes
  have htype : UInt16.ofNat (UInt8.toNat 0x2f + 256 * UInt8.toNat 0x41) = 0x412f := by decide
  have hbody (hdrLen : Nat) :
      (Parse.logBody (UInt16.ofNat (UInt8.toNat 0x2f + 256 * UInt8.toNat 0x41)) hdrLen).run
        (Bits.ofBytes (0 :: 0 :: b₀ :: b₁ :: payload)) =
          .ok (.wcdmaSignallingMessage 0 0 (UInt16.ofNat (b₀.toNat + 256 * b₁.toNat)) payload, []) := by
    rw [htype, Parse.logBody.eq_1]
    simp only [counted, run_bind, run_seq, run_map, run_u8_cons, run_u16_cons, andThen, hlength,
      hbytes]
    rfl
  obtain ⟨timestamp, htimestamp⟩ : ∃ timestamp, (Timestamp.mk <$> u64).run
      (Bits.ofBytes (0 :: 0 :: 0 :: 0 :: 0 :: 0 :: 0 :: 0 :: 0 :: 0 :: b₀ :: b₁ :: payload)) =
        .ok (timestamp, Bits.ofBytes (0 :: 0 :: b₀ :: b₁ :: payload)) :=
    run_of_takes (n := 8) inferInstance (by simp)
  obtain ⟨innerLength, logType, hread⟩ := read_log i₀ i₁ 0x2f 0x41 htimestamp hbody
  exact ⟨innerLength, logType, _, timestamp, hread⟩

/-- **The packet of a message of 65500 bytes does not**, though its record has all of its lengths
right. -/
theorem longMessage_lengths :
    let _ := plainCrates
    ¬ ∀ (w : GsmtapPcapWriter) (data : List UInt8) (rest : List Bool) (msg : Message LogBody)
        (frames : List (Timestamp × GsmtapMessage)) (timestamp : Timestamp) (frame : GsmtapMessage),
      Message.read data = .ok (msg, rest) → GsmtapParser.parseAll msg = .ok frames →
      (timestamp, frame) ∈ frames → LengthsTrue (fun _ : Unit => "") w frame timestamp none := by
  intro _ h
  have hlength : (List.replicate 65500 (0 : UInt8)).length = Parse.declaredSize 0xdc 0xff := by
    rw [List.length_replicate]
    decide
  obtain ⟨innerLength, logType, length, timestamp, hread⟩ := read_umtsRecord 0xec 0xff 0xdc 0xff hlength
  generalize hpayload : List.replicate 65500 (0 : UInt8) = payload at hlength hread
  have htrue := h ⟨[], 0⟩ _ _ _ [(timestamp, ⟨.new (.umtsRrc .dlDcch), payload⟩)] timestamp _ hread rfl
    (List.mem_singleton_self _)
  rw [lengthsTrue_iff _ _ (GsmtapHeader.new_wellFormed _), hlength] at htrue
  exact absurd htrue (by decide)

end Rayhunter
