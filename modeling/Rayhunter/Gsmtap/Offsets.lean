import Rayhunter.Gsmtap.Pcap

/-!
# Reading at fixed offsets

What `analyze_pcap_packet` (`lib/src/analysis/analyzer.rs`) takes out of a packet it takes from fixed
places: the type and the subtype from two bytes of the frame (`readFrame`), the payload from after
its header. Every frame of a record comes back from there as it was (`frames_readBack`). Nothing has
looked at the packet's length before, so a row comes of those packets only that reach to their
payload, or to their subtype where the type is unknown (`analyzePcapPacket_isSome_iff`).
-/

namespace Rayhunter

/-- What `analyze_pcap_packet` takes out of a frame's bytes (`analyzer.rs:486`), with nothing where
they are too few. -/
def readFrame (gsmtapData : List UInt8) : Option (Except GsmtapTypeError (GsmtapType × List UInt8)) :=
  match gsmtapData[2]?, gsmtapData[12]? with
  | some gsmtapType, some gsmtapSubtype =>
    match GsmtapType.new gsmtapType gsmtapSubtype with
    | .error err => some (.error err)
    | .ok gsmtapType =>
      if gsmtapData.length < 16 then none else some (.ok (gsmtapType, gsmtapData.drop 16))
  | _, _ => none

/-! ## The frames of a record -/

/-- A frame is written as a header of sixteen bytes and its payload, and is read back from them. -/
structure ReadBack (m : GsmtapMessage) (header : List UInt8) : Prop where
  written : m.toBytes = .ok (header ++ m.payload)
  length : header.length = 16
  packetType : header[2]? = some m.header.packetType
  subtype : header[12]? = some m.header.subtype
  read : readFrame (header ++ m.payload) = some (.ok (m.header.gsmtapType, m.payload))

/-- A frame whose header can be written is. -/
theorem GsmtapHeader.WellFormed.readBack {m : GsmtapMessage} (hm : m.header.WellFormed) :
    ∃ header, ReadBack m header := by
  obtain ⟨header, hheader, hlength, htype, hsubtype⟩ := hm.toBytes
  have hwritten : m.toBytes = .ok (header ++ m.payload) := by
    rw [GsmtapMessage.toBytes, hheader]
    rfl
  have hlong : ¬ (header ++ m.payload).length < 16 := by
    rw [List.length_append, hlength]
    omega
  refine ⟨header, hwritten, hlength, hm.packetType ▸ htype, hm.subtype ▸ hsubtype, ?_⟩
  have htype' : (header ++ m.payload)[2]? = some m.header.gsmtapType.getType := by
    rw [List.getElem?_append_left (by omega), htype]
  have hsubtype' : (header ++ m.payload)[12]? = some m.header.gsmtapType.getSubtype := by
    rw [List.getElem?_append_left (by omega), hsubtype]
  unfold readFrame
  simp only [htype', hsubtype', GsmtapType.new_getType, if_neg hlong, List.drop_left' hlength]

section
variable [Deku]

/-- **Every frame that is made of a record is read back as it was**, with the same type, subtype and
payload. -/
theorem frames_readBack (body : LogBody) :
    (∀ frames, GsmtapParser.logToGsmtapAll body = .ok frames →
      ∀ m ∈ frames, ∃ header, ReadBack m header) ∧
    ∀ m, GsmtapParser.logToGsmtap body = .ok (some m) → ∃ header, ReadBack m header :=
  ⟨fun _ h _ hm => (GsmtapParser.wellFormed_of_mem h hm).readBack,
    fun _ h => (GsmtapParser.ofRecord_of_single h).wellFormed.readBack⟩

end

/-- The record of the source's first test: a message on the paging channel. -/
def pagingRecord : LogBody :=
  .lteRrcOtaMessage 20 (.v8 14 48 0 160 2050 4057 5 0 7 [0x40, 0x1, 0xee, 0xad, 0xd5, 0x4d, 0xd0])

/-- Its frame. -/
def pagingFrame : GsmtapMessage :=
  ⟨{ GsmtapHeader.new (.lteRrc .pcch) with arfcn := 2050, frameNumber := 253, subslot := 9 },
    [0x40, 0x1, 0xee, 0xad, 0xd5, 0x4d, 0xd0]⟩

/-- The frame of that message is. -/
theorem frames_readBack_paging : ∃ header, ReadBack pagingFrame header :=
  letI : Deku := plainCrates.toDeku
  (frames_readBack pagingRecord).1 [pagingFrame] (by decide) pagingFrame (List.mem_singleton_self _)

/-! ## Packets of any length -/

/-- A frame can be read where its bytes reach to the payload, or where they reach to the subtype and
the type is unknown. -/
theorem readFrame_isSome_iff (gsmtapData : List UInt8) :
    (readFrame gsmtapData).isSome ↔
      16 ≤ gsmtapData.length ∨
        ∃ gsmtapType gsmtapSubtype err, gsmtapData[2]? = some gsmtapType ∧
          gsmtapData[12]? = some gsmtapSubtype ∧
          GsmtapType.new gsmtapType gsmtapSubtype = .error err := by
  unfold readFrame
  cases htype : gsmtapData[2]? with
  | none =>
    have hshort := List.getElem?_eq_none_iff.1 htype
    simp only [Option.isSome_none, Bool.false_eq_true, reduceCtorEq, false_and, exists_false, or_false,
      false_iff]
    omega
  | some gsmtapType =>
    cases hsubtype : gsmtapData[12]? with
    | none =>
      have hshort := List.getElem?_eq_none_iff.1 hsubtype
      simp only [Option.isSome_none, Bool.false_eq_true, reduceCtorEq, false_and, and_false,
        exists_false, or_false, false_iff]
      omega
    | some gsmtapSubtype =>
      cases hnew : GsmtapType.new gsmtapType gsmtapSubtype with
      | error err =>
        simp only [hnew]
        exact iff_of_true rfl (.inr ⟨_, _, err, rfl, rfl, hnew⟩)
      | ok t =>
        have hknown : ¬ ∃ gsmtapType' gsmtapSubtype' err, some gsmtapType = some gsmtapType' ∧
            some gsmtapSubtype = some gsmtapSubtype' ∧
            GsmtapType.new gsmtapType' gsmtapSubtype' = .error err := by
          rintro ⟨_, _, err, ⟨⟩, ⟨⟩, herr⟩
          cases hnew.symm.trans herr
        rw [or_iff_left hknown]
        simp only [hnew]
        split
        · next hlt => exact iff_of_false Bool.false_ne_true (by omega)
        · next hge => exact iff_of_true rfl (by omega)

/-- A packet that reaches to the subtype of its frame, whose type is unknown. -/
def OfUnknownType (data : List UInt8) : Prop :=
  ∃ gsmtapType gsmtapSubtype err, data[30]? = some gsmtapType ∧ data[40]? = some gsmtapSubtype ∧
    GsmtapType.new gsmtapType gsmtapSubtype = .error err

section
variable [RecordCrates] [Detectors] [SerdeJson]

/-- A row comes of a packet whose frame can be read. -/
theorem analyzePcapPacket_isSome (h : Harness) (packet : EnhancedPacketBlock) :
    (h.analyzePcapPacket packet).isSome = (readFrame (packet.data.drop 28)).isSome := by
  unfold Harness.analyzePcapPacket readFrame
  simp only
  cases htype : (packet.data.drop 28)[2]? with
  | none => rfl
  | some gsmtapType =>
    cases hsubtype : (packet.data.drop 28)[12]? with
    | none => rfl
    | some gsmtapSubtype =>
      simp only
      cases GsmtapType.new gsmtapType gsmtapSubtype with
      | error err => rfl
      | ok t =>
        have hlong : 12 < (packet.data.drop 28).length :=
          (List.getElem?_eq_some_iff.1 hsubtype).1
        have hlengths : packet.data.length < 44 ↔ (packet.data.drop 28).length < 16 := by
          rw [List.length_drop] at hlong ⊢
          omega
        simp only [hlengths]
        split
        · rfl
        · cases Gsmtap.tryFrom ⟨.new t, packet.data.drop 44⟩ <;> rfl

/-- **A row comes of a packet exactly where it reaches to its frame's payload, or to its subtype and
is of an unknown type.** -/
theorem analyzePcapPacket_isSome_iff (h : Harness) (packet : EnhancedPacketBlock) :
    (h.analyzePcapPacket packet).isSome ↔
      44 ≤ packet.data.length ∨ OfUnknownType packet.data := by
  rw [analyzePcapPacket_isSome, readFrame_isSome_iff]
  simp only [OfUnknownType, List.getElem?_drop, List.length_drop]
  exact or_congr_left (by omega)

end

/-- An empty datagram to the port of GSMTAP. -/
def emptyDatagram : List UInt8 :=
  [0x45, 0, 0, 28, 0, 0, 0x40, 0, 64, 0x11, 0xff, 0xff, 127, 0, 0, 1, 127, 0, 0, 1,
    0x34, 0x19, 0x12, 0x79, 0, 8, 0xff, 0xff]

/-- **No row comes of an empty datagram.** -/
theorem emptyDatagram_unread :
    let _ := plainCrates
    let _ := silentDetectors
    let _ := jsonText
    ¬ ∀ (h : Harness) (packet : EnhancedPacketBlock), (h.analyzePcapPacket packet).isSome := by
  intro _ _ _ hrow
  exact absurd (hrow ⟨[], 0⟩ ⟨0, 0, 28, emptyDatagram, []⟩) (by decide)

end Rayhunter
