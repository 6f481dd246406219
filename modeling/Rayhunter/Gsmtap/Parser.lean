import Rayhunter.Gsmtap.Mac

/-!
# From log records to GSMTAP frames

`lib/src/gsmtap/parser.rs`: the frames of a diag message, of which `parse` has the first and
`parseAll` all. They agree but for MAC transport blocks, of which `parse` has none
(`logToGsmtap_transport`, `logToGsmtapAll_of_not_transport`); what makes no frame and what cannot be
converted is read off the record (`logToGsmtap_cases`), and every frame has a header that can be
written (`wellFormed_of_mem`).
-/

namespace Rayhunter

/-- `GsmtapParserError` (`parser.rs:13`). -/
inductive GsmtapParserError
  | invalidLteRrcOtaExtHeaderVersion (version : UInt8)
  | invalidLteRrcOtaHeaderPduNum (version pduNum : UInt8)
  | invalidLteMacRachResponse (reason : String)
  | invalidLteMacTransportBlock (reason : String)
  deriving DecidableEq, Repr

/-- The text of an error. -/
def GsmtapParserError.debug : GsmtapParserError → String
  | invalidLteRrcOtaExtHeaderVersion version =>
    s!"InvalidLteRrcOtaExtHeaderVersion({version.toNat})"
  | invalidLteRrcOtaHeaderPduNum version pduNum =>
    s!"InvalidLteRrcOtaHeaderPduNum({version.toNat}, {pduNum.toNat})"
  | invalidLteMacRachResponse reason => "InvalidLteMacRachResponse(\"" ++ reason ++ "\")"
  | invalidLteMacTransportBlock reason => "InvalidLteMacTransportBlock(\"" ++ reason ++ "\")"

namespace GsmtapParser

/-! ## Channels -/

/-- The PDU numbers of a version of the RRC header, each with its channel (`parser.rs:109`). -/
def pduTable (extHeaderVersion : UInt8) : Option (List (UInt8 × LteRrcSubtype)) :=
  match extHeaderVersion with
  | 0x02 | 0x03 | 0x04 | 0x06 | 0x07 | 0x08 | 0x0d | 0x16 => some
    [(1, .bcchBch), (2, .bcchDlSch), (3, .mcch), (4, .pcch), (5, .dlCcch), (6, .dlDcch),
      (7, .ulCcch), (8, .ulDcch)]
  | 0x09 | 0x0c => some
    [(8, .bcchBch), (9, .bcchDlSch), (10, .mcch), (11, .pcch), (12, .dlCcch), (13, .dlDcch),
      (14, .ulCcch), (15, .ulDcch)]
  | 0x0e | 0x0f | 0x10 => some
    [(1, .bcchBch), (2, .bcchDlSch), (4, .mcch), (5, .pcch), (6, .dlCcch), (7, .dlDcch),
      (8, .ulCcch), (9, .ulDcch)]
  | 0x13 | 0x1a | 0x1b => some
    [(1, .bcchBch), (3, .bcchDlSch), (6, .mcch), (7, .pcch), (8, .dlCcch), (9, .dlDcch),
      (10, .ulCcch), (11, .ulDcch), (45, .bcchBchNb), (46, .bcchDlSchNb), (47, .pcchNb),
      (48, .dlCcchNb), (49, .dlDcchNb), (50, .ulCcchNb), (52, .ulDcchNb)]
  | 0x14 | 0x18 | 0x19 => some
    [(1, .bcchBch), (2, .bcchDlSch), (4, .mcch), (5, .pcch), (6, .dlCcch), (7, .dlDcch),
      (8, .ulCcch), (9, .ulDcch), (54, .bcchBchNb), (55, .bcchDlSchNb), (56, .pcchNb),
      (57, .dlCcchNb), (58, .dlDcchNb), (59, .ulCcchNb), (61, .ulDcchNb)]
  | _ => none

/-- The channel of an RRC message (`parser.rs:109`). -/
def rrcSubtype (extHeaderVersion pduNum : UInt8) : Except GsmtapParserError LteRrcSubtype :=
  match pduTable extHeaderVersion with
  | none => .error (.invalidLteRrcOtaExtHeaderVersion extHeaderVersion)
  | some table =>
    match table.lookup pduNum with
    | none => .error (.invalidLteRrcOtaHeaderPduNum extHeaderVersion pduNum)
    | some subtype => .ok subtype

/-- A PDU number that a version of the RRC header has. -/
def KnownPdu (extHeaderVersion pduNum : UInt8) : Prop :=
  pduNum ∈ ((pduTable extHeaderVersion).getD []).map Prod.fst

instance (extHeaderVersion pduNum : UInt8) : Decidable (KnownPdu extHeaderVersion pduNum) :=
  inferInstanceAs (Decidable (_ ∈ _))

/-- The known PDUs are those with a channel. -/
theorem rrcSubtype_ok_iff (extHeaderVersion pduNum : UInt8) :
    (∃ subtype, rrcSubtype extHeaderVersion pduNum = .ok subtype) ↔
      KnownPdu extHeaderVersion pduNum := by
  unfold rrcSubtype KnownPdu
  cases pduTable extHeaderVersion with
  | none => simp
  | some table =>
    have hmem : pduNum ∈ table.map Prod.fst ↔ (table.lookup pduNum).isSome := by
      rw [List.lookup_isSome_iff, List.mem_map]
      exact exists_congr fun entry => and_congr_right fun _ => eq_comm.trans beq_iff_eq.symm
    simp only [Option.getD_some, hmem]
    cases table.lookup pduNum <;> simp

/-- `gsm_rr_subtype` (`parser.rs:72`); the numbers are those of `log_codes`. -/
def gsmRrSubtype : UInt8 → Option UmSubtype
  | 0x00 => some .sdcch
  | 0x01 => some .bcch
  | 0x02 | 0x08 => some .rach
  | 0x03 => some .ccch
  | 0x04 => some .sdcch
  | 0x05 => some .sdcch
  | 0x06 => some .tchF
  | 0x07 => some .tchH
  | _ => none

/-- The channel of a GPRS message (`parser.rs:263`). -/
def gprsSubtype : UInt8 → UmSubtype
  | 0x03 | 0x04 | 0x83 => .pacch
  | 0x20 => .rach
  | _ => .pdch

/-- The UMTS channels a device sends on (`parser.rs:290`). -/
def umtsUplink : UmtsRrcSubtype → Bool
  | .ulDcch | .ulCcch | .ulShcch => true
  | _ => false

/-! ## Conversion -/

variable [Deku]

/-- `log_to_gsmtap` (`parser.rs:103`). -/
def logToGsmtap : LogBody → Except GsmtapParserError (Option GsmtapMessage)
  | .lteRrcOtaMessage extHeaderVersion packet =>
    (rrcSubtype extHeaderVersion packet.getPduNum).map fun subtype =>
      some ⟨{ GsmtapHeader.new (.lteRrc subtype) with
        arfcn := packet.getEarfcn.toUInt16 &&& 0x3FFF
        frameNumber := packet.getSfn
        subslot := packet.getSubfn }, packet.takePayload⟩
  | .nas4GMessage _ direction _ _ _ _ msg =>
    .ok (some ⟨{ GsmtapHeader.new (.lteNas .plain) with uplink := direction = .uplink }, msg⟩)
  | .lteMacRachResponse packet =>
    -- a record with more than one subpacket is only logged
    match packet.subpackets with
    | [] => .error (.invalidLteMacRachResponse "no subpackets")
    | subpacket :: _ => (macSubpacketToGsmtap subpacket.body).mapError fun err =>
      .invalidLteMacRachResponse ("unable to serialize GSMTAP payload: " ++ Deku.debugError err)
  | .gsmRrSignallingMessage channelType _ _ msg =>
    .ok ((gsmRrSubtype channelType).map fun subtype => ⟨.new (.um subtype), msg⟩)
  | .gprsMacSignallingMessage channelType _ _ msg =>
    .ok (some ⟨{ GsmtapHeader.new (.um (gprsSubtype channelType)) with
      uplink := channelType = 0x04 ∨ channelType = 0x20 }, msg⟩)
  | .wcdmaSignallingMessage channelType _ _ msg =>
    .ok ((subtypeWithNumber UmtsRrcSubtype.ALL channelType).map fun subtype =>
      ⟨{ GsmtapHeader.new (.umtsRrc subtype) with uplink := umtsUplink subtype }, msg⟩)
  | .umtsNasOtaMessage isUplink _ msg =>
    .ok (some ⟨{ GsmtapHeader.new (.um .sdcch) with uplink := isUplink ≠ 0 }, msg⟩)
  | _ => .ok none

/-- The record of transport blocks that a body is. -/
def transport? : LogBody → Option MacPacket
  | .lteMacDl packet | .lteMacUl packet => some packet
  | _ => none

/-- `log_to_gsmtap_all` (`parser.rs:83`). -/
def logToGsmtapAll (value : LogBody) : Except GsmtapParserError (List GsmtapMessage) :=
  match transport? value with
  | some packet =>
    (packet.subpackets.mapM fun subpacket =>
      (macTransportToGsmtap subpacket.body).mapError fun err =>
        GsmtapParserError.invalidLteMacTransportBlock
          ("unable to serialize GSMTAP payload: " ++ Deku.debugError err)).map List.flatten
  | none => (logToGsmtap value).map Option.toList

/-- `parse_all` (`parser.rs:36`). -/
def parseAll : Message LogBody → Except GsmtapParserError (List (Timestamp × GsmtapMessage))
  | .log _ _ _ _ timestamp body => (logToGsmtapAll body).map (·.map (timestamp, ·))
  | .response .. => .ok []

/-- `parse` (`parser.rs:51`). -/
def parse : Message LogBody → Except GsmtapParserError (Option (Timestamp × GsmtapMessage))
  | .log _ _ _ _ timestamp body => (logToGsmtap body).map (·.map (timestamp, ·))
  | .response .. => .ok none

/-! ## What a record makes -/

/-- A record that cannot be converted: an RRC message with a PDU number its header does not have, or
one of random access without an attempt. -/
def Unconvertible : LogBody → Prop
  | .lteRrcOtaMessage extHeaderVersion packet => ¬ KnownPdu extHeaderVersion packet.getPduNum
  | .lteMacRachResponse packet => packet.subpackets = []
  | _ => False

/-- A record that holds a transport block. -/
def HoldsBlock : LogBody → Prop
  | .lteMacDl packet | .lteMacUl packet =>
    ∃ subpacket ∈ packet.subpackets, subpacket.body.transportPayloads ≠ []
  | _ => False

/-- A record that makes a frame which is no transport block. -/
def MakesSingle : LogBody → Prop
  | .lteRrcOtaMessage extHeaderVersion packet => KnownPdu extHeaderVersion packet.getPduNum
  | .nas4GMessage .. | .gprsMacSignallingMessage .. | .umtsNasOtaMessage .. => True
  | .lteMacRachResponse packet =>
    ∃ subpacket ∈ packet.subpackets.head?, subpacket.body.rachMessages.isSome
  | .gsmRrSignallingMessage channelType .. => (gsmRrSubtype channelType).isSome
  | .wcdmaSignallingMessage channelType .. =>
    (subtypeWithNumber UmtsRrcSubtype.ALL channelType).isSome
  | _ => False

/-- The frames of a record of transport blocks. -/
def transportFrames (packet : MacPacket) : List GsmtapMessage :=
  packet.subpackets.flatMap fun subpacket =>
    subpacket.body.transportPayloads.map fun payload => ⟨.new .lteMacFramed, payload⟩

theorem logToGsmtapAll_transport {body : LogBody} {packet : MacPacket}
    (h : transport? body = some packet) :
    logToGsmtapAll body = .ok (transportFrames packet) := by
  have hall : (packet.subpackets.mapM fun subpacket =>
      (macTransportToGsmtap subpacket.body).mapError fun err =>
        GsmtapParserError.invalidLteMacTransportBlock
          ("unable to serialize GSMTAP payload: " ++ Deku.debugError err)) =
      .ok (packet.subpackets.map fun subpacket =>
        subpacket.body.transportPayloads.map fun payload => ⟨.new .lteMacFramed, payload⟩) := by
    simp only [macTransportToGsmtap_eq]
    exact List.mapM_pure (m := Except GsmtapParserError)
  rw [logToGsmtapAll, h]
  simp only [hall]
  rw [transportFrames, List.flatMap_def]
  rfl

/-- `parse` has nothing of transport blocks. -/
theorem logToGsmtap_transport {body : LogBody} {packet : MacPacket}
    (h : transport? body = some packet) : logToGsmtap body = .ok none := by
  cases body with
  | lteMacDl | lteMacUl => rfl
  | _ => cases h

omit [Deku] in
theorem transportFrames_ne_nil {body : LogBody} {packet : MacPacket}
    (h : transport? body = some packet) : transportFrames packet ≠ [] ↔ HoldsBlock body := by
  cases body with
  | lteMacDl | lteMacUl =>
    cases h
    simp [transportFrames, HoldsBlock, List.flatMap_eq_nil_iff]
  | _ => cases h

/-- What is no record of transport blocks makes what `parse` has. -/
theorem logToGsmtapAll_of_not_transport {body : LogBody} (h : transport? body = none) :
    logToGsmtapAll body = (logToGsmtap body).map Option.toList := by
  rw [logToGsmtapAll, h]

/-- What the conversion of a record comes to. -/
theorem logToGsmtap_cases (body : LogBody) :
    (∃ e, logToGsmtap body = .error e ∧ Unconvertible body) ∨
      (∃ m, logToGsmtap body = .ok (some m) ∧ ¬ Unconvertible body ∧ MakesSingle body) ∨
      logToGsmtap body = .ok none ∧ ¬ Unconvertible body ∧ ¬ MakesSingle body := by
  cases body with
  | lteRrcOtaMessage extHeaderVersion packet =>
    have hknown := rrcSubtype_ok_iff extHeaderVersion packet.getPduNum
    simp only [logToGsmtap, Unconvertible, MakesSingle, ← hknown]
    cases rrcSubtype extHeaderVersion packet.getPduNum with
    | error e => exact .inl ⟨e, rfl, by simp⟩
    | ok subtype => exact .inr (.inl ⟨_, rfl, by simp, subtype, rfl⟩)
  | nas4GMessage | gprsMacSignallingMessage | umtsNasOtaMessage =>
    exact .inr (.inl ⟨_, rfl, not_false, trivial⟩)
  | lteMacRachResponse packet =>
    simp only [logToGsmtap, Unconvertible, MakesSingle]
    cases packet.subpackets with
    | nil => exact .inl ⟨_, rfl, rfl⟩
    | cons subpacket subpackets =>
      simp only [macSubpacketToGsmtap_eq, List.head?_cons, Option.mem_some_iff, exists_eq_left']
      cases subpacket.body.rachMessages with
      | none => exact .inr (.inr ⟨rfl, nofun, nofun⟩)
      | some messages => exact .inr (.inl ⟨_, rfl, nofun, rfl⟩)
  | gsmRrSignallingMessage channelType =>
    simp only [logToGsmtap, Unconvertible, MakesSingle]
    cases gsmRrSubtype channelType with
    | none => exact .inr (.inr ⟨rfl, not_false, nofun⟩)
    | some subtype => exact .inr (.inl ⟨_, rfl, not_false, rfl⟩)
  | wcdmaSignallingMessage channelType =>
    simp only [logToGsmtap, Unconvertible, MakesSingle]
    cases subtypeWithNumber UmtsRrcSubtype.ALL channelType with
    | none => exact .inr (.inr ⟨rfl, not_false, nofun⟩)
    | some subtype => exact .inr (.inl ⟨_, rfl, not_false, rfl⟩)
  | _ => exact .inr (.inr ⟨rfl, not_false, not_false⟩)

omit [Deku] in
/-- What cannot be converted is no record of transport blocks, and no record of them makes another
frame. -/
theorem of_transport {body : LogBody} {packet : MacPacket} (h : transport? body = some packet) :
    ¬ Unconvertible body ∧ ¬ MakesSingle body := by
  cases body with
  | lteMacDl | lteMacUl => exact ⟨not_false, not_false⟩
  | _ => cases h

/-- What the two conversions of a record come to: an error in both, transport blocks in one, or the
same in both. -/
theorem logToGsmtapAll_cases (body : LogBody) :
    (∃ e, logToGsmtapAll body = .error e ∧ logToGsmtap body = .error e ∧ Unconvertible body ∧
        ¬ MakesSingle body ∧ ¬ HoldsBlock body) ∨
      (∃ packet, logToGsmtapAll body = .ok (transportFrames packet) ∧
        logToGsmtap body = .ok none ∧ ¬ Unconvertible body ∧ ¬ MakesSingle body ∧
        (HoldsBlock body ↔ transportFrames packet ≠ [])) ∨
      ∃ single, logToGsmtapAll body = .ok single.toList ∧ logToGsmtap body = .ok single ∧
        ¬ Unconvertible body ∧ (MakesSingle body ↔ single.isSome) ∧ ¬ HoldsBlock body := by
  cases htransport : transport? body with
  | some packet =>
    obtain ⟨hconvertible, hsingle⟩ := of_transport htransport
    exact .inr (.inl ⟨packet, logToGsmtapAll_transport htransport,
      logToGsmtap_transport htransport, hconvertible, hsingle,
      (transportFrames_ne_nil htransport).symm⟩)
  | none =>
    have hblock : ¬ HoldsBlock body := by
      cases body with
      | lteMacDl | lteMacUl => cases htransport
      | _ => exact not_false
    have hall := logToGsmtapAll_of_not_transport htransport
    obtain ⟨e, h, hunconvertible⟩ | ⟨m, h, hconvertible, hsingle⟩ | ⟨h, hconvertible, hsingle⟩ :=
      logToGsmtap_cases body
    · rw [h] at hall
      refine .inl ⟨e, hall, h, hunconvertible, ?_, hblock⟩
      cases body with
      | lteRrcOtaMessage => exact hunconvertible
      | lteMacRachResponse packet =>
        rintro ⟨subpacket, hmem, -⟩
        rw [show packet.subpackets = [] from hunconvertible] at hmem
        cases hmem
      | _ => exact hunconvertible.elim
    · rw [h] at hall
      exact .inr (.inr ⟨some m, hall, h, hconvertible, iff_of_true hsingle rfl, hblock⟩)
    · rw [h] at hall
      exact .inr (.inr ⟨none, hall, h, hconvertible, iff_of_false hsingle nofun, hblock⟩)

/-! ## Frames -/

/-- A record of an LTE NAS message. -/
def isNas : LogBody → Bool
  | .nas4GMessage .. => true
  | _ => false

/-- What holds of the frame of a record: its header can be written, in the MAC layer it has the tag
of a response, and it is an LTE NAS frame only where the record is one. -/
structure OfRecord (body : LogBody) (m : GsmtapMessage) : Prop where
  wellFormed : m.header.WellFormed
  tag : m.header.gsmtapType = .lteMacFramed → m.payload[3]? = some MAC_LTE_PAYLOAD_TAG
  nas : ∀ subtype, m.header.gsmtapType = .lteNas subtype → isNas body

theorem ofRecord_of_single {body : LogBody} {m : GsmtapMessage}
    (h : logToGsmtap body = .ok (some m)) : OfRecord body m := by
  cases body with
  | lteRrcOtaMessage extHeaderVersion packet =>
    simp only [logToGsmtap] at h
    cases hsubtype : rrcSubtype extHeaderVersion packet.getPduNum with
    | error e => rw [hsubtype] at h; cases h
    | ok subtype =>
      rw [hsubtype] at h
      cases h
      exact ⟨(GsmtapHeader.new_wellFormed _).setChannel _ _ _, nofun, nofun⟩
  | nas4GMessage =>
    cases h
    exact ⟨(GsmtapHeader.new_wellFormed _).setUplink _, nofun, fun _ _ => rfl⟩
  | gprsMacSignallingMessage | umtsNasOtaMessage =>
    cases h
    exact ⟨(GsmtapHeader.new_wellFormed _).setUplink _, nofun, nofun⟩
  | lteMacRachResponse packet =>
    simp only [logToGsmtap] at h
    split at h
    · cases h
    next subpacket subpackets _ =>
      rw [macSubpacketToGsmtap_eq] at h
      obtain ⟨messages, -, rfl⟩ := Option.map_eq_some_iff.1 (Except.ok.inj h)
      exact ⟨GsmtapHeader.new_wellFormed _, fun _ => rfl, nofun⟩
  | gsmRrSignallingMessage channelType =>
    obtain ⟨subtype, -, rfl⟩ := Option.map_eq_some_iff.1 (Except.ok.inj h)
    exact ⟨GsmtapHeader.new_wellFormed _, nofun, nofun⟩
  | wcdmaSignallingMessage channelType =>
    obtain ⟨subtype, -, rfl⟩ := Option.map_eq_some_iff.1 (Except.ok.inj h)
    exact ⟨(GsmtapHeader.new_wellFormed _).setUplink _, nofun, nofun⟩
  | _ => cases h

omit [Deku] in
/-- The frame of a transport block has its own tag. -/
theorem frame_of_transport {packet : MacPacket} {m : GsmtapMessage}
    (h : m ∈ transportFrames packet) :
    m.header = .new .lteMacFramed ∧ m.payload[3]? = some MAC_LTE_FRAME_SUBFRAME_TAG := by
  obtain ⟨subpacket, -, h⟩ := List.mem_flatMap.1 h
  obtain ⟨payload, hpayload, rfl⟩ := List.mem_map.1 h
  refine ⟨rfl, ?_⟩
  cases hbody : subpacket.body with
  | dlTransportBlock samples | ulTransportBlock samples =>
    rw [hbody] at hpayload
    obtain ⟨block, -, rfl⟩ := List.mem_map.1 hpayload
    rfl
  | _ =>
    rw [hbody] at hpayload
    cases hpayload

/-- A frame of a record is a transport block or what `parse` has. -/
theorem mem_cases {body : LogBody} {frames : List GsmtapMessage}
    (h : logToGsmtapAll body = .ok frames) {m : GsmtapMessage} (hm : m ∈ frames) :
    (∃ packet, transport? body = some packet ∧ m ∈ transportFrames packet) ∨
      transport? body = none ∧ logToGsmtap body = .ok (some m) := by
  cases htransport : transport? body with
  | some packet =>
    rw [logToGsmtapAll_transport htransport] at h
    cases h
    exact .inl ⟨packet, rfl, hm⟩
  | none =>
    rw [logToGsmtapAll_of_not_transport htransport] at h
    cases hsingle : logToGsmtap body with
    | error e => rw [hsingle] at h; cases h
    | ok single =>
      rw [hsingle] at h
      cases h
      exact .inr ⟨rfl, congrArg Except.ok (Option.mem_toList.1 hm)⟩

/-- Every frame of a record has a header that can be written. -/
theorem wellFormed_of_mem {body : LogBody} {frames : List GsmtapMessage}
    (h : logToGsmtapAll body = .ok frames) {m : GsmtapMessage} (hm : m ∈ frames) :
    m.header.WellFormed := by
  obtain ⟨packet, -, hm⟩ | ⟨-, hsingle⟩ := mem_cases h hm
  · rw [(frame_of_transport hm).1]
    exact GsmtapHeader.new_wellFormed _
  · exact (ofRecord_of_single hsingle).wellFormed

/-- So has every frame of a message. -/
theorem wellFormed_of_parseAll {msg : Message LogBody} {frames : List (Timestamp × GsmtapMessage)}
    (h : parseAll msg = .ok frames) {timestamp : Timestamp} {m : GsmtapMessage}
    (hm : (timestamp, m) ∈ frames) : m.header.WellFormed := by
  cases msg with
  | response =>
    cases h
    cases hm
  | log pendingMsgs outerLength innerLength logType time body =>
    rw [parseAll] at h
    cases hall : logToGsmtapAll body with
    | error e => rw [hall] at h; cases h
    | ok messages =>
      rw [hall] at h
      cases h
      obtain ⟨m', hm', hpair⟩ := List.mem_map.1 hm
      cases hpair
      exact wellFormed_of_mem hall hm'

end GsmtapParser

end Rayhunter
