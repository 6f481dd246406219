import Rayhunter.Diag.Framing
import Rayhunter.Diag.Parse

/-!
# Messages of any bytes

What reading a message comes to, whatever its bytes are. Unwrapping a frame never indexes out of
range (`hdlcDecapsulate?_eq`), and of the lengths that are read every one bounds what it counts. One
difference is taken of them without saturation, that of a subpacket's size and its header: reading
has a fault exactly where the record is one of the MAC layer and reaches a subpacket that declares
less than its header (`parse_returns_iff`).
-/

namespace Rayhunter

open Reader

namespace Parse

/-! ## Readers without a fault -/

instance (extHeaderVersion : UInt8) : Safe (lteRrcOtaPacket extHeaderVersion) := by
  unfold lteRrcOtaPacket
  infer_instance

instance (version : UInt8) : Safe (attemptHeader version) := by
  unfold attemptHeader
  split <;> infer_instance

instance (version : UInt8) : Safe (msg1 version) := by
  unfold msg1
  split <;> infer_instance

instance (version : UInt8) : Safe (msg3 version) := by
  unfold msg3 msg3Grant
  infer_instance

instance (version : UInt8) : Safe (attempt version) := by
  unfold attempt msg2 additionalInfo
  infer_instance

instance (version : UInt8) : Safe (dlBlock version) := by
  unfold dlBlock
  split <;> infer_instance

instance (version : UInt8) : Safe (ulBlock version) := by
  unfold ulBlock
  split <;> infer_instance

instance {α : Type} (block : Reader α) [Safe block] : Safe (samples block) := by
  unfold samples
  infer_instance

instance (id version : UInt8) (size : Nat) : Safe (subpacketBody id version size) := by
  unfold subpacketBody
  split <;> infer_instance

instance (width : Nat) : Safe (bits8 width) := safe_map ..

instance (width : Nat) : Safe (bits16 width) := safe_map ..

instance (width : Nat) : Safe (bits32 width) := safe_map ..

instance : Safe measurementAndEvaluationHeader := by
  refine @safe_bind _ _ _ _ _ fun id => ?_
  split <;> infer_instance

instance : Safe measurementAndEvaluation := by
  unfold measurementAndEvaluation
  infer_instance

instance : Safe measurementsHeader := by
  refine @safe_bind _ _ _ _ _ fun id => ?_
  split <;> infer_instance

instance : Safe measurements := by
  unfold measurements measurementsCell
  infer_instance

instance : Safe timingAdjustment := by
  unfold timingAdjustment
  infer_instance

instance : Safe servingCellTiming := by
  unfold servingCellTiming
  repeat refine @safe_bind _ _ _ _ _ fun _ => ?_
  infer_instance

instance (logType : UInt16) : Safe (nas4GMessageDirection logType) := by
  unfold nas4GMessageDirection
  split <;> infer_instance

instance (subopcode : UInt32) : Safe (logConfigResponse subopcode) := by
  unfold logConfigResponse
  split <;> infer_instance

instance (opcode : Nat) (subopcode : UInt32) : Safe (responsePayload opcode subopcode) :=
  safe_ite ..

instance (opcode1 : UInt8) : Safe (response opcode1) := by
  unfold response
  infer_instance

/-! ## The bytes of a MAC packet -/

/-- Bytes after an attempt. -/
def skipAttempt (version : UInt8) : List UInt8 → Option (List UInt8) :=
  match version with
  | 0x02 => dropBytes 32
  | 0x03 => dropBytes 34
  | 0x31 => dropBytes 48
  | 0x32 => dropBytes 51
  | _ => fun _ => none

/-- Bytes after a downlink block: eleven or thirteen before its header, and the header. -/
def skipDlBlock (version : UInt8) : List UInt8 → Option (List UInt8) :=
  match version with
  | 0x02 => dropCounted 11
  | 0x04 => dropCounted 13
  | _ => fun _ => none

/-- Bytes after an uplink block. -/
def skipUlBlock (version : UInt8) : List UInt8 → Option (List UInt8) :=
  match version with
  | 0x01 => dropCounted 11
  | 0x02 | 0x03 | 0x05 | 0x08 => dropCounted 13
  | _ => fun _ => none

/-- Bytes after the body of a subpacket, of which the declared size counts for an unknown kind
only. -/
def skipBody (id version : UInt8) (size : Nat) : List UInt8 → Option (List UInt8) :=
  match id with
  | 0x06 => skipAttempt version
  | 0x07 => dropAfter fun numSamples => dropTimes (skipDlBlock version) numSamples.toNat
  | 0x08 => dropAfter fun numSamples => dropTimes (skipUlBlock version) numSamples.toNat
  | _ => dropBytes size

/-! ## Their lengths -/

instance : Takes (attemptHeader 0x02) 32 :=
  inferInstanceAs (Takes (AttemptHeader.v2 <$> u8 <*> u8 <*> u8 <*> u8) (8 + 8 + 8 + 8))

/-- The later header has two fields more. -/
theorem takes_attemptHeader (version : UInt8) (h : version ∈ [0x03, 0x31, 0x32]) :
    Takes (attemptHeader version) 48 := by
  have hv3 : Takes (AttemptHeader.v3 <$> u8 <*> u8 <*> u8 <*> u8 <*> u8 <*> u8)
    (8 + 8 + 8 + 8 + 8 + 8) := inferInstance
  simp only [List.mem_cons, List.not_mem_nil, or_false] at h
  obtain rfl | rfl | rfl := h <;> exact hv3

theorem takes_msg1 (version : UInt8) (h : version ∈ [0x02, 0x03, 0x31]) :
    Takes (msg1 version) 32 := by
  simp only [List.mem_cons, List.not_mem_nil, or_false] at h
  obtain rfl | rfl | rfl := h
  · exact inferInstanceAs (Takes (Msg1.v2 <$> u8 <*> u8 <*> UInt16.toInt16 <$> u16) (8 + 8 + 16))
  all_goals
    exact inferInstanceAs (Takes (Msg1.v3Or31 <$> u8 <*> u8 <*> UInt16.toInt16 <$> u16) (8 + 8 + 16))

instance : Takes (msg1 0x32) 56 :=
  inferInstanceAs (Takes (Msg1.v32 <$> u8 <*> u8 <*> UInt16.toInt16 <$> u16 <*> u16 <*>
    UInt8.toInt8 <$> u8) (8 + 8 + 16 + 16 + 8))

instance : Takes msg2 56 :=
  inferInstanceAs (Takes (Msg2.mk <$> u16 <*> u8 <*> u16 <*> u16) (16 + 8 + 16 + 16))

instance (version : UInt8) : Takes (msg3 version) 136 :=
  have : Takes (msg3Grant version) 32 := takes_ite ..
  inferInstanceAs (Takes (Msg3.mk <$> msg3Grant version <*> u16 <*> u8 <*> bytes 10)
    (32 + 16 + 8 + 10 * 8))

instance : Takes additionalInfo 112 :=
  inferInstanceAs (Takes (AdditionalInfo.mk <$> u32 <*> u8 <*> u8 <*> u32 <*> u32)
    (32 + 8 + 8 + 32 + 32))

theorem skips_attempt (version : UInt8) : Skips (attempt version) (skipAttempt version) := by
  unfold skipAttempt
  split
  · have hmsg1 := takes_msg1 0x02 (by decide)
    rw [attempt, if_neg (by decide)]
    exact skips_of_takes rfl
  · have hheader := takes_attemptHeader 0x03 (by decide)
    have hmsg1 := takes_msg1 0x03 (by decide)
    rw [attempt, if_neg (by decide)]
    exact skips_of_takes rfl
  · have hheader := takes_attemptHeader 0x31 (by decide)
    have hmsg1 := takes_msg1 0x31 (by decide)
    rw [attempt, if_pos (by decide)]
    exact skips_of_takes rfl
  · have hheader := takes_attemptHeader 0x32 (by decide)
    rw [attempt, if_pos (by decide)]
    exact skips_of_takes rfl
  · next h2 h3 h31 h32 =>
    have hstop : attemptHeader version = stop .refused := attemptHeader.eq_5 version h2 h3 h31 h32
    rw [attempt, hstop]
    exact .of_error fun _ => ⟨_, rfl⟩

theorem skips_dlBlock (version : UInt8) : Skips (dlBlock version) (skipDlBlock version) := by
  unfold dlBlock
  split
  · show Skips _ (dropCounted 11)
    exact skips_counted rfl
  · show Skips _ (dropCounted 13)
    exact skips_counted rfl
  · next h2 h4 =>
    rw [skipDlBlock.eq_3 version h2 h4]
    exact .of_error fun _ => ⟨_, rfl⟩

theorem skips_ulBlock (version : UInt8) : Skips (ulBlock version) (skipUlBlock version) := by
  unfold ulBlock
  split
  · show Skips _ (dropCounted 11)
    exact skips_counted rfl
  iterate 4
    · show Skips _ (dropCounted 13)
      exact skips_counted rfl
  · next h1 h2 h3 h5 h8 =>
    rw [skipUlBlock.eq_6 version h1 h2 h3 h5 h8]
    exact .of_error fun _ => ⟨_, rfl⟩

theorem skips_subpacketBody (id version : UInt8) (size : Nat) :
    Skips (subpacketBody id version size) (skipBody id version size) := by
  unfold subpacketBody
  split
  · exact (skips_attempt version).map
  · exact Skips.map (.after_u8 fun numSamples => (skips_dlBlock version).count numSamples.toNat)
  · exact Skips.map (.after_u8 fun numSamples => (skips_ulBlock version).count numSamples.toNat)
  · next h6 h7 h8 =>
    rw [skipBody.eq_4 id version size h6 h7 h8]
    exact (skips_bytes size).map

/-! ## Subpackets -/

/-- The size that a subpacket declares. -/
def declaredSize (b₀ b₁ : UInt8) : Nat := b₀.toNat + 256 * b₁.toNat

theorem toNat_declaredSize (b₀ b₁ : UInt8) :
    (UInt16.ofNat (declaredSize b₀ b₁)).toNat = declaredSize b₀ b₁ := by
  have h₀ := b₀.toNat_lt
  have h₁ := b₁.toNat_lt
  rw [UInt16.toNat_ofNat']
  exact Nat.mod_eq_of_lt (by simp only [declaredSize]; omega)

/-- The bytes of some subpackets, of which one that is reached declares less than its header. -/
def reachesShort : Nat → List UInt8 → Bool
  | n + 1, id :: version :: b₀ :: b₁ :: data =>
    declaredSize b₀ b₁ < 4 ||
      (skipBody id version (declaredSize b₀ b₁ - 4) data).any (reachesShort n)
  | _, _ => false

/-- A subpacket after its header: a fault where it declares less than that, or its body. -/
theorem run_subpacket (id version b₀ b₁ : UInt8) (data : List UInt8) :
    subpacket.run (Bits.ofBytes (id :: version :: b₀ :: b₁ :: data)) =
      if 4 ≤ declaredSize b₀ b₁ then
        (Subpacket.mk id version (UInt16.ofNat (declaredSize b₀ b₁)) <$>
          subpacketBody id version (declaredSize b₀ b₁ - 4)).run (Bits.ofBytes data)
      else .error .fault := by
  rw [subpacket, run_bind, run_u8_cons]
  show (u8 >>= _).run _ = _
  rw [run_bind, run_u8_cons]
  show (u16 >>= _).run _ = _
  rw [run_bind, run_u16_cons, andThen, ← declaredSize, toNat_declaredSize, sub]
  split <;> rfl

/-- A subpacket whose header is cut off. -/
theorem run_subpacket_of_lt {data : List UInt8} (h : data.length < 4) :
    subpacket.run (Bits.ofBytes data) = .error .incomplete ∧ ∀ n, reachesShort n data = false := by
  match data, h with
  | [], _ | [_], _ | [_, _], _ | [_, _, _], _ => exact ⟨rfl, fun n => by cases n <;> rfl⟩

theorem exists_of_length {data : List UInt8} (h : 4 ≤ data.length) :
    ∃ b₀ b₁ b₂ b₃ rest, data = b₀ :: b₁ :: b₂ :: b₃ :: rest := by
  match data with
  | b₀ :: b₁ :: b₂ :: b₃ :: rest => exact ⟨b₀, b₁, b₂, b₃, rest, rfl⟩

/-- Reading subpackets has a fault where they reach a short one. -/
theorem run_count_subpacket (n : Nat) (data : List UInt8) :
    (count subpacket n).run (Bits.ofBytes data) = .error .fault ↔ reachesShort n data := by
  induction n generalizing data with
  | zero => exact iff_of_false nofun nofun
  | succ n ih =>
    rw [run_count_succ_eq_fault]
    rcases Nat.lt_or_ge data.length 4 with hlt | hge
    · obtain ⟨hrun, hreaches⟩ := run_subpacket_of_lt hlt
      rw [hrun, hreaches]
      simp
    · obtain ⟨id, version, b₀, b₁, data, rfl⟩ := exists_of_length hge
      rw [run_subpacket, reachesShort, Bool.or_eq_true, decide_eq_true_eq]
      split
      · next hsize =>
        have hbody := (skips_subpacketBody id version (declaredSize b₀ b₁ - 4)).map
          (f := Subpacket.mk id version (UInt16.ofNat (declaredSize b₀ b₁))) data
        rw [or_iff_right (Safe.ne_fault _), or_iff_right (Nat.not_lt.2 hsize), Option.any_eq_true]
        constructor
        · rintro ⟨a, s, ha, hfault⟩
          obtain ⟨rest, hrest, rfl⟩ := (hbody s).1 ⟨a, ha⟩
          exact ⟨rest, hrest, (ih rest).1 hfault⟩
        · rintro ⟨rest, hrest, hshort⟩
          obtain ⟨a, ha⟩ := (hbody _).2 ⟨rest, hrest, rfl⟩
          exact ⟨a, _, ha, (ih rest).2 hshort⟩
      · next hsize => exact iff_of_true (.inl rfl) (.inl (Nat.lt_of_not_le hsize))

/-- A MAC packet that reaches a short subpacket. -/
def packetShort : List UInt8 → Bool
  | version :: numSubpackets :: data =>
    version = 1 && (dropBytes 2 data).any (reachesShort numSubpackets.toNat)
  | _ => false

theorem run_macPacket (data : List UInt8) :
    macPacket.run (Bits.ofBytes data) = .error .fault ↔ packetShort data := by
  have hpad := skips_of_takes (p := pad 16) (n := 2) rfl
  constructor
  · intro h
    obtain ⟨version, s, hversion, h⟩ := run_bind_eq_fault.1 h
    obtain ⟨data, rfl, rfl⟩ := run_u8_eq_ok.1 hversion
    obtain ⟨_, s, hcheck, h⟩ := run_bind_eq_fault.1 h
    obtain ⟨rfl, rfl⟩ := run_check_eq_ok.1 hcheck
    obtain ⟨numSubpackets, s, hnum, h⟩ := run_bind_eq_fault.1 h
    obtain ⟨data, rfl, rfl⟩ := run_u8_eq_ok.1 hnum
    obtain ⟨_, s, hrun, h⟩ := run_bind_eq_fault.1 h
    obtain ⟨rest, hrest, rfl⟩ := (hpad data s).1 ⟨_, hrun⟩
    have hshort := (run_count_subpacket _ rest).1 (run_map_eq_fault.1 h)
    rw [packetShort, hrest, Option.any_some, hshort]
    rfl
  · intro h
    match data with
    | version :: numSubpackets :: data =>
      obtain ⟨hversion, hany⟩ := Bool.and_eq_true_iff.1 h
      obtain rfl := of_decide_eq_true hversion
      obtain ⟨rest, hrest, hshort⟩ := (Option.any_eq_true ..).1 hany
      obtain ⟨_, hrun⟩ := (hpad data _).2 ⟨rest, hrest, rfl⟩
      refine run_bind_eq_fault.2 ⟨1, _, run_u8_cons .., ?_⟩
      refine run_bind_eq_fault.2 ⟨(), _, run_check_eq_ok.2 ⟨rfl, rfl⟩, ?_⟩
      refine run_bind_eq_fault.2 ⟨numSubpackets, _, run_u8_cons .., ?_⟩
      refine run_bind_eq_fault.2 ⟨(), _, hrun, ?_⟩
      exact run_map_eq_fault.2 ((run_count_subpacket _ rest).2 hshort)

/-! ## Messages -/

/-- The types of the records of the MAC layer. -/
def macTypes : List UInt16 := [0xb062, 0xb063, 0xb064]

/-- A body has a fault where it is a MAC packet that has one. -/
theorem run_logBody (logType : UInt16) (hdrLen : Nat) (s : List Bool) :
    (logBody logType hdrLen).run s = .error .fault ↔
      logType ∈ macTypes ∧ macPacket.run s = .error .fault := by
  unfold logBody
  split
  case h_14 | h_15 | h_16 =>
    exact run_map_eq_fault.trans (and_iff_right (by decide)).symm
  case h_18 h14 h15 h16 _ =>
    refine iff_of_false nofun fun h => ?_
    have hmem := h.1
    simp only [macTypes, List.mem_cons, List.not_mem_nil, or_false] at hmem
    exact hmem.elim h14 (Or.rec h15 h16)
  all_goals exact iff_of_false (Safe.ne_fault s) fun h => absurd h.1 (by decide)

/-- A log record that reaches a short subpacket: the type is at its fifth byte, the body after it and
the timestamp. -/
def recordShort : List UInt8 → Bool
  | _ :: _ :: _ :: _ :: _ :: t₀ :: t₁ :: data =>
    UInt16.ofNat (declaredSize t₀ t₁) ∈ macTypes && (dropBytes 8 data).any packetShort
  | _ => false

theorem run_logRecord (data : List UInt8) :
    logRecord.run (Bits.ofBytes data) = .error .fault ↔ recordShort data := by
  have htimestamp := skips_of_takes (p := Timestamp.mk <$> u64) (n := 8) rfl
  constructor
  · intro h
    obtain ⟨pendingMsgs, s, hpending, h⟩ := run_bind_eq_fault.1 h
    obtain ⟨data, rfl, rfl⟩ := run_u8_eq_ok.1 hpending
    obtain ⟨outerLength, s, houter, h⟩ := run_bind_eq_fault.1 h
    obtain ⟨o₀, o₁, data, rfl, -, rfl⟩ := run_u16_eq_ok.1 houter
    obtain ⟨innerLength, s, hinner, h⟩ := run_bind_eq_fault.1 h
    obtain ⟨i₀, i₁, data, rfl, -, rfl⟩ := run_u16_eq_ok.1 hinner
    obtain ⟨logType, s, hlog, h⟩ := run_bind_eq_fault.1 h
    obtain ⟨t₀, t₁, data, rfl, rfl, rfl⟩ := run_u16_eq_ok.1 hlog
    obtain ⟨timestamp, s, hrun, h⟩ := run_bind_eq_fault.1 h
    obtain ⟨rest, hrest, rfl⟩ := (htimestamp data s).1 ⟨_, hrun⟩
    obtain ⟨hmac, hpacket⟩ := (run_logBody ..).1 (run_map_eq_fault.1 h)
    rw [recordShort, hrest, Option.any_some, (run_macPacket rest).1 hpacket, Bool.and_true]
    exact decide_eq_true hmac
  · intro h
    match data with
    | pendingMsgs :: o₀ :: o₁ :: i₀ :: i₁ :: t₀ :: t₁ :: data =>
      obtain ⟨hmac, hany⟩ := Bool.and_eq_true_iff.1 h
      obtain ⟨rest, hrest, hpacket⟩ := (Option.any_eq_true ..).1 hany
      obtain ⟨_, hrun⟩ := (htimestamp data _).2 ⟨rest, hrest, rfl⟩
      refine run_bind_eq_fault.2 ⟨pendingMsgs, _, run_u8_cons .., ?_⟩
      refine run_bind_eq_fault.2 ⟨_, _, run_u16_cons .., ?_⟩
      refine run_bind_eq_fault.2 ⟨_, _, run_u16_cons .., ?_⟩
      refine run_bind_eq_fault.2 ⟨_, _, run_u16_cons .., ?_⟩
      refine run_bind_eq_fault.2 ⟨_, _, hrun, run_map_eq_fault.2 ?_⟩
      exact (run_logBody ..).2 ⟨of_decide_eq_true hmac, (run_macPacket rest).2 hpacket⟩

/-- A message that is a log record of the MAC layer and reaches a subpacket that declares less than
its header. -/
def reachesShortSubpacket : List UInt8 → Bool
  | id :: data => id = 16 && recordShort data
  | [] => false

/-- Reading a message has a fault where it reaches a short subpacket. -/
theorem run_message (data : List UInt8) :
    message.run (Bits.ofBytes data) = .error .fault ↔ reachesShortSubpacket data := by
  unfold message
  rw [run_bind_eq_fault]
  cases data with
  | nil =>
    refine iff_of_false ?_ nofun
    rintro ⟨id, s, h, -⟩
    cases h
  | cons id data =>
    rw [reachesShortSubpacket, Bool.and_eq_true, decide_eq_true_eq, ← run_logRecord]
    constructor
    · rintro ⟨id', s, hid, h⟩
      obtain ⟨_, heq, rfl⟩ := run_u8_eq_ok.1 hid
      cases heq
      split at h
      · next hlog => exact ⟨hlog, h⟩
      · exact absurd h (Safe.ne_fault _)
    · rintro ⟨rfl, h⟩
      exact ⟨16, _, run_u8_cons .., h⟩

end Parse

/-! ## What is counted -/

/-- An RRC message of the declared length. -/
def LteRrcOtaPacket.Counted : LteRrcOtaPacket → Prop
  | v0 _ _ _ _ _ _ _ len packet => packet.length = len.toNat
  | v5 _ _ _ _ _ _ _ _ len packet => packet.length = len.toNat
  | v8 _ _ _ _ _ _ _ _ len packet => packet.length = len.toNat
  | v25 _ _ _ _ _ _ _ _ _ _ len packet => packet.length = len.toNat

/-- A downlink block whose header has the declared length. -/
def DlBlock.Counted : DlBlock → Prop
  | v2 _ _ _ _ _ _ _ headerLen macHeader => macHeader.length = headerLen.toNat
  | v4 _ _ _ _ _ _ _ _ _ headerLen macHeader => macHeader.length = headerLen.toNat

/-- An uplink block whose header has. -/
def UlBlock.Counted : UlBlock → Prop
  | v1 _ _ _ _ _ _ _ _ headerLen macHeader => macHeader.length = headerLen.toNat
  | v2 _ _ _ _ _ _ _ _ _ _ headerLen macHeader => macHeader.length = headerLen.toNat

/-- The body of a subpacket, in which every block is as long as declared, or the whole. -/
def SubpacketBody.Counted (size : Nat) : SubpacketBody → Prop
  | rachAttempt attempt => attempt.msg3.macPdu.length = 10
  | dlTransportBlock samples => ∀ block ∈ samples, block.Counted
  | ulTransportBlock samples => ∀ block ∈ samples, block.Counted
  | other data => data.length = size

/-- A subpacket that is no shorter than its header, with such a body. -/
def Subpacket.Counted (subpacket : Subpacket) : Prop :=
  4 ≤ subpacket.size.toNat ∧ subpacket.body.Counted (subpacket.size.toNat - 4)

/-- A body in which what is counted is as long as declared, in the record or in the length of it. -/
def LogBody.Counted (hdrLen : Nat) : LogBody → Prop
  | wcdmaSignallingMessage _ _ length msg => msg.length = length.toNat
  | gsmRrSignallingMessage _ _ length msg => msg.length = length.toNat
  | gprsMacSignallingMessage _ _ length msg => msg.length = length.toNat
  | lteRrcOtaMessage _ packet => packet.Counted
  | nas4GMessage _ _ _ _ _ _ msg => msg.length = hdrLen - 4
  | ipTraffic msg => msg.length = hdrLen - 8
  | umtsNasOtaMessage _ length msg => msg.length = length.toNat
  | nrRrcOtaMessage msg => msg.length = hdrLen
  | lteMl1ServingCellMeasurementAndEvaluation _ => True
  | lteMl1NeighborCellsMeasurements data => data.cells.length = Parse.getNCells data.header
  | lteMacRachResponse packet | lteMacDl packet | lteMacUl packet =>
    ∀ subpacket ∈ packet.subpackets, subpacket.Counted
  | lteLl1ServingCellTiming => True

/-- A message in whose body it is. -/
def Message.Counted : Message LogBody → Prop
  | log _ _ innerLength _ _ body => body.Counted (innerLength.toNat - 12)
  | response .. => True

namespace Parse

theorem yields_lteRrcOtaPacket (extHeaderVersion : UInt8) :
    Yields (lteRrcOtaPacket extHeaderVersion) LteRrcOtaPacket.Counted := by
  unfold lteRrcOtaPacket
  refine .ite ?_ (.ite ?_ (.ite ?_ ?_))
  all_goals
    refine yields_counted ?_
    repeat refine .seq_of_forall ?_
    exact Yields.map_of_forall fun _ => by intros; assumption

theorem yields_dlBlock (version : UInt8) : Yields (dlBlock version) DlBlock.Counted := by
  unfold dlBlock
  split
  case h_3 => exact .stop
  all_goals
    refine yields_counted ?_
    repeat refine .seq_of_forall ?_
    exact Yields.map_of_forall fun _ => by intros; assumption

theorem yields_ulBlock (version : UInt8) : Yields (ulBlock version) UlBlock.Counted := by
  unfold ulBlock
  split
  case h_6 => exact .stop
  all_goals
    refine yields_counted ?_
    repeat refine .seq_of_forall ?_
    exact Yields.map_of_forall fun _ => by intros; assumption

theorem yields_samples {α : Type} {block : Reader α} {Q : α → Prop} (h : Yields block Q) :
    Yields (samples block) fun blocks => ∀ block ∈ blocks, Q block :=
  .after fun numSamples s blocks s' hrun =>
    (yields_count h numSamples.toNat s blocks s' hrun).2

theorem yields_attempt (version : UInt8) :
    Yields (attempt version) fun attempt => attempt.msg3.macPdu.length = 10 := by
  have hmsg3 : Yields (msg3 version) fun msg => msg.macPdu.length = 10 := by
    refine .seq ?_ (yields_bytes 10)
    repeat refine .seq_of_forall ?_
    exact .map_of_forall fun _ _ _ _ h => h
  refine .seq_of_forall (.seq ?_ hmsg3)
  repeat refine .seq_of_forall ?_
  exact .map_of_forall fun _ _ _ _ h _ => h

theorem yields_subpacketBody (id version : UInt8) (size : Nat) :
    Yields (subpacketBody id version size) (SubpacketBody.Counted size) := by
  unfold subpacketBody
  split
  · exact (yields_attempt version).map fun _ h => h
  · exact (yields_samples (yields_dlBlock version)).map fun _ h => h
  · exact (yields_samples (yields_ulBlock version)).map fun _ h => h
  · exact (yields_bytes size).map fun _ h => h

theorem yields_subpacket : Yields subpacket Subpacket.Counted := by
  refine .after fun id => .after fun version => .after fun size => ?_
  unfold sub
  split
  · next hsize => exact (yields_subpacketBody id version _).map fun _ h => ⟨hsize, h⟩
  · exact .bind .stop (P := fun _ => False) fun _ h => h.elim

theorem yields_macPacket :
    Yields macPacket fun packet => ∀ subpacket ∈ packet.subpackets, subpacket.Counted :=
  .after fun _ => .after fun _ => .after fun numSubpackets => .after fun _ =>
    (yields_count yields_subpacket numSubpackets.toNat).map fun _ h => h.2

theorem yields_measurements :
    Yields measurements fun data => data.cells.length = getNCells data.header :=
  .after fun _ => (yields_count (.of_forall fun _ => trivial) _).map fun _ h => h.1

/-- Every body has what it counts. -/
theorem yields_logBody (logType : UInt16) (hdrLen : Nat) :
    Yields (logBody logType hdrLen) (LogBody.Counted hdrLen) := by
  unfold logBody
  split
  case h_1 | h_2 | h_3 | h_10 =>
    refine yields_counted ?_
    repeat refine .seq_of_forall ?_
    exact Yields.map_of_forall fun _ => by intros; assumption
  case h_4 => exact .after fun _ => (yields_lteRrcOtaPacket _).map fun _ h => h
  case h_9 | h_11 => exact (yields_bytes _).map fun _ h => h
  case h_12 => exact Yields.map_of_forall fun _ => trivial
  case h_13 => exact yields_measurements.map fun _ h => h
  case h_14 | h_15 | h_16 => exact yields_macPacket.map fun _ h => h
  case h_17 => exact Yields.map_of_forall fun _ => trivial
  case h_18 => exact .stop
  all_goals
    refine .seq ?_ (yields_bytes _)
    repeat refine .seq_of_forall ?_
    exact .map_of_forall fun _ _ _ _ _ _ h => h

theorem yields_message : Yields message Message.Counted := by
  refine .after fun id => .ite ?_ ?_
  · refine .after fun _ => .after fun _ => .after fun innerLength => .after fun logType =>
      .after fun _ => ?_
    exact (yields_logBody logType (innerLength.toNat - 12)).map fun _ h => h
  · refine .after fun _ => .after fun _ => .after fun _ => .after fun _ => .after fun _ => ?_
    exact Yields.map_of_forall fun _ => trivial

end Parse

/-! ## Reading -/

/-- What is asked of reading a message: that it comes to one or to an error, and that what it comes
to is read off the data, with all that is counted as long as declared. -/
structure Returns (data : List UInt8) : Prop where
  returns : Message.read data ≠ .error .fault
  within : ∀ msg rest, Message.read data = .ok (msg, rest) →
    rest <:+ Bits.ofBytes data ∧ msg.Counted

/-- Unwrapping a frame indexes nothing out of range. -/
theorem hdlcDecapsulate?_eq (data : List UInt8) :
    hdlcDecapsulate? data = some (hdlcDecapsulate data) := by
  unfold hdlcDecapsulate? hdlcDecapsulate
  split
  · rfl
  · next hlong =>
    have hlast : data[data.length - 1]? = some (data.getLast?.getD 0) := by
      rw [List.getLast?_eq_getElem?, List.getElem?_eq_getElem (by omega)]
      rfl
    rw [if_neg (by omega), hlast, ← List.dropLast_eq_take]
    simp only [Option.bind_eq_bind, Option.bind_some, if_pos (Nat.sub_le data.length 1)]
    split
    · rfl
    · cases unescape false data.dropLast <;> rfl

/-- A frame is read but for that. -/
theorem fromHdlc?_eq_none_iff (data : List UInt8) :
    Message.fromHdlc? data = none ↔
      ∃ message, hdlcDecapsulate data = .ok message ∧ Parse.reachesShortSubpacket message := by
  unfold Message.fromHdlc?
  rw [hdlcDecapsulate?_eq]
  cases hdlcDecapsulate data with
  | error e =>
    refine iff_of_false (Option.some_ne_none _) ?_
    rintro ⟨_, ⟨⟩, _⟩
  | ok message =>
    simp only [Except.ok.injEq, exists_eq_left', ← Parse.run_message]
    rw [Option.bind_eq_bind, Option.bind_some]
    show _ ↔ Message.read message = _
    dsimp only
    cases Message.read message with
    | ok result => simp
    | error e => cases e <;> simp

/-- A record of transport blocks with a subpacket that declares to be of no bytes. -/
def shortRecord : List UInt8 :=
  [16, 0, 24, 0, 24, 0, 0x63, 0xb0, 0, 0, 0, 0, 0, 0, 0, 0, 1, 1, 0, 0, 0x07, 0x02, 0, 0]

end Rayhunter
