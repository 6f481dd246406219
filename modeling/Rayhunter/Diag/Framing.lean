import Rayhunter.Diag.Message

/-!
# Wrapping a frame

`hdlc_encapsulate` of `lib/src/hdlc.rs`, which undoes `hdlc_decapsulate`. No terminator is left in
what is escaped, so the frames of a stream are found by their ends, and the escapes are undone byte
by byte, checksum and all (`frames_lossless`).
-/

namespace Rayhunter

/-- One byte as `hdlc_encapsulate` writes it. -/
def escapeByte (b : UInt8) : List UInt8 :=
  if b = MESSAGE_TERMINATOR then [MESSAGE_ESCAPE_CHAR, ESCAPED_MESSAGE_TERMINATOR]
  else if b = MESSAGE_ESCAPE_CHAR then [MESSAGE_ESCAPE_CHAR, ESCAPED_MESSAGE_ESCAPE_CHAR]
  else [b]

/-- `to_le_bytes` of a checksum. -/
def checksumBytes (crc : UInt16) : List UInt8 := [crc.toUInt8, (crc >>> 8).toUInt8]

/-- `hdlc_encapsulate` (`hdlc.rs:29`) with the checksum `CRC_CCITT`. -/
def hdlcEncapsulate (data : List UInt8) : List UInt8 :=
  data.flatMap escapeByte ++ (checksumBytes (crcCcitt data)).flatMap escapeByte ++
    [MESSAGE_TERMINATOR]

/-! ## Escapes -/

/-- No terminator is left. -/
theorem isTerminator_escapeByte {a b : UInt8} (h : a ∈ escapeByte b) : isTerminator a = false := by
  unfold escapeByte at h
  split at h
  · rcases List.mem_pair.1 h with rfl | rfl <;> rfl
  · next hb =>
    split at h
    · rcases List.mem_pair.1 h with rfl | rfl <;> rfl
    · rw [List.mem_singleton.1 h]
      exact beq_false_of_ne hb

/-- A byte is read back from what is written for it. -/
theorem unescape_escapeByte (b : UInt8) (rest : List UInt8) :
    unescape false (escapeByte b ++ rest) = (unescape false rest).map (b :: ·) := by
  unfold escapeByte
  split
  · next h => subst h; rfl
  split
  · next h => subst h; rfl
  · next h => simp [unescape, h]

/-- So are any bytes, with what follows them. -/
theorem unescape_flatMap (bytes rest : List UInt8) :
    unescape false (bytes.flatMap escapeByte ++ rest) = (unescape false rest).map (bytes ++ ·) := by
  induction bytes with
  | nil => cases h : unescape false rest <;> simp [Except.map, h]
  | cons b bytes ih =>
    rw [List.flatMap_cons, List.append_assoc, unescape_escapeByte, ih]
    cases unescape false rest <;> rfl

/-! ## The checksum -/

/-- The bytes of a checksum make it up again. -/
theorem checksumBytes_le (crc : UInt16) :
    crc.toUInt8.toUInt16 + ((crc >>> 8).toUInt8.toUInt16 <<< 8) = crc := by
  apply UInt16.toNat_inj.1
  have := crc.toNat_lt
  simp only [UInt16.toNat_add, UInt8.toNat_toUInt16, UInt16.toNat_toUInt8, UInt16.toNat_shiftLeft,
    UInt16.toNat_shiftRight, UInt16.reduceToNat, Nat.shiftLeft_eq, Nat.shiftRight_eq_div_pow,
    Nat.reduceMod, Nat.reducePow]
  omega

/-- A payload is taken from before its own checksum. -/
theorem takeChecksum_checksumBytes (payload : List UInt8) :
    takeChecksum (payload ++ checksumBytes (crcCcitt payload)) = .ok payload := by
  have hrev : (payload ++ checksumBytes (crcCcitt payload)).reverse =
      (crcCcitt payload >>> 8).toUInt8 :: (crcCcitt payload).toUInt8 :: payload.reverse := by
    rw [List.reverse_append]
    rfl
  rw [takeChecksum, hrev]
  simp only [List.reverse_reverse, checksumBytes_le, if_true]

/-! ## Frames -/

/-- A frame ends at its one terminator. -/
theorem hdlcEncapsulate_frame (data : List UInt8) :
    ∃ l t, hdlcEncapsulate data = l ++ [t] ∧ (∀ a ∈ l, isTerminator a = false) ∧
      isTerminator t = true := by
  refine ⟨_, MESSAGE_TERMINATOR, rfl, fun a ha => ?_, rfl⟩
  rw [← List.flatMap_append] at ha
  obtain ⟨b, -, hab⟩ := List.mem_flatMap.1 ha
  exact isTerminator_escapeByte hab

theorem length_escapeByte_pos (b : UInt8) : 0 < (escapeByte b).length := by
  unfold escapeByte
  split
  · exact Nat.succ_pos _
  · split <;> exact Nat.succ_pos _

/-- A frame has a checksum and a terminator. -/
theorem three_le_length_hdlcEncapsulate (data : List UInt8) : 3 ≤ (hdlcEncapsulate data).length := by
  have hlo := length_escapeByte_pos (crcCcitt data).toUInt8
  have hhi := length_escapeByte_pos (crcCcitt data >>> 8).toUInt8
  simp only [hdlcEncapsulate, checksumBytes, List.length_append, List.flatMap_cons,
    List.flatMap_nil, List.length_singleton, List.length_nil]
  omega

/-- A frame is unwrapped to what was wrapped. -/
theorem hdlcDecapsulate_hdlcEncapsulate (data : List UInt8) :
    hdlcDecapsulate (hdlcEncapsulate data) = .ok data := by
  have hlong := not_lt.2 (three_le_length_hdlcEncapsulate data)
  have hbody : unescape false (hdlcEncapsulate data).dropLast =
      .ok (data ++ checksumBytes (crcCcitt data)) := by
    have hend := unescape_flatMap (data ++ checksumBytes (crcCcitt data)) []
    rw [List.append_nil, List.flatMap_append] at hend
    rw [hdlcEncapsulate, List.dropLast_concat, hend]
    simp [unescape, Except.map]
  have hlast : (hdlcEncapsulate data).getLast?.getD 0 = MESSAGE_TERMINATOR := by
    rw [hdlcEncapsulate, List.getLast?_concat]
    rfl
  rw [hdlcDecapsulate, if_neg hlong]
  simp only [hlast, hbody, ne_eq, not_true_eq_false, if_false]
  exact takeChecksum_checksumBytes data

/-- **Framing loses nothing**: a stream of frames is cut into those frames at its terminators, and
each is unwrapped to what was wrapped in it. -/
theorem frames_lossless (payloads : List (List UInt8)) :
    Chunks.splitInclusive isTerminator (payloads.map hdlcEncapsulate).flatten =
        payloads.map hdlcEncapsulate ∧
      ∀ data ∈ payloads, hdlcDecapsulate (hdlcEncapsulate data) = .ok data := by
  refine ⟨Chunks.splitInclusive_frames fun f hf => ?_,
    fun data _ => hdlcDecapsulate_hdlcEncapsulate data⟩
  obtain ⟨data, -, rfl⟩ := List.mem_map.1 hf
  exact hdlcEncapsulate_frame data

end Rayhunter
