import Rayhunter.Diag.Framing

/-!
# What is accepted as a frame

`hdlc_decapsulate` of `lib/src/hdlc.rs` from the other side: what it accepts is what
`hdlc_encapsulate` writes, but for an escape right before the terminator, of which the loop never
sees the second byte and which it drops (`unescape_ok`). So the frames it accepts that are not the
encoder's are the encoder's with that escape put in (`accepted_iff`).
-/

namespace Rayhunter

/-- The escape whose second byte the loop is waiting for. -/
def pending (escaping : Bool) : List UInt8 := if escaping then [MESSAGE_ESCAPE_CHAR] else []

/-- A byte put in front of what is unescaped. -/
theorem unescape_map_ok {b : UInt8} {bs bytes : List UInt8}
    (h : (unescape false bs).map (b :: ·) = .ok bytes) :
    ∃ rest, unescape false bs = .ok rest ∧ bytes = b :: rest := by
  cases hbs : unescape false bs with
  | error e => rw [hbs] at h; cases h
  | ok rest => rw [hbs] at h; cases h; exact ⟨rest, rfl, rfl⟩

/-- What is unescaped has been escaped byte by byte, up to an escape that nothing follows. -/
theorem unescape_ok {escaping : Bool} {body bytes : List UInt8}
    (h : unescape escaping body = .ok bytes) (hbody : MESSAGE_TERMINATOR ∉ body) :
    pending escaping ++ body = bytes.flatMap escapeByte ∨
      pending escaping ++ body = bytes.flatMap escapeByte ++ [MESSAGE_ESCAPE_CHAR] := by
  induction body generalizing escaping bytes with
  | nil =>
    cases escaping <;> cases h
    · exact .inl rfl
    · exact .inr rfl
  | cons b bs ih =>
    obtain ⟨hb, hbs⟩ := not_or.1 (List.mem_cons.not.1 hbody)
    -- what is written for one byte, and the rest
    have hcons : ∀ {c : UInt8} {bytes : List UInt8},
        (unescape false bs).map (c :: ·) = .ok bytes →
        escapeByte c ++ bs = bytes.flatMap escapeByte ∨
          escapeByte c ++ bs = bytes.flatMap escapeByte ++ [MESSAGE_ESCAPE_CHAR] := by
      intro c bytes h
      obtain ⟨rest, hrest, rfl⟩ := unescape_map_ok h
      rw [List.flatMap_cons]
      rcases ih hrest hbs with heq | heq
      · exact .inl (congrArg _ heq)
      · exact .inr ((congrArg _ heq).trans (List.append_assoc ..).symm)
    cases escaping with
    | true =>
      rw [unescape] at h
      split at h
      · next heq => exact heq ▸ hcons h
      split at h
      · next heq => exact heq ▸ hcons h
      · cases h
    | false =>
      rw [unescape] at h
      split at h
      · next heq =>
        subst heq
        exact ih h hbs
      · next hne =>
        have hplain : escapeByte b = [b] := by
          rw [escapeByte, if_neg (Ne.symm hb), if_neg hne]
        have hb := hcons h
        rwa [hplain] at hb

/-- The bytes a checksum is made up of are its bytes. -/
theorem checksumBytes_of_le (lo hi : UInt8) :
    checksumBytes (lo.toUInt16 + (hi.toUInt16 <<< 8)) = [lo, hi] := by
  have hlo := lo.toNat_lt
  have hhi := hi.toNat_lt
  rw [checksumBytes, List.cons.injEq, List.cons.injEq]
  refine ⟨UInt8.toNat_inj.1 ?_, UInt8.toNat_inj.1 ?_, rfl⟩ <;>
    simp only [UInt16.toNat_add, UInt8.toNat_toUInt16, UInt16.toNat_toUInt8,
      UInt16.toNat_shiftLeft, UInt16.toNat_shiftRight, UInt16.reduceToNat, Nat.shiftLeft_eq,
      Nat.shiftRight_eq_div_pow, Nat.reduceMod, Nat.reducePow] <;>
    omega

/-- A payload is taken from before its own checksum only. -/
theorem takeChecksum_ok {unescaped payload : List UInt8} (h : takeChecksum unescaped = .ok payload) :
    unescaped = payload ++ checksumBytes (crcCcitt payload) := by
  unfold takeChecksum at h
  split at h
  · next hi lo rest hrev =>
    simp only at h
    split at h
    · next hcrc =>
      cases h
      rw [← hcrc, checksumBytes_of_le, ← List.reverse_reverse unescaped, hrev]
      simp
    · cases h
  · cases h

/-- A frame with an escape put in before its terminator. -/
def withEscape (frame : List UInt8) : List UInt8 :=
  frame.dropLast ++ [MESSAGE_ESCAPE_CHAR, MESSAGE_TERMINATOR]

theorem withEscape_hdlcEncapsulate (data : List UInt8) :
    withEscape (hdlcEncapsulate data) =
      (data ++ checksumBytes (crcCcitt data)).flatMap escapeByte ++
        [MESSAGE_ESCAPE_CHAR, MESSAGE_TERMINATOR] := by
  rw [withEscape, hdlcEncapsulate, List.dropLast_concat, List.flatMap_append]

/-- What is accepted is the encoder's, or the encoder's with that escape put in. -/
theorem hdlcDecapsulate_ok {frame data : List UInt8} (hframe : MESSAGE_TERMINATOR ∉ frame.dropLast)
    (h : hdlcDecapsulate frame = .ok data) :
    frame = hdlcEncapsulate data ∨ frame = withEscape (hdlcEncapsulate data) := by
  unfold hdlcDecapsulate at h
  split at h
  · cases h
  simp only at h
  split at h
  · cases h
  next hlong hlast =>
  split at h
  · cases h
  · next unescaped hbody =>
    rw [not_not] at hlast
    obtain rfl := takeChecksum_ok h
    have hne : frame ≠ [] := by
      rintro rfl
      exact hlong (by decide)
    have hlast' : frame.getLast hne = MESSAGE_TERMINATOR := by
      rw [← hlast, List.getLast?_eq_some_getLast hne]
      rfl
    have hframe' : frame = frame.dropLast ++ [MESSAGE_TERMINATOR] := by
      rw [← hlast', List.dropLast_concat_getLast hne]
    rw [withEscape_hdlcEncapsulate, hframe', hdlcEncapsulate, ← List.flatMap_append]
    rcases unescape_ok hbody hframe with heq | heq
    · exact .inl (congrArg (· ++ [MESSAGE_TERMINATOR]) heq)
    · refine .inr ((congrArg (· ++ [MESSAGE_TERMINATOR]) heq).trans ?_)
      rw [List.append_assoc]
      rfl

/-- The escape is dropped. -/
theorem hdlcDecapsulate_withEscape (data : List UInt8) :
    hdlcDecapsulate (withEscape (hdlcEncapsulate data)) = .ok data := by
  have hbody : unescape false ((data ++ checksumBytes (crcCcitt data)).flatMap escapeByte ++
      [MESSAGE_ESCAPE_CHAR]) = .ok (data ++ checksumBytes (crcCcitt data)) := by
    rw [unescape_flatMap]
    simp [unescape, Except.map]
  have hsplit : withEscape (hdlcEncapsulate data) =
      (data ++ checksumBytes (crcCcitt data)).flatMap escapeByte ++ [MESSAGE_ESCAPE_CHAR] ++
        [MESSAGE_TERMINATOR] := by
    rw [withEscape_hdlcEncapsulate, List.append_assoc]
    rfl
  have hlong : ¬ (withEscape (hdlcEncapsulate data)).length < 3 := by
    have hlo := length_escapeByte_pos (crcCcitt data).toUInt8
    rw [hsplit, List.flatMap_append, checksumBytes, List.flatMap_cons]
    simp only [List.length_append, List.length_singleton]
    omega
  rw [hdlcDecapsulate, if_neg hlong, hsplit, List.getLast?_concat, List.dropLast_concat, hbody]
  exact takeChecksum_checksumBytes data

/-- It is not what the encoder writes. -/
theorem withEscape_ne (data : List UInt8) :
    withEscape (hdlcEncapsulate data) ≠ hdlcEncapsulate data := by
  intro heq
  have hlength := congrArg List.length heq
  simp only [withEscape, hdlcEncapsulate, List.dropLast_concat, List.length_append,
    List.length_cons, List.length_nil] at hlength
  omega

/-- **What is accepted is what the encoder writes exactly where it is not that with an escape put in
before the terminator**, of any bytes of which only the last is a terminator. -/
theorem accepted_iff (frame : List UInt8)
    (hframe : frame.getLast? = some MESSAGE_TERMINATOR ∧ MESSAGE_TERMINATOR ∉ frame.dropLast) :
    (∀ data, hdlcDecapsulate frame = .ok data → frame = hdlcEncapsulate data) ↔
      ∀ data, frame ≠ withEscape (hdlcEncapsulate data) := by
  constructor
  · rintro haccepted data rfl
    exact withEscape_ne data (haccepted data (hdlcDecapsulate_withEscape data))
  · intro hescape data h
    exact (hdlcDecapsulate_ok hframe.2 h).resolve_right (hescape data)

/-- The frame of the encoder's test. -/
theorem accepted_iff_test :
    [1, 2, 3, 4, 145, 57, 126] = hdlcEncapsulate [1, 2, 3, 4] :=
  (accepted_iff [1, 2, 3, 4, 145, 57, 126] (by decide)).2
    (fun data heq => by
      have hlast := congrArg (fun frame => frame.reverse[1]?) heq
      simp [withEscape, MESSAGE_ESCAPE_CHAR] at hlast)
    [1, 2, 3, 4] (by decide +kernel)

/-- **That frame with an escape put in is accepted too.** -/
theorem escape_dropped :
    ¬ ∀ frame data : List UInt8, frame.getLast? = some MESSAGE_TERMINATOR →
      MESSAGE_TERMINATOR ∉ frame.dropLast → hdlcDecapsulate frame = .ok data →
      frame = hdlcEncapsulate data := fun h =>
  absurd (h [1, 2, 3, 4, 145, 57, 125, 126] [1, 2, 3, 4] rfl (by decide) (by decide +kernel))
    (by decide +kernel)

end Rayhunter
