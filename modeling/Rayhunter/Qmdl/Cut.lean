import Rayhunter.Diag.Framing
import Rayhunter.Qmdl.Stream

/-!
# A recording that is cut off

`QmdlMessageReader` of `lib/src/qmdl.rs` on an uncompressed stream of frames that ends anywhere. It
yields the frames that are whole, and what is left of another has no terminator, which is an error of
decapsulation (`hdlcDecapsulate_open`), after which the stream is at its end (`readAll_cut`). A
single byte is not even read, and a stream that begins with the two bytes of gzip is taken for one.
-/

namespace Rayhunter

open Chunks

/-- The frames of some payloads, one after the other. -/
def framed (payloads : List (List UInt8)) : List UInt8 := (payloads.map hdlcEncapsulate).flatten

theorem frame_of_mem (payloads : List (List UInt8)) :
    ∀ f ∈ payloads.map hdlcEncapsulate,
      ∃ l t, f = l ++ [t] ∧ (∀ a ∈ l, isTerminator a = false) ∧ isTerminator t = true := by
  intro f hf
  obtain ⟨data, -, rfl⟩ := List.mem_map.1 hf
  exact hdlcEncapsulate_frame data

/-- What has no terminator is not a frame. -/
theorem hdlcDecapsulate_open {part : List UInt8} (h : ∀ a ∈ part, isTerminator a = false) :
    ∃ e, hdlcDecapsulate part = .error e := by
  unfold hdlcDecapsulate
  split
  · exact ⟨_, rfl⟩
  · next hlong =>
    have hne : part ≠ [] := by
      rintro rfl
      exact hlong (by decide)
    have hlast : part.getLast?.getD 0 ≠ MESSAGE_TERMINATOR := by
      rw [List.getLast?_eq_some_getLast hne]
      exact ne_of_beq_false (h _ (List.getLast_mem hne))
    simp only [if_pos hlast]
    exact ⟨_, rfl⟩

/-- A stream of at most one byte has no whole frame. -/
theorem wholeBefore_of_short {payloads : List (List UInt8)} {cut : Nat}
    (h : ((framed payloads).take cut).length < 2) :
    wholeBefore cut (payloads.map hdlcEncapsulate) = [] := by
  obtain ⟨part, htake, -⟩ := take_flatten cut (payloads.map hdlcEncapsulate)
  rw [framed, htake] at h
  cases hwhole : wholeBefore cut (payloads.map hdlcEncapsulate) with
  | nil => rfl
  | cons f fs =>
    obtain ⟨data, -, hf⟩ := List.mem_map.1
      (mem_wholeBefore (hwhole ▸ List.mem_cons_self : f ∈ wholeBefore cut _))
    have hlong := three_le_length_hdlcEncapsulate data
    rw [hwhole, List.flatten_cons, List.length_append, List.length_append, ← hf] at h
    omega

variable [Gzip] [Decoders]

/-- **A recording that is cut off loses only its tail**: read back, it yields the frames that are
whole before the cut, at most one error of decapsulation, and the end of the stream, unless it
begins with the bytes of another format. -/
theorem readAll_cut (payloads : List (List UInt8)) (cut : Nat)
    (hplain : isGzipStream ((framed payloads).take cut) = false) :
    ∃ tail, (QmdlMessageReader.new ((framed payloads).take cut)).readAll =
        ((wholeBefore cut (payloads.map hdlcEncapsulate)).map Message.fromHdlc ++ tail, none) ∧
      tail.length ≤ 1 ∧
      ∀ item ∈ tail, ∃ e data, item = .error (.hdlcDecapsulationError e data) := by
  have hnew : QmdlMessageReader.new ((framed payloads).take cut) =
      ⟨false, if ((framed payloads).take cut).length < 2 then [] else (framed payloads).take cut,
        none⟩ := by
    rw [QmdlMessageReader.new, hplain]
    rfl
  rw [hnew, QmdlMessageReader.readAll_eq rfl]
  simp only
  split
  · next hshort =>
    rw [wholeBefore_of_short hshort]
    exact ⟨[], rfl, Nat.zero_le 1, List.forall_mem_nil _⟩
  · obtain ⟨part, hsplit, hpart⟩ := splitInclusive_take (p := isTerminator)
      (frame_of_mem payloads) cut
    obtain ⟨e, he⟩ := hdlcDecapsulate_open hpart
    have herror : Message.fromHdlc part = .error (.hdlcDecapsulationError e part) := by
      rw [Message.fromHdlc, he]
    rw [framed, hsplit, List.map_append]
    refine ⟨_, rfl, ?_, fun item hitem => ?_⟩
    · split <;> simp
    · split at hitem
      · cases hitem
      · rw [List.map_singleton, List.mem_singleton] at hitem
        exact ⟨e, part, hitem.trans herror⟩

omit [Gzip] [Decoders] in
/-- A frame and the first two bytes of another. -/
theorem readAll_cut_two :
    let _ := storedGzip
    let _ := nasDecoders
    ∃ tail, (QmdlMessageReader.new ((framed [[1, 2, 3, 4], [5, 6]]).take 9)).readAll =
        ((wholeBefore 9 ([[1, 2, 3, 4], [5, 6]].map hdlcEncapsulate)).map Message.fromHdlc ++ tail,
          none) ∧
      tail.length ≤ 1 ∧
      ∀ item ∈ tail, ∃ e data, item = .error (.hdlcDecapsulationError e data) :=
  let _ := storedGzip
  let _ := nasDecoders
  readAll_cut [[1, 2, 3, 4], [5, 6]] 9 (by decide +kernel)

omit [Gzip] [Decoders] in
/-- **A stream whose one frame begins with the two bytes of gzip yields nothing.** -/
theorem readAll_magic :
    let _ := storedGzip
    let _ := nasDecoders
    ¬ ∀ (payloads : List (List UInt8)) (cut : Nat), ∃ tail,
      (QmdlMessageReader.new ((framed payloads).take cut)).readAll =
          ((wholeBefore cut (payloads.map hdlcEncapsulate)).map Message.fromHdlc ++ tail, none) ∧
        tail.length ≤ 1 ∧
        ∀ item ∈ tail, ∃ e data, item = .error (.hdlcDecapsulationError e data) := by
  let _ := storedGzip
  let _ := nasDecoders
  intro _ _ h
  obtain ⟨tail, hall, -⟩ := h [[0x1f, 0x8b]] 5
  have hnew : QmdlMessageReader.new ((framed [[0x1f, 0x8b]]).take 5) = ⟨true, [], none⟩ := by
    decide +kernel
  have hwhole : (wholeBefore 5 ([[0x1f, 0x8b]].map hdlcEncapsulate)).length = 1 := by
    decide +kernel
  rw [hnew, QmdlMessageReader.readAll_eq rfl] at hall
  have hlength := congrArg (fun p => p.1.length) hall
  simp only [splitInclusive_nil, List.map_nil, List.length_nil, List.length_append,
    List.length_map] at hlength
  omega

end Rayhunter
