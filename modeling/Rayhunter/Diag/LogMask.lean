import Rayhunter.Diag.Message
import Rayhunter.Lib.PackedBits

/-!
# The mask of log codes

`build_log_mask_request` of `lib/src/diag/mod.rs`. The loop sets a bit of the current byte for every
code that is accepted, and puts the byte behind the mask when it is full or when there are no more
codes. The mask is the packed bits of the codes (`buildLogMaskRequest_mask`).
-/

namespace Rayhunter

/-- `LogConfigRequest` (`diag/mod.rs:39`). -/
inductive LogConfigRequest
  | retrieveIdRanges
  | setMask (logType logMaskBitsize : UInt32) (logMask : List UInt8)
  deriving DecidableEq, Repr

/-- `Request` (`diag/mod.rs:32`). -/
inductive Request
  | logConfig (request : LogConfigRequest)
  deriving DecidableEq, Repr

namespace LogMask

/-- What the loop goes on with. -/
structure Loop where
  currentByte : UInt8 := 0
  numBitsWritten : UInt8 := 0
  logMask : List UInt8 := []
  deriving DecidableEq, Repr

variable (logType logMaskBitsize : UInt32) (acceptedLogCodes : List UInt32)

/-- The code of a bit is accepted. -/
def accepted (i : Nat) : Bool := acceptedLogCodes.contains (logType <<< 12 ||| UInt32.ofNat i)

/-- A turn of the loop (`diag/mod.rs:187`). -/
def turn (s : Loop) (i : Nat) : Loop :=
  let currentByte :=
    if accepted logType acceptedLogCodes i then s.currentByte ||| 1 <<< s.numBitsWritten
    else s.currentByte
  let numBitsWritten := s.numBitsWritten + 1
  if numBitsWritten = 8 ∨ i = logMaskBitsize.toNat - 1 then
    ⟨0, 0, s.logMask ++ [currentByte]⟩
  else ⟨currentByte, numBitsWritten, s.logMask⟩

end LogMask

/-- `build_log_mask_request` (`diag/mod.rs:179`). -/
def buildLogMaskRequest (logType logMaskBitsize : UInt32) (acceptedLogCodes : List UInt32) :
    Request :=
  let s := (List.range logMaskBitsize.toNat).foldl
    (LogMask.turn logType logMaskBitsize acceptedLogCodes) {}
  .logConfig (.setMask logType logMaskBitsize s.logMask)

namespace LogMask

open PackedBits

variable {logType logMaskBitsize : UInt32} {acceptedLogCodes : List UInt32}

/-- The loop after so many turns, where there are more to come: whole bytes, and the beginning of
the next one. -/
def atTurn (logType : UInt32) (acceptedLogCodes : List UInt32) (k : Nat) : Loop where
  currentByte := byteOf (accepted logType acceptedLogCodes) (8 * (k / 8)) (k % 8)
  numBitsWritten := UInt8.ofNat (k % 8)
  logMask := (List.range (k / 8)).map fun q => byteOf (accepted logType acceptedLogCodes) (8 * q) 8

/-- What a turn makes of it. -/
theorem turn_atTurn (k : Nat) :
    turn logType logMaskBitsize acceptedLogCodes (atTurn logType acceptedLogCodes k) k =
      let byte := byteOf (accepted logType acceptedLogCodes) (8 * (k / 8)) (k % 8 + 1)
      if k % 8 = 7 ∨ k = logMaskBitsize.toNat - 1 then
        ⟨0, 0, (atTurn logType acceptedLogCodes k).logMask ++ [byte]⟩
      else ⟨byte, UInt8.ofNat (k % 8 + 1), (atTurn logType acceptedLogCodes k).logMask⟩ := by
  have hplace : 8 * (k / 8) + k % 8 = k := Nat.div_add_mod k 8
  have hcount : UInt8.ofNat (k % 8) + 1 = UInt8.ofNat (k % 8 + 1) := (UInt8.ofNat_add (k % 8) 1).symm
  have hfull : UInt8.ofNat (k % 8 + 1) = 8 ↔ k % 8 = 7 := by
    rw [← UInt8.toNat_inj, UInt8.toNat_ofNat', show (8 : UInt8).toNat = 8 from rfl]
    omega
  simp only [turn, atTurn, byteOf, hplace, hcount, hfull]

theorem turn_atTurn_of_lt {k : Nat} (hk : k + 1 < logMaskBitsize.toNat) :
    turn logType logMaskBitsize acceptedLogCodes (atTurn logType acceptedLogCodes k) k =
      atTurn logType acceptedLogCodes (k + 1) := by
  have hmore : k ≠ logMaskBitsize.toNat - 1 := by omega
  rw [turn_atTurn]
  simp only [hmore, or_false]
  split
  next hfull =>
    have hdiv : (k + 1) / 8 = k / 8 + 1 := by omega
    have hmod : (k + 1) % 8 = 0 := by omega
    simp only [atTurn, hdiv, hmod, hfull, byteOf, List.range_succ, List.map_append, List.map_cons,
      List.map_nil]
    rfl
  next hfull =>
    have hdiv : (k + 1) / 8 = k / 8 := by omega
    have hmod : (k + 1) % 8 = k % 8 + 1 := by omega
    simp only [atTurn, hdiv, hmod]

theorem foldl_turn {k : Nat} (hk : k < logMaskBitsize.toNat) :
    (List.range k).foldl (turn logType logMaskBitsize acceptedLogCodes) {} =
      atTurn logType acceptedLogCodes k := by
  induction k with
  | zero => rfl
  | succ k ih =>
    rw [List.range_succ, List.foldl_append, ih (Nat.lt_of_succ_lt hk)]
    exact turn_atTurn_of_lt hk

/-- The bytes so far and the last one are all there is to pack. -/
theorem logMask_append (k : Nat) :
    (atTurn logType acceptedLogCodes k).logMask ++
        [byteOf (accepted logType acceptedLogCodes) (8 * (k / 8)) (k % 8 + 1)] =
      pack (accepted logType acceptedLogCodes) (k + 1) := by
  have hdiv : (k + 1 + 7) / 8 = k / 8 + 1 := by omega
  have hrest : min 8 (k + 1 - 8 * (k / 8)) = k % 8 + 1 := by omega
  rw [pack, hdiv, List.range_succ, List.map_append, List.map_singleton, hrest]
  congr 1
  refine List.map_congr_left fun q hq => ?_
  have hlt : q < k / 8 := List.mem_range.1 hq
  rw [Nat.min_eq_left (by omega)]

/-- **The mask is the bits of the codes, packed.** -/
theorem buildLogMaskRequest_eq (logType logMaskBitsize : UInt32) (acceptedLogCodes : List UInt32) :
    buildLogMaskRequest logType logMaskBitsize acceptedLogCodes =
      .logConfig (.setMask logType logMaskBitsize
        (pack (accepted logType acceptedLogCodes) logMaskBitsize.toNat)) := by
  rw [buildLogMaskRequest]
  rcases Nat.eq_zero_or_eq_succ_pred logMaskBitsize.toNat with hzero | hsucc
  · rw [hzero]
    rfl
  · have hlast : (List.range (logMaskBitsize.toNat - 1)).foldl
        (turn logType logMaskBitsize acceptedLogCodes) {} =
          atTurn logType acceptedLogCodes (logMaskBitsize.toNat - 1) := foldl_turn (by omega)
    rw [hsucc, List.range_succ, List.foldl_append, Nat.pred_eq_sub_one, hlast, List.foldl_cons,
      List.foldl_nil, turn_atTurn]
    simp only [or_true, if_true, logMask_append]

/-- **A bit of the mask says whether its code is accepted**, and those behind the last code are
zero. -/
theorem buildLogMaskRequest_bits (logType logMaskBitsize : UInt32)
    (acceptedLogCodes : List UInt32) :
    ∃ logMask : List UInt8,
      buildLogMaskRequest logType logMaskBitsize acceptedLogCodes =
        .logConfig (.setMask logType logMaskBitsize logMask) ∧
      logMask.length = (logMaskBitsize.toNat + 7) / 8 ∧
      ∀ i < 8 * logMask.length, ∃ byte, logMask[i / 8]? = some byte ∧
        (byte.toNat.testBit (i % 8) = true ↔
          i < logMaskBitsize.toNat ∧ logType <<< 12 ||| UInt32.ofNat i ∈ acceptedLogCodes) := by
  refine ⟨_, buildLogMaskRequest_eq logType logMaskBitsize acceptedLogCodes, length_pack _, ?_⟩
  intro i hi
  have hbyte := List.getElem?_eq_getElem (Nat.div_lt_of_lt_mul hi)
  refine ⟨_, hbyte, ?_⟩
  rw [testBit_pack hbyte, Bool.and_eq_true, decide_eq_true_eq, accepted, List.contains_iff_mem]

end LogMask

end Rayhunter
