import Mathlib.Data.Nat.Bitwise
import Mathlib.Tactic.SplitIfs

/-!
# Bits packed into bytes

So many bits of a sequence, eight to a byte, the first in the lowest place. A bit of the bytes is the
one of the sequence, and what is left of the last byte is zero (`testBit_pack`).
-/

namespace PackedBits

variable (bits : Nat → Bool)

/-- A byte with so many bits of the sequence, from this one on. -/
def byteOf (first : Nat) : Nat → UInt8
  | 0 => 0
  | m + 1 =>
    if bits (first + m) then byteOf first m ||| 1 <<< UInt8.ofNat m else byteOf first m

/-- So many bits, packed. -/
def pack (n : Nat) : List UInt8 :=
  (List.range ((n + 7) / 8)).map fun q => byteOf bits (8 * q) (min 8 (n - 8 * q))

variable {bits}

theorem toNat_one_shiftLeft {m : Nat} (hm : m < 8) : (1 <<< UInt8.ofNat m : UInt8).toNat = 2 ^ m := by
  have hall : ∀ m < 8, (1 <<< UInt8.ofNat m : UInt8).toNat = 2 ^ m := by decide
  exact hall m hm

/-- The bits of a byte are those it was made of. -/
theorem testBit_byteOf {first m : Nat} (hm : m ≤ 8) (t : Nat) :
    (byteOf bits first m).toNat.testBit t = (decide (t < m) && bits (first + t)) := by
  induction m with
  | zero => exact Nat.zero_testBit t
  | succ m ih =>
    have hlast : (byteOf bits first m).toNat.testBit t = (decide (t < m) && bits (first + t)) :=
      ih (by omega)
    rw [byteOf]
    rcases Nat.lt_trichotomy t m with hlt | rfl | hgt
    · have hbit : (2 ^ m).testBit t = false := Nat.testBit_two_pow_of_ne (by omega)
      split
      · rw [UInt8.toNat_or, toNat_one_shiftLeft (by omega), Nat.testBit_or, hlast, hbit,
          Bool.or_false, decide_eq_true hlt, decide_eq_true (by omega)]
      · rw [hlast, decide_eq_true hlt, decide_eq_true (by omega)]
    · rw [decide_eq_false (Nat.lt_irrefl t), Bool.false_and] at hlast
      split
      next hset =>
        rw [UInt8.toNat_or, toNat_one_shiftLeft (by omega), Nat.testBit_or, hlast,
          Nat.testBit_two_pow_self, hset, decide_eq_true (Nat.lt_succ_self t)]
        rfl
      next hclear =>
        rw [hlast, eq_false_of_ne_true hclear, Bool.and_false]
    · have hbit : (2 ^ m).testBit t = false := Nat.testBit_two_pow_of_ne (by omega)
      rw [decide_eq_false (by omega), Bool.false_and] at hlast ⊢
      split
      · rw [UInt8.toNat_or, toNat_one_shiftLeft (by omega), Nat.testBit_or, hlast, hbit]
        rfl
      · exact hlast

theorem length_pack (n : Nat) : (pack bits n).length = (n + 7) / 8 := by
  rw [pack, List.length_map, List.length_range]

/-- **A bit of the bytes is that of the sequence**, and no other bit is set. -/
theorem testBit_pack {n i : Nat} {byte : UInt8} (h : (pack bits n)[i / 8]? = some byte) :
    byte.toNat.testBit (i % 8) = (decide (i < n) && bits i) := by
  rw [pack, List.getElem?_map, Option.map_eq_some_iff] at h
  obtain ⟨q, hq, rfl⟩ := h
  obtain ⟨-, rfl⟩ := List.getElem?_eq_some_iff.1 hq
  rw [List.getElem_range, testBit_byteOf (Nat.min_le_left 8 _), Nat.div_add_mod]
  congr 1
  exact decide_eq_decide.2 (by omega)

end PackedBits
