import Mathlib.Algebra.Group.Nat.Defs
import Mathlib.Data.List.TakeDrop
import Mathlib.Data.Nat.Basic

/-!
# Keys from passwords

PBKDF2 of RFC 8018 (5.2) over any pseudorandom function. A derived key is the beginning of its
blocks, put one after the other (`derivedKey_eq`).
-/

namespace Rfc8018

variable {n : Nat} (prf : List UInt8 → List UInt8 → Vector UInt8 n) (password salt : List UInt8)

/-- `INT (i)`: four octets, the most significant one first. -/
def int (i : Nat) : List UInt8 :=
  [UInt8.ofNat (i / 2 ^ 24), UInt8.ofNat (i / 2 ^ 16), UInt8.ofNat (i / 2 ^ 8), UInt8.ofNat i]

/-- `\xor` of two blocks. -/
def xor (a b : Vector UInt8 n) : Vector UInt8 n := a.zipWith (· ^^^ ·) b

/-- `U_1`, which is `U 0` here, and those after it. -/
def U (i : Nat) : Nat → Vector UInt8 n
  | 0 => prf password (salt ++ int i)
  | j + 1 => prf password (U i j).toList

/-- `U_1 \xor U_2 \xor ...` with so many after the first. -/
def F (i : Nat) : Nat → Vector UInt8 n
  | 0 => U prf password salt i 0
  | j + 1 => xor (F i j) (U prf password salt i (j + 1))

/-- `T_i`, with `c` iterations. -/
def T (c i : Nat) : List UInt8 := (F prf password salt i (c - 1)).toList

/-- `PBKDF2 (P, S, c, dkLen)`; a key that is too long has no value. -/
def derivedKey (c dkLen : Nat) : Option (List UInt8) :=
  if (2 ^ 32 - 1) * n < dkLen then none
  else
    let l := (dkLen + n - 1) / n
    let r := dkLen - (l - 1) * n
    some ((List.range (l - 1)).flatMap (fun k => T prf password salt c (k + 1)) ++
      (T prf password salt c l).take r)

/-- The first `k` blocks, one after the other. -/
def blocks (c k : Nat) : List UInt8 :=
  (List.range k).flatMap fun i => T prf password salt c (i + 1)

variable {prf password salt}

theorem length_T (c i : Nat) : (T prf password salt c i).length = n := by
  rw [T, Vector.length_toList]

theorem blocks_succ (c k : Nat) :
    blocks prf password salt c (k + 1) =
      blocks prf password salt c k ++ T prf password salt c (k + 1) := by
  rw [blocks, List.range_succ, List.flatMap_append, List.flatMap_singleton, ← blocks]

theorem length_blocks (c k : Nat) : (blocks prf password salt c k).length = k * n := by
  induction k with
  | zero => rw [Nat.zero_mul]; rfl
  | succ k ih => rw [blocks_succ, List.length_append, ih, length_T, Nat.succ_mul]

variable (prf password salt) in
/-- More blocks begin as fewer do. -/
theorem blocks_prefix (c : Nat) {k m : Nat} (h : k ≤ m) :
    blocks prf password salt c k <+: blocks prf password salt c m := by
  induction m, h using Nat.le_induction with
  | base => exact List.prefix_rfl
  | succ m _ ih =>
    rw [blocks_succ]
    exact ih.trans (List.prefix_append ..)

/-- A beginning that is in so many blocks is the same in any number of them it is in. -/
theorem take_blocks {c k m len : Nat} (hk : len ≤ k * n) (hm : len ≤ m * n) :
    (blocks prf password salt c k).take len = (blocks prf password salt c m).take len := by
  have hle : ∀ {k m : Nat}, len ≤ k * n → k ≤ m →
      (blocks prf password salt c k).take len = (blocks prf password salt c m).take len := by
    intro k m hk hkm
    obtain ⟨rest, hrest⟩ := blocks_prefix prf password salt c hkm
    rw [← hrest, List.take_append_of_le_length (by rw [length_blocks]; exact hk)]
  rcases Nat.le_total k m with hkm | hmk
  · exact hle hk hkm
  · exact (hle hm hmk).symm

/-- **A derived key is the beginning of the blocks.** -/
theorem derivedKey_eq {c dkLen m : Nat} (hn : 0 < n) (hlong : dkLen ≤ (2 ^ 32 - 1) * n)
    (hm : dkLen ≤ m * n) :
    derivedKey prf password salt c dkLen = some ((blocks prf password salt c m).take dkLen) := by
  rw [derivedKey, if_neg (Nat.not_lt.mpr hlong)]
  rcases Nat.eq_zero_or_pos dkLen with hzero | hpos
  · -- no octets: one block is looked at, and nothing is taken of it
    have hl : (0 + n - 1) / n = 0 := Nat.div_eq_of_lt (by omega)
    subst hzero
    simp only [hl, Nat.zero_sub, List.range_zero, List.flatMap_nil, Nat.zero_mul, List.take_zero,
      List.nil_append]
  · obtain ⟨l, hl⟩ : ∃ l, (dkLen + n - 1) / n = l + 1 := by
      refine ⟨(dkLen - 1) / n, ?_⟩
      rw [show dkLen + n - 1 = dkLen - 1 + n by omega, Nat.add_div_right _ hn]
    have hfull : l * n ≤ dkLen := by
      have hmul := Nat.div_mul_le_self (dkLen + n - 1) n
      rw [hl, Nat.succ_mul] at hmul
      omega
    have hlast : dkLen ≤ (l + 1) * n := by
      have hlt := Nat.lt_mul_div_succ (dkLen + n - 1) hn
      rw [hl, Nat.mul_comm, Nat.succ_mul] at hlt
      omega
    have hfirst : (List.range l).flatMap (fun k => T prf password salt c (k + 1)) =
        blocks prf password salt c l := rfl
    simp only [hl, Nat.add_sub_cancel, hfirst]
    rw [take_blocks hm hlast, blocks_succ, List.take_append, length_blocks,
      List.take_of_length_le (l := blocks prf password salt c l)
        (by rw [length_blocks]; exact hfull)]

end Rfc8018
