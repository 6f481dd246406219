import Mathlib.Data.Nat.Digits.Defs

/-!
# Hexadecimal digits

A byte as two hexadecimal digits, and the value a character has as a digit.
-/

namespace Hex

/-- `to_digit(16)`. -/
def value? (c : Char) : Option Nat :=
  if '0' ≤ c ∧ c ≤ '9' then some (c.toNat - 48)
  else if 'a' ≤ c ∧ c ≤ 'f' then some (c.toNat - 87)
  else if 'A' ≤ c ∧ c ≤ 'F' then some (c.toNat - 55)
  else none

theorem value?_lt {c : Char} {n : Nat} (h : value? c = some n) : n < 16 := by
  unfold value? at h
  simp only [Char.le_def, UInt32.le_iff_toNat_le] at h
  split at h
  · next hc =>
    have hn := Option.some.inj h
    have hle : c.toNat ≤ 57 := hc.2
    omega
  split at h
  · next hc =>
    have hn := Option.some.inj h
    have hle : c.toNat ≤ 102 := hc.2
    omega
  split at h
  · next hc =>
    have hn := Option.some.inj h
    have hle : c.toNat ≤ 70 := hc.2
    omega
  · cases h

/-- `{:02x}` of a byte. -/
def byte (b : UInt8) : List Char := [Nat.digitChar (b.toNat / 16), Nat.digitChar (b.toNat % 16)]

theorem value?_digitChar {n : Nat} (h : n < 16) : value? (Nat.digitChar n) = some n := by
  have hall : ∀ n < 16, value? (Nat.digitChar n) = some n := by decide
  exact hall n h

/-- The digits a byte is written with. -/
def digits : List Char :=
  ['0', '1', '2', '3', '4', '5', '6', '7', '8', '9', 'a', 'b', 'c', 'd', 'e', 'f']

/-- What holds of the digits holds of what a byte is written with. -/
theorem all_byte {p : Char → Bool} (h : digits.all p = true) {b : UInt8} {c : Char}
    (hc : c ∈ byte b) : p c = true := by
  have hdigit : ∀ n < 16, Nat.digitChar n ∈ digits := by decide
  have hb : b.toNat < 16 * 16 := b.toNat_lt
  have hmem : c ∈ digits := by
    rcases List.mem_cons.mp hc with rfl | hc
    · exact hdigit _ (Nat.div_lt_of_lt_mul hb)
    · rw [List.mem_singleton.mp hc]
      exact hdigit _ (Nat.mod_lt _ (by decide))
  exact List.all_eq_true.mp h c hmem

theorem not_mem_byte {d : Char} (h : digits.all (· != d) = true) (b : UInt8) : d ∉ byte b :=
  fun hd => bne_iff_ne.mp (all_byte h hd) rfl

/-- What holds of the bytes one by one holds of every byte. -/
theorem forall_byte {p : UInt8 → Prop} (h : ∀ n < 256, p (UInt8.ofNat n)) (b : UInt8) : p b := by
  have hb := h b.toNat b.toNat_lt
  rwa [UInt8.ofNat_toNat] at hb

/-- No two bytes are written alike. -/
theorem byte_injective {a b : UInt8} (h : byte a = byte b) : a = b := by
  have ha : a.toNat < 16 * 16 := a.toNat_lt
  have hb : b.toNat < 16 * 16 := b.toNat_lt
  simp only [byte, List.cons.injEq, and_true] at h
  have hhigh := congrArg value? h.1
  have hlow := congrArg value? h.2
  rw [value?_digitChar (Nat.div_lt_of_lt_mul ha), value?_digitChar (Nat.div_lt_of_lt_mul hb),
    Option.some.injEq] at hhigh
  rw [value?_digitChar (Nat.mod_lt _ (by decide)), value?_digitChar (Nat.mod_lt _ (by decide)),
    Option.some.injEq] at hlow
  exact UInt8.toNat_inj.mp (by omega)

/-- A byte is its two nibbles. -/
theorem nibbles_join (b : UInt8) :
    UInt8.ofNat (b.toNat / 16) <<< 4 ||| UInt8.ofNat (b.toNat % 16) = b :=
  forall_byte (p := fun b => UInt8.ofNat (b.toNat / 16) <<< 4 ||| UInt8.ofNat (b.toNat % 16) = b)
    (by decide +kernel) b

/-- The byte two nibbles make up is made of them. -/
theorem join_nibbles {x y : UInt8} (hx : x.toNat < 16) (hy : y.toNat < 16) :
    UInt8.ofNat ((x <<< 4 ||| y).toNat / 16) = x ∧ UInt8.ofNat ((x <<< 4 ||| y).toNat % 16) = y := by
  have hall : ∀ m < 16, ∀ n < 16,
      UInt8.ofNat ((UInt8.ofNat m <<< 4 ||| UInt8.ofNat n).toNat / 16) = UInt8.ofNat m ∧
      UInt8.ofNat ((UInt8.ofNat m <<< 4 ||| UInt8.ofNat n).toNat % 16) = UInt8.ofNat n := by
    decide +kernel
  have h := hall x.toNat hx y.toNat hy
  rwa [UInt8.ofNat_toNat, UInt8.ofNat_toNat] at h

/-- Bytes that are alike but for the low nibble have the same high one. -/
theorem high_eq {a b : UInt8} (h : a &&& 0xf0 = b &&& 0xf0) :
    UInt8.ofNat (a.toNat / 16) = UInt8.ofNat (b.toNat / 16) := by
  have hmask : ∀ b : UInt8, (b &&& 0xf0).toNat / 16 = b.toNat / 16 :=
    forall_byte (by decide +kernel)
  rw [← hmask a, ← hmask b, h]

end Hex
