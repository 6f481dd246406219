import Rayhunter.Nas.Identity

/-!
# How the digits of an identity are packed

TS 24.301, 9.9.3.12: the first digit is in the byte with the type, and the others are two to a byte,
the earlier one in the low nibble. A bit beside the type says whether there is an odd number of
digits; where there is not, the last high nibble is filler. `decode_eps_mobile_identity` undoes it
(`decodeEpsMobileIdentity_pack`), by induction over the digits two at a time.
-/

namespace Rayhunter

/-- What a kind of identity has in the low three bits of its first byte. -/
def IdentityKind.type : IdentityKind → UInt8
  | imsi => TYPE_IMSI
  | imei => TYPE_IMEI
  | imeisv => TYPE_IMEISV
  | tmsi => TYPE_GUTI

/-- The value of a digit. -/
def digitValue (c : Char) : Nat := c.toNat - 48

/-- The byte of two nibbles. -/
def nibbles (high low : Nat) : UInt8 := UInt8.ofNat (high * 16 + low)

/-- The digits after the first, two to a byte. -/
def packPairs : List Char → List UInt8
  | [] => []
  | [c] => [nibbles 0xf (digitValue c)]
  | low :: high :: rest => nibbles (digitValue high) (digitValue low) :: packPairs rest

/-- The bit that says that the number of digits is odd. -/
def oddBit (digits : List Char) : Nat := if digits.length % 2 = 1 then 0b1000 else 0

/-- An identity of digits as it is sent. -/
def pack (kind : IdentityKind) : List Char → List UInt8
  | [] => []
  | first :: rest =>
    nibbles (digitValue first) (oddBit (first :: rest) + kind.type.toNat) :: packPairs rest

/-! ## Nibbles -/

theorem nibbles_low {high low : Nat} (hhigh : high < 16) (hlow : low < 16) :
    nibbles high low &&& 0x0f = UInt8.ofNat low := by
  have hall : ∀ m < 16, ∀ n < 16, nibbles m n &&& 0x0f = UInt8.ofNat n := by decide +kernel
  exact hall high hhigh low hlow

theorem nibbles_high {high low : Nat} (hhigh : high < 16) (hlow : low < 16) :
    nibbles high low >>> 4 = UInt8.ofNat high := by
  have hall : ∀ m < 16, ∀ n < 16, nibbles m n >>> 4 = UInt8.ofNat m := by decide +kernel
  exact hall high hhigh low hlow

/-- The low nibble of the first byte is the flag and the type. -/
theorem nibbles_type {high low : Nat} (kind : IdentityKind) (hhigh : high < 16)
    (hlow : low = 0b1000 ∨ low = 0) :
    identityKind (nibbles high (low + kind.type.toNat) &&& 0b111) = some kind ∧
      (nibbles high (low + kind.type.toNat) &&& 0b1000 ≠ 0 ↔ low = 0b1000) := by
  have hall : ∀ m < 16, ∀ n < 2, ∀ t < 8,
      nibbles m (8 * n + t) &&& 0b111 = UInt8.ofNat t ∧
        (nibbles m (8 * n + t) &&& 0b1000 ≠ 0 ↔ n = 1) := by decide +kernel
  have htype : kind.type.toNat < 8 ∧ identityKind (UInt8.ofNat kind.type.toNat) = some kind := by
    cases kind <;> decide
  rcases hlow with rfl | rfl
  · obtain ⟨hkind, hodd⟩ := hall high hhigh 1 (by decide) _ htype.1
    exact ⟨hkind ▸ htype.2, hodd.trans (by decide)⟩
  · obtain ⟨hkind, hodd⟩ := hall high hhigh 0 (by decide) _ htype.1
    rw [Nat.mul_zero, Nat.zero_add] at hkind hodd
    rw [Nat.zero_add]
    exact ⟨hkind ▸ htype.2, hodd.trans (by decide)⟩

/-! ## Digits -/

/-- A digit is one of ten. -/
theorem digitValue_lt {c : Char} (h : c.isDigit) : digitValue c < 10 := by
  rw [Char.isDigit, Bool.and_eq_true, decide_eq_true_eq, decide_eq_true_eq] at h
  have hle : c.toNat ≤ 57 := h.2
  unfold digitValue
  omega

/-- A digit is read as it was. -/
theorem fromDigit_digitValue {c : Char} (h : c.isDigit) :
    fromDigit (UInt8.ofNat (digitValue c)) = some c := by
  have hall : ∀ n < 10, fromDigit (UInt8.ofNat n) = some (Char.ofNat (n + 48)) := by decide
  rw [hall _ (digitValue_lt h)]
  rw [Char.isDigit, Bool.and_eq_true, decide_eq_true_eq] at h
  have hle : 48 ≤ c.toNat := h.1
  rw [digitValue, Nat.sub_add_cancel hle, Char.ofNat_toNat]

theorem fromDigit_low {high : Nat} {c : Char} (hhigh : high < 16) (h : c.isDigit) :
    fromDigit (nibbles high (digitValue c) &&& 0x0f) = some c := by
  rw [nibbles_low hhigh (by have := digitValue_lt h; omega), fromDigit_digitValue h]

theorem fromDigit_high {low : Nat} {c : Char} (h : c.isDigit) (hlow : low < 16) :
    fromDigit (nibbles (digitValue c) low >>> 4) = some c := by
  rw [nibbles_high (by have := digitValue_lt h; omega) hlow, fromDigit_digitValue h]

/-- The last high nibble is left out where the number of digits after the first is odd, and the
others are read. -/
theorem packedDigits_packPairs {digits : List Char} (h : ∀ c ∈ digits, c.isDigit) {odd : Bool}
    (hodd : odd = true ↔ digits.length % 2 = 0) :
    packedDigits odd (packPairs digits) = some digits := by
  fun_induction packPairs digits with
  | case1 => rfl
  | case2 c =>
    have heven : odd = false := Bool.eq_false_iff.2 fun ho => by simpa using hodd.1 ho
    rw [heven, packedDigits, if_neg Bool.false_ne_true, fromDigit_low (by decide) (h c (by simp))]
    rfl
  | case3 low high rest ih =>
    have hl := h low (by simp)
    have hh := h high (by simp)
    have hrest := ih (fun c hc => h c (by simp [hc])) (hodd.trans (by simp only [List.length]; omega))
    have hlow : fromDigit (nibbles (digitValue high) (digitValue low) &&& 0x0f) = some low :=
      fromDigit_low (by have := digitValue_lt hh; omega) hl
    have hhigh : fromDigit (nibbles (digitValue high) (digitValue low) >>> 4) = some high :=
      fromDigit_high hh (by have := digitValue_lt hl; omega)
    cases hpairs : packPairs rest with
    | nil =>
      -- two digits are left, an even number
      rw [hpairs] at hrest
      obtain rfl : [] = rest := Option.some.inj hrest
      rw [packedDigits, if_pos (hodd.2 (by simp)), hlow, Option.bind_some, hhigh]
      rfl
    | cons b bs =>
      rw [packedDigits, hlow, Option.bind_some, hhigh, Option.bind_some, ← hpairs, hrest]
      · rfl
      · simp

/-- What the type, the first digit and the other bytes say, the identity is. -/
theorem decodeEpsMobileIdentity_cons {b : UInt8} {bs : List UInt8} {kind : IdentityKind}
    {first : Char} {rest : List Char} (hkind : kind ≠ .tmsi)
    (htype : identityKind (b &&& 0b111) = some kind) (hfirst : fromDigit (b >>> 4) = some first)
    (hrest : packedDigits (b &&& 0b1000 ≠ 0) bs = some rest) :
    decodeEpsMobileIdentity (b :: bs) = some (.ofKind kind (String.ofList (first :: rest))) := by
  rw [decodeEpsMobileIdentity, htype, Option.bind_some]
  cases kind with
  | tmsi => exact absurd rfl hkind
  | imsi | imei | imeisv => simp only [hfirst, hrest, Option.bind_some, Option.map_some]

theorem decodeEpsMobileIdentity_packed {kind : IdentityKind} (hkind : kind ≠ .tmsi)
    {digits : List Char} (hne : digits ≠ []) (hdigits : ∀ c ∈ digits, c.isDigit) :
    decodeEpsMobileIdentity (pack kind digits) = some (.ofKind kind (String.ofList digits)) := by
  obtain ⟨first, rest, rfl⟩ := List.exists_cons_of_ne_nil hne
  have hfirst := hdigits first (List.mem_cons_self ..)
  have hlt := digitValue_lt hfirst
  have hflag : oddBit (first :: rest) = 0b1000 ∨ oddBit (first :: rest) = 0 := by
    unfold oddBit
    split <;> simp
  have htype : kind.type.toNat < 8 := by cases kind <;> decide
  obtain ⟨hk, hodd⟩ := nibbles_type kind (by omega : digitValue first < 16) hflag
  refine decodeEpsMobileIdentity_cons hkind hk (fromDigit_high hfirst (by omega)) ?_
  refine packedDigits_packPairs (fun c hc => hdigits c (List.mem_cons_of_mem first hc)) ?_
  rw [decide_eq_true_iff, hodd, oddBit, List.length_cons]
  split <;> omega

/-- **Decoding an identity undoes its packing**, and it is found where it stands in a message. -/
theorem decodeEpsMobileIdentity_pack {kind : IdentityKind} (hkind : kind ≠ .tmsi) {digits : String}
    (hne : digits ≠ "") (hdigits : ∀ c ∈ digits.toList, c.isDigit) :
    decodeEpsMobileIdentity (pack kind digits.toList) = some (.ofKind kind digits) ∧
      ∀ head tail, Announces head (pack kind digits.toList).length →
        identityFromNasWithRange (head ++ pack kind digits.toList ++ tail) =
          some (.ofKind kind digits,
            ⟨head.length, head.length + (pack kind digits.toList).length⟩) := by
  have hdecode := decodeEpsMobileIdentity_packed hkind (mt String.toList_eq_nil_iff.1 hne) hdigits
  rw [String.ofList_toList] at hdecode
  refine ⟨hdecode, fun head tail hhead => ?_⟩
  rw [identityFromNasWithRange_append hhead, hdecode]
  rfl

/-- The subscriber the source's tests know, in an identity response with another byte after it. -/
theorem decodeEpsMobileIdentity_pack_imsi :
    decodeEpsMobileIdentity [0x39, 0x01, 0x51, 0x10, 0x32, 0x54, 0x76, 0x98] =
        some (.imsi "310150123456789") ∧
      identityFromNasWithRange
          [7, 0x56, 8, 0x39, 0x01, 0x51, 0x10, 0x32, 0x54, 0x76, 0x98, 0x23] =
        some (.imsi "310150123456789", ⟨3, 11⟩) := by
  have hpack : pack .imsi "310150123456789".toList =
      [0x39, 0x01, 0x51, 0x10, 0x32, 0x54, 0x76, 0x98] := by decide
  have h := @decodeEpsMobileIdentity_pack .imsi (by decide) "310150123456789" (by decide)
    (List.all_eq_true.1 (by decide))
  rw [hpack] at h
  exact ⟨h.1, h.2 [7, 0x56, 8] [0x23] (.identityResponse 8)⟩

end Rayhunter
