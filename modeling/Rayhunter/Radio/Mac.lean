import Mathlib.Data.List.GetD
import Rayhunter.Lib.Hex

/-!
# Hardware addresses

`MacAddr` and `MacPrefix` (`radio/src/mac.rs`). A prefix is a number of nibbles, so that it may end
within a byte.
-/

namespace Rayhunter

/-- `MacAddr` (`mac.rs:14`). -/
structure MacAddr where
  octets : Vector UInt8 6
  deriving DecidableEq, Repr

namespace MacAddr

/-- The first byte, which has the two flags. -/
def first (m : MacAddr) : UInt8 := m.octets[0]

/-- `is_locally_administered` (`mac.rs:29`). -/
def isLocallyAdministered (m : MacAddr) : Bool := m.first &&& 0x02 ≠ 0

/-- `is_multicast` (`mac.rs:34`). -/
def isMulticast (m : MacAddr) : Bool := m.first &&& 0x01 ≠ 0

/-- How an address is written: bytes of two digits with colons between them. -/
def display (m : MacAddr) : List Char := List.intercalate [':'] (m.octets.toList.map Hex.byte)

end MacAddr

/-- `MacParseError` (`mac.rs:200`). -/
inductive MacParseError
  | notHex (c : Char)
  | wrongLength (nibbles : Nat)
  deriving DecidableEq, Repr

/-- The texts of the errors. -/
def MacParseError.display : MacParseError → String
  | notHex c => s!"'{c}' is not a hexadecimal digit"
  | wrongLength nibbles =>
    s!"expected 2-12 hex digits for a prefix or exactly 12 for an address, got {nibbles}"

/-- The separators between digits. -/
def isSeparator (c : Char) : Bool := c = ':' || c = '-' || c = '.'

/-- `collect_hex_digits` (`mac.rs:211`). -/
def collectHexDigits : List Char → Except MacParseError (List UInt8)
  | [] => .ok []
  | c :: cs =>
    if isSeparator c then collectHexDigits cs
    else
      match Hex.value? c with
      | some d => (collectHexDigits cs).map (UInt8.ofNat d :: ·)
      | none => .error (.notHex c)

/-- `MacAddr::parse` (`mac.rs:46`). -/
def MacAddr.parse (s : List Char) : Except MacParseError MacAddr :=
  match collectHexDigits s with
  | .error e => .error e
  | .ok digits =>
    if digits.length ≠ 12 then .error (.wrongLength digits.length)
    else
      .ok ⟨Vector.ofFn fun i => digits.getD (2 * i) 0 <<< 4 ||| digits.getD (2 * i + 1) 0⟩

/-- `MacPrefix` (`mac.rs:100`): the nibbles that count, at the left, and nothing after them. -/
structure MacPrefix where
  octets : Vector UInt8 6
  nibbles : Nat
  min_le : 2 ≤ nibbles
  le_max : nibbles ≤ 12
  deriving DecidableEq, Repr

/-- `MacPrefix::parse` (`mac.rs:121`). -/
def MacPrefix.parse (s : List Char) : Except MacParseError MacPrefix :=
  match collectHexDigits s with
  | .error e => .error e
  | .ok digits =>
    if h : 2 ≤ digits.length ∧ digits.length ≤ 12 then
      .ok
        { octets := Vector.ofFn fun i =>
            digits.getD (2 * i) 0 <<< 4 ||| digits.getD (2 * i + 1) 0
          nibbles := digits.length
          min_le := h.1
          le_max := h.2 }
    else .error (.wrongLength digits.length)

/-- `MacPrefix::matches` (`mac.rs:152`). -/
def MacPrefix.matches (p : MacPrefix) (addr : MacAddr) : Bool :=
  let whole := p.nibbles / 2
  p.octets.toList.take whole = addr.octets.toList.take whole ∧
    (p.nibbles % 2 = 1 →
      (p.octets.toList.getD whole 0) &&& 0xf0 = (addr.octets.toList.getD whole 0) &&& 0xf0)

/-- How a prefix is written: whole bytes, then a digit if it ends within one. -/
def MacPrefix.display (p : MacPrefix) : List Char :=
  let whole := p.nibbles / 2
  let bytes := (p.octets.toList.take whole).map Hex.byte
  let digit := if p.nibbles % 2 = 1 then
    [[Nat.digitChar ((p.octets.toList.getD whole 0).toNat / 16)]] else []
  List.intercalate [':'] (bytes ++ digit)

-- addresses and prefixes of the source's tests
example : MacAddr.parse "58-32-77-28-7b-a6".toList =
    .ok ⟨#v[0x58, 0x32, 0x77, 0x28, 0x7b, 0xa6]⟩ := by decide
example : MacAddr.parse "58:32:77".toList = .error (.wrongLength 6) := by decide

/-! ## Reading what is written -/

/-- The digits of a byte are its nibbles. -/
theorem collectHexDigits_byte (b : UInt8) (cs : List Char) :
    collectHexDigits (Hex.byte b ++ cs) =
      (collectHexDigits cs).map fun ds =>
        UInt8.ofNat (b.toNat / 16) :: UInt8.ofNat (b.toNat % 16) :: ds := by
  have hb : b.toNat < 16 * 16 := b.toNat_lt
  have hsep : ∀ n < 16, isSeparator (Nat.digitChar n) = false := by decide
  simp only [Hex.byte, List.cons_append, List.nil_append, collectHexDigits,
    hsep _ (Nat.div_lt_of_lt_mul hb), hsep _ (Nat.mod_lt _ (by decide)),
    Hex.value?_digitChar (Nat.div_lt_of_lt_mul hb), Hex.value?_digitChar (Nat.mod_lt _ (by decide))]
  cases collectHexDigits cs <;> rfl

/-- The digits of bytes with colons between them are their nibbles. -/
theorem collectHexDigits_intercalate (bytes : List UInt8) :
    collectHexDigits (List.intercalate [':'] (bytes.map Hex.byte)) =
      .ok (bytes.flatMap fun b => [UInt8.ofNat (b.toNat / 16), UInt8.ofNat (b.toNat % 16)]) := by
  induction bytes with
  | nil => rfl
  | cons b bytes ih =>
    cases bytes with
    | nil =>
      have hone := collectHexDigits_byte b []
      rw [List.append_nil] at hone
      exact hone
    | cons b' bytes =>
      have hcolon : ∀ cs, collectHexDigits (':' :: cs) = collectHexDigits cs := fun _ => rfl
      rw [List.map_cons, List.map_cons, List.intercalate_cons_cons, List.append_assoc,
        collectHexDigits_byte, List.singleton_append, hcolon, ← List.map_cons, ih]
      rfl

/-- An address is read as it was written. -/
theorem MacAddr.parse_display (m : MacAddr) : MacAddr.parse m.display = .ok m := by
  obtain ⟨⟨⟨octets⟩, hlength⟩⟩ := m
  match octets, hlength with
  | [a, b, c, d, e, f], _ =>
    unfold parse display
    rw [collectHexDigits_intercalate]
    simp only [Vector.toList, List.flatMap_cons, List.flatMap_nil, List.cons_append,
      List.nil_append, List.length_cons, List.length_nil, ne_eq, not_true_eq_false, if_false]
    congr 2
    ext i hi
    match i, hi with
    | 0, _ => simp [Hex.nibbles_join]
    | 1, _ => simp [Hex.nibbles_join]
    | 2, _ => simp [Hex.nibbles_join]
    | 3, _ => simp [Hex.nibbles_join]
    | 4, _ => simp [Hex.nibbles_join]
    | 5, _ => simp [Hex.nibbles_join]

/-- What an address in print is made of. -/
theorem MacAddr.mem_display {m : MacAddr} {c : Char} (h : c ∈ m.display) :
    c = ':' ∨ ∃ b, c ∈ Hex.byte b := by
  unfold display at h
  generalize m.octets.toList = bytes at h
  induction bytes with
  | nil => cases h
  | cons b bytes ih =>
    cases bytes with
    | nil =>
      rw [List.map_cons, List.map_nil, List.intercalate_singleton] at h
      exact .inr ⟨b, h⟩
    | cons b' bytes =>
      rw [List.map_cons, List.map_cons, List.intercalate_cons_cons, List.append_assoc] at h
      rcases List.mem_append.mp h with h | h
      · exact .inr ⟨b, h⟩
      · rcases List.mem_cons.mp h with h | h
        · exact .inl h
        · exact ih h

theorem MacAddr.display_ne_nil (m : MacAddr) : m.display ≠ [] := by
  obtain ⟨⟨⟨octets⟩, hlength⟩⟩ := m
  match octets, hlength with
  | [a, b, c, d, e, f], _ => exact List.cons_ne_nil _ _

/-! ## Digits -/

/-- The digits of an address. -/
def MacAddr.nibbles (m : MacAddr) : List UInt8 :=
  m.octets.toList.flatMap fun b => [UInt8.ofNat (b.toNat / 16), UInt8.ofNat (b.toNat % 16)]

theorem MacAddr.length_nibbles (m : MacAddr) : m.nibbles.length = 12 := by
  obtain ⟨⟨⟨octets⟩, hlength⟩⟩ := m
  match octets, hlength with
  | [a, b, c, d, e, f], _ => rfl

theorem MacAddr.nibbles_getD (m : MacAddr) {i : Nat} (hi : i < 6) :
    m.nibbles.getD (2 * i) 0 = UInt8.ofNat ((m.octets.toList.getD i 0).toNat / 16) ∧
    m.nibbles.getD (2 * i + 1) 0 = UInt8.ofNat ((m.octets.toList.getD i 0).toNat % 16) := by
  obtain ⟨⟨⟨octets⟩, hlength⟩⟩ := m
  match octets, hlength with
  | [a, b, c, d, e, f], _ =>
    match i, hi with
    | 0, _ | 1, _ | 2, _ | 3, _ | 4, _ | 5, _ => exact ⟨rfl, rfl⟩

theorem toNat_lt_of_collectHexDigits {s : List Char} {digits : List UInt8}
    (h : collectHexDigits s = .ok digits) (i : Nat) : (digits.getD i 0).toNat < 16 := by
  induction s generalizing digits i with
  | nil =>
    cases h
    rw [List.getD_nil]
    decide
  | cons c s ih =>
    rw [collectHexDigits] at h
    split at h
    · exact ih h i
    split at h
    · next n hn =>
      cases hs : collectHexDigits s with
      | error e => rw [hs] at h; cases h
      | ok digits' =>
        rw [hs] at h
        cases h
        cases i with
        | zero =>
          have hlt := Hex.value?_lt hn
          rw [List.getD_cons_zero, UInt8.toNat_ofNat', Nat.mod_eq_of_lt (by omega)]
          exact hlt
        | succ i => exact ih hs i
    · cases h

/-- The bytes that digits are put into, two in each. -/
theorem getD_octets (digits : List UInt8) {i : Nat} (hi : i < 6) :
    (Vector.ofFn fun i : Fin 6 =>
      digits.getD (2 * i) 0 <<< 4 ||| digits.getD (2 * i + 1) 0).toList.getD i 0 =
      digits.getD (2 * i) 0 <<< 4 ||| digits.getD (2 * i + 1) 0 := by
  rw [List.getD_eq_getElem _ _ (by simpa using hi)]
  simp

/-- One list is the start of another if it agrees with it as far as it goes. -/
theorem prefix_of_getD {l m : List UInt8} (hlength : l.length ≤ m.length)
    (h : ∀ i < l.length, l.getD i 0 = m.getD i 0) : l <+: m := by
  rw [List.prefix_iff_getElem?]
  intro i hi
  have heq := h i hi
  rw [List.getD_eq_getElem _ _ hi, List.getD_eq_getElem _ _ (by omega)] at heq
  rw [heq, List.getElem?_eq_getElem]

theorem getD_take {l : List UInt8} {n i : Nat} (h : i < n) :
    (l.take n).getD i 0 = l.getD i 0 := by
  rw [List.getD_eq_getElem?_getD, List.getD_eq_getElem?_getD, List.getElem?_take_of_lt h]

/-- An address that is read has the digits that are written. -/
theorem MacAddr.nibbles_of_parse {s : List Char} {m : MacAddr} (h : MacAddr.parse s = .ok m) :
    collectHexDigits s = .ok m.nibbles := by
  unfold parse at h
  split at h
  · cases h
  next digits hdigits =>
  split at h
  · cases h
  next hlength =>
  cases h
  rw [hdigits]
  have hlt := toNat_lt_of_collectHexDigits hdigits
  refine congrArg _ (List.IsPrefix.eq_of_length (prefix_of_getD ?_ fun i hi => ?_) ?_)
  · rw [MacAddr.length_nibbles]
    omega
  · obtain ⟨hhigh, hlow⟩ := Hex.join_nibbles (hlt (2 * (i / 2))) (hlt (2 * (i / 2) + 1))
    have hnibbles := MacAddr.nibbles_getD
      ⟨Vector.ofFn fun i : Fin 6 => digits.getD (2 * i) 0 <<< 4 ||| digits.getD (2 * i + 1) 0⟩
      (show i / 2 < 6 by omega)
    rw [getD_octets digits (by omega), hhigh, hlow] at hnibbles
    rcases Nat.mod_two_eq_zero_or_one i with hi | hi
    · rw [show i = 2 * (i / 2) by omega, hnibbles.1]
    · rw [show i = 2 * (i / 2) + 1 by omega, hnibbles.2]
  · rw [MacAddr.length_nibbles]
    omega

/-- An address that a prefix matches starts with the digits of the prefix. -/
theorem MacPrefix.prefix_nibbles {s : List Char} {p : MacPrefix} (h : MacPrefix.parse s = .ok p)
    {a : MacAddr} (ha : p.matches a = true) :
    ∃ digits, collectHexDigits s = .ok digits ∧ digits <+: a.nibbles := by
  unfold parse at h
  split at h
  · cases h
  next digits hdigits =>
  split at h
  · next hlength =>
    cases h
    refine ⟨digits, hdigits, ?_⟩
    have hlt := toNat_lt_of_collectHexDigits hdigits
    simp only [MacPrefix.matches, decide_eq_true_eq] at ha
    obtain ⟨hwhole, hhalf⟩ := ha
    refine prefix_of_getD ?_ fun i hi => ?_
    · rw [MacAddr.length_nibbles]
      exact hlength.2
    · obtain ⟨hhigh, hlow⟩ := Hex.join_nibbles (hlt (2 * (i / 2))) (hlt (2 * (i / 2) + 1))
      obtain ⟨hnhigh, hnlow⟩ := a.nibbles_getD (show i / 2 < 6 by omega)
      by_cases hbyte : i / 2 < digits.length / 2
      · have hoctet := congrArg (·.getD (i / 2) 0) hwhole
        simp only [getD_take hbyte, getD_octets digits (show i / 2 < 6 by omega)] at hoctet
        rw [← hoctet] at hnhigh hnlow
        rcases Nat.mod_two_eq_zero_or_one i with heven | hodd
        · rw [show i = 2 * (i / 2) by omega, hnhigh, hhigh]
        · rw [show i = 2 * (i / 2) + 1 by omega, hnlow, hlow]
      · have hoctet := hhalf (by omega)
        rw [show digits.length / 2 = i / 2 by omega, getD_octets digits (by omega)] at hoctet
        rw [show i = 2 * (i / 2) by omega, hnhigh, ← Hex.high_eq hoctet, hhigh]
  · cases h

end Rayhunter
