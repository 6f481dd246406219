import Mathlib.Data.List.Basic

/-!
# Base64

The standard alphabet with padding: three bytes are written as four characters, and a text is read
where it is padded and its last character has no bits left over. What is written is read back
(`decode_encode`).
-/

namespace Base64

/-- The alphabet. -/
def alphabet : List Char :=
  "ABCDEFGHIJKLMNOPQRSTUVWXYZabcdefghijklmnopqrstuvwxyz0123456789+/".toList

/-- The character of a number below 64. -/
def digit (n : Nat) : Char := alphabet.getD n '='

/-- The number of a character. -/
def value? (c : Char) : Option Nat := alphabet.idxOf? c

/-- Bytes as text. -/
def encode : List UInt8 → List Char
  | [] => []
  | [a] => [digit (a.toNat / 4), digit (a.toNat % 4 * 16), '=', '=']
  | [a, b] =>
    [digit (a.toNat / 4), digit (a.toNat % 4 * 16 + b.toNat / 16), digit (b.toNat % 16 * 4), '=']
  | a :: b :: c :: rest =>
    digit (a.toNat / 4) :: digit (a.toNat % 4 * 16 + b.toNat / 16) ::
      digit (b.toNat % 16 * 4 + c.toNat / 64) :: digit (c.toNat % 64) :: encode rest

/-- The last four characters of a text, of which the fourth is padding. -/
def decodeLast (x y z : Char) : Option (List UInt8) :=
  (value? x).bind fun x =>
  (value? y).bind fun y =>
    if z = '=' then if y % 16 = 0 then some [UInt8.ofNat (x * 4 + y / 16)] else none
    else (value? z).bind fun z =>
      if z % 4 = 0 then
        some [UInt8.ofNat (x * 4 + y / 16), UInt8.ofNat (y % 16 * 16 + z / 4)]
      else none

-- the last character has bits left over
example : decodeLast 'Y' 'R' '=' = none := by decide

/-- Text as bytes. -/
def decode : List Char → Option (List UInt8)
  | [] => some []
  | x :: y :: z :: w :: rest =>
    if w = '=' then if rest = [] then decodeLast x y z else none
    else
      (value? x).bind fun x =>
      (value? y).bind fun y =>
      (value? z).bind fun z =>
      (value? w).bind fun w =>
      (decode rest).map fun bytes =>
        UInt8.ofNat (x * 4 + y / 16) :: UInt8.ofNat (y % 16 * 16 + z / 4) ::
          UInt8.ofNat (z % 4 * 64 + w) :: bytes
  | _ => none

example : encode [0x61, 0x6c, 0x69, 0x63, 0x65] = "YWxpY2U=".toList := by decide

theorem value?_digit {n : Nat} (h : n < 64) : value? (digit n) = some n := by
  have hall : ∀ n < 64, value? (digit n) = some n := by decide
  exact hall n h

theorem digit_mem {n : Nat} (h : n < 64) : digit n ∈ alphabet := by
  have hlength : n < alphabet.length := h
  rw [digit, List.getD_eq_getElem?_getD, List.getElem?_eq_getElem hlength, Option.getD_some]
  exact List.getElem_mem hlength

theorem digit_ne_pad {n : Nat} (h : n < 64) : digit n ≠ '=' := by
  have hpad : '=' ∉ alphabet := by decide
  exact fun heq => hpad (heq ▸ digit_mem h)

/-- The bytes that are put together from their parts. -/
theorem ofNat_parts {n : Nat} {b : UInt8} (h : n = b.toNat) : UInt8.ofNat n = b := by
  rw [h, UInt8.ofNat_toNat]

/-- **What is written is read back.** -/
theorem decode_encode (bytes : List UInt8) : decode (encode bytes) = some bytes := by
  induction bytes using encode.induct with
  | case1 => rfl
  | case2 a =>
    have ha := a.toNat_lt
    rw [encode, decode, if_pos rfl, if_pos rfl, decodeLast, value?_digit (by omega),
      value?_digit (by omega), Option.bind_some, Option.bind_some, if_pos rfl, if_pos (by omega),
      ofNat_parts (b := a) (by omega)]
  | case3 a b =>
    have ha := a.toNat_lt
    have hb := b.toNat_lt
    rw [encode, decode, if_pos rfl, if_pos rfl, decodeLast, value?_digit (by omega),
      value?_digit (by omega), Option.bind_some, Option.bind_some,
      if_neg (digit_ne_pad (by omega)), value?_digit (by omega), Option.bind_some,
      if_pos (by omega), ofNat_parts (b := a) (by omega), ofNat_parts (b := b) (by omega)]
  | case4 a b c rest ih =>
    have ha := a.toNat_lt
    have hb := b.toNat_lt
    have hc := c.toNat_lt
    rw [encode, decode, if_neg (digit_ne_pad (by omega)), value?_digit (by omega),
      value?_digit (by omega), value?_digit (by omega), value?_digit (by omega)]
    simp only [Option.bind_some, ih, Option.map_some]
    rw [ofNat_parts (b := a) (by omega), ofNat_parts (b := b) (by omega),
      ofNat_parts (b := c) (by omega)]

/-- What is written has characters of the alphabet and padding only. -/
theorem mem_of_mem_encode {bytes : List UInt8} {c : Char} (h : c ∈ encode bytes) :
    c ∈ alphabet ∨ c = '=' := by
  have hlast : ∀ {n : Nat}, n < 64 → c = digit n → c ∈ alphabet ∨ c = '=' := fun hn heq =>
    .inl (heq ▸ digit_mem hn)
  induction bytes using encode.induct with
  | case1 => cases h
  | case2 a =>
    have ha := a.toNat_lt
    rw [encode] at h
    simp only [List.mem_cons, List.not_mem_nil, or_false, or_self] at h
    rcases h with h | h | h
    · exact hlast (by omega) h
    · exact hlast (by omega) h
    · exact .inr h
  | case3 a b =>
    have ha := a.toNat_lt
    have hb := b.toNat_lt
    rw [encode] at h
    simp only [List.mem_cons, List.not_mem_nil, or_false] at h
    rcases h with h | h | h | h
    · exact hlast (by omega) h
    · exact hlast (by omega) h
    · exact hlast (by omega) h
    · exact .inr h
  | case4 a b c rest ih =>
    have ha := a.toNat_lt
    have hb := b.toNat_lt
    have hc := c.toNat_lt
    rw [encode] at h
    simp only [List.mem_cons] at h
    rcases h with h | h | h | h | h
    · exact hlast (by omega) h
    · exact hlast (by omega) h
    · exact hlast (by omega) h
    · exact hlast (by omega) h
    · exact ih h

/-- Every three bytes are four characters, and so is what is left. -/
theorem length_encode (bytes : List UInt8) :
    (encode bytes).length = 4 * ((bytes.length + 2) / 3) := by
  induction bytes using encode.induct with
  | case1 => rfl
  | case2 a => simp [encode]
  | case3 a b => simp [encode]
  | case4 a b c rest ih =>
    simp only [encode, List.length_cons, ih]
    omega

/-! ## In the paths of links -/

/-- The character that stands for another where that may not. -/
def urlChar (c : Char) : Char := if c = '+' then '-' else if c = '/' then '_' else c

/-- Bytes as text with two other characters, and no padding. -/
def encodeUrl (bytes : List UInt8) : List Char := ((encode bytes).filter (· ≠ '=')).map urlChar

theorem length_encodeUrl_le (bytes : List UInt8) :
    (encodeUrl bytes).length ≤ 4 * ((bytes.length + 2) / 3) := by
  rw [encodeUrl, List.length_map, ← length_encode]
  exact List.length_filter_le _ _

theorem encodeUrl_ne_nil {bytes : List UInt8} (h : bytes ≠ []) : encodeUrl bytes ≠ [] := by
  -- the first character is never padding
  have hfirst : ∀ a : UInt8, digit (a.toNat / 4) ≠ '=' := fun a => digit_ne_pad (by
    have := a.toNat_lt
    omega)
  have hmem : ∃ a : UInt8, digit (a.toNat / 4) ∈ encode bytes := by
    cases bytes using encode.fun_cases with
    | case1 => exact absurd rfl h
    | case2 a | case3 a | case4 a => exact ⟨a, List.mem_cons_self⟩
  obtain ⟨a, ha⟩ := hmem
  have hfilter : digit (a.toNat / 4) ∈ (encode bytes).filter (· ≠ '=') :=
    List.mem_filter.2 ⟨ha, decide_eq_true (hfirst a)⟩
  exact List.ne_nil_of_mem (List.mem_map_of_mem hfilter)

/-- What is written has characters of the alphabet only, or the ones that stand for two of them. -/
theorem mem_of_mem_encodeUrl {bytes : List UInt8} {c : Char} (h : c ∈ encodeUrl bytes) :
    c ∈ alphabet.map urlChar := by
  obtain ⟨d, hd, rfl⟩ := List.mem_map.1 h
  obtain ⟨hmem, hne⟩ := List.mem_filter.1 hd
  rcases mem_of_mem_encode hmem with hd | rfl
  · exact List.mem_map_of_mem hd
  · simp at hne

end Base64
