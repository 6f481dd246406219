import Rayhunter.Recorder.Mounts

/-!
# Fields of the table of mounts

`unescape_mount_field` of `daemon/src/storage.rs`. What the kernel escapes of a field is read back
(`unescapeMountField_escape`). An escape is computed in a byte, and the product for its first digit
fits one where that digit is below four; only there does the loop do what it is for, which is to
leave alone what is no escape of a byte (`unescapeMountField_spec_iff`).
-/

namespace Rayhunter

/-! ## What the loop computes -/

/-- A product of bytes, where it is one. -/
def checkedMul (a b : UInt8) : Option UInt8 :=
  if a.toNat * b.toNat < 256 then some (a * b) else none

/-- A sum of bytes, where it is one. -/
def checkedAdd (a b : UInt8) : Option UInt8 :=
  if a.toNat + b.toNat < 256 then some (a + b) else none

/-- The value of an escape (`storage.rs:164`), as it is computed where overflow is an error. -/
def escapeValue (a b c : UInt8) : Option UInt8 :=
  (checkedMul (a - 48) 64).bind fun x =>
  (checkedMul (b - 48) 8).bind fun y =>
  (checkedAdd x y).bind fun s => checkedAdd s (c - 48)

/-- The loop of `unescape_mount_field` (`storage.rs:154`), nothing where a value overflows. -/
def unescapeChecked : List UInt8 → Option (List UInt8)
  | [] => some []
  | 92 :: a :: b :: c :: rest =>
    if isOctal a && isOctal b && isOctal c then
      (escapeValue a b c).bind fun value => (unescapeChecked rest).map (value :: ·)
    else (unescapeChecked (a :: b :: c :: rest)).map (92 :: ·)
  | b :: rest => (unescapeChecked rest).map (b :: ·)

/-! ## What it is for -/

/-- The number three octal digits write. -/
def octal (a b c : UInt8) : Nat := (a.toNat - 48) * 64 + (b.toNat - 48) * 8 + (c.toNat - 48)

/-- The bytes a field stands for: an escape of a byte is that byte, and nothing else is changed. -/
def fieldBytes : List UInt8 → List UInt8
  | [] => []
  | 92 :: a :: b :: c :: rest =>
    if isOctal a && isOctal b && isOctal c && decide (octal a b c < 256) then
      UInt8.ofNat (octal a b c) :: fieldBytes rest
    else 92 :: fieldBytes (a :: b :: c :: rest)
  | b :: rest => b :: fieldBytes rest

/-- A byte as the kernel writes it: blanks, line ends, tabs and backslashes as escapes. -/
def escapeMountByte (b : UInt8) : List UInt8 :=
  if b = 32 ∨ b = 9 ∨ b = 10 ∨ b = 92 then
    [92, 48 + b / 64, 48 + b / 8 % 8, 48 + b % 8]
  else [b]

/-- Three octal digits after a backslash that write no byte. -/
def LargeEscape (bytes : List UInt8) : Prop :=
  ∃ a b c : UInt8, [92, a, b, c] <:+: bytes ∧
    isOctal a = true ∧ isOctal b = true ∧ isOctal c = true ∧ 256 ≤ octal a b c

/-! ## The loop and the fields -/

theorem toNat_of_isOctal {b : UInt8} (h : isOctal b = true) : 48 ≤ b.toNat ∧ b.toNat ≤ 55 := by
  rw [isOctal, Bool.and_eq_true, decide_eq_true_eq, decide_eq_true_eq, UInt8.le_iff_toNat_le,
    UInt8.le_iff_toNat_le] at h
  exact h

/-- **The value of an escape overflows where it is not a byte.** -/
theorem escapeValue_eq {a b c : UInt8} (ha : isOctal a = true) (hb : isOctal b = true)
    (hc : isOctal c = true) :
    escapeValue a b c = if octal a b c < 256 then some (UInt8.ofNat (octal a b c)) else none := by
  have hdigit : ∀ {d : UInt8}, isOctal d = true →
      (d - 48).toNat = d.toNat - 48 ∧ d.toNat - 48 ≤ 7 := by
    intro d hd
    obtain ⟨hlo, hhi⟩ := toNat_of_isOctal hd
    refine ⟨UInt8.toNat_sub_of_le d 48 (UInt8.le_iff_toNat_le.2 hlo), by omega⟩
  obtain ⟨hea, hla⟩ := hdigit ha
  obtain ⟨heb, hlb⟩ := hdigit hb
  obtain ⟨hec, hlc⟩ := hdigit hc
  have h64 : (64 : UInt8).toNat = 64 := rfl
  have h8 : (8 : UInt8).toNat = 8 := rfl
  unfold escapeValue octal
  by_cases hfits : (a.toNat - 48) * 64 < 256
  · have hx : checkedMul (a - 48) 64 = some ((a - 48) * 64) :=
      if_pos (by rw [hea, h64]; exact hfits)
    have hy : checkedMul (b - 48) 8 = some ((b - 48) * 8) := if_pos (by rw [heb, h8]; omega)
    have hxn : ((a - 48) * 64).toNat = (a.toNat - 48) * 64 := by
      rw [UInt8.toNat_mul, hea, h64, Nat.mod_eq_of_lt hfits]
    have hyn : ((b - 48) * 8).toNat = (b.toNat - 48) * 8 := by
      rw [UInt8.toNat_mul, heb, h8, Nat.mod_eq_of_lt (by omega)]
    have hs : checkedAdd ((a - 48) * 64) ((b - 48) * 8) = some ((a - 48) * 64 + (b - 48) * 8) :=
      if_pos (by rw [hxn, hyn]; omega)
    have hsn : ((a - 48) * 64 + (b - 48) * 8).toNat =
        (a.toNat - 48) * 64 + (b.toNat - 48) * 8 := by
      rw [UInt8.toNat_add, hxn, hyn, Nat.mod_eq_of_lt (by omega)]
    rw [hx, Option.bind_some, hy, Option.bind_some, hs, Option.bind_some, checkedAdd, hsn, hec,
      if_pos (by omega), if_pos (by omega)]
    congr 1
    apply UInt8.toNat_inj.1
    rw [UInt8.toNat_add, hsn, hec, UInt8.toNat_ofNat']
  · have hx : checkedMul (a - 48) 64 = none := if_neg (by rw [hea, h64]; exact hfits)
    rw [hx, Option.bind_none, if_neg (by omega)]

theorem largeEscape_cons {x : UInt8} {rest : List UInt8} :
    LargeEscape (x :: rest) ↔
      (∃ a b c : UInt8, [92, a, b, c] <+: x :: rest ∧
        isOctal a = true ∧ isOctal b = true ∧ isOctal c = true ∧ 256 ≤ octal a b c) ∨
      LargeEscape rest := by
  constructor
  · rintro ⟨a, b, c, hinfix, hlarge⟩
    rcases List.infix_cons_iff.1 hinfix with hfirst | hlater
    · exact .inl ⟨a, b, c, hfirst, hlarge⟩
    · exact .inr ⟨a, b, c, hlater, hlarge⟩
  · rintro (⟨a, b, c, hfirst, hlarge⟩ | ⟨a, b, c, hlater, hlarge⟩)
    · exact ⟨a, b, c, List.infix_cons_iff.2 (.inl hfirst), hlarge⟩
    · exact ⟨a, b, c, List.infix_cons_iff.2 (.inr hlater), hlarge⟩

/-- A byte that is no backslash begins no escape. -/
theorem largeEscape_cons_of_ne {x : UInt8} {rest : List UInt8} (hx : x ≠ 92) :
    LargeEscape (x :: rest) ↔ LargeEscape rest := by
  rw [largeEscape_cons, or_iff_right]
  rintro ⟨a, b, c, hfirst, -⟩
  exact hx (List.cons_prefix_cons.1 hfirst).1.symm

theorem escape_prefix_iff {a b c a' b' c' : UInt8} {rest : List UInt8} :
    [92, a', b', c'] <+: 92 :: a :: b :: c :: rest ↔ a' = a ∧ b' = b ∧ c' = c := by
  simp only [List.cons_prefix_cons, List.nil_prefix, true_and, and_true]

theorem ne_backslash_of_isOctal {b : UInt8} (h : isOctal b = true) : b ≠ 92 := by
  rintro rfl
  cases h

/-- **The loop leaves alone what is no escape of a byte, and overflows nowhere, where no three digits
after a backslash write a number above a byte.** -/
theorem unescapeChecked_eq_some_iff {bytes : List UInt8} :
    unescapeChecked bytes = some (fieldBytes bytes) ↔ ¬LargeEscape bytes := by
  induction bytes using unescapeChecked.induct with
  | case1 =>
    refine iff_of_true rfl ?_
    rintro ⟨a, b, c, hinfix, -⟩
    cases List.eq_nil_of_infix_nil hinfix
  | case2 a b c rest hdigits ih =>
    obtain ⟨hab, hc⟩ := Bool.and_eq_true_iff.1 hdigits
    obtain ⟨ha, hb⟩ := Bool.and_eq_true_iff.1 hab
    have hdigitsOnly : LargeEscape (a :: b :: c :: rest) ↔ LargeEscape rest := by
      rw [largeEscape_cons_of_ne (ne_backslash_of_isOctal ha),
        largeEscape_cons_of_ne (ne_backslash_of_isOctal hb),
        largeEscape_cons_of_ne (ne_backslash_of_isOctal hc)]
    rw [unescapeChecked, if_pos hdigits, escapeValue_eq ha hb hc, fieldBytes, hdigits,
      Bool.true_and, largeEscape_cons, hdigitsOnly, not_or]
    by_cases hbyte : octal a b c < 256
    · rw [if_pos hbyte, if_pos (decide_eq_true hbyte), Option.bind_some, Option.map_eq_some_iff]
      have hfirst : ¬∃ a' b' c' : UInt8, [92, a', b', c'] <+: 92 :: a :: b :: c :: rest ∧
          isOctal a' = true ∧ isOctal b' = true ∧ isOctal c' = true ∧ 256 ≤ octal a' b' c' := by
        rintro ⟨a', b', c', hpre, -, -, -, hlarge⟩
        obtain ⟨rfl, rfl, rfl⟩ := escape_prefix_iff.1 hpre
        omega
      simp only [List.cons.injEq, true_and, exists_eq_right, ih]
      exact (and_iff_right hfirst).symm
    · rw [if_neg hbyte, Option.bind_none]
      have hlarge : 256 ≤ octal a b c := by omega
      exact iff_of_false (Option.some_ne_none _).symm fun hnone =>
        hnone.1 ⟨a, b, c, escape_prefix_iff.2 ⟨rfl, rfl, rfl⟩, ha, hb, hc, hlarge⟩
  | case3 a b c rest hdigits ih =>
    have hfalse : (isOctal a && isOctal b && isOctal c) = false := eq_false_of_ne_true hdigits
    have hfirst : ¬∃ a' b' c' : UInt8, [92, a', b', c'] <+: 92 :: a :: b :: c :: rest ∧
        isOctal a' = true ∧ isOctal b' = true ∧ isOctal c' = true ∧ 256 ≤ octal a' b' c' := by
      rintro ⟨a', b', c', hpre, ha, hb, hc, -⟩
      obtain ⟨rfl, rfl, rfl⟩ := escape_prefix_iff.1 hpre
      exact hdigits (by rw [ha, hb, hc]; rfl)
    rw [unescapeChecked, if_neg hdigits, fieldBytes, hfalse, Bool.false_and,
      if_neg Bool.false_ne_true, largeEscape_cons, or_iff_right hfirst, ← ih,
      Option.map_eq_some_iff]
    simp only [List.cons.injEq, true_and, exists_eq_right]
  | case4 x rest hshort ih =>
    have hfirst : ¬∃ a' b' c' : UInt8, [92, a', b', c'] <+: x :: rest ∧
        isOctal a' = true ∧ isOctal b' = true ∧ isOctal c' = true ∧ 256 ≤ octal a' b' c' := by
      rintro ⟨a', b', c', hpre, -⟩
      obtain ⟨rfl, tl, hrest⟩ := List.cons_prefix_cons.1 hpre
      exact hshort a' b' c' tl rfl hrest.symm
    rw [unescapeChecked, fieldBytes, largeEscape_cons, or_iff_right hfirst, ← ih,
      Option.map_eq_some_iff]
    · simp only [List.cons.injEq, true_and, exists_eq_right]
    · exact hshort
    · exact hshort

/-- A value that does not overflow is the one that wraps. -/
theorem eq_of_escapeValue {a b c value : UInt8} (h : escapeValue a b c = some value) :
    value = (a - 48) * 64 + (b - 48) * 8 + (c - 48) := by
  obtain ⟨x, hx, h⟩ := Option.bind_eq_some_iff.1 h
  obtain ⟨y, hy, h⟩ := Option.bind_eq_some_iff.1 h
  obtain ⟨s, hs, h⟩ := Option.bind_eq_some_iff.1 h
  have hx := Option.some.inj (Option.ite_none_right_eq_some.1 hx).2
  have hy := Option.some.inj (Option.ite_none_right_eq_some.1 hy).2
  have hs := Option.some.inj (Option.ite_none_right_eq_some.1 hs).2
  have hvalue := Option.some.inj (Option.ite_none_right_eq_some.1 h).2
  rw [hx, hy, hs, hvalue]

/-- Where nothing overflows, the loop is the one that is compiled to wrap. -/
theorem unescapeBytes_of_checked {bytes out : List UInt8} (h : unescapeChecked bytes = some out) :
    unescapeBytes bytes = out := by
  induction bytes using unescapeChecked.induct generalizing out with
  | case1 => exact Option.some.inj h
  | case2 a b c rest hdigits ih =>
    rw [unescapeChecked, if_pos hdigits] at h
    obtain ⟨value, hvalue, h⟩ := Option.bind_eq_some_iff.1 h
    obtain ⟨out', hrest, rfl⟩ := Option.map_eq_some_iff.1 h
    rw [unescapeBytes, if_pos hdigits, ih hrest, eq_of_escapeValue hvalue]
  | case3 a b c rest hdigits ih =>
    rw [unescapeChecked, if_neg hdigits] at h
    obtain ⟨out', hrest, rfl⟩ := Option.map_eq_some_iff.1 h
    rw [unescapeBytes, if_neg hdigits, ih hrest]
  | case4 x rest hshort ih =>
    rw [unescapeChecked] at h
    · obtain ⟨out', hrest, rfl⟩ := Option.map_eq_some_iff.1 h
      rw [unescapeBytes, ih hrest]
      exact hshort
    · exact hshort

/-! ## What the kernel escapes -/

theorem unescapeBytes_cons_of_ne {x : UInt8} {rest : List UInt8} (hx : x ≠ 92) :
    unescapeBytes (x :: rest) = x :: unescapeBytes rest := by
  rw [unescapeBytes]
  intro a b c tl hbackslash
  exact absurd hbackslash hx

/-- **What is escaped is read back.** -/
theorem unescapeBytes_escape (bytes : List UInt8) :
    unescapeBytes (bytes.flatMap escapeMountByte) = bytes := by
  induction bytes with
  | nil => rfl
  | cons b bytes ih =>
    rw [List.flatMap_cons, escapeMountByte]
    split
    next hescaped =>
      have hback : ∀ rest, unescapeBytes ([92, 48 + b / 64, 48 + b / 8 % 8, 48 + b % 8] ++ rest) =
          b :: unescapeBytes rest := by
        intro rest
        rcases hescaped with rfl | rfl | rfl | rfl <;> rfl
      rw [hback, ih]
    next hplain =>
      have hb : b ≠ 92 := fun h => hplain (.inr (.inr (.inr h)))
      rw [List.singleton_append, unescapeBytes_cons_of_ne hb, ih]

/-! ## Texts -/

theorem utf8_ofList (cs : List Char) :
    utf8 (String.ofList cs) = cs.flatMap String.utf8EncodeChar := by
  rw [utf8, String.toUTF8_eq_toByteArray, String.toByteArray_ofList, List.utf8Encode]
  simp

theorem lossy_utf8 (cs : List Char) : Utf8.lossy (cs.flatMap String.utf8EncodeChar) = cs := by
  unfold Utf8.lossy
  induction cs with
  | nil => rfl
  | cons c cs ih => rw [List.flatMap_cons, Utf8.lossyFrom_encode, ih]

/-- A character is one byte of ASCII, or bytes of which none is. -/
theorem utf8EncodeChar_cases (c : Char) :
    (∃ b : UInt8, b.toNat < 128 ∧ String.utf8EncodeChar c = [b]) ∨
      ∃ b more, String.utf8EncodeChar c = b :: more ∧ ∀ x ∈ b :: more, 128 ≤ x.toNat := by
  unfold String.utf8EncodeChar
  dsimp only
  split_ifs with h1 h2 h3
  · exact .inl ⟨_, by rw [UInt8.toNat_ofNat']; omega, rfl⟩
  · refine .inr ⟨_, _, rfl, ?_⟩
    intro x hx
    simp only [List.mem_cons, List.not_mem_nil, or_false] at hx
    rcases hx with rfl | rfl <;> rw [UInt8.toNat_ofNat'] <;> omega
  · refine .inr ⟨_, _, rfl, ?_⟩
    intro x hx
    simp only [List.mem_cons, List.not_mem_nil, or_false] at hx
    rcases hx with rfl | rfl | rfl <;> rw [UInt8.toNat_ofNat'] <;> omega
  · refine .inr ⟨_, _, rfl, ?_⟩
    intro x hx
    simp only [List.mem_cons, List.not_mem_nil, or_false] at hx
    rcases hx with rfl | rfl | rfl | rfl <;> rw [UInt8.toNat_ofNat'] <;> omega

/-- What follows a byte of ASCII in a text is a text. -/
theorem exists_text_tail {cs : List Char} {b : UInt8} {rest : List UInt8} (hb : b.toNat < 128)
    (h : b :: rest = cs.flatMap String.utf8EncodeChar) :
    ∃ ds : List Char, rest = ds.flatMap String.utf8EncodeChar := by
  cases cs with
  | nil => cases h
  | cons c cs =>
    rw [List.flatMap_cons] at h
    rcases utf8EncodeChar_cases c with ⟨b', -, hc⟩ | ⟨b', more, hc, hhigh⟩
    · rw [hc, List.singleton_append] at h
      exact ⟨cs, (List.cons.inj h).2⟩
    · rw [hc, List.cons_append] at h
      obtain ⟨rfl, -⟩ := List.cons.inj h
      have := hhigh b List.mem_cons_self
      omega

/-- Bytes that are not ASCII are not escaped. -/
theorem exists_of_escape_append {bytes more rest : List UInt8} (hhigh : ∀ x ∈ more, 128 ≤ x.toNat)
    (h : bytes.flatMap escapeMountByte = more ++ rest) :
    ∃ bytes', bytes = more ++ bytes' ∧ bytes'.flatMap escapeMountByte = rest := by
  induction more generalizing bytes with
  | nil => exact ⟨bytes, rfl, h⟩
  | cons x more ih =>
    cases bytes with
    | nil => cases h
    | cons b bytes =>
      have hx := hhigh x List.mem_cons_self
      rw [List.flatMap_cons, escapeMountByte] at h
      split at h
      · obtain ⟨rfl, -⟩ := List.cons.inj h
        exact absurd hx (by decide)
      · rw [List.singleton_append, List.cons_append] at h
        obtain ⟨rfl, htail⟩ := List.cons.inj h
        obtain ⟨bytes', rfl, hrest⟩ := ih (fun y hy => hhigh y (List.mem_cons_of_mem b hy)) htail
        exact ⟨bytes', rfl, hrest⟩

/-- **What is a text once it is escaped is one as it is.** -/
theorem exists_text {bytes : List UInt8} {cs : List Char}
    (h : bytes.flatMap escapeMountByte = cs.flatMap String.utf8EncodeChar) :
    ∃ ds : List Char, bytes = ds.flatMap String.utf8EncodeChar := by
  match bytes, cs with
  | [], _ => exact ⟨[], rfl⟩
  | b :: bytes, [] =>
    rw [List.flatMap_cons, escapeMountByte] at h
    split at h <;> cases h
  | b :: bytes, c :: cs =>
    rw [List.flatMap_cons (f := String.utf8EncodeChar)] at h
    rcases utf8EncodeChar_cases c with ⟨b', hlow, hc⟩ | ⟨b', more, hc, hhigh⟩
    · rw [hc, List.flatMap_cons, escapeMountByte] at h
      split at h
      next hescaped =>
        -- three digits follow, each a character of its own
        obtain ⟨-, h⟩ := List.cons.inj h
        have hdigit : (48 + b / 64).toNat < 128 ∧ (48 + b / 8 % 8).toNat < 128 ∧
            (48 + b % 8).toNat < 128 := by
          rcases hescaped with rfl | rfl | rfl | rfl <;> decide
        obtain ⟨cs₁, h⟩ := exists_text_tail hdigit.1 h
        obtain ⟨cs₂, h⟩ := exists_text_tail hdigit.2.1 h
        obtain ⟨cs₃, h⟩ := exists_text_tail hdigit.2.2 h
        obtain ⟨ds, hds⟩ := exists_text h
        have hchar : String.utf8EncodeChar (Char.ofNat b.toNat) = [b] := by
          rcases hescaped with rfl | rfl | rfl | rfl <;> decide
        exact ⟨Char.ofNat b.toNat :: ds, by rw [List.flatMap_cons, hchar, hds]; rfl⟩
      next =>
        rw [List.singleton_append, List.singleton_append] at h
        obtain ⟨rfl, htail⟩ := List.cons.inj h
        obtain ⟨ds, hds⟩ := exists_text htail
        exact ⟨c :: ds, by rw [List.flatMap_cons, hc, hds]; rfl⟩
    · rw [hc] at h
      obtain ⟨bytes', hbytes, h⟩ := exists_of_escape_append hhigh h
      have hshorter : bytes'.length ≤ bytes.length := by
        have hlength := congrArg List.length hbytes
        simp only [List.length_append, List.length_cons] at hlength
        omega
      obtain ⟨ds, hds⟩ := exists_text h
      exact ⟨c :: ds, by rw [List.flatMap_cons, hc, hbytes, hds]⟩
termination_by bytes.length

/-- **A field the kernel escaped is read as what it was.** -/
theorem utf8_unescapeMountField {bytes : List UInt8} {field : List Char}
    (h : utf8 (String.ofList field) = bytes.flatMap escapeMountByte) :
    utf8 (unescapeMountField field) = bytes := by
  obtain ⟨ds, rfl⟩ := exists_text (h.symm.trans (utf8_ofList field))
  rw [unescapeMountField, h, unescapeBytes_escape, lossy_utf8, utf8_ofList]

/-- **Fields are unescaped.** What the kernel escaped is what it was, and any other field is read
without overflow, with what is no escape of a byte left alone, exactly where no three digits after a
backslash write a number above a byte. -/
theorem unescapeMountField_iff (bytes : List UInt8) (field : List Char) :
    (utf8 (String.ofList field) = bytes.flatMap escapeMountByte →
      utf8 (unescapeMountField field) = bytes) ∧
    ((unescapeChecked (utf8 (String.ofList field)) =
          some (fieldBytes (utf8 (String.ofList field))) ∧
        unescapeMountField field =
          String.ofList (Utf8.lossy (fieldBytes (utf8 (String.ofList field))))) ↔
      ¬LargeEscape (utf8 (String.ofList field))) := by
  refine ⟨fun h => utf8_unescapeMountField h, ?_⟩
  rw [← unescapeChecked_eq_some_iff]
  refine and_iff_left_of_imp fun hchecked => ?_
  rw [unescapeMountField, unescapeBytes_of_checked hchecked]

/-- The number `\777` writes is no byte, and its product is none. -/
theorem unescapeMountField_overflows :
    unescapeChecked (utf8 "/mnt/a\\777") = none ∧
      unescapeBytes (utf8 "/mnt/a\\777") ≠ utf8 "/mnt/a\\777" := by
  decide

end Rayhunter
