import Mathlib.Algebra.BigOperators.Group.List.Basic
import Mathlib.Algebra.Group.Nat.Even
import Mathlib.Algebra.GroupWithZero.Nat

/-!
# Reading UTF-8 that may be broken

`String::from_utf8_lossy`: bytes are read as characters, and where they are not UTF-8, the longest
part that could have begun a character is read as one replacement character. What is encoded is read
back (`lossyFrom_encode`). A text can be read from so many bytes as its characters cost, and from no
fewer (`costs_lossy_le`, `exists_lossy`): a replacement character costs one byte, every other one
what it is encoded in.
-/

namespace Utf8

/-- U+FFFD. -/
def replacement : Char := Char.ofNat 0xFFFD

/-- How many bytes follow the first byte of a character, and between which the second one is. -/
def shape? (b : Nat) : Option (Nat × Nat × Nat) :=
  if 0xC2 ≤ b ∧ b ≤ 0xDF then some (1, 0x80, 0xBF)
  else if b = 0xE0 then some (2, 0xA0, 0xBF)
  else if b = 0xED then some (2, 0x80, 0x9F)
  else if 0xE1 ≤ b ∧ b ≤ 0xEF then some (2, 0x80, 0xBF)
  else if b = 0xF0 then some (3, 0x90, 0xBF)
  else if 0xF1 ≤ b ∧ b ≤ 0xF3 then some (3, 0x80, 0xBF)
  else if b = 0xF4 then some (3, 0x80, 0x8F)
  else none

/-- Up to `n` bytes that continue a character, the first of them between two bounds. -/
def tail : Nat → Nat → Nat → List UInt8 → List Nat
  | n + 1, lo, hi, b :: rest =>
    if lo ≤ b.toNat ∧ b.toNat ≤ hi then b.toNat :: tail n 0x80 0xBF rest else []
  | _, _, _, _ => []

/-- The number in a first byte and in bytes that continue it. -/
def value (b : Nat) (bytes : List Nat) : Nat :=
  bytes.foldl (fun v x => v * 64 + x % 64) (b % 2 ^ (6 - bytes.length))

/-- The character at the front of bytes, and how many bytes after the first one it takes. -/
def step (b : UInt8) (rest : List UInt8) : Char × Nat :=
  if b < 0x80 then (Char.ofNat b.toNat, 0)
  else
    match shape? b.toNat with
    | none => (replacement, 0)
    | some (n, lo, hi) =>
      let bytes := tail n lo hi rest
      (if bytes.length = n then Char.ofNat (value b.toNat bytes) else replacement, bytes.length)

/-- Reading, some bytes to be skipped first. -/
def lossyFrom : Nat → List UInt8 → List Char
  | _, [] => []
  | n + 1, _ :: rest => lossyFrom n rest
  | 0, b :: rest => (step b rest).1 :: lossyFrom (step b rest).2 rest

/-- `from_utf8_lossy`. -/
def lossy (bytes : List UInt8) : List Char := lossyFrom 0 bytes

-- the euro sign, then what is left of it without its last byte
example : lossy [0xE2, 0x82, 0xAC, 0xE2, 0x82, 0x41] = ['€', replacement, 'A'] := by decide

/-! ## What is encoded is read back -/

theorem lossyFrom_append (skipped rest : List UInt8) :
    lossyFrom skipped.length (skipped ++ rest) = lossyFrom 0 rest := by
  induction skipped with
  | nil => rfl
  | cons b skipped ih => exact ih

theorem tail_length_le (n lo hi : Nat) (rest : List UInt8) :
    (tail n lo hi rest).length ≤ n ∧ (tail n lo hi rest).length ≤ rest.length := by
  induction n generalizing lo hi rest with
  | zero => simp [tail]
  | succ n ih =>
    cases rest with
    | nil => simp [tail]
    | cons b rest =>
      unfold tail
      split
      · have := ih 0x80 0xBF rest
        simp only [List.length_cons]
        omega
      · simp

theorem toNat_ofNat {n : Nat} (h : n < 256) : (UInt8.ofNat n).toNat = n :=
  UInt8.toNat_ofNat_of_lt' h

theorem not_lt_of_toNat {n : Nat} (hmin : 0x80 ≤ n) (hmax : n < 256) : ¬UInt8.ofNat n < 0x80 := by
  rw [UInt8.lt_iff_toNat_lt, toNat_ofNat hmax]
  exact Nat.not_lt.mpr hmin

/-- A first byte and the bytes it takes are a character. -/
theorem step_of_tail {b n lo hi : Nat} {bytes : List Nat} {rest : List UInt8} (hmin : 0x80 ≤ b)
    (hmax : b < 256) (hshape : shape? b = some (n, lo, hi)) (htail : tail n lo hi rest = bytes)
    (hlength : bytes.length = n) :
    step (UInt8.ofNat b) rest = (Char.ofNat (value b bytes), n) := by
  rw [step, if_neg (not_lt_of_toNat hmin hmax), toNat_ofNat hmax, hshape]
  simp [htail, hlength]

theorem tail_zero (lo hi : Nat) (rest : List UInt8) : tail 0 lo hi rest = [] := by
  cases rest <;> rfl

theorem tail_cons {n lo hi x : Nat} {bytes : List Nat} {rest : List UInt8} (hlo : lo ≤ x)
    (hhi : x ≤ hi) (hx : x < 256) (hbytes : tail n 0x80 0xBF rest = bytes) :
    tail (n + 1) lo hi (UInt8.ofNat x :: rest) = x :: bytes := by
  rw [tail, toNat_ofNat hx, if_pos ⟨hlo, hhi⟩, hbytes]

theorem tail_last (v : Nat) (rest : List UInt8) :
    tail 1 0x80 0xBF (UInt8.ofNat (v % 64 + 0x80) :: rest) = [v % 64 + 0x80] :=
  tail_cons (by omega) (by omega) (by omega) (tail_zero ..)

theorem step_one {v : Nat} (h : v ≤ 0x7f) (rest : List UInt8) :
    step (UInt8.ofNat v) rest = (Char.ofNat v, 0) := by
  have hv : UInt8.ofNat v < 0x80 := by
    rw [UInt8.lt_iff_toNat_lt, toNat_ofNat (by omega)]
    exact Nat.lt_succ_of_le h
  rw [step, if_pos hv, toNat_ofNat (by omega)]

theorem step_two {v : Nat} (hmin : 0x7f < v) (hmax : v ≤ 0x7ff) (rest : List UInt8) :
    step (UInt8.ofNat (v / 64 % 32 + 0xc0)) (UInt8.ofNat (v % 64 + 0x80) :: rest) =
      (Char.ofNat v, 1) := by
  have hshape : shape? (v / 64 % 32 + 0xc0) = some (1, 0x80, 0xBF) := if_pos (by omega)
  have hvalue : value (v / 64 % 32 + 0xc0) [v % 64 + 0x80] = v := by
    simp [value]
    omega
  rw [step_of_tail (by omega) (by omega) hshape (tail_last v rest) rfl, hvalue]

theorem step_three {v : Nat} (hmin : 0x7ff < v) (hmax : v ≤ 0xffff)
    (hvalid : v < 0xD800 ∨ 0xDFFF < v) (rest : List UInt8) :
    step (UInt8.ofNat (v / 4096 % 16 + 0xe0))
      (UInt8.ofNat (v / 64 % 64 + 0x80) :: UInt8.ofNat (v % 64 + 0x80) :: rest) =
        (Char.ofNat v, 2) := by
  obtain ⟨lo, hi, hshape, hlo, hhi⟩ : ∃ lo hi, shape? (v / 4096 % 16 + 0xe0) = some (2, lo, hi) ∧
      lo ≤ v / 64 % 64 + 0x80 ∧ v / 64 % 64 + 0x80 ≤ hi := by
    unfold shape?
    split_ifs
    all_goals first
      | exact ⟨_, _, rfl, by omega, by omega⟩
      | omega
  have htail := tail_cons hlo hhi (by omega) (tail_last v rest)
  have hvalue : value (v / 4096 % 16 + 0xe0) [v / 64 % 64 + 0x80, v % 64 + 0x80] = v := by
    simp [value]
    omega
  rw [step_of_tail (by omega) (by omega) hshape htail rfl, hvalue]

theorem step_four {v : Nat} (hmin : 0xffff < v) (hmax : v < 0x110000) (rest : List UInt8) :
    step (UInt8.ofNat (v / 262144 % 8 + 0xf0))
      (UInt8.ofNat (v / 4096 % 64 + 0x80) :: UInt8.ofNat (v / 64 % 64 + 0x80) ::
        UInt8.ofNat (v % 64 + 0x80) :: rest) = (Char.ofNat v, 3) := by
  obtain ⟨lo, hi, hshape, hlo, hhi⟩ : ∃ lo hi, shape? (v / 262144 % 8 + 0xf0) = some (3, lo, hi) ∧
      lo ≤ v / 4096 % 64 + 0x80 ∧ v / 4096 % 64 + 0x80 ≤ hi := by
    unfold shape?
    split_ifs
    all_goals first
      | exact ⟨_, _, rfl, by omega, by omega⟩
      | omega
  have hrest : tail 2 0x80 0xBF
      (UInt8.ofNat (v / 64 % 64 + 0x80) :: UInt8.ofNat (v % 64 + 0x80) :: rest) =
        [v / 64 % 64 + 0x80, v % 64 + 0x80] :=
    tail_cons (by omega) (by omega) (by omega) (tail_last v rest)
  have htail := tail_cons hlo hhi (by omega) hrest
  have hvalue : value (v / 262144 % 8 + 0xf0)
      [v / 4096 % 64 + 0x80, v / 64 % 64 + 0x80, v % 64 + 0x80] = v := by
    simp [value]
    omega
  rw [step_of_tail (by omega) (by omega) hshape htail rfl, hvalue]

/-- A character is read of its bytes. -/
theorem lossyFrom_encode (c : Char) (rest : List UInt8) :
    lossyFrom 0 (String.utf8EncodeChar c ++ rest) = c :: lossyFrom 0 rest := by
  have hofNat : Char.ofNat c.val.toNat = c := c.ofNat_toNat
  have hvalid : c.val.toNat < 0xD800 ∨ 0xDFFF < c.val.toNat ∧ c.val.toNat < 0x110000 := c.valid
  unfold String.utf8EncodeChar
  dsimp only
  split_ifs with h1 h2 h3
  · rw [List.cons_append, lossyFrom, step_one h1, hofNat]
    rfl
  · rw [List.cons_append, List.cons_append, lossyFrom, step_two (by omega) h2, hofNat]
    rfl
  · rw [List.cons_append, List.cons_append, List.cons_append, lossyFrom,
      step_three (by omega) h3 (by omega), hofNat]
    rfl
  · rw [List.cons_append, List.cons_append, List.cons_append, List.cons_append, lossyFrom,
      step_four (by omega) (by omega), hofNat]
    rfl

/-! ## What a text costs -/

/-- The bytes that are needed to have a character read. -/
def cost (c : Char) : Nat := if c = replacement then 1 else c.utf8Size

/-- The bytes that are needed to have a text read. -/
def costs (cs : List Char) : Nat := (cs.map cost).sum

@[simp] theorem costs_nil : costs [] = 0 := rfl

@[simp] theorem costs_cons (c : Char) (cs : List Char) : costs (c :: cs) = cost c + costs cs := by
  rw [costs, List.map_cons, List.sum_cons, ← costs]

@[simp] theorem costs_append (cs ds : List Char) : costs (cs ++ ds) = costs cs + costs ds := by
  rw [costs, List.map_append, List.sum_append, ← costs, ← costs]

theorem one_le_cost (c : Char) : 1 ≤ cost c := by
  unfold cost
  split
  · exact Nat.le_refl _
  · exact c.utf8Size_pos

theorem cost_le_utf8Size (c : Char) : cost c ≤ c.utf8Size := by
  unfold cost
  split
  · exact c.utf8Size_pos
  · exact Nat.le_refl _

theorem utf8Size_ofNat_le {v n : Nat}
    (h : v < 0x80 ∧ n = 1 ∨ v < 0x800 ∧ n = 2 ∨ v < 0x10000 ∧ n = 3 ∨ n = 4) :
    (Char.ofNat v).utf8Size ≤ n := by
  have hle : (Char.ofNat v).val.toNat ≤ v := by
    by_cases hvalid : v.isValidChar
    · rw [Char.ofNat, dif_pos hvalid]
      exact Nat.le_of_eq (UInt32.toNat_ofNatLT ..)
    · rw [Char.ofNat, dif_neg hvalid]
      exact Nat.zero_le _
  generalize Char.ofNat v = c at *
  rcases c.utf8Size_eq with hs | hs | hs | hs
  · omega
  · have : 0x7f < c.val.toNat := (Char.utf8Size_eq_two_iff.mp hs).1
    omega
  · have : 0x7ff < c.val.toNat := (Char.utf8Size_eq_three_iff.mp hs).1
    omega
  · have : 0xffff < c.val.toNat := Char.utf8Size_eq_four_iff.mp hs
    omega

/-- The bytes that continue a character give six bits each. -/
theorem value_lt (b : Nat) (bytes : List Nat) :
    value b bytes < 2 ^ (6 - bytes.length) * 64 ^ bytes.length := by
  have hfold : ∀ (v : Nat) (bytes : List Nat),
      bytes.foldl (fun v x => v * 64 + x % 64) v < (v + 1) * 64 ^ bytes.length := by
    intro v bytes
    induction bytes generalizing v with
    | nil => simp
    | cons x bytes ih =>
      refine Nat.lt_of_lt_of_le (ih _) ?_
      rw [List.length_cons, Nat.pow_succ', ← Nat.mul_assoc]
      exact Nat.mul_le_mul_right _ (by dsimp only; omega)
  refine Nat.lt_of_lt_of_le (hfold _ bytes) (Nat.mul_le_mul_right _ ?_)
  exact Nat.mod_lt _ (Nat.two_pow_pos _)

/-- Bytes that are taken for a character are no fewer than it costs, and they are there. -/
theorem step_cost (b : UInt8) (rest : List UInt8) :
    cost (step b rest).1 ≤ 1 + (step b rest).2 ∧ (step b rest).2 ≤ rest.length := by
  have hreplacement : cost replacement = 1 := if_pos rfl
  unfold step
  split
  · next hb =>
    rw [UInt8.lt_iff_toNat_lt] at hb
    exact ⟨Nat.le_trans (cost_le_utf8Size _) (utf8Size_ofNat_le (.inl ⟨hb, rfl⟩)), Nat.zero_le _⟩
  · cases hshape : shape? b.toNat with
    | none => exact ⟨Nat.le_of_eq hreplacement, Nat.zero_le _⟩
    | some s =>
      obtain ⟨n, lo, hi⟩ := s
      refine ⟨?_, (tail_length_le n lo hi rest).2⟩
      dsimp only
      split
      · next hn =>
        have hvalue := value_lt b.toNat (tail n lo hi rest)
        have hshort : n = 1 ∨ n = 2 ∨ n = 3 := by
          unfold shape? at hshape
          split_ifs at hshape
          all_goals
            obtain ⟨rfl, -, -⟩ := hshape
            simp
        refine Nat.le_trans (cost_le_utf8Size _) (utf8Size_ofNat_le ?_)
        rw [hn] at hvalue ⊢
        rcases hshort with rfl | rfl | rfl
        · exact .inr (.inl ⟨hvalue, rfl⟩)
        · exact .inr (.inr (.inl ⟨hvalue, rfl⟩))
        · exact .inr (.inr (.inr rfl))
      · rw [hreplacement]
        exact Nat.le_add_right ..

/-- No text costs more than the bytes it is read from. -/
theorem costs_lossy_le (bytes : List UInt8) : costs (lossy bytes) ≤ bytes.length := by
  have hfrom : ∀ n (bytes : List UInt8), n ≤ bytes.length →
      costs (lossyFrom n bytes) ≤ bytes.length - n := by
    intro n bytes
    fun_induction lossyFrom n bytes with
    | case1 n => exact fun _ => Nat.zero_le _
    | case2 n b rest ih =>
      intro hn
      have := ih (Nat.le_of_succ_le_succ hn)
      rw [List.length_cons]
      omega
    | case3 b rest ih =>
      intro _
      obtain ⟨hcost, hle⟩ := step_cost b rest
      have := ih hle
      rw [costs_cons, List.length_cons]
      omega
  exact hfrom 0 bytes (Nat.zero_le _)

/-- Bytes to have a text read from. -/
def encode (cs : List Char) : List UInt8 :=
  cs.flatMap fun c => if c = replacement then [0xFF] else String.utf8EncodeChar c

theorem length_encode (cs : List Char) : (encode cs).length = costs cs := by
  induction cs with
  | nil => rfl
  | cons c cs ih =>
    rw [encode, List.flatMap_cons, ← encode, List.length_append, ih, costs_cons, cost]
    split
    · rfl
    · rw [String.length_utf8EncodeChar]

theorem lossy_encode (cs : List Char) : lossy (encode cs) = cs := by
  unfold lossy
  induction cs with
  | nil => rfl
  | cons c cs ih =>
    rw [encode, List.flatMap_cons, ← encode]
    split
    · next hc =>
      rw [hc, List.singleton_append, lossyFrom]
      exact congrArg (replacement :: ·) ih
    · rw [lossyFrom_encode, ih]

end Utf8
