import Mathlib.Data.List.Basic
import Mathlib.Data.UInt

/-!
# Readers of bit streams

A reader takes numbers of so many bits off a stream, low bits first. It stops short where the stream
ends, where it refuses what it has read, and by a fault of its own arithmetic; what it leaves is a
rest of what it was given, which is part of what a reader is. Three things are told of readers, each
by the operations they are built with: that one has no fault (`Safe`), that it takes a fixed number
of bits (`Takes`), and what holds of its values (`Yields`). On streams of whole bytes the readers of
whole numbers take bytes (`run_u8_cons`, `run_bytes`).
-/

/-! ## Numbers and bits -/

namespace Bits

/-- The number of some bits, the low one first. -/
def ofBits : List Bool → Nat
  | [] => 0
  | b :: bs => b.toNat + 2 * ofBits bs

/-- So many low bits of a number. -/
def toBits : Nat → Nat → List Bool
  | 0, _ => []
  | width + 1, n => (n % 2 == 1) :: toBits width (n / 2)

@[simp] theorem length_toBits (width n : Nat) : (toBits width n).length = width := by
  induction width generalizing n with
  | zero => rfl
  | succ width ih => rw [toBits, List.length_cons, ih]

theorem ofBits_toBits (width n : Nat) : ofBits (toBits width n) = n % 2 ^ width := by
  induction width generalizing n with
  | zero => rw [toBits, ofBits, Nat.pow_zero, Nat.mod_one]
  | succ width ih =>
    have hbit : (n % 2 == 1).toNat = n % 2 := by
      rcases Nat.mod_two_eq_zero_or_one n with h | h <;> simp [h]
    rw [toBits, ofBits, ih, hbit, Nat.pow_succ', Nat.mod_mul]

theorem toBits_ofBits (bs : List Bool) : toBits bs.length (ofBits bs) = bs := by
  induction bs with
  | nil => rfl
  | cons b bs ih =>
    rw [List.length_cons, toBits, ofBits, Nat.add_mul_div_left _ _ (by decide),
      Nat.div_eq_of_lt b.toNat_lt, Nat.zero_add, ih, Nat.add_mul_mod_self_left]
    cases b <;> rfl

theorem ofBits_lt (bs : List Bool) : ofBits bs < 2 ^ bs.length := by
  induction bs with
  | nil => exact Nat.one_pos
  | cons b bs ih =>
    have hb := b.toNat_lt
    rw [ofBits, List.length_cons, Nat.pow_succ']
    omega

theorem ofBits_append (xs ys : List Bool) :
    ofBits (xs ++ ys) = ofBits xs + 2 ^ xs.length * ofBits ys := by
  induction xs with
  | nil => simp [ofBits]
  | cons x xs ih =>
    rw [List.cons_append, ofBits, ofBits, ih, List.length_cons, Nat.pow_succ', Nat.mul_add,
      ← Nat.mul_assoc, Nat.add_assoc]

/-- The bits of some bytes. -/
def ofBytes (bytes : List UInt8) : List Bool := bytes.flatMap fun b => toBits 8 b.toNat

@[simp] theorem ofBytes_cons (b : UInt8) (bytes : List UInt8) :
    ofBytes (b :: bytes) = toBits 8 b.toNat ++ ofBytes bytes := List.flatMap_cons ..

@[simp] theorem length_ofBytes (bytes : List UInt8) : (ofBytes bytes).length = 8 * bytes.length := by
  induction bytes with
  | nil => rfl
  | cons b bytes ih =>
    rw [ofBytes_cons, List.length_append, length_toBits, ih, List.length_cons]
    omega

theorem drop_ofBytes (n : Nat) (bytes : List UInt8) :
    (ofBytes bytes).drop (8 * n) = ofBytes (bytes.drop n) := by
  induction n generalizing bytes with
  | zero => rfl
  | succ n ih =>
    cases bytes with
    | nil => simp [ofBytes]
    | cons b bytes =>
      rw [ofBytes_cons, Nat.mul_succ, Nat.add_comm, ← List.drop_drop,
        List.drop_left' (length_toBits 8 _), ih, List.drop_succ_cons]

end Bits

/-! ## Readers -/

/-- Why reading stops short: the stream is too short, something read is refused, or the reader's own
arithmetic fails. -/
inductive Stop
  | incomplete
  | refused
  | fault
  deriving DecidableEq, Repr

/-- A reader, which leaves a rest of what it is given. -/
structure Reader (α : Type) where
  run : List Bool → Except Stop (α × List Bool)
  suffix : ∀ {s a s'}, run s = .ok (a, s') → s' <:+ s

namespace Reader

variable {α β : Type}

/-- What comes of reading one thing and then another. -/
def andThen (r : Except Stop (α × List Bool)) (f : α → List Bool → Except Stop (β × List Bool)) :
    Except Stop (β × List Bool) :=
  match r with
  | .error e => .error e
  | .ok (a, s) => f a s

theorem andThen_eq_ok {r : Except Stop (α × List Bool)}
    {f : α → List Bool → Except Stop (β × List Bool)} {b : β} {s : List Bool} :
    andThen r f = .ok (b, s) ↔ ∃ a s', r = .ok (a, s') ∧ f a s' = .ok (b, s) := by
  constructor
  · intro h
    cases r with
    | error e => cases h
    | ok as => exact ⟨as.1, as.2, rfl, h⟩
  · rintro ⟨a, s', rfl, h⟩
    exact h

instance : Monad Reader where
  pure a := ⟨fun s => .ok (a, s), fun h => by cases h; exact List.suffix_rfl⟩
  bind p f := ⟨fun s => andThen (p.run s) fun a => (f a).run, fun h => by
    obtain ⟨a, s', hp, hf⟩ := andThen_eq_ok.1 h
    exact ((f a).suffix hf).trans (p.suffix hp)⟩

theorem run_pure (a : α) (s : List Bool) : (pure a : Reader α).run s = .ok (a, s) := rfl

theorem run_bind (p : Reader α) (f : α → Reader β) (s : List Bool) :
    (p >>= f).run s = andThen (p.run s) fun a => (f a).run := rfl

theorem run_map (f : α → β) (p : Reader α) (s : List Bool) :
    (f <$> p).run s = andThen (p.run s) fun a s' => .ok (f a, s') := rfl

theorem run_seq (p : Reader (α → β)) (q : Reader α) (s : List Bool) :
    (p <*> q).run s = andThen (p.run s) fun f => (f <$> q).run := rfl

/-- Stopping short. -/
def stop (e : Stop) : Reader α := ⟨fun _ => .error e, nofun⟩

/-- The number of the next bits. -/
def bits (width : Nat) : Reader Nat where
  run s := if width ≤ s.length then .ok (Bits.ofBits (s.take width), s.drop width)
    else .error .incomplete
  suffix h := by
    split at h
    · cases h
      exact List.drop_suffix ..
    · cases h

/-- Bits that are passed over. -/
def pad (width : Nat) : Reader Unit := (fun _ => ()) <$> bits width

/-- Something with bits after it that are passed over. -/
def padAfter (p : Reader α) (width : Nat) : Reader α := do
  let a ← p
  pad width
  return a

/-- Something with bits before it that are passed over. -/
def padBefore (width : Nat) (p : Reader α) : Reader α := do
  pad width
  p

/-- A condition on what has been read. -/
def check (c : Prop) [Decidable c] : Reader Unit := if c then pure () else stop .refused

/-- A difference of two numbers, which is a fault where it is negative. -/
def sub (a b : Nat) : Reader Nat := if b ≤ a then pure (a - b) else stop .fault

/-- So many things of a kind. -/
def count (p : Reader α) : Nat → Reader (List α)
  | 0 => pure []
  | n + 1 => (· :: ·) <$> p <*> count p n

/-- A byte. -/
def u8 : Reader UInt8 := UInt8.ofNat <$> bits 8

/-- A number of two bytes, the low one first. -/
def u16 : Reader UInt16 := UInt16.ofNat <$> bits 16

/-- A number of four bytes. -/
def u32 : Reader UInt32 := UInt32.ofNat <$> bits 32

/-- A number of eight bytes. -/
def u64 : Reader UInt64 := UInt64.ofNat <$> bits 64

/-- A number of four bytes, the high one first. -/
def u32be : Reader UInt32 :=
  (fun bytes => bytes.foldl (fun n b => n * 256 + b.toUInt32) 0) <$> count u8 4

/-- A number of some bits, taken as one of two's complement. -/
def signed (width : Nat) : Reader Int :=
  (fun n => if n < 2 ^ (width - 1) then (n : Int) else n - 2 ^ width) <$> bits width

/-- So many bytes. -/
def bytes (n : Nat) : Reader (List UInt8) := count u8 n

/-- Something that ends in bytes, which are counted right before them. -/
def counted {κ : Type} (p : Reader (κ → List UInt8 → α)) (len : Reader κ) (size : κ → Nat) :
    Reader α := do
  let f ← p
  let n ← len
  f n <$> bytes (size n)

/-! ## Readers without a fault -/

/-- A reader that has no fault. -/
class Safe (p : Reader α) : Prop where
  ne_fault : ∀ s, p.run s ≠ .error .fault

instance (a : α) : Safe (pure a : Reader α) := ⟨nofun⟩

instance safe_bind (p : Reader α) (f : α → Reader β) [hp : Safe p] [hf : ∀ a, Safe (f a)] :
    Safe (p >>= f) where
  ne_fault s h := by
    rw [run_bind] at h
    cases hrun : p.run s with
    | error e =>
      rw [hrun] at h
      cases h
      exact hp.ne_fault s hrun
    | ok as =>
      rw [hrun] at h
      exact (hf as.1).ne_fault as.2 h

instance safe_map (f : α → β) (p : Reader α) [Safe p] : Safe (f <$> p) :=
  inferInstanceAs (Safe (p >>= fun a => pure (f a)))

instance safe_seq (p : Reader (α → β)) (q : Reader α) [Safe p] [Safe q] : Safe (p <*> q) :=
  inferInstanceAs (Safe (p >>= fun f => f <$> q))

instance safe_ite (c : Prop) [Decidable c] (p q : Reader α) [Safe p] [Safe q] :
    Safe (if c then p else q) := by
  split <;> infer_instance

instance safe_bits (width : Nat) : Safe (bits width) where
  ne_fault s h := by
    simp only [bits] at h
    split at h <;> cases h

instance safe_refused : Safe (stop .refused : Reader α) := ⟨nofun⟩

instance safe_pad (width : Nat) : Safe (pad width) := safe_map ..

instance safe_padAfter (p : Reader α) (width : Nat) [Safe p] : Safe (padAfter p width) :=
  safe_bind ..

instance safe_padBefore (p : Reader α) (width : Nat) [Safe p] : Safe (padBefore width p) :=
  safe_bind ..

instance safe_check (c : Prop) [Decidable c] : Safe (check c) := safe_ite ..

instance safe_count (p : Reader α) [Safe p] (n : Nat) : Safe (count p n) := by
  induction n with
  | zero => exact inferInstanceAs (Safe (pure []))
  | succ n ih => exact inferInstanceAs (Safe ((· :: ·) <$> p <*> count p n))

instance : Safe u8 := safe_map ..

instance : Safe u16 := safe_map ..

instance : Safe u32 := safe_map ..

instance : Safe u64 := safe_map ..

instance : Safe u32be := safe_map ..

instance (width : Nat) : Safe (signed width) := safe_map ..

instance (n : Nat) : Safe (bytes n) := safe_count ..

instance safe_counted {κ : Type} (p : Reader (κ → List UInt8 → α)) (len : Reader κ) (size : κ → Nat)
    [Safe p] [Safe len] : Safe (counted p len size) := safe_bind ..

theorem andThen_eq_error {r : Except Stop (α × List Bool)}
    {f : α → List Bool → Except Stop (β × List Bool)} {e : Stop} :
    andThen r f = .error e ↔ r = .error e ∨ ∃ a s', r = .ok (a, s') ∧ f a s' = .error e := by
  constructor
  · intro h
    cases r with
    | error e' => exact .inl (congrArg Except.error (Except.error.inj h))
    | ok as => exact .inr ⟨as.1, as.2, rfl, h⟩
  · rintro (rfl | ⟨a, s', rfl, h⟩)
    · rfl
    · exact h

/-- After a reader without a fault, the fault is in what follows. -/
theorem run_bind_eq_fault {p : Reader α} [hp : Safe p] {f : α → Reader β} {s : List Bool} :
    (p >>= f).run s = .error .fault ↔
      ∃ a s', p.run s = .ok (a, s') ∧ (f a).run s' = .error .fault :=
  andThen_eq_error.trans (or_iff_right (hp.ne_fault s))

theorem run_map_eq_fault {p : Reader α} {f : α → β} {s : List Bool} :
    (f <$> p).run s = .error .fault ↔ p.run s = .error .fault := by
  rw [run_map, andThen_eq_error]
  exact or_iff_left fun ⟨_, _, _, h⟩ => nomatch h

theorem run_check_eq_ok {c : Prop} [Decidable c] {s s' : List Bool} {a : Unit} :
    (check c).run s = .ok (a, s') ↔ c ∧ s' = s := by
  unfold check
  split
  · next h =>
    constructor
    · intro hrun
      cases hrun
      exact ⟨h, rfl⟩
    · rintro ⟨-, rfl⟩
      rfl
  · next h => exact iff_of_false nofun fun hc => h hc.1

/-- A list of things has a fault in the first of them or in the rest. -/
theorem run_count_succ_eq_fault {p : Reader α} {n : Nat} {s : List Bool} :
    (count p (n + 1)).run s = .error .fault ↔
      p.run s = .error .fault ∨ ∃ a s', p.run s = .ok (a, s') ∧
        (count p n).run s' = .error .fault := by
  show ((p >>= fun a => pure (a :: ·)) >>= fun f => f <$> count p n).run s = _ ↔ _
  rw [run_bind, run_bind, andThen_eq_error, andThen_eq_error]
  constructor
  · rintro ((h | ⟨_, _, _, h⟩) | ⟨f, s', hf, h⟩)
    · exact .inl h
    · cases h
    · obtain ⟨a, s₁, hp, heq⟩ := andThen_eq_ok.1 hf
      cases heq
      exact .inr ⟨a, s', hp, run_map_eq_fault.1 h⟩
  · rintro (h | ⟨a, s', hp, h⟩)
    · exact .inl (.inl h)
    · exact .inr ⟨_, s', andThen_eq_ok.2 ⟨a, s', hp, rfl⟩, run_map_eq_fault.2 h⟩

/-! ## Readers of a fixed length -/

/-- A reader that takes a fixed number of bits, where there are so many. -/
class Takes (p : Reader α) (width : outParam Nat) : Prop where
  run_eq_ok : ∀ s, width ≤ s.length → ∃ a, p.run s = .ok (a, s.drop width)
  run_eq_incomplete : ∀ s, s.length < width → p.run s = .error .incomplete

instance takes_pure (a : α) : Takes (pure a) 0 where
  run_eq_ok _ _ := ⟨a, rfl⟩
  run_eq_incomplete _ h := absurd h (Nat.not_lt_zero _)

instance takes_bits (width : Nat) : Takes (bits width) width where
  run_eq_ok s h := ⟨_, if_pos h⟩
  run_eq_incomplete s h := if_neg (by omega)

instance takes_map (f : α → β) (p : Reader α) (width : Nat) [hp : Takes p width] :
    Takes (f <$> p) width where
  run_eq_ok s h := by
    obtain ⟨a, ha⟩ := hp.run_eq_ok s h
    exact ⟨f a, by rw [run_map, ha]; rfl⟩
  run_eq_incomplete s h := by
    rw [run_map, hp.run_eq_incomplete s h]
    rfl

instance takes_seq (p : Reader (α → β)) (q : Reader α) (m n : Nat) [hp : Takes p m] [hq : Takes q n] :
    Takes (p <*> q) (m + n) where
  run_eq_ok s h := by
    obtain ⟨f, hf⟩ := hp.run_eq_ok s (by omega)
    obtain ⟨a, ha⟩ := hq.run_eq_ok (s.drop m) (by rw [List.length_drop]; omega)
    refine ⟨f a, ?_⟩
    rw [run_seq, hf, ← List.drop_drop]
    show (f <$> q).run _ = _
    rw [run_map, ha]
    rfl
  run_eq_incomplete s h := by
    rw [run_seq]
    rcases Nat.lt_or_ge s.length m with hlt | hge
    · rw [hp.run_eq_incomplete s hlt]
      rfl
    · obtain ⟨f, hf⟩ := hp.run_eq_ok s hge
      rw [hf]
      show (f <$> q).run _ = _
      rw [run_map, hq.run_eq_incomplete _ (by rw [List.length_drop]; omega)]
      rfl

instance takes_pad (width : Nat) : Takes (pad width) width := takes_map ..

instance : Takes u8 8 := takes_map ..

instance : Takes u16 16 := takes_map ..

instance : Takes u32 32 := takes_map ..

/-- Things of a fixed length have one together. -/
instance takes_count (p : Reader α) (width n : Nat) [Takes p width] :
    Takes (count p n) (n * width) := by
  induction n with
  | zero =>
    rw [Nat.zero_mul]
    exact takes_pure []
  | succ n ih =>
    rw [Nat.succ_mul, Nat.add_comm (n * width)]
    exact takes_seq ((· :: ·) <$> p) (count p n) width (n * width)

instance : Takes u64 64 := takes_map ..

instance : Takes u32be 32 := takes_map _ (count u8 4) (4 * 8)

instance (n : Nat) : Takes (bytes n) (n * 8) := takes_count ..

instance takes_ite (c : Prop) [Decidable c] (p q : Reader α) (width : Nat) [hp : Takes p width]
    [hq : Takes q width] : Takes (if c then p else q) width := by
  split
  · exact hp
  · exact hq

/-- On whole bytes, such a reader takes whole bytes. -/
theorem run_of_takes {p : Reader α} {n : Nat} (hp : Takes p (8 * n)) {data : List UInt8}
    (h : n ≤ data.length) :
    ∃ a, p.run (Bits.ofBytes data) = .ok (a, Bits.ofBytes (data.drop n)) := by
  rw [← Bits.drop_ofBytes]
  exact hp.run_eq_ok _ (by rw [Bits.length_ofBytes]; omega)

theorem run_of_takes_short {p : Reader α} {n : Nat} (hp : Takes p (8 * n)) {data : List UInt8}
    (h : data.length < n) : p.run (Bits.ofBytes data) = .error .incomplete :=
  hp.run_eq_incomplete _ (by rw [Bits.length_ofBytes]; omega)

/-! ## Numbers of whole bytes -/

theorem run_bits_append {xs ys : List Bool} {width : Nat} (h : xs.length = width) :
    (bits width).run (xs ++ ys) = .ok (Bits.ofBits xs, ys) := by
  have hle : width ≤ (xs ++ ys).length := by
    rw [List.length_append]
    omega
  rw [bits]
  simp only
  rw [if_pos hle, List.take_left' h, List.drop_left' h]

theorem run_u8_cons (b : UInt8) (data : List UInt8) :
    u8.run (Bits.ofBytes (b :: data)) = .ok (b, Bits.ofBytes data) := by
  rw [u8, run_map, Bits.ofBytes_cons, run_bits_append (Bits.length_toBits 8 _),
    Bits.ofBits_toBits, andThen, Nat.mod_eq_of_lt b.toNat_lt, UInt8.ofNat_toNat]

theorem run_u8_nil : u8.run (Bits.ofBytes []) = .error .incomplete := rfl

theorem run_u16_cons (b₀ b₁ : UInt8) (data : List UInt8) :
    u16.run (Bits.ofBytes (b₀ :: b₁ :: data)) =
      .ok (UInt16.ofNat (b₀.toNat + 256 * b₁.toNat), Bits.ofBytes data) := by
  have hlength : (Bits.toBits 8 b₀.toNat ++ Bits.toBits 8 b₁.toNat).length = 16 := by simp
  rw [u16, run_map, Bits.ofBytes_cons, Bits.ofBytes_cons, ← List.append_assoc,
    run_bits_append hlength, Bits.ofBits_append, Bits.ofBits_toBits, Bits.ofBits_toBits,
    Bits.length_toBits, andThen, Nat.mod_eq_of_lt b₀.toNat_lt, Nat.mod_eq_of_lt b₁.toNat_lt]
  rfl

/-- The bytes that a byte is read off. -/
theorem run_u8_eq_ok {data : List UInt8} {b : UInt8} {s : List Bool} :
    u8.run (Bits.ofBytes data) = .ok (b, s) ↔ ∃ rest, data = b :: rest ∧ s = Bits.ofBytes rest := by
  constructor
  · intro h
    cases data with
    | nil => cases h
    | cons b' rest =>
      cases (run_u8_cons b' rest).symm.trans h
      exact ⟨rest, rfl, rfl⟩
  · rintro ⟨rest, rfl, rfl⟩
    exact run_u8_cons b rest

theorem run_u16_eq_ok {data : List UInt8} {w : UInt16} {s : List Bool} :
    u16.run (Bits.ofBytes data) = .ok (w, s) ↔
      ∃ b₀ b₁ rest, data = b₀ :: b₁ :: rest ∧ w = UInt16.ofNat (b₀.toNat + 256 * b₁.toNat) ∧
        s = Bits.ofBytes rest := by
  constructor
  · intro h
    match data with
    | b₀ :: b₁ :: rest =>
      cases (run_u16_cons b₀ b₁ rest).symm.trans h
      exact ⟨b₀, b₁, rest, rfl, rfl, rfl⟩
    | [_] | [] => cases h
  · rintro ⟨b₀, b₁, rest, rfl, rfl, rfl⟩
    exact run_u16_cons b₀ b₁ rest

theorem run_bytes {n : Nat} {data : List UInt8} (h : n ≤ data.length) :
    (bytes n).run (Bits.ofBytes data) = .ok (data.take n, Bits.ofBytes (data.drop n)) := by
  induction n generalizing data with
  | zero => rfl
  | succ n ih =>
    cases data with
    | nil => cases h
    | cons b data =>
      rw [bytes, count, run_seq, run_map, run_u8_cons]
      show (_ <$> bytes n).run _ = _
      rw [run_map, ih (Nat.le_of_succ_le_succ h)]
      rfl

/-! ## Readers of whole bytes -/

/-- Bytes after so many, where there are so many. -/
def dropBytes (n : Nat) (data : List UInt8) : Option (List UInt8) :=
  if n ≤ data.length then some (data.drop n) else none

/-- Bytes after a byte and what it says. -/
def dropAfter (skip : UInt8 → List UInt8 → Option (List UInt8)) : List UInt8 → Option (List UInt8)
  | [] => none
  | b :: data => skip b data

/-- Bytes after so many, after a byte, and after as many more as it counts. -/
def dropCounted (ahead : Nat) (data : List UInt8) : Option (List UInt8) :=
  (dropBytes ahead data).bind (dropAfter fun n => dropBytes n.toNat)

/-- Bytes after so many things of a kind. -/
def dropTimes (skip : List UInt8 → Option (List UInt8)) : Nat → List UInt8 → Option (List UInt8)
  | 0, data => some data
  | n + 1, data => (skip data).bind (dropTimes skip n)

/-- A reader of whole bytes, which leaves the bytes of a function. -/
def Skips (p : Reader α) (skip : List UInt8 → Option (List UInt8)) : Prop :=
  ∀ data s, (∃ a, p.run (Bits.ofBytes data) = .ok (a, s)) ↔
    ∃ rest, skip data = some rest ∧ s = Bits.ofBytes rest

theorem Skips.pure (a : α) : Skips (pure a) some := by
  intro data s
  constructor
  · rintro ⟨_, h⟩
    cases h
    exact ⟨data, rfl, rfl⟩
  · rintro ⟨_, h, rfl⟩
    cases h
    exact ⟨a, rfl⟩

/-- A reader that always stops short skips nothing. -/
theorem Skips.of_error {p : Reader α} (h : ∀ s, ∃ e, p.run s = .error e) :
    Skips p fun _ => none := by
  intro data s
  obtain ⟨e, he⟩ := h (Bits.ofBytes data)
  rw [he]
  constructor
  · rintro ⟨_, h⟩
    cases h
  · rintro ⟨_, h, -⟩
    cases h

theorem Skips.bind {p : Reader α} {f : α → Reader β}
    {skip skip' : List UInt8 → Option (List UInt8)} (hp : Skips p skip)
    (hf : ∀ a, Skips (f a) skip') : Skips (p >>= f) fun data => (skip data).bind skip' := by
  intro data s
  constructor
  · rintro ⟨b, h⟩
    obtain ⟨a, s', ha, hb⟩ := andThen_eq_ok.1 h
    obtain ⟨mid, hmid, rfl⟩ := (hp data s').1 ⟨a, ha⟩
    obtain ⟨rest, hrest, rfl⟩ := (hf a mid s).1 ⟨b, hb⟩
    exact ⟨rest, Option.bind_eq_some_iff.2 ⟨mid, hmid, hrest⟩, rfl⟩
  · rintro ⟨rest, h, rfl⟩
    obtain ⟨mid, hmid, hrest⟩ := Option.bind_eq_some_iff.1 h
    obtain ⟨a, ha⟩ := (hp data _).2 ⟨mid, hmid, rfl⟩
    obtain ⟨b, hb⟩ := (hf a mid _).2 ⟨rest, hrest, rfl⟩
    exact ⟨b, andThen_eq_ok.2 ⟨a, _, ha, hb⟩⟩

theorem Skips.map {p : Reader α} {f : α → β} {skip : List UInt8 → Option (List UInt8)}
    (hp : Skips p skip) : Skips (f <$> p) skip := by
  intro data s
  rw [← Option.bind_fun_some (skip data)]
  exact hp.bind (fun a => .pure (f a)) data s

/-- What follows a byte may go by it. -/
theorem Skips.after_u8 {f : UInt8 → Reader β} {skip : UInt8 → List UInt8 → Option (List UInt8)}
    (hf : ∀ b, Skips (f b) (skip b)) : Skips (u8 >>= f) (dropAfter skip) := by
  intro data s
  constructor
  · rintro ⟨a, h⟩
    obtain ⟨b, s', hb, ha⟩ := andThen_eq_ok.1 h
    obtain ⟨rest, rfl, rfl⟩ := run_u8_eq_ok.1 hb
    exact (hf b rest s).1 ⟨a, ha⟩
  · rintro ⟨rest, h, rfl⟩
    cases data with
    | nil => cases h
    | cons b data =>
      obtain ⟨a, ha⟩ := (hf b data _).2 ⟨rest, h, rfl⟩
      refine ⟨a, ?_⟩
      rw [run_bind, run_u8_cons]
      exact ha

/-- A reader of a fixed length skips as many bytes. -/
theorem skips_of_takes {p : Reader α} {width n : Nat} [hp : Takes p width] (h : width = 8 * n) :
    Skips p (dropBytes n) := by
  subst h
  intro data s
  rcases Nat.lt_or_ge data.length n with hlt | hge
  · rw [dropBytes, if_neg (by omega), run_of_takes_short hp hlt]
    constructor
    · rintro ⟨_, h⟩
      cases h
    · rintro ⟨_, h, -⟩
      cases h
  · obtain ⟨a, ha⟩ := run_of_takes hp hge
    rw [dropBytes, if_pos hge, ha]
    constructor
    · rintro ⟨_, h⟩
      cases h
      exact ⟨_, rfl, rfl⟩
    · rintro ⟨_, h, rfl⟩
      cases h
      exact ⟨a, rfl⟩

theorem skips_bytes (n : Nat) : Skips (bytes n) (dropBytes n) :=
  skips_of_takes (Nat.mul_comm n 8)

/-- Something of a fixed length that ends in bytes counted by one byte. -/
theorem skips_counted {p : Reader (UInt8 → List UInt8 → α)} {width ahead : Nat} [Takes p width]
    (h : width = 8 * ahead) : Skips (counted p u8 UInt8.toNat) (dropCounted ahead) :=
  (skips_of_takes h).bind fun _ => .after_u8 fun n => (skips_bytes n.toNat).map

/-- Things that skip bytes do so one after the other. -/
theorem Skips.count {p : Reader α} {skip : List UInt8 → Option (List UInt8)} (hp : Skips p skip)
    (n : Nat) : Skips (count p n) (dropTimes skip n) := by
  induction n with
  | zero => exact .pure []
  | succ n ih => exact (hp.map (f := fun a => (a :: ·))).bind fun _ => ih.map

/-! ## What is read -/

/-- Something that holds of whatever is read. -/
def Yields (p : Reader α) (Q : α → Prop) : Prop := ∀ s a s', p.run s = .ok (a, s') → Q a

theorem Yields.pure {a : α} {Q : α → Prop} (h : Q a) : Yields (pure a) Q := by
  intro s a' s' hrun
  cases hrun
  exact h

theorem Yields.bind {p : Reader α} {f : α → Reader β} {P : α → Prop} {Q : β → Prop}
    (hp : Yields p P) (hf : ∀ a, P a → Yields (f a) Q) : Yields (p >>= f) Q := by
  intro s b s' hrun
  obtain ⟨a, s₁, hrunp, hrunf⟩ := andThen_eq_ok.1 hrun
  exact hf a (hp s a s₁ hrunp) s₁ b s' hrunf

/-- What is read before does not matter. -/
theorem Yields.after {p : Reader α} {f : α → Reader β} {Q : β → Prop} (hf : ∀ a, Yields (f a) Q) :
    Yields (p >>= f) Q :=
  bind (P := fun _ => True) (fun _ _ _ _ => trivial) fun a _ => hf a

theorem Yields.map {p : Reader α} {f : α → β} {P : α → Prop} {Q : β → Prop} (hp : Yields p P)
    (h : ∀ a, P a → Q (f a)) : Yields (f <$> p) Q :=
  bind hp fun a ha => pure (h a ha)

theorem Yields.stop {e : Stop} {Q : α → Prop} : Yields (stop e) Q := nofun

theorem Yields.of_forall {p : Reader α} {Q : α → Prop} (h : ∀ a, Q a) : Yields p Q :=
  fun _ a _ _ => h a

theorem Yields.seq {p : Reader (α → β)} {q : Reader α} {P : α → Prop} {Q : β → Prop}
    (hp : Yields p fun f => ∀ a, P a → Q (f a)) (hq : Yields q P) : Yields (p <*> q) Q :=
  hp.bind fun _ hf => hq.map hf

/-- What holds whatever is read last. -/
theorem Yields.seq_of_forall {p : Reader (α → β)} {q : Reader α} {Q : β → Prop}
    (hp : Yields p fun f => ∀ a, Q (f a)) : Yields (p <*> q) Q :=
  hp.bind fun _ hf => (of_forall fun _ => trivial).map fun a _ => hf a

theorem Yields.map_of_forall {p : Reader α} {f : α → β} {Q : β → Prop} (h : ∀ a, Q (f a)) :
    Yields (f <$> p) Q :=
  (of_forall fun _ => trivial).map fun a _ => h a

theorem Yields.ite {c : Prop} [Decidable c] {p q : Reader α} {Q : α → Prop} (hp : Yields p Q)
    (hq : Yields q Q) : Yields (if c then p else q) Q := by
  split
  · exact hp
  · exact hq

/-- As many things are read as are counted, each as they are read one by one. -/
theorem yields_count {p : Reader α} {Q : α → Prop} (hp : Yields p Q) (n : Nat) :
    Yields (count p n) fun as => as.length = n ∧ ∀ a ∈ as, Q a := by
  induction n with
  | zero => exact .pure ⟨rfl, List.forall_mem_nil _⟩
  | succ n ih =>
    show Yields ((p >>= fun a => pure (a :: ·)) >>= fun f => f <$> count p n) _
    intro s as s' hrun
    obtain ⟨f, s₁, hrunf, hruns⟩ := andThen_eq_ok.1 hrun
    obtain ⟨a, s₂, hruna, heq⟩ := andThen_eq_ok.1 hrunf
    cases heq
    obtain ⟨rest, s₃, hrunr, heq⟩ := andThen_eq_ok.1 hruns
    cases heq
    obtain ⟨hlength, hrest⟩ := ih _ _ _ hrunr
    exact ⟨congrArg (· + 1) hlength, List.forall_mem_cons.2 ⟨hp _ _ _ hruna, hrest⟩⟩

theorem yields_bytes (n : Nat) : Yields (bytes n) (·.length = n) := fun s a s' hrun =>
  (yields_count (.of_forall fun _ => trivial) n s a s' hrun).1

/-- What is counted is as long as it is said to be. -/
theorem yields_counted {κ : Type} {p : Reader (κ → List UInt8 → α)} {len : Reader κ} {size : κ → Nat}
    {Q : α → Prop} (hp : Yields p fun f => ∀ n data, data.length = size n → Q (f n data)) :
    Yields (counted p len size) Q :=
  hp.bind fun _ hf => .after fun n => (yields_bytes (size n)).map (hf n)

end Reader
