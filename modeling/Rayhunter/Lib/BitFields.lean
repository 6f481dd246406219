import Mathlib.Algebra.BigOperators.Group.List.Basic
import Mathlib.Tactic.Ring

/-!
# Records of bit fields

A record is a list of fields, each a value in so many bits, written one after the other with the
high bits first. `BitFields.write` refuses a value that does not fit; what it writes is taken apart
where a stretch of fields fills whole bytes (`toBytes_append`), a byte at a time where a field is a
byte (`toBytes_byte`).
-/

namespace BitFields

/-- A value in so many bits. -/
structure Field where
  width : Nat
  value : Nat

/-- A value that its bits can hold. -/
def Field.Fits (f : Field) : Prop := f.value < 2 ^ f.width

instance (f : Field) : Decidable f.Fits := inferInstanceAs (Decidable (f.value < 2 ^ f.width))

/-- A truth value in one bit. -/
def bit (b : Bool) : Field := ⟨1, b.toNat⟩

/-- A field that is a byte. -/
def byte (b : UInt8) : Field := ⟨8, b.toNat⟩

/-- A field of sixteen bits. -/
def word (w : UInt16) : Field := ⟨16, w.toNat⟩

/-- A field of thirty-two bits. -/
def doubleWord (w : UInt32) : Field := ⟨32, w.toNat⟩

@[simp] theorem bit_fits (b : Bool) : (bit b).Fits := by cases b <;> decide

@[simp] theorem byte_fits (b : UInt8) : (byte b).Fits := b.toNat_lt

@[simp] theorem word_fits (w : UInt16) : (word w).Fits := w.toNat_lt

@[simp] theorem doubleWord_fits (w : UInt32) : (doubleWord w).Fits := w.toNat_lt

/-- The bits of a record. -/
def width (fields : List Field) : Nat := (fields.map Field.width).sum

@[simp] theorem width_nil : width [] = 0 := rfl

@[simp] theorem width_cons (f : Field) (fields : List Field) :
    width (f :: fields) = f.width + width fields := by simp [width]

@[simp] theorem width_append (xs ys : List Field) : width (xs ++ ys) = width xs + width ys := by
  simp [width]

/-! ## As one number -/

/-- A record as one number. -/
def pack : List Field → Nat
  | [] => 0
  | f :: fields => f.value * 2 ^ width fields + pack fields

theorem pack_append (xs ys : List Field) : pack (xs ++ ys) = pack xs * 2 ^ width ys + pack ys := by
  induction xs with
  | nil => simp [pack]
  | cons x xs ih =>
    rw [List.cons_append, pack, pack, ih, width_append, pow_add]
    ring

theorem pack_lt {fields : List Field} (h : ∀ f ∈ fields, f.Fits) :
    pack fields < 2 ^ width fields := by
  induction fields with
  | nil => exact Nat.one_pos
  | cons f fields ih =>
    obtain ⟨hf, hrest⟩ := List.forall_mem_cons.1 h
    have hlt := ih hrest
    rw [pack, width_cons, pow_add]
    calc f.value * 2 ^ width fields + pack fields
        < f.value * 2 ^ width fields + 2 ^ width fields := Nat.add_lt_add_left hlt _
      _ = (f.value + 1) * 2 ^ width fields := by ring
      _ ≤ 2 ^ f.width * 2 ^ width fields := Nat.mul_le_mul_right _ hf

/-! ## As bytes -/

/-- The last so many bytes of a number, the high byte first. -/
def bytesBe : Nat → Nat → List UInt8
  | 0, _ => []
  | n + 1, v => UInt8.ofNat (v / 256 ^ n) :: bytesBe n v

@[simp] theorem length_bytesBe (n v : Nat) : (bytesBe n v).length = n := by
  induction n with
  | zero => rfl
  | succ n ih => rw [bytesBe, List.length_cons, ih]

/-- The last bytes of a number do not depend on what is before them. -/
theorem bytesBe_mod (n v : Nat) : bytesBe n (v % 256 ^ n) = bytesBe n v := by
  induction n generalizing v with
  | zero => rfl
  | succ n ih =>
    have hhead : v % 256 ^ (n + 1) / 256 ^ n = v / 256 ^ n % 256 := by
      rw [pow_succ, Nat.mod_mul_right_div_self]
    have htail : v % 256 ^ (n + 1) % 256 ^ n = v % 256 ^ n :=
      Nat.mod_mod_of_dvd _ (pow_dvd_pow 256 n.le_succ)
    rw [bytesBe, bytesBe, hhead, ← ih (v % 256 ^ (n + 1)), htail, ih]
    congr 1
    exact UInt8.ofNat_mod_size

theorem bytesBe_append (m n a : Nat) {b : Nat} (hb : b < 256 ^ n) :
    bytesBe (m + n) (a * 256 ^ n + b) = bytesBe m a ++ bytesBe n b := by
  induction m with
  | zero =>
    rw [Nat.zero_add, ← bytesBe_mod, Nat.mul_add_mod_self_right, bytesBe_mod]
    rfl
  | succ m ih =>
    have hhead : (a * 256 ^ n + b) / 256 ^ (m + n) = a / 256 ^ m := by
      rw [Nat.add_comm m n, pow_add, ← Nat.div_div_eq_div_mul, Nat.mul_comm a,
        Nat.mul_add_div (pow_pos (by norm_num) n), Nat.div_eq_of_lt hb, Nat.add_zero]
    rw [Nat.add_right_comm, bytesBe, ih, hhead, bytesBe, List.cons_append]

/-- A record as bytes. -/
def toBytes (fields : List Field) : List UInt8 := bytesBe (width fields / 8) (pack fields)

@[simp] theorem length_toBytes (fields : List Field) : (toBytes fields).length = width fields / 8 :=
  length_bytesBe _ _

/-- Stretches of fields that fill whole bytes are written one after the other. -/
theorem toBytes_append {xs ys : List Field} (hx : 8 ∣ width xs) (hy : 8 ∣ width ys)
    (h : ∀ f ∈ ys, f.Fits) : toBytes (xs ++ ys) = toBytes xs ++ toBytes ys := by
  obtain ⟨m, hm⟩ := hx
  obtain ⟨n, hn⟩ := hy
  have hpow : 2 ^ width ys = 256 ^ n := by rw [hn, pow_mul]; norm_num
  have hlt : pack ys < 256 ^ n := hpow ▸ pack_lt h
  have hwidth : width (xs ++ ys) / 8 = m + n := by rw [width_append, hm, hn]; omega
  rw [toBytes, hwidth, pack_append, hpow, bytesBe_append m n _ hlt, toBytes, toBytes, hm, hn,
    Nat.mul_div_cancel_left _ (by norm_num), Nat.mul_div_cancel_left _ (by norm_num)]

/-- A field that is a byte is written as it is. -/
theorem toBytes_byte (b : UInt8) {fields : List Field} (hw : 8 ∣ width fields)
    (h : ∀ f ∈ fields, f.Fits) : toBytes (byte b :: fields) = b :: toBytes fields := by
  have hone : toBytes [byte b] = [b] := by
    simp [toBytes, pack, byte, bytesBe]
  rw [← List.singleton_append, toBytes_append (by simp [byte]) hw h, hone, List.singleton_append]

@[simp] theorem width_bytes (bytes : List UInt8) : width (bytes.map byte) = 8 * bytes.length := by
  induction bytes with
  | nil => rfl
  | cons b bytes ih =>
    rw [List.map_cons, width_cons, ih, List.length_cons]
    show 8 + _ = _
    omega

/-- So is a stretch of them. -/
theorem toBytes_bytes (bytes : List UInt8) {fields : List Field} (hw : 8 ∣ width fields)
    (h : ∀ f ∈ fields, f.Fits) : toBytes (bytes.map byte ++ fields) = bytes ++ toBytes fields := by
  induction bytes with
  | nil => rfl
  | cons b bytes ih =>
    have hwidth : 8 ∣ width (bytes.map byte ++ fields) := by
      rw [width_append, width_bytes]
      exact Nat.dvd_add (Nat.dvd_mul_right 8 _) hw
    rw [List.map_cons, List.cons_append, toBytes_byte b hwidth ?_, ih, List.cons_append]
    intro f hf
    rcases List.mem_append.1 hf with hf | hf
    · obtain ⟨b, -, rfl⟩ := List.mem_map.1 hf
      exact byte_fits b
    · exact h f hf

/-! ## Writing -/

/-- The bytes of a record, or the first field whose value does not fit. -/
def write (fields : List Field) : Except Field (List UInt8) :=
  match fields.find? fun f => ¬ f.Fits with
  | some f => .error f
  | none => .ok (toBytes fields)

theorem write_of_fits {fields : List Field} (h : ∀ f ∈ fields, f.Fits) :
    write fields = .ok (toBytes fields) := by
  have hnone : (fields.find? fun f => ¬ f.Fits) = none := by
    simpa using h
  rw [write, hnone]

end BitFields
