import Rayhunter.Lib.Base64
import Rayhunter.Lib.Fields
import Rayhunter.Lib.KeyDerivation
import Rayhunter.Lib.Sha256
import Rayhunter.Store.Disk

/-!
# Passwords

`pbkdf2`, `hash_password` and `verify_password` of `daemon/src/web_auth.rs`. The loop writes the
output a block at a time, and what it has written is the beginning of the blocks of RFC 8018
(`go_eq`). A stored hash is four texts with a dollar sign between them, and a password is accepted
at it where the digest it ends with is the key of that password (`verifyPassword_iff`).
-/

namespace Rayhunter.Auth

/-- `HmacSha256`, at a key and a message. -/
class HmacSha256 where
  mac : List UInt8 → List UInt8 → Vector UInt8 32

/-- `base64::engine::general_purpose::STANDARD`. -/
class B64 where
  encode : List UInt8 → List Char
  decode : List Char → Option (List UInt8)

/-- What is encoded is decoded again, and a dollar sign is not of the alphabet. -/
class B64.Lawful [B64] : Prop where
  decode_encode (bytes : List UInt8) : decode (encode bytes) = some bytes
  dollar_not_mem (bytes : List UInt8) : '$' ∉ encode bytes

/-- `ITERATIONS` (`web_auth.rs:33`). -/
def ITERATIONS : UInt32 := 20000

/-- `MAX_ITERATIONS` (`web_auth.rs:39`). -/
def MAX_ITERATIONS : Nat := 1000000

/-- `HASH_LEN` (`web_auth.rs:49`). -/
def HASH_LEN : Nat := 32

/-! ## The key derivation -/

section
variable [HmacSha256] (password salt : List UInt8) (iterations : UInt32)

/-- `u32::to_be_bytes`. -/
def toBeBytes (n : UInt32) : List UInt8 :=
  [(n >>> 24).toUInt8, (n >>> 16).toUInt8, (n >>> 8).toUInt8, n.toUInt8]

/-- A turn of the inner loop (`web_auth.rs:79`), at `current` and the accumulator. -/
def turn (s : Vector UInt8 32 × Vector UInt8 32) : Vector UInt8 32 × Vector UInt8 32 :=
  let current := HmacSha256.mac password s.1.toList
  (current, s.2.zipWith (· ^^^ ·) current)

/-- The accumulator at the end of the inner loop. -/
def accumulator (blockIndex : UInt32) : Vector UInt8 32 :=
  let current := HmacSha256.mac password (salt ++ toBeBytes blockIndex)
  ((turn password)^[iterations.toNat - 1] (current, current)).2

/-- The outer loop of `pbkdf2`, where `written` is the part of the output written so far. -/
def pbkdf2Loop (len : Nat) (blockIndex : UInt32) (written : List UInt8) : List UInt8 :=
  if written.length < len then
    let block := (accumulator password salt iterations blockIndex).toList
    let take := min (len - written.length) block.length
    pbkdf2Loop len (blockIndex + 1) (written ++ block.take take)
  else written
termination_by len - written.length
decreasing_by simp only [List.length_append, List.length_take, Vector.length_toList]; omega

/-- `pbkdf2` (`web_auth.rs:68`): what it writes to an output of this length. -/
def pbkdf2 (len : Nat) : List UInt8 := pbkdf2Loop password salt iterations len 1 []

variable {password salt iterations}

omit [HmacSha256] in
/-- The bytes of a block index are the octets of its number. -/
theorem toBeBytes_ofNat (k : Nat) : toBeBytes (UInt32.ofNat k) = Rfc8018.int k := by
  have hbyte : ∀ {x : UInt32} {n : Nat}, x.toNat % 256 = n % 256 → x.toUInt8 = UInt8.ofNat n := by
    intro x n h
    exact UInt8.toNat_inj.1 (by simpa using h)
  rw [toBeBytes, Rfc8018.int]
  congr 1
  · exact hbyte (by simp [Nat.shiftRight_eq_div_pow]; omega)
  congr 1
  · exact hbyte (by simp [Nat.shiftRight_eq_div_pow]; omega)
  congr 1
  · exact hbyte (by simp [Nat.shiftRight_eq_div_pow]; omega)
  congr 1
  exact hbyte (by simp)

variable (password salt) in
/-- What the inner loop has after so many turns. -/
theorem turn_iterate (k m : Nat) :
    (turn password)^[m] (Rfc8018.U HmacSha256.mac password salt k 0,
        Rfc8018.F HmacSha256.mac password salt k 0) =
      (Rfc8018.U HmacSha256.mac password salt k m, Rfc8018.F HmacSha256.mac password salt k m) := by
  induction m with
  | zero => rfl
  | succ m ih =>
    rw [Function.iterate_succ_apply', ih]
    rfl

/-- The accumulator of a block is that block. -/
theorem accumulator_toList (k : Nat) :
    (accumulator password salt iterations (UInt32.ofNat k)).toList =
      Rfc8018.T HmacSha256.mac password salt iterations.toNat k := by
  have hfirst : HmacSha256.mac password (salt ++ toBeBytes (UInt32.ofNat k)) =
      Rfc8018.U HmacSha256.mac password salt k 0 := by rw [toBeBytes_ofNat]; rfl
  have hturns := turn_iterate password salt k (iterations.toNat - 1)
  simp only [accumulator, hfirst, Rfc8018.T]
  exact congrArg (fun s => s.2.toList) hturns

/-- **What the loop writes is the beginning of the blocks**, where it has written so much of them.
-/
theorem pbkdf2Loop_eq {len k m : Nat} {written : List UInt8}
    (hwritten : written = (Rfc8018.blocks HmacSha256.mac password salt iterations.toNat k).take len)
    (hm : len ≤ m * 32) :
    pbkdf2Loop password salt iterations len (UInt32.ofNat (k + 1)) written =
      (Rfc8018.blocks HmacSha256.mac password salt iterations.toNat m).take len := by
  have hlength := congrArg List.length hwritten
  rw [List.length_take, Rfc8018.length_blocks] at hlength
  rw [pbkdf2Loop]
  split
  next hmore =>
    -- the blocks so far are written whole, and the next one goes behind them
    have hfull : k * 32 ≤ len := by omega
    have hall : written = Rfc8018.blocks HmacSha256.mac password salt iterations.toNat k := by
      rw [hwritten, List.take_of_length_le (by rw [Rfc8018.length_blocks]; exact hfull)]
    have hindex : UInt32.ofNat (k + 1) + 1 = UInt32.ofNat (k + 1 + 1) := by
      rw [UInt32.ofNat_add (k + 1) 1]; rfl
    rw [hindex]
    refine pbkdf2Loop_eq ?_ hm
    rw [accumulator_toList, Rfc8018.length_T, hlength, min_eq_right hfull, Rfc8018.blocks_succ,
      List.take_append, Rfc8018.length_blocks, ← hall,
      List.take_of_length_le (l := written) (by omega)]
    exact congrArg (written ++ ·) (List.take_eq_take_iff.2 (by rw [Rfc8018.length_T]; omega))
  next hdone =>
    have hk : len ≤ k * 32 := by omega
    rw [hwritten]
    exact Rfc8018.take_blocks hk hm
termination_by len - written.length
decreasing_by simp only [List.length_append, List.length_take, Vector.length_toList]; omega

theorem pbkdf2_eq {len m : Nat} (hm : len ≤ m * 32) :
    pbkdf2 password salt iterations len =
      (Rfc8018.blocks HmacSha256.mac password salt iterations.toNat m).take len :=
  pbkdf2Loop_eq (k := 0) List.take_nil.symm hm

theorem length_pbkdf2 (len : Nat) : (pbkdf2 password salt iterations len).length = len := by
  have hlen : len ≤ len * 32 := Nat.le_mul_of_pos_right len (by decide)
  rw [pbkdf2_eq hlen, List.length_take, Rfc8018.length_blocks, min_eq_left hlen]

variable (password salt iterations) in
/-- The loop derives the key of the standard wherever that has one. -/
theorem derivedKey_eq_pbkdf2 (len : Nat) :
    Rfc8018.derivedKey HmacSha256.mac password salt iterations.toNat len =
      if len ≤ (2 ^ 32 - 1) * 32 then some (pbkdf2 password salt iterations len) else none := by
  split
  next hlen => rw [Rfc8018.derivedKey_eq (by decide) hlen hlen, pbkdf2_eq hlen]
  next hlen => exact if_pos (Nat.not_le.1 hlen)

end

/-! ## Stored hashes -/

section
variable [HmacSha256] [B64]

/-- `hash_password` (`web_auth.rs:111`), with the salt that was drawn: the random bytes of the
system, or those of `fastrand` where it has none. -/
def hashPassword (password : String) (salt : Vector UInt8 16) : String :=
  let hash := pbkdf2 (utf8 password) salt.toList ITERATIONS HASH_LEN
  String.ofList <| "pbkdf2-sha256".toList ++ '$' :: Nat.toDigits 10 ITERATIONS.toNat ++
    '$' :: B64.encode salt.toList ++ '$' :: B64.encode hash

/-- The difference of two digests: no bit of it is set by those that are equal. -/
def difference (actual expected : List UInt8) : UInt8 :=
  (actual.zip expected).foldl (fun difference p => difference ||| (p.1 ^^^ p.2)) 0

/-- `verify_password` (`web_auth.rs:133`). -/
def verifyPassword (password stored : String) : Bool :=
  let parts := stored.toList.splitOn '$'
  if parts[0]? ≠ some "pbkdf2-sha256".toList then false
  else
    match parts[1]?.bind (Fields.parseUnsigned (2 ^ 32 - 1)) with
    | none => false
    | some iterations =>
      match parts[2]?.bind B64.decode with
      | none => false
      | some salt =>
        match parts[3]?.bind B64.decode with
        | none => false
        | some expected =>
          if parts[4]?.isSome ∨ expected.length ≠ HASH_LEN ∨ iterations = 0 ∨
              MAX_ITERATIONS < iterations then false
          else
            let actual := pbkdf2 (utf8 password) salt (UInt32.ofNat iterations) HASH_LEN
            difference actual expected = 0

/-- A stored hash that is well formed, and what its four parts say. -/
structure WellFormed (stored : String) (iterations : Nat) (salt digest : List UInt8) : Prop where
  parts : ∃ count salt64 digest64 : List Char,
    stored.toList = ['$'].intercalate ["pbkdf2-sha256".toList, count, salt64, digest64] ∧
    '$' ∉ count ∧ '$' ∉ salt64 ∧ '$' ∉ digest64 ∧
    Fields.parseUnsigned (2 ^ 32 - 1) count = some iterations ∧
    B64.decode salt64 = some salt ∧ B64.decode digest64 = some digest
  accepted : 1 ≤ iterations ∧ iterations ≤ MAX_ITERATIONS

omit [HmacSha256] [B64] in
/-- Digests of one length have no difference where they are equal. -/
theorem difference_eq_zero_iff {actual expected : List UInt8}
    (h : actual.length = expected.length) : difference actual expected = 0 ↔ actual = expected := by
  have hfold : ∀ (xs ys : List UInt8) (d : UInt8), xs.length = ys.length →
      ((xs.zip ys).foldl (fun d p => d ||| (p.1 ^^^ p.2)) d = 0 ↔ d = 0 ∧ xs = ys) := by
    intro xs
    induction xs with
    | nil => intro ys d h; cases ys with
      | nil => simp
      | cons y ys => cases h
    | cons x xs ih =>
      intro ys d h
      cases ys with
      | nil => cases h
      | cons y ys =>
        rw [List.zip_cons_cons, List.foldl_cons, ih ys _ (Nat.succ.inj h), UInt8.or_eq_zero_iff,
          UInt8.xor_eq_zero_iff, List.cons.injEq, and_assoc]
  simpa [difference] using hfold actual expected 0 h

omit [HmacSha256] [B64] in
/-- The parts of a stored hash are the texts between its dollar signs. -/
theorem parts_eq_iff {stored : String} {tag count salt64 digest64 : List Char} (htag : '$' ∉ tag) :
    stored.toList.splitOn '$' = [tag, count, salt64, digest64] ↔
      stored.toList = ['$'].intercalate [tag, count, salt64, digest64] ∧
        '$' ∉ count ∧ '$' ∉ salt64 ∧ '$' ∉ digest64 := by
  rw [Fields.splitOn_eq_iff]
  simp only [List.forall_mem_cons, List.not_mem_nil, false_imp_iff, implies_true, and_true, ne_eq,
    reduceCtorEq, not_false_eq_true, true_and, htag]
  exact and_comm

omit [HmacSha256] [B64] in
/-- A list with four entries and no fifth one. -/
theorem eq_of_getElem? {α : Type} {l : List α} {a b c d : α} (ha : l[0]? = some a)
    (hb : l[1]? = some b) (hc : l[2]? = some c) (hd : l[3]? = some d) (hend : l[4]? = none) :
    l = [a, b, c, d] := by
  match l, ha, hb, hc, hd, hend with
  | [_, _, _, _], rfl, rfl, rfl, rfl, _ => rfl

/-- **A password is accepted where the digest of a well-formed hash is its key.** -/
theorem verifyPassword_iff {password stored : String} :
    verifyPassword password stored = true ↔ ∃ iterations salt digest,
      WellFormed stored iterations salt digest ∧
        pbkdf2 (utf8 password) salt (UInt32.ofNat iterations) HASH_LEN = digest := by
  have htag : '$' ∉ "pbkdf2-sha256".toList := by decide
  constructor
  · intro h
    rw [verifyPassword] at h
    split at h
    · cases h
    next hfirst =>
    split at h
    · cases h
    next iterations hcount =>
    split at h
    · cases h
    next salt hsalt =>
    split at h
    · cases h
    next digest hdigest =>
    split at h
    · cases h
    next haccepted =>
    rw [not_or, not_or, not_or, not_not, Option.not_isSome_iff_eq_none] at haccepted
    obtain ⟨hend, hlength, hzero, hmax⟩ := haccepted
    obtain ⟨count, hcount', hcount⟩ := Option.bind_eq_some_iff.1 hcount
    obtain ⟨salt64, hsalt', hsalt⟩ := Option.bind_eq_some_iff.1 hsalt
    obtain ⟨digest64, hdigest', hdigest⟩ := Option.bind_eq_some_iff.1 hdigest
    have hparts := eq_of_getElem? (not_not.1 hfirst) hcount' hsalt' hdigest' hend
    obtain ⟨htext, hcountFree, hsaltFree, hdigestFree⟩ := (parts_eq_iff htag).1 hparts
    refine ⟨iterations, salt, digest, ⟨⟨count, salt64, digest64, htext, hcountFree, hsaltFree,
      hdigestFree, hcount, hsalt, hdigest⟩, Nat.pos_of_ne_zero hzero, Nat.not_lt.1 hmax⟩, ?_⟩
    exact (difference_eq_zero_iff (by rw [length_pbkdf2, hlength])).1 (of_decide_eq_true h)
  · rintro ⟨iterations, salt, digest, ⟨⟨count, salt64, digest64, htext, hcountFree, hsaltFree,
      hdigestFree, hcount, hsalt, hdigest⟩, hpos, hmax⟩, hkey⟩
    have hparts := (parts_eq_iff htag).2 ⟨htext, hcountFree, hsaltFree, hdigestFree⟩
    have hlength : digest.length = HASH_LEN := by rw [← hkey, length_pbkdf2]
    have haccepted : ¬((none : Option (List Char)).isSome ∨ digest.length ≠ HASH_LEN ∨
        iterations = 0 ∨ MAX_ITERATIONS < iterations) := by
      rintro (hfifth | hother | hzero | hmore)
      · cases hfifth
      · exact hother hlength
      · omega
      · exact Nat.not_lt.2 hmax hmore
    rw [verifyPassword, hparts]
    simp only [List.getElem?_cons_zero, List.getElem?_cons_succ, List.getElem?_nil,
      Option.bind_some, hcount, hsalt, hdigest, ne_eq, not_true_eq_false, if_false]
    rw [if_neg haccepted]
    exact decide_eq_true ((difference_eq_zero_iff (by rw [length_pbkdf2, hlength])).2 hkey)

theorem wellFormed_hashPassword [B64.Lawful] (password : String) (salt : Vector UInt8 16) :
    WellFormed (hashPassword password salt) ITERATIONS.toNat salt.toList
      (pbkdf2 (utf8 password) salt.toList ITERATIONS HASH_LEN) where
  parts := by
    have hdigits : Nat.toDigits 10 ITERATIONS.toNat = ['2', '0', '0', '0', '0'] := by decide
    have hcount : Fields.parseUnsigned (2 ^ 32 - 1) ['2', '0', '0', '0', '0'] =
      some ITERATIONS.toNat := by decide +kernel
    refine ⟨['2', '0', '0', '0', '0'], B64.encode salt.toList, B64.encode _, ?_, by decide,
      B64.Lawful.dollar_not_mem _, B64.Lawful.dollar_not_mem _, hcount,
      B64.Lawful.decode_encode _, B64.Lawful.decode_encode _⟩
    unfold hashPassword
    rw [hdigits, String.toList_ofList]
    simp only [List.intercalate_cons_cons, List.intercalate_singleton, List.append_assoc,
      List.cons_append, List.nil_append]
  accepted := ⟨Nat.le_of_ble_eq_true rfl, Nat.le_of_ble_eq_true rfl⟩

/-- **The keys are those of RFC 8018, a hash verifies at its password, and what verifies is a
well-formed hash with the key of that password.** -/
theorem storedHash_keys [B64.Lawful] :
    (∀ (password salt : List UInt8) (iterations : UInt32) (len : Nat),
      Rfc8018.derivedKey HmacSha256.mac password salt iterations.toNat len =
        if len ≤ (2 ^ 32 - 1) * 32 then some (pbkdf2 password salt iterations len) else none) ∧
    (∀ (password : String) (salt : Vector UInt8 16),
      verifyPassword password (hashPassword password salt) = true) ∧
    ∀ password stored : String, verifyPassword password stored = true ↔
      ∃ iterations salt digest, WellFormed stored iterations salt digest ∧
        Rfc8018.derivedKey HmacSha256.mac (utf8 password) salt iterations HASH_LEN =
          some digest := by
  refine ⟨derivedKey_eq_pbkdf2, ?_, ?_⟩
  · intro password salt
    exact verifyPassword_iff.2 ⟨_, _, _, wellFormed_hashPassword password salt,
      by rw [UInt32.ofNat_toNat]⟩
  · intro password stored
    rw [verifyPassword_iff]
    refine exists_congr fun iterations => exists_congr fun salt => exists_congr fun digest =>
      and_congr_right fun hform => ?_
    have hfits : (UInt32.ofNat iterations).toNat = iterations :=
      UInt32.toNat_ofNat_of_lt' (hform.accepted.2.trans_lt (by decide))
    have hkey := derivedKey_eq_pbkdf2 (utf8 password) salt (UInt32.ofNat iterations) HASH_LEN
    rw [hfits, if_pos (by decide)] at hkey
    rw [hkey, Option.some.injEq]

end

/-! ## With SHA-256 -/

/-- The keyed function itself. -/
@[reducible] def hmacSha256 : HmacSha256 := ⟨Sha256.hmac⟩

/-- The encoding itself. -/
@[reducible] def b64 : B64 := ⟨Base64.encode, Base64.decode⟩

theorem b64_lawful : @B64.Lawful b64 :=
  @B64.Lawful.mk b64 Base64.decode_encode fun _ hmem => by
    rcases Base64.mem_of_mem_encode hmem with h | h
    · exact absurd h (by decide)
    · exact absurd h (by decide)

theorem storedHash_keys_sha256 :
    @verifyPassword hmacSha256 b64 "hunter2"
      (@hashPassword hmacSha256 b64 "hunter2" (Vector.replicate 16 7)) = true :=
  (@storedHash_keys hmacSha256 b64 b64_lawful).2.1 "hunter2" (Vector.replicate 16 7)

-- a published vector
example :
    Rfc8018.derivedKey Sha256.hmac (utf8 "password") (utf8 "salt") 2 32 =
      some [0xae, 0x4d, 0x0c, 0x95, 0xaf, 0x6b, 0x46, 0xd3, 0x2d, 0x0a, 0xdf, 0xf9, 0x28, 0xf0,
        0x6d, 0xd0, 0x2a, 0x30, 0x3f, 0x8e, 0xf3, 0xc2, 0x51, 0xdf, 0xd6, 0xe2, 0xd8, 0x5a, 0x95,
        0x47, 0x4c, 0x43] := by
  decide +kernel

end Rayhunter.Auth
