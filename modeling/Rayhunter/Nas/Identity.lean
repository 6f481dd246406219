import Mathlib.Data.List.Basic
import Rayhunter.Lib.Hex

/-!
# The identities a device sends about itself

`decode_eps_mobile_identity` and `identity_from_nas_with_range` (`daemon/src/subscriber_id.rs`): an
identity response or an attach request says who sends it in a field with a length in front of it.
-/

namespace Rayhunter

/-- `Identity` (`subscriber_id.rs:17`). -/
inductive Identity
  | imsi (digits : String)
  | imei (digits : String)
  | imeisv (digits : String)
  | tmsi (digits : String)
  deriving DecidableEq, Repr

/-- The kinds of identities. -/
inductive IdentityKind
  | imsi
  | imei
  | imeisv
  | tmsi
  deriving DecidableEq, Repr

namespace Identity

/-- Of which kind an identity is. -/
def kind : Identity → IdentityKind
  | imsi _ => .imsi
  | imei _ => .imei
  | imeisv _ => .imeisv
  | tmsi _ => .tmsi

/-- Its digits, hexadecimal ones for a temporary identity. -/
def digits : Identity → String
  | imsi digits => digits
  | imei digits => digits
  | imeisv digits => digits
  | tmsi digits => digits

/-- The identity of a kind with some digits. -/
def ofKind : IdentityKind → String → Identity
  | .imsi => imsi
  | .imei => imei
  | .imeisv => imeisv
  | .tmsi => tmsi

@[simp] theorem kind_ofKind (k : IdentityKind) (s : String) : (ofKind k s).kind = k := by
  cases k <;> rfl

@[simp] theorem digits_ofKind (k : IdentityKind) (s : String) : (ofKind k s).digits = s := by
  cases k <;> rfl

end Identity

/-! ## The field -/

/-- `TYPE_IMSI` (`subscriber_id.rs:29`). -/
def TYPE_IMSI : UInt8 := 1

/-- `TYPE_IMEI` (`subscriber_id.rs:30`). -/
def TYPE_IMEI : UInt8 := 2

/-- `TYPE_IMEISV` (`subscriber_id.rs:31`). -/
def TYPE_IMEISV : UInt8 := 3

/-- `TYPE_GUTI` (`subscriber_id.rs:32`). -/
def TYPE_GUTI : UInt8 := 6

/-- What the type of an identity, the low three bits of its first byte, stands for. -/
def identityKind (idType : UInt8) : Option IdentityKind :=
  if idType = TYPE_IMSI then some .imsi
  else if idType = TYPE_IMEI then some .imei
  else if idType = TYPE_IMEISV then some .imeisv
  else if idType = TYPE_GUTI then some .tmsi
  else none

/-- `char::from_digit` in base ten, of a nibble. -/
def fromDigit (n : UInt8) : Option Char := if n < 10 then some (Nat.digitChar n.toNat) else none

/-- The digits of the bytes after the first, low nibble first. The last high nibble is filler where
the number of digits is even. -/
def packedDigits (odd : Bool) : List UInt8 → Option (List Char)
  | [] => some []
  | [b] =>
    if odd then (fromDigit (b &&& 0x0f)).bind fun lo => (fromDigit (b >>> 4)).map fun hi => [lo, hi]
    else (fromDigit (b &&& 0x0f)).map fun lo => [lo]
  | b :: bs =>
    (fromDigit (b &&& 0x0f)).bind fun lo => (fromDigit (b >>> 4)).bind fun hi =>
      (packedDigits odd bs).map fun rest => lo :: hi :: rest

/-- `decode_eps_mobile_identity` (`subscriber_id.rs:44`). -/
def decodeEpsMobileIdentity : List UInt8 → Option Identity
  | [] => none
  | first :: rest =>
    let odd : Bool := first &&& 0b1000 ≠ 0
    (identityKind (first &&& 0b111)).bind fun
      | .tmsi =>
        if rest.length < 10 then none
        else
          -- the temporary identity is a number of four bytes, written with eight digits
          some (.tmsi (String.ofList (((rest.drop 6).take 4).flatMap Hex.byte)))
      | kind =>
        (fromDigit (first >>> 4)).bind fun digit =>
          (packedDigits odd rest).map fun digits => .ofKind kind (String.ofList (digit :: digits))

-- the identities the source's tests decode
example : decodeEpsMobileIdentity [0x39, 0x01, 0x51, 0x10, 0x32, 0x54, 0x76, 0x98] =
    some (.imsi "310150123456789") := by decide
example : decodeEpsMobileIdentity [0x12, 0x32, 0x54, 0x76, 0x98, 0x10, 0x32, 0xf4] =
    some (.imei "12345678901234") := by decide
example : decodeEpsMobileIdentity
    [0xf6, 0x13, 0x01, 0x05, 0x00, 0x01, 0x02, 0xde, 0xad, 0xbe, 0xef] =
    some (.tmsi "deadbeef") := by decide

/-! ## The message -/

/-- `PD_EMM` (`subscriber_id.rs:88`). -/
def PD_EMM : UInt8 := 7

/-- `IDENTITY_RESPONSE` (`subscriber_id.rs:91`). -/
def IDENTITY_RESPONSE : UInt8 := 0x56

/-- `ATTACH_REQUEST` (`subscriber_id.rs:92`). -/
def ATTACH_REQUEST : UInt8 := 0x41

/-- Where the length of the identity stands in a message of a type, if it carries one. -/
def ieStart (messageType : UInt8) : Option Nat :=
  if messageType = IDENTITY_RESPONSE then some 2
  else if messageType = ATTACH_REQUEST then some 3
  else none

/-- A range of positions, `std::ops::Range`. -/
structure ByteRange where
  start : Nat
  stop : Nat
  deriving DecidableEq, Repr

namespace ByteRange

/-- A range is somewhere in a message. -/
instance : Membership Nat ByteRange := ⟨fun r k => r.start ≤ k ∧ k < r.stop⟩

theorem mem_iff {r : ByteRange} {k : Nat} : k ∈ r ↔ r.start ≤ k ∧ k < r.stop := Iff.rfl

instance (r : ByteRange) (k : Nat) : Decidable (k ∈ r) :=
  inferInstanceAs (Decidable (r.start ≤ k ∧ k < r.stop))

/-- `get(range)`. -/
def get (r : ByteRange) (payload : List UInt8) : Option (List UInt8) :=
  if r.start ≤ r.stop ∧ r.stop ≤ payload.length then
    some ((payload.drop r.start).take (r.stop - r.start))
  else none

theorem get_append (head value tail : List UInt8) :
    (ByteRange.mk head.length (head.length + value.length)).get (head ++ value ++ tail) =
      some value := by
  rw [get, if_pos ⟨by simp, by simp⟩]
  simp [List.append_assoc]

end ByteRange

/-- The identity after the length at a position (`subscriber_id.rs:140`), and where it is. -/
def identityAt (payload : List UInt8) (ieStart : Nat) : Option (Identity × ByteRange) :=
  payload[ieStart]?.bind fun length =>
    let range : ByteRange := ⟨ieStart + 1, ieStart + 1 + length.toNat⟩
    (range.get payload).bind fun value => (decodeEpsMobileIdentity value).map (·, range)

/-- `identity_from_nas_with_range` (`subscriber_id.rs:108`). -/
def identityFromNasWithRange (payload : List UInt8) : Option (Identity × ByteRange) :=
  payload[0]?.bind fun header =>
    if header &&& 0x0f ≠ PD_EMM then none
    else if header >>> 4 ≠ 0 then none
    else payload[1]?.bind fun messageType => (ieStart messageType).bind (identityAt payload)

/-- The bytes in front of an identity of so many bytes: a plain header, the type of the message, the
key set in an attach request, and the length. -/
inductive Announces : List UInt8 → Nat → Prop
  | identityResponse (length : UInt8) : Announces [PD_EMM, IDENTITY_RESPONSE, length] length.toNat
  | attachRequest (keySet length : UInt8) :
    Announces [PD_EMM, ATTACH_REQUEST, keySet, length] length.toNat

/-- A header with no security is the discriminator alone. -/
theorem eq_PD_EMM {header : UInt8} (hpd : header &&& 0x0f = PD_EMM) (hplain : header >>> 4 = 0) :
    header = PD_EMM :=
  Hex.forall_byte (p := fun b => b &&& 0x0f = PD_EMM → b >>> 4 = 0 → b = PD_EMM) (by decide +kernel)
    header hpd hplain

/-- An identity is read after its length. -/
theorem identityAt_append {head value : List UInt8} {length : UInt8} (h : value.length = length.toNat)
    (tail : List UInt8) :
    identityAt (head ++ length :: value ++ tail) head.length =
      (decodeEpsMobileIdentity value).map
        (·, ⟨head.length + 1, head.length + 1 + value.length⟩) := by
  have hget := ByteRange.get_append (head ++ [length]) value tail
  rw [List.length_append, List.length_singleton, List.append_assoc head, List.singleton_append]
    at hget
  have hlength : (head ++ length :: value ++ tail)[head.length]? = some length := by simp
  rw [identityAt, hlength, Option.bind_some, ← h]
  simp only [hget, Option.bind_some]

/-- What follows such bytes is read as an identity. -/
theorem identityFromNasWithRange_append {head value : List UInt8} (h : Announces head value.length)
    (tail : List UInt8) :
    identityFromNasWithRange (head ++ value ++ tail) =
      (decodeEpsMobileIdentity value).map (·, ⟨head.length, head.length + value.length⟩) := by
  generalize hn : value.length = n at h
  cases h with
  | identityResponse length =>
    rw [← hn]
    exact @identityAt_append [PD_EMM, IDENTITY_RESPONSE] _ _ hn tail
  | attachRequest keySet length =>
    rw [← hn]
    exact @identityAt_append [PD_EMM, ATTACH_REQUEST, keySet] _ _ hn tail

theorem identityAt_eq_some {payload : List UInt8} {k : Nat} {identity : Identity}
    {range : ByteRange} (h : identityAt payload k = some (identity, range)) :
    ∃ length value tail, payload.drop k = length :: value ++ tail ∧ value.length = length.toNat ∧
      decodeEpsMobileIdentity value = some identity ∧ range = ⟨k + 1, k + 1 + value.length⟩ := by
  obtain ⟨length, hlength, h⟩ := Option.bind_eq_some_iff.1 h
  obtain ⟨value, hvalue, h⟩ := Option.bind_eq_some_iff.1 h
  obtain ⟨identity', hdecode, hpair⟩ := Option.map_eq_some_iff.1 h
  cases hpair
  unfold ByteRange.get at hvalue
  split at hvalue
  · next hfits =>
    cases hvalue
    obtain ⟨hk, rfl⟩ := List.getElem?_eq_some_iff.1 hlength
    have hn : ((payload.drop (k + 1)).take payload[k].toNat).length = payload[k].toNat := by
      rw [List.length_take, List.length_drop]
      simp only at hfits
      omega
    rw [Nat.add_sub_cancel_left] at hdecode
    refine ⟨payload[k], (payload.drop (k + 1)).take payload[k].toNat,
      (payload.drop (k + 1)).drop payload[k].toNat, ?_, hn, hdecode, by rw [hn]⟩
    rw [List.cons_append, List.take_append_drop, List.drop_eq_getElem_cons hk]
  · cases hvalue

/-- Nothing else is. -/
theorem identityFromNasWithRange_eq_some {payload : List UInt8} {identity : Identity}
    {range : ByteRange} (h : identityFromNasWithRange payload = some (identity, range)) :
    ∃ head value tail, payload = head ++ value ++ tail ∧ Announces head value.length ∧
      decodeEpsMobileIdentity value = some identity ∧
      range = ⟨head.length, head.length + value.length⟩ := by
  obtain ⟨header, hheader, h⟩ := Option.bind_eq_some_iff.1 h
  split at h
  · cases h
  next hpd =>
  split at h
  · cases h
  next hplain =>
  obtain ⟨messageType, htype, h⟩ := Option.bind_eq_some_iff.1 h
  obtain ⟨start, hstart, h⟩ := Option.bind_eq_some_iff.1 h
  obtain ⟨length, value, tail, hdrop, hn, hdecode, rfl⟩ := identityAt_eq_some h
  obtain rfl := eq_PD_EMM (not_not.1 hpd) (not_not.1 hplain)
  match payload, hheader, htype, hdrop with
  | [a], _, htype, _ => cases htype
  | a :: b :: rest, hheader, htype, hdrop =>
    cases hheader
    cases htype
    unfold ieStart at hstart
    split at hstart
    · next ht =>
      cases hstart
      subst ht
      obtain rfl : rest = length :: value ++ tail := hdrop
      exact ⟨[PD_EMM, IDENTITY_RESPONSE, length], value, tail, rfl,
        hn ▸ .identityResponse length, hdecode, rfl⟩
    · split at hstart
      · next ht =>
        cases hstart
        subst ht
        cases rest with
        | nil => cases hdrop
        | cons keySet rest =>
          obtain rfl : rest = length :: value ++ tail := hdrop
          exact ⟨[PD_EMM, ATTACH_REQUEST, keySet, length], value, tail, rfl,
            hn ▸ .attachRequest keySet length, hdecode, rfl⟩
      · cases hstart

end Rayhunter
