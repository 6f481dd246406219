import Rayhunter.Nas.Identity

/-!
# Removing an identity

`redact_nas_identity` (`daemon/src/redact.rs`) sets the digits of an identity to zero and leaves the
rest of the message. What is left does not depend on the digits (`redaction_reveals_nothing`).
-/

namespace Rayhunter

/-- `RedactionReport` (`redact.rs:31`). -/
structure RedactionReport where
  imsi : Nat := 0
  imei : Nat := 0
  imeisv : Nat := 0
  tmsi : Nat := 0
  messagesScanned : Nat := 0
  deriving DecidableEq, Repr

/-- `record` (`redact.rs:47`). -/
def RedactionReport.record (r : RedactionReport) (identity : Identity) : RedactionReport :=
  match identity.kind with
  | .imsi => { r with imsi := r.imsi + 1 }
  | .imei => { r with imei := r.imei + 1 }
  | .imeisv => { r with imeisv := r.imeisv + 1 }
  | .tmsi => { r with tmsi := r.tmsi + 1 }

/-- The bytes of an identity without its digits: the first keeps its low nibble. -/
def eraseIdentity : List UInt8 → List UInt8
  | [] => []
  | first :: rest => (first &&& 0x0f) :: rest.map fun _ => 0

/-- `redact_nas_identity` (`redact.rs:69`): what was removed, and the message after that. -/
def redactNasIdentity (payload : List UInt8) : Option Identity × List UInt8 :=
  match identityFromNasWithRange payload with
  | none => (none, payload)
  | some (identity, range) =>
    match range.get payload with
    | none => (none, payload)
    | some [] => (none, payload)
    | some value =>
      (some identity, payload.take range.start ++ eraseIdentity value ++ payload.drop range.stop)

/-! ## The field without its digits -/

@[simp] theorem length_eraseIdentity (value : List UInt8) :
    (eraseIdentity value).length = value.length := by
  cases value <;> simp [eraseIdentity]

/-- How many digits the bytes after the first hold. -/
def digitCount (odd : Bool) (n : Nat) : Nat := if odd then 2 * n else 2 * n - 1

/-- Digits that are read are as many as the bytes hold. -/
theorem length_packedDigits {odd : Bool} {bytes : List UInt8} {digits : List Char}
    (h : packedDigits odd bytes = some digits) : digits.length = digitCount odd bytes.length := by
  induction bytes generalizing digits with
  | nil => cases h; cases odd <;> rfl
  | cons b bytes ih =>
    cases bytes with
    | nil =>
      cases odd with
      | true =>
        obtain ⟨lo, -, h⟩ := Option.bind_eq_some_iff.1 h
        obtain ⟨hi, -, rfl⟩ := Option.map_eq_some_iff.1 h
        rfl
      | false =>
        obtain ⟨lo, -, rfl⟩ := Option.map_eq_some_iff.1 h
        rfl
    | cons b' bytes =>
      obtain ⟨lo, -, h⟩ := Option.bind_eq_some_iff.1 h
      obtain ⟨hi, -, h⟩ := Option.bind_eq_some_iff.1 h
      obtain ⟨rest, hrest, rfl⟩ := Option.map_eq_some_iff.1 h
      have hlength := ih hrest
      cases odd <;> simp [digitCount] at hlength ⊢ <;> omega

/-- Zeros are read as that many digits. -/
theorem packedDigits_replicate (odd : Bool) (n : Nat) :
    packedDigits odd (List.replicate n 0) = some (List.replicate (digitCount odd n) '0') := by
  have hdigit : fromDigit 0 = some '0' := by decide
  induction n with
  | zero => cases odd <;> rfl
  | succ n ih =>
    cases n with
    | zero => cases odd <;> decide
    | succ n =>
      have hlo : (0 : UInt8) &&& 0x0f = 0 := by decide
      have hhi : (0 : UInt8) >>> 4 = 0 := by decide
      have hcount : digitCount odd (n + 1 + 1) = digitCount odd (n + 1) + 2 := by
        cases odd <;> simp [digitCount] <;> omega
      rw [List.replicate_succ] at ih
      rw [List.replicate_succ, List.replicate_succ, packedDigits, ih, hlo, hhi, hdigit, hcount]
      · rfl
      · simp

/-- The flag for an odd number of digits, in the first byte of an identity. -/
def oddFlag (first : UInt8) : Bool := first &&& 0b1000 ≠ 0

/-- What an identity that is read has in its first byte, and how many digits there are. -/
theorem decode_eq_some {first : UInt8} {rest : List UInt8} {identity : Identity}
    (h : decodeEpsMobileIdentity (first :: rest) = some identity) :
    identityKind (first &&& 0b111) = some identity.kind ∧
      (identity.kind = .tmsi → 10 ≤ rest.length ∧ identity.digits.length = 8) ∧
      (identity.kind ≠ .tmsi →
        identity.digits.length = digitCount (oddFlag first) rest.length + 1) := by
  obtain ⟨kind, hkind, h⟩ := Option.bind_eq_some_iff.1 h
  have hdigits (hne : kind ≠ .tmsi) (h : ((fromDigit (first >>> 4)).bind fun digit =>
      (packedDigits (oddFlag first) rest).map fun digits =>
        Identity.ofKind kind (String.ofList (digit :: digits))) = some identity) :
      identity.kind = kind ∧
        identity.digits.length = digitCount (oddFlag first) rest.length + 1 := by
    obtain ⟨digit, -, h⟩ := Option.bind_eq_some_iff.1 h
    obtain ⟨digits, hpacked, rfl⟩ := Option.map_eq_some_iff.1 h
    refine ⟨Identity.kind_ofKind .., ?_⟩
    rw [Identity.digits_ofKind, String.length_ofList, List.length_cons,
      length_packedDigits hpacked]
  rw [hkind]
  cases kind with
  | tmsi =>
    simp only at h
    split at h
    · cases h
    · next hlength =>
      cases h
      have htake : ((rest.drop 6).take 4).length = 4 := by
        rw [List.length_take, List.length_drop]
        omega
      refine ⟨rfl, fun _ => ⟨by omega, ?_⟩, fun hne => absurd rfl hne⟩
      obtain ⟨a, b, c, d, habcd⟩ := List.length_eq_four.1 htake
      rw [Identity.digits, habcd, String.length_ofList]
      rfl
  | imsi | imei | imeisv =>
    obtain ⟨hk, hlength⟩ := hdigits (by decide) h
    exact ⟨by rw [hk], fun htmsi => (by rw [hk] at htmsi; cases htmsi), fun _ => hlength⟩

/-- Without its digits an identity is one of the same kind with as many zeros. -/
theorem decode_eraseIdentity {value : List UInt8} {identity : Identity}
    (h : decodeEpsMobileIdentity value = some identity) :
    decodeEpsMobileIdentity (eraseIdentity value) =
      some (.ofKind identity.kind (String.ofList (List.replicate identity.digits.length '0'))) := by
  cases value with
  | nil => cases h
  | cons first rest =>
    obtain ⟨hkind, htmsi, hdigits⟩ := decode_eq_some h
    have htype : first &&& 0x0f &&& 0b111 = first &&& 0b111 := UInt8.and_assoc ..
    have hodd : oddFlag (first &&& 0x0f) = oddFlag first := by
      rw [oddFlag, UInt8.and_assoc]
      rfl
    have hnibble : fromDigit ((first &&& 0x0f) >>> 4) = some '0' := by
      rw [Hex.forall_byte (p := fun b => (b &&& 0x0f) >>> 4 = 0) (by decide +kernel) first]
      rfl
    have hrest : rest.map (fun _ => (0 : UInt8)) = List.replicate rest.length 0 := by simp
    rw [eraseIdentity, decodeEpsMobileIdentity, htype, hkind, Option.bind_some, hrest]
    cases hk : identity.kind with
    | tmsi =>
      obtain ⟨hlength, height⟩ := htmsi hk
      simp only [List.length_replicate]
      rw [if_neg (by omega), List.drop_replicate, List.take_replicate, height,
        show min 4 (rest.length - 6) = 4 by omega]
      rfl
    | imsi | imei | imeisv =>
      have hlength := hdigits (by rw [hk]; decide)
      simp only [hnibble, Option.bind_some]
      show Option.map _ (packedDigits (oddFlag (first &&& 0x0f)) _) = _
      rw [packedDigits_replicate, hodd, hlength]
      rfl

/-- The type that stands for a kind. -/
def IdentityKind.idType : IdentityKind → UInt8
  | imsi => TYPE_IMSI
  | imei => TYPE_IMEI
  | imeisv => TYPE_IMEISV
  | tmsi => TYPE_GUTI

/-- Only one type stands for a kind. -/
theorem eq_idType {t : UInt8} {kind : IdentityKind} (h : identityKind t = some kind) :
    t = kind.idType := by
  unfold identityKind at h
  split at h
  · next ht => cases h; exact ht
  split at h
  · next ht => cases h; exact ht
  split at h
  · next ht => cases h; exact ht
  split at h
  · next ht => cases h; exact ht
  · cases h

/-- Two identities of one kind, with the same flag and as many bytes, are the same without their
digits. -/
theorem eraseIdentity_eq {first first' : UInt8} {rest rest' : List UInt8}
    {identity identity' : Identity}
    (h : decodeEpsMobileIdentity (first :: rest) = some identity)
    (h' : decodeEpsMobileIdentity (first' :: rest') = some identity')
    (hkind : identity'.kind = identity.kind) (hodd : oddFlag first' = oddFlag first)
    (hlength : rest'.length = rest.length) :
    eraseIdentity (first' :: rest') = eraseIdentity (first :: rest) := by
  have htype : first' &&& 0b111 = first &&& 0b111 := by
    rw [eq_idType (decode_eq_some h).1, eq_idType (decode_eq_some h').1, hkind]
  have hflag : first' &&& 0b1000 = first &&& 0b1000 := by
    have hone := Hex.forall_byte (p := fun b => b &&& 0b1000 = if oddFlag b then 0b1000 else 0)
      (by decide +kernel)
    rw [hone, hone first, hodd]
  have hnibble := Hex.forall_byte (p := fun b => b &&& 0x0f = b &&& 0b111 ||| b &&& 0b1000)
    (by decide +kernel)
  rw [eraseIdentity, eraseIdentity, hnibble first', hnibble first, htype, hflag]
  simp [hlength]

/-! ## The message without the digits -/

/-- The digits of an identity that is announced are removed. -/
theorem redactNasIdentity_append {head value : List UInt8} {identity : Identity}
    (h : Announces head value.length) (hdecode : decodeEpsMobileIdentity value = some identity)
    (tail : List UInt8) :
    redactNasIdentity (head ++ value ++ tail) =
      (some identity, head ++ eraseIdentity value ++ tail) := by
  unfold redactNasIdentity
  rw [identityFromNasWithRange_append h, hdecode]
  simp only [Option.map_some, ByteRange.get_append]
  cases value with
  | nil => cases hdecode
  | cons first rest =>
    simp only [Prod.mk.injEq, true_and]
    congr 1
    · simp [List.append_assoc]
    · rw [← List.length_append, List.drop_left]

/-- A message without an identity is left as it is. -/
theorem redactNasIdentity_of_none {payload : List UInt8}
    (h : identityFromNasWithRange payload = none) : redactNasIdentity payload = (none, payload) := by
  unfold redactNasIdentity
  rw [h]

/-- What agrees with a message outside a part of it has that part replaced. -/
theorem eq_append_of_agree {head value tail other : List UInt8}
    (hlength : other.length = (head ++ value ++ tail).length)
    (h : ∀ k, k ∉ ByteRange.mk head.length (head.length + value.length) →
      other[k]? = (head ++ value ++ tail)[k]?) :
    ∃ value', other = head ++ value' ++ tail ∧ value'.length = value.length := by
  have hhead : other.take head.length = head := by
    refine List.ext_getElem? fun k => ?_
    rw [List.getElem?_take]
    split
    · next hk =>
      rw [h k fun hmem => absurd hmem.1 (by simp; omega), List.append_assoc,
        List.getElem?_append_left hk]
    · next hk => rw [List.getElem?_eq_none (by omega)]
  have htail : other.drop (head.length + value.length) = tail := by
    refine List.ext_getElem? fun k => ?_
    rw [List.getElem?_drop, h _ fun hmem => absurd hmem.2 (by simp), ← List.length_append,
      List.getElem?_append_right (by omega), Nat.add_sub_cancel_left]
  refine ⟨(other.drop head.length).take value.length, ?_, ?_⟩
  · conv_lhs => rw [← List.take_append_drop head.length other,
      ← List.take_append_drop value.length (other.drop head.length), List.drop_drop, hhead, htail]
    rw [List.append_assoc]
  · rw [List.length_take, List.length_drop, hlength]
    simp

/-- What is not in the middle of a message stays where that is replaced. -/
theorem getElem?_of_notMem {head value value' tail : List UInt8} {k : Nat}
    (hlength : value'.length = value.length)
    (hk : k ∉ ByteRange.mk head.length (head.length + value.length)) :
    (head ++ value' ++ tail)[k]? = (head ++ value ++ tail)[k]? := by
  rcases Nat.lt_or_ge k head.length with hlt | hge
  · rw [List.append_assoc, List.append_assoc, List.getElem?_append_left hlt,
      List.getElem?_append_left hlt]
  · have hstop : head.length + value.length ≤ k := by
      by_contra hlt
      exact hk ⟨hge, by simpa using hlt⟩
    rw [List.getElem?_append_right (by simp [hlength]; omega),
      List.getElem?_append_right (by simp; omega), List.length_append, List.length_append, hlength]

/-- The flag for an odd number of digits of the identity at a range. -/
def oddFlagAt (payload : List UInt8) (range : ByteRange) : Bool :=
  oddFlag (payload[range.start]?.getD 0)

theorem oddFlagAt_append (head tail rest : List UInt8) (first : UInt8) (n : Nat) :
    oddFlagAt (head ++ (first :: rest) ++ tail) ⟨head.length, n⟩ = oddFlag first := by
  simp [oddFlagAt]

/-- Two messages that agree outside an identity of one kind, with the same flag, are the same
without its digits. -/
theorem redactNasIdentity_eq {payload other : List UInt8} {identity identity' : Identity}
    {range range' : ByteRange}
    (h : identityFromNasWithRange payload = some (identity, range))
    (h' : identityFromNasWithRange other = some (identity', range'))
    (hlength : other.length = payload.length)
    (hagree : ∀ k, k ∉ range → other[k]? = payload[k]?)
    (hkind : identity'.kind = identity.kind)
    (hodd : oddFlagAt other range' = oddFlagAt payload range) :
    (redactNasIdentity other).2 = (redactNasIdentity payload).2 := by
  obtain ⟨head, value, tail, rfl, hannounces, hdecode, rfl⟩ := identityFromNasWithRange_eq_some h
  obtain ⟨value', rfl, hvalue⟩ := eq_append_of_agree hlength hagree
  have hannounces' : Announces head value'.length := by rwa [hvalue]
  -- the identity of the other message is where the length in front of it says
  rw [identityFromNasWithRange_append hannounces' tail] at h'
  obtain ⟨identity'', hdecode', hpair⟩ := Option.map_eq_some_iff.1 h'
  cases hpair
  rw [redactNasIdentity_append hannounces hdecode, redactNasIdentity_append hannounces' hdecode']
  cases value with
  | nil => cases hdecode
  | cons first rest =>
    cases value' with
    | nil => cases hdecode'
    | cons first' rest' =>
      rw [oddFlagAt_append, oddFlagAt_append] at hodd
      rw [eraseIdentity_eq hdecode hdecode' hkind hodd (by simpa using hvalue)]

/-- **Redaction reveals nothing of the digits.** It keeps the length of a message and every byte
outside the identity, leaves one of the same kind with as many digits, all zero, does nothing the
second time, and does the same to every message with another identity of that kind, flag and length
in the same place. -/
theorem redaction_reveals_nothing (payload : List UInt8) :
    let redacted := (redactNasIdentity payload).2
    redacted.length = payload.length ∧
      (redactNasIdentity redacted).2 = redacted ∧
      (identityFromNasWithRange payload = none → redacted = payload) ∧
      ∀ identity range, identityFromNasWithRange payload = some (identity, range) →
        (∀ k, k ∉ range → redacted[k]? = payload[k]?) ∧
          (∃ zeroed, identityFromNasWithRange redacted = some (zeroed, range) ∧
            zeroed.kind = identity.kind ∧
            zeroed.digits = String.ofList (List.replicate identity.digits.length '0')) ∧
          ∀ other identity' range',
            identityFromNasWithRange other = some (identity', range') →
            other.length = payload.length → (∀ k, k ∉ range → other[k]? = payload[k]?) →
            identity'.kind = identity.kind →
            oddFlagAt other range' = oddFlagAt payload range →
            (redactNasIdentity other).2 = redacted := by
  cases h : identityFromNasWithRange payload with
  | none =>
    simp [redactNasIdentity_of_none h]
  | some found =>
    obtain ⟨identity, range⟩ := found
    have heq := fun other identity' range' h' => @redactNasIdentity_eq _ other _ identity' _ range'
      h h'
    obtain ⟨head, value, tail, rfl, hannounces, hdecode, rfl⟩ := identityFromNasWithRange_eq_some h
    have herased : Announces head (eraseIdentity value).length := by
      rwa [length_eraseIdentity]
    have hzeroed := identityFromNasWithRange_append herased tail
    rw [decode_eraseIdentity hdecode, length_eraseIdentity] at hzeroed
    have hagain := redactNasIdentity_append herased (decode_eraseIdentity hdecode) tail
    have htwice : eraseIdentity (eraseIdentity value) = eraseIdentity value := by
      cases value with
      | nil => rfl
      | cons first rest =>
        simp only [eraseIdentity, List.map_map, UInt8.and_assoc]
        rfl
    simp only [redactNasIdentity_append hannounces hdecode] at heq ⊢
    refine ⟨by simp, by rw [hagain, htwice], fun hnone => (by cases hnone), ?_⟩
    rintro identity' range' ⟨⟩
    exact ⟨fun k hk => getElem?_of_notMem (length_eraseIdentity value) hk,
      ⟨_, hzeroed, Identity.kind_ofKind .., Identity.digits_ofKind ..⟩, heq⟩

/-- Two subscribers' attach requests, redacted. -/
theorem redaction_reveals_nothing_of_two :
    (redactNasIdentity [0x07, 0x41, 0x02, 0x03, 0x39, 0x01, 0x51]).2 =
      (redactNasIdentity [0x07, 0x41, 0x02, 0x03, 0x29, 0x26, 0x10]).2 := by
  obtain ⟨-, -, -, h⟩ := redaction_reveals_nothing [0x07, 0x41, 0x02, 0x03, 0x29, 0x26, 0x10]
  obtain ⟨-, -, h⟩ := h (.imsi "26201") ⟨4, 7⟩ (by decide)
  refine h _ (.imsi "31015") ⟨4, 7⟩ (by decide) rfl (fun k hk => ?_) rfl (by decide)
  match k, hk with
  | 0, _ | 1, _ | 2, _ | 3, _ => rfl
  | 4, hk | 5, hk | 6, hk => exact absurd (by decide) hk
  | _ + 7, _ => rfl

end Rayhunter
