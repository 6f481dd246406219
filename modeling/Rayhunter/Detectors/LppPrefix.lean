import Rayhunter.Detectors.Lpp
import Rayhunter.Lib.BitReader
import Rayhunter.Lib.Grammar
import Rayhunter.Lib.Hex

/-!
# The prefix of an LPP message

What `decode_lpp_prefix` of `lib/src/analysis/lpp.rs` is to read: the prefix of a message with its
optional parts (`LppPrefix`), and its bits in the unaligned packed encoding (`LppPrefix.encode`).
The parser accepts exactly these (`parses_readLppPrefix`), whatever comes after them.
-/

namespace Rayhunter

/-! ## The bits -/

/-- A number in so many bits, the high one first. -/
def highFirst (width n : Nat) : List Bool := (Bits.toBits width n).reverse

/-- The bits of some bytes, the high one of each first. -/
def bitsOf (bytes : List UInt8) : List Bool := bytes.flatMap fun b => highFirst 8 b.toNat

theorem length_highFirst (width n : Nat) : (highFirst width n).length = width := by
  rw [highFirst, List.length_reverse, Bits.length_toBits]

/-- A bit is in the byte that has eight times as many bits before it. -/
theorem getElem?_bitsOf (bytes : List UInt8) (n : Nat) :
    (bitsOf bytes)[n]? = bytes[n / 8]?.map fun byte =>
      (byte >>> (7 - UInt8.ofNat (n % 8))) &&& 1 == 1 := by
  induction bytes generalizing n with
  | nil => simp [bitsOf]
  | cons byte bytes ih =>
    have hcons : bitsOf (byte :: bytes) = highFirst 8 byte.toNat ++ bitsOf bytes :=
      List.flatMap_cons ..
    rw [hcons]
    by_cases hn : n < 8
    · have hall : ∀ byte : UInt8, ∀ i < 8,
          (highFirst 8 byte.toNat)[i]? = some ((byte >>> (7 - UInt8.ofNat i)) &&& 1 == 1) :=
        Hex.forall_byte (by decide +kernel)
      rw [List.getElem?_append_left (by rwa [length_highFirst]), hall byte n hn,
        Nat.div_eq_of_lt hn, Nat.mod_eq_of_lt hn]
      rfl
    · obtain ⟨m, rfl⟩ := Nat.exists_eq_add_of_le (Nat.le_of_not_lt hn)
      rw [List.getElem?_append_right (by rw [length_highFirst]; omega), length_highFirst,
        Nat.add_sub_cancel_left, ih, Nat.add_mod_left, Nat.add_div_left m (by decide)]
      rfl

instance : Cursor BitReader Bool where
  rest reader := (bitsOf reader.bytes).drop reader.position
  skip n reader := { reader with position := reader.position + n }
  rest_skip n reader := (List.drop_drop ..).symm
  skip_zero _ := rfl
  skip_skip m n reader := by rw [Nat.add_assoc]

/-- A bit is read where there is one. -/
theorem parses_bit : Parses bit fun b ts => ts = [b] := by
  intro reader b reader'
  have hbit : bit reader = (Cursor.rest reader).head?.map
      (·, (Cursor.skip 1 reader : BitReader)) := by
    have hhead : (Cursor.rest reader).head? = (bitsOf reader.bytes)[reader.position]? :=
      List.head?_drop ..
    rw [hhead, getElem?_bitsOf]
    unfold bit
    cases reader.bytes[reader.position / 8]? <;> rfl
  rw [hbit]
  cases (Cursor.rest reader : List Bool) with
  | nil => simp
  | cons c cs =>
    rw [List.head?_cons, Option.map_some, Option.some.injEq, Prod.mk.injEq]
    constructor
    · rintro ⟨rfl, rfl⟩
      exact ⟨[c], rfl, List.prefix_append [c] cs, rfl⟩
    · rintro ⟨_, rfl, hpre, rfl⟩
      exact ⟨(List.cons_prefix_cons.1 hpre).1.symm, rfl⟩

theorem highFirst_succ (width n : Nat) :
    highFirst (width + 1) n = highFirst width (n / 2) ++ [n % 2 == 1] := List.reverse_cons ..

/-- A number is read in as many bits. -/
theorem parses_bits (n : Nat) :
    Parses (bits n) fun v ts => v < 2 ^ n ∧ ts = highFirst n v := by
  induction n with
  | zero =>
    refine (Parses.pure 0).congr fun v ts => ?_
    rw [Nat.pow_zero, Nat.lt_one_iff]
    rfl
  | succ n ih =>
    have hsucc : bits (n + 1) =
        bits n >>= fun value => bit >>= fun b => pure (2 * value + b.toNat) := by
      rw [bits, List.range_succ, List.foldlM_append]
      simp only [List.foldlM_cons, List.foldlM_nil, bind_pure]
      rfl
    rw [hsucc]
    refine (ih.bind fun value => parses_bit.bind fun b => .pure _).congr fun v ts => ?_
    constructor
    · rintro ⟨value, _, _, ⟨hvalue, rfl⟩, ⟨b, _, _, rfl, ⟨rfl, rfl⟩, rfl⟩, rfl⟩
      have hb := b.toNat_lt
      rw [highFirst_succ, Nat.pow_succ]
      refine ⟨by omega, ?_⟩
      rw [List.append_nil]
      congr 2
      · omega
      · cases b <;> simp
    · rintro ⟨hv, rfl⟩
      refine ⟨v / 2, _, _, ⟨?_, rfl⟩, ⟨v % 2 == 1, _, _, rfl, ⟨?_, rfl⟩, rfl⟩, ?_⟩
      · rw [Nat.pow_succ] at hv
        omega
      · rcases Nat.mod_two_eq_zero_or_one v with h | h <;> simp [h] <;> omega
      · rw [highFirst_succ, List.append_nil]

/-! ## The prefix -/

/-- `Acknowledgement` of 36.355. -/
structure LppAcknowledgement where
  ackRequested : Bool
  ackIndicator : Option UInt8
  deriving DecidableEq, Repr

/-- `LPP-MessageBody` of 36.355: one of the sixteen alternatives of `c1`, or the extension of the
class, which is empty. -/
inductive LppMessageBody
  | c1 (index : Fin 16)
  | messageClassExtension
  deriving DecidableEq, Repr

/-- `LPP-Message` of 36.355, as far as its prefix goes. -/
structure LppPrefix where
  transactionId : Option LppTransaction
  endTransaction : Bool
  sequenceNumber : Option UInt8
  acknowledgement : Option LppAcknowledgement
  messageBody : Option LppMessageBody
  deriving DecidableEq, Repr

/-- A number of eight bits. -/
def encodeNumber (n : UInt8) : List Bool := highFirst 8 n.toNat

/-- A transaction: neither it nor who started it is extended. -/
def encodeTransaction (t : LppTransaction) : List Bool :=
  [false, false, t.1 == .targetDevice] ++ encodeNumber t.2

def LppAcknowledgement.encode (a : LppAcknowledgement) : List Bool :=
  [a.ackIndicator.isSome, a.ackRequested] ++ a.ackIndicator.elim [] encodeNumber

def LppMessageBody.encode : LppMessageBody → List Bool
  | c1 index => false :: highFirst 4 index
  | messageClassExtension => [true]

namespace LppPrefix

/-- Which of the parts are there, and those that are. -/
def encode (v : LppPrefix) : List Bool :=
  [v.transactionId.isSome, v.sequenceNumber.isSome, v.acknowledgement.isSome,
      v.messageBody.isSome] ++
    v.transactionId.elim [] encodeTransaction ++ [v.endTransaction] ++
    v.sequenceNumber.elim [] encodeNumber ++ v.acknowledgement.elim [] LppAcknowledgement.encode ++
    v.messageBody.elim [] LppMessageBody.encode

/-- What a summary says of a body. -/
def kind : Option LppMessageBody → LppBody
  | some (.c1 index) => .ofIndex index
  | some .messageClassExtension => .reserved
  | none => .absent

/-- What the detectors are told of a prefix. -/
def summary (v : LppPrefix) : LppSummary := ⟨v.transactionId, v.endTransaction, kind v.messageBody⟩

end LppPrefix

/-! ## Reading it whole -/

def readNumber : BitReading UInt8 := UInt8.ofNat <$> bits 8

def readAcknowledgement : BitReading LppAcknowledgement := do
  let hasIndicator ← bit
  let requested ← bit
  let indicator ← optionally hasIndicator readNumber
  return ⟨requested, indicator⟩

def readMessageBody : BitReading LppMessageBody := do
  if ← bit then return .messageClassExtension
  else return .c1 (Fin.ofNat 16 (← bits 4))

/-- The prefix with all of its parts, of which `read_lpp_prefix` keeps the summary. -/
def readPrefix : BitReading LppPrefix := do
  let hasTransactionId ← bit
  let hasSequenceNumber ← bit
  let hasAcknowledgement ← bit
  let hasBody ← bit
  let transactionId ← optionally hasTransactionId readTransaction
  let endTransaction ← bit
  let sequenceNumber ← optionally hasSequenceNumber readNumber
  let acknowledgement ← optionally hasAcknowledgement readAcknowledgement
  let messageBody ← optionally hasBody readMessageBody
  return ⟨transactionId, endTransaction, sequenceNumber, acknowledgement, messageBody⟩

/-- Only numbers of so many bits are read. -/
theorem map_bits_congr {α : Type} {f g : Nat → α} {n : Nat} (h : ∀ v < 2 ^ n, f v = g v) :
    f <$> bits n = g <$> bits n := by
  funext reader
  change (bits n reader).bind (fun r => some (f r.1, r.2)) =
    (bits n reader).bind fun r => some (g r.1, r.2)
  cases hread : bits n reader with
  | none => rfl
  | some result =>
    obtain ⟨_, ⟨hv, -⟩, -⟩ := (parses_bits n reader result.1 result.2).1 hread
    rw [Option.bind_some, Option.bind_some, h _ hv]

theorem readIndex_eq :
    LppBody.ofIndex <$> bits 4 = (fun n => LppBody.ofIndex (Fin.ofNat 16 n)) <$> bits 4 :=
  map_bits_congr fun _ hv => congrArg LppBody.ofIndex (Nat.mod_eq_of_lt hv).symm

theorem readLppPrefix_eq : readLppPrefix = LppPrefix.summary <$> readPrefix := by
  have hite : ∀ {α β : Type} (c : Prop) [Decidable c] (p q : BitReading α) (f : α → BitReading β),
      (if c then p else q) >>= f = if c then p >>= f else q >>= f := by
    intro α β c _ p q f
    split <;> rfl
  unfold readLppPrefix readPrefix
  simp only [readIndex_eq]
  simp only [readAcknowledgement, readMessageBody, readNumber, optionally_bind, hite,
    map_eq_pure_bind, bind_assoc, pure_bind, LppPrefix.summary, LppPrefix.kind]

theorem parses_readNumber : Parses readNumber fun n ts => ts = encodeNumber n := by
  refine ((parses_bits 8).map UInt8.ofNat).congr fun n ts => ?_
  constructor
  · rintro ⟨v, ⟨hv, rfl⟩, rfl⟩
    rw [encodeNumber, UInt8.toNat_ofNat_of_lt' hv]
  · rintro rfl
    exact ⟨n.toNat, ⟨n.toNat_lt, rfl⟩, UInt8.ofNat_toNat.symm⟩

theorem readTransaction_eq :
    readTransaction = do
      let idExtended ← bit
      let extended ← bit
      if extended then failure
      else
        let target ← bit
        let number ← readNumber
        if idExtended then failure
        else return (if target then .targetDevice else .locationServer, number) := by
  have hfailure : ∀ {α β : Type} (f : α → BitReading β), failure >>= f = failure := fun _ => rfl
  unfold readTransaction
  simp only [readNumber, hfailure, map_eq_pure_bind, bind_assoc, pure_bind]

theorem parses_readTransaction : Parses readTransaction fun t ts => ts = encodeTransaction t := by
  rw [readTransaction_eq]
  refine (parses_bit.bind fun idExtended => parses_bit.bind fun extended =>
    (parses_bit.bind fun _ => parses_readNumber.bind fun _ =>
      (Parses.pure _).refusing idExtended).refusing extended).congr fun t ts => ?_
  constructor
  · rintro ⟨_, _, _, rfl, ⟨_, _, _, rfl, ⟨rfl, ⟨target, _, _, rfl, ⟨_, _, _, rfl, ⟨rfl, ⟨rfl, rfl⟩⟩,
      rfl⟩, rfl⟩⟩, rfl⟩, rfl⟩
    cases target <;> simp [encodeTransaction]
  · rintro rfl
    refine ⟨_, _, _, rfl, ⟨_, _, _, rfl, ⟨rfl, ⟨t.1 == .targetDevice, _, _, rfl, ⟨t.2, _, _, rfl,
      ⟨rfl, ⟨?_, rfl⟩⟩, rfl⟩, rfl⟩⟩, rfl⟩, ?_⟩
    · obtain ⟨initiator, number⟩ := t
      cases initiator <;> rfl
    · simp [encodeTransaction]

theorem parses_readAcknowledgement :
    Parses readAcknowledgement fun a ts => ts = a.encode := by
  refine (parses_bit.bind fun hasIndicator => parses_bit.bind fun requested =>
    (parses_readNumber.optional hasIndicator).bind fun indicator => .pure _).congr fun a ts => ?_
  constructor
  · rintro ⟨_, _, _, rfl, ⟨_, _, _, rfl, ⟨_, _, _, ⟨rfl, rfl⟩, ⟨rfl, rfl⟩, rfl⟩, rfl⟩, rfl⟩
    simp [LppAcknowledgement.encode]
  · rintro rfl
    exact ⟨_, _, _, rfl, ⟨_, _, _, rfl, ⟨_, _, _, ⟨rfl, rfl⟩, ⟨rfl, rfl⟩, rfl⟩, rfl⟩, by
      simp [LppAcknowledgement.encode]⟩

theorem parses_readMessageBody : Parses readMessageBody fun b ts => ts = b.encode := by
  have hc1 : Parses (do return .c1 (Fin.ofNat 16 (← bits 4)) : BitReading LppMessageBody)
      fun b ts => ∃ index : Fin 16, ts = highFirst 4 index ∧ b = .c1 index := by
    refine ((parses_bits 4).bind fun _ => .pure _).congr fun b ts => ?_
    constructor
    · rintro ⟨n, _, _, ⟨hn, rfl⟩, ⟨rfl, rfl⟩, rfl⟩
      refine ⟨Fin.ofNat 16 n, ?_, rfl⟩
      rw [List.append_nil, Fin.val_ofNat, Nat.mod_eq_of_lt (show n < 16 from hn)]
    · rintro ⟨index, rfl, rfl⟩
      refine ⟨index, _, _, ⟨index.isLt, rfl⟩, ⟨?_, rfl⟩, (List.append_nil _).symm⟩
      rw [Fin.ofNat_val_eq_self]
  have hbody : ∀ extended : Bool, Parses (if extended then pure .messageClassExtension else
      do return .c1 (Fin.ofNat 16 (← bits 4)) : BitReading LppMessageBody)
      fun b ts => extended :: ts = b.encode := by
    intro extended
    cases extended with
    | false =>
      refine hc1.congr fun b ts => ?_
      constructor
      · rintro ⟨index, rfl, rfl⟩
        rfl
      · cases b with
        | c1 index => exact fun h => ⟨index, (List.cons.inj h).2, rfl⟩
        | messageClassExtension => exact fun h => by cases h
    | true =>
      refine (Parses.pure _).congr fun b ts => ?_
      constructor
      · rintro ⟨rfl, rfl⟩
        rfl
      · cases b with
        | c1 index => exact fun h => by cases h
        | messageClassExtension => exact fun h => ⟨rfl, (List.cons.inj h).2⟩
  refine (parses_bit.bind hbody).congr fun b ts => ?_
  constructor
  · rintro ⟨_, _, _, rfl, h, rfl⟩
    exact h
  · rintro rfl
    cases b with
    | c1 index => exact ⟨false, [false], _, rfl, rfl, rfl⟩
    | messageClassExtension => exact ⟨true, [true], [], rfl, rfl, rfl⟩

theorem parses_readPrefix : Parses readPrefix fun v ts => ts = v.encode := by
  refine (parses_bit.bind fun hasTransactionId => parses_bit.bind fun hasSequenceNumber =>
    parses_bit.bind fun hasAcknowledgement => parses_bit.bind fun hasBody =>
    (parses_readTransaction.optional hasTransactionId).bind fun _ => parses_bit.bind fun _ =>
    (parses_readNumber.optional hasSequenceNumber).bind fun _ =>
    (parses_readAcknowledgement.optional hasAcknowledgement).bind fun _ =>
    (parses_readMessageBody.optional hasBody).bind fun _ => .pure _).congr fun v ts => ?_
  constructor
  · rintro ⟨_, _, _, rfl, ⟨_, _, _, rfl, ⟨_, _, _, rfl, ⟨_, _, _, rfl, ⟨_, _, _, ⟨rfl, rfl⟩,
      ⟨_, _, _, rfl, ⟨_, _, _, ⟨rfl, rfl⟩, ⟨_, _, _, ⟨rfl, rfl⟩, ⟨_, _, _, ⟨rfl, rfl⟩, ⟨rfl, rfl⟩, rfl⟩,
      rfl⟩, rfl⟩, rfl⟩, rfl⟩, rfl⟩, rfl⟩, rfl⟩, rfl⟩
    simp [LppPrefix.encode]
  · rintro rfl
    exact ⟨_, _, _, rfl, ⟨_, _, _, rfl, ⟨_, _, _, rfl, ⟨_, _, _, rfl, ⟨_, _, _, ⟨rfl, rfl⟩,
      ⟨_, _, _, rfl, ⟨_, _, _, ⟨rfl, rfl⟩, ⟨_, _, _, ⟨rfl, rfl⟩, ⟨_, _, _, ⟨rfl, rfl⟩, ⟨rfl, rfl⟩, rfl⟩,
      rfl⟩, rfl⟩, rfl⟩, rfl⟩, rfl⟩, rfl⟩, rfl⟩, by simp [LppPrefix.encode]⟩

/-- The parser of prefixes accepts their encodings. -/
theorem parses_readLppPrefix :
    Parses readLppPrefix fun s ts => ∃ v : LppPrefix, ts = v.encode ∧ s = v.summary := by
  rw [readLppPrefix_eq]
  exact parses_readPrefix.map LppPrefix.summary

/-! ## Decoding -/

theorem decodeLppPrefix_eq_some_iff {bytes : List UInt8} {s : LppSummary} :
    decodeLppPrefix bytes = some s ↔
      ∃ v : LppPrefix, v.encode <+: bitsOf bytes ∧ s = v.summary := by
  refine parses_readLppPrefix.run'_eq_some_iff.trans ?_
  constructor
  · rintro ⟨_, ⟨v, rfl, rfl⟩, hpre⟩
    exact ⟨v, hpre, rfl⟩
  · rintro ⟨v, hpre, rfl⟩
    exact ⟨_, ⟨v, rfl, rfl⟩, hpre⟩

theorem highFirst_ofBits (ts : List Bool) : highFirst ts.length (Bits.ofBits ts.reverse) = ts := by
  rw [highFirst, ← List.length_reverse, Bits.toBits_ofBits, List.reverse_reverse]

/-- Any bits begin some bytes. -/
theorem exists_bitsOf (n : Nat) {ts : List Bool} (h : ts.length ≤ 8 * n) :
    ∃ bytes, ts <+: bitsOf bytes := by
  induction n generalizing ts with
  | zero => exact ⟨[], by rw [List.eq_nil_of_length_eq_zero (Nat.le_zero.1 h)]; exact List.nil_prefix⟩
  | succ n ih =>
    obtain ⟨bytes, hbytes⟩ := ih (show (ts.drop 8).length ≤ 8 * n by
      rw [List.length_drop]
      omega)
    -- eight bits, where there are fewer with others after them
    have hlength : (ts.take 8 ++ List.replicate (8 - ts.length) false).length = 8 := by
      simp
      omega
    have hbyte := highFirst_ofBits (ts.take 8 ++ List.replicate (8 - ts.length) false)
    have hlt := Bits.ofBits_lt (ts.take 8 ++ List.replicate (8 - ts.length) false).reverse
    rw [List.length_reverse, hlength] at hlt
    rw [hlength] at hbyte
    refine ⟨UInt8.ofNat (Bits.ofBits
      (ts.take 8 ++ List.replicate (8 - ts.length) false).reverse) :: bytes, ?_⟩
    rw [bitsOf, List.flatMap_cons, UInt8.toNat_ofNat_of_lt' hlt, hbyte, ← bitsOf]
    by_cases hlong : 8 ≤ ts.length
    · rw [Nat.sub_eq_zero_of_le hlong, List.replicate_zero, List.append_nil]
      conv_lhs => rw [← List.take_append_drop 8 ts]
      exact (List.prefix_append_right_inj _).2 hbytes
    · rw [List.take_of_length_le (by omega), List.append_assoc]
      exact List.prefix_append ts _

/-- No encoding begins another. -/
theorem LppPrefix.encode_of_prefix {v w : LppPrefix} (h : v.encode <+: w.encode) :
    v.encode = w.encode := by
  obtain ⟨bytes, hbytes⟩ := exists_bitsOf w.encode.length (Nat.le_mul_of_pos_left _ (by decide))
  have hread : w.encode <+: Cursor.rest (⟨bytes, 0⟩ : BitReader) := hbytes
  exact (parses_readPrefix.unambiguous rfl rfl (h.trans hread) hread).2

/-- **The prefixes of messages are what is accepted**, with whatever bits after them; an extended
transaction and a prefix that is cut are not, and what is read in detail has the same summary. -/
theorem decodeLppPrefix_grammar (bytes : List UInt8) :
    (∀ summary, decodeLppPrefix bytes = some summary ↔
      ∃ v rest, bitsOf bytes = LppPrefix.encode v ++ rest ∧ summary = v.summary) ∧
    (∀ hasSequence hasAcknowledgement hasBody idExtended initiatorExtended rest,
      bitsOf bytes =
        [true, hasSequence, hasAcknowledgement, hasBody, idExtended, initiatorExtended] ++ rest →
      (idExtended ∨ initiatorExtended) → decodeLppPrefix bytes = none) ∧
    (∀ v : LppPrefix, bitsOf bytes <+: v.encode → bitsOf bytes ≠ v.encode →
      decodeLppPrefix bytes = none) ∧
    ∀ detail, decodeLppDetail bytes = some detail →
      decodeLppPrefix bytes = some detail.summary := by
  refine ⟨fun summary => ?_, fun _ _ _ idExtended initiatorExtended rest hbits hset => ?_,
    fun v hpre hne => ?_, fun detail h => ?_⟩
  · refine decodeLppPrefix_eq_some_iff.trans ⟨?_, ?_⟩
    · rintro ⟨v, ⟨rest, hrest⟩, rfl⟩
      exact ⟨v, rest, hrest.symm, rfl⟩
    · rintro ⟨v, rest, hrest, rfl⟩
      exact ⟨v, ⟨rest, hrest.symm⟩, rfl⟩
  · rw [Option.eq_none_iff_forall_ne_some]
    intro s hs
    obtain ⟨v, ⟨tail, htail⟩, -⟩ := decodeLppPrefix_eq_some_iff.1 hs
    rw [hbits] at htail
    unfold LppPrefix.encode at htail
    cases ht : v.transactionId with
    | none => simp [ht] at htail
    | some t => simp_all [encodeTransaction]
  · rw [Option.eq_none_iff_forall_ne_some]
    intro s hs
    obtain ⟨w, hw, -⟩ := decodeLppPrefix_eq_some_iff.1 hs
    have heq := LppPrefix.encode_of_prefix (hw.trans hpre)
    exact hne (hpre.eq_of_length (Nat.le_antisymm hpre.length_le (heq ▸ hw.length_le)))
  · obtain ⟨reader, -, hread, -⟩ := decodeLppDetail_eq_some h
    exact congrArg (Option.map Prod.fst) hread

/-- A location request of transaction 5, one that is extended, and one that is cut. -/
theorem decodeLppPrefix_grammar_request :
    decodeLppPrefix [0x90, 0x0a, 0x20] =
        some ⟨some (.locationServer, 5), false, .requestLocationInformation⟩ ∧
      decodeLppPrefix [0x98, 0x0a, 0x20] = none ∧ decodeLppPrefix [0x90, 0x0a] = none := by
  let v : LppPrefix := ⟨some (.locationServer, 5), false, none, none, some (.c1 4)⟩
  refine ⟨((decodeLppPrefix_grammar [0x90, 0x0a, 0x20]).1 _).2 ⟨v, [false, false, false], ?_, ?_⟩,
    (decodeLppPrefix_grammar [0x98, 0x0a, 0x20]).2.1 false false true true false
      ((bitsOf [0x98, 0x0a, 0x20]).drop 6) ?_ (.inl rfl),
    (decodeLppPrefix_grammar [0x90, 0x0a]).2.2.1 v ?_ ?_⟩
  all_goals decide

end Rayhunter
