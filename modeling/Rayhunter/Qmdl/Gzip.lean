import Mathlib.Logic.Function.Iterate
import Rayhunter.Store.Disk

/-!
# Gzip

`async_compression`'s gzip encoder and decoder, which recordings are written and read through, are
a parameter (`Gzip`); what is assumed of it is that it is lossless (`Gzip.Lossless`). `storedGzip`
is a codec of the format that stores its input, which is one way to meet it.
-/

namespace Rayhunter

/-- What an encoder is asked to do before it is shut down. -/
inductive GzipOp
  | write (data : List UInt8)
  | flush
  deriving DecidableEq, Repr

/-- The bytes an encoder was given. -/
def GzipOp.written (ops : List GzipOp) : List UInt8 :=
  ops.flatMap fun
    | .write data => data
    | .flush => []

/-- Nothing an encoder was given is left in its buffers. -/
def GzipOp.Settled (ops : List GzipOp) (finished : Bool) : Prop :=
  finished = true ∨ ops.getLast? = some .flush

/-- `GzipEncoder` and `GzipDecoder`: the bytes an encoder has put out, with or without having been
shut down, and the bytes a decoder gets out of a stream with the error it then meets. -/
class Gzip where
  encode : List GzipOp → Bool → List UInt8
  decode : List UInt8 → List UInt8 × Option IoError

/-- A lossless codec of the format. An encoder puts out more and takes nothing back; once it has
been flushed or shut down, its output starts with the two bytes of the format and gives back what
it was given, before the end of the stream or an end that comes too early. -/
structure Gzip.Lossless [Gzip] : Prop where
  encode_nil : Gzip.encode [] false = []
  encode_append : ∀ ops more finished, Gzip.encode ops false <+: Gzip.encode (ops ++ more) finished
  magic : ∀ ops finished, GzipOp.Settled ops finished →
    ∃ rest, Gzip.encode ops finished = 0x1f :: 0x8b :: rest
  decode_encode : ∀ ops finished, GzipOp.Settled ops finished →
    (Gzip.decode (Gzip.encode ops finished)).1 = GzipOp.written ops
  decode_end : ∀ ops finished, GzipOp.Settled ops finished →
    ∀ e, (Gzip.decode (Gzip.encode ops finished)).2 = some e → e.kind = .unexpectedEof

/-! ## A codec that stores -/

/-- The largest number of bytes one stored block holds. -/
def storedMax : Nat := 65535

/-- Two bytes of a number, the low one first. -/
def le16 (n : Nat) : List UInt8 := [UInt8.ofNat n, UInt8.ofNat (n / 256)]

/-- Four bytes of a number, the low one first. -/
def le32 (n : UInt32) : List UInt8 := le16 n.toNat ++ le16 (n.toNat / 65536)

/-- One bit of the division that `CRC-32` is. -/
def crc32Bit (crc : UInt32) : UInt32 :=
  if crc &&& 1 = 1 then (crc >>> 1) ^^^ 0xedb88320 else crc >>> 1

/-- `CRC-32`, which the trailer of a stream holds. -/
def crc32 (data : List UInt8) : UInt32 :=
  data.foldl (fun crc b => crc32Bit^[8] (crc ^^^ b.toUInt32)) 0xffffffff ^^^ 0xffffffff

-- the checksum of the digits 1 to 9
example : crc32 [49, 50, 51, 52, 53, 54, 55, 56, 57] = 0xcbf43926 := by decide +kernel

/-- A stored block: whether it is the last, its length twice, the second time inverted, its data. -/
def storedBlock (last : Bool) (data : List UInt8) : List UInt8 :=
  (if last then 1 else 0) :: (le16 data.length ++ le16 (storedMax - data.length) ++ data)

/-- Stored blocks that hold some bytes. -/
def storedBlocks (data : List UInt8) : List UInt8 :=
  if data = [] then []
  else storedBlock false (data.take storedMax) ++ storedBlocks (data.drop storedMax)
termination_by data.length
decreasing_by
  have : data.length ≠ 0 := by simpa using ‹¬ data = []›
  simp only [List.length_drop, storedMax]
  omega

/-- The header of a stream that names no file and no time. -/
def storedHeader : List UInt8 := [0x1f, 0x8b, 8, 0, 0, 0, 0, 0, 0, 0xff]

/-- The blocks for some operations; a flush is an empty block. -/
def storedBody (ops : List GzipOp) : List UInt8 :=
  ops.flatMap fun
    | .write data => storedBlocks data
    | .flush => storedBlock false []

/-- The last block and the trailer. -/
def storedTrailer (data : List UInt8) : List UInt8 :=
  storedBlock true [] ++ le32 (crc32 data) ++ le32 (UInt32.ofNat data.length)

/-- The bytes in some stored blocks, and whether the last one is among them. -/
def readBlocks : List UInt8 → List UInt8 × Bool
  | 0 :: lo :: hi :: _ :: _ :: rest =>
    let p := readBlocks (rest.drop (lo.toNat + 256 * hi.toNat))
    (rest.take (lo.toNat + 256 * hi.toNat) ++ p.1, p.2)
  | 1 :: _ => ([], true)
  | _ => ([], false)
termination_by l => l.length
decreasing_by simp only [List.length_drop, List.length_cons]; omega

/-- The end of a stream that is cut off. -/
def streamCutOff : IoError := ⟨.unexpectedEof, "unexpected end of file"⟩

/-- The encoder's output. -/
def storedEncode (ops : List GzipOp) (finished : Bool) : List UInt8 :=
  if ops = [] ∧ finished = false then []
  else storedHeader ++ storedBody ops ++
    if finished then storedTrailer (GzipOp.written ops) else []

/-- The decoder's. -/
def storedDecode (stream : List UInt8) : List UInt8 × Option IoError :=
  let p := readBlocks (stream.drop storedHeader.length)
  (p.1, if p.2 then none else some streamCutOff)

/-- Gzip with stored blocks. -/
@[reducible] def storedGzip : Gzip where
  encode := storedEncode
  decode := storedDecode

/-- A block is read back, whatever follows it. -/
theorem readBlocks_storedBlock {data : List UInt8} (h : data.length ≤ storedMax)
    (rest : List UInt8) : readBlocks (storedBlock false data ++ rest) =
      (data ++ (readBlocks rest).1, (readBlocks rest).2) := by
  have hlen : (UInt8.ofNat data.length).toNat + 256 * (UInt8.ofNat (data.length / 256)).toNat =
      data.length := by
    simp only [storedMax] at h
    simp only [UInt8.toNat_ofNat']
    omega
  simp only [storedBlock, Bool.false_eq_true, if_false, le16, List.cons_append, List.nil_append]
  rw [readBlocks, hlen]
  simp

/-- Blocks are read back, whatever follows them. -/
theorem readBlocks_storedBlocks (data rest : List UInt8) :
    readBlocks (storedBlocks data ++ rest) =
      (data ++ (readBlocks rest).1, (readBlocks rest).2) := by
  induction data using storedBlocks.induct with
  | case1 => simp [storedBlocks]
  | case2 data hne ih =>
    rw [storedBlocks, if_neg hne, List.append_assoc,
      readBlocks_storedBlock (List.length_take_le _ _), ih]
    simp only [← List.append_assoc, List.take_append_drop]

/-- What was written is read back, whatever follows the blocks. -/
theorem readBlocks_storedBody (ops : List GzipOp) (rest : List UInt8) :
    readBlocks (storedBody ops ++ rest) =
      (GzipOp.written ops ++ (readBlocks rest).1, (readBlocks rest).2) := by
  induction ops with
  | nil => simp [storedBody, GzipOp.written]
  | cons op ops ih =>
    simp only [storedBody, GzipOp.written, List.flatMap_cons, List.append_assoc] at ih ⊢
    cases op with
    | write data => simp only [readBlocks_storedBlocks, ih]
    | flush =>
      have hflush := readBlocks_storedBlock (show ([] : List UInt8).length ≤ storedMax by simp)
      simp only [hflush, ih, List.nil_append]

theorem not_empty_of_settled {ops : List GzipOp} {finished : Bool}
    (h : GzipOp.Settled ops finished) : ¬ (ops = [] ∧ finished = false) := by
  rintro ⟨rfl, rfl⟩
  rcases h with h | h <;> cases h

/-- The decoder gets back what the encoder was given. -/
theorem storedDecode_storedEncode {ops : List GzipOp} {finished : Bool}
    (h : GzipOp.Settled ops finished) :
    (storedDecode (storedEncode ops finished)).1 = GzipOp.written ops := by
  simp only [storedEncode, storedDecode, if_neg (not_empty_of_settled h), List.append_assoc,
    List.drop_left, readBlocks_storedBody]
  cases finished with
  | true => simp [storedTrailer, storedBlock, readBlocks]
  | false => simp [readBlocks]

/-- The encoder only adds to its output. -/
theorem storedEncode_append (ops more : List GzipOp) (finished : Bool) :
    storedEncode ops false <+: storedEncode (ops ++ more) finished := by
  unfold storedEncode
  by_cases hnil : ops = []
  · simp [hnil]
  · have hmore : ¬ (ops ++ more = [] ∧ finished = false) := by simp [hnil]
    rw [if_neg (by simpa using hnil), if_neg hmore]
    refine ⟨storedBody more ++ if finished then storedTrailer (GzipOp.written (ops ++ more)) else [],
      ?_⟩
    simp [storedBody]

/-- The codec that stores is lossless. -/
theorem storedGzip_lossless : @Gzip.Lossless storedGzip := by
  let _ := storedGzip
  refine ⟨by decide, storedEncode_append, fun ops finished h => ?_,
    fun ops finished h => storedDecode_storedEncode h, fun ops finished _ e he => ?_⟩
  · have hne : storedEncode ops finished = _ := if_neg (not_empty_of_settled h)
    exact ⟨_, hne⟩
  · have hend : (if (readBlocks ((storedEncode ops finished).drop storedHeader.length)).2 then none
        else some streamCutOff) = some e := he
    split at hend
    · cases hend
    · cases hend; rfl

end Rayhunter
