import Mathlib.Algebra.Group.Nat.Defs

/-!
# SHA-256 and its HMAC

The hash `Sha256` and the keyed function `Hmac` makes of it.
-/

namespace Sha256

/-- `H(0)`. -/
def initial : List UInt32 :=
  [0x6a09e667, 0xbb67ae85, 0x3c6ef372, 0xa54ff53a, 0x510e527f, 0x9b05688c, 0x1f83d9ab, 0x5be0cd19]

/-- `K`. -/
def K : List UInt32 :=
  [0x428a2f98, 0x71374491, 0xb5c0fbcf, 0xe9b5dba5, 0x3956c25b, 0x59f111f1, 0x923f82a4, 0xab1c5ed5,
   0xd807aa98, 0x12835b01, 0x243185be, 0x550c7dc3, 0x72be5d74, 0x80deb1fe, 0x9bdc06a7, 0xc19bf174,
   0xe49b69c1, 0xefbe4786, 0x0fc19dc6, 0x240ca1cc, 0x2de92c6f, 0x4a7484aa, 0x5cb0a9dc, 0x76f988da,
   0x983e5152, 0xa831c66d, 0xb00327c8, 0xbf597fc7, 0xc6e00bf3, 0xd5a79147, 0x06ca6351, 0x14292967,
   0x27b70a85, 0x2e1b2138, 0x4d2c6dfc, 0x53380d13, 0x650a7354, 0x766a0abb, 0x81c2c92e, 0x92722c85,
   0xa2bfe8a1, 0xa81a664b, 0xc24b8b70, 0xc76c51a3, 0xd192e819, 0xd6990624, 0xf40e3585, 0x106aa070,
   0x19a4c116, 0x1e376c08, 0x2748774c, 0x34b0bcb5, 0x391c0cb3, 0x4ed8aa4a, 0x5b9cca4f, 0x682e6ff3,
   0x748f82ee, 0x78a5636f, 0x84c87814, 0x8cc70208, 0x90befffa, 0xa4506ceb, 0xbef9a3f7, 0xc67178f2]

/-- `ROTR`. -/
def rotr (n x : UInt32) : UInt32 := x >>> n ||| x <<< (32 - n)

/-- The message schedule, the latest word first; so many more words of it. -/
def schedule : Nat → List UInt32 → List UInt32
  | 0, w => w
  | n + 1, w =>
    let x := w.getD 1 0
    let y := w.getD 14 0
    let s0 := rotr 7 y ^^^ rotr 18 y ^^^ y >>> 3
    let s1 := rotr 17 x ^^^ rotr 19 x ^^^ x >>> 10
    schedule n ((s1 + w.getD 6 0 + s0 + w.getD 15 0) :: w)

/-- One turn of the compression, with a constant and a word of the schedule. -/
def turn : List UInt32 → UInt32 × UInt32 → List UInt32
  | [a, b, c, d, e, f, g, h], (k, w) =>
    let t1 := h + (rotr 6 e ^^^ rotr 11 e ^^^ rotr 25 e) + (e &&& f ^^^ ~~~e &&& g) + k + w
    let t2 := (rotr 2 a ^^^ rotr 13 a ^^^ rotr 22 a) + (a &&& b ^^^ a &&& c ^^^ b &&& c)
    [t1 + t2, a, b, c, d + t1, e, f, g]
  | s, _ => s

/-- The hash value after a block of 16 words. -/
def compress (s block : List UInt32) : List UInt32 :=
  s.zipWith (· + ·) ((K.zip (schedule 48 block.reverse).reverse).foldl turn s)

/-- Bytes as words. -/
def words : List UInt8 → List UInt32
  | a :: b :: c :: d :: rest =>
    (a.toUInt32 <<< 24 ||| b.toUInt32 <<< 16 ||| c.toUInt32 <<< 8 ||| d.toUInt32) :: words rest
  | _ => []

/-- The hash value after so many blocks. -/
def blocks : Nat → List UInt32 → List UInt32 → List UInt32
  | 0, s, _ => s
  | n + 1, s, w => blocks n (compress s (w.take 16)) (w.drop 16)

/-- A message with its padding. -/
def pad (message : List UInt8) : List UInt8 :=
  message ++ 0x80 :: List.replicate ((119 - message.length % 64) % 64) 0 ++
    (List.range 8).map fun i => UInt8.ofNat (8 * message.length / 2 ^ (8 * (7 - i)))

/-- The digest of a message. -/
def hash (message : List UInt8) : Vector UInt8 32 :=
  let padded := pad message
  let s := blocks (padded.length / 64) initial (words padded)
  Vector.ofFn fun i : Fin 32 => (s.getD (i / 4) 0 >>> UInt32.ofNat (24 - 8 * (i % 4))).toUInt8

/-- A key as it is used: its digest where it is longer than a block, with zeros behind it. -/
def blockKey (key : List UInt8) : List UInt8 :=
  let short := if 64 < key.length then (hash key).toList else key
  short ++ List.replicate (64 - short.length) 0

/-- HMAC. -/
def hmac (key message : List UInt8) : Vector UInt8 32 :=
  let key := blockKey key
  hash (key.map (· ^^^ 0x5c) ++ (hash (key.map (· ^^^ 0x36) ++ message)).toList)

end Sha256
