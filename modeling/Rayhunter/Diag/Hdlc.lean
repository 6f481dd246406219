import Mathlib.Logic.Function.Iterate

/-!
# HDLC framing

`hdlc_decapsulate` of `lib/src/hdlc.rs` and the constants of `lib/src/diag/mod.rs`: a frame is a
payload and its checksum, with two byte values escaped, and one terminator byte at the end.
-/

namespace Rayhunter

/-- `MESSAGE_TERMINATOR` (`diag/mod.rs:15`). -/
def MESSAGE_TERMINATOR : UInt8 := 0x7e

/-- `MESSAGE_ESCAPE_CHAR` (`diag/mod.rs:16`). -/
def MESSAGE_ESCAPE_CHAR : UInt8 := 0x7d

/-- `ESCAPED_MESSAGE_TERMINATOR` (`diag/mod.rs:18`). -/
def ESCAPED_MESSAGE_TERMINATOR : UInt8 := 0x5e

/-- `ESCAPED_MESSAGE_ESCAPE_CHAR` (`diag/mod.rs:19`). -/
def ESCAPED_MESSAGE_ESCAPE_CHAR : UInt8 := 0x5d

/-! ## The checksum -/

/-- One bit of the division by the reflected polynomial `0x1021`. -/
def crcBit (crc : UInt16) : UInt16 :=
  if crc &&& 1 = 1 then (crc >>> 1) ^^^ 0x8408 else crc >>> 1

/-- One byte of the checksum. -/
def crcByte (crc : UInt16) (b : UInt8) : UInt16 :=
  crcBit^[8] (crc ^^^ b.toUInt16)

/-- `CRC_CCITT.checksum` (`diag/mod.rs:82`): reflected, started and finished with `0xffff`. -/
def crcCcitt (data : List UInt8) : UInt16 := data.foldl crcByte 0xffff ^^^ 0xffff

-- the checksum of the digits 1 to 9; the `check` the algorithm declares is another, and not used
example : crcCcitt [49, 50, 51, 52, 53, 54, 55, 56, 57] = 0x906e := by decide +kernel

/-! ## Unwrapping a frame -/

/-- `HdlcError` (`hdlc.rs:16`). -/
inductive HdlcError
  | invalidChecksum (expected got : UInt16)
  | invalidEscapeSequence (b : UInt8)
  | noTrailingCharacter (b : UInt8)
  | missingChecksum
  | tooShort
  deriving DecidableEq, Repr

/-- The loop of `hdlc_decapsulate` that undoes the escapes; the flag is `escaping`. An escape with
nothing after it is dropped. -/
def unescape : Bool → List UInt8 → Except HdlcError (List UInt8)
  | _, [] => .ok []
  | true, b :: bs =>
    if b = ESCAPED_MESSAGE_TERMINATOR then (unescape false bs).map (MESSAGE_TERMINATOR :: ·)
    else if b = ESCAPED_MESSAGE_ESCAPE_CHAR then
      (unescape false bs).map (MESSAGE_ESCAPE_CHAR :: ·)
    else .error (.invalidEscapeSequence b)
  | false, b :: bs =>
    if b = MESSAGE_ESCAPE_CHAR then unescape true bs
    else (unescape false bs).map (b :: ·)

/-- What `hdlc_decapsulate` does with the unescaped bytes: the last two are the checksum, low byte
first. -/
def takeChecksum (unescaped : List UInt8) : Except HdlcError (List UInt8) :=
  match unescaped.reverse with
  | hi :: lo :: rest =>
    let payload := rest.reverse
    let checksum := lo.toUInt16 + (hi.toUInt16 <<< 8)
    if checksum = crcCcitt payload then .ok payload
    else .error (.invalidChecksum checksum (crcCcitt payload))
  | _ => .error .missingChecksum

/-- `hdlc_decapsulate` (`hdlc.rs:56`) with the checksum `CRC_CCITT`. -/
def hdlcDecapsulate (data : List UInt8) : Except HdlcError (List UInt8) :=
  if data.length < 3 then .error .tooShort
  else
    let last := data.getLast?.getD 0
    if last ≠ MESSAGE_TERMINATOR then .error (.noTrailingCharacter last)
    else
      match unescape false data.dropLast with
      | .error e => .error e
      | .ok unescaped => takeChecksum unescaped

end Rayhunter
