import Rayhunter.Lib.Json
import Rayhunter.Lib.Text

/-!
# What the modelled code takes from elsewhere

Errors of the operating system, instants, and the third-party crates the code calls: `chrono` for
writing and reading instants and `serde_json` for turning JSON values into text and back. The
crates are parameters, given as classes; what is assumed of them is stated where it is used.
-/

namespace Rayhunter

/-- `std::io::ErrorKind`, as far as the code tells kinds apart. -/
inductive ErrorKind
  | alreadyExists
  | notFound
  | unexpectedEof
  | invalidData
  | other
  deriving DecidableEq, Repr

/-- An instant with the offset it is shown in, `chrono::DateTime`. `nanos` counts from the Unix
epoch. -/
structure DateTime where
  nanos : Int
  offset : Int
  deriving DecidableEq, Repr

/-- Whole seconds since the Unix epoch, `DateTime::timestamp`. -/
def DateTime.timestamp (t : DateTime) : Int := t.nanos / 1000000000

/-- `chrono`: reading an instant from text, writing one, and `DateTime::from_timestamp`, which
fails outside the range of years `chrono` represents. -/
class Chrono where
  parseDateTime : String → Option DateTime
  formatDateTime : DateTime → String
  fromTimestamp : Int → Option DateTime

/-- An instant, and the text it is written as. -/
def anInstant : DateTime := ⟨1724038434000000000, 0⟩

/-- `chrono` on that instant and its text. -/
@[reducible] def oneInstant : Chrono where
  parseDateTime s := if s = "2024-08-19T03:33:54+00:00" then some anInstant else none
  formatDateTime _ := "2024-08-19T03:33:54+00:00"
  fromTimestamp n := some ⟨n * 1000000000, 0⟩

/-- `serde_json`: `fromStr` reads a text as the value it denotes, `toString` writes a value
compactly, and `usizeMax` is the largest number a `usize` of the target holds. -/
class SerdeJson where
  fromStr : String → Option Json
  toString : Json → String
  usizeMax : Nat

end Rayhunter
