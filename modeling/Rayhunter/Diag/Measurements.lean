import Mathlib.Data.Rat.Defs
import Mathlib.Data.UInt

/-!
# Measurement records

What the physical layer reports of the serving cell and of its neighbours
(`lib/src/diag/diaglog/ml1.rs`). The powers are computed in `f32` from at most sixteen bits, by a
division by sixteen and a subtraction, which is exact; here they are rational numbers.
-/

namespace Rayhunter

/-- `decode_rsrp` (`ml1.rs:9`). -/
def decodeRsrp (rsrp : UInt16) : ℚ := rsrp.toNat / 16 - 180

/-- `decode_rssi` (`ml1.rs:13`). -/
def decodeRssi (rssi : UInt16) : ℚ := rssi.toNat / 16 - 110

/-- `decode_rsrq` (`ml1.rs:17`). -/
def decodeRsrq (rsrq : UInt16) : ℚ := rsrq.toNat / 16 - 30

/-! ## The serving cell -/

/-- `MeasurementAndEvaluationHeader` (`ml1.rs:44`). -/
inductive MeasurementAndEvaluationHeader
  | v4 (rrcRel : UInt8) (reserved earfcn pci : UInt16) (servLayerPriority : UInt8)
  | v5 (rrcRel : UInt8) (reserved : UInt16) (earfcn : UInt32) (pci : UInt16)
    (servLayerPriority : UInt8)
  deriving DecidableEq, Repr

/-- `MeasurementAndEvaluation` (`ml1.rs:26`). -/
structure MeasurementAndEvaluation where
  header : MeasurementAndEvaluationHeader
  measRsrp : UInt16
  avgRsrp : UInt16
  measRsrq : UInt16
  measRssi : UInt16
  rxlev : UInt32
  sSearch : UInt32
  r9Data : Option UInt32
  deriving DecidableEq, Repr

namespace MeasurementAndEvaluation

/-- `get_pci` (`ml1.rs:77`). -/
def getPci (m : MeasurementAndEvaluation) : UInt16 :=
  match m.header with
  | .v4 _ _ _ pci _ => pci
  | .v5 _ _ _ pci _ => pci

/-- `get_earfcn` (`ml1.rs:84`). -/
def getEarfcn (m : MeasurementAndEvaluation) : UInt32 :=
  match m.header with
  | .v4 _ _ earfcn _ _ => earfcn.toUInt32
  | .v5 _ _ earfcn _ _ => earfcn

end MeasurementAndEvaluation

/-! ## Its neighbours -/

/-- `MeasurementsHeader` (`ml1.rs:130`). -/
inductive MeasurementsHeader
  | v4 (rrcRel : UInt8) (reserved1 earfcn : UInt16) (qRxlevmin : UInt8) (nCells : UInt16)
  | v5 (rrcRel : UInt8) (reserved1 : UInt16) (earfcn : UInt32) (qRxlevmin : UInt8) (nCells : UInt32)
  deriving DecidableEq, Repr

/-- `MeasurementsCell` (`ml1.rs:188`). -/
structure MeasurementsCell where
  pci : UInt16
  measRssi : UInt16
  measRsrp : UInt16
  avgRsrp : UInt16
  measRsrq : UInt16
  avgRsrq : UInt16
  sRxlev : UInt8
  nFreqOffset : UInt16
  val5 : UInt16
  ant0Offset : UInt32
  ant1Offset : UInt32
  unk1 : UInt32
  deriving DecidableEq, Repr

/-- `Measurements` (`ml1.rs:171`), its cells counted by the header. -/
structure Measurements where
  header : MeasurementsHeader
  cells : List MeasurementsCell
  deriving DecidableEq, Repr

/-- `get_earfcn` (`ml1.rs:178`). -/
def Measurements.getEarfcn (m : Measurements) : UInt32 :=
  match m.header with
  | .v4 _ _ earfcn _ _ => earfcn.toUInt32
  | .v5 _ _ earfcn _ _ => earfcn

-- the powers of the first measurement the source's tests decode
example : decodeRsrp 1260 = -101.25 ∧ decodeRsrq 255 = -14.0625 ∧ decodeRssi 694 = -66.625 := by
  decide +kernel

end Rayhunter
