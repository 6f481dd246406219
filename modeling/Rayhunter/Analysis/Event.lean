import Mathlib.Order.Basic
import Mathlib.Order.MinMax
import Rayhunter.External

/-!
# Events and report rows

The data of `lib/src/analysis/analyzer.rs`: severities, events, the rows of an analysis report
and its metadata line.
-/

namespace Rayhunter

/-- The severity of an event, `EventType` (`analyzer.rs:79`). -/
inductive EventType
  | informational
  | low
  | medium
  | high
  deriving DecidableEq, Repr

namespace EventType

/-- The discriminant, which orders the severities. -/
def toNat : EventType → Nat
  | informational => 0
  | low => 1
  | medium => 2
  | high => 3

theorem toNat_injective : Function.Injective toNat := by
  intro a b h
  cases a <;> cases b <;> first | rfl | simp [toNat] at h

instance : LinearOrder EventType := LinearOrder.lift' toNat toNat_injective

instance : Std.LawfulOrderMax EventType where
  max_eq_or a b := max_choice a b
  max_le_iff _ _ _ := max_le_iff

theorem lt_def {a b : EventType} : a < b ↔ a.toNat < b.toNat := Iff.rfl

@[simp] theorem informational_le (t : EventType) : informational ≤ t := Nat.zero_le _

/-- Everything but the lowest severity is above it. -/
theorem informational_lt {t : EventType} : informational < t ↔ t ≠ informational := by
  cases t <;> simp [lt_def, toNat]

end EventType

/-- `Event` (`analyzer.rs:134`). -/
structure Event where
  eventType : EventType
  message : String
  deriving DecidableEq, Repr

/-- `AnalyzerMetadata` (`analyzer.rs:187`). -/
structure AnalyzerMetadata where
  name : String
  description : String
  version : Nat
  deriving DecidableEq, Repr

/-- `RuntimeMetadata` (`lib/src/util.rs:9`). -/
structure RuntimeMetadata where
  rayhunterVersion : String
  systemOs : String
  arch : String
  deriving DecidableEq, Repr

/-- The build that runs: what `RuntimeMetadata::new` (`lib/src/util.rs`) says of it. -/
class Build where
  runtimeMetadata : RuntimeMetadata

/-- A build for a device of the kind the code runs on. -/
@[reducible] def deviceBuild : Build := ⟨⟨"0.12.3", "Linux 3.18.48", "armv7l"⟩⟩

/-- `ReportMetadata` (`analyzer.rs:200`), the first line of a report. -/
structure ReportMetadata where
  analyzers : List AnalyzerMetadata
  rayhunter : RuntimeMetadata
  reportVersion : Nat
  deriving DecidableEq, Repr

/-- `REPORT_VERSION` (`analyzer.rs:72`). -/
def REPORT_VERSION : Nat := 3

/-- `AnalysisRow` (`analyzer.rs:259`): what the analysis says about one packet. -/
structure AnalysisRow where
  packetNum : Option Nat := none
  packetTimestamp : Option DateTime := none
  skippedMessageReason : Option String := none
  events : List (Option Event) := []
  deriving DecidableEq, Repr

namespace AnalysisRow

/-- The severities of the row's events, in order. -/
def severities (row : AnalysisRow) : List EventType :=
  (row.events.filterMap id).map Event.eventType

/-- `get_max_event_type` (`analyzer.rs:312`). -/
def getMaxEventType (row : AnalysisRow) : EventType :=
  row.severities.max?.getD .informational

/-- `contains_warnings` (`analyzer.rs:308`). -/
def containsWarnings (row : AnalysisRow) : Bool :=
  row.getMaxEventType != .informational

/-- `is_empty` (`analyzer.rs:304`): such a row is not written to the report. -/
def isEmpty (row : AnalysisRow) : Bool :=
  row.skippedMessageReason.isNone && !row.containsWarnings

/-- The row's severity is an upper bound of its events' severities. -/
theorem le_getMaxEventType {row : AnalysisRow} {t : EventType} (h : t ∈ row.severities) :
    t ≤ row.getMaxEventType := by
  rw [getMaxEventType]
  cases hm : row.severities.max? with
  | none => simp only [List.max?_eq_none_iff] at hm; rw [hm] at h; cases h
  | some m => exact (List.max?_eq_some_iff.1 hm).2 t h

/-- A row contains a warning exactly when one of its events is above Informational. -/
theorem containsWarnings_iff {row : AnalysisRow} :
    row.containsWarnings = true ↔ ∃ t ∈ row.severities, t ≠ .informational := by
  rw [containsWarnings, bne_iff_ne]
  constructor
  · intro h
    rw [getMaxEventType] at h
    cases hm : row.severities.max? with
    | none => rw [hm] at h; exact absurd rfl h
    | some m =>
      rw [hm] at h
      exact ⟨m, (List.max?_eq_some_iff.1 hm).1, h⟩
  · rintro ⟨t, ht, hne⟩ heq
    have hle := le_getMaxEventType ht
    rw [heq] at hle
    exact hne (le_antisymm hle (EventType.informational_le t))

/-- A row with a warning is written. -/
theorem isEmpty_of_containsWarnings {row : AnalysisRow} (h : row.containsWarnings = true) :
    row.isEmpty = false := by
  simp [isEmpty, h]

/-- The events of the row that are there: a severity belongs to one of them. -/
theorem mem_severities {row : AnalysisRow} {t : EventType} :
    t ∈ row.severities ↔ ∃ e : Event, some e ∈ row.events ∧ e.eventType = t := by
  simp [severities]

end AnalysisRow

end Rayhunter
