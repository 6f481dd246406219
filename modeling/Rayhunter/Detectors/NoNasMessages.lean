import Rayhunter.Detectors.Element
import Rayhunter.External
import Rayhunter.Lib.LongestRun

/-!
# A recording without NAS messages

`NoNasMessagesAnalyzer` of `lib/src/analysis/no_nas_messages.rs`. It is told of every packet, also of
those it cannot read, and warns once five minutes have gone by without a NAS message. The time is
measured from a mark that is moved where the clock jumps: between the mark and the packet lies the
longest run of packets over which the clock has gone forward in small steps (`Follows`), so the
warning comes at the first packet at which that run is long enough (`warns_iff`).
-/

namespace Rayhunter

/-- `NAS_TIMEOUT` (`no_nas_messages.rs:8`), in nanoseconds. -/
def NAS_TIMEOUT : Int := 5 * 60 * 1000000000

/-- `NoNasMessagesAnalyzer` (`no_nas_messages.rs:11`). -/
structure NoNasMessagesAnalyzer where
  firstTimestamp : Option DateTime
  latestTimestamp : Option DateTime
  finished : Bool
  deriving DecidableEq, Repr

/-- `is_nas` (`no_nas_messages.rs:23`). -/
def isNas : Analysis.InformationElement → Bool
  | .lte (.nas _) => true
  | _ => false

namespace NoNasMessagesAnalyzer

/-- `new` (`no_nas_messages.rs:18`). -/
def new : NoNasMessagesAnalyzer where
  firstTimestamp := none
  latestTimestamp := none
  finished := false

/-- The event (`no_nas_messages.rs:81`). -/
def silentEvent : Event := ⟨.low, "No NAS messages seen in 5 minutes, SIM possibly not working"⟩

/-- `report_skipped_packet` (`no_nas_messages.rs:57`). -/
def reportSkippedPacket (a : NoNasMessagesAnalyzer) (timestamp : DateTime) :
    Option Event × NoNasMessagesAnalyzer :=
  if a.finished then (none, a)
  else
    let isDiscontinuous := a.latestTimestamp.any fun latestTimestamp =>
      timestamp.nanos < latestTimestamp.nanos ||
        NAS_TIMEOUT ≤ timestamp.nanos - latestTimestamp.nanos
    let a := if isDiscontinuous then { a with firstTimestamp := some timestamp } else a
    let firstTimestamp := a.firstTimestamp.getD timestamp
    let a := { a with
      latestTimestamp := some timestamp
      firstTimestamp := some firstTimestamp }
    if timestamp.nanos - firstTimestamp.nanos < NAS_TIMEOUT then (none, a)
    else (some silentEvent, { a with finished := true })

/-- `analyze_information_element` (`no_nas_messages.rs:45`). -/
def analyzeInformationElement (a : NoNasMessagesAnalyzer) (ie : Analysis.InformationElement)
    (timestamp : DateTime) : Option Event × NoNasMessagesAnalyzer :=
  let a := if isNas ie then { a with finished := true } else a
  a.reportSkippedPacket timestamp

/-- A packet as the detector is told of it: with what is in it, where that can be read. -/
structure Packet where
  ie : Option Analysis.InformationElement
  timestamp : DateTime
  deriving DecidableEq, Repr

/-- Whether it is a NAS message. -/
def Packet.isNas (p : Packet) : Bool := p.ie.any Rayhunter.isNas

/-- The detector is told of a packet. -/
def hear (a : NoNasMessagesAnalyzer) (p : Packet) : Option Event × NoNasMessagesAnalyzer :=
  match p.ie with
  | some ie => a.analyzeInformationElement ie p.timestamp
  | none => a.reportSkippedPacket p.timestamp

/-! ## The clock -/

/-- From one packet to the next the clock goes forward, and not by as much as the limit. -/
def GoesOn (p q : Packet) : Prop :=
  p.timestamp.nanos ≤ q.timestamp.nanos ∧ q.timestamp.nanos - p.timestamp.nanos < NAS_TIMEOUT

/-- From the first to the last packet as much time passes as the limit. -/
def Spans (run : List Packet) : Prop :=
  ∃ first ∈ run.head?, ∃ last ∈ run.getLast?,
    NAS_TIMEOUT ≤ last.timestamp.nanos - first.timestamp.nanos

/-- The marks are at the ends of these packets. -/
def marked (run : List Packet) : NoNasMessagesAnalyzer where
  firstTimestamp := run.head?.map (·.timestamp)
  latestTimestamp := run.getLast?.map (·.timestamp)
  finished := false

/-- The detector after these packets. -/
abbrev told (packets : List Packet) : NoNasMessagesAnalyzer := Mealy.after hear new packets

/-- What it has said to them. -/
abbrev warnings (packets : List Packet) : List (Option Event) := Mealy.answers hear new packets

/-- There was a NAS message among these packets, or a warning. -/
def Settled (packets : List Packet) : Prop :=
  (∃ p ∈ packets, p.isNas = true) ∨ ∃ e ∈ warnings packets, e.isSome = true

/-- The detector has finished where there was a NAS message or a warning, and else its marks are at
the two ends of the longest run of packets. -/
structure Follows (packets : List Packet) : Prop where
  finished : (told packets).finished = true ↔ Settled packets
  run : (told packets).finished = false →
    ∃ run, LongestRun GoesOn packets run ∧ told packets = marked run

variable {a : NoNasMessagesAnalyzer} {p : Packet} {packets run : List Packet}

/-! ### One packet -/

theorem hear_of_finished (h : a.finished = true) : a.hear p = (none, a) := by
  unfold hear analyzeInformationElement reportSkippedPacket
  cases hie : p.ie with
  | none => simp [h]
  | some ie =>
    by_cases hnas : isNas ie = true
    · simp only [hnas, if_pos]
      exact Prod.ext rfl (by rw [← h])
    · simp [hnas, h]

theorem hear_of_isNas (h : p.isNas = true) :
    (a.hear p).1 = none ∧ (a.hear p).2.finished = true := by
  unfold Packet.isNas at h
  unfold hear analyzeInformationElement reportSkippedPacket
  cases hie : p.ie with
  | none => simp [hie] at h
  | some ie =>
    have hnas : isNas ie = true := by simpa [hie] using h
    simp [hnas]

theorem hear_of_not_isNas (h : p.isNas = false) : a.hear p = a.reportSkippedPacket p.timestamp := by
  unfold Packet.isNas at h
  unfold hear analyzeInformationElement
  cases hie : p.ie with
  | none => rfl
  | some ie =>
    have hnas : isNas ie = false := by simpa [hie] using h
    simp [hnas]

theorem spans_iff {first : Packet} (hfirst : run.head? = some first)
    (hlast : run.getLast? = some p) :
    Spans run ↔ NAS_TIMEOUT ≤ p.timestamp.nanos - first.timestamp.nanos := by
  simp [Spans, hfirst, hlast]

/-- A packet that the clock goes on to leaves the first mark where it is. -/
theorem reportSkippedPacket_goesOn {first : Packet} (hgo : ∀ y ∈ run.getLast?, GoesOn y p)
    (hfirst : (run ++ [p]).head? = some first) :
    (marked run).reportSkippedPacket p.timestamp =
      if NAS_TIMEOUT ≤ p.timestamp.nanos - first.timestamp.nanos then
        (some silentEvent, { marked (run ++ [p]) with finished := true })
      else (none, marked (run ++ [p])) := by
  have hcont : (run.getLast?.map (·.timestamp)).any (fun latestTimestamp =>
      p.timestamp.nanos < latestTimestamp.nanos ||
        NAS_TIMEOUT ≤ p.timestamp.nanos - latestTimestamp.nanos) = false := by
    cases hlast : run.getLast? with
    | none => rfl
    | some y =>
      obtain ⟨hle, hlt⟩ := hgo y hlast
      simp [not_lt.2 hle, not_le.2 hlt]
  have hmark : (run.head?.map (·.timestamp)).getD p.timestamp = first.timestamp := by
    cases run with
    | nil => cases hfirst; rfl
    | cons y run => cases hfirst; rfl
  have hmarked : marked (run ++ [p]) = ⟨some first.timestamp, some p.timestamp, false⟩ := by
    rw [marked, hfirst, List.getLast?_concat]
    rfl
  rw [hmarked]
  unfold reportSkippedPacket
  simp only [marked, hcont, hmark, Bool.false_eq_true, if_false]
  by_cases hlong : NAS_TIMEOUT ≤ p.timestamp.nanos - first.timestamp.nanos
  · rw [if_pos hlong, if_neg (not_lt.2 hlong)]
  · rw [if_neg hlong, if_pos (not_le.1 hlong)]

/-- A packet that it jumps to moves the mark. -/
theorem reportSkippedPacket_jumps {y : Packet} (hy : y ∈ run.getLast?) (hjump : ¬ GoesOn y p) :
    (marked run).reportSkippedPacket p.timestamp = (none, marked [p]) := by
  have hlast : run.getLast? = some y := hy
  have hdisc : (run.getLast?.map (·.timestamp)).any (fun latestTimestamp =>
      p.timestamp.nanos < latestTimestamp.nanos ||
        NAS_TIMEOUT ≤ p.timestamp.nanos - latestTimestamp.nanos) = true := by
    rw [hlast]
    simpa [GoesOn, or_iff_not_imp_left] using hjump
  unfold reportSkippedPacket
  simp only [marked, hdisc, if_true, Bool.false_eq_true, if_false, Option.getD_some, Int.sub_self]
  rfl

/-- After one more packet the marks are at the ends of the longest run again, and there is a warning
exactly if it is long enough. -/
theorem reportSkippedPacket_run (h : LongestRun GoesOn packets run) (p : Packet) :
    ∃ run', LongestRun GoesOn (packets ++ [p]) run' ∧
      (Spans run' ∧ (marked run).reportSkippedPacket p.timestamp =
          (some silentEvent, { marked run' with finished := true }) ∨
        ¬ Spans run' ∧ (marked run).reportSkippedPacket p.timestamp = (none, marked run')) := by
  by_cases hgo : ∀ y ∈ run.getLast?, GoesOn y p
  · refine ⟨run ++ [p], h.concat hgo, ?_⟩
    obtain ⟨first, hfirst⟩ : ∃ first, (run ++ [p]).head? = some first := by
      cases run with
      | nil => exact ⟨p, rfl⟩
      | cons y run => exact ⟨y, rfl⟩
    rw [reportSkippedPacket_goesOn hgo hfirst,
      spans_iff hfirst List.getLast?_concat]
    split
    · next hlong => exact .inl ⟨hlong, rfl⟩
    · next hlong => exact .inr ⟨hlong, rfl⟩
  · simp only [not_forall] at hgo
    obtain ⟨y, hy, hjump⟩ := hgo
    have hspans : Spans [p] ↔ NAS_TIMEOUT ≤ p.timestamp.nanos - p.timestamp.nanos :=
      spans_iff rfl rfl
    refine ⟨[p], h.restart hy hjump, .inr ⟨?_, reportSkippedPacket_jumps hy hjump⟩⟩
    rw [hspans, Int.sub_self]
    decide

/-! ### All packets -/

theorem told_concat (packets : List Packet) (p : Packet) :
    told (packets ++ [p]) = ((told packets).hear p).2 := by
  rw [told, Mealy.after_append]
  rfl

theorem settled_concat : Settled (packets ++ [p]) ↔
    Settled packets ∨ p.isNas = true ∨ ((told packets).hear p).1.isSome = true := by
  have hwarnings : warnings (packets ++ [p]) = warnings packets ++ [((told packets).hear p).1] := by
    rw [warnings, Mealy.answers_append]
    rfl
  simp only [Settled, hwarnings, List.mem_append, List.mem_singleton, or_and_right, exists_or,
    exists_eq_left]
  exact or_or_or_comm

/-- Where the detector has finished, it says no more. -/
theorem Follows.concat_of_finished (h : Follows packets)
    (hfinished : (told packets).finished = true) (p : Packet) :
    Follows (packets ++ [p]) ∧ ((told packets).hear p).1 = none := by
  have heq := hear_of_finished (p := p) hfinished
  have hfinished' : (told (packets ++ [p])).finished = true := by
    rw [told_concat, heq, hfinished]
  refine ⟨⟨iff_of_true hfinished' ?_, fun hnot => ?_⟩, by rw [heq]⟩
  · exact settled_concat.2 (.inl (h.finished.1 hfinished))
  · rw [hfinished'] at hnot
    cases hnot

theorem follows_concat_of_isNas (hnas : p.isNas = true) : Follows (packets ++ [p]) := by
  have hfinished : (told (packets ++ [p])).finished = true := by
    rw [told_concat, (hear_of_isNas hnas).2]
  refine ⟨iff_of_true hfinished (settled_concat.2 (.inr (.inl hnas))), fun hnot => ?_⟩
  rw [hfinished] at hnot
  cases hnot

/-- A packet that is no NAS message is warned of exactly if the run that ends with it is long
enough. -/
theorem Follows.concat_of_silent (h : Follows packets) (hquiet : ¬ Settled packets)
    (hnas : p.isNas = false) :
    Follows (packets ++ [p]) ∧
      (((told packets).hear p).1.isSome = true ↔
        ∃ run, LongestRun GoesOn (packets ++ [p]) run ∧ Spans run) := by
  have hfinished : (told packets).finished = false :=
    Bool.eq_false_iff.2 fun hf => hquiet (h.finished.1 hf)
  obtain ⟨before, hbefore, hmarked⟩ := h.run hfinished
  obtain ⟨run, hrun, ⟨hspans, heq⟩ | ⟨hspans, heq⟩⟩ := reportSkippedPacket_run hbefore p <;>
    rw [← hmarked, ← hear_of_not_isNas hnas] at heq
  · refine ⟨⟨?_, ?_⟩, iff_of_true (by rw [heq]; rfl) ⟨run, hrun, hspans⟩⟩
    · rw [told_concat, settled_concat, heq]
      exact iff_of_true rfl (.inr (.inr rfl))
    · rw [told_concat, heq]
      exact nofun
  · refine ⟨⟨?_, ?_⟩, iff_of_false (by rw [heq]; exact nofun) ?_⟩
    · rw [told_concat, settled_concat, heq]
      refine iff_of_false nofun ?_
      simpa [hnas] using hquiet
    · rw [told_concat, heq]
      exact fun _ => ⟨run, hrun, rfl⟩
    · rintro ⟨other, hother, hspans'⟩
      exact hspans (hrun.unique hother ▸ hspans')

/-- Whatever packets come, the detector follows them. -/
theorem follows (packets : List Packet) : Follows packets := by
  induction packets using List.reverseRecOn with
  | nil =>
    exact ⟨iff_of_false nofun (by simp [Settled]), fun _ => ⟨[], .nil, rfl⟩⟩
  | append_singleton packets p ih =>
    by_cases hsettled : Settled packets
    · exact (ih.concat_of_finished (ih.finished.2 hsettled) p).1
    · cases hnas : p.isNas with
      | true => exact follows_concat_of_isNas hnas
      | false => exact (ih.concat_of_silent hsettled hnas).1

/-- What is said of a packet, in terms of those before it. -/
theorem hear_iff (packets : List Packet) (p : Packet) :
    ((told packets).hear p).1.isSome = true ↔ ¬ Settled packets ∧ p.isNas = false ∧
      ∃ run, LongestRun GoesOn (packets ++ [p]) run ∧ Spans run := by
  have hfollows := follows packets
  by_cases hsettled : Settled packets
  · have hnone := (hfollows.concat_of_finished (hfollows.finished.2 hsettled) p).2
    simp [hnone, hsettled]
  · cases hnas : p.isNas with
    | true => simp [(hear_of_isNas (a := told packets) hnas).1]
    | false => simpa [hsettled] using (hfollows.concat_of_silent hsettled hnas).2

/-- There is at most one warning. -/
theorem warnings_le_one (packets : List Packet) :
    (warnings packets).countP Option.isSome ≤ 1 := by
  induction packets using List.reverseRecOn with
  | nil => exact Nat.zero_le 1
  | append_singleton packets p ih =>
    have hwarnings : warnings (packets ++ [p]) =
        warnings packets ++ [((told packets).hear p).1] := by
      rw [warnings, Mealy.answers_append]
      rfl
    rw [hwarnings, List.countP_append, List.countP_singleton]
    split
    · next hsome =>
      have hquiet := ((hear_iff packets p).1 hsome).1
      have hzero : (warnings packets).countP Option.isSome = 0 :=
        List.countP_eq_zero.2 fun e he hsome => hquiet (.inr ⟨e, he, hsome⟩)
      omega
    · exact ih

/-- **The detector warns at a packet exactly if there has been no NAS message up to it, no warning
before it, and the longest run of packets that ends with it, over which the clock goes forward in
steps below the limit, spans the limit**; and so it warns at most once. -/
theorem warns_iff (packets : List Packet) (p : Packet) :
    (((told packets).hear p).1.isSome = true ↔
      (∀ q ∈ packets ++ [p], q.isNas = false) ∧ (∀ e ∈ warnings packets, e = none) ∧
        ∃ run, LongestRun GoesOn (packets ++ [p]) run ∧ Spans run) ∧
      (warnings (packets ++ [p])).countP Option.isSome ≤ 1 := by
  refine ⟨?_, warnings_le_one (packets ++ [p])⟩
  have hquiet : ¬ Settled packets ↔
      (∀ q ∈ packets, q.isNas = false) ∧ ∀ e ∈ warnings packets, e = none := by
    simp [Settled, Option.isSome_iff_ne_none]
  rw [hear_iff, hquiet, List.forall_mem_append, List.forall_mem_singleton]
  tauto

end NoNasMessagesAnalyzer

end Rayhunter
