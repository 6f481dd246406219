import Rayhunter.Cleanup.Reanalysis
import Rayhunter.Recorder.Step

/-!
# Demonstrations

Messages of a demonstration are recorded like those off the air and take the detectors along like
them (`daemon/src/demo.rs`); what tells them apart is the label `analyze_demo_container` puts on the
events of their rows. The container alone knows that it was injected: the capture does not say so,
and `perform_analysis` labels nothing. An analysis of a recording is put beside the analysis of what
is in it off the air: no detectors whatever are taken in exactly where everything they are given and
not labelled comes to them as it would have without the demonstration (`demonstration_told_iff`).
-/

namespace Rayhunter

open Chunks

/-! ## Recordings -/

/-- A container of a recording, off the air or injected (`diag.rs:1110`). -/
structure Recorded where
  demo : Bool
  container : MessagesContainer

/-- A byte of a recording. One off the air has its place among the bytes off the air. -/
abbrev MarkedByte := Option Nat × UInt8

/-- The bytes of a message. Messages off the air have different ones, because of the places. -/
abbrev Frame := List MarkedByte

/-- A message that comes to an analysis, and whether the events of its row are labelled. -/
structure Packet where
  labelled : Bool
  frame : Frame

/-- The label of a packet's events (`diag.rs:802`). -/
def Packet.label (p : Packet) : Option String :=
  if p.labelled then some Recorder.DEMO_PREFIX else none

/-- An event of a packet, labelled where the packet is. -/
def Packet.tell (p : Packet) (e : Event) : Event :=
  if p.labelled then labelEvent Recorder.DEMO_PREFIX e else e

theorem labelRow_events (p : Packet) (row : AnalysisRow) :
    (labelRow p.label row).events = row.events.map (·.map p.tell) := by
  unfold Packet.label Packet.tell
  cases p.labelled with
  | true => rfl
  | false => simp [labelRow]

/-- The bytes of a message of the device, of which the first off the air is at `n`. -/
def markBytes (demo : Bool) (n : Nat) (data : List UInt8) : List MarkedByte :=
  if demo then data.map fun b => (none, b) else (data.zipIdx n).map fun b => (some b.2, b.1)

/-- The bytes of the messages of the device, and whether each was injected. -/
def markMessages (n : Nat) : List (Bool × List UInt8) → List (Bool × List MarkedByte)
  | [] => []
  | (demo, data) :: messages =>
    (demo, markBytes demo n data) ::
      markMessages (if demo then n else n + data.length) messages

namespace Recorded

/-- The data of the containers' messages. -/
def messages (recording : List Recorded) : List (Bool × List UInt8) :=
  recording.flatMap fun r => r.container.messages.map fun m => (r.demo, m.data)

/-- What is in a recording off the air. -/
def offTheAir (recording : List Recorded) : List Recorded := recording.filter fun r => !r.demo

/-- Whether a byte ends a message. -/
def ends (b : MarkedByte) : Bool := isTerminator b.2

/-- The messages that come to the analysis of a recording as it is made. -/
def livePackets (recording : List Recorded) : List Packet :=
  (markMessages 0 (messages recording)).flatMap fun m =>
    (splitInclusive ends m.2).map fun frame => ⟨m.1, frame⟩

/-- The messages that come to a later analysis, which reads the capture and labels nothing. -/
def storedPackets (recording : List Recorded) : List Packet :=
  (splitInclusive ends ((markMessages 0 (messages recording)).map (·.2)).flatten).map fun frame =>
    ⟨false, frame⟩

theorem messages_map_snd (recording : List Recorded) :
    (messages recording).map (·.2) = QmdlWriter.frames (recording.map (·.container)) := by
  induction recording with
  | nil => rfl
  | cons r recording ih =>
    simp only [messages, QmdlWriter.frames, List.flatMap_cons, List.map_append, List.map_map,
      List.map_cons] at ih ⊢
    rw [ih]
    rfl

end Recorded

/-- The data of a marked message. -/
theorem markBytes_map_snd (demo : Bool) (n : Nat) (data : List UInt8) :
    (markBytes demo n data).map (·.2) = data := by
  unfold markBytes
  cases demo with
  | true => simp
  | false => simp [List.map_map, Function.comp_def]

theorem markMessages_map_snd (n : Nat) (messages : List (Bool × List UInt8)) :
    ((markMessages n messages).map (·.2)).map (List.map (·.2)) = messages.map (·.2) := by
  induction messages generalizing n with
  | nil => rfl
  | cons m messages ih => simp [markMessages, markBytes_map_snd, ih]

variable [Decoders]

/-- What a message is decoded to. -/
def Frame.item (frame : Frame) : MessageItem := Message.fromHdlc (frame.map (·.2))

/-! ## Analyses of a recording -/

section
variable [Detectors] [SerdeJson]

/-- The rows of an analysis, each with the message it is about. -/
def Harness.run (h : Harness) : List Packet → List (Frame × AnalysisRow)
  | [] => []
  | p :: packets =>
    let (row, h) := h.analyzeQmdlMessage p.frame.item
    (p.frame, labelRow p.label row) :: h.run packets

theorem Harness.run_cons (h : Harness) (p : Packet) (packets : List Packet) :
    h.run (p :: packets) = (p.frame, labelRow p.label (h.analyzeQmdlMessage p.frame.item).1) ::
      (h.analyzeQmdlMessage p.frame.item).2.run packets := rfl

/-- An event above Informational: the message it is about, and the place of its detector. -/
def Raises (rows : List (Frame × AnalysisRow)) (frame : Frame) (i : Nat) (e : Event) : Prop :=
  ∃ row, (frame, row) ∈ rows ∧ row.events[i]? = some (some e) ∧ .informational < e.eventType

/-- Every event above Informational is labelled, or raised among `real` too. -/
def NeverMistaken (rows real : List (Frame × AnalysisRow)) : Prop :=
  ∀ frame i e, Raises rows frame i e → (∃ text, e.message = Recorder.DEMO_PREFIX ++ text) ∨
    ∃ e', Raises real frame i e' ∧ e'.eventType = e.eventType

/-- The demonstrations of a recording are told from detections by an analysis. -/
def ToldApart (packets : List Recorded → List Packet) (config : AnalyzerConfig)
    (metadata : DeviceMetadata) (recording : List Recorded) : Prop :=
  NeverMistaken ((Harness.newWithConfig config metadata).run (packets recording))
    ((Harness.newWithConfig config metadata).run (packets (Recorded.offTheAir recording)))

end

/-! ## What the reports hold -/

theorem splitInclusive_ends_item (bytes : List MarkedByte) :
    (splitInclusive Recorded.ends bytes).map Frame.item =
      (splitInclusive isTerminator (bytes.map (·.2))).map Message.fromHdlc := by
  rw [splitInclusive_map, List.map_map]
  rfl

/-- A later analysis is of what is read from the capture. -/
theorem Recorded.storedPackets_item [Gzip] (hg : Gzip.Lossless) (recording : List Recorded)
    (closed : Bool) :
    (QmdlMessageReader.new (Gzip.encode (QmdlWriter.recordOps (recording.map (·.container)))
      closed)).readAll = ((storedPackets recording).map (·.frame.item), none) := by
  rw [QmdlMessageReader.readAll_encode hg, storedPackets, List.map_map]
  have hflat : ((markMessages 0 (messages recording)).map (·.2)).flatten.map (·.2) =
      (QmdlWriter.frames (recording.map (·.container))).flatten := by
    rw [List.map_flatten, markMessages_map_snd, messages_map_snd]
  rw [← hflat, ← splitInclusive_ends_item]
  rfl

/-- The live analysis is of the containers' messages as they come, those of a demonstration
labelled. -/
theorem Recorded.livePackets_item (recording : List Recorded) :
    (livePackets recording).map (fun p => (p.labelled, p.frame.item)) =
      recording.flatMap fun r => r.container.items.map fun item => (r.demo, item) := by
  have hmark : ∀ n (messages : List (Bool × List UInt8)),
      ((markMessages n messages).flatMap fun m =>
        (splitInclusive ends m.2).map fun frame => (⟨m.1, frame⟩ : Packet)).map
          (fun p => (p.labelled, p.frame.item)) =
        messages.flatMap fun m =>
          ((splitInclusive isTerminator m.2).map Message.fromHdlc).map fun item => (m.1, item) := by
    intro n messages
    induction messages generalizing n with
    | nil => rfl
    | cons m messages ih =>
      have hfirst := splitInclusive_ends_item (markBytes m.1 n m.2)
      rw [markBytes_map_snd] at hfirst
      simp only [markMessages, List.flatMap_cons, List.map_append, ih, ← hfirst]
      congr 1
      simp [Function.comp_def]
  rw [livePackets, hmark, messages]
  simp [MessagesContainer.items, List.flatMap_assoc, List.flatMap_map, List.map_flatMap]

section
variable [Detectors] [SerdeJson]

/-- The rows of messages of which some are labelled, and the harness after them. -/
def Harness.analyzeLabelled (h : Harness) : List (Bool × MessageItem) → List AnalysisRow × Harness
  | [] => ([], h)
  | (demo, item) :: items =>
    let (row, h) := h.analyzeQmdlMessage item
    let (rows, h) := h.analyzeLabelled items
    (labelRow (if demo then some Recorder.DEMO_PREFIX else none) row :: rows, h)

theorem Harness.run_map_snd (h : Harness) (packets : List Packet) :
    (h.run packets).map (·.2) =
      (h.analyzeLabelled (packets.map fun p => (p.labelled, p.frame.item))).1 := by
  induction packets generalizing h with
  | nil => rfl
  | cons p packets ih =>
    rw [run_cons, List.map_cons, ih]
    rfl

theorem Harness.analyzeLabelled_append (h : Harness) (xs ys : List (Bool × MessageItem)) :
    h.analyzeLabelled (xs ++ ys) =
      ((h.analyzeLabelled xs).1 ++ ((h.analyzeLabelled xs).2.analyzeLabelled ys).1,
        ((h.analyzeLabelled xs).2.analyzeLabelled ys).2) := by
  induction xs generalizing h with
  | nil => rfl
  | cons x xs ih => simp [analyzeLabelled, ih]

/-- The messages of one container are labelled or not together. -/
theorem Harness.analyzeLabelled_map (h : Harness) (demo : Bool) (items : List MessageItem) :
    h.analyzeLabelled (items.map fun item => (demo, item)) =
      ((h.analyzeItems items).1.map (labelRow (if demo then some Recorder.DEMO_PREFIX else none)),
        (h.analyzeItems items).2) := by
  induction items generalizing h with
  | nil => rfl
  | cons item items ih => simp [analyzeLabelled, analyzeItems, ih]

/-- The rows of some as they are added to a report. -/
def writeAll [Chrono] (path : FilePath) (rows : List AnalysisRow) (d : Disk) : Disk :=
  rows.foldl (fun d row => if row.isEmpty then d else writeLine d path row.toJson none) d

omit [Decoders] [Detectors] in
theorem writeRows_none [Chrono] (path : FilePath) (rows : List AnalysisRow) (maxType : EventType)
    (d : Disk) : (writeRows path rows (fun _ => none) maxType d).2 = writeAll path rows d := by
  induction rows generalizing maxType d with
  | nil => rfl
  | cons row rows ih =>
    rw [writeRows, writeAll, List.foldl_cons]
    split
    · exact ih _ _
    · exact ih _ _

namespace AnalysisWriter

variable [Chrono]

/-- The containers of a recording one after the other, on a disk that takes every row
(`diag.rs:802`). -/
def analyzeRecording (w : AnalysisWriter) : List Recorded → Disk → Disk
  | [], d => d
  | r :: recording, d =>
    let (_, w, d) := w.analyzeContainerInner r.container
      (if r.demo then some Recorder.DEMO_PREFIX else none) (fun _ => none) d
    w.analyzeRecording recording d

/-- The loop of `perform_analysis` (`analysis.rs:227`), on a disk that takes every row. -/
def analyzeCapture (w : AnalysisWriter) : List MessageItem → Disk → Disk
  | [], d => d
  | item :: items, d =>
    let (_, w, d) := w.analyzeMessage item none d
    w.analyzeCapture items d

/-- The live report has the rows of the run over the recording. -/
theorem analyzeRecording_eq (w : AnalysisWriter) (recording : List Recorded) (d : Disk) :
    w.analyzeRecording recording d =
      writeAll w.path ((w.harness.run (Recorded.livePackets recording)).map (·.2)) d := by
  rw [Harness.run_map_snd, Recorded.livePackets_item]
  induction recording generalizing w d with
  | nil => rfl
  | cons r recording ih =>
    rw [List.flatMap_cons, Harness.analyzeLabelled_append, Harness.analyzeLabelled_map, writeAll,
      List.foldl_append]
    refine Eq.trans (ih _ _) ?_
    simp only [writeRows_none]
    rfl

/-- The report of a later analysis has the rows of the run over what is read from the capture. -/
theorem analyzeCapture_eq (w : AnalysisWriter) (recording : List Recorded) (d : Disk) :
    w.analyzeCapture ((Recorded.storedPackets recording).map (·.frame.item)) d =
      writeAll w.path ((w.harness.run (Recorded.storedPackets recording)).map (·.2)) d := by
  unfold Recorded.storedPackets
  generalize splitInclusive Recorded.ends _ = frames
  induction frames generalizing w d with
  | nil => rfl
  | cons frame frames ih =>
    rw [List.map_cons, List.map_cons, analyzeCapture, Harness.run_cons]
    rcases w.analyzeMessage_cases (Frame.item frame) none d with
      ⟨he, h⟩ | ⟨he, -, h⟩ | ⟨-, _, _, hf, -⟩
    · rw [h]
      refine Eq.trans (ih _ _) ?_
      simp [writeAll, Packet.label, labelRow, he]
    · rw [h]
      refine Eq.trans (ih _ _) ?_
      simp [writeAll, Packet.label, labelRow, he]
    · cases hf

end AnalysisWriter

end

/-! ## What the detectors are given -/

/-- What a detector hears of a packet. -/
inductive Heard
  | element (ie : Decoders.InformationElement) (packetNum : Nat) (timestamp : DateTime)
  | skipped (timestamp : DateTime)

/-- What the detectors hear of the packet of this number, if they do. -/
def heardOf (packetNum : Nat) : MessageItem → Option Heard
  | .error _ => none
  | .ok message =>
    let skipped := message.timestamp?.map fun timestamp => .skipped (Decoders.toDatetime timestamp)
    match Decoders.parse message with
    | .ok none => skipped
    | .error _ => skipped
    | .ok (some (timestamp, gsmtapMsg)) =>
      match Decoders.tryFrom gsmtapMsg with
      | .error _ => some (.skipped (Decoders.toDatetime timestamp))
      | .ok ie => some (.element ie packetNum (Decoders.toDatetime timestamp))

/-- The packets of which the detectors hear, each with what; `n` is the number before the first. -/
def heard [SerdeJson] (n : Nat) : List Packet → List (Packet × Heard)
  | [] => []
  | p :: packets =>
    let n := (n + 1) % (SerdeJson.usizeMax + 1)
    ((heardOf n p.frame.item).map fun what => (p, what)).toList ++ heard n packets

/-- What the detectors hear of and is not labelled is off the air, and they hear of it after the
same as without the demonstration. -/
def Undisturbed [SerdeJson] (packets : List Recorded → List Packet) (recording : List Recorded) :
    Prop :=
  ∀ before p what, before ++ [(p, what)] <+: heard 0 (packets recording) → p.labelled = false →
    ∃ before' p', before' ++ [(p', what)] <+: heard 0 (packets (Recorded.offTheAir recording)) ∧
      p'.frame = p.frame ∧ before'.map (·.2) = before.map (·.2)

variable [Detectors]

namespace Heard

/-- A detector's answer. -/
def ask : Heard → Detectors.Analyzer → Option Event × Detectors.Analyzer
  | element ie packetNum timestamp, a =>
    Detectors.analyzeInformationElement a ie packetNum timestamp
  | skipped timestamp, a => Detectors.reportSkippedPacket a timestamp

/-- A detector that has heard this much. -/
def after (a : Detectors.Analyzer) (history : List Heard) : Detectors.Analyzer :=
  history.foldl (fun a what => (what.ask a).2) a

end Heard

/-- An event as it stands in the row of a packet. -/
def Event.inRow (e : Event) (packetNum : Nat) : Event :=
  { e with message := e.message ++ s!" (packet {packetNum})" }

namespace Harness

theorem ask_heard (h : Harness) (what : Heard) :
    h.ask what.ask =
      (h.analyzers.map fun a => (what.ask a).1.map (·.inRow h.packetNum),
        { h with analyzers := h.analyzers.map fun a => (what.ask a).2 }) := by
  simp only [ask, List.map_map]
  rfl

variable [SerdeJson]

/-- The events of a row are what the detectors answer to what they hear of the packet; where they
hear nothing, there are none. -/
theorem analyzeQmdlMessage_heard (h : Harness) (item : MessageItem) :
    (heardOf h.nextPacketNum item = none ∧ (h.analyzeQmdlMessage item).1.events = [] ∧
      (h.analyzeQmdlMessage item).2.analyzers = h.analyzers) ∨
    ∃ what, heardOf h.nextPacketNum item = some what ∧
      (h.analyzeQmdlMessage item).1.events =
        h.analyzers.map (fun a => (what.ask a).1.map (·.inRow h.nextPacketNum)) ∧
      (h.analyzeQmdlMessage item).2.analyzers = h.analyzers.map fun a => (what.ask a).2 := by
  -- the detectors are asked by the harness that has the packet's number
  have hask := fun what => ask_heard { h with packetNum := h.nextPacketNum } what
  unfold analyzeQmdlMessage heardOf
  cases item with
  | error err => exact .inl ⟨rfl, rfl, rfl⟩
  | ok m =>
    let k : Harness := { h with packetNum := h.nextPacketNum }
    have hskipped : ∀ t (row : AnalysisRow), ∃ what, some (Heard.skipped t) = some what ∧
        (withEvents row (k.reportSkippedPacket t)).1.events =
          h.analyzers.map (fun a => (what.ask a).1.map (·.inRow h.nextPacketNum)) ∧
        (withEvents row (k.reportSkippedPacket t)).2.analyzers =
          h.analyzers.map fun a => (what.ask a).2 := fun t row =>
      ⟨.skipped t, rfl, congrArg Prod.fst (hask (.skipped t)),
        congrArg (·.2.analyzers) (hask (.skipped t))⟩
    simp only
    cases Decoders.parse m with
    | error err =>
      cases m.timestamp? with
      | none => exact .inl ⟨rfl, rfl, rfl⟩
      | some t => exact .inr (hskipped _ _)
    | ok r =>
      cases r with
      | none =>
        cases m.timestamp? with
        | none => exact .inl ⟨rfl, rfl, rfl⟩
        | some t => exact .inr (hskipped _ _)
      | some p =>
        obtain ⟨t, g⟩ := p
        simp only
        cases Decoders.tryFrom g with
        | error err => exact .inr (hskipped _ _)
        | ok ie =>
          let what := Heard.element ie h.nextPacketNum (Decoders.toDatetime t)
          exact .inr ⟨what, rfl, congrArg Prod.fst (hask what),
            congrArg (·.2.analyzers) (hask what)⟩

theorem heard_cons (h : Harness) (p : Packet) (packets : List Packet) :
    heard h.packetNum (p :: packets) =
      ((heardOf h.nextPacketNum p.frame.item).map fun what => (p, what)).toList ++
        heard h.nextPacketNum packets := rfl

/-- An event of a run is the answer of a detector that has heard what came before. -/
theorem of_mem_run (h : Harness) (packets : List Packet) {frame : Frame} {row : AnalysisRow}
    {i : Nat} {e : Event} (hrow : (frame, row) ∈ h.run packets)
    (he : row.events[i]? = some (some e)) :
    ∃ before p what a e₀ n, before ++ [(p, what)] <+: heard h.packetNum packets ∧
      p.frame = frame ∧ h.analyzers[i]? = some a ∧
      (what.ask (Heard.after a (before.map (·.2)))).1 = some e₀ ∧ e = p.tell (e₀.inRow n) := by
  induction packets generalizing h with
  | nil => cases hrow
  | cons p packets ih =>
    obtain ⟨-, hnum⟩ := h.analyzeQmdlMessage_packetNum p.frame.item
    rw [heard_cons]
    rw [run_cons] at hrow
    rcases h.analyzeQmdlMessage_heard p.frame.item with
      ⟨hnone, hevents, hans⟩ | ⟨what, hsome, hevents, hans⟩
    · rw [hnone]
      rcases List.mem_cons.1 hrow with heq | hrow
      · obtain ⟨rfl, rfl⟩ := Prod.mk.inj heq
        rw [labelRow_events, hevents] at he
        cases he
      · obtain ⟨before, p', what, a, e₀, n, hpre, hframe, ha, hans', hte⟩ := ih _ hrow
        rw [hnum] at hpre
        rw [hans] at ha
        exact ⟨before, p', what, a, e₀, n, hpre, hframe, ha, hans', hte⟩
    · rw [hsome]
      rcases List.mem_cons.1 hrow with heq | hrow
      · obtain ⟨rfl, rfl⟩ := Prod.mk.inj heq
        simp only [labelRow_events, hevents, List.getElem?_map, Option.map_eq_some_iff] at he
        obtain ⟨answer, hanswer, htell⟩ := he
        obtain ⟨a, ha, rfl⟩ := hanswer
        obtain ⟨_, hrow, rfl⟩ := htell
        obtain ⟨e₀, hans₀, rfl⟩ := Option.map_eq_some_iff.1 hrow
        exact ⟨[], p, what, a, e₀, h.nextPacketNum, by simp, rfl, ha, hans₀, rfl⟩
      · obtain ⟨before, p', what', a', e₀, n, hpre, hframe, ha, hans', hte⟩ := ih _ hrow
        rw [hnum] at hpre
        rw [hans, List.getElem?_map, Option.map_eq_some_iff] at ha
        obtain ⟨a, ha, rfl⟩ := ha
        exact ⟨(p, what) :: before, p', what', a, e₀, n, (List.prefix_cons_inj _).2 hpre, hframe,
          ha, hans', hte⟩

/-- A detector's answer, after what came before, is in the packet's row. -/
theorem exists_mem_run (h : Harness) (packets : List Packet) {before : List (Packet × Heard)}
    {p : Packet} {what : Heard} {i : Nat} {a : Detectors.Analyzer} {e₀ : Event}
    (hpre : before ++ [(p, what)] <+: heard h.packetNum packets) (ha : h.analyzers[i]? = some a)
    (he : (what.ask (Heard.after a (before.map (·.2)))).1 = some e₀) :
    ∃ row n, (p.frame, row) ∈ h.run packets ∧
      row.events[i]? = some (some (p.tell (e₀.inRow n))) := by
  induction packets generalizing h before a with
  | nil => simp [heard] at hpre
  | cons q packets ih =>
    obtain ⟨-, hnum⟩ := h.analyzeQmdlMessage_packetNum q.frame.item
    rw [heard_cons] at hpre
    rw [run_cons]
    rcases h.analyzeQmdlMessage_heard q.frame.item with
      ⟨hnone, -, hans⟩ | ⟨heardHere, hsome, hevents, hans⟩
    · rw [hnone] at hpre
      obtain ⟨row, n, hrow, hev⟩ := ih (h.analyzeQmdlMessage q.frame.item).2
        (by rw [hnum]; exact hpre) (by rw [hans]; exact ha) he
      exact ⟨row, n, List.mem_cons_of_mem _ hrow, hev⟩
    · rw [hsome, Option.map_some, Option.toList_some, List.singleton_append] at hpre
      cases before with
      | nil =>
        obtain ⟨heq, -⟩ := List.cons_prefix_cons.1 hpre
        obtain ⟨rfl, rfl⟩ := Prod.mk.inj heq
        refine ⟨_, h.nextPacketNum, List.mem_cons_self, ?_⟩
        simp only [labelRow_events, hevents, List.getElem?_map, ha, Option.map_some]
        rw [show (what.ask a).1 = some e₀ from he]
        rfl
      | cons first before =>
        obtain ⟨rfl, hrest⟩ := List.cons_prefix_cons.1 hpre
        have ha' : (h.analyzeQmdlMessage q.frame.item).2.analyzers[i]? =
            some (heardHere.ask a).2 := by
          rw [hans, List.getElem?_map, ha]
          rfl
        obtain ⟨row, n, hrow, hev⟩ := ih (h.analyzeQmdlMessage q.frame.item).2
          (by rw [hnum]; exact hrest) ha' he
        exact ⟨row, n, List.mem_cons_of_mem _ hrow, hev⟩

end Harness

/-! ## Detectors that know a history -/

section
omit [Detectors]

open Classical in
/-- What a detector answers that raises an event at the end of one history, and at no other time. -/
noncomputable def recollect (history past : List Heard) (what : Heard) : Option Event × List Heard :=
  (if past ++ [what] = history then some ⟨.high, ""⟩ else none, past ++ [what])

/-- Detectors of that kind. -/
@[reducible] noncomputable def recallDetectors (history : List Heard) : Detectors where
  Analyzer := List Heard
  getName := fun _ => ""
  getDescription := fun _ => ""
  getVersion := fun _ => 1
  analyzeInformationElement := fun past ie packetNum timestamp =>
    recollect history past (.element ie packetNum timestamp)
  reportSkippedPacket := fun past timestamp => recollect history past (.skipped timestamp)
  imsiRequestedAnalyzer := fun _ => []
  connectionRedirect2GDowngradeAnalyzer := []
  lteSib6And7DowngradeAnalyzer := []
  nullCipherAnalyzer := []
  nasNullCipherAnalyzer := []
  incompleteSibAnalyzer := []
  lppLocationRequestAnalyzer := []
  lppLocationTrackingAnalyzer := []
  rrlpLocationAnalyzer := []
  timingAdvanceAnalyzer := []
  flashCatchAnalyzer := []
  testAnalyzer := []
  noNasMessagesAnalyzer := []
  diagnosticAnalyzer := []

theorem recallDetectors_ask (history past : List Heard) (what : Heard) :
    @Heard.ask _ (recallDetectors history) what past = recollect history past what := by
  cases what <;> rfl

theorem recallDetectors_after (history past more : List Heard) :
    @Heard.after _ (recallDetectors history) past more = past ++ more := by
  induction more generalizing past with
  | nil => exact (List.append_nil past).symm
  | cons what more ih =>
    have hstep : @Heard.after _ (recallDetectors history) past (what :: more) =
        @Heard.after _ (recallDetectors history)
          (@Heard.ask _ (recallDetectors history) what past).2 more := rfl
    rw [hstep, ih, recallDetectors_ask]
    simp [recollect]

/-- Such a detector raises its event where it has heard the history. -/
theorem recallDetectors_raises (history past : List Heard) (what : Heard) {e : Event} :
    (@Heard.ask _ (recallDetectors history) what
      (@Heard.after _ (recallDetectors history) [] past)).1 = some e ↔
      past ++ [what] = history ∧ e = ⟨.high, ""⟩ := by
  rw [recallDetectors_after, recallDetectors_ask, recollect, List.nil_append]
  by_cases h : past ++ [what] = history <;> simp [h, eq_comm]

end

/-! ## The law -/

omit [Decoders] [Detectors] in
/-- A text that is a packet's number alone is not labelled. -/
theorem inRow_unlabelled (n : Nat) (text : String) :
    (Event.inRow ⟨.high, ""⟩ n).message ≠ Recorder.DEMO_PREFIX ++ text := by
  intro h
  have hfirst : toString " (packet " = " (packet " := rfl
  have h' := congrArg String.toList h
  simp [Event.inRow, Recorder.DEMO_PREFIX, hfirst] at h'

section
variable [SerdeJson]

/-- Detectors that hear of the same, as far as it is not labelled, are not taken in. -/
theorem toldApart_of_undisturbed {packets : List Recorded → List Packet}
    {recording : List Recorded} (h : Undisturbed packets recording) (config : AnalyzerConfig)
    (metadata : DeviceMetadata) : ToldApart packets config metadata recording := by
  rintro frame i e ⟨row, hrow, hev, hhigh⟩
  obtain ⟨before, p, what, a, e₀, n, hpre, rfl, ha, hans, rfl⟩ := Harness.of_mem_run _ _ hrow hev
  cases hp : p.labelled with
  | true =>
    left
    refine ⟨(e₀.inRow n).message, ?_⟩
    simp [Packet.tell, hp, labelEvent]
  | false =>
    right
    obtain ⟨before', p', hpre', hframe, hsame⟩ := h before p what hpre hp
    rw [← hsame] at hans
    obtain ⟨row', n', hrow', hev'⟩ := Harness.exists_mem_run _ _ hpre' ha hans
    have htype : ∀ q : Packet, ∀ k, (q.tell (e₀.inRow k)).eventType = e₀.eventType := by
      intro q k
      unfold Packet.tell
      split <;> rfl
    rw [htype] at hhigh ⊢
    rw [hframe] at hrow'
    exact ⟨_, ⟨row', hrow', hev', by rwa [htype]⟩, htype _ _⟩

omit [Detectors] in
/-- What the detectors hear is given away by those that know it from what they heard before. -/
theorem undisturbed_of_toldApart {packets : List Recorded → List Packet}
    {recording : List Recorded}
    (h : ∀ [Detectors] (config : AnalyzerConfig) (metadata : DeviceMetadata),
      ToldApart packets config metadata recording) : Undisturbed packets recording := by
  intro before p what hpre hp
  let history := before.map (·.2) ++ [what]
  let _ := recallDetectors history
  let harness := Harness.newWithConfig nullCipherConfig ⟨[]⟩
  have hfirst : harness.analyzers[0]? = some [] := rfl
  obtain ⟨row, n, hrow, hev⟩ := harness.exists_mem_run _ hpre hfirst
    ((recallDetectors_raises history _ _).2 ⟨rfl, rfl⟩)
  have high : EventType.informational < EventType.high := by decide
  have htell : ∀ k, p.tell (Event.inRow ⟨.high, ""⟩ k) = Event.inRow ⟨.high, ""⟩ k := by
    intro k
    simp [Packet.tell, hp]
  rw [htell] at hev
  rcases h nullCipherConfig ⟨[]⟩ p.frame 0 _ ⟨row, hrow, hev, high⟩ with
    ⟨text, htext⟩ | ⟨e', ⟨row', hrow', hev', -⟩, -⟩
  · exact absurd htext (inRow_unlabelled n text)
  · obtain ⟨before', p', what', a, e₀, n', hpre', hframe, ha, hans, -⟩ :=
      Harness.of_mem_run _ _ hrow' hev'
    rw [hfirst] at ha
    obtain rfl := Option.some.inj ha
    obtain ⟨hsame, -⟩ := (recallDetectors_raises history _ _).1 hans
    obtain ⟨hbefore, hwhat⟩ := List.append_inj' hsame rfl
    obtain rfl : what' = what := by simpa using hwhat
    exact ⟨before', p', hpre', hframe, hbefore⟩

end

omit [Detectors] in
/-- **An analysis takes no detector in by a demonstration if and only if what the detectors hear of
and is not labelled is off the air, and they hear of it after the same as without the
demonstration.** -/
theorem demonstration_told_iff [SerdeJson] (recording : List Recorded) :
    (∀ [Detectors] (config : AnalyzerConfig) (metadata : DeviceMetadata),
      ToldApart Recorded.livePackets config metadata recording ∧
        ToldApart Recorded.storedPackets config metadata recording) ↔
      Undisturbed Recorded.livePackets recording ∧
        Undisturbed Recorded.storedPackets recording := by
  constructor
  · intro h
    exact ⟨undisturbed_of_toldApart fun config metadata => (h config metadata).1,
      undisturbed_of_toldApart fun config metadata => (h config metadata).2⟩
  · rintro ⟨hlive, hstored⟩ _ config metadata
    exact ⟨toldApart_of_undisturbed hlive config metadata,
      toldApart_of_undisturbed hstored config metadata⟩

omit [Decoders] [Detectors] in
/-- A recording with one injected message in it, analysed again, has a detection that is not
labelled. -/
theorem demonstration_mistaken :
    let _ := nasDecoders
    let _ := nullCipherDetectors
    let _ := jsonText
    ¬ ∀ (config : AnalyzerConfig) (metadata : DeviceMetadata) (recording : List Recorded),
      ToldApart Recorded.livePackets config metadata recording ∧
        ToldApart Recorded.storedPackets config metadata recording := by
  let _ := nasDecoders
  let _ := nullCipherDetectors
  let _ := jsonText
  intro _ _ _ h
  let recording : List Recorded := [⟨true, containerOf [nullCipherFrame]⟩]
  let frame : Frame := nullCipherFrame.map fun b => (none, b)
  let e : Event := ⟨.high, "NAS Security mode command requested null cipher (packet 1)"⟩
  obtain ⟨row, hrow, hev⟩ : ∃ row, (frame, row) ∈ (Harness.newWithConfig nullCipherConfig ⟨[]⟩).run
      (Recorded.storedPackets recording) ∧ row.events[0]? = some (some e) := by
    refine ⟨_, List.mem_cons_self, ?_⟩
    decide +kernel
  rcases (h nullCipherConfig ⟨[]⟩ recording).2 frame 0 e ⟨row, hrow, hev, by decide⟩ with
    ⟨text, htext⟩ | ⟨_, ⟨row', hrow', -⟩, -⟩
  · have h' := congrArg String.toList htext
    simp [e, Recorder.DEMO_PREFIX] at h'
  · cases hrow'

end Rayhunter
