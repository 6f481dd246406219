import Rayhunter.Gsmtap.Element
import Rayhunter.Lib.Stopping

/-!
# Two exports of a recording

The daemon's export (`generate_pcap_data_inner`, `daemon/src/pcap.rs`) writes every frame of a
message and ends with the first message that cannot be converted; the check tool's `pcapify`
(`check/src/main.rs`) writes the first frame of a message and goes on. So the export has every frame
a recording can be converted to, and the same as `pcapify`, just where nothing that makes a frame
comes after what cannot be converted and no record holds a transport block
(`export_complete_iff`).
-/

namespace Rayhunter

variable [RecordCrates]

/-! ## Messages -/

/-- A message that is a log record with such a body. -/
def RecordOf (P : LogBody → Prop) : MessageItem → Prop
  | .ok (.log _ _ _ _ _ body) => P body
  | _ => False

/-- A message that makes a frame. -/
def MakesFrame : MessageItem → Prop :=
  RecordOf fun body => GsmtapParser.MakesSingle body ∨ GsmtapParser.HoldsBlock body

/-- The frames a message is converted to. What could not be read makes none. -/
def convertItem : MessageItem → Except GsmtapParserError (List (Timestamp × GsmtapMessage))
  | .error _ => .ok []
  | .ok msg => GsmtapParser.parseAll msg

/-- The frame `pcapify` writes of a message: the first, and none where there is an error. -/
def pcapifyMessage : MessageItem → Option (Timestamp × GsmtapMessage)
  | .error _ => none
  | .ok msg =>
    match GsmtapParser.parse msg with
    | .ok frame => frame
    | .error _ => none

/-- What a message comes to in the two exports. -/
theorem convertItem_cases (item : MessageItem) :
    (RecordOf GsmtapParser.Unconvertible item ∧ Stopping.Fails convertItem item ∧
        pcapifyMessage item = none ∧ ¬ MakesFrame item ∧
        ¬ RecordOf GsmtapParser.HoldsBlock item) ∨
      (∃ timestamp packet,
        convertItem item = .ok ((GsmtapParser.transportFrames packet).map (timestamp, ·)) ∧
        pcapifyMessage item = none ∧ ¬ RecordOf GsmtapParser.Unconvertible item ∧
        (MakesFrame item ↔ GsmtapParser.transportFrames packet ≠ []) ∧
        (RecordOf GsmtapParser.HoldsBlock item ↔ GsmtapParser.transportFrames packet ≠ [])) ∨
      convertItem item = .ok (pcapifyMessage item).toList ∧
        ¬ RecordOf GsmtapParser.Unconvertible item ∧
        (MakesFrame item ↔ (pcapifyMessage item).isSome) ∧
        ¬ RecordOf GsmtapParser.HoldsBlock item := by
  cases item with
  | error e => exact .inr (.inr ⟨rfl, not_false, iff_of_false not_false nofun, not_false⟩)
  | ok msg =>
  cases msg with
  | response => exact .inr (.inr ⟨rfl, not_false, iff_of_false not_false nofun, not_false⟩)
  | log pendingMsgs outerLength innerLength logType timestamp body =>
    simp only [convertItem, pcapifyMessage, GsmtapParser.parseAll, GsmtapParser.parse, RecordOf,
      MakesFrame, Stopping.Fails]
    obtain ⟨e, hall, hone, hunconvertible, hsingle, hblock⟩ |
      ⟨packet, hall, hone, hconvertible, hsingle, hblock⟩ |
      ⟨single, hall, hone, hconvertible, hsingle, hblock⟩ :=
        GsmtapParser.logToGsmtapAll_cases body
    · rw [hall, hone]
      exact .inl ⟨hunconvertible, ⟨e, rfl⟩, rfl, by simp [hsingle, hblock], hblock⟩
    · rw [hall, hone]
      refine .inr (.inl ⟨timestamp, packet, rfl, rfl, hconvertible, ?_, hblock⟩)
      rw [or_iff_right hsingle, hblock]
    · rw [hall, hone]
      refine .inr (.inr ⟨?_, hconvertible, ?_, hblock⟩)
      · cases single <;> rfl
      · rw [or_iff_left hblock, hsingle]
        cases single <;> rfl

/-- A message cannot be converted just where its record is of that kind. -/
theorem fails_convertItem_iff (item : MessageItem) :
    Stopping.Fails convertItem item ↔ RecordOf GsmtapParser.Unconvertible item := by
  obtain ⟨hrecord, hfails, -⟩ | ⟨timestamp, packet, hok, -, hrecord, -⟩ | ⟨hok, hrecord, -⟩ :=
    convertItem_cases item
  · exact iff_of_true hfails hrecord
  · refine iff_of_false ?_ hrecord
    rintro ⟨e, herror⟩
    cases hok.symm.trans herror
  · refine iff_of_false ?_ hrecord
    rintro ⟨e, herror⟩
    cases hok.symm.trans herror

/-- A message gives a frame just where its record makes one. -/
theorem given_convertItem_eq_nil_iff (item : MessageItem) :
    Stopping.given convertItem item = [] ↔ ¬ MakesFrame item := by
  obtain ⟨-, hfails, -, hframe, -⟩ | ⟨timestamp, packet, hok, -, -, hframe, -⟩ |
    ⟨hok, -, hframe, -⟩ := convertItem_cases item
  · exact iff_of_true (Stopping.given_of_fails _ hfails) hframe
  · rw [Stopping.given, hok, hframe, not_not]
    exact List.map_eq_nil_iff
  · rw [Stopping.given, hok, hframe]
    cases pcapifyMessage item <;> simp

/-! ## Recordings -/

/-- `pcapify` (`check/src/main.rs:253`): the frames it writes, with their times. -/
def pcapify (items : List MessageItem) : List (Timestamp × GsmtapMessage) :=
  items.filterMap pcapifyMessage

/-- The frames the daemon's export writes, with their times. -/
def exportedFrames {GpsPoint : Type} (findNearestGps : Int → Option GpsPoint)
    (ending : Option IoError) (items : List MessageItem) : List (Timestamp × GsmtapMessage) :=
  (exportMessages false findNearestGps ending {} items).1.map fun e =>
    (e.timestamp, e.frame.message)

/-- Every frame of the messages that can be converted, in order. -/
def convertedFrames (items : List MessageItem) : List (Timestamp × GsmtapMessage) :=
  Stopping.pastErrors convertItem items

/-- The frames of a message are written as they are. -/
theorem exportFrames_map {GpsPoint : Type} (findNearestGps : Int → Option GpsPoint)
    (report : RedactionReport) (frames : List (Timestamp × GsmtapFrame)) :
    (exportFrames false findNearestGps report frames).2.map
        (fun e => (e.timestamp, e.frame.message)) =
      frames.map fun frame => (frame.1, frame.2.message) := by
  induction frames with
  | nil => rfl
  | cons frame frames ih => exact congrArg (_ :: ·) ih

/-- The export ends with the first message that cannot be converted. -/
theorem exportMessages_map {GpsPoint : Type} (findNearestGps : Int → Option GpsPoint)
    (ending : Option IoError) (report : RedactionReport) (items : List MessageItem) :
    (exportMessages false findNearestGps ending report items).1.map
        (fun e => (e.timestamp, e.frame.message)) =
      Stopping.untilError convertItem items := by
  induction items generalizing report with
  | nil => cases ending <;> rfl
  | cons item items ih =>
    cases item with
    | error e => exact ih report
    | ok msg =>
      rw [exportMessages, Stopping.untilError, convertItem, ← parseAll_message]
      cases parseAll msg with
      | error e => rfl
      | ok frames =>
        simp only [List.map_append, exportFrames_map, ih]
        rfl

/-- Without transport blocks a recording is converted to what `pcapify` writes. -/
theorem convertedFrames_eq_pcapify {items : List MessageItem}
    (h : ∀ item ∈ items, ¬ RecordOf GsmtapParser.HoldsBlock item) :
    convertedFrames items = pcapify items := by
  rw [pcapify, List.filterMap_eq_flatMap_toList]
  refine List.flatMap_congr fun item hitem => ?_
  obtain ⟨-, hfails, hone, -⟩ | ⟨timestamp, packet, hok, hone, -, -, hblock⟩ | ⟨hok, -⟩ :=
    convertItem_cases item
  · rw [Stopping.given_of_fails _ hfails, hone, Option.toList_none]
  · rw [Stopping.given, hok, hone, not_not.1 (mt hblock.2 (h item hitem))]
    rfl
  · rw [Stopping.given, hok]

/-- `pcapify` writes no transport block. -/
theorem notMem_pcapify {packet : MacPacket} {m : GsmtapMessage}
    (hm : m ∈ GsmtapParser.transportFrames packet) (timestamp : Timestamp)
    (items : List MessageItem) : (timestamp, m) ∉ pcapify items := by
  intro hmem
  obtain ⟨hheader, htransport⟩ := GsmtapParser.frame_of_transport hm
  obtain ⟨item, -, hone⟩ := List.mem_filterMap.1 hmem
  cases item with
  | error e => cases hone
  | ok msg =>
  cases msg with
  | response => cases hone
  | log pendingMsgs outerLength innerLength logType time body =>
    simp only [pcapifyMessage, GsmtapParser.parse] at hone
    cases hsingle : GsmtapParser.logToGsmtap body with
    | error e => rw [hsingle] at hone; cases hone
    | ok single =>
      rw [hsingle] at hone
      obtain ⟨m', rfl, hpair⟩ := Option.map_eq_some_iff.1 hone
      cases hpair
      have htag := (GsmtapParser.ofRecord_of_single hsingle).tag (by rw [hheader]; rfl)
      exact absurd (htransport.symm.trans htag) (by decide)

/-- **An export has everything that can be converted, and the same as `pcapify`, just where nothing
that makes a frame comes after what cannot be converted and there is no transport block.** -/
theorem export_complete_iff {GpsPoint : Type} (findNearestGps : Int → Option GpsPoint)
    (ending : Option IoError) (items : List MessageItem) :
    (exportedFrames findNearestGps ending items = convertedFrames items ∧
        {x | x ∈ exportedFrames findNearestGps ending items} = {x | x ∈ pcapify items}) ↔
      items.Pairwise (fun item later =>
          RecordOf GsmtapParser.Unconvertible item → ¬ MakesFrame later) ∧
        ∀ item ∈ items, ¬ RecordOf GsmtapParser.HoldsBlock item := by
  have hcomplete : exportedFrames findNearestGps ending items = convertedFrames items ↔
      items.Pairwise fun item later =>
        RecordOf GsmtapParser.Unconvertible item → ¬ MakesFrame later := by
    rw [exportedFrames, exportMessages_map, convertedFrames, Stopping.untilError_eq_pastErrors_iff]
    simp only [fails_convertItem_iff, given_convertItem_eq_nil_iff]
  rw [← hcomplete]
  refine and_congr_right fun hexported => ?_
  rw [hexported]
  constructor
  · intro hsame item hitem hblock
    obtain ⟨-, -, -, -, hno⟩ | ⟨timestamp, packet, hok, -, -, -, hframes⟩ | ⟨-, -, -, hno⟩ :=
      convertItem_cases item
    · exact hno hblock
    · obtain ⟨m, hm⟩ := List.exists_mem_of_ne_nil _ (hframes.1 hblock)
      have hconverted : (timestamp, m) ∈ convertedFrames items := by
        refine List.mem_flatMap.2 ⟨item, hitem, ?_⟩
        rw [Stopping.given, hok]
        exact List.mem_map_of_mem hm
      exact notMem_pcapify hm timestamp items (hsame.subset hconverted)
    · exact hno hblock
  · intro hno
    rw [convertedFrames_eq_pcapify hno]

/-- An RRC record whose header has a version between those that are known. -/
def oddRecord : Message LogBody :=
  .log 0 30 30 0xb0c0 ⟨0⟩ (.lteRrcOtaMessage 5 (.v5 14 0 0 1 1650 0 1 0 1 [0]))

/-- The record of an identity request. -/
def requestRecord : Message LogBody :=
  .log 0 19 19 0xb0ec ⟨65536⟩ (.nas4GMessage 0xb0ec .downlink 1 14 0 0 [0x07, 0x55, 0x01])

omit [RecordCrates] in
/-- Of an identity request after such a record the export has nothing. -/
theorem export_loses_request :
    let _ := plainCrates
    ¬ ∀ msgs : List (Message LogBody),
      exportedFrames (fun _ => none (α := Unit)) none (msgs.map .ok) =
          convertedFrames (msgs.map .ok) ∧
        {x | x ∈ exportedFrames (fun _ => none (α := Unit)) none (msgs.map .ok)} =
          {x | x ∈ pcapify (msgs.map .ok)} := by
  intro _ h
  have hlost := (h [oddRecord, requestRecord]).1
  have hexported : exportedFrames (fun _ => none (α := Unit)) none
      ([oddRecord, requestRecord].map .ok) = [] := rfl
  have hconverted : convertedFrames ([oddRecord, requestRecord].map .ok) =
      [(⟨65536⟩, ⟨.new (.lteNas .plain), [0x07, 0x55, 0x01]⟩)] := rfl
  rw [hexported, hconverted] at hlost
  cases hlost

end Rayhunter
