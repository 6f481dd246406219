import Rayhunter.Analysis.Serde
import Rayhunter.Diag.Message

/-!
# The analysis harness

`Harness` of `lib/src/analysis/analyzer.rs`: a list of detectors fed one packet at a time. The
detectors are parameters (`Detectors`), each with its own state, which every packet may change; the
harness numbers the packets and collects one row of events for each.
-/

namespace Rayhunter

/-- `AnalyzerConfig` (`analyzer.rs:34`). -/
structure AnalyzerConfig where
  diagnosticAnalyzer : Bool
  connectionRedirect2gDowngrade : Bool
  lteSib6And7Downgrade : Bool
  nullCipher : Bool
  nasNullCipher : Bool
  incompleteSib : Bool
  testAnalyzer : Bool
  imsiRequested : Bool
  lppLocationRequest : Bool
  lppLocationTracking : Bool
  rrlpLocationRequest : Bool
  timingAdvance : Bool
  flashCatch : Bool
  noNasMessages : Bool
  deriving DecidableEq, Repr

/-- `DeviceMetadata` (`lib/src/lib.rs:58`): the home networks of the SIM. -/
structure DeviceMetadata where
  homePlmn : List String
  deriving DecidableEq, Repr

/-- The detectors: the functions of the trait `Analyzer` (`analyzer.rs:143`) and the constructors
`new_with_config` calls. An `Analyzer` is a detector with its state. -/
class Detectors [Decoders] where
  Analyzer : Type
  getName : Analyzer → String
  getDescription : Analyzer → String
  getVersion : Analyzer → UInt32
  analyzeInformationElement :
    Analyzer → Decoders.InformationElement → Nat → DateTime → Option Event × Analyzer
  reportSkippedPacket : Analyzer → DateTime → Option Event × Analyzer
  imsiRequestedAnalyzer : List String → Analyzer
  connectionRedirect2GDowngradeAnalyzer : Analyzer
  lteSib6And7DowngradeAnalyzer : Analyzer
  nullCipherAnalyzer : Analyzer
  nasNullCipherAnalyzer : Analyzer
  incompleteSibAnalyzer : Analyzer
  lppLocationRequestAnalyzer : Analyzer
  lppLocationTrackingAnalyzer : Analyzer
  rrlpLocationAnalyzer : Analyzer
  timingAdvanceAnalyzer : Analyzer
  flashCatchAnalyzer : Analyzer
  testAnalyzer : Analyzer
  noNasMessagesAnalyzer : Analyzer
  diagnosticAnalyzer : Analyzer

/-! ## One detector -/

/-- The detector of null ciphers in the NAS security mode command, and the others by their names. -/
inductive NamedAnalyzer
  | nasNullCipher
  | other (name : String)
  deriving DecidableEq, Repr

/-- Whether an EMM NAS message is a security mode command that selects `EEA0`, no encryption. -/
def selectsNullCipher : List UInt8 → Bool
  | 0x07 :: 0x5d :: algorithms :: _ => (algorithms >>> 4) &&& 7 == 0
  | _ => false

/-- Detectors of which the one for null ciphers (`nas_null_cipher.rs`) finds something. -/
@[reducible] def nullCipherDetectors : @Detectors nasDecoders :=
  let _ := nasDecoders
  { Analyzer := NamedAnalyzer
    getName
      | .nasNullCipher => "NAS Null Cipher Requested"
      | .other name => name
    getDescription
      | .nasNullCipher =>
        "Tests whether the MME requests to use a null cipher in the NAS security mode command"
      | .other _ => ""
    getVersion := fun _ => 1
    analyzeInformationElement := fun a ie _ _ =>
      match a with
      | .nasNullCipher =>
        (if selectsNullCipher ie then
          some ⟨.high, "NAS Security mode command requested null cipher"⟩ else none, a)
      | .other _ => (none, a)
    reportSkippedPacket := fun a _ => (none, a)
    imsiRequestedAnalyzer := fun _ => .other "Identity (IMSI or IMEI) requested in suspicious manner"
    connectionRedirect2GDowngradeAnalyzer :=
      .other "Connection Release/Redirected Carrier 2G Downgrade"
    lteSib6And7DowngradeAnalyzer := .other "LTE SIB 6/7 Downgrade"
    nullCipherAnalyzer := .other "Null Cipher"
    nasNullCipherAnalyzer := .nasNullCipher
    incompleteSibAnalyzer := .other "Incomplete SIB"
    lppLocationRequestAnalyzer := .other "LPP Location Request"
    lppLocationTrackingAnalyzer := .other "LPP Location Tracking"
    rrlpLocationAnalyzer := .other "RRLP Location Request"
    timingAdvanceAnalyzer := .other "Cell answering from a different distance"
    flashCatchAnalyzer := .other "FlashCatch: identity taken, then forged authentication"
    testAnalyzer := .other "Test Analyzer"
    noNasMessagesAnalyzer := .other "No NAS Messages"
    diagnosticAnalyzer := .other "Diagnostic detector for messages which might lead to IMSI exposure" }

/-- The configuration in which that detector alone is on. -/
def nullCipherConfig : AnalyzerConfig where
  diagnosticAnalyzer := false
  connectionRedirect2gDowngrade := false
  lteSib6And7Downgrade := false
  nullCipher := false
  nasNullCipher := true
  incompleteSib := false
  testAnalyzer := false
  imsiRequested := false
  lppLocationRequest := false
  lppLocationTracking := false
  rrlpLocationRequest := false
  timingAdvance := false
  flashCatch := false
  noNasMessages := false

/-- The frame of the demonstration's security mode command (`demo.rs:86`). -/
def nullCipherFrame : List UInt8 :=
  [16, 0, 24, 0, 24, 0, 236, 176, 0, 0, 64, 218, 46, 70, 6, 1, 1, 14, 0, 14, 7, 93, 0, 0, 2, 128, 0,
    0, 66, 66, 126]

variable [Decoders] [Detectors]

/-- `Harness` (`analyzer.rs:387`). -/
structure Harness where
  analyzers : List Detectors.Analyzer
  packetNum : Nat

namespace Harness

/-- `new_with_config` (`analyzer.rs:406`). -/
def newWithConfig (config : AnalyzerConfig) (metadata : DeviceMetadata) : Harness where
  analyzers :=
    ([(config.imsiRequested, Detectors.imsiRequestedAnalyzer metadata.homePlmn),
      (config.connectionRedirect2gDowngrade, Detectors.connectionRedirect2GDowngradeAnalyzer),
      (config.lteSib6And7Downgrade, Detectors.lteSib6And7DowngradeAnalyzer),
      (config.nullCipher, Detectors.nullCipherAnalyzer),
      (config.nasNullCipher, Detectors.nasNullCipherAnalyzer),
      (config.incompleteSib, Detectors.incompleteSibAnalyzer),
      (config.lppLocationRequest, Detectors.lppLocationRequestAnalyzer),
      (config.lppLocationTracking, Detectors.lppLocationTrackingAnalyzer),
      (config.rrlpLocationRequest, Detectors.rrlpLocationAnalyzer),
      (config.timingAdvance, Detectors.timingAdvanceAnalyzer),
      (config.flashCatch, Detectors.flashCatchAnalyzer),
      (config.testAnalyzer, Detectors.testAnalyzer),
      (config.noNasMessages, Detectors.noNasMessagesAnalyzer),
      (config.diagnosticAnalyzer, Detectors.diagnosticAnalyzer)].filter (·.1)).map (·.2)
  packetNum := 0

/-- `packet_suffix` (`analyzer.rs:642`). -/
def packetSuffix (h : Harness) : String := s!" (packet {h.packetNum})"

/-- What `analyze_information_element` (`analyzer.rs:597`) and `report_skipped_packet`
(`analyzer.rs:625`) have in common: every detector is asked once, and its event names the
packet. -/
def ask (h : Harness) (f : Detectors.Analyzer → Option Event × Detectors.Analyzer) :
    List (Option Event) × Harness :=
  let answers := h.analyzers.map f
  (answers.map fun a => a.1.map fun e => { e with message := e.message ++ h.packetSuffix },
    { h with analyzers := answers.map (·.2) })

/-- `analyze_information_element` (`analyzer.rs:597`). -/
def analyzeInformationElement (h : Harness) (ie : Decoders.InformationElement)
    (timestamp : DateTime) : List (Option Event) × Harness :=
  h.ask fun a => Detectors.analyzeInformationElement a ie h.packetNum timestamp

/-- `report_skipped_packet` (`analyzer.rs:625`). -/
def reportSkippedPacket (h : Harness) (timestamp : DateTime) : List (Option Event) × Harness :=
  h.ask fun a => Detectors.reportSkippedPacket a timestamp

/-- The text of a `DiagParsingError` in a row. -/
def debugParsingError : DiagParsingError → String
  | .messageParsingError e data => Decoders.debugDekuError e data
  | .hdlcDecapsulationError e data => Decoders.debugHdlcError e data

/-- A row whose events are the detectors' answers. -/
def withEvents (row : AnalysisRow) (answer : List (Option Event) × Harness) :
    AnalysisRow × Harness :=
  ({ row with events := answer.1 }, answer.2)

variable [SerdeJson]

/-- The number of the next packet. It is a `usize`, which starts again at zero. -/
def nextPacketNum (h : Harness) : Nat := (h.packetNum + 1) % (SerdeJson.usizeMax + 1)

/-- `analyze_qmdl_message` (`analyzer.rs:529`). -/
def analyzeQmdlMessage (h : Harness) (maybeQmdlMessage : MessageItem) : AnalysisRow × Harness :=
  let h := { h with packetNum := h.nextPacketNum }
  let row : AnalysisRow := { packetNum := some h.packetNum }
  match maybeQmdlMessage with
  | .error err => ({ row with skippedMessageReason := some (debugParsingError err) }, h)
  | .ok qmdlMessage =>
    let packetTimestamp := qmdlMessage.timestamp?.map Decoders.toDatetime
    let row := { row with packetTimestamp }
    let skipped := fun row => match packetTimestamp with
      | some timestamp => withEvents row (h.reportSkippedPacket timestamp)
      | none => (row, h)
    match Decoders.parse qmdlMessage with
    | .ok none => skipped row
    | .error err =>
      skipped { row with skippedMessageReason := some (Decoders.debugParserError err) }
    | .ok (some (timestamp, gsmtapMsg)) =>
      let timestamp := Decoders.toDatetime timestamp
      match Decoders.tryFrom gsmtapMsg with
      | .error err =>
        let row := if Decoders.isDeliberatelyUnanalysed err then row
          else { row with
            skippedMessageReason := some (Decoders.debugInformationElementError err) }
        withEvents row (h.reportSkippedPacket timestamp)
      | .ok element => withEvents row (h.analyzeInformationElement element timestamp)

/-- The rows of a sequence of packets, and the harness after them. -/
def analyzeItems (h : Harness) : List MessageItem → List AnalysisRow × Harness
  | [] => ([], h)
  | item :: items =>
    let (row, h) := h.analyzeQmdlMessage item
    let (rows, h) := h.analyzeItems items
    (row :: rows, h)

/-- `analyze_qmdl_messages` (`analyzer.rs:589`). -/
def analyzeQmdlMessages (h : Harness) (container : MessagesContainer) :
    List AnalysisRow × Harness :=
  h.analyzeItems container.items

/-- `get_metadata` (`analyzer.rs:652`). -/
def getMetadata [Build] (h : Harness) : ReportMetadata where
  analyzers := h.analyzers.map fun a =>
    ⟨Detectors.getName a, Detectors.getDescription a, (Detectors.getVersion a).toNat⟩
  rayhunter := Build.runtimeMetadata
  reportVersion := REPORT_VERSION

/-! ## Numbering -/

omit [SerdeJson] in
@[simp] theorem ask_packetNum (h : Harness)
    (f : Detectors.Analyzer → Option Event × Detectors.Analyzer) :
    (h.ask f).2.packetNum = h.packetNum := rfl

/-- Every packet, skipped or not, takes one number, and its row carries it. -/
theorem analyzeQmdlMessage_packetNum (h : Harness) (item : MessageItem) :
    (h.analyzeQmdlMessage item).1.packetNum = some h.nextPacketNum ∧
      (h.analyzeQmdlMessage item).2.packetNum = h.nextPacketNum := by
  unfold analyzeQmdlMessage
  cases item with
  | error err => exact ⟨rfl, rfl⟩
  | ok m =>
    simp only
    cases Decoders.parse m with
    | error err => simp only; split <;> exact ⟨rfl, rfl⟩
    | ok r =>
      cases r with
      | none => simp only; split <;> exact ⟨rfl, rfl⟩
      | some p =>
        obtain ⟨t, g⟩ := p
        simp only
        cases Decoders.tryFrom g with
        | error err => simp only; split <;> exact ⟨rfl, rfl⟩
        | ok e => exact ⟨rfl, rfl⟩

/-- Analysing two stretches of packets one after the other is analysing the whole. -/
theorem analyzeItems_append (h : Harness) (xs ys : List MessageItem) :
    h.analyzeItems (xs ++ ys) =
      ((h.analyzeItems xs).1 ++ ((h.analyzeItems xs).2.analyzeItems ys).1,
        ((h.analyzeItems xs).2.analyzeItems ys).2) := by
  induction xs generalizing h with
  | nil => rfl
  | cons x xs ih => simp [analyzeItems, ih]

/-- The rows are numbered without a gap, up to where a `usize` ends. -/
theorem analyzeItems_packetNum (h : Harness) (items : List MessageItem) {k : Nat}
    {row : AnalysisRow} (hrow : (h.analyzeItems items).1[k]? = some row) :
    row.packetNum = some ((h.packetNum + k + 1) % (SerdeJson.usizeMax + 1)) := by
  induction items generalizing h k with
  | nil => simp [analyzeItems] at hrow
  | cons item items ih =>
    obtain ⟨h₁, h₂⟩ := h.analyzeQmdlMessage_packetNum item
    cases k with
    | zero =>
      simp only [analyzeItems, List.getElem?_cons_zero, Option.some.injEq] at hrow
      rw [← hrow, h₁, Nat.add_zero, nextPacketNum]
    | succ k =>
      simp only [analyzeItems, List.getElem?_cons_succ] at hrow
      rw [ih _ hrow, h₂, nextPacketNum, Nat.add_assoc, Nat.mod_add_mod]
      congr 2
      omega

/-- The number of a row is a `usize`. -/
theorem packetNum_le_of_mem {h : Harness} {items : List MessageItem} {row : AnalysisRow}
    (hrow : row ∈ (h.analyzeItems items).1) : ∀ n ∈ row.packetNum, n ≤ SerdeJson.usizeMax := by
  obtain ⟨k, hk⟩ := List.mem_iff_getElem?.1 hrow
  rw [h.analyzeItems_packetNum items hk]
  rintro n ⟨⟩
  exact Nat.le_of_lt_succ (Nat.mod_lt _ (Nat.succ_pos _))

end Harness

end Rayhunter
