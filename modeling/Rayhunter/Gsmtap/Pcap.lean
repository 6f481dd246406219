import Mathlib.Tactic.Linarith
import Mathlib.Tactic.NormNum.DivMod
import Rayhunter.Gsmtap.Capture
import Rayhunter.Gsmtap.Response

/-!
# Capture files, written and read again

`write_gsmtap_message` (`lib/src/pcap.rs`) wraps a GSMTAP frame into IP and UDP headers, and
`analyze_pcap_packet` (`lib/src/analysis/analyzer.rs`) takes it out again at fixed offsets. The frame
comes back with its type and its payload (`analyzePcapPacket_written`), but at another time: what is
written counts thousandths of the time since the Unix epoch, what is read is added to the GPS epoch,
and the two agree for no time (`reread_time_ne`).
-/

namespace Rayhunter

/-! ## Headers -/

/-- `IP_HEADER_LEN` (`pcap.rs:45`). -/
def IP_HEADER_LEN : UInt16 := 20

/-- `IpHeader` (`pcap.rs:48`). -/
structure IpHeader where
  versionAndIhl : UInt8
  dscp : UInt8
  totalLen : UInt16
  identification : UInt16
  flagsAndFragOffset : UInt8
  idk : UInt8
  ttl : UInt8
  protocol : UInt8
  checksum : UInt16
  srcAddr : UInt32
  dstAddr : UInt32
  deriving DecidableEq, Repr

/-- The fields of an IP header. -/
def IpHeader.fields (h : IpHeader) : List BitFields.Field :=
  [BitFields.byte h.versionAndIhl, BitFields.byte h.dscp, BitFields.word h.totalLen,
    BitFields.word h.identification, BitFields.byte h.flagsAndFragOffset, BitFields.byte h.idk,
    BitFields.byte h.ttl, BitFields.byte h.protocol, BitFields.word h.checksum,
    BitFields.doubleWord h.srcAddr, BitFields.doubleWord h.dstAddr]

/-- `to_bytes` of an `IpHeader`. -/
def IpHeader.toBytes (h : IpHeader) : Except DekuWriteError (List UInt8) := writeFields h.fields

/-- `UDP_HEADER_LEN` (`pcap.rs:62`). -/
def UDP_HEADER_LEN : UInt16 := 8

/-- `GSMTAP_PORT` (`pcap.rs:63`). -/
def GSMTAP_PORT : UInt16 := 4729

/-- `UdpHeader` (`pcap.rs:66`). -/
structure UdpHeader where
  srcPort : UInt16
  dstPort : UInt16
  length : UInt16
  checksum : UInt16
  deriving DecidableEq, Repr

/-- The fields of a UDP header. -/
def UdpHeader.fields (h : UdpHeader) : List BitFields.Field :=
  [BitFields.word h.srcPort, BitFields.word h.dstPort, BitFields.word h.length,
    BitFields.word h.checksum]

/-- `to_bytes` of a `UdpHeader`. -/
def UdpHeader.toBytes (h : UdpHeader) : Except DekuWriteError (List UInt8) := writeFields h.fields

/-- An IP header takes twenty bytes. -/
theorem IpHeader.toBytes_eq (h : IpHeader) : ∃ bytes, h.toBytes = .ok bytes ∧ bytes.length = 20 := by
  have hwidth : BitFields.width h.fields = 160 := rfl
  refine ⟨_, writeFields_of_fits (by simp [fields]), ?_⟩
  rw [BitFields.length_toBytes, hwidth]

/-- A UDP header takes eight. -/
theorem UdpHeader.toBytes_eq (h : UdpHeader) : ∃ bytes, h.toBytes = .ok bytes ∧ bytes.length = 8 := by
  have hwidth : BitFields.width h.fields = 64 := rfl
  refine ⟨_, writeFields_of_fits (by simp [fields]), ?_⟩
  rw [BitFields.length_toBytes, hwidth]

/-! ## Writing -/

/-- `EnhancedPacketBlock`: the time in nanoseconds and the comments of a packet. -/
structure EnhancedPacketBlock where
  interfaceId : UInt32
  timestamp : Nat
  originalLen : UInt32
  data : List UInt8
  comments : List String
  deriving DecidableEq, Repr

/-- `GsmtapPcapError` (`pcap.rs:17`), without the errors of the file. -/
inductive GsmtapPcapError
  | timestampOutOfRange
  | deku (e : DekuWriteError)
  deriving DecidableEq, Repr

/-- `GsmtapPcapWriter` (`pcap.rs:37`) with the packets it has written. -/
structure GsmtapPcapWriter where
  packets : List EnhancedPacketBlock
  ipId : UInt16
  deriving DecidableEq, Repr

variable [RecordCrates]

/-- The time of a packet (`pcap.rs:117`): microseconds where nanoseconds are meant, after a fault of
the library that writes them. -/
def packetTime (timestamp : Timestamp) : Except GsmtapPcapError Nat :=
  let nanos := (Gsmtap.toDatetime timestamp).nanos
  if nanos < 0 then .error .timestampOutOfRange
  else .ok (nanos.toNat / 1000 % 2 ^ 64)

/-- The headers of a packet (`pcap.rs:129`). -/
def packetHeaders (ipId : UInt16) (msgBytes : List UInt8) : IpHeader × UdpHeader :=
  ({ versionAndIhl := 0x45
     dscp := 0
     totalLen := UInt16.ofNat msgBytes.length + IP_HEADER_LEN + UDP_HEADER_LEN
     identification := ipId
     flagsAndFragOffset := 0x40
     idk := 0
     ttl := 64
     protocol := 0x11
     checksum := 0xffff
     srcAddr := 0x7f000001
     dstAddr := 0x7f000001 },
    { srcPort := 13337
      dstPort := GSMTAP_PORT
      length := UInt16.ofNat msgBytes.length + UDP_HEADER_LEN
      checksum := 0xffff })

/-- The packet that is written (`pcap.rs:158`). -/
def enhancedPacket (duration : Nat) (data : List UInt8) (comment : Option String) :
    EnhancedPacketBlock where
  interfaceId := 0
  timestamp := duration
  originalLen := UInt32.ofNat data.length
  data
  comments := comment.toList

/-- `write_gsmtap_message` (`pcap.rs:111`); `comment` is the JSON text of a position. -/
def GsmtapPcapWriter.writeGsmtapMessage {GpsPoint : Type} (comment : GpsPoint → String)
    (w : GsmtapPcapWriter) (msg : GsmtapMessage) (timestamp : Timestamp) (gps : Option GpsPoint) :
    Except GsmtapPcapError GsmtapPcapWriter := do
  let duration ← packetTime timestamp
  let msgBytes ← msg.toBytes.mapError .deku
  let ip ← (packetHeaders w.ipId msgBytes).1.toBytes.mapError .deku
  let udp ← (packetHeaders w.ipId msgBytes).2.toBytes.mapError .deku
  let packet := enhancedPacket duration (ip ++ udp ++ msgBytes) (gps.map comment)
  return { packets := w.packets ++ [packet], ipId := w.ipId + 1 }

/-- The nanoseconds a time is written as. -/
def writtenNanos (timestamp : Timestamp) : Nat :=
  (315964800000 + RecordCrates.millis timestamp) * 1000 % 2 ^ 64

theorem packetTime_eq (timestamp : Timestamp) :
    packetTime timestamp = .ok (writtenNanos timestamp) := by
  have hpos : ¬ (Gsmtap.toDatetime timestamp).nanos < 0 := by
    simp only [Gsmtap.toDatetime]
    omega
  rw [packetTime, if_neg hpos, writtenNanos]
  congr 2
  simp only [Gsmtap.toDatetime]
  omega

/-- A frame with a header that can be written is written into one packet: an IP header, a UDP header
and its own bytes. -/
theorem writeGsmtapMessage_packet {GpsPoint : Type} (comment : GpsPoint → String)
    (w : GsmtapPcapWriter) {msg : GsmtapMessage} {msgBytes : List UInt8}
    (hmsg : msg.toBytes = .ok msgBytes) (timestamp : Timestamp) (gps : Option GpsPoint) :
    ∃ ip udp, (packetHeaders w.ipId msgBytes).1.toBytes = .ok ip ∧ ip.length = 20 ∧
      (packetHeaders w.ipId msgBytes).2.toBytes = .ok udp ∧ udp.length = 8 ∧
      w.writeGsmtapMessage comment msg timestamp gps =
        .ok ⟨w.packets ++ [enhancedPacket (writtenNanos timestamp) (ip ++ udp ++ msgBytes)
          (gps.map comment)], w.ipId + 1⟩ := by
  obtain ⟨ip, hip, hiplen⟩ := (packetHeaders w.ipId msgBytes).1.toBytes_eq
  obtain ⟨udp, hudp, hudplen⟩ := (packetHeaders w.ipId msgBytes).2.toBytes_eq
  refine ⟨ip, udp, hip, hiplen, hudp, hudplen, ?_⟩
  rw [GsmtapPcapWriter.writeGsmtapMessage, packetTime_eq, hmsg]
  simp only [Except.mapError, bind, Except.bind]
  rw [hip, hudp]
  rfl

/-- Its bytes start after twenty-eight others, and its payload after sixteen more. -/
theorem writeGsmtapMessage_eq {GpsPoint : Type} (comment : GpsPoint → String)
    (w : GsmtapPcapWriter) {msg : GsmtapMessage} (hmsg : msg.header.WellFormed)
    (timestamp : Timestamp) (gps : Option GpsPoint) :
    ∃ packet, w.writeGsmtapMessage comment msg timestamp gps =
        .ok ⟨w.packets ++ [packet], w.ipId + 1⟩ ∧
      packet.timestamp = writtenNanos timestamp ∧
      ∃ before header, packet.data = before ++ header ++ msg.payload ∧ before.length = 28 ∧
        msg.header.toBytes = .ok header := by
  obtain ⟨header, hheader, -⟩ := hmsg.toBytes
  have hbytes : msg.toBytes = .ok (header ++ msg.payload) := by
    rw [GsmtapMessage.toBytes, hheader]
    rfl
  obtain ⟨ip, udp, -, hiplen, -, hudplen, hwrite⟩ :=
    writeGsmtapMessage_packet comment w hbytes timestamp gps
  refine ⟨_, hwrite, rfl, ip ++ udp, header, (List.append_assoc ..).symm, ?_, hheader⟩
  rw [List.length_append, hiplen, hudplen]

/-! ## Reading -/

variable [Detectors] [SerdeJson]

/-- The text of a `GsmtapTypeError`. -/
def GsmtapTypeError.debug : GsmtapTypeError → String
  | invalidTypeSubtypeCombo gsmtapType gsmtapSubtype =>
    s!"InvalidTypeSubtypeCombo({gsmtapType.toNat}, {gsmtapSubtype.toNat})"

/-- `analyze_pcap_packet` (`analyzer.rs:474`), with nothing where it reads past the packet's end. -/
def Harness.analyzePcapPacket (h : Harness) (packet : EnhancedPacketBlock) :
    Option (AnalysisRow × Harness) :=
  let h := { h with packetNum := h.nextPacketNum }
  let packetTimestamp : DateTime := ⟨315964800000000000 + packet.timestamp, 0⟩
  let row : AnalysisRow :=
    { packetNum := some h.packetNum
      packetTimestamp := some packetTimestamp }
  let gsmtapData := packet.data.drop 28
  match gsmtapData[2]?, gsmtapData[12]? with
  | some gsmtapType, some gsmtapSubtype =>
    match GsmtapType.new gsmtapType gsmtapSubtype with
    | .error err => some (withEvents
        { row with skippedMessageReason := some ("failed to read GsmtapHeader: " ++ err.debug) }
        (h.reportSkippedPacket packetTimestamp))
    | .ok gsmtapType =>
      if packet.data.length < 44 then none
      else
        match Gsmtap.tryFrom ⟨.new gsmtapType, packet.data.drop 44⟩ with
        | .ok element => some (withEvents row (h.analyzeInformationElement element packetTimestamp))
        | .error err =>
          let msg := s!"in packet {h.packetNum}, failed to convert gsmtap message to IE: {err.debug}"
          let row := if Gsmtap.isDeliberatelyUnanalysed err then row
            else { row with skippedMessageReason := some msg }
          some (withEvents row (h.reportSkippedPacket packetTimestamp))
  | _, _ => none

/-- What the detectors say of a frame at a time. -/
def Harness.hear (h : Harness) (frame : GsmtapMessage) (time : DateTime) : List (Option Event) :=
  match Gsmtap.tryFrom frame with
  | .ok element => (h.analyzeInformationElement element time).1
  | .error _ => (h.reportSkippedPacket time).1

/-- The harness at its next packet. -/
def Harness.next (h : Harness) : Harness := { h with packetNum := h.nextPacketNum }

/-- A packet in which a frame is found at its place is heard as that frame. -/
theorem analyzePcapPacket_eq (h : Harness) {packet : EnhancedPacketBlock} {frame : GsmtapMessage}
    {before header : List UInt8} (hdata : packet.data = before ++ header ++ frame.payload)
    (hbefore : before.length = 28) (hframe : frame.header.WellFormed)
    (hheader : frame.header.toBytes = .ok header) :
    ∃ row h', h.analyzePcapPacket packet = some (row, h') ∧
      row.packetTimestamp = some ⟨315964800000000000 + packet.timestamp, 0⟩ ∧
      row.events = h.next.hear frame ⟨315964800000000000 + packet.timestamp, 0⟩ := by
  obtain ⟨bytes, hbytes, hlength, htype, hsubtype⟩ := hframe.toBytes
  cases hheader.symm.trans hbytes
  have hgsmtap : packet.data.drop 28 = header ++ frame.payload := by
    rw [hdata, List.append_assoc, ← hbefore, List.drop_left]
  have hpayload : packet.data.drop 44 = frame.payload := by
    rw [hdata]
    exact List.drop_left' (by rw [List.length_append, hbefore, hlength])
  have hlong : ¬ packet.data.length < 44 := by
    rw [hdata, List.length_append, List.length_append, hbefore, hlength]
    omega
  have htype' : (packet.data.drop 28)[2]? = some frame.header.gsmtapType.getType := by
    rw [hgsmtap, List.getElem?_append_left (by omega), htype]
  have hsubtype' : (packet.data.drop 28)[12]? = some frame.header.gsmtapType.getSubtype := by
    rw [hgsmtap, List.getElem?_append_left (by omega), hsubtype]
  have helement : Gsmtap.tryFrom ⟨.new frame.header.gsmtapType, frame.payload⟩ =
      Gsmtap.tryFrom frame := Gsmtap.tryFrom_congr rfl rfl
  unfold Harness.analyzePcapPacket Harness.hear Harness.next
  simp only [htype', hsubtype', GsmtapType.new_getType, if_neg hlong, hpayload, helement]
  cases Gsmtap.tryFrom frame with
  | ok element => exact ⟨_, _, rfl, rfl, rfl⟩
  | error err =>
    refine ⟨_, _, rfl, ?_, rfl⟩
    simp only
    split <;> rfl

omit [SerdeJson] in
/-- A transport block is no element. -/
theorem hear_transport (h : Harness) {packet : MacPacket} {frame : GsmtapMessage}
    (hframe : frame ∈ GsmtapParser.transportFrames packet) (time : DateTime) :
    h.hear frame time = (h.reportSkippedPacket time).1 := by
  rw [Harness.hear, tryFrom_transport hframe]

/-- A message that is converted to one frame is heard as that frame. -/
theorem analyzeQmdlMessage_eq (h : Harness) {msg : Message LogBody} {timestamp : Timestamp}
    {frame : GsmtapMessage} (hmsg : GsmtapParser.parseAll msg = .ok [(timestamp, frame)]) :
    (h.analyzeQmdlMessage (.ok msg)).1.packetTimestamp = some (Gsmtap.toDatetime timestamp) ∧
      (h.analyzeQmdlMessage (.ok msg)).1.events =
        h.next.hear frame (Gsmtap.toDatetime timestamp) := by
  cases msg with
  | response => cases hmsg
  | log pendingMsgs outerLength innerLength logType time body =>
    rw [GsmtapParser.parseAll] at hmsg
    unfold Harness.analyzeQmdlMessage
    obtain ⟨e, hall, -⟩ | ⟨packet, hall, hone, -⟩ | ⟨single, hall, hone, -⟩ :=
      GsmtapParser.logToGsmtapAll_cases body
    · rw [hall] at hmsg
      cases hmsg
    · rw [hall] at hmsg
      obtain ⟨frame', hframes, hpair⟩ := List.map_eq_singleton_iff.1 (Except.ok.inj hmsg)
      cases hpair
      have hparse : Decoders.parse (.log pendingMsgs outerLength innerLength logType timestamp body) =
          .ok none := by
        show (GsmtapParser.logToGsmtap body).map _ = _
        rw [hone]
        rfl
      simp only [hparse]
      exact ⟨rfl, (hear_transport h.next (hframes ▸ List.mem_singleton_self frame) _).symm⟩
    · rw [hall] at hmsg
      obtain ⟨frame', hframes, hpair⟩ := List.map_eq_singleton_iff.1 (Except.ok.inj hmsg)
      cases hpair
      obtain rfl : single = some frame := by
        cases single with
        | none => cases hframes
        | some m => cases hframes; rfl
      have hparse : Decoders.parse (.log pendingMsgs outerLength innerLength logType timestamp body) =
          .ok (some (timestamp, frame)) := by
        show (GsmtapParser.logToGsmtap body).map _ = _
        rw [hone]
        rfl
      have helement : Decoders.tryFrom frame = Gsmtap.tryFrom frame := rfl
      simp only [hparse, helement, Harness.hear]
      cases Gsmtap.tryFrom frame with
      | ok element => exact ⟨rfl, rfl⟩
      | error err =>
        refine ⟨?_, rfl⟩
        simp only
        split <;> rfl

/-! ## Times -/

omit [RecordCrates] [Detectors] [SerdeJson] in
/-- A number of milliseconds since the Unix epoch, written as so many microseconds and read as
nanoseconds since the GPS epoch, is another: their difference is no multiple of 999. -/
theorem time_ne (millis : Nat) :
    315964800000000000 + millis * 1000 % 2 ^ 64 ≠ millis * 1000000 := by
  intro h
  have hsmall := Nat.mod_lt (millis * 1000) (show 2 ^ 64 > 0 by decide)
  rcases Nat.lt_or_ge (millis * 1000) (2 ^ 64) with hlt | hge
  · rw [Nat.mod_eq_of_lt hlt] at h
    have hdvd : 999 ∣ 315964800000000000 := ⟨millis * 1000, by linarith⟩
    norm_num at hdvd
  · have hbound : 315964800000000000 + 2 ^ 64 ≤ 1000 * 2 ^ 64 := by norm_num
    linarith

omit [Detectors] [SerdeJson] in
/-- The time a message was written at is not the time it is read at. -/
theorem reread_time_ne (timestamp : Timestamp) :
    (⟨315964800000000000 + writtenNanos timestamp, 0⟩ : DateTime) ≠
      Gsmtap.toDatetime timestamp := by
  intro h
  have hnanos := congrArg DateTime.nanos h
  simp only [Gsmtap.toDatetime, writtenNanos] at hnanos
  exact time_ne _ (by exact_mod_cast hnanos)

/-- What is written of a message is read at another time. -/
theorem reread_at_another_time {GpsPoint : Type} (comment : GpsPoint → String)
    (w : GsmtapPcapWriter) (gps : Option GpsPoint) (h : Harness) {msg : Message LogBody}
    {timestamp : Timestamp} {frame : GsmtapMessage}
    (hmsg : GsmtapParser.parseAll msg = .ok [(timestamp, frame)]) :
    ∃ packet row h',
      w.writeGsmtapMessage comment frame timestamp gps = .ok ⟨w.packets ++ [packet], w.ipId + 1⟩ ∧
      h.analyzePcapPacket packet = some (row, h') ∧
      row.packetTimestamp ≠ (h.analyzeQmdlMessage (.ok msg)).1.packetTimestamp := by
  have hframe : frame.header.WellFormed :=
    GsmtapParser.wellFormed_of_parseAll hmsg (List.mem_singleton_self _)
  obtain ⟨packet, hwritten, htime, before, header, hdata, hbefore, hheader⟩ :=
    writeGsmtapMessage_eq comment w hframe timestamp gps
  obtain ⟨row, h', hread, hrow, -⟩ := analyzePcapPacket_eq h hdata hbefore hframe hheader
  refine ⟨packet, row, h', hwritten, hread, ?_⟩
  rw [hrow, htime, (analyzeQmdlMessage_eq h hmsg).1]
  exact fun heq => reread_time_ne timestamp (Option.some.inj heq)

/-- The packet written of a frame is analysed as the message of the frame is: with the same events,
at the same time. -/
def SameReread {GpsPoint : Type} (comment : GpsPoint → String) (w : GsmtapPcapWriter)
    (gps : Option GpsPoint) (h : Harness) (msg : Message LogBody) (timestamp : Timestamp)
    (frame : GsmtapMessage) : Prop :=
  ∃ packet row h',
    w.writeGsmtapMessage comment frame timestamp gps = .ok ⟨w.packets ++ [packet], w.ipId + 1⟩ ∧
    h.analyzePcapPacket packet = some (row, h') ∧
    row.events = (h.analyzeQmdlMessage (.ok msg)).1.events ∧
    row.packetTimestamp = (h.analyzeQmdlMessage (.ok msg)).1.packetTimestamp

/-- A packet that is read at another time is not analysed as the message is. -/
theorem not_sameReread {GpsPoint : Type} {comment : GpsPoint → String} {w : GsmtapPcapWriter}
    {gps : Option GpsPoint} {h : Harness} {msg : Message LogBody} {timestamp : Timestamp}
    {frame : GsmtapMessage} (hmsg : GsmtapParser.parseAll msg = .ok [(timestamp, frame)]) :
    ¬ SameReread comment w gps h msg timestamp frame := by
  rintro ⟨packet, row, h', hwritten, hread, -, hsame⟩
  obtain ⟨packet₂, row₂, h₂, hwritten₂, hread₂, hother⟩ :=
    reread_at_another_time comment w gps h hmsg
  have hpackets := congrArg GsmtapPcapWriter.packets (Except.ok.inj (hwritten.symm.trans hwritten₂))
  obtain rfl : packet = packet₂ := List.singleton_inj.1 (List.append_cancel_left hpackets)
  cases Option.some.inj (hread.symm.trans hread₂)
  exact hother hsame

/-- **No message is analysed from the capture as it is from the recording.** -/
theorem reread_never_same {GpsPoint : Type} (comment : GpsPoint → String) (w : GsmtapPcapWriter)
    (gps : Option GpsPoint) (h : Harness) (msg : Message LogBody) (timestamp : Timestamp)
    (frame : GsmtapMessage) (hmsg : GsmtapParser.parseAll msg = .ok [(timestamp, frame)]) :
    ¬ SameReread comment w gps h msg timestamp frame :=
  not_sameReread hmsg

omit [RecordCrates] [Detectors] [SerdeJson] in
/-- Detectors that find nothing. -/
@[reducible] def silentDetectors [Decoders] : Detectors where
  Analyzer := Unit
  getName _ := ""
  getDescription _ := ""
  getVersion _ := 0
  analyzeInformationElement a _ _ _ := (none, a)
  reportSkippedPacket a _ := (none, a)
  imsiRequestedAnalyzer _ := ()
  connectionRedirect2GDowngradeAnalyzer := ()
  lteSib6And7DowngradeAnalyzer := ()
  nullCipherAnalyzer := ()
  nasNullCipherAnalyzer := ()
  incompleteSibAnalyzer := ()
  lppLocationRequestAnalyzer := ()
  lppLocationTrackingAnalyzer := ()
  rrlpLocationAnalyzer := ()
  timingAdvanceAnalyzer := ()
  flashCatchAnalyzer := ()
  testAnalyzer := ()
  noNasMessagesAnalyzer := ()
  diagnosticAnalyzer := ()

/-- The record of a GSM message on the broadcast channel. -/
def broadcastRecord : Message LogBody :=
  .log 0 18 18 0x512f ⟨0⟩ (.gsmRrSignallingMessage 1 0x1b 3 [0x31, 0x06, 0x1b])

/-- Its frame. -/
def broadcastFrame : GsmtapMessage := ⟨.new (.um .bcch), [0x31, 0x06, 0x1b]⟩

omit [RecordCrates] [Detectors] [SerdeJson] in
/-- This one is not. -/
theorem reread_never_same_broadcast :
    let _ := plainCrates
    let _ := silentDetectors
    let _ := jsonText
    ¬ SameReread (fun _ : Unit => "") ⟨[], 0⟩ none ⟨[], 0⟩ broadcastRecord ⟨0⟩ broadcastFrame := by
  intro _ _ _
  exact reread_never_same _ _ _ _ _ _ _ rfl

omit [RecordCrates] [Detectors] [SerdeJson] in
/-- A message at the GPS epoch is read again as one of three days after it. -/
theorem reread_of_epoch :
    let _ := plainCrates
    let _ := silentDetectors
    let _ := jsonText
    ¬ ∀ (w : GsmtapPcapWriter) (h : Harness) (msg : Message LogBody) (timestamp : Timestamp)
        (frame : GsmtapMessage), GsmtapParser.parseAll msg = .ok [(timestamp, frame)] →
      SameReread (fun _ : Unit => "") w none h msg timestamp frame := by
  intro _ _ _ h
  have hmsg : GsmtapParser.parseAll broadcastRecord = .ok [(⟨0⟩, broadcastFrame)] := rfl
  exact not_sameReread hmsg (h ⟨[], 0⟩ ⟨[], 0⟩ broadcastRecord ⟨0⟩ broadcastFrame hmsg)

end Rayhunter
