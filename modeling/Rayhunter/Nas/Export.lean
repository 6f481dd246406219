import Mathlib.Data.List.Forall2
import Rayhunter.Nas.Redact
import Rayhunter.Qmdl.Stream

/-!
# Exporting a capture without the device's identities

`generate_pcap_data_inner` (`daemon/src/pcap.rs`) turns the messages of a recording into GSMTAP
frames and, where it is asked to, removes the identity from each LTE NAS frame on the way. Messages
with a security header keep theirs, also where their contents are not ciphered, so what a redacted
export hides is exactly what is sent in plain messages (`redacted_export_eq_iff`).
-/

namespace Rayhunter

/-! ## Frames -/

/-- What `log_to_gsmtap_all` (`gsmtap/parser.rs:83`) makes of the body of a log record: the direction
and the bytes of a NAS message, or the frames of anything else, none of which is an LTE NAS frame. -/
class GsmtapFrames [Decoders] where
  OtherFrame : Type
  nas4GMessage : Decoders.LogBody → Option (Bool × List UInt8)
  otherFrames : Decoders.LogBody → Except Decoders.ParserError (List OtherFrame)

variable [Decoders] [GsmtapFrames]

/-- `GsmtapMessage` (`gsmtap/mod.rs:299`), with what the export looks at. -/
inductive GsmtapFrame
  | lteNas (uplink : Bool) (payload : List UInt8)
  | other (frame : GsmtapFrames.OtherFrame)

/-- `log_to_gsmtap_all` (`gsmtap/parser.rs:83`). -/
def logToGsmtapAll (body : Decoders.LogBody) : Except Decoders.ParserError (List GsmtapFrame) :=
  match GsmtapFrames.nas4GMessage body with
  | some (uplink, msg) => .ok [.lteNas uplink msg]
  | none => (GsmtapFrames.otherFrames body).map (·.map .other)

/-- `parse_all` (`gsmtap/parser.rs:36`). -/
def parseAll : Message Decoders.LogBody →
    Except Decoders.ParserError (List (Timestamp × GsmtapFrame))
  | .log _ _ _ _ timestamp body => (logToGsmtapAll body).map (·.map (timestamp, ·))
  | .response .. => .ok []

/-! ## The export -/

/-- The errors of `generate_pcap_data_inner`. -/
inductive ExportError
  | read (e : IoError)
  | parse (e : Decoders.ParserError)

/-- A frame as it is written, with the position it is given by its time. -/
structure ExportedFrame (GpsPoint : Type) where
  timestamp : Timestamp
  frame : GsmtapFrame
  gps : Option GpsPoint

variable {GpsPoint : Type}

/-- The identity is taken out of an LTE NAS frame (`pcap.rs:210`). -/
def redactFrame (report : RedactionReport) : GsmtapFrame → RedactionReport × GsmtapFrame
  | .lteNas uplink payload =>
    let report := { report with messagesScanned := report.messagesScanned + 1 }
    match redactNasIdentity payload with
    | (some identity, payload) => (report.record identity, .lteNas uplink payload)
    | (none, payload) => (report, .lteNas uplink payload)
  | .other frame => (report, .other frame)

section
variable (redact : Bool) (findNearestGps : Int → Option GpsPoint)

/-- The frames of one message (`pcap.rs:209`). -/
def exportFrames : RedactionReport → List (Timestamp × GsmtapFrame) →
    RedactionReport × List (ExportedFrame GpsPoint)
  | report, [] => (report, [])
  | report, (timestamp, frame) :: frames =>
    let (report, frame) := if redact then redactFrame report frame else (report, frame)
    let (report, rest) := exportFrames report frames
    (report, ⟨timestamp, frame, findNearestGps (Decoders.toDatetime timestamp).timestamp⟩ :: rest)

/-- The loop of `generate_pcap_data_inner` (`pcap.rs:203`) over the messages of a recording and what
it ends with. A message that cannot be parsed is only logged. -/
def exportMessages (ending : Option IoError) : RedactionReport → List MessageItem →
    List (ExportedFrame GpsPoint) × Except ExportError RedactionReport
  | report, [] =>
    match ending with
    | none => ([], .ok report)
    | some e => ([], .error (.read e))
  | report, .error _ :: items => exportMessages ending report items
  | report, .ok msg :: items =>
    match parseAll msg with
    | .error e => ([], .error (.parse e))
    | .ok frames =>
      let (report, written) := exportFrames redact findNearestGps report frames
      let (rest, result) := exportMessages ending report items
      (written ++ rest, result)

/-- `generate_pcap_data_inner` (`pcap.rs:189`): the frames handed to the writer, and the result. -/
def generatePcapDataInner (reader : QmdlMessageReader) :
    List (ExportedFrame GpsPoint) × Except ExportError RedactionReport :=
  exportMessages redact findNearestGps reader.readAll.2 {} reader.readAll.1

end

/-- The LTE NAS frames of an export. -/
def lteNasFrames (written : List (ExportedFrame GpsPoint)) : List (ExportedFrame GpsPoint) :=
  written.filter fun e =>
    match e.frame with
    | .lteNas .. => true
    | .other _ => false

/-! ## The NAS messages of a recording -/

/-- A NAS message as a recording has it. -/
@[ext] structure NasMessage where
  timestamp : Timestamp
  uplink : Bool
  payload : List UInt8

/-- The NAS message of a frame. -/
def NasMessage.ofFrame : Timestamp × GsmtapFrame → Option NasMessage
  | (timestamp, .lteNas uplink payload) => some ⟨timestamp, uplink, payload⟩
  | (_, .other _) => none

/-- The NAS messages that an export comes to: a record that makes no frames ends it. -/
def nasMessages : List MessageItem → List NasMessage
  | [] => []
  | .error _ :: items => nasMessages items
  | .ok msg :: items =>
    match parseAll msg with
    | .error _ => []
    | .ok frames => frames.filterMap NasMessage.ofFrame ++ nasMessages items

/-- The frame that is written for a NAS message when identities are removed. -/
def NasMessage.redacted (findNearestGps : Int → Option GpsPoint) (m : NasMessage) :
    ExportedFrame GpsPoint :=
  ⟨m.timestamp, .lteNas m.uplink (redactNasIdentity m.payload).2,
    findNearestGps (Decoders.toDatetime m.timestamp).timestamp⟩

theorem redactFrame_lteNas (report : RedactionReport) (uplink : Bool) (payload : List UInt8) :
    (redactFrame report (.lteNas uplink payload)).2 =
      .lteNas uplink (redactNasIdentity payload).2 := by
  simp only [redactFrame]
  generalize redactNasIdentity payload = found
  obtain ⟨_ | identity, redacted⟩ := found <;> rfl

/-- The LTE NAS frames of one message, redacted. -/
theorem lteNasFrames_exportFrames (findNearestGps : Int → Option GpsPoint)
    (report : RedactionReport) (frames : List (Timestamp × GsmtapFrame)) :
    lteNasFrames (exportFrames true findNearestGps report frames).2 =
      (frames.filterMap NasMessage.ofFrame).map (NasMessage.redacted findNearestGps) := by
  induction frames generalizing report with
  | nil => rfl
  | cons frame frames ih =>
    obtain ⟨timestamp, frame⟩ := frame
    cases frame with
    | lteNas uplink payload =>
      simp only [exportFrames, if_true, lteNasFrames, redactFrame_lteNas, List.filter_cons,
        NasMessage.ofFrame, List.filterMap_cons, List.map_cons, NasMessage.redacted]
      rw [← ih]
      rfl
    | other frame =>
      simp only [exportFrames, if_true, redactFrame, lteNasFrames, List.filter_cons,
        NasMessage.ofFrame, List.filterMap_cons, Bool.false_eq_true, if_false]
      rw [← ih]
      rfl

/-- The LTE NAS frames of a redacted export are the recording's NAS messages, each redacted. -/
theorem lteNasFrames_exportMessages (findNearestGps : Int → Option GpsPoint)
    (ending : Option IoError) (report : RedactionReport) (items : List MessageItem) :
    lteNasFrames (exportMessages true findNearestGps ending report items).1 =
      (nasMessages items).map (NasMessage.redacted findNearestGps) := by
  induction items generalizing report with
  | nil => cases ending <;> rfl
  | cons item items ih =>
    cases item with
    | error e => exact ih report
    | ok msg =>
      unfold exportMessages nasMessages
      cases parseAll msg with
      | error e => rfl
      | ok frames =>
        simp only [List.map_append]
        rw [← lteNasFrames_exportFrames findNearestGps report, ← ih]
        exact List.filter_append ..

/-! ## Messages that can be read -/

/-- The security header type of an EMM message. -/
def securityHeader (payload : List UInt8) : Option UInt8 :=
  payload[0]?.bind fun header => if header &&& 0x0f = PD_EMM then some (header >>> 4) else none

/-- Where the plain message starts in one whose contents are not ciphered: behind the security header
of a message that is only integrity protected, at the start of any other. -/
def plainStart (payload : List UInt8) : Nat :=
  if securityHeader payload = some 1 ∨ securityHeader payload = some 3 then 6 else 0

/-- The identity in a message whose contents are not ciphered, and where it is. -/
def readableIdentity (payload : List UInt8) : Option (Identity × ByteRange) :=
  let k := plainStart payload
  (identityFromNasWithRange (payload.drop k)).map fun (identity, range) =>
    (identity, ⟨range.start + k, range.stop + k⟩)

/-- Two messages differ at most in the digits of a readable identity of one kind. -/
def SameButDigits (payload other : List UInt8) : Prop :=
  payload = other ∨
    ∃ identity range identity' range',
      readableIdentity payload = some (identity, range) ∧
      readableIdentity other = some (identity', range') ∧
      other.length = payload.length ∧ (∀ k, k ∉ range → other[k]? = payload[k]?) ∧
      identity'.kind = identity.kind ∧ oddFlagAt other range' = oddFlagAt payload range

/-- A plain message has no security header. -/
def PlainNas (payload : List UInt8) : Prop := securityHeader payload = some 0

omit [Decoders] [GsmtapFrames] in
/-- An identity is found in plain messages. -/
theorem plainNas_of_identity {payload : List UInt8} {found : Identity × ByteRange}
    (h : identityFromNasWithRange payload = some found) : PlainNas payload := by
  obtain ⟨header, hheader, h⟩ := Option.bind_eq_some_iff.1 h
  split at h
  · cases h
  next hpd =>
  split at h
  · cases h
  next hplain =>
  rw [PlainNas, securityHeader, hheader, Option.bind_some, if_pos (not_not.1 hpd),
    not_not.1 hplain]

omit [Decoders] [GsmtapFrames] in
/-- A message with a security header is left as it is. -/
theorem redactNasIdentity_of_protected {payload : List UInt8} (h : ¬ PlainNas payload) :
    redactNasIdentity payload = (none, payload) := by
  refine redactNasIdentity_of_none ?_
  cases hfound : identityFromNasWithRange payload with
  | none => rfl
  | some found => exact absurd (plainNas_of_identity hfound) h

omit [Decoders] [GsmtapFrames] in
/-- The identity in a plain message starts after its first byte. -/
theorem zero_notMem_of_readable {payload : List UInt8} {identity : Identity} {range : ByteRange}
    (h : readableIdentity payload = some (identity, range)) : 0 ∉ range := by
  obtain ⟨⟨identity', range'⟩, hfound, hpair⟩ := Option.map_eq_some_iff.1 h
  cases hpair
  obtain ⟨head, value, tail, -, hannounces, -, rfl⟩ := identityFromNasWithRange_eq_some hfound
  have hhead : 0 < head.length := by
    generalize value.length = n at hannounces
    cases hannounces <;> simp
  rw [ByteRange.mem_iff]
  simp only
  omega

omit [Decoders] [GsmtapFrames] in
/-- Redaction makes such messages the same just where they are, or where they are plain. -/
theorem SameButDigits.redacted_eq_iff {payload other : List UInt8}
    (h : SameButDigits payload other) :
    (redactNasIdentity payload).2 = (redactNasIdentity other).2 ↔
      (payload ≠ other → PlainNas payload) := by
  obtain rfl | ⟨identity, range, identity', range', hread, hread', hlength, hagree, hkind, hodd⟩ := h
  · simp
  have hheader : securityHeader other = securityHeader payload := by
    rw [securityHeader, securityHeader, hagree 0 (zero_notMem_of_readable hread)]
  by_cases hplain : PlainNas payload
  · have hstart : plainStart payload = 0 := by
      rw [plainStart, hplain]
      decide
    have hstart' : plainStart other = 0 := by
      rw [plainStart, hheader, hplain]
      decide
    simp only [readableIdentity, hstart, hstart', List.drop_zero, Nat.add_zero, Option.map_id']
      at hread hread'
    simp only [hplain, implies_true, iff_true]
    exact (redactNasIdentity_eq hread hread' hlength hagree hkind hodd).symm
  · have hplain' : ¬ PlainNas other := by rwa [PlainNas, hheader]
    rw [redactNasIdentity_of_protected hplain, redactNasIdentity_of_protected hplain']
    simp [hplain]

/-! ## Two recordings -/

/-- Two items of recordings that differ at most in the digits of readable identities. -/
inductive Alike : MessageItem → MessageItem → Prop
  | same (item : MessageItem) : Alike item item
  | nas {pendingMsgs : UInt8} {outerLength innerLength logType : UInt16} {timestamp : Timestamp}
      {body body' : Decoders.LogBody} {uplink : Bool} {payload payload' : List UInt8} :
    GsmtapFrames.nas4GMessage body = some (uplink, payload) →
    GsmtapFrames.nas4GMessage body' = some (uplink, payload') → SameButDigits payload payload' →
    Alike (.ok (.log pendingMsgs outerLength innerLength logType timestamp body))
      (.ok (.log pendingMsgs outerLength innerLength logType timestamp body'))

/-- Two NAS messages of such recordings. -/
def NasMessage.Alike (m m' : NasMessage) : Prop :=
  m.timestamp = m'.timestamp ∧ m.uplink = m'.uplink ∧ SameButDigits m.payload m'.payload

omit [Decoders] [GsmtapFrames] in
theorem forall₂_alike_refl (messages : List NasMessage) :
    List.Forall₂ NasMessage.Alike messages messages :=
  List.forall₂_same.2 fun _ _ => ⟨rfl, rfl, .inl rfl⟩

/-- Such recordings have such NAS messages. -/
theorem nasMessages_alike {items items' : List MessageItem} (h : List.Forall₂ Alike items items') :
    List.Forall₂ NasMessage.Alike (nasMessages items) (nasMessages items') := by
  induction h with
  | nil => exact .nil
  | @cons item item' items items' halike _ ih =>
    cases halike with
    | same =>
      cases item with
      | error e => exact ih
      | ok msg =>
        unfold nasMessages
        cases parseAll msg with
        | error e => exact .nil
        | ok frames => exact List.rel_append (forall₂_alike_refl _) ih
    | @nas _ _ _ _ timestamp body body' uplink payload payload' hbody hbody' hdigits =>
      simp only [nasMessages, parseAll, logToGsmtapAll, hbody, hbody']
      exact .cons ⟨rfl, rfl, hdigits⟩ ih

/-- The redacted frames of such NAS messages are the same just where every one that differs is
plain. -/
theorem map_redacted_eq_iff (findNearestGps : Int → Option GpsPoint)
    {messages messages' : List NasMessage}
    (h : List.Forall₂ NasMessage.Alike messages messages') :
    messages.map (NasMessage.redacted findNearestGps) =
        messages'.map (NasMessage.redacted findNearestGps) ↔
      ∀ p ∈ messages.zip messages', p.1 ≠ p.2 → PlainNas p.1.payload := by
  induction h with
  | nil => simp
  | @cons m m' messages messages' halike _ ih =>
    obtain ⟨timestamp, uplink, payload⟩ := m
    obtain ⟨timestamp', uplink', payload'⟩ := m'
    obtain ⟨rfl, rfl, hdigits⟩ := halike
    have hone := hdigits.redacted_eq_iff
    simp only at hone
    simp only [List.map_cons, List.cons.injEq, ih, List.zip_cons_cons, List.forall_mem_cons,
      NasMessage.redacted, ExportedFrame.mk.injEq, GsmtapFrame.lteNas.injEq, true_and, and_true,
      hone, ne_eq, NasMessage.mk.injEq]

/-! ## Two subscribers -/

/-- `LOG_LTE_NAS_EMM_OTA_OUT_MSG_LOG_C` (`log_codes.rs:47`). -/
def LOG_LTE_NAS_EMM_OTA_OUT_MSG_LOG_C : UInt16 := 0xb0ed

/-- A log record with an EMM NAS message that is sent: the header, and the message after the four
version bytes of its body. -/
def sentRecord : List UInt8 → Option (List UInt8 × Message (List UInt8))
  | 16 :: pending :: o₀ :: o₁ :: i₀ :: i₁ :: t₀ :: t₁ :: rest =>
    let inner := fromLe [i₀, i₁]
    let logType := UInt16.ofNat (fromLe [t₀, t₁])
    let body := (rest.drop 8).take (inner - 12)
    if logType = LOG_LTE_NAS_EMM_OTA_OUT_MSG_LOG_C ∧ body.length = inner - 12 ∧ 4 ≤ body.length then
      some (rest.drop (8 + (inner - 12)),
        .log pending (UInt16.ofNat (fromLe [o₀, o₁])) (UInt16.ofNat inner) logType
          ⟨UInt64.ofNat (fromLe (rest.take 8))⟩ (body.drop 4))
    else none
  | _ => none

/-- Decoders that take such records and nothing else. -/
@[reducible] def sentDecoders : Decoders :=
  { nasDecoders with
    fromBytes := fun data =>
      match sentRecord data with
      | some r => .ok r
      | none => .error "no NAS record" }

/-- Each makes one frame. -/
@[reducible] def sentFrames : @GsmtapFrames sentDecoders :=
  let _ := sentDecoders
  { OtherFrame := Empty
    nas4GMessage := fun msg => some (true, msg)
    otherFrames := fun _ => .ok [] }

/-- The record of a message that is sent. -/
def recordOf (msg : List UInt8) : List UInt8 :=
  let inner := UInt8.ofNat (16 + msg.length)
  [16, 0, inner, 0, inner, 0, 0xed, 0xb0, 0, 0, 0, 0, 0, 0, 0, 0, 1, 0, 0, 0] ++ msg

/-- The recording of that record, in a frame in which nothing needs an escape. -/
def recordingOf (msg : List UInt8) : QmdlMessageReader :=
  let crc := crcCcitt (recordOf msg)
  ⟨false, recordOf msg ++ [crc.toUInt8, (crc >>> 8).toUInt8, MESSAGE_TERMINATOR], none⟩

/-- What is read of it. -/
def itemOf (msg : List UInt8) : let _ := sentDecoders; MessageItem :=
  let length := UInt16.ofNat (16 + msg.length)
  .ok (.log 0 length length LOG_LTE_NAS_EMM_OTA_OUT_MSG_LOG_C ⟨0⟩ msg)

omit [Decoders] [GsmtapFrames] in
theorem readAll_recordingOf {msg : List UInt8}
    (hframe : Chunks.splitInclusive isTerminator (recordingOf msg).data = [(recordingOf msg).data])
    (hhdlc : hdlcDecapsulate (recordingOf msg).data = .ok (recordOf msg))
    (hrecord : sentRecord (recordOf msg) = some ([], .log 0 (UInt16.ofNat (16 + msg.length))
      (UInt16.ofNat (16 + msg.length)) LOG_LTE_NAS_EMM_OTA_OUT_MSG_LOG_C ⟨0⟩ msg)) :
    let _ := sentDecoders
    (recordingOf msg).readAll = ([itemOf msg], none) := by
  intro _
  have hbytes : sentDecoders.fromBytes (recordOf msg) = .ok ([], .log 0
      (UInt16.ofNat (16 + msg.length)) (UInt16.ofNat (16 + msg.length))
      LOG_LTE_NAS_EMM_OTA_OUT_MSG_LOG_C ⟨0⟩ msg) := by
    show (match sentRecord (recordOf msg) with
      | some r => Except.ok r
      | none => .error "no NAS record") = _
    rw [hrecord]
  rw [QmdlMessageReader.readAll_eq rfl, hframe]
  simp only [List.map_cons, List.map_nil, Message.fromHdlc, hhdlc]
  rw [hbytes]
  rfl

/-- An identity response with the first digits of an IMSI. -/
def plainResponse (b : UInt8) : List UInt8 := [0x07, 0x56, 0x03, 0x39, b, 0x51]

/-- The same behind the security header of a message that is integrity protected only. -/
def protectedResponse (b : UInt8) : List UInt8 :=
  [0x17, 0xaa, 0xbb, 0xcc, 0xdd, 0x05] ++ plainResponse b

omit [Decoders] [GsmtapFrames] in
/-- What is exported of such a recording is its message, redacted. -/
theorem lteNasFrames_itemOf (msg : List UInt8) :
    let _ := sentDecoders
    let _ := sentFrames
    nasMessages [itemOf msg] = [⟨⟨0⟩, true, msg⟩] := rfl

omit [Decoders] [GsmtapFrames] in
/-- Two responses of subscribers with different digits, with and without a security header. -/
theorem readAll_responses :
    let _ := sentDecoders
    ((recordingOf (protectedResponse 0x01)).readAll = ([itemOf (protectedResponse 0x01)], none) ∧
      (recordingOf (protectedResponse 0x11)).readAll = ([itemOf (protectedResponse 0x11)], none)) ∧
    (recordingOf (plainResponse 0x01)).readAll = ([itemOf (plainResponse 0x01)], none) ∧
      (recordingOf (plainResponse 0x11)).readAll = ([itemOf (plainResponse 0x11)], none) :=
  ⟨⟨readAll_recordingOf (by decide +kernel) (by decide +kernel) rfl,
      readAll_recordingOf (by decide +kernel) (by decide +kernel) rfl⟩,
    readAll_recordingOf (by decide +kernel) (by decide +kernel) rfl,
    readAll_recordingOf (by decide +kernel) (by decide +kernel) rfl⟩

omit [Decoders] [GsmtapFrames] in
/-- What agrees at its first bytes and its last differs at most between them. -/
theorem sameButDigits_responses :
    SameButDigits (protectedResponse 0x01) (protectedResponse 0x11) ∧
      SameButDigits (plainResponse 0x01) (plainResponse 0x11) := by
  refine ⟨.inr ⟨.imsi "31015", ⟨9, 12⟩, .imsi "31115", ⟨9, 12⟩, by decide, by decide, rfl, ?_, rfl,
    rfl⟩, .inr ⟨.imsi "31015", ⟨3, 6⟩, .imsi "31115", ⟨3, 6⟩, by decide, by decide, rfl, ?_, rfl,
    rfl⟩⟩
  · intro k hk
    match k, hk with
    | 0, _ | 1, _ | 2, _ | 3, _ | 4, _ | 5, _ | 6, _ | 7, _ | 8, _ | 9, _ | 11, _ => rfl
    | 10, hk => exact absurd (by decide) hk
    | _ + 12, _ => rfl
  · intro k hk
    match k, hk with
    | 0, _ | 1, _ | 2, _ | 3, _ | 5, _ => rfl
    | 4, hk => exact absurd (by decide) hk
    | _ + 6, _ => rfl

/-! ## What an export hides -/

/-- **A redacted export hides the identities in plain messages, and only those.** The exports of two
recordings that differ in nothing but the digits of readable identities have the same LTE NAS frames
just where every NAS message in which they differ is one without a security header. -/
theorem redacted_export_eq_iff (findNearestGps : Int → Option GpsPoint) (r r' : QmdlMessageReader)
    (h : List.Forall₂ Alike r.readAll.1 r'.readAll.1) :
    lteNasFrames (generatePcapDataInner true findNearestGps r).1 =
        lteNasFrames (generatePcapDataInner true findNearestGps r').1 ↔
      ∀ p ∈ (nasMessages r.readAll.1).zip (nasMessages r'.readAll.1),
        p.1 ≠ p.2 → PlainNas p.1.payload := by
  unfold generatePcapDataInner
  rw [lteNasFrames_exportMessages, lteNasFrames_exportMessages]
  exact map_redacted_eq_iff findNearestGps (nasMessages_alike h)

omit [Decoders] [GsmtapFrames] in
/-- The digits of a plain response are gone. -/
theorem redacted_export_eq_iff_plain :
    let _ := sentDecoders
    let _ := sentFrames
    lteNasFrames (generatePcapDataInner true (fun _ => none (α := Unit))
        (recordingOf (plainResponse 0x01))).1 =
      lteNasFrames (generatePcapDataInner true (fun _ => none)
        (recordingOf (plainResponse 0x11))).1 := by
  intro _ _
  obtain ⟨-, hread, hread'⟩ := readAll_responses
  have hiff := redacted_export_eq_iff (fun _ => none (α := Unit)) (recordingOf (plainResponse 0x01))
    (recordingOf (plainResponse 0x11))
  rw [hread, hread'] at hiff
  refine (hiff (.cons (.nas rfl rfl sameButDigits_responses.2) .nil)).2 ?_
  rintro p hp -
  rw [lteNasFrames_itemOf, lteNasFrames_itemOf] at hp
  obtain rfl := List.mem_singleton.1 hp
  exact (rfl : securityHeader (plainResponse 0x01) = some 0)

omit [Decoders] [GsmtapFrames] in
/-- Those of a response that is integrity protected stay in its frame. -/
theorem redacted_export_protected :
    let _ := sentDecoders
    let _ := sentFrames
    ¬ ∀ r r' : QmdlMessageReader, List.Forall₂ Alike r.readAll.1 r'.readAll.1 →
      r.readAll.2 = r'.readAll.2 →
      lteNasFrames (generatePcapDataInner true (fun _ => none (α := Unit)) r).1 =
        lteNasFrames (generatePcapDataInner true (fun _ => none) r').1 := by
  intro _ _ h
  obtain ⟨⟨hread, hread'⟩, -⟩ := readAll_responses
  have heq := h (recordingOf (protectedResponse 0x01)) (recordingOf (protectedResponse 0x11))
  rw [hread, hread'] at heq
  have heq := heq (.cons (.nas rfl rfl sameButDigits_responses.1) .nil) rfl
  unfold generatePcapDataInner at heq
  rw [lteNasFrames_exportMessages, lteNasFrames_exportMessages, hread, hread'] at heq
  simp only [lteNasFrames_itemOf, List.map_cons, List.cons.injEq, NasMessage.redacted,
    ExportedFrame.mk.injEq, GsmtapFrame.lteNas.injEq] at heq
  exact absurd heq.1.2.1.2 (by decide)

end Rayhunter
