import Rayhunter.Diag.Device
import Rayhunter.Diag.Framing
import Rayhunter.Diag.LogMask
import Rayhunter.Diag.Parse
import Rayhunter.Lib.Proc

/-!
# Telling the modem what to log

`config_logs` of `lib/src/diag_device.rs`: the unit asks the modem how many log codes there are of
each type, and for each type with some sends the mask of those it wants. It does not go on before the
modem has answered. When it has gone through, what the modem was told, read out of the bytes it was
sent, is to log the codes the unit wants and no others of their types (`configLogs_modem`).
-/

namespace Rayhunter

/-! ## Requests on the wire -/

/-- `u32::to_le_bytes`. -/
def toLeBytes (n : UInt32) : List UInt8 :=
  [n.toUInt8, (n >>> 8).toUInt8, (n >>> 16).toUInt8, (n >>> 24).toUInt8]

/-- `Request::to_bytes`. -/
def Request.toBytes : Request → List UInt8
  | .logConfig .retrieveIdRanges => toLeBytes 115 ++ toLeBytes 1
  | .logConfig (.setMask logType logMaskBitsize logMask) =>
    toLeBytes 115 ++ toLeBytes 3 ++ toLeBytes logType ++ toLeBytes logMaskBitsize ++ logMask

/-- `RequestContainer::to_bytes`, of a request to user space; `mdm_field` is -1. -/
def requestContainer (useMdm : Bool) (req : Request) : List UInt8 :=
  toLeBytes 32 ++ (if useMdm then [255, 255, 255, 255] else []) ++ hdlcEncapsulate req.toBytes

/-! ## The device -/

/-- What a write of the device comes to. Most say that nothing was written, though it was. -/
inductive DeviceWrite
  | ok
  | writeZero
  | error (e : IoError)
  deriving DecidableEq, Repr

/-- The device while it is configured: the reads to come, what becomes of the writes and the flushes
to come, and what has been written. Those that are not listed go well. -/
structure Session where
  reads : List DeviceRead
  outcomes : List (DeviceWrite × DeviceWrite) := []
  sent : List (List UInt8) := []

/-- `DiagDeviceError` (`diag_device.rs:22`), as far as configuring meets it. -/
inductive ConfigError
  | read (e : DiagDeviceError)
  | deviceWriteFailed (e : IoError)
  | requestFailed (status : UInt32) (req : Request)
  | noResponse (req : Request)
  deriving DecidableEq, Repr

/-- What configuring is made of. -/
abbrev Configuring := Proc Session ConfigError

/-- `write_request` (`diag_device.rs:222`). -/
def writeRequest (useMdm : Bool) (req : Request) : Configuring Unit := fun s =>
  let (write, flush) := s.outcomes.headD (.ok, .ok)
  let s := { s with outcomes := s.outcomes.tail, sent := s.sent ++ [requestContainer useMdm req] }
  match write with
  | .error e => (.error (.deviceWriteFailed e), s)
  | .ok | .writeZero =>
    match flush with
    | .error e => (.error (.deviceWriteFailed e), s)
    | .ok | .writeZero => (.ok (), s)

/-- The next container of the type `UserSpace`. -/
def nextUserSpace (reads : List DeviceRead) :
    Option (Except DiagDeviceError MessagesContainer × List DeviceRead) :=
  match _h : getNextMessagesContainer reads with
  | none => none
  | some (.error e, rest) => some (.error e, rest)
  | some (.ok container, rest) =>
    if container.dataType = .userSpace then some (.ok container, rest) else nextUserSpace rest
termination_by reads.length
decreasing_by exact getNextMessagesContainer_length _h

/-- `MessagesContainer::messages` (`diag/mod.rs:92`), with nothing where that panics. -/
def MessagesContainer.items? (container : MessagesContainer) :
    Option (List (Except ParsingError (Message LogBody))) :=
  let frames := container.messages.flatMap fun msg => Chunks.splitInclusive isTerminator msg.data
  if frames.all fun frame => (Message.fromHdlc? frame).isSome then
    some (frames.filterMap Message.fromHdlc?)
  else none

/-- `read_response` (`diag_device.rs:249`). -/
def readResponse : Configuring (List (Except ParsingError (Message LogBody))) := fun s =>
  match nextUserSpace s.reads with
  | none => (.waits, s)
  | some (.error e, reads) => (.error (.read e), { s with reads })
  | some (.ok container, reads) =>
    match container.items? with
    | some items => (.ok items, { s with reads })
    | none => (.panics, { s with reads })

/-- The first answer among some messages that is to a request of this kind, with its status. -/
def firstAnswer {α : Type} (answer : LogConfigResponse → Option α)
    (items : List (Except ParsingError (Message LogBody))) : Option (UInt32 × α) :=
  items.findSome? fun
    | .ok (.response _ _ _ _ _ status payload) => (answer payload).map (status, ·)
    | .ok (.log ..) | .error _ => none

/-- What an answer comes to. -/
def grant {α : Type} (req : Request) : Option (UInt32 × α) → Configuring α
  | none => Proc.fail (.noResponse req)
  | some (status, a) => if status ≠ 0 then Proc.fail (.requestFailed status req) else pure a

/-- What is looked for in the answer to the first request (`diag_device.rs:268`). -/
def sizesOf : LogConfigResponse → Option (List UInt32)
  | .retrieveIdRanges logMaskSizes => some logMaskSizes
  | .setMask => none

/-- And to a mask (`diag_device.rs:300`). -/
def confirms : LogConfigResponse → Option Unit
  | .setMask => some ()
  | .retrieveIdRanges _ => none

/-- `retrieve_id_ranges` (`diag_device.rs:259`). -/
def retrieveIdRanges (useMdm : Bool) : Configuring (List UInt32) := do
  let req := .logConfig .retrieveIdRanges
  writeRequest useMdm req
  let items ← readResponse
  grant req (firstAnswer sizesOf items)

/-- `LOG_CODES_FOR_RAW_PACKET_LOGGING` (`diag_device.rs:43`). -/
def LOG_CODES_FOR_RAW_PACKET_LOGGING : List UInt32 :=
  [0x5226, 0x512f, 0x412f, 0xb0c0, 0xb821, 0x713a, 0xb0e2, 0xb0e3, 0xb0ec, 0xb0ed, 0x11eb, 0xb17f,
   0xb180, 0xb062, 0xb063, 0xb064, 0xb114]

/-- `set_log_mask` (`diag_device.rs:286`). -/
def setLogMask (useMdm : Bool) (logType logMaskBitsize : UInt32) : Configuring Unit := do
  let req := buildLogMaskRequest logType logMaskBitsize LOG_CODES_FOR_RAW_PACKET_LOGGING
  writeRequest useMdm req
  let items ← readResponse
  grant req (firstAnswer confirms items)

/-- The loop of `config_logs` (`diag_device.rs:318`), from a log type on. -/
def setLogMasks (useMdm : Bool) : Nat → List UInt32 → Configuring Unit
  | _, [] => pure ()
  | logType, logMaskBitsize :: sizes => do
    if 0 < logMaskBitsize then setLogMask useMdm (UInt32.ofNat logType) logMaskBitsize
    setLogMasks useMdm (logType + 1) sizes

/-- `config_logs` (`diag_device.rs:314`). -/
def configLogs (useMdm : Bool) : Configuring Unit := do
  let logMaskSizes ← retrieveIdRanges useMdm
  setLogMasks useMdm 0 logMaskSizes

/-! ## What the modem is told -/

/-- The request some bytes are. -/
def Request.fromBytes (data : List UInt8) : Option Request :=
  match readU32 data with
  | some (115, rest) =>
    match readU32 rest with
    | some (1, []) => some (.logConfig .retrieveIdRanges)
    | some (3, rest) =>
      (readU32 rest).bind fun (logType, rest) =>
      (readU32 rest).map fun (logMaskBitsize, logMask) =>
        .logConfig (.setMask logType logMaskBitsize logMask)
    | _ => none
  | _ => none

/-- The request in what is written to the device. -/
def Request.received (useMdm : Bool) (data : List UInt8) : Option Request :=
  match readU32 data with
  | some (32, rest) =>
    match hdlcDecapsulate (if useMdm then rest.drop 4 else rest) with
    | .ok data => fromBytes data
    | .error _ => none
  | _ => none

theorem readU32_toLeBytes (n : UInt32) (rest : List UInt8) :
    readU32 (toLeBytes n ++ rest) = some (n, rest) := by
  have hn : UInt32.ofNat (fromLe (toLeBytes n)) = n := by
    have hlt := n.toNat_lt
    have h₁ : (n >>> 8).toNat = n.toNat / 256 := by simp [Nat.shiftRight_eq_div_pow]
    have h₂ : (n >>> 16).toNat = n.toNat / 65536 := by simp [Nat.shiftRight_eq_div_pow]
    have h₃ : (n >>> 24).toNat = n.toNat / 16777216 := by simp [Nat.shiftRight_eq_div_pow]
    apply UInt32.toNat_inj.1
    rw [UInt32.toNat_ofNat']
    simp only [toLeBytes, fromLe, List.foldr_cons, List.foldr_nil, UInt32.toNat_toUInt8, h₁, h₂, h₃]
    omega
  show some (UInt32.ofNat (fromLe (toLeBytes n)), rest) = _
  rw [hn]

/-- **What a request is written as is that request.** -/
theorem received_requestContainer (useMdm : Bool) (req : Request) :
    Request.received useMdm (requestContainer useMdm req) = some req := by
  have hread : Request.fromBytes req.toBytes = some req := by
    obtain ⟨config⟩ := req
    cases config with
    | retrieveIdRanges => rfl
    | setMask logType logMaskBitsize logMask =>
      simp only [Request.toBytes, List.append_assoc]
      unfold Request.fromBytes
      simp only [readU32_toLeBytes, Option.bind_some, Option.map_some]
  have hbody : (if useMdm then ((if useMdm then [255, 255, 255, 255] else []) ++
      hdlcEncapsulate req.toBytes).drop 4 else (if useMdm then [255, 255, 255, 255] else []) ++
      hdlcEncapsulate req.toBytes) = hdlcEncapsulate req.toBytes := by
    cases useMdm <;> rfl
  unfold Request.received requestContainer
  rw [List.append_assoc, readU32_toLeBytes]
  simp only
  rw [hbody, hdlcDecapsulate_hdlcEncapsulate]
  exact hread

/-- Which codes of each type a modem logs. -/
abbrev Modem := UInt32 → Nat → Bool

/-- The bit of a mask. -/
def maskBit (logMask : List UInt8) (i : Nat) : Bool :=
  (logMask[i / 8]?.getD 0).toNat.testBit (i % 8)

/-- A modem that is told to set a mask logs the codes of that type whose bits are set. -/
def Modem.take (m : Modem) : Request → Modem
  | .logConfig .retrieveIdRanges => m
  | .logConfig (.setMask logType logMaskBitsize logMask) => fun t i =>
    if t = logType then i < logMaskBitsize.toNat && maskBit logMask i else m t i

/-- What a modem logs after it is sent some requests. -/
def Modem.told (useMdm : Bool) (m : Modem) (sent : List (List UInt8)) : Modem :=
  sent.foldl (fun m data => ((Request.received useMdm data).map m.take).getD m) m

/-- The unit wants a code logged. -/
def Wanted (logType : UInt32) (i : Nat) : Prop :=
  logType <<< 12 ||| UInt32.ofNat i ∈ LOG_CODES_FOR_RAW_PACKET_LOGGING

theorem told_requests (useMdm : Bool) (m : Modem) (requests : List Request) :
    m.told useMdm (requests.map (requestContainer useMdm)) = requests.foldl Modem.take m := by
  rw [Modem.told, List.foldl_map]
  simp only [received_requestContainer, Option.map_some, Option.getD_some]

/-- The mask of a type. -/
def maskRequest (logType logMaskBitsize : UInt32) : Request :=
  buildLogMaskRequest logType logMaskBitsize LOG_CODES_FOR_RAW_PACKET_LOGGING

theorem take_setMask {m : Modem} {logType logMaskBitsize t : UInt32} {logMask : List UInt8} {i : Nat} :
    m.take (.logConfig (.setMask logType logMaskBitsize logMask)) t i =
      if t = logType then i < logMaskBitsize.toNat && maskBit logMask i else m t i := rfl

/-- A modem that is told the mask of a type logs of that what the unit wants. -/
theorem take_maskRequest (m : Modem) (logType logMaskBitsize t : UInt32) (i : Nat) :
    m.take (maskRequest logType logMaskBitsize) t i = true ↔
      if t = logType then i < logMaskBitsize.toNat ∧ Wanted logType i else m t i = true := by
  rw [maskRequest, LogMask.buildLogMaskRequest_eq, take_setMask]
  split
  · next ht =>
    rw [Bool.and_eq_true, decide_eq_true_eq]
    refine and_congr_right fun hi => ?_
    have hbyte : i / 8 < (PackedBits.pack (LogMask.accepted logType
        LOG_CODES_FOR_RAW_PACKET_LOGGING) logMaskBitsize.toNat).length := by
      rw [PackedBits.length_pack]
      omega
    rw [maskBit, List.getElem?_eq_getElem hbyte, Option.getD_some,
      PackedBits.testBit_pack (List.getElem?_eq_getElem hbyte), Bool.and_eq_true, decide_eq_true_eq,
      LogMask.accepted, List.contains_iff_mem]
    exact and_iff_right hi
  · exact Iff.rfl

/-! ## What the modem answers -/

/-- Some reads are these containers of the type `UserSpace`, one after the other, and the reads left
over. -/
inductive Containers : List DeviceRead → List MessagesContainer → List DeviceRead → Prop
  | nil {reads : List DeviceRead} : Containers reads [] reads
  | cons {reads reads' rest : List DeviceRead} {c : MessagesContainer} {cs : List MessagesContainer}
      (next : nextUserSpace reads = some (.ok c, reads')) (more : Containers reads' cs rest) :
      Containers reads (c :: cs) rest

/-- A container has an answer first of its kind, with the status zero. -/
def MessagesContainer.Grants {α : Type} (container : MessagesContainer)
    (answer : LogConfigResponse → Option α) (a : α) : Prop :=
  ∃ items, container.items? = some items ∧ firstAnswer answer items = some (0, a)

variable {useMdm : Bool} {s s' : Session}

theorem writeRequest_ok {req : Request} (h : writeRequest useMdm req s = (.ok (), s')) :
    s'.reads = s.reads ∧ s'.sent = s.sent ++ [requestContainer useMdm req] := by
  unfold writeRequest at h
  split at h
  dsimp only at h
  split at h
  · cases h
  all_goals
    split at h
    · cases h
    all_goals
      cases h
      exact ⟨rfl, rfl⟩

theorem readResponse_ok {items : List (Except ParsingError (Message LogBody))}
    (h : readResponse s = (.ok items, s')) :
    s'.sent = s.sent ∧ ∃ container, nextUserSpace s.reads = some (.ok container, s'.reads) ∧
      container.items? = some items := by
  unfold readResponse at h
  split at h
  · cases h
  · cases h
  · next container reads hnext =>
    split at h
    · next hitems =>
      cases h
      exact ⟨rfl, container, hnext, hitems⟩
    · cases h

theorem grant_ok {α : Type} {req : Request} {answer : Option (UInt32 × α)} {a : α}
    (h : grant req answer s = (.ok a, s')) : s' = s ∧ answer = some (0, a) := by
  unfold grant at h
  split at h
  · cases h
  · next status b =>
    split at h
    · cases h
    · next hstatus =>
      cases h
      exact ⟨rfl, by rw [of_not_not hstatus]⟩

/-- A request that goes through is sent, and granted by the next container. -/
theorem request_ok {α : Type} {req : Request} {answer : LogConfigResponse → Option α} {a : α}
    (h : (do
      writeRequest useMdm req
      let items ← readResponse
      grant req (firstAnswer answer items) : Configuring α) s = (.ok a, s')) :
    s'.sent = s.sent ++ [requestContainer useMdm req] ∧
      ∃ container, nextUserSpace s.reads = some (.ok container, s'.reads) ∧
        container.Grants answer a := by
  obtain ⟨⟨⟩, s₁, hwrite, h⟩ := Proc.bind_eq_ok.1 h
  obtain ⟨items, s₂, hread, h⟩ := Proc.bind_eq_ok.1 h
  obtain ⟨rfl, hanswer⟩ := grant_ok h
  obtain ⟨hreads, hsent⟩ := writeRequest_ok hwrite
  obtain ⟨hsent', container, hnext, hitems⟩ := readResponse_ok hread
  exact ⟨hsent'.trans hsent, container, hreads ▸ hnext, items, hitems, hanswer⟩

/-- The types with codes, from a type on, with how many they have. -/
def typesWithCodes : Nat → List UInt32 → List (Nat × UInt32)
  | _, [] => []
  | logType, n :: sizes =>
    if 0 < n then (logType, n) :: typesWithCodes (logType + 1) sizes
    else typesWithCodes (logType + 1) sizes

/-- The masks that are sent. -/
def masks (logType : Nat) (sizes : List UInt32) : List Request :=
  (typesWithCodes logType sizes).map fun p => maskRequest (UInt32.ofNat p.1) p.2

/-- **The loop that goes through** sends a mask for each type with codes, and each is granted before
the next is sent. -/
theorem setLogMasks_ok {logType : Nat} {sizes : List UInt32}
    (h : setLogMasks useMdm logType sizes s = (.ok (), s')) :
    s'.sent = s.sent ++ (masks logType sizes).map (requestContainer useMdm) ∧
      ∃ cs, Containers s.reads cs s'.reads ∧ cs.length = (typesWithCodes logType sizes).length ∧
        ∀ c ∈ cs, c.Grants confirms () := by
  induction sizes generalizing logType s with
  | nil =>
    cases h
    exact ⟨by simp [masks, typesWithCodes], [], .nil, rfl, fun c hc => absurd hc List.not_mem_nil⟩
  | cons n sizes ih =>
    rw [setLogMasks] at h
    rw [masks, typesWithCodes]
    split at h
    · next hpos =>
      obtain ⟨⟨⟩, s₁, hset, h⟩ := Proc.bind_eq_ok.1 h
      obtain ⟨hsent, container, hnext, hgrants⟩ := request_ok hset
      obtain ⟨hsent', cs, hcs, hlength, hall⟩ := ih h
      rw [if_pos hpos, List.map_cons, List.map_cons, List.length_cons]
      refine ⟨?_, container :: cs, .cons hnext hcs, ?_, ?_⟩
      · rw [hsent', hsent, List.append_assoc]
        rfl
      · rw [List.length_cons, hlength]
      · intro c hc
        rcases List.mem_cons.1 hc with rfl | hc
        · exact hgrants
        · exact hall c hc
    · next hpos =>
      rw [if_neg hpos]
      exact ih h

/-- The mask of the first type, where it has codes, is sent before those of the rest. -/
theorem foldl_masks_cons (m : Modem) (logType : Nat) (n : UInt32) (sizes : List UInt32) :
    (masks logType (n :: sizes)).foldl Modem.take m = (masks (logType + 1) sizes).foldl Modem.take
      (if 0 < n then m.take (maskRequest (UInt32.ofNat logType) n) else m) := by
  rw [masks, typesWithCodes]
  split
  · rfl
  · rfl

/-- What a modem logs that is told the mask of one type, where that has codes. -/
theorem take_first (m : Modem) (logType n t : UInt32) (i : Nat) :
    (if 0 < n then m.take (maskRequest logType n) else m) t i = true ↔
      if t = logType ∧ 0 < n then i < n.toNat ∧ Wanted t i else m t i = true := by
  split
  · next hn =>
    rw [take_maskRequest]
    by_cases ht : t = logType
    · rw [if_pos ht, if_pos ⟨ht, hn⟩, ht]
    · rw [if_neg ht, if_neg fun h => ht h.1]
  · next hn => rw [if_neg fun h => hn h.2]

/-- What a modem logs that is told the masks of all types from one on. -/
theorem foldl_masks (m : Modem) {logType : Nat} {sizes : List UInt32}
    (hsizes : logType + sizes.length ≤ 2 ^ 32) (t : UInt32) (i : Nat) :
    (masks logType sizes).foldl Modem.take m t i = true ↔
      if logType ≤ t.toNat ∧ 0 < sizes.getD (t.toNat - logType) 0 then
        i < (sizes.getD (t.toNat - logType) 0).toNat ∧ Wanted t i
      else m t i = true := by
  induction sizes generalizing logType m with
  | nil => simp [masks, typesWithCodes]
  | cons n sizes ih =>
    rw [List.length_cons] at hsizes
    have hlt : logType < 4294967296 := by omega
    have hfirst : t = UInt32.ofNat logType ↔ t.toNat = logType := by
      rw [← UInt32.toNat_inj, UInt32.toNat_ofNat_of_lt' hlt]
    rw [foldl_masks_cons, ih _ (by omega), take_first]
    simp only [hfirst]
    rcases Nat.lt_trichotomy t.toNat logType with hbelow | hthis | habove
    · -- the type is before all that are told
      rw [if_neg fun h => absurd h.1 (by omega), if_neg fun h => absurd h.1 hbelow.ne,
        if_neg fun h => absurd h.1 (by omega)]
    · -- it is the first, which none of the other masks is of
      rw [if_neg fun h => absurd h.1 (by omega), show t.toNat - logType = 0 by omega,
        List.getD_cons_zero]
      simp only [hthis, true_and, Nat.le_refl]
    · -- it is among the rest
      rw [show t.toNat - logType = t.toNat - (logType + 1) + 1 by omega, List.getD_cons_succ]
      simp only [show logType ≤ t.toNat by omega, show logType + 1 ≤ t.toNat by omega, habove.ne',
        true_and, false_and, if_false]

/-! ## However it ends -/

/-- What the modem is told meanwhile: to send the sizes, and masks of what the unit wants. -/
def Tells (useMdm : Bool) (s s' : Session) : Prop :=
  ∃ requests : List Request, s'.sent = s.sent ++ requests.map (requestContainer useMdm) ∧
    ∀ r ∈ requests, r = .logConfig .retrieveIdRanges ∨ ∃ t n, r = maskRequest t n

instance : Std.Refl (Tells useMdm) where
  refl s := ⟨[], by simp, fun r hr => absurd hr List.not_mem_nil⟩

instance : IsTrans Session (Tells useMdm) where
  trans := by
    rintro s s' s'' ⟨rs, hsent, hrs⟩ ⟨rs', hsent', hrs'⟩
    refine ⟨rs ++ rs', by rw [hsent', hsent, List.map_append, List.append_assoc], fun r hr => ?_⟩
    rcases List.mem_append.1 hr with hr | hr
    · exact hrs r hr
    · exact hrs' r hr

theorem tells_writeRequest {req : Request}
    (h : req = .logConfig .retrieveIdRanges ∨ ∃ t n, req = maskRequest t n) :
    Proc.Always (Tells useMdm) (writeRequest useMdm req) := by
  intro s
  refine ⟨[req], ?_, fun r hr => List.mem_singleton.1 hr ▸ h⟩
  unfold writeRequest
  split
  dsimp only
  split
  · rfl
  all_goals split <;> rfl

theorem tells_of_sent {α : Type} {p : Configuring α} (h : ∀ s, (p s).2.sent = s.sent) :
    Proc.Always (Tells useMdm) p :=
  fun s => ⟨[], by rw [h s, List.map_nil, List.append_nil], fun r hr => absurd hr List.not_mem_nil⟩

theorem tells_request {α : Type} {req : Request} {answer : LogConfigResponse → Option α}
    (h : req = .logConfig .retrieveIdRanges ∨ ∃ t n, req = maskRequest t n) :
    Proc.Always (Tells useMdm) (do
      writeRequest useMdm req
      let items ← readResponse
      grant req (firstAnswer answer items) : Configuring α) := by
  refine .bind (tells_writeRequest h) fun _ => .bind (tells_of_sent fun s => ?_) fun items =>
    tells_of_sent fun s => ?_
  · unfold readResponse
    split
    · rfl
    · rfl
    · split <;> rfl
  · cases firstAnswer answer items with
    | none => rfl
    | some p =>
      show ((if p.1 ≠ 0 then Proc.fail _ else pure p.2 : Configuring α) s).2.sent = s.sent
      split <;> rfl

theorem tells_configLogs : Proc.Always (Tells useMdm) (configLogs useMdm) := by
  refine .bind (tells_request (.inl rfl)) fun sizes => ?_
  generalize 0 = logType
  induction sizes generalizing logType with
  | nil => exact .pure ()
  | cons n sizes ih =>
    rw [setLogMasks]
    split
    · exact .bind (tells_request (.inr ⟨_, _, rfl⟩)) fun _ => ih _
    · exact ih _

/-- A modem that is told what the unit wants logs nothing new but that. -/
theorem foldl_take_wanted {m : Modem} {requests : List Request}
    (h : ∀ r ∈ requests, r = .logConfig .retrieveIdRanges ∨ ∃ t n, r = maskRequest t n) {t : UInt32}
    {i : Nat} (hlogs : requests.foldl Modem.take m t i = true) : m t i = true ∨ Wanted t i := by
  induction requests generalizing m with
  | nil => exact .inl hlogs
  | cons r requests ih =>
    rcases ih (fun x hx => h x (List.mem_cons_of_mem r hx)) hlogs with hm | hwanted
    · rcases h r List.mem_cons_self with rfl | ⟨t', n, rfl⟩
      · exact .inl hm
      · rw [take_maskRequest] at hm
        split at hm
        · next heq => exact .inr (heq ▸ hm.2)
        · exact .inl hm
    · exact .inr hwanted

/-! ## The sizes -/

/-- What is read as the sizes is one for each of the sixteen types. -/
def Message.Sixteen : Message LogBody → Prop
  | .response _ _ _ _ _ _ (.retrieveIdRanges sizes) => sizes.length = 16
  | _ => True

open Reader in
theorem yields_sixteen : Yields Parse.message Message.Sixteen := by
  refine .after fun id => .ite ?_ ?_
  · refine .after fun _ => .after fun _ => .after fun _ => .after fun _ => .after fun _ => ?_
    exact .map_of_forall fun _ => trivial
  · refine .after fun _ => .after fun _ => .after fun _ => .after fun subopcode => .after fun _ => ?_
    refine Yields.map (P := fun
      | .retrieveIdRanges sizes => sizes.length = 16
      | .setMask => True) (.ite ?_ .stop) fun payload h => ?_
    · unfold Parse.logConfigResponse
      split
      · exact (yields_count (.of_forall fun _ => trivial) 16).map fun _ h => h.1
      · exact .pure trivial
      · exact .stop
    · cases payload with
      | retrieveIdRanges sizes => exact h
      | setMask => trivial

/-- What a frame is read as is read from the bytes in it. -/
theorem read_of_fromHdlc? {frame : List UInt8} {msg : Message LogBody}
    (h : Message.fromHdlc? frame = some (.ok msg)) :
    ∃ data rest, Message.read data = .ok (msg, rest) := by
  obtain ⟨result, -, h⟩ := Option.bind_eq_some_iff.1 h
  cases result with
  | error e => cases h
  | ok data =>
    dsimp only at h
    split at h
    · next res rest hread =>
      cases h
      exact ⟨data, rest, hread⟩
    · cases h
    · cases h

theorem length_of_grants {container : MessagesContainer} {sizes : List UInt32}
    (h : container.Grants sizesOf sizes) : sizes.length = 16 := by
  obtain ⟨items, hitems, hanswer⟩ := h
  obtain ⟨item, hmem, hitem⟩ := List.exists_of_findSome?_eq_some hanswer
  unfold MessagesContainer.items? at hitems
  obtain ⟨-, heq⟩ := Option.ite_none_right_eq_some.1 hitems
  obtain rfl := Option.some.inj heq
  obtain ⟨frame, -, hframe⟩ := List.mem_filterMap.1 hmem
  split at hitem
  · next payload =>
    obtain ⟨sizes', hsizes, heq⟩ := Option.map_eq_some_iff.1 hitem
    cases heq
    cases payload with
    | setMask => cases hsizes
    | retrieveIdRanges sizes' =>
      cases hsizes
      obtain ⟨data, rest, hread⟩ := read_of_fromHdlc? hframe
      exact yields_sixteen _ _ _ hread
  all_goals cases hitem

/-! ## The whole -/

/-- The modem grants everything: in one container the sizes, and in one more each mask. -/
structure Granted (s s' : Session) (sizes : List UInt32) : Prop where
  containers : ∃ c cs, Containers s.reads (c :: cs) s'.reads ∧ c.Grants sizesOf sizes ∧
    cs.length = (typesWithCodes 0 sizes).length ∧ ∀ c ∈ cs, c.Grants confirms ()

theorem configLogs_ok (h : configLogs useMdm s = (.ok (), s')) : ∃ sizes, Granted s s' sizes ∧
    s'.sent = s.sent ++
      (.logConfig .retrieveIdRanges :: masks 0 sizes).map (requestContainer useMdm) := by
  obtain ⟨sizes, s₁, hretrieve, hmasks⟩ := Proc.bind_eq_ok.1 h
  obtain ⟨hsent, container, hnext, hgrants⟩ := request_ok hretrieve
  obtain ⟨hsent', cs, hcs, hlength, hall⟩ := setLogMasks_ok hmasks
  refine ⟨sizes, ⟨container, cs, .cons hnext hcs, hgrants, hlength, hall⟩, ?_⟩
  rw [hsent', hsent, List.append_assoc]
  rfl

/-- **The modem is told what the unit wants.** However configuring ends, what a modem that does as it
is told logs is what it logged before or what the unit wants. When it goes through, the modem has
granted each request, and logs of each type with codes exactly those there are that the unit wants,
and of any other type what it logged before. -/
theorem configLogs_modem (useMdm : Bool) (s : Session) (m : Modem) :
    let (ended, s') := configLogs useMdm s
    let told := m.told useMdm (s'.sent.drop s.sent.length)
    (∀ t i, told t i = true → m t i = true ∨ Wanted t i) ∧
      (ended = .ok () → ∃ sizes, Granted s s' sizes ∧ sizes.length = 16 ∧ ∀ t i, told t i = true ↔
        if 0 < sizes.getD t.toNat 0 then i < (sizes.getD t.toNat 0).toNat ∧ Wanted t i
        else m t i = true) := by
  have htold : ∀ requests : List Request, m.told useMdm
      ((s.sent ++ requests.map (requestContainer useMdm)).drop s.sent.length) =
        requests.foldl Modem.take m := by
    intro requests
    rw [List.drop_left, told_requests]
  have htells : Proc.Always (Tells useMdm) (configLogs useMdm) := tells_configLogs
  obtain ⟨requests, hsent, hours⟩ := htells s
  dsimp only
  constructor
  · intro t i hlogs
    rw [hsent, htold] at hlogs
    exact foldl_take_wanted hours hlogs
  · intro hended
    obtain ⟨sizes, hgranted, hsent⟩ := configLogs_ok (Prod.ext hended rfl)
    have hlength : sizes.length = 16 := by
      obtain ⟨c, cs, -, hgrants, -⟩ := hgranted.containers
      exact length_of_grants hgrants
    refine ⟨sizes, hgranted, hlength, fun t i => ?_⟩
    rw [hsent, htold, List.foldl_cons]
    have hroom : 0 + sizes.length ≤ 2 ^ 32 := by omega
    have hmasks := foldl_masks m hroom t i
    show (masks 0 sizes).foldl Modem.take m t i = true ↔ _
    simpa only [Nat.zero_le, true_and, Nat.sub_zero] using hmasks

end Rayhunter
