import Rayhunter.Cells.Tracker
import Rayhunter.Detectors.Element

/-!
# What a container tells the cell tracker

`update_cell_info` (`daemon/src/diag.rs`): the measurements of a container are gathered and applied,
and after them its RRC and NAS messages are decoded. A container in which nothing of the kind is
found is left at once, and with it the count of its messages: `health_counts_iff`.
-/

namespace Rayhunter

/-! ## What is read in a message -/

/-- `cell_access_related_info` of a SIB1. -/
structure CellAccessRelatedInfo where
  cellIdentity : List Bool
  trackingAreaCode : List Bool
  plmnIdentityList : List PlmnIdentity
  deriving DecidableEq, Repr

/-- `NASSecAlgoCiphAlgo` as far as it is told apart. -/
inductive NASSecAlgoCiphAlgo
  | eea0Null
  | eea1Snow
  | eea2Aes
  | eea3Zuc
  | other
  deriving DecidableEq, Repr

/-- `NASSecAlgoIntegAlgo` as far as it is told apart. -/
inductive NASSecAlgoIntegAlgo
  | eia0Null
  | eia1Snow
  | eia2Aes
  | other
  deriving DecidableEq, Repr

/-- The fields the tracker reads in the messages that `telcom_parser` and `pycrate_rs` decode, and
the floating point of `metres` (`timing_advance.rs:81`). -/
class CellCrates extends RecordCrates where
  systemInformationBlockType1 : RrcMessage .bcchDlSch → Option CellAccessRelatedInfo
  securityModeCommandR8 : RrcMessage .dlDcch → Option (UInt8 × UInt8)
  emmSecurityModeCommand : NASMessage → Option (NASSecAlgoCiphAlgo × NASSecAlgoIntegAlgo)
  metres : UInt16 → Int

/-- `digit_char` (`cell_info.rs:575`). -/
def CellIdentity.digitChar (value : UInt8) : Char :=
  if value < 10 then Char.ofNat (48 + value.toNat) else '?'

/-- The bits of a field of a SIB1, folded into a number. -/
def foldBits (bits : List Bool) : UInt32 :=
  bits.foldl (fun acc bit => (acc <<< 1) ||| (if bit then 1 else 0)) 0

/-- The digits of a code. -/
def plmnDigits (digits : List UInt8) : String := String.ofList (digits.map CellIdentity.digitChar)

/-- The identity in a SIB1 (`cell_info.rs:676`). -/
def CellAccessRelatedInfo.identity (info : CellAccessRelatedInfo) : CellIdentity :=
  let plmn := info.plmnIdentityList.head?
  { mcc := (plmn.bind (·.mcc)).map plmnDigits
    mnc := plmn.map (plmnDigits ·.mnc)
    cellId := some (foldBits info.cellIdentity)
    tac := some (foldBits info.trackingAreaCode) }

/-- Crates that decode no message, with distances in whole metres. -/
@[reducible] def plainCells : CellCrates where
  toRecordCrates := plainCrates
  systemInformationBlockType1 message := Empty.elim message
  securityModeCommandR8 message := Empty.elim message
  emmSecurityModeCommand message := Empty.elim message
  metres ta := ta.toNat * 78

variable [CellCrates]

/-- `identity_from_information_element` (`cell_info.rs:662`). -/
def identityFromInformationElement : Gsmtap.InformationElement → Option CellIdentity
  | .lte (.rrc .bcchDlSch message) =>
    (CellCrates.systemInformationBlockType1 message).map (·.identity)
  | _ => none

/-- `rrc_security_from_information_element` (`cell_info.rs:588`). -/
def rrcSecurityFromInformationElement : Gsmtap.InformationElement → Option (UInt8 × UInt8)
  | .lte (.rrc .dlDcch message) => CellCrates.securityModeCommandR8 message
  | _ => none

/-- `nas_security_from_information_element` (`cell_info.rs:624`). -/
def nasSecurityFromInformationElement : Gsmtap.InformationElement → Option (UInt8 × UInt8)
  | .lte (.nas payload) =>
    (CellCrates.emmSecurityModeCommand payload).map fun (ciph, integ) =>
      (match ciph with
        | .eea0Null => 0
        | .eea1Snow => 1
        | .eea2Aes => 2
        | .eea3Zuc => 3
        | .other => 255,
      match integ with
        | .eia0Null => 0
        | .eia1Snow => 1
        | .eia2Aes => 2
        | .other => 255)
  | _ => none

/-! ## Gathering -/

/-- A report of the serving cell, as it is kept (`diag.rs:868`). -/
structure ServingReport where
  pci : UInt16
  earfcn : UInt32
  signal : SignalMeasurements
  searchThreshold : Option UInt32

/-- The cell that is reported. -/
def ServingReport.key (r : ServingReport) : CellKey := (r.pci, r.earfcn)

/-- The report in a measurement of the serving cell (`diag.rs:892`). -/
def servingReport (data : MeasurementAndEvaluation) : ServingReport where
  pci := data.getPci
  earfcn := data.getEarfcn
  signal :=
    { rsrpDbm := decodeRsrp data.measRsrp
      rsrqDb := decodeRsrq data.measRsrq
      rssiDbm := decodeRssi data.measRssi
      avgRsrpDbm := some (decodeRsrp data.avgRsrp)
      avgRsrqDb := none }
  searchThreshold := some data.sSearch

/-- The neighbours in a measurement of them (`diag.rs:907`). -/
def neighborCells (data : Measurements) : List NeighborCell :=
  data.cells.map fun cell =>
    { pci := cell.pci
      earfcn := data.getEarfcn
      signal :=
        { rsrpDbm := decodeRsrp cell.measRsrp
          rsrqDb := decodeRsrq cell.measRsrq
          rssiDbm := decodeRssi cell.measRssi
          avgRsrpDbm := some (decodeRsrp cell.avgRsrp)
          avgRsrqDb := some (decodeRsrq cell.avgRsrq) }
      sRxlev := some cell.sRxlev }

/-- The timing advance in a random access response, if one is there. -/
def SubpacketBody.timingAdvance? : SubpacketBody → Option UInt16
  | .rachAttempt attempt => attempt.getMsg2.map (·.ta)
  | _ => none

/-- The last timing advance in the subpackets of a record (`diag.rs:930`). -/
def MacPacket.timingAdvance? (packet : MacPacket) : Option UInt16 :=
  (packet.subpackets.filterMap (·.body.timingAdvance?)).getLast?

/-- The variables of `update_cell_info` (`diag.rs:868`). -/
structure Gathered where
  serving : Option ServingReport := none
  neighbors : Option (List NeighborCell) := none
  timingAdvance : Option UInt16 := none
  rrcMessages : List (Message LogBody) := []
  seen : Nat := 0
  skipped : Nat := 0

/-- One turn of its loop over the messages (`diag.rs:875`). -/
def Gathered.add (g : Gathered) : MessageItem → Gathered
  | .error _ => { g with seen := g.seen + 1, skipped := g.skipped + 1 }
  | .ok (.response ..) => { g with seen := g.seen + 1 }
  | .ok (.log pendingMsgs outerLength innerLength logType timestamp body) =>
    let g := { g with seen := g.seen + 1 }
    match (body : LogBody) with
    | .lteMl1ServingCellMeasurementAndEvaluation data =>
      { g with serving := some (servingReport data) }
    | .lteMl1NeighborCellsMeasurements data => { g with neighbors := some (neighborCells data) }
    | .lteMacRachResponse packet =>
      { g with timingAdvance := packet.timingAdvance?.or g.timingAdvance }
    | .lteRrcOtaMessage .. | .nas4GMessage .. =>
      { g with
        rrcMessages := g.rrcMessages ++
          [.log pendingMsgs outerLength innerLength logType timestamp body] }
    | _ => g

/-- The loop. -/
def gather (items : List MessageItem) : Gathered := items.foldl Gathered.add {}

/-! ## Applying -/

/-- The frame of a message that was kept aside, and what is read in it. -/
def decoded? (message : Message LogBody) : Option (GsmtapMessage × Gsmtap.InformationElement) :=
  match GsmtapParser.parse message with
  | .ok (some (_, gsmtap)) =>
    match Gsmtap.tryFrom gsmtap with
    | .ok element => some (gsmtap, element)
    | .error _ => none
  | _ => none

namespace CellTracker

/-- What an element changes, with the frame it was read in (`diag.rs:989`). -/
def readElement (needIdentity : Bool) (now : DateTime) (t : CellTracker) (gsmtap : GsmtapMessage)
    (element : Gsmtap.InformationElement) : CellTracker :=
  let t :=
    if needIdentity then (identityFromInformationElement element).elim t t.updateIdentity else t
  let t := (rrcSecurityFromInformationElement element).elim t fun (cipher, integrity) =>
    t.updateRrcSecurity cipher integrity now
  let t := (nasSecurityFromInformationElement element).elim t fun (cipher, integrity) =>
    t.updateNasSecurity cipher integrity now
  let t :=
    match gsmtap.header.gsmtapType with
    | .lteNas _ => t.updateNasSeen now
    | _ => t
  if gsmtap.header.gsmtapType = .lteNas .plain then
    (identityFromNasWithRange gsmtap.payload).elim t fun (identity, _) =>
      t.updateIdentitySent identity
  else t

/-- What an RRC or NAS message that was kept aside changes (`diag.rs:982`). -/
def readMessage (needIdentity : Bool) (now : DateTime) (t : CellTracker) (message : Message LogBody) :
    CellTracker :=
  (decoded? message).elim t fun (gsmtap, element) => t.readElement needIdentity now gsmtap element

/-- What was measured is applied (`diag.rs:964`). -/
def measure (t : CellTracker) (g : Gathered) (now : DateTime) : CellTracker :=
  let t := t.recordMessages g.seen g.skipped now
  let t :=
    match g.serving with
    | some r => t.updateServing r.pci r.earfcn r.signal r.searchThreshold now
    | none => t
  let t :=
    match g.neighbors with
    | some neighbors => t.updateNeighbors neighbors
    | none => t
  match g.timingAdvance with
  | some ta => t.updateTimingAdvance CellCrates.metres ta
  | none => t

/-- Whether there is a serving cell that is not identified (`diag.rs:978`). -/
def needIdentity (t : CellTracker) : Bool := t.serving.any (·.identity.isNone)

/-- `update_cell_info` (`diag.rs:865`) with the messages of a container. -/
def updateCellInfo (t : CellTracker) (items : List MessageItem) (now : DateTime) : CellTracker :=
  let g := gather items
  if g.serving.isNone ∧ g.neighbors.isNone ∧ g.timingAdvance.isNone ∧ g.rrcMessages.isEmpty then t
  else
    let t := t.measure g now
    g.rrcMessages.foldl (readMessage t.needIdentity now) t

/-- Containers, each with the time it is taken up at. -/
def updateAll (t : CellTracker) (containers : List (MessagesContainer × DateTime)) : CellTracker :=
  containers.foldl (fun t (container, now) => t.updateCellInfo container.items now) t

end CellTracker

/-! ## What a container holds -/

namespace MessageItem

/-- The body of a log record. -/
def body? : MessageItem → Option LogBody
  | .ok (.log _ _ _ _ _ body) => some body
  | _ => none

/-- The report of the serving cell in a message. -/
def report? (item : MessageItem) : Option ServingReport :=
  match body? item with
  | some (.lteMl1ServingCellMeasurementAndEvaluation data) => some (servingReport data)
  | _ => none

/-- The neighbours in a message. -/
def neighbors? (item : MessageItem) : Option (List NeighborCell) :=
  match body? item with
  | some (.lteMl1NeighborCellsMeasurements data) => some (neighborCells data)
  | _ => none

/-- The timing advance in a message. -/
def advance? (item : MessageItem) : Option UInt16 :=
  match body? item with
  | some (.lteMacRachResponse packet) => packet.timingAdvance?
  | _ => none

/-- A message that is kept aside. -/
def aside? (item : MessageItem) : Option (Message LogBody) :=
  match item, body? item with
  | .ok message, some (.lteRrcOtaMessage ..) => some message
  | .ok message, some (.nas4GMessage ..) => some message
  | _, _ => none

/-- The identity in a message that was kept aside. -/
def identity? (message : Message LogBody) : Option CellIdentity :=
  (decoded? message).bind fun (_, element) => identityFromInformationElement element

/-- A message that did not parse. -/
def failed : MessageItem → Bool
  | .error _ => true
  | .ok _ => false

/-- A message that tells the tracker something. -/
def Telling (item : MessageItem) : Prop :=
  (report? item).isSome ∨ (neighbors? item).isSome ∨ (advance? item).isSome ∨ (aside? item).isSome

instance (item : MessageItem) : Decidable (Telling item) := instDecidableOr

end MessageItem

open MessageItem

theorem Gathered.add_eq (g : Gathered) (item : MessageItem) :
    g.add item =
      { serving := (report? item).or g.serving
        neighbors := (neighbors? item).or g.neighbors
        timingAdvance := (advance? item).or g.timingAdvance
        rrcMessages := g.rrcMessages ++ (aside? item).toList
        seen := g.seen + 1
        skipped := g.skipped + (if failed item then 1 else 0) } := by
  rcases item with e | ⟨pending, outer, inner, logType, timestamp, body⟩ | response
  · simp [Gathered.add, report?, neighbors?, advance?, aside?, body?, failed]
  · cases (body : LogBody) <;>
      simp [Gathered.add, report?, neighbors?, advance?, aside?, body?, failed]
  · simp [Gathered.add, report?, neighbors?, advance?, aside?, body?, failed]

omit [CellCrates] in
theorem getLast?_filterMap_concat {α β : Type} (f : α → Option β) (l : List α) (a : α) :
    ((l ++ [a]).filterMap f).getLast? = (f a).or (l.filterMap f).getLast? := by
  rw [List.filterMap_append, List.getLast?_append]
  cases h : f a <;> simp [h]

/-- What is gathered is the last of each kind, the messages kept aside in their order, and the
counts. -/
theorem gather_eq (items : List MessageItem) :
    gather items =
      { serving := (items.filterMap report?).getLast?
        neighbors := (items.filterMap neighbors?).getLast?
        timingAdvance := (items.filterMap advance?).getLast?
        rrcMessages := items.filterMap aside?
        seen := items.length
        skipped := items.countP failed } := by
  induction items using List.reverseRecOn with
  | nil => rfl
  | append_singleton items item ih =>
    unfold gather at ih ⊢
    have haside : (items ++ [item]).filterMap aside? =
        items.filterMap aside? ++ (aside? item).toList := by
      rw [List.filterMap_append]
      cases h : aside? item <;> simp [h]
    have hskipped : (items ++ [item]).countP failed =
        items.countP failed + (if failed item then 1 else 0) := by
      rw [List.countP_append, List.countP_singleton]
    rw [List.foldl_concat, ih, Gathered.add_eq, getLast?_filterMap_concat,
      getLast?_filterMap_concat, getLast?_filterMap_concat, haside, hskipped, List.length_append,
      List.length_singleton]

/-! ## The counts -/

namespace CellTracker

/-- All but the encryption, the identities sent and the time of the last NAS message is the same. -/
structure SameCells (t t' : CellTracker) : Prop where
  serving : t'.serving = t.serving
  neighbors : t'.neighbors = t.neighbors
  history : t'.history = t.history
  health : t'.health = t.health
  timingAdvance : t'.timingAdvance = t.timingAdvance

omit [CellCrates] in
theorem SameCells.refl (t : CellTracker) : t.SameCells t := ⟨rfl, rfl, rfl, rfl, rfl⟩

omit [CellCrates] in
theorem SameCells.trans {t t' t'' : CellTracker} (h : t.SameCells t') (h' : t'.SameCells t'') :
    t.SameCells t'' :=
  ⟨h'.serving.trans h.serving, h'.neighbors.trans h.neighbors, h'.history.trans h.history,
    h'.health.trans h.health, h'.timingAdvance.trans h.timingAdvance⟩

/-- The serving cell is named by the identity in a message, if one is wanted. -/
def name (need : Bool) (t : CellTracker) (message : Message LogBody) : CellTracker :=
  if need then (identity? message).elim t t.updateIdentity else t

omit [CellCrates] in
theorem SameCells.elim {α : Type} {t t' : CellTracker} (h : t.SameCells t') (o : Option α)
    {f : α → CellTracker} (hf : ∀ a, t'.SameCells (f a)) : t.SameCells (o.elim t' f) := by
  cases o with
  | none => exact h
  | some a => exact h.trans (hf a)

omit [CellCrates] in
theorem updateIdentitySent_sameCells (t : CellTracker) (identity : Identity) :
    t.SameCells (t.updateIdentitySent identity) := by
  cases identity with
  | imsi | imei | imeisv => exact ⟨rfl, rfl, rfl, rfl, rfl⟩
  | tmsi value =>
    rw [updateIdentitySent]
    split
    · exact ⟨rfl, rfl, rfl, rfl, rfl⟩
    · exact .refl t

theorem readElement_sameCells (need : Bool) (now : DateTime) (t : CellTracker)
    (gsmtap : GsmtapMessage) (element : Gsmtap.InformationElement) :
    (if need then (identityFromInformationElement element).elim t t.updateIdentity else t).SameCells
      (t.readElement need now gsmtap element) := by
  unfold readElement
  extract_lets t₁ t₂ t₃ t₄
  change t₁.SameCells _
  have hrrc : t₁.SameCells t₂ := (SameCells.refl t₁).elim _ fun _ => ⟨rfl, rfl, rfl, rfl, rfl⟩
  have hnas : t₁.SameCells t₃ := hrrc.elim _ fun _ => ⟨rfl, rfl, rfl, rfl, rfl⟩
  have hseen : t₁.SameCells t₄ := by
    unfold t₄
    split
    · exact hnas.trans ⟨rfl, rfl, rfl, rfl, rfl⟩
    · exact hnas
  split
  · exact hseen.elim _ fun _ => updateIdentitySent_sameCells t₄ _
  · exact hseen

/-- A message that was kept aside may name the serving cell; what else it changes is no cell's. -/
theorem readMessage_sameCells (need : Bool) (now : DateTime) (t : CellTracker)
    (message : Message LogBody) :
    (t.name need message).SameCells (t.readMessage need now message) := by
  unfold readMessage name identity?
  cases decoded? message with
  | none => cases need <;> exact .refl t
  | some d => exact t.readElement_sameCells need now d.1 d.2

theorem foldl_readMessage_health (need : Bool) (now : DateTime) (messages : List (Message LogBody))
    (t : CellTracker) : (messages.foldl (readMessage need now) t).health = t.health := by
  induction messages generalizing t with
  | nil => rfl
  | cons message messages ih =>
    rw [List.foldl_cons, ih, (t.readMessage_sameCells need now message).health]
    unfold name
    split
    · cases identity? message with
      | none => rfl
      | some identity => exact t.updateIdentity_health identity
    · rfl

theorem measure_health (t : CellTracker) (g : Gathered) (now : DateTime) :
    (t.measure g now).health = (t.recordMessages g.seen g.skipped now).health := by
  unfold measure
  extract_lets t₁ t₂ t₃
  have hserving : t₂.health = t₁.health := by
    unfold t₂
    split <;> simp
  have hneighbors : t₃.health = t₁.health := by
    unfold t₃
    split <;> exact hserving
  split <;> simpa using hneighbors

/-- A container is counted if a message in it tells the tracker something. -/
theorem updateCellInfo_health (t : CellTracker) (items : List MessageItem) (now : DateTime) :
    (t.updateCellInfo items now).health =
      if ∃ item ∈ items, Telling item then
        (t.recordMessages items.length (items.countP failed) now).health
      else t.health := by
  have hnone : ((gather items).serving.isNone ∧ (gather items).neighbors.isNone ∧
      (gather items).timingAdvance.isNone ∧ (gather items).rrcMessages.isEmpty) ↔
      ¬ ∃ item ∈ items, Telling item := by
    rw [gather_eq]
    simp [Telling, forall_and]
  unfold updateCellInfo
  extract_lets g t₁
  split
  · next h => rw [if_neg (hnone.1 h)]
  · next h =>
    rw [if_pos (not_not.1 fun hn => h (hnone.2 hn)), foldl_readMessage_health]
    refine (t.measure_health g now).trans ?_
    unfold g
    rw [gather_eq]

/-- The messages of the containers that were counted, and those of them that did not parse. -/
theorem updateAll_health (t : CellTracker) (containers : List (MessagesContainer × DateTime)) :
    let told := containers.filter fun c => ∃ item ∈ c.1.items, Telling item
    (t.updateAll containers).health.messagesSeen =
        t.health.messagesSeen + (told.map (·.1.items.length)).sum ∧
      (t.updateAll containers).health.messagesSkipped =
        t.health.messagesSkipped + (told.map (·.1.items.countP failed)).sum := by
  induction containers generalizing t with
  | nil => exact ⟨rfl, rfl⟩
  | cons c containers ih =>
    obtain ⟨hseen, hskipped⟩ := ih (t.updateCellInfo c.1.items c.2)
    rw [updateCellInfo_health] at hseen hskipped
    rw [updateAll, List.foldl_cons, ← updateAll, hseen, hskipped, List.filter_cons]
    by_cases h : ∃ item ∈ c.1.items, Telling item
    · simp only [h, if_true, decide_true, List.map_cons, List.sum_cons, recordMessages]
      omega
    · simp [h]

end CellTracker

omit [CellCrates] in
/-- What is left out of a sum is nothing if and only if each of its terms is. -/
theorem sum_filter_eq_iff {α : Type} (p : α → Bool) (f : α → Nat) (l : List α) :
    ((l.filter p).map f).sum = (l.map f).sum ↔ ∀ a ∈ l, p a ∨ f a = 0 := by
  have hsplit : ((l.filter p).map f).sum + ((l.filter (!p ·)).map f).sum = (l.map f).sum := by
    induction l with
    | nil => rfl
    | cons a l ih => cases h : p a <;> simp [h, ← ih] <;> omega
  rw [← hsplit, Nat.left_eq_add, List.sum_eq_zero_iff_forall_eq_nat]
  simp only [List.mem_map, List.mem_filter, forall_exists_index, and_imp]
  constructor
  · intro h a ha
    cases hp : p a with
    | true => exact .inl rfl
    | false => exact .inr (h _ a ha (by rw [hp]; rfl) rfl)
  · rintro h _ a ha hp rfl
    exact (h a ha).resolve_left (by simpa using hp)

/-- **A run's messages and those that did not parse are counted if and only if every container in
which there are messages has one that tells the tracker something.** -/
theorem health_counts_iff (containers : List (MessagesContainer × DateTime)) :
    (CellTracker.updateAll {} containers).health.messagesSeen =
        (containers.map (·.1.items.length)).sum ∧
      (CellTracker.updateAll {} containers).health.messagesSkipped =
        (containers.map (·.1.items.countP failed)).sum ↔
      ∀ c ∈ containers, c.1.items = [] ∨ ∃ item ∈ c.1.items, Telling item := by
  obtain ⟨hseen, hskipped⟩ := CellTracker.updateAll_health {} containers
  rw [hseen, hskipped, Nat.zero_add, Nat.zero_add, sum_filter_eq_iff, sum_filter_eq_iff]
  simp only [decide_eq_true_eq, List.length_eq_zero_iff]
  constructor
  · exact fun h c hc => (h.1 c hc).symm
  · refine fun h => ⟨fun c hc => (h c hc).symm, fun c hc => ?_⟩
    rcases h c hc with hnil | htelling
    · exact .inr (by rw [hnil]; rfl)
    · exact .inl htelling

/-- A container from the modem with one frame, which is too short. -/
def shortFrame : MessagesContainer := ⟨.userSpace, 1, [⟨1, [MESSAGE_TERMINATOR]⟩]⟩

omit [CellCrates] in
/-- A frame that does not parse is not counted where it comes alone. -/
theorem short_frame_not_counted :
    letI := plainCells
    ¬ ∀ containers : List (MessagesContainer × DateTime),
      (∀ c ∈ containers, c.1.dataType = .userSpace) →
      (CellTracker.updateAll {} containers).health.messagesSeen =
          (containers.map (·.1.items.length)).sum ∧
        (CellTracker.updateAll {} containers).health.messagesSkipped =
          (containers.map (·.1.items.countP failed)).sum := by
  intro h
  have hcounts := h [(shortFrame, anInstant)] (by decide)
  revert hcounts
  decide +kernel

end Rayhunter
