import Mathlib.Data.List.AList
import Rayhunter.Gsmtap.Element
import Rayhunter.Lib.Keyed
import Rayhunter.Nas.Identity

/-!
# The cell tracker

What the modem sees on the air (`daemon/src/cell_info.rs`) and how far away a cell answers
(`daemon/src/timing_advance.rs`): the serving cell with its identity and its timing advance, the
neighbours, the cells seen in this run, and how many messages were decoded. An operation that reads
the clock is given the time.
-/

namespace Rayhunter

/-! ## What is tracked -/

/-- What tells a cell from others nearby: the physical identity and the channel. -/
abbrev CellKey := UInt16 × UInt32

/-- `CellIdentity` (`cell_info.rs:37`). -/
structure CellIdentity where
  mcc : Option String
  mnc : Option String
  cellId : Option UInt32
  tac : Option UInt32
  deriving DecidableEq, Repr

/-- `SignalMeasurements` (`cell_info.rs:56`). -/
structure SignalMeasurements where
  rsrpDbm : ℚ
  rsrqDb : ℚ
  rssiDbm : ℚ
  avgRsrpDbm : Option ℚ
  avgRsrqDb : Option ℚ

/-- `ServingCell` (`cell_info.rs:74`). -/
structure ServingCell where
  searchThreshold : Option UInt32
  pci : UInt16
  earfcn : UInt32
  band : Option UInt16
  signal : SignalMeasurements
  identity : Option CellIdentity
  timingAdvance : Option UInt16
  lastSeen : DateTime

/-- The cell that serves. -/
def ServingCell.key (s : ServingCell) : CellKey := (s.pci, s.earfcn)

/-- `NeighborCell` (`cell_info.rs:105`). -/
structure NeighborCell where
  pci : UInt16
  earfcn : UInt32
  signal : SignalMeasurements
  sRxlev : Option UInt8

/-- `CellObservation` (`cell_info.rs:118`). -/
structure CellObservation where
  pci : UInt16
  earfcn : UInt32
  identity : Option CellIdentity
  firstSeen : DateTime
  lastSeen : DateTime
  bestRsrpDbm : ℚ

/-- The cell that was seen. -/
def CellObservation.key (e : CellObservation) : CellKey := (e.pci, e.earfcn)

/-- `EncryptionStatus` (`cell_info.rs:137`). -/
structure EncryptionStatus where
  rrcCipher : Option String
  rrcIntegrity : Option String
  nasCipher : Option String
  nasIntegrity : Option String
  lastSeen : DateTime
  deriving DecidableEq, Repr

/-- `DetectionHealth` (`cell_info.rs:189`). The counters are `u64` in the source. -/
structure DetectionHealth where
  messagesSeen : Nat := 0
  messagesSkipped : Nat := 0
  lastMessage : Option DateTime := none
  deriving DecidableEq, Repr

/-- `SubscriberIdentities` (`cell_info.rs:237`). -/
structure SubscriberIdentities where
  imsi : Option String := none
  imei : Option String := none
  imeisv : Option String := none
  tmsi : Option String := none
  imsiSends : UInt32 := 0
  tmsiChanges : UInt32 := 0
  deriving DecidableEq, Repr

/-! ## Timing advance -/

/-- `TimingAdvanceStatus` (`timing_advance.rs:61`). -/
inductive TimingAdvanceStatus
  | unsupported
  | learning
  | consistent
  | moved (baseline observed : UInt16) (metres : Int)
  deriving DecidableEq, Repr

/-- `JUMP_THRESHOLD_STEPS` (`timing_advance.rs:44`). -/
def JUMP_THRESHOLD_STEPS : Nat := 16

/-- `SAMPLES_FOR_BASELINE` (`timing_advance.rs:51`). -/
def SAMPLES_FOR_BASELINE : Nat := 2

/-- `MAX_CELLS` (`timing_advance.rs:55`). -/
def MAX_CELLS : Nat := 32

/-- `CellSamples` (`timing_advance.rs:87`). -/
structure CellSamples where
  baseline : Option UInt16 := none
  seen : Nat := 0
  deriving DecidableEq, Repr

/-- `TimingAdvanceTracker` (`timing_advance.rs:96`). -/
structure TimingAdvanceTracker where
  cells : AList fun _ : CellKey => CellSamples := ∅
  anyNonZero : Bool := false
  status : TimingAdvanceStatus := .unsupported

/-- What a sample of a cell comes to, and what is kept of it (`timing_advance.rs:132`). -/
def CellSamples.observe (metres : UInt16 → Int) (entry : CellSamples) (ta : UInt16) :
    CellSamples × TimingAdvanceStatus :=
  match entry.baseline with
  | none =>
    if SAMPLES_FOR_BASELINE ≤ entry.seen then ({ entry with baseline := some ta }, .consistent)
    else (entry, .learning)
  | some baseline =>
    let difference := max ta.toNat baseline.toNat - min ta.toNat baseline.toNat
    if JUMP_THRESHOLD_STEPS ≤ difference then
      ({ entry with baseline := some ta }, .moved baseline ta (metres ta - metres baseline))
    else (entry, .consistent)

/-- `observe` (`timing_advance.rs:109`). The distances it reports are rounded floating point. -/
def TimingAdvanceTracker.observe (metres : UInt16 → Int) (t : TimingAdvanceTracker)
    (cell : CellKey) (ta : UInt16) : TimingAdvanceTracker :=
  let anyNonZero := t.anyNonZero || ta != 0
  if !anyNonZero then { t with anyNonZero, status := .unsupported }
  else
    let cells := if MAX_CELLS ≤ t.cells.entries.length ∧ cell ∉ t.cells then ∅ else t.cells
    let entry := (cells.lookup cell).getD {}
    let observed := { entry with seen := entry.seen + 1 }.observe metres ta
    { cells := cells.insert cell observed.1, anyNonZero, status := observed.2 }

/-! ## The tracker -/

/-- `HISTORY_LIMIT` (`cell_info.rs:32`). -/
def HISTORY_LIMIT : Nat := 256

/-- `CellTracker` (`cell_info.rs:256`). -/
structure CellTracker where
  serving : Option ServingCell := none
  neighbors : List NeighborCell := []
  history : List CellObservation := []
  encryption : Option EncryptionStatus := none
  health : DetectionHealth := {}
  identities : SubscriberIdentities := {}
  firstCellSeen : Option DateTime := none
  lastNasMessage : Option DateTime := none
  timingAdvance : TimingAdvanceTracker := {}

/-- `RANGES` (`cell_info.rs:279`): the first and the last channel of a band. -/
def RANGES : List (UInt32 × UInt32 × UInt16) :=
  [(0, 599, 1), (600, 1199, 2), (1200, 1949, 3), (1950, 2399, 4), (2400, 2649, 5), (2750, 3449, 7),
    (3450, 3799, 8), (3800, 4149, 9), (4150, 4749, 10), (5010, 5179, 12), (5180, 5279, 13),
    (5280, 5379, 14), (5730, 5849, 17), (5850, 5999, 18), (6000, 6149, 19), (6150, 6449, 20),
    (6450, 6599, 21), (7500, 7699, 24), (7700, 8039, 25), (8040, 8689, 26), (8690, 9039, 27),
    (9040, 9209, 28), (9210, 9659, 29), (9770, 9869, 30), (9870, 9919, 31), (36000, 36199, 33),
    (36200, 36349, 34), (36350, 36949, 35), (36950, 37549, 36), (37550, 37749, 37),
    (37750, 38249, 38), (38250, 38649, 39), (38650, 39649, 40), (39650, 41589, 41),
    (41590, 43589, 42), (43590, 45589, 43), (45590, 46589, 44), (46590, 46789, 45),
    (46790, 54539, 46), (55240, 56739, 48), (56740, 58239, 49), (58240, 59089, 50),
    (59090, 59139, 51), (59140, 60139, 52), (60140, 60254, 53), (65536, 66435, 65),
    (66436, 67335, 66), (67336, 67535, 67), (67536, 67835, 68), (67836, 68335, 69),
    (68336, 68585, 70), (68586, 68935, 71)]

/-- `band_for_earfcn` (`cell_info.rs:278`). -/
def bandForEarfcn (earfcn : UInt32) : Option UInt16 :=
  (RANGES.find? fun (lo, hi, _) => lo ≤ earfcn && earfcn ≤ hi).map (·.2.2)

-- as the source's tests have it, the last two between bands and past them
example : bandForEarfcn 2050 = some 4 ∧ bandForEarfcn 66436 = some 66 ∧
    bandForEarfcn 2700 = none ∧ bandForEarfcn 999999 = none := by decide

/-- `cipher_name` (`cell_info.rs:156`). -/
def cipherName (algorithm : UInt8) : String :=
  if algorithm = 0 then "EEA0 (none)"
  else if algorithm = 1 then "EEA1 (SNOW 3G)"
  else if algorithm = 2 then "EEA2 (AES)"
  else if algorithm = 3 then "EEA3 (ZUC)"
  else "reserved"

/-- `integrity_name` (`cell_info.rs:172`). -/
def integrityName (algorithm : UInt8) : String :=
  if algorithm = 0 then "EIA0 (none)"
  else if algorithm = 1 then "EIA1 (SNOW 3G)"
  else if algorithm = 2 then "EIA2 (AES)"
  else if algorithm = 3 then "EIA3 (ZUC)"
  else "reserved"

/-- `saturating_add(1)`. -/
def saturatingSucc (n : UInt32) : UInt32 := if n = 0xffffffff then n else n + 1

namespace CellTracker

/-- `record_observation` (`cell_info.rs:483`). -/
def recordObservation (t : CellTracker) (pci : UInt16) (earfcn : UInt32) (rsrp : ℚ)
    (now : DateTime) : CellTracker :=
  { t with
    history :=
      if t.history.any (·.key = (pci, earfcn)) then
        Keyed.amend CellObservation.key (pci, earfcn)
          (fun existing =>
            { existing with
              lastSeen := now
              bestRsrpDbm := if existing.bestRsrpDbm < rsrp then rsrp else existing.bestRsrpDbm })
          t.history
      else
        Keyed.enqueue HISTORY_LIMIT t.history
          { pci, earfcn, identity := none, firstSeen := now, lastSeen := now, bestRsrpDbm := rsrp } }

/-- `update_serving` (`cell_info.rs:345`). -/
def updateServing (t : CellTracker) (pci : UInt16) (earfcn : UInt32) (signal : SignalMeasurements)
    (searchThreshold : Option UInt32) (now : DateTime) : CellTracker :=
  let identity :=
    match t.serving with
    | some prev => if prev.pci = pci ∧ prev.earfcn = earfcn then prev.identity else none
    | none => none
  let timingAdvance :=
    match t.serving with
    | some prev => if prev.pci = pci ∧ prev.earfcn = earfcn then prev.timingAdvance else none
    | none => none
  let serving :=
    { searchThreshold, pci, earfcn, band := bandForEarfcn earfcn, signal, identity, timingAdvance,
      lastSeen := now }
  recordObservation
    { t with serving := some serving, firstCellSeen := some (t.firstCellSeen.getD now) }
    pci earfcn signal.rsrpDbm now

@[simp] theorem updateServing_health (t : CellTracker) (pci : UInt16) (earfcn : UInt32)
    (signal : SignalMeasurements) (searchThreshold : Option UInt32) (now : DateTime) :
    (t.updateServing pci earfcn signal searchThreshold now).health = t.health := rfl

/-- The encryption so far, or that nothing is known of it. -/
def encryptionStatus (t : CellTracker) (now : DateTime) : EncryptionStatus :=
  t.encryption.getD
    { rrcCipher := none, rrcIntegrity := none, nasCipher := none, nasIntegrity := none,
      lastSeen := now }

/-- `update_rrc_security` (`cell_info.rs:383`). -/
def updateRrcSecurity (t : CellTracker) (cipher integrity : UInt8) (now : DateTime) : CellTracker :=
  { t with
    encryption := some
      { t.encryptionStatus now with
        rrcCipher := some (cipherName cipher)
        rrcIntegrity := some (integrityName integrity)
        lastSeen := now } }

/-- `update_nas_security` (`cell_info.rs:397`). -/
def updateNasSecurity (t : CellTracker) (cipher integrity : UInt8) (now : DateTime) : CellTracker :=
  { t with
    encryption := some
      { t.encryptionStatus now with
        nasCipher := some (cipherName cipher)
        nasIntegrity := some (integrityName integrity)
        lastSeen := now } }

/-- `update_nas_seen` (`cell_info.rs:416`). -/
def updateNasSeen (t : CellTracker) (now : DateTime) : CellTracker :=
  { t with lastNasMessage := some now }

/-- `record_messages` (`cell_info.rs:440`). -/
def recordMessages (t : CellTracker) (seen skipped : Nat) (now : DateTime) : CellTracker :=
  { t with
    health :=
      { messagesSeen := t.health.messagesSeen + seen
        messagesSkipped := t.health.messagesSkipped + skipped
        lastMessage := if 0 < seen then some now else t.health.lastMessage } }

/-- `update_timing_advance` (`cell_info.rs:449`). -/
def updateTimingAdvance (metres : UInt16 → Int) (t : CellTracker) (ta : UInt16) : CellTracker :=
  match t.serving with
  | some serving =>
    { t with
      timingAdvance := t.timingAdvance.observe metres (serving.pci, serving.earfcn) ta
      serving := some { serving with timingAdvance := some ta } }
  | none => t

@[simp] theorem updateTimingAdvance_health (metres : UInt16 → Int) (t : CellTracker) (ta : UInt16) :
    (t.updateTimingAdvance metres ta).health = t.health := by
  unfold updateTimingAdvance
  split <;> rfl

/-- `update_identity` (`cell_info.rs:462`). The entry is looked for from the latest. -/
def updateIdentity (t : CellTracker) (identity : CellIdentity) : CellTracker :=
  match t.serving with
  | none => t
  | some serving =>
    { t with
      serving := some { serving with identity := some identity }
      history := (Keyed.amend CellObservation.key (serving.pci, serving.earfcn)
        (fun entry => { entry with identity := some identity }) t.history.reverse).reverse }

@[simp] theorem updateIdentity_health (t : CellTracker) (identity : CellIdentity) :
    (t.updateIdentity identity).health = t.health := by
  unfold updateIdentity
  split <;> rfl

/-- `update_neighbors` (`cell_info.rs:479`). -/
def updateNeighbors (t : CellTracker) (neighbors : List NeighborCell) : CellTracker :=
  { t with neighbors }

/-- `update_identity_sent` (`cell_info.rs:514`). -/
def updateIdentitySent (t : CellTracker) : Identity → CellTracker
  | .imsi value =>
    { t with
      identities :=
        { t.identities with
          imsiSends := saturatingSucc t.identities.imsiSends
          imsi := some value } }
  | .imei value => { t with identities := { t.identities with imei := some value } }
  | .imeisv value => { t with identities := { t.identities with imeisv := some value } }
  | .tmsi value =>
    if t.identities.tmsi ≠ some value then
      { t with
        identities :=
          { t.identities with
            tmsiChanges := saturatingSucc t.identities.tmsiChanges
            tmsi := some value } }
    else t

end CellTracker

end Rayhunter
