import Rayhunter.Recorder.Stopped
import Rayhunter.Recorder.StorePath

/-!
# The storage monitor

`run_storage_monitor` (`daemon/src/storage.rs`) checks the memory card, asks the recorder to move
when the card comes or goes, and tells the web interface where recordings go. It changes what it
tells at a success alone, and the recorder can have moved and still report a failure
(`Recorder.StrandedBy`), so the two agree in every run in which no move ends so
(`storage_status_tells`), and a move that ends so leaves the status with the old directory.
-/

namespace Rayhunter

open Runs

/-! ## The status -/

/-- A path as text; what the configuration names is absolute. -/
def displayPath (path : PathBuf) : String := "/" ++ "/".intercalate path

/-- `StorageConfig` (`storage.rs:45`). -/
structure StorageConfig where
  internal : PathBuf
  removable : Option PathBuf

/-- `RemovableState` (`storage.rs:74`). -/
inductive RemovableState
  | notConfigured
  | present
  | missing
  | unusable (reason : String)
  deriving DecidableEq, Repr

/-- `Check` (`storage.rs:359`). -/
structure Check where
  state : RemovableState
  remounted : Bool

/-- `StorageStatus` (`storage.rs:88`), its paths by their components. -/
structure StorageStatus where
  activePath : PathBuf
  internalPath : PathBuf
  removablePath : Option PathBuf
  removable : RemovableState
  usingFallback : Bool
  since : Option DateTime
  lastEvent : Option String

/-- `StorageStatus::new` (`storage.rs:109`). -/
def StorageStatus.new (config : StorageConfig) (active : PathBuf) (removable : RemovableState)
    (now : DateTime) : StorageStatus where
  activePath := active
  internalPath := config.internal
  removablePath := config.removable
  removable
  usingFallback := config.removable.isSome && decide (active = config.internal)
  since := some now
  lastEvent := none

/-- `initial_status` (`storage.rs:466`). -/
def initialStatus (config : StorageConfig) (active : PathBuf) (removable : RemovableState)
    (now : DateTime) : StorageStatus :=
  { StorageStatus.new config active removable now with
    lastEvent := some <| match removable with
      | .notConfigured => "Recording to internal storage."
      | .present => s!"Recording to the memory card at {displayPath active}."
      | .missing =>
        "Memory card missing at startup: recording to internal storage until it returns."
      | .unusable reason =>
        s!"Memory card cannot be used ({reason}): recording to internal storage." }

/-- `decide_switch` (`storage.rs:420`). -/
def decideSwitch (previous : RemovableState) (check : Check) (activeIsCard : Bool) : Option Bool :=
  let wantCard := decide (check.state = .present)
  let returned := wantCard && (decide (previous ≠ .present) || check.remounted)
  if wantCard = activeIsCard ∧ !returned then none else some wantCard

/-- What the monitor asks of the recorder, with what it will say and note when it is done. -/
structure StoreRequest where
  target : PathBuf
  reason : String
  event : String
  state : RemovableState

/-- The request to move to the card or away from it (`storage.rs:641`). -/
def storeRequest (config : StorageConfig) (removable : PathBuf) (state : RemovableState)
    (wantCard : Bool) (freeBytes : Option UInt64) : StoreRequest :=
  if wantCard then
    { target := removable
      reason := "memory card returned"
      event := s!"Memory card back: recording to it again at {displayPath removable}."
      state }
  else
    let free := match freeBytes with
      | some b => s!" ({(b / 1024 / 1024).toNat} MB free)"
      | none => ""
    let why := match state with
      | .unusable reason => s!"Memory card cannot be used ({reason})"
      | _ => "Memory card missing"
    { target := config.internal
      reason := why
      event := s!"{why}: recording to internal storage{free} until it returns."
      state }

/-! ## The monitor beside the recorder -/

/-- Where the monitor is in its loop; a request it has sent is taken and answered by the recorder
later. -/
inductive MonitorPhase
  | waiting
  | asked (request : StoreRequest)
  | answered (request : StoreRequest) (result : Except RecordingStoreError Unit)
  | ended

variable [Decoders] [Detectors]

/-- The recorder and the storage monitor; `handling` is whether the recorder still takes
messages. -/
structure Monitored where
  recorder : Recorder
  handling : Bool
  phase : MonitorPhase
  status : StorageStatus
  notifications : List Notification

/-- What happens next: the monitor checks the card, the recorder takes the request, the monitor
reads the answer, the recorder does anything else, or the device shuts down. -/
inductive MonitoredStep
  | poll (check : Check) (freeBytes : Option UInt64)
  | switch (io : Recorder.SwitchIo)
  | reply (now : DateTime)
  | recorder (op : RecorderStep)
  | shutdown

namespace Monitored

/-- One check of the card (`storage.rs:627`). -/
def poll (config : StorageConfig) (removable : PathBuf) (s : Monitored) (check : Check)
    (freeBytes : Option UInt64) : Monitored :=
  match decideSwitch s.status.removable check (decide (s.status.activePath = removable)) with
  | none =>
    if check.state ≠ s.status.removable then
      { s with status := { s.status with removable := check.state } }
    else s
  | some wantCard =>
    if s.handling then
      { s with phase := .asked (storeRequest config removable check.state wantCard freeBytes) }
    else { s with phase := .ended }

/-- The answer to a request (`storage.rs:680`). -/
def reply (config : StorageConfig) (s : Monitored) (request : StoreRequest) (now : DateTime) :
    Except RecordingStoreError Unit → Monitored
  | .ok () =>
    { s with
      phase := .waiting
      status :=
        { StorageStatus.new config request.target request.state now with
          lastEvent := some request.event }
      notifications := ⟨.storage, request.event, none⟩ :: s.notifications }
  | .error e =>
    { s with
      phase := .waiting
      status :=
        { s.status with
          removable := request.state
          lastEvent :=
            some s!"Could not move recordings to {displayPath request.target}: {e.display}" } }

/-- What the recorder can do beside the request of the monitor, which alone switches the store; the
steps of other holders of the store's lock go on after the recorder has ended. -/
def takes (s : Monitored) : RecorderStep → Bool
  | .setEntryAnnotations .. | .markEntryAsUploaded .. | .files _ => true
  | .switchStore .. => false
  | _ => s.handling

section
variable [Gzip] [SerdeJson] [Chrono] [Toml] [Sidecar] [Build]

/-- The recorder takes a request (`diag.rs:1102`). -/
def take (s : Monitored) (request : StoreRequest) (io : Recorder.SwitchIo) : Monitored :=
  let (result, recorder) := s.recorder.switchStore request.target request.reason io
  { s with recorder, phase := .answered request result }

/-- One step of the recorder or of `run_storage_monitor` (`storage.rs:610`), which does not run
where no card is configured. -/
def step (config : StorageConfig) (s : Monitored) : MonitoredStep → Option Monitored
  | .poll check freeBytes =>
    match s.phase, config.removable with
    | .waiting, some removable => some (s.poll config removable check freeBytes)
    | _, _ => none
  | .switch io =>
    match s.phase with
    | .asked request => if s.handling then some (s.take request io) else none
    | _ => none
  | .reply now =>
    match s.phase with
    | .answered request result => some (s.reply config request now result)
    | .asked _ => if s.handling then none else some { s with phase := .ended }
    | _ => none
  | .recorder op =>
    if s.takes op then
      match s.recorder.step op with
      | some recorder => some { s with recorder }
      | none => some { s with handling := false }
    else none
  | .shutdown =>
    match s.phase with
    | .waiting => some { s with phase := .ended }
    | _ => none

theorem step_switch (config : StorageConfig) {s : Monitored} {request : StoreRequest}
    (io : Recorder.SwitchIo) (hphase : s.phase = .asked request) (hs : s.handling = true) :
    s.step config (.switch io) = some (s.take request io) := by
  simp only [step, hphase, hs, if_true]

theorem step_reply (config : StorageConfig) {s : Monitored} {request : StoreRequest}
    {result : Except RecordingStoreError Unit} (now : DateTime)
    (hphase : s.phase = .answered request result) :
    s.step config (.reply now) = some (s.reply config request now result) := by
  simp only [step, hphase]

end

/-- The two when the device has started, at whatever state the card is. -/
structure Started (recorderConfig : RecorderConfig) (config : StorageConfig) (s : Monitored) :
    Prop where
  recorder : s.recorder.Fresh recorderConfig
  phase : s.phase = .waiting
  status : ∃ removable now, s.status = initialStatus config s.recorder.storePath removable now

/-! ## What the status tells -/

/-- The status tells where recordings go. -/
structure Tells (config : StorageConfig) (s : Monitored) : Prop where
  active : s.status.activePath = s.recorder.storePath
  fallback : s.status.usingFallback =
    (config.removable.isSome && decide (s.recorder.storePath = config.internal))

/-- The recorder has answered a request and the monitor has not read the answer. -/
def AnswerPending (s : Monitored) : Prop := ∃ request result, s.phase = .answered request result

/-- What holds in between: an answer that is a success is one at the target, and before any other
answer is read the status still tells where recordings go. -/
def Inv (config : StorageConfig) (s : Monitored) : Prop :=
  match s.phase with
  | .answered request (.ok ()) => s.recorder.storePath = request.target
  | _ => s.Tells config

/-- What holds in between is a matter of the monitor and of the directory in use. -/
theorem Inv.congr {config : StorageConfig} {s s' : Monitored} (h : s.Inv config)
    (hphase : s'.phase = s.phase) (hstatus : s'.status = s.status)
    (hpath : s'.recorder.storePath = s.recorder.storePath) : s'.Inv config := by
  unfold Inv at h ⊢
  rw [hphase]
  split at h
  · rw [hpath]
    exact h
  · exact ⟨by rw [hstatus, hpath]; exact h.active, by rw [hstatus, hpath]; exact h.fallback⟩

theorem inv_iff_tells {config : StorageConfig} {s : Monitored} (h : ¬ s.AnswerPending) :
    s.Inv config ↔ s.Tells config := by
  unfold Inv
  split
  · next request heq => exact absurd ⟨request, .ok (), heq⟩ h
  · rfl

theorem Started.inv {recorderConfig : RecorderConfig} {config : StorageConfig} {s : Monitored}
    (h : s.Started recorderConfig config) : s.Inv config := by
  obtain ⟨removable, now, hstatus⟩ := h.status
  rw [Inv, h.phase]
  constructor <;> rw [hstatus] <;> rfl

/-- A check of the card changes neither the directory in use nor what is told of it. -/
theorem poll_inv {config : StorageConfig} {removable : PathBuf} {s : Monitored} (check : Check)
    (freeBytes : Option UInt64) (h : s.Tells config) (hs : s.phase = .waiting) :
    (s.poll config removable check freeBytes).Inv config := by
  obtain ⟨hactive, hfallback⟩ := h
  unfold poll
  split
  · split
    · refine (inv_iff_tells fun ⟨_, _, heq⟩ => ?_).2 ⟨hactive, hfallback⟩
      cases hs.symm.trans heq
    · refine (inv_iff_tells fun ⟨_, _, heq⟩ => ?_).2 ⟨hactive, hfallback⟩
      cases hs.symm.trans heq
  · split
    · exact ⟨hactive, hfallback⟩
    · exact ⟨hactive, hfallback⟩

theorem not_answerPending_reply (config : StorageConfig) (s : Monitored) (request : StoreRequest)
    (now : DateTime) (result : Except RecordingStoreError Unit) :
    ¬ (s.reply config request now result).AnswerPending := by
  rintro ⟨_, _, heq⟩
  cases result <;> cases heq

/-- So does the answer to a request, where it came with what holds in between. -/
theorem reply_tells {config : StorageConfig} {s : Monitored} {request : StoreRequest}
    {result : Except RecordingStoreError Unit} (now : DateTime) (h : s.Inv config)
    (hs : s.phase = .answered request result) : (s.reply config request now result).Tells config := by
  rw [Inv, hs] at h
  cases result with
  | ok u =>
    have hpath : s.recorder.storePath = request.target := h
    constructor
    · exact hpath.symm
    · show (config.removable.isSome && decide (request.target = config.internal)) = _
      rw [← hpath]
      rfl
  | error e => exact ⟨h.active, h.fallback⟩

variable [Gzip] [SerdeJson] [Chrono] [Toml] [Sidecar] [Build]

/-- Once the monitor has read the answer, or knows that there will be none, the status tells where
recordings go. -/
theorem reply_step {config : StorageConfig} {s s' : Monitored} {now : DateTime}
    (h : s.Inv config) (hst : s.step config (.reply now) = some s') :
    s'.Tells config ∧ ¬ s'.AnswerPending := by
  simp only [step] at hst
  split at hst
  · next request result hphase =>
    cases hst
    exact ⟨reply_tells now h hphase, not_answerPending_reply _ _ _ _ _⟩
  · next request hphase =>
    split at hst
    · cases hst
    · cases hst
      rw [Inv, hphase] at h
      exact ⟨⟨h.active, h.fallback⟩, fun ⟨_, _, heq⟩ => by cases heq⟩
  · cases hst

/-- The step strands no recorder in a directory it was to move to. -/
def NotStranding (s : Monitored) : MonitoredStep → Prop
  | .switch io => ∀ request, s.phase = .asked request →
    ¬ s.recorder.StrandedBy request.target request.reason io
  | _ => True

/-- **Each step keeps the two in agreement**, but for one that strands the recorder. -/
theorem inv_step {config : StorageConfig} {s s' : Monitored} {op : MonitoredStep}
    (h : s.Inv config) (hop : s.NotStranding op) (hst : s.step config op = some s') :
    s'.Inv config := by
  cases op with
  | poll check freeBytes =>
    simp only [step] at hst
    split at hst
    · next removable hphase hremovable =>
      cases hst
      rw [Inv, hphase] at h
      exact poll_inv check freeBytes h hphase
    · cases hst
  | switch io =>
    simp only [step] at hst
    split at hst
    · next request hphase =>
      split at hst
      · rw [Inv, hphase] at h
        have hout := s.recorder.switchStore_outcome request.target request.reason io
        have hnot := hop request hphase
        cases hst
        unfold take
        generalize s.recorder.switchStore request.target request.reason io = q at hout ⊢
        obtain ⟨result, recorder⟩ := q
        generalize hpath : recorder.storePath = path at hout
        cases hout with
        | moved => exact hpath
        | stayed =>
          constructor
          · exact h.active.trans hpath.symm
          · rw [hpath]
            exact h.fallback
        | stranded hbad => exact absurd hbad hnot
      · cases hst
    · cases hst
  | reply now =>
    obtain ⟨htells, hnot⟩ := reply_step h hst
    exact (inv_iff_tells hnot).2 htells
  | recorder op =>
    simp only [step] at hst
    split at hst
    · next htakes =>
      split at hst
      · next recorder hrec =>
        cases hst
        refine h.congr rfl rfl (Recorder.storePath_step ?_ hrec)
        rintro path reason io rfl
        cases htakes
      · cases hst
        exact h.congr rfl rfl rfl
    · cases hst
  | shutdown =>
    simp only [step] at hst
    split at hst
    · next hphase =>
      cases hst
      rw [Inv, hphase] at h
      exact ⟨h.active, h.fallback⟩
    · cases hst

/-- A move that strands the recorder is answered with a failure, and the status stays with the
directory the recorder has left. -/
theorem not_tells_of_stranding {config : StorageConfig} {s s' s'' : Monitored}
    {io : Recorder.SwitchIo} {now : DateTime} (h : s.Inv config)
    (hbad : ¬ s.NotStranding (.switch io)) (hswitch : s.step config (.switch io) = some s')
    (hreply : s'.step config (.reply now) = some s'') : ¬ s''.Tells config := by
  simp only [step] at hswitch
  split at hswitch
  · next request hphase =>
    have hstranded : s.recorder.StrandedBy request.target request.reason io := by
      by_contra hnot
      refine hbad fun request' heq => ?_
      cases hphase.symm.trans heq
      exact hnot
    split at hswitch
    · rw [Inv, hphase] at h
      have hout := s.recorder.switchStore_outcome request.target request.reason io
      cases hswitch
      unfold take at hreply
      generalize s.recorder.switchStore request.target request.reason io = q at hreply hout
      obtain ⟨result, recorder⟩ := q
      cases hreply
      generalize hpath : recorder.storePath = path at hout
      cases hout with
      | moved hnot => exact absurd hstranded hnot
      | stayed hnot => exact absurd hstranded hnot
      | stranded =>
        intro htells
        have hactive : s.status.activePath = recorder.storePath := htells.active
        exact hstranded.1 (h.active.symm.trans (hactive.trans hpath))
    · cases hswitch
  · cases hswitch

/-- **The storage status tells where recordings go**, in every run in which no move strands the
recorder, except while an answer has not been read; and of a move that is answered it tells so just
where that did not strand the recorder. -/
theorem storage_status_tells (recorderConfig : RecorderConfig) (config : StorageConfig) :
    (∀ s : Monitored, Reach (Started recorderConfig config) (step config) NotStranding s →
      ¬ s.AnswerPending → s.Tells config) ∧
    ∀ (s s' s'' : Monitored) (io : Recorder.SwitchIo) (now : DateTime),
      Reach (Started recorderConfig config) (step config) NotStranding s →
      s.step config (.switch io) = some s' → s'.step config (.reply now) = some s'' →
        (s''.Tells config ↔ s.NotStranding (.switch io)) := by
  have hinv : ∀ s : Monitored,
      Reach (Started recorderConfig config) (step config) NotStranding s → s.Inv config :=
    fun s hrun => hrun.invariant (fun _ h => h.inv) fun _ _ _ h hop hst => inv_step h hop hst
  constructor
  · exact fun s hrun hnot => (inv_iff_tells hnot).1 (hinv s hrun)
  · intro s s' s'' io now hrun hswitch hreply
    constructor
    · intro htells
      by_contra hbad
      exact not_tells_of_stranding (hinv s hrun) hbad hswitch hreply htells
    · exact fun hop => (reply_step (inv_step (hinv s hrun) hop hswitch) hreply).1

/-! ## A card that returns -/

/-- Recordings go to internal storage, or to a card where there is one. -/
def cardConfig : StorageConfig := ⟨defaultStorePath, some Recorder.cardStorePath⟩

/-- A device that was started without its card. -/
def withoutCard : Monitored where
  recorder := Recorder.blankRecorder
  handling := true
  phase := .waiting
  status := initialStatus cardConfig defaultStorePath .missing anInstant
  notifications := []

omit [Gzip] [SerdeJson] [Chrono] [Toml] [Sidecar] [Build] in
theorem withoutCard_started : withoutCard.Started Recorder.defaultConfig cardConfig :=
  ⟨Recorder.blankRecorder_fresh, rfl, .missing, anInstant, rfl⟩

/-- The request the monitor sends when the card is back. -/
def cardRequest : StoreRequest :=
  storeRequest cardConfig Recorder.cardStorePath .present true none

/-- The device once that is sent. -/
def cardAsked : Monitored := { withoutCard with phase := .asked cardRequest }

theorem cardAsked_reached {ok : Monitored → MonitoredStep → Prop}
    (hok : ok withoutCard (.poll ⟨.present, false⟩ none)) :
    Reach (Started Recorder.defaultConfig cardConfig) (step cardConfig) ok cardAsked :=
  .step (.init withoutCard_started) hok rfl

/-- The start of a recording on a card that is full. -/
def fullCard : Recorder.SwitchIo :=
  { Recorder.switchAt anInstant with
    start := { Recorder.startAt anInstant with space := diskFull } }

omit [Decoders] [Detectors] [Gzip] [SerdeJson] [Chrono] [Toml] [Sidecar] [Build] in
/-- The card is back and takes the recordings, which the status tells. -/
theorem storage_status_tells_card :
    let _ := nasDecoders
    let _ := nullCipherDetectors
    let _ := storedGzip
    let _ := jsonText
    let _ := sidecarJson
    let _ := oneInstant
    let _ := deviceBuild
    let _ := tomlAt "2024-08-19T03:33:54+00:00"
    ∃ s : Monitored, s.recorder.storePath = Recorder.cardStorePath ∧ s.Tells cardConfig := by
  let _ := nasDecoders
  let _ := nullCipherDetectors
  let _ := storedGzip
  let _ := jsonText
  let _ := sidecarJson
  let _ := oneInstant
  let _ := deviceBuild
  let _ := tomlAt "2024-08-19T03:33:54+00:00"
  intro _ _ _ _ _ _ _ _
  have hnot : cardAsked.NotStranding (.switch (Recorder.switchAt anInstant)) := by
    intro request heq
    cases heq
    exact Recorder.not_strandedBy_of_ok (by decide +kernel)
  exact ⟨_, by decide +kernel, ((storage_status_tells Recorder.defaultConfig cardConfig).2 _ _ _
    (Recorder.switchAt anInstant) anInstant (cardAsked_reached trivial)
    (step_switch cardConfig _ rfl rfl) (step_reply cardConfig anInstant rfl)).2 hnot⟩

omit [Decoders] [Detectors] [Gzip] [SerdeJson] [Chrono] [Toml] [Sidecar] [Build] in
/-- The card is back and is full: recordings go there, but none can be started, and the status still
names internal storage. -/
theorem storage_status_stale :
    let _ := nasDecoders
    let _ := nullCipherDetectors
    let _ := storedGzip
    let _ := jsonText
    let _ := sidecarJson
    let _ := oneInstant
    let _ := deviceBuild
    let _ := tomlAt "2024-08-19T03:33:54+00:00"
    ¬ ∀ s : Monitored,
      Reach (Started Recorder.defaultConfig cardConfig) (step cardConfig) (fun _ _ => True) s →
        ¬ s.AnswerPending → s.Tells cardConfig := by
  let _ := nasDecoders
  let _ := nullCipherDetectors
  let _ := storedGzip
  let _ := jsonText
  let _ := sidecarJson
  let _ := oneInstant
  let _ := deviceBuild
  let _ := tomlAt "2024-08-19T03:33:54+00:00"
  intro _ _ _ _ _ _ _ _ h
  let result := (cardAsked.recorder.switchStore cardRequest.target cardRequest.reason fullCard).1
  have hrun : Reach (Started Recorder.defaultConfig cardConfig) (step cardConfig) (fun _ _ => True)
      ((cardAsked.take cardRequest fullCard).reply cardConfig cardRequest anInstant result) :=
    ((cardAsked_reached trivial).step trivial (step_switch cardConfig fullCard rfl rfl)).step trivial
      (step_reply cardConfig anInstant rfl)
  exact absurd (h _ hrun (not_answerPending_reply _ _ _ _ _)).active (by decide +kernel)

end Monitored

end Rayhunter
