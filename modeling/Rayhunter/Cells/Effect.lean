import Rayhunter.Cells.Update

/-!
# What a container does to the cells

The last report of the serving cell in a container makes it the serving cell, with what was known of
it if it was that before, and enters it in the history. After that the last timing advance in the
container is given to it, and the last identity if it has none: `updateCellInfo_cells`.
-/

namespace Rayhunter

open MessageItem

variable [CellCrates]

namespace MessageItem

/-- The identity in a message. -/
def identityIn? (item : MessageItem) : Option CellIdentity := (aside? item).bind identity?

end MessageItem

/-! ## What an update does to the cells -/

namespace CellTracker

/-- The serving cell after a report of it. -/
def served (t : CellTracker) (r : ServingReport) (now : DateTime) : ServingCell where
  searchThreshold := r.searchThreshold
  pci := r.pci
  earfcn := r.earfcn
  band := bandForEarfcn r.earfcn
  signal := r.signal
  identity := (t.serving.filter (·.key = r.key)).bind (·.identity)
  timingAdvance := (t.serving.filter (·.key = r.key)).bind (·.timingAdvance)
  lastSeen := now

/-- The serving cell after the last report in a container, if there is one. -/
def reported (t : CellTracker) (report : Option ServingReport) (now : DateTime) :
    Option ServingCell :=
  report.elim t.serving fun r => some (t.served r now)

/-- The history after it. -/
def observed (t : CellTracker) (report : Option ServingReport) (now : DateTime) :
    List CellObservation :=
  report.elim t.history fun r =>
    (t.recordObservation r.pci r.earfcn r.signal.rsrpDbm now).history

omit [CellCrates] in
theorem updateServing_serving (t : CellTracker) (r : ServingReport) (now : DateTime) :
    (t.updateServing r.pci r.earfcn r.signal r.searchThreshold now).serving =
      some (t.served r now) := by
  simp only [updateServing, recordObservation]
  cases h : t.serving with
  | none => simp [served, h]
  | some prev =>
    by_cases hk : prev.pci = r.pci ∧ prev.earfcn = r.earfcn <;>
      simp [served, h, hk, ServingCell.key, ServingReport.key, Option.filter]

omit [CellCrates] in
theorem updateTimingAdvance_serving (metres : UInt16 → Int) (t : CellTracker) (ta : UInt16) :
    (t.updateTimingAdvance metres ta).serving =
      t.serving.map fun s => { s with timingAdvance := some ta } := by
  unfold updateTimingAdvance
  cases h : t.serving <;> simp [h]

omit [CellCrates] in
theorem updateTimingAdvance_history (metres : UInt16 → Int) (t : CellTracker) (ta : UInt16) :
    (t.updateTimingAdvance metres ta).history = t.history := by
  unfold updateTimingAdvance
  split <;> rfl

theorem measure_serving (t : CellTracker) (g : Gathered) (now : DateTime) :
    (t.measure g now).serving = (t.reported g.serving now).map fun s =>
      { s with timingAdvance := g.timingAdvance.or s.timingAdvance } := by
  unfold measure
  extract_lets t₁ t₂ t₃
  have hserving : t₂.serving = t.reported g.serving now := by
    unfold t₂
    cases g.serving with
    | none => rfl
    | some r => exact updateServing_serving t₁ r now
  have hneighbors : t₃.serving = t.reported g.serving now := by
    unfold t₃
    split <;> exact hserving
  cases g.timingAdvance with
  | none => simp [hneighbors]
  | some ta => simp only [updateTimingAdvance_serving, hneighbors, Option.some_or]

theorem measure_history (t : CellTracker) (g : Gathered) (now : DateTime) :
    (t.measure g now).history = t.observed g.serving now := by
  unfold measure
  extract_lets t₁ t₂ t₃
  have hserving : t₂.history = t.observed g.serving now := by
    unfold t₂
    cases g.serving with
    | none => rfl
    | some r => rfl
  have hneighbors : t₃.history = t.observed g.serving now := by
    unfold t₃
    split <;> exact hserving
  cases g.timingAdvance with
  | none => exact hneighbors
  | some ta => exact (updateTimingAdvance_history ..).trans hneighbors

end CellTracker

/-- A serving cell with an identity, if there is one, in the place of its own. -/
def ServingCell.name (identity : Option CellIdentity) (s : ServingCell) : ServingCell :=
  { s with identity := identity.or s.identity }

omit [CellCrates] in
@[simp] theorem map_name_none (serving : Option ServingCell) :
    serving.map (·.name none) = serving := by
  cases serving <;> rfl

omit [CellCrates] in
theorem ServingCell.name_name (o o' : Option CellIdentity) (s : ServingCell) :
    (s.name o).name o' = s.name (o'.or o) := by
  simp only [ServingCell.name, Option.or_assoc]

/-- A cell seen with an identity, if there is one, in the place of its own. -/
def CellObservation.name (identity : Option CellIdentity) (e : CellObservation) : CellObservation :=
  { e with identity := identity.or e.identity }

namespace CellTracker

/-- The serving cell's entries in the history with an identity, if there is one. -/
def nameEntries (serving : Option ServingCell) (identity : Option CellIdentity)
    (history : List CellObservation) : List CellObservation :=
  history.map fun e => if serving.any (·.key = e.key) then e.name identity else e

omit [CellCrates] in
theorem nameEntries_none (serving : Option ServingCell) (history : List CellObservation) :
    nameEntries serving none history = history := by
  refine (List.map_congr_left fun e _ => ?_).trans (List.map_id history)
  split <;> rfl

omit [CellCrates] in
theorem nameEntries_nameEntries (serving : Option ServingCell) (o o' : Option CellIdentity)
    (history : List CellObservation) :
    nameEntries (serving.map (·.name o)) o' (nameEntries serving o history) =
      nameEntries serving (o'.or o) history := by
  unfold nameEntries
  rw [List.map_map]
  refine List.map_congr_left fun e _ => ?_
  have hkey : ∀ e : CellObservation, (serving.map (·.name o)).any (·.key = e.key) =
      serving.any (·.key = e.key) := fun e => by cases serving <;> rfl
  rw [Function.comp_apply, hkey]
  by_cases h : serving.any (·.key = e.key)
  · rw [if_pos h, if_pos (by exact h), if_pos h]
    simp only [CellObservation.name, Option.or_assoc]
  · rw [if_neg h, if_neg h, if_neg h]

omit [CellCrates] in
theorem updateIdentity_history {t : CellTracker} (h : (t.history.map (·.key)).Nodup)
    (identity : CellIdentity) :
    (t.updateIdentity identity).history = nameEntries t.serving (some identity) t.history := by
  unfold updateIdentity
  cases hs : t.serving with
  | none => exact ((List.map_congr_left fun e _ => rfl).trans (List.map_id _)).symm
  | some s =>
    refine (Keyed.amend_reverse h).trans (List.map_congr_left fun e _ => ?_)
    by_cases hk : e.key = (s.pci, s.earfcn)
    · have hany : (some s).any (·.key = e.key) = true := decide_eq_true hk.symm
      rw [if_pos hk, if_pos hany]
      rfl
    · rw [if_neg hk, if_neg fun hany => hk (of_decide_eq_true hany).symm]

omit [CellCrates] in
theorem updateIdentity_serving (t : CellTracker) (identity : CellIdentity) :
    (t.updateIdentity identity).serving = t.serving.map (·.name (some identity)) := by
  unfold updateIdentity
  cases hs : t.serving with
  | none => exact hs
  | some s => rfl

/-- The identity in a message, if one is wanted. -/
def wanted (need : Bool) (message : Message LogBody) : Option CellIdentity :=
  if need then identity? message else none

theorem name_cells {t : CellTracker} (h : (t.history.map (·.key)).Nodup) (need : Bool)
    (message : Message LogBody) :
    (t.name need message).serving = t.serving.map (·.name (wanted need message)) ∧
      (t.name need message).history = nameEntries t.serving (wanted need message) t.history := by
  have hnone : t.serving = t.serving.map (·.name none) ∧
      t.history = nameEntries t.serving none t.history :=
    ⟨(map_name_none _).symm, (nameEntries_none ..).symm⟩
  unfold name wanted
  cases need with
  | false => exact hnone
  | true =>
    cases identity? message with
    | none => exact hnone
    | some identity => exact ⟨t.updateIdentity_serving identity, updateIdentity_history h identity⟩

omit [CellCrates] in
theorem nameEntries_key (serving : Option ServingCell) (identity : Option CellIdentity)
    (history : List CellObservation) :
    (nameEntries serving identity history).map (·.key) = history.map (·.key) := by
  unfold nameEntries
  rw [List.map_map]
  refine List.map_congr_left fun e _ => ?_
  rw [Function.comp_apply]
  split <;> rfl

/-- Several messages name the serving cell as the last identity in them does. -/
theorem foldl_readMessage_cells (need : Bool) (now : DateTime) (messages : List (Message LogBody))
    {t : CellTracker} (h : (t.history.map (·.key)).Nodup) :
    let identity := (messages.filterMap (wanted need)).getLast?
    let t' := messages.foldl (readMessage need now) t
    t'.serving = t.serving.map (·.name identity) ∧
      t'.history = nameEntries t.serving identity t.history := by
  induction messages generalizing t with
  | nil => exact ⟨(map_name_none _).symm, (nameEntries_none ..).symm⟩
  | cons message messages ih =>
    have hsame := t.readMessage_sameCells need now message
    obtain ⟨hserving, hhistory⟩ := name_cells h need message
    rw [← hsame.serving] at hserving
    rw [← hsame.history] at hhistory
    obtain ⟨hserving', hhistory'⟩ := ih (t := t.readMessage need now message)
      (by rw [hhistory, nameEntries_key]; exact h)
    have hlast : ((message :: messages).filterMap (wanted need)).getLast? =
        ((messages.filterMap (wanted need)).getLast?).or (wanted need message) := by
      cases hw : wanted need message <;> simp [hw, List.getLast?_cons]
    simp only [hlast, List.foldl_cons, hserving', hhistory', hserving, hhistory,
      nameEntries_nameEntries, Option.map_map]
    refine ⟨?_, trivial⟩
    exact congrFun (congrArg Option.map (funext (ServingCell.name_name _ _))) t.serving

theorem filterMap_wanted (need : Bool) (items : List MessageItem) :
    ((items.filterMap aside?).filterMap (wanted need)).getLast? =
      if need then (items.filterMap identityIn?).getLast? else none := by
  rw [List.filterMap_filterMap]
  cases need with
  | true => rfl
  | false =>
    have hnil : items.filterMap (fun a => (aside? a).bind (wanted false)) = [] :=
      List.filterMap_eq_nil_iff.2 fun a _ => by cases aside? a <;> rfl
    rw [hnil]
    rfl

/-- What a container does to the serving cell and to the history. -/
theorem updateCellInfo_cells {t : CellTracker} (items : List MessageItem) (now : DateTime)
    (h : ((t.observed (items.filterMap report?).getLast? now).map (·.key)).Nodup) :
    let report := (items.filterMap report?).getLast?
    let advance := (items.filterMap advance?).getLast?
    let serving := t.reported report now
    let identity :=
      if serving.any (·.identity.isNone) then (items.filterMap identityIn?).getLast? else none
    (t.updateCellInfo items now).serving = serving.map (fun s =>
        { s.name identity with timingAdvance := advance.or s.timingAdvance }) ∧
      (t.updateCellInfo items now).history =
        nameEntries serving identity (t.observed report now) := by
  intro report advance serving identity
  have hg := gather_eq items
  unfold updateCellInfo
  extract_lets g t₁
  change g = _ at hg
  have hserving : t₁.serving = serving.map fun s =>
      { s with timingAdvance := advance.or s.timingAdvance } := by
    rw [t.measure_serving g now, hg]
  have hhistory : t₁.history = t.observed report now := by rw [t.measure_history g now, hg]
  have hneed : t₁.needIdentity = serving.any (·.identity.isNone) := by
    rw [needIdentity, hserving]
    cases serving <;> rfl
  have hcells := foldl_readMessage_cells t₁.needIdentity now g.rrcMessages (t := t₁)
    (by rw [hhistory]; exact h)
  have hmessages : g.rrcMessages = items.filterMap aside? := by rw [hg]
  rw [hmessages, filterMap_wanted, hneed, hserving, hhistory] at hcells
  split
  · next hnone =>
    -- nothing was found, and nothing is what the messages name
    rw [hmessages, hg] at hnone
    obtain ⟨hreport, -, hadvance, haside⟩ := hnone
    have hreport : report = none := Option.isNone_iff_eq_none.1 hreport
    have hadvance : advance = none := Option.isNone_iff_eq_none.1 hadvance
    have hidentity : identity = none := by
      unfold identity
      rw [← filterMap_wanted, List.isEmpty_iff.1 haside]
      rfl
    have hsame : serving = t.serving := by unfold serving; rw [hreport]; rfl
    have hobserved : t.observed report now = t.history := by rw [hreport]; rfl
    rw [hidentity, hadvance, hsame, hobserved, nameEntries_none]
    exact ⟨by cases t.serving <;> rfl, rfl⟩
  · rw [hmessages, hneed]
    have hnamed : (if serving.any (·.identity.isNone) then (items.filterMap identityIn?).getLast?
      else none) = identity := rfl
    rw [hnamed] at hcells
    refine ⟨hcells.1.trans ?_, hcells.2.trans ?_⟩
    · rw [Option.map_map]
      rfl
    · unfold nameEntries
      refine List.map_congr_left fun e _ => ?_
      rw [Option.any_map]
      rfl

end CellTracker

/-- An entry with another signal of its cell. -/
def CellObservation.seen (rsrp : ℚ) (now : DateTime) (e : CellObservation) : CellObservation :=
  { e with
    lastSeen := now
    bestRsrpDbm := max e.bestRsrpDbm rsrp }

namespace CellTracker

/-! ## What is kept of before -/

omit [CellCrates] in
/-- What is carried over to a cell that is reported the cell had before. -/
theorem of_reported {β : Type} (field : ServingCell → Option β) {t : CellTracker}
    {report : Option ServingReport} {now : DateTime} {s : ServingCell} {b : β}
    (hcarried : ∀ r, field (t.served r now) = (t.serving.filter (·.key = r.key)).bind field)
    (h : t.reported report now = some s) (hs : field s = some b) :
    ∃ prev, t.serving = some prev ∧ prev.key = s.key ∧ field prev = some b := by
  cases report with
  | none => exact ⟨s, h, rfl, hs⟩
  | some r =>
    obtain rfl := Option.some.inj h
    rw [hcarried] at hs
    obtain ⟨prev, hprev, hfield⟩ := Option.bind_eq_some_iff.1 hs
    obtain ⟨hprev, hkey⟩ := Option.filter_eq_some_iff.1 hprev
    exact ⟨prev, hprev, of_decide_eq_true hkey, hfield⟩

omit [CellCrates] in
/-- A cell that served before and is reported again has the identity it had. -/
theorem reported_identity {t : CellTracker} {report : Option ServingReport} {now : DateTime}
    {s s₀ : ServingCell} (h : t.reported report now = some s) (hs₀ : t.serving = some s₀)
    (hsame : ∀ r ∈ report, r.key = s₀.key) : s.identity = s₀.identity := by
  cases report with
  | none =>
    obtain rfl := Option.some.inj (hs₀.symm.trans h)
    rfl
  | some r =>
    obtain rfl := Option.some.inj h
    simp [served, hs₀, Option.filter, hsame r rfl]

omit [CellCrates] in
theorem reported_key (t : CellTracker) (report : Option ServingReport) (now : DateTime) :
    (t.reported report now).map (·.key) = (report.map (·.key)).or (t.serving.map (·.key)) := by
  cases report <;> rfl

omit [CellCrates] in
/-- The history after a report: the cell's entry has the better of two signals, or a new one the
signal that is reported. -/
theorem observed_cases {t : CellTracker} (h : (t.history.map (·.key)).Nodup) (r : ServingReport)
    (now : DateTime) :
    (r.key ∈ t.history.map (·.key) ∧ t.observed (some r) now =
      t.history.map fun e => if e.key = r.key then e.seen r.signal.rsrpDbm now else e) ∨
    (r.key ∉ t.history.map (·.key) ∧ t.observed (some r) now =
      Keyed.enqueue HISTORY_LIMIT t.history
        { pci := r.pci, earfcn := r.earfcn, identity := none, firstSeen := now, lastSeen := now,
          bestRsrpDbm := r.signal.rsrpDbm }) := by
  have hany : (t.history.any fun e => e.key = (r.pci, r.earfcn)) ↔
      r.key ∈ t.history.map (·.key) := by
    simp [ServingReport.key]
  simp only [observed, Option.elim_some, recordObservation]
  by_cases hmem : r.key ∈ t.history.map (·.key)
  · refine .inl ⟨hmem, ?_⟩
    rw [if_pos (hany.2 hmem), Keyed.amend_eq_map h]
    simp only [CellObservation.seen, max_def_lt]
    rfl
  · refine .inr ⟨hmem, ?_⟩
    rw [if_neg fun h => hmem (hany.1 h)]

omit [CellCrates] in
/-- It has one entry for a cell, and no more than there is room for. -/
theorem observed_bounded {t : CellTracker} (h : (t.history.map (·.key)).Nodup)
    (hle : t.history.length ≤ HISTORY_LIMIT) (report : Option ServingReport) (now : DateTime) :
    ((t.observed report now).map (·.key)).Nodup ∧
      (t.observed report now).length ≤ HISTORY_LIMIT := by
  cases report with
  | none => exact ⟨h, hle⟩
  | some r =>
    rcases observed_cases h r now with ⟨-, hobs⟩ | ⟨hnew, hobs⟩
    · rw [hobs, List.length_map]
      refine ⟨?_, hle⟩
      rwa [Keyed.map_key_map (f := CellObservation.seen r.signal.rsrpDbm now) fun _ => rfl]
    · rw [hobs]
      exact ⟨Keyed.nodup_enqueue h hnew, Keyed.length_enqueue_le hle (by decide)⟩

end CellTracker

end Rayhunter
