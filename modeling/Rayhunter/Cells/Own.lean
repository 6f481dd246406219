import Rayhunter.Cells.Effect
import Rayhunter.Lib.InForce
import Rayhunter.Lib.Reach
import Rayhunter.Qmdl.Stream

/-!
# Whose identity a cell is given

The measurements of a container are applied before its RRC messages and its random access responses
are, whatever the order in which they were received. So a cell may be given an identity or a timing
advance that was received before it became the serving cell, and of several reports in one container
all but the last are lost. `own_of_orderly` is about the runs in which no container is such: in them
what a cell is given is its own, and the best signal in the history is the best reported.
-/

namespace Rayhunter

open MessageItem InForce Runs

/-- Something that was given to a cell: where the message it was read in stands among those received,
and how many had been received by then. -/
structure Attachment (β : Type) where
  cell : CellKey
  position : Nat
  received : Nat
  value : β
  deriving DecidableEq, Repr

/-- What was found in messages, given to a cell. -/
def attachments {β : Type} (cell : CellKey) (start received : Nat) (found : List (Nat × β)) :
    List (Attachment β) :=
  found.map fun (k, value) => ⟨cell, start + k, received, value⟩

variable [CellCrates]

/-- The cell a message reports as serving. -/
def MessageItem.cell? (item : MessageItem) : Option CellKey := (report? item).map (·.key)

/-- The tracker, with all messages it was shown and what it gave to a cell: the identities, each also
to the cell's entry in the history, and the timing advances. -/
structure CellRun where
  tracker : CellTracker := {}
  heard : List MessageItem := []
  named : List (Attachment CellIdentity) := []
  ranged : List (Attachment UInt16) := []

namespace CellRun

/-- What is found for the serving cell in a container: identities, if it has none, and the last
timing advance. -/
def identities (s : ServingCell) (items : List MessageItem) : List (Nat × CellIdentity) :=
  if s.identity.isNone then found identityIn? items else []

/-- A container is taken up. -/
def next (x : CellRun) (input : MessagesContainer × DateTime) : CellRun :=
  let items := input.1.items
  let received := x.heard.length + items.length
  let serving := x.tracker.reported (items.filterMap report?).getLast? input.2
  { tracker := x.tracker.updateCellInfo items input.2
    heard := x.heard ++ items
    named := x.named ++ serving.elim [] fun s =>
      attachments s.key x.heard.length received (identities s items)
    ranged := x.ranged ++ serving.elim [] fun s =>
      attachments s.key x.heard.length received (found advance? items).getLast?.toList }

/-- Any container may come. -/
def step (x : CellRun) (input : MessagesContainer × DateTime) : Option CellRun := some (x.next input)

/-- Nothing was received. -/
def Init (x : CellRun) : Prop := x = {}

/-- What is given to a cell was received after the latest change to it. -/
def Attachment.Own {β : Type} (heard : List MessageItem) (a : Attachment β) : Prop :=
  SinceChange cell? (heard.take a.received) a.cell a.position

/-- What a serving cell has, if it has it, is what was given last, to this cell, and since the latest
change to it. -/
def Has {β : Type} (heard : List MessageItem) (given : List (Attachment β)) (cell : CellKey)
    (value : Option β) : Prop :=
  ∀ b, value = some b → ∃ a, given.getLast? = some a ∧ a.cell = cell ∧ a.value = b ∧
    SinceChange cell? heard cell a.position

/-- The reports of a cell. -/
def signals (heard : List MessageItem) (cell : CellKey) : List ℚ :=
  ((heard.filterMap report?).filter (·.key = cell)).map (·.signal.rsrpDbm)

/-- Everything that is given to a cell was received after the latest change to it, with what the
serving cell has and what an entry of the history has; the history is bounded, has one entry for a
cell, and in it the best signal reported of the cell. -/
structure Own (x : CellRun) : Prop where
  named : ∀ a ∈ x.named, Attachment.Own x.heard a ∧
    x.heard[a.position]?.bind identityIn? = some a.value
  ranged : ∀ a ∈ x.ranged, Attachment.Own x.heard a ∧
    x.heard[a.position]?.bind advance? = some a.value
  identity : ∀ s, x.tracker.serving = some s → Has x.heard x.named s.key s.identity
  advance : ∀ s, x.tracker.serving = some s → Has x.heard x.ranged s.key s.timingAdvance
  entries : ∀ e ∈ x.tracker.history, ∀ identity, e.identity = some identity →
    ∃ a ∈ x.named, a.cell = e.key ∧ a.value = identity
  bounded : x.tracker.history.length ≤ HISTORY_LIMIT
  distinct : (x.tracker.history.map (·.key)).Nodup
  best : ∀ e ∈ x.tracker.history,
    e.bestRsrpDbm ∈ signals x.heard e.key ∧ ∀ rsrp ∈ signals x.heard e.key, rsrp ≤ e.bestRsrpDbm

/-! ## Containers in order -/

/-- No report after a position of a container is of another cell than the one that serves there. -/
def Quiet (x : CellRun) (items : List MessageItem) (k : Nat) : Prop :=
  ∀ c ∈ (items.drop k).filterMap cell?, inForce cell? (x.heard ++ items.take k) = some c

/-- The serving cell is identified, and no other is reported last. -/
def Identified (x : CellRun) (items : List MessageItem) : Prop :=
  ∃ s, x.tracker.serving = some s ∧ s.identity.isSome ∧
    ∀ r ∈ (items.filterMap report?).getLast?, r.key = s.key

/-- A container in which the serving cell does not change after what is then given to it, nor away
and back, and in which no signal is reported that is better than what is kept of its cell. -/
structure Orderly (x : CellRun) (input : MessagesContainer × DateTime) : Prop where
  advance : ∀ p ∈ (found advance? input.1.items).getLast?, x.Quiet input.1.items p.1
  identity : ¬ x.Identified input.1.items →
    ∀ p ∈ found identityIn? input.1.items, x.Quiet input.1.items p.1
  back : ∀ s, x.tracker.serving = some s →
    s.identity.isSome ∨ s.timingAdvance.isSome ∧ found advance? input.1.items = [] →
    (∀ r ∈ (input.1.items.filterMap report?).getLast?, r.key = s.key) →
      ∀ c ∈ input.1.items.filterMap cell?, c = s.key
  last : ∀ r ∈ (input.1.items.filterMap report?).getLast?,
    ∀ rsrp ∈ signals (x.heard ++ input.1.items) r.key, rsrp ≤ r.signal.rsrpDbm ∨
      ∃ e ∈ x.tracker.history, e.key = r.key ∧ rsrp ≤ e.bestRsrpDbm
  others : ∀ e ∈ x.tracker.history,
    (∀ r ∈ (input.1.items.filterMap report?).getLast?, r.key ≠ e.key) →
      ∀ rsrp ∈ signals input.1.items e.key, rsrp ≤ e.bestRsrpDbm

/-- The serving cell is the one reported last, and what was given was received before. -/
structure Inv (x : CellRun) : Prop extends Own x where
  serves : x.tracker.serving.map (·.key) = inForce cell? x.heard
  named_le : ∀ a ∈ x.named, a.received ≤ x.heard.length
  ranged_le : ∀ a ∈ x.ranged, a.received ≤ x.heard.length

theorem filterMap_cell? (items : List MessageItem) :
    items.filterMap cell? = (items.filterMap report?).map (·.key) := by
  rw [List.map_filterMap]
  rfl

/-- The cell that is reported last serves, if one is reported. -/
theorem inForce_heard {x : CellRun} (h : x.Inv) (items : List MessageItem) (now : DateTime) :
    inForce cell? (x.heard ++ items) =
      (x.tracker.reported (items.filterMap report?).getLast? now).map (·.key) := by
  rw [CellTracker.reported_key, h.serves, inForce_append, inForce, filterMap_cell?,
    List.getLast?_map]

/-- What was given before the container stays a cell's own. -/
theorem Attachment.Own.append {β : Type} {f : MessageItem → Option β} {heard : List MessageItem}
    {a : Attachment β} (h : Attachment.Own heard a ∧ heard[a.position]?.bind f = some a.value)
    (hle : a.received ≤ heard.length) (items : List MessageItem) :
    Attachment.Own (heard ++ items) a ∧ (heard ++ items)[a.position]?.bind f = some a.value := by
  obtain ⟨b, hb, -⟩ := Option.bind_eq_some_iff.1 h.2
  have hlt := (List.getElem?_eq_some_iff.1 hb).1
  refine ⟨?_, by rw [List.getElem?_append_left hlt]; exact h.2⟩
  unfold Attachment.Own
  rw [List.take_append_of_le_length hle]
  exact h.1

/-- What is found in a container and given to the cell that serves in the end is its own, if no other
is reported after it. -/
theorem own_of_quiet {x : CellRun} {β : Type} {f : MessageItem → Option β}
    {items : List MessageItem} {cell : CellKey} (hcell : inForce cell? (x.heard ++ items) = some cell)
    {p : Nat × β} (hp : p ∈ found f items) (hq : x.Quiet items p.1) :
    let a : Attachment β :=
      ⟨cell, x.heard.length + p.1, x.heard.length + items.length, p.2⟩
    Attachment.Own (x.heard ++ items) a ∧ (x.heard ++ items)[a.position]?.bind f = some a.value ∧
      SinceChange cell? (x.heard ++ items) cell a.position := by
  obtain ⟨hlt, hfound⟩ := mem_found hp
  have hsplit : x.heard ++ items.take p.1 ++ items.drop p.1 = x.heard ++ items := by
    rw [List.append_assoc, List.take_append_drop]
  have hsince := sinceChange_of_inForce (hsplit ▸ hcell) hq
  rw [hsplit, List.length_append, List.length_take, Nat.min_eq_left (Nat.le_of_lt hlt)] at hsince
  refine ⟨?_, ?_, hsince⟩
  · unfold Attachment.Own
    rw [List.take_of_length_le (by rw [List.length_append])]
    exact hsince
  · rw [List.getElem?_append_right (Nat.le_add_right ..), Nat.add_sub_cancel_left]
    exact hfound

/-- So is what was given before and what is found for it, all together. -/
theorem given_own {x : CellRun} {β : Type} {f : MessageItem → Option β} {items : List MessageItem}
    {cell : CellKey} (hcell : inForce cell? (x.heard ++ items) = some cell)
    {given : List (Attachment β)}
    (hgiven : ∀ a ∈ given, Attachment.Own x.heard a ∧ x.heard[a.position]?.bind f = some a.value)
    (hle : ∀ a ∈ given, a.received ≤ x.heard.length) {l : List (Nat × β)}
    (hl : ∀ p ∈ l, p ∈ found f items ∧ x.Quiet items p.1) {a : Attachment β}
    (ha : a ∈ given ++ attachments cell x.heard.length (x.heard.length + items.length) l) :
    (Attachment.Own (x.heard ++ items) a ∧
      (x.heard ++ items)[a.position]?.bind f = some a.value) ∧
      a.received ≤ (x.heard ++ items).length := by
  rcases List.mem_append.1 ha with ha | ha
  · refine ⟨Attachment.Own.append (hgiven a ha) (hle a ha) items, ?_⟩
    rw [List.length_append]
    exact Nat.le_add_right_of_le (hle a ha)
  · obtain ⟨p, hp, rfl⟩ := List.mem_map.1 ha
    obtain ⟨hown, hvalue, -⟩ := own_of_quiet hcell (hl p hp).1 (hl p hp).2
    exact ⟨⟨hown, hvalue⟩, by rw [List.length_append]⟩

/-- What the serving cell has after a container is the last of what was found for it in there, or
what it had where no other cell was reported. -/
theorem has_of_found {x : CellRun} {β : Type} {f : MessageItem → Option β} {items : List MessageItem}
    {cell : CellKey} (hcell : inForce cell? (x.heard ++ items) = some cell)
    {given : List (Attachment β)} {l : List (Nat × β)}
    (hl : ∀ p ∈ l, p ∈ found f items ∧ x.Quiet items p.1) {old : Option β}
    (hold : l = [] → ∀ b, old = some b → Has x.heard given cell old ∧
      inForce cell? x.heard = some cell ∧ ∀ c ∈ items.filterMap cell?, c = cell) :
    Has (x.heard ++ items)
      (given ++ attachments cell x.heard.length (x.heard.length + items.length) l) cell
      ((l.map (·.2)).getLast?.or old) := by
  intro b hb
  rcases List.eq_nil_or_concat' l with rfl | ⟨l', p, rfl⟩
  · rw [List.map_nil, List.getLast?_nil, Option.none_or] at hb
    obtain ⟨hhas, hforce, hreports⟩ := hold rfl b hb
    obtain ⟨a, ha, hacell, hvalue, hsince⟩ := hhas b hb
    refine ⟨a, ?_, hacell, hvalue, hsince.append hforce hreports⟩
    rw [attachments, List.map_nil, List.append_nil, ha]
  · obtain ⟨hp, hq⟩ := hl p (by simp)
    rw [List.map_append, List.map_singleton, List.getLast?_concat, Option.some_or] at hb
    obtain ⟨-, -, hsince⟩ := own_of_quiet hcell hp hq
    refine ⟨_, ?_, rfl, Option.some.inj hb, hsince⟩
    rw [attachments, List.map_append, ← List.append_assoc, List.map_singleton,
      List.getLast?_concat]

theorem signals_append (heard items : List MessageItem) (cell : CellKey) :
    signals (heard ++ items) cell = signals heard cell ++ signals items cell := by
  simp [signals]

theorem mem_signals_of_last {items : List MessageItem} {r : ServingReport}
    (hr : (items.filterMap report?).getLast? = some r) (heard : List MessageItem) :
    r.signal.rsrpDbm ∈ signals (heard ++ items) r.key := by
  unfold signals
  refine List.mem_map_of_mem (List.mem_filter.2 ⟨?_, decide_eq_true rfl⟩)
  rw [List.filterMap_append]
  exact List.mem_append_right _ (List.mem_of_getLast? hr)

theorem last_identities (s : ServingCell) (items : List MessageItem) :
    ((identities s items).map (·.2)).getLast? =
      if s.identity.isNone then (items.filterMap identityIn?).getLast? else none := by
  unfold identities
  split
  · rw [found_map_snd]
  · rfl

theorem last_advance (items : List MessageItem) :
    ((found advance? items).getLast?.toList.map (·.2)).getLast? =
      (items.filterMap advance?).getLast? := by
  rw [← found_map_snd, List.getLast?_map, List.getLast?_map]
  cases (found advance? items).getLast? <;> rfl

section
variable {x : CellRun} (h : x.Inv) {input : MessagesContainer × DateTime} (hok : x.Orderly input)
include h hok

/-- A cell that serves after a container and had something before it has it still as its own. -/
theorem Inv.carried {β : Type} (field : ServingCell → Option β) {given : List (Attachment β)}
    (hhas : ∀ s, x.tracker.serving = some s → Has x.heard given s.key (field s))
    {s : ServingCell}
    (hcarried : ∀ r, field (x.tracker.served r input.2) =
      (x.tracker.serving.filter (·.key = r.key)).bind field)
    (hs : x.tracker.reported (input.1.items.filterMap report?).getLast? input.2 = some s)
    (hknown : ∀ prev b, field prev = some b →
      prev.identity.isSome ∨ prev.timingAdvance.isSome ∧ found advance? input.1.items = []) :
    ∀ b, field s = some b → Has x.heard given s.key (field s) ∧
      inForce cell? x.heard = some s.key ∧ ∀ c ∈ input.1.items.filterMap cell?, c = s.key := by
  intro b hb
  obtain ⟨prev, hprev, hkey, hfield⟩ := CellTracker.of_reported field hcarried hs hb
  have hforce : inForce cell? x.heard = some s.key := by
    rw [← h.serves, hprev, Option.map_some, hkey]
  refine ⟨?_, hforce, ?_⟩
  · have := hhas prev hprev
    rwa [hkey, hfield, ← hb] at this
  · rw [← hkey]
    refine hok.back prev hprev (hknown prev b hfield) fun r hr => ?_
    rw [hkey]
    have hkeys := congrArg (Option.map (·.key)) hs
    rw [CellTracker.reported_key, Option.mem_def.1 hr] at hkeys
    exact Option.some.inj hkeys

/-- An entry whose cell is not reported last is as good as before. -/
theorem Inv.best_kept {e : CellObservation} (he : e ∈ x.tracker.history)
    (hne : ∀ r ∈ (input.1.items.filterMap report?).getLast?, r.key ≠ e.key) :
    e.bestRsrpDbm ∈ signals (x.heard ++ input.1.items) e.key ∧
      ∀ rsrp ∈ signals (x.heard ++ input.1.items) e.key, rsrp ≤ e.bestRsrpDbm := by
  obtain ⟨hmem, hbest⟩ := h.best e he
  rw [signals_append]
  refine ⟨List.mem_append_left _ hmem, fun rsrp hrsrp => ?_⟩
  rcases List.mem_append.1 hrsrp with hrsrp | hrsrp
  · exact hbest rsrp hrsrp
  · exact hok.others e he hne rsrp hrsrp

/-- The history after the last report in the container. -/
theorem Inv.observed (e : CellObservation)
    (he : e ∈ x.tracker.observed (input.1.items.filterMap report?).getLast? input.2) :
    (e.bestRsrpDbm ∈ signals (x.heard ++ input.1.items) e.key ∧
      ∀ rsrp ∈ signals (x.heard ++ input.1.items) e.key, rsrp ≤ e.bestRsrpDbm) ∧
    ∀ identity, e.identity = some identity →
      ∃ a ∈ x.named, a.cell = e.key ∧ a.value = identity := by
  cases hr : (input.1.items.filterMap report?).getLast? with
  | none =>
    rw [hr] at he
    have hne : ∀ r ∈ (input.1.items.filterMap report?).getLast?, r.key ≠ e.key := by simp [hr]
    exact ⟨h.best_kept hok he hne, h.entries e he⟩
  | some r =>
    rw [hr] at he
    have hlast := hok.last r hr
    have hmem := mem_signals_of_last hr x.heard
    have hkept : ∀ e₀ : CellObservation, r.key ≠ e₀.key →
        ∀ r ∈ (input.1.items.filterMap report?).getLast?, r.key ≠ e₀.key := by
      intro e₀ hne r' hr'
      obtain rfl := Option.some.inj (hr.symm.trans hr')
      exact hne
    rcases CellTracker.observed_cases h.distinct r input.2 with ⟨-, hobs⟩ | ⟨hnew, hobs⟩
    · rw [hobs] at he
      obtain ⟨e₀, he₀, rfl⟩ := List.mem_map.1 he
      split
      · next hkey =>
        have hbest : max e₀.bestRsrpDbm r.signal.rsrpDbm ∈
            signals (x.heard ++ input.1.items) e₀.key := by
          rcases max_choice e₀.bestRsrpDbm r.signal.rsrpDbm with hmax | hmax
          · rw [hmax, signals_append]
            exact List.mem_append_left _ (h.best e₀ he₀).1
          · rw [hmax]
            exact hkey.symm ▸ hmem
        refine ⟨⟨hbest, fun rsrp hrsrp => ?_⟩, h.entries e₀ he₀⟩
        rcases hlast rsrp (hkey ▸ hrsrp) with hle | ⟨e₁, he₁, hkey₁, hle⟩
        · exact le_max_of_le_right hle
        · obtain rfl := List.inj_on_of_nodup_map h.distinct he₁ he₀ (hkey₁.trans hkey.symm)
          exact le_max_of_le_left hle
      · next hkey => exact ⟨h.best_kept hok he₀ (hkept e₀ (Ne.symm hkey)), h.entries e₀ he₀⟩
    · rw [hobs] at he
      rcases Keyed.mem_of_mem_enqueue he with he | rfl
      · have hkey : r.key ≠ e.key := fun heq => hnew (heq ▸ List.mem_map_of_mem he)
        exact ⟨h.best_kept hok he (hkept e hkey), h.entries e he⟩
      · refine ⟨⟨hmem, fun rsrp hrsrp => ?_⟩, by rintro _ ⟨⟩⟩
        rcases hlast rsrp hrsrp with hle | ⟨e₁, he₁, hkey, -⟩
        · exact hle
        · exact absurd (hkey ▸ List.mem_map_of_mem he₁) hnew

omit h in
/-- The identities that are found for the serving cell come after its latest change. -/
theorem Orderly.identities {s : ServingCell}
    (hs : x.tracker.reported (input.1.items.filterMap report?).getLast? input.2 = some s) :
    ∀ p ∈ CellRun.identities s input.1.items,
      p ∈ found identityIn? input.1.items ∧ x.Quiet input.1.items p.1 := by
  intro p hp
  unfold CellRun.identities at hp
  split at hp
  · next hnone =>
    refine ⟨hp, hok.identity ?_ p hp⟩
    rintro ⟨s₀, hs₀, hsome, hlast⟩
    rw [CellTracker.reported_identity hs hs₀ hlast, Option.isNone_iff_eq_none] at hnone
    rw [hnone] at hsome
    cases hsome
  · cases hp

omit h in
/-- So does the last timing advance. -/
theorem Orderly.advances : ∀ p ∈ (found advance? input.1.items).getLast?.toList,
    p ∈ found advance? input.1.items ∧ x.Quiet input.1.items p.1 := by
  intro p hp
  have hp := Option.mem_toList.1 hp
  exact ⟨List.mem_of_getLast? hp, hok.advance p hp⟩

omit h hok in
theorem next_of_some {s : ServingCell}
    (hs : x.tracker.reported (input.1.items.filterMap report?).getLast? input.2 = some s) :
    x.next input =
      { tracker := x.tracker.updateCellInfo input.1.items input.2
        heard := x.heard ++ input.1.items
        named := x.named ++ attachments s.key x.heard.length
          (x.heard.length + input.1.items.length) (identities s input.1.items)
        ranged := x.ranged ++ attachments s.key x.heard.length
          (x.heard.length + input.1.items.length) (found advance? input.1.items).getLast?.toList } := by
  simp only [CellRun.next, hs, Option.elim_some]

omit h hok in
theorem next_of_none
    (hs : x.tracker.reported (input.1.items.filterMap report?).getLast? input.2 = none) :
    x.next input =
      { x with
        tracker := x.tracker.updateCellInfo input.1.items input.2
        heard := x.heard ++ input.1.items } := by
  simp only [CellRun.next, hs, Option.elim_none, List.append_nil]

/-- So it is with everything a container does. -/
theorem Inv.next : (x.next input).Inv := by
  obtain ⟨hdistinct, hle⟩ := CellTracker.observed_bounded h.distinct h.bounded
    (input.1.items.filterMap report?).getLast? input.2
  obtain ⟨hserving, hhistory⟩ := x.tracker.updateCellInfo_cells input.1.items input.2 hdistinct
  have hforce := inForce_heard h input.1.items input.2
  have hobserved := h.observed hok
  -- what the entries are named changes neither their cells nor their signals
  have hbounded : (x.tracker.updateCellInfo input.1.items input.2).history.length ≤
      HISTORY_LIMIT := by
    rw [hhistory, CellTracker.nameEntries, List.length_map]
    exact hle
  have hkeys : ((x.tracker.updateCellInfo input.1.items input.2).history.map (·.key)).Nodup := by
    rw [hhistory, CellTracker.nameEntries_key]
    exact hdistinct
  have hbest : ∀ e ∈ (x.tracker.updateCellInfo input.1.items input.2).history,
      e.bestRsrpDbm ∈ signals (x.heard ++ input.1.items) e.key ∧
        ∀ rsrp ∈ signals (x.heard ++ input.1.items) e.key, rsrp ≤ e.bestRsrpDbm := by
    rw [hhistory]
    intro e he
    obtain ⟨e₀, he₀, rfl⟩ := List.mem_map.1 he
    split <;> exact (hobserved e₀ he₀).1
  cases hs : x.tracker.reported (input.1.items.filterMap report?).getLast? input.2 with
  | none =>
    rw [hs] at hserving hhistory hforce
    rw [next_of_none hs]
    have hserving : (x.tracker.updateCellInfo input.1.items input.2).serving = none := hserving
    exact
      { named := fun a ha => Attachment.Own.append (h.named a ha) (h.named_le a ha) _
        ranged := fun a ha => Attachment.Own.append (h.ranged a ha) (h.ranged_le a ha) _
        identity := fun s hs => by rw [hserving] at hs; cases hs
        advance := fun s hs => by rw [hserving] at hs; cases hs
        entries := by
          rw [hhistory]
          intro e he identity hidentity
          obtain ⟨e₀, he₀, rfl⟩ := List.mem_map.1 he
          exact (hobserved e₀ he₀).2 identity hidentity
        bounded := hbounded
        distinct := hkeys
        best := hbest
        serves := by rw [hserving, hforce]
        named_le := fun a ha => by
          rw [List.length_append]
          exact Nat.le_add_right_of_le (h.named_le a ha)
        ranged_le := fun a ha => by
          rw [List.length_append]
          exact Nat.le_add_right_of_le (h.ranged_le a ha) }
  | some s =>
    rw [hs] at hserving hhistory hforce
    have hidentities := hok.identities hs
    have hadvances := hok.advances
    rw [next_of_some hs]
    exact
      { named := fun a ha => (given_own hforce h.named h.named_le hidentities ha).1
        ranged := fun a ha => (given_own hforce h.ranged h.ranged_le hadvances ha).1
        identity := by
          intro s' hs'
          obtain rfl := Option.some.inj (hserving.symm.trans hs')
          have hhas := has_of_found hforce hidentities fun _ =>
            h.carried hok (·.identity) h.identity (fun _ => rfl) hs fun prev b hb =>
              .inl (Option.isSome_of_eq_some hb)
          rw [last_identities] at hhas
          exact hhas
        advance := by
          intro s' hs'
          obtain rfl := Option.some.inj (hserving.symm.trans hs')
          have hhas := has_of_found hforce hadvances fun hnil =>
            h.carried hok (·.timingAdvance) h.advance (fun _ => rfl) hs fun prev b hb =>
              .inr ⟨Option.isSome_of_eq_some hb,
                List.getLast?_eq_none_iff.1 (Option.toList_eq_nil_iff.1 hnil)⟩
          rw [last_advance] at hhas
          exact hhas
        entries := by
          rw [hhistory]
          intro e he identity hidentity
          obtain ⟨e₀, he₀, rfl⟩ := List.mem_map.1 he
          by_cases hany : (some s).any (·.key = e₀.key)
          · rw [if_pos hany] at hidentity ⊢
            have hkey : s.key = e₀.key := of_decide_eq_true hany
            rcases Option.or_eq_some_iff.1 hidentity with hnew | ⟨-, hold⟩
            · have hlast := (last_identities s input.1.items).trans hnew
              obtain ⟨p, hp, hvalue⟩ := List.mem_map.1 (List.mem_of_getLast? hlast)
              exact ⟨_, List.mem_append_right _ (List.mem_map_of_mem hp), hkey, hvalue⟩
            · obtain ⟨a, ha, hsame⟩ := (hobserved e₀ he₀).2 identity hold
              exact ⟨a, List.mem_append_left _ ha, hsame⟩
          · rw [if_neg hany] at hidentity ⊢
            obtain ⟨a, ha, hsame⟩ := (hobserved e₀ he₀).2 identity hidentity
            exact ⟨a, List.mem_append_left _ ha, hsame⟩
        bounded := hbounded
        distinct := hkeys
        best := hbest
        serves := by
          rw [hserving, hforce]
          rfl
        named_le := fun a ha => (given_own hforce h.named h.named_le hidentities ha).2
        ranged_le := fun a ha => (given_own hforce h.ranged h.ranged_le hadvances ha).2 }

end

theorem inv_of_reach {x : CellRun} (h : Reach Init step Orderly x) : x.Inv := by
  refine h.invariant ?_ ?_
  · rintro _ rfl
    exact
      { named := by simp
        ranged := by simp
        identity := by simp
        advance := by simp
        entries := by simp
        bounded := Nat.zero_le _
        distinct := .nil
        best := by simp
        serves := rfl
        named_le := by simp
        ranged_le := by simp }
  · rintro x input _ hinv hok hst
    cases hst
    exact hinv.next hok

/-- **In every run of orderly containers what a cell is given is its own, and the history has the best
signal of each of its cells.** -/
theorem own_of_orderly {x : CellRun} (h : Reach Init step Orderly x) : x.Own := (inv_of_reach h).toOwn

end CellRun

/-! ## A handover in one container -/

/-- A report of cell 214 on channel 6300, as the modem sends it. -/
def reportFrame : List UInt8 :=
  [16, 0, 48, 0, 48, 0, 127, 177, 0, 0, 0, 0, 0, 0, 0, 0, 4, 1, 0, 0, 156, 24, 214, 10, 236, 196, 78,
    0, 226, 36, 78, 0, 255, 252, 227, 15, 254, 216, 10, 0, 71, 173, 86, 2, 29, 49, 1, 0, 162, 98, 65,
    0, 226, 104, 126]

/-- A random access response with a timing advance of 4. -/
def responseFrame : List UInt8 :=
  [16, 0, 52, 0, 52, 0, 98, 176, 0, 0, 0, 0, 0, 0, 0, 0, 1, 1, 160, 105, 6, 2, 36, 0, 1, 0, 1, 7, 27,
    255, 152, 255, 0, 0, 1, 35, 26, 4, 0, 24, 28, 1, 0, 7, 0, 6, 0, 70, 92, 128, 189, 6, 72, 0, 0, 0,
    201, 174, 126]

/-- A report of cell 212 on channel 3350. -/
def otherReportFrame : List UInt8 :=
  [16, 0, 52, 0, 52, 0, 127, 177, 0, 0, 0, 0, 0, 0, 0, 0, 5, 1, 0, 0, 22, 13, 0, 0, 212, 14, 0, 0, 75,
    180, 68, 0, 84, 68, 69, 0, 57, 229, 20, 19, 49, 73, 7, 0, 72, 173, 254, 1, 159, 49, 1, 0, 162, 63,
    0, 0, 57, 117, 126]

/-- What the three are parsed as, by their log type and the first byte of the body. -/
def decodeRecord : List UInt8 → Option (Message LogBody)
  | _ :: _ :: _ :: _ :: _ :: _ :: 127 :: 177 :: _ :: _ :: _ :: _ :: _ :: _ :: _ :: _ :: 4 :: _ =>
    some (.log 0 48 48 0xb17f ⟨0⟩ (.lteMl1ServingCellMeasurementAndEvaluation
      { header := .v4 1 0 6300 214 5, measRsrp := 1260, avgRsrp := 1250, measRsrq := 255,
        measRssi := 694, rxlev := 39234887, sSearch := 78109, r9Data := some 4285090 }))
  | _ :: _ :: _ :: _ :: _ :: _ :: 127 :: 177 :: _ =>
    some (.log 0 52 52 0xb17f ⟨0⟩ (.lteMl1ServingCellMeasurementAndEvaluation
      { header := .v5 1 0 3350 212 7, measRsrp := 1099, avgRsrp := 1108, measRsrq := 313,
        measRssi := 466, rxlev := 33467720, sSearch := 78239, r9Data := some 16290 }))
  | _ :: _ :: _ :: _ :: _ :: _ :: 98 :: 176 :: _ =>
    some (.log 0 52 52 0xb062 ⟨0⟩ (.lteMacRachResponse
      { version := 1
        subpackets := [⟨6, 2, 36, .rachAttempt
          { header := .v2 1 0 1 7, msg1 := .v2 27 255 (-104), msg2 := ⟨0, 1, 6691, 4⟩,
            msg3 := ⟨.v1 (mapGrant 72728), 7, 6, [0, 70, 92, 128, 189, 6, 72, 0, 0, 0]⟩,
            additionalInfo := none }⟩] }))
  | _ => none

/-- Crates that decode these three. -/
@[reducible] def measuredCells : CellCrates where
  toRecordCrates :=
    { plainCrates with
      fromBytes := fun data => (decodeRecord data).elim (.error ()) fun message => .ok ([], message) }
  systemInformationBlockType1 message := Empty.elim message
  securityModeCommandR8 message := Empty.elim message
  emmSecurityModeCommand message := Empty.elim message
  metres ta := ta.toNat * 78

omit [CellCrates] in
/-- A response received after the report of a cell is the cell's own. -/
theorem own_of_orderly_response :
    letI := measuredCells
    CellRun.Own (({} : CellRun).next (containerOf [reportFrame, responseFrame], anInstant)) := by
  let _ := measuredCells
  have hadvance : (found advance? (containerOf [reportFrame, responseFrame]).items).getLast? =
      some (1, 4) := by decide +kernel
  have hafter : ((containerOf [reportFrame, responseFrame]).items.drop 1).filterMap cell? = [] := by
    decide +kernel
  have hidentity : found identityIn? (containerOf [reportFrame, responseFrame]).items = [] := by
    decide +kernel
  have hsignals : ∀ r ∈ ((containerOf [reportFrame, responseFrame]).items.filterMap report?).getLast?,
      ∀ rsrp ∈ CellRun.signals (containerOf [reportFrame, responseFrame]).items r.key,
        rsrp ≤ r.signal.rsrpDbm := by
    decide +kernel
  have hok : CellRun.Orderly {} (containerOf [reportFrame, responseFrame], anInstant) :=
    { advance := by
        rintro _ hp c hc
        obtain rfl := Option.some.inj (hadvance.symm.trans hp)
        rw [hafter] at hc
        cases hc
      identity := fun _ p hp => by rw [hidentity] at hp; cases hp
      back := fun s hs => nomatch hs
      last := fun r hr rsrp hrsrp => .inl (hsignals r hr rsrp hrsrp)
      others := fun e he => nomatch he }
  exact CellRun.own_of_orderly (.step (.init rfl) hok rfl)

omit [CellCrates] in
/-- A response received from one cell is given to another, whose report follows in the container. -/
theorem handover_gives_advance :
    letI := measuredCells
    ¬ ∀ x, Reach CellRun.Init CellRun.step (fun _ _ => True) x → x.Own := by
  let _ := measuredCells
  intro h
  let x := (({} : CellRun).next (containerOf [reportFrame], anInstant)).next
    (containerOf [responseFrame, otherReportFrame], anInstant)
  have hown : x.Own := h x (.step (.step (.init rfl) trivial rfl) trivial rfl)
  have hgiven : x.ranged = [⟨(212, 3350), 1, 3, 4⟩] := by decide +kernel
  obtain ⟨⟨-, hlast⟩, -⟩ := hown.ranged ⟨(212, 3350), 1, 3, 4⟩ (by rw [hgiven]; simp)
  have hchange : ChangesTo cell? (x.heard.take 3) (212, 3350) 2 :=
    ⟨by decide +kernel, by decide +kernel⟩
  exact absurd (hlast 2 hchange) (by decide)

end Rayhunter
