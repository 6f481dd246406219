import Mathlib.Algebra.Order.Field.Rat
import Mathlib.Data.List.Dedup
import Mathlib.Data.List.Induction
import Mathlib.Data.Rat.Floor
import Mathlib.Order.MinMax
import Rayhunter.Radio.Mac

/-!
# Whether a device follows

`EnvironmentTracker` and `PersistenceTracker` (`radio/src/persistence.rs`). The first has a counter
that goes up where a scan shows other access points than the one before; the second keeps with
every sighting what the counter was at. Fractions are exact here.

The counter says how often its owner has moved and not where to, so one place has as many numbers
as there were ways back to it. `following_not_claimed_iff` says of which devices nothing is claimed
that should not be: those whose sightings still kept have no move between the first and the last.
-/

namespace Rayhunter

/-- `Persistence` (`persistence.rs:42`), from the least to the most concerning. -/
inductive Persistence
  | incidental
  | persistent
  | unusuallyPersistent
  | possibleFollowing
  | highConfidenceFollowing
  deriving DecidableEq, Repr

namespace Persistence

/-- The discriminant, which orders them. -/
def toNat : Persistence → Nat
  | incidental => 0
  | persistent => 1
  | unusuallyPersistent => 2
  | possibleFollowing => 3
  | highConfidenceFollowing => 4

theorem toNat_injective : Function.Injective toNat := by
  intro a b h
  cases a <;> cases b <;> first | rfl | simp [toNat] at h

instance : LinearOrder Persistence := LinearOrder.lift' toNat toNat_injective

theorem le_def {a b : Persistence} : a ≤ b ↔ a.toNat ≤ b.toNat := Iff.rfl

end Persistence

/-- `PersistenceConfig` (`persistence.rs:72`). Times are in nanoseconds, and `usize` has 32 bits on
the devices. -/
structure PersistenceConfig where
  minSightings : UInt32 := 3
  temporalSaturationHours : ℚ := 4
  reappearanceGap : Int := 10 * 60 * 1000000000
  environmentSaturation : UInt32 := 4
  densitySaturation : UInt32 := 20
  maxTrackedDevices : UInt32 := 512
  maxSightingsPerDevice : UInt32 := 64
  deriving DecidableEq, Repr

/-! ## Where the owner is -/

/-- The largest `u32`, at which the counter stays. -/
def u32Max : Nat := 2 ^ 32 - 1

/-- `EnvironmentTracker` (`persistence.rs:124`). -/
structure EnvironmentTracker where
  current : List MacAddr := []
  index : Nat := 0
  similarityThreshold : ℚ := 1 / 2
  minAnchors : Nat := 3
  deriving DecidableEq, Repr

/-- `EnvironmentTracker::observe` (`persistence.rs:158`). -/
def EnvironmentTracker.observe (t : EnvironmentTracker) (visible : List MacAddr) :
    EnvironmentTracker × Bool :=
  if visible.length < t.minAnchors then (t, false)
  else if t.current.isEmpty then ({ t with current := visible }, false)
  else
    let overlap := (visible.filter (· ∈ t.current)).length
    let smaller := min t.current.length visible.length
    let similarity : ℚ := overlap / smaller
    if similarity < t.similarityThreshold then
      ({ t with current := visible, index := min (t.index + 1) u32Max }, true)
    else ({ t with current := visible }, false)

/-! ## What was seen -/

/-- `Sighting` (`persistence.rs:181`), with whatever says where it was for `environment`. -/
structure Sighting (ε : Type) where
  at' : Int
  environment : ε
  rssiDbm : Option Int
  deriving DecidableEq, Repr

/-- `DeviceHistory` (`persistence.rs:188`). -/
structure DeviceHistory (ε : Type) where
  sightings : List (Sighting ε)
  lastSeen : Int
  deriving DecidableEq, Repr

/-- `PersistenceTracker` (`persistence.rs:198`). -/
structure PersistenceTracker (ε : Type) where
  config : PersistenceConfig
  devices : List (String × DeviceHistory ε)
  deriving DecidableEq, Repr

section Tracker

variable {ε δ : Type}

/-- The history of a device that was not seen before. -/
def DeviceHistory.new (at' : Int) : DeviceHistory ε := ⟨[], at'⟩

/-- What `record` does to the history of a device. -/
def DeviceHistory.add (cap : UInt32) (s : Sighting ε) (h : DeviceHistory ε) : DeviceHistory ε :=
  let sightings := h.sightings ++ [s]
  { sightings := if cap.toNat < sightings.length then sightings.drop 1 else sightings
    lastSeen := if h.lastSeen < s.at' then s.at' else h.lastSeen }

namespace PersistenceTracker

/-- What is kept of a device. -/
def history (t : PersistenceTracker ε) (key : String) : Option (DeviceHistory ε) :=
  (t.devices.find? (·.1 = key)).map (·.2)

/-- The device `evict_oldest` (`persistence.rs:252`) drops, one of those whose last sighting is the
longest ago. Between them it is up to the order of the hash map, in which `first` comes first. -/
def oldest (first : String) (devices : List (String × DeviceHistory ε)) : Option String :=
  let least := (devices.filter fun d => devices.all fun e => d.2.lastSeen ≤ e.2.lastSeen).map (·.1)
  if first ∈ least then some first else least.head?

/-- `evict_oldest` (`persistence.rs:252`). -/
def evictOldest (first : String) (t : PersistenceTracker ε) : PersistenceTracker ε :=
  match oldest first t.devices with
  | some key => { t with devices := t.devices.filter (·.1 ≠ key) }
  | none => t

/-- The entry of a device is changed, or a new one put there. -/
def withEntry (key : String) (new : DeviceHistory ε) (change : DeviceHistory ε → DeviceHistory ε)
    (devices : List (String × DeviceHistory ε)) : List (String × DeviceHistory ε) :=
  if devices.any (·.1 = key) then devices.map fun d => if d.1 = key then (d.1, change d.2) else d
  else devices ++ [(key, change new)]

/-- Where there is no room for a device that was not seen before, another is dropped. -/
def makeRoom (first key : String) (t : PersistenceTracker ε) : PersistenceTracker ε :=
  if !t.devices.any (·.1 = key) && t.config.maxTrackedDevices.toNat ≤ t.devices.length then
    t.evictOldest first
  else t

/-- `record` (`persistence.rs:218`). -/
def record (first key : String) (s : Sighting ε) (t : PersistenceTracker ε) :
    PersistenceTracker ε :=
  let t := t.makeRoom first key
  { t with
    devices := withEntry key (.new s.at') (.add t.config.maxSightingsPerDevice s) t.devices }

/-- `prune` (`persistence.rs:355`). -/
def prune (cutoff : Int) (t : PersistenceTracker ε) : PersistenceTracker ε :=
  let retain := fun h : DeviceHistory ε => { h with sightings := h.sightings.filter (cutoff ≤ ·.at') }
  let devices := t.devices.map fun d => (d.1, retain d.2)
  { t with devices := devices.filter fun d => !d.2.sightings.isEmpty }

end PersistenceTracker

end Tracker

/-! ## The score -/

/-- `PersistenceScore` (`persistence.rs:103`). -/
structure PersistenceScore where
  score : ℚ
  classification : Persistence
  sightings : Nat
  distinctEnvironments : Nat
  reappearances : Nat
  spanHours : ℚ
  reasons : List String
  deriving DecidableEq, Repr

/-- `classify` (`persistence.rs:365`). -/
def classify (score : ℚ) (distinctEnvironments : Nat) : Persistence :=
  if distinctEnvironments ≤ 1 then
    if 2 / 5 ≤ score then .unusuallyPersistent
    else if 1 / 5 ≤ score then .persistent
    else .incidental
  else if 4 / 5 ≤ score then .highConfidenceFollowing
  else if 3 / 5 ≤ score then .possibleFollowing
  else if 2 / 5 ≤ score then .unusuallyPersistent
  else if 1 / 5 ≤ score then .persistent
  else .incidental

/-- `{:.1}` of a number that is not negative: the nearest tenth, the even one of two. -/
def tenths (q : ℚ) : String :=
  let down := ⌊10 * q⌋.toNat
  let left := 10 * q - down
  let n := if left < 1 / 2 ∨ left = 1 / 2 ∧ down % 2 = 0 then down else down + 1
  s!"{n / 10}.{n % 10}"

/-- How much of a whole something is, at most one. -/
def fraction (x whole : ℚ) : ℚ := max 0 (min 1 (x / whole))

/-- `rssi_summary` (`persistence.rs:389`). -/
def rssiSummary {ε : Type} (sightings : List (Sighting ε)) : Option String :=
  let values := sightings.filterMap (·.rssiDbm)
  if values.length < 3 then none
  else
    values.min?.bind fun least => values.max?.map fun most =>
      s!"signal averaged {values.sum.tdiv values.length} dBm, ranging {least} to {most}"

/-- How many sightings come longer than `gap` after the one before. -/
def reappearancesIn {ε : Type} (gap : Int) (sightings : List (Sighting ε)) : Nat :=
  (sightings.zip sightings.tail).countP fun pair => gap < pair.2.at' - pair.1.at'

/-- The rest of `PersistenceTracker::score` (`persistence.rs:270`), for a device that was seen often
enough. The environments are sorted and without repetition, so each is there once. -/
def scoreOf (config : PersistenceConfig) (seen : List (Sighting Nat)) (first last : Int) :
    PersistenceScore :=
  let sightings := seen.length
  let spanHours : ℚ := max ((last - first).tdiv 1000000000) 0 / 3600
  let distinctEnvironments := (seen.map (·.environment)).dedup.length
  let reappearances := reappearancesIn config.reappearanceGap seen
  let temporal := fraction spanHours config.temporalSaturationHours
  let recurrence := fraction reappearances 5
  let movement :=
    if 1 < config.environmentSaturation then
      fraction (distinctEnvironments - 1 : Nat) (config.environmentSaturation.toNat - 1 : Nat)
    else 0
  let density := fraction sightings config.densitySaturation.toNat
  let score := fraction (2 / 5 * movement + 1 / 4 * temporal + 1 / 4 * recurrence +
    1 / 10 * density) 1
  { score, sightings, distinctEnvironments, reappearances, spanHours
    classification := classify score distinctEnvironments
    reasons :=
      [s!"seen {sightings} times over {tenths spanHours} hours",
        if 1 < distinctEnvironments then
          s!"present in {distinctEnvironments} distinct surroundings as you moved"
        else "only ever seen in one set of surroundings"] ++
      (if 0 < reappearances then [s!"left and returned {reappearances} times"] else []) ++
      (rssiSummary seen).toList ++
      (if distinctEnvironments ≤ 1 ∧ 3 / 5 ≤ score then
        ["not treated as following: a device seen in only one place is most likely a fixture"]
      else []) }

/-- `PersistenceTracker::score` (`persistence.rs:264`). -/
def PersistenceTracker.score (t : PersistenceTracker Nat) (key : String) :
    Option PersistenceScore :=
  (t.history key).bind fun h =>
    if h.sightings.length < t.config.minSightings.toNat then none
    else
      h.sightings.head?.bind fun first => h.sightings.getLast?.map fun last =>
        scoreOf t.config h.sightings first.at' last.at'

/-! ## Runs -/

/-- What the trackers are told: the access points of a scan, a device, or that old sightings are to
be forgotten. -/
inductive WatchEvent
  | scan (visible : List MacAddr)
  | sighting (key : String) (at' : Int) (rssiDbm : Option Int) (first : String)
  | prune (cutoff : Int)
  deriving DecidableEq, Repr

/-- The two trackers. -/
structure Watch where
  environments : EnvironmentTracker
  devices : PersistenceTracker Nat

namespace Watch

/-- One event. A sighting is recorded with the index there is then. -/
def step (w : Watch) : WatchEvent → Watch
  | .scan visible => { w with environments := (w.environments.observe visible).1 }
  | .sighting key at' rssiDbm first =>
    { w with devices := w.devices.record first key ⟨at', w.environments.index, rssiDbm⟩ }
  | .prune cutoff => { w with devices := w.devices.prune cutoff }

/-- A run from two new trackers. -/
def run (config : PersistenceConfig) (events : List WatchEvent) : Watch :=
  events.foldl step ⟨{}, ⟨config, []⟩⟩

end Watch

/-- The trackers of a run with no counter: a sighting has all scans there were until then. -/
structure Journal where
  scans : List (List MacAddr)
  devices : PersistenceTracker (List (List MacAddr))

namespace Journal

/-- One event. -/
def step (j : Journal) : WatchEvent → Journal
  | .scan visible => { j with scans := j.scans ++ [visible] }
  | .sighting key at' rssiDbm first =>
    { j with devices := j.devices.record first key ⟨at', j.scans, rssiDbm⟩ }
  | .prune cutoff => { j with devices := j.devices.prune cutoff }

/-- A run from nothing. -/
def run (config : PersistenceConfig) (events : List WatchEvent) : Journal :=
  events.foldl step ⟨[], ⟨config, []⟩⟩

end Journal

/-- Whether less than half of the smaller of two sets of access points is in both. -/
def Away (before after : List MacAddr) : Prop :=
  2 * (after.filter (· ∈ before)).length < min before.length after.length

instance (before after : List MacAddr) : Decidable (Away before after) :=
  inferInstanceAs (Decidable (_ < _))

/-- How many of them are away from the one before. -/
def changes : List (List MacAddr) → Nat
  | before :: after :: scans => (if Away before after then 1 else 0) + changes (after :: scans)
  | _ => 0

/-- How often the owner moved, as far as scans with three access points or more show. -/
def moves (scans : List (List MacAddr)) : Nat := changes (scans.filter (3 ≤ ·.length))

/-! ## The counter -/

/-- The tracker after some scans. -/
def EnvironmentTracker.after (t : EnvironmentTracker) (scans : List (List MacAddr)) :
    EnvironmentTracker :=
  scans.foldl (fun t visible => (t.observe visible).1) t

/-- A similarity below one half is an overlap of less than half. -/
theorem similarity_lt_iff {before after : List MacAddr} (hbefore : before ≠ [])
    (hafter : 3 ≤ after.length) :
    ((after.filter (· ∈ before)).length : ℚ) / (min before.length after.length : Nat) < 1 / 2 ↔
      Away before after := by
  have hpos : 0 < min before.length after.length :=
    lt_min (List.length_pos_iff.mpr hbefore) (by omega)
  have hpos' : (0 : ℚ) < (min before.length after.length : Nat) := by exact_mod_cast hpos
  rw [Away, div_lt_iff₀ hpos']
  constructor
  · intro h
    have : (2 * (after.filter (· ∈ before)).length : ℚ) < (min before.length after.length : Nat) := by
      linarith
    exact_mod_cast this
  · intro h
    have : (2 * (after.filter (· ∈ before)).length : ℚ) < (min before.length after.length : Nat) := by
      exact_mod_cast h
    linarith

theorem observe_thin {here visible : List MacAddr} {n : Nat} (hthin : visible.length < 3) :
    (({ current := here, index := n } : EnvironmentTracker).observe visible).1 =
      { current := here, index := n } := by
  simp [EnvironmentTracker.observe, hthin]

theorem observe_first {visible : List MacAddr} {n : Nat} (hdense : 3 ≤ visible.length) :
    (({ index := n } : EnvironmentTracker).observe visible).1 =
      { current := visible, index := n } := by
  simp [EnvironmentTracker.observe, Nat.not_lt.mpr hdense]

theorem observe_next {here visible : List MacAddr} {n : Nat} (hhere : here ≠ [])
    (hdense : 3 ≤ visible.length) :
    (({ current := here, index := n } : EnvironmentTracker).observe visible).1 =
      { current := visible, index := if Away here visible then min (n + 1) u32Max else n } := by
  have hsimilar := similarity_lt_iff hhere hdense
  simp only [EnvironmentTracker.observe, Nat.not_lt.mpr hdense, if_false, List.isEmpty_iff, hhere,
    hsimilar]
  split <;> rfl

/-- From a place on, the counter counts the changes until it is full. -/
theorem index_after_from {here : List MacAddr} {n : Nat} (hhere : here ≠ []) (hn : n ≤ u32Max)
    (scans : List (List MacAddr)) :
    (({ current := here, index := n } : EnvironmentTracker).after scans).index =
      min (n + changes (here :: scans.filter (3 ≤ ·.length))) u32Max := by
  induction scans generalizing here n with
  | nil => simp [EnvironmentTracker.after, changes, hn]
  | cons visible scans ih =>
    rw [EnvironmentTracker.after, List.foldl_cons]
    by_cases hdense : 3 ≤ visible.length
    · have hvisible : visible ≠ [] := by rintro rfl; simp at hdense
      rw [observe_next hhere hdense, List.filter_cons_of_pos (by simpa using hdense), changes]
      refine (ih hvisible (by split <;> omega)).trans ?_
      split <;> omega
    · rw [observe_thin (by omega), List.filter_cons_of_neg (by simpa using hdense)]
      exact ih hhere hn

/-- The counter is how often the owner moved, as far as it goes. -/
theorem index_after (scans : List (List MacAddr)) :
    (({} : EnvironmentTracker).after scans).index = min (moves scans) u32Max := by
  induction scans with
  | nil => rfl
  | cons visible scans ih =>
    rw [EnvironmentTracker.after, List.foldl_cons, moves]
    by_cases hdense : 3 ≤ visible.length
    · have hvisible : visible ≠ [] := by rintro rfl; simp at hdense
      rw [observe_first hdense, List.filter_cons_of_pos (by simpa using hdense)]
      refine (index_after_from hvisible (Nat.zero_le _) scans).trans ?_
      rw [Nat.zero_add]
    · rw [observe_thin (by omega), List.filter_cons_of_neg (by simpa using hdense)]
      exact ih

theorem changes_le_append (scans more : List (List MacAddr)) :
    changes scans ≤ changes (scans ++ more) := by
  induction scans with
  | nil => exact Nat.zero_le _
  | cons before scans ih =>
    cases scans with
    | nil => exact Nat.zero_le _
    | cons after scans => exact Nat.add_le_add_left ih _

/-- The owner cannot unmove. -/
theorem moves_mono {scans later : List (List MacAddr)} (h : scans <+: later) :
    moves scans ≤ moves later := by
  obtain ⟨more, rfl⟩ := h
  rw [moves, moves, List.filter_append]
  exact changes_le_append _ _

/-! ## A run and its journal -/

section Relabel

variable {ε δ : Type} (f : ε → δ)

/-- A sighting with another word for where it was. -/
def Sighting.relabel (s : Sighting ε) : Sighting δ := ⟨s.at', f s.environment, s.rssiDbm⟩

/-- The same of a history. -/
def DeviceHistory.relabel (h : DeviceHistory ε) : DeviceHistory δ :=
  ⟨h.sightings.map (·.relabel f), h.lastSeen⟩

/-- The same of a tracker. -/
def PersistenceTracker.relabel (t : PersistenceTracker ε) : PersistenceTracker δ :=
  ⟨t.config, t.devices.map fun d => (d.1, d.2.relabel f)⟩

theorem DeviceHistory.relabel_add (cap : UInt32) (s : Sighting ε) (h : DeviceHistory ε) :
    (h.add cap s).relabel f = (h.relabel f).add cap (s.relabel f) := by
  unfold add relabel
  simp only [List.length_append, List.length_map, List.length_cons, List.length_nil]
  congr 1
  split
  · rw [List.map_drop, List.map_append]; rfl
  · rw [List.map_append]; rfl

namespace PersistenceTracker

theorem history_relabel (t : PersistenceTracker ε) (key : String) :
    (t.relabel f).history key = (t.history key).map (·.relabel f) := by
  unfold history relabel
  rw [List.find?_map, Option.map_map, Option.map_map]
  rfl

theorem oldest_relabel (first : String) (devices : List (String × DeviceHistory ε)) :
    oldest first (devices.map fun d => (d.1, d.2.relabel f)) = oldest first devices := by
  have hleast : ∀ l : List (String × DeviceHistory ε),
      ((l.map fun d => (d.1, d.2.relabel f)).filter fun d =>
        (devices.map fun d => (d.1, d.2.relabel f)).all fun e => d.2.lastSeen ≤ e.2.lastSeen).map
          (·.1) =
      (l.filter fun d => devices.all fun e => d.2.lastSeen ≤ e.2.lastSeen).map (·.1) := by
    intro l
    rw [List.filter_map, List.map_map]
    simp only [List.all_map]
    rfl
  simp only [oldest, hleast]

theorem evictOldest_relabel (first : String) (t : PersistenceTracker ε) :
    (t.evictOldest first).relabel f = (t.relabel f).evictOldest first := by
  simp only [evictOldest, relabel, oldest_relabel]
  cases oldest first t.devices with
  | none => rfl
  | some key =>
    simp only [List.filter_map]
    rfl

theorem any_relabel (key : String) (devices : List (String × DeviceHistory ε)) :
    (devices.map fun d => (d.1, d.2.relabel f)).any (·.1 = key) = devices.any (·.1 = key) := by
  rw [List.any_map]
  rfl

theorem makeRoom_relabel (first key : String) (t : PersistenceTracker ε) :
    (t.makeRoom first key).relabel f = (t.relabel f).makeRoom first key := by
  unfold makeRoom
  rw [apply_ite (relabel f), evictOldest_relabel]
  simp only [relabel, any_relabel, List.length_map]

theorem withEntry_relabel (key : String) (new : DeviceHistory ε)
    {change : DeviceHistory ε → DeviceHistory ε} {change' : DeviceHistory δ → DeviceHistory δ}
    (hchange : ∀ h, (change h).relabel f = change' (h.relabel f))
    (devices : List (String × DeviceHistory ε)) :
    (withEntry key new change devices).map (fun d => (d.1, d.2.relabel f)) =
      withEntry key (new.relabel f) change' (devices.map fun d => (d.1, d.2.relabel f)) := by
  unfold withEntry
  rw [any_relabel]
  split
  · rw [List.map_map, List.map_map]
    refine List.map_congr_left fun d _ => ?_
    by_cases hkey : d.1 = key <;> simp [hkey, hchange]
  · rw [List.map_append, List.map_cons, List.map_nil, hchange]

theorem record_relabel (first key : String) (s : Sighting ε) (t : PersistenceTracker ε) :
    (t.record first key s).relabel f = (t.relabel f).record first key (s.relabel f) := by
  have hconfig : ((t.relabel f).makeRoom first key).config = (t.makeRoom first key).config := by
    rw [← makeRoom_relabel]; rfl
  have hentry := withEntry_relabel f key (.new s.at')
    (DeviceHistory.relabel_add f (t.makeRoom first key).config.maxSightingsPerDevice s)
    (t.makeRoom first key).devices
  unfold record
  rw [← makeRoom_relabel]
  exact congrArg (PersistenceTracker.mk _) hentry

theorem prune_relabel (cutoff : Int) (t : PersistenceTracker ε) :
    (t.prune cutoff).relabel f = (t.relabel f).prune cutoff := by
  unfold prune relabel
  refine congrArg (PersistenceTracker.mk _) ?_
  simp only [List.map_map, List.filter_map]
  have hretain : ∀ d : String × DeviceHistory ε,
      (d.2.sightings.map (·.relabel f)).filter (cutoff ≤ ·.at') =
        (d.2.sightings.filter (cutoff ≤ ·.at')).map (·.relabel f) := fun d => List.filter_map
  refine congrArg₂ List.map (funext fun d => ?_) (List.filter_congr fun d _ => ?_)
  · simp only [Function.comp_apply, DeviceHistory.relabel, hretain]
  · simp only [Function.comp_apply, DeviceHistory.relabel, hretain, List.isEmpty_map]

end PersistenceTracker

end Relabel

/-- What the counter says after some scans. -/
def indexAfter (scans : List (List MacAddr)) : Nat := (({} : EnvironmentTracker).after scans).index

/-- The trackers are what the journal says, with the counter in place of the scans. -/
theorem Watch.run_eq (config : PersistenceConfig) (events : List WatchEvent) :
    Watch.run config events =
      ⟨({} : EnvironmentTracker).after (Journal.run config events).scans,
        (Journal.run config events).devices.relabel indexAfter⟩ := by
  induction events using List.reverseRecOn with
  | nil => rfl
  | append_singleton events e ih =>
    have hwatch : Watch.run config (events ++ [e]) = (Watch.run config events).step e := by
      simp [Watch.run]
    have hjournal : Journal.run config (events ++ [e]) = (Journal.run config events).step e := by
      simp [Journal.run]
    rw [hwatch, hjournal, ih]
    cases e with
    | scan visible =>
      simp only [Watch.step, Journal.step, EnvironmentTracker.after, List.foldl_append,
        List.foldl_cons, List.foldl_nil]
    | sighting key at' rssiDbm first =>
      simp only [Watch.step, Journal.step, PersistenceTracker.record_relabel]
      rfl
    | prune cutoff => simp only [Watch.step, Journal.step, PersistenceTracker.prune_relabel]

/-! ## What is kept of a journey -/

/-- The sightings of a device are in order: each has the scans of the one before, and maybe more. -/
structure InOrder (scans : List (List MacAddr)) (h : DeviceHistory (List (List MacAddr))) : Prop where
  pairwise : (h.sightings.map (·.environment)).Pairwise (· <+: ·)
  until_now : ∀ s ∈ h.sightings, s.environment <+: scans

theorem InOrder.new (scans : List (List MacAddr)) (at' : Int) : InOrder scans (.new at') :=
  ⟨.nil, fun _ h => (List.not_mem_nil h).elim⟩

theorem InOrder.later {scans later : List (List MacAddr)} {h : DeviceHistory (List (List MacAddr))}
    (hi : InOrder scans h) (hlater : scans <+: later) : InOrder later h :=
  ⟨hi.pairwise, fun s hs => (hi.until_now s hs).trans hlater⟩

/-- With fewer sightings they are still in order. -/
theorem InOrder.sublist {scans : List (List MacAddr)} {h h' : DeviceHistory (List (List MacAddr))}
    (hi : InOrder scans h) (hsub : h'.sightings.Sublist h.sightings) : InOrder scans h' :=
  ⟨hi.pairwise.sublist (hsub.map _), fun s hs => hi.until_now s (hsub.subset hs)⟩

/-- A new sighting comes last. -/
theorem InOrder.add {scans : List (List MacAddr)} {h : DeviceHistory (List (List MacAddr))}
    (hi : InOrder scans h) (cap : UInt32) (at' : Int) (rssiDbm : Option Int) :
    InOrder scans (h.add cap ⟨at', scans, rssiDbm⟩) := by
  have hlast : InOrder scans { h with sightings := h.sightings ++ [⟨at', scans, rssiDbm⟩] } := by
    constructor
    · rw [List.map_append, List.pairwise_append]
      refine ⟨hi.pairwise, List.pairwise_singleton _ _, fun a ha b hb => ?_⟩
      obtain ⟨s, hs, rfl⟩ := List.mem_map.mp ha
      rw [List.mem_singleton.mp hb]
      exact hi.until_now s hs
    · intro s hs
      rcases List.mem_append.mp hs with hs | hs
      · exact hi.until_now s hs
      · obtain rfl := List.mem_singleton.mp hs
        exact List.prefix_refl _
  refine hlast.sublist ?_
  unfold DeviceHistory.add
  dsimp only
  split
  · exact List.drop_sublist _ _
  · exact List.Sublist.refl _

namespace PersistenceTracker

variable {ε : Type}

theorem mem_of_mem_makeRoom {first key : String} {t : PersistenceTracker ε}
    {d : String × DeviceHistory ε} (hd : d ∈ (t.makeRoom first key).devices) : d ∈ t.devices := by
  unfold makeRoom evictOldest at hd
  split at hd
  · split at hd
    · exact List.mem_of_mem_filter hd
    · exact hd
  · exact hd

/-- What holds of all histories, and of a new one, holds of them after a change that keeps it. -/
theorem forall_withEntry {P : DeviceHistory ε → Prop} {key : String} {new : DeviceHistory ε}
    {change : DeviceHistory ε → DeviceHistory ε} {devices : List (String × DeviceHistory ε)}
    (hnew : P new) (hchange : ∀ h, P h → P (change h)) (h : ∀ d ∈ devices, P d.2) :
    ∀ d ∈ withEntry key new change devices, P d.2 := by
  intro d hd
  unfold withEntry at hd
  split at hd
  · obtain ⟨d', hd', rfl⟩ := List.mem_map.mp hd
    split
    · exact hchange _ (h d' hd')
    · exact h d' hd'
  · rcases List.mem_append.mp hd with hd | hd
    · exact h d hd
    · rw [List.mem_singleton.mp hd]
      exact hchange _ hnew

theorem mem_history {t : PersistenceTracker ε} {key : String} {h : DeviceHistory ε}
    (hh : t.history key = some h) : ∃ d ∈ t.devices, d.2 = h := by
  obtain ⟨d, hd, rfl⟩ := Option.map_eq_some_iff.mp hh
  exact ⟨d, List.mem_of_find?_eq_some hd, rfl⟩

end PersistenceTracker

/-- In every run the sightings of every device are in order. -/
theorem Journal.run_inOrder (config : PersistenceConfig) (events : List WatchEvent) :
    ∀ d ∈ (Journal.run config events).devices.devices,
      InOrder (Journal.run config events).scans d.2 := by
  induction events using List.reverseRecOn with
  | nil => exact fun d hd => (List.not_mem_nil hd).elim
  | append_singleton events e ih =>
    have hstep : Journal.run config (events ++ [e]) = (Journal.run config events).step e := by
      simp [Journal.run]
    rw [hstep]
    cases e with
    | scan visible => exact fun d hd => (ih d hd).later (List.prefix_append _ _)
    | sighting key at' rssiDbm first =>
      refine PersistenceTracker.forall_withEntry (InOrder.new _ _) (fun h hi => hi.add _ _ _) ?_
      exact fun d hd => ih d (PersistenceTracker.mem_of_mem_makeRoom hd)
    | prune cutoff =>
      intro d hd
      obtain ⟨d', hd', rfl⟩ := List.mem_map.mp (List.mem_of_mem_filter hd)
      exact (ih d' hd').sublist List.filter_sublist

/-! ## What is claimed -/

/-- Something of which there is at most one is never called following. -/
theorem classify_le {score : ℚ} {n : Nat} (hn : n ≤ 1) :
    classify score n ≤ .unusuallyPersistent := by
  unfold classify
  rw [if_pos hn]
  split
  · exact le_rfl
  · split <;> exact Persistence.le_def.mpr (by decide)

/-- Numbers that never go down are between the first and the last. -/
theorem between_of_pairwise {l : List Nat} {first last : Nat} (hl : l.Pairwise (· ≤ ·))
    (hfirst : l.head? = some first) (hlast : l.getLast? = some last) :
    ∀ n ∈ l, first ≤ n ∧ n ≤ last := by
  intro n hn
  constructor
  · obtain ⟨l, rfl⟩ := List.head?_eq_some_iff.mp hfirst
    rcases List.mem_cons.mp hn with rfl | hn
    · exact le_rfl
    · exact List.rel_of_pairwise_cons hl hn
  · obtain ⟨l, rfl⟩ := List.getLast?_eq_some_iff.mp hlast
    rcases List.mem_append.mp hn with hn | hn
    · exact (List.pairwise_append.mp hl).2.2 n hn last (List.mem_singleton_self _)
    · exact (List.mem_singleton.mp hn).le

/-- Of numbers that never go down there is only one if the last is the first. -/
theorem dedup_length_le_one_iff {l : List Nat} {first last : Nat} (hl : l.Pairwise (· ≤ ·))
    (hfirst : l.head? = some first) (hlast : l.getLast? = some last) :
    l.dedup.length ≤ 1 ↔ first = last := by
  have hmemFirst : first ∈ l.dedup := List.mem_dedup.mpr (List.mem_of_head? hfirst)
  have hmemLast : last ∈ l.dedup := List.mem_dedup.mpr (List.mem_of_getLast? hlast)
  constructor
  · intro hone
    obtain ⟨n, hn⟩ := List.length_eq_one_iff.mp (le_antisymm hone (List.length_pos_of_mem hmemFirst))
    rw [hn, List.mem_singleton] at hmemFirst hmemLast
    rw [hmemFirst, hmemLast]
  · intro heq
    have hall : ∀ n ∈ l, n = first := fun n hn => by
      have hbetween := between_of_pairwise hl hfirst hlast n hn
      omega
    have hsub : l.dedup ⊆ [first] := fun n hn =>
      List.mem_singleton.mpr (hall n (List.mem_dedup.mp hn))
    exact (List.subperm_of_subset (List.nodup_dedup l) hsub).length_le

/-- A device has a score when enough of its sightings are kept, and one at all. -/
theorem PersistenceTracker.score_eq_some_iff {t : PersistenceTracker Nat} {key : String}
    {s : PersistenceScore} :
    t.score key = some s ↔
      ∃ h first last, t.history key = some h ∧ t.config.minSightings.toNat ≤ h.sightings.length ∧
        h.sightings.head? = some first ∧ h.sightings.getLast? = some last ∧
        scoreOf t.config h.sightings first.at' last.at' = s := by
  unfold score
  rw [Option.bind_eq_some_iff]
  constructor
  · rintro ⟨h, hh, hs⟩
    split at hs
    · cases hs
    · rename_i hmin
      obtain ⟨first, hfirst, hs⟩ := Option.bind_eq_some_iff.mp hs
      obtain ⟨last, hlast, hs⟩ := Option.map_eq_some_iff.mp hs
      exact ⟨h, first, last, hh, Nat.not_lt.mp hmin, hfirst, hlast, hs⟩
  · rintro ⟨h, first, last, hh, hmin, hfirst, hlast, rfl⟩
    exact ⟨h, hh, by rw [if_neg (Nat.not_lt.mpr hmin), hfirst, hlast]; rfl⟩

namespace PersistenceTracker

variable {ε : Type}

@[simp] theorem config_makeRoom (first key : String) (t : PersistenceTracker ε) :
    (t.makeRoom first key).config = t.config := by
  unfold makeRoom evictOldest
  split
  · split <;> rfl
  · rfl

@[simp] theorem config_record (first key : String) (s : Sighting ε) (t : PersistenceTracker ε) :
    (t.record first key s).config = t.config := config_makeRoom first key t

@[simp] theorem config_prune (cutoff : Int) (t : PersistenceTracker ε) :
    (t.prune cutoff).config = t.config := rfl

end PersistenceTracker

theorem Journal.config_run (config : PersistenceConfig) (events : List WatchEvent) :
    (Journal.run config events).devices.config = config := by
  induction events using List.reverseRecOn with
  | nil => rfl
  | append_singleton events e ih =>
    have hstep : Journal.run config (events ++ [e]) = (Journal.run config events).step e := by
      simp [Journal.run]
    rw [hstep]
    cases e <;> simp [Journal.step, ih]

/-- Two full counters say the same, and one that is not full tells apart. -/
theorem indexAfter_eq_iff {scans later : List (List MacAddr)} (h : moves scans ≤ moves later) :
    indexAfter scans = indexAfter later ↔ moves scans = moves later ∨ u32Max ≤ moves scans := by
  rw [indexAfter, indexAfter, index_after, index_after]
  omega

/-- The environments of sightings in order are one if the counter did not move between them. -/
theorem InOrder.distinct_le_one_iff {scans : List (List MacAddr)}
    {h : DeviceHistory (List (List MacAddr))} {first last : Sighting (List (List MacAddr))}
    (hi : InOrder scans h) (hfirst : h.sightings.head? = some first)
    (hlast : h.sightings.getLast? = some last) :
    ((h.relabel indexAfter).sightings.map (·.environment)).dedup.length ≤ 1 ↔
      moves first.environment = moves last.environment ∨ u32Max ≤ moves first.environment := by
  have hmoves : (h.sightings.map fun s => moves s.environment).Pairwise (· ≤ ·) :=
    List.pairwise_map.mpr ((List.pairwise_map.mp hi.pairwise).imp moves_mono)
  have hle : moves first.environment ≤ moves last.environment :=
    (between_of_pairwise hmoves (by rw [List.head?_map, hfirst]; rfl)
      (by rw [List.getLast?_map, hlast]; rfl) _
      (List.mem_map_of_mem (List.mem_of_getLast? hlast))).1
  have hindex : (h.relabel indexAfter).sightings.map (·.environment) =
      h.sightings.map fun s => indexAfter s.environment := by
    rw [DeviceHistory.relabel, List.map_map]
    rfl
  have hsorted : (h.sightings.map fun s => indexAfter s.environment).Pairwise (· ≤ ·) := by
    refine List.pairwise_map.mpr ((List.pairwise_map.mp hmoves).imp fun {a b} hab => ?_)
    rw [indexAfter, indexAfter, index_after, index_after]
    omega
  rw [hindex, dedup_length_le_one_iff hsorted (by rw [List.head?_map, hfirst]; rfl)
    (by rw [List.getLast?_map, hlast]; rfl), indexAfter_eq_iff hle]

/-- The scores of a run, from its journal. -/
theorem Watch.score_run_iff (config : PersistenceConfig) (events : List WatchEvent) (key : String)
    (s : PersistenceScore) :
    (Watch.run config events).devices.score key = some s ↔
      ∃ h first last, (Journal.run config events).devices.history key = some h ∧
        config.minSightings.toNat ≤ h.sightings.length ∧ h.sightings.head? = some first ∧
        h.sightings.getLast? = some last ∧
        scoreOf config (h.relabel indexAfter).sightings first.at' last.at' = s := by
  rw [PersistenceTracker.score_eq_some_iff, congrArg Watch.devices (Watch.run_eq config events)]
  have hconfig : ((Journal.run config events).devices.relabel indexAfter).config = config :=
    Journal.config_run config events
  simp only [PersistenceTracker.history_relabel, Option.map_eq_some_iff, hconfig]
  constructor
  · rintro ⟨_, first, last, ⟨h, hh, rfl⟩, hmin, hfirst, hlast, hs⟩
    rw [DeviceHistory.relabel, List.head?_map] at hfirst
    rw [DeviceHistory.relabel, List.getLast?_map] at hlast
    rw [DeviceHistory.relabel, List.length_map] at hmin
    obtain ⟨first', hfirst', rfl⟩ := Option.map_eq_some_iff.mp hfirst
    obtain ⟨last', hlast', rfl⟩ := Option.map_eq_some_iff.mp hlast
    exact ⟨h, first', last', hh, hmin, hfirst', hlast', hs⟩
  · rintro ⟨h, first, last, hh, hmin, hfirst, hlast, hs⟩
    refine ⟨h.relabel indexAfter, first.relabel indexAfter, last.relabel indexAfter, ⟨h, hh, rfl⟩,
      ?_, ?_, ?_, hs⟩
    · rwa [DeviceHistory.relabel, List.length_map]
    · rw [DeviceHistory.relabel, List.head?_map, hfirst]
      rfl
    · rw [DeviceHistory.relabel, List.getLast?_map, hlast]
      rfl

/-- The scans in which a device was seen: for each of its sightings the last one before it. -/
def seenIn (key : String) : Option (List MacAddr) → List WatchEvent → List (Option (List MacAddr))
  | _, [] => []
  | _, .scan visible :: events => seenIn key (some visible) events
  | now, .sighting k _ _ _ :: events =>
    if k = key then now :: seenIn key now events else seenIn key now events
  | now, .prune _ :: events => seenIn key now events

/-- Every scan in which a device was seen shows the same access points, three or more. -/
def SeenOnlyAt (place : List MacAddr) (key : String) (events : List WatchEvent) : Prop :=
  3 ≤ place.dedup.length ∧
    ∀ scan ∈ seenIn key none events, ∃ visible ∈ scan, visible ⊆ place ∧ place ⊆ visible

instance (place : List MacAddr) (key : String) (events : List WatchEvent) :
    Decidable (SeenOnlyAt place key events) :=
  inferInstanceAs (Decidable (_ ∧ ∀ scan ∈ _, ∃ visible ∈ scan, _))

/-- Nothing is claimed of a device but that it is in one place if and only if too few of its
sightings are still kept, or the owner has not moved between the first and the last of them, or had
moved so often before that the counter stays where it is. -/
theorem following_not_claimed_iff (config : PersistenceConfig) (events : List WatchEvent)
    (key : String) :
    (∀ s, (Watch.run config events).devices.score key = some s →
        s.distinctEnvironments ≤ 1 ∧ s.classification ≤ .unusuallyPersistent) ↔
      ∀ h, (Journal.run config events).devices.history key = some h →
        config.minSightings.toNat ≤ h.sightings.length →
        ∀ first last, h.sightings.head? = some first → h.sightings.getLast? = some last →
          moves first.environment = moves last.environment ∨ u32Max ≤ moves first.environment := by
  have hone : ∀ h, (Journal.run config events).devices.history key = some h →
      InOrder (Journal.run config events).scans h := by
    intro h hh
    obtain ⟨d, hd, rfl⟩ := PersistenceTracker.mem_history hh
    exact Journal.run_inOrder config events d hd
  constructor
  · intro hclaim h hh hmin first last hfirst hlast
    have hscore := (Watch.score_run_iff config events key _).mpr
      ⟨h, first, last, hh, hmin, hfirst, hlast, rfl⟩
    exact ((hone h hh).distinct_le_one_iff hfirst hlast).mp (hclaim _ hscore).1
  · intro hmoves s hs
    obtain ⟨h, first, last, hh, hmin, hfirst, hlast, rfl⟩ :=
      (Watch.score_run_iff config events key s).mp hs
    have hdistinct := ((hone h hh).distinct_le_one_iff hfirst hlast).mpr
      (hmoves h hh hmin first last hfirst hlast)
    exact ⟨hdistinct, classify_le hdistinct⟩

/-- Three access points at home and three at work. -/
def homeAndWork : List MacAddr × List MacAddr :=
  ([⟨#v[0x58, 0, 0, 0, 0, 1]⟩, ⟨#v[0x58, 0, 0, 0, 0, 2]⟩, ⟨#v[0x58, 0, 0, 0, 0, 3]⟩],
    [⟨#v[0x34, 0, 0, 0, 0, 1]⟩, ⟨#v[0x34, 0, 0, 0, 0, 2]⟩, ⟨#v[0x34, 0, 0, 0, 0, 3]⟩])

/-- A doorbell camera at home, which is seen every two hours with work in between. -/
def doorbell (n : Nat) : List WatchEvent :=
  (List.range n).flatMap fun i =>
    [.scan homeAndWork.1, .sighting "doorbell" (i * 2 * 3600 * 1000000000) (some (-50)) "",
      .scan homeAndWork.2]

/-- After four visits home it is said to have been in four places, and with high confidence to
follow. -/
theorem fixture_called_following :
    SeenOnlyAt homeAndWork.1 "doorbell" (doorbell 4) ∧
      ∃ s, (Watch.run {} (doorbell 4)).devices.score "doorbell" = some s ∧
        s.distinctEnvironments = 4 ∧ s.classification = .highConfidenceFollowing := by
  refine ⟨by decide, ?_⟩
  have h : ((Watch.run {} (doorbell 4)).devices.score "doorbell").map
      (fun s => (s.distinctEnvironments, s.classification)) = some (4, .highConfidenceFollowing) := by
    decide +kernel
  obtain ⟨s, hs, heq⟩ := Option.map_eq_some_iff.mp h
  exact ⟨s, hs, congrArg Prod.fst heq, congrArg Prod.snd heq⟩

end Rayhunter
