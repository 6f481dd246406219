import Mathlib.Algebra.Group.Int.Defs
import Mathlib.Data.List.TakeWhile

/-!
# The position nearest to a packet

`load_gps_records` (`daemon/src/gps.rs`) sorts the positions of a recording by the packet they came
after, and `find_nearest_gps` (`daemon/src/pcap.rs`) looks for the one nearest to a packet on both
sides of it. A position that came before any packet has no timestamp, and is sorted to the front as
if it had the least there is. One with that timestamp stands among these, and is overlooked where it
is the nearest and the last of them is one without (`Hidden`); in all else the search is right
(`findNearestGps_nearest_iff`).
-/

namespace Rayhunter

variable {F64 : Type}

/-- `GpsRecord` (`gps.rs:51`). -/
structure GpsRecord (F64 : Type) where
  latestPacketTimestamp : Option Int64
  systemTime : Int64
  lat : F64
  lon : F64

/-- `GpsPoint` (`gsmtap.rs`), as an export notes it. -/
structure GpsPoint (F64 : Type) where
  latitude : F64
  longitude : F64
  unixTs : Int64

namespace GpsRecord

/-- `record_sort_key` (`pcap.rs:107`). -/
def recordSortKey (r : GpsRecord F64) : Int64 := r.latestPacketTimestamp.getD Int64.minValue

/-- How far two times are from each other. -/
def apart (s t : Int64) : Nat := (s.toInt - t.toInt).natAbs

/-- `distance_to` (`pcap.rs:115`), a number of 128 bits. -/
def distanceTo (r : GpsRecord F64) (packetTimestamp : Int64) : Option Nat :=
  r.latestPacketTimestamp.map (apart packetTimestamp)

/-- A record as it is reported (`pcap.rs:147`). -/
def point (r : GpsRecord F64) : GpsPoint F64 where
  latitude := r.lat
  longitude := r.lon
  unixTs := r.latestPacketTimestamp.getD r.systemTime

end GpsRecord

open GpsRecord

/-- Whether a record is not sorted after another. -/
def sortedBefore (a b : GpsRecord F64) : Bool := a.recordSortKey ≤ b.recordSortKey

/-- `load_gps_records` (`gps.rs:62`), of the lines up to the end of the file or to an error; those
that are not records are skipped. The sort is stable. -/
def loadGpsRecords (fromStr : String → Option (GpsRecord F64)) (lines : List String) :
    List (GpsRecord F64) :=
  (lines.filterMap fromStr).mergeSort sortedBefore

/-- `partition_point`, of a list in which what satisfies a predicate stands before what does not. -/
def partitionPoint (p : GpsRecord F64 → Bool) (records : List (GpsRecord F64)) : Nat :=
  (records.takeWhile p).length

/-- The record of the two at a packet that is taken (`pcap.rs:131`). -/
def nearer (packetTimestamp : Int64) (before after : GpsRecord F64) : GpsRecord F64 :=
  match before.distanceTo packetTimestamp, after.distanceTo packetTimestamp with
  | some b, some a => if b ≤ a then before else after
  | some _, none => before
  | none, some _ => after
  | none, none => before

/-- The record `find_nearest_gps` takes (`pcap.rs:121`). -/
def nearestRecord (records : List (GpsRecord F64)) (packetTimestamp : Int64) :
    Option (GpsRecord F64) :=
  if records.isEmpty then none
  else
    let idx := partitionPoint (fun r => r.recordSortKey ≤ packetTimestamp) records
    if idx = 0 then records[0]?
    else if records.length ≤ idx then records[records.length - 1]?
    else
      records[idx - 1]?.bind fun before => records[idx]?.map fun after =>
        nearer packetTimestamp before after

/-- `find_nearest_gps` (`pcap.rs:120`). -/
def findNearestGps (records : List (GpsRecord F64)) (packetTimestamp : Int64) :
    Option (GpsPoint F64) :=
  (nearestRecord records packetTimestamp).map point

/-! ## What is nearest -/

/-- A time is nearer to a packet than another, or as near and not later. -/
def Closer (packet s t : Int64) : Prop :=
  apart packet s < apart packet t ∨ apart packet s = apart packet t ∧ s ≤ t

/-- What is to be found for a packet: nothing where there is nothing; a record with a timestamp,
where there is one, that is nearest, and the earlier of two. -/
structure Nearest (records : List (GpsRecord F64)) (packet : Int64)
    (found : Option (GpsRecord F64)) : Prop where
  none_iff : found = none ↔ records = []
  mem : ∀ r, found = some r → r ∈ records
  closest : ∀ r, found = some r → ∀ r' ∈ records, ∀ t', r'.latestPacketTimestamp = some t' →
    ∃ t, r.latestPacketTimestamp = some t ∧ Closer packet t t'

/-- A record of the least time there is is the nearest, and of the records that are sorted as it is
the last has no timestamp. -/
def Hidden (records : List (GpsRecord F64)) (packet : Int64) : Prop :=
  (∃ r ∈ records, r.latestPacketTimestamp = some Int64.minValue) ∧
    (∀ r ∈ records, ∀ t, r.latestPacketTimestamp = some t → Closer packet Int64.minValue t) ∧
    ∃ r, (records.filter (·.recordSortKey = Int64.minValue)).getLast? = some r ∧
      r.latestPacketTimestamp = none

theorem recordSortKey_of_some {r : GpsRecord F64} {t : Int64}
    (h : r.latestPacketTimestamp = some t) : r.recordSortKey = t := by
  rw [recordSortKey, h, Option.getD_some]

theorem recordSortKey_of_none {r : GpsRecord F64} (h : r.latestPacketTimestamp = none) :
    r.recordSortKey = Int64.minValue := by
  rw [recordSortKey, h, Option.getD_none]

theorem minValue_le (t : Int64) : Int64.minValue ≤ t :=
  Int64.le_iff_toInt_le.2 t.minValue_le_toInt

/-- A record that is sorted after the least time has a timestamp. -/
theorem timestamp_of_lt {r : GpsRecord F64} {t : Int64} (h : t < r.recordSortKey) :
    r.latestPacketTimestamp = some r.recordSortKey := by
  cases hr : r.latestPacketTimestamp with
  | none =>
    rw [recordSortKey_of_none hr] at h
    exact absurd h (Int64.not_lt.2 (minValue_le t))
  | some t' => rw [recordSortKey_of_some hr]

/-! ## Times by how close they are -/

theorem closer_iff {packet s t : Int64} :
    Closer packet s t ↔ (packet.toInt - s.toInt).natAbs < (packet.toInt - t.toInt).natAbs ∨
      (packet.toInt - s.toInt).natAbs = (packet.toInt - t.toInt).natAbs ∧ s.toInt ≤ t.toInt := by
  rw [Closer, apart, apart, Int64.le_iff_toInt_le]

namespace Closer

variable {packet s t u : Int64}

theorem refl (packet s : Int64) : Closer packet s s := .inr ⟨rfl, Int64.le_refl s⟩

theorem trans (h : Closer packet s t) (h' : Closer packet t u) : Closer packet s u := by
  rw [closer_iff] at *
  omega

theorem total (packet s t : Int64) : Closer packet s t ∨ Closer packet t s := by
  rw [closer_iff, closer_iff]
  omega

theorem antisymm (h : Closer packet s t) (h' : Closer packet t s) : s = t := by
  rw [closer_iff] at *
  exact Int64.toInt_inj.1 (by omega)

/-- Of two times before a packet, the later is closer. -/
theorem of_le (hts : t ≤ s) (hs : s ≤ packet) : Closer packet s t := by
  rw [Int64.le_iff_toInt_le] at hts hs
  rw [closer_iff]
  omega

/-- Of two times after it, the earlier is. -/
theorem of_ge (hs : packet < s) (hst : s ≤ t) : Closer packet s t := by
  rw [Int64.le_iff_toInt_le] at hst
  rw [Int64.lt_iff_toInt_lt] at hs
  rw [closer_iff]
  omega

end Closer

/-! ## The search -/

/-- The records on both sides of a packet. -/
theorem nearestRecord_append {before after : List (GpsRecord F64)} {packet : Int64}
    (hbefore : ∀ r ∈ before, r.recordSortKey ≤ packet)
    (hafter : ∀ r ∈ after, packet < r.recordSortKey) :
    nearestRecord (before ++ after) packet =
      match before.getLast?, after.head? with
      | none, b => b
      | some a, none => some a
      | some a, some b => some (nearer packet a b) := by
  have hpoint : partitionPoint (fun r => r.recordSortKey ≤ packet) (before ++ after) =
      before.length := by
    have hall : ∀ r ∈ before, decide (r.recordSortKey ≤ packet) = true :=
      fun r hr => decide_eq_true (hbefore r hr)
    rw [partitionPoint, List.takeWhile_append_of_pos hall]
    cases after with
    | nil => simp
    | cons b after =>
      have hb := Int64.not_le.2 (hafter b (List.mem_cons_self ..))
      rw [List.takeWhile_cons_of_neg (by simpa using hb), List.append_nil]
  unfold nearestRecord
  rw [hpoint]
  rcases List.eq_nil_or_concat before with rfl | ⟨before, a, rfl⟩
  · cases after <;> rfl
  · cases after with
    | nil => simp
    | cons b after => simp

/-- Of two records with timestamps, the closer is taken. -/
theorem nearer_closer (packet : Int64) {s t : Int64} {a b : GpsRecord F64}
    (ha : a.latestPacketTimestamp = some s) (hb : b.latestPacketTimestamp = some t) (hs : s ≤ t) :
    (nearer packet a b = a ∧ Closer packet s t) ∨ (nearer packet a b = b ∧ Closer packet t s) := by
  rw [nearer, distanceTo, distanceTo, ha, hb, Option.map_some, Option.map_some]
  simp only
  split
  · next hle => exact .inl ⟨rfl, (Nat.lt_or_eq_of_le hle).imp_right fun heq => ⟨heq, hs⟩⟩
  · next hlt => exact .inr ⟨rfl, .inl (Nat.lt_of_not_le hlt)⟩

/-- A record with a timestamp that is closer than all others is what is to be found. -/
theorem nearest_of_closest {records : List (GpsRecord F64)} {packet t : Int64} {r : GpsRecord F64}
    (hr : r ∈ records) (ht : r.latestPacketTimestamp = some t)
    (hclosest : ∀ r' ∈ records, ∀ t', r'.latestPacketTimestamp = some t' → Closer packet t t') :
    Nearest records packet (some r) where
  none_iff := iff_of_false (Option.some_ne_none r) fun hnil => by rw [hnil] at hr; cases hr
  mem := by
    rintro _ ⟨⟩
    exact hr
  closest := by
    rintro _ ⟨⟩ r' hr' t' ht'
    exact ⟨t, ht, hclosest r' hr' t' ht'⟩

/-- The records on both sides of a packet, as they are sorted. -/
structure Sides (before after : List (GpsRecord F64)) (packet : Int64) : Prop where
  sorted : (before ++ after).Pairwise fun a b => a.recordSortKey ≤ b.recordSortKey
  before : ∀ r ∈ before, r.recordSortKey ≤ packet
  after : ∀ r ∈ after, packet < r.recordSortKey

namespace Sides

variable {before after : List (GpsRecord F64)} {packet : Int64} {a b : GpsRecord F64}

theorem le_last (h : Sides before after packet) (ha : before.getLast? = some a) :
    ∀ r ∈ before, r.recordSortKey ≤ a.recordSortKey := by
  obtain ⟨init, rfl⟩ := List.getLast?_eq_some_iff.1 ha
  intro r hr
  rcases List.mem_append.1 hr with hr | hr
  · exact (List.pairwise_append.1 (List.pairwise_append.1 h.sorted).1).2.2 r hr a (by simp)
  · rw [List.mem_singleton.1 hr]
    exact Int64.le_refl _

theorem head_le (h : Sides before after packet) (hb : after.head? = some b) :
    ∀ r ∈ after, b.recordSortKey ≤ r.recordSortKey := by
  obtain ⟨rest, rfl⟩ := List.head?_eq_some_iff.1 hb
  intro r hr
  rcases List.mem_cons.1 hr with rfl | hr
  · exact Int64.le_refl _
  · exact (List.pairwise_cons.1 (List.pairwise_append.1 h.sorted).2.1).1 r hr

/-- The record before a packet is the closest of those before it. -/
theorem last_closer (h : Sides before after packet) (ha : before.getLast? = some a)
    {r : GpsRecord F64} (hr : r ∈ before) {t : Int64} (ht : r.latestPacketTimestamp = some t) :
    Closer packet a.recordSortKey t := by
  have hle := h.le_last ha r hr
  rw [recordSortKey_of_some ht] at hle
  exact .of_le hle (h.before a (List.mem_of_getLast? ha))

/-- The record after it is the closest of those after it. -/
theorem head_closer (h : Sides before after packet) (hb : after.head? = some b)
    {r : GpsRecord F64} (hr : r ∈ after) {t : Int64} (ht : r.latestPacketTimestamp = some t) :
    Closer packet b.recordSortKey t := by
  have hle := h.head_le hb r hr
  rw [recordSortKey_of_some ht] at hle
  exact .of_ge (h.after b (List.mem_of_mem_head? hb)) hle

/-- No record after a packet is sorted as the least time. -/
theorem ne_minValue (h : Sides before after packet) {r : GpsRecord F64} (hr : r ∈ after) :
    r.recordSortKey ≠ Int64.minValue := by
  intro hmin
  have hlt := h.after r hr
  rw [hmin] at hlt
  exact absurd hlt (Int64.not_lt.2 (minValue_le packet))

/-- Where the last record before a packet is sorted as the least time, it is the last that is. -/
theorem last_filter (h : Sides before after packet) (ha : before.getLast? = some a)
    (hmin : a.recordSortKey = Int64.minValue) :
    ((before ++ after).filter (·.recordSortKey = Int64.minValue)).getLast? = some a := by
  have hall : before.filter (·.recordSortKey = Int64.minValue) = before :=
    List.filter_eq_self.2 fun r hr => decide_eq_true
      (Int64.le_antisymm (hmin ▸ h.le_last ha r hr) (minValue_le _))
  have hnone : after.filter (·.recordSortKey = Int64.minValue) = [] :=
    List.filter_eq_nil_iff.2 fun r hr hr' => h.ne_minValue hr (of_decide_eq_true hr')
  rw [List.filter_append, hall, hnone, List.append_nil, ha]

/-- A record before a packet that is sorted after the least time is closer than that time. -/
theorem not_hidden (h : Sides before after packet) (ha : before.getLast? = some a) {t : Int64}
    (ht : a.latestPacketTimestamp = some t) : ¬ Hidden (before ++ after) packet := by
  rintro ⟨-, hclosest, r, hlast, hnone⟩
  have hmem : a ∈ before := List.mem_of_getLast? ha
  have hmin := hclosest a (List.mem_append_left _ hmem) t ht
  have hle := h.before a hmem
  rw [recordSortKey_of_some ht] at hle
  obtain rfl := hmin.antisymm (.of_le (minValue_le t) hle)
  rw [h.last_filter ha (recordSortKey_of_some ht)] at hlast
  cases hlast
  rw [ht] at hnone
  cases hnone

/-- The last record before a packet has a timestamp: the search is right. -/
theorem nearest_of_some (h : Sides before after packet) (ha : before.getLast? = some a) {t : Int64}
    (ht : a.latestPacketTimestamp = some t) :
    Nearest (before ++ after) packet (nearestRecord (before ++ after) packet) := by
  have hmem : a ∈ before := List.mem_of_getLast? ha
  have hkey := recordSortKey_of_some ht
  rw [nearestRecord_append h.before h.after, ha]
  cases hb : after.head? with
  | none =>
    rw [List.head?_eq_none_iff.1 hb, List.append_nil]
    exact nearest_of_closest hmem ht fun r hr t' ht' => hkey ▸ h.last_closer ha hr ht'
  | some b =>
    have hbmem : b ∈ after := List.mem_of_mem_head? hb
    have hlt := h.after b hbmem
    have hbt := timestamp_of_lt hlt
    have hts : t ≤ b.recordSortKey :=
      Int64.le_trans (hkey ▸ h.before a hmem) (Int64.le_of_lt hlt)
    rcases nearer_closer packet ht hbt hts with ⟨heq, hcloser⟩ | ⟨heq, hcloser⟩
    · simp only [heq]
      refine nearest_of_closest (List.mem_append_left _ hmem) ht fun r hr t' ht' => ?_
      rcases List.mem_append.1 hr with hr | hr
      · exact hkey ▸ h.last_closer ha hr ht'
      · exact hcloser.trans (h.head_closer hb hr ht')
    · simp only [heq]
      refine nearest_of_closest (List.mem_append_right _ hbmem) hbt fun r hr t' ht' => ?_
      rcases List.mem_append.1 hr with hr | hr
      · exact hcloser.trans (hkey ▸ h.last_closer ha hr ht')
      · exact h.head_closer hb hr ht'

/-- The last record before a packet has no timestamp: the search is right unless one of the least
time is hidden by it. -/
theorem nearest_iff_of_none (h : Sides before after packet) (ha : before.getLast? = some a)
    (hnone : a.latestPacketTimestamp = none) :
    Nearest (before ++ after) packet (nearestRecord (before ++ after) packet) ↔
      ¬ Hidden (before ++ after) packet := by
  have hmem : a ∈ before := List.mem_of_getLast? ha
  have hmin : ∀ r ∈ before, ∀ t, r.latestPacketTimestamp = some t → t = Int64.minValue := by
    intro r hr t ht
    have hle := h.le_last ha r hr
    rw [recordSortKey_of_some ht, recordSortKey_of_none hnone] at hle
    exact Int64.le_antisymm hle (minValue_le t)
  have hlast := h.last_filter ha (recordSortKey_of_none hnone)
  rw [nearestRecord_append h.before h.after, ha]
  cases hb : after.head? with
  | none =>
    rw [List.head?_eq_none_iff.1 hb, List.append_nil] at hlast ⊢
    constructor
    · rintro hnear ⟨⟨r, hr, ht⟩, -⟩
      obtain ⟨t, ht', -⟩ := hnear.closest a rfl r hr _ ht
      rw [hnone] at ht'
      cases ht'
    · intro hhidden
      have hunstamped : ∀ r ∈ before, r.latestPacketTimestamp = none := by
        intro r hr
        by_contra hsome
        obtain ⟨t, ht⟩ := Option.ne_none_iff_exists'.1 hsome
        obtain rfl := hmin r hr t ht
        refine hhidden ⟨⟨r, hr, ht⟩, fun r' hr' t' ht' => ?_, a, hlast, hnone⟩
        rw [hmin r' hr' t' ht']
        exact .refl packet _
      refine ⟨iff_of_false (Option.some_ne_none a) (List.ne_nil_of_mem hmem), ?_, ?_⟩
      · rintro _ ⟨⟩
        exact hmem
      · rintro _ ⟨⟩ r hr t ht
        rw [hunstamped r hr] at ht
        cases ht
  | some b =>
    have hbmem : b ∈ after := List.mem_of_mem_head? hb
    have hbt := timestamp_of_lt (h.after b hbmem)
    have heq : nearer packet a b = b := by
      rw [nearer, distanceTo, distanceTo, hnone, hbt]
      rfl
    simp only [heq]
    constructor
    · rintro hnear ⟨⟨r, hr, ht⟩, hclosest, -⟩
      obtain ⟨t, ht', hcloser⟩ := hnear.closest b rfl r hr _ ht
      cases hbt.symm.trans ht'
      have := hclosest b (List.mem_append_right _ hbmem) _ hbt
      exact h.ne_minValue hbmem (hcloser.antisymm this)
    · intro hhidden
      refine nearest_of_closest (List.mem_append_right _ hbmem) hbt fun r hr t ht => ?_
      rcases List.mem_append.1 hr with hr' | hr'
      · -- Another time is closer than the least, and stands after the packet.
        obtain rfl := hmin r hr' t ht
        by_contra hfar
        refine hhidden ⟨⟨r, hr, ht⟩, fun r' hr' t' ht' => ?_, a, hlast, hnone⟩
        rcases List.mem_append.1 hr' with hr' | hr'
        · rw [hmin r' hr' t' ht']
          exact .refl packet _
        · exact ((Closer.total packet _ _).resolve_left hfar).trans (h.head_closer hb hr' ht')
      · exact h.head_closer hb hr' ht

end Sides

/-- In a sorted list, what is before a packet stands before what is after it. -/
theorem lt_of_mem_dropWhile {records : List (GpsRecord F64)} {packet : Int64}
    (hsorted : records.Pairwise fun a b => a.recordSortKey ≤ b.recordSortKey) {r : GpsRecord F64}
    (hr : r ∈ records.dropWhile (·.recordSortKey ≤ packet)) : packet < r.recordSortKey := by
  induction records with
  | nil => cases hr
  | cons b rest ih =>
    obtain ⟨hle, hrest⟩ := List.pairwise_cons.1 hsorted
    by_cases hb : b.recordSortKey ≤ packet
    · rw [List.dropWhile_cons_of_pos (by simpa using hb)] at hr
      exact ih hrest hr
    · rw [List.dropWhile_cons_of_neg (by simpa using hb)] at hr
      have hlt := Int64.not_le.1 hb
      rcases List.mem_cons.1 hr with rfl | hr
      · exact hlt
      · exact Int64.lt_of_lt_of_le hlt (hle r hr)

/-- In a sorted list the search is right but for what is hidden. -/
theorem nearest_iff_of_sorted {records : List (GpsRecord F64)}
    (hsorted : records.Pairwise fun a b => a.recordSortKey ≤ b.recordSortKey) (packet : Int64) :
    Nearest records packet (nearestRecord records packet) ↔ ¬ Hidden records packet := by
  have hsplit : records.takeWhile (·.recordSortKey ≤ packet) ++
      records.dropWhile (·.recordSortKey ≤ packet) = records := List.takeWhile_append_dropWhile
  have h : Sides (records.takeWhile (·.recordSortKey ≤ packet))
      (records.dropWhile (·.recordSortKey ≤ packet)) packet :=
    ⟨hsplit.symm ▸ hsorted,
      fun r hr => by simpa using List.mem_takeWhile_imp hr,
      fun r => lt_of_mem_dropWhile hsorted⟩
  generalize records.takeWhile (·.recordSortKey ≤ packet) = before at hsplit h
  generalize records.dropWhile (·.recordSortKey ≤ packet) = after at hsplit h
  subst hsplit
  cases ha : before.getLast? with
  | none =>
    obtain rfl := List.getLast?_eq_none_iff.1 ha
    have hnot : ¬ Hidden ([] ++ after) packet := by
      rintro ⟨⟨r, hr, ht⟩, -⟩
      exact h.ne_minValue hr (recordSortKey_of_some ht)
    refine iff_of_true ?_ hnot
    rw [nearestRecord_append h.before h.after, List.getLast?_nil]
    cases hb : after.head? with
    | none =>
      obtain rfl := List.head?_eq_none_iff.1 hb
      refine ⟨iff_of_true rfl rfl, ?_, ?_⟩
      · rintro _ ⟨⟩
      · rintro _ ⟨⟩
    | some b =>
      have hbmem : b ∈ after := List.mem_of_mem_head? hb
      exact nearest_of_closest hbmem (timestamp_of_lt (h.after b hbmem)) fun r hr t ht =>
        h.head_closer hb hr ht
  | some a =>
    cases ht : a.latestPacketTimestamp with
    | none => exact h.nearest_iff_of_none ha ht
    | some t => exact iff_of_true (h.nearest_of_some ha ht) (h.not_hidden ha ht)

/-! ## As they are loaded -/

theorem sortedBefore_trans (a b c : GpsRecord F64) (hab : sortedBefore a b = true)
    (hbc : sortedBefore b c = true) : sortedBefore a c = true :=
  decide_eq_true (Int64.le_trans (of_decide_eq_true hab) (of_decide_eq_true hbc))

theorem sortedBefore_total (a b : GpsRecord F64) :
    (sortedBefore a b || sortedBefore b a) = true := by
  rw [Bool.or_eq_true, sortedBefore, sortedBefore, decide_eq_true_iff, decide_eq_true_iff]
  exact Int64.le_total _ _

theorem loadGpsRecords_sorted (fromStr : String → Option (GpsRecord F64)) (lines : List String) :
    (loadGpsRecords fromStr lines).Pairwise fun a b => a.recordSortKey ≤ b.recordSortKey :=
  (List.pairwise_mergeSort sortedBefore_trans sortedBefore_total _).imp of_decide_eq_true

/-- Sorting keeps the order of the records that are sorted as the least time. -/
theorem filter_loadGpsRecords (fromStr : String → Option (GpsRecord F64)) (lines : List String) :
    (loadGpsRecords fromStr lines).filter (·.recordSortKey = Int64.minValue) =
      (lines.filterMap fromStr).filter (·.recordSortKey = Int64.minValue) := by
  have hequal : ((lines.filterMap fromStr).filter
      (·.recordSortKey = Int64.minValue)).Pairwise (sortedBefore · ·) := by
    refine List.pairwise_of_forall_mem_list fun a ha b _ => decide_eq_true ?_
    rw [of_decide_eq_true (List.mem_filter.1 ha).2]
    exact minValue_le _
  have hsub := (List.sublist_mergeSort sortedBefore_trans sortedBefore_total hequal
    List.filter_sublist).filter (·.recordSortKey = Int64.minValue)
  rw [List.filter_filter] at hsub
  simp only [Bool.and_self] at hsub
  refine (hsub.eq_of_length ?_).symm
  exact ((List.mergeSort_perm _ _).filter _).length_eq.symm

/-- What is nearest does not depend on the order. -/
theorem nearest_congr {records records' : List (GpsRecord F64)} (hperm : records.Perm records')
    (packet : Int64) (found : Option (GpsRecord F64)) :
    Nearest records packet found ↔ Nearest records' packet found := by
  have hnil : records = [] ↔ records' = [] :=
    ⟨fun h => List.perm_nil.1 (h ▸ hperm).symm, fun h => List.perm_nil.1 (h ▸ hperm)⟩
  constructor
  · rintro ⟨hnone, hmem, hclosest⟩
    exact ⟨hnone.trans hnil, fun r hr => hperm.mem_iff.1 (hmem r hr),
      fun r hr r' hr' => hclosest r hr r' (hperm.mem_iff.2 hr')⟩
  · rintro ⟨hnone, hmem, hclosest⟩
    exact ⟨hnone.trans hnil.symm, fun r hr => hperm.mem_iff.2 (hmem r hr),
      fun r hr r' hr' => hclosest r hr r' (hperm.mem_iff.1 hr')⟩

/-- What is hidden is hidden in any order that has the least times in theirs. -/
theorem hidden_congr {records records' : List (GpsRecord F64)} (hperm : records.Perm records')
    (hfilter : records.filter (·.recordSortKey = Int64.minValue) =
      records'.filter (·.recordSortKey = Int64.minValue)) (packet : Int64) :
    Hidden records packet ↔ Hidden records' packet := by
  simp only [Hidden, hperm.mem_iff, hfilter]

/-- The record that is taken of those that are loaded. -/
theorem nearest_loadGpsRecords_iff (fromStr : String → Option (GpsRecord F64)) (lines : List String)
    (packet : Int64) :
    Nearest (lines.filterMap fromStr) packet
      (nearestRecord (loadGpsRecords fromStr lines) packet) ↔
      ¬ Hidden (lines.filterMap fromStr) packet := by
  have hperm : (loadGpsRecords fromStr lines).Perm (lines.filterMap fromStr) :=
    List.mergeSort_perm _ _
  rw [← nearest_congr hperm, ← hidden_congr hperm (filter_loadGpsRecords fromStr lines)]
  exact nearest_iff_of_sorted (loadGpsRecords_sorted fromStr lines) packet

/-- **The search finds what is nearest** exactly where no record is hidden. It reports the timestamp
of what it finds, or its system time where it has none; and no difference of times needs more than
128 bits. -/
theorem findNearestGps_nearest_iff (fromStr : String → Option (GpsRecord F64)) (lines : List String)
    (packet : Int64) :
    (Nearest (lines.filterMap fromStr) packet
        (nearestRecord (loadGpsRecords fromStr lines) packet) ∧
      findNearestGps (loadGpsRecords fromStr lines) packet =
        (nearestRecord (loadGpsRecords fromStr lines) packet).map (fun r =>
          ⟨r.lat, r.lon, match r.latestPacketTimestamp with
            | some t => t
            | none => r.systemTime⟩) ∧
      ∀ t : Int64, -2 ^ 127 < packet.toInt - t.toInt ∧ packet.toInt - t.toInt < 2 ^ 127) ↔
      ¬ Hidden (lines.filterMap fromStr) packet := by
  rw [← nearest_loadGpsRecords_iff]
  refine and_iff_left ⟨?_, fun t => ?_⟩
  · refine congrArg (Option.map · _) (funext fun r => ?_)
    rw [point]
    cases r.latestPacketTimestamp <;> rfl
  · have := packet.le_toInt
    have := packet.toInt_lt
    have := t.le_toInt
    have := t.toInt_lt
    omega

/-- The line of a position after the packet of the least time. -/
def leastLine : String :=
  "\x7b\"latest_packet_timestamp\":-9223372036854775808,\"system_time\":1700000000,\"lat\":52,\"lon\":13\x7d"

/-- The line of one that came before any packet. -/
def noPacketLine : String :=
  "\x7b\"latest_packet_timestamp\":null,\"system_time\":1700000001,\"lat\":53,\"lon\":13\x7d"

/-- What these lines are read as. -/
def readLine (line : String) : Option (GpsRecord Nat) :=
  if line = leastLine then some ⟨some Int64.minValue, 1700000000, 52, 13⟩
  else if line = noPacketLine then some ⟨none, 1700000001, 53, 13⟩
  else none

/-- Of these two, the one with a timestamp is overlooked. -/
theorem findNearestGps_overlooks :
    ¬ ∀ (fromStr : String → Option (GpsRecord Nat)) (lines : List String) (packet : Int64),
      Nearest (lines.filterMap fromStr) packet
        (nearestRecord (loadGpsRecords fromStr lines) packet) := by
  intro h
  refine (nearest_loadGpsRecords_iff readLine [leastLine, noPacketLine] 1700000000).1 (h _ _ _) ?_
  have hlines : [leastLine, noPacketLine].filterMap readLine =
      [⟨some Int64.minValue, 1700000000, 52, 13⟩, ⟨none, 1700000001, 53, 13⟩] := by
    have hne : noPacketLine ≠ leastLine := by decide
    simp [readLine, hne]
  rw [hlines]
  refine ⟨⟨_, List.mem_cons_self .., rfl⟩, fun r hr t ht => ?_, _, rfl, rfl⟩
  rw [List.mem_cons, List.mem_singleton] at hr
  rcases hr with rfl | rfl
  · cases ht
    exact .refl _ _
  · cases ht

end Rayhunter
