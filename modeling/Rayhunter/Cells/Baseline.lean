import Rayhunter.Cells.Tracker
import Rayhunter.Lib.Mealy

/-!
# What a cell's baseline rests on

`TimingAdvanceTracker` of `daemon/src/timing_advance.rs`. From the first timing advance other than
zero on, what is kept of a cell is what its own values make of it, as long as there is room for all
the cells (`Kept`): a cell is told to have moved from a value it had, and other cells have no part in
that. Its baseline is its second value, which has to agree with no other one; where it does, the
baseline rests on two (`sound_iff`).
-/

namespace Rayhunter

namespace TimingAdvanceTracker

open Mealy

variable (metres : UInt16 → Int)

/-- A timing advance of a cell is seen. -/
def see (t : TimingAdvanceTracker) (o : CellKey × UInt16) :
    TimingAdvanceStatus × TimingAdvanceTracker :=
  let t' := t.observe metres o.1 o.2
  (t'.status, t')

/-- What is seen from the first timing advance other than zero on. -/
def counted (seen : List (CellKey × UInt16)) : List (CellKey × UInt16) := seen.dropWhile (·.2 = 0)

/-- The values of a cell. -/
def valuesOf (cell : CellKey) (seen : List (CellKey × UInt16)) : List UInt16 :=
  (seen.filter (·.1 = cell)).map (·.2)

/-- The samples of a cell after one more value. -/
def judge (samples : CellSamples) (ta : UInt16) : CellSamples × TimingAdvanceStatus :=
  { samples with seen := samples.seen + 1 }.observe metres ta

/-- The samples of a cell with these values. -/
def samplesOf (values : List UInt16) : CellSamples :=
  values.foldl (fun samples ta => (judge metres samples ta).1) {}

/-- The samples that are kept of a cell. -/
def samples (t : TimingAdvanceTracker) (cell : CellKey) : CellSamples :=
  (t.cells.lookup cell).getD {}

/-- Two values that are no jump apart. -/
def Near (m n : UInt16) : Prop :=
  max m.toNat n.toNat - min m.toNat n.toNat < JUMP_THRESHOLD_STEPS

instance (m n : UInt16) : Decidable (Near m n) :=
  inferInstanceAs (Decidable (max m.toNat n.toNat - min m.toNat n.toNat < JUMP_THRESHOLD_STEPS))

/-- There is room for all the cells whose values count. -/
def Held (seen : List (CellKey × UInt16)) : Prop :=
  ((counted seen).map (·.1)).toFinset.card ≤ MAX_CELLS

instance (seen : List (CellKey × UInt16)) : Decidable (Held seen) :=
  inferInstanceAs (Decidable (((counted seen).map (·.1)).toFinset.card ≤ MAX_CELLS))

variable {metres} {t : TimingAdvanceTracker} {seen : List (CellKey × UInt16)}
  {o : CellKey × UInt16}

/-! ## What one more value does -/

theorem counted_concat (seen : List (CellKey × UInt16)) (o : CellKey × UInt16) :
    counted (seen ++ [o]) =
      if counted seen = [] ∧ o.2 = 0 then [] else counted seen ++ [o] := by
  rw [counted, List.dropWhile_append, ← counted]
  by_cases hseen : counted seen = []
  · by_cases hzero : o.2 = 0
    · simp [hseen, hzero]
    · simp [hseen, hzero]
  · simp [hseen]

theorem valuesOf_concat (cell : CellKey) (seen : List (CellKey × UInt16)) :
    valuesOf cell (seen ++ [o]) =
      if o.1 = cell then valuesOf cell seen ++ [o.2] else valuesOf cell seen := by
  rw [valuesOf, List.filter_append, List.map_append, List.filter_singleton]
  by_cases hcell : o.1 = cell
  · simp [hcell, valuesOf]
  · simp [hcell, valuesOf]

theorem samplesOf_concat (values : List UInt16) (ta : UInt16) :
    samplesOf metres (values ++ [ta]) = (judge metres (samplesOf metres values) ta).1 :=
  List.foldl_concat ..

/-- What is kept after something was seen is what the values that count make of each cell. -/
structure Kept (metres : UInt16 → Int) (t : TimingAdvanceTracker)
    (seen : List (CellKey × UInt16)) : Prop where
  awake : t.anyNonZero = true ↔ counted seen ≠ []
  samples : ∀ cell, t.samples cell = samplesOf metres (valuesOf cell (counted seen))
  only : ∀ cell ∈ t.cells, cell ∈ (counted seen).map (·.1)

/-- Nothing is said of a value before the first one other than zero. -/
theorem observe_quiet (h : t.anyNonZero = false) (hzero : o.2 = 0) :
    t.observe metres o.1 o.2 = { t with status := .unsupported } := by
  obtain ⟨cells, anyNonZero, status⟩ := t
  obtain rfl : anyNonZero = false := h
  rw [observe, hzero]
  rfl

/-- Where there is room, a value is judged by what is kept of its cell. -/
theorem observe_counted (h : t.anyNonZero = true ∨ o.2 ≠ 0)
    (hroom : ¬(MAX_CELLS ≤ t.cells.entries.length ∧ o.1 ∉ t.cells)) :
    t.observe metres o.1 o.2 =
      { cells := t.cells.insert o.1 (judge metres (t.samples o.1) o.2).1
        anyNonZero := true
        status := (judge metres (t.samples o.1) o.2).2 } := by
  have hawake : (t.anyNonZero || o.2 != 0) = true := by
    rcases h with h | h
    · rw [h, Bool.true_or]
    · rw [bne_iff_ne.2 h, Bool.or_true]
  simp only [observe, hawake, Bool.not_true, Bool.false_eq_true, if_false, if_neg hroom]
  rfl

theorem Kept.room (h : Kept metres t seen) (hheld : Held (seen ++ [o]))
    (hcounts : counted (seen ++ [o]) = counted seen ++ [o]) :
    ¬(MAX_CELLS ≤ t.cells.entries.length ∧ o.1 ∉ t.cells) := by
  rintro ⟨hfull, hnot⟩
  rw [Held, hcounts, List.map_append, List.map_singleton] at hheld
  have hlt := Keyed.length_entries_lt (s := ((counted seen).map (·.1) ++ [o.1]).toFinset)
    (fun cell hcell => List.mem_toFinset.2 (List.mem_append_left _ (h.only cell hcell)))
    (List.mem_toFinset.2 List.mem_concat_self) hnot
  omega

/-- A value that does not count is answered with nothing, one that does by what its cell's own values
make of it. -/
theorem Kept.observe (h : Kept metres t seen) (hheld : Held (seen ++ [o])) :
    (counted (seen ++ [o]) = [] ∧
        t.observe metres o.1 o.2 = { t with status := .unsupported } ∨
      counted (seen ++ [o]) = counted seen ++ [o] ∧
        t.observe metres o.1 o.2 =
          { cells := t.cells.insert o.1
              (judge metres (samplesOf metres (valuesOf o.1 (counted seen))) o.2).1
            anyNonZero := true
            status := (judge metres (samplesOf metres (valuesOf o.1 (counted seen))) o.2).2 }) := by
  by_cases hquiet : counted seen = [] ∧ o.2 = 0
  · refine .inl ⟨by rw [counted_concat, if_pos hquiet], observe_quiet ?_ hquiet.2⟩
    exact eq_false_of_ne_true fun hawake => h.awake.1 hawake hquiet.1
  · have hcounts : counted (seen ++ [o]) = counted seen ++ [o] := by
      rw [counted_concat, if_neg hquiet]
    have hawake : t.anyNonZero = true ∨ o.2 ≠ 0 := by
      rw [h.awake]
      by_cases hseen : counted seen = []
      · exact .inr fun hzero => hquiet ⟨hseen, hzero⟩
      · exact .inl hseen
    refine .inr ⟨hcounts, ?_⟩
    rw [observe_counted hawake (h.room hheld hcounts), h.samples]

/-- **One more value keeps that.** -/
theorem Kept.step (h : Kept metres t seen) (hheld : Held (seen ++ [o])) :
    Kept metres (t.observe metres o.1 o.2) (seen ++ [o]) := by
  rcases h.observe hheld with ⟨hnone, hobserve⟩ | ⟨hcounts, hobserve⟩
  · have hseen : counted seen = [] := by
      rw [counted_concat] at hnone
      split at hnone
      next hquiet => exact hquiet.1
      next => cases List.append_ne_nil_of_right_ne_nil _ (List.cons_ne_nil o []) hnone
    have hsame : counted (seen ++ [o]) = counted seen := hnone.trans hseen.symm
    rw [hobserve]
    exact ⟨hsame ▸ h.awake, hsame ▸ h.samples, hsame ▸ h.only⟩
  · rw [hobserve]
    refine ⟨?_, fun cell => ?_, fun cell hcell => ?_⟩
    · rw [hcounts]
      exact iff_of_true rfl (List.append_ne_nil_of_right_ne_nil _ (List.cons_ne_nil o []))
    · rw [hcounts, valuesOf_concat, TimingAdvanceTracker.samples]
      split
      next hcell =>
        rw [hcell, AList.lookup_insert, samplesOf_concat]
        rfl
      next hcell =>
        rw [AList.lookup_insert_ne (Ne.symm hcell)]
        exact h.samples cell
    · rw [hcounts, List.map_append, List.mem_append]
      rcases (AList.mem_insert _).1 hcell with rfl | hcell
      · exact .inr (List.mem_singleton.2 rfl)
      · exact .inl (h.only cell hcell)

theorem Held.of_append {later : List (CellKey × UInt16)} (h : Held (seen ++ later)) : Held seen := by
  unfold Held at h ⊢
  refine (Finset.card_le_card fun cell hcell => ?_).trans h
  rw [List.mem_toFinset, List.mem_map] at hcell ⊢
  obtain ⟨p, hp, hcell⟩ := hcell
  refine ⟨p, ?_, hcell⟩
  rw [counted, List.dropWhile_append, ← counted, if_neg (by
    rw [List.isEmpty_iff]
    exact List.ne_nil_of_mem hp)]
  exact List.mem_append_left _ hp

variable (metres) in
/-- **It is so in every run.** -/
theorem after_kept (hheld : Held seen) : Kept metres (after (see metres) {} seen) seen := by
  induction seen using List.reverseRecOn with
  | nil =>
    exact ⟨iff_of_false Bool.false_ne_true (not_not.2 rfl), fun cell => rfl,
      fun cell hcell => absurd hcell (AList.notMem_empty cell)⟩
  | append_singleton seen o ih =>
    rw [after_append]
    exact (ih hheld.of_append).step hheld

/-! ## The baseline of a cell -/

variable (metres) in
/-- What one more value makes of a cell's samples. -/
theorem judge_cases (samples : CellSamples) (ta : UInt16) :
    (samples.baseline = none ∧ samples.seen = 0 ∧
        judge metres samples ta = (⟨none, 1⟩, .learning)) ∨
      (samples.baseline = none ∧ 0 < samples.seen ∧
        judge metres samples ta = (⟨some ta, samples.seen + 1⟩, .consistent)) ∨
      ∃ b, samples.baseline = some b ∧
        (Near ta b ∧ judge metres samples ta = (⟨some b, samples.seen + 1⟩, .consistent) ∨
          ¬Near ta b ∧ judge metres samples ta =
            (⟨some ta, samples.seen + 1⟩, .moved b ta (metres ta - metres b))) := by
  obtain ⟨baseline, seen⟩ := samples
  cases baseline with
  | none =>
    rcases Nat.eq_zero_or_pos seen with rfl | hpos
    · exact .inl ⟨rfl, rfl, rfl⟩
    · have henough : SAMPLES_FOR_BASELINE ≤ seen + 1 := Nat.succ_le_succ hpos
      refine .inr (.inl ⟨rfl, hpos, ?_⟩)
      simp only [judge, CellSamples.observe, if_pos henough]
  | some b =>
    refine .inr (.inr ⟨b, rfl, ?_⟩)
    by_cases hnear : Near ta b
    · refine .inl ⟨hnear, ?_⟩
      simp only [judge, CellSamples.observe, if_neg (Nat.not_le.2 hnear)]
    · refine .inr ⟨hnear, ?_⟩
      simp only [judge, CellSamples.observe, if_pos (Nat.not_lt.1 hnear)]

variable (metres) in
/-- A cell has a baseline from its second value on, and that is one of its values. -/
theorem samplesOf_cases (values : List UInt16) :
    (samplesOf metres values).seen = values.length ∧
      (values.length ≤ 1 ∧ (samplesOf metres values).baseline = none ∨
        2 ≤ values.length ∧ ∃ b ∈ values, (samplesOf metres values).baseline = some b) := by
  induction values using List.reverseRecOn with
  | nil => exact ⟨rfl, .inl ⟨Nat.zero_le 1, rfl⟩⟩
  | append_singleton values ta ih =>
    obtain ⟨hseen, hbaseline⟩ := ih
    rw [samplesOf_concat, List.length_append, List.length_singleton]
    rcases judge_cases metres (samplesOf metres values) ta with
      ⟨hnone, hzero, hjudge⟩ | ⟨hnone, hpos, hjudge⟩ | ⟨b, hsome, ⟨-, hjudge⟩ | ⟨-, hjudge⟩⟩ <;>
      rw [hjudge]
    · rw [hzero] at hseen
      exact ⟨congrArg (· + 1) hseen, .inl ⟨by omega, rfl⟩⟩
    · exact ⟨by rw [hseen], .inr ⟨by omega, ta, List.mem_concat_self, rfl⟩⟩
    · rcases hbaseline with ⟨-, hnone⟩ | ⟨hmany, b', hmem, hb'⟩
      · cases hsome.symm.trans hnone
      · obtain rfl : b' = b := Option.some.inj (hb'.symm.trans hsome)
        exact ⟨by rw [hseen], .inr ⟨by omega, b', List.mem_append_left _ hmem, rfl⟩⟩
    · rcases hbaseline with ⟨-, hnone⟩ | ⟨hmany, -⟩
      · cases hsome.symm.trans hnone
      · exact ⟨by rw [hseen], .inr ⟨by omega, ta, List.mem_concat_self, rfl⟩⟩

theorem mem_of_mem_valuesOf {cell : CellKey} {ta : UInt16} (h : ta ∈ valuesOf cell (counted seen)) :
    (cell, ta) ∈ seen := by
  obtain ⟨p, hp, rfl⟩ := List.mem_map.1 h
  obtain ⟨hmem, hcell⟩ := List.mem_filter.1 hp
  obtain rfl : p.1 = cell := of_decide_eq_true hcell
  exact (List.dropWhile_sublist _).subset hmem

/-! ## Runs -/

/-- The baseline of a cell. -/
def baselineOf (t : TimingAdvanceTracker) (cell : CellKey) : Option UInt16 :=
  (t.samples cell).baseline

/-- What a tracker may say and take for a baseline: in the whole of a run,

* the first baseline of a cell is no jump from two of the values of that cell so far,
* a cell is told to have moved from one of its earlier values, which is a jump away,
* once there was a value other than zero, what is said of a cell is the same in every run in which
  that cell has had the same values. -/
structure Sound (metres : UInt16 → Int) (seen : List (CellKey × UInt16)) : Prop where
  agreed : ∀ before o later, seen = before ++ o :: later → ∀ b,
    (after (see metres) {} before).baselineOf o.1 = none →
    (after (see metres) {} (before ++ [o])).baselineOf o.1 = some b →
      2 ≤ (before ++ [o]).countP fun p => p.1 = o.1 ∧ Near p.2 b
  moved : ∀ before o later, seen = before ++ o :: later → ∀ baseline observed distance,
    (after (see metres) {} (before ++ [o])).status = .moved baseline observed distance →
      observed = o.2 ∧ (o.1, baseline) ∈ before ∧ ¬Near observed baseline
  alone : ∀ before o later, seen = before ++ o :: later → counted (before ++ [o]) ≠ [] →
    ∀ other, Held (other ++ [o]) → counted (other ++ [o]) ≠ [] →
      valuesOf o.1 (counted other) = valuesOf o.1 (counted before) →
        (after (see metres) {} (other ++ [o])).status =
          (after (see metres) {} (before ++ [o])).status

/-- The second value of every cell that counts is no jump from one before it. -/
def Agrees (seen : List (CellKey × UInt16)) : Prop :=
  ∀ before o later, seen = before ++ o :: later → (valuesOf o.1 (counted before)).length = 1 →
    ∃ p ∈ before, p.1 = o.1 ∧ Near p.2 o.2

/-- The status after a value that counts. -/
theorem status_after {before : List (CellKey × UInt16)} (hheld : Held (before ++ [o])) :
    (after (see metres) {} (before ++ [o])).status =
      if counted (before ++ [o]) = [] then .unsupported
      else (judge metres (samplesOf metres (valuesOf o.1 (counted before))) o.2).2 := by
  have hkept := after_kept metres hheld.of_append
  rw [after_append, after_cons, after_nil]
  rcases hkept.observe hheld with ⟨hnone, hobserve⟩ | ⟨hcounts, hobserve⟩
  · rw [if_pos hnone, see, hobserve]
  · have hsome : counted (before ++ [o]) ≠ [] := by
      rw [hcounts]
      exact List.append_ne_nil_of_right_ne_nil _ (List.cons_ne_nil o [])
    rw [if_neg hsome, see, hobserve]

theorem baselineOf_after (hheld : Held seen) (cell : CellKey) :
    (after (see metres) {} seen).baselineOf cell =
      (samplesOf metres (valuesOf cell (counted seen))).baseline := by
  rw [baselineOf, (after_kept metres hheld).samples]

variable (metres) in
/-- The first baseline of a cell is its second value. -/
theorem first_baseline_iff {before : List (CellKey × UInt16)} (hheld : Held (before ++ [o]))
    {b : UInt16} :
    (after (see metres) {} before).baselineOf o.1 = none ∧
        (after (see metres) {} (before ++ [o])).baselineOf o.1 = some b ↔
      (valuesOf o.1 (counted before)).length = 1 ∧ o.2 = b := by
  rw [baselineOf_after hheld.of_append, baselineOf_after hheld, counted_concat]
  obtain ⟨hseen, hbaseline⟩ := samplesOf_cases metres (valuesOf o.1 (counted before))
  split
  next hquiet =>
    rw [hquiet.1]
    exact iff_of_false (fun h => Option.some_ne_none b h.2.symm) (fun h => Nat.zero_ne_one h.1)
  next =>
    rw [valuesOf_concat, if_pos rfl, samplesOf_concat]
    rcases judge_cases metres (samplesOf metres (valuesOf o.1 (counted before))) o.2 with
      ⟨hnone, hzero, hjudge⟩ | ⟨hnone, hpos, hjudge⟩ | ⟨b', hsome, -⟩
    · rw [hjudge]
      refine iff_of_false (fun h => Option.some_ne_none b h.2.symm) (fun h => ?_)
      omega
    · rw [hjudge, hnone]
      rcases hbaseline with ⟨hfew, -⟩ | ⟨-, b', -, hsome⟩
      · have hone : (valuesOf o.1 (counted before)).length = 1 := by omega
        simp only [hone, Option.some.injEq]
      · cases hsome.symm.trans hnone
    · rcases hbaseline with ⟨-, hnone⟩ | ⟨hmany, -⟩
      · cases hsome.symm.trans hnone
      · rw [hsome]
        exact iff_of_false (fun h => Option.some_ne_none b' h.1) (fun h => by omega)

theorem near_self (m : UInt16) : Near m m := by
  unfold Near
  rw [max_self, min_self, Nat.sub_self]
  decide

/-- **The tracker is sound where, and only where, the second value of every cell agrees with another
one.** -/
theorem sound_iff (hheld : Held seen) : Sound metres seen ↔ Agrees seen := by
  have hheld' : ∀ {before o later}, seen = before ++ o :: later → Held (before ++ [o]) := by
    rintro before o later rfl
    rw [List.append_cons] at hheld
    exact hheld.of_append
  constructor
  · intro hsound before o later hseen hone
    obtain ⟨hnone, hsome⟩ := (first_baseline_iff metres (hheld' hseen)).2 ⟨hone, rfl⟩
    have htwo := hsound.agreed before o later hseen o.2 hnone hsome
    rw [List.countP_append, List.countP_singleton, if_pos (by simp [near_self])] at htwo
    have hpos : 0 < before.countP fun p => p.1 = o.1 ∧ Near p.2 o.2 := by omega
    obtain ⟨p, hp, hagrees⟩ := List.countP_pos_iff.1 hpos
    exact ⟨p, hp, of_decide_eq_true hagrees⟩
  · intro hagrees
    refine ⟨?_, ?_, ?_⟩
    · intro before o later hseen b hnone hsome
      obtain ⟨hone, rfl⟩ := (first_baseline_iff metres (hheld' hseen)).1 ⟨hnone, hsome⟩
      obtain ⟨p, hp, hnear⟩ := hagrees before o later hseen hone
      have hpos := List.countP_pos_iff (p := fun p => decide (p.1 = o.1 ∧ Near p.2 o.2)).2
        ⟨p, hp, decide_eq_true hnear⟩
      rw [List.countP_append, List.countP_singleton, if_pos (by simp [near_self])]
      omega
    · intro before o later hseen baseline observed distance hmoved
      rw [status_after (hheld' hseen)] at hmoved
      split at hmoved
      · cases hmoved
      · rcases judge_cases metres (samplesOf metres (valuesOf o.1 (counted before))) o.2
          with ⟨-, -, hjudge⟩ | ⟨-, -, hjudge⟩ | ⟨b, hsome, ⟨-, hjudge⟩ | ⟨hfar, hjudge⟩⟩ <;>
          rw [hjudge] at hmoved <;> cases hmoved
        obtain ⟨-, ⟨-, hnone⟩ | ⟨-, b, hmem, hb⟩⟩ :=
          samplesOf_cases metres (valuesOf o.1 (counted before))
        · cases hsome.symm.trans hnone
        · obtain rfl : b = baseline := Option.some.inj (hb.symm.trans hsome)
          exact ⟨rfl, mem_of_mem_valuesOf hmem, hfar⟩
    · intro before o later hseen hcounts other hother hcounts' hvalues
      rw [status_after (hheld' hseen), status_after hother, if_neg hcounts, if_neg hcounts', hvalues]

/-- A cell that is seen twice at the same distance. -/
theorem sound_iff_twice :
    Sound (fun ta => (ta.toNat * 7807 + 50) / 100) [((1, 100), 7), ((1, 100), 8)] := by
  refine (sound_iff (by decide)).2 ?_
  intro before o later hseen hone
  rcases before with _ | ⟨p, _ | ⟨q, before⟩⟩
  · cases hone
  · obtain ⟨rfl, hrest⟩ := List.cons.inj hseen
    obtain ⟨rfl, -⟩ := List.cons.inj hrest
    exact ⟨((1, 100), 7), List.mem_cons_self, rfl, by decide⟩
  · have hlength := congrArg List.length hseen
    simp only [List.length_cons, List.length_append, List.length_nil] at hlength
    omega

/-- One bad measurement, the second, is taken for the baseline, and the cell is told to have moved
once it is seen again where it was. -/
theorem sound_not_of_bad :
    ¬Sound (fun ta => (ta.toNat * 7807 + 50) / 100) [((1, 100), 5), ((1, 100), 1000)] ∧
      (after (see fun ta => (ta.toNat * 7807 + 50) / 100) {}
        [((1, 100), 5), ((1, 100), 1000), ((1, 100), 5)]).status = .moved 1000 5 (-77680) := by
  constructor
  · intro hsound
    have htwo := hsound.agreed [((1, 100), 5)] ((1, 100), 1000) [] rfl 1000 rfl rfl
    exact absurd htwo (by decide)
  · decide +kernel

end TimingAdvanceTracker

end Rayhunter
