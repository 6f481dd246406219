import Mathlib.Data.Finset.Card
import Mathlib.Data.List.AList
import Rayhunter.Analysis.Event
import Rayhunter.Lib.Mealy

/-!
# A cell that answers from elsewhere

`TimingAdvanceAnalyzer` of `lib/src/analysis/timing_advance.rs`. It keeps for every cell the timing
advance it takes for that cell's own, in a table of at most `MAX_CELLS` that is emptied where it
would grow further. Which cell a timing advance is of is what the last system information block said.
Nothing is kept until some timing advance is not zero, so what is said of a cell is not a matter of
that cell alone; from there on it is, as long as the table is not emptied (`events_of_cell`).
-/

namespace Rayhunter

namespace TimingAdvanceAnalyzer

/-- `JUMP_THRESHOLD_STEPS` (`timing_advance.rs:48`). -/
def JUMP_THRESHOLD_STEPS : Nat := 16

/-- `SAMPLES_FOR_BASELINE` (`timing_advance.rs:54`). -/
def SAMPLES_FOR_BASELINE : Nat := 2

/-- `MAX_CELLS` (`timing_advance.rs:58`). -/
def MAX_CELLS : Nat := 32

/-- `CellSamples` (`timing_advance.rs:66`). -/
structure CellSamples where
  baseline : Option UInt16
  seen : Nat
  deriving DecidableEq, Repr

end TimingAdvanceAnalyzer

/-- An element as this detector looks into it: a first system information block with the identity of
its cell, a random access response with its timing advance, or another. -/
inductive CellElement
  | systemInformationBlockType1 (cellIdentity : UInt32)
  | macRar (timingAdvance : UInt16)
  | other
  deriving DecidableEq, Repr

/-- `TimingAdvanceAnalyzer` (`timing_advance.rs:73`). -/
structure TimingAdvanceAnalyzer where
  currentCell : Option UInt32
  cells : AList fun _ : UInt32 => TimingAdvanceAnalyzer.CellSamples
  anyNonZero : Bool

namespace TimingAdvanceAnalyzer

/-- `new` (`timing_advance.rs:86`). -/
def new : TimingAdvanceAnalyzer where
  currentCell := none
  cells := ∅
  anyNonZero := false

/-- `u16::abs_diff`. -/
def absDiff (m n : UInt16) : Nat := (m.toNat - n.toNat) + (n.toNat - m.toNat)

/-- What one more timing advance makes of a cell's samples (`timing_advance.rs:110`). -/
def judge (samples : CellSamples) (ta : UInt16) : Option (UInt16 × UInt16) × CellSamples :=
  let entry := { samples with seen := samples.seen + 1 }
  match entry.baseline with
  | none =>
    (none, if SAMPLES_FOR_BASELINE ≤ entry.seen then { entry with baseline := some ta } else entry)
  | some baseline =>
    if JUMP_THRESHOLD_STEPS ≤ absDiff ta baseline then
      (some (baseline, ta), { entry with baseline := some ta })
    else (none, entry)

/-- The samples of a cell, of which there may be none yet: `or_default`. -/
def samples (cells : AList fun _ : UInt32 => CellSamples) (cell : UInt32) : CellSamples :=
  (cells.lookup cell).getD ⟨none, 0⟩

/-- The table with room for a cell (`timing_advance.rs:106`). -/
def makeRoom (cells : AList fun _ : UInt32 => CellSamples) (cell : UInt32) :
    AList fun _ : UInt32 => CellSamples :=
  if MAX_CELLS ≤ cells.keys.length ∧ cell ∉ cells then ∅ else cells

/-- `observe` (`timing_advance.rs:94`). -/
def observe (a : TimingAdvanceAnalyzer) (ta : UInt16) :
    Option (UInt16 × UInt16) × TimingAdvanceAnalyzer :=
  let a := if ta = 0 then a else { a with anyNonZero := true }
  if a.anyNonZero then
    match a.currentCell with
    | none => (none, a)
    | some cell =>
      let cells := makeRoom a.cells cell
      let (event, entry) := judge (samples cells cell) ta
      (event, { a with cells := cells.insert cell entry })
  else (none, a)

/-! `metres` (`timing_advance.rs:61`) multiplies in floating point, and is a parameter. -/

variable (metres : UInt16 → Int)

/-- The event of a cell that answers from elsewhere (`timing_advance.rs:180`). -/
def movedEvent (baseline observed : UInt16) : Event :=
  let change := metres observed - metres baseline
  let direction := if 0 < change then "further" else "closer"
  ⟨.low, s!"Cell reported timing advance {observed}, having reported {baseline} before: about " ++
    s!"{change.natAbs} metres {direction}. If this device moved, that explains it; if it did " ++
    "not, the same cell identity is being transmitted from somewhere else."⟩

/-- `analyze_information_element` (`timing_advance.rs:148`). -/
def analyzeInformationElement (a : TimingAdvanceAnalyzer) :
    CellElement → Option Event × TimingAdvanceAnalyzer
  | .systemInformationBlockType1 cellIdentity => (none, { a with currentCell := some cellIdentity })
  | .macRar timingAdvance =>
    let (jump, a) := a.observe timingAdvance
    (jump.map fun (baseline, observed) => movedEvent metres baseline observed, a)
  | .other => (none, a)

end TimingAdvanceAnalyzer

/-! ## Observations -/

namespace CellElement

/-- The cell a device is camped on after an element. -/
def camp (cell : Option UInt32) : CellElement → Option UInt32
  | systemInformationBlockType1 cellIdentity => some cellIdentity
  | _ => cell

/-- The cell it is camped on after some elements. -/
def camped (cell : Option UInt32) (elements : List CellElement) : Option UInt32 :=
  elements.foldl camp cell

/-- The timing advances of known cells among some elements, each with its cell. -/
def observations : Option UInt32 → List CellElement → List (UInt32 × UInt16)
  | _, [] => []
  | some cell, macRar timingAdvance :: elements =>
    (cell, timingAdvance) :: observations (some cell) elements
  | cell, element :: elements => observations (camp cell element) elements

/-- What belongs to the elements that come while the device is camped on a cell. -/
def ofCell {β : Type*} (c : UInt32) : Option UInt32 → List CellElement → List β → List β
  | cell, element :: elements, y :: ys =>
    if camp cell element = some c then y :: ofCell c (camp cell element) elements ys
    else ofCell c (camp cell element) elements ys
  | _, _, _ => []

/-- Whether this is not a timing advance other than zero. -/
def isQuiet : CellElement → Bool
  | macRar timingAdvance => timingAdvance = 0
  | _ => true

end CellElement

namespace TimingAdvanceAnalyzer

open CellElement

variable {metres : UInt16 → Int} {a : TimingAdvanceAnalyzer} {c : UInt32}

/-! ## Before anything but zero is seen -/

theorem analyze_quiet (h : a.anyNonZero = false) {element : CellElement}
    (hquiet : element.isQuiet = true) :
    a.analyzeInformationElement metres element =
      (none, { a with currentCell := camp a.currentCell element }) := by
  obtain ⟨cell, cells, anyNonZero⟩ := a
  obtain rfl : anyNonZero = false := h
  cases element with
  | systemInformationBlockType1 | other => rfl
  | macRar timingAdvance =>
    obtain rfl : timingAdvance = 0 := by simpa [isQuiet] using hquiet
    simp [analyzeInformationElement, observe, camp]

/-- Then nothing is said and nothing is kept but the cell. -/
theorem answers_quiet (h : a.anyNonZero = false) {quiet : List CellElement}
    (hquiet : ∀ element ∈ quiet, element.isQuiet = true) :
    Mealy.answers (analyzeInformationElement metres) a quiet = quiet.map fun _ => none := by
  induction quiet generalizing a with
  | nil => rfl
  | cons element quiet ih =>
    rw [List.forall_mem_cons] at hquiet
    rw [Mealy.answers_cons, analyze_quiet h hquiet.1]
    exact congrArg _ (ih h hquiet.2)

theorem after_quiet (h : a.anyNonZero = false) {quiet : List CellElement}
    (hquiet : ∀ element ∈ quiet, element.isQuiet = true) :
    Mealy.after (analyzeInformationElement metres) a quiet =
      { a with currentCell := camped a.currentCell quiet } := by
  induction quiet generalizing a with
  | nil => rfl
  | cons element quiet ih =>
    rw [List.forall_mem_cons] at hquiet
    rw [Mealy.after_cons, analyze_quiet h hquiet.1]
    exact ih h hquiet.2

/-- The detector camped on a cell, with nothing kept, that has seen other than zero. -/
def awake (cell : Option UInt32) : TimingAdvanceAnalyzer where
  currentCell := cell
  cells := ∅
  anyNonZero := true

/-- From the first timing advance other than zero on it is as if there had been one before. -/
theorem answers_rest (cell : Option UInt32) {rest : List CellElement}
    (hrest : ∀ element ∈ rest.head?, element.isQuiet = false) :
    Mealy.answers (analyzeInformationElement metres) { new with currentCell := cell } rest =
      Mealy.answers (analyzeInformationElement metres) (awake cell) rest := by
  cases rest with
  | nil => rfl
  | cons element rest =>
    have helement := hrest element rfl
    cases element with
    | systemInformationBlockType1 | other => cases helement
    | macRar timingAdvance =>
      have hne : timingAdvance ≠ 0 := by simpa [isQuiet] using helement
      have hsame : ({ new with currentCell := cell } : TimingAdvanceAnalyzer).observe timingAdvance =
          (awake cell).observe timingAdvance := by
        simp [observe, hne, new, awake]
      rw [Mealy.answers_cons, Mealy.answers_cons, analyzeInformationElement, hsame]
      rfl

/-! ## The table -/

theorem length_keys_insert {β : Type*} {cells : AList fun _ : UInt32 => β} {entry : β} :
    (cells.insert c entry).keys.length =
      if c ∈ cells then cells.keys.length else cells.keys.length + 1 := by
  rw [AList.keys_insert, List.length_cons]
  split
  · next h =>
    have := List.length_pos_of_mem (AList.mem_keys.1 h)
    rw [List.length_erase_of_mem (AList.mem_keys.1 h)]
    omega
  · next h => rw [List.erase_of_not_mem (mt AList.mem_keys.2 h)]

/-- The table has no more cells than it may have, and then there is room for one more. -/
theorem length_keys_insert_makeRoom {cells : AList fun _ : UInt32 => CellSamples}
    {entry : CellSamples} (h : cells.keys.length ≤ MAX_CELLS) :
    ((makeRoom cells c).insert c entry).keys.length ≤ MAX_CELLS := by
  rw [length_keys_insert, makeRoom]
  split
  · simp [MAX_CELLS]
  · next hroom =>
    rw [not_and_or, not_not] at hroom
    split
    · exact h
    · next hc => exact Nat.succ_le_of_lt (not_le.1 (hroom.resolve_right hc))

theorem observe_of_camped (h : a.anyNonZero = true) (hc : a.currentCell = some c) (ta : UInt16) :
    a.observe ta = ((judge (samples (makeRoom a.cells c) c) ta).1,
      { a with cells := (makeRoom a.cells c).insert c (judge (samples (makeRoom a.cells c) c) ta).2 }) := by
  obtain ⟨cell, cells, anyNonZero⟩ := a
  obtain rfl : anyNonZero = true := h
  obtain rfl : cell = some c := hc
  unfold observe
  split <;> rfl

theorem observe_of_uncamped (h : a.anyNonZero = true) (hc : a.currentCell = none) (ta : UInt16) :
    a.observe ta = (none, a) := by
  obtain ⟨cell, cells, anyNonZero⟩ := a
  obtain rfl : anyNonZero = true := h
  obtain rfl : cell = none := hc
  unfold observe
  split <;> rfl

/-- A timing advance is not kept, or is kept for the cell the device is camped on. -/
theorem observe_cases (a : TimingAdvanceAnalyzer) (ta : UInt16) :
    (∃ anyNonZero, a.observe ta = (none, { a with anyNonZero })) ∨
      ∃ k, a.currentCell = some k ∧ a.observe ta =
        ((judge (samples (makeRoom a.cells k) k) ta).1,
          ⟨some k, (makeRoom a.cells k).insert k (judge (samples (makeRoom a.cells k) k) ta).2,
            true⟩) := by
  by_cases hawake : ta = 0 ∧ a.anyNonZero = false
  · left
    obtain ⟨cell, cells, anyNonZero⟩ := a
    obtain ⟨rfl, rfl⟩ := hawake
    exact ⟨false, by simp [observe]⟩
  · have hsame : a.observe ta = observe { a with anyNonZero := true } ta := by
      obtain ⟨cell, cells, anyNonZero⟩ := a
      cases anyNonZero with
      | true => rfl
      | false =>
        have hne : ta ≠ 0 := fun heq => hawake ⟨heq, rfl⟩
        simp [observe, hne]
    rw [hsame]
    cases hcell : a.currentCell with
    | none => exact .inl ⟨true, by rw [observe_of_uncamped rfl rfl]⟩
    | some k => exact .inr ⟨k, rfl, observe_of_camped rfl rfl ta⟩

/-- Where the cells in the table and one more are few enough, it is not emptied. -/
theorem makeRoom_eq {cells : AList fun _ : UInt32 => CellSamples} {touched : Finset UInt32}
    (htouched : touched.card ≤ MAX_CELLS) (hcells : ∀ k ∈ cells, k ∈ touched) (hc : c ∈ touched) :
    makeRoom cells c = cells := by
  unfold makeRoom
  rw [if_neg]
  rintro ⟨hfull, hnot⟩
  have hcard : (insert c cells.keys.toFinset).card = cells.keys.length + 1 := by
    rw [Finset.card_insert_of_notMem (by simpa [AList.mem_keys] using hnot),
      List.toFinset_card_of_nodup cells.keys_nodup]
  have hsub : insert c cells.keys.toFinset ⊆ touched := by
    intro k hk
    rcases Finset.mem_insert.1 hk with rfl | hk
    · exact hc
    · exact hcells k (AList.mem_keys.2 (List.mem_toFinset.1 hk))
  have := Finset.card_le_card hsub
  omega

/-! ## One cell alone -/

/-- Of a cell the first detector has kept what the second has, which has kept nothing else. -/
structure Alike (c : UInt32) (a b : TimingAdvanceAnalyzer) : Prop where
  awake : a.anyNonZero = true
  alone : b.anyNonZero = true
  camped : b.currentCell = some c
  lookup : a.cells.lookup c = b.cells.lookup c
  only : ∀ k ∈ b.cells, k = c

variable {b : TimingAdvanceAnalyzer}

theorem Alike.camp (h : Alike c a b) (cell : Option UInt32) :
    Alike c { a with currentCell := cell } b :=
  ⟨h.awake, h.alone, h.camped, h.lookup, h.only⟩

/-- A timing advance of another cell leaves the two alike. -/
theorem Alike.observe_other (h : Alike c a b) {k : UInt32} (hk : a.currentCell = some k)
    (hne : c ≠ k) (hroom : makeRoom a.cells k = a.cells) (ta : UInt16) :
    Alike c (a.observe ta).2 b := by
  rw [observe_of_camped h.awake hk, hroom]
  exact ⟨h.awake, h.alone, h.camped, (AList.lookup_insert_ne hne).trans h.lookup, h.only⟩

/-- One of this cell is judged alike by both. -/
theorem Alike.observe_own (h : Alike c a b) (hc : a.currentCell = some c)
    (hroom : makeRoom a.cells c = a.cells) (ta : UInt16) :
    (a.observe ta).1 = (b.observe ta).1 ∧ Alike c (a.observe ta).2 (b.observe ta).2 := by
  have hone : ({c} : Finset UInt32).card ≤ MAX_CELLS := by simp [MAX_CELLS]
  have hroom' : makeRoom b.cells c = b.cells :=
    makeRoom_eq hone (fun k hk => Finset.mem_singleton.2 (h.only k hk))
      (Finset.mem_singleton_self c)
  have hsamples : samples a.cells c = samples b.cells c := by rw [samples, samples, h.lookup]
  rw [observe_of_camped h.awake hc, observe_of_camped h.alone h.camped, hroom, hroom', hsamples]
  refine ⟨rfl, h.awake, h.alone, h.camped, ?_, fun k hk => ?_⟩
  · rw [AList.lookup_insert, AList.lookup_insert]
  · rcases (AList.mem_insert _).1 hk with rfl | hk
    · rfl
    · exact h.only k hk

/-- Where there is room for the cell a timing advance is of, an element of this cell is answered
alike and leaves the two alike, and any other leaves them so if only the first is told. -/
theorem Alike.analyze (metres : UInt16 → Int) (h : Alike c a b) (element : CellElement)
    (hroom : ∀ k ta, a.currentCell = some k → element = macRar ta → makeRoom a.cells k = a.cells) :
    (CellElement.camp a.currentCell element = some c →
      (a.analyzeInformationElement metres element).1 =
          (b.analyzeInformationElement metres element).1 ∧
        Alike c (a.analyzeInformationElement metres element).2
          (b.analyzeInformationElement metres element).2) ∧
      (CellElement.camp a.currentCell element ≠ some c →
        Alike c (a.analyzeInformationElement metres element).2 b) := by
  cases element with
  | systemInformationBlockType1 k =>
    refine ⟨fun hk => ⟨rfl, ?_⟩, fun _ => h.camp (some k)⟩
    exact ⟨h.awake, h.alone, hk, h.lookup, h.only⟩
  | other => exact ⟨fun _ => ⟨rfl, h⟩, fun _ => h⟩
  | macRar ta =>
    constructor
    · intro hc
      obtain ⟨hjump, hrest⟩ := h.observe_own hc (hroom c ta hc rfl) ta
      exact ⟨congrArg (Option.map _) hjump, hrest⟩
    · intro hne
      have hne : a.currentCell ≠ some c := hne
      cases hcell : a.currentCell with
      | none =>
        rw [analyzeInformationElement, observe_of_uncamped h.awake hcell]
        exact h
      | some k =>
        exact h.observe_other hcell (fun heq => hne (heq ▸ hcell)) (hroom k ta hcell rfl) ta

theorem analyze_currentCell (metres : UInt16 → Int) (a : TimingAdvanceAnalyzer)
    (element : CellElement) :
    (a.analyzeInformationElement metres element).2.currentCell =
      CellElement.camp a.currentCell element := by
  cases element with
  | systemInformationBlockType1 | other => rfl
  | macRar ta =>
    show (a.observe ta).2.currentCell = a.currentCell
    obtain ⟨anyNonZero, heq⟩ | ⟨k, hk, heq⟩ := a.observe_cases ta
    · rw [heq]
    · rw [heq, hk]

theorem ofCell_cons_of_eq {β : Type*} {cell : Option UInt32} {element : CellElement}
    (h : CellElement.camp cell element = some c) (elements : List CellElement) (y : β)
    (ys : List β) : ofCell c cell (element :: elements) (y :: ys) =
      y :: ofCell c (CellElement.camp cell element) elements ys := by
  rw [ofCell, if_pos h]

theorem ofCell_cons_of_ne {β : Type*} {cell : Option UInt32} {element : CellElement}
    (h : CellElement.camp cell element ≠ some c) (elements : List CellElement) (y : β)
    (ys : List β) : ofCell c cell (element :: elements) (y :: ys) =
      ofCell c (CellElement.camp cell element) elements ys := by
  rw [ofCell, if_neg h]

/-- The elements after one have no other observations. -/
theorem observations_tail {cell : Option UInt32} {element : CellElement}
    {elements : List CellElement} {o : UInt32 × UInt16}
    (h : o ∈ observations (CellElement.camp cell element) elements) :
    o ∈ observations cell (element :: elements) := by
  cases cell with
  | none => cases element <;> exact h
  | some k =>
    cases element with
    | macRar ta => exact List.mem_cons_of_mem _ h
    | systemInformationBlockType1 | other => exact h

theorem mem_cells_analyze {element : CellElement} {k : UInt32}
    (h : k ∈ (a.analyzeInformationElement metres element).2.cells) :
    k ∈ a.cells ∨ ∃ ta, element = macRar ta ∧ a.currentCell = some k := by
  cases element with
  | systemInformationBlockType1 | other => exact .inl h
  | macRar ta =>
    have h : k ∈ (a.observe ta).2.cells := h
    obtain ⟨anyNonZero, heq⟩ | ⟨k', hk', heq⟩ := a.observe_cases ta <;> rw [heq] at h
    · exact .inl h
    · rcases (AList.mem_insert _).1 h with rfl | h
      · exact .inr ⟨ta, rfl, hk'⟩
      · unfold makeRoom at h
        split at h
        · exact absurd h (AList.notMem_empty k)
        · exact .inl h

/-- What a detector that is awake says of a cell is what one says that is told of nothing else. -/
theorem ofCell_answers (h : Alike c a b) {touched : Finset UInt32}
    (htouched : touched.card ≤ MAX_CELLS) (hcells : ∀ k ∈ a.cells, k ∈ touched)
    {elements : List CellElement} (hobs : ∀ o ∈ observations a.currentCell elements, o.1 ∈ touched) :
    ofCell c a.currentCell elements
        (Mealy.answers (analyzeInformationElement metres) a elements) =
      Mealy.answers (analyzeInformationElement metres) b
        (ofCell c a.currentCell elements elements) := by
  induction elements generalizing a b with
  | nil => rfl
  | cons element elements ih =>
    have hkept : ∀ k ta, a.currentCell = some k → element = macRar ta → k ∈ touched := by
      rintro k ta hk rfl
      exact hobs (k, ta) (by rw [hk]; exact List.mem_cons_self)
    have hcells' : ∀ k ∈ (a.analyzeInformationElement metres element).2.cells, k ∈ touched := by
      intro k hk
      rcases mem_cells_analyze hk with hk | ⟨ta, hta, hk⟩
      · exact hcells k hk
      · exact hkept k ta hk hta
    have hobs' : ∀ o ∈ observations (a.analyzeInformationElement metres element).2.currentCell
        elements, o.1 ∈ touched := by
      intro o ho
      rw [analyze_currentCell] at ho
      exact hobs o (observations_tail ho)
    obtain ⟨hown, hother⟩ := h.analyze metres element
      fun k ta hk hta => makeRoom_eq htouched hcells (hkept k ta hk hta)
    rw [Mealy.answers_cons]
    by_cases hc : CellElement.camp a.currentCell element = some c
    · obtain ⟨hanswer, hrest⟩ := hown hc
      rw [ofCell_cons_of_eq hc, ofCell_cons_of_eq hc, Mealy.answers_cons, hanswer,
        ← analyze_currentCell metres]
      exact congrArg _ (ih hrest hcells' hobs')
    · rw [ofCell_cons_of_ne hc, ofCell_cons_of_ne hc, ← analyze_currentCell metres]
      exact ih (hother hc) hcells' hobs'

/-! ## Every run -/

theorem camped_concat (cell : Option UInt32) (elements : List CellElement) (element : CellElement) :
    camped cell (elements ++ [element]) = CellElement.camp (camped cell elements) element := by
  rw [camped, List.foldl_append]
  rfl

theorem observations_append (cell : Option UInt32) (elements later : List CellElement) :
    observations cell (elements ++ later) =
      observations cell elements ++ observations (camped cell elements) later := by
  induction elements generalizing cell with
  | nil => rfl
  | cons element elements ih =>
    cases cell <;> cases element <;> simp [observations, camped, camp, ih]

theorem after_currentCell (elements : List CellElement) :
    (Mealy.after (analyzeInformationElement metres) new elements).currentCell =
      camped none elements := by
  induction elements using List.reverseRecOn with
  | nil => rfl
  | append_singleton elements element ih =>
    rw [Mealy.after_append, Mealy.after_cons, Mealy.after_nil, analyze_currentCell, ih,
      camped_concat]

theorem judge_fst {s : CellSamples} {ta baseline observed : UInt16}
    (h : (judge s ta).1 = some (baseline, observed)) : s.baseline = some baseline ∧ observed = ta := by
  unfold judge at h
  obtain ⟨_ | v, seen⟩ := s
  · cases h
  · simp only at h
    split at h
    · cases h; exact ⟨rfl, rfl⟩
    · cases h

theorem judge_baseline {s : CellSamples} {ta v : UInt16}
    (h : (judge s ta).2.baseline = some v) : v = ta ∨ s.baseline = some v := by
  unfold judge at h
  obtain ⟨_ | w, seen⟩ := s
  · simp only at h
    split at h
    · cases h; exact .inl rfl
    · cases h
  · simp only at h
    split at h
    · cases h; exact .inl rfl
    · exact .inr h

/-- The table is no larger than it may be, and every baseline in it was observed for its cell. -/
structure Kept (seen : List (UInt32 × UInt16)) (a : TimingAdvanceAnalyzer) : Prop where
  length_le : a.cells.keys.length ≤ MAX_CELLS
  baseline : ∀ k s, a.cells.lookup k = some s → ∀ v, s.baseline = some v → (k, v) ∈ seen

variable {seen : List (UInt32 × UInt16)}

theorem Kept.lookup_makeRoom (h : Kept seen a) {k k' : UInt32} {s : CellSamples}
    (hs : (makeRoom a.cells k').lookup k = some s) {v : UInt16} (hv : s.baseline = some v) :
    (k, v) ∈ seen := by
  unfold makeRoom at hs
  split at hs
  · simp at hs
  · exact h.baseline k s hs v hv

theorem Kept.samples (h : Kept seen a) {k : UInt32} {v : UInt16}
    (hv : (samples (makeRoom a.cells k) k).baseline = some v) : (k, v) ∈ seen := by
  unfold TimingAdvanceAnalyzer.samples at hv
  cases hs : (makeRoom a.cells k).lookup k with
  | none => simp [hs] at hv
  | some s =>
    rw [hs] at hv
    exact h.lookup_makeRoom hs hv

theorem Kept.append (h : Kept seen a) (later : List (UInt32 × UInt16)) : Kept (seen ++ later) a :=
  ⟨h.length_le, fun k s hs v hv => List.mem_append_left _ (h.baseline k s hs v hv)⟩

theorem Kept.observe (h : Kept seen a) (ta : UInt16) :
    Kept (seen ++ observations a.currentCell [macRar ta]) (a.observe ta).2 := by
  obtain ⟨anyNonZero, heq⟩ | ⟨k, hk, heq⟩ := a.observe_cases ta <;> rw [heq]
  · exact ⟨h.length_le, (h.append _).baseline⟩
  · rw [hk]
    refine ⟨length_keys_insert_makeRoom h.length_le, fun k' s hs v hv => ?_⟩
    by_cases hsame : k' = k
    · subst hsame
      rw [AList.lookup_insert] at hs
      cases hs
      rcases judge_baseline hv with rfl | hv
      · exact List.mem_append_right _ List.mem_cons_self
      · exact List.mem_append_left _ (h.samples hv)
    · rw [AList.lookup_insert_ne hsame] at hs
      exact List.mem_append_left _ (h.lookup_makeRoom hs hv)

theorem Kept.analyze (metres : UInt16 → Int) (h : Kept seen a) (element : CellElement) :
    Kept (seen ++ observations a.currentCell [element])
      (a.analyzeInformationElement metres element).2 := by
  cases element with
  | systemInformationBlockType1 | other => exact ⟨h.length_le, (h.append _).baseline⟩
  | macRar ta => exact h.observe ta

theorem kept_after (metres : UInt16 → Int) (elements : List CellElement) :
    Kept (observations none elements)
      (Mealy.after (analyzeInformationElement metres) new elements) := by
  induction elements using List.reverseRecOn with
  | nil => exact ⟨Nat.zero_le _, fun k s hs => by simp [new] at hs⟩
  | append_singleton elements element ih =>
    have hstep := ih.analyze metres element
    rw [after_currentCell] at hstep
    rw [Mealy.after_append, observations_append]
    exact hstep

/-- An event names a baseline that was observed for the cell of the timing advance it is raised at. -/
theorem Kept.event (h : Kept seen a) {element : CellElement} {e : Event}
    (he : (a.analyzeInformationElement metres element).1 = some e) :
    ∃ k baseline ta, element = macRar ta ∧ a.currentCell = some k ∧
      e = movedEvent metres baseline ta ∧ (k, baseline) ∈ seen := by
  cases element with
  | systemInformationBlockType1 | other => cases he
  | macRar ta =>
    have he : (a.observe ta).1.map (fun (baseline, observed) =>
      movedEvent metres baseline observed) = some e := he
    obtain ⟨anyNonZero, heq⟩ | ⟨k, hk, heq⟩ := a.observe_cases ta <;> rw [heq] at he
    · cases he
    · obtain ⟨⟨baseline, observed⟩, hjump, rfl⟩ := Option.map_eq_some_iff.1 he
      obtain ⟨hbaseline, rfl⟩ := judge_fst hjump
      exact ⟨k, baseline, observed, rfl, hk, rfl, h.samples hbaseline⟩

/-! ## Events -/

theorem ofCell_append {β : Type*} (cell : Option UInt32) (elements later : List CellElement)
    (ys zs : List β) (h : elements.length = ys.length) :
    ofCell c cell (elements ++ later) (ys ++ zs) =
      ofCell c cell elements ys ++ ofCell c (camped cell elements) later zs := by
  induction elements generalizing cell ys with
  | nil =>
    obtain rfl := List.length_eq_zero_iff.1 h.symm
    rfl
  | cons element elements ih =>
    cases ys with
    | nil => cases h
    | cons y ys =>
      have hrest := ih (CellElement.camp cell element) ys (Nat.succ.inj h)
      rw [List.cons_append, List.cons_append]
      by_cases hc : CellElement.camp cell element = some c
      · rw [ofCell_cons_of_eq hc, ofCell_cons_of_eq hc, hrest]
        rfl
      · rw [ofCell_cons_of_ne hc, ofCell_cons_of_ne hc, hrest]
        rfl

theorem ofCell_map {β γ : Type*} (f : β → γ) (cell : Option UInt32) (elements : List CellElement)
    (ys : List β) : ofCell c cell elements (ys.map f) = (ofCell c cell elements ys).map f := by
  induction elements generalizing cell ys with
  | nil => rfl
  | cons element elements ih =>
    cases ys with
    | nil => rfl
    | cons y ys =>
      rw [List.map_cons]
      by_cases hc : CellElement.camp cell element = some c
      · rw [ofCell_cons_of_eq hc, ofCell_cons_of_eq hc, ih, List.map_cons]
      · rw [ofCell_cons_of_ne hc, ofCell_cons_of_ne hc, ih]

/-- What is said of a cell, with what comes before anything but zero apart. -/
theorem ofCell_answers_new (metres : UInt16 → Int) (elements : List CellElement)
    (htouched : ((observations none elements).map Prod.fst).toFinset.card ≤ MAX_CELLS)
    (c : UInt32) :
    ofCell c none elements (Mealy.answers (analyzeInformationElement metres) new elements) =
      ((ofCell c none (elements.takeWhile isQuiet) (elements.takeWhile isQuiet)).map fun _ => none) ++
        Mealy.answers (analyzeInformationElement metres) (awake (some c))
          (ofCell c (camped none (elements.takeWhile isQuiet)) (elements.dropWhile isQuiet)
            (elements.dropWhile isQuiet)) := by
  have hquiet : ∀ element ∈ elements.takeWhile isQuiet, element.isQuiet = true := fun element h =>
    List.mem_takeWhile_imp h
  have hrest : ∀ element ∈ (elements.dropWhile isQuiet).head?, element.isQuiet = false := by
    intro element h
    have := List.head?_dropWhile_not isQuiet elements
    rw [Option.mem_def.1 h] at this
    simpa using this
  rw [← List.takeWhile_append_dropWhile (p := isQuiet) (l := elements)] at htouched
  conv_lhs => rw [← List.takeWhile_append_dropWhile (p := isQuiet) (l := elements)]
  generalize elements.takeWhile isQuiet = quiet at *
  generalize elements.dropWhile isQuiet = rest at *
  rw [Mealy.answers_append, answers_quiet rfl hquiet, after_quiet rfl hquiet,
    ofCell_append _ _ _ _ _ (List.length_map _).symm, ofCell_map]
  refine congrArg _ ?_
  have halike : Alike c (awake (camped none quiet)) (awake (some c)) :=
    ⟨rfl, rfl, rfl, rfl, fun k hk => absurd hk (AList.notMem_empty k)⟩
  have hobs : ∀ o ∈ observations (camped none quiet) rest,
      o.1 ∈ ((observations none (quiet ++ rest)).map Prod.fst).toFinset := by
    intro o ho
    rw [observations_append]
    exact List.mem_toFinset.2 (List.mem_map_of_mem (List.mem_append_right _ ho))
  exact (congrArg _ (answers_rest _ hrest)).trans (ofCell_answers halike htouched
    (fun k hk => absurd hk (AList.notMem_empty k)) hobs)

/-- **What is said of one cell depends on that cell's own messages since any cell first had a timing
advance other than zero**: where at most `MAX_CELLS` are observed, it is what is said to them alone
by a detector that has seen other than zero, and before that nothing is said. In every run the table
has at most `MAX_CELLS` cells, and the baseline of an event was observed before for its cell. -/
theorem events_of_cell (metres : UInt16 → Int) (elements : List CellElement) :
    (((observations none elements).map Prod.fst).toFinset.card ≤ MAX_CELLS → ∀ c,
      ofCell c none elements (Mealy.answers (analyzeInformationElement metres) new elements) =
        ((ofCell c none (elements.takeWhile isQuiet) (elements.takeWhile isQuiet)).map
          fun _ => none) ++
          Mealy.answers (analyzeInformationElement metres) (awake (some c))
            (ofCell c (camped none (elements.takeWhile isQuiet)) (elements.dropWhile isQuiet)
              (elements.dropWhile isQuiet))) ∧
    (Mealy.after (analyzeInformationElement metres) new elements).cells.keys.length ≤ MAX_CELLS ∧
    ∀ before element after e, elements = before ++ element :: after →
      ((Mealy.after (analyzeInformationElement metres) new before).analyzeInformationElement metres
        element).1 = some e →
      ∃ c baseline ta, element = macRar ta ∧ camped none before = some c ∧
        e = movedEvent metres baseline ta ∧ (c, baseline) ∈ observations none before := by
  refine ⟨ofCell_answers_new metres elements, (kept_after metres elements).length_le, ?_⟩
  intro before element after e _ he
  obtain ⟨c, baseline, ta, helement, hc, hevent, hseen⟩ := (kept_after metres before).event he
  exact ⟨c, baseline, ta, helement, (after_currentCell before).symm.trans hc, hevent, hseen⟩

/-- A cell whose timing advances were zero until it answered from elsewhere. -/
def farther : List CellElement :=
  [.systemInformationBlockType1 2, .macRar 0, .macRar 0, .macRar 20]

/-- After another cell, that is told of. -/
theorem events_of_cell_farther :
    ofCell 2 none (.systemInformationBlockType1 1 :: .macRar 5 :: farther)
        (Mealy.answers (analyzeInformationElement fun ta => ta.toNat * 78) new
          (.systemInformationBlockType1 1 :: .macRar 5 :: farther)) =
      [none, none, none, some (movedEvent (fun ta => ta.toNat * 78) 0 20)] :=
  ((events_of_cell (fun ta => ta.toNat * 78)
    (.systemInformationBlockType1 1 :: .macRar 5 :: farther)).1 (by decide) 2).trans rfl

/-- **Alone, it is not.** -/
theorem told_by_another_cell :
    ¬ ∀ (metres : UInt16 → Int) (elements : List CellElement),
      ((observations none elements).map Prod.fst).toFinset.card ≤ MAX_CELLS → ∀ c,
      ofCell c none elements (Mealy.answers (analyzeInformationElement metres) new elements) =
        Mealy.answers (analyzeInformationElement metres) new (ofCell c none elements elements) := by
  intro h
  have hsame := h (fun ta => ta.toNat * 78)
    (.systemInformationBlockType1 1 :: .macRar 5 :: farther) (by decide) 2
  have htold := congrArg (fun events => (events.map Option.isSome).getLast?) hsame
  exact absurd htold (by decide)

end TimingAdvanceAnalyzer

end Rayhunter
