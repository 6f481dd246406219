import Mathlib.Data.Multiset.Bind
import Mathlib.Data.Multiset.Lattice
import Mathlib.Order.Lattice.Nat
import Mathlib.Order.WithBot
import Rayhunter.Analysis.Event
import Rayhunter.Lib.Mealy

/-!
# A cell that prefers older networks

`LteSib6And7DowngradeAnalyzer` of `lib/src/analysis/priority_2g_downgrade.rs`. A cell tells phones in
its system information which neighbours to prefer; the detector keeps the highest priority of an LTE
neighbour and of an older one, and compares them when the cell starts over with its first block.
What it keeps is the highest of all it has heard since the block before (`kept_since`), so what it
says is a function of the multiset of blocks in between (`verdict_since`).
-/

namespace Rayhunter

/-- `SystemInformation_r8_IEsSib_TypeAndInfo_Entry`, with the reselection priorities in it. A
neighbour may come without one. -/
inductive SibTypeAndInfo
  | sib3 (servingPriority : Nat)
  | sib5 (interFreqPriorities : List (Option Nat))
  | sib6 (utraFddPriorities utraTddPriorities : Option (List (Option Nat)))
  | sib7 (geranPriorities : Option (List (Option Nat)))
  | other
  deriving DecidableEq, Repr

/-- An element as this detector looks into it: a first system information block, system information
with what `unpack_system_information` (`priority_2g_downgrade.rs:33`) finds in it, or another. -/
inductive SystemElement
  | systemInformationBlockType1
  | systemInformation (sibTypeAndInfo : List SibTypeAndInfo)
  | other
  deriving DecidableEq, Repr

/-- `LteSib6And7DowngradeAnalyzer` (`priority_2g_downgrade.rs:15`). -/
structure LteSib6And7DowngradeAnalyzer where
  ltePriority : Option Nat
  legacyPriority : Option Nat
  deriving DecidableEq, Repr

namespace LteSib6And7DowngradeAnalyzer

/-- `new` (`priority_2g_downgrade.rs:26`). -/
def new : LteSib6And7DowngradeAnalyzer where
  ltePriority := none
  legacyPriority := none

/-- `<` of `Option<u8>`, where nothing is below every number. -/
def below : Option Nat → Option Nat → Bool
  | _, none => false
  | none, some _ => true
  | some p, some q => p < q

/-- A priority kept, after one more. -/
def raise (priority : Option Nat) (p : Nat) : Option Nat :=
  if below priority (some p) then some p else priority

/-- A priority kept, after those of some neighbours. -/
def raiseAll (priority : Option Nat) (neighbours : List (Option Nat)) : Option Nat :=
  neighbours.foldl (fun priority neighbour => neighbour.elim priority (raise priority)) priority

/-- What a block of system information changes (`priority_2g_downgrade.rs:110`). -/
def hearSib (a : LteSib6And7DowngradeAnalyzer) : SibTypeAndInfo → LteSib6And7DowngradeAnalyzer
  | .sib3 servingPriority => { a with ltePriority := raise a.ltePriority servingPriority }
  | .sib5 interFreqPriorities =>
    { a with ltePriority := raiseAll a.ltePriority interFreqPriorities }
  | .sib6 utraFddPriorities utraTddPriorities =>
    let legacyPriority := raiseAll a.legacyPriority (utraFddPriorities.getD [])
    { a with legacyPriority := raiseAll legacyPriority (utraTddPriorities.getD []) }
  | .sib7 geranPriorities =>
    { a with legacyPriority := raiseAll a.legacyPriority (geranPriorities.getD []) }
  | .other => a

/-- The event for neighbours that are all of older networks (`priority_2g_downgrade.rs:81`). -/
def noLteEvent : Event :=
  ⟨.informational, "LTE cell advertised a legacy (3G/2G) neighbors but no LTE neighbors"⟩

/-- The event for older networks that are preferred (`priority_2g_downgrade.rs:88`). -/
def preferredEvent (legacyPriority ltePriority : Nat) : Event :=
  ⟨.high, s!"LTE cell advertised a legacy (3G/2G) cell for priority {legacyPriority} " ++
    s!"reselection over LTE neighbors at priority Some({ltePriority})"⟩

/-- What is said at a first system information block (`priority_2g_downgrade.rs:79`). -/
def flag (a : LteSib6And7DowngradeAnalyzer) : Option Event :=
  if below a.ltePriority a.legacyPriority then
    match a.ltePriority with
    | none => some noLteEvent
    | some ltePriority => a.legacyPriority.map fun legacyPriority =>
      preferredEvent legacyPriority ltePriority
  else none

/-- `analyze_information_element` (`priority_2g_downgrade.rs:67`). -/
def analyzeInformationElement (a : LteSib6And7DowngradeAnalyzer) :
    SystemElement → Option Event × LteSib6And7DowngradeAnalyzer
  | .systemInformationBlockType1 => (a.flag, new)
  | .systemInformation sibTypeAndInfo => (none, sibTypeAndInfo.foldl hearSib a)
  | .other => (none, a)

end LteSib6And7DowngradeAnalyzer

/-! ## Priorities in a multiset of blocks -/

namespace SibTypeAndInfo

/-- The priorities of LTE neighbours in a block. -/
def ltePriorities : SibTypeAndInfo → Multiset Nat
  | sib3 servingPriority => {servingPriority}
  | sib5 interFreqPriorities => ↑(interFreqPriorities.filterMap id)
  | _ => 0

/-- The priorities of older networks in a block. -/
def legacyPriorities : SibTypeAndInfo → Multiset Nat
  | sib6 utraFddPriorities utraTddPriorities =>
    ↑((utraFddPriorities.getD []).filterMap id) + ↑((utraTddPriorities.getD []).filterMap id)
  | sib7 geranPriorities => ↑((geranPriorities.getD []).filterMap id)
  | _ => 0

end SibTypeAndInfo

/-- The blocks in some elements. -/
def SystemElement.sibs : SystemElement → List SibTypeAndInfo
  | systemInformation sibTypeAndInfo => sibTypeAndInfo
  | _ => []

/-- The highest of some priorities, below all of them where there is none. -/
def highest (priorities : Multiset Nat) : WithBot Nat :=
  (priorities.map fun p => WithBot.some p).sup

theorem highest_add (ps qs : Multiset Nat) : highest (ps + qs) = highest ps ⊔ highest qs := by
  rw [highest, Multiset.map_add, Multiset.sup_add]
  rfl

@[simp] theorem highest_zero : highest 0 = ⊥ := rfl

@[simp] theorem highest_singleton (p : Nat) : highest {p} = WithBot.some p := by
  simp [highest]

namespace LteSib6And7DowngradeAnalyzer

/-- What is to be said of a multiset of blocks: nothing unless the highest priority of an older
network is above the highest of an LTE neighbour. -/
def verdict (sibs : Multiset SibTypeAndInfo) : Option Event :=
  let lte := highest (sibs.bind SibTypeAndInfo.ltePriorities)
  let legacy := highest (sibs.bind SibTypeAndInfo.legacyPriorities)
  if lte < legacy then
    if lte = ⊥ then some noLteEvent else some (preferredEvent (legacy.unbotD 0) (lte.unbotD 0))
  else none

/-! ## One block -/

/-- A kept priority in that order. -/
def kept : Option Nat → WithBot Nat
  | none => ⊥
  | some p => WithBot.some p

theorem below_iff (p q : Option Nat) : below p q = true ↔ kept p < kept q := by
  cases p <;> cases q <;> simp [below, kept]

theorem kept_raise (priority : Option Nat) (p : Nat) :
    kept (raise priority p) = kept priority ⊔ WithBot.some p := by
  have hp : kept (some p) = WithBot.some p := rfl
  unfold raise
  split
  · next h =>
    rw [below_iff, hp] at h
    rw [hp, sup_eq_right.2 h.le]
  · next h =>
    rw [below_iff, hp, not_lt] at h
    rw [sup_eq_left.2 h]

theorem kept_raiseAll (priority : Option Nat) (neighbours : List (Option Nat)) :
    kept (raiseAll priority neighbours) =
      kept priority ⊔ highest ↑(neighbours.filterMap id) := by
  induction neighbours generalizing priority with
  | nil => simp [raiseAll]
  | cons neighbour neighbours ih =>
    cases neighbour with
    | none => exact ih priority
    | some p =>
      have hcons : (↑((some p :: neighbours).filterMap id) : Multiset Nat) =
          {p} + ↑(neighbours.filterMap id) := rfl
      rw [hcons, highest_add, highest_singleton, ← sup_assoc, ← kept_raise]
      exact ih (raise priority p)

/-- A block raises what is kept to its priorities. -/
theorem hearSib_ltePriority (a : LteSib6And7DowngradeAnalyzer) (sib : SibTypeAndInfo) :
    kept (a.hearSib sib).ltePriority = kept a.ltePriority ⊔ highest sib.ltePriorities := by
  cases sib with
  | sib3 servingPriority =>
    rw [SibTypeAndInfo.ltePriorities, highest_singleton]
    exact kept_raise _ _
  | sib5 interFreqPriorities => exact kept_raiseAll _ _
  | sib6 | sib7 | other => exact (sup_bot_eq _).symm

theorem hearSib_legacyPriority (a : LteSib6And7DowngradeAnalyzer) (sib : SibTypeAndInfo) :
    kept (a.hearSib sib).legacyPriority = kept a.legacyPriority ⊔ highest sib.legacyPriorities := by
  cases sib with
  | sib6 utraFddPriorities utraTddPriorities =>
    rw [SibTypeAndInfo.legacyPriorities, highest_add, ← sup_assoc, ← kept_raiseAll]
    exact kept_raiseAll _ _
  | sib7 geranPriorities => exact kept_raiseAll _ _
  | sib3 | sib5 | other => exact (sup_bot_eq _).symm

/-! ## All blocks since the first -/

/-- The blocks in some elements, in whatever order. -/
def sibsIn (elements : List SystemElement) : Multiset SibTypeAndInfo :=
  ↑(elements.flatMap SystemElement.sibs)

/-- The detector has kept the highest priorities of some blocks. -/
structure Keeps (sibs : Multiset SibTypeAndInfo) (a : LteSib6And7DowngradeAnalyzer) : Prop where
  lte : kept a.ltePriority = highest (sibs.bind SibTypeAndInfo.ltePriorities)
  legacy : kept a.legacyPriority = highest (sibs.bind SibTypeAndInfo.legacyPriorities)

variable {a : LteSib6And7DowngradeAnalyzer} {sibs : Multiset SibTypeAndInfo}

theorem keeps_new : Keeps 0 new := ⟨rfl, rfl⟩

theorem Keeps.hearSib (h : Keeps sibs a) (sib : SibTypeAndInfo) :
    Keeps (sib ::ₘ sibs) (a.hearSib sib) where
  lte := by rw [hearSib_ltePriority, h.lte, Multiset.cons_bind, highest_add, sup_comm]
  legacy := by rw [hearSib_legacyPriority, h.legacy, Multiset.cons_bind, highest_add, sup_comm]

theorem Keeps.foldl (h : Keeps sibs a) (heard : List SibTypeAndInfo) :
    Keeps (↑heard + sibs) (heard.foldl LteSib6And7DowngradeAnalyzer.hearSib a) := by
  induction heard generalizing sibs a with
  | nil => simpa using h
  | cons sib heard ih =>
    have hrest := ih (h.hearSib sib)
    rwa [Multiset.add_cons, ← Multiset.cons_add] at hrest

theorem Keeps.analyze (h : Keeps sibs a) {element : SystemElement}
    (helement : element ≠ .systemInformationBlockType1) :
    Keeps (↑element.sibs + sibs) (a.analyzeInformationElement element).2 := by
  cases element with
  | systemInformationBlockType1 => exact absurd rfl helement
  | systemInformation sibTypeAndInfo => exact h.foldl sibTypeAndInfo
  | other => simpa [SystemElement.sibs, analyzeInformationElement] using h

/-- From a first block on, the detector keeps the highest priorities of the blocks since. -/
theorem kept_since (h : Keeps sibs a) {since : List SystemElement}
    (hsince : SystemElement.systemInformationBlockType1 ∉ since) :
    Keeps (sibsIn since + sibs) (Mealy.after analyzeInformationElement a since) := by
  induction since generalizing sibs a with
  | nil => simpa [sibsIn] using h
  | cons element since ih =>
    obtain ⟨helement, hsince⟩ := not_or.1 (List.mem_cons.not.1 hsince)
    have hrest := ih (h.analyze (Ne.symm helement)) hsince
    have hcons : sibsIn (element :: since) = ↑element.sibs + sibsIn since := by
      rw [sibsIn, List.flatMap_cons, ← Multiset.coe_add]
      rfl
    rw [hcons, add_comm (↑element.sibs : Multiset SibTypeAndInfo), add_assoc]
    exact hrest

/-- What is said at a first block is the verdict on what is kept. -/
theorem flag_eq_verdict (h : Keeps sibs a) : a.flag = verdict sibs := by
  unfold flag verdict
  simp only [← h.lte, ← h.legacy]
  cases hlte : a.ltePriority with
  | none => cases hlegacy : a.legacyPriority <;> simp [below, kept]
  | some p =>
    cases hlegacy : a.legacyPriority with
    | none => simp [below, kept]
    | some q => simp [below, kept]

/-- There is a verdict exactly where an older network is preferred. -/
theorem verdict_isSome (sibs : Multiset SibTypeAndInfo) :
    (verdict sibs).isSome = true ↔ highest (sibs.bind SibTypeAndInfo.ltePriorities) <
      highest (sibs.bind SibTypeAndInfo.legacyPriorities) := by
  unfold verdict
  simp only
  split
  · next h =>
    refine iff_of_true ?_ h
    split <;> rfl
  · next h => exact iff_of_false nofun h

/-- A first block leaves the detector as it began. -/
theorem after_first {before : List SystemElement}
    (h : before = [] ∨ before.getLast? = some .systemInformationBlockType1) :
    Mealy.after analyzeInformationElement new before = new := by
  rcases h with rfl | h
  · rfl
  · obtain ⟨before, rfl⟩ := List.getLast?_eq_some_iff.1 h
    rw [Mealy.after_append]
    rfl

/-- **What is said at a first system information block depends only on the multiset of blocks since
the one before**, or since the beginning: it is the verdict on them, and there is one exactly where
the highest priority of an older network is above the highest of an LTE neighbour. -/
theorem verdict_since (before since : List SystemElement)
    (hbefore : before = [] ∨ before.getLast? = some .systemInformationBlockType1)
    (hsince : SystemElement.systemInformationBlockType1 ∉ since) :
    ((Mealy.after analyzeInformationElement new (before ++ since)).analyzeInformationElement
        .systemInformationBlockType1).1 = verdict (sibsIn since) ∧
      ((verdict (sibsIn since)).isSome = true ↔
        highest ((sibsIn since).bind SibTypeAndInfo.ltePriorities) <
          highest ((sibsIn since).bind SibTypeAndInfo.legacyPriorities)) := by
  refine ⟨?_, verdict_isSome _⟩
  rw [Mealy.after_append, after_first hbefore]
  have hkeeps := kept_since keeps_new hsince
  rw [add_zero] at hkeeps
  exact flag_eq_verdict hkeeps

/-- An older network at priority 7 over LTE neighbours at 3 and 5, heard before them. -/
theorem verdict_since_preferred :
    ((Mealy.after analyzeInformationElement new
        [.systemInformationBlockType1, .systemInformation [.sib7 (some [some 7, none])],
          .systemInformation [.sib3 3, .sib5 [some 5, none]]]).analyzeInformationElement
        .systemInformationBlockType1).1 = some (preferredEvent 7 5) :=
  (verdict_since [.systemInformationBlockType1]
    [.systemInformation [.sib7 (some [some 7, none])],
      .systemInformation [.sib3 3, .sib5 [some 5, none]]] (.inr rfl) (by decide)).1.trans rfl

end LteSib6And7DowngradeAnalyzer

end Rayhunter
