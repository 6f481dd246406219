import Rayhunter.Radio.Coverage

/-!
# The order of a frame's elements

A frame repeats the ids of its elements: the vendors' own all have the same. `vendorOui` asks any of
them, `informationElement` the first with its id (`radio/src/signature.rs:402`), so that what a
prefix says of the others is not asked, and which signatures match is a matter of their order.
-/

namespace Rayhunter

/-- An element of a list is the first with its key in a rearrangement of it that has the keys in the
same places. -/
theorem exists_perm_find? {α κ : Type} [DecidableEq κ] (key : α → κ) {l : List α} {e : α}
    (he : e ∈ l) :
    ∃ l' : List α, l'.Perm l ∧ l'.map key = l.map key ∧ l'.find? (key · == key e) = some e := by
  induction l with
  | nil => cases he
  | cons a l ih =>
    by_cases hkey : key a = key e
    · obtain rfl | hmem := List.mem_cons.1 he
      · exact ⟨_, .refl _, rfl, List.find?_cons_of_pos (beq_self_eq_true _)⟩
      · -- the two change places
        obtain ⟨s, t, rfl⟩ := List.append_of_mem hmem
        refine ⟨e :: (s ++ a :: t), ?_, ?_, List.find?_cons_of_pos (beq_self_eq_true _)⟩
        · calc List.Perm (e :: (s ++ a :: t)) (e :: a :: (s ++ t)) := List.perm_middle.cons e
            List.Perm _ (a :: e :: (s ++ t)) := .swap a e _
            List.Perm _ (a :: (s ++ e :: t)) := List.perm_middle.symm.cons a
        · simp [hkey]
    · have hmem : e ∈ l := (List.mem_cons.1 he).resolve_left fun heq => hkey (heq ▸ rfl)
      obtain ⟨l', hperm, hmap, hfind⟩ := ih hmem
      refine ⟨a :: l', hperm.cons a, by rw [List.map_cons, hmap, List.map_cons], ?_⟩
      rwa [List.find?_cons_of_neg (by simpa using hkey)]

/-- The observation with these elements in place of its own. -/
def WifiObservation.withElements (w : WifiObservation) (l : List InformationElement) :
    WifiObservation :=
  { w with informationElements := l }

section
variable [DebugStr]

/-- The signatures of a database that match. -/
def matching (signatures : List Signature) (payload : ObservationPayload) : List Signature :=
  signatures.filter fun sig => sig.enabled && (sig.detect payload).isSome

/-- They are what `match_observation` reports on. -/
theorem matchObservation_eq (signatures : List Signature) (payload : ObservationPayload) :
    matchObservation signatures payload =
      (matching signatures payload).filterMap (·.detect payload) := by
  unfold matchObservation matching
  induction signatures with
  | nil => rfl
  | cons sig signatures ih =>
    cases henabled : sig.enabled with
    | false => simpa [henabled] using ih
    | true => cases hdetect : sig.detect payload <;> simpa [henabled, hdetect] using ih

theorem mem_matching {signatures : List Signature} {sig : Signature} {w : WifiObservation} :
    sig ∈ matching signatures (.wifi w) ↔
      sig ∈ signatures ∧ sig.enabled = true ∧ sig.technology = .wifi ∧
        ∀ c ∈ sig.conditions, c.MetBy w := by
  rw [matching, List.mem_filter, Bool.and_eq_true]
  refine and_congr_right fun _ => and_congr_right fun _ => ?_
  by_cases htech : sig.technology = .wifi
  · simp only [Signature.isSome_detect htech, isSome_matchWifi, htech, true_and]
  · simp [Signature.detect, ObservationPayload.tech, htech]

/-- That a rearrangement of the elements changes no match of a signature whose fingerprint
conditions it leaves as they are, and that a prefix is asked of every element with the id. -/
structure OrderFree (signatures : List Signature) (w : WifiObservation) : Prop where
  matching_iff : ∀ l, l.Perm w.informationElements → ∀ sig ∈ signatures,
    (∀ ids, .ieIdSequence ids ∈ sig.conditions →
      ((matchWifi (.ieIdSequence ids) (w.withElements l)).isSome = true ↔
        (matchWifi (.ieIdSequence ids) w).isSome = true)) →
    (sig ∈ matching signatures (.wifi (w.withElements l)) ↔ sig ∈ matching signatures (.wifi w))
  prefix_iff : ∀ sig ∈ signatures, ∀ id bytes,
    .informationElement id (some bytes) ∈ sig.conditions →
    ((matchWifi (.informationElement id (some bytes)) w).isSome = true ↔
      ∃ e ∈ w.informationElements, e.id = id ∧ bytes <+: e.data)

end

/-! ## What the order has no part in -/

/-- What a condition asks of an observation whose elements are a bag. -/
def MatchCondition.HeldBy (w : WifiObservation) : MatchCondition → Prop
  | informationElement id pre =>
    ∃ e ∈ w.informationElements, e.id = id ∧ pre.getD [] <+: e.data
  | c => c.MetBy w

/-- Where the first element with an id speaks for the others: a prefix that any of them has it has
too, and where all else that a signature in force asks for is there, they all have its prefix. -/
structure FirstSpeaks (signatures : List Signature) (w : WifiObservation) : Prop where
  first : ∀ sig ∈ signatures, ∀ id bytes, .informationElement id (some bytes) ∈ sig.conditions →
    (∃ e ∈ w.informationElements, e.id = id ∧ bytes <+: e.data) →
    ∃ e, w.informationElements.find? (·.id == id) = some e ∧ bytes <+: e.data
  all : ∀ sig ∈ signatures, sig.enabled = true → sig.technology = .wifi →
    (∀ c ∈ sig.conditions, c.HeldBy w) →
    ∀ id bytes, .informationElement id (some bytes) ∈ sig.conditions →
    ∀ e ∈ w.informationElements, e.id = id → bytes <+: e.data

namespace MatchCondition

variable {w : WifiObservation} {l : List InformationElement}

theorem MetBy.heldBy {c : MatchCondition} (h : c.MetBy w) : c.HeldBy w := by
  cases c with
  | informationElement id pre =>
    obtain ⟨e, hfind, hpre⟩ := h
    exact ⟨e, List.mem_of_find?_eq_some hfind, by simpa using List.find?_some hfind, hpre⟩
  | _ => exact h

/-- A bag has no order, for all but the fingerprints. -/
theorem heldBy_withElements (hperm : l.Perm w.informationElements) {c : MatchCondition}
    (hseq : ∀ ids, c ≠ .ieIdSequence ids) : c.HeldBy (w.withElements l) ↔ c.HeldBy w := by
  cases c with
  | informationElement id pre => exact exists_congr fun e => and_congr_left fun _ => hperm.mem_iff
  | vendorOui oui => exact exists_congr fun e => and_congr_left fun _ => hperm.mem_iff
  | ieIdSequence ids => exact absurd rfl (hseq ids)
  | _ => exact .rfl

/-- Where there is an element with an id, there is a first. -/
theorem exists_find?_of_mem {e : InformationElement} {id : UInt8}
    (he : e ∈ w.informationElements) (hid : e.id = id) :
    ∃ f ∈ w.informationElements, f.id = id ∧
      w.informationElements.find? (·.id == id) = some f := by
  have hsome := (List.find?_isSome (p := (·.id == id))).2 ⟨e, he, by simpa using hid⟩
  obtain ⟨f, hfind⟩ := Option.isSome_iff_exists.1 hsome
  exact ⟨f, List.mem_of_find?_eq_some hfind, by simpa using List.find?_some hfind, hfind⟩

/-- A condition that holds is met, if the first element with an id has the prefixes that any has. -/
theorem MetBy.of_first {conditions : List MatchCondition}
    (hfirst : ∀ id bytes, .informationElement id (some bytes) ∈ conditions →
      (∃ e ∈ w.informationElements, e.id = id ∧ bytes <+: e.data) →
      ∃ e, w.informationElements.find? (·.id == id) = some e ∧ bytes <+: e.data)
    {c : MatchCondition} (hc : c ∈ conditions) (h : c.HeldBy w) : c.MetBy w := by
  cases c with
  | informationElement id pre =>
    cases pre with
    | some bytes => exact hfirst id bytes hc h
    | none =>
      obtain ⟨e, he, hid, -⟩ := h
      obtain ⟨f, -, -, hfind⟩ := exists_find?_of_mem he hid
      exact ⟨f, hfind, List.nil_prefix⟩
  | _ => exact h

end MatchCondition

namespace FirstSpeaks

variable {signatures : List Signature} {w : WifiObservation}

/-- Where all the elements with an id have what is asked of them, whichever comes first has. -/
theorem first_withElements (h : FirstSpeaks signatures w) {sig : Signature}
    (hsig : sig ∈ signatures) (henabled : sig.enabled = true) (htech : sig.technology = .wifi)
    (hheld : ∀ c ∈ sig.conditions, c.HeldBy w) {l : List InformationElement}
    (hperm : l.Perm w.informationElements) (id : UInt8) (bytes : List UInt8)
    (hc : .informationElement id (some bytes) ∈ sig.conditions)
    (hsome : ∃ e ∈ (w.withElements l).informationElements, e.id = id ∧ bytes <+: e.data) :
    ∃ e, (w.withElements l).informationElements.find? (·.id == id) = some e ∧ bytes <+: e.data := by
  obtain ⟨e, he, hid, -⟩ := hsome
  obtain ⟨f, hf, hfid, hfind⟩ := MatchCondition.exists_find?_of_mem he hid
  exact ⟨f, hfind, h.all sig hsig henabled htech hheld id bytes hc f (hperm.mem_iff.1 hf) hfid⟩

/-- A rearrangement that keeps the fingerprints of a signature's keeps what it is met by. -/
theorem forall_metBy_iff (h : FirstSpeaks signatures w) {sig : Signature}
    (hsig : sig ∈ signatures) (henabled : sig.enabled = true) (htech : sig.technology = .wifi)
    {l : List InformationElement} (hperm : l.Perm w.informationElements)
    (hseq : ∀ ids, .ieIdSequence ids ∈ sig.conditions →
      (MatchCondition.MetBy (w.withElements l) (.ieIdSequence ids) ↔
        MatchCondition.MetBy w (.ieIdSequence ids))) :
    (∀ c ∈ sig.conditions, c.MetBy (w.withElements l)) ↔ ∀ c ∈ sig.conditions, c.MetBy w := by
  have hheld : ∀ c ∈ sig.conditions, (c.HeldBy (w.withElements l) ↔ c.HeldBy w) := by
    intro c hc
    by_cases hids : ∃ ids, c = .ieIdSequence ids
    · obtain ⟨ids, rfl⟩ := hids
      exact hseq ids hc
    · exact MatchCondition.heldBy_withElements hperm fun ids heq => hids ⟨ids, heq⟩
  constructor
  · intro hmet c hc
    exact .of_first (h.first sig hsig) hc ((hheld c hc).1 (hmet c hc).heldBy)
  · intro hmet c hc
    have hall : ∀ c ∈ sig.conditions, c.HeldBy w := fun c hc => (hmet c hc).heldBy
    exact .of_first (h.first_withElements hsig henabled htech hall hperm) hc
      ((hheld c hc).2 (hall c hc))

end FirstSpeaks

section
variable [DebugStr] {signatures : List Signature} {w : WifiObservation}

/-- A signature that matches can have any element with an id lead the others. -/
theorem OrderFree.all (h : OrderFree signatures w) {sig : Signature}
    (hmatch : sig ∈ matching signatures (.wifi w)) {id : UInt8} {bytes : List UInt8}
    (hc : .informationElement id (some bytes) ∈ sig.conditions) {e : InformationElement}
    (he : e ∈ w.informationElements) (hid : e.id = id) : bytes <+: e.data := by
  obtain ⟨l, hperm, hids, hfind⟩ := exists_perm_find? InformationElement.id he
  have hseq : ∀ ids, .ieIdSequence ids ∈ sig.conditions →
      ((matchWifi (.ieIdSequence ids) (w.withElements l)).isSome = true ↔
        (matchWifi (.ieIdSequence ids) w).isSome = true) := by
    intro ids _
    rw [isSome_matchWifi, isSome_matchWifi]
    exact Eq.congr_left hids
  have hmatch' := (h.matching_iff l hperm sig (mem_matching.1 hmatch).1 hseq).2 hmatch
  obtain ⟨f, hfirst, hpre⟩ := (mem_matching.1 hmatch').2.2.2 _ hc
  rw [← hid] at hfirst
  cases hfirst.symm.trans hfind
  exact hpre

/-- **The order of the elements plays no part exactly where the first with an id speaks for the
others.** -/
theorem orderFree_iff : OrderFree signatures w ↔ FirstSpeaks signatures w := by
  constructor
  · intro h
    have hfirst : ∀ sig ∈ signatures, ∀ id bytes,
        .informationElement id (some bytes) ∈ sig.conditions →
        (∃ e ∈ w.informationElements, e.id = id ∧ bytes <+: e.data) →
        ∃ e, w.informationElements.find? (·.id == id) = some e ∧ bytes <+: e.data :=
      fun sig hsig id bytes hc hsome =>
        isSome_matchWifi.1 ((h.prefix_iff sig hsig id bytes hc).2 hsome)
    refine ⟨hfirst, fun sig hsig henabled htech hheld id bytes hc e he hid => ?_⟩
    have hmet : ∀ c ∈ sig.conditions, c.MetBy w := fun c hcond =>
      .of_first (hfirst sig hsig) hcond (hheld c hcond)
    exact h.all (mem_matching.2 ⟨hsig, henabled, htech, hmet⟩) hc he hid
  · intro h
    constructor
    · intro l hperm sig hsig hseq
      simp only [isSome_matchWifi] at hseq
      rw [mem_matching, mem_matching]
      exact and_congr_right fun _ => and_congr_right fun henabled => and_congr_right fun htech =>
        h.forall_metBy_iff hsig henabled htech hperm hseq
    · intro sig hsig id bytes hc
      rw [isSome_matchWifi]
      exact ⟨MatchCondition.MetBy.heldBy, h.first sig hsig id bytes hc⟩

end

/-! ## Two elements of vendors -/

/-- What one vendor's frames have, behind another's. -/
def twoVendors : WifiObservation :=
  { informationElements :=
      [⟨InformationElement.vendorSpecific, [0x00, 0x10, 0x18]⟩,
        ⟨InformationElement.vendorSpecific, [0x00, 0x50, 0xf2, 0x04]⟩] }

/-- A prefix that the second of a frame's vendors' elements has is not found, unless it comes
first. -/
theorem orderFree_not_twoVendors :
    ¬ @OrderFree plainDebug
      [ruleOf (.informationElement InformationElement.vendorSpecific (some [0x00, 0x50, 0xf2]))]
      twoVendors := by
  intro h
  have hmet := (@OrderFree.prefix_iff plainDebug _ _ h _ (List.mem_singleton_self _) _ _
    (List.mem_singleton_self _)).2
    ⟨_, List.mem_cons_of_mem _ (List.mem_singleton_self _), rfl, by decide⟩
  cases hmet

end Rayhunter
