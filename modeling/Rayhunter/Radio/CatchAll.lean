import Rayhunter.Radio.UserRules

/-!
# Patterns for every network

What `validate_criterion` (`radio/src/userrules.rs`) refuses of a pattern as matching everything is
one of stars alone. A pattern matches every name where it has wildcards only, a star among them and
no more than one question mark (`matchesEveryName_iff`); so one with a single question mark next to
its stars is taken, and it should not be (`validateCriterion_ssidGlob_iff`).
-/

namespace Rayhunter

/-- The pattern matches the name of every network that has one. -/
def MatchesEveryName (pattern : String) : Prop :=
  ∀ bytes : List UInt8, bytes ≠ [] →
    GlobMatch pattern.toList (Ssid.fromBytes bytes).display.toList

/-- How many wildcards a pattern has (`userrules.rs:289`). -/
def wildcards (pattern : String) : Nat :=
  (pattern.toList.filter fun c => c == '*' || c == '?').length

/-- A pattern of stars and one question mark. -/
def StarsAndOne (pattern : String) : Prop :=
  (∀ c ∈ pattern.toList, c = '*' ∨ c = '?') ∧ '*' ∈ pattern.toList ∧ pattern.toList.count '?' = 1

namespace GlobMatch

variable {p s : List Char}

/-- A letter of the pattern is one of the text. -/
theorem letter_mem (h : GlobMatch p s) {c : Char} (hc : c ∈ p) : c = '*' ∨ c = '?' ∨ c ∈ s := by
  induction h with
  | nil => cases hc
  | run t _ ih =>
    rcases List.mem_cons.1 hc with rfl | hc
    · exact .inl rfl
    · exact (ih hc).imp_right fun h => h.imp_right fun h => List.mem_append_right t h
  | one d _ ih =>
    rcases List.mem_cons.1 hc with rfl | hc
    · exact .inr (.inl rfl)
    · exact (ih hc).imp_right fun h => h.imp_right fun h => List.mem_cons_of_mem d h
  | same d _ _ ih =>
    rcases List.mem_cons.1 hc with rfl | hc
    · exact .inr (.inr List.mem_cons_self)
    · exact (ih hc).imp_right fun h => h.imp_right fun h => List.mem_cons_of_mem d h

theorem count_one_le (h : GlobMatch p s) : p.count '?' ≤ s.length := by
  induction h with
  | nil => exact Nat.le_refl 0
  | run t _ ih =>
    rw [List.count_cons_of_ne (by decide), List.length_append]
    exact ih.trans (Nat.le_add_left _ _)
  | one d _ ih =>
    rw [List.count_cons_self, List.length_cons]
    exact Nat.succ_le_succ ih
  | same d hd _ ih =>
    rw [List.count_cons_of_ne hd.2, List.length_cons]
    exact ih.trans (Nat.le_succ _)

/-- A pattern without stars is as long as its texts. -/
theorem length_eq (h : GlobMatch p s) (hstar : '*' ∉ p) : p.length = s.length := by
  induction h with
  | nil => rfl
  | run t _ _ => exact absurd List.mem_cons_self hstar
  | one d _ ih | same d _ _ ih =>
    rw [List.length_cons, List.length_cons, ih fun hmem => hstar (List.mem_cons_of_mem _ hmem)]

theorem of_ones (h : ∀ c ∈ p, c = '?') (hlength : p.length = s.length) : GlobMatch p s := by
  induction p generalizing s with
  | nil => exact List.eq_nil_of_length_eq_zero hlength.symm ▸ .nil
  | cons c p ih =>
    obtain ⟨rfl, hp⟩ := List.forall_mem_cons.1 h
    cases s with
    | nil => cases hlength
    | cons d s => exact .one d (ih hp (Nat.succ.inj hlength))

/-- **Wildcards with a star match every text that is no shorter than their question marks are many.** -/
theorem of_wildcards (h : ∀ c ∈ p, c = '*' ∨ c = '?') (hstar : '*' ∈ p)
    (hlength : p.count '?' ≤ s.length) : GlobMatch p s := by
  induction p generalizing s with
  | nil => cases hstar
  | cons c p ih =>
    obtain ⟨hc, hp⟩ := List.forall_mem_cons.1 h
    rcases hc with rfl | rfl
    · rw [List.count_cons_of_ne (by decide)] at hlength
      by_cases hmore : '*' ∈ p
      · exact .run [] (ih hp hmore hlength)
      · -- the last star takes what the question marks after it leave
        have hones : ∀ c ∈ p, c = '?' := fun c hc =>
          (hp c hc).resolve_left fun heq => hmore (heq ▸ hc)
        have hcount : p.count '?' = p.length :=
          List.count_eq_length.2 fun c hc => (hones c hc).symm
        have hsplit := List.take_append_drop (s.length - p.length) s
        rw [← hsplit]
        refine .run _ (of_ones hones ?_)
        rw [List.length_drop]
        omega
    · rw [List.count_cons_self] at hlength
      cases s with
      | nil => cases hlength
      | cons d s =>
        have hmore : '*' ∈ p := (List.mem_cons.1 hstar).resolve_left (by decide)
        exact .one d (ih hp hmore (Nat.le_of_succ_le_succ hlength))

end GlobMatch

/-- **A pattern matches every name where it is wildcards, with a star and at most one question
mark.** -/
theorem matchesEveryName_iff {pattern : String} :
    MatchesEveryName pattern ↔
      (∀ c ∈ pattern.toList, c = '*' ∨ c = '?') ∧ '*' ∈ pattern.toList ∧
        pattern.toList.count '?' ≤ 1 := by
  constructor
  · intro h
    have ha : GlobMatch pattern.toList ['a'] := h [97] (List.cons_ne_nil _ _)
    have hb : GlobMatch pattern.toList ['b'] := h [98] (List.cons_ne_nil _ _)
    have haa : GlobMatch pattern.toList ['a', 'a'] := h [97, 97] (List.cons_ne_nil _ _)
    refine ⟨fun c hc => ?_, ?_, ha.count_one_le⟩
    · rcases ha.letter_mem hc with hstar | hone | hletter
      · exact .inl hstar
      · exact .inr hone
      · rcases hb.letter_mem hc with hstar | hone | hletter'
        · exact .inl hstar
        · exact .inr hone
        · have := (List.mem_singleton.1 hletter).symm.trans (List.mem_singleton.1 hletter')
          cases this
    · by_contra hstar
      cases (ha.length_eq hstar).symm.trans (haa.length_eq hstar)
  · rintro ⟨hwild, hstar, hone⟩ bytes hbytes
    refine .of_wildcards hwild hstar (hone.trans ?_)
    obtain ⟨b, rest, rfl⟩ := List.exists_cons_of_ne_nil hbytes
    rw [Ssid.fromBytes, if_neg hbytes, Ssid.display, String.toList_ofList, List.length_map,
      Ssid.maxLen, List.take_succ_cons, Utf8.lossy, Utf8.lossyFrom, List.length_cons]
    exact Nat.succ_le_succ (Nat.zero_le _)

/-- Within the limits, a pattern is refused as matching everything where it is stars alone. -/
theorem validateCriterion_ssidGlob {pattern : String} (hlength : pattern.length ≤ MAX_PATTERN)
    (hwildcards : wildcards pattern ≤ MAX_WILDCARDS) :
    validateCriterion (.ssidGlob pattern) = .error .matchesEverything ↔
      pattern ≠ "" ∧ ∀ c ∈ pattern.toList, c = '*' := by
  have hfew : ¬MAX_WILDCARDS < (pattern.toList.filter fun c => c == '*' || c == '?').length :=
    Nat.not_lt.2 hwildcards
  simp only [validateCriterion, checkLen, Checks.inTurn, Checks.refuseIf,
    if_neg (Nat.not_lt.2 hlength), if_neg hfew, Checks.andThen]
  have hall : pattern.toList.all (· == '*') = true ↔ ∀ c ∈ pattern.toList, c = '*' := by
    simp only [List.all_eq_true, beq_iff_eq]
  rw [← hall]
  by_cases hempty : pattern = ""
  · simp [hempty]
  · by_cases hstars : pattern.toList.all (· == '*') = true
    · rw [if_neg hempty, if_pos hstars]
      exact iff_of_true rfl ⟨hempty, hstars⟩
    · rw [if_neg hempty, if_neg hstars]
      exact iff_of_false (by simp) fun h => hstars h.2

/-- **A pattern is refused as matching everything where it does**, exactly where it is no pattern of
stars and one question mark. -/
theorem validateCriterion_ssidGlob_iff {pattern : String} (hlength : pattern.length ≤ MAX_PATTERN)
    (hwildcards : wildcards pattern ≤ MAX_WILDCARDS) :
    (validateCriterion (.ssidGlob pattern) = .error .matchesEverything ↔
      MatchesEveryName pattern) ↔ ¬StarsAndOne pattern := by
  rw [validateCriterion_ssidGlob hlength hwildcards, matchesEveryName_iff]
  constructor
  · rintro h ⟨hwild, hstar, hone⟩
    have hstars := (h.2 ⟨hwild, hstar, Nat.le_of_eq hone⟩).2
    have hmem : '?' ∈ pattern.toList := List.count_pos_iff.1 (hone ▸ Nat.one_pos)
    cases hstars '?' hmem
  · intro hnot
    constructor
    · rintro ⟨hne, hstars⟩
      have hcount : pattern.toList.count '?' = 0 :=
        List.count_eq_zero.2 fun hmem => absurd (hstars '?' hmem) (by decide)
      obtain ⟨c, hc⟩ := List.exists_mem_of_ne_nil _ (mt String.toList_eq_nil_iff.1 hne)
      exact ⟨fun c hc => .inl (hstars c hc), hstars c hc ▸ hc, hcount ▸ Nat.zero_le 1⟩
    · rintro ⟨hwild, hstar, hone⟩
      have hnone : pattern.toList.count '?' = 0 := by
        have : pattern.toList.count '?' ≠ 1 := fun heq => hnot ⟨hwild, hstar, heq⟩
        omega
      refine ⟨?_, fun c hc => (hwild c hc).resolve_right ?_⟩
      · rintro rfl
        cases hstar
      · rintro rfl
        exact List.count_eq_zero.1 hnone hc

/-- A pattern of letters is refused by no check, and does not match everything. -/
theorem validateCriterion_ssidGlob_letters :
    validateCriterion (.ssidGlob "Flock*") = .error .matchesEverything ↔
      MatchesEveryName "Flock*" :=
  (validateCriterion_ssidGlob_iff (by decide) (by decide)).2 fun h =>
    absurd h.2.2 (by decide)

/-- A question mark and a star match every name, and are taken. -/
theorem validateCriterion_ssidGlob_taken :
    validateCriterion (.ssidGlob "?*") = .ok () ∧ MatchesEveryName "?*" :=
  ⟨by decide, matchesEveryName_iff.2 ⟨by simp, by decide, by decide⟩⟩

end Rayhunter
