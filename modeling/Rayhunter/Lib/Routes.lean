import Mathlib.Logic.Function.Basic

/-!
# Tables of routes

A pattern is a list of segments, each of them a word or a place for any text but the blank one, and
it accepts a list of texts segment by segment. In a table whose patterns are pairwise apart, which
is a matter of the words alone, no two of them accept the same texts, so a look-up from the front
finds whichever of them does (`find?_eq_some_iff`).
-/

namespace Routes

/-- A segment of a pattern. -/
inductive Segment (W : Type*)
  | lit (word : W)
  | param
  deriving DecidableEq, Repr

/-- The texts of words, no two of them the same, and the text that stands for none. -/
structure Vocabulary (W σ : Type*) where
  text : W → σ
  blank : σ
  injective : Function.Injective text

variable {W σ α : Type*}

/-- Whether two segments are different words. -/
def Segment.apart [DecidableEq W] : Segment W → Segment W → Bool
  | .lit w, .lit w' => w ≠ w'
  | _, _ => false

/-- Whether two patterns have different lengths, or different words somewhere. -/
def apart [DecidableEq W] : List (Segment W) → List (Segment W) → Bool
  | [], [] => false
  | p :: ps, q :: qs => p.apart q || apart ps qs
  | _, _ => true

/-- The texts at the places of a pattern. -/
def captures : List (Segment W) → List σ → List σ
  | .lit _ :: ps, _ :: ss => captures ps ss
  | .param :: ps, s :: ss => s :: captures ps ss
  | _, _ => []

namespace Vocabulary

variable [DecidableEq σ] (v : Vocabulary W σ)

/-- Whether a segment accepts a text. -/
def admits : Segment W → σ → Bool
  | .lit w, s => s = v.text w
  | .param, s => s ≠ v.blank

/-- Whether a pattern accepts some texts. -/
def accepts : List (Segment W) → List σ → Bool
  | [], [] => true
  | p :: ps, s :: ss => v.admits p s && accepts ps ss
  | _, _ => false

variable {v} {ps qs : List (Segment W)} {ss : List σ} {ws : List W}

@[simp] theorem accepts_nil : v.accepts [] ss = true ↔ ss = [] := by
  cases ss <;> simp [accepts]

@[simp] theorem accepts_cons {p : Segment W} :
    v.accepts (p :: ps) ss = true ↔
      ∃ s ss', ss = s :: ss' ∧ v.admits p s = true ∧ v.accepts ps ss' = true := by
  cases ss with
  | nil => simp [accepts]
  | cons s ss =>
    rw [accepts, Bool.and_eq_true]
    constructor
    · intro h
      exact ⟨s, ss, rfl, h⟩
    · rintro ⟨_, _, heq, h⟩
      cases heq
      exact h

/-- A pattern of words accepts their texts and nothing else. -/
theorem accepts_lits : v.accepts (ws.map .lit) ss = true ↔ ss = ws.map v.text := by
  induction ws generalizing ss with
  | nil => exact accepts_nil
  | cons w ws ih =>
    rw [List.map_cons, accepts_cons]
    constructor
    · rintro ⟨s, ss', rfl, hs, hss⟩
      rw [of_decide_eq_true hs, ih.1 hss, List.map_cons]
    · rintro rfl
      exact ⟨v.text w, ws.map v.text, rfl, decide_eq_true rfl, ih.2 rfl⟩

/-- A pattern of words with a place at the end accepts their texts with one more. -/
theorem accepts_lits_param :
    v.accepts (ws.map .lit ++ [.param]) ss = true ↔
      ∃ s, s ≠ v.blank ∧ ss = ws.map v.text ++ [s] := by
  induction ws generalizing ss with
  | nil =>
    rw [List.map_nil, List.nil_append, accepts_cons]
    constructor
    · rintro ⟨s, ss', rfl, hs, hss⟩
      exact ⟨s, of_decide_eq_true hs, by rw [accepts_nil.1 hss]; rfl⟩
    · rintro ⟨s, hs, rfl⟩
      exact ⟨s, [], rfl, decide_eq_true hs, accepts_nil.2 rfl⟩
  | cons w ws ih =>
    rw [List.map_cons, List.cons_append, accepts_cons]
    constructor
    · rintro ⟨s, ss', rfl, hs, hss⟩
      obtain ⟨last, hne, rfl⟩ := ih.1 hss
      exact ⟨last, hne, by rw [of_decide_eq_true hs]; rfl⟩
    · rintro ⟨s, hs, rfl⟩
      exact ⟨v.text w, ws.map v.text ++ [s], rfl, decide_eq_true rfl, ih.2 ⟨s, hs, rfl⟩⟩

variable [DecidableEq W]

/-- Patterns that are apart accept nothing in common. -/
theorem not_accepts_of_apart (h : apart ps qs = true) (hp : v.accepts ps ss = true) :
    v.accepts qs ss ≠ true := by
  induction ps generalizing qs ss with
  | nil =>
    obtain rfl := accepts_nil.1 hp
    cases qs with
    | nil => cases h
    | cons q qs => simp
  | cons p ps ih =>
    obtain ⟨s, ss', rfl, hs, hss⟩ := accepts_cons.1 hp
    cases qs with
    | nil => simp
    | cons q qs =>
      intro hq
      obtain ⟨_, _, heq, hs', hss'⟩ := accepts_cons.1 hq
      cases heq
      rcases (Bool.or_eq_true _ _).mp h with h | h
      · cases p with
        | param => cases h
        | lit w =>
          cases q with
          | param => cases h
          | lit w' =>
            have htext := (of_decide_eq_true hs).symm.trans (of_decide_eq_true hs')
            exact of_decide_eq_true h (v.injective htext)
      · exact ih h hss hss'

/-- **A look-up in a table of patterns that are apart** finds the one that accepts the texts. -/
theorem find?_eq_some_iff {table : List α} {pattern : α → List (Segment W)} {r : α}
    (h : table.Pairwise fun r q => apart (pattern r) (pattern q) = true) :
    (table.find? fun q => v.accepts (pattern q) ss) = some r ↔
      r ∈ table ∧ v.accepts (pattern r) ss = true := by
  constructor
  · intro hr
    have hfound := List.find?_some hr
    exact ⟨List.mem_of_find?_eq_some hr, hfound⟩
  · rintro ⟨hmem, hr⟩
    induction table with
    | nil => cases hmem
    | cons q table ih =>
      obtain ⟨hq, htable⟩ := List.pairwise_cons.1 h
      rcases List.mem_cons.1 hmem with rfl | hmem
      · exact List.find?_cons_of_pos hr
      · have hnot : ¬v.accepts (pattern q) ss = true := fun haccepts =>
          not_accepts_of_apart (hq r hmem) haccepts hr
        exact (List.find?_cons_of_neg (p := fun q => v.accepts (pattern q) ss) hnot).trans
          (ih htable hmem)

end Vocabulary

end Routes
