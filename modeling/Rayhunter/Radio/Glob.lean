import Mathlib.Data.List.TakeWhile

/-!
# Patterns for names

`glob_match` (`radio/src/glob.rs`): two positions, in the pattern and in the input, and where to go
back to, the last `*` and the place in the input it stands at. What a pattern is for is said by
`GlobMatch`. The loop finds no match that is not one (`globMatch_sound`), and it finds the least
text of a pattern (`globMatch_least`), the one in which every `*` is nothing.

It does not find every match: before it asks whether the pattern has a `*`, it asks whether it has
the same letter as the input, and a `*` of the input is the same as one of the pattern. What it
finds are the matches in which such a star is that one letter (`globMatch_iff_plain`), which are all
there are where the input has no stars (`globMatch_correct`).
-/

namespace Rayhunter

/-- The text matches the pattern. -/
inductive GlobMatch : List Char → List Char → Prop
  | nil : GlobMatch [] []
  | run {p s : List Char} (t : List Char) : GlobMatch p s → GlobMatch ('*' :: p) (t ++ s)
  | one {p s : List Char} (c : Char) : GlobMatch p s → GlobMatch ('?' :: p) (c :: s)
  | same {p s : List Char} (c : Char) (hc : c ≠ '*' ∧ c ≠ '?') :
    GlobMatch p s → GlobMatch (c :: p) (c :: s)

/-- The loop of `glob_match` (`glob.rs:27`): where in the pattern it ends, unless it finds that
there is no match. Going back only ever moves on in the input. -/
def globLoop (p s : List Char) (pi si : Nat) (star : Option Nat) (resume : Nat)
    (h : resume ≤ si) : Option Nat :=
  if hs : si < s.length then
    if p[pi]? = some '?' ∨ p[pi]? = some s[si] then
      globLoop p s (pi + 1) (si + 1) star resume (Nat.le_succ_of_le h)
    else if p[pi]? = some '*' then globLoop p s (pi + 1) si (some pi) si (Nat.le_refl si)
    else
      match star with
      | some sp => globLoop p s (sp + 1) (resume + 1) star (resume + 1) (Nat.le_refl _)
      | none => none
  else some pi
termination_by (s.length - resume, (p.length - pi) + (s.length - si))
decreasing_by
  · exact Prod.Lex.right _ (by omega)
  · next hstar =>
    have hpi : pi < p.length := (List.getElem?_eq_some_iff.mp hstar).1
    rcases Nat.eq_or_lt_of_le h with rfl | hlt
    · exact Prod.Lex.right _ (by omega)
    · exact Prod.Lex.left _ _ (by omega)
  · exact Prod.Lex.left _ _ (by omega)

/-- `glob_match` (`glob.rs:20`). -/
def globMatch (pattern input : String) : Bool :=
  match globLoop pattern.toList input.toList 0 0 none 0 (Nat.le_refl 0) with
  | some pi => (pattern.toList.drop pi).dropWhile (· = '*') = []
  | none => false

-- patterns of the source's tests
example : globMatch "Flock?afety*" "FlockSafety-1234" = true := by simp [globMatch, globLoop]
example : globMatch "Flock?" "Flock" = false := by simp [globMatch, globLoop]

/-! ## What the loop finds -/

namespace GlobMatch

theorem append {p q s t : List Char} (h : GlobMatch p s) (h' : GlobMatch q t) :
    GlobMatch (p ++ q) (s ++ t) := by
  induction h with
  | nil => exact h'
  | run u _ ih =>
    rw [List.append_assoc]
    exact .run u ih
  | one c _ ih => exact .one c ih
  | same c hc _ ih => exact .same c hc ih

theorem star (s : List Char) : GlobMatch ['*'] s := List.append_nil s ▸ .run s .nil

end GlobMatch

/-- The pattern up to a place matches the input up to one. -/
def MatchesUpTo (p s : List Char) (pi si : Nat) : Prop := GlobMatch (p.take pi) (s.take si)

namespace MatchesUpTo

variable {p s : List Char} {pi si : Nat}

theorem matched {c : Char} (h : MatchesUpTo p s pi si) (hs : s[si]? = some c)
    (hp : p[pi]? = some '?' ∨ p[pi]? = some c) : MatchesUpTo p s (pi + 1) (si + 1) := by
  unfold MatchesUpTo at h ⊢
  rw [List.take_add_one, List.take_add_one, hs]
  refine h.append ?_
  rcases hp with hp | hp
  · rw [hp]
    exact .one c .nil
  · rw [hp]
    by_cases hstar : c = '*'
    · exact hstar ▸ .star _
    · by_cases hone : c = '?'
      · exact hone ▸ .one _ .nil
      · exact .same c ⟨hstar, hone⟩ .nil

/-- A star takes as much of the input as it is given. -/
theorem starred (h : MatchesUpTo p s pi si) (hp : p[pi]? = some '*') {n : Nat} (hn : si ≤ n) :
    MatchesUpTo p s (pi + 1) n := by
  unfold MatchesUpTo at h ⊢
  obtain ⟨m, rfl⟩ := Nat.exists_eq_add_of_le hn
  rw [List.take_add_one, List.take_add, hp]
  exact h.append (.star _)

/-- Stars at the end of the pattern need no input. -/
theorem whole (h : MatchesUpTo p s pi s.length) (hp : (p.drop pi).dropWhile (· = '*') = []) :
    GlobMatch p s := by
  have hrest : ∀ q : List Char, q.dropWhile (· = '*') = [] → GlobMatch q [] := by
    intro q hq
    induction q with
    | nil => exact .nil
    | cons c q ih =>
      rw [List.dropWhile_cons] at hq
      split at hq
      · next hc =>
        rw [of_decide_eq_true hc]
        exact .run [] (ih hq)
      · cases hq
  unfold MatchesUpTo at h
  rw [List.take_length] at h
  have := h.append (hrest _ hp)
  rwa [List.take_append_drop, List.append_nil] at this

end MatchesUpTo

/-- What the loop knows of the last star: up to it, the pattern matched some of the input. -/
def StarKnown (p s : List Char) (star : Option Nat) (resume : Nat) : Prop :=
  ∀ sp, star = some sp → p[sp]? = some '*' ∧ ∃ k ≤ resume, MatchesUpTo p s sp k

/-- Where the loop ends, the pattern so far matches the input. -/
theorem globLoop_sound {p s : List Char} {pi si : Nat} {star : Option Nat} {resume : Nat}
    {h : resume ≤ si} (hsi : si ≤ s.length) (hmatch : MatchesUpTo p s pi si)
    (hstar : StarKnown p s star resume) {pi' : Nat}
    (hrun : globLoop p s pi si star resume h = some pi') : MatchesUpTo p s pi' s.length := by
  fun_induction globLoop p s pi si star resume h with
  | case1 pi si star resume h hs hp ih =>
    exact ih hs (hmatch.matched (List.getElem?_eq_getElem hs) hp) hstar hrun
  | case2 pi si star resume h hs _ hp ih =>
    refine ih hsi (hmatch.starred hp (Nat.le_refl _)) ?_ hrun
    rintro sp ⟨⟩
    exact ⟨hp, si, Nat.le_refl _, hmatch⟩
  | case3 pi si resume h hs _ _ sp ih =>
    obtain ⟨hp, k, hk, hmatch⟩ := hstar sp rfl
    refine ih (by omega) (hmatch.starred hp (Nat.le_succ_of_le hk)) ?_ hrun
    rintro _ ⟨⟩
    exact ⟨hp, k, Nat.le_succ_of_le hk, hmatch⟩
  | case4 => cases hrun
  | case5 pi si star resume h hs =>
    cases hrun
    rwa [Nat.le_antisymm hsi (Nat.le_of_not_lt hs)] at hmatch

/-- What is said to match does. -/
theorem globMatch_sound {pattern input : String} (h : globMatch pattern input = true) :
    GlobMatch pattern.toList input.toList := by
  unfold globMatch at h
  split at h
  · next hrun =>
    refine (globLoop_sound (Nat.zero_le _) ?_ ?_ hrun).whole (of_decide_eq_true h)
    · exact .nil
    · rintro _ ⟨⟩
  · cases h

/-! ## The least text of a pattern -/

/-- The text of a pattern in which every star is nothing and every `?` is one letter. -/
def least (p : List Char) : List Char :=
  (p.filter (· ≠ '*')).map fun c => if c = '?' then 'a' else c

theorem least_cons (c : Char) (p : List Char) :
    least (c :: p) = if c = '*' then least p else (if c = '?' then 'a' else c) :: least p := by
  unfold least
  by_cases hc : c = '*' <;> simp [hc]

/-- What stands in the pattern at the next letter of its least text. -/
theorem least_drop {p : List Char} {pi : Nat} {c : Char} {rest : List Char}
    (h : least (p.drop pi) = c :: rest) :
    c ≠ '*' ∧ (p[pi]? = some '*' ∧ least (p.drop (pi + 1)) = c :: rest ∨
      (p[pi]? = some '?' ∨ p[pi]? = some c) ∧ least (p.drop (pi + 1)) = rest) := by
  have hc : c ≠ '*' := by
    have hmem : c ∈ least (p.drop pi) := h ▸ List.mem_cons_self ..
    obtain ⟨d, hd, hdc⟩ := List.mem_map.mp hmem
    have hd' : d ≠ '*' := of_decide_eq_true (List.mem_filter.mp hd).2
    split at hdc
    · rw [← hdc]
      decide
    · rwa [← hdc]
  refine ⟨hc, ?_⟩
  rw [← List.head?_drop, ← List.tail_drop]
  generalize p.drop pi = q at h ⊢
  cases q with
  | nil => cases h
  | cons d q =>
    rw [least_cons] at h
    split at h
    · next hd => exact .inl ⟨congrArg some hd, h⟩
    · obtain ⟨hdc, hrest⟩ := List.cons_eq_cons.mp h
      refine .inr ⟨?_, hrest⟩
      split at hdc
      · next hd => exact .inl (congrArg some hd)
      · exact .inr (congrArg some hdc)

theorem globLoop_least {p s : List Char} {pi si : Nat} {star : Option Nat} {resume : Nat}
    {h : resume ≤ si} (hrest : s.drop si = least (p.drop pi)) :
    ∃ pi', globLoop p s pi si star resume h = some pi' ∧
      (p.drop pi').dropWhile (· = '*') = [] := by
  fun_induction globLoop p s pi si star resume h with
  | case1 pi si star resume h hs hp ih =>
    rw [List.drop_eq_getElem_cons hs] at hrest
    obtain ⟨hc, ⟨hstar, -⟩ | ⟨-, hrest'⟩⟩ := least_drop hrest.symm
    · rw [hstar] at hp
      simp [hc.symm] at hp
    · exact ih hrest'.symm
  | case2 pi si star resume h hs hp hstar ih =>
    rw [List.drop_eq_getElem_cons hs] at hrest
    obtain ⟨-, ⟨-, hrest'⟩ | ⟨hp', -⟩⟩ := least_drop hrest.symm
    · exact ih (by rw [List.drop_eq_getElem_cons hs, hrest'])
    · exact absurd hp' hp
  | case3 pi si resume h hs hp hstar sp ih =>
    rw [List.drop_eq_getElem_cons hs] at hrest
    obtain ⟨-, ⟨hstar', -⟩ | ⟨hp', -⟩⟩ := least_drop hrest.symm
    · exact absurd hstar' hstar
    · exact absurd hp' hp
  | case4 pi si resume h hs hp hstar =>
    rw [List.drop_eq_getElem_cons hs] at hrest
    obtain ⟨-, ⟨hstar', -⟩ | ⟨hp', -⟩⟩ := least_drop hrest.symm
    · exact absurd hstar' hstar
    · exact absurd hp' hp
  | case5 pi si star resume h hs =>
    refine ⟨pi, rfl, ?_⟩
    rw [List.drop_eq_nil_of_le (Nat.le_of_not_lt hs)] at hrest
    rw [List.dropWhile_eq_nil_iff]
    intro c hc
    have hfilter : (p.drop pi).filter (· ≠ '*') = [] := List.map_eq_nil_iff.mp hrest.symm
    simpa using List.filter_eq_nil_iff.mp hfilter c hc

/-- A pattern matches its least text. -/
theorem globMatch_least (pattern : String) :
    globMatch pattern (String.ofList (least pattern.toList)) = true := by
  have hstart : (least pattern.toList).drop 0 = least (pattern.toList.drop 0) := rfl
  obtain ⟨pi, hrun, hrest⟩ := @globLoop_least _ _ _ _ none _ (Nat.le_refl 0) hstart
  simp [globMatch, hrun, hrest]

/-! ## What the loop misses -/

/-- The text matches the pattern, and a star of the pattern that stands at a star of the text is
that star alone. A star may be nothing only where the text goes on otherwise than with a star. -/
inductive PlainMatch : List Char → List Char → Prop
  | nil : PlainMatch [] []
  | run {p s : List Char} (t : List Char) (ht : (t ++ s).head? ≠ some '*') :
    PlainMatch p s → PlainMatch ('*' :: p) (t ++ s)
  | one {p s : List Char} (c : Char) : PlainMatch p s → PlainMatch ('?' :: p) (c :: s)
  | same {p s : List Char} (c : Char) : PlainMatch p s → PlainMatch (c :: p) (c :: s)

namespace PlainMatch

variable {p s : List Char}

theorem globMatch (h : PlainMatch p s) : GlobMatch p s := by
  induction h with
  | nil => exact .nil
  | run t _ _ ih => exact .run t ih
  | one c _ ih => exact .one c ih
  | same c _ ih =>
    by_cases hstar : c = '*'
    · exact hstar ▸ .run [c] ih
    · by_cases hone : c = '?'
      · exact hone ▸ .one c ih
      · exact .same c ⟨hstar, hone⟩ ih

/-- A text without stars has no other matches. -/
theorem of_notMem (h : GlobMatch p s) (hs : '*' ∉ s) : PlainMatch p s := by
  induction h with
  | nil => exact .nil
  | run t _ ih =>
    refine .run t (fun hhead => hs (List.mem_of_mem_head? hhead)) (ih fun hmem => hs ?_)
    exact List.mem_append_right t hmem
  | one c _ ih => exact .one c (ih fun hmem => hs (List.mem_cons_of_mem c hmem))
  | same c _ _ ih => exact .same c (ih fun hmem => hs (List.mem_cons_of_mem c hmem))

/-- A star is some of the text, if perhaps not any. -/
theorem drop_of_star (h : PlainMatch ('*' :: p) s) : ∃ n, PlainMatch p (s.drop n) := by
  cases h with
  | run t ht h => exact ⟨t.length, by rwa [List.drop_left]⟩
  | same c h => exact ⟨1, h⟩

/-- A star at another letter is as much of the text as there may be. -/
theorem star_iff (hs : s.head? ≠ some '*') :
    PlainMatch ('*' :: p) s ↔ ∃ n, PlainMatch p (s.drop n) := by
  refine ⟨drop_of_star, ?_⟩
  rintro ⟨n, h⟩
  rw [← List.take_append_drop n s] at hs ⊢
  exact .run _ hs h

/-- What is matched letter for letter is matched in no other way. -/
theorem letter_iff {d c : Char} (h : d = '?' ∨ d = c) :
    PlainMatch (d :: p) (c :: s) ↔ PlainMatch p s := by
  constructor
  · generalize ht : c :: s = t
    intro hm
    cases hm with
    | run u hu hm =>
      rcases h with h | rfl
      · exact absurd h (by decide)
      · exact absurd (ht ▸ rfl) hu
    | one e hm => exact (List.cons.inj ht).2 ▸ hm
    | same e hm => exact (List.cons.inj ht).2 ▸ hm
  · intro hm
    rcases h with rfl | rfl
    · exact .one c hm
    · exact .same d hm

theorem not_letter {d c : Char} (hone : d ≠ '?') (hstar : d ≠ '*') (hc : d ≠ c) :
    ¬ PlainMatch (d :: p) (c :: s) := by
  generalize ht : c :: s = t
  intro h
  cases h with
  | run => exact hstar rfl
  | one => exact hone rfl
  | same => exact hc (List.cons.inj ht).1.symm

theorem nil_right_iff : PlainMatch p [] ↔ p.dropWhile (· = '*') = [] := by
  induction p with
  | nil => exact ⟨fun _ => rfl, fun _ => .nil⟩
  | cons d p ih =>
    by_cases hd : d = '*'
    · rw [hd, star_iff (by decide)]
      simpa using ih
    · have hne : (d :: p).dropWhile (· = '*') ≠ [] := by simp [hd]
      refine ⟨fun h => ?_, fun h => absurd h hne⟩
      generalize ht : ([] : List Char) = t at h
      cases h with
      | run => exact absurd rfl hd
      | one => cases ht
      | same => cases ht

end PlainMatch

/-- Since the star, the pattern has followed the text letter for letter. -/
def Follows (p s : List Char) (sp pi resume si : Nat) : Prop :=
  ∃ k, pi = sp + 1 + k ∧ si = resume + k ∧ ∀ j < k, ∃ c, s[resume + j]? = some c ∧
    (p[sp + 1 + j]? = some '?' ∨ p[sp + 1 + j]? = some c)

/-- Where the star is more of the text than it was, the pattern comes at least as far by the same
place. -/
theorem Follows.advance {p s : List Char} {sp pi resume si n : Nat}
    (h : Follows p s sp pi resume si) (hn : resume ≤ n)
    (hm : PlainMatch (p.drop (sp + 1)) (s.drop n)) :
    ∃ m, si ≤ m ∧ PlainMatch (p.drop pi) (s.drop m) := by
  obtain ⟨k, rfl, rfl, hk⟩ := h
  induction k with
  | zero => exact ⟨n, hn, hm⟩
  | succ k ih =>
    obtain ⟨m, hle, hm⟩ := ih fun j hj => hk j (Nat.lt_succ_of_lt hj)
    obtain ⟨c, hc, hp⟩ := hk k (Nat.lt_succ_self k)
    obtain ⟨d, hd, hdc⟩ : ∃ d, p[sp + 1 + k]? = some d ∧ (d = '?' ∨ d = c) := by
      rcases hp with hp | hp
      · exact ⟨_, hp, .inl rfl⟩
      · exact ⟨_, hp, .inr rfl⟩
    obtain ⟨hlt, hd⟩ := List.getElem?_eq_some_iff.1 hd
    rw [List.drop_eq_getElem_cons hlt, hd] at hm
    generalize ht : s.drop m = t at hm
    have hnext : ∀ (x : Char) (rest : List Char), t = x :: rest → rest = s.drop (m + 1) := by
      rintro x rest rfl
      rw [← List.tail_drop, ht]
      rfl
    cases hm with
    | run u hu hm =>
      refine ⟨m + u.length, ?_, ?_⟩
      · -- Where it stood before, the text goes on with a star, and this star is not nothing.
        rcases Nat.eq_or_lt_of_le hle with heq | hlt'
        · have hstar : c = '*' := by
            rcases hdc with hdc | hdc
            · exact absurd hdc (by decide)
            · exact hdc.symm
          rw [← ht, ← heq, List.head?_drop, hc, hstar] at hu
          exact absurd rfl hu
        · omega
      · rwa [← @List.drop_drop _ u.length m s, ht, List.drop_left]
    | one x hm => exact ⟨m + 1, by omega, hnext x _ rfl ▸ hm⟩
    | same x hm => exact ⟨m + 1, by omega, hnext _ _ rfl ▸ hm⟩

/-- At a letter that it does not have, and no star, the pattern matches nothing. -/
theorem not_plainMatch_drop {p s : List Char} {pi si : Nat} (hs : si < s.length)
    (hp : ¬ (p[pi]? = some '?' ∨ p[pi]? = some s[si])) (hstar : p[pi]? ≠ some '*') :
    ¬ PlainMatch (p.drop pi) (s.drop si) := by
  rw [List.drop_eq_getElem_cons hs]
  by_cases hlt : pi < p.length
  · rw [List.drop_eq_getElem_cons hlt]
    rw [List.getElem?_eq_getElem hlt] at hp hstar
    simp only [Option.some.injEq, not_or] at hp
    exact PlainMatch.not_letter hp.1 (fun h => hstar (congrArg some h)) hp.2
  · rw [List.drop_eq_nil_of_le (Nat.le_of_not_lt hlt)]
    intro h
    cases h

/-- The loop finds a match from where it is, or with more of the text for the last star. -/
theorem globLoop_iff {p s : List Char} {pi si : Nat} {star : Option Nat} {resume : Nat}
    {h : resume ≤ si} (hstar : ∀ sp, star = some sp → Follows p s sp pi resume si) :
    (∃ pi', globLoop p s pi si star resume h = some pi' ∧
      (p.drop pi').dropWhile (· = '*') = []) ↔
    PlainMatch (p.drop pi) (s.drop si) ∨
      ∃ sp, star = some sp ∧ ∃ n, resume < n ∧ PlainMatch (p.drop (sp + 1)) (s.drop n) := by
  fun_induction globLoop p s pi si star resume h with
  | case1 pi si star resume h hs hp ih =>
    obtain ⟨d, hd, hdc⟩ : ∃ d, p[pi]? = some d ∧ (d = '?' ∨ d = s[si]) := by
      rcases hp with hp | hp
      · exact ⟨_, hp, .inl rfl⟩
      · exact ⟨_, hp, .inr rfl⟩
    obtain ⟨hlt, rfl⟩ := List.getElem?_eq_some_iff.1 hd
    rw [ih, List.drop_eq_getElem_cons hlt, List.drop_eq_getElem_cons hs, PlainMatch.letter_iff hdc]
    intro sp hsp
    obtain ⟨k, rfl, rfl, hk⟩ := hstar sp hsp
    refine ⟨k + 1, rfl, rfl, fun j hj => ?_⟩
    rcases Nat.lt_succ_iff_lt_or_eq.1 hj with hj | rfl
    · exact hk j hj
    · exact ⟨_, List.getElem?_eq_getElem hs, hp⟩
  | case2 pi si star resume h hs hp hpi ih =>
    obtain ⟨hlt, hpi'⟩ := List.getElem?_eq_some_iff.1 hpi
    have hhead : (s.drop si).head? ≠ some '*' := by
      rw [List.head?_drop, List.getElem?_eq_getElem hs]
      intro heq
      exact hp (.inr (hpi.trans heq.symm))
    have hsplit : PlainMatch (p.drop pi) (s.drop si) ↔
        ∃ n, PlainMatch (p.drop (pi + 1)) (s.drop (si + n)) := by
      rw [List.drop_eq_getElem_cons hlt, hpi', PlainMatch.star_iff hhead]
      simp only [List.drop_drop]
    rw [ih]
    · constructor
      · rintro (hm | ⟨_, ⟨⟩, n, hn, hm⟩)
        · exact .inl (hsplit.2 ⟨0, hm⟩)
        · obtain ⟨j, rfl⟩ := Nat.exists_eq_add_of_le (Nat.le_of_lt hn)
          exact .inl (hsplit.2 ⟨j, hm⟩)
      · rintro (hm | ⟨sp, hsp, n, hn, hm⟩)
        · obtain ⟨n, hm⟩ := hsplit.1 hm
          cases n with
          | zero => exact .inl hm
          | succ n => exact .inr ⟨pi, rfl, si + (n + 1), by omega, hm⟩
        · -- What the star before would find, this one finds.
          obtain ⟨m, hle, hm⟩ := (hstar sp hsp).advance (Nat.le_of_lt hn) hm
          rw [List.drop_eq_getElem_cons hlt, hpi'] at hm
          obtain ⟨j, hm⟩ := hm.drop_of_star
          rw [List.drop_drop] at hm
          rcases Nat.eq_or_lt_of_le (Nat.le_add_right_of_le hle) with heq | hlt'
          · exact .inl (heq ▸ hm)
          · exact .inr ⟨pi, rfl, m + j, hlt', hm⟩
    · rintro _ ⟨⟩
      exact ⟨0, rfl, rfl, fun j hj => absurd hj (Nat.not_lt_zero j)⟩
  | case3 pi si resume h hs hp hpi sp ih =>
    rw [ih]
    · constructor
      · rintro (hm | ⟨_, ⟨⟩, n, hn, hm⟩)
        · exact .inr ⟨sp, rfl, resume + 1, Nat.lt_succ_self _, hm⟩
        · exact .inr ⟨sp, rfl, n, Nat.lt_of_succ_lt hn, hm⟩
      · rintro (hm | ⟨_, ⟨⟩, n, hn, hm⟩)
        · exact absurd hm (not_plainMatch_drop hs hp hpi)
        · rcases Nat.eq_or_lt_of_le (Nat.succ_le_of_lt hn) with rfl | hlt
          · exact .inl hm
          · exact .inr ⟨sp, rfl, n, hlt, hm⟩
    · rintro _ ⟨⟩
      exact ⟨0, rfl, rfl, fun j hj => absurd hj (Nat.not_lt_zero j)⟩
  | case4 pi si resume h hs hp hpi =>
    constructor
    · rintro ⟨_, ⟨⟩, _⟩
    · rintro (hm | ⟨_, ⟨⟩, _⟩)
      exact absurd hm (not_plainMatch_drop hs hp hpi)
  | case5 pi si star resume h hs =>
    have hend : ∀ m, si ≤ m → s.drop m = [] := fun m hm =>
      List.drop_eq_nil_of_le ((Nat.le_of_not_lt hs).trans hm)
    have hrest : (∃ pi', some pi = some pi' ∧ (p.drop pi').dropWhile (· = '*') = []) ↔
        PlainMatch (p.drop pi) [] := by
      rw [PlainMatch.nil_right_iff]
      simp
    rw [hrest, hend si (Nat.le_refl _)]
    refine ⟨.inl, ?_⟩
    rintro (hm | ⟨sp, hsp, n, hn, hm⟩)
    · exact hm
    · obtain ⟨m, hle, hm⟩ := (hstar sp hsp).advance (Nat.le_of_lt hn) hm
      rwa [hend m hle] at hm

/-- What the loop finds are the plain matches. -/
theorem globMatch_iff_plain (pattern input : String) :
    globMatch pattern input = true ↔ PlainMatch pattern.toList input.toList := by
  have hloop := @globLoop_iff pattern.toList input.toList 0 0 none 0 (Nat.le_refl 0)
    (fun _ hsp => by cases hsp)
  rw [List.drop_zero, List.drop_zero] at hloop
  refine Iff.trans ?_ (hloop.trans ⟨fun h => ?_, .inl⟩)
  · unfold globMatch
    split
    · next pi hrun =>
      rw [hrun]
      simp
    · next hrun =>
      rw [hrun]
      simp
  · rcases h with h | ⟨_, ⟨⟩, _⟩
    exact h

/-- **`glob_match` says whether the input matches** exactly where an input that matches does so with
every star that stands at a star being that star alone. -/
theorem globMatch_correct_iff (pattern input : String) :
    (globMatch pattern input = true ↔ GlobMatch pattern.toList input.toList) ↔
      (GlobMatch pattern.toList input.toList → PlainMatch pattern.toList input.toList) := by
  rw [globMatch_iff_plain]
  exact ⟨fun h => h.2, fun h => ⟨PlainMatch.globMatch, h⟩⟩

/-- It does so for every input without stars. -/
theorem globMatch_correct {pattern input : String} (h : '*' ∉ input.toList) :
    globMatch pattern input = true ↔ GlobMatch pattern.toList input.toList := by
  rw [globMatch_iff_plain]
  exact ⟨PlainMatch.globMatch, fun hm => .of_notMem hm h⟩

/-- A star alone does not match a text that begins with one. -/
theorem globMatch_star_missed : ¬ ∀ pattern input : String,
    globMatch pattern input = true ↔ GlobMatch pattern.toList input.toList := by
  intro h
  have hfound : globMatch "*" "*a" = true := (h "*" "*a").2 (.star _)
  simp [globMatch, globLoop] at hfound

end Rayhunter
