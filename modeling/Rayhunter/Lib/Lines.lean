import Mathlib.Data.List.Infix
import Rayhunter.Lib.Text

/-!
# Reading lines by how they begin

A reader that takes a text line by line, trims each line and looks at how it begins. The lemmas say
what such a reader sees of a text that was written line by line (`trimmed_written`), what trimming
leaves of a line (`trimChars_append`), and where in a line of words another word can be found.
-/

namespace Text

open Chunks

/-- `starts_with`. -/
def startsWith (p : String) (cs : List Char) : Bool := p.toList.isPrefixOf cs

/-- `strip_prefix`. -/
def stripPrefix (p : String) (cs : List Char) : Option (List Char) :=
  if startsWith p cs then some (cs.drop p.toList.length) else none

/-- `contains`. -/
def contains (cs : List Char) (p : String) : Bool := decide (p.toList <:+: cs)

/-- `split_whitespace().next()`. -/
def firstWord (cs : List Char) : Option (List Char) :=
  match (cs.dropWhile isWhitespace).takeWhile (!isWhitespace ·) with
  | [] => none
  | word => some word

/-- What a reader sees that trims every line. -/
def trimmed (s : String) : List (List Char) := (lines s).map fun l => trimChars l.toList

/-- Lines written out, with a line feed after each. -/
def written (ls : List (List Char)) : String := String.ofList (ls.flatMap (· ++ ['\n']))

/-! ## Prefixes -/

theorem startsWith_iff {p : String} {cs : List Char} : startsWith p cs = true ↔ p.toList <+: cs :=
  List.isPrefixOf_iff_prefix

@[simp] theorem startsWith_append (p : String) (cs : List Char) :
    startsWith p (p.toList ++ cs) = true := startsWith_iff.mpr (List.prefix_append _ _)

/-- A line begins with one only of two texts that differ before either ends. -/
theorem not_startsWith {p q : String} {cs : List Char} (h : startsWith p cs = true)
    (hpq : p.toList.isPrefixOf q.toList = false) (hqp : q.toList.isPrefixOf p.toList = false) :
    startsWith q cs = false := by
  rw [Bool.eq_false_iff]
  intro hq
  rcases List.prefix_or_prefix_of_prefix (startsWith_iff.mp h) (startsWith_iff.mp hq) with h | h
  · rw [List.isPrefixOf_iff_prefix.mpr h] at hpq
    cases hpq
  · rw [List.isPrefixOf_iff_prefix.mpr h] at hqp
    cases hqp

/-- What a text begins with is decided by what stands before the rest. -/
theorem startsWith_append_of_not {q : String} {a : List Char}
    (haq : a.isPrefixOf q.toList = false) (hqa : q.toList.isPrefixOf a = false) (cs : List Char) :
    startsWith q (a ++ cs) = false := by
  rw [Bool.eq_false_iff]
  intro hq
  rcases List.prefix_or_prefix_of_prefix (List.prefix_append a cs) (startsWith_iff.mp hq) with h | h
  · rw [List.isPrefixOf_iff_prefix.mpr h] at haq
    cases haq
  · rw [List.isPrefixOf_iff_prefix.mpr h] at hqa
    cases hqa

@[simp] theorem stripPrefix_append (p : String) (cs : List Char) :
    stripPrefix p (p.toList ++ cs) = some cs := by
  rw [stripPrefix, if_pos (startsWith_append p cs), List.drop_left]

@[simp] theorem isSome_stripPrefix (p : String) (cs : List Char) :
    (stripPrefix p cs).isSome = startsWith p cs := by
  unfold stripPrefix
  split <;> simp_all

theorem stripPrefix_eq_none {p : String} {cs : List Char} :
    stripPrefix p cs = none ↔ startsWith p cs = false := by
  rw [← Option.not_isSome_iff_eq_none, isSome_stripPrefix, Bool.not_eq_true]

/-! ## Trimming -/

/-- Trimming a line of which the first and the last character of a part are known: what stands
before that part is white space and goes, what stands after it is trimmed at its end. -/
theorem trimChars_append {pre a post : List Char} {c d : Char}
    (hpre : ∀ x ∈ pre, isWhitespace x = true) (hc : a.head? = some c) (hd : a.getLast? = some d)
    (hcw : isWhitespace c = false) (hdw : isWhitespace d = false) :
    trimChars (pre ++ a ++ post) = a ++ post.rdropWhile isWhitespace := by
  obtain ⟨a', rfl⟩ : ∃ a', a = c :: a' := by
    cases a with
    | nil => cases hc
    | cons x a' => exact ⟨a', by cases hc; rfl⟩
  have hdrop : (pre ++ (c :: a') ++ post).dropWhile isWhitespace = (c :: a') ++ post := by
    rw [List.append_assoc, List.dropWhile_append, List.dropWhile_eq_nil_iff.mpr hpre]
    simp [hcw]
  have hreverse : (c :: a').reverse.dropWhile isWhitespace = (c :: a').reverse := by
    rw [List.getLast?_eq_head?_reverse] at hd
    cases hs : (c :: a').reverse with
    | nil => rfl
    | cons x l => rw [hs] at hd; cases hd; simp [hdw]
  rw [trimChars, hdrop, List.rdropWhile, List.reverse_append, List.dropWhile_append, hreverse,
    List.rdropWhile]
  cases h : post.reverse.dropWhile isWhitespace with
  | nil => simp
  | cons x l => simp

/-- A character of white space before a line does not show. -/
theorem trimChars_cons {c : Char} (hc : isWhitespace c = true) (cs : List Char) :
    trimChars (c :: cs) = trimChars cs := by
  rw [trimChars, List.dropWhile_cons_of_pos hc, trimChars]

/-- A character of white space after a line does not show. -/
theorem trimChars_concat {c : Char} (hc : isWhitespace c = true) (cs : List Char) :
    trimChars (cs ++ [c]) = trimChars cs := by
  rw [trimChars, List.dropWhile_append]
  split
  · next h =>
    rw [List.isEmpty_iff] at h
    simp [trimChars, h, hc]
  · rw [List.rdropWhile_concat_pos _ _ _ hc, trimChars]

/-! ## Lines -/

/-- A reader that trims sees of a text written line by line those lines, trimmed. -/
theorem trimmed_written {ls : List (List Char)} (h : ∀ l ∈ ls, '\n' ∉ l) :
    trimmed (written ls) = ls.map trimChars := by
  have hsplit : splitInclusive (· == '\n') (ls.flatMap (· ++ ['\n'])) = ls.map (· ++ ['\n']) := by
    induction ls with
    | nil => rfl
    | cons l ls ih =>
      have hclosed : ¬ Open (· == '\n') (l ++ ['\n']) := by
        rintro ⟨c, hc, hp⟩
        rw [List.getLast?_concat] at hc
        cases hc
        cases hp
      have hchunk : splitInclusive (· == '\n') (l ++ ['\n']) = [l ++ ['\n']] :=
        splitInclusive_line rfl fun b hb => by
          rw [beq_eq_false_iff_ne]
          rintro rfl
          exact h l (List.mem_cons_self ..) hb
      rw [List.flatMap_cons, splitInclusive_append hclosed, hchunk,
        ih fun m hm => h m (List.mem_cons_of_mem _ hm)]
      rfl
  have hstrip : ∀ l : List Char,
      trimChars (stripNewline '\n' '\r' (l ++ ['\n'])) = trimChars l := by
    intro l
    rw [stripNewline, if_pos (List.getLast?_concat ..), List.dropLast_concat]
    split
    · next hcr =>
      -- a carriage return that goes with the line feed would go with trimming
      rcases List.eq_nil_or_concat l with rfl | ⟨l', c, rfl⟩
      · cases hcr
      · rw [List.concat_eq_append] at hcr ⊢
        rw [List.getLast?_concat] at hcr
        cases hcr
        rw [List.dropLast_concat, trimChars_concat (by decide)]
    · rfl
  rw [trimmed, lines, written, String.toList_ofList, hsplit, List.map_map, List.map_map]
  exact List.map_congr_left fun l _ => by
    simp only [Function.comp_apply, String.toList_ofList, hstrip]

/-! ## Words -/

/-- A word stands among words with `c` before each where it stands in one of them. -/
theorem infix_flatMap_cons {p : List Char} {c : Char} (hp : p ≠ []) (hc : c ∉ p)
    (ws : List (List Char)) : p <:+: ws.flatMap (c :: ·) ↔ ∃ w ∈ ws, p <:+: w := by
  have hcons : ∀ l, p <:+: c :: l ↔ p <:+: l := by
    intro l
    rw [List.infix_cons_iff, or_iff_right]
    intro hpre
    cases p with
    | nil => exact hp rfl
    | cons a p => exact hc ((List.cons_prefix_cons.mp hpre).1 ▸ List.mem_cons_self ..)
  induction ws with
  | nil => simp [hp]
  | cons w ws ih =>
    rw [List.flatMap_cons, List.cons_append, hcons, List.infix_append_iff]
    constructor
    · rintro (h | h | ⟨l₁, l₂, rfl, h₁, h₂⟩)
      · exact ⟨w, List.mem_cons_self .., h⟩
      · obtain ⟨v, hv, h⟩ := ih.mp h
        exact ⟨v, List.mem_cons_of_mem _ hv, h⟩
      · -- a part in each of the two would have the separator between them
        cases ws with
        | nil =>
          rw [List.flatMap_nil, List.prefix_nil] at h₂
          rw [h₂, List.append_nil]
          exact ⟨w, List.mem_cons_self .., h₁.isInfix⟩
        | cons v ws =>
          cases l₂ with
          | nil =>
            rw [List.append_nil]
            exact ⟨w, List.mem_cons_self .., h₁.isInfix⟩
          | cons a l₂ =>
            rw [List.flatMap_cons, List.cons_append, List.cons_prefix_cons] at h₂
            exact absurd (by simp [h₂.1]) hc
    · rintro ⟨v, hv, h⟩
      rcases List.mem_cons.mp hv with rfl | hv
      · exact .inl h
      · exact .inr (.inl (ih.mpr ⟨v, hv, h⟩))

/-- White space at the end of a text has no part in a word that does not end with any. -/
theorem contains_rdropWhile {p : String} {d : Char} (hd : p.toList.getLast? = some d)
    (hdw : isWhitespace d = false) (cs : List Char) :
    contains (cs.rdropWhile isWhitespace) p = contains cs p := by
  have hspace : ∀ c ∈ cs.rtakeWhile isWhitespace, isWhitespace c = true :=
    fun c hc => List.mem_rtakeWhile_imp hc
  have hd' : d ∉ cs.rtakeWhile isWhitespace := by
    intro hmem
    rw [hspace d hmem] at hdw
    cases hdw
  rw [contains, contains, Bool.eq_iff_iff, decide_eq_true_iff, decide_eq_true_iff]
  constructor
  · exact fun h => h.trans (List.rdropWhile_prefix _ _).isInfix
  · intro h
    have hcut : cs.rdropWhile isWhitespace ++ cs.rtakeWhile isWhitespace = cs :=
      List.rdropWhile_append_rtakeWhile
    rw [← hcut, List.infix_append_iff] at h
    rcases h with h | h | ⟨l₁, l₂, hp, h₁, h₂⟩
    · exact h
    · exact absurd (h.subset (List.mem_of_getLast? hd)) hd'
    · rcases List.eq_nil_or_concat l₂ with rfl | ⟨l, c, rfl⟩
      · rw [hp, List.append_nil]
        exact h₁.isInfix
      · rw [hp, List.concat_eq_append, ← List.append_assoc, List.getLast?_concat] at hd
        cases hd
        exact absurd (h₂.subset (by simp)) hd'

end Text
