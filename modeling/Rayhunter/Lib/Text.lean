import Mathlib.Algebra.GroupWithZero.Nat
import Mathlib.Data.List.DropRight
import Rayhunter.Lib.Chunks

/-!
# Lines and white space

Text as a line reader sees it: `lines` cuts at every line feed and drops it, with the carriage
return before it, and `trim` drops the white space at both ends, in the sense of the Unicode
property `White_Space`.
-/

namespace Text

open Chunks

/-- The characters with the Unicode property `White_Space`. -/
def isWhitespace (c : Char) : Bool :=
  let n := c.toNat
  (9 ≤ n && n ≤ 13) || n == 0x20 || n == 0x85 || n == 0xA0 || n == 0x1680 ||
    (0x2000 ≤ n && n ≤ 0x200A) || n == 0x2028 || n == 0x2029 || n == 0x202F || n == 0x205F ||
    n == 0x3000

/-- `trim` on characters. -/
def trimChars (cs : List Char) : List Char :=
  (cs.dropWhile isWhitespace).rdropWhile isWhitespace

/-- The text without the white space at its ends. -/
def trim (s : String) : String := String.ofList (trimChars s.toList)

/-- `ends_with`. -/
def endsWith (s suffix : String) : Bool := suffix.toList.reverse.isPrefixOf s.toList.reverse

/-- A list without the copies of `p` it starts with, `n` of them at most. -/
def dropPrefixes {α : Type*} [BEq α] (p : List α) : Nat → List α → List α
  | 0, l => l
  | n + 1, l => if p.isPrefixOf l then dropPrefixes p n (l.drop p.length) else l

/-- `trim_end_matches`: the text without the copies of a suffix it ends with. -/
def trimEndMatches (s suffix : String) : String :=
  String.ofList
    (dropPrefixes suffix.toList.reverse s.toList.length s.toList.reverse).reverse

/-- A chunk without the terminator `nl` at its end, and without a `cr` before that. -/
def stripNewline {α : Type*} [DecidableEq α] (nl cr : α) (l : List α) : List α :=
  if l.getLast? = some nl then
    if l.dropLast.getLast? = some cr then l.dropLast.dropLast else l.dropLast
  else l

/-- The lines of a text. -/
def lines (s : String) : List String :=
  (splitInclusive (· == '\n') s.toList).map fun c => String.ofList (stripNewline '\n' '\r' c)

/-- The text is empty or ends with a line feed. -/
def Complete (s : String) : Prop := ¬ Open (· == '\n') s.toList

/-! ## Trimming -/

/-- A text whose first and last characters are not white space is trimmed already. -/
theorem trim_eq_self {s : String} {c d : Char} (hc : s.toList.head? = some c)
    (hd : s.toList.getLast? = some d) (hcw : isWhitespace c = false)
    (hdw : isWhitespace d = false) : trim s = s := by
  have h1 : s.toList.dropWhile isWhitespace = s.toList := by
    cases hs : s.toList with
    | nil => rfl
    | cons a l => rw [hs] at hc; simp at hc; subst hc; simp [hcw]
  have h2 : s.toList.reverse.dropWhile isWhitespace = s.toList.reverse := by
    rw [List.getLast?_eq_head?_reverse] at hd
    cases hs : s.toList.reverse with
    | nil => rfl
    | cons a l => rw [hs] at hd; simp at hd; subst hd; simp [hdw]
  rw [trim, trimChars, h1, List.rdropWhile, h2, List.reverse_reverse, String.ofList_toList]

/-- A trimmed text is trimmed. -/
theorem trim_trim (s : String) : trim (trim s) = trim s := by
  have hdrop : (trimChars s.toList).dropWhile isWhitespace = trimChars s.toList := by
    rw [List.dropWhile_eq_self_iff]
    intro hl
    -- what is dropped at the end leaves the first character
    have hpre := List.rdropWhile_prefix isWhitespace (s.toList.dropWhile isWhitespace)
    rw [← trimChars] at hpre
    rw [hpre.getElem hl]
    exact List.dropWhile_get_zero_not isWhitespace s.toList _
  rw [trim, trim, String.toList_ofList, trimChars, hdrop, trimChars, List.rdropWhile_idempotent]

/-! ## Suffixes -/

/-- A text ends with what was put at its end. -/
theorem endsWith_append (s t : String) : endsWith (s ++ t) t = true := by
  simp [endsWith, String.toList_append]

/-- A text ends with no suffix of another last character. -/
theorem endsWith_eq_false {s t : String} {c d : Char} (hc : s.toList.getLast? = some c)
    (hd : t.toList.getLast? = some d) (hne : d ≠ c) : endsWith s t = false := by
  rw [List.getLast?_eq_head?_reverse] at hc hd
  unfold endsWith
  cases hs : s.toList.reverse with
  | nil => rw [hs] at hc; cases hc
  | cons a l =>
    cases ht : t.toList.reverse with
    | nil => rw [ht] at hd; cases hd
    | cons b m =>
      rw [hs] at hc
      rw [ht] at hd
      cases hc
      cases hd
      simp [List.isPrefixOf, hne]

/-- So many copies of a text. -/
def copies (t : String) (k : Nat) : String := String.ofList (List.replicate k t.toList).flatten

theorem copies_succ (t : String) (k : Nat) : copies t (k + 1) = copies t k ++ t := by
  rw [← String.toList_inj, String.toList_append, copies, copies, String.toList_ofList,
    String.toList_ofList, List.replicate_succ', List.flatten_append]
  simp

theorem toList_copies_reverse (t : String) (k : Nat) :
    (copies t k).toList.reverse = (List.replicate k t.toList.reverse).flatten := by
  rw [copies, String.toList_ofList, List.reverse_flatten, List.map_replicate,
    List.reverse_replicate]

/-- Copies in front of what does not start with one are dropped. -/
theorem dropPrefixes_copies {α : Type*} [BEq α] [LawfulBEq α] {p r : List α}
    (hr : p.isPrefixOf r = false) {n k : Nat} (hn : k ≤ n) :
    dropPrefixes p n ((List.replicate k p).flatten ++ r) = r := by
  induction k generalizing n with
  | zero =>
    cases n with
    | zero => rfl
    | succ n => simp [dropPrefixes, hr]
  | succ k ih =>
    obtain ⟨n, rfl⟩ : ∃ m, n = m + 1 := ⟨n - 1, by omega⟩
    have hpre : p.isPrefixOf ((List.replicate (k + 1) p).flatten ++ r) = true := by
      rw [List.isPrefixOf_iff_prefix]
      exact ⟨(List.replicate k p).flatten ++ r, by simp [List.replicate_succ]⟩
    rw [dropPrefixes, if_pos hpre]
    have hdrop : ((List.replicate (k + 1) p).flatten ++ r).drop p.length =
        (List.replicate k p).flatten ++ r := by
      simp [List.replicate_succ]
    rw [hdrop]
    exact ih (by omega)

/-- What is dropped is copies, and what is left starts with none. -/
theorem exists_dropPrefixes {α : Type*} [BEq α] [LawfulBEq α] {p : List α} (hp : p ≠ []) {n : Nat}
    {l : List α} (hn : l.length ≤ n) :
    ∃ k, l = (List.replicate k p).flatten ++ dropPrefixes p n l ∧
      p.isPrefixOf (dropPrefixes p n l) = false := by
  have hpos := List.length_pos_iff.2 hp
  induction n generalizing l with
  | zero =>
    obtain rfl := List.eq_nil_of_length_eq_zero (Nat.le_zero.1 hn)
    refine ⟨0, rfl, ?_⟩
    cases p with
    | nil => exact absurd rfl hp
    | cons a p => rfl
  | succ n ih =>
    rw [dropPrefixes]
    split
    · next hpre =>
      obtain ⟨r, rfl⟩ := List.isPrefixOf_iff_prefix.1 hpre
      rw [List.drop_left]
      rw [List.length_append] at hn
      obtain ⟨k, hk, hend⟩ := ih (l := r) (by omega)
      refine ⟨k + 1, ?_, hend⟩
      rw [List.replicate_succ, List.flatten_cons, List.append_assoc, ← hk]
    · next hpre => exact ⟨0, rfl, by rwa [Bool.not_eq_true] at hpre⟩

/-- Trimming takes off copies of a suffix, and leaves a text that does not end with one. -/
theorem exists_trimEndMatches (s : String) {t : String} (ht : t ≠ "") :
    ∃ k, s = trimEndMatches s t ++ copies t k ∧ endsWith (trimEndMatches s t) t = false := by
  have hne : t.toList.reverse ≠ [] := by
    rw [Ne, List.reverse_eq_nil_iff, String.toList_eq_nil_iff]
    exact ht
  obtain ⟨k, hk, hend⟩ := exists_dropPrefixes hne (l := s.toList.reverse)
    (n := s.toList.length) (by simp)
  have hlist : (trimEndMatches s t).toList.reverse =
      dropPrefixes t.toList.reverse s.toList.length s.toList.reverse := by
    rw [trimEndMatches, String.toList_ofList, List.reverse_reverse]
  refine ⟨k, ?_, ?_⟩
  · rw [← String.toList_inj, ← List.reverse_inj, String.toList_append, List.reverse_append,
      hlist, toList_copies_reverse]
    exact hk
  · rw [endsWith, hlist]
    exact hend

/-- Trimming takes every copy of a suffix off. -/
theorem trimEndMatches_copies {s t : String} (ht : t ≠ "") (h : endsWith s t = false) (k : Nat) :
    trimEndMatches (s ++ copies t k) t = s := by
  have hne : t.toList.reverse ≠ [] := by
    rw [Ne, List.reverse_eq_nil_iff, String.toList_eq_nil_iff]
    exact ht
  have hlen : k ≤ (s ++ copies t k).toList.length := by
    have hpos : 1 ≤ t.toList.length := by
      rw [← List.length_reverse]
      exact List.length_pos_iff.2 hne
    have hcopies : (copies t k).toList.length = k * t.toList.length := by
      rw [copies, String.toList_ofList]
      simp
    have hk : k * 1 ≤ k * t.toList.length := Nat.mul_le_mul_left k hpos
    rw [String.toList_append, List.length_append, hcopies]
    omega
  rw [trimEndMatches, String.toList_append, List.reverse_append, toList_copies_reverse,
    dropPrefixes_copies h (by rwa [← String.toList_append]), List.reverse_reverse,
    String.ofList_toList]

/-- Trimming takes a suffix off a text that does not end with another copy of it. -/
theorem trimEndMatches_append {s t : String} (ht : t ≠ "") (h : endsWith s t = false) :
    trimEndMatches (s ++ t) t = s := by
  have hone : copies t 1 = t := by
    rw [copies, ← String.toList_inj, String.toList_ofList]
    simp
  have htrim := trimEndMatches_copies ht h 1
  rwa [hone] at htrim

/-! ## Lines -/

theorem complete_empty : Complete "" := by rintro ⟨a, ha, -⟩; simp at ha

/-- Elements none of which is a terminator, and then a terminator, are one chunk. -/
theorem splitInclusive_line {α : Type*} {p : α → Bool} {a : α} (ha : p a = true) {l : List α}
    (hl : ∀ b ∈ l, p b = false) : splitInclusive p (l ++ [a]) = [l ++ [a]] := by
  induction l with
  | nil => simp [splitInclusive_cons_of_pos ha]
  | cons b l ih =>
    rw [List.cons_append, splitInclusive_cons_of_neg (hl b (by simp)),
      ih fun c hc => hl c (by simp [hc])]

/-- A text that can be written as one line: no line feed in it, no carriage return at its end. -/
def IsLine (l : String) : Prop := '\n' ∉ l.toList ∧ l.toList.getLast? ≠ some '\r'

/-- Writing a line to a complete text adds that line and leaves a complete text. -/
theorem lines_append_line {s l : String} (hs : Complete s) (hl : IsLine l) :
    lines (s ++ l ++ "\n") = lines s ++ [l] ∧ Complete (s ++ l ++ "\n") := by
  have hnl : "\n".toList = ['\n'] := rfl
  constructor
  · have hchunk : splitInclusive (· == '\n') (l.toList ++ ['\n']) = [l.toList ++ ['\n']] :=
      splitInclusive_line (by rfl) fun b hb => by
        simp only [beq_eq_false_iff_ne, ne_eq]
        rintro rfl
        exact hl.1 hb
    rw [lines, String.toList_append, String.toList_append, hnl, List.append_assoc,
      splitInclusive_append hs, List.map_append, hchunk]
    simp [lines, stripNewline, hl.2]
  · rintro ⟨c, hc, hp⟩
    rw [String.toList_append, hnl, List.getLast?_append] at hc
    simp at hc
    subst hc
    simp at hp

/-- The bytes of a text are those of its characters. -/
theorem utf8ByteSize_ofList (l : List Char) :
    (String.ofList l).utf8ByteSize = (l.map Char.utf8Size).sum := by
  induction l with
  | nil => rfl
  | cons c l ih =>
    rw [String.ofList_cons, String.utf8ByteSize_append, String.utf8ByteSize_singleton, ih,
      List.map_cons, List.sum_cons]

end Text
