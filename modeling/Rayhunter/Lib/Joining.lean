import Mathlib.Data.List.Induction

/-!
# Records on lines, joined where they do not read

A text has a record on each line, and a reader of records that takes a line it cannot read for the
beginning of a record that goes on: it puts the next line behind it and tries again, until something
is read (`readJoined`). So a line that is no record takes the lines after it with it, up to where
the whole is one, and if it never is, nothing is read at all. `scan` is the reader line by line:
what has been read so far, and what is being put together. A line that is read on its own is read
(`mem_of_scan`), unless it has been put behind one that is not (`JoinedAt`). Lines written one after
another are what the text is split into at its line feeds, with the empty text after the last
(`split_ofLines`).
-/

namespace Joining

universe u
variable {α : Type u} (read : String → Option α)

/-- The records of some lines, with `current` put together so far; an error is what could not be
read to the end. -/
def readJoined (current : String) : List String → Except String (List α)
  | [] => .ok []
  | line :: lines =>
    if current ++ line = "" then readJoined (current ++ line) lines
    else
      match read (current ++ line) with
      | some a => (readJoined "" lines).map (a :: ·)
      | none => if lines = [] then .error (current ++ line) else readJoined (current ++ line) lines

/-- One line more: what is read of it, and what is put together then. -/
def next (current line : String) : List α × String :=
  if current ++ line = "" then ([], "")
  else
    match read (current ++ line) with
    | some a => ([a], "")
    | none => ([], current ++ line)

/-- The same line by line. -/
def scan (current : String) : List String → List α × String
  | [] => ([], current)
  | line :: lines =>
    ((next read current line).1 ++ (scan (next read current line).2 lines).1,
      (scan (next read current line).2 lines).2)

variable {read}

/-- Lines are read where nothing is left over. -/
theorem readJoined_eq_scan {current : String} {lines : List String}
    (h : current = "" ∨ lines ≠ []) : readJoined read current lines =
      if (scan read current lines).2 = "" then .ok (scan read current lines).1
      else .error (scan read current lines).2 := by
  induction lines generalizing current with
  | nil =>
    obtain rfl := h.resolve_right (fun hne => hne rfl)
    rfl
  | cons line lines ih =>
    rw [readJoined, scan, next]
    by_cases he : current ++ line = ""
    · rw [if_pos he, if_pos he, he]
      exact ih (.inl rfl)
    · rw [if_neg he, if_neg he]
      cases hr : read (current ++ line) with
      | some a =>
        simp only
        rw [ih (.inl rfl)]
        split <;> rfl
      | none =>
        simp only
        by_cases hl : lines = []
        · subst hl
          rw [if_pos rfl]
          exact (if_neg he).symm
        · rw [if_neg hl, ih (.inr hl)]
          rfl

theorem scan_append (current : String) (lines lines' : List String) :
    scan read current (lines ++ lines') =
      ((scan read current lines).1 ++ (scan read (scan read current lines).2 lines').1,
        (scan read (scan read current lines).2 lines').2) := by
  induction lines generalizing current with
  | nil => rfl
  | cons line lines ih =>
    rw [List.cons_append, scan, ih, scan, List.append_assoc]

/-- Some lines behind a text. -/
def join (current : String) (lines : List String) : String := lines.foldl (· ++ ·) current

/-- A line stands behind one that is not read, and the two with what is between them and some of
what follows are. -/
def JoinedAt (read : String → Option α) (before : List String) (line : String)
    (after : List String) : Prop :=
  ∃ earlier bad between more, before = earlier ++ bad :: between ∧ bad ≠ "" ∧ read bad = none ∧
    more <+: after ∧ (read (join bad (between ++ line :: more))).isSome

/-- What is being put together begins with a line that is not read. -/
theorem scan_left {lines : List String} (h : (scan read "" lines).2 ≠ "") :
    ∃ earlier bad between, lines = earlier ++ bad :: between ∧ bad ≠ "" ∧ read bad = none ∧
      (scan read "" lines).2 = join bad between := by
  induction lines using List.reverseRecOn with
  | nil => exact (h rfl).elim
  | append_singleton lines line ih =>
    rw [scan_append] at h ⊢
    have hlast : ∀ current, scan read current [line] = next read current line := by
      intro current
      simp [scan]
    simp only [hlast] at h ⊢
    have hnext : next read (scan read "" lines).2 line =
        ([], (scan read "" lines).2 ++ line) ∧
        read ((scan read "" lines).2 ++ line) = none ∧ (scan read "" lines).2 ++ line ≠ "" := by
      unfold next at h ⊢
      split at h
      · exact (h rfl).elim
      · next he =>
        cases hr : read ((scan read "" lines).2 ++ line) with
        | some a =>
          rw [hr] at h
          exact (h rfl).elim
        | none => exact ⟨if_neg he, rfl, he⟩
    rw [hnext.1]
    by_cases hempty : (scan read "" lines).2 = ""
    · refine ⟨lines, line, [], rfl, ?_, ?_, ?_⟩
      · rw [hempty, String.empty_append] at hnext
        exact hnext.2.2
      · rw [hempty, String.empty_append] at hnext
        exact hnext.2.1
      · rw [hempty, String.empty_append]
        rfl
    · obtain ⟨earlier, bad, between, hlines, hbad, hread, hjoin⟩ := ih hempty
      refine ⟨earlier, bad, between ++ [line], ?_, hbad, hread, ?_⟩
      · rw [hlines, List.append_assoc, List.cons_append]
      · rw [hjoin, join, join, List.foldl_append]
        rfl

/-- What is put together is read where nothing of it is left. -/
theorem exists_read {current : String} {lines : List String} (hc : current ≠ "")
    (h : (scan read current lines).2 = "") :
    ∃ front, front ≠ [] ∧ front <+: lines ∧ (read (join current front)).isSome := by
  induction lines generalizing current with
  | nil => exact (hc h).elim
  | cons line lines ih =>
    have hne : current ++ line ≠ "" := by
      intro he
      exact hc (String.append_eq_empty_iff.mp he).1
    rw [scan, next, if_neg hne] at h
    cases hr : read (current ++ line) with
    | some a =>
      refine ⟨[line], List.cons_ne_nil _ _, List.prefix_append _ _, ?_⟩
      show (read (current ++ line)).isSome
      rw [hr]
      rfl
    | none =>
      rw [hr] at h
      obtain ⟨front, -, hfront, hread⟩ := ih hne h
      exact ⟨line :: front, List.cons_ne_nil _ _, List.cons_prefix_cons.mpr ⟨rfl, hfront⟩, hread⟩

/-- **A line that is read on its own is read where it stands**, unless it is joined to one that is
not. -/
theorem mem_of_scan {before after : List String} {line : String} {a : α} (hl : line ≠ "")
    (ha : read line = some a) (h : (scan read "" (before ++ line :: after)).2 = "") :
    ((scan read "" before).2 = "" ∧ ∃ later, (scan read "" (before ++ line :: after)).1 =
      (scan read "" before).1 ++ a :: later) ∨ JoinedAt read before line after := by
  rw [scan_append] at h ⊢
  by_cases hempty : (scan read "" before).2 = ""
  · left
    have hnext : next read "" line = ([a], "") := by
      rw [next, String.empty_append, if_neg hl, ha]
    refine ⟨hempty, ?_⟩
    simp only [hempty, scan, hnext]
    exact ⟨_, rfl⟩
  · right
    obtain ⟨earlier, bad, between, hbefore, hbad, hread, hjoin⟩ := scan_left hempty
    obtain ⟨front, hne, hfront, hsome⟩ := exists_read hempty h
    obtain ⟨l, more, rfl⟩ := List.exists_cons_of_ne_nil hne
    obtain ⟨rfl, hmore⟩ := List.cons_prefix_cons.mp hfront
    refine ⟨earlier, bad, between, more, hbefore, hbad, hread, hmore, ?_⟩
    rw [join, List.foldl_append]
    rw [hjoin] at hsome
    exact hsome

/-- Lines that are read, each on its own, are read; empty ones do not count. -/
theorem scan_of_forall {lines : List String}
    (h : ∀ line ∈ lines, line = "" ∨ (read line).isSome) :
    scan read "" lines = ((lines.filter (· ≠ "")).filterMap read, "") := by
  induction lines with
  | nil => rfl
  | cons line lines ih =>
    have hrest := ih fun l hl => h l (List.mem_cons_of_mem _ hl)
    by_cases he : line = ""
    · subst he
      have hnext : next read "" "" = ([], "") := rfl
      simp [scan, hnext, hrest]
    · obtain ⟨a, ha⟩ := Option.isSome_iff_exists.mp
        ((h line List.mem_cons_self).resolve_left he)
      have hnext : next read "" line = ([a], "") := by
        rw [next, String.empty_append, if_neg he, ha]
      simp [scan, hnext, hrest, he, ha]

/-- Something is read of lines that are not all empty, where nothing is left over. -/
theorem scan_ne_nil {current : String} {lines : List String}
    (hne : current ≠ "" ∨ ∃ line ∈ lines, line ≠ "") (h : (scan read current lines).2 = "") :
    (scan read current lines).1 ≠ [] := by
  induction lines generalizing current with
  | nil =>
    rcases hne with hc | ⟨line, hmem, -⟩
    · exact (hc h).elim
    · cases hmem
  | cons line lines ih =>
    rw [scan] at h ⊢
    by_cases he : current ++ line = ""
    · have hnext : next read current line = ([], "") := if_pos he
      simp only [hnext] at h ⊢
      obtain ⟨hc, hl⟩ := String.append_eq_empty_iff.mp he
      refine ih (.inr ?_) h
      rcases hne with hne | ⟨l, hmem, hne⟩
      · exact (hne hc).elim
      · rcases List.mem_cons.mp hmem with rfl | hmem
        · exact (hne hl).elim
        · exact ⟨l, hmem, hne⟩
    · cases hr : read (current ++ line) with
      | some a =>
        have hnext : next read current line = ([a], "") := by
          rw [next, if_neg he, hr]
        simp [hnext]
      | none =>
        have hnext : next read current line = ([], current ++ line) := by
          rw [next, if_neg he, hr]
        simp only [hnext] at h ⊢
        exact ih (.inl he) h

/-! ## Lines and text -/

/-- Lines, each with a line feed behind it. -/
def ofLines : List String → String
  | [] => ""
  | line :: lines => line ++ "\n" ++ ofLines lines

/-- What stands between the line feeds of a text. -/
def split (text : String) : List String := (text.toList.splitOn '\n').map String.ofList

/-- Splitting what was written line by line gives the lines, and the empty text behind the last. -/
theorem split_ofLines {lines : List String} (h : ∀ line ∈ lines, '\n' ∉ line.toList) :
    split (ofLines lines) = lines ++ [""] := by
  induction lines with
  | nil => rfl
  | cons line lines ih =>
    have hrest := ih fun l hl => h l (List.mem_cons_of_mem _ hl)
    have hline := h line List.mem_cons_self
    have htext : (ofLines (line :: lines)).toList =
        line.toList ++ '\n' :: (ofLines lines).toList := by
      simp [ofLines, String.toList_append]
    rw [split, htext, List.splitOn_append_cons_self, List.splitOn_eq_singleton hline, List.map_append,
      ← split, hrest]
    simp

end Joining
