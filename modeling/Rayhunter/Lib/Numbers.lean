import Mathlib.Data.List.Basic

/-!
# Numbers in a text

A number, or a list of numbers with `, ` between them, is read off a text that goes on with
something else: two such texts are the same only where the numbers and the rests are
(`toDigits_append_inj`, `listed_append_inj`).
-/

namespace Numbers

/-- What goes on with no digit. -/
def Ends (cs : List Char) : Prop := ∀ c ∈ cs.head?, c.isDigit = false

/-- What goes on with neither a digit nor a comma. -/
def Closes (cs : List Char) : Prop := ∀ c ∈ cs.head?, c.isDigit = false ∧ c ≠ ','

theorem Closes.ends {cs : List Char} (h : Closes cs) : Ends cs := fun c hc => (h c hc).1

theorem ends_cons {c : Char} {cs : List Char} (h : c.isDigit = false) : Ends (c :: cs) := by
  rintro d ⟨⟩
  exact h

theorem closes_cons {c : Char} {cs : List Char} (h : c.isDigit = false) (hc : c ≠ ',') :
    Closes (c :: cs) := by
  rintro d ⟨⟩
  exact ⟨h, hc⟩

theorem takeWhile_toDigits (n : Nat) {cs : List Char} (h : Ends cs) :
    (Nat.toDigits 10 n ++ cs).takeWhile Char.isDigit = Nat.toDigits 10 n := by
  have hdigits : ∀ c ∈ Nat.toDigits 10 n, c.isDigit = true := fun c hc =>
    Nat.isDigit_of_mem_toDigits (by decide) (by decide) hc
  rw [List.takeWhile_append_of_pos hdigits]
  cases cs with
  | nil => simp
  | cons c cs => simp [h c rfl]

/-- A number is told by its digits. -/
theorem toDigits_inj {m n : Nat} (h : Nat.toDigits 10 m = Nat.toDigits 10 n) : m = n := by
  have hread := congrArg (fun cs => Nat.ofDigitChars 10 cs 0) h
  rwa [Nat.ofDigitChars_ten_toDigits, Nat.ofDigitChars_ten_toDigits] at hread

theorem toDigits_append_inj {m n : Nat} {s t : List Char} (hs : Ends s) (ht : Ends t)
    (h : Nat.toDigits 10 m ++ s = Nat.toDigits 10 n ++ t) : m = n ∧ s = t := by
  have hdigits := congrArg (List.takeWhile Char.isDigit) h
  rw [takeWhile_toDigits m hs, takeWhile_toDigits n ht] at hdigits
  exact ⟨toDigits_inj hdigits, List.append_cancel_left (hdigits ▸ h)⟩

/-! ## Lists of numbers -/

/-- The numbers of a list after its first. -/
def rest : List Nat → List Char
  | [] => []
  | n :: ns => ',' :: ' ' :: (Nat.toDigits 10 n ++ rest ns)

/-- The numbers of a list, with `, ` between them. -/
def listed : List Nat → List Char
  | [] => []
  | n :: ns => Nat.toDigits 10 n ++ rest ns

theorem toList_intercalate (ns : List Nat) :
    (", ".intercalate (ns.map toString)).toList = listed ns := by
  have hrest : ∀ (n : Nat) (ns : List Nat),
      (", ".intercalate ((n :: ns).map toString)).toList = Nat.toDigits 10 n ++ rest ns := by
    intro n ns
    induction ns generalizing n with
    | nil => simp [rest, Nat.toString_eq_repr]
    | cons k ns ih =>
      rw [List.map_cons, List.map_cons, String.intercalate_cons_cons, String.toList_append,
        String.toList_append, ← List.map_cons, ih k]
      simp [rest, Nat.toString_eq_repr]
  cases ns with
  | nil => simp [listed]
  | cons n ns => exact hrest n ns

theorem ends_rest {ns : List Nat} {s : List Char} (hs : Ends s) : Ends (rest ns ++ s) := by
  cases ns with
  | nil => exact hs
  | cons n ns => exact ends_cons (by decide)

theorem rest_append_inj {ms ns : List Nat} {s t : List Char} (hs : Closes s) (ht : Closes t)
    (h : rest ms ++ s = rest ns ++ t) : ms = ns ∧ s = t := by
  induction ms generalizing ns with
  | nil =>
    cases ns with
    | nil => exact ⟨rfl, h⟩
    | cons n ns =>
      obtain rfl : s = rest (n :: ns) ++ t := h
      exact absurd rfl (hs ',' rfl).2
  | cons m ms ih =>
    cases ns with
    | nil =>
      obtain rfl : rest (m :: ms) ++ s = t := h
      exact absurd rfl (ht ',' rfl).2
    | cons n ns =>
      rw [rest, rest, List.cons_append, List.cons_append, List.cons_append, List.cons_append,
        List.cons.injEq, List.cons.injEq, List.append_assoc, List.append_assoc] at h
      obtain ⟨rfl, hrest⟩ := toDigits_append_inj (ends_rest hs.ends) (ends_rest ht.ends) h.2.2
      obtain ⟨rfl, rfl⟩ := ih hrest
      exact ⟨rfl, rfl⟩

theorem listed_append_inj {ms ns : List Nat} {s t : List Char} (hs : Closes s) (ht : Closes t)
    (h : listed ms ++ s = listed ns ++ t) : ms = ns ∧ s = t := by
  have hdigit : ∀ {n : Nat} {ns : List Nat} {s t : List Char}, Ends s →
      s ≠ listed (n :: ns) ++ t := by
    intro n ns s t hs heq
    have hne : Nat.toDigits 10 n ≠ [] := Nat.toDigits_ne_nil
    obtain ⟨c, cs, hc⟩ := List.exists_cons_of_ne_nil hne
    have hfirst := hs c (by rw [heq, listed, hc]; rfl)
    rw [Nat.isDigit_of_mem_toDigits (by decide) (by decide) (hc ▸ List.mem_cons_self)] at hfirst
    cases hfirst
  cases ms with
  | nil =>
    cases ns with
    | nil => exact ⟨rfl, h⟩
    | cons n ns => exact absurd h (hdigit hs.ends)
  | cons m ms =>
    cases ns with
    | nil => exact absurd h.symm (hdigit ht.ends)
    | cons n ns =>
      rw [listed, listed, List.append_assoc, List.append_assoc] at h
      obtain ⟨rfl, hrest⟩ := toDigits_append_inj (ends_rest hs.ends) (ends_rest ht.ends) h
      obtain ⟨rfl, rfl⟩ := rest_append_inj hs ht hrest
      exact ⟨rfl, rfl⟩

/-! ## In texts -/

theorem ends_append {s t : String} {c : Char} {cs : List Char} (h : s.toList = c :: cs)
    (hc : c.isDigit = false) : Ends (s ++ t).toList := by
  rw [String.toList_append, h]
  exact ends_cons hc

theorem closes_append {s t : String} {c : Char} {cs : List Char} (h : s.toList = c :: cs)
    (hc : c.isDigit = false) (hne : c ≠ ',') : Closes (s ++ t).toList := by
  rw [String.toList_append, h]
  exact closes_cons hc hne

theorem toString_append_inj {m n : Nat} {s t : String} (hs : Ends s.toList) (ht : Ends t.toList)
    (h : toString m ++ s = toString n ++ t) : m = n ∧ s = t := by
  have hchars := congrArg String.toList h
  rw [String.toList_append, String.toList_append, Nat.toString_eq_repr, Nat.toString_eq_repr,
    Nat.toList_repr, Nat.toList_repr] at hchars
  obtain ⟨rfl, hrest⟩ := toDigits_append_inj hs ht hchars
  exact ⟨rfl, String.toList_inj.1 hrest⟩

theorem intercalate_append_inj {ms ns : List Nat} {s t : String} (hs : Closes s.toList)
    (ht : Closes t.toList)
    (h : ", ".intercalate (ms.map toString) ++ s = ", ".intercalate (ns.map toString) ++ t) :
    ms = ns ∧ s = t := by
  have hchars := congrArg String.toList h
  rw [String.toList_append, String.toList_append, toList_intercalate, toList_intercalate] at hchars
  obtain ⟨rfl, hrest⟩ := listed_append_inj hs ht hchars
  exact ⟨rfl, String.toList_inj.1 hrest⟩

end Numbers
