import Mathlib.Data.List.Basic

/-!
# Fields of a text

The pieces a text is cut into at a character, and the unsigned numbers they write, as `str` and
`FromStr` of the standard library read them.
-/

namespace Rayhunter.Fields

/-- `str::split_once` at a character. -/
def splitOnce (c : Char) (cs : List Char) : Option (List Char × List Char) :=
  match cs.dropWhile (· ≠ c) with
  | [] => none
  | _ :: rest => some (cs.takeWhile (· ≠ c), rest)

/-- `str::parse` at an unsigned type with this largest value. -/
def parseUnsigned (max : Nat) (cs : List Char) : Option Nat :=
  let digits := if cs.head? = some '+' then cs.tail else cs
  let value := Nat.ofDigitChars 10 digits 0
  if digits ≠ [] ∧ digits.all Char.isDigit ∧ value ≤ max then some value else none

example : parseUnsigned 255 "+255".toList = some 255 := by decide
example : parseUnsigned 255 "256".toList = none := by decide

/-- A number that is read fits its type. -/
theorem parseUnsigned_le {max n : Nat} {cs : List Char} (h : parseUnsigned max cs = some n) :
    n ≤ max := by
  obtain ⟨⟨-, -, hle⟩, hvalue⟩ := Option.ite_none_right_eq_some.1 h
  exact Option.some.inj hvalue ▸ hle

/-! ## Fields between separators -/

variable {α : Type*} [DecidableEq α] {c : α} {cs f : List α} {fields : List (List α)}

theorem not_mem_of_mem_splitOn (h : f ∈ cs.splitOn c) : c ∉ f := by
  induction cs generalizing f with
  | nil =>
    rw [List.splitOn_nil, List.mem_singleton] at h
    rw [h]
    exact List.not_mem_nil
  | cons a cs ih =>
    rw [List.splitOn_cons_eq_if_modifyHead] at h
    split at h
    · rcases List.mem_cons.1 h with rfl | h
      · exact List.not_mem_nil
      · exact ih h
    next hne =>
      -- the character before the separator is the first one of the first field
      obtain ⟨g, gs, hfields⟩ := List.exists_cons_of_ne_nil (List.splitOn_ne_nil c cs)
      rw [hfields] at h ih
      rcases List.mem_cons.1 h with rfl | h
      · intro hmem
        rcases List.mem_cons.1 hmem with rfl | hmem
        · exact hne (beq_self_eq_true c)
        · exact ih List.mem_cons_self hmem
      · exact ih (List.mem_cons_of_mem g h)

/-- **A text has these fields where it is these, joined, and none of them has the separator.** -/
theorem splitOn_eq_iff :
    cs.splitOn c = fields ↔
      fields ≠ [] ∧ (∀ f ∈ fields, c ∉ f) ∧ cs = [c].intercalate fields := by
  constructor
  · rintro rfl
    exact ⟨List.splitOn_ne_nil c cs, fun f hf => not_mem_of_mem_splitOn hf,
      (List.intercalate_splitOn c).symm⟩
  · rintro ⟨hne, hfree, rfl⟩
    exact List.splitOn_intercalate c hfree hne

end Rayhunter.Fields
