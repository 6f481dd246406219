import Mathlib.Data.List.Basic

/-!
# JSON trees

The values a JSON text denotes. An object keeps its members in the order they are written, a
repeated key included, so that a reader that refuses repeated keys and one that takes the last
value can both be stated over the same tree. `Json.get` is the second kind of reader.
-/

/-- A JSON value. `int` is a number that fits the 64-bit integers, `float` any other number, kept
as it is written. -/
inductive Json where
  | null
  | bool (b : Bool)
  | int (n : Int)
  | float (text : String)
  | str (s : String)
  | arr (xs : List Json)
  | obj (ms : List (String × Json))

namespace Json

/-- The last value written under `key`. -/
def lookup (key : String) : List (String × Json) → Option Json
  | [] => none
  | (k, v) :: ms => (lookup key ms).or (if k = key then some v else none)

/-- The member `key` of an object, the last one where it is repeated; nothing for any other
value. -/
def get (key : String) : Json → Option Json
  | .obj ms => lookup key ms
  | _ => none

/-- The elements of an array. -/
def asArray : Json → Option (List Json)
  | .arr xs => some xs
  | _ => none

/-- The text of a string. -/
def asStr : Json → Option String
  | .str s => some s
  | _ => none

@[simp] theorem get_obj (key : String) (ms : List (String × Json)) :
    get key (.obj ms) = lookup key ms := rfl

@[simp] theorem asArray_arr (xs : List Json) : asArray (.arr xs) = some xs := rfl

@[simp] theorem asStr_str (s : String) : asStr (.str s) = some s := rfl

theorem asArray_eq_some {j : Json} {xs : List Json} (h : j.asArray = some xs) : j = .arr xs := by
  cases j <;> simp_all [asArray]

theorem asStr_eq_some {j : Json} {s : String} (h : j.asStr = some s) : j = .str s := by
  cases j <;> simp_all [asStr]

/-! ## Members -/

/-- The members written under `key`, in order. -/
def occurrences (key : String) (ms : List (String × Json)) : List Json :=
  (ms.filter (·.1 = key)).map (·.2)

@[simp] theorem occurrences_nil (key : String) : occurrences key [] = [] := rfl

theorem occurrences_cons (key k : String) (v : Json) (ms : List (String × Json)) :
    occurrences key ((k, v) :: ms) =
      if k = key then v :: occurrences key ms else occurrences key ms := by
  by_cases h : k = key <;> simp [occurrences, h]

/-- Looking a key up finds the last of its occurrences. -/
theorem lookup_eq_getLast? (key : String) (ms : List (String × Json)) :
    lookup key ms = (occurrences key ms).getLast? := by
  induction ms with
  | nil => rfl
  | cons m ms ih =>
    obtain ⟨k, v⟩ := m
    rw [lookup, ih, occurrences_cons]
    by_cases h : k = key
    · cases ho : occurrences key ms with
      | nil => simp [h]
      | cons a as => simp [h, List.getLast?_cons]
    · simp [h]

end Json
