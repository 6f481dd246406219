import Rayhunter.Lib.JsonText

/-!
# JSON text for people

`pretty` writes a tree with each element and each member on a line of its own, indented by two
spaces for each array or object it is in. `parse` passes over the white space, so what was written
this way is read back too (`parse_pretty`).
-/

namespace JsonText

/-! ## Writing -/

/-- The start of a line at a level. -/
def newline (k : Nat) : List Char := '\n' :: List.replicate (2 * k) ' '

mutual
/-- A value at a level. -/
def pretty : Nat → Json → List Char
  | _, .null => print .null
  | _, .bool b => print (.bool b)
  | _, .int n => print (.int n)
  | _, .float text => print (.float text)
  | _, .str s => print (.str s)
  | k, .arr xs => '[' :: prettyElems k xs
  | k, .obj ms => '{' :: prettyMembers k ms
/-- The elements of an array and its end. -/
def prettyElems : Nat → List Json → List Char
  | _, [] => [']']
  | k, x :: xs => newline (k + 1) ++ (pretty (k + 1) x ++ prettyMoreElems k xs)
/-- The elements of an array after the first. -/
def prettyMoreElems : Nat → List Json → List Char
  | k, [] => newline k ++ [']']
  | k, x :: xs => ',' :: (newline (k + 1) ++ (pretty (k + 1) x ++ prettyMoreElems k xs))
/-- The members of an object and its end. -/
def prettyMembers : Nat → List (String × Json) → List Char
  | _, [] => ['}']
  | k, m :: ms => newline (k + 1) ++ (prettyMember (k + 1) m ++ prettyMoreMembers k ms)
/-- The members of an object after the first. -/
def prettyMoreMembers : Nat → List (String × Json) → List Char
  | k, [] => newline k ++ ['}']
  | k, m :: ms => ',' :: (newline (k + 1) ++ (prettyMember (k + 1) m ++ prettyMoreMembers k ms))
/-- A member of an object. -/
def prettyMember : Nat → String × Json → List Char
  | k, (key, v) => printString key ++ ':' :: ' ' :: pretty k v
end

-- an array in an object, and an empty one
example : String.ofList (pretty 0 (.obj [("a", .arr [.int 1]), ("b", .arr [])])) =
    "\x7b\n  \"a\": [\n    1\n  ],\n  \"b\": []\n\x7d" := by decide +kernel

/-! ## White space -/

theorem skipWs_newline (k : Nat) (cs : List Char) : skipWs (newline k ++ cs) = skipWs cs := by
  have hall : ∀ c ∈ newline k, isWs c = true := by
    intro c hc
    rcases List.mem_cons.1 hc with rfl | hc
    · rfl
    · rw [List.eq_of_mem_replicate hc]
      rfl
  exact List.dropWhile_append_of_pos hall

theorem skipWs_space (cs : List Char) : skipWs (' ' :: cs) = skipWs cs := rfl

/-- What is passed over before a value is nothing to it. -/
theorem parseValue_of_skipWs {n d : Nat} {cs cs' : List Char} (h : skipWs cs = skipWs cs') :
    parseValue n d cs = parseValue n d cs' := by
  cases n with
  | zero => rfl
  | succ n => rw [parseValue, parseValue, h]

theorem parseMember_of_skipWs {n d : Nat} {cs cs' : List Char} (h : skipWs cs = skipWs cs') :
    parseMember n d cs = parseMember n d cs' := by
  cases n with
  | zero => rfl
  | succ n => rw [parseMember, parseMember, h]

theorem stops_newline (k : Nat) (cs : List Char) : Stops (newline k ++ cs) := by
  rintro c ⟨⟩
  decide

/-! ## Reading what was written -/

theorem pretty_head (k : Nat) (j : Json) (hj : ∀ text, j ≠ .float text) : ∃ c cs,
    pretty k j = c :: cs ∧ isWs c = false ∧ c ≠ ']' ∧ c ≠ '}' := by
  cases j with
  | null | bool _ | int _ | str _ => rw [pretty]; exact print_head _ (by simp)
  | float text => exact absurd rfl (hj text)
  | arr xs => exact ⟨_, _, rfl, by decide, by decide, by decide⟩
  | obj ms => exact ⟨_, _, rfl, by decide, by decide, by decide⟩

theorem prettyMoreElems_head (k : Nat) (xs : List Json) (rest : List Char) :
    Stops (prettyMoreElems k xs ++ rest) ∧ 0 < (prettyMoreElems k xs).length := by
  cases xs with
  | nil =>
    rw [prettyMoreElems, List.append_assoc]
    exact ⟨stops_newline k _, by simp⟩
  | cons x xs => exact ⟨stops_cons (.inl rfl) _, by simp [prettyMoreElems]⟩

theorem prettyMoreMembers_head (k : Nat) (ms : List (String × Json)) (rest : List Char) :
    Stops (prettyMoreMembers k ms ++ rest) ∧ 0 < (prettyMoreMembers k ms).length := by
  cases ms with
  | nil =>
    rw [prettyMoreMembers, List.append_assoc]
    exact ⟨stops_newline k _, by simp⟩
  | cons m ms => exact ⟨stops_cons (.inl rfl) _, by simp [prettyMoreMembers]⟩

theorem length_pretty_pos {d k : Nat} {j : Json} (h : PlainAt d j) : 0 < (pretty k j).length := by
  obtain ⟨c, cs, hcs, -⟩ := pretty_head k j (ne_float_of_plainAt h)
  simp [hcs]

theorem length_prettyMember_pos (k : Nat) (m : String × Json) :
    0 < (prettyMember k m).length := by
  obtain ⟨key, v⟩ := m
  simp [prettyMember, printString]

/-- What a round trip is for each of the readers, with fuel `n`. -/
structure PrettyTrip (n : Nat) : Prop where
  value {d k j rest} : PlainAt d j → (pretty k j).length ≤ n → Stops rest →
    parseValue n d (pretty k j ++ rest) = some (j, rest)
  elems {d k xs rest} : (∀ x ∈ xs, PlainAt d x) → (prettyElems k xs).length ≤ n →
    parseElems n d (prettyElems k xs ++ rest) = some (xs, rest)
  moreElems {d k xs rest} : (∀ x ∈ xs, PlainAt d x) → (prettyMoreElems k xs).length ≤ n →
    parseMoreElems n d (prettyMoreElems k xs ++ rest) = some (xs, rest)
  members {d k ms rest} : (∀ m ∈ ms, PlainAt d m.2) → (prettyMembers k ms).length ≤ n →
    parseMembers n d (prettyMembers k ms ++ rest) = some (ms, rest)
  moreMembers {d k ms rest} : (∀ m ∈ ms, PlainAt d m.2) → (prettyMoreMembers k ms).length ≤ n →
    parseMoreMembers n d (prettyMoreMembers k ms ++ rest) = some (ms, rest)
  member {d k m rest} : PlainAt d m.2 → (prettyMember k m).length ≤ n → Stops rest →
    parseMember n d (prettyMember k m ++ rest) = some (m, rest)

theorem prettyTrip_zero : PrettyTrip 0 where
  value {_ k _ _} h hl _ := by have := length_pretty_pos (k := k) h; omega
  elems {_ k xs _} _ hl := by
    cases xs with
    | nil => simp [prettyElems] at hl
    | cons x xs => simp [prettyElems, newline] at hl
  moreElems {_ k xs _} _ hl := by have := (prettyMoreElems_head k xs []).2; omega
  members {_ k ms _} _ hl := by
    cases ms with
    | nil => simp [prettyMembers] at hl
    | cons m ms => simp [prettyMembers, newline] at hl
  moreMembers {_ k ms _} _ hl := by have := (prettyMoreMembers_head k ms []).2; omega
  member {_ k m _} _ hl _ := by have := length_prettyMember_pos k m; omega

/-- A value is read back if what it is made of is. -/
theorem PrettyTrip.value_succ {n : Nat} (ih : PrettyTrip n) {d k : Nat} {j : Json}
    {rest : List Char} (hj : PlainAt d j) (hl : (pretty k j).length ≤ n + 1) (hr : Stops rest) :
    parseValue (n + 1) d (pretty k j ++ rest) = some (j, rest) := by
  cases j with
  | null | bool _ | int _ | str _ =>
    rw [pretty] at hl ⊢
    exact (roundTrip (n + 1)).value hj hl hr
  | float text => exact absurd rfl (ne_float_of_plainAt hj text)
  | arr xs =>
    cases d with
    | zero => exact hj.elim
    | succ d =>
      have hl' : (prettyElems k xs).length ≤ n := by simpa [pretty] using hl
      rw [pretty, List.cons_append, parseValue, skipWs_cons (by decide)]
      simp only
      rw [if_neg (by decide), if_neg (by decide), if_neg (by decide), if_neg (by decide),
        if_pos trivial, ih.elems hj hl']
      rfl
  | obj ms =>
    cases d with
    | zero => exact hj.elim
    | succ d =>
      have hl' : (prettyMembers k ms).length ≤ n := by simpa [pretty] using hl
      rw [pretty, List.cons_append, parseValue, skipWs_cons (by decide)]
      simp only
      rw [if_neg (by decide), if_neg (by decide), if_neg (by decide), if_neg (by decide),
        if_neg (by decide), if_pos trivial, ih.members hj hl']
      rfl

/-- A member is read back if its value is. -/
theorem PrettyTrip.member_succ {n : Nat} (ih : PrettyTrip n) {d k : Nat} {m : String × Json}
    {rest : List Char} (hm : PlainAt d m.2) (hl : (prettyMember k m).length ≤ n + 1)
    (hr : Stops rest) : parseMember (n + 1) d (prettyMember k m ++ rest) = some (m, rest) := by
  obtain ⟨key, v⟩ := m
  have hlv : (pretty k v).length ≤ n := by
    simp only [prettyMember, printString, List.length_append, List.length_cons] at hl
    omega
  have hkey := parseString_printString key (':' :: ' ' :: (pretty k v ++ rest))
  have hcolon : ∀ cs, skipWs (':' :: cs) = ':' :: cs := fun cs => skipWs_cons (by decide) cs
  rw [prettyMember, printString, List.cons_append, List.cons_append, parseMember,
    skipWs_cons (by decide)]
  simp only [if_true]
  rw [show key.toList.flatMap escapeChar ++ [quote] ++ ':' :: ' ' :: pretty k v ++ rest =
    key.toList.flatMap escapeChar ++ [quote] ++ (':' :: ' ' :: (pretty k v ++ rest)) by simp, hkey]
  simp only [Option.bind_some, hcolon, if_true]
  rw [parseValue_of_skipWs (skipWs_space _), ih.value hm hlv hr]
  simp

/-- An element and what comes after it are read back, whatever white space is before it. -/
theorem PrettyTrip.elem_succ {n : Nat} (ih : PrettyTrip n) {d k : Nat} {x : Json} {xs : List Json}
    {rest : List Char} (hx : ∀ y ∈ x :: xs, PlainAt d y)
    (hl : (pretty (k + 1) x ++ prettyMoreElems k xs).length ≤ n + 1) :
    ((parseValue n d (newline (k + 1) ++ (pretty (k + 1) x ++ prettyMoreElems k xs) ++ rest)).bind
      fun p => (parseMoreElems n d p.2).map fun q => (p.1 :: q.1, q.2)) = some (x :: xs, rest) := by
  obtain ⟨hstop, hpos⟩ := prettyMoreElems_head k xs rest
  have hxpos := length_pretty_pos (k := k + 1) (hx x List.mem_cons_self)
  rw [List.length_append] at hl
  rw [List.append_assoc, parseValue_of_skipWs (skipWs_newline _ _), List.append_assoc,
    ih.value (hx x List.mem_cons_self) (by omega) hstop, Option.bind_some,
    ih.moreElems (fun y hy => hx y (List.mem_cons_of_mem _ hy)) (by omega)]
  rfl

/-- So are a member and what comes after it. -/
theorem PrettyTrip.member_more {n : Nat} (ih : PrettyTrip n) {d k : Nat} {m : String × Json}
    {ms : List (String × Json)} {rest : List Char} (hm : ∀ m' ∈ m :: ms, PlainAt d m'.2)
    (hl : (prettyMember (k + 1) m ++ prettyMoreMembers k ms).length ≤ n + 1) :
    ((parseMember n d
        (newline (k + 1) ++ (prettyMember (k + 1) m ++ prettyMoreMembers k ms) ++ rest)).bind
      fun p => (parseMoreMembers n d p.2).map fun q => (p.1 :: q.1, q.2)) = some (m :: ms, rest) := by
  obtain ⟨hstop, hpos⟩ := prettyMoreMembers_head k ms rest
  have hmpos := length_prettyMember_pos (k + 1) m
  rw [List.length_append] at hl
  rw [List.append_assoc, parseMember_of_skipWs (skipWs_newline _ _), List.append_assoc,
    ih.member (hm m List.mem_cons_self) (by omega) hstop, Option.bind_some,
    ih.moreMembers (fun m' hm' => hm m' (List.mem_cons_of_mem _ hm')) (by omega)]
  rfl

theorem PrettyTrip.elems_succ {n : Nat} (ih : PrettyTrip n) {d k : Nat} {xs : List Json}
    {rest : List Char} (hxs : ∀ x ∈ xs, PlainAt d x) (hl : (prettyElems k xs).length ≤ n + 1) :
    parseElems (n + 1) d (prettyElems k xs ++ rest) = some (xs, rest) := by
  cases xs with
  | nil => simp [prettyElems, parseElems, skipWs, isWs]
  | cons x xs =>
    obtain ⟨c, cs, hc, hws, hne, -⟩ :=
      pretty_head (k + 1) x (ne_float_of_plainAt (hxs x List.mem_cons_self))
    have hskip : skipWs (newline (k + 1) ++ (pretty (k + 1) x ++ prettyMoreElems k xs) ++ rest) =
        c :: (cs ++ prettyMoreElems k xs ++ rest) := by
      rw [List.append_assoc, skipWs_newline, hc, List.cons_append, List.cons_append,
        skipWs_cons hws]
    rw [prettyElems, parseElems, hskip]
    simp only
    rw [if_neg hne]
    refine ih.elem_succ hxs ?_
    rw [prettyElems, List.length_append] at hl
    omega

theorem PrettyTrip.moreElems_succ {n : Nat} (ih : PrettyTrip n) {d k : Nat} {xs : List Json}
    {rest : List Char} (hxs : ∀ x ∈ xs, PlainAt d x)
    (hl : (prettyMoreElems k xs).length ≤ n + 1) :
    parseMoreElems (n + 1) d (prettyMoreElems k xs ++ rest) = some (xs, rest) := by
  cases xs with
  | nil =>
    rw [prettyMoreElems, List.append_assoc, parseMoreElems, skipWs_newline]
    simp [skipWs, isWs]
  | cons x xs =>
    rw [prettyMoreElems, List.cons_append, parseMoreElems, skipWs_cons (by decide)]
    simp only
    rw [if_neg (by decide), if_pos trivial]
    refine ih.elem_succ hxs ?_
    rw [prettyMoreElems, List.length_cons, List.length_append] at hl
    omega

theorem PrettyTrip.members_succ {n : Nat} (ih : PrettyTrip n) {d k : Nat}
    {ms : List (String × Json)} {rest : List Char} (hms : ∀ m ∈ ms, PlainAt d m.2)
    (hl : (prettyMembers k ms).length ≤ n + 1) :
    parseMembers (n + 1) d (prettyMembers k ms ++ rest) = some (ms, rest) := by
  cases ms with
  | nil => simp [prettyMembers, parseMembers, skipWs, isWs]
  | cons m ms =>
    obtain ⟨cs, hskip⟩ : ∃ cs, skipWs (newline (k + 1) ++
        (prettyMember (k + 1) m ++ prettyMoreMembers k ms) ++ rest) = quote :: cs := by
      obtain ⟨key, v⟩ := m
      rw [List.append_assoc, skipWs_newline]
      exact ⟨_, rfl⟩
    rw [prettyMembers, parseMembers, hskip]
    simp only
    rw [if_neg (by decide)]
    refine ih.member_more hms ?_
    rw [prettyMembers, List.length_append] at hl
    omega

theorem PrettyTrip.moreMembers_succ {n : Nat} (ih : PrettyTrip n) {d k : Nat}
    {ms : List (String × Json)} {rest : List Char} (hms : ∀ m ∈ ms, PlainAt d m.2)
    (hl : (prettyMoreMembers k ms).length ≤ n + 1) :
    parseMoreMembers (n + 1) d (prettyMoreMembers k ms ++ rest) = some (ms, rest) := by
  cases ms with
  | nil =>
    rw [prettyMoreMembers, List.append_assoc, parseMoreMembers, skipWs_newline]
    simp [skipWs, isWs]
  | cons m ms =>
    rw [prettyMoreMembers, List.cons_append, parseMoreMembers, skipWs_cons (by decide)]
    simp only
    rw [if_neg (by decide), if_pos trivial]
    refine ih.member_more hms ?_
    rw [prettyMoreMembers, List.length_cons, List.length_append] at hl
    omega

theorem prettyTrip (n : Nat) : PrettyTrip n := by
  induction n with
  | zero => exact prettyTrip_zero
  | succ n ih =>
    exact ⟨ih.value_succ, ih.elems_succ, ih.moreElems_succ, ih.members_succ, ih.moreMembers_succ,
      ih.member_succ⟩

/-- **Reading what was written for people** gives the tree back. -/
theorem parse_pretty {k : Nat} {j : Json} (h : PlainAt maxDepth j) :
    parse (pretty k j) = some j := by
  have hv := (prettyTrip ((pretty k j).length + 1)).value (k := k) h (by omega) stops_nil
  rw [List.append_nil] at hv
  rw [parse, hv, Option.bind_some]
  exact if_pos rfl

/-- The text of an object starts and ends with a brace. -/
theorem pretty_obj_ends (k : Nat) (ms : List (String × Json)) :
    (pretty k (.obj ms)).head? = some '{' ∧ (pretty k (.obj ms)).getLast? = some '}' := by
  have hmore : ∀ ms, (prettyMoreMembers k ms).getLast? = some '}' := by
    intro ms
    induction ms with
    | nil =>
      rw [prettyMoreMembers, List.getLast?_append]
      rfl
    | cons m ms ih =>
      rw [prettyMoreMembers, List.getLast?_cons, List.getLast?_append, List.getLast?_append, ih]
      rfl
  refine ⟨rfl, ?_⟩
  cases ms with
  | nil => rfl
  | cons m ms =>
    rw [pretty, prettyMembers, List.getLast?_cons, List.getLast?_append, List.getLast?_append, hmore]
    rfl

end JsonText
