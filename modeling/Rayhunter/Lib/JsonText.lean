import Mathlib.Algebra.Group.Int.Defs
import Mathlib.Algebra.Group.Nat.Defs
import Mathlib.Data.List.TakeWhile
import Rayhunter.Lib.Json

/-!
# JSON text

`print` writes a tree compactly and `parse` reads a text as the tree it denotes, refusing one that
nests deeper than `maxDepth`. Reading what was written gives the tree back (`parse_print`), for
trees whose numbers are integers of 64 bits; other numbers are kept as the text they were read
from. Recursion is on a fuel that the length of the text bounds.
-/

namespace JsonText

/-- The quotation mark. -/
def quote : Char := Char.ofNat 34

/-- The backslash. -/
def backslash : Char := Char.ofNat 92

/-! ## Writing -/

/-- A hexadecimal digit. -/
def hexDigit (n : Nat) : Char := if n < 10 then Char.ofNat (48 + n) else Char.ofNat (87 + n)

/-- A control character, as it is escaped where it has no shorter form. -/
def unicodeEscape (n : Nat) : List Char :=
  [backslash, 'u', '0', '0', hexDigit (n / 16), hexDigit (n % 16)]

/-- A character inside a string. -/
def escapeChar (c : Char) : List Char :=
  if c = quote then [backslash, quote]
  else if c = backslash then [backslash, backslash]
  else if 32 ≤ c.toNat then [c]
  else if c.toNat = 8 then [backslash, 'b']
  else if c.toNat = 9 then [backslash, 't']
  else if c.toNat = 10 then [backslash, 'n']
  else if c.toNat = 12 then [backslash, 'f']
  else if c.toNat = 13 then [backslash, 'r']
  else unicodeEscape c.toNat

/-- A string. -/
def printString (s : String) : List Char :=
  quote :: (s.toList.flatMap escapeChar ++ [quote])

/-- An integer. -/
def printInt : Int → List Char
  | .ofNat n => Nat.toDigits 10 n
  | .negSucc n => '-' :: Nat.toDigits 10 (n + 1)

mutual
/-- A value, without white space. -/
def print : Json → List Char
  | .null => ['n', 'u', 'l', 'l']
  | .bool true => ['t', 'r', 'u', 'e']
  | .bool false => ['f', 'a', 'l', 's', 'e']
  | .int n => printInt n
  | .float text => text.toList
  | .str s => printString s
  | .arr xs => '[' :: printElems xs
  | .obj ms => '{' :: printMembers ms
/-- The elements of an array and its end. -/
def printElems : List Json → List Char
  | [] => [']']
  | x :: xs => print x ++ printMoreElems xs
/-- The elements of an array after the first. -/
def printMoreElems : List Json → List Char
  | [] => [']']
  | x :: xs => ',' :: (print x ++ printMoreElems xs)
/-- The members of an object and its end. -/
def printMembers : List (String × Json) → List Char
  | [] => ['}']
  | m :: ms => printMember m ++ printMoreMembers ms
/-- The members of an object after the first. -/
def printMoreMembers : List (String × Json) → List Char
  | [] => ['}']
  | m :: ms => ',' :: (printMember m ++ printMoreMembers ms)
/-- A member of an object. -/
def printMember : String × Json → List Char
  | (k, v) => printString k ++ ':' :: print v
end

/-! ## Reading -/

/-- White space between the tokens. -/
def isWs (c : Char) : Bool := c = ' ' || c = '\n' || c = '\t' || c = '\r'

/-- The text without the white space it starts with. -/
def skipWs (cs : List Char) : List Char := cs.dropWhile isWs

/-- The value of a hexadecimal digit. -/
def hexVal (c : Char) : Option Nat :=
  let n := c.toNat
  if 48 ≤ n ∧ n ≤ 57 then some (n - 48)
  else if 97 ≤ n ∧ n ≤ 102 then some (n - 87)
  else if 65 ≤ n ∧ n ≤ 70 then some (n - 55)
  else none

/-- The number four hexadecimal digits write. -/
def hex4 (a b c d : Char) : Option Nat :=
  match hexVal a, hexVal b, hexVal c, hexVal d with
  | some a, some b, some c, some d => some (((a * 16 + b) * 16 + c) * 16 + d)
  | _, _, _, _ => none

/-- The characters that stand after a backslash for one character. -/
def shortEscape (c : Char) : Option Char :=
  if c = quote then some quote
  else if c = backslash then some backslash
  else if c = '/' then some '/'
  else if c = 'b' then some (Char.ofNat 8)
  else if c = 'f' then some (Char.ofNat 12)
  else if c = 'n' then some (Char.ofNat 10)
  else if c = 'r' then some (Char.ofNat 13)
  else if c = 't' then some (Char.ofNat 9)
  else none

/-- A unit that is the first half of a surrogate pair. -/
def isHigh (n : Nat) : Bool := 0xD800 ≤ n && n < 0xDC00

/-- A unit that is the second half of a surrogate pair. -/
def isLow (n : Nat) : Bool := 0xDC00 ≤ n && n < 0xE000

/-- The second half of a surrogate pair, after its first half `n`. -/
def readLow (n : Nat) : List Char → Option (Char × List Char)
  | b :: u :: l₁ :: l₂ :: l₃ :: l₄ :: cs =>
    if b = backslash ∧ u = 'u' then
      match hex4 l₁ l₂ l₃ l₄ with
      | none => none
      | some m =>
        if isLow m then
          some (Char.ofNat (0x10000 + (n - 0xD800) * 1024 + (m - 0xDC00)), cs)
        else none
    else none
  | _ => none

/-- What follows a backslash and a `u`: one unit of UTF-16, or two where the first asks for
it. -/
def readUnicode : List Char → Option (Char × List Char)
  | h₁ :: h₂ :: h₃ :: h₄ :: cs =>
    match hex4 h₁ h₂ h₃ h₄ with
    | none => none
    | some n =>
      if isLow n then none
      else if isHigh n then readLow n cs
      else some (Char.ofNat n, cs)
  | _ => none

/-- What follows a backslash. -/
def readEscape : List Char → Option (Char × List Char)
  | [] => none
  | e :: cs => if e = 'u' then readUnicode cs else (shortEscape e).map fun c => (c, cs)

/-- One character of a string, which the text starts with. -/
def readChar (c : Char) (cs : List Char) : Option (Char × List Char) :=
  if c = backslash then readEscape cs
  else if c.toNat < 32 then none
  else some (c, cs)

/-- The characters of a string up to its closing quotation mark, and the text after it. -/
def readChars : Nat → List Char → Option (List Char × List Char)
  | 0, _ => none
  | _ + 1, [] => none
  | n + 1, c :: cs =>
    if c = quote then some ([], cs)
    else (readChar c cs).bind fun p => (readChars n p.2).map fun q => (p.1 :: q.1, q.2)

/-- The rest of a string after its opening quotation mark, and the text after it. -/
def parseString (cs : List Char) : Option (List Char × List Char) := readChars cs.length cs

/-- Digits, and what follows them. -/
def splitDigits (cs : List Char) : List Char × List Char :=
  (cs.takeWhile Char.isDigit, cs.dropWhile Char.isDigit)

/-- The digits of a fraction or an exponent: at least one. -/
def someDigits (cs : List Char) : Option (List Char × List Char) :=
  if (splitDigits cs).1 = [] then none else some (splitDigits cs)

/-- The fraction of a number, with its point. -/
def fraction : List Char → Option (List Char × List Char)
  | '.' :: cs => (someDigits cs).map fun p => ('.' :: p.1, p.2)
  | cs => some ([], cs)

/-- The exponent of a number, with its letter. -/
def exponent : List Char → Option (List Char × List Char)
  | c :: cs =>
    if c = 'e' ∨ c = 'E' then
      match cs with
      | s :: ds =>
        if s = '+' ∨ s = '-' then (someDigits ds).map fun p => (c :: s :: p.1, p.2)
        else (someDigits cs).map fun p => (c :: p.1, p.2)
      | [] => none
    else some ([], c :: cs)
  | [] => some ([], [])

/-- The value of a number: an integer where it is one of 64 bits. -/
def numberValue (neg : Bool) (int frac exp : List Char) : Json :=
  let n := Nat.ofDigitChars 10 int 0
  let text := (if neg then ['-'] else []) ++ int ++ frac ++ exp
  if frac = [] ∧ exp = [] ∧ (if neg then 0 < n ∧ n ≤ 2 ^ 63 else n < 2 ^ 64) then
    .int (if neg then -(n : Int) else n)
  else .float (String.ofList text)

/-- A number after its sign. -/
def parseUnsigned (neg : Bool) (cs : List Char) : Option (Json × List Char) :=
  let (int, cs) := splitDigits cs
  if int = [] ∨ (int.head? = some '0' ∧ int.length ≠ 1) then none
  else
    match fraction cs with
    | none => none
    | some (frac, cs) =>
      match exponent cs with
      | none => none
      | some (exp, cs) => some (numberValue neg int frac exp, cs)

/-- A number. -/
def parseNumber : List Char → Option (Json × List Char)
  | c :: cs => if c = '-' then parseUnsigned true cs else parseUnsigned false (c :: cs)
  | [] => none

/-- The text after a word it must start with. -/
def expect (w : List Char) (cs : List Char) : Option (List Char) :=
  if w.isPrefixOf cs then some (cs.drop w.length) else none

mutual
/-- A value. The arguments are the fuel and how deep arrays and objects may nest. -/
def parseValue : Nat → Nat → List Char → Option (Json × List Char)
  | 0, _, _ => none
  | n + 1, depth, cs =>
    match skipWs cs with
    | [] => none
    | c :: cs =>
      if c = 'n' then (expect ['u', 'l', 'l'] cs).map fun r => (.null, r)
      else if c = 't' then (expect ['r', 'u', 'e'] cs).map fun r => (.bool true, r)
      else if c = 'f' then (expect ['a', 'l', 's', 'e'] cs).map fun r => (.bool false, r)
      else if c = quote then
        (parseString cs).map fun p => (.str (String.ofList p.1), p.2)
      else if c = '[' then
        match depth with
        | 0 => none
        | d + 1 => (parseElems n d cs).map fun p => (.arr p.1, p.2)
      else if c = '{' then
        match depth with
        | 0 => none
        | d + 1 => (parseMembers n d cs).map fun p => (.obj p.1, p.2)
      else parseNumber (c :: cs)
termination_by structural n => n
/-- The elements of an array after its opening bracket. -/
def parseElems : Nat → Nat → List Char → Option (List Json × List Char)
  | 0, _, _ => none
  | n + 1, depth, cs =>
    match skipWs cs with
    | [] => none
    | c :: r =>
      if c = ']' then some ([], r)
      else (parseValue n depth cs).bind fun p =>
        (parseMoreElems n depth p.2).map fun q => (p.1 :: q.1, q.2)
termination_by structural n => n
/-- The elements of an array after the first. -/
def parseMoreElems : Nat → Nat → List Char → Option (List Json × List Char)
  | 0, _, _ => none
  | n + 1, depth, cs =>
    match skipWs cs with
    | [] => none
    | c :: r =>
      if c = ']' then some ([], r)
      else if c = ',' then
        (parseValue n depth r).bind fun p =>
          (parseMoreElems n depth p.2).map fun q => (p.1 :: q.1, q.2)
      else none
termination_by structural n => n
/-- The members of an object after its opening brace. -/
def parseMembers : Nat → Nat → List Char → Option (List (String × Json) × List Char)
  | 0, _, _ => none
  | n + 1, depth, cs =>
    match skipWs cs with
    | [] => none
    | c :: r =>
      if c = '}' then some ([], r)
      else (parseMember n depth cs).bind fun p =>
        (parseMoreMembers n depth p.2).map fun q => (p.1 :: q.1, q.2)
termination_by structural n => n
/-- The members of an object after the first. -/
def parseMoreMembers : Nat → Nat → List Char → Option (List (String × Json) × List Char)
  | 0, _, _ => none
  | n + 1, depth, cs =>
    match skipWs cs with
    | [] => none
    | c :: r =>
      if c = '}' then some ([], r)
      else if c = ',' then
        (parseMember n depth r).bind fun p =>
          (parseMoreMembers n depth p.2).map fun q => (p.1 :: q.1, q.2)
      else none
termination_by structural n => n
/-- A member of an object. -/
def parseMember : Nat → Nat → List Char → Option ((String × Json) × List Char)
  | 0, _, _ => none
  | n + 1, depth, cs =>
    match skipWs cs with
    | [] => none
    | c :: cs =>
      if c = quote then
        (parseString cs).bind fun p =>
          match skipWs p.2 with
          | [] => none
          | d :: r =>
            if d = ':' then
              (parseValue n depth r).map fun q => ((String.ofList p.1, q.1), q.2)
            else none
      else none
termination_by structural n => n
end

/-- How deep arrays and objects may nest. -/
def maxDepth : Nat := 127

/-- The value a text denotes. -/
def parse (cs : List Char) : Option Json :=
  (parseValue (cs.length + 1) maxDepth cs).bind fun p =>
    if skipWs p.2 = [] then some p.1 else none

/-- The value a text denotes that nests no deeper than `depth`. -/
def parseTo (depth : Nat) (cs : List Char) : Option Json :=
  (parseValue (cs.length + 1) depth cs).bind fun p =>
    if skipWs p.2 = [] then some p.1 else none

/-! ## Reading what was written -/

/-- The trees whose text is read back: integers of 64 bits and no other numbers, arrays and objects
nested no deeper than `d`. -/
def PlainAt : Nat → Json → Prop
  | _, .null => True
  | _, .bool _ => True
  | _, .int n => -2 ^ 63 ≤ n ∧ n < 2 ^ 64
  | _, .float _ => False
  | _, .str _ => True
  | 0, .arr _ => False
  | 0, .obj _ => False
  | d + 1, .arr xs => ∀ x ∈ xs, PlainAt d x
  | d + 1, .obj ms => ∀ m ∈ ms, PlainAt d m.2

/-- A text a number ends before. -/
def Stops (cs : List Char) : Prop :=
  ∀ c ∈ cs.head?, c.isDigit = false ∧ c ≠ '.' ∧ c ≠ 'e' ∧ c ≠ 'E'

theorem stops_nil : Stops [] := by simp [Stops]

theorem stops_cons {c : Char} (h : c = ',' ∨ c = ']' ∨ c = '}') (cs : List Char) :
    Stops (c :: cs) := by
  intro d hd
  simp only [List.head?_cons, Option.mem_some_iff] at hd
  subst hd
  rcases h with rfl | rfl | rfl <;> decide

theorem skipWs_cons {c : Char} (h : isWs c = false) (cs : List Char) :
    skipWs (c :: cs) = c :: cs := by
  simp [skipWs, h]

/-! ### Strings -/

/-- The escape of a control character is read as its code. -/
theorem hex4_hexDigit {n : Nat} (h : n < 32) :
    hex4 '0' '0' (hexDigit (n / 16)) (hexDigit (n % 16)) = some n := by
  have hall : ∀ n < 32, hex4 '0' '0' (hexDigit (n / 16)) (hexDigit (n % 16)) = some n := by
    decide
  exact hall n h

/-- A character that is written starts with no quotation mark and is read back. -/
theorem readChar_escapeChar (c : Char) : ∃ d ds, escapeChar c = d :: ds ∧ d ≠ quote ∧
    ∀ cs, readChar d (ds ++ cs) = some (c, cs) := by
  have hofNat : ∀ {n}, c.toNat = n → Char.ofNat n = c := by
    rintro n rfl
    exact Char.ofNat_toNat c
  have hshort : ∀ (e : Char), e ≠ 'u' → shortEscape e = some c →
      ∀ cs, readChar backslash ([e] ++ cs) = some (c, cs) := by
    intro e hu he cs
    simp [readChar, readEscape, hu, he]
  unfold escapeChar
  split
  · next hc => exact ⟨_, _, rfl, by decide, hshort _ (by decide) (by rw [hc]; decide)⟩
  split
  · next hc => exact ⟨_, _, rfl, by decide, hshort _ (by decide) (by rw [hc]; decide)⟩
  split
  · next hq hb hge => exact ⟨c, [], rfl, hq, by simp [readChar, hb, hge]⟩
  split
  · next h => exact ⟨_, _, rfl, by decide, hshort _ (by decide) (by rw [← hofNat h]; decide)⟩
  split
  · next h => exact ⟨_, _, rfl, by decide, hshort _ (by decide) (by rw [← hofNat h]; decide)⟩
  split
  · next h => exact ⟨_, _, rfl, by decide, hshort _ (by decide) (by rw [← hofNat h]; decide)⟩
  split
  · next h => exact ⟨_, _, rfl, by decide, hshort _ (by decide) (by rw [← hofNat h]; decide)⟩
  split
  · next h => exact ⟨_, _, rfl, by decide, hshort _ (by decide) (by rw [← hofNat h]; decide)⟩
  · next hge _ _ _ _ _ =>
    have hlt : c.toNat < 32 := by omega
    have hnl : isLow c.toNat = false := by simp [isLow]; omega
    have hnh : isHigh c.toNat = false := by simp [isHigh]; omega
    refine ⟨_, _, rfl, by decide, fun cs => ?_⟩
    simp [readChar, readEscape, readUnicode, hex4_hexDigit hlt, hnl, hnh]

/-- A string that is written is read back. -/
theorem readChars_flatMap (cs : List Char) {n : Nat} (rest : List Char) (hn : cs.length < n) :
    readChars n (cs.flatMap escapeChar ++ quote :: rest) = some (cs, rest) := by
  induction cs generalizing n with
  | nil =>
    obtain ⟨n, rfl⟩ := Nat.exists_eq_add_one_of_ne_zero (by omega : n ≠ 0)
    simp [readChars]
  | cons c cs ih =>
    obtain ⟨n, rfl⟩ := Nat.exists_eq_add_one_of_ne_zero (by omega : n ≠ 0)
    obtain ⟨d, ds, hd, hq, hr⟩ := readChar_escapeChar c
    rw [List.flatMap_cons, hd, List.cons_append, List.cons_append, readChars, if_neg hq,
      List.append_assoc, hr]
    simp only [List.length_cons] at hn
    simp [ih (by omega : cs.length < n)]

/-- Escaping makes no string shorter. -/
theorem length_le_flatMap (cs : List Char) : cs.length ≤ (cs.flatMap escapeChar).length := by
  induction cs with
  | nil => simp
  | cons c cs ih =>
    obtain ⟨d, ds, hd, -⟩ := readChar_escapeChar c
    rw [List.flatMap_cons, hd]
    simp only [List.length_cons, List.length_append]
    omega

theorem parseString_printString (s : String) (rest : List Char) :
    parseString (s.toList.flatMap escapeChar ++ [quote] ++ rest) = some (s.toList, rest) := by
  rw [parseString, List.append_assoc, List.singleton_append]
  refine readChars_flatMap _ _ ?_
  have := length_le_flatMap s.toList
  simp only [List.length_append, List.length_cons]
  omega

/-! ### Numbers -/

theorem splitDigits_append {ds rest : List Char} (hd : ∀ c ∈ ds, c.isDigit = true)
    (hr : Stops rest) : splitDigits (ds ++ rest) = (ds, rest) := by
  have htake : rest.takeWhile Char.isDigit = [] := by
    cases rest with
    | nil => rfl
    | cons c cs => simp [(hr c rfl).1]
  have hdrop : rest.dropWhile Char.isDigit = rest := by
    cases rest with
    | nil => rfl
    | cons c cs => simp [(hr c rfl).1]
  rw [splitDigits, List.takeWhile_append_of_pos hd, List.dropWhile_append_of_pos hd, htake, hdrop,
    List.append_nil]

theorem fraction_of_stops {rest : List Char} (h : Stops rest) : fraction rest = some ([], rest) := by
  cases rest with
  | nil => rfl
  | cons c cs =>
    have hne := (h c rfl).2.1
    rw [fraction]
    rintro ds ⟨⟩
    exact hne rfl

theorem exponent_of_stops {rest : List Char} (h : Stops rest) : exponent rest = some ([], rest) := by
  cases rest with
  | nil => rfl
  | cons c cs =>
    obtain ⟨-, -, he, hE⟩ := h c rfl
    unfold exponent
    simp [he, hE]

/-- Only zero is written with a leading zero. -/
theorem head?_toDigits {n : Nat} (h : (Nat.toDigits 10 n).head? = some '0') : n = 0 := by
  induction n using Nat.strong_induction_on with
  | _ n ih =>
    by_cases hlt : n < 10
    · have hall : ∀ n < 10, (Nat.toDigits 10 n).head? = some '0' → n = 0 := by decide
      exact hall n hlt h
    · rw [Nat.toDigits_of_base_le (by omega) (by omega)] at h
      have hne : Nat.toDigits 10 (n / 10) ≠ [] := Nat.toDigits_ne_nil
      rw [List.head?_append_of_ne_nil _ hne] at h
      have := ih (n / 10) (by omega) h
      omega

theorem isDigit_of_mem_toDigits {n : Nat} {c : Char} (hc : c ∈ Nat.toDigits 10 n) :
    c.isDigit = true :=
  Nat.isDigit_of_mem_toDigits (by omega) (by omega) hc

theorem ne_of_mem_toDigits {n : Nat} {c d : Char} (hc : c ∈ Nat.toDigits 10 n)
    (hd : d.isDigit = false) : c ≠ d := by
  rintro rfl
  rw [isDigit_of_mem_toDigits hc] at hd
  cases hd

/-- The digits of a number are read back. -/
theorem parseUnsigned_toDigits (neg : Bool) (n : Nat) {rest : List Char} (hr : Stops rest) :
    parseUnsigned neg (Nat.toDigits 10 n ++ rest) =
      some (numberValue neg (Nat.toDigits 10 n) [] [], rest) := by
  have hne : Nat.toDigits 10 n ≠ [] := Nat.toDigits_ne_nil
  have hlead : ¬ (Nat.toDigits 10 n = [] ∨
      ((Nat.toDigits 10 n).head? = some '0' ∧ (Nat.toDigits 10 n).length ≠ 1)) := by
    rintro (h | ⟨h, hl⟩)
    · exact hne h
    · rw [head?_toDigits h] at hl
      exact hl rfl
  have hsplit := splitDigits_append (fun c hc => isDigit_of_mem_toDigits (n := n) hc) hr
  unfold parseUnsigned
  rw [hsplit]
  simp only [if_neg hlead, fraction_of_stops hr, exponent_of_stops hr]

/-- An integer of 64 bits that is written is read back. -/
theorem parseNumber_printInt {i : Int} (hlo : -2 ^ 63 ≤ i) (hhi : i < 2 ^ 64) {rest : List Char}
    (hr : Stops rest) : parseNumber (printInt i ++ rest) = some (.int i, rest) := by
  cases i with
  | ofNat n =>
    obtain ⟨c, cs, hcs⟩ := List.exists_cons_of_ne_nil (Nat.toDigits_ne_nil (n := n) (b := 10))
    have hc : c ≠ '-' := ne_of_mem_toDigits (by rw [hcs]; simp) (by decide)
    have hval : numberValue false (Nat.toDigits 10 n) [] [] = .int n := by
      have hn : n < 2 ^ 64 := by
        simp only [Int.ofNat_eq_natCast] at hhi
        omega
      simp [numberValue, Nat.ofDigitChars_ten_toDigits]
      omega
    rw [printInt, hcs, List.cons_append, parseNumber, if_neg hc, ← List.cons_append, ← hcs,
      parseUnsigned_toDigits false n hr, hval]
    rfl
  | negSucc n =>
    have hval : numberValue true (Nat.toDigits 10 (n + 1)) [] [] = .int (Int.negSucc n) := by
      have hn : n + 1 ≤ 2 ^ 63 := by omega
      rw [numberValue, Nat.ofDigitChars_ten_toDigits, if_pos ⟨rfl, rfl, by simpa using hn⟩,
        if_pos rfl, Int.negSucc_eq]
      rfl
    rw [printInt, List.cons_append, parseNumber, if_pos rfl, parseUnsigned_toDigits true _ hr, hval]

/-! ### Values -/

/-- What a value may start with, as far as telling it from white space and closing brackets. -/
theorem print_head (j : Json) (hj : ∀ text, j ≠ .float text) : ∃ c cs, print j = c :: cs ∧
    isWs c = false ∧ c ≠ ']' ∧ c ≠ '}' := by
  cases j with
  | null => exact ⟨_, _, rfl, by decide, by decide, by decide⟩
  | bool b => cases b <;> exact ⟨_, _, rfl, by decide, by decide, by decide⟩
  | float text => exact absurd rfl (hj text)
  | str s => exact ⟨_, _, rfl, by decide, by decide, by decide⟩
  | arr xs => exact ⟨_, _, rfl, by decide, by decide, by decide⟩
  | obj ms => exact ⟨_, _, rfl, by decide, by decide, by decide⟩
  | int i =>
    cases i with
    | negSucc n => exact ⟨_, _, rfl, by decide, by decide, by decide⟩
    | ofNat n =>
      obtain ⟨c, cs, hcs⟩ := List.exists_cons_of_ne_nil (Nat.toDigits_ne_nil (n := n) (b := 10))
      have hmem : c ∈ Nat.toDigits 10 n := by rw [hcs]; simp
      refine ⟨c, cs, hcs, ?_, ne_of_mem_toDigits hmem (by decide),
        ne_of_mem_toDigits hmem (by decide)⟩
      simp only [isWs, Bool.or_eq_false_iff, decide_eq_false_iff_not]
      exact ⟨⟨⟨ne_of_mem_toDigits hmem (by decide), ne_of_mem_toDigits hmem (by decide)⟩,
        ne_of_mem_toDigits hmem (by decide)⟩, ne_of_mem_toDigits hmem (by decide)⟩

theorem ne_float_of_plainAt {d : Nat} {j : Json} (h : PlainAt d j) (text : String) :
    j ≠ .float text := by
  rintro rfl
  cases d <;> exact h

/-- A number is read where a number stands. -/
theorem parseValue_int {n d : Nat} {i : Int} {rest : List Char} (hlo : -2 ^ 63 ≤ i)
    (hhi : i < 2 ^ 64) (hr : Stops rest) :
    parseValue (n + 1) d (printInt i ++ rest) = some (.int i, rest) := by
  obtain ⟨c, cs, hcs, hws, -⟩ := print_head (.int i) (by simp)
  have hsafe : c = '-' ∨ c.isDigit = true := by
    cases i with
    | ofNat m =>
      right
      have hm : Nat.toDigits 10 m = c :: cs := hcs
      exact isDigit_of_mem_toDigits (n := m) (by rw [hm]; simp)
    | negSucc m => left; simpa [print, printInt] using (congrArg List.head? hcs).symm
  have hne : ∀ e : Char, e ≠ '-' → e.isDigit = false → c ≠ e := by
    rintro e h₁ h₂ rfl
    rcases hsafe with h | h
    · exact h₁ h
    · rw [h] at h₂; cases h₂
  have hp := parseNumber_printInt hlo hhi hr
  rw [show printInt i = c :: cs from hcs] at hp ⊢
  rw [List.cons_append, parseValue, skipWs_cons hws]
  simp only
  rw [if_neg (hne _ (by decide) (by decide)), if_neg (hne _ (by decide) (by decide)),
    if_neg (hne _ (by decide) (by decide)), if_neg (hne _ (by decide) (by decide)),
    if_neg (hne _ (by decide) (by decide)), if_neg (hne _ (by decide) (by decide))]
  exact hp

/-- What stands after an element or a member starts with a comma or a closing bracket. -/
theorem printMoreElems_head (xs : List Json) (rest : List Char) :
    Stops (printMoreElems xs ++ rest) ∧ 0 < (printMoreElems xs).length := by
  cases xs with
  | nil => exact ⟨stops_cons (.inr (.inl rfl)) _, by simp [printMoreElems]⟩
  | cons x xs => exact ⟨stops_cons (.inl rfl) _, by simp [printMoreElems]⟩

theorem printMoreMembers_head (ms : List (String × Json)) (rest : List Char) :
    Stops (printMoreMembers ms ++ rest) ∧ 0 < (printMoreMembers ms).length := by
  cases ms with
  | nil => exact ⟨stops_cons (.inr (.inr rfl)) _, by simp [printMoreMembers]⟩
  | cons x xs => exact ⟨stops_cons (.inl rfl) _, by simp [printMoreMembers]⟩

/-- A string that is written is read back as a value. -/
theorem parseValue_str {n d : Nat} (s : String) (rest : List Char) :
    parseValue (n + 1) d (printString s ++ rest) = some (.str s, rest) := by
  have hp := parseString_printString s rest
  rw [printString, List.cons_append, parseValue, skipWs_cons (by decide)]
  simp only
  rw [if_neg (by decide), if_neg (by decide), if_neg (by decide), if_pos trivial, hp]
  simp

/-- What a round trip is for each of the readers, with fuel `n`. -/
structure RoundTrip (n : Nat) : Prop where
  value {d j rest} : PlainAt d j → (print j).length ≤ n → Stops rest →
    parseValue n d (print j ++ rest) = some (j, rest)
  elems {d xs rest} : (∀ x ∈ xs, PlainAt d x) → (printElems xs).length ≤ n →
    parseElems n d (printElems xs ++ rest) = some (xs, rest)
  moreElems {d xs rest} : (∀ x ∈ xs, PlainAt d x) → (printMoreElems xs).length ≤ n →
    parseMoreElems n d (printMoreElems xs ++ rest) = some (xs, rest)
  members {d ms rest} : (∀ m ∈ ms, PlainAt d m.2) → (printMembers ms).length ≤ n →
    parseMembers n d (printMembers ms ++ rest) = some (ms, rest)
  moreMembers {d ms rest} : (∀ m ∈ ms, PlainAt d m.2) → (printMoreMembers ms).length ≤ n →
    parseMoreMembers n d (printMoreMembers ms ++ rest) = some (ms, rest)
  member {d m rest} : PlainAt d m.2 → (printMember m).length ≤ n → Stops rest →
    parseMember n d (printMember m ++ rest) = some (m, rest)

theorem length_print_pos {d : Nat} {j : Json} (h : PlainAt d j) : 0 < (print j).length := by
  obtain ⟨c, cs, hcs, -⟩ := print_head j (ne_float_of_plainAt h)
  simp [hcs]

theorem length_printMember_pos (m : String × Json) : 0 < (printMember m).length := by
  obtain ⟨k, v⟩ := m
  simp [printMember, printString]

/-- With no fuel there is nothing to read. -/
theorem roundTrip_zero : RoundTrip 0 where
  value h hl _ := by have := length_print_pos h; omega
  elems {d xs _} h hl := by
    cases xs with
    | nil => simp [printElems] at hl
    | cons x xs =>
      have := length_print_pos (h x (by simp))
      simp only [printElems, List.length_append] at hl
      omega
  moreElems {_ xs _} _ hl := by have := (printMoreElems_head xs []).2; omega
  members {_ ms _} _ hl := by
    cases ms with
    | nil => simp [printMembers] at hl
    | cons m ms =>
      have := length_printMember_pos m
      simp only [printMembers, List.length_append] at hl
      omega
  moreMembers {_ ms _} _ hl := by have := (printMoreMembers_head ms []).2; omega
  member {_ m _} _ hl _ := by have := length_printMember_pos m; omega

/-- A value is read back if what it is made of is. -/
theorem RoundTrip.value_succ {n : Nat} (ih : RoundTrip n) {d : Nat} {j : Json} {rest : List Char}
    (hj : PlainAt d j) (hl : (print j).length ≤ n + 1) (hr : Stops rest) :
    parseValue (n + 1) d (print j ++ rest) = some (j, rest) := by
  cases j with
  | null => simp [print, parseValue, skipWs, isWs, expect]
  | bool b => cases b <;> simp [print, parseValue, skipWs, isWs, expect]
  | float text => exact absurd rfl (ne_float_of_plainAt hj text)
  | str s => exact parseValue_str s rest
  | int i =>
    have hi : -2 ^ 63 ≤ i ∧ i < 2 ^ 64 := by cases d <;> exact hj
    exact parseValue_int hi.1 hi.2 hr
  | arr xs =>
    cases d with
    | zero => exact hj.elim
    | succ d =>
      have hl' : (printElems xs).length ≤ n := by simpa [print] using hl
      have hw : skipWs ('[' :: (printElems xs ++ rest)) = '[' :: (printElems xs ++ rest) :=
        skipWs_cons (by decide) _
      rw [print, List.cons_append, parseValue, hw]
      simp only
      rw [if_neg (by decide), if_neg (by decide), if_neg (by decide), if_neg (by decide),
        if_pos trivial, ih.elems hj hl']
      rfl
  | obj ms =>
    cases d with
    | zero => exact hj.elim
    | succ d =>
      have hl' : (printMembers ms).length ≤ n := by simpa [print] using hl
      have hw : skipWs ('{' :: (printMembers ms ++ rest)) = '{' :: (printMembers ms ++ rest) :=
        skipWs_cons (by decide) _
      rw [print, List.cons_append, parseValue, hw]
      simp only
      rw [if_neg (by decide), if_neg (by decide), if_neg (by decide), if_neg (by decide),
        if_neg (by decide), if_pos trivial, ih.members hj hl']
      rfl

/-- A member is read back if its value is. -/
theorem RoundTrip.member_succ {n : Nat} (ih : RoundTrip n) {d : Nat} {m : String × Json}
    {rest : List Char} (hm : PlainAt d m.2) (hl : (printMember m).length ≤ n + 1)
    (hr : Stops rest) : parseMember (n + 1) d (printMember m ++ rest) = some (m, rest) := by
  obtain ⟨k, v⟩ := m
  have hlv : (print v).length ≤ n := by
    simp only [printMember, printString, List.length_append, List.length_cons] at hl
    omega
  have hk := parseString_printString k (':' :: (print v ++ rest))
  have hw : ∀ cs, skipWs (quote :: cs) = quote :: cs := fun cs => skipWs_cons (by decide) cs
  have hc : ∀ cs, skipWs (':' :: cs) = ':' :: cs := fun cs => skipWs_cons (by decide) cs
  rw [printMember, printString, List.cons_append, List.cons_append, parseMember, hw]
  simp only [if_true]
  rw [show k.toList.flatMap escapeChar ++ [quote] ++ ':' :: print v ++ rest =
    k.toList.flatMap escapeChar ++ [quote] ++ (':' :: (print v ++ rest)) by simp, hk]
  simp only [Option.bind_some, hc, if_true]
  rw [ih.value hm hlv hr]
  simp

/-- The elements of an array are read back if each of them is. -/
theorem RoundTrip.elems_succ {n : Nat} (ih : RoundTrip n) {d : Nat} {xs : List Json}
    {rest : List Char} (hxs : ∀ x ∈ xs, PlainAt d x) (hl : (printElems xs).length ≤ n + 1) :
    parseElems (n + 1) d (printElems xs ++ rest) = some (xs, rest) := by
  cases xs with
  | nil => simp [printElems, parseElems, skipWs, isWs]
  | cons x xs =>
    have hx := hxs x (by simp)
    obtain ⟨c, cs, hc, hws, hne, -⟩ := print_head x (ne_float_of_plainAt hx)
    obtain ⟨hstop, hpos⟩ := printMoreElems_head xs rest
    have hxpos := length_print_pos hx
    simp only [printElems, List.length_append] at hl
    have hfull : print x ++ (printMoreElems xs ++ rest) =
        c :: (cs ++ (printMoreElems xs ++ rest)) := by rw [hc, List.cons_append]
    rw [printElems, List.append_assoc, hfull, parseElems, skipWs_cons hws]
    simp only
    rw [if_neg hne, ← hfull, ih.value hx (by omega) hstop, Option.bind_some,
      ih.moreElems (fun y hy => hxs y (by simp [hy])) (by omega)]
    rfl

/-- The same after the first element, with the comma before each. -/
theorem RoundTrip.moreElems_succ {n : Nat} (ih : RoundTrip n) {d : Nat} {xs : List Json}
    {rest : List Char} (hxs : ∀ x ∈ xs, PlainAt d x)
    (hl : (printMoreElems xs).length ≤ n + 1) :
    parseMoreElems (n + 1) d (printMoreElems xs ++ rest) = some (xs, rest) := by
  cases xs with
  | nil => simp [printMoreElems, parseMoreElems, skipWs, isWs]
  | cons x xs =>
    have hx := hxs x (by simp)
    obtain ⟨hstop, hpos⟩ := printMoreElems_head xs rest
    simp only [printMoreElems, List.length_cons, List.length_append] at hl
    rw [printMoreElems, List.cons_append, List.append_assoc, parseMoreElems,
      skipWs_cons (by decide)]
    simp only
    rw [if_neg (by decide), if_pos trivial, ih.value hx (by omega) hstop, Option.bind_some,
      ih.moreElems (fun y hy => hxs y (by simp [hy])) (by omega)]
    rfl

/-- The members of an object are read back if each of them is. -/
theorem RoundTrip.members_succ {n : Nat} (ih : RoundTrip n) {d : Nat} {ms : List (String × Json)}
    {rest : List Char} (hms : ∀ m ∈ ms, PlainAt d m.2)
    (hl : (printMembers ms).length ≤ n + 1) :
    parseMembers (n + 1) d (printMembers ms ++ rest) = some (ms, rest) := by
  cases ms with
  | nil => simp [printMembers, parseMembers, skipWs, isWs]
  | cons m ms =>
    have hm := hms m (by simp)
    obtain ⟨hstop, hpos⟩ := printMoreMembers_head ms rest
    have hmpos := length_printMember_pos m
    simp only [printMembers, List.length_append] at hl
    obtain ⟨cs, hfull⟩ : ∃ cs, printMember m ++ (printMoreMembers ms ++ rest) = quote :: cs := by
      obtain ⟨k, v⟩ := m
      exact ⟨_, rfl⟩
    rw [printMembers, List.append_assoc, hfull, parseMembers, skipWs_cons (by decide)]
    simp only
    rw [if_neg (by decide), ← hfull, ih.member hm (by omega) hstop, Option.bind_some,
      ih.moreMembers (fun y hy => hms y (by simp [hy])) (by omega)]
    rfl

/-- The same after the first member, with the comma before each. -/
theorem RoundTrip.moreMembers_succ {n : Nat} (ih : RoundTrip n) {d : Nat}
    {ms : List (String × Json)} {rest : List Char} (hms : ∀ m ∈ ms, PlainAt d m.2)
    (hl : (printMoreMembers ms).length ≤ n + 1) :
    parseMoreMembers (n + 1) d (printMoreMembers ms ++ rest) = some (ms, rest) := by
  cases ms with
  | nil => simp [printMoreMembers, parseMoreMembers, skipWs, isWs]
  | cons m ms =>
    have hm := hms m (by simp)
    obtain ⟨hstop, hpos⟩ := printMoreMembers_head ms rest
    simp only [printMoreMembers, List.length_cons, List.length_append] at hl
    rw [printMoreMembers, List.cons_append, List.append_assoc, parseMoreMembers,
      skipWs_cons (by decide)]
    simp only
    rw [if_neg (by decide), if_pos trivial, ih.member hm (by omega) hstop, Option.bind_some,
      ih.moreMembers (fun y hy => hms y (by simp [hy])) (by omega)]
    rfl

theorem roundTrip (n : Nat) : RoundTrip n := by
  induction n with
  | zero => exact roundTrip_zero
  | succ n ih =>
    exact ⟨ih.value_succ, ih.elems_succ, ih.moreElems_succ, ih.members_succ, ih.moreMembers_succ,
      ih.member_succ⟩

theorem parseTo_print {d : Nat} {j : Json} (h : PlainAt d j) : parseTo d (print j) = some j := by
  have hv := (roundTrip ((print j).length + 1)).value h (by omega) stops_nil
  rw [List.append_nil] at hv
  rw [parseTo, hv, Option.bind_some]
  exact if_pos rfl

/-- **Reading what was written** gives the tree back. -/
theorem parse_print {j : Json} (h : PlainAt maxDepth j) : parse (print j) = some j :=
  parseTo_print h

/-- A tree that nests no deeper than `d` nests no deeper than a greater depth. -/
theorem PlainAt.mono {d e : Nat} {j : Json} (h : PlainAt d j) (hde : d ≤ e) : PlainAt e j := by
  induction d generalizing e j with
  | zero => cases e <;> cases j <;> first | exact h | exact h.elim
  | succ d ih =>
    obtain ⟨e, rfl⟩ : ∃ e', e = e' + 1 := ⟨e - 1, by omega⟩
    cases j with
    | arr xs => exact fun x hx => ih (h x hx) (by omega)
    | obj ms => exact fun m hm => ih (h m hm) (by omega)
    | _ => exact h

/-! ### No line feed in a text -/

/-- Only control characters are escaped as what they are not: a text holds none. -/
theorem le_toNat_of_mem_escapeChar {c d : Char} (h : d ∈ escapeChar c) : 32 ≤ d.toNat := by
  have hhex : ∀ n < 16, 32 ≤ (hexDigit n).toNat := by decide
  unfold escapeChar at h
  split_ifs at h with h₁ h₂ h₃ h₄ h₅ h₆ h₇ h₈
  · simp only [List.mem_cons, List.not_mem_nil, or_false] at h
    rcases h with rfl | rfl <;> decide
  · simp only [List.mem_cons, List.not_mem_nil, or_false] at h
    rcases h with rfl | rfl <;> decide
  · simp only [List.mem_singleton] at h
    subst h
    exact h₃
  all_goals
    simp only [unicodeEscape, List.mem_cons, List.not_mem_nil, or_false] at h
  · rcases h with rfl | rfl <;> decide
  · rcases h with rfl | rfl <;> decide
  · rcases h with rfl | rfl <;> decide
  · rcases h with rfl | rfl <;> decide
  · rcases h with rfl | rfl <;> decide
  · rcases h with rfl | rfl | rfl | rfl | rfl | rfl
    · decide
    · decide
    · decide
    · decide
    · exact hhex _ (by omega)
    · exact hhex _ (by omega)

theorem le_toNat_of_mem_printString {s : String} {c : Char} (h : c ∈ printString s) :
    32 ≤ c.toNat := by
  simp only [printString, List.mem_cons, List.mem_append, List.mem_flatMap, List.not_mem_nil,
    or_false] at h
  rcases h with rfl | ⟨d, -, h⟩ | rfl
  · decide
  · exact le_toNat_of_mem_escapeChar h
  · decide

theorem le_toNat_of_isDigit {c : Char} (h : c.isDigit = true) : 32 ≤ c.toNat := by
  simp only [Char.isDigit, Bool.and_eq_true, decide_eq_true_eq] at h
  have := UInt32.le_iff_toNat_le.1 h.1
  exact le_trans (by decide) this

theorem le_toNat_of_mem_printInt {i : Int} {c : Char} (h : c ∈ printInt i) : 32 ≤ c.toNat := by
  cases i with
  | ofNat n => exact le_toNat_of_isDigit (isDigit_of_mem_toDigits h)
  | negSucc n =>
    rcases List.mem_cons.1 h with rfl | h
    · decide
    · exact le_toNat_of_isDigit (isDigit_of_mem_toDigits h)

theorem le_toNat_of_mem_printElems {xs : List Json}
    (h : ∀ x ∈ xs, ∀ c ∈ print x, 32 ≤ c.toNat) :
    (∀ c ∈ printMoreElems xs, 32 ≤ c.toNat) ∧ ∀ c ∈ printElems xs, 32 ≤ c.toNat := by
  induction xs with
  | nil => simp [printMoreElems, printElems]
  | cons x xs ih =>
    obtain ⟨hmore, -⟩ := ih fun y hy => h y (by simp [hy])
    have hx := h x (by simp)
    have hrest : ∀ c ∈ print x ++ printMoreElems xs, 32 ≤ c.toNat := by
      intro c hc
      exact (List.mem_append.1 hc).elim (hx c) (hmore c)
    refine ⟨fun c hc => ?_, hrest⟩
    rcases List.mem_cons.1 hc with rfl | hc
    · decide
    · exact hrest c hc

theorem le_toNat_of_mem_printMembers {ms : List (String × Json)}
    (h : ∀ m ∈ ms, ∀ c ∈ print m.2, 32 ≤ c.toNat) :
    (∀ c ∈ printMoreMembers ms, 32 ≤ c.toNat) ∧ ∀ c ∈ printMembers ms, 32 ≤ c.toNat := by
  induction ms with
  | nil => simp [printMoreMembers, printMembers]
  | cons m ms ih =>
    obtain ⟨hmore, -⟩ := ih fun y hy => h y (by simp [hy])
    have hm : ∀ c ∈ printMember m, 32 ≤ c.toNat := by
      obtain ⟨k, v⟩ := m
      intro c hc
      rcases List.mem_append.1 hc with hc | hc
      · exact le_toNat_of_mem_printString hc
      · rcases List.mem_cons.1 hc with rfl | hc
        · decide
        · exact h (k, v) (by simp) c hc
    have hrest : ∀ c ∈ printMember m ++ printMoreMembers ms, 32 ≤ c.toNat := by
      intro c hc
      exact (List.mem_append.1 hc).elim (hm c) (hmore c)
    refine ⟨fun c hc => ?_, hrest⟩
    rcases List.mem_cons.1 hc with rfl | hc
    · decide
    · exact hrest c hc

/-- So a word that holds none, by the test of each of its characters. -/
theorem le_toNat_of_all {cs : List Char} (h : cs.all (32 ≤ ·.toNat) = true) :
    ∀ c ∈ cs, 32 ≤ c.toNat := fun c hc => of_decide_eq_true (List.all_eq_true.1 h c hc)

/-- The text of a tree holds no control character. -/
theorem le_toNat_of_mem_print {d : Nat} {j : Json} (hj : PlainAt d j) :
    ∀ c ∈ print j, 32 ≤ c.toNat := by
  induction d generalizing j with
  | zero =>
    cases j with
    | null => exact le_toNat_of_all (by decide)
    | bool b => exact le_toNat_of_all (by cases b <;> decide)
    | float text => exact hj.elim
    | str s => exact fun c => le_toNat_of_mem_printString
    | int i => exact fun c => le_toNat_of_mem_printInt
    | arr xs => exact hj.elim
    | obj ms => exact hj.elim
  | succ d ih =>
    cases j with
    | null => exact le_toNat_of_all (by decide)
    | bool b => exact le_toNat_of_all (by cases b <;> decide)
    | float text => exact hj.elim
    | str s => exact fun c => le_toNat_of_mem_printString
    | int i => exact fun c => le_toNat_of_mem_printInt
    | arr xs =>
      intro c hc
      rcases List.mem_cons.1 hc with rfl | hc
      · decide
      · exact (le_toNat_of_mem_printElems fun x hx => ih (hj x hx)).2 c hc
    | obj ms =>
      intro c hc
      rcases List.mem_cons.1 hc with rfl | hc
      · decide
      · exact (le_toNat_of_mem_printMembers fun m hm => ih (hj m hm)).2 c hc

/-- The text of an object starts and ends with a brace. -/
theorem print_obj_ends (ms : List (String × Json)) :
    (print (.obj ms)).head? = some '{' ∧ (print (.obj ms)).getLast? = some '}' := by
  have hmore : ∀ ms, (printMoreMembers ms).getLast? = some '}' := by
    intro ms
    induction ms with
    | nil => rfl
    | cons m ms ih =>
      rw [printMoreMembers, List.getLast?_cons, List.getLast?_append, ih]
      rfl
  refine ⟨rfl, ?_⟩
  cases ms with
  | nil => rfl
  | cons m ms =>
    rw [print, printMembers, List.getLast?_cons, List.getLast?_append, hmore]
    rfl

end JsonText
