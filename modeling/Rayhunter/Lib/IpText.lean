import Mathlib.Data.List.TakeWhile
import Rayhunter.Lib.Hex

/-!
# Internet addresses as text

`IpAddr` of the standard library with its `FromStr` and its `Display`. What is read as an address
and what one is shown as consists of the characters addresses are made of
(`isAddressChar_of_names`); an IPv6 address has a colon in it and an IPv4 address has none
(`colon_mem_iff`).
-/

namespace Net

/-- `Ipv4Addr`, by its octets. -/
structure Ipv4Addr where
  a : UInt8
  b : UInt8
  c : UInt8
  d : UInt8
  deriving DecidableEq, Repr

/-- `Ipv6Addr`, by its segments. -/
structure Ipv6Addr where
  segments : List UInt16
  length_eq : segments.length = 8
  deriving DecidableEq, Repr

/-- The address with these segments. -/
def Ipv6Addr.ofList (segments : List UInt16) : Ipv6Addr where
  segments := (segments ++ List.replicate 8 0).take 8
  length_eq := by simp

/-- `IpAddr`. -/
inductive IpAddr
  | v4 (addr : Ipv4Addr)
  | v6 (addr : Ipv6Addr)
  deriving DecidableEq, Repr

/-- `is_loopback`. -/
def IpAddr.isLoopback : IpAddr → Bool
  | v4 addr => addr.a = 127
  | v6 addr => addr.segments = [0, 0, 0, 0, 0, 0, 0, 1]

/-! ## Reading -/

/-- `to_digit`. -/
def digit? (radix : Nat) (c : Char) : Option Nat := (Hex.value? c).filter (· < radix)

/-- `read_number`: a number of so many digits at most, up to a largest one, with or without zeros
before it. -/
def readNumber (radix maxDigits : Nat) (zeros : Bool) (max : Nat) (cs : List Char) :
    Option (Nat × List Char) :=
  let digits := cs.takeWhile fun c => (digit? radix c).isSome
  let value := digits.foldl (fun n c => n * radix + (digit? radix c).getD 0) 0
  if digits ≠ [] ∧ digits.length ≤ maxDigits ∧
      (zeros = true ∨ digits.length = 1 ∨ digits.head? ≠ some '0') ∧ value ≤ max then
    some (value, cs.dropWhile fun c => (digit? radix c).isSome)
  else none

/-- `read_separator`: what is read has a separator before it, but for the first. -/
def separated {α : Type} (sep : Char) (first : Bool) (read : List Char → Option (α × List Char)) :
    List Char → Option (α × List Char)
  | [] => if first then read [] else none
  | c :: cs => if first then read (c :: cs) else if c = sep then read cs else none

/-- One number of an IPv4 address. -/
def readOctet : List Char → Option (Nat × List Char) := readNumber 10 3 false 255

/-- `read_ipv4_addr`. -/
def readIpv4 (cs : List Char) : Option (Ipv4Addr × List Char) :=
  (separated '.' true readOctet cs).bind fun (a, cs) =>
  (separated '.' false readOctet cs).bind fun (b, cs) =>
  (separated '.' false readOctet cs).bind fun (c, cs) =>
  (separated '.' false readOctet cs).map fun (d, cs) =>
    (⟨UInt8.ofNat a, UInt8.ofNat b, UInt8.ofNat c, UInt8.ofNat d⟩, cs)

/-- Two octets as a segment. -/
def segment (hi lo : UInt8) : UInt16 := hi.toUInt16 <<< 8 ||| lo.toUInt16

/-- `read_groups`: up to `n` groups, of which an IPv4 address at the end is two, and whether there
is one. -/
def readGroups : Nat → Bool → List Char → List UInt16 × Bool × List Char
  | 0, _, cs => ([], false, cs)
  | n + 1, first, cs =>
    match if n = 0 then none else separated ':' first readIpv4 cs with
    | some (addr, rest) => ([segment addr.a addr.b, segment addr.c addr.d], true, rest)
    | none =>
      match separated ':' first (readNumber 16 4 true 65535) cs with
      | some (group, rest) =>
        let (groups, ipv4, rest) := readGroups n false rest
        (UInt16.ofNat group :: groups, ipv4, rest)
      | none => ([], false, cs)

/-- `read_ipv6_addr`. -/
def readIpv6 (cs : List Char) : Option (Ipv6Addr × List Char) :=
  let (head, ipv4, rest) := readGroups 8 true cs
  if head.length = 8 then some (.ofList head, rest)
  else if ipv4 then none
  else
    match rest with
    | ':' :: ':' :: rest =>
      let (tail, _, rest) := readGroups (8 - (head.length + 1)) true rest
      some (.ofList (head ++ List.replicate (8 - head.length - tail.length) 0 ++ tail), rest)
    | _ => none

/-- `read_ip_addr`. -/
def readIpAddr (cs : List Char) : Option (IpAddr × List Char) :=
  match readIpv4 cs with
  | some (addr, rest) => some (.v4 addr, rest)
  | none => (readIpv6 cs).map fun (addr, rest) => (.v6 addr, rest)

/-- `str::parse::<IpAddr>`. -/
def parseIpAddr (cs : List Char) : Option IpAddr :=
  match readIpAddr cs with
  | some (addr, []) => some addr
  | _ => none

/-! ## Showing -/

/-- `Display` of an IPv4 address. -/
def Ipv4Addr.display (addr : Ipv4Addr) : List Char :=
  ['.'].intercalate ([addr.a, addr.b, addr.c, addr.d].map fun o => Nat.toDigits 10 o.toNat)

/-- `fmt_subslice`. -/
def fmtSubslice (segments : List UInt16) : List Char :=
  [':'].intercalate (segments.map fun s => Nat.toDigits 16 s.toNat)

/-- The first of the longest runs of zeros: where it starts and its length. -/
def zeroes (i : Nat) (current longest : Nat × Nat) : List UInt16 → Nat × Nat
  | [] => longest
  | s :: segments =>
    if s = 0 then
      let current := (if current.2 = 0 then i else current.1, current.2 + 1)
      zeroes (i + 1) current (if longest.2 < current.2 then current else longest) segments
    else zeroes (i + 1) (0, 0) longest segments

/-- The low and the high octet of a segment. -/
def octets (s : UInt16) : UInt8 × UInt8 := ((s >>> 8).toUInt8, s.toUInt8)

/-- `Display` of an IPv6 address. -/
def Ipv6Addr.display (addr : Ipv6Addr) : List Char :=
  match addr.segments with
  | [0, 0, 0, 0, 0, 0xffff, ab, cd] =>
    "::ffff:".toList ++
      Ipv4Addr.display ⟨(octets ab).1, (octets ab).2, (octets cd).1, (octets cd).2⟩
  | segments =>
    let run := zeroes 0 (0, 0) (0, 0) segments
    if 1 < run.2 then
      fmtSubslice (segments.take run.1) ++ "::".toList ++
        fmtSubslice (segments.drop (run.1 + run.2))
    else fmtSubslice segments

/-- `Display` of an address. -/
def IpAddr.display : IpAddr → List Char
  | v4 addr => addr.display
  | v6 addr => addr.display

example : parseIpAddr "fe80::1:192.168.1.1".toList =
    some (.v6 (.ofList [0xfe80, 0, 0, 0, 0, 1, 0xc0a8, 0x101])) := by decide
example : (IpAddr.v6 (.ofList [0xfe80, 0, 0, 0, 0, 1, 0xc0a8, 0x101])).display =
    "fe80::1:c0a8:101".toList := by decide
example : parseIpAddr "192.168.01.1".toList = none := by decide

/-! ## What a reader takes -/

section Takes

variable {α β : Type} {p : Char → Prop} {read : List Char → Option (α × List Char)}

/-- What is read is taken off the beginning of the text, and has such characters only. -/
def Takes (p : Char → Prop) (read : List Char → Option (α × List Char)) : Prop :=
  ∀ cs a rest, read cs = some (a, rest) → ∃ used, cs = used ++ rest ∧ ∀ c ∈ used, p c

theorem takes_readNumber {radix maxDigits max : Nat} {zeros : Bool}
    (h : ∀ c, (digit? radix c).isSome → p c) : Takes p (readNumber radix maxDigits zeros max) := by
  intro cs a rest hread
  obtain ⟨-, hvalue⟩ := Option.ite_none_right_eq_some.1 hread
  cases hvalue
  refine ⟨cs.takeWhile fun c => (digit? radix c).isSome,
    List.takeWhile_append_dropWhile.symm, fun c hc => h c ?_⟩
  exact List.mem_takeWhile_imp (p := fun c => (digit? radix c).isSome) hc

theorem Takes.separated {sep : Char} {first : Bool} (hsep : p sep) (h : Takes p read) :
    Takes p (separated sep first read) := by
  intro cs a rest hread
  cases cs with
  | nil =>
    obtain ⟨-, hread⟩ := Option.ite_none_right_eq_some.1 hread
    exact h _ _ _ hread
  | cons c cs =>
    unfold Net.separated at hread
    dsimp only at hread
    split_ifs at hread with hfirst hc
    · exact h _ _ _ hread
    · obtain ⟨used, rfl, hused⟩ := h _ _ _ hread
      exact ⟨c :: used, rfl, List.forall_mem_cons.2 ⟨hc ▸ hsep, hused⟩⟩

/-- A reader after another. -/
theorem Takes.bind {next : α → List Char → Option (β × List Char)} (h : Takes p read)
    (hnext : ∀ a, Takes p (next a)) :
    Takes p fun cs => (read cs).bind fun (a, cs) => next a cs := by
  intro cs b rest hread
  obtain ⟨⟨a, cs'⟩, hfirst, hsecond⟩ := Option.bind_eq_some_iff.1 hread
  obtain ⟨used, rfl, hused⟩ := h _ _ _ hfirst
  obtain ⟨used', rfl, hused'⟩ := hnext a _ _ _ hsecond
  exact ⟨used ++ used', (List.append_assoc ..).symm, fun c hc =>
    (List.mem_append.1 hc).elim (hused c) (hused' c)⟩

theorem Takes.map {f : α → β} (h : Takes p read) :
    Takes p fun cs => (read cs).map fun (a, cs) => (f a, cs) := by
  intro cs b rest hread
  obtain ⟨⟨a, cs'⟩, hfirst, heq⟩ := Option.map_eq_some_iff.1 hread
  cases heq
  exact h _ _ _ hfirst

theorem takes_readIpv4 (hdot : p '.') (hdigit : ∀ c, (digit? 10 c).isSome → p c) :
    Takes p readIpv4 := by
  have hoctet : ∀ first, Takes p (Net.separated '.' first readOctet) := fun first =>
    (takes_readNumber hdigit).separated hdot
  exact (hoctet true).bind fun a => (hoctet false).bind fun b => (hoctet false).bind fun c =>
    Takes.map (f := fun d =>
      Ipv4Addr.mk (UInt8.ofNat a) (UInt8.ofNat b) (UInt8.ofNat c) (UInt8.ofNat d)) (hoctet false)

/-- Groups are taken off the beginning of the text too. -/
theorem exists_readGroups (hdot : p '.') (hcolon : p ':')
    (hdigit : ∀ c, (Hex.value? c).isSome → p c) (n : Nat) (first : Bool) (cs : List Char) :
    ∃ used, cs = used ++ (readGroups n first cs).2.2 ∧ ∀ c ∈ used, p c := by
  have hlow : ∀ radix c, (digit? radix c).isSome → p c := fun radix c hc =>
    hdigit c (Option.isSome_of_isSome_filter _ _ hc)
  induction n generalizing first cs with
  | zero => exact ⟨[], rfl, List.forall_mem_nil _⟩
  | succ n ih =>
    rw [readGroups]
    split
    · next addr rest haddr =>
      obtain ⟨-, hread⟩ := Option.ite_none_left_eq_some.1 haddr
      exact ((takes_readIpv4 hdot (hlow 10)).separated hcolon) _ _ _ hread
    · split
      · next group rest hgroup =>
        obtain ⟨used, hused, hp⟩ := ((takes_readNumber (hlow 16)).separated hcolon) _ _ _ hgroup
        obtain ⟨used', hused', hp'⟩ := ih false rest
        refine ⟨used ++ used', ?_, fun c hc => (List.mem_append.1 hc).elim (hp c) (hp' c)⟩
        rw [List.append_assoc, ← hused', hused]
      · exact ⟨[], rfl, List.forall_mem_nil _⟩

theorem takes_readIpv6 (hdot : p '.') (hcolon : p ':') (hdigit : ∀ c, (Hex.value? c).isSome → p c) :
    Takes p readIpv6 := by
  intro cs addr rest hread
  obtain ⟨used, hused, hp⟩ := exists_readGroups hdot hcolon hdigit 8 true cs
  unfold readIpv6 at hread
  generalize readGroups 8 true cs = r at hread hused
  obtain ⟨head, ipv4, rest'⟩ := r
  dsimp only at hread hused
  split at hread
  · cases hread
    exact ⟨used, hused, hp⟩
  · split at hread
    · cases hread
    · split at hread
      · next rest'' =>
        obtain ⟨used', hused', hp'⟩ :=
          exists_readGroups hdot hcolon hdigit (8 - (head.length + 1)) true rest''
        generalize readGroups (8 - (head.length + 1)) true rest'' = r at hread hused'
        obtain ⟨tail, ipv4', rest'⟩ := r
        cases hread
        refine ⟨used ++ ':' :: ':' :: used', by rw [hused, hused']; simp, fun c hc => ?_⟩
        rcases List.mem_append.1 hc with hc | hc
        · exact hp c hc
        · rcases List.mem_cons.1 hc with rfl | hc
          · exact hcolon
          · rcases List.mem_cons.1 hc with rfl | hc
            · exact hcolon
            · exact hp' c hc
      · cases hread

end Takes

/-! ## The characters of addresses -/

/-- A text that stands for an address: what it is shown as, or what is read as it. -/
def IpAddr.Names (ip : IpAddr) (text : List Char) : Prop :=
  text = ip.display ∨ parseIpAddr text = some ip

/-- The characters addresses are made of. -/
def isAddressChar (c : Char) : Bool := c = '.' || c = ':' || (Hex.value? c).isSome

theorem exists_digit_of_mem_toDigits {b n : Nat} {c : Char} (hb : 1 < b)
    (hc : c ∈ Nat.toDigits b n) : ∃ d < b, c = Nat.digitChar d := by
  induction n using Nat.strongRecOn with
  | ind n ih =>
    by_cases hn : n < b
    · rw [Nat.toDigits_of_lt_base hn, List.mem_singleton] at hc
      exact ⟨n, hn, hc⟩
    · rw [Nat.toDigits_of_base_le hb (Nat.le_of_not_lt hn), List.mem_append,
        List.mem_singleton] at hc
      rcases hc with hc | hc
      · exact ih (n / b) (Nat.div_lt_self (by omega) hb) hc
      · exact ⟨n % b, Nat.mod_lt n (by omega), hc⟩

theorem mem_intercalate {sep c : Char} {ls : List (List Char)}
    (hc : c ∈ [sep].intercalate ls) : c = sep ∨ ∃ l ∈ ls, c ∈ l := by
  induction ls with
  | nil => simp at hc
  | cons l ls ih =>
    cases ls with
    | nil => exact .inr ⟨l, List.mem_cons_self, by simpa using hc⟩
    | cons l' ls =>
      rw [List.intercalate_cons_cons, List.mem_append, List.mem_append, List.mem_singleton] at hc
      rcases hc with (hc | hc) | hc
      · exact .inr ⟨l, List.mem_cons_self, hc⟩
      · exact .inl hc
      · exact (ih hc).imp_right fun ⟨m, hm, hcm⟩ => ⟨m, List.mem_cons_of_mem l hm, hcm⟩

theorem Ipv4Addr.mem_display {addr : Ipv4Addr} {c : Char} (hc : c ∈ addr.display) :
    c = '.' ∨ c.isDigit = true := by
  rcases mem_intercalate hc with rfl | ⟨l, hl, hc⟩
  · exact .inl rfl
  · obtain ⟨o, -, rfl⟩ := List.mem_map.1 hl
    exact .inr (Nat.isDigit_of_mem_toDigits (by decide) (by decide) hc)

theorem isSome_value?_of_isDigit {c : Char} (h : c.isDigit = true) : (Hex.value? c).isSome := by
  have hc : '0' ≤ c ∧ c ≤ '9' := by
    simpa [Char.isDigit, Char.le_def] using h
  simp [Hex.value?, hc]

theorem isAddressChar_of_mem_fmtSubslice {segments : List UInt16} {c : Char}
    (hc : c ∈ fmtSubslice segments) : isAddressChar c = true := by
  rcases mem_intercalate hc with rfl | ⟨l, hl, hc⟩
  · rfl
  · obtain ⟨o, -, rfl⟩ := List.mem_map.1 hl
    obtain ⟨d, hd, rfl⟩ := exists_digit_of_mem_toDigits (by decide) hc
    simp [isAddressChar, Hex.value?_digitChar hd]

theorem isAddressChar_of_mem_display {ip : IpAddr} {c : Char} (hc : c ∈ ip.display) :
    isAddressChar c = true := by
  have hv4 : ∀ addr : Ipv4Addr, c ∈ addr.display → isAddressChar c = true := fun addr hc => by
    rcases addr.mem_display hc with rfl | hc
    · rfl
    · simp [isAddressChar, isSome_value?_of_isDigit hc]
  cases ip with
  | v4 addr => exact hv4 addr hc
  | v6 addr =>
    unfold IpAddr.display Ipv6Addr.display at hc
    dsimp only at hc
    split at hc
    · have hmapped : ∀ c ∈ "::ffff:".toList, isAddressChar c = true :=
        List.all_eq_true.1 (by decide)
      exact (List.mem_append.1 hc).elim (hmapped c) (hv4 _)
    · split at hc
      · have hgap : ∀ c ∈ "::".toList, isAddressChar c = true := List.all_eq_true.1 (by decide)
        rcases List.mem_append.1 hc with hc | hc
        · exact (List.mem_append.1 hc).elim isAddressChar_of_mem_fmtSubslice (hgap c)
        · exact isAddressChar_of_mem_fmtSubslice hc
      · exact isAddressChar_of_mem_fmtSubslice hc

/-- All of what is read as an address has been taken. -/
theorem parseIpAddr_eq_some {cs : List Char} {ip : IpAddr} :
    parseIpAddr cs = some ip ↔ readIpAddr cs = some (ip, []) := by
  unfold parseIpAddr
  split
  · next addr h => simp [h]
  · next h =>
    refine iff_of_false (Option.some_ne_none ip).symm fun hread => h ip hread

theorem isAddressChar_of_mem_parse {cs : List Char} {ip : IpAddr} (h : parseIpAddr cs = some ip) :
    ∀ c ∈ cs, isAddressChar c = true := by
  have hdigit : ∀ c, (Hex.value? c).isSome → isAddressChar c = true := fun c hc => by
    simp [isAddressChar, hc]
  have hread := parseIpAddr_eq_some.1 h
  unfold readIpAddr at hread
  split at hread
  · next addr rest hv4 =>
    cases hread
    obtain ⟨used, hused, hp⟩ := takes_readIpv4 (p := (isAddressChar · = true)) rfl
      (fun c hc => hdigit c (Option.isSome_of_isSome_filter _ _ hc)) _ _ _ hv4
    rwa [hused, List.append_nil]
  · obtain ⟨⟨addr, rest⟩, hv6, heq⟩ := Option.map_eq_some_iff.1 hread
    cases heq
    obtain ⟨used, hused, hp⟩ := takes_readIpv6 (p := (isAddressChar · = true)) rfl rfl hdigit
      _ _ _ hv6
    rwa [hused, List.append_nil]

/-- **What stands for an address has the characters of addresses only.** -/
theorem isAddressChar_of_names {ip : IpAddr} {text : List Char} (h : ip.Names text) :
    ∀ c ∈ text, isAddressChar c = true := by
  rcases h with rfl | h
  · exact fun c hc => isAddressChar_of_mem_display hc
  · exact isAddressChar_of_mem_parse h

/-- The address is one of version 6. -/
def IpAddr.isV6 : IpAddr → Bool
  | v4 _ => false
  | v6 _ => true

theorem colon_mem_fmtSubslice {segments : List UInt16} (h : 2 ≤ segments.length) :
    ':' ∈ fmtSubslice segments := by
  obtain _ | ⟨s, _ | ⟨s', segments⟩⟩ := segments
  · simp at h
  · simp at h
  · rw [fmtSubslice, List.map_cons, List.map_cons, List.intercalate_cons_cons]
    simp

theorem colon_mem_display_iff (ip : IpAddr) : ':' ∈ ip.display ↔ ip.isV6 = true := by
  cases ip with
  | v4 addr =>
    refine iff_of_false (fun hc => ?_) (by simp [IpAddr.isV6])
    rcases addr.mem_display hc with h | h
    · exact absurd h (by decide)
    · exact absurd h (by decide)
  | v6 addr =>
    refine iff_of_true ?_ rfl
    unfold IpAddr.display Ipv6Addr.display
    dsimp only
    split
    · exact List.mem_append_left _ (by decide)
    · split
      · exact List.mem_append_left _ (List.mem_append_right _ (by decide))
      · exact colon_mem_fmtSubslice (by rw [addr.length_eq]; decide)

/-- Without a colon, there is one group and what follows it is no address. -/
theorem readGroups_of_not_mem {n : Nat} {cs : List Char} (h : ':' ∉ cs) :
    readGroups n false cs = ([], false, cs) := by
  have hnone : ∀ {α : Type} (read : List Char → Option (α × List Char)),
      separated ':' false read cs = none := fun read => by
    cases cs with
    | nil => rfl
    | cons c cs =>
      have hc : c ≠ ':' := fun heq => h (heq ▸ List.mem_cons_self)
      simp [separated, hc]
  cases n with
  | zero => rfl
  | succ n => simp [readGroups, hnone]

theorem colon_mem_of_readIpv6 {cs rest : List Char} {addr : Ipv6Addr}
    (h : readIpv6 cs = some (addr, rest)) : ':' ∈ cs := by
  by_contra hcolon
  obtain ⟨used, hused, -⟩ := exists_readGroups (p := fun _ => True) trivial trivial
    (fun _ _ => trivial) 8 true cs
  have hshort : (readGroups 8 true cs).1.length ≠ 8 := by
    rw [readGroups]
    split
    · simp
    · split
      · next group rest' hgroup =>
        obtain ⟨used', hused', -⟩ := ((takes_readNumber (p := fun _ => True)
          fun _ _ => trivial).separated trivial) _ _ _ hgroup
        have hrest : ':' ∉ rest' := fun hmem =>
          hcolon (hused' ▸ List.mem_append_right used' hmem)
        simp [readGroups_of_not_mem hrest]
      · simp
  have hrest : ':' ∉ (readGroups 8 true cs).2.2 := fun hmem =>
    hcolon (hused ▸ List.mem_append_right used hmem)
  unfold readIpv6 at h
  generalize readGroups 8 true cs = r at h hshort hrest
  obtain ⟨head, ipv4, rest'⟩ := r
  simp only at h hshort hrest
  rw [if_neg hshort] at h
  split at h
  · cases h
  · split at h
    · exact hrest List.mem_cons_self
    · cases h

/-- **An address of version 6 has a colon in it**, and one of version 4 has none. -/
theorem colon_mem_iff {ip : IpAddr} {text : List Char} (h : ip.Names text) :
    ':' ∈ text ↔ ip.isV6 = true := by
  rcases h with rfl | h
  · exact colon_mem_display_iff ip
  · have hread := parseIpAddr_eq_some.1 h
    unfold readIpAddr at hread
    split at hread
    · next addr rest hv4 =>
      cases hread
      obtain ⟨used, hused, hp⟩ := takes_readIpv4 (p := (· ≠ ':')) (by decide)
        (fun c hc heq => by subst heq; exact absurd hc (by decide)) _ _ _ hv4
      refine iff_of_false (fun hmem => ?_) (by simp [IpAddr.isV6])
      rw [hused, List.append_nil] at hmem
      exact hp _ hmem rfl
    · obtain ⟨⟨addr, rest⟩, hv6, heq⟩ := Option.map_eq_some_iff.1 hread
      cases heq
      exact iff_of_true (colon_mem_of_readIpv6 hv6) rfl

end Net
