import Rayhunter.Radio.Iw

/-!
# What the reader sees of a printed scan

The reader sees trimmed lines (`trimmed_print`): the first line of a record with the address in it
(`trimChars_header`), names with a colon after them (`trimChars_nameLine`), lists of suites
(`trimChars_suites`) and whatever else elements print. The bytes of a name come back from their
escapes (`ssidSaid_ssidLine`); of a suite by its number the reader sees the first digit of the
number only (`Suite.text_sae`).
-/

namespace Rayhunter.Iw

open Text Scan

/-! ## Names are read back -/

theorem asBytes_append (cs ds : List Char) : asBytes (cs ++ ds) = asBytes cs ++ asBytes ds :=
  List.flatMap_append

/-- A byte that is no backslash stands for itself. -/
theorem unescapeIw_cons {b : UInt8} (hb : b ≠ backslash) (rest : List UInt8) :
    unescapeIw (b :: rest) = b :: unescapeIw rest := by
  match rest with
  | [] => rfl
  | [x] => simp [unescapeIw, hb]
  | [x, y] => simp [unescapeIw, hb]
  | x :: y :: z :: rest => simp [unescapeIw, hb]

/-- The character of a byte that is printed. -/
theorem toNat_print {b : UInt8} (h : isPrint b = true) :
    (Char.ofNat b.toNat).toNat = b.toNat ∧ 0x20 ≤ b.toNat ∧ b.toNat ≤ 0x7e := by
  simp only [isPrint, Bool.and_eq_true, decide_eq_true_eq, UInt8.le_iff_toNat_le] at h
  have hlo : 0x20 ≤ b.toNat := h.1
  have hhi : b.toNat ≤ 0x7e := h.2
  refine ⟨?_, hlo, hhi⟩
  have hvalid : b.toNat.isValidChar := .inl (by omega)
  rw [Char.ofNat, dif_pos hvalid]
  rfl

theorem asBytes_print {b : UInt8} (h : isPrint b = true) : asBytes [Char.ofNat b.toNat] = [b] := by
  obtain ⟨hnat, -, hhi⟩ := toNat_print h
  have hval : (Char.ofNat b.toNat).val.toNat = b.toNat := hnat
  simp [asBytes, String.utf8EncodeChar, hval, show b.toNat ≤ 127 by omega]

/-- A digit, as a byte. -/
def digitByte (n : Nat) : UInt8 := UInt8.ofNat (Nat.digitChar n).toNat

theorem asBytes_hex (b : UInt8) : asBytes ('\\' :: 'x' :: Hex.byte b) =
    [backslash, 0x78, digitByte (b.toNat / 16), digitByte (b.toNat % 16)] := by
  have hdigit : ∀ n < 16, String.utf8EncodeChar (Nat.digitChar n) = [digitByte n] := by decide
  have hb : b.toNat < 16 * 16 := b.toNat_lt
  simp only [asBytes, Hex.byte, List.flatMap_cons, List.flatMap_nil,
    hdigit _ (Nat.div_lt_of_lt_mul hb), hdigit _ (Nat.mod_lt b.toNat (by decide : 0 < 16))]
  rfl

/-- The two digits of a byte are read as that byte. -/
theorem hexByte?_digits (b : UInt8) :
    hexByte? (digitByte (b.toNat / 16)) (digitByte (b.toNat % 16)) = some b := by
  have hdigit : ∀ n < 16, Hex.value? (Char.ofNat (digitByte n).toNat) = some n := by decide
  have hb : b.toNat < 16 * 16 := b.toNat_lt
  simp only [hexByte?, hdigit _ (Nat.div_lt_of_lt_mul hb),
    hdigit _ (Nat.mod_lt b.toNat (by decide : 0 < 16)), Nat.div_add_mod', UInt8.ofNat_toNat]

/-- A byte is printed as itself or as two digits after `\x`. -/
theorem asBytes_escapeByte (edge : Bool) (b : UInt8) :
    asBytes (escapeByte edge b) = [b] ∧ b ≠ backslash ∨
      ∃ hi lo, asBytes (escapeByte edge b) = [backslash, 0x78, hi, lo] ∧
        hexByte? hi lo = some b := by
  unfold escapeByte
  split
  · next h =>
    simp only [Bool.and_eq_true, bne_iff_ne] at h
    exact .inl ⟨asBytes_print h.1.1, h.1.2⟩
  · exact .inr ⟨_, _, asBytes_hex b, hexByte?_digits b⟩

/-- The printed form of a byte is read as that byte, whatever follows. -/
theorem unescapeIw_escapeByte (edge : Bool) (b : UInt8) (rest : List UInt8) :
    unescapeIw (asBytes (escapeByte edge b) ++ rest) = b :: unescapeIw rest := by
  rcases asBytes_escapeByte edge b with ⟨h, hb⟩ | ⟨hi, lo, h, hbyte⟩
  · rw [h, List.singleton_append, unescapeIw_cons hb]
  · rw [h]
    simp [unescapeIw, hbyte]

theorem unescapeIw_escapeRest (bytes : List UInt8) :
    unescapeIw (asBytes (escapeRest bytes)) = bytes := by
  fun_induction escapeRest bytes with
  | case1 => rfl
  | case2 b =>
    rw [← List.append_nil (asBytes _), unescapeIw_escapeByte]
    rfl
  | case3 b bytes hne ih => rw [asBytes_append, unescapeIw_escapeByte, ih]

/-- The bytes of a name are read as they were. -/
theorem unescapeIw_escape (bytes : List UInt8) : unescapeIw (asBytes (escape bytes)) = bytes := by
  cases bytes with
  | nil => rfl
  | cons b bytes =>
    rw [escape, asBytes_append, unescapeIw_escapeByte, unescapeIw_escapeRest]

/-- No byte is printed as a line feed, and one at an edge not as white space either. -/
theorem escapeByte_chars (edge : Bool) (b : UInt8) {c : Char} (hc : c ∈ escapeByte edge b) :
    c ≠ '\n' ∧ (edge = true → isWhitespace c = false) := by
  unfold escapeByte at hc
  split at hc
  · next h =>
    simp only [Bool.and_eq_true, Bool.not_eq_true', Bool.and_eq_false_iff] at h
    obtain ⟨hnat, hlo, hhi⟩ := toNat_print h.1.1
    obtain rfl := List.mem_singleton.mp hc
    refine ⟨fun hnl => ?_, fun he => ?_⟩
    · rw [hnl] at hnat
      have hten : (10 : Nat) = b.toNat := hnat
      omega
    · have hblank : b.toNat ≠ 0x20 := by
        intro hb
        rcases h.2 with hne | hedge
        · exact beq_eq_false_iff_ne.mp hne (UInt8.toNat_inj.mp hb)
        · rw [he] at hedge
          cases hedge
      simp only [isWhitespace, hnat, Bool.or_eq_false_iff, Bool.and_eq_false_iff,
        decide_eq_false_iff_not, beq_eq_false_iff_ne]
      omega
  · have hclean : c ≠ '\n' ∧ isWhitespace c = false := by
      rcases List.mem_cons.mp hc with rfl | hc
      · decide
      rcases List.mem_cons.mp hc with rfl | hc
      · decide
      have hdigit := Hex.all_byte (p := fun c => c != '\n' && !isWhitespace c) (by decide) hc
      simpa only [Bool.and_eq_true, bne_iff_ne, Bool.not_eq_true'] using hdigit
    exact ⟨hclean.1, fun _ => hclean.2⟩

theorem escapeByte_ne_nil (edge : Bool) (b : UInt8) : escapeByte edge b ≠ [] := by
  unfold escapeByte
  split <;> exact List.cons_ne_nil _ _

theorem newline_not_mem_escape (bytes : List UInt8) : '\n' ∉ escape bytes := by
  have hrest : ∀ bytes, '\n' ∉ escapeRest bytes := by
    intro bytes
    fun_induction escapeRest bytes with
    | case1 => exact List.not_mem_nil
    | case2 b => exact fun h => (escapeByte_chars true b h).1 rfl
    | case3 b bytes hne ih =>
      intro h
      rcases List.mem_append.mp h with h | h
      · exact (escapeByte_chars false b h).1 rfl
      · exact ih h
  cases bytes with
  | nil => exact List.not_mem_nil
  | cons b bytes =>
    intro h
    rcases List.mem_append.mp h with h | h
    · exact (escapeByte_chars true b h).1 rfl
    · exact hrest bytes h

theorem escapeRest_ne_nil {bytes : List UInt8} (h : bytes ≠ []) : escapeRest bytes ≠ [] := by
  fun_cases escapeRest bytes with
  | case1 => exact absurd rfl h
  | case2 b => exact escapeByte_ne_nil true b
  | case3 b bytes hne => exact List.append_ne_nil_of_left_ne_nil (escapeByte_ne_nil false b) _

theorem escapeRest_getLast {bytes : List UInt8} {d : Char}
    (hd : (escapeRest bytes).getLast? = some d) : isWhitespace d = false := by
  fun_induction escapeRest bytes with
  | case1 => cases hd
  | case2 b => exact (escapeByte_chars true b (List.mem_of_getLast? hd)).2 rfl
  | case3 b bytes hne ih =>
    rw [List.getLast?_append_of_ne_nil _ (escapeRest_ne_nil hne)] at hd
    exact ih hd

/-- The last character of a name in print is not white space. -/
theorem escape_getLast {bytes : List UInt8} {d : Char} (hd : (escape bytes).getLast? = some d) :
    isWhitespace d = false := by
  cases bytes with
  | nil => cases hd
  | cons b bytes =>
    rw [escape, List.getLast?_append] at hd
    cases hr : (escapeRest bytes).getLast? with
    | none =>
      rw [hr] at hd
      exact (escapeByte_chars true b (List.mem_of_getLast? hd)).2 rfl
    | some x =>
      rw [hr] at hd
      cases hd
      exact escapeRest_getLast hr

/-! ## What the reader sees -/

theorem trimChars_nameLine {name : String} (h : IsName name) (text : List Char) :
    trimChars (nameLine name text) = name.toList ++ ':' :: text.rdropWhile isWhitespace := by
  obtain ⟨c, hc, hcw⟩ := h.starts
  have hsplit : nameLine name text = ['\t'] ++ (name.toList ++ [':']) ++ text := by
    simp [nameLine]
  have htab : ∀ x ∈ ['\t'], isWhitespace x = true := List.forall_mem_singleton.mpr (by decide)
  rw [hsplit, trimChars_append htab (c := c) (d := ':') (by simp [hc]) (by simp) hcw (by decide)]
  simp

/-- The name is what stands before the first colon. -/
theorem takeWhile_name {name : List Char} (h : ':' ∉ name) (rest : List Char) :
    (name ++ ':' :: rest).takeWhile (· ≠ ':') = name := by
  have hall : ∀ c ∈ name, decide (c ≠ ':') = true := by
    intro c hc
    rw [decide_eq_true_iff]
    rintro rfl
    exact h hc
  rw [List.takeWhile_append_of_pos hall]
  simp

/-- A line with a name begins with that name and with no other. -/
theorem startsWith_name {name q : String} (hname : ':' ∉ name.toList) (hq : ':' ∉ q.toList)
    (rest : List Char) : startsWith (q ++ ":") (name.toList ++ ':' :: rest) = decide (q = name) := by
  have hcolon : (q ++ ":").toList = q.toList ++ [':'] := String.toList_append
  rw [Bool.eq_iff_iff, startsWith_iff, hcolon, decide_eq_true_iff]
  constructor
  · rintro ⟨r, hr⟩
    rw [List.append_assoc, List.singleton_append] at hr
    rw [← String.toList_inj, ← takeWhile_name hq r, hr, takeWhile_name hname]
  · rintro rfl
    exact ⟨rest, by simp⟩

/-- Only a name that begins with `BSS` and a blank starts a record. -/
theorem startsWith_name_bss (name rest : List Char) :
    startsWith "BSS " (name ++ ':' :: rest) = startsWith "BSS " name := by
  match name with
  | [] => rfl
  | [a] => simp [startsWith, List.isPrefixOf]
  | [a, b] => simp [startsWith, List.isPrefixOf]
  | [a, b, c] => simp [startsWith, List.isPrefixOf]
  | a :: b :: c :: d :: name => simp [startsWith, List.isPrefixOf]

/-- The names of attributes and elements are names. -/
theorem AttributeName.isName (n : AttributeName) : IsName n.name := by
  cases n <;> exact ⟨by decide, by decide, _, rfl, by decide⟩

theorem Head.isName (h : Head) : IsName h.name := by
  cases h with
  | rsn => exact ⟨by decide, by decide, _, rfl, by decide⟩
  | wpa => exact ⟨by decide, by decide, _, rfl, by decide⟩
  | wps => exact ⟨by decide, by decide, _, rfl, by decide⟩
  | numbered n => cases n <;> exact ⟨by decide, by decide, _, rfl, by decide⟩
  | other n => exact n.isName

theorem isName_capability : IsName "capability" := ⟨by decide, by decide, _, rfl, by decide⟩

theorem isName_ssid : IsName "SSID" := ⟨by decide, by decide, _, rfl, by decide⟩

/-- A line of text, without the white space at its ends. -/
theorem trimChars_text (t : Inline) : trimChars (Detail.text t).line = trimChars t.1 := by
  have htab : isWhitespace '\t' = true := by decide
  exact (trimChars_cons htab _).trans (trimChars_cons htab _)

theorem trimChars_suites (l : List Suite) : trimChars (Detail.suites l).line =
    "* Authentication suites:".toList ++ (suitesText l).rdropWhile isWhitespace := by
  have hsplit : "\t\t * Authentication suites:".toList =
      ['\t', '\t', ' '] ++ "* Authentication suites:".toList := by decide
  have hhead : "* Authentication suites:".toList.head? = some '*' := by decide
  have hlast : "* Authentication suites:".toList.getLast? = some ':' := by decide
  unfold Detail.line
  rw [hsplit]
  have hpre : ∀ x ∈ ['\t', '\t', ' '], isWhitespace x = true :=
    List.all_eq_true.mp (by decide)
  exact trimChars_append hpre hhead hlast (by decide) (by decide)

/-- The name that the line of a name gives is the one that was printed. -/
theorem ssidSaid_ssidLine (name : Name) :
    ssidSaid (trimChars (AccessPoint.ssidLine name)) = some (Ssid.fromBytes name.1) := by
  have hcolon : "SSID:".toList = "SSID".toList ++ [':'] := by decide
  rw [AccessPoint.ssidLine, trimChars_nameLine isName_ssid, List.append_cons, ← hcolon, ssidSaid,
    stripPrefix_append]
  have hread : readSsid ((' ' :: escape name.1).rdropWhile isWhitespace) =
      Ssid.fromBytes name.1 := by
    cases hn : name.1 with
    | nil => decide
    | cons b bytes =>
      -- the last character stays, so nothing is trimmed
      have hkeep : (' ' :: escape (b :: bytes)).rdropWhile isWhitespace =
          ' ' :: escape (b :: bytes) := by
        rw [List.rdropWhile_eq_self_iff]
        intro hl
        have hne : escape (b :: bytes) ≠ [] :=
          List.append_ne_nil_of_left_ne_nil (escapeByte_ne_nil true b) _
        rw [List.getLast_cons hne, escape_getLast (List.getLast?_eq_getLast_of_ne_nil hne)]
        exact Bool.false_ne_true
      have hstrip : stripPrefix " " (' ' :: escape (b :: bytes)) = some (escape (b :: bytes)) :=
        stripPrefix_append " " _
      rw [hkeep, readSsid, hstrip, Option.getD_some, unescapeIw_escape]
  rw [Option.map_some, hread]

/-! ### Suites -/

/-- A list of suites contains a word without a blank where one of them does. -/
theorem contains_suites {p : String} {d : Char} (hd : p.toList.getLast? = some d)
    (hdw : isWhitespace d = false) (hp : ' ' ∉ p.toList) (l : List Suite) :
    contains ((suitesText l).rdropWhile isWhitespace) p = l.any fun s => contains s.text p := by
  have hne : p.toList ≠ [] := by
    intro h
    rw [h] at hd
    cases hd
  have hmap : suitesText l = (l.map Suite.text).flatMap (' ' :: ·) := by
    rw [suitesText, List.flatMap_map]
  rw [contains_rdropWhile hd hdw, hmap, contains, Bool.eq_iff_iff, decide_eq_true_iff,
    infix_flatMap_cons hne hp, List.any_eq_true]
  simp [contains]

namespace Suite

/-- What the reader takes for SAE: by name what it is, by number also what begins like it. -/
def takenForSae (s : Suite) : Bool :=
  if s.name?.isSome then s.isSae else s.oui == ieee && (s.number == 8 || s.number / 10 == 8)

/-- What the reader takes for 802.1X: only what has a name. -/
def takenForEnterprise (s : Suite) : Bool := s.name?.isSome && s.isEnterprise

theorem mem_names {s : Suite} {name : String} (h : s.name? = some name) :
    ((s.oui, s.number), name) ∈ names := by
  unfold name? at h
  split at h
  · obtain ⟨l₁, l₂, hl, -⟩ := List.lookup_eq_some_iff.mp h
    rw [hl]
    simp
  · cases h

/-- There are digits only in a number. -/
theorem not_mem_toDigits {c : Char} (h : c.isDigit = false) (n : Nat) : c ∉ Nat.toDigits 10 n := by
  intro hc
  rw [Nat.isDigit_of_mem_toDigits (by decide) (by decide) hc] at h
  cases h

theorem selector_chars {s : Suite} {c : Char} (hc : c ∈ s.selector) :
    c ≠ 'S' ∧ c ≠ 'X' ∧ c ≠ '\n' := by
  have hnone : ∀ d : Char, Hex.digits.all (· != d) = true → d.isDigit = false → d ≠ '-' → d ≠ ':' →
      d ∉ s.selector := by
    intro d hhex hdigit hdash hcolon
    simp [selector, Hex.not_mem_byte hhex, not_mem_toDigits hdigit, hdash, hcolon]
  refine ⟨?_, ?_, ?_⟩
  all_goals
    rintro rfl
    exact hnone _ (by decide) (by decide) (by decide) (by decide) hc

/-- The number of a suite begins with an eight in print. -/
theorem head_toDigits (n : UInt8) :
    ((Nat.toDigits 10 n.toNat).head? = some '8') = ((n == 8 || n / 10 == 8) = true) := by
  have hall : ∀ n : UInt8, decide ((Nat.toDigits 10 n.toNat).head? = some '8') =
      (n == 8 || n / 10 == 8) := Hex.forall_byte (by decide +kernel)
  rw [← hall n, decide_eq_true_eq]

/-- The owner of a suite's number, as it is printed. -/
def ouiText (o : Oui) : List Char :=
  Hex.byte o.a ++ '-' :: (Hex.byte o.b ++ '-' :: Hex.byte o.c)

theorem ouiText_injective {o o' : Oui} (h : ouiText o = ouiText o') : o = o' := by
  obtain ⟨ha, h⟩ := List.append_inj h rfl
  obtain ⟨hb, h⟩ := List.append_inj (List.cons.inj h).2 rfl
  obtain ⟨a, b, c⟩ := o
  obtain ⟨a', b', c'⟩ := o'
  rw [Oui.mk.injEq]
  exact ⟨Hex.byte_injective ha, Hex.byte_injective hb, Hex.byte_injective (List.cons.inj h).2⟩

theorem selector_eq (s : Suite) :
    s.selector = ouiText s.oui ++ ':' :: Nat.toDigits 10 s.number.toNat := by
  simp [selector, ouiText]

/-- There is one colon in a selector. -/
theorem colon_selector (s : Suite) :
    ':' ∉ ouiText s.oui ∧ ':' ∉ Nat.toDigits 10 s.number.toNat := by
  have hbyte := Hex.not_mem_byte (d := ':') (by decide)
  refine ⟨?_, not_mem_toDigits (by decide) _⟩
  simp [ouiText, hbyte]

/-- The digits of SAE stand in a selector only at its end. -/
theorem selector_sae (s : Suite) : contains s.selector "00-0f-ac:8" =
    (s.oui == ieee && (s.number == 8 || s.number / 10 == 8)) := by
  have hmark : "00-0f-ac:8".toList = ouiText ieee ++ ':' :: ['8'] := by decide
  obtain ⟨hcolon, hdigits⟩ := colon_selector s
  rw [Bool.eq_iff_iff, contains, decide_eq_true_iff, Bool.and_eq_true, ← head_toDigits, beq_iff_eq,
    hmark, selector_eq]
  constructor
  · rintro ⟨u, v, huv⟩
    have hu : ':' ∉ u := by
      intro h
      have hcount := congrArg (List.count ':') huv
      have hpos := List.count_pos_iff.mpr h
      have hone := List.count_eq_zero.mpr hcolon
      have hnone := List.count_eq_zero.mpr hdigits
      simp only [List.count_append, List.count_cons_self, hone, hnone] at hcount
      omega
    have hsplit : (u ++ ouiText ieee) ++ ':' :: ('8' :: v) =
        ouiText s.oui ++ ':' :: Nat.toDigits 10 s.number.toNat := by
      rw [← huv]
      simp
    have hfront : u ++ ouiText ieee = ouiText s.oui := by
      rw [← takeWhile_name hcolon, ← hsplit, takeWhile_name]
      simpa [hu] using (colon_selector ⟨ieee, 0, false⟩).1
    have hnil : u = [] := by
      have hlength := congrArg List.length hfront
      rw [List.length_append] at hlength
      exact List.length_eq_zero_iff.mp (Nat.add_eq_right.mp hlength)
    rw [hfront, List.append_cancel_left_eq, List.cons.injEq] at hsplit
    rw [hnil, List.nil_append] at hfront
    exact ⟨(ouiText_injective hfront).symm, by rw [← hsplit.2]; rfl⟩
  · rintro ⟨ho, hn⟩
    cases hd : Nat.toDigits 10 s.number.toNat with
    | nil => rw [hd] at hn; cases hn
    | cons c v =>
      rw [hd] at hn
      cases hn
      exact ⟨[], v, by simp [ho]⟩

theorem text_sae (s : Suite) :
    (contains s.text "00-0f-ac:8" || contains s.text "SAE") = s.takenForSae := by
  unfold text takenForSae
  cases hn : s.name? with
  | some name =>
    have hall : ∀ e ∈ names, (contains e.2.toList "00-0f-ac:8" || contains e.2.toList "SAE") =
        isSae ⟨e.1.1, e.1.2, true⟩ := by
      decide +kernel
    exact hall _ (mem_names hn)
  | none =>
    have hno : contains s.selector "SAE" = false := by
      rw [contains, decide_eq_false_iff_not]
      intro h
      exact (selector_chars (h.subset (by decide : 'S' ∈ "SAE".toList))).1 rfl
    simp only [hno, Bool.or_false, selector_sae]
    rfl

theorem text_enterprise (s : Suite) : contains s.text "802.1X" = s.takenForEnterprise := by
  unfold text takenForEnterprise
  cases hn : s.name? with
  | some name =>
    have hall : ∀ e ∈ names, contains e.2.toList "802.1X" =
        isEnterprise ⟨e.1.1, e.1.2, true⟩ := by
      decide +kernel
    exact hall _ (mem_names hn)
  | none =>
    have hno : contains s.selector "802.1X" = false := by
      rw [contains, decide_eq_false_iff_not]
      intro h
      exact (selector_chars (h.subset (by decide : 'X' ∈ "802.1X".toList))).2.1 rfl
    exact hno

end Suite

theorem saysSae_suites (l : List Suite) :
    saysSae (trimChars (Detail.suites l).line) = l.any Suite.takenForSae := by
  rw [trimChars_suites, saysSae, stripPrefix_append, Option.any_some,
    contains_suites (d := '8') (by decide +kernel) (by decide) (by decide +kernel),
    contains_suites (d := 'E') (by decide +kernel) (by decide) (by decide +kernel)]
  have hmark : ∀ s : Suite, s.takenForSae =
      (contains s.text "00-0f-ac:8" || contains s.text "SAE") := fun s => s.text_sae.symm
  rw [Bool.eq_iff_iff]
  simp only [Bool.or_eq_true, List.any_eq_true, hmark, and_or_left, exists_or]

theorem saysEnterprise_suites (l : List Suite) :
    saysEnterprise (trimChars (Detail.suites l).line) = l.any Suite.takenForEnterprise := by
  rw [trimChars_suites, saysEnterprise, stripPrefix_append, Option.any_some,
    contains_suites (d := 'X') (by decide +kernel) (by decide) (by decide +kernel)]
  simp only [Suite.text_enterprise]

/-! ### Records -/

/-- The address has neither white space nor a bracket in it. -/
theorem display_chars {m : MacAddr} {c : Char} (hc : c ∈ m.display) :
    isWhitespace c = false ∧ c ≠ '(' ∧ c ≠ '\n' := by
  rcases MacAddr.mem_display hc with rfl | ⟨b, hb⟩
  · decide
  · have hall := Hex.all_byte (p := fun c => !isWhitespace c && c != '(' && c != '\n')
      (by decide) hb
    simp only [Bool.and_eq_true, Bool.not_eq_true', bne_iff_ne] at hall
    exact ⟨hall.1.1, hall.1.2, hall.2⟩

/-- The observation of an access point of which nothing but the address is known. -/
def observed (mac : MacAddr) : WifiObservation where
  bssid := some mac
  transmitter := some mac
  frame := some .beaconOrProbeResponse

/-- What follows the address on the first line begins with a bracket or a blank. -/
theorem head_headerRest {ap : AccessPoint} {c : Char} (h : ap.headerRest.head? = some c) :
    c = '(' ∨ c = ' ' := by
  unfold AccessPoint.headerRest at h
  cases hi : ap.iface with
  | some d =>
    rw [hi] at h
    cases h
    exact .inl rfl
  | none =>
    cases hs : ap.status with
    | some t =>
      rw [hi, hs] at h
      cases h
      exact .inr rfl
    | none =>
      rw [hi, hs] at h
      cases h

/-- The address of a record is read from its first line. -/
theorem startRecord_header (mac : MacAddr) {rest : List Char}
    (h : ∀ c, rest.head? = some c → c = '(' ∨ c = ' ') :
    startRecord (mac.display ++ rest) = observed mac := by
  have hdrop : (mac.display ++ rest).dropWhile isWhitespace = mac.display ++ rest := by
    cases hm : mac.display with
    | nil => exact absurd hm mac.display_ne_nil
    | cons c cs =>
      have hc := (display_chars (hm ▸ List.mem_cons_self .. : c ∈ mac.display)).1
      simp [hc]
  have hword : firstWord (mac.display ++ rest) =
      some (mac.display ++ rest.takeWhile (!isWhitespace ·)) := by
    rw [firstWord, hdrop, List.takeWhile_append_of_pos fun c hc => by
      rw [(display_chars hc).1]
      rfl]
    cases hm : mac.display with
    | nil => exact absurd hm mac.display_ne_nil
    | cons c cs => rfl
  have haddr : (mac.display ++ rest.takeWhile (!isWhitespace ·)).takeWhile (· ≠ '(') =
      mac.display := by
    rw [List.takeWhile_append_of_pos fun c hc => decide_eq_true (display_chars hc).2.1]
    cases hr : rest with
    | nil => simp
    | cons c cs =>
      rcases h c (by rw [hr]; rfl) with rfl | rfl
      · have hbracket : isWhitespace '(' = false := by decide
        simp [hbracket]
      · have hblank : isWhitespace ' ' = true := by decide
        simp [hblank]
  rw [startRecord, hword, Option.getD_some, haddr, MacAddr.parse_display]
  rfl

/-- The first line of a record starts one, with the address in it. -/
theorem trimChars_header (ap : AccessPoint) : ∃ rest,
    trimChars ap.header = "BSS ".toList ++ rest ∧ startRecord rest = observed ap.bssid := by
  refine ⟨ap.bssid.display ++ ap.headerRest.rdropWhile isWhitespace, ?_, ?_⟩
  · obtain ⟨d, hd⟩ : ∃ d, ap.bssid.display.getLast? = some d :=
      ⟨_, List.getLast?_eq_some_getLast ap.bssid.display_ne_nil⟩
    have hfront : trimChars ([] ++ ("BSS ".toList ++ ap.bssid.display) ++ ap.headerRest) =
        ("BSS ".toList ++ ap.bssid.display) ++ ap.headerRest.rdropWhile isWhitespace :=
      trimChars_append (c := 'B') (d := d) (by simp) rfl
        (by rw [List.getLast?_append, hd]; rfl) (by decide)
        (display_chars (List.mem_of_getLast? hd)).1
    rw [List.nil_append] at hfront
    rw [AccessPoint.header, hfront, List.append_assoc]
  · refine startRecord_header ap.bssid fun c hc => @head_headerRest ap c ?_
    obtain ⟨tail, htail⟩ := List.rdropWhile_prefix isWhitespace ap.headerRest
    rw [← htail, List.head?_append, hc]
    rfl

/-! ### Every line is one line -/

theorem inline_nameLine {name : String} (h : IsName name) {text : List Char} (ht : '\n' ∉ text) :
    '\n' ∉ nameLine name text := by
  simp [nameLine, h.inline, ht]

theorem inline_suite (s : Suite) : '\n' ∉ s.text := by
  unfold Suite.text
  cases hn : s.name? with
  | some name =>
    have hall : ∀ e ∈ Suite.names, '\n' ∉ e.2.toList := by decide
    exact hall _ (Suite.mem_names hn)
  | none => exact fun h => (Suite.selector_chars h).2.2 rfl

theorem inline_detail (d : Detail) : '\n' ∉ d.line := by
  cases d with
  | suites l =>
    have hsuites : '\n' ∉ suitesText l := by simp [suitesText, inline_suite]
    exact fun h => (List.mem_append.mp h).elim (by decide) hsuites
  | text t => exact fun h => (List.mem_append.mp h).elim (by decide) t.2

theorem inline_capabilities (c : Capabilities) : '\n' ∉ c.text := by
  have hbyte := Hex.not_mem_byte (d := '\n') (by decide)
  have hword : ∀ flag : Capability, '\n' ∉ flag.word.toList := by
    intro flag
    cases flag <;> decide
  simp [Capabilities.text, hbyte, hword]

theorem inline_header (ap : AccessPoint) : '\n' ∉ ap.header := by
  have hmac : '\n' ∉ ap.bssid.display := fun h => (display_chars h).2.2 rfl
  unfold AccessPoint.header AccessPoint.headerRest
  cases hi : ap.iface with
  | none =>
    cases hs : ap.status with
    | none => simp [hmac]
    | some t => simp [hmac, t.2]
  | some d =>
    cases hs : ap.status with
    | none => simp [hmac, d.2]
    | some t => simp [hmac, d.2, t.2]

theorem inline_element {e : Element} {l : List Char} (h : l ∈ e.lines) : '\n' ∉ l := by
  rcases List.mem_cons.mp h with rfl | h
  · exact inline_nameLine e.head.isName e.text.2
  · obtain ⟨d, -, rfl⟩ := List.mem_map.mp h
    exact inline_detail d

theorem inline_attribute {as : List Attribute} {l : List Char}
    (h : l ∈ AccessPoint.attributeLines as) : '\n' ∉ l := by
  obtain ⟨a, -, rfl⟩ := List.mem_map.mp h
  refine inline_nameLine a.name.isName ?_
  simp [a.text.2]

theorem inline_line {ap : AccessPoint} {l : List Char} (h : l ∈ ap.lines) : '\n' ∉ l := by
  simp only [AccessPoint.lines, AccessPoint.body, AccessPoint.linesBefore, List.mem_cons,
    List.mem_append, List.mem_flatMap, Option.mem_toList, Option.map_eq_some_iff] at h
  rcases h with rfl | ((((h | ⟨c, -, rfl⟩) | h) | ⟨e, -, h⟩) | ⟨name, -, rfl⟩) | ⟨e, -, h⟩
  · exact inline_header ap
  · exact inline_attribute h
  · exact inline_nameLine isName_capability (inline_capabilities c)
  · exact inline_attribute h
  · exact inline_element h
  · refine inline_nameLine isName_ssid ?_
    simp [newline_not_mem_escape]
  · exact inline_element h

/-- The reader sees the lines of the records, trimmed. -/
theorem trimmed_print (aps : List AccessPoint) :
    trimmed (print aps) = aps.flatMap fun ap => ap.lines.map trimChars := by
  have hinline : ∀ l ∈ aps.flatMap AccessPoint.lines, '\n' ∉ l := by
    intro l hl
    obtain ⟨ap, -, hl⟩ := List.mem_flatMap.mp hl
    exact inline_line hl
  rw [print, trimmed_written hinline, List.map_flatMap]

end Rayhunter.Iw
