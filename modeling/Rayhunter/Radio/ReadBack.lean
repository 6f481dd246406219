import Mathlib.Data.List.Forall2
import Rayhunter.Radio.Seen

/-!
# A scan is read back

What a network is, by what its access point sends (`AccessPoint.security` and the like), beside
what `parse_iw_scan` makes of the printed scan (`Shows`). A reader that trims its lines does not
know which of them stand below the name of an element, so an element can speak for the access point:
`BSS Load:` starts a record, and the name that an element for a hidden network gives of the network
beside it becomes that of the access point. `reads_back_iff` says of which scans every record is
read as it is: those in which no line below a name says of the access point what is not so.
-/

namespace Rayhunter.Iw

open Text Scan

/-! ## What a network is -/

namespace Capabilities

/-- Traffic is encrypted. -/
def privacy (c : Capabilities) : Bool := c.flags.contains .privacy

end Capabilities

namespace AccessPoint

def hasRsn (ap : AccessPoint) : Bool := ap.elements.any (·.head.isRsn)

def hasWpa (ap : AccessPoint) : Bool := ap.elements.any (·.head.isWpa)

def hasWps (ap : AccessPoint) : Bool := ap.elements.any (·.head.isWps)

/-- The suites the network takes. -/
def suites (ap : AccessPoint) : List Suite := ap.elements.flatMap Element.suites

/-- The elements it sends, of those the reader has numbers for. -/
def ids (ap : AccessPoint) : List UInt8 :=
  (ap.ssid.map fun _ => 0).toList ++ ap.elements.filterMap (·.head.id?)

/-- The network takes no encryption. -/
def isOpen (ap : AccessPoint) : Bool :=
  ap.capability.any (!·.privacy) && !ap.hasRsn && !ap.hasWpa

/-- Anything is said of how the network is protected. -/
def saysSecurity (ap : AccessPoint) : Bool := ap.capability.isSome || ap.hasRsn || ap.hasWpa

/-- How the network is protected: by WEP if it is encrypted and has neither scheme. -/
def security (ap : AccessPoint) : Option Security :=
  if ap.saysSecurity then
    some {
      isOpen := ap.isOpen
      wep := ap.capability.any (·.privacy) && !ap.hasRsn && !ap.hasWpa
      wpa := ap.hasWpa
      wpa2 := ap.hasRsn
      wpa3 := ap.suites.any Suite.isSae
      enterprise := ap.suites.any Suite.isEnterprise }
  else none

end AccessPoint

/-- The observation is the one of this access point. -/
structure Shows (ap : AccessPoint) (obs : WifiObservation) : Prop where
  bssid : obs.bssid = some ap.bssid
  ssid : obs.ssid = ap.ssid.map fun name => Ssid.fromBytes name.1
  elements : ∀ id, id ∈ obs.informationElements.map (·.id) ↔ id ∈ ap.ids
  wps : obs.wps = ap.hasWps
  security : obs.security = ap.security

/-! ## Lines below names -/

/-- A detail as the reader sees it. -/
def Detail.seen (d : Detail) : List Char := trimChars d.line

namespace Element

def seen (e : Element) : List (List Char) := e.lines.map trimChars

/-- What is seen below the name and is no list of the network's suites. -/
def seenBelow (e : Element) : List (List Char) := e.below.map Detail.seen

/-- A detail is a list of suites with a property. -/
def isSuites (p : List Suite → Bool) : Detail → Bool
  | .suites l => p l
  | .text _ => false

/-- One of the lists of the network's suites in this element has a property. -/
def anySuites (p : List Suite → Bool) (e : Element) : Bool :=
  e.head.isBlock && e.details.any (isSuites p)

/-- A property of any line of an element is one of its name, of a list of the network's suites or of
what else is below. -/
theorem any_seen (p : List Char → Bool) (e : Element) :
    e.seen.any p = (p (trimChars (nameLine e.head.name e.text.1)) ||
      e.anySuites (fun l => p (Detail.suites l).seen) || e.seenBelow.any p) := by
  have hdetails : ∀ ds : List Detail, ((ds.map Detail.line).map trimChars).any p =
      (e.head.isBlock && ds.any (isSuites fun l => p (Detail.suites l).seen) ||
        ((ds.filter (Detail.isBelow e.head.isBlock)).map Detail.seen).any p) := by
    intro ds
    induction ds with
    | nil => simp
    | cons d ds ih =>
      rw [List.map_cons, List.map_cons, List.any_cons, ih]
      cases d with
      | suites l =>
        cases hb : e.head.isBlock <;> simp [Detail.seen, Detail.isBelow, isSuites, Bool.or_assoc]
      | text t =>
        cases hb : e.head.isBlock <;>
          simp [Detail.seen, Detail.isBelow, isSuites, Bool.or_left_comm]
  rw [seen, lines, List.map_cons, List.any_cons, hdetails, anySuites, seenBelow, below,
    Bool.or_assoc]

end Element

/-! ## Lines with names -/

theorem Head.name_ne_suites (h : Head) : h.name ≠ "* Authentication suites" := by
  cases h with
  | rsn => decide
  | wpa => decide
  | wps => decide
  | numbered n => cases n <;> decide
  | other n =>
    intro hn
    apply n.free
    rw [show n.name = "* Authentication suites" from hn]
    decide

/-- The names the reader knows are of the elements they are meant for. -/
theorem Head.name_eq (h : Head) :
    decide ("RSN" = h.name) = h.isRsn ∧ decide ("WPA" = h.name) = h.isWpa ∧
      decide ("WPS" = h.name) = h.isWps ∧ decide ("capability" = h.name) = false ∧
      decide ("SSID" = h.name) = false := by
  cases h with
  | rsn => decide
  | wpa => decide
  | wps => decide
  | numbered n => cases n <;> decide
  | other n =>
    have hfree : ∀ r ∈ reservedNames, r ≠ n.name := by
      rintro r hr rfl
      exact n.free hr
    simp only [reservedNames, List.forall_mem_cons] at hfree
    simp [Head.name, Head.isRsn, Head.isWpa, Head.isWps, hfree]

namespace AccessPoint

/-- The lines of a record as the reader sees them, but for the first one. -/
def seen (ap : AccessPoint) : List (List Char) := ap.body.map trimChars

/-- What is seen below the names of elements. -/
def seenBelow (ap : AccessPoint) : List (List Char) := ap.elements.flatMap Element.seenBelow

/-- A property of any line of a record, if it depends on the name in lines that have one. -/
theorem any_seen {p : List Char → Bool} {f : String → Bool}
    (hname : ∀ n, IsName n → n ≠ "* Authentication suites" → ∀ r, p (n.toList ++ ':' :: r) = f n)
    (hattribute : ∀ a : AttributeName, f a.name = false) (ap : AccessPoint) :
    ap.seen.any p = (ap.capability.isSome && f "capability" || ap.ssid.isSome && f "SSID" ||
      ap.elements.any (fun e => f e.head.name) ||
      ap.elements.any (Element.anySuites fun l => p (Detail.suites l).seen) ||
      ap.seenBelow.any p) := by
  have hline : ∀ {n}, IsName n → n ≠ "* Authentication suites" → ∀ text,
      p (trimChars (nameLine n text)) = f n := by
    intro n hn hne text
    rw [trimChars_nameLine hn, hname n hn hne]
  have hattributes : ∀ as, ((attributeLines as).map trimChars).any p = false := by
    intro as
    rw [List.any_eq_false]
    intro t ht
    obtain ⟨l, hl, rfl⟩ := List.mem_map.mp ht
    obtain ⟨a, -, rfl⟩ := List.mem_map.mp hl
    have hne : a.name.name ≠ "* Authentication suites" := by cases a.name <;> decide
    rw [hline a.name.isName hne, hattribute]
    exact Bool.false_ne_true
  have helements : ∀ es : List Element, ((es.flatMap Element.lines).map trimChars).any p =
      (es.any (fun e => f e.head.name) ||
        es.any (Element.anySuites fun l => p (Detail.suites l).seen) ||
        (es.flatMap Element.seenBelow).any p) := by
    intro es
    induction es with
    | nil => rfl
    | cons e es ih =>
      have he := e.any_seen p
      rw [hline e.head.isName e.head.name_ne_suites, Element.seen] at he
      rw [List.flatMap_cons, List.map_append, List.any_append, he, ih, List.any_cons, List.any_cons,
        List.flatMap_cons, List.any_append]
      ac_rfl
  have hcapability : ((ap.capability.map fun c => nameLine "capability" c.text).toList.map
      trimChars).any p = (ap.capability.isSome && f "capability") := by
    cases ap.capability with
    | none => rfl
    | some c => simp [hline isName_capability]
  have hssid : ((ap.ssid.map ssidLine).toList.map trimChars).any p =
      (ap.ssid.isSome && f "SSID") := by
    cases ap.ssid with
    | none => rfl
    | some name => simp [ssidLine, hline isName_ssid]
  simp only [seen, body, linesBefore, List.map_append, List.any_append, hattributes, helements,
    hcapability, hssid, elements, seenBelow, List.flatMap_append, Bool.or_false, Bool.false_or]
  ac_rfl

theorem any_anySuites_of_false {p : List Suite → Bool} (h : ∀ l, p l = false) (es : List Element) :
    es.any (Element.anySuites p) = false := by
  rw [List.any_eq_false]
  intro e _
  rw [Element.anySuites, Bool.and_eq_true, not_and, List.any_eq_true]
  rintro - ⟨d, -, hd⟩
  cases d with
  | suites l =>
    change p l = true at hd
    rw [h] at hd
    cases hd
  | text t => cases hd

/-- A name and a colon stand before a line if it has that name, or is below one. -/
theorem any_startsWith {q : String} (hq : ':' ∉ q.toList) (hne : q ≠ "* Authentication suites")
    (hattribute : ∀ a : AttributeName, q ≠ a.name) (ap : AccessPoint) :
    ap.seen.any (startsWith (q ++ ":")) =
      (ap.capability.isSome && q = "capability" || ap.ssid.isSome && q = "SSID" ||
        ap.elements.any (fun e => q = e.head.name) || ap.seenBelow.any (startsWith (q ++ ":"))) := by
  have hsuites : ∀ l, startsWith (q ++ ":") (Detail.suites l).seen = false := by
    intro l
    have hcolon : "* Authentication suites:".toList = "* Authentication suites".toList ++ [':'] := by
      decide
    rw [Detail.seen, trimChars_suites, hcolon, List.append_assoc, List.singleton_append,
      startsWith_name (by decide) hq, decide_eq_false hne]
  rw [any_seen (f := fun n => decide (q = n)) (fun n hn _ r => startsWith_name hn.no_colon hq r)
    (fun a => decide_eq_false (hattribute a)), any_anySuites_of_false hsuites, Bool.or_false]

theorem any_rsn (ap : AccessPoint) :
    ap.seen.any (startsWith "RSN:") = (ap.hasRsn || ap.seenBelow.any (startsWith "RSN:")) := by
  have h := any_startsWith (q := "RSN") (by decide) (by decide) (fun a => by cases a <;> decide) ap
  simpa [hasRsn, fun h : Head => h.name_eq.1] using h

theorem any_wpa (ap : AccessPoint) :
    ap.seen.any (startsWith "WPA:") = (ap.hasWpa || ap.seenBelow.any (startsWith "WPA:")) := by
  have h := any_startsWith (q := "WPA") (by decide) (by decide) (fun a => by cases a <;> decide) ap
  simpa [hasWpa, fun h : Head => h.name_eq.2.1] using h

theorem any_wps (ap : AccessPoint) :
    ap.seen.any (startsWith "WPS:") = (ap.hasWps || ap.seenBelow.any (startsWith "WPS:")) := by
  have h := any_startsWith (q := "WPS") (by decide) (by decide) (fun a => by cases a <;> decide) ap
  simpa [hasWps, fun h : Head => h.name_eq.2.2.1] using h

/-- A line with a name begins with the name of a field if that is its name. -/
theorem startsWith_field {p q n : String} (hn : IsName n) (hp : p = q ++ ":")
    (hq : ':' ∉ q.toList) (r : List Char) :
    startsWith p (n.toList ++ ':' :: r) = decide (q = n) := by
  rw [hp, startsWith_name hn.no_colon hq]

/-- A line with a name is no list of suites. -/
theorem stripPrefix_suites {n : String} (hn : IsName n) (hne : n ≠ "* Authentication suites")
    (r : List Char) : stripPrefix "* Authentication suites:" (n.toList ++ ':' :: r) = none := by
  have hline : startsWith "* Authentication suites:" (n.toList ++ ':' :: r) =
      decide ("* Authentication suites" = n) :=
    startsWith_field (q := "* Authentication suites") hn rfl (by decide) r
  rw [stripPrefix_eq_none, hline, decide_eq_false (Ne.symm hne)]

theorem any_onSecurity (ap : AccessPoint) :
    ap.seen.any onSecurity = (ap.saysSecurity || ap.seenBelow.any onSecurity) := by
  have hname : ∀ n, IsName n → n ≠ "* Authentication suites" → ∀ r,
      onSecurity (n.toList ++ ':' :: r) =
        (decide ("capability" = n) || (decide ("RSN" = n) || decide ("WPA" = n))) := by
    intro n hn hne r
    have hsuites := stripPrefix_eq_none.mp (stripPrefix_suites hn hne r)
    have hcapability : startsWith "capability:" (n.toList ++ ':' :: r) = decide ("capability" = n) :=
      startsWith_field (q := "capability") hn rfl (by decide) r
    have hrsn : startsWith "RSN:" (n.toList ++ ':' :: r) = decide ("RSN" = n) :=
      startsWith_field (q := "RSN") hn rfl (by decide) r
    have hwpa : startsWith "WPA:" (n.toList ++ ':' :: r) = decide ("WPA" = n) :=
      startsWith_field (q := "WPA") hn rfl (by decide) r
    rw [onSecurity, startsBlock, hsuites, hcapability, hrsn, hwpa, Bool.or_false]
  have hheads : ∀ es : List Element, es.any (fun e => decide ("capability" = e.head.name) ||
      (decide ("RSN" = e.head.name) || decide ("WPA" = e.head.name))) =
        (es.any (·.head.isRsn) || es.any (·.head.isWpa)) := by
    intro es
    simp only [fun h : Head => h.name_eq.1, fun h : Head => h.name_eq.2.1,
      fun h : Head => h.name_eq.2.2.2.1, Bool.false_or]
    induction es with
    | nil => rfl
    | cons e es ih =>
      simp only [List.any_cons, ih]
      ac_rfl
  have hblocks : ap.elements.any (Element.anySuites fun l => onSecurity (Detail.suites l).seen) =
      true → (ap.hasRsn || ap.hasWpa) = true := by
    intro h
    obtain ⟨e, he, hblock⟩ := List.any_eq_true.mp h
    rw [Element.anySuites, Bool.and_eq_true] at hblock
    rw [Bool.or_eq_true, hasRsn, hasWpa, List.any_eq_true, List.any_eq_true]
    cases hhead : e.head with
    | rsn => exact .inl ⟨e, he, by rw [hhead]; rfl⟩
    | wpa => exact .inr ⟨e, he, by rw [hhead]; rfl⟩
    | wps => rw [hhead] at hblock; cases hblock.1
    | numbered n => rw [hhead] at hblock; cases hblock.1
    | other n => rw [hhead] at hblock; cases hblock.1
  rw [any_seen hname (fun a => by cases a <;> decide), hheads, ← hasRsn, ← hasWpa, saysSecurity]
  have hcapability : (decide ("capability" = "capability") || (decide ("RSN" = "capability") ||
      decide ("WPA" = "capability"))) = true := by decide
  have hssid : (decide ("capability" = "SSID") || (decide ("RSN" = "SSID") ||
      decide ("WPA" = "SSID"))) = false := by decide
  rw [hcapability, hssid, Bool.and_true, Bool.and_false, Bool.or_false]
  -- the suites of the network are listed in blocks
  cases hany : ap.elements.any (Element.anySuites fun l => onSecurity (Detail.suites l).seen) with
  | false => ac_rfl
  | true =>
    rcases Bool.or_eq_true_iff.mp (hblocks hany) with h | h <;> simp [h]

/-- Of any of the suites is true what is true of any list of them. -/
theorem any_anySuites (f : Suite → Bool) (es : List Element) :
    es.any (Element.anySuites fun l => l.any f) = (es.flatMap Element.suites).any f := by
  have hone : ∀ e : Element, e.anySuites (fun l => l.any f) = e.suites.any f := by
    intro e
    rw [Element.anySuites, Element.suites]
    cases e.head.isBlock with
    | false => rfl
    | true =>
      rw [if_pos rfl, List.any_flatMap, Bool.true_and]
      congr 1
      funext d
      cases d <;> rfl
  rw [List.any_flatMap]
  exact congrArg es.any (funext hone)

theorem any_saysSae (ap : AccessPoint) :
    ap.seen.any saysSae = (ap.suites.any Suite.takenForSae || ap.seenBelow.any saysSae) := by
  have hname : ∀ n, IsName n → n ≠ "* Authentication suites" → ∀ r,
      saysSae (n.toList ++ ':' :: r) = false := fun n hn hne r => by
    rw [saysSae, stripPrefix_suites hn hne, Option.any_none]
  have hnone : (ap.elements.any fun _ => false) = false :=
    List.any_eq_false.mpr fun _ _ => Bool.false_ne_true
  rw [any_seen hname fun _ => rfl, hnone]
  simp only [Detail.seen, saysSae_suites, any_anySuites, Bool.and_false, Bool.false_or, suites]

theorem any_saysEnterprise (ap : AccessPoint) : ap.seen.any saysEnterprise =
    (ap.suites.any Suite.takenForEnterprise || ap.seenBelow.any saysEnterprise) := by
  have hname : ∀ n, IsName n → n ≠ "* Authentication suites" → ∀ r,
      saysEnterprise (n.toList ++ ':' :: r) = false := fun n hn hne r => by
    rw [saysEnterprise, stripPrefix_suites hn hne, Option.any_none]
  have hnone : (ap.elements.any fun _ => false) = false :=
    List.any_eq_false.mpr fun _ _ => Bool.false_ne_true
  rw [any_seen hname fun _ => rfl, hnone]
  simp only [Detail.seen, saysEnterprise_suites, any_anySuites, Bool.and_false, Bool.false_or,
    suites]

/-- A line starts a record if the name of its element begins like one, or if it is below a name. -/
theorem any_bss (ap : AccessPoint) : ap.seen.any (startsWith "BSS ") =
    (ap.elements.any (fun e => startsWith "BSS " e.head.name.toList) ||
      ap.seenBelow.any (startsWith "BSS ")) := by
  have hsuites : ∀ l, startsWith "BSS " (Detail.suites l).seen = false := by
    intro l
    rw [Detail.seen, trimChars_suites]
    exact startsWith_append_of_not (by decide) (by decide) _
  rw [any_seen (f := fun n => startsWith "BSS " n.toList)
    (fun n _ _ r => startsWith_name_bss n.toList r) (fun a => by cases a <;> decide),
    any_anySuites_of_false hsuites, Bool.or_false]
  have hcapability : startsWith "BSS " "capability".toList = false := by decide
  have hssid : startsWith "BSS " "SSID".toList = false := by decide
  rw [hcapability, hssid, Bool.and_false, Bool.and_false, Bool.or_false, Bool.false_or]

/-! ### Elements -/

/-- The numbers the reader has for an element of a name. -/
def nameIds (n : String) : List UInt8 :=
  (printedElementNames.filter fun named => named.1 == n ++ ":").map Prod.snd

/-- The names in the reader's table are reserved ones, with a colon after them. -/
theorem mem_printedElementNames {named : String × UInt8} (h : named ∈ printedElementNames) :
    ∃ q ∈ reservedNames, named.1 = q ++ ":" ∧ ':' ∉ q.toList := by
  have hall : ∀ named ∈ printedElementNames,
      ∃ q ∈ reservedNames, named.1 = q ++ ":" ∧ ':' ∉ q.toList := by
    decide
  exact hall named h

theorem append_colon_inj {q n : String} : q ++ ":" = n ++ ":" ↔ q = n := by
  rw [← String.toList_inj, String.toList_append, String.toList_append, List.append_left_inj,
    String.toList_inj]

theorem namedBy_name {n : String} (hn : IsName n) (r : List Char) :
    namedBy (n.toList ++ ':' :: r) = nameIds n := by
  rw [namedBy, nameIds]
  congr 1
  refine List.filter_congr fun named hmem => ?_
  obtain ⟨q, -, hq, hcolon⟩ := mem_printedElementNames hmem
  rw [startsWith_field hn hq hcolon, hq, Bool.eq_iff_iff, decide_eq_true_iff, beq_iff_eq,
    append_colon_inj]

theorem nameIds_head (h : Head) : nameIds h.name = h.id?.toList := by
  cases h with
  | rsn => decide
  | wpa => decide
  | wps => decide
  | numbered n => cases n <;> decide
  | other n =>
    have hnone : ∀ named ∈ printedElementNames, ¬ (named.1 == n.name ++ ":") = true := by
      intro named hmem heq
      obtain ⟨q, hq, hname, -⟩ := mem_printedElementNames hmem
      rw [beq_iff_eq, hname, append_colon_inj] at heq
      exact n.free (heq ▸ hq)
    change nameIds n.name = []
    rw [nameIds, List.filter_eq_nil_iff.mpr hnone]
    rfl

/-- An element is named by a line if the access point sends it, or below a name. -/
theorem mem_namedBy (ap : AccessPoint) (id : UInt8) :
    id ∈ ap.seen.flatMap namedBy ↔ id ∈ ap.ids ∨ id ∈ ap.seenBelow.flatMap namedBy := by
  have hflat : ∀ ts : List (List Char),
      id ∈ ts.flatMap namedBy ↔ ts.any (fun t => (namedBy t).contains id) = true := by
    intro ts
    simp
  have hsuites : ∀ l, (namedBy (Detail.suites l).seen).contains id = false := by
    intro l
    have hall : ∀ named ∈ printedElementNames,
        "* Authentication suites:".toList.isPrefixOf named.1.toList = false ∧
          named.1.toList.isPrefixOf "* Authentication suites:".toList = false := by
      decide
    have hnone : namedBy (Detail.suites l).seen = [] := by
      rw [Detail.seen, trimChars_suites, namedBy, List.filter_eq_nil_iff.mpr]
      · rfl
      · exact fun named hmem => Bool.eq_false_iff.mp
          (startsWith_append_of_not (hall named hmem).1 (hall named hmem).2 _)
    rw [hnone]
    rfl
  have hany := any_seen (p := fun t => (namedBy t).contains id)
    (f := fun n => (nameIds n).contains id) (fun n hn _ r => by rw [namedBy_name hn])
    (fun a => by
      have hnone : nameIds a.name = [] := by cases a <;> decide
      rw [hnone]
      rfl) ap
  have hcapability : nameIds "capability" = [] := by decide
  have hssid : nameIds "SSID" = [0] := by decide
  rw [hflat, hflat, hany, any_anySuites_of_false hsuites]
  simp only [hcapability, hssid, nameIds_head, ids]
  cases ap.ssid with
  | none => simp
  | some name => simp [or_assoc]

/-! ### The name -/

theorem ssidSaid_name {n : String} (hn : IsName n) (hne : "SSID" ≠ n) (text : List Char) :
    ssidSaid (trimChars (nameLine n text)) = none := by
  have hline := startsWith_field (p := "SSID:") (q := "SSID") hn rfl (by decide)
    (text.rdropWhile isWhitespace)
  rw [decide_eq_false hne] at hline
  rw [trimChars_nameLine hn, ssidSaid, stripPrefix_eq_none.mpr hline]
  rfl

/-- An element gives a name only below its own. -/
theorem filterMap_elements (es : List Element) :
    ((es.flatMap Element.lines).map trimChars).filterMap ssidSaid =
      (es.flatMap Element.seenBelow).filterMap ssidSaid := by
  have hsuites : ∀ l, ssidSaid (Detail.suites l).seen = none := by
    intro l
    rw [Detail.seen, trimChars_suites, ssidSaid, stripPrefix_eq_none.mpr
      (startsWith_append_of_not (by decide) (by decide) _)]
    rfl
  have hdetails : ∀ (b : Bool) (ds : List Detail),
      (ds.map Detail.seen).filterMap ssidSaid =
        ((ds.filter (Detail.isBelow b)).map Detail.seen).filterMap ssidSaid := by
    intro b ds
    induction ds with
    | nil => rfl
    | cons d ds ih =>
      rw [List.map_cons, List.filterMap_cons, ih]
      cases d with
      | suites l => cases b <;> simp [Detail.isBelow, hsuites]
      | text t => rw [List.filter_cons_of_pos rfl, List.map_cons, List.filterMap_cons]
  induction es with
  | nil => rfl
  | cons e es ih =>
    have hne : "SSID" ≠ e.head.name := of_decide_eq_false e.head.name_eq.2.2.2.2
    rw [List.flatMap_cons, List.map_append, List.filterMap_append, ih, List.flatMap_cons,
      List.filterMap_append, Element.lines, List.map_cons, List.filterMap_cons,
      ssidSaid_name e.head.isName hne, List.map_map]
    exact congrArg (· ++ _) (hdetails e.head.isBlock e.details)

theorem filterMap_attributes (as : List Attribute) :
    ((attributeLines as).map trimChars).filterMap ssidSaid = [] := by
  rw [List.filterMap_eq_nil_iff]
  intro t ht
  obtain ⟨l, hl, rfl⟩ := List.mem_map.mp ht
  obtain ⟨a, -, rfl⟩ := List.mem_map.mp hl
  exact ssidSaid_name a.name.isName (by cases a.name <;> decide) _

/-- The last name given below the names of elements, of those after the access point's own if it
has one. -/
def ssidBelow (ap : AccessPoint) : Option Ssid :=
  match ap.ssid with
  | none => (ap.seenBelow.filterMap ssidSaid).getLast?
  | some _ => ((ap.after.flatMap Element.seenBelow).filterMap ssidSaid).getLast?

/-- The name a record gives is the access point's, unless there is another below. -/
theorem getLast_ssidSaid (ap : AccessPoint) : (ap.seen.filterMap ssidSaid).getLast? =
    ap.ssidBelow.or (ap.ssid.map fun name => Ssid.fromBytes name.1) := by
  have hcapability : ((ap.capability.map fun c => nameLine "capability" c.text).toList.map
      trimChars).filterMap ssidSaid = [] := by
    cases ap.capability with
    | none => rfl
    | some c => simp [ssidSaid_name isName_capability]
  simp only [seen, body, linesBefore, List.map_append, List.filterMap_append, filterMap_attributes,
    hcapability, filterMap_elements, List.nil_append, List.append_nil, ssidBelow]
  cases ap.ssid with
  | none => simp [seenBelow, elements]
  | some name =>
    simp only [Option.map_some, Option.toList_some, List.map_cons, List.map_nil,
      List.filterMap_cons, List.filterMap_nil, ssidSaid_ssidLine, List.getLast?_append,
      List.getLast?_singleton, Option.some_or]

/-! ### An open network -/

theorem opens_capability (c : Capabilities) :
    opens (trimChars (nameLine "capability" c.text)) = !c.privacy := by
  have hwords : c.text = ((c.flags.map fun flag => flag.word.toList) ++
      ["(0x".toList ++ Hex.byte (c.value >>> 8).toUInt8 ++ Hex.byte c.value.toUInt8 ++
        [')']]).flatMap (' ' :: ·) := by
    simp [Capabilities.text, List.flatMap_map]
  have hvalue : ¬ "Privacy".toList <:+: "(0x".toList ++ Hex.byte (c.value >>> 8).toUInt8 ++
      Hex.byte c.value.toUInt8 ++ [')'] := by
    intro h
    have hbyte := Hex.not_mem_byte (d := 'P') (by decide)
    have hP := h.subset (by decide : 'P' ∈ "Privacy".toList)
    simp [hbyte] at hP
  have hword : ∀ flag : Capability, "Privacy".toList <:+: flag.word.toList ↔ flag = .privacy := by
    intro flag
    cases flag <;> decide
  have hcontains : contains c.text "Privacy" = c.privacy := by
    rw [contains, Bool.eq_iff_iff, decide_eq_true_iff, hwords,
      infix_flatMap_cons (by decide) (by decide), Capabilities.privacy, List.contains_iff_mem]
    simp only [List.mem_append, List.mem_map, List.mem_singleton]
    constructor
    · rintro ⟨w, ⟨flag, hflag, rfl⟩ | rfl, h⟩
      · rwa [← (hword flag).mp h]
      · exact absurd h hvalue
    · exact fun h => ⟨_, .inl ⟨_, h, rfl⟩, (hword _).mpr rfl⟩
  have hcolon : "capability:".toList = "capability".toList ++ [':'] := by decide
  rw [trimChars_nameLine isName_capability, List.append_cons, ← hcolon, opens, stripPrefix_append,
    Option.any_some, contains_rdropWhile (d := 'y') (by decide) (by decide), hcontains]

/-- An open network is seen to be open, unless a line starts the block of a scheme. -/
theorem opens_of_isOpen {ap : AccessPoint} (h : ap.isOpen = true)
    (hblock : ap.seen.any startsBlock = false) :
    (ap.seen.rtakeWhile (!startsBlock ·)).any opens = true := by
  have hall : ap.seen.rtakeWhile (!startsBlock ·) = ap.seen := by
    rw [List.rtakeWhile_eq_self_iff]
    intro t ht
    rw [List.any_eq_false] at hblock
    simpa using hblock t ht
  rw [isOpen, Bool.and_eq_true, Bool.and_eq_true, Option.any_eq_true] at h
  obtain ⟨c, hc, hprivacy⟩ := h.1.1
  rw [hall, List.any_eq_true]
  refine ⟨trimChars (nameLine "capability" c.text), ?_, by rw [opens_capability, hprivacy]⟩
  refine List.mem_map_of_mem ?_
  simp [body, linesBefore, hc]

/-! ## Records -/

/-- The suites of a network are in the blocks of its schemes. -/
theorem suites_of_no_block {ap : AccessPoint} (hrsn : ap.hasRsn = false)
    (hwpa : ap.hasWpa = false) : ap.suites = [] := by
  rw [hasRsn, List.any_eq_false] at hrsn
  rw [hasWpa, List.any_eq_false] at hwpa
  rw [suites, List.flatMap_eq_nil_iff]
  intro e he
  have hblock : e.head.isBlock = false := by
    have hr := hrsn e he
    have hw := hwpa e he
    cases hh : e.head with
    | rsn => rw [hh] at hr; exact absurd rfl hr
    | wpa => rw [hh] at hw; exact absurd rfl hw
    | wps => rfl
    | numbered n => rfl
    | other n => rfl
  rw [Element.suites, hblock]
  rfl

theorem any_startsBlock (ts : List (List Char)) : ts.any startsBlock =
    (ts.any (startsWith "RSN:") || ts.any (startsWith "WPA:")) := by
  induction ts with
  | nil => rfl
  | cons t ts ih =>
    simp only [List.any_cons, ih, startsBlock]
    ac_rfl

/-- No name of an element begins like the first line of a record, and no line below one. -/
def OneRecord (ap : AccessPoint) : Prop :=
  ap.elements.any (fun e => startsWith "BSS " e.head.name.toList) = false ∧
    ap.seenBelow.any (startsWith "BSS ") = false

theorem oneRecord_iff (ap : AccessPoint) :
    ap.OneRecord ↔ ap.seen.any (startsWith "BSS ") = false := by
  rw [OneRecord, any_bss, Bool.or_eq_false_iff]

/-- What stands below the names of elements does not say of the access point what is not so. -/
structure SaysTrue (ap : AccessPoint) : Prop where
  /-- The last line `SSID:` after the access point's own spells the same name; if it has none, no
  line does. -/
  ssid : ∀ s, ap.ssidBelow = some s → ap.ssid.map (fun name => Ssid.fromBytes name.1) = some s
  ids : ∀ id, id ∈ ap.seenBelow.flatMap namedBy → id ∈ ap.ids
  wps : ap.seenBelow.any (startsWith "WPS:") = true → ap.hasWps = true
  saysSecurity : ap.seenBelow.any onSecurity = true → ap.saysSecurity = true
  rsn : ap.seenBelow.any (startsWith "RSN:") = true → ap.hasRsn = true
  wpa : ap.seenBelow.any (startsWith "WPA:") = true → ap.hasWpa = true
  /-- No line of capabilities without privacy comes after the last block, unless the network is
  open. -/
  isOpen : (ap.seen.rtakeWhile (!startsBlock ·)).any opens = true → ap.isOpen = true
  sae : (ap.suites.any Suite.takenForSae || ap.seenBelow.any saysSae) = ap.suites.any Suite.isSae
  enterprise : (ap.suites.any Suite.takenForEnterprise || ap.seenBelow.any saysEnterprise) =
    ap.suites.any Suite.isEnterprise

/-- How the lines of a record say the network is protected. -/
def securitySeen (ap : AccessPoint) : Option Security :=
  if ap.seen.any onSecurity then some (finishFlags (securitySaid ap.seen)) else none

theorem securitySeen_of_saysTrue {ap : AccessPoint} (h : ap.SaysTrue) :
    ap.securitySeen = ap.security := by
  have hrsn : ap.seen.any (startsWith "RSN:") = ap.hasRsn := by
    rw [any_rsn]
    cases hb : ap.seenBelow.any (startsWith "RSN:") with
    | false => rw [Bool.or_false]
    | true => rw [h.rsn hb, Bool.or_true]
  have hwpa : ap.seen.any (startsWith "WPA:") = ap.hasWpa := by
    rw [any_wpa]
    cases hb : ap.seenBelow.any (startsWith "WPA:") with
    | false => rw [Bool.or_false]
    | true => rw [h.wpa hb, Bool.or_true]
  have hspeaks : ap.seen.any onSecurity = ap.saysSecurity := by
    rw [any_onSecurity]
    cases hb : ap.seenBelow.any onSecurity with
    | false => rw [Bool.or_false]
    | true => rw [h.saysSecurity hb, Bool.or_true]
  have hopen : (ap.seen.rtakeWhile (!startsBlock ·)).any opens = ap.isOpen := by
    cases ho : ap.isOpen with
    | false => exact Bool.eq_false_iff.mpr fun hs => by rw [h.isOpen hs] at ho; cases ho
    | true =>
      refine opens_of_isOpen ho ?_
      rw [isOpen, Bool.and_eq_true, Bool.and_eq_true, Bool.not_eq_true', Bool.not_eq_true'] at ho
      rw [any_startsBlock, hrsn, hwpa, ho.1.2, ho.2]
      rfl
  rw [securitySeen, security, hspeaks]
  cases hs : ap.saysSecurity with
  | false => rfl
  | true =>
    rw [if_pos rfl, if_pos rfl, securitySaid, hrsn, hwpa, hopen, any_saysSae, any_saysEnterprise,
      h.sae, h.enterprise]
    cases hr : ap.hasRsn with
    | true => simp [finishFlags, isOpen, hr]
    | false =>
      cases hw : ap.hasWpa with
      | true => simp [finishFlags, isOpen, hr, hw]
      | false =>
        -- a network without a scheme has only its capabilities
        obtain ⟨c, hc⟩ : ∃ c, ap.capability = some c := by
          rw [saysSecurity, hr, hw, Bool.or_false, Bool.or_false, Option.isSome_iff_exists] at hs
          exact hs
        rw [suites_of_no_block hr hw]
        cases hp : c.privacy <;> simp [finishFlags, isOpen, hr, hw, hc, hp]

/-- Where a record says how its network is protected, all its lines that speak of it say so. -/
theorem securitySaid_of_securitySeen {ap : AccessPoint} (h : ap.securitySeen = ap.security) :
    ap.seen.any onSecurity = ap.saysSecurity ∧
      (securitySaid ap.seen).isOpen = ap.isOpen ∧
      (securitySaid ap.seen).wpa = ap.hasWpa ∧
      (securitySaid ap.seen).wpa2 = ap.hasRsn ∧
      (securitySaid ap.seen).wpa3 = ap.suites.any Suite.isSae ∧
      (securitySaid ap.seen).enterprise = ap.suites.any Suite.isEnterprise := by
  rw [securitySeen, security] at h
  cases hs : ap.saysSecurity with
  | true =>
    cases hseen : ap.seen.any onSecurity with
    | false => rw [hs, hseen] at h; cases h
    | true =>
      rw [hs, hseen, if_pos rfl, if_pos rfl, Option.some.injEq, finishFlags] at h
      -- the flags but for WEP are as the lines said
      split at h <;>
        exact ⟨rfl, congrArg Security.isOpen h, congrArg Security.wpa h, congrArg Security.wpa2 h,
          congrArg Security.wpa3 h, congrArg Security.enterprise h⟩
  | false =>
    cases hseen : ap.seen.any onSecurity with
    | true => rw [hs, hseen] at h; cases h
    | false =>
      rw [saysSecurity, Bool.or_eq_false_iff, Bool.or_eq_false_iff] at hs
      have hopen : ap.isOpen = false := by
        rw [isOpen, Option.isNone_iff_eq_none.mp (Option.isSome_eq_false_iff.mp hs.1.1)]
        rfl
      rw [securitySaid_of_none hseen, suites_of_no_block hs.1.2 hs.2, hopen, hs.1.2, hs.2]
      exact ⟨rfl, rfl, rfl, rfl, rfl, rfl⟩

/-- The observation made of a record that is read as one. -/
def record [Floats] (ap : AccessPoint) : WifiObservation :=
  finishSecurity (ap.seen.foldl readInto (observed ap.bssid))

section
variable [Floats]

theorem record_fields (ap : AccessPoint) : ap.record.bssid = some ap.bssid ∧
    ap.record.ssid = ap.ssidBelow.or (ap.ssid.map fun name => Ssid.fromBytes name.1) ∧
    ap.record.informationElements.map (·.id) = (ap.seen.flatMap namedBy).eraseDups ∧
    ap.record.wps = ap.seen.any (startsWith "WPS:") ∧
    ap.record.security = ap.securitySeen := by
  obtain ⟨f, r, l, h⟩ := foldl_readInto ap.seen (observed ap.bssid)
  rw [record, finishSecurity_eq, h]
  refine ⟨rfl, ?_, ?_, rfl, ?_⟩
  · rw [getLast_ssidSaid]
    simp [observed]
  · rw [observed, foldl_addElement, List.map_map]
    exact List.map_id _
  · simp only [observed, foldl_saySecurity, securitySeen]
    cases ap.seen.any onSecurity <;> rfl

/-- An access point is seen as it is if nothing below the names of its elements says otherwise. -/
theorem shows_record_iff (ap : AccessPoint) : Shows ap ap.record ↔ ap.SaysTrue := by
  obtain ⟨hbssid, hssid, helements, hwps, hsecurity⟩ := ap.record_fields
  constructor
  · intro h
    obtain ⟨hspeaks, hopen, hwpa, hrsn, hsae, henterprise⟩ :=
      securitySaid_of_securitySeen (hsecurity ▸ h.security)
    refine ⟨?_, ?_, ?_, ?_, ?_, ?_, ?_, ?_, ?_⟩
    · intro s hs
      rw [← h.ssid, hssid, hs]
      rfl
    · intro id hid
      rw [← h.elements, helements, List.mem_eraseDups, mem_namedBy]
      exact .inr hid
    · intro hb
      rw [← h.wps, hwps, any_wps, hb, Bool.or_true]
    · intro hb
      rw [← hspeaks, any_onSecurity, hb, Bool.or_true]
    · intro hb
      rw [← hrsn, securitySaid, any_rsn, hb, Bool.or_true]
    · intro hb
      rw [← hwpa, securitySaid, any_wpa, hb, Bool.or_true]
    · intro hb
      rw [← hopen, securitySaid, hb]
    · rw [← hsae, securitySaid, any_saysSae]
    · rw [← henterprise, securitySaid, any_saysEnterprise]
  · intro h
    refine ⟨hbssid, ?_, ?_, ?_, ?_⟩
    · rw [hssid]
      cases hb : ap.ssidBelow with
      | none => rfl
      | some s => exact (h.ssid s hb).symm
    · intro id
      rw [helements, List.mem_eraseDups, mem_namedBy]
      exact or_iff_left_of_imp (h.ids id)
    · rw [hwps, any_wps]
      cases hb : ap.seenBelow.any (startsWith "WPS:") with
      | false => rw [Bool.or_false]
      | true => rw [h.wps hb, Bool.or_true]
    · rw [hsecurity, securitySeen_of_saysTrue h]

end

end AccessPoint

/-! ## Scans -/

section
variable [Floats]

/-- A scan is read as what the lines of its records are. -/
theorem parseIwScan_print (aps : List AccessPoint) : parseIwScan (print aps) =
    ((aps.flatMap fun ap => trimChars ap.header :: ap.seen).foldl readTrimmed {}).records := by
  rw [parseIwScan_eq, trimmed_print]
  rfl

/-- Records that are read as one each are read one by one. -/
theorem parseIwScan_of_oneRecord {aps : List AccessPoint} (h : ∀ ap ∈ aps, ap.OneRecord) :
    parseIwScan (print aps) = aps.map AccessPoint.record := by
  have hrun : ∀ st : ScanState,
      ((aps.flatMap fun ap => trimChars ap.header :: ap.seen).foldl readTrimmed st).records =
        st.records ++ aps.map AccessPoint.record := by
    induction aps with
    | nil => simp
    | cons ap aps ih =>
      intro st
      obtain ⟨rest, hheader, hstart⟩ := trimChars_header ap
      have hbody : ∀ t ∈ ap.seen, startsWith "BSS " t = false := fun t ht =>
        Bool.eq_false_iff.mpr
          (List.any_eq_false.mp (ap.oneRecord_iff.mp (h ap (List.mem_cons_self ..))) t ht)
      rw [List.flatMap_cons, List.foldl_append, hheader, foldl_readTrimmed st hbody,
        ih fun ap' hap' => h ap' (List.mem_cons_of_mem _ hap')]
      simp [ScanState.records, AccessPoint.record, hstart]
  rw [parseIwScan_print, hrun]
  rfl

/-- As many records are read as there are, just if each is read as one. -/
theorem length_parseIwScan_iff (aps : List AccessPoint) :
    (parseIwScan (print aps)).length = aps.length ↔ ∀ ap ∈ aps, ap.OneRecord := by
  have hcount : (aps.flatMap fun ap => trimChars ap.header :: ap.seen).countP (startsWith "BSS ") =
      aps.length + (aps.flatMap AccessPoint.seen).countP (startsWith "BSS ") := by
    induction aps with
    | nil => rfl
    | cons ap aps ih =>
      obtain ⟨rest, hheader, -⟩ := trimChars_header ap
      rw [List.flatMap_cons, List.countP_append, ih, List.flatMap_cons, List.countP_append,
        List.countP_cons, hheader, startsWith_append, List.length_cons]
      simp
      omega
  have hnone : (aps.flatMap AccessPoint.seen).countP (startsWith "BSS ") = 0 ↔
      ∀ ap ∈ aps, ap.OneRecord := by
    rw [List.countP_eq_zero]
    constructor
    · intro h ap hap
      rw [AccessPoint.oneRecord_iff, List.any_eq_false]
      exact fun t ht => h t (List.mem_flatMap.mpr ⟨ap, hap, ht⟩)
    · intro h t ht
      obtain ⟨ap, hap, ht⟩ := List.mem_flatMap.mp ht
      exact List.any_eq_false.mp (ap.oneRecord_iff.mp (h ap hap)) t ht
  rw [parseIwScan_print, length_records, hcount, ← hnone]
  change 0 + _ = _ ↔ _
  omega

/-- Whatever name an access point gives itself, that changes the name in one observation and nothing
else. -/
def NamesInert (aps : List AccessPoint) : Prop :=
  ∀ front ap back name, aps = front ++ ap :: back → ap.ssid.isSome = true →
    SameButName (parseIwScan (print aps))
      (parseIwScan (print (front ++ { ap with ssid := some name } :: back)))

/-- Every access point is read as it is, and no name changes anything but a name. -/
def ReadBack (aps : List AccessPoint) : Prop :=
  List.Forall₂ Shows aps (parseIwScan (print aps)) ∧ NamesInert aps

theorem namesInert (aps : List AccessPoint) : NamesInert aps := by
  rintro front ap back name rfl hssid
  obtain ⟨own, hown⟩ := Option.isSome_iff_exists.mp hssid
  let before := (front.flatMap fun ap => trimChars ap.header :: ap.seen) ++
    trimChars ap.header :: ap.linesBefore.map trimChars
  let after := (ap.after.flatMap Element.lines).map trimChars ++
    back.flatMap fun ap => trimChars ap.header :: ap.seen
  have hlines : ∀ n, (front ++ { ap with ssid := some n } :: back).flatMap
      (fun ap => trimChars ap.header :: ap.seen) =
        before ++ trimChars (AccessPoint.ssidLine n) :: after := by
    intro n
    simp [before, after, AccessPoint.seen, AccessPoint.body, AccessPoint.linesBefore,
      AccessPoint.header, AccessPoint.headerRest]
  have hap : ap = { ap with ssid := some own } := by rw [← hown]
  have hown' := hlines own
  rw [← hap] at hown'
  have hrun : ∀ t, (before ++ t :: after).foldl readTrimmed {} =
      after.foldl readTrimmed (readTrimmed (before.foldl readTrimmed {}) t) := fun t => by
    rw [List.foldl_append, List.foldl_cons]
  rw [parseIwScan_print, parseIwScan_print, hlines, hown', hrun, hrun]
  have hapart := NameApart.of_ssid (ssidSaid_ssidLine own) (ssidSaid_ssidLine name)
    (before.foldl readTrimmed {})
  exact (hapart.run after).records

/-- Reading a scan inverts its printing where no name of an element begins like a record and no line
below one says of the access point what is not so, and only there. -/
theorem readBack_iff (aps : List AccessPoint) :
    ReadBack aps ↔ ∀ ap ∈ aps, ap.OneRecord ∧ ap.SaysTrue := by
  constructor
  · rintro ⟨hread, -⟩
    have hone := (length_parseIwScan_iff aps).mp hread.length_eq.symm
    rw [parseIwScan_of_oneRecord hone, List.forall₂_map_right_iff, List.forall₂_same] at hread
    exact fun ap hap => ⟨hone ap hap, ap.shows_record_iff.mp (hread ap hap)⟩
  · intro h
    refine ⟨?_, namesInert aps⟩
    rw [parseIwScan_of_oneRecord fun ap hap => (h ap hap).1, List.forall₂_map_right_iff,
      List.forall₂_same]
    exact fun ap hap => ap.shows_record_iff.mpr (h ap hap).2

end

/-! ## A record in two -/

/-- No number is read; the scan below has none. -/
@[reducible] def noFloats : Floats where
  F64 := Unit
  parse _ := none
  asU32 _ := 0
  roundAsI16 _ := 0

/-- A line of text. -/
def inline (s : String) (h : '\n' ∉ s.toList := by decide) : Inline := ⟨s.toList, h⟩

/-- A name for an element that the reader has no use for. -/
def bssLoad : OtherName where
  name := "BSS Load"
  isName := ⟨by decide, by decide, 'B', rfl, by decide⟩
  free := by decide

/-- A network with WPA2 and the elements given. -/
def home (elements : List Element) : AccessPoint where
  bssid := ⟨#v[0x3c, 0x52, 0xa1, 0xfe, 0xc9, 0x8b]⟩
  iface := some (inline "scan0")
  status := none
  attributes := []
  capability := some ⟨[.ess, .privacy], 0x0011⟩
  moreAttributes := []
  before := []
  ssid := some ⟨"home".toList.map fun c => UInt8.ofNat c.toNat, by decide⟩
  after := elements ++ [⟨.rsn, inline "\t * Version: 1", [.suites [⟨ieee, 2, true⟩]]⟩]

/-- What `iw` prints of the load of an access point. -/
def load : Element := ⟨.other bssLoad, inline "", [.text (inline " * station count: 2")]⟩

example : (home []).OneRecord ∧ (home []).SaysTrue := by
  refine ⟨⟨by decide, by decide⟩, ?_⟩
  refine ⟨?_, ?_, by decide, by decide, by decide, by decide, by decide, by decide, by decide⟩
  · intro s hs
    cases hs
  · intro id hid
    cases hid

/-- The element `BSS Load:` ends the record it is in: what follows is of a network with no address,
and the network itself is left with nothing but privacy, which is taken for WEP. -/
theorem load_splits_record : ¬ @ReadBack noFloats [home [load]] ∧
    (@parseIwScan noFloats (print [home [load]])).map (fun obs => (obs.bssid, obs.security)) =
      [(some ⟨#v[0x3c, 0x52, 0xa1, 0xfe, 0xc9, 0x8b]⟩, some { wep := true }),
        (none, some { wpa2 := true })] := by
  have hread : (@parseIwScan noFloats (print [home [load]])).map
      (fun obs => (obs.bssid, obs.security)) =
        [(some ⟨#v[0x3c, 0x52, 0xa1, 0xfe, 0xc9, 0x8b]⟩, some { wep := true }),
          (none, some { wpa2 := true })] := by
    rw [@parseIwScan_print noFloats]
    decide +kernel
  refine ⟨?_, hread⟩
  rintro ⟨h, -⟩
  have hlength := congrArg List.length hread
  rw [List.length_map, ← h.length_eq] at hlength
  cases hlength

end Rayhunter.Iw
