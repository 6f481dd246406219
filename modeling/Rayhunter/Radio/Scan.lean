import Rayhunter.Lib.Lines
import Rayhunter.Radio.Observation

/-!
# Reading the output of `iw scan`

`parse_iw_scan` (`radio/src/scan.rs`). The parser trims every line and looks at how it begins: with
`BSS ` a record starts, with the name of a field that field is read, whatever element the line is a
part of. So what it finds in a record is a matter of the record's lines one by one, which is what
the lemmas on `readInto` say field by field.
-/

namespace Rayhunter

/-- Reading a number with a fraction, `str::parse::<f64>`, and what the parser makes of it: the
casts to `u32` and, after rounding, to `i16`. -/
class Floats where
  F64 : Type
  parse : List Char → Option F64
  asU32 : F64 → UInt32
  roundAsI16 : F64 → Int16

namespace Scan

open Text

/-- `PRINTED_ELEMENT_NAMES` (`scan.rs:36`). -/
def printedElementNames : List (String × UInt8) :=
  [("SSID:", 0), ("Supported rates:", 1), ("DS Parameter set:", 3), ("TIM:", 5), ("Country:", 7),
    ("ERP:", 42), ("RSN:", 48), ("Extended supported rates:", 50), ("HT capabilities:", 45),
    ("HT operation:", 61), ("Extended capabilities:", 127), ("VHT capabilities:", 191),
    ("VHT operation:", 192)]

/-- `as_bytes`. -/
def asBytes (cs : List Char) : List UInt8 := cs.flatMap String.utf8EncodeChar

/-- `\`, as a byte. -/
def backslash : UInt8 := 0x5c

/-- The byte two digits stand for, if they are digits (`scan.rs:67`). -/
def hexByte? (hi lo : UInt8) : Option UInt8 :=
  match Hex.value? (Char.ofNat hi.toNat), Hex.value? (Char.ofNat lo.toNat) with
  | some hi, some lo => some (UInt8.ofNat (hi * 16 + lo))
  | _, _ => none

/-- `unescape_iw` (`scan.rs:60`). -/
def unescapeIw : List UInt8 → List UInt8
  | b :: x :: hi :: lo :: rest =>
    match if b = backslash ∧ x = 0x78 then hexByte? hi lo else none with
    | some byte => byte :: unescapeIw rest
    | none =>
      if b = backslash ∧ x = backslash then b :: unescapeIw (hi :: lo :: rest)
      else b :: unescapeIw (x :: hi :: lo :: rest)
  | b :: x :: rest =>
    if b = backslash ∧ x = backslash then b :: unescapeIw rest else b :: unescapeIw (x :: rest)
  | rest => rest

/-- `finish_security` (`scan.rs:93`). -/
def finishSecurity (obs : WifiObservation) : WifiObservation :=
  match obs.security with
  | some sec =>
    if !sec.isOpen && !sec.wpa && !sec.wpa2 && !sec.wpa3 then
      { obs with security := some { sec with wep := true } }
    else obs
  | none => obs

/-- `str::parse::<u32>`. -/
def parseU32 (cs : List Char) : Option UInt32 :=
  let digits := if cs.head? = some '+' then cs.tail else cs
  let value := digits.foldl (fun n c => 10 * n + (c.toNat - 48)) 0
  if digits ≠ [] ∧ digits.all Char.isDigit ∧ value < 2 ^ 32 then some (UInt32.ofNat value) else none

/-- The name a line `SSID:` gives (`scan.rs:195`). -/
def readSsid (v : List Char) : Ssid :=
  Ssid.fromBytes (unescapeIw (asBytes ((stripPrefix " " v).getD v)))

/-- The observation a record starts with (`scan.rs:122`). -/
def startRecord (rest : List Char) : WifiObservation :=
  let addrText := ((firstWord rest).getD []).takeWhile (· ≠ '(')
  let obs := WifiObservation.empty
  let obs :=
    match MacAddr.parse addrText with
    | .ok mac => { obs with bssid := some mac, transmitter := some mac }
    | .error _ => obs
  { obs with frame := some .beaconOrProbeResponse }

section
variable [Floats]

/-- The fields of a record, by the beginning of a trimmed line (`scan.rs:146`). -/
def readField (obs : WifiObservation) (t : List Char) : WifiObservation :=
  if let some v := stripPrefix "freq:" t then
    match Floats.parse (trimChars v) with
    | some freq => { obs with frequencyMhz := some (Floats.asU32 freq) }
    | none => obs
  else if let some v := stripPrefix "signal:" t then
    match (firstWord v).bind Floats.parse with
    | some dbm => { obs with rssiDbm := some (Floats.roundAsI16 dbm) }
    | none => obs
  else if let some v := stripPrefix "capability:" t then
    let sec := obs.security.getD {}
    let sec := if contains v "Privacy" then sec else { sec with isOpen := true }
    { obs with security := some sec }
  else if startsWith "RSN:" t then
    { obs with security := some { obs.security.getD {} with wpa2 := true, isOpen := false } }
  else if startsWith "WPA:" t then
    { obs with security := some { obs.security.getD {} with wpa := true, isOpen := false } }
  else if startsWith "WPS:" t then { obs with wps := true }
  else if let some v := stripPrefix "* Authentication suites:" t then
    let sec := obs.security.getD {}
    let sec := if contains v "00-0f-ac:8" || contains v "SAE" then { sec with wpa3 := true } else sec
    let sec := if contains v "802.1X" then { sec with enterprise := true } else sec
    { obs with security := some sec }
  else if let some v := stripPrefix "last seen:" t then
    match (firstWord v).bind parseU32 with
    | some ms => { obs with lastSeenMs := some ms }
    | none => obs
  else if let some v := stripPrefix "SSID:" t then { obs with ssid := some (readSsid v) }
  else obs

/-- An element named by a line is one the record has, once (`scan.rs:200`). -/
def notePrinted (t : List Char) (obs : WifiObservation) (named : String × UInt8) :
    WifiObservation :=
  if startsWith named.1 t && !obs.informationElements.any (·.id == named.2) then
    let elements := obs.informationElements ++ [InformationElement.new named.2 []]
    { obs with informationElements := elements }
  else obs

/-- A line of a record. -/
def readInto (obs : WifiObservation) (t : List Char) : WifiObservation :=
  printedElementNames.foldl (notePrinted t) (readField obs t)

/-- The loop's variables `out` and `current`. -/
structure ScanState where
  out : List WifiObservation := []
  current : Option WifiObservation := none
  deriving DecidableEq, Repr

/-- The records so far, the one being read last. -/
def ScanState.records (st : ScanState) : List WifiObservation :=
  st.out ++ (st.current.map finishSecurity).toList

/-- A trimmed line (`scan.rs:117`). -/
def readTrimmed (st : ScanState) (t : List Char) : ScanState :=
  match stripPrefix "BSS " t with
  | some rest => { out := st.records, current := some (startRecord rest) }
  | none =>
    match st.current with
    | some obs => { st with current := some (readInto obs t) }
    | none => st

/-- `parse_iw_scan` (`scan.rs:110`). -/
def parseIwScan (output : String) : List WifiObservation :=
  ((lines output).foldl (fun st line => readTrimmed st (trimChars line.toList)) {}).records

theorem parseIwScan_eq (output : String) :
    parseIwScan output = ((trimmed output).foldl readTrimmed {}).records := by
  rw [trimmed, List.foldl_map]
  rfl

end

/-! ## What a line says of a record -/

/-- The beginnings of lines that are fields. -/
def fieldNames : List String :=
  ["freq:", "signal:", "capability:", "RSN:", "WPA:", "WPS:", "* Authentication suites:",
    "last seen:", "SSID:"]

/-- A line is one field at most. -/
theorem one_field {p q : String} {t : List Char} (hp : p ∈ fieldNames) (hq : q ∈ fieldNames)
    (hne : q ≠ p) (h : startsWith p t = true) : startsWith q t = false := by
  have hall : ∀ p ∈ fieldNames, ∀ q ∈ fieldNames, q ≠ p →
      p.toList.isPrefixOf q.toList = false ∧ q.toList.isPrefixOf p.toList = false := by
    decide
  exact not_startsWith h (hall p hp q hq hne).1 (hall p hp q hq hne).2

/-- What a line says of how the network is protected, given what was said before. -/
def saySecurity (before : Option Security) (t : List Char) : Option Security :=
  if let some v := stripPrefix "capability:" t then
    let sec := before.getD {}
    some (if contains v "Privacy" then sec else { sec with isOpen := true })
  else if startsWith "RSN:" t then some { before.getD {} with wpa2 := true, isOpen := false }
  else if startsWith "WPA:" t then some { before.getD {} with wpa := true, isOpen := false }
  else if let some v := stripPrefix "* Authentication suites:" t then
    let sec := before.getD {}
    let sec := if contains v "00-0f-ac:8" || contains v "SAE" then { sec with wpa3 := true } else sec
    some (if contains v "802.1X" then { sec with enterprise := true } else sec)
  else before

/-- The name a line gives. -/
def ssidSaid (t : List Char) : Option Ssid := (stripPrefix "SSID:" t).map readSsid

/-- An element more, if it is not there. -/
def addElement (elements : List InformationElement) (id : UInt8) : List InformationElement :=
  if elements.any (·.id == id) then elements else elements ++ [InformationElement.new id []]

/-- The elements a line names. -/
def namedBy (t : List Char) : List UInt8 :=
  (printedElementNames.filter fun named => startsWith named.1 t).map Prod.snd

theorem field_of (t : List Char) :
    (∃ p ∈ fieldNames, ∀ q ∈ fieldNames, startsWith q t = decide (q = p)) ∨
      ∀ q ∈ fieldNames, startsWith q t = false := by
  by_cases h : ∃ p ∈ fieldNames, startsWith p t = true
  · obtain ⟨p, hp, ht⟩ := h
    refine .inl ⟨p, hp, fun q hq => ?_⟩
    by_cases hqp : q = p
    · rw [decide_eq_true hqp, hqp, ht]
    · rw [decide_eq_false hqp, one_field (t := t) hp hq hqp ht]
  · exact .inr fun q hq => Bool.not_eq_true _ ▸ fun ht => h ⟨q, hq, ht⟩

/-- The flags of a record that is complete. -/
def finishFlags (sec : Security) : Security :=
  if !sec.isOpen && !sec.wpa && !sec.wpa2 && !sec.wpa3 then { sec with wep := true } else sec

theorem finishSecurity_eq (obs : WifiObservation) :
    finishSecurity obs = { obs with security := obs.security.map finishFlags } := by
  obtain ⟨_, _, _, _, _, _, _, _, _, security, _, _⟩ := obs
  cases security with
  | none => rfl
  | some sec =>
    simp only [finishSecurity, Option.map_some, finishFlags]
    split <;> rfl

/-! ### Elements -/

/-- The elements are the ones named, each once and without a payload. -/
theorem foldl_addElement (ids : List UInt8) :
    ids.foldl addElement [] = ids.eraseDups.map (InformationElement.new · []) := by
  induction ids using List.reverseRecOn with
  | nil => rfl
  | append_singleton ids id ih =>
    rw [List.foldl_concat, ih, List.eraseDups_append, addElement]
    by_cases hid : id ∈ ids
    · simp [hid, List.removeAll, InformationElement.new]
    · simp [hid, List.removeAll, InformationElement.new, List.eraseDups_cons]

/-! ### Protection -/

/-- A line of capabilities without privacy. -/
def opens (t : List Char) : Bool := (stripPrefix "capability:" t).any (!contains · "Privacy")

/-- A line that starts the block of a scheme. -/
def startsBlock (t : List Char) : Bool := startsWith "RSN:" t || startsWith "WPA:" t

/-- A line of suites with a mark of SAE. -/
def saysSae (t : List Char) : Bool :=
  (stripPrefix "* Authentication suites:" t).any fun v => contains v "00-0f-ac:8" || contains v "SAE"

/-- A line of suites with a mark of 802.1X. -/
def saysEnterprise (t : List Char) : Bool :=
  (stripPrefix "* Authentication suites:" t).any (contains · "802.1X")

/-- A line that says anything of how the network is protected. -/
def onSecurity (t : List Char) : Bool :=
  startsWith "capability:" t || startsBlock t || startsWith "* Authentication suites:" t

/-- What lines say together. A block takes back that the network is open, so only the lines after
the last one count for that. -/
def securitySaid (ts : List (List Char)) : Security where
  isOpen := (ts.rtakeWhile (!startsBlock ·)).any opens
  wpa := ts.any (startsWith "WPA:")
  wpa2 := ts.any (startsWith "RSN:")
  wpa3 := ts.any saysSae
  enterprise := ts.any saysEnterprise

theorem saySecurity_securitySaid (ts : List (List Char)) (t : List Char) (before : Option Security)
    (h : before.getD {} = securitySaid ts) :
    saySecurity before t = if onSecurity t then some (securitySaid (ts ++ [t])) else before := by
  unfold securitySaid at h ⊢
  rw [List.rtakeWhile_concat]
  rcases field_of t with ⟨p, hp, hall⟩ | hall
  · simp only [fieldNames, List.mem_cons, List.not_mem_nil, or_false] at hp
    rcases hp with rfl | rfl | rfl | rfl | rfl | rfl | rfl | rfl | rfl
    all_goals
      simp [fieldNames] at hall
      simp [saySecurity, onSecurity, startsBlock, opens, saysSae, saysEnterprise, stripPrefix, hall, h]
    · cases contains (t.drop 11) "Privacy" <;> simp
    · cases contains (t.drop 24) "802.1X" <;> cases contains (t.drop 24) "00-0f-ac:8" <;>
        cases contains (t.drop 24) "SAE" <;> simp
  · simp [fieldNames] at hall
    simp [saySecurity, onSecurity, startsBlock, stripPrefix, hall]

theorem securitySaid_concat {ts : List (List Char)} {t : List Char} (h : onSecurity t = false) :
    securitySaid (ts ++ [t]) = securitySaid ts := by
  simp only [onSecurity, startsBlock, Bool.or_eq_false_iff] at h
  obtain ⟨⟨hcapability, hrsn, hwpa⟩, hsuites⟩ := h
  unfold securitySaid
  rw [List.rtakeWhile_concat]
  simp [startsBlock, opens, saysSae, saysEnterprise, stripPrefix, hcapability, hrsn, hwpa, hsuites]

/-- Lines that say nothing of it leave every flag off. -/
theorem securitySaid_of_none {ts : List (List Char)} (h : ts.any onSecurity = false) :
    securitySaid ts = {} := by
  induction ts using List.reverseRecOn with
  | nil => rfl
  | append_singleton ts t ih =>
    simp only [List.any_append, List.any_cons, List.any_nil, Bool.or_false,
      Bool.or_eq_false_iff] at h
    rw [securitySaid_concat h.2, ih h.1]

theorem foldl_saySecurity (ts : List (List Char)) :
    ts.foldl saySecurity none =
      if ts.any onSecurity then some (securitySaid ts) else none := by
  induction ts using List.reverseRecOn with
  | nil => rfl
  | append_singleton ts t ih =>
    have hbefore : (ts.foldl saySecurity none).getD {} = securitySaid ts := by
      rw [ih]
      cases hts : ts.any onSecurity with
      | true => rfl
      | false => exact (securitySaid_of_none hts).symm
    rw [List.foldl_concat, saySecurity_securitySaid ts t _ hbefore, ih]
    cases ht : onSecurity t with
    | true => simp [ht]
    | false => simp [ht, securitySaid_concat ht]

section
variable [Floats]

/-- A line gives at most the name, one fact on protection, that WPS is there, or a number. -/
theorem readField_eq (obs : WifiObservation) (t : List Char) :
    ∃ frequencyMhz rssiDbm lastSeenMs, readField obs t =
      { obs with
        ssid := (ssidSaid t).or obs.ssid
        wps := obs.wps || startsWith "WPS:" t
        security := saySecurity obs.security t
        frequencyMhz, rssiDbm, lastSeenMs } := by
  rcases field_of t with ⟨p, hp, hall⟩ | hall
  · simp only [fieldNames, List.mem_cons, List.not_mem_nil, or_false] at hp
    rcases hp with rfl | rfl | rfl | rfl | rfl | rfl | rfl | rfl | rfl
    all_goals
      simp [fieldNames] at hall
      simp [readField, ssidSaid, saySecurity, stripPrefix, hall]
    all_goals split <;> exact ⟨_, _, _, rfl⟩
  · simp [fieldNames] at hall
    simp [readField, ssidSaid, saySecurity, stripPrefix, hall]
    exact ⟨_, _, _, rfl⟩

omit [Floats] in
/-- The names a line begins with are gone through with the line fixed. -/
theorem foldl_notePrinted (t : List Char) (names : List (String × UInt8)) (obs : WifiObservation) :
    names.foldl (notePrinted t) obs =
      { obs with
        informationElements := ((names.filter fun named => startsWith named.1 t).map
          Prod.snd).foldl addElement obs.informationElements } := by
  induction names generalizing obs with
  | nil => rfl
  | cons named names ih =>
    rw [List.foldl_cons, ih, List.filter_cons]
    unfold notePrinted
    cases hs : startsWith named.1 t with
    | false => simp
    | true =>
      cases ha : obs.informationElements.any (·.id == named.2) <;> simp [addElement, ha]

/-- What the lines of a record make of an observation. -/
theorem foldl_readInto (body : List (List Char)) (obs : WifiObservation) :
    ∃ frequencyMhz rssiDbm lastSeenMs, body.foldl readInto obs =
      { obs with
        ssid := (body.filterMap ssidSaid).getLast?.or obs.ssid
        wps := obs.wps || body.any (startsWith "WPS:")
        security := body.foldl saySecurity obs.security
        informationElements := (body.flatMap namedBy).foldl addElement obs.informationElements
        frequencyMhz, rssiDbm, lastSeenMs } := by
  induction body generalizing obs with
  | nil =>
    refine ⟨obs.frequencyMhz, obs.rssiDbm, obs.lastSeenMs, ?_⟩
    simp
  | cons t body ih =>
    obtain ⟨f, r, l, ht⟩ := readField_eq obs t
    obtain ⟨f', r', l', hbody⟩ := ih (readInto obs t)
    refine ⟨f', r', l', ?_⟩
    rw [List.foldl_cons, hbody]
    have hlast : ((t :: body).filterMap ssidSaid).getLast?.or obs.ssid =
        (body.filterMap ssidSaid).getLast?.or ((ssidSaid t).or obs.ssid) := by
      rw [List.filterMap_cons]
      cases ssidSaid t with
      | none => rfl
      | some x =>
        rw [List.getLast?_cons]
        cases (body.filterMap ssidSaid).getLast? <;> rfl
    rw [hlast]
    simp [readInto, foldl_notePrinted, ht, namedBy, Bool.or_assoc]

/-! ## Records -/

/-- A line that starts a record and lines that do not are one record. -/
theorem foldl_readTrimmed {rest : List Char} {body : List (List Char)} (st : ScanState)
    (hbody : ∀ t ∈ body, startsWith "BSS " t = false) :
    (("BSS ".toList ++ rest) :: body).foldl readTrimmed st =
      { out := st.records, current := some (body.foldl readInto (startRecord rest)) } := by
  have hrun : ∀ (out : List WifiObservation) obs, body.foldl readTrimmed ⟨out, some obs⟩ =
      ⟨out, some (body.foldl readInto obs)⟩ := by
    intro out obs
    induction body generalizing obs with
    | nil => rfl
    | cons t body ih =>
      have ht := stripPrefix_eq_none.mpr (hbody t (List.mem_cons_self ..))
      rw [List.foldl_cons, List.foldl_cons, ← ih fun u hu => hbody u (List.mem_cons_of_mem _ hu)]
      simp [readTrimmed, ht]
  rw [List.foldl_cons, ← hrun]
  simp only [readTrimmed, stripPrefix_append]

/-- As many records are read as lines start one. -/
theorem length_records (ts : List (List Char)) (st : ScanState) :
    (ts.foldl readTrimmed st).records.length =
      st.records.length + ts.countP (startsWith "BSS ") := by
  induction ts generalizing st with
  | nil => rfl
  | cons t ts ih =>
    rw [List.foldl_cons, ih, List.countP_cons]
    unfold readTrimmed
    cases hs : startsWith "BSS " t with
    | true =>
      rw [stripPrefix, if_pos hs]
      simp [ScanState.records]
      omega
    | false =>
      rw [stripPrefix_eq_none.mpr hs]
      cases hc : st.current <;> simp [ScanState.records, hc]

/-! ## What a name can change -/

/-- A line makes of an observation with another name the same, but for the name. -/
theorem readInto_withSsid (obs : WifiObservation) (s : Option Ssid) (t : List Char) :
    readInto { obs with ssid := s } t = { readInto obs t with ssid := (ssidSaid t).or s } := by
  have hfield : readField { obs with ssid := s } t =
      { readField obs t with ssid := (ssidSaid t).or s } := by
    rcases field_of t with ⟨p, hp, hall⟩ | hall
    · simp only [fieldNames, List.mem_cons, List.not_mem_nil, or_false] at hp
      rcases hp with rfl | rfl | rfl | rfl | rfl | rfl | rfl | rfl | rfl
      all_goals
        simp [fieldNames] at hall
        simp [readField, ssidSaid, stripPrefix, hall]
      all_goals split <;> rfl
    · simp [fieldNames] at hall
      simp [readField, ssidSaid, stripPrefix, hall]
  simp only [readInto, foldl_notePrinted, hfield]

/-- A line that gives a name changes the name and adds one element. -/
theorem readInto_ssid {t : List Char} {s : Ssid} (ht : ssidSaid t = some s)
    (obs : WifiObservation) : readInto obs t =
      { obs with
        ssid := some s
        informationElements := addElement obs.informationElements 0 } := by
  have hstarts : startsWith "SSID:" t = true := by
    rw [← isSome_stripPrefix]
    cases hp : stripPrefix "SSID:" t with
    | none => rw [ssidSaid, hp] at ht; cases ht
    | some v => rfl
  have hfield : readField obs t = { obs with ssid := some s } := by
    have hother : ∀ q ∈ fieldNames, q ≠ "SSID:" → startsWith q t = false :=
      fun q hq hne => one_field (by decide) hq hne hstarts
    simp [fieldNames] at hother
    rw [ssidSaid] at ht
    cases hv : stripPrefix "SSID:" t with
    | none => rw [hv] at ht; cases ht
    | some v =>
      rw [hv] at ht
      cases ht
      simp [readField, stripPrefix, hother, hstarts] at hv ⊢
      rw [hv]
  have hnames : printedElementNames.filter (fun named => startsWith named.1 t) = [("SSID:", 0)] := by
    have hrest : ∀ named ∈ printedElementNames.tail, startsWith named.1 t = false := by
      have hall : ∀ named ∈ printedElementNames.tail,
          "SSID:".toList.isPrefixOf named.1.toList = false ∧
            named.1.toList.isPrefixOf "SSID:".toList = false := by
        decide
      exact fun named hmem => not_startsWith hstarts (hall named hmem).1 (hall named hmem).2
    have hcons : printedElementNames = ("SSID:", 0) :: printedElementNames.tail := rfl
    rw [hcons, List.filter_cons, if_pos hstarts, List.filter_eq_nil_iff.mpr fun named hmem =>
      Bool.eq_false_iff.mp (hrest named hmem)]
  rw [readInto, foldl_notePrinted, hfield, hnames]
  rfl

/-- Two lists of observations are the same but for the name in one of them. -/
def SameButName (l l' : List WifiObservation) : Prop :=
  l' = l ∨ ∃ front obs s back, l = front ++ obs :: back ∧
    l' = front ++ { obs with ssid := s } :: back

/-- Two runs are at the same line, and there is one name in which they differ. -/
def NameApart (st st' : ScanState) : Prop :=
  (∃ s, st'.out = st.out ∧ st'.current = st.current.map ({ · with ssid := s })) ∨
    (st'.current = st.current ∧ SameButName st.out st'.out)

omit [Floats] in
theorem SameButName.append {l l' : List WifiObservation} (h : SameButName l l')
    (m : List WifiObservation) : SameButName (l ++ m) (l' ++ m) := by
  rcases h with rfl | ⟨front, obs, s, back, rfl, rfl⟩
  · exact .inl rfl
  · exact .inr ⟨front, obs, s, back ++ m, by simp, by simp⟩

omit [Floats] in
theorem NameApart.records {st st' : ScanState} (h : NameApart st st') :
    SameButName st.records st'.records := by
  rcases h with ⟨s, hout, hcurrent⟩ | ⟨hcurrent, hout⟩
  · unfold ScanState.records
    rw [hout, hcurrent]
    cases st.current with
    | none => exact .inl rfl
    | some obs =>
      refine .inr ⟨st.out, finishSecurity obs, s, [], by simp, ?_⟩
      simp [finishSecurity_eq]
  · unfold ScanState.records
    rw [hcurrent]
    exact hout.append _

theorem NameApart.step {st st' : ScanState} (h : NameApart st st') (t : List Char) :
    NameApart (readTrimmed st t) (readTrimmed st' t) := by
  unfold readTrimmed
  cases hs : stripPrefix "BSS " t with
  | some rest => exact .inr ⟨rfl, h.records⟩
  | none =>
    rcases h with ⟨s, hout, hcurrent⟩ | ⟨hcurrent, hout⟩
    · cases hc : st.current with
      | none =>
        rw [hc] at hcurrent
        simp only [hcurrent, Option.map_none]
        exact .inl ⟨s, hout, by rw [hcurrent, hc]⟩
      | some obs =>
        rw [hc] at hcurrent
        simp only [hcurrent, Option.map_some]
        exact .inl ⟨_, hout, by rw [Option.map_some, readInto_withSsid]⟩
    · rw [hcurrent]
      cases st.current with
      | none => exact .inr ⟨hcurrent, hout⟩
      | some obs => exact .inr ⟨rfl, hout⟩

theorem NameApart.run {st st' : ScanState} (h : NameApart st st') (ts : List (List Char)) :
    NameApart (ts.foldl readTrimmed st) (ts.foldl readTrimmed st') := by
  induction ts generalizing st st' with
  | nil => exact h
  | cons t ts ih => exact ih (h.step t)

/-- Two lines that give names leave two runs apart in a name. -/
theorem NameApart.of_ssid {t t' : List Char} {s s' : Ssid} (ht : ssidSaid t = some s)
    (ht' : ssidSaid t' = some s') (st : ScanState) :
    NameApart (readTrimmed st t) (readTrimmed st t') := by
  have hno : ∀ {t s}, ssidSaid t = some s → stripPrefix "BSS " t = none := by
    intro t s ht
    rw [stripPrefix_eq_none]
    refine not_startsWith (p := "SSID:") ?_ (by decide) (by decide)
    rw [← isSome_stripPrefix]
    cases hp : stripPrefix "SSID:" t with
    | none => rw [ssidSaid, hp] at ht; cases ht
    | some v => rfl
  unfold readTrimmed
  rw [hno ht, hno ht']
  cases hc : st.current with
  | none => exact .inl ⟨none, rfl, by rw [hc]; rfl⟩
  | some obs =>
    exact .inl ⟨some s', rfl, by simp only [Option.map_some, readInto_ssid ht, readInto_ssid ht']⟩

end

end Scan

end Rayhunter
