import Mathlib.Data.List.Nodup
import Rayhunter.Radio.ReadBack
import Rayhunter.Radio.Signature

/-!
# What a rule can see of a scan

Of an access point a scan shows an address, a name and which elements it sends (`Showing`): every
observation read from a scan is one of these (`exists_showing`), and every one of these can be read
from a scan (`exists_scan`). So whether a rule can match is a matter of these three, and
`coverageTrue_iff` says of which rules `reachable_via_bss_scan` tells the truth.
-/

namespace Rayhunter

open Text Scan

/-! ## What is read from a scan -/

/-- The numbers of the elements the parser has names for. -/
def printedIds : List UInt8 := printedElementNames.map Prod.snd

/-- What holds of every observation the parser makes. The elements are those its lines named. -/
structure Scanned (obs : WifiObservation) : Prop where
  transmitter : obs.transmitter = obs.bssid
  receiver : obs.receiver = none
  addr3 : obs.addr3 = none
  frame : obs.frame = some .beaconOrProbeResponse
  ssid : ∀ s, obs.ssid = some s → ∃ bytes, s = Ssid.fromBytes bytes
  elements : ∃ ids : List UInt8, obs.informationElements = ids.foldl addElement [] ∧
    (∀ id ∈ ids, id ∈ printedIds) ∧ (0 ∈ ids ↔ obs.ssid.isSome = true)

theorem namedBy_subset (t : List Char) : ∀ id ∈ namedBy t, id ∈ printedIds := by
  intro id hid
  obtain ⟨named, hnamed, rfl⟩ := List.mem_map.mp hid
  exact List.mem_map_of_mem (List.mem_filter.mp hnamed).1

/-- The element of the name is named by the lines that give a name. -/
theorem zero_mem_namedBy (t : List Char) : 0 ∈ namedBy t ↔ (ssidSaid t).isSome = true := by
  have honly : ∀ named ∈ printedElementNames, named.2 = 0 → named.1 = "SSID:" := by decide
  rw [ssidSaid, Option.isSome_map, isSome_stripPrefix, namedBy, List.mem_map]
  constructor
  · rintro ⟨named, hnamed, hzero⟩
    obtain ⟨hmem, hstarts⟩ := List.mem_filter.mp hnamed
    rwa [← honly named hmem hzero]
  · intro h
    exact ⟨("SSID:", 0), List.mem_filter.mpr ⟨by decide, h⟩, rfl⟩

namespace Scanned

theorem of_startRecord (rest : List Char) : Scanned (startRecord rest) := by
  have hnone : (startRecord rest).ssid = none ∧ (startRecord rest).informationElements = [] := by
    unfold startRecord
    dsimp only
    split <;> exact ⟨rfl, rfl⟩
  refine ⟨?_, ?_, ?_, rfl, ?_, [], hnone.2, ?_, ?_⟩
  · unfold startRecord
    dsimp only
    split <;> rfl
  · unfold startRecord
    dsimp only
    split <;> rfl
  · unfold startRecord
    dsimp only
    split <;> rfl
  · intro s hs
    rw [hnone.1] at hs
    cases hs
  · intro id hid
    cases hid
  · rw [hnone.1]
    simp

theorem of_finishSecurity {obs : WifiObservation} (h : Scanned obs) :
    Scanned (finishSecurity obs) := by
  rw [finishSecurity_eq]
  exact ⟨h.transmitter, h.receiver, h.addr3, h.frame, h.ssid, h.elements⟩

section
variable [Floats]

theorem of_readInto {obs : WifiObservation} (h : Scanned obs) (t : List Char) :
    Scanned (readInto obs t) := by
  obtain ⟨f, r, l, hfield⟩ := readField_eq obs t
  obtain ⟨ids, hids, hprinted, hnamed⟩ := h.elements
  rw [readInto, foldl_notePrinted, hfield]
  refine ⟨h.transmitter, h.receiver, h.addr3, h.frame, ?_, ids ++ namedBy t, ?_, ?_, ?_⟩
  · intro s hs
    rcases Option.or_eq_some_iff.mp hs with hs | ⟨-, hs⟩
    · obtain ⟨v, -, rfl⟩ := Option.map_eq_some_iff.mp hs
      exact ⟨_, rfl⟩
    · exact h.ssid s hs
  · rw [List.foldl_append, ← hids]
    rfl
  · intro id hid
    rcases List.mem_append.mp hid with hid | hid
    · exact hprinted id hid
    · exact namedBy_subset t id hid
  · rw [List.mem_append, hnamed, zero_mem_namedBy, Option.isSome_or, Bool.or_eq_true, or_comm]

end

end Scanned

/-- Every observation so far is as the parser makes them. -/
def AllScanned (st : ScanState) : Prop :=
  (∀ obs ∈ st.out, Scanned obs) ∧ ∀ obs, st.current = some obs → Scanned obs

namespace AllScanned

theorem records {st : ScanState} (h : AllScanned st) : ∀ obs ∈ st.records, Scanned obs := by
  intro obs hobs
  rcases List.mem_append.mp hobs with hobs | hobs
  · exact h.1 obs hobs
  · obtain ⟨obs', hcurrent, rfl⟩ := Option.map_eq_some_iff.mp (Option.mem_toList.mp hobs)
    exact (h.2 obs' hcurrent).of_finishSecurity

section
variable [Floats]

theorem step {st : ScanState} (h : AllScanned st) (t : List Char) :
    AllScanned (readTrimmed st t) := by
  unfold readTrimmed
  cases stripPrefix "BSS " t with
  | some rest =>
    refine ⟨h.records, ?_⟩
    rintro obs ⟨⟩
    exact .of_startRecord rest
  | none =>
    cases hcurrent : st.current with
    | none => exact h
    | some obs =>
      refine ⟨h.1, ?_⟩
      rintro obs' ⟨⟩
      exact (h.2 obs hcurrent).of_readInto t

theorem run {st : ScanState} (h : AllScanned st) (ts : List (List Char)) :
    AllScanned (ts.foldl readTrimmed st) := by
  induction ts generalizing st with
  | nil => exact h
  | cons t ts ih => exact ih (h.step t)

end

end AllScanned

section
variable [Floats]

theorem Scanned.of_parseIwScan {output : String} {obs : WifiObservation}
    (h : obs ∈ parseIwScan output) : Scanned obs := by
  rw [parseIwScan_eq] at h
  have hstart : AllScanned {} := by
    constructor
    · intro obs hobs
      cases hobs
    · intro obs hobs
      cases hobs
  exact (hstart.run (trimmed output)).records obs h

end

/-! ## What can be seen of an access point -/

/-- What a scan shows of an access point, as far as rules can be about it. -/
structure Showing where
  mac : MacAddr
  name : Option Iw.Name
  /-- The numbers of its elements, in the order they were found in. -/
  ids : List UInt8
  nodup : ids.Nodup
  printed : ∀ id ∈ ids, id ∈ printedIds
  named : 0 ∈ ids ↔ name.isSome = true

namespace Showing

def ssid (sh : Showing) : Option Ssid := sh.name.map fun name => Ssid.fromBytes name.1

/-- The observation shows this; its address may have been unreadable. -/
structure Fits (sh : Showing) (obs : WifiObservation) : Prop where
  bssid : ∀ mac, obs.bssid = some mac → mac = sh.mac
  transmitter : obs.transmitter = obs.bssid
  receiver : obs.receiver = none
  addr3 : obs.addr3 = none
  frame : obs.frame = some .beaconOrProbeResponse
  ssid : obs.ssid = sh.ssid
  elements : obs.informationElements = sh.ids.map (InformationElement.new · [])

end Showing

theorem nodup_eraseDups (ids : List UInt8) : ids.eraseDups.Nodup := by
  induction ids using List.reverseRecOn with
  | nil => exact .nil
  | append_singleton ids id ih =>
    rw [List.eraseDups_append, List.nodup_append]
    refine ⟨ih, ?_, ?_⟩
    · by_cases hid : id ∈ ids <;> simp [List.removeAll, hid, List.eraseDups_cons]
    · rintro a ha _ hb rfl
      by_cases hid : id ∈ ids <;> simp [List.removeAll, hid, List.eraseDups_cons] at hb
      rw [List.mem_eraseDups, hb] at ha
      exact hid ha

theorem eraseDups_of_nodup {ids : List UInt8} (h : ids.Nodup) : ids.eraseDups = ids := by
  induction ids using List.reverseRecOn with
  | nil => rfl
  | append_singleton ids id ih =>
    obtain ⟨hids, -, hdisjoint⟩ := List.nodup_append.mp h
    have hid : id ∉ ids := fun hmem => hdisjoint id hmem id (List.mem_singleton_self _) rfl
    rw [List.eraseDups_append, ih hids]
    simp [List.removeAll, hid, List.eraseDups_cons]

/-- What is read from a scan shows an access point. -/
theorem exists_showing {obs : WifiObservation} (h : Scanned obs) :
    ∃ sh : Showing, sh.Fits obs := by
  obtain ⟨ids, hids, hprinted, hnamed⟩ := h.elements
  have hssid : ∃ name : Option Iw.Name, obs.ssid = name.map fun name => Ssid.fromBytes name.1 := by
    cases hs : obs.ssid with
    | none => exact ⟨none, rfl⟩
    | some s =>
      obtain ⟨bytes, rfl⟩ := h.ssid s hs
      exact ⟨some ⟨bytes.take Ssid.maxLen, List.length_take_le ..⟩,
        congrArg some (Ssid.fromBytes_take bytes).symm⟩
  obtain ⟨name, hname⟩ := hssid
  refine ⟨⟨obs.bssid.getD ⟨Vector.replicate 6 0⟩, name, ids.eraseDups, nodup_eraseDups ids, ?_, ?_⟩,
    ?_, h.transmitter, h.receiver, h.addr3, h.frame, hname, ?_⟩
  · exact fun id hid => hprinted id (List.mem_eraseDups.mp hid)
  · rw [List.mem_eraseDups, hnamed, hname, Option.isSome_map]
  · intro mac hmac
    simp [hmac]
  · rw [hids, foldl_addElement]

/-! ## Every showing is seen -/

namespace Iw

/-- The element with a number, as `iw` names it. -/
def headOf (id : UInt8) : Head :=
  if id = 48 then .rsn
  else
    [Numbered.supportedRates, .dsParameterSet, .tim, .country, .erp, .extendedSupportedRates,
      .htCapabilities, .htOperation, .extendedCapabilities, .vhtCapabilities,
      .vhtOperation].find? (·.id == id) |>.elim .wps .numbered

theorem id?_headOf {id : UInt8} (h : id ∈ printedIds) (hne : id ≠ 0) : (headOf id).id? = some id := by
  have hall : printedIds.all (fun id => id = 0 ∨ (headOf id).id? = some id) = true := by decide
  exact (of_decide_eq_true (List.all_eq_true.mp hall id h)).resolve_left hne

/-- An element of which only its name is printed. -/
def bare (id : UInt8) : Element := ⟨headOf id, ⟨[], by decide⟩, []⟩

theorem namedBy_bare {ids : List UInt8} (h : ∀ id ∈ ids, id ∈ printedIds ∧ id ≠ 0) :
    (((ids.map bare).flatMap Element.lines).map trimChars).flatMap namedBy = ids := by
  induction ids with
  | nil => rfl
  | cons id ids ih =>
    obtain ⟨hid, hids⟩ := List.forall_mem_cons.mp h
    have hline : namedBy (trimChars (nameLine (headOf id).name [])) = [id] := by
      rw [trimChars_nameLine (headOf id).isName, AccessPoint.namedBy_name (headOf id).isName,
        AccessPoint.nameIds_head, id?_headOf hid.1 hid.2]
      rfl
    have hlines : (bare id).lines = [nameLine (headOf id).name []] := rfl
    rw [List.map_cons, List.flatMap_cons, hlines, List.singleton_append, List.map_cons,
      List.flatMap_cons, hline, ih hids]
    rfl

/-- An access point with an address, elements, and perhaps a name among them. -/
def plain (mac : MacAddr) (before : List UInt8) (name : Option Name) (after : List UInt8) :
    AccessPoint where
  bssid := mac
  iface := none
  status := none
  attributes := []
  capability := none
  moreAttributes := []
  before := before.map bare
  ssid := name
  after := after.map bare

section
variable {mac : MacAddr} {before after : List UInt8} {name : Option Name}

theorem seenBelow_bare (ids : List UInt8) : (ids.map bare).flatMap Element.seenBelow = [] := by
  rw [List.flatMap_map]
  exact List.flatMap_eq_nil_iff.mpr fun _ _ => rfl

theorem seenBelow_plain : (plain mac before name after).seenBelow = [] := by
  rw [AccessPoint.seenBelow, AccessPoint.elements, List.flatMap_append]
  simp only [plain, seenBelow_bare, List.append_nil]

theorem oneRecord_plain : (plain mac before name after).OneRecord := by
  have hhead : ∀ id, startsWith "BSS " (headOf id).name.toList = false := by
    intro id
    unfold headOf
    split
    · decide
    · cases List.find? _ _ with
      | none => decide
      | some n => cases n <;> decide
  refine ⟨?_, by rw [seenBelow_plain]; rfl⟩
  rw [List.any_eq_false]
  intro e he
  have hbare : ∃ id, bare id = e := by
    rcases List.mem_append.mp he with he | he
    · obtain ⟨id, -, hid⟩ := List.mem_map.mp he
      exact ⟨id, hid⟩
    · obtain ⟨id, -, hid⟩ := List.mem_map.mp he
      exact ⟨id, hid⟩
  obtain ⟨id, rfl⟩ := hbare
  exact Bool.eq_false_iff.mp (hhead id)

theorem namedBy_plain (hbefore : ∀ id ∈ before, id ∈ printedIds ∧ id ≠ 0)
    (hafter : ∀ id ∈ after, id ∈ printedIds ∧ id ≠ 0) :
    (plain mac before name after).seen.flatMap namedBy =
      before ++ (name.map fun _ => 0).toList ++ after := by
  have hname : ((name.map AccessPoint.ssidLine).toList.map trimChars).flatMap namedBy =
      (name.map fun _ => 0).toList := by
    cases name with
    | none => rfl
    | some n =>
      have hids : AccessPoint.nameIds "SSID" = [0] := by decide
      change namedBy (trimChars (nameLine "SSID" (' ' :: escape n.1))) ++ [] = [0]
      rw [trimChars_nameLine isName_ssid, AccessPoint.namedBy_name isName_ssid, hids]
      rfl
  have hseen : (plain mac before name after).seen =
      ((before.map bare).flatMap Element.lines).map trimChars ++
        (name.map AccessPoint.ssidLine).toList.map trimChars ++
        ((after.map bare).flatMap Element.lines).map trimChars := by
    simp [AccessPoint.seen, AccessPoint.body, AccessPoint.linesBefore, plain,
      AccessPoint.attributeLines]
  rw [hseen, List.flatMap_append, List.flatMap_append, namedBy_bare hbefore, namedBy_bare hafter,
    hname]

theorem ssidBelow_plain : (plain mac before name after).ssidBelow = none := by
  have hafter : (plain mac before name after).after.flatMap Element.seenBelow = [] :=
    seenBelow_bare after
  unfold AccessPoint.ssidBelow
  split
  · rw [seenBelow_plain]
    rfl
  · rw [hafter]
    rfl

end

end Iw

/-- The elements before and after the name. -/
theorem Showing.split (sh : Showing) : ∃ before after,
    sh.ids = before ++ (sh.name.map fun _ => 0).toList ++ after ∧
      (∀ id ∈ before, id ∈ printedIds ∧ id ≠ 0) ∧ ∀ id ∈ after, id ∈ printedIds ∧ id ≠ 0 := by
  obtain ⟨mac, name, ids, hnodup, hprinted, hnamed⟩ := sh
  cases name with
  | none =>
    refine ⟨ids, [], by simp, fun id hid => ⟨hprinted id hid, ?_⟩, fun id hid => by cases hid⟩
    rintro rfl
    have hsome := hnamed.mp hid
    cases hsome
  | some name =>
    obtain ⟨before, after, rfl⟩ := List.append_of_mem (hnamed.mpr rfl)
    have hzero : 0 ∉ before ++ after := (List.nodup_middle.mp hnodup).notMem
    refine ⟨before, after, by simp, fun id hid => ⟨hprinted id ?_, ?_⟩,
      fun id hid => ⟨hprinted id ?_, ?_⟩⟩
    · exact List.mem_append_left _ hid
    · rintro rfl
      exact hzero (List.mem_append_left _ hid)
    · exact List.mem_append_right _ (List.mem_cons_of_mem _ hid)
    · rintro rfl
      exact hzero (List.mem_append_right _ hid)

theorem Scanned.elements_eq {obs : WifiObservation} (h : Scanned obs) : obs.informationElements =
    (obs.informationElements.map (·.id)).map (InformationElement.new · []) := by
  obtain ⟨ids, hids, -⟩ := h.elements
  rw [hids, foldl_addElement, List.map_map, List.map_map]
  rfl

/-- Every showing can be read from a scan, with its address. -/
theorem exists_scan [Floats] (sh : Showing) :
    ∃ output, ∃ obs ∈ parseIwScan output, sh.Fits obs ∧ obs.bssid = some sh.mac := by
  obtain ⟨before, after, hids, hbefore, hafter⟩ := sh.split
  let ap := Iw.plain sh.mac before sh.name after
  have hread : parseIwScan (Iw.print [ap]) = [ap.record] :=
    Iw.parseIwScan_of_oneRecord (List.forall_mem_singleton.mpr Iw.oneRecord_plain)
  have hmem : ap.record ∈ parseIwScan (Iw.print [ap]) := hread ▸ List.mem_singleton_self _
  obtain ⟨hbssid, hssid, helements, -⟩ := ap.record_fields
  have hscanned := Scanned.of_parseIwScan hmem
  refine ⟨_, _, hmem, ⟨?_, hscanned.transmitter, hscanned.receiver, hscanned.addr3,
    hscanned.frame, ?_, ?_⟩, hbssid⟩
  · intro mac hmac
    rw [hbssid] at hmac
    cases hmac
    rfl
  · rw [hssid, Iw.ssidBelow_plain]
    rfl
  · rw [hscanned.elements_eq, helements, Iw.namedBy_plain hbefore hafter, ← hids,
      eraseDups_of_nodup sh.nodup]

/-! ## What a condition asks for -/

/-- The address a field is about is one a scan has. -/
def MacField.inScan : MacField → Bool
  | any | bssid | transmitter => true
  | receiver | addr3 => false

/-- What is shown meets the condition. -/
def MatchCondition.Meets (sh : Showing) : MatchCondition → Prop
  | macExact field mac => field.inScan = true ∧ sh.mac = mac
  | macPrefix field pre allow => field.inScan = true ∧ pre.hits allow sh.mac = true
  | ssidExact ssid => ∃ s, sh.ssid = some s ∧ s.display = ssid
  | ssidContains substring => ∃ s, sh.ssid = some s ∧ substring.toList <:+: s.display.toList
  | ssidGlob pattern => ∃ s, sh.ssid = some s ∧ globMatch pattern s.display = true
  | ssidWildcard => sh.ssid = some .wildcard
  | frameType frame => frame = .beaconOrProbeResponse
  | informationElement id pre => id ∈ sh.ids ∧ pre.getD [] = []
  | ieIdSequence ids => sh.ids = ids
  | vendorOui _ | bleCompanyId _ | bleServiceUuid _ | bleNameContains _ => False

namespace Showing

variable {sh : Showing} {obs : WifiObservation}

theorem Fits.addresses (h : sh.Fits obs) (field : MacField) :
    ∀ a ∈ addressesFor field obs, field.inScan = true ∧ a = sh.mac := by
  obtain ⟨hbssid, htransmitter, hreceiver, haddr3, -⟩ := h
  intro a ha
  cases field with
  | any =>
    simp only [addressesFor, htransmitter, hreceiver, haddr3, List.mem_filterMap, List.mem_cons,
      List.not_mem_nil, or_false] at ha
    obtain ⟨o, rfl | rfl | rfl | rfl, ho⟩ := ha
    · exact ⟨rfl, hbssid a ho⟩
    · exact ⟨rfl, hbssid a ho⟩
    · cases ho
    · cases ho
  | bssid => exact ⟨rfl, hbssid a (Option.mem_toList.mp ha)⟩
  | transmitter => exact ⟨rfl, hbssid a (htransmitter ▸ Option.mem_toList.mp ha)⟩
  | receiver =>
    rw [addressesFor, hreceiver] at ha
    cases ha
  | addr3 =>
    rw [addressesFor, haddr3] at ha
    cases ha

theorem Fits.mem_addresses (h : sh.Fits obs) (hmac : obs.bssid = some sh.mac) {field : MacField}
    (hfield : field.inScan = true) : sh.mac ∈ addressesFor field obs := by
  cases field with
  | any => simp [addressesFor, h.transmitter, hmac]
  | bssid => simp [addressesFor, hmac]
  | transmitter => simp [addressesFor, h.transmitter, hmac]
  | receiver => cases hfield
  | addr3 => cases hfield

theorem Fits.ids (h : sh.Fits obs) : obs.informationElements.map (·.id) = sh.ids := by
  rw [h.elements, List.map_map]
  exact List.map_id _

theorem Fits.meets (h : sh.Fits obs) {c : MatchCondition} (hc : c.MetBy obs) : c.Meets sh := by
  cases c with
  | macExact field mac =>
    obtain ⟨hfield, hmac⟩ := h.addresses field mac hc
    exact ⟨hfield, hmac.symm⟩
  | macPrefix field pre allow =>
    obtain ⟨a, ha, hhits⟩ := hc
    obtain ⟨hfield, rfl⟩ := h.addresses field a ha
    exact ⟨hfield, hhits⟩
  | ssidExact ssid =>
    rw [MatchCondition.MetBy, h.ssid] at hc
    exact hc
  | ssidContains substring =>
    rw [MatchCondition.MetBy, h.ssid] at hc
    exact hc
  | ssidGlob pattern =>
    rw [MatchCondition.MetBy, h.ssid] at hc
    exact hc
  | ssidWildcard =>
    rw [MatchCondition.MetBy, h.ssid] at hc
    exact hc
  | frameType frame => exact Option.some.inj (hc.symm.trans h.frame)
  | informationElement id pre =>
    obtain ⟨e, hfind, hdata⟩ := hc
    have he := List.mem_of_find?_eq_some hfind
    have hid : e.id = id := by simpa using List.find?_some hfind
    rw [h.elements] at he
    obtain ⟨id', hid', rfl⟩ := List.mem_map.mp he
    exact ⟨hid ▸ hid', List.prefix_nil.mp hdata⟩
  | vendorOui oui =>
    obtain ⟨e, he, a, b, c, hvendor, -⟩ := hc
    rw [h.elements] at he
    obtain ⟨id, -, rfl⟩ := List.mem_map.mp he
    unfold InformationElement.vendorOui at hvendor
    split at hvendor <;> cases hvendor
  | ieIdSequence ids => exact h.ids.symm.trans hc
  | bleCompanyId id => exact hc
  | bleServiceUuid uuid => exact hc
  | bleNameContains substring => exact hc

theorem Fits.metBy (h : sh.Fits obs) (hmac : obs.bssid = some sh.mac) {c : MatchCondition}
    (hc : c.Meets sh) : c.MetBy obs := by
  cases c with
  | macExact field mac =>
    obtain ⟨hfield, rfl⟩ := hc
    exact h.mem_addresses hmac hfield
  | macPrefix field pre allow => exact ⟨sh.mac, h.mem_addresses hmac hc.1, hc.2⟩
  | ssidExact ssid =>
    rw [MatchCondition.MetBy, h.ssid]
    exact hc
  | ssidContains substring =>
    rw [MatchCondition.MetBy, h.ssid]
    exact hc
  | ssidGlob pattern =>
    rw [MatchCondition.MetBy, h.ssid]
    exact hc
  | ssidWildcard =>
    rw [MatchCondition.MetBy, h.ssid]
    exact hc
  | frameType frame =>
    rw [hc]
    exact h.frame
  | informationElement id pre =>
    obtain ⟨hid, hpre⟩ := hc
    have hfind : (obs.informationElements.find? (·.id == id)).isSome = true := by
      rw [List.find?_isSome, h.elements]
      exact ⟨InformationElement.new id [], List.mem_map_of_mem hid, beq_self_eq_true id⟩
    obtain ⟨e, he⟩ := Option.isSome_iff_exists.mp hfind
    exact ⟨e, he, by rw [hpre]; exact List.nil_prefix⟩
  | ieIdSequence ids => exact h.ids.trans hc
  | vendorOui oui => cases hc
  | bleCompanyId id => cases hc
  | bleServiceUuid uuid => cases hc
  | bleNameContains substring => cases hc

end Showing

/-! ## What can be asked for -/

/-- The text is how some name is displayed: it has none of what displaying takes out, and what it
takes to be read fits in a name. -/
def IsShown (cs : List Char) : Prop :=
  Utf8.costs cs ≤ Ssid.maxLen ∧ ∀ c ∈ cs, isControl c = false

/-- What displaying puts for a character. -/
theorem cost_shown (c : Char) :
    Utf8.cost (if isControl c then Utf8.replacement else c) ≤ Utf8.cost c ∧
      isControl (if isControl c then Utf8.replacement else c) = false := by
  cases hc : isControl c with
  | true =>
    have hreplacement : isControl Utf8.replacement = false := by decide
    exact ⟨Utf8.one_le_cost c, hreplacement⟩
  | false => exact ⟨Nat.le_refl _, hc⟩

theorem isShown_display (bytes : List UInt8) :
    IsShown (Ssid.fromBytes bytes).display.toList := by
  unfold Ssid.fromBytes
  split
  · exact ⟨Nat.zero_le _, fun c hc => by cases hc⟩
  · rw [Ssid.display, String.toList_ofList]
    have hcosts : ∀ cs : List Char,
        Utf8.costs (cs.map fun c => if isControl c then Utf8.replacement else c) ≤
          Utf8.costs cs := by
      intro cs
      induction cs with
      | nil => exact Nat.le_refl _
      | cons c cs ih =>
        rw [List.map_cons, Utf8.costs_cons, Utf8.costs_cons]
        exact Nat.add_le_add (cost_shown c).1 ih
    constructor
    · calc _ ≤ Utf8.costs (Utf8.lossy (bytes.take Ssid.maxLen)) := hcosts _
        _ ≤ (bytes.take Ssid.maxLen).length := Utf8.costs_lossy_le _
        _ ≤ Ssid.maxLen := List.length_take_le ..
    · intro c hc
      obtain ⟨d, -, rfl⟩ := List.mem_map.mp hc
      exact (cost_shown d).2

namespace IsShown

theorem exists_name {cs : List Char} (h : IsShown cs) :
    ∃ name : Iw.Name, (Ssid.fromBytes name.1).display = String.ofList cs := by
  have hlength : (Utf8.encode cs).length ≤ Ssid.maxLen := Utf8.length_encode cs ▸ h.1
  refine ⟨⟨Utf8.encode cs, hlength⟩, ?_⟩
  have hread := Utf8.lossy_encode cs
  unfold Ssid.fromBytes
  split
  · next hnil =>
    change Utf8.encode cs = [] at hnil
    rw [hnil] at hread
    rw [← hread]
    rfl
  · rw [List.take_of_length_le hlength, Ssid.display, hread]
    congr 1
    refine (List.map_congr_left fun c hc => ?_).trans (List.map_id _)
    rw [h.2 c hc]
    rfl

theorem of_part {cs ds : List Char} (h : IsShown ds) (hcs : cs <:+: ds) : IsShown cs := by
  obtain ⟨a, b, rfl⟩ := hcs
  refine ⟨?_, fun c hc => h.2 c (by simp [hc])⟩
  have hcosts := h.1
  rw [Utf8.costs_append, Utf8.costs_append] at hcosts
  omega

/-- The least text of a pattern needs no more than any text that matches. -/
theorem least {p cs : List Char} (h : IsShown cs) (hmatch : GlobMatch p cs) :
    IsShown (least p) := by
  have hle : Utf8.costs (Rayhunter.least p) ≤ Utf8.costs cs ∧
      ∀ c ∈ Rayhunter.least p, isControl c = false := by
    have hcontrol := h.2
    clear h
    induction hmatch with
    | nil => exact ⟨Nat.le_refl _, fun c hc => by cases hc⟩
    | run t _ ih =>
      obtain ⟨hcosts, hnone⟩ := ih fun c hc => hcontrol c (List.mem_append_right _ hc)
      rw [least_cons, if_pos rfl, Utf8.costs_append]
      exact ⟨by omega, hnone⟩
    | one d _ ih =>
      obtain ⟨hcosts, hnone⟩ := ih fun c hc => hcontrol c (List.mem_cons_of_mem _ hc)
      have hd := Utf8.one_le_cost d
      have ha : Utf8.cost 'a' = 1 := by decide
      rw [least_cons, if_neg (by decide), if_pos rfl, Utf8.costs_cons, Utf8.costs_cons, ha]
      exact ⟨by omega, List.forall_mem_cons.mpr ⟨by decide, hnone⟩⟩
    | same d hd _ ih =>
      obtain ⟨hcosts, hnone⟩ := ih fun c hc => hcontrol c (List.mem_cons_of_mem _ hc)
      rw [least_cons, if_neg hd.1, if_neg hd.2, Utf8.costs_cons, Utf8.costs_cons]
      exact ⟨Nat.add_le_add_left hcosts _,
        List.forall_mem_cons.mpr ⟨hcontrol d (List.mem_cons_self ..), hnone⟩⟩
  exact ⟨Nat.le_trans hle.1 h.1, hle.2⟩

end IsShown

/-- Something can be shown that meets the condition. -/
def MatchCondition.Meetable : MatchCondition → Prop
  | macExact field _ => field.inScan = true
  | macPrefix field pre allow => field.inScan = true ∧ pre.hits allow ⟨pre.octets⟩ = true
  | ssidExact ssid => IsShown ssid.toList
  | ssidContains substring => IsShown substring.toList
  | ssidGlob pattern => IsShown (least pattern.toList)
  | ssidWildcard => True
  | frameType frame => frame = .beaconOrProbeResponse
  | informationElement id pre => id ∈ printedIds ∧ pre.getD [] = []
  | ieIdSequence ids => ids.Nodup ∧ ∀ id ∈ ids, id ∈ printedIds
  | vendorOui _ | bleCompanyId _ | bleServiceUuid _ | bleNameContains _ => False

namespace Showing

/-- The parser names the element of the network's name. -/
theorem name_printed : ∀ id ∈ [0], id ∈ printedIds :=
  List.forall_mem_singleton.mpr (by decide)

/-- An access point with a name and nothing else. -/
def called (mac : MacAddr) (name : Iw.Name) : Showing where
  mac := mac
  name := some name
  ids := [0]
  nodup := List.nodup_singleton 0
  printed := name_printed
  named := by simp

/-- An access point with elements and an empty name if one of them is that of the name. -/
def sending (ids : List UInt8) (nodup : ids.Nodup) (printed : ∀ id ∈ ids, id ∈ printedIds) :
    Showing where
  mac := ⟨Vector.replicate 6 0⟩
  name := if 0 ∈ ids then some ⟨[], Nat.zero_le _⟩ else none
  ids := ids
  nodup := nodup
  printed := printed
  named := by split <;> simp [*]

end Showing

/-- A prefix begins itself. -/
theorem MacPrefix.hits_of_hits {p : MacPrefix} {allow : Bool} {a : MacAddr}
    (h : p.hits allow a = true) : p.hits allow ⟨p.octets⟩ = true := by
  rw [hits, Bool.and_eq_true] at h ⊢
  obtain ⟨hflags, hmatches⟩ := h
  have hfirst : (MacAddr.mk p.octets).first = a.first := by
    have hwhole : 0 < p.nibbles / 2 := Nat.div_pos p.min_le (by decide)
    have htake := congrArg (·[0]?) (of_decide_eq_true hmatches).1
    rw [List.getElem?_take_of_lt hwhole, List.getElem?_take_of_lt hwhole] at htake
    simpa [MacAddr.first] using htake
  refine ⟨?_, decide_eq_true ⟨rfl, fun _ => rfl⟩⟩
  rwa [MacAddr.isMulticast, MacAddr.isLocallyAdministered, hfirst]

theorem meetable_iff (c : MatchCondition) : c.Meetable ↔ ∃ sh, c.Meets sh := by
  have hshown : ∀ {sh : Showing} {s}, sh.ssid = some s → IsShown s.display.toList := by
    intro sh s hs
    obtain ⟨name, -, rfl⟩ := Option.map_eq_some_iff.mp hs
    exact isShown_display name.1
  have hcalled : ∀ {cs}, IsShown cs → ∃ (sh : Showing) (s : Ssid),
      sh.ssid = some s ∧ s.display = String.ofList cs := by
    intro cs h
    obtain ⟨name, hname⟩ := h.exists_name
    exact ⟨.called ⟨Vector.replicate 6 0⟩ name, _, rfl, hname⟩
  let quiet : Showing := .sending [] .nil fun id hid => by cases hid
  cases c with
  | macExact field mac =>
    exact ⟨fun h => ⟨{ quiet with mac := mac }, h, rfl⟩, fun ⟨sh, h, _⟩ => h⟩
  | macPrefix field pre allow =>
    exact ⟨fun h => ⟨{ quiet with mac := ⟨pre.octets⟩ }, h⟩,
      fun ⟨sh, hfield, hhits⟩ => ⟨hfield, MacPrefix.hits_of_hits hhits⟩⟩
  | ssidExact ssid =>
    constructor
    · intro h
      obtain ⟨sh, s, hs, hdisplay⟩ := hcalled h
      exact ⟨sh, s, hs, by rw [hdisplay, String.ofList_toList]⟩
    · rintro ⟨sh, s, hs, rfl⟩
      exact hshown hs
  | ssidContains substring =>
    constructor
    · intro h
      obtain ⟨sh, s, hs, hdisplay⟩ := hcalled h
      exact ⟨sh, s, hs, hdisplay ▸ (String.ofList_toList (s := substring)).symm ▸ List.infix_refl _⟩
    · rintro ⟨sh, s, hs, hsubstring⟩
      exact (hshown hs).of_part hsubstring
  | ssidGlob pattern =>
    constructor
    · intro h
      obtain ⟨sh, s, hs, hdisplay⟩ := hcalled h
      exact ⟨sh, s, hs, by rw [hdisplay]; exact globMatch_least pattern⟩
    · rintro ⟨sh, s, hs, hmatch⟩
      exact (hshown hs).least (globMatch_sound hmatch)
  | ssidWildcard =>
    exact ⟨fun _ => ⟨.sending [0] (List.nodup_singleton 0) Showing.name_printed, rfl⟩, fun _ => trivial⟩
  | frameType frame => exact ⟨fun h => ⟨quiet, h⟩, fun ⟨_, h⟩ => h⟩
  | informationElement id pre =>
    constructor
    · rintro ⟨hid, hpre⟩
      exact ⟨.sending [id] (List.nodup_singleton id) (List.forall_mem_singleton.mpr hid),
        List.mem_singleton_self id, hpre⟩
    · rintro ⟨sh, hid, hpre⟩
      exact ⟨sh.printed id hid, hpre⟩
  | ieIdSequence ids =>
    constructor
    · rintro ⟨hnodup, hprinted⟩
      exact ⟨.sending ids hnodup hprinted, rfl⟩
    · rintro ⟨sh, rfl⟩
      exact ⟨sh.nodup, sh.printed⟩
  | vendorOui oui => exact ⟨False.elim, fun ⟨_, h⟩ => h⟩
  | bleCompanyId id => exact ⟨False.elim, fun ⟨_, h⟩ => h⟩
  | bleServiceUuid uuid => exact ⟨False.elim, fun ⟨_, h⟩ => h⟩
  | bleNameContains substring => exact ⟨False.elim, fun ⟨_, h⟩ => h⟩

/-! ## What a rule is said to cover -/

/-- The condition asks for what no scan shows: other frames, the payload of an element, BLE. -/
def MatchCondition.beyondScan : MatchCondition → Bool
  | frameType frame => frame = .probeRequest ∨ frame = .data ∨ frame = .other
  | informationElement _ pre => pre.getD [] ≠ []
  | vendorOui _ | bleCompanyId _ | bleServiceUuid _ | bleNameContains _ => true
  | _ => false

/-- The condition is about which elements there are in which order, or about the payload of one and
asks nothing of it. -/
def MatchCondition.readsElements : MatchCondition → Bool
  | ieIdSequence _ => true
  | informationElement _ pre => pre = some []
  | _ => false

/-- These are the conditions no scan is said to meet. -/
theorem unreachable_eq (c : MatchCondition) : c.unreachable = (c.beyondScan || c.readsElements) := by
  cases c with
  | frameType frame => cases frame <;> rfl
  | informationElement id pre =>
    cases pre with
    | none => rfl
    | some bytes => cases bytes <;> rfl
  | _ => rfl

theorem reachableViaBssScan_eq_false {sig : Signature} : sig.reachableViaBssScan = false ↔
    sig.conditions.any MatchCondition.beyondScan = true ∨
      sig.conditions.any MatchCondition.readsElements = true := by
  have hany : sig.conditions.any MatchCondition.unreachable =
      (sig.conditions.any MatchCondition.beyondScan ||
        sig.conditions.any MatchCondition.readsElements) := by
    induction sig.conditions with
    | nil => rfl
    | cons c conditions ih =>
      rw [List.any_cons, ih, unreachable_eq, List.any_cons, List.any_cons]
      ac_rfl
  rw [Signature.reachableViaBssScan, hany, Bool.not_eq_false', Bool.or_eq_true]

/-- A condition that is beyond a scan is met by nothing shown. -/
theorem MatchCondition.not_meets_of_beyondScan {c : MatchCondition} (h : c.beyondScan = true)
    (sh : Showing) : ¬ c.Meets sh := by
  intro hc
  cases c with
  | frameType frame =>
    rw [Meets] at hc
    rw [hc] at h
    cases h
  | informationElement id pre => exact of_decide_eq_true h hc.2
  | vendorOui oui => exact hc
  | bleCompanyId id => exact hc
  | bleServiceUuid uuid => exact hc
  | bleNameContains substring => exact hc
  | _ => cases h

section
variable [Floats] [DebugStr]

/-- A rule that is said to be out of a scan's reach matches nothing in any, and of a rule that is
said to be in reach, every condition is met by something in one. -/
def CoverageTrue (sig : Signature) : Prop :=
  (sig.reachableViaBssScan = false →
    ∀ output, ∀ obs ∈ parseIwScan output, sig.detect (.wifi obs) = none) ∧
  (sig.reachableViaBssScan = true →
    ∀ c ∈ sig.conditions, ∃ output, ∃ obs ∈ parseIwScan output, (matchWifi c obs).isSome = true)

/-- Something in a scan meets the condition just if something shown does. -/
theorem exists_met_iff {c : MatchCondition} :
    (∃ output, ∃ obs ∈ parseIwScan output, (matchWifi c obs).isSome = true) ↔ c.Meetable := by
  rw [meetable_iff]
  constructor
  · rintro ⟨output, obs, hobs, hc⟩
    obtain ⟨sh, hfits⟩ := exists_showing (Scanned.of_parseIwScan hobs)
    exact ⟨sh, hfits.meets (isSome_matchWifi.mp hc)⟩
  · rintro ⟨sh, hc⟩
    obtain ⟨output, obs, hobs, hfits, hmac⟩ := exists_scan sh
    exact ⟨output, obs, hobs, isSome_matchWifi.mpr (hfits.metBy hmac hc)⟩

/-- A signature for Wi-Fi matches something in a scan just if something shown meets all of it. -/
theorem exists_detect_iff {sig : Signature} (h : sig.technology = .wifi) :
    (∃ output, ∃ obs ∈ parseIwScan output, (sig.detect (.wifi obs)).isSome = true) ↔
      ∃ sh, ∀ c ∈ sig.conditions, c.Meets sh := by
  constructor
  · rintro ⟨output, obs, hobs, hdetect⟩
    obtain ⟨sh, hfits⟩ := exists_showing (Scanned.of_parseIwScan hobs)
    have hall := (Signature.isSome_detect h obs).mp hdetect
    exact ⟨sh, fun c hc => hfits.meets (isSome_matchWifi.mp (hall c hc))⟩
  · rintro ⟨sh, hall⟩
    obtain ⟨output, obs, hobs, hfits, hmac⟩ := exists_scan sh
    refine ⟨output, obs, hobs, (Signature.isSome_detect h obs).mpr fun c hc => ?_⟩
    exact isSome_matchWifi.mpr (hfits.metBy hmac (hall c hc))

/-- A rule's coverage is stated truly where it asks for what no scan shows, where it reads the
elements and no access point shows all of it, and where it does neither and every condition can be
met. -/
theorem coverageTrue_iff {sig : Signature} (h : sig.technology = .wifi) : CoverageTrue sig ↔
    sig.conditions.any MatchCondition.beyondScan = true ∨
      sig.conditions.any MatchCondition.readsElements = true ∧
        (∀ sh, ∃ c ∈ sig.conditions, ¬ c.Meets sh) ∨
      sig.conditions.any MatchCondition.readsElements = false ∧
        ∀ c ∈ sig.conditions, c.Meetable := by
  have hnone : (∀ output, ∀ obs ∈ parseIwScan output, sig.detect (.wifi obs) = none) ↔
      ∀ sh, ∃ c ∈ sig.conditions, ¬ c.Meets sh := by
    have hiff := not_congr (exists_detect_iff h)
    push Not at hiff
    simpa using hiff
  have hmet : (∀ c ∈ sig.conditions, ∃ output, ∃ obs ∈ parseIwScan output,
      (matchWifi c obs).isSome = true) ↔ ∀ c ∈ sig.conditions, c.Meetable :=
    forall₂_congr fun c _ => exists_met_iff
  have hreach := @reachableViaBssScan_eq_false sig
  rw [CoverageTrue, hnone, hmet]
  cases hbeyond : sig.conditions.any MatchCondition.beyondScan with
  | true =>
    rw [hreach.mpr (.inl hbeyond)]
    obtain ⟨c, hc, hcbeyond⟩ := List.any_eq_true.mp hbeyond
    have hall : ∀ sh, ∃ c ∈ sig.conditions, ¬ c.Meets sh := fun sh =>
      ⟨c, hc, MatchCondition.not_meets_of_beyondScan hcbeyond sh⟩
    simp [hall]
  | false =>
    cases hreads : sig.conditions.any MatchCondition.readsElements with
    | true =>
      rw [hreach.mpr (.inr hreads)]
      simp
    | false =>
      have htrue : sig.reachableViaBssScan = true := by
        rw [← Bool.not_eq_false, hreach, hbeyond, hreads]
        simp
      rw [htrue]
      simp

end

/-! ## Coverage that is not there, and coverage that is hidden -/

/-- Text as it is, for the reasons. -/
@[reducible] def plainDebug : DebugStr := ⟨id⟩

/-- A rule with one condition. -/
def ruleOf (c : MatchCondition) : Signature where
  id := "rule"
  vendor := "vendor"
  product := none
  technology := .wifi
  conditions := [c]
  confidence := .medium
  severity := .medium
  enabled := true

/-- A rule for an element without a word on its payload is in reach and said to be. -/
theorem coverageTrue_rsn :
    @CoverageTrue Iw.noFloats plainDebug (ruleOf (.informationElement 48 none)) := by
  refine (@coverageTrue_iff Iw.noFloats plainDebug _ rfl).mpr (.inr (.inr ⟨rfl, ?_⟩))
  exact List.forall_mem_singleton.mpr ⟨by decide, rfl⟩

/-- No scan says that a frame was a beacon, though a rule for beacons is said to be in reach; and a
network that shows its name and nothing else has the elements a rule asks for which is said to be
out of reach. -/
theorem coverage_misstated :
    ¬ @CoverageTrue Iw.noFloats plainDebug (ruleOf (.frameType .beacon)) ∧
      ¬ @CoverageTrue Iw.noFloats plainDebug (ruleOf (.ieIdSequence [0])) := by
  constructor
  · rintro ⟨-, hreachable⟩
    have hmet := hreachable rfl (.frameType .beacon) (List.mem_singleton_self _)
    rw [@exists_met_iff Iw.noFloats plainDebug] at hmet
    cases hmet
  · rintro ⟨hunreachable, -⟩
    have hsome : ∃ sh, ∀ c ∈ (ruleOf (.ieIdSequence [0])).conditions, c.Meets sh :=
      ⟨.sending [0] (List.nodup_singleton 0) Showing.name_printed, List.forall_mem_singleton.mpr rfl⟩
    rw [← @exists_detect_iff Iw.noFloats plainDebug _ rfl] at hsome
    obtain ⟨output, obs, hobs, hdetect⟩ := hsome
    rw [hunreachable rfl output obs hobs] at hdetect
    cases hdetect

end Rayhunter
