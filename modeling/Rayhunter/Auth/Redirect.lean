import Rayhunter.Lib.Fields
import Rayhunter.Lib.IpText
import Rayhunter.Store.Manifest
import Rayhunter.Tls.Identity

/-!
# The redirect to TLS

`redirect_to_tls` of `daemon/src/web_auth.rs` sends a request on the plain port to the TLS one, at
the host the request names where that is one of the unit's own, else at the hotspot's address.
Whatever the request says, the authority it is sent to is one of the unit's own (`own_authority`),
and the path and the query follow it; only a request for `*`, which has neither, gets its asterisk
put at the end of the authority (`redirectToTls_home_iff`).
-/

namespace Rayhunter.Auth

open Net

/-! ## Requests -/

/-- `ListenerKind` (`web_auth.rs:209`). -/
inductive ListenerKind
  | loopback
  | plain
  | tls
  deriving DecidableEq, Repr

/-- `http::uri::PathAndQuery`, as it is read from a request: the asterisk alone, or a path and a
query, of which one may be missing. A fragment is not part of it. -/
structure PathAndQuery where
  text : List Char
  form : text = ['*'] ∨ text.head? = some '/' ∨ text.head? = some '?'
  noFragment : '#' ∉ text

/-- What the redirect reads of a request; one for an authority has no path. -/
structure WebRequest where
  listener : Option ListenerKind
  method : String
  host : Option (List UInt8)
  pathAndQuery : Option PathAndQuery

/-- What the redirect reads of `ServerState` and of the configuration. -/
structure WebState where
  ownAddresses : List IpAddr
  frontDoorAlias : Option Ipv4Addr
  wifiIp : Option String
  tls : Bool
  gpsApiOpen : Bool
  gpsMode : GpsMode
  tlsPort : UInt16

namespace WebRequest

/-- The listener a request came in at (`web_auth.rs:495`). -/
def kind (request : WebRequest) : ListenerKind := request.listener.getD .plain

/-- `Uri::path`. -/
def path (request : WebRequest) : List Char :=
  match request.pathAndQuery with
  | none => []
  | some target =>
    let path := target.text.takeWhile (· ≠ '?')
    if path = [] then ['/'] else path

/-- What follows the authority (`web_auth.rs:533`). -/
def rest (request : WebRequest) : List Char := (request.pathAndQuery.map (·.text)).getD ['/']

/-- `HeaderValue::to_str`. -/
def headerText (bytes : List UInt8) : Option (List Char) :=
  if bytes.all fun b => (32 ≤ b && b < 127) || b = 9 then
    some (bytes.map fun b => Char.ofNat b.toNat)
  else none

/-- The host of a request, empty where it names none (`web_auth.rs:509`). -/
def rawHost (request : WebRequest) : List Char := (request.host.bind headerText).getD []

end WebRequest

/-- `is_open_gps_post` (`web_auth.rs:264`). -/
def isOpenGpsPost (st : WebState) (request : WebRequest) : Bool :=
  st.gpsApiOpen && st.gpsMode = .api && request.method = "POST" && request.path = "/api/gps".toList

/-! ## Hosts -/

/-- `eq_ignore_ascii_case`. -/
def eqIgnoreAsciiCase (a b : List Char) : Bool := a.map Char.toLower = b.map Char.toLower

/-- `host_had_port` (`web_auth.rs:461`). -/
def hostHadPort (host : List Char) : Bool :=
  match host with
  | '[' :: rest => (Fields.splitOnce ']' rest).any (·.2.head? = some ':')
  | host => host.contains ':'

/-- `host_without_port` (`web_auth.rs:473`). -/
def hostWithoutPort (host : List Char) : List Char :=
  match host with
  | '[' :: rest => ((Fields.splitOnce ']' rest).map (·.1)).getD rest
  | host => ((Fields.splitOnce ':' host).map (·.1)).getD host

/-- `LOCAL_NAME`, by its characters. -/
def localName : List Char := Tls.LOCAL_NAME.toList

namespace WebState

/-- The address the unit has as a client of another network. -/
def staAddress (st : WebState) : Option IpAddr := st.wifiIp.bind fun s => parseIpAddr s.toList

/-- Where a host goes that is not the unit's own (`web_auth.rs:287`). -/
def fallback (st : WebState) : List Char :=
  ((st.ownAddresses.find? fun ip => !ip.isLoopback).map IpAddr.display).getD localName

/-- `canonical_host` (`web_auth.rs:286`). -/
def canonicalHost (st : WebState) : Option (List Char) → List Char
  | none => st.fallback
  | some raw =>
    let host := hostWithoutPort raw
    if eqIgnoreAsciiCase host localName then localName
    else
      match parseIpAddr host with
      | some ip =>
        if st.ownAddresses.contains ip then host
        else if st.staAddress = some ip then host
        else st.fallback
      | none => st.fallback

/-- `is_front_door_host` (`web_auth.rs:320`). -/
def isFrontDoorHost (st : WebState) (host : List Char) : Bool :=
  eqIgnoreAsciiCase host localName || st.frontDoorAlias.any fun a => a.display = host

end WebState

/-! ## The redirect -/

/-- What becomes of a request: it goes on, it is sent elsewhere, or the answer cannot be made. -/
inductive WebAnswer
  | next
  | redirect (location body : List Char)
  | failed
  deriving DecidableEq, Repr

/-- What `HeaderValue` takes. -/
def isHeaderChar (c : Char) : Bool := c = '\t' || (32 ≤ c.toNat && c.toNat ≠ 127)

/-- An IPv6 address in brackets (`web_auth.rs:527`). -/
def bracketed (host : List Char) : List Char :=
  if host.contains ':' then '[' :: (host ++ [']']) else host

/-- The port of TLS, as text. -/
def WebState.portText (st : WebState) : List Char := Nat.toDigits 10 st.tlsPort.toNat

/-- The authority a request is sent to (`web_auth.rs:516`). -/
def WebState.authority (st : WebState) (rawHost : List Char) : List Char :=
  let checked := st.canonicalHost (some rawHost)
  let reflected := eqIgnoreAsciiCase (hostWithoutPort rawHost) checked
  let hadPort := !reflected || hostHadPort rawHost || !st.isFrontDoorHost checked
  if hadPort then bracketed checked ++ ':' :: st.portText else bracketed checked

/-- `redirect_to_tls` (`web_auth.rs:487`). -/
def redirectToTls (st : WebState) (request : WebRequest) : WebAnswer :=
  if request.kind ≠ .plain || !st.tls then .next
  else if isOpenGpsPost st request then .next
  else
    let target := "https://".toList ++ st.authority request.rawHost ++ request.rest
    if target.all isHeaderChar then
      .redirect target ("Rayhunter is served over HTTPS now: ".toList ++ target ++ ['\n'])
    else .failed

/-! ## The unit's own -/

namespace WebState

/-- An address the unit serves on. -/
def Has (st : WebState) (ip : IpAddr) : Prop := ip ∈ st.ownAddresses ∨ st.staAddress = some ip

/-- One of the unit's own names or addresses, as it stands in an authority. -/
inductive OwnHost (st : WebState) : List Char → Prop
  | name : OwnHost st localName
  | v4 {ip : IpAddr} {text : List Char} (has : st.Has ip) (names : ip.Names text)
      (version : ip.isV6 = false) : OwnHost st text
  | v6 {ip : IpAddr} {text : List Char} (has : st.Has ip) (names : ip.Names text)
      (version : ip.isV6 = true) : OwnHost st ('[' :: (text ++ [']']))

/-- A name that needs no port. -/
def FrontDoorName (st : WebState) (host : List Char) : Prop :=
  host = localName ∨ ∃ a ∈ st.frontDoorAlias, host = a.display

/-- An authority of the unit: one of its own names or addresses with the port of TLS, or a
front-door name. -/
def OwnAuthority (st : WebState) (authority : List Char) : Prop :=
  (∃ host, st.OwnHost host ∧ authority = host ++ ':' :: st.portText) ∨ st.FrontDoorName authority

theorem fallback_cases (st : WebState) :
    st.fallback = localName ∨ ∃ ip, st.Has ip ∧ ip.Names st.fallback := by
  unfold fallback
  cases hfind : st.ownAddresses.find? fun ip => !ip.isLoopback with
  | none => exact .inl rfl
  | some ip => exact .inr ⟨ip, .inl (List.mem_of_find?_eq_some hfind), .inl rfl⟩

/-- **The host a request is sent to** is the unit's name or stands for one of its addresses,
whatever the request names. -/
theorem canonicalHost_cases (st : WebState) (raw : Option (List Char)) :
    st.canonicalHost raw = localName ∨ ∃ ip, st.Has ip ∧ ip.Names (st.canonicalHost raw) := by
  cases raw with
  | none => exact st.fallback_cases
  | some raw =>
    unfold canonicalHost
    dsimp only
    split
    · exact .inl rfl
    · split
      · next ip hip =>
        split
        · next hown => exact .inr ⟨ip, .inl (by simpa using hown), .inr hip⟩
        · split
          · next hsta => exact .inr ⟨ip, .inr hsta, .inr hip⟩
          · exact st.fallback_cases
      · exact st.fallback_cases

end WebState

/-- The characters an authority of the unit is made of. -/
def isAuthorityChar (c : Char) : Bool :=
  isAddressChar c || localName.contains c || c = '[' || c = ']'

/-- The digits addresses are made of. -/
def hexDigits : List Char := "0123456789abcdefABCDEF".toList

theorem mem_hexDigits {c : Char} (h : (Hex.value? c).isSome) : c ∈ hexDigits := by
  have hlow : c.toNat < 128 := by
    unfold Hex.value? at h
    simp only [Char.le_def, UInt32.le_iff_toNat_le] at h
    split at h
    · next hc => exact Nat.lt_of_le_of_lt (show c.toNat ≤ 57 from hc.2) (by decide)
    split at h
    · next hc => exact Nat.lt_of_le_of_lt (show c.toNat ≤ 102 from hc.2) (by decide)
    split at h
    · next hc => exact Nat.lt_of_le_of_lt (show c.toNat ≤ 70 from hc.2) (by decide)
    · cases h
  have hall : ∀ n < 128, (Hex.value? (Char.ofNat n)).isSome → Char.ofNat n ∈ hexDigits := by decide
  have hc := hall c.toNat hlow
  rw [Char.ofNat_toNat] at hc
  exact hc h

theorem forall_of_all {p : Char → Prop} [DecidablePred p] {cs : List Char}
    (h : (cs.all fun c => decide (p c)) = true) : ∀ c ∈ cs, p c := fun c hc =>
  of_decide_eq_true (List.all_eq_true.1 h c hc)

/-- What holds of each of the characters of authorities holds of every one. -/
theorem forall_isAuthorityChar {p : Char → Prop} (hdigits : ∀ c ∈ hexDigits, p c)
    (hname : ∀ c ∈ localName, p c) (hrest : ∀ c ∈ ['.', ':', '[', ']'], p c) {c : Char}
    (h : isAuthorityChar c = true) : p c := by
  simp only [isAuthorityChar, isAddressChar, Bool.or_eq_true, decide_eq_true_eq,
    List.contains_iff_mem] at h
  rcases h with ((((rfl | rfl) | h) | h) | rfl) | rfl
  · exact hrest _ (by decide)
  · exact hrest _ (by decide)
  · exact hdigits c (mem_hexDigits h)
  · exact hname c h
  · exact hrest _ (by decide)
  · exact hrest _ (by decide)

theorem isAuthorityChar_of_isAddressChar {c : Char} (h : isAddressChar c = true) :
    isAuthorityChar c = true := by
  simp [isAuthorityChar, h]

/-- No letter of an address is the first of the unit's name. -/
theorem toLower_ne_of_isAddressChar {c : Char} (h : isAddressChar c = true) : c.toLower ≠ 'r' := by
  simp only [isAddressChar, Bool.or_eq_true, decide_eq_true_eq] at h
  have hdigits : ∀ c ∈ hexDigits, c.toLower ≠ 'r' := forall_of_all (by decide)
  rcases h with (rfl | rfl) | h
  · decide
  · decide
  · exact hdigits c (mem_hexDigits h)

/-- An address is not the unit's name, in letters of either kind. -/
theorem eqIgnoreAsciiCase_localName {ip : IpAddr} {host : List Char} (h : ip.Names host) :
    eqIgnoreAsciiCase host localName = false := by
  refine decide_eq_false fun heq => ?_
  have hr : 'r' ∈ host.map Char.toLower := heq ▸ (by decide)
  obtain ⟨c, hc, hlower⟩ := List.mem_map.1 hr
  exact toLower_ne_of_isAddressChar (isAddressChar_of_names h c hc) hlower

theorem bracketed_localName : bracketed localName = localName := by decide

/-- What stands for an address stands in an authority as that version does. -/
theorem ownHost_bracketed {st : WebState} {ip : IpAddr} {host : List Char} (hhas : st.Has ip)
    (hnames : ip.Names host) : st.OwnHost (bracketed host) := by
  unfold bracketed
  split
  · next hcolon =>
    exact .v6 hhas hnames ((colon_mem_iff hnames).1 (List.contains_iff_mem.1 hcolon))
  · next hcolon =>
    refine .v4 hhas hnames (Bool.eq_false_iff.2 fun hv6 => hcolon ?_)
    exact List.contains_iff_mem.2 ((colon_mem_iff hnames).2 hv6)

/-- **A request is sent to an authority of the unit**, whatever host it names. -/
theorem own_authority (st : WebState) (rawHost : List Char) :
    st.OwnAuthority (st.authority rawHost) := by
  have hhost : st.OwnHost (bracketed (st.canonicalHost (some rawHost))) := by
    rcases st.canonicalHost_cases (some rawHost) with h | ⟨ip, hhas, hnames⟩
    · rw [h, bracketed_localName]
      exact .name
    · exact ownHost_bracketed hhas hnames
  unfold WebState.authority
  dsimp only
  split
  · exact .inl ⟨_, hhost, rfl⟩
  · next hport =>
    -- No port is named, so the host is a front-door name.
    have hdoor : st.isFrontDoorHost (st.canonicalHost (some rawHost)) = true := by
      simp only [Bool.or_eq_true, Bool.not_eq_true', not_or, Bool.not_eq_false] at hport
      exact hport.2
    right
    rw [WebState.isFrontDoorHost, Bool.or_eq_true] at hdoor
    rcases hdoor with hname | halias
    · rcases st.canonicalHost_cases (some rawHost) with h | ⟨ip, hhas, hnames⟩
      · rw [h, bracketed_localName]
        exact .inl rfl
      · rw [eqIgnoreAsciiCase_localName hnames] at hname
        cases hname
    · cases hdoor : st.frontDoorAlias with
      | none =>
        rw [hdoor] at halias
        cases halias
      | some a =>
        rw [hdoor, Option.any_some, decide_eq_true_eq] at halias
        have hcolon : ':' ∉ a.display := fun h =>
          Bool.false_ne_true ((colon_mem_display_iff (.v4 a)).1 h)
        refine .inr ⟨a, hdoor, ?_⟩
        rw [← halias, bracketed, if_neg (by simpa using hcolon)]

/-! ## Where the location leads -/

/-- What ends an authority. -/
def isDelimiter (c : Char) : Bool := c = '/' || c = '?' || c = '#'

/-- The authority of a URL, and what follows it. -/
def splitUrl (url : List Char) : Option (List Char × List Char) :=
  if "https://".toList.isPrefixOf url then
    let rest := url.drop "https://".toList.length
    some (rest.takeWhile (!isDelimiter ·), rest.dropWhile (!isDelimiter ·))
  else none

/-- A redirect leads to an authority of the unit, and the path and the query follow it. -/
def StaysHome (st : WebState) (request : WebRequest) : Prop :=
  ∀ location body, redirectToTls st request = .redirect location body →
    ∃ authority rest, splitUrl location = some (authority, rest) ∧ st.OwnAuthority authority ∧
      rest = request.rest

theorem isAuthorityChar_of_mem_authority {st : WebState} {authority : List Char}
    (h : st.OwnAuthority authority) : ∀ c ∈ authority, isAuthorityChar c = true := by
  have hname : ∀ c ∈ localName, isAuthorityChar c = true := List.all_eq_true.1 (by decide)
  have haddress : ∀ {ip : IpAddr} {text : List Char}, ip.Names text → ∀ c ∈ text,
      isAuthorityChar c = true := fun hnames c hc =>
    isAuthorityChar_of_isAddressChar (isAddressChar_of_names hnames c hc)
  rcases h with ⟨host, hhost, rfl⟩ | (rfl | ⟨a, -, rfl⟩)
  · have hown : ∀ c ∈ host, isAuthorityChar c = true := by
      cases hhost with
      | name => exact hname
      | v4 _ hnames => exact haddress hnames
      | v6 _ hnames =>
        simp only [List.forall_mem_cons, List.forall_mem_append]
        exact ⟨rfl, haddress hnames, rfl, List.forall_mem_nil _⟩
    have hport : ∀ c ∈ st.portText, isAuthorityChar c = true := fun c hc => by
      refine isAuthorityChar_of_isAddressChar ?_
      simp [isAddressChar, isSome_value?_of_isDigit
        (Nat.isDigit_of_mem_toDigits (by decide) (by decide) hc)]
    simp only [List.forall_mem_append, List.forall_mem_cons]
    exact ⟨hown, rfl, hport⟩
  · exact hname
  · exact haddress (show IpAddr.Names (.v4 a) _ from .inl rfl)

theorem isDelimiter_of_isAuthorityChar {c : Char} (h : isAuthorityChar c = true) :
    isDelimiter c = false :=
  forall_isAuthorityChar (p := (isDelimiter · = false)) (forall_of_all (by decide))
    (forall_of_all (by decide)) (forall_of_all (by decide)) h

theorem isHeaderChar_of_isAuthorityChar {c : Char} (h : isAuthorityChar c = true) :
    isHeaderChar c = true :=
  forall_isAuthorityChar (p := (isHeaderChar · = true)) (forall_of_all (by decide))
    (forall_of_all (by decide)) (forall_of_all (by decide)) h

/-- A URL is cut after its authority, and what follows it does not begin with a character that goes
on with it. -/
theorem splitUrl_eq (authority rest : List Char) (h : ∀ c ∈ authority, isDelimiter c = false) :
    splitUrl ("https://".toList ++ authority ++ rest) =
      some (authority ++ rest.takeWhile (!isDelimiter ·), rest.dropWhile (!isDelimiter ·)) := by
  have hall : ∀ c ∈ authority, (!isDelimiter c) = true := fun c hc => by rw [h c hc]; rfl
  have hscheme : "https://".toList.isPrefixOf ("https://".toList ++ authority ++ rest) = true := by
    rw [List.append_assoc]
    exact List.isPrefixOf_iff_prefix.2 (List.prefix_append ..)
  rw [splitUrl, if_pos hscheme, List.append_assoc, List.drop_left]
  simp only
  rw [List.takeWhile_append_of_pos hall, List.dropWhile_append_of_pos hall]

/-- A path and a query begin with a character that ends an authority. -/
theorem rest_cases (request : WebRequest) :
    request.rest = ['*'] ∨ ∃ c cs, request.rest = c :: cs ∧ isDelimiter c = true := by
  unfold WebRequest.rest
  cases request.pathAndQuery with
  | none => exact .inr ⟨'/', [], rfl, rfl⟩
  | some target =>
    rw [Option.map_some, Option.getD_some]
    rcases target.form with h | h | h
    · exact .inl h
    · obtain ⟨cs, hcs⟩ := List.head?_eq_some_iff.1 h
      exact .inr ⟨'/', cs, hcs, rfl⟩
    · obtain ⟨cs, hcs⟩ := List.head?_eq_some_iff.1 h
      exact .inr ⟨'?', cs, hcs, rfl⟩

/-- A request for the asterisk submits no position. -/
theorem isOpenGpsPost_of_asterisk {st : WebState} {request : WebRequest}
    (h : request.rest = ['*']) : isOpenGpsPost st request = false := by
  have hpath : request.path = ['*'] := by
    unfold WebRequest.rest at h
    unfold WebRequest.path
    cases htarget : request.pathAndQuery with
    | none =>
      rw [htarget] at h
      cases h
    | some target =>
      rw [htarget, Option.map_some, Option.getD_some] at h
      simp [h]
  simp [isOpenGpsPost, hpath]

/-- **The redirect sends nobody elsewhere** but for a request for the asterisk. -/
theorem redirectToTls_home_iff (st : WebState) (request : WebRequest) :
    StaysHome st request ↔
      ¬ (request.kind = .plain ∧ st.tls = true ∧ request.rest = ['*']) := by
  have hown := own_authority st request.rawHost
  have hchars := isAuthorityChar_of_mem_authority hown
  have hsplit := splitUrl_eq (st.authority request.rawHost) request.rest
    fun c hc => isDelimiter_of_isAuthorityChar (hchars c hc)
  constructor
  · rintro h ⟨hkind, htls, hstar⟩
    have hheader : ("https://".toList ++ st.authority request.rawHost ++ request.rest).all
        isHeaderChar = true := by
      rw [List.all_append, List.all_append, hstar, Bool.and_eq_true, Bool.and_eq_true]
      exact ⟨⟨by decide, List.all_eq_true.2 fun c hc =>
        isHeaderChar_of_isAuthorityChar (hchars c hc)⟩, by decide⟩
    have hredirect := h ("https://".toList ++ st.authority request.rawHost ++ request.rest) _ (by
      rw [redirectToTls, if_neg (by simp [hkind, htls]),
        if_neg (by simp [isOpenGpsPost_of_asterisk hstar]), if_pos hheader])
    obtain ⟨authority, rest, hurl, -, hrest⟩ := hredirect
    rw [hsplit, hstar] at hurl
    cases hurl
    rw [hstar] at hrest
    cases hrest
  · intro hne location body hredirect
    unfold redirectToTls at hredirect
    dsimp only at hredirect
    split_ifs at hredirect with hkind _ _
    cases hredirect
    simp only [Bool.or_eq_true, decide_eq_true_eq, Bool.not_eq_true', not_or, not_not,
      Bool.not_eq_false] at hkind
    have hstar : request.rest ≠ ['*'] := fun hstar => hne ⟨hkind.1, hkind.2, hstar⟩
    obtain ⟨c, cs, hcs, hdelimiter⟩ := (rest_cases request).resolve_left hstar
    refine ⟨st.authority request.rawHost, request.rest, ?_, hown, rfl⟩
    rw [hsplit, hcs, List.takeWhile_cons_of_neg (by simp [hdelimiter]),
      List.dropWhile_cons_of_neg (by simp [hdelimiter]), List.append_nil]

/-- A unit with its hotspot's address and its own. -/
def hotspotUnit : WebState where
  ownAddresses := [.v4 ⟨127, 0, 0, 1⟩, .v4 ⟨192, 168, 1, 1⟩, .v4 ⟨192, 168, 1, 254⟩]
  frontDoorAlias := some ⟨192, 168, 1, 254⟩
  wifiIp := none
  tls := true
  gpsApiOpen := false
  gpsMode := .disabled
  tlsPort := 8443

example : hotspotUnit.authority "192.168.1.254@evil.example".toList =
    "192.168.1.1:8443".toList := by decide

/-- A request for a host. -/
def requestFor (host : String) (pathAndQuery : PathAndQuery) : WebRequest where
  listener := some .plain
  method := "OPTIONS"
  host := some (utf8 host)
  pathAndQuery := some pathAndQuery

/-- The asterisk is put at the end of the name, and is no path there. -/
theorem redirectToTls_asterisk :
    ¬ ∀ (st : WebState) (request : WebRequest), StaysHome st request := by
  intro h
  obtain ⟨authority, rest, hurl, -, hrest⟩ := h hotspotUnit
    (requestFor "rayhunter.local" ⟨['*'], .inl rfl, by decide⟩) "https://rayhunter.local*".toList
    "Rayhunter is served over HTTPS now: https://rayhunter.local*\n".toList (by decide +kernel)
  have hsplit : splitUrl "https://rayhunter.local*".toList =
      some ("rayhunter.local*".toList, []) := by decide
  rw [hsplit] at hurl
  cases hurl
  cases hrest

end Rayhunter.Auth
