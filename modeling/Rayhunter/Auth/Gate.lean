import Rayhunter.Auth.Calls
import Rayhunter.Auth.Cookies
import Rayhunter.Auth.Redirect
import Rayhunter.Auth.Routes

/-!
# What a request has to pass

The middlewares around the routes (`daemon/src/main.rs`, `daemon/src/web_auth.rs`), from the
outside: the plain port of the hotspot is sent to TLS, a change another site asks for is refused, and
`require_auth` lets in who may pass. They go by paths and headers; `reaches_iff` says what that comes
to by handlers, for every request: which of them answers it, and what entitles it to that.
-/

namespace Rayhunter.Auth

/-! ## Requests -/

/-- What the middlewares read of a request. -/
structure GateRequest extends WebRequest where
  cookie : Option (List UInt8)
  authorization : Option (List UInt8)
  origin : Option (List UInt8)
  secFetchSite : Option (List UInt8)

/-- What they read of `ServerState`. -/
structure GateState extends WebState where
  pairing : AuthState
  webUsers : List WebUser

/-- `COOKIE_NAME` (`pairing.rs:52`). -/
def COOKIE_NAME : List Char := "rh_device".toList

/-- `cookie_value` (`pairing.rs:380`). -/
def cookieValue (header name : List Char) : Option (List Char) :=
  (header.splitOn ';').findSome? fun part =>
    (Fields.splitOnce '=' (Text.trimChars part)).bind fun (k, v) =>
      if Text.trimChars k = name then some (Text.trimChars v) else none

/-- `parse_basic_auth` (`web_auth.rs:196`). -/
def parseBasicAuth [B64] (header : List Char) : Option (String × String) :=
  (Text.stripPrefix "Basic " header).bind fun encoded =>
  (B64.decode (Text.trimChars encoded)).bind fun decoded =>
  (fromUtf8 decoded).bind fun text =>
  (Fields.splitOnce ':' text.toList).map fun (user, pass) =>
    (String.ofList user, String.ofList pass)

namespace GateRequest

variable (request : GateRequest)

/-- The token in the cookie (`web_auth.rs:412`). -/
def token : Option String :=
  ((request.cookie.bind WebRequest.headerText).bind fun h => cookieValue h COOKIE_NAME).map
    String.ofList

/-- The credentials a request comes with (`web_auth.rs:433`). -/
def supplied [B64] : Option (String × String) :=
  (request.authorization.bind WebRequest.headerText).bind parseBasicAuth

/-- What follows the scheme of an origin. -/
def authorityOf : List Char → Option (List Char)
  | [] => none
  | c :: cs =>
    match Text.stripPrefix "://" (c :: cs) with
    | some rest => some rest
    | none => authorityOf cs

/-- `is_cross_site_state_change` (`web_auth.rs:570`), of what `csrf_protection` reads. -/
def isCrossSiteStateChange : Bool :=
  if ["POST", "PUT", "PATCH", "DELETE"].contains request.method then
    match request.origin.bind WebRequest.headerText with
    | some origin =>
      match authorityOf origin, request.host.bind WebRequest.headerText with
      | some o, some h => o ≠ h
      | _, _ => true
    | none =>
      match request.secFetchSite.bind WebRequest.headerText with
      | some site => !(["same-origin", "same-site", "none"].any (·.toList = site))
      | none => false
  else false

end GateRequest

/-! ## The middlewares -/

/-- How a request is refused. -/
inductive Refusal
  | basicChallenge
  | notPaired
  | toPairPage
  | crossSite
  | toTls (location body : List Char)
  | failed
  deriving DecidableEq, Repr

/-- What becomes of a request, and the device the handler is told it was made from. -/
inductive Served
  | refused (r : Refusal)
  | routed (r : Routed) (device : Option String)
  deriving DecidableEq, Repr

namespace GateState

variable [B64] [Pbkdf2] (st : GateState)

/-- `require_auth` (`web_auth.rs:388`). The work of the key derivation may be lost (`ran`). -/
def requireAuth (ran : Bool) (request : GateRequest) : Except Refusal (Option String) :=
  if isExemptFromPairing request.path then .ok none
  else if isOpenGpsPost st.toWebState request.toWebRequest then .ok none
  else if request.kind = .loopback then .ok none
  else
    match request.token.bind st.pairing.authenticate with
    | some device => .ok (some device.id)
    | none =>
      if st.tls then
        if Text.startsWith "/api/" request.path then .error .notPaired else .error .toPairPage
      else if st.webUsers.isEmpty then .ok none
      else
        match request.supplied with
        | some (username, password) =>
          if ran && PairingState.credentialsAreValid st.webUsers username password then .ok none
          else .error .basicChallenge
        | none => .error .basicChallenge

/-- A request at the base of a listener (`main.rs:333`). -/
def serve (ran : Bool) (request : GateRequest) : Served :=
  match redirectToTls st.toWebState request.toWebRequest with
  | .redirect location body => .refused (.toTls location body)
  | .failed => .refused .failed
  | .next =>
    if request.isCrossSiteStateChange then .refused .crossSite
    else
      match st.requireAuth ran request with
      | .error r => .refused r
      | .ok device => .routed (dispatch request.path request.method) device

end GateState

/-! ## What that comes to -/

/-- A request that is no change, or that the unit's own page asks for, as far as it says. -/
inductive GateRequest.SameSite (request : GateRequest) : Prop
  | reads (method : request.method ∉ ["POST", "PUT", "PATCH", "DELETE"])
  | origin {origin host : List Char} (named : request.origin.bind WebRequest.headerText = some origin)
      (authority : authorityOf origin = some host)
      (host : request.host.bind WebRequest.headerText = some host)
  | site {site : List Char} (noOrigin : request.origin.bind WebRequest.headerText = none)
      (named : request.secFetchSite.bind WebRequest.headerText = some site)
      (same : site ∈ ["same-origin", "same-site", "none"].map String.toList)
  | silent (noOrigin : request.origin.bind WebRequest.headerText = none)
      (noSite : request.secFetchSite.bind WebRequest.headerText = none)

/-- Whether the operator has opened the submitting of positions. -/
def WebState.OpensGps (st : WebState) : Prop := st.gpsApiOpen = true ∧ st.gpsMode = .api

/-- What entitles a request to the answer of a handler. -/
inductive Entitled [B64] [Pbkdf2] (st : GateState) (ran : Bool) (request : GateRequest) (h : Handler)
    (texts : List (List Char)) : Prop
  | pairing (opens : h.opens texts = true)
  | position (opened : st.OpensGps) (posts : h = .postGps)
  | loopback (listener : request.kind = .loopback)
  | trusted {token : String} {device : TrustedDevice} (holds : request.token = some token)
      (accepted : st.pairing.authenticate token = some device)
  /-- Without TLS no browser can be paired, so nothing is asked, or the password of an account. -/
  | free (tls : st.tls = false) (users : st.webUsers = [])
  | account {username password : String} {user : WebUser} (tls : st.tls = false)
      (supplied : request.supplied = some (username, password))
      (known : st.webUsers.find? (·.username = username) = some user)
      (verified : ran = true ∧ Pbkdf2.verifyPassword password user.passwordHash = true)
      (size : username.utf8ByteSize ≤ MAX_USERNAME_LEN ∧ password.utf8ByteSize ≤ MAX_PASSWORD_LEN)

theorem isCrossSite_eq_false_iff {request : GateRequest} :
    request.isCrossSiteStateChange = false ↔ request.SameSite := by
  unfold GateRequest.isCrossSiteStateChange
  split
  · next hchange =>
    have hmethod : request.method ∈ ["POST", "PUT", "PATCH", "DELETE"] := by simpa using hchange
    cases horigin : request.origin.bind WebRequest.headerText with
    | some origin =>
      dsimp only
      constructor
      · intro h
        split at h
        · next o host ho hhost =>
          exact .origin horigin ho (by rw [hhost, of_not_not (of_decide_eq_false h)])
        · cases h
      · rintro (hreads | ⟨hnamed, ho, hhost⟩ | ⟨hnone, -, -⟩ | ⟨hnone, -⟩)
        · exact absurd hmethod hreads
        · cases horigin.symm.trans hnamed
          rw [ho, hhost]
          simp
        · cases horigin.symm.trans hnone
        · cases horigin.symm.trans hnone
    | none =>
      dsimp only
      cases hsite : request.secFetchSite.bind WebRequest.headerText with
      | some site =>
        dsimp only
        have hmem : ["same-origin", "same-site", "none"].any (·.toList = site) = true ↔
            site ∈ ["same-origin", "same-site", "none"].map String.toList := by
          simp only [List.any_eq_true, decide_eq_true_eq, List.mem_map]
        rw [Bool.not_eq_false', hmem]
        constructor
        · intro h
          exact .site horigin hsite h
        · rintro (hreads | ⟨hnamed, -, -⟩ | ⟨-, hnamed, hsame⟩ | ⟨-, hnone⟩)
          · exact absurd hmethod hreads
          · cases horigin.symm.trans hnamed
          · cases hsite.symm.trans hnamed
            exact hsame
          · cases hsite.symm.trans hnone
      | none => exact iff_of_true rfl (.silent horigin hsite)
  · next hreads => exact iff_of_true rfl (.reads fun hmethod => hreads (by simpa using hmethod))

theorem isOpenGpsPost_iff {st : WebState} {request : WebRequest} {h : Handler}
    {texts : List (List Char)} (hd : dispatch request.path request.method = .handler h texts) :
    isOpenGpsPost st request = true ↔ st.OpensGps ∧ h = .postGps := by
  rw [← postGps_iff hd, isOpenGpsPost, WebState.OpensGps]
  simp only [Bool.and_eq_true, decide_eq_true_eq, and_assoc]

theorem redirectToTls_eq_next_iff {st : WebState} {request : WebRequest} :
    redirectToTls st request = .next ↔
      (request.kind = .plain → st.tls = true → isOpenGpsPost st request = true) := by
  unfold redirectToTls
  split
  · next hnot =>
    refine iff_of_true rfl fun hplain htls => ?_
    simp [hplain, htls] at hnot
  · next hplain =>
    simp only [Bool.or_eq_true, decide_eq_true_eq, Bool.not_eq_true', not_or, not_not,
      Bool.not_eq_false] at hplain
    split
    · next hgps => exact iff_of_true rfl fun _ _ => hgps
    · next hgps =>
      refine iff_of_false ?_ fun h => hgps (h hplain.1 hplain.2)
      dsimp only
      split
      · exact WebAnswer.noConfusion
      · exact WebAnswer.noConfusion

section
variable [B64] [Pbkdf2] {st : GateState} {ran : Bool} {request : GateRequest} {h : Handler}
  {texts : List (List Char)}

omit [B64] in
/-- Credentials are valid where they are those of the first account with that name, and neither is
too long to be looked at. -/
theorem credentialsAreValid_iff {users : List WebUser} {username password : String} :
    PairingState.credentialsAreValid users username password = true ↔
      ∃ user, users.find? (·.username = username) = some user ∧
        Pbkdf2.verifyPassword password user.passwordHash = true ∧
        username.utf8ByteSize ≤ MAX_USERNAME_LEN ∧ password.utf8ByteSize ≤ MAX_PASSWORD_LEN := by
  unfold PairingState.credentialsAreValid
  split
  · next hlong =>
    refine iff_of_false Bool.false_ne_true ?_
    rintro ⟨user, -, -, hname, hpassword⟩
    omega
  · next hshort =>
    cases users.find? (·.username = username) with
    | none => simp
    | some user =>
      dsimp only
      constructor
      · intro hverified
        exact ⟨user, rfl, hverified, by omega, by omega⟩
      · rintro ⟨user', heq, hverified, -⟩
        rw [Option.some.inj heq]
        exact hverified

/-- What entitles a request that is not open to all, comes from outside, and has no cookie that is
taken for a device's: no browser can be paired. -/
theorem Entitled.unpaired (hentitled : Entitled st ran request h texts)
    (hd : dispatch request.path request.method = .handler h texts)
    (hexempt : ¬isExemptFromPairing request.path = true)
    (hgps : ¬isOpenGpsPost st.toWebState request.toWebRequest = true)
    (hloopback : request.kind ≠ .loopback)
    (htoken : request.token.bind st.pairing.authenticate = none) :
    st.tls = false ∧ (st.webUsers = [] ∨ ∃ username password,
      request.supplied = some (username, password) ∧ ran = true ∧
        PairingState.credentialsAreValid st.webUsers username password = true) := by
  cases hentitled with
  | pairing opens => exact absurd ((isExempt_iff_opens hd).2 opens) hexempt
  | position opened posts => exact absurd ((isOpenGpsPost_iff hd).2 ⟨opened, posts⟩) hgps
  | loopback listener => exact absurd listener hloopback
  | trusted holds accepted =>
    rw [holds, Option.bind_some, accepted] at htoken
    cases htoken
  | free tls users => exact ⟨tls, .inl users⟩
  | account tls supplied known verified size =>
    have hvalid := credentialsAreValid_iff.2 ⟨_, known, verified.2, size⟩
    exact ⟨tls, .inr ⟨_, _, supplied, verified.1, hvalid⟩⟩

/-- **What lets a request pass** is what entitles it to the handler it is for. -/
theorem requireAuth_iff (hd : dispatch request.path request.method = .handler h texts) :
    (∃ device, st.requireAuth ran request = .ok device) ↔ Entitled st ran request h texts := by
  unfold GateState.requireAuth
  split
  · next hexempt => exact iff_of_true ⟨none, rfl⟩ (.pairing ((isExempt_iff_opens hd).1 hexempt))
  next hexempt =>
  split
  · next hgps =>
    obtain ⟨hopened, hposts⟩ := (isOpenGpsPost_iff hd).1 hgps
    exact iff_of_true ⟨none, rfl⟩ (.position hopened hposts)
  next hgps =>
  split
  · next hloopback => exact iff_of_true ⟨none, rfl⟩ (.loopback hloopback)
  next hloopback =>
  split
  · next device htoken =>
    obtain ⟨token, hholds, haccepted⟩ := Option.bind_eq_some_iff.1 htoken
    exact iff_of_true ⟨some device.id, rfl⟩ (.trusted hholds haccepted)
  next htoken =>
  -- what is left to entitle it is that no browser can be paired
  have hrest := fun hentitled : Entitled st ran request h texts =>
    hentitled.unpaired hd hexempt hgps hloopback htoken
  split
  · next htls =>
    refine iff_of_false ?_ fun hentitled => ?_
    · rintro ⟨device, hok⟩
      split at hok <;> cases hok
    · rw [(hrest hentitled).1] at htls
      cases htls
  next htls =>
  have htls : st.tls = false := Bool.eq_false_iff.2 htls
  split
  · next husers => exact iff_of_true ⟨none, rfl⟩ (.free htls (List.isEmpty_iff.1 husers))
  next husers =>
  have husers : st.webUsers ≠ [] := fun hnil => husers (List.isEmpty_iff.2 hnil)
  split
  · next username password hsupplied =>
    split
    · next hcheck =>
      obtain ⟨hran, hvalid⟩ := Bool.and_eq_true_iff.1 hcheck
      obtain ⟨user, hknown, hverified, hsize⟩ := credentialsAreValid_iff.1 hvalid
      exact iff_of_true ⟨none, rfl⟩ (.account htls hsupplied hknown ⟨hran, hverified⟩ hsize)
    · next hcheck =>
      refine iff_of_false ?_ fun hentitled => ?_
      · rintro ⟨device, hok⟩
        cases hok
      · obtain ⟨-, hnil | ⟨_, _, hsupplied', hran, hvalid⟩⟩ := hrest hentitled
        · exact husers hnil
        · cases hsupplied.symm.trans hsupplied'
          exact hcheck (Bool.and_eq_true_iff.2 ⟨hran, hvalid⟩)
  · next hsupplied =>
    refine iff_of_false ?_ fun hentitled => ?_
    · rintro ⟨device, hok⟩
      cases hok
    · obtain ⟨-, hnil | ⟨_, _, hsupplied', -⟩⟩ := hrest hentitled
      · exact husers hnil
      · cases hsupplied.symm.trans hsupplied'

/-- A request is routed where it is not sent to TLS, comes from the unit's own page as far as it
says, and is let in. -/
theorem serve_eq_routed_iff {r : Routed} {device : Option String} :
    st.serve ran request = .routed r device ↔
      redirectToTls st.toWebState request.toWebRequest = .next ∧ request.SameSite ∧
        st.requireAuth ran request = .ok device ∧ dispatch request.path request.method = r := by
  unfold GateState.serve
  rw [← isCrossSite_eq_false_iff]
  cases hredirect : redirectToTls st.toWebState request.toWebRequest with
  | redirect location body => simp
  | failed => simp
  | next =>
    cases hcross : request.isCrossSiteStateChange with
    | true => simp
    | false =>
      cases hauth : st.requireAuth ran request with
      | error e => simp
      | ok d => simp [and_comm]

/-- The device a handler is told of is one the cookie is taken for. -/
theorem requireAuth_device {id : String} (hauth : st.requireAuth ran request = .ok (some id)) :
    ∃ token device, request.token = some token ∧ st.pairing.authenticate token = some device ∧
      device.id = id := by
  unfold GateState.requireAuth at hauth
  split at hauth
  · cases hauth
  split at hauth
  · cases hauth
  split at hauth
  · cases hauth
  split at hauth
  · next device htoken =>
    obtain ⟨token, hholds, haccepted⟩ := Option.bind_eq_some_iff.1 htoken
    cases hauth
    exact ⟨token, device, hholds, haccepted, rfl⟩
  split at hauth
  · split at hauth <;> cases hauth
  split at hauth
  · cases hauth
  split at hauth
  · split at hauth <;> cases hauth
  · cases hauth

variable (st ran request h texts) in
/-- **A handler answers a request** exactly where the request leads to it, is entitled to it, comes
from the unit's own page as far as it says, and, on the plain port while TLS is up, is a position for
a unit open to these; and a device it is told of is one the request has the cookie of. -/
theorem reaches_iff :
    ((∃ device, st.serve ran request = .routed (.handler h texts) device) ↔
      dispatch request.path request.method = .handler h texts ∧
        (request.kind = .plain → st.tls = true → st.OpensGps ∧ h = .postGps) ∧
        request.SameSite ∧ Entitled st ran request h texts) ∧
    ∀ r id, st.serve ran request = .routed r (some id) →
      ∃ token device, request.token = some token ∧ st.pairing.authenticate token = some device ∧
        device.id = id := by
  constructor
  · simp only [serve_eq_routed_iff, redirectToTls_eq_next_iff]
    constructor
    · rintro ⟨device, htls, hsame, hauth, hd⟩
      exact ⟨hd, fun hplain hup => (isOpenGpsPost_iff hd).1 (htls hplain hup), hsame,
        (requireAuth_iff hd).1 ⟨device, hauth⟩⟩
    · rintro ⟨hd, htls, hsame, hentitled⟩
      obtain ⟨device, hauth⟩ := (requireAuth_iff hd).2 hentitled
      exact ⟨device, fun hplain hup => (isOpenGpsPost_iff hd).2 (htls hplain hup), hsame, hauth, hd⟩
  · intro r id hserve
    exact requireAuth_device (serve_eq_routed_iff.1 hserve).2.2.1

end

/-! ## A paired browser -/

/-- A cookie as browsers send it. -/
structure Cookie where
  name : List Char
  value : List Char
  nameChars : ∀ c ∈ name, Text.isWhitespace c = false ∧ c ≠ ';' ∧ c ≠ '='
  valueChars : ∀ c ∈ value, Text.isWhitespace c = false ∧ c ≠ ';'

namespace Cookie

/-- The name and the value. -/
def text (c : Cookie) : List Char := c.name ++ '=' :: c.value

/-- The header of some cookies. -/
def header (cookies : List Cookie) : List Char := [';', ' '].intercalate (cookies.map text)

theorem text_chars {c : Cookie} {x : Char} (hx : x ∈ c.text) :
    Text.isWhitespace x = false ∧ x ≠ ';' := by
  rcases List.mem_append.1 hx with hx | hx
  · exact ⟨(c.nameChars x hx).1, (c.nameChars x hx).2.1⟩
  · rcases List.mem_cons.1 hx with rfl | hx
    · decide
    · exact c.valueChars x hx

/-- The pieces of a header: behind the first, each has a blank before it. -/
theorem splitOn_header (c : Cookie) (cookies : List Cookie) :
    (header (c :: cookies)).splitOn ';' = c.text :: cookies.map fun d => ' ' :: d.text := by
  rw [Fields.splitOn_eq_iff]
  refine ⟨by simp, ?_, ?_⟩
  · intro f hf hsemi
    rcases List.mem_cons.1 hf with rfl | hf
    · exact (text_chars hsemi).2 rfl
    · obtain ⟨d, -, rfl⟩ := List.mem_map.1 hf
      rcases List.mem_cons.1 hsemi with hblank | hsemi
      · cases hblank
      · exact (text_chars hsemi).2 rfl
  · induction cookies generalizing c with
    | nil => simp [header]
    | cons d cookies ih =>
      have hd := ih d
      simp only [header, List.map_cons] at hd ⊢
      rw [List.intercalate_cons_cons, List.intercalate_cons_cons, hd]
      cases cookies with
      | nil => simp
      | cons e cookies =>
        rw [List.map_cons, List.intercalate_cons_cons, List.intercalate_cons_cons]
        simp

/-- A text without white space is as it was after trimming. -/
theorem trimChars_eq_self {cs : List Char} (h : ∀ c ∈ cs, Text.isWhitespace c = false) :
    Text.trimChars cs = cs := by
  have hdrop : ∀ l : List Char, (∀ c ∈ l, Text.isWhitespace c = false) →
      l.dropWhile Text.isWhitespace = l := by
    intro l hl
    cases l with
    | nil => rfl
    | cons c l => exact List.dropWhile_cons_of_neg (by rw [hl c List.mem_cons_self]; decide)
  rw [Text.trimChars, hdrop cs h, List.rdropWhile, hdrop _ fun c hc => h c (List.mem_reverse.1 hc),
    List.reverse_reverse]

/-- One piece, read. -/
theorem read_text (c : Cookie) (name : List Char) :
    ((Fields.splitOnce '=' (Text.trimChars c.text)).bind fun (k, v) =>
      if Text.trimChars k = name then some (Text.trimChars v) else none) =
      if c.name = name then some c.value else none := by
  have hname : ∀ x ∈ c.name, (x ≠ '=') := fun x hx => (c.nameChars x hx).2.2
  have hsplit : Fields.splitOnce '=' c.text = some (c.name, c.value) := by
    unfold Fields.splitOnce text
    rw [List.dropWhile_append_of_pos (by simpa using hname),
      List.takeWhile_append_of_pos (by simpa using hname)]
    simp
  rw [trimChars_eq_self fun x hx => (text_chars hx).1, hsplit, Option.bind_some]
  dsimp only
  rw [trimChars_eq_self fun x hx => (c.nameChars x hx).1,
    trimChars_eq_self fun x hx => (c.valueChars x hx).1]

/-- **A cookie is read out of a header** as the first of its name. -/
theorem cookieValue_header (cookies : List Cookie) (name : List Char) :
    cookieValue (header cookies) name = (cookies.find? (·.name = name)).map (·.value) := by
  have hall : ∀ cookies : List Cookie,
      (cookies.map fun d => ' ' :: d.text).findSome? (fun part =>
        (Fields.splitOnce '=' (Text.trimChars part)).bind fun (k, v) =>
          if Text.trimChars k = name then some (Text.trimChars v) else none) =
        (cookies.find? (·.name = name)).map (·.value) := by
    intro cookies
    induction cookies with
    | nil => rfl
    | cons d cookies ih =>
      rw [List.map_cons, List.findSome?_cons, Text.trimChars_cons (by decide), read_text, ih,
        List.find?_cons]
      by_cases hd : d.name = name <;> simp [hd]
  cases cookies with
  | nil => rfl
  | cons c cookies =>
    rw [cookieValue, splitOn_header, List.findSome?_cons, read_text, hall, List.find?_cons]
    by_cases hc : c.name = name <;> simp [hc]

end Cookie

open AuthState in
/-- **A paired browser is let in until it is revoked.** Where a device was given a cookie, and a
browser sends that, first of its name among its cookies, over TLS, what it asks for is answered, if
that is not open to all and no other site asks for it, by the handler it leads to with the device
known, exactly as long as the device is not revoked. -/
theorem paired_browser [B64] [Pbkdf2] {ops before later : List Op} {op : Op} {device : IssuedDevice}
    (hdrawn : (ops.filterMap drawnId).Nodup) (hops : ops = before ++ op :: later)
    (hgives : ((after before).apply op).2 = some device) {st : GateState} {request : GateRequest}
    {h : Handler} {texts : List (List Char)} {cookies : List Cookie} {cookie : Cookie}
    (hpairing : st.pairing = after ops) (htls : st.tls = true) (hkind : request.kind = .tls)
    (hcookies : request.cookie.bind WebRequest.headerText = some (Cookie.header cookies))
    (hfirst : cookies.find? (·.name = COOKIE_NAME) = some cookie)
    (hvalue : cookie.value = device.cookieValue.toList)
    (hd : dispatch request.path request.method = .handler h texts)
    (hclosed : h.opens texts = false) (hgps : h ≠ .postGps) (hsame : request.SameSite) (ran : Bool) :
    st.serve ran request = .routed (.handler h texts) (some device.id) ↔
      ∀ o ∈ later, o.write ≠ .revokeDevice device.id := by
  have htoken : request.token = some device.cookieValue := by
    rw [GateRequest.token, hcookies, Option.bind_some, Cookie.cookieValue_header, hfirst]
    simp [hvalue]
  rw [← authenticate_issued hdrawn hops hgives, ← hpairing, serve_eq_routed_iff]
  have hexempt : isExemptFromPairing request.path = false := by
    rw [← Bool.not_eq_true, isExempt_iff_opens hd, hclosed]
    decide
  have hposition : isOpenGpsPost st.toWebState request.toWebRequest = false := by
    rw [← Bool.not_eq_true, isOpenGpsPost_iff hd]
    exact fun hopen => hgps hopen.2
  have hnext : redirectToTls st.toWebState request.toWebRequest = .next :=
    redirectToTls_eq_next_iff.2 fun hplain => by rw [hkind] at hplain; cases hplain
  have hauth : st.requireAuth ran request = .ok (some device.id) ↔
      (st.pairing.authenticate device.cookieValue).map (·.id) = some device.id := by
    unfold GateState.requireAuth
    rw [hexempt, hposition, hkind, htoken, htls, Option.bind_some]
    cases st.pairing.authenticate device.cookieValue with
    | some d => simp
    | none =>
      simp only [Bool.false_eq_true, if_false, if_true, reduceCtorEq, Option.map_none]
      split <;> simp
  rw [hauth]
  exact ⟨fun hserve => hserve.2.2.1, fun hid => ⟨hnext, hsame, hid, hd⟩⟩

/-- The cookie of a token. -/
def Cookie.issued (raw : Vector UInt8 32) : Cookie where
  name := COOKIE_NAME
  value := Base64.encodeUrl raw.toList
  nameChars := forall_of_all (by decide)
  valueChars c hc := by
    have hall : ∀ c ∈ Base64.alphabet.map Base64.urlChar, Text.isWhitespace c = false ∧ c ≠ ';' :=
      forall_of_all (by decide +kernel)
    exact hall c (Base64.mem_of_mem_encodeUrl hc)

/-- Letters are read from a header as they are. -/
theorem headerText_eq {cs : List Char} (h : ∀ c ∈ cs, 32 ≤ c.toNat ∧ c.toNat < 127) :
    WebRequest.headerText (cs.map fun c => UInt8.ofNat c.toNat) = some cs := by
  have hbyte : ∀ c ∈ cs, (UInt8.ofNat c.toNat).toNat = c.toNat := by
    intro c hc
    have hlt := (h c hc).2
    rw [UInt8.toNat_ofNat']
    omega
  rw [WebRequest.headerText, if_pos]
  · rw [List.map_map]
    have hid : ∀ c ∈ cs, Char.ofNat (UInt8.ofNat c.toNat).toNat = id c := fun c hc => by
      rw [hbyte c hc, Char.ofNat_toNat, id]
    exact congrArg some ((List.map_congr_left hid).trans (List.map_id cs))
  · rw [List.all_eq_true]
    intro b hb
    obtain ⟨c, hc, rfl⟩ := List.mem_map.1 hb
    have hrange := h c hc
    have hlow : (32 : UInt8) ≤ UInt8.ofNat c.toNat := by
      rw [UInt8.le_iff_toNat_le, hbyte c hc]
      exact hrange.1
    have hhigh : UInt8.ofNat c.toNat < (127 : UInt8) := by
      rw [UInt8.lt_iff_toNat_lt, hbyte c hc]
      exact hrange.2
    simp [hlow, hhigh]

/-- A browser that is paired. -/
def pairsBrowser : Op := ⟨.pairWithCode none "", .ok (Vector.replicate 32 0), ""⟩

/-- What it asks for over TLS. -/
def readsConfig : GateRequest where
  listener := some .tls
  method := "GET"
  host := none
  pathAndQuery := some ⟨"/api/config".toList, .inr (.inl (by decide)), by decide⟩
  cookie := some ((Cookie.header [Cookie.issued (Vector.replicate 32 0)]).map fun c =>
    UInt8.ofNat c.toNat)
  authorization := none
  origin := none
  secFetchSite := none

/-- A unit with the state of pairing, and TLS. -/
def unitWith (pairing : AuthState) : GateState where
  ownAddresses := []
  frontDoorAlias := none
  wifiIp := none
  tls := true
  gpsApiOpen := false
  gpsMode := .disabled
  tlsPort := 8443
  pairing
  webUsers := []

theorem paired_browser_reads :
    @GateState.serve b64 ⟨fun _ _ => false⟩ (unitWith (AuthState.after [pairsBrowser])) true readsConfig =
      .routed (.handler .getConfig []) (some (issueToken (Vector.replicate 32 0)).id) := by
  have hchars : ∀ c ∈ Cookie.header [Cookie.issued (Vector.replicate 32 0)],
      32 ≤ c.toNat ∧ c.toNat < 127 := by
    have hname : ∀ c ∈ COOKIE_NAME ++ ['='], 32 ≤ c.toNat ∧ c.toNat < 127 :=
      forall_of_all (by decide)
    have hvalue : ∀ c ∈ Base64.alphabet.map Base64.urlChar, 32 ≤ c.toNat ∧ c.toNat < 127 :=
      forall_of_all (by decide +kernel)
    intro c hc
    rw [Cookie.header, List.map_singleton, List.intercalate_singleton, Cookie.text] at hc
    rcases List.mem_append.1 hc with hc | hc
    · exact hname c (List.mem_append_left _ hc)
    · rcases List.mem_cons.1 hc with rfl | hc
      · exact hname '=' (by simp)
      · exact hvalue c (Base64.mem_of_mem_encodeUrl hc)
  refine (@paired_browser b64 ⟨fun _ _ => false⟩ [pairsBrowser] [] [] pairsBrowser ⟨_, _, _⟩ ?_ rfl rfl
    (unitWith (AuthState.after [pairsBrowser])) readsConfig .getConfig [] _ _ rfl rfl rfl
    (headerText_eq hchars) rfl ?_ ?_ rfl ?_ (.reads (by decide)) true).2 ?_
  · exact List.nodup_singleton _
  · exact String.toList_ofList.symm
  · decide +kernel
  · exact Handler.noConfusion
  · exact fun o ho => absurd ho List.not_mem_nil

end Rayhunter.Auth
