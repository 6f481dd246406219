import Mathlib.Data.List.Nodup
import Rayhunter.Auth.Passwords
import Rayhunter.Auth.Store
import Rayhunter.Lib.Base64
import Rayhunter.Lib.Hex

/-!
# The cookie of a trusted browser

What `issue_token` of `daemon/src/pairing.rs` makes for a browser and what `authenticate` makes of a
cookie. The store holds the digest of a token, and finds the device by the first eight bytes of it.
A cookie is taken for a device exactly as long as a token with its digest has been issued and that
device not been revoked since (`authenticate_iff`).
-/

namespace Rayhunter.Auth

/-! ## Tokens -/

/-- `hex` (`pairing.rs:287`). -/
def hex (bytes : List UInt8) : String := String.ofList (bytes.flatMap Hex.byte)

/-- `Sha256::digest`, of a text. -/
def digest (s : String) : List UInt8 := (Sha256.hash (utf8 s)).toList

/-- `issue_token` (`pairing.rs:332`), with the bytes that were drawn, in base64 without padding. -/
def issueToken (raw : Vector UInt8 32) : Token :=
  let value := String.ofList (Base64.encodeUrl raw.toList)
  { value, sha256 := hex (digest value), id := hex ((digest value).take 8) }

/-- `ct_eq` (`pairing.rs:276`). -/
def ctEq (a b : List UInt8) : Bool :=
  if a.length ≠ b.length then false else difference a b = 0

/-- `authenticate` (`pairing.rs:1005`), which refreshes the record of the device behind it. -/
def AuthState.authenticate (s : AuthState) (cookieToken : String) : Option TrustedDevice :=
  if cookieToken = "" ∨ 128 < cookieToken.utf8ByteSize then none
  else
    let id := hex ((digest cookieToken).take 8)
    let wanted := hex (digest cookieToken)
    match s.devices.find? (·.id = id) with
    | none => none
    | some found => if ctEq (utf8 found.tokenSha256) (utf8 wanted) then some found else none

theorem ctEq_iff {a b : List UInt8} : ctEq a b = true ↔ a = b := by
  unfold ctEq
  split
  · next hlength => exact iff_of_false Bool.false_ne_true fun h => hlength (congrArg List.length h)
  · next hlength => rw [decide_eq_true_eq, difference_eq_zero_iff (not_not.1 hlength)]

theorem hex_injective {a b : List UInt8} (h : hex a = hex b) : a = b := by
  have hchars : a.flatMap Hex.byte = b.flatMap Hex.byte := by
    simpa [hex] using congrArg String.toList h
  clear h
  induction a generalizing b with
  | nil =>
    cases b with
    | nil => rfl
    | cons y b => cases hchars
  | cons x a ih =>
    cases b with
    | nil => cases hchars
    | cons y b =>
      obtain ⟨hbyte, hrest⟩ := List.append_inj hchars (rfl : (Hex.byte x).length = _)
      rw [Hex.byte_injective hbyte, ih hrest]

theorem utf8_injective {s t : String} (h : utf8 s = utf8 t) : s = t := by
  have hs := fromUtf8_utf8 s
  rw [h, fromUtf8_utf8] at hs
  exact (Option.some.inj hs).symm

/-! ## Runs -/

/-- A change of the store that is asked for, the bytes that are drawn for it, and when. -/
structure Op where
  write : Write
  raw : Except String (Vector UInt8 32)
  now : String

/-- The token that is drawn. -/
def Op.token (op : Op) : Except String Token := op.raw.map issueToken

namespace AuthState

/-- The store after a change, and the cookie it gives away. One that is refused changes nothing. -/
def apply (s : AuthState) (op : Op) : AuthState × Option IssuedDevice :=
  match op.write.change ⟨op.token, op.now⟩ s with
  | .ok r => r
  | .error _ => (s, none)

/-- The store after some changes, of which the first finds it empty. -/
def after (ops : List Op) : AuthState := ops.foldl (fun s op => (s.apply op).1) {}

/-- How the devices are found and checked. -/
def records (s : AuthState) : List (String × String) :=
  s.devices.map fun d => (d.id, d.tokenSha256)

/-- What a change does to the records. -/
inductive Effect (s : AuthState) (op : Op) : Prop
  /-- A device is put at the end, and its cookie given away. -/
  | issues (raw : Vector UInt8 32) (device : IssuedDevice) (drawn : op.raw = .ok raw)
      (notRevoke : ∀ id, op.write ≠ .revokeDevice id)
      (gives : (s.apply op).2 = some device) (id : device.id = (issueToken raw).id)
      (value : device.cookieValue = (issueToken raw).value)
      (puts : (s.apply op).1.records =
        s.records ++ [((issueToken raw).id, (issueToken raw).sha256)])
  /-- The records with an `id` are taken out. -/
  | revokes (id : String) (write : op.write = .revokeDevice id) (gives : (s.apply op).2 = none)
      (takes : (s.apply op).1.records = s.records.filter (·.1 ≠ id))
  | keeps (notRevoke : ∀ id, op.write ≠ .revokeDevice id) (gives : (s.apply op).2 = none)
      (keeps : (s.apply op).1.records = s.records)

variable {s s' : AuthState} {op : Op}

/-- A device that is added is recorded by its token. -/
theorem records_addDevice {deviceName : Option String} {userAgent : String} {issued : IssuedDevice}
    {drawn : Drawn} (h : s.addDevice drawn deviceName userAgent = .ok (s', issued)) :
    ∃ token, drawn.token = .ok token ∧ issued.id = token.id ∧ issued.cookieValue = token.value ∧
      s'.records = s.records ++ [(token.id, token.sha256)] := by
  unfold addDevice at h
  split at h
  · cases h
  · split at h
    · cases h
    · next token htoken =>
      cases h
      exact ⟨token, htoken, rfl, rfl, by rw [records, records, List.map_append]; rfl⟩

/-- A device that is changed in its name or in when it was seen is recorded as before. -/
theorem records_mapDevice {id : String} {f : TrustedDevice → TrustedDevice}
    (hf : ∀ d, (f d).id = d.id ∧ (f d).tokenSha256 = d.tokenSha256)
    (h : s.mapDevice id f = some s') : s'.records = s.records := by
  obtain ⟨i, -, rfl⟩ := Option.map_eq_some_iff.1 h
  refine List.ext_getElem? fun j => ?_
  simp only [records, List.getElem?_map, List.getElem?_modify]
  cases s.devices[j]? with
  | none => rfl
  | some d =>
    split
    · exact congrArg some (Prod.ext (hf d).1 (hf d).2)
    · rfl

/-- A change that adds a device, if it does, and sets other fields. -/
theorem effect_of_add (hwrite : ∀ id, op.write ≠ .revokeDevice id) (deviceName : Option String)
    (userAgent : String) {f : AuthState → AuthState} (hf : ∀ s, (f s).devices = s.devices)
    (h : op.write.change ⟨op.token, op.now⟩ s =
      (s.addDevice ⟨op.token, op.now⟩ deviceName userAgent).map fun r => (f r.1, some r.2)) :
    Effect s op := by
  cases hadd : s.addDevice ⟨op.token, op.now⟩ deviceName userAgent with
  | error e =>
    rw [hadd] at h
    have happly : s.apply op = (s, none) := by rw [apply, h]; rfl
    exact .keeps hwrite (by rw [happly]) (by rw [happly])
  | ok r =>
    rw [hadd] at h
    have happly : s.apply op = (f r.1, some r.2) := by rw [apply, h]; rfl
    obtain ⟨token, htoken, hid, hvalue, hrecords⟩ := records_addDevice hadd
    obtain ⟨raw, hraw, rfl⟩ : ∃ raw, op.raw = .ok raw ∧ issueToken raw = token := by
      cases hraw : op.raw with
      | error e => simp [Op.token, hraw, Except.map] at htoken
      | ok raw => exact ⟨raw, rfl, by simpa [Op.token, hraw, Except.map] using htoken⟩
    refine .issues raw r.2 hraw hwrite (by rw [happly]) hid hvalue ?_
    rw [happly, ← hrecords, records, hf, records]

/-- A change that changes no record. -/
theorem effect_of_keep (hwrite : ∀ id, op.write ≠ .revokeDevice id) {r : Except PairError AuthState}
    (hr : ∀ s', r = .ok s' → s'.records = s.records)
    (h : op.write.change ⟨op.token, op.now⟩ s = r.map (·, none)) : Effect s op := by
  cases r with
  | error e =>
    have happly : s.apply op = (s, none) := by rw [apply, h]; rfl
    exact .keeps hwrite (by rw [happly]) (by rw [happly])
  | ok s' =>
    have happly : s.apply op = (s', none) := by rw [apply, h]; rfl
    exact .keeps hwrite (by rw [happly]) (by rw [happly]; exact hr s' rfl)

/-- Revoking takes the records out, if there are any. -/
theorem effect_of_revoke {id : String} (hwrite : op.write = .revokeDevice id) : Effect s op := by
  have hchange : op.write.change ⟨op.token, op.now⟩ s = (s.revokeDevice id).map (·, none) := by
    rw [hwrite, Write.change]
  have hfilter : (s.devices.filter (·.id ≠ id)).map (fun d => (d.id, d.tokenSha256)) =
      s.records.filter (·.1 ≠ id) := by
    rw [records, List.filter_map]
    rfl
  unfold revokeDevice at hchange
  dsimp only at hchange
  split at hchange
  · next hlength =>
    have happly : s.apply op = (s, none) := by rw [apply, hchange]; rfl
    refine .revokes id hwrite (by rw [happly]) ?_
    rw [happly, ← hfilter, List.filter_eq_self.2 (List.length_filter_eq_length_iff.1 hlength), records]
  · have happly : s.apply op = ({ s with devices := s.devices.filter (·.id ≠ id) }, none) := by
      rw [apply, hchange]
      rfl
    refine .revokes id hwrite (by rw [happly]) ?_
    rw [happly, records, hfilter]

/-- **What a change does** is one of the three. -/
theorem effect (s : AuthState) (op : Op) : Effect s op := by
  obtain ⟨write, raw, now⟩ := op
  cases write with
  | finishSetup hash deviceName userAgent =>
    by_cases hset : (s.setupComplete || !s.devices.isEmpty) = true
    · refine effect_of_keep (r := .error .alreadyComplete) (by simp) (by simp) ?_
      simp [Write.change, finishSetup, hset, Except.map]
    · refine effect_of_add (by simp) deviceName userAgent
        (f := fun s => { s with ownerPassphraseHash := some hash, setupComplete := true })
        (fun _ => rfl) ?_
      rw [Write.change, finishSetup, if_neg hset]
      cases s.addDevice _ deviceName userAgent <;> rfl
  | changePassphrase hash =>
    exact effect_of_keep (r := .ok { s with ownerPassphraseHash := some hash }) (by simp)
      (fun _ h => by cases h; rfl) rfl
  | pairWithCode deviceName userAgent =>
    exact effect_of_add (by simp) deviceName userAgent (f := id) (fun _ => rfl) rfl
  | pairWithPassphrase deviceName userAgent =>
    refine effect_of_add (by simp) deviceName userAgent
      (f := fun s => { s with setupComplete := true }) (fun _ => rfl) ?_
    rw [Write.change, pairWithPassphrase]
    cases s.addDevice _ deviceName userAgent <;> rfl
  | pairWithAccount hash deviceName userAgent =>
    refine effect_of_add (by simp) deviceName userAgent
      (f := fun s => { s with ownerPassphraseHash := s.ownerPassphraseHash.or hash,
                              setupComplete := true }) (fun _ => rfl) ?_
    rw [Write.change, pairWithAccount]
    cases s.addDevice _ deviceName userAgent <;> rfl
  | renameDevice id name =>
    refine effect_of_keep (r := s.renameDevice id name) (by simp) (fun s' h => ?_) rfl
    unfold renameDevice at h
    split at h
    · cases h
    · next hmap =>
      cases h
      refine records_mapDevice ?_ hmap
      intro d
      exact ⟨rfl, rfl⟩
  | revokeDevice id => exact effect_of_revoke rfl
  | touch id =>
    refine effect_of_keep (r := .ok (s.touch id now)) (by simp) (fun s' h => ?_) rfl
    cases h
    unfold touch
    cases hmap : s.mapDevice id fun d => { d with lastSeen := now } with
    | none => rfl
    | some s' =>
      refine records_mapDevice ?_ hmap
      intro d
      exact ⟨rfl, rfl⟩

/-! ## Which cookies are taken -/

/-- After some changes, one gives away the cookie of a device with this `id`, and the device is not
revoked after that. -/
structure Trusted (ops : List Op) (id : String) (device : IssuedDevice) : Prop where
  since : ∃ before op later, ops = before ++ op :: later ∧ ((after before).apply op).2 = some device ∧
    ∀ o ∈ later, o.write ≠ .revokeDevice id
  id_eq : device.id = id

theorem after_concat (ops : List Op) (op : Op) :
    after (ops ++ [op]) = ((after ops).apply op).1 := by
  rw [after, List.foldl_append]
  rfl

/-- Who is trusted after one more change. -/
theorem trusted_concat {ops : List Op} {id : String} {device : IssuedDevice} :
    Trusted (ops ++ [op]) id device ↔
      ((after ops).apply op).2 = some device ∧ device.id = id ∨
        Trusted ops id device ∧ op.write ≠ .revokeDevice id := by
  constructor
  · rintro ⟨⟨before, o, later, hops, hgives, hlater⟩, hid⟩
    rcases List.eq_nil_or_concat later with rfl | ⟨later, last, rfl⟩
    · obtain ⟨rfl, hlast⟩ := List.append_inj' hops rfl
      obtain rfl := List.singleton_inj.1 hlast
      exact .inl ⟨hgives, hid⟩
    · rw [List.concat_eq_append, ← List.cons_append, ← List.append_assoc] at hops
      obtain ⟨rfl, hlast⟩ := List.append_inj' hops rfl
      obtain rfl := List.singleton_inj.1 hlast
      refine .inr ⟨⟨⟨before, o, later, rfl, hgives, fun x hx => hlater x ?_⟩, hid⟩, hlater op ?_⟩
      · simp [hx]
      · simp
  · rintro (⟨hgives, hid⟩ | ⟨⟨⟨before, o, later, rfl, hgives, hlater⟩, hid⟩, hop⟩)
    · exact ⟨⟨ops, op, [], rfl, hgives, fun o ho => absurd ho List.not_mem_nil⟩, hid⟩
    · refine ⟨⟨before, o, later ++ [op], by simp, hgives, fun x hx => ?_⟩, hid⟩
      rcases List.mem_append.1 hx with hx | hx
      · exact hlater x hx
      · exact List.mem_singleton.1 hx ▸ hop

/-- **The records are those of the trusted devices**, found by the beginning of the digest of their
tokens and checked by the whole of it. -/
theorem mem_records_iff {ops : List Op} {r : String × String} : r ∈ (after ops).records ↔
    ∃ device, Trusted ops r.1 device ∧ r.1 = hex ((digest device.cookieValue).take 8) ∧
      r.2 = hex (digest device.cookieValue) := by
  induction ops using List.reverseRecOn with
  | nil =>
    refine iff_of_false List.not_mem_nil ?_
    rintro ⟨device, ⟨⟨before, op, later, hops, -⟩, -⟩, -⟩
    simp at hops
  | append_singleton ops op ih =>
    rw [after_concat]
    cases effect (after ops) op with
    | issues raw device drawn notRevoke gives id value puts =>
      rw [puts, List.mem_append, ih, List.mem_singleton]
      constructor
      · rintro (⟨d, htrusted, hr⟩ | rfl)
        · exact ⟨d, trusted_concat.2 (.inr ⟨htrusted, notRevoke _⟩), hr⟩
        · refine ⟨device, trusted_concat.2 (.inl ⟨gives, id⟩), ?_⟩
          rw [value]
          exact ⟨rfl, rfl⟩
      · rintro ⟨d, htrusted, hr⟩
        rcases trusted_concat.1 htrusted with ⟨hgives, hid⟩ | ⟨htrusted, -⟩
        · obtain rfl := Option.some.inj (gives.symm.trans hgives)
          rw [value] at hr
          exact .inr (Prod.ext hr.1 hr.2)
        · exact .inl ⟨d, htrusted, hr⟩
    | revokes id write gives takes =>
      rw [takes, List.mem_filter, ih, decide_eq_true_eq]
      constructor
      · rintro ⟨⟨d, htrusted, hr⟩, hne⟩
        refine ⟨d, trusted_concat.2 (.inr ⟨htrusted, ?_⟩), hr⟩
        rw [write]
        intro heq
        cases heq
        exact hne rfl
      · rintro ⟨d, htrusted, hr⟩
        rcases trusted_concat.1 htrusted with ⟨hgives, -⟩ | ⟨htrusted, hne⟩
        · rw [gives] at hgives
          cases hgives
        · exact ⟨⟨d, htrusted, hr⟩, fun heq => hne (by rw [write, heq])⟩
    | keeps notRevoke gives keeps =>
      rw [keeps, ih]
      refine exists_congr fun d => and_congr_left fun _ => ?_
      rw [trusted_concat, gives]
      exact ⟨fun h => .inr ⟨h, notRevoke _⟩, by rintro (⟨h, -⟩ | ⟨h, -⟩); cases h; exact h⟩

/-- The `id` that is drawn for a change. -/
def drawnId (op : Op) : Option String :=
  match op.raw with
  | .ok raw => some (issueToken raw).id
  | .error _ => none

/-- The records are told apart by the `id`s that were drawn. -/
theorem ids_sublist (ops : List Op) :
    ((after ops).records.map Prod.fst).Sublist (ops.filterMap drawnId) := by
  induction ops using List.reverseRecOn with
  | nil => exact .slnil
  | append_singleton ops op ih =>
    rw [after_concat, List.filterMap_append]
    cases effect (after ops) op with
    | issues raw device drawn notRevoke gives id value puts =>
      rw [puts, List.map_append]
      refine ih.append ?_
      simp [drawnId, drawn]
    | revokes id write gives takes =>
      rw [takes]
      exact ((List.filter_sublist.map Prod.fst).trans ih).trans (List.sublist_append_left _ _)
    | keeps notRevoke gives keeps =>
      rw [keeps]
      exact ih.trans (List.sublist_append_left _ _)

/-- The device with an `id`, where no two have the same. -/
theorem find?_id (h : (s.records.map Prod.fst).Nodup) {id : String} {d : TrustedDevice} :
    s.devices.find? (·.id = id) = some d ↔ d ∈ s.devices ∧ d.id = id := by
  have hids : (s.devices.map (·.id)).Nodup := by
    rw [records, List.map_map] at h
    exact h
  constructor
  · intro hfind
    exact ⟨List.mem_of_find?_eq_some hfind, of_decide_eq_true (List.find?_some hfind :)⟩
  · rintro ⟨hmem, hid⟩
    obtain ⟨d', hfind⟩ := Option.isSome_iff_exists.1
      (List.find?_isSome.2 ⟨d, hmem, decide_eq_true hid⟩ :
        (s.devices.find? (·.id = id)).isSome = true)
    have hid' : d'.id = id := of_decide_eq_true (List.find?_some hfind :)
    rw [hfind, List.inj_on_of_nodup_map hids (List.mem_of_find?_eq_some hfind) hmem
      (hid'.trans hid.symm)]

/-- A cookie is taken for a device where its digest is recorded. -/
theorem authenticate_iff_records (h : (s.records.map Prod.fst).Nodup) {value id : String} :
    (s.authenticate value).map (·.id) = some id ↔
      value ≠ "" ∧ value.utf8ByteSize ≤ 128 ∧ id = hex ((digest value).take 8) ∧
        (id, hex (digest value)) ∈ s.records := by
  unfold authenticate
  split
  · next hsize =>
    refine iff_of_false (by simp) ?_
    rintro ⟨hne, hle, -⟩
    rcases hsize with hempty | hlong
    · exact hne hempty
    · omega
  · next hsize =>
    obtain ⟨hne, hle⟩ := not_or.1 hsize
    dsimp only
    constructor
    · intro hid
      split at hid
      · cases hid
      · next d hfind =>
        obtain ⟨hmem, hd⟩ := (find?_id h).1 hfind
        split at hid
        · next heq =>
          have hsha := utf8_injective (ctEq_iff.1 heq)
          have hid := Option.some.inj hid
          refine ⟨hne, Nat.le_of_not_lt hle, hid.symm.trans hd, ?_⟩
          rw [← hid, ← hsha]
          exact List.mem_map_of_mem hmem
        · cases hid
    · rintro ⟨-, -, rfl, hrecord⟩
      obtain ⟨d, hmem, hd⟩ := List.mem_map.1 hrecord
      obtain ⟨hid, hsha⟩ := Prod.mk.inj hd
      rw [(find?_id h).2 ⟨hmem, hid⟩]
      dsimp only
      rw [if_pos (ctEq_iff.2 (congrArg utf8 hsha)), Option.map_some, hid]

/-- The `id` of a device is the beginning of the digest of its cookie. -/
theorem issued_id {device : IssuedDevice} (h : (s.apply op).2 = some device) :
    device.id = hex ((digest device.cookieValue).take 8) ∧ drawnId op = some device.id ∧
      ∃ raw, device.cookieValue = (issueToken raw).value := by
  cases effect s op with
  | issues raw device' drawn _ gives id value _ =>
    obtain rfl := Option.some.inj (gives.symm.trans h)
    rw [id, value, drawnId, drawn]
    exact ⟨rfl, rfl, raw, rfl⟩
  | revokes _ _ gives _ | keeps _ gives _ =>
    rw [gives] at h
    cases h

/-- **A cookie is taken for a device** exactly where a token with its digest was issued for that and
the device not revoked since, as long as no two tokens were drawn whose digests begin alike. -/
theorem authenticate_iff {ops : List Op} (hdrawn : (ops.filterMap drawnId).Nodup)
    {value id : String} :
    ((after ops).authenticate value).map (·.id) = some id ↔
      value ≠ "" ∧ value.utf8ByteSize ≤ 128 ∧
        ∃ device, Trusted ops id device ∧ digest device.cookieValue = digest value := by
  rw [authenticate_iff_records ((ids_sublist ops).nodup hdrawn), mem_records_iff]
  refine and_congr_right fun _ => and_congr_right fun _ => ?_
  constructor
  · rintro ⟨-, device, htrusted, -, hdigest⟩
    exact ⟨device, htrusted, (hex_injective hdigest).symm⟩
  · rintro ⟨device, htrusted, hdigest⟩
    obtain ⟨before, op, later, -, hgives, -⟩ := htrusted.since
    have hid := (issued_id hgives).1
    rw [htrusted.id_eq] at hid
    exact ⟨hdigest ▸ hid, device, htrusted, hid, by rw [hdigest]⟩

/-- Where no `id` is drawn twice, a change that draws one stands in one place. -/
theorem split_unique {ops b₁ b₂ l₁ l₂ : List Op} {o₁ o₂ : Op} {id : String}
    (hdrawn : (ops.filterMap drawnId).Nodup) (h₁ : ops = b₁ ++ o₁ :: l₁)
    (h₂ : ops = b₂ ++ o₂ :: l₂) (hid₁ : drawnId o₁ = some id) (hid₂ : drawnId o₂ = some id) :
    l₁ = l₂ := by
  induction b₁ generalizing b₂ ops with
  | nil =>
    cases b₂ with
    | nil => simp_all
    | cons o b₂ =>
      obtain ⟨rfl, hl₁⟩ := List.cons.inj (h₁.symm.trans h₂)
      rw [h₁, List.nil_append, List.filterMap_cons_some hid₁, List.nodup_cons] at hdrawn
      refine absurd (List.mem_filterMap.2 ⟨o₂, ?_, hid₂⟩) hdrawn.1
      simp [hl₁]
  | cons o b₁ ih =>
    cases b₂ with
    | nil =>
      obtain ⟨rfl, hl₂⟩ := List.cons.inj (h₂.symm.trans h₁)
      rw [h₂, List.nil_append, List.filterMap_cons_some hid₂, List.nodup_cons] at hdrawn
      refine absurd (List.mem_filterMap.2 ⟨o₁, ?_, hid₁⟩) hdrawn.1
      simp [hl₂]
    | cons o' b₂ =>
      obtain ⟨rfl, hrest⟩ := List.cons.inj (h₁.symm.trans h₂)
      rw [h₁, List.cons_append] at hdrawn
      exact ih (hdrawn.sublist ((List.sublist_cons_self _ _).filterMap _)) rfl hrest

/-- A token is neither empty nor too long to be looked at. -/
theorem issueToken_value (raw : Vector UInt8 32) :
    (issueToken raw).value ≠ "" ∧ (issueToken raw).value.utf8ByteSize ≤ 128 := by
  have hvalue : (issueToken raw).value = String.ofList (Base64.encodeUrl raw.toList) := rfl
  have hraw : raw.toList.length = 32 := raw.length_toList
  rw [hvalue]
  constructor
  · intro hempty
    refine Base64.encodeUrl_ne_nil (fun hnil => ?_) (String.ofList_eq_empty_iff.1 hempty)
    rw [hnil] at hraw
    cases hraw
  · have hlength := Base64.length_encodeUrl_le raw.toList
    rw [hraw] at hlength
    -- every character is one byte
    have hascii : (Base64.alphabet.map Base64.urlChar).all (·.utf8Size = 1) = true := by
      decide +kernel
    have hall : ∀ c ∈ Base64.alphabet.map Base64.urlChar, c.utf8Size = 1 := fun c hc =>
      of_decide_eq_true (List.all_eq_true.1 hascii c hc)
    have hsizes : (Base64.encodeUrl raw.toList).map Char.utf8Size =
        List.replicate (Base64.encodeUrl raw.toList).length 1 := by
      rw [← List.map_const']
      exact List.map_congr_left fun c hc => hall c (Base64.mem_of_mem_encodeUrl hc)
    rw [Text.utf8ByteSize_ofList, hsizes, List.sum_replicate_nat]
    omega

/-- The cookie a browser was given is taken for its device until that is revoked. -/
theorem authenticate_issued {ops before later : List Op} {op : Op} {device : IssuedDevice}
    (hdrawn : (ops.filterMap drawnId).Nodup) (hops : ops = before ++ op :: later)
    (hgives : ((after before).apply op).2 = some device) :
    ((after ops).authenticate device.cookieValue).map (·.id) = some device.id ↔
      ∀ o ∈ later, o.write ≠ .revokeDevice device.id := by
  obtain ⟨-, hid, raw, hvalue⟩ := issued_id hgives
  rw [authenticate_iff hdrawn]
  constructor
  · rintro ⟨-, -, device', ⟨⟨before', op', later', hops', hgives', hlater⟩, hid'⟩, -⟩
    have hsame := (issued_id hgives').2.1
    rw [hid'] at hsame
    rw [split_unique hdrawn hops hops' hid hsame]
    exact hlater
  · intro hlater
    obtain ⟨hne, hsize⟩ := issueToken_value raw
    rw [← hvalue] at hne hsize
    exact ⟨hne, hsize, device, ⟨⟨before, op, later, hops, hgives, hlater⟩, rfl⟩, rfl⟩

/-- **Cookies of a unit that starts with none.** Whatever is changed, a cookie is taken for a device
exactly where a token with its digest was issued for that and the device not revoked since; and the
cookie a browser was given is taken for its device until that is revoked, and not after. -/
theorem cookies_trusted (ops : List Op) (hdrawn : (ops.filterMap drawnId).Nodup) :
    (∀ value id, ((after ops).authenticate value).map (·.id) = some id ↔
      value ≠ "" ∧ value.utf8ByteSize ≤ 128 ∧
        ∃ device, Trusted ops id device ∧ digest device.cookieValue = digest value) ∧
    ∀ before op later device, ops = before ++ op :: later →
      ((after before).apply op).2 = some device →
        (((after ops).authenticate device.cookieValue).map (·.id) = some device.id ↔
          ∀ o ∈ later, o.write ≠ .revokeDevice device.id) :=
  ⟨fun _ _ => authenticate_iff hdrawn, fun _ _ _ _ hops hgives =>
    authenticate_issued hdrawn hops hgives⟩

/-- A browser is paired and revoked. -/
def pairedThenRevoked : List Op :=
  [⟨.pairWithCode none "", .ok (Vector.replicate 32 0), ""⟩,
   ⟨.revokeDevice (issueToken (Vector.replicate 32 0)).id, .error "", ""⟩]

theorem cookies_trusted_revoked :
    ((after (pairedThenRevoked.take 1)).authenticate
        (issueToken (Vector.replicate 32 0)).value).map (·.id) =
      some (issueToken (Vector.replicate 32 0)).id ∧
    ((after pairedThenRevoked).authenticate
        (issueToken (Vector.replicate 32 0)).value).map (·.id) ≠
      some (issueToken (Vector.replicate 32 0)).id := by
  have hnodup : (pairedThenRevoked.filterMap drawnId).Nodup := List.nodup_singleton _
  constructor
  · refine ((cookies_trusted (pairedThenRevoked.take 1) hnodup).2 [] _ [] ⟨_, _, _⟩ rfl rfl).2 ?_
    intro o ho
    cases ho
  · intro hid
    exact ((cookies_trusted pairedThenRevoked hnodup).2 [] _ _ ⟨_, _, _⟩ rfl rfl).1 hid _
      List.mem_cons_self rfl

end AuthState

end Rayhunter.Auth
