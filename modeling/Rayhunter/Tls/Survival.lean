import Rayhunter.Lib.Reach
import Rayhunter.Tls.Identity

/-!
# The identity survives

Runs of `load_or_generate` and `TlsRenewer::check` on one directory, any of them stopped anywhere.
A directory is fresh until an authority is stored in it, which is its key first and then its
certificate, and settled from then on: the authority stays, and a leaf with its name as issuer has
been signed by it (`Sound`). So the next `load_or_generate` finds what it needs or makes it. The one
thing it cannot make is a leaf whose validity ends in 2050 or later, as `utc` knows `UtcTime` only
(`identity_survives_iff`).
-/

namespace Rayhunter.Tls

open Runs Pki

section
variable [Pki]

/-! ## Directories -/

/-- A certificate with the authority's name as issuer is signed by the authority. -/
def Signed (ca : Pair) (der : Der) : Prop :=
  ∀ cert caCert secret, fromDer der = some cert → fromDer ca.cert = some caCert →
    fromPkcs8Der ca.key = some secret →
    cert.tbsCertificate.issuer = caCert.tbsCertificate.subject →
    verify (publicKeyDer secret) cert = true

/-- No authority is stored, and no certificate in the name of one. -/
structure Fresh (d : Dir) : Prop where
  noAuthority : d .caCert = none
  leaf {der : Der} {cert : Certificate} (tag : List UInt8) : d .cert = some der →
    fromDer der = some cert → cert.tbsCertificate.issuer ≠ authorityName tag

/-- The authority is stored, and a leaf in its name is signed by it. -/
structure Settled (d : Dir) (ca : Pair) : Prop where
  cert : d .caCert = some ca.cert
  key : d .caKey = some ca.key
  pair : checkPair ca = .ok ()
  leaf {der : Der} : d .cert = some der → Signed ca der

/-- The directories runs leave behind. -/
inductive Sound (d : Dir) : Prop
  | fresh : Fresh d → Sound d
  | settled {ca : Pair} : Settled d ca → Sound d

@[simp] theorem Dir.put_self (d : Dir) (f : FileName) (der : Der) : d.put f der f = some der :=
  if_pos rfl

theorem Dir.put_of_ne (d : Dir) {f g : FileName} (der : Der) (h : g ≠ f) :
    d.put f der g = d g := if_neg h

/-! ## Writing -/

/-- Writing a key and its certificate leaves the directory as it was, with the key, or with both;
it is the last where the run goes on. -/
theorem writePair_cases (io : Io) (d : Dir) (keyFile certFile : FileName) (pair : Pair) :
    (∃ stop, writePair io d keyFile certFile pair = (d, some stop)) ∨
    (∃ stop, writePair io d keyFile certFile pair = (d.put keyFile pair.key, some stop)) ∨
    ∃ stop, writePair io d keyFile certFile pair =
      ((d.put keyFile pair.key).put certFile pair.cert, stop) := by
  have hone : ∀ (d : Dir) (f : FileName) (der : Der),
      (∃ stop, writeAtomic io d f der = (d, some stop)) ∨
      (∃ stop, writeAtomic io d f der = (d.put f der, some stop)) ∨
      writeAtomic io d f der = (d.put f der, none) := by
    intro d f der
    rw [writeAtomic]
    split
    · exact .inr (.inr rfl)
    · exact .inl ⟨_, rfl⟩
    · next renamed _ =>
      cases renamed with
      | true => exact .inr (.inl ⟨_, rfl⟩)
      | false => exact .inl ⟨_, rfl⟩
  rw [writePair]
  rcases hone d keyFile pair.key with ⟨stop, h⟩ | ⟨stop, h⟩ | h
  · exact .inl ⟨stop, by rw [h]⟩
  · exact .inr (.inl ⟨stop, by rw [h]⟩)
  · rw [h]
    rcases hone (d.put keyFile pair.key) certFile pair.cert with ⟨stop, h'⟩ | ⟨stop, h'⟩ | h'
    · exact .inr (.inl ⟨stop, h'⟩)
    · exact .inr (.inr ⟨some stop, h'⟩)
    · exact .inr (.inr ⟨none, h'⟩)

/-- Where nothing fails both are written. -/
@[simp] theorem writePair_ok (d : Dir) (keyFile certFile : FileName) (pair : Pair) :
    writePair {} d keyFile certFile pair =
      ((d.put keyFile pair.key).put certFile pair.cert, none) := rfl

/-! ## Making certificates -/

/-- A new authority's key and certificate belong together, and it has an authority's name. -/
theorem generateCa_spec (hl : Pki.Lawful) (draws : Draws) :
    checkPair (generateCa draws) = .ok () ∧
      ∃ cert tag, fromDer (generateCa draws).cert = some cert ∧
        cert.tbsCertificate.subject = authorityName tag := by
  constructor
  · simp [checkPair, generateCa, caTbs, hl.fromDer_toDer, hl.fromPkcs8Der_toPkcs8Der, build]
  · exact ⟨_, draws.caTag, hl.fromDer_toDer _, rfl⟩

/-- A leaf can be issued: its validity ends before 2050. -/
def Issuable (now : Option Int) : Prop :=
  (leafStart now + LEAF_DAYS * day) / 1000000000 < utcTimeEnd

/-- The clock has been of 2025 or later. -/
def Plausible (now : Option Int) : Prop := ∀ t ∈ now, plausibleYear * 1000000000 ≤ t

omit [Pki] in
theorem plausible_plausibleNow (clock : Int) : Plausible (plausibleNow clock) := by
  intro t ht
  rw [plausibleNow] at ht
  split at ht
  · cases ht
    assumption
  · cases ht

/-- The times before 2050 can be written. -/
theorem utc_eq_some (hl : Pki.Lawful) {t : Int} {secs : Nat} :
    utc t = some secs ↔ t / 1000000000 < utcTimeEnd ∧ secs = (t / 1000000000).toNat := by
  rw [utc, hl.fromUnixDuration_eq, utcTimeEnd]
  constructor
  · intro h
    split at h
    · cases h
      exact ⟨by omega, rfl⟩
    · cases h
  · rintro ⟨h, rfl⟩
    exact if_pos (by omega)

/-- A leaf an authority has issued serves. -/
structure Issued (ca leaf : Pair) (addresses : List IpAddr) (now : Option Int) : Prop where
  pair : checkPair leaf = .ok ()
  due : leafNeedsReissue leaf.cert ca.cert addresses now = none
  signed : ∃ cert secret, fromDer leaf.cert = some cert ∧ fromPkcs8Der ca.key = some secret ∧
    verify (publicKeyDer secret) cert = true

/-- An authority that is stored has a certificate and a key. -/
theorem checkPair_parses {pair : Pair} (h : checkPair pair = .ok ()) :
    (∃ cert, fromDer pair.cert = some cert) ∧ ∃ secret, fromPkcs8Der pair.key = some secret := by
  rw [checkPair] at h
  split at h
  · cases h
  · cases h
  · next cert secret hc hk => exact ⟨⟨cert, hc⟩, secret, hk⟩

/-- The addresses a leaf is issued for are in it. -/
theorem mem_subjectAltAddresses (ca : Certificate) {addresses : List IpAddr} (draws : Draws)
    (notBefore notAfter : Nat) (signer : SecretKey) {ip : IpAddr} (h : ip ∈ addresses) :
    ip ∈ subjectAltAddresses (build signer (leafTbs ca addresses draws notBefore notAfter)) := by
  refine List.mem_filterMap.2 ⟨.ipAddress ip.octets, ?_, dif_pos ip.length⟩
  exact List.mem_cons_of_mem _ (List.mem_map.2 ⟨ip, h, rfl⟩)

/-- A new leaf is not due for another. -/
theorem leafTbs_not_due (hl : Pki.Lawful) {ca : Pair} {caCert : Certificate}
    (hc : fromDer ca.cert = some caCert) (addresses : List IpAddr) {now : Option Int}
    (hnow : Plausible now) (draws : Draws) (signer : SecretKey) {notBefore notAfter : Nat}
    (hb : utc (leafStart now) = some notBefore)
    (ha : utc (leafStart now + LEAF_DAYS * day) = some notAfter) :
    leafNeedsReissue (toDer (build signer (leafTbs caCert addresses draws notBefore notAfter)))
      ca.cert addresses now = none := by
  have haddr : (addresses.any fun ip => ip ∉ subjectAltAddresses
      (build signer (leafTbs caCert addresses draws notBefore notAfter))) = false := by
    rw [List.any_eq_false]
    intro ip hip
    simpa using mem_subjectAltAddresses caCert draws notBefore notAfter signer hip
  obtain ⟨-, hbefore⟩ := (utc_eq_some hl).1 hb
  obtain ⟨-, hafter⟩ := (utc_eq_some hl).1 ha
  rw [leafNeedsReissue, hl.fromDer_toDer, hc]
  simp only
  rw [if_neg (fun h => h rfl), if_neg (by rw [haddr]; decide)]
  cases now with
  | none => rfl
  | some t =>
    have ht := hnow t rfl
    have hstart : leafStart (some t) = t - day := rfl
    rw [hstart] at hbefore hafter
    rw [plausibleYear] at ht
    simp only [day, LEAF_DAYS] at hbefore hafter
    have h₁ : ¬ t < (notBefore : Int) * 1000000000 := by omega
    have h₂ : ¬ t + RENEW_BEFORE_DAYS * day > (notAfter : Int) * 1000000000 := by
      simp only [RENEW_BEFORE_DAYS, day]
      omega
    show (if t < (notBefore : Int) * 1000000000 then _ else _) = none
    rw [if_neg h₁]
    exact if_neg h₂

/-- A leaf that is issued serves. -/
theorem issueLeaf_issued (hl : Pki.Lawful) {ca leaf : Pair} {addresses : List IpAddr}
    {now : Option Int} {draws : Draws} (hnow : Plausible now)
    (h : issueLeaf ca addresses now draws = .ok leaf) : Issued ca leaf addresses now := by
  rw [issueLeaf] at h
  split at h
  · cases h
  · cases h
  · next caCert caKey hc hk =>
    split at h
    · next notBefore notAfter hb ha =>
      cases h
      refine ⟨?_, leafTbs_not_due hl hc addresses hnow draws caKey hb ha, ?_⟩
      · simp [checkPair, hl.fromDer_toDer, hl.fromPkcs8Der_toPkcs8Der, build, leafTbs]
      · exact ⟨_, caKey, hl.fromDer_toDer _, hk, hl.verify_sign caKey _⟩
    · cases h

/-- A stored authority issues a leaf that ends before 2050, and no other. -/
theorem issueLeaf_ok_iff (hl : Pki.Lawful) {ca : Pair} (hca : checkPair ca = .ok ())
    (addresses : List IpAddr) (now : Option Int) (draws : Draws) :
    (∃ leaf, issueLeaf ca addresses now draws = .ok leaf) ↔ Issuable now := by
  obtain ⟨⟨caCert, hc⟩, secret, hk⟩ := checkPair_parses hca
  rw [issueLeaf, hc, hk]
  constructor
  · rintro ⟨leaf, h⟩
    simp only at h
    split at h
    · next hb ha => exact ((utc_eq_some hl).1 ha).1
    · cases h
  · intro h
    have ha := (utc_eq_some hl).2 ⟨h, rfl⟩
    have hb : utc (leafStart now) = some (leafStart now / 1000000000).toNat := by
      refine (utc_eq_some hl).2 ⟨?_, rfl⟩
      rw [Issuable, LEAF_DAYS, day] at h
      omega
    simp only [ha, hb]
    exact ⟨_, rfl⟩

/-! ## What a run leaves behind -/

/-- A leaf is written where the authority is not. -/
theorem Settled.putLeaf {d : Dir} {ca leaf : Pair} (h : Settled d ca)
    (hs : Signed ca leaf.cert) : Settled ((d.put .key leaf.key).put .cert leaf.cert) ca where
  cert := h.cert
  key := h.key
  pair := h.pair
  leaf hd := by
    cases hd
    exact hs

/-- A new key alone leaves the leaf as it is. -/
theorem Settled.putKey {d : Dir} {ca : Pair} (h : Settled d ca) (der : Der) :
    Settled (d.put .key der) ca where
  cert := h.cert
  key := h.key
  pair := h.pair
  leaf hd := h.leaf hd

/-- A leaf that serves is signed, whoever's it says it is. -/
theorem Issued.signed_cert {ca leaf : Pair} {addresses : List IpAddr} {now : Option Int}
    (h : Issued ca leaf addresses now) : Signed ca leaf.cert := by
  intro cert caCert secret hc _ hk _
  obtain ⟨cert', secret', hc', hk', hv⟩ := h.signed
  rw [hc] at hc'
  rw [hk] at hk'
  cases hc'
  cases hk'
  exact hv

/-- Storing a new leaf leaves a settled directory settled, however it is stopped. -/
theorem storeLeaf_settled (hl : Pki.Lawful) {d : Dir} {ca : Pair} (h : Settled d ca) (io : Io)
    (addresses : List IpAddr) {now : Option Int} (hnow : Plausible now) (draws : Draws) :
    Settled (storeLeaf io ca addresses now draws d).1 ca := by
  rw [storeLeaf]
  split
  · exact h
  · next leaf hleaf =>
    have hsigned := (issueLeaf_issued hl hnow hleaf).signed_cert
    rcases writePair_cases io d .key .cert leaf with ⟨stop, hw⟩ | ⟨stop, hw⟩ | ⟨stop, hw⟩
    · rw [hw]
      exact h
    · rw [hw]
      exact h.putKey leaf.key
    · rw [hw]
      cases stop <;> exact h.putLeaf hsigned

/-- So does loading it. -/
theorem loadLeaf_settled (hl : Pki.Lawful) {d : Dir} {ca : Pair} (h : Settled d ca) (io : Io)
    (addresses : List IpAddr) {now : Option Int} (hnow : Plausible now) (draws : Draws) :
    Settled (loadLeaf io ca addresses now draws d).1 ca := by
  rw [loadLeaf]
  split
  · exact h
  · exact storeLeaf_settled hl h io addresses hnow draws
  · split
    · exact h
    · exact storeLeaf_settled hl h io addresses hnow draws

/-- A file that is there is read, or there is an error that does not say it is missing. -/
theorem readFile_cases (io : Io) {d : Dir} {f : FileName} {der : Der} (h : d f = some der) :
    readFile io d f = .ok der ∨ ∃ e, readFile io d f = .error e ∧ e.kind ≠ .notFound := by
  rw [readFile, h]
  cases hr : io.read f with
  | some e => exact .inr ⟨e, rfl, io.found f e hr⟩
  | none => exact .inl rfl

/-- An authority that is stored is read, or nothing is. -/
theorem readPair_settled (io : Io) {d : Dir} {ca : Pair} (h : Settled d ca) :
    readPair io d .caCert .caKey = .ok (some ca) ∨
      ∃ e, readPair io d .caCert .caKey = .error e := by
  rw [readPair]
  rcases readFile_cases io h.cert with hc | ⟨e, hc, he⟩
  · rcases readFile_cases io h.key with hk | ⟨e', hk, he'⟩
    · left
      rw [hc, hk]
      simp only [h.pair]
    · rw [hc, hk]
      simp only [if_neg he']
      exact .inr ⟨_, rfl⟩
  · rcases readFile_cases io h.key with hk | ⟨e', hk, he'⟩
    · rw [hc, hk]
      simp only [if_neg he]
      exact .inr ⟨_, rfl⟩
    · rw [hc, hk]
      simp only [he, he', or_self, if_false]
      exact .inr ⟨_, rfl⟩

/-- An authority that is stored stays, and no other is used. -/
theorem loadAuthority_settled (io : Io) (draws : Draws) {d : Dir} {ca : Pair} (h : Settled d ca) :
    loadAuthority io draws d = (d, .ok ca) ∨ ∃ stop, loadAuthority io draws d = (d, .error stop) := by
  rw [loadAuthority]
  rcases readPair_settled io h with hr | ⟨e, hr⟩
  · rw [hr]
    exact .inl rfl
  · rw [hr]
    exact .inr ⟨_, rfl⟩

/-- A new authority in a fresh directory: nobody has issued a leaf in its name. -/
theorem Fresh.putAuthority (hl : Pki.Lawful) {d : Dir} (h : Fresh d) (draws : Draws) :
    Settled ((d.put .caKey (generateCa draws).key).put .caCert (generateCa draws).cert)
      (generateCa draws) where
  cert := rfl
  key := rfl
  pair := (generateCa_spec hl draws).1
  leaf {der} hd := by
    intro cert caCert secret hc hca _ hissuer
    obtain ⟨caCert', tag, hca', hname⟩ := (generateCa_spec hl draws).2
    rw [hca] at hca'
    cases hca'
    exact (h.leaf tag hd hc (hissuer.trans hname)).elim

/-- The key of a new authority alone leaves a directory fresh. -/
theorem Fresh.putKey {d : Dir} (h : Fresh d) (der : Der) : Fresh (d.put .caKey der) where
  noAuthority := h.noAuthority
  leaf tag hd hc := h.leaf tag hd hc

/-- In a fresh directory there is no authority to read. -/
theorem readPair_fresh (io : Io) {d : Dir} (h : Fresh d) :
    readPair io d .caCert .caKey = .ok none ∨ ∃ e, readPair io d .caCert .caKey = .error e := by
  rw [readPair]
  split
  · next cert key hc _ =>
    rw [readFile, h.noAuthority] at hc
    cases hio : io.read .caCert <;> rw [hio] at hc <;> cases hc
  · split
    · exact .inl rfl
    · exact .inr ⟨_, rfl⟩
  · split
    · exact .inl rfl
    · exact .inr ⟨_, rfl⟩
  · split
    · exact .inl rfl
    · exact .inr ⟨_, rfl⟩

/-- Loading the authority leaves a sound directory, settled with the authority that is used. -/
theorem loadAuthority_sound (hl : Pki.Lawful) (io : Io) (draws : Draws) {d : Dir} (h : Sound d) :
    Sound (loadAuthority io draws d).1 ∧
      ∀ ca, (loadAuthority io draws d).2 = .ok ca → Settled (loadAuthority io draws d).1 ca := by
  cases h with
  | settled h =>
    rcases loadAuthority_settled io draws h with hload | ⟨stop, hload⟩
    · rw [hload]
      refine ⟨.settled h, fun ca hca => ?_⟩
      cases hca
      exact h
    · rw [hload]
      refine ⟨.settled h, fun ca hca => ?_⟩
      cases hca
  | fresh h =>
    rw [loadAuthority]
    rcases readPair_fresh io h with hr | ⟨e, hr⟩
    · rw [hr]
      rcases writePair_cases io d .caKey .caCert (generateCa draws) with
        ⟨stop, hw⟩ | ⟨stop, hw⟩ | ⟨stop, hw⟩
      · rw [hw]
        refine ⟨.fresh h, fun ca hca => ?_⟩
        cases hca
      · rw [hw]
        refine ⟨.fresh (h.putKey _), fun ca hca => ?_⟩
        cases hca
      · rw [hw]
        have hs := h.putAuthority hl draws
        cases stop with
        | some stop =>
          refine ⟨.settled hs, fun ca hca => ?_⟩
          cases hca
        | none =>
          refine ⟨.settled hs, fun ca hca => ?_⟩
          cases hca
          exact hs
    · rw [hr]
      refine ⟨.fresh h, fun ca hca => ?_⟩
      cases hca

/-- A whole run leaves a sound directory, settled with the authority of the identity it returns. -/
theorem loadOrGenerate_sound (hl : Pki.Lawful) (io : Io) (addresses : List IpAddr) (clock : Int)
    (draws : Draws) {d : Dir} (h : Sound d) :
    Sound (loadOrGenerate io addresses clock draws d).1 ∧
      ∀ identity, (loadOrGenerate io addresses clock draws d).2 = .ok identity →
        Settled (loadOrGenerate io addresses clock draws d).1 identity.ca := by
  obtain ⟨hsound, hsettled⟩ := loadAuthority_sound hl io draws h
  rw [loadOrGenerate]
  split
  · refine ⟨h, fun identity hid => ?_⟩
    cases hid
  · split
    · next d' stop ha =>
      rw [ha] at hsound
      refine ⟨hsound, fun identity hid => ?_⟩
      cases hid
    · next d' ca ha =>
      rw [ha] at hsettled
      have hleaf := loadLeaf_settled hl (hsettled ca rfl) io addresses
        (plausible_plausibleNow clock) draws
      split
      · next d'' stop hload =>
        rw [hload] at hleaf
        refine ⟨.settled hleaf, fun identity hid => ?_⟩
        cases hid
      · next d'' leaf hload =>
        rw [hload] at hleaf
        refine ⟨.settled hleaf, fun identity hid => ?_⟩
        cases hid
        exact hleaf

/-! ## Runs -/

/-- The unit: its directory, and the renewer of the process that runs, once its identity is
loaded. -/
structure Device where
  dir : Dir
  renewer : Option TlsRenewer

/-- A run of `load_or_generate` by a process that starts, or of `TlsRenewer::check`. -/
inductive Run
  | load (io : Io) (addresses : List IpAddr) (clock : Int) (draws : Draws)
  | check (io : Io) (clock : Int) (draws : Draws) (certified : Bool)

/-- What a run does; the power that goes takes the process with it. -/
def Device.step (x : Device) : Run → Option Device
  | .load io addresses clock draws =>
    match loadOrGenerate io addresses clock draws x.dir with
    | (dir, .ok identity) => some ⟨dir, some ⟨addresses, identity⟩⟩
    | (dir, .error _) => some ⟨dir, none⟩
  | .check io clock draws certified =>
    x.renewer.map fun r =>
      match r.check io clock draws certified x.dir with
      | (dir, r, some _) => ⟨dir, some r⟩
      | (dir, _, none) => ⟨dir, none⟩

/-- A unit whose identity has not been made. -/
def Device.New (x : Device) : Prop := Fresh x.dir ∧ x.renewer = none

/-- The directory is sound, and the authority in service is the one that is stored. -/
structure Device.Inv (x : Device) : Prop where
  dir : Sound x.dir
  renewer : ∀ r ∈ x.renewer, Settled x.dir r.identity.ca

/-- A check leaves the authority in service as it was, and its directory settled. -/
theorem TlsRenewer.check_settled (hl : Pki.Lawful) {r : TlsRenewer} {d : Dir}
    (h : Settled d r.identity.ca) (io : Io) (clock : Int) (draws : Draws) (certified : Bool) :
    (r.check io clock draws certified d).2.1.identity.ca = r.identity.ca ∧
      Settled (r.check io clock draws certified d).1 r.identity.ca := by
  have hstore := storeLeaf_settled hl h io r.addresses (plausible_plausibleNow clock) draws
  rw [TlsRenewer.check]
  split
  · exact ⟨rfl, h⟩
  · split
    · next hs =>
      rw [hs] at hstore
      exact ⟨rfl, hstore⟩
    · next hs =>
      rw [hs] at hstore
      exact ⟨rfl, hstore⟩
    · next hs =>
      rw [hs] at hstore
      exact ⟨rfl, hstore⟩

theorem Device.Inv.step (hl : Pki.Lawful) {x x' : Device} {i : Run} (h : x.Inv)
    (hs : x.step i = some x') : x'.Inv := by
  cases i with
  | load io addresses clock draws =>
    obtain ⟨hsound, hsettled⟩ := loadOrGenerate_sound hl io addresses clock draws h.dir
    rw [Device.step] at hs
    split at hs
    · next dir identity hload =>
      rw [hload] at hsound hsettled
      cases hs
      refine ⟨hsound, fun r hr => ?_⟩
      cases hr
      exact hsettled identity rfl
    · next dir stop hload =>
      rw [hload] at hsound
      cases hs
      refine ⟨hsound, fun r hr => ?_⟩
      cases hr
  | check io clock draws certified =>
    obtain ⟨r, hr, hcheck⟩ := Option.map_eq_some_iff.1 hs
    obtain ⟨hca, hsettled⟩ := r.check_settled hl (h.renewer r hr) io clock draws certified
    split at hcheck
    · next dir r' _ hc =>
      rw [hc] at hca hsettled
      cases hcheck
      refine ⟨.settled hsettled, fun r'' hr'' => ?_⟩
      cases hr''
      rw [hca]
      exact hsettled
    · next dir r' hc =>
      rw [hc] at hsettled
      cases hcheck
      refine ⟨.settled hsettled, fun r'' hr'' => ?_⟩
      cases hr''

theorem inv_of_reach (hl : Pki.Lawful) {x : Device}
    (h : Reach Device.New Device.step (fun _ _ => True) x) : x.Inv := by
  refine h.invariant (fun x hx => ?_) fun x i x' hx _ hs => hx.step hl hs
  refine ⟨.fresh hx.1, fun r hr => ?_⟩
  rw [hx.2] at hr
  cases hr

/-! ## The next load -/

/-- The stored authority and the stored leaf belong to their keys. -/
structure Stored (d : Dir) (ca leaf : Pair) : Prop where
  caCert : d .caCert = some ca.cert
  caKey : d .caKey = some ca.key
  caPair : checkPair ca = .ok ()
  cert : d .cert = some leaf.cert
  key : d .key = some leaf.key
  pair : checkPair leaf = .ok ()

/-- The leaf that is stored is not due. -/
def Usable (d : Dir) (addresses : List IpAddr) (now : Option Int) : Prop :=
  ∃ ca leaf, Stored d ca leaf ∧ leafNeedsReissue leaf.cert ca.cert addresses now = none

/-- What a load that nothing stops is to do: return an identity, keep the authority that is stored,
and leave a leaf that serves. -/
structure Survives (addresses : List IpAddr) (clock : Int) (draws : Draws) (d : Dir) : Prop where
  ok : ∃ identity, (loadOrGenerate {} addresses clock draws d).2 = .ok identity
  kept (ca : Pair) : d .caCert = some ca.cert → d .caKey = some ca.key → checkPair ca = .ok () →
    (loadOrGenerate {} addresses clock draws d).1 .caCert = some ca.cert ∧
      (loadOrGenerate {} addresses clock draws d).1 .caKey = some ca.key
  serves : ∃ ca leaf, Stored (loadOrGenerate {} addresses clock draws d).1 ca leaf ∧
    Issued ca leaf addresses (plausibleNow clock)

/-- What a read that nothing stops finds of a pair. -/
theorem readPair_cases (d : Dir) (certFile keyFile : FileName) :
    readPair {} d certFile keyFile = .ok none ∨
      ∃ pair, readPair {} d certFile keyFile = .ok (some pair) ∧ d certFile = some pair.cert ∧
        d keyFile = some pair.key ∧ checkPair pair = .ok () := by
  have hmissing : ∀ {f e}, readFile {} d f = .error e → e.kind = .notFound := by
    intro f e h
    rw [readFile] at h
    cases hf : d f with
    | some der => rw [hf] at h; cases h
    | none => rw [hf] at h; cases h; rfl
  have hthere : ∀ {f der}, readFile {} d f = .ok der → d f = some der := by
    intro f der h
    rw [readFile] at h
    cases hf : d f with
    | some der' => rw [hf] at h; cases h; rfl
    | none => rw [hf] at h; cases h
  rw [readPair]
  split
  · next cert key hc hk =>
    split
    · next hp => exact .inr ⟨⟨cert, key⟩, rfl, hthere hc, hthere hk, hp⟩
    · exact .inl rfl
  · next e e' hc hk => exact .inl (if_pos (.inl (hmissing hc)))
  · next e key hc hk => exact .inl (if_pos (hmissing hc))
  · next cert e hc hk => exact .inl (if_pos (hmissing hk))

/-- A leaf that is not due is one the authority has issued. -/
theorem Settled.issued {d : Dir} {ca leaf : Pair} {addresses : List IpAddr} {now : Option Int}
    (h : Settled d ca) (hleaf : d .cert = some leaf.cert) (hpair : checkPair leaf = .ok ())
    (hdue : leafNeedsReissue leaf.cert ca.cert addresses now = none) :
    Issued ca leaf addresses now := by
  obtain ⟨⟨caCert, hc⟩, secret, hk⟩ := checkPair_parses h.pair
  obtain ⟨⟨cert, hcert⟩, -⟩ := checkPair_parses hpair
  have hissuer : cert.tbsCertificate.issuer = caCert.tbsCertificate.subject := by
    by_contra hne
    rw [leafNeedsReissue, hcert, hc] at hdue
    simp only [if_pos hne] at hdue
    cases hdue
  exact ⟨hpair, hdue, cert, secret, hcert, hk, h.leaf hleaf cert caCert secret hcert hc hk hissuer⟩

/-- The leaf after the authority: the one that is stored, or a new one. -/
theorem loadLeaf_cases {d : Dir} {ca : Pair} (h : Settled d ca) (addresses : List IpAddr)
    (now : Option Int) (draws : Draws) :
    (∃ leaf, Stored d ca leaf ∧ leafNeedsReissue leaf.cert ca.cert addresses now = none ∧
      loadLeaf {} ca addresses now draws d = (d, .ok leaf)) ∨
    (¬ Usable d addresses now ∧
      loadLeaf {} ca addresses now draws d = storeLeaf {} ca addresses now draws d) := by
  have hother : ∀ {ca' leaf}, Stored d ca' leaf → ca' = ca := by
    intro ca' leaf hs
    have hc := hs.caCert
    have hk := hs.caKey
    rw [h.cert] at hc
    rw [h.key] at hk
    cases ca
    cases ca'
    cases hc
    cases hk
    rfl
  rw [loadLeaf]
  rcases readPair_cases d .cert .key with hr | ⟨leaf, hr, hcert, hkey, hpair⟩
  · right
    refine ⟨?_, by rw [hr]⟩
    rintro ⟨ca', leaf, hs, -⟩
    have hread : readPair {} d .cert .key = .ok (some leaf) := by
      have hc : readFile {} d .cert = .ok leaf.cert := by rw [readFile, hs.cert]
      have hk : readFile {} d .key = .ok leaf.key := by rw [readFile, hs.key]
      rw [readPair, hc, hk]
      simp only [hs.pair]
    rw [hr] at hread
    cases hread
  · have hstored : Stored d ca leaf := ⟨h.cert, h.key, h.pair, hcert, hkey, hpair⟩
    rw [hr]
    cases hdue : leafNeedsReissue leaf.cert ca.cert addresses now with
    | none =>
      left
      refine ⟨leaf, hstored, hdue, ?_⟩
      simp only [hdue]
    | some why =>
      right
      refine ⟨?_, by simp only [hdue]⟩
      rintro ⟨ca', leaf', hs, hnot⟩
      obtain rfl := hother hs
      have hc := hs.cert
      rw [hcert] at hc
      rw [← Option.some.inj hc, hdue] at hnot
      cases hnot

/-- A leaf stored in a fresh directory is due under a new authority. -/
theorem Fresh.due (hl : Pki.Lawful) {d : Dir} (h : Fresh d) (draws : Draws) {der : Der}
    (hd : d .cert = some der) (addresses : List IpAddr) (now : Option Int) :
    leafNeedsReissue der (generateCa draws).cert addresses now ≠ none := by
  obtain ⟨caCert, tag, hca, hname⟩ := (generateCa_spec hl draws).2
  rw [leafNeedsReissue, hca]
  cases hc : fromDer der with
  | none =>
    intro hdue
    cases hdue
  | some cert =>
    have hne : cert.tbsCertificate.issuer ≠ caCert.tbsCertificate.subject := by
      rw [hname]
      exact h.leaf tag hd hc
    simp only [if_pos hne]
    intro hdue
    cases hdue

/-- The authority that nothing stops: the one that is stored, or a new one that has issued no
leaf. -/
theorem loadAuthority_ok (hl : Pki.Lawful) {d : Dir} (h : Sound d) (draws : Draws) :
    ∃ d' ca, loadAuthority {} draws d = (d', .ok ca) ∧ Settled d' ca ∧
      (d' = d ∨ d .caCert = none ∧ ∀ der addresses now, d' .cert = some der →
        leafNeedsReissue der ca.cert addresses now ≠ none) := by
  cases h with
  | @settled ca h =>
    refine ⟨d, ca, ?_, h, .inl rfl⟩
    have hr : readPair {} d .caCert .caKey = .ok (some ca) := by
      rcases readPair_settled {} h with hr | ⟨e, hr⟩
      · exact hr
      · rcases readPair_cases d .caCert .caKey with hr' | ⟨pair, hr', -⟩ <;>
          rw [hr] at hr' <;> cases hr'
    rw [loadAuthority, hr]
  | fresh h =>
    have hr : readPair {} d .caCert .caKey = .ok none := by
      rcases readPair_cases d .caCert .caKey with hr | ⟨pair, -, hc, -⟩
      · exact hr
      · rw [h.noAuthority] at hc
        cases hc
    refine ⟨_, generateCa draws, ?_, h.putAuthority hl draws, .inr ⟨h.noAuthority, ?_⟩⟩
    · rw [loadAuthority, hr]
      rfl
    · intro der addresses now hd
      exact h.due hl draws hd addresses now

/-- **The next load survives every crash before it**, exactly where a leaf that is not due is stored
or one can be issued: one that ends before 2050. -/
theorem identity_survives_iff (hl : Pki.Lawful) {x : Device}
    (h : Reach Device.New Device.step (fun _ _ => True) x) (addresses : List IpAddr) (clock : Int)
    (draws : Draws) : Survives addresses clock draws x.dir ↔
      Issuable (plausibleNow clock) ∨ Usable x.dir addresses (plausibleNow clock) := by
  obtain ⟨d, ca, hload, hsettled, hsame⟩ := loadAuthority_ok hl (inv_of_reach hl h).dir draws
  have hkept : ∀ ca' : Pair, x.dir .caCert = some ca'.cert → d = x.dir := by
    intro ca' hca
    refine hsame.resolve_right fun hnew => ?_
    rw [hnew.1] at hca
    cases hca
  rcases loadLeaf_cases hsettled addresses (plausibleNow clock) draws with
    ⟨leaf, hstored, hdue, hleaf⟩ | ⟨hnot, hleaf⟩
  · have hd : d = x.dir :=
      hsame.resolve_right fun hnew => hnew.2 _ addresses _ hstored.cert hdue
    subst hd
    have hrun : loadOrGenerate {} addresses clock draws x.dir = (x.dir, .ok ⟨ca, leaf⟩) := by
      rw [loadOrGenerate]
      simp only [hload, hleaf]
    refine iff_of_true ⟨?_, ?_, ?_⟩ (.inr ⟨ca, leaf, hstored, hdue⟩)
    · exact ⟨_, by rw [hrun]⟩
    · intro ca' hc hk _
      rw [hrun]
      exact ⟨hc, hk⟩
    · rw [hrun]
      exact ⟨ca, leaf, hstored, hsettled.issued hstored.cert hstored.pair hdue⟩
  · have hunusable : ¬ Usable x.dir addresses (plausibleNow clock) := by
      rintro ⟨ca', leaf, hs, hdue⟩
      rw [← hkept ca' hs.caCert] at hs
      exact hnot ⟨ca', leaf, hs, hdue⟩
    rw [or_iff_left hunusable,
      ← issueLeaf_ok_iff hl hsettled.pair addresses (plausibleNow clock) draws]
    constructor
    · rintro ⟨⟨identity, hok⟩, -, -⟩
      rw [loadOrGenerate] at hok
      simp only [hload, hleaf, storeLeaf] at hok
      split at hok
      · cases hok
      · next hl' =>
        split at hl'
        · cases hl'
        · next leaf hissue => exact ⟨leaf, hissue⟩
    · rintro ⟨leaf, hissue⟩
      have hissued := issueLeaf_issued hl (plausible_plausibleNow clock) hissue
      have hafter := hsettled.putLeaf hissued.signed_cert
      have hrun : loadOrGenerate {} addresses clock draws x.dir =
          ((d.put .key leaf.key).put .cert leaf.cert, .ok ⟨ca, leaf⟩) := by
        rw [loadOrGenerate]
        simp only [hload, hleaf, storeLeaf, hissue, writePair_ok]
      refine ⟨⟨_, by rw [hrun]⟩, ?_, ?_⟩
      · intro ca' hc hk _
        rw [hrun]
        have hd := hkept ca' hc
        rw [← hd] at hc hk
        exact ⟨hc, hk⟩
      · rw [hrun]
        exact ⟨ca, leaf, ⟨hafter.cert, hafter.key, hafter.pair, rfl, rfl, hissued.pair⟩, hissued⟩

end

/-! ## A crash survived, and a clock that is not -/

/-- What a file holds where certificates and keys are kept as they are. -/
inductive Plain
  | certificate (cert : Certificate)
  | key (key : List UInt8)

/-- Certificates and keys kept as they are; a signature is the key it was made with. -/
@[reducible] def plainPki : Pki where
  Der := Plain
  SecretKey := List UInt8
  fromDer
    | .certificate cert => some cert
    | .key _ => none
  toDer := .certificate
  fromPkcs8Der
    | .key key => some key
    | .certificate _ => none
  toPkcs8Der := .key
  publicKeyDer := id
  sign key _ := key
  verify key cert := cert.signature == key
  fromUnixDuration secs := if secs < utcTimeEnd then some secs else none

theorem plainPki_lawful : @Pki.Lawful plainPki := by
  let _ := plainPki
  refine ⟨fun _ => rfl, fun _ => rfl, fun _ _ => beq_self_eq_true _, fun _ => rfl⟩

/-- What a run draws. -/
def someDraws : @Draws plainPki := @Draws.mk plainPki [0x3A, 0x7F] [1] [1] [2] [2]

/-- The unit as it comes, with nothing stored. -/
def newDevice : @Device plainPki := @Device.mk plainPki (fun _ => none) none

theorem newDevice_new : @Device.New plainPki newDevice := by
  let _ := plainPki
  refine ⟨⟨rfl, fun tag hd => ?_⟩, rfl⟩
  cases hd

/-- The power goes before the certificate of the authority is in place. -/
def cutAuthority : Io where
  write
    | .caCert => .powerLost false
    | _ => .done

/-- After a first start cut between the authority's key and its certificate, the next one makes an
identity. -/
theorem identity_survives_cut :
    let _ := plainPki
    ∃ x, newDevice.step (.load cutAuthority [] 1767225600000000000 someDraws) = some x ∧
      Survives [] 1767225600000000000 someDraws x.dir := by
  let _ := plainPki
  intro _
  have hrun : Reach Device.New Device.step (fun _ _ => True) _ := .step (.init newDevice_new)
    (i := Run.load cutAuthority [] 1767225600000000000 someDraws) trivial rfl
  refine ⟨_, rfl, (identity_survives_iff plainPki_lawful hrun [] _ someDraws).2 (.inl ?_)⟩
  show (leafStart (plausibleNow 1767225600000000000) + LEAF_DAYS * day) / 1000000000 < utcTimeEnd
  decide

/-- A clock that reads 2050: the unit cannot make an identity. -/
theorem no_identity_in_2050 :
    let _ := plainPki
    ¬ ∀ x, Reach Device.New Device.step (fun _ _ => True) x → ∀ addresses clock draws,
      Survives addresses clock draws x.dir := by
  let _ := plainPki
  intro _ h
  obtain ⟨identity, hok⟩ := (h newDevice (.init newDevice_new) [] 2524608000000000000 someDraws).ok
  cases hok

end Rayhunter.Tls
