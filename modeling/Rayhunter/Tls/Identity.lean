import Rayhunter.Lib.Hex
import Rayhunter.Store.Disk

/-!
# The TLS identity

What `daemon/src/tls.rs` keeps in the directory of the identity: the unit's certificate authority,
its key and certificate, and the server certificate the authority has issued, the leaf, with its
key. `load_or_generate` reads them and makes what is missing, `TlsRenewer::check` replaces a leaf
that is due. Each file is written to a temporary name and renamed into place; the power may go
before a file is renamed or after it.

Certificates and keys are those of `x509-cert` and `p256`, which are parameters (`Pki`). Randomness
is what a run draws (`Draws`).
-/

namespace Rayhunter.Tls

/-! ## Certificates and keys -/

/-- A name in `SubjectAltName`. -/
inductive GeneralName
  | dnsName (name : String)
  | ipAddress (octets : List UInt8)
  | other

/-- What the code reads and writes of a certificate. Times are seconds since the Unix epoch; the
alternative names are missing where their extension does not parse. -/
structure TbsCertificate where
  serialNumber : List UInt8
  issuer : String
  subject : String
  notBefore : Nat
  notAfter : Nat
  subjectPublicKeyInfo : List UInt8
  subjectAltNames : Option (List GeneralName)

/-- `Certificate`. -/
structure Certificate where
  tbsCertificate : TbsCertificate
  signature : List UInt8

/-- `x509-cert`, `p256` and `der`: `Der` is what a file can hold. A signature is checked with the
public key, in the form it has in a certificate. `fromUnixDuration` is that of `UtcTime`. -/
class Pki where
  Der : Type
  SecretKey : Type
  fromDer : Der → Option Certificate
  toDer : Certificate → Der
  fromPkcs8Der : Der → Option SecretKey
  toPkcs8Der : SecretKey → Der
  publicKeyDer : SecretKey → List UInt8
  sign : SecretKey → TbsCertificate → List UInt8
  verify : List UInt8 → Certificate → Bool
  fromUnixDuration : Nat → Option Nat

/-- The first second of 2050, which `UTCTime` with its years of two digits does not reach. -/
def utcTimeEnd : Nat := 2524608000

/-- What is taken from these crates: what is written is read back, what is signed verifies, and
`UtcTime` has the times before 2050. -/
structure Pki.Lawful [Pki] : Prop where
  fromDer_toDer (c : Certificate) : fromDer (toDer c) = some c
  fromPkcs8Der_toPkcs8Der (k : SecretKey) : fromPkcs8Der (toPkcs8Der k) = some k
  verify_sign (k : SecretKey) (tbs : TbsCertificate) :
    verify (publicKeyDer k) ⟨tbs, sign k tbs⟩ = true
  fromUnixDuration_eq (secs : Nat) :
    fromUnixDuration secs = if secs < utcTimeEnd then some secs else none

/-- `IpAddr`, by its octets. -/
structure IpAddr where
  octets : List UInt8
  length : octets.length = 4 ∨ octets.length = 16
  deriving DecidableEq

/-- The files in the directory of the identity. -/
inductive FileName
  | caKey
  | caCert
  | key
  | cert
  deriving DecidableEq, Repr

/-- `CA_KEY_FILE`, `CA_CERT_FILE`, `KEY_FILE` and `CERT_FILE` (`tls.rs:52`). -/
def FileName.text : FileName → String
  | .caKey => "ca.key"
  | .caCert => "ca.crt"
  | .key => "tls.key"
  | .cert => "tls.crt"

/-- Why a certificate or a key cannot be used. -/
inductive CertificateError
  | certificate
  | key
  | pair
  | date
  deriving DecidableEq, Repr

/-- `TlsError` (`tls.rs:83`). The path of an error is that of a file, or of the directory. -/
inductive TlsError
  | io (path : Option FileName) (source : IoError)
  | certificate (why : CertificateError)
  deriving DecidableEq, Repr

variable [Pki]

open Pki

/-- A certificate or a key and the key that belongs to it, as they are stored. -/
structure Pair where
  cert : Der
  key : Der

/-! ## Time -/

/-- A day, in nanoseconds. -/
def day : Int := 86400 * 1000000000

/-- `LEAF_DAYS`, `RENEW_BEFORE_DAYS` (`tls.rs:60`). -/
def LEAF_DAYS : Int := 800
def RENEW_BEFORE_DAYS : Int := 60

/-- The first second of `PLAUSIBLE_YEAR` (`tls.rs:66`), 2025. -/
def plausibleYear : Int := 1735689600

/-- `plausible_now` (`tls.rs:327`): the reading of the clock, in nanoseconds since the Unix epoch,
where it is of 2025 or later. -/
def plausibleNow (clock : Int) : Option Int :=
  if plausibleYear * 1000000000 ≤ clock then some clock else none

/-- `utc` (`tls.rs:370`). -/
def utc (time : Int) : Option Nat := fromUnixDuration (time / 1000000000).toNat

/-! ## Making certificates -/

/-- What one run draws from the operating system. -/
structure Draws where
  caTag : List UInt8
  caKey : SecretKey
  caSerial : List UInt8
  key : SecretKey
  serial : List UInt8

/-- The name of an authority. -/
def authorityName (tag : List UInt8) : String :=
  "CN=Rayhunter " ++ String.ofList ((tag.flatMap Hex.byte).map Char.toUpper)

/-- `LOCAL_NAME` (`tls.rs:69`). -/
def LOCAL_NAME : String := "rayhunter.local"

/-- A certificate with its signature. -/
def build (signer : SecretKey) (tbs : TbsCertificate) : Certificate := ⟨tbs, sign signer tbs⟩

/-- What is in the certificate of an authority: it is valid from 2020 to the end of 2049. -/
def caTbs (draws : Draws) : TbsCertificate where
  serialNumber := draws.caSerial
  issuer := authorityName draws.caTag
  subject := authorityName draws.caTag
  notBefore := 1577836800
  notAfter := 2524607999
  subjectPublicKeyInfo := publicKeyDer draws.caKey
  subjectAltNames := some []

/-- `generate_ca` (`tls.rs:392`). -/
def generateCa (draws : Draws) : Pair :=
  ⟨toDer (build draws.caKey (caTbs draws)), toPkcs8Der draws.caKey⟩

/-- The moment a leaf is valid from: a day before now, or the start of a year a real clock is past. -/
def leafStart (now : Option Int) : Int := (now.map (· - day)).getD (plausibleYear * 1000000000)

/-- What is in a leaf. -/
def leafTbs (ca : Certificate) (addresses : List IpAddr) (draws : Draws)
    (notBefore notAfter : Nat) : TbsCertificate where
  serialNumber := draws.serial
  issuer := ca.tbsCertificate.subject
  subject := "CN=Rayhunter"
  notBefore := notBefore
  notAfter := notAfter
  subjectPublicKeyInfo := publicKeyDer draws.key
  subjectAltNames := some (.dnsName LOCAL_NAME :: addresses.map fun ip => .ipAddress ip.octets)

/-- `issue_leaf` (`tls.rs:425`). -/
def issueLeaf (ca : Pair) (addresses : List IpAddr) (now : Option Int) (draws : Draws) :
    Except TlsError Pair :=
  match fromDer ca.cert, fromPkcs8Der ca.key with
  | none, _ => .error (.certificate .certificate)
  | _, none => .error (.certificate .key)
  | some caCert, some caKey =>
    match utc (leafStart now), utc (leafStart now + LEAF_DAYS * day) with
    | some notBefore, some notAfter =>
      .ok ⟨toDer (build caKey (leafTbs caCert addresses draws notBefore notAfter)),
        toPkcs8Der draws.key⟩
    | _, _ => .error (.certificate .date)

/-! ## Judging certificates -/

/-- The addresses `subject_alt_names` (`tls.rs:256`) finds in a certificate. It makes text of them,
and no two addresses are the same text. -/
def subjectAltAddresses (cert : Certificate) : List IpAddr :=
  (cert.tbsCertificate.subjectAltNames.getD []).filterMap fun
    | .ipAddress octets => if h : octets.length = 4 ∨ octets.length = 16 then some ⟨octets, h⟩ else none
    | _ => none

/-- `leaf_needs_reissue` (`tls.rs:514`). -/
def leafNeedsReissue (certDer caCertDer : Der) (addresses : List IpAddr) (now : Option Int) :
    Option String :=
  match fromDer certDer, fromDer caCertDer with
  | none, _ => some "it does not parse"
  | _, none => some "the authority does not parse"
  | some cert, some ca =>
    if cert.tbsCertificate.issuer ≠ ca.tbsCertificate.subject then
      some "it was not issued by this authority"
    else if addresses.any fun ip => ip ∉ subjectAltAddresses cert then
      some "an address is missing from it"
    else
      match now with
      | none => none
      | some now =>
        if now < cert.tbsCertificate.notBefore * 1000000000 then
          some "it is not valid yet by the clock"
        else if now + RENEW_BEFORE_DAYS * day > cert.tbsCertificate.notAfter * 1000000000 then
          some "it is near its end"
        else none

/-- `check_pair` (`tls.rs:551`). -/
def checkPair (pair : Pair) : Except TlsError Unit :=
  match fromDer pair.cert, fromPkcs8Der pair.key with
  | none, _ => .error (.certificate .certificate)
  | _, none => .error (.certificate .key)
  | some cert, some secret =>
    if publicKeyDer secret ≠ cert.tbsCertificate.subjectPublicKeyInfo then
      .error (.certificate .pair)
    else .ok ()

/-! ## Files -/

/-- What the files of the identity hold. -/
abbrev Dir := FileName → Option Der

/-- What comes of writing a file: it is renamed into place, it is not and the caller is told, or the
power goes, before it is or after. -/
inductive WriteResult
  | done
  | failed (e : IoError)
  | powerLost (renamed : Bool)

/-- What the operating system answers: for the directory, for each file that is read, and for each
that is written. It does not say of a file that is there that it is not. -/
structure Io where
  dir : Option IoError := none
  read : FileName → Option IoError := fun _ => none
  write : FileName → WriteResult := fun _ => .done
  found : ∀ f, ∀ e ∈ read f, e.kind ≠ .notFound := by simp

/-- How a run stops before its end. -/
inductive Stop
  | error (e : TlsError)
  | powerLost
  deriving DecidableEq, Repr

/-- A file with what is written to it. -/
def Dir.put (d : Dir) (f : FileName) (der : Der) : Dir := fun g => if g = f then some der else d g

/-- `write_atomic` (`tls.rs:584`). -/
def writeAtomic (io : Io) (d : Dir) (f : FileName) (der : Der) : Dir × Option Stop :=
  match io.write f with
  | .done => (d.put f der, none)
  | .failed e => (d, some (.error (.io (some f) e)))
  | .powerLost renamed => (if renamed then d.put f der else d, some .powerLost)

/-- A key and its certificate written, in this order. -/
def writePair (io : Io) (d : Dir) (keyFile certFile : FileName) (pair : Pair) :
    Dir × Option Stop :=
  match writeAtomic io d keyFile pair.key with
  | (d, some stop) => (d, some stop)
  | (d, none) => writeAtomic io d certFile pair.cert

/-- `tokio::fs::read`. -/
def readFile (io : Io) (d : Dir) (f : FileName) : Except IoError Der :=
  match io.read f, d f with
  | some e, _ => .error e
  | none, some der => .ok der
  | none, none => .error ⟨.notFound, "No such file or directory (os error 2)"⟩

/-- `read_pair` (`tls.rs:602`). -/
def readPair (io : Io) (d : Dir) (certFile keyFile : FileName) :
    Except TlsError (Option Pair) :=
  match readFile io d certFile, readFile io d keyFile with
  | .ok cert, .ok key =>
    match checkPair ⟨cert, key⟩ with
    | .ok () => .ok (some ⟨cert, key⟩)
    | .error _ => .ok none
  | .error e, .error e' =>
    if e.kind = .notFound ∨ e'.kind = .notFound then .ok none else .error (.io (some certFile) e)
  | .error e, .ok _ => if e.kind = .notFound then .ok none else .error (.io (some certFile) e)
  | .ok _, .error e => if e.kind = .notFound then .ok none else .error (.io (some keyFile) e)

/-! ## Loading and renewing -/

/-- `TlsIdentity` (`tls.rs:100`). -/
structure TlsIdentity where
  ca : Pair
  leaf : Pair

/-- The authority in `load_or_generate` (`tls.rs:648`). -/
def loadAuthority (io : Io) (draws : Draws) (d : Dir) : Dir × Except Stop Pair :=
  match readPair io d .caCert .caKey with
  | .error e => (d, .error (.error e))
  | .ok (some pair) => (d, .ok pair)
  | .ok none =>
    match writePair io d .caKey .caCert (generateCa draws) with
    | (d, some stop) => (d, .error stop)
    | (d, none) => (d, .ok (generateCa draws))

/-- A new leaf, issued and stored. -/
def storeLeaf (io : Io) (ca : Pair) (addresses : List IpAddr) (now : Option Int) (draws : Draws)
    (d : Dir) : Dir × Except Stop Pair :=
  match issueLeaf ca addresses now draws with
  | .error e => (d, .error (.error e))
  | .ok pair =>
    match writePair io d .key .cert pair with
    | (d, some stop) => (d, .error stop)
    | (d, none) => (d, .ok pair)

/-- The leaf in `load_or_generate` (`tls.rs:665`). -/
def loadLeaf (io : Io) (ca : Pair) (addresses : List IpAddr) (now : Option Int) (draws : Draws)
    (d : Dir) : Dir × Except Stop Pair :=
  match readPair io d .cert .key with
  | .error e => (d, .error (.error e))
  | .ok none => storeLeaf io ca addresses now draws d
  | .ok (some pair) =>
    match leafNeedsReissue pair.cert ca.cert addresses now with
    | none => (d, .ok pair)
    | some _ => storeLeaf io ca addresses now draws d

/-- `load_or_generate` (`tls.rs:632`). -/
def loadOrGenerate (io : Io) (addresses : List IpAddr) (clock : Int) (draws : Draws) (d : Dir) :
    Dir × Except Stop TlsIdentity :=
  match io.dir with
  | some e => (d, .error (.error (.io none e)))
  | none =>
    match loadAuthority io draws d with
    | (d, .error stop) => (d, .error stop)
    | (d, .ok ca) =>
      match loadLeaf io ca addresses (plausibleNow clock) draws d with
      | (d, .error stop) => (d, .error stop)
      | (d, .ok leaf) => (d, .ok ⟨ca, leaf⟩)

/-- `TlsRenewer` (`tls.rs:752`): the identity in service. -/
structure TlsRenewer where
  addresses : List IpAddr
  identity : TlsIdentity

/-- `TlsRenewer::check` (`tls.rs:794`): the renewer after it, and what it returns unless the power
goes. `certified` says whether `rustls` takes the new certificate into service. -/
def TlsRenewer.check (r : TlsRenewer) (io : Io) (clock : Int) (draws : Draws) (certified : Bool)
    (d : Dir) : Dir × TlsRenewer × Option Bool :=
  match leafNeedsReissue r.identity.leaf.cert r.identity.ca.cert r.addresses
      (plausibleNow clock) with
  | none => (d, r, some false)
  | some _ =>
    match storeLeaf io r.identity.ca r.addresses (plausibleNow clock) draws d with
    | (d, .error .powerLost) => (d, r, none)
    | (d, .error (.error _)) => (d, r, some false)
    | (d, .ok leaf) => (d, { r with identity := { r.identity with leaf } }, some certified)

end Rayhunter.Tls
