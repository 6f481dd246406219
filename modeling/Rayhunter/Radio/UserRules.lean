import Mathlib.Data.String.Basic
import Rayhunter.Analysis.Serde
import Rayhunter.Lib.Checks
import Rayhunter.Lib.SortedMap
import Rayhunter.Radio.Signature

/-!
# Rules a user writes

`UserRuleSet` (`radio/src/userrules.rs`): what is refused of a set, what signatures are made of it,
and its form in JSON. A set that is not refused is turned into signatures, one for each rule that is
enabled, and each of these matches only what every criterion of the rule holds for
(`toSignatures_of_validate`).
-/

namespace Rayhunter

open Checks

/-- `UserCriterion` (`userrules.rs:42`). -/
inductive UserCriterion
  | mac (mac : String)
  | macPrefix (pre : String)
  | ssidExact (ssid : String)
  | ssidContains (substring : String)
  | ssidGlob (pattern : String)
  | bleCompanyId (id : UInt16)
  | bleServiceUuid (uuid : String)
  | bleNameContains (substring : String)
  deriving DecidableEq, Repr

/-- `UserRule` (`userrules.rs:65`). -/
structure UserRule where
  id : String
  name : String
  description : String := ""
  enabled : Bool := true
  technology : RadioTech
  severity : Severity
  criteria : List UserCriterion
  cooldownSecs : UInt32 := 0
  notes : Option String := none
  deriving DecidableEq, Repr

/-- `AllowlistEntry` (`userrules.rs:119`). -/
structure AllowlistEntry where
  pre : String
  label : String := ""
  deriving DecidableEq, Repr

/-- `UserRuleSet` (`userrules.rs:95`). -/
structure UserRuleSet where
  rules : List UserRule := []
  allowlist : List AllowlistEntry := []
  builtinOverrides : SortedMap String Bool := .empty
  deriving DecidableEq

/-! ## What is refused -/

/-- `RuleError` (`userrules.rs:360`), but for what `serde_json` refuses. -/
inductive RuleError
  | tooManyRules (count max : Nat)
  | tooManyAllowlistEntries (count max : Nat)
  | duplicateId (id : String)
  | emptyField (field : String)
  | tooLong (field : String) (len max : Nat)
  | noCriteria (name : String)
  | tooManyCriteria (name : String) (max : Nat)
  | badMac (value reason : String)
  | badPrefix (value reason : String)
  | tooManyWildcards (count max : Nat)
  | matchesEverything
  | cooldownTooLong (secs max : Nat)
  deriving DecidableEq, Repr

/-- The texts of the errors. -/
def RuleError.display : RuleError → String
  | tooManyRules count max => s!"{count} rules is more than the {max} allowed"
  | tooManyAllowlistEntries count max =>
    s!"{count} ignore-list entries is more than the {max} allowed"
  | duplicateId id => s!"two rules share the id '{id}'"
  | emptyField field => s!"{field} cannot be empty"
  | tooLong field len max => s!"{field} is {len} characters, longer than the {max} allowed"
  | noCriteria name => s!"rule '{name}' has no criteria, so it would match every device"
  | tooManyCriteria name max => s!"rule '{name}' has more than the {max} criteria allowed"
  | badMac value reason => s!"'{value}' is not a valid MAC address: {reason}"
  | badPrefix value reason => s!"'{value}' is not a valid address prefix: {reason}"
  | tooManyWildcards count max => s!"{count} wildcards is more than the {max} allowed"
  | matchesEverything => "that pattern would match every network"
  | cooldownTooLong secs max => s!"cooldown of {secs}s is longer than the {max}s allowed"

/-- `limits` (`userrules.rs:23`). -/
def MAX_RULES : Nat := 256
@[inherit_doc MAX_RULES] def MAX_NAME : Nat := 64
@[inherit_doc MAX_RULES] def MAX_DESCRIPTION : Nat := 512
@[inherit_doc MAX_RULES] def MAX_NOTES : Nat := 512
@[inherit_doc MAX_RULES] def MAX_CRITERIA_PER_RULE : Nat := 8
@[inherit_doc MAX_RULES] def MAX_PATTERN : Nat := 64
@[inherit_doc MAX_RULES] def MAX_WILDCARDS : Nat := 4
@[inherit_doc MAX_RULES] def MAX_ALLOWLIST : Nat := 256
@[inherit_doc MAX_RULES] def MAX_COOLDOWN_SECS : Nat := 86400

/-- `check_len` (`userrules.rs:347`). -/
def checkLen (field value : String) (max : Nat) : Except RuleError Unit :=
  refuseIf (max < value.length) (.tooLong field value.length max)

/-- `MacAddr::parse`, with the error of a rule. -/
def parseMac (mac : String) : Except RuleError MacAddr :=
  (MacAddr.parse mac.toList).mapError fun e => .badMac mac e.display

/-- `MacPrefix::parse`, with the error of a rule. -/
def parsePrefix (pre : String) : Except RuleError MacPrefix :=
  (MacPrefix.parse pre.toList).mapError fun e => .badPrefix pre e.display

/-- `validate_criterion` (`userrules.rs:266`). -/
def validateCriterion : UserCriterion → Except RuleError Unit
  | .mac mac => (parseMac mac).map fun _ => ()
  | .macPrefix pre => (parsePrefix pre).map fun _ => ()
  | .ssidExact ssid => checkLen "SSID" ssid MAX_PATTERN
  | .ssidContains substring =>
    inTurn [refuseIf (substring = "") (.emptyField "substring"),
      checkLen "SSID text" substring MAX_PATTERN]
  | .ssidGlob pattern =>
    let wildcards := (pattern.toList.filter fun c => c == '*' || c == '?').length
    inTurn [refuseIf (pattern = "") (.emptyField "pattern"),
      checkLen "pattern" pattern MAX_PATTERN,
      refuseIf (MAX_WILDCARDS < wildcards) (.tooManyWildcards wildcards MAX_WILDCARDS),
      refuseIf (pattern.toList.all (· == '*') = true) .matchesEverything]
  | .bleCompanyId _ => .ok ()
  | .bleServiceUuid uuid =>
    inTurn [checkLen "UUID" uuid MAX_PATTERN, refuseIf (Text.trim uuid = "") (.emptyField "uuid")]
  | .bleNameContains substring =>
    inTurn [refuseIf (substring = "") (.emptyField "substring"),
      checkLen "name text" substring MAX_PATTERN]

/-- `UserRule::validate` (`userrules.rs:202`). -/
def UserRule.validate (rule : UserRule) : Except RuleError Unit :=
  inTurn ([refuseIf (Text.trim rule.id = "") (.emptyField "id"),
    refuseIf (Text.trim rule.name = "") (.emptyField "name"),
    checkLen "name" rule.name MAX_NAME,
    checkLen "description" rule.description MAX_DESCRIPTION,
    match rule.notes with
    | some notes => checkLen "notes" notes MAX_NOTES
    | none => .ok (),
    refuseIf (rule.criteria = []) (.noCriteria rule.name),
    refuseIf (MAX_CRITERIA_PER_RULE < rule.criteria.length)
      (.tooManyCriteria rule.name MAX_CRITERIA_PER_RULE),
    refuseIf (MAX_COOLDOWN_SECS < rule.cooldownSecs.toNat)
      (.cooldownTooLong rule.cooldownSecs.toNat MAX_COOLDOWN_SECS)] ++
    rule.criteria.map validateCriterion)

/-- The loop over the rules, with the ids it has seen. -/
def validateRules (seen : List String) : List UserRule → Except RuleError Unit
  | [] => .ok ()
  | rule :: rules =>
    andThen rule.validate
      (andThen (refuseIf (rule.id ∈ seen) (.duplicateId rule.id))
        (validateRules (seen ++ [rule.id]) rules))

/-- What is refused of an ignored device. -/
def AllowlistEntry.validate (entry : AllowlistEntry) : Except RuleError Unit :=
  andThen ((parsePrefix entry.pre).map fun _ => ()) (checkLen "allowlist label" entry.label MAX_NAME)

/-- `UserRuleSet::validate` (`userrules.rs:134`). -/
def UserRuleSet.validate (set : UserRuleSet) : Except RuleError Unit :=
  let overrides := set.builtinOverrides.entries
  inTurn ([refuseIf (MAX_RULES < set.rules.length) (.tooManyRules set.rules.length MAX_RULES),
    refuseIf (MAX_ALLOWLIST < set.allowlist.length)
      (.tooManyAllowlistEntries set.allowlist.length MAX_ALLOWLIST),
    validateRules [] set.rules,
    refuseIf (MAX_RULES < overrides.length) (.tooManyRules overrides.length MAX_RULES)] ++
    overrides.map (fun e => checkLen "signature id" e.1 MAX_NAME) ++
    set.allowlist.map AllowlistEntry.validate)

/-! ## What signatures are made -/

/-- `convert_criterion` (`userrules.rs:315`). -/
def convertCriterion : UserCriterion → Except RuleError MatchCondition
  | .mac mac => (parseMac mac).map fun mac => .macExact .any mac
  | .macPrefix pre => (parsePrefix pre).map fun pre => .macPrefix .any pre true
  | .ssidExact ssid => .ok (.ssidExact ssid)
  | .ssidContains substring => .ok (.ssidContains substring)
  | .ssidGlob pattern => .ok (.ssidGlob pattern)
  | .bleCompanyId id => .ok (.bleCompanyId id)
  | .bleServiceUuid uuid => .ok (.bleServiceUuid uuid)
  | .bleNameContains substring => .ok (.bleNameContains substring)

/-- `UserRule::to_signature` (`userrules.rs:238`), without the texts that only people read. -/
def UserRule.toSignature (rule : UserRule) : Except RuleError Signature :=
  (rule.criteria.mapM convertCriterion).map fun conditions =>
    { id := "user." ++ rule.id
      vendor := "user-defined"
      product := some rule.name
      technology := rule.technology
      conditions
      confidence := .low
      severity := rule.severity
      enabled := true }

/-- `UserRuleSet::to_signatures` (`userrules.rs:192`). -/
def UserRuleSet.toSignatures (set : UserRuleSet) : Except RuleError (List Signature) :=
  (set.rules.filter (·.enabled)).mapM UserRule.toSignature

/-! ## What a criterion is about -/

/-- The addresses of what was seen. -/
def ObservationPayload.addresses : ObservationPayload → List MacAddr
  | wifi w => addressesFor .any w
  | ble b => b.address.toList
  | remoteId => []

/-- The name of a network that was seen. -/
def ObservationPayload.ssid : ObservationPayload → Option Ssid
  | wifi w => w.ssid
  | _ => none

/-- A criterion holds for what was seen: an address that has the digits that are written, or starts
with them, a name that is the one written, contains it or has its pattern, and so on. -/
def UserCriterion.HoldsFor (p : ObservationPayload) : UserCriterion → Prop
  | mac s => ∃ a ∈ p.addresses, collectHexDigits s.toList = .ok a.nibbles
  | macPrefix s =>
    ∃ a ∈ p.addresses, ∃ digits, collectHexDigits s.toList = .ok digits ∧ digits <+: a.nibbles
  | ssidExact s => ∃ name, p.ssid = some name ∧ name.display = s
  | ssidContains s => ∃ name, p.ssid = some name ∧ s.toList <:+: name.display.toList
  | ssidGlob s => ∃ name, p.ssid = some name ∧ GlobMatch s.toList name.display.toList
  | bleCompanyId id => ∃ b, p = .ble b ∧ b.companyId = some id
  | bleServiceUuid s => ∃ b, p = .ble b ∧ ∃ uuid ∈ b.serviceUuids, eqIgnoreAsciiCase uuid s = true
  | bleNameContains s =>
    ∃ b, p = .ble b ∧ ∃ name, b.localName = some name ∧ s.toList <:+: name.toList

theorem parseMac_eq_ok {s : String} {a : MacAddr} (h : parseMac s = .ok a) :
    MacAddr.parse s.toList = .ok a := by
  unfold parseMac at h
  cases hp : MacAddr.parse s.toList with
  | error e => rw [hp] at h; cases h
  | ok a' => rw [hp] at h; cases h; rfl

theorem parsePrefix_eq_ok {s : String} {p : MacPrefix} (h : parsePrefix s = .ok p) :
    MacPrefix.parse s.toList = .ok p := by
  unfold parsePrefix at h
  cases hp : MacPrefix.parse s.toList with
  | error e => rw [hp] at h; cases h
  | ok p' => rw [hp] at h; cases h; rfl

/-- A criterion that is not refused has a condition. -/
theorem exists_convertCriterion {c : UserCriterion} (h : validateCriterion c = .ok ()) :
    ∃ condition, convertCriterion c = .ok condition := by
  cases c with
  | mac s =>
    cases hs : parseMac s with
    | error e => rw [validateCriterion, hs] at h; cases h
    | ok a => exact ⟨_, by rw [convertCriterion, hs]; rfl⟩
  | macPrefix s =>
    cases hs : parsePrefix s with
    | error e => rw [validateCriterion, hs] at h; cases h
    | ok p => exact ⟨_, by rw [convertCriterion, hs]; rfl⟩
  | ssidExact | ssidContains | ssidGlob | bleCompanyId | bleServiceUuid | bleNameContains =>
    exact ⟨_, rfl⟩

section
variable [DebugStr]

/-- The condition made of a criterion is met by a network only if the criterion holds for it. -/
theorem holdsFor_of_matchWifi {c : UserCriterion} {condition : MatchCondition} {w : WifiObservation}
    (hc : convertCriterion c = .ok condition) (h : (matchWifi condition w).isSome = true) :
    c.HoldsFor (.wifi w) := by
  rw [isSome_matchWifi] at h
  cases c with
  | mac s =>
    cases hs : parseMac s with
    | error e => rw [convertCriterion, hs] at hc; cases hc
    | ok a =>
      rw [convertCriterion, hs] at hc
      cases hc
      exact ⟨a, h, MacAddr.nibbles_of_parse (parseMac_eq_ok hs)⟩
  | macPrefix s =>
    cases hs : parsePrefix s with
    | error e => rw [convertCriterion, hs] at hc; cases hc
    | ok p =>
      rw [convertCriterion, hs] at hc
      cases hc
      obtain ⟨a, ha, hhits⟩ := h
      have hmatches : p.matches a = true := (Bool.and_eq_true_iff.1 hhits).2
      exact ⟨a, ha, MacPrefix.prefix_nibbles (parsePrefix_eq_ok hs) hmatches⟩
  | ssidExact s | ssidContains s =>
    cases hc
    exact h
  | ssidGlob s =>
    cases hc
    obtain ⟨name, hname, hglob⟩ := h
    exact ⟨name, hname, globMatch_sound hglob⟩
  | bleCompanyId | bleServiceUuid | bleNameContains =>
    cases hc
    exact h.elim

/-- The same of a Bluetooth device. -/
theorem holdsFor_of_matchBle {c : UserCriterion} {condition : MatchCondition} {b : BleObservation}
    (hc : convertCriterion c = .ok condition) (h : (matchBle condition b).isSome = true) :
    c.HoldsFor (.ble b) := by
  cases c with
  | mac s =>
    cases hs : parseMac s with
    | error e => rw [convertCriterion, hs] at hc; cases hc
    | ok a =>
      rw [convertCriterion, hs] at hc
      cases hc
      rw [matchBle] at h
      cases haddress : b.address with
      | none => rw [haddress] at h; cases h
      | some a' =>
        rw [haddress, Option.bind_some] at h
        split at h
        · next heq =>
          refine ⟨a', ?_, ?_⟩
          · rw [ObservationPayload.addresses, haddress]
            exact List.mem_singleton_self _
          · rw [heq]
            exact MacAddr.nibbles_of_parse (parseMac_eq_ok hs)
        · cases h
  | macPrefix s =>
    cases hs : parsePrefix s with
    | error e => rw [convertCriterion, hs] at hc; cases hc
    | ok p =>
      rw [convertCriterion, hs] at hc
      cases hc
      rw [matchBle] at h
      cases haddress : b.address with
      | none => rw [haddress] at h; cases h
      | some a =>
        rw [haddress, Option.bind_some] at h
        split at h
        · cases h
        split at h
        · cases h
        split at h
        · next hmatches =>
          refine ⟨a, ?_, MacPrefix.prefix_nibbles (parsePrefix_eq_ok hs) hmatches⟩
          rw [ObservationPayload.addresses, haddress]
          exact List.mem_singleton_self _
        · cases h
  | ssidExact | ssidContains | ssidGlob =>
    cases hc
    cases h
  | bleCompanyId id =>
    cases hc
    rw [matchBle] at h
    cases hid : b.companyId with
    | none => rw [hid] at h; cases h
    | some id' =>
      rw [hid, Option.bind_some] at h
      split at h
      · next heq => exact ⟨b, rfl, by rw [hid, heq]⟩
      · cases h
  | bleServiceUuid s =>
    cases hc
    rw [matchBle] at h
    split at h
    · next hany => exact ⟨b, rfl, List.any_eq_true.1 hany⟩
    · cases h
  | bleNameContains s =>
    cases hc
    rw [matchBle] at h
    cases hname : b.localName with
    | none => rw [hname] at h; cases h
    | some name =>
      rw [hname, Option.bind_some] at h
      split at h
      · next hcontains => exact ⟨b, rfl, name, hname, by simpa [Text.contains] using hcontains⟩
      · cases h

/-- The condition made of a criterion gives a reason only where the criterion holds. -/
theorem holdsFor_of_matchOne {c : UserCriterion} {condition : MatchCondition}
    {p : ObservationPayload} (hc : convertCriterion c = .ok condition)
    (h : (matchOne condition p).isSome = true) : c.HoldsFor p := by
  cases p with
  | wifi w => exact holdsFor_of_matchWifi hc h
  | ble b => exact holdsFor_of_matchBle hc h
  | remoteId => cases h

/-- A signature is made of a rule: it matches only what is of the technology of the rule, and only
where every criterion of it holds. -/
def UserRule.Signed (rule : UserRule) (sig : Signature) : Prop :=
  sig.id = "user." ++ rule.id ∧ sig.severity = rule.severity ∧
    ∀ p, (sig.detect p).isSome = true → rule.technology = p.tech ∧ ∀ c ∈ rule.criteria, c.HoldsFor p

theorem UserRule.signed_of_toSignature {rule : UserRule} {sig : Signature}
    (h : rule.toSignature = .ok sig) : rule.Signed sig := by
  unfold toSignature at h
  cases hconditions : rule.criteria.mapM convertCriterion with
  | error e => rw [hconditions] at h; cases h
  | ok conditions =>
    rw [hconditions] at h
    cases h
    refine ⟨rfl, rfl, fun p hp => ?_⟩
    unfold Signature.detect at hp
    split at hp
    · cases hp
    next htech =>
    rw [Option.isSome_map, isSome_matchAll] at hp
    refine ⟨not_not.1 htech, fun c hc => ?_⟩
    obtain ⟨condition, hcondition, hconvert⟩ := exists_of_mapM hconditions hc
    exact holdsFor_of_matchOne hconvert (hp condition hcondition)

omit [DebugStr] in
theorem validate_of_validateRules {seen : List String} {rules : List UserRule}
    (h : validateRules seen rules = .ok ()) : ∀ rule ∈ rules, rule.validate = .ok () := by
  induction rules generalizing seen with
  | nil => exact fun _ hrule => absurd hrule List.not_mem_nil
  | cons rule rules ih =>
    rw [validateRules, andThen_eq_ok, andThen_eq_ok] at h
    rw [List.forall_mem_cons]
    exact ⟨h.1, ih h.2.2⟩

omit [DebugStr] in
/-- A rule that is not refused has a signature. -/
theorem UserRule.exists_toSignature {rule : UserRule} (h : rule.validate = .ok ()) :
    ∃ sig, rule.toSignature = .ok sig := by
  rw [validate, inTurn_eq_ok] at h
  have hconvert : ∀ c ∈ rule.criteria, ∃ condition, convertCriterion c = .ok condition := by
    intro c hc
    exact exists_convertCriterion (h _ (List.mem_append_right _ (List.mem_map_of_mem hc)))
  obtain ⟨conditions, hconditions⟩ := exists_mapM hconvert
  exact ⟨_, by rw [toSignature, hconditions]; rfl⟩

/-- **A set that is not refused is signed**: there is one signature for each rule that is enabled,
and each matches only what every criterion of its rule holds for. -/
theorem UserRuleSet.toSignatures_of_validate {set : UserRuleSet} (h : set.validate = .ok ()) :
    ∃ sigs, set.toSignatures = .ok sigs ∧
      List.Forall₂ UserRule.Signed (set.rules.filter (·.enabled)) sigs := by
  rw [validate, inTurn_eq_ok] at h
  have hrules := validate_of_validateRules
    (h (validateRules [] set.rules) (List.mem_append_left _ (List.mem_append_left _ (by simp))))
  obtain ⟨sigs, hsigs⟩ := exists_mapM fun rule hrule =>
    UserRule.exists_toSignature (hrules rule (List.mem_of_mem_filter hrule))
  exact ⟨sigs, hsigs, (forall₂_of_mapM hsigs).imp fun _ _ => UserRule.signed_of_toSignature⟩

end

end Rayhunter
