import Rayhunter.Radio.UserRules

/-!
# The rules of a user in JSON

What `serde` writes for a `UserRuleSet` and how it reads one back, with the attributes of the source:
criteria are told apart by the member `type`, and what may be left out has its default. A set that is
written is read back as it was (`UserRuleSet.deserialize_toJson`).
-/

namespace Rayhunter

/-! ## Writing -/

/-- The names `RadioTech` is written with. -/
def RadioTech.names : List (String × RadioTech) :=
  [("wifi", .wifi), ("ble", .ble), ("remote_id", .remoteId)]

/-- The names `Severity` is written with. -/
def Severity.names : List (String × Severity) :=
  [("informational", .informational), ("low", .low), ("medium", .medium), ("high", .high)]

def RadioTech.toJson : RadioTech → Json
  | wifi => .str "wifi"
  | ble => .str "ble"
  | remoteId => .str "remote_id"

def Severity.toJson : Severity → Json
  | informational => .str "informational"
  | low => .str "low"
  | medium => .str "medium"
  | high => .str "high"

def UserCriterion.toJson : UserCriterion → Json
  | mac address => .obj [("type", .str "mac"), ("mac", .str address)]
  | macPrefix pre => .obj [("type", .str "mac_prefix"), ("prefix", .str pre)]
  | ssidExact ssid => .obj [("type", .str "ssid_exact"), ("ssid", .str ssid)]
  | ssidContains substring => .obj [("type", .str "ssid_contains"), ("substring", .str substring)]
  | ssidGlob pattern => .obj [("type", .str "ssid_glob"), ("pattern", .str pattern)]
  | bleCompanyId id => .obj [("type", .str "ble_company_id"), ("id", .int id.toNat)]
  | bleServiceUuid uuid => .obj [("type", .str "ble_service_uuid"), ("uuid", .str uuid)]
  | bleNameContains substring =>
    .obj [("type", .str "ble_name_contains"), ("substring", .str substring)]

/-- The fields of a rule; notes that there are none of are left out. -/
def UserRule.members (rule : UserRule) : List (String × Json) :=
  [("id", .str rule.id), ("name", .str rule.name), ("description", .str rule.description),
    ("enabled", .bool rule.enabled), ("technology", rule.technology.toJson),
    ("severity", rule.severity.toJson), ("criteria", .arr (rule.criteria.map UserCriterion.toJson)),
    ("cooldown_secs", .int rule.cooldownSecs.toNat)] ++
    match rule.notes with
    | some notes => [("notes", .str notes)]
    | none => []

def UserRule.toJson (rule : UserRule) : Json := .obj rule.members

def AllowlistEntry.toJson (entry : AllowlistEntry) : Json :=
  .obj [("prefix", .str entry.pre), ("label", .str entry.label)]

def UserRuleSet.toJson (set : UserRuleSet) : Json :=
  .obj [("rules", .arr (set.rules.map UserRule.toJson)),
    ("allowlist", .arr (set.allowlist.map AllowlistEntry.toJson)),
    ("builtin_overrides", .obj (set.builtinOverrides.entries.map fun e => (e.1, .bool e.2)))]

/-! ## Reading -/

/-- The members of a struct with these fields, which may be written as a sequence. -/
def structMembers (fields : List String) : Json → Option (List (String × Json))
  | .obj ms => some ms
  | .arr xs => if xs.length ≤ fields.length then some (fields.zip xs) else none
  | _ => none

/-- A field with `#[serde(default)]`. -/
def defaulted {α : Type} (f : Json → Option α) (default : α) (ms : List (String × Json))
    (key : String) : Option α :=
  match field ms key with
  | some (some v) => f v
  | some none => some default
  | none => none

def deBool : Json → Option Bool
  | .bool b => some b
  | _ => none

def deU16 : Json → Option UInt16
  | .int n => if 0 ≤ n ∧ n < 2 ^ 16 then some (UInt16.ofNat n.toNat) else none
  | _ => none

def deUInt32 : Json → Option UInt32
  | .int n => if 0 ≤ n ∧ n < 2 ^ 32 then some (UInt32.ofNat n.toNat) else none
  | _ => none

/-- A value of an enum without fields, by its name, or as the one member of an object. -/
def deVariant {α : Type} (names : List (String × α)) : Json → Option α
  | .str s => names.lookup s
  | .obj [(s, .null)] => names.lookup s
  | _ => none

/-- The member beside the `type` of a criterion, which is the only one it has. -/
def besideType {α : Type} (f : Json → Option α) (key : String) : Json → Option α
  | .obj ms => required f (ms.filter fun m => m.1 ≠ "type") key
  | .arr [_, v] => f v
  | _ => none

/-- The `type` of a criterion. -/
def criterionType : Json → Option String
  | .obj ms => required deString ms "type"
  | .arr (t :: _) => deString t
  | _ => none

def UserCriterion.deserialize (j : Json) : Option UserCriterion :=
  match criterionType j with
  | some "mac" => (besideType deString "mac" j).map mac
  | some "mac_prefix" => (besideType deString "prefix" j).map macPrefix
  | some "ssid_exact" => (besideType deString "ssid" j).map ssidExact
  | some "ssid_contains" => (besideType deString "substring" j).map ssidContains
  | some "ssid_glob" => (besideType deString "pattern" j).map ssidGlob
  | some "ble_company_id" => (besideType deU16 "id" j).map bleCompanyId
  | some "ble_service_uuid" => (besideType deString "uuid" j).map bleServiceUuid
  | some "ble_name_contains" => (besideType deString "substring" j).map bleNameContains
  | _ => none

def UserRule.deserialize (j : Json) : Option UserRule := do
  let ms ← structMembers ["id", "name", "description", "enabled", "technology", "severity",
    "criteria", "cooldown_secs", "notes"] j
  let id ← required deString ms "id"
  let name ← required deString ms "name"
  let description ← defaulted deString "" ms "description"
  let enabled ← defaulted deBool true ms "enabled"
  let technology ← required (deVariant RadioTech.names) ms "technology"
  let severity ← required (deVariant Severity.names) ms "severity"
  let criteria ← required (deVec UserCriterion.deserialize) ms "criteria"
  let cooldownSecs ← defaulted deUInt32 0 ms "cooldown_secs"
  let notes ← defaulted (deOption deString) none ms "notes"
  some { id, name, description, enabled, technology, severity, criteria, cooldownSecs, notes }

def AllowlistEntry.deserialize (j : Json) : Option AllowlistEntry := do
  let ms ← structMembers ["prefix", "label"] j
  let pre ← required deString ms "prefix"
  let label ← defaulted deString "" ms "label"
  some { pre, label }

/-- A map from names to flags: the last value counts where a name is repeated. -/
def deOverrides : Json → Option (SortedMap String Bool)
  | .obj ms => (ms.mapM fun m => (deBool m.2).map fun b => (m.1, b)).map SortedMap.ofEntries
  | _ => none

def UserRuleSet.deserialize (j : Json) : Option UserRuleSet := do
  let ms ← structMembers ["rules", "allowlist", "builtin_overrides"] j
  let rules ← defaulted (deVec UserRule.deserialize) [] ms "rules"
  let allowlist ← defaulted (deVec AllowlistEntry.deserialize) [] ms "allowlist"
  let builtinOverrides ← defaulted deOverrides .empty ms "builtin_overrides"
  some { rules, allowlist, builtinOverrides }

/-- `UserRuleSet::from_json` (`userrules.rs:128`). `none` is `RuleError::Parse`, whose text is that of
`serde_json`. -/
def UserRuleSet.fromJson [SerdeJson] (input : String) : Except (Option RuleError) UserRuleSet :=
  match (SerdeJson.fromStr input).bind deserialize with
  | none => .error none
  | some set =>
    match set.validate with
    | .error e => .error (some e)
    | .ok () => .ok set

/-! ## Reading what was written -/

theorem deU16_toNat (n : UInt16) : deU16 (.int n.toNat) = some n := by
  have hlt : n.toNat < 2 ^ 16 := n.toNat_lt
  rw [deU16, if_pos ⟨by omega, by omega⟩, Int.toNat_natCast, UInt16.ofNat_toNat]

theorem deUInt32_toNat (n : UInt32) : deUInt32 (.int n.toNat) = some n := by
  have hlt : n.toNat < 2 ^ 32 := n.toNat_lt
  rw [deUInt32, if_pos ⟨by omega, by omega⟩, Int.toNat_natCast, UInt32.ofNat_toNat]

/-- A list is read back if each of its elements is. -/
theorem deVec_map {α : Type} {f : Json → Option α} {g : α → Json} (h : ∀ a, f (g a) = some a)
    (l : List α) : deVec f (.arr (l.map g)) = some l := by
  rw [deVec, List.mapM_map]
  induction l with
  | nil => rfl
  | cons a l ih =>
    rw [List.mapM_cons, Function.comp_apply, h, ih]
    rfl

theorem RadioTech.deserialize_toJson (t : RadioTech) : deVariant names t.toJson = some t := by
  cases t <;> rfl

theorem Severity.deserialize_toJson (s : Severity) : deVariant names s.toJson = some s := by
  cases s <;> rfl

theorem UserCriterion.deserialize_toJson (c : UserCriterion) : deserialize c.toJson = some c := by
  cases c with
  | bleCompanyId id =>
    simp [deserialize, toJson, criterionType, besideType, required, field, Json.occurrences,
      deString, deU16_toNat]
  | mac | macPrefix | ssidExact | ssidContains | ssidGlob | bleServiceUuid | bleNameContains =>
    simp [deserialize, toJson, criterionType, besideType, required, field, Json.occurrences,
      deString]

/-- A field is read where it is written, if no field is written twice. -/
theorem field_of_mem {ms : List (String × Json)} {key : String} {v : Json}
    (hnodup : (ms.map (·.1)).Nodup) (h : (key, v) ∈ ms) : field ms key = some (some v) := by
  have hone : Json.occurrences key ms = [v] := by
    induction ms with
    | nil => cases h
    | cons m ms ih =>
      obtain ⟨k, w⟩ := m
      rw [List.map_cons, List.nodup_cons] at hnodup
      rw [Json.occurrences_cons]
      rcases List.mem_cons.1 h with heq | h
      · cases heq
        have hnone : Json.occurrences key ms = [] := by
          rw [Json.occurrences, List.map_eq_nil_iff, List.filter_eq_nil_iff]
          intro m hm heq
          exact hnodup.1 (List.mem_map.2 ⟨m, hm, of_decide_eq_true heq⟩)
        rw [if_pos rfl, hnone]
      · rw [if_neg, ih hnodup.2 h]
        rintro rfl
        exact hnodup.1 (List.mem_map.2 ⟨_, h, rfl⟩)
  rw [field, hone]

theorem required_of_mem {α : Type} {f : Json → Option α} {ms : List (String × Json)} {key : String}
    {v : Json} (hnodup : (ms.map (·.1)).Nodup) (h : (key, v) ∈ ms) : required f ms key = f v := by
  rw [required, field_of_mem hnodup h]

theorem defaulted_of_mem {α : Type} {f : Json → Option α} {default : α} {ms : List (String × Json)}
    {key : String} {v : Json} (hnodup : (ms.map (·.1)).Nodup) (h : (key, v) ∈ ms) :
    defaulted f default ms key = f v := by
  rw [defaulted, field_of_mem hnodup h]

theorem defaulted_of_not_mem {α : Type} {f : Json → Option α} {default : α}
    {ms : List (String × Json)} {key : String} (h : key ∉ ms.map (·.1)) :
    defaulted f default ms key = some default := by
  have hnone : Json.occurrences key ms = [] := by
    rw [Json.occurrences, List.map_eq_nil_iff, List.filter_eq_nil_iff]
    intro m hm heq
    exact h (List.mem_map.2 ⟨m, hm, of_decide_eq_true heq⟩)
  rw [defaulted, field, hnone]

theorem UserRule.nodup_members (rule : UserRule) : (rule.members.map (·.1)).Nodup := by
  unfold members
  cases rule.notes <;> simp

theorem UserRule.deserialize_toJson (rule : UserRule) : deserialize rule.toJson = some rule := by
  have hnodup := rule.nodup_members
  have hnotes : defaulted (deOption deString) none rule.members "notes" = some rule.notes := by
    cases hnotes : rule.notes with
    | none => exact defaulted_of_not_mem (by simp [members, hnotes])
    | some notes =>
      have hmem : ("notes", .str notes) ∈ rule.members := by simp [members, hnotes]
      exact defaulted_of_mem hnodup hmem
  rw [deserialize, toJson, structMembers]
  simp only [Option.bind_eq_bind, Option.bind_some]
  rw [required_of_mem hnodup (v := .str rule.id) (by simp [members]),
    required_of_mem hnodup (v := .str rule.name) (by simp [members]),
    defaulted_of_mem hnodup (v := .str rule.description) (by simp [members]),
    defaulted_of_mem hnodup (v := .bool rule.enabled) (by simp [members]),
    required_of_mem hnodup (v := rule.technology.toJson) (by simp [members]),
    required_of_mem hnodup (v := rule.severity.toJson) (by simp [members]),
    required_of_mem hnodup (v := .arr (rule.criteria.map UserCriterion.toJson)) (by simp [members]),
    defaulted_of_mem hnodup (v := .int rule.cooldownSecs.toNat) (by simp [members]), hnotes,
    rule.technology.deserialize_toJson, rule.severity.deserialize_toJson,
    deVec_map UserCriterion.deserialize_toJson, deUInt32_toNat]
  rfl

theorem AllowlistEntry.deserialize_toJson (entry : AllowlistEntry) :
    deserialize entry.toJson = some entry := by
  simp [deserialize, toJson, structMembers, required, defaulted, field, Json.occurrences, deString]

theorem deOverrides_entries (m : SortedMap String Bool) :
    deOverrides (.obj (m.entries.map fun e => (e.1, .bool e.2))) = some m := by
  have hall : ∀ es : List (String × Bool), (es.map fun e => (e.1, Json.bool e.2)).mapM
      (fun m => (deBool m.2).map fun b => (m.1, b)) = some es := by
    intro es
    induction es with
    | nil => rfl
    | cons e es ih =>
      rw [List.map_cons, List.mapM_cons, ih]
      rfl
  rw [deOverrides, hall, Option.map_some, SortedMap.ofEntries_entries]

/-- **A set that is written is read back** as it was. -/
theorem UserRuleSet.deserialize_toJson (set : UserRuleSet) : deserialize set.toJson = some set := by
  have hrules := deVec_map UserRule.deserialize_toJson set.rules
  have hallowlist := deVec_map AllowlistEntry.deserialize_toJson set.allowlist
  have hoverrides := deOverrides_entries set.builtinOverrides
  simp [deserialize, toJson, structMembers, defaulted, field, Json.occurrences, hrules, hallowlist,
    hoverrides]

/-! ## The values that are written -/

open JsonText

theorem plainAt_str {d : Nat} (s : String) : PlainAt d (.str s) := by cases d <;> trivial

theorem plainAt_bool {d : Nat} (b : Bool) : PlainAt d (.bool b) := by cases d <;> trivial

theorem plainAt_nat {d n : Nat} (h : n < 2 ^ 64) : PlainAt d (.int n) := by
  cases d <;> exact ⟨by omega, by omega⟩

theorem UserCriterion.plainAt_toJson {d : Nat} (c : UserCriterion) : PlainAt (d + 1) c.toJson := by
  cases c with
  | bleCompanyId id =>
    have hlt : id.toNat < 2 ^ 16 := id.toNat_lt
    rintro m hm
    simp only [List.mem_cons, List.not_mem_nil, or_false] at hm
    rcases hm with rfl | rfl
    · exact plainAt_str _
    · exact plainAt_nat (by omega)
  | mac | macPrefix | ssidExact | ssidContains | ssidGlob | bleServiceUuid | bleNameContains =>
    rintro m hm
    simp only [List.mem_cons, List.not_mem_nil, or_false] at hm
    rcases hm with rfl | rfl <;> exact plainAt_str _

theorem UserRule.plainAt_toJson {d : Nat} (rule : UserRule) : PlainAt (d + 3) rule.toJson := by
  have hlt : rule.cooldownSecs.toNat < 2 ^ 32 := rule.cooldownSecs.toNat_lt
  intro m hm
  simp only [UserRule.members, List.mem_append, List.mem_cons, List.not_mem_nil, or_false] at hm
  rcases hm with (rfl | rfl | rfl | rfl | rfl | rfl | rfl | rfl) | hm
  · exact plainAt_str _
  · exact plainAt_str _
  · exact plainAt_str _
  · exact plainAt_bool _
  · show PlainAt _ rule.technology.toJson
    cases rule.technology <;> exact plainAt_str _
  · show PlainAt _ rule.severity.toJson
    cases rule.severity <;> exact plainAt_str _
  · intro x hx
    obtain ⟨c, -, rfl⟩ := List.mem_map.1 hx
    exact c.plainAt_toJson
  · exact plainAt_nat (by omega)
  · cases hnotes : rule.notes with
    | none => rw [hnotes] at hm; cases hm
    | some notes =>
      rw [hnotes] at hm
      obtain rfl := List.mem_singleton.1 hm
      exact plainAt_str _

/-- A set is written with values that nest no deeper than a reader goes. -/
theorem UserRuleSet.plainAt_toJson (set : UserRuleSet) : PlainAt maxDepth set.toJson := by
  have hdepth : maxDepth = 122 + 3 + 1 + 1 := rfl
  rw [hdepth]
  rintro m hm
  simp only [List.mem_cons, List.not_mem_nil, or_false] at hm
  rcases hm with rfl | rfl | rfl
  · intro x hx
    obtain ⟨rule, -, rfl⟩ := List.mem_map.1 hx
    exact rule.plainAt_toJson
  · intro x hx
    obtain ⟨entry, -, rfl⟩ := List.mem_map.1 hx
    rintro m hm
    simp only [List.mem_cons, List.not_mem_nil, or_false] at hm
    rcases hm with rfl | rfl <;> exact plainAt_str _
  · intro x hx
    obtain ⟨e, -, rfl⟩ := List.mem_map.1 hx
    exact plainAt_bool _

end Rayhunter
