import Rayhunter.Lib.JsonPretty
import Rayhunter.Lib.Replacing
import Rayhunter.Radio.Coverage
import Rayhunter.Radio.RulesJson
import Rayhunter.Store.Disk

/-!
# The file with the rules of a user

`set_wifi_rules` and `load_user_rules` (`daemon/src/wifi_survey.rs`). A request is checked, its set is
written to a file beside the one with the rules, and that is renamed. A file that cannot be read is
no rules at all. Any number of requests write the same file beside, each from its own task and in a
thread of its own, which writes on when nobody waits for the request any more.

`rules_disarmed` is a run in which one request empties what another has written and the other renames
it: the rules are gone. `rules_armed` is about the runs in which no request makes the file while
another is between making and renaming it.
-/

namespace Rayhunter

open Runs Replacing

/-- `MAX_RULES_BYTES` (`wifi_survey.rs:46`). -/
def MAX_RULES_BYTES : Nat := 256 * 1024

/-- `load_user_rules` (`wifi_survey.rs:153`) where the file has this content, or there is none. -/
def loadUserRules [SerdeJson] (content : Option (List UInt8)) : UserRuleSet :=
  match content.bind fromUtf8 with
  | none => {}
  | some text =>
    match UserRuleSet.fromJson text with
    | .ok set => set
    | .error _ => {}

section Requests

variable [SerdeJson] (toStringPretty : Json → Except String String)

/-- A set that is not refused, with the text to write. -/
structure AcceptedRules where
  set : UserRuleSet
  text : String
  valid : set.validate = .ok ()
  isText : toStringPretty set.toJson = .ok text
  fits : text.utf8ByteSize ≤ MAX_RULES_BYTES

/-- What `set_wifi_rules` (`wifi_survey.rs:416`) does before it writes: the set with its text, or the
answer. -/
def acceptRules (set : UserRuleSet) : Except (Nat × String) (AcceptedRules toStringPretty) :=
  match hvalid : set.validate with
  | .error e => .error (400, e.display)
  | .ok () =>
    match hisText : toStringPretty set.toJson with
    | .error e => .error (500, e)
    | .ok text =>
      if hfits : text.utf8ByteSize ≤ MAX_RULES_BYTES then
        .ok { set, text, valid := hvalid, isText := hisText, fits := hfits }
      else .error (400, s!"rule set is larger than the {MAX_RULES_BYTES} byte limit")

variable {toStringPretty}

/-- The bytes that are written. -/
def AcceptedRules.bytes (a : AcceptedRules toStringPretty) : List UInt8 := utf8 a.text

variable (toStringPretty)

/-- The answer to a request: the rules that are in the file by then, or what went wrong. The view of
the rules that are built in is left out. -/
inductive RulesAnswer
  | rules (set : UserRuleSet)
  | error (status : Nat) (text : String)

/-- The files with the requests that write them, and the answers. -/
structure RulesState where
  files : Replacing.State (AcceptedRules toStringPretty) String
  answers : Nat → Option RulesAnswer

/-- What happens. -/
inductive RulesEvent
  /-- A request arrives. -/
  | request (i : Nat) (set : UserRuleSet)
  /-- It goes on with the files. -/
  | file (i : Nat) (a : Action (AcceptedRules toStringPretty) String)
  /-- It is answered. -/
  | answer (i : Nat)
  | crash

namespace RulesState

variable {toStringPretty}

/-- What is in the file with the rules. -/
def rulesFile (s : RulesState toStringPretty) : Option (List UInt8) := s.files.disk.content

/-- A request is answered. -/
def reply (s : RulesState toStringPretty) (i : Nat) (a : RulesAnswer) : RulesState toStringPretty :=
  { s with answers := Function.update s.answers i (some a) }

/-- One step. -/
def step (s : RulesState toStringPretty) : RulesEvent toStringPretty →
    Option (RulesState toStringPretty)
  | .request i set =>
    match s.answers i, acceptRules toStringPretty set with
    | none, .ok a =>
      (Replacing.step AcceptedRules.bytes s.files (.writer i (.begin a))).map fun files =>
        { s with files }
    | none, .error (status, text) => some (s.reply i (.error status text))
    | some _, _ => none
  | .file _ (.begin _) => none
  | .file i a =>
    (Replacing.step AcceptedRules.bytes s.files (.writer i a)).map fun files => { s with files }
  | .answer i =>
    match s.answers i, s.files.phase i with
    | none, .renamed _ => some (s.reply i (.rules (loadUserRules s.rulesFile)))
    | none, .failed e => some (s.reply i (.error 500 e))
    | _, _ => none
  | .crash => (Replacing.step AcceptedRules.bytes s.files .crash).map fun files =>
      { files, answers := fun _ => none }

/-- A request does not make the file while another one is between making and renaming it. -/
def Alone (s : RulesState toStringPretty) : RulesEvent toStringPretty → Prop
  | .file i a => Replacing.Alone s.files (.writer i a)
  | _ => True

/-- The daemon has just started; the file with the rules is absent or has the text of a set that was
not refused. -/
structure Starts (initial : Option (AcceptedRules toStringPretty)) (s : RulesState toStringPretty) :
    Prop where
  files : Replacing.Starts (initial.map AcceptedRules.bytes) s.files
  answers : ∀ i, s.answers i = none

/-- A step is nothing to the files, or what the files are for does it. -/
theorem step_files {s s' : RulesState toStringPretty} {e : RulesEvent toStringPretty}
    (halone : Alone s e) (h : s.step e = some s') :
    s'.files = s.files ∨ ∃ e', Replacing.Alone s.files e' ∧
      Replacing.step AcceptedRules.bytes s.files e' = some s'.files := by
  cases e with
  | request i set =>
    simp only [step] at h
    split at h
    · next a _ _ =>
      obtain ⟨files, hfiles, rfl⟩ := Option.map_eq_some_iff.1 h
      exact .inr ⟨.writer i (.begin a), trivial, hfiles⟩
    · cases h
      exact .inl rfl
    · cases h
  | file i a =>
    have hmap : (Replacing.step AcceptedRules.bytes s.files (.writer i a)).map
        (fun files => { s with files }) = some s' := by
      cases a with
      | «begin» a => cases h
      | create | write | writeFails | close | rename | leave => exact h
    obtain ⟨files, hfiles, rfl⟩ := Option.map_eq_some_iff.1 hmap
    exact .inr ⟨.writer i a, halone, hfiles⟩
  | answer i =>
    simp only [step] at h
    split at h <;> cases h <;> exact .inl rfl
  | crash =>
    cases h
    exact .inr ⟨.crash, trivial, rfl⟩

end RulesState

/-! ## Runs -/

/-- What is taken from `serde_json`: the pretty text of an object is read as the object. -/
structure ReadsPretty : Prop where
  fromStr {ms : List (String × Json)} {text : String} :
    JsonText.PlainAt JsonText.maxDepth (.obj ms) → toStringPretty (.obj ms) = .ok text →
      SerdeJson.fromStr text = some (.obj ms)

variable {toStringPretty}

/-- A set that was not refused is loaded from its text. -/
theorem AcceptedRules.load_bytes (hs : ReadsPretty toStringPretty)
    (a : AcceptedRules toStringPretty) : loadUserRules (some a.bytes) = a.set := by
  have hread : SerdeJson.fromStr a.text = some a.set.toJson :=
    hs.fromStr a.set.plainAt_toJson a.isText
  rw [loadUserRules, Option.bind_some, bytes, fromUtf8_utf8]
  simp only [UserRuleSet.fromJson, hread, Option.bind_some, a.set.deserialize_toJson, a.valid]

variable [DebugStr]

/-- The rules are in force: the file is absent as it was before, or it has the whole text of a set
that was not refused, which is the set that is loaded and which is turned into signatures. -/
def RulesState.Armed (initial : Option (AcceptedRules toStringPretty))
    (s : RulesState toStringPretty) : Prop :=
  (initial = none ∧ s.rulesFile = none) ∨
    ∃ a : AcceptedRules toStringPretty, s.rulesFile = some a.bytes ∧
      loadUserRules s.rulesFile = a.set ∧
      ∃ sigs, a.set.toSignatures = .ok sigs ∧
        List.Forall₂ UserRule.Signed (a.set.rules.filter (·.enabled)) sigs

/-- **Requests that are alone** keep the rules in force: this holds in every state of a run in which
no request makes the file while another is between making and renaming it. -/
theorem rules_armed (hs : ReadsPretty toStringPretty)
    (initial : Option (AcceptedRules toStringPretty)) (s : RulesState toStringPretty)
    (h : Reach (RulesState.Starts initial) RulesState.step RulesState.Alone s) : s.Armed initial := by
  have hfiles : Reach (Replacing.Starts (initial.map AcceptedRules.bytes))
      (Replacing.step AcceptedRules.bytes) Replacing.Alone s.files :=
    h.simulate RulesState.files (fun _ hs => hs.files) fun _ _ _ => RulesState.step_files
  have hlast : s.rulesFile = (s.files.log.head?.or initial).map AcceptedRules.bytes := by
    rw [RulesState.rulesFile, content_eq_last hfiles, Replacing.State.last]
    cases s.files.log.head? <;> rfl
  cases hor : s.files.log.head?.or initial with
  | none =>
    rw [hor] at hlast
    exact .inl ⟨(Option.or_eq_none_iff.1 hor).2, hlast⟩
  | some a =>
    rw [hor, Option.map_some] at hlast
    exact .inr ⟨a, hlast, by rw [hlast, a.load_bytes hs],
      UserRuleSet.toSignatures_of_validate a.valid⟩

/-! ## Requests at the same time -/

namespace RulesState

/-- No files, and no requests. -/
def empty : RulesState toStringPretty where
  files := { disk := { files := fun _ => [], next := 0, temp := none, target := none }
             phase := fun _ => .away
             log := [] }
  answers _ := none

omit [SerdeJson] [DebugStr] in
theorem starts_empty : (empty : RulesState toStringPretty).Starts none := by
  refine ⟨⟨⟨?_, ?_, ?_⟩, rfl, fun _ => rfl, rfl⟩, fun _ => rfl⟩ <;> rintro _ ⟨⟩

variable {s : RulesState toStringPretty} {i : Nat} {a : AcceptedRules toStringPretty}

omit [SerdeJson] [DebugStr] in
/-- A set that is not refused is so with its text. -/
theorem acceptRules_set (a : AcceptedRules toStringPretty) :
    acceptRules toStringPretty a.set = .ok a := by
  obtain ⟨set, text, hvalid, htext, hfits⟩ := a
  unfold acceptRules
  split
  · next h => cases hvalid.symm.trans h
  · split
    · next h => cases htext.symm.trans h
    · next h =>
      cases htext.symm.trans h
      exact dif_pos hfits

omit [DebugStr] in
/-- A request that is not refused begins. -/
theorem step_request (hs : s.answers i = none) (hphase : s.files.phase i = .away) :
    s.step (.request i a.set) = some { s with files := s.files.goTo i (.creating a true) } := by
  simp only [step, hs, acceptRules_set a, Replacing.step, Replacing.move, hphase, Option.map_some]

omit [DebugStr] in
/-- It writes all of its text in one piece. -/
theorem step_write {ino : Nat} (ha : a.bytes ≠ [])
    (hphase : s.files.phase i = .writing a true ino 0) :
    s.step (.file i (.write a.bytes.length)) = some { s with
      files := { s.files.goTo i (.writing a true ino a.bytes.length) with
        disk := s.files.disk.write ino 0 a.bytes } } := by
  have hpos : 0 < a.bytes.length ∧ a.bytes.length ≤ a.bytes.length :=
    ⟨List.length_pos_iff.2 ha, Nat.le_refl _⟩
  simp only [step, Replacing.step, Replacing.move, hphase, Nat.zero_add, if_pos hpos,
    Option.map_some, List.drop_zero, List.take_length]

omit [DebugStr] in
theorem step_close {ino : Nat} (hphase : s.files.phase i = .writing a true ino a.bytes.length) :
    s.step (.file i .close) = some { s with files := s.files.goTo i (.written a) } := by
  simp only [step, Replacing.step, Replacing.move, hphase, if_true, Option.map_some]

omit [DebugStr] in
/-- The file of a request is made anew by another before it is renamed. -/
theorem exists_emptied (a b : AcceptedRules toStringPretty) (ha : a.bytes ≠ []) :
    ∃ s : RulesState toStringPretty,
      Reach (Starts none) step (fun _ _ => True) s ∧ s.rulesFile = some [] := by
  have h₀ : Reach (Starts none) step (fun _ _ => True) (empty : RulesState toStringPretty) :=
    .init starts_empty
  have h₁ := h₀.step trivial (step_request (i := 0) (a := a) rfl rfl)
  have h₂ := h₁.step trivial (step_request (i := 1) (a := b) rfl rfl)
  have h₃ := h₂.step (i := .file 0 (.create (.ok ()))) trivial rfl
  have h₄ := h₃.step trivial (step_write (i := 0) ha rfl)
  have h₅ := h₄.step trivial (step_close (i := 0) rfl)
  have h₆ := h₅.step (i := .file 1 (.create (.ok ()))) trivial rfl
  exact ⟨_, h₆.step (i := .file 0 (.rename (.ok ()))) trivial rfl, rfl⟩

omit [DebugStr] in
/-- A request that is alone renames what it has written. -/
theorem exists_renamed (a : AcceptedRules toStringPretty) (ha : a.bytes ≠ []) :
    ∃ s : RulesState toStringPretty,
      Reach (Starts none) step Alone s ∧ s.rulesFile = some a.bytes := by
  have h₀ : Reach (Starts none) step Alone (empty : RulesState toStringPretty) :=
    .init starts_empty
  have h₁ := h₀.step (i := .request 0 a.set) (by trivial) (step_request rfl rfl)
  have hall : ∀ j, ((Function.update (fun _ => .away) 0 (.creating a true) :
      Nat → Phase (AcceptedRules toStringPretty) String) j).underway = false := by
    intro j
    rcases eq_or_ne j 0 with rfl | hj
    · rfl
    · rw [Function.update_of_ne hj]
      rfl
  have h₂ := h₁.step (i := .file 0 (.create (.ok ()))) (by exact hall) rfl
  have h₃ := h₂.step (i := .file 0 (.write _)) (by trivial) (step_write ha rfl)
  have h₄ := h₃.step (i := .file 0 .close) (by trivial) (step_close rfl)
  refine ⟨_, h₄.step (i := .file 0 (.rename (.ok ()))) (by trivial) rfl, ?_⟩
  show some (([] : List UInt8) ++ a.bytes ++ List.drop (0 + a.bytes.length) []) = some a.bytes
  rw [List.nil_append, List.drop_nil, List.append_nil]

end RulesState

end Requests

/-! ## With the text of `Rayhunter.Lib.JsonPretty` -/

/-- The pretty text of `Rayhunter.Lib.JsonPretty`. -/
def prettyText (j : Json) : Except String String := .ok (String.ofList (JsonText.pretty 0 j))

/-- It is read as the object it is of. -/
theorem readsPretty_prettyText : @ReadsPretty jsonText prettyText := by
  refine @ReadsPretty.mk jsonText _ ?_
  rintro ms _ hplain ⟨⟩
  obtain ⟨hh, hl⟩ := JsonText.pretty_obj_ends 0 ms
  have htrim : Text.trim (String.ofList (JsonText.pretty 0 (.obj ms))) =
      String.ofList (JsonText.pretty 0 (.obj ms)) :=
    Text.trim_eq_self (by rwa [String.toList_ofList]) (by rwa [String.toList_ofList])
      (by decide) (by decide)
  show JsonText.parse (Text.trim (String.ofList (JsonText.pretty 0 (.obj ms)))).toList = _
  rw [htrim, String.toList_ofList]
  exact JsonText.parse_pretty hplain

/-- The text of a set is not empty. -/
theorem AcceptedRules.bytes_ne_nil (a : AcceptedRules prettyText) : a.bytes ≠ [] := by
  intro he
  have hempty : a.text = "" := by
    have hback := fromUtf8_utf8 a.text
    rw [show utf8 a.text = [] from he, show fromUtf8 [] = some "" from rfl] at hback
    exact (Option.some.inj hback).symm
  have htext : String.ofList (JsonText.pretty 0 a.set.toJson) = "" :=
    (Except.ok.inj a.isText).trans hempty
  have hnil : JsonText.pretty 0 a.set.toJson = [] := by
    rw [← String.toList_ofList (l := JsonText.pretty 0 a.set.toJson), htext]
    rfl
  have hstart : (JsonText.pretty 0 a.set.toJson).head? = some '\x7b' :=
    (JsonText.pretty_obj_ends 0 _).1
  rw [hnil] at hstart
  cases hstart

/-- A set with one rule, for the devices of one maker. -/
def whiteVan : UserRuleSet where
  rules := [{ id := "r1", name := "The white van", technology := .wifi, severity := .medium,
              criteria := [.macPrefix "58:32:77"], cooldownSecs := 300 }]

def whiteVanAccepted : AcceptedRules prettyText where
  set := whiteVan
  text := String.ofList (JsonText.pretty 0 whiteVan.toJson)
  valid := by decide +kernel
  isText := rfl
  fits := by
    rw [Text.utf8ByteSize_ofList]
    decide +kernel

/-- The rule is in force once its request, which is alone, has renamed the file. -/
theorem rules_armed_van :
    let _ := jsonText
    let _ := plainDebug
    ∃ s : RulesState prettyText, s.rulesFile = some whiteVanAccepted.bytes ∧ s.Armed none := by
  let _ := jsonText
  let _ := plainDebug
  intro _ _
  obtain ⟨s, hrun, hfile⟩ :=
    RulesState.exists_renamed whiteVanAccepted whiteVanAccepted.bytes_ne_nil
  exact ⟨s, hfile, rules_armed readsPretty_prettyText none s hrun⟩

/-- A request renames the file that another has just made anew: the rules are gone. -/
theorem rules_disarmed :
    let _ := jsonText
    let _ := plainDebug
    ¬ ∀ (initial : Option (AcceptedRules prettyText)) (s : RulesState prettyText),
      Reach (RulesState.Starts initial) RulesState.step (fun _ _ => True) s → s.Armed initial := by
  let _ := jsonText
  let _ := plainDebug
  intro _ _ h
  obtain ⟨s, hrun, hfile⟩ := RulesState.exists_emptied whiteVanAccepted whiteVanAccepted
    whiteVanAccepted.bytes_ne_nil
  rcases h none s hrun with ⟨-, hnone⟩ | ⟨a, ha, -⟩
  · cases hfile.symm.trans hnone
  · exact a.bytes_ne_nil (Option.some.inj (ha.symm.trans hfile))

end Rayhunter
