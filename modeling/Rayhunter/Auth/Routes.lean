import Mathlib.Data.List.Nodup
import Rayhunter.Lib.Fields
import Rayhunter.Lib.Lines
import Rayhunter.Lib.Routes

/-!
# The routes, and which of them are open

`get_router` of `daemon/src/main.rs`, and the paths `is_exempt_from_pairing` of
`daemon/src/web_auth.rs` lets a browser reach that the unit does not trust. The one is a table of
patterns and the other a list of paths, written apart from each other; `isExempt_iff_opens` is that
they agree: a path is exempt exactly where its handler is one of the pairing page's own, or serves one
of the three pictures on that page.
-/

namespace Rayhunter.Auth

open Routes

/-! ## The table -/

/-- The words of the routes, and the pictures on the pairing page. -/
inductive Word
  | api | pcap | qmdl | zip | systemStats | storage | candidates | updateStatus | qmdlManifest
  | log | startRecording | stopRecording | deleteRecording | annotateRecording
  | deleteAllRecordings | analysisReport | recordingMetadata | analysis | cellInfo | packets
  | demoWarning | config | webUsers | delete | displayGif | testNotification | wifiStatus
  | wifiScan | time | timeOffset | tlsInfo | caPem | caCrt | caMobileconfig | setup | status
  | complete | pair | passphrase | account | devices | rename | revoke | code | pressRequest
  | pressStatus | completePress | stepup | start | confirm | finish | p | upperP | s | upperS
  | debug | displayState | keypress | qr | clear | terminal | wifi | survey | alertRules | gps
  | faviconPng | rayhunterOrcaOnlyPng | rayhunterTextPng
  deriving DecidableEq, Repr

def Word.text : Word → String
  | .api => "api"
  | .pcap => "pcap"
  | .qmdl => "qmdl"
  | .zip => "zip"
  | .systemStats => "system-stats"
  | .storage => "storage"
  | .candidates => "candidates"
  | .updateStatus => "update-status"
  | .qmdlManifest => "qmdl-manifest"
  | .log => "log"
  | .startRecording => "start-recording"
  | .stopRecording => "stop-recording"
  | .deleteRecording => "delete-recording"
  | .annotateRecording => "annotate-recording"
  | .deleteAllRecordings => "delete-all-recordings"
  | .analysisReport => "analysis-report"
  | .recordingMetadata => "recording-metadata"
  | .analysis => "analysis"
  | .cellInfo => "cell-info"
  | .packets => "packets"
  | .demoWarning => "demo-warning"
  | .config => "config"
  | .webUsers => "web-users"
  | .delete => "delete"
  | .displayGif => "display-gif"
  | .testNotification => "test-notification"
  | .wifiStatus => "wifi-status"
  | .wifiScan => "wifi-scan"
  | .time => "time"
  | .timeOffset => "time-offset"
  | .tlsInfo => "tls-info"
  | .caPem => "ca.pem"
  | .caCrt => "ca.crt"
  | .caMobileconfig => "ca.mobileconfig"
  | .setup => "setup"
  | .status => "status"
  | .complete => "complete"
  | .pair => "pair"
  | .passphrase => "passphrase"
  | .account => "account"
  | .devices => "devices"
  | .rename => "rename"
  | .revoke => "revoke"
  | .code => "code"
  | .pressRequest => "press-request"
  | .pressStatus => "press-status"
  | .completePress => "complete-press"
  | .stepup => "stepup"
  | .start => "start"
  | .confirm => "confirm"
  | .finish => "end"
  | .p => "p"
  | .upperP => "P"
  | .s => "s"
  | .upperS => "S"
  | .debug => "debug"
  | .displayState => "display-state"
  | .keypress => "keypress"
  | .qr => "qr"
  | .clear => "clear"
  | .terminal => "terminal"
  | .wifi => "wifi"
  | .survey => "survey"
  | .alertRules => "alert-rules"
  | .gps => "gps"
  | .faviconPng => "favicon.png"
  | .rayhunterOrcaOnlyPng => "rayhunter_orca_only.png"
  | .rayhunterTextPng => "rayhunter_text.png"

/-- The handlers of `get_router` (`main.rs:94`). -/
inductive Handler
  | getPcap | getQmdl | getZip | getSystemStats | getStorageCandidates | getUpdateStatus
  | getQmdlManifest | getLog | startRecording | stopRecording | deleteRecording
  | annotateRecording | deleteAllRecordings | getAnalysisReport | getRecordingMetadata
  | getAnalysisStatus | startAnalysis | getCellInfo | listPackets | getPacket
  | triggerDemoWarning | getConfig | setConfig | setWebUser | deleteWebUser | getDisplayGif
  | setDisplayGif | deleteDisplayGif | testNotification | getWifiStatus | scanWifi | getTime
  | setTimeOffset | getTlsInfo | getCaPem | getCaDer | getCaMobileconfig | getSetupStatus
  | completeSetup | pairWithPassphrase | pairWithAccount | listDevices | renameDevice
  | revokeDevice | mintPairCode | pairWithCode | changePassphrase | requestPress | pressStatus
  | completeSetupByPress | stepupStart | stepupConfirm | stepupStatus | stepupEnd | servePairPage
  | debugSetDisplayState | debugKeypress | debugShowQr | debugClearQr | runTerminalCommand
  | wifiSurvey | getWifiRules | setWifiRules | getGps | postGps | redirectToIndex | serveStatic
  deriving DecidableEq, Repr

/-- A route: its pattern, after the first slash, and what answers `GET` and `POST` there. -/
structure Route where
  pattern : List (Segment Word)
  get : Option Handler
  post : Option Handler
  deriving DecidableEq, Repr

/-- `get_router` (`main.rs:94`), but for its last two routes. -/
def routes : List Route :=
  [⟨[.lit .api, .lit .pcap, .param], some .getPcap, none⟩,
   ⟨[.lit .api, .lit .qmdl, .param], some .getQmdl, none⟩,
   ⟨[.lit .api, .lit .zip, .param], some .getZip, none⟩,
   ⟨[.lit .api, .lit .systemStats], some .getSystemStats, none⟩,
   ⟨[.lit .api, .lit .storage, .lit .candidates], some .getStorageCandidates, none⟩,
   ⟨[.lit .api, .lit .updateStatus], some .getUpdateStatus, none⟩,
   ⟨[.lit .api, .lit .qmdlManifest], some .getQmdlManifest, none⟩,
   ⟨[.lit .api, .lit .log], some .getLog, none⟩,
   ⟨[.lit .api, .lit .startRecording], none, some .startRecording⟩,
   ⟨[.lit .api, .lit .stopRecording], none, some .stopRecording⟩,
   ⟨[.lit .api, .lit .deleteRecording, .param], none, some .deleteRecording⟩,
   ⟨[.lit .api, .lit .annotateRecording, .param], none, some .annotateRecording⟩,
   ⟨[.lit .api, .lit .deleteAllRecordings], none, some .deleteAllRecordings⟩,
   ⟨[.lit .api, .lit .analysisReport, .param], some .getAnalysisReport, none⟩,
   ⟨[.lit .api, .lit .recordingMetadata, .param], some .getRecordingMetadata, none⟩,
   ⟨[.lit .api, .lit .analysis], some .getAnalysisStatus, none⟩,
   ⟨[.lit .api, .lit .analysis, .param], none, some .startAnalysis⟩,
   ⟨[.lit .api, .lit .cellInfo], some .getCellInfo, none⟩,
   ⟨[.lit .api, .lit .packets, .param], some .listPackets, none⟩,
   ⟨[.lit .api, .lit .packets, .param, .param], some .getPacket, none⟩,
   ⟨[.lit .api, .lit .demoWarning], none, some .triggerDemoWarning⟩,
   ⟨[.lit .api, .lit .config], some .getConfig, some .setConfig⟩,
   ⟨[.lit .api, .lit .webUsers], none, some .setWebUser⟩,
   ⟨[.lit .api, .lit .webUsers, .param, .lit .delete], none, some .deleteWebUser⟩,
   ⟨[.lit .api, .lit .displayGif, .param], some .getDisplayGif, some .setDisplayGif⟩,
   ⟨[.lit .api, .lit .displayGif, .param, .lit .delete], none, some .deleteDisplayGif⟩,
   ⟨[.lit .api, .lit .testNotification], none, some .testNotification⟩,
   ⟨[.lit .api, .lit .wifiStatus], some .getWifiStatus, none⟩,
   ⟨[.lit .api, .lit .wifiScan], none, some .scanWifi⟩,
   ⟨[.lit .api, .lit .time], some .getTime, none⟩,
   ⟨[.lit .api, .lit .timeOffset], none, some .setTimeOffset⟩,
   ⟨[.lit .api, .lit .tlsInfo], some .getTlsInfo, none⟩,
   ⟨[.lit .api, .lit .caPem], some .getCaPem, none⟩,
   ⟨[.lit .api, .lit .caCrt], some .getCaDer, none⟩,
   ⟨[.lit .api, .lit .caMobileconfig], some .getCaMobileconfig, none⟩,
   ⟨[.lit .api, .lit .setup, .lit .status], some .getSetupStatus, none⟩,
   ⟨[.lit .api, .lit .setup, .lit .complete], none, some .completeSetup⟩,
   ⟨[.lit .api, .lit .pair, .lit .passphrase], none, some .pairWithPassphrase⟩,
   ⟨[.lit .api, .lit .pair, .lit .account], none, some .pairWithAccount⟩,
   ⟨[.lit .api, .lit .devices], some .listDevices, none⟩,
   ⟨[.lit .api, .lit .devices, .param, .lit .rename], none, some .renameDevice⟩,
   ⟨[.lit .api, .lit .devices, .param, .lit .revoke], none, some .revokeDevice⟩,
   ⟨[.lit .api, .lit .devices, .lit .code], none, some .mintPairCode⟩,
   ⟨[.lit .api, .lit .pair, .lit .code], none, some .pairWithCode⟩,
   ⟨[.lit .api, .lit .passphrase], none, some .changePassphrase⟩,
   ⟨[.lit .api, .lit .setup, .lit .pressRequest], none, some .requestPress⟩,
   ⟨[.lit .api, .lit .setup, .lit .pressStatus, .param], some .pressStatus, none⟩,
   ⟨[.lit .api, .lit .setup, .lit .completePress], none, some .completeSetupByPress⟩,
   ⟨[.lit .api, .lit .stepup, .lit .start], none, some .stepupStart⟩,
   ⟨[.lit .api, .lit .stepup, .lit .confirm], none, some .stepupConfirm⟩,
   ⟨[.lit .api, .lit .stepup, .lit .status], some .stepupStatus, none⟩,
   ⟨[.lit .api, .lit .stepup, .lit .finish], none, some .stepupEnd⟩,
   ⟨[.lit .p, .param], some .servePairPage, none⟩,
   ⟨[.lit .upperP, .param], some .servePairPage, none⟩,
   ⟨[.lit .pair], some .servePairPage, none⟩,
   ⟨[.lit .s, .param], some .servePairPage, none⟩,
   ⟨[.lit .upperS, .param], some .servePairPage, none⟩,
   ⟨[.lit .api, .lit .debug, .lit .displayState], none, some .debugSetDisplayState⟩,
   ⟨[.lit .api, .lit .debug, .lit .keypress], none, some .debugKeypress⟩,
   ⟨[.lit .api, .lit .debug, .lit .qr], none, some .debugShowQr⟩,
   ⟨[.lit .api, .lit .debug, .lit .qr, .lit .clear], none, some .debugClearQr⟩,
   ⟨[.lit .api, .lit .terminal], none, some .runTerminalCommand⟩,
   ⟨[.lit .api, .lit .wifi, .lit .survey], some .wifiSurvey, none⟩,
   ⟨[.lit .api, .lit .wifi, .lit .alertRules], some .getWifiRules, some .setWifiRules⟩,
   ⟨[.lit .api, .lit .gps], some .getGps, some .postGps⟩]

/-- Every word. -/
def words : List Word :=
  [.api, .pcap, .qmdl, .zip, .systemStats, .storage, .candidates, .updateStatus, .qmdlManifest,
   .log, .startRecording, .stopRecording, .deleteRecording, .annotateRecording,
   .deleteAllRecordings, .analysisReport, .recordingMetadata, .analysis, .cellInfo, .packets,
   .demoWarning, .config, .webUsers, .delete, .displayGif, .testNotification, .wifiStatus,
   .wifiScan, .time, .timeOffset, .tlsInfo, .caPem, .caCrt, .caMobileconfig, .setup, .status,
   .complete, .pair, .passphrase, .account, .devices, .rename, .revoke, .code, .pressRequest,
   .pressStatus, .completePress, .stepup, .start, .confirm, .finish, .p, .upperP, .s, .upperS,
   .debug, .displayState, .keypress, .qr, .clear, .terminal, .wifi, .survey, .alertRules, .gps,
   .faviconPng, .rayhunterOrcaOnlyPng, .rayhunterTextPng]

theorem mem_words (w : Word) : w ∈ words := by
  cases w <;> decide

theorem nodup_texts : (words.map Word.text).Nodup := by
  decide +kernel

/-- The words by their characters; a place takes any text but the empty one. -/
def vocabulary : Vocabulary Word (List Char) where
  text w := w.text.toList
  blank := []
  injective a b h :=
    List.inj_on_of_nodup_map nodup_texts (mem_words a) (mem_words b) (String.toList_injective h)

/-! ## Where a request goes -/

/-- What becomes of a request: it is handled, with the texts at the places of the pattern, or there
is nothing at its path, or nothing for its method. -/
inductive Routed
  | handler (h : Handler) (captures : List (List Char))
  | methodNotAllowed
  | notFound
  deriving DecidableEq, Repr

/-- The route in the table of what follows the first slash of a path. -/
def routeFor (rest : List Char) : Option Route :=
  routes.find? fun r => vocabulary.accepts r.pattern (rest.splitOn '/')

/-- What answers a method, where these answer `GET` and `POST`. `HEAD` is answered as `GET` is. -/
def answering (method : String) (get post : Option Handler) : Option Handler :=
  if method = "GET" ∨ method = "HEAD" then get else if method = "POST" then post else none

/-- Where a request leads: to the route with its pattern, else to the index, at a slash alone
(`main.rs:180`), or to what serves every other path (`main.rs:181`). -/
def dispatch (path : List Char) (method : String) : Routed :=
  match path with
  | '/' :: rest =>
    let found : Option Handler × List (List Char) :=
      match routeFor rest with
      | some r => (answering method r.get r.post, captures r.pattern (rest.splitOn '/'))
      | none =>
        if rest = [] then (answering method (some .redirectToIndex) none, [])
        else (answering method (some .serveStatic) none, [rest])
    match found with
    | (some h, texts) => .handler h texts
    | (none, _) => .methodNotAllowed
  | _ => .notFound

/-! ## What is open -/

/-- `one_segment_under` (`web_auth.rs:227`). -/
def oneSegmentUnder (path : List Char) (pre : String) : Bool :=
  match Text.stripPrefix pre path with
  | some rest => rest ≠ [] && !rest.contains '/'
  | none => false

/-- The paths that are named in `is_exempt_from_pairing` (`web_auth.rs:238`). -/
def exemptPaths : List String :=
  ["/pair", "/api/setup/status", "/api/setup/complete", "/api/pair/passphrase",
   "/api/pair/account", "/api/pair/code", "/api/setup/press-request", "/api/setup/complete-press",
   "/api/tls-info", "/api/ca.pem", "/api/ca.crt", "/api/ca.mobileconfig", "/favicon.png",
   "/rayhunter_orca_only.png", "/rayhunter_text.png"]

/-- The paths under which one segment is open (`web_auth.rs:255`). -/
def exemptPrefixes : List String := ["/s/", "/S/", "/p/", "/P/", "/api/setup/press-status/"]

/-- `is_exempt_from_pairing` (`web_auth.rs:235`). -/
def isExemptFromPairing (path : List Char) : Bool :=
  exemptPaths.any (·.toList = path) || exemptPrefixes.any (oneSegmentUnder path)

/-- The handlers of the pairing page. -/
def Handler.pairs : Handler → Bool
  | .servePairPage | .getSetupStatus | .completeSetup | .pairWithPassphrase | .pairWithAccount
  | .pairWithCode | .requestPress | .pressStatus | .completeSetupByPress | .getTlsInfo | .getCaPem
  | .getCaDer | .getCaMobileconfig => true
  | _ => false

/-- The pictures on the pairing page. -/
def pictures : List Word := [.faviconPng, .rayhunterOrcaOnlyPng, .rayhunterTextPng]

/-- Whether a handler belongs to the pairing page, with the texts it is given. -/
def Handler.opens (h : Handler) (texts : List (List Char)) : Bool :=
  h.pairs || (h = .serveStatic && pictures.any fun w => [w.text.toList] = texts)

/-! ## They agree -/

/-- The text of some words, with a slash before each. -/
def slashed (ws : List Word) : List Char := ws.flatMap fun w => '/' :: w.text.toList

/-- The exempt paths, by their words. -/
def exemptWords : List (List Word) :=
  [[.pair], [.api, .setup, .status], [.api, .setup, .complete], [.api, .pair, .passphrase],
   [.api, .pair, .account], [.api, .pair, .code], [.api, .setup, .pressRequest],
   [.api, .setup, .completePress], [.api, .tlsInfo], [.api, .caPem], [.api, .caCrt],
   [.api, .caMobileconfig]]

/-- The paths with one segment open under them, by their words. -/
def exemptRoots : List (List Word) :=
  [[.s], [.upperS], [.p], [.upperP], [.api, .setup, .pressStatus]]

theorem exemptPaths_eq :
    exemptPaths.map String.toList = (exemptWords ++ pictures.map ([·])).map slashed := by
  decide +kernel

theorem exemptPrefixes_eq :
    exemptPrefixes.map String.toList = exemptRoots.map fun ws => slashed ws ++ ['/'] := by
  decide +kernel

/-- The words of exempt paths have no slash in them, and there are some of them in each path. -/
theorem exempt_slashless : (exemptWords ++ pictures.map ([·]) ++ exemptRoots).all (fun ws =>
    ws ≠ [] && ws.all fun w => !w.text.toList.contains '/') = true := by
  decide +kernel

theorem oneSegmentUnder_iff {path : List Char} {pre : String} :
    oneSegmentUnder path pre = true ↔ ∃ s, s ≠ [] ∧ '/' ∉ s ∧ path = pre.toList ++ s := by
  unfold oneSegmentUnder
  constructor
  · intro h
    split at h
    · next rest hrest =>
      obtain ⟨hstarts, hdrop⟩ := Option.ite_none_right_eq_some.1 hrest
      obtain rfl := Option.some.inj hdrop
      obtain ⟨s, rfl⟩ := Text.startsWith_iff.1 hstarts
      rw [List.drop_left] at h
      simp only [Bool.and_eq_true, decide_eq_true_eq, Bool.not_eq_true',
        List.contains_eq_mem, decide_eq_false_iff_not] at h
      exact ⟨s, h.1, h.2, rfl⟩
    · cases h
  · rintro ⟨s, hs, hslash, rfl⟩
    rw [Text.stripPrefix_append]
    simpa using ⟨hs, hslash⟩

/-- The exempt paths are made of the exempt words. -/
theorem isExempt_iff {path : List Char} :
    isExemptFromPairing path = true ↔
      (∃ ws ∈ exemptWords ++ pictures.map ([·]), path = slashed ws) ∨
        ∃ ws ∈ exemptRoots, ∃ s, s ≠ [] ∧ '/' ∉ s ∧ path = slashed ws ++ '/' :: s := by
  have hpaths : exemptPaths.any (·.toList = path) = true ↔
      ∃ ws ∈ exemptWords ++ pictures.map ([·]), path = slashed ws := by
    rw [List.any_eq_true]
    constructor
    · rintro ⟨t, ht, hpath⟩
      have hmem : t.toList ∈ exemptPaths.map String.toList := List.mem_map_of_mem ht
      rw [exemptPaths_eq] at hmem
      obtain ⟨ws, hws, htext⟩ := List.mem_map.1 hmem
      exact ⟨ws, hws, (of_decide_eq_true hpath).symm.trans htext.symm⟩
    · rintro ⟨ws, hws, rfl⟩
      have hmem := List.mem_map_of_mem (f := slashed) hws
      rw [← exemptPaths_eq] at hmem
      obtain ⟨t, ht, htext⟩ := List.mem_map.1 hmem
      exact ⟨t, ht, decide_eq_true htext⟩
  have hprefixes : exemptPrefixes.any (oneSegmentUnder path) = true ↔
      ∃ ws ∈ exemptRoots, ∃ s, s ≠ [] ∧ '/' ∉ s ∧ path = slashed ws ++ '/' :: s := by
    rw [List.any_eq_true]
    constructor
    · rintro ⟨t, ht, hpath⟩
      obtain ⟨s, hs, hslash, rfl⟩ := oneSegmentUnder_iff.1 hpath
      have hmem : t.toList ∈ exemptPrefixes.map String.toList := List.mem_map_of_mem ht
      rw [exemptPrefixes_eq] at hmem
      obtain ⟨ws, hws, htext⟩ := List.mem_map.1 hmem
      exact ⟨ws, hws, s, hs, hslash, by rw [← htext, List.append_assoc]; rfl⟩
    · rintro ⟨ws, hws, s, hs, hslash, rfl⟩
      have hmem := List.mem_map_of_mem (f := fun ws => slashed ws ++ ['/']) hws
      rw [← exemptPrefixes_eq] at hmem
      obtain ⟨t, ht, htext⟩ := List.mem_map.1 hmem
      exact ⟨t, ht, oneSegmentUnder_iff.2 ⟨s, hs, hslash, by rw [htext, List.append_assoc]; rfl⟩⟩
  rw [isExemptFromPairing, Bool.or_eq_true, hpaths, hprefixes]

/-- The patterns of the exempt paths. -/
def exemptPatterns : List (List (Segment Word)) :=
  (exemptWords ++ pictures.map ([·])).map (·.map .lit) ++
    exemptRoots.map fun ws => ws.map .lit ++ [.param]

theorem flatMap_slash {ts : List (List Char)} (h : ts ≠ []) :
    ts.flatMap ('/' :: ·) = '/' :: ['/'].intercalate ts := by
  induction ts with
  | nil => exact absurd rfl h
  | cons t ts ih =>
    cases ts with
    | nil => simp
    | cons t' ts =>
      rw [List.flatMap_cons, ih (List.cons_ne_nil t' ts), List.intercalate_cons_cons]
      simp

/-- A path has some segments where it is these with a slash before each. -/
theorem splitOn_eq_iff_slash {rest : List Char} {ts : List (List Char)} (hne : ts ≠ [])
    (hts : ∀ t ∈ ts, '/' ∉ t) : rest.splitOn '/' = ts ↔ '/' :: rest = ts.flatMap ('/' :: ·) := by
  rw [Fields.splitOn_eq_iff, flatMap_slash hne, List.cons_inj_right]
  exact ⟨fun h => h.2.2, fun h => ⟨hne, hts, h⟩⟩

theorem slashed_eq (ws : List Word) :
    slashed ws = (ws.map vocabulary.text).flatMap ('/' :: ·) := by
  rw [slashed, List.flatMap_map]
  rfl

/-- There are words in the exempt paths, and none with a slash in it. -/
theorem exempt_words {ws : List Word}
    (hws : ws ∈ exemptWords ++ pictures.map ([·]) ++ exemptRoots) :
    ws.map vocabulary.text ≠ [] ∧ ∀ t ∈ ws.map vocabulary.text, '/' ∉ t := by
  have hall := List.all_eq_true.1 exempt_slashless ws hws
  rw [Bool.and_eq_true, decide_eq_true_eq, List.all_eq_true] at hall
  refine ⟨fun hnil => hall.1 (List.map_eq_nil_iff.1 hnil), fun t ht => ?_⟩
  obtain ⟨w, hw, rfl⟩ := List.mem_map.1 ht
  simpa [vocabulary] using hall.2 w hw

/-- A path is made of some words where the pattern of these accepts it. -/
theorem eq_slashed_iff {rest : List Char} {ws : List Word} (hne : ws.map vocabulary.text ≠ [])
    (hslash : ∀ t ∈ ws.map vocabulary.text, '/' ∉ t) :
    '/' :: rest = slashed ws ↔ vocabulary.accepts (ws.map .lit) (rest.splitOn '/') = true := by
  rw [Vocabulary.accepts_lits, splitOn_eq_iff_slash hne hslash, slashed_eq]

/-- A path is made of some words and one segment more where the pattern of these accepts it. -/
theorem eq_slashed_append_iff {rest : List Char} {ws : List Word}
    (hslash : ∀ t ∈ ws.map vocabulary.text, '/' ∉ t) :
    (∃ s, s ≠ [] ∧ '/' ∉ s ∧ '/' :: rest = slashed ws ++ '/' :: s) ↔
      vocabulary.accepts (ws.map .lit ++ [.param]) (rest.splitOn '/') = true := by
  rw [Vocabulary.accepts_lits_param]
  refine exists_congr fun s => and_congr_right fun _ => ?_
  have hjoin : slashed ws ++ '/' :: s = (ws.map vocabulary.text ++ [s]).flatMap ('/' :: ·) := by
    rw [slashed_eq, List.flatMap_append, List.flatMap_singleton]
  have hne : ws.map vocabulary.text ++ [s] ≠ [] := by simp
  rw [hjoin]
  constructor
  · rintro ⟨hs, hpath⟩
    refine (splitOn_eq_iff_slash hne fun t ht => ?_).2 hpath
    rcases List.mem_append.1 ht with ht | ht
    · exact hslash t ht
    · exact List.mem_singleton.1 ht ▸ hs
  · intro hsplit
    have hfree : ∀ t ∈ ws.map vocabulary.text ++ [s], '/' ∉ t := by
      intro t ht
      rw [← hsplit] at ht
      exact Fields.not_mem_of_mem_splitOn ht
    exact ⟨hfree s (by simp), (splitOn_eq_iff_slash hne hfree).1 hsplit⟩

/-- **The exempt paths are those of the exempt patterns.** -/
theorem isExempt_cons {rest : List Char} : isExemptFromPairing ('/' :: rest) = true ↔
    ∃ p ∈ exemptPatterns, vocabulary.accepts p (rest.splitOn '/') = true := by
  have hlit : ∀ ws ∈ exemptWords ++ pictures.map ([·]), ('/' :: rest = slashed ws ↔
      vocabulary.accepts (ws.map .lit) (rest.splitOn '/') = true) := by
    intro ws hws
    obtain ⟨hne, hslash⟩ := exempt_words (List.mem_append_left _ hws)
    exact eq_slashed_iff hne hslash
  have hunder : ∀ ws ∈ exemptRoots,
      ((∃ s, s ≠ [] ∧ '/' ∉ s ∧ '/' :: rest = slashed ws ++ '/' :: s) ↔
        vocabulary.accepts (ws.map .lit ++ [.param]) (rest.splitOn '/') = true) := by
    intro ws hws
    exact eq_slashed_append_iff (exempt_words (List.mem_append_right _ hws)).2
  rw [isExempt_iff, exemptPatterns]
  constructor
  · rintro (⟨ws, hws, hpath⟩ | ⟨ws, hws, hpath⟩)
    · exact ⟨_, List.mem_append_left _ (List.mem_map_of_mem hws), (hlit ws hws).1 hpath⟩
    · exact ⟨_, List.mem_append_right _ (List.mem_map_of_mem hws), (hunder ws hws).1 hpath⟩
  · rintro ⟨p, hp, hpath⟩
    rcases List.mem_append.1 hp with hp | hp
    · obtain ⟨ws, hws, rfl⟩ := List.mem_map.1 hp
      exact .inl ⟨ws, hws, (hlit ws hws).2 hpath⟩
    · obtain ⟨ws, hws, rfl⟩ := List.mem_map.1 hp
      exact .inr ⟨ws, hws, (hunder ws hws).2 hpath⟩

/-- No two routes are for the same path. -/
theorem routes_apart : routes.Pairwise fun r q => apart r.pattern q.pattern = true := by
  decide +kernel

theorem routeFor_eq_some_iff {rest : List Char} {r : Route} : routeFor rest = some r ↔
    r ∈ routes ∧ vocabulary.accepts r.pattern (rest.splitOn '/') = true :=
  Vocabulary.find?_eq_some_iff routes_apart

/-- Of what answers in the table, the handlers of the pairing page are at the exempt patterns. -/
theorem pairs_iff : ∀ r ∈ routes, ∀ h ∈ r.get.toList ++ r.post.toList,
    h ≠ .serveStatic ∧ (h.pairs = true ↔ r.pattern ∈ exemptPatterns) := by
  decide +kernel

/-- Every exempt pattern is in the table, but for the pictures'. -/
theorem exempt_routed : ∀ p ∈ exemptPatterns,
    (∃ r ∈ routes, r.pattern = p) ∨ ∃ w ∈ pictures, p = [.lit w] := by
  decide +kernel

theorem pictures_apart : ∀ w ∈ pictures, ∀ r ∈ routes, apart r.pattern [.lit w] = true := by
  decide +kernel

theorem picture_text : ∀ w ∈ pictures, w.text.toList ≠ [] := by
  decide +kernel

/-- What answers is one of the two. -/
theorem mem_of_answering {method : String} {get post : Option Handler} {h : Handler}
    (ha : answering method get post = some h) : h ∈ get.toList ++ post.toList := by
  unfold answering at ha
  split at ha
  · exact List.mem_append_left _ (Option.mem_toList.2 ha)
  · split at ha
    · exact List.mem_append_right _ (Option.mem_toList.2 ha)
    · cases ha

/-- At a path with a route in the table, what is exempt is what pairs. -/
theorem isExempt_routed {rest : List Char} {r : Route} (hr : routeFor rest = some r) :
    isExemptFromPairing ('/' :: rest) = true ↔ r.pattern ∈ exemptPatterns := by
  obtain ⟨hmem, haccepts⟩ := routeFor_eq_some_iff.1 hr
  rw [isExempt_cons]
  constructor
  · rintro ⟨p, hp, hpath⟩
    rcases exempt_routed p hp with ⟨q, hq, rfl⟩ | ⟨w, hw, rfl⟩
    · have hq' := routeFor_eq_some_iff.2 ⟨hq, hpath⟩
      rw [Option.some.inj (hr.symm.trans hq')]
      exact hp
    · exact absurd hpath (Vocabulary.not_accepts_of_apart (pictures_apart w hw r hmem) haccepts)
  · intro hp
    exact ⟨r.pattern, hp, haccepts⟩

/-- At a path without one, it is the pictures. -/
theorem isExempt_unrouted {rest : List Char} (hr : routeFor rest = none) :
    isExemptFromPairing ('/' :: rest) = true ↔ ∃ w ∈ pictures, w.text.toList = rest := by
  have hpicture : ∀ w ∈ pictures, (vocabulary.accepts [.lit w] (rest.splitOn '/') = true ↔
      w.text.toList = rest) := by
    intro w hw
    have hmem : [w] ∈ exemptWords ++ pictures.map ([·]) :=
      List.mem_append_right _ (List.mem_map_of_mem hw)
    obtain ⟨hne, hslash⟩ := exempt_words (List.mem_append_left _ hmem)
    rw [show [Segment.lit w] = [w].map .lit from rfl, ← eq_slashed_iff hne hslash]
    simp [slashed, eq_comm]
  rw [isExempt_cons]
  constructor
  · rintro ⟨p, hp, hpath⟩
    rcases exempt_routed p hp with ⟨q, hq, rfl⟩ | ⟨w, hw, rfl⟩
    · rw [routeFor_eq_some_iff.2 ⟨hq, hpath⟩] at hr
      cases hr
    · exact ⟨w, hw, (hpicture w hw).1 hpath⟩
  · rintro ⟨w, hw, hpath⟩
    have hmem : [w] ∈ exemptWords ++ pictures.map ([·]) :=
      List.mem_append_right _ (List.mem_map_of_mem hw)
    exact ⟨_, List.mem_append_left _ (List.mem_map_of_mem hmem), (hpicture w hw).2 hpath⟩

/-- Where a request that is handled leads. -/
inductive Leads (path : List Char) (method : String) (h : Handler) (texts : List (List Char)) : Prop
  | table {rest : List Char} {r : Route} (path : path = '/' :: rest) (route : routeFor rest = some r)
      (answers : answering method r.get r.post = some h)
      (texts : texts = captures r.pattern (rest.splitOn '/'))
  | index (path : path = ['/']) (route : routeFor [] = none) (handler : h = .redirectToIndex)
      (texts : texts = [])
  | other {rest : List Char} (path : path = '/' :: rest) (route : routeFor rest = none)
      (handler : h = .serveStatic) (texts : texts = [rest])

theorem leads_of_dispatch {path : List Char} {method : String} {h : Handler}
    {texts : List (List Char)} (hd : dispatch path method = .handler h texts) :
    Leads path method h texts := by
  have hone : ∀ {g : Handler}, answering method (some g) none = some h → h = g := fun ha => by
    simpa [eq_comm] using mem_of_answering ha
  unfold dispatch at hd
  split at hd
  next rest =>
    dsimp only at hd
    split at hd
    next heq =>
      cases hd
      split at heq
      next r hr =>
        obtain ⟨hanswers, rfl⟩ := Prod.mk.inj heq
        exact .table rfl hr hanswers rfl
      next hr =>
        split at heq
        next hroot =>
          obtain ⟨hanswers, rfl⟩ := Prod.mk.inj heq
          subst hroot
          exact .index rfl hr (hone hanswers) rfl
        next =>
          obtain ⟨hanswers, rfl⟩ := Prod.mk.inj heq
          exact .other rfl hr (hone hanswers) rfl
    next => cases hd
  next => cases hd

/-- **The list of exempt paths is that of the pairing page.** Wherever a request leads, its path is
exempt exactly where that is a handler of the pairing page or one of the pictures on it. -/
theorem isExempt_iff_opens {path : List Char} {method : String} {h : Handler}
    {texts : List (List Char)} (hd : dispatch path method = .handler h texts) :
    isExemptFromPairing path = true ↔ h.opens texts = true := by
  cases leads_of_dispatch hd with
  | table hpath hr hanswers =>
    obtain ⟨hstatic, hpairs⟩ := pairs_iff _ (routeFor_eq_some_iff.1 hr).1 h
      (mem_of_answering hanswers)
    rw [hpath, isExempt_routed hr, ← hpairs, Handler.opens]
    simp [hstatic]
  | index hpath hr hindex =>
    rw [hpath, isExempt_unrouted hr, hindex]
    simpa [Handler.opens, Handler.pairs] using picture_text
  | other hpath hr hstatic htexts =>
    rw [hpath, isExempt_unrouted hr, hstatic, htexts]
    simp [Handler.opens, Handler.pairs]

/-- Positions are posted to one path, and that is all that is posted there. -/
theorem postGps_iff {path : List Char} {method : String} {h : Handler} {texts : List (List Char)}
    (hd : dispatch path method = .handler h texts) :
    method = "POST" ∧ path = "/api/gps".toList ↔ h = .postGps := by
  have hgps : "/api/gps".toList = slashed [.api, .gps] := by decide +kernel
  have hslash : ∀ t ∈ [Word.api, .gps].map vocabulary.text, '/' ∉ t := by decide +kernel
  have htable : ∀ r ∈ routes, r.get ≠ some .postGps ∧
      (r.post = some .postGps ↔ r.pattern = [Word.api, .gps].map .lit) := by decide +kernel
  have hrouted : ∃ r ∈ routes, r.pattern = [Word.api, .gps].map .lit := by decide +kernel
  have haccepts : ∀ rest, vocabulary.accepts ([Word.api, .gps].map .lit) (rest.splitOn '/') = true ↔
      '/' :: rest = "/api/gps".toList := by
    intro rest
    rw [Vocabulary.accepts_lits, splitOn_eq_iff_slash (by simp) hslash, hgps, slashed_eq]
  -- what is not in the table is not at that path
  have hnone : ∀ {rest}, routeFor rest = none → '/' :: rest ≠ "/api/gps".toList := by
    intro rest hr hpath
    obtain ⟨r, hmem, hpattern⟩ := hrouted
    rw [routeFor_eq_some_iff.2 ⟨hmem, hpattern ▸ (haccepts rest).2 hpath⟩] at hr
    cases hr
  cases leads_of_dispatch hd with
  | @table rest r hpath hr hanswers =>
    obtain ⟨hmem, hpattern⟩ := routeFor_eq_some_iff.1 hr
    obtain ⟨hget, hpost⟩ := htable r hmem
    subst hpath
    constructor
    · rintro ⟨rfl, hpath⟩
      obtain ⟨q, hq, hqpattern⟩ := hrouted
      have hrq := routeFor_eq_some_iff.2 ⟨hq, hqpattern ▸ (haccepts rest).2 hpath⟩
      obtain rfl := Option.some.inj (hr.symm.trans hrq)
      have hposted : r.post = some h := by simpa [answering] using hanswers
      exact Option.some.inj (hposted.symm.trans (hpost.2 hqpattern))
    · rintro rfl
      unfold answering at hanswers
      split at hanswers
      · exact absurd hanswers hget
      · split at hanswers
        · next hmethod => exact ⟨hmethod, (haccepts rest).1 (hpost.1 hanswers ▸ hpattern)⟩
        · cases hanswers
  | index hpath hr hindex =>
    subst hpath hindex
    exact iff_of_false (fun hgps => hnone hr hgps.2) Handler.noConfusion
  | other hpath hr hstatic =>
    subst hpath hstatic
    exact iff_of_false (fun hgps => hnone hr hgps.2) Handler.noConfusion

end Rayhunter.Auth
