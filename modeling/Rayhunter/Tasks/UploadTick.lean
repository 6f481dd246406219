import Mathlib.Data.List.Perm.Subperm
import Rayhunter.Store.Agree
import Rayhunter.Tasks.Webdav

/-!
# A tick of the upload worker

The inner loop of `run_webdav_upload_worker` (`daemon/src/webdav.rs:184`), as long as every upload
succeeds and no other task acts: a round takes the next recording to upload, and marks or deletes
it. The loop goes on as long as there is a recording, whatever the mark or the deletion returned. A
round that lets its recording go leaves one fewer for the others (`round_todo`), so that the loop
ends (`upload_tick_ends`); one whose recording stays finds it again (`round_stays`).
-/

namespace Rayhunter

open Storage

/-- What a round meets: the clock when it looks for a recording and when it marks it, and what the
disk answers. -/
structure RoundIo where
  now : DateTime
  marked : DateTime
  delete : DeleteIo := {}
  mark : ManifestIo := {}

section
variable [Toml] [Sidecar]

namespace Storage

/-- A round of the loop whose uploads succeed (`webdav.rs:185`): the recording it takes, and what it
leaves. -/
def round (s : Storage) (config : WebdavUploadWorkerConfig) (io : RoundIo) :
    Option (String × Storage) :=
  (s.store.getNextUnuploadedEntry config.minAge io.now).map fun name =>
    (name, Webdav.markOrDelete s config name io.marked io.delete io.mark)

/-- So many rounds of the loop: the recordings that have been taken, and what is left. There is
nothing where the loop has ended before. -/
def rounds (s : Storage) (config : WebdavUploadWorkerConfig) (io : Nat → RoundIo) :
    Nat → Option (List String × Storage)
  | 0 => some ([], s)
  | n + 1 => (s.rounds config io n).bind fun (names, s) =>
    (s.round config (io n)).map fun (name, s) => (names ++ [name], s)

/-- The loop ends, and has taken each entry at most once. -/
def EndsOnce (s : Storage) (config : WebdavUploadWorkerConfig) (io : Nat → RoundIo) : Prop :=
  ∃ n names s', s.rounds config io n = some (names, s') ∧ s'.round config (io n) = none ∧
    names.Subperm s.store.names

/-- The recording is let go of: every file of it can be removed or is not there, where it is
deleted; where it is marked, no other entry of its name, after the one that is found by it, is to be
uploaded. -/
def LetsGo (s : Storage) (config : WebdavUploadWorkerConfig) (io : RoundIo) (name : String) : Prop :=
  if config.deleteOnUpload then ∀ kind ∈ FileKind.ALL, Removable (io.delete.files kind)
  else
    ∀ i e, s.store.manifest.entries[i]? = some e → e.name = name → e.uploadTime = none →
      config.minAge < e.age io.now → s.store.position name = some i

/-- The names of what is still to be taken in the tick. -/
def todo (s : Storage) (config : WebdavUploadWorkerConfig) : List String :=
  if config.deleteOnUpload then s.store.names
  else (s.store.manifest.entries.filter (·.uploadTime.isNone)).map (·.name)

omit [Toml] [Sidecar] in
theorem todo_sublist (s : Storage) (config : WebdavUploadWorkerConfig) :
    (s.todo config).Sublist s.store.names := by
  unfold todo
  split
  · exact .refl _
  · exact List.filter_sublist.map _

/-! ## One round -/

/-- A deletion that can remove every file takes the entry out. -/
theorem deleteEntry_entries {s : Storage} {name : String} {i : Nat} {e : ManifestEntry}
    {io : DeleteIo} (hfound : s.store.entryForName name = some (i, e))
    (hfiles : ∀ kind ∈ FileKind.ALL, Removable (io.files kind)) :
    (s.deleteEntry name io).2.store.manifest.entries = s.store.manifest.entries.eraseIdx i := by
  have hremoved := (removeFiles_eq_none e s.store.path io.files FileKind.ALL s.device.disk).2 hfiles
  unfold deleteEntry
  cases hr : removeFiles e s.store.path io.files FileKind.ALL s.device.disk with
  | mk fault d =>
    rw [hr] at hremoved
    cases hremoved
    simp [hfound, hr, releaseEntry_store, withEntries]

omit [Toml] [Sidecar] in
/-- A name of the store is found. -/
theorem exists_entryForName {store : RecordingStore} {e : ManifestEntry}
    (h : e ∈ store.manifest.entries) : ∃ i e', store.entryForName e.name = some (i, e') := by
  have hfirst : (store.first e.name).isSome := by
    rw [RecordingStore.first, List.find?_isSome]
    exact ⟨e, h, by simp⟩
  obtain ⟨e', he'⟩ := Option.isSome_iff_exists.1 hfirst
  obtain ⟨i, hi⟩ := RecordingStore.first_eq_some.1 he'
  exact ⟨i, e', hi⟩

omit [Sidecar] in
/-- What a mark does to the entries. -/
theorem markEntryAsUploaded_entries {s : Storage} {name : String} {i : Nat} (t : DateTime)
    (io : ManifestIo) (hpos : s.store.position name = some i) :
    (s.markEntryAsUploaded name t io).2.store.manifest.entries =
      s.store.manifest.entries.modify i fun e => { e with uploadTime := some t } := by
  rw [markEntryAsUploaded, hpos]
  rfl

omit [Toml] [Sidecar] in
/-- An entry that is marked is no longer to be uploaded. -/
theorem filter_modify_perm {entries : List ManifestEntry} {i : Nat} {e : ManifestEntry} (t : DateTime)
    (he : entries[i]? = some e) (hnone : e.uploadTime = none) :
    (entries.filter (·.uploadTime.isNone)).Perm
      (e :: (entries.modify i fun e => { e with uploadTime := some t }).filter
        (·.uploadTime.isNone)) := by
  obtain ⟨hi, rfl⟩ := List.getElem?_eq_some_iff.1 he
  have hsplit : entries = entries.take i ++ entries[i] :: entries.drop (i + 1) := by simp
  rw [List.modify_eq_take_cons_drop hi]
  conv_lhs => rw [hsplit]
  simp only [List.filter_append]
  rw [List.filter_cons_of_pos (by simpa using hnone), List.filter_cons_of_neg (by simp)]
  exact List.perm_middle

/-- **A round that lets its recording go** leaves it out of what is to be taken. -/
theorem round_todo {s s' : Storage} {config : WebdavUploadWorkerConfig} {io : RoundIo} {name : String}
    (hround : s.round config io = some (name, s')) (hgo : s.LetsGo config io name) :
    (s.todo config).Perm (name :: s'.todo config) := by
  obtain ⟨_, hnext, hpair⟩ := Option.map_eq_some_iff.1 hround
  cases hpair
  obtain ⟨age, hmem, -⟩ := RecordingStore.getNextUnuploadedEntry_eq_some hnext
  obtain ⟨e, he, -, hnone, hage, hpair⟩ := RecordingStore.mem_unuploaded.1 hmem
  cases hpair
  obtain ⟨j, hj⟩ := List.mem_iff_getElem?.1 he
  unfold LetsGo at hgo
  unfold todo Webdav.markOrDelete
  split at hgo
  · next hdelete =>
    rw [if_pos hdelete, if_pos hdelete, if_pos hdelete]
    obtain ⟨i, e', hfound⟩ := exists_entryForName he
    obtain ⟨-, hi, hname⟩ := RecordingStore.entryForName_eq_some hfound
    obtain ⟨hlt, rfl⟩ := List.getElem?_eq_some_iff.1 hi
    rw [RecordingStore.names, RecordingStore.names, deleteEntry_entries hfound hgo, ← hname,
      ← List.map_cons]
    exact ((List.getElem_cons_eraseIdx_perm hlt).symm).map _
  · next hmark =>
    rw [if_neg hmark, if_neg hmark, if_neg hmark]
    have hpos := hgo j e hj rfl hnone hage
    rw [markEntryAsUploaded_entries io.marked io.mark hpos, ← List.map_cons]
    exact (filter_modify_perm io.marked hj hnone).map _

/-! ## The rounds of a tick -/

theorem rounds_todo {s : Storage} {config : WebdavUploadWorkerConfig} {io : Nat → RoundIo}
    (hgo : ∀ n names s' name s'', s.rounds config io n = some (names, s') →
      s'.round config (io n) = some (name, s'') → s'.LetsGo config (io n) name)
    (n : Nat) {names : List String} {s' : Storage} (h : s.rounds config io n = some (names, s')) :
    names.length = n ∧ (s.todo config).Perm (names ++ s'.todo config) := by
  induction n generalizing names s' with
  | zero =>
    cases h
    exact ⟨rfl, .refl _⟩
  | succ n ih =>
    obtain ⟨⟨names, s'⟩, hn, h⟩ := Option.bind_eq_some_iff.1 h
    obtain ⟨⟨name, s''⟩, hround, hpair⟩ := Option.map_eq_some_iff.1 h
    cases hpair
    obtain ⟨hlength, hperm⟩ := ih hn
    refine ⟨by rw [List.length_append, hlength]; rfl, hperm.trans ?_⟩
    rw [List.append_assoc]
    exact (round_todo hround (hgo n _ _ _ _ hn hround)).append_left names

/-- **One tick ends**, and takes each entry once at most, where every round lets its recording go.
-/
theorem upload_tick_ends {s : Storage} {config : WebdavUploadWorkerConfig} {io : Nat → RoundIo}
    (hgo : ∀ n names s' name s'', s.rounds config io n = some (names, s') →
      s'.round config (io n) = some (name, s'') → s'.LetsGo config (io n) name) :
    s.EndsOnce config io := by
  have hreach : ∀ n, s.EndsOnce config io ∨ ∃ names s', s.rounds config io n = some (names, s') := by
    intro n
    induction n with
    | zero => exact .inr ⟨[], s, rfl⟩
    | succ n ih =>
      refine ih.elim .inl ?_
      rintro ⟨names, s', hn⟩
      cases hround : s'.round config (io n) with
      | none =>
        obtain ⟨-, hperm⟩ := rounds_todo hgo n hn
        refine .inl ⟨n, names, s', hn, hround, ?_⟩
        exact ((List.sublist_append_left names _).subperm.trans hperm.symm.subperm).trans
          (s.todo_sublist config).subperm
      | some result =>
        exact .inr ⟨names ++ [result.1], result.2, by
          rw [rounds, hn]
          simp [hround]⟩
  -- There are no more rounds than there are recordings to take.
  refine (hreach ((s.todo config).length + 1)).elim id ?_
  rintro ⟨names, s', hn⟩
  obtain ⟨hlength, hperm⟩ := rounds_todo hgo _ hn
  have := hperm.length_eq
  rw [List.length_append] at this
  omega

omit [Toml] [Sidecar] in
/-- Where names are distinct, whatever is marked is let go of. -/
theorem letsGo_of_nodup {s : Storage} {config : WebdavUploadWorkerConfig} (io : RoundIo) (name : String)
    (hmark : config.deleteOnUpload = false) (hnodup : s.store.names.Nodup) :
    s.LetsGo config io name := by
  unfold LetsGo
  rw [if_neg (by simp [hmark])]
  rintro i e hi rfl - -
  obtain ⟨j, e', hfound⟩ := exists_entryForName (List.mem_of_getElem? hi)
  obtain ⟨hpos, hj, hname⟩ := RecordingStore.entryForName_eq_some hfound
  have hnames : s.store.names[i]? = s.store.names[j]? := by
    rw [RecordingStore.names, List.getElem?_map, List.getElem?_map, hi, hj, Option.map_some,
      Option.map_some, hname]
  have hlt : i < s.store.names.length := by
    rw [RecordingStore.names, List.length_map]
    exact (List.getElem?_eq_some_iff.1 hi).1
  rw [hpos, (List.getElem?_inj hlt hnodup).1 hnames]

/-! ## A recording that stays -/

/-- A deletion that cannot remove a file leaves the store as it is. -/
theorem deleteEntry_stays {s : Storage} {name : String} {io : DeleteIo}
    (hfault : ∃ kind ∈ FileKind.ALL, ¬ Removable (io.files kind)) :
    (s.deleteEntry name io).2.store = s.store := by
  unfold deleteEntry
  cases hfound : s.store.entryForName name with
  | none => rfl
  | some found =>
    obtain ⟨i, e⟩ := found
    have hremoved := mt (removeFiles_eq_none e s.store.path io.files FileKind.ALL s.device.disk).1
      (by simpa using hfault)
    cases hr : removeFiles e s.store.path io.files FileKind.ALL s.device.disk with
    | mk fault d =>
      rw [hr] at hremoved
      cases fault with
      | none => exact absurd rfl hremoved
      | some err => simp [hr]

/-- A round whose recording cannot be deleted leaves it to the next. -/
theorem round_stays {s s' : Storage} {config : WebdavUploadWorkerConfig} {io : RoundIo} {name : String}
    (hdelete : config.deleteOnUpload = true)
    (hfault : ∃ kind ∈ FileKind.ALL, ¬ Removable (io.delete.files kind))
    (hround : s.round config io = some (name, s')) : s'.store = s.store := by
  obtain ⟨_, -, hpair⟩ := Option.map_eq_some_iff.1 hround
  cases hpair
  rw [Webdav.markOrDelete, if_pos hdelete]
  exact deleteEntry_stays hfault

/-- Where a file of it stays whenever the recording is to be deleted, the loop does not end. -/
theorem not_endsOnce {s : Storage} {config : WebdavUploadWorkerConfig} {io : Nat → RoundIo}
    (hdelete : config.deleteOnUpload = true)
    (hfault : ∀ n, ∃ kind ∈ FileKind.ALL, ¬ Removable ((io n).delete.files kind))
    (hdue : ∀ n, (s.store.getNextUnuploadedEntry config.minAge (io n).now).isSome) :
    ¬ s.EndsOnce config io := by
  have hstore : ∀ n names s', s.rounds config io n = some (names, s') → s'.store = s.store := by
    intro n
    induction n with
    | zero =>
      rintro names s' ⟨⟩
      rfl
    | succ n ih =>
      intro names s' h
      obtain ⟨⟨names, t⟩, hn, h⟩ := Option.bind_eq_some_iff.1 h
      obtain ⟨⟨name, t'⟩, hround, hpair⟩ := Option.map_eq_some_iff.1 h
      cases hpair
      exact (round_stays hdelete (hfault n) hround).trans (ih _ _ hn)
  rintro ⟨n, names, s', hn, hend, -⟩
  rw [round, Option.map_eq_none_iff, hstore n names s' hn] at hend
  have hsome := hdue n
  rw [hend] at hsome
  cases hsome

/-- A store with a recording that is not being made. -/
def oneRecording : Storage where
  store := ⟨defaultStorePath, ⟨[@ManifestEntry.new deviceBuild .disabled anInstant 0]⟩, none⟩
  device := emptyDevice

/-- A minute later. -/
def minuteLater : DateTime := ⟨anInstant.nanos + 60000000000, 0⟩

omit [Toml] [Sidecar] in
/-- A recording that is uploaded and deleted. -/
theorem upload_tick_ends_deleting :
    let _ := tomlAt "2024-08-19T03:33:54+00:00"
    let _ := sidecarJson
    oneRecording.EndsOnce (Webdav.uploadAfterSecond true) fun _ => ⟨minuteLater, minuteLater, {}, {}⟩ := by
  let _ := tomlAt "2024-08-19T03:33:54+00:00"
  let _ := sidecarJson
  exact upload_tick_ends fun _ _ _ _ _ _ _ _ _ => trivial

omit [Toml] [Sidecar] in
/-- A recording whose files cannot be removed is uploaded again and again. -/
theorem upload_tick_endless :
    let _ := tomlAt "2024-08-19T03:33:54+00:00"
    let _ := sidecarJson
    ¬ ∀ (s : Storage) (config : WebdavUploadWorkerConfig) (io : Nat → RoundIo), s.EndsOnce config io := by
  let _ := tomlAt "2024-08-19T03:33:54+00:00"
  let _ := sidecarJson
  intro _ _ h
  refine not_endsOnce rfl (fun _ => ?_) (fun _ => ?_) (h oneRecording (Webdav.uploadAfterSecond true) fun _ =>
    ⟨minuteLater, minuteLater, { files := fun _ => some ⟨.other, "Read-only file system"⟩ }, {}⟩)
  · exact ⟨.qmdl, by decide, by decide⟩
  · decide

end Storage

namespace Webdav

variable [Decoders] [Detectors] [Gzip] [SerdeJson] [Chrono] [Build]

/-- A look of the worker at the store and the end of its round, with uploads that succeed and no
other task in between, are a round of the loop. -/
theorem round_of_steps {config : WebdavUploadWorkerConfig} {s s₁ s₂ s₃ : Webdav} {io : RoundIo}
    {r : UploadRound} (hpoll : s.step config (.poll io.now) = some s₁)
    (hrecorder : s₂.recorder = s₁.recorder)
    (hname : s₁.round.map (·.entryName) = some r.entryName) (hround : s₂.round = some r)
    (hall : FileKind.ALL.all (fun kind => (r.uploads kind).result = some true) = true)
    (hsettle : s₂.step config (.settle io.marked io.delete io.mark) = some s₃) :
    s.recorder.storage.round config io = some (r.entryName, s₃.recorder.storage) ∧
      s₃.round = none := by
  have hnext : s.recorder.storage.store.getNextUnuploadedEntry config.minAge io.now =
      some r.entryName ∧ s₁.recorder = s.recorder := by
    simp only [step] at hpoll
    split at hpoll
    · cases hpoll
    · cases hpoll
      refine ⟨?_, rfl⟩
      rw [Option.map_map] at hname
      exact Option.map_id'.symm.trans hname
  obtain ⟨r', hr', hsettle⟩ := Option.bind_eq_some_iff.1 hsettle
  cases hround.symm.trans hr'
  split at hsettle
  · cases hsettle
    rw [settle, if_pos hall]
    refine ⟨?_, rfl⟩
    rw [Storage.round, hnext.1, Option.map_some, hrecorder, hnext.2]
    rfl
  · cases hsettle

end Webdav

end

end Rayhunter
