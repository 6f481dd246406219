import Rayhunter.Lib.Reach
import Rayhunter.Store.Agree

/-!
# Writing the manifest, moment by moment

`write_manifest` creates `manifest.toml.new`, writes the text to it and renames it to
`manifest.toml`. A write through `tokio::fs::File` is handed to another thread: `write_all` returns
once it is handed over, and nothing waits for it to finish before the rename. So the file that
replaces the manifest may hold a part of the text only, and stays that way where the rest of the
write fails. A crash can come at any moment, that is in any state a run reaches.
-/

namespace Rayhunter

open Runs

/-- How far `write_manifest` (`qmdl_store.rs:552`) has come. `landed` counts the bytes of the text
that have reached the file it is written to. -/
inductive SaveStage
  | called
  | created
  | handed (landed : Nat)
  | replaced (landed : Nat)
  | failed (landed : Option Nat)
  deriving DecidableEq, Repr

/-- A manifest write on its way. It has returned `Ok` where it is `replaced` and an error where it
is `failed`; a write handed over goes on after that. -/
structure SaveRun where
  disk : Disk
  stage : SaveStage

/-- What happens to a manifest write: its three calls return, each with what the disk answers, and
the write that was handed over gets on. -/
inductive SaveEvent
  | create (fault : Option IoError)
  | write (landed : Nat) (reported : Option IoError)
  | land (landed : Nat)
  | rename (fault : Option IoError)

namespace SaveRun

variable (path : PathBuf) (text : List UInt8)

/-- What is in a file that so many bytes of the text have reached. -/
def partOf (n : Nat) : FileContent := .bytes (text.take n)

/-- More of the text reaches a file. -/
def landIn (s : SaveRun) (p : FilePath) (k n : Nat) (stage : Nat → SaveStage) : Option SaveRun :=
  if k < n ∧ n ≤ text.length then some ⟨s.disk.set p (some (partOf text n)), stage n⟩ else none

/-- One moment of `write_manifest`. -/
def step (s : SaveRun) (e : SaveEvent) : Option SaveRun :=
  match s.stage, e with
  | .called, .create (some _) => some { s with stage := .failed none }
  | .called, .create none =>
    some ⟨s.disk.set (manifestTmpPath path) (some (.bytes [])), .created⟩
  | .created, .write n reported =>
    if n ≤ text.length then
      some ⟨s.disk.set (manifestTmpPath path) (some (partOf text n)),
        match reported with
        | some _ => .failed none
        | none => .handed n⟩
    else none
  | .handed k, .land n => s.landIn text (manifestTmpPath path) k n .handed
  | .handed k, .rename none =>
    some ⟨(s.disk.set (manifestPath path) (s.disk.files (manifestTmpPath path))).set
      (manifestTmpPath path) none, .replaced k⟩
  | .handed k, .rename (some _) => some { s with stage := .failed (some k) }
  | .replaced k, .land n => s.landIn text (manifestPath path) k n .replaced
  | .failed (some k), .land n =>
    s.landIn text (manifestTmpPath path) k n (fun n => .failed (some n))
  | _, _ => none

/-- The bytes of `manifest.toml`. -/
def contents (s : SaveRun) : Option (List UInt8) :=
  (s.disk.files (manifestPath path)).map FileContent.toBytes

/-- `manifest.toml` holds all of what it held before or all of the new text, and the new text where
`write_manifest` has returned `Ok`. -/
structure Whole (before : Option (List UInt8)) (s : SaveRun) : Prop where
  oldOrNew : s.contents path = before ∨ s.contents path = some text
  newIfOk : ∀ k, s.stage = .replaced k → s.contents path = some text

/-- A rename that goes through finds the whole text in the file it puts in place. -/
def RenamesWhole (s : SaveRun) : SaveEvent → Prop
  | .rename none => ∀ k, s.stage = .handed k → k = text.length
  | _ => True

/-- What is where, at each stage. -/
structure Inv (before : Option FileContent) (s : SaveRun) : Prop where
  unreplaced : (∀ k, s.stage ≠ .replaced k) → s.disk.files (manifestPath path) = before
  handed : ∀ k, s.stage = .handed k → k ≤ text.length ∧
    s.disk.files (manifestTmpPath path) = some (partOf text k)
  replaced : ∀ k, s.stage = .replaced k → k ≤ text.length ∧
    s.disk.files (manifestPath path) = some (partOf text k)

/-- What a moment of `write_manifest` does, by the stage it comes at. -/
inductive Moves (s : SaveRun) : SaveEvent → SaveRun → Prop
  | notCreated (hs : s.stage = .called) (err : IoError) :
    Moves s (.create (some err)) { s with stage := .failed none }
  | created (hs : s.stage = .called) :
    Moves s (.create none) ⟨s.disk.set (manifestTmpPath path) (some (.bytes [])), .created⟩
  | notWritten {n : Nat} (hs : s.stage = .created) (err : IoError) :
    Moves s (.write n (some err))
      ⟨s.disk.set (manifestTmpPath path) (some (partOf text n)), .failed none⟩
  | handed {n : Nat} (hs : s.stage = .created) (hn : n ≤ text.length) :
    Moves s (.write n none)
      ⟨s.disk.set (manifestTmpPath path) (some (partOf text n)), .handed n⟩
  | landed {k n : Nat} (hs : s.stage = .handed k) (hk : k < n) (hn : n ≤ text.length) :
    Moves s (.land n) ⟨s.disk.set (manifestTmpPath path) (some (partOf text n)), .handed n⟩
  | notRenamed {k : Nat} (hs : s.stage = .handed k) (err : IoError) :
    Moves s (.rename (some err)) { s with stage := .failed (some k) }
  | renamed {k : Nat} (hs : s.stage = .handed k) :
    Moves s (.rename none)
      ⟨(s.disk.set (manifestPath path) (s.disk.files (manifestTmpPath path))).set
        (manifestTmpPath path) none, .replaced k⟩
  | landedAfter {k n : Nat} (hs : s.stage = .replaced k) (hk : k < n) (hn : n ≤ text.length) :
    Moves s (.land n) ⟨s.disk.set (manifestPath path) (some (partOf text n)), .replaced n⟩
  | landedFailed {k n : Nat} (hs : s.stage = .failed (some k)) :
    Moves s (.land n)
      ⟨s.disk.set (manifestTmpPath path) (some (partOf text n)), .failed (some n)⟩

variable {path text}

theorem landIn_eq_some {s s' : SaveRun} {p : FilePath} {k n : Nat} {stage : Nat → SaveStage} :
    s.landIn text p k n stage = some s' ↔
      (k < n ∧ n ≤ text.length) ∧ s' = ⟨s.disk.set p (some (partOf text n)), stage n⟩ := by
  unfold landIn
  split
  · next h => simp [h, eq_comm]
  · next h => simp [h]

theorem moves_of_step {s s' : SaveRun} {e : SaveEvent} (h : s.step path text e = some s') :
    s.Moves path text e s' := by
  unfold step at h
  split at h
  · next err hs => cases h; exact .notCreated hs err
  · next hs => cases h; exact .created hs
  · next n reported hs =>
    split at h
    · next hn =>
      cases h
      cases reported with
      | some err => exact .notWritten hs err
      | none => exact .handed hs hn
    · cases h
  · next k n hs =>
    obtain ⟨⟨hk, hn⟩, rfl⟩ := landIn_eq_some.1 h
    exact .landed hs hk hn
  · next k hs => cases h; exact .renamed hs
  · next k err hs => cases h; exact .notRenamed hs err
  · next k n hs =>
    obtain ⟨⟨hk, hn⟩, rfl⟩ := landIn_eq_some.1 h
    exact .landedAfter hs hk hn
  · next k n hs =>
    obtain ⟨-, rfl⟩ := landIn_eq_some.1 h
    exact .landedFailed hs
  · cases h

/-! ## The invariant -/

/-- A write beside the manifest leaves it. -/
theorem set_tmp_manifest (d : Disk) (c : Option FileContent) :
    (d.set (manifestTmpPath path) c).files (manifestPath path) = d.files (manifestPath path) :=
  Disk.set_files_of_ne _ _ (manifestTmpPath_ne path)

theorem Inv.start (d : Disk) :
    Inv path text (d.files (manifestPath path)) ⟨d, .called⟩ :=
  ⟨fun _ => rfl, fun _ h => (nomatch h), fun _ h => (nomatch h)⟩

/-- The invariant of a state whose manifest is still the old one. -/
theorem Inv.of_old {before : Option FileContent} {d : Disk} {st : SaveStage}
    (hold : d.files (manifestPath path) = before) (hst : ∀ k, st ≠ .replaced k)
    (hh : ∀ k, st = .handed k → k ≤ text.length ∧
      d.files (manifestTmpPath path) = some (partOf text k)) :
    Inv path text before ⟨d, st⟩ :=
  ⟨fun _ => hold, hh, fun k hk => absurd hk (hst k)⟩

/-- Every moment keeps the invariant. -/
theorem Inv.step {before : Option FileContent} {s s' : SaveRun} {e : SaveEvent}
    (h : s.Inv path text before) (hst : s.step path text e = some s') :
    s'.Inv path text before := by
  cases moves_of_step hst with
  | notCreated hs | notRenamed hs =>
    exact .of_old (h.unreplaced (by simp [hs])) (by simp) (by simp)
  | created hs | notWritten hs =>
    exact .of_old (by rw [set_tmp_manifest]; exact h.unreplaced (by simp [hs])) (by simp) (by simp)
  | handed hs hn | landed hs _ hn =>
    refine .of_old (by rw [set_tmp_manifest]; exact h.unreplaced (by simp [hs])) (by simp) ?_
    rintro k hk
    cases hk
    exact ⟨hn, Disk.set_files_self ..⟩
  | landedFailed hs =>
    exact .of_old (by rw [set_tmp_manifest]; exact h.unreplaced (by simp [hs])) (by simp) (by simp)
  | renamed hs =>
    obtain ⟨hk, htmp⟩ := h.handed _ hs
    refine ⟨fun hno => absurd rfl (hno _), fun _ hk => (nomatch hk), ?_⟩
    rintro k ⟨⟩
    refine ⟨hk, ?_⟩
    rw [set_tmp_manifest, Disk.set_files_self, htmp]
  | landedAfter hs _ hn =>
    refine ⟨fun hno => absurd rfl (hno _), fun _ hk => (nomatch hk), ?_⟩
    rintro k ⟨⟩
    exact ⟨hn, Disk.set_files_self ..⟩

/-! ## Whole at every moment -/

/-- A part of a text is the text where it is as long. -/
theorem partOf_toBytes_eq {n : Nat} (hn : n ≤ text.length) :
    (partOf text n).toBytes = text ↔ n = text.length := by
  simp only [partOf, FileContent.toBytes]
  constructor
  · intro h
    have := congrArg List.length h
    rw [List.length_take] at this
    omega
  · rintro rfl
    exact List.take_length

/-- While the old manifest is in place it is whole; once it is replaced the new one is, where all of
the text has landed. -/
theorem Inv.whole_iff {before : Option FileContent} {s : SaveRun} (h : s.Inv path text before) :
    s.Whole path text (before.map FileContent.toBytes) ↔
      ∀ k, s.stage = .replaced k → k = text.length := by
  constructor
  · intro hw k hk
    obtain ⟨hle, hfile⟩ := h.replaced k hk
    have hnew := hw.newIfOk k hk
    rw [contents, hfile] at hnew
    exact (partOf_toBytes_eq hle).1 (Option.some.inj hnew)
  · intro hall
    have hnew : ∀ k, s.stage = .replaced k → s.contents path = some text := by
      intro k hk
      obtain ⟨hle, hfile⟩ := h.replaced k hk
      rw [contents, hfile]
      exact congrArg some ((partOf_toBytes_eq hle).2 (hall k hk))
    refine ⟨?_, hnew⟩
    by_cases hst : ∃ k, s.stage = .replaced k
    · obtain ⟨k, hk⟩ := hst
      exact .inr (hnew k hk)
    · exact .inl (by rw [contents, h.unreplaced fun k hk => hst ⟨k, hk⟩])

/-- From a whole manifest, a moment leads to a whole one exactly where a rename finds all of the
text in the file it puts in place. -/
theorem Inv.step_whole_iff {before : Option FileContent} {s s' : SaveRun} {e : SaveEvent}
    (h : s.Inv path text before) (hw : s.Whole path text (before.map FileContent.toBytes))
    (hst : s.step path text e = some s') :
    s'.Whole path text (before.map FileContent.toBytes) ↔ s.RenamesWhole text e := by
  rw [(h.step hst).whole_iff]
  have hold := h.whole_iff.1 hw
  cases moves_of_step hst with
  | notCreated | created | notWritten | handed | landed | notRenamed | landedFailed =>
    simp_all [RenamesWhole]
  | renamed hs => simp [RenamesWhole, hs]
  | landedAfter hs hk hn =>
    have := hold _ hs
    omega

/-! ## What a write comes to -/

section
variable [Toml]

/-- The bytes `write_manifest` writes. -/
def textOf (store : RecordingStore) : List UInt8 := utf8 (Toml.toStringPretty store.manifest)

/-- The moments of `write_manifest` for a store. -/
abbrev saveStep (store : RecordingStore) : SaveRun → SaveEvent → Option SaveRun :=
  step store.path (textOf store)

omit [Toml] in
theorem set_set (d : Disk) (p : FilePath) (a b : Option FileContent) :
    (d.set p a).set p b = d.set p b := by
  simp [Disk.set]

/-- What the whole disk is like, at each stage of a write that began on `d`. -/
def DiskAt (d : Disk) (path : PathBuf) (text : List UInt8) (s : SaveRun) : Prop :=
  match s.stage with
  | .called => s.disk = d
  | .created => ∃ c, s.disk = d.set (manifestTmpPath path) c
  | .handed k | .failed (some k) =>
    s.disk = d.set (manifestTmpPath path) (some (partOf text k))
  | .replaced k =>
    s.disk = ((d.set (manifestTmpPath path) (some (partOf text k))).set (manifestPath path)
      (some (partOf text k))).set (manifestTmpPath path) none
  | .failed none => s.disk = d ∨ ∃ n, s.disk = d.set (manifestTmpPath path) (some (partOf text n))

omit [Toml] in
theorem DiskAt.step {d : Disk} {s s' : SaveRun} {e : SaveEvent} (h : s.DiskAt d path text)
    (hst : s.step path text e = some s') : s'.DiskAt d path text := by
  unfold DiskAt at h
  cases moves_of_step hst with
  | notCreated hs => simp only [hs] at h; exact .inl h
  | created hs => simp only [hs] at h; exact ⟨_, by rw [h]⟩
  | notWritten hs =>
    simp only [hs] at h
    obtain ⟨c, h⟩ := h
    exact .inr ⟨_, by rw [h, set_set]⟩
  | handed hs =>
    simp only [hs] at h
    obtain ⟨c, h⟩ := h
    show _ = _
    rw [h, set_set]
  | landed hs | landedFailed hs =>
    simp only [hs] at h
    show _ = _
    rw [h, set_set]
  | notRenamed hs => simp only [hs] at h; exact h
  | renamed hs =>
    simp only [hs] at h
    show _ = _
    rw [h, Disk.set_files_self]
  | landedAfter hs =>
    simp only [hs] at h
    show _ = _
    rw [h]
    -- the two writes to the manifest are apart from that to the file beside it
    simp only [Disk.set, Function.update_comm (manifestTmpPath_ne path), Function.update_idem]

/-- The write has returned. -/
def Returned (s : SaveRun) : Prop := (∃ k, s.stage = .replaced k) ∨ ∃ k, s.stage = .failed k

/-- **A write that has returned is one of `write_manifest`'s**: it leaves the disk that
`manifestDisk` says for some answers of the disk, and has returned `Ok` where these have no fault. -/
theorem returned_manifestDisk {d : Disk} {store : RecordingStore} {s : SaveRun}
    (h : Reach (· = ⟨d, .called⟩) (saveStep store) (fun _ _ => True) s) (hr : s.Returned) :
    ∃ io : ManifestIo, s.disk = manifestDisk d store io ∧
      ((∃ k, s.stage = .replaced k) ↔ io.fault = none) := by
  have hdisk : s.DiskAt d store.path (textOf store) :=
    h.invariant (fun s hs => by subst hs; rfl) fun s e s' hi _ hst => hi.step hst
  unfold DiskAt at hdisk
  rcases hr with ⟨k, hk⟩ | ⟨k, hk⟩
  · simp only [hk] at hdisk
    exact ⟨{ write := ⟨some k, none⟩ }, hdisk, by simp [hk, ManifestIo.fault]⟩
  · cases k with
    | some k =>
      simp only [hk] at hdisk
      exact ⟨{ write := ⟨some k, none⟩, rename := some noSpaceLeft }, hdisk,
        by simp [hk, ManifestIo.fault]⟩
    | none =>
      simp only [hk] at hdisk
      rcases hdisk with hdisk | ⟨n, hdisk⟩
      · exact ⟨{ create := some noSpaceLeft }, hdisk, by simp [hk, ManifestIo.fault]⟩
      · exact ⟨{ write := ⟨some n, some noSpaceLeft⟩ }, hdisk, by simp [hk, ManifestIo.fault]⟩

/-- The invariant holds along every run. -/
theorem inv_of_reach {d : Disk} {store : RecordingStore} {ok : SaveRun → SaveEvent → Prop}
    {s : SaveRun} (h : Reach (· = ⟨d, .called⟩) (saveStep store) ok s) :
    s.Inv store.path (textOf store) (d.files (manifestPath store.path)) :=
  h.invariant (fun s hs => by subst hs; exact .start d) fun s e s' hi _ hst => hi.step hst

/-- **The manifest is whole at every moment** of a write whose rename finds the whole text in the
file it puts in place; and a rename that finds less leaves one that is not. -/
theorem manifest_whole {d : Disk} {store : RecordingStore} {s : SaveRun}
    (h : Reach (· = ⟨d, .called⟩) (saveStep store) (RenamesWhole (textOf store)) s) :
    s.Whole store.path (textOf store)
        ((d.files (manifestPath store.path)).map FileContent.toBytes) ∧
      ∀ e s', saveStep store s e = some s' →
        (s'.Whole store.path (textOf store)
            ((d.files (manifestPath store.path)).map FileContent.toBytes) ↔
          s.RenamesWhole (textOf store) e) := by
  have hwhole : s.Whole store.path (textOf store)
      ((d.files (manifestPath store.path)).map FileContent.toBytes) :=
    h.invariant_with (fun s hs => inv_of_reach hs)
      (fun s hs => by subst hs; exact ⟨.inl rfl, fun _ hk => (nomatch hk)⟩)
      fun s e s' hi hw hok hst => (hi.step_whole_iff hw hst).2 hok
  exact ⟨hwhole, fun e s' hst => (inv_of_reach h).step_whole_iff hwhole hst⟩

end

/-! ## A rename that comes too early -/

/-- A write whose rename waits for all of its text. -/
theorem manifest_whole_waited :
    let _ := tomlAt "2024-08-19T03:33:54+00:00"
    ∃ s : SaveRun, s.stage = .replaced 13 ∧
      s.Whole defaultStorePath (textOf createdStorage.store)
        ((createdStorage.device.disk.files (manifestPath defaultStorePath)).map
          FileContent.toBytes) := by
  let _ := tomlAt "2024-08-19T03:33:54+00:00"
  intro _
  have hrun : Reach (· = ⟨createdStorage.device.disk, .called⟩) (saveStep createdStorage.store)
      (RenamesWhole (textOf createdStorage.store)) _ :=
    .step (.step (.step (.step (.init rfl) (i := .create none) trivial rfl)
      (i := .write 0 none) trivial (by rfl)) (i := .land 13) trivial (by rfl))
      (i := .rename none) (fun k hk => by cases hk; decide +kernel) rfl
  exact ⟨_, rfl, (manifest_whole hrun).1⟩

/-- A write that reaches nothing of the file before the rename, as when the disk is full: the
manifest is empty and `write_manifest` has returned `Ok`. -/
theorem manifest_emptied :
    let _ := tomlAt "2024-08-19T03:33:54+00:00"
    ¬ ∀ (d : Disk) (store : RecordingStore) (s : SaveRun),
      Reach (· = ⟨d, .called⟩) (saveStep store) (fun _ _ => True) s →
        s.Whole store.path (textOf store)
          ((d.files (manifestPath store.path)).map FileContent.toBytes) := by
  let _ := tomlAt "2024-08-19T03:33:54+00:00"
  intro _ h
  have hrun : Reach (· = ⟨createdStorage.device.disk, .called⟩) (saveStep createdStorage.store)
      (fun _ _ => True) _ :=
    .step (.step (.step (.init rfl) (i := .create none) trivial rfl)
      (i := .write 0 none) trivial rfl) (i := .rename none) trivial rfl
  exact absurd ((h _ _ _ hrun).newIfOk 0 rfl) (by decide +kernel)

end SaveRun

end Rayhunter
