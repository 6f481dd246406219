import Rayhunter.Lib.Paths
import Rayhunter.Lib.Utf8
import Rayhunter.Recorder.Monitor

/-!
# The memory card's mount

`check_removable` of `daemon/src/storage.rs`: whether the recordings are on a memory card is told by
the innermost mount over their directory (`cardMount_innermost`). What is mounted, and what is
detached once the card is gone, is the directory `mount_target` makes of the path alone. It is that
mount's where the mount is at a known card directory, or at the recordings' own and that is not
below a known one, and no other (`checkRemovable_target_iff`).
-/

namespace Rayhunter

open Paths

/-! ## The table of mounts -/

/-- `KNOWN_CARD_DIRS` (`storage.rs:39`). -/
def KNOWN_CARD_DIRS : List String := ["/media/card", "/media/sdcard", "/mnt/sdcard"]

/-- `MountEntry` (`storage.rs:126`). -/
structure MountEntry where
  device : String
  mountpoint : String
  fstype : String
  deriving DecidableEq, Repr

/-- An octal digit. -/
def isOctal (b : UInt8) : Bool := 48 ≤ b && b ≤ 55

/-- The loop of `unescape_mount_field` (`storage.rs:151`); an escape above 255 wraps. -/
def unescapeBytes : List UInt8 → List UInt8
  | [] => []
  | 92 :: a :: b :: c :: rest =>
    if isOctal a && isOctal b && isOctal c then
      ((a - 48) * 64 + (b - 48) * 8 + (c - 48)) :: unescapeBytes rest
    else 92 :: unescapeBytes (a :: b :: c :: rest)
  | b :: rest => b :: unescapeBytes rest

/-- `unescape_mount_field` (`storage.rs:151`). -/
def unescapeMountField (field : List Char) : String :=
  String.ofList (Utf8.lossy (unescapeBytes (utf8 (String.ofList field))))

/-- One line of the table (`storage.rs:138`). -/
def parseMount (line : String) : Option MountEntry :=
  match (line.toList.splitOnP Text.isWhitespace).filter (· ≠ []) with
  | device :: mountpoint :: fstype :: _ =>
    some ⟨unescapeMountField device, unescapeMountField mountpoint, String.ofList fstype⟩
  | _ => none

/-- `parse_mounts` (`storage.rs:134`). -/
def parseMounts (contents : String) : List MountEntry := (Text.lines contents).filterMap parseMount

/-! ## Which mount a path is on -/

/-- `normalise` (`storage.rs:231`). -/
def normalise (path : String) : List Char :=
  let trimmed := path.toList.rdropWhile (· = '/')
  if trimmed = [] then ['/'] else trimmed

/-- The length of a text in bytes. -/
def byteLength (cs : List Char) : Nat := (cs.map Char.utf8Size).sum

/-- `Iterator::max_by_key`: of the elements with the largest key, the last. -/
def maxByKey {α : Type} (key : α → Nat) : List α → Option α
  | [] => none
  | x :: xs =>
    match maxByKey key xs with
    | none => some x
    | some y => if key x ≤ key y then some y else some x

namespace MountEntry

/-- Where a mount is. -/
def point (m : MountEntry) : List Char := normalise m.mountpoint

/-- A mount is over a path (`storage.rs:191`). -/
def Covers (m : MountEntry) (path : String) : Prop :=
  m.point = ['/'] ∨ Within '/' (normalise path) m.point

instance (m : MountEntry) (path : String) : Decidable (m.Covers path) :=
  inferInstanceAs (Decidable (m.point = ['/'] ∨ Within '/' (normalise path) m.point))

end MountEntry

/-- `mount_covering` (`storage.rs:186`). -/
def mountCovering (path : String) (mounts : List MountEntry) : Option MountEntry :=
  maxByKey (fun m => byteLength m.point) (mounts.filter (·.Covers path))

/-- `looks_removable` (`storage.rs:243`). -/
def looksRemovable (entry : MountEntry) : Bool :=
  let deviceOk := ["/dev/mmcblk", "/dev/sd", "/dev/block/mmcblk", "/dev/block/sd"].any
    fun p => p.toList.isPrefixOf entry.device.toList
  let fstypeOk := ["vfat", "msdos", "exfat", "ext2", "ext3", "ext4", "f2fs", "ntfs",
    "fuseblk"].contains entry.fstype
  deviceOk && fstypeOk

/-- `mount_is_the_card` (`storage.rs:202`). -/
def mountIsTheCard (path : String) (mount : MountEntry) (deviceHint : Option String) : Bool :=
  if mount.point = normalise path then true
  else if mount.point = ['/'] then false
  else
    looksRemovable mount || (KNOWN_CARD_DIRS.any fun d => normalise d = mount.point) ||
      (deviceHint.any fun d => d = mount.device)

/-- `mount_target` (`storage.rs:221`). -/
def mountTarget (path : String) : String :=
  match (KNOWN_CARD_DIRS.map normalise).find? fun d => Within '/' (normalise path) d with
  | some d => String.ofList d
  | none => path

/-! ## The check -/

/-- What the device answers one look at the card: the table of mounts, which device files are there,
and whether the directory can be made and written to. -/
structure Surroundings where
  mounts : Option String
  present : String → Bool
  createDir : Except String Unit
  probe : Except String Unit

/-- `card_device` (`storage.rs:260`). -/
def cardDevice (w : Surroundings) : Option String → Option String
  | some hint => if w.present hint then some hint else none
  | none =>
    ((List.range 4).flatMap fun n => [s!"/dev/mmcblk{n}p1", s!"/dev/mmcblk{n}"]).find? w.present

/-- The mount over the recordings, where it counts as the card (`storage.rs:321`). -/
def cardMount (path : String) (deviceHint : Option String) (mounts : List MountEntry) :
    Option MountEntry :=
  (mountCovering path mounts).filter fun m => mountIsTheCard path m deviceHint

/-- `Observation` (`storage.rs:293`). -/
structure Observation where
  mounted : Bool
  writable : Except String Unit
  devicePresent : Bool

/-- `judge` (`storage.rs:300`). -/
def judge (observation : Observation) : RemovableState :=
  match observation.mounted, observation.writable with
  | true, .ok () => .present
  | true, .error reason =>
    if observation.devicePresent then .unusable reason else .missing
  | false, _ =>
    if observation.devicePresent then .unusable "card present but not mounted" else .missing

/-- `observe` (`storage.rs:316`). -/
def observe (path : String) (deviceHint : Option String) (w : Surroundings) :
    Observation × Option String :=
  let mounts := (w.mounts.map parseMounts).getD []
  let mountedEntry := cardMount path deviceHint mounts
  let device :=
    match mountedEntry with
    | some entry =>
      if "/dev/".toList.isPrefixOf entry.device.toList then
        if w.present entry.device then some entry.device else none
      else cardDevice w deviceHint
    | none => cardDevice w deviceHint
  let writable :=
    if mountedEntry.isSome then
      match w.createDir with
      | .ok () => w.probe
      | .error e => .error e
    else .error "not mounted"
  (⟨mountedEntry.isSome, writable, device.isSome⟩, device)

/-- What is run to change the mounts. -/
inductive MountCommand
  | detach (target : String)
  | mount (device target : String)
  deriving DecidableEq, Repr

/-- The directory a command is for. -/
def MountCommand.target : MountCommand → String
  | detach target | mount _ target => target

/-- What the device answers a check: both looks at the card, and how making the directory and
running the command ends. -/
structure CheckIo where
  first : Surroundings
  createTarget : Except String Unit
  run : Except String Unit
  again : Surroundings

/-- `check_removable` (`storage.rs:363`), with the commands it runs. -/
def checkRemovable (path : String) (deviceHint : Option String) (io : CheckIo) :
    Check × List MountCommand :=
  let (observation, device) := observe path deviceHint io.first
  match judge observation with
  | .missing =>
    (⟨.missing, false⟩, if observation.mounted then [.detach (mountTarget path)] else [])
  | .unusable reason =>
    if observation.mounted then (⟨.unusable reason, false⟩, [])
    else
      match device with
      | none => (⟨.unusable reason, false⟩, [])
      | some device =>
        let target := mountTarget path
        match io.createTarget with
        | .error e => (⟨.unusable s!"cannot create {target}: {e}", false⟩, [])
        | .ok () =>
          match io.run with
          | .error e => (⟨.unusable s!"mount failed: {e}", false⟩, [.mount device target])
          | .ok () =>
            (⟨judge (observe path deviceHint io.again).1, true⟩, [.mount device target])
  | state => (⟨state, false⟩, [])

/-- Every command is for the directory that is made of the path. -/
theorem target_of_mem_checkRemovable {path : String} {deviceHint : Option String} {io : CheckIo}
    {c : MountCommand} (h : c ∈ (checkRemovable path deviceHint io).2) :
    c.target = mountTarget path := by
  unfold checkRemovable at h
  dsimp only at h
  split at h
  · split at h
    · rw [List.mem_singleton] at h
      rw [h]
      rfl
    · cases h
  · split at h
    · cases h
    · split at h
      · cases h
      · split at h
        · cases h
        · split at h
          all_goals
            rw [List.mem_singleton] at h
            rw [h]
            rfl
  · cases h

/-- A card that is gone and cannot be written to. -/
def cardGone (contents : String) : Surroundings where
  mounts := some contents
  present _ := false
  createDir := .error "Input/output error (os error 5)"
  probe := .error "Input/output error (os error 5)"

/-- A mount that counts as the card is detached once the card is gone. -/
theorem checkRemovable_cardGone {path : String} {deviceHint : Option String} {contents : String}
    {m : MountEntry} (h : cardMount path deviceHint (parseMounts contents) = some m)
    (createTarget run : Except String Unit) (again : Surroundings) :
    (checkRemovable path deviceHint ⟨cardGone contents, createTarget, run, again⟩).2 =
      [.detach (mountTarget path)] := by
  have hdevice : ∀ hint, cardDevice (cardGone contents) hint = none := by
    rintro (_ | hint) <;> rfl
  have hobserve : observe path deviceHint (cardGone contents) =
      (⟨true, .error "Input/output error (os error 5)", false⟩, none) := by
    have hmounts : ((cardGone contents).mounts.map parseMounts).getD [] =
        parseMounts contents := rfl
    rw [observe, hmounts, h]
    by_cases hdev : "/dev/".toList.isPrefixOf m.device.toList = true
    · simp only [if_pos hdev]
      rfl
    · simp only [if_neg hdev, hdevice]
      rfl
  simp only [checkRemovable, hobserve, judge]
  rfl

/-! ## The innermost mount -/

theorem maxByKey_eq_some {α : Type} {key : α → Nat} {l : List α} {m : α}
    (h : maxByKey key l = some m) : m ∈ l ∧ ∀ x ∈ l, key x ≤ key m := by
  induction l generalizing m with
  | nil => cases h
  | cons x xs ih =>
    rw [maxByKey] at h
    cases hrest : maxByKey key xs with
    | none =>
      rw [hrest] at h
      cases h
      have hnil : xs = [] := by
        cases xs with
        | nil => rfl
        | cons y ys =>
          rw [maxByKey] at hrest
          split at hrest
          · cases hrest
          · split at hrest <;> cases hrest
      subst hnil
      exact ⟨List.mem_singleton_self x, fun y hy => (List.mem_singleton.1 hy ▸ le_rfl)⟩
    | some y =>
      obtain ⟨hy, hmax⟩ := ih hrest
      simp only [hrest] at h
      split at h
      · next hle =>
        cases h
        refine ⟨List.mem_cons_of_mem _ hy, fun z hz => ?_⟩
        rcases List.mem_cons.1 hz with rfl | hz
        · exact hle
        · exact hmax z hz
      · next hlt =>
        cases h
        refine ⟨List.mem_cons_self .., fun z hz => ?_⟩
        rcases List.mem_cons.1 hz with rfl | hz
        · exact le_rfl
        · exact (hmax z hz).trans (Nat.le_of_not_le hlt)

/-- What lies below has more bytes. -/
theorem eq_of_within_of_byteLength {path root : List Char} (h : Within '/' path root)
    (hlength : byteLength path ≤ byteLength root) : path = root := by
  obtain ⟨rest, rfl⟩ := h.isPrefix
  cases rest with
  | nil => rw [List.append_nil]
  | cons c rest =>
    have hc : 0 < c.utf8Size := Char.utf8Size_pos c
    simp only [byteLength, List.map_append, List.map_cons, List.sum_append, List.sum_cons]
      at hlength
    omega

/-- A mount is the innermost one over a path: of the others, each is over it in turn. -/
def MountEntry.Innermost (m : MountEntry) (path : String) (mounts : List MountEntry) : Prop :=
  m ∈ mounts ∧ m.Covers path ∧
    ∀ other ∈ mounts, other.Covers path → other.point = ['/'] ∨ Within '/' m.point other.point

/-- **The mount that counts as the card is the innermost one** over the recordings. -/
theorem cardMount_innermost {path : String} {deviceHint : Option String}
    {mounts : List MountEntry} {m : MountEntry} (h : cardMount path deviceHint mounts = some m) :
    m.Innermost path mounts := by
  obtain ⟨hcovering, hcard⟩ := Option.filter_eq_some_iff.1 h
  obtain ⟨hmem, hmax⟩ := maxByKey_eq_some hcovering
  obtain ⟨hm, hcovers⟩ := List.mem_filter.1 hmem
  have hcovers : m.Covers path := of_decide_eq_true hcovers
  refine ⟨hm, hcovers, fun other hother hover => ?_⟩
  have hlength : byteLength other.point ≤ byteLength m.point :=
    hmax other (List.mem_filter.2 ⟨hother, decide_eq_true hover⟩)
  refine or_iff_not_imp_left.2 fun hroot => ?_
  have hother' := hover.resolve_left hroot
  rcases hcovers with hm' | hm'
  · -- The root of the file system counts as the card only where it is the recordings' own.
    have hpath : m.point = normalise path := by
      by_contra hne
      rw [mountIsTheCard, if_neg hne, if_pos hm'] at hcard
      cases hcard
    rw [hpath]
    exact hother'
  · rcases hm'.comparable hother' with hin | hin
    · exact hin
    · rw [eq_of_within_of_byteLength hin hlength]
      exact Within.refl ..

/-! ## The directory of the commands -/

/-- The known card directories, as paths are compared. -/
def knownCardDirs : List (List Char) := KNOWN_CARD_DIRS.map normalise

/-- No known card directory is within another. -/
theorem eq_of_mem_knownCardDirs {path d d' : List Char} (hd : d ∈ knownCardDirs)
    (hd' : d' ∈ knownCardDirs) (h : Within '/' path d) (h' : Within '/' path d') : d = d' := by
  have hapart : ∀ d ∈ knownCardDirs, ∀ d' ∈ knownCardDirs, Within '/' d d' → d = d' := by decide
  rcases h.comparable h' with hin | hin
  · exact hapart d hd d' hd' hin
  · exact (hapart d' hd' d hd hin).symm

/-- A mount is where commands for the path are run: at a known card directory, or at the path
itself, where that is not below a known one. -/
def MountEntry.AtItsPlace (m : MountEntry) (path : String) : Prop :=
  m.point ∈ knownCardDirs ∨
    (m.point = normalise path ∧
      ∀ d ∈ knownCardDirs, Within '/' (normalise path) d → normalise path = d)

theorem normalise_mountTarget_iff {path : String} {m : MountEntry} (hcovers : m.Covers path) :
    normalise (mountTarget path) = m.point ↔ m.AtItsPlace path := by
  have hwithin : m.point ∈ knownCardDirs → Within '/' (normalise path) m.point := fun hknown => by
    have hroot : ∀ d ∈ knownCardDirs, d ≠ ['/'] := by decide
    exact hcovers.resolve_left (hroot _ hknown)
  have hsame : ∀ d ∈ knownCardDirs, normalise (String.ofList d) = d := by decide
  unfold mountTarget MountEntry.AtItsPlace
  rw [← knownCardDirs]
  cases hfind : knownCardDirs.find? fun d => Within '/' (normalise path) d with
  | none =>
    have hnone : ∀ d ∈ knownCardDirs, ¬ Within '/' (normalise path) d := by
      simpa using hfind
    refine ⟨fun h => .inr ⟨h.symm, fun d hd hin => absurd hin (hnone d hd)⟩, ?_⟩
    rintro (hknown | ⟨hpath, -⟩)
    · exact absurd (hwithin hknown) (hnone _ hknown)
    · exact hpath.symm
  | some d =>
    have hd := List.mem_of_find?_eq_some hfind
    have hin : Within '/' (normalise path) d := by
      simpa using List.find?_some hfind
    simp only [hsame d hd]
    refine ⟨fun h => .inl (h ▸ hd), ?_⟩
    rintro (hknown | ⟨hpath, hown⟩)
    · exact eq_of_mem_knownCardDirs hd hknown hin (hwithin hknown)
    · rw [hpath, hown d hd hin]

/-- Where recordings count as being on a card, that is by the innermost mount over them, and every
command that any check of the card runs from then on is for where that mount is. -/
def UsesItsMount (path : String) (deviceHint : Option String) (contents : String) : Prop :=
  ∀ m, cardMount path deviceHint (parseMounts contents) = some m →
    m.Innermost path (parseMounts contents) ∧
    ∀ io, ∀ c ∈ (checkRemovable path deviceHint io).2, normalise c.target = m.point

/-- **The card's mount is the one that is mounted and detached** exactly where it is at its
place. -/
theorem checkRemovable_target_iff (path : String) (deviceHint : Option String)
    (contents : String) :
    UsesItsMount path deviceHint contents ↔
      ∀ m, cardMount path deviceHint (parseMounts contents) = some m → m.AtItsPlace path := by
  refine forall₂_congr fun m hm => ?_
  have hinnermost := cardMount_innermost hm
  rw [← normalise_mountTarget_iff hinnermost.2.1]
  constructor
  · rintro ⟨-, h⟩
    refine h ⟨cardGone contents, .ok (), .ok (), cardGone contents⟩ (.detach (mountTarget path)) ?_
    rw [checkRemovable_cardGone hm]
    exact List.mem_singleton_self _
  · intro htarget
    refine ⟨hinnermost, fun io c hc => ?_⟩
    rw [target_of_mem_checkRemovable hc, htarget]

/-- A card the system has mounted at `/mnt/usb`, with the recordings in a directory on it. -/
theorem checkRemovable_other_target :
    ¬ ∀ (path : String) (deviceHint : Option String) (contents : String),
      UsesItsMount path deviceHint contents := by
  intro h
  have hm : cardMount "/mnt/usb/recordings" none
      (parseMounts "rootfs / rootfs rw 0 0\n/dev/sda1 /mnt/usb vfat rw 0 0\n") =
        some ⟨"/dev/sda1", "/mnt/usb", "vfat"⟩ := by decide +kernel
  have htarget := (h _ _ _ _ hm).2
    ⟨cardGone "rootfs / rootfs rw 0 0\n/dev/sda1 /mnt/usb vfat rw 0 0\n", .ok (), .ok (),
      cardGone ""⟩ (.detach "/mnt/usb/recordings")
  rw [checkRemovable_cardGone hm] at htarget
  exact absurd (htarget (by decide +kernel)) (by decide +kernel)

end Rayhunter
