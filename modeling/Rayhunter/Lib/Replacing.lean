import Mathlib.Logic.Function.Basic
import Rayhunter.Lib.Reach

/-!
# Replacing a file by renaming another to it

A writer makes a file beside the one it is to replace, writes to it piece by piece, and renames it.
All writers take the same name for it. One that makes the file empties what another has written, and
what the other then renames is not what it wrote. `content_eq_last` is about the runs in which no
writer makes the file while another is between making and renaming it: there the file that is
replaced always has the whole content of one writer, or what it had at first. A crash ends the
writers and leaves the files as they are.
-/

namespace Replacing

open Runs

/-- The files: what is in each of them, and which of them have the two names, that of the file
beside and that of the file to replace. -/
structure Disk where
  files : Nat → List UInt8
  /-- Files from here on are not made yet. -/
  next : Nat
  temp : Option Nat
  target : Option Nat

namespace Disk

/-- The file that has the name is emptied, or there is a new one. -/
def create (d : Disk) : Disk × Nat :=
  match d.temp with
  | some ino => ({ d with files := Function.update d.files ino [] }, ino)
  | none =>
    ({ d with files := Function.update d.files d.next [], next := d.next + 1, temp := some d.next },
      d.next)

/-- A piece is written at a place in a file. A file that ends before it is filled up with zeros. -/
def write (d : Disk) (ino offset : Nat) (piece : List UInt8) : Disk :=
  let old := d.files ino
  let before := old.take offset ++ List.replicate (offset - old.length) 0
  let new := before ++ piece ++ old.drop (offset + piece.length)
  { d with files := Function.update d.files ino new }

/-- The file beside has the other name from now on. -/
def rename (d : Disk) : Option Disk :=
  d.temp.map fun ino => { d with temp := none, target := some ino }

/-- What is in the file to replace, if there is one. -/
def content (d : Disk) : Option (List UInt8) := d.target.map d.files

/-- The two names are of different files, and of such as there are. -/
structure Apart (d : Disk) : Prop where
  target_lt : ∀ ino ∈ d.target, ino < d.next
  temp_lt : ∀ ino ∈ d.temp, ino < d.next
  ne : ∀ ino ∈ d.temp, ino ∉ d.target

/-- What is in a file that does not have the name of the one to replace is nothing to it. -/
theorem content_update {d : Disk} {ino : Nat} (h : ino ∉ d.target) (new : List UInt8) :
    d.target.map (Function.update d.files ino new) = d.content := by
  cases ht : d.target with
  | none => rw [content, ht]; rfl
  | some target =>
    have hne : target ≠ ino := fun he => h (by rw [ht, he]; rfl)
    rw [content, ht, Option.map_some, Option.map_some, Function.update_of_ne hne]

/-- The file that is made is empty and has the name, and the one to replace is what it was. -/
theorem create_spec {d : Disk} (h : d.Apart) :
    d.create.1.Apart ∧ d.create.1.temp = some d.create.2 ∧ d.create.1.files d.create.2 = [] ∧
      d.create.1.content = d.content := by
  unfold create
  cases ht : d.temp with
  | some ino =>
    have hne := h.ne ino ht
    refine ⟨⟨h.target_lt, ?_, ?_⟩, rfl, Function.update_self .., content_update hne []⟩
    · rintro ino' ⟨⟩
      exact h.temp_lt ino ht
    · rintro ino' ⟨⟩
      exact hne
  | none =>
    have hnew : d.next ∉ d.target := fun hmem => Nat.lt_irrefl _ (h.target_lt _ hmem)
    refine ⟨⟨?_, ?_, ?_⟩, rfl, Function.update_self .., content_update hnew []⟩
    · intro ino hino
      exact Nat.lt_succ_of_lt (h.target_lt ino hino)
    · rintro ino ⟨⟩
      exact Nat.lt_succ_self _
    · rintro ino ⟨⟩
      exact hnew

/-- A piece written where a file ends comes after what is in it. -/
theorem files_write {d : Disk} {ino offset : Nat} (hend : (d.files ino).length = offset)
    (piece : List UInt8) :
    (d.write ino offset piece).files = Function.update d.files ino (d.files ino ++ piece) := by
  unfold write
  simp only
  rw [List.take_of_length_le (by omega), List.drop_eq_nil_of_le (by omega), hend, Nat.sub_self]
  simp

end Disk

variable {α ε : Type}

/-- Where a writer is. Where nobody waits for it any more, it still writes the file, but does not
rename it. -/
inductive Phase (α ε : Type)
  | away
  | creating (a : α) (waited : Bool)
  | writing (a : α) (waited : Bool) (ino offset : Nat)
  | written (a : α)
  | renamed (a : α)
  | failed (err : ε)

/-- A writer is between making and renaming the file, or would rename it. -/
def Phase.underway : Phase α ε → Bool
  | writing _ _ _ _ | written _ => true
  | _ => false

/-- What a writer does. What comes back from the system is in it. -/
inductive Action (α ε : Type)
  | begin (a : α)
  | create (io : Except ε Unit)
  | write (n : Nat)
  | writeFails (err : ε)
  | close
  | rename (io : Except ε Unit)
  | leave

/-- What happens: a writer does something, or all of them are gone. -/
inductive Event (α ε : Type)
  | writer (i : Nat) (a : Action α ε)
  | crash

/-- The files and the writers. `log` has what was renamed to the file to replace, the latest
first. -/
structure State (α ε : Type) where
  disk : Disk
  phase : Nat → Phase α ε
  log : List α

/-- A writer goes on. -/
def State.goTo (s : State α ε) (i : Nat) (p : Phase α ε) : State α ε :=
  { s with phase := Function.update s.phase i p }

@[simp] theorem State.phase_goTo (s : State α ε) (i : Nat) (p : Phase α ε) :
    (s.goTo i p).phase = Function.update s.phase i p := rfl

/-- A writer has failed, if anybody is there to be told. -/
def Phase.fails (waited : Bool) (err : ε) : Phase α ε := if waited then failed err else away

variable (text : α → List UInt8)

/-- One step of a writer, if that is where it is. -/
def move (s : State α ε) (i : Nat) : Action α ε → Option (State α ε)
  | .begin a =>
    match s.phase i with
    | .away => some (s.goTo i (.creating a true))
    | _ => none
  | .create io =>
    match s.phase i, io with
    | .creating a waited, .ok () =>
      some { s.goTo i (.writing a waited s.disk.create.2 0) with disk := s.disk.create.1 }
    | .creating _ waited, .error err => some (s.goTo i (.fails waited err))
    | _, _ => none
  | .write n =>
    match s.phase i with
    | .writing a waited ino offset =>
      if 0 < n ∧ offset + n ≤ (text a).length then
        some { s.goTo i (.writing a waited ino (offset + n)) with
          disk := s.disk.write ino offset (((text a).drop offset).take n) }
      else none
    | _ => none
  | .writeFails err =>
    match s.phase i with
    | .writing _ waited _ _ => some (s.goTo i (.fails waited err))
    | _ => none
  | .close =>
    match s.phase i with
    | .writing a waited _ offset =>
      if offset = (text a).length then some (s.goTo i (if waited then .written a else .away))
      else none
    | _ => none
  | .rename io =>
    match s.phase i, io with
    | .written a, .ok () =>
      s.disk.rename.map fun disk => { s.goTo i (.renamed a) with disk, log := a :: s.log }
    | .written _, .error err => some (s.goTo i (.failed err))
    | _, _ => none
  | .leave =>
    match s.phase i with
    | .creating a _ => some (s.goTo i (.creating a false))
    | .writing a _ ino offset => some (s.goTo i (.writing a false ino offset))
    | .written _ => some (s.goTo i .away)
    | _ => none

/-- One step of the system. -/
def step (s : State α ε) : Event α ε → Option (State α ε)
  | .writer i a => move text s i a
  | .crash => some { s with phase := fun _ => .away }

/-! ## What a step does -/

/-- The steps, those together that are nothing to the files and after which the writer is not
underway. -/
inductive Moves (s : State α ε) (i : Nat) : Action α ε → State α ε → Prop
  | quiet {a : Action α ε} (p : Phase α ε) : p.underway = false → Moves s i a (s.goTo i p)
  | creates (a : α) (waited : Bool) : s.phase i = .creating a waited →
      Moves s i (.create (.ok ()))
        { s.goTo i (.writing a waited s.disk.create.2 0) with disk := s.disk.create.1 }
  | writes (a : α) (waited : Bool) (ino offset n : Nat) :
      s.phase i = .writing a waited ino offset → offset + n ≤ (text a).length →
      Moves s i (.write n) { s.goTo i (.writing a waited ino (offset + n)) with
        disk := s.disk.write ino offset (((text a).drop offset).take n) }
  | closes (a : α) (ino : Nat) : s.phase i = .writing a true ino (text a).length →
      Moves s i .close (s.goTo i (.written a))
  | renames (a : α) (disk : Disk) : s.phase i = .written a → s.disk.rename = some disk →
      Moves s i (.rename (.ok ())) { s.goTo i (.renamed a) with disk, log := a :: s.log }
  | leaves (a : α) (waited : Bool) (ino offset : Nat) : s.phase i = .writing a waited ino offset →
      Moves s i .leave (s.goTo i (.writing a false ino offset))

variable {text}

theorem Phase.underway_fails (waited : Bool) (err : ε) :
    (Phase.fails waited err : Phase α ε).underway = false := by cases waited <;> rfl

theorem move_moves {s s' : State α ε} {i : Nat} {a : Action α ε} (h : move text s i a = some s') :
    Moves text s i a s' := by
  cases a with
  | «begin» a =>
    simp only [move] at h
    split at h <;> cases h
    exact .quiet _ rfl
  | create io =>
    simp only [move] at h
    split at h <;> cases h
    · next hphase => exact .creates _ _ hphase
    · exact .quiet _ (Phase.underway_fails ..)
  | write n =>
    simp only [move] at h
    split at h
    · next hphase =>
      split at h <;> cases h
      next hn => exact .writes _ _ _ _ _ hphase hn.2
    · cases h
  | writeFails err =>
    simp only [move] at h
    split at h <;> cases h
    exact .quiet _ (Phase.underway_fails ..)
  | close =>
    simp only [move] at h
    split at h
    · next a waited ino offset hphase =>
      split at h <;> cases h
      next hoffset =>
      cases waited with
      | true => exact .closes a ino (by rw [hphase, hoffset])
      | false => exact .quiet _ rfl
    · cases h
  | rename io =>
    simp only [move] at h
    split at h
    · next hphase =>
      obtain ⟨disk, hdisk, rfl⟩ := Option.map_eq_some_iff.1 h
      exact .renames _ _ hphase hdisk
    · cases h
      exact .quiet _ rfl
    · cases h
  | leave =>
    simp only [move] at h
    split at h <;> cases h
    · exact .quiet _ rfl
    · next hphase => exact .leaves _ _ _ _ hphase
    · exact .quiet _ rfl

/-! ## Writers that are alone -/

/-- A writer does not make the file while another one is between making and renaming it. -/
def Alone (s : State α ε) : Event α ε → Prop
  | .writer _ (.create (.ok ())) => ∀ j, (s.phase j).underway = false
  | _ => True

variable (text)

/-- What a writer is sure of that is the only one underway: it writes the file that has the name,
and this has what was written. -/
def Phase.Sure (d : Disk) : Phase α ε → Prop
  | writing a _ ino offset =>
    d.temp = some ino ∧ offset ≤ (text a).length ∧ d.files ino = (text a).take offset
  | written a => ∃ ino, d.temp = some ino ∧ d.files ino = text a
  | _ => True

/-- What was renamed last, or what was there at first. -/
def State.last (s : State α ε) (initial : Option (List UInt8)) : Option (List UInt8) :=
  (s.log.head?.map text).or initial

/-- The files as they should be, while one writer at most is underway. -/
structure Whole (initial : Option (List UInt8)) (s : State α ε) : Prop where
  apart : s.disk.Apart
  content : s.disk.content = s.last text initial
  one : ∀ i j, (s.phase i).underway = true → (s.phase j).underway = true → i = j
  sure : ∀ i, (s.phase i).Sure text s.disk

variable {text}

theorem Phase.sure_of_not_underway {p : Phase α ε} (h : p.underway = false) (d : Disk) :
    p.Sure text d := by
  cases p with
  | writing | written => cases h
  | away | creating | renamed | failed => trivial

variable {initial : Option (List UInt8)} {s s' : State α ε} {i : Nat}

/-- Nobody but the writer that is underway is. -/
theorem Whole.others (h : Whole text initial s) (hi : (s.phase i).underway = true) :
    ∀ j ≠ i, (s.phase j).underway = false := by
  intro j hji
  rw [← Bool.not_eq_true]
  exact fun hj => hji (h.one j i hj hi)

/-- What a writer does while nobody else is underway. -/
theorem Whole.of_others {p : Phase α ε} (hothers : ∀ j ≠ i, (s.phase j).underway = false)
    (hphase : s'.phase = Function.update s.phase i p) (hp : p.Sure text s'.disk)
    (hapart : s'.disk.Apart) (hcontent : s'.disk.content = s'.last text initial) :
    Whole text initial s' := by
  have honly : ∀ {j}, (s'.phase j).underway = true → j = i := by
    intro j hj
    by_contra hji
    rw [hphase, Function.update_of_ne hji, hothers j hji] at hj
    cases hj
  refine ⟨hapart, hcontent, fun j k hj hk => (honly hj).trans (honly hk).symm, fun j => ?_⟩
  by_cases hji : j = i
  · rw [hphase, hji, Function.update_self]
    exact hp
  · rw [hphase, Function.update_of_ne hji]
    exact Phase.sure_of_not_underway (hothers j hji) _

theorem Whole.quiet (h : Whole text initial s) {p : Phase α ε} (hp : p.underway = false) :
    Whole text initial (s.goTo i p) := by
  have hcases : ∀ j, ((s.goTo i p).phase j).underway = true → (s.phase j).underway = true := by
    intro j hj
    by_cases hji : j = i
    · rw [State.phase_goTo, hji, Function.update_self, hp] at hj
      cases hj
    · rwa [State.phase_goTo, Function.update_of_ne hji] at hj
  refine ⟨h.apart, h.content, fun j k hj hk => h.one j k (hcases j hj) (hcases k hk), fun j => ?_⟩
  by_cases hji : j = i
  · rw [State.phase_goTo, hji, Function.update_self]
    exact Phase.sure_of_not_underway hp _
  · rw [State.phase_goTo, Function.update_of_ne hji]
    exact h.sure j

theorem Whole.writes (h : Whole text initial s) {a : α} {waited : Bool} {ino offset n : Nat}
    (hphase : s.phase i = .writing a waited ino offset) (hn : offset + n ≤ (text a).length) :
    Whole text initial { s.goTo i (.writing a waited ino (offset + n)) with
      disk := s.disk.write ino offset (((text a).drop offset).take n) } := by
  have hsure := h.sure i
  rw [hphase] at hsure
  obtain ⟨htemp, hoffset, hfile⟩ := hsure
  have hend : (s.disk.files ino).length = offset := by
    rw [hfile, List.length_take, Nat.min_eq_left hoffset]
  have hfiles := Disk.files_write hend (((text a).drop offset).take n)
  refine Whole.of_others (h.others (by rw [hphase]; rfl)) rfl ⟨htemp, hn, ?_⟩ ?_ ?_
  · show (s.disk.write ino offset _).files ino = _
    rw [hfiles, Function.update_self, hfile]
    exact List.take_add.symm
  · exact ⟨h.apart.target_lt, h.apart.temp_lt, h.apart.ne⟩
  · refine Eq.trans ?_ h.content
    show s.disk.target.map (s.disk.write ino offset _).files = _
    rw [hfiles]
    exact Disk.content_update (h.apart.ne ino htemp) _

/-- The file that is renamed has the whole content, and nobody is left to write to it. -/
theorem Whole.renames (h : Whole text initial s) {a : α} {disk : Disk}
    (hphase : s.phase i = .written a) (hdisk : s.disk.rename = some disk) :
    Whole text initial { s.goTo i (.renamed a) with disk, log := a :: s.log } := by
  have hsure := h.sure i
  rw [hphase] at hsure
  obtain ⟨ino, htemp, hfile⟩ := hsure
  rw [Disk.rename, htemp] at hdisk
  cases hdisk
  refine Whole.of_others (h.others (by rw [hphase]; rfl)) rfl trivial ⟨?_, ?_, ?_⟩ ?_
  · rintro ino' ⟨⟩
    exact h.apart.temp_lt ino htemp
  · exact fun _ hmem => (Option.not_mem_none _ hmem).elim
  · exact fun _ hmem => (Option.not_mem_none _ hmem).elim
  · show some (s.disk.files ino) = some (text a)
    rw [hfile]

theorem Whole.move {a : Action α ε} (h : Whole text initial s) (halone : Alone s (.writer i a))
    (hs : Replacing.move text s i a = some s') : Whole text initial s' := by
  cases move_moves hs with
  | quiet p hp => exact h.quiet hp
  | creates a waited hphase =>
    obtain ⟨hapart, htemp, hempty, hcontent⟩ := Disk.create_spec h.apart
    exact Whole.of_others (fun j _ => halone j) rfl ⟨htemp, Nat.zero_le _, hempty⟩ hapart
      (hcontent.trans h.content)
  | writes a waited ino offset n hphase hn => exact h.writes hphase hn
  | closes a ino hphase =>
    have hsure := h.sure i
    rw [hphase] at hsure
    obtain ⟨htemp, -, hfile⟩ := hsure
    exact Whole.of_others (h.others (by rw [hphase]; rfl)) rfl
      ⟨ino, htemp, hfile.trans List.take_length⟩ h.apart h.content
  | renames a disk hphase hdisk => exact h.renames hphase hdisk
  | leaves a waited ino offset hphase =>
    have hsure := h.sure i
    rw [hphase] at hsure
    exact Whole.of_others (h.others (by rw [hphase]; rfl)) rfl hsure h.apart h.content

theorem Whole.step {e : Event α ε} (h : Whole text initial s) (halone : Alone s e)
    (hs : Replacing.step text s e = some s') : Whole text initial s' := by
  cases e with
  | writer i a => exact h.move halone hs
  | crash =>
    cases hs
    exact ⟨h.apart, h.content, fun _ _ hi => Bool.noConfusion hi, fun _ => trivial⟩

/-! ## Runs -/

/-- Nobody writes yet. There may be a file beside the one to replace, left by a writer that a crash
cut short. -/
structure Starts (initial : Option (List UInt8)) (s : State α ε) : Prop where
  apart : s.disk.Apart
  content : s.disk.content = initial
  phase : ∀ i, s.phase i = .away
  log : s.log = []

theorem Starts.whole (h : Starts initial s) : Whole text initial s := by
  refine ⟨h.apart, by rw [h.content, State.last, h.log]; rfl, fun i _ hi => ?_, fun i => ?_⟩
  · rw [h.phase i] at hi
    cases hi
  · rw [h.phase i]
    trivial

/-- **Writers that are alone** replace the file whole: it has what was renamed last, or what it had
at first. -/
theorem content_eq_last (h : Reach (Starts initial) (step text) Alone s) :
    s.disk.content = s.last text initial := by
  have hwhole : Whole text initial s :=
    h.invariant (fun _ hs => hs.whole) fun _ _ _ hw halone hs => hw.step halone hs
  exact hwhole.content

end Replacing
