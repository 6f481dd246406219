import Mathlib.Data.List.Forall2
import Mathlib.Data.List.Nodup
import Mathlib.Data.List.Pairwise
import Mathlib.Data.List.Perm.Basic
import Rayhunter.Store.Recover

/-!
# The files recovered entries stand for

A recovered entry is named by its file without the suffix. `recover` takes the suffix off with
`trim_end_matches`, which takes off every copy of it, so an entry made of a file with two copies
names another file (`RepeatsSuffix`). Of all other files each entry names its own:
`recover_oneToOne_iff`.
-/

namespace Rayhunter

variable [Chrono]

/-! ## Names -/

/-- The time a recording's name starts with (`qmdl_store.rs:330`). -/
def nameStart (stem : String) : Option DateTime :=
  (parseI64 (stem.toList.takeWhile (· ≠ '-'))).bind Chrono.fromTimestamp

/-- The name `<seconds>[-<suffix>].qmdl` or `.qmdl.gz` of a recording, with seconds that are a
time. -/
def IsRecordingName (name : String) : Prop :=
  ∃ (seconds rest : String) (compressed : Bool),
    name = seconds ++ rest ++ FileKind.suffix .qmdl compressed ∧
    (rest = "" ∨ rest.toList.head? = some '-') ∧
    ∃ n, parseDigits seconds.toList = some n ∧ n < 2 ^ 63 ∧ Chrono.fromTimestamp n ≠ none

/-- A name that ends in its suffix more than once, after a name that starts with a time. -/
def RepeatsSuffix (name : String) : Prop :=
  ∃ (stem : String) (compressed : Bool) (k : Nat),
    name = stem ++ Text.copies (FileKind.suffix .qmdl compressed) (k + 2) ∧
    Text.endsWith stem (FileKind.suffix .qmdl compressed) = false ∧ nameStart stem ≠ none

/-- A file whose metadata and whose time of change are read. -/
def DirEntry.Examined (file : DirEntry) : Prop :=
  (∃ size, file.metadata = .ok size) ∧ file.modified ≠ none

omit [Chrono] in
theorem qmdl_suffix_ne_empty (compressed : Bool) : FileKind.suffix .qmdl compressed ≠ "" := by
  cases compressed <;> decide

omit [Chrono] in
/-- The stem of a name is what stands before the copies of its suffix. -/
theorem recordingStem_copies {stem : String} {compressed : Bool}
    (h : Text.endsWith stem (FileKind.suffix .qmdl compressed) = false) (k : Nat) :
    recordingStem (stem ++ Text.copies (FileKind.suffix .qmdl compressed) (k + 1)) =
      some (stem, compressed) := by
  have hends := Text.endsWith_append
    (stem ++ Text.copies (FileKind.suffix .qmdl compressed) k) (FileKind.suffix .qmdl compressed)
  rw [String.append_assoc, ← Text.copies_succ] at hends
  have htrim := Text.trimEndMatches_copies (qmdl_suffix_ne_empty compressed) h (k + 1)
  cases compressed with
  | false =>
    rw [recordingStem, if_pos (show Text.endsWith _ ".qmdl" = true from hends)]
    exact congrArg (fun s => some (s, false)) htrim
  | true =>
    have hlast : (stem ++ Text.copies (FileKind.suffix .qmdl true) (k + 1)).toList.getLast? =
        some 'z' := by
      rw [Text.copies_succ, ← String.append_assoc, String.toList_append]
      simp [FileKind.suffix]
    have hother : Text.endsWith (stem ++ Text.copies (FileKind.suffix .qmdl true) (k + 1))
        ".qmdl" = false := Text.endsWith_eq_false hlast (d := 'l') rfl (by decide)
    rw [recordingStem, hother, if_neg Bool.false_ne_true,
      if_pos (show Text.endsWith _ ".qmdl.gz" = true from hends)]
    exact congrArg (fun s => some (s, true)) htrim

omit [Chrono] in
/-- A name with a stem is the stem and copies of its suffix. -/
theorem exists_of_recordingStem {name stem : String} {compressed : Bool}
    (h : recordingStem name = some (stem, compressed)) :
    ∃ k, name = stem ++ Text.copies (FileKind.suffix .qmdl compressed) (k + 1) ∧
      Text.endsWith stem (FileKind.suffix .qmdl compressed) = false := by
  have hcopies : ∀ {suffix : String}, suffix ≠ "" → Text.endsWith name suffix = true →
      ∃ k, name = Text.trimEndMatches name suffix ++ Text.copies suffix (k + 1) ∧
        Text.endsWith (Text.trimEndMatches name suffix) suffix = false := by
    intro suffix hne hends
    obtain ⟨k, hk, hend⟩ := Text.exists_trimEndMatches name hne
    cases k with
    | zero =>
      have hself : name = Text.trimEndMatches name suffix := by
        rw [Text.copies, List.replicate_zero] at hk
        simpa using hk
      rw [← hself, hends] at hend
      cases hend
    | succ k => exact ⟨k, hk, hend⟩
  unfold recordingStem at h
  split at h
  · next hends =>
    cases h
    exact hcopies (qmdl_suffix_ne_empty false) hends
  · split at h
    · next hends =>
      cases h
      exact hcopies (qmdl_suffix_ne_empty true) hends
    · cases h

/-! ## The entry of a file -/

theorem of_recoverEntry {file : DirEntry} {e : ManifestEntry} (h : recoverEntry file = some e) :
    (∃ name, file.fileName = some name ∧ recordingStem name = some (e.name, e.compressed)) ∧
      nameStart e.name ≠ none ∧ file.Examined := by
  unfold recoverEntry at h
  split at h
  · cases h
  · next stem compressed hstem =>
    obtain ⟨name, hname, hstem⟩ := Option.bind_eq_some_iff.1 hstem
    split at h
    · next hseconds hsize =>
      split at h
      · next hstart hmodified =>
        cases h
        refine ⟨⟨name, hname, hstem⟩, ?_, ⟨_, hsize⟩, by simp [hmodified]⟩
        rw [nameStart, hseconds, Option.bind_some, hstart]
        exact Option.some_ne_none _
      · cases h
    · cases h

/-- A file that is examined gives an entry where its name has a stem that starts with a time. -/
theorem exists_recoverEntry {file : DirEntry} {name stem : String} {compressed : Bool}
    (hname : file.fileName = some name) (hstem : recordingStem name = some (stem, compressed))
    (hstart : nameStart stem ≠ none) (hexamined : file.Examined) :
    ∃ e, recoverEntry file = some e ∧ e.name = stem ∧ e.compressed = compressed := by
  obtain ⟨⟨size, hsize⟩, hmodified⟩ := hexamined
  obtain ⟨modified, hmodified⟩ := Option.ne_none_iff_exists'.1 hmodified
  obtain ⟨start, hstart⟩ := Option.ne_none_iff_exists'.1 hstart
  obtain ⟨seconds, hseconds, hstart⟩ := Option.bind_eq_some_iff.1 hstart
  have hentry : ∃ e, recoverEntry file = some e := by
    unfold recoverEntry
    rw [hname, Option.bind_some, hstem]
    simp only [hseconds, hsize, hstart, hmodified]
    exact ⟨_, rfl⟩
  obtain ⟨e, he⟩ := hentry
  obtain ⟨⟨name', hname', hstem'⟩, -, -⟩ := of_recoverEntry he
  obtain rfl : name = name' := Option.some.inj (hname.symm.trans hname')
  obtain ⟨heq, hcompressed⟩ := Prod.mk.inj (Option.some.inj (hstem'.symm.trans hstem))
  exact ⟨e, he, heq, hcompressed⟩

/-- An entry names its own file unless that repeats its suffix. -/
theorem getFilepath_recoverEntry {file : DirEntry} {e : ManifestEntry} {name : String}
    (h : recoverEntry file = some e) (hname : file.fileName = some name) (path : PathBuf) :
    FilePath.mk path name = e.getFilepath .qmdl path ↔ ¬ RepeatsSuffix name := by
  obtain ⟨⟨name', hname', hstem⟩, hstart, -⟩ := of_recoverEntry h
  obtain rfl : name = name' := Option.some.inj (hname.symm.trans hname')
  constructor
  · rintro hpath ⟨stem, compressed, k, rfl, hend, -⟩
    rw [recordingStem_copies hend (k + 1)] at hstem
    obtain ⟨hstem, hcompressed⟩ := Prod.mk.inj (Option.some.inj hstem)
    have hsame : stem ++ Text.copies (FileKind.suffix .qmdl compressed) (k + 2) =
        e.name ++ FileKind.suffix .qmdl e.compressed := congrArg FilePath.name hpath
    rw [← hstem, ← hcompressed, Text.copies_succ, Text.copies_succ, ← String.append_assoc] at hsame
    have hlength := congrArg (List.length ∘ String.toList) hsame
    have hpos : (FileKind.suffix .qmdl compressed).toList.length ≠ 0 := by
      cases compressed <;> decide
    simp only [Function.comp_apply, String.toList_append, List.length_append] at hlength
    omega
  · intro hnot
    obtain ⟨k, hk, hend⟩ := exists_of_recordingStem hstem
    cases k with
    | zero =>
      have hone : Text.copies (FileKind.suffix .qmdl e.compressed) 1 =
          FileKind.suffix .qmdl e.compressed := by
        cases e.compressed <;> decide
      rw [hk, hone]
      rfl
    | succ k => exact absurd ⟨e.name, e.compressed, k, hk, hend, hstart⟩ hnot

omit [Chrono] in
theorem isDigit_of_parseDigits {cs : List Char} {n : Nat} (h : parseDigits cs = some n) :
    ∀ c ∈ cs, c.isDigit = true := by
  unfold parseDigits at h
  split at h
  · next hdigits => exact List.all_eq_true.1 hdigits.2
  · cases h

omit [Chrono] in
/-- Digits are read as the number they are. -/
theorem parseI64_of_digits {cs : List Char} {n : Nat} (h : parseDigits cs = some n)
    (hn : n < 2 ^ 63) : parseI64 cs = some (n : Int) := by
  have hdigit := isDigit_of_parseDigits h
  unfold parseI64
  split
  · exact absurd (hdigit '+' List.mem_cons_self) (by decide)
  · exact absurd (hdigit '-' List.mem_cons_self) (by decide)
  · rw [h, Option.bind_some, if_pos hn]

omit [Chrono] in
theorem mem_of_mem_copies {compressed : Bool} {k : Nat} {c : Char}
    (hc : c ∈ (Text.copies (FileKind.suffix .qmdl compressed) k).toList) :
    c ∈ (FileKind.suffix .qmdl compressed).toList := by
  rw [Text.copies, String.toList_ofList] at hc
  obtain ⟨l, hl, hc⟩ := List.mem_flatten.1 hc
  exact List.eq_of_mem_replicate hl ▸ hc

omit [Chrono] in
/-- Copies of the suffix do not reach into the seconds: what stands before the first hyphen is the
same without them. -/
theorem takeWhile_stem {seconds rest stem : List Char} {compressed : Bool} {k : Nat}
    (hdigit : ∀ c ∈ seconds, c.isDigit = true) (hrest : rest = [] ∨ rest.head? = some '-')
    (h : seconds ++ rest = stem ++ (Text.copies (FileKind.suffix .qmdl compressed) k).toList) :
    stem.takeWhile (· ≠ '-') = seconds := by
  have hbefore : ∀ c ∈ seconds, decide (c ≠ '-') = true := by
    intro c hc
    have hne : c ≠ '-' := by
      rintro rfl
      exact absurd (hdigit '-' hc) (by decide)
    exact decide_eq_true hne
  rcases hrest with rfl | hrest
  · -- the suffix has a dot, and the seconds have none
    cases k with
    | zero =>
      have hsame : stem = seconds := by
        rw [Text.copies, List.replicate_zero] at h
        simpa using h.symm
      rw [hsame]
      exact List.takeWhile_eq_self_iff.2 hbefore
    | succ k =>
      have hdot : '.' ∈ seconds := by
        rw [← List.append_nil seconds, h, Text.copies_succ, String.toList_append]
        exact List.mem_append_right _ (List.mem_append_right _ (by cases compressed <;> decide))
      exact absurd (hdigit '.' hdot) (by decide)
  · -- the suffix has no hyphen, so that the first one is in the stem
    obtain ⟨r, rfl⟩ := List.head?_eq_some_iff.1 hrest
    have hhyphen : '-' ∈ stem := by
      have hmem : '-' ∈ seconds ++ '-' :: r := List.mem_append_right _ List.mem_cons_self
      rw [h] at hmem
      refine (List.mem_append.1 hmem).resolve_right fun hc => ?_
      exact absurd (mem_of_mem_copies hc) (by cases compressed <;> decide)
    have hstop : (stem.takeWhile (· ≠ '-')).length ≠ stem.length := by
      intro hlen
      have hall := List.takeWhile_eq_self_iff.1
        ((List.takeWhile_prefix (p := (· ≠ '-'))).eq_of_length hlen)
      exact absurd (hall '-' hhyphen) (by decide)
    have hleft := congrArg (List.takeWhile (· ≠ '-')) h
    rw [List.takeWhile_append_of_pos hbefore, List.takeWhile_append, if_neg hstop] at hleft
    simpa using hleft.symm

/-- A recording's name has a stem that starts with a time. -/
theorem IsRecordingName.exists_stem {name : String} (h : IsRecordingName name) :
    ∃ stem compressed, recordingStem name = some (stem, compressed) ∧ nameStart stem ≠ none := by
  obtain ⟨seconds, rest, compressed, rfl, hrest, n, hn, hlt, hstart⟩ := h
  obtain ⟨k, hk, hend⟩ :=
    Text.exists_trimEndMatches (seconds ++ rest) (qmdl_suffix_ne_empty compressed)
  refine ⟨Text.trimEndMatches (seconds ++ rest) (FileKind.suffix .qmdl compressed), compressed,
    ?_, ?_⟩
  · conv_lhs => rw [hk, String.append_assoc, ← Text.copies_succ]
    exact recordingStem_copies hend k
  · have hchars := congrArg String.toList hk
    rw [String.toList_append, String.toList_append] at hchars
    rw [nameStart, takeWhile_stem (isDigit_of_parseDigits hn)
      (hrest.imp String.toList_eq_nil_iff.2 id) hchars, parseI64_of_digits hn hlt]
    exact hstart

/-! ## Files and entries -/

/-- The entries recovered from a listing stand for its files one to one: each names the one file it
was made from, every recording's file has exactly one, and they are in the order of their start
times. -/
structure RecoversOneToOne (path : PathBuf) (files : List DirEntry)
    (entries : List ManifestEntry) : Prop where
  resolves : ∃ made : List DirEntry,
    made.Perm (files.filter fun file => (recoverEntry file).isSome) ∧
    List.Forall₂ (fun e file => recoverEntry file = some e ∧
      file.fileName.map (FilePath.mk path) = some (e.getFilepath .qmdl path)) entries made
  once : ∀ file ∈ files, ∀ name, file.fileName = some name → IsRecordingName name →
    entries.countP (fun e => e.getFilepath .qmdl path = FilePath.mk path name) = 1
  sorted : entries.Pairwise fun a b => a.startTime.nanos ≤ b.startTime.nanos

omit [Chrono] in
/-- What a list becomes, beside the elements that become something. -/
theorem forall₂_filterMap {α β : Type} {R : β → α → Prop} {f : α → Option β} {l : List α}
    (h : ∀ a ∈ l, ∀ b, f a = some b → R b a) :
    List.Forall₂ R (l.filterMap f) (l.filter fun a => (f a).isSome) := by
  induction l with
  | nil => exact .nil
  | cons a l ih =>
    have hrest := ih fun a ha => h a (List.mem_cons_of_mem _ ha)
    cases hfa : f a with
    | none =>
      rw [List.filterMap_cons_none hfa, List.filter_cons_of_neg (by simp [hfa])]
      exact hrest
    | some b =>
      rw [List.filterMap_cons_some hfa, List.filter_cons_of_pos (by simp [hfa])]
      exact .cons (h a List.mem_cons_self b hfa) hrest

omit [Chrono] in
theorem exists_of_forall₂_mem {α β : Type} {R : β → α → Prop} {bs : List β} {as : List α}
    (h : List.Forall₂ R bs as) :
    (∀ b ∈ bs, ∃ a ∈ as, R b a) ∧ ∀ a ∈ as, ∃ b ∈ bs, R b a := by
  induction h with
  | nil => exact ⟨fun _ h => absurd h List.not_mem_nil, fun _ h => absurd h List.not_mem_nil⟩
  | @cons b a bs as hba _ ih =>
    constructor
    · intro b' hb'
      rcases List.mem_cons.1 hb' with rfl | hb'
      · exact ⟨a, List.mem_cons_self, hba⟩
      · obtain ⟨a', ha', hr⟩ := ih.1 b' hb'
        exact ⟨a', List.mem_cons_of_mem _ ha', hr⟩
    · intro a' ha'
      rcases List.mem_cons.1 ha' with rfl | ha'
      · exact ⟨b, List.mem_cons_self, hba⟩
      · obtain ⟨b', hb', hr⟩ := ih.2 a' ha'
        exact ⟨b', List.mem_cons_of_mem _ hb', hr⟩

/-- The files of a listing that recovery can do right: no name of a file that is examined repeats
its suffix, and every recording's file is examined. -/
def RecoverableListing (files : List DirEntry) : Prop :=
  ∀ file ∈ files, ∀ name, file.fileName = some name →
    (file.Examined → ¬ RepeatsSuffix name) ∧ (IsRecordingName name → file.Examined)

theorem RepeatsSuffix.exists_stem {name : String} (h : RepeatsSuffix name) :
    ∃ stem compressed, recordingStem name = some (stem, compressed) ∧ nameStart stem ≠ none := by
  obtain ⟨stem, compressed, k, rfl, hend, hstart⟩ := h
  exact ⟨stem, compressed, recordingStem_copies hend (k + 1), hstart⟩

omit [Chrono] in
/-- Files of one name are one file, where a listing has each name once. -/
theorem eq_of_fileName {files : List DirEntry}
    (hnodup : (files.filterMap DirEntry.fileName).Nodup) {file file' : DirEntry}
    (hfile : file ∈ files) (hfile' : file' ∈ files) {name : String}
    (hname : file.fileName = some name) (hname' : file'.fileName = some name) : file = file' := by
  by_contra hne
  let _ : Std.Symm fun a a' : DirEntry =>
      ∀ b, a.fileName = some b → ∀ b', a'.fileName = some b' → b ≠ b' :=
    ⟨fun a a' h b hb b' hb' => (h b' hb' b hb).symm⟩
  exact (List.pairwise_filterMap.1 hnodup).forall hfile hfile' hne name hname name hname' rfl

theorem recoverEntries_oneToOne {files : List DirEntry} (path : PathBuf)
    (hnodup : (files.filterMap DirEntry.fileName).Nodup) (h : RecoverableListing files) :
    RecoversOneToOne path files (recoverEntries files) := by
  have hresolves : ∀ file ∈ files, ∀ e, recoverEntry file = some e →
      file.fileName.map (FilePath.mk path) = some (e.getFilepath .qmdl path) := by
    intro file hfile e he
    obtain ⟨⟨name, hname, -⟩, -, hexamined⟩ := of_recoverEntry he
    rw [hname, Option.map_some,
      (getFilepath_recoverEntry he hname path).2 ((h file hfile name hname).1 hexamined)]
  have hmade := forall₂_filterMap (R := fun e file => recoverEntry file = some e ∧
      file.fileName.map (FilePath.mk path) = some (e.getFilepath .qmdl path)) (f := recoverEntry)
    fun file hfile e he => ⟨he, hresolves file hfile e he⟩
  refine ⟨?_, ?_, List.pairwise_insertionSort _ _⟩
  · obtain ⟨made, hforall, hperm⟩ := List.perm_comp_forall₂ (recoverEntries_perm files) hmade
    exact ⟨made, hperm, hforall⟩
  · intro file hfile name hname hrecording
    have hcount : (files.filterMap DirEntry.fileName).count name = 1 :=
      List.count_eq_one_of_mem hnodup (List.mem_filterMap.2 ⟨file, hfile, hname⟩)
    rw [(recoverEntries_perm files).countP_eq, ← hcount, List.count, List.countP_filterMap,
      List.countP_filterMap]
    refine List.countP_congr fun file' hfile' => ?_
    cases he : recoverEntry file' with
    | none =>
      -- a file of that name would have given an entry
      have hother : file'.fileName ≠ some name := by
        intro hname'
        obtain ⟨stem, compressed, hstem, hstart⟩ := hrecording.exists_stem
        obtain ⟨e, hsome, -⟩ := exists_recoverEntry hname' hstem hstart
          ((h file' hfile' name hname').2 hrecording)
        rw [he] at hsome
        cases hsome
      cases hname' : file'.fileName with
      | none => simp
      | some name' =>
        have hne : name' ≠ name := fun heq => hother (hname'.trans (congrArg some heq))
        simp [hne]
    | some e =>
      have hpath := hresolves file' hfile' e he
      cases hname' : file'.fileName with
      | none =>
        rw [hname'] at hpath
        cases hpath
      | some name' =>
        rw [hname', Option.map_some, Option.some.injEq] at hpath
        simp [← hpath]

theorem recoverableListing_of_oneToOne {files : List DirEntry} {path : PathBuf}
    (hnodup : (files.filterMap DirEntry.fileName).Nodup)
    (h : RecoversOneToOne path files (recoverEntries files)) : RecoverableListing files := by
  obtain ⟨⟨made, hperm, hforall⟩, honce, -⟩ := h
  obtain ⟨hentry, hfrom⟩ := exists_of_forall₂_mem hforall
  intro file hfile name hname
  constructor
  · intro hexamined hrepeats
    obtain ⟨stem, compressed, hstem, hstart⟩ := hrepeats.exists_stem
    obtain ⟨e, he, -⟩ := exists_recoverEntry hname hstem hstart hexamined
    have hmem : file ∈ made :=
      hperm.mem_iff.2 (List.mem_filter.2 ⟨hfile, by rw [he]; rfl⟩)
    obtain ⟨e', -, he', hpath⟩ := hfrom file hmem
    rw [he, Option.some.injEq] at he'
    rw [hname, Option.map_some, Option.some.injEq, ← he'] at hpath
    exact (getFilepath_recoverEntry he hname path).1 hpath hrepeats
  · intro hrecording
    have hpos : 0 < (recoverEntries files).countP
        (fun e => e.getFilepath .qmdl path = FilePath.mk path name) := by
      rw [honce file hfile name hname hrecording]
      exact Nat.one_pos
    obtain ⟨e, he, hpath⟩ := List.countP_pos_iff.1 hpos
    obtain ⟨file', hfile', hmade, hnames⟩ := hentry e he
    have hmem' := (List.mem_filter.1 (hperm.mem_iff.1 hfile')).1
    rw [of_decide_eq_true hpath] at hnames
    obtain ⟨name', hname', heq⟩ := Option.map_eq_some_iff.1 hnames
    cases heq
    obtain rfl := eq_of_fileName hnodup hfile hmem' hname hname'
    exact (of_recoverEntry hmade).2.2

/-- Recovery maps files and entries one to one exactly when no file's name repeats its suffix and
every recording's file is examined. -/
theorem recover_oneToOne_iff [Toml] {device : Device} {path : PathBuf} {io : RecoverIo}
    {store : RecordingStore} (h : (RecordingStore.recover device path io).1 = .ok store)
    (hnodup : (io.entries.filterMap DirEntry.fileName).Nodup) :
    RecoversOneToOne path io.entries store.manifest.entries ↔ RecoverableListing io.entries := by
  rw [recover_store h]
  exact ⟨recoverableListing_of_oneToOne hnodup, recoverEntries_oneToOne path hnodup⟩

/-- A directory with a recording of either kind of name. -/
def namedBothWays : RecoverIo where
  entries := [⟨some "1724038434.qmdl", .ok 1024, some anInstant⟩,
    ⟨some "1724038434-0.qmdl.gz", .ok 4096, some anInstant⟩]

omit [Chrono] in
theorem recover_oneToOne_iff_namedBothWays :
    let _ := tomlAt "2024-08-19T03:33:54+00:00"
    let _ := oneInstant
    ∃ store, (RecordingStore.recover emptyDevice defaultStorePath namedBothWays).1 = .ok store ∧
      (RecoversOneToOne defaultStorePath namedBothWays.entries store.manifest.entries ↔
        RecoverableListing namedBothWays.entries) := by
  let _ := tomlAt "2024-08-19T03:33:54+00:00"
  let _ := oneInstant
  have hok : (RecordingStore.recover emptyDevice defaultStorePath namedBothWays).1 =
      .ok ⟨defaultStorePath, ⟨recoverEntries namedBothWays.entries⟩, none⟩ := by decide +kernel
  exact ⟨_, hok, recover_oneToOne_iff hok (by decide)⟩

/-- A directory with a file whose name ends in `.qmdl` twice. -/
def namedTwice : RecoverIo where
  entries := [⟨some "1724038434-0.qmdl.qmdl", .ok 1024, some anInstant⟩]

omit [Chrono] in
/-- The entry made of it names a file that is not there. -/
theorem recovered_as_another_file :
    let _ := tomlAt "2024-08-19T03:33:54+00:00"
    let _ := oneInstant
    ¬ ∀ (device : Device) (path : PathBuf) (io : RecoverIo) (store : RecordingStore),
      (RecordingStore.recover device path io).1 = .ok store →
      (io.entries.filterMap DirEntry.fileName).Nodup →
      RecoversOneToOne path io.entries store.manifest.entries := by
  let _ := tomlAt "2024-08-19T03:33:54+00:00"
  let _ := oneInstant
  intro _ _ h
  have hok : (RecordingStore.recover emptyDevice defaultStorePath namedTwice).1 =
      .ok ⟨defaultStorePath, ⟨recoverEntries namedTwice.entries⟩, none⟩ := by decide +kernel
  have hname : IsRecordingName "1724038434-0.qmdl.qmdl" :=
    ⟨"1724038434", "-0.qmdl", false, by decide, .inr (by decide), 1724038434, by decide, by decide,
      by decide⟩
  have hcount := (h _ _ _ _ hok (by decide)).once _ (List.mem_singleton_self _) _ rfl hname
  revert hcount
  decide +kernel

end Rayhunter
