import Rayhunter.Lib.Fields
import Rayhunter.Lib.Utf8

/-!
# Questions for the unit's name

`parse_questions` and `is_for_us` of `daemon/src/mdns.rs`. No packet is read outside of itself, and
the questions written in one are read back (`parseQuestions_encode`). What is compared is the name
with dots between its labels, which a single label with a dot in it has as well
(`name_eq_iff`); only such a question is answered although it is for another name.
-/

namespace Rayhunter.Mdns

/-- `NAME` (`mdns.rs:25`). -/
def NAME : List Char := "rayhunter.local".toList

/-- `TYPE_A` (`mdns.rs:32`). -/
def TYPE_A : UInt16 := 1

/-- `TYPE_ANY` (`mdns.rs:33`). -/
def TYPE_ANY : UInt16 := 255

/-- `CACHE_FLUSH` (`mdns.rs:37`). -/
def CACHE_FLUSH : UInt16 := 0x8000

/-- `Question` (`mdns.rs:44`). -/
structure Question where
  name : List Char
  qtype : UInt16
  unicast : Bool
  deriving DecidableEq, Repr

/-! ## Reading -/

/-- `slice::get` at a range. -/
def getRange (packet : List UInt8) (first stop : Nat) : Option (List UInt8) :=
  if first ≤ stop ∧ stop ≤ packet.length then some ((packet.drop first).take (stop - first))
  else none

/-- `u16::from_be_bytes` of two bytes that are there. -/
def fromBe (bytes : List UInt8) (i : Nat) : Option UInt16 :=
  bytes[i]?.bind fun a => bytes[i + 1]?.map fun b => UInt16.ofNat (a.toNat * 256 + b.toNat)

/-- The labels of a name and where it ends (`mdns.rs:71`), unless the packet ends first. -/
def readName (packet : List UInt8) (pos : Nat) (labels : List (List Char)) :
    Option (List (List Char) × Nat) :=
  if h : pos < packet.length then
    let len := packet[pos]
    if len = 0 then some (labels, pos + 1)
    else if len &&& 0xC0 = 0xC0 then some (labels, pos + 2)
    else
      match getRange packet (pos + 1) (pos + 1 + len.toNat) with
      | none => none
      | some label =>
        readName packet (pos + 1 + len.toNat) (labels ++ [(Utf8.lossy label).map Char.toLower])
  else none
termination_by packet.length - pos

/-- Up to so many questions (`mdns.rs:69`); nothing where a byte is read that is not there. -/
def readQuestions (packet : List UInt8) : Nat → Nat → List Question → Option (List Question)
  | 0, _, out => some out
  | n + 1, pos, out =>
    match readName packet pos [] with
    | none => some out
    | some (labels, pos) =>
      match getRange packet pos (pos + 4) with
      | none => some out
      | some rest =>
        (fromBe rest 0).bind fun qtype =>
        (fromBe rest 2).bind fun qclass =>
          readQuestions packet n (pos + 4)
            (out ++ [⟨['.'].intercalate labels, qtype, qclass &&& CACHE_FLUSH ≠ 0⟩])

/-- `parse_questions` (`mdns.rs:55`); nothing where a byte is read that is not there. -/
def parseQuestions (packet : List UInt8) : Option (List Question) :=
  if packet.length < 12 then some []
  else
    (fromBe packet 2).bind fun flags =>
      if flags &&& 0x8000 ≠ 0 then some []
      else (fromBe packet 4).bind fun qdcount =>
        readQuestions packet (min qdcount.toNat 16) 12 []

/-- `is_for_us` (`mdns.rs:105`). -/
def isForUs (q : Question) : Bool := q.name = NAME ∧ (q.qtype = TYPE_A ∨ q.qtype = TYPE_ANY)

/-! ## Writing -/

/-- A label: one to 63 bytes of ASCII. -/
structure Label where
  bytes : List UInt8
  size : 1 ≤ bytes.length ∧ bytes.length ≤ 63
  ascii : ∀ b ∈ bytes, b < 0x80

/-- The text of a label, in lower case. -/
def Label.text (label : Label) : List Char :=
  label.bytes.map fun b => (Char.ofNat b.toNat).toLower

/-- A question as it is asked. -/
structure Asked where
  labels : List Label
  qtype : UInt16
  qclass : UInt16

/-- A name, written label by label. -/
def encodeName (labels : List Label) : List UInt8 :=
  labels.flatMap (fun label => UInt8.ofNat label.bytes.length :: label.bytes) ++ [0]

/-- Two bytes, the high one first. -/
def toBe (n : UInt16) : List UInt8 := [UInt8.ofNat (n.toNat / 256), UInt8.ofNat n.toNat]

namespace Asked

/-- A question, written without compression. -/
def encode (q : Asked) : List UInt8 := encodeName q.labels ++ toBe q.qtype ++ toBe q.qclass

/-- What is read of a question. -/
def answered (q : Asked) : Question where
  name := ['.'].intercalate (q.labels.map Label.text)
  qtype := q.qtype
  unicast := q.qclass &&& CACHE_FLUSH ≠ 0

/-- The question is for the unit. -/
def IsOurs (q : Asked) : Prop :=
  q.labels.map Label.text = ["rayhunter".toList, "local".toList] ∧
    (q.qtype = TYPE_A ∨ q.qtype = TYPE_ANY)

/-- The question is for a name of one label, which is the unit's name with its dot. -/
def OneLabel (q : Asked) : Prop :=
  q.labels.map Label.text = [NAME] ∧ (q.qtype = TYPE_A ∨ q.qtype = TYPE_ANY)

end Asked

/-- The twelve bytes before the questions of a query. -/
structure Header where
  id : UInt16
  flags : UInt16
  query : flags &&& 0x8000 = 0
  counts : List UInt8
  size : counts.length = 6

/-- A query with these questions and any bytes behind them. -/
def encodeQuery (header : Header) (asked : List Asked) (rest : List UInt8) : List UInt8 :=
  toBe header.id ++ toBe header.flags ++ toBe (UInt16.ofNat asked.length) ++ header.counts ++
    asked.flatMap Asked.encode ++ rest

/-! ## No byte is read that is not there -/

theorem length_getRange {packet bytes : List UInt8} {first stop : Nat}
    (h : getRange packet first stop = some bytes) : bytes.length = stop - first := by
  obtain ⟨⟨-, hstop⟩, hbytes⟩ := Option.ite_none_right_eq_some.1 h
  rw [← Option.some.inj hbytes, List.length_take, List.length_drop]
  omega

theorem exists_fromBe (bytes : List UInt8) {i : Nat} (h : i + 1 < bytes.length) :
    ∃ n, fromBe bytes i = some n := by
  rw [fromBe, List.getElem?_eq_getElem (Nat.lt_of_succ_lt h), Option.bind_some,
    List.getElem?_eq_getElem h]
  exact ⟨_, rfl⟩

theorem exists_readQuestions (packet : List UInt8) (n pos : Nat) (out : List Question) :
    ∃ more, readQuestions packet n pos out = some (out ++ more) ∧ more.length ≤ n := by
  induction n generalizing pos out with
  | zero => exact ⟨[], by rw [readQuestions, List.append_nil], Nat.le_refl 0⟩
  | succ n ih =>
    have hstop : ∃ more : List Question, some out = some (out ++ more) ∧ more.length ≤ n + 1 :=
      ⟨[], by rw [List.append_nil], Nat.zero_le _⟩
    rw [readQuestions]
    split
    · exact hstop
    next labels pos' _ =>
      split
      · exact hstop
      next bytes hbytes =>
        have hlength : bytes.length = 4 := by
          rw [length_getRange hbytes]
          omega
        obtain ⟨qtype, hqtype⟩ := exists_fromBe bytes (i := 0) (by omega)
        obtain ⟨qclass, hqclass⟩ := exists_fromBe bytes (i := 2) (by omega)
        rw [hqtype, Option.bind_some, hqclass, Option.bind_some]
        obtain ⟨more, hmore, hcount⟩ := ih (pos' + 4)
          (out ++ [⟨['.'].intercalate labels, qtype, qclass &&& CACHE_FLUSH ≠ 0⟩])
        exact ⟨_ :: more, by rw [hmore, List.append_assoc]; rfl, Nat.succ_le_succ hcount⟩

/-- **Every packet is read without going outside of it**, and no more than 16 questions are
returned. -/
theorem exists_parseQuestions (packet : List UInt8) :
    ∃ questions, parseQuestions packet = some questions ∧ questions.length ≤ 16 := by
  rw [parseQuestions]
  split
  · exact ⟨[], rfl, Nat.zero_le 16⟩
  next hlong =>
    obtain ⟨flags, hflags⟩ := exists_fromBe packet (i := 2) (by omega)
    rw [hflags, Option.bind_some]
    split
    · exact ⟨[], rfl, Nat.zero_le 16⟩
    · obtain ⟨qdcount, hqdcount⟩ := exists_fromBe packet (i := 4) (by omega)
      obtain ⟨more, hmore, hcount⟩ := exists_readQuestions packet (min qdcount.toNat 16) 12 []
      rw [hqdcount, Option.bind_some, hmore]
      exact ⟨more, rfl, hcount.trans (Nat.min_le_right _ 16)⟩

/-! ## What is written is read back -/

/-- A range is what is written there. -/
theorem getRange_of_drop {packet bytes rest : List UInt8} {pos : Nat}
    (h : packet.drop pos = bytes ++ rest) (hne : bytes ≠ []) :
    getRange packet pos (pos + bytes.length) = some bytes := by
  have hlength := congrArg List.length h
  have hpos : 0 < bytes.length := List.length_pos_iff.2 hne
  rw [List.length_drop, List.length_append] at hlength
  rw [getRange, if_pos (by omega), h, Nat.add_sub_cancel_left, List.take_left]

theorem drop_of_drop {packet bytes rest : List UInt8} {pos : Nat}
    (h : packet.drop pos = bytes ++ rest) : packet.drop (pos + bytes.length) = rest := by
  rw [← List.drop_drop, h, List.drop_left]

theorem fromBe_toBe (n : UInt16) (before rest : List UInt8) :
    fromBe (before ++ toBe n ++ rest) before.length = some n := by
  have hvalue : UInt16.ofNat ((UInt8.ofNat (n.toNat / 256)).toNat * 256 +
      (UInt8.ofNat n.toNat).toNat) = n := by
    have hn := n.toNat_lt
    apply UInt16.toNat_inj.1
    rw [UInt16.toNat_ofNat', UInt8.toNat_ofNat', UInt8.toNat_ofNat']
    omega
  rw [fromBe, List.append_assoc, List.getElem?_append_right (Nat.le_refl _), Nat.sub_self,
    List.getElem?_append_right (Nat.le_add_right _ 1), Nat.add_sub_cancel_left]
  exact congrArg some hvalue

theorem lossy_ascii {bytes : List UInt8} (h : ∀ b ∈ bytes, b < 0x80) :
    Utf8.lossy bytes = bytes.map fun b => Char.ofNat b.toNat := by
  unfold Utf8.lossy
  induction bytes with
  | nil => rfl
  | cons b bytes ih =>
    have hstep : Utf8.step b bytes = (Char.ofNat b.toNat, 0) := if_pos (h b List.mem_cons_self)
    rw [Utf8.lossyFrom, hstep, ih fun b' hb' => h b' (List.mem_cons_of_mem b hb'), List.map_cons]

/-- The labels of a name are read up to its end. -/
theorem readName_of_drop {packet rest : List UInt8} {pos : Nat} {labels : List Label}
    (h : packet.drop pos = encodeName labels ++ rest) (before : List (List Char)) :
    readName packet pos before =
      some (before ++ labels.map Label.text, pos + (encodeName labels).length) := by
  induction labels generalizing pos before with
  | nil =>
    have hlength := congrArg List.length h
    simp only [encodeName, List.flatMap_nil, List.nil_append, List.length_drop, List.length_append,
      List.length_cons] at hlength
    have hpos : pos < packet.length := by omega
    have hend : packet[pos] = 0 := by
      rw [List.drop_eq_getElem_cons hpos] at h
      exact (List.cons.inj h).1
    rw [readName, dif_pos hpos]
    simp only [hend, if_true, List.map_nil, List.append_nil]
    rfl
  | cons label labels ih =>
    obtain ⟨hsome, hshort⟩ := label.size
    have hbytes : packet.drop pos = UInt8.ofNat label.bytes.length ::
        (label.bytes ++ (encodeName labels ++ rest)) := by
      rw [h, encodeName, encodeName, List.flatMap_cons]
      simp only [List.cons_append, List.append_assoc]
    have hlength := congrArg List.length hbytes
    simp only [List.length_drop, List.length_cons] at hlength
    have hpos : pos < packet.length := by omega
    obtain ⟨hlen, hrest⟩ : packet[pos] = UInt8.ofNat label.bytes.length ∧
        packet.drop (pos + 1) = label.bytes ++ (encodeName labels ++ rest) := by
      rw [List.drop_eq_getElem_cons hpos] at hbytes
      exact List.cons.inj hbytes
    -- the length is none that ends a name
    have hplain : UInt8.ofNat label.bytes.length ≠ 0 ∧
        UInt8.ofNat label.bytes.length &&& 0xC0 ≠ 0xC0 := by
      have hall : ∀ n < 64, 1 ≤ n → UInt8.ofNat n ≠ 0 ∧ UInt8.ofNat n &&& 0xC0 ≠ 0xC0 := by decide
      exact hall _ (Nat.lt_succ_of_le hshort) hsome
    have hnat : (UInt8.ofNat label.bytes.length).toNat = label.bytes.length := by
      rw [UInt8.toNat_ofNat']
      omega
    have hrange := getRange_of_drop hrest (List.length_pos_iff.1 hsome)
    rw [readName, dif_pos hpos]
    simp only [hlen, if_neg hplain.1, if_neg hplain.2, hnat, hrange]
    rw [ih (drop_of_drop hrest), lossy_ascii label.ascii, List.map_map]
    simp only [List.append_assoc, List.map_cons, encodeName, List.flatMap_cons, List.cons_append, List.length_cons, List.length_append]
    refine congrArg some (Prod.ext rfl ?_)
    dsimp only
    omega

/-- Questions are read one after the other. -/
theorem readQuestions_of_drop {packet rest : List UInt8} {pos : Nat} {asked : List Asked}
    (h : packet.drop pos = asked.flatMap Asked.encode ++ rest) (out : List Question) :
    readQuestions packet asked.length pos out = some (out ++ asked.map Asked.answered) := by
  induction asked generalizing pos out with
  | nil => rw [List.length_nil, readQuestions, List.map_nil, List.append_nil]
  | cons q asked ih =>
    have hname : packet.drop pos = encodeName q.labels ++
        (toBe q.qtype ++ toBe q.qclass ++ (asked.flatMap Asked.encode ++ rest)) := by
      rw [h, List.flatMap_cons, Asked.encode]
      simp only [List.append_assoc]
    have hfour : packet.drop (pos + (encodeName q.labels).length) =
        toBe q.qtype ++ toBe q.qclass ++ (asked.flatMap Asked.encode ++ rest) := drop_of_drop hname
    have hrange : getRange packet (pos + (encodeName q.labels).length)
        (pos + (encodeName q.labels).length + 4) = some (toBe q.qtype ++ toBe q.qclass) :=
      getRange_of_drop hfour (List.cons_ne_nil _ _)
    have hqtype : fromBe (toBe q.qtype ++ toBe q.qclass) 0 = some q.qtype :=
      fromBe_toBe q.qtype [] (toBe q.qclass)
    have hqclass : fromBe (toBe q.qtype ++ toBe q.qclass) 2 = some q.qclass := by
      have := fromBe_toBe q.qclass (toBe q.qtype) []
      rwa [List.append_nil] at this
    have hnext : packet.drop (pos + (encodeName q.labels).length + 4) =
        asked.flatMap Asked.encode ++ rest := drop_of_drop hfour
    rw [List.length_cons, readQuestions, readName_of_drop hname]
    simp only [hrange, hqtype, hqclass, Option.bind_some]
    rw [ih hnext, List.map_cons, List.append_assoc]
    rfl

/-- **The questions written in a query are read back**, whatever follows them. -/
theorem parseQuestions_encode (header : Header) {asked : List Asked} (hcount : asked.length ≤ 16)
    (rest : List UInt8) :
    parseQuestions (encodeQuery header asked rest) = some (asked.map Asked.answered) := by
  have hsize := header.size
  have hshape : encodeQuery header asked rest = toBe header.id ++ toBe header.flags ++
      toBe (UInt16.ofNat asked.length) ++
        (header.counts ++ (asked.flatMap Asked.encode ++ rest)) := by
    rw [encodeQuery]
    simp only [List.append_assoc]
  have hlength : ¬(encodeQuery header asked rest).length < 12 := by
    rw [hshape]
    simp only [List.length_append, toBe, List.length_cons, List.length_nil, hsize]
    omega
  have hflags : fromBe (encodeQuery header asked rest) 2 = some header.flags := by
    rw [hshape, List.append_assoc]
    exact fromBe_toBe header.flags (toBe header.id) _
  have hqdcount : fromBe (encodeQuery header asked rest) 4 = some (UInt16.ofNat asked.length) := by
    rw [hshape]
    exact fromBe_toBe _ (toBe header.id ++ toBe header.flags) _
  have hquestions : (encodeQuery header asked rest).drop 12 =
      asked.flatMap Asked.encode ++ rest := by
    have hstart : (encodeQuery header asked rest).drop 0 =
        (toBe header.id ++ toBe header.flags ++ toBe (UInt16.ofNat asked.length) ++
          header.counts) ++ (asked.flatMap Asked.encode ++ rest) := by
      rw [List.drop_zero, hshape]
      simp only [List.append_assoc]
    have hdrop := drop_of_drop hstart
    rwa [List.length_append, hsize] at hdrop
  have hmany : min (UInt16.ofNat asked.length).toNat 16 = asked.length := by
    rw [UInt16.toNat_ofNat']
    omega
  rw [parseQuestions, if_neg hlength, hflags, Option.bind_some,
    if_neg (not_not.2 header.query), hqdcount, Option.bind_some, hmany,
    readQuestions_of_drop hquestions, List.nil_append]

/-! ## For the unit -/

/-- Between each two labels there is a dot of its own. -/
theorem count_dot_intercalate (labels : List (List Char)) :
    (['.'].intercalate labels).count '.' = (labels.map (·.count '.')).sum + (labels.length - 1) := by
  induction labels with
  | nil => rfl
  | cons label labels ih =>
    rcases eq_or_ne labels [] with rfl | hne
    · simp
    · have hpos := List.length_pos_iff.2 hne
      rw [List.intercalate_cons_of_ne_nil hne, List.count_append, List.count_append, ih,
        List.map_cons, List.sum_cons, List.length_cons, show ['.'].count '.' = 1 from rfl]
      omega

/-- **The unit's name is that of its two labels, and of one label that has the dot.** -/
theorem name_eq_iff {labels : List (List Char)} :
    ['.'].intercalate labels = NAME ↔
      labels = ["rayhunter".toList, "local".toList] ∨ labels = [NAME] := by
  constructor
  · intro h
    have hone := congrArg (List.count '.') h
    rw [count_dot_intercalate, show NAME.count '.' = 1 by decide] at hone
    by_cases hdots : ∀ label ∈ labels, '.' ∉ label
    · have hne : labels ≠ [] := by
        rintro rfl
        exact absurd h (by decide)
      have hsplit := List.splitOn_intercalate '.' hdots hne
      rw [h] at hsplit
      exact .inl (hsplit.symm.trans (by decide))
    · push Not at hdots
      obtain ⟨label, hmem, hdot⟩ := hdots
      have hpos : 0 < (labels.map (·.count '.')).sum :=
        List.sum_pos_iff_exists_pos_nat.2
          ⟨_, List.mem_map_of_mem hmem, List.count_pos_iff.2 hdot⟩
      have hlength : labels.length = 1 := by
        have := List.length_pos_of_mem hmem
        omega
      obtain ⟨label', rfl⟩ := List.length_eq_one_iff.1 hlength
      rw [List.intercalate_singleton] at h
      exact .inr (by rw [h])
  · rintro (rfl | rfl)
    · decide
    · exact List.intercalate_singleton

namespace Asked

/-- A question is answered where it is for the unit, or for the one label. -/
theorem isForUs_answered (q : Asked) : isForUs q.answered = true ↔ q.IsOurs ∨ q.OneLabel := by
  rw [isForUs, decide_eq_true_eq, answered, name_eq_iff, or_and_right]
  rfl

theorem not_isOurs_of_oneLabel {q : Asked} (h : q.OneLabel) : ¬q.IsOurs := by
  intro hours
  have hlength := congrArg List.length (h.1.symm.trans hours.1)
  cases hlength

end Asked

/-- **Questions are read, and those for the unit told apart.** No packet is read outside of itself;
what is asked in a query is what is returned; and a returned question counts as one for the unit
where it is, exactly where none is for a name of one label that is the unit's with its dot. -/
theorem parseQuestions_isForUs (packet : List UInt8) (header : Header) (asked : List Asked)
    (rest : List UInt8) :
    (∃ questions, parseQuestions packet = some questions ∧ questions.length ≤ 16) ∧
    (asked.length ≤ 16 →
      parseQuestions (encodeQuery header asked rest) = some (asked.map Asked.answered) ∧
      ((∀ q ∈ asked, isForUs q.answered = true ↔ q.IsOurs) ↔ ∀ q ∈ asked, ¬q.OneLabel)) := by
  refine ⟨exists_parseQuestions packet, fun hcount =>
    ⟨parseQuestions_encode header hcount rest, forall₂_congr fun q _ => ?_⟩⟩
  rw [q.isForUs_answered]
  constructor
  · intro h hone
    exact Asked.not_isOurs_of_oneLabel hone (h.1 (.inr hone))
  · intro hnone
    exact or_iff_left hnone

theorem ascii_name : ∀ b ∈ NAME.map fun c => UInt8.ofNat c.toNat, b < 0x80 := fun b hb =>
  have hall : (NAME.map fun c => UInt8.ofNat c.toNat).all (fun b => decide (b < 0x80)) = true := by
    decide
  of_decide_eq_true (List.all_eq_true.1 hall b hb)

/-- A question for the one label counts as one for the unit. -/
theorem isForUs_oneLabel :
    ∃ label : Label, isForUs (Asked.answered ⟨[label], TYPE_A, 1⟩) = true ∧
      ¬Asked.IsOurs ⟨[label], TYPE_A, 1⟩ := by
  refine ⟨⟨NAME.map fun c => UInt8.ofNat c.toNat, by decide, ascii_name⟩, by decide, ?_⟩
  rintro ⟨hlabels, -⟩
  exact absurd hlabels (by decide)

end Rayhunter.Mdns
