import Rayhunter.Diag.Message
import Rayhunter.Store.Disk

/-!
# Reading the diag device

`DiagDevice` (`lib/src/diag_device.rs`) as far as capture goes: one read of the device is one
container, short and empty reads are read over, and what does not parse as a container ends the
stream, whatever type it says it is. A device that has nothing to say blocks, so the stream of some
reads goes as far as they do.
-/

namespace Rayhunter

/-! ## Parsing a container -/

/-- A `u32` as the device writes it, the low byte first. -/
def readU32 : List UInt8 → Option (UInt32 × List UInt8)
  | a :: b :: c :: d :: rest => some (UInt32.ofNat (fromLe [a, b, c, d]), rest)
  | _ => none

/-- `DataType` by its number. -/
def DataType.ofId (id : UInt32) : DataType := if id = 32 then .userSpace else .other id

/-- `HdlcEncapsulatedMessage` as `deku` reads it: a length and so many bytes. -/
def HdlcEncapsulatedMessage.read (data : List UInt8) :
    Option (HdlcEncapsulatedMessage × List UInt8) :=
  match readU32 data with
  | none => none
  | some (len, rest) =>
    if len.toNat ≤ rest.length then some (⟨len, rest.take len.toNat⟩, rest.drop len.toNat) else none

/-- So many messages, one after the other. -/
def readMessages : Nat → List UInt8 → Option (List HdlcEncapsulatedMessage × List UInt8)
  | 0, data => some ([], data)
  | n + 1, data =>
    match HdlcEncapsulatedMessage.read data with
    | none => none
    | some (message, rest) =>
      match readMessages n rest with
      | none => none
      | some (messages, rest) => some (message :: messages, rest)

/-- `MessagesContainer::from_bytes`, which leaves over what follows the messages. The one error it
can meet is a read with too few bytes. -/
def MessagesContainer.fromBytes (data : List UInt8) : Option MessagesContainer :=
  match readU32 data with
  | none => none
  | some (id, rest) =>
    match readU32 rest with
    | none => none
    | some (numMessages, rest) =>
      (readMessages numMessages.toNat rest).map fun (messages, _) =>
        ⟨DataType.ofId id, numMessages, messages⟩

/-! ## Reading -/

/-- `DiagDeviceError` (`diag_device.rs:21`), as far as reading meets it. -/
inductive DiagDeviceError
  | deviceReadFailed (e : IoError)
  | parseMessagesContainerError
  deriving DecidableEq, Repr

/-- One `read` of the device: its bytes, none where it has closed, or an error. -/
abbrev DeviceRead := Except IoError (List UInt8)

/-- `MAX_EMPTY_READS` (`diag_device.rs:187`). -/
def MAX_EMPTY_READS : Nat := 16

/-- The error of a device that has closed. -/
def deviceClosed : IoError :=
  ⟨.unexpectedEof, "diag device returned no data repeatedly; assuming it disconnected"⟩

/-- The read loop of `get_next_messages_container` (`diag_device.rs:190`) after so many empty reads:
what it ends with and the reads it leaves. It goes on past a read of no more than eight bytes. -/
def nextRead : Nat → List DeviceRead → Option (Except DiagDeviceError (List UInt8) × List DeviceRead)
  | _, [] => none
  | _, .error e :: rest => some (.error (.deviceReadFailed e), rest)
  | emptyReads, .ok data :: rest =>
    if data.length = 0 then
      if MAX_EMPTY_READS ≤ emptyReads + 1 then some (.error (.deviceReadFailed deviceClosed), rest)
      else nextRead (emptyReads + 1) rest
    else if data.length ≤ 8 then nextRead 0 rest
    else some (.ok data, rest)

/-- `get_next_messages_container` (`diag_device.rs:176`). -/
def getNextMessagesContainer (reads : List DeviceRead) :
    Option (Except DiagDeviceError MessagesContainer × List DeviceRead) :=
  (nextRead 0 reads).map fun
    | (.error e, rest) => (.error e, rest)
    | (.ok data, rest) =>
      match MessagesContainer.fromBytes data with
      | some container => (.ok container, rest)
      | none => (.error .parseMessagesContainerError, rest)

/-- Every call of the loop takes a read. -/
theorem nextRead_length {k : Nat} {reads rest : List DeviceRead}
    {result : Except DiagDeviceError (List UInt8)} (h : nextRead k reads = some (result, rest)) :
    rest.length < reads.length := by
  fun_induction nextRead k reads with
  | case1 => cases h
  | case2 | case3 | case6 => cases h; simp
  | case4 _ _ _ _ _ ih | case5 _ _ _ _ _ ih => have := ih h; simp only [List.length_cons]; omega

theorem getNextMessagesContainer_length {reads rest : List DeviceRead}
    {result : Except DiagDeviceError MessagesContainer}
    (h : getNextMessagesContainer reads = some (result, rest)) : rest.length < reads.length := by
  obtain ⟨⟨r, rest'⟩, hn, heq⟩ := Option.map_eq_some_iff.1 h
  have hlen := nextRead_length hn
  cases r with
  | error e => cases heq; exact hlen
  | ok data =>
    simp only at heq
    split at heq <;> (cases heq; exact hlen)

/-- `as_stream` (`diag_device.rs:167`): an error is its last item. -/
def asStream (reads : List DeviceRead) : List (Except DiagDeviceError MessagesContainer) :=
  match _h : getNextMessagesContainer reads with
  | none => []
  | some (.error e, _) => [.error e]
  | some (.ok container, rest) => .ok container :: asStream rest
termination_by reads.length
decreasing_by exact getNextMessagesContainer_length _h

/-- The containers the recording task takes up: those of the stream, up to the error that ends
`run_diag_read_thread` (`diag.rs:1158`), that are of the type `UserSpace` (`diag.rs:657`). -/
def received (reads : List DeviceRead) : List MessagesContainer :=
  (asStream reads).filterMap fun
    | .ok container => if container.dataType = .userSpace then some container else none
    | .error _ => none

/-! ## What the device sends -/

/-- The reads that are more than a header, as long as the device answers. What is no more than a
header has no messages (`MessagesContainer.fromBytes_header`). -/
def wholeReads : Nat → List DeviceRead → List (List UInt8)
  | _, [] => []
  | _, .error _ :: _ => []
  | emptyReads, .ok data :: rest =>
    if data.length = 0 then
      if MAX_EMPTY_READS ≤ emptyReads + 1 then [] else wholeReads (emptyReads + 1) rest
    else if data.length ≤ 8 then wholeReads 0 rest
    else data :: wholeReads 0 rest

theorem HdlcEncapsulatedMessage.read_length {data rest : List UInt8}
    {message : HdlcEncapsulatedMessage} (h : read data = some (message, rest)) :
    4 ≤ data.length := by
  unfold read readU32 at h
  split at h
  · cases h
  · next heq =>
    split at heq
    · simp
    · cases heq

/-- What is no more than a header has no messages. -/
theorem MessagesContainer.fromBytes_header {data : List UInt8} {container : MessagesContainer}
    (hshort : data.length ≤ 8) (h : fromBytes data = some container) :
    container.messages = [] := by
  unfold fromBytes readU32 at h
  split at h
  · cases h
  · next heq =>
    split at heq
    · cases heq
      split at h
      · cases h
      · next hnum =>
        split at hnum
        · cases hnum
          obtain ⟨⟨messages, rest⟩, hread, rfl⟩ := Option.map_eq_some_iff.1 h
          generalize UInt32.toNat _ = n at hread
          cases n with
          | zero => cases hread; rfl
          | succ n =>
            simp only [readMessages] at hread
            split at hread
            · cases hread
            · next hmessage =>
              have := HdlcEncapsulatedMessage.read_length hmessage
              simp only [List.length_cons] at hshort
              omega
        · cases hnum
    · cases heq

/-- A read that is a container of the type `UserSpace`. -/
def userSpaceContainer (data : List UInt8) : Option MessagesContainer :=
  (MessagesContainer.fromBytes data).filter (·.dataType = .userSpace)

/-- The containers of the type `UserSpace` among some reads, in order. -/
def userSpaceContainers (reads : List DeviceRead) : List MessagesContainer :=
  (wholeReads 0 reads).filterMap userSpaceContainer

/-- Whether a read parses. -/
def parses (data : List UInt8) : Bool := (MessagesContainer.fromBytes data).isSome

/-- The loop takes the next read that is more than a header. -/
theorem nextRead_ok {k : Nat} {reads rest : List DeviceRead} {data : List UInt8}
    (h : nextRead k reads = some (.ok data, rest)) :
    wholeReads k reads = data :: wholeReads 0 rest := by
  fun_induction nextRead k reads with
  | case1 | case2 | case3 => cases h
  | case4 k data' reads h₀ h₁ ih => rw [wholeReads, if_pos h₀, if_neg h₁]; exact ih h
  | case5 k data' reads h₀ h₁ ih => rw [wholeReads, if_neg h₀, if_pos h₁]; exact ih h
  | case6 k data' reads h₀ h₁ => cases h; rw [wholeReads, if_neg h₀, if_neg h₁]

/-- Where it takes none there is none. -/
theorem nextRead_not_ok {k : Nat} {reads : List DeviceRead}
    (h : ∀ data rest, nextRead k reads ≠ some (.ok data, rest)) : wholeReads k reads = [] := by
  fun_induction nextRead k reads with
  | case1 | case2 => rfl
  | case3 k data reads h₀ h₁ => rw [wholeReads, if_pos h₀, if_pos h₁]
  | case4 k data reads h₀ h₁ ih => rw [wholeReads, if_pos h₀, if_neg h₁]; exact ih h
  | case5 k data reads h₀ h₁ ih => rw [wholeReads, if_neg h₀, if_pos h₁]; exact ih h
  | case6 k data reads => exact absurd rfl (h data reads)

/-- A call that returns a container has parsed the next read. -/
theorem getNext_ok {reads rest : List DeviceRead} {container : MessagesContainer}
    (h : getNextMessagesContainer reads = some (.ok container, rest)) :
    ∃ data, wholeReads 0 reads = data :: wholeReads 0 rest ∧
      MessagesContainer.fromBytes data = some container := by
  obtain ⟨⟨result, rest'⟩, hn, heq⟩ := Option.map_eq_some_iff.1 h
  cases result with
  | error e => cases heq
  | ok data =>
    simp only at heq
    split at heq
    · next c hc => cases heq; exact ⟨data, nextRead_ok hn, hc⟩
    · cases heq

/-- One that returns none, or an error, is at the end of what the device sends or at a read that
does not parse. -/
theorem getNext_not_ok {reads : List DeviceRead}
    (h : ∀ container rest, getNextMessagesContainer reads ≠ some (.ok container, rest)) :
    (wholeReads 0 reads).takeWhile parses = [] := by
  cases hn : nextRead 0 reads with
  | none => rw [nextRead_not_ok (by simp [hn])]; rfl
  | some p =>
    obtain ⟨result, rest⟩ := p
    cases result with
    | error e => rw [nextRead_not_ok (by simp [hn])]; rfl
    | ok data =>
      rw [nextRead_ok hn, List.takeWhile_cons_of_neg]
      intro hp
      obtain ⟨c, hc⟩ := Option.isSome_iff_exists.1 hp
      exact h c rest (by simp [getNextMessagesContainer, hn, hc])

/-- The task takes up what parses before the first read that does not. -/
theorem received_eq (reads : List DeviceRead) :
    received reads = ((wholeReads 0 reads).takeWhile parses).filterMap userSpaceContainer := by
  fun_induction asStream reads with
  | case1 reads h =>
    rw [getNext_not_ok (by simp [h]), received, asStream]
    split <;> simp_all
  | case2 reads e rest h =>
    rw [getNext_not_ok (by simp [h]), received, asStream]
    split <;> simp_all
  | case3 reads c rest h ih =>
    obtain ⟨data, hwhole, hc⟩ := getNext_ok h
    have huser : userSpaceContainer data = if c.dataType = .userSpace then some c else none := by
      rw [userSpaceContainer, hc, Option.filter_some]
      by_cases ht : c.dataType = .userSpace <;> simp [ht]
    have hstream : asStream reads = .ok c :: asStream rest := by
      rw [asStream]
      split <;> simp_all
    rw [hwhole, List.takeWhile_cons_of_pos (by simp [parses, hc]), List.filterMap_cons, huser, ← ih,
      received, hstream, List.filterMap_cons]
    by_cases ht : c.dataType = .userSpace <;> simp [ht, received]

/-! ## When a bad read ends detection -/

/-- A read that does not parse is followed by no container of the type `UserSpace`. -/
def BadReadsLast (reads : List DeviceRead) : Prop :=
  ∀ before bad after, wholeReads 0 reads = before ++ bad :: after →
    MessagesContainer.fromBytes bad = none → ∀ data ∈ after, userSpaceContainer data = none

/-- Cutting a list at its first element without a property loses nothing of what is taken from it
where nothing is taken after that. -/
theorem filterMap_takeWhile_eq {α β : Type} {p : α → Bool} {f : α → Option β} {l : List α} :
    (l.takeWhile p).filterMap f = l.filterMap f ↔ ∀ a ∈ l.dropWhile p, f a = none := by
  conv_lhs =>
    rhs
    rw [← List.takeWhile_append_dropWhile (p := p) (l := l), List.filterMap_append]
  rw [List.self_eq_append_right, List.filterMap_eq_nil_iff]

/-- What is left at the first read that does not parse begins with it. -/
theorem dropWhile_parses {data : List UInt8} {whole rest : List (List UInt8)}
    (h : whole.dropWhile parses = data :: rest) : MessagesContainer.fromBytes data = none := by
  have := List.head?_dropWhile_not parses whole
  rw [h] at this
  simpa [parses] using this

/-- Nothing of the type `UserSpace` is left at the first read that does not parse just where none
follows any such read. -/
theorem dropWhile_none_iff {whole : List (List UInt8)} :
    (∀ data ∈ whole.dropWhile parses, userSpaceContainer data = none) ↔
      ∀ before bad after, whole = before ++ bad :: after →
        MessagesContainer.fromBytes bad = none → ∀ data ∈ after, userSpaceContainer data = none := by
  constructor
  · rintro h before bad after rfl hbad data hdata
    refine h data ?_
    rw [List.dropWhile_append]
    split
    · rw [List.dropWhile_cons_of_neg (by simp [parses, hbad])]
      exact List.mem_cons_of_mem _ hdata
    · exact List.mem_append_right _ (List.mem_cons_of_mem _ hdata)
  · intro h data hdata
    cases hdrop : whole.dropWhile parses with
    | nil => rw [hdrop] at hdata; cases hdata
    | cons bad after =>
      have hbad := dropWhile_parses hdrop
      have hwhole : whole = whole.takeWhile parses ++ bad :: after := by
        rw [← hdrop, List.takeWhile_append_dropWhile]
      rw [hdrop] at hdata
      rcases List.mem_cons.1 hdata with rfl | hdata
      · rw [userSpaceContainer, hbad, Option.filter_none]
      · exact h _ bad after hwhole hbad data hdata

/-- **One bad read ends detection where anything follows it.** Of what the device sends, the task
takes up just the containers of the type `UserSpace` where no read that does not parse, of
whatever type, is followed by one. -/
theorem received_eq_userSpaceContainers_iff (reads : List DeviceRead) :
    received reads = userSpaceContainers reads ↔ BadReadsLast reads := by
  rw [received_eq, userSpaceContainers, filterMap_takeWhile_eq, dropWhile_none_iff, BadReadsLast]

/-- A container of another type whose payload says it holds far more messages than it does, and
then one of the type `UserSpace`. -/
def logsThenMessages : List DeviceRead :=
  [.ok [1, 0, 0, 0, 255, 255, 255, 255, 0], .ok [32, 0, 0, 0, 1, 0, 0, 0, 1, 0, 0, 0, 126]]

theorem container_after_bad_read_lost :
    userSpaceContainers logsThenMessages = [⟨.userSpace, 1, [⟨1, [126]⟩]⟩] ∧
      received logsThenMessages = [] := by
  refine ⟨?_, ?_⟩
  · decide +kernel
  · rw [received_eq]
    decide +kernel

end Rayhunter
