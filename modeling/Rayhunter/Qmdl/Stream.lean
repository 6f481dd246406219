import Rayhunter.Analysis.Harness
import Rayhunter.Qmdl.Gzip

/-!
# Recordings

`QmdlWriter` and `QmdlMessageReader` of `lib/src/qmdl.rs`: the messages of a container are written
one after the other through a gzip encoder, and read back up to one terminator at a time. While a
recording is made its messages are analysed container by container
(`MessagesContainer::messages`); when it is analysed again they come from the file. Both number what
they see, and the numbers agree exactly where no frame goes on in a later message
(`readAll_record_iff`).
-/

namespace Rayhunter

open Chunks

variable [Gzip]

/-! ## Writing -/

/-- `QmdlWriter` (`qmdl.rs:22`): the path of its file, what its encoder has been asked to do, and
the position in the file. -/
structure QmdlWriter where
  path : FilePath
  ops : List GzipOp
  position : Nat
  deriving DecidableEq, Repr

namespace QmdlWriter

/-- `QmdlWriter::new` (`qmdl.rs:33`) on an empty file. -/
def new (path : FilePath) : QmdlWriter := ⟨path, [], 0⟩

/-- The encoder's output for more operations, written to the file; `finished` where the last one
shuts the encoder down. -/
def advance (w : QmdlWriter) (ops : List GzipOp) (finished : Bool) (fault : WriteFault) (d : Disk) :
    Except IoError Unit × QmdlWriter × Disk :=
  let fresh := (Gzip.encode (w.ops ++ ops) finished).drop (Gzip.encode w.ops false).length
  let landed := match fault with
    | none => fresh
    | some (_, n) => fresh.take n
  (match fault with
    | none => .ok ()
    | some (e, _) => .error e,
    { w with ops := w.ops ++ ops, position := w.position + landed.length },
    d.modify w.path (·.appendBytes landed))

/-- What the encoder is asked to do for a container. -/
def containerOps (container : MessagesContainer) : List GzipOp :=
  container.messages.map (fun msg => .write msg.data) ++ [.flush]

/-- `write_container` (`qmdl.rs:45`). -/
def writeContainer (w : QmdlWriter) (container : MessagesContainer) (fault : WriteFault)
    (d : Disk) : Except IoError Unit × QmdlWriter × Disk :=
  w.advance (containerOps container) false fault d

/-- `size` (`qmdl.rs:40`). -/
def size (w : QmdlWriter) (fault : Option IoError) : Except IoError Nat :=
  match fault with
  | some e => .error e
  | none => .ok w.position

/-- What the disk answers `close`. -/
structure CloseIo where
  shutdown : WriteFault := none
  size : Option IoError := none
  deriving DecidableEq, Repr

/-- `close` (`qmdl.rs:53`). -/
def close (w : QmdlWriter) (io : CloseIo) (d : Disk) : Except IoError Nat × Disk :=
  match w.advance [] true io.shutdown d with
  | (.error e, _, d) => (.error e, d)
  | (.ok (), w, d) => (w.size io.size, d)

@[simp] theorem writeContainer_path (w : QmdlWriter) (container : MessagesContainer)
    (fault : WriteFault) (d : Disk) : (w.writeContainer container fault d).2.1.path = w.path := rfl

/-- The containers of a recording written without a fault. -/
def writeContainers (w : QmdlWriter) : List MessagesContainer → Disk → QmdlWriter × Disk
  | [], d => (w, d)
  | container :: containers, d =>
    let (_, w, d) := w.writeContainer container none d
    w.writeContainers containers d

/-- The file of a recording made of some containers, closed in the end or not. -/
def record (path : FilePath) (containers : List MessagesContainer) (closed : Bool) (d : Disk) :
    Disk :=
  let (w, d) := (new path).writeContainers containers (d.set path (some (.text "")))
  if closed then (w.close {} d).2 else d

end QmdlWriter

/-! ## Reading -/

/-- `GZIP_MAGIC_NUMBER` (`qmdl.rs:20`). -/
def GZIP_MAGIC_NUMBER : UInt16 := 0x1f8b

/-- `is_gzip_stream` (`qmdl.rs:133`); a stream too short to tell is none. -/
def isGzipStream : List UInt8 → Bool
  | a :: b :: _ => (a.toUInt16 <<< 8 ||| b.toUInt16) == GZIP_MAGIC_NUMBER
  | _ => false

/-- `QmdlMessageReader` (`qmdl.rs:126`): what is left to read, decompressed, and the error it ends
with. -/
structure QmdlMessageReader where
  compressed : Bool
  data : List UInt8
  ending : Option IoError
  deriving DecidableEq, Repr

namespace QmdlMessageReader

/-- `QmdlMessageReader::new` (`qmdl.rs:149`). A compressed stream that is cut off ends where it is
(`qmdl.rs:108`); one too short to tell is at its end once that has been tried. -/
def new (stream : List UInt8) : QmdlMessageReader :=
  if isGzipStream stream then
    let (data, ending) := Gzip.decode stream
    ⟨true, data, ending.filter (·.kind ≠ .unexpectedEof)⟩
  else ⟨false, if stream.length < 2 then [] else stream, none⟩

/-- `get_next_message` (`qmdl.rs:187`). -/
def getNextMessage [Decoders] (r : QmdlMessageReader) :
    Except IoError (Option MessageItem) × QmdlMessageReader :=
  let (buf, rest) := readUntil isTerminator r.data
  let r' := { r with data := rest }
  match buf.any isTerminator, r.ending with
  | false, some e => (.error e, r')
  | _, _ => (.ok (if buf = [] then none else some (Message.fromHdlc buf)), r')

section
variable [Decoders]

omit [Gzip] in
/-- What a message is read from is taken off what is left. -/
theorem getNextMessage_data (r : QmdlMessageReader) :
    r.getNextMessage.2 = { r with data := (readUntil isTerminator r.data).2 } := by
  unfold getNextMessage
  simp only
  split <;> rfl

omit [Gzip] in
/-- A stream without an error gives its next chunk, if it has one. -/
theorem getNextMessage_of_ending {r : QmdlMessageReader} (h : r.ending = none) :
    r.getNextMessage.1 = .ok
      (if r.data = [] then none
        else some (Message.fromHdlc (readUntil isTerminator r.data).1)) := by
  unfold getNextMessage
  simp only [h, readUntil_fst_eq_nil]
  cases (readUntil isTerminator r.data).1.any isTerminator <;> rfl

omit [Gzip] in
/-- Reading meets an error just where no whole message is left and the stream ends in one. -/
theorem getNextMessage_ok_iff (r : QmdlMessageReader) :
    (∃ item, r.getNextMessage.1 = .ok item) ↔
      r.data.any isTerminator = true ∨ r.ending = none := by
  have hany := any_readUntil (p := isTerminator) r.data
  unfold getNextMessage
  generalize readUntil isTerminator r.data = c at hany
  obtain ⟨buf, rest⟩ := c
  simp only at hany ⊢
  rw [hany]
  cases r.data.any isTerminator <;> cases r.ending <;> simp

omit [Gzip] in
/-- Reading a message leaves less to read. -/
theorem getNextMessage_length {r : QmdlMessageReader} {item : MessageItem}
    (h : r.getNextMessage.1 = .ok (some item)) :
    r.getNextMessage.2.data.length < r.data.length := by
  rw [getNextMessage_data]
  refine length_readUntil_lt fun hd => ?_
  unfold getNextMessage at h
  simp only [hd, readUntil] at h
  split at h <;> simp at h

/-- The loop over `get_next_message`: the messages up to the end of the stream or up to an error. -/
def readAll (r : QmdlMessageReader) : List MessageItem × Option IoError :=
  match _h : r.getNextMessage.1 with
  | .error e => ([], some e)
  | .ok none => ([], none)
  | .ok (some item) =>
    let p := r.getNextMessage.2.readAll
    (item :: p.1, p.2)
termination_by r.data.length
decreasing_by exact getNextMessage_length ‹_›

omit [Gzip] in
/-- At the end of the stream there is nothing more to read. -/
theorem readAll_of_none {r : QmdlMessageReader} (h : r.getNextMessage.1 = .ok none) :
    r.readAll = ([], none) := by
  rw [readAll]
  split <;> simp_all

omit [Gzip] in
/-- A message is followed by those after it. -/
theorem readAll_of_some {r : QmdlMessageReader} {item : MessageItem}
    (h : r.getNextMessage.1 = .ok (some item)) :
    r.readAll = (item :: r.getNextMessage.2.readAll.1, r.getNextMessage.2.readAll.2) := by
  rw [readAll]
  split
  · simp_all
  · simp_all
  · next item' h' =>
    rw [h] at h'
    cases h'
    rfl

omit [Gzip] in
/-- A stream without an error is read in the chunks its terminators cut it into. -/
theorem readAll_eq {r : QmdlMessageReader} (h : r.ending = none) :
    r.readAll = ((splitInclusive isTerminator r.data).map Message.fromHdlc, none) := by
  induction r using readAll.induct with
  | case1 r e he => rw [getNextMessage_of_ending h] at he; cases he
  | case2 r hn =>
    have hd : r.data = [] := by
      rw [getNextMessage_of_ending h, Except.ok.injEq] at hn
      by_contra hd
      rw [if_neg hd] at hn
      cases hn
    rw [readAll_of_none hn, hd]
    rfl
  | case3 r item hi ih =>
    have hnext := hi
    rw [getNextMessage_of_ending h, Except.ok.injEq] at hi
    by_cases hd : r.data = []
    · rw [if_pos hd] at hi; cases hi
    · rw [if_neg hd, Option.some.injEq] at hi
      have hrest := ih (by rw [getNextMessage_data]; exact h)
      rw [readAll_of_some hnext, hrest, getNextMessage_data, splitInclusive_readUntil hd,
        List.map_cons, hi]

end

end QmdlMessageReader

/-! ## What is stored -/

namespace QmdlWriter

/-- Everything the encoder is asked to do for some containers. -/
def recordOps (containers : List MessagesContainer) : List GzipOp := containers.flatMap containerOps

/-- The messages of some containers, each with its data. -/
def frames (containers : List MessagesContainer) : List (List UInt8) :=
  containers.flatMap fun container => container.messages.map (·.data)

omit [Gzip] in
/-- The encoder is given the messages, one after the other. -/
theorem written_recordOps (containers : List MessagesContainer) :
    GzipOp.written (recordOps containers) = (frames containers).flatten := by
  induction containers with
  | nil => rfl
  | cons container containers ih =>
    have hone : GzipOp.written (containerOps container) =
        (container.messages.map (·.data)).flatten := by
      simp only [GzipOp.written, containerOps, List.flatMap_append, List.flatMap_map]
      simp [List.flatMap_def]
    simp only [recordOps, frames, List.flatMap_cons, List.flatten_append] at ih ⊢
    rw [← hone, ← ih]
    simp [GzipOp.written]

omit [Gzip] in
/-- A container leaves nothing in the buffers. -/
theorem getLast?_recordOps {containers : List MessagesContainer} (h : containers ≠ []) :
    (recordOps containers).getLast? = some .flush := by
  obtain ⟨init, last, rfl⟩ : ∃ init last, containers = init ++ [last] :=
    ⟨_, _, (List.dropLast_concat_getLast h).symm⟩
  simp [recordOps, containerOps]

/-- The file of a writer holds what its encoder has put out. -/
def Holds (w : QmdlWriter) (d : Disk) (finished : Bool) : Prop :=
  ∃ content, d.files w.path = some content ∧ content.toBytes = Gzip.encode w.ops finished

/-- A write without a fault adds the encoder's output to the file. -/
theorem Holds.advance (hg : Gzip.Lossless) {w : QmdlWriter} {d : Disk} (h : w.Holds d false)
    (ops : List GzipOp) (finished : Bool) :
    (w.advance ops finished none d).2.1.Holds (w.advance ops finished none d).2.2 finished := by
  obtain ⟨content, hfile, hbytes⟩ := h
  obtain ⟨fresh, hfresh⟩ := hg.encode_append w.ops ops finished
  refine ⟨content.appendBytes fresh, ?_, ?_⟩
  · simp [QmdlWriter.advance, Disk.modify, hfile, ← hfresh]
  · show content.toBytes ++ fresh = _
    rw [hbytes, hfresh]
    rfl

theorem Holds.writeContainers (hg : Gzip.Lossless) (containers : List MessagesContainer)
    {w : QmdlWriter} {d : Disk} (h : w.Holds d false) :
    (w.writeContainers containers d).1.path = w.path ∧
      (w.writeContainers containers d).1.ops = w.ops ++ recordOps containers ∧
      (w.writeContainers containers d).1.Holds (w.writeContainers containers d).2 false := by
  induction containers generalizing w d with
  | nil => exact ⟨rfl, by simp [QmdlWriter.writeContainers, recordOps], h⟩
  | cons container containers ih =>
    obtain ⟨hpath, hops, hholds⟩ := ih (h.advance hg (containerOps container) false)
    refine ⟨hpath, ?_, hholds⟩
    rw [QmdlWriter.writeContainers]
    refine Eq.trans hops ?_
    simp [QmdlWriter.advance, recordOps]

/-- The file of a recording is the encoder's output for its containers. -/
theorem record_files (hg : Gzip.Lossless) (path : FilePath) (containers : List MessagesContainer)
    (closed : Bool) (d : Disk) :
    ∃ content, (record path containers closed d).files path = some content ∧
      content.toBytes = Gzip.encode (recordOps containers) closed := by
  have h : (new path).Holds (d.set path (some (.text ""))) false := by
    refine ⟨.text "", by simp [new], ?_⟩
    simp [new, hg.encode_nil, FileContent.toBytes, utf8]
  obtain ⟨hpath, hops, hholds⟩ := h.writeContainers hg containers
  cases closed with
  | false =>
    obtain ⟨content, hfile, hbytes⟩ := hholds
    rw [hpath] at hfile
    exact ⟨content, hfile, by rw [hbytes, hops]; rfl⟩
  | true =>
    obtain ⟨content, hfile, hbytes⟩ := hholds.advance hg [] true
    refine ⟨content, ?_, ?_⟩
    · rw [← hfile]
      show _ = Disk.files _ (QmdlWriter.path _)
      rw [show (QmdlWriter.advance _ [] true none _).2.1.path = path from hpath]
      rfl
    · rw [hbytes]
      simp only [QmdlWriter.advance, hops, List.append_nil]
      rfl

end QmdlWriter

/-- A recording is read back as the messages written, in the chunks the terminators of the whole
cut it into. -/
theorem QmdlMessageReader.readAll_encode [Decoders] (hg : Gzip.Lossless)
    (containers : List MessagesContainer) (closed : Bool) :
    (new (Gzip.encode (QmdlWriter.recordOps containers) closed)).readAll =
      ((splitInclusive isTerminator (QmdlWriter.frames containers).flatten).map
        Message.fromHdlc, none) := by
  by_cases hs : GzipOp.Settled (QmdlWriter.recordOps containers) closed
  · obtain ⟨rest, hrest⟩ := hg.magic _ _ hs
    have hgz : isGzipStream (Gzip.encode (QmdlWriter.recordOps containers) closed) = true := by
      rw [hrest]; rfl
    have hdata := hg.decode_encode _ _ hs
    have hend := hg.decode_end _ _ hs
    rw [readAll_eq]
    · simp only [new, if_pos hgz, hdata, QmdlWriter.written_recordOps]
    · simp only [new, if_pos hgz, Option.filter_eq_none_iff]
      intro e he
      simp [hend e he]
  · -- nothing has been written, and nothing put out
    have hc : containers = [] := by
      by_contra hc
      exact hs (.inr (QmdlWriter.getLast?_recordOps hc))
    have hclosed : closed = false := by
      by_contra hclosed
      exact hs (.inl (by simpa using hclosed))
    subst hc hclosed
    rw [readAll_eq] <;> simp [QmdlWriter.recordOps, QmdlWriter.frames, hg.encode_nil, new,
      isGzipStream]

/-! ## The two ways to see a recording -/

section
variable [Decoders]

/-- What the analysis sees of some containers while they are recorded. -/
def liveItems (containers : List MessagesContainer) : List MessageItem :=
  containers.flatMap (·.items)

omit [Gzip] in
theorem liveItems_eq (containers : List MessagesContainer) :
    liveItems containers =
      ((QmdlWriter.frames containers).flatMap (splitInclusive isTerminator)).map
        Message.fromHdlc := by
  induction containers with
  | nil => rfl
  | cons container containers ih =>
    have hone : container.items =
        ((container.messages.map (·.data)).flatMap (splitInclusive isTerminator)).map
          Message.fromHdlc := by
      rw [MessagesContainer.items, List.flatMap_map, List.map_flatMap]
    simp only [liveItems, QmdlWriter.frames, List.flatMap_cons, List.flatMap_append,
      List.map_append] at ih ⊢
    rw [ih, hone]

/-- **A recording is read back as it was seen live if and only if no frame goes on in a later
message.** -/
theorem readAll_record_iff (hg : Gzip.Lossless) (path : FilePath)
    (containers : List MessagesContainer) (closed : Bool) (d : Disk) :
    ∃ content, (QmdlWriter.record path containers closed d).files path = some content ∧
      ((QmdlMessageReader.new content.toBytes).readAll = (liveItems containers, none) ↔
        Aligned isTerminator (QmdlWriter.frames containers)) := by
  obtain ⟨content, hfile, hbytes⟩ := QmdlWriter.record_files hg path containers closed d
  refine ⟨content, hfile, ?_⟩
  rw [hbytes, QmdlMessageReader.readAll_encode hg, liveItems_eq, Prod.mk.injEq, eq_comm]
  simp only [and_true]
  exact splitInclusive_flatten_iff _ _

/-- Where no frame goes on in a later message, the rows of the live analysis are those of a later
one, number by number. -/
theorem analyzeItems_readAll [Detectors] [SerdeJson] (hg : Gzip.Lossless) (h : Harness)
    {containers : List MessagesContainer} (closed : Bool)
    (ha : Aligned isTerminator (QmdlWriter.frames containers)) :
    h.analyzeItems (QmdlMessageReader.new
        (Gzip.encode (QmdlWriter.recordOps containers) closed)).readAll.1 =
      h.analyzeItems (liveItems containers) := by
  rw [QmdlMessageReader.readAll_encode hg, liveItems_eq]
  congr 1
  exact ((splitInclusive_flatten_iff Message.fromHdlc _).2 ha).symm

end

/-! ## A frame in two messages -/

/-- The path of a recording. -/
def recordingPath : FilePath := ⟨defaultStorePath, "1724038434-0.qmdl.gz"⟩

/-- A container with messages of some data. -/
def containerOf (data : List (List UInt8)) : MessagesContainer where
  dataType := .userSpace
  numMessages := UInt32.ofNat data.length
  messages := data.map fun d => ⟨UInt32.ofNat d.length, d⟩

/-- The two bytes before a terminator come in one message, the terminator in the next. -/
def splitFrame : List MessagesContainer := [containerOf [[0x01], [0x02, 0x7e]]]

omit [Gzip] in
/-- A frame that goes on in the next message is two packets live and one packet read back. -/
theorem readAll_record_splitFrame :
    let _ := storedGzip
    let _ := nasDecoders
    ¬ ∀ (containers : List MessagesContainer) (closed : Bool) (content : FileContent),
      (QmdlWriter.record recordingPath containers closed ⟨fun _ => none⟩).files recordingPath =
        some content →
      (QmdlMessageReader.new content.toBytes).readAll = (liveItems containers, none) := by
  let _ := storedGzip
  let _ := nasDecoders
  intro _ _ h
  obtain ⟨content, hfile, hbytes⟩ :=
    QmdlWriter.record_files storedGzip_lossless recordingPath splitFrame true ⟨fun _ => none⟩
  have hall := h splitFrame true content hfile
  rw [hbytes, QmdlMessageReader.readAll_encode storedGzip_lossless, liveItems_eq, Prod.mk.injEq]
    at hall
  have ha := (splitInclusive_flatten_iff Message.fromHdlc _).1 hall.1.symm
  have hopen : Open isTerminator [(0x01 : UInt8)] := ⟨0x01, rfl, rfl⟩
  exact absurd (ha.1 hopen) (by decide)

omit [Gzip] in
/-- Two messages that both end at a terminator are read back as they were seen. -/
theorem readAll_record_two :
    let _ := storedGzip
    let _ := nasDecoders
    let containers := [containerOf [[0x01, 0x02, 0x7e]], containerOf [[0x03, 0x7e]]]
    ∃ content, (QmdlWriter.record recordingPath containers true ⟨fun _ => none⟩).files
        recordingPath = some content ∧
      (QmdlMessageReader.new content.toBytes).readAll = (liveItems containers, none) := by
  let _ := storedGzip
  let _ := nasDecoders
  intro _ _ containers
  obtain ⟨content, hfile, hiff⟩ :=
    readAll_record_iff storedGzip_lossless recordingPath containers true ⟨fun _ => none⟩
  refine ⟨content, hfile, hiff.2 ⟨?_, ?_, trivial⟩⟩
  · rintro ⟨a, ha, hp⟩
    obtain rfl : 0x7e = a := by simpa using ha
    cases hp
  · exact fun _ => rfl

end Rayhunter
