import Rayhunter.Cleanup.Reanalysis
import Rayhunter.Lib.Fields
import Rayhunter.Qmdl.Cut

/-!
# The packet list

`list_packets` of the packet explorer (`packet_explorer.rs`) reads a recording message by message
and shows those of a window, each with the number its row of the analysis has. Both count every
message, so what is shown is the window (`scan_eq`, `room_eq_inWindow_iff`), and its end is told from that
of the recording. A window centred on a packet has `2 * context + 1` numbers, but no more than the
largest limit, which is one less than that at the largest context: there the last packet of the
context is missed (`listPackets_window_iff`).
-/

namespace Rayhunter

/-! ## What is asked for -/

/-- `MAX_LIMIT` (`packet_explorer.rs:39`). -/
def MAX_LIMIT : Nat := 500

/-- `DEFAULT_LIMIT` (`packet_explorer.rs:40`). -/
def DEFAULT_LIMIT : Nat := 100

/-- `ListQuery` (`packet_explorer.rs:131`). -/
structure ListQuery where
  offset : Option Nat := none
  limit : Option Nat := none
  around : Option Nat := none
  context : Option Nat := none
  deriving DecidableEq, Repr

namespace ListQuery

/-- One pair of a query: a value that is no number is ignored (`packet_explorer.rs:148`). -/
def readPair [SerdeJson] (out : ListQuery) (pair : List Char) : ListQuery :=
  match Fields.splitOnce '=' pair with
  | none => out
  | some (key, value) =>
    match Fields.parseUnsigned SerdeJson.usizeMax value with
    | none => out
    | some number =>
      if key = "offset".toList then { out with offset := some number }
      else if key = "limit".toList then { out with limit := some number }
      else if key = "around".toList then { out with around := some number }
      else if key = "context".toList then { out with context := some number }
      else out

/-- `ListQuery::parse` (`packet_explorer.rs:144`). -/
def parse [SerdeJson] : Option String → ListQuery
  | none => {}
  | some raw => (raw.toList.splitOn '&').foldl readPair {}

/-- The context that is accepted, at most half the largest limit (`packet_explorer.rs:519`). -/
def accepted (q : ListQuery) : Nat := min (q.context.getD 10) (MAX_LIMIT / 2)

/-- Where the window starts, and how many numbers it has (`packet_explorer.rs:517`). -/
def window (q : ListQuery) : Nat × Nat :=
  let (start, limit) :=
    match q.around with
    | some around => (max (around - q.accepted) 1, q.accepted * 2 + 1)
    | none => (max (q.offset.getD 1) 1, q.limit.getD DEFAULT_LIMIT)
  (start, min (max limit 1) MAX_LIMIT)

/-- The number the window starts at. -/
def start (q : ListQuery) : Nat := q.window.1

/-- How many numbers the window has. -/
def count (q : ListQuery) : Nat := q.window.2

theorem start_pos (q : ListQuery) : 1 ≤ q.start := by
  unfold start window
  cases q.around <;> simp

/-- The window of a query around a packet. -/
theorem around_window {q : ListQuery} {around : Nat} (h : q.around = some around) :
    q.start = max (around - q.accepted) 1 ∧ q.count = min (q.accepted * 2 + 1) MAX_LIMIT := by
  unfold start count window
  rw [h]
  exact ⟨rfl, by simp⟩

end ListQuery

/-! ## What is shown -/

/-- `Classified` (`packet_explorer.rs:178`), what the list shows of it. -/
structure Classified where
  timestamp : Option String
  pci : Option UInt16
  earfcn : Option UInt32
  sfn : Option UInt32
  subfn : Option UInt8
  protocol : String
  channel : Option String
  direction : Option String
  messageType : Option String
  payload : List UInt8
  error : Option String
  deriving DecidableEq, Repr

/-- `PacketSummary` (`packet_explorer.rs:66`). -/
structure PacketSummary where
  packetNum : Nat
  timestamp : Option String
  protocol : String
  channel : Option String
  direction : Option String
  messageType : Option String
  payloadLen : Nat
  parseStatus : String
  pci : Option UInt16
  earfcn : Option UInt32
  sfn : Option UInt32
  subfn : Option UInt8
  deriving DecidableEq, Repr

/-- `summarize` (`packet_explorer.rs:443`). -/
def summarize (packetNum : Nat) (classified : Classified) : PacketSummary where
  packetNum
  timestamp := classified.timestamp
  protocol := classified.protocol
  channel := classified.channel
  direction := classified.direction
  messageType := classified.messageType
  payloadLen := classified.payload.length
  parseStatus :=
    match classified.error with
    | none => "decoded"
    | some e =>
      if e = "not a signalling message" then "not a signalling message" else "undecodable"
  pci := classified.pci
  earfcn := classified.earfcn
  sfn := classified.sfn
  subfn := classified.subfn

/-- `PacketList` (`packet_explorer.rs:168`). -/
structure PacketList where
  packets : List PacketSummary
  firstPacketNum : Nat
  reachedEnd : Bool
  deriving DecidableEq, Repr

/-- What the packet explorer takes from elsewhere: what the decoders tell of a message (`classify`),
and the texts errors are shown as. -/
class Explorer [Decoders] where
  classify : MessageItem → Classified
  debugStoreError : RecordingStoreError → String
  debugIoError : IoError → String

/-- `open_recording` (`packet_explorer.rs:474`); an error is the status with the body. -/
def Storage.openRecording [Gzip] [Decoders] [Explorer] (s : Storage) (name : String)
    (fault : Option IoError) : Except (Nat × String) QmdlMessageReader :=
  match s.store.entryForName name with
  | none => .error (404, s!"no recording named {name}")
  | some (index, entry) =>
    if entry.qmdlSizeBytes = 0 then .error (503, "recording is empty, try again shortly")
    else
      match s.openFile index .qmdl fault with
      | some (.ok (some path)) =>
        .ok (QmdlMessageReader.new ((s.files path).elim [] FileContent.toBytes))
      | some (.error e) => .error (500, Explorer.debugStoreError e)
      -- The index is of the same lock, so it is not out of bounds.
      | some (.ok none) | none => .error (404, "recording file missing")

/-! ## The numbers of packets -/

/-- The number after one, a `usize` which starts again at zero. -/
def nextNum [SerdeJson] (n : Nat) : Nat := (n + 1) % (SerdeJson.usizeMax + 1)

theorem nextNum_of_lt [SerdeJson] {n : Nat} (h : n < SerdeJson.usizeMax) : nextNum n = n + 1 :=
  Nat.mod_eq_of_lt (by omega)

theorem nextNum_le [SerdeJson] (n : Nat) : nextNum n ≤ SerdeJson.usizeMax :=
  Nat.le_of_lt_succ (Nat.mod_lt _ (Nat.succ_pos _))

section
variable [Decoders] [SerdeJson]

/-- The packets with the numbers their rows have. -/
def Harness.numbered [Detectors] (h : Harness) (items : List MessageItem) :
    List (Nat × MessageItem) :=
  ((h.analyzeItems items).1.filterMap (·.packetNum)).zip items

/-- Packets counted from a number on. -/
def numberFrom (n : Nat) : List MessageItem → List (Nat × MessageItem)
  | [] => []
  | item :: items => (nextNum n, item) :: numberFrom (nextNum n) items

/-- The harness counts every message, whether it is decoded or not. -/
theorem Harness.numbered_eq [Detectors] (h : Harness) (items : List MessageItem) :
    h.numbered items = numberFrom h.packetNum items := by
  induction items generalizing h with
  | nil => rfl
  | cons item items ih =>
    obtain ⟨hrow, hnext⟩ := h.analyzeQmdlMessage_packetNum item
    have hrest := ih (h.analyzeQmdlMessage item).2
    rw [numbered, hnext] at hrest
    simp only [numbered, analyzeItems, numberFrom, List.filterMap_cons, hrow, List.zip_cons_cons,
      hrest]
    rfl

theorem le_of_mem_numberFrom {n : Nat} {items : List MessageItem} {packet : Nat × MessageItem}
    (h : packet ∈ numberFrom n items) : packet.1 ≤ SerdeJson.usizeMax := by
  induction items generalizing n with
  | nil => cases h
  | cons item items ih =>
    rcases List.mem_cons.1 h with rfl | h
    · exact nextNum_le n
    · exact ih h

/-- Every number up to that of the last packet is one of a packet's. -/
theorem exists_mem_numberFrom (items : List MessageItem) {n k : Nat} (hk : k < items.length)
    (hmax : n + k < SerdeJson.usizeMax) : ∃ item, (n + k + 1, item) ∈ numberFrom n items := by
  induction items generalizing n k with
  | nil => cases hk
  | cons item items ih =>
    rw [numberFrom, nextNum_of_lt (by omega)]
    cases k with
    | zero => exact ⟨item, List.mem_cons_self ..⟩
    | succ k =>
      obtain ⟨item', h⟩ := ih (n := n + 1) (k := k) (Nat.lt_of_succ_lt_succ hk) (by omega)
      refine ⟨item', List.mem_cons_of_mem _ ?_⟩
      rwa [Nat.add_right_comm n 1 k] at h

/-- As long as numbers do not start again, the first packets with a number from `start` on have
those that follow it. -/
theorem lt_of_mem_take {start n m : Nat} {items : List MessageItem} {packet : Nat × MessageItem}
    (hmax : max (n + 1) start + m ≤ SerdeJson.usizeMax + 1)
    (h : packet ∈ ((numberFrom n items).filter (start ≤ ·.1)).take m) :
    packet.1 < max (n + 1) start + m := by
  induction items generalizing n m with
  | nil => simp [numberFrom] at h
  | cons item items ih =>
    obtain _ | m := m
    · simp at h
    rw [numberFrom, nextNum_of_lt (by omega)] at h
    by_cases hbefore : n + 1 < start
    · rw [List.filter_cons_of_neg (by simpa using hbefore)] at h
      have := ih (by omega) h
      omega
    · rw [List.filter_cons_of_pos (by simpa using hbefore), List.take_succ_cons,
        List.mem_cons] at h
      rcases h with rfl | h
      · simp only
        omega
      · have := ih (by omega) h
        omega

/-- As long as numbers do not start again, the packets with a number from `start` on are all but
those before. -/
theorem length_later {start n : Nat} {items : List MessageItem}
    (hmax : n + items.length ≤ SerdeJson.usizeMax) :
    ((numberFrom n items).filter (start ≤ ·.1)).length = items.length - (start - 1 - n) := by
  induction items generalizing n with
  | nil => simp [numberFrom]
  | cons item items ih =>
    rw [List.length_cons] at hmax
    rw [numberFrom, nextNum_of_lt (by omega), List.length_cons]
    by_cases hbefore : n + 1 < start
    · rw [List.filter_cons_of_neg (by simpa using hbefore), ih (by omega)]
      omega
    · rw [List.filter_cons_of_pos (by simpa using hbefore), List.length_cons, ih (by omega)]
      omega

end

/-- The first elements, which all satisfy a predicate, are those that do where no more than them do.
-/
theorem take_eq_filter_iff {α : Type} {l : List α} {p : α → Bool} {n : Nat}
    (h : ∀ x ∈ l.take n, p x = true) : l.take n = l.filter p ↔ (l.filter p).length ≤ n := by
  constructor
  · intro heq
    rw [← heq]
    exact List.length_take_le n l
  · intro hlen
    have hcut : l.filter p = l.take n ++ (l.drop n).filter p := by
      conv_lhs => rw [← List.take_append_drop n l]
      rw [List.filter_append, List.filter_eq_self.2 h]
    have hrest : (l.drop n).filter p = [] := by
      rcases Nat.le_total n l.length with hn | hn
      · rw [hcut, List.length_append, List.length_take_of_le hn] at hlen
        exact List.eq_nil_of_length_eq_zero (by omega)
      · rw [List.drop_of_length_le hn, List.filter_nil]
    rw [hcut, hrest, List.append_nil]

section
variable [Decoders] [SerdeJson] [Explorer]

/-- The loop of `list_packets` (`packet_explorer.rs:539`). -/
def scan (start limit : Nat) (reader : QmdlMessageReader) (packetNum : Nat)
    (packets : List PacketSummary) : Except (Nat × String) PacketList :=
  match _h : reader.getNextMessage.1 with
  | .error e => .error (500, Explorer.debugIoError e)
  | .ok none => .ok ⟨packets, start, true⟩
  | .ok (some message) =>
    let packetNum := nextNum packetNum
    if packetNum < start then scan start limit reader.getNextMessage.2 packetNum packets
    else if limit ≤ packets.length then .ok ⟨packets, start, false⟩
    else scan start limit reader.getNextMessage.2 packetNum
      (packets ++ [summarize packetNum (Explorer.classify message)])
termination_by reader.data.length
decreasing_by all_goals exact QmdlMessageReader.getNextMessage_length ‹_›

/-- `list_packets` (`packet_explorer.rs:509`). -/
def listPackets [Gzip] (s : Storage) (recording : String) (raw : Option String)
    (fault : Option IoError) : Except (Nat × String) PacketList :=
  let query := ListQuery.parse raw
  match s.openRecording recording fault with
  | .error e => .error e
  | .ok reader => scan query.start query.count reader 0 []

/-! ## What the loop shows -/

/-- What is shown of a packet with its number. -/
def summary (packet : Nat × MessageItem) : PacketSummary :=
  summarize packet.1 (Explorer.classify packet.2)

/-- A message whose number is too low is passed over; one for which there is no room ends the list,
another is put at its end. -/
theorem scan_some {start limit : Nat} {reader : QmdlMessageReader} {n : Nat}
    {packets : List PacketSummary} {item : MessageItem}
    (h : reader.getNextMessage.1 = .ok (some item)) :
    scan start limit reader n packets =
      if nextNum n < start then scan start limit reader.getNextMessage.2 (nextNum n) packets
      else if limit ≤ packets.length then .ok ⟨packets, start, false⟩
      else scan start limit reader.getNextMessage.2 (nextNum n)
        (packets ++ [summary (nextNum n, item)]) := by
  rw [scan]
  split
  · simp_all
  · simp_all
  · next item' h' =>
    rw [h] at h'
    cases h'
    rfl

/-- The list made of the packets with a number from `start` on: those there is room for, and whether
that is all of them. -/
def listOf (start limit : Nat) (later : List (Nat × MessageItem)) (ending : Option IoError) :
    Except (Nat × String) PacketList :=
  if limit < later.length then .ok ⟨(later.take limit).map summary, start, false⟩
  else
    match ending with
    | some e => .error (500, Explorer.debugIoError e)
    | none => .ok ⟨later.map summary, start, true⟩

/-- **What the loop does**, having shown some packets so far. -/
theorem scan_eq (start limit : Nat) (reader : QmdlMessageReader) (n : Nat)
    (seen : List (Nat × MessageItem)) (hroom : seen.length ≤ limit) :
    scan start limit reader n (seen.map summary) =
      listOf start limit (seen ++ (numberFrom n reader.readAll.1).filter (start ≤ ·.1))
        reader.readAll.2 := by
  induction reader using QmdlMessageReader.readAll.induct generalizing n seen with
  | case1 reader e he =>
    have hread : reader.readAll = ([], some e) := by
      rw [QmdlMessageReader.readAll]
      split <;> simp_all
    rw [scan, hread]
    split
    · next e' he' =>
      rw [he] at he'
      cases he'
      simp [listOf, numberFrom, Nat.not_lt.2 hroom]
    · simp_all
    · simp_all
  | case2 reader hend =>
    rw [scan, QmdlMessageReader.readAll_of_none hend]
    split
    · simp_all
    · simp [listOf, numberFrom, Nat.not_lt.2 hroom]
    · simp_all
  | case3 reader item hitem ih =>
    rw [scan_some hitem, QmdlMessageReader.readAll_of_some hitem, numberFrom, List.length_map]
    by_cases hbefore : nextNum n < start
    · rw [if_pos hbefore, ih _ _ hroom, List.filter_cons_of_neg (by simpa using hbefore)]
    · rw [if_neg hbefore, List.filter_cons_of_pos (by simpa using hbefore)]
      by_cases hfull : limit ≤ seen.length
      · -- There is no room for this packet, which is the first one left out.
        obtain rfl : seen.length = limit := le_antisymm hroom hfull
        simp [listOf]
      · have hnext := ih (nextNum n) (seen ++ [(nextNum n, item)]) (by simp; omega)
        rw [List.map_append, List.append_assoc] at hnext
        rw [if_neg hfull]
        exact hnext

/-! ## The window -/

/-- The packets of a window. -/
def inWindow (start count : Nat) (packets : List (Nat × MessageItem)) : List (Nat × MessageItem) :=
  packets.filter fun p => start ≤ p.1 ∧ p.1 < start + count

/-- A list is the window asked for: the packets with its numbers, in their order, whether there are
later ones, and, around a packet, all those within the context. -/
structure IsWindow (q : ListQuery) (packets : List (Nat × MessageItem)) (list : PacketList) :
    Prop where
  first : list.firstPacketNum = q.start
  shown : list.packets = (inWindow q.start q.count packets).map summary
  reachedEnd : list.reachedEnd = false ↔ ∃ p ∈ packets, q.start + q.count ≤ p.1
  context : ∀ around ∈ q.around, ∀ p ∈ packets, 1 ≤ p.1 → around ≤ p.1 + q.accepted →
    p.1 ≤ around + q.accepted → summary p ∈ list.packets

/-- Whether the numbers of a window are carried by no more packets than there are, and the last
packet of a context as large as can be is not one that is there and left out. -/
structure Fits (q : ListQuery) (packets : List (Nat × MessageItem)) : Prop where
  once : (inWindow q.start q.count packets).length ≤ q.count
  last : ∀ around ∈ q.around, q.accepted = MAX_LIMIT / 2 → MAX_LIMIT / 2 < around →
    ∀ p ∈ packets, p.1 ≠ around + MAX_LIMIT / 2

/-! ## What the list is -/

omit [Explorer] in
/-- Every packet there is room for is of the window. -/
theorem lt_of_mem_room {q : ListQuery} {items : List MessageItem} {p : Nat × MessageItem}
    (h : p ∈ ((numberFrom 0 items).filter (q.start ≤ ·.1)).take q.count) :
    p.1 < q.start + q.count := by
  have hpos := q.start_pos
  rcases Nat.lt_or_ge SerdeJson.usizeMax (q.start + q.count) with hmax | hmax
  · exact (le_of_mem_numberFrom (List.mem_filter.1 (List.mem_of_mem_take h)).1).trans_lt hmax
  · have hlt := lt_of_mem_take (by omega) h
    omega

omit [Explorer] in
/-- Where there is room for every packet from `start` on, there is none beyond the window. -/
theorem lt_of_length_le {q : ListQuery} {items : List MessageItem} {p : Nat × MessageItem}
    (hroom : ((numberFrom 0 items).filter (q.start ≤ ·.1)).length ≤ q.count)
    (hp : p ∈ numberFrom 0 items) : p.1 < q.start + q.count := by
  by_contra hbeyond
  have hlater : p ∈ (numberFrom 0 items).filter (q.start ≤ ·.1) :=
    List.mem_filter.2 ⟨hp, by simp only [decide_eq_true_eq]; omega⟩
  rw [← List.take_of_length_le hroom] at hlater
  exact hbeyond (lt_of_mem_room hlater)

omit [SerdeJson] [Explorer] in
theorem inWindow_eq (start count : Nat) (packets : List (Nat × MessageItem)) :
    inWindow start count packets =
      (packets.filter (start ≤ ·.1)).filter (·.1 < start + count) := by
  simp [inWindow, List.filter_filter, Bool.and_comm]

/-- A list with the packets there is room for has those of the window, where no more than that are
of the window. -/
theorem room_eq_inWindow_iff {q : ListQuery} {items : List MessageItem} :
    (((numberFrom 0 items).filter (q.start ≤ ·.1)).take q.count).map summary =
        (inWindow q.start q.count (numberFrom 0 items)).map summary ↔
      (inWindow q.start q.count (numberFrom 0 items)).length ≤ q.count := by
  rw [inWindow_eq]
  have hroom := take_eq_filter_iff (p := (·.1 < q.start + q.count)) (n := q.count)
    (l := (numberFrom 0 items).filter (q.start ≤ ·.1)) fun p hp => by
      simpa using lt_of_mem_room hp
  refine ⟨fun h => ?_, fun h => congrArg _ (hroom.2 h)⟩
  have hlen := congrArg List.length h
  simp only [List.length_map] at hlen
  exact hlen ▸ List.length_take_le ..

omit [Explorer] in
/-- There is no room for a packet where there is one beyond the window. -/
theorem count_lt_length_iff {q : ListQuery} {items : List MessageItem}
    (honce : (inWindow q.start q.count (numberFrom 0 items)).length ≤ q.count) :
    q.count < ((numberFrom 0 items).filter (q.start ≤ ·.1)).length ↔
      ∃ p ∈ numberFrom 0 items, q.start + q.count ≤ p.1 := by
  constructor
  · intro hlen
    by_contra hnone
    push Not at hnone
    rw [inWindow_eq, List.filter_eq_self.2] at honce
    · omega
    · exact fun p hp => by simpa using hnone p (List.mem_filter.1 hp).1
  · rintro ⟨p, hp, hbeyond⟩
    by_contra hlen
    exact Nat.not_lt.2 hbeyond (lt_of_length_le (Nat.le_of_not_lt hlen) hp)

omit [SerdeJson] in
/-- The window around a packet has what is within the context, but for the last packet of the
largest one. -/
theorem context_iff {q : ListQuery} {packets : List (Nat × MessageItem)} :
    (∀ around ∈ q.around, ∀ p ∈ packets, 1 ≤ p.1 → around ≤ p.1 + q.accepted →
        p.1 ≤ around + q.accepted →
        summary p ∈ (inWindow q.start q.count packets).map summary) ↔
      ∀ around ∈ q.around, q.accepted = MAX_LIMIT / 2 → MAX_LIMIT / 2 < around →
        ∀ p ∈ packets, p.1 ≠ around + MAX_LIMIT / 2 := by
  have haccepted : q.accepted ≤ MAX_LIMIT / 2 := Nat.min_le_right ..
  refine forall₂_congr fun around haround => ?_
  obtain ⟨hstart, hcount⟩ := ListQuery.around_window haround
  have hmax : MAX_LIMIT = 500 := rfl
  constructor
  · intro h hlargest hfar p hp hnum
    have hmem := h p hp (by omega) (by omega) (by omega)
    obtain ⟨p', hp', hsame⟩ := List.mem_map.1 hmem
    have hnum' : p'.1 = p.1 := congrArg PacketSummary.packetNum hsame
    have hin := (List.mem_filter.1 hp').2
    simp only [decide_eq_true_eq] at hin
    omega
  · intro h p hp hpos hbefore hafter
    refine List.mem_map_of_mem (List.mem_filter.2 ⟨hp, ?_⟩)
    simp only [decide_eq_true_eq]
    by_cases hlargest : q.accepted = MAX_LIMIT / 2 ∧ MAX_LIMIT / 2 < around
    · have := h hlargest.1 hlargest.2 p hp
      omega
    · omega

omit [Explorer] in
/-- No number of a window is carried twice in a recording whose packets a `usize` can count. -/
theorem once_of_length_le {q : ListQuery} {items : List MessageItem}
    (h : items.length ≤ SerdeJson.usizeMax) :
    (inWindow q.start q.count (numberFrom 0 items)).length ≤ q.count := by
  have hsplit := List.length_eq_length_filter_add
    (l := (numberFrom 0 items).filter (q.start ≤ ·.1)) (·.1 < q.start + q.count)
  have hbeyond : (((numberFrom 0 items).filter (q.start ≤ ·.1)).filter
      fun p => !decide (p.1 < q.start + q.count)) =
        (numberFrom 0 items).filter (q.start + q.count ≤ ·.1) := by
    rw [List.filter_filter]
    refine List.filter_congr fun p _ => ?_
    simp only [← Bool.decide_and, ← decide_not, decide_eq_decide]
    omega
  rw [hbeyond, length_later (by omega), length_later (by omega), ← inWindow_eq] at hsplit
  omega

/-- What the loop makes of a recording is the window, where it is a list, just where the window
fits. -/
theorem isWindow_listOf_iff {q : ListQuery} {items : List MessageItem} {ending : Option IoError}
    {list : PacketList}
    (h : listOf q.start q.count ((numberFrom 0 items).filter (q.start ≤ ·.1)) ending = .ok list) :
    IsWindow q (numberFrom 0 items) list ↔ Fits q (numberFrom 0 items) := by
  have hlist : list.firstPacketNum = q.start ∧
      list.packets =
        (((numberFrom 0 items).filter (q.start ≤ ·.1)).take q.count).map summary ∧
      (list.reachedEnd = false ↔
        q.count < ((numberFrom 0 items).filter (q.start ≤ ·.1)).length) := by
    unfold listOf at h
    split at h
    · next hmore =>
      cases h
      exact ⟨rfl, rfl, iff_of_true rfl hmore⟩
    · next hall =>
      cases ending with
      | some e => cases h
      | none =>
        cases h
        rw [List.take_of_length_le (Nat.le_of_not_lt hall)]
        exact ⟨rfl, rfl, iff_of_false Bool.noConfusion hall⟩
  obtain ⟨hfirst, hshown, hend⟩ := hlist
  constructor
  · intro hw
    refine ⟨room_eq_inWindow_iff.1 (hshown ▸ hw.shown), context_iff.1 ?_⟩
    rw [← hw.shown]
    exact hw.context
  · intro hfits
    have hwindow := hshown.trans (room_eq_inWindow_iff.2 hfits.once)
    refine ⟨hfirst, hwindow, hend.trans (count_lt_length_iff hfits.once), ?_⟩
    rw [hwindow]
    exact context_iff.2 hfits.last

omit [Explorer] in
/-- Where reading fails before there is a list, the window fits all the same. -/
theorem fits_of_error {q : ListQuery} {items : List MessageItem}
    (h : ((numberFrom 0 items).filter (q.start ≤ ·.1)).length ≤ q.count) :
    Fits q (numberFrom 0 items) := by
  refine ⟨?_, fun around haround hlargest hfar p hp hnum => ?_⟩
  · rw [inWindow_eq]
    exact (List.length_filter_le ..).trans h
  · obtain ⟨hstart, hcount⟩ := ListQuery.around_window haround
    have hmax : MAX_LIMIT = 500 := rfl
    have hlt := lt_of_length_le h hp
    omega

/-- What `list_packets` answers for a recording whose packets and their numbers are these: the
window, or an error where reading ends in one and the packets that could be read are none beyond it.
-/
def IsAnswer (q : ListQuery) (packets : List (Nat × MessageItem)) (ending : Option IoError)
    (answer : Except (Nat × String) PacketList) : Prop :=
  match answer with
  | .ok list => IsWindow q packets list
  | .error _ => ending.isSome ∧ ∀ p ∈ packets, p.1 < q.start + q.count

theorem isAnswer_iff [Detectors] [Gzip] {config : AnalyzerConfig} {metadata : DeviceMetadata}
    {s : Storage} {recording : String} {raw : Option String} {fault : Option IoError}
    {reader : QmdlMessageReader} (hopen : s.openRecording recording fault = .ok reader) :
    IsAnswer (ListQuery.parse raw)
        ((Harness.newWithConfig config metadata).numbered reader.readAll.1) reader.readAll.2
        (listPackets s recording raw fault) ↔
      Fits (ListQuery.parse raw)
        ((Harness.newWithConfig config metadata).numbered reader.readAll.1) := by
  have hscan := scan_eq (ListQuery.parse raw).start (ListQuery.parse raw).count reader 0 []
    (Nat.zero_le _)
  have hnum : (Harness.newWithConfig config metadata).numbered reader.readAll.1 =
      numberFrom 0 reader.readAll.1 := Harness.numbered_eq ..
  rw [List.map_nil, List.nil_append] at hscan
  simp only [listPackets, hopen, hnum, IsAnswer, hscan]
  split
  · next list hlist => exact isWindow_listOf_iff hlist
  · next e he =>
    unfold listOf at he
    split at he
    · cases he
    · next hall =>
      have hroom := Nat.le_of_not_lt hall
      refine iff_of_true ⟨?_, fun p hp => lt_of_length_le hroom hp⟩ (fits_of_error hroom)
      cases hread : reader.readAll.2 with
      | some e => rfl
      | none => rw [hread] at he; cases he

/-- What `list_packets` answers for a recording that opens is the window of the packets of its
report. -/
def ListsWindow [Detectors] [Gzip] (config : AnalyzerConfig) (metadata : DeviceMetadata)
    (s : Storage) (recording : String) (raw : Option String) (fault : Option IoError) : Prop :=
  ∀ reader, s.openRecording recording fault = .ok reader →
    IsAnswer (ListQuery.parse raw)
      ((Harness.newWithConfig config metadata).numbered reader.readAll.1) reader.readAll.2
      (listPackets s recording raw fault)

/-- **The packet list is the window asked for** exactly where the window fits. -/
theorem listPackets_window_iff [Detectors] [Gzip] (config : AnalyzerConfig)
    (metadata : DeviceMetadata) (s : Storage) (recording : String) (raw : Option String)
    (fault : Option IoError) :
    ListsWindow config metadata s recording raw fault ↔
      ∀ reader, s.openRecording recording fault = .ok reader →
        Fits (ListQuery.parse raw)
          ((Harness.newWithConfig config metadata).numbered reader.readAll.1) :=
  forall₂_congr fun _ hopen => isAnswer_iff hopen

omit [Explorer] in
/-- The report made live has the numbers of the list where no frame goes on in a later message. -/
theorem numbered_liveItems [Detectors] [Gzip] (hg : Gzip.Lossless) (h : Harness)
    {containers : List MessagesContainer} (closed : Bool)
    (ha : Chunks.Aligned isTerminator (QmdlWriter.frames containers)) :
    h.numbered (liveItems containers) = h.numbered (QmdlMessageReader.new
      (Gzip.encode (QmdlWriter.recordOps containers) closed)).readAll.1 := by
  have hitems : (QmdlMessageReader.new
      (Gzip.encode (QmdlWriter.recordOps containers) closed)).readAll.1 = liveItems containers := by
    rw [QmdlMessageReader.readAll_encode hg, liveItems_eq]
    exact ((Chunks.splitInclusive_flatten_iff Message.fromHdlc _).2 ha).symm
  rw [hitems]

end

/-- The recording that opens is the one the analysis reads. -/
theorem Storage.openQmdl_of_openRecording [Gzip] [Decoders] [Explorer] {s : Storage} {name : String}
    {fault : Option IoError} {reader : QmdlMessageReader}
    (h : s.openRecording name fault = .ok reader) :
    ∃ i e, s.store.entryForName name = some (i, e) ∧ s.openQmdl e none = some reader := by
  unfold openRecording at h
  split at h
  · cases h
  · next i e he =>
    split at h
    · cases h
    · refine ⟨i, e, he, ?_⟩
      split at h
      · next path hopen =>
        obtain ⟨e', he', rfl, hex⟩ := openFile_found hopen
        cases h
        obtain ⟨content, hcontent⟩ := Option.isSome_iff_exists.1 hex
        rw [(RecordingStore.entryForName_eq_some he).2.1, Option.some.injEq] at he'
        subst he'
        simp only [openQmdl, files, hcontent, Option.map_some, Option.elim_some]
      · cases h
      · cases h
      · cases h

/-! ## The last packet of a context -/

/-- A packet explorer that tells a message the decoders take from one they do not. -/
@[reducible] def nasExplorer : @Explorer nasDecoders :=
  let _ := nasDecoders
  { classify
      | .ok (.log _ _ _ _ _ body) =>
        { timestamp := none, pci := none, earfcn := none, sfn := none, subfn := none
          protocol := "LTE NAS", channel := some "EMM", direction := some "downlink"
          messageType := none, payload := body, error := none }
      | .ok _ =>
        { timestamp := none, pci := none, earfcn := none, sfn := none, subfn := none
          protocol := "unknown", channel := none, direction := none
          messageType := none, payload := [], error := some "not a signalling message" }
      | .error e =>
        { timestamp := none, pci := none, earfcn := none, sfn := none, subfn := none
          protocol := "unknown", channel := none, direction := none
          messageType := none, payload := [], error := some (Harness.debugParsingError e) }
    debugStoreError := fun e => s!"{repr e}"
    debugIoError := fun e => s!"{repr e}" }

/-- A recording of 501 messages. -/
def messagesEntry : ManifestEntry :=
  { @ManifestEntry.new deviceBuild .disabled anInstant 0 with
    compressed := false, qmdlSizeBytes := 3507 }

/-- The file of a recording of so many messages, each a frame of seven bytes. -/
def messagesFile (n : Nat) : List UInt8 := framed (List.replicate n [1, 2, 3, 4])

/-- A store with that recording, closed. -/
def messagesStorage : Storage where
  store := ⟨defaultStorePath, ⟨[messagesEntry]⟩, none⟩
  device :=
    { disk := (Disk.mk fun _ => none).set (messagesEntry.getFilepath .qmdl defaultStorePath)
        (some (.bytes (messagesFile 501)))
      entrySequence := 1 }

/-- The messages of that file. -/
theorem readAll_messagesFile [Gzip] [Decoders] (n : Nat) :
    (QmdlMessageReader.new (messagesFile (n + 1))).readAll =
      ((List.replicate (n + 1) (hdlcEncapsulate [1, 2, 3, 4])).map Message.fromHdlc, none) := by
  have hnew : QmdlMessageReader.new (messagesFile (n + 1)) =
      ⟨false, messagesFile (n + 1), none⟩ := rfl
  rw [hnew, QmdlMessageReader.readAll_eq rfl, messagesFile, framed, Chunks.splitInclusive_frames
    (frame_of_mem _), List.map_replicate]

/-- A recording of at least 501 messages, and the context of packet 251, which has packet 501 in it.
-/
theorem listPackets_last_missed :
    let _ := storedGzip
    let _ := jsonText
    let _ := nasDecoders
    let _ := nullCipherDetectors
    let _ := nasExplorer
    ¬ ∀ (s : Storage) (recording : String) (raw : Option String) (fault : Option IoError),
      ListsWindow nullCipherConfig ⟨[]⟩ s recording raw fault := by
  let _ := storedGzip
  let _ := jsonText
  let _ := nasDecoders
  let _ := nullCipherDetectors
  let _ := nasExplorer
  intro _ _ _ _ _ h
  have hquery : ListQuery.parse (some "around=251&context=250") =
      { around := some 251, context := some 250 } := by decide +kernel
  have hopen : messagesStorage.openRecording "1724038434-0" none =
      .ok (QmdlMessageReader.new (messagesFile (500 + 1))) := rfl
  have hfits := (isAnswer_iff hopen).1
    (h messagesStorage "1724038434-0" (some "around=251&context=250") none _ hopen)
  rw [hquery, readAll_messagesFile, Harness.numbered_eq] at hfits
  obtain ⟨item, hitem⟩ := exists_mem_numberFrom
    ((List.replicate (500 + 1) (hdlcEncapsulate [1, 2, 3, 4])).map Message.fromHdlc) (n := 0)
    (k := 500) (by rw [List.length_map, List.length_replicate]; exact Nat.lt_succ_self 500)
    (by decide)
  exact hfits.last 251 rfl rfl (by decide) _ hitem rfl

end Rayhunter
