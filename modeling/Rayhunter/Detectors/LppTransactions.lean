import Rayhunter.Detectors.Lpp

/-!
# The transactions a detector has warned about

`LppLocationTrackingAnalyzer` holds the transactions that have moved location information. After any
messages it holds those that one of them warned about and none since has freed (`held_iff_since`).
What warns is a request of either kind and a report (`LppDetail.warns`), so a transaction that is
held for a one-off request does not warn again when it goes on to ask for reports until it is
stopped (`periodic_medium_iff`). What frees is only a location message that ends its transaction
(`LppDetail.frees`): the other kinds are left before the transaction is dropped, `Abort` and `Error`
among them (`ended_iff`).
-/

namespace Rayhunter

/-! ## Messages on a transaction -/

/-- Whether a message is one a transaction warns about the first time. -/
def LppDetail.warns (d : LppDetail) : Direction → Bool
  | .downlink =>
    match d.kind with
    | .request .. => true
    | .response .. | .other => false
  | .uplink =>
    match d.kind with
    | .response methods providedEstimate declined =>
      !(declined && !providedEstimate && !methods.any)
    | .request .. | .other => false

theorem LppDetail.warns_other {d : LppDetail} (h : d.kind = .other) (direction : Direction) :
    d.warns direction = false := by
  cases direction <;> simp [LppDetail.warns, h]

/-- Whether a message drops its transaction. -/
def LppDetail.frees (d : LppDetail) : Bool := d.kind != .other && d.summary.endTransaction

/-- What ends a transaction: the message says so, or it is an abort or an error. -/
def LppDetail.Ends (d : LppDetail) : Prop :=
  d.summary.endTransaction = true ∨ d.summary.body = .abort ∨ d.summary.body = .error

instance (d : LppDetail) : Decidable d.Ends := inferInstanceAs (Decidable (_ ∨ _))

namespace Arrival

/-- A message on a transaction. -/
def On (t : LppTransaction) (x : Arrival) : Prop :=
  ∃ d direction, x.lppDetail = some (d, direction) ∧ d.summary.transaction = some t

/-- A message on a transaction that warns about it. -/
def Warns (t : LppTransaction) (x : Arrival) : Prop :=
  ∃ d direction, x.lppDetail = some (d, direction) ∧ d.summary.transaction = some t ∧
    d.warns direction = true

/-- A message on a transaction that drops it. -/
def Frees (t : LppTransaction) (x : Arrival) : Prop :=
  ∃ d direction, x.lppDetail = some (d, direction) ∧ d.summary.transaction = some t ∧
    d.frees = true

/-- A location request down to the phone. -/
def Requests (t : LppTransaction) (x : Arrival) : Prop :=
  ∃ d, x.lppDetail = some (d, .downlink) ∧ d.summary.transaction = some t ∧
    ∃ methods periodic infoType, d.kind = .request methods periodic infoType

section
variable {x : Arrival} {d : LppDetail} {direction : Direction} {t : LppTransaction}

theorem on_iff (h : x.lppDetail = some (d, direction)) :
    x.On t ↔ d.summary.transaction = some t := by
  simp [On, h]

theorem warns_iff_detail (h : x.lppDetail = some (d, direction)) :
    x.Warns t ↔ d.summary.transaction = some t ∧ d.warns direction = true := by
  simp [Warns, h]

theorem frees_iff (h : x.lppDetail = some (d, direction)) :
    x.Frees t ↔ d.summary.transaction = some t ∧ d.frees = true := by
  simp [Frees, h]

theorem lppDetail_kind (h : x.lppDetail = some (d, direction)) (hk : d.kind ≠ .other) :
    d.summary.body = .requestLocationInformation ∨
      d.summary.body = .provideLocationInformation := by
  obtain ⟨⟨container, direction'⟩, -, hd⟩ := Option.bind_eq_some_iff.1 h
  obtain ⟨d', hd', heq⟩ := Option.map_eq_some_iff.1 hd
  cases heq
  exact decodeLppDetail_kind hd' hk

end

end Arrival

/-! ## Warning once -/

variable {held : Finset LppTransaction} {transaction : Option LppTransaction} {severity : EventType}
  {firstMessage repeatMessage : String}

theorem warnOnce_eventType :
    (warnOnce held transaction severity firstMessage repeatMessage).1.eventType =
      if ∃ t ∈ transaction, t ∈ held then .informational else severity := by
  cases transaction with
  | none => simp [warnOnce]
  | some t =>
    by_cases h : t ∈ held
    · simp [warnOnce, h]
    · simp [warnOnce, h]

theorem mem_warnOnce {t : LppTransaction} :
    t ∈ (warnOnce held transaction severity firstMessage repeatMessage).2 ↔
      t ∈ held ∨ transaction = some t := by
  cases transaction with
  | none => simp [warnOnce]
  | some u =>
    by_cases h : u ∈ held
    · simp only [warnOnce, if_pos h, Option.some.injEq]
      exact ⟨.inl, fun hor => hor.elim id fun heq => heq ▸ h⟩
    · simp [warnOnce, h, or_comm, eq_comm]

/-- What is said depends on whether the transaction is held alone. -/
theorem warnOnce_congr {held' : Finset LppTransaction}
    (h : ∀ t, transaction = some t → (t ∈ held ↔ t ∈ held')) :
    (warnOnce held transaction severity firstMessage repeatMessage).1 =
      (warnOnce held' transaction severity firstMessage repeatMessage).1 := by
  cases transaction with
  | none => rfl
  | some t =>
    by_cases ht : t ∈ held
    · simp [warnOnce, ht, (h t rfl).1 ht]
    · simp [warnOnce, ht, mt (h t rfl).2 ht]

theorem mem_forget {t : LppTransaction} :
    t ∈ forget held transaction ↔ t ∈ held ∧ transaction ≠ some t := by
  cases transaction with
  | none => simp [forget]
  | some u => simp [forget, and_comm, eq_comm]

/-- The detector of location requests drops a transaction at its end and where it is aborted. -/
theorem LppLocationRequestAnalyzer.not_held (a : LppLocationRequestAnalyzer) {summary : LppSummary}
    {t : LppTransaction} (ht : summary.transaction = some t)
    (h : summary.endTransaction ∨ summary.body = .abort) (direction : Direction) :
    t ∉ (a.eventFor summary direction).2.warnedTransactions := by
  unfold eventFor
  simp only [if_pos h]
  rw [mem_forget]
  exact fun hmem => hmem.2 ht

namespace LppLocationTrackingAnalyzer

variable {a : LppLocationTrackingAnalyzer} {d : LppDetail} {direction : Direction}
  {t : LppTransaction}

/-! ## One message -/

theorem mem_escalatingEvent {severity : EventType} {firstMessage repeatMessage : String} :
    t ∈ (a.escalatingEvent d severity firstMessage repeatMessage).2.warnedTransactions ↔
      t ∈ a.warnedTransactions ∨ d.summary.transaction = some t :=
  mem_warnOnce

/-- What a message comes to, whatever is held: nothing, a warning the first time, or something that
is always said. -/
theorem report_cases (d : LppDetail) (direction : Direction) :
    (d.kind = .other ∧ ∀ a : LppLocationTrackingAnalyzer, a.report d direction = none) ∨
      (d.kind ≠ .other ∧ d.warns direction = true ∧ ∃ severity firstMessage repeatMessage,
        ∀ a : LppLocationTrackingAnalyzer, a.report d direction =
          some (a.escalatingEvent d severity firstMessage repeatMessage)) ∨
      (d.kind ≠ .other ∧ d.warns direction = false ∧ ∃ event,
        ∀ a : LppLocationTrackingAnalyzer, a.report d direction = some (event, a)) := by
  obtain ⟨summary, kind⟩ := d
  cases kind with
  | other => exact .inl ⟨rfl, fun a => by cases direction <;> rfl⟩
  | request methods periodic infoType =>
    cases direction with
    | downlink => cases periodic <;> exact .inr (.inl ⟨nofun, rfl, _, _, _, fun a => rfl⟩)
    | uplink => exact .inr (.inr ⟨nofun, rfl, _, fun a => rfl⟩)
  | response methods providedEstimate declined =>
    cases direction with
    | downlink => exact .inr (.inr ⟨nofun, rfl, _, fun a => rfl⟩)
    | uplink =>
      cases hd : declined && !providedEstimate && !methods.any with
      | true =>
        refine .inr (.inr ⟨nofun, by simp [LppDetail.warns, hd],
          ⟨.informational, "This device declined the network's LPP location request" ++
            transactionNote summary.transaction⟩, fun a => ?_⟩)
        simp only [report, hd, if_true]
      | false =>
        refine .inr (.inl ⟨nofun, by simp [LppDetail.warns, hd], .low,
          "This device reported its position to the network via " ++
            (if methods.any then methods.describe else "an estimate") ++
            transactionNote summary.transaction,
          "This device sent another LPP location report" ++ transactionNote summary.transaction,
          fun a => ?_⟩)
        simp only [report, hd, Bool.false_eq_true, if_false]

/-- What is said to a message is what it comes to, whether or not it drops its transaction. -/
theorem eventFor_fst (a : LppLocationTrackingAnalyzer) (d : LppDetail) (direction : Direction) :
    (a.eventFor d direction).1 = (a.report d direction).map (·.1) := by
  unfold eventFor
  cases a.report d direction with
  | none => rfl
  | some p => simp only; split <;> rfl

/-- A location message drops its transaction where it ends it. -/
theorem mem_eventFor {x : Arrival} {event : Event} {a' : LppLocationTrackingAnalyzer}
    (hx : x.lppDetail = some (d, direction)) (hk : d.kind ≠ .other)
    (h : a.report d direction = some (event, a')) :
    t ∈ (a.eventFor d direction).2.warnedTransactions ↔
      t ∈ a'.warnedTransactions ∧ ¬ (d.summary.transaction = some t ∧ d.frees = true) := by
  have habort : d.summary.body ≠ .abort := by
    rcases Arrival.lppDetail_kind hx hk with hb | hb <;> rw [hb] <;> exact nofun
  have hfrees : d.frees = d.summary.endTransaction := by simp [LppDetail.frees, hk]
  simp only [eventFor, h, hfrees, habort, or_false]
  cases d.summary.endTransaction with
  | true => simp [mem_forget]
  | false => simp

/-- What is held after a message: what was, or what it warns about, but nothing it frees. -/
theorem mem_analyze (t : LppTransaction) (a : LppLocationTrackingAnalyzer) (x : Arrival) :
    t ∈ (a.analyzeInformationElement x).2.warnedTransactions ↔
      (t ∈ a.warnedTransactions ∨ x.Warns t) ∧ ¬ x.Frees t := by
  unfold analyzeInformationElement
  cases hx : x.lppDetail with
  | none => simp [Arrival.Warns, Arrival.Frees, hx]
  | some p =>
    obtain ⟨d, direction⟩ := p
    rw [Arrival.warns_iff_detail hx, Arrival.frees_iff hx]
    simp only
    rcases report_cases d direction with ⟨hk, h⟩ | ⟨hk, hw, severity, m, m', h⟩ | ⟨hk, hw, event, h⟩
    · -- nothing is said, and so nothing is dropped
      simp [eventFor, h, LppDetail.warns_other hk, LppDetail.frees, hk]
    · have hreport : a.report d direction = some ((a.escalatingEvent d severity m m').1,
          (a.escalatingEvent d severity m m').2) := h a
      rw [mem_eventFor hx hk hreport, mem_escalatingEvent, hw]
      simp
    · rw [mem_eventFor hx hk (h a), hw]
      simp

/-- **What is held after any messages**: the transactions one of them has warned about and none
since has freed. -/
theorem held_iff_since (t : LppTransaction) (xs : List Arrival) :
    t ∈ (Mealy.after analyzeInformationElement new xs).warnedTransactions ↔
      Mealy.Since (Arrival.Warns t) (Arrival.Frees t) xs :=
  Mealy.after_iff_since (P := fun a : LppLocationTrackingAnalyzer => t ∈ a.warnedTransactions) (mem_analyze t)
    (Finset.notMem_empty t) xs

/-! ## Some messages -/

/-- A message down to the phone. -/
def down (container : List UInt8) : Arrival :=
  ⟨(EmmMessage.dlGenericNasTransport .lppMessageContainer container).element, 0⟩

/-- What is read of a message on transaction 5. -/
def onFifth (endTransaction : Bool) (body : LppBody) (kind : LppDetailKind) : LppDetail :=
  ⟨⟨some (.locationServer, 5), endTransaction, body⟩, kind⟩

/-- A request for the location that names no method. -/
def request (periodic : Bool) : LppDetailKind :=
  .request ⟨false, false, false, false⟩ periodic .estimateRequired

/-- A request of transaction 5 for the location, once. -/
def oneOff : Arrival := down [0x90, 0x0a, 0x20, 0x40, 0x00, 0x00]

theorem oneOff_detail : oneOff.lppDetail =
    some (onFifth false .requestLocationInformation (request false), .downlink) := by
  decide +kernel

/-- The same, with which the transaction ends. -/
def oneOffEnding : Arrival := down [0x90, 0x0b, 0x20, 0x40, 0x00, 0x00]

theorem oneOffEnding_detail : oneOffEnding.lppDetail =
    some (onFifth true .requestLocationInformation (request false), .downlink) := by
  decide +kernel

/-- A request of transaction 5 for reports until they are stopped. -/
def untilStopped : Arrival := down [0x90, 0x0a, 0x20, 0x40, 0x80, 0x18]

theorem untilStopped_detail : untilStopped.lppDetail =
    some (onFifth false .requestLocationInformation (request true), .downlink) := by
  decide +kernel

/-- Transaction 5 is aborted. -/
def aborted : Arrival := down [0x90, 0x0b, 0x30, 0x00]

theorem aborted_detail : aborted.lppDetail = some (onFifth true .abort .other, .downlink) := by
  decide +kernel

/-! ## Asked for reports until they are stopped -/

/-- **A request for continuous reports warns with medium severity**, whatever messages came before,
unless its transaction has been warned about, for whatever reason, and not freed since. -/
theorem periodic_medium_iff (xs : List Arrival) {x : Arrival} {d : LppDetail} {methods : Methods}
    {infoType : LocInfoType} (hx : x.lppDetail = some (d, .downlink))
    (hk : d.kind = .request methods true infoType) :
    ((Mealy.after analyzeInformationElement new xs).analyzeInformationElement x).1.map
        (·.eventType) = some .medium ↔
      ∀ t, d.summary.transaction = some t →
        ¬ Mealy.Since (Arrival.Warns t) (Arrival.Frees t) xs := by
  simp only [← held_iff_since]
  generalize Mealy.after analyzeInformationElement new xs = a
  obtain ⟨m, m', hreport⟩ : ∃ m m', a.report d .downlink =
      some (a.escalatingEvent d .medium m m') := by
    unfold report
    rw [hk]
    exact ⟨_, _, rfl⟩
  have hanswer : ((a.analyzeInformationElement x).1.map (·.eventType)) =
      some (if ∃ t ∈ d.summary.transaction, t ∈ a.warnedTransactions then .informational
        else .medium) := by
    unfold analyzeInformationElement
    rw [hx]
    simp only [eventFor_fst, hreport, Option.map_some]
    exact congrArg some warnOnce_eventType
  rw [hanswer]
  simp

/-- A one-off request that ends its transaction leaves room for a warning about the next. -/
theorem periodic_medium_iff_freed :
    ((Mealy.after analyzeInformationElement new [oneOffEnding]).analyzeInformationElement
      untilStopped).1.map (·.eventType) = some .medium := by
  refine (periodic_medium_iff [oneOffEnding] untilStopped_detail rfl).2 fun t ht => ?_
  obtain rfl : t = (.locationServer, 5) := (Option.some.inj ht).symm
  exact mt (held_iff_since _ _).2 (by decide +kernel)

/-- One that does not leaves none: the first request for continuous reports is called a repetition. -/
theorem periodic_after_one_off :
    ¬ ∀ (xs : List Arrival) (x : Arrival) (d : LppDetail) (methods : Methods)
      (infoType : LocInfoType), x.lppDetail = some (d, .downlink) →
      d.kind = .request methods true infoType →
      (∀ y ∈ xs, ∀ d' methods' infoType', y.lppDetail = some (d', .downlink) →
        d'.kind ≠ .request methods' true infoType') →
      ((Mealy.after analyzeInformationElement new xs).analyzeInformationElement x).1.map
        (·.eventType) = some .medium := by
  intro h
  have hfirst : ∀ y ∈ [oneOff], ∀ d' methods' infoType', y.lppDetail = some (d', .downlink) →
      d'.kind ≠ .request methods' true infoType' := by
    intro y hy d' methods' infoType' hd hk
    rw [List.mem_singleton.1 hy, oneOff_detail] at hd
    cases hd
    cases hk
  exact absurd (h [oneOff] untilStopped _ _ _ untilStopped_detail rfl hfirst) (by decide +kernel)

/-! ## Ended -/

/-- What is said to a message depends on whether its transaction is held alone. -/
theorem analyze_congr {b : LppLocationTrackingAnalyzer} {x : Arrival}
    (h : ∀ t, x.On t → (t ∈ a.warnedTransactions ↔ t ∈ b.warnedTransactions)) :
    (a.analyzeInformationElement x).1 = (b.analyzeInformationElement x).1 := by
  unfold analyzeInformationElement
  cases hx : x.lppDetail with
  | none => rfl
  | some p =>
    obtain ⟨d, direction⟩ := p
    simp only [Arrival.on_iff hx] at h
    simp only [eventFor_fst]
    rcases report_cases d direction with ⟨-, heq⟩ | ⟨-, -, severity, m, m', heq⟩ | ⟨-, -, event, heq⟩
    · rw [heq, heq]
    · rw [heq, heq]
      exact congrArg some (warnOnce_congr h)
    · rw [heq, heq]
      rfl

/-- **After a message that ends its transaction the detector is as it was before the first one on
it**: it does not hold the transaction, and a location request on it is answered as by a new detector,
whatever is said on other transactions before. That is so exactly where the message is one about a
location, or the transaction was not held in the first place. -/
theorem ended_iff (xs : List Arrival) {x : Arrival} {d : LppDetail} {direction : Direction}
    {t : LppTransaction} (hx : x.lppDetail = some (d, direction))
    (ht : d.summary.transaction = some t) (hends : d.Ends) :
    (t ∉ (Mealy.after analyzeInformationElement new (xs ++ [x])).warnedTransactions ∧
      ∀ others next, (∀ y ∈ others, ¬ Arrival.On t y) → Arrival.Requests t next →
        ((Mealy.after analyzeInformationElement new (xs ++ x :: others)).analyzeInformationElement
          next).1 = (new.analyzeInformationElement next).1) ↔
      d.kind ≠ .other ∨ ¬ Mealy.Since (Arrival.Warns t) (Arrival.Frees t) xs := by
  have hheld : t ∈ (Mealy.after analyzeInformationElement new (xs ++ [x])).warnedTransactions ↔
      d.kind = .other ∧ Mealy.Since (Arrival.Warns t) (Arrival.Frees t) xs := by
    rw [held_iff_since, Mealy.since_concat, Arrival.warns_iff_detail hx, Arrival.frees_iff hx]
    by_cases hk : d.kind = .other
    · simp [LppDetail.warns_other hk, LppDetail.frees, hk]
    · have hend : d.summary.endTransaction = true := by
        rcases Arrival.lppDetail_kind hx hk with hb | hb <;> simpa [LppDetail.Ends, hb] using hends
      simp [LppDetail.frees, hk, ht, hend]
  constructor
  · rintro ⟨hnot, -⟩
    rw [hheld, not_and_or] at hnot
    exact hnot
  · intro hcond
    have hnot := mt hheld.1 (not_and_or.2 hcond)
    refine ⟨hnot, fun others next hothers hnext => analyze_congr fun u hu => ?_⟩
    -- the request is on no other transaction than the one that has ended
    obtain ⟨d', hd', ht', -⟩ := hnext
    obtain rfl : t = u := Option.some.inj (ht'.symm.trans ((Arrival.on_iff hd').1 hu))
    refine iff_of_false ?_ (Finset.notMem_empty t)
    rw [← List.singleton_append, ← List.append_assoc, Mealy.after_append]
    refine Mealy.after_invariant (P := fun a : LppLocationTrackingAnalyzer =>
      t ∉ a.warnedTransactions) (fun a y hy ha => ?_) hnot
    rw [mem_analyze]
    rintro ⟨hor | ⟨d, direction, hy', hyt, -⟩, -⟩
    · exact ha hor
    · exact hothers y hy ⟨d, direction, hy', hyt⟩

/-- A one-off request is followed by another that ends the transaction. -/
theorem ended_iff_one_off :
    (Initiator.locationServer, 5) ∉
        (Mealy.after analyzeInformationElement new ([oneOff] ++ [oneOffEnding])).warnedTransactions ∧
      ∀ others next, (∀ y ∈ others, ¬ Arrival.On (.locationServer, 5) y) →
        Arrival.Requests (.locationServer, 5) next →
        ((Mealy.after analyzeInformationElement new
          ([oneOff] ++ oneOffEnding :: others)).analyzeInformationElement next).1 =
          (new.analyzeInformationElement next).1 :=
  (ended_iff [oneOff] oneOffEnding_detail rfl (.inl rfl)).2 (.inl nofun)

/-- It is aborted instead, and is still held. -/
theorem aborted_still_held :
    ¬ ∀ (xs : List Arrival) (x : Arrival) (d : LppDetail) (direction : Direction)
      (t : LppTransaction), x.lppDetail = some (d, direction) → d.summary.transaction = some t →
      d.Ends →
      t ∉ (Mealy.after analyzeInformationElement new (xs ++ [x])).warnedTransactions ∧
        ∀ others next, (∀ y ∈ others, ¬ Arrival.On t y) → Arrival.Requests t next →
          ((Mealy.after analyzeInformationElement new (xs ++ x :: others)).analyzeInformationElement
            next).1 = (new.analyzeInformationElement next).1 :=
  fun h => absurd (h [oneOff] aborted _ _ _ aborted_detail rfl (.inl rfl)).1 (by decide +kernel)

end LppLocationTrackingAnalyzer

end Rayhunter
