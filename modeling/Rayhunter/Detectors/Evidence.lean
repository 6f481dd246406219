import Rayhunter.Detectors.FlashCatch
import Rayhunter.Lib.Numbers

/-!
# What the events of a failing tower point at

An event of `FlashCatchAnalyzer` lists the packets it is about, and its text tells which
(`Evidence.event_inj`). They are packets of the right kind, in order and in the window. The text of
an event of high severity has the failures come after the identity request, and they do unless some
came before it: the two are kept apart and put together when the event is raised
(`truthful_iff_unmixed`).
-/

namespace Rayhunter

namespace FlashCatchAnalyzer

open Numbers

/-- The packets an event lists. -/
inductive Evidence
  | flashCatch (requestedAt : Nat) (forgedChallenges : List Nat)
  | forged (forgedChallenges : List Nat)
  | synch (synchFailures : List Nat)
  | checkIn (checkedInAt : Nat)

/-- The event that lists them. -/
def Evidence.event : Evidence → Event
  | flashCatch requestedAt forgedChallenges => flashCatchEvent requestedAt forgedChallenges
  | forged forgedChallenges => forgedEvent forgedChallenges
  | synch synchFailures => synchEvent synchFailures
  | checkIn checkedInAt => checkInEvent checkedInAt

theorem toString_string (s : String) : toString s = s := rfl

theorem flashCatchEvent_inj {r r' : Nat} {fs fs' : List Nat}
    (h : flashCatchEvent r fs = flashCatchEvent r' fs') : r = r' ∧ fs = fs' := by
  have hmessage := congrArg Event.message h
  simp only [flashCatchEvent, packetList, toString_string, String.append_assoc,
    String.append_right_inj] at hmessage
  obtain ⟨rfl, hcount⟩ := toString_append_inj (ends_append rfl (by decide))
    (ends_append rfl (by decide)) hmessage
  simp only [String.append_right_inj] at hcount
  obtain ⟨-, hlist⟩ := toString_append_inj (ends_append rfl (by decide))
    (ends_append rfl (by decide)) hcount
  simp only [String.append_right_inj] at hlist
  obtain ⟨rfl, -⟩ := intercalate_append_inj (closes_append rfl (by decide) (by decide))
    (closes_append rfl (by decide) (by decide)) hlist
  exact ⟨rfl, rfl⟩

theorem forgedEvent_inj {fs fs' : List Nat} (h : forgedEvent fs = forgedEvent fs') : fs = fs' := by
  have hmessage := congrArg Event.message h
  simp only [forgedEvent, packetList, toString_string, String.append_assoc,
    String.append_right_inj] at hmessage
  obtain ⟨-, hlist⟩ := toString_append_inj (ends_append rfl (by decide))
    (ends_append rfl (by decide)) hmessage
  simp only [String.append_right_inj] at hlist
  exact (intercalate_append_inj (closes_append rfl (by decide) (by decide))
    (closes_append rfl (by decide) (by decide)) hlist).1

theorem synchEvent_inj {fs fs' : List Nat} (h : synchEvent fs = synchEvent fs') : fs = fs' := by
  have hmessage := congrArg Event.message h
  simp only [synchEvent, packetList, toString_string, String.append_assoc,
    String.append_right_inj] at hmessage
  obtain ⟨-, hlist⟩ := toString_append_inj (ends_append rfl (by decide))
    (ends_append rfl (by decide)) hmessage
  simp only [String.append_right_inj] at hlist
  exact (intercalate_append_inj (closes_append rfl (by decide) (by decide))
    (closes_append rfl (by decide) (by decide)) hlist).1

theorem checkInEvent_inj {c c' : Nat} (h : checkInEvent c = checkInEvent c') : c = c' := by
  have hmessage := congrArg Event.message h
  simp only [checkInEvent, toString_string, String.append_assoc, String.append_right_inj]
    at hmessage
  exact (toString_append_inj (ends_append rfl (by decide)) (ends_append rfl (by decide))
    hmessage).1

/-- Forged challenges and failures of the sequence number are told apart by their texts. -/
theorem forgedEvent_ne_synchEvent (fs fs' : List Nat) : forgedEvent fs ≠ synchEvent fs' := by
  intro h
  have hmessage := congrArg (fun e => e.message.toList.take 14) h
  simp only [forgedEvent, synchEvent, toString_string, String.append_assoc, String.toList_append]
    at hmessage
  rw [List.take_append_of_le_length (by decide), List.take_append_of_le_length (by decide)]
    at hmessage
  exact absurd hmessage (by decide)

/-- The text of an event tells which packets it lists. -/
theorem Evidence.event_inj {ev ev' : Evidence} (h : ev.event = ev'.event) : ev = ev' := by
  have htype := congrArg Event.eventType h
  cases ev <;> cases ev' <;> first | cases htype; done | skip
  case flashCatch.flashCatch =>
    obtain ⟨rfl, rfl⟩ := flashCatchEvent_inj h
    rfl
  case forged.forged => rw [forgedEvent_inj h]
  case synch.synch => rw [synchEvent_inj h]
  case checkIn.checkIn => rw [checkInEvent_inj h]
  case forged.synch => exact absurd h (forgedEvent_ne_synchEvent _ _)
  case synch.forged => exact absurd h.symm (forgedEvent_ne_synchEvent _ _)

end FlashCatchAnalyzer

/-! ## What has been seen -/

namespace Arrival

/-- Whether a phone reports the sequence number out of step. -/
def isSynch (h : Arrival) : Bool :=
  match h.ie with
  | .lte (.nas (.emm (.authenticationFailure .synchFailure))) => true
  | _ => false

/-- Whether a phone checks in with a tower it has keys for. -/
def isCheckIn (h : Arrival) : Bool :=
  match h.ie with
  | .lte (.nas (.emm .trackingAreaUpdateRequest))
  | .lte (.nas (.emm .extServiceRequest))
  | .lte (.nas (.emm .cpServiceRequest)) => true
  | _ => false

end Arrival

namespace FlashCatchAnalyzer

/-- Packet `n` is a message of this kind. -/
def Seen (seen : List Arrival) (kind : Arrival → Bool) (n : Nat) : Prop :=
  ∃ m ∈ seen, kind m = true ∧ m.packetNum = n

/-- Packet `n` is a message of this kind in the window that ends now. -/
def Names (seen : List Arrival) (now : Nat) (kind : Arrival → Bool) (n : Nat) : Prop :=
  Seen seen kind n ∧ n ≤ now ∧ inWindow now n = true

/-- These packets are such messages, in order and without repeats. -/
def Lists (seen : List Arrival) (now : Nat) (kind : Arrival → Bool) (ns : List Nat) : Prop :=
  ns.Pairwise (· < ·) ∧ ∀ n ∈ ns, Names seen now kind n

/-- What an event lists is what its text says, in the messages seen up to now. -/
def Evidence.Truthful (seen : List Arrival) (now : Nat) : Evidence → Prop
  | flashCatch requestedAt forgedChallenges =>
    Names seen now Arrival.isImsiRequest requestedAt ∧
      Lists seen now Arrival.isForged forgedChallenges ∧ ∀ n ∈ forgedChallenges, requestedAt < n
  | forged forgedChallenges => Lists seen now Arrival.isForged forgedChallenges
  | synch synchFailures => Lists seen now Arrival.isSynch synchFailures
  | checkIn checkedInAt => Names seen now Arrival.isCheckIn checkedInAt

/-- The detector is at a forged challenge it will report after the request it remembers, with
another in the window that came no later than that request. -/
def Mixed (a : FlashCatchAnalyzer) (x : Arrival) : Prop :=
  x.isForged = true ∧ a.reported = false ∧
    ∃ r, a.imsiRequestedAt = some r ∧ inWindow x.packetNum r = true ∧
      ∃ f ∈ a.forgedChallenges, inWindow x.packetNum f = true ∧ f ≤ r

/-- A list of failures has those seen, in order. -/
def Kept (seen : List Arrival) (kind : Arrival → Bool) (ns : List Nat) : Prop :=
  ns.Pairwise (· < ·) ∧ ∀ n ∈ ns, Seen seen kind n

/-- What the detector remembers has been seen. -/
structure Remembers (seen : List Arrival) (a : FlashCatchAnalyzer) : Prop where
  requested : ∀ r ∈ a.imsiRequestedAt, Seen seen Arrival.isImsiRequest r
  checkedIn : ∀ c ∈ a.checkedInAt, Seen seen Arrival.isCheckIn c
  forged : Kept seen Arrival.isForged a.forgedChallenges
  synch : Kept seen Arrival.isSynch a.synchFailures

variable {seen : List Arrival} {kind : Arrival → Bool} {ns : List Nat} {x : Arrival}
  {a : FlashCatchAnalyzer}

theorem Seen.append (h : Seen seen kind n) : Seen (seen ++ [x]) kind n :=
  let ⟨m, hm, hkind⟩ := h
  ⟨m, List.mem_append_left _ hm, hkind⟩

theorem seen_last (h : kind x = true) : Seen (seen ++ [x]) kind x.packetNum :=
  ⟨x, by simp, h, rfl⟩

theorem kept_nil : Kept seen kind [] := ⟨.nil, nofun⟩

theorem Kept.append (h : Kept seen kind ns) : Kept (seen ++ [x]) kind ns :=
  ⟨h.1, fun n hn => (h.2 n hn).append⟩

theorem Kept.filter (h : Kept seen kind ns) (p : Nat → Bool) : Kept seen kind (ns.filter p) :=
  ⟨h.1.filter p, fun n hn => h.2 n (List.mem_of_mem_filter hn)⟩

/-- One more failure comes last. -/
theorem Kept.concat (h : Kept seen kind ns) (hlt : ∀ m ∈ seen, m.packetNum < x.packetNum)
    (hx : kind x = true) : Kept (seen ++ [x]) kind (ns ++ [x.packetNum]) := by
  refine ⟨List.pairwise_append.2 ⟨h.1, List.pairwise_singleton _ _, ?_⟩, ?_⟩
  · intro n hn k hk
    obtain ⟨m, hm, -, rfl⟩ := h.2 n hn
    rw [List.mem_singleton.1 hk]
    exact hlt m hm
  · intro n hn
    rcases List.mem_append.1 hn with hn | hn
    · exact (h.2 n hn).append
    · rw [List.mem_singleton.1 hn]
      exact seen_last hx

/-! ### One message -/

/-- What a message of each kind comes to. -/
theorem analyze_kinds (a : FlashCatchAnalyzer) (x : Arrival) :
    (x.isForged = true ∧ a.analyzeInformationElement x = a.onForgedChallenge x.packetNum) ∨
      (x.isForged = false ∧
        ((x.isSynch = true ∧ a.analyzeInformationElement x = a.onSynchFailure x.packetNum) ∨
        (x.isImsiRequest = true ∧ a.analyzeInformationElement x = a.onImsiRequest x.packetNum) ∨
        (x.isCheckIn = true ∧ a.analyzeInformationElement x = (none, onCheckIn x.packetNum)) ∨
        a.analyzeInformationElement x = (none, reset) ∨
        a.analyzeInformationElement x = (none, a))) := by
  obtain ⟨ie, n⟩ := x
  match ie with
  | .gsm | .umts | .fiveG | .lte (.ulCcch _) | .lte (.bcchDlSch _) | .lte .other
  | .lte (.nas .other) => exact .inr ⟨rfl, .inr (.inr (.inr (.inr rfl)))⟩
  | .lte (.nas (.emm m)) =>
    cases m with
    | trackingAreaUpdateRequest | extServiceRequest | cpServiceRequest =>
      exact .inr ⟨rfl, .inr (.inr (.inl ⟨rfl, rfl⟩))⟩
    | attachRequest | authenticationResponse | securityModeCommand | attachAccept
    | trackingAreaUpdateAccept | serviceAccept =>
      exact .inr ⟨rfl, .inr (.inr (.inr (.inl rfl)))⟩
    | identityRequest idType =>
      cases idType with
      | imsi => exact .inr ⟨rfl, .inr (.inl ⟨rfl, rfl⟩)⟩
      | other => exact .inr ⟨rfl, .inr (.inr (.inr (.inr rfl)))⟩
    | authenticationFailure cause =>
      cases cause with
      | macFailure | nonEpsAuthenticationUnacceptable => exact .inl ⟨rfl, rfl⟩
      | synchFailure => exact .inr ⟨rfl, .inl ⟨rfl, rfl⟩⟩
      | other => exact .inr ⟨rfl, .inr (.inr (.inr (.inr rfl)))⟩
    | _ => exact .inr ⟨rfl, .inr (.inr (.inr (.inr rfl)))⟩

/-- A forged challenge is noted after those left, and perhaps the run is marked as reported. -/
theorem onForgedChallenge_snd (a : FlashCatchAnalyzer) (n : Nat) :
    ∃ reported, (a.onForgedChallenge n).2 =
      { a.prune n with
        forgedChallenges := (a.prune n).forgedChallenges ++ [n]
        reported } := by
  unfold onForgedChallenge
  simp only
  split
  · exact ⟨_, rfl⟩
  · exact ⟨true, rfl⟩

/-- A failure of the sequence number likewise. -/
theorem onSynchFailure_snd (a : FlashCatchAnalyzer) (n : Nat) :
    ∃ reported, (a.onSynchFailure n).2 =
      { a.prune n with
        synchFailures := (a.prune n).synchFailures ++ [n]
        reported } := by
  unfold onSynchFailure
  simp only
  split
  · exact ⟨_, rfl⟩
  · exact ⟨true, rfl⟩

theorem remembers_new : Remembers seen new := ⟨nofun, nofun, kept_nil, kept_nil⟩

theorem Remembers.append (h : Remembers seen a) : Remembers (seen ++ [x]) a :=
  ⟨fun r hr => (h.requested r hr).append, fun c hc => (h.checkedIn c hc).append, h.forged.append,
    h.synch.append⟩

theorem Remembers.prune (h : Remembers seen a) (now : Nat) : Remembers seen (a.prune now) :=
  ⟨h.requested, h.checkedIn, h.forged.filter _, h.synch.filter _⟩

/-- What the detector remembers after a message has been seen by then. -/
theorem Remembers.analyze (h : Remembers seen a) (hlt : ∀ m ∈ seen, m.packetNum < x.packetNum) :
    Remembers (seen ++ [x]) (a.analyzeInformationElement x).2 := by
  have hleft := h.prune x.packetNum
  rcases a.analyze_kinds x with ⟨hx, heq⟩ | ⟨-, ⟨hx, heq⟩ | ⟨hx, heq⟩ | ⟨hx, heq⟩ | heq | heq⟩ <;>
    rw [heq]
  · obtain ⟨reported, hsnd⟩ := a.onForgedChallenge_snd x.packetNum
    rw [hsnd]
    exact { hleft.append with forged := hleft.forged.concat hlt hx }
  · obtain ⟨reported, hsnd⟩ := a.onSynchFailure_snd x.packetNum
    rw [hsnd]
    exact { hleft.append with synch := hleft.synch.concat hlt hx }
  · refine { h.append with requested := fun r hr => ?_ }
    cases hr
    exact seen_last hx
  · refine { remembers_new with checkedIn := fun c hc => ?_ }
    cases hc
    exact seen_last hx
  · exact remembers_new
  · exact h.append

/-- The detector remembers nothing it has not seen, whatever messages come. -/
theorem remembers_after {xs : List Arrival} (hnum : xs.Pairwise (·.packetNum < ·.packetNum)) :
    Remembers xs (Mealy.after analyzeInformationElement new xs) := by
  induction xs using List.reverseRecOn with
  | nil => exact remembers_new
  | append_singleton xs x ih =>
    obtain ⟨hxs, -, hlast⟩ := List.pairwise_append.1 hnum
    rw [Mealy.after_append, Mealy.after_cons, Mealy.after_nil]
    exact (ih hxs).analyze fun m hm => hlast m hm x (List.mem_singleton_self x)

/-! ### One event -/

/-- Those left in the window are listed with the failure that comes last. -/
theorem Kept.lists (h : Kept seen kind ns) (hlt : ∀ m ∈ seen, m.packetNum < x.packetNum)
    (hx : kind x = true) : Lists (seen ++ [x]) x.packetNum kind
      (ns.filter (inWindow x.packetNum) ++ [x.packetNum]) := by
  have hkept := (h.filter (inWindow x.packetNum)).concat hlt hx
  refine ⟨hkept.1, fun n hn => ⟨hkept.2 n hn, ?_⟩⟩
  rcases List.mem_append.1 hn with hn | hn
  · obtain ⟨hn, hwindow⟩ := List.mem_filter.1 hn
    obtain ⟨m, hm, -, rfl⟩ := h.2 n hn
    exact ⟨(hlt m hm).le, hwindow⟩
  · rw [List.mem_singleton.1 hn]
    exact ⟨le_rfl, by simp [inWindow]⟩

/-- A packet that has been seen and is in the window is named. -/
theorem Seen.names (h : Seen seen kind n) (hlt : ∀ m ∈ seen, m.packetNum < x.packetNum)
    (hwindow : inWindow x.packetNum n = true) : Names (seen ++ [x]) x.packetNum kind n := by
  obtain ⟨m, hm, -, rfl⟩ := id h
  exact ⟨h.append, (hlt m hm).le, hwindow⟩

/-- An event raised at a forged challenge. -/
theorem onForgedChallenge_event {e : Event} (h : (a.onForgedChallenge n).1 = some e) :
    (a.prune n).reported = false ∧
      e = match a.imsiRequestedAt.filter (inWindow n) with
        | some r => flashCatchEvent r (a.forgedChallenges.filter (inWindow n) ++ [n])
        | none => forgedEvent (a.forgedChallenges.filter (inWindow n) ++ [n]) := by
  unfold onForgedChallenge at h
  simp only at h
  split at h
  · cases h
  · next hrun =>
    refine ⟨by simpa using fun hr => hrun (.inl hr), ?_⟩
    cases h
    rfl

theorem onSynchFailure_event {e : Event} (h : (a.onSynchFailure n).1 = some e) :
    e = synchEvent (a.synchFailures.filter (inWindow n) ++ [n]) := by
  unfold onSynchFailure at h
  simp only at h
  split at h
  · cases h
  · cases h
    rfl

/-- What a forged challenge raises is truthful where none in the window came before the request. -/
theorem truthful_of_forged (h : Remembers seen a) (hlt : ∀ m ∈ seen, m.packetNum < x.packetNum)
    (hx : x.isForged = true) (hmixed : ¬ Mixed a x) {e : Event}
    (he : (a.onForgedChallenge x.packetNum).1 = some e) :
    ∃ ev : Evidence, ev.event = e ∧ ev.Truthful (seen ++ [x]) x.packetNum := by
  obtain ⟨hreported, rfl⟩ := onForgedChallenge_event he
  have hlists := h.forged.lists hlt hx
  cases hr : a.imsiRequestedAt.filter (inWindow x.packetNum) with
  | none => exact ⟨.forged _, rfl, hlists⟩
  | some r =>
    obtain ⟨hr, hwindow⟩ := Option.filter_eq_some_iff.1 hr
    have hseen := h.requested r hr
    refine ⟨.flashCatch r _, rfl, hseen.names hlt hwindow, hlists, fun f hf => ?_⟩
    rcases List.mem_append.1 hf with hf | hf
    · obtain ⟨hmem, hin⟩ := List.mem_filter.1 hf
      by_contra hle
      have hleft : (a.prune x.packetNum).forgedChallenges.isEmpty = false :=
        List.isEmpty_eq_false_iff.2 (List.ne_nil_of_mem hf)
      rw [prune_reported hleft] at hreported
      exact hmixed ⟨hx, hreported, r, hr, hwindow, f, hmem, hin, not_lt.1 hle⟩
    · obtain ⟨m, hm, -, rfl⟩ := hseen
      rw [List.mem_singleton.1 hf]
      exact hlt m hm

/-- A challenge rejected before the request is listed as if it had come after. -/
theorem event_of_mixed (h : Mixed a x) :
    ∃ r f fs, f ∈ fs ∧ f ≤ r ∧ (a.analyzeInformationElement x).1 = some (flashCatchEvent r fs) := by
  obtain ⟨hx, hreported, r, hr, hwindow, f, hf, hin, hle⟩ := h
  have hf' : f ∈ a.forgedChallenges.filter (inWindow x.packetNum) := List.mem_filter.2 ⟨hf, hin⟩
  refine ⟨r, f, a.forgedChallenges.filter (inWindow x.packetNum) ++ [x.packetNum],
    List.mem_append_left _ hf', hle, ?_⟩
  have hleft : (a.prune x.packetNum).reported = false := by
    rw [prune_reported (List.isEmpty_eq_false_iff.2 (List.ne_nil_of_mem hf')), hreported]
  have hlong : ¬ ((a.prune x.packetNum).forgedChallenges ++ [x.packetNum]).length <
      FORGED_CHALLENGES_TO_WARN := by
    have : 0 < (a.prune x.packetNum).forgedChallenges.length := List.length_pos_of_mem hf'
    simp only [List.length_append, List.length_singleton, FORGED_CHALLENGES_TO_WARN]
    omega
  have hasked : (a.prune x.packetNum).imsiRequestedAt.filter (inWindow x.packetNum) = some r :=
    Option.filter_eq_some_iff.2 ⟨hr, hwindow⟩
  rcases a.analyze_kinds x with ⟨-, heq⟩ | ⟨hnot, -⟩
  · rw [heq, onForgedChallenge]
    simp only [hleft, Bool.false_eq_true, false_or, if_neg hlong, hasked]
    rfl
  · rw [hx] at hnot
    cases hnot

/-- What a message raises is truthful exactly where it is not `Mixed`. -/
theorem truthful_iff (h : Remembers seen a) (hlt : ∀ m ∈ seen, m.packetNum < x.packetNum) :
    (∀ e, (a.analyzeInformationElement x).1 = some e →
      ∃ ev : Evidence, ev.event = e ∧ ev.Truthful (seen ++ [x]) x.packetNum) ↔ ¬ Mixed a x := by
  constructor
  · intro htruthful hmixed
    obtain ⟨r, f, fs, hf, hle, he⟩ := event_of_mixed hmixed
    obtain ⟨ev, hev, hev'⟩ := htruthful _ he
    obtain rfl : ev = .flashCatch r fs := Evidence.event_inj hev
    exact absurd (hev'.2.2 f hf) (not_lt.2 hle)
  · intro hmixed e he
    rcases a.analyze_kinds x with ⟨hx, heq⟩ | ⟨-, ⟨hx, heq⟩ | ⟨hx, heq⟩ | ⟨hx, heq⟩ | heq | heq⟩ <;>
      rw [heq] at he
    · exact truthful_of_forged h hlt hx hmixed he
    · exact ⟨.synch _, (onSynchFailure_event he).symm, h.synch.lists hlt hx⟩
    · obtain ⟨c, hc, rfl⟩ := Option.map_eq_some_iff.1 he
      obtain ⟨hc, hwindow⟩ := Option.filter_eq_some_iff.1 hc
      exact ⟨.checkIn c, rfl, (h.checkedIn c hc).names hlt hwindow⟩
    · cases he
    · cases he
    · cases he

/-- **Every event of a run is truthful exactly where no forged challenge is reported after a request
with another in the window that came before it**: what an event lists are then messages of the kinds
it says, in order and in the window that ends with it, and the failures of an event of high severity
come after the identity request it names. Numbers go up from message to message, as `Harness` gives
them. -/
theorem truthful_iff_unmixed (xs : List Arrival)
    (hnum : xs.Pairwise (·.packetNum < ·.packetNum)) :
    (∀ seen x later e, xs = seen ++ x :: later →
      ((Mealy.after analyzeInformationElement new seen).analyzeInformationElement x).1 = some e →
      ∃ ev : Evidence, ev.event = e ∧ ev.Truthful (seen ++ [x]) x.packetNum) ↔
    ∀ seen x later, xs = seen ++ x :: later →
      ¬ Mixed (Mealy.after analyzeInformationElement new seen) x := by
  have hstep : ∀ seen x later, xs = seen ++ x :: later →
      Remembers seen (Mealy.after analyzeInformationElement new seen) ∧
        ∀ m ∈ seen, m.packetNum < x.packetNum := by
    rintro seen x later rfl
    obtain ⟨hseen, -, hlast⟩ := List.pairwise_append.1 hnum
    exact ⟨remembers_after hseen, fun m hm => hlast m hm x List.mem_cons_self⟩
  constructor
  · intro htruthful seen x later hxs
    obtain ⟨hremembers, hlt⟩ := hstep seen x later hxs
    exact (truthful_iff hremembers hlt).1 fun e => htruthful seen x later e hxs
  · intro hunmixed seen x later e hxs
    obtain ⟨hremembers, hlt⟩ := hstep seen x later hxs
    exact (truthful_iff hremembers hlt).2 (hunmixed seen x later hxs) e

/-- An exchange as the detector's tests have it, with the request before both rejections. -/
theorem truthful_iff_unmixed_orderly :
    ∃ ev : Evidence, ev.event = flashCatchEvent 1 [2, 3] ∧
      ev.Truthful [asksImsi 1, rejection 2, rejection 3] 3 :=
  (truthful_iff_unmixed [asksImsi 1, rejection 2, rejection 3] (by decide)).2
    (fun seen x later h => by
      match seen, h with
      | [], h => cases h; exact fun hmixed => Bool.false_ne_true hmixed.1
      | [_], h => cases h; exact fun ⟨_, _, _, _, _, _, hf, _⟩ => List.not_mem_nil hf
      | [_, _], h =>
        cases h
        rintro ⟨-, -, r, hr, -, f, hf, -, hle⟩
        obtain rfl : 1 = r := Option.some.inj hr
        obtain rfl : f = 2 := List.mem_singleton.1 hf
        omega
      | _ :: _ :: _ :: _, h => simp at h)
    [asksImsi 1, rejection 2] (rejection 3) [] _ rfl rfl

/-- **A rejection from before the identity request is listed as one after it.** -/
theorem earlier_rejection_listed :
    ¬ ∀ (seen : List Arrival) (x : Arrival) (e : Event),
      (seen ++ [x]).Pairwise (·.packetNum < ·.packetNum) →
      ((Mealy.after analyzeInformationElement new seen).analyzeInformationElement x).1 = some e →
      ∃ ev : Evidence, ev.event = e ∧ ev.Truthful (seen ++ [x]) x.packetNum := by
  intro h
  obtain ⟨ev, hev, hev'⟩ := h [rejection 1, asksImsi 2] (rejection 3) (flashCatchEvent 2 [1, 3])
    (by decide) rfl
  obtain rfl : ev = .flashCatch 2 [1, 3] := Evidence.event_inj hev
  exact absurd (hev'.2.2 1 (by decide)) (by decide)

end FlashCatchAnalyzer

end Rayhunter
