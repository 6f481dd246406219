import Mathlib.Data.List.Basic
import Mathlib.Data.List.Nodup
import Mathlib.Logic.Function.Basic

/-!
# Tasks, locks and channels

Tasks that run programs of lock and channel operations side by side. A lock is held by readers or by
one writer and is fair: who asks for it while others wait, or where it is not to be had, waits
behind them, whatever they ask for. A channel has room for so many messages, and who sends to one
that is full waits in a line of its own until a message has been taken. A task stays at the
operation it is at until that has gone through.
-/

namespace Sync

variable {τ L C μ : Type*}

/-! ## Locks and channels -/

/-- How a lock is held. -/
inductive Mode
  | read
  | write
  deriving DecidableEq, Repr

/-- A lock: who holds it, and who waits for it, the first first. -/
structure Lock (τ : Type*) where
  held : List (τ × Mode) := []
  queue : List (τ × Mode) := []

/-- Whether a lock can be had by one more. -/
def admits (held : List (τ × Mode)) : Mode → Bool
  | .read => held.all (·.2 = .read)
  | .write => held.isEmpty

/-- A writer holds a lock alone. -/
def Exclusive (held : List (τ × Mode)) : Prop := ∀ g ∈ held, g.2 = .write → held = [g]

/-- It does when one more has the lock that could have it. -/
theorem Exclusive.append {held : List (τ × Mode)} (h : Exclusive held) {g : τ × Mode}
    (hg : admits held g.2 = true) : Exclusive (held ++ [g]) := by
  intro g' hg' hw
  obtain ⟨t, m⟩ := g
  cases m with
  | read =>
    exfalso
    rcases List.mem_append.1 hg' with hmem | hmem
    · have hread := List.all_eq_true.1 hg g' hmem
      rw [hw] at hread
      simp at hread
    · rw [List.mem_singleton.1 hmem] at hw
      cases hw
  | write =>
    obtain rfl : held = [] := List.isEmpty_iff.1 hg
    rw [List.nil_append, List.mem_singleton] at hg'
    rw [hg', List.nil_append]

/-- And when fewer do. -/
theorem Exclusive.sublist {held held' : List (τ × Mode)} (h : Exclusive held)
    (hs : held'.Sublist held) : Exclusive held' := by
  intro g hg hw
  have hall := h g (hs.subset hg) hw
  rw [hall] at hs
  rcases List.sublist_singleton.1 hs with rfl | rfl
  · cases hg
  · rfl

/-- A channel: the messages in it, who waits to send what, and whether its receiver is gone. -/
structure Channel (τ μ : Type*) where
  messages : List μ := []
  senders : List (τ × μ) := []
  closed : Bool := false

/-! ## Programs -/

/-- An operation of a task. Closing a channel is its receiver going away. -/
inductive Op (L C μ : Type*)
  | acquire (l : L) (m : Mode)
  | release (l : L) (m : Mode)
  | send (c : C) (message : μ)
  | close (c : C)
  deriving DecidableEq

/-- An operation that takes a lock. -/
def Op.IsAcquire : Op L C μ → Prop
  | .acquire _ _ => True
  | .release _ _ | .send _ _ | .close _ => False

/-- The locks, the channels, and what each task has still to do. -/
structure Machine (τ L C μ : Type*) where
  lock : L → Lock τ
  chan : C → Channel τ μ
  todo : τ → List (Op L C μ)

namespace Machine

variable [DecidableEq τ]

/-- A task is through with the operation it is at. -/
def advance (s : Machine τ L C μ) (t : τ) : Machine τ L C μ :=
  { s with todo := Function.update s.todo t (s.todo t).tail }

@[simp] theorem advance_lock (s : Machine τ L C μ) (t : τ) : (s.advance t).lock = s.lock := rfl

@[simp] theorem advance_chan (s : Machine τ L C μ) (t : τ) : (s.advance t).chan = s.chan := rfl

@[simp] theorem advance_todo_self (s : Machine τ L C μ) (t : τ) :
    (s.advance t).todo t = (s.todo t).tail := Function.update_self ..

theorem advance_todo_of_ne (s : Machine τ L C μ) {t u : τ} (h : u ≠ t) :
    (s.advance t).todo u = s.todo u := Function.update_of_ne h ..

variable [DecidableEq L] [DecidableEq C]

/-- The first who waits for a lock gets it, where it can be had. -/
def grantFirst (s : Machine τ L C μ) (l : L) : Option (Machine τ L C μ) :=
  match (s.lock l).queue with
  | [] => none
  | (t, m) :: queue =>
    if admits (s.lock l).held m then
      some { s.advance t with
        lock := Function.update s.lock l ⟨(s.lock l).held ++ [(t, m)], queue⟩ }
    else none

/-- As many who wait for a lock as can have it get it, one after the other. -/
def grantAll (s : Machine τ L C μ) (l : L) : Nat → Machine τ L C μ
  | 0 => s
  | n + 1 =>
    match s.grantFirst l with
    | none => s
    | some s => s.grantAll l n

/-- A lock that has changed is handed on. -/
def settle (s : Machine τ L C μ) (l : L) : Machine τ L C μ := s.grantAll l (s.lock l).queue.length

/-- The first who waits to send to a channel gets its message through, where there is room, or where
nobody is there to receive it. -/
def admitFirst (room : C → Nat) (s : Machine τ L C μ) (c : C) : Option (Machine τ L C μ) :=
  match (s.chan c).senders with
  | [] => none
  | (t, message) :: senders =>
    if (s.chan c).closed then
      some { s.advance t with chan := Function.update s.chan c { s.chan c with senders } }
    else if (s.chan c).messages.length < room c then
      some { s.advance t with
        chan := Function.update s.chan c
          { s.chan c with messages := (s.chan c).messages ++ [message], senders } }
    else none

def admitAll (room : C → Nat) (s : Machine τ L C μ) (c : C) : Nat → Machine τ L C μ
  | 0 => s
  | n + 1 =>
    match s.admitFirst room c with
    | none => s
    | some s => s.admitAll room c n

/-- A channel that has changed lets in who waits. -/
def deliver (room : C → Nat) (s : Machine τ L C μ) (c : C) : Machine τ L C μ :=
  s.admitAll room c (s.chan c).senders.length

/-- A task asks for a lock. -/
def ask (s : Machine τ L C μ) (t : τ) (l : L) (m : Mode) : Machine τ L C μ :=
  { s with
    lock := Function.update s.lock l { s.lock l with queue := (s.lock l).queue ++ [(t, m)] } }

/-- A task gives a lock up. -/
def drop (s : Machine τ L C μ) (t : τ) (l : L) (m : Mode) : Machine τ L C μ :=
  { s.advance t with
    lock := Function.update s.lock l { s.lock l with held := (s.lock l).held.erase (t, m) } }

/-- A task has a message for a channel. -/
def offer (s : Machine τ L C μ) (t : τ) (c : C) (message : μ) : Machine τ L C μ :=
  { s with
    chan := Function.update s.chan c
      { s.chan c with senders := (s.chan c).senders ++ [(t, message)] } }

/-- The receiver of a channel goes away. -/
def shut (s : Machine τ L C μ) (t : τ) (c : C) : Machine τ L C μ :=
  { s.advance t with
    chan := Function.update s.chan c { s.chan c with messages := [], closed := true } }

/-- A task takes its next step, unless it waits. -/
def run (room : C → Nat) (s : Machine τ L C μ) (t : τ) : Option (Machine τ L C μ) :=
  match s.todo t with
  | [] => none
  | .acquire l m :: _ =>
    if t ∈ (s.lock l).queue.map Prod.fst then none else some ((s.ask t l m).settle l)
  | .release l m :: _ => some ((s.drop t l m).settle l)
  | .send c message :: _ =>
    if t ∈ (s.chan c).senders.map Prod.fst then none
    else some ((s.offer t c message).deliver room c)
  | .close c :: _ => some ((s.shut t c).deliver room c)

/-- A task with nothing to do is given a program. -/
def start (s : Machine τ L C μ) (t : τ) (program : List (Op L C μ)) : Option (Machine τ L C μ) :=
  match s.todo t with
  | [] => some { s with todo := Function.update s.todo t program }
  | _ => none

/-- A task with nothing to do takes the next message of a channel up. -/
def receive (room : C → Nat) (s : Machine τ L C μ) (t : τ) (c : C)
    (program : μ → List (Op L C μ)) : Option (Machine τ L C μ) :=
  match s.todo t, (s.chan c).messages with
  | [], message :: messages =>
    some (({ s with
      todo := Function.update s.todo t (program message)
      chan := Function.update s.chan c { s.chan c with messages } } : Machine τ L C μ).deliver
        room c)
  | _, _ => none

/-! ## What a step changes -/

omit [DecidableEq L] [DecidableEq C] in
/-- Going through an operation leaves every task a last part of what it had to do. -/
theorem advance_suffix (s : Machine τ L C μ) (t u : τ) : (s.advance t).todo u <:+ s.todo u := by
  by_cases hu : u = t
  · subst hu; rw [advance_todo_self]; exact List.tail_suffix _
  · simp only [advance_todo_of_ne s hu, List.suffix_refl]

omit [DecidableEq C] in
/-- What every grant of a lock keeps, handing it on keeps. -/
theorem settle_induction {P : Machine τ L C μ → Prop} {l : L}
    (hg : ∀ s s', P s → s.grantFirst l = some s' → P s') {s : Machine τ L C μ} (h : P s) :
    P (s.settle l) := by
  unfold settle
  generalize (s.lock l).queue.length = n
  induction n generalizing s with
  | zero => exact h
  | succ n ih =>
    unfold grantAll
    split
    · exact h
    · next hs => exact ih (hg _ _ h hs)

omit [DecidableEq L] in
/-- What every message let into a channel keeps, letting them all in keeps. -/
theorem deliver_induction {P : Machine τ L C μ → Prop} {room : C → Nat} {c : C}
    (ha : ∀ s s', P s → s.admitFirst room c = some s' → P s') {s : Machine τ L C μ} (h : P s) :
    P (s.deliver room c) := by
  unfold deliver
  generalize (s.chan c).senders.length = n
  induction n generalizing s with
  | zero => exact h
  | succ n ih =>
    unfold admitAll
    split
    · exact h
    · next hs => exact ih (ha _ _ h hs)

omit [DecidableEq C] in
/-- A grant changes no channel, and takes one task on. -/
theorem grantFirst_frame {s s' : Machine τ L C μ} {l : L} (h : s.grantFirst l = some s') :
    s'.chan = s.chan ∧ ∀ u, s'.todo u <:+ s.todo u := by
  unfold grantFirst at h
  split at h
  · cases h
  · split at h <;> cases h
    exact ⟨rfl, s.advance_suffix _⟩

omit [DecidableEq L] in
/-- A message let in changes no lock and no other channel, and takes one task on. -/
theorem admitFirst_frame {room : C → Nat} {s s' : Machine τ L C μ} {c : C}
    (h : s.admitFirst room c = some s') :
    s'.lock = s.lock ∧ (∀ c', c' ≠ c → s'.chan c' = s.chan c') ∧ ∀ u, s'.todo u <:+ s.todo u := by
  unfold admitFirst at h
  split at h
  · cases h
  · split at h
    · cases h
      exact ⟨rfl, fun c' hc => by simp [hc], s.advance_suffix _⟩
    · split at h <;> cases h
      exact ⟨rfl, fun c' hc => by simp [hc], s.advance_suffix _⟩

omit [DecidableEq C] in
theorem settle_frame (s : Machine τ L C μ) (l : L) :
    (s.settle l).chan = s.chan ∧ ∀ u, (s.settle l).todo u <:+ s.todo u := by
  refine settle_induction (P := fun s' => s'.chan = s.chan ∧ ∀ u, s'.todo u <:+ s.todo u)
    (fun s₁ s₂ h hg => ?_) ⟨rfl, fun _ => List.suffix_refl _⟩
  obtain ⟨hchan, htodo⟩ := grantFirst_frame hg
  exact ⟨hchan.trans h.1, fun u => (htodo u).trans (h.2 u)⟩

omit [DecidableEq C] in
/-- Who asks for a lock nobody waits for gets it where it can be had. -/
theorem settle_ask {s : Machine τ L C μ} {l : L} (hq : (s.lock l).queue = []) (t : τ) {m : Mode}
    (hm : admits (s.lock l).held m = true) :
    (s.ask t l m).settle l =
      { s.advance t with lock := Function.update s.lock l ⟨(s.lock l).held ++ [(t, m)], []⟩ } := by
  simp [settle, ask, grantAll, grantFirst, advance, hq, hm]

omit [DecidableEq L] in
theorem deliver_frame (room : C → Nat) (s : Machine τ L C μ) (c : C) :
    (s.deliver room c).lock = s.lock ∧
      (∀ c', c' ≠ c → (s.deliver room c).chan c' = s.chan c') ∧
      ∀ u, (s.deliver room c).todo u <:+ s.todo u := by
  refine deliver_induction (P := fun s' => s'.lock = s.lock ∧
    (∀ c', c' ≠ c → s'.chan c' = s.chan c') ∧ ∀ u, s'.todo u <:+ s.todo u)
    (fun s₁ s₂ h ha => ?_) ⟨rfl, fun _ _ => rfl, fun _ => List.suffix_refl _⟩
  obtain ⟨hlock, hchan, htodo⟩ := admitFirst_frame ha
  exact ⟨hlock.trans h.1, fun c' hc => (hchan c' hc).trans (h.2.1 c' hc),
    fun u => (htodo u).trans (h.2.2 u)⟩

omit [DecidableEq L] in
/-- A channel lets in as many as it has room for, and all of them where nobody receives. -/
theorem deliver_senders (room : C → Nat) (s : Machine τ L C μ) (c : C) :
    ((s.deliver room c).chan c).senders =
      if (s.chan c).closed then []
      else (s.chan c).senders.drop (room c - (s.chan c).messages.length) := by
  unfold deliver
  generalize hn : (s.chan c).senders.length = n
  induction n generalizing s with
  | zero => simp [admitAll, List.length_eq_zero_iff.1 hn]
  | succ n ih =>
    unfold admitAll admitFirst
    cases hs : (s.chan c).senders with
    | nil => rw [hs] at hn; cases hn
    | cons w senders =>
      obtain ⟨t, message⟩ := w
      rw [hs, List.length_cons, Nat.succ.injEq] at hn
      by_cases hclosed : (s.chan c).closed = true
      · simp only [hclosed, if_true]
        rw [ih _ (by simpa using hn)]
        simp
      · simp only [if_neg hclosed]
        by_cases hroom : (s.chan c).messages.length < room c
        · simp only [if_pos hroom]
          rw [ih _ (by simpa using hn)]
          obtain ⟨k, hk⟩ : ∃ k, room c - (s.chan c).messages.length = k + 1 :=
            ⟨room c - (s.chan c).messages.length - 1, by omega⟩
          have hnext : room c - ((s.chan c).messages.length + 1) = k := by omega
          simp [hclosed, hk, hnext]
        · rw [if_neg hroom]
          have : room c - (s.chan c).messages.length = 0 := by omega
          simp [hs, this]

omit [DecidableEq L] in
/-- A channel never holds more than it has room for. -/
theorem deliver_messages_le {room : C → Nat} {s : Machine τ L C μ} {c : C}
    (h : (s.chan c).messages.length ≤ room c) :
    ((s.deliver room c).chan c).messages.length ≤ room c := by
  refine deliver_induction (P := fun s' => (s'.chan c).messages.length ≤ room c)
    (fun s₁ s₂ h ha => ?_) h
  unfold admitFirst at ha
  split at ha
  · cases ha
  · split at ha
    · cases ha; simpa using h
    · split at ha
      · next hlt => cases ha; simpa using Nat.succ_le_of_lt hlt
      · cases ha

/-! ## Waiting -/

/-- How many wait for a lock before a task. -/
def place (queue : List (τ × Mode)) (t : τ) : Nat := queue.findIdx (·.1 = t)

/-- One task waits for another: for a lock that the other holds or waits for before it, or for room
in a channel that the other receives from. -/
def WaitsFor (receiver : C → τ) (s : Machine τ L C μ) (t u : τ) : Prop :=
  (∃ l, t ∈ (s.lock l).queue.map Prod.fst ∧
    (u ∈ (s.lock l).held.map Prod.fst ∨ place (s.lock l).queue u < place (s.lock l).queue t)) ∨
  ∃ c, t ∈ (s.chan c).senders.map Prod.fst ∧ receiver c = u

end Machine

end Sync
