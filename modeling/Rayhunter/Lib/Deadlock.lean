import Mathlib.Data.Prod.Lex
import Mathlib.Logic.Relation
import Mathlib.Order.Lattice
import Rayhunter.Lib.Sync

/-!
# Waiting in a cycle

Tasks that take locks in the order of their ranks can wait for one another in a cycle only through a
channel (`Inv.acyclic`). What each task holds follows from its program (`Fits`), and stays so under
every operation (`Inv`).
-/

namespace Sync

open Relation

variable {τ L C μ : Type*}

/-! ## Cycles -/

/-- Every edge of a cycle lies on it. -/
theorem transGen_on_cycle {r : τ → τ → Prop} {t : τ} (h : TransGen r t t) :
    TransGen (fun x y => r x y ∧ TransGen r t x ∧ TransGen r y t) t t := by
  have key : ∀ y, TransGen r t y → TransGen r y t →
      TransGen (fun x y => r x y ∧ TransGen r t x ∧ TransGen r y t) t y := by
    intro y hy
    induction hy with
    | single hstep => exact fun hback => .single ⟨hstep, .head hstep hback, hback⟩
    | tail hto hstep ih =>
      exact fun hback => .tail (ih (.head hstep hback)) ⟨hstep, hto, hback⟩
  exact key t h h

/-- There is no cycle where every edge that lies on one goes up in an order. -/
theorem no_cycle_of_level {α : Type*} [Preorder α] {r : τ → τ → Prop} (level : τ → α)
    (h : ∀ x y, r x y → (∃ w, r w x) → (∃ z, r y z ∧ ∃ z', r z z') → level x < level y) (t : τ) :
    ¬ TransGen r t t := by
  intro hcycle
  have hup : ∀ y, TransGen (fun x y => r x y ∧ TransGen r t x ∧ TransGen r y t) t y →
      level t < level y := by
    have hedge : ∀ x y, r x y ∧ TransGen r t x ∧ TransGen r y t → level x < level y := by
      rintro x y ⟨hxy, hto, hback⟩
      obtain ⟨w, -, hw⟩ := TransGen.tail'_iff.1 hto
      obtain ⟨z, hz, hrest⟩ := TransGen.head'_iff.1 hback
      refine h x y hxy ⟨w, hw⟩ ⟨z, hz, ?_⟩
      rcases ReflTransGen.cases_head_iff.1 (hrest.trans hcycle.to_reflTransGen) with rfl | ⟨z', hz', -⟩
      · obtain ⟨z', hz', -⟩ := TransGen.head'_iff.1 hcycle
        exact ⟨z', hz'⟩
      · exact ⟨z', hz'⟩
    intro y hy
    induction hy with
    | single hstep => exact hedge _ _ hstep
    | tail _ hstep ih => exact ih.trans (hedge _ _ hstep)
  exact lt_irrefl _ (hup t (transGen_on_cycle hcycle))

/-! ## What a task holds -/

section
variable [DecidableEq L] (rank : L → ℕ) (may : List (L × Mode) → C → Prop)

/-- A program that begins with some locks held: it takes locks in the order of their ranks, gives up
what it holds, all of it in the end, and sends only where it may with what it then holds. -/
def Fits : List (L × Mode) → List (Op L C μ) → Prop
  | held, [] => held = []
  | held, .acquire l m :: rest => (∀ g ∈ held, rank g.1 < rank l) ∧ Fits ((l, m) :: held) rest
  | held, .release l m :: rest => (l, m) ∈ held ∧ Fits (held.erase (l, m)) rest
  | held, .send c _ :: rest => may held c ∧ Fits held rest
  | held, .close _ :: rest => Fits held rest

end

namespace Machine

variable [DecidableEq L]
variable (rank : L → ℕ) (may : τ → List (L × Mode) → C → Prop)

/-- What a task holds, and that its program fits it. -/
structure Holds (s : Machine τ L C μ) (t : τ) (held : List (L × Mode)) : Prop where
  nodup : held.Nodup
  mem : ∀ l m, (t, m) ∈ (s.lock l).held ↔ (l, m) ∈ held
  fits : Fits rank (may t) held (s.todo t)

/-- What is between the steps of a machine. -/
structure Inv (s : Machine τ L C μ) : Prop where
  holds : ∀ t, ∃ held, Holds rank may s t held
  exclusive : ∀ l, Exclusive (s.lock l).held
  nodup : ∀ l, (s.lock l).held.Nodup
  queued : ∀ l t m, (t, m) ∈ (s.lock l).queue → ∃ rest, s.todo t = .acquire l m :: rest
  queue_nodup : ∀ l, ((s.lock l).queue.map Prod.fst).Nodup
  sending : ∀ c t message, (t, message) ∈ (s.chan c).senders →
    ∃ rest, s.todo t = .send c message :: rest
  senders_nodup : ∀ c, ((s.chan c).senders.map Prod.fst).Nodup

variable {rank may} {s s' : Machine τ L C μ} {t : τ}

/-- What a task holds does not change where neither its program nor its locks do. -/
theorem Holds.congr {held : List (L × Mode)} (h : Holds rank may s t held)
    (hlock : ∀ l m, (t, m) ∈ (s'.lock l).held ↔ (t, m) ∈ (s.lock l).held)
    (htodo : s'.todo t = s.todo t) : Holds rank may s' t held :=
  ⟨h.nodup, fun l m => (hlock l m).trans (h.mem l m), by rw [htodo]; exact h.fits⟩

/-- A step that takes one task on, after which it waits for nothing. -/
structure Moves (rank : L → ℕ) (may : τ → List (L × Mode) → C → Prop) (s s' : Machine τ L C μ)
    (t : τ) : Prop where
  todo : ∀ u, u ≠ t → s'.todo u = s.todo u
  held : ∀ u, u ≠ t → ∀ l m, (u, m) ∈ (s'.lock l).held ↔ (u, m) ∈ (s.lock l).held
  holds : ∃ held, Holds rank may s' t held
  exclusive : ∀ l, Exclusive (s'.lock l).held
  nodup : ∀ l, (s'.lock l).held.Nodup
  queue : ∀ l, (s'.lock l).queue.Sublist (s.lock l).queue
  queued : ∀ l m, (t, m) ∉ (s'.lock l).queue
  senders : ∀ c, (s'.chan c).senders.Sublist (s.chan c).senders
  sending : ∀ c message, (t, message) ∉ (s'.chan c).senders

theorem Inv.moves (h : Inv rank may s) (hm : Moves rank may s s' t) : Inv rank may s' where
  holds u := by
    by_cases hu : u = t
    · subst hu; exact hm.holds
    · obtain ⟨held, hh⟩ := h.holds u
      exact ⟨held, hh.congr (hm.held u hu) (hm.todo u hu)⟩
  exclusive := hm.exclusive
  nodup := hm.nodup
  queued l u m hu := by
    have hne : u ≠ t := by rintro rfl; exact hm.queued l m hu
    rw [hm.todo u hne]
    exact h.queued l u m ((hm.queue l).subset hu)
  queue_nodup l := (h.queue_nodup l).sublist ((hm.queue l).map _)
  sending c u message hu := by
    have hne : u ≠ t := by rintro rfl; exact hm.sending c message hu
    rw [hm.todo u hne]
    exact h.sending c u message ((hm.senders c).subset hu)
  senders_nodup c := (h.senders_nodup c).sublist ((hm.senders c).map _)

/-- Who waits for a lock has nothing else to do first. -/
theorem Inv.not_queued (h : Inv rank may s) (ht : ∀ l m rest, s.todo t ≠ .acquire l m :: rest)
    (l : L) (m : Mode) : (t, m) ∉ (s.lock l).queue := fun hq => by
  obtain ⟨rest, hrest⟩ := h.queued l t m hq
  exact ht l m rest hrest

theorem Inv.not_sending (h : Inv rank may s) (ht : ∀ c msg rest, s.todo t ≠ .send c msg :: rest)
    (c : C) (message : μ) : (t, message) ∉ (s.chan c).senders := fun hs => by
  obtain ⟨rest, hrest⟩ := h.sending c t message hs
  exact ht c message rest hrest

/-! ## Locks -/

/-- A task that asks for a lock waits for it. -/
theorem Inv.ask (h : Inv rank may s) {l : L} {m : Mode} {rest : List (Op L C μ)}
    (ht : s.todo t = .acquire l m :: rest) (hq : t ∉ (s.lock l).queue.map Prod.fst) :
    Inv rank may (s.ask t l m) := by
  have hlock : ∀ l', ((s.ask t l m).lock l').held = (s.lock l').held := fun l' => by
    by_cases hl : l' = l
    · subst hl; simp [Machine.ask]
    · simp [Machine.ask, hl]
  have hqueue : ∀ l', ((s.ask t l m).lock l').queue =
      if l' = l then (s.lock l).queue ++ [(t, m)] else (s.lock l').queue := fun l' => by
    by_cases hl : l' = l
    · subst hl; simp [Machine.ask]
    · simp [Machine.ask, hl]
  refine ⟨fun u => ?_, fun l' => ?_, fun l' => ?_, fun l' u m' hu => ?_, fun l' => ?_, h.sending,
    h.senders_nodup⟩
  · obtain ⟨held, hh⟩ := h.holds u
    exact ⟨held, hh.congr (fun l' m' => by rw [hlock]) rfl⟩
  · rw [hlock]; exact h.exclusive l'
  · rw [hlock]; exact h.nodup l'
  · rw [hqueue] at hu
    split at hu
    · next hl =>
      subst hl
      rcases List.mem_append.1 hu with hu | hu
      · exact h.queued _ _ _ hu
      · cases List.mem_singleton.1 hu
        exact ⟨rest, ht⟩
    · exact h.queued _ _ _ hu
  · rw [hqueue]
    split
    · next hl =>
      subst hl
      rw [List.map_append]
      exact (h.queue_nodup l').append (List.nodup_singleton _) (List.disjoint_singleton.2 hq)
    · exact h.queue_nodup l'

variable [DecidableEq τ]

/-- A step that takes a task on by a change of one lock, where what the others hold stays and the
task is left waiting for nothing. -/
theorem Inv.movesLock (h : Inv rank may s) {l : L} {x : Lock τ} {held : List (L × Mode)}
    (held' : List (L × Mode)) (hh : Holds rank may s t held) (hnodup : held'.Nodup)
    (hfits : Fits rank (may t) held' (s.todo t).tail)
    (hothers : ∀ u, u ≠ t → ∀ m, (u, m) ∈ x.held ↔ (u, m) ∈ (s.lock l).held)
    (hmine : ∀ m, (t, m) ∈ x.held ↔ (l, m) ∈ held')
    (helse : ∀ l', l' ≠ l → ∀ m, (l', m) ∈ held ↔ (l', m) ∈ held')
    (hexclusive : Exclusive x.held) (hx : x.held.Nodup) (hqueue : x.queue.Sublist (s.lock l).queue)
    (hqueued : ∀ m, (t, m) ∉ x.queue) (hwaits : ∀ l', l' ≠ l → ∀ m, (t, m) ∉ (s.lock l').queue)
    (hsending : ∀ c message, (t, message) ∉ (s.chan c).senders) :
    Inv rank may { s.advance t with lock := Function.update s.lock l x } := by
  -- what holds of the new value, and of the other locks as they were, holds of every lock
  have hlock {p : L → Lock τ → Prop} (hl : p l x) (hne : ∀ l', l' ≠ l → p l' (s.lock l')) :
      ∀ l', p l' (Function.update s.lock l x l') :=
    (Function.forall_update_iff s.lock p).2 ⟨hl, hne⟩
  refine h.moves (t := t) ⟨fun u hu => advance_todo_of_ne s hu, fun u hu => ?_,
    ⟨held', hnodup, ?_, ?_⟩, ?_, ?_, ?_, ?_, fun c => List.Sublist.refl _, hsending⟩
  · exact hlock (p := fun l' y => ∀ m, (u, m) ∈ y.held ↔ (u, m) ∈ (s.lock l').held)
      (hothers u hu) fun _ _ _ => Iff.rfl
  · exact hlock (p := fun l' y => ∀ m, (t, m) ∈ y.held ↔ (l', m) ∈ held') hmine
      fun l' hl m => (hh.mem l' m).trans (helse l' hl m)
  · show Fits _ _ _ ((s.advance t).todo t)
    rw [advance_todo_self]
    exact hfits
  · exact hlock (p := fun _ y => Exclusive y.held) hexclusive fun l' _ => h.exclusive l'
  · exact hlock (p := fun _ y => y.held.Nodup) hx fun l' _ => h.nodup l'
  · exact hlock (p := fun l' y => y.queue.Sublist (s.lock l').queue) hqueue
      fun _ _ => List.Sublist.refl _
  · exact hlock (p := fun _ y => ∀ m, (t, m) ∉ y.queue) hqueued hwaits

/-- Who gets a lock has waited for it, and gets it in keeping with who holds it. -/
theorem Inv.grantFirst (h : Inv rank may s) {l : L} (hg : s.grantFirst l = some s') :
    Inv rank may s' := by
  unfold Machine.grantFirst at hg
  cases hq : (s.lock l).queue with
  | nil => rw [hq] at hg; cases hg
  | cons w queue =>
    obtain ⟨t, m⟩ := w
    rw [hq] at hg
    simp only at hg
    split at hg
    · next hadmits =>
      cases hg
      obtain ⟨rest, hrest⟩ := h.queued l t m (by rw [hq]; exact List.mem_cons_self ..)
      obtain ⟨held, hh⟩ := h.holds t
      have hfits := hh.fits
      rw [hrest] at hfits
      obtain ⟨hrank, hfits⟩ := hfits
      have hnew : (l, m) ∉ held := fun hmem => lt_irrefl _ (hrank _ hmem)
      have hnodup := h.queue_nodup l
      rw [hq, List.map_cons, List.nodup_cons] at hnodup
      refine h.movesLock ((l, m) :: held) hh (List.nodup_cons.2 ⟨hnew, hh.nodup⟩) ?_ ?_ ?_
        ?_ (by simpa using (h.exclusive l).append (g := (t, m)) hadmits) ?_ ?_ ?_ ?_ ?_
      · rw [hrest]; exact hfits
      · intro u hu m'
        simp [hu]
      · intro m'
        simp [hh.mem, or_comm]
      · intro l' hl m'
        simp [hl]
      · refine (h.nodup l).append (List.nodup_singleton _) (List.disjoint_singleton.2 ?_)
        rw [hh.mem]
        exact hnew
      · rw [hq]
        exact List.sublist_cons_self ..
      · exact fun m' hm' => hnodup.1 (List.mem_map.2 ⟨_, hm', rfl⟩)
      · -- it waited for this lock, hence for no other
        intro l' hl m' hm'
        obtain ⟨rest', hrest'⟩ := h.queued l' t m' hm'
        rw [hrest] at hrest'
        cases hrest'
        exact hl rfl
      · exact h.not_sending (by simp [hrest])
    · cases hg

theorem Inv.settle (h : Inv rank may s) (l : L) : Inv rank may (s.settle l) :=
  settle_induction (fun _ _ h hg => h.grantFirst hg) h

/-- A task that gives a lock up holds the others it held. -/
theorem Inv.drop (h : Inv rank may s) {l : L} {m : Mode} {rest : List (Op L C μ)}
    (ht : s.todo t = .release l m :: rest) : Inv rank may (s.drop t l m) := by
  obtain ⟨held, hh⟩ := h.holds t
  have hfits := hh.fits
  rw [ht] at hfits
  have hqueued := h.not_queued (t := t) (by simp [ht])
  refine h.movesLock (held.erase (l, m)) hh (hh.nodup.erase _) ?_ ?_ ?_ ?_
    ((h.exclusive l).sublist List.erase_sublist) ((h.nodup l).erase _) (List.Sublist.refl _)
    (hqueued l) (fun l' _ => hqueued l') (h.not_sending (by simp [ht]))
  · rw [ht]; exact hfits.2
  · intro u hu m'
    exact List.mem_erase_of_ne (by simp [hu])
  · intro m'
    rw [(h.nodup l).mem_erase_iff, hh.nodup.mem_erase_iff, hh.mem]
    simp
  · intro l' hl m'
    exact (List.mem_erase_of_ne (by simp [hl])).symm

/-! ## Programs and channels -/

/-- A task with nothing to do holds nothing, so that it may begin a program. -/
theorem Inv.begin (h : Inv rank may s) (ht : s.todo t = []) {program : List (Op L C μ)}
    (hp : Fits rank (may t) [] program) :
    Inv rank may { s with todo := Function.update s.todo t program } := by
  obtain ⟨held, hh⟩ := h.holds t
  have hfits := hh.fits
  rw [ht] at hfits
  obtain rfl : held = [] := hfits
  refine h.moves (t := t) ⟨fun u hu => Function.update_of_ne hu .., fun _ _ _ _ => Iff.rfl,
    ⟨[], hh.nodup, hh.mem, ?_⟩, h.exclusive, h.nodup, fun _ => List.Sublist.refl _,
    h.not_queued (by simp [ht]), fun _ => List.Sublist.refl _, h.not_sending (by simp [ht])⟩
  simpa using hp

theorem Inv.start (h : Inv rank may s) {program : List (Op L C μ)}
    (hp : Fits rank (may t) [] program) (hst : s.start t program = some s') : Inv rank may s' := by
  unfold Machine.start at hst
  split at hst
  · next ht => cases hst; exact h.begin ht hp
  · cases hst

variable [DecidableEq C]

omit [DecidableEq τ] in
/-- What is in a channel, and whether its receiver is there, is nothing the tasks wait with. -/
theorem Inv.setChan (h : Inv rank may s) {c : C} (k : Channel τ μ)
    (hs : k.senders = (s.chan c).senders) :
    Inv rank may { s with chan := Function.update s.chan c k } := by
  have hsenders : ∀ c', (Function.update s.chan c k c').senders = (s.chan c').senders := by
    intro c'
    by_cases hc : c' = c
    · subst hc; simp [hs]
    · simp [hc]
  refine ⟨fun u => ?_, h.exclusive, h.nodup, h.queued, h.queue_nodup, fun c' u message hu => ?_,
    fun c' => ?_⟩
  · obtain ⟨held, hh⟩ := h.holds u
    exact ⟨held, hh.congr (fun _ _ => Iff.rfl) rfl⟩
  · exact h.sending c' u message (by rw [← hsenders]; exact hu)
  · show ((Function.update s.chan c k c').senders.map Prod.fst).Nodup
    rw [hsenders]
    exact h.senders_nodup c'

omit [DecidableEq τ] in
/-- A task that has a message for a channel waits. -/
theorem Inv.offer (h : Inv rank may s) {c : C} {message : μ} {rest : List (Op L C μ)}
    (ht : s.todo t = .send c message :: rest) (hq : t ∉ (s.chan c).senders.map Prod.fst) :
    Inv rank may (s.offer t c message) := by
  have hsenders : ∀ c', ((s.offer t c message).chan c').senders =
      if c' = c then (s.chan c).senders ++ [(t, message)] else (s.chan c').senders := fun c' => by
    by_cases hc : c' = c
    · subst hc; simp [Machine.offer]
    · simp [Machine.offer, hc]
  refine ⟨fun u => ?_, h.exclusive, h.nodup, h.queued, h.queue_nodup, fun c' u m hu => ?_,
    fun c' => ?_⟩
  · obtain ⟨held, hh⟩ := h.holds u
    exact ⟨held, hh.congr (fun _ _ => Iff.rfl) rfl⟩
  · rw [hsenders] at hu
    split at hu
    · next hc =>
      subst hc
      rcases List.mem_append.1 hu with hu | hu
      · exact h.sending _ _ _ hu
      · cases List.mem_singleton.1 hu
        exact ⟨rest, ht⟩
    · exact h.sending _ _ _ hu
  · rw [hsenders]
    split
    · next hc =>
      subst hc
      rw [List.map_append]
      exact (h.senders_nodup c').append (List.nodup_singleton _) (List.disjoint_singleton.2 hq)
    · exact h.senders_nodup c'

/-- A task whose message has got through goes on. -/
theorem Inv.sent (h : Inv rank may s) {c : C} {message : μ} {senders : List (τ × μ)}
    (hs : (s.chan c).senders = (t, message) :: senders) :
    Inv rank may { s.advance t with
      chan := Function.update s.chan c { s.chan c with senders } } := by
  obtain ⟨rest, hrest⟩ := h.sending c t message (by rw [hs]; exact List.mem_cons_self ..)
  obtain ⟨held, hh⟩ := h.holds t
  have hfits := hh.fits
  rw [hrest] at hfits
  have hnodup := h.senders_nodup c
  rw [hs, List.map_cons, List.nodup_cons] at hnodup
  refine h.moves (t := t) ⟨fun u hu => advance_todo_of_ne s hu, fun _ _ _ _ => Iff.rfl,
    ⟨held, hh.nodup, hh.mem, ?_⟩, h.exclusive, h.nodup, fun _ => List.Sublist.refl _,
    h.not_queued (by simp [hrest]), fun c' => ?_, fun c' m hm => ?_⟩
  · show Fits _ _ _ ((s.advance t).todo t)
    rw [advance_todo_self, hrest]
    exact hfits.2
  · by_cases hc : c' = c
    · subst hc
      simp only [Function.update_self, hs]
      exact List.sublist_cons_self ..
    · simp [hc]
  · by_cases hc : c' = c
    · subst hc
      simp only [Function.update_self] at hm
      exact hnodup.1 (List.mem_map.2 ⟨_, hm, rfl⟩)
    · simp only [Function.update_of_ne hc] at hm
      obtain ⟨rest', hrest'⟩ := h.sending c' t m hm
      rw [hrest] at hrest'
      cases hrest'
      exact hc rfl

theorem Inv.admitFirst (h : Inv rank may s) {room : C → Nat} {c : C}
    (ha : s.admitFirst room c = some s') : Inv rank may s' := by
  unfold Machine.admitFirst at ha
  cases hs : (s.chan c).senders with
  | nil => rw [hs] at ha; cases ha
  | cons w senders =>
    obtain ⟨t, message⟩ := w
    rw [hs] at ha
    simp only at ha
    have hsent := h.sent hs
    split at ha
    · cases ha; exact hsent
    · split at ha
      · cases ha
        have := hsent.setChan (c := c) ⟨(s.chan c).messages ++ [message], senders,
          (s.chan c).closed⟩ (by simp)
        simpa using this
      · cases ha

theorem Inv.deliver (h : Inv rank may s) (room : C → Nat) (c : C) :
    Inv rank may (s.deliver room c) :=
  deliver_induction (fun _ _ h ha => h.admitFirst ha) h

/-- A receiver that goes away goes on. -/
theorem Inv.shut (h : Inv rank may s) {c : C} {rest : List (Op L C μ)}
    (ht : s.todo t = .close c :: rest) : Inv rank may (s.shut t c) := by
  obtain ⟨held, hh⟩ := h.holds t
  have hfits := hh.fits
  rw [ht] at hfits
  have hadvance : Inv rank may (s.advance t) := by
    refine h.moves (t := t) ⟨fun u hu => advance_todo_of_ne s hu, fun _ _ _ _ => Iff.rfl,
      ⟨held, hh.nodup, hh.mem, ?_⟩, h.exclusive, h.nodup, fun _ => List.Sublist.refl _,
      h.not_queued (by simp [ht]), fun _ => List.Sublist.refl _, h.not_sending (by simp [ht])⟩
    rw [advance_todo_self, ht]
    exact hfits
  exact hadvance.setChan _ rfl

/-- **A step of a task keeps the invariant.** -/
theorem Inv.run (h : Inv rank may s) {room : C → Nat} (hst : s.run room t = some s') :
    Inv rank may s' := by
  unfold Machine.run at hst
  split at hst
  · cases hst
  · next ht =>
    split at hst
    · cases hst
    · next hq => cases hst; exact (h.ask ht hq).settle _
  · next ht => cases hst; exact (h.drop ht).settle _
  · next ht =>
    split at hst
    · cases hst
    · next hq => cases hst; exact (h.offer ht hq).deliver ..
  · next ht => cases hst; exact (h.shut ht).deliver ..

theorem Inv.receive (h : Inv rank may s) {room : C → Nat} {c : C} {program : μ → List (Op L C μ)}
    (hp : ∀ message, Fits rank (may t) [] (program message))
    (hst : s.receive room t c program = some s') : Inv rank may s' := by
  unfold Machine.receive at hst
  split at hst
  · next message messages ht _ =>
    cases hst
    exact ((h.begin ht (hp message)).setChan ⟨messages, (s.chan c).senders, (s.chan c).closed⟩
      rfl).deliver ..
  · cases hst

/-! ## No cycle -/

/-- Where a task that waits for a lock stands: the later the lock comes and the earlier the task is
in its line, the higher. -/
def level (rank : L → ℕ) (s : Machine τ L C μ) (t : τ) : ℕ ×ₗ ℕᵒᵈ :=
  match s.todo t with
  | .acquire l _ :: _ => toLex (rank l, .toDual (place (s.lock l).queue t))
  | _ => toLex (0, .toDual 0)

/-- Who waits before a task waits for the same lock. -/
theorem mem_of_place_lt {queue : List (τ × Mode)} {t u : τ} (h : place queue u < place queue t) :
    u ∈ queue.map Prod.fst := by
  have hlt : place queue u < queue.length := h.trans_le List.findIdx_le_length
  obtain ⟨w, hw, hu⟩ := List.findIdx_lt_length.1 hlt
  exact List.mem_map.2 ⟨w, hw, by simpa using hu⟩

omit [DecidableEq τ] [DecidableEq C] in
theorem Inv.todo_of_queued (h : Inv rank may s) {l : L} (ht : t ∈ (s.lock l).queue.map Prod.fst) :
    ∃ m rest, s.todo t = .acquire l m :: rest := by
  obtain ⟨⟨t', m⟩, hmem, rfl⟩ := List.mem_map.1 ht
  exact ⟨m, h.queued l t' m hmem⟩

omit [DecidableEq C] in
/-- **Tasks do not wait for one another in a cycle**, where no task that another waits for waits to
send to one that waits. -/
theorem Inv.acyclic (h : Inv rank may s) {receiver : C → τ}
    (hfree : ∀ c t, t ∈ (s.chan c).senders.map Prod.fst → (∃ u, WaitsFor receiver s u t) →
      ∀ u, ¬ WaitsFor receiver s (receiver c) u) (t : τ) :
    ¬ TransGen (WaitsFor receiver s) t t := by
  refine no_cycle_of_level (level rank s) (fun x y hxy hin hout => ?_) t
  obtain ⟨z, hyz, hz⟩ := hout
  -- a task of the cycle waits for a lock, since what it would wait to send to does not wait
  rcases hxy with ⟨l, hx, hlock⟩ | ⟨c, hc, rfl⟩
  · rcases hyz with ⟨l', hy, -⟩ | ⟨c, hc, rfl⟩
    · obtain ⟨m, rest, htx⟩ := h.todo_of_queued hx
      obtain ⟨m', rest', hty⟩ := h.todo_of_queued hy
      have hlevel : level rank s y = toLex (rank l', .toDual (place (s.lock l').queue y)) := by
        rw [level, hty]
      rw [level, htx, hlevel, Prod.Lex.toLex_lt_toLex]
      rcases hlock with hheld | hplace
      · left
        obtain ⟨⟨y', m''⟩, hmem, rfl⟩ := List.mem_map.1 hheld
        obtain ⟨held, hh⟩ := h.holds y'
        have hfits := hh.fits
        rw [hty] at hfits
        exact hfits.1 _ ((hh.mem l m'').1 hmem)
      · right
        obtain ⟨m'', rest'', hty'⟩ := h.todo_of_queued (mem_of_place_lt hplace)
        rw [hty] at hty'
        cases hty'
        exact ⟨rfl, hplace⟩
    · obtain ⟨z', hz'⟩ := hz
      exact absurd hz' (hfree c y hc ⟨x, .inl ⟨l, hx, hlock⟩⟩ z')
  · exact absurd hyz (hfree c x hc hin z)

end Machine

end Sync
