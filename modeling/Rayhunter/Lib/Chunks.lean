import Mathlib.Data.List.Basic

/-!
# Cutting a stream at its terminators

`splitInclusive p l` cuts `l` after every element that satisfies `p`; the last chunk may lack its
terminator. `readUntil p l` takes the first chunk and leaves the rest, and reading until nothing
is left yields the same chunks (`splitInclusive_readUntil`).

The chunks of a concatenation are the concatenated chunks of the parts exactly when no part ends in
the middle of a chunk that a later part goes on with (`Aligned`): a part that does costs one chunk,
so already the numbers of chunks differ (`splitInclusive_flatten_iff`). Parts that are frames, ended
by the one terminator in them, are the chunks themselves (`splitInclusive_frames`).
-/

namespace Chunks

variable {α : Type*} {p : α → Bool}

/-- The chunks of a list, each ended by the element that satisfies `p`. -/
def splitInclusive (p : α → Bool) : List α → List (List α)
  | [] => []
  | a :: l =>
    if p a then [a] :: splitInclusive p l
    else match splitInclusive p l with
      | [] => [[a]]
      | c :: cs => (a :: c) :: cs

/-- The elements up to and including the first that satisfies `p`, and what follows it. -/
def readUntil (p : α → Bool) : List α → List α × List α
  | [] => ([], [])
  | a :: l => if p a then ([a], l) else (a :: (readUntil p l).1, (readUntil p l).2)

/-- The list stops in the middle of a chunk. -/
def Open (p : α → Bool) (l : List α) : Prop := ∃ a, l.getLast? = some a ∧ p a = false

@[simp] theorem splitInclusive_nil : splitInclusive p [] = [] := rfl

theorem splitInclusive_cons_of_pos {a : α} (h : p a = true) (l : List α) :
    splitInclusive p (a :: l) = [a] :: splitInclusive p l := by
  simp [splitInclusive, h]

theorem splitInclusive_cons_of_neg {a : α} (h : p a = false) (l : List α) :
    splitInclusive p (a :: l) = match splitInclusive p l with
      | [] => [[a]]
      | c :: cs => (a :: c) :: cs := by
  simp [splitInclusive, h]

/-- Only the empty list has no chunk. -/
@[simp] theorem splitInclusive_eq_nil {l : List α} : splitInclusive p l = [] ↔ l = [] := by
  cases l with
  | nil => simp
  | cons a l =>
    cases h : p a with
    | true => simp [splitInclusive_cons_of_pos h]
    | false => rw [splitInclusive_cons_of_neg h]; split <;> simp

/-- The chunks of the images are the images of the chunks. -/
theorem splitInclusive_map {β : Type*} (f : β → α) (l : List β) :
    splitInclusive p (l.map f) = (splitInclusive (fun b => p (f b)) l).map (List.map f) := by
  induction l with
  | nil => rfl
  | cons b l ih =>
    cases h : p (f b) with
    | true => simp [splitInclusive, h, ih]
    | false =>
      simp only [List.map_cons, splitInclusive, h, ih]
      cases splitInclusive (fun b => p (f b)) l <;> simp

/-! ## Reading chunk by chunk -/

/-- Reading takes at least one element off a list that has one. -/
theorem length_readUntil_lt {l : List α} (h : l ≠ []) : (readUntil p l).2.length < l.length := by
  induction l with
  | nil => exact absurd rfl h
  | cons a l ih =>
    rw [readUntil]
    split
    · simp
    · cases l with
      | nil => simp [readUntil]
      | cons b l => have := ih (by simp); simp only [List.length_cons] at this ⊢; omega

/-- Only the empty list has an empty first chunk. -/
@[simp] theorem readUntil_fst_eq_nil {l : List α} : (readUntil p l).1 = [] ↔ l = [] := by
  cases l with
  | nil => simp [readUntil]
  | cons a l => rw [readUntil]; split <;> simp

/-- What is read has an end of chunk where there is one at all. -/
theorem any_readUntil (l : List α) : (readUntil p l).1.any p = l.any p := by
  induction l with
  | nil => rfl
  | cons a l ih =>
    rw [readUntil]
    by_cases h : p a = true
    · rw [if_pos h, List.any_cons, List.any_cons, h]
      rfl
    · rw [if_neg h, List.any_cons, List.any_cons, ih]

/-- The chunks of a list are its first chunk as `readUntil` reads it and the chunks of what that
leaves. -/
theorem splitInclusive_readUntil {l : List α} (h : l ≠ []) :
    splitInclusive p l = (readUntil p l).1 :: splitInclusive p (readUntil p l).2 := by
  induction l with
  | nil => exact absurd rfl h
  | cons a l ih =>
    cases ha : p a with
    | true => simp [splitInclusive_cons_of_pos ha, readUntil, ha]
    | false =>
      rw [splitInclusive_cons_of_neg ha]
      cases l with
      | nil => simp [readUntil, ha]
      | cons b l => rw [ih (by simp)]; simp [readUntil, ha]

/-! ## The chunks of a concatenation -/

/-- A part that ends at a terminator is cut on its own. -/
theorem splitInclusive_append {l : List α} (h : ¬ Open p l) (m : List α) :
    splitInclusive p (l ++ m) = splitInclusive p l ++ splitInclusive p m := by
  induction l with
  | nil => rfl
  | cons a l ih =>
    cases ha : p a with
    | true =>
      have hl : ¬ Open p l := by
        rintro ⟨b, hb, hpb⟩
        exact h ⟨b, by simp [List.getLast?_cons, hb], hpb⟩
      simp [splitInclusive_cons_of_pos ha, ih hl]
    | false =>
      have hne : l ≠ [] := by rintro rfl; exact h ⟨a, rfl, ha⟩
      have hl : ¬ Open p l := by
        rintro ⟨b, hb, hpb⟩
        exact h ⟨b, by simp [List.getLast?_cons, hb], hpb⟩
      rw [List.cons_append, splitInclusive_cons_of_neg ha, splitInclusive_cons_of_neg ha, ih hl]
      cases hs : splitInclusive p l with
      | nil => exact absurd (splitInclusive_eq_nil.1 hs) hne
      | cons c cs => rfl

/-- A part that stops in the middle of a chunk, with more to follow, costs one chunk. -/
theorem length_splitInclusive_append {l m : List α} (h : Open p l) (hm : m ≠ []) :
    (splitInclusive p (l ++ m)).length + 1 =
      (splitInclusive p l).length + (splitInclusive p m).length := by
  induction l with
  | nil => obtain ⟨a, ha, _⟩ := h; simp at ha
  | cons a l ih =>
    cases hl : l with
    | nil =>
      subst hl
      obtain ⟨b, hb, hpb⟩ := h
      have hab : a = b := by simpa using hb
      subst hab
      rw [List.cons_append, List.nil_append, splitInclusive_cons_of_neg hpb,
        splitInclusive_cons_of_neg hpb]
      cases hs : splitInclusive p m with
      | nil => exact absurd (splitInclusive_eq_nil.1 hs) hm
      | cons c cs => simp; omega
    | cons b l' =>
      have hopen : Open p l := by
        obtain ⟨c, hc, hpc⟩ := h
        exact ⟨c, by simpa [hl, List.getLast?_cons_cons] using hc, hpc⟩
      have hlen := ih hopen
      rw [← hl, List.cons_append]
      cases ha : p a with
      | true =>
        rw [splitInclusive_cons_of_pos ha, splitInclusive_cons_of_pos ha]
        simp only [List.length_cons]
        omega
      | false =>
        rw [splitInclusive_cons_of_neg ha, splitInclusive_cons_of_neg ha]
        cases h1 : splitInclusive p l with
        | nil => rw [splitInclusive_eq_nil.1 h1] at hl; simp at hl
        | cons c cs =>
          cases h2 : splitInclusive p (l ++ m) with
          | nil => simp [hm] at h2
          | cons d ds =>
            rw [h1, h2] at hlen
            simpa using hlen

/-- No part stops in the middle of a chunk that a later part goes on with. -/
def Aligned (p : α → Bool) : List (List α) → Prop
  | [] => True
  | l :: ls => (Open p l → ls.flatten = []) ∧ Aligned p ls

theorem splitInclusive_flatten_of_aligned {ls : List (List α)} (h : Aligned p ls) :
    splitInclusive p ls.flatten = ls.flatMap (splitInclusive p) := by
  induction ls with
  | nil => rfl
  | cons l ls ih =>
    rw [List.flatten_cons, List.flatMap_cons, ← ih h.2]
    by_cases ho : Open p l
    · simp [h.1 ho]
    · exact splitInclusive_append ho _

/-- Cutting the parts one by one never gives fewer chunks than cutting the whole. -/
theorem length_splitInclusive_flatten_le (ls : List (List α)) :
    (splitInclusive p ls.flatten).length ≤ (ls.flatMap (splitInclusive p)).length := by
  induction ls with
  | nil => simp
  | cons l ls ih =>
    rw [List.flatten_cons, List.flatMap_cons, List.length_append]
    by_cases ho : Open p l
    · by_cases hne : ls.flatten = []
      · rw [hne, List.append_nil]; omega
      · have := length_splitInclusive_append ho hne
        omega
    · rw [splitInclusive_append ho, List.length_append]
      omega

/-- Equally many chunks only come from aligned parts. -/
theorem aligned_of_length {ls : List (List α)}
    (h : (splitInclusive p ls.flatten).length = (ls.flatMap (splitInclusive p)).length) :
    Aligned p ls := by
  induction ls with
  | nil => trivial
  | cons l ls ih =>
    rw [List.flatten_cons, List.flatMap_cons, List.length_append] at h
    have hle := length_splitInclusive_flatten_le (p := p) ls
    by_cases ho : Open p l
    · by_cases hne : ls.flatten = []
      · refine ⟨fun _ => hne, ih ?_⟩
        rw [hne, List.append_nil] at h
        rw [hne] at hle ⊢
        simp only [splitInclusive_nil, List.length_nil] at hle ⊢
        omega
      · have := length_splitInclusive_append ho hne
        omega
    · rw [splitInclusive_append ho, List.length_append] at h
      exact ⟨fun h' => absurd h' ho, ih (by omega)⟩

/-- **The two cuts agree exactly on aligned parts**, and no function applied to the chunks can
hide a difference. -/
theorem splitInclusive_flatten_iff {β : Type*} (f : List α → β) (ls : List (List α)) :
    (ls.flatMap (splitInclusive p)).map f = (splitInclusive p ls.flatten).map f ↔
      Aligned p ls := by
  constructor
  · intro h
    have := congrArg List.length h
    exact aligned_of_length (by simpa using this.symm)
  · intro h
    rw [splitInclusive_flatten_of_aligned h]

/-! ## Frames -/

/-- What has one terminator, at its end, is one chunk. -/
theorem splitInclusive_frame {l : List α} {t : α} (h : ∀ a ∈ l, p a = false) (ht : p t = true)
    (m : List α) : splitInclusive p (l ++ t :: m) = (l ++ [t]) :: splitInclusive p m := by
  induction l with
  | nil => simp [splitInclusive_cons_of_pos ht]
  | cons a l ih =>
    rw [List.cons_append, splitInclusive_cons_of_neg (h a List.mem_cons_self),
      ih fun b hb => h b (List.mem_cons_of_mem _ hb)]
    rfl

/-- Frames are cut off one by one, whatever follows them. -/
theorem splitInclusive_frames_append {fs : List (List α)}
    (h : ∀ f ∈ fs, ∃ l t, f = l ++ [t] ∧ (∀ a ∈ l, p a = false) ∧ p t = true) (m : List α) :
    splitInclusive p (fs.flatten ++ m) = fs ++ splitInclusive p m := by
  induction fs with
  | nil => rfl
  | cons f fs ih =>
    obtain ⟨l, t, rfl, hl, ht⟩ := h f List.mem_cons_self
    rw [List.flatten_cons, List.append_assoc, List.append_assoc, List.singleton_append,
      splitInclusive_frame hl ht, ih fun g hg => h g (List.mem_cons_of_mem _ hg)]
    rfl

/-- **Frames put one after the other are cut into the frames**, in their order. -/
theorem splitInclusive_frames {fs : List (List α)}
    (h : ∀ f ∈ fs, ∃ l t, f = l ++ [t] ∧ (∀ a ∈ l, p a = false) ∧ p t = true) :
    splitInclusive p fs.flatten = fs := by
  have hframes := splitInclusive_frames_append h []
  rwa [List.append_nil, splitInclusive_nil, List.append_nil] at hframes

/-! ## A stream cut off -/

/-- The frames that are whole in the first `n` elements of the frames put one after the other. -/
def wholeBefore : Nat → List (List α) → List (List α)
  | _, [] => []
  | n, f :: fs => if f.length ≤ n then f :: wholeBefore (n - f.length) fs else []

/-- Cut off, frames are those that are whole and perhaps the beginning of another. -/
theorem take_flatten (n : Nat) (fs : List (List α)) :
    ∃ part, fs.flatten.take n = (wholeBefore n fs).flatten ++ part ∧
      (part = [] ∨ ∃ f ∈ fs, part <+: f ∧ part.length < f.length) := by
  induction fs generalizing n with
  | nil => exact ⟨[], by simp [wholeBefore], .inl rfl⟩
  | cons f fs ih =>
    rw [wholeBefore]
    split
    · next hle =>
      obtain ⟨part, hpart, hcut⟩ := ih (n - f.length)
      refine ⟨part, ?_, hcut.imp_right fun ⟨g, hg, hpre⟩ => ⟨g, List.mem_cons_of_mem _ hg, hpre⟩⟩
      rw [List.flatten_cons, List.take_append, List.take_of_length_le hle, hpart,
        List.flatten_cons, List.append_assoc]
    · next hlt =>
      refine ⟨f.take n, ?_, .inr ⟨f, List.mem_cons_self, List.take_prefix n f, ?_⟩⟩
      · rw [List.flatten_cons, List.take_append_of_le_length (by omega)]
        rfl
      · rw [List.length_take]
        omega

theorem mem_wholeBefore {n : Nat} {fs : List (List α)} {f : List α} (h : f ∈ wholeBefore n fs) :
    f ∈ fs := by
  induction fs generalizing n with
  | nil => exact h
  | cons g fs ih =>
    rw [wholeBefore] at h
    split at h
    · exact (List.mem_cons.1 h).elim (fun h => h ▸ List.mem_cons_self)
        fun h => List.mem_cons_of_mem _ (ih h)
    · cases h

/-- What has no terminator is one chunk, if it is anything. -/
theorem splitInclusive_open {l : List α} (h : ∀ a ∈ l, p a = false) :
    splitInclusive p l = if l = [] then [] else [l] := by
  induction l with
  | nil => rfl
  | cons a l ih =>
    rw [splitInclusive_cons_of_neg (h a List.mem_cons_self),
      ih fun b hb => h b (List.mem_cons_of_mem _ hb)]
    cases l <;> rfl

/-- **Frames cut off are cut into those that are whole and perhaps the beginning of another.** -/
theorem splitInclusive_take {fs : List (List α)}
    (h : ∀ f ∈ fs, ∃ l t, f = l ++ [t] ∧ (∀ a ∈ l, p a = false) ∧ p t = true) (n : Nat) :
    ∃ part, splitInclusive p (fs.flatten.take n) =
        wholeBefore n fs ++ (if part = [] then [] else [part]) ∧ ∀ a ∈ part, p a = false := by
  obtain ⟨part, htake, hcut⟩ := take_flatten n fs
  have hpart : ∀ a ∈ part, p a = false := by
    rcases hcut with rfl | ⟨f, hf, hpre, hlt⟩
    · exact nofun
    · obtain ⟨l, t, rfl, hl, -⟩ := h f hf
      rcases List.prefix_concat_iff.1 hpre with rfl | hpre
      · exact absurd hlt (Nat.lt_irrefl _)
      · exact fun a ha => hl a (hpre.subset ha)
  refine ⟨part, ?_, hpart⟩
  rw [htake, splitInclusive_frames_append fun f hf => h f (mem_wholeBefore hf),
    splitInclusive_open hpart]

end Chunks
