import Mathlib.Data.List.Basic

/-!
# Parsers and their grammars

A parser that fails or goes on, over a state in which there is a text to read and a way to skip some
of it. Its grammar is what it reads of the text for each of its values, and `Parses` says that it
accepts exactly that. The grammar of a parser is put together as the parser is (`Parses.bind`), and
begins no text in two ways, since a parser that has read enough does not look further
(`Parses.unambiguous`).
-/

/-- A state of reading: what is left to read, and what is left after skipping some of it. -/
class Cursor (σ : Type) (τ : outParam Type) where
  rest : σ → List τ
  skip : Nat → σ → σ
  rest_skip (n : Nat) (s : σ) : rest (skip n s) = (rest s).drop n
  skip_zero (s : σ) : skip 0 s = s
  skip_skip (m n : Nat) (s : σ) : skip n (skip m s) = skip (m + n) s

namespace Cursor

variable {σ τ : Type} [Cursor σ τ]

/-- Two readings that end in one state have read as much. -/
theorem length_eq {s : σ} {ts us : List τ} (ht : ts <+: rest s) (hu : us <+: rest s)
    (h : skip ts.length s = skip us.length s) : ts.length = us.length := by
  have hlength := congrArg (fun s' => (rest s').length) h
  simp only [rest_skip, List.length_drop] at hlength
  have := ht.length_le
  have := hu.length_le
  omega

end Cursor

section Parsers

open Cursor

variable {σ τ α β : Type} [Cursor σ τ]

/-- The parser reads what the grammar has for a value, and skips it. -/
def Parses (p : StateT σ Option α) (G : α → List τ → Prop) : Prop :=
  ∀ s a s', p s = some (a, s') ↔ ∃ ts, G a ts ∧ ts <+: rest s ∧ s' = skip ts.length s

/-- A parser that is only used where its part is there. -/
def optionally (present : Bool) (p : StateT σ Option α) : StateT σ Option (Option α) :=
  if present then some <$> p else pure none

theorem optionally_bind (present : Bool) (p : StateT σ Option α)
    (f : Option α → StateT σ Option β) :
    optionally present p >>= f = if present then p >>= fun a => f (some a) else f none := by
  cases present with
  | false => exact pure_bind none f
  | true => exact bind_map_left some p f

namespace Parses

variable {p : StateT σ Option α} {f : α → StateT σ Option β} {G G' : α → List τ → Prop}
  {H : α → β → List τ → Prop}

theorem congr (h : Parses p G) (hG : ∀ a ts, G a ts ↔ G' a ts) : Parses p G' := by
  obtain rfl : G = G' := funext fun a => funext fun ts => propext (hG a ts)
  exact h

theorem pure (a : α) :
    Parses (pure a : StateT σ Option α) fun a' ts => a' = a ∧ ts = ([] : List τ) := by
  intro s a' s'
  constructor
  · intro h
    cases h
    exact ⟨[], ⟨rfl, rfl⟩, List.nil_prefix, (skip_zero s).symm⟩
  · rintro ⟨_, ⟨rfl, rfl⟩, -, rfl⟩
    rw [List.length_nil, skip_zero]
    rfl

theorem failure : Parses (failure : StateT σ Option α) fun _ _ => False := by
  intro s a s'
  exact iff_of_false (Option.some_ne_none _).symm fun ⟨_, h, _⟩ => h

/-- One after the other, two parsers read one text after the other. -/
theorem bind (hp : Parses p G) (hf : ∀ a, Parses (f a) (H a)) :
    Parses (p >>= f) fun b ts => ∃ a us vs, G a us ∧ H a b vs ∧ ts = us ++ vs := by
  intro s b s''
  have hrun : (p >>= f) s = some (b, s'') ↔ ∃ a s', p s = some (a, s') ∧ f a s' = some (b, s'') := by
    refine Option.bind_eq_some_iff.trans ⟨?_, ?_⟩
    · rintro ⟨⟨a, s'⟩, hp, hf⟩
      exact ⟨a, s', hp, hf⟩
    · rintro ⟨a, s', hp, hf⟩
      exact ⟨(a, s'), hp, hf⟩
  rw [hrun]
  constructor
  · rintro ⟨a, s', h, h'⟩
    obtain ⟨us, hG, ⟨r, hr⟩, rfl⟩ := (hp s a s').1 h
    obtain ⟨vs, hH, hvs, rfl⟩ := (hf a _ b s'').1 h'
    refine ⟨us ++ vs, ⟨a, us, vs, hG, hH, rfl⟩, ?_, ?_⟩
    · rw [rest_skip, ← hr, List.drop_left] at hvs
      rw [← hr]
      exact (List.prefix_append_right_inj us).2 hvs
    · rw [skip_skip, List.length_append]
  · rintro ⟨_, ⟨a, us, vs, hG, hH, rfl⟩, hts, rfl⟩
    refine ⟨a, _, (hp s a _).2 ⟨us, hG, (List.prefix_append us vs).trans hts, rfl⟩, ?_⟩
    refine (hf a _ b _).2 ⟨vs, hH, ?_, ?_⟩
    · obtain ⟨r, hr⟩ := hts
      rw [rest_skip, ← hr, List.append_assoc, List.drop_left]
      exact List.prefix_append vs r
    · rw [skip_skip, List.length_append]

theorem map (hp : Parses p G) (g : α → β) :
    Parses (g <$> p) fun b ts => ∃ a, G a ts ∧ b = g a := by
  refine (hp.bind fun a => pure (g a)).congr fun b ts => ⟨?_, ?_⟩
  · rintro ⟨a, us, vs, hG, ⟨rfl, rfl⟩, rfl⟩
    exact ⟨a, by rwa [List.append_nil], rfl⟩
  · rintro ⟨a, hG, rfl⟩
    exact ⟨a, ts, [], hG, ⟨rfl, rfl⟩, (List.append_nil ts).symm⟩

/-- A parser that refuses what has been read before. -/
theorem refusing (hp : Parses p G) (refused : Bool) :
    Parses (if refused then Alternative.failure else p) fun a ts => refused = false ∧ G a ts := by
  cases refused with
  | false => exact hp.congr fun a ts => (and_iff_right rfl).symm
  | true => exact failure.congr fun a ts => iff_of_false id fun h => Bool.noConfusion h.1

/-- A part that is there or not, as has been said before. -/
theorem optional {enc : α → List τ} (hp : Parses p fun a ts => ts = enc a) (present : Bool) :
    Parses (optionally present p) fun o ts => o.isSome = present ∧ ts = o.elim [] enc := by
  cases present with
  | false =>
    refine (Parses.pure none).congr fun o ts => ?_
    cases o <;> simp
  | true =>
    refine (hp.map some).congr fun o ts => ?_
    cases o <;> simp

/-- Of what begins a text, the grammar has one. -/
theorem unambiguous (hp : Parses p G) {s : σ} {a b : α} {ts us : List τ} (ha : G a ts) (hb : G b us)
    (ht : ts <+: rest s) (hu : us <+: rest s) : a = b ∧ ts = us := by
  have h := ((hp s a _).2 ⟨ts, ha, ht, rfl⟩).symm.trans ((hp s b _).2 ⟨us, hb, hu, rfl⟩)
  obtain ⟨rfl, hs⟩ := Prod.mk.inj (Option.some.inj h)
  exact ⟨rfl, (List.prefix_of_prefix_length_le ht hu (Nat.le_of_eq (length_eq ht hu hs))).eq_of_length
    (length_eq ht hu hs)⟩

/-- The values of a parser. -/
theorem run'_eq_some_iff (hp : Parses p G) {s : σ} {a : α} :
    p.run' s = some a ↔ ∃ ts, G a ts ∧ ts <+: rest s := by
  have hrun : p.run' s = some a ↔ ∃ s', p s = some (a, s') := by
    refine Option.map_eq_some_iff.trans ⟨?_, ?_⟩
    · rintro ⟨⟨b, s'⟩, hp, rfl⟩
      exact ⟨s', hp⟩
    · rintro ⟨s', hp⟩
      exact ⟨(a, s'), hp, rfl⟩
  rw [hrun]
  constructor
  · rintro ⟨s', h⟩
    obtain ⟨ts, hG, hts, -⟩ := (hp s a s').1 h
    exact ⟨ts, hG, hts⟩
  · rintro ⟨ts, hG, hts⟩
    exact ⟨_, (hp s a _).2 ⟨ts, hG, hts, rfl⟩⟩

end Parses

end Parsers
