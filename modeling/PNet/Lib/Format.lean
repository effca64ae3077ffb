import Mathlib.Data.List.Basic
import Mathlib.Tactic.Common

/-! # Formats

A format says how a value stands in a list of symbols: `put` writes it, and `get` takes it from the
front of a list. What is read is exactly what would have been written. Formats of records and of
counted lists are built from those of their parts.
-/

structure Format (σ α : Type) where
  put : α → List σ
  get : List σ → Option (α × List σ)
  /-- The values that the format has room for. -/
  Valid : α → Prop
  get_put : ∀ a rest, Valid a → get (put a ++ rest) = some (a, rest)
  put_get : ∀ l p, get l = some p → Valid p.1 ∧ l = put p.1 ++ p.2

namespace Format

variable {σ α β : Type}

/-- The value that the whole list stands for. -/
def decode (f : Format σ α) (l : List σ) : Option α :=
  (f.get l).bind fun p => if p.2.isEmpty then some p.1 else none

theorem decode_eq_some {f : Format σ α} {l : List σ} {a : α} :
    f.decode l = some a ↔ f.Valid a ∧ l = f.put a := by
  unfold decode
  constructor
  · intro h
    rcases Option.bind_eq_some_iff.mp h with ⟨p, hp, hend⟩
    rcases f.put_get l p hp with ⟨hvalid, hl⟩
    by_cases hempty : p.2.isEmpty
    · rw [if_pos hempty] at hend
      cases hend
      refine ⟨hvalid, ?_⟩
      rw [hl, List.isEmpty_iff.mp hempty, List.append_nil]
    · rw [if_neg hempty] at hend
      cases hend
  · intro h
    rcases h with ⟨hvalid, rfl⟩
    have hget := f.get_put a [] hvalid
    rw [List.append_nil] at hget
    rw [hget]
    rfl

/-! ## Records -/

/-- One value behind the other. -/
def prod (f : Format σ α) (g : Format σ β) : Format σ (α × β) where
  put p := f.put p.1 ++ g.put p.2
  get l := (f.get l).bind fun p => (g.get p.2).map fun q => ((p.1, q.1), q.2)
  Valid p := f.Valid p.1 ∧ g.Valid p.2
  get_put := by
    intro a rest hvalid
    rw [List.append_assoc, f.get_put _ _ hvalid.1, Option.bind_some, g.get_put _ _ hvalid.2]
    rfl
  put_get := by
    intro l p h
    rcases Option.bind_eq_some_iff.mp h with ⟨q, hq, hrest⟩
    rcases Option.map_eq_some_iff.mp hrest with ⟨r, hr, rfl⟩
    rcases f.put_get l q hq with ⟨hvalid, hl⟩
    rcases g.put_get q.2 r hr with ⟨hvalid', hl'⟩
    refine ⟨⟨hvalid, hvalid'⟩, ?_⟩
    rw [hl, hl', List.append_assoc]

/-- The same symbols for the values of another type. -/
def as (f : Format σ α) (mk : α → β) (unmk : β → α) (Valid : β → Prop)
    (hmk : ∀ a, f.Valid a → Valid (mk a) ∧ unmk (mk a) = a)
    (hunmk : ∀ b, Valid b → f.Valid (unmk b) ∧ mk (unmk b) = b) : Format σ β where
  put b := f.put (unmk b)
  get l := (f.get l).map fun p => (mk p.1, p.2)
  Valid := Valid
  get_put := by
    intro b rest hvalid
    rw [f.get_put _ _ (hunmk b hvalid).1, Option.map_some, (hunmk b hvalid).2]
  put_get := by
    intro l p h
    rcases Option.map_eq_some_iff.mp h with ⟨q, hq, rfl⟩
    rcases f.put_get l q hq with ⟨hvalid, hl⟩
    refine ⟨(hmk _ hvalid).1, ?_⟩
    rw [(hmk _ hvalid).2]
    exact hl

/-! ## Counted lists -/

/-- `n` values, one behind the other. -/
def getMany (f : Format σ α) : ℕ → List σ → Option (List α × List σ)
  | 0, l => some ([], l)
  | n + 1, l => (f.get l).bind fun p => (f.getMany n p.2).map fun q => (p.1 :: q.1, q.2)

def putMany (f : Format σ α) (as : List α) : List σ := as.flatMap f.put

theorem getMany_putMany (f : Format σ α) (as : List α) (rest : List σ)
    (hvalid : ∀ a ∈ as, f.Valid a) :
    f.getMany as.length (f.putMany as ++ rest) = some (as, rest) := by
  induction as with
  | nil => rfl
  | cons a as ih =>
    have hrest := ih fun b hb => hvalid b (List.mem_cons_of_mem _ hb)
    rw [putMany, List.flatMap_cons, List.append_assoc, List.length_cons, getMany,
      f.get_put _ _ (hvalid a List.mem_cons_self), Option.bind_some]
    rw [putMany] at hrest
    rw [hrest]
    rfl

theorem putMany_getMany (f : Format σ α) (n : ℕ) :
    ∀ l p, f.getMany n l = some p →
      p.1.length = n ∧ (∀ a ∈ p.1, f.Valid a) ∧ l = f.putMany p.1 ++ p.2 := by
  induction n with
  | zero =>
    intro l p h
    cases h
    exact ⟨rfl, fun _ ha => absurd ha List.not_mem_nil, rfl⟩
  | succ n ih =>
    intro l p h
    rcases Option.bind_eq_some_iff.mp h with ⟨q, hq, hrest⟩
    rcases Option.map_eq_some_iff.mp hrest with ⟨r, hr, rfl⟩
    rcases f.put_get l q hq with ⟨hvalid, hl⟩
    rcases ih q.2 r hr with ⟨hlen, hvalids, hl'⟩
    refine ⟨congrArg Nat.succ hlen, ?_, ?_⟩
    · intro a ha
      rcases List.mem_cons.mp ha with rfl | ha
      · exact hvalid
      · exact hvalids a ha
    · rw [hl, hl', putMany, putMany, List.flatMap_cons, List.append_assoc]

/-- The number of the values, and the values. -/
def counted (c : Format σ ℕ) (f : Format σ α) : Format σ (List α) where
  put as := c.put as.length ++ f.putMany as
  get l := (c.get l).bind fun p => f.getMany p.1 p.2
  Valid as := c.Valid as.length ∧ ∀ a ∈ as, f.Valid a
  get_put := by
    intro as rest hvalid
    rw [List.append_assoc, c.get_put _ _ hvalid.1, Option.bind_some]
    exact f.getMany_putMany as rest hvalid.2
  put_get := by
    intro l p h
    rcases Option.bind_eq_some_iff.mp h with ⟨q, hq, hr⟩
    rcases c.put_get l q hq with ⟨hvalid, hl⟩
    rcases f.putMany_getMany q.1 q.2 p hr with ⟨hlen, hvalids, hl'⟩
    rw [hlen]
    refine ⟨⟨hvalid, hvalids⟩, ?_⟩
    rw [hl, hl', List.append_assoc]

end Format
