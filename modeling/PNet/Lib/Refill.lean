import Mathlib.Data.Set.Image
import Mathlib.Logic.Function.Basic
import Mathlib.Tactic.Common

/-! # Filling an array in place

A loop goes through a list and writes what it finds about an item into the entry of an array at an
index. It goes on to the next index only when the item counts, so that the entry of an item that does
not count is written over. What an entry does not get written stays as it was before.

* `Refill.entries_fill`: the entries that count, one after the other.
* `Refill.emitted_iff`: when they are the expected ones, whatever the array contained before.
-/

namespace PNet

namespace Refill

variable {α β γ : Type*} (visit : β → α → β × Bool) (view : β → γ)

/-- The array and the index after the loop. -/
def fill : (ℕ → β) → ℕ → List α → (ℕ → β) × ℕ
  | f, n, [] => (f, n)
  | f, n, x :: xs =>
    fill (Function.update f n (visit (f n) x).1) (if (visit (f n) x).2 then n + 1 else n) xs

/-- What the entries that count say. -/
def entries (r : (ℕ → β) × ℕ) : List γ := (List.range r.2).map fun i => view (r.1 i)

/-- The entries that an array gets from the index 0 on. -/
def emitted : (ℕ → β) → List α → List γ
  | _, [] => []
  | g, x :: xs =>
    if (visit (g 0) x).2 then view (visit (g 0) x).1 :: emitted (fun k => g (k + 1)) xs
    else emitted (Function.update g 0 (visit (g 0) x).1) xs

variable {visit view} {f g : ℕ → β} {n : ℕ} {x : α} {xs : List α}

theorem emitted_pos (h : (visit (g 0) x).2 = true) : emitted visit view g (x :: xs) =
    view (visit (g 0) x).1 :: emitted visit view (fun k => g (k + 1)) xs := if_pos h

theorem emitted_neg (h : (visit (g 0) x).2 = false) : emitted visit view g (x :: xs) =
    emitted visit view (Function.update g 0 (visit (g 0) x).1) xs :=
  if_neg (h ▸ Bool.false_ne_true)

/-- The entries before the index stay, and others follow. -/
theorem entries_fill (f : ℕ → β) (n : ℕ) (xs : List α) : entries view (fill visit f n xs) =
    (List.range n).map (fun i => view (f i)) ++ emitted visit view (fun k => f (n + k)) xs := by
  induction xs generalizing f n with
  | nil => exact (List.append_nil _).symm
  | cons x xs ih =>
    have hbefore : (List.range n).map (fun i => view (Function.update f n (visit (f n) x).1 i)) =
        (List.range n).map fun i => view (f i) := by
      apply List.map_congr_left
      intro i hi
      rw [Function.update_of_ne (List.mem_range.mp hi).ne]
    unfold fill
    rw [ih]
    cases hcount : (visit (f n) x).2 with
    | true =>
      have hrest : (fun k => Function.update f n (visit (f n) x).1 (n + 1 + k)) =
          fun k => f (n + (k + 1)) := by
        funext k
        rw [Function.update_of_ne (by omega)]
        congr 1
        omega
      rw [if_pos rfl, List.range_succ, List.map_append, hbefore, hrest, List.append_assoc,
        emitted_pos hcount, List.map_singleton, Function.update_self]
      rfl
    | false =>
      have hrest : (fun k => Function.update f n (visit (f n) x).1 (n + k)) =
          Function.update (fun k => f (n + k)) 0 (visit (f n) x).1 := by
        funext k
        cases k with
        | zero => rw [Nat.add_zero, Function.update_self, Function.update_self]
        | succ k =>
          rw [Function.update_of_ne (by omega), Function.update_of_ne (Nat.succ_ne_zero k)]
      rw [if_neg Bool.false_ne_true, hbefore, hrest, emitted_neg hcount]
      rfl

/-- From the start of the array. -/
theorem entries_fill_zero (f : ℕ → β) (xs : List α) :
    entries view (fill visit f 0 xs) = emitted visit view f xs := by
  rw [entries_fill]
  simp only [Nat.zero_add]
  rfl

theorem fill_count (view : β → γ) (f : ℕ → β) (xs : List α) :
    (fill visit f 0 xs).2 = (emitted visit view f xs).length := by
  rw [← entries_fill_zero, entries, List.length_map, List.length_range]

/-! ## Whatever the array contained -/

variable (visit view) (expected : α → Option γ) (T : Set β)

/-- The entries come out as expected, when the current one is in `S` and the others in `T`. -/
def Holds : Set β → List α → Prop
  | _, [] => True
  | S, x :: xs =>
    match expected x with
    | none => Holds ((fun b => (visit b x).1) '' S) xs
    | some v => (∀ b ∈ S, view (visit b x).1 = v) ∧ Holds T xs

variable {visit view expected T}

/-- As many entries count as are expected. -/
theorem emitted_length (view : β → γ) (hcount : ∀ b x, (visit b x).2 = (expected x).isSome) (g : ℕ → β)
    (xs : List α) : (emitted visit view g xs).length = (xs.filterMap expected).length := by
  induction xs generalizing g with
  | nil => rfl
  | cons x xs ih =>
    cases hx : expected x with
    | none =>
      have hneg : (visit (g 0) x).2 = false := by
        rw [hcount, hx]
        rfl
      rw [emitted_neg hneg, List.filterMap_cons_none hx, ih]
    | some v =>
      have hpos : (visit (g 0) x).2 = true := by
        rw [hcount, hx]
        rfl
      rw [emitted_pos hpos, List.filterMap_cons_some hx, List.length_cons, List.length_cons, ih]

/-- Entries of a kind that each item keeps when it does not count, and of which it says what is
expected when it does. -/
structure Kept (visit : β → α → β × Bool) (view : β → γ) (expected : α → Option γ) (C : Set β)
    (xs : List α) : Prop where
  count : ∀ x ∈ xs, ∀ b, (visit b x).2 = (expected x).isSome
  keep : ∀ x ∈ xs, ∀ b ∈ C, expected x = none → (visit b x).1 ∈ C
  say : ∀ x ∈ xs, ∀ b ∈ C, ∀ v, expected x = some v → view (visit b x).1 = v

theorem Kept.tail {C : Set β} (h : Kept visit view expected C (x :: xs)) :
    Kept visit view expected C xs :=
  ⟨fun y hy => h.count y (List.mem_cons_of_mem x hy),
    fun y hy => h.keep y (List.mem_cons_of_mem x hy), fun y hy => h.say y (List.mem_cons_of_mem x hy)⟩

theorem update_mem {C : Set β} {b : β} (hb : b ∈ C) (hg : ∀ k, g k ∈ C) (k : ℕ) :
    Function.update g 0 b k ∈ C := by
  cases k with
  | zero =>
    rw [Function.update_self]
    exact hb
  | succ k =>
    rw [Function.update_of_ne (Nat.succ_ne_zero k)]
    exact hg (k + 1)

theorem Kept.emitted {C : Set β} (h : Kept visit view expected C xs)
    (hg : ∀ k, g k ∈ C) :
    emitted visit view g xs = xs.filterMap expected := by
  induction xs generalizing g with
  | nil => rfl
  | cons x xs ih =>
    cases hx : expected x with
    | none =>
      have hneg : (visit (g 0) x).2 = false := by
        rw [h.count x List.mem_cons_self, hx]
        rfl
      rw [emitted_neg hneg, List.filterMap_cons_none hx]
      exact ih h.tail (update_mem (h.keep x List.mem_cons_self _ (hg 0) hx) hg)
    | some v =>
      have hpos : (visit (g 0) x).2 = true := by
        rw [h.count x List.mem_cons_self, hx]
        rfl
      rw [emitted_pos hpos, List.filterMap_cons_some hx,
        h.say x List.mem_cons_self _ (hg 0) v hx, ih h.tail fun k => hg (k + 1)]

/-- No item counts. -/
theorem Kept.fill {C : Set β} (h : Kept visit view expected C xs)
    (hnone : ∀ x ∈ xs, expected x = none) (hf : ∀ k, f k ∈ C) (k : ℕ) : (fill visit f 0 xs).1 k ∈ C := by
  induction xs generalizing f with
  | nil => exact hf k
  | cons x xs ih =>
    have hx := hnone x List.mem_cons_self
    have hneg : (visit (f 0) x).2 = false := by
      rw [h.count x List.mem_cons_self, hx]
      rfl
    unfold Refill.fill
    rw [hneg, if_neg Bool.false_ne_true]
    exact ih h.tail (fun y hy => hnone y (List.mem_cons_of_mem x hy))
      (update_mem (h.keep x List.mem_cons_self _ (hf 0) hx) hf)

/-- An array with a first entry. -/
def push (b : β) (g : ℕ → β) : ℕ → β
  | 0 => b
  | k + 1 => g k

theorem emitted_iff (hcount : ∀ b x, (visit b x).2 = (expected x).isSome) (hT : T.Nonempty)
    {S : Set β} (hS : S.Nonempty) :
    (∀ g : ℕ → β, g 0 ∈ S → (∀ k, g (k + 1) ∈ T) →
      emitted visit view g xs = xs.filterMap expected) ↔ Holds visit view expected T S xs := by
  -- induction on the items; the set is what is known about the current entry
  induction xs generalizing S with
  | nil => exact iff_of_true (fun _ _ _ => rfl) trivial
  | cons x xs ih =>
    unfold Holds
    cases hx : expected x with
    | none =>
      have hneg (g : ℕ → β) : (visit (g 0) x).2 = false := by
        rw [hcount, hx]
        rfl
      dsimp only
      rw [← ih (Set.Nonempty.image _ hS), List.filterMap_cons_none hx]
      constructor
      · rintro h g ⟨b, hb, hg⟩ hrest
        dsimp only at hg
        have hall := h (Function.update g 0 b) (by rwa [Function.update_self]) fun k => by
          rw [Function.update_of_ne (Nat.succ_ne_zero k)]
          exact hrest k
        rw [emitted_neg (hneg _), Function.update_self, Function.update_idem, hg,
          Function.update_eq_self] at hall
        exact hall
      · intro h g hg hrest
        rw [emitted_neg (hneg g)]
        refine h _ ⟨g 0, hg, by rw [Function.update_self]⟩ fun k => ?_
        rw [Function.update_of_ne (Nat.succ_ne_zero k)]
        exact hrest k
    | some v =>
      have hpos (g : ℕ → β) : (visit (g 0) x).2 = true := by
        rw [hcount, hx]
        rfl
      rcases hS with ⟨b₀, hb₀⟩
      rcases hT with ⟨t, ht⟩
      dsimp only
      rw [← ih ⟨t, ht⟩, List.filterMap_cons_some hx]
      constructor
      · intro h
        constructor
        · intro b hb
          have hall := h (push b fun _ => t) hb fun _ => ht
          rw [emitted_pos (hpos _)] at hall
          exact (List.cons.inj hall).1
        · intro g hg hrest
          have hall := h (push b₀ g) hb₀ fun k => by
            cases k with
            | zero => exact hg
            | succ k => exact hrest k
          rw [emitted_pos (hpos _)] at hall
          exact (List.cons.inj hall).2
      · rintro ⟨hfirst, hothers⟩ g hg hrest
        rw [emitted_pos (hpos g), hfirst (g 0) hg,
          hothers (fun k => g (k + 1)) (hrest 0) fun k => hrest (k + 1)]

end Refill

end PNet
