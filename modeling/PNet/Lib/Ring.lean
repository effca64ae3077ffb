import Mathlib.Data.List.TakeDrop
import Mathlib.Data.Nat.ModEq
import Mathlib.Logic.Function.Basic
import Mathlib.Tactic.Common

/-! # Rings

A ring of `n` cells, which forgets its oldest element for a new one, and the walk from one index
to another.

* `Holds`: what a ring has after any number of elements.
* `Holds.walk_all`, `Holds.walk_behind`: a walk up to the index of the next element, from the first
  cell or from the cell behind that index.
-/

namespace PNet

variable {α : Type}

structure Ring (α : Type) where
  entries : ℕ → α
  /-- The index of the next element. -/
  put : ℕ
  /-- All cells have been used. -/
  wrap : Bool

namespace Ring

/-- The index behind `i`. -/
def next (n i : ℕ) : ℕ := if n ≤ i + 1 then 0 else i + 1

def push (n : ℕ) (r : Ring α) (x : α) : Ring α where
  entries := Function.update r.entries r.put x
  put := next n r.put
  wrap := r.wrap || decide (n ≤ r.put + 1)

/-- The cells from `ix` to the one before `stop`, `fuel` of them at most. -/
def walk (n : ℕ) (entries : ℕ → α) (stop : ℕ) : ℕ → ℕ → List α
  | 0, _ => []
  | fuel + 1, ix => if ix = stop then [] else entries ix :: walk n entries stop fuel (next n ix)

/-- The last `n` elements. -/
def recent (n : ℕ) (xs : List α) : List α := xs.drop (xs.length - n)

/-- The ring after the elements `xs`. -/
structure Holds (n : ℕ) (r : Ring α) (xs : List α) : Prop where
  put_eq : r.put = xs.length % n
  wrap_iff : r.wrap = true ↔ n ≤ xs.length
  /-- The last `n` elements are in their cells. -/
  entry : ∀ j (hj : j < xs.length), xs.length ≤ j + n → r.entries (j % n) = xs[j]

theorem next_mod {n : ℕ} (hn : 0 < n) (i : ℕ) : next n (i % n) = (i + 1) % n := by
  have hlt := Nat.mod_lt i hn
  have hmod : (i + 1) % n = (i % n + 1) % n := (Nat.mod_add_mod i n 1).symm
  rw [hmod]
  unfold next
  split
  · have hlast : i % n + 1 = n := by omega
    rw [hlast, Nat.mod_self]
  · exact (Nat.mod_eq_of_lt (by omega)).symm

theorem Holds.empty {n : ℕ} (hn : 0 < n) (entries : ℕ → α) :
    Holds n ⟨entries, 0, false⟩ [] := by
  refine ⟨(Nat.zero_mod n).symm, ?_, ?_⟩
  · constructor
    · intro h
      cases h
    · intro h
      exact absurd hn (Nat.not_lt.mpr h)
  · intro j hj
    exact absurd hj (Nat.not_lt_zero j)

/-- Elements less than a round apart have different cells. -/
theorem mod_ne {n j k : ℕ} (hlt : j < k) (hnear : k < j + n) : j % n ≠ k % n := by
  intro h
  have hdvd : n ∣ k - j := (Nat.modEq_iff_dvd' hlt.le).mp (show Nat.ModEq n j k from h)
  have hle := Nat.le_of_dvd (by omega) hdvd
  omega

/-- One more element. -/
theorem Holds.push {n : ℕ} (hn : 0 < n) {r : Ring α} {xs : List α} (h : Holds n r xs) (x : α) :
    Holds n (r.push n x) (xs ++ [x]) := by
  have hlen : (xs ++ [x]).length = xs.length + 1 := by rw [List.length_append]; rfl
  constructor
  · rw [hlen, ← next_mod hn, ← h.put_eq]
    rfl
  · show (r.wrap || decide (n ≤ r.put + 1)) = true ↔ _
    rw [Bool.or_eq_true, h.wrap_iff, decide_eq_true_eq, h.put_eq, hlen]
    constructor
    · rintro (hfull | hlast)
      · omega
      · have := Nat.mod_le xs.length n
        omega
    · intro hle
      by_cases hfull : n ≤ xs.length
      · exact .inl hfull
      · right
        rw [Nat.mod_eq_of_lt (by omega)]
        exact hle
  · intro j hj hnear
    rw [hlen] at hj hnear
    show Function.update r.entries r.put x (j % n) = _
    rw [h.put_eq]
    by_cases hlast : j = xs.length
    · subst hlast
      rw [Function.update_self, List.getElem_concat_length rfl]
    · have hj' : j < xs.length := by omega
      rw [Function.update_of_ne (mod_ne hj' (by omega)), List.getElem_append_left hj']
      exact h.entry j hj' (by omega)

/-- A walk of `k` cells. -/
theorem walk_eq {n : ℕ} (hn : 0 < n) (entries : ℕ → α) {k fuel : ℕ} (hk : k < n) (hfuel : k ≤ fuel)
    (i : ℕ) :
    walk n entries ((i + k) % n) fuel (i % n) =
      (List.range' i k).map fun j => entries (j % n) := by
  induction k generalizing fuel i with
  | zero =>
    rcases fuel with _ | fuel
    · rfl
    · exact if_pos rfl
  | succ k ih =>
    rcases fuel with _ | fuel
    · exact absurd hfuel (Nat.not_succ_le_zero k)
    · have hne : i % n ≠ (i + (k + 1)) % n := mod_ne (by omega) (by omega)
      rw [walk, if_neg hne, next_mod hn, List.range'_succ, List.map_cons,
        show i + (k + 1) = i + 1 + k by omega,
        ih (by omega) (Nat.le_of_succ_le_succ hfuel)]

theorem Holds.map_entries {n : ℕ} {r : Ring α} {xs : List α} (h : Holds n r xs) {i k : ℕ}
    (hik : i + k = xs.length) (hnear : xs.length ≤ i + n) :
    ((List.range' i k).map fun j => r.entries (j % n)) = xs.drop i := by
  apply List.ext_getElem
  · rw [List.length_map, List.length_range', List.length_drop]
    omega
  · intro d hd hd'
    rw [List.length_map, List.length_range'] at hd
    rw [List.getElem_map, List.getElem_range', List.getElem_drop, Nat.one_mul]
    exact h.entry (i + d) (by omega) (by omega)

/-- The walk from the first cell, before the ring is full. -/
theorem Holds.walk_all {n : ℕ} (hn : 0 < n) {r : Ring α} {xs : List α} (h : Holds n r xs)
    (hlt : xs.length < n) {fuel : ℕ} (hfuel : n ≤ fuel) :
    walk n r.entries r.put fuel 0 = xs := by
  have hwalk := walk_eq hn r.entries hlt (by omega : xs.length ≤ fuel) 0
  rw [Nat.zero_mod, Nat.zero_add, ← h.put_eq, h.map_entries (Nat.zero_add _) (by omega)] at hwalk
  exact hwalk

/-- The walk from behind the next cell misses that one, with the oldest of the last `n` elements. -/
theorem Holds.walk_behind {n : ℕ} (hn : 0 < n) {r : Ring α} {xs : List α} (h : Holds n r xs)
    (hle : n ≤ xs.length) {fuel : ℕ} (hfuel : n ≤ fuel) :
    walk n r.entries r.put fuel (next n r.put) = recent (n - 1) xs := by
  have hwalk := walk_eq hn r.entries (k := n - 1) (by omega) (by omega : n - 1 ≤ fuel)
    (xs.length - (n - 1))
  have hstart : (xs.length - (n - 1)) % n = (xs.length + 1) % n := by
    rw [show xs.length + 1 = xs.length - (n - 1) + n by omega, Nat.add_mod_right]
  rw [show xs.length - (n - 1) + (n - 1) = xs.length by omega, hstart,
    h.map_entries (by omega) (by omega)] at hwalk
  rw [h.put_eq, next_mod hn]
  exact hwalk

theorem recent_length (n : ℕ) (xs : List α) : (recent n xs).length = min xs.length n := by
  rw [recent, List.length_drop]
  omega

theorem recent_all {n : ℕ} {xs : List α} (h : xs.length ≤ n) : recent n xs = xs := by
  rw [recent, Nat.sub_eq_zero_of_le h, List.drop_zero]

end Ring

end PNet
