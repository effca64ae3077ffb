import Mathlib.Algebra.Ring.Nat
import Mathlib.Data.List.Range
import Mathlib.Data.List.TakeDrop
import Mathlib.Tactic.Common

/-! # Buffers

A buffer is memory from some address on: a function of the offset. `slice b p n` are the
`n` cells of `b` from `p` on, and `write b p xs` is `b` after the cells `xs` have been
stored from `p` on. The rules say what a slice sees of a write.
-/

namespace Buffer

variable {α : Type*}

def slice (b : ℕ → α) (p n : ℕ) : List α := (List.range n).map fun i => b (p + i)

def write (b : ℕ → α) (p : ℕ) (xs : List α) : ℕ → α := fun i =>
  if p ≤ i then (xs[i - p]?).getD (b i) else b i

/-! ## Slices -/

@[simp] theorem slice_length (b : ℕ → α) (p n : ℕ) : (slice b p n).length = n := by
  simp [slice]

@[simp] theorem slice_zero (b : ℕ → α) (p : ℕ) : slice b p 0 = [] := rfl

theorem slice_getElem? (b : ℕ → α) (p n i : ℕ) :
    (slice b p n)[i]? = if i < n then some (b (p + i)) else none := by
  by_cases h : i < n <;> simp [slice, h]

theorem slice_add (b : ℕ → α) (p m n : ℕ) :
    slice b p (m + n) = slice b p m ++ slice b (p + m) n := by
  apply List.ext_getElem?
  intro i
  by_cases h : i < m
  · rw [List.getElem?_append_left (by simpa using h), slice_getElem?, slice_getElem?, if_pos h,
      if_pos (by omega)]
  · rw [List.getElem?_append_right (by simpa using h), slice_length, slice_getElem?,
      slice_getElem?]
    by_cases h' : i < m + n
    · rw [if_pos h', if_pos (by omega), show p + m + (i - m) = p + i by omega]
    · rw [if_neg h', if_neg (by omega)]

theorem slice_congr {b c : ℕ → α} {p n : ℕ} (h : ∀ i, p ≤ i → i < p + n → b i = c i) :
    slice b p n = slice c p n := by
  apply List.ext_getElem?
  intro i
  rw [slice_getElem?, slice_getElem?]
  by_cases hi : i < n
  · rw [if_pos hi, if_pos hi, h _ (by omega) (by omega)]
  · rw [if_neg hi, if_neg hi]

/-! ## Writes -/

@[simp] theorem write_nil (b : ℕ → α) (p : ℕ) : write b p [] = b := by
  funext i
  by_cases h : p ≤ i <;> simp [write]

theorem write_outside {b : ℕ → α} {p i : ℕ} {xs : List α} (h : i < p ∨ p + xs.length ≤ i) :
    write b p xs i = b i := by
  by_cases hp : p ≤ i
  · have hlen : xs.length ≤ i - p := by omega
    simp [write, hp, List.getElem?_eq_none hlen]
  · simp [write, hp]

theorem write_inside {b : ℕ → α} {p i : ℕ} {xs : List α} (h : i < xs.length) :
    write b p xs (p + i) = xs[i] := by
  simp [write, h]

theorem write_append (b : ℕ → α) (p : ℕ) (xs ys : List α) :
    write b p (xs ++ ys) = write (write b p xs) (p + xs.length) ys := by
  funext i
  by_cases hp : p ≤ i
  · by_cases hx : i < p + xs.length
    · have hix : i - p < xs.length := by omega
      have hout : ¬ p + xs.length ≤ i := by omega
      simp [write, hp, hout, List.getElem?_append_left hix]
    · have hix : xs.length ≤ i - p := by omega
      have hin : p + xs.length ≤ i := by omega
      have hnone : xs[i - p]? = none := List.getElem?_eq_none hix
      simp [write, hp, hin, List.getElem?_append_right hix, hnone, Nat.sub_sub]
  · have hout : ¬ p + xs.length ≤ i := by omega
    simp [write, hp, hout]

theorem slice_write_self (b : ℕ → α) (p : ℕ) (xs : List α) :
    slice (write b p xs) p xs.length = xs := by
  apply List.ext_getElem?
  intro i
  rw [slice_getElem?]
  by_cases h : i < xs.length
  · simp [write, h]
  · rw [if_neg h, List.getElem?_eq_none (by omega)]

theorem slice_write_disjoint {b : ℕ → α} {p q n : ℕ} {xs : List α}
    (h : q + n ≤ p ∨ p + xs.length ≤ q) : slice (write b p xs) q n = slice b q n :=
  slice_congr fun i h1 h2 => write_outside (by omega)

/-- A later write at the same place replaces an earlier one of the same length. -/
theorem write_write_self {b : ℕ → α} {p : ℕ} {xs ys : List α} (h : ys.length = xs.length) :
    write (write b p xs) p ys = write b p ys := by
  funext i
  by_cases hin : p ≤ i ∧ i < p + ys.length
  · have hi : i - p < ys.length := by omega
    simp [write, hin.1, hi]
  · rw [write_outside (by omega), write_outside (by omega), write_outside (by omega)]

theorem write_comm {b : ℕ → α} {p q : ℕ} {xs ys : List α}
    (h : p + xs.length ≤ q ∨ q + ys.length ≤ p) :
    write (write b p xs) q ys = write (write b q ys) p xs := by
  funext i
  by_cases hx : p ≤ i ∧ i < p + xs.length
  · rw [write_outside (by omega)]
    have hi : i - p < xs.length := by omega
    simp [write, hx.1, hi]
  · rw [write_outside (p := p) (by omega)]
    by_cases hy : q ≤ i ∧ i < q + ys.length
    · have hi : i - q < ys.length := by omega
      simp [write, hy.1, hi]
    · rw [write_outside (by omega), write_outside (by omega), write_outside (by omega)]

/-- A write into the middle of an earlier one. -/
theorem write_write_inside (b : ℕ → α) (p : ℕ) (xs ys zs ws : List α)
    (h : ws.length = ys.length) :
    write (write b p (xs ++ ys ++ zs)) (p + xs.length) ws = write b p (xs ++ ws ++ zs) := by
  have hlen : p + (xs ++ ys).length = p + (xs ++ ws).length := by simp [h]
  have hpos : p + (xs ++ ws).length = p + xs.length + ws.length := by simp [Nat.add_assoc]
  rw [write_append, write_append b p (xs ++ ws) zs, hlen, write_comm (by omega),
    write_append, write_append, write_write_self h]

attribute [irreducible] slice write

end Buffer
