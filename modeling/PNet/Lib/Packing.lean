import Mathlib.Algebra.Ring.Nat
import Mathlib.Data.List.Basic
import Mathlib.Tactic.Common

/-! # Records in bounded room

Records are put one behind the other from a position on. `fit enc max pos` are those that are put
when each is put as a whole up to `max`, or left out.
-/

namespace Packing

variable {α β : Type*} (enc : α → List β) (max : ℕ)

/-- The records that fit, each from where the last one ended. -/
def fit : ℕ → List α → List α
  | _, [] => []
  | pos, a :: as =>
    if pos + (enc a).length ≤ max then a :: fit (pos + (enc a).length) as else fit pos as

/-- Where the records end. -/
def fitEnd (pos : ℕ) (as : List α) : ℕ := pos + ((fit enc max pos as).flatMap enc).length

variable {enc max} {pos : ℕ} {a : α} {as : List α}

theorem fit_cons_of_le (h : pos + (enc a).length ≤ max) :
    fit enc max pos (a :: as) = a :: fit enc max (pos + (enc a).length) as := by
  rw [fit, if_pos h]

theorem fit_cons_of_lt (h : max < pos + (enc a).length) :
    fit enc max pos (a :: as) = fit enc max pos as := by
  rw [fit, if_neg (Nat.not_le.mpr h)]

/-- The first record that is put ends in the room. -/
theorem head_le_of_fit (as : List α) : ∀ pos a rest, fit enc max pos as = a :: rest →
    pos + (enc a).length ≤ max := by
  induction as with
  | nil =>
    intro pos a rest h
    cases h
  | cons b as ih =>
    intro pos a rest h
    by_cases hb : pos + (enc b).length ≤ max
    · rw [fit_cons_of_le hb] at h
      cases h
      exact hb
    · rw [fit_cons_of_lt (Nat.not_le.mp hb)] at h
      exact ih pos a rest h

end Packing
