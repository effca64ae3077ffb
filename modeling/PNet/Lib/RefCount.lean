import Mathlib.Data.Finset.Card

/-! # A counter of users with a shared lock

The lock is there for all users: the first of them creates it, and the last one destroys it. The
users themselves are not kept, only their number.

* `RefCount.tells_acquire`, `RefCount.tells_release`: what has to become of the users for the counter
  to stay right.
-/

namespace PNet

/-- The number of users, and whether there is a lock. -/
structure RefCount where
  cnt : ℤ
  lock : Bool
deriving DecidableEq, Repr

namespace RefCount

variable {ι : Type} {c : RefCount} {users users' : Finset ι}

/-- Nobody uses it. -/
def unused : RefCount := ⟨0, false⟩

/-- One user more. -/
def acquire (c : RefCount) : RefCount := ⟨c.cnt + 1, if c.cnt = 0 then true else c.lock⟩

/-- One user less. -/
def release (c : RefCount) : RefCount := ⟨c.cnt - 1, if c.cnt = 1 then false else c.lock⟩

/-- The counter is that of these users, and there is a lock exactly when there are any. -/
structure Tells (c : RefCount) (users : Finset ι) : Prop where
  cnt : c.cnt = users.card
  lock : c.lock = true ↔ 0 < c.cnt

theorem tells_unused : unused.Tells (∅ : Finset ι) := by
  constructor
  · rfl
  · exact ⟨fun h => absurd h Bool.false_ne_true, fun h => absurd h (lt_irrefl 0)⟩

theorem Tells.nonneg (h : c.Tells users) : 0 ≤ c.cnt := by
  rw [h.cnt]
  exact Int.natCast_nonneg _

theorem tells_acquire (h : c.Tells users) :
    c.acquire.Tells users' ↔ users'.card = users.card + 1 := by
  have hcnt := h.cnt
  constructor
  · intro h'
    have hcnt' : c.cnt + 1 = users'.card := h'.cnt
    omega
  · intro hcard
    constructor
    · show c.cnt + 1 = users'.card
      omega
    · have hpos : 0 < c.cnt + 1 := by omega
      refine ⟨fun _ => hpos, fun _ => ?_⟩
      show (if c.cnt = 0 then true else c.lock) = true
      split_ifs with hzero
      · rfl
      · exact h.lock.mpr (by omega)

theorem tells_release (h : c.Tells users) :
    c.release.Tells users' ↔ users'.card + 1 = users.card := by
  have hcnt := h.cnt
  constructor
  · intro h'
    have hcnt' : c.cnt - 1 = users'.card := h'.cnt
    omega
  · intro hcard
    constructor
    · show c.cnt - 1 = users'.card
      omega
    · show (if c.cnt = 1 then false else c.lock) = true ↔ 0 < c.cnt - 1
      split_ifs with hone
      · exact ⟨False.elim, fun h => absurd h (by omega)⟩
      · rw [h.lock]
        omega

/-- Nobody comes without being one user more. -/
theorem not_tells_acquire (h : c.Tells users) : ¬c.acquire.Tells users := by
  rw [tells_acquire h]
  omega

variable [DecidableEq ι] {i : ι}

/-- A user can come only when it is not there. -/
theorem tells_acquire_insert (h : c.Tells users) :
    c.acquire.Tells (insert i users) ↔ i ∉ users := by
  rw [tells_acquire h]
  constructor
  · intro hcard hi
    rw [Finset.insert_eq_of_mem hi] at hcard
    omega
  · exact Finset.card_insert_of_notMem

/-- A user can go only when it is there. -/
theorem tells_release_erase (h : c.Tells users) :
    c.release.Tells (users.erase i) ↔ i ∈ users := by
  rw [tells_release h]
  constructor
  · intro hcard
    by_contra hi
    rw [Finset.erase_eq_of_notMem hi] at hcard
    omega
  · exact Finset.card_erase_add_one

end RefCount

end PNet
