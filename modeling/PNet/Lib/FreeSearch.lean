import Mathlib.Data.BitVec
import Mathlib.Data.Finset.Card
import Mathlib.Data.Finset.Image

/-! # Searching for a free number

A loop that counts up from a first number to a last one until it finds a free number. The numbers
have a fixed width; when the last number is the greatest one, the loop goes on with zero.

* `FreeSearch.search_free`: with more numbers than are taken, it finds a free one of the range.
* `FreeSearch.search_ends`: it goes no further than a free number.
-/

namespace PNet

namespace FreeSearch

variable {w : ℕ}

/-- `while (id <= last && taken (id)) id++`. -/
def search (last : BitVec w) (free : BitVec w → Bool) : ℕ → BitVec w → BitVec w
  | 0, id => id
  | fuel + 1, id => if id ≤ last ∧ free id = false then search last free fuel (id + 1#w) else id

variable {last first : BitVec w} {free : BitVec w → Bool} {fuel : ℕ}

/-- From a number on, the numbers that are not free are those of a list. -/
def Taken (free : BitVec w → Bool) (first : BitVec w) (used : List (BitVec w)) : Prop :=
  ∀ id, first ≤ id → (free id = true ↔ id ∉ used)

theorem search_free {used : List (BitVec w)} (htaken : Taken free first used)
    (hroom : first.toNat + used.length ≤ last.toNat) (hfuel : used.length < fuel) :
    free (search last free fuel first) = true ∧ first ≤ search last free fuel first ∧
      search last free fuel first ≤ last := by
  -- induction on the steps left: the numbers taken are fewer behind a taken one
  induction fuel generalizing first used with
  | zero => exact absurd hfuel (Nat.not_lt_zero _)
  | succ fuel ih =>
    have hle : first ≤ last := BitVec.le_def.mpr (by omega)
    unfold search
    by_cases hmem : first ∈ used
    · have hbusy : free first = false := by
        rw [← Bool.not_eq_true, htaken first (BitVec.le_refl first)]
        exact not_not_intro hmem
      rw [if_pos ⟨hle, hbusy⟩]
      have hpos : 0 < used.length := List.length_pos_of_mem hmem
      have hnext : (first + 1#w).toNat = first.toNat + 1 := by
        have hlast := last.isLt
        rw [BitVec.toNat_add, BitVec.toNat_ofNat, Nat.mod_eq_of_lt (by omega : 1 < 2 ^ w)]
        exact Nat.mod_eq_of_lt (by omega)
      have hfewer : (used.filter (· ≠ first)).length < used.length :=
        List.length_filter_lt_length_iff_exists.mpr ⟨first, hmem, by simp⟩
      have hrest : Taken free (first + 1#w) (used.filter (· ≠ first)) := by
        intro id hid
        have hlt : first.toNat < id.toNat := by
          have hid' := BitVec.le_def.mp hid
          omega
        have hne : id ≠ first := fun heq => (heq ▸ hlt).ne rfl
        rw [htaken id (BitVec.le_def.mpr hlt.le)]
        simp [hne]
      rcases ih hrest (by omega) (by omega) with ⟨hfree, hfirst, hlast⟩
      refine ⟨hfree, BitVec.le_def.mpr ?_, hlast⟩
      have hfirst' := BitVec.le_def.mp hfirst
      omega
    · have hfree : free first = true := (htaken first (BitVec.le_refl first)).mpr hmem
      have hdone : ¬(first ≤ last ∧ free first = false) := by
        rw [hfree]
        exact fun h => Bool.noConfusion h.2
      rw [if_neg hdone]
      exact ⟨hfree, BitVec.le_refl first, hle⟩

theorem search_ends {k : ℕ} (hk : k < fuel) (hfree : free (first + BitVec.ofNat w k) = true) :
    ¬(search last free fuel first ≤ last ∧ free (search last free fuel first) = false) := by
  induction fuel generalizing first k with
  | zero => exact absurd hk (Nat.not_lt_zero k)
  | succ fuel ih =>
    unfold search
    by_cases hgo : first ≤ last ∧ free first = false
    · rw [if_pos hgo]
      cases k with
      | zero =>
        rw [BitVec.add_zero] at hfree
        cases hfree.symm.trans hgo.2
      | succ k =>
        apply ih (Nat.lt_of_succ_lt_succ hk)
        rwa [BitVec.add_assoc, BitVec.add_comm 1#w, ← BitVec.ofNat_add]
    · rwa [if_neg hgo]

end FreeSearch

end PNet
