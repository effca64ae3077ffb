import Mathlib.Data.BitVec
import Mathlib.Data.List.Sort
import Mathlib.Tactic.Common

/-! # Circular time

A clock of `w + 1` bits wraps. Two readings are compared through the sign of their
difference, `(a - b).toInt`. That comparison is no order: three steps round the clock
come back to the start. It is one on an `Arc`, a stretch shorter than half the clock:
there `(a - b).toInt` is the difference of two distances from one base (`sub_toInt`).

`pairwise_orderedInsert` says that insertion keeps a list sorted by a relation that
behaves as an order on the list's own members only.
-/

namespace CircularTime

variable {w : ℕ}

/-- All readings of `l` lie within half the clock, from some base on. -/
def Arc (l : List (BitVec (w + 1))) : Prop :=
  ∃ base, ∀ t ∈ l, (t - base).toNat < 2 ^ w

theorem Arc.mono {l m : List (BitVec (w + 1))} (h : Arc m) (hs : ∀ t ∈ l, t ∈ m) : Arc l := by
  obtain ⟨base, hb⟩ := h
  exact ⟨base, fun t ht => hb t (hs t ht)⟩

/-- On an arc the signed difference is the difference of the distances from its base. -/
theorem sub_toInt {a b base : BitVec (w + 1)} (ha : (a - base).toNat < 2 ^ w)
    (hb : (b - base).toNat < 2 ^ w) :
    (a - b).toInt = ((a - base).toNat : ℤ) - (b - base).toNat := by
  have hpow : 2 ^ (w + 1) = 2 * 2 ^ w := by rw [Nat.pow_succ, Nat.mul_comm]
  have hx : (a - base).toInt = (a - base).toNat := BitVec.toInt_eq_toNat_of_lt (by omega)
  have hy : (b - base).toInt = (b - base).toNat := BitVec.toInt_eq_toNat_of_lt (by omega)
  rw [← sub_sub_sub_cancel_right a b base, BitVec.toInt_sub, hx, hy, hpow]
  exact Int.bmod_eq_of_le_mul_two (by omega) (by omega)

/-- On an arc the comparison is total and transitive. -/
theorem Arc.total {l : List (BitVec (w + 1))} (h : Arc l) {a b : BitVec (w + 1)} (ha : a ∈ l)
    (hb : b ∈ l) (hab : ¬ (a - b).toInt ≤ 0) : (b - a).toInt ≤ 0 := by
  obtain ⟨base, hl⟩ := h
  rw [sub_toInt (hl a ha) (hl b hb)] at hab
  rw [sub_toInt (hl b hb) (hl a ha)]
  omega

theorem Arc.trans {l : List (BitVec (w + 1))} (h : Arc l) {a b c : BitVec (w + 1)} (ha : a ∈ l)
    (hb : b ∈ l) (hc : c ∈ l) (hab : (a - b).toInt ≤ 0) (hbc : (b - c).toInt ≤ 0) :
    (a - c).toInt ≤ 0 := by
  obtain ⟨base, hl⟩ := h
  rw [sub_toInt (hl a ha) (hl b hb)] at hab
  rw [sub_toInt (hl b hb) (hl c hc)] at hbc
  rw [sub_toInt (hl a ha) (hl c hc)]
  omega

/-- A reading `a` that is not before `b` stays after it when a positive delay of at most
half the clock is added, as long as all three lie on one arc. -/
theorem Arc.add_after {l : List (BitVec (w + 1))} (h : Arc l) {a b d : BitVec (w + 1)}
    (ha : a ∈ l) (hb : b ∈ l) (had : a + d ∈ l) (hab : 0 ≤ (a - b).toInt) (hd : 1 ≤ d.toNat)
    (hd' : d.toNat ≤ 2 ^ w) : (b - (a + d)).toInt < 0 := by
  obtain ⟨base, hl⟩ := h
  have h1 := hl a ha
  have h2 := hl b hb
  have h3 := hl _ had
  rw [sub_toInt h1 h2] at hab
  rw [sub_toInt h2 h3]
  have hpow : 2 ^ (w + 1) = 2 * 2 ^ w := by rw [Nat.pow_succ, Nat.mul_comm]
  -- the distance of `a + d` is that of `a` plus `d`: on the arc it cannot wrap
  have hsum : (a + d - base).toNat = ((a - base).toNat + d.toNat) % 2 ^ (w + 1) := by
    rw [← BitVec.toNat_add, add_sub_right_comm]
  have hlt : (a - base).toNat + d.toNat < 2 ^ (w + 1) := by omega
  rw [Nat.mod_eq_of_lt hlt] at hsum
  omega

/-! ## Insertion into a sorted list -/

theorem pairwise_orderedInsert {α : Type*} {r : α → α → Prop} [DecidableRel r] {a : α}
    {l : List α} (hl : l.Pairwise r) (htotal : ∀ b ∈ l, ¬ r a b → r b a)
    (htrans : ∀ b ∈ l, ∀ c ∈ l, r a b → r b c → r a c) : (l.orderedInsert r a).Pairwise r := by
  induction l with
  | nil => simp
  | cons b l ih =>
    rw [List.pairwise_cons] at hl
    by_cases hab : r a b
    · rw [List.orderedInsert_cons_of_le _ _ hab, List.pairwise_cons, List.pairwise_cons]
      refine ⟨?_, hl⟩
      intro c hc
      rcases List.mem_cons.mp hc with rfl | hcl
      · exact hab
      · exact htrans b (by simp) c hc hab (hl.1 c hcl)
    · rw [List.orderedInsert_of_not_le _ _ hab, List.pairwise_cons]
      refine ⟨?_, ih hl.2 (fun c hc => htotal c (by simp [hc]))
        (fun c hc c' hc' => htrans c (by simp [hc]) c' (by simp [hc']))⟩
      intro c hc
      rcases List.mem_orderedInsert _ |>.mp hc with rfl | hcl
      · exact htotal b (by simp) hab
      · exact hl.1 c hcl

/-- Insertion of an element that a filter drops is not seen through the filter. -/
theorem filter_orderedInsert {α : Type*} {r : α → α → Prop} [DecidableRel r] {p : α → Bool}
    {a : α} {l : List α} (ha : p a = false) :
    (l.orderedInsert r a).filter p = l.filter p := by
  induction l with
  | nil => simp [ha]
  | cons b l ih =>
    by_cases hab : r a b
    · rw [List.orderedInsert_cons_of_le _ _ hab, List.filter_cons_of_neg (by simp [ha])]
    · rw [List.orderedInsert_of_not_le _ _ hab, List.filter_cons, List.filter_cons, ih]

end CircularTime
