import Mathlib.Data.List.Nodup
import Mathlib.Logic.Function.Basic
import Mathlib.Tactic.Common

/-! # A stock of things in use

The things of a stock are taken by marking them used, and given back by clearing the mark. It is
counted how often each one was taken and given back. A thing that is used is in one of the places
where things are held.

* `Stock.Held.used_iff`: a thing is used exactly when it is in one place, and in no other.
* `Stock.Held.take`, `.giveBack`, `.giveBackAll`: what keeps it so.
-/

structure Stock (ρ : Type*) where
  used : ρ → Bool
  taken : ρ → ℕ
  returned : ρ → ℕ

namespace Stock

variable {ρ ι : Type*}

/-- Nothing was ever taken. -/
def new : Stock ρ := ⟨fun _ => false, fun _ => 0, fun _ => 0⟩

/-- The places hold what is used, each thing in one place, and each thing was given back as often as
it was taken, but for the time that it is used now. -/
structure Held (s : Stock ρ) (holds : ι → Option ρ) : Prop where
  used : ∀ i r, holds i = some r → s.used r = true
  alone : ∀ i j r, holds i = some r → holds j = some r → i = j
  somewhere : ∀ r, s.used r = true → ∃ i, holds i = some r
  balance : ∀ r, s.taken r = s.returned r + if s.used r then 1 else 0

section
variable [DecidableEq ρ]

def take (s : Stock ρ) (r : ρ) : Stock ρ :=
  { s with
    used := Function.update s.used r true
    taken := Function.update s.taken r (s.taken r + 1) }

def giveBack (s : Stock ρ) (r : ρ) : Stock ρ :=
  { s with
    used := Function.update s.used r false
    returned := Function.update s.returned r (s.returned r + 1) }

/-- What is in the place is given back. -/
def giveBackAt (holds : ι → Option ρ) (s : Stock ρ) (i : ι) : Stock ρ := (holds i).elim s s.giveBack

/-- The places are cleared, one after another. -/
def giveBackAll (holds : ι → Option ρ) (s : Stock ρ) (is : List ι) : Stock ρ :=
  is.foldl (giveBackAt holds) s

@[simp] theorem take_self (s : Stock ρ) (r : ρ) : (s.take r).used r = true :=
  Function.update_self _ _ _

@[simp] theorem take_other (s : Stock ρ) {r q : ρ} (h : q ≠ r) : (s.take r).used q = s.used q :=
  Function.update_of_ne h _ _

@[simp] theorem giveBack_self (s : Stock ρ) (r : ρ) : (s.giveBack r).used r = false :=
  Function.update_self _ _ _

@[simp] theorem giveBack_other (s : Stock ρ) {r q : ρ} (h : q ≠ r) :
    (s.giveBack r).used q = s.used q :=
  Function.update_of_ne h _ _

end

section
variable {s : Stock ρ} {holds : ι → Option ρ} {i : ι} {r : ρ}

theorem Held.new (h : ∀ i, holds i = none) : Held (new : Stock ρ) holds := by
  constructor
  · intro i r hi
    rw [h i] at hi
    cases hi
  · intro i j r hi
    rw [h i] at hi
    cases hi
  · intro r hr
    cases hr
  · intro r
    rfl

/-- A thing is used exactly when one place holds it. -/
theorem Held.used_iff (h : Held s holds) : s.used r = true ↔ ∃! i, holds i = some r := by
  constructor
  · intro hr
    rcases h.somewhere r hr with ⟨i, hi⟩
    exact ⟨i, hi, fun j hj => h.alone j i r hj hi⟩
  · rintro ⟨i, hi, -⟩
    exact h.used i r hi

variable [DecidableEq ρ] [DecidableEq ι]

/-- A thing that is not used goes to an empty place. -/
theorem Held.take (h : Held s holds) (hr : s.used r = false) (hi : holds i = none) :
    Held (s.take r) (Function.update holds i (some r)) := by
  have hfree (j : ι) : holds j ≠ some r := by
    intro hj
    rw [h.used j r hj] at hr
    cases hr
  -- a place holds the new thing, or what it held before
  have hcases (j : ι) (q : ρ) (hj : Function.update holds i (some r) j = some q) :
      (j = i ∧ q = r) ∨ (j ≠ i ∧ q ≠ r ∧ holds j = some q) := by
    by_cases hji : j = i
    · rw [hji, Function.update_self] at hj
      exact .inl ⟨hji, (Option.some.inj hj).symm⟩
    · rw [Function.update_of_ne hji] at hj
      exact .inr ⟨hji, fun hq => hfree j (hq ▸ hj), hj⟩
  constructor
  · intro j q hj
    rcases hcases j q hj with ⟨-, rfl⟩ | ⟨-, hq, hj⟩
    · exact take_self s q
    · rw [take_other s hq]
      exact h.used j q hj
  · intro j k q hj hk
    rcases hcases j q hj with ⟨hji, hq⟩ | ⟨-, hq, hj⟩
    · rcases hcases k q hk with ⟨hki, -⟩ | ⟨-, hne, -⟩
      · rw [hji, hki]
      · exact absurd hq hne
    · rcases hcases k q hk with ⟨-, heq⟩ | ⟨-, -, hk⟩
      · exact absurd heq hq
      · exact h.alone j k q hj hk
  · intro q hq
    by_cases hqr : q = r
    · exact ⟨i, by rw [hqr, Function.update_self]⟩
    · rw [take_other s hqr] at hq
      rcases h.somewhere q hq with ⟨j, hj⟩
      refine ⟨j, ?_⟩
      have hji : j ≠ i := by
        rintro rfl
        rw [hi] at hj
        cases hj
      rw [Function.update_of_ne hji]
      exact hj
  · intro q
    have hq := h.balance q
    by_cases hqr : q = r
    · subst hqr
      rw [hr] at hq
      rw [take_self]
      show Function.update s.taken q (s.taken q + 1) q = s.returned q + 1
      rw [Function.update_self, hq]
      rfl
    · rw [take_other s hqr]
      show Function.update s.taken r (s.taken r + 1) q = _
      rw [Function.update_of_ne hqr]
      exact hq

/-- What a place holds is given back. -/
theorem Held.giveBack (h : Held s holds) (hi : holds i = some r) :
    Held (s.giveBack r) (Function.update holds i none) := by
  -- the other places hold what they held, and it is not the thing that is given back
  have hcases (j : ι) (q : ρ) (hj : Function.update holds i none j = some q) :
      q ≠ r ∧ holds j = some q := by
    by_cases hji : j = i
    · rw [hji, Function.update_self] at hj
      cases hj
    · rw [Function.update_of_ne hji] at hj
      exact ⟨fun hq => hji (h.alone j i r (hq ▸ hj) hi), hj⟩
  constructor
  · intro j q hj
    rcases hcases j q hj with ⟨hq, hj⟩
    rw [giveBack_other s hq]
    exact h.used j q hj
  · intro j k q hj hk
    exact h.alone j k q (hcases j q hj).2 (hcases k q hk).2
  · intro q hq
    have hqr : q ≠ r := by
      rintro rfl
      rw [giveBack_self] at hq
      cases hq
    rw [giveBack_other s hqr] at hq
    rcases h.somewhere q hq with ⟨j, hj⟩
    refine ⟨j, ?_⟩
    have hji : j ≠ i := by
      rintro rfl
      exact hqr (Option.some.inj (hj.symm.trans hi))
    rw [Function.update_of_ne hji]
    exact hj
  · intro q
    have hq := h.balance q
    by_cases hqr : q = r
    · subst hqr
      rw [h.used i q hi] at hq
      rw [giveBack_self]
      show s.taken q = Function.update s.returned q (s.returned q + 1) q + 0
      rw [Function.update_self, hq]
      rfl
    · rw [giveBack_other s hqr]
      show s.taken q = Function.update s.returned r (s.returned r + 1) q + _
      rw [Function.update_of_ne hqr]
      exact hq

theorem Held.giveBackAt (h : Held s holds) (i : ι) :
    Held (s.giveBackAt holds i) (Function.update holds i none) := by
  unfold Stock.giveBackAt
  cases hi : holds i with
  | none =>
    rw [← hi, Function.update_eq_self, hi]
    exact h
  | some r => exact h.giveBack hi

omit [DecidableEq ι] in
/-- A place that was cleared before does not matter to the others. -/
theorem giveBackAll_congr {holds' : ι → Option ρ} {is : List ι} (h : ∀ i ∈ is, holds' i = holds i) :
    s.giveBackAll holds' is = s.giveBackAll holds is := by
  induction is generalizing s with
  | nil => rfl
  | cons i is ih =>
    have hat : s.giveBackAt holds' i = s.giveBackAt holds i := by
      unfold Stock.giveBackAt
      rw [h i List.mem_cons_self]
    unfold giveBackAll
    rw [List.foldl_cons, List.foldl_cons, hat]
    exact ih fun j hj => h j (List.mem_cons_of_mem i hj)

omit [DecidableEq ι] in
theorem giveBackAll_append (s : Stock ρ) (holds : ι → Option ρ) (is js : List ι) :
    s.giveBackAll holds (is ++ js) = (s.giveBackAll holds is).giveBackAll holds js :=
  List.foldl_append

omit [DecidableEq ι] in
/-- Nothing is given back where nothing is. -/
theorem giveBackAll_empty {is : List ι} (h : ∀ i ∈ is, holds i = none) :
    s.giveBackAll holds is = s := by
  induction is with
  | nil => rfl
  | cons i is ih =>
    have hat : s.giveBackAt holds i = s := by
      unfold Stock.giveBackAt
      rw [h i List.mem_cons_self]
      rfl
    unfold giveBackAll
    rw [List.foldl_cons, hat]
    exact ih fun j hj => h j (List.mem_cons_of_mem i hj)

/-- Several places are cleared. -/
theorem Held.giveBackAll (h : Held s holds) {is : List ι} (hnodup : is.Nodup) :
    Held (s.giveBackAll holds is) (fun i => if i ∈ is then none else holds i) := by
  induction is generalizing s holds with
  | nil => simpa [Stock.giveBackAll] using h
  | cons i is ih =>
    rcases List.nodup_cons.mp hnodup with ⟨hi, hrest⟩
    have hcongr : (s.giveBackAt holds i).giveBackAll (Function.update holds i none) is =
        (s.giveBackAt holds i).giveBackAll holds is := by
      apply giveBackAll_congr
      intro j hj
      rw [Function.update_of_ne (ne_of_mem_of_not_mem hj hi)]
    have hheld := ih (h.giveBackAt i) hrest
    rw [hcongr] at hheld
    have hplaces : (fun j => if j ∈ is then none else Function.update holds i none j) =
        fun j => if j ∈ i :: is then none else holds j := by
      funext j
      by_cases hji : j = i
      · rw [hji, if_neg hi, Function.update_self, if_pos List.mem_cons_self]
      · rw [Function.update_of_ne hji]
        simp [hji]
    rw [hplaces] at hheld
    exact hheld

end

end Stock
