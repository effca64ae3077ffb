import Mathlib.Logic.Function.Basic
import Mathlib.Tactic.Common

/-! # Resources with one owner

Resources come one after another, each into an empty slot; they are moved between slots, and given
back. A slot that has given its resource back may keep a pointer to it: then it is one of the
`stale` ones.

* `Slots.OneOwner.fate`: a resource is in exactly one slot, or has been given back exactly once.
* `Slots.OneOwner.put`, `.swap`, `.giveBack`, `.clear`: what keeps it so.
-/

namespace Ownership

/-- The resources have the numbers below `issued`; `freed` counts how often one was given back. -/
structure Slots (ι : Type*) where
  held : ι → Option ℕ
  issued : ℕ
  freed : ℕ → ℕ

namespace Slots
variable {ι : Type*}

/-- A new resource comes into a slot. -/
def put [DecidableEq ι] (s : Slots ι) (i : ι) : Slots ι :=
  { s with held := Function.update s.held i (some s.issued), issued := s.issued + 1 }

/-- Two slots exchange what they hold. -/
def swap [DecidableEq ι] (s : Slots ι) (i j : ι) : Slots ι :=
  { s with held := Function.update (Function.update s.held i (s.held j)) j (s.held i) }

/-- What the slot holds is given back; the slot still points to it. -/
def giveBack (s : Slots ι) (i : ι) : Slots ι :=
  { s with freed := (s.held i).elim s.freed fun b => Function.update s.freed b (s.freed b + 1) }

/-- Slots are emptied. -/
def clear (s : Slots ι) (d : ι → Bool) : Slots ι :=
  { s with held := fun i => if d i then none else s.held i }

/-- Of the slots that are not stale, no two hold the same resource, and no one holds one that has
been given back; a resource that none of them holds has been given back once. -/
structure OneOwner (stale : ι → Bool) (s : Slots ι) : Prop where
  alone : ∀ i j b, stale i = false → stale j = false → s.held i = some b → s.held j = some b → i = j
  live : ∀ i b, stale i = false → s.held i = some b → b < s.issued ∧ s.freed b = 0
  once : ∀ b < s.issued, (∀ i, stale i = false → s.held i ≠ some b) → s.freed b = 1
  fresh : ∀ b, s.issued ≤ b → s.freed b = 0

/-- No slot is stale. -/
def noneStale : ι → Bool := fun _ => false

/-- One more slot is stale. -/
def alsoStale [DecidableEq ι] (stale : ι → Bool) (i : ι) : ι → Bool := fun j => stale j || decide (j = i)

section
variable {s : Slots ι} {stale stale' : ι → Bool} {i j : ι}

/-- Nothing has come yet. -/
theorem OneOwner.new (h : ∀ i, s.held i = none) (hissued : s.issued = 0)
    (hfreed : ∀ b, s.freed b = 0) : OneOwner stale s := by
  constructor
  · intro i j b _ _ hi
    rw [h i] at hi
    cases hi
  · intro i b _ hi
    rw [h i] at hi
    cases hi
  · intro b hb
    rw [hissued] at hb
    exact absurd hb (Nat.not_lt_zero b)
  · exact fun b _ => hfreed b

/-- What becomes of a resource. -/
theorem OneOwner.fate (h : OneOwner noneStale s) {b : ℕ} (hb : b < s.issued) :
    (s.freed b = 0 ∧ ∃! i, s.held i = some b) ∨ (s.freed b = 1 ∧ ∀ i, s.held i ≠ some b) := by
  by_cases hheld : ∃ i, s.held i = some b
  · rcases hheld with ⟨i, hi⟩
    exact .inl ⟨(h.live i b rfl hi).2, i, hi, fun j hj => h.alone j i b rfl rfl hj hi⟩
  · have hnone : ∀ i, s.held i ≠ some b := fun i hi => hheld ⟨i, hi⟩
    exact .inr ⟨h.once b hb fun i _ => hnone i, hnone⟩

variable [DecidableEq ι]

theorem put_self (s : Slots ι) (i : ι) : (s.put i).held i = some s.issued :=
  Function.update_self _ _ _

theorem put_other (s : Slots ι) (h : j ≠ i) : (s.put i).held j = s.held j :=
  Function.update_of_ne h _ _

theorem OneOwner.put (h : OneOwner stale s) (hi : stale i = false) (hempty : s.held i = none) :
    OneOwner stale (s.put i) := by
  -- a slot holds the new resource or what it held before
  have hcases (j : ι) (b : ℕ) (hj : (s.put i).held j = some b) :
      (j = i ∧ b = s.issued) ∨ s.held j = some b := by
    by_cases hji : j = i
    · rw [hji] at hj
      exact .inl ⟨hji, (Option.some.inj ((put_self s i).symm.trans hj)).symm⟩
    · rw [put_other s hji] at hj
      exact .inr hj
  have hold (j : ι) (b : ℕ) (hj : stale j = false) (hheld : s.held j = some b) : b ≠ s.issued :=
    Nat.ne_of_lt (h.live j b hj hheld).1
  constructor
  · intro j k b hj hk hjb hkb
    rcases hcases j b hjb with ⟨hji, hb⟩ | hjb
    · rcases hcases k b hkb with ⟨hki, -⟩ | hkb
      · rw [hji, hki]
      · exact absurd hb (hold k b hk hkb)
    · rcases hcases k b hkb with ⟨-, hb⟩ | hkb
      · exact absurd hb (hold j b hj hjb)
      · exact h.alone j k b hj hk hjb hkb
  · intro j b hj hjb
    rcases hcases j b hjb with ⟨rfl, rfl⟩ | hjb
    · exact ⟨Nat.lt_succ_self _, h.fresh _ (Nat.le_refl _)⟩
    · exact ⟨Nat.lt_succ_of_lt (h.live j b hj hjb).1, (h.live j b hj hjb).2⟩
  · intro b hb hnone
    have hne : b ≠ s.issued := fun heq => hnone i hi (by rw [heq, put_self])
    apply h.once b (by have : b < s.issued + 1 := hb; omega)
    intro j hj hjb
    have hji : j ≠ i := by
      rintro rfl
      rw [hempty] at hjb
      cases hjb
    exact hnone j hj ((put_other s hji).trans hjb)
  · intro b hb
    exact h.fresh b (Nat.le_of_succ_le hb)

/-- Where the resource of a slot comes from. -/
theorem swap_held (s : Slots ι) (i j k : ι) :
    (s.swap i j).held k = s.held (if k = j then i else if k = i then j else k) := by
  show Function.update (Function.update s.held i (s.held j)) j (s.held i) k = _
  by_cases hkj : k = j
  · rw [if_pos hkj, hkj, Function.update_self]
  · rw [if_neg hkj, Function.update_of_ne hkj]
    by_cases hki : k = i
    · rw [if_pos hki, hki, Function.update_self]
    · rw [if_neg hki, Function.update_of_ne hki]

theorem OneOwner.swap (h : OneOwner stale s) (hi : stale i = false) (hj : stale j = false) :
    OneOwner stale (s.swap i j) := by
  have hfrom (k : ι) (hk : stale k = false) :
      stale (if k = j then i else if k = i then j else k) = false := by
    by_cases hkj : k = j
    · rwa [if_pos hkj]
    · rw [if_neg hkj]
      by_cases hki : k = i
      · rwa [if_pos hki]
      · rwa [if_neg hki]
  constructor
  · intro k l b hk hl hkb hlb
    rw [swap_held] at hkb hlb
    have heq := h.alone _ _ b (hfrom k hk) (hfrom l hl) hkb hlb
    grind
  · intro k b hk hkb
    rw [swap_held] at hkb
    exact h.live _ b (hfrom k hk) hkb
  · intro b hb hnone
    apply h.once b hb
    intro k hk hkb
    refine hnone (if k = j then i else if k = i then j else k) (hfrom k hk) ?_
    rw [swap_held, ← hkb]
    congr 1
    grind
  · exact h.fresh

/-- A slot gives its resource back, and is stale from then on. -/
theorem OneOwner.giveBack (h : OneOwner stale s) (hi : stale i = false) :
    OneOwner (alsoStale stale i) (s.giveBack i) := by
  have hstale {k : ι} (hk : alsoStale stale i k = false) : stale k = false ∧ k ≠ i := by
    unfold alsoStale at hk
    rw [Bool.or_eq_false_iff, decide_eq_false_iff_not] at hk
    exact hk
  cases hheld : s.held i with
  | none =>
    have hsame : s.giveBack i = s := by
      unfold Slots.giveBack
      rw [hheld, Option.elim_none]
    rw [hsame]
    refine ⟨?_, ?_, ?_, h.fresh⟩
    · exact fun k l b hk hl => h.alone k l b (hstale hk).1 (hstale hl).1
    · exact fun k b hk => h.live k b (hstale hk).1
    · intro b hb hnone
      apply h.once b hb
      intro k hk hkb
      by_cases hki : k = i
      · rw [hki, hheld] at hkb
        cases hkb
      · exact hnone k (by unfold alsoStale; rw [hk, decide_eq_false hki]; rfl) hkb
  | some c =>
    have hfreed : (s.giveBack i).freed = Function.update s.freed c (s.freed c + 1) := by
      unfold Slots.giveBack
      rw [hheld, Option.elim_some]
    have hc := h.live i c hi hheld
    have hother (b : ℕ) (hb : b ≠ c) : (s.giveBack i).freed b = s.freed b := by
      rw [hfreed, Function.update_of_ne hb]
    refine ⟨?_, ?_, ?_, ?_⟩
    · exact fun k l b hk hl => h.alone k l b (hstale hk).1 (hstale hl).1
    · intro k b hk hkb
      have hkb' : s.held k = some b := hkb
      have hbc : b ≠ c := by
        rintro rfl
        exact (hstale hk).2 (h.alone k i b (hstale hk).1 hi hkb' hheld)
      rw [hother b hbc]
      exact h.live k b (hstale hk).1 hkb'
    · intro b hb hnone
      by_cases hbc : b = c
      · rw [hbc, hfreed, Function.update_self, hc.2]
      · rw [hother b hbc]
        apply h.once b hb
        intro k hk hkb
        refine hnone k ?_ hkb
        have hki : k ≠ i := by
          rintro rfl
          exact hbc (Option.some.inj (hkb.symm.trans hheld))
        unfold alsoStale
        rw [hk, decide_eq_false hki]
        rfl
    · intro b hb
      have hb' : s.issued ≤ b := hb
      rw [hother b (by omega)]
      exact h.fresh b hb'

omit [DecidableEq ι] in
/-- Empty slots become stale, and stale slots are emptied. -/
theorem OneOwner.clear (h : OneOwner stale s) {d : ι → Bool}
    (hstale : ∀ i, stale i = true → d i = true ∨ stale' i = true)
    (hempty : ∀ i, stale i = false → d i = true ∨ stale' i = true → s.held i = none) :
    OneOwner stale' (s.clear d) := by
  -- what a slot holds afterwards it has held before, and it was not stale
  have hheld (i : ι) (b : ℕ) (hi : stale' i = false) (hb : (s.clear d).held i = some b) :
      stale i = false ∧ s.held i = some b := by
    have hb' : (if d i then none else s.held i) = some b := hb
    by_cases hd : d i = true
    · rw [if_pos hd] at hb'
      cases hb'
    · rw [if_neg hd] at hb'
      refine ⟨?_, hb'⟩
      rw [← Bool.not_eq_true]
      intro htrue
      rcases hstale i htrue with hdi | hsi
      · exact hd hdi
      · rw [hi] at hsi
        cases hsi
  refine ⟨?_, ?_, ?_, h.fresh⟩
  · intro i j b hi hj hib hjb
    have hib := hheld i b hi hib
    have hjb := hheld j b hj hjb
    exact h.alone i j b hib.1 hjb.1 hib.2 hjb.2
  · intro i b hi hib
    have hib := hheld i b hi hib
    exact h.live i b hib.1 hib.2
  · intro b hb hnone
    apply h.once b hb
    intro i hi hib
    have hdi : d i = false := by
      rw [← Bool.not_eq_true]
      intro hd
      have := hempty i hi (.inl hd)
      rw [this] at hib
      cases hib
    have hsi : stale' i = false := by
      rw [← Bool.not_eq_true]
      intro hs
      have := hempty i hi (.inr hs)
      rw [this] at hib
      cases hib
    refine hnone i hsi ?_
    show (if d i then none else s.held i) = some b
    rw [hdi]
    exact hib

end

end Slots

end Ownership
