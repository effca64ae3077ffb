import Mathlib.Data.List.Nodup
import Mathlib.Data.List.Range
import Mathlib.Logic.Function.Basic

/-! # Tables

A table has `n` rows, of which some are live, and each row has a key. A row is found by a search from
the first row on. When no two live rows have the same key, the search finds the row of the key.
-/

namespace Table

variable {κ : Type} [DecidableEq κ] {n i : ℕ} {live live' : ℕ → Bool} {key key' : ℕ → κ} {k : κ}

/-- The first live row with the key. -/
def lookup (n : ℕ) (live : ℕ → Bool) (key : ℕ → κ) (k : κ) : Option ℕ :=
  (List.range n).find? fun i => live i ∧ key i = k

omit [DecidableEq κ] in
/-- No two live rows have the same key. -/
def Unique (n : ℕ) (live : ℕ → Bool) (key : ℕ → κ) : Prop :=
  ∀ i < n, ∀ j < n, live i = true → live j = true → key i = key j → i = j

theorem lookup_some (h : lookup n live key k = some i) : i < n ∧ live i = true ∧ key i = k := by
  have hfound := List.find?_some h
  rw [decide_eq_true_iff] at hfound
  exact ⟨List.mem_range.mp (List.mem_of_find?_eq_some h), hfound⟩

theorem lookup_none : lookup n live key k = none ↔ ∀ i < n, live i = true → key i ≠ k := by
  unfold lookup
  rw [List.find?_eq_none]
  constructor
  · intro h i hi hlive hkey
    exact h i (List.mem_range.mpr hi) (decide_eq_true ⟨hlive, hkey⟩)
  · intro h i hi hfound
    rcases of_decide_eq_true hfound with ⟨hlive, hkey⟩
    exact h i (List.mem_range.mp hi) hlive hkey

theorem Unique.lookup_eq (h : Unique n live key) (hi : i < n) (hlive : live i = true)
    (hkey : key i = k) : lookup n live key k = some i := by
  cases hfound : lookup n live key k with
  | none => exact absurd hkey (lookup_none.mp hfound i hi hlive)
  | some j =>
    rcases lookup_some hfound with ⟨hj, hlive', hkey'⟩
    rw [h j hj i hi hlive' hlive (hkey'.trans hkey.symm)]

/-- The search is exact. -/
theorem Unique.lookup_iff (h : Unique n live key) :
    lookup n live key k = some i ↔ i < n ∧ live i = true ∧ key i = k := by
  constructor
  · exact lookup_some
  · intro hi
    exact h.lookup_eq hi.1 hi.2.1 hi.2.2

omit [DecidableEq κ] in
/-- Rows are dropped. -/
theorem Unique.of_keep (h : Unique n live key) (hlive : ∀ i < n, live' i = true → live i = true)
    (hkey : ∀ i < n, live' i = true → key' i = key i) : Unique n live' key' := by
  intro i hi j hj hi' hj' heq
  refine h i hi j hj (hlive i hi hi') (hlive j hj hj') ?_
  rw [← hkey i hi hi', ← hkey j hj hj']
  exact heq

/-- A row is added, with a key that no other row has. -/
theorem Unique.add (h : Unique n live key) (hnone : lookup n live key k = none)
    (hlive : ∀ j < n, j ≠ i → live' j = true → live j = true)
    (hkey : ∀ j < n, j ≠ i → live' j = true → key' j = key j) (hself : key' i = k) :
    Unique n live' key' := by
  have hnew (j : ℕ) (hj : j < n) (hne : j ≠ i) (hj' : live' j = true) : key' j ≠ key' i := by
    rw [hkey j hj hne hj', hself]
    exact lookup_none.mp hnone j hj (hlive j hj hne hj')
  intro j hj j' hj' hlj hlj' heq
  by_cases hji : j = i
  · by_cases hji' : j' = i
    · rw [hji, hji']
    · rw [hji] at heq
      exact absurd heq.symm (hnew j' hj' hji' hlj')
  · by_cases hji' : j' = i
    · rw [hji'] at heq
      exact absurd heq (hnew j hj hji hlj)
    · rw [hkey j hj hji hlj, hkey j' hj' hji' hlj'] at heq
      exact h j hj j' hj' (hlive j hj hji hlj) (hlive j' hj' hji' hlj') heq

/-! ## Entries -/

section
variable {α : Type} {row : ℕ → Option α} {x : α}

/-- The entries in the order of their rows. -/
def entries (n : ℕ) (row : ℕ → Option α) : List α := (List.range n).filterMap row

theorem mem_entries : x ∈ entries n row ↔ ∃ i < n, row i = some x := by
  simp only [entries, List.mem_filterMap, List.mem_range]

/-- An entry is put into a free row. -/
theorem entries_put (hi : i < n) (hrow : row i = none) (x : α) :
    (entries n (Function.update row i (some x))).Perm (x :: entries n row) := by
  rcases List.append_of_mem (List.mem_range.mpr hi) with ⟨before, behind, hsplit⟩
  have hnodup := List.nodup_range (n := n)
  rw [hsplit, List.nodup_middle, List.nodup_cons, List.mem_append, not_or] at hnodup
  have hother {rows : List ℕ} (hnot : i ∉ rows) :
      rows.filterMap (Function.update row i (some x)) = rows.filterMap row := by
    apply List.filterMap_congr
    intro j hj
    exact Function.update_of_ne (ne_of_mem_of_not_mem hj hnot) _ _
  unfold entries
  rw [hsplit, List.filterMap_append, List.filterMap_append,
    List.filterMap_cons_some (Function.update_self i (some x) row), List.filterMap_cons_none hrow,
    hother hnodup.1.1, hother hnodup.1.2]
  exact List.perm_middle

/-- There is a free row exactly when there are fewer entries than rows. -/
theorem entries_room : (entries n row).length < n ↔ ∃ i < n, row i = none := by
  have hlen : (entries n row).length ≤ n :=
    (List.length_filterMap_le row _).trans_eq List.length_range
  have hfull : (entries n row).length = n ↔ ∀ i ∈ List.range n, (row i).isSome = true := by
    rw [← List.filterMap_length_eq_length, List.length_range, entries]
  rw [lt_iff_le_and_ne, and_iff_right hlen, Ne, hfull]
  simp only [List.mem_range, not_forall, Option.not_isSome_iff_eq_none, exists_prop]

end

end Table
