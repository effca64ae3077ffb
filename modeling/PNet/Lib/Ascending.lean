import Mathlib.Algebra.Order.Group.Nat
import Mathlib.Data.List.Nodup
import Mathlib.Data.List.Perm.Basic
import Mathlib.Tactic.Common

/-! # Loops in ascending order over an unordered list

A loop that searches the whole list for its next value, the least one above that of the last
turn. The search starts from a value `top`, which also says that nothing has been found, so that
`top` itself is never a turn.

* `mem_turns`, `turns_pairwise`: the values the loop takes, each once, in order.
* `loop_eq_foldl`: the loop is a fold over its turns.
* `groups_perm`: elements grouped by their values are the same elements.
-/

namespace Ascending

variable {α β γ : Type} (key : α → ℕ) (top : α) (xs : List α)

/-! ## The next value -/

/-- One step of the search. -/
def pick (limit r x : α) : α :=
  if key limit < key x then if key x < key r then x else r else r

def least (limit : α) : α := xs.foldl (pick key limit) top

/-- The least value above `limit`. -/
def next [DecidableEq α] (limit : α) : Option α :=
  if least key top xs limit ≠ top then some (least key top xs limit) else none

variable {key top xs}

/-- What a search from `r` finds. -/
theorem foldl_pick (limit r : α) :
    (xs.foldl (pick key limit) r = r ∨ xs.foldl (pick key limit) r ∈ xs ∧
      key limit < key (xs.foldl (pick key limit) r)) ∧
    key (xs.foldl (pick key limit) r) ≤ key r ∧
      ∀ x ∈ xs, key limit < key x → key (xs.foldl (pick key limit) r) ≤ key x := by
  induction xs generalizing r with
  | nil => exact ⟨.inl rfl, le_refl _, by simp⟩
  | cons x xs ih =>
    rw [List.foldl_cons]
    rcases ih (pick key limit r x) with ⟨hfound, hle, hleast⟩
    have hpick : pick key limit r x = r ∨ pick key limit r x = x ∧ key limit < key x := by
      unfold pick
      split
      · rename_i hx
        split
        · exact .inr ⟨rfl, hx⟩
        · exact .inl rfl
      · exact .inl rfl
    have hr : key (pick key limit r x) ≤ key r := by
      unfold pick
      split
      · split <;> omega
      · exact le_refl _
    have hx : key limit < key x → key (pick key limit r x) ≤ key x := by
      intro hlt
      unfold pick
      rw [if_pos hlt]
      split <;> omega
    refine ⟨?_, le_trans hle hr, ?_⟩
    · rcases hfound with heq | ⟨hmem, hlt⟩
      · rw [heq]
        rcases hpick with hpick | ⟨hpick, hlt⟩
        · exact .inl hpick
        · rw [hpick]
          exact .inr ⟨List.mem_cons_self, hlt⟩
      · exact .inr ⟨List.mem_cons_of_mem x hmem, hlt⟩
    · intro y hy hlt
      rcases List.mem_cons.mp hy with rfl | hy
      · exact le_trans hle (hx hlt)
      · exact hleast y hy hlt

variable [DecidableEq α]

theorem next_some {limit k : α} (hk : next key top xs limit = some k) :
    k ∈ xs ∧ key limit < key k ∧ key k ≤ key top ∧ k ≠ top ∧
      ∀ x ∈ xs, key limit < key x → key k ≤ key x := by
  unfold next at hk
  split at hk
  · rename_i hne
    rcases @foldl_pick α key xs limit top with ⟨hfound, hle, hleast⟩
    obtain rfl := Option.some.inj hk
    rcases hfound with heq | ⟨hmem, hlt⟩
    · exact absurd heq hne
    · exact ⟨hmem, hlt, hle, hne, hleast⟩
  · simp at hk

theorem next_none {limit : α} (hk : next key top xs limit = none) :
    ∀ x ∈ xs, key limit < key x → key top ≤ key x := by
  unfold next at hk
  split at hk
  · simp at hk
  · rename_i heq
    have heq : least key top xs limit = top := not_not.mp heq
    intro x hx hlt
    have hleast := (@foldl_pick α key xs limit top).2.2 x hx hlt
    rwa [← least.eq_def, heq] at hleast

/-! ## The loop -/

theorem next_lt {limit k : α} (hinj : Function.Injective key) (hk : next key top xs limit = some k) :
    key limit < key k ∧ key k < key top := by
  rcases next_some hk with ⟨-, hlt, hle, hne, -⟩
  have hkey : key k ≠ key top := fun heq => hne (hinj heq)
  exact ⟨hlt, by omega⟩

variable (key top xs)

/-- The loop, from the turn of `limit` on. -/
def loop (hinj : Function.Injective key) (body : α → β → β) (limit : α) (b : β) : β :=
  match h : next key top xs limit with
  | none => b
  | some k =>
    have := next_lt hinj h
    loop hinj body k (body k b)
termination_by key top - key limit

/-- The values it takes. -/
def turns (hinj : Function.Injective key) (limit : α) : List α :=
  match h : next key top xs limit with
  | none => []
  | some k =>
    have := next_lt hinj h
    k :: turns hinj k
termination_by key top - key limit

variable {key top xs} {hinj : Function.Injective key}

theorem turns_none {limit : α} (hk : next key top xs limit = none) :
    turns key top xs hinj limit = [] := by
  rw [turns]
  split
  · rfl
  · rename_i hk'
    rw [hk] at hk'
    simp at hk'

theorem turns_some {limit k : α} (hk : next key top xs limit = some k) :
    turns key top xs hinj limit = k :: turns key top xs hinj k := by
  rw [turns]
  split
  · rename_i hk'
    rw [hk] at hk'
    simp at hk'
  · rename_i hk'
    rw [hk] at hk'
    rw [Option.some.inj hk']

theorem loop_eq_foldl (body : α → β → β) (limit : α) (b : β) :
    loop key top xs hinj body limit b =
      (turns key top xs hinj limit).foldl (fun b k => body k b) b := by
  induction limit, b using loop.induct key top xs hinj body with
  | case1 limit b hk =>
    rw [turns_none hk, loop]
    split
    · rfl
    · rename_i hk'
      rw [hk] at hk'
      simp at hk'
  | case2 limit b k hk this ih =>
    rw [turns_some hk, List.foldl_cons, ← ih, loop]
    split
    · rename_i hk'
      rw [hk] at hk'
      simp at hk'
    · rename_i hk'
      rw [hk] at hk'
      rw [Option.some.inj hk']

theorem mem_turns (limit x : α) :
    x ∈ turns key top xs hinj limit ↔ x ∈ xs ∧ key limit < key x ∧ key x < key top := by
  induction limit using turns.induct key top xs hinj with
  | case1 limit hk =>
    rw [turns_none hk]
    constructor
    · intro hx
      simp at hx
    · rintro ⟨hx, hlt, htop⟩
      have := next_none hk x hx hlt
      omega
  | case2 limit k hk this ih =>
    rcases next_some hk with ⟨hmem, hlt, -, -, hleast⟩
    rw [turns_some hk, List.mem_cons, ih]
    constructor
    · rintro (rfl | ⟨hx, hkx, htop⟩)
      · exact ⟨hmem, this⟩
      · exact ⟨hx, lt_trans hlt hkx, htop⟩
    · rintro ⟨hx, hkx, htop⟩
      rcases Nat.eq_or_lt_of_le (hleast x hx hkx) with heq | hlt'
      · exact .inl (hinj heq).symm
      · exact .inr ⟨hx, hlt', htop⟩

theorem turns_pairwise (limit : α) :
    (turns key top xs hinj limit).Pairwise fun x y => key x < key y := by
  induction limit using turns.induct key top xs hinj with
  | case1 limit hk =>
    rw [turns_none hk]
    exact List.Pairwise.nil
  | case2 limit k hk this ih =>
    rw [turns_some hk]
    refine List.Pairwise.cons ?_ ih
    intro x hx
    exact ((mem_turns k x).mp hx).2.1

theorem turns_nodup (limit : α) : (turns key top xs hinj limit).Nodup := by
  refine (turns_pairwise limit).imp ?_
  rintro x y hlt rfl
  exact lt_irrefl _ hlt

/-! ## Groups -/

/-- Elements grouped by their values. -/
theorem groups_perm {ks : List α} (hks : ks.Nodup) (f : γ → α) (ys : List γ)
    (hcover : ∀ y ∈ ys, f y ∈ ks) :
    (ks.flatMap fun k => ys.filter fun y => f y = k).Perm ys := by
  induction ks generalizing ys with
  | nil =>
    have hys : ys = [] := List.eq_nil_iff_forall_not_mem.mpr fun y hy => by simpa using hcover y hy
    rw [hys]
    exact List.Perm.refl _
  | cons k ks ih =>
    rcases List.nodup_cons.mp hks with ⟨hk, hks⟩
    -- the other groups do not see the elements of the first
    have hrest : (ks.flatMap fun j => ys.filter fun y => f y = j) =
        ks.flatMap fun j => (ys.filter fun y => !decide (f y = k)).filter fun y => f y = j := by
      refine List.flatMap_congr fun j hj => ?_
      rw [List.filter_filter]
      refine List.filter_congr fun y _ => ?_
      by_cases hy : f y = j
      · have hne : f y ≠ k := fun heq => hk (heq ▸ hy ▸ hj)
        simp [hy, hy ▸ hne]
      · simp [hy]
    rw [List.flatMap_cons, hrest]
    have hcover' : ∀ y ∈ ys.filter fun y => !decide (f y = k), f y ∈ ks := by
      intro y hy
      rcases List.mem_filter.mp hy with ⟨hmem, hne⟩
      rcases List.mem_cons.mp (hcover y hmem) with heq | hin
      · simp [heq] at hne
      · exact hin
    exact ((ih hks _ hcover').append_left _).trans (List.filter_append_perm _ ys)

end Ascending
