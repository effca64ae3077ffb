import Mathlib.Data.List.Basic
import PNet.Lib.Ring

/-! # A bounded queue in an array

A queue of at most `n` elements in the cells `0 .. n - 1` of an array, with an index to read from,
an index to write to and a counter. Behind the last cell follows the first one.

* `Holds`: the elements of the queue, from the oldest to the newest, are in the cells from the read
  index on.
* `Holds.post`, `Holds.fetch`: an element is put in and taken out.
* `Cleared`, `Cleared.post`, `Cleared.fetch`: the elements own something, and the other cells of the
  array own nothing.
* `answer`, `answers_eq`: what a bounded queue answers, and programs that answer alike.
-/

namespace PNet.Fifo

variable {α : Type} {n read write count : ℕ} {cells : ℕ → α} {xs : List α} {x : α}

structure Holds (n read write count : ℕ) (cells : ℕ → α) (xs : List α) : Prop where
  count_eq : count = xs.length
  le : xs.length ≤ n
  read_lt : read < n
  write_eq : write = (read + count) % n
  cell : ∀ j (hj : j < xs.length), cells ((read + j) % n) = xs[j]

theorem Holds.empty (hn : 0 < n) (cells : ℕ → α) : Holds n 0 0 0 cells [] where
  count_eq := rfl
  le := Nat.zero_le n
  read_lt := hn
  write_eq := (Nat.zero_mod n).symm
  cell j hj := absurd hj (Nat.not_lt_zero j)

theorem Holds.write_lt (h : Holds n read write count cells xs) : write < n := by
  rw [h.write_eq]
  exact Nat.mod_lt _ (Nat.zero_lt_of_lt h.read_lt)

theorem Holds.next_write (h : Holds n read write count cells xs) :
    Ring.next n write = (read + (count + 1)) % n := by
  rw [h.write_eq, Ring.next_mod (Nat.zero_lt_of_lt h.read_lt)]
  rfl

/-- An element is put into the cell at the write index. -/
theorem Holds.post (h : Holds n read write count cells xs) (hroom : count < n) (x : α) :
    Holds n read (Ring.next n write) (count + 1) (Function.update cells write x) (xs ++ [x]) := by
  have hlen : (xs ++ [x]).length = count + 1 := by rw [List.length_append, h.count_eq]; rfl
  constructor
  · exact hlen.symm
  · rw [hlen]
    exact hroom
  · exact h.read_lt
  · exact h.next_write
  · intro j hj
    rw [hlen] at hj
    by_cases hlast : j = count
    · subst hlast
      rw [← h.write_eq, Function.update_self, List.getElem_concat_length h.count_eq]
    · have hj' : j < count := by omega
      have hcell : (read + j) % n ≠ write := by
        rw [h.write_eq]
        exact Ring.mod_ne (by omega) (by omega)
      rw [Function.update_of_ne hcell, List.getElem_append_left (h.count_eq ▸ hj')]
      exact h.cell j (h.count_eq ▸ hj')

/-- The oldest element is in the cell at the read index. -/
theorem Holds.head (h : Holds n read write count cells (x :: xs)) : cells read = x := by
  have hcell := h.cell 0 (Nat.zero_lt_succ _)
  rw [Nat.add_zero, Nat.mod_eq_of_lt h.read_lt] at hcell
  exact hcell

/-- The oldest element is taken out, whatever is in its cell afterwards. -/
theorem Holds.fetch (h : Holds n read write count cells (x :: xs)) (y : α) :
    Holds n (Ring.next n read) write (count - 1) (Function.update cells read y) xs := by
  have hlen : count = xs.length + 1 := h.count_eq
  have hle : xs.length + 1 ≤ n := h.le
  have hn : 0 < n := Nat.zero_lt_of_lt h.read_lt
  have hread : Ring.next n read = (read + 1) % n := by
    have hnext := Ring.next_mod hn read
    rw [Nat.mod_eq_of_lt h.read_lt] at hnext
    exact hnext
  -- the cell `j` places behind the next read index
  have hbehind (j : ℕ) : ((read + 1) % n + j) % n = (read + (j + 1)) % n := by
    rw [Nat.mod_add_mod, Nat.add_assoc, Nat.add_comm 1 j]
  constructor
  · omega
  · omega
  · rw [hread]
    exact Nat.mod_lt _ hn
  · rw [hread, hbehind, h.write_eq]
    congr 2
    omega
  · intro j hj
    have hcell : (read + (j + 1)) % n ≠ read := by
      have hne : (read + 0) % n ≠ (read + (j + 1)) % n := Ring.mod_ne (by omega) (by omega)
      rw [Nat.add_zero, Nat.mod_eq_of_lt h.read_lt] at hne
      exact hne.symm
    rw [hread, hbehind, Function.update_of_ne hcell]
    exact h.cell (j + 1) (Nat.succ_lt_succ hj)

/-! ## Elements that own something -/

section
variable {β : Type} {own : α → Option β}

/-- A cell that owns nothing is filled. -/
theorem filterMap_fill {slots : ℕ → Option β} {i : ℕ} (hi : i < n) (hfree : slots i = none)
    (y : Option β) :
    ((List.range n).filterMap (Function.update slots i y)).Perm
      (y.toList ++ (List.range n).filterMap slots) := by
  obtain ⟨as, bs, hsplit⟩ := List.append_of_mem (List.mem_range.mpr hi)
  have hnodup := List.nodup_range (n := n)
  rw [hsplit, List.nodup_append] at hnodup
  -- the update concerns none of the other cells
  have hother (cs : List ℕ) (hcs : i ∉ cs) :
      cs.filterMap (Function.update slots i y) = cs.filterMap slots := by
    apply List.filterMap_congr
    intro k hmem
    exact Function.update_of_ne (ne_of_mem_of_not_mem hmem hcs) _ _
  have has : i ∉ as := fun hmem => hnodup.2.2 i hmem i List.mem_cons_self rfl
  have hbs : i ∉ bs := (List.nodup_cons.mp hnodup.2.1).1
  rw [hsplit, List.filterMap_append, List.filterMap_append, List.filterMap_cons,
    List.filterMap_cons, Function.update_self, hfree, hother as has, hother bs hbs]
  cases y with
  | none => exact List.Perm.refl _
  | some y => exact List.perm_middle

/-- The elements are in their cells, and the other cells own nothing: what the cells own is, in some
order, what the elements own. -/
structure Cleared (own : α → Option β) (n read write count : ℕ) (cells : ℕ → α) (xs : List α) :
    Prop extends Holds n read write count cells xs where
  free : ∀ i < n, (∀ j < count, i ≠ (read + j) % n) → own (cells i) = none
  perm : ((List.range n).filterMap (own ∘ cells)).Perm (xs.filterMap own)

theorem Cleared.empty (hn : 0 < n) (hcells : ∀ i < n, own (cells i) = none) :
    Cleared own n 0 0 0 cells [] := by
  refine ⟨Holds.empty hn cells, fun i hi _ => hcells i hi, ?_⟩
  have hnil : (List.range n).filterMap (own ∘ cells) = [] := by
    rw [List.filterMap_eq_nil_iff]
    intro i hi
    exact hcells i (List.mem_range.mp hi)
  rw [hnil]
  exact List.Perm.refl _

theorem Cleared.post (h : Cleared own n read write count cells xs) (hroom : count < n) (x : α) :
    Cleared own n read (Ring.next n write) (count + 1) (Function.update cells write x)
      (xs ++ [x]) := by
  have hfree : own (cells write) = none := by
    apply h.free write h.write_lt
    intro j hj
    rw [h.write_eq]
    exact (Ring.mod_ne (by omega) (by omega)).symm
  refine ⟨h.toHolds.post hroom x, ?_, ?_⟩
  · intro i hi hno
    have hiw : i ≠ write := by
      rw [h.write_eq]
      exact hno count (Nat.lt_succ_self count)
    rw [Function.update_of_ne hiw]
    exact h.free i hi fun j hj => hno j (Nat.lt_succ_of_lt hj)
  · have hx : [x].filterMap own = (own x).toList := by
      cases hown : own x <;> simp [hown]
    rw [Function.comp_update, List.filterMap_append, hx]
    calc ((List.range n).filterMap (Function.update (own ∘ cells) write (own x))).Perm
          ((own x).toList ++ (List.range n).filterMap (own ∘ cells)) :=
          filterMap_fill h.write_lt hfree (own x)
      _ |>.Perm ((own x).toList ++ xs.filterMap own) := h.perm.append_left _
      _ |>.Perm (xs.filterMap own ++ (own x).toList) := List.perm_append_comm

/-- The element is taken out, and its cell owns nothing afterwards. -/
theorem Cleared.fetch (h : Cleared own n read write count cells (x :: xs)) {y : α}
    (hy : own y = none) :
    Cleared own n (Ring.next n read) write (count - 1) (Function.update cells read y) xs := by
  have hlen : count = xs.length + 1 := h.count_eq
  have hread := h.read_lt
  have hnext : Ring.next n read = (read + 1) % n := by
    rw [← Ring.next_mod (Nat.zero_lt_of_lt hread), Nat.mod_eq_of_lt hread]
  refine ⟨h.toHolds.fetch y, ?_, ?_⟩
  · intro i hi hno
    by_cases heq : i = read
    · rw [heq, Function.update_self]
      exact hy
    · rw [Function.update_of_ne heq]
      apply h.free i hi
      intro j hj
      cases j with
      | zero =>
        rw [Nat.add_zero, Nat.mod_eq_of_lt hread]
        exact heq
      | succ j =>
        have hne := hno j (by omega)
        rw [hnext, Nat.mod_add_mod, Nat.add_assoc, Nat.add_comm 1 j] at hne
        exact hne
  · -- the array before is the one afterwards with the cell filled
    have hback : own ∘ cells
        = Function.update (own ∘ Function.update cells read y) read (own (cells read)) := by
      rw [Function.comp_update, Function.update_idem]
      exact (Function.update_eq_self read (own ∘ cells)).symm
    have hempty : (own ∘ Function.update cells read y) read = none := by
      rw [Function.comp_apply, Function.update_self]
      exact hy
    have hfill := filterMap_fill hread hempty (own (cells read))
    rw [← hback, h.head] at hfill
    have hxs : (x :: xs).filterMap own = (own x).toList ++ xs.filterMap own := by
      cases hown : own x <;> simp [hown]
    have hperm := hfill.symm.trans h.perm
    rw [hxs] at hperm
    exact (List.perm_append_left_iff _).mp hperm

end

/-! ## What a bounded queue answers -/

/-- An operation on a queue. -/
inductive Op (α : Type) where
  | post (x : α)
  | fetch
  | reset

/-- An answer of an operation. -/
inductive Answer (α : Type) where
  | posted (ok : Bool)
  | fetched (x : Option α)
  | wasReset
deriving DecidableEq

/-- The queue and its answer after an operation. -/
def answer (n : ℕ) (xs : List α) : Op α → List α × Answer α
  | .post x => if xs.length < n then (xs ++ [x], .posted true) else (xs, .posted false)
  | .fetch => (xs.tail, .fetched xs.head?)
  | .reset => ([], .wasReset)

theorem answer_room (h : xs.length < n) (x : α) :
    answer n xs (.post x) = (xs ++ [x], .posted true) := if_pos h

theorem answer_full (h : ¬xs.length < n) (x : α) :
    answer n xs (.post x) = (xs, .posted false) := if_neg h

/-- The state after a sequence of operations, and what they answer. -/
def answers {σ ε ω : Type} (step : σ → ε → σ × ω) (s : σ) : List ε → σ × List ω
  | [] => (s, [])
  | e :: es =>
    let rest := answers step (step s e).1 es
    (rest.1, (step s e).2 :: rest.2)

/-- Two programs that answer each operation alike answer all of them alike. -/
theorem answers_eq {σ τ ε ω : Type} (step : σ → ε → σ × ω) (step' : τ → ε → τ × ω)
    {R : σ → τ → Prop}
    (hstep : ∀ s t e, R s t → R (step s e).1 (step' t e).1 ∧ (step s e).2 = (step' t e).2)
    {s : σ} {t : τ} (hR : R s t) (es : List ε) :
    R (answers step s es).1 (answers step' t es).1 ∧
      (answers step s es).2 = (answers step' t es).2 := by
  induction es generalizing s t with
  | nil => exact ⟨hR, rfl⟩
  | cons e es ih =>
    have he := hstep s t e hR
    have hrest := ih he.1
    exact ⟨hrest.1, congrArg₂ List.cons he.2 hrest.2⟩

end PNet.Fifo
