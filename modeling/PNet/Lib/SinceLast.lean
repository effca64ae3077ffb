import Mathlib.Data.List.Basic
import Mathlib.Tactic.Common

/-! # Since the last time

`SinceLast p q xs`: in the history `xs`, oldest first, something with `p` has happened since
the last thing with `q`.

`AtLeastSince p q n xs`: at least `n` things with `p` have happened since then.
-/

variable {α : Type*}

def SinceLast (p q : α → Prop) (xs : List α) : Prop :=
  ∃ before x after, xs = before ++ x :: after ∧ p x ∧ ∀ y ∈ after, ¬ q y

namespace SinceLast

variable {p q : α → Prop} {xs : List α} {x : α}

theorem not_nil : ¬ SinceLast p q [] := by
  rintro ⟨before, x, after, h, _⟩
  cases before <;> cases h

theorem concat_of_pos (h : p x) : SinceLast p q (xs ++ [x]) :=
  ⟨xs, x, [], rfl, h, fun _ hy => absurd hy List.not_mem_nil⟩

/-- Something that is not `p` counts only as `q`. -/
theorem concat_of_neg (h : ¬ p x) : SinceLast p q (xs ++ [x]) ↔ SinceLast p q xs ∧ ¬ q x := by
  constructor
  · rintro ⟨before, y, after, heq, hy, hafter⟩
    rcases List.eq_nil_or_concat after with rfl | ⟨after, z, rfl⟩
    · rcases List.append_inj' heq rfl with ⟨_, hlast⟩
      cases hlast
      exact absurd hy h
    · rw [List.concat_eq_append] at heq hafter
      rw [← List.cons_append, ← List.append_assoc] at heq
      rcases List.append_inj' heq rfl with ⟨hinit, hlast⟩
      cases hlast
      refine ⟨⟨before, y, after, hinit, hy, fun w hw => ?_⟩, ?_⟩
      · exact hafter w (List.mem_append_left _ hw)
      · exact hafter x (List.mem_append_right _ List.mem_cons_self)
  · rintro ⟨⟨before, y, after, rfl, hy, hafter⟩, hx⟩
    refine ⟨before, y, after ++ [x], ?_, hy, ?_⟩
    · rw [List.append_assoc, List.cons_append]
    · intro w hw
      rcases List.mem_append.mp hw with hold | hnew
      · exact hafter w hold
      · rw [List.mem_singleton.mp hnew]
        exact hx

end SinceLast

/-- At least `n` things with `p` have happened since the last thing with `q`. -/
def AtLeastSince (p : α → Bool) (q : α → Prop) (n : ℕ) (xs : List α) : Prop :=
  ∃ before after, xs = before ++ after ∧ after.countP p = n ∧ ∀ y ∈ after, ¬ q y

namespace AtLeastSince

variable {p : α → Bool} {q : α → Prop} {n : ℕ} {xs : List α} {x : α}

theorem zero (xs : List α) : AtLeastSince p q 0 xs :=
  ⟨xs, [], (List.append_nil xs).symm, rfl, fun _ hy => absurd hy List.not_mem_nil⟩

/-- Nothing has happened since a thing with `q`. -/
theorem concat_of_reset (h : q x) : AtLeastSince p q n (xs ++ [x]) ↔ n ≤ 0 := by
  constructor
  · rintro ⟨before, after, heq, rfl, hafter⟩
    rcases List.eq_nil_or_concat after with rfl | ⟨after, z, rfl⟩
    · exact Nat.le_refl 0
    · rw [List.concat_eq_append, ← List.append_assoc] at heq
      rcases List.append_inj' heq rfl with ⟨-, hlast⟩
      cases hlast
      exact absurd h (hafter x (by simp))
  · intro hn
    rw [Nat.le_zero.mp hn]
    exact zero _

theorem concat_succ (hp : p x = true) (hq : ¬ q x) :
    AtLeastSince p q (n + 1) (xs ++ [x]) ↔ AtLeastSince p q n xs := by
  constructor
  · rintro ⟨before, after, heq, hcount, hafter⟩
    rcases List.eq_nil_or_concat after with rfl | ⟨after, z, rfl⟩
    · cases hcount
    · rw [List.concat_eq_append] at heq hcount hafter
      rw [← List.append_assoc] at heq
      rcases List.append_inj' heq rfl with ⟨hinit, hlast⟩
      cases hlast
      rw [List.countP_append, List.countP_singleton, if_pos hp] at hcount
      exact ⟨before, after, hinit, Nat.succ.inj hcount,
        fun y hy => hafter y (List.mem_append_left _ hy)⟩
  · rintro ⟨before, after, rfl, rfl, hafter⟩
    refine ⟨before, after ++ [x], List.append_assoc .., ?_, ?_⟩
    · rw [List.countP_append, List.countP_singleton, if_pos hp]
    · intro y hy
      rcases List.mem_append.mp hy with hold | hnew
      · exact hafter y hold
      · rw [List.mem_singleton.mp hnew]
        exact hq

end AtLeastSince
