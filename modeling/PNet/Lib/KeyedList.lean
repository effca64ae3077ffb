import Mathlib.Algebra.BigOperators.Group.List.Basic
import Mathlib.Algebra.GroupWithZero.Nat
import Mathlib.Data.List.Nodup
import Mathlib.Logic.Function.Basic
import Mathlib.Tactic.Common

/-! # Lists with keys

A list of items stands for a finite map: the value of a key is that of the first item with this key.
When each key occurs at most once, taking an item out and putting one in front are operations on the
map, whatever the test is by which the list is searched, if only it finds the item of the key.
-/

namespace KeyedList

variable {α κ υ : Type*} [DecidableEq κ] (key : α → κ) (val : α → υ)

/-- The map that a list stands for. -/
def lookup (l : List α) (k : κ) : Option υ := (l.find? fun a => key a = k).map val

/-- Each key occurs at most once. -/
def Unique (l : List α) : Prop := (l.map key).Nodup

/-- The list without the item of a key. -/
def remove (l : List α) (k : κ) : List α := l.eraseP fun a => key a = k

/-- The list with an item in place of the one with its key; where there is none, it is added. -/
def set (l : List α) (a : α) : List α :=
  match l with
  | [] => [a]
  | b :: l => if key b = key a then a :: l else b :: set l a

variable {key val} {l : List α} {a b : α} {k k' : κ}

theorem lookup_cons : lookup key val (a :: l) =
    Function.update (lookup key val l) (key a) (some (val a)) := by
  funext k
  unfold lookup
  by_cases hk : key a = k
  · subst hk
    rw [List.find?_cons_of_pos (by simp), Function.update_self]
    rfl
  · rw [List.find?_cons_of_neg (by simpa using hk), Function.update_of_ne (Ne.symm hk)]

theorem lookup_eq_none (h : ∀ b ∈ l, key b ≠ k) : lookup key val l k = none := by
  unfold lookup
  rw [List.find?_eq_none.mpr (by simpa using h)]
  rfl

omit [DecidableEq κ] in
theorem Unique.tail (h : Unique key (a :: l)) : Unique key l := (List.nodup_cons.mp h).2

omit [DecidableEq κ] in
theorem Unique.head (h : Unique key (a :: l)) : ∀ b ∈ l, key b ≠ key a := by
  intro b hb heq
  apply (List.nodup_cons.mp h).1
  rw [← heq]
  exact List.mem_map_of_mem hb

theorem Unique.remove (h : Unique key l) (k : κ) : Unique key (remove key l k) := by
  apply List.Nodup.sublist _ h
  exact List.eraseP_sublist.map key

/-- Taking the item of a key out deletes its entry. -/
theorem Unique.lookup_remove (h : Unique key l) (k : κ) :
    lookup key val (KeyedList.remove key l k) = Function.update (lookup key val l) k none := by
  induction l with
  | nil =>
    funext k'
    by_cases hk : k' = k
    · subst hk
      rw [Function.update_self]
      rfl
    · rw [Function.update_of_ne hk]
      rfl
  | cons a l ih =>
    unfold KeyedList.remove
    by_cases hk : key a = k
    · -- the item is the first one, and no other one has its key
      subst hk
      have hnone : lookup key val l (key a) = none := lookup_eq_none h.head
      rw [List.eraseP_cons_of_pos (by simp), lookup_cons, Function.update_idem, ← hnone,
        Function.update_eq_self]
    · have hrest := ih h.tail
      unfold KeyedList.remove at hrest
      rw [List.eraseP_cons_of_neg (by simpa using hk), lookup_cons, lookup_cons, hrest,
        Function.update_comm hk]

/-- Behind the item of a key there is no other one. -/
theorem Unique.not_mem_remove (h : Unique key l) (k : κ) : ∀ b ∈ KeyedList.remove key l k, key b ≠ k := by
  induction l with
  | nil =>
    intro b hb
    cases hb
  | cons a l ih =>
    unfold KeyedList.remove
    by_cases hk : key a = k
    · subst hk
      rw [List.eraseP_cons_of_pos (by simp)]
      exact h.head
    · rw [List.eraseP_cons_of_neg (by simpa using hk)]
      intro b hb
      rcases List.mem_cons.mp hb with rfl | hb
      · exact hk
      · exact ih h.tail b hb

omit [DecidableEq κ] in
theorem Unique.cons (h : Unique key l) (hne : ∀ b ∈ l, key b ≠ key a) : Unique key (a :: l) := by
  apply List.nodup_cons.mpr
  constructor
  · intro hmem
    rcases List.mem_map.mp hmem with ⟨b, hb, heq⟩
    exact hne b hb heq
  · exact h

/-- Putting an item in front, instead of the one with its key, writes its entry. -/
theorem Unique.put (h : Unique key l) (a : α) :
    Unique key (a :: KeyedList.remove key l (key a)) ∧
      lookup key val (a :: KeyedList.remove key l (key a)) =
        Function.update (lookup key val l) (key a) (some (val a)) := by
  constructor
  · exact (h.remove _).cons (h.not_mem_remove _)
  · rw [lookup_cons, h.lookup_remove, Function.update_idem]

/-! ## In place -/

theorem mem_of_mem_set (h : b ∈ set key l a) : b = a ∨ b ∈ l := by
  induction l with
  | nil => exact .inl (List.mem_singleton.mp h)
  | cons c l ih =>
    unfold set at h
    by_cases hk : key c = key a
    · rw [if_pos hk] at h
      rcases List.mem_cons.mp h with rfl | h
      · exact .inl rfl
      · exact .inr (List.mem_cons_of_mem c h)
    · rw [if_neg hk] at h
      rcases List.mem_cons.mp h with rfl | h
      · exact .inr List.mem_cons_self
      · exact (ih h).imp_right (List.mem_cons_of_mem c)

theorem Unique.set (h : Unique key l) (a : α) : Unique key (KeyedList.set key l a) := by
  induction l with
  | nil => exact List.nodup_singleton _
  | cons c l ih =>
    unfold KeyedList.set
    by_cases hk : key c = key a
    · rw [if_pos hk]
      refine h.tail.cons ?_
      rw [← hk]
      exact h.head
    · rw [if_neg hk]
      refine (ih h.tail).cons ?_
      intro b hb
      rcases mem_of_mem_set hb with rfl | hb
      · exact fun heq => hk heq.symm
      · exact h.head b hb

theorem Unique.mem_set (h : Unique key l) :
    b ∈ KeyedList.set key l a ↔ b = a ∨ b ∈ l ∧ key b ≠ key a := by
  induction l with
  | nil => simp [KeyedList.set]
  | cons c l ih =>
    unfold KeyedList.set
    by_cases hk : key c = key a
    · have hrest : b ∈ l → key b ≠ key a := fun hb => hk ▸ h.head b hb
      rw [if_pos hk, List.mem_cons, List.mem_cons]
      constructor
      · exact fun hb => hb.imp_right fun hb => ⟨.inr hb, hrest hb⟩
      · rintro (rfl | ⟨rfl | hb, hne⟩)
        · exact .inl rfl
        · exact absurd hk hne
        · exact .inr hb
    · rw [if_neg hk, List.mem_cons, ih h.tail, List.mem_cons]
      constructor
      · rintro (rfl | rfl | ⟨hb, hne⟩)
        · exact .inr ⟨.inl rfl, hk⟩
        · exact .inl rfl
        · exact .inr ⟨.inr hb, hne⟩
      · rintro (rfl | ⟨rfl | hb, hne⟩)
        · exact .inr (.inl rfl)
        · exact .inl rfl
        · exact .inr (.inr ⟨hb, hne⟩)

/-- The new sum and what was there is the old sum and what is there now. -/
theorem sum_set (f : α → ℕ) : ((set key l a).map f).sum +
    ((l.find? fun b => key b = key a).map f).getD 0 = (l.map f).sum + f a := by
  induction l with
  | nil =>
    change f a + 0 + 0 = 0 + f a
    omega
  | cons c l ih =>
    unfold set
    by_cases hk : key c = key a
    · rw [if_pos hk, List.find?_cons_of_pos (by simpa using hk), List.map_cons, List.map_cons,
        List.sum_cons, List.sum_cons, Option.map_some, Option.getD_some]
      omega
    · rw [if_neg hk, List.find?_cons_of_neg (by simpa using hk), List.map_cons, List.map_cons,
        List.sum_cons, List.sum_cons]
      omega

/-! ## Searching by a test -/

variable {test : α → Bool}

/-- A test that all items of the key pass, and whose first item has the key. -/
theorem eraseP_eq_remove (htest : ∀ b ∈ l, key b = k → test b = true)
    (hfind : l.find? test = some a) (hkey : key a = k) :
    l.eraseP test = remove key l k ∧ l.find? (fun b => key b = k) = some a := by
  induction l with
  | nil => cases hfind
  | cons b l ih =>
    unfold KeyedList.remove
    by_cases hb : test b = true
    · rw [List.find?_cons_of_pos hb] at hfind
      cases hfind
      rw [List.eraseP_cons_of_pos hb, List.eraseP_cons_of_pos (by simpa using hkey),
        List.find?_cons_of_pos (by simpa using hkey)]
      exact ⟨rfl, rfl⟩
    · have hne : key b ≠ k := fun hk => hb (htest b List.mem_cons_self hk)
      rw [List.find?_cons_of_neg hb] at hfind
      rcases ih (fun c hc => htest c (List.mem_cons_of_mem b hc)) hfind with ⟨herase, hfirst⟩
      unfold KeyedList.remove at herase
      rw [List.eraseP_cons_of_neg hb, List.eraseP_cons_of_neg (by simpa using hne),
        List.find?_cons_of_neg (by simpa using hne), herase]
      exact ⟨rfl, hfirst⟩

theorem lookup_of_find_none (htest : ∀ b ∈ l, key b = k → test b = true)
    (hfind : l.find? test = none) : lookup key val l k = none := by
  apply lookup_eq_none
  intro b hb hk
  exact List.find?_eq_none.mp hfind b hb (htest b hb hk)

end KeyedList
