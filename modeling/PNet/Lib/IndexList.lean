import Mathlib.Data.List.Nodup
import Mathlib.Data.List.Basic
import Mathlib.Tactic.Common

/-! # Doubly linked lists over array indices

A pool of nodes is an array; a list through the pool is a head index together
with a `next` and a `prev` index in each node. Every index from `N` on stands
for "no node", and the lists end in the index `N` itself.

`Seg N next prev p h l` says that the nodes of `l`, in this order, are what one
meets from the index `h` on, and that the node before the first one is `p`. The
rules below follow the three ways such lists are changed: a write elsewhere
(`Seg.congr`), cutting a node out (`Seg.unlink`) and putting one in
(`Seg.insert`). Acyclicity is not assumed anywhere, it follows from reaching
the end (`Seg.nodup`).
-/

namespace IndexList

variable {N : ℕ} {next prev next' prev' : ℕ → ℕ}

/-- The nodes met from `h` on are `l`, and `p` is before the first of them. -/
def Seg (N : ℕ) (next prev : ℕ → ℕ) : ℕ → ℕ → List ℕ → Prop
  | _, h, [] => h = N
  | p, h, i :: l => h = i ∧ i < N ∧ prev i = p ∧ Seg N next prev i (next i) l

/-- A whole list: nothing is before its first node. -/
def DList (N : ℕ) (next prev : ℕ → ℕ) (h : ℕ) (l : List ℕ) : Prop :=
  Seg N next prev N h l

/-! ## Reading a list -/

theorem headD_eq_or_mem (l : List ℕ) (d : ℕ) : l.headD d = d ∨ l.headD d ∈ l := by
  cases l with
  | nil => exact Or.inl rfl
  | cons i l => exact Or.inr (List.mem_cons_self ..)

theorem headD_mem {l : List ℕ} {d : ℕ} (h : l ≠ []) : l.headD d ∈ l := by
  obtain ⟨i, l, rfl⟩ := List.exists_cons_of_ne_nil h
  exact List.mem_cons_self ..

theorem getLastD_mem {l : List ℕ} {d : ℕ} (h : l ≠ []) : l.getLastD d ∈ l := by
  rw [List.getLastD_eq_getLast?, List.getLast?_eq_some_getLast h]
  exact List.getLast_mem h

theorem getLastD_eq_or_mem (l : List ℕ) (d : ℕ) : l.getLastD d = d ∨ l.getLastD d ∈ l := by
  by_cases h : l = []
  · exact Or.inl (by rw [h]; rfl)
  · exact Or.inr (getLastD_mem h)

theorem Seg.head_eq {p h : ℕ} {l : List ℕ} (hs : Seg N next prev p h l) : h = l.headD N := by
  cases l with
  | nil => exact hs
  | cons i l => exact hs.1

theorem Seg.lt {p h : ℕ} {l : List ℕ} (hs : Seg N next prev p h l) : ∀ i ∈ l, i < N := by
  induction l generalizing p h with
  | nil => simp
  | cons i l ih =>
    intro j hj
    rcases List.mem_cons.mp hj with rfl | hj
    · exact hs.2.1
    · exact ih hs.2.2.2 j hj

/-- The head index decides the list. -/
theorem Seg.unique {p q h : ℕ} {l m : List ℕ} (hl : Seg N next prev p h l)
    (hm : Seg N next prev q h m) : l = m := by
  induction l generalizing p q h m with
  | nil =>
    cases m with
    | nil => rfl
    | cons j m =>
      have h1 : h = N := hl
      have h2 : h = j := hm.1
      have h3 : j < N := hm.2.1
      omega
  | cons i l ih =>
    cases m with
    | nil =>
      have h1 : h = N := hm
      have h2 : h = i := hl.1
      have h3 : i < N := hl.2.1
      omega
    | cons j m =>
      have hij : i = j := hl.1.symm.trans hm.1
      subst hij
      rw [ih hl.2.2.2 hm.2.2.2]

theorem Seg.append_right {p h : ℕ} {a b : List ℕ} (hs : Seg N next prev p h (a ++ b)) :
    ∃ h', Seg N next prev (a.getLastD p) h' b := by
  induction a generalizing p h with
  | nil => exact ⟨h, hs⟩
  | cons i a ih =>
    obtain ⟨h', hh⟩ := ih hs.2.2.2
    refine ⟨h', ?_⟩
    rw [List.getLastD_cons]
    exact hh

/-- A list that ends has no cycle: a node met twice would start the same rest
twice, and the rests differ in length. -/
theorem Seg.nodup {p h : ℕ} {l : List ℕ} (hs : Seg N next prev p h l) : l.Nodup := by
  induction l generalizing p h with
  | nil => exact List.nodup_nil
  | cons i l ih =>
    refine List.nodup_cons.mpr ⟨?_, ih hs.2.2.2⟩
    intro hi
    obtain ⟨a, b, rfl⟩ := List.append_of_mem hi
    obtain ⟨h', hh⟩ := Seg.append_right hs.2.2.2
    have hrest : a ++ i :: b = b := Seg.unique hs.2.2.2 hh.2.2.2
    have hlen := congrArg List.length hrest
    simp at hlen
    omega

/-- The index before a node is stored in it. -/
theorem Seg.prev_mid {p h i : ℕ} {a b : List ℕ} (hs : Seg N next prev p h (a ++ i :: b)) :
    prev i = a.getLastD p := by
  obtain ⟨h', hh⟩ := Seg.append_right hs
  exact hh.2.2.1

/-- The index after a node is stored in it. -/
theorem Seg.next_mid {p h i : ℕ} {a b : List ℕ} (hs : Seg N next prev p h (a ++ i :: b)) :
    next i = b.headD N := by
  obtain ⟨h', hh⟩ := Seg.append_right hs
  exact hh.2.2.2.head_eq

/-! ## Writing elsewhere -/

theorem Seg.congr {p h : ℕ} {l : List ℕ} (hs : Seg N next prev p h l)
    (hn : ∀ i ∈ l, next' i = next i) (hp : ∀ i ∈ l, prev' i = prev i) :
    Seg N next' prev' p h l := by
  induction l generalizing p h with
  | nil => exact hs
  | cons i l ih =>
    refine ⟨hs.1, hs.2.1, (hp i (by simp)).trans hs.2.2.1, ?_⟩
    rw [hn i (by simp)]
    exact ih hs.2.2.2 (fun j hj => hn j (by simp [hj])) (fun j hj => hp j (by simp [hj]))

/-- Only the first node knows what is before the list. -/
theorem Seg.replace_before {p q h : ℕ} {l : List ℕ} (hs : Seg N next prev p h l)
    (hn : ∀ i ∈ l, next' i = next i) (hp : ∀ i ∈ l, i ≠ h → prev' i = prev i)
    (hq : h ≠ N → prev' h = q) : Seg N next' prev' q h l := by
  cases l with
  | nil => exact hs
  | cons i l =>
    obtain ⟨rfl, hlt, hpi, hrest⟩ := hs
    have hnd : h ∉ l := (List.nodup_cons.mp (Seg.nodup (p := p) ⟨rfl, hlt, hpi, hrest⟩)).1
    refine ⟨rfl, hlt, hq (by omega), ?_⟩
    rw [hn h (by simp)]
    refine hrest.congr (fun j hj => hn j (by simp [hj])) (fun j hj => hp j (by simp [hj]) ?_)
    rintro rfl
    exact hnd hj

/-- Only the last node of `a` (or the head) knows what follows `a`. -/
theorem Seg.replace_after {p h h' : ℕ} {a t t' : List ℕ} (hs : Seg N next prev p h (a ++ t))
    (ht : Seg N next' prev' (a.getLastD p) h' t')
    (hn : ∀ x ∈ a, x ≠ a.getLastD p → next' x = next x)
    (hnx : a ≠ [] → next' (a.getLastD p) = h') (hp : ∀ y ∈ a, prev' y = prev y) :
    Seg N next' prev' p (if a = [] then h' else h) (a ++ t') := by
  induction a generalizing p h with
  | nil => exact ht
  | cons j a ih =>
    have hnd : (j :: (a ++ t)).Nodup := Seg.nodup hs
    obtain ⟨rfl, hlt, hpj, hrest⟩ := hs
    rw [List.getLastD_cons] at ht hn hnx
    have hrec := ih hrest ht (fun x hx => hn x (List.mem_cons_of_mem _ hx))
      (fun _ => hnx (by simp)) (fun y hy => hp y (List.mem_cons_of_mem _ hy))
    rw [if_neg (by simp)]
    refine ⟨rfl, hlt, (hp h (by simp)).trans hpj, ?_⟩
    by_cases ha : a = []
    · -- `h` is itself the last node of `a`
      subst ha
      have hnh : next' h = h' := hnx (by simp)
      rw [hnh]
      exact hrec
    · rw [if_neg ha] at hrec
      have hne : h ≠ a.getLastD h := by
        intro heq
        obtain ⟨c, x, rfl⟩ := List.eq_nil_or_concat a |>.resolve_left ha
        rw [List.nodup_cons] at hnd
        refine hnd.1 ?_
        rw [heq]
        simp
      rw [hn h (by simp) hne]
      exact hrec

/-! ## Cutting a node out -/

/-- Cutting `i` out of `a ++ i :: b`: the node before it (or the head) now leads
to the node after it, and that one back. -/
theorem Seg.unlink {p h i : ℕ} {a b : List ℕ} (hs : Seg N next prev p h (a ++ i :: b))
    (hpb : p ∉ b)
    (hn : ∀ x ∈ a ++ b, x ≠ a.getLastD p → next' x = next x)
    (hnx : a ≠ [] → next' (a.getLastD p) = b.headD N)
    (hp : ∀ y ∈ a ++ b, y ≠ b.headD N → prev' y = prev y)
    (hpy : b ≠ [] → prev' (b.headD N) = a.getLastD p) :
    Seg N next' prev' p (if a = [] then b.headD N else h) (a ++ b) := by
  have hnd := List.nodup_append.mp hs.nodup
  obtain ⟨h', -, -, -, hb⟩ := Seg.append_right hs
  have hh : next i = b.headD N := hb.head_eq
  rw [hh] at hb
  refine hs.replace_after (hb.replace_before ?_ ?_ ?_) ?_ hnx ?_
  · intro j hj
    refine hn j (List.mem_append_right _ hj) ?_
    rintro rfl
    rcases List.mem_cons.mp (List.getLastD_mem_cons (l := a) (a := p)) with hl | hl
    · exact hpb (hl ▸ hj)
    · exact hnd.2.2 _ hl _ (List.mem_cons_of_mem _ hj) rfl
  · exact fun j hj hne => hp j (List.mem_append_right _ hj) hne
  · intro hne
    refine hpy ?_
    rintro rfl
    exact hne rfl
  · exact fun x hx hne => hn x (List.mem_append_left _ hx) hne
  · intro y hy
    refine hp y (List.mem_append_left _ hy) ?_
    rintro rfl
    rcases headD_eq_or_mem b N with hb' | hb'
    · exact absurd (hs.lt _ (List.mem_append_left _ hy)) (by omega)
    · exact hnd.2.2 _ hy _ (List.mem_cons_of_mem _ hb') rfl

/-! ## Putting a node in -/

/-- Putting `i` between `a` and `b`: the last node of `a` (or the head) now leads
to `i`, and the first node of `b` back to it. -/
theorem Seg.insert {p h i : ℕ} {a b : List ℕ} (hs : Seg N next prev p h (a ++ b))
    (hi : i < N) (hpb : p ∉ b)
    (hn : ∀ x ∈ a ++ b, x ≠ a.getLastD p → next' x = next x)
    (hnx : a ≠ [] → next' (a.getLastD p) = i)
    (hp : ∀ y ∈ a ++ b, y ≠ b.headD N → prev' y = prev y)
    (hpy : b ≠ [] → prev' (b.headD N) = i)
    (hni : next' i = b.headD N) (hpi : prev' i = a.getLastD p) :
    Seg N next' prev' p (if a = [] then i else h) (a ++ i :: b) := by
  have hnd := List.nodup_append.mp hs.nodup
  obtain ⟨h', hb⟩ := Seg.append_right hs
  have hh : h' = b.headD N := hb.head_eq
  rw [hh] at hb
  refine hs.replace_after ⟨rfl, hi, hpi, ?_⟩ ?_ hnx ?_
  · rw [hni]
    refine hb.replace_before ?_ ?_ ?_
    · intro j hj
      refine hn j (List.mem_append_right _ hj) ?_
      rintro rfl
      rcases List.mem_cons.mp (List.getLastD_mem_cons (l := a) (a := p)) with hl | hl
      · exact hpb (hl ▸ hj)
      · exact hnd.2.2 _ hl _ hj rfl
    · exact fun j hj hne => hp j (List.mem_append_right _ hj) hne
    · intro hne
      refine hpy ?_
      rintro rfl
      exact hne rfl
  · exact fun x hx hne => hn x (List.mem_append_left _ hx) hne
  · intro y hy
    refine hp y (List.mem_append_left _ hy) ?_
    rintro rfl
    rcases headD_eq_or_mem b N with hb' | hb'
    · exact absurd (hs.lt _ (List.mem_append_left _ hy)) (by omega)
    · exact hnd.2.2 _ hy _ hb' rfl

/-- Putting `i` before the whole list. -/
theorem seg_insert_head {p h i : ℕ} {l : List ℕ} (hs : Seg N next prev p h l)
    (hi : i < N) (hpl : p ∉ l) (hn : ∀ x ∈ l, next' x = next x)
    (hp : ∀ y ∈ l, y ≠ l.headD N → prev' y = prev y) (hpy : l ≠ [] → prev' (l.headD N) = i)
    (hni : next' i = l.headD N) (hpi : prev' i = p) : Seg N next' prev' p i (i :: l) := by
  have hins := Seg.insert (a := []) hs hi hpl (fun x hx _ => hn x hx) (by simp) hp hpy hni hpi
  rw [if_pos rfl] at hins
  exact hins

end IndexList
