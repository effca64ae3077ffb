import Mathlib.Algebra.Order.Group.Nat
import Mathlib.Data.Fintype.Card
import Mathlib.Data.List.Nodup
import Mathlib.Logic.Function.Basic
import Mathlib.Tactic.Common

/-! # Several lists through one pool

A pool has the nodes `0 .. N - 1`, each with a `next` index. Lists run through the pool from
their heads to the index `nil`, and every node is in one list, or is the node that is just
being moved (the `hand`).

`Chain N nil next h l` says that `l` are the nodes met from `h` on. `Parts` says that the
lists of the keys that are `live` have all nodes among them, each node once; `PartsIf all` says it
of lists that have all nodes only if `all` holds. The rules are about what the owner of a pool does:
take a node out of a list (`PartsIf.take_head`, `PartsIf.take_after`), put it in front of one
(`PartsIf.put`), and begin and end a list (`PartsIf.add_list`, `PartsIf.drop_list`).
-/

namespace SharedPool

variable {N nil : ℕ} {next next' : ℕ → ℕ} {h i : ℕ} {l a b : List ℕ}

/-! ## One list -/

/-- The nodes met from `h` on are `l`. -/
def Chain (N nil : ℕ) (next : ℕ → ℕ) : ℕ → List ℕ → Prop
  | h, [] => h = nil
  | h, i :: l => h = i ∧ i < N ∧ Chain N nil next (next i) l

theorem Chain.lt (hc : Chain N nil next h l) : ∀ i ∈ l, i < N := by
  induction l generalizing h with
  | nil => simp
  | cons i l ih =>
    intro j hj
    rcases List.mem_cons.mp hj with rfl | hj
    · exact hc.2.1
    · exact ih hc.2.2 j hj

theorem Chain.append_right (hc : Chain N nil next h (a ++ b)) : ∃ h', Chain N nil next h' b := by
  induction a generalizing h with
  | nil => exact ⟨h, hc⟩
  | cons i a ih => exact ih hc.2.2

/-- A write outside of the list. -/
theorem Chain.congr (hc : Chain N nil next h l) (hn : ∀ i ∈ l, next' i = next i) :
    Chain N nil next' h l := by
  induction l generalizing h with
  | nil => exact hc
  | cons i l ih =>
    refine ⟨hc.1, hc.2.1, ?_⟩
    rw [hn i List.mem_cons_self]
    exact ih hc.2.2 fun j hj => hn j (List.mem_cons_of_mem i hj)

section
variable (hnil : N ≤ nil)
include hnil

theorem Chain.unique {m : List ℕ} (hl : Chain N nil next h l) (hm : Chain N nil next h m) :
    l = m := by
  induction l generalizing h m with
  | nil =>
    cases m with
    | nil => rfl
    | cons j m =>
      have h1 : h = nil := hl
      have h2 : h = j := hm.1
      have h3 : j < N := hm.2.1
      omega
  | cons i l ih =>
    cases m with
    | nil =>
      have h1 : h = nil := hm
      have h2 : h = i := hl.1
      have h3 : i < N := hl.2.1
      omega
    | cons j m =>
      have hij : i = j := hl.1.symm.trans hm.1
      subst hij
      rw [ih hl.2.2 hm.2.2]

/-- A list that ends has no cycle. -/
theorem Chain.nodup (hc : Chain N nil next h l) : l.Nodup := by
  induction l generalizing h with
  | nil => exact List.nodup_nil
  | cons i l ih =>
    refine List.nodup_cons.mpr ⟨?_, ih hc.2.2⟩
    intro hi
    obtain ⟨a, b, rfl⟩ := List.append_of_mem hi
    obtain ⟨h', hb⟩ := Chain.append_right hc.2.2
    have hrest : a ++ i :: b = b := Chain.unique hnil hc.2.2 hb.2.2
    have hlen := congrArg List.length hrest
    simp at hlen
    omega

theorem Chain.length_le (hc : Chain N nil next h l) : l.length ≤ N := by
  have hsub : l ⊆ List.range N := fun i hi => List.mem_range.mpr (hc.lt i hi)
  calc l.length ≤ (List.range N).length := (hc.nodup hnil).subperm hsub |>.length_le
    _ = N := List.length_range

theorem Chain.eq_nil_iff (hc : Chain N nil next h l) : l = [] ↔ h = nil := by
  constructor
  · rintro rfl
    exact hc
  · rintro rfl
    exact Chain.unique hnil hc rfl

end

/-- The list with the node `i` left out behind `p`. -/
theorem Chain.skip {p : ℕ} (hc : Chain N nil next h (a ++ p :: i :: b)) (hp : next' p = next i)
    (hn : ∀ x ∈ a ++ b, next' x = next x) : Chain N nil next' h (a ++ p :: b) := by
  induction a generalizing h with
  | nil =>
    obtain ⟨rfl, hlt, -, -, hb⟩ := hc
    refine ⟨rfl, hlt, ?_⟩
    rw [hp]
    exact hb.congr hn
  | cons j a ih =>
    obtain ⟨rfl, hlt, hrest⟩ := hc
    refine ⟨rfl, hlt, ?_⟩
    rw [hn h List.mem_cons_self]
    exact ih hrest fun x hx => hn x (List.mem_cons_of_mem h hx)

/-! ## Loops over a list -/

/-- A loop over all nodes from `h` on; `none` when it does not end within `fuel` nodes. -/
def walk (N : ℕ) (next : ℕ → ℕ) : ℕ → ℕ → Option (List ℕ)
  | 0, h => if N ≤ h then some [] else none
  | fuel + 1, h => if N ≤ h then some [] else (walk N next fuel (next h)).map (h :: ·)

/-- A loop that stops at the first node that passes the test, and gives it with the node
before it. -/
def search (N : ℕ) (next : ℕ → ℕ) (test : ℕ → Bool) : ℕ → ℕ → ℕ → Option (Option (ℕ × ℕ))
  | 0, _, h => if N ≤ h then some none else none
  | fuel + 1, p, h =>
    if N ≤ h then some none
    else if test h then some (some (p, h))
    else search N next test fuel h (next h)

theorem Chain.walk (hnil : N ≤ nil) {fuel : ℕ} (hc : Chain N nil next h l)
    (hfuel : l.length ≤ fuel) : walk N next fuel h = some l := by
  induction fuel generalizing h l with
  | zero =>
    obtain rfl : l = [] := List.length_eq_zero_iff.mp (Nat.le_zero.mp hfuel)
    have hh : h = nil := hc
    rw [SharedPool.walk, if_pos (by omega)]
  | succ fuel ih =>
    cases l with
    | nil =>
      have hh : h = nil := hc
      rw [SharedPool.walk, if_pos (by omega)]
    | cons i l =>
      obtain ⟨rfl, hlt, hrest⟩ := hc
      rw [SharedPool.walk, if_neg (by omega), ih hrest (by simpa using hfuel)]
      rfl

/-- The search finds the first node that passes, or none does. -/
theorem Chain.search (hnil : N ≤ nil) (test : ℕ → Bool) {fuel p : ℕ} (hc : Chain N nil next h l)
    (hfuel : l.length ≤ fuel) :
    (search N next test fuel p h = some none ∧ ∀ x ∈ l, test x = false) ∨
      ∃ a i b, l = a ++ i :: b ∧ test i = true ∧ (∀ x ∈ a, test x = false) ∧
        search N next test fuel p h = some (some (a.getLastD p, i)) := by
  induction fuel generalizing p h l with
  | zero =>
    obtain rfl : l = [] := List.length_eq_zero_iff.mp (Nat.le_zero.mp hfuel)
    have hh : h = nil := hc
    rw [SharedPool.search, if_pos (by omega)]
    exact .inl ⟨rfl, by simp⟩
  | succ fuel ih =>
    cases l with
    | nil =>
      have hh : h = nil := hc
      rw [SharedPool.search, if_pos (by omega)]
      exact .inl ⟨rfl, by simp⟩
    | cons j l =>
      obtain ⟨rfl, hlt, hrest⟩ := hc
      rw [SharedPool.search, if_neg (by omega)]
      by_cases ht : test h = true
      · rw [if_pos ht]
        exact .inr ⟨[], h, l, rfl, ht, by simp, rfl⟩
      · rw [if_neg ht]
        rw [Bool.not_eq_true] at ht
        rcases ih (p := h) hrest (by simpa using hfuel) with ⟨hs, hno⟩ | ⟨a, i, b, rfl, hi, ha, hs⟩
        · exact .inl ⟨hs, by simpa [ht] using hno⟩
        · refine .inr ⟨h :: a, i, b, rfl, hi, by simpa [ht] using ha, ?_⟩
          rw [hs, List.getLastD_cons]

/-! ## All lists of a pool -/

variable {κ : Type*} {head head' : κ → ℕ} {live live' : κ → Prop}

/-- The lists `l` of the keys that are live, and the node in the hand, are all of the pool. -/
structure Parts (N nil : ℕ) (next : ℕ → ℕ) (head : κ → ℕ) (live : κ → Prop) (hand : Option ℕ)
    (l : κ → List ℕ) : Prop where
  chain : ∀ k, live k → Chain N nil next (head k) (l k)
  apart : ∀ k k' i, live k → live k' → i ∈ l k → i ∈ l k' → k = k'
  hand_lt : ∀ i, hand = some i → i < N
  hand_apart : ∀ i, hand = some i → ∀ k, live k → i ∉ l k
  cover : ∀ i, i < N → hand = some i ∨ ∃ k, live k ∧ i ∈ l k

/-- `Parts`, except that nodes may have been lost unless `all` holds. -/
structure PartsIf (all : Prop) (N nil : ℕ) (next : ℕ → ℕ) (head : κ → ℕ) (live : κ → Prop)
    (hand : Option ℕ) (l : κ → List ℕ) : Prop where
  chain : ∀ k, live k → Chain N nil next (head k) (l k)
  apart : ∀ k k' i, live k → live k' → i ∈ l k → i ∈ l k' → k = k'
  hand_lt : ∀ i, hand = some i → i < N
  hand_apart : ∀ i, hand = some i → ∀ k, live k → i ∉ l k
  cover : all → ∀ i, i < N → hand = some i ∨ ∃ k, live k ∧ i ∈ l k

theorem parts_iff {hand : Option ℕ} {L : κ → List ℕ} :
    Parts N nil next head live hand L ↔ PartsIf True N nil next head live hand L := by
  constructor
  · intro h
    exact ⟨h.chain, h.apart, h.hand_lt, h.hand_apart, fun _ => h.cover⟩
  · intro h
    exact ⟨h.chain, h.apart, h.hand_lt, h.hand_apart, h.cover trivial⟩

namespace PartsIf

variable {all : Prop} {hand : Option ℕ} {L : κ → List ℕ} {k : κ}

/-- What is known of more nodes is known of fewer. -/
theorem mono {all' : Prop} (h : all' → all) (hp : PartsIf all N nil next head live hand L) :
    PartsIf all' N nil next head live hand L :=
  ⟨hp.chain, hp.apart, hp.hand_lt, hp.hand_apart, fun hall => hp.cover (h hall)⟩

/-- Nothing that a list depends on has changed. -/
theorem congr (hp : PartsIf all N nil next head live hand L) (hlive : ∀ k, live' k ↔ live k)
    (hhead : ∀ k, live k → head' k = head k)
    (hnext : ∀ i, i < N → hand ≠ some i → next' i = next i) :
    PartsIf all N nil next' head' live' hand L where
  chain k hk := by
    rw [hlive] at hk
    rw [hhead k hk]
    refine (hp.chain k hk).congr fun i hi => hnext i ((hp.chain k hk).lt i hi) ?_
    exact fun hhand => hp.hand_apart i hhand k hk hi
  apart k k' i hk hk' := hp.apart k k' i ((hlive k).mp hk) ((hlive k').mp hk')
  hand_lt := hp.hand_lt
  hand_apart i hi k hk := hp.hand_apart i hi k ((hlive k).mp hk)
  cover hall i hi := by
    rcases hp.cover hall i hi with h | ⟨k, hk, hik⟩
    · exact .inl h
    · exact .inr ⟨k, (hlive k).mpr hk, hik⟩

variable [DecidableEq κ]

/-- Putting the node of the hand in front of a list. -/
theorem put (hp : PartsIf all N nil next head live (some i) L) (hk : live k)
    (hnext : ∀ x, next' x = if x = i then head k else next x)
    (hhead : ∀ k', live k' → head' k' = if k' = k then i else head k') :
    PartsIf all N nil next' head' live none (Function.update L k (i :: L k)) := by
  have hlt := hp.hand_lt i rfl
  have hother : ∀ k', live k' → Chain N nil next' (head k') (L k') := by
    intro k' hk'
    refine (hp.chain k' hk').congr fun x hx => ?_
    have hne : x ≠ i := fun hxi => hp.hand_apart i rfl k' hk' (hxi ▸ hx)
    rw [hnext, if_neg hne]
  have hmem : ∀ k' x, x ∈ Function.update L k (i :: L k) k' ↔ k' = k ∧ x = i ∨ x ∈ L k' := by
    intro k' x
    by_cases hkk : k' = k
    · subst hkk
      simp
    · simp [hkk]
  refine ⟨?_, ?_, nofun, nofun, ?_⟩
  · intro k' hk'
    rw [hhead k' hk']
    by_cases hkk : k' = k
    · subst hkk
      rw [if_pos rfl, Function.update_self]
      refine ⟨rfl, hlt, ?_⟩
      rw [hnext, if_pos rfl]
      exact hother k' hk'
    · rw [if_neg hkk, Function.update_of_ne hkk]
      exact hother k' hk'
  · intro k1 k2 x h1 h2 hx1 hx2
    rw [hmem] at hx1 hx2
    rcases hx1 with ⟨rfl, rfl⟩ | hx1
    · rcases hx2 with ⟨rfl, -⟩ | hx2
      · rfl
      · exact absurd hx2 (hp.hand_apart x rfl k2 h2)
    · rcases hx2 with ⟨rfl, rfl⟩ | hx2
      · exact absurd hx1 (hp.hand_apart x rfl k1 h1)
      · exact hp.apart k1 k2 x h1 h2 hx1 hx2
  · intro hall x hx
    right
    rcases hp.cover hall x hx with hxi | ⟨k', hk', hxk⟩
    · cases hxi
      exact ⟨k, hk, (hmem k i).mpr (.inl ⟨rfl, rfl⟩)⟩
    · exact ⟨k', hk', (hmem k' x).mpr (.inr hxk)⟩

/-- Taking a node out of a list, in terms of the lists. -/
theorem take (next' : ℕ → ℕ) (head' : κ → ℕ) (hnil : N ≤ nil)
    (hp : PartsIf all N nil next head live none L) (hk : live k)
    (hL : L k = a ++ i :: b) (hthis : Chain N nil next' (head' k) (a ++ b))
    (hnext : ∀ x, x ∉ L k → next' x = next x)
    (hhead : ∀ k', live k' → k' ≠ k → head' k' = head k') :
    PartsIf all N nil next' head' live (some i) (Function.update L k (a ++ b)) := by
  have hnd : (a ++ i :: b).Nodup := hL ▸ (hp.chain k hk).nodup hnil
  have hi : i ∉ a ++ b := (List.nodup_middle.mp hnd).notMem
  have hsub : ∀ k' x, x ∈ Function.update L k (a ++ b) k' → x ∈ L k' ∧ (k' = k → x ≠ i) := by
    intro k' x hx
    by_cases hkk : k' = k
    · subst hkk
      rw [Function.update_self] at hx
      refine ⟨?_, fun _ hxi => hi (hxi ▸ hx)⟩
      rw [hL]
      rcases List.mem_append.mp hx with h | h
      · exact List.mem_append_left _ h
      · exact List.mem_append_right _ (List.mem_cons_of_mem _ h)
    · rw [Function.update_of_ne hkk] at hx
      exact ⟨hx, fun h => absurd h hkk⟩
  refine ⟨?_, ?_, ?_, ?_, ?_⟩
  · intro k' hk'
    by_cases hkk : k' = k
    · subst hkk
      rwa [Function.update_self]
    · rw [Function.update_of_ne hkk, hhead k' hk' hkk]
      refine (hp.chain k' hk').congr fun x hx => hnext x ?_
      exact fun hxk => hkk (hp.apart k' k x hk' hk hx hxk)
  · exact fun k1 k2 x h1 h2 hx1 hx2 =>
      hp.apart k1 k2 x h1 h2 (hsub k1 x hx1).1 (hsub k2 x hx2).1
  · intro j hj
    cases hj
    refine (hp.chain k hk).lt i ?_
    rw [hL]
    simp
  · intro j hj k' hk' hx
    cases hj
    have hik : i ∈ L k := by
      rw [hL]
      simp
    have hkk : k' = k := hp.apart k' k i hk' hk (hsub k' i hx).1 hik
    exact (hsub k' i hx).2 hkk rfl
  · intro hall x hx
    rcases hp.cover hall x hx with hno | ⟨k', hk', hxk⟩
    · cases hno
    · by_cases hxi : x = i
      · exact .inl (hxi ▸ rfl)
      · refine .inr ⟨k', hk', ?_⟩
        by_cases hkk : k' = k
        · subst hkk
          rw [Function.update_self]
          rw [hL] at hxk
          rcases List.mem_append.mp hxk with h | h
          · exact List.mem_append_left _ h
          · exact List.mem_append_right _ ((List.mem_cons.mp h).resolve_left hxi)
        · rwa [Function.update_of_ne hkk]

/-- Taking the first node of a list. -/
theorem take_head (hnil : N ≤ nil) (hp : PartsIf all N nil next head live none L) (hk : live k)
    (hL : L k = i :: b) (hhead : ∀ k', live k' → head' k' = if k' = k then next i else head k') :
    PartsIf all N nil next head' live (some i) (Function.update L k b) := by
  have hc := hp.chain k hk
  rw [hL] at hc
  refine hp.take (a := []) next head' hnil hk hL ?_ (fun _ _ => rfl) ?_
  · rw [hhead k hk, if_pos rfl]
    exact hc.2.2
  · intro k' hk' hkk
    rw [hhead k' hk', if_neg hkk]

/-- Taking the node behind `p`. -/
theorem take_after {p : ℕ} (hnil : N ≤ nil) (hp : PartsIf all N nil next head live none L)
    (hk : live k) (hL : L k = a ++ p :: i :: b)
    (hnext : ∀ x, next' x = if x = p then next i else next x) :
    PartsIf all N nil next' head live (some i) (Function.update L k (a ++ p :: b)) := by
  have hc := hp.chain k hk
  rw [hL] at hc
  have hnd := List.nodup_middle.mp (hc.nodup hnil)
  have hpn : p ∉ a ++ i :: b := hnd.notMem
  have hpL : p ∈ L k := by
    rw [hL]
    simp
  have hL' : L k = (a ++ [p]) ++ i :: b := by
    rw [hL]
    simp
  have htake := hp.take (a := a ++ [p]) next' head hnil hk hL' ?_ ?_
    fun _ _ _ => rfl
  · rwa [List.append_assoc, List.singleton_append] at htake
  · rw [List.append_assoc, List.singleton_append]
    refine hc.skip ?_ fun x hx => ?_
    · rw [hnext, if_pos rfl]
    · rw [hnext, if_neg]
      rintro rfl
      refine hpn ?_
      rcases List.mem_append.mp hx with h | h
      · exact List.mem_append_left _ h
      · exact List.mem_append_right _ (List.mem_cons_of_mem _ h)
  · intro x hx
    rw [hnext, if_neg]
    rintro rfl
    exact hx hpL

/-- A new list, which is empty. -/
theorem add_list (hp : PartsIf all N nil next head live hand L) (hk : ¬ live k)
    (hlive : ∀ k', live' k' ↔ k' = k ∨ live k')
    (hhead : ∀ k', live' k' → head' k' = if k' = k then nil else head k') :
    PartsIf all N nil next head' live' hand (Function.update L k []) := by
  have hmem : ∀ k' x, live' k' → x ∈ Function.update L k [] k' → live k' ∧ x ∈ L k' := by
    intro k' x hk' hx
    by_cases hkk : k' = k
    · subst hkk
      simp at hx
    · rw [Function.update_of_ne hkk] at hx
      exact ⟨((hlive k').mp hk').resolve_left hkk, hx⟩
  refine ⟨?_, ?_, hp.hand_lt, ?_, ?_⟩
  · intro k' hk'
    rw [hhead k' hk']
    by_cases hkk : k' = k
    · subst hkk
      rw [if_pos rfl, Function.update_self]
      rfl
    · rw [if_neg hkk, Function.update_of_ne hkk]
      exact hp.chain k' (((hlive k').mp hk').resolve_left hkk)
  · intro k1 k2 x h1 h2 hx1 hx2
    obtain ⟨h1, hx1⟩ := hmem k1 x h1 hx1
    obtain ⟨h2, hx2⟩ := hmem k2 x h2 hx2
    exact hp.apart k1 k2 x h1 h2 hx1 hx2
  · intro j hj k' hk' hx
    obtain ⟨hk', hx⟩ := hmem k' j hk' hx
    exact hp.hand_apart j hj k' hk' hx
  · intro hall x hx
    rcases hp.cover hall x hx with h | ⟨k', hk', hxk⟩
    · exact .inl h
    · refine .inr ⟨k', (hlive k').mpr (.inr hk'), ?_⟩
      rwa [Function.update_of_ne]
      rintro rfl
      exact hk hk'

omit [DecidableEq κ] in
/-- A list that is given up must be empty for its nodes not to be lost. -/
theorem drop_list (hp : PartsIf all N nil next head live hand L)
    (hL : all → ∀ k, live k → ¬ live' k → L k = [])
    (hlive : ∀ k, live' k → live k) (hhead : ∀ k, live' k → head' k = head k) :
    PartsIf all N nil next head' live' hand L := by
  refine ⟨?_, ?_, hp.hand_lt, ?_, ?_⟩
  · intro k' hk'
    rw [hhead k' hk']
    exact hp.chain k' (hlive k' hk')
  · exact fun k1 k2 x h1 h2 => hp.apart k1 k2 x (hlive k1 h1) (hlive k2 h2)
  · exact fun j hj k' hk' => hp.hand_apart j hj k' (hlive k' hk')
  · intro hall x hx
    rcases hp.cover hall x hx with h | ⟨k', hk', hxk⟩
    · exact .inl h
    · refine .inr ⟨k', ?_, hxk⟩
      by_contra hno
      rw [hL hall k' hk' hno] at hxk
      cases hxk

omit [DecidableEq κ] in
/-- Only an empty list can be given up without losing nodes. -/
theorem eq_nil_of_drop {L' : κ → List ℕ} (hnil : N ≤ nil)
    (hp : PartsIf all N nil next head live none L)
    (hp' : PartsIf True N nil next head' live' none L') (hlive : ∀ k, live' k → live k)
    (hhead : ∀ k, live' k → head' k = head k) (hk : live k) (hk' : ¬ live' k) : L k = [] := by
  by_contra hne
  obtain ⟨i, hi⟩ := List.exists_mem_of_ne_nil _ hne
  rcases hp'.cover trivial i ((hp.chain k hk).lt i hi) with hno | ⟨k', hlive', hik'⟩
  · cases hno
  · -- the list of `k'` is the one it was, so that `i` would have been in two lists
    have hc := hp'.chain k' hlive'
    rw [hhead k' hlive'] at hc
    rw [Chain.unique hnil hc (hp.chain k' (hlive k' hlive'))] at hik'
    have hkk : k' = k := hp.apart k' k i (hlive k' hlive') hk hik' hi
    exact hk' (hkk ▸ hlive')

end PartsIf

end SharedPool
