import Mathlib.Data.List.Perm.Subperm
import Mathlib.Data.List.Range
import Mathlib.Data.List.Sort
import PNet.Lib.IndexList
import PNet.Scheduler.Model

/-! # The link functions of the scheduler

`Linked ts q l`: the list `l` runs through the pool `ts` from the head `q`. One rule
for each function of the source that changes links, always with its frame
`LinksOnly`: only links have changed, and only those of the nodes of the list.

* `isLinked_spec`: the search answers membership, and its assertion never fails.
* `unlink_spec`, `linkBefore_head_spec`, `linkAfter_spec`: the three calls the
  scheduler makes.
* `linkBusy_spec`: the second half of `pf_scheduler_add` puts a timer before the first
  one that does not expire earlier.
-/

namespace PNet.Scheduler

open IndexList

/-! ## Writing one entry -/

section Fields
variable (ts : Timeouts) (i j v : ℕ)

@[simp] theorem setNext_next : ((ts.setNext i v) j).next = if j = i then v else (ts j).next := by
  by_cases h : j = i <;> simp [Timeouts.setNext, h]

@[simp] theorem setNext_prev : ((ts.setNext i v) j).prev = (ts j).prev := by
  by_cases h : j = i <;> simp [Timeouts.setNext, h]

@[simp] theorem setPrev_prev : ((ts.setPrev i v) j).prev = if j = i then v else (ts j).prev := by
  by_cases h : j = i <;> simp [Timeouts.setPrev, h]

@[simp] theorem setPrev_next : ((ts.setPrev i v) j).next = (ts j).next := by
  by_cases h : j = i <;> simp [Timeouts.setPrev, h]

end Fields

/-- The part of an entry that the link functions leave alone. -/
def Timeout.payload (e : Timeout) : Name × Bool × Time × Job := (e.name, e.inUse, e.when, e.job)

@[simp] theorem setNext_payload (ts : Timeouts) (i j v : ℕ) :
    ((ts.setNext i v) j).payload = (ts j).payload := by
  by_cases h : j = i <;> simp [Timeouts.setNext, Timeout.payload, h]

@[simp] theorem setPrev_payload (ts : Timeouts) (i j v : ℕ) :
    ((ts.setPrev i v) j).payload = (ts j).payload := by
  by_cases h : j = i <;> simp [Timeouts.setPrev, Timeout.payload, h]

/-- From `ts` to `ts'` only links have changed, and only those of nodes in `l`. -/
structure LinksOnly (ts ts' : Timeouts) (l : List ℕ) : Prop where
  payload : ∀ j, (ts' j).payload = (ts j).payload
  next : ∀ j, j ∉ l → (ts' j).next = (ts j).next
  prev : ∀ j, j ∉ l → (ts' j).prev = (ts j).prev

theorem LinksOnly.inUse {ts ts' : Timeouts} {l : List ℕ} (h : LinksOnly ts ts' l) (j : ℕ) :
    (ts' j).inUse = (ts j).inUse :=
  congrArg (fun p : Name × Bool × Time × Job => p.2.1) (h.payload j)

theorem LinksOnly.when {ts ts' : Timeouts} {l : List ℕ} (h : LinksOnly ts ts' l) (j : ℕ) :
    (ts' j).when = (ts j).when :=
  congrArg (fun p : Name × Bool × Time × Job => p.2.2.1) (h.payload j)

theorem LinksOnly.job {ts ts' : Timeouts} {l : List ℕ} (h : LinksOnly ts ts' l) (j : ℕ) :
    (ts' j).job = (ts j).job :=
  congrArg (fun p : Name × Bool × Time × Job => p.2.2.2) (h.payload j)

/-- The list `l` through the pool, with head `q`. -/
def Linked (ts : Timeouts) (q : ℕ) (l : List ℕ) : Prop :=
  DList PF_MAX_TIMEOUTS (fun i => (ts i).next) (fun i => (ts i).prev) q l

/-- A list is not disturbed by writes along another one. -/
theorem Linked.frame {ts ts' : Timeouts} {q : ℕ} {l m : List ℕ} (h : Linked ts q l)
    (hw : LinksOnly ts ts' m) (hd : ∀ i ∈ l, i ∉ m) : Linked ts' q l :=
  Seg.congr h (fun i hi => hw.next i (hd i hi)) (fun i hi => hw.prev i (hd i hi))

theorem Linked.lt {ts : Timeouts} {q : ℕ} {l : List ℕ} (h : Linked ts q l) :
    ∀ i ∈ l, i < PF_MAX_TIMEOUTS := Seg.lt h

theorem Linked.head_eq {ts : Timeouts} {q : ℕ} {l : List ℕ} (h : Linked ts q l) :
    q = l.headD PF_MAX_TIMEOUTS := Seg.head_eq h

theorem Linked.head_ne_mid {ts : Timeouts} {q ix : ℕ} {a b : List ℕ}
    (h : Linked ts q (a ++ ix :: b)) (ha : a ≠ []) : q ≠ ix := by
  rintro rfl
  have hnd := Seg.nodup h
  obtain ⟨j, a, rfl⟩ := List.exists_cons_of_ne_nil ha
  obtain rfl : q = j := h.head_eq
  simp at hnd

theorem Linked.none_notMem {ts : Timeouts} {q : ℕ} {l : List ℕ} (h : Linked ts q l) :
    PF_MAX_TIMEOUTS ∉ l := fun hm => absurd (h.lt _ hm) (Nat.lt_irrefl _)

/-- A list through the pool is not longer than the pool. -/
theorem Linked.length_le {ts : Timeouts} {q : ℕ} {l : List ℕ} (h : Linked ts q l) :
    l.length ≤ PF_MAX_TIMEOUTS := by
  have hsub : l ⊆ List.range PF_MAX_TIMEOUTS := fun i hi => List.mem_range.mpr (h.lt i hi)
  simpa using (List.subperm_of_subset (Seg.nodup h) hsub).length_le

/-! ## The search for an entry -/

theorem isLinkedLoop_spec {ts : Timeouts} {ix p q left : ℕ} {l : List ℕ} {ret : Bool}
    (h : Seg PF_MAX_TIMEOUTS (fun i => (ts i).next) (fun i => (ts i).prev) p q l)
    (hleft : l.length ≤ left) :
    pfSchedulerIsLinkedLoop ts ix left q ret = some (ret || decide (ix ∈ l)) := by
  induction l generalizing p q left ret with
  | nil =>
    have hq : q = PF_MAX_TIMEOUTS := h
    cases left <;> simp [pfSchedulerIsLinkedLoop, hq]
  | cons i l ih =>
    obtain ⟨rfl, hlt, -, hrest⟩ := h
    cases left with
    | zero => simp at hleft
    | succ left =>
      rw [pfSchedulerIsLinkedLoop, if_pos hlt]
      refine (ih hrest (by simpa using hleft)).trans ?_
      by_cases hi : q = ix
      · simp [hi]
      · have hi' : ix ≠ q := fun h => hi h.symm
        simp [hi, hi']

/-- The assertion of the search never fails on a list, and the answer is right. -/
theorem isLinked_spec {ts : Timeouts} {ix q : ℕ} {l : List ℕ} (h : Linked ts q l)
    (hix : ix < PF_MAX_TIMEOUTS) : pfSchedulerIsLinked ts q ix = some (decide (ix ∈ l)) := by
  rw [pfSchedulerIsLinked, if_pos hix, isLinkedLoop_spec h h.length_le]
  simp

/-! ## Link and unlink -/

section Writes
variable (ts : Timeouts) (q ix pos j : ℕ)

theorem unlinkNode_next : ((unlinkNode ts q ix).1 j).next =
    if j = (ts ix).prev ∧ (ts ix).prev < PF_MAX_TIMEOUTS then (ts ix).next else (ts j).next := by
  unfold unlinkNode
  by_cases hn : (ts ix).next < PF_MAX_TIMEOUTS <;>
    by_cases hp : (ts ix).prev < PF_MAX_TIMEOUTS <;> simp [hn, hp]

theorem unlinkNode_prev : ((unlinkNode ts q ix).1 j).prev =
    if j = (ts ix).next ∧ (ts ix).next < PF_MAX_TIMEOUTS then (ts ix).prev else (ts j).prev := by
  unfold unlinkNode
  by_cases hn : (ts ix).next < PF_MAX_TIMEOUTS <;>
    by_cases hp : (ts ix).prev < PF_MAX_TIMEOUTS <;> simp [hn, hp]

theorem unlinkNode_payload : ((unlinkNode ts q ix).1 j).payload = (ts j).payload := by
  unfold unlinkNode
  by_cases hn : (ts ix).next < PF_MAX_TIMEOUTS <;>
    by_cases hp : (ts ix).prev < PF_MAX_TIMEOUTS <;> simp [hn, hp]

theorem linkFirst_next : ((linkFirst ts q ix).1 j).next = if j = ix then q else (ts j).next := by
  unfold linkFirst
  by_cases hq : q < PF_MAX_TIMEOUTS <;> simp [hq]

theorem linkFirst_prev : ((linkFirst ts q ix).1 j).prev =
    if j = q ∧ q < PF_MAX_TIMEOUTS then ix
    else if j = ix then PF_MAX_TIMEOUTS else (ts j).prev := by
  unfold linkFirst
  by_cases hq : q < PF_MAX_TIMEOUTS <;> simp [hq]

theorem linkFirst_payload : ((linkFirst ts q ix).1 j).payload = (ts j).payload := by
  unfold linkFirst
  by_cases hq : q < PF_MAX_TIMEOUTS <;> simp [hq]

theorem linkAfterPos_next : ((linkAfterPos ts q ix pos).1 j).next =
    if j = ix then (ts pos).next else if j = pos then ix else (ts j).next := by
  unfold linkAfterPos
  by_cases hn : (ts pos).next < PF_MAX_TIMEOUTS <;> simp [hn]

theorem linkAfterPos_prev : ((linkAfterPos ts q ix pos).1 j).prev =
    if j = ix then pos
    else if j = (ts pos).next ∧ (ts pos).next < PF_MAX_TIMEOUTS then ix else (ts j).prev := by
  unfold linkAfterPos
  by_cases hn : (ts pos).next < PF_MAX_TIMEOUTS <;> simp [hn]

theorem linkAfterPos_payload : ((linkAfterPos ts q ix pos).1 j).payload = (ts j).payload := by
  unfold linkAfterPos
  by_cases hn : (ts pos).next < PF_MAX_TIMEOUTS <;> simp [hn]

theorem linkBeforePos_next : ((linkBeforePos ts q ix pos).1 j).next =
    if j = ix then pos
    else if j = (ts pos).prev ∧ (ts pos).prev < PF_MAX_TIMEOUTS then ix else (ts j).next := by
  unfold linkBeforePos
  by_cases hp : (ts pos).prev < PF_MAX_TIMEOUTS <;> simp [hp]

theorem linkBeforePos_prev : ((linkBeforePos ts q ix pos).1 j).prev =
    if j = ix then (ts pos).prev else if j = pos then ix else (ts j).prev := by
  unfold linkBeforePos
  by_cases hp : (ts pos).prev < PF_MAX_TIMEOUTS <;> simp [hp]

theorem linkBeforePos_payload : ((linkBeforePos ts q ix pos).1 j).payload = (ts j).payload := by
  unfold linkBeforePos
  by_cases hp : (ts pos).prev < PF_MAX_TIMEOUTS <;> simp [hp]

end Writes

theorem unlink_spec {ts : Timeouts} {q ix : ℕ} {a b : List ℕ}
    (h : Linked ts q (a ++ ix :: b)) :
    ∃ r, pfSchedulerUnlink ts q ix = some r ∧ Linked r.1 r.2 (a ++ b) ∧
      LinksOnly ts r.1 (a ++ b) := by
  have hix : ix < PF_MAX_TIMEOUTS := h.lt ix (by simp)
  have hp : (ts ix).prev = a.getLastD PF_MAX_TIMEOUTS := Seg.prev_mid h
  have hn : (ts ix).next = b.headD PF_MAX_TIMEOUTS := Seg.next_mid h
  have hlast := getLastD_eq_or_mem a PF_MAX_TIMEOUTS
  have hhead := headD_eq_or_mem b PF_MAX_TIMEOUTS
  refine ⟨unlinkNode ts q ix, ?_, ?_, ?_, ?_, ?_⟩
  · rw [pfSchedulerUnlink, if_neg (by omega), isLinked_spec h hix]
    simp
  · have hq : (unlinkNode ts q ix).2 = if a = [] then b.headD PF_MAX_TIMEOUTS else q := by
      show (if q = ix then (ts ix).next else q) = _
      by_cases ha : a = []
      · subst ha
        have hqi : q = ix := h.head_eq
        rw [if_pos hqi, hn, if_pos rfl]
      · rw [if_neg ha, if_neg]
        rintro rfl
        exact h.head_ne_mid ha rfl
    rw [hq]
    refine Seg.unlink h (fun hb => h.none_notMem (by simp [hb])) ?_ ?_ ?_ ?_
    · intro x hx hne
      rw [unlinkNode_next, if_neg (fun hc => hne (hc.1.trans hp))]
    · intro ha
      have hmem := getLastD_mem (d := PF_MAX_TIMEOUTS) ha
      rw [unlinkNode_next, if_pos ⟨hp.symm, hp ▸ h.lt _ (List.mem_append_left _ hmem)⟩, hn]
    · intro y hy hne
      rw [unlinkNode_prev, if_neg (fun hc => hne (hc.1.trans hn))]
    · intro hb
      have hmem := List.mem_cons_of_mem ix (headD_mem (d := PF_MAX_TIMEOUTS) hb)
      rw [unlinkNode_prev, if_pos ⟨hn.symm, hn ▸ h.lt _ (List.mem_append_right _ hmem)⟩, hp]
  · exact fun j => unlinkNode_payload ts q ix j
  · intro j hj
    rw [unlinkNode_next, if_neg]
    rintro ⟨rfl, hlt⟩
    rw [hp] at hj hlt
    rcases hlast with h' | h'
    · omega
    · exact hj (List.mem_append_left _ h')
  · intro j hj
    rw [unlinkNode_prev, if_neg]
    rintro ⟨rfl, hlt⟩
    rw [hn] at hj hlt
    rcases hhead with h' | h'
    · omega
    · exact hj (List.mem_append_right _ h')

/-- Before any position at all of the empty list, and before "none" of any list. -/
theorem linkFirst_spec {ts : Timeouts} {q ix : ℕ} {l : List ℕ} (h : Linked ts q l)
    (hix : ix < PF_MAX_TIMEOUTS) (hnew : ix ∉ l) :
    Linked (linkFirst ts q ix).1 ix (ix :: l) ∧ LinksOnly ts (linkFirst ts q ix).1 (ix :: l) := by
  have hq : q = l.headD PF_MAX_TIMEOUTS := h.head_eq
  have hqix : q ≠ ix ∨ l = [] := by
    by_cases hl : l = []
    · exact Or.inr hl
    · refine Or.inl ?_
      rintro rfl
      exact hnew (hq ▸ headD_mem hl)
  refine ⟨?_, ?_, ?_, ?_⟩
  · unfold Linked DList
    refine seg_insert_head h hix h.none_notMem ?_ ?_ ?_ ?_ ?_
    · intro x hx
      rw [linkFirst_next, if_neg (by rintro rfl; exact hnew hx)]
    · intro y hy hne
      rw [linkFirst_prev, if_neg (fun hc => hne (hc.1.trans hq)),
        if_neg (by rintro rfl; exact hnew hy)]
    · intro hl
      have hmem := headD_mem (d := PF_MAX_TIMEOUTS) hl
      rw [linkFirst_prev, if_pos ⟨hq.symm, hq ▸ h.lt _ hmem⟩]
    · rw [linkFirst_next, if_pos rfl, hq]
    · rw [linkFirst_prev, if_neg, if_pos rfl]
      · rintro ⟨rfl, hlt⟩
        rcases hqix with hne | rfl
        · exact hne rfl
        · exact absurd hq (by simp; omega)
  · exact fun j => linkFirst_payload ts q ix j
  · intro j hj
    rw [linkFirst_next, if_neg (by rintro rfl; simp at hj)]
  · intro j hj
    have hjl : j ∉ l := fun hm => hj (List.mem_cons_of_mem _ hm)
    rw [linkFirst_prev, if_neg, if_neg (by rintro rfl; simp at hj)]
    rintro ⟨rfl, hlt⟩
    rcases headD_eq_or_mem l PF_MAX_TIMEOUTS with h' | h'
    · omega
    · exact hjl (hq ▸ h')

theorem linkAfterPos_spec {ts : Timeouts} {q ix pos : ℕ} {a b : List ℕ}
    (h : Linked ts q (a ++ pos :: b)) (hix : ix < PF_MAX_TIMEOUTS) (hnew : ix ∉ a ++ pos :: b) :
    Linked (linkAfterPos ts q ix pos).1 (linkAfterPos ts q ix pos).2 (a ++ pos :: ix :: b) ∧
      LinksOnly ts (linkAfterPos ts q ix pos).1 (a ++ pos :: ix :: b) := by
  have hn : (ts pos).next = b.headD PF_MAX_TIMEOUTS := Seg.next_mid h
  have hlast : (a ++ [pos]).getLastD PF_MAX_TIMEOUTS = pos := List.getLastD_concat ..
  have hsplit : a ++ pos :: b = (a ++ [pos]) ++ b := by simp
  have hout := h.none_notMem
  refine ⟨?_, ?_, ?_, ?_⟩
  · rw [hsplit] at h hnew hout
    have hassoc : a ++ pos :: ix :: b = (a ++ [pos]) ++ ix :: b := by simp
    have hhead : (linkAfterPos ts q ix pos).2 = if a ++ [pos] = [] then ix else q :=
      (if_neg (by simp)).symm
    rw [hassoc, hhead]
    refine Seg.insert h hix (fun hb => hout (List.mem_append_right _ hb)) ?_ ?_ ?_ ?_ ?_ ?_
    · intro x hx hne
      rw [linkAfterPos_next, if_neg (by rintro rfl; exact hnew hx), if_neg (by rwa [hlast] at hne)]
    · intro _
      rw [hlast, linkAfterPos_next, if_neg (by rintro rfl; simp at hnew), if_pos rfl]
    · intro y hy hne
      rw [linkAfterPos_prev, if_neg (by rintro rfl; exact hnew hy),
        if_neg (fun hc => hne (hc.1.trans hn))]
    · intro hb
      have hmem := List.mem_append_right (a ++ [pos]) (headD_mem (d := PF_MAX_TIMEOUTS) hb)
      rw [linkAfterPos_prev, if_neg (by intro hc; exact hnew (hc ▸ hmem)),
        if_pos ⟨hn.symm, hn ▸ h.lt _ hmem⟩]
    · rw [linkAfterPos_next, if_pos rfl, hn]
    · rw [linkAfterPos_prev, if_pos rfl, hlast]
  · exact fun j => linkAfterPos_payload ts q ix pos j
  · intro j hj
    simp only [List.mem_append, List.mem_cons, not_or] at hj
    rw [linkAfterPos_next, if_neg hj.2.2.1, if_neg hj.2.1]
  · intro j hj
    simp only [List.mem_append, List.mem_cons, not_or] at hj
    rw [linkAfterPos_prev, if_neg hj.2.2.1, if_neg]
    rintro ⟨rfl, hlt⟩
    rcases headD_eq_or_mem b PF_MAX_TIMEOUTS with h' | h'
    · omega
    · exact hj.2.2.2 (hn ▸ h')

theorem linkBeforePos_spec {ts : Timeouts} {q ix pos : ℕ} {a b : List ℕ}
    (h : Linked ts q (a ++ pos :: b)) (hix : ix < PF_MAX_TIMEOUTS) (hnew : ix ∉ a ++ pos :: b) :
    Linked (linkBeforePos ts q ix pos).1 (linkBeforePos ts q ix pos).2 (a ++ ix :: pos :: b) ∧
      LinksOnly ts (linkBeforePos ts q ix pos).1 (a ++ ix :: pos :: b) := by
  have hp : (ts pos).prev = a.getLastD PF_MAX_TIMEOUTS := Seg.prev_mid h
  have hout := h.none_notMem
  refine ⟨?_, ?_, ?_, ?_⟩
  · have hq : (linkBeforePos ts q ix pos).2 = if a = [] then ix else q := by
      show (if q = pos then ix else q) = _
      by_cases ha : a = []
      · subst ha
        have hqp : q = pos := h.head_eq
        rw [if_pos hqp, if_pos rfl]
      · rw [if_neg ha, if_neg (h.head_ne_mid ha)]
    rw [hq]
    refine Seg.insert h hix (fun hb => hout (List.mem_append_right _ hb)) ?_ ?_ ?_ ?_ ?_ ?_
    · intro x hx hne
      rw [linkBeforePos_next, if_neg (by rintro rfl; exact hnew hx),
        if_neg (fun hc => hne (hc.1.trans hp))]
    · intro ha
      have hmem := List.mem_append_left (pos :: b) (getLastD_mem (d := PF_MAX_TIMEOUTS) ha)
      rw [linkBeforePos_next, if_neg (by intro hc; exact hnew (hc ▸ hmem)),
        if_pos ⟨hp.symm, hp ▸ h.lt _ hmem⟩]
    · intro y hy hne
      rw [linkBeforePos_prev, if_neg (by rintro rfl; exact hnew hy), if_neg]
      rintro rfl
      exact hne rfl
    · intro _
      show ((linkBeforePos ts q ix pos).1 pos).prev = ix
      rw [linkBeforePos_prev, if_neg (by rintro rfl; simp at hnew), if_pos rfl]
    · rw [linkBeforePos_next, if_pos rfl]
      rfl
    · rw [linkBeforePos_prev, if_pos rfl, hp]
  · exact fun j => linkBeforePos_payload ts q ix pos j
  · intro j hj
    simp only [List.mem_append, List.mem_cons, not_or] at hj
    rw [linkBeforePos_next, if_neg hj.2.1, if_neg]
    rintro ⟨rfl, hlt⟩
    rcases getLastD_eq_or_mem a PF_MAX_TIMEOUTS with h' | h'
    · omega
    · exact hj.1 (hp ▸ h')
  · intro j hj
    simp only [List.mem_append, List.mem_cons, not_or] at hj
    rw [linkBeforePos_prev, if_neg hj.2.1, if_neg hj.2.2.1]

/-- To the front, as every insertion into the free list is made. -/
theorem linkBefore_head_spec {ts : Timeouts} {q ix : ℕ} {l : List ℕ} (h : Linked ts q l)
    (hix : ix < PF_MAX_TIMEOUTS) (hnew : ix ∉ l) :
    ∃ r, pfSchedulerLinkBefore ts q ix q = some r ∧ Linked r.1 r.2 (ix :: l) ∧
      LinksOnly ts r.1 (ix :: l) := by
  by_cases hq : PF_MAX_TIMEOUTS ≤ q
  · refine ⟨linkFirst ts q ix, ?_, linkFirst_spec h hix hnew⟩
    simp [pfSchedulerLinkBefore, linkAt, isLinked_spec h hix, hnew, hq, Nat.not_le.mpr hix]
  · refine ⟨linkBeforePos ts q ix q, ?_, ?_⟩
    · simp [pfSchedulerLinkBefore, linkAt, isLinked_spec h hix, hnew, hq, Nat.not_le.mpr hix]
    · cases l with
      | nil =>
        have hqN : q = PF_MAX_TIMEOUTS := h
        omega
      | cons j l =>
        obtain rfl : q = j := h.head_eq
        exact linkBeforePos_spec (a := []) h hix hnew

theorem linkAfter_spec {ts : Timeouts} {q ix pos : ℕ} {a b : List ℕ}
    (h : Linked ts q (a ++ pos :: b)) (hix : ix < PF_MAX_TIMEOUTS) (hnew : ix ∉ a ++ pos :: b) :
    ∃ r, pfSchedulerLinkAfter ts q ix pos = some r ∧ Linked r.1 r.2 (a ++ pos :: ix :: b) ∧
      LinksOnly ts r.1 (a ++ pos :: ix :: b) := by
  have hpos : pos < PF_MAX_TIMEOUTS := h.lt pos (by simp)
  have hq : q < PF_MAX_TIMEOUTS := by
    rw [h.head_eq]
    exact h.lt _ (headD_mem (by simp))
  refine ⟨linkAfterPos ts q ix pos, ?_, linkAfterPos_spec h hix hnew⟩
  rw [pfSchedulerLinkAfter, linkAt, if_neg (by omega), isLinked_spec h hix, Option.bind_some,
    if_neg (by simpa using hnew), if_neg (by omega), if_neg (by omega)]

/-! ## The place of a new timer -/

/-- `i` does not expire after `j`. -/
def NotAfter (ts : Timeouts) (i j : ℕ) : Prop := diff (ts i).when (ts j).when ≤ 0

instance (ts : Timeouts) : DecidableRel (NotAfter ts) :=
  fun i j => inferInstanceAs (Decidable (diff (ts i).when (ts j).when ≤ 0))

theorem orderedInsert_notAfter_congr {ts ts' : Timeouts} {ix : ℕ} {l : List ℕ}
    (h : ∀ j, (ts' j).when = (ts j).when) :
    l.orderedInsert (NotAfter ts') ix = l.orderedInsert (NotAfter ts) ix := by
  induction l with
  | nil => rw [List.orderedInsert_nil, List.orderedInsert_nil]
  | cons j l ih =>
    have hiff : NotAfter ts' ix j ↔ NotAfter ts ix j := by rw [NotAfter, NotAfter, h, h]
    by_cases hj : NotAfter ts ix j
    · rw [List.orderedInsert_cons_of_le _ _ hj, List.orderedInsert_cons_of_le _ _ (hiff.mpr hj)]
    · rw [List.orderedInsert_of_not_le _ _ hj, List.orderedInsert_of_not_le _ _ (hj ∘ hiff.mp), ih]

/-- The search of `pf_scheduler_add` stops at the place before the first timer that
does not expire earlier. -/
theorem findPos_spec {ts : Timeouts} (ix pos : ℕ) {l : List ℕ} {left p h : ℕ}
    (hs : Seg PF_MAX_TIMEOUTS (fun i => (ts i).next) (fun i => (ts i).prev) p h l)
    (hleft : l.length ≤ left) :
    ∃ a b, pos :: l = a ++ findPos ts (ts ix).when left pos h :: b ∧
      pos :: l.orderedInsert (NotAfter ts) ix =
        a ++ findPos ts (ts ix).when left pos h :: ix :: b := by
  induction l generalizing p h pos left with
  | nil =>
    have hh : h = PF_MAX_TIMEOUTS := hs
    have hpos : findPos ts (ts ix).when left pos h = pos := by
      cases left <;> simp [findPos, hh]
    exact ⟨[], [], by simp [hpos], by simp [hpos]⟩
  | cons j l ih =>
    obtain ⟨rfl, hlt, -, hrest⟩ := hs
    cases left with
    | zero => simp at hleft
    | succ left =>
      by_cases hd : 0 < diff (ts ix).when (ts h).when
      · -- the search goes on
        have hna : ¬ NotAfter ts ix h := by simpa [NotAfter] using hd
        obtain ⟨a, b, hab, hins⟩ := ih h hrest (by simpa using hleft)
        rw [findPos, if_pos ⟨hlt, hd⟩]
        refine ⟨pos :: a, b, by rw [hab]; rfl, ?_⟩
        rw [List.orderedInsert_of_not_le _ _ hna, hins]
        rfl
      · have hna : NotAfter ts ix h := by simpa [NotAfter] using hd
        rw [findPos, if_neg (fun hc => hd hc.2)]
        refine ⟨[], h :: l, rfl, ?_⟩
        rw [List.orderedInsert_cons_of_le _ _ hna]
        rfl

theorem linkBusy_spec {ts : Timeouts} {q ix : ℕ} {l : List ℕ} (h : Linked ts q l)
    (hix : ix < PF_MAX_TIMEOUTS) (hnew : ix ∉ l) :
    ∃ r, linkBusy ts q ix = some r ∧ Linked r.1 r.2 (l.orderedInsert (NotAfter ts) ix) ∧
      LinksOnly ts r.1 (l.orderedInsert (NotAfter ts) ix) := by
  cases l with
  | nil =>
    have hq : q = PF_MAX_TIMEOUTS := h
    rw [linkBusy, if_pos (Nat.le_of_eq hq.symm), ← hq]
    exact linkBefore_head_spec h hix hnew
  | cons j l =>
    obtain rfl : q = j := h.head_eq
    have hq : q < PF_MAX_TIMEOUTS := h.lt q (by simp)
    rw [linkBusy, if_neg (by omega)]
    by_cases hd : NotAfter ts ix q
    · have hd' : diff (ts ix).when (ts q).when ≤ 0 := hd
      rw [if_pos hd', List.orderedInsert_cons_of_le _ _ hd]
      exact linkBefore_head_spec h hix hnew
    · have hd' : ¬ diff (ts ix).when (ts q).when ≤ 0 := hd
      have hrest := h.2.2.2
      have hlen : l.length ≤ PF_MAX_TIMEOUTS := by
        have := h.length_le
        simp at this
        omega
      obtain ⟨a, b, hab, hins⟩ := findPos_spec ix q hrest hlen
      rw [if_neg hd', List.orderedInsert_of_not_le _ _ hd, hins]
      rw [hab] at h hnew
      exact linkAfter_spec h hix hnew

end PNet.Scheduler
