import PNet.Cmdev.Diag

/-! # The pool of diagnosis items

Each item of the pool is free or in the list of one subslot that is in use.

* `Device.IsPartition` - this property of a state
* `DiagOp.run_spec` - what a request about a diagnosis does to the lists and to the indicator
-/

namespace PNet.Cmdev

open Connect SharedPool

/-! ## The lists -/

/-- The subslot is in use, in a slot and in an API that are. -/
def Device.InUse (d : Device) (q : SubslotPos) : Prop :=
  (q.1 < PNET_MAX_API ∧ (d.apis q.1).inUse = true) ∧
    (q.2.1 < PNET_MAX_SLOTS ∧ (d.slots (q.1, q.2.1)).inUse = true) ∧
      q.2.2 < PNET_MAX_SUBSLOTS ∧ (d.subslots q).inUse = true

namespace Device

/-- The heads of the lists: that of the free items, and that of each subslot. -/
def head (d : Device) : Option SubslotPos → ℕ
  | none => d.diagItemsFree
  | some q => (d.subslots q).diagList

/-- The lists there are. -/
def Live (d : Device) : Option SubslotPos → Prop
  | none => True
  | some q => d.InUse q

/-- The lists are `L`, and they have all items but the one in the hand. -/
def Lists (d : Device) (hand : Option ℕ) (L : Option SubslotPos → List ℕ) : Prop :=
  Parts PNET_MAX_DIAG_ITEMS PF_DIAG_IX_NULL d.next d.head d.Live hand L

/-- `Lists`, except that items may have been lost unless `all` holds. -/
def ListsIf (d : Device) (all : Prop) (hand : Option ℕ) (L : Option SubslotPos → List ℕ) : Prop :=
  PartsIf all PNET_MAX_DIAG_ITEMS PF_DIAG_IX_NULL d.next d.head d.Live hand L

theorem lists_iff {d : Device} {hand : Option ℕ} {L : Option SubslotPos → List ℕ} :
    d.Lists hand L ↔ d.ListsIf True hand L := parts_iff

/-- Each item is in one list, that of the free items or that of a subslot in use. -/
def IsPartition (d : Device) : Prop :=
  ∃ L, d.Lists none L

theorem items_le_null : PNET_MAX_DIAG_ITEMS ≤ PF_DIAG_IX_NULL := by decide

variable {all : Prop} {d d' : Device} {hand : Option ℕ} {L : Option SubslotPos → List ℕ}
  {q : SubslotPos}

/-- What the lists depend on. -/
structure SameLists (d d' : Device) : Prop where
  items : ∀ i, d'.next i = d.next i
  free : d'.diagItemsFree = d.diagItemsFree
  inUse : ∀ q, d'.InUse q ↔ d.InUse q
  diagList : ∀ q, d.InUse q → (d'.subslots q).diagList = (d.subslots q).diagList

theorem ListsIf.congr (h : d.ListsIf all hand L) (hs : SameLists d d') : d'.ListsIf all hand L := by
  refine PartsIf.congr h ?_ ?_ fun i _ _ => hs.items i
  · rintro (_ | q)
    · exact Iff.rfl
    · exact hs.inUse q
  · rintro (_ | q) hq
    · exact hs.free
    · exact hs.diagList q hq

/-- The items of a subslot, by the loop of the code. -/
theorem ListsIf.diagItemsOf (h : d.ListsIf all hand L) (hq : d.InUse q) :
    d.diagItemsOf q = some ((L (some q)).map d.diagItems) := by
  have hc := PartsIf.chain h (some q) hq
  have hwalk := hc.walk items_le_null (hc.length_le items_le_null)
  exact congrArg (Option.map fun ixs => ixs.map d.diagItems) hwalk

/-! ## Entries that are found -/

theorem getApi_some {apiId : BitVec 32} {a : ℕ} (h : d.getApi apiId = some a) :
    a < PNET_MAX_API ∧ (d.apis a).inUse = true := by
  have hmem := List.mem_of_find?_eq_some h
  have htest := List.find?_some h
  simp only [Bool.decide_and, Bool.decide_eq_true, Bool.and_eq_true, decide_eq_true_eq] at htest
  exact ⟨List.mem_range.mp hmem, htest.1⟩

theorem getSlot_some {a s : ℕ} {slotNbr : BitVec 16} (h : d.getSlot a slotNbr = some s) :
    s < PNET_MAX_SLOTS ∧ (d.slots (a, s)).inUse = true := by
  have hmem := List.mem_of_find?_eq_some h
  have htest := List.find?_some h
  simp only [Bool.decide_and, Bool.decide_eq_true, Bool.and_eq_true, decide_eq_true_eq] at htest
  exact ⟨List.mem_range.mp hmem, htest.1⟩

theorem getSubslot_some {a s i : ℕ} {subslotNbr : BitVec 16}
    (h : d.getSubslot a s subslotNbr = some i) :
    i < PNET_MAX_SUBSLOTS ∧ (d.subslots (a, s, i)).inUse = true := by
  have hmem := List.mem_of_find?_eq_some h
  have htest := List.find?_some h
  simp only [Bool.decide_and, Bool.decide_eq_true, Bool.and_eq_true, decide_eq_true_eq] at htest
  exact ⟨List.mem_range.mp hmem, htest.1⟩

theorem inUse_of_getSubslot {a s i : ℕ} {apiId : BitVec 32} {slotNbr subslotNbr : BitVec 16}
    (ha : d.getApi apiId = some a) (hs : d.getSlot a slotNbr = some s)
    (hi : d.getSubslot a s subslotNbr = some i) : d.InUse (a, s, i) :=
  ⟨getApi_some ha, getSlot_some hs, getSubslot_some hi⟩

theorem inUse_of_getSubslotFull {apiId slotNbr subslotNbr : BitVec 16}
    (h : d.getSubslotFull apiId slotNbr subslotNbr = some q) : d.InUse q := by
  simp only [getSubslotFull, Option.bind_eq_bind, Option.bind_eq_some_iff, Option.pure_def,
    Option.some.injEq] at h
  obtain ⟨a, ha, s, hs, i, hi, rfl⟩ := h
  exact inUse_of_getSubslot ha hs hi

/-! ## What moves items -/

/-- The item in the hand is in no list. -/
theorem ListsIf.setItem_hand {ix : ℕ} (h : d.ListsIf all (some ix) L) (item : DiagItem) :
    (d.setItem ix item).ListsIf all (some ix) L := by
  refine PartsIf.congr h (fun k => ?_) (fun k _ => ?_) fun i _ hi => ?_
  · cases k <;> exact Iff.rfl
  · cases k <;> rfl
  · have hne : i ≠ ix := fun hix => hi (congrArg some hix.symm)
    show (Function.update d.diagItems ix item i).next = _
    rw [Function.update_of_ne hne]
    rfl

/-- A new item comes from the free list. -/
theorem ListsIf.newDiag {ix : ℕ} (h : d.ListsIf all none L) (hnew : d.newDiag = some (ix, d')) :
    ∃ b, L none = ix :: b ∧ d'.ListsIf all (some ix) (Function.update L none b) := by
  unfold Device.newDiag at hnew
  by_cases hnull : d.diagItemsFree = PF_DIAG_IX_NULL
  · simp [hnull] at hnew
  · simp only [hnull, if_false, Option.some.injEq, Prod.mk.injEq] at hnew
    obtain ⟨rfl, rfl⟩ := hnew
    have hc : Chain PNET_MAX_DIAG_ITEMS PF_DIAG_IX_NULL d.next d.diagItemsFree (L none) :=
      PartsIf.chain h none trivial
    cases hL : L none with
    | nil => exact absurd ((hc.eq_nil_iff items_le_null).mp hL) hnull
    | cons i b =>
      rw [hL] at hc
      obtain ⟨hi, -, -⟩ := hc
      refine ⟨b, by rw [hi], ?_⟩
      refine ListsIf.setItem_hand (d := { d with diagItemsFree := d.next d.diagItemsFree }) ?_ _
      rw [hi]
      have htake : PartsIf all PNET_MAX_DIAG_ITEMS PF_DIAG_IX_NULL d.next
          (head { d with diagItemsFree := d.next i }) d.Live (some i)
          (Function.update L none b) := by
        refine PartsIf.take_head items_le_null h (k := none) trivial hL fun k _ => ?_
        cases k <;> rfl
      exact PartsIf.congr htake (fun k => by cases k <;> exact Iff.rfl) (fun _ _ => rfl)
        fun _ _ _ => rfl

/-- The item in the hand becomes free. -/
theorem ListsIf.freeDiag {ix : ℕ} (h : d.ListsIf all (some ix) L) :
    (d.freeDiag ix).ListsIf all none (Function.update L none (ix :: L none)) := by
  have hlt := PartsIf.hand_lt h ix rfl
  have hnext : ∀ x, (d.freeDiag ix).next x = if x = ix then d.head none else d.next x := by
    intro x
    by_cases hx : x = ix
    · simp [Device.freeDiag, next, setItem, head, hlt, hx]
    · simp [Device.freeDiag, next, setItem, hlt, hx]
  have hhead : ∀ k, (d.freeDiag ix).head k = if k = none then ix else d.head k := by
    rintro (_ | q) <;> simp [Device.freeDiag, setItem, head, hlt]
  have hlive : ∀ k, (d.freeDiag ix).Live k ↔ d.Live k := by
    rintro (_ | q)
    · exact Iff.rfl
    · rw [Device.freeDiag, if_pos hlt]
      exact Iff.rfl
  exact (PartsIf.put h (k := none) trivial hnext fun k _ => hhead k).congr hlive (fun _ _ => rfl)
    fun _ _ _ => rfl

/-- A change of a subslot that keeps it in use. -/
theorem inUse_setSubslot (subslot : Subslot) (h : subslot.inUse = (d.subslots q).inUse)
    (q' : SubslotPos) : (d.setSubslot q subslot).InUse q' ↔ d.InUse q' := by
  by_cases hq : q' = q
  · subst hq
    simp [InUse, setSubslot, h]
  · simp [InUse, setSubslot, hq]

theorem subslots_setSubslot (subslot : Subslot) :
    (d.setSubslot q subslot).subslots q = subslot := by
  show Function.update d.subslots q subslot q = subslot
  exact Function.update_self _ _ _

theorem live_setDiagList (ix : ℕ) (k : Option SubslotPos) :
    (d.setDiagList q ix).Live k ↔ d.Live k := by
  cases k with
  | none => exact Iff.rfl
  | some q' => exact inUse_setSubslot { d.subslots q with diagList := ix } rfl q'

theorem head_setDiagList (ix : ℕ) (k : Option SubslotPos) :
    (d.setDiagList q ix).head k = if k = some q then ix else d.head k := by
  cases k with
  | none => simp [setDiagList, setSubslot, head]
  | some q' =>
    by_cases hq : q' = q
    · simp [setDiagList, setSubslot, head, hq]
    · simp [setDiagList, setSubslot, head, hq]

/-- The item in the hand goes to the list of a subslot. -/
theorem ListsIf.linkDiag {ix : ℕ} (h : d.ListsIf all (some ix) L) (hq : d.InUse q) :
    (d.linkDiag q ix).ListsIf all none (Function.update L (some q) (ix :: L (some q))) := by
  have hnext : ∀ x, (d.linkDiag q ix).next x = if x = ix then d.head (some q) else d.next x := by
    intro x
    by_cases hx : x = ix
    · simp [Device.linkDiag, next, setItem, setDiagList, setSubslot, head, hx]
    · simp [Device.linkDiag, next, setItem, setDiagList, setSubslot, hx]
  have hlive : ∀ k, (d.linkDiag q ix).Live k ↔ d.Live k := live_setDiagList ix
  have hhead : ∀ k, (d.linkDiag q ix).head k = if k = some q then ix else d.head k :=
    head_setDiagList ix
  exact (PartsIf.put h (k := some q) hq hnext fun k _ => hhead k).congr hlive (fun _ _ => rfl)
    fun _ _ _ => rfl

/-- An item is taken out of the list of a subslot; `prev` is the item before it. -/
theorem ListsIf.unlinkDiag {ix : ℕ} {a b : List ℕ} (h : d.ListsIf all none L) (hq : d.InUse q)
    (hL : L (some q) = a ++ ix :: b) :
    (d.unlinkDiag q (a.getLastD PF_DIAG_IX_NULL) ix).ListsIf all (some ix)
      (Function.update L (some q) (a ++ b)) := by
  rcases a.eq_nil_or_concat with rfl | ⟨a, prev, rfl⟩
  · have hun : d.unlinkDiag q PF_DIAG_IX_NULL ix = d.setDiagList q (d.next ix) := by
      simp [Device.unlinkDiag, next]
    rw [List.getLastD_nil, hun]
    exact (PartsIf.take_head items_le_null h (k := some q) hq hL
      fun k _ => head_setDiagList (d.next ix) k).congr (live_setDiagList (d.next ix))
      (fun _ _ => rfl) fun _ _ _ => rfl
  · have hL' : L (some q) = a ++ prev :: ix :: b := by
      rw [hL]
      simp
    have hlt : prev < PNET_MAX_DIAG_ITEMS :=
      (PartsIf.chain h (some q) hq).lt prev (by rw [hL']; simp)
    have hne : prev ≠ PF_DIAG_IX_NULL := (Nat.lt_of_lt_of_le hlt items_le_null).ne
    have hun : d.unlinkDiag q prev ix =
        d.setItem prev { d.diagItems prev with next := d.next ix } := by
      simp [Device.unlinkDiag, next, hne]
    have hnext : ∀ x, (d.setItem prev { d.diagItems prev with next := d.next ix }).next x =
        if x = prev then d.next ix else d.next x := by
      intro x
      by_cases hx : x = prev
      · simp [setItem, next, hx]
      · simp [setItem, next, hx]
    have hlast : (a ++ [prev]).getLastD PF_DIAG_IX_NULL = prev := by simp
    have hrest : (a ++ [prev]) ++ b = a ++ prev :: b := by simp
    rw [List.concat_eq_append, hlast, hrest, hun]
    refine (PartsIf.take_after items_le_null h (k := some q) hq hL' hnext).congr (fun k => ?_)
      (fun k _ => ?_) fun _ _ _ => rfl
    · cases k <;> exact Iff.rfl
    · cases k <;> rfl

/-! ## The diagnosis of a subslot -/

/-- What items add up to. -/
def summaryOf (isSameAr : Bool) (items : List DiagItem) : AlarmSpec × BitVec 32 :=
  items.foldl (fun s item => item.addToSummary isSameAr s) (⟨false, false, false, false⟩, 0)

/-- An item, without its place in a list. -/
def content (d : Device) (i : ℕ) : DiagItem := { d.diagItems i with next := 0 }

/-- The diagnosis of a subslot, from the newest on. -/
def diagnoses (d : Device) (q : SubslotPos) : List DiagItem :=
  ((d.diagItemsOf q).getD []).map fun item => { item with next := 0 }

theorem ListsIf.diagnoses (h : d.ListsIf all hand L) (hq : d.InUse q) :
    d.diagnoses q = (L (some q)).map d.content := by
  rw [Device.diagnoses, h.diagItemsOf hq, Option.getD_some, List.map_map]
  rfl

/-- Nothing changes but the item `ix`, the lists and the states of the submodules. -/
structure Keeps (ix : ℕ) (d d' : Device) : Prop where
  inUse : ∀ q, d'.InUse q ↔ d.InUse q
  owner : ∀ q, (d'.subslots q).pAr = (d.subslots q).pAr
  item : ∀ i, i ≠ ix → d'.content i = d.content i

variable {ix : ℕ} {d₁ d₂ d₃ : Device}

theorem Keeps.trans (h : Keeps ix d₁ d₂) (h' : Keeps ix d₂ d₃) : Keeps ix d₁ d₃ where
  inUse q := (h'.inUse q).trans (h.inUse q)
  owner q := (h'.owner q).trans (h.owner q)
  item i hi := (h'.item i hi).trans (h.item i hi)

theorem keeps_setItem (item : DiagItem) : Keeps ix d (d.setItem ix item) where
  inUse _ := Iff.rfl
  owner _ := rfl
  item i hi := by simp [content, setItem, hi]

theorem content_setNext (j n i : ℕ) :
    (d.setItem j { d.diagItems j with next := n }).content i = d.content i := by
  by_cases hi : i = j
  · simp [content, setItem, hi]
  · simp [content, setItem, hi]

theorem keeps_setSubslot (subslot : Subslot) (hu : subslot.inUse = (d.subslots q).inUse)
    (ho : subslot.pAr = (d.subslots q).pAr) : Keeps ix d (d.setSubslot q subslot) where
  inUse := inUse_setSubslot subslot hu
  owner q' := by
    by_cases hq : q' = q
    · simp [setSubslot, hq, ho]
    · simp [setSubslot, hq]
  item _ _ := rfl

theorem keeps_unlinkDiag {i : ℕ} (prev j : ℕ) : Keeps i d (d.unlinkDiag q prev j) := by
  unfold Device.unlinkDiag
  split
  · exact ⟨fun _ => Iff.rfl, fun _ => rfl, fun i _ => content_setNext prev _ i⟩
  · exact keeps_setSubslot { d.subslots q with diagList := (d.diagItems j).next } rfl rfl

theorem keeps_linkDiag (j : ℕ) : Keeps ix d (d.linkDiag q j) := by
  have hset : Keeps ix d (d.setItem j { d.diagItems j with next := (d.subslots q).diagList }) :=
    ⟨fun _ => Iff.rfl, fun _ => rfl, fun i _ => content_setNext j _ i⟩
  exact hset.trans (keeps_setSubslot { d.subslots q with diagList := j } rfl rfl)

theorem content_linkDiag (i : ℕ) : (d.linkDiag q ix).content i = d.content i :=
  content_setNext ix _ i

theorem content_unlinkDiag (prev j i : ℕ) : (d.unlinkDiag q prev j).content i = d.content i := by
  unfold Device.unlinkDiag
  split
  · exact content_setNext prev _ i
  · rfl

theorem keeps_freeDiag : Keeps ix d (d.freeDiag ix) := by
  unfold Device.freeDiag
  split
  · exact ⟨fun _ => Iff.rfl, fun _ => rfl, fun i hi => by simp [content, setItem, hi]⟩
  · exact ⟨fun _ => Iff.rfl, fun _ => rfl, fun _ _ => rfl⟩

theorem subslots_freeDiag : (d.freeDiag ix).subslots = d.subslots := by
  unfold Device.freeDiag
  split <;> rfl

theorem keeps_newDiag (h : d.newDiag = some (ix, d')) : Keeps ix d d' := by
  unfold Device.newDiag at h
  by_cases hnull : d.diagItemsFree = PF_DIAG_IX_NULL
  · simp [hnull] at h
  · simp only [hnull, if_false, Option.some.injEq, Prod.mk.injEq] at h
    obtain ⟨rfl, rfl⟩ := h
    exact ⟨fun _ => Iff.rfl, fun _ => rfl, fun i hi => by simp [content, setItem, hi]⟩

theorem diagItems_newDiag (h : d.newDiag = some (ix, d')) :
    d'.diagItems ix = { clearedItem with inUse := true } := by
  unfold Device.newDiag at h
  by_cases hnull : d.diagItemsFree = PF_DIAG_IX_NULL
  · simp [hnull] at h
  · simp only [hnull, if_false, Option.some.injEq, Prod.mk.injEq] at h
    obtain ⟨rfl, rfl⟩ := h
    simp [setItem]

/-- One subslot has other diagnosis, and the pool is a partition. -/
structure Edited (d d' : Device) (q : SubslotPos) (l : List DiagItem) : Prop where
  isPartition : d'.IsPartition
  inUse : ∀ q', d'.InUse q' ↔ d.InUse q'
  owner : ∀ q', (d'.subslots q').pAr = (d.subslots q').pAr
  diagnoses : ∀ q', d.InUse q' → d'.diagnoses q' = if q' = q then l else d.diagnoses q'

/-- The flags of the state are what the items add up to. -/
structure Summarizes (isSameAr : Bool) (state : SubmodState) (items : List DiagItem) : Prop where
  fault : state.fault = (summaryOf isSameAr (items.filter DiagItem.inUse)).1.submoduleDiagnosis
  maintenanceRequired : state.maintenanceRequired =
    ((summaryOf isSameAr (items.filter DiagItem.inUse)).2 &&& PF_DIAG_BIT_MAINTENANCE_REQUIRED ≠ 0 :
      Bool)
  maintenanceDemanded : state.maintenanceDemanded =
    ((summaryOf isSameAr (items.filter DiagItem.inUse)).2 &&& PF_DIAG_BIT_MAINTENANCE_DEMANDED ≠ 0 :
      Bool)

/-- `Edited`, except that items may have been lost before unless `all` holds; and the state of the
submodule is that of the new diagnosis. -/
structure EditedIf (all : Prop) (d d' : Device) (q : SubslotPos) (l : List DiagItem) : Prop where
  lists : ∃ L, d'.ListsIf all none L
  inUse : ∀ q', d'.InUse q' ↔ d.InUse q'
  owner : ∀ q', (d'.subslots q').pAr = (d.subslots q').pAr
  diagnoses : ∀ q', d.InUse q' → d'.diagnoses q' = if q' = q then l else d.diagnoses q'
  summary : ∃ isSameAr, Summarizes isSameAr (d'.subslots q).submoduleState l

theorem EditedIf.edited {l : List DiagItem} (h : EditedIf True d d' q l) : Edited d d' q l where
  isPartition := h.lists.imp fun _ hL => lists_iff.mpr hL
  inUse := h.inUse
  owner := h.owner
  diagnoses := h.diagnoses

/-- An edit of one list, by the item `ix` that was not in another one. -/
theorem Keeps.edited {L' : Option SubslotPos → List ℕ} {l : List DiagItem} (hk : Keeps ix d d')
    (h : d.ListsIf all none L) (h' : d'.ListsIf all none L') (hl : (L' (some q)).map d'.content = l)
    (hL : ∀ q', q' ≠ q → L' (some q') = L (some q'))
    (hix : ∀ q', q' ≠ q → d.InUse q' → ix ∉ L (some q'))
    (hs : ∃ isSameAr, Summarizes isSameAr (d'.subslots q).submoduleState l) :
    EditedIf all d d' q l where
  lists := ⟨L', h'⟩
  summary := hs
  inUse := hk.inUse
  owner := hk.owner
  diagnoses q' hq' := by
    rw [h'.diagnoses ((hk.inUse q').mpr hq')]
    by_cases hq : q' = q
    · subst hq
      rw [if_pos rfl, hl]
    · rw [if_neg hq, h.diagnoses hq', hL q' hq]
      refine List.map_congr_left fun i hi => hk.item i ?_
      rintro rfl
      exact hix q' hq hq' hi

/-! ## Requests -/

theorem inUse_of_target {source : DiagSource} (h : d.target source = some q) : d.InUse q := by
  exact inUse_of_getSubslotFull (Option.filter_eq_some_iff.mp h).1

/-- The search of `pf_diag_find_entry`. -/
theorem ListsIf.findEntry (h : d.ListsIf all none L) {source : DiagSource}
    (hq : d.target source = some q)
    (chErrorType extChErrorType usi : BitVec 16) :
    (d.findEntry source chErrorType extChErrorType usi = some (some (q, none), d) ∧
        ∀ i ∈ L (some q), isDiag source chErrorType extChErrorType usi (d.content i) = false) ∨
      ∃ a ix b, L (some q) = a ++ ix :: b ∧
        isDiag source chErrorType extChErrorType usi (d.content ix) = true ∧
        (∀ i ∈ a, isDiag source chErrorType extChErrorType usi (d.content i) = false) ∧
        d.findEntry source chErrorType extChErrorType usi =
          some (some (q, some ix), d.unlinkDiag q (a.getLastD PF_DIAG_IX_NULL) ix) := by
  have hc := PartsIf.chain h (some q) (inUse_of_target hq)
  have hsearch := hc.search (p := PF_DIAG_IX_NULL) items_le_null
    (fun i => isDiag source chErrorType extChErrorType usi (d.diagItems i))
    (hc.length_le items_le_null)
  simp only [head] at hsearch
  rcases hsearch with ⟨hs, hno⟩ | ⟨a, ix, b, hL, hix, ha, hs⟩
  · refine .inl ⟨?_, hno⟩
    simp only [Device.findEntry, hq, hs]
  · refine .inr ⟨a, ix, b, hL, hix, ha, ?_⟩
    simp only [Device.findEntry, hq, hs]

end Device

/-! ## Parts of the requests -/

namespace Net

variable {all : Prop} {n : Net} {hand : Option ℕ} {L : Option SubslotPos → List ℕ} {q : SubslotPos}

theorem updateSubmoduleState_eq (h : n.dev.ListsIf all hand L) (hq : n.dev.InUse q)
    (pAr : Option ℕ) :
    ∃ state, n.updateSubmoduleState pAr q = some { n with
      dev := n.dev.setSubslot q { n.dev.subslots q with submoduleState := state } } ∧
      ∃ isSameAr, Device.Summarizes isSameAr state (n.dev.diagnoses q) := by
  simp only [updateSubmoduleState, h.diagItemsOf hq, Option.bind_eq_bind, Option.bind_some,
    Option.pure_def]
  refine ⟨_, rfl, decide ((n.dev.subslots q).pAr = pAr), ?_⟩
  -- The place in the list adds nothing.
  have hsum : ∀ isSameAr, Device.summaryOf isSameAr ((n.dev.diagnoses q).filter DiagItem.inUse) =
      Device.summaryOf isSameAr (((L (some q)).map n.dev.diagItems).filter DiagItem.inUse) := by
    intro isSameAr
    unfold Device.summaryOf
    rw [h.diagnoses hq, List.filter_map, List.filter_map, List.foldl_map, List.foldl_map]
    rfl
  constructor <;> rw [hsum] <;> rfl

/-- The indicator of the first AR tells whether the subslot has a problem. -/
def indicate (net : Net) (q : SubslotPos) : Net :=
  match net.findFirstAr with
  | none => net
  | some ar =>
    let anAr := (net.ars ar).setProblemIndicator ((net.dev.diagnoses q).any DiagItem.isProblem)
    { net with ars := Function.update net.ars ar anAr }

theorem indicate_dev : (n.indicate q).dev = n.dev := by
  unfold indicate
  split <;> rfl

theorem updateStationProblemIndicator_eq (h : n.dev.ListsIf all hand L) (hq : n.dev.InUse q)
    {ar : ℕ} (har : n.findFirstAr = some ar) :
    n.updateStationProblemIndicator ar q = some (n.indicate q) := by
  have hany : ((n.dev.diagnoses q).any DiagItem.isProblem) =
      ((L (some q)).map n.dev.diagItems).any DiagItem.isProblem := by
    rw [h.diagnoses hq, List.any_map, List.any_map]
    rfl
  rw [updateStationProblemIndicator, h.diagItemsOf hq, indicate, har, hany]
  rfl

theorem announce_eq (h : n.dev.ListsIf all hand L) (hq : n.dev.InUse q) (send : Send)
    (source : DiagSource) (ix : ℕ) (old : Option DiagItem) :
    ∃ ret, n.announce send source q ix old = some (ret, n.indicate q) := by
  unfold announce
  cases har : n.findFirstAr with
  | none => exact ⟨-1, by simp [indicate, har]⟩
  | some ar =>
    simp only [updateStationProblemIndicator_eq h hq har, Option.bind_eq_bind, Option.bind_some]
    cases old with
    | none => exact ⟨_, rfl⟩
    | some old =>
      by_cases hstd : PF_USI_CHANNEL_DIAGNOSIS ≤ old.usi
      · simp only [hstd, if_true]
        exact ⟨_, rfl⟩
      · simp only [hstd, if_false]
        exact ⟨_, rfl⟩

end Net

namespace Device

variable {d : Device} {q : SubslotPos}

theorem sameLists_setState (state : SubmodState) :
    SameLists d (d.setSubslot q { d.subslots q with submoduleState := state }) where
  items _ := rfl
  free := rfl
  inUse := inUse_setSubslot { d.subslots q with submoduleState := state } rfl
  diagList q' _ := by
    by_cases hq : q' = q
    · simp [setSubslot, hq]
    · simp [setSubslot, hq]

end Device

namespace Net

variable {all : Prop} {net : Net} {L L₁ : Option SubslotPos → List ℕ} {q : SubslotPos} {ix : ℕ}
  {dev : Device}

/-- The end of `pf_diag_add` and of `pf_diag_update`: the item in the hand is filled and linked. -/
theorem store_spec (h : net.dev.ListsIf all none L) (hq : net.dev.InUse q)
    (h₁ : dev.ListsIf all (some ix) L₁) (hk : Device.Keeps ix net.dev dev)
    (hL : ∀ q', q' ≠ q → L₁ (some q') = L (some q')) (send : Send) (source : DiagSource)
    (item : DiagItem) (old : Option DiagItem) :
    ∃ ret dev', (({ net with dev := (dev.setItem ix item).linkDiag q ix }.updateSubmoduleState
        none q).bind fun net => net.announce send source q ix old) =
          some (ret, { net with dev := dev' }.indicate q) ∧
      Device.EditedIf all net.dev dev' q
        ({ item with next := 0 } :: (L₁ (some q)).map net.dev.content) := by
  have hq₂ : (dev.setItem ix item).InUse q := (hk.inUse q).mpr hq
  have h₂ := (h₁.setItem_hand item).linkDiag hq₂
  have hk₂ : Device.Keeps ix net.dev ((dev.setItem ix item).linkDiag q ix) :=
    (hk.trans (Device.keeps_setItem item)).trans (Device.keeps_linkDiag ix)
  have hq₃ := (hk₂.inUse q).mpr hq
  obtain ⟨state, hstate, hsum⟩ := updateSubmoduleState_eq
    (n := { net with dev := (dev.setItem ix item).linkDiag q ix }) h₂ hq₃ none
  rw [hstate, Option.bind_some]
  have h₃ := h₂.congr (Device.sameLists_setState (q := q) state)
  have hk₃ := hk₂.trans (Device.keeps_setSubslot (q := q) { ((dev.setItem ix item).linkDiag q
    ix).subslots q with submoduleState := state } rfl rfl)
  obtain ⟨ret, hret⟩ := announce_eq (n := ⟨_, net.ars⟩) h₃ ((hk₃.inUse q).mpr hq) send source ix
    old
  have hl : (Function.update L₁ (some q) (ix :: L₁ (some q)) (some q)).map
      ((dev.setItem ix item).linkDiag q ix).content =
        { item with next := 0 } :: (L₁ (some q)).map net.dev.content := by
    rw [Function.update_self, List.map_cons]
    congr 1
    · have hcontent : (dev.setItem ix item).content ix = { item with next := 0 } := by
        simp [Device.content, Device.setItem]
      exact (Device.content_linkDiag ix).trans hcontent
    · refine List.map_congr_left fun i hi => hk₂.item i ?_
      rintro rfl
      exact PartsIf.hand_apart h₁ i rfl (some q) hq₂ hi
  refine ⟨ret, _, hret, hk₃.edited h h₃ hl ?_ ?_ ?_⟩
  · intro q' hq'
    rw [Function.update_of_ne (by simpa using hq'), hL q' hq']
  · intro q' hq' hu
    rw [← hL q' hq']
    exact PartsIf.hand_apart h₁ ix rfl (some q') ((hk.inUse q').mpr hu)
  · rw [h₂.diagnoses hq₃, hl] at hsum
    rw [Device.subslots_setSubslot]
    exact hsum

/-- The item is in the list already: it is taken out, filled and linked. -/
theorem restore_spec (h : net.dev.ListsIf all none L) (hq : net.dev.InUse q) {a b : List ℕ}
    (hL : L (some q) = a ++ ix :: b) (send : Send) (source : DiagSource)
    {fill : DiagItem → DiagItem}
    (hfill : ∀ item, { fill item with next := 0 } = fill { item with next := 0 })
    (hdev : dev = net.dev.unlinkDiag q (a.getLastD PF_DIAG_IX_NULL) ix) :
    ∃ ret dev', (({ net with
        dev := (dev.setItem ix (fill (dev.diagItems ix))).linkDiag q ix }.updateSubmoduleState
        none q).bind fun net => net.announce send source q ix (some (dev.diagItems ix))) =
          some (ret, { net with dev := dev' }.indicate q) ∧
      Device.EditedIf all net.dev dev' q
        (fill (net.dev.content ix) :: (a ++ b).map net.dev.content) := by
  subst hdev
  obtain ⟨ret, dev', hret, hed⟩ := store_spec h hq (h.unlinkDiag hq hL)
    (Device.keeps_unlinkDiag _ ix) (fun q' hq' => Function.update_of_ne (by simpa using hq') _ _)
    send source (fill ((net.dev.unlinkDiag q (a.getLastD PF_DIAG_IX_NULL) ix).diagItems ix))
    (some ((net.dev.unlinkDiag q (a.getLastD PF_DIAG_IX_NULL) ix).diagItems ix))
  refine ⟨ret, dev', hret, ?_⟩
  have hcontent := Device.content_unlinkDiag (d := net.dev) (q := q)
    (a.getLastD PF_DIAG_IX_NULL) ix ix
  rw [Function.update_self, hfill] at hed
  rw [← hcontent]
  exact hed

/-- The end of `pf_diag_remove`: the item in the hand becomes free. -/
theorem release_spec (h : net.dev.ListsIf all none L) (hq : net.dev.InUse q)
    (h₁ : dev.ListsIf all (some ix) L₁) (hk : Device.Keeps ix net.dev dev)
    (hL : ∀ q', q' ≠ q → L₁ (some q') = L (some q')) (pAr : Option ℕ) :
    ∃ dev', { net with dev }.updateSubmoduleState pAr q = some { net with dev := dev' } ∧
      (∃ L', (dev'.freeDiag ix).ListsIf all none L') ∧
      Device.EditedIf all net.dev (dev'.freeDiag ix) q ((L₁ (some q)).map net.dev.content) := by
  have hq₁ := (hk.inUse q).mpr hq
  obtain ⟨state, hstate, hsum⟩ := updateSubmoduleState_eq (n := { net with dev }) h₁ hq₁ pAr
  have hl : (L₁ (some q)).map dev.content = (L₁ (some q)).map net.dev.content := by
    refine List.map_congr_left fun i hi => hk.item i ?_
    rintro rfl
    exact PartsIf.hand_apart h₁ i rfl (some q) hq₁ hi
  refine ⟨_, hstate, ?_⟩
  have h₂ := (h₁.congr (Device.sameLists_setState (q := q) state)).freeDiag
  refine ⟨⟨_, h₂⟩, ?_⟩
  have hk₂ := (hk.trans (Device.keeps_setSubslot (q := q) { dev.subslots q with
    submoduleState := state } rfl rfl)).trans Device.keeps_freeDiag
  refine hk₂.edited h h₂ ?_ ?_ ?_ ?_
  · rw [Function.update_of_ne (by simp)]
    refine List.map_congr_left fun i hi => hk₂.item i ?_
    rintro rfl
    exact PartsIf.hand_apart h₁ i rfl (some q) hq₁ hi
  · intro q' hq'
    rw [Function.update_of_ne (by simp), hL q' hq']
  · intro q' hq' hu
    rw [← hL q' hq']
    exact PartsIf.hand_apart h₁ ix rfl (some q') ((hk.inUse q').mpr hu)
  · rw [h₁.diagnoses hq₁, hl] at hsum
    rw [Device.subslots_freeDiag, Device.subslots_setSubslot]
    exact hsum

end Net

/-! ## Requests -/

/-- A request about a diagnosis. -/
inductive DiagOp where
  | add (x : Diagnosis)
  | update (x : Update)
  | remove (source : DiagSource) (chErrorType extChErrorType usi : BitVec 16)

namespace DiagOp

def source : DiagOp → DiagSource
  | add x => x.source
  | update x => x.source
  | remove source _ _ _ => source

/-- The arguments are refused. -/
def refused : DiagOp → Bool
  | add x => x.refused
  | update x => x.refused
  | remove source chErrorType extChErrorType usi =>
    usiRefused chErrorType extChErrorType usi ∨ PNET_CHANNEL_WHOLE_SUBMODULE < source.ch

/-- The item is the one that the request is about. -/
def isFor : DiagOp → DiagItem → Bool
  | add x => Device.isDiag x.source x.chErrorType x.extChErrorType x.usi
  | update x => Device.isDiag x.source x.chErrorType x.extChErrorType x.usi
  | remove source chErrorType extChErrorType usi =>
    Device.isDiag source chErrorType extChErrorType usi

/-- The request, as the code does it. -/
def run (net : Net) (send : Send) : DiagOp → Option (ℤ × Net)
  | add x => net.diagAdd send x
  | update x => net.diagUpdate send x
  | remove source chErrorType extChErrorType usi =>
    net.diagRemove send source chErrorType extChErrorType usi

/-- What a request makes of the diagnosis of its subslot; `free` tells that the pool has a free
item. -/
def edit (op : DiagOp) (free : Bool) (l : List DiagItem) : Option (List DiagItem) :=
  match op, l.find? op.isFor with
  | add x, some old => some (x.fill old :: l.eraseP op.isFor)
  | add x, none => if free then some (x.fill { clearedItem with inUse := true } :: l) else none
  | update x, some old => some (x.fill old :: l.eraseP op.isFor)
  | update _, none => none
  | remove _ _ _ _, some _ => some (l.eraseP op.isFor)
  | remove _ _ _ _, none => none

/-- The subslot whose diagnosis a request changes, and the diagnosis that it has then. -/
def effect (op : DiagOp) (d : Device) : Option (SubslotPos × List DiagItem) :=
  if op.refused then none
  else
    match d.target op.source with
    | none => none
    | some q =>
      (op.edit (d.diagItemsFree ≠ PF_DIAG_IX_NULL) (d.diagnoses q)).map fun l => (q, l)

end DiagOp

theorem find?_eraseP_of_append {α : Type*} {test : α → Bool} {a b : List α} {x : α}
    (ha : ∀ y ∈ a, test y = false) (hx : test x = true) :
    (a ++ x :: b).find? test = some x ∧ (a ++ x :: b).eraseP test = a ++ b := by
  have ha' : ∀ y ∈ a, ¬ test y = true := fun y hy => by simp [ha y hy]
  constructor
  · rw [List.find?_append, List.find?_eq_none.mpr ha', List.find?_cons_of_pos hx]
    rfl
  · rw [List.eraseP_append_right _ ha', List.eraseP_cons_of_pos hx]

namespace Device.ListsIf

variable {all : Prop} {d : Device} {L : Option SubslotPos → List ℕ} {q : SubslotPos}
  {t : DiagItem → Bool}

theorem find_none (h : d.ListsIf all none L) (hq : d.InUse q)
    (hno : ∀ i ∈ L (some q), t (d.content i) = false) : (d.diagnoses q).find? t = none := by
  rw [h.diagnoses hq, List.find?_eq_none]
  simpa using hno

theorem find_some (h : d.ListsIf all none L) (hq : d.InUse q) {a b : List ℕ} {ix : ℕ}
    (hL : L (some q) = a ++ ix :: b) (hix : t (d.content ix) = true)
    (ha : ∀ i ∈ a, t (d.content i) = false) :
    (d.diagnoses q).find? t = some (d.content ix) ∧
      (d.diagnoses q).eraseP t = (a ++ b).map d.content := by
  rw [h.diagnoses hq, hL, List.map_append, List.map_cons, List.map_append]
  exact find?_eraseP_of_append (by simpa using ha) hix

theorem newDiag_eq_none : d.newDiag = none ↔ d.diagItemsFree = PF_DIAG_IX_NULL := by
  unfold Device.newDiag
  by_cases hnull : d.diagItemsFree = PF_DIAG_IX_NULL <;> simp [hnull]

end Device.ListsIf

/-- The result of a request with the given effect. -/
def Outcome (net : Net) (effect : Option (SubslotPos × List DiagItem))
    (result : Option (ℤ × Net)) : Prop :=
  match effect with
  | none => ∃ ret, result = some (ret, net)
  | some (q, l) => ∃ ret dev', result = some (ret, { net with dev := dev' }.indicate q) ∧
      Device.Edited net.dev dev' q l

/-- `Outcome`, in terms of `EditedIf`. -/
def OutcomeIf (all : Prop) (net : Net) (effect : Option (SubslotPos × List DiagItem))
    (result : Option (ℤ × Net)) : Prop :=
  match effect with
  | none => ∃ ret, result = some (ret, net)
  | some (q, l) => ∃ ret dev', result = some (ret, { net with dev := dev' }.indicate q) ∧
      Device.EditedIf all net.dev dev' q l

theorem OutcomeIf.outcome {net : Net} {effect : Option (SubslotPos × List DiagItem)}
    {result : Option (ℤ × Net)} (h : OutcomeIf True net effect result) :
    Outcome net effect result := by
  cases effect with
  | none => exact h
  | some e =>
    obtain ⟨ret, dev', hret, hed⟩ := h
    exact ⟨ret, dev', hret, hed.edited⟩

section
variable {all : Prop} {net : Net} {L : Option SubslotPos → List ℕ}

theorem Diagnosis.fill_content (x : Diagnosis) (item : DiagItem) :
    { x.fill item with next := 0 } = x.fill { item with next := 0 } := by
  unfold Diagnosis.fill
  split <;> rfl

theorem diagAdd_spec (h : net.dev.ListsIf all none L) (send : Send) (x : Diagnosis) :
    OutcomeIf all net ((DiagOp.add x).effect net.dev) (net.diagAdd send x) := by
  unfold DiagOp.effect Net.diagAdd
  simp only [DiagOp.refused, DiagOp.source]
  by_cases href : x.refused = true
  · simp only [href, if_true]
    exact ⟨-1, rfl⟩
  simp only [href, if_false, Bool.false_eq_true]
  cases hq : net.dev.target x.source with
  | none =>
    simp only [Device.findEntry, hq]
    exact ⟨-1, rfl⟩
  | some q =>
    have hu := Device.inUse_of_target hq
    rcases h.findEntry hq x.chErrorType x.extChErrorType x.usi with
      ⟨hfind, hno⟩ | ⟨a, ix, b, hL, hix, ha, hfind⟩
    · -- no such diagnosis yet
      have hnone := h.find_none (t := (DiagOp.add x).isFor) hu hno
      simp only [hfind, DiagOp.edit, hnone]
      cases hnew : net.dev.newDiag with
      | none =>
        have hnull := Device.ListsIf.newDiag_eq_none.mp hnew
        simp only [hnull, ne_eq, not_true_eq_false, decide_false, Bool.false_eq_true, if_false,
          Option.map_none]
        exact ⟨-1, rfl⟩
      | some new =>
        obtain ⟨ix, dev⟩ := new
        have hnull : net.dev.diagItemsFree ≠ PF_DIAG_IX_NULL := fun hnull => by
          rw [Device.ListsIf.newDiag_eq_none.mpr hnull] at hnew
          cases hnew
        obtain ⟨b, -, h₁⟩ := h.newDiag hnew
        simp only [hnull, ne_eq, not_false_eq_true, decide_true, if_true, Option.map_some,
          Option.bind_eq_bind]
        obtain ⟨ret, dev', hret, hed⟩ := Net.store_spec h hu h₁ (Device.keeps_newDiag hnew)
          (fun q' _ => Function.update_of_ne (by simp) _ _) send x.source
          (x.fill (dev.diagItems ix)) none
        refine ⟨ret, dev', hret, ?_⟩
        rw [Function.update_of_ne (by simp), ← h.diagnoses hu, x.fill_content,
          Device.diagItems_newDiag hnew] at hed
        exact hed
    · -- the item of this diagnosis is used again
      obtain ⟨hsome, hrest⟩ := h.find_some (t := (DiagOp.add x).isFor) hu hL hix ha
      simp only [hfind, DiagOp.edit, hsome, hrest]
      simp only [Option.map_some, Option.bind_eq_bind, Option.isSome_some, if_true]
      exact Net.restore_spec h hu hL send x.source x.fill_content rfl

theorem Update.fill_content (x : Update) (item : DiagItem) :
    { x.fill item with next := 0 } = x.fill { item with next := 0 } := by
  unfold Update.fill
  split <;> rfl

theorem diagUpdate_spec (h : net.dev.ListsIf all none L) (send : Send) (x : Update) :
    OutcomeIf all net ((DiagOp.update x).effect net.dev) (net.diagUpdate send x) := by
  unfold DiagOp.effect Net.diagUpdate
  simp only [DiagOp.refused, DiagOp.source]
  by_cases href : x.refused = true
  · simp only [href, if_true]
    exact ⟨-1, rfl⟩
  simp only [href, if_false, Bool.false_eq_true]
  cases hq : net.dev.target x.source with
  | none =>
    simp only [Device.findEntry, hq]
    exact ⟨-1, rfl⟩
  | some q =>
    have hu := Device.inUse_of_target hq
    rcases h.findEntry hq x.chErrorType x.extChErrorType x.usi with
      ⟨hfind, hno⟩ | ⟨a, ix, b, hL, hix, ha, hfind⟩
    · have hnone := h.find_none (t := (DiagOp.update x).isFor) hu hno
      simp only [hfind, DiagOp.edit, hnone, Option.map_none]
      exact ⟨-1, rfl⟩
    · obtain ⟨hsome, hrest⟩ := h.find_some (t := (DiagOp.update x).isFor) hu hL hix ha
      simp only [hfind, DiagOp.edit, hsome, hrest, Option.map_some, Option.bind_eq_bind]
      exact Net.restore_spec h hu hL send x.source x.fill_content rfl

theorem diagRemove_spec (h : net.dev.ListsIf all none L) (send : Send) (source : DiagSource)
    (chErrorType extChErrorType usi : BitVec 16) :
    OutcomeIf all net ((DiagOp.remove source chErrorType extChErrorType usi).effect net.dev)
      (net.diagRemove send source chErrorType extChErrorType usi) := by
  unfold DiagOp.effect Net.diagRemove
  simp only [DiagOp.refused, DiagOp.source]
  by_cases href : usiRefused chErrorType extChErrorType usi = true ∨
      PNET_CHANNEL_WHOLE_SUBMODULE < source.ch
  · simp only [href, if_true, decide_true]
    exact ⟨-1, rfl⟩
  simp only [href, if_false, decide_false, Bool.false_eq_true]
  cases hq : net.dev.target source with
  | none =>
    simp only [Device.findEntry, hq]
    exact ⟨-1, rfl⟩
  | some q =>
    have hu := Device.inUse_of_target hq
    rcases h.findEntry hq chErrorType extChErrorType usi with
      ⟨hfind, hno⟩ | ⟨a, ix, b, hL, hix, ha, hfind⟩
    · have hnone := h.find_none (t :=
        (DiagOp.remove source chErrorType extChErrorType usi).isFor) hu hno
      simp only [hfind, DiagOp.edit, hnone, Option.map_none]
      exact ⟨-1, rfl⟩
    · obtain ⟨hsome, hrest⟩ := h.find_some (t :=
        (DiagOp.remove source chErrorType extChErrorType usi).isFor) hu hL hix ha
      simp only [hfind, DiagOp.edit, hsome, hrest, Option.map_some]
      have h₁ := h.unlinkDiag hu hL
      have hk := Device.keeps_unlinkDiag (i := ix) (d := net.dev) (q := q)
        (a.getLastD PF_DIAG_IX_NULL) ix
      have hL₁ : ∀ q', q' ≠ q → Function.update L (some q) (a ++ b) (some q') = L (some q') :=
        fun q' hq' => Function.update_of_ne (by simpa using hq') _ _
      generalize net.dev.unlinkDiag q (a.getLastD PF_DIAG_IX_NULL) ix = dev at h₁ hk ⊢
      cases har : net.findFirstAr with
      | none =>
        obtain ⟨dev', hstate, -, hed⟩ := Net.release_spec h hu h₁ hk hL₁ none
        simp only [hstate, Option.bind_eq_bind, Option.bind_some, Option.pure_def]
        rw [Function.update_self] at hed
        refine ⟨-1, _, ?_, hed⟩
        have hnone : Net.findFirstAr ⟨dev'.freeDiag ix, net.ars⟩ = none := har
        rw [Net.indicate, hnone]
      | some ar =>
        have h₂ := h₁.setItem_hand
          (disappearing (decide ((dev.subslots q).diagList = PF_DIAG_IX_NULL)) (dev.diagItems ix))
        obtain ⟨dev', hstate, ⟨L', h'⟩, hed⟩ := Net.release_spec h hu h₂
          (hk.trans (Device.keeps_setItem _)) hL₁ (some ar)
        have hind := Net.updateStationProblemIndicator_eq (n := ⟨dev'.freeDiag ix, net.ars⟩) h'
          ((hed.inUse q).mpr hu)
          (show Net.findFirstAr ⟨dev'.freeDiag ix, net.ars⟩ = some ar from har)
        simp only [hstate, hind, Option.bind_eq_bind, Option.bind_some, Option.pure_def]
        rw [Function.update_self] at hed
        exact ⟨_, _, rfl, hed⟩

theorem DiagOp.run_specIf (h : net.dev.ListsIf all none L) (send : Send) (op : DiagOp) :
    OutcomeIf all net (op.effect net.dev) (op.run net send) := by
  cases op with
  | add x => exact diagAdd_spec h send x
  | update x => exact diagUpdate_spec h send x
  | remove source chErrorType extChErrorType usi =>
    exact diagRemove_spec h send source chErrorType extChErrorType usi

/-- **A request does what its effect tells.** -/
theorem DiagOp.run_spec (h : net.dev.Lists none L) (send : Send) (op : DiagOp) :
    Outcome net (op.effect net.dev) (op.run net send) :=
  (op.run_specIf (Device.lists_iff.mp h) send).outcome

/-- The request is about a subslot in use. -/
theorem DiagOp.effect_inUse {op : DiagOp} {d : Device} {q : SubslotPos} {l : List DiagItem}
    (h : op.effect d = some (q, l)) : d.InUse q := by
  unfold DiagOp.effect at h
  by_cases href : op.refused = true
  · simp [href] at h
  · cases ht : d.target op.source with
    | none => simp [href, ht] at h
    | some q' =>
      simp only [href, ht, if_false, Bool.false_eq_true, Option.map_eq_some_iff,
        Prod.mk.injEq] at h
      obtain ⟨-, -, rfl, -⟩ := h
      exact Device.inUse_of_target ht

end

end PNet.Cmdev
