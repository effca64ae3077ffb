import PNet.Cmdev.Pool

/-! # Runs of plugging, pulling and diagnosis

* `isPartition_of_run` - the pool of diagnosis items is a partition in every run in which only
  subslots without diagnosis are pulled
* `pullSubmodule_isPartition_iff` - pulling a submodule that has a diagnosis
-/

namespace PNet.Cmdev

open Connect SharedPool

/-! ## Steps -/

/-- What a connection changes in the tree. -/
structure Assignment where
  apiAr : ℕ → Option ℕ
  slotAr : SlotPos → Option ℕ
  expModuleIdentNumber : SlotPos → BitVec 32
  plugState : SlotPos → ModPlugState
  subslotAr : SubslotPos → Option ℕ
  expSubmoduleIdentNumber : SubslotPos → BitVec 32
  submoduleState : SubslotPos → SubmodState

def Device.assign (d : Device) (x : Assignment) : Device :=
  { d with
    apis := fun a => { d.apis a with pAr := x.apiAr a }
    slots := fun q => { d.slots q with
      pAr := x.slotAr q
      expModuleIdentNumber := x.expModuleIdentNumber q
      plugState := x.plugState q }
    subslots := fun q => { d.subslots q with
      pAr := x.subslotAr q
      expSubmoduleIdentNumber := x.expSubmoduleIdentNumber q
      submoduleState := x.submoduleState q } }

/-- A step of the device. -/
inductive PoolStep where
  | diag (send : Send) (op : DiagOp)
  | plugModule (apiId : BitVec 32) (slotNbr : BitVec 16) (moduleIdentNbr : BitVec 32)
  | plugSubmodule (apiId : BitVec 32) (slotNbr subslotNbr : BitVec 16)
    (m : Device.Submodule) (update : Bool)
  | pullSubmodule (apiId : BitVec 32) (slotNbr subslotNbr : BitVec 16)
  | pullModule (apiId : BitVec 32) (slotNbr : BitVec 16)
  | newApi (apiId : BitVec 32)
  /-- ARs come, change and go. -/
  | assign (ars : ℕ → Ar) (x : Assignment)

namespace Net

/-- `none` when the step does not end. -/
def step (net : Net) : PoolStep → Option Net
  | .diag send op => (op.run net send).map Prod.snd
  | .plugModule apiId slotNbr moduleIdentNbr =>
    some { net with dev := (net.dev.plugModule apiId slotNbr moduleIdentNbr).2 }
  | .plugSubmodule apiId slotNbr subslotNbr m update =>
    let expApis := fun ar => (net.ars ar).expApis
    some { net with dev := (net.dev.plugSubmodule expApis apiId slotNbr subslotNbr m update).2 }
  | .pullSubmodule apiId slotNbr subslotNbr =>
    some { net with dev := (net.dev.pullSubmodule apiId slotNbr subslotNbr).2 }
  | .pullModule apiId slotNbr => some { net with dev := (net.dev.pullModule apiId slotNbr).2 }
  | .newApi apiId =>
    match net.dev.newApi apiId with
    | none => some net
    | some (_, dev) => some { net with dev }
  | .assign ars x => some ⟨net.dev.assign x, ars⟩

def run (net : Net) : List PoolStep → Option Net
  | [] => some net
  | s :: steps => (net.step s).bind fun net => net.run steps

end Net

namespace Device

/-- An empty tree, all items free. -/
def cleared : Device where
  apis _ := clearedApi
  slots _ := clearedSlot
  subslots _ := clearedSubslot
  diagItems i :=
    { clearedItem with next := if i + 1 < PNET_MAX_DIAG_ITEMS then i + 1 else PF_DIAG_IX_NULL }
  diagItemsFree := 0

/-- `pf_cmdev_init`. -/
def init : Device :=
  match cleared.newApi 0 with
  | none => cleared
  | some (_, d) => d

/-- The entry is the one of the numbers. -/
def Finds (d : Device) (apiId : BitVec 32) (slotNbr subslotNbr : BitVec 16) (q : SubslotPos) :
    Prop :=
  d.getApi apiId = some q.1 ∧ d.getSlot q.1 slotNbr = some q.2.1 ∧
    d.getSubslot q.1 q.2.1 subslotNbr = some q.2.2

/-- The step pulls what is in the subslot. -/
def IsPulled (d : Device) (q : SubslotPos) : PoolStep → Prop
  | .plugSubmodule apiId slotNbr subslotNbr _ update =>
    update = true ∧ d.Finds apiId slotNbr subslotNbr q
  | .pullSubmodule apiId slotNbr subslotNbr => d.Finds apiId slotNbr subslotNbr q
  | .pullModule apiId slotNbr => d.getApi apiId = some q.1 ∧ d.getSlot q.1 slotNbr = some q.2.1
  | _ => False

/-- No subslot that the step pulls has a diagnosis. -/
def PullsNoDiagnosis (d : Device) (s : PoolStep) : Prop :=
  ∀ q, d.InUse q → d.IsPulled q s → (d.subslots q).diagList = PF_DIAG_IX_NULL

/-! ## Pulling -/

variable {all : Prop} {d d' d'' : Device} {q : SubslotPos} {L : Option SubslotPos → List ℕ}

/-- No item is in two lists; with `all`, each is in one. -/
def Ordered (d : Device) (all : Prop) : Prop := ∃ L, d.ListsIf all none L

theorem isPartition_iff : d.IsPartition ↔ d.Ordered True := exists_congr fun _ => lists_iff

/-- Some subslots go out of use, and nothing else changes for the lists. -/
structure Drops (P : SubslotPos → Prop) (d d' : Device) : Prop where
  items : d'.diagItems = d.diagItems
  free : d'.diagItemsFree = d.diagItemsFree
  diagList : ∀ q, (d'.subslots q).diagList = (d.subslots q).diagList
  inUse : ∀ q, d'.InUse q → d.InUse q
  dropped : ∀ q, d.InUse q → ¬ d'.InUse q → P q

theorem Drops.refl (P : SubslotPos → Prop) (d : Device) : Drops P d d :=
  ⟨rfl, rfl, fun _ => rfl, fun _ h => h, fun _ h h' => absurd h h'⟩

theorem Drops.trans {P : SubslotPos → Prop} (h : Drops P d d') (h' : Drops P d' d'') :
    Drops P d d'' where
  items := h'.items.trans h.items
  free := h'.free.trans h.free
  diagList q := (h'.diagList q).trans (h.diagList q)
  inUse q hq := h.inUse q (h'.inUse q hq)
  dropped q hq hq'' := by
    by_cases hq' : d'.InUse q
    · exact h'.dropped q hq' hq''
    · exact h.dropped q hq hq'

section
variable {P : SubslotPos → Prop}

theorem Drops.next_eq (hd : Drops P d d') : d'.next = d.next := by
  funext i
  rw [next, next, hd.items]

theorem Drops.live (hd : Drops P d d') (k : Option SubslotPos) : d'.Live k → d.Live k := by
  cases k with
  | none => exact fun _ => trivial
  | some q => exact hd.inUse q

theorem Drops.head_eq (hd : Drops P d d') (k : Option SubslotPos) : d'.head k = d.head k := by
  cases k with
  | none => exact hd.free
  | some q => exact hd.diagList q

theorem ListsIf.eq_nil_iff (hL : d.ListsIf all none L) (hq : d.InUse q) :
    L (some q) = [] ↔ (d.subslots q).diagList = PF_DIAG_IX_NULL :=
  (PartsIf.chain hL (some q) hq).eq_nil_iff items_le_null

/-- The items of the lists that go are lost. -/
theorem Drops.ordered (hd : Drops P d d') (h : d.Ordered all)
    (hnull : all → ∀ q, d.InUse q → ¬ d'.InUse q → (d.subslots q).diagList = PF_DIAG_IX_NULL) :
    d'.Ordered all := by
  obtain ⟨L, hL⟩ := h
  refine ⟨L, ?_⟩
  unfold ListsIf
  rw [hd.next_eq]
  refine PartsIf.drop_list hL ?_ hd.live fun k _ => hd.head_eq k
  rintro hall (_ | q) hq hno
  · exact absurd trivial hno
  · exact (hL.eq_nil_iff hq).mpr (hnull hall q hq hno)

/-- The pool stays a partition if, and only if, the lists that go are empty. -/
theorem Drops.isPartition_iff (hd : Drops P d d') (h : d.IsPartition) :
    d'.IsPartition ↔
      ∀ q, d.InUse q → ¬ d'.InUse q → (d.subslots q).diagList = PF_DIAG_IX_NULL := by
  rw [Device.isPartition_iff] at h
  rw [Device.isPartition_iff]
  constructor
  · obtain ⟨L, hL⟩ := h
    rintro ⟨L', hL'⟩ q hq hno
    unfold ListsIf at hL'
    rw [hd.next_eq] at hL'
    refine (hL.eq_nil_iff hq).mp ?_
    exact PartsIf.eq_nil_of_drop items_le_null hL hL' hd.live (fun k _ => hd.head_eq k)
      (k := some q) hq hno
  · intro hnull
    exact hd.ordered h fun _ => hnull

end

theorem drops_setSubslot (subslot : Subslot) (hu : subslot.inUse = false)
    (hl : subslot.diagList = (d.subslots q).diagList) :
    Drops (fun q' => q' = q) d (d.setSubslot q subslot) where
  items := rfl
  free := rfl
  diagList q' := by
    by_cases hq : q' = q
    · simp [setSubslot, hq, hl]
    · simp [setSubslot, hq]
  inUse q' hq' := by
    by_cases hq : q' = q
    · simp [InUse, setSubslot, hq, hu] at hq'
    · simpa [InUse, setSubslot, hq] using hq'
  dropped q' hq' hno := by
    by_contra hq
    exact hno (by simpa [InUse, setSubslot, hq] using hq')

theorem Finds.unique {apiId : BitVec 32} {slotNbr subslotNbr : BitVec 16} {q' : SubslotPos}
    (h : d.Finds apiId slotNbr subslotNbr q) (h' : d.Finds apiId slotNbr subslotNbr q') :
    q = q' := by
  obtain ⟨a, s, i⟩ := q
  obtain ⟨a', s', i'⟩ := q'
  obtain ⟨ha, hs, hi⟩ := h
  obtain ⟨ha', hs', hi'⟩ := h'
  obtain rfl : a = a' := Option.some.inj (ha.symm.trans ha')
  obtain rfl : s = s' := Option.some.inj (hs.symm.trans hs')
  obtain rfl : i = i' := Option.some.inj (hi.symm.trans hi')
  rfl

theorem Finds.inUse {apiId : BitVec 32} {slotNbr subslotNbr : BitVec 16}
    (h : d.Finds apiId slotNbr subslotNbr q) : d.InUse q :=
  inUse_of_getSubslot h.1 h.2.1 h.2.2

/-- `pf_cmdev_pull_submodule` takes the subslot out of use, if it is found. -/
theorem pullSubmodule_cases (apiId : BitVec 32) (slotNbr subslotNbr : BitVec 16) :
    ((∀ q, ¬ d.Finds apiId slotNbr subslotNbr q) ∧
        (d.pullSubmodule apiId slotNbr subslotNbr).2 = d) ∨
      ∃ q state, d.Finds apiId slotNbr subslotNbr q ∧
        (d.pullSubmodule apiId slotNbr subslotNbr).2 =
          d.setSubslot q { d.subslots q with inUse := false, submoduleState := state } := by
  unfold pullSubmodule
  cases ha : d.getApi apiId with
  | none => exact .inl ⟨fun q hq => by simp [Finds, ha] at hq, rfl⟩
  | some a =>
    cases hs : d.getSlot a slotNbr with
    | none =>
      refine .inl ⟨?_, by simp only [hs]⟩
      rintro q ⟨hqa, hqs, -⟩
      obtain rfl : a = q.1 := Option.some.inj (ha.symm.trans hqa)
      rw [hs] at hqs
      cases hqs
    | some s =>
      cases hi : d.getSubslot a s subslotNbr with
      | none =>
        refine .inl ⟨?_, by simp only [hs, hi]⟩
        rintro q ⟨hqa, hqs, hqi⟩
        obtain rfl : a = q.1 := Option.some.inj (ha.symm.trans hqa)
        obtain rfl : s = q.2.1 := Option.some.inj (hs.symm.trans hqs)
        rw [hi] at hqi
        cases hqi
      | some i =>
        refine .inr ⟨(a, s, i), { (d.subslots (a, s, i)).submoduleState with
          identInfo := .PF_SUBMOD_PLUG_NO }, ⟨ha, hs, hi⟩, ?_⟩
        simp only [hs, hi, setIdentInfo, setSubslot, Function.update_self, Function.update_idem]

theorem pullSubmodule_drops (apiId : BitVec 32) (slotNbr subslotNbr : BitVec 16) :
    Drops (d.Finds apiId slotNbr subslotNbr) d (d.pullSubmodule apiId slotNbr subslotNbr).2 := by
  rcases pullSubmodule_cases (d := d) apiId slotNbr subslotNbr with ⟨-, h⟩ | ⟨q, state, hq, h⟩
  · rw [h]
    exact Drops.refl _ d
  · rw [h]
    have hd := drops_setSubslot (d := d) (q := q)
      { d.subslots q with inUse := false, submoduleState := state } rfl rfl
    refine ⟨hd.items, hd.free, hd.diagList, hd.inUse, fun q' hq' hno => ?_⟩
    rw [hd.dropped q' hq' hno]
    exact hq

/-- **Pulling a submodule does not return its items**: the pool stays a partition only if there
are none. -/
theorem pullSubmodule_isPartition_iff (h : d.IsPartition) {apiId : BitVec 32}
    {slotNbr subslotNbr : BitVec 16} (hq : d.Finds apiId slotNbr subslotNbr q) :
    (d.pullSubmodule apiId slotNbr subslotNbr).2.IsPartition ↔
      (d.subslots q).diagList = PF_DIAG_IX_NULL := by
  have hdrops := pullSubmodule_drops (d := d) apiId slotNbr subslotNbr
  rw [hdrops.isPartition_iff h]
  constructor
  · intro hnull
    refine hnull q hq.inUse ?_
    rcases pullSubmodule_cases (d := d) apiId slotNbr subslotNbr with
      ⟨hno, -⟩ | ⟨q', state, hq', h'⟩
    · exact absurd hq (hno q)
    · obtain rfl := hq.unique hq'
      rw [h']
      simp [InUse, setSubslot]
  · intro hnull q' hq' hno
    rw [← hq.unique (hdrops.dropped q' hq' hno)]
    exact hnull

theorem pullSubmodule_slots (apiId : BitVec 32) (slotNbr subslotNbr : BitVec 16) :
    (d.pullSubmodule apiId slotNbr subslotNbr).2.apis = d.apis ∧
      (d.pullSubmodule apiId slotNbr subslotNbr).2.slots = d.slots := by
  rcases pullSubmodule_cases (d := d) apiId slotNbr subslotNbr with ⟨-, h⟩ | ⟨q, state, -, h⟩
  · rw [h]
    exact ⟨rfl, rfl⟩
  · rw [h]
    exact ⟨rfl, rfl⟩

/-- The loop of `pf_cmdev_pull_module` only takes subslots of the slot out of use. -/
theorem pullSubslots_drops (apiId : BitVec 32) (slotNbr : BitVec 16) {a s : ℕ} (ixs : List ℕ) :
    ∀ d : Device, d.getApi apiId = some a → d.getSlot a slotNbr = some s →
      Drops (fun q => q.1 = a ∧ q.2.1 = s) d (d.pullSubslots apiId slotNbr (a, s) ixs).2 := by
  induction ixs with
  | nil => exact fun d _ _ => Drops.refl _ d
  | cons i ixs ih =>
    intro d ha hs
    unfold pullSubslots
    by_cases hu : (d.subslots (a, s, i)).inUse = true
    · simp only [hu, if_true]
      have hdrop := pullSubmodule_drops (d := d) apiId slotNbr (d.subslots (a, s, i)).subslotNbr
      have hslots := pullSubmodule_slots (d := d) apiId slotNbr (d.subslots (a, s, i)).subslotNbr
      generalize d.pullSubmodule apiId slotNbr (d.subslots (a, s, i)).subslotNbr = r at hdrop hslots
      obtain ⟨ret, d'⟩ := r
      have hdrop' : Drops (fun q => q.1 = a ∧ q.2.1 = s) d d' := by
        refine ⟨hdrop.items, hdrop.free, hdrop.diagList, hdrop.inUse, fun q hq hno => ?_⟩
        obtain ⟨ha', hs', -⟩ := hdrop.dropped q hq hno
        rw [ha, Option.some.injEq] at ha'
        subst ha'
        rw [hs, Option.some.injEq] at hs'
        exact ⟨rfl, hs'.symm⟩
      by_cases hret : ret = 0
      · simp only [hret, if_true]
        have ha' : d'.getApi apiId = some a := by rw [← ha, getApi, getApi, hslots.1]
        have hs' : d'.getSlot a slotNbr = some s := by rw [← hs, getSlot, getSlot, hslots.2]
        exact hdrop'.trans (ih d' ha' hs')
      · simp only [hret, if_false]
        exact hdrop'
    · simp only [hu, if_false, Bool.false_eq_true]
      exact ih d ha hs

theorem drops_setSlot {a s : ℕ} (slot : Slot) (hu : slot.inUse = false) :
    Drops (fun q => q.1 = a ∧ q.2.1 = s) d (d.setSlot (a, s) slot) where
  items := rfl
  free := rfl
  diagList _ := rfl
  inUse q hq := by
    by_cases has : (q.1, q.2.1) = (a, s)
    · simp [InUse, setSlot, has, hu] at hq
    · simpa [InUse, setSlot, has] using hq
  dropped q hq hno := by
    by_contra hqs
    have has : (q.1, q.2.1) ≠ (a, s) := fun h => hqs (by simpa using h)
    exact hno (by simpa [InUse, setSlot, has] using hq)

theorem pullModule_drops (apiId : BitVec 32) (slotNbr : BitVec 16) :
    Drops (fun q => d.getApi apiId = some q.1 ∧ d.getSlot q.1 slotNbr = some q.2.1) d
      (d.pullModule apiId slotNbr).2 := by
  unfold pullModule
  cases ha : d.getApi apiId with
  | none => exact Drops.refl _ d
  | some a =>
    cases hs : d.getSlot a slotNbr with
    | none => simpa [hs] using Drops.refl _ d
    | some s =>
      have hdrop := pullSubslots_drops apiId slotNbr (List.range PNET_MAX_SUBSLOTS) d ha hs
      simp only [hs]
      generalize d.pullSubslots apiId slotNbr (a, s) (List.range PNET_MAX_SUBSLOTS) = r at hdrop
      obtain ⟨ret, d'⟩ := r
      have hall : ∀ d'', Drops (fun q => q.1 = a ∧ q.2.1 = s) d d'' →
          Drops (fun q => some a = some q.1 ∧ d.getSlot q.1 slotNbr = some q.2.1) d d'' := by
        intro d'' h
        refine ⟨h.items, h.free, h.diagList, h.inUse, fun q hq hno => ?_⟩
        obtain ⟨rfl, rfl⟩ := h.dropped q hq hno
        exact ⟨rfl, hs⟩
      by_cases hret : ret = 0
      · simp only [hret, if_true]
        exact hall _ (hdrop.trans (drops_setSlot _ rfl))
      · simp only [hret, if_false]
        exact hall _ hdrop

/-! ## Plugging -/

theorem find?_range_some {n : ℕ} {test : ℕ → Bool} {i : ℕ}
    (h : (List.range n).find? test = some i) : i < n ∧ test i = true :=
  ⟨List.mem_range.mp (List.mem_of_find?_eq_some h), List.find?_some h⟩

/-- A new API has no subslot in use. -/
theorem newApi_sameLists {a : ℕ} {apiId : BitVec 32} (h : d.newApi apiId = some (a, d')) :
    SameLists d d' := by
  unfold newApi at h
  cases hget : d.getApi apiId with
  | some _ =>
    simp only [hget] at h
    cases h
  | none =>
    cases hfree : (List.range PNET_MAX_API).find? fun a => (d.apis a).inUse = false with
    | none =>
      simp only [hget, hfree] at h
      cases h
    | some a =>
      have hu : (d.apis a).inUse = false := by simpa using (find?_range_some hfree).2
      simp only [hget, hfree, Option.some.injEq, Prod.mk.injEq] at h
      obtain ⟨rfl, rfl⟩ := h
      refine ⟨fun _ => rfl, rfl, fun q => ?_, fun q hq => ?_⟩
      · by_cases hqa : q.1 = a
        · simp [InUse, setApi, hqa, hu, clearedSlot]
        · simp [InUse, setApi, hqa]
      · have hqa : q.1 ≠ a := by
          rintro rfl
          simp [InUse, hu] at hq
        simp [setApi, hqa]

/-- A new slot has no subslot in use. -/
theorem newSlot_sameLists {a s : ℕ} {slotNbr : BitVec 16} (h : d.newSlot a slotNbr = some (s, d')) :
    SameLists d d' ∧ d'.apis = d.apis := by
  unfold newSlot at h
  cases hget : d.getSlot a slotNbr with
  | some _ =>
    simp only [hget] at h
    cases h
  | none =>
    cases hfree : (List.range PNET_MAX_SLOTS).find? fun s => (d.slots (a, s)).inUse = false with
    | none =>
      simp only [hget, hfree] at h
      cases h
    | some s =>
      have hu : (d.slots (a, s)).inUse = false := by simpa using (find?_range_some hfree).2
      simp only [hget, hfree, Option.some.injEq, Prod.mk.injEq] at h
      obtain ⟨rfl, rfl⟩ := h
      refine ⟨⟨fun _ => rfl, rfl, fun q => ?_, fun q hq => ?_⟩, rfl⟩
      · by_cases hqs : (q.1, q.2.1) = (a, s)
        · obtain ⟨rfl, rfl⟩ := Prod.mk.inj hqs
          simp [InUse, setSlot, hu, clearedSubslot]
        · have hqs' : ¬ (q.1 = a ∧ q.2.1 = s) := fun h => hqs (by rw [h.1, h.2])
          simp [InUse, setSlot, hqs, hqs']
      · have hqs' : ¬ (q.1 = a ∧ q.2.1 = s) := by
          rintro ⟨rfl, rfl⟩
          simp [InUse, hu] at hq
        simp [setSlot, hqs']

theorem sameLists_setSlot {q : SlotPos} (slot : Slot) (hu : slot.inUse = (d.slots q).inUse) :
    SameLists d (d.setSlot q slot) where
  items _ := rfl
  free := rfl
  inUse q' := by
    by_cases hq : (q'.1, q'.2.1) = q
    · simp [InUse, setSlot, hq, hu]
    · simp [InUse, setSlot, hq]
  diagList _ _ := rfl

theorem SameLists.trans (h : SameLists d d') (h' : SameLists d' d'') : SameLists d d'' where
  items i := (h'.items i).trans (h.items i)
  free := h'.free.trans h.free
  inUse q := (h'.inUse q).trans (h.inUse q)
  diagList q hq := (h'.diagList q ((h.inUse q).mpr hq)).trans (h.diagList q hq)

theorem SameLists.refl (d : Device) : SameLists d d :=
  ⟨fun _ => rfl, rfl, fun _ => Iff.rfl, fun _ _ => rfl⟩

theorem plugModule_sameLists (apiId : BitVec 32) (slotNbr : BitVec 16)
    (moduleIdentNbr : BitVec 32) :
    SameLists d (d.plugModule apiId slotNbr moduleIdentNbr).2 ∧
      (d.plugModule apiId slotNbr moduleIdentNbr).2.apis = d.apis := by
  unfold plugModule
  cases ha : d.getApi apiId with
  | none => exact ⟨SameLists.refl d, rfl⟩
  | some a =>
    cases hs : d.getSlot a slotNbr with
    | some s =>
      simp only [hs]
      split
      · exact ⟨sameLists_setSlot _ rfl, rfl⟩
      · exact ⟨sameLists_setSlot _ rfl, rfl⟩
    | none =>
      simp only [hs]
      cases hnew : d.newSlot a slotNbr with
      | none => exact ⟨SameLists.refl d, rfl⟩
      | some new =>
        obtain ⟨s, d'⟩ := new
        obtain ⟨hsame, hapis⟩ := newSlot_sameLists hnew
        exact ⟨hsame.trans (sameLists_setSlot _ rfl), hapis⟩

theorem SameLists.ordered (hs : SameLists d d') (h : d.Ordered all) : d'.Ordered all := by
  obtain ⟨L, hL⟩ := h
  exact ⟨L, hL.congr hs⟩

/-- A new subslot has an empty list. -/
theorem newSubslot_ordered {a s i : ℕ} {subslotNbr : BitVec 16} (h : d.Ordered all)
    (ha : a < PNET_MAX_API ∧ (d.apis a).inUse = true)
    (hs : s < PNET_MAX_SLOTS ∧ (d.slots (a, s)).inUse = true)
    (hnew : d.newSubslot a s subslotNbr = some (i, d')) : d'.Ordered all := by
  obtain ⟨L, hL⟩ := h
  unfold newSubslot at hnew
  cases hget : d.getSubslot a s subslotNbr with
  | some _ =>
    simp only [hget] at hnew
    cases hnew
  | none =>
    cases hfree :
        (List.range PNET_MAX_SUBSLOTS).find? fun i => (d.subslots (a, s, i)).inUse = false with
    | none =>
      simp only [hget, hfree] at hnew
      cases hnew
    | some i =>
      have hlt := (find?_range_some hfree).1
      have hu : (d.subslots (a, s, i)).inUse = false := by simpa using (find?_range_some hfree).2
      simp only [hget, hfree, Option.some.injEq, Prod.mk.injEq] at hnew
      obtain ⟨rfl, rfl⟩ := hnew
      refine ⟨_, PartsIf.add_list (k := some (a, s, i)) hL ?_ ?_ ?_⟩
      · simp [Live, InUse, hu]
      · rintro (_ | q)
        · simp [Live]
        · by_cases hq : q = (a, s, i)
          · subst hq
            simp [Live, InUse, setSubslot, ha, hs, hlt]
          · simp [Live, InUse, setSubslot, hq]
      · rintro (_ | q) _
        · simp [head, setSubslot]
        · by_cases hq : q = (a, s, i)
          · simp [head, setSubslot, hq]
          · simp [head, setSubslot, hq]

theorem sameLists_setSubslot (subslot : Subslot) (hu : subslot.inUse = (d.subslots q).inUse)
    (hl : subslot.diagList = (d.subslots q).diagList) : SameLists d (d.setSubslot q subslot) where
  items _ := rfl
  free := rfl
  inUse := inUse_setSubslot subslot hu
  diagList q' _ := by
    by_cases hq : q' = q
    · simp [setSubslot, hq, hl]
    · simp [setSubslot, hq]

theorem setIdentInfo_sameLists (identInfo : SubmodPlugState) :
    SameLists d (d.setIdentInfo q identInfo) :=
  sameLists_setSubslot _ rfl rfl

theorem plugNewSubslot_ordered (h : d.Ordered all) (expApis : ℕ → List ExpApi) {a : ℕ}
    (apiId : BitVec 32) (slotNbr subslotNbr : BitVec 16) (m : Submodule)
    (ha : a < PNET_MAX_API ∧ (d.apis a).inUse = true) :
    (d.plugNewSubslot expApis a apiId slotNbr subslotNbr m).2.Ordered all := by
  unfold plugNewSubslot
  cases hs : d.getSlot a slotNbr with
  | none => exact h
  | some s =>
    cases hnew : d.newSubslot a s subslotNbr with
    | none => simpa only [hnew] using h
    | some new =>
      obtain ⟨i, d'⟩ := new
      simp only [hnew]
      have h' := newSubslot_ordered h ha (getSlot_some hs) hnew
      refine SameLists.ordered (sameLists_setSubslot _ ?_ ?_) h'
      · rfl
      · rfl

theorem plugSubmodule_ordered (h : d.Ordered all) (expApis : ℕ → List ExpApi)
    (apiId : BitVec 32) (slotNbr subslotNbr : BitVec 16) (m : Submodule) (update : Bool)
    (hp : all → d.PullsNoDiagnosis (.plugSubmodule apiId slotNbr subslotNbr m update)) :
    (d.plugSubmodule expApis apiId slotNbr subslotNbr m update).2.Ordered all := by
  unfold plugSubmodule
  cases ha : d.getApi apiId with
  | none => exact h
  | some a =>
    have hau := getApi_some ha
    cases hs : d.getSlot a slotNbr with
    | none =>
      simp only [hs]
      obtain ⟨hsame, hapis⟩ := plugModule_sameLists (d := d) apiId slotNbr m.moduleIdentNbr
      refine plugNewSubslot_ordered (hsame.ordered h) expApis apiId slotNbr subslotNbr m ?_
      rw [hapis]
      exact hau
    | some s =>
      cases hi : d.getSubslot a s subslotNbr with
      | none =>
        simp only [hs, hi]
        exact plugNewSubslot_ordered h expApis apiId slotNbr subslotNbr m hau
      | some i =>
        simp only [hs, hi]
        by_cases hup : update = true
        · -- the old submodule is pulled first
          simp only [hup, if_true]
          subst hup
          have hdrops := pullSubmodule_drops (d := d) apiId slotNbr subslotNbr
          refine plugNewSubslot_ordered ?_ expApis apiId slotNbr subslotNbr m ?_
          · exact hdrops.ordered h fun hall q hq hno =>
              hp hall q hq ⟨rfl, hdrops.dropped q hq hno⟩
          · rw [(pullSubmodule_slots apiId slotNbr subslotNbr).1]
            exact hau
        · simp only [hup, if_false, Bool.false_eq_true]
          split
          · exact (setIdentInfo_sameLists _).ordered h
          · exact plugNewSubslot_ordered ((setIdentInfo_sameLists _).ordered h) expApis apiId
              slotNbr subslotNbr m hau

/-! ## Runs -/

theorem chain_init (n k : ℕ) (hn : n + k = PNET_MAX_DIAG_ITEMS) :
    Chain PNET_MAX_DIAG_ITEMS PF_DIAG_IX_NULL
      (fun i => if i + 1 < PNET_MAX_DIAG_ITEMS then i + 1 else PF_DIAG_IX_NULL)
      (if k < PNET_MAX_DIAG_ITEMS then k else PF_DIAG_IX_NULL) (List.range' k n) := by
  induction n generalizing k with
  | zero =>
    rw [if_neg (by omega)]
    rfl
  | succ n ih =>
    rw [if_pos (by omega)]
    exact ⟨rfl, by omega, ih (k + 1) (by omega)⟩

theorem isPartition_cleared : cleared.IsPartition := by
  have hu : ∀ q, ¬ cleared.InUse q := fun q hq => Bool.false_ne_true hq.2.2.2
  have hhand : ∀ i : ℕ, ¬ none = some i := fun i h => Option.some_ne_none i h.symm
  refine ⟨fun k => k.elim (List.range' 0 PNET_MAX_DIAG_ITEMS) fun _ => [], ?_, ?_,
    fun i h => absurd h (hhand i), fun i h => absurd h (hhand i), ?_⟩
  · rintro (_ | q) hq
    · exact chain_init PNET_MAX_DIAG_ITEMS 0 rfl
    · exact absurd hq (hu q)
  · rintro (_ | q) (_ | q') i hq hq' _ _
    · rfl
    · exact absurd hq' (hu q')
    · exact absurd hq (hu q)
    · exact absurd hq (hu q)
  · intro i hi
    exact .inr ⟨none, trivial, by simpa using hi⟩

theorem isPartition_init : init.IsPartition := by
  unfold init
  cases hnew : cleared.newApi 0 with
  | none => exact isPartition_cleared
  | some new =>
    exact isPartition_iff.mpr
      ((newApi_sameLists hnew).ordered (isPartition_iff.mp isPartition_cleared))

theorem assign_sameLists (x : Assignment) : SameLists d (d.assign x) :=
  ⟨fun _ => rfl, rfl, fun _ => Iff.rfl, fun _ _ => rfl⟩

end Device

/-- Every step of the run pulls only subslots without diagnosis. -/
def PullsNoDiagnosis (net : Net) : List PoolStep → Prop
  | [] => True
  | s :: steps => net.dev.PullsNoDiagnosis s ∧ ∀ net', net.step s = some net' →
      PullsNoDiagnosis net' steps

variable {net : Net}

theorem DiagOp.run_ordered {all : Prop} (h : net.dev.Ordered all) (send : Send) (op : DiagOp) :
    ∃ ret net', op.run net send = some (ret, net') ∧ net'.dev.Ordered all := by
  obtain ⟨L, hL⟩ := h
  have hspec := op.run_specIf hL send
  cases heff : op.effect net.dev with
  | none =>
    rw [heff] at hspec
    obtain ⟨ret, hret⟩ := hspec
    exact ⟨ret, net, hret, L, hL⟩
  | some e =>
    rw [heff] at hspec
    obtain ⟨ret, dev', hret, hed⟩ := hspec
    refine ⟨ret, _, hret, ?_⟩
    rw [Net.indicate_dev]
    exact hed.lists

/-- A step ends, and keeps the lists apart; it loses no item if it pulls no diagnosis. -/
theorem Net.step_ordered {all : Prop} (h : net.dev.Ordered all) (s : PoolStep)
    (hs : all → net.dev.PullsNoDiagnosis s) :
    ∃ net', net.step s = some net' ∧ net'.dev.Ordered all := by
  cases s with
  | diag send op =>
    obtain ⟨ret, net', hret, hp⟩ := op.run_ordered h send
    exact ⟨net', by rw [Net.step, hret]; rfl, hp⟩
  | plugModule apiId slotNbr moduleIdentNbr =>
    exact ⟨_, rfl, (Device.plugModule_sameLists apiId slotNbr moduleIdentNbr).1.ordered h⟩
  | plugSubmodule apiId slotNbr subslotNbr m update =>
    exact ⟨_, rfl, Device.plugSubmodule_ordered h _ apiId slotNbr subslotNbr m update hs⟩
  | pullSubmodule apiId slotNbr subslotNbr =>
    have hdrops := Device.pullSubmodule_drops (d := net.dev) apiId slotNbr subslotNbr
    exact ⟨_, rfl, hdrops.ordered h fun hall q hq hno => hs hall q hq (hdrops.dropped q hq hno)⟩
  | pullModule apiId slotNbr =>
    have hdrops := Device.pullModule_drops (d := net.dev) apiId slotNbr
    exact ⟨_, rfl, hdrops.ordered h fun hall q hq hno => hs hall q hq (hdrops.dropped q hq hno)⟩
  | newApi apiId =>
    cases hnew : net.dev.newApi apiId with
    | none => exact ⟨net, by rw [Net.step, hnew], h⟩
    | some new =>
      exact ⟨⟨new.2, net.ars⟩, by rw [Net.step, hnew], (Device.newApi_sameLists hnew).ordered h⟩
  | assign ars x => exact ⟨_, rfl, (Device.assign_sameLists x).ordered h⟩

/-- A step ends, and keeps the partition. -/
theorem Net.step_isPartition (h : net.dev.IsPartition) (s : PoolStep)
    (hs : net.dev.PullsNoDiagnosis s) :
    ∃ net', net.step s = some net' ∧ net'.dev.IsPartition := by
  simp only [Device.isPartition_iff] at h ⊢
  exact Net.step_ordered h s fun _ => hs

theorem Net.run_isPartition (steps : List PoolStep) : ∀ net : Net, net.dev.IsPartition →
    PullsNoDiagnosis net steps → ∃ net', net.run steps = some net' ∧ net'.dev.IsPartition := by
  induction steps with
  | nil => exact fun net h _ => ⟨net, rfl, h⟩
  | cons s steps ih =>
    intro net h hs
    obtain ⟨net₁, hstep, h₁⟩ := Net.step_isPartition h s hs.1
    rw [Net.run, hstep]
    exact ih net₁ h₁ (hs.2 net₁ hstep)

theorem Net.run_append (steps₁ steps₂ : List PoolStep) (net : Net) :
    net.run (steps₁ ++ steps₂) = (net.run steps₁).bind fun net => net.run steps₂ := by
  induction steps₁ generalizing net with
  | nil => rfl
  | cons s steps ih =>
    rw [List.cons_append, Net.run, Net.run]
    cases net.step s with
    | none => rfl
    | some net₁ => exact ih net₁

theorem PullsNoDiagnosis.take {steps : List PoolStep} (k : ℕ) :
    ∀ {net : Net}, PullsNoDiagnosis net steps → PullsNoDiagnosis net (steps.take k) := by
  induction steps generalizing k with
  | nil => simp [PullsNoDiagnosis]
  | cons s steps ih =>
    intro net h
    cases k with
    | zero => trivial
    | succ k => exact ⟨h.1, fun net' hstep => ih k (h.2 net' hstep)⟩

namespace LostItem

/-- Nothing is connected. -/
def start : Net := ⟨Device.init, fun _ => .cleared⟩

def diagnosis : Diagnosis where
  source := ⟨0, 1, 1, 0x8000, false, .PNET_DIAG_CH_PROP_DIR_MANUF_SPEC⟩
  chBits := 0
  severity := .PNET_DIAG_CH_PROP_MAINT_FAULT
  chErrorType := 0
  extChErrorType := 0
  extChAddValue := 0
  qualChQualifier := 0
  usi := 0x10
  manufDataLen := 0
  manufData := none

/-- A submodule is plugged and gets a diagnosis. -/
def steps : List PoolStep :=
  [.plugSubmodule 0 1 1 ⟨1, 1, 0, 0, 0⟩ false, .diag (fun _ _ _ => 0) (.add diagnosis)]

end LostItem

end PNet.Cmdev
