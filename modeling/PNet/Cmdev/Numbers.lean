import PNet.Cmdev.Partition
import PNet.Lib.Table

/-! # The numbers of the entries

No two entries in use that stand side by side in the device tree have the same number, so that an
entry is known by its numbers.

* `Device.Numbered` - this property of a tree
* `numbered_of_run` - it holds in every run of plugging, pulling, diagnosis and connecting
-/

namespace PNet.Cmdev

open Connect

/-- The numbers of the entries in use are different. -/
structure Device.Numbered (d : Device) : Prop where
  apis : Table.Unique PNET_MAX_API (fun a => (d.apis a).inUse) fun a => (d.apis a).apiId
  slots : ∀ a, Table.Unique PNET_MAX_SLOTS (fun s => (d.slots (a, s)).inUse)
    fun s => (d.slots (a, s)).slotNbr
  subslots : ∀ a s, Table.Unique PNET_MAX_SUBSLOTS (fun i => (d.subslots (a, s, i)).inUse)
    fun i => (d.subslots (a, s, i)).subslotNbr

namespace Device

variable {d d' d'' : Device} {a s i : ℕ} {q : SubslotPos} {apiId : BitVec 32}
  {slotNbr subslotNbr : BitVec 16}

/-! ## Searching -/

theorem getApi_eq : d.getApi apiId =
    Table.lookup PNET_MAX_API (fun a => (d.apis a).inUse) (fun a => (d.apis a).apiId) apiId := rfl

theorem getSlot_eq : d.getSlot a slotNbr =
    Table.lookup PNET_MAX_SLOTS (fun s => (d.slots (a, s)).inUse)
      (fun s => (d.slots (a, s)).slotNbr) slotNbr := rfl

theorem getSubslot_eq : d.getSubslot a s subslotNbr =
    Table.lookup PNET_MAX_SUBSLOTS (fun i => (d.subslots (a, s, i)).inUse)
      (fun i => (d.subslots (a, s, i)).subslotNbr) subslotNbr := rfl

/-! ## Entries are kept or dropped -/

/-- The entries in use were in use before, with the same numbers. -/
structure Kept (d d' : Device) : Prop where
  apis : ∀ a, (d'.apis a).inUse = true →
    (d.apis a).inUse = true ∧ (d'.apis a).apiId = (d.apis a).apiId
  slots : ∀ q, (d'.slots q).inUse = true →
    (d.slots q).inUse = true ∧ (d'.slots q).slotNbr = (d.slots q).slotNbr
  subslots : ∀ q, (d'.subslots q).inUse = true →
    (d.subslots q).inUse = true ∧ (d'.subslots q).subslotNbr = (d.subslots q).subslotNbr

theorem Kept.refl (d : Device) : Kept d d :=
  ⟨fun _ h => ⟨h, rfl⟩, fun _ h => ⟨h, rfl⟩, fun _ h => ⟨h, rfl⟩⟩

theorem Kept.trans (h : Kept d d') (h' : Kept d' d'') : Kept d d'' where
  apis a ha := by
    rcases h'.apis a ha with ⟨ha', heq⟩
    exact ⟨(h.apis a ha').1, heq.trans (h.apis a ha').2⟩
  slots q hq := by
    rcases h'.slots q hq with ⟨hq', heq⟩
    exact ⟨(h.slots q hq').1, heq.trans (h.slots q hq').2⟩
  subslots q hq := by
    rcases h'.subslots q hq with ⟨hq', heq⟩
    exact ⟨(h.subslots q hq').1, heq.trans (h.subslots q hq').2⟩

theorem Kept.numbered (hk : Kept d d') (h : d.Numbered) : d'.Numbered where
  apis := h.apis.of_keep (fun a _ ha => (hk.apis a ha).1) fun a _ ha => (hk.apis a ha).2
  slots a := (h.slots a).of_keep (fun s _ hs => (hk.slots (a, s) hs).1)
    fun s _ hs => (hk.slots (a, s) hs).2
  subslots a s := (h.subslots a s).of_keep (fun i _ hi => (hk.subslots (a, s, i) hi).1)
    fun i _ hi => (hk.subslots (a, s, i) hi).2

theorem kept_setSubslot (subslot : Subslot)
    (h : subslot.inUse = true →
      (d.subslots q).inUse = true ∧ subslot.subslotNbr = (d.subslots q).subslotNbr) :
    Kept d (d.setSubslot q subslot) where
  apis _ ha := ⟨ha, rfl⟩
  slots _ hq := ⟨hq, rfl⟩
  subslots q' hq' := by
    by_cases hq : q' = q
    · subst hq
      simp only [setSubslot, Function.update_self] at hq' ⊢
      exact h hq'
    · simp only [setSubslot, Function.update_of_ne hq] at hq' ⊢
      exact ⟨hq', trivial⟩

theorem kept_setSlot {q : SlotPos} (slot : Slot)
    (h : slot.inUse = true → (d.slots q).inUse = true ∧ slot.slotNbr = (d.slots q).slotNbr) :
    Kept d (d.setSlot q slot) where
  apis _ ha := ⟨ha, rfl⟩
  slots q' hq' := by
    by_cases hq : q' = q
    · subst hq
      simp only [setSlot, Function.update_self] at hq' ⊢
      exact h hq'
    · simp only [setSlot, Function.update_of_ne hq] at hq' ⊢
      exact ⟨hq', trivial⟩
  subslots _ hq := ⟨hq, rfl⟩

theorem kept_assign (x : Assignment) : Kept d (d.assign x) :=
  ⟨fun _ h => ⟨h, rfl⟩, fun _ h => ⟨h, rfl⟩, fun _ h => ⟨h, rfl⟩⟩

theorem kept_pullSubmodule (apiId : BitVec 32) (slotNbr subslotNbr : BitVec 16) :
    Kept d (d.pullSubmodule apiId slotNbr subslotNbr).2 := by
  rcases pullSubmodule_cases (d := d) apiId slotNbr subslotNbr with ⟨-, h⟩ | ⟨q, state, -, h⟩
  · rw [h]
    exact Kept.refl d
  · rw [h]
    apply kept_setSubslot
    intro hu
    exact absurd hu Bool.false_ne_true

theorem kept_pullSubslots (apiId : BitVec 32) (slotNbr : BitVec 16) (q : SlotPos)
    (ixs : List ℕ) (d : Device) : Kept d (d.pullSubslots apiId slotNbr q ixs).2 := by
  induction ixs generalizing d with
  | nil => exact Kept.refl d
  | cons i ixs ih =>
    unfold pullSubslots
    by_cases hu : (d.subslots (q.1, q.2, i)).inUse = true
    · simp only [if_pos hu]
      have hpull := kept_pullSubmodule (d := d) apiId slotNbr (d.subslots (q.1, q.2, i)).subslotNbr
      generalize d.pullSubmodule apiId slotNbr (d.subslots (q.1, q.2, i)).subslotNbr = r at hpull
      rcases r with ⟨ret, d'⟩
      by_cases hret : ret = 0
      · simp only [if_pos hret]
        exact hpull.trans (ih d')
      · simp only [if_neg hret]
        exact hpull
    · simp only [if_neg hu]
      exact ih d

theorem kept_pullModule (apiId : BitVec 32) (slotNbr : BitVec 16) :
    Kept d (d.pullModule apiId slotNbr).2 := by
  unfold pullModule
  cases ha : d.getApi apiId with
  | none => exact Kept.refl d
  | some a =>
    cases hs : d.getSlot a slotNbr with
    | none =>
      simp only [hs]
      exact Kept.refl d
    | some s =>
      simp only [hs]
      have hpull := kept_pullSubslots apiId slotNbr (a, s) (List.range PNET_MAX_SUBSLOTS) d
      generalize d.pullSubslots apiId slotNbr (a, s) (List.range PNET_MAX_SUBSLOTS) = r at hpull
      rcases r with ⟨ret, d'⟩
      by_cases hret : ret = 0
      · simp only [if_pos hret]
        apply hpull.trans
        apply kept_setSlot
        intro hu
        exact absurd hu Bool.false_ne_true
      · simp only [if_neg hret]
        exact hpull

/-! ## A new entry -/

theorem newApi_numbered (h : d.Numbered) (hnew : d.newApi apiId = some (a, d')) : d'.Numbered := by
  unfold newApi at hnew
  cases hget : d.getApi apiId with
  | some _ =>
    simp only [hget] at hnew
    cases hnew
  | none =>
    cases hfree : (List.range PNET_MAX_API).find? fun a => (d.apis a).inUse = false with
    | none =>
      simp only [hget, hfree] at hnew
      cases hnew
    | some a =>
      simp only [hget, hfree, Option.some.injEq, Prod.mk.injEq] at hnew
      rcases hnew with ⟨rfl, rfl⟩
      constructor
      · apply h.apis.add (i := a) hget
        · intro j hj hne hu
          simpa only [setApi, Function.update_of_ne hne] using hu
        · intro j hj hne hu
          simp only [setApi, Function.update_of_ne hne]
        · simp only [setApi, Function.update_self]
      · intro a'
        apply (h.slots a').of_keep
        · intro s _ hu
          by_cases ha : a' = a
          · simp only [setApi, if_pos ha] at hu
            exact absurd hu Bool.false_ne_true
          · simpa only [setApi, if_neg ha] using hu
        · intro s _ hu
          by_cases ha : a' = a
          · simp only [setApi, if_pos ha] at hu
            exact absurd hu Bool.false_ne_true
          · simp only [setApi, if_neg ha]
      · intro a' s'
        apply (h.subslots a' s').of_keep
        · intro i _ hu
          by_cases ha : a' = a
          · simp only [setApi, if_pos ha] at hu
            exact absurd hu Bool.false_ne_true
          · simpa only [setApi, if_neg ha] using hu
        · intro i _ hu
          by_cases ha : a' = a
          · simp only [setApi, if_pos ha] at hu
            exact absurd hu Bool.false_ne_true
          · simp only [setApi, if_neg ha]

theorem newSlot_numbered (h : d.Numbered) (hnew : d.newSlot a slotNbr = some (s, d')) :
    d'.Numbered := by
  unfold newSlot at hnew
  cases hget : d.getSlot a slotNbr with
  | some _ =>
    simp only [hget] at hnew
    cases hnew
  | none =>
    cases hfree : (List.range PNET_MAX_SLOTS).find? fun s => (d.slots (a, s)).inUse = false with
    | none =>
      simp only [hget, hfree] at hnew
      cases hnew
    | some s =>
      simp only [hget, hfree, Option.some.injEq, Prod.mk.injEq] at hnew
      rcases hnew with ⟨rfl, rfl⟩
      constructor
      · exact h.apis
      · intro a'
        by_cases ha : a' = a
        · subst ha
          apply (h.slots a').add (i := s) hget
          · intro j hj hne hu
            have hq : ((a', j) : SlotPos) ≠ (a', s) := fun hq => hne (Prod.mk.inj hq).2
            simpa only [setSlot, Function.update_of_ne hq] using hu
          · intro j hj hne hu
            have hq : ((a', j) : SlotPos) ≠ (a', s) := fun hq => hne (Prod.mk.inj hq).2
            simp only [setSlot, Function.update_of_ne hq]
          · simp only [setSlot, Function.update_self]
        · have hq (j : ℕ) : ((a', j) : SlotPos) ≠ (a, s) := fun hq => ha (Prod.mk.inj hq).1
          simpa only [setSlot, Function.update_of_ne (hq _)] using h.slots a'
      · -- the subslots of the new slot are cleared
        intro a' s'
        apply (h.subslots a' s').of_keep
        · intro i _ hu
          by_cases hq : a' = a ∧ s' = s
          · simp only [setSlot, if_pos hq] at hu
            exact absurd hu Bool.false_ne_true
          · simpa only [setSlot, if_neg hq] using hu
        · intro i _ hu
          by_cases hq : a' = a ∧ s' = s
          · simp only [setSlot, if_pos hq] at hu
            exact absurd hu Bool.false_ne_true
          · simp only [setSlot, if_neg hq]

theorem newSubslot_numbered (h : d.Numbered) (hnew : d.newSubslot a s subslotNbr = some (i, d')) :
    d'.Numbered := by
  unfold newSubslot at hnew
  cases hget : d.getSubslot a s subslotNbr with
  | some _ =>
    simp only [hget] at hnew
    cases hnew
  | none =>
    cases hfree :
        (List.range PNET_MAX_SUBSLOTS).find? fun i => (d.subslots (a, s, i)).inUse = false with
    | none =>
      simp only [hget, hfree] at hnew
      cases hnew
    | some i =>
      simp only [hget, hfree, Option.some.injEq, Prod.mk.injEq] at hnew
      rcases hnew with ⟨rfl, rfl⟩
      constructor
      · exact h.apis
      · exact h.slots
      · intro a' s'
        by_cases hq : a' = a ∧ s' = s
        · rcases hq with ⟨rfl, rfl⟩
          apply (h.subslots a' s').add (i := i) hget
          · intro j hj hne hu
            have hq : ((a', s', j) : SubslotPos) ≠ (a', s', i) := by simpa using hne
            simpa only [setSubslot, Function.update_of_ne hq] using hu
          · intro j hj hne hu
            have hq : ((a', s', j) : SubslotPos) ≠ (a', s', i) := by simpa using hne
            simp only [setSubslot, Function.update_of_ne hq]
          · simp only [setSubslot, Function.update_self]
        · have hne (j : ℕ) : ((a', s', j) : SubslotPos) ≠ (a, s, i) := by
            intro heq
            rcases Prod.mk.inj heq with ⟨ha, heq⟩
            exact hq ⟨ha, (Prod.mk.inj heq).1⟩
          simpa only [setSubslot, Function.update_of_ne (hne _)] using h.subslots a' s'

/-! ## Plugging -/

theorem plugModule_numbered (h : d.Numbered) (apiId : BitVec 32) (slotNbr : BitVec 16)
    (moduleIdentNbr : BitVec 32) : (d.plugModule apiId slotNbr moduleIdentNbr).2.Numbered := by
  unfold plugModule
  cases ha : d.getApi apiId with
  | none => exact h
  | some a =>
    cases hs : d.getSlot a slotNbr with
    | some s =>
      simp only [hs]
      split
      · exact Kept.numbered (kept_setSlot _ fun hu => ⟨hu, rfl⟩) h
      · exact Kept.numbered (kept_setSlot _ fun hu => ⟨hu, rfl⟩) h
    | none =>
      cases hnew : d.newSlot a slotNbr with
      | none =>
        simp only [hs, hnew]
        exact h
      | some new =>
        rcases new with ⟨s, d'⟩
        simp only [hs, hnew]
        apply Kept.numbered (kept_setSlot _ _) (newSlot_numbered h hnew)
        intro hu
        exact ⟨hu, rfl⟩

theorem plugNewSubslot_numbered (h : d.Numbered) (expApis : ℕ → List ExpApi) (a : ℕ)
    (apiId : BitVec 32) (slotNbr subslotNbr : BitVec 16) (m : Submodule) :
    (d.plugNewSubslot expApis a apiId slotNbr subslotNbr m).2.Numbered := by
  unfold plugNewSubslot
  cases hs : d.getSlot a slotNbr with
  | none => exact h
  | some s =>
    cases hnew : d.newSubslot a s subslotNbr with
    | none =>
      simp only [hnew]
      exact h
    | some new =>
      rcases new with ⟨i, d'⟩
      simp only [hnew]
      apply Kept.numbered (kept_setSubslot _ _) (newSubslot_numbered h hnew)
      intro hu
      exact ⟨hu, rfl⟩

theorem plugSubmodule_numbered (h : d.Numbered) (expApis : ℕ → List ExpApi) (apiId : BitVec 32)
    (slotNbr subslotNbr : BitVec 16) (m : Submodule) (update : Bool) :
    (d.plugSubmodule expApis apiId slotNbr subslotNbr m update).2.Numbered := by
  unfold plugSubmodule
  cases ha : d.getApi apiId with
  | none => exact h
  | some a =>
    cases hs : d.getSlot a slotNbr with
    | none =>
      simp only [hs]
      exact plugNewSubslot_numbered (plugModule_numbered h _ _ _) expApis _ _ _ _ m
    | some s =>
      cases hi : d.getSubslot a s subslotNbr with
      | none =>
        simp only [hs, hi]
        exact plugNewSubslot_numbered h expApis _ _ _ _ m
      | some i =>
        simp only [hs, hi]
        have hident (identInfo : SubmodPlugState) :
            (d.setIdentInfo (a, s, i) identInfo).Numbered := by
          apply Kept.numbered (kept_setSubslot _ _) h
          intro hu
          exact ⟨hu, rfl⟩
        split
        · exact plugNewSubslot_numbered ((kept_pullSubmodule _ _ _).numbered h) expApis _ _ _ _ m
        · split
          · exact hident _
          · exact plugNewSubslot_numbered (hident _) expApis _ _ _ _ m

/-! ## Diagnosis -/

/-- Only the diagnosis of the subslots in `P` may have changed. -/
structure Diagnoses (P : SubslotPos → Prop) (d d' : Device) : Prop where
  apis : d'.apis = d.apis
  slots : d'.slots = d.slots
  entry : ∀ q, (d'.subslots q).inUse = (d.subslots q).inUse ∧
    (d'.subslots q).subslotNbr = (d.subslots q).subslotNbr
  others : ∀ q, ¬ P q → d'.subslots q = d.subslots q

variable {P : SubslotPos → Prop}

theorem Diagnoses.refl (P : SubslotPos → Prop) (d : Device) : Diagnoses P d d :=
  ⟨rfl, rfl, fun _ => ⟨rfl, rfl⟩, fun _ _ => rfl⟩

theorem Diagnoses.trans (h : Diagnoses P d d') (h' : Diagnoses P d' d'') : Diagnoses P d d'' where
  apis := h'.apis.trans h.apis
  slots := h'.slots.trans h.slots
  entry q := ⟨(h'.entry q).1.trans (h.entry q).1, (h'.entry q).2.trans (h.entry q).2⟩
  others q hq := (h'.others q hq).trans (h.others q hq)

theorem Diagnoses.kept (h : Diagnoses P d d') : Kept d d' where
  apis a ha := by
    rw [h.apis] at ha ⊢
    exact ⟨ha, rfl⟩
  slots q hq := by
    rw [h.slots] at hq ⊢
    exact ⟨hq, rfl⟩
  subslots q hq := ⟨(h.entry q).1.symm.trans hq, (h.entry q).2⟩

/-- A relation that holds with each change that a request makes: of the items, and of the diagnosis
and the flags of a subslot in `P`. -/
structure DiagChanges (P : SubslotPos → Prop) (R : Device → Device → Prop) : Prop where
  refl : ∀ d, R d d
  trans : ∀ d d' d'', R d d' → R d' d'' → R d d''
  items : ∀ d diagItems diagItemsFree, R d { d with diagItems, diagItemsFree }
  subslot : ∀ d q subslot, P q → subslot.inUse = (d.subslots q).inUse →
    subslot.subslotNbr = (d.subslots q).subslotNbr →
    searchable subslot.submoduleState = searchable (d.subslots q).submoduleState →
    R d (d.setSubslot q subslot)

namespace DiagChanges

variable {R : Device → Device → Prop}

theorem linkDiag (h : DiagChanges P R) (hq : P q) (ix : ℕ) : R d (d.linkDiag q ix) := by
  unfold Device.linkDiag
  have hitem : R d (d.setItem ix { d.diagItems ix with next := (d.subslots q).diagList }) :=
    h.items _ _ _
  exact h.trans _ _ _ hitem (h.subslot _ _ _ hq rfl rfl rfl)

theorem unlinkDiag (h : DiagChanges P R) (hq : P q) (prev ix : ℕ) : R d (d.unlinkDiag q prev ix) := by
  unfold Device.unlinkDiag
  split
  · exact h.items _ _ _
  · exact h.subslot _ _ _ hq rfl rfl rfl

theorem findEntry {source : DiagSource} {chErrorType extChErrorType usi : BitVec 16}
    {found : Option (SubslotPos × Option ℕ)} (hR : DiagChanges P R)
    (hP : ∀ q, d.target source = some q → P q)
    (h : d.findEntry source chErrorType extChErrorType usi = some (found, d')) :
    R d d' ∧ ∀ q ix, found = some (q, ix) → P q := by
  unfold Device.findEntry at h
  cases hq : d.target source with
  | none =>
    simp only [hq, Option.some.injEq, Prod.mk.injEq] at h
    rcases h with ⟨rfl, rfl⟩
    constructor
    · exact hR.refl _
    · intro q ix hfound
      cases hfound
  | some q =>
    simp only [hq] at h
    split at h
    · cases h
    · simp only [Option.some.injEq, Prod.mk.injEq] at h
      rcases h with ⟨rfl, rfl⟩
      constructor
      · exact hR.refl _
      · intro q' ix hfound
        cases hfound
        exact hP q hq
    · simp only [Option.some.injEq, Prod.mk.injEq] at h
      rcases h with ⟨rfl, rfl⟩
      constructor
      · exact hR.unlinkDiag (hP q hq) _ _
      · intro q' ix hfound
        cases hfound
        exact hP q hq

theorem newDiag {ix : ℕ} (hR : DiagChanges P R) (h : d.newDiag = some (ix, d')) : R d d' := by
  unfold Device.newDiag at h
  by_cases hnull : d.diagItemsFree = PF_DIAG_IX_NULL
  · simp only [if_pos hnull] at h
    cases h
  · simp only [if_neg hnull, Option.some.injEq, Prod.mk.injEq] at h
    rcases h with ⟨rfl, rfl⟩
    exact hR.items _ _ _

theorem freeDiag (h : DiagChanges P R) (ix : ℕ) : R d (d.freeDiag ix) := by
  unfold Device.freeDiag
  split
  · exact h.items _ _ _
  · exact h.refl _

end DiagChanges

theorem diagChanges_diagnoses (P : SubslotPos → Prop) : DiagChanges P (Diagnoses P) where
  refl := Diagnoses.refl P
  trans _ _ _ := Diagnoses.trans
  items _ _ _ := ⟨rfl, rfl, fun _ => ⟨rfl, rfl⟩, fun _ _ => rfl⟩
  subslot d q subslot hq hu hn _ := by
    constructor
    · rfl
    · rfl
    · intro q'
      by_cases heq : q' = q
      · subst heq
        simp only [setSubslot, Function.update_self]
        exact ⟨hu, hn⟩
      · simp only [setSubslot, Function.update_of_ne heq]
        exact ⟨trivial, trivial⟩
    · intro q' hq'
      have hne : q' ≠ q := fun heq => hq' (heq ▸ hq)
      simp only [setSubslot, Function.update_of_ne hne]

theorem Diagnoses.getSubslotFull (h : Diagnoses P d d') (apiId slotNbr subslotNbr : BitVec 16) :
    d'.getSubslotFull apiId slotNbr subslotNbr = d.getSubslotFull apiId slotNbr subslotNbr := by
  have huse (q : SubslotPos) := (h.entry q).1
  have hnbr (q : SubslotPos) := (h.entry q).2
  unfold Device.getSubslotFull getApi getSlot getSubslot
  simp only [h.apis, h.slots, huse, hnbr]

/-- A request finds the same subslots before and after a change. -/
theorem diagChanges_target :
    DiagChanges (fun _ => True) fun d d' => ∀ source, d'.target source = d.target source where
  refl _ _ := rfl
  trans _ _ _ h h' source := (h' source).trans (h source)
  items _ _ _ _ := rfl
  subslot d q subslot hq hu hn hs source := by
    have hsearch (q' : SubslotPos) : searchable ((d.setSubslot q subslot).subslots q').submoduleState
        = searchable (d.subslots q').submoduleState := by
      by_cases heq : q' = q
      · subst heq
        simpa only [setSubslot, Function.update_self] using hs
      · simp only [setSubslot, Function.update_of_ne heq]
    have hdiagnoses := (diagChanges_diagnoses fun _ => True).subslot d q subslot hq hu hn hs
    unfold target
    rw [hdiagnoses.getSubslotFull]
    exact congrArg (Option.filter · _) (funext hsearch)

end Device

namespace Net

open Device

variable {net net' : Net} {q : SubslotPos} {P : SubslotPos → Prop} {R : Device → Device → Prop}

theorem changes_updateSubmoduleState {pAr : Option ℕ} (hR : DiagChanges P R) (hq : P q)
    (h : net.updateSubmoduleState pAr q = some net') : R net.dev net'.dev := by
  unfold updateSubmoduleState at h
  rcases Option.bind_eq_some_iff.mp h with ⟨items, -, hnet⟩
  cases hnet
  exact hR.subslot _ _ _ hq rfl rfl rfl

theorem dev_updateStationProblemIndicator {ar : ℕ}
    (h : net.updateStationProblemIndicator ar q = some net') : net'.dev = net.dev := by
  unfold updateStationProblemIndicator at h
  rcases Option.bind_eq_some_iff.mp h with ⟨items, -, hnet⟩
  cases hnet
  rfl

theorem dev_announce {send : Send} {source : DiagSource} {ix : ℕ} {old : Option DiagItem} {ret : ℤ}
    (h : net.announce send source q ix old = some (ret, net')) : net'.dev = net.dev := by
  unfold announce at h
  cases har : net.findFirstAr with
  | none =>
    simp only [har, Option.some.injEq, Prod.mk.injEq] at h
    rw [h.2]
  | some ar =>
    simp only [har] at h
    rcases Option.bind_eq_some_iff.mp h with ⟨net1, hnet1, hrest⟩
    have hdev := dev_updateStationProblemIndicator hnet1
    cases old with
    | none =>
      cases hrest
      exact hdev
    | some old =>
      simp only at hrest
      split at hrest
      · cases hrest
        exact hdev
      · cases hrest
        exact hdev

/-- The common end of `pf_diag_add` and `pf_diag_update`. -/
theorem changes_stored {dev : Device} {item : DiagItem} {ix : ℕ} {send : Send}
    {source : DiagSource} {old : Option DiagItem} {ret : ℤ} (hR : DiagChanges P R) (hq : P q)
    (h : (({ net with dev := (dev.setItem ix item).linkDiag q ix }.updateSubmoduleState none q).bind
      fun net => net.announce send source q ix old) = some (ret, net')) :
    R dev net'.dev := by
  rcases Option.bind_eq_some_iff.mp h with ⟨net1, hnet1, hannounce⟩
  rw [dev_announce hannounce]
  have hset : R dev (dev.setItem ix item) := hR.items _ _ _
  exact hR.trans _ _ _ (hR.trans _ _ _ hset (hR.linkDiag hq ix))
    (changes_updateSubmoduleState hR hq hnet1)

/-- **What holds with each change holds with a request.** -/
theorem changes_run {send : Send} {op : DiagOp} {ret : ℤ} (hR : DiagChanges P R)
    (hP : ∀ q, net.dev.target op.source = some q → P q)
    (h : op.run net send = some (ret, net')) : R net.dev net'.dev := by
  cases op with
  | add x =>
    unfold DiagOp.run diagAdd at h
    by_cases hrefused : x.refused = true
    · simp only [if_pos hrefused, Option.some.injEq, Prod.mk.injEq] at h
      rw [← h.2]
      exact hR.refl _
    · simp only [if_neg hrefused] at h
      cases hfind : net.dev.findEntry x.source x.chErrorType x.extChErrorType x.usi with
      | none =>
        simp only [hfind] at h
        cases h
      | some r =>
        rcases r with ⟨found, dev⟩
        rcases hR.findEntry hP hfind with ⟨hdev, htarget⟩
        rcases found with _ | ⟨q, found⟩
        · simp only [hfind, Option.some.injEq, Prod.mk.injEq] at h
          rw [← h.2]
          exact hdev
        · have hq := htarget q found rfl
          simp only [hfind] at h
          cases found with
          | some ix => exact hR.trans _ _ _ hdev (changes_stored hR hq h)
          | none =>
            cases hnew : dev.newDiag with
            | none =>
              simp only [hnew, Option.some.injEq, Prod.mk.injEq] at h
              rw [← h.2]
              exact hdev
            | some new =>
              rcases new with ⟨ix, dev'⟩
              simp only [hnew] at h
              exact hR.trans _ _ _ (hR.trans _ _ _ hdev (hR.newDiag hnew)) (changes_stored hR hq h)
  | update x =>
    unfold DiagOp.run diagUpdate at h
    by_cases hrefused : x.refused = true
    · simp only [if_pos hrefused, Option.some.injEq, Prod.mk.injEq] at h
      rw [← h.2]
      exact hR.refl _
    · simp only [if_neg hrefused] at h
      cases hfind : net.dev.findEntry x.source x.chErrorType x.extChErrorType x.usi with
      | none =>
        simp only [hfind] at h
        cases h
      | some r =>
        rcases r with ⟨found, dev⟩
        rcases hR.findEntry hP hfind with ⟨hdev, htarget⟩
        rcases found with _ | ⟨q, _ | ix⟩
        · simp only [hfind, Option.some.injEq, Prod.mk.injEq] at h
          rw [← h.2]
          exact hdev
        · simp only [hfind, Option.some.injEq, Prod.mk.injEq] at h
          rw [← h.2]
          exact hdev
        · simp only [hfind] at h
          exact hR.trans _ _ _ hdev (changes_stored hR (htarget q _ rfl) h)
  | remove source chErrorType extChErrorType usi =>
    unfold DiagOp.run diagRemove at h
    by_cases hrefused : usiRefused chErrorType extChErrorType usi = true ∨
        PNET_CHANNEL_WHOLE_SUBMODULE < source.ch
    · simp only [if_pos hrefused, Option.some.injEq, Prod.mk.injEq] at h
      rw [← h.2]
      exact hR.refl _
    · simp only [if_neg hrefused] at h
      cases hfind : net.dev.findEntry source chErrorType extChErrorType usi with
      | none =>
        simp only [hfind] at h
        cases h
      | some r =>
        rcases r with ⟨found, dev⟩
        rcases hR.findEntry hP hfind with ⟨hdev, htarget⟩
        rcases found with _ | ⟨q, _ | ix⟩
        · simp only [hfind, Option.some.injEq, Prod.mk.injEq] at h
          rw [← h.2]
          exact hdev
        · simp only [hfind, Option.some.injEq, Prod.mk.injEq] at h
          rw [← h.2]
          exact hdev
        · have hq := htarget q _ rfl
          simp only [hfind] at h
          cases har : net.findFirstAr with
          | none =>
            simp only [har] at h
            rcases Option.bind_eq_some_iff.mp h with ⟨net1, hnet1, hend⟩
            cases hend
            have hstate := changes_updateSubmoduleState hR hq hnet1
            exact hR.trans _ _ _ (hR.trans _ _ _ hdev hstate) (hR.freeDiag ix)
          | some ar =>
            simp only [har] at h
            rcases Option.bind_eq_some_iff.mp h with ⟨net1, hnet1, hrest⟩
            rcases Option.bind_eq_some_iff.mp hrest with ⟨net2, hnet2, hend⟩
            cases hend
            rw [dev_updateStationProblemIndicator hnet2]
            have hset (item : DiagItem) : R dev (dev.setItem ix item) := hR.items _ _ _
            have hstate := changes_updateSubmoduleState hR hq hnet1
            exact hR.trans _ _ _ (hR.trans _ _ _ (hR.trans _ _ _ hdev (hset _)) hstate)
              (hR.freeDiag ix)

/-- **A request about a diagnosis changes only the subslot that it is about.** -/
theorem diagnoses_run {send : Send} {op : DiagOp} {ret : ℤ}
    (h : op.run net send = some (ret, net')) :
    Diagnoses (fun q => net.dev.target op.source = some q) net.dev net'.dev :=
  changes_run (diagChanges_diagnoses _) (fun _ => id) h

/-- The requests behind it find the same subslots. -/
theorem target_run {send : Send} {op : DiagOp} {ret : ℤ} (h : op.run net send = some (ret, net'))
    (source : DiagSource) : net'.dev.target source = net.dev.target source :=
  changes_run diagChanges_target (fun _ _ => trivial) h source

/-! ## Runs -/

/-- Every step keeps the numbers different. -/
theorem step_numbered (h : net.dev.Numbered) {s : PoolStep} (hs : net.step s = some net') :
    net'.dev.Numbered := by
  cases s with
  | diag send op =>
    unfold step at hs
    rcases Option.map_eq_some_iff.mp hs with ⟨⟨ret, net1⟩, hrun, rfl⟩
    exact (diagnoses_run hrun).kept.numbered h
  | plugModule apiId slotNbr moduleIdentNbr =>
    cases hs
    exact plugModule_numbered h _ _ _
  | plugSubmodule apiId slotNbr subslotNbr m update =>
    cases hs
    exact plugSubmodule_numbered h _ _ _ _ m update
  | pullSubmodule apiId slotNbr subslotNbr =>
    cases hs
    exact (kept_pullSubmodule _ _ _).numbered h
  | pullModule apiId slotNbr =>
    cases hs
    exact (kept_pullModule _ _).numbered h
  | newApi apiId =>
    unfold step at hs
    cases hnew : net.dev.newApi apiId with
    | none =>
      simp only [hnew, Option.some.injEq] at hs
      rw [← hs]
      exact h
    | some new =>
      rcases new with ⟨a, dev⟩
      simp only [hnew, Option.some.injEq] at hs
      rw [← hs]
      exact newApi_numbered h hnew
  | assign ars x =>
    cases hs
    exact (kept_assign x).numbered h

/-- **In every run the numbers of the entries in use are different.** -/
theorem numbered_of_run (h : net.dev.Numbered) {steps : List PoolStep}
    (hrun : net.run steps = some net') : net'.dev.Numbered := by
  induction steps generalizing net with
  | nil =>
    cases hrun
    exact h
  | cons s steps ih =>
    rcases Option.bind_eq_some_iff.mp hrun with ⟨net1, hs, hrest⟩
    exact ih (step_numbered h hs) hrest

end Net

namespace Device

theorem numbered_cleared : cleared.Numbered := by
  constructor
  · intro a _ _ _ ha
    exact absurd ha Bool.false_ne_true
  · intro a s _ _ _ hs
    exact absurd hs Bool.false_ne_true
  · intro a s i _ _ _ hi
    exact absurd hi Bool.false_ne_true

/-- The tree of a device that starts. -/
theorem numbered_init : init.Numbered := by
  unfold init
  cases hnew : cleared.newApi 0 with
  | none => exact numbered_cleared
  | some new => exact newApi_numbered numbered_cleared hnew

end Device

end PNet.Cmdev
