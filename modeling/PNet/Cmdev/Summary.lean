import PNet.Cmdev.Partition

/-! # What the diagnosis of a subslot adds up to

The state of a submodule and the summary in an alarm are folds over the diagnosis of a subslot. Both
are the OR of what each item tells by itself, and so depend on nothing but the set of the items.

* `foldl_eq_any`: a fold of which an observation is an OR.
* `isOrOf_summaryOf`: the summary, of items as a subslot has them.
* `Net.summaries_of_run`: the state after each request, and the summary in each alarm.
-/

namespace PNet.Cmdev

open Connect SharedPool

/-! ## The summary in an alarm -/

/-- `pf_alarm_get_diag_summary`; `diagItem` is an item that has not been reported. The API
identifier of an alarm has 32 bits. -/
def Net.getDiagSummary (net : Net) (ar : ℕ) (apiId : BitVec 32) (slotNbr subslotNbr : BitVec 16)
    (diagItem : Option DiagItem) : Option (AlarmSpec × BitVec 32) :=
  match net.dev.getSubslotFull (apiId.setWidth 16) slotNbr subslotNbr with
  | none => some (⟨false, false, false, false⟩, 0)
  | some q => do
    let items ← net.dev.diagItemsOf q
    let isSameAr : Bool := (net.dev.subslots q).pAr = some ar
    return Device.summaryOf isSameAr (diagItem.toList ++ items)

/-! ## What an item tells -/

namespace DiagItem

/-- What an item tells by its format, its severity and, for qualified diagnosis, the bits of its
qualifier. -/
def contribution (isSameAr : Bool) (item : DiagItem) : AlarmSpec × BitVec 32 :=
  if item.usi < PF_USI_CHANNEL_DIAGNOSIS then (⟨false, true, true, isSameAr⟩, 0)
  else
    match item.std.chProperties.maint with
    | .PNET_DIAG_CH_PROP_MAINT_FAULT => (⟨true, false, true, isSameAr⟩, 0)
    | .PNET_DIAG_CH_PROP_MAINT_REQUIRED =>
      (⟨true, false, false, false⟩, PF_DIAG_BIT_MAINTENANCE_REQUIRED)
    | .PNET_DIAG_CH_PROP_MAINT_DEMANDED =>
      (⟨true, false, false, false⟩, PF_DIAG_BIT_MAINTENANCE_DEMANDED)
    | .PNET_DIAG_CH_PROP_MAINT_QUALIFIED =>
      let bits := item.severityQualifier
      let fault : Bool := bits &&& PF_DIAG_QUALIFIER_MASK_FAULT ≠ 0
      (⟨true, false, fault, fault && isSameAr⟩, bits |||
        (if bits &&& PF_DIAG_QUALIFIER_MASK_REQUIRED ≠ 0 then PF_DIAG_BIT_MAINTENANCE_REQUIRED
          else 0) |||
        (if bits &&& PF_DIAG_QUALIFIER_MASK_DEMANDED ≠ 0 then PF_DIAG_BIT_MAINTENANCE_DEMANDED
          else 0))

/-- How the items in the list of a subslot are. -/
structure Present (item : DiagItem) : Prop where
  inUse : item.inUse = true
  appears : PF_USI_CHANNEL_DIAGNOSIS ≤ item.usi → item.appears = true
  qualifier : PF_USI_CHANNEL_DIAGNOSIS ≤ item.usi →
    item.std.chProperties.maint ≠ .PNET_DIAG_CH_PROP_MAINT_QUALIFIED → item.severityQualifier = 0

end DiagItem

/-- Two summaries in one. -/
def join (s t : AlarmSpec × BitVec 32) : AlarmSpec × BitVec 32 :=
  (⟨s.1.channelDiagnosis || t.1.channelDiagnosis,
    s.1.manufacturerDiagnosis || t.1.manufacturerDiagnosis,
    s.1.submoduleDiagnosis || t.1.submoduleDiagnosis, s.1.arDiagnosis || t.1.arDiagnosis⟩,
    s.2 ||| t.2)

/-- `pf_alarm_add_diag_item_to_summary` joins what the item tells. -/
theorem addToSummary_eq {item : DiagItem} (h : item.Present) (isSameAr : Bool)
    (s : AlarmSpec × BitVec 32) :
    item.addToSummary isSameAr s = join s (item.contribution isSameAr) := by
  unfold DiagItem.addToSummary DiagItem.contribution join
  by_cases husi : item.usi < PF_USI_CHANNEL_DIAGNOSIS
  · simp [husi]
  · have hstd := BitVec.not_lt.mp husi
    have happears := h.appears hstd
    cases hmaint : item.std.chProperties.maint with
    | PNET_DIAG_CH_PROP_MAINT_QUALIFIED =>
      simp [husi, hmaint, happears, DiagItem.hasSeverity, DiagItem.isStdFault, BitVec.or_assoc]
    | _ =>
      have hbits := h.qualifier hstd (by rw [hmaint]; decide)
      simp [husi, hmaint, happears, hbits, DiagItem.hasSeverity, DiagItem.isStdFault]

/-! ## Folds -/

/-- If what is observed of a state is an OR in each step, it is one over the whole list. -/
theorem foldl_eq_any {α σ : Type*} (observe : σ → Bool) (add : α → σ → σ) (one : α → σ)
    (l : List α) (hadd : ∀ a ∈ l, ∀ s, observe (add a s) = (observe s || observe (one a))) (s : σ) :
    observe (l.foldl (fun s a => add a s) s) = (observe s || l.any fun a => observe (one a)) := by
  induction l generalizing s with
  | nil =>
    rw [List.foldl_nil, List.any_nil, Bool.or_false]
  | cons a l ih =>
    rw [List.foldl_cons, ih (fun b hb => hadd b (List.mem_cons_of_mem a hb)),
      hadd a List.mem_cons_self, List.any_cons, Bool.or_assoc]

/-- Each part of the summary is the OR of this part over the items. -/
structure IsOrOf (isSameAr : Bool) (items : List DiagItem) (s : AlarmSpec × BitVec 32) : Prop where
  channelDiagnosis : s.1.channelDiagnosis = true ↔
    ∃ item ∈ items, (item.contribution isSameAr).1.channelDiagnosis = true
  manufacturerDiagnosis : s.1.manufacturerDiagnosis = true ↔
    ∃ item ∈ items, (item.contribution isSameAr).1.manufacturerDiagnosis = true
  submoduleDiagnosis : s.1.submoduleDiagnosis = true ↔
    ∃ item ∈ items, (item.contribution isSameAr).1.submoduleDiagnosis = true
  arDiagnosis : s.1.arDiagnosis = true ↔
    ∃ item ∈ items, (item.contribution isSameAr).1.arDiagnosis = true
  maintStatus : ∀ bit, s.2.getLsbD bit = true ↔
    ∃ item ∈ items, (item.contribution isSameAr).2.getLsbD bit = true

/-- An observation that a join takes apart, of the summary. -/
theorem observe_summaryOf (observe : AlarmSpec × BitVec 32 → Bool) (isSameAr : Bool)
    {items : List DiagItem} (h : ∀ item ∈ items, item.Present)
    (hjoin : ∀ s t, observe (join s t) = (observe s || observe t))
    (hstart : observe (⟨false, false, false, false⟩, 0) = false) :
    observe (Device.summaryOf isSameAr items) = true ↔
      ∃ item ∈ items, observe (item.contribution isSameAr) = true := by
  unfold Device.summaryOf
  rw [foldl_eq_any observe _ (DiagItem.contribution isSameAr) items, hstart, Bool.false_or,
    List.any_eq_true]
  intro item hitem s
  rw [addToSummary_eq (h item hitem), hjoin]

theorem isOrOf_summaryOf (isSameAr : Bool) {items : List DiagItem}
    (h : ∀ item ∈ items, item.Present) :
    IsOrOf isSameAr items (Device.summaryOf isSameAr items) where
  channelDiagnosis :=
    observe_summaryOf (fun s => s.1.channelDiagnosis) isSameAr h (fun _ _ => rfl) rfl
  manufacturerDiagnosis :=
    observe_summaryOf (fun s => s.1.manufacturerDiagnosis) isSameAr h (fun _ _ => rfl) rfl
  submoduleDiagnosis :=
    observe_summaryOf (fun s => s.1.submoduleDiagnosis) isSameAr h (fun _ _ => rfl) rfl
  arDiagnosis := observe_summaryOf (fun s => s.1.arDiagnosis) isSameAr h (fun _ _ => rfl) rfl
  maintStatus bit :=
    observe_summaryOf (fun s => s.2.getLsbD bit) isSameAr h
      (fun s t => BitVec.getLsbD_or (x := s.2) (y := t.2)) BitVec.getLsbD_zero

/-- Each flag of the state is the OR of what the items tell about it. -/
structure StateIsOrOf (items : List DiagItem) (state : SubmodState) : Prop where
  fault : state.fault = true ↔
    ∃ item ∈ items, (item.contribution false).1.submoduleDiagnosis = true
  maintenanceRequired : state.maintenanceRequired = true ↔
    ∃ item ∈ items, (item.contribution false).2.getLsbD 0 = true
  maintenanceDemanded : state.maintenanceDemanded = true ↔
    ∃ item ∈ items, (item.contribution false).2.getLsbD 1 = true

/-- The AR makes no difference to the flags. -/
theorem contribution_flags (isSameAr : Bool) (item : DiagItem) :
    (item.contribution isSameAr).1.submoduleDiagnosis =
        (item.contribution false).1.submoduleDiagnosis ∧
      (item.contribution isSameAr).2 = (item.contribution false).2 := by
  unfold DiagItem.contribution
  split
  · exact ⟨rfl, rfl⟩
  · split <;> exact ⟨rfl, rfl⟩

theorem and_twoPow_ne_zero {w : ℕ} (x : BitVec w) {i : ℕ} (hi : i < w) :
    x &&& BitVec.twoPow w i ≠ 0 ↔ x.getLsbD i = true := by
  rw [BitVec.and_twoPow]
  split
  · rename_i hbit
    refine iff_of_true ?_ hbit
    intro hzero
    have hpow := congrArg (fun y => y.getLsbD i) hzero
    simp [hi] at hpow
  · rename_i hbit
    exact iff_of_false (fun hne => hne rfl) hbit

theorem stateIsOrOf_of_summarizes {isSameAr : Bool} {items : List DiagItem} {state : SubmodState}
    (h : ∀ item ∈ items, item.Present) (hs : Device.Summarizes isSameAr state items) :
    StateIsOrOf items state := by
  have hall : items.filter DiagItem.inUse = items :=
    List.filter_eq_self.mpr fun item hitem => (h item hitem).inUse
  have hor := isOrOf_summaryOf isSameAr h
  have hbit : ∀ x : BitVec 32, (x &&& PF_DIAG_BIT_MAINTENANCE_REQUIRED ≠ 0 ↔ x.getLsbD 0 = true) ∧
      (x &&& PF_DIAG_BIT_MAINTENANCE_DEMANDED ≠ 0 ↔ x.getLsbD 1 = true) :=
    fun x => ⟨and_twoPow_ne_zero x (i := 0) (by decide), and_twoPow_ne_zero x (i := 1) (by decide)⟩
  have hflags := contribution_flags isSameAr
  constructor
  · rw [hs.fault, hall, hor.submoduleDiagnosis]
    simp only [hflags]
  · rw [hs.maintenanceRequired, hall, decide_eq_true_iff, (hbit _).1, hor.maintStatus]
    simp only [hflags]
  · rw [hs.maintenanceDemanded, hall, decide_eq_true_iff, (hbit _).2, hor.maintStatus]
    simp only [hflags]

/-! ## The items that requests make -/

theorem Diagnosis.fill_present {x : Diagnosis} (href : x.refused = false) {item : DiagItem}
    (h : item.inUse = true) : (x.fill item).Present := by
  have hqualifier : ¬ (x.qualifier ≠ 0 ∧ x.severity ≠ .PNET_DIAG_CH_PROP_MAINT_QUALIFIED) := by
    intro hno
    have hrefused : x.refused = true := by
      unfold Diagnosis.refused
      rw [decide_eq_true_iff]
      exact .inr (.inr (.inr (.inr (.inl hno))))
    rw [href] at hrefused
    cases hrefused
  unfold Diagnosis.fill
  split
  · rename_i husi
    refine ⟨h, ?_, ?_⟩
    · intro hstd
      exact absurd husi (BitVec.not_lt.mpr hstd)
    · intro hstd
      exact absurd husi (BitVec.not_lt.mpr hstd)
  · refine ⟨h, fun _ => rfl, ?_⟩
    intro _ hmaint
    have hzero : x.qualifier = 0 := by
      by_contra hne
      exact hqualifier ⟨hne, hmaint⟩
    show x.qualifier &&& PF_DIAG_QUALIFIED_SEVERITY_MASK = 0
    rw [hzero]
    exact BitVec.zero_and

theorem Update.fill_present (x : Update) {item : DiagItem} (h : item.Present) :
    (x.fill item).Present := by
  unfold Update.fill
  split
  · exact ⟨h.inUse, h.appears, h.qualifier⟩
  · exact ⟨h.inUse, fun _ => rfl, h.qualifier⟩

/-- A request leaves only items as they should be, if it met only such ones. -/
theorem DiagOp.edit_present {op : DiagOp} (href : op.refused = false) {free : Bool}
    {l l' : List DiagItem} (hedit : op.edit free l = some l') (h : ∀ item ∈ l, item.Present) :
    ∀ item ∈ l', item.Present := by
  have hrest : ∀ item ∈ l.eraseP op.isFor, item.Present := fun item hitem =>
    h item (List.mem_of_mem_eraseP hitem)
  have hold : ∀ old, l.find? op.isFor = some old → old.Present := fun old hfind =>
    h old (List.mem_of_find?_eq_some hfind)
  unfold DiagOp.edit at hedit
  split at hedit
  · rename_i x old hfind
    obtain rfl := Option.some.inj hedit
    intro item hitem
    rcases List.mem_cons.mp hitem with rfl | hitem
    · exact x.fill_present href (hold old hfind).inUse
    · exact hrest item hitem
  · rename_i x hfind
    split at hedit
    · obtain rfl := Option.some.inj hedit
      intro item hitem
      rcases List.mem_cons.mp hitem with rfl | hitem
      · exact x.fill_present href rfl
      · exact h item hitem
    · cases hedit
  · rename_i x old hfind
    obtain rfl := Option.some.inj hedit
    intro item hitem
    rcases List.mem_cons.mp hitem with rfl | hitem
    · exact x.fill_present (hold old hfind)
    · exact hrest item hitem
  · cases hedit
  · obtain rfl := Option.some.inj hedit
    exact hrest
  · cases hedit

/-! ## The tree -/

namespace Device

variable {d d' d'' : Device} {q : SubslotPos}

/-- The items stay, and each list in use is new and empty or was there before. -/
structure KeepsItems (d d' : Device) : Prop where
  items : d'.diagItems = d.diagItems
  list : ∀ q, d'.InUse q → (d'.subslots q).diagList = PF_DIAG_IX_NULL ∨
    d.InUse q ∧ (d'.subslots q).diagList = (d.subslots q).diagList

theorem KeepsItems.trans (h : KeepsItems d d') (h' : KeepsItems d' d'') : KeepsItems d d'' where
  items := h'.items.trans h.items
  list q hq := by
    rcases h'.list q hq with hnull | ⟨hq', heq⟩
    · exact .inl hnull
    · rw [heq]
      exact h.list q hq'

theorem KeepsItems.refl (d : Device) : KeepsItems d d := ⟨rfl, fun _ hq => .inr ⟨hq, rfl⟩⟩

theorem SameLists.keepsItems (h : SameLists d d') (hitems : d'.diagItems = d.diagItems) :
    KeepsItems d d' where
  items := hitems
  list q hq := .inr ⟨(h.inUse q).mp hq, h.diagList q ((h.inUse q).mp hq)⟩

theorem Drops.keepsItems {P : SubslotPos → Prop} (h : Drops P d d') : KeepsItems d d' where
  items := h.items
  list q hq := .inr ⟨h.inUse q hq, h.diagList q⟩

/-- All items in the lists of subslots in use are as they should be. -/
def AllPresent (d : Device) : Prop := ∀ q, d.InUse q → ∀ item ∈ d.diagnoses q, item.Present

theorem KeepsItems.allPresent (hk : KeepsItems d d') (h : d.AllPresent) : d'.AllPresent := by
  intro q hq item hitem
  have hnext : d'.next = d.next := by
    funext i
    unfold next
    rw [hk.items]
  unfold diagnoses diagItemsOf at hitem
  rcases hk.list q hq with hnull | ⟨hq', heq⟩
  · rw [hnull] at hitem
    cases hitem
  · rw [hnext, hk.items, heq] at hitem
    exact h q hq' item hitem

theorem newApi_keepsItems {a : ℕ} {apiId : BitVec 32} (h : d.newApi apiId = some (a, d')) :
    KeepsItems d d' := by
  refine (newApi_sameLists h).keepsItems ?_
  unfold newApi at h
  split at h
  · cases h
  · split at h
    · cases h
    · obtain ⟨-, rfl⟩ := Prod.mk.inj (Option.some.inj h)
      rfl

theorem newSlot_diagItems {a s : ℕ} {slotNbr : BitVec 16} (h : d.newSlot a slotNbr = some (s, d')) :
    d'.diagItems = d.diagItems := by
  unfold newSlot at h
  split at h
  · cases h
  · split at h
    · cases h
    · obtain ⟨-, rfl⟩ := Prod.mk.inj (Option.some.inj h)
      rfl

theorem plugModule_keepsItems (apiId : BitVec 32) (slotNbr : BitVec 16)
    (moduleIdentNbr : BitVec 32) :
    KeepsItems d (d.plugModule apiId slotNbr moduleIdentNbr).2 := by
  refine (plugModule_sameLists apiId slotNbr moduleIdentNbr).1.keepsItems ?_
  unfold plugModule
  split
  · rfl
  · split
    · dsimp only
      split <;> rfl
    · split
      · rfl
      · rename_i hnew
        refine Eq.trans ?_ (newSlot_diagItems hnew)
        rfl

/-- The list of a new subslot is empty. -/
theorem newSubslot_keepsItems {a s i : ℕ} {subslotNbr : BitVec 16}
    (h : d.newSubslot a s subslotNbr = some (i, d')) : KeepsItems d d' := by
  unfold newSubslot at h
  split at h
  · cases h
  · split at h
    · cases h
    · rename_i i' _
      obtain ⟨rfl, rfl⟩ := Prod.mk.inj (Option.some.inj h)
      refine ⟨rfl, ?_⟩
      intro q hq
      by_cases hqi : q = (a, s, i')
      · left
        rw [hqi, subslots_setSubslot]
      · right
        have hother : (d.setSubslot (a, s, i') { clearedSubslot with
            subslotNbr, diagList := PF_DIAG_IX_NULL, inUse := true }).subslots q =
              d.subslots q := by
          show Function.update d.subslots _ _ q = _
          exact Function.update_of_ne hqi _ _
        refine ⟨⟨hq.1, hq.2.1, hq.2.2.1, ?_⟩, congrArg Subslot.diagList hother⟩
        rw [← hother]
        exact hq.2.2.2

theorem plugNewSubslot_keepsItems (expApis : ℕ → List ExpApi) (a : ℕ) (apiId : BitVec 32)
    (slotNbr subslotNbr : BitVec 16) (m : Submodule) :
    KeepsItems d (d.plugNewSubslot expApis a apiId slotNbr subslotNbr m).2 := by
  unfold plugNewSubslot
  split
  · exact KeepsItems.refl d
  · split
    · exact KeepsItems.refl d
    · rename_i hnew
      exact (newSubslot_keepsItems hnew).trans
        (SameLists.keepsItems (sameLists_setSubslot _ rfl rfl) rfl)

theorem plugSubmodule_keepsItems (expApis : ℕ → List ExpApi) (apiId : BitVec 32)
    (slotNbr subslotNbr : BitVec 16) (m : Submodule) (update : Bool) :
    KeepsItems d (d.plugSubmodule expApis apiId slotNbr subslotNbr m update).2 := by
  unfold plugSubmodule
  split
  · exact KeepsItems.refl d
  · split
    · exact (plugModule_keepsItems apiId slotNbr m.moduleIdentNbr).trans
        (plugNewSubslot_keepsItems _ _ _ _ _ _)
    · split
      · exact plugNewSubslot_keepsItems _ _ _ _ _ _
      · split
        · exact (pullSubmodule_drops apiId slotNbr subslotNbr).keepsItems.trans
            (plugNewSubslot_keepsItems _ _ _ _ _ _)
        · split
          · exact (setIdentInfo_sameLists _).keepsItems rfl
          · exact ((setIdentInfo_sameLists _).keepsItems rfl).trans
              (plugNewSubslot_keepsItems _ _ _ _ _ _)

end Device

/-! ## Runs -/

/-- The lists are apart, and hold items as they should be. -/
def Net.Sound (net : Net) : Prop := net.dev.Ordered False ∧ net.dev.AllPresent

/-- A request in a state in which the lists are sound. -/
theorem DiagOp.run_sound {net : Net} (h : net.Sound) (send : Send) (op : DiagOp) :
    ∃ ret net', op.run net send = some (ret, net') ∧ net'.Sound ∧
      match op.effect net.dev with
      | none => net' = net
      | some (q, l) => net'.dev.diagnoses q = l ∧
        StateIsOrOf l (net'.dev.subslots q).submoduleState := by
  rcases h with ⟨⟨L, hL⟩, hpresent⟩
  have hspec := op.run_specIf hL send
  cases heff : op.effect net.dev with
  | none =>
    rw [heff] at hspec
    rcases hspec with ⟨ret, hret⟩
    exact ⟨ret, net, hret, ⟨⟨L, hL⟩, hpresent⟩, rfl⟩
  | some e =>
    rw [heff] at hspec
    rcases hspec with ⟨ret, dev', hret, hed⟩
    have hq := DiagOp.effect_inUse heff
    have hl : ∀ item ∈ e.2, item.Present := by
      unfold DiagOp.effect at heff
      split at heff
      · cases heff
      · rename_i href
        split at heff
        · cases heff
        · rename_i q htarget
          rcases Option.map_eq_some_iff.mp heff with ⟨l, hedit, rfl⟩
          exact op.edit_present (Bool.eq_false_iff.mpr href) hedit
            (hpresent q (Device.inUse_of_target htarget))
    refine ⟨ret, _, hret, ⟨?_, ?_⟩, ?_, ?_⟩
    · rw [Net.indicate_dev]
      exact hed.lists
    · rw [Net.indicate_dev]
      intro q' hq' item hitem
      have hu := (hed.inUse q').mp hq'
      rw [hed.diagnoses q' hu] at hitem
      split at hitem
      · exact hl item hitem
      · exact hpresent q' hu item hitem
    · rw [Net.indicate_dev, hed.diagnoses e.1 hq, if_pos rfl]
    · rw [Net.indicate_dev]
      rcases hed.summary with ⟨isSameAr, hsum⟩
      exact stateIsOrOf_of_summarizes hl hsum

theorem Net.step_sound {net : Net} (h : net.Sound) (s : PoolStep) :
    ∃ net', net.step s = some net' ∧ net'.Sound := by
  rcases Net.step_ordered h.1 s False.elim with ⟨net', hstep, hord⟩
  refine ⟨net', hstep, hord, ?_⟩
  cases s with
  | diag send op =>
    rcases op.run_sound h send with ⟨ret, net₁, hret, hsound, -⟩
    rw [Net.step, hret] at hstep
    obtain rfl := Option.some.inj hstep
    exact hsound.2
  | plugModule apiId slotNbr moduleIdentNbr =>
    obtain rfl := Option.some.inj hstep
    exact (Device.plugModule_keepsItems apiId slotNbr moduleIdentNbr).allPresent h.2
  | plugSubmodule apiId slotNbr subslotNbr m update =>
    obtain rfl := Option.some.inj hstep
    exact (Device.plugSubmodule_keepsItems _ apiId slotNbr subslotNbr m update).allPresent h.2
  | pullSubmodule apiId slotNbr subslotNbr =>
    obtain rfl := Option.some.inj hstep
    exact (Device.pullSubmodule_drops apiId slotNbr subslotNbr).keepsItems.allPresent h.2
  | pullModule apiId slotNbr =>
    obtain rfl := Option.some.inj hstep
    exact (Device.pullModule_drops apiId slotNbr).keepsItems.allPresent h.2
  | newApi apiId =>
    cases hnew : net.dev.newApi apiId with
    | none =>
      rw [Net.step, hnew] at hstep
      obtain rfl := Option.some.inj hstep
      exact h.2
    | some new =>
      rw [Net.step, hnew] at hstep
      obtain rfl := Option.some.inj hstep
      exact (Device.newApi_keepsItems hnew).allPresent h.2
  | assign ars x =>
    obtain rfl := Option.some.inj hstep
    exact ((Device.assign_sameLists x).keepsItems rfl).allPresent h.2

theorem Net.run_sound (steps : List PoolStep) {net : Net} (h : net.Sound) :
    ∃ net', net.run steps = some net' ∧ net'.Sound := by
  induction steps generalizing net with
  | nil => exact ⟨net, rfl, h⟩
  | cons s steps ih =>
    rcases Net.step_sound h s with ⟨net₁, hstep, h₁⟩
    rw [Net.run, hstep]
    exact ih h₁

theorem sound_init (ars : ℕ → Ar) : Net.Sound ⟨Device.init, ars⟩ := by
  rcases Device.isPartition_iff.mp Device.isPartition_init with ⟨L, hL⟩
  refine ⟨⟨L, PartsIf.mono False.elim hL⟩, ?_⟩
  -- No subslot is in use yet.
  have hcleared : Device.cleared.AllPresent := by
    intro q hq
    exact absurd hq.2.2.2 Bool.false_ne_true
  show Device.init.AllPresent
  unfold Device.init
  split
  · exact hcleared
  · rename_i hnew
    exact (Device.newApi_keepsItems hnew).allPresent hcleared

/-- In a sound state the summary of an alarm is the OR over the items of its subslot. -/
theorem Net.getDiagSummary_sound {net : Net} (h : net.Sound) (ar : ℕ) (apiId : BitVec 32)
    (slotNbr subslotNbr : BitVec 16) :
    ∃ s, net.getDiagSummary ar apiId slotNbr subslotNbr none = some s ∧
      match net.dev.getSubslotFull (apiId.setWidth 16) slotNbr subslotNbr with
      | none => s = (⟨false, false, false, false⟩, 0)
      | some q => IsOrOf ((net.dev.subslots q).pAr = some ar) (net.dev.diagnoses q) s := by
  rcases h with ⟨⟨L, hL⟩, hpresent⟩
  unfold Net.getDiagSummary
  cases hq : net.dev.getSubslotFull (apiId.setWidth 16) slotNbr subslotNbr with
  | none => exact ⟨_, rfl, rfl⟩
  | some q =>
    have hu := Device.inUse_of_getSubslotFull hq
    have hitems := hL.diagItemsOf hu
    have hsum (isSameAr : Bool) : Device.summaryOf isSameAr ((L (some q)).map net.dev.diagItems) =
        Device.summaryOf isSameAr (net.dev.diagnoses q) := by
      unfold Device.summaryOf
      rw [hL.diagnoses hu, List.foldl_map, List.foldl_map]
      rfl
    simp only [hitems, Option.bind_eq_bind, Option.bind_some, Option.pure_def, Option.toList_none,
      List.nil_append]
    refine ⟨_, rfl, ?_⟩
    rw [hsum]
    exact isOrOf_summaryOf _ (hpresent q hu)

/-- **The state of a submodule and the summary in its alarms follow its diagnosis**: in every run
from the start of the device, whatever is plugged and pulled in between, each request leaves the
flags of its submodule as the OR over the items that it then has, and the summary for an alarm is the
OR over the items that the subslot has when the alarm is sent. -/
theorem Net.summaries_of_run (ars : ℕ → Ar) (steps : List PoolStep) :
    ∃ net, Net.run ⟨Device.init, ars⟩ steps = some net ∧
      (∀ send (op : DiagOp), ∃ ret net', op.run net send = some (ret, net') ∧
        match op.effect net.dev with
        | none => net' = net
        | some (q, l) => net'.dev.diagnoses q = l ∧
          StateIsOrOf l (net'.dev.subslots q).submoduleState) ∧
      ∀ ar apiId slotNbr subslotNbr,
        ∃ s, net.getDiagSummary ar apiId slotNbr subslotNbr none = some s ∧
          match net.dev.getSubslotFull (apiId.setWidth 16) slotNbr subslotNbr with
          | none => s = (⟨false, false, false, false⟩, 0)
          | some q => IsOrOf ((net.dev.subslots q).pAr = some ar) (net.dev.diagnoses q) s := by
  rcases Net.run_sound steps (sound_init ars) with ⟨net, hrun, h⟩
  refine ⟨net, hrun, ?_, net.getDiagSummary_sound h⟩
  intro send op
  rcases op.run_sound h send with ⟨ret, net', hret, -, heffect⟩
  exact ⟨ret, net', hret, heffect⟩

end PNet.Cmdev
