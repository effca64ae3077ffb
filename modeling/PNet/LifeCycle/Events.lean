import PNet.Cyclic.CycleCounter
import PNet.LifeCycle.Orderly

/-! # Events and the order of an AR

A machine that changes leaves its AR in order when it is in order itself (`Orderly.change`), and so do
the events other than ABORT. A machine that fails while it handles an event aborts the AR, and the
rest of the event finds nothing.
-/

namespace PNet.LifeCycle

open Scheduler
open Connect (PF_IOCR_TYPE_INPUT PF_IOCR_TYPE_OUTPUT)

variable {p : Kind → Prop} {sent : Prop} {st st' : Stack} {a c k i : ℕ} {kind : Kind}
  {now : Time} {event : Event} {clock : ℕ → Time}

/-! ## One machine changes -/

/-- The AR itself changes, but not what the machines depend on. -/
theorem Orderly.ar (h : Orderly p sent st a) (x : Ar) (huse : x.inUse = (st.ar a).inUse)
    (hcmsu : x.cmsuState = (st.ar a).cmsuState) (hnbr : x.nbrIocrs = (st.ar a).nbrIocrs)
    (hcmio : x.cmioState = (st.ar a).cmioState) (hcmsm : x.cmsmState = (st.ar a).cmsmState)
    (hearly : x.cmdevState = .PF_CMDEV_STATE_W_PEIND → AtRest st .cmio a) :
    Orderly p sent (st.setAr a x) a := by
  have har : (st.setAr a x).ar a = x := Function.update_self _ _ _
  have hm (k : Kind) (i : ℕ) (hk : ofAr a k i) : SameMachine st (st.setAr a x) k i := by
    refine .of_fields hk ?_ ?_ ?_ ?_ ?_ (fun _ => ⟨rfl, .rfl, rfl⟩) (fun _ => ⟨rfl, rfl, rfl⟩)
      (fun _ => .rfl)
    · rw [har, huse]
    · rw [har, hcmsu]
    · rw [har, hnbr]
    · rw [har]
      exact fun _ => hcmio
    · rw [har]
      exact fun _ => hcmsm
  refine h.congr rfl ?_ ?_ hm
  · rw [har, huse]
  · rw [har, (hm .cmio a rfl).atRest]
    exact hearly

theorem setAr_acts (ht : timers.Tidy st.sched) (a : ℕ) (x : Ar) : Acts a st (st.setAr a x) :=
  .of_within ht (.refl _ _) (fun _ ha' => Function.update_of_ne ha' _ _) (fun _ _ => rfl)
    fun _ _ => rfl

/-- The machine of one slot changes, and its timer. -/
theorem Orderly.change (h : Orderly p sent st a) (hk : ofAr a kind i)
    (hw : timers.Within (Family.only kind i) st.sched st'.sched)
    (hname : kind = .cmio → timers.Named st'.sched kind i)
    (huse : (st'.ar a).inUse = (st.ar a).inUse)
    (hcmsu : (st'.ar a).cmsuState = (st.ar a).cmsuState)
    (hnbr : (st'.ar a).nbrIocrs = (st.ar a).nbrIocrs)
    (hcmio : kind ≠ .cmio → (st'.ar a).cmioState = (st.ar a).cmioState)
    (hcmsm : kind ≠ .cmsm → (st'.ar a).cmsmState = (st.ar a).cmsmState)
    (hiocr : ∀ c, c / PNET_MAX_CR = a → (st'.iocr c).iocrType = (st.iocr c).iocrType)
    (hcpm : ∀ c, c / PNET_MAX_CR = a → ¬ (kind = .cpm ∧ i = c) →
      ((st'.iocr c).cpm.state = .PF_CPM_STATE_W_START ↔
        (st.iocr c).cpm.state = .PF_CPM_STATE_W_START) ∧
      (st'.iocr c).cpm.ciRunning = (st.iocr c).cpm.ciRunning)
    (hppm : ∀ c, c / PNET_MAX_CR = a → ¬ (kind = .ppm ∧ i = c) →
      (st'.iocr c).ppm.state = (st.iocr c).ppm.state ∧
      (st'.iocr c).ppm.ciRunning = (st.iocr c).ppm.ciRunning)
    (hapmx : ∀ k, k / 2 = a → ¬ (kind = .apmx ∧ i = k) →
      ((st'.apmx k).apmsState = .PF_APMS_STATE_CLOSED ↔
        (st.apmx k).apmsState = .PF_APMS_STATE_CLOSED))
    (hearly : (st'.ar a).cmdevState = .PF_CMDEV_STATE_W_PEIND → AtRest st' .cmio a)
    (hself : InOrder p sent st' kind i) : Orderly p sent st' a := by
  refine h.machine hk hw huse hname hearly ?_ hself
  intro k' i' hk' hne
  refine .of_fields hk' huse hcmsu hnbr ?_ ?_ ?_ ?_ ?_
  · rintro rfl
    refine hcmio ?_
    rintro rfl
    exact hne ⟨rfl, hk'.trans (Eq.symm hk)⟩
  · rintro rfl
    refine hcmsm ?_
    rintro rfl
    exact hne ⟨rfl, hk'.trans (Eq.symm hk)⟩
  · rintro rfl
    refine ⟨hiocr i' hk', hcpm i' hk' ?_⟩
    rintro ⟨rfl, rfl⟩
    exact hne ⟨rfl, rfl⟩
  · rintro rfl
    refine ⟨hiocr i' hk', hppm i' hk' ?_⟩
    rintro ⟨rfl, rfl⟩
    exact hne ⟨rfl, rfl⟩
  · rintro rfl
    refine hapmx i' hk' ?_
    rintro ⟨rfl, rfl⟩
    exact hne ⟨rfl, rfl⟩

/-- The AR after an event that changes CMIO and CMSM at most. -/
structure Told (st : Stack) (a : ℕ) (st' : Stack) : Prop where
  deviceMac : st'.deviceMac = st.deviceMac
  others : ∀ a', a' ≠ a → st'.ar a' = st.ar a'
  ar : st'.ar a = { st.ar a with
    cmioState := (st'.ar a).cmioState
    cmioTimerShouldReschedule := (st'.ar a).cmioTimerShouldReschedule
    cmsmState := (st'.ar a).cmsmState }
  iocr : ∀ c, st'.iocr c = st.iocr c ∨
    c / PNET_MAX_CR = a ∧ st'.iocr c = { st.iocr c with cmioStart := false }
  apmx : st'.apmx = st.apmx
  connections : st'.connections = st.connections
  connection : st'.connection = st.connection

theorem Told.refl (st : Stack) (a : ℕ) : Told st a st :=
  ⟨rfl, fun _ _ => rfl, rfl, fun _ => .inl rfl, rfl, rfl, rfl⟩

theorem Told.trans {st'' : Stack} (h : Told st a st') (h' : Told st' a st'') : Told st a st'' := by
  refine ⟨h'.deviceMac.trans h.deviceMac, fun a' ha' => (h'.others a' ha').trans (h.others a' ha'),
    ?_, ?_, h'.apmx.trans h.apmx, h'.connections.trans h.connections,
    h'.connection.trans h.connection⟩
  · rw [h'.ar, h.ar]
  · intro c
    rcases h'.iocr c with hc' | ⟨hca, hc'⟩
    · rw [hc']
      exact h.iocr c
    · rcases h.iocr c with hc | ⟨-, hc⟩
      · rw [hc', hc]
        exact .inr ⟨hca, rfl⟩
      · rw [hc', hc]
        exact .inr ⟨hca, rfl⟩

theorem Told.cr (h : Told st a st') (c : ℕ) : (st'.iocr c).iocrType = (st.iocr c).iocrType ∧
    (st'.iocr c).cpm = (st.iocr c).cpm ∧ (st'.iocr c).ppm = (st.iocr c).ppm := by
  rcases h.iocr c with hc | ⟨-, hc⟩
  · rw [hc]
    exact ⟨rfl, rfl, rfl⟩
  · rw [hc]
    exact ⟨rfl, rfl, rfl⟩

theorem Told.foreign (h : Told st a st') (hc : c / PNET_MAX_CR ≠ a) : st'.iocr c = st.iocr c := by
  rcases h.iocr c with h | ⟨h, -⟩
  · exact h
  · exact absurd h hc

theorem Told.start (h : Told st a st') (c : ℕ) :
    st'.iocr c = { st.iocr c with cmioStart := (st'.iocr c).cmioStart } ∧
      ((st'.iocr c).cmioStart = true → (st.iocr c).cmioStart = true) := by
  rcases h.iocr c with h | ⟨-, h⟩
  · rw [h]
    exact ⟨rfl, id⟩
  · rw [h]
    exact ⟨rfl, fun h => absurd h Bool.false_ne_true⟩

/-- CMIO has changed. -/
theorem Orderly.cmio (h : Orderly p sent st a) (huse : (st.ar a).inUse = true) (ht : Told st a st')
    (hcmsm : (st'.ar a).cmsmState = (st.ar a).cmsmState)
    (hw : timers.Within (Family.only .cmio a) st.sched st'.sched)
    (hname : timers.Named st'.sched .cmio a)
    (hearly : (st.ar a).cmdevState = .PF_CMDEV_STATE_W_PEIND → AtRest st' .cmio a)
    (hslot : p .cmio → timers.Idle st'.sched .cmio a ∨
      timers.Armed st'.sched .cmio a ∧ ¬ AtRest st' .cmio a) : Orderly p sent st' a := by
  have hk : ofAr a .cmio a := rfl
  have hused : (st'.ar a).inUse = (st.ar a).inUse := by rw [ht.ar]
  refine h.change hk hw (fun _ => hname) hused (by rw [ht.ar]) (by rw [ht.ar])
    (absurd rfl) (fun _ => hcmsm) (fun c _ => (ht.cr c).1) ?_ ?_ ?_ ?_ ?_
  · intro c _ _
    rw [(ht.cr c).2.1]
    exact ⟨.rfl, rfl⟩
  · intro c _ _
    rw [(ht.cr c).2.2]
    exact ⟨rfl, rfl⟩
  · intro k _ _
    rw [ht.apmx]
  · rw [ht.ar]
    exact hearly
  · exact ⟨fun _ => hname, fun _ => hused.trans huse, fun hne => absurd rfl hne, Iff.rfl, hslot,
      fun _ hk => by rcases hk with hk | ⟨hk, -⟩ <;> cases hk⟩

/-- CMSM has changed. -/
theorem Orderly.cmsm (h : Orderly p sent st a) (huse : (st.ar a).inUse = true) (ht : Told st a st')
    (hcmio : (st'.ar a).cmioState = (st.ar a).cmioState)
    (hw : timers.Within (Family.only .cmsm a) st.sched st'.sched)
    (hname : timers.Named st'.sched .cmsm a)
    (hslot : p .cmsm → timers.Idle st'.sched .cmsm a ∨
      timers.Armed st'.sched .cmsm a ∧ ¬ AtRest st' .cmsm a) : Orderly p sent st' a := by
  have hk : ofAr a .cmsm a := rfl
  have hused : (st'.ar a).inUse = (st.ar a).inUse := by rw [ht.ar]
  refine h.change hk hw (fun _ => hname) hused (by rw [ht.ar]) (by rw [ht.ar])
    (fun _ => hcmio) (absurd rfl) (fun c _ => (ht.cr c).1) ?_ ?_ ?_ ?_ ?_
  · intro c _ _
    rw [(ht.cr c).2.1]
    exact ⟨.rfl, rfl⟩
  · intro c _ _
    rw [(ht.cr c).2.2]
    exact ⟨rfl, rfl⟩
  · intro k _ _
    rw [ht.apmx]
  · rw [ht.ar]
    dsimp only [AtRest]
    rw [hcmio]
    exact h.early
  · refine ⟨fun _ => hname, fun _ => hused.trans huse, ?_, Iff.rfl, hslot,
      fun _ hk => by rcases hk with hk | ⟨hk, -⟩ <;> cases hk⟩
    intro _ hnot
    dsimp only [AtRest] at hnot
    dsimp only [Closes]
    cases hstate : (st'.ar a).cmsmState with
    | PF_CMSM_STATE_IDLE => exact absurd hstate hnot
    | PF_CMSM_STATE_RUN => rfl

/-! ## CMIO and CMSM -/

/-- The states of CMIO, but for an ABORT. -/
def CmioState.next : CmioState → Event → CmioState
  | .PF_CMIO_STATE_IDLE, .PNET_EVENT_STARTUP => .PF_CMIO_STATE_STARTUP
  | .PF_CMIO_STATE_STARTUP, .PNET_EVENT_STARTUP => .PF_CMIO_STATE_WDATA
  | .PF_CMIO_STATE_STARTUP, .PNET_EVENT_PRMEND => .PF_CMIO_STATE_WDATA
  | .PF_CMIO_STATE_WDATA, .PNET_EVENT_DATA => .PF_CMIO_STATE_DATA
  | state, _ => state

namespace Stack

@[simp] theorem setAr_self (st : Stack) (a : ℕ) (x : Ar) : (st.setAr a x).ar a = x :=
  Function.update_self _ _ _

@[simp] theorem setCmioState_ar (st : Stack) (a : ℕ) (state : CmioState) :
    (st.setCmioState a state).ar a = { st.ar a with cmioState := state } := setAr_self _ _ _

@[simp] theorem setShouldReschedule_ar (st : Stack) (a : ℕ) (b : Bool) :
    (st.setShouldReschedule a b).ar a = { st.ar a with cmioTimerShouldReschedule := b } :=
  setAr_self _ _ _

@[simp] theorem setCmsmState_ar (st : Stack) (a : ℕ) (state : Rpc.CmsmState) :
    (st.setCmsmState a state).ar a = { st.ar a with cmsmState := state } := setAr_self _ _ _

@[simp] theorem setCmdevState_ar (st : Stack) (a : ℕ) (state : Rpc.CmdevState) :
    (st.setCmdevState a state).ar a = { st.ar a with cmdevState := state } := setAr_self _ _ _

theorem setAr_told (st : Stack) (a : ℕ) (cmio : CmioState) (b : Bool) (cmsm : Rpc.CmsmState) :
    Told st a (st.setAr a { st.ar a with
      cmioState := cmio, cmioTimerShouldReschedule := b, cmsmState := cmsm }) := by
  refine ⟨rfl, fun _ ha' => Function.update_of_ne ha' _ _, ?_, fun _ => .inl rfl, rfl, rfl, rfl⟩
  rw [setAr_self]

theorem setCmioState_told (st : Stack) (a : ℕ) (state : CmioState) :
    Told st a (st.setCmioState a state) := setAr_told st a state _ _

theorem setShouldReschedule_told (st : Stack) (a : ℕ) (b : Bool) :
    Told st a (st.setShouldReschedule a b) := setAr_told st a _ b _

theorem setCmsmState_told (st : Stack) (a : ℕ) (state : Rpc.CmsmState) :
    Told st a (st.setCmsmState a state) := setAr_told st a _ _ state

theorem sched_told (st : Stack) (a : ℕ) (s : St) : Told st a { st with sched := s } :=
  ⟨rfl, fun _ _ => rfl, rfl, fun _ => .inl rfl, rfl, rfl, rfl⟩

theorem clearCmioStart_told (st : Stack) (a : ℕ) : Told st a (st.clearCmioStart a) := by
  refine ⟨rfl, fun _ _ => rfl, rfl, fun c => ?_, rfl, rfl, rfl⟩
  show (if _ then _ else _ : Iocr) = _ ∨ _
  split
  · next hc => exact .inr ⟨hc.1, if_pos hc⟩
  · exact .inl rfl

/-- What CMIO does when it is told of an event. -/
structure CmioDoes (p : Kind → Prop) (sent : Prop) (st : Stack) (a : ℕ) (event : Event)
    (st' : Stack) : Prop where
  told : Told st a st'
  notes : st'.notes = st.notes
  cmio : (st'.ar a).cmioState = (st.ar a).cmioState.next event
  cmsm : (st'.ar a).cmsmState = (st.ar a).cmsmState
  named : ∀ k i, ¬ (k = .cmio ∧ i = a) → (timers.Named st'.sched k i ↔ timers.Named st.sched k i)
  /-- Only PRMEND starts the poll. -/
  idle : event ≠ .PNET_EVENT_PRMEND → timers.Idle st.sched .cmio a → timers.Idle st'.sched .cmio a
  acts : Acts a st st'
  orderly : Orderly p sent st' a

theorem told_acts (ht : timers.Tidy st'.sched) (htold : Told st a st')
    (hw : timers.Within (ofAr a) st.sched st'.sched) : Acts a st st' := by
  refine .of_within ht hw htold.others ?_ fun k _ => by rw [htold.apmx]
  intro c hc
  rcases htold.iocr c with h | ⟨h, -⟩
  · exact h
  · exact absurd h hc

/-- The slot of CMIO. -/
theorem only_cmio : ∀ k i, Family.only Kind.cmio a k i → ofAr a k i := by
  rintro k i ⟨rfl, rfl⟩
  rfl

theorem only_cmsm : ∀ k i, Family.only Kind.cmsm a k i → ofAr a k i := by
  rintro k i ⟨rfl, rfl⟩
  rfl

theorem cmioCmdevStateInd_does (ht : timers.Tidy st.sched) (ho : Orderly p sent st a)
    (huse : (st.ar a).inUse = true) (hne : event ≠ .PNET_EVENT_ABORT)
    (hearly : (st.ar a).cmdevState ≠ .PF_CMDEV_STATE_W_PEIND)
    (h : st.cmioCmdevStateInd a event now = some st') : CmioDoes p sent st a event st' := by
  have hname := ho.poll huse
  -- no timer is started or stopped
  have hquiet (htold : Told st a st') (hsched : st'.sched = st.sched) (hnotes : st'.notes = st.notes)
      (hcmio : (st'.ar a).cmioState = (st.ar a).cmioState.next event)
      (hcmsm : (st'.ar a).cmsmState = (st.ar a).cmsmState)
      (hrest : AtRest st .cmio a ∨ (AtRest st' .cmio a ↔ AtRest st .cmio a)) :
      CmioDoes p sent st a event st' := by
    have hw (q : Kind → ℕ → Prop) : timers.Within q st.sched st'.sched := by
      rw [hsched]
      exact .refl _ _
    have ht' : timers.Tidy st'.sched := by rwa [hsched]
    refine ⟨htold, hnotes, hcmio, hcmsm, fun k i _ => (hw Family.nothing).named id,
      fun _ => ((hw Family.nothing).idle id).mpr, told_acts ht' htold (hw _), ?_⟩
    refine ho.cmio huse htold hcmsm (hw _) (by rwa [hsched]) (fun h => absurd h hearly) ?_
    intro hp
    rw [hsched]
    rcases (ho.slots .cmio a rfl).timer hp with hidle | ⟨harmed, hnot⟩
    · exact .inl hidle
    · rcases hrest with hrest | hrest
      · exact absurd hrest hnot
      · exact .inr ⟨harmed, fun h => hnot (hrest.mp h)⟩
  have hsame (hnext : (st.ar a).cmioState.next event = (st.ar a).cmioState)
      (h : some st = some st') : CmioDoes p sent st a event st' := by
    obtain rfl : st = st' := Option.some.inj h
    exact hquiet (.refl _ _) rfl rfl hnext.symm rfl (.inr Iff.rfl)
  unfold cmioCmdevStateInd at h
  cases hstate : (st.ar a).cmioState with
  | PF_CMIO_STATE_IDLE =>
    cases event with
    | PNET_EVENT_ABORT => exact absurd rfl hne
    | PNET_EVENT_STARTUP =>
      rw [hstate] at h
      obtain rfl := Option.some.inj h
      refine hquiet (((clearCmioStart_told st a).trans (setShouldReschedule_told _ a _)).trans
        (setCmioState_told _ a _)) rfl rfl ?_ ?_ (.inl (.inl hstate))
      · rw [hstate, setCmioState_ar]
        rfl
      · rw [setCmioState_ar, setShouldReschedule_ar]
        rfl
    | PNET_EVENT_PRMEND => exact hsame (by rw [hstate]; rfl) (by rwa [hstate] at h)
    | PNET_EVENT_APPLRDY => exact hsame (by rw [hstate]; rfl) (by rwa [hstate] at h)
    | PNET_EVENT_DATA => exact hsame (by rw [hstate]; rfl) (by rwa [hstate] at h)
  | PF_CMIO_STATE_STARTUP =>
    cases event with
    | PNET_EVENT_ABORT => exact absurd rfl hne
    | PNET_EVENT_STARTUP =>
      rw [hstate] at h
      obtain rfl := Option.some.inj h
      refine hquiet ((clearCmioStart_told st a).trans (setCmioState_told _ a _)) rfl rfl ?_ ?_
        (.inl (.inr hstate))
      · rw [hstate, setCmioState_ar]
        rfl
      · rw [setCmioState_ar]
        rfl
    | PNET_EVENT_PRMEND =>
      rw [hstate] at h
      rcases Option.map_eq_some_iff.mp h with ⟨r, hr, rfl⟩
      have ht0 : timers.Tidy (st.setShouldReschedule a true).sched := ht
      rcases add_spec ht0 hname hr with ⟨s, hs, ht', hw, hname', hadd⟩
      rw [hs]
      have htold : Told st a ({ st.setShouldReschedule a true with sched := s }.setCmioState a
          .PF_CMIO_STATE_WDATA) :=
        ((setShouldReschedule_told st a true).trans (sched_told _ a s)).trans
          (setCmioState_told _ a _)
      have hcmsm : (({ st.setShouldReschedule a true with sched := s }.setCmioState a
          .PF_CMIO_STATE_WDATA).ar a).cmsmState = (st.ar a).cmsmState := by
        rw [setCmioState_ar]
        show ((st.setShouldReschedule a true).ar a).cmsmState = _
        rw [setShouldReschedule_ar]
      have hcmio : (({ st.setShouldReschedule a true with sched := s }.setCmioState a
          .PF_CMIO_STATE_WDATA).ar a).cmioState = CmioState.PF_CMIO_STATE_WDATA := by
        rw [setCmioState_ar]
      refine ⟨htold, rfl, ?_, hcmsm, fun k i hk => hw.named hk, fun hprm => absurd rfl hprm,
        told_acts ht' htold (hw.mono only_cmio), ?_⟩
      · rw [hstate]
        exact hcmio
      · refine ho.cmio huse htold hcmsm hw hname' (fun h => absurd h hearly) fun hp => ?_
        have hidle : timers.Idle st.sched .cmio a := by
          rcases (ho.slots .cmio a rfl).timer hp with hidle | ⟨-, hnot⟩
          · exact hidle
          · exact absurd (.inr hstate) hnot
        rcases hadd hidle with ⟨-, harmed⟩ | ⟨-, hidle⟩
        · refine .inr ⟨harmed, ?_⟩
          dsimp only [AtRest]
          rw [hcmio]
          decide
        · exact .inl hidle
    | PNET_EVENT_APPLRDY => exact hsame (by rw [hstate]; rfl) (by rwa [hstate] at h)
    | PNET_EVENT_DATA => exact hsame (by rw [hstate]; rfl) (by rwa [hstate] at h)
  | PF_CMIO_STATE_WDATA =>
    cases event with
    | PNET_EVENT_ABORT => exact absurd rfl hne
    | PNET_EVENT_STARTUP => exact hsame (by rw [hstate]; rfl) (by rwa [hstate] at h)
    | PNET_EVENT_PRMEND => exact hsame (by rw [hstate]; rfl) (by rwa [hstate] at h)
    | PNET_EVENT_APPLRDY => exact hsame (by rw [hstate]; rfl) (by rwa [hstate] at h)
    | PNET_EVENT_DATA =>
      rw [hstate] at h
      rcases Option.map_eq_some_iff.mp h with ⟨st1, hst1, rfl⟩
      have ht0 : timers.Tidy (st.setShouldReschedule a false).sched := ht
      have hname' := (removeIfRunning_named ht0 hst1).mpr hname
      rcases removeIfRunning_spec ht0 hst1 with ⟨s, rfl, hcalms, hidle⟩
      have htold : Told st a ({ st.setShouldReschedule a false with sched := s }.setCmioState a
          .PF_CMIO_STATE_DATA) :=
        ((setShouldReschedule_told st a false).trans (sched_told _ a s)).trans
          (setCmioState_told _ a _)
      have hcmsm : (({ st.setShouldReschedule a false with sched := s }.setCmioState a
          .PF_CMIO_STATE_DATA).ar a).cmsmState = (st.ar a).cmsmState := by
        rw [setCmioState_ar]
        show ((st.setShouldReschedule a false).ar a).cmsmState = _
        rw [setShouldReschedule_ar]
      refine ⟨htold, rfl, ?_, hcmsm, fun k i hk => hcalms.within.named hk,
        fun _ => hcalms.idle _ _, told_acts hcalms.tidy htold (hcalms.within.mono only_cmio), ?_⟩
      · rw [hstate, setCmioState_ar]
        rfl
      · refine ho.cmio huse htold hcmsm hcalms.within hname' (fun h => absurd h hearly) fun hp => ?_
        exact .inl (hidle (((ho.slots .cmio a rfl).timer hp).imp_right And.left))
  | PF_CMIO_STATE_DATA =>
    cases event with
    | PNET_EVENT_ABORT => exact absurd rfl hne
    | PNET_EVENT_STARTUP => exact hsame (by rw [hstate]; rfl) (by rwa [hstate] at h)
    | PNET_EVENT_PRMEND => exact hsame (by rw [hstate]; rfl) (by rwa [hstate] at h)
    | PNET_EVENT_APPLRDY => exact hsame (by rw [hstate]; rfl) (by rwa [hstate] at h)
    | PNET_EVENT_DATA => exact hsame (by rw [hstate]; rfl) (by rwa [hstate] at h)

/-- What CMSM does when it is told of an event. -/
structure CmsmDoes (p : Kind → Prop) (sent : Prop) (st : Stack) (a : ℕ) (st' : Stack) : Prop where
  told : Told st a st'
  notes : st'.notes = st.notes
  cmio : (st'.ar a).cmioState = (st.ar a).cmioState
  within : timers.Within (Family.only .cmsm a) st.sched st'.sched
  acts : Acts a st st'
  orderly : Orderly p sent st' a

theorem cmsmCmdevStateInd_does (ht : timers.Tidy st.sched) (ho : Orderly p sent st a)
    (huse : (st.ar a).inUse = true) (hne : event ≠ .PNET_EVENT_ABORT)
    (hstart : event = .PNET_EVENT_STARTUP → timers.Named st.sched .cmsm a)
    (h : st.cmsmCmdevStateInd a event now = some st') : CmsmDoes p sent st a st' := by
  have hsame (h : some st = some st') : CmsmDoes p sent st a st' := by
    obtain rfl : st = st' := Option.some.inj h
    exact ⟨.refl _ _, rfl, rfl, .refl _ _, .refl ht a, ho⟩
  have hslot := ho.slots .cmsm a rfl
  unfold cmsmCmdevStateInd at h
  cases hstate : (st.ar a).cmsmState with
  | PF_CMSM_STATE_IDLE =>
    cases event with
    | PNET_EVENT_ABORT => exact absurd rfl hne
    | PNET_EVENT_STARTUP =>
      rw [hstate] at h
      rcases Option.map_eq_some_iff.mp h with ⟨r, hr, rfl⟩
      have ht0 : timers.Tidy (st.setCmsmState a .PF_CMSM_STATE_RUN).sched := ht
      rcases restart_spec ht0 (hstart rfl) hr with ⟨s, hs, ht', hw, hname, hsettled⟩
      rw [hs]
      have htold : Told st a { st.setCmsmState a .PF_CMSM_STATE_RUN with sched := s } :=
        (setCmsmState_told st a _).trans (sched_told _ a s)
      have hcmio : ((st.setCmsmState a .PF_CMSM_STATE_RUN).ar a).cmioState =
          (st.ar a).cmioState := by rw [setCmsmState_ar]
      have hrun : ((st.setCmsmState a .PF_CMSM_STATE_RUN).ar a).cmsmState =
          .PF_CMSM_STATE_RUN := by rw [setCmsmState_ar]
      refine ⟨htold, rfl, hcmio, hw, told_acts ht' htold (hw.mono only_cmsm), ?_⟩
      refine ho.cmsm huse htold hcmio hw hname fun hp => ?_
      rcases hsettled ((hslot.timer hp).imp_right And.left) with hidle | harmed
      · exact .inl hidle
      · refine .inr ⟨harmed, ?_⟩
        dsimp only [AtRest]
        rw [hrun]
        decide
    | PNET_EVENT_PRMEND => exact hsame (by rwa [hstate] at h)
    | PNET_EVENT_APPLRDY => exact hsame (by rwa [hstate] at h)
    | PNET_EVENT_DATA => exact hsame (by rwa [hstate] at h)
  | PF_CMSM_STATE_RUN =>
    cases event with
    | PNET_EVENT_ABORT => exact absurd rfl hne
    | PNET_EVENT_STARTUP => exact hsame (by rwa [hstate] at h)
    | PNET_EVENT_PRMEND => exact hsame (by rwa [hstate] at h)
    | PNET_EVENT_APPLRDY => exact hsame (by rwa [hstate] at h)
    | PNET_EVENT_DATA =>
      rw [hstate] at h
      rcases Option.map_eq_some_iff.mp h with ⟨st1, hst1, rfl⟩
      have hnot : ¬ AtRest st .cmsm a := by
        dsimp only [AtRest]
        rw [hstate]
        decide
      have hname := (removeIfRunning_named ht hst1).mpr (hslot.named hnot)
      rcases removeIfRunning_spec ht hst1 with ⟨s, rfl, hcalms, hidle⟩
      have htold : Told st a ({ st with sched := s }.setCmsmState a .PF_CMSM_STATE_IDLE) :=
        (sched_told st a s).trans (setCmsmState_told _ a _)
      have hcmio : (({ st with sched := s }.setCmsmState a .PF_CMSM_STATE_IDLE).ar a).cmioState =
          (st.ar a).cmioState := by rw [setCmsmState_ar]
      refine ⟨htold, rfl, hcmio, hcalms.within, told_acts hcalms.tidy htold
        (hcalms.within.mono only_cmsm), ?_⟩
      exact ho.cmsm huse htold hcmio hcalms.within hname fun hp =>
        .inl (hidle ((hslot.timer hp).imp_right And.left))

/-! ## The PPMs -/

/-- PPMs of the AR have been activated. -/
structure Prepared (st : Stack) (a : ℕ) (st' : Stack) : Prop where
  same : st' = { st with sched := st'.sched, iocr := st'.iocr }
  iocr : ∀ c, st'.iocr c = { st.iocr c with ppm := (st'.iocr c).ppm }
  others : ∀ c, c / PNET_MAX_CR ≠ a → st'.iocr c = st.iocr c

theorem Prepared.refl (st : Stack) (a : ℕ) : Prepared st a st :=
  ⟨rfl, fun _ => rfl, fun _ _ => rfl⟩

theorem Prepared.trans {st'' : Stack} (h : Prepared st a st') (h' : Prepared st' a st'') :
    Prepared st a st'' := by
  refine ⟨?_, ?_, fun c hc => (h'.others c hc).trans (h.others c hc)⟩
  · rw [h'.same, h.same]
  · intro c
    rw [h'.iocr c, h.iocr c]

theorem setPpm_prepared (st : Stack) {c : ℕ} (hc : c / PNET_MAX_CR = a) (x : Cyclic.Ppm) (s : St) :
    Prepared st a { st.setPpm c x with sched := s } := by
  have hne (c' : ℕ) (h : c' ≠ c) : (st.setPpm c x).iocr c' = st.iocr c' :=
    Function.update_of_ne h _ _
  refine ⟨rfl, fun c' => ?_, fun c' hc' => hne c' ?_⟩
  · by_cases h : c' = c
    · subst h
      show (st.setPpm c' x).iocr c' = { st.iocr c' with ppm := ((st.setPpm c' x).iocr c').ppm }
      have hself : (st.setPpm c' x).iocr c' = { st.iocr c' with ppm := x } :=
        Function.update_self _ _ _
      rw [hself]
    · show (st.setPpm c x).iocr c' = { st.iocr c' with ppm := ((st.setPpm c x).iocr c').ppm }
      rw [hne c' h]
  · rintro rfl
    exact hc' hc

/-- A machine that is not the one of the CR that changes. -/
theorem setIocr_sameMachine (st : Stack) {y : Iocr} (s : St) (hk : ofAr a kind i)
    (htype : y.iocrType = (st.iocr c).iocrType)
    (hcpm : kind = .cpm → i = c →
      (y.cpm.state = .PF_CPM_STATE_W_START ↔ (st.iocr c).cpm.state = .PF_CPM_STATE_W_START) ∧
      y.cpm.ciRunning = (st.iocr c).cpm.ciRunning)
    (hppm : kind = .ppm → i = c → y.ppm.state = (st.iocr c).ppm.state ∧
      y.ppm.ciRunning = (st.iocr c).ppm.ciRunning) :
    SameMachine st { st.setIocr c y with sched := s } kind i := by
  have hself : ({ st.setIocr c y with sched := s } : Stack).iocr c = y := Function.update_self _ _ _
  have hother (h : i ≠ c) : ({ st.setIocr c y with sched := s } : Stack).iocr i = st.iocr i :=
    Function.update_of_ne h _ _
  refine .of_fields hk rfl rfl rfl (fun _ => rfl) (fun _ => rfl) ?_ ?_ (fun _ => .rfl)
  · intro hkind
    by_cases hi : i = c
    · subst hi
      rw [hself]
      exact ⟨htype, hcpm hkind rfl⟩
    · rw [hother hi]
      exact ⟨rfl, .rfl, rfl⟩
  · intro hkind
    by_cases hi : i = c
    · subst hi
      rw [hself]
      exact ⟨htype, hppm hkind rfl⟩
    · rw [hother hi]
      exact ⟨rfl, rfl, rfl⟩

/-- One CR changes, and its timer. -/
theorem setIocr_acts {y : Iocr} {s : St} (hk : ofAr a kind i) (hc : c / PNET_MAX_CR = a)
    (ht : timers.Tidy s) (hw : timers.Within (Family.only kind i) st.sched s) :
    Acts a st { st.setIocr c y with sched := s } := by
  refine .of_within ht (hw.mono ?_) (fun _ _ => rfl) ?_ (fun _ _ => rfl)
  · rintro k' i' ⟨rfl, rfl⟩
    exact hk
  · intro c' hc'
    refine Function.update_of_ne ?_ _ _
    rintro rfl
    exact hc' hc

theorem activateReq_run {x : Cyclic.Ppm} (h : x.state = .PF_PPM_STATE_W_START)
    (inLength : BitVec 16) (now : BitVec 32) (added : Bool) :
    (x.activateReq inLength now added).2.state = .PF_PPM_STATE_RUN ∧
      (x.activateReq inLength now added).2.ciRunning = true := by
  unfold Cyclic.Ppm.activateReq
  rw [h]
  dsimp only
  rw [Cyclic.Ppm.finishBuffer_state, Cyclic.Ppm.finishBuffer_ciRunning]
  exact ⟨rfl, rfl⟩

/-- What an activation of the PPM of a CR leaves. -/
structure PpmStarted (p : Kind → Prop) (sent : Prop) (st : Stack) (a : ℕ) (r : ℤ × Stack) : Prop where
  acts : Acts a st r.2
  prepared : Prepared st a r.2
  orderly : r.1 = 0 → Orderly p sent r.2 a
  stops : r.1 ≠ 0 → (p .cmio → timers.Idle st.sched .cmio a) → ∀ k i, p k → ofAr a k i →
    timers.Idle r.2.sched k i ∨ Closes r.2 k i ∧ timers.Settled r.2.sched k i

theorem ppmStart_spec {addNow : Time} {r : ℤ × Stack} (ht : timers.Tidy st.sched)
    (ho : Orderly p sent st a) (huse : (st.ar a).inUse = true) (hc : c / PNET_MAX_CR = a)
    (hcmsu : (st.ar a).cmsuState = .PF_CMSU_STATE_STARTUP)
    (hlt : c % PNET_MAX_CR < (st.ar a).nbrIocrs)
    (htype : (st.iocr c).iocrType = PF_IOCR_TYPE_INPUT)
    (hstate : (st.iocr c).ppm.state = .PF_PPM_STATE_W_START)
    (h : st.ppmStart c now addNow = some r) : PpmStarted p sent st a r := by
  have hk : ofAr a .ppm c := hc
  rcases Option.map_eq_some_iff.mp h with ⟨q, hq, rfl⟩
  rcases ht.initHandle .ppm c with ⟨ht1, hw1, hname1, hruns1⟩
  have ht1' : timers.Tidy (st.initHandle .ppm c).sched := ht1
  rcases add_spec ht1' hname1 hq with ⟨s, hs, ht2, hw2, hname2, hadd⟩
  rw [hs]
  have hw : timers.Within (Family.only .ppm c) st.sched s := hw1.trans hw2
  -- the PPM that is activated
  obtain ⟨x, hx, hxstate, hxrunning⟩ : ∃ x,
      x = ((st.iocr c).ppm.activateReq (st.iocr c).inLength now (decide (q.1 = 0))).2 ∧
      x.state = Cyclic.PpmState.PF_PPM_STATE_RUN ∧ x.ciRunning = true :=
    ⟨_, rfl, activateReq_run hstate _ _ _⟩
  show PpmStarted p sent st a (q.1, { st.setPpm c ((st.iocr c).ppm.activateReq (st.iocr c).inLength now
    (decide (q.1 = 0))).2 with sched := s })
  rw [← hx]
  have hself : ({ st.setPpm c x with sched := s } : Stack).iocr c = { st.iocr c with ppm := x } :=
    Function.update_self _ _ _
  have hothers (k' : Kind) (i' : ℕ) (hk' : ofAr a k' i') (hne : ¬ (k' = Kind.ppm ∧ i' = c)) :
      SameMachine st { st.setPpm c x with sched := s } k' i' :=
    setIocr_sameMachine st s hk' rfl (fun _ _ => ⟨.rfl, rfl⟩)
      fun hkind hi => absurd ⟨hkind, hi⟩ hne
  have hidle (hp : p .ppm) : timers.Idle (st.initHandle .ppm c).sched .ppm c := by
    have hidle0 : timers.Idle st.sched .ppm c := by
      rcases (ho.slots .ppm c hk).timer hp with hidle | ⟨-, hnot⟩
      · exact hidle
      · exact absurd hstate hnot
    exact fun e he => hidle0 e ((hruns1 e).mp he)
  have hcloses : Closes { st.setPpm c x with sched := s } .ppm c := by
    dsimp only [Closes]
    rw [hself, hc]
    exact ⟨hcmsu, hlt, htype⟩
  have hnot : ¬ AtRest { st.setPpm c x with sched := s } .ppm c := by
    dsimp only [AtRest]
    rw [hself]
    show x.state ≠ _
    rw [hxstate]
    decide
  refine ⟨setIocr_acts hk hc ht2 hw, setPpm_prepared st hc x s, ?_, ?_⟩
  · intro hzero
    have harmed (hp : p .ppm) : timers.Armed s .ppm c := by
      rcases hadd (hidle hp) with ⟨-, harmed⟩ | ⟨hneg, -⟩
      · exact harmed
      · exact absurd (hzero.symm.trans hneg) (by decide)
    refine ho.machine hk hw rfl nofun ?_ hothers
      ⟨fun _ => hname2, fun _ => ?_, fun _ _ => hcloses, ?_, fun hp => .inr ⟨harmed hp, hnot⟩,
        fun hp _ _ => harmed hp⟩
    · exact ho.early
    · show (st.ar (c / PNET_MAX_CR)).inUse = true
      rwa [hc]
    · refine iff_of_true ?_ hnot
      dsimp only [Running]
      rw [hself]
      exact hxrunning
  · intro hnz hpoll k' i' hp hk'
    by_cases hne : k' = Kind.ppm ∧ i' = c
    · rcases hne with ⟨rfl, rfl⟩
      rcases hadd (hidle hp) with ⟨hzero, -⟩ | ⟨-, hidle'⟩
      · exact absurd hzero hnz
      · exact .inl hidle'
    · rcases ho.stops hpoll hp hk' with hidle' | ⟨hcl, hset⟩
      · exact .inl ((hw.idle hne).mpr hidle')
      · exact .inr ⟨(hothers k' i' hk' hne).closes.mpr hcl, (hw.settled hne).mpr hset⟩

/-- The AR has been aborted. -/
def Gone (st : Stack) (a : ℕ) (st' : Stack) : Prop :=
  ∃ s, st' = { (st.note (.event (st.connection a) .PNET_EVENT_ABORT)).zeroed a with sched := s }

theorem Gone.ar (h : Gone st a st') : st'.ar a = .zero := by
  rcases h with ⟨s, rfl⟩
  exact Function.update_self _ _ _

theorem Gone.inUse (h : Gone st a st') : (st'.ar a).inUse = false := by
  rw [h.ar]
  rfl

/-- What the AR was before makes no difference. -/
theorem Prepared.gone {st'' : Stack} (h : Prepared st a st') (hgone : Gone st' a st'') :
    Gone st a st'' := by
  rcases hgone with ⟨s, rfl⟩
  refine ⟨s, ?_⟩
  have hio : ((st'.note (.event (st'.connection a) .PNET_EVENT_ABORT)).zeroed a).iocr =
      ((st.note (.event (st.connection a) .PNET_EVENT_ABORT)).zeroed a).iocr := by
    funext c
    show (if _ then _ else _ : Iocr) = if _ then _ else _
    by_cases hc : c / PNET_MAX_CR = a
    · rw [if_pos hc, if_pos hc]
    · rw [if_neg hc, if_neg hc]
      exact h.others c hc
  have hsame := h.same
  unfold zeroed note at hio ⊢
  dsimp only at hio ⊢
  rw [hio, hsame]

theorem abort_gone (ht : timers.Tidy st.sched) (huse : (st.ar a).inUse = true)
    (h : st.abort a = some st') : Gone st a st' := by
  rcases abort_spec ht huse h with ⟨s, hs, -⟩
  exact ⟨s, hs⟩

/-- What PRMEND leaves of the AR: all went well, or a PPM failed. -/
structure Activates (p : Kind → Prop) (sent : Prop) (st : Stack) (a : ℕ) (st' : Stack) : Prop where
  acts : Acts a st st'
  orderly : Orderly p sent st' a
  outcome : Prepared st a st' ∨ Gone st a st'

theorem ppmActivateReq_spec {addNow : Time} (ht : timers.Tidy st.sched) (ho : Orderly p sent st a)
    (huse : (st.ar a).inUse = true) (hpoll : AtRest st .cmio a) (hc : c / PNET_MAX_CR = a)
    (hcmsu : (st.ar a).cmsuState = .PF_CMSU_STATE_STARTUP)
    (hlt : c % PNET_MAX_CR < (st.ar a).nbrIocrs)
    (htype : (st.iocr c).iocrType = PF_IOCR_TYPE_INPUT)
    (h : st.ppmActivateReq abort a c now addNow = some st') : Activates p sent st a st' := by
  unfold ppmActivateReq at h
  cases hstate : (st.iocr c).ppm.state with
  | PF_PPM_STATE_RUN =>
    rw [if_pos hstate] at h
    obtain rfl : st = st' := Option.some.inj h
    exact ⟨.refl ht a, ho, .inl (.refl st a)⟩
  | PF_PPM_STATE_W_START =>
    rw [if_neg (by rw [hstate]; decide)] at h
    rcases Option.bind_eq_some_iff.mp h with ⟨r, hr, h⟩
    have hs := ppmStart_spec ht ho huse hc hcmsu hlt htype hstate hr
    by_cases hzero : r.1 = 0
    · rw [if_pos hzero] at h
      obtain rfl := Option.some.inj h
      exact ⟨hs.acts, hs.orderly hzero, .inl hs.prepared⟩
    · rw [if_neg hzero] at h
      have hidle (hp : p .cmio) : timers.Idle st.sched .cmio a := by
        rcases (ho.slots .cmio a rfl).timer hp with hidle | ⟨-, hnot⟩
        · exact hidle
        · exact absurd hpoll hnot
      have huse' : (r.2.ar a).inUse = true := by
        rw [hs.prepared.same]
        exact huse
      rcases abort_orderly hs.acts.tidy huse' (hs.stops hzero hidle) h with ⟨hacts, ho', -⟩
      exact ⟨hs.acts.trans hacts, ho', .inr (hs.prepared.gone (abort_gone hs.acts.tidy huse' h))⟩

theorem cmsuPrmEnd_spec (ht : timers.Tidy st.sched) (ho : Orderly p sent st a)
    (huse : (st.ar a).inUse = true) (hpoll : AtRest st .cmio a)
    (hcmsu : (st.ar a).cmsuState = .PF_CMSU_STATE_STARTUP)
    (h : st.cmsuPrmEnd abort a clock = some st') : Activates p sent st a st' := by
  -- the loop goes on only with an AR whose PPMs did not fail
  refine forCreps_run (P := fun _ st1 => Activates p sent st a st1) ?_ ?_ (fun _ _ hP _ => hP) h
  · exact ⟨.refl ht a, ho, .inl (.refl st a)⟩
  · intro n b b' hn hP hlt hb
    rcases hP.outcome with hprep | hgone
    · have har : b.ar = st.ar := by rw [hprep.same]
      by_cases htype : (b.iocr (crOf a n)).iocrType = PF_IOCR_TYPE_INPUT
      · rw [if_pos htype] at hb
        have hpoll' : AtRest b .cmio a := by
          dsimp only [AtRest]
          rw [har]
          exact hpoll
        have hb' := ppmActivateReq_spec hP.acts.tidy hP.orderly (by rwa [har]) hpoll'
          (crOf_div a hn) (by rwa [har]) (by rwa [crOf_mod a hn]) htype hb
        refine ⟨hP.acts.trans hb'.acts, hb'.orderly, ?_⟩
        rcases hb'.outcome with hprep' | hgone
        · exact .inl (hprep.trans hprep')
        · exact .inr (hprep.gone hgone)
      · rw [if_neg htype] at hb
        obtain rfl : b = b' := Option.some.inj hb
        exact hP
    · rw [hgone.ar] at hlt
      exact absurd hlt (Nat.not_lt_zero _)

/-! ## The whole event -/

/-- The AR after an event that is no ABORT. -/
structure Heard (st : Stack) (a : ℕ) (event : Event) (st' : Stack) : Prop where
  notes : st'.notes = .event (st.connection a) event :: st.notes
  others : ∀ a', a' ≠ a → st'.ar a' = st.ar a'
  ar : st'.ar a = { st.ar a with
    cmioState := (st.ar a).cmioState.next event
    cmioTimerShouldReschedule := (st'.ar a).cmioTimerShouldReschedule
    cmsmState := (st'.ar a).cmsmState }
  iocr : ∀ c, st'.iocr c = { st.iocr c with
    ppm := (st'.iocr c).ppm
    cmioStart := (st'.iocr c).cmioStart }
  cmioStart : ∀ c, (st'.iocr c).cmioStart = true → (st.iocr c).cmioStart = true
  foreign : ∀ c, c / PNET_MAX_CR ≠ a → st'.iocr c = st.iocr c
  connections : st'.connections = st.connections
  connection : st'.connection = st.connection

/-- The machines that are told after CMSU. -/
theorem heard_of_told {st1 : Stack}
    (hprep : Prepared (st.note (.event (st.connection a) event)) a st1) (htold : Told st1 a st')
    (hnotes : st'.notes = st1.notes)
    (hcmio : (st'.ar a).cmioState = (st1.ar a).cmioState.next event) : Heard st a event st' := by
  have har : st1.ar = st.ar := by
    rw [hprep.same]
    rfl
  refine ⟨?_, ?_, ?_, ?_, ?_, ?_, ?_, ?_⟩
  · rw [hnotes, hprep.same]
    rfl
  · intro a' ha'
    rw [htold.others a' ha', har]
  · have h := htold.ar
    rw [har] at h hcmio
    rw [← hcmio]
    exact h
  · intro c
    rw [(htold.start c).1]
    have h := hprep.iocr c
    rw [h]
    rfl
  · intro c h
    have h1 := (htold.start c).2 h
    rw [hprep.iocr c] at h1
    exact h1
  · intro c hc
    rw [htold.foreign hc, hprep.others c hc]
    rfl
  · rw [htold.connections, hprep.same]
    rfl
  · rw [htold.connection, hprep.same]
    rfl

/-- What an event that is no ABORT does. -/
structure Delivers (p : Kind → Prop) (sent : Prop) (st : Stack) (a : ℕ) (event : Event)
    (st' : Stack) : Prop where
  acts : Acts a st st'
  orderly : Orderly p sent st' a
  idle : event = .PNET_EVENT_DATA → timers.Idle st.sched .cmio a → timers.Idle st'.sched .cmio a
  outcome : Heard st a event st' ∨
    event = .PNET_EVENT_PRMEND ∧ Gone (st.note (.event (st.connection a) event)) a st'

theorem cmsuCmdevStateInd_spec (ht : timers.Tidy st.sched) (ho : Orderly p sent st a)
    (huse : (st.ar a).inUse = true) (hne : event ≠ .PNET_EVENT_ABORT)
    (hprm : event = .PNET_EVENT_PRMEND → AtRest st .cmio a)
    (h : st.cmsuCmdevStateInd abort a event clock = some st') :
    Activates p sent st a st' ∧ (event = .PNET_EVENT_PRMEND ∨ st' = st) := by
  have hsame (h : some st = some st') :
      Activates p sent st a st' ∧ (event = Event.PNET_EVENT_PRMEND ∨ st' = st) := by
    obtain rfl : st = st' := Option.some.inj h
    exact ⟨⟨.refl ht a, ho, .inl (.refl st a)⟩, .inr rfl⟩
  unfold cmsuCmdevStateInd at h
  cases hstate : (st.ar a).cmsuState with
  | PF_CMSU_STATE_IDLE => exact hsame (by rwa [hstate] at h)
  | PF_CMSU_STATE_STARTUP =>
    cases event with
    | PNET_EVENT_ABORT => exact absurd rfl hne
    | PNET_EVENT_STARTUP => exact hsame (by rwa [hstate] at h)
    | PNET_EVENT_PRMEND =>
      rw [hstate] at h
      exact ⟨cmsuPrmEnd_spec ht ho huse (hprm rfl) hstate h, .inl rfl⟩
    | PNET_EVENT_APPLRDY => exact hsame (by rwa [hstate] at h)
    | PNET_EVENT_DATA => exact hsame (by rwa [hstate] at h)
  | PF_CMSU_STATE_RUN =>
    cases event with
    | PNET_EVENT_ABORT => exact absurd rfl hne
    | PNET_EVENT_STARTUP => exact hsame (by rwa [hstate] at h)
    | PNET_EVENT_PRMEND => exact hsame (by rwa [hstate] at h)
    | PNET_EVENT_APPLRDY => exact hsame (by rwa [hstate] at h)
    | PNET_EVENT_DATA => exact hsame (by rwa [hstate] at h)
  | PF_CMSU_STATE_ABORT => exact hsame (by rwa [hstate] at h)

theorem cmdevStateInd_spec (ht : timers.Tidy st.sched) (ho : Orderly p sent st a)
    (huse : (st.ar a).inUse = true) (h : st.cmdevStateInd a event clock = some st')
    (hne : event ≠ .PNET_EVENT_ABORT) (hearly : (st.ar a).cmdevState ≠ .PF_CMDEV_STATE_W_PEIND)
    (hstart : event = .PNET_EVENT_STARTUP → timers.Named st.sched .cmsm a)
    (hprm : event = .PNET_EVENT_PRMEND → AtRest st .cmio a) :
    Delivers p sent st a event st' := by
  rcases Option.bind_eq_some_iff.mp h with ⟨st1, h1, h⟩
  rcases Option.bind_eq_some_iff.mp h with ⟨st2, h2, h⟩
  rcases Option.map_eq_some_iff.mp h with ⟨st3, h3, rfl⟩
  have hcmrpc : st3.cmrpcCmdevStateInd a event = st3 := by
    cases event with
    | PNET_EVENT_ABORT => exact absurd rfl hne
    | PNET_EVENT_STARTUP => rfl
    | PNET_EVENT_PRMEND => rfl
    | PNET_EVENT_APPLRDY => rfl
    | PNET_EVENT_DATA => rfl
  rw [hcmrpc]
  have ht0 : timers.Tidy (st.note (.event (st.connection a) event)).sched := ht
  have ho0 : Orderly p sent (st.note (.event (st.connection a) event)) a :=
    ho.congr rfl rfl ho.early fun k i hk =>
      .of_fields hk rfl rfl rfl (fun _ => rfl) (fun _ => rfl) (fun _ => ⟨rfl, .rfl, rfl⟩)
        (fun _ => ⟨rfl, rfl, rfl⟩) fun _ => .rfl
  have hacts0 : Acts a st (st.note (.event (st.connection a) event)) :=
    .of_within ht0 (.refl _ _) (fun _ _ => rfl) (fun _ _ => rfl) fun _ _ => rfl
  rcases cmsuCmdevStateInd_spec ht0 ho0 huse hne hprm h1 with ⟨hcmsu, hquiet⟩
  rcases hcmsu.outcome with hprep | hgone
  · have har : st1.ar = st.ar := by
      rw [hprep.same]
      rfl
    have hnamed (hs : event = Event.PNET_EVENT_STARTUP) : timers.Named st1.sched .cmsm a := by
      rcases hquiet with hprm' | rfl
      · rw [hs] at hprm'
        cases hprm'
      · exact hstart hs
    have hcmio := cmioCmdevStateInd_does hcmsu.acts.tidy hcmsu.orderly (by rwa [har]) hne
      (by rwa [har]) h2
    have huse2 : (st2.ar a).inUse = true := by
      rw [hcmio.told.ar, har]
      exact huse
    have hnamed2 (hs : event = Event.PNET_EVENT_STARTUP) : timers.Named st2.sched .cmsm a :=
      (hcmio.named _ _ (by rintro ⟨h, -⟩; cases h)).mpr (hnamed hs)
    have hcmsm := cmsmCmdevStateInd_does hcmio.acts.tidy hcmio.orderly huse2 hne hnamed2 h3
    refine ⟨((hacts0.trans hcmsu.acts).trans hcmio.acts).trans hcmsm.acts, hcmsm.orderly,
      fun hdata hidle => ?_, .inl (heard_of_told hprep (hcmio.told.trans hcmsm.told) (hcmsm.notes.trans hcmio.notes)
        (hcmsm.cmio.trans hcmio.cmio))⟩
    rcases hquiet with hprm' | rfl
    · rw [hdata] at hprm'
      cases hprm'
    · rw [hcmsm.within.idle (by rintro ⟨h, -⟩; cases h)]
      exact hcmio.idle (by rw [hdata]; decide) hidle
  · -- a PPM has failed: CMIO and CMSM are those of a zeroed AR
    have hevent : event = Event.PNET_EVENT_PRMEND := by
      rcases hquiet with hprm' | rfl
      · exact hprm'
      · exact absurd (hgone.inUse.symm.trans huse) Bool.false_ne_true
    subst hevent
    have h2' : st1.cmioCmdevStateInd a .PNET_EVENT_PRMEND (clock (2 * PNET_MAX_CR)) = some st1 := by
      unfold cmioCmdevStateInd
      rw [hgone.ar]
      rfl
    obtain rfl : st1 = st2 := Option.some.inj (h2'.symm.trans h2)
    have h3' : st1.cmsmCmdevStateInd a .PNET_EVENT_PRMEND (clock (2 * PNET_MAX_CR + 1)) =
        some st1 := by
      unfold cmsmCmdevStateInd
      rw [hgone.ar]
      rfl
    obtain rfl : st1 = st3 := Option.some.inj (h3'.symm.trans h3)
    exact ⟨hacts0.trans hcmsu.acts, hcmsu.orderly, nofun, .inr ⟨rfl, hgone⟩⟩

end Stack

end PNet.LifeCycle
