import PNet.LifeCycle.Steps

/-! # Rounds of the tick and the order of the ARs

A call-back finds its timer gone from the queue. All of them but that of CMIO reset their handle
first; CMIO's may refer to the entry of the timer that has expired, which makes no difference
(`cmioTimerExpired_reset`).
-/

namespace PNet.LifeCycle

open Scheduler

variable {p : Kind → Prop} {sent : Prop} {st st' : Stack} {a c k i : ℕ} {kind : Kind} {s s0 s1 : St}
  {tick now : Time} {env : Apms.Driver}

/-- The timer of a slot has expired. -/
structure Fired (p : Kind → Prop) (st : Stack) (kind : Kind) (i : ℕ) (s : St) : Prop where
  tidy : timers.Tidy s
  within : timers.Within (Family.only kind i) st.sched s
  named : timers.Named s kind i ↔ timers.Named st.sched kind i
  idle : p kind → timers.Idle s kind i
  alive : p kind → ¬ AtRest st kind i
  free : s.free < PF_MAX_TIMEOUTS

theorem Good.fired (h : Good p sent st) (he : expired st.sched tick = true)
    (hs : moveToFree st.sched st.sched.first = some s1)
    (hjob : (timerAt st.sched st.sched.first).job = timers.job kind i) :
    Fired p st kind i (pfSchedulerResetHandle s1 (timers.handle kind i)) := by
  rcases h.tidy.fire he hs hjob with ⟨ht, hw, hname, hruns, hfired⟩
  have hslot (hp : p kind) : timers.Armed st.sched kind i ∧ ¬ AtRest st kind i := by
    rcases ((h.orderly _).slots kind i rfl).timer hp with hidle | hrun
    · exact absurd hfired (hidle _)
    · exact hrun
  have hfree : s1.free < PF_MAX_TIMEOUTS := h.tidy.fire_free he hs kind
  refine ⟨ht, hw, hname, fun hp e hrun => ?_, fun hp => (hslot hp).2, hfree⟩
  rcases (hruns e).mp hrun with ⟨hold, hne⟩
  rcases (hslot hp).1 with ⟨e', -, hall⟩
  exact hne (((hall e).mp hold).trans ((hall _).mp hfired).symm)

/-- A machine that has no machine of a CR goes on without its timer. -/
theorem Good.lapse (h : Good p sent st) (hf : Fired p st kind i s)
    (hkind : p kind → kind = .cpm ∨ kind = .ppm ∧ sent → AtRest st kind i) :
    Good p sent { st with sched := s } :=
  h.sched hf.tidy hf.within hf.named.mpr (fun hp => .inl (hf.idle hp))
    fun hp hk hnot => absurd (hkind hp hk) hnot

theorem resetHandle_eq (st : Stack)
    (hs0 : pfSchedulerResetHandle s0 (timers.handle kind i) = s) :
    ({ st with sched := s0 } : Stack).resetHandle kind i = { st with sched := s } := by
  rw [← hs0]
  rfl

/-! ## CMSM and APMS -/

theorem cmsm_good (h : Good p sent st) (hf : Fired p st .cmsm a s)
    (hstops : p .cmio → ∀ a' ∈ callBackAborts st (.cmsm, a), NoTimer st .cmio a')
    (hs0 : pfSchedulerResetHandle s0 (timers.handle .cmsm a) = s)
    (hs : Stack.cmsmTimeout { st with sched := s0 } a = some st') : Good p sent st' := by
  have h1 : Good p sent { st with sched := s } :=
    h.lapse hf fun _ hk => by rcases hk with hk | ⟨hk, -⟩ <;> cases hk
  unfold Stack.cmsmTimeout at hs
  rw [resetHandle_eq st hs0] at hs
  dsimp only at hs
  by_cases hstate : (st.ar a).cmsmState = Rpc.CmsmState.PF_CMSM_STATE_RUN
  · rw [if_pos hstate] at hs
    rcases Option.map_eq_some_iff.mp hs with ⟨st1, hst1, rfl⟩
    have hnot : ¬ AtRest st .cmsm a := by
      dsimp only [AtRest]
      rw [hstate]
      decide
    have huse : (st.ar a).inUse = true := ((h.orderly a).slots .cmsm a rfl).used hnot
    have hpoll (hp : p .cmio) : timers.Idle s .cmio a := by
      rw [hf.within.idle (by rintro ⟨h, -⟩; cases h)]
      exact (noTimer_iff st .cmio a).mp (hstops hp a (if_pos hstate))
    refine (h1.aborted huse hpoll hst1).setAr _ rfl rfl rfl rfl ?_ ?_
    · rw [(Stack.abort_gone h1.tidy huse hst1).ar]
      rfl
    · exact ((h1.aborted huse hpoll hst1).orderly a).early
  · rw [if_neg hstate] at hs
    obtain rfl := Option.some.inj hs
    exact h1

theorem apmx_good (h : Good p sent st) (hf : Fired p st .apmx k s)
    (hstops : p .cmio → ∀ a ∈ callBackAborts st (.apmx, k), NoTimer st .cmio a)
    (hs0 : pfSchedulerResetHandle s0 (timers.handle .apmx k) = s)
    (hs : Stack.apmsTimeout { st with sched := s0 } k tick env = some st') : Good p sent st' := by
  have h1 : Good p sent { st with sched := s } :=
    h.lapse hf fun _ hk => by rcases hk with hk | ⟨hk, -⟩ <;> cases hk
  unfold Stack.apmsTimeout at hs
  rw [resetHandle_eq st hs0] at hs
  dsimp only at hs
  by_cases hstate : (st.apmx k).apmsState = Alarm.ApmsState.PF_APMS_STATE_WTACK
  · rw [if_pos hstate] at hs
    have hnot : ¬ AtRest st .apmx k := by
      dsimp only [AtRest]
      rw [hstate]
      decide
    have hslot := (h.orderly _).slots .apmx k rfl
    cases hrta : (st.apmx k).rta with
    | none =>
      rw [hrta] at hs
      obtain rfl := Option.some.inj hs
      exact h1
    | some pdu =>
      rw [hrta] at hs
      by_cases hcounter : 0 < (st.apmx k).resendCounter
      · -- the PDU is sent again
        rcases Option.map_eq_some_iff.mp ((if_pos hcounter).symm.trans hs) with ⟨r, hr, rfl⟩
        rcases Option.map_eq_some_iff.mp hr with ⟨q, hq, rfl⟩
        rcases hf.tidy.add (hf.named.mpr (hslot.named hnot)) hq with ⟨ht, hw, hname, hadd⟩
        refine h.apmx ht (hf.within.trans hw) (fun _ => hname) ?_ fun hp => ?_
        · exact .rfl
        · rcases hadd (hf.idle hp) with ⟨-, harmed⟩ | ⟨-, hidle⟩
          · exact .inr ⟨harmed, hnot⟩
          · exact .inl hidle
      · have hs := (if_neg hcounter).symm.trans hs
        refine (h1.setApmx k _ ?_).aborted (hslot.used hnot) (fun hp => ?_) hs
        · exact iff_of_false nofun hnot
        · refine (hf.within.idle (by rintro ⟨h, -⟩; cases h)).mpr ?_
          exact (noTimer_iff st .cmio _).mp
            (hstops hp (k / 2) (if_pos ⟨hstate, Nat.eq_zero_of_not_pos hcounter⟩))
  · rw [if_neg hstate] at hs
    obtain rfl := Option.some.inj hs
    exact h1.setApmx k _ .rfl

/-! ## CPM -/

/-- A machine of a CR changes, and its timer. -/
theorem Good.cr (h : Good p sent st) {y : Iocr} (hkind : kind = .cpm ∨ kind = .ppm)
    (ht : timers.Tidy s) (hw : timers.Within (Family.only kind c) st.sched s)
    (htype : y.iocrType = (st.iocr c).iocrType)
    (hcpm : kind ≠ .cpm → y.cpm = (st.iocr c).cpm) (hppm : kind ≠ .ppm → y.ppm = (st.iocr c).ppm)
    (hself : InOrder p sent { st.setIocr c y with sched := s } kind c) :
    Good p sent { st.setIocr c y with sched := s } := by
  have hk : ofAr (c / PNET_MAX_CR) kind c := by
    rcases hkind with rfl | rfl
    · rfl
    · rfl
  refine h.acts (Stack.setIocr_acts hk rfl ht hw) ((h.orderly _).machine hk hw rfl ?_
    (h.orderly (c / PNET_MAX_CR)).early (fun k' i' hk' hne => ?_) hself)
  · rintro rfl
    rcases hkind with hkind | hkind <;> cases hkind
  · refine Stack.setIocr_sameMachine st s hk' htype ?_ ?_
    · rintro rfl rfl
      rw [hcpm fun hkind => hne ⟨hkind.symm, rfl⟩]
      exact ⟨.rfl, rfl⟩
    · rintro rfl rfl
      rw [hppm fun hkind => hne ⟨hkind.symm, rfl⟩]
      exact ⟨rfl, rfl⟩

/-- The machine stays as it is, with a new timer. -/
theorem InOrder.again (h : InOrder p sent st kind i) (hm : SameMachine st st' kind i)
    (hname : timers.Named st.sched kind i → timers.Named st'.sched kind i)
    (harmed : p kind → timers.Armed st'.sched kind i ∧ ¬ AtRest st kind i) :
    InOrder p sent st' kind i := by
  constructor
  · rw [hm.atRest]
    exact fun hnot => hname (h.named hnot)
  · rw [hm.atRest, hm.inUse]
    exact h.used
  · rw [hm.atRest, hm.closes]
    exact h.closes
  · rw [hm.running, hm.atRest]
    exact h.running
  · rw [hm.atRest]
    exact fun hp => .inr (harmed hp)
  · exact fun hp _ _ => (harmed hp).1

theorem controlIntervalExpired_same {x : Cyclic.Cpm}
    (h : ¬ (x.state = .PF_CPM_STATE_RUN ∧ x.dataHoldFactor ≤ x.dht)) :
    (x.controlIntervalExpired.state = .PF_CPM_STATE_W_START ↔ x.state = .PF_CPM_STATE_W_START) ∧
      x.controlIntervalExpired.ciRunning = x.ciRunning := by
  unfold Cyclic.Cpm.controlIntervalExpired
  split
  · cases hstate : x.state with
    | PF_CPM_STATE_W_START => exact ⟨iff_of_true hstate rfl, rfl⟩
    | PF_CPM_STATE_FRUN =>
      refine ⟨iff_of_false ?_ nofun, rfl⟩
      dsimp only
      rw [hstate]
      decide
    | PF_CPM_STATE_RUN =>
      dsimp only
      rw [if_neg fun hle => h ⟨hstate, hle⟩]
      exact ⟨.rfl, rfl⟩
  · exact ⟨.rfl, rfl⟩

/-- What CMIO does when a CPM has lost its controller. -/
theorem cmioCpmStateInd_stop (st : Stack) (c : ℕ) :
    st.cmioCpmStateInd (c / PNET_MAX_CR) (c % PNET_MAX_CR) false = some st ∨
      st.cmioCpmStateInd (c / PNET_MAX_CR) (c % PNET_MAX_CR) false =
        some (st.setIocr c { st.iocr c with cmioStart := false }) ∨
      st.cmioCpmStateInd (c / PNET_MAX_CR) (c % PNET_MAX_CR) false = st.abort (c / PNET_MAX_CR) ∧
        ((st.ar (c / PNET_MAX_CR)).cmioState = CmioState.PF_CMIO_STATE_STARTUP ∨
          (st.ar (c / PNET_MAX_CR)).cmioState = CmioState.PF_CMIO_STATE_DATA) := by
  unfold Stack.cmioCpmStateInd
  rw [crOf_eq]
  cases (st.ar (c / PNET_MAX_CR)).cmioState with
  | PF_CMIO_STATE_IDLE => exact .inl rfl
  | PF_CMIO_STATE_STARTUP =>
    by_cases hlegacy : (st.ar (c / PNET_MAX_CR)).startupMode = false
    · exact .inr (.inr ⟨if_pos ⟨hlegacy, rfl⟩, .inl rfl⟩)
    · exact .inl (if_neg fun h => hlegacy h.1)
  | PF_CMIO_STATE_WDATA =>
    by_cases hlt : c % PNET_MAX_CR < (st.ar (c / PNET_MAX_CR)).nbrIocrs
    · exact .inr (.inl (if_pos hlt))
    · exact .inl (if_neg hlt)
  | PF_CMIO_STATE_DATA => exact .inr (.inr ⟨rfl, .inr rfl⟩)

/-- The CR, after its CPM has stopped. -/
theorem Good.cpmStopped (h : Good p sent st) (hf : Fired p st .cpm c s) {y : Iocr}
    (htype : y.iocrType = (st.iocr c).iocrType) (hppm : y.ppm = (st.iocr c).ppm)
    (hstate : y.cpm.state = .PF_CPM_STATE_W_START) (hrunning : y.cpm.ciRunning = false) :
    Good p sent { st.setIocr c y with sched := s } := by
  have hself : ({ st.setIocr c y with sched := s } : Stack).iocr c = y := Function.update_self _ _ _
  refine h.cr (.inl rfl) hf.tidy hf.within htype (absurd rfl) (fun _ => hppm) (.of_rest ?_ ?_ hf.idle)
  · dsimp only [AtRest]
    rw [hself]
    exact hstate
  · dsimp only [Running]
    rw [hself, hrunning]
    exact Bool.false_ne_true

/-- The CPM has lost its controller, and that aborts the AR. -/
theorem Good.cpmAborted (h : Good p sent st) (hf : Fired p st .cpm c s) {y : Iocr}
    (htype : y.iocrType = (st.iocr c).iocrType) (hppm : y.ppm = (st.iocr c).ppm)
    (huse : (st.ar (c / PNET_MAX_CR)).inUse = true)
    (hpoll : p .cmio → timers.Idle st.sched .cmio (c / PNET_MAX_CR))
    (hs : Stack.abort { st.setIocr c y with sched := s } (c / PNET_MAX_CR) = some st') :
    Good p sent st' ∧ (st'.iocr c).cpm.state = Cyclic.CpmState.PF_CPM_STATE_W_START := by
  have hk : ofAr (c / PNET_MAX_CR) .cpm c := rfl
  have hacts : Acts (c / PNET_MAX_CR) st { st.setIocr c y with sched := s } :=
    Stack.setIocr_acts hk rfl hf.tidy hf.within
  have hstops (k : Kind) (i : ℕ) (hp : p k) (hki : ofAr (c / PNET_MAX_CR) k i) :
      timers.Idle s k i ∨ Closes { st.setIocr c y with sched := s } k i ∧ timers.Settled s k i := by
    by_cases hne : k = Kind.cpm ∧ i = c
    · rcases hne with ⟨rfl, rfl⟩
      exact .inl (hf.idle hp)
    · have hm : SameMachine st { st.setIocr c y with sched := s } k i := by
        refine Stack.setIocr_sameMachine st s hki htype (fun hkind hi => absurd ⟨hkind, hi⟩ hne) ?_
        rintro rfl rfl
        rw [hppm]
        exact ⟨rfl, rfl⟩
      rcases (h.orderly _).stops hpoll hp hki with hidle | ⟨hcloses, hsettled⟩
      · exact .inl ((hf.within.idle hne).mpr hidle)
      · exact .inr ⟨hm.closes.mpr hcloses, (hf.within.settled hne).mpr hsettled⟩
  have huse' : (({ st.setIocr c y with sched := s } : Stack).ar (c / PNET_MAX_CR)).inUse = true :=
    huse
  rcases Stack.abort_orderly hacts.tidy huse' hstops hs with ⟨hacts', horder, -⟩
  refine ⟨h.acts (hacts.trans hacts') horder, ?_⟩
  rcases Stack.abort_gone hacts.tidy huse' hs with ⟨s', rfl⟩
  show (if c / PNET_MAX_CR = c / PNET_MAX_CR then Iocr.zero else _).cpm.state = _
  rw [if_pos rfl]
  rfl

theorem cpm_good (h : Good p sent st) (hf : Fired p st .cpm c s)
    (hstops : p .cmio → ∀ a ∈ callBackAborts st (.cpm, c), NoTimer st .cmio a)
    (hs0 : pfSchedulerResetHandle s0 (timers.handle .cpm c) = s)
    (hs : Stack.cpmControlIntervalExpired { st with sched := s0 } c now = some st') :
    Good p sent st' := by
  have hslot := (h.orderly _).slots .cpm c rfl
  unfold Stack.cpmControlIntervalExpired at hs
  rw [resetHandle_eq st hs0] at hs
  dsimp only at hs
  by_cases hci : (st.iocr c).cpm.ciRunning = false
  · rw [if_pos hci] at hs
    obtain rfl := Option.some.inj hs
    refine h.lapse hf fun _ _ => ?_
    by_contra hnot
    exact Bool.false_ne_true (hci.symm.trans (hslot.running.mpr hnot))
  · rw [if_neg hci] at hs
    have hrunning : (st.iocr c).cpm.ciRunning = true := Bool.eq_true_of_not_eq_false hci
    have hnot : ¬ AtRest st .cpm c := hslot.running.mp hrunning
    by_cases hdht : (st.iocr c).cpm.state = Cyclic.CpmState.PF_CPM_STATE_RUN ∧
        (st.iocr c).cpm.dataHoldFactor ≤ (st.iocr c).cpm.dht
    · rw [if_pos hdht] at hs
      rcases Option.map_eq_some_iff.mp hs with ⟨st2, hst2, rfl⟩
      -- the CR before CMIO is told
      obtain ⟨y, hy⟩ : ∃ y, y = { st.iocr c with
          cpm := { (st.iocr c).cpm with dht := 0, ciRunning := false } } := ⟨_, rfl⟩
      have hst1 : ({ st with sched := s } : Stack).setCpm c
          { (st.iocr c).cpm with dht := 0, ciRunning := false } =
            { st.setIocr c y with sched := s } := by
        rw [hy]
        rfl
      rw [hst1] at hst2
      have hself : ({ st.setIocr c y with sched := s } : Stack).iocr c = y :=
        Function.update_self _ _ _
      have hagain (z w : Iocr) : Stack.setIocr { st.setIocr c z with sched := s } c w =
          { st.setIocr c w with sched := s } := by
        unfold Stack.setIocr
        dsimp only
        rw [Function.update_idem]
      rcases cmioCpmStateInd_stop { st.setIocr c y with sched := s } c with hq | hq | ⟨hq, hcmio⟩
      · obtain rfl := Option.some.inj (hq.symm.trans hst2)
        unfold Stack.setCpm
        rw [hagain, hself, hy]
        exact h.cpmStopped hf rfl rfl rfl rfl
      · obtain rfl := Option.some.inj (hq.symm.trans hst2)
        rw [hagain, hself]
        have hself' : ({ st.setIocr c { y with cmioStart := false } with sched := s } : Stack).iocr c =
          { y with cmioStart := false } := Function.update_self _ _ _
        unfold Stack.setCpm
        rw [hagain, hself', hy]
        exact h.cpmStopped hf rfl rfl rfl rfl
      · have hpoll (hp : p .cmio) : timers.Idle st.sched .cmio (c / PNET_MAX_CR) := by
          rcases hcmio with hstart | hdata
          · exact h.idle_of_rest (.inr hstart) hp
          · exact (noTimer_iff st .cmio _).mp
              (hstops hp _ (if_pos ⟨hrunning, hdht.1, hdht.2, hdata⟩))
        rcases h.cpmAborted hf (by rw [hy]; rfl) (by rw [hy]) (hslot.used hnot) hpoll
          (hq.symm.trans hst2) with ⟨h2, hrest⟩
        exact h2.setIocr c _ rfl ⟨iff_of_true rfl hrest, rfl⟩ ⟨rfl, rfl⟩
    · rw [if_neg hdht] at hs
      rcases Option.bind_eq_some_iff.mp hs with ⟨r, hr, hs⟩
      rcases Option.map_eq_some_iff.mp hr with ⟨q, hq, rfl⟩
      rcases hf.tidy.add (hf.named.mpr (hslot.named hnot)) hq with ⟨ht, hw, hname, hadd⟩
      have hzero : q.1 = 0 := by
        rcases hf.tidy.add_room hq with ⟨-, hzero, -⟩ | ⟨hfull, -⟩
        · exact hzero
        · exact absurd hf.free hfull
      rw [if_pos hzero] at hs
      obtain rfl := Option.some.inj hs
      have hm : SameMachine st { st.setIocr c { st.iocr c with
          cpm := (st.iocr c).cpm.controlIntervalExpired } with sched := q.2 } .cpm c :=
        Stack.setIocr_sameMachine st q.2 rfl rfl
          (fun _ _ => controlIntervalExpired_same hdht) fun hkind => by cases hkind
      refine h.cr (.inl rfl) ht (hf.within.trans hw) rfl (absurd rfl) (fun _ => rfl)
        (hslot.again hm (fun _ => hname) fun hp => ⟨?_, hnot⟩)
      rcases hadd (hf.idle hp) with ⟨-, harmed⟩ | ⟨hneg, -⟩
      · exact harmed
      · exact absurd (hzero.symm.trans hneg) (by decide)

/-! ## PPM -/

theorem drvSwSend_same (x : Cyclic.Ppm) (inLength : BitVec 16) (now : BitVec 32)
    (sent added : Bool) :
    (x.drvSwSend inLength now sent added).2.2.state = x.state ∧
      (x.drvSwSend inLength now sent added).2.2.ciRunning = x.ciRunning := by
  unfold Cyclic.Ppm.drvSwSend
  split
  · dsimp only
    split
    · cases added
      · exact ⟨Cyclic.Ppm.finishBuffer_state _ _, Cyclic.Ppm.finishBuffer_ciRunning _ _⟩
      · exact ⟨Cyclic.Ppm.finishBuffer_state _ _, Cyclic.Ppm.finishBuffer_ciRunning _ _⟩
    · exact ⟨Cyclic.Ppm.finishBuffer_state _ _, Cyclic.Ppm.finishBuffer_ciRunning _ _⟩
  · exact ⟨rfl, rfl⟩

/-- A PPM that runs and can send starts its timer again. -/
theorem drvSwSend_delay {x : Cyclic.Ppm} (hrun : x.ciRunning = true) (inLength : BitVec 16)
    (now : BitVec 32) (added : Bool) : (x.drvSwSend inLength now true added).2.1 ≠ none := by
  unfold Cyclic.Ppm.drvSwSend
  rw [if_pos hrun]
  exact nofun

theorem ppm_good (h : Good p sent st) (hf : Fired p st .ppm c s)
    (htakes : p .ppm → sent → env.takes = true)
    (hs0 : pfSchedulerResetHandle s0 (timers.handle .ppm c) = s)
    (hs : Stack.ppmDrvSwSend { st with sched := s0 } c tick env.takes now = some st') :
    Good p sent st' := by
  have hslot := (h.orderly _).slots .ppm c rfl
  have hm (added : Bool) (s' : St) : SameMachine st { st.setIocr c { st.iocr c with
      ppm := ((st.iocr c).ppm.drvSwSend (st.iocr c).inLength tick env.takes added).2.2 }
      with sched := s' } .ppm c :=
    Stack.setIocr_sameMachine st s' rfl rfl (fun hkind => by cases hkind)
      fun _ _ => drvSwSend_same _ _ _ _ _
  unfold Stack.ppmDrvSwSend at hs
  rw [resetHandle_eq st hs0] at hs
  dsimp only at hs
  cases hdelay : ((st.iocr c).ppm.drvSwSend (st.iocr c).inLength tick env.takes true).2.1 with
  | none =>
    rw [hdelay] at hs
    obtain rfl := Option.some.inj hs
    refine h.cr (.inr rfl) hf.tidy hf.within rfl (fun _ => rfl) (absurd rfl) ?_
    constructor
    · rw [(hm false s).atRest]
      exact fun hnot => hf.named.mpr (hslot.named hnot)
    · rw [(hm false s).atRest]
      exact hslot.used
    · rw [(hm false s).atRest, (hm false s).closes]
      exact hslot.closes
    · rw [(hm false s).running, (hm false s).atRest]
      exact hslot.running
    · exact fun hp => .inl (hf.idle hp)
    · -- it has not been able to send
      rintro hp (hk | ⟨-, hsent⟩) -
      · cases hk
      · rw [htakes hp hsent] at hdelay
        exact absurd hdelay (drvSwSend_delay (hslot.running.mpr (hf.alive hp)) _ _ _)
  | some delay =>
    rw [hdelay] at hs
    rcases Option.bind_eq_some_iff.mp hs with ⟨r, hr, hs⟩
    rcases Option.map_eq_some_iff.mp hr with ⟨q, hq, rfl⟩
    have hzero : q.1 = 0 := by
      rcases hf.tidy.add_room hq with ⟨-, hzero, -⟩ | ⟨hfull, -⟩
      · exact hzero
      · exact absurd hf.free hfull
    rw [if_pos hzero] at hs
    obtain rfl := Option.some.inj hs
    -- a PPM that is at rest does not run
    have hnot : ¬ AtRest st .ppm c := by
      intro hrest
      have hrun : ¬ (st.iocr c).ppm.ciRunning = true := fun hrun => hslot.running.mp hrun hrest
      unfold Cyclic.Ppm.drvSwSend at hdelay
      rw [if_neg hrun] at hdelay
      cases hdelay
    rcases hf.tidy.add (hf.named.mpr (hslot.named hnot)) hq with ⟨ht, hw, hname, hadd⟩
    refine h.cr (.inr rfl) ht (hf.within.trans hw) rfl (fun _ => rfl) (absurd rfl)
      (hslot.again (hm _ q.2) (fun _ => hname) fun hp => ⟨?_, hnot⟩)
    rcases hadd (hf.idle hp) with ⟨-, harmed⟩ | ⟨hneg, -⟩
    · exact harmed
    · exact absurd (hzero.symm.trans hneg) (by decide)

/-! ## CMIO -/

theorem cmsuCmdevStateInd_data (st : Stack) (onError : Stack → ℕ → Option Stack) (a : ℕ)
    (clock : ℕ → Time) : st.cmsuCmdevStateInd onError a .PNET_EVENT_DATA clock = some st := by
  unfold Stack.cmsuCmdevStateInd
  cases (st.ar a).cmsuState <;> rfl

theorem cmioCmdevStateInd_data (st : Stack) (a : ℕ) (now : Time) :
    st.cmioCmdevStateInd a .PNET_EVENT_DATA now =
      if (st.ar a).cmioState = .PF_CMIO_STATE_WDATA then
        ((st.setShouldReschedule a false).removeIfRunning .cmio a).map fun st =>
          st.setCmioState a .PF_CMIO_STATE_DATA
      else some st := by
  unfold Stack.cmioCmdevStateInd
  cases (st.ar a).cmioState <;> rfl

theorem cmsmCmdevStateInd_data (st : Stack) (a : ℕ) (now : Time) :
    st.cmsmCmdevStateInd a .PNET_EVENT_DATA now =
      if (st.ar a).cmsmState = .PF_CMSM_STATE_RUN then
        (st.removeIfRunning .cmsm a).map fun st => st.setCmsmState a .PF_CMSM_STATE_IDLE
      else some st := by
  unfold Stack.cmsmCmdevStateInd
  cases (st.ar a).cmsmState <;> rfl

/-- The handle of CMIO refers to a free entry, or to none. -/
def Stale (st : Stack) (a : ℕ) : Prop :=
  pfSchedulerRemoveIfRunning st.sched (timers.handle .cmio a) = some st.sched

theorem resetHandle_stale (st : Stack) (a : ℕ) : Stale (st.resetHandle .cmio a) a := by
  have hrunning : pfSchedulerIsRunning (pfSchedulerResetHandle st.sched (timers.handle .cmio a))
      (timers.handle .cmio a) = false := by
    have hself : (pfSchedulerResetHandle st.sched (timers.handle .cmio a)).handles
        (timers.handle .cmio a) =
          { st.sched.handles (timers.handle .cmio a) with timerIndex := UINT32_MAX } :=
      Function.update_self _ _ _
    unfold pfSchedulerIsRunning
    rw [hself]
    rfl
  unfold Stale pfSchedulerRemoveIfRunning
  show (if pfSchedulerIsRunning (pfSchedulerResetHandle st.sched (timers.handle .cmio a))
    (timers.handle .cmio a) = true then _ else _) = _
  rw [hrunning]
  rfl

/-- CMIO has no timer to stop. -/
theorem Stale.cmio (h : Stale st a) : st.cmioCmdevStateInd a .PNET_EVENT_DATA now =
    some (if (st.ar a).cmioState = .PF_CMIO_STATE_WDATA then
      (st.setShouldReschedule a false).setCmioState a .PF_CMIO_STATE_DATA else st) := by
  rw [cmioCmdevStateInd_data]
  by_cases hstate : (st.ar a).cmioState = CmioState.PF_CMIO_STATE_WDATA
  · rw [if_pos hstate, if_pos hstate]
    have hremove : (st.setShouldReschedule a false).removeIfRunning .cmio a =
        some (st.setShouldReschedule a false) := by
      unfold Stack.removeIfRunning
      rw [show (st.setShouldReschedule a false).sched = st.sched from rfl, h]
      rfl
    rw [hremove]
    rfl
  · rw [if_neg hstate, if_neg hstate]

theorem cmsmCmdevStateInd_reset (st : Stack) (a : ℕ) (now : Time) :
    (st.resetHandle .cmio a).cmsmCmdevStateInd a .PNET_EVENT_DATA now =
      (st.cmsmCmdevStateInd a .PNET_EVENT_DATA now).map fun st => st.resetHandle .cmio a := by
  have hne : timers.handle .cmsm a ≠ timers.handle .cmio a := handle_ne _ _ _ _ (by decide)
  rw [cmsmCmdevStateInd_data, cmsmCmdevStateInd_data]
  by_cases hstate : (st.ar a).cmsmState = Rpc.CmsmState.PF_CMSM_STATE_RUN
  · rw [if_pos hstate]
    refine (if_pos hstate).trans ?_
    unfold Stack.removeIfRunning
    rw [show (st.resetHandle .cmio a).sched =
      pfSchedulerResetHandle st.sched (timers.handle .cmio a) from rfl,
      Family.removeIfRunning_resetHandle st.sched hne]
    cases pfSchedulerRemoveIfRunning st.sched (timers.handle .cmsm a) with
    | none => rfl
    | some s => rfl
  · rw [if_neg hstate]
    exact if_neg hstate

theorem cmdevStateInd_reset (h : Stale st a) (clock : ℕ → Time) :
    (st.resetHandle .cmio a).cmdevStateInd a .PNET_EVENT_DATA clock =
      (st.cmdevStateInd a .PNET_EVENT_DATA clock).map fun st => st.resetHandle .cmio a := by
  have hreset (st : Stack) (hst : Stale st a) (now : Time) :
      (st.resetHandle .cmio a).cmioCmdevStateInd a .PNET_EVENT_DATA now =
        (st.cmioCmdevStateInd a .PNET_EVENT_DATA now).map fun st => st.resetHandle .cmio a := by
    rw [(resetHandle_stale st a).cmio, hst.cmio, Option.map_some]
    refine congrArg some ?_
    by_cases hstate : (st.ar a).cmioState = CmioState.PF_CMIO_STATE_WDATA
    · rw [if_pos hstate]
      exact if_pos hstate
    · rw [if_neg hstate]
      exact if_neg hstate
  have hnote : Stale (st.note (.event (st.connection a) .PNET_EVENT_DATA)) a := h
  unfold Stack.cmdevStateInd Stack.cmdevStateIndWith
  rw [cmsuCmdevStateInd_data, cmsuCmdevStateInd_data, Option.bind_some, Option.bind_some]
  have hfirst := hreset _ hnote (clock (2 * PNET_MAX_CR))
  rw [show ((st.resetHandle .cmio a).note
    (.event ((st.resetHandle .cmio a).connection a) .PNET_EVENT_DATA)) =
      (st.note (.event (st.connection a) .PNET_EVENT_DATA)).resetHandle .cmio a from rfl, hfirst]
  cases (st.note (.event (st.connection a) .PNET_EVENT_DATA)).cmioCmdevStateInd a
      .PNET_EVENT_DATA (clock (2 * PNET_MAX_CR)) with
  | none => rfl
  | some st1 =>
    rw [Option.map_some, Option.bind_some, Option.bind_some, cmsmCmdevStateInd_reset]
    cases st1.cmsmCmdevStateInd a .PNET_EVENT_DATA (clock (2 * PNET_MAX_CR + 1)) with
    | none => rfl
    | some st2 => rfl

theorem add_reset (st : Stack) (a : ℕ) (delay now : Time) :
    (st.resetHandle .cmio a).add .cmio a delay now = st.add .cmio a delay now := by
  unfold Stack.add
  rw [show (st.resetHandle .cmio a).sched =
    pfSchedulerResetHandle st.sched (timers.handle .cmio a) from rfl]
  rw [Family.add_resetHandle]
  cases pfSchedulerAdd st.sched delay (timers.job .cmio a) (timers.handle .cmio a) now with
  | none => rfl
  | some r => rfl

theorem cmdevCmioInfoInd_reset (h : Stale st a) (dataPossible : Bool) (now : Time) :
    (st.resetHandle .cmio a).cmdevCmioInfoInd a dataPossible now =
      (st.cmdevCmioInfoInd a dataPossible now).map fun st => st.resetHandle .cmio a := by
  obtain ⟨ready, hready⟩ : ∃ ready,
      ready = st.setAr a { st.ar a with ready4Data := dataPossible } := ⟨_, rfl⟩
  have hstale : Stale ready a := by
    rw [hready]
    exact h
  have hdata := cmdevStateInd_reset hstale fun _ => now
  unfold Stack.cmdevCmioInfoInd
  dsimp only
  rw [← hready, show (st.resetHandle .cmio a).ar = st.ar from rfl,
    show (st.resetHandle .cmio a).setAr a { st.ar a with ready4Data := dataPossible } =
      ready.resetHandle .cmio a by rw [hready]; rfl, hdata]
  cases (st.ar a).cmdevState with
  | PF_CMDEV_STATE_W_ARDY => rfl
  | PF_CMDEV_STATE_W_ARDYCNF => rfl
  | PF_CMDEV_STATE_WDATA =>
    cases dataPossible with
    | false => rfl
    | true =>
      dsimp only
      rw [if_pos rfl, if_pos rfl]
      cases ready.cmdevStateInd a .PNET_EVENT_DATA fun _ => now with
      | none => rfl
      | some st1 => rfl
  | _ => rfl

/-- The call-back does the same with a handle that has been reset. -/
theorem cmioTimerExpired_reset (h : Stale st a) (now : Time) :
    (st.resetHandle .cmio a).cmioTimerExpired a now = st.cmioTimerExpired a now := by
  have hpossible : (st.resetHandle .cmio a).dataPossible a = st.dataPossible a := rfl
  unfold Stack.cmioTimerExpired
  rw [hpossible, cmdevCmioInfoInd_reset h]
  by_cases hcond : (st.ar a).cmioState = CmioState.PF_CMIO_STATE_WDATA ∧
      (st.ar a).cmioTimerShouldReschedule = true
  · rw [if_pos hcond]
    refine (if_pos hcond).trans ?_
    cases st.cmdevCmioInfoInd a (st.dataPossible a) now with
    | none => rfl
    | some st1 =>
      rw [Option.map_some, Option.bind_some, Option.bind_some, add_reset]
  · rw [if_neg hcond]
    refine (if_neg hcond).trans ?_
    refine congrArg some ?_
    unfold Stack.resetHandle Stack.setShouldReschedule Stack.setAr pfSchedulerResetHandle
      St.setHandle
    simp only [Function.update_self, Function.update_idem]

/-- The poll, between the expiry of its timer and the next one. -/
structure Polls (p : Kind → Prop) (sent : Prop) (a : ℕ) (st : Stack) : Prop where
  good : Good p sent st
  idle : p .cmio → timers.Idle st.sched .cmio a
  inUse : (st.ar a).inUse = true
  works : ¬ AtRest st .cmio a

theorem cmdevCmioInfoInd_polls (h : Polls p sent a st) {dataPossible : Bool}
    (hstate : (st.ar a).cmioState = .PF_CMIO_STATE_WDATA)
    (hs : st.cmdevCmioInfoInd a dataPossible now = some st') : Polls p sent a st' := by
  obtain ⟨ready, hready⟩ : ∃ ready,
      ready = st.setAr a { st.ar a with ready4Data := dataPossible } := ⟨_, rfl⟩
  have har : ready.ar a = { st.ar a with ready4Data := dataPossible } := by
    rw [hready, Stack.setAr_self]
  have hgood : Good p sent ready := by
    rw [hready]
    exact h.good.setAr _ rfl rfl rfl rfl rfl (h.good.orderly a).early
  have hidle : p .cmio → timers.Idle ready.sched .cmio a := by
    rw [hready]
    exact h.idle
  have huse : (ready.ar a).inUse = true := by
    rw [har]
    exact h.inUse
  have hcmio : (ready.ar a).cmioState = CmioState.PF_CMIO_STATE_WDATA := by
    rw [har]
    exact hstate
  have hpolls : Polls p sent a ready := by
    refine ⟨hgood, hidle, huse, ?_⟩
    dsimp only [AtRest]
    rw [hcmio]
    decide
  unfold Stack.cmdevCmioInfoInd at hs
  dsimp only at hs
  rw [← hready] at hs
  cases hcmdev : (st.ar a).cmdevState with
  | PF_CMDEV_STATE_W_ARDY =>
    rw [hcmdev] at hs
    obtain rfl : ready = st' := Option.some.inj hs
    exact hpolls
  | PF_CMDEV_STATE_W_ARDYCNF =>
    rw [hcmdev] at hs
    obtain rfl : ready = st' := Option.some.inj hs
    exact hpolls
  | PF_CMDEV_STATE_WDATA =>
    rw [hcmdev] at hs
    by_cases hpossible : dataPossible = true
    · rcases Option.map_eq_some_iff.mp ((if_pos hpossible).symm.trans hs) with ⟨st1, hst1, rfl⟩
      have hearly : (ready.ar a).cmdevState ≠ Rpc.CmdevState.PF_CMDEV_STATE_W_PEIND := by
        rw [har]
        show (st.ar a).cmdevState ≠ _
        rw [hcmdev]
        decide
      have hev := Stack.cmdevStateInd_spec hgood.tidy (hgood.orderly a) huse hst1 nofun hearly nofun
        nofun
      rcases hev.outcome with hheard | ⟨hprm, -⟩
      · refine ⟨(hgood.acts hev.acts hev.orderly).setCmdevState a _ nofun,
          fun hp => hev.idle rfl (hidle hp), ?_, ?_⟩
        · rw [Stack.setCmdevState_ar, hheard.ar]
          exact huse
        · dsimp only [AtRest]
          rw [Stack.setCmdevState_ar, hheard.ar, hcmio]
          rintro (hidle | hstart)
          · cases hidle
          · cases hstart
      · cases hprm
    · obtain rfl : ready = st' := Option.some.inj ((if_neg hpossible).symm.trans hs)
      exact hpolls
  | _ =>
    rw [hcmdev] at hs
    obtain rfl : st = st' := Option.some.inj hs
    exact h

theorem cmioTimerExpired_good (h : Good p sent st) (hidle : p .cmio → timers.Idle st.sched .cmio a)
    (hs : st.cmioTimerExpired a now = some st') : Good p sent st' := by
  unfold Stack.cmioTimerExpired at hs
  by_cases hcond : (st.ar a).cmioState = CmioState.PF_CMIO_STATE_WDATA ∧
      (st.ar a).cmioTimerShouldReschedule = true
  · rw [if_pos hcond] at hs
    rcases Option.bind_eq_some_iff.mp hs with ⟨st1, hst1, hs⟩
    rcases Option.map_eq_some_iff.mp hs with ⟨r, hr, rfl⟩
    have hnot : ¬ AtRest st .cmio a := by
      dsimp only [AtRest]
      rw [hcond.1]
      decide
    have hpoll : Polls p sent a st1 :=
      cmdevCmioInfoInd_polls ⟨h, hidle, ((h.orderly a).slots .cmio a rfl).used hnot, hnot⟩ hcond.1
        hst1
    rcases Stack.add_spec hpoll.good.tidy ((hpoll.good.orderly a).poll hpoll.inUse) hr with
      ⟨s, hr2, ht, hw, hname, hadd⟩
    rw [hr2]
    refine hpoll.good.sched ht hw (fun _ => hname) (fun hp => ?_)
      fun _ hk => by rcases hk with hk | ⟨hk, -⟩ <;> cases hk
    rcases hadd (hpoll.idle hp) with ⟨-, harmed⟩ | ⟨-, hidle⟩
    · exact .inr ⟨harmed, hpoll.works⟩
    · exact .inl hidle
  · rw [if_neg hcond] at hs
    obtain rfl := Option.some.inj hs
    have h1 : Good p sent (st.setShouldReschedule a false) :=
      h.setAr _ rfl rfl rfl rfl rfl (h.orderly a).early
    rcases h.tidy.resetHandle .cmio a with ⟨ht, hw, hname, hruns⟩
    exact h1.sched ht hw hname.mpr
      (fun hp => .inl fun e he => hidle hp e ((hruns e).mp he))
      fun _ hk => by rcases hk with hk | ⟨hk, -⟩ <;> cases hk

/-- The call-back of CMIO works on a state that is in order. -/
theorem Good.cmioFired (h : Good p sent st) (he : expired st.sched tick = true)
    (hs0 : moveToFree st.sched st.sched.first = some s0)
    (hjob : (timerAt st.sched st.sched.first).job = timers.job .cmio a) (now : Time) :
    ∃ s, Good p sent { st with sched := s } ∧ (p .cmio → timers.Idle s .cmio a) ∧
      Stack.cmioTimerExpired { st with sched := s0 } a now =
        Stack.cmioTimerExpired { st with sched := s } a now := by
  have halive : p .cmio → Kind.cmio = Kind.cpm ∨ Kind.cmio = Kind.ppm ∧ sent → AtRest st .cmio a :=
    fun _ hk => by rcases hk with hk | ⟨hk, -⟩ <;> cases hk
  rcases h.tidy.fire he hs0 hjob with ⟨-, -, -, -, hfired⟩
  by_cases hindex : (st.sched.handles (timers.handle .cmio a)).timerIndex = st.sched.first + 1
  · -- the handle refers to the entry of the timer that has expired
    have hstale : Stale { st with sched := s0 } a := by
      have hlt : st.sched.first < PF_MAX_TIMEOUTS := h.tidy.ix_lt hfired
      refine Family.removeIfRunning_stale hlt ?_ (moveToFree_inUse hs0)
      rw [(moveToFree_names hs0).2]
      exact hindex
    have hf := h.fired he hs0 hjob
    exact ⟨_, h.lapse hf halive, hf.idle, (cmioTimerExpired_reset hstale now).symm⟩
  · rcases h.tidy.fireKept he hs0 hjob hindex with ⟨ht, hw, hname, hruns⟩
    have hidle (hp : p .cmio) : timers.Idle s0 .cmio a := by
      rcases ((h.orderly a).slots .cmio a rfl).timer hp with hidle | ⟨⟨e, he', hall⟩, -⟩
      · exact absurd hfired (hidle _)
      · rw [← (hall _).mp hfired] at he'
        exact absurd he' hindex
    exact ⟨s0, h.sched ht hw hname.mpr (fun hp => .inl (hidle hp))
      fun hp hk hnot => absurd (halive hp hk) hnot, hidle, rfl⟩

theorem cmio_good (h : Good p sent st) (he : expired st.sched tick = true)
    (hs0 : moveToFree st.sched st.sched.first = some s0)
    (hjob : (timerAt st.sched st.sched.first).job = timers.job .cmio a)
    (hs : Stack.cmioTimerExpired { st with sched := s0 } a now = some st') : Good p sent st' := by
  rcases h.cmioFired he hs0 hjob now with ⟨s, h1, hidle, heq⟩
  exact cmioTimerExpired_good h1 hidle (heq.symm.trans hs)

/-! ## The round -/

/-- What a round may do. -/
inductive Rounded (st : Stack) (tick : Time) (env : Apms.Driver) (st' : Stack) : Prop where
  | waits (same : st' = st)
  /-- The timer is another user's. -/
  | foreign (s : St) (tidy : timers.Tidy s) (within : timers.Within Family.nothing st.sched s)
    (same : st' = { st with sched := s })
  | fired (k : Kind) (i : ℕ) (s : St) (expired : expired st.sched tick = true)
    (moved : moveToFree st.sched st.sched.first = some s)
    (job : (timerAt st.sched st.sched.first).job = timers.job k i)
    (fires : fires st tick = some (k, i))
    (back : Stack.callBack { st with sched := s } k i tick env = some st')

theorem round_cases (h : Good p sent st) (hs : st.round tick env = some st') :
    Rounded st tick env st' := by
  unfold Stack.round at hs
  by_cases he : expired st.sched tick = true
  · rw [if_pos he] at hs
    rcases Option.bind_eq_some_iff.mp hs with ⟨s0, hs0, hs⟩
    dsimp only at hs
    cases hkind : Kind.ofNum (st.sched.timeouts st.sched.first).job.cb with
    | none =>
      rw [hkind] at hs
      obtain rfl := Option.some.inj hs
      have hcb (k : Kind) : (timerAt st.sched st.sched.first).job.cb ≠ (timers.comp k).cb := by
        intro hcb
        have hnum : (st.sched.timeouts st.sched.first).job.cb = k.num := hcb
        rw [hnum, Kind.ofNum_num] at hkind
        cases hkind
      rcases h.tidy.fireForeign he hs0 hcb with ⟨ht, hw⟩
      exact .foreign s0 ht hw rfl
    | some k =>
      rw [hkind] at hs
      have hfires : fires st tick = some (k, (st.sched.timeouts st.sched.first).job.arg) := by
        unfold fires
        rw [if_pos he, hkind]
        rfl
      refine .fired k _ s0 he hs0 ?_ hfires hs
      show (st.sched.timeouts st.sched.first).job = ⟨k.num, _⟩
      rw [← Kind.ofNum_some hkind]
  · rw [if_neg he] at hs
    exact .waits (Option.some.inj hs).symm

theorem round_good (h : Good p sent st) (hstops : p .cmio → Stops st (.round tick env))
    (hsent : p .ppm → sent → Sent st (.round tick env))
    (hs : st.round tick env = some st') : Good p sent st' := by
  cases round_cases h hs with
  | waits same =>
    rw [same]
    exact h
  | foreign s tidy within same =>
    rw [same]
    exact ⟨tidy, fun a => (h.orderly a).untouched ⟨rfl, fun _ _ => rfl, fun _ _ => rfl,
      within.mono fun _ _ hn => hn.elim⟩⟩
  | fired k i s expired moved job fires back =>
    have hpoll (hp : p .cmio) : ∀ a ∈ callBackAborts st (k, i), NoTimer st .cmio a := by
      intro a ha
      refine hstops hp a ?_
      show a ∈ (PNet.LifeCycle.fires st tick).bind (callBackAborts st)
      rw [fires]
      exact ha
    have hf := h.fired expired moved job
    cases k with
    | cmio => exact cmio_good h expired moved job back
    | cmsm => exact cmsm_good h hf hpoll rfl back
    | cpm => exact cpm_good h hf hpoll rfl back
    | ppm => exact ppm_good h hf (fun hp hsent' => hsent hp hsent' _ fires rfl) rfl back
    | apmx => exact apmx_good h hf hpoll rfl back

end PNet.LifeCycle
