import PNet.LifeCycle.Events

/-! # Steps and the order of the ARs

What happens to an AR that is connected keeps all ARs in order (`Good`), on conditions that the
source does not meet in each run. Each is about the timers of one component:

* `Stops`: an ABORT does not stop the poll of CMIO, so it has to come when there is none.
* `Quiet`: APMS starts its timer without a look at the one it has.
* `Sent`: a PPM whose frame is not sent is not started again.
-/

namespace PNet.LifeCycle

open Scheduler
open Rpc (CmdevState)

/-! ## Conditions -/

/-- There is no pending timer. -/
def NoTimer (st : Stack) (k : Kind) (i : ℕ) : Prop := ∀ e ∈ pending st.sched, e.job ≠ timers.job k i

instance (st : Stack) (k : Kind) (i : ℕ) : Decidable (NoTimer st k i) := by
  unfold NoTimer
  infer_instance

theorem noTimer_iff (st : Stack) (k : Kind) (i : ℕ) :
    NoTimer st k i ↔ timers.Idle st.sched k i :=
  ⟨fun h e he => h e he.1 he.2, fun h e he hjob => h e ⟨he, hjob⟩⟩

/-- The timer that a round of the tick takes out of the queue. -/
def fires (st : Stack) (tick : Time) : Option (Kind × ℕ) :=
  let job := (st.sched.timeouts st.sched.first).job
  if expired st.sched tick then (Kind.ofNum job.cb).map fun k => (k, job.arg) else none

/-- The AR that a call-back aborts. -/
def callBackAborts (st : Stack) : Kind × ℕ → Option ℕ
  | (.cmsm, a) => if (st.ar a).cmsmState = .PF_CMSM_STATE_RUN then some a else none
  | (.cpm, c) =>
    let x := (st.iocr c).cpm
    if x.ciRunning = true ∧ x.state = .PF_CPM_STATE_RUN ∧ x.dataHoldFactor ≤ x.dht ∧
        (st.ar (c / PNET_MAX_CR)).cmioState = .PF_CMIO_STATE_DATA then some (c / PNET_MAX_CR)
    else none
  | (.apmx, k) =>
    if (st.apmx k).apmsState = .PF_APMS_STATE_WTACK ∧ (st.apmx k).resendCounter = 0 then some (k / 2)
    else none
  | _ => none

/-- The AR that a step aborts, when it has got through its start-up. -/
def aborts (st : Stack) : Step → Option ℕ
  | .connect (some r) _ _ _ => st.freeAr.bind fun _ => st.arFindByUuid r.arParam.arUuid
  | .ccontrolCnf a positive _ _ =>
    if (st.ar a).cmdevState = .PF_CMDEV_STATE_W_ARDYCNF ∧ positive = false then some a else none
  | .sendAlarm k _ _ => if (st.apmx k).apmsState ≠ .PF_APMS_STATE_OPEN then some (k / 2) else none
  | .abort a => some a
  | .round tick _ => (fires st tick).bind (callBackAborts st)
  | _ => none

/-- The step aborts no AR whose poll is pending. -/
def Stops (st : Stack) (e : Step) : Prop := ∀ a ∈ aborts st e, NoTimer st .cmio a

/-- The step sends no alarm with a resend timer pending. -/
def Quiet (st : Stack) : Step → Prop
  | .sendAlarm k _ _ => NoTimer st .apmx k
  | _ => True

/-- The frame of a PPM is sent. -/
def Sent (st : Stack) : Step → Prop
  | .round tick env => ∀ f ∈ fires st tick, f.1 = .ppm → env.takes = true
  | _ => True

instance (st : Stack) (e : Step) : Decidable (Stops st e) := by
  unfold Stops
  infer_instance

instance (st : Stack) (e : Step) : Decidable (Quiet st e) := by
  cases e <;> unfold Quiet <;> infer_instance

instance (st : Stack) (e : Step) : Decidable (Sent st e) := by
  cases e <;> unfold Sent <;> infer_instance

/-! ## What changes no timer -/

variable {p : Kind → Prop} {sent : Prop} {st st' : Stack} {a c k i : ℕ} {kind : Kind}
  {now : Time} {clock : ℕ → Time}

theorem Good.setAr (h : Good p sent st) (x : Ar) (huse : x.inUse = (st.ar a).inUse)
    (hcmsu : x.cmsuState = (st.ar a).cmsuState) (hnbr : x.nbrIocrs = (st.ar a).nbrIocrs)
    (hcmio : x.cmioState = (st.ar a).cmioState) (hcmsm : x.cmsmState = (st.ar a).cmsmState)
    (hearly : x.cmdevState = .PF_CMDEV_STATE_W_PEIND → AtRest st .cmio a) :
    Good p sent (st.setAr a x) :=
  h.acts (setAr_acts h.tidy a x) ((h.orderly a).ar x huse hcmsu hnbr hcmio hcmsm hearly)

theorem Good.setCmdevState (h : Good p sent st) (a : ℕ) (state : CmdevState)
    (hearly : state = .PF_CMDEV_STATE_W_PEIND → AtRest st .cmio a) :
    Good p sent (st.setCmdevState a state) :=
  h.setAr _ rfl rfl rfl rfl rfl hearly

theorem Good.note (h : Good p sent st) (x : Note) : Good p sent (st.note x) := by
  refine ⟨h.tidy, fun a => (h.orderly a).congr rfl rfl (h.orderly a).early fun k i hk => ?_⟩
  exact .of_fields hk rfl rfl rfl (fun _ => rfl) (fun _ => rfl) (fun _ => ⟨rfl, .rfl, rfl⟩)
    (fun _ => ⟨rfl, rfl, rfl⟩) fun _ => .rfl

theorem Good.setIocr (h : Good p sent st) (c : ℕ) (y : Iocr)
    (htype : y.iocrType = (st.iocr c).iocrType)
    (hcpm : (y.cpm.state = .PF_CPM_STATE_W_START ↔
      (st.iocr c).cpm.state = .PF_CPM_STATE_W_START) ∧
      y.cpm.ciRunning = (st.iocr c).cpm.ciRunning)
    (hppm : y.ppm.state = (st.iocr c).ppm.state ∧ y.ppm.ciRunning = (st.iocr c).ppm.ciRunning) :
    Good p sent (st.setIocr c y) := by
  refine ⟨h.tidy, fun a => (h.orderly a).congr rfl rfl (h.orderly a).early fun k i hk => ?_⟩
  exact Stack.setIocr_sameMachine st st.sched hk htype (fun _ _ => hcpm) fun _ _ => hppm

theorem Good.setApmx (h : Good p sent st) (k : ℕ) (y : Apmx)
    (hstate : y.apmsState = .PF_APMS_STATE_CLOSED ↔
      (st.apmx k).apmsState = .PF_APMS_STATE_CLOSED) :
    Good p sent (st.setApmx k y) := by
  refine ⟨h.tidy, fun a => (h.orderly a).congr rfl rfl (h.orderly a).early fun kind i hk => ?_⟩
  refine .of_fields hk rfl rfl rfl (fun _ => rfl) (fun _ => rfl) (fun _ => ⟨rfl, .rfl, rfl⟩)
    (fun _ => ⟨rfl, rfl, rfl⟩) fun _ => ?_
  by_cases hi : i = k
  · subst hi
    show (Function.update st.apmx i y i).apmsState = _ ↔ _
    rw [Function.update_self]
    exact hstate
  · show (Function.update st.apmx k y i).apmsState = _ ↔ _
    rw [Function.update_of_ne hi]

/-! ## Requests -/

theorem Good.aborted (h : Good p sent st) (huse : (st.ar a).inUse = true)
    (hpoll : p .cmio → timers.Idle st.sched .cmio a) (habort : st.abort a = some st') :
    Good p sent st' := by
  rcases Stack.abort_orderly h.tidy huse (fun k i => (h.orderly a).stops hpoll) habort with
    ⟨hacts, horder, -⟩
  exact h.acts hacts horder

/-- While CMIO is at rest, it polls nothing. -/
theorem Good.idle_of_rest (h : Good p sent st) (hrest : AtRest st kind i) (hp : p kind) :
    timers.Idle st.sched kind i := by
  rcases ((h.orderly _).slots kind i rfl).timer hp with hidle | ⟨-, hnot⟩
  · exact hidle
  · exact absurd hrest hnot

theorem abort_good (h : Good p sent st) (huse : (st.ar a).inUse = true)
    (hpoll : p .cmio → NoTimer st .cmio a)
    (hs : (st.setCmdevState a .PF_CMDEV_STATE_ABORT).abort a = some st') : Good p sent st' := by
  have h1 : Good p sent (st.setCmdevState a .PF_CMDEV_STATE_ABORT) := h.setCmdevState a _ nofun
  refine h1.aborted ?_ (fun hp => (noTimer_iff st .cmio a).mp (hpoll hp)) hs
  rw [Stack.setCmdevState_ar]
  exact huse

theorem dcontrol_good (h : Good p sent st) (huse : (st.ar a).inUse = true) {d : Dcontrol}
    (hs : st.cmdevRmDcontrolInd a d clock = some st') : Good p sent st' := by
  unfold Stack.cmdevRmDcontrolInd at hs
  by_cases hstate : (st.ar a).cmdevState = CmdevState.PF_CMDEV_STATE_W_PEIND
  · rw [if_pos hstate] at hs
    have hrest := (h.orderly a).early hstate
    by_cases hok : d.prmEnd = true ∧ d.accepted = true ∧ d.pdevOk = true
    · rw [if_pos hok] at hs
      have h1 : Good p sent (st.setCmdevState a .PF_CMDEV_STATE_W_ARDY) := h.setCmdevState a _ nofun
      by_cases hsession : d.sessionHasAr = true
      · have hs : (st.setCmdevState a .PF_CMDEV_STATE_W_ARDY).cmdevStateInd a .PNET_EVENT_PRMEND
            clock = some st' := (if_pos hsession).symm.trans hs
        have hrest1 : AtRest (st.setCmdevState a .PF_CMDEV_STATE_W_ARDY) .cmio a := by
          dsimp only [AtRest]
          rw [Stack.setCmdevState_ar]
          exact hrest
        have hev := Stack.cmdevStateInd_spec h1.tidy (h1.orderly a)
          (by rw [Stack.setCmdevState_ar]; exact huse) hs nofun
          (by rw [Stack.setCmdevState_ar]; exact nofun) nofun (fun _ => hrest1)
        exact h1.acts hev.acts hev.orderly
      · obtain rfl := Option.some.inj ((if_neg hsession).symm.trans hs)
        exact h1
    · rw [if_neg hok] at hs
      exact h.aborted huse (h.idle_of_rest hrest) hs
  · rw [if_neg hstate] at hs
    obtain rfl : st = st' := Option.some.inj hs
    exact h

theorem applicationReady_good (h : Good p sent st) (huse : (st.ar a).inUse = true)
    {dataAvail requested : Bool}
    (hs : st.cmdevCmCcontrolReq a dataAvail requested clock = some st') : Good p sent st' := by
  unfold Stack.cmdevCmCcontrolReq at hs
  by_cases hstate : (st.ar a).cmdevState = CmdevState.PF_CMDEV_STATE_W_ARDY ∧ dataAvail = true
  · rw [if_pos hstate] at hs
    rcases Option.map_eq_some_iff.mp hs with ⟨st1, hst1, rfl⟩
    have hev := Stack.cmdevStateInd_spec h.tidy (h.orderly a) huse hst1 nofun
      (by rw [hstate.1]; decide) nofun nofun
    have h1 := h.acts hev.acts hev.orderly
    by_cases hreq : requested = true
    · rw [if_pos hreq]
      exact h1.setCmdevState a _ nofun
    · rw [if_neg hreq]
      exact h1
  · rw [if_neg hstate] at hs
    obtain rfl : st = st' := Option.some.inj hs
    exact h

/-- DATA, in the two places that bring it. -/
theorem data_good (h : Good p sent st) (huse : (st.ar a).inUse = true)
    (hearly : (st.ar a).cmdevState ≠ .PF_CMDEV_STATE_W_PEIND)
    (hs : ((st.cmdevStateInd a .PNET_EVENT_DATA clock).map fun st =>
      st.setCmdevState a .PF_CMDEV_STATE_DATA) = some st') : Good p sent st' := by
  rcases Option.map_eq_some_iff.mp hs with ⟨st1, hst1, rfl⟩
  have hev := Stack.cmdevStateInd_spec h.tidy (h.orderly a) huse hst1 nofun hearly nofun nofun
  exact (h.acts hev.acts hev.orderly).setCmdevState a _ nofun

theorem ccontrolCnf_good (h : Good p sent st) (huse : (st.ar a).inUse = true)
    {positive done : Bool} (hstops : p .cmio → Stops st (.ccontrolCnf a positive done clock))
    (hs : st.cmdevRmCcontrolCnf a positive done clock = some st') : Good p sent st' := by
  unfold Stack.cmdevRmCcontrolCnf at hs
  by_cases hstate : (st.ar a).cmdevState = CmdevState.PF_CMDEV_STATE_W_ARDYCNF
  · rw [if_pos hstate] at hs
    cases positive with
    | true =>
      cases done with
      | true =>
        have h1 : Good p sent (st.note (.confirmed (st.connection a))) := h.note _
        by_cases hready : (st.ar a).ready4Data = true
        · exact data_good h1 huse (by show (st.ar a).cmdevState ≠ _; rw [hstate]; decide)
            ((if_pos hready).symm.trans hs)
        · obtain rfl := Option.some.inj ((if_neg hready).symm.trans hs)
          exact h1.setCmdevState a _ nofun
      | false =>
        obtain rfl : st = st' := Option.some.inj hs
        exact h
    | false =>
      exact abort_good h huse (fun hp => hstops hp a (if_pos ⟨hstate, rfl⟩)) hs
  · rw [if_neg hstate] at hs
    obtain rfl : st = st' := Option.some.inj hs
    exact h

theorem record_good (h : Good p sent st) (huse : (st.ar a).inUse = true)
    (hs : st.cmsmRestart a now = some st') : Good p sent st' := by
  unfold Stack.cmsmRestart at hs
  by_cases hstate : (st.ar a).cmsmState = Rpc.CmsmState.PF_CMSM_STATE_RUN
  · rw [if_pos hstate] at hs
    rcases Option.map_eq_some_iff.mp hs with ⟨r, hr, rfl⟩
    have hslot := (h.orderly a).slots .cmsm a rfl
    have hnot : ¬ AtRest st .cmsm a := by
      dsimp only [AtRest]
      rw [hstate]
      decide
    rcases Stack.restart_spec h.tidy (hslot.named hnot) hr with ⟨s, hr2, ht, hw, hname, hsettled⟩
    rw [hr2]
    have htold := Stack.sched_told st a s
    refine h.acts (Stack.told_acts ht htold (hw.mono Stack.only_cmsm))
      ((h.orderly a).cmsm huse htold rfl hw hname fun hp => ?_)
    exact (hsettled ((hslot.timer hp).imp_right And.left)).imp_right fun harmed => ⟨harmed, hnot⟩
  · rw [if_neg hstate] at hs
    obtain rfl : st = st' := Option.some.inj hs
    exact h

/-! ## Timers -/

/-- Only a timer changes; what the machine does then is another step. -/
theorem Good.sched (h : Good p sent st) {s : St} (ht : timers.Tidy s)
    (hw : timers.Within (Family.only kind i) st.sched s)
    (hname : timers.Named st.sched kind i → timers.Named s kind i)
    (hslot : p kind → timers.Idle s kind i ∨ timers.Armed s kind i ∧ ¬ AtRest st kind i)
    (halive : p kind → kind = .cpm ∨ kind = .ppm ∧ sent → ¬ AtRest st kind i →
      timers.Armed s kind i) : Good p sent { st with sched := s } := by
  have hm (k : Kind) (i : ℕ) (hk : ofAr (k.arOf i) k i) :
      SameMachine st { st with sched := s } k i :=
    .of_fields hk rfl rfl rfl (fun _ => rfl) (fun _ => rfl) (fun _ => ⟨rfl, .rfl, rfl⟩)
      (fun _ => ⟨rfl, rfl, rfl⟩) fun _ => .rfl
  refine ⟨ht, fun a => ⟨fun huse => ?_, (h.orderly a).early, fun k' i' hk' => ?_⟩⟩
  · by_cases hself : Family.only kind i .cmio a
    · rcases hself with ⟨rfl, rfl⟩
      exact hname ((h.orderly a).poll huse)
    · exact (hw.named hself).mpr ((h.orderly a).poll huse)
  · by_cases hself : Family.only kind i k' i'
    · rcases hself with ⟨rfl, rfl⟩
      have hs := (h.orderly _).slots k' i' hk'
      exact ⟨fun hn => hname (hs.named hn), hs.used, hs.closes, hs.running, hslot, halive⟩
    · exact ((h.orderly a).slots k' i' hk').congr (hm k' i' rfl) hw hself

/-- An APMX changes, and its timer. -/
theorem Good.apmx (h : Good p sent st) {y : Apmx} {s : St} (ht : timers.Tidy s)
    (hw : timers.Within (Family.only .apmx k) st.sched s)
    (hname : timers.Named st.sched .apmx k → timers.Named s .apmx k)
    (hstate : y.apmsState = .PF_APMS_STATE_CLOSED ↔
      (st.apmx k).apmsState = .PF_APMS_STATE_CLOSED)
    (hslot : p .apmx → timers.Idle s .apmx k ∨ timers.Armed s .apmx k ∧ ¬ AtRest st .apmx k) :
    Good p sent { st.setApmx k y with sched := s } := by
  have h1 : Good p sent { st with sched := s } :=
    h.sched ht hw hname hslot fun _ hk => by rcases hk with hk | ⟨hk, -⟩ <;> cases hk
  exact h1.setApmx k y hstate

theorem sendAlarm_good (h : Good p sent st) (huse : (st.ar (k / 2)).inUse = true)
    {alarm : Option Alarm.AlarmData} {env : Apms.Driver}
    (hstops : p .cmio → Stops st (.sendAlarm k alarm env))
    (hquiet : p .apmx → Quiet st (.sendAlarm k alarm env))
    (hs : st.apmsApmsADataReq k alarm env = some st') : Good p sent st' := by
  unfold Stack.apmsApmsADataReq at hs
  dsimp only at hs
  by_cases hopen : (st.apmx k).apmsState ≠ Alarm.ApmsState.PF_APMS_STATE_OPEN
  · rw [if_pos hopen] at hs
    exact h.aborted huse (fun hp => (noTimer_iff st .cmio _).mp (hstops hp _ (if_pos hopen))) hs
  · rw [if_neg hopen] at hs
    have hstate : (st.apmx k).apmsState = Alarm.ApmsState.PF_APMS_STATE_OPEN := Decidable.not_not.mp hopen
    have hnot : ¬ AtRest st .apmx k := by
      dsimp only [AtRest]
      rw [hstate]
      decide
    have hslot := (h.orderly _).slots .apmx k rfl
    rcases Option.map_eq_some_iff.mp hs with ⟨r, hr, rfl⟩
    rcases Option.map_eq_some_iff.mp hr with ⟨q, hq, rfl⟩
    rcases h.tidy.add (hslot.named hnot) hq with ⟨ht, hw, hname, hadd⟩
    refine h.apmx ht hw (fun _ => hname) (iff_of_false nofun hnot) fun hp => ?_
    rcases hadd ((noTimer_iff st .apmx k).mp (hquiet hp)) with ⟨-, harmed⟩ | ⟨-, hidle⟩
    · exact .inr ⟨harmed, hnot⟩
    · exact .inl hidle

theorem alarmFrame_good (h : Good p sent st) (k : ℕ) (pduType : Byte) (ackSeqNbr : BitVec 16) :
    Good p sent (st.setApmx k ((st.apmx k).apmsDataInd pduType ackSeqNbr)) := by
  refine h.setApmx k _ ?_
  unfold Apms.Sender.apmsDataInd
  split
  · split
    · next hw =>
      refine iff_of_false nofun ?_
      rw [hw.1]
      decide
    · exact .rfl
  · exact .rfl

theorem call_good (h : Good p sent st) {call : Call} (hf : timers.Foreign call) {s : St}
    (hs : doCall st.sched call = some s) : Good p sent { st with sched := s } := by
  rcases h.tidy.foreign hf hs with ⟨ht, hw⟩
  exact ⟨ht, fun a => (h.orderly a).untouched ⟨rfl, fun _ _ => rfl, fun _ _ => rfl,
    hw.mono fun _ _ hn => hn.elim⟩⟩

/-! ## Frames -/

theorem cDataInd_atRest (x : Cyclic.Cpm) (f : Cyclic.Frame) (frameIdPos : BitVec 16) :
    ((x.cDataInd f frameIdPos).state = .PF_CPM_STATE_W_START ↔ x.state = .PF_CPM_STATE_W_START) ∧
      (x.cDataInd f frameIdPos).ciRunning = x.ciRunning := by
  unfold Cyclic.Cpm.cDataInd
  cases hstate : x.state with
  | PF_CPM_STATE_W_START => exact ⟨.rfl, rfl⟩
  | PF_CPM_STATE_FRUN =>
    dsimp only
    split
    · exact ⟨.rfl, rfl⟩
    · split
      · refine ⟨iff_of_false nofun nofun, ?_⟩
        dsimp only
        split <;> rfl
      · exact ⟨.rfl, rfl⟩
  | PF_CPM_STATE_RUN =>
    dsimp only
    split
    · exact ⟨.rfl, rfl⟩
    · split
      · refine ⟨iff_of_false nofun nofun, ?_⟩
        dsimp only
        split <;> rfl
      · exact ⟨.rfl, rfl⟩

theorem setCmioStart_good (h : Good p sent st) (c : ℕ) (start : Bool) :
    Good p sent (st.setIocr c { st.iocr c with cmioStart := start }) :=
  h.setIocr c _ rfl ⟨.rfl, rfl⟩ ⟨rfl, rfl⟩

theorem cmioCpmNewDataInd_good (h : Good p sent st) (a crep : ℕ) (newData : Bool) :
    Good p sent (st.cmioCpmNewDataInd a crep newData) := by
  unfold Stack.cmioCpmNewDataInd
  split
  · exact setCmioStart_good h _ _
  · exact h

/-- A CPM that has got a frame stops nothing. -/
theorem cmioCpmStateInd_start (st : Stack) (a crep : ℕ) :
    st.cmioCpmStateInd a crep true = some st ∨
      (st.ar a).cmioState = .PF_CMIO_STATE_WDATA ∧ st.cmioCpmStateInd a crep true =
        some (st.setIocr (crOf a crep) { st.iocr (crOf a crep) with cmioStart := true }) := by
  unfold Stack.cmioCpmStateInd
  cases (st.ar a).cmioState with
  | PF_CMIO_STATE_IDLE => exact .inl rfl
  | PF_CMIO_STATE_STARTUP =>
    refine .inl (if_neg ?_)
    rintro ⟨-, h⟩
    cases h
  | PF_CMIO_STATE_WDATA =>
    by_cases hlt : crep < (st.ar a).nbrIocrs
    · exact .inr ⟨rfl, if_pos hlt⟩
    · exact .inl (if_neg hlt)
  | PF_CMIO_STATE_DATA => exact .inl (if_neg nofun)

theorem cpm_setCmioStart (st : Stack) (c c' : ℕ) (start : Bool) :
    ((st.setIocr c { st.iocr c with cmioStart := start }).iocr c').cpm = (st.iocr c').cpm := by
  show (Function.update st.iocr c _ c').cpm = _
  by_cases hc : c' = c
  · subst hc
    rw [Function.update_self]
  · rw [Function.update_of_ne hc]

theorem cpm_cmioCpmNewDataInd (st : Stack) (a crep c' : ℕ) (newData : Bool) :
    ((st.cmioCpmNewDataInd a crep newData).iocr c').cpm = (st.iocr c').cpm := by
  unfold Stack.cmioCpmNewDataInd
  split
  · exact cpm_setCmioStart st _ c' newData
  · rfl

theorem setCDataInd_good (h : Good p sent st) {x : Cyclic.Cpm} (hx : (st.iocr c).cpm = x)
    (f : Cyclic.Frame) (frameIdPos : BitVec 16) :
    Good p sent (st.setCpm c (x.cDataInd f frameIdPos)) := by
  subst hx
  exact h.setIocr c _ rfl (cDataInd_atRest _ f frameIdPos) ⟨rfl, rfl⟩

theorem frame_good (h : Good p sent st) {f : Cyclic.Frame} {frameIdPos : BitVec 16}
    (hs : st.cpmCDataInd c f frameIdPos = some st') : Good p sent st' := by
  unfold Stack.cpmCDataInd at hs
  dsimp only at hs
  by_cases hacc : Cyclic.Accepts (st.iocr c).cpm f frameIdPos
  · rw [if_pos hacc] at hs
    rcases Option.map_eq_some_iff.mp hs with ⟨st1, hst1, rfl⟩
    have hst1' : Good p sent st1 ∧ (st1.iocr c).cpm = (st.iocr c).cpm := by
      have hsame (hst : some st = some st1) :
          Good p sent st1 ∧ (st1.iocr c).cpm = (st.iocr c).cpm := by
        obtain rfl : st = st1 := Option.some.inj hst
        exact ⟨h, rfl⟩
      by_cases hfrun : (st.iocr c).cpm.state = Cyclic.CpmState.PF_CPM_STATE_FRUN
      · rw [if_pos hfrun] at hst1
        rcases cmioCpmStateInd_start st (c / PNET_MAX_CR) (c % PNET_MAX_CR) with hst | ⟨-, hst⟩
        · exact hsame (hst.symm.trans hst1)
        · obtain rfl := Option.some.inj (hst.symm.trans hst1)
          exact ⟨setCmioStart_good h _ _, cpm_setCmioStart st _ _ _⟩
      · rw [if_neg hfrun] at hst1
        exact hsame hst1
    refine (setCDataInd_good (cmioCpmNewDataInd_good hst1'.1 _ _ _) ?_ f frameIdPos).note _
    rw [cpm_cmioCpmNewDataInd]
    exact hst1'.2
  · rw [if_neg hacc] at hs
    obtain rfl := Option.some.inj hs
    exact setCDataInd_good h rfl f frameIdPos

end PNet.LifeCycle
