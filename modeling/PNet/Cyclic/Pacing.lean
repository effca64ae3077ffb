import PNet.Cyclic.CycleCounter
import PNet.Cyclic.Pace
import PNet.Lib.Runs
import PNet.Scheduler.Family

/-! # Cyclic sending

The PPMs of a device, each with a timer of the scheduler that starts itself again. The ticks of the
scheduler are one tick interval apart, and between them the clock is read by the PPMs and by other
users of the scheduler. `next_exec` has 32 bits, and so has the delay, an unsigned difference, of
which the scheduler takes more than 100 seconds for a deadline that has been missed.

* `Inv`: the timer of a PPM and `next_exec` are what the pace of its frames tells.
* `step_inv`: a step keeps that, when the scheduler does not take the delay for another.
* `Inv.sends`: a frame that is due can be sent.
-/

namespace PNet.Cyclic

open Scheduler Connect

/-! ## The timers -/

namespace Pacing

/-- The handle `ppm.ci_timeout` of an IOCR. The other users have the handles in between. -/
def ciTimeout (iocr : ℕ) : ℕ := 2 * iocr + 1

/-- The address of the text `"ppm"`. -/
def ppmName : Name := 2

/-- The address of `pf_ppm_drv_sw_send`. -/
def ppmDrvSwSendCb : ℕ := 1

theorem ciTimeout_inj (i j : ℕ) (h : ciTimeout i = ciTimeout j) : i = j := by
  unfold ciTimeout at h
  omega

def ppmTimers : Family Unit where
  comp _ := ⟨ciTimeout, ciTimeout_inj, ppmName, ppmDrvSwSendCb⟩
  handle_ne k k' _ _ h := absurd (Subsingleton.elim k k') h
  name_ne k k' h := absurd (Subsingleton.elim k k') h
  cb_ne k k' h := absurd (Subsingleton.elim k k') h
  name_pos _ := nofun

end Pacing

/-! ## The state -/

/-- The PPMs of a device, by their IOCRs, and what an observer sees of them. -/
structure Pacing where
  sched : St
  minDeviceInterval : ℕ
  ppm : ℕ → Ppm
  inLength : ℕ → BitVec 16
  /-- When the last tick has started. -/
  tick : ℕ
  /-- Of the PPMs that have been activated. -/
  pace : ℕ → Option Pace
  /-- A frame could not be sent, or a timer of a PPM not be started. -/
  failed : Bool

namespace Pacing

variable (st : Pacing)

/-- The interval of the ticks, in us. -/
def interval : ℕ := st.sched.tickInterval.toNat

/-- The control interval of a PPM, in us. -/
def controlInterval (i : ℕ) : ℕ := (st.ppm i).controlInterval.toNat

/-- `pf_ppm_create`, for an IOCR of a connect request. -/
def create (i : ℕ) (sa da : Vector Byte 6) (ar : ArParam) (iocrs : List IocrParam) (crep : ℕ)
    (allocated : Bool) : Pacing :=
  if (checkIocrParam st.minDeviceInterval ar iocrs noError).1 then
    iocrs[crep]?.elim st fun p =>
      { st with ppm := Function.update st.ppm i ((st.ppm i).create sa da p allocated).2 }
  else st

/-- `pf_ppm_activate_req` and `pf_ppm_drv_sw_activate_req`, which read the clock at `exec` and at
`now`. -/
def activate (i exec now : ℕ) : Option Pacing :=
  match (st.ppm i).state with
  | .PF_PPM_STATE_RUN => some st
  | .PF_PPM_STATE_W_START =>
    let sched := pfSchedulerInitHandle st.sched (ciTimeout i) ppmName
    (pfSchedulerAdd sched (st.ppm i).controlInterval (ppmTimers.job () i) (ciTimeout i)
      (reading now)).map fun (r : ℤ × St) =>
        { st with
          sched := r.2
          ppm := Function.update st.ppm i
            ((st.ppm i).activateReq (st.inLength i) (reading exec) (decide (r.1 = 0))).2
          pace := Function.update st.pace i (some ⟨exec, now, []⟩)
          failed := st.failed || decide (r.1 ≠ 0) }

/-- `pf_ppm_close_req` and `pf_ppm_drv_sw_close_req`. -/
def close (i : ℕ) : Option Pacing :=
  (pfSchedulerRemoveIfRunning st.sched (ciTimeout i)).map fun sched =>
    { st with
      sched
      ppm := Function.update st.ppm i (st.ppm i).closeReq
      pace := Function.update st.pace i none }

/-- `pf_ppm_drv_sw_send`; `sent` tells whether the frame is sent, and the timer is started at
`now`. -/
def drvSwSend (i : ℕ) (sent : Bool) (now : ℕ) : Option Pacing :=
  let sched := pfSchedulerResetHandle st.sched (ciTimeout i)
  let send := (st.ppm i).drvSwSend (st.inLength i) (reading st.tick) sent
  match (send true).2.1 with
  | none =>
    some { st with
      sched
      ppm := Function.update st.ppm i (send false).2.2
      failed := st.failed || (st.ppm i).ciRunning }
  | some delay =>
    (pfSchedulerAdd sched delay (ppmTimers.job () i) (ciTimeout i)
      (reading now)).map fun (r : ℤ × St) =>
        { st with
          sched := r.2
          ppm := Function.update st.ppm i (send (decide (r.1 = 0))).2.2
          pace := Function.update st.pace i ((st.pace i).map fun p => p.send st.tick)
          failed := st.failed || decide (r.1 ≠ 0) }

/-- The timer that is first in the queue. -/
def firstTimer : Timer := timerAt st.sched st.sched.first

/-- A round of the loop of `pf_scheduler_tick`, for a timer that has expired. -/
def round (sent : Bool) (now : ℕ) : Option Pacing :=
  if expired st.sched (reading st.tick) then
    (moveToFree st.sched st.sched.first).bind fun sched =>
      if st.firstTimer.job.cb = ppmDrvSwSendCb then
        { st with sched }.drvSwSend st.firstTimer.job.arg sent now
      else some { st with sched }
  else none

/-- The next tick starts, when the last one has ended. -/
def nextTick : Option Pacing :=
  if expired st.sched (reading st.tick) then none
  else some { st with tick := st.tick + st.interval }

end Pacing

/-! ## Runs -/

inductive PacingEvent where
  | create (i : ℕ) (sa da : Vector Byte 6) (ar : ArParam) (iocrs : List IocrParam) (crep : ℕ)
    (allocated : Bool)
  | activate (i exec now : ℕ)
  | close (i : ℕ)
  /-- A call of another user. -/
  | call (c : Call) (foreign : Pacing.ppmTimers.Foreign c)
  | nextTick
  | round (sent : Bool) (now : ℕ)

namespace Pacing

/-- An event happens, where it can. -/
def step (st : Pacing) : PacingEvent → Option Pacing
  | .create i sa da ar iocrs crep allocated => some (st.create i sa da ar iocrs crep allocated)
  | .activate i exec now => st.activate i exec now
  | .close i => st.close i
  | .call c _ => (doCall st.sched c).map fun sched => { st with sched }
  | .nextTick => st.nextTick
  | .round sent now => st.round sent now

/-- The start of a stack, in the tick that starts at `tick`. -/
def start (tickInterval : Time) (minDeviceInterval : ℕ) (inLength : ℕ → BitVec 16) (tick : ℕ) :
    Option Pacing :=
  (pfSchedulerInit blank tickInterval).map fun sched =>
    ⟨sched, minDeviceInterval, fun _ => .cleared, inLength, tick, fun _ => none, false⟩

/-! ## What should hold -/

variable (st : Pacing)

/-- All PPMs keep their pace. -/
def KeepsPace : Prop := ∀ i, ∀ p ∈ st.pace i, p.Paced st.interval (st.controlInterval i) st.tick

/-- The clock is read between one tick and the next. A PPM starts its timer within half a tick. -/
def Timely : PacingEvent → Prop
  | .activate _ exec now => st.tick ≤ exec ∧ exec ≤ now ∧ now ≤ exec + st.interval / 2 ∧
    now ≤ st.tick + st.interval
  | .call c _ => c.Between st.interval st.tick
  | .round _ now => st.tick ≤ now ∧ now ≤ st.tick + st.interval / 2
  | _ => True

/-- The frames are sent, and the timers of the PPMs are started. -/
def Succeeds (e : PacingEvent) : Prop := ∀ st' ∈ st.step e, st'.failed = false

/-- The scheduler does not take the delay for another: it is 100 seconds at most, or the deadline is
over, but by less than what 32 bits hold besides. An interval of one and a half ticks is rounded
down for the first frame, and must not begin half way between two ticks. -/
def InReach : PacingEvent → Prop
  | .activate i exec now => (st.ppm i).state = .PF_PPM_STATE_W_START →
    st.controlInterval i ≤ 100000000 ∧ (2 * st.controlInterval i = 3 * st.interval → exec = now →
      2 * now ≠ 2 * st.tick + st.interval)
  | .round _ _ => expired st.sched (reading st.tick) = true →
    st.firstTimer.job.cb = ppmDrvSwSendCb → ∀ p ∈ st.pace st.firstTimer.job.arg,
    (p.send st.tick).deadline (st.controlInterval st.firstTimer.job.arg) ≤ st.tick + 100000000 ∧
      st.tick + 100000000 <
        (p.send st.tick).deadline (st.controlInterval st.firstTimer.job.arg) + 2 ^ 32
  | _ => True

instance (e : PacingEvent) : Decidable (st.Timely e) :=
  match e with
  | .create .. => isTrue trivial
  | .activate _ exec now => inferInstanceAs (Decidable (st.tick ≤ exec ∧ exec ≤ now ∧
      now ≤ exec + st.interval / 2 ∧ now ≤ st.tick + st.interval))
  | .close _ => isTrue trivial
  | .call c _ => inferInstanceAs (Decidable (c.Between st.interval st.tick))
  | .nextTick => isTrue trivial
  | .round _ now => inferInstanceAs (Decidable (st.tick ≤ now ∧ now ≤ st.tick + st.interval / 2))

instance (e : PacingEvent) : Decidable (st.Succeeds e) :=
  inferInstanceAs (Decidable (∀ st' ∈ st.step e, st'.failed = false))

instance (e : PacingEvent) : Decidable (st.InReach e) :=
  match e with
  | .activate i exec now => inferInstanceAs (Decidable ((st.ppm i).state = .PF_PPM_STATE_W_START →
      st.controlInterval i ≤ 100000000 ∧ (2 * st.controlInterval i = 3 * st.interval → exec = now →
        2 * now ≠ 2 * st.tick + st.interval)))
  | .round _ _ => inferInstanceAs (Decidable (expired st.sched (reading st.tick) = true →
      st.firstTimer.job.cb = ppmDrvSwSendCb → ∀ p ∈ st.pace st.firstTimer.job.arg,
      (p.send st.tick).deadline (st.controlInterval st.firstTimer.job.arg) ≤ st.tick + 100000000 ∧
        st.tick + 100000000 <
          (p.send st.tick).deadline (st.controlInterval st.firstTimer.job.arg) + 2 ^ 32))
  | .create .. => isTrue trivial
  | .close _ => isTrue trivial
  | .call _ _ => isTrue trivial
  | .nextTick => isTrue trivial

/-! ## The invariant -/

/-- The timer `e` of the PPM, and when it expires. -/
structure Runs (i : ℕ) (p : Pace) (e : Timer) (w : ℕ) : Prop where
  named : ppmTimers.Named st.sched () i
  index : (st.sched.handles (ciTimeout i)).timerIndex = e.ix + 1
  only : ∀ e', ppmTimers.Runs st.sched () i e' ↔ e' = e
  when : e.when = reading w
  nextExec : (st.ppm i).nextExec = reading (p.deadline (st.controlInterval i))
  keeps : p.Keeps st.interval (st.controlInterval i) st.tick w

/-- A PPM that runs has its timer, and the others have none. -/
structure Slot (i : ℕ) : Prop where
  running : (st.ppm i).ciRunning = (st.pace i).isSome
  state : (st.ppm i).state = .PF_PPM_STATE_RUN ↔ (st.pace i).isSome = true
  idle : st.pace i = none → ppmTimers.Idle st.sched () i
  runs : ∀ p, st.pace i = some p → ∃ e w, st.Runs i p e w

structure Inv : Prop where
  tidy : ppmTimers.Tidy st.sched
  window : Window st.tick st.sched
  pos : 0#32 < st.sched.tickInterval
  small : 5 * st.interval < 2 ^ 32
  slots : ∀ i, st.Slot i

variable {st} {st' : Pacing} {i j : ℕ} {p : Pace} {e : Timer} {w : ℕ}

theorem Inv.interval_pos (h : st.Inv) : 0 < st.interval := BitVec.lt_def.mp h.pos

theorem Inv.keepsPace (h : st.Inv) : st.KeepsPace := by
  intro i p hp
  rcases (h.slots i).runs p hp with ⟨e, w, hruns⟩
  exact hruns.keeps.paced h.interval_pos

/-- The slots that a step does not touch. -/
theorem Slot.frame (h : st.Slot j) {P : Unit → ℕ → Prop}
    (hw : ppmTimers.Within P st.sched st'.sched) (hj : ¬ P () j) (hppm : st'.ppm j = st.ppm j)
    (hpace : st'.pace j = st.pace j) (htick : st'.tick = st.tick) : st'.Slot j := by
  have hinterval : st'.interval = st.interval := congrArg BitVec.toNat hw.tickInterval
  have hcontrol : st'.controlInterval j = st.controlInterval j := by
    unfold controlInterval
    rw [hppm]
  constructor
  · rw [hppm, hpace]
    exact h.running
  · rw [hppm, hpace]
    exact h.state
  · intro hnone
    rw [hpace] at hnone
    exact (hw.idle hj).mpr (h.idle hnone)
  · intro p hp
    rw [hpace] at hp
    rcases h.runs p hp with ⟨e, w, hruns⟩
    refine ⟨e, w, (hw.named hj).mpr hruns.named, ?_, ?_, hruns.when, ?_, ?_⟩
    · rw [show st'.sched.handles (ciTimeout j) = st.sched.handles (ciTimeout j) from
        hw.handles () j hj]
      exact hruns.index
    · exact fun e' => (hw.runs () j hj e').trans (hruns.only e')
    · rw [hppm, hcontrol]
      exact hruns.nextExec
    · rw [hinterval, hcontrol, htick]
      exact hruns.keeps

/-- A step that touches one PPM. -/
theorem Inv.update (h : st.Inv) (ht : ppmTimers.Tidy st'.sched)
    (hwindow : Window st'.tick st'.sched) {P : Unit → ℕ → Prop}
    (hw : ppmTimers.Within P st.sched st'.sched)
    (hP : ∀ j, P () j → j = i)
    (hppm : ∀ j, j ≠ i → st'.ppm j = st.ppm j) (hpace : ∀ j, j ≠ i → st'.pace j = st.pace j)
    (htick : st'.tick = st.tick) (hslot : st'.Slot i) : st'.Inv := by
  refine ⟨ht, hwindow, ?_, ?_, ?_⟩
  · rw [hw.tickInterval]
    exact h.pos
  · rw [show st'.interval = st.interval from congrArg BitVec.toNat hw.tickInterval]
    exact h.small
  · intro j
    by_cases hj : j = i
    · rw [hj]
      exact hslot
    · exact (h.slots j).frame hw (fun hP' => hj (hP j hP')) (hppm j hj) (hpace j hj) htick

/-! ## Other users, and connects -/

theorem call_inv (h : st.Inv) {c : Call} (hforeign : ppmTimers.Foreign c)
    (hbetween : c.Between st.interval st.tick)
    (hs : ((doCall st.sched c).map fun sched => { st with sched }) = some st') : st'.Inv := by
  rcases Option.map_eq_some_iff.mp hs with ⟨sched, hsched, rfl⟩
  rcases h.tidy.foreign hforeign hsched with ⟨ht, hw⟩
  have hwindow := (h.window.doCall h.pos h.small hbetween hsched).1
  exact h.update (i := 0) ht hwindow hw (fun _ => False.elim) (fun _ _ => rfl) (fun _ _ => rfl) rfl
    ((h.slots 0).frame hw id rfl rfl rfl)

theorem create_idle {x : Ppm} (hstate : x.state = .PF_PPM_STATE_W_START) (sa da : Vector Byte 6)
    (p : IocrParam) (allocated : Bool) : (x.create sa da p allocated).2.ciRunning = x.ciRunning ∧
      (x.create sa da p allocated).2.state = .PF_PPM_STATE_W_START := by
  unfold Ppm.create
  rw [hstate]
  dsimp only
  split
  · exact ⟨rfl, hstate⟩
  · exact ⟨rfl, hstate⟩

theorem create_inv (h : st.Inv) (i : ℕ) (sa da : Vector Byte 6) (ar : ArParam)
    (iocrs : List IocrParam) (crep : ℕ) (allocated : Bool) :
    (st.create i sa da ar iocrs crep allocated).Inv := by
  unfold create
  split
  swap
  · exact h
  cases iocrs[crep]? with
  | none => exact h
  | some p =>
    have hother (j : ℕ) (hj : j ≠ i) :
        Function.update st.ppm i ((st.ppm i).create sa da p allocated).2 j = st.ppm j :=
      Function.update_of_ne hj _ _
    have hself : Function.update st.ppm i ((st.ppm i).create sa da p allocated).2 i =
        ((st.ppm i).create sa da p allocated).2 := Function.update_self _ _ _
    refine h.update (i := i) h.tidy h.window (.refl (fun _ _ => False) _) (fun _ => False.elim)
      hother (fun _ _ => rfl) rfl ?_
    cases hstate : (st.ppm i).state with
    | PF_PPM_STATE_RUN =>
      have hsame : ((st.ppm i).create sa da p allocated).2 = st.ppm i := by
        unfold Ppm.create
        rw [hstate]
      exact (h.slots i).frame (.refl (fun _ _ => False) _) id (hself.trans hsame) rfl rfl
    | PF_PPM_STATE_W_START =>
      rcases create_idle hstate sa da p allocated with ⟨hrunning, hstart⟩
      have hslot := h.slots i
      have hnone : st.pace i = none := by
        cases hpace : st.pace i with
        | none => rfl
        | some p =>
          have hrun := hslot.state.mpr (by rw [hpace]; rfl)
          rw [hstate] at hrun
          cases hrun
      constructor
      · show (Function.update st.ppm i _ i).ciRunning = _
        rw [hself, hrunning]
        exact hslot.running
      · show (Function.update st.ppm i _ i).state = _ ↔ _
        rw [hself, hstart, ← hstate]
        exact hslot.state
      · exact hslot.idle
      · intro p hp
        rw [show st.pace i = some p from hp] at hnone
        cases hnone

/-! ## Delays -/

/-- A delay of 100 seconds at most is no delay of another length, when it is taken as an unsigned
difference; nor is one that is over. -/
theorem clampedDelay_sub {a b : ℕ} (hle : a ≤ b + 100000000) (hlt : b + 100000000 < a + 2 ^ 32) :
    clampedDelay (reading a - reading b) = ((a : ℤ) - b).toNat := by
  have hmax : PF_SCHEDULER_MAX_DELAY_US.toNat = 100000000 := rfl
  unfold clampedDelay
  by_cases hover : b ≤ a
  · obtain ⟨d, rfl⟩ := Nat.exists_eq_add_of_le hover
    have hsub : reading (b + d) - reading b = reading d := by
      rw [reading_add, add_sub_cancel_left]
    have hd : (reading d).toNat = d := by
      rw [reading, BitVec.toNat_ofNat, Nat.mod_eq_of_lt (by omega)]
    rw [hsub, if_neg (by rw [BitVec.lt_def, hd, hmax]; omega), hd]
    omega
  · obtain ⟨d, rfl⟩ := Nat.exists_eq_add_of_le (Nat.le_of_not_le hover)
    have hsub : reading a - reading (a + d) = reading (2 ^ 32 - d) := by
      have hzero : reading (2 ^ 32 - d) + reading d = 0 := by
        rw [← reading_add, Nat.sub_add_cancel (by omega)]
        rfl
      rw [reading_add, sub_add_cancel_left, ← eq_neg_of_add_eq_zero_left hzero]
    have hd : (reading (2 ^ 32 - d)).toNat = 2 ^ 32 - d := by
      rw [reading, BitVec.toNat_ofNat, Nat.mod_eq_of_lt (by omega)]
    rw [hsub, if_pos (by rw [BitVec.lt_def, hd, hmax]; omega)]
    show 0 = _
    omega

/-! ## Activation and release -/

theorem finishBuffer_timing (x : Ppm) (n : BitVec 16) :
    (x.finishBuffer n).nextExec = x.nextExec ∧
      (x.finishBuffer n).controlInterval = x.controlInterval := by
  rw [Ppm.finishBuffer]
  split
  · exact ⟨rfl, rfl⟩
  · exact ⟨rfl, rfl⟩

theorem activateReq_spec {x : Ppm} (hstate : x.state = .PF_PPM_STATE_W_START) (n : BitVec 16)
    (now : BitVec 32) (added : Bool) :
    (x.activateReq n now added).2.ciRunning = true ∧
      (x.activateReq n now added).2.state = .PF_PPM_STATE_RUN ∧
      (x.activateReq n now added).2.controlInterval = x.controlInterval ∧
      (x.activateReq n now added).2.nextExec = now + x.controlInterval := by
  unfold Ppm.activateReq
  rw [hstate]
  dsimp only
  rcases finishBuffer_timing
    { x with
      nextExec := now + x.controlInterval
      state := .PF_PPM_STATE_RUN
      ciRunning := true } n with ⟨hnext, hcontrol⟩
  exact ⟨Ppm.finishBuffer_ciRunning _ _, Ppm.finishBuffer_state _ _, hcontrol, hnext⟩

theorem Slot.pace_none (h : st.Slot i) (hstate : (st.ppm i).state = .PF_PPM_STATE_W_START) :
    st.pace i = none := by
  cases hpace : st.pace i with
  | none => rfl
  | some p =>
    have hrun := h.state.mpr (by rw [hpace]; rfl)
    rw [hstate] at hrun
    cases hrun

/-- The PPM starts its timer, which it did not have. -/
theorem add_runs {s s' : St} {tick now : ℕ} {delay : Time} (hpos : 0#32 < s.tickInterval)
    (hsmall : 5 * s.tickInterval.toNat < 2 ^ 32) (ht : ppmTimers.Tidy s) (hwindow : Window tick s)
    (hlow : tick ≤ now) (hhigh : now ≤ tick + s.tickInterval.toNat)
    (hnamed : ppmTimers.Named s () i) (hidle : ppmTimers.Idle s () i)
    (hadd : pfSchedulerAdd s delay (ppmTimers.job () i) (ciTimeout i) (reading now) =
      some (0, s')) :
    ppmTimers.Tidy s' ∧ Window tick s' ∧ ppmTimers.Within (Family.only () i) s s' ∧
      ppmTimers.Named s' () i ∧
      ∃ e, (s'.handles (ciTimeout i)).timerIndex = e.ix + 1 ∧
        (∀ e', ppmTimers.Runs s' () i e' ↔ e' = e) ∧
        e.when = reading (now + (nearTicks (clampedDelay delay) s.tickInterval.toNat *
          s.tickInterval.toNat - s.tickInterval.toNat / 2)) := by
  rcases ht.add hnamed hadd with ⟨ht', hw, hnamed', -⟩
  rcases ht.add_when hnamed hadd hidle with ⟨d, e, hd, hwhen, hindex, honly⟩
  rcases sanitizeDelay_eq delay hpos (by omega) with ⟨d', hd', hdelay⟩
  obtain rfl := Option.some.inj (hd'.symm.trans hd)
  have hcall : doCall s (.add delay (ppmTimers.job () i) (ciTimeout i) (reading now)) = some s' :=
    congrArg (Option.map Prod.snd) hadd
  have hwindow' : Window tick s' := by
    refine (hwindow.doCall hpos hsmall ?_ hcall).1
    intro t ht
    obtain rfl := Option.some.inj ht
    exact ⟨now, rfl, hlow, hhigh⟩
  refine ⟨ht', hwindow', hw, hnamed', e, hindex, honly, ?_⟩
  rw [hwhen, ← hdelay, reading_add, reading_toNat]

/-- A PPM that runs. -/
theorem Slot.of_runs (hrunning : (st.ppm i).ciRunning = true)
    (hstate : (st.ppm i).state = .PF_PPM_STATE_RUN) (hpace : st.pace i = some p)
    (hruns : st.Runs i p e w) : st.Slot i := by
  constructor
  · rw [hrunning, hpace]
    rfl
  · rw [hstate, hpace]
    exact iff_of_true rfl rfl
  · intro hnone
    rw [hnone] at hpace
    cases hpace
  · intro p' hp'
    obtain rfl := Option.some.inj (hpace.symm.trans hp')
    exact ⟨e, w, hruns⟩

/-- A step that starts the timer of one PPM, as the pace of its frames wants it. -/
theorem Inv.started (h : st.Inv) (ht : ppmTimers.Tidy st'.sched)
    (hwindow : Window st'.tick st'.sched)
    (hw : ppmTimers.Within (Family.only () i) st.sched st'.sched)
    (hppm : ∀ j, j ≠ i → st'.ppm j = st.ppm j) (hpace : ∀ j, j ≠ i → st'.pace j = st.pace j)
    (htick : st'.tick = st.tick) {x : Ppm} (hx : st'.ppm i = x) (hrunning : x.ciRunning = true)
    (hstate : x.state = .PF_PPM_STATE_RUN)
    (hcontrol : x.controlInterval = (st.ppm i).controlInterval) (hp : st'.pace i = some p)
    (hnext : x.nextExec = reading (p.deadline (st.controlInterval i)))
    (hkeeps : p.Keeps st.interval (st.controlInterval i) st.tick w)
    (hnamed : ppmTimers.Named st'.sched () i)
    (hindex : (st'.sched.handles (ciTimeout i)).timerIndex = e.ix + 1)
    (honly : ∀ e', ppmTimers.Runs st'.sched () i e' ↔ e' = e) (hwhen : e.when = reading w) :
    st'.Inv := by
  have hinterval : st'.interval = st.interval := congrArg BitVec.toNat hw.tickInterval
  have hsame : st'.controlInterval i = st.controlInterval i := by
    unfold controlInterval
    rw [hx, hcontrol]
  refine h.update ht hwindow hw (fun j hj => hj.2) hppm hpace htick ?_
  subst hx
  apply Slot.of_runs (e := e) (w := w) hrunning hstate hp
  refine ⟨hnamed, hindex, honly, hwhen, ?_, ?_⟩
  · rw [hsame]
    exact hnext
  · rw [hinterval, hsame, htick]
    exact hkeeps

/-- A PPM that does not run. -/
theorem Slot.of_idle (hrunning : (st.ppm i).ciRunning = false)
    (hstate : (st.ppm i).state = .PF_PPM_STATE_W_START) (hpace : st.pace i = none)
    (hidle : ppmTimers.Idle st.sched () i) : st.Slot i := by
  constructor
  · rw [hrunning, hpace]
    rfl
  · rw [hstate, hpace]
    exact ⟨nofun, nofun⟩
  · exact fun _ => hidle
  · intro p hp
    rw [hp] at hpace
    cases hpace

theorem Slot.settled (h : st.Slot i) : ppmTimers.Settled st.sched () i := by
  cases hpace : st.pace i with
  | none => exact .inl (h.idle hpace)
  | some p =>
    rcases h.runs p hpace with ⟨e, w, hruns⟩
    exact .inr ⟨e, hruns.index, hruns.only⟩

theorem activate_eq (hstate : (st.ppm i).state = .PF_PPM_STATE_W_START) (exec now : ℕ) :
    st.activate i exec now =
      (pfSchedulerAdd (pfSchedulerInitHandle st.sched (ciTimeout i) ppmName)
        (st.ppm i).controlInterval (ppmTimers.job () i) (ciTimeout i) (reading now)).map
        fun (r : ℤ × St) =>
          { st with
            sched := r.2
            ppm := Function.update st.ppm i
              ((st.ppm i).activateReq (st.inLength i) (reading exec) (decide (r.1 = 0))).2
            pace := Function.update st.pace i (some ⟨exec, now, []⟩)
            failed := st.failed || decide (r.1 ≠ 0) } := by
  unfold activate
  rw [hstate]

/-- A timer of a PPM that has not been started is seen. -/
theorem ret_zero {ret : ℤ} {failed : Bool} (h : (failed || decide (ret ≠ 0)) = false) : ret = 0 :=
  not_not.mp (of_decide_eq_false (Bool.or_eq_false_iff.mp h).2)

theorem activate_inv (h : st.Inv) {exec now : ℕ} (htimely : st.Timely (.activate i exec now))
    (hsucceeds : st'.failed = false) (hreach : st.InReach (.activate i exec now))
    (hs : st.activate i exec now = some st') : st'.Inv := by
  cases hstate : (st.ppm i).state with
  | PF_PPM_STATE_RUN =>
    unfold activate at hs
    rw [hstate] at hs
    obtain rfl := Option.some.inj hs
    exact h
  | PF_PPM_STATE_W_START =>
    rcases hreach hstate with ⟨hmax, hcorner⟩
    rcases htimely with ⟨hlow, hexec, hnow, hhigh⟩
    rw [activate_eq hstate] at hs
    rcases Option.map_eq_some_iff.mp hs with ⟨⟨ret, sched⟩, hadd, rfl⟩
    obtain rfl : ret = 0 := ret_zero hsucceeds
    rcases h.tidy.initHandle () i with ⟨ht1, hw1, hnamed1, hruns1⟩
    have hidle1 : ppmTimers.Idle (pfSchedulerInitHandle st.sched (ciTimeout i) ppmName) () i :=
      fun e he => (h.slots i).idle ((h.slots i).pace_none hstate) e ((hruns1 e).mp he)
    have hwindow1 : Window st.tick (pfSchedulerInitHandle st.sched (ciTimeout i) ppmName) :=
      h.window.setHandle _ _
    rcases add_runs (s := pfSchedulerInitHandle st.sched (ciTimeout i) ppmName) h.pos h.small ht1
      hwindow1 (hlow.trans hexec) hhigh hnamed1 hidle1 hadd with
      ⟨ht2, hwindow2, hw2, hnamed2, e, hindex, honly, hwhen⟩
    rcases activateReq_spec hstate (st.inLength i) (reading exec) true with
      ⟨hrunning, hrun, hcontrol, hnext⟩
    have hkeeps : Pace.Keeps ⟨exec, now, []⟩ st.interval (st.controlInterval i) st.tick
        (now + (nearTicks (st.controlInterval i) st.interval * st.interval - st.interval / 2)) :=
      Pace.keeps_activated h.interval_pos hexec hnow (hlow.trans hexec) hhigh hmax hcorner
    have hdeadline : reading exec + (st.ppm i).controlInterval =
        reading (exec + (0 + 1) * st.controlInterval i) := by
      rw [Nat.zero_add, Nat.one_mul, reading_add, controlInterval, reading_toNat]
    rw [clampedDelay_of_le hmax] at hwhen
    exact h.started ht2 hwindow2 (hw1.trans hw2) (fun j hj => Function.update_of_ne hj _ _)
      (fun j hj => Function.update_of_ne hj _ _) rfl (Function.update_self _ _ _) hrunning hrun
      hcontrol (Function.update_self _ _ _) (hnext.trans hdeadline) hkeeps hnamed2 hindex honly
      hwhen

/-- The PPM, when it is released, loses its timer. -/
theorem close_inv (h : st.Inv) (hs : st.close i = some st') : st'.Inv := by
  rcases Option.map_eq_some_iff.mp hs with ⟨sched, hremove, rfl⟩
  rcases h.tidy.removeIfRunning_calms hremove with ⟨hcalms, hidle⟩
  have hcall : doCall st.sched (.removeIfRunning (ciTimeout i)) = some sched := hremove
  have hwindow : Window st.tick sched :=
    (h.window.doCall h.pos h.small (fun t ht => by cases ht) hcall).1
  have hself : Function.update st.ppm i (st.ppm i).closeReq i = (st.ppm i).closeReq :=
    Function.update_self _ _ _
  refine h.update (i := i) hcalms.tidy hwindow hcalms.within (fun j hj => hj.2)
    (fun j hj => Function.update_of_ne hj _ _) (fun j hj => Function.update_of_ne hj _ _) rfl ?_
  apply Slot.of_idle
  · exact congrArg Ppm.ciRunning hself
  · exact congrArg Ppm.state hself
  · exact Function.update_self _ _ _
  · exact hidle (h.slots i).settled

/-! ## Ticks -/

/-- When a tick ends, no timer of a PPM is over. -/
theorem nextTick_inv (h : st.Inv) (hs : st.nextTick = some st') : st'.Inv := by
  unfold nextTick at hs
  cases hexpired : expired st.sched (reading st.tick) with
  | true =>
    rw [hexpired] at hs
    cases hs
  | false =>
    rw [hexpired] at hs
    obtain rfl := Option.some.inj hs
    refine ⟨h.tidy, h.window.nextTick h.pos h.small hexpired, h.pos, h.small, ?_⟩
    intro i
    have hslot := h.slots i
    refine ⟨hslot.running, hslot.state, hslot.idle, ?_⟩
    intro p hp
    rcases hslot.runs p hp with ⟨e, w, hruns⟩
    have hover : st.tick < w := h.window.not_over h.pos h.small hexpired
      ((hruns.only e).mpr rfl).1 hruns.when hruns.keeps.window
    exact ⟨e, w, hruns.named, hruns.index, hruns.only, hruns.when, hruns.nextExec,
      hruns.keeps.nextTick hover⟩

/-! ## Rounds of the tick -/

theorem drvSwSend_spec {x : Ppm} (hrunning : x.ciRunning = true) (n : BitVec 16) (now : BitVec 32)
    (added : Bool) :
    (x.drvSwSend n now true added).2.1 = some (x.nextExec + x.controlInterval - now) ∧
      (x.drvSwSend n now true added).2.2.ciRunning = true ∧
      (x.drvSwSend n now true added).2.2.state = x.state ∧
      (x.drvSwSend n now true added).2.2.controlInterval = x.controlInterval ∧
      (x.drvSwSend n now true added).2.2.nextExec = x.nextExec + x.controlInterval := by
  rcases finishBuffer_timing x n with ⟨hnext, hcontrol⟩
  have hrun : (x.finishBuffer n).ciRunning = true := (Ppm.finishBuffer_ciRunning x n).trans hrunning
  have hstate := Ppm.finishBuffer_state x n
  unfold Ppm.drvSwSend
  rw [if_pos hrunning]
  dsimp only
  rw [if_pos rfl, ← hnext, ← hcontrol]
  refine ⟨rfl, ?_⟩
  cases added with
  | true => exact ⟨hrun, hstate, rfl, rfl⟩
  | false => exact ⟨hrun, hstate, rfl, rfl⟩

theorem drvSwSend_eq (hrunning : (st.ppm i).ciRunning = true) (now : ℕ) :
    st.drvSwSend i true now =
      (pfSchedulerAdd (pfSchedulerResetHandle st.sched (ciTimeout i))
        ((st.ppm i).nextExec + (st.ppm i).controlInterval - reading st.tick) (ppmTimers.job () i)
        (ciTimeout i) (reading now)).map fun (r : ℤ × St) =>
          { st with
            sched := r.2
            ppm := Function.update st.ppm i
              ((st.ppm i).drvSwSend (st.inLength i) (reading st.tick) true (decide (r.1 = 0))).2.2
            pace := Function.update st.pace i ((st.pace i).map fun p => p.send st.tick)
            failed := st.failed || decide (r.1 ≠ 0) } := by
  unfold drvSwSend
  dsimp only
  rw [(drvSwSend_spec hrunning (st.inLength i) (reading st.tick) true).1]

/-- A frame that is not sent is seen. -/
theorem drvSwSend_failed (hrunning : (st.ppm i).ciRunning = true) (now : ℕ)
    (hs : st.drvSwSend i false now = some st') : st'.failed = true := by
  have hnone : ((st.ppm i).drvSwSend (st.inLength i) (reading st.tick) false true).2.1 = none := by
    unfold Ppm.drvSwSend
    rw [if_pos hrunning]
    rfl
  unfold drvSwSend at hs
  dsimp only at hs
  rw [hnone] at hs
  obtain rfl := Option.some.inj hs
  show (st.failed || (st.ppm i).ciRunning) = true
  rw [hrunning, Bool.or_true]

theorem job_of_cb {job : Job} (h : job.cb = ppmDrvSwSendCb) :
    job = ppmTimers.job () job.arg := by
  cases job
  subst h
  rfl

/-- The timer that has expired is that of a PPM that runs. -/
theorem Inv.fired (h : st.Inv) (hexpired : expired st.sched (reading st.tick) = true)
    (hruns : ppmTimers.Runs st.sched () i st.firstTimer) :
    ∃ p w, st.pace i = some p ∧ st.Runs i p st.firstTimer w ∧ w ≤ st.tick := by
  have hslot := h.slots i
  cases hpace : st.pace i with
  | none => exact absurd hruns (hslot.idle hpace _)
  | some p =>
    rcases hslot.runs p hpace with ⟨e, w, hr⟩
    obtain rfl : st.firstTimer = e := (hr.only _).mp hruns
    refine ⟨p, w, rfl, hr, ?_⟩
    apply (hr.keeps.window.over_iff h.small).mp
    rw [← hr.when]
    exact (of_decide_eq_true hexpired).2

/-- A frame of the PPM is sent, and its timer is started at `now`: the timer is `e`. -/
structure Sends (st st' : Pacing) (i now : ℕ) (e : Timer) : Prop where
  tidy : ppmTimers.Tidy st'.sched
  window : Window st'.tick st'.sched
  within : ppmTimers.Within (Family.only () i) st.sched st'.sched
  length : (pending st'.sched).length = (pending st.sched).length
  named : ppmTimers.Named st'.sched () i
  index : (st'.sched.handles (ciTimeout i)).timerIndex = e.ix + 1
  only : ∀ e', ppmTimers.Runs st'.sched () i e' ↔ e' = e
  when : e.when = reading (now + (nearTicks (clampedDelay
    ((st.ppm i).nextExec + (st.ppm i).controlInterval - reading st.tick)) st.interval *
      st.interval - st.interval / 2))
  ppm : st'.ppm = Function.update st.ppm i
    ((st.ppm i).drvSwSend (st.inLength i) (reading st.tick) true true).2.2
  pace : st'.pace = Function.update st.pace i ((st.pace i).map fun p => p.send st.tick)
  tick : st'.tick = st.tick
  failed : st'.failed = st.failed

/-- The entry of the timer that has expired is free, and is used again. -/
theorem Inv.sends (h : st.Inv) (hexpired : expired st.sched (reading st.tick) = true)
    (hfired : ppmTimers.Runs st.sched () i st.firstTimer) {now : ℕ} (hlow : st.tick ≤ now)
    (hhigh : now ≤ st.tick + st.interval) :
    ∃ st' e, st.round true now = some st' ∧ Sends st st' i now e := by
  rcases h.fired hexpired hfired with ⟨p, w, hpace, hr, -⟩
  have hrunning : (st.ppm i).ciRunning = true := by
    rw [(h.slots i).running, hpace]
    rfl
  rcases h.tidy.represents with ⟨q, hq⟩
  rcases moveFirst_represents hq hexpired with ⟨s1, q1, hcons, hmove, hq1, hinterval1⟩
  rcases h.tidy.fire hexpired hmove hfired.2 with ⟨ht2, hw2, hnamed2, hruns2, -⟩
  have hwindow1 := (h.window.moveFirst hexpired hmove).1
  have hfree := h.tidy.fire_free hexpired hmove ()
  have hpos1 : 0#32 < s1.tickInterval := by
    rw [hinterval1]
    exact h.pos
  have hinterval : s1.tickInterval.toNat = st.interval := congrArg BitVec.toNat hinterval1
  have hsmall1 : 5 * s1.tickInterval.toNat < 2 ^ 32 := by
    rw [hinterval]
    exact h.small
  rcases sanitizeDelay_some
    ((st.ppm i).nextExec + (st.ppm i).controlInterval - reading st.tick) hpos1 (by omega) with
    ⟨d, hd⟩
  have hq2 : Represents (pfSchedulerResetHandle s1 (ciTimeout i)) q1 := hq1.setHandle _ _
  rcases (@add_free_iff _ (ciTimeout i) q1 hq2 _ d (reading now) (ppmTimers.job () i) hd).2 hfree
    with ⟨sched, hadd, hq3, -⟩
  have hidle2 : ppmTimers.Idle (pfSchedulerResetHandle s1 (ciTimeout i)) () i :=
    fun e he => ((hruns2 e).mp he).2 ((hr.only e).mp ((hruns2 e).mp he).1)
  rcases add_runs (s := pfSchedulerResetHandle s1 (ciTimeout i)) hpos1 hsmall1 ht2
    (hwindow1.setHandle _ _) hlow (hinterval.symm ▸ hhigh) (hnamed2.mpr hr.named) hidle2 hadd with
    ⟨ht3, hwindow3, hw3, hnamed3, e, hindex, honly, hwhen⟩
  have hcb : st.firstTimer.job.cb = ppmDrvSwSendCb := congrArg Job.cb hfired.2
  have harg : st.firstTimer.job.arg = i := congrArg Job.arg hfired.2
  have hround : st.round true now = some
      { st with
        sched
        ppm := Function.update st.ppm i
          ((st.ppm i).drvSwSend (st.inLength i) (reading st.tick) true true).2.2
        pace := Function.update st.pace i ((st.pace i).map fun p => p.send st.tick)
        failed := st.failed || false } := by
    unfold round
    rw [if_pos hexpired]
    refine Option.bind_eq_some_iff.mpr ⟨s1, hmove, ?_⟩
    rw [if_pos hcb, harg, @drvSwSend_eq { st with sched := s1 } i hrunning]
    exact Option.map_eq_some_iff.mpr ⟨(0, sched), hadd, rfl⟩
  refine ⟨_, e, hround, ⟨ht3, hwindow3, hw2.trans hw3, ?_, hnamed3, hindex, honly, ?_, rfl, rfl,
    rfl, Bool.or_false _⟩⟩
  · show (pending sched).length = _
    rw [hq3.pending_eq, hq.pending_eq, List.orderedInsert_length, hcons, List.length_cons]
  · rw [← hinterval]
    exact hwhen

/-- The pace is kept, when the scheduler does not take the delay for another. -/
theorem Sends.inv (h : st.Inv) {now : ℕ} (hs : Sends st st' i now e) (hr : ∃ e, st.Runs i p e w)
    (hpace : st.pace i = some p) (hover : w ≤ st.tick) (hlow : st.tick ≤ now)
    (hhigh : now ≤ st.tick + st.interval / 2)
    (hle : (p.send st.tick).deadline (st.controlInterval i) ≤ st.tick + 100000000)
    (hlt : st.tick + 100000000 < (p.send st.tick).deadline (st.controlInterval i) + 2 ^ 32) :
    st'.Inv := by
  rcases hr with ⟨e', hr⟩
  have hslot := h.slots i
  have hrunning : (st.ppm i).ciRunning = true := by
    rw [hslot.running, hpace]
    rfl
  have hstate : (st.ppm i).state = .PF_PPM_STATE_RUN := hslot.state.mpr (by rw [hpace]; rfl)
  have hdeadline : (st.ppm i).nextExec + (st.ppm i).controlInterval =
      reading ((p.send st.tick).deadline (st.controlInterval i)) := by
    rw [Pace.send_deadline, reading_add, hr.nextExec, controlInterval, reading_toNat]
  have hwhen := hs.when
  rw [hdeadline, clampedDelay_sub hle hlt] at hwhen
  rcases drvSwSend_spec hrunning (st.inLength i) (reading st.tick) true with
    ⟨-, hrun, hsame, hcontrol, hnext⟩
  apply h.started hs.tidy hs.window hs.within ?_ ?_ hs.tick ?_ hrun (hsame.trans hstate) hcontrol ?_
    (hnext.trans hdeadline) (hr.keeps.send h.interval_pos hover hlow hhigh hle) hs.named hs.index
    hs.only hwhen
  · intro j hj
    rw [hs.ppm]
    exact Function.update_of_ne hj _ _
  · intro j hj
    rw [hs.pace]
    exact Function.update_of_ne hj _ _
  · rw [hs.ppm]
    exact Function.update_self _ _ _
  · rw [hs.pace, Function.update_self, hpace]
    rfl

theorem round_inv (h : st.Inv) {sent : Bool} {now : ℕ} (htimely : st.Timely (.round sent now))
    (hsucceeds : st'.failed = false) (hreach : st.InReach (.round sent now))
    (hs : st.round sent now = some st') : st'.Inv := by
  cases hexpired : expired st.sched (reading st.tick) with
  | false =>
    unfold round at hs
    rw [hexpired] at hs
    cases hs
  | true =>
    have hs' := hs
    unfold round at hs'
    rw [hexpired, if_pos rfl] at hs'
    rcases Option.bind_eq_some_iff.mp hs' with ⟨s1, hmove, hround⟩
    by_cases hcb : st.firstTimer.job.cb = ppmDrvSwSendCb
    swap
    · -- the call-back of another user, whose calls are events of their own
      rw [if_neg hcb] at hround
      obtain rfl := Option.some.inj hround
      rcases h.tidy.fireForeign hexpired hmove (fun _ => hcb) with ⟨ht, hw⟩
      exact h.update (i := 0) ht (h.window.moveFirst hexpired hmove).1 hw (fun _ => False.elim)
        (fun _ _ => rfl) (fun _ _ => rfl) rfl ((h.slots 0).frame hw id rfl rfl rfl)
    have hjob := job_of_cb hcb
    rcases h.tidy.fire hexpired hmove hjob with ⟨-, -, -, -, hfired⟩
    rcases h.fired hexpired hfired with ⟨p, w, hpace, hr, hover⟩
    rcases hreach hexpired hcb p hpace with ⟨hle, hlt⟩
    cases sent with
    | false =>
      have hrunning : (st.ppm st.firstTimer.job.arg).ciRunning = true := by
        rw [(h.slots _).running, hpace]
        rfl
      rw [if_pos hcb] at hround
      have hfailed := @drvSwSend_failed { st with sched := s1 } st' _ hrunning now hround
      rw [hsucceeds] at hfailed
      cases hfailed
    | true =>
      rcases h.sends hexpired hfired htimely.1 (htimely.2.trans (by omega)) with
        ⟨st1, e, hst1, hsends⟩
      obtain rfl : st1 = st' := Option.some.inj (hst1.symm.trans hs)
      exact hsends.inv h ⟨_, hr⟩ hpace hover htimely.1 htimely.2 hle hlt

/-! ## Runs -/

theorem start_inv {tickInterval : Time} {minDeviceInterval : ℕ} {inLength : ℕ → BitVec 16}
    {tick : ℕ} (hsmall : 5 * tickInterval.toNat < 2 ^ 32)
    (hs : start tickInterval minDeviceInterval inLength tick = some st) : st.Inv := by
  rcases Option.map_eq_some_iff.mp hs with ⟨sched, hinit, rfl⟩
  rcases Family.init_tidy (f := ppmTimers) hinit with ⟨ht, hidle⟩
  by_cases hpos : 0#32 < tickInterval
  swap
  · rw [pfSchedulerInit, if_pos hpos] at hinit
    cases hinit
  rcases init_represents blank hpos with ⟨s1, hs1, hq, hinterval⟩
  obtain rfl : s1 = sched := Option.some.inj (hs1.symm.trans hinit)
  have hempty : pending s1 = [] := hq.pending_eq
  refine ⟨ht, ⟨⟨[], hq⟩, ?_, ?_⟩, ?_, ?_, ?_⟩
  · rw [hempty]
    exact List.Pairwise.nil
  · rw [hempty]
    intro e he
    cases he
  · rw [hinterval]
    exact hpos
  · show 5 * s1.tickInterval.toNat < 2 ^ 32
    rw [hinterval]
    exact hsmall
  · exact fun i => Slot.of_idle rfl rfl rfl (hidle () i)

theorem step_inv (e : PacingEvent) (h : st.Inv) (htimely : st.Timely e) (hsucceeds : st.Succeeds e)
    (hreach : st.InReach e) (hs : st.step e = some st') : st'.Inv := by
  have hnot := hsucceeds st' hs
  cases e with
  | create i sa da ar iocrs crep allocated =>
    obtain rfl := Option.some.inj hs
    exact create_inv h i sa da ar iocrs crep allocated
  | activate i exec now => exact activate_inv h htimely hnot hreach hs
  | close i => exact close_inv h hs
  | call c foreign => exact call_inv h foreign htimely hs
  | nextTick => exact nextTick_inv h hs
  | round sent now => exact round_inv h htimely hnot hreach hs

end Pacing

end PNet.Cyclic
