import PNet.LifeCycle.Connecting

/-! # The timers of the ARs over a run

The ARs are in order in each state of a run whose steps meet the conditions (`run_good`). So

* `timersEnd_of_conditions`: CMIO and CMSM have a timer at most, and an AR that has been released has
  none,
* `neverSilent_of_conditions`: a PPM and a CPM that run have exactly one.
-/

namespace PNet.LifeCycle

open Scheduler
open Connect (ArParam AlarmCrRequest PF_IOCR_TYPE_INPUT PF_IOCR_TYPE_OUTPUT)

/-! ## Runs -/

/-- The conditions on a step, each for the components that it is about. -/
structure Meets (p : Kind → Prop) (sent : Prop) (st : Stack) (e : Step) : Prop where
  completes : p .cpm → Completes st e
  stops : p .cmio → Stops st e
  quiet : p .apmx → Quiet st e
  sends : p .ppm → sent → Sent st e

variable {p : Kind → Prop} {sent : Prop} {st st' : Stack} {tickInterval : Time}
  {deviceMac : Vector Byte 6} {steps : List Step}

theorem init_good (h : Stack.init tickInterval deviceMac = some st) : Good p sent st := by
  rcases Option.map_eq_some_iff.mp h with ⟨s, hs, rfl⟩
  rcases Family.init_tidy (f := timers) hs with ⟨ht, hidle⟩
  refine ⟨ht, fun a => .of_rest nofun (fun k i _ => ?_) fun k i _ _ => hidle k i⟩
  cases k with
  | cmio => exact ⟨.inl rfl, fun h => h (.inl rfl)⟩
  | cmsm => exact ⟨rfl, fun h => h rfl⟩
  | cpm => exact ⟨rfl, Bool.false_ne_true⟩
  | ppm => exact ⟨rfl, Bool.false_ne_true⟩
  | apmx => exact ⟨rfl, fun h => h rfl⟩

/-- What happens to an AR that may not be in use. -/
theorem guarded_good {b : Bool} {x : Option Stack} (h : Good p sent st)
    (hx : b = true → x = some st' → Good p sent st')
    (hs : (if b = true then x else some st) = some st') : Good p sent st' := by
  cases b with
  | true => exact hx rfl hs
  | false =>
    obtain rfl : st = st' := Option.some.inj hs
    exact h

theorem step_good {e : Step} (h : Good p sent st) (hm : Meets p sent st e)
    (hs : step st e = some st') : Good p sent st' := by
  cases e with
  | connect request verdict allocated clock => exact (connect_spec h hm.stops hm.completes hs).1
  | dcontrol a d clock => exact guarded_good h (fun huse => dcontrol_good h huse) hs
  | applicationReady a dataAvail requested clock =>
    exact guarded_good h (fun huse => applicationReady_good h huse) hs
  | ccontrolCnf a positive done clock =>
    exact guarded_good h (fun huse => ccontrolCnf_good h huse hm.stops) hs
  | frame c f frameIdPos => exact frame_good h hs
  | record a now => exact guarded_good h (fun huse => record_good h huse) hs
  | sendAlarm k alarm env =>
    exact guarded_good h (fun huse => sendAlarm_good h huse hm.stops hm.quiet) hs
  | alarmFrame k pduType ackSeqNbr =>
    obtain rfl := Option.some.inj hs
    exact alarmFrame_good h k pduType ackSeqNbr
  | abort a =>
    exact guarded_good h (fun huse => abort_good h huse fun hp => hm.stops hp a rfl) hs
  | call call hforeign =>
    rcases Option.map_eq_some_iff.mp hs with ⟨s, hcall, rfl⟩
    exact call_good h hforeign hcall
  | round tick env => exact round_good h hm.stops hm.sends hs

theorem run_good (hrun : runInit tickInterval deviceMac steps = some st)
    (hmeets : ∀ st0, Stack.init tickInterval deviceMac = some st0 →
      Runs.Along step (Meets p sent) st0 steps) : Good p sent st := by
  rcases Option.bind_eq_some_iff.mp hrun with ⟨st0, hst0, hsteps⟩
  exact Runs.invariant (fun _ _ _ h hm hs => step_good h hm hs) (init_good hst0) (hmeets st0 hst0)
    hsteps

/-! ## The timers of a machine -/

/-- The pending timers of a machine. -/
def timersOf (st : Stack) (k : Kind) (i : ℕ) : List Timer :=
  (pending st.sched).filter fun e => e.job = timers.job k i

theorem mem_timersOf {k : Kind} {i : ℕ} {e : Timer} :
    e ∈ timersOf st k i ↔ timers.Runs st.sched k i e := by
  unfold timersOf
  rw [List.mem_filter, decide_eq_true_iff]
  rfl

theorem timersOf_nodup (ht : timers.Tidy st.sched) (k : Kind) (i : ℕ) : (timersOf st k i).Nodup := by
  rcases ht.represents with ⟨q, hq⟩
  have hnodup : (pending st.sched).Nodup := by
    rw [hq.pending_eq]
    exact hq.pending_nodup
  exact hnodup.filter _

theorem timersOf_idle {k : Kind} {i : ℕ} (h : timers.Idle st.sched k i) : timersOf st k i = [] :=
  List.eq_nil_iff_forall_not_mem.mpr fun e he => h e (mem_timersOf.mp he)

theorem timersOf_armed {k : Kind} {i : ℕ} (ht : timers.Tidy st.sched)
    (h : timers.Armed st.sched k i) : (timersOf st k i).length = 1 := by
  rcases h with ⟨e, -, hall⟩
  have hperm : (timersOf st k i).Perm [e] := by
    refine (List.perm_ext_iff_of_nodup (timersOf_nodup ht k i) (List.nodup_singleton e)).mpr ?_
    intro e'
    rw [mem_timersOf, hall, List.mem_singleton]
  exact hperm.length_eq

/-! ## No timer multiplies or stays -/

/-- After the run, CMIO and CMSM of an AR have one timer at most, and an AR that is not in use has
none. -/
def TimersEnd (tickInterval : Time) (deviceMac : Vector Byte 6) (steps : List Step) : Prop :=
  ∀ st, runInit tickInterval deviceMac steps = some st →
    (∀ a, (timersOf st .cmio a).length ≤ 1 ∧ (timersOf st .cmsm a).length ≤ 1) ∧
      ∀ a, (st.ar a).inUse = false → ∀ k i, k.arOf i = a → timersOf st k i = []

/-- The conditions of `timersEnd_of_conditions`. -/
def Clean (st : Stack) (e : Step) : Prop := Completes st e ∧ Stops st e ∧ Quiet st e

instance (st : Stack) (e : Step) : Decidable (Clean st e) := by
  unfold Clean
  infer_instance

/-- In a run in which no AR is aborted while its poll is pending, no alarm is sent while a resend
timer is pending, and no start-up fails behind a CPM that has been started, the timers end. -/
theorem timersEnd_of_conditions (tickInterval : Time) (deviceMac : Vector Byte 6)
    (steps : List Step) (hclean : ∀ st, Stack.init tickInterval deviceMac = some st →
      Runs.Along step Clean st steps) : TimersEnd tickInterval deviceMac steps := by
  intro st hrun
  have hgood : Good (fun _ => True) False st :=
    run_good hrun fun st0 hst0 => (hclean st0 hst0).mono fun _ _ h =>
      ⟨fun _ => h.1, fun _ => h.2.1, fun _ => h.2.2, fun _ => False.elim⟩
  have hone (k : Kind) (i : ℕ) : (timersOf st k i).length ≤ 1 := by
    rcases ((hgood.orderly _).slots k i rfl).timer trivial with hidle | ⟨harmed, -⟩
    · rw [timersOf_idle hidle]
      exact Nat.zero_le 1
    · exact (timersOf_armed hgood.tidy harmed).le
  refine ⟨fun a => ⟨hone .cmio a, hone .cmsm a⟩, fun a hfree k i hk => ?_⟩
  exact timersOf_idle (hgood.idle_of_free hfree k i trivial hk)

/-! ## No machine dies silently -/

/-- Exactly one timer of the machine of a CR is pending, or an error has been reported. -/
def Kept (st : Stack) (k : Kind) (c : ℕ) : Prop :=
  (timersOf st k c).length = 1 ∨
    Note.event (st.connection (c / PNET_MAX_CR)) .PNET_EVENT_ABORT ∈ st.notes

/-- After the run, each PPM and each CPM that runs has its timer. -/
def NeverSilent (tickInterval : Time) (deviceMac : Vector Byte 6) (steps : List Step) : Prop :=
  ∀ st, runInit tickInterval deviceMac steps = some st → ∀ c,
    ((st.iocr c).ppm.state ≠ .PF_PPM_STATE_W_START → Kept st .ppm c) ∧
      ((st.iocr c).cpm.state ≠ .PF_CPM_STATE_W_START → Kept st .cpm c)

/-- The conditions of `neverSilent_of_sent`. -/
def Sends (st : Stack) (e : Step) : Prop := Sent st e ∧ Completes st e

instance (st : Stack) (e : Step) : Decidable (Sends st e) := by
  unfold Sends
  infer_instance

/-- In a run in which the driver sends each frame, and no start-up fails behind a CPM that has been
started, no machine dies silently. -/
theorem neverSilent_of_sent (tickInterval : Time) (deviceMac : Vector Byte 6) (steps : List Step)
    (hsends : ∀ st, Stack.init tickInterval deviceMac = some st →
      Runs.Along step Sends st steps) : NeverSilent tickInterval deviceMac steps := by
  intro st hrun c
  have hgood : Good (fun k => k = Kind.cpm ∨ k = Kind.ppm) True st :=
    run_good hrun fun st0 hst0 => (hsends st0 hst0).mono fun _ _ h =>
      ⟨fun _ => h.2, nofun, nofun, fun _ _ => h.1⟩
  have hkept {k : Kind} (hp : k = Kind.cpm ∨ k = Kind.ppm) (hnot : ¬ AtRest st k c) :
      Kept st k c := by
    have hslot := (hgood.orderly _).slots k c rfl
    exact .inl (timersOf_armed hgood.tidy
      (hslot.alive hp (hp.imp_right fun h => ⟨h, trivial⟩) hnot))
  exact ⟨hkept (.inr rfl), hkept (.inl rfl)⟩

/-! ## One AR with two CRs -/

namespace TwoCrs

/-- A CR with 40 bytes of data, every millisecond. -/
def cr (iocrType : BitVec 16) : NewIocr where
  param := {
    iocrType
    iocrReference := 1
    ltField := 0x8892
    iocrProperties := ⟨1, 0, 0, 0⟩
    cSduLength := 40
    frameId := 0xC000
    sendClockFactor := 32
    reductionRatio := 1
    phase := 1
    sequence := 0
    frameSendOffset := 0
    watchdogFactor := 3
    dataHoldFactor := 3
    iocrTagHeader := ⟨0, 6⟩
    iocrMulticastMacAdd := Vector.replicate 6 0
    apis := [] }
  inLength := 40

def arParam : ArParam where
  arType := 1
  arUuid := Rpc.zeroUuid
  sessionKey := 1
  cmInitiatorMacAdd := Vector.replicate 6 1
  cmInitiatorObjectUuid := Rpc.zeroUuid
  arProperties := ⟨1, false, 0, false, 0, false, false, true, false⟩
  cmInitiatorActivityTimeoutFactor := 600
  cmInitiatorUdpRtPort := 0x8892
  cmInitiatorStationNameLen := 0
  cmInitiatorStationName := []

def alarmCrRequest : AlarmCrRequest where
  alarmCrType := 1
  ltField := 0x8892
  priority := false
  transportUdp := false
  rtaTimeoutFactor := 1
  rtaRetries := 3
  localAlarmReference := 1
  maxAlarmDataLength := 200
  alarmCrTagHeaderHigh := ⟨0, 0⟩
  alarmCrTagHeaderLow := ⟨0, 0⟩

def request : Request where
  arParam
  alarmCrRequest
  iocrs := [cr PF_IOCR_TYPE_OUTPUT, cr PF_IOCR_TYPE_INPUT]
  room := by decide

/-- A frame of the controller. -/
def frame : Cyclic.Frame where
  payload i := if 6 ≤ i ∧ i < 12 then 1 else if i = 57 then 1 else if i = 58 then 0x35 else 0
  len := 60

def mac : Vector Byte 6 := Vector.replicate 6 2

/-- The start-up until PRMEND. -/
def begun : List Step :=
  [.connect (some request) .accepted (fun _ => true) (fun _ => 0),
    .dcontrol 0 ⟨true, true, true, true⟩ (fun _ => 0)]

/-- A round, 100 ms after the start-up. -/
def later (sent : Bool) : Step := .round 100000 ⟨true, sent, 100000⟩

/-- Until the application has been told of DATA. -/
def running : List Step :=
  begun ++ [.frame 0 frame 14, .applicationReady 0 true true fun _ => 0, later true, later true,
    later true, .ccontrolCnf 0 true true fun _ => 0]

end TwoCrs

open TwoCrs in
/-- A connection that reaches DATA and ends. -/
theorem timersEnd_of_conditions_data :
    (runInit 1000 mac (running ++ [.abort 0])).map (fun st =>
      decide (Note.event 0 .PNET_EVENT_DATA ∈ st.notes)) = some true ∧
      TimersEnd 1000 mac (running ++ [.abort 0]) := by
  refine ⟨by decide +kernel, timersEnd_of_conditions 1000 mac _ ?_⟩
  have hall : (Stack.init 1000 mac).all
      (fun st => decide (Runs.Along step Clean st (running ++ [.abort 0]))) = true := by
    decide +kernel
  intro st hst
  rw [hst] at hall
  exact of_decide_eq_true hall

open TwoCrs in
/-- The AR is aborted in its start-up: the poll of CMIO stays. -/
theorem not_timersEnd_polled : ¬ TimersEnd 1000 mac (begun ++ [.abort 0]) := by
  have hruns : (runInit 1000 mac (begun ++ [.abort 0])).map (fun st =>
      ((st.ar 0).inUse, (timersOf st .cmio 0).length)) = some (false, 1) := by decide +kernel
  intro h
  rcases Option.map_eq_some_iff.mp hruns with ⟨st, hrun, hshows⟩
  rcases Prod.mk.inj hshows with ⟨hfree, hone⟩
  rw [(h st hrun).2 0 hfree .cmio 0 rfl] at hone
  cases hone

open TwoCrs in
/-- A PPM and a CPM that go on. -/
theorem neverSilent_of_sent_data :
    (runInit 1000 mac running).map (fun st => ((st.iocr 1).ppm.state, (st.iocr 0).cpm.state)) =
      some (.PF_PPM_STATE_RUN, .PF_CPM_STATE_RUN) ∧ NeverSilent 1000 mac running := by
  refine ⟨by decide +kernel, neverSilent_of_sent 1000 mac _ ?_⟩
  have hall : (Stack.init 1000 mac).all
      (fun st => decide (Runs.Along step Sends st running)) = true := by decide +kernel
  intro st hst
  rw [hst] at hall
  exact of_decide_eq_true hall

open TwoCrs in
/-- The driver does not send a frame: the PPM goes on without a timer, and nobody is told. -/
theorem not_neverSilent_unsent :
    ¬ NeverSilent 1000 mac (begun ++ [later false, later false]) := by
  have hruns : (runInit 1000 mac (begun ++ [later false, later false])).map (fun st =>
      ((st.iocr 1).ppm.state, (timersOf st .ppm 1).length,
        decide (Note.event (st.connection 0) .PNET_EVENT_ABORT ∈ st.notes))) =
      some (.PF_PPM_STATE_RUN, 0, false) := by decide +kernel
  intro h
  rcases Option.map_eq_some_iff.mp hruns with ⟨st, hrun, hshows⟩
  rcases Prod.mk.inj hshows with ⟨hstate, hshows⟩
  rcases Prod.mk.inj hshows with ⟨hnone, hnotes⟩
  rcases (h st hrun 1).1 (by rw [hstate]; decide) with hone | habort
  · exact absurd (hnone.symm.trans hone) (by decide)
  · exact of_decide_eq_false hnotes habort

end PNet.LifeCycle
