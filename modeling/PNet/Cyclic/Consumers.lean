import PNet.Cyclic.Buffers
import PNet.Lib.Runs

/-! # The watchdogs of the two consumer drivers

`pf_cpm_driver_sw.c` looks at each frame, and `pf_cpm_driver_lan9662.c` asks the MERA library at the
end of each control interval for the frames that its engine has received. The latter waits for a
provider that is running, and does not count the intervals of one that is not, or that reports a
problem.

* `sameReports_of_running`: as long as the provider is running without a problem, both report the
  start and the data-hold timeout in the same intervals.
-/

namespace PNet.Cyclic

/-! ## The driver of the LAN9662 -/

def PF_MERA_DATA_STATUS_MASK : Byte := 0x35

/-- `mera_ob_rtp_status_t`: whether the data status is another one than the mask, and which. -/
structure RtpStatus where
  pnDsChk : Bool
  pnDs : Byte
deriving DecidableEq, Repr

/-- `pf_mera_event_t`. -/
structure MeraEvent where
  stopped : Bool
  dataStatusMismatch : Bool
deriving DecidableEq, Repr

/-- What the MERA library answers at the end of a control interval: the number of all received
frames, the status, and the events. Without an answer the call has failed. -/
structure MeraAnswers where
  counters : Option ℕ
  status : Option RtpStatus
  event : Option MeraEvent
deriving DecidableEq, Repr

/-- The CPM with the `rx_count` of its frame. -/
structure MeraCpm where
  cpm : Cpm
  rxCount : ℕ

def providerRuns (dataStatus : Byte) : Bool := dataStatus &&& 0x10 ≠ 0

def stationProblem (dataStatus : Byte) : Bool := dataStatus &&& 0x20 = 0

namespace MeraCpm

/-- `pf_mera_cpm_read_rx_count`. -/
def readRxCount (x : MeraCpm) : Option ℕ → ℕ × MeraCpm
  | some rx0 =>
    (if x.rxCount ≤ rx0 then rx0 - x.rxCount else 0xFFFFFFFFFFFFFFFF, { x with rxCount := rx0 })
  | none => (0, x)

/-- `pf_mera_cpm_read_data_status`. -/
def readDataStatus : Option RtpStatus → Byte
  | some status => if status.pnDsChk then status.pnDs else PF_MERA_DATA_STATUS_MASK
  | none => 0

/-- `pf_cpm_drv_lan9662_ci_timeout`: what it reports with `pf_cpm_state_ind`, where `true` is the
start. -/
def ciTimeout (x : MeraCpm) (a : MeraAnswers) : List Bool × MeraCpm :=
  if x.cpm.ciRunning then
    let (rxCount, x) := x.readRxCount a.counters
    let dataStatus := readDataStatus a.status
    let event := a.event.getD ⟨false, false⟩
    let y : Cpm := { x.cpm with recvCnt := x.cpm.recvCnt + rxCount, dataStatus }
    let initial := decide (y.state ≠ .PF_CPM_STATE_RUN)
    let starts := initial && decide (0 < rxCount) && providerRuns dataStatus
    let y : Cpm := if starts then { y with state := .PF_CPM_STATE_RUN } else y
    let resetDht := initial ||
      (if 0 < rxCount ∧ event.dataStatusMismatch = false then true
        else !providerRuns dataStatus || stationProblem dataStatus)
    let y : Cpm := { y with dht := if resetDht then 0 else y.dht + 1 }
    if event.stopped ∨ y.dht = y.dataHoldFactor then
      ((if starts then [true] else []) ++ [false],
        { x with cpm := { y with dht := 0, ciRunning := false, state := .PF_CPM_STATE_W_START } })
    else (if starts then [true] else [], { x with cpm := y })
  else ([], x)

end MeraCpm

/-! ## Both drivers -/

/-- A report of a driver, with the number of the control interval. -/
inductive ConsumerReport where
  | start (interval : ℕ)
  | dataHold (interval : ℕ)
deriving DecidableEq, Repr

/-- Two CPMs that receive the same frames. The data statuses are those of all frames received so
far, the last one first, of which `recent` have come in this interval. -/
structure Consumers where
  sw : Cpm
  mera : MeraCpm
  interval : ℕ
  statuses : List Byte
  recent : ℕ
  swReports : List ConsumerReport
  meraReports : List ConsumerReport

inductive ConsumerStep where
  | frame (f : Frame) (frameIdPos : BitVec 16)
  | expiry (a : MeraAnswers)

/-- `pf_cpm_c_data_ind` reports the start at the first frame that it accepts. -/
def Cpm.reportsStart (x : Cpm) (f : Frame) (frameIdPos : BitVec 16) : Bool :=
  dataValid f && x.dhtReload f frameIdPos && decide (x.state = .PF_CPM_STATE_FRUN)

namespace Consumers

/-- Both CPMs have been activated. -/
def start (a : Cpm.Activation) : Consumers where
  sw := Cpm.zero.activateReq a
  mera := ⟨Cpm.zero.activateReq a, 0⟩
  interval := 0
  statuses := []
  recent := 0
  swReports := []
  meraReports := []

def step (w : Consumers) : ConsumerStep → Option Consumers
  | .frame f frameIdPos =>
    some { w with
      sw := w.sw.cDataInd f frameIdPos
      statuses := (Cpm.trailer f).dataStatus :: w.statuses
      recent := w.recent + 1
      swReports := w.swReports ++
        if w.sw.reportsStart f frameIdPos then [.start w.interval] else [] }
  | .expiry a =>
    let (starts, mera) := w.mera.ciTimeout a
    some { w with
      sw := w.sw.controlIntervalExpired
      mera
      interval := w.interval + 1
      recent := 0
      swReports := w.swReports ++ if w.sw.reportsDataHold then [.dataHold w.interval] else []
      meraReports := w.meraReports ++
        starts.map fun s => if s then .start w.interval else .dataHold w.interval }

/-- Frames are primary, valid, well-formed and in sequence. The MERA library answers with all frames
received so far and the data status of the last one; it stops nothing, and tells of a mismatch only
when a frame of this interval has another data status than the mask. -/
def Assumed (w : Consumers) : ConsumerStep → Prop
  | .frame f frameIdPos => w.sw.state ≠ .PF_CPM_STATE_W_START →
      Accepts w.sw f frameIdPos ∧ Cpm.primary f = true
  | .expiry ⟨some rx0, some status, some event⟩ =>
    rx0 = w.statuses.length ∧
      (∀ s ∈ w.statuses.head?,
        (status.pnDsChk = true ↔ s &&& PF_MERA_DATA_STATUS_MASK ≠ PF_MERA_DATA_STATUS_MASK) ∧
          (status.pnDsChk = true → status.pnDs = s)) ∧
      event.stopped = false ∧
      (event.dataStatusMismatch = true → ∃ s ∈ w.statuses.take w.recent,
        s &&& PF_MERA_DATA_STATUS_MASK ≠ PF_MERA_DATA_STATUS_MASK)
  | .expiry _ => False

/-- The provider is running, and reports no problem. -/
def Running : ConsumerStep → Prop
  | .frame f _ => (Cpm.trailer f).dataStatus &&& 0x30 = 0x30
  | .expiry _ => True

/-- Both have reported the same at the end of each interval; within it, the start may have been
reported by the software only. -/
def SameReports (w : Consumers) : Prop :=
  w.swReports = w.meraReports ∨
    0 < w.recent ∧ w.swReports = w.meraReports ++ [.start w.interval]

instance (w : Consumers) : (e : ConsumerStep) → Decidable (w.Assumed e)
  | .frame _ _ => inferInstanceAs (Decidable (_ → _))
  | .expiry ⟨some _, some _, some _⟩ => inferInstanceAs (Decidable (_ ∧ _ ∧ _ ∧ _))
  | .expiry ⟨none, _, _⟩ => inferInstanceAs (Decidable False)
  | .expiry ⟨some _, none, _⟩ => inferInstanceAs (Decidable False)
  | .expiry ⟨some _, some _, none⟩ => inferInstanceAs (Decidable False)

instance (w : Consumers) : Decidable w.SameReports := inferInstanceAs (Decidable (_ ∨ _))

instance : (e : ConsumerStep) → Decidable (Running e)
  | .frame _ _ => inferInstanceAs (Decidable (_ = _))
  | .expiry _ => inferInstanceAs (Decidable True)

end Consumers

/-! ## One expiry -/

namespace MeraCpm

variable {x : MeraCpm} {a : MeraAnswers} {rx0 : ℕ}

/-- Nothing happens after the timer has been stopped. -/
theorem ciTimeout_idle (h : x.cpm.ciRunning = false) : x.ciTimeout a = ([], x) := by
  unfold ciTimeout
  rw [if_neg (ne_true_of_eq_false h)]

/-- Answers that tell of a provider that runs without a problem. -/
structure Healthy (x : MeraCpm) (a : MeraAnswers) (rx0 : ℕ) : Prop where
  running : x.cpm.ciRunning = true
  factor : 1 ≤ x.cpm.dataHoldFactor
  counters : a.counters = some rx0 ∧ x.rxCount ≤ rx0
  event : a.event = some ⟨false, false⟩

theorem Healthy.readRxCount (h : Healthy x a rx0) :
    x.readRxCount a.counters = (rx0 - x.rxCount, { x with rxCount := rx0 }) := by
  rw [h.counters.1, MeraCpm.readRxCount, if_pos h.counters.2]

/-- Without a frame it waits for the start. -/
theorem ciTimeout_wait (h : Healthy x a rx0) (hstate : x.cpm.state = .PF_CPM_STATE_FRUN)
    (hsame : rx0 = x.rxCount) :
    (x.ciTimeout a).1 = [] ∧ (x.ciTimeout a).2.rxCount = rx0 ∧
      (x.ciTimeout a).2.cpm.state = .PF_CPM_STATE_FRUN ∧
      (x.ciTimeout a).2.cpm.ciRunning = true ∧
      (x.ciTimeout a).2.cpm.dataHoldFactor = x.cpm.dataHoldFactor := by
  have hfactor : ¬0 = x.cpm.dataHoldFactor := by
    have hone := h.factor
    omega
  unfold ciTimeout
  rw [if_pos h.running, h.readRxCount, h.event]
  simp [hstate, hsame, h.running, hfactor]

/-- At the end of the interval of the first frame it starts. -/
theorem ciTimeout_start (h : Healthy x a rx0) (hstate : x.cpm.state = .PF_CPM_STATE_FRUN)
    (hmore : x.rxCount < rx0) (hstatus : readDataStatus a.status = PF_MERA_DATA_STATUS_MASK) :
    (x.ciTimeout a).1 = [true] ∧ (x.ciTimeout a).2.rxCount = rx0 ∧
      (x.ciTimeout a).2.cpm.state = .PF_CPM_STATE_RUN ∧
      (x.ciTimeout a).2.cpm.ciRunning = true ∧ (x.ciTimeout a).2.cpm.dht = 0 ∧
      (x.ciTimeout a).2.cpm.dataHoldFactor = x.cpm.dataHoldFactor := by
  have hfactor : ¬0 = x.cpm.dataHoldFactor := by
    have hone := h.factor
    omega
  have hpos : 0 < rx0 - x.rxCount := Nat.sub_pos_of_lt hmore
  have hruns : providerRuns PF_MERA_DATA_STATUS_MASK = true := rfl
  unfold ciTimeout
  rw [if_pos h.running, h.readRxCount, h.event, hstatus]
  simp [hstate, hpos, h.running, hfactor, hruns]

/-- A frame has come. -/
theorem ciTimeout_alive (h : Healthy x a rx0) (hstate : x.cpm.state = .PF_CPM_STATE_RUN)
    (hmore : x.rxCount < rx0) :
    (x.ciTimeout a).1 = [] ∧ (x.ciTimeout a).2.rxCount = rx0 ∧
      (x.ciTimeout a).2.cpm.state = .PF_CPM_STATE_RUN ∧
      (x.ciTimeout a).2.cpm.ciRunning = true ∧ (x.ciTimeout a).2.cpm.dht = 0 ∧
      (x.ciTimeout a).2.cpm.dataHoldFactor = x.cpm.dataHoldFactor := by
  have hfactor : ¬0 = x.cpm.dataHoldFactor := by
    have hone := h.factor
    omega
  have hpos : 0 < rx0 - x.rxCount := Nat.sub_pos_of_lt hmore
  unfold ciTimeout
  rw [if_pos h.running, h.readRxCount, h.event]
  simp [hstate, hpos, h.running, hfactor]

/-- No frame has come, for the last time. -/
theorem ciTimeout_stop (h : Healthy x a rx0) (hstate : x.cpm.state = .PF_CPM_STATE_RUN)
    (hsame : rx0 = x.rxCount) (hstatus : readDataStatus a.status = PF_MERA_DATA_STATUS_MASK)
    (hdht : x.cpm.dht + 1 = x.cpm.dataHoldFactor) :
    (x.ciTimeout a).1 = [false] ∧ (x.ciTimeout a).2.cpm.ciRunning = false := by
  have hruns : providerRuns PF_MERA_DATA_STATUS_MASK = true := rfl
  have hproblem : stationProblem PF_MERA_DATA_STATUS_MASK = false := rfl
  unfold ciTimeout
  rw [if_pos h.running, h.readRxCount, h.event, hstatus]
  simp [hstate, hsame, hdht, hruns, hproblem]

/-- No frame has come, but there is time left. -/
theorem ciTimeout_hold (h : Healthy x a rx0) (hstate : x.cpm.state = .PF_CPM_STATE_RUN)
    (hsame : rx0 = x.rxCount) (hstatus : readDataStatus a.status = PF_MERA_DATA_STATUS_MASK)
    (hdht : x.cpm.dht + 1 ≠ x.cpm.dataHoldFactor) :
    (x.ciTimeout a).1 = [] ∧ (x.ciTimeout a).2.rxCount = rx0 ∧
      (x.ciTimeout a).2.cpm.state = .PF_CPM_STATE_RUN ∧
      (x.ciTimeout a).2.cpm.ciRunning = true ∧
      (x.ciTimeout a).2.cpm.dht = x.cpm.dht + 1 ∧
      (x.ciTimeout a).2.cpm.dataHoldFactor = x.cpm.dataHoldFactor := by
  have hruns : providerRuns PF_MERA_DATA_STATUS_MASK = true := rfl
  have hproblem : stationProblem PF_MERA_DATA_STATUS_MASK = false := rfl
  unfold ciTimeout
  rw [if_pos h.running, h.readRxCount, h.event, hstatus]
  simp [hstate, hsame, hdht, hruns, hproblem, h.running]

end MeraCpm

/-! ## The software driver -/

section
variable {x : Cpm} {f : Frame} {frameIdPos : BitVec 16}

theorem Cpm.reportsStart_eq (h : Accepts x f frameIdPos) :
    x.reportsStart f frameIdPos = decide (x.state = .PF_CPM_STATE_FRUN) := by
  rw [reportsStart, dhtReload_eq x frameIdPos h.2.1, h.2.1, h.2.2.1, h.2.2.2]
  rfl

/-- An expiry that does not report the timeout counts the interval in RUN only. -/
theorem controlIntervalExpired_wait (hstate : x.state = .PF_CPM_STATE_FRUN) :
    x.reportsDataHold = false ∧ x.controlIntervalExpired = x := by
  unfold Cpm.reportsDataHold Cpm.controlIntervalExpired
  rw [hstate]
  refine ⟨by simp, ?_⟩
  split_ifs <;> rfl

theorem controlIntervalExpired_hold (hrunning : x.ciRunning = true)
    (hstate : x.state = .PF_CPM_STATE_RUN) (hdht : x.dht < x.dataHoldFactor) :
    x.reportsDataHold = false ∧ x.controlIntervalExpired = { x with dht := x.dht + 1 } := by
  unfold Cpm.reportsDataHold Cpm.controlIntervalExpired
  rw [if_pos hrunning, hstate]
  refine ⟨by simp [hdht], ?_⟩
  dsimp only
  exact if_neg hdht.not_ge

theorem controlIntervalExpired_stop (hrunning : x.ciRunning = true)
    (hstate : x.state = .PF_CPM_STATE_RUN) (hdht : x.dataHoldFactor ≤ x.dht) :
    x.reportsDataHold = true ∧ x.controlIntervalExpired.state = .PF_CPM_STATE_W_START ∧
      x.controlIntervalExpired.ciRunning = false := by
  unfold Cpm.reportsDataHold Cpm.controlIntervalExpired
  rw [if_pos hrunning, hrunning, hstate]
  dsimp only
  rw [if_pos hdht]
  exact ⟨by simp [hdht], rfl, rfl⟩

end

/-! ## Both of them -/

namespace Consumers

/-- Neither has stopped, and the frames are those of a provider that runs without a problem. -/
structure Watching (w : Consumers) : Prop where
  running : w.sw.ciRunning = true ∧ w.mera.cpm.ciRunning = true
  factor : w.mera.cpm.dataHoldFactor = w.sw.dataHoldFactor ∧ 1 ≤ w.sw.dataHoldFactor
  counted : w.mera.rxCount + w.recent = w.statuses.length
  statuses : ∀ s ∈ w.statuses, s &&& PF_MERA_DATA_STATUS_MASK = PF_MERA_DATA_STATUS_MASK

/-- What the two have in common: no frame has come, the first ones have come in this interval, both
have started, or both have stopped. -/
inductive Phase (w : Consumers) : Prop
  | wait (h : w.Watching) (sw : w.sw.state = .PF_CPM_STATE_FRUN)
      (mera : w.mera.cpm.state = .PF_CPM_STATE_FRUN) (recent : w.recent = 0)
      (reports : w.swReports = w.meraReports)
  | begun (h : w.Watching) (sw : w.sw.state = .PF_CPM_STATE_RUN)
      (mera : w.mera.cpm.state = .PF_CPM_STATE_FRUN) (recent : 0 < w.recent) (dht : w.sw.dht = 0)
      (reports : w.swReports = w.meraReports ++ [.start w.interval])
  | run (h : w.Watching) (sw : w.sw.state = .PF_CPM_STATE_RUN)
      (mera : w.mera.cpm.state = .PF_CPM_STATE_RUN) (received : w.statuses ≠ [])
      (alive : 0 < w.recent → w.sw.dht = 0) (silent : w.recent = 0 → w.sw.dht = w.mera.cpm.dht + 1)
      (dht : w.sw.dht ≤ w.sw.dataHoldFactor) (reports : w.swReports = w.meraReports)
  | ended (sw : w.sw.state = .PF_CPM_STATE_W_START ∧ w.sw.ciRunning = false)
      (mera : w.mera.cpm.ciRunning = false) (reports : w.swReports = w.meraReports)

theorem Phase.sameReports {w : Consumers} (h : w.Phase) : w.SameReports := by
  cases h with
  | wait _ _ _ _ reports => exact .inl reports
  | begun _ _ _ recent _ reports => exact .inr ⟨recent, reports⟩
  | run _ _ _ _ _ _ _ reports => exact .inl reports
  | ended _ _ reports => exact .inl reports

/-- Primary, valid, running and without a problem. -/
theorem mask_of_running : ∀ s : Byte, s &&& 0x01 ≠ 0 → s &&& 0x04 ≠ 0 → s &&& 0x30 = 0x30 →
    s &&& PF_MERA_DATA_STATUS_MASK = PF_MERA_DATA_STATUS_MASK := by
  decide +kernel

variable {w w' : Consumers}

/-- A frame is accepted. -/
theorem Phase.frame (h : w.Phase) {f : Frame} {frameIdPos : BitVec 16}
    (hassumed : w.Assumed (.frame f frameIdPos)) (hrunning : Running (.frame f frameIdPos))
    (hs : w.step (.frame f frameIdPos) = some w') : w'.Phase := by
  obtain rfl := Option.some.inj hs
  by_cases hstop : w.sw.state = .PF_CPM_STATE_W_START
  · -- the software counts it as an error
    have hnot : ¬Accepts w.sw f frameIdPos := fun haccepts => haccepts.1 hstop
    have hreports : w.sw.reportsStart f frameIdPos = false := by
      rw [Cpm.reportsStart, hstop]
      simp
    rcases (Cpm.cDataInd_eq w.sw f frameIdPos).2 hnot with ⟨errcnt, hsw⟩
    rw [hreports, hsw]
    cases h with
    | wait _ sw => cases hstop.symm.trans sw
    | begun _ sw => cases hstop.symm.trans sw
    | run _ sw => cases hstop.symm.trans sw
    | ended sw mera reports =>
      refine .ended sw mera ?_
      show w.swReports ++ [] = w.meraReports
      rw [List.append_nil]
      exact reports
  · rcases hassumed hstop with ⟨haccepts, hprimary⟩
    have hmask : (Cpm.trailer f).dataStatus &&& PF_MERA_DATA_STATUS_MASK =
        PF_MERA_DATA_STATUS_MASK :=
      mask_of_running _ (of_decide_eq_true hprimary) (of_decide_eq_true haccepts.2.1) hrunning
    have hsw := (Cpm.cDataInd_eq w.sw f frameIdPos).1 haccepts
    have hwatching (hw : w.Watching) (swReports : List ConsumerReport) : Watching
        { w with
          sw := w.sw.taken f frameIdPos
          statuses := (Cpm.trailer f).dataStatus :: w.statuses
          recent := w.recent + 1
          swReports } := by
      constructor
      · exact hw.running
      · exact hw.factor
      · have hcounted := hw.counted
        show w.mera.rxCount + (w.recent + 1) = w.statuses.length + 1
        omega
      · exact List.forall_mem_cons.mpr ⟨hmask, hw.statuses⟩
    rw [Cpm.reportsStart_eq haccepts, hsw]
    cases h with
    | wait hw sw mera recent reports =>
      rw [sw]
      exact .begun (hwatching hw _) rfl mera (Nat.succ_pos _) rfl
        (congrArg (fun l => l ++ [ConsumerReport.start w.interval]) reports)
    | begun hw sw mera recent dht reports =>
      rw [sw]
      refine .begun (hwatching hw _) rfl mera (Nat.succ_pos _) rfl ?_
      show w.swReports ++ [] = w.meraReports ++ [.start w.interval]
      rw [List.append_nil]
      exact reports
    | run hw sw mera received alive silent dht reports =>
      rw [sw]
      refine .run (hwatching hw _) rfl mera (List.cons_ne_nil _ _) (fun _ => rfl)
        (fun hzero => absurd hzero (Nat.succ_ne_zero _)) (Nat.zero_le _) ?_
      show w.swReports ++ [] = w.meraReports
      rw [List.append_nil]
      exact reports
    | ended sw => exact absurd sw.1 hstop

/-- What the MERA library answers to a CPM that has not stopped. -/
theorem Watching.healthy (h : w.Watching) {a : MeraAnswers} (hassumed : w.Assumed (.expiry a)) :
    w.mera.Healthy a w.statuses.length ∧
      (w.statuses ≠ [] → MeraCpm.readDataStatus a.status = PF_MERA_DATA_STATUS_MASK) := by
  rcases a with ⟨_ | rx0, _ | status, _ | event⟩
  case some.some.some =>
    rcases hassumed with ⟨rfl, hstatus, hstopped, hmismatch⟩
    have hnone : event.dataStatusMismatch = false := by
      by_contra htrue
      rcases hmismatch (Bool.not_eq_false _ ▸ htrue) with ⟨s, hs, hne⟩
      exact hne (h.statuses s (List.mem_of_mem_take hs))
    constructor
    · constructor
      · exact h.running.2
      · exact h.factor.1 ▸ h.factor.2
      · exact ⟨rfl, h.counted ▸ Nat.le_add_right _ _⟩
      · rcases event with ⟨stopped, mismatch⟩
        cases hstopped
        cases hnone
        rfl
    · intro hne
      have hhead := hstatus (w.statuses.head hne) (List.head?_eq_some_head hne)
      have hchk : ¬status.pnDsChk = true := fun htrue =>
        hhead.1.mp htrue (h.statuses _ (List.head_mem hne))
      exact if_neg hchk
  all_goals cases hassumed

/-- What an expiry makes of both, once it is known what the drivers do. -/
theorem step_expiry {a : MeraAnswers} {starts : List Bool} {mera : MeraCpm} {sw : Cpm} {hold : Bool}
    (hmera : w.mera.ciTimeout a = (starts, mera))
    (hsw : w.sw.reportsDataHold = hold ∧ w.sw.controlIntervalExpired = sw)
    (hs : w.step (.expiry a) = some w') :
    w' = { w with
      sw, mera
      interval := w.interval + 1
      recent := 0
      swReports := w.swReports ++ if hold then [.dataHold w.interval] else []
      meraReports := w.meraReports ++
        starts.map fun s => if s then .start w.interval else .dataHold w.interval } := by
  unfold step at hs
  dsimp only at hs
  rw [hmera, hsw.1, hsw.2] at hs
  exact (Option.some.inj hs).symm

/-- The control interval expires. -/
theorem Phase.expiry (h : w.Phase) {a : MeraAnswers} (hassumed : w.Assumed (.expiry a))
    (hs : w.step (.expiry a) = some w') : w'.Phase := by
  rcases hmera : w.mera.ciTimeout a with ⟨starts, mera'⟩
  cases h with
  | wait hw sw mera recent reports =>
    rcases hw.healthy hassumed with ⟨hhealthy, -⟩
    have hsame : w.statuses.length = w.mera.rxCount := by
      rw [← hw.counted, recent, Nat.add_zero]
    have hwait := MeraCpm.ciTimeout_wait hhealthy mera hsame
    rw [hmera] at hwait
    rcases hwait with ⟨rfl, hcount, hstate, hrunning, hfactor⟩
    rw [step_expiry hmera (controlIntervalExpired_wait sw) hs]
    refine .wait ⟨⟨hw.running.1, hrunning⟩, ⟨hfactor.trans hw.factor.1, hw.factor.2⟩, hcount,
      hw.statuses⟩ sw hstate rfl ?_
    exact congrArg (fun l => l ++ []) reports
  | begun hw sw mera recent dht reports =>
    rcases hw.healthy hassumed with ⟨hhealthy, hstatus⟩
    have hmore : w.mera.rxCount < w.statuses.length := by
      rw [← hw.counted]
      exact Nat.lt_add_of_pos_right recent
    have hne : w.statuses ≠ [] := List.ne_nil_of_length_pos (Nat.zero_lt_of_lt hmore)
    have hdht : w.sw.dht < w.sw.dataHoldFactor := dht.trans_lt hw.factor.2
    have hstart := MeraCpm.ciTimeout_start hhealthy mera hmore (hstatus hne)
    rw [hmera] at hstart
    rcases hstart with ⟨rfl, hcount, hstate, hrunning, hdht', hfactor⟩
    rw [step_expiry hmera (controlIntervalExpired_hold hw.running.1 sw hdht) hs]
    refine .run ⟨⟨hw.running.1, hrunning⟩, ⟨hfactor.trans hw.factor.1, hw.factor.2⟩, hcount,
      hw.statuses⟩ sw hstate hne (fun hpos => absurd hpos (lt_irrefl 0)) (fun _ => ?_) hdht ?_
    · show w.sw.dht + 1 = mera'.cpm.dht + 1
      rw [dht, hdht']
    · show w.swReports ++ [] = w.meraReports ++ [.start w.interval]
      rw [List.append_nil]
      exact reports
  | run hw sw mera received alive silent dht reports =>
    rcases hw.healthy hassumed with ⟨hhealthy, hstatus⟩
    have hreports : w.swReports ++ [] = w.meraReports ++ [] := congrArg (fun l => l ++ []) reports
    rcases Nat.eq_zero_or_pos w.recent with hzero | hpos
    · -- no frame in this interval
      have hsame : w.statuses.length = w.mera.rxCount := by
        rw [← hw.counted, hzero, Nat.add_zero]
      have hsilent := silent hzero
      rcases Nat.lt_or_ge w.sw.dht w.sw.dataHoldFactor with hdht | hdht
      · have hleft : w.mera.cpm.dht + 1 ≠ w.mera.cpm.dataHoldFactor := by
          rw [← hsilent, hw.factor.1]
          exact hdht.ne
        have hhold := MeraCpm.ciTimeout_hold hhealthy mera hsame (hstatus received) hleft
        rw [hmera] at hhold
        rcases hhold with ⟨rfl, hcount, hstate, hrunning, hdht', hfactor⟩
        rw [step_expiry hmera (controlIntervalExpired_hold hw.running.1 sw hdht) hs]
        refine .run ⟨⟨hw.running.1, hrunning⟩, ⟨hfactor.trans hw.factor.1, hw.factor.2⟩, hcount,
          hw.statuses⟩ sw hstate received (fun hpos => absurd hpos (lt_irrefl 0)) (fun _ => ?_)
          hdht hreports
        show w.sw.dht + 1 = mera'.cpm.dht + 1
        rw [hsilent, hdht']
      · have hleft : w.mera.cpm.dht + 1 = w.mera.cpm.dataHoldFactor := by
          rw [← hsilent, hw.factor.1]
          exact le_antisymm dht hdht
        have hstop := MeraCpm.ciTimeout_stop hhealthy mera hsame (hstatus received) hleft
        rw [hmera] at hstop
        rcases hstop with ⟨rfl, hrunning⟩
        rcases controlIntervalExpired_stop hw.running.1 sw hdht with ⟨hhold, hstop⟩
        rw [step_expiry hmera ⟨hhold, rfl⟩ hs]
        exact .ended hstop hrunning
          (congrArg (fun l => l ++ [ConsumerReport.dataHold w.interval]) reports)
    · have hmore : w.mera.rxCount < w.statuses.length := by
        rw [← hw.counted]
        exact Nat.lt_add_of_pos_right hpos
      have hdht : w.sw.dht < w.sw.dataHoldFactor := (alive hpos).trans_lt hw.factor.2
      have halive := MeraCpm.ciTimeout_alive hhealthy mera hmore
      rw [hmera] at halive
      rcases halive with ⟨rfl, hcount, hstate, hrunning, hdht', hfactor⟩
      rw [step_expiry hmera (controlIntervalExpired_hold hw.running.1 sw hdht) hs]
      refine .run ⟨⟨hw.running.1, hrunning⟩, ⟨hfactor.trans hw.factor.1, hw.factor.2⟩, hcount,
        hw.statuses⟩ sw hstate received (fun hpos => absurd hpos (lt_irrefl 0)) (fun _ => ?_) hdht
        hreports
      show w.sw.dht + 1 = mera'.cpm.dht + 1
      rw [alive hpos, hdht']
  | ended sw mera reports =>
    have hhold : w.sw.reportsDataHold = false := by
      rw [Cpm.reportsDataHold, sw.2]
      rfl
    have hsw : w.sw.controlIntervalExpired = w.sw := by
      unfold Cpm.controlIntervalExpired
      rw [if_neg (ne_true_of_eq_false sw.2)]
    have hidle := MeraCpm.ciTimeout_idle (a := a) mera
    rw [step_expiry hidle ⟨hhold, hsw⟩ hs]
    exact .ended sw mera (congrArg (fun l => l ++ []) reports)

theorem start_phase {a : Cpm.Activation} (hstarted : a.started = true)
    (hfactor : 1 ≤ a.dataHoldFactor) : (start a).Phase := by
  have hactivated : Cpm.zero.activateReq a = { Cpm.zero with
      dataHoldFactor := a.dataHoldFactor
      cycle := -1
      sa := a.sa
      bufferPos := 2 * 6 + 2 + 2
      bufferLength := 2 * 6 + 2 + 2 + a.cSduLength + 2 + 1 + 1
      ciRunning := true
      state := .PF_CPM_STATE_FRUN } := if_pos hstarted
  have hwatching : (start a).Watching := by
    unfold start
    rw [hactivated]
    exact ⟨⟨rfl, rfl⟩, ⟨rfl, hfactor⟩, rfl, fun s hs => by cases hs⟩
  refine .wait hwatching ?_ ?_ rfl rfl
  · exact congrArg Cpm.state hactivated
  · exact congrArg Cpm.state hactivated

end Consumers

/-! ## Runs -/

open Consumers in
/-- With a provider that is running without a problem, the two drivers report the start and the
data-hold timeout in the same intervals. -/
theorem sameReports_of_running {a : Cpm.Activation} (hstarted : a.started = true)
    (hfactor : 1 ≤ a.dataHoldFactor) {es : List ConsumerStep} {w : Consumers}
    (hassumed : Runs.Along Consumers.step Assumed (.start a) es) (hrunning : ∀ e ∈ es, Running e)
    (hrun : Runs.run Consumers.step (.start a) es = some w) : w.SameReports := by
  have hphase : (Consumers.start a).Phase := start_phase hstarted hfactor
  generalize Consumers.start a = w0 at hphase hassumed hrun
  induction es generalizing w0 with
  | nil =>
    obtain rfl := Option.some.inj hrun
    exact hphase.sameReports
  | cons e es ih =>
    rcases Option.bind_eq_some_iff.mp hrun with ⟨w1, hs, hrest⟩
    rw [List.forall_mem_cons] at hrunning
    refine ih hrunning.2 w1 ?_ (hassumed.2 w1 hs) hrest
    cases e with
    | frame f frameIdPos => exact hphase.frame hassumed.1 hrunning.1 hs
    | expiry a => exact hphase.expiry hassumed.1 hs

/-! ## A provider that is not running -/

namespace ConsumersRun

/-- A data hold factor of 3. -/
def activation : Cpm.Activation := ⟨[1, 1, 1, 1, 1, 1], 3, 40, true⟩

def frame (dataStatus : Byte) : ConsumerStep :=
  .frame ⟨Buffer.write (Buffer.write (fun _ => 0) 6 [1, 1, 1, 1, 1, 1]) 56 [0, 0, dataStatus, 0],
    60⟩ 14

/-- The interval ends, and one frame has been received so far. -/
def expiry (status : RtpStatus) (mismatch : Bool) : ConsumerStep :=
  .expiry ⟨some 1, some status, some ⟨false, mismatch⟩⟩

/-- A frame, and then nothing. -/
def silence (dataStatus : Byte) (mismatch : Bool) (intervals : ℕ) : List ConsumerStep :=
  [frame dataStatus, expiry ⟨mismatch, dataStatus⟩ mismatch] ++
    List.replicate intervals (expiry ⟨mismatch, dataStatus⟩ false)

def run (es : List ConsumerStep) : Option Consumers :=
  Runs.run Consumers.step (.start activation) es

end ConsumersRun

open ConsumersRun in
/-- The timeout is reported at the third expiry after the interval of the frame. -/
theorem sameReports_silence : ∃ w, ConsumersRun.run (silence 0x35 false 3) = some w ∧
    w.swReports = [.start 0, .dataHold 3] ∧ w.SameReports :=
  ⟨_, rfl, by decide +kernel, @sameReports_of_running activation rfl (by decide)
    (silence 0x35 false 3) _ (by decide +kernel) (by decide +kernel) rfl⟩

open ConsumersRun in
/-- The engine does not start with a provider that is stopped, and waits for one with a problem. -/
theorem not_sameReports :
    (Runs.Along Consumers.step Consumers.Assumed (.start activation) (silence 0x25 true 0) ∧
      ∃ w, ConsumersRun.run (silence 0x25 true 0) = some w ∧
        w.swReports = [.start 0] ∧ w.meraReports = [] ∧ ¬w.SameReports) ∧
    Runs.Along Consumers.step Consumers.Assumed (.start activation) (silence 0x15 true 3) ∧
      ∃ w, ConsumersRun.run (silence 0x15 true 3) = some w ∧
        w.swReports = [.start 0, .dataHold 3] ∧ w.meraReports = [.start 0] ∧ ¬w.SameReports := by
  refine ⟨⟨by decide +kernel, _, rfl, ?_, ?_, ?_⟩, by decide +kernel, _, rfl, ?_, ?_, ?_⟩ <;>
    decide +kernel

end PNet.Cyclic
