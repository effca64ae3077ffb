import PNet.Cyclic.Ppm
import PNet.Lib.RefCount
import PNet.Lib.Runs

/-! # The instance counters of the PPM and the CPM

`pf_ppm.c` and `pf_cpm.c` count their instances, and keep a lock for their buffers while there are
any. An instance is counted at its create request and given back at its close request, as
`pf_cmsu.c` makes them.

* `accounted_iff`: the counters are those of the open CRs, all the time, exactly when each create
  request opens a CR and each close request closes one.
-/

namespace PNet.Cyclic

open Connect

/-! ## Requests -/

/-- All instances with their counters and locks, `ppm_instance_cnt` with `ppm_buf_lock` and
`cpm_instance_cnt` with `cpm_buf_lock`. -/
structure Instances where
  ppm : Cr → Ppm
  cpm : Cr → Cpm
  ppmInstances : RefCount
  cpmInstances : RefCount

/-- A request on a CR, and what else it depends on: `allocated` and `added` as in the machines, and
`driver` what the driver returns. -/
inductive InstanceRequest where
  | ppmCreate (cr : Cr) (sa da : Vector Byte 6) (p : IocrParam) (allocated : Bool) (driver : ℤ)
  | ppmActivate (cr : Cr) (inLength : BitVec 16) (now : BitVec 32) (added : Bool)
  | ppmClose (cr : Cr)
  | cpmCreate (cr : Cr) (driver : ℤ)
  | cpmActivate (cr : Cr) (a : Cpm.Activation)
  | cpmClose (cr : Cr) (driver : ℤ)

namespace Instances

def setPpm (s : Instances) (cr : Cr) (x : Ppm) : Instances :=
  { s with ppm := Function.update s.ppm cr x }

def setCpm (s : Instances) (cr : Cr) (x : Cpm) : Instances :=
  { s with cpm := Function.update s.cpm cr x }

/-- `pf_ppm_create`. -/
def ppmCreate (s : Instances) (cr : Cr) (sa da : Vector Byte 6) (p : IocrParam) (allocated : Bool)
    (driver : ℤ) : ℤ × Instances :=
  let s := { s with ppmInstances := s.ppmInstances.acquire }
  let (ret, x) := (s.ppm cr).create sa da p allocated
  (if ret = 0 then driver else ret, s.setPpm cr x)

/-- `pf_ppm_activate_req`. -/
def ppmActivateReq (s : Instances) (cr : Cr) (inLength : BitVec 16) (now : BitVec 32)
    (added : Bool) : ℤ × Instances :=
  let (ret, x) := (s.ppm cr).activateReq inLength now added
  (ret, s.setPpm cr x)

/-- `pf_ppm_close_req`. -/
def ppmCloseReq (s : Instances) (cr : Cr) : ℤ × Instances :=
  let s := s.setPpm cr (s.ppm cr).closeReq
  (0, { s with ppmInstances := s.ppmInstances.release })

/-- `pf_cpm_create`. -/
def cpmCreate (s : Instances) (cr : Cr) (driver : ℤ) : ℤ × Instances :=
  let s := { s with cpmInstances := s.cpmInstances.acquire }
  (driver, s.setCpm cr { s.cpm cr with state := .PF_CPM_STATE_W_START })

/-- `pf_cpm_activate_req`. -/
def cpmActivateReq (s : Instances) (cr : Cr) (a : Cpm.Activation) : ℤ × Instances :=
  (if (s.cpm cr).state = .PF_CPM_STATE_W_START ∧ a.started = true then 0 else -1,
    s.setCpm cr ((s.cpm cr).activateReq a))

/-- `pf_cpm_close_req`. -/
def cpmCloseReq (s : Instances) (cr : Cr) (driver : ℤ) : ℤ × Instances :=
  let s := s.setCpm cr (s.cpm cr).closeReq
  (driver, if driver = 0 then { s with cpmInstances := s.cpmInstances.release } else s)

def request (s : Instances) : InstanceRequest → ℤ × Instances
  | .ppmCreate cr sa da p allocated driver => s.ppmCreate cr sa da p allocated driver
  | .ppmActivate cr inLength now added => s.ppmActivateReq cr inLength now added
  | .ppmClose cr => s.ppmCloseReq cr
  | .cpmCreate cr driver => s.cpmCreate cr driver
  | .cpmActivate cr a => s.cpmActivateReq cr a
  | .cpmClose cr driver => s.cpmCloseReq cr driver

/-- `pf_cmsu_start_req` makes its requests until one of them fails. -/
def startReq (s : Instances) : List InstanceRequest → List InstanceRequest
  | [] => []
  | r :: rs => if (s.request r).1 = 0 then r :: startReq (s.request r).2 rs else [r]

end Instances

/-- `pf_cmsu_cmdev_state_ind` closes all CRs of an AR that it aborts. -/
def abortRequests (ar : ℕ) (iocrs : List IocrType) : List InstanceRequest :=
  iocrs.zipIdx.flatMap fun (iocrType, crep) =>
    match iocrType with
    | .PF_IOCR_TYPE_INPUT => [.ppmClose (ar, crep)]
    | .PF_IOCR_TYPE_OUTPUT => [.cpmClose (ar, crep) 0]
    | .PF_IOCR_TYPE_MC_PROVIDER | .PF_IOCR_TYPE_MC_CONSUMER => []

/-! ## Open CRs -/

/-- The instances, and the CRs that are open in each machine: a create request that succeeds opens
its CR, and a close request that succeeds closes it. -/
structure OpenCrs where
  stack : Instances
  ppm : Finset Cr
  cpm : Finset Cr

namespace OpenCrs

/-- Nothing has been created. -/
def start (ppm : Cr → Ppm) (cpm : Cr → Cpm) : OpenCrs :=
  ⟨⟨ppm, cpm, RefCount.unused, RefCount.unused⟩, ∅, ∅⟩

/-- The open CRs after a request that succeeds. -/
def succeed (w : OpenCrs) : InstanceRequest → OpenCrs
  | .ppmCreate cr .. => { w with ppm := insert cr w.ppm }
  | .ppmClose cr => { w with ppm := w.ppm.erase cr }
  | .cpmCreate cr _ => { w with cpm := insert cr w.cpm }
  | .cpmClose cr _ => { w with cpm := w.cpm.erase cr }
  | .ppmActivate .. | .cpmActivate .. => w

def step (w : OpenCrs) (r : InstanceRequest) : Option OpenCrs :=
  let (ret, stack) := w.stack.request r
  some (if ret = 0 then { w.succeed r with stack } else { w with stack })

/-- The counters are the numbers of open CRs, and the locks are there as long as they are
positive. -/
structure Accounted (w : OpenCrs) : Prop where
  ppm : w.stack.ppmInstances.Tells w.ppm
  cpm : w.stack.cpmInstances.Tells w.cpm
  nonneg : 0 ≤ w.stack.ppmInstances.cnt ∧ 0 ≤ w.stack.cpmInstances.cnt

/-- A create request is made for a CR that is not open, and succeeds; a close request is made for an
open CR, unless the driver refuses it. -/
def Balanced (w : OpenCrs) : InstanceRequest → Prop
  | .ppmCreate cr _ _ _ allocated driver =>
    cr ∉ w.ppm ∧ (w.stack.ppm cr).state = .PF_PPM_STATE_W_START ∧ allocated = true ∧ driver = 0
  | .ppmClose cr => cr ∈ w.ppm
  | .cpmCreate cr driver => cr ∉ w.cpm ∧ driver = 0
  | .cpmClose cr driver => driver = 0 → cr ∈ w.cpm
  | .ppmActivate .. | .cpmActivate .. => True

instance (w : OpenCrs) : (r : InstanceRequest) → Decidable (w.Balanced r)
  | .ppmCreate .. => inferInstanceAs (Decidable (_ ∧ _ ∧ _ ∧ _))
  | .ppmClose cr => inferInstanceAs (Decidable (cr ∈ w.ppm))
  | .cpmCreate .. => inferInstanceAs (Decidable (_ ∧ _))
  | .cpmClose .. => inferInstanceAs (Decidable (_ → _))
  | .ppmActivate .. | .cpmActivate .. => inferInstanceAs (Decidable True)

variable {w w' : OpenCrs} {r : InstanceRequest}

/-! ## One request -/

theorem accounted_start (ppm : Cr → Ppm) (cpm : Cr → Cpm) : (start ppm cpm).Accounted :=
  ⟨RefCount.tells_unused, RefCount.tells_unused, le_rfl, le_rfl⟩

/-- The sign of the counters follows from the rest. -/
theorem accounted_iff_tells : w.Accounted ↔
    w.stack.ppmInstances.Tells w.ppm ∧ w.stack.cpmInstances.Tells w.cpm :=
  ⟨fun h => ⟨h.ppm, h.cpm⟩, fun h => ⟨h.1, h.2, h.1.nonneg, h.2.nonneg⟩⟩

theorem ppmCreate_ret (s : Instances) (cr : Cr) (sa da : Vector Byte 6) (p : IocrParam)
    (allocated : Bool) (driver : ℤ) :
    (s.ppmCreate cr sa da p allocated driver).1 = 0 ↔
      (s.ppm cr).state = .PF_PPM_STATE_W_START ∧ allocated = true ∧ driver = 0 := by
  unfold Instances.ppmCreate Ppm.create
  cases hstate : (s.ppm cr).state with
  | PF_PPM_STATE_RUN => simp [hstate]
  | PF_PPM_STATE_W_START => cases allocated <;> simp [hstate]

theorem cpmCloseReq_instances (s : Instances) (cr : Cr) (driver : ℤ) :
    (s.cpmCloseReq cr driver).2.ppmInstances = s.ppmInstances ∧
      (s.cpmCloseReq cr driver).2.cpmInstances =
        if driver = 0 then s.cpmInstances.release else s.cpmInstances := by
  unfold Instances.cpmCloseReq
  dsimp only
  split_ifs <;> exact ⟨rfl, rfl⟩

theorem step_of_ok (hok : (w.stack.request r).1 = 0) :
    w.step r = some { w.succeed r with stack := (w.stack.request r).2 } :=
  congrArg some (if_pos hok)

theorem step_of_failed (hfailed : (w.stack.request r).1 ≠ 0) :
    w.step r = some { w with stack := (w.stack.request r).2 } :=
  congrArg some (if_neg hfailed)

/-- A request keeps the counters right exactly when it is balanced. -/
theorem step_accounted (h : w.Accounted) (hs : w.step r = some w') :
    w'.Accounted ↔ w.Balanced r := by
  rw [accounted_iff_tells]
  by_cases hok : (w.stack.request r).1 = 0
  · obtain rfl := Option.some.inj ((step_of_ok hok).symm.trans hs)
    cases r with
    | ppmCreate cr sa da p allocated driver =>
      have hcreated := (ppmCreate_ret w.stack cr sa da p allocated driver).mp hok
      show w.stack.ppmInstances.acquire.Tells (insert cr w.ppm) ∧ _ ↔ _
      rw [RefCount.tells_acquire_insert h.ppm]
      exact ⟨fun htells => ⟨htells.1, hcreated⟩, fun hbalanced => ⟨hbalanced.1, h.cpm⟩⟩
    | ppmActivate cr inLength now added => exact iff_of_true ⟨h.ppm, h.cpm⟩ trivial
    | ppmClose cr =>
      show w.stack.ppmInstances.release.Tells (w.ppm.erase cr) ∧ _ ↔ _
      rw [RefCount.tells_release_erase h.ppm]
      exact ⟨And.left, fun hopen => ⟨hopen, h.cpm⟩⟩
    | cpmCreate cr driver =>
      show _ ∧ w.stack.cpmInstances.acquire.Tells (insert cr w.cpm) ↔ _
      rw [RefCount.tells_acquire_insert h.cpm]
      exact ⟨fun htells => ⟨htells.2, hok⟩, fun hbalanced => ⟨h.ppm, hbalanced.1⟩⟩
    | cpmActivate cr a => exact iff_of_true ⟨h.ppm, h.cpm⟩ trivial
    | cpmClose cr driver =>
      rcases cpmCloseReq_instances w.stack cr driver with ⟨hppm, hcpm⟩
      have hzero : driver = 0 := hok
      rw [if_pos hzero] at hcpm
      show (w.stack.cpmCloseReq cr driver).2.ppmInstances.Tells w.ppm ∧
        (w.stack.cpmCloseReq cr driver).2.cpmInstances.Tells (w.cpm.erase cr) ↔ _
      rw [hppm, hcpm, RefCount.tells_release_erase h.cpm]
      exact ⟨fun htells _ => htells.2, fun hopen => ⟨h.ppm, hopen hzero⟩⟩
  · obtain rfl := Option.some.inj ((step_of_failed hok).symm.trans hs)
    cases r with
    | ppmCreate cr sa da p allocated driver =>
      -- it is counted all the same
      refine iff_of_false (fun htells => ?_) fun hbalanced => ?_
      · exact RefCount.not_tells_acquire h.ppm htells.1
      · exact hok ((ppmCreate_ret w.stack cr sa da p allocated driver).mpr hbalanced.2)
    | ppmActivate cr inLength now added => exact iff_of_true ⟨h.ppm, h.cpm⟩ trivial
    | ppmClose cr => exact absurd rfl hok
    | cpmCreate cr driver =>
      refine iff_of_false (fun htells => ?_) fun hbalanced => hok hbalanced.2
      exact RefCount.not_tells_acquire h.cpm htells.2
    | cpmActivate cr a => exact iff_of_true ⟨h.ppm, h.cpm⟩ trivial
    | cpmClose cr driver =>
      rcases cpmCloseReq_instances w.stack cr driver with ⟨hppm, hcpm⟩
      have hrefused : driver ≠ 0 := hok
      rw [if_neg hrefused] at hcpm
      show (w.stack.cpmCloseReq cr driver).2.ppmInstances.Tells w.ppm ∧
        (w.stack.cpmCloseReq cr driver).2.cpmInstances.Tells w.cpm ↔ _
      rw [hppm, hcpm]
      exact iff_of_true ⟨h.ppm, h.cpm⟩ fun hzero => absurd hzero hrefused

end OpenCrs

/-! ## Runs -/

open OpenCrs in
/-- The counters are right in every state of exactly the runs in which each create request opens a
CR and each close request closes one. -/
theorem accounted_iff (ppm : Cr → Ppm) (cpm : Cr → Cpm) (rs : List InstanceRequest) :
    (∀ rs' w, rs' <+: rs → Runs.run OpenCrs.step (start ppm cpm) rs' = some w → w.Accounted) ↔
      Runs.Along OpenCrs.step Balanced (start ppm cpm) rs :=
  Runs.always_iff (accounted_start ppm cpm) (fun _ h => h)
    (fun _ _ _ h hs => ⟨step_accounted h hs, (step_accounted h hs).mpr⟩)
    (fun _ _ hs => by cases hs)

/-! ## An AR that does not come up -/

namespace InstancesRun

open InstanceRequest

def cpm : Cpm where
  state := .PF_CPM_STATE_W_START
  recvCnt := 0
  errcnt := 0
  sa := []
  dataHoldFactor := 0
  bufferApp := none
  bufferCpm := none
  newBuf := false
  frameIdPos := 0
  dataStatus := 0
  bufferLength := 0
  bufferPos := 0
  dht := 0
  cycle := 0
  ciRunning := false

def iocr : IocrParam where
  iocrType := PF_IOCR_TYPE_INPUT
  iocrReference := 1
  ltField := PNAL_ETHTYPE_PROFINET
  iocrProperties := ⟨PF_RT_CLASS_1, 0, 0, 0⟩
  cSduLength := 40
  frameId := 0xC000
  sendClockFactor := 32
  reductionRatio := 1
  phase := 1
  sequence := 0
  frameSendOffset := 0xFFFFFFFF
  watchdogFactor := 3
  dataHoldFactor := 3
  iocrTagHeader := ⟨0, 6⟩
  iocrMulticastMacAdd := Vector.replicate 6 0
  apis := [⟨0, [⟨1, 1, 0⟩], []⟩]

def unstarted : OpenCrs := OpenCrs.start (fun _ => Ppm.cleared) fun _ => cpm

/-- The requests for an AR with an input CR and an output CR. -/
def requests (allocated : Bool) : List InstanceRequest :=
  unstarted.stack.startReq
    [ppmCreate (0, 0) (Vector.replicate 6 2) (Vector.replicate 6 1) iocr allocated 0,
      cpmCreate (0, 1) 0, cpmActivate (0, 1) ⟨[1, 1, 1, 1, 1, 1], 3, 40, true⟩]

def abort : List InstanceRequest := abortRequests 0 [.PF_IOCR_TYPE_INPUT, .PF_IOCR_TYPE_OUTPUT]

end InstancesRun

open InstancesRun in
/-- Both CRs come up, are activated and closed. -/
example : Runs.Along OpenCrs.step OpenCrs.Balanced unstarted
    (requests true ++ [.ppmActivate (0, 0) 2 0 true] ++ abort) := by
  decide +kernel

open InstancesRun in
/-- There is no memory for the first CR; the abort closes the second one, too, which has never been
created. -/
theorem not_accounted_abort :
    requests false ++ abort =
      [.ppmCreate (0, 0) (Vector.replicate 6 2) (Vector.replicate 6 1) iocr false 0,
        .ppmClose (0, 0), .cpmClose (0, 1) 0] ∧
    ∃ w, Runs.run OpenCrs.step unstarted (requests false ++ abort) = some w ∧
      w.stack.cpmInstances.cnt = -1 ∧ ¬w.Accounted := by
  refine ⟨rfl, _, rfl, rfl, ?_⟩
  intro h
  exact absurd h.nonneg.2 (by decide +kernel)

end PNet.Cyclic
