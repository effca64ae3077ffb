import PNet.Connect.Check
import PNet.Cyclic.Ppm

/-! # The timing of an accepted CR

The times that `pf_cmdev_check_iocr_param` bounds, and those that the PPM and the CPM make of
the same factors, all with products of 32 bits.

* `consistentTiming_iff`: the times of an accepted CR are consistent exactly when none of the
  products wraps around.
-/

namespace PNet.Connect

namespace IocrParam

/-! ## Times -/

/-- The data hold time, in units of 31.25 us. -/
def dataHold (p : IocrParam) : ℕ := p.interval * p.dataHoldFactor.toNat

/-- The `control_interval` that `pf_cpm_activate_req` sets. -/
def cpmControlInterval (p : IocrParam) : BitVec 32 :=
  p.sendClockFactor.setWidth 32 * p.reductionRatio.setWidth 32 * 1000 / 32

/-- The time is positive, and it is that between two frames, in us. -/
def IsInterval (p : IocrParam) (time : BitVec 32) : Prop :=
  0 < time ∧ time.toNat = p.interval * 1000 / 32

/-- 1.92 s are 61440 units, and 61.44 s are 1966080 units. -/
structure ConsistentTiming (p : IocrParam) : Prop where
  rtClass123 : p.rtClass123 = true → p.dataHold ≤ 61440
  udp : p.rtClass = PF_RT_CLASS_UDP → p.dataHold ≤ 1966080
  phase : 0 < p.phase ∧ p.phase ≤ p.reductionRatio
  ppm : ∀ (x : Cyclic.Ppm) (sa da : Vector Byte 6),
    p.IsInterval (x.initCrConfig sa da p).controlInterval
  cpm : p.IsInterval p.cpmControlInterval

/-- The largest product of the CR; for the class without a limit of the data hold time it is
that of the control interval. -/
def product (p : IocrParam) : ℕ :=
  if p.rtClass = PF_RT_CLASS_STREAM then p.interval * 1000 else p.dataHold * 1000

/-! ## The tests -/

variable {minDeviceInterval : ℕ} {ar : ArParam} {p : IocrParam}

theorem rtClass_cases (h : firstFailure (p.tests minDeviceInterval ar) = none) :
    p.rtClass123 = true ∨ p.rtClass = PF_RT_CLASS_UDP ∨ p.rtClass = PF_RT_CLASS_STREAM := by
  have hlegacy : (p.tests minDeviceInterval ar)[4]? = some (faultyIocr
      (ar.arProperties.startupMode = false ∧
        (p.rtClass < PF_RT_CLASS_1 ∨ PF_RT_CLASS_STREAM < p.rtClass)) 7) := rfl
  have hadvanced : (p.tests minDeviceInterval ar)[5]? = some (faultyIocr
      (ar.arProperties.startupMode = true ∧
        (p.rtClass < PF_RT_CLASS_2 ∨ PF_RT_CLASS_STREAM < p.rtClass)) 7) := rfl
  have hpass := firstFailure_eq_none.mp h _ (List.mem_of_getElem? hlegacy)
  have hpass' := firstFailure_eq_none.mp h _ (List.mem_of_getElem? hadvanced)
  simp only [faultyIocr, decide_eq_false_iff_not, not_and_or, not_or, BitVec.not_lt,
    Bool.not_eq_false, Bool.not_eq_true] at hpass hpass'
  have hrange : 1 ≤ p.rtClass.toNat ∧ p.rtClass.toNat ≤ 5 := by
    rcases hpass with hmode | ⟨hlow, hhigh⟩
    · rcases hpass' with hmode' | ⟨hlow, hhigh⟩
      · cases hmode.symm.trans hmode'
      · exact ⟨le_trans (by decide) (BitVec.le_def.mp hlow), BitVec.le_def.mp hhigh⟩
    · exact ⟨BitVec.le_def.mp hlow, BitVec.le_def.mp hhigh⟩
  have hclass (k : BitVec 32) (hk : p.rtClass.toNat = k.toNat) : p.rtClass = k :=
    BitVec.eq_of_toNat_eq hk
  have hvalue : p.rtClass.toNat = 1 ∨ p.rtClass.toNat = 2 ∨ p.rtClass.toNat = 3 ∨
      p.rtClass.toNat = 4 ∨ p.rtClass.toNat = 5 := by omega
  rcases hvalue with hv | hv | hv | hv | hv
  · exact .inl (decide_eq_true (.inl (hclass PF_RT_CLASS_1 hv)))
  · exact .inl (decide_eq_true (.inr (.inl (hclass PF_RT_CLASS_2 hv))))
  · exact .inl (decide_eq_true (.inr (.inr (hclass PF_RT_CLASS_3 hv))))
  · exact .inr (.inl (hclass PF_RT_CLASS_UDP hv))
  · exact .inr (.inr (hclass PF_RT_CLASS_STREAM hv))

theorem dataHoldTime_le (h : firstFailure (p.tests minDeviceInterval ar) = none) :
    1 ≤ p.dataHoldFactor.toNat ∧
      (p.rtClass = PF_RT_CLASS_UDP → p.dataHoldTime ≤ 61440000) ∧
      (p.rtClass123 = true → p.dataHoldTime ≤ 1920000) := by
  have htest : (p.tests minDeviceInterval ar)[15]? = some (faultyIocr
      ((p.dataHoldFactor < 1 ∨ 0x1E00 < p.dataHoldFactor) ∨
        (p.rtClass = PF_RT_CLASS_UDP ∧ 61440000 < p.dataHoldTime) ∨
        (p.rtClass123 = true ∧ 1920000 < p.dataHoldTime)) 16) := rfl
  have hpass := firstFailure_eq_none.mp h _ (List.mem_of_getElem? htest)
  simp only [faultyIocr, decide_eq_false_iff_not, not_or, not_and, not_lt] at hpass
  exact ⟨BitVec.le_def.mp (BitVec.not_lt.mp hpass.1.1), hpass.2.1, hpass.2.2⟩

/-! ## Products -/

theorem dataHoldTime_eq (p : IocrParam) : p.dataHoldTime = p.dataHold * 1000 % 2 ^ 32 / 32 := by
  have hcomm : p.dataHoldFactor.toNat * p.reductionRatio.toNat * p.sendClockFactor.toNat =
      p.sendClockFactor.toNat * p.reductionRatio.toNat * p.dataHoldFactor.toNat := by
    rw [Nat.mul_comm p.dataHoldFactor.toNat, Nat.mul_comm _ p.sendClockFactor.toNat, Nat.mul_assoc]
  rw [dataHoldTime, hcomm, dataHold, interval]

theorem toNat_cpmControlInterval (p : IocrParam) :
    p.cpmControlInterval.toNat = p.interval * 1000 % 2 ^ 32 / 32 := by
  have hfit (x : BitVec 16) : (x.setWidth 32).toNat = x.toNat := by
    rw [BitVec.toNat_setWidth]
    exact Nat.mod_eq_of_lt (x.isLt.trans (by decide))
  rw [cpmControlInterval, BitVec.toNat_udiv, BitVec.toNat_mul, BitVec.toNat_mul, hfit, hfit,
    Nat.mod_mul_mod]
  rfl

/-- A quotient of a product that wraps around is too small. -/
theorem wrapped_eq_iff (n : ℕ) : n % 2 ^ 32 / 32 = n / 32 ↔ n < 2 ^ 32 := by
  constructor
  · intro h
    have hlt : n % 2 ^ 32 < 2 ^ 32 := Nat.mod_lt n (by decide)
    omega
  · intro h
    rw [Nat.mod_eq_of_lt h]

/-- The control interval is right exactly when its product fits. -/
theorem isInterval_iff (h : firstFailure (p.tests minDeviceInterval ar) = none) :
    p.IsInterval p.cpmControlInterval ↔ p.interval * 1000 < 2 ^ 32 := by
  have hpos := interval_pos h
  rw [IsInterval, toNat_cpmControlInterval, wrapped_eq_iff, BitVec.lt_def,
    toNat_cpmControlInterval]
  constructor
  · exact And.right
  · intro hfit
    refine ⟨?_, hfit⟩
    rw [Nat.mod_eq_of_lt hfit]
    exact Nat.div_pos (by omega) (by decide)

/-- A hold time that passes the test is as short as it should be exactly when its product
fits. -/
theorem dataHold_le_iff (limit : ℕ) (hlimit : limit ≤ 1966080)
    (htest : p.dataHoldTime ≤ limit * 1000 / 32) (h32 : 32 ∣ limit) :
    p.dataHold ≤ limit ↔ p.dataHold * 1000 < 2 ^ 32 := by
  rw [dataHoldTime_eq] at htest
  constructor
  · intro hle
    omega
  · intro hfit
    rw [Nat.mod_eq_of_lt hfit] at htest
    omega

end IocrParam

/-! ## Accepted CRs -/

open IocrParam

/-- The timing of an accepted CR is consistent exactly when its product fits in 32 bits. -/
theorem consistentTiming_iff {minDeviceInterval : ℕ} {ar : ArParam} {iocrs : List IocrParam}
    {stat : PnetResult}
    (haccepted : (checkIocrParam minDeviceInterval ar iocrs stat).1 = true) :
    ∀ p ∈ iocrs, p.ConsistentTiming ↔ p.product < 2 ^ 32 := by
  intro p hp
  have h := checkIocrParam_accepts.mp haccepted p hp
  rcases dataHoldTime_le h with ⟨hfactor, hudp, hrt⟩
  have hphase := phase_le h
  have hintervals := isInterval_iff h
  have hle : p.interval * 1000 ≤ p.dataHold * 1000 :=
    Nat.mul_le_mul_right 1000 (Nat.le_mul_of_pos_right p.interval hfactor)
  constructor
  · intro htiming
    by_cases hstream : p.rtClass = PF_RT_CLASS_STREAM
    · exact (if_pos hstream).trans_lt (hintervals.mp htiming.cpm)
    · refine (if_neg hstream).trans_lt ?_
      rcases rtClass_cases h with hclass | hclass | hclass
      · exact (dataHold_le_iff 61440 (by decide) (hrt hclass) (by decide)).mp
          (htiming.rtClass123 hclass)
      · exact (dataHold_le_iff 1966080 (by decide) (hudp hclass) (by decide)).mp
          (htiming.udp hclass)
      · exact absurd hclass hstream
  · intro hproduct
    have hhold (hclass : p.rtClass ≠ PF_RT_CLASS_STREAM) : p.dataHold * 1000 < 2 ^ 32 :=
      (if_neg hclass).symm.trans_lt hproduct
    have hfit : p.interval * 1000 < 2 ^ 32 := by
      by_cases hstream : p.rtClass = PF_RT_CLASS_STREAM
      · exact (if_pos hstream).symm.trans_lt hproduct
      · exact hle.trans_lt (hhold hstream)
    constructor
    · intro hclass
      refine (dataHold_le_iff 61440 (by decide) (hrt hclass) (by decide)).mpr (hhold ?_)
      intro hstream
      rw [rtClass123, hstream] at hclass
      exact absurd hclass (by decide)
    · intro hclass
      refine (dataHold_le_iff 1966080 (by decide) (hudp hclass) (by decide)).mpr (hhold ?_)
      rw [hclass]
      decide
    · exact ⟨Nat.pos_of_ne_zero fun h0 => hphase.1 (BitVec.eq_of_toNat_eq h0), hphase.2⟩
    · intro x sa da
      exact hintervals.mpr hfit
    · exact hintervals.mpr hfit

/-! ## A product that wraps around -/

namespace TimingRun

def ar : ArParam where
  arType := 1
  arUuid := ⟨0, 0, 0, Vector.replicate 8 0⟩
  sessionKey := 1
  cmInitiatorMacAdd := Vector.replicate 6 1
  cmInitiatorObjectUuid := ⟨0, 0, 0, Vector.replicate 8 0⟩
  arProperties := ⟨1, false, 0, false, 0, false, false, false, false⟩
  cmInitiatorActivityTimeoutFactor := 100
  cmInitiatorUdpRtPort := 0x8892
  cmInitiatorStationNameLen := 1
  cmInitiatorStationName := [0x61]

def iocr (sendClockFactor reductionRatio dataHoldFactor : BitVec 16) : IocrParam where
  iocrType := PF_IOCR_TYPE_INPUT
  iocrReference := 1
  ltField := PNAL_ETHTYPE_PROFINET
  iocrProperties := ⟨PF_RT_CLASS_1, 0, 0, 0⟩
  cSduLength := 40
  frameId := 0xC000
  sendClockFactor
  reductionRatio
  phase := 1
  sequence := 0
  frameSendOffset := 0xFFFFFFFF
  watchdogFactor := 3
  dataHoldFactor
  iocrTagHeader := ⟨0, 6⟩
  iocrMulticastMacAdd := Vector.replicate 6 0
  apis := [⟨0, [⟨1, 1, 0⟩], []⟩]

end TimingRun

open TimingRun in
/-- A frame each ms, and a data hold time of 3 ms. -/
theorem consistentTiming_three : (iocr 32 1 3).ConsistentTiming :=
  have haccepted : (checkIocrParam 32 ar [iocr 32 1 3] noError).1 = true := by decide +kernel
  (consistentTiming_iff haccepted (iocr 32 1 3) List.mem_cons_self).mpr (by decide +kernel)

open TimingRun in
/-- 132 times 1.02 s are accepted, as the product comes out as 422 ms. -/
theorem not_consistentTiming_wrap :
    (checkIocrParam 32 ar [iocr 128 255 132] noError).1 = true ∧
      ¬(iocr 128 255 132).ConsistentTiming := by
  refine ⟨by decide +kernel, fun h => ?_⟩
  exact absurd (h.rtClass123 rfl) (by decide +kernel)

end PNet.Connect
