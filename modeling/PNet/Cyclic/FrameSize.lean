import Mathlib.Algebra.Order.BigOperators.Group.List
import Mathlib.Algebra.Order.Ring.Nat
import PNet.Connect.Inside
import PNet.Cyclic.InputData

/-! # Frames and their buffers

A frame has its header, the `c_sdu_length` bytes of the data, and the status behind them.
`pf_cmdev_check_iocr_param` limits the `c_sdu_length` of the classes UDP and 1, of the others it
takes any.

* `fitsBuffers_iff`: the frames, the descriptors and the data of the application of an accepted CR
  fit their buffers exactly when the class or the length limits the frame, and the CR has no more
  subslots than there is room for.
-/

namespace PNet.Cyclic

open Connect Connect.Layout Block

/-- Elements of the array `data_desc`. -/
def PF_MAX_DATA_DESC : ℕ := PNET_MAX_API * PNET_MAX_SLOTS * PNET_MAX_SUBSLOTS

/-- The bytes of a complete frame: what `pf_ppm_init_buf` puts in front, the data, cycle counter,
data status and transfer status. -/
def Ppm.completeLength (y : Ppm) (p : IocrParam) : ℕ :=
  (y.frameHeader p.frameId p.iocrTagHeader).length + p.cSduLength.toNat + 2 + 1 + 1

/-- What belongs to the CR `crep` stays inside of its buffers. -/
structure FitsBuffers (crs : List (IocrParam × Layout)) (crep : ℕ) (p : IocrParam) (x : Layout) :
    Prop where
  frame : ∀ y : Ppm, y.completeLength p ≤ PF_FRAME_BUFFER_SIZE
  dataDesc : x.dataDesc.length ≤ PF_MAX_DATA_DESC
  data : ∀ (y : Ppm) loc null data iops, y.inBounds = true →
    (y.setDataAndIops crs crep loc null data iops).2.inBounds = true
  iocs : ∀ (y : Ppm) loc iocs, y.inBounds = true → (y.setIocs crs crep loc iocs).2.inBounds = true

/-! ## What a request asks for -/

/-- The subslots of the CR that have a descriptor of the direction. -/
def subslots (expApis : List ExpApi) (p : IocrParam) : List Location :=
  ((found expApis p.dir .PF_DEV_STATUS_TYPE_IOPS p.dataMentions ++
    found expApis p.dir .PF_DEV_STATUS_TYPE_IOCS p.iocsMentions).map Mention.location).dedup

/-- The length of the data is limited, by the class or by itself, and so are the subslots. -/
structure Limited (expApis : List ExpApi) (p : IocrParam) : Prop where
  cSduLength : p.rtClass = PF_RT_CLASS_UDP ∨ p.rtClass = PF_RT_CLASS_1 ∨ p.cSduLength.toNat ≤ 1476
  subslots : (subslots expApis p).length ≤ PF_MAX_DATA_DESC

section
variable {expApis : List ExpApi} {dir : BitVec 16} {p : IocrParam} {x : Layout} {m : Mention}
  {d : IodataObject} {loc : Location}

/-! ## The frame -/

theorem cSduLength_le {minDeviceInterval : ℕ} {ar : ArParam}
    (h : firstFailure (p.tests minDeviceInterval ar) = none)
    (hclass : p.rtClass = PF_RT_CLASS_UDP ∨ p.rtClass = PF_RT_CLASS_1) :
    p.cSduLength.toNat ≤ 1440 := by
  have htest : (p.tests minDeviceInterval ar)[7]? = some (faultyIocr
      (p.rtClass = PF_RT_CLASS_UDP ∧ (p.cSduLength < 12 ∨ 1440 < p.cSduLength) ∨
        p.rtClass = PF_RT_CLASS_1 ∧ (p.cSduLength < 40 ∨ 1440 < p.cSduLength)) 8) := rfl
  have hpass := firstFailure_eq_none.mp h _ (List.mem_of_getElem? htest)
  rw [faultyIocr, decide_eq_false_iff_not] at hpass
  push Not at hpass
  rcases hclass with hclass | hclass
  · exact BitVec.not_lt.mp (hpass.1 hclass).2
  · exact BitVec.not_lt.mp (hpass.2 hclass).2

theorem completeLength_eq (y : Ppm) : y.completeLength p = p.cSduLength.toNat + 24 := by
  rw [Ppm.completeLength, Ppm.frameHeader_length]
  omega

/-! ## The descriptors -/

/-- The subslots of a table with the mentions `ms`. -/
structure Covers (x : Layout) (ms : List Mention) : Prop where
  unique : KeyedList.Unique IodataObject.location x.dataDesc
  location : ∀ loc, (∃ d ∈ x.dataDesc, d.location = loc) ↔ loc ∈ ms.map Mention.location

theorem Covers.store {ms : List Mention} (h : Covers x ms) (hloc : d.location = m.location)
    (len : ℕ) : Covers (x.store dir d len) (ms ++ [m]) := by
  constructor
  · exact h.unique.set d
  · intro loc
    rw [store_location_iff h.unique, h.location, hloc, List.map_append, List.mem_append, List.map_singleton,
      List.mem_singleton]
    constructor
    · rintro (rfl | hloc)
      · exact .inr rfl
      · exact .inl hloc
    · rintro (hloc | rfl)
      · exact .inr hloc
      · exact .inl rfl

theorem Covers.foldl {status : DevStatusType} {step : Layout → Mention → Layout}
    (hstep : ∀ x m sub desc, descriptorOf expApis dir status m = some (sub, desc) →
      ∃ d len, d.location = m.location ∧ step x m = x.store dir d len)
    {ms rest : List Mention} (h : Covers x ms) (hfound : Found expApis dir status rest) :
    Covers (rest.foldl step x) (ms ++ rest) := by
  induction rest generalizing ms x with
  | nil => rwa [List.append_nil]
  | cons m rest ih =>
    rcases hfound m List.mem_cons_self with ⟨sub, desc, hm⟩
    rcases hstep x m sub desc hm with ⟨d, len, hloc, hx⟩
    rw [List.foldl_cons, hx, List.append_cons]
    exact ih (h.store hloc len) fun n hn => hfound n (List.mem_cons_of_mem m hn)

/-- The descriptors of a CR are those of its subslots. -/
theorem layoutOf_covers : Covers (layoutOf expApis p)
    (found expApis p.dir .PF_DEV_STATUS_TYPE_IOPS p.dataMentions ++
      found expApis p.dir .PF_DEV_STATUS_TYPE_IOCS p.iocsMentions) := by
  have hempty : Covers Layout.empty [] := by
    constructor
    · exact List.nodup_nil
    · intro loc
      refine iff_of_false ?_ List.not_mem_nil
      rintro ⟨d, hd, _⟩
      cases hd
  have hdata (x : Layout) (m : Mention) (sub : ExpSubmodule) (desc : DataDescriptor)
      (hm : descriptorOf expApis p.dir .PF_DEV_STATUS_TYPE_IOPS m = some (sub, desc)) :
      ∃ d len, d.location = m.location ∧ stepData expApis p.dir x m = x.store p.dir d len := by
    refine ⟨_, _, ?_, by rw [stepData, hm]⟩
    rw [setDataIops_location, descOf_location]
  have hiocs (x : Layout) (m : Mention) (sub : ExpSubmodule) (desc : DataDescriptor)
      (hm : descriptorOf expApis p.dir .PF_DEV_STATUS_TYPE_IOCS m = some (sub, desc)) :
      ∃ d len, d.location = m.location ∧ stepIocs expApis p.dir x m = x.store p.dir d len := by
    refine ⟨_, _, ?_, by rw [stepIocs, hm]⟩
    rw [(setIocs_same _ _ _ _).1, descOf_location]
  rw [layoutOf_eq]
  exact (hempty.foldl hdata found_found).foldl hiocs found_found

theorem dataDesc_length : (layoutOf expApis p).dataDesc.length = (subslots expApis p).length := by
  have hcovers := @layoutOf_covers expApis p
  have hperm : ((layoutOf expApis p).dataDesc.map IodataObject.location).Perm
      (subslots expApis p) := by
    apply (List.perm_ext_iff_of_nodup hcovers.unique (List.nodup_dedup _)).mpr
    intro loc
    rw [List.mem_dedup, ← hcovers.location, List.mem_map]
  have hlength := hperm.length_eq
  rwa [List.length_map] at hlength

end

/-! ## The data of the application -/

theorem writeFrameBuffer_inBounds {y : Ppm} {offset : ℕ} {bytes : List Byte}
    (h : y.inBounds = true) (hle : offset + bytes.length ≤ PF_FRAME_BUFFER_SIZE) :
    (y.writeFrameBuffer offset bytes).inBounds = true := by
  show (y.inBounds && decide (offset + bytes.length ≤ PF_FRAME_BUFFER_SIZE)) = true
  rw [h, decide_eq_true hle]
  rfl

section
variable {crs : List (IocrParam × Layout)} {crep : ℕ} {p : IocrParam} {x : Layout}
  {expApis : List ExpApi}

/-- What the application sets stays inside of its buffer, when each area does. -/
theorem fitsBuffers_of (hcrep : crs[crep]? = some (p, x)) (hfits : Fits p)
    (hinside : ∀ d ∈ x.dataDesc, d.Inside p.cSduLength)
    (hdescs : x.dataDesc.length ≤ PF_MAX_DATA_DESC) : FitsBuffers crs crep p x := by
  have hsize : 20 + p.cSduLength.toNat + 4 ≤ PF_FRAME_BUFFER_SIZE := hfits
  have harea {loc : Location} {c : ℕ} {d : IodataObject}
      (hfind : getArIocrDesc crs loc = some (c, d)) (hc : c = crep) (part : Part) :
      (d.area part).start + (d.area part).length ≤ PF_FRAME_BUFFER_SIZE := by
    rcases getArIocrDesc_some hfind with ⟨cr, hget, _, hdesc⟩
    obtain rfl : cr = (p, x) := Option.some.inj (hget.symm.trans (hc ▸ hcrep))
    have hend := (hinside d (getDesc_mem hdesc)).area part
    omega
  constructor
  · intro y
    rw [completeLength_eq]
    omega
  · exact hdescs
  · intro y loc null data iops hy
    unfold Ppm.setDataAndIops
    cases hfind : getArIocrDesc crs loc with
    | none => exact hy
    | some r =>
      rcases r with ⟨c, d⟩
      dsimp only
      by_cases hlen : data.length = d.dataLength ∧ iops.length = d.iopsLength
      · rw [if_pos hlen]
        by_cases hc : c = crep
        · dsimp only
          rw [if_pos hc]
          have hdata : d.dataOffset + data.length ≤ PF_FRAME_BUFFER_SIZE :=
            hlen.1 ▸ harea hfind hc .data
          have hiops : d.iopsOffset + iops.length ≤ PF_FRAME_BUFFER_SIZE :=
            hlen.2 ▸ harea hfind hc .iops
          cases null with
          | true => exact writeFrameBuffer_inBounds hy hiops
          | false => exact writeFrameBuffer_inBounds (writeFrameBuffer_inBounds hy hdata) hiops
        · dsimp only
          rw [if_neg hc]
          exact hy
      · rw [if_neg hlen]
        exact hy
  · intro y loc iocs hy
    unfold Ppm.setIocs
    cases hfind : getArIocrDesc crs loc with
    | none => exact hy
    | some r =>
      rcases r with ⟨c, d⟩
      dsimp only
      by_cases hlen : iocs.length = d.iocsLength
      · rw [if_pos hlen]
        by_cases hc : c = crep
        · dsimp only
          rw [if_pos hc]
          exact writeFrameBuffer_inBounds hy (hlen ▸ harea hfind hc .iocs)
        · dsimp only
          rw [if_neg hc]
          exact hy
      · rw [if_neg hlen]
        by_cases hnone : d.iocsLength = 0
        · rw [if_pos hnone]
          exact hy
        · rw [if_neg hnone]
          exact hy

end

/-- An input CR of an accepted request fits its buffers if and only if its length and its subslots
are limited. -/
theorem fitsBuffers_iff {minDeviceInterval : ℕ} {ar : ArParam} {expApis : List ExpApi}
    {iocrs : List IocrParam} {stat : PnetResult} {crep : ℕ} {p : IocrParam}
    (haccepted : acceptsIocrs minDeviceInterval ar expApis iocrs stat = true)
    (hcrep : iocrs[crep]? = some p) :
    FitsBuffers (iocrs.map fun q => (q, layoutOf expApis q)) crep p (layoutOf expApis p) ↔
      Limited expApis p := by
  have hp : p ∈ iocrs := List.mem_of_getElem? hcrep
  constructor
  · intro h
    have hframe := h.frame Ppm.cleared
    have hsize : PF_FRAME_BUFFER_SIZE = 1500 := rfl
    rw [completeLength_eq] at hframe
    exact ⟨.inr (.inr (by omega)), dataDesc_length ▸ h.dataDesc⟩
  · intro h
    have htests : firstFailure (p.tests minDeviceInterval ar) = none := by
      rw [acceptsIocrs, Bool.and_eq_true, Bool.and_eq_true] at haccepted
      exact checkIocrParam_accepts.mp haccepted.1.1 p hp
    have hlength : p.cSduLength.toNat ≤ 1476 := by
      rcases h.cSduLength with hclass | hclass | hle
      · exact (cSduLength_le htests (.inl hclass)).trans (by decide)
      · exact (cSduLength_le htests (.inr hclass)).trans (by decide)
      · exact hle
    have hfits : Fits p := by
      unfold Fits PF_FRAME_BUFFER_SIZE
      omega
    apply fitsBuffers_of _ hfits (sound_of_accepts haccepted hp).inside
    · rw [dataDesc_length]
      exact h.subslots
    · rw [List.getElem?_map, hcrep]
      rfl

/-! ## A class without a limit -/

namespace FrameSizeRun

open TransmittersRun

/-- An input CR of the class 2. -/
def input (cSduLength : BitVec 16) : IocrParam :=
  { TransmittersRun.input with
    iocrProperties := ⟨PF_RT_CLASS_2, 0, 0, 0⟩
    frameId := 0x8000
    cSduLength }

end FrameSizeRun

open TransmittersRun FrameSizeRun in
theorem fitsBuffers_limit :
    FitsBuffers ([FrameSizeRun.input 1476, output].map fun q => (q, layoutOf expApis q)) 0
      (FrameSizeRun.input 1476) (layoutOf expApis (FrameSizeRun.input 1476)) := by
  have haccepted : acceptsIocrs 32 ar expApis [FrameSizeRun.input 1476, output] noError = true := by
    decide +kernel
  apply (fitsBuffers_iff haccepted rfl).mpr
  exact ⟨.inr (.inr le_rfl), by decide +kernel⟩

open TransmittersRun FrameSizeRun in
/-- The request is accepted with a frame of 1501 bytes. -/
theorem not_fitsBuffers_class2 :
    acceptsIocrs 32 ar expApis [FrameSizeRun.input 1477, output] noError = true ∧
      ¬FitsBuffers ([FrameSizeRun.input 1477, output].map fun q => (q, layoutOf expApis q)) 0
        (FrameSizeRun.input 1477) (layoutOf expApis (FrameSizeRun.input 1477)) := by
  refine ⟨by decide +kernel, fun h => ?_⟩
  exact absurd (h.frame Ppm.cleared) (by decide)

end PNet.Cyclic
