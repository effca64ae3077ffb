import PNet.Connect.Check
import PNet.Connect.Expected
import PNet.Cyclic.Cpm
import PNet.Lib.KeyedList

/-! # The layout of the cyclic data

`pf_cmdev_iocr_setup_desc` makes the data descriptors of a CR from what the connect request says
about the CR and about the submodules; `pf_cmdev_check_iocr_apis` then decides whether the request
is accepted. The expected configuration itself is checked before, in `pf_cmdev_exp_apis_configure`.

* `sound_of_checkIocrApis`: what the check sees to.
-/

namespace PNet.Connect

open Cyclic

/-! ## Areas of a frame -/

/-- Bytes of a frame, counted from the first one of the data. -/
structure Area where
  start : ℕ
  length : ℕ
deriving DecidableEq, Repr

namespace Area

/-- The area has the byte. -/
def Has (a : Area) (k : ℕ) : Prop := a.start ≤ k ∧ k < a.start + a.length

/-- No byte is in both of them. -/
def Apart (a b : Area) : Prop := ∀ k, a.Has k → ¬b.Has k

instance (a : Area) (k : ℕ) : Decidable (a.Has k) := inferInstanceAs (Decidable (_ ∧ _))

end Area

/-- `pf_cmdev_check_no_straddle`. -/
def checkNoStraddle (a b : Area) : Bool :=
  if 0 < a.length ∧ 0 < b.length then
    if a.start ≤ b.start then a.start + a.length ≤ b.start else b.start + b.length ≤ a.start
  else true

theorem checkNoStraddle_iff {a b : Area} : checkNoStraddle a b = true ↔ a.Apart b := by
  unfold checkNoStraddle
  constructor
  · intro h k ha hb
    rcases ha with ⟨ha, ha'⟩
    rcases hb with ⟨hb, hb'⟩
    have hboth : 0 < a.length ∧ 0 < b.length := by omega
    rw [if_pos hboth] at h
    by_cases hle : a.start ≤ b.start
    · rw [if_pos hle, decide_eq_true_iff] at h
      omega
    · rw [if_neg hle, decide_eq_true_iff] at h
      omega
  · intro h
    by_cases hboth : 0 < a.length ∧ 0 < b.length
    · rw [if_pos hboth]
      by_cases hle : a.start ≤ b.start
      · rw [if_pos hle, decide_eq_true_iff]
        by_contra hlt
        exact h b.start ⟨hle, by omega⟩ ⟨le_rfl, by omega⟩
      · rw [if_neg hle, decide_eq_true_iff]
        by_contra hlt
        exact h a.start ⟨le_rfl, by omega⟩ ⟨by omega, by omega⟩
    · rw [if_neg hboth]

instance (a b : Area) : Decidable (a.Apart b) :=
  decidable_of_iff (checkNoStraddle a b = true) checkNoStraddle_iff

theorem Area.Apart.symm {a b : Area} (h : a.Apart b) : b.Apart a :=
  fun k hb ha => h k ha hb

end PNet.Connect

namespace PNet.Cyclic.IodataObject

open Connect

def data (d : IodataObject) : Area := ⟨d.dataOffset, d.dataLength⟩

def iops (d : IodataObject) : Area := ⟨d.iopsOffset, d.iopsLength⟩

def iocs (d : IodataObject) : Area := ⟨d.iocsOffset, d.iocsLength⟩

end PNet.Cyclic.IodataObject

namespace PNet.Connect

open Cyclic

/-! ## Making the descriptors -/

/-- What `pf_cmdev_iocr_setup_desc` makes of a CR. -/
structure Layout where
  dataDesc : List IodataObject
  inLength : BitVec 16
  outLength : BitVec 16
deriving DecidableEq, Repr

namespace Layout

def empty : Layout := ⟨[], 0, 0⟩

/-- A descriptor that has just been taken into use. -/
def emptyDesc (loc : Location) : IodataObject where
  inUse := true
  location := loc
  dataOffset := 0
  dataLength := 0
  iopsOffset := 0
  iopsLength := 0
  iocsOffset := 0
  iocsLength := 0

/-- The descriptor of the subslot, or a new one. -/
def descOf (x : Layout) (loc : Location) : IodataObject :=
  (x.dataDesc.find? fun d => d.location = loc).getD (emptyDesc loc)

/-- The descriptor is stored, and `len` counts in the direction `dir`. -/
def store (x : Layout) (dir : BitVec 16) (d : IodataObject) (len : ℕ) : Layout where
  dataDesc := KeyedList.set IodataObject.location x.dataDesc d
  inLength := if dir = PF_DIRECTION_INPUT then x.inLength + BitVec.ofNat 16 len else x.inLength
  outLength := if dir = PF_DIRECTION_OUTPUT then x.outLength + BitVec.ofNat 16 len else x.outLength

/-- Where data and IOPS of the submodule lie. -/
def setDataIops (sub : ExpSubmodule) (dir : BitVec 16) (desc : DataDescriptor)
    (frameOffset : BitVec 16) (d : IodataObject) : IodataObject :=
  let reduced : Bool :=
    dir = PF_DIRECTION_INPUT ∧ sub.submoduleProperties.reduceInputSubmoduleDataLength = true ∨
      dir = PF_DIRECTION_OUTPUT ∧ sub.submoduleProperties.reduceOutputSubmoduleDataLength = true
  let dataLength := if reduced then 0 else desc.submoduleDataLength.toNat
  let dataOffset := if reduced then 0 else frameOffset.toNat
  if sub.submoduleProperties.discardIoxs then
    { d with dataLength := 0, dataOffset := 0, iopsLength := 0, iopsOffset := 0 }
  else
    { d with
      dataLength, dataOffset
      iopsLength := desc.lengthIops.toNat
      iopsOffset := (dataOffset + dataLength) % 2 ^ 16 }

/-- Where the IOCS of the submodule lies. -/
def setIocs (sub : ExpSubmodule) (desc : DataDescriptor) (frameOffset : BitVec 16)
    (d : IodataObject) : IodataObject :=
  if sub.submoduleProperties.discardIoxs then { d with iocsOffset := 0, iocsLength := 0 }
  else { d with iocsOffset := frameOffset.toNat, iocsLength := desc.lengthIocs.toNat }

variable (expApis : List ExpApi) (dir : BitVec 16)

/-- One object of `pf_cmdev_iocr_setup_data_iops`. -/
def addDataIops (api : BitVec 32) (x : Layout) (f : FrameDescriptor) : Layout :=
  match getExpSub expApis api f.slotNumber f.subslotNumber with
  | none => x
  | some sub =>
    match getExpSubDataDescriptor sub dir .PF_DEV_STATUS_TYPE_IOPS with
    | none => x
    | some desc =>
      let d := setDataIops sub dir desc f.frameOffset
        (x.descOf ⟨api, f.slotNumber, f.subslotNumber⟩)
      x.store dir d (d.dataLength + d.iopsLength + d.iocsLength)

/-- `pf_cmdev_iocr_setup_data_iops`. -/
def setupDataIops (apis : List ApiEntry) (x : Layout) : Layout :=
  apis.foldl (fun x a => a.ioData.foldl (addDataIops expApis dir a.api) x) x

/-- One IOCS of `pf_cmdev_iocr_setup_iocs`. -/
def addIocs (api : BitVec 32) (x : Layout) (f : FrameDescriptor) : Layout :=
  match getExpSub expApis api f.slotNumber f.subslotNumber with
  | none => x
  | some sub =>
    match getExpSubDataDescriptor sub dir .PF_DEV_STATUS_TYPE_IOCS with
    | none => x
    | some desc =>
      let d := setIocs sub desc f.frameOffset (x.descOf ⟨api, f.slotNumber, f.subslotNumber⟩)
      x.store dir d d.iocsLength

/-- `pf_cmdev_iocr_setup_iocs`: it fails when a submodule is not expected. -/
def setupIocs (apis : List ApiEntry) (x : Layout) : Bool × Layout :=
  (apis.all fun a => a.iocs.all fun f =>
      (getExpSub expApis a.api f.slotNumber f.subslotNumber).isSome,
    apis.foldl (fun x a => a.iocs.foldl (addIocs expApis dir a.api) x) x)

end Layout

/-- The direction of the data of a CR. -/
def IocrParam.dir (p : IocrParam) : BitVec 16 :=
  if p.iocrType = PF_IOCR_TYPE_INPUT ∨ p.iocrType = PF_IOCR_TYPE_MC_PROVIDER then
    PF_DIRECTION_INPUT
  else PF_DIRECTION_OUTPUT

/-- `pf_cmdev_iocr_setup_desc`. -/
def iocrSetupDesc (expApis : List ExpApi) (p : IocrParam) : Bool × Layout :=
  Layout.setupIocs expApis p.dir p.apis (Layout.setupDataIops expApis p.dir p.apis .empty)

/-! ## Checking them -/

/-- The three areas of an earlier descriptor leave the area free. -/
def leavesFree (a : Area) (e : IodataObject) : Bool :=
  checkNoStraddle a e.data && checkNoStraddle a e.iocs && checkNoStraddle a e.iops

/-- `pf_cmdev_check_iocr_overlap`: the error code 2 when a descriptor overlaps an earlier one. -/
def checkIocrOverlap (earlier : List IodataObject) (d : IodataObject) : Option Byte :=
  if earlier.all fun e => leavesFree d.data e && leavesFree d.iops e then
    if earlier.all fun e => leavesFree d.iocs e then none else some 28
  else some 24

/-- The status of the check, and whether nothing has failed so far. -/
structure Verdict where
  ok : Bool
  stat : PnetResult
deriving DecidableEq, Repr

namespace Verdict

def fail (v : Verdict) (errorCode2 : Byte) : Verdict where
  ok := false
  stat := setError v.stat PNET_ERROR_CODE_CONNECT PNET_ERROR_DECODE_PNIO
    PNET_ERROR_CODE_1_CONN_FAULTY_IOCR_BLOCK_REQ errorCode2

/-- A test; an earlier error is overwritten. -/
def test (v : Verdict) (fails : Bool) (errorCode2 : Byte) : Verdict :=
  if fails then v.fail errorCode2 else v

/-- What is only done while nothing has failed. -/
def whileOk (v : Verdict) (f : Verdict → Verdict) : Verdict := if v.ok then f v else v

end Verdict

/-- Another entry of the list, or none at all, has the slot and the subslot of this one. -/
def notOnce (l : List FrameDescriptor) (f : FrameDescriptor) : Bool :=
  (l.countP fun g => g.slotNumber = f.slotNumber ∧ g.subslotNumber = f.subslotNumber) ≠ 1

/-- The last module with the slot number. -/
def lastModule (exp : ExpApi) (slot : BitVec 16) : Option ExpModule :=
  exp.modules.reverse.find? fun m => m.slotNumber = slot

/-- The last submodule with the subslot number. -/
def lastSubmodule (mod : ExpModule) (subslot : BitVec 16) : Option ExpSubmodule :=
  mod.submodules.reverse.find? fun s => s.subslotNumber = subslot

/-- The CR does not carry data of a submodule of this type. -/
def wrongForData (p : IocrParam) (type : Byte) : Bool :=
  (type = PNET_DIR_NO_IO ∨ type = PNET_DIR_INPUT) ∧
      (p.iocrType = PF_IOCR_TYPE_OUTPUT ∨ p.iocrType = PF_IOCR_TYPE_MC_CONSUMER) ∨
    type = PNET_DIR_OUTPUT ∧
      (p.iocrType = PF_IOCR_TYPE_INPUT ∨ p.iocrType = PF_IOCR_TYPE_MC_PROVIDER)

/-- The CR does not carry the IOCS of a submodule of this type. -/
def wrongForIocs (p : IocrParam) (type : Byte) : Bool :=
  (type = PNET_DIR_NO_IO ∨ type = PNET_DIR_INPUT) ∧ p.iocrType = PF_IOCR_TYPE_INPUT ∨
    type = PNET_DIR_OUTPUT ∧ p.iocrType = PF_IOCR_TYPE_OUTPUT

/-- The test of one data object of `pf_cmdev_check_iocr_apis`. -/
def checkIoData (p : IocrParam) (exp : ExpApi) (v : Verdict) (f : FrameDescriptor) : Verdict :=
  match lastModule exp f.slotNumber with
  | none => v.fail 22
  | some mod =>
    match lastSubmodule mod f.subslotNumber with
    | none => v.fail 23
    | some sub => v.whileOk fun v => v.test (wrongForData p sub.submoduleProperties.type) 23

/-- The test of one IOCS. -/
def checkIocs (p : IocrParam) (exp : ExpApi) (v : Verdict) (f : FrameDescriptor) : Verdict :=
  match lastModule exp f.slotNumber with
  | none => v.fail 27
  | some mod =>
    match lastSubmodule mod f.subslotNumber with
    | none => v.fail 27
    | some sub =>
      v.whileOk fun v =>
        (v.test (wrongForIocs p sub.submoduleProperties.type) 27).whileOk fun v =>
          v.test (sub.submoduleProperties.type = PNET_DIR_IO ∧ sub.dataDescriptor.length ≠ 2) 28

/-- The tests of the data objects and the IOCS of an API that is expected. -/
def checkApiEntry (p : IocrParam) (exp : ExpApi) (a : ApiEntry) (v : Verdict) : Verdict :=
  let v := a.ioData.foldl (fun v f => v.test (notOnce a.ioData f) 23) v
  let v := a.ioData.foldl (checkIoData p exp) v
  let v := v.whileOk fun v => a.iocs.foldl (fun v f => v.test (notOnce a.iocs f) 27) v
  v.whileOk fun v => a.iocs.foldl (checkIocs p exp) v

/-- The tests of one API of a CR. -/
def checkApi (expApis : List ExpApi) (p : IocrParam) (v : Verdict) (a : ApiEntry) : Verdict :=
  match getExpApi expApis a.api with
  | none => v.fail 20
  | some exp =>
    (v.test (a.ioData = [] ∧ a.iocs = []) 21).whileOk (checkApiEntry p exp a)

/-- The tests of one descriptor, after the `earlier` ones. -/
def checkDesc (cSduLength : BitVec 16) (earlier : List IodataObject) (d : IodataObject)
    (v : Verdict) : Verdict :=
  if cSduLength.toNat < d.dataOffset + d.dataLength then v.fail 24
  else if cSduLength.toNat < d.iopsOffset + d.iopsLength then v.fail 24
  else if cSduLength.toNat < d.iocsOffset + d.iocsLength then v.fail 28
  else match checkIocrOverlap earlier d with
    | none => v
    | some errorCode2 => v.fail errorCode2

def checkDescs (cSduLength : BitVec 16) (earlier : List IodataObject) (v : Verdict) :
    List IodataObject → Verdict
  | [] => v
  | d :: ds =>
    checkDescs cSduLength (earlier ++ [d]) (v.whileOk (checkDesc cSduLength earlier d)) ds

/-- The tests of one CR. -/
def checkIocr (expApis : List ExpApi) (v : Verdict) (iocr : IocrParam × Layout) : Verdict :=
  checkDescs iocr.1.cSduLength [] (iocr.1.apis.foldl (checkApi expApis iocr.1) v) iocr.2.dataDesc

/-- `pf_cmdev_check_iocr_apis`. -/
def checkIocrApis (expApis : List ExpApi) (iocrs : List (IocrParam × Layout))
    (stat : PnetResult) : Verdict :=
  iocrs.foldl (checkIocr expApis) ⟨true, stat⟩

/-- The layout of a CR. -/
def layoutOf (expApis : List ExpApi) (p : IocrParam) : Layout := (iocrSetupDesc expApis p).2

/-- What `pf_cmdev_check_apdu` asks of the CRs; between the first test and the second one it
configures the expected submodules, which does not depend on the CRs' layouts. -/
def acceptsIocrs (minDeviceInterval : ℕ) (ar : ArParam) (expApis : List ExpApi)
    (iocrs : List IocrParam) (stat : PnetResult) : Bool :=
  (checkIocrParam minDeviceInterval ar iocrs stat).1 &&
    (iocrs.all fun p => (iocrSetupDesc expApis p).1) &&
    (checkIocrApis expApis (iocrs.map fun p => (p, layoutOf expApis p)) stat).ok

end PNet.Connect

/-! ## What the check sees to -/

namespace PNet.Cyclic.IodataObject

open Connect

def areas (d : IodataObject) : List Area := [d.data, d.iops, d.iocs]

/-- The areas end inside of the data of the frame. -/
def Inside (cSduLength : BitVec 16) (d : IodataObject) : Prop :=
  ∀ a ∈ d.areas, a.start + a.length ≤ cSduLength.toNat

/-- No byte belongs to both descriptors. -/
def Apart (e d : IodataObject) : Prop := ∀ a ∈ d.areas, ∀ b ∈ e.areas, a.Apart b

theorem Apart.symm {e d : IodataObject} (h : e.Apart d) : d.Apart e :=
  fun a ha b hb => (h b hb a ha).symm

end PNet.Cyclic.IodataObject

namespace PNet.Connect

open Cyclic

/-- The descriptors lie in the frame, and no two of them share a byte. -/
structure Layout.Sound (cSduLength : BitVec 16) (x : Layout) : Prop where
  inside : ∀ d ∈ x.dataDesc, d.Inside cSduLength
  apart : x.dataDesc.Pairwise IodataObject.Apart

variable {v : Verdict} {expApis : List ExpApi} {p : IocrParam} {cSduLength : BitVec 16}

namespace Verdict

@[simp] theorem fail_ok (errorCode2 : Byte) : (v.fail errorCode2).ok = false := rfl

theorem test_ok {fails : Bool} {errorCode2 : Byte} :
    (v.test fails errorCode2).ok = true ↔ v.ok = true ∧ fails = false := by
  unfold test
  cases fails <;> simp

theorem whileOk_ok {f : Verdict → Verdict} (hf : ∀ v, (f v).ok = true → v.ok = true) :
    (v.whileOk f).ok = true ↔ (f v).ok = true := by
  unfold whileOk
  cases hv : v.ok with
  | true => rw [if_pos rfl]
  | false =>
    rw [if_neg Bool.false_ne_true, hv]
    constructor
    · exact fun h => absurd h Bool.false_ne_true
    · exact fun h => hv ▸ hf v h

theorem ok_of_whileOk {f : Verdict → Verdict} (hf : ∀ v, (f v).ok = true → v.ok = true)
    (h : (v.whileOk f).ok = true) : v.ok = true := hf v ((whileOk_ok hf).mp h)

/-- What has failed stays so. -/
theorem ok_of_foldl {α : Type} {f : Verdict → α → Verdict} {l : List α}
    (hf : ∀ v x, (f v x).ok = true → v.ok = true) (h : (l.foldl f v).ok = true) :
    v.ok = true := by
  induction l generalizing v with
  | nil => exact h
  | cons x l ih => exact hf v x (ih h)

/-- Each test of a row has been passed, after some of the others. -/
theorem each_of_foldl {α : Type} {f : Verdict → α → Verdict} {l : List α}
    (hf : ∀ v x, (f v x).ok = true → v.ok = true) (h : (l.foldl f v).ok = true) :
    ∀ x ∈ l, ∃ v', (f v' x).ok = true := by
  induction l generalizing v with
  | nil => exact fun x hx => absurd hx List.not_mem_nil
  | cons y l ih =>
    intro x hx
    rcases List.mem_cons.mp hx with rfl | hx
    · exact ⟨v, ok_of_foldl hf h⟩
    · exact ih h x hx

end Verdict

theorem checkIoData_ok {exp : ExpApi} {f : FrameDescriptor}
    (h : (checkIoData p exp v f).ok = true) : v.ok = true := by
  unfold checkIoData at h
  cases hmod : lastModule exp f.slotNumber with
  | none =>
    rw [hmod] at h
    cases h
  | some mod =>
    rw [hmod] at h
    dsimp only at h
    cases hsub : lastSubmodule mod f.subslotNumber with
    | none =>
      rw [hsub] at h
      cases h
    | some sub =>
      rw [hsub] at h
      exact Verdict.ok_of_whileOk (fun v hv => (Verdict.test_ok.mp hv).1) h

theorem checkIocs_ok {exp : ExpApi} {f : FrameDescriptor}
    (h : (checkIocs p exp v f).ok = true) : v.ok = true := by
  unfold checkIocs at h
  cases hmod : lastModule exp f.slotNumber with
  | none =>
    rw [hmod] at h
    cases h
  | some mod =>
    rw [hmod] at h
    dsimp only at h
    cases hsub : lastSubmodule mod f.subslotNumber with
    | none =>
      rw [hsub] at h
      cases h
    | some sub =>
      rw [hsub] at h
      refine Verdict.ok_of_whileOk (fun v hv => ?_) h
      have htest := Verdict.ok_of_whileOk (fun v hv => (Verdict.test_ok.mp hv).1) hv
      exact (Verdict.test_ok.mp htest).1

theorem checkApiEntry_ok {exp : ExpApi} {a : ApiEntry}
    (h : (checkApiEntry p exp a v).ok = true) : v.ok = true := by
  have hiocs := Verdict.ok_of_whileOk
    (fun v hv => Verdict.ok_of_foldl (fun _ _ => checkIocs_ok) hv) h
  have honce := Verdict.ok_of_whileOk
    (fun v hv => Verdict.ok_of_foldl (fun _ _ hv => (Verdict.test_ok.mp hv).1) hv) hiocs
  have hdata := Verdict.ok_of_foldl (fun _ _ => checkIoData_ok) honce
  exact Verdict.ok_of_foldl (fun _ _ hv => (Verdict.test_ok.mp hv).1) hdata

theorem checkApi_ok {a : ApiEntry} (h : (checkApi expApis p v a).ok = true) : v.ok = true := by
  unfold checkApi at h
  cases hexp : getExpApi expApis a.api with
  | none =>
    rw [hexp] at h
    cases h
  | some exp =>
    rw [hexp] at h
    have htest := Verdict.ok_of_whileOk (fun _ => checkApiEntry_ok) h
    exact (Verdict.test_ok.mp htest).1

/-! ### The descriptors -/

theorem leavesFree_iff {a : Area} {e : IodataObject} :
    leavesFree a e = true ↔ ∀ b ∈ e.areas, a.Apart b := by
  simp only [leavesFree, Bool.and_eq_true, checkNoStraddle_iff, IodataObject.areas,
    List.forall_mem_cons, List.not_mem_nil, false_implies, implies_true, and_true]
  tauto

theorem checkIocrOverlap_none {earlier : List IodataObject} {d : IodataObject} :
    checkIocrOverlap earlier d = none ↔ ∀ e ∈ earlier, e.Apart d := by
  have hapart (e : IodataObject) : e.Apart d ↔
      (leavesFree d.data e && leavesFree d.iops e) = true ∧ leavesFree d.iocs e = true := by
    simp only [Bool.and_eq_true, leavesFree_iff, IodataObject.Apart, IodataObject.areas,
      List.forall_mem_cons, List.not_mem_nil, false_implies, implies_true, and_true]
    tauto
  simp only [hapart, checkIocrOverlap]
  by_cases hfirst : (earlier.all fun e => leavesFree d.data e && leavesFree d.iops e) = true
  · by_cases hsecond : (earlier.all fun e => leavesFree d.iocs e) = true
    · rw [if_pos hfirst, if_pos hsecond]
      rw [List.all_eq_true] at hfirst hsecond
      exact iff_of_true rfl fun e he => ⟨hfirst e he, hsecond e he⟩
    · rw [if_pos hfirst, if_neg hsecond]
      rw [List.all_eq_true] at hsecond
      exact iff_of_false nofun fun h => hsecond fun e he => (h e he).2
  · rw [if_neg hfirst]
    rw [List.all_eq_true] at hfirst
    exact iff_of_false nofun fun h => hfirst fun e he => (h e he).1

theorem checkDesc_ok {earlier : List IodataObject} {d : IodataObject} :
    (checkDesc cSduLength earlier d v).ok = true ↔
      v.ok = true ∧ d.Inside cSduLength ∧ ∀ e ∈ earlier, e.Apart d := by
  have hinside : d.Inside cSduLength ↔ d.dataOffset + d.dataLength ≤ cSduLength.toNat ∧
      d.iopsOffset + d.iopsLength ≤ cSduLength.toNat ∧
      d.iocsOffset + d.iocsLength ≤ cSduLength.toNat := by
    simp only [IodataObject.Inside, IodataObject.areas, List.forall_mem_cons, List.not_mem_nil,
      false_implies, implies_true, and_true]
    rfl
  rw [hinside, checkDesc]
  by_cases hdata : cSduLength.toNat < d.dataOffset + d.dataLength
  · rw [if_pos hdata]
    exact iff_of_false nofun fun h => absurd h.2.1.1 hdata.not_ge
  by_cases hiops : cSduLength.toNat < d.iopsOffset + d.iopsLength
  · rw [if_neg hdata, if_pos hiops]
    exact iff_of_false nofun fun h => absurd h.2.1.2.1 hiops.not_ge
  by_cases hiocs : cSduLength.toNat < d.iocsOffset + d.iocsLength
  · rw [if_neg hdata, if_neg hiops, if_pos hiocs]
    exact iff_of_false nofun fun h => absurd h.2.1.2.2 hiocs.not_ge
  rw [if_neg hdata, if_neg hiops, if_neg hiocs, ← checkIocrOverlap_none]
  cases hfree : checkIocrOverlap earlier d with
  | none =>
    have hends := And.intro (Nat.le_of_not_lt hdata)
      (And.intro (Nat.le_of_not_lt hiops) (Nat.le_of_not_lt hiocs))
    exact ⟨fun h => ⟨h, hends, rfl⟩, fun h => h.1⟩
  | some errorCode2 => exact iff_of_false nofun fun h => nomatch h.2.2

theorem checkDescs_ok {earlier ds : List IodataObject} :
    (checkDescs cSduLength earlier v ds).ok = true ↔
      v.ok = true ∧ (∀ d ∈ ds, d.Inside cSduLength ∧ ∀ e ∈ earlier, e.Apart d) ∧
        ds.Pairwise IodataObject.Apart := by
  induction ds generalizing earlier v with
  | nil => simp [checkDescs]
  | cons d ds ih =>
    have hwhile : (v.whileOk (checkDesc cSduLength earlier d)).ok = true ↔
        v.ok = true ∧ d.Inside cSduLength ∧ ∀ e ∈ earlier, e.Apart d := by
      rw [Verdict.whileOk_ok fun v hv => (checkDesc_ok.mp hv).1, checkDesc_ok]
    rw [checkDescs, ih, hwhile, List.forall_mem_cons, List.pairwise_cons]
    constructor
    · rintro ⟨⟨hv, hd⟩, hds, hpair⟩
      refine ⟨hv, ⟨hd, ?_⟩, ?_, hpair⟩
      · intro d' hd'
        exact ⟨(hds d' hd').1, fun e he => (hds d' hd').2 e (List.mem_append_left _ he)⟩
      · intro d' hd'
        exact (hds d' hd').2 d (List.mem_append_right _ (List.mem_singleton_self d))
    · rintro ⟨hv, ⟨hd, hds⟩, hfirst, hpair⟩
      refine ⟨⟨hv, hd⟩, ?_, hpair⟩
      intro d' hd'
      refine ⟨(hds d' hd').1, fun e he => ?_⟩
      rcases List.mem_append.mp he with he | he
      · exact (hds d' hd').2 e he
      · rw [List.mem_singleton.mp he]
        exact hfirst d' hd'

theorem checkIocr_ok {iocr : IocrParam × Layout} (h : (checkIocr expApis v iocr).ok = true) :
    v.ok = true ∧ iocr.2.Sound iocr.1.cSduLength := by
  rcases checkDescs_ok.mp h with ⟨hapis, hinside, hpair⟩
  constructor
  · exact Verdict.ok_of_foldl (fun _ _ => checkApi_ok) hapis
  · exact ⟨fun d hd => (hinside d hd).1, hpair⟩

theorem sound_of_foldl {iocrs : List (IocrParam × Layout)}
    (h : (iocrs.foldl (checkIocr expApis) v).ok = true) :
    ∀ iocr ∈ iocrs, iocr.2.Sound iocr.1.cSduLength := by
  induction iocrs generalizing v with
  | nil => exact fun _ h => nomatch h
  | cons iocr iocrs ih =>
    have hfirst : (checkIocr expApis v iocr).ok = true :=
      Verdict.ok_of_foldl (fun _ _ hv => (checkIocr_ok hv).1) h
    rw [List.forall_mem_cons]
    exact ⟨(checkIocr_ok hfirst).2, ih h⟩

/-- The check sees to the layout of each CR, but for the IOCS of a submodule in its own data. -/
theorem sound_of_checkIocrApis {iocrs : List (IocrParam × Layout)} {stat : PnetResult}
    (h : (checkIocrApis expApis iocrs stat).ok = true) :
    ∀ iocr ∈ iocrs, iocr.2.Sound iocr.1.cSduLength := sound_of_foldl h

theorem sound_of_accepts {minDeviceInterval : ℕ} {ar : ArParam} {iocrs : List IocrParam}
    {stat : PnetResult} (h : acceptsIocrs minDeviceInterval ar expApis iocrs stat = true)
    (hp : p ∈ iocrs) : (layoutOf expApis p).Sound p.cSduLength := by
  rw [acceptsIocrs, Bool.and_eq_true] at h
  exact sound_of_checkIocrApis h.2 _ (List.mem_map_of_mem (f := fun q => (q, layoutOf expApis q)) hp)

/-! ## What the descriptors are like -/

namespace Layout

/-- No two descriptors belong to one subslot, the IOPS follows the data, and each descriptor
belongs to an API of the CR. -/
structure Formed (apis : List ApiEntry) (x : Layout) : Prop where
  unique : KeyedList.Unique IodataObject.location x.dataDesc
  iops : ∀ d ∈ x.dataDesc,
    d.iopsLength = 0 ∨ d.iopsOffset = (d.dataOffset + d.dataLength) % 2 ^ 16
  api : ∀ d ∈ x.dataDesc, ∃ a ∈ apis, d.location.apiId = a.api

variable {apis : List ApiEntry} {x : Layout} {dir : BitVec 16} {loc : Location}

theorem empty_formed : empty.Formed apis := by
  constructor
  · exact List.nodup_nil
  · exact fun _ h => nomatch h
  · exact fun _ h => nomatch h

theorem descOf_location : (x.descOf loc).location = loc := by
  unfold descOf
  cases hfind : x.dataDesc.find? fun d => d.location = loc with
  | none => rfl
  | some d =>
    have hd := List.find?_some hfind
    exact of_decide_eq_true hd

theorem descOf_iops (h : x.Formed apis) : (x.descOf loc).iopsLength = 0 ∨
    (x.descOf loc).iopsOffset = ((x.descOf loc).dataOffset + (x.descOf loc).dataLength) % 2 ^ 16 := by
  unfold descOf
  cases hfind : x.dataDesc.find? fun d => d.location = loc with
  | none => exact .inl rfl
  | some d => exact h.iops d (List.mem_of_find?_eq_some hfind)

theorem Formed.store (h : x.Formed apis) {d : IodataObject} {len : ℕ}
    (hiops : d.iopsLength = 0 ∨ d.iopsOffset = (d.dataOffset + d.dataLength) % 2 ^ 16)
    (hapi : ∃ a ∈ apis, d.location.apiId = a.api) : (x.store dir d len).Formed apis := by
  constructor
  · exact h.unique.set d
  · intro e he
    rcases KeyedList.mem_of_mem_set he with rfl | he
    · exact hiops
    · exact h.iops e he
  · intro e he
    rcases KeyedList.mem_of_mem_set he with rfl | he
    · exact hapi
    · exact h.api e he

theorem setDataIops_location (sub : ExpSubmodule) (desc : DataDescriptor)
    (frameOffset : BitVec 16) (d : IodataObject) :
    (setDataIops sub dir desc frameOffset d).location = d.location := by
  unfold setDataIops
  cases sub.submoduleProperties.discardIoxs <;> rfl

theorem setDataIops_iops (sub : ExpSubmodule) (desc : DataDescriptor)
    (frameOffset : BitVec 16) (d : IodataObject) :
    (setDataIops sub dir desc frameOffset d).iopsLength = 0 ∨
      (setDataIops sub dir desc frameOffset d).iopsOffset =
        ((setDataIops sub dir desc frameOffset d).dataOffset +
          (setDataIops sub dir desc frameOffset d).dataLength) % 2 ^ 16 := by
  unfold setDataIops
  cases sub.submoduleProperties.discardIoxs with
  | true => exact .inl rfl
  | false => exact .inr rfl

theorem setIocs_same (sub : ExpSubmodule) (desc : DataDescriptor) (frameOffset : BitVec 16)
    (d : IodataObject) : (setIocs sub desc frameOffset d).location = d.location ∧
      (setIocs sub desc frameOffset d).data = d.data ∧
      (setIocs sub desc frameOffset d).iops = d.iops := by
  unfold setIocs
  cases sub.submoduleProperties.discardIoxs <;> exact ⟨rfl, rfl, rfl⟩

theorem Formed.addDataIops (h : x.Formed apis) {a : ApiEntry} (ha : a ∈ apis)
    (f : FrameDescriptor) : (addDataIops expApis dir a.api x f).Formed apis := by
  unfold Layout.addDataIops
  cases getExpSub expApis a.api f.slotNumber f.subslotNumber with
  | none => exact h
  | some sub =>
    dsimp only
    cases getExpSubDataDescriptor sub dir .PF_DEV_STATUS_TYPE_IOPS with
    | none => exact h
    | some desc =>
      refine h.store (setDataIops_iops _ _ _ _) ⟨a, ha, ?_⟩
      rw [setDataIops_location, descOf_location]

theorem Formed.addIocs (h : x.Formed apis) {a : ApiEntry} (ha : a ∈ apis)
    (f : FrameDescriptor) : (addIocs expApis dir a.api x f).Formed apis := by
  unfold Layout.addIocs
  cases getExpSub expApis a.api f.slotNumber f.subslotNumber with
  | none => exact h
  | some sub =>
    dsimp only
    cases getExpSubDataDescriptor sub dir .PF_DEV_STATUS_TYPE_IOCS with
    | none => exact h
    | some desc =>
      have hold := @descOf_iops _ _ ⟨a.api, f.slotNumber, f.subslotNumber⟩ h
      generalize hd : x.descOf ⟨a.api, f.slotNumber, f.subslotNumber⟩ = d at hold
      have hloc : d.location = ⟨a.api, f.slotNumber, f.subslotNumber⟩ := hd ▸ descOf_location
      rcases setIocs_same sub desc f.frameOffset d with ⟨hsame, hdata, hiops⟩
      refine h.store ?_ ⟨a, ha, by rw [hsame, hloc]⟩
      rcases Area.mk.inj hdata with ⟨hstart, hlength⟩
      rcases Area.mk.inj hiops with ⟨hstart', hlength'⟩
      rw [hstart, hlength, hstart', hlength']
      exact hold

end Layout

theorem iocrSetupDesc_formed : (iocrSetupDesc expApis p).2.Formed p.apis := by
  have hdata : (Layout.setupDataIops expApis p.dir p.apis .empty).Formed p.apis := by
    refine List.foldlRecOn _ _ Layout.empty_formed fun x hx a ha => ?_
    exact List.foldlRecOn _ _ hx fun x hx f _ => hx.addDataIops ha f
  refine List.foldlRecOn _ _ hdata fun x hx a ha => ?_
  exact List.foldlRecOn _ _ hx fun x hx f _ => hx.addIocs ha f

end PNet.Connect
