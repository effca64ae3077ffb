import Mathlib.Data.List.Range
import Mathlib.Logic.Function.Basic
import PNet.Connect.Expected
import PNet.Options

/-! # The device tree

The APIs, slots and subslots of `cmdev_device` and the pool of diagnosis items, and what
plugs and pulls modules in `pf_cmdev.c`. An entry is named by its indices in the arrays, an
AR by its index. An alarm about plugging or pulling is sent to the AR and does not change the
tree.
-/

namespace PNet.Cmdev

open Connect

/-! ## Data -/

inductive SubmodPlugState where
  | PF_SUBMOD_PLUG_OK
  | PF_SUBMOD_PLUG_SUBSTITUTE
  | PF_SUBMOD_PLUG_WRONG
  | PF_SUBMOD_PLUG_NO
deriving DecidableEq, Repr

inductive ModPlugState where
  | PF_MOD_PLUG_NO_MODULE
  | PF_MOD_PLUG_WRONG_MODULE
  | PF_MOD_PLUG_PROPER_MODULE
  | PF_MOD_PLUG_SUBSTITUTE
deriving DecidableEq, Repr

inductive SubmodArInfo where
  | PF_SUBMOD_AR_INFO_OWN
  | PF_SUBMOD_AR_INFO_APPLICATION_READY_PENDING
  | PF_SUBMOD_AR_INFO_SUPERORDINATED_LOCKED
  | PF_SUBMOD_AR_INFO_LOCKED_BY_IO_CONTROLLER
  | PF_SUBMOD_AR_INFO_LOCKED_BY_IO_SUPERVISOR
deriving DecidableEq, Repr

/-- `pf_submod_state_t`. -/
structure SubmodState where
  maintenanceRequired : Bool
  maintenanceDemanded : Bool
  fault : Bool
  arInfo : SubmodArInfo
  identInfo : SubmodPlugState
  formatIndicator : Bool
deriving DecidableEq, Repr

/-- `pf_subslot_t`. -/
structure Subslot where
  inUse : Bool
  subslotNbr : BitVec 16
  expSubmoduleIdentNumber : BitVec 32
  submoduleIdentNumber : BitVec 32
  lengthInput : BitVec 16
  lengthOutput : BitVec 16
  direction : Byte
  pAr : Option ℕ
  submoduleState : SubmodState
  /-- Head of the diagnosis items of the subslot. -/
  diagList : ℕ
deriving DecidableEq, Repr

/-- `pf_slot_t`, without its subslots. -/
structure Slot where
  inUse : Bool
  expModuleIdentNumber : BitVec 32
  moduleIdentNumber : BitVec 32
  plugState : ModPlugState
  pAr : Option ℕ
  slotNbr : BitVec 16
deriving DecidableEq, Repr

/-- `pf_api_t`, without its slots. -/
structure Api where
  inUse : Bool
  apiId : BitVec 32
  pAr : Option ℕ
deriving DecidableEq, Repr

/-- `pnet_diag_ch_prop_maint_values_t`. -/
inductive DiagMaint where
  | PNET_DIAG_CH_PROP_MAINT_FAULT
  | PNET_DIAG_CH_PROP_MAINT_REQUIRED
  | PNET_DIAG_CH_PROP_MAINT_DEMANDED
  | PNET_DIAG_CH_PROP_MAINT_QUALIFIED
deriving DecidableEq, Repr

inductive DiagSpec where
  | PF_DIAG_CH_PROP_SPEC_ALL_DISAPPEARS
  | PF_DIAG_CH_PROP_SPEC_APPEARS
  | PF_DIAG_CH_PROP_SPEC_DISAPPEARS
  | PF_DIAG_CH_PROP_SPEC_DIS_OTHERS_REMAIN
deriving DecidableEq, Repr

/-- `pnet_diag_ch_prop_dir_values_t`. -/
inductive DiagDir where
  | PNET_DIAG_CH_PROP_DIR_MANUF_SPEC
  | PNET_DIAG_CH_PROP_DIR_INPUT
  | PNET_DIAG_CH_PROP_DIR_OUTPUT
  | PNET_DIAG_CH_PROP_DIR_INOUT
deriving DecidableEq, Repr

/-- The bit fields of `ch_properties`. -/
structure ChProperties where
  type : Byte
  /-- The channel is a channel group. -/
  acc : Bool
  maint : DiagMaint
  spec : DiagSpec
  dir : DiagDir
deriving DecidableEq, Repr

/-- `pf_diag_std_t`. -/
structure DiagStd where
  extChAddValue : BitVec 32
  qualChQualifier : BitVec 32
  chNbr : BitVec 16
  chProperties : ChProperties
  chErrorType : BitVec 16
  extChErrorType : BitVec 16
deriving DecidableEq, Repr

/-- `pf_diag_item_t`; `manufData` is the USI format, with its length. -/
structure DiagItem where
  std : DiagStd
  manufData : List Byte
  inUse : Bool
  usi : BitVec 16
  next : ℕ
deriving DecidableEq, Repr

/-- The end of a list. -/
def PF_DIAG_IX_NULL : ℕ := 65535

abbrev SlotPos := ℕ × ℕ

abbrev SubslotPos := ℕ × ℕ × ℕ

/-- `pf_device_t`. -/
structure Device where
  apis : ℕ → Api
  slots : SlotPos → Slot
  subslots : SubslotPos → Subslot
  diagItems : ℕ → DiagItem
  diagItemsFree : ℕ

/-! ## Cleared entries -/

def clearedState : SubmodState :=
  ⟨false, false, false, .PF_SUBMOD_AR_INFO_OWN, .PF_SUBMOD_PLUG_OK, false⟩

def clearedSubslot : Subslot := ⟨false, 0, 0, 0, 0, 0, 0, none, clearedState, 0⟩

def clearedSlot : Slot := ⟨false, 0, 0, .PF_MOD_PLUG_NO_MODULE, none, 0⟩

def clearedApi : Api := ⟨false, 0, none⟩

def clearedItem : DiagItem :=
  ⟨⟨0, 0, 0, ⟨0, false, .PNET_DIAG_CH_PROP_MAINT_FAULT, .PF_DIAG_CH_PROP_SPEC_ALL_DISAPPEARS,
    .PNET_DIAG_CH_PROP_DIR_MANUF_SPEC⟩, 0, 0⟩, [], false, 0, 0⟩

namespace Device

/-! ## Finding an entry -/

/-- `pf_cmdev_get_api`. -/
def getApi (d : Device) (apiId : BitVec 32) : Option ℕ :=
  (List.range PNET_MAX_API).find? fun a => (d.apis a).inUse ∧ (d.apis a).apiId = apiId

/-- `pf_cmdev_get_slot`. -/
def getSlot (d : Device) (a : ℕ) (slotNbr : BitVec 16) : Option ℕ :=
  (List.range PNET_MAX_SLOTS).find? fun s =>
    (d.slots (a, s)).inUse ∧ (d.slots (a, s)).slotNbr = slotNbr

/-- `pf_cmdev_get_subslot`. -/
def getSubslot (d : Device) (a s : ℕ) (subslotNbr : BitVec 16) : Option ℕ :=
  (List.range PNET_MAX_SUBSLOTS).find? fun i =>
    (d.subslots (a, s, i)).inUse ∧ (d.subslots (a, s, i)).subslotNbr = subslotNbr

/-- `pf_cmdev_get_subslot_full`, whose API identifier has 16 bits. -/
def getSubslotFull (d : Device) (apiId slotNbr subslotNbr : BitVec 16) : Option SubslotPos := do
  let a ← d.getApi (apiId.setWidth 32)
  let s ← d.getSlot a slotNbr
  let i ← d.getSubslot a s subslotNbr
  return (a, s, i)

/-! ## Changing an entry -/

def setApi (d : Device) (a : ℕ) (api : Api) : Device :=
  { d with apis := Function.update d.apis a api }

def setSlot (d : Device) (q : SlotPos) (slot : Slot) : Device :=
  { d with slots := Function.update d.slots q slot }

def setSubslot (d : Device) (q : SubslotPos) (subslot : Subslot) : Device :=
  { d with subslots := Function.update d.subslots q subslot }

def setIdentInfo (d : Device) (q : SubslotPos) (identInfo : SubmodPlugState) : Device :=
  d.setSubslot q { d.subslots q with
    submoduleState := { (d.subslots q).submoduleState with identInfo } }

/-! ## New entries -/

/-- `pf_cmdev_new_api`. -/
def newApi (d : Device) (apiId : BitVec 32) : Option (ℕ × Device) :=
  match d.getApi apiId with
  | some _ => none
  | none =>
    match (List.range PNET_MAX_API).find? fun a => (d.apis a).inUse = false with
    | none => none
    | some a =>
      let d := { d with
        slots := fun q => if q.1 = a then clearedSlot else d.slots q
        subslots := fun q => if q.1 = a then clearedSubslot else d.subslots q }
      some (a, d.setApi a { clearedApi with apiId, inUse := true })

/-- `pf_cmdev_new_slot`. -/
def newSlot (d : Device) (a : ℕ) (slotNbr : BitVec 16) : Option (ℕ × Device) :=
  match d.getSlot a slotNbr with
  | some _ => none
  | none =>
    match (List.range PNET_MAX_SLOTS).find? fun s => (d.slots (a, s)).inUse = false with
    | none => none
    | some s =>
      let d := { d with subslots := fun q =>
        if q.1 = a ∧ q.2.1 = s then clearedSubslot else d.subslots q }
      some (s, d.setSlot (a, s) { clearedSlot with slotNbr, inUse := true })

/-- `pf_cmdev_new_subslot`. -/
def newSubslot (d : Device) (a s : ℕ) (subslotNbr : BitVec 16) : Option (ℕ × Device) :=
  match d.getSubslot a s subslotNbr with
  | some _ => none
  | none =>
    match (List.range PNET_MAX_SUBSLOTS).find? fun i => (d.subslots (a, s, i)).inUse = false with
    | none => none
    | some i =>
      some (i, d.setSubslot (a, s, i)
        { clearedSubslot with subslotNbr, diagList := PF_DIAG_IX_NULL, inUse := true })

/-! ## Plugging and pulling -/

/-- `pf_cmdev_plug_module`. -/
def plugModule (d : Device) (apiId : BitVec 32) (slotNbr : BitVec 16)
    (moduleIdentNbr : BitVec 32) : ℤ × Device :=
  match d.getApi apiId with
  | none => (-1, d)
  | some a =>
    match d.getSlot a slotNbr with
    | some s =>
      let slot := d.slots (a, s)
      if slot.moduleIdentNumber = moduleIdentNbr then
        (0, d.setSlot (a, s) { slot with plugState := .PF_MOD_PLUG_PROPER_MODULE })
      else (-1, d.setSlot (a, s) { slot with plugState := .PF_MOD_PLUG_WRONG_MODULE })
    | none =>
      match d.newSlot a slotNbr with
      | none => (-1, d)
      | some (s, d) =>
        (0, d.setSlot (a, s) { d.slots (a, s) with
          moduleIdentNumber := moduleIdentNbr
          plugState := .PF_MOD_PLUG_PROPER_MODULE
          pAr := (d.apis a).pAr })

/-- `pf_cmdev_pull_submodule`. -/
def pullSubmodule (d : Device) (apiId : BitVec 32) (slotNbr subslotNbr : BitVec 16) : ℤ × Device :=
  match d.getApi apiId with
  | none => (-1, d)
  | some a =>
    match d.getSlot a slotNbr with
    | none => (-1, d)
    | some s =>
      match d.getSubslot a s subslotNbr with
      | none => (-1, d)
      | some i =>
        let q := (a, s, i)
        let d := d.setSubslot q { d.subslots q with inUse := false }
        (0, d.setIdentInfo q .PF_SUBMOD_PLUG_NO)

/-- What is plugged into a subslot. -/
structure Submodule where
  moduleIdentNbr : BitVec 32
  submodIdentNbr : BitVec 32
  direction : Byte
  lengthInput : BitVec 16
  lengthOutput : BitVec 16
deriving DecidableEq, Repr

/-- The end of `pf_cmdev_plug_submodule`: the submodule goes into a new subslot. -/
def plugNewSubslot (d : Device) (expApis : ℕ → List ExpApi) (a : ℕ) (apiId : BitVec 32)
    (slotNbr subslotNbr : BitVec 16) (m : Submodule) : ℤ × Device :=
  match d.getSlot a slotNbr with
  | none => (-1, d)
  | some s =>
    match d.newSubslot a s subslotNbr with
    | none => (-1, d)
    | some (i, d) =>
      let expSub := (d.slots (a, s)).pAr.bind fun ar =>
        getExpSub (expApis ar) apiId slotNbr subslotNbr
      let identInfo := match expSub with
        | none => SubmodPlugState.PF_SUBMOD_PLUG_OK
        | some sub =>
          if sub.submoduleIdentNumber = m.submodIdentNbr then .PF_SUBMOD_PLUG_OK
          else .PF_SUBMOD_PLUG_SUBSTITUTE
      let subslot := d.subslots (a, s, i)
      (0, d.setSubslot (a, s, i) { subslot with
        submoduleIdentNumber := m.submodIdentNbr
        submoduleState := { subslot.submoduleState with identInfo, formatIndicator := true }
        direction := m.direction
        lengthInput := m.lengthInput
        lengthOutput := m.lengthOutput
        pAr := (d.slots (a, s)).pAr })

/-- `pf_cmdev_plug_submodule`; `expApis` is what each AR expects. -/
def plugSubmodule (d : Device) (expApis : ℕ → List ExpApi) (apiId : BitVec 32)
    (slotNbr subslotNbr : BitVec 16) (m : Submodule) (update : Bool) : ℤ × Device :=
  match d.getApi apiId with
  | none => (-1, d)
  | some a =>
    match d.getSlot a slotNbr with
    | none =>
      (d.plugModule apiId slotNbr m.moduleIdentNbr).2.plugNewSubslot expApis a apiId slotNbr
        subslotNbr m
    | some s =>
      match d.getSubslot a s subslotNbr with
      | none => d.plugNewSubslot expApis a apiId slotNbr subslotNbr m
      | some i =>
        if update then
          (d.pullSubmodule apiId slotNbr subslotNbr).2.plugNewSubslot expApis a apiId slotNbr
            subslotNbr m
        else if (d.subslots (a, s, i)).submoduleIdentNumber = m.submodIdentNbr then
          (0, d.setIdentInfo (a, s, i) .PF_SUBMOD_PLUG_OK)
        else
          (d.setIdentInfo (a, s, i) .PF_SUBMOD_PLUG_SUBSTITUTE).plugNewSubslot expApis a apiId
            slotNbr subslotNbr m

/-- Pulls what is in the subslots `ixs` of the slot. -/
def pullSubslots (d : Device) (apiId : BitVec 32) (slotNbr : BitVec 16) (q : SlotPos) :
    List ℕ → ℤ × Device
  | [] => (0, d)
  | i :: ixs =>
    let subslot := d.subslots (q.1, q.2, i)
    if subslot.inUse then
      let (ret, d) := d.pullSubmodule apiId slotNbr subslot.subslotNbr
      if ret = 0 then d.pullSubslots apiId slotNbr q ixs else (-1, d)
    else d.pullSubslots apiId slotNbr q ixs

/-- `pf_cmdev_pull_module`. -/
def pullModule (d : Device) (apiId : BitVec 32) (slotNbr : BitVec 16) : ℤ × Device :=
  match d.getApi apiId with
  | none => (-1, d)
  | some a =>
    match d.getSlot a slotNbr with
    | none => (-1, d)
    | some s =>
      let (ret, d) := d.pullSubslots apiId slotNbr (a, s) (List.range PNET_MAX_SUBSLOTS)
      if ret = 0 then
        (0, d.setSlot (a, s) { d.slots (a, s) with
          inUse := false, plugState := .PF_MOD_PLUG_NO_MODULE })
      else (-1, d)

end Device

end PNet.Cmdev
