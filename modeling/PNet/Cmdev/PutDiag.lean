import Mathlib.Data.List.Basic
import PNet.Cmdev.Problem
import PNet.Lib.Ascending
import PNet.Rpc.Write

/-! # Reading the diagnosis

`pf_put_diag_data` of `pf_block_writer.c` and what it calls, over the device tree. Each loop over
the list of a subslot is over the items of the list; `none` stands for a list that does not end.
The record is what has been put between the position before and the one after.
-/

namespace PNet.Cmdev

open Block Rpc

/-! ## Filters -/

/-- `pf_dev_filter_level_t`, whose order is important. -/
inductive DevFilterLevel where
  | PF_DEV_FILTER_LEVEL_DEVICE
  | PF_DEV_FILTER_LEVEL_API_ID
  | PF_DEV_FILTER_LEVEL_API
  | PF_DEV_FILTER_LEVEL_SLOT
  | PF_DEV_FILTER_LEVEL_SUBSLOT
deriving DecidableEq, Repr

def DevFilterLevel.value : DevFilterLevel → ℕ
  | .PF_DEV_FILTER_LEVEL_DEVICE => 0
  | .PF_DEV_FILTER_LEVEL_API_ID => 1
  | .PF_DEV_FILTER_LEVEL_API => 2
  | .PF_DEV_FILTER_LEVEL_SLOT => 3
  | .PF_DEV_FILTER_LEVEL_SUBSLOT => 4

/-- `pf_diag_filter_level_t`. -/
inductive DiagFilterLevel where
  | PF_DIAG_FILTER_FAULT_STD
  | PF_DIAG_FILTER_FAULT_ALL
  | PF_DIAG_FILTER_ALL
  | PF_DIAG_FILTER_M_REQ
  | PF_DIAG_FILTER_M_DEM
deriving DecidableEq, Repr

/-- What `pf_put_diag_data` is to put. -/
structure DiagRead where
  filterLevel : DevFilterLevel
  diagFilter : DiagFilterLevel
  pAr : Option ℕ
  apiId : BitVec 32
  slotNbr : BitVec 16
  subslotNbr : BitVec 16

/-- The filter by diagnosis type in `pf_put_diag_list`. -/
def DiagFilterLevel.inserts (diagFilter : DiagFilterLevel) (item : DiagItem) : Bool :=
  match diagFilter with
  | .PF_DIAG_FILTER_FAULT_STD => PF_USI_CHANNEL_DIAGNOSIS ≤ item.usi
  | .PF_DIAG_FILTER_FAULT_ALL =>
    item.usi < PF_USI_CHANNEL_DIAGNOSIS ∨
      item.std.chProperties.maint = .PNET_DIAG_CH_PROP_MAINT_FAULT
  | .PF_DIAG_FILTER_ALL => true
  | .PF_DIAG_FILTER_M_REQ =>
    item.usi < PF_USI_CHANNEL_DIAGNOSIS ∨
      item.std.chProperties.maint = .PNET_DIAG_CH_PROP_MAINT_REQUIRED
  | .PF_DIAG_FILTER_M_DEM =>
    item.usi < PF_USI_CHANNEL_DIAGNOSIS ∨
      item.std.chProperties.maint = .PNET_DIAG_CH_PROP_MAINT_DEMANDED

/-! ## Channel properties as a number -/

def DiagMaint.value : DiagMaint → BitVec 16
  | .PNET_DIAG_CH_PROP_MAINT_FAULT => 0
  | .PNET_DIAG_CH_PROP_MAINT_REQUIRED => 1
  | .PNET_DIAG_CH_PROP_MAINT_DEMANDED => 2
  | .PNET_DIAG_CH_PROP_MAINT_QUALIFIED => 3

def DiagSpec.value : DiagSpec → BitVec 16
  | .PF_DIAG_CH_PROP_SPEC_ALL_DISAPPEARS => 0
  | .PF_DIAG_CH_PROP_SPEC_APPEARS => 1
  | .PF_DIAG_CH_PROP_SPEC_DISAPPEARS => 2
  | .PF_DIAG_CH_PROP_SPEC_DIS_OTHERS_REMAIN => 3

def DiagDir.value : DiagDir → BitVec 16
  | .PNET_DIAG_CH_PROP_DIR_MANUF_SPEC => 0
  | .PNET_DIAG_CH_PROP_DIR_INPUT => 1
  | .PNET_DIAG_CH_PROP_DIR_OUTPUT => 2
  | .PNET_DIAG_CH_PROP_DIR_INOUT => 3

def ChProperties.bits (x : ChProperties) : BitVec 16 :=
  x.type.setWidth 16 ||| (BitVec.ofBool x.acc).setWidth 16 <<< 8 ||| x.maint.value <<< 9 |||
    x.spec.value <<< 11 ||| x.dir.value <<< 13

/-! ## The USIs of a list -/

def UINT16_MAX : BitVec 16 := 0xFFFF

theorem toNat_injective : Function.Injective (BitVec.toNat : BitVec 16 → ℕ) := fun _ _ h =>
  BitVec.eq_of_toNat_eq h

/-! ## Putting -/

def PF_BT_DIAGNOSIS_DATA : BitVec 16 := 0x0010
def PNET_BLOCK_VERSION_LOW_1 : Byte := 1

/-- `pf_put_diag_item`. -/
def putDiagItem (e : Bool) (item : DiagItem) (insertUsi : Bool) (resLen : ℕ) (w : Writer) :
    Writer :=
  let std := item.std
  let w := if insertUsi then putUint16 e item.usi resLen w else w
  let channel := putUint16 e std.chErrorType resLen
    (putUint16 e std.chProperties.bits resLen (putUint16 e std.chNbr resLen w))
  let ext := putUint32 e std.extChAddValue resLen (putUint16 e std.extChErrorType resLen channel)
  if item.usi = PF_USI_CHANNEL_DIAGNOSIS then channel
  else if item.usi = PF_USI_EXTENDED_CHANNEL_DIAGNOSIS then ext
  else if item.usi = PF_USI_QUALIFIED_CHANNEL_DIAGNOSIS then
    putUint32 e std.qualChQualifier resLen ext
  else putMem item.manufData resLen w

/-- What `pf_put_diag_list` puts before the first item; the summary channel appears. -/
def putDiagHeader (e : Bool) (usiFilter apiId slotNbr subslotNbr : BitVec 16) (resLen : ℕ)
    (w : Writer) : Writer :=
  let w := putBlockHeader e PF_BT_DIAGNOSIS_DATA 0 PNET_BLOCK_VERSION_HIGH
    PNET_BLOCK_VERSION_LOW_1 resLen w
  let w := putUint32 e (apiId.setWidth 32) resLen w
  let w := putUint16 e slotNbr resLen w
  let w := putUint16 e subslotNbr resLen w
  let w := putUint16 e PNET_CHANNEL_WHOLE_SUBMODULE resLen w
  let w := putUint16 e (DiagSpec.PF_DIAG_CH_PROP_SPEC_APPEARS.value <<< 11) resLen w
  putUint16 e usiFilter resLen w

/-- `pf_put_diag_list`, for the list with these items. -/
def putDiagList (e : Bool) (diagFilter : DiagFilterLevel)
    (usiFilter apiId slotNbr subslotNbr : BitVec 16) (items : List DiagItem) (resLen : ℕ)
    (w : Writer) : Writer :=
  if items = [] then w
  else
    let head := putDiagHeader e usiFilter apiId slotNbr subslotNbr resLen w
    let body := items.foldl (fun w item =>
      if diagFilter.inserts item ∧ item.usi = usiFilter then putDiagItem e item false resLen w
      else w) head
    if head.pos < body.pos then
      -- the block length goes into the header
      ⟨(putUint16 e (BitVec.ofNat 16 body.pos - BitVec.ofNat 16 (w.pos + 4)) resLen
        ⟨body.bytes, w.pos + 2⟩).bytes, body.pos⟩
    else ⟨body.bytes, w.pos⟩

namespace Device

variable (d : Device) (e : Bool) (r : DiagRead) (resLen : ℕ)

/-- `pf_put_diag_subslot`, whose API number has 16 bits. The loop finds its next USI by
`pf_cmdev_get_next_diagnosis_usi`, which is `Ascending.next`. -/
def putDiagSubslot (apiId slotNbr : BitVec 16) (q : SubslotPos) (w : Writer) : Option Writer :=
  (d.diagItemsOf q).map fun items =>
    Ascending.loop BitVec.toNat UINT16_MAX (items.map DiagItem.usi) toNat_injective
      (fun usi w => putDiagList e r.diagFilter usi apiId slotNbr (d.subslots q).subslotNbr items
        resLen w) 0 w

/-- `pf_put_diag_slot`. -/
def putDiagSlot (apiId : BitVec 32) (q : SlotPos) (w : Writer) : Option Writer :=
  (List.range PNET_MAX_SUBSLOTS).foldlM (fun w i =>
    let subslot := d.subslots (q.1, q.2, i)
    if subslot.inUse then
      if r.pAr = none ∨ r.pAr = subslot.pAr then
        if DevFilterLevel.PF_DEV_FILTER_LEVEL_SUBSLOT.value ≤ r.filterLevel.value then
          if subslot.subslotNbr = r.subslotNbr then
            putDiagSubslot d e r resLen (apiId.setWidth 16) (d.slots q).slotNbr (q.1, q.2, i) w
          else some w
        else putDiagSubslot d e r resLen (apiId.setWidth 16) (d.slots q).slotNbr (q.1, q.2, i) w
      else some w
    else some w) w

/-- `pf_put_diag_api`. -/
def putDiagApi (a : ℕ) (w : Writer) : Option Writer :=
  (List.range PNET_MAX_SLOTS).foldlM (fun w s =>
    let slot := d.slots (a, s)
    if slot.inUse then
      if r.pAr = none ∨ r.pAr = slot.pAr then
        if DevFilterLevel.PF_DEV_FILTER_LEVEL_SLOT.value ≤ r.filterLevel.value then
          if slot.slotNbr = r.slotNbr then putDiagSlot d e r resLen (d.apis a).apiId (a, s) w
          else some w
        else putDiagSlot d e r resLen (d.apis a).apiId (a, s) w
      else some w
    else some w) w

/-- `pf_put_diag_device` and `pf_put_diag_data`. -/
def putDiagData (w : Writer) : Option Writer :=
  (List.range PNET_MAX_API).foldlM (fun w a =>
    let api := d.apis a
    if api.inUse then
      if r.pAr = none ∨ r.pAr = api.pAr then
        if DevFilterLevel.PF_DEV_FILTER_LEVEL_API.value ≤ r.filterLevel.value then
          if api.apiId = r.apiId then putDiagApi d e r resLen a w else some w
        else putDiagApi d e r resLen a w
      else some w
    else some w) w

end Device

end PNet.Cmdev
