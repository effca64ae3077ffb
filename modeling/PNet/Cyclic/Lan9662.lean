import PNet.Connect.Layout
import PNet.Cyclic.Ppm
import PNet.Rpc.Read

/-! # The hardware transmitter

The PPM driver `pf_ppm_driver_lan9662.c` with the part of `pf_lan9662_mera.c` under it. The frames
are sent by the real-time engine of the chip. It holds an image of the frame, and before it sends
the image it takes the data of each submodule from the SRAM, as a read action tells it.

All submodules are mapped to the SRAM. A read action list has one action, and its id is named here
by the RTE object it belongs to. What the library does with the SRAM is seen through that list: the
buffer that `mera_ib_ral_req` hands out is the one the list reads after `mera_ib_ral_rel`. The
library knows the lists it has been given, and no others.

A step is `none` where the program reads through a null pointer or fails an assertion.
-/

namespace PNet.Cyclic

open Connect Block

/-! ## Data -/

/-- Slot and index of the subslot. -/
abbrev RteIx := ℕ × ℕ

/-- `pf_rte_object_t`. -/
structure RteObject where
  iodata : Option IodataObject
  sramAddress : ℕ

def PF_SRAM_INVALID_ADDRESS : ℕ := 0
def PF_MERA_PPM_IODATA_OFFSET : ℕ := 6

/-- `pf_mera_frame_t`. -/
structure MeraFrame where
  active : Bool
  sramFrameAddress : ℕ
  rteObject : RteIx → RteObject

/-- What `mera_ib_ra_add` and `mera_ib_dg_add` have been given. -/
structure ReadAction where
  list : RteIx
  addr : ℕ
  length : ℕ
  pduOffset : ℕ

/-- The real-time engine. -/
structure Rte where
  /-- What `mera_ib_rtp_conf_set` and `mera_ib_rtp_data_set` have written. -/
  data : ℕ → Byte
  actions : List ReadAction
  /-- The SRAM that a list reads. -/
  sram : RteIx → ℕ → Byte

/-- A PDU offset counts from behind the MAC addresses and the first EtherType. -/
def MERA_PDU_START : ℕ := 14

/-- A read action copies its range of the SRAM to its PDU offset. -/
def ReadAction.copy (sram : RteIx → ℕ → Byte) (b : ℕ → Byte) (a : ReadAction) : ℕ → Byte :=
  Buffer.write b (MERA_PDU_START + a.pduOffset) (Buffer.slice (sram a.list) a.addr a.length)

/-- The frame that the engine sends. -/
def Rte.image (r : Rte) : ℕ → Byte := r.actions.foldl (ReadAction.copy r.sram) r.data

/-- A PPM with its frame in the driver. -/
structure Lan9662 where
  ppm : Ppm
  frame : Option MeraFrame
  rte : Rte

/-! ## The objects of a frame -/

/-- `get_subslot_index`. -/
def getSubslotIndex (subslot : BitVec 16) : Option ℕ :=
  let subslotIndex :=
    if subslot < Rpc.PNET_SUBSLOT_DAP_INTERFACE_1_IDENT then subslot - 1
    else subslot - Rpc.PNET_SUBSLOT_DAP_INTERFACE_1_IDENT + 1
  if subslotIndex.toNat < PNET_MAX_SUBSLOTS then some subslotIndex.toNat else none

/-- `get_rte_object`: the second assertion is about the subslot, and no one looks whether the slot
is one of the array. -/
def getRteObject (loc : Location) : Option RteIx :=
  (getSubslotIndex loc.subslotNbr).bind fun ix =>
    if loc.subslotNbr.toNat < PNET_MAX_SLOTS ∧ loc.slotNbr.toNat < PNET_MAX_SLOTS then
      some (loc.slotNbr.toNat, ix)
    else none

/-- The loop of `pf_mera_ppm_alloc` over the data descriptors. -/
def allocObjects (objects : RteIx → RteObject) : List IodataObject → Option (RteIx → RteObject)
  | [] => some objects
  | d :: ds =>
    if 0 < d.dataLength then
      (getRteObject d.location).bind fun ix =>
        allocObjects (Function.update objects ix { objects ix with iodata := some d }) ds
    else allocObjects objects ds

/-- The object as `pf_mera_ppm_config` leaves it. -/
def RteObject.config (sramFrameAddress : ℕ) (o : RteObject) : RteObject :=
  match o.iodata with
  | none => o
  | some d =>
    if 0 < d.dataLength ∧ o.sramAddress = PF_SRAM_INVALID_ADDRESS then
      { o with sramAddress :=
          (sramFrameAddress + PF_MERA_PPM_IODATA_OFFSET + d.dataOffset) % 2 ^ 16 }
    else o

/-- `pf_mera_add_ib_entry`. -/
def RteObject.readAction (ix : RteIx) (o : RteObject) : Option ReadAction :=
  match o.iodata with
  | none => none
  | some d =>
    if 0 < d.dataLength then
      some ⟨ix, o.sramAddress, d.dataLength, d.dataOffset + PF_MERA_PPM_IODATA_OFFSET⟩
    else none

/-- The objects in the order of the loops of `pf_mera_ppm_start_rte`. -/
def rteIxs : List RteIx := List.range PNET_MAX_SLOTS ×ˢ List.range PNET_MAX_SUBSLOTS

/-- What `pf_mera_ib_rtp_config` hands over of the send buffer. -/
def handedOver (f : Frame) : ℕ → Byte :=
  Buffer.write (fun _ => 0) 0 (Buffer.slice f.payload 0 f.len.toNat)

/-- `mera_ib_ral_req`, of the list of an object: an object without data has no list. -/
def meraIbRalReq (o : RteObject) : Bool :=
  match o.iodata with
  | none => false
  | some d => 0 < d.dataLength

namespace Lan9662

variable (x : Lan9662)

/-! ## Requests -/

/-- `pf_ppm_drv_lan9662_create` with `pf_mera_ppm_alloc`; `sramFrame` is what
`pf_sram_frame_alloc` returns. -/
def drvCreate (dataDesc : List IodataObject) (sramFrame : Option ℕ) : Option (ℤ × Lan9662) :=
  match sramFrame with
  | none => some (-1, { x with frame := none })
  | some address =>
    (allocObjects (fun _ => ⟨none, PF_SRAM_INVALID_ADDRESS⟩) dataDesc).map fun objects =>
      (0, { x with frame := some ⟨false, address, objects⟩ })

/-- `pf_ppm_create`. -/
def create (sa da : Vector Byte 6) (p : IocrParam) (dataDesc : List IodataObject)
    (allocated : Bool) (sramFrame : Option ℕ) : Option (ℤ × Lan9662) :=
  let (ret, ppm) := x.ppm.create sa da p allocated
  if ret = 0 then { x with ppm }.drvCreate dataDesc sramFrame else some (ret, { x with ppm })

/-- `pf_mera_ppm_start`, where the library and the scripts do as they are told. -/
def ppmStart (f : MeraFrame) (sent : Frame) : Lan9662 :=
  let rteObject := fun ix => (f.rteObject ix).config f.sramFrameAddress
  { x with
    frame := some { f with active := true, rteObject }
    rte := { x.rte with
      data := handedOver sent
      actions := rteIxs.filterMap fun ix => (rteObject ix).readAction ix } }

/-- `pf_ppm_activate_req` with `pf_ppm_drv_lan9662_activate_req`; `started` tells whether the engine
takes the frame. -/
def activateReq (inLength : BitVec 16) (now : BitVec 32) (started : Bool) :
    Option (ℤ × Lan9662) :=
  match x.ppm.state with
  | .PF_PPM_STATE_RUN => some (-1, x)
  | .PF_PPM_STATE_W_START =>
    let ppm := (x.ppm.activateReq inLength now true).2
    ppm.sendBuffer.map fun sent =>
      match x.frame with
      | none => (-1, { x with ppm })
      | some f =>
        if started then (0, { x with ppm }.ppmStart f sent) else (-1, { x with ppm })

/-! ## Settings of the application -/

/-- `pf_mera_ppm_write`, of an active frame. -/
def ppmWrite (offset : ℕ) (data : List Byte) : Lan9662 :=
  { x with rte := { x.rte with data := Buffer.write x.rte.data offset data } }

/-- `pf_mera_ppm_write_input`, of an active frame. -/
def ppmWriteInput (f : MeraFrame) (d : IodataObject) (data : List Byte) :
    Option (ℤ × Lan9662) :=
  (getRteObject d.location).map fun ix =>
    let o := f.rteObject ix
    if meraIbRalReq o then
      (0, { x with rte := { x.rte with
        sram := Function.update x.rte.sram ix
          (Buffer.write (x.rte.sram ix) o.sramAddress data) } })
    else (-1, x)

/-- `pf_mera_ppm_write_iops`, of an active frame. -/
def ppmWriteIops (d : IodataObject) (iops : List Byte) : Option (ℤ × Lan9662) :=
  if d.location.slotNbr = Rpc.PNET_SLOT_DAP_IDENT then some (-1, x)
  else (getRteObject d.location).map fun _ =>
    (0, x.ppmWrite (x.ppm.bufferPos.toNat + d.iopsOffset) iops)

/-- `pf_ppm_drv_lan9662_write_frame_buffer`. -/
def writeFrameBuffer (offset : ℕ) (data : List Byte) : Lan9662 :=
  { x with ppm := x.ppm.writeFrameBuffer offset data }

/-- What `pf_ppm_drv_lan9662_write_data_and_iops` does besides writing to the frame buffer. -/
def writeActive (f : MeraFrame) (d : IodataObject) (data : Option (List Byte))
    (iops : List Byte) : Option (ℤ × Lan9662) :=
  match data with
  | none => x.ppmWriteIops d iops
  | some data =>
    (x.ppmWriteInput f d data).bind fun r =>
      if r.1 = 0 then r.2.ppmWriteIops d iops else some r

/-- `pf_ppm_drv_lan9662_write_data_and_iops`. -/
def writeDataAndIops (d : IodataObject) (data : Option (List Byte)) (iops : List Byte) :
    Option (ℤ × Lan9662) :=
  let y := { x with ppm := x.ppm.writeDataAndIops d data iops }
  match x.frame with
  | none => none
  | some f => if f.active then y.writeActive f d data iops else some (0, y)

/-- `pf_ppm_drv_lan9662_write_iocs`. -/
def writeIocs (d : IodataObject) (iocs : List Byte) : Lan9662 := x.writeFrameBuffer d.iocsOffset iocs

/-- `pf_mera_ppm_write_data_status`. -/
def meraWriteDataStatus (dataStatus : Byte) : Lan9662 :=
  match x.frame with
  | none => x
  | some f => if f.active then x.ppmWrite x.ppm.dataStatusOffset.toNat [dataStatus] else x

/-- `pf_ppm_set_data_status_state` and its siblings with `pf_ppm_drv_lan9662_write_data_status`. -/
def setDataStatus (bit : ℕ) (on : Bool) : Lan9662 :=
  let y := { x with ppm := x.ppm.setDataStatus bit on }
  (y.writeFrameBuffer y.ppm.dataStatusOffset.toNat [y.ppm.dataStatus]).meraWriteDataStatus
    y.ppm.dataStatus

end Lan9662

end PNet.Cyclic
