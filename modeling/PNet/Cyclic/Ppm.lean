import PNet.Connect.Param
import PNet.Cyclic.Cpm
import PNet.Options

/-! # Sending cyclic data

The producer machine `pf_ppm.c` with its default driver `pf_ppm_driver_sw.c`. The application
writes to `bufferData`; each time a frame is due it is copied to the send buffer, and the
cycle counter and the status go behind it.

A buffer has `PF_FRAME_BUFFER_SIZE` bytes. `inBounds` tells whether every access so far has
been inside of a live buffer; it is no field of the source.
-/

namespace PNet.Cyclic

open Connect Block

/-! ## Data -/

inductive PpmState where
  | PF_PPM_STATE_W_START
  | PF_PPM_STATE_RUN
deriving DecidableEq, Repr

/-- `pf_ppm_t`. -/
structure Ppm where
  state : PpmState
  /-- When the next frame is due, in us. -/
  nextExec : BitVec 32
  sa : Vector Byte 6
  da : Vector Byte 6
  firstTransmit : Bool
  sendBuffer : Option Frame
  cycle : BitVec 16
  transferStatus : Byte
  dataStatus : Byte
  bufferLength : BitVec 16
  bufferPos : BitVec 16
  cycleCounterOffset : BitVec 16
  dataStatusOffset : BitVec 16
  transferStatusOffset : BitVec 16
  bufferData : ℕ → Byte
  trxCnt : BitVec 32
  sendClockFactor : BitVec 16
  reductionRatio : BitVec 16
  /-- Time between two frames, in us. -/
  controlInterval : BitVec 32
  ciRunning : Bool
  inBounds : Bool

def PNET_DATA_STATUS_BIT_STATE : ℕ := 0
def PNET_DATA_STATUS_BIT_DATA_VALID : ℕ := 2
def PNET_DATA_STATUS_BIT_STATION_PROBLEM_INDICATOR : ℕ := 5

/-- `BIT`. -/
def bitMask (n : ℕ) : Byte := 1#8 <<< n

namespace Ppm

/-- The PPM of an AR that has just been allocated. -/
def cleared : Ppm where
  state := .PF_PPM_STATE_W_START
  nextExec := 0
  sa := Vector.replicate 6 0
  da := Vector.replicate 6 0
  firstTransmit := false
  sendBuffer := none
  cycle := 0
  transferStatus := 0
  dataStatus := 0
  bufferLength := 0
  bufferPos := 0
  cycleCounterOffset := 0
  dataStatusOffset := 0
  transferStatusOffset := 0
  bufferData := fun _ => 0
  trxCnt := 0
  sendClockFactor := 0
  reductionRatio := 0
  controlInterval := 0
  ciRunning := false
  inBounds := true

/-! ## The cycle counter -/

/-- `pf_ppm_calculate_next_cyclecounter`. -/
def calculateNextCyclecounter (previousCyclecounter sendClockFactor reductionRatio : BitVec 16) :
    BitVec 16 :=
  let interval := sendClockFactor.toNat * reductionRatio.toNat
  let numberOfPreviousTransmissions := BitVec.ofNat 16 (previousCyclecounter.toNat / interval)
  BitVec.ofNat 16 ((numberOfPreviousTransmissions.toNat + 1) * interval)

/-! ## The send buffer -/

/-- An access to the bytes of a buffer before `last`. -/
def access (x : Ppm) (last : ℕ) : Ppm :=
  { x with inBounds := x.inBounds && decide (last ≤ PF_FRAME_BUFFER_SIZE) }

/-- The bytes that `pf_ppm_init_buf` puts in front of the data. -/
def frameHeader (x : Ppm) (frameId : BitVec 16) (header : IocrTagHeader) : List Byte :=
  let vlan := (header.vlanId &&& 0x0FFF) ||| ((header.iocrUserPriority &&& 0x0007) <<< 13)
  x.da.toList ++ x.sa.toList ++ bytes16 true PNAL_ETHTYPE_VLAN ++ bytes16 true vlan ++
    bytes16 true PNAL_ETHTYPE_PROFINET ++ bytes16 true frameId

/-- `pf_ppm_init_buf`. -/
def initBuf (x : Ppm) (frameId : BitVec 16) (header : IocrTagHeader) : Ppm :=
  let payload := Buffer.write (fun _ => 0) 0 (x.frameHeader frameId header)
  { x.access x.bufferLength.toNat with sendBuffer := some ⟨payload, x.bufferLength⟩ }

/-- The send buffer after the data and what follows them have been copied to it. -/
def fillBuffer (x : Ppm) (f : Frame) (dataLength : ℕ) : Frame :=
  let payload := Buffer.write f.payload x.bufferPos.toNat (Buffer.slice x.bufferData 0 dataLength)
  let payload := Buffer.write payload x.cycleCounterOffset.toNat (bytes16 true x.cycle)
  let payload := Buffer.write payload x.dataStatusOffset.toNat [x.dataStatus]
  let payload := Buffer.write payload x.transferStatusOffset.toNat [x.transferStatus]
  { f with payload }

/-- `pf_ppm_finish_buffer`. -/
def finishBuffer (x : Ppm) (dataLength : BitVec 16) : Ppm :=
  let x := { x with
    cycle := calculateNextCyclecounter x.cycle x.sendClockFactor x.reductionRatio }
  match x.sendBuffer with
  | none => { x with inBounds := false }
  | some f =>
    let y := (((x.access (x.bufferPos.toNat + dataLength.toNat)).access
      (x.cycleCounterOffset.toNat + 2)).access (x.dataStatusOffset.toNat + 1)).access
      (x.transferStatusOffset.toNat + 1)
    { y with sendBuffer := some (x.fillBuffer f dataLength.toNat) }

/-! ## Requests -/

/-- `pf_ppm_init_cr_config`. -/
def initCrConfig (x : Ppm) (sa da : Vector Byte 6) (p : IocrParam) : Ppm :=
  let bufferPos := 2 * 6 + 4 + 2 + 2
  { x with
    firstTransmit := false
    sa
    da
    bufferPos
    cycle := 0
    transferStatus := 0
    cycleCounterOffset := bufferPos + p.cSduLength
    dataStatusOffset := bufferPos + p.cSduLength + 2
    transferStatusOffset := bufferPos + p.cSduLength + 2 + 1
    bufferLength := bufferPos + p.cSduLength + 2 + 1 + 1
    dataStatus := bitMask PNET_DATA_STATUS_BIT_STATE ||| bitMask PNET_DATA_STATUS_BIT_DATA_VALID |||
      bitMask PNET_DATA_STATUS_BIT_STATION_PROBLEM_INDICATOR
    controlInterval :=
      p.sendClockFactor.setWidth 32 * p.reductionRatio.setWidth 32 * 1000 / 32
    sendClockFactor := p.sendClockFactor
    reductionRatio := p.reductionRatio }

/-- `pf_ppm_create`; `allocated` tells whether there is memory for the send buffer. -/
def create (x : Ppm) (sa da : Vector Byte 6) (p : IocrParam) (allocated : Bool) : ℤ × Ppm :=
  match x.state with
  | .PF_PPM_STATE_RUN => (-1, x)
  | .PF_PPM_STATE_W_START =>
    let x := x.initCrConfig sa da p
    if allocated then (0, x.initBuf p.frameId p.iocrTagHeader)
    else (-1, { x with sendBuffer := none })

/-- `pf_ppm_activate_req`; `added` tells whether the scheduler takes the first timeout. -/
def activateReq (x : Ppm) (inLength : BitVec 16) (now : BitVec 32) (added : Bool) : ℤ × Ppm :=
  match x.state with
  | .PF_PPM_STATE_RUN => (-1, x)
  | .PF_PPM_STATE_W_START =>
    let x := { x with
      nextExec := now + x.controlInterval
      state := .PF_PPM_STATE_RUN
      ciRunning := true }
    (if added then 0 else -1, x.finishBuffer inLength)

/-- `pf_ppm_drv_sw_send`: the frame given to the Ethernet driver, and the delay given to the
scheduler. `sent` and `added` tell whether these succeed. -/
def drvSwSend (x : Ppm) (inLength : BitVec 16) (now : BitVec 32) (sent added : Bool) :
    Option Frame × Option (BitVec 32) × Ppm :=
  if x.ciRunning then
    let x := x.finishBuffer inLength
    if sent then
      let y := { x with nextExec := x.nextExec + x.controlInterval }
      (x.sendBuffer, some (y.nextExec - now),
        if added then { y with trxCnt := y.trxCnt + 1, firstTransmit := true } else y)
    else (x.sendBuffer, none, x)
  else (none, none, x)

/-- `pf_ppm_close_req`. -/
def closeReq (x : Ppm) : Ppm :=
  { x with
    ciRunning := false, sendBuffer := none, state := .PF_PPM_STATE_W_START, dataStatus := 0 }

/-! ## Settings of the application -/

/-- `pf_ppm_drv_sw_write_frame_buffer`. -/
def writeFrameBuffer (x : Ppm) (offset : ℕ) (data : List Byte) : Ppm :=
  { x.access (offset + data.length) with bufferData := Buffer.write x.bufferData offset data }

/-- `pf_ppm_drv_sw_write_data_and_iops`; without `data` only the IOPS is written. -/
def writeDataAndIops (x : Ppm) (d : IodataObject) (data : Option (List Byte))
    (iops : List Byte) : Ppm :=
  match data with
  | none => x.writeFrameBuffer d.iopsOffset iops
  | some data => (x.writeFrameBuffer d.dataOffset data).writeFrameBuffer d.iopsOffset iops

/-- `pf_ppm_drv_sw_write_iocs`. -/
def writeIocs (x : Ppm) (d : IodataObject) (iocs : List Byte) : Ppm :=
  x.writeFrameBuffer d.iocsOffset iocs

/-- `pf_ppm_set_data_status_state`, `.._redundancy` and `.._provider`, of the bit `bit`. -/
def setDataStatus (x : Ppm) (bit : ℕ) (on : Bool) : Ppm :=
  { x with dataStatus :=
      if on then x.dataStatus ||| bitMask bit else x.dataStatus &&& ~~~bitMask bit }

/-- What `pf_ppm_set_problem_indicator` does to a PPM: the bit is set when there is none. -/
def setProblemIndicator (x : Ppm) (problemIndicator : Bool) : Ppm :=
  x.setDataStatus PNET_DATA_STATUS_BIT_STATION_PROBLEM_INDICATOR !problemIndicator

end Ppm

end PNet.Cyclic
