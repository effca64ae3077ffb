import PNet.Block.Reader
import Mathlib.Logic.Function.Basic

/-! # Receiving cyclic data

The consumer machine `pf_cpm.c` with its default driver `pf_cpm_driver_sw.c`. An accepted
frame goes to `bufferCpm`; a reader swaps it with `bufferApp` when it is new. A CR is named
by its AR and its number in it.
-/

namespace PNet.Cyclic

/-! ## Data -/

inductive CpmState where
  | PF_CPM_STATE_W_START
  | PF_CPM_STATE_FRUN
  | PF_CPM_STATE_RUN
deriving DecidableEq, Repr

inductive IocrType where
  | PF_IOCR_TYPE_INPUT
  | PF_IOCR_TYPE_OUTPUT
  | PF_IOCR_TYPE_MC_PROVIDER
  | PF_IOCR_TYPE_MC_CONSUMER
deriving DecidableEq, Repr

/-- `pnal_buf_t`. -/
structure Frame where
  payload : ℕ → Byte
  len : BitVec 16

/-- A subslot. -/
structure Location where
  apiId : BitVec 32
  slotNbr : BitVec 16
  subslotNbr : BitVec 16
deriving DecidableEq, Repr

/-- `pf_iodata_object_t`. -/
structure IodataObject where
  inUse : Bool
  location : Location
  dataOffset : ℕ
  dataLength : ℕ
  iopsOffset : ℕ
  iopsLength : ℕ
  iocsOffset : ℕ
  iocsLength : ℕ
deriving DecidableEq, Repr

/-- `pf_cpm_t`. -/
structure Cpm where
  state : CpmState
  recvCnt : ℕ
  errcnt : ℕ
  /-- MAC address of the controller. -/
  sa : List Byte
  dataHoldFactor : ℕ
  bufferApp : Option Frame
  bufferCpm : Option Frame
  newBuf : Bool
  frameIdPos : BitVec 16
  dataStatus : Byte
  bufferLength : BitVec 16
  bufferPos : BitVec 16
  dht : ℕ
  /-- -1 means "never". -/
  cycle : ℤ
  ciRunning : Bool

/-- `pf_iocr_t`. -/
structure Iocr where
  iocrType : IocrType
  dataDesc : List IodataObject
  cpm : Cpm

/-- A CR, by its AR and its number. -/
abbrev Cr := ℕ × ℕ

/-- The ARs with their CRs, and the AR that owns a subslot. -/
structure Net where
  subslotAr : Location → Option ℕ
  nbrIocrs : ℕ → ℕ
  iocr : Cr → Iocr

namespace Cpm

/-- What `pf_cpm_activate_req` takes from the AR and the CR, and whether the driver could
start the control interval. -/
structure Activation where
  sa : List Byte
  dataHoldFactor : ℕ
  cSduLength : BitVec 16
  started : Bool

/-- `pf_cpm_activate_req`; where the driver fails, the caller gives up the AR. -/
def activateReq (x : Cpm) (a : Activation) : Cpm :=
  match x.state with
  | .PF_CPM_STATE_W_START =>
    let x := { x with
      dataHoldFactor := a.dataHoldFactor
      cycle := -1
      dht := 0
      recvCnt := 0
      sa := a.sa
      bufferPos := 2 * 6 + 2 + 2
      dataStatus := 0
      bufferLength := 2 * 6 + 2 + 2 + a.cSduLength + 2 + 1 + 1 }
    if a.started then { x with ciRunning := true, state := .PF_CPM_STATE_FRUN } else x
  | .PF_CPM_STATE_FRUN | .PF_CPM_STATE_RUN => x

/-! ## Frames -/

/-- `pf_cpm_check_cycle`, positive. -/
def checkCycle (prev : ℤ) (now : BitVec 16) : Bool :=
  let diff := (now - BitVec.ofInt 16 prev).toNat
  1 ≤ diff ∧ diff ≤ 61440

/-- `pf_cpm_check_src_addr`, positive. -/
def checkSrcAddr (x : Cpm) (f : Frame) : Bool := x.sa = Buffer.slice f.payload 6 6

/-- What `pf_cpm_c_data_ind` reads at the end of a frame. -/
structure Trailer where
  cycle : BitVec 16
  dataStatus : Byte
  transferStatus : Byte

def trailer (f : Frame) : Trailer :=
  let pos := (f.len - 4).toNat
  ⟨Block.join2 (f.payload pos) (f.payload (pos + 1)), f.payload (pos + 2), f.payload (pos + 3)⟩

def dataValid (f : Frame) : Bool := (trailer f).dataStatus &&& 0x04 ≠ 0

def primary (f : Frame) : Bool := (trailer f).dataStatus &&& 0x01 ≠ 0

def backup (f : Frame) : Bool := (trailer f).dataStatus &&& 0x01 = 0

def frameStructure (x : Cpm) (f : Frame) (frameIdPos : BitVec 16) : Bool :=
  (trailer f).transferStatus = 0 ∧ x.checkSrcAddr f ∧
    f.len - frameIdPos + BitVec.ofNat 16 (2 * 6 + 2) = x.bufferLength

def cSduStructure (x : Cpm) (f : Frame) : Bool := checkCycle x.cycle (trailer f).cycle

def dhtReload (x : Cpm) (f : Frame) (frameIdPos : BitVec 16) : Bool :=
  x.frameStructure f frameIdPos && x.cSduStructure f && (dataValid f || backup f)

def updateData (x : Cpm) (f : Frame) (frameIdPos : BitVec 16) : Bool :=
  x.frameStructure f frameIdPos && x.cSduStructure f && dataValid f && (primary f || backup f)

/-- `pf_cpm_put_buf`. -/
def putBuf (x : Cpm) (f : Frame) : Cpm := { x with bufferCpm := some f, newBuf := true }

/-- `pf_cpm_c_data_ind`. -/
def cDataInd (x : Cpm) (f : Frame) (frameIdPos : BitVec 16) : Cpm :=
  let x := { x with recvCnt := x.recvCnt + 1 }
  match x.state with
  | .PF_CPM_STATE_W_START => { x with errcnt := x.errcnt + 1 }
  | .PF_CPM_STATE_FRUN | .PF_CPM_STATE_RUN =>
    if dataValid f = false then x
    else if x.dhtReload f frameIdPos then
      let y :=
        if x.updateData f frameIdPos then
          { x.putBuf f with frameIdPos, bufferPos := frameIdPos + 2 }
        else x
      { y with
        dht := 0
        cycle := (trailer f).cycle.toNat
        dataStatus := (trailer f).dataStatus
        state := .PF_CPM_STATE_RUN }
    else x

/-- `pf_cpm_control_interval_expired`. -/
def controlIntervalExpired (x : Cpm) : Cpm :=
  if x.ciRunning then
    match x.state with
    | .PF_CPM_STATE_W_START | .PF_CPM_STATE_FRUN => x
    | .PF_CPM_STATE_RUN =>
      if x.dataHoldFactor ≤ x.dht then
        { x with dht := 0, ciRunning := false, state := .PF_CPM_STATE_W_START }
      else { x with dht := x.dht + 1 }
  else x

/-- `pf_cpm_close_req`. -/
def closeReq (x : Cpm) : Cpm := { x with state := .PF_CPM_STATE_W_START, ciRunning := false }

/-! ## Reading -/

/-- `pf_cpm_get_buf`: the new flag, and the latest frame if there is one. -/
def getBuf (x : Cpm) : Bool × Option Frame × Cpm :=
  if x.newBuf then
    let x := { x with bufferApp := x.bufferCpm, bufferCpm := x.bufferApp, newBuf := false }
    (true, x.bufferApp, x)
  else (false, x.bufferApp, x)

/-- What a reader gets. -/
structure GetResult where
  ret : ℤ
  newFlag : Bool
  data : List Byte
  status : List Byte

/-- The part of the frame at an offset of the profinet data. -/
def part (x : Cpm) (f : Frame) (offset length : ℕ) : List Byte :=
  Buffer.slice f.payload (x.bufferPos.toNat + offset) length

/-- `pf_cpm_driver_sw_get_data_and_iops`. -/
def driverGetDataAndIops (x : Cpm) (d : IodataObject) : GetResult × Cpm :=
  let (newFlag, buffer, x) := x.getBuf
  match buffer with
  | some f =>
    (⟨0, newFlag, x.part f d.dataOffset d.dataLength, x.part f d.iopsOffset d.iopsLength⟩, x)
  | none => (⟨-1, false, [], []⟩, x)

/-- `pf_cpm_driver_sw_get_iocs`. -/
def driverGetIocs (x : Cpm) (d : IodataObject) : GetResult × Cpm :=
  let (newFlag, buffer, x) := x.getBuf
  match buffer with
  | some f => (⟨0, newFlag, [], x.part f d.iocsOffset d.iocsLength⟩, x)
  | none => (⟨-1, newFlag, [], []⟩, x)

end Cpm

namespace Net

def setCpm (net : Net) (cr : Cr) (x : Cpm) : Net :=
  { net with iocr := Function.update net.iocr cr { net.iocr cr with cpm := x } }

/-- `pf_cpm_get_ar_iocr_desc`: the first CR of the AR that consumes data for the subslot. -/
def getArIocrDesc (net : Net) (loc : Location) : Option (Cr × IodataObject) :=
  match net.subslotAr loc with
  | none => none
  | some ar =>
    (List.range (net.nbrIocrs ar)).findSome? fun crep =>
      let io := net.iocr (ar, crep)
      if io.iocrType = .PF_IOCR_TYPE_OUTPUT ∨ io.iocrType = .PF_IOCR_TYPE_MC_CONSUMER then
        (io.dataDesc.find? fun d => d.inUse ∧ d.location = loc).map fun d => ((ar, crep), d)
      else none

/-- `pf_cpm_get_data_and_iops`; `newFlag` is what the flag of the caller holds before. -/
def getDataAndIops (net : Net) (loc : Location) (newFlag : Bool) (dataLen iopsLen : ℕ) :
    Cpm.GetResult × Net :=
  match net.getArIocrDesc loc with
  | none => (⟨-1, newFlag, [], []⟩, net)
  | some (cr, d) =>
    match (net.iocr cr).cpm.state with
    | .PF_CPM_STATE_W_START => (⟨-1, newFlag, [], []⟩, net)
    | .PF_CPM_STATE_FRUN | .PF_CPM_STATE_RUN =>
      if dataLen < d.dataLength ∨ iopsLen < d.iopsLength then (⟨-1, false, [], []⟩, net)
      else
        let (r, x) := (net.iocr cr).cpm.driverGetDataAndIops d
        (r, net.setCpm cr x)

/-- `pf_cpm_get_iocs`; the flag of the result is not passed on to the caller. -/
def getIocs (net : Net) (loc : Location) (iocsLen : ℕ) : Cpm.GetResult × Net :=
  match net.getArIocrDesc loc with
  | none => (⟨-1, false, [], []⟩, net)
  | some (cr, d) =>
    match (net.iocr cr).cpm.state with
    | .PF_CPM_STATE_W_START => (⟨-1, false, [], []⟩, net)
    | .PF_CPM_STATE_FRUN | .PF_CPM_STATE_RUN =>
      if iocsLen < d.iocsLength then (⟨-1, false, [], []⟩, net)
      else if d.iocsLength = 0 then (⟨-1, false, [], []⟩, net)
      else
        let (r, x) := (net.iocr cr).cpm.driverGetIocs d
        (r, net.setCpm cr x)

end Net

end PNet.Cyclic
