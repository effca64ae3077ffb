import PNet.Rpc.Ar
import PNet.Rpc.Request

/-! # Writing records

A write request, single or multiple, from its first header to the result blocks of the
response. `Performed` is one write of the request as it has been performed.
-/

namespace PNet.Rpc

open Block

/-! ## Data -/

def PF_IDX_USER_MAX : BitVec 16 := 0x7fff
def PF_IDX_SUB_PDPORT_DATA_CHECK : BitVec 16 := 0x802b
def PF_IDX_SUB_PDPORT_DATA_ADJ : BitVec 16 := 0x802f
def PF_IDX_SUB_PDINTF_ADJUST : BitVec 16 := 0x8071
def PF_IDX_SUB_IM_0 : BitVec 16 := 0xaff0
def PF_IDX_SUB_IM_15 : BitVec 16 := 0xafff
def PF_IDX_AR_WRITE_MULTIPLE : BitVec 16 := 0xe040

/-- `pf_iod_write_result_t`, less its padding. -/
structure WriteResult where
  sequenceNumber : BitVec 16
  arUuid : Uuid
  api : BitVec 32
  slotNumber : BitVec 16
  subslotNumber : BitVec 16
  index : BitVec 16
  recordDataLength : BitVec 32
  addData1 : BitVec 16
  addData2 : BitVec 16
  pnioStatus : PnioStatus
deriving DecidableEq, Repr

def clearedWriteResult : WriteResult := ⟨0, zeroUuid, 0, 0, 0, 0, 0, 0, 0, ⟨0, 0, 0, 0⟩⟩

/-- Who gets the data of a record. -/
inductive Receiver where
  /-- The callback of the application. -/
  | writeCb
  /-- The I&M part of FSPM. -/
  | im
  | pdport
deriving DecidableEq, Repr

/-- Data that are handed on: `length` bytes of the request from `pos` on. -/
structure Handed where
  receiver : Receiver
  ar : ℕ
  arep : BitVec 16
  sequenceNumber : BitVec 16
  api : BitVec 32
  slotNumber : BitVec 16
  subslotNumber : BitVec 16
  index : BitVec 16
  pos : ℕ
  length : ℕ
deriving DecidableEq, Repr

/-- What a write depends on besides the request and the ARs. -/
structure WriteEnv where
  /-- Whether the application has a callback for records. -/
  writeCb : Bool
  /-- What becomes of a record that is handed on, with its `p_write_status`. -/
  answer : Handed → PnetResult → ℤ × PnetResult
  /-- Whether `pf_cmdev_get_api` finds the API. -/
  apiKnown : BitVec 32 → Bool

/-- The outcome of a write, on its way up. -/
structure Written where
  ok : Bool
  result : WriteResult
  stat : PnetResult
  pos : ℕ
  handed : Option Handed
deriving DecidableEq, Repr

/-! ## One write -/

/-- `pf_cmrpc_rm_write_interpret_ind`: whether there is a block it knows, and what it has read
from the block. -/
def interpretWrite (dest : WriteRequest) (stat : PnetResult) (r : Reader) :
    Bool × Option WriteRequest × PnetResult × Reader :=
  if r.pos + blockHeaderSize ≤ r.info.len then
    let (header, r) := getBlockHeader r
    if blockFits header r then
      if header.blockType = PF_BT_IOD_WRITE_REQ_HEADER then
        let (request, r) := getWriteRequest dest r
        (true, some request, stat, r)
      -- nothing is read from this block
      else if header.blockType = PF_BT_INTERFACE_ADJUST then (true, none, stat, r)
      else
        (false, none, setError stat PNET_ERROR_CODE_WRITE PNET_ERROR_DECODE_PNIO
          PNET_ERROR_CODE_1_CONN_FAULTY_FAULTY_RECORD PNET_ERROR_CODE_2_CMRPC_UNKNOWN_BLOCKS, r)
    else (false, none, stat, r)
  else (false, none, stat, r)

/-- The data that a request hands on. -/
def handedOf (receiver : Receiver) (ar : ℕ) (arep : BitVec 16) (q : WriteRequest)
    (pos length : ℕ) : Handed where
  receiver
  ar
  arep
  sequenceNumber := q.sequenceNumber
  api := q.api
  slotNumber := q.slotNumber
  subslotNumber := q.subslotNumber
  index := q.index
  pos
  length

/-- `pf_cmwrr_write` and `pf_fspm_cm_write_ind`: who gets a record of this index. -/
def receiverOf (env : WriteEnv) (index : BitVec 16) : Option Receiver :=
  if index ≤ PF_IDX_USER_MAX then if env.writeCb then some .writeCb else none
  else if PF_IDX_SUB_IM_0 ≤ index ∧ index ≤ PF_IDX_SUB_IM_15 then some .im
  else if index = PF_IDX_SUB_PDPORT_DATA_CHECK ∨ index = PF_IDX_SUB_PDPORT_DATA_ADJ ∨
      index = PF_IDX_SUB_PDINTF_ADJUST then some .pdport
  else none

/-- `pf_cmwrr_write`. -/
def cmwrrWrite (env : WriteEnv) (ar : ℕ) (arep : BitVec 16) (q : WriteRequest)
    (result : WriteResult) (stat : PnetResult) (dataLength pos : ℕ) : Written :=
  let after := uint16 (pos + dataLength)
  match receiverOf env q.index with
  | some receiver =>
    let handed := handedOf receiver ar arep q pos dataLength
    let (ret, stat) := env.answer handed stat
    ⟨ret = 0, result, stat, after, some handed⟩
  | none =>
    -- the application has no callback
    let notSupported := { stat with
      pnioStatus := ⟨PNET_ERROR_CODE_WRITE, PNET_ERROR_DECODE_PNIORW,
        PNET_ERROR_CODE_1_APP_NOT_SUPPORTED, 0⟩ }
    ⟨false, result, if q.index ≤ PF_IDX_USER_MAX then notSupported else stat, after, none⟩

/-- The fields of a result that `pf_cmwrr_rm_write_ind` and the answer to a multiple write take
over from the request. -/
def takeOver (q : WriteRequest) (result : WriteResult) : WriteResult :=
  { result with
    sequenceNumber := q.sequenceNumber
    arUuid := q.arUuid
    api := q.api
    slotNumber := q.slotNumber
    subslotNumber := q.subslotNumber
    index := q.index
    recordDataLength := 0 }

def cmwrrError (stat : PnetResult) (code1 : Byte) : PnetResult :=
  { stat with
    pnioStatus := { stat.pnioStatus with
      errorCode := PNET_ERROR_CODE_PNIO
      errorDecode := PNET_ERROR_DECODE_PNIORW
      errorCode1 := code1 } }

/-- `pf_cmwrr_rm_write_ind`. The CMSM only restarts its timer. -/
def cmwrrRmWriteInd (net : Net) (env : WriteEnv) (ar : ℕ) (q : WriteRequest)
    (result : WriteResult) (stat : PnetResult) (dataLength pos : ℕ) : Written :=
  let x := net.ars ar
  let result := takeOver q result
  let written : Written := match x.cmwrrState with
    | .PF_CMWRR_STATE_IDLE | .PF_CMWRR_STATE_PRMEND =>
      ⟨false, result, cmwrrError stat PNET_ERROR_CODE_1_ACC_STATE_CONFLICT, pos, none⟩
    | .PF_CMWRR_STATE_STARTUP | .PF_CMWRR_STATE_DATA =>
      if x.arState = .PF_AR_STATE_BACKUP then
        ⟨false, result, cmwrrError stat PNET_ERROR_CODE_1_ACC_BACKUP, pos, none⟩
      else cmwrrWrite env ar x.arep q result stat dataLength pos
  { written with
    result := { written.result with
      addData1 := written.stat.addData1, addData2 := written.stat.addData2 } }

def writeError (stat : PnetResult) (code2 : Byte) : PnetResult :=
  setError stat PNET_ERROR_CODE_WRITE PNET_ERROR_DECODE_PNIORW
    PNET_ERROR_CODE_1_ACC_INVALID_AREA_API code2

/-- The answer of CMWRR, with an error when it has failed without one. -/
def withError (w : Written) : Written :=
  if w.ok then w
  else
    { w with
      stat := setErrorIfNotAlreadySet w.stat PNET_ERROR_CODE_WRITE PNET_ERROR_DECODE_PNIORW
        PNET_ERROR_CODE_1_ACC_INVALID_AREA_API 2 }

/-- `pf_cmrpc_perform_one_write` less the status in the result; answers `kill_session` and the
parser, too. -/
def performWrite (net : Net) (env : WriteEnv) (q : WriteRequest) (result : WriteResult)
    (stat : PnetResult) (r : Reader) : Written × Bool × GetInfo :=
  match net.arFindByUuid q.arUuid with
  | none =>
    (⟨false, result, setError stat PNET_ERROR_CODE_WRITE PNET_ERROR_DECODE_PNIO
      PNET_ERROR_CODE_1_CMRPC PNET_ERROR_CODE_2_CMRPC_AR_UUID_UNKNOWN, r.pos, none⟩, true, r.info)
  | some ar =>
    if q.api ≠ 0 ∧ env.apiKnown q.api = false then
      (⟨false, result, writeError stat 1, r.pos, none⟩, false, r.info)
    -- the sum is one of `uint32_t`
    else if (BitVec.ofNat 32 r.pos + q.recordDataLength).toNat ≤ r.info.len then
      if q.index ≤ PF_IDX_USER_MAX then
        (withError (cmwrrRmWriteInd net env ar q result stat
          (q.recordDataLength.setWidth 16).toNat r.pos), false, r.info)
      else
        let (_, r) := getBlockHeader r
        (withError (cmwrrRmWriteInd net env ar q result stat
          (q.recordDataLength.setWidth 16 - BitVec.ofNat 16 blockHeaderSize).toNat r.pos), false,
          r.info)
    else (⟨false, result, writeError stat 4, r.pos, none⟩, false, r.info)

/-- `pf_cmrpc_perform_one_write`. -/
def performOneWrite (net : Net) (env : WriteEnv) (q : WriteRequest) (result : WriteResult)
    (stat : PnetResult) (r : Reader) : Written × Bool × Reader :=
  let (w, kill, info) := performWrite net env q result stat r
  let result := if w.ok then w.result else { w.result with pnioStatus := w.stat.pnioStatus }
  ({ w with result }, kill, ⟨info, w.pos⟩)

/-! ## The response -/

def PF_BT_WRITE_RES : BitVec 16 := 0x8008
def PNET_BLOCK_VERSION_HIGH : Byte := 1
def PNET_BLOCK_VERSION_LOW : Byte := 0

def putBlockHeader (e : Bool) (bhType bhLength : BitVec 16) (verHigh verLow : Byte)
    (resLen : ℕ) (w : Writer) : Writer :=
  let w := putUint16 e bhType resLen w
  let w := putUint16 e (bhLength + BitVec.ofNat 16 blockHeaderSize - 4) resLen w
  let w := putByte verHigh resLen w
  putByte verLow resLen w

def putPnetStatus (e : Bool) (st : PnioStatus) (resLen : ℕ) (w : Writer) : Writer :=
  putUint32 e (join4 st.errorCode st.errorDecode st.errorCode1 st.errorCode2) resLen w

def putPadding : ℕ → ℕ → Writer → Writer
  | 0, _, w => w
  | n + 1, resLen, w => putPadding n resLen (putByte 0 resLen w)

/-- `pf_put_write_result` up to the length of the block. -/
def putWriteFields (e : Bool) (res : WriteResult) (resLen : ℕ) (w : Writer) : Writer :=
  let w := putBlockHeader e PF_BT_WRITE_RES 0 PNET_BLOCK_VERSION_HIGH PNET_BLOCK_VERSION_LOW
    resLen w
  let w := putUint16 e res.sequenceNumber resLen w
  let w := putUuid e res.arUuid resLen w
  let w := putUint32 e res.api resLen w
  let w := putUint16 e res.slotNumber resLen w
  let w := putUint16 e res.subslotNumber resLen w
  let w := putByte 0 resLen w
  let w := putByte 0 resLen w
  let w := putUint16 e res.index resLen w
  let w := putUint32 e res.recordDataLength resLen w
  let w := putUint16 e res.addData1 resLen w
  let w := putUint16 e res.addData2 resLen w
  let w := putPnetStatus e res.pnioStatus resLen w
  putPadding 16 resLen w

/-- `pf_put_write_result`. -/
def putWriteResult (e : Bool) (res : WriteResult) (resLen : ℕ) (w : Writer) : Writer :=
  let fields := putWriteFields e res resLen w
  let blockLen := BitVec.ofNat 16 fields.pos - BitVec.ofNat 16 (w.pos + 4)
  ⟨(putUint16 e blockLen resLen ⟨fields.bytes, w.pos + 2⟩).bytes, fields.pos⟩

/-- The NDR header of a response. -/
def putNdr (e : Bool) (ndr : NdrData) (resLen : ℕ) (w : Writer) : Writer :=
  putUint32 e ndr.actualCount resLen (putUint32 e ndr.offset resLen
    (putUint32 e ndr.maximumCount resLen (putUint32 e ndr.argsLength resLen w)))

/-! ## The request -/

/-- A write of the request, as it has been performed. -/
structure Performed where
  /-- The parser in front of the block. -/
  start : Reader
  /-- What the write has been performed with. -/
  request : WriteRequest
  /-- The parser behind the block. -/
  reader : Reader
  /-- The result block of the write before. -/
  before : WriteResult
  written : Written

/-- What the loop of a multiple write works on. -/
structure MultiState where
  request : WriteRequest
  result : WriteResult
  reader : Reader
  killSession : Bool
  ret : Bool
  response : Writer

/-- "Align on 32-bits". -/
def alignPos (pos : ℕ) : ℕ := uint16 ((pos + 3) / 4 * 4)

/-- The write that the parser behind the block `r` is at, as a turn of the loop. -/
def oneOfMany (net : Net) (env : WriteEnv) (resLen : ℕ) (st : MultiState) (q : WriteRequest)
    (r : Reader) : Performed × MultiState :=
  let (w, kill, r') := performOneWrite net env q st.result noError r
  (⟨st.reader, q, r, st.result, w⟩,
    { request := q
      result := w.result
      reader := { r' with pos := alignPos r'.pos }
      killSession := st.killSession || kill
      ret := w.ok
      response := putWriteResult r'.info.isBigEndian w.result resLen st.response })

/-- "Do each write, and store the corresponding response blocks"; the flag tells that the loop
has come to its end. -/
def multiWrites (net : Net) (env : WriteEnv) (resLen : ℕ) :
    ℕ → MultiState → List Performed × MultiState × Bool
  | 0, st => ([], st, false)
  | fuel + 1, st =>
    if st.reader.pos + 58 < st.reader.info.len ∧
        st.result.pnioStatus.errorCode = PNET_ERROR_CODE_NOERROR then
      let (ok, own, _, r) := interpretWrite st.request noError st.reader
      if ok then
        let (w, st) := oneOfMany net env resLen st (own.getD st.request) r
        let (ws, st, returned) := multiWrites net env resLen fuel st
        (w :: ws, st, returned)
      else ([], { st with reader := r }, true)
    else ([], st, true)

/-- What a request has led to. -/
structure WriteOutcome where
  performed : List Performed
  /-- The loop has come to its end. -/
  returned : Bool
  ok : Bool
  rpcResult : PnetResult
  killSession : Bool
  reader : Reader
  /-- Where the result blocks begin in the response. -/
  resStart : ℕ
  response : Writer

/-- The checks of `pf_cmrpc_rm_write_ind` behind the writes. -/
def checkConsumed (argsLength : BitVec 32) (start : ℕ) (r : Reader) (stat : PnetResult) :
    Bool × PnetResult :=
  let wrongLength := setError stat PNET_ERROR_CODE_WRITE PNET_ERROR_DECODE_PNIO
    PNET_ERROR_CODE_1_CMRPC PNET_ERROR_CODE_2_CMRPC_ARGSLENGTH_INVALID
  if r.info.result = .PF_PARSE_OK then
    if BitVec.ofInt 32 ((r.pos : ℤ) - start) ≠ argsLength then (false, wrongLength)
    else (true, stat)
  else (false, wrongLength)

/-- "Fixup the NDR header", and the status in front of it. -/
def fixupWrite (e : Bool) (ndr : NdrData) (stat : PnetResult) (statusPos hdrPos resStart : ℕ)
    (resLen : ℕ) (w : Writer) : Writer :=
  let argsLength := BitVec.ofInt 32 ((w.pos : ℤ) - resStart)
  let fixed := putNdr e { ndr with argsLength, actualCount := argsLength } resLen ⟨w.bytes, hdrPos⟩
  ⟨(putPnetStatus e stat.pnioStatus resLen ⟨fixed.bytes, statusPos⟩).bytes, w.pos⟩

/-- `pf_cmrpc_rm_write_ind`: the parser `start` is at the first block, and the response goes behind
`w`. The loop gets `fuel` turns. -/
def rmWriteInd (net : Net) (env : WriteEnv) (fuel : ℕ) (ndr : NdrData) (stat : PnetResult)
    (start : Reader) (resLen : ℕ) (w : Writer) : WriteOutcome :=
  let (ok, own, stat, r) := interpretWrite clearedWriteRequest stat start
  let e := r.info.isBigEndian
  let q := own.getD clearedWriteRequest
  let statusPos := w.pos
  let w := putPnetStatus e stat.pnioStatus resLen w
  let hdrPos := w.pos
  let w := putNdr e ndr resLen w
  let resStart := w.pos
  let result := { takeOver q clearedWriteResult with pnioStatus := stat.pnioStatus }
  let finish (performed : List Performed) (returned ok : Bool) (stat : PnetResult) (kill : Bool)
      (r : Reader) (w : Writer) : WriteOutcome :=
    let (ok, stat) := if ok then checkConsumed ndr.argsLength start.pos r stat else (false, stat)
    ⟨performed, returned, ok, stat, kill, r, resStart,
      fixupWrite r.info.isBigEndian ndr stat statusPos hdrPos resStart resLen w⟩
  if r.info.result = .PF_PARSE_OK then
    if ok = false then finish [] true false stat false r w
    else if q.index = PF_IDX_AR_WRITE_MULTIPLE then
      let (ws, st, returned) := multiWrites net env resLen fuel
        ⟨clearedWriteRequest, clearedWriteResult, r, false, true,
          putWriteResult e result resLen w⟩
      finish ws returned (st.ret && st.reader.pos = st.reader.info.len) stat st.killSession
        st.reader st.response
    else
      let (written, kill, r') := performOneWrite net env q result stat r
      finish [⟨start, q, r, result, written⟩] true written.ok written.stat kill r'
        (putWriteResult r'.info.isBigEndian written.result resLen w)
  else ⟨[], true, ok, stat, false, r, resStart, w⟩

/-! ## What a write does -/

/-- The AR whose CMWRR gets the write. -/
def reachedAr (net : Net) (env : WriteEnv) (q : WriteRequest) (r : Reader) : Option ℕ :=
  if (q.api ≠ 0 ∧ env.apiKnown q.api = false) ∨
      r.info.len < (BitVec.ofNat 32 r.pos + q.recordDataLength).toNat then none
  else net.arFindByUuid q.arUuid

def takesRecords (x : Ar) : Bool :=
  (x.cmwrrState = .PF_CMWRR_STATE_STARTUP ∨ x.cmwrrState = .PF_CMWRR_STATE_DATA) ∧
    x.arState ≠ .PF_AR_STATE_BACKUP

/-- Where CMWRR takes the data from. -/
def dataPos (q : WriteRequest) (r : Reader) : ℕ :=
  if q.index ≤ PF_IDX_USER_MAX then r.pos else (getBlockHeader r).2.pos

/-- How much of them, a `uint16_t`. -/
def dataLength (q : WriteRequest) : ℕ :=
  if q.index ≤ PF_IDX_USER_MAX then (q.recordDataLength.setWidth 16).toNat
  else (q.recordDataLength.setWidth 16 - BitVec.ofNat 16 blockHeaderSize).toNat

/-- What a write hands on. -/
def handsOn (net : Net) (env : WriteEnv) (q : WriteRequest) (r : Reader) : Option Handed :=
  (reachedAr net env q r).bind fun ar =>
    if takesRecords (net.ars ar) then
      (receiverOf env q.index).map fun receiver =>
        handedOf receiver ar (net.ars ar).arep q (dataPos q r) (dataLength q)
    else none

/-- The write is taken by who gets the data. -/
def accepts (net : Net) (env : WriteEnv) (q : WriteRequest) (stat : PnetResult) (r : Reader) :
    Bool :=
  (handsOn net env q r).any fun handed => (env.answer handed stat).1 = 0

/-- The result block is about the write. -/
def Names (q : WriteRequest) (b : WriteResult) : Prop :=
  b.sequenceNumber = q.sequenceNumber ∧ b.arUuid = q.arUuid ∧ b.api = q.api ∧
    b.slotNumber = q.slotNumber ∧ b.subslotNumber = q.subslotNumber ∧ b.index = q.index

variable {net : Net} {env : WriteEnv} {q : WriteRequest} {result : WriteResult}
  {stat : PnetResult} {r : Reader}

theorem cmwrrWrite_spec (ar len pos : ℕ) (arep : BitVec 16) :
    let handed := (receiverOf env q.index).map fun receiver => handedOf receiver ar arep q pos len
    let w := cmwrrWrite env ar arep q result stat len pos
    w.handed = handed ∧ (w.ok = handed.any fun h => (env.answer h stat).1 = 0) ∧
      w.result = result ∧ w.pos = uint16 (pos + len) := by
  unfold cmwrrWrite
  cases receiverOf env q.index with
  | none => exact ⟨rfl, rfl, rfl, rfl⟩
  | some receiver => exact ⟨rfl, rfl, rfl, rfl⟩

/-- CMWRR hands a record on in the states that allow it, and names the write in its result. -/
theorem cmwrrRmWriteInd_spec (ar len pos : ℕ) :
    let handed := if takesRecords (net.ars ar) then
        (receiverOf env q.index).map fun receiver =>
          handedOf receiver ar (net.ars ar).arep q pos len
      else none
    let w := cmwrrRmWriteInd net env ar q result stat len pos
    w.handed = handed ∧ (w.ok = handed.any fun h => (env.answer h stat).1 = 0) ∧
      Names q w.result ∧ w.result.pnioStatus = result.pnioStatus ∧
      (w.ok = true → w.pos = uint16 (pos + len)) := by
  have hwrite := @cmwrrWrite_spec env q (takeOver q result) stat ar len pos (net.ars ar).arep
  have hnames : ∀ (x : WriteResult) (a b : BitVec 16), x = takeOver q result →
      Names q { x with addData1 := a, addData2 := b } ∧ x.pnioStatus = result.pnioStatus := by
    intro x a b hx
    subst hx
    exact ⟨⟨rfl, rfl, rfl, rfl, rfl, rfl⟩, rfl⟩
  unfold cmwrrRmWriteInd
  generalize net.ars ar = x at hwrite ⊢
  dsimp only at hwrite ⊢
  have hstate : x.cmwrrState = .PF_CMWRR_STATE_IDLE ∨ x.cmwrrState = .PF_CMWRR_STATE_PRMEND ∨
      x.cmwrrState = .PF_CMWRR_STATE_STARTUP ∨ x.cmwrrState = .PF_CMWRR_STATE_DATA := by
    cases x.cmwrrState <;> simp
  rcases hstate with h | h | h | h
  -- the states in which nothing may be written
  · have htakes : takesRecords x = false := by simp [takesRecords, h]
    rw [h, htakes]
    exact ⟨rfl, rfl, (hnames _ _ _ rfl).1, rfl, fun hok => by cases hok⟩
  · have htakes : takesRecords x = false := by simp [takesRecords, h]
    rw [h, htakes]
    exact ⟨rfl, rfl, (hnames _ _ _ rfl).1, rfl, fun hok => by cases hok⟩
  all_goals
    rw [h]
    dsimp only
    by_cases hbackup : x.arState = .PF_AR_STATE_BACKUP
    · have htakes : takesRecords x = false := by simp [takesRecords, hbackup]
      rw [if_pos hbackup, htakes]
      exact ⟨rfl, rfl, (hnames _ _ _ rfl).1, rfl, fun hok => by cases hok⟩
    · have htakes : takesRecords x = true := by simp [takesRecords, h, hbackup]
      rw [if_neg hbackup, htakes]
      exact ⟨hwrite.1, hwrite.2.1, (hnames _ _ _ hwrite.2.2.1).1, (hnames _ 0 0 hwrite.2.2.1).2,
        fun _ => hwrite.2.2.2⟩

theorem withError_spec (w : Written) :
    (withError w).handed = w.handed ∧ (withError w).ok = w.ok ∧ (withError w).result = w.result ∧
      (withError w).pos = w.pos := by
  unfold withError
  split <;> exact ⟨rfl, rfl, rfl, rfl⟩

/-- A write that does not get as far as CMWRR leaves the result block of the write before. -/
theorem performWrite_of_not_reached (h : reachedAr net env q r = none) :
    ∃ stat' kill, performWrite net env q result stat r =
      (⟨false, result, stat', r.pos, none⟩, kill, r.info) := by
  unfold performWrite
  cases hfind : net.arFindByUuid q.arUuid with
  | none => exact ⟨_, _, rfl⟩
  | some ar =>
    dsimp only
    by_cases hapi : q.api ≠ 0 ∧ env.apiKnown q.api = false
    · rw [if_pos hapi]
      exact ⟨_, _, rfl⟩
    · rw [if_neg hapi]
      have hlen : ¬ (BitVec.ofNat 32 r.pos + q.recordDataLength).toNat ≤ r.info.len := by
        intro hle
        rw [reachedAr, if_neg (by rw [not_or]; exact ⟨hapi, by omega⟩), hfind] at h
        cases h
      rw [if_neg hlen]
      exact ⟨_, _, rfl⟩

theorem performWrite_of_reached {ar : ℕ} (h : reachedAr net env q r = some ar) :
    performWrite net env q result stat r =
      (withError (cmwrrRmWriteInd net env ar q result stat (dataLength q) (dataPos q r)), false,
        if q.index ≤ PF_IDX_USER_MAX then r.info else (getBlockHeader r).2.info) := by
  unfold reachedAr at h
  split at h
  · cases h
  · rename_i hno
    rw [not_or, not_lt] at hno
    unfold performWrite dataLength dataPos
    rw [h]
    dsimp only
    rw [if_neg hno.1, if_pos hno.2]
    split <;> rfl

/-- A write hands on what `handsOn` tells, and is done when that is accepted. -/
theorem performOneWrite_spec :
    let w := (performOneWrite net env q result stat r).1
    w.handed = handsOn net env q r ∧ w.ok = accepts net env q stat r := by
  unfold performOneWrite accepts handsOn
  cases hreach : reachedAr net env q r with
  | none =>
    rcases @performWrite_of_not_reached net env q result stat r hreach with ⟨stat', kill, h⟩
    rw [h]
    exact ⟨rfl, rfl⟩
  | some ar =>
    rw [performWrite_of_reached hreach]
    have herr := withError_spec
      (cmwrrRmWriteInd net env ar q result stat (dataLength q) (dataPos q r))
    have hspec := @cmwrrRmWriteInd_spec net env q result stat ar (dataLength q) (dataPos q r)
    exact ⟨herr.1.trans hspec.1, herr.2.1.trans hspec.2.1⟩

/-! ## The headers of a request -/

/-- The header that is at `r`, as a whole. -/
def ownHeader (r : Reader) : Option WriteRequest :=
  if r.pos + (blockHeaderSize + writeRequestSize) ≤ r.info.len then
    (interpretWrite clearedWriteRequest noError r).2.1
  else none

theorem interpretWrite_info (dest : WriteRequest) (stat : PnetResult) (r : Reader) :
    (interpretWrite dest stat r).2.2.2.info.len = r.info.len ∧
      (interpretWrite dest stat r).2.2.2.info.isBigEndian = r.info.isBigEndian := by
  unfold interpretWrite
  split
  · rcases moves_blockHeader r with ⟨hlen, -, -, -, he⟩
    generalize getBlockHeader r = x at hlen he ⊢
    rcases x with ⟨header, r₁⟩
    dsimp only at hlen he ⊢
    rcases moves_writeRequest dest r₁ with ⟨hlen', -, -, -, he'⟩
    generalize getWriteRequest dest r₁ = y at hlen' he' ⊢
    rcases y with ⟨request, r₂⟩
    dsimp only at hlen' he' ⊢
    by_cases hfits : blockFits header r₁ = true
    · rw [if_pos hfits]
      by_cases htype : header.blockType = PF_BT_IOD_WRITE_REQ_HEADER
      · rw [if_pos htype]
        exact ⟨hlen'.trans hlen, he'.trans he⟩
      · rw [if_neg htype]
        by_cases hadjust : header.blockType = PF_BT_INTERFACE_ADJUST
        · rw [if_pos hadjust]
          exact ⟨hlen, he⟩
        · rw [if_neg hadjust]
          exact ⟨hlen, he⟩
    · rw [if_neg hfits]
      exact ⟨hlen, he⟩
  · exact ⟨rfl, rfl⟩

/-- A header is read as it stands there, whatever the request before. -/
theorem interpretWrite_own {q : WriteRequest} {r : Reader} (hq : ownHeader r = some q)
    (dest : WriteRequest) (stat : PnetResult) :
    r.info.result = .PF_PARSE_OK ∧
      interpretWrite dest stat r =
        (true, some q, stat, { r with pos := r.pos + (blockHeaderSize + writeRequestSize) }) := by
  unfold ownHeader at hq
  split at hq
  · rename_i hroom
    have hroom' : r.pos + blockHeaderSize ≤ r.info.len := by omega
    unfold interpretWrite at hq ⊢
    rw [if_pos hroom'] at hq ⊢
    have hmoves := moves_blockHeader r
    have htakes := takes_blockHeader r
    generalize getBlockHeader r = x at hq hmoves htakes ⊢
    rcases x with ⟨header, r₁⟩
    dsimp only at hq hmoves htakes ⊢
    by_cases hfits : blockFits header r₁ = true
    · rw [if_pos hfits] at hq ⊢
      have hok₁ : r₁.info.result = .PF_PARSE_OK := by
        simp only [blockFits, Bool.decide_and, Bool.and_eq_true, decide_eq_true_eq] at hfits
        exact hfits.2
      have hok := hmoves.2.2.2.1 hok₁
      have hr₁ := htakes hok hroom'
      by_cases htype : header.blockType = PF_BT_IOD_WRITE_REQ_HEADER
      · rw [if_pos htype] at hq ⊢
        have hroom₁ : r₁.pos + writeRequestSize ≤ r₁.info.len := by
          rw [hr₁]
          show r.pos + blockHeaderSize + writeRequestSize ≤ r.info.len
          omega
        rw [agree_writeRequest dest clearedWriteRequest r₁ hok₁ hroom₁]
        have hr' := takes_writeRequest clearedWriteRequest r₁ hok₁ hroom₁
        generalize getWriteRequest clearedWriteRequest r₁ = y at hq hr' ⊢
        rcases y with ⟨request, r₂⟩
        dsimp only at hq hr' ⊢
        rw [hq, hr', hr₁, Nat.add_assoc]
        exact ⟨hok, rfl⟩
      · rw [if_neg htype] at hq
        split at hq <;> cases hq
    · rw [if_neg hfits] at hq
      cases hq
  · cases hq

/-! ## The writes of a request -/

/-- A write as a request of `len` bytes makes it. -/
def IsTurn (net : Net) (env : WriteEnv) (len : ℕ) (w : Performed) : Prop :=
  w.start.info.len = len ∧
    (∀ q, ownHeader w.start = some q → w.request = q ∧ w.start.info.result = .PF_PARSE_OK ∧
      w.reader =
        { w.start with pos := w.start.pos + (blockHeaderSize + writeRequestSize) }) ∧
    ∃ stat, w.written = (performOneWrite net env w.request w.before stat w.reader).1

theorem isTurn_of_interpret {len : ℕ} {dest : WriteRequest} {stat stat' stat'' : PnetResult}
    {start r : Reader} {own : Option WriteRequest} {before : WriteResult}
    (hlen : start.info.len = len)
    (h : interpretWrite dest stat start = (true, own, stat', r)) :
    IsTurn net env len ⟨start, own.getD dest, r, before,
      (performOneWrite net env (own.getD dest) before stat'' r).1⟩ := by
  refine ⟨hlen, ?_, stat'', rfl⟩
  intro q hq
  rcases interpretWrite_own hq dest stat with ⟨hok, heq⟩
  rw [h, Prod.mk.injEq, Prod.mk.injEq, Prod.mk.injEq] at heq
  rcases heq with ⟨-, rfl, -, hr⟩
  exact ⟨rfl, hok, hr⟩

theorem performOneWrite_info (r : Reader) :
    (performOneWrite net env q result stat r).2.2.info.len = r.info.len ∧
      (performOneWrite net env q result stat r).2.2.info.isBigEndian = r.info.isBigEndian := by
  unfold performOneWrite
  cases hreach : reachedAr net env q r with
  | none =>
    rcases @performWrite_of_not_reached net env q result stat r hreach with ⟨stat', kill, h⟩
    rw [h]
    exact ⟨rfl, rfl⟩
  | some ar =>
    rw [performWrite_of_reached hreach]
    rcases moves_blockHeader r with ⟨hlen, -, -, -, he⟩
    dsimp only
    split
    · exact ⟨rfl, rfl⟩
    · exact ⟨hlen, he⟩

theorem multiWrites_isTurn {len : ℕ} (resLen fuel : ℕ) (st : MultiState)
    (hlen : st.reader.info.len = len) :
    ∀ w ∈ (multiWrites net env resLen fuel st).1, IsTurn net env len w := by
  induction fuel generalizing st with
  | zero =>
    intro w hw
    cases hw
  | succ fuel ih =>
    unfold multiWrites
    split
    · have hinterpret := (interpretWrite_info st.request noError st.reader).1
      cases hi : interpretWrite st.request noError st.reader with
      | mk ok x =>
        rcases x with ⟨own, stat', r⟩
        rw [hi] at hinterpret
        dsimp only at hinterpret ⊢
        cases ok with
        | false =>
          intro w hw
          cases hw
        | true =>
          intro w hw
          rcases List.mem_cons.mp hw with rfl | hw
          · exact isTurn_of_interpret hlen hi
          · apply ih _ _ w hw
            show (performOneWrite net env (own.getD st.request) st.result noError
              r).2.2.info.len = len
            rw [(performOneWrite_info r).1, hinterpret, hlen]
    · intro w hw
      cases hw

theorem rmWriteInd_isTurn (net : Net) (env : WriteEnv) (fuel : ℕ) (ndr : NdrData)
    (stat : PnetResult) (start : Reader) (resLen : ℕ) (w₀ : Writer) :
    ∀ w ∈ (rmWriteInd net env fuel ndr stat start resLen w₀).performed,
      IsTurn net env start.info.len w := by
  unfold rmWriteInd
  have hlen := (interpretWrite_info clearedWriteRequest stat start).1
  cases hi : interpretWrite clearedWriteRequest stat start with
  | mk ok x =>
    rcases x with ⟨own, stat', r⟩
    rw [hi] at hlen
    dsimp only at hlen ⊢
    split
    · cases ok with
      | false =>
        intro w hw
        cases hw
      | true =>
        rw [if_neg (by decide)]
        split
        · exact multiWrites_isTurn resLen fuel _ hlen
        · intro w hw
          rw [List.mem_singleton] at hw
          subst hw
          exact isTurn_of_interpret rfl hi
    · intro w hw
      cases hw

end PNet.Rpc
