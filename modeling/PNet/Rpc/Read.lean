import PNet.Rpc.Write

/-! # Reading records

A read request, explicit or implicit, from `pf_cmrpc_rm_read_ind` through CMRDR to FSPM, the block
writers and CMSM. The request carries an AR pointer, which stays `NULL` when no AR has been found;
`Access` records every use of what the pointer points to.

A read is answered without an AR by all of them but one: FSPM passes the AREP to the read callback
of the application without a look at the pointer.
-/

namespace PNet.Rpc

open Block

/-! ## Data -/

def PF_BT_EXPECTED_IDENTIFICATION_DATA : BitVec 16 := 0x0012
def PF_BT_REAL_IDENTIFICATION_DATA : BitVec 16 := 0x0013
def PF_BT_API_DATA : BitVec 16 := 0x001A
def PF_BT_READ_RES : BitVec 16 := 0x8009
def PNET_BLOCK_VERSION_LOW_1 : Byte := 1

def PNET_SLOT_DAP_IDENT : BitVec 16 := 0
def PNET_SUBSLOT_DAP_INTERFACE_1_IDENT : BitVec 16 := 0x8000

/-- `pf_dev_filter_level_t`. -/
inductive DevFilterLevel where
  | DEVICE
  | API_ID
  | API
  | SLOT
  | SUBSLOT
deriving DecidableEq, Repr

/-- `pf_diag_filter_level_t`. -/
inductive DiagFilter where
  | FAULT_STD
  | FAULT_ALL
  | ALL
  | M_REQ
  | M_DEM
deriving DecidableEq, Repr

/-- Who uses the AR of a read. -/
inductive ArUser where
  | fspm
  | cmdev
  | blockWriter
  | cmsm
deriving DecidableEq, Repr

/-- A use of what an AR pointer points to; `none` is `NULL`. -/
structure Access where
  user : ArUser
  ar : Option ℕ
deriving DecidableEq, Repr

/-- `p_ar->`, with no test before it. -/
def unguarded (user : ArUser) (ar : Option ℕ) : List Access := [⟨user, ar⟩]

/-- `p_ar->` behind a test for `NULL`. -/
def guarded (user : ArUser) : Option ℕ → List Access
  | none => []
  | some ar => [⟨user, some ar⟩]

/-- What writes the data of a record, with its arguments. The AR is a filter. -/
inductive Content where
  /-- What the read callback has provided. -/
  | application
  | im0FilterData
  | im
  | logBook
  | identData (blockType : BitVec 16) (blockVersionLow : Byte) (filter stop : DevFilterLevel)
      (ar : Option ℕ) (api : BitVec 32) (slot subslot : BitVec 16)
  | inputData
  | outputData
  | diagData (filter : DevFilterLevel) (diagFilter : DiagFilter) (ar : Option ℕ)
      (api : BitVec 32) (slot subslot : BitVec 16)
  /-- The AR, or all ARs of the table. -/
  | arData (ar : Option ℕ) (api : BitVec 32)
  | arDiff (ar : Option ℕ)
  | connMonTrigger
  | pdport
  | pdinterface
deriving DecidableEq, Repr

/-- The arguments of the read callback. -/
structure AppRead where
  /-- Undefined when it has been read through `NULL`. -/
  arep : Option (BitVec 16)
  api : BitVec 32
  slot : BitVec 16
  subslot : BitVec 16
  index : BitVec 16
  sequenceNumber : BitVec 16
  /-- The room in the response. -/
  length : ℕ
deriving DecidableEq, Repr

/-- What the read callback returns. -/
structure AppAnswer where
  ret : ℤ
  data : List Byte
  stat : PnetResult

/-- What a read depends on besides the request and the ARs. -/
structure ReadEnv where
  /-- Whether `pf_cmdev_get_api` finds the API. -/
  apiKnown : BitVec 32 → Bool
  readCb : Option (AppRead → PnetResult → AppAnswer)
  /-- What FSPM leaves in `p_read_status` for a record that it keeps itself. -/
  keeps : BitVec 16 → ℕ → PnetResult → PnetResult
  /-- The block writers: whether there are data, and the response with them. -/
  write : Content → ReadRequest → ℕ → Writer → Bool × Writer

/-! ## The records -/

/-- `pf_put_ident_data`: `p_ar->ar_param.ar_type` in the test, then comparisons of pointers. -/
def putIdentDataUses (ar : Option ℕ) : List Access := guarded .blockWriter ar

/-- `pf_put_ar_data`. With `NULL` it goes through the table. -/
def putArDataUses (ar : Option ℕ) : List Access := guarded .blockWriter ar

/-- `pf_cmdev_generate_submodule_diff`, then `pf_put_ar_diff`. -/
def arDiffUses (ar : Option ℕ) : List Access := guarded .cmdev ar ++ guarded .blockWriter ar

/-- The uses of the AR when the data are written. `pf_put_diag_data` only compares the pointer, and
`pf_pdport_read_ind` does not look at it. -/
def Content.uses : Content → List Access
  | .identData _ _ _ _ ar _ _ _ => putIdentDataUses ar
  | .arData ar _ => putArDataUses ar
  | .arDiff ar => arDiffUses ar
  | _ => []

/-- The AR that the data are about. -/
def Content.about : Content → Option ℕ
  | .identData _ _ _ _ ar _ _ _ | .diagData _ _ ar _ _ _ | .arData ar _ | .arDiff ar => ar
  | _ => none

/-- The five diagnosis records of a level, the maintenance ones once more for all codings. -/
def diagRecords (base : BitVec 16) (dmqs others : DiagFilter → Content) :
    List (BitVec 16 × Content) :=
  [(base + 0x0a, others .FAULT_STD),
   (base + 0x0b, others .FAULT_ALL),
   (base + 0x0c, dmqs .ALL),
   (base + 0x10, others .M_REQ),
   (base + 0x11, others .M_DEM),
   (base + 0x12, others .M_REQ),
   (base + 0x13, others .M_DEM)]

/-- Real and expected identification. -/
def identRecord (blockType : BitVec 16) (filter : DevFilterLevel) (ar : Option ℕ)
    (api : BitVec 32) (slot subslot : BitVec 16) : Content :=
  .identData blockType PNET_BLOCK_VERSION_LOW_1 filter .SUBSLOT ar api slot subslot

/-- The branches of `pf_cmrdr_rm_read_ind`, by index, in the order of the source. -/
def records (ar : Option ℕ) (q : ReadRequest) : List (BitVec 16 × Content) :=
  [
   -- `PF_IDX_DEV_IM_0_FILTER_DATA`, `PF_IDX_SUB_IM_0` to `PF_IDX_SUB_IM_4`
   (0xf840, .im0FilterData), (0xaff0, .im), (0xaff1, .im), (0xaff2, .im), (0xaff3, .im),
   (0xaff4, .im),
   -- `PF_IDX_DEV_LOGBOOK_DATA`
   (0xf830, .logBook),
   -- `PF_IDX_SUB_EXP_ID_DATA`, `PF_IDX_SUB_REAL_ID_DATA`
   (0x8000, identRecord PF_BT_EXPECTED_IDENTIFICATION_DATA .SUBSLOT ar q.api q.slotNumber
     q.subslotNumber),
   (0x8001, identRecord PF_BT_REAL_IDENTIFICATION_DATA .SUBSLOT none q.api q.slotNumber
     q.subslotNumber),
   -- `PF_IDX_SLOT_EXP_ID_DATA`, `PF_IDX_SLOT_REAL_ID_DATA`
   (0xc000, identRecord PF_BT_EXPECTED_IDENTIFICATION_DATA .SLOT ar q.api q.slotNumber 0),
   (0xc001, identRecord PF_BT_REAL_IDENTIFICATION_DATA .SLOT none q.api q.slotNumber 0),
   -- `PF_IDX_AR_EXP_ID_DATA`, `PF_IDX_AR_REAL_ID_DATA`
   (0xe000, identRecord PF_BT_EXPECTED_IDENTIFICATION_DATA .DEVICE ar 0 0 0),
   (0xe001, identRecord PF_BT_REAL_IDENTIFICATION_DATA .DEVICE ar 0 0 0),
   -- `PF_IDX_API_REAL_ID_DATA`
   (0xf000, identRecord PF_BT_REAL_IDENTIFICATION_DATA .API none q.api 0 0),
   -- `PF_IDX_DEV_API_DATA`
   (0xf821, .identData PF_BT_API_DATA PNET_BLOCK_VERSION_LOW .DEVICE .API_ID none 0 0 0),
   -- `PF_IDX_SUB_INPUT_DATA`, `PF_IDX_SUB_OUTPUT_DATA`
   (0x8028, .inputData), (0x8029, .outputData)] ++
  -- `PF_IDX_SUB_DIAGNOSIS_CH` and so on
  diagRecords 0x8000 (.diagData .SUBSLOT · none q.api q.slotNumber q.subslotNumber)
    (.diagData .SUBSLOT · none q.api q.slotNumber q.subslotNumber) ++
  diagRecords 0xc000 (.diagData .SLOT · none q.api q.slotNumber 0)
    (.diagData .SLOT · none q.api q.slotNumber 0) ++
  diagRecords 0xf000 (.diagData .API · none q.api 0 0)
    (.diagData .API · none q.api q.slotNumber 0) ++
  diagRecords 0xe000 (.diagData .DEVICE · ar 0 0 0) (.diagData .DEVICE · ar 0 0 0) ++
  [
   -- `PF_IDX_DEV_DIAGNOSIS_DMQS`, `PF_IDX_DEV_CONN_MON_TRIGGER`
   (0xf80c, .diagData .DEVICE .ALL none 0 0 0), (0xfbff, .connMonTrigger),
   -- `PF_IDX_API_AR_DATA`, `PF_IDX_DEV_AR_DATA`, `PF_IDX_AR_MOD_DIFF`
   (0xf020, .arData ar q.api), (0xf820, .arData none 0), (0xe002, .arDiff ar),
   -- `PF_IDX_SUB_PDPORT_DATA_REAL` to `PF_IDX_SUB_PDINTF_ADJUST`
   (0x802a, .pdport), (PF_IDX_SUB_PDPORT_DATA_ADJ, .pdport),
   (PF_IDX_SUB_PDPORT_DATA_CHECK, .pdport), (0xf841, .pdport), (0xf842, .pdport),
   (0x8072, .pdport), (PF_IDX_SUB_PDINTF_ADJUST, .pdport),
   -- `PF_IDX_SUB_PDINTF_REAL`
   (0x8080, .pdinterface)]

/-- "Only check if this is the port subslot". -/
def isInterfaceSubslot (q : ReadRequest) : Bool :=
  q.slotNumber = PNET_SLOT_DAP_IDENT ∧ q.subslotNumber = PNET_SUBSLOT_DAP_INTERFACE_1_IDENT

/-- The branch for an index, `none` for an error. -/
def contentOf (ar : Option ℕ) (q : ReadRequest) : Option Content :=
  if q.index ≤ PF_IDX_USER_MAX then some .application
  else ((records ar q).lookup q.index).filter fun c => c ≠ .pdinterface ∨ isInterfaceSubslot q

/-! ## FSPM, CMSM and CMRDR -/

/-- What FSPM has for a record: the data of the application, the status, the call of the read
callback, and the uses of the AR. -/
structure Fetched where
  data : List Byte
  stat : PnetResult
  asked : Option AppRead
  uses : List Access

/-- `pf_fspm_cm_read_ind` with the test of its result: without an answer there are no data. -/
def fspmCmReadInd (net : Net) (env : ReadEnv) (ar : Option ℕ) (q : ReadRequest)
    (stat : PnetResult) (room : ℕ) : Fetched :=
  if q.index ≤ PF_IDX_USER_MAX then
    match env.readCb with
    | some readCb =>
      let call : AppRead :=
        ⟨ar.map fun ar => (net.ars ar).arep, q.api, q.slotNumber, q.subslotNumber, q.index,
          q.sequenceNumber, room⟩
      let answer := readCb call stat
      ⟨if answer.ret = 0 then answer.data else [], answer.stat, some call, unguarded .fspm ar⟩
    | none =>
      ⟨[], { stat with
        pnioStatus := ⟨PNET_ERROR_CODE_READ, PNET_ERROR_DECODE_PNIORW,
          PNET_ERROR_CODE_1_APP_NOT_SUPPORTED, 0⟩ }, none, []⟩
  else ⟨[], env.keeps q.index room stat, none, []⟩

/-- `pf_cmsm_cm_read_ind`, which only restarts the timer. -/
def cmsmCmReadInd (ar : Option ℕ) : List Access := guarded .cmsm ar

/-- `pf_cmsm_rm_read_ind`, which only restarts the timer. -/
def cmsmRmReadInd (ar : Option ℕ) : List Access := guarded .cmsm ar

/-- `pf_put_read_result`; answers the position of the data length, too. -/
def putReadResult (e : Bool) (q : ReadRequest) (stat : PnetResult) (resLen : ℕ) (w : Writer) :
    ℕ × Writer :=
  let blockPos := w.pos
  let w := putBlockHeader e PF_BT_READ_RES 0 PNET_BLOCK_VERSION_HIGH PNET_BLOCK_VERSION_LOW
    resLen w
  let w := putUint16 e q.sequenceNumber resLen w
  let w := putUuid e q.arUuid resLen w
  let w := putUint32 e q.api resLen w
  let w := putUint16 e q.slotNumber resLen w
  let w := putUint16 e q.subslotNumber resLen w
  let w := putByte 0 resLen w
  let w := putByte 0 resLen w
  let w := putUint16 e q.index resLen w
  let dataLengthPos := w.pos
  let w := putUint32 e 0 resLen w
  let w := putUint16 e stat.addData1 resLen w
  let w := putUint16 e stat.addData2 resLen w
  let w := putPadding 20 resLen w
  let blockLen := BitVec.ofNat 16 w.pos - BitVec.ofNat 16 (blockPos + 4)
  (dataLengthPos, ⟨(putUint16 e blockLen resLen ⟨w.bytes, blockPos + 2⟩).bytes, w.pos⟩)

/-- What CMRDR has made of a read. -/
structure Answered where
  stat : PnetResult
  /-- Where the data come from, if there are any. -/
  content : Option Content
  asked : Option AppRead
  uses : List Access
  response : Writer

/-- "Provided by application - accept whatever it says", or the block writer of the index. -/
def putContent (env : ReadEnv) (q : ReadRequest) (data : List Byte) (resLen : ℕ)
    (w : Writer) : Content → Bool × Writer
  | .application => if w.pos + data.length ≤ resLen then (true, w.append data) else (false, w)
  | c => env.write c q resLen w

/-- `pf_cmrdr_rm_read_ind`, which always returns 0. -/
def cmrdrRmReadInd (net : Net) (env : ReadEnv) (ar : Option ℕ) (q : ReadRequest)
    (stat : PnetResult) (resLen : ℕ) (w : Writer) : Answered :=
  let room := BitVec.ofNat 16 resLen - BitVec.ofNat 16 w.pos
  let fetched := fspmCmReadInd net env ar q stat room.toNat
  let (dataLengthPos, w) := putReadResult true q fetched.stat resLen w
  let content := contentOf ar q
  let (ok, response) := match content with
    | some c => putContent env q fetched.data resLen w c
    | none => (false, w)
  let stat := if ok then fetched.stat else
    { fetched.stat with
      pnioStatus := ⟨PNET_ERROR_CODE_READ, PNET_ERROR_DECODE_PNIORW,
        PNET_ERROR_CODE_1_ACC_INVALID_INDEX, 10⟩ }
  let dataLength := BitVec.ofInt 32 ((response.pos : ℤ) - w.pos)
  { stat
    content := if ok then content else none
    asked := fetched.asked
    uses := fetched.uses ++ (content.elim [] Content.uses ++ cmsmCmReadInd ar)
    response := ⟨(putUint32 true dataLength resLen ⟨response.bytes, dataLengthPos⟩).bytes,
      response.pos⟩ }

/-! ## The request -/

/-- `pf_cmrpc_rm_read_interpret_ind`: the request, if there is nothing to complain about. -/
def interpretRead (argsLength : BitVec 32) (stat : PnetResult) (start : Reader) :
    Option ReadRequest × PnetResult × Reader :=
  let wrongLength := setError stat PNET_ERROR_CODE_READ PNET_ERROR_DECODE_PNIO
    PNET_ERROR_CODE_1_CMRPC PNET_ERROR_CODE_2_CMRPC_ARGSLENGTH_INVALID
  if start.pos + blockHeaderSize ≤ start.info.len ∧ start.info.result = .PF_PARSE_OK then
    let (header, r) := getBlockHeader start
    if blockFits header r then
      if header.blockType = PF_BT_IOD_READ_REQ_HEADER then
        let (request, r) := getReadRequest clearedReadRequest r
        if r.info.result = .PF_PARSE_OK ∧ r.pos = r.info.len ∧
            BitVec.ofInt 32 ((r.pos : ℤ) - start.pos) = argsLength then
          (some request, stat, r)
        else (none, wrongLength, r)
      else
        (none, setError stat PNET_ERROR_CODE_READ PNET_ERROR_DECODE_PNIO
          PNET_ERROR_CODE_1_CONN_FAULTY_FAULTY_RECORD PNET_ERROR_CODE_2_CMRPC_UNKNOWN_BLOCKS, r)
    else (none, stat, r)
  else (none, stat, start)

/-- What a read request has led to. -/
structure ReadOutcome where
  ok : Bool
  rpcResult : PnetResult
  killSession : Bool
  /-- The request, when it has been read without an error. -/
  request : Option ReadRequest
  content : Option Content
  asked : Option AppRead
  uses : List Access
  response : Writer

/-- The AR that a read is carried out with: "for read implicit we have no AR". -/
def arOfRead (net : Net) (opnum : BitVec 16) (q : ReadRequest) : Option ℕ :=
  match net.arFindByUuid q.arUuid with
  | some ar => some ar
  | none => if opnum ≠ PF_RPC_DEV_OPNUM_READ_IMPLICIT then net.arFindByUuid q.targetArUuid else none

/-- The checks of `pf_cmrpc_rm_read_ind`: the error, and whether the session is killed. -/
def readRejected (net : Net) (env : ReadEnv) (opnum : BitVec 16) (q : ReadRequest)
    (stat : PnetResult) : Option (PnetResult × Bool) :=
  if q.arUuid = implicitAr ∧ opnum ≠ PF_RPC_DEV_OPNUM_READ_IMPLICIT then
    some (setError stat PNET_ERROR_CODE_READ PNET_ERROR_DECODE_PNIO
      PNET_ERROR_CODE_1_CONN_FAULTY_FAULTY_RECORD PNET_ERROR_CODE_2_CMRPC_AR_UUID_UNKNOWN, true)
  else if (net.arFindByUuid q.arUuid).isSome ∧ opnum ≠ PF_RPC_DEV_OPNUM_READ then
    some (setError stat PNET_ERROR_CODE_READ PNET_ERROR_DECODE_PNIO
      PNET_ERROR_CODE_1_CMRPC PNET_ERROR_CODE_2_CMRPC_AR_UUID_UNKNOWN, true)
  else if q.api ≠ 0 ∧ env.apiKnown q.api = false then
    some (setError stat PNET_ERROR_CODE_READ PNET_ERROR_DECODE_PNIORW
      PNET_ERROR_CODE_1_ACC_INVALID_AREA_API 6, false)
  else none

/-- The part of `pf_cmrpc_rm_read_ind` behind its checks. -/
def performRead (net : Net) (env : ReadEnv) (ar : Option ℕ) (q : ReadRequest) (ndr : NdrData)
    (stat : PnetResult) (e : Bool) (resLen : ℕ) (w : Writer) : ReadOutcome :=
  let statusPos := w.pos
  let w := putPnetStatus e stat.pnioStatus resLen w
  let hdrPos := w.pos
  let w := putNdr e ndr resLen w
  let startPos := w.pos
  let answered := cmrdrRmReadInd net env ar q stat resLen w
  { ok := true
    rpcResult := answered.stat
    killSession := false
    request := some q
    content := answered.content
    asked := answered.asked
    uses := answered.uses ++ cmsmRmReadInd ar
    response := fixupWrite e ndr answered.stat statusPos hdrPos startPos resLen answered.response }

/-- `pf_cmrpc_rm_read_ind`: the parser `start` is at the block, and the response goes behind
`w`. -/
def rmReadInd (net : Net) (env : ReadEnv) (opnum : BitVec 16) (ndr : NdrData) (stat : PnetResult)
    (start : Reader) (resLen : ℕ) (w : Writer) : ReadOutcome :=
  let failed (stat : PnetResult) (kill : Bool) (request : Option ReadRequest) : ReadOutcome :=
    ⟨false, stat, kill, request, none, none, [], w⟩
  if stat.pnioStatus.errorCode ≠ PNET_ERROR_CODE_NOERROR then
    failed (setError stat PNET_ERROR_CODE_READ PNET_ERROR_DECODE_PNIO PNET_ERROR_CODE_1_CMRPC
      PNET_ERROR_CODE_2_CMRPC_STATE_CONFLICT) false none
  else
    let (request, stat, r) := interpretRead ndr.argsLength stat start
    match request with
    | none => failed stat false none
    | some q =>
      match readRejected net env opnum q stat with
      | some (stat, kill) => failed stat kill (some q)
      | none => performRead net env (arOfRead net opnum q) q ndr stat r.info.isBigEndian resLen w

/-! ## What a read uses -/

/-- The AR is in use, and has been found by a UUID of the request. -/
def FoundBy (net : Net) (q : ReadRequest) (ar : ℕ) : Prop :=
  (net.ars ar).inUse = true ∧
    (net.arFindByUuid q.arUuid = some ar ∨ net.arFindByUuid q.targetArUuid = some ar)

/-- The data of no AR in particular, nor of the application. -/
def Content.NeedsNoAr (c : Content) : Prop := c ≠ .application ∧ c.about = none

def ReadOutcome.IsError (o : ReadOutcome) : Prop :=
  o.ok = false ∨ o.rpcResult.pnioStatus.errorCode ≠ PNET_ERROR_CODE_NOERROR

/-- Only an AR that the request has named is used or shown to the application, and without one the
answer is an error or needs no AR. -/
def ReadOutcome.NeverMissing (net : Net) (o : ReadOutcome) : Prop :=
  (∀ a ∈ o.uses, ∃ q ar, o.request = some q ∧ FoundBy net q ar ∧ a.ar = some ar) ∧
    (∀ call, o.asked = some call →
      ∃ q ar, o.request = some q ∧ FoundBy net q ar ∧ call.arep = some (net.ars ar).arep) ∧
    ∀ q, o.request = some q → (∀ ar, ¬ FoundBy net q ar) →
      o.IsError ∨ ∃ c, o.content = some c ∧ c.NeedsNoAr

/-- A record of the application is to be read, and the read has no AR: an implicit read, or one
whose two UUIDs are both unknown. -/
def ReadsWithoutAr (net : Net) (env : ReadEnv) (opnum : BitVec 16) (q : ReadRequest) : Prop :=
  q.index ≤ PF_IDX_USER_MAX ∧ env.readCb.isSome = true ∧
    (q.api = 0 ∨ env.apiKnown q.api = true) ∧ net.arFindByUuid q.arUuid = none ∧
    (opnum = PF_RPC_DEV_OPNUM_READ_IMPLICIT ∨
      q.arUuid ≠ implicitAr ∧ net.arFindByUuid q.targetArUuid = none)

variable {net : Net} {env : ReadEnv} {ar : Option ℕ} {q : ReadRequest}

theorem mem_guarded {user : ArUser} {a : Access} (h : a ∈ guarded user ar) :
    a.ar = ar ∧ ar.isSome = true := by
  rcases ar with _ | x
  · cases h
  · rw [List.mem_singleton.mp h]
    exact ⟨rfl, rfl⟩

/-- Every block writer looks at the pointer before it uses the AR. -/
theorem Content.mem_uses {c : Content} {a : Access} (h : a ∈ c.uses) :
    a.ar = c.about ∧ c.about.isSome = true := by
  cases c with
  | identData => exact mem_guarded h
  | arData => exact mem_guarded h
  | arDiff =>
    rcases List.mem_append.mp h with h | h
    · exact mem_guarded h
    · exact mem_guarded h
  | _ => cases h

/-- No branch has another AR than the one of the read. -/
theorem records_about : ∀ e ∈ records ar q, e.2.about = none ∨ e.2.about = ar := by
  simp [records, diagRecords, identRecord, Content.about]

theorem records_ne_application : ∀ e ∈ records ar q, e.2 ≠ .application := by
  simp [records, diagRecords, identRecord]

/-- Behind the records of the application, an index has its one branch. -/
theorem contentOf_some {c : Content} (h : contentOf ar q = some c) :
    (q.index ≤ PF_IDX_USER_MAX ∧ c = .application) ∨
      (¬ q.index ≤ PF_IDX_USER_MAX ∧ (q.index, c) ∈ records ar q) := by
  unfold contentOf at h
  split at h
  · next huser => exact .inl ⟨huser, (Option.some.inj h).symm⟩
  · next huser =>
    rw [Option.filter_eq_some_iff] at h
    rcases List.lookup_eq_some_iff.mp h.1 with ⟨before, after, heq, -⟩
    exact .inr ⟨huser, heq ▸ List.mem_append_right before (List.mem_cons_self ..)⟩

/-- FSPM without a record of the application. -/
theorem fspmCmReadInd_uses (stat : PnetResult) (room : ℕ) :
    (fspmCmReadInd net env ar q stat room).uses =
      if q.index ≤ PF_IDX_USER_MAX ∧ env.readCb.isSome = true then unguarded .fspm ar else [] := by
  unfold fspmCmReadInd
  by_cases huser : q.index ≤ PF_IDX_USER_MAX
  · rw [if_pos huser]
    rcases env.readCb with _ | readCb
    · rw [if_neg fun h => Bool.noConfusion h.2]
    · rw [if_pos ⟨huser, rfl⟩]
  · rw [if_neg huser, if_neg fun h => huser h.1]

/-- What the application gets is the AREP of the read. -/
theorem fspmCmReadInd_asked {stat : PnetResult} {room : ℕ} {call : AppRead}
    (h : (fspmCmReadInd net env ar q stat room).asked = some call) :
    (q.index ≤ PF_IDX_USER_MAX ∧ env.readCb.isSome = true) ∧
      call.arep = ar.map fun ar => (net.ars ar).arep := by
  unfold fspmCmReadInd at h
  by_cases huser : q.index ≤ PF_IDX_USER_MAX
  · rw [if_pos huser] at h
    rcases hcb : env.readCb with _ | readCb
    · rw [hcb] at h
      cases h
    · rw [hcb] at h
      cases h
      exact ⟨⟨huser, rfl⟩, rfl⟩
  · rw [if_neg huser] at h
    cases h

/-- Without a callback a read of the application's records is an error. -/
theorem fspmCmReadInd_stat (hcb : env.readCb = none) (huser : q.index ≤ PF_IDX_USER_MAX)
    (stat : PnetResult) (room : ℕ) :
    (fspmCmReadInd net env ar q stat room).stat.pnioStatus.errorCode = PNET_ERROR_CODE_READ := by
  unfold fspmCmReadInd
  rw [if_pos huser, hcb]

/-- Every use of CMRDR is one of the AR of the read, and only that of the callback is not behind a
test. -/
theorem cmrdrRmReadInd_uses {stat : PnetResult} {resLen : ℕ} {w : Writer} {a : Access}
    (h : a ∈ (cmrdrRmReadInd net env ar q stat resLen w).uses) :
    a.ar = ar ∧ (ar.isSome = true ∨ q.index ≤ PF_IDX_USER_MAX ∧ env.readCb.isSome = true) := by
  rcases List.mem_append.mp h with h | h
  · rw [fspmCmReadInd_uses] at h
    split at h
    · next huser => exact ⟨by rw [List.mem_singleton.mp h], .inr huser⟩
    · cases h
  · rcases List.mem_append.mp h with h | h
    · rcases hc : contentOf ar q with _ | c
      · rw [hc] at h
        cases h
      · rw [hc] at h
        rcases Content.mem_uses h with ⟨heq, hsome⟩
        rcases contentOf_some hc with ⟨-, rfl⟩ | ⟨-, hmem⟩
        · cases hsome
        · rcases records_about _ hmem with hnone | habout
          · rw [hnone] at hsome
            cases hsome
          · exact ⟨heq.trans habout, .inl (habout ▸ hsome)⟩
    · rcases mem_guarded h with ⟨heq, hsome⟩
      exact ⟨heq, .inl hsome⟩

/-- CMRDR asks the application as FSPM does. -/
theorem cmrdrRmReadInd_asked {stat : PnetResult} {resLen : ℕ} {w : Writer} {call : AppRead}
    (h : (cmrdrRmReadInd net env ar q stat resLen w).asked = some call) :
    (q.index ≤ PF_IDX_USER_MAX ∧ env.readCb.isSome = true) ∧
      call.arep = ar.map fun ar => (net.ars ar).arep :=
  fspmCmReadInd_asked h

/-- CMRDR answers with an error, or with the data of the branch and the status of FSPM. -/
theorem cmrdrRmReadInd_cases (stat : PnetResult) (resLen : ℕ) (w : Writer) :
    (cmrdrRmReadInd net env ar q stat resLen w).stat.pnioStatus.errorCode =
        PNET_ERROR_CODE_READ ∨
      ∃ c room, contentOf ar q = some c ∧
        (cmrdrRmReadInd net env ar q stat resLen w).content = some c ∧
        (cmrdrRmReadInd net env ar q stat resLen w).stat =
          (fspmCmReadInd net env ar q stat room).stat := by
  unfold cmrdrRmReadInd
  dsimp only
  generalize (BitVec.ofNat 16 resLen - BitVec.ofNat 16 w.pos).toNat = room
  generalize (putReadResult true q (fspmCmReadInd net env ar q stat room).stat resLen w).2 = w'
  rcases contentOf ar q with _ | c
  · exact .inl rfl
  · dsimp only
    by_cases hok : (putContent env q (fspmCmReadInd net env ar q stat room).data resLen w' c).1 = true
    · right
      refine ⟨c, room, rfl, ?_, ?_⟩
      · exact if_pos hok
      · exact if_pos hok
    · left
      rw [if_neg hok]

/-- Without an AR, and without a callback that gets one, the answer is an error or needs no AR. -/
theorem cmrdrRmReadInd_content (hread : ¬ (q.index ≤ PF_IDX_USER_MAX ∧ env.readCb.isSome = true))
    (stat : PnetResult) (resLen : ℕ) (w : Writer) :
    (cmrdrRmReadInd net env none q stat resLen w).stat.pnioStatus.errorCode ≠
        PNET_ERROR_CODE_NOERROR ∨
      ∃ c, (cmrdrRmReadInd net env none q stat resLen w).content = some c ∧ c.NeedsNoAr := by
  have herror : PNET_ERROR_CODE_READ ≠ PNET_ERROR_CODE_NOERROR := by decide
  rcases @cmrdrRmReadInd_cases net env none q stat resLen w with
    hstat | ⟨c, room, hc, hcontent, hstat⟩
  · exact .inl (hstat ▸ herror)
  · rcases contentOf_some hc with ⟨huser, rfl⟩ | ⟨-, hmem⟩
    · -- there is no callback, which FSPM answers with an error
      have hcb : env.readCb = none := by
        rcases hcb : env.readCb with _ | readCb
        · rfl
        · exact absurd ⟨huser, by rw [hcb]; rfl⟩ hread
      left
      rw [hstat, fspmCmReadInd_stat hcb huser]
      exact herror
    · right
      refine ⟨c, hcontent, records_ne_application _ hmem, ?_⟩
      rcases records_about _ hmem with hnone | hnone
      · exact hnone
      · exact hnone

/-! ## Reads and their AR -/

variable {opnum : BitVec 16} {ndr : NdrData} {stat : PnetResult}

theorem readRejected_eq_none :
    readRejected net env opnum q stat = none ↔
      (q.arUuid = implicitAr → opnum = PF_RPC_DEV_OPNUM_READ_IMPLICIT) ∧
        ((net.arFindByUuid q.arUuid).isSome = true → opnum = PF_RPC_DEV_OPNUM_READ) ∧
        (q.api = 0 ∨ env.apiKnown q.api = true) := by
  unfold readRejected
  by_cases himplicit : q.arUuid = implicitAr ∧ opnum ≠ PF_RPC_DEV_OPNUM_READ_IMPLICIT
  · rw [if_pos himplicit]
    constructor
    · intro h
      cases h
    · intro h
      exact absurd (h.1 himplicit.1) himplicit.2
  rw [if_neg himplicit]
  by_cases hknown : (net.arFindByUuid q.arUuid).isSome ∧ opnum ≠ PF_RPC_DEV_OPNUM_READ
  · rw [if_pos hknown]
    constructor
    · intro h
      cases h
    · intro h
      exact absurd (h.2.1 hknown.1) hknown.2
  rw [if_neg hknown]
  by_cases hapi : q.api ≠ 0 ∧ env.apiKnown q.api = false
  · rw [if_pos hapi]
    constructor
    · intro h
      cases h
    · rintro ⟨-, -, hzero | htrue⟩
      · exact absurd hzero hapi.1
      · rw [hapi.2] at htrue
        cases htrue
  · rw [if_neg hapi]
    refine ⟨fun _ => ⟨?_, ?_, ?_⟩, fun _ => rfl⟩
    · exact fun h => by_contra fun hne => himplicit ⟨h, hne⟩
    · exact fun h => by_contra fun hne => hknown ⟨h, hne⟩
    · by_cases hzero : q.api = 0
      · exact .inl hzero
      · exact .inr (Bool.of_not_eq_false fun hfalse => hapi ⟨hzero, hfalse⟩)

/-- The AR of a read has one of its UUIDs, and is in use. -/
theorem foundBy_of_arOfRead {x : ℕ} (h : arOfRead net opnum q = some x) : FoundBy net q x := by
  unfold arOfRead at h
  rcases hfind : net.arFindByUuid q.arUuid with _ | y
  · rw [hfind] at h
    dsimp only at h
    split at h
    · exact ⟨(Net.arFindByUuid_some h).1, .inr h⟩
    · cases h
  · rw [hfind] at h
    cases h
    exact ⟨(Net.arFindByUuid_some hfind).1, .inl hfind⟩

/-- The reads that go wrong are those that pass the checks without an AR. -/
theorem readsWithoutAr_iff :
    ReadsWithoutAr net env opnum q ↔
      (q.index ≤ PF_IDX_USER_MAX ∧ env.readCb.isSome = true) ∧
        readRejected net env opnum q stat = none ∧ arOfRead net opnum q = none := by
  rw [readRejected_eq_none]
  unfold arOfRead
  constructor
  · rintro ⟨huser, hcb, hapi, hfind, hread⟩
    rw [hfind]
    refine ⟨⟨huser, hcb⟩, ⟨?_, ?_, hapi⟩, ?_⟩
    · intro himplicit
      rcases hread with hop | ⟨hne, -⟩
      · exact hop
      · exact absurd himplicit hne
    · intro h
      cases h
    · rcases hread with hop | ⟨-, htarget⟩
      · exact if_neg (not_not_intro hop)
      · dsimp only
        rw [htarget]
        exact ite_self _
  · rintro ⟨⟨huser, hcb⟩, ⟨himplicit, -, hapi⟩, har⟩
    rcases hfind : net.arFindByUuid q.arUuid with _ | x
    · rw [hfind] at har
      refine ⟨huser, hcb, hapi, hfind, ?_⟩
      by_cases hop : opnum = PF_RPC_DEV_OPNUM_READ_IMPLICIT
      · exact .inl hop
      · exact .inr ⟨fun h => hop (himplicit h), (if_pos hop).symm.trans har⟩
    · rw [hfind] at har
      cases har

/-- A read fails without a look at any AR, or it is carried out. -/
theorem rmReadInd_cases (start : Reader) (resLen : ℕ) (w : Writer) :
    ((rmReadInd net env opnum ndr stat start resLen w).ok = false ∧
        (rmReadInd net env opnum ndr stat start resLen w).uses = [] ∧
        (rmReadInd net env opnum ndr stat start resLen w).asked = none ∧
        ∀ q, stat.pnioStatus.errorCode = PNET_ERROR_CODE_NOERROR →
          (interpretRead ndr.argsLength stat start).1 = some q →
          ∃ stat', readRejected net env opnum q stat' ≠ none) ∨
      ∃ q stat' e, stat.pnioStatus.errorCode = PNET_ERROR_CODE_NOERROR ∧
        (interpretRead ndr.argsLength stat start).1 = some q ∧
        readRejected net env opnum q stat' = none ∧
        rmReadInd net env opnum ndr stat start resLen w =
          performRead net env (arOfRead net opnum q) q ndr stat' e resLen w := by
  unfold rmReadInd
  dsimp only
  by_cases hstat : stat.pnioStatus.errorCode = PNET_ERROR_CODE_NOERROR
  · rw [if_neg (not_not_intro hstat)]
    generalize interpretRead ndr.argsLength stat start = interpreted
    rcases interpreted with ⟨request, stat', r⟩
    dsimp only
    rcases request with _ | q
    · exact .inl ⟨rfl, rfl, rfl, fun q _ h => by cases h⟩
    · dsimp only
      rcases hrejected : readRejected net env opnum q stat' with _ | ⟨stat'', kill⟩
      · exact .inr ⟨q, stat', r.info.isBigEndian, hstat, rfl, hrejected, rfl⟩
      · refine .inl ⟨rfl, rfl, rfl, fun q' _ h => ?_⟩
        cases h
        exact ⟨stat', by rw [hrejected]; exact Option.some_ne_none _⟩
  · rw [if_pos hstat]
    exact .inl ⟨rfl, rfl, rfl, fun q h => absurd h hstat⟩

/-- A read that is carried out uses no other AR than its own, and shows the application the AREP
of no other. -/
theorem performRead_uses {e : Bool} {resLen : ℕ} {w : Writer} {a : Access}
    (h : a ∈ (performRead net env ar q ndr stat e resLen w).uses) :
    a.ar = ar ∧ (ar.isSome = true ∨ q.index ≤ PF_IDX_USER_MAX ∧ env.readCb.isSome = true) := by
  rcases List.mem_append.mp h with h | h
  · exact cmrdrRmReadInd_uses h
  · rcases mem_guarded h with ⟨heq, hsome⟩
    exact ⟨heq, .inl hsome⟩

/-- With an AR that the request has named, nothing is missing. -/
theorem performRead_found {x : ℕ} (hfound : FoundBy net q x) (e : Bool) (resLen : ℕ)
    (w : Writer) : (performRead net env (some x) q ndr stat e resLen w).NeverMissing net := by
  refine ⟨?_, ?_, ?_⟩
  · intro a ha
    exact ⟨q, x, rfl, hfound, (performRead_uses ha).1⟩
  · intro call hcall
    exact ⟨q, x, rfl, hfound, (cmrdrRmReadInd_asked hcall).2⟩
  · intro q' hq hnone
    cases hq
    exact absurd hfound (hnone x)

/-- Without an AR nothing is missing as long as the application is not asked. -/
theorem performRead_without (hread : ¬ (q.index ≤ PF_IDX_USER_MAX ∧ env.readCb.isSome = true))
    (e : Bool) (resLen : ℕ) (w : Writer) :
    (performRead net env none q ndr stat e resLen w).NeverMissing net := by
  refine ⟨?_, ?_, ?_⟩
  · intro a ha
    rcases (performRead_uses ha).2 with hsome | huser
    · cases hsome
    · exact absurd huser hread
  · intro call hcall
    exact absurd (cmrdrRmReadInd_asked hcall).1 hread
  · intro q' _ _
    rcases cmrdrRmReadInd_content hread stat resLen
      (putNdr e ndr resLen (putPnetStatus e stat.pnioStatus resLen w)) with herror | hcontent
    · exact .inl (.inr herror)
    · exact .inr hcontent

/-- The callback of the application costs a use of `NULL`. -/
theorem performRead_missing (huser : q.index ≤ PF_IDX_USER_MAX ∧ env.readCb.isSome = true)
    (e : Bool) (resLen : ℕ) (w : Writer) :
    ¬ (performRead net env none q ndr stat e resLen w).NeverMissing net := by
  rintro ⟨huses, -, -⟩
  have hmem : (⟨.fspm, none⟩ : Access) ∈ (performRead net env none q ndr stat e resLen w).uses := by
    refine List.mem_append_left _ (List.mem_append_left _ ?_)
    rw [fspmCmReadInd_uses, if_pos huser]
    exact List.mem_singleton_self _
  rcases huses _ hmem with ⟨-, x, -, -, hx⟩
  cases hx

/-- A read uses no missing AR, except one of the application's records that has got no AR. -/
theorem reads_never_missing_iff (net : Net) (env : ReadEnv) (opnum : BitVec 16) (ndr : NdrData)
    (stat : PnetResult) (start : Reader) (resLen : ℕ) (w : Writer) :
    (rmReadInd net env opnum ndr stat start resLen w).NeverMissing net ↔
      ¬ (stat.pnioStatus.errorCode = PNET_ERROR_CODE_NOERROR ∧
        ∃ q, (interpretRead ndr.argsLength stat start).1 = some q ∧
          ReadsWithoutAr net env opnum q) := by
  rcases @rmReadInd_cases net env opnum ndr stat start resLen w with
    ⟨hfailed, huses, hasked, hrejected⟩ | ⟨q, stat', e, hstat, hq, hnone, heq⟩
  · constructor
    · rintro - ⟨hstat, q, hq, hread⟩
      rcases hrejected q hstat hq with ⟨stat', hne⟩
      exact hne ((@readsWithoutAr_iff net env q opnum stat').mp hread).2.1
    · intro _
      refine ⟨?_, ?_, fun _ _ _ => .inl (.inl hfailed)⟩
      · rw [huses]
        intro a ha
        cases ha
      · rw [hasked]
        intro call hcall
        cases hcall
  · rw [heq]
    constructor
    · rintro h ⟨-, q', hq', hread⟩
      cases hq.symm.trans hq'
      rcases (@readsWithoutAr_iff net env q opnum stat').mp hread with ⟨huser, -, hnoAr⟩
      rw [hnoAr] at h
      exact performRead_missing huser e resLen w h
    · intro h
      rcases har : arOfRead net opnum q with _ | x
      · apply performRead_without
        intro huser
        exact h ⟨hstat, q, hq, readsWithoutAr_iff.mpr ⟨huser, hnone, har⟩⟩
      · exact performRead_found (foundBy_of_arOfRead har) e resLen w

/-! ## An example -/

/-- A read of 64 bytes, with UUIDs of zero. -/
def readHeaderBytes (index : BitVec 16) : List Byte :=
  [0x00, 0x09, 0, 60, 1, 0] ++ List.replicate 28 0 ++ bytes16 true index ++ List.replicate 28 0

/-- No AR, as after the start of the device. -/
def idleNet : Net where
  sessions := fun _ => clearedSession
  ars := fun _ => clearedAr

/-- An application that has records. -/
def readingEnv : ReadEnv where
  apiKnown := fun api => api = 0
  readCb := some fun _ stat => ⟨0, [1, 2, 3, 4], stat⟩
  keeps := fun _ _ stat => stat
  write := fun _ _ _ w => (true, w)

/-- An implicit read of a record of the application, with no AR in sight. -/
theorem read_uses_null :
    ¬ (rmReadInd idleNet readingEnv PF_RPC_DEV_OPNUM_READ_IMPLICIT ⟨1000, 64, 64, 0, 64⟩ noError
      ⟨⟨.PF_PARSE_OK, true, Buffer.write (fun _ => 0) 100 (readHeaderBytes 1), 164⟩, 100⟩ 1000
      ⟨fun _ => 0, 80⟩).NeverMissing idleNet := by
  rintro ⟨huses, -, -⟩
  have hmem : (rmReadInd idleNet readingEnv PF_RPC_DEV_OPNUM_READ_IMPLICIT ⟨1000, 64, 64, 0, 64⟩
      noError ⟨⟨.PF_PARSE_OK, true, Buffer.write (fun _ => 0) 100 (readHeaderBytes 1), 164⟩, 100⟩
      1000 ⟨fun _ => 0, 80⟩).uses = [⟨.fspm, none⟩] := by
    decide +kernel
  rw [hmem] at huses
  rcases huses _ (List.mem_singleton_self _) with ⟨-, x, -, -, hx⟩
  cases hx

end PNet.Rpc
