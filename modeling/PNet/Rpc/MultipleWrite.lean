import PNet.Rpc.Record

/-! # Multiple writes

What the answer to a multiple write tells about the writes of the request.

* `Truthful` - the writes in their order, a result block for each, and the overall status
* `Orderly` - the condition on the writes; `endOf` is where they end
* `truthful_iff`
-/

namespace PNet.Rpc

open Block

/-! ## Result blocks -/

/-- The bytes of `pf_put_write_result`. -/
def writeResultBytes (e : Bool) (res : WriteResult) : List Byte :=
  bytes16 e PF_BT_WRITE_RES ++ bytes16 e 60 ++ [PNET_BLOCK_VERSION_HIGH] ++
    [PNET_BLOCK_VERSION_LOW] ++ bytes16 e res.sequenceNumber ++ uuidBytes e res.arUuid ++
    bytes32 e res.api ++ bytes16 e res.slotNumber ++ bytes16 e res.subslotNumber ++ [0] ++ [0] ++
    bytes16 e res.index ++ bytes32 e res.recordDataLength ++ bytes16 e res.addData1 ++
    bytes16 e res.addData2 ++
    bytes32 e (join4 res.pnioStatus.errorCode res.pnioStatus.errorDecode
      res.pnioStatus.errorCode1 res.pnioStatus.errorCode2) ++
    List.replicate 16 0

def writeResultSize : ℕ := 64

theorem writeResultBytes_length (e : Bool) (res : WriteResult) :
    (writeResultBytes e res).length = writeResultSize := by
  simp [writeResultBytes, writeResultSize]

variable {resLen : ℕ}

theorem appends_padding (n : ℕ) : Appends resLen (putPadding n resLen) (List.replicate n 0) := by
  induction n with
  | zero =>
    intro w _
    simp [putPadding, Writer.append]
  | succ n ih => exact (appends_byte 0).comp ih

theorem stays_padding (n : ℕ) : Stays resLen (putPadding n resLen) := by
  induction n with
  | zero => exact fun w => le_max_left _ _
  | succ n ih => exact (stays_byte 0).comp ih

theorem appends_writeFields (e : Bool) (res : WriteResult) :
    Appends resLen (putWriteFields e res resLen)
      (bytes16 e PF_BT_WRITE_RES ++ bytes16 e 2 ++ [PNET_BLOCK_VERSION_HIGH] ++
        [PNET_BLOCK_VERSION_LOW] ++ bytes16 e res.sequenceNumber ++ uuidBytes e res.arUuid ++
        bytes32 e res.api ++ bytes16 e res.slotNumber ++ bytes16 e res.subslotNumber ++ [0] ++
        [0] ++ bytes16 e res.index ++ bytes32 e res.recordDataLength ++
        bytes16 e res.addData1 ++ bytes16 e res.addData2 ++
        bytes32 e (join4 res.pnioStatus.errorCode res.pnioStatus.errorDecode
          res.pnioStatus.errorCode1 res.pnioStatus.errorCode2) ++
        List.replicate 16 0) :=
  ((((((((((((((((appends_uint16 e _).comp (appends_uint16 e _)).comp (appends_byte _)).comp
    (appends_byte _)).comp (appends_uint16 e _)).comp (appends_uuid e _)).comp
    (appends_uint32 e _)).comp (appends_uint16 e _)).comp (appends_uint16 e _)).comp
    (appends_byte _)).comp (appends_byte _)).comp (appends_uint16 e _)).comp
    (appends_uint32 e _)).comp (appends_uint16 e _)).comp (appends_uint16 e _)).comp
    (appends_uint32 e _)).comp (appends_padding 16)

theorem stays_writeFields (e : Bool) (res : WriteResult) :
    Stays resLen (putWriteFields e res resLen) := by
  have huuid : Stays resLen (putUuid e res.arUuid resLen) :=
    (((stays_uint32 e _).comp (stays_uint16 e _)).comp (stays_uint16 e _)).comp (stays_mem _)
  exact ((((((((((((((((stays_uint16 e _).comp (stays_uint16 e _)).comp (stays_byte _)).comp
    (stays_byte _)).comp (stays_uint16 e _)).comp huuid).comp (stays_uint32 e _)).comp
    (stays_uint16 e _)).comp (stays_uint16 e _)).comp (stays_byte _)).comp (stays_byte _)).comp
    (stays_uint16 e _)).comp (stays_uint32 e _)).comp (stays_uint16 e _)).comp
    (stays_uint16 e _)).comp (stays_uint32 e _)).comp (stays_padding 16)

/-- The length of the block replaces what has been put at first. -/
theorem appends_writeResult (e : Bool) (res : WriteResult) :
    Appends resLen (putWriteResult e res resLen) (writeResultBytes e res) := by
  intro w hw
  rw [writeResultBytes_length, writeResultSize] at hw
  -- behind the length of the block
  set rest : List Byte := [PNET_BLOCK_VERSION_HIGH] ++
    ([PNET_BLOCK_VERSION_LOW] ++ (bytes16 e res.sequenceNumber ++ (uuidBytes e res.arUuid ++
    (bytes32 e res.api ++ (bytes16 e res.slotNumber ++ (bytes16 e res.subslotNumber ++ ([0] ++
    ([0] ++ (bytes16 e res.index ++ (bytes32 e res.recordDataLength ++ (bytes16 e res.addData1 ++
    (bytes16 e res.addData2 ++
    (bytes32 e (join4 res.pnioStatus.errorCode res.pnioStatus.errorDecode
      res.pnioStatus.errorCode1 res.pnioStatus.errorCode2) ++
    List.replicate 16 0))))))))))))) with hrest
  have hfields := appends_writeFields e res w (by simpa using hw)
  have hbytes : writeResultBytes e res = bytes16 e PF_BT_WRITE_RES ++ bytes16 e 60 ++ rest := by
    simp only [writeResultBytes, hrest, List.append_assoc]
  simp only [List.append_assoc] at hfields
  rw [← hrest, ← List.append_assoc] at hfields
  have hlen : rest.length = 60 := by simp [hrest]
  have hpos : (putWriteFields e res resLen w).pos = w.pos + 64 := by
    rw [hfields]
    simp [Writer.append, hlen]
  have hblock : BitVec.ofNat 16 (w.pos + 64) - BitVec.ofNat 16 (w.pos + 4) = 60 := by
    apply BitVec.eq_of_toNat_eq
    rw [BitVec.toNat_sub, BitVec.toNat_ofNat, BitVec.toNat_ofNat]
    show _ = 60
    omega
  have hput := @appends_uint16 resLen e 60
    ⟨(putWriteFields e res resLen w).bytes, w.pos + 2⟩
    (by rw [bytes16_length]; show w.pos + 2 + 2 ≤ resLen; omega)
  rw [putWriteResult, hpos, hblock, hput, hbytes, hfields]
  have hinside := Buffer.write_write_inside w.bytes w.pos (bytes16 e PF_BT_WRITE_RES)
    (bytes16 e 2) rest (bytes16 e 60) (by simp)
  rw [bytes16_length] at hinside
  simp only [Writer.append, hinside, List.length_append, bytes16_length, hlen]

theorem stays_writeResult (e : Bool) (res : WriteResult) :
    Stays resLen (putWriteResult e res resLen) := by
  intro w
  exact stays_writeFields e res w

/-! ## What the answer should tell -/

/-- The status of a write. -/
def Performed.status (w : Performed) : PnioStatus :=
  if w.written.ok then noError.pnioStatus else w.written.stat.pnioStatus

/-- Where the record of the write ends. -/
def Performed.recordEnd (w : Performed) : ℕ :=
  w.reader.pos + w.request.recordDataLength.toNat

/-- The next write is aligned. -/
def Performed.nextPos (w : Performed) : ℕ := (w.recordEnd + 3) / 4 * 4

/-- The writes from `pos` on, each with a header and a record of the request, until one fails. -/
def InOrder (len : ℕ) : ℕ → List Performed → Prop
  | _, [] => True
  | pos, w :: ws =>
    w.start.pos = pos ∧ ownHeader w.start = some w.request ∧
      (w.written.ok = true → w.written.pos = w.recordEnd ∧ w.recordEnd ≤ len) ∧
      (ws ≠ [] → w.written.ok = true) ∧ InOrder len w.nextPos ws

/-- The parser is at the end of the request, and has passed as many bytes as announced. -/
def Consumed (ndr : NdrData) (start r : Reader) : Prop :=
  r.pos = start.info.len ∧ r.info.result = .PF_PARSE_OK ∧
    BitVec.ofInt 32 ((r.pos : ℤ) - start.pos) = ndr.argsLength

structure Truthful (ndr : NdrData) (start : Reader) (o : WriteOutcome) : Prop where
  returned : o.returned = true
  order : InOrder start.info.len (start.pos + (blockHeaderSize + writeRequestSize)) o.performed
  named : ∀ w ∈ o.performed,
    Names w.request w.written.result ∧ w.written.result.pnioStatus = w.status
  /-- One block for each write, behind that of the multiple write. -/
  blocks : ∃ first,
    o.response.pos = o.resStart + writeResultSize * (o.performed.length + 1) ∧
      Buffer.slice o.response.bytes o.resStart (writeResultSize * (o.performed.length + 1)) =
        (first :: o.performed.map fun w => w.written.result).flatMap
          (writeResultBytes start.info.isBigEndian)
  overall : o.rpcResult.pnioStatus.errorCode = PNET_ERROR_CODE_NOERROR ↔
    (∀ w ∈ o.performed, w.written.ok = true) ∧ Consumed ndr start o.reader

/-! ## When it does -/

/-- The record is there, and so is the block header that is taken for a part of it. -/
def Performed.Fits (w : Performed) : Prop :=
  w.recordEnd ≤ w.reader.info.len ∧
    (w.request.index ≤ PF_IDX_USER_MAX ∨ w.reader.pos + blockHeaderSize ≤ w.reader.info.len)

def Performed.Accepted (net : Net) (env : WriteEnv) (w : Performed) : Prop :=
  accepts net env w.request noError w.reader = true

/-- Each block is the header of a write, with a record if it is accepted; one that is refused is
the last, and is refused by CMWRR, which fills in its result block. -/
def Orderly (net : Net) (env : WriteEnv) : List Performed → Prop
  | [] => True
  | w :: ws =>
    ownHeader w.start = some w.request ∧ (w.Accepted net env → w.Fits) ∧
      ((reachedAr net env w.request w.reader).isSome = true ∨ Names w.request w.before) ∧
      (ws ≠ [] → w.Accepted net env) ∧ Orderly net env ws

/-- Where the writes end that begin at `pos`. -/
def endOf : ℕ → List Performed → ℕ
  | pos, [] => pos
  | _, w :: ws => endOf w.nextPos ws

/-! ## One write -/

variable {net : Net} {env : WriteEnv} {q : WriteRequest} {result : WriteResult}
  {stat : PnetResult} {r : Reader}

/-- The result block is about the write when CMWRR has seen the write. -/
theorem performOneWrite_result :
    let w := (performOneWrite net env q result stat r).1
    (Names q w.result ↔ (reachedAr net env q r).isSome = true ∨ Names q result) ∧
      w.result.pnioStatus = if w.ok then result.pnioStatus else w.stat.pnioStatus := by
  unfold performOneWrite
  cases hreach : reachedAr net env q r with
  | none =>
    rcases @performWrite_of_not_reached net env q result stat r hreach with ⟨stat', kill, h⟩
    rw [h]
    refine ⟨?_, rfl⟩
    simp only [Option.isSome_none, Bool.false_eq_true, false_or]
    rfl
  | some ar =>
    rw [performWrite_of_reached hreach]
    have herr := withError_spec
      (cmwrrRmWriteInd net env ar q result stat (dataLength q) (dataPos q r))
    have hspec := @cmwrrRmWriteInd_spec net env q result stat ar (dataLength q) (dataPos q r)
    rcases hspec with ⟨-, -, hnames, hstatus, -⟩
    rw [← herr.2.2.1] at hnames hstatus
    generalize withError (cmwrrRmWriteInd net env ar q result stat (dataLength q) (dataPos q r)) = w
      at hnames hstatus ⊢
    dsimp only
    split
    · rename_i hok
      exact ⟨iff_of_true hnames (.inl rfl), hstatus⟩
    · exact ⟨iff_of_true hnames (.inl rfl), rfl⟩

theorem performOneWrite_reader (hacc : accepts net env q stat r = true) :
    (performOneWrite net env q result stat r).1.pos = uint16 (dataPos q r + dataLength q) ∧
      (performOneWrite net env q result stat r).2.2.info =
        if q.index ≤ PF_IDX_USER_MAX then r.info else (getBlockHeader r).2.info := by
  have hok := (@performOneWrite_spec net env q result stat r).2.trans hacc
  unfold performOneWrite at hok ⊢
  cases hreach : reachedAr net env q r with
  | none =>
    rcases @performWrite_of_not_reached net env q result stat r hreach with ⟨stat', kill, h⟩
    rw [h] at hok
    cases hok
  | some ar =>
    rw [performWrite_of_reached hreach] at hok ⊢
    have herr := withError_spec
      (cmwrrRmWriteInd net env ar q result stat (dataLength q) (dataPos q r))
    have hspec := @cmwrrRmWriteInd_spec net env q result stat ar (dataLength q) (dataPos q r)
    refine ⟨?_, rfl⟩
    exact herr.2.2.2.trans (hspec.2.2.2.2 (herr.2.1.symm.trans hok))

/-- Where a write that passes the check of the length ends. -/
theorem taken_iff (hok : r.info.result = .PF_PARSE_OK) (hpos : blockHeaderSize ≤ r.pos)
    (hle : r.pos ≤ r.info.len) (hlen : r.info.len ≤ PNET_MAX_SESSION_BUFFER_SIZE) :
    uint16 (dataPos q r + dataLength q) = r.pos + q.recordDataLength.toNat ∧
        r.pos + q.recordDataLength.toNat ≤ r.info.len ↔
      r.pos + q.recordDataLength.toNat ≤ r.info.len ∧
        (q.index ≤ PF_IDX_USER_MAX ∨ r.pos + blockHeaderSize ≤ r.info.len) := by
  have hlen' : r.info.len ≤ 4500 := hlen
  have hsize : blockHeaderSize = 6 := rfl
  unfold uint16 dataPos dataLength
  by_cases hidx : q.index ≤ PF_IDX_USER_MAX
  · rw [if_pos hidx, if_pos hidx, BitVec.toNat_setWidth]
    constructor
    · rintro ⟨-, h⟩
      exact ⟨h, .inl hidx⟩
    · rintro ⟨h, -⟩
      exact ⟨by omega, h⟩
  · rcases moves_blockHeader r with ⟨-, hge, hmost, -⟩
    have htakes := takes_blockHeader r hok
    rw [if_neg hidx, if_neg hidx, BitVec.toNat_sub, BitVec.toNat_setWidth, BitVec.toNat_ofNat,
      hsize]
    rw [hsize] at hpos
    constructor
    · rintro ⟨h, hend⟩
      -- without its block header the record would end too early
      exact ⟨hend, .inr (by omega)⟩
    · rintro ⟨h, hno | hroom⟩
      · exact absurd hno hidx
      · have hpos' : (getBlockHeader r).2.pos = r.pos + 6 := by rw [htakes (by omega), hsize]
        exact ⟨by omega, h⟩

/-! ## One turn -/

/-- A turn of the loop in the state `st`. -/
structure Turn (net : Net) (env : WriteEnv) (resLen : ℕ) (st : MultiState) (w : Performed)
    (st' : MultiState) : Prop where
  start : w.start = st.reader
  before : w.before = st.result
  isTurn : IsTurn net env st.reader.info.len w
  ok : w.written.ok = accepts net env w.request noError w.reader
  names : Names w.request w.written.result ↔
    (reachedAr net env w.request w.reader).isSome = true ∨ Names w.request w.before
  status : w.written.result.pnioStatus =
    if w.written.ok then st.result.pnioStatus else w.written.stat.pnioStatus
  pos : w.written.ok = true →
    w.written.pos = uint16 (dataPos w.request w.reader + dataLength w.request)
  info : w.written.ok = true → st'.reader.info =
    if w.request.index ≤ PF_IDX_USER_MAX then w.reader.info else (getBlockHeader w.reader).2.info
  result' : st'.result = w.written.result
  reader' : st'.reader.pos = alignPos w.written.pos
  len' : st'.reader.info.len = st.reader.info.len
  e' : st'.reader.info.isBigEndian = st.reader.info.isBigEndian
  ret' : st'.ret = w.written.ok
  response' : st'.response =
    putWriteResult st.reader.info.isBigEndian w.written.result resLen st.response

theorem oneOfMany_turn {st : MultiState} {own : Option WriteRequest} {stat' : PnetResult}
    (hi : interpretWrite st.request noError st.reader = (true, own, stat', r)) :
    Turn net env resLen st (oneOfMany net env resLen st (own.getD st.request) r).1
      (oneOfMany net env resLen st (own.getD st.request) r).2 := by
  have hinfo := interpretWrite_info st.request noError st.reader
  rw [hi] at hinfo
  have hspec := @performOneWrite_spec net env (own.getD st.request) st.result noError r
  have hresult := @performOneWrite_result net env (own.getD st.request) st.result noError r
  have hinfo' := @performOneWrite_info net env (own.getD st.request) st.result noError r
  constructor
  · rfl
  · rfl
  · exact isTurn_of_interpret rfl hi
  · exact hspec.2
  · exact hresult.1
  · exact hresult.2
  · intro hok
    exact (performOneWrite_reader (hspec.2.symm.trans hok)).1
  · intro hok
    exact (performOneWrite_reader (hspec.2.symm.trans hok)).2
  · rfl
  · rfl
  · exact hinfo'.1.trans hinfo.1
  · exact hinfo'.2.trans hinfo.2
  · rfl
  · show putWriteResult (performOneWrite net env (own.getD st.request) st.result noError
      r).2.2.info.isBigEndian _ _ _ = _
    rw [hinfo'.2, hinfo.2]
    rfl

/-- The loop takes a turn, or comes to its end. -/
theorem multiWrites_succ (net : Net) (env : WriteEnv) (resLen fuel : ℕ) (st : MultiState) :
    (∃ w st', Turn net env resLen st w st' ∧
      multiWrites net env resLen (fuel + 1) st =
        (w :: (multiWrites net env resLen fuel st').1, (multiWrites net env resLen fuel st').2)) ∨
    ∃ r, multiWrites net env resLen (fuel + 1) st = ([], { st with reader := r }, true) ∧
      (r = st.reader ∧ (st.result.pnioStatus.errorCode = PNET_ERROR_CODE_NOERROR →
          st.reader.info.len ≤ st.reader.pos + 58) ∨
        st.reader.pos + 58 < st.reader.info.len ∧
          r = (interpretWrite st.request noError st.reader).2.2.2 ∧
          (interpretWrite st.request noError st.reader).1 = false) := by
  by_cases hcont : st.reader.pos + 58 < st.reader.info.len ∧
      st.result.pnioStatus.errorCode = PNET_ERROR_CODE_NOERROR
  · cases hi : interpretWrite st.request noError st.reader with
    | mk ok x =>
      rcases x with ⟨own, stat', r⟩
      cases ok with
      | true =>
        left
        refine ⟨_, _, oneOfMany_turn hi, ?_⟩
        rw [multiWrites, if_pos hcont, hi]
        rfl
      | false =>
        right
        refine ⟨r, ?_, .inr ⟨hcont.1, rfl, rfl⟩⟩
        rw [multiWrites, if_pos hcont, hi]
        rfl
  · right
    refine ⟨st.reader, ?_, .inl ⟨rfl, ?_⟩⟩
    · rw [multiWrites, if_neg hcont]
    · intro hcode
      by_contra hlt
      exact hcont ⟨by omega, hcode⟩

/-- The accepted writes that take their record are those whose record fits. -/
theorem Turn.fits_iff {st st' : MultiState} {w : Performed}
    (h : Turn net env resLen st w st') (hlen : st.reader.info.len ≤ PNET_MAX_SESSION_BUFFER_SIZE)
    (hown : ownHeader w.start = some w.request) (hok : w.written.ok = true) :
    w.written.pos = w.recordEnd ∧ w.recordEnd ≤ st.reader.info.len ↔ w.Fits := by
  rcases h.isTurn with ⟨hlen₀, hreq, -⟩
  rcases hreq _ hown with ⟨-, hparse, hreader⟩
  have hroom : w.start.pos + (blockHeaderSize + writeRequestSize) ≤ w.start.info.len := by
    unfold ownHeader at hown
    split at hown
    · assumption
    · cases hown
  have hrlen : w.reader.info.len = st.reader.info.len := by rw [hreader]; exact hlen₀
  have hrpos : w.reader.pos = w.start.pos + (blockHeaderSize + writeRequestSize) := by
    rw [hreader]
  have htaken := @taken_iff w.request w.reader (by rw [hreader]; exact hparse) (by omega) (by omega)
    (by omega)
  rw [h.pos hok, ← hrlen]
  exact htaken

/-- Behind a write that has taken its record the loop goes on in good order. -/
theorem Turn.next {st st' : MultiState} {w : Performed} (h : Turn net env resLen st w st')
    (hlen : st.reader.info.len ≤ PNET_MAX_SESSION_BUFFER_SIZE)
    (hown : ownHeader w.start = some w.request) (hok : w.written.ok = true) (hfits : w.Fits) :
    st'.reader.pos = w.nextPos ∧ st'.reader.info.result = .PF_PARSE_OK ∧
      st.reader.pos + writeResultSize ≤ w.nextPos ∧ w.recordEnd ≤ st.reader.info.len := by
  rcases (h.fits_iff hlen hown hok).mpr hfits with ⟨hpos, hend⟩
  rcases h.isTurn with ⟨-, hreq, -⟩
  rcases hreq _ hown with ⟨-, hparse, hreader⟩
  have hparse' : w.reader.info.result = .PF_PARSE_OK := by rw [hreader]; exact hparse
  have hlen' : st.reader.info.len ≤ 4500 := hlen
  refine ⟨?_, ?_, ?_, hend⟩
  · rw [h.reader', hpos, alignPos, Performed.nextPos, uint16_of_lt]
    omega
  · rw [h.info hok]
    split
    · exact hparse'
    · rename_i hidx
      rw [takes_blockHeader w.reader hparse' (hfits.2.resolve_left hidx)]
      exact hparse'
  · have hstart : w.reader.pos = st.reader.pos + (blockHeaderSize + writeRequestSize) := by
      rw [hreader, h.start]
    have hsize : blockHeaderSize + writeRequestSize = writeResultSize := rfl
    have hrec : w.recordEnd = w.reader.pos + w.request.recordDataLength.toNat := rfl
    unfold Performed.nextPos
    omega

/-! ## The loop -/

/-- The writes are performed in order and with right results if and only if they are orderly. -/
theorem multiWrites_orderly_iff (fuel : ℕ) (st : MultiState)
    (hlen : st.reader.info.len ≤ PNET_MAX_SESSION_BUFFER_SIZE)
    (hzero : st.result.pnioStatus = noError.pnioStatus) :
    InOrder st.reader.info.len st.reader.pos (multiWrites net env resLen fuel st).1 ∧
        (∀ w ∈ (multiWrites net env resLen fuel st).1,
          Names w.request w.written.result ∧ w.written.result.pnioStatus = w.status) ↔
      Orderly net env (multiWrites net env resLen fuel st).1 := by
  induction fuel generalizing st with
  | zero => simp [multiWrites, InOrder, Orderly]
  | succ fuel ih =>
    rcases multiWrites_succ net env resLen fuel st with ⟨w, st', hturn, heq⟩ | ⟨r, heq, -⟩
    · rw [heq]
      have hstatus : w.written.result.pnioStatus = w.status := by
        rw [hturn.status, hzero]
        rfl
      have hacc : w.Accepted net env ↔ w.written.ok = true := by
        rw [hturn.ok]
        rfl
      unfold InOrder Orderly
      rw [List.forall_mem_cons, hturn.names, hacc]
      generalize hws : (multiWrites net env resLen fuel st').1 = ws
      by_cases hok : w.written.ok = true
      · -- an accepted write
        have hzero' : st'.result.pnioStatus = noError.pnioStatus := by
          rw [hturn.result', hturn.status, if_pos hok, hzero]
        have hrest := ih st' (by rw [hturn.len']; exact hlen) hzero'
        rw [hws, hturn.len'] at hrest
        constructor
        · rintro ⟨⟨hpos, hown, htaken, -, horder⟩, ⟨hnames, -⟩, hright⟩
          have hfits := (hturn.fits_iff hlen hown hok).mp (htaken hok)
          rw [← (hturn.next hlen hown hok hfits).1] at horder
          exact ⟨hown, fun _ => hfits, hnames, fun _ => hok, hrest.mp ⟨horder, hright⟩⟩
        · rintro ⟨hown, hfits, hnames, -, horderly⟩
          rcases hrest.mpr horderly with ⟨horder, hright⟩
          rw [(hturn.next hlen hown hok (hfits hok)).1] at horder
          refine ⟨⟨by rw [hturn.start], hown, ?_, fun _ => hok, horder⟩, ⟨hnames, hstatus⟩,
            hright⟩
          intro _
          exact (hturn.fits_iff hlen hown hok).mpr (hfits hok)
      · -- a refused one is the last
        constructor
        · rintro ⟨⟨hpos, hown, -, hlast, -⟩, ⟨hnames, -⟩, -⟩
          have hnil : ws = [] := by
            by_contra hne
            exact hok (hlast hne)
          subst hnil
          exact ⟨hown, fun h => absurd h hok, hnames, fun hne => absurd rfl hne, trivial⟩
        · rintro ⟨hown, -, hnames, hlast, -⟩
          have hnil : ws = [] := by
            by_contra hne
            exact hok (hlast hne)
          subst hnil
          exact ⟨⟨by rw [hturn.start], hown, fun h => absurd h hok, fun hne => absurd rfl hne,
            trivial⟩, ⟨hnames, hstatus⟩, fun _ hw => by cases hw⟩
    · rw [heq]
      simp [InOrder, Orderly]

/-- The loop only stops by itself when it takes fewer turns than it may. -/
theorem multiWrites_returned (fuel : ℕ) (st : MultiState)
    (h : (multiWrites net env resLen fuel st).1.length < fuel) :
    (multiWrites net env resLen fuel st).2.2 = true := by
  induction fuel generalizing st with
  | zero => omega
  | succ fuel ih =>
    rcases multiWrites_succ net env resLen fuel st with ⟨w, st', -, heq⟩ | ⟨r, heq, -⟩
    · rw [heq] at h ⊢
      apply ih
      simpa using h
    · rw [heq]

/-- Each write of a request takes the bytes of its header. -/
theorem multiWrites_length (fuel : ℕ) (st : MultiState)
    (hlen : st.reader.info.len ≤ PNET_MAX_SESSION_BUFFER_SIZE)
    (horderly : Orderly net env (multiWrites net env resLen fuel st).1) :
    (multiWrites net env resLen fuel st).1 = [] ∨
      st.reader.pos + writeResultSize * (multiWrites net env resLen fuel st).1.length ≤
        st.reader.info.len := by
  induction fuel generalizing st with
  | zero => exact .inl rfl
  | succ fuel ih =>
    rcases multiWrites_succ net env resLen fuel st with ⟨w, st', hturn, heq⟩ | ⟨r, heq, -⟩
    · right
      rw [heq] at horderly ⊢
      rcases horderly with ⟨hown, hfits, -, hlast, hrest⟩
      have hroom : st.reader.pos + writeResultSize ≤ st.reader.info.len := by
        rw [hturn.start] at hown
        unfold ownHeader at hown
        split at hown
        · assumption
        · cases hown
      rw [List.length_cons]
      rcases ih st' (by rw [hturn.len']; exact hlen) hrest with hnil | hle
      · rw [hnil]
        exact hroom
      · by_cases hnil : (multiWrites net env resLen fuel st').1 = []
        · rw [hnil]
          exact hroom
        · have hacc := hlast hnil
          have hok : w.written.ok = true := hturn.ok.trans hacc
          rcases hturn.next hlen hown hok (hfits hacc) with ⟨hpos, -, hge, -⟩
          rw [hturn.len', hpos] at hle
          rw [Nat.mul_succ]
          omega
    · left
      rw [heq]

/-! ## The end of the loop -/

/-- A block that is not known has only had its header read. -/
theorem interpretWrite_failed {dest : WriteRequest} (hparse : r.info.result = .PF_PARSE_OK)
    (hroom : r.pos + writeRequestSize < r.info.len) (h : (interpretWrite dest stat r).1 = false) :
    (interpretWrite dest stat r).2.2.2.pos < r.info.len := by
  have hsize : blockHeaderSize = 6 := rfl
  have hsize' : writeRequestSize = 58 := rfl
  have htakes := takes_blockHeader r hparse (by omega)
  unfold interpretWrite at h ⊢
  rw [if_pos (by omega)] at h ⊢
  generalize getBlockHeader r = x at h htakes ⊢
  rcases x with ⟨header, r₁⟩
  dsimp only at h htakes ⊢
  have hpos : r₁.pos < r.info.len := by
    rw [htakes]
    show r.pos + blockHeaderSize < _
    omega
  by_cases hfits : blockFits header r₁ = true
  · rw [if_pos hfits] at h ⊢
    by_cases htype : header.blockType = PF_BT_IOD_WRITE_REQ_HEADER
    · rw [if_pos htype] at h
      generalize getWriteRequest dest r₁ = y at h
      rcases y with ⟨request, r₂⟩
      cases h
    · rw [if_neg htype]
      by_cases hadjust : header.blockType = PF_BT_INTERFACE_ADJUST
      · rw [if_pos hadjust]
        exact hpos
      · rw [if_neg hadjust]
        exact hpos
  · rw [if_neg hfits]
    exact hpos

/-- When all writes are accepted the loop ends behind the last one, or in front of the end. -/
theorem multiWrites_end (fuel : ℕ) (st : MultiState)
    (hlen : st.reader.info.len ≤ PNET_MAX_SESSION_BUFFER_SIZE)
    (hzero : st.result.pnioStatus = noError.pnioStatus)
    (hparse : st.reader.info.result = .PF_PARSE_OK)
    (horderly : Orderly net env (multiWrites net env resLen fuel st).1)
    (hacc : ∀ w ∈ (multiWrites net env resLen fuel st).1, w.Accepted net env)
    (hret : (multiWrites net env resLen fuel st).2.2 = true) :
    (st.ret = true → (multiWrites net env resLen fuel st).2.1.ret = true) ∧
      (multiWrites net env resLen fuel st).2.1.reader.info.len = st.reader.info.len ∧
      ((multiWrites net env resLen fuel st).2.1.reader.pos =
            endOf st.reader.pos (multiWrites net env resLen fuel st).1 ∧
          (multiWrites net env resLen fuel st).2.1.reader.info.result = .PF_PARSE_OK ∨
        endOf st.reader.pos (multiWrites net env resLen fuel st).1 < st.reader.info.len ∧
          (multiWrites net env resLen fuel st).2.1.reader.pos < st.reader.info.len) := by
  induction fuel generalizing st with
  | zero => cases hret
  | succ fuel ih =>
    rcases multiWrites_succ net env resLen fuel st with ⟨w, st', hturn, heq⟩ | ⟨r, heq, hend⟩
    · rw [heq] at horderly hacc hret ⊢
      rw [List.forall_mem_cons] at hacc
      rcases horderly with ⟨hown, hfits, -, -, hrest⟩
      have hok : w.written.ok = true := hturn.ok.trans hacc.1
      rcases hturn.next hlen hown hok (hfits hacc.1) with ⟨hpos, hparse', -, -⟩
      have hzero' : st'.result.pnioStatus = noError.pnioStatus := by
        rw [hturn.result', hturn.status, if_pos hok, hzero]
      have hrec := ih st' (by rw [hturn.len']; exact hlen) hzero' hparse' hrest hacc.2 hret
      rw [hturn.len', hpos] at hrec
      exact ⟨fun _ => hrec.1 (hturn.ret'.trans hok), hrec.2⟩
    · rw [heq]
      rcases hend with ⟨rfl, -⟩ | ⟨hroom, rfl, hfail⟩
      · exact ⟨id, rfl, .inl ⟨rfl, hparse⟩⟩
      · have hbefore : st.reader.pos < st.reader.info.len := by omega
        exact ⟨id, (interpretWrite_info st.request noError st.reader).1, .inr ⟨hbefore,
          interpretWrite_failed hparse hroom hfail⟩⟩

/-- A write that is refused leaves its mark. -/
theorem multiWrites_ret (fuel : ℕ) (st : MultiState)
    (horderly : Orderly net env (multiWrites net env resLen fuel st).1) :
    ((multiWrites net env resLen fuel st).1 = [] →
        (multiWrites net env resLen fuel st).2.1.ret = st.ret) ∧
      ((¬ ∀ w ∈ (multiWrites net env resLen fuel st).1, w.Accepted net env) →
        (multiWrites net env resLen fuel st).2.1.ret = false) := by
  induction fuel generalizing st with
  | zero => exact ⟨fun _ => rfl, fun h => absurd (fun w hw => by cases hw) h⟩
  | succ fuel ih =>
    rcases multiWrites_succ net env resLen fuel st with ⟨w, st', hturn, heq⟩ | ⟨r, heq, -⟩
    · rw [heq] at horderly ⊢
      rcases horderly with ⟨-, -, -, hlast, hrest⟩
      refine ⟨fun h => (List.cons_ne_nil _ _ h).elim, ?_⟩
      intro hnot
      rw [List.forall_mem_cons, not_and_or] at hnot
      rcases hnot with hnot | hnot
      · have hnil : (multiWrites net env resLen fuel st').1 = [] := by
          by_contra hne
          exact hnot (hlast hne)
        have hok : w.written.ok = false := by
          rw [hturn.ok]
          exact Bool.eq_false_iff.mpr hnot
        exact ((ih st' hrest).1 hnil).trans (hturn.ret'.trans hok)
      · exact (ih st' hrest).2 hnot
    · rw [heq]
      exact ⟨fun _ => rfl, fun h => absurd (fun w hw => by cases hw) h⟩

/-! ## The blocks of the response -/

/-- The result blocks, one behind the other. -/
def putWriteResults (e : Bool) (resLen : ℕ) (results : List WriteResult) (w : Writer) : Writer :=
  results.foldl (fun w res => putWriteResult e res resLen w) w

theorem multiWrites_response (fuel : ℕ) (st : MultiState) :
    (multiWrites net env resLen fuel st).2.1.response =
      putWriteResults st.reader.info.isBigEndian resLen
        ((multiWrites net env resLen fuel st).1.map fun w => w.written.result) st.response := by
  induction fuel generalizing st with
  | zero => rfl
  | succ fuel ih =>
    rcases multiWrites_succ net env resLen fuel st with ⟨w, st', hturn, heq⟩ | ⟨r, heq, -⟩
    · rw [heq]
      show (multiWrites net env resLen fuel st').2.1.response = _
      rw [ih st', hturn.e', hturn.response']
      rfl
    · rw [heq]
      rfl

theorem appends_writeResults (e : Bool) (results : List WriteResult) :
    Appends resLen (putWriteResults e resLen results) (results.flatMap (writeResultBytes e)) := by
  induction results with
  | nil =>
    intro w _
    simp [putWriteResults, Writer.append]
  | cons res results ih => exact (appends_writeResult e res).comp ih

theorem stays_writeResults (e : Bool) (results : List WriteResult) :
    Stays resLen (putWriteResults e resLen results) := by
  induction results with
  | nil => exact fun w => le_max_left _ _
  | cons res results ih => exact (stays_writeResult e res).comp ih

theorem writeResults_length (e : Bool) (results : List WriteResult) :
    (results.flatMap (writeResultBytes e)).length = writeResultSize * results.length := by
  induction results with
  | nil => rfl
  | cons res results ih =>
    rw [List.flatMap_cons, List.length_append, ih, writeResultBytes_length, List.length_cons,
      Nat.mul_succ, Nat.add_comm]

/-! ## The answer -/

/-- The first block of the request is the header of a multiple write. -/
def IsMultiple (start : Reader) : Prop :=
  ∃ q, ownHeader start = some q ∧ q.index = PF_IDX_AR_WRITE_MULTIPLE

/-- The state in which the loop begins. -/
def multiStart (q : WriteRequest) (stat : PnetResult) (start : Reader) (resLen : ℕ)
    (response : Writer) : MultiState where
  request := clearedWriteRequest
  result := clearedWriteResult
  reader := { start with pos := start.pos + (blockHeaderSize + writeRequestSize) }
  killSession := false
  ret := true
  response := putWriteResult start.info.isBigEndian
    { takeOver q clearedWriteResult with pnioStatus := stat.pnioStatus } resLen response

/-- The status and the NDR header, at first. -/
def beginAnswer (ndr : NdrData) (stat : PnetResult) (start : Reader) (resLen : ℕ) (w : Writer) :
    Writer :=
  putNdr start.info.isBigEndian ndr resLen
    (putPnetStatus start.info.isBigEndian stat.pnioStatus resLen w)

theorem rmWriteInd_multiple {start : Reader} (ndr : NdrData) (fuel : ℕ) (response : Writer)
    (hq : ownHeader start = some q) (hidx : q.index = PF_IDX_AR_WRITE_MULTIPLE) :
    let w := beginAnswer ndr stat start resLen response
    let x := multiWrites net env resLen fuel (multiStart q stat start resLen w)
    let checked := if x.2.1.ret && x.2.1.reader.pos = x.2.1.reader.info.len then
        checkConsumed ndr.argsLength start.pos x.2.1.reader stat
      else (false, stat)
    rmWriteInd net env fuel ndr stat start resLen response =
      ⟨x.1, x.2.2, checked.1, checked.2, x.2.1.killSession, x.2.1.reader, w.pos,
        fixupWrite x.2.1.reader.info.isBigEndian ndr checked.2 response.pos
          (putPnetStatus start.info.isBigEndian stat.pnioStatus resLen response).pos w.pos resLen
          x.2.1.response⟩ := by
  rcases interpretWrite_own hq clearedWriteRequest stat with ⟨hok, heq⟩
  unfold rmWriteInd
  rw [heq]
  dsimp only
  rw [if_pos hok, if_neg (by decide), Option.getD_some, if_pos hidx]
  rfl

def ndrBytes (e : Bool) (ndr : NdrData) : List Byte :=
  bytes32 e ndr.argsLength ++ bytes32 e ndr.maximumCount ++ bytes32 e ndr.offset ++
    bytes32 e ndr.actualCount

theorem ndrBytes_length (e : Bool) (ndr : NdrData) : (ndrBytes e ndr).length = 16 := by
  simp [ndrBytes]

theorem appends_ndr (e : Bool) (ndr : NdrData) :
    Appends resLen (putNdr e ndr resLen) (ndrBytes e ndr) :=
  (((appends_uint32 e _).comp (appends_uint32 e _)).comp (appends_uint32 e _)).comp
    (appends_uint32 e _)

theorem appendsBelow_ndr (e : Bool) (ndr : NdrData) :
    AppendsBelow resLen (putNdr e ndr resLen) (ndrBytes e ndr) :=
  (((appendsBelow_uint32 e _).comp (appendsBelow_uint32 e _)).comp (appendsBelow_uint32 e _)).comp
    (appendsBelow_uint32 e _)

/-- The result blocks begin 20 bytes behind, when there is room for them. -/
theorem beginAnswer_eq {start : Reader} {ndr : NdrData} {w : Writer}
    (h : (beginAnswer ndr stat start resLen w).pos < resLen ∨ w.pos + 20 ≤ resLen) :
    (beginAnswer ndr stat start resLen w).pos = w.pos + 20 ∧
      (putPnetStatus start.info.isBigEndian stat.pnioStatus resLen w).pos = w.pos + 4 := by
  unfold beginAnswer at h ⊢
  generalize start.info.isBigEndian = e at h ⊢
  have hstatus := @appends_uint32 resLen e (join4 stat.pnioStatus.errorCode
    stat.pnioStatus.errorDecode stat.pnioStatus.errorCode1 stat.pnioStatus.errorCode2) w
  have hstatus' := @appendsBelow_uint32 resLen e (join4 stat.pnioStatus.errorCode
    stat.pnioStatus.errorDecode stat.pnioStatus.errorCode1 stat.pnioStatus.errorCode2) w
  change _ → putPnetStatus e stat.pnioStatus resLen w = _ at hstatus
  change (putPnetStatus e stat.pnioStatus resLen w).pos < resLen →
    putPnetStatus e stat.pnioStatus resLen w = _ at hstatus'
  generalize putPnetStatus e stat.pnioStatus resLen w = w₁ at h hstatus hstatus' ⊢
  have happended : w₁.pos = w.pos + 4 ∧ (putNdr e ndr resLen w₁).pos = w₁.pos + 16 := by
    rcases h with h | h
    · have hndr := appendsBelow_ndr e ndr w₁ h
      rw [hndr, Writer.append, ndrBytes_length] at h ⊢
      have hw₁ := hstatus' (lt_of_le_of_lt (Nat.le_add_right _ _) h)
      refine ⟨?_, rfl⟩
      rw [hw₁, Writer.append, bytes32_length]
    · have hw₁ := hstatus (by rw [bytes32_length]; omega)
      have hpos : w₁.pos = w.pos + 4 := by rw [hw₁, Writer.append, bytes32_length]
      have hndr := @appends_ndr resLen e ndr w₁ (by rw [ndrBytes_length]; omega)
      refine ⟨hpos, ?_⟩
      rw [hndr, Writer.append, ndrBytes_length]
  omega

/-- The last corrections leave the result blocks as they are. -/
theorem fixupWrite_blocks {e : Bool} {ndr : NdrData} {w : Writer}
    {statusPos hdrPos resStart n : ℕ} (hstatus : statusPos + 4 ≤ resStart)
    (hhdr : hdrPos + 16 ≤ resStart) (hroom : resStart ≤ resLen) :
    Buffer.slice (fixupWrite e ndr stat statusPos hdrPos resStart resLen w).bytes resStart n =
      Buffer.slice w.bytes resStart n := by
  unfold fixupWrite putPnetStatus
  dsimp only
  rw [appends_ndr e _ ⟨w.bytes, hdrPos⟩ (by rw [ndrBytes_length]; show hdrPos + 16 ≤ _; omega),
    appends_uint32 e _ ⟨_, statusPos⟩ (by rw [bytes32_length]; show statusPos + 4 ≤ _; omega)]
  unfold Writer.append
  dsimp only
  rw [Buffer.slice_write_disjoint (by rw [bytes32_length]; omega),
    Buffer.slice_write_disjoint (by rw [ndrBytes_length]; omega)]

theorem multiWrites_len (fuel : ℕ) (st : MultiState) :
    (multiWrites net env resLen fuel st).2.1.reader.info.len = st.reader.info.len := by
  induction fuel generalizing st with
  | zero => rfl
  | succ fuel ih =>
    rcases multiWrites_succ net env resLen fuel st with ⟨w, st', hturn, heq⟩ | ⟨r, heq, hend⟩
    · rw [heq]
      exact (ih st').trans hturn.len'
    · rw [heq]
      rcases hend with ⟨rfl, -⟩ | ⟨-, rfl, -⟩
      · rfl
      · exact (interpretWrite_info st.request noError st.reader).1

theorem multiWrites_accepted (fuel : ℕ) (st : MultiState) :
    ∀ w ∈ (multiWrites net env resLen fuel st).1,
      w.written.ok = true ↔ w.Accepted net env := by
  induction fuel generalizing st with
  | zero =>
    intro w hw
    cases hw
  | succ fuel ih =>
    rcases multiWrites_succ net env resLen fuel st with ⟨w, st', hturn, heq⟩ | ⟨r, heq, -⟩
    · rw [heq, List.forall_mem_cons]
      refine ⟨?_, ih st'⟩
      rw [hturn.ok]
      rfl
    · rw [heq]
      intro w hw
      cases hw

/-- The overall status is negative when it has been before, and when the request has been taken
as a whole without being the one announced. -/
theorem checked_iff {ndr : NdrData} {start : Reader} {ok : Bool}
    (h : ok = true → r.pos = start.info.len) :
    (if ok then checkConsumed ndr.argsLength start.pos r stat
        else (false, stat)).2.pnioStatus.errorCode = PNET_ERROR_CODE_NOERROR ↔
      stat.pnioStatus.errorCode = PNET_ERROR_CODE_NOERROR ∧
        (ok = true → Consumed ndr start r) := by
  cases ok with
  | false => simp
  | true =>
    have hpos := h rfl
    have hcode : PNET_ERROR_CODE_WRITE ≠ PNET_ERROR_CODE_NOERROR := by decide
    rw [if_pos rfl]
    unfold checkConsumed Consumed
    by_cases hparse : r.info.result = .PF_PARSE_OK
    · by_cases hargs : BitVec.ofInt 32 ((r.pos : ℤ) - start.pos) = ndr.argsLength
      · rw [if_pos hparse, if_neg (not_not_intro hargs)]
        simp [hpos, hparse, hpos ▸ hargs]
      · rw [if_pos hparse, if_pos hargs]
        simp [setError, hcode, hargs]
    · rw [if_neg hparse]
      simp [setError, hcode, hparse]

/-- What the overall status tells about orderly writes. -/
theorem overall_iff {ndr : NdrData} {start : Reader} (fuel : ℕ) (st : MultiState)
    (hstart : st.reader.info = start.info) (hret : st.ret = true)
    (hlen : start.info.len ≤ PNET_MAX_SESSION_BUFFER_SIZE)
    (hzero : st.result.pnioStatus = noError.pnioStatus)
    (hparse : start.info.result = .PF_PARSE_OK)
    (horderly : Orderly net env (multiWrites net env resLen fuel st).1)
    (hreturned : (multiWrites net env resLen fuel st).2.2 = true) :
    let x := multiWrites net env resLen fuel st
    ((if x.2.1.ret && x.2.1.reader.pos = x.2.1.reader.info.len then
          checkConsumed ndr.argsLength start.pos x.2.1.reader stat
        else (false, stat)).2.pnioStatus.errorCode = PNET_ERROR_CODE_NOERROR ↔
      (∀ w ∈ x.1, w.written.ok = true) ∧ Consumed ndr start x.2.1.reader) ↔
    if stat.pnioStatus.errorCode = PNET_ERROR_CODE_NOERROR then
      (∀ w ∈ x.1, w.Accepted net env) ∧ endOf st.reader.pos x.1 = start.info.len
    else
      ¬ ((∀ w ∈ x.1, w.Accepted net env) ∧ endOf st.reader.pos x.1 = start.info.len ∧
        BitVec.ofInt 32 ((start.info.len : ℤ) - start.pos) = ndr.argsLength) := by
  have hlast := @multiWrites_len resLen net env fuel st
  have hacc : (∀ w ∈ (multiWrites net env resLen fuel st).1, w.written.ok = true) ↔
      ∀ w ∈ (multiWrites net env resLen fuel st).1, w.Accepted net env :=
    forall₂_congr (multiWrites_accepted fuel st)
  have hrefused := (multiWrites_ret fuel st horderly).2
  have hend := multiWrites_end fuel st (by rw [hstart]; exact hlen) hzero
    (by rw [hstart]; exact hparse) horderly
  rw [hstart] at hlast hend
  generalize multiWrites net env resLen fuel st = x at *
  rcases x with ⟨ws, st', returned⟩
  dsimp only at *
  rw [hlast, checked_iff (by simp), hacc]
  by_cases hall : ∀ w ∈ ws, w.Accepted net env
  · rcases hend hall hreturned with ⟨hret', -, hpos⟩
    rw [hret' hret, Bool.true_and, decide_eq_true_eq]
    -- the flag tells whether the loop has ended at the end of the request
    have hat : st'.reader.pos = start.info.len ↔ endOf st.reader.pos ws = start.info.len := by
      rcases hpos with ⟨hpos, -⟩ | ⟨hbefore, hpos⟩
      · rw [hpos]
      · exact iff_of_false (by omega) (by omega)
    have hconsumed : Consumed ndr start st'.reader ↔ endOf st.reader.pos ws = start.info.len ∧
        BitVec.ofInt 32 ((start.info.len : ℤ) - start.pos) = ndr.argsLength := by
      unfold Consumed
      rw [hat]
      apply and_congr_right
      intro hfull
      rw [hat.mpr hfull]
      rcases hpos with ⟨-, hok⟩ | ⟨hbefore, -⟩
      · exact and_iff_right hok
      · omega
    rw [hat, hconsumed]
    split
    · rename_i hcode
      constructor
      · intro h
        refine ⟨hall, ?_⟩
        by_contra hfull
        exact hfull (h.mp ⟨hcode, fun hno => absurd hno hfull⟩).2.1
      · rintro ⟨-, hfull⟩
        exact ⟨fun h => ⟨hall, h.2 hfull⟩, fun h => ⟨hcode, fun _ => h.2⟩⟩
    · rename_i hcode
      exact iff_false_left fun h => hcode h.1
  · rw [hrefused hall, Bool.false_and]
    split
    · rename_i hcode
      -- the failure does not show
      constructor
      · intro h
        exact absurd (h.mp ⟨hcode, fun hno => by cases hno⟩).1 hall
      · intro h
        exact absurd h.1 hall
    · rename_i hcode
      exact iff_of_true (iff_of_false (fun h => hcode h.1) fun h => hall h.1) fun h => hall h.1

/-- The answer has its blocks when there is room for them. -/
theorem blocks_iff {ndr : NdrData} {start : Reader} {stat' : PnetResult} {e' : Bool}
    (results : List WriteResult) (first : WriteResult) (response : Writer) :
    let w := beginAnswer ndr stat start resLen response
    let e := start.info.isBigEndian
    let blocks := putWriteResults e resLen results (putWriteResult e first resLen w)
    let answer := fixupWrite e' ndr stat' response.pos
      (putPnetStatus e stat.pnioStatus resLen response).pos w.pos resLen blocks
    (∃ first, answer.pos = w.pos + writeResultSize * (results.length + 1) ∧
        Buffer.slice answer.bytes w.pos (writeResultSize * (results.length + 1)) =
          (first :: results).flatMap (writeResultBytes e)) ↔
      response.pos + 20 + writeResultSize * (results.length + 1) ≤ resLen := by
  intro w e blocks answer
  have hmany : blocks = putWriteResults e resLen (first :: results) w := rfl
  have hw : (beginAnswer ndr stat start resLen response).pos = w.pos := rfl
  have hsize : 0 < writeResultSize := by decide
  constructor
  · rintro ⟨-, hpos, -⟩
    have hstays := @stays_writeResults resLen e (first :: results) w
    rw [← hmany] at hstays
    have hpos' : blocks.pos = w.pos + writeResultSize * (results.length + 1) := hpos
    have hone : writeResultSize ≤ writeResultSize * (results.length + 1) :=
      Nat.le_mul_of_pos_right _ (Nat.succ_pos _)
    have hroom : w.pos + writeResultSize * (results.length + 1) ≤ resLen := by omega
    have hbegin := @beginAnswer_eq resLen stat start ndr response (.inl (by omega))
    rw [← hbegin.1]
    exact hroom
  · intro hroom
    rcases @beginAnswer_eq resLen stat start ndr response (.inr (by omega)) with ⟨hbegin, hstatus⟩
    have hlength := writeResults_length e (first :: results)
    rw [List.length_cons] at hlength
    have happends := @appends_writeResults resLen e (first :: results) w (by
      rw [hlength]
      omega)
    refine ⟨first, ?_, ?_⟩
    · show blocks.pos = _
      rw [hmany, happends, Writer.append, hlength]
    · show Buffer.slice (fixupWrite e' ndr stat' response.pos _ w.pos resLen blocks).bytes _ _ = _
      rw [fixupWrite_blocks (by omega) (by rw [hstatus]; omega) (by omega), hmany, happends,
        Writer.append, ← hlength]
      exact Buffer.slice_write_self _ _ _

/-- A multiple write is answered truthfully when its writes are orderly, the response has room
for their blocks, and either the receipt of the request has been faultless, all writes are
accepted and their records fill the request, or it has not and they do not. -/
theorem truthful_iff (net : Net) (env : WriteEnv) (ndr : NdrData) (stat : PnetResult)
    (start : Reader) (resLen : ℕ) (response : Writer) (hmultiple : IsMultiple start)
    (hlen : start.info.len ≤ PNET_MAX_SESSION_BUFFER_SIZE) :
    let o := rmWriteInd net env (start.info.len + 1) ndr stat start resLen response
    Truthful ndr start o ↔
      Orderly net env o.performed ∧
        response.pos + 20 + writeResultSize * (o.performed.length + 1) ≤ resLen ∧
        if stat.pnioStatus.errorCode = PNET_ERROR_CODE_NOERROR then
          (∀ w ∈ o.performed, w.Accepted net env) ∧
            endOf (start.pos + (blockHeaderSize + writeRequestSize)) o.performed = start.info.len
        else
          ¬ ((∀ w ∈ o.performed, w.Accepted net env) ∧
            endOf (start.pos + (blockHeaderSize + writeRequestSize)) o.performed =
              start.info.len ∧
            BitVec.ofInt 32 ((start.info.len : ℤ) - start.pos) = ndr.argsLength) := by
  rcases hmultiple with ⟨q, hq, hidx⟩
  have hparse := (interpretWrite_own hq clearedWriteRequest stat).1
  intro o
  have ho : o = _ := rmWriteInd_multiple ndr (start.info.len + 1) response hq hidx
  generalize hst : multiStart q stat start resLen (beginAnswer ndr stat start resLen response) = st
    at ho
  have hinfo : st.reader.info = start.info := by rw [← hst]; rfl
  have hpos : st.reader.pos = start.pos + (blockHeaderSize + writeRequestSize) := by
    rw [← hst]; rfl
  have hzero : st.result.pnioStatus = noError.pnioStatus := by rw [← hst]; rfl
  have hret : st.ret = true := by rw [← hst]; rfl
  have horder := @multiWrites_orderly_iff resLen net env (start.info.len + 1) st
    (by rw [hinfo]; exact hlen) hzero
  have hoverall := @overall_iff resLen net env stat ndr start (start.info.len + 1) st hinfo hret
    hlen hzero hparse
  have hresponse := @multiWrites_response resLen net env (start.info.len + 1) st
  have hblocks := @blocks_iff resLen stat ndr start
  have hreturned := @multiWrites_returned resLen net env (start.info.len + 1) st
  have hlength := @multiWrites_length resLen net env (start.info.len + 1) st
    (by rw [hinfo]; exact hlen)
  rw [hinfo, hpos] at horder hlength
  rw [hpos] at hoverall
  rw [hinfo] at hresponse
  generalize multiWrites net env resLen (start.info.len + 1) st = x at *
  rcases x with ⟨ws, st', returned⟩
  dsimp only at *
  rw [ho]
  dsimp only
  have hst' : st.response = putWriteResult start.info.isBigEndian
      { takeOver q clearedWriteResult with pnioStatus := stat.pnioStatus } resLen
      (beginAnswer ndr stat start resLen response) := by rw [← hst]; rfl
  rw [hst'] at hresponse
  have hcount : (ws.map fun w => w.written.result).length = ws.length := List.length_map _
  constructor
  · intro h
    have horderly := horder.mp ⟨h.order, h.named⟩
    refine ⟨horderly, ?_, (hoverall horderly h.returned).mp h.overall⟩
    have hroom := h.blocks
    dsimp only at hroom
    rw [hresponse, ← hcount] at hroom
    rw [← hcount]
    exact (hblocks _ _ _).mp hroom
  · rintro ⟨horderly, hroom, hfinal⟩
    have hret' : returned = true := by
      apply hreturned
      rcases hlength horderly with hnil | hle
      · rw [hnil]
        exact Nat.succ_pos _
      · have hsize : writeResultSize = 64 := rfl
        rw [hsize] at hle
        omega
    rcases horder.mpr horderly with ⟨hin, hnamed⟩
    constructor
    · exact hret'
    · exact hin
    · exact hnamed
    · dsimp only
      rw [hresponse, ← hcount]
      rw [← hcount] at hroom
      exact (hblocks _ _ _).mpr hroom
    · exact (hoverall horderly hret').mpr hfinal

/-! ## An example -/

/-- A multiple write of one empty record. -/
def oneRecord : Reader :=
  requestOf (writeHeaderBytes PF_IDX_AR_WRITE_MULTIPLE 64 ++ writeHeaderBytes 1 0)

def oneRecordNdr : NdrData := ⟨1000, 128, 1000, 0, 128⟩

/-- Behind the RPC header. -/
def emptyResponse : Writer := ⟨fun _ => 0, 80⟩

def refusingEnv : WriteEnv := { acceptingEnv with answer := fun _ stat => (-1, stat) }

theorem oneRecord_isMultiple : IsMultiple oneRecord := by
  have hheader : ownHeader oneRecord = some ⟨1, ⟨1, 2, 3, Vector.replicate 8 4⟩, 0, 0,
      0x8001, PF_IDX_AR_WRITE_MULTIPLE, 64⟩ := by
    decide +kernel
  exact ⟨_, hheader, rfl⟩

theorem oneRecord_len : oneRecord.info.len ≤ PNET_MAX_SESSION_BUFFER_SIZE := by
  decide +kernel

/-- The record is written. -/
theorem truthful_iff_oneRecord :
    IsMultiple oneRecord ∧ oneRecord.info.len ≤ PNET_MAX_SESSION_BUFFER_SIZE ∧
      let o := rmWriteInd writableNet acceptingEnv (oneRecord.info.len + 1) oneRecordNdr noError
        oneRecord 1000 emptyResponse
      Truthful oneRecordNdr oneRecord o ↔
        Orderly writableNet acceptingEnv o.performed ∧
          emptyResponse.pos + 20 + writeResultSize * (o.performed.length + 1) ≤ 1000 ∧
          if noError.pnioStatus.errorCode = PNET_ERROR_CODE_NOERROR then
            (∀ w ∈ o.performed, w.Accepted writableNet acceptingEnv) ∧
              endOf (oneRecord.pos + (blockHeaderSize + writeRequestSize)) o.performed =
                oneRecord.info.len
          else
            ¬ ((∀ w ∈ o.performed, w.Accepted writableNet acceptingEnv) ∧
              endOf (oneRecord.pos + (blockHeaderSize + writeRequestSize)) o.performed =
                oneRecord.info.len ∧
              BitVec.ofInt 32 ((oneRecord.info.len : ℤ) - oneRecord.pos) =
                oneRecordNdr.argsLength) :=
  ⟨oneRecord_isMultiple, oneRecord_len,
    truthful_iff writableNet acceptingEnv oneRecordNdr noError oneRecord 1000 emptyResponse
      oneRecord_isMultiple oneRecord_len⟩

/-- The application refuses the record, and the overall status is positive. -/
theorem not_truthful_refused :
    IsMultiple oneRecord ∧
      ¬ Truthful oneRecordNdr oneRecord
        (rmWriteInd writableNet refusingEnv (oneRecord.info.len + 1) oneRecordNdr noError
          oneRecord 1000 emptyResponse) := by
  refine ⟨oneRecord_isMultiple, ?_⟩
  intro h
  have hstatus : (rmWriteInd writableNet refusingEnv (oneRecord.info.len + 1) oneRecordNdr noError
      oneRecord 1000 emptyResponse).rpcResult.pnioStatus.errorCode =
      PNET_ERROR_CODE_NOERROR := by
    decide +kernel
  have hrefused : (rmWriteInd writableNet refusingEnv (oneRecord.info.len + 1) oneRecordNdr noError
      oneRecord 1000 emptyResponse).performed.map (fun w => w.written.ok) = [false] := by
    decide +kernel
  rcases List.map_eq_singleton_iff.mp hrefused with ⟨w, hw, hok⟩
  have hall := (h.overall.mp hstatus).1 w (by rw [hw]; exact List.mem_singleton_self w)
  rw [hok] at hall
  cases hall

end PNet.Rpc
