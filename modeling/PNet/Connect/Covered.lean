import Mathlib.Data.List.TakeWhile
import PNet.Connect.Filed
import PNet.Rpc.ControlBlocks

/-! # Requests cover their arguments

The loops that go through the blocks of a connect request, of a release, of a DControl request and of the
answer to a CControl, each of them over all bytes that can arrive.

* `readBlock_spec` - a block of a connect request that is accepted has the length that it says, but for
  the block of the AR
* `requests_covered_iff` - when the loop does what it should
-/

namespace PNet.Connect

open Block Rpc

/-! ## The getters of a connect request -/

theorem scans_getTimes {α : Type} {g : Get α} (hg : Scans g) (n : ℕ) : Scans (getTimes g n) := by
  induction n with
  | zero => exact Scans.pure _
  | succ n ih => exact hg.bind fun v => ih.map _

theorem scans_getBytes (n : ℕ) : Scans (getBytes n) := by
  apply @scans_copy _ _ n none (fun buf p => some (Buffer.slice buf p n)) (moves_getBytes n)
  · intro r hbad
    exact if_pos hbad
  · intro r hok hlen
    exact (if_neg (not_not_intro hok)).trans (if_pos hlen)
  · intro r hok hlen
    exact (if_neg (not_not_intro hok)).trans (if_neg hlen)
  · intro r buf hsame
    exact congrArg some (Buffer.slice_congr hsame)

theorem scans_failWith {e : GetResult} (he : e ≠ .PF_PARSE_OK) : Scans (failWith e) :=
  ⟨moves_failWith he, fun _ => rfl, fun _ _ _ => rfl⟩

theorem scans_arParam (dest : ArParam) : Scans (getArParam dest) :=
  scans_uint16.bind fun _ => (scans_uuid _).bind fun _ => scans_uint16.bind fun _ =>
    (scans_mem _).bind fun _ => (scans_uuid _).bind fun _ => scans_uint32.bind fun _ =>
    scans_uint16.bind fun _ => scans_uint16.bind fun _ => scans_uint16.bind fun _ =>
    (scans_getBytes _).map _

theorem scans_frameDescriptor : Scans getFrameDescriptor :=
  scans_uint16.bind fun _ => scans_uint16.bind fun _ => scans_uint16.map _

theorem scans_iocrApiEntry : Scans getIocrApiEntry :=
  scans_uint32.bind fun _ => scans_uint16.bind fun _ =>
    (scans_getTimes scans_frameDescriptor _).bind fun _ => scans_uint16.bind fun _ =>
    (scans_getTimes scans_frameDescriptor _).map _

theorem scans_iocrFixed : Scans getIocrFixed :=
  scans_uint16.bind fun _ => scans_uint16.bind fun _ => scans_uint16.bind fun _ =>
    scans_uint32.bind fun _ => scans_uint16.bind fun _ => scans_uint16.bind fun _ =>
    scans_uint16.bind fun _ => scans_uint16.bind fun _ => scans_uint16.bind fun _ =>
    scans_uint16.bind fun _ => scans_uint32.bind fun _ => scans_uint16.bind fun _ =>
    scans_uint16.bind fun _ => scans_uint16.bind fun _ => (scans_mem _).bind fun _ =>
    scans_uint16.map _

theorem scans_iocrParam : Scans getIocrParam :=
  scans_iocrFixed.bind fun _ => (scans_getTimes scans_iocrApiEntry _).map _

theorem scans_dataDescriptor : Scans getDataDescriptor :=
  scans_uint16.bind fun _ => scans_uint16.bind fun _ => scans_byte.bind fun _ => scans_byte.map _

theorem scans_expSubmodule : Scans getExpSubmodule := by
  refine scans_uint16.bind fun subslotNumber => scans_uint32.bind fun ident =>
    scans_uint16.bind fun properties => scans_dataDescriptor.bind fun first => ?_
  split
  · exact scans_dataDescriptor.map _
  · exact Scans.pure _

theorem scans_expModule (slotNumber : BitVec 16) : Scans (getExpModule slotNumber) :=
  (scans_uint32.bind fun _ => scans_uint16.bind fun _ => scans_uint16.map _).bind fun _ =>
    (scans_getTimes scans_expSubmodule _).map _

theorem scans_expEntry (st : ExpState) : Scans (getExpEntry st) := by
  refine scans_uint32.bind fun api => ?_
  generalize placeExpApi st api = placed
  rcases placed with ⟨expApis, _ | i⟩
  · exact (scans_failWith (by simp)).bind fun _ => Scans.pure _
  · refine scans_uint16.bind fun slotNumber => ?_
    dsimp only
    split
    · exact (scans_expModule slotNumber).map _
    · exact (scans_failWith (by simp)).bind fun _ => Scans.pure _

theorem scans_expEntries (n : ℕ) (st : ExpState) : Scans (getExpEntries n st) := by
  induction n generalizing st with
  | zero => exact Scans.pure _
  | succ n ih => exact (scans_expEntry st).bind fun st' => ih st'

theorem scans_expApiModule (expApis : List ExpApi) : Scans (getExpApiModule expApis) :=
  scans_uint16.bind fun _ => (scans_expEntries _ _).map _

theorem scans_alarmCrRequest : Scans getAlarmCrRequest :=
  scans_uint16.bind fun _ => scans_uint16.bind fun _ => scans_uint32.bind fun _ =>
    scans_uint16.bind fun _ => scans_uint16.bind fun _ => scans_uint16.bind fun _ =>
    scans_uint16.bind fun _ => scans_uint16.bind fun _ => scans_uint16.map _

theorem scans_arPrmServerRequest : Scans getArPrmServerRequest :=
  (scans_uuid _).bind fun _ => scans_uint32.bind fun _ => scans_uint16.bind fun _ =>
    scans_uint16.bind fun _ => (scans_getBytes _).map _

theorem scans_mcrRequest : Scans getMcrRequest :=
  scans_uint16.bind fun _ => scans_byte.bind fun _ => scans_byte.bind fun _ =>
    scans_uint16.bind fun _ => scans_uint16.bind fun _ => (scans_getBytes _).map _

theorem scans_arVendorRequest : Scans getArVendorRequest :=
  scans_uint32.bind fun _ => scans_uint32.bind fun _ => scans_uint16.bind fun _ =>
    (scans_getBytes _).map _

theorem scans_dfpIocr : Scans getDfpIocr :=
  scans_uint16.bind fun _ => scans_uint16.bind fun _ => scans_byte.bind fun _ => scans_byte.map _

theorem scans_irInfoRequest : Scans getIrInfoRequest :=
  (scans_uuid _).bind fun _ => scans_uint16.bind fun _ => (scans_getTimes scans_dfpIocr _).map _

/-! ## Blocks -/

/-- The same loop over other bytes. -/
def ConnectState.withBuf (st : ConnectState) (buf : ℕ → Byte) : ConnectState :=
  { st with reader := st.reader.withBuf buf }

/-- A block is what a getter makes of it, and nothing else of the bytes. -/
def ScansBlock (f : ConnectState → ConnectState) : Prop :=
  ∀ st, ∃ (α : Type) (g : Get α), Scans g ∧ (f st).reader = (g st.reader).2 ∧
    ∀ buf, g (st.reader.withBuf buf) = ((g st.reader).1, (g st.reader).2.withBuf buf) →
      f (st.withBuf buf) = (f st).withBuf buf

theorem checkBlockHeader_reader (st : ConnectState) (blockLength : BitVec 16) (header : BlockHeader)
    (errCode1 : Byte) (count : AskedAr → AskedAr) :
    (st.checkBlockHeader blockLength header errCode1 count).reader = st.reader := by
  unfold ConnectState.checkBlockHeader
  split
  · rfl
  split
  · rfl
  split
  · rfl
  · rfl

theorem checkBlockHeader_withBuf (st : ConnectState) (blockLength : BitVec 16)
    (header : BlockHeader) (errCode1 : Byte) (count : AskedAr → AskedAr) (buf : ℕ → Byte) :
    (st.withBuf buf).checkBlockHeader blockLength header errCode1 count =
      (st.checkBlockHeader blockLength header errCode1 count).withBuf buf := by
  unfold ConnectState.checkBlockHeader
  split
  · rfl
  split
  · rfl
  split
  · rfl
  · rfl

theorem closeBlock_reader (st : ConnectState) (dataPos : ℕ) (header : BlockHeader)
    (errCode1 : Byte) (count : AskedAr → AskedAr) :
    (st.closeBlock dataPos header errCode1 count).reader = st.reader := by
  unfold ConnectState.closeBlock
  split
  · rfl
  · exact checkBlockHeader_reader ..

theorem closeBlock_withBuf (st : ConnectState) (dataPos : ℕ) (header : BlockHeader)
    (errCode1 : Byte) (count : AskedAr → AskedAr) (buf : ℕ → Byte) :
    (st.withBuf buf).closeBlock dataPos header errCode1 count =
      (st.closeBlock dataPos header errCode1 count).withBuf buf := by
  unfold ConnectState.closeBlock
  by_cases haccess : st.ar.arParam.arProperties.deviceAccess = true
  · rw [if_pos haccess]
    exact if_pos haccess
  · rw [if_neg haccess]
    exact (if_neg haccess).trans (checkBlockHeader_withBuf ..)

/-- A getter, and what the block makes of its answer. -/
theorem scansBlock_of {f : ConnectState → ConnectState}
    (h : ∀ st, ∃ (α : Type) (g : Get α) (k : ConnectState → α → Reader → ConnectState), Scans g ∧
      (∀ buf, f (st.withBuf buf) =
        k (st.withBuf buf) (g (st.reader.withBuf buf)).1 (g (st.reader.withBuf buf)).2) ∧
      (∀ v r, (k st v r).reader = r) ∧
      ∀ v r buf, k (st.withBuf buf) v (r.withBuf buf) = (k st v r).withBuf buf) :
    ScansBlock f := by
  intro st
  rcases h st with ⟨α, g, k, hg, hf, hreader, hbuf⟩
  have hst : f st = k st (g st.reader).1 (g st.reader).2 := hf st.reader.info.buf
  refine ⟨α, g, hg, ?_, ?_⟩
  · rw [hst, hreader]
  · intro buf heq
    rw [hf buf, heq, hst]
    exact hbuf ..

/-- The AR block, when it has been read. -/
def arBlock (header : BlockHeader) (st : ConnectState) (arParam : ArParam) (reader : Reader) :
    ConnectState :=
  let st := { st with ar := { st.ar with arParam }, reader }
  if st.firstBlock = false then st.refuse PNET_ERROR_CODE_1_CONN_FAULTY_AR_BLOCK_REQ 0
  else
    st.checkBlockHeader (BitVec.ofNat 16 (54 + strlen arParam.cmInitiatorStationName)) header
      PNET_ERROR_CODE_1_CONN_FAULTY_AR_BLOCK_REQ
      fun ar => { ar with nbrArParam := ar.nbrArParam + 1 }

theorem readArBlock_eq (header : BlockHeader) (st : ConnectState) : readArBlock header st =
    arBlock header st (getArParam st.ar.arParam st.reader).1
      (getArParam st.ar.arParam st.reader).2 := by
  unfold readArBlock
  generalize getArParam st.ar.arParam st.reader = out
  rfl

theorem scansBlock_ar (header : BlockHeader) : ScansBlock (readArBlock header) := by
  apply scansBlock_of
  intro st
  refine ⟨_, getArParam st.ar.arParam, arBlock header, scans_arParam _, ?_, ?_, ?_⟩
  · intro buf
    exact readArBlock_eq header (st.withBuf buf)
  · intro arParam reader
    unfold arBlock
    by_cases hfirst : st.firstBlock = false
    · rw [if_pos hfirst]
      rfl
    · rw [if_neg hfirst]
      exact checkBlockHeader_reader ..
  · intro arParam reader buf
    unfold arBlock
    by_cases hfirst : st.firstBlock = false
    · rw [if_pos hfirst]
      exact if_pos hfirst
    · rw [if_neg hfirst]
      refine (if_neg hfirst).trans ?_
      exact checkBlockHeader_withBuf
        { st with ar := { st.ar with arParam }, reader } _ _ _ _ _

theorem readPlainBlock_eq {α : Type} (get : Get α) (put : α → AskedAr → AskedAr) (errCode1 : Byte)
    (count : AskedAr → AskedAr) (header : BlockHeader) (st : ConnectState) :
    readPlainBlock get put errCode1 count header st =
      ConnectState.closeBlock
        { st with ar := put (get st.reader).1 st.ar, reader := (get st.reader).2 } st.reader.pos header
        errCode1 count := by
  unfold readPlainBlock
  generalize get st.reader = out
  rfl

theorem scansBlock_plain {α : Type} {get : Get α} (hget : Scans get) (put : α → AskedAr → AskedAr)
    (errCode1 : Byte) (count : AskedAr → AskedAr) (header : BlockHeader) :
    ScansBlock (readPlainBlock get put errCode1 count header) := by
  apply scansBlock_of
  intro st
  refine ⟨_, get, fun st v reader => ConnectState.closeBlock { st with ar := put v st.ar, reader }
    st.reader.pos header errCode1 count, hget, ?_, ?_, ?_⟩
  · intro buf
    exact readPlainBlock_eq get put errCode1 count header (st.withBuf buf)
  · intro v reader
    exact closeBlock_reader ..
  · intro v reader buf
    exact closeBlock_withBuf { st with ar := put v st.ar, reader } _ _ _ _ _

/-- A block that is refused unread. -/
theorem scansBlock_refuse (code1 code2 : Byte) :
    ScansBlock fun st => st.refuse code1 code2 :=
  fun _ => ⟨_, pure (), Scans.pure (), rfl, fun _ _ => rfl⟩

theorem readIocrBlock_eq {header : BlockHeader} {st : ConnectState}
    (h : st.ar.nbrIocrs < PNET_MAX_CR) :
    readIocrBlock header st = ConnectState.closeBlock
      { st with
        ar := countIocr (getIocrParam st.reader).1
          { st.ar with iocrs := st.ar.iocrs ++ [(getIocrParam st.reader).1] }
        reader := (getIocrParam st.reader).2 } st.reader.pos header
      PNET_ERROR_CODE_1_CONN_FAULTY_IOCR_BLOCK_REQ
      fun ar => { ar with nbrIocrs := ar.nbrIocrs + 1 } := by
  unfold readIocrBlock
  rw [if_pos h]
  generalize getIocrParam st.reader = out
  rfl

theorem scansBlock_iocr (header : BlockHeader) : ScansBlock (readIocrBlock header) := by
  apply scansBlock_of
  intro st
  by_cases hroom : st.ar.nbrIocrs < PNET_MAX_CR
  · refine ⟨_, getIocrParam, fun st v reader => ConnectState.closeBlock
      { st with ar := countIocr v { st.ar with iocrs := st.ar.iocrs ++ [v] }, reader } st.reader.pos
      header PNET_ERROR_CODE_1_CONN_FAULTY_IOCR_BLOCK_REQ
      fun ar => { ar with nbrIocrs := ar.nbrIocrs + 1 }, scans_iocrParam, ?_, ?_, ?_⟩
    · intro buf
      exact @readIocrBlock_eq header (st.withBuf buf) hroom
    · intro v reader
      exact closeBlock_reader ..
    · intro v reader buf
      exact closeBlock_withBuf
        { st with ar := countIocr v { st.ar with iocrs := st.ar.iocrs ++ [v] }, reader } _ _ _ _ _
  · refine ⟨_, pure (), fun st _ reader => ConnectState.refuse { st with reader }
      PNET_ERROR_CODE_1_CMRPC PNET_ERROR_CODE_2_CMRPC_WRONG_BLOCK_COUNT, Scans.pure (), ?_, ?_, ?_⟩
    · intro buf
      exact if_neg hroom
    · intro v reader
      rfl
    · intro v reader buf
      rfl

/-- The block of the expected configuration, when it has been read. -/
def expBlock (header : BlockHeader) (st : ConnectState) (expApis : List ExpApi) (reader : Reader) :
    ConnectState :=
  let st' := { st with ar := { st.ar with expApis }, reader }
  match reader.info.result with
  | .PF_PARSE_OK =>
    st'.closeBlock st.reader.pos header PNET_ERROR_CODE_1_CONN_FAULTY_EXP_BLOCK_REQ id
  | .PF_PARSE_END_OF_INPUT | .PF_PARSE_OUT_OF_API_RESOURCES
  | .PF_PARSE_OUT_OF_EXP_SUBMODULE_RESOURCES =>
    st'.refuse PNET_ERROR_CODE_1_CMRPC PNET_ERROR_CODE_2_CMRPC_OUT_OF_MEMORY
  | .PF_PARSE_NULL_POINTER | .PF_PARSE_ERROR =>
    st'.refuse PNET_ERROR_CODE_1_CMRPC PNET_ERROR_CODE_2_CMRPC_UNKNOWN_BLOCKS

theorem readExpBlock_eq (header : BlockHeader) (st : ConnectState) : readExpBlock header st =
    expBlock header st (getExpApiModule st.ar.expApis st.reader).1
      (getExpApiModule st.ar.expApis st.reader).2 := by
  unfold readExpBlock
  generalize getExpApiModule st.ar.expApis st.reader = out
  rcases out with ⟨expApis, ⟨⟨result, e, bytes, len⟩, pos⟩⟩
  cases result
  all_goals rfl

theorem scansBlock_exp (header : BlockHeader) : ScansBlock (readExpBlock header) := by
  apply scansBlock_of
  intro st
  refine ⟨_, getExpApiModule st.ar.expApis, expBlock header, scans_expApiModule _, ?_, ?_, ?_⟩
  · intro buf
    exact readExpBlock_eq header (st.withBuf buf)
  · rintro expApis ⟨⟨result, e, bytes, len⟩, pos⟩
    cases result with
    | PF_PARSE_OK => exact closeBlock_reader ..
    | _ => rfl
  · rintro expApis ⟨⟨result, e, bytes, len⟩, pos⟩ buf
    cases result with
    | PF_PARSE_OK => exact closeBlock_withBuf { st with ar := { st.ar with expApis }, reader := _ } _ _ _ _ _
    | _ => rfl

theorem scansBlock_if {p : Prop} [Decidable p] {f g : ConnectState → ConnectState}
    (hf : ScansBlock f) (hg : ScansBlock g) : ScansBlock fun st => if p then f st else g st := by
  by_cases hp : p
  · simp only [if_pos hp]
    exact hf
  · simp only [if_neg hp]
    exact hg

theorem scansBlock_readBlock (header : BlockHeader) : ScansBlock (readBlock header) :=
  scansBlock_if (scansBlock_ar header) <| scansBlock_if (scansBlock_iocr header) <|
    scansBlock_if (scansBlock_exp header) <|
    scansBlock_if (scansBlock_plain scans_alarmCrRequest _ _ _ header) <|
    scansBlock_if (scansBlock_plain scans_arPrmServerRequest _ _ _ header) <|
    scansBlock_if (scansBlock_plain scans_mcrRequest _ _ _ header) <|
    scansBlock_if (scansBlock_plain scans_uint16 _ _ _ header) <|
    scansBlock_if (scansBlock_plain scans_arVendorRequest _ _ _ header) <|
    scansBlock_if (scansBlock_plain scans_irInfoRequest _ _ _ header) <|
    scansBlock_refuse _ _

theorem ScansBlock.moves {f : ConnectState → ConnectState} (hf : ScansBlock f) (st : ConnectState) :
    (f st).reader.info.len = st.reader.info.len ∧ st.reader.pos ≤ (f st).reader.pos ∧
      (f st).reader.pos ≤ max st.reader.pos st.reader.info.len := by
  rcases hf st with ⟨α, g, hg, hreader, -⟩
  rcases hg.moves st.reader with ⟨hlen, hforward, hinside, -⟩
  rw [hreader]
  exact ⟨hlen, hforward, hinside⟩

theorem ScansBlock.keeps {f : ConnectState → ConnectState} (hf : ScansBlock f) (st : ConnectState) :
    (f st).reader.info.buf = st.reader.info.buf := by
  rcases hf st with ⟨α, g, hg, hreader, -⟩
  rw [hreader]
  exact hg.keeps st.reader

theorem ScansBlock.only {f : ConnectState → ConnectState} (hf : ScansBlock f) {st : ConnectState}
    {buf : ℕ → Byte} (hsame : st.reader.SameFrom buf st.reader.pos (f st).reader.pos) :
    f (st.withBuf buf) = (f st).withBuf buf := by
  rcases hf st with ⟨α, g, hg, hreader, honly⟩
  rw [hreader] at hsame
  exact honly buf (hg.only st.reader buf hsame)

theorem ScansBlock.info_of_ok {f : ConnectState → ConnectState} (hf : ScansBlock f) {st : ConnectState}
    (hok : (f st).reader.info.result = .PF_PARSE_OK) : (f st).reader.info = st.reader.info := by
  rcases hf st with ⟨α, g, hg, hreader, -⟩
  rw [hreader] at hok ⊢
  exact hg.info_of_ok hok

/-! ## The length of a block -/

/-- The types that `pf_cmrpc_rm_connect_interpret_ind` knows. -/
def connectTypes : List (BitVec 16) :=
  [PF_BT_AR_BLOCK_REQ, PF_BT_IOCR_BLOCK_REQ, PF_BT_EXPECTED_SUBMODULE_BLOCK,
    PF_BT_ALARM_CR_BLOCK_REQ, PF_BT_PRM_SERVER_REQ, PF_BT_MCR_REQ, PF_BT_RPC_SERVER_REQ,
    PF_BT_AR_VENDOR_BLOCK_REQ, PF_BT_IR_INFO_BLOCK_REQ]

theorem checkBlockHeader_length {st : ConnectState} {blockLength : BitVec 16} {header : BlockHeader}
    {errCode1 : Byte} {count : AskedAr → AskedAr}
    (h : (st.checkBlockHeader blockLength header errCode1 count).ok = true) :
    header.blockLength = blockLength := by
  unfold ConnectState.checkBlockHeader at h
  by_contra hne
  rw [if_pos hne] at h
  cases h

/-- The length that has been read, with that of the version in front of it. -/
theorem closeBlock_length {st : ConnectState} {dataPos : ℕ} {header : BlockHeader} {errCode1 : Byte}
    {count : AskedAr → AskedAr} (h : (st.closeBlock dataPos header errCode1 count).ok = true) :
    header.blockLength = BitVec.ofNat 16 (st.reader.pos - dataPos + 2) := by
  unfold ConnectState.closeBlock at h
  split at h
  · cases h
  · exact checkBlockHeader_length h

/-- Without an error `g` goes past as many bytes as its answer tells. -/
structure SpendsBy {α : Type} (n : α → ℕ) (g : Get α) : Prop where
  moves : Moves g
  spends : ∀ r, (g r).2.info.result = .PF_PARSE_OK → (g r).2.pos = r.pos + n (g r).1

theorem SpendsBy.bind {α β : Type} {m : ℕ} {n : β → ℕ} {g : Get α} {f : α → Get β} (hg : Spends m g)
    (hf : ∀ v, SpendsBy n (f v)) : SpendsBy (fun v => m + n v) (g >>= f) where
  moves := hg.moves.bind fun v => (hf v).moves
  spends := by
    intro r hok
    rcases (hf (g r).1).moves (g r).2 with ⟨-, -, -, hback, -⟩
    have hfirst := hg.spends r (hback hok)
    have hthen := (hf (g r).1).spends (g r).2 hok
    show (f (g r).1 (g r).2).2.pos = _
    rw [hthen, hfirst, Nat.add_assoc]
    rfl

/-- A name at the end of a block, of which `n` bytes are stored. -/
theorem spendsBy_name {α : Type} {n : ℕ} {dest : List Byte} {name : α → List Byte}
    {put : List Byte → α} (hput : ∀ bytes, name (put bytes) = bytes) :
    SpendsBy (fun v => (name v).length) (do
      let bytes ← getBytes n
      return put ((bytes.getD dest).take n)) where
  moves := (moves_getBytes n).map _
  spends := by
    intro r hok
    change (getBytes n r).2.info.result = _ at hok
    show (getBytes n r).2.pos = r.pos + (name (put (((getBytes n r).1.getD dest).take n))).length
    rw [hput]
    unfold getBytes at hok ⊢
    split at hok
    · rename_i hbad
      exact absurd hok hbad
    · split at hok
      · cases hok
      · rename_i hbad hlen
        rw [if_neg hbad, if_neg hlen]
        simp

/-- The length of an AR block behind its header, with that of the name. -/
theorem spendsBy_arParam (dest : ArParam) :
    SpendsBy (fun v => 2 + (16 + (2 + (6 + (16 + (4 + (2 + (2 + (2 +
      v.cmInitiatorStationName.length))))))))) (getArParam dest) := by
  refine .bind spends_uint16 fun arType => .bind (spends_uuid _) fun arUuid =>
    .bind spends_uint16 fun sessionKey => .bind (spends_mem _) fun mac =>
    .bind (spends_uuid _) fun objectUuid => .bind spends_uint32 fun properties =>
    .bind spends_uint16 fun timeout => .bind spends_uint16 fun port =>
    .bind spends_uint16 fun strLen => ?_
  exact @spendsBy_name _ _ _ (fun v : ArParam => v.cmInitiatorStationName) (fun name =>
    { arType, arUuid, sessionKey, cmInitiatorMacAdd := mac, cmInitiatorObjectUuid := objectUuid
      arProperties := arPropertiesOf properties
      cmInitiatorActivityTimeoutFactor := timeout, cmInitiatorUdpRtPort := port
      cmInitiatorStationNameLen := strLen, cmInitiatorStationName := name }) fun _ => rfl

theorem strlen_eq_length_iff (name : List Byte) : strlen name = name.length ↔ 0 ∉ name := by
  unfold strlen
  constructor
  · intro h hmem
    have hall := List.takeWhile_eq_self_iff.mp
      ((List.takeWhile_prefix (p := fun b : Byte => b ≠ 0) (l := name)).eq_of_length h)
    have := hall 0 hmem
    simp at this
  · intro h
    rw [List.takeWhile_eq_self_iff.mpr]
    intro b hb
    simp only [ne_eq, decide_eq_true_eq]
    rintro rfl
    exact h hb

/-- The name that a block of a request gives to the controller. -/
def stationName (b : BlockRead) : List Byte :=
  (getArParam b.state.ar.arParam b.state.reader).1.cmInitiatorStationName

/-- A block that has been accepted: the place where it ends, told by its header. -/
structure Accepted (header : BlockHeader) (st : ConnectState) (stop : ℕ) : Prop where
  own : header.blockType ∈ connectTypes
  /-- A block that has been compared with what has been read of it. -/
  length : header.blockType ≠ PF_BT_AR_BLOCK_REQ → stop + 2 = st.reader.pos + header.blockLength.toNat
  /-- The AR block has been compared with the name up to its first zero. -/
  arLength : header.blockType = PF_BT_AR_BLOCK_REQ →
    (stop + 2 = st.reader.pos + header.blockLength.toNat ↔ 0 ∉ stationName ⟨header, st⟩)

/-- The length of a block is a `uint16_t`. -/
theorem length_of_closed {header : BlockHeader} {pos stop : ℕ} (hforward : pos ≤ stop)
    (hsmall : stop + 2 < pos + 2 ^ 16) (h : header.blockLength = BitVec.ofNat 16 (stop - pos + 2)) :
    stop + 2 = pos + header.blockLength.toNat := by
  rw [h, BitVec.toNat_ofNat, Nat.mod_eq_of_lt (by omega)]
  omega

theorem accepted_ar {header : BlockHeader} {st : ConnectState}
    (htype : header.blockType = PF_BT_AR_BLOCK_REQ) (hok : (readArBlock header st).ok = true)
    (hread : (readArBlock header st).reader.info.result = .PF_PARSE_OK)
    (hsmall : (readArBlock header st).reader.pos + 2 < st.reader.pos + 2 ^ 16) :
    Accepted header st (readArBlock header st).reader.pos where
  own := by
    rw [htype]
    simp [connectTypes]
  length := fun h => absurd htype h
  arLength := by
    intro _
    rw [readArBlock_eq] at hok hread hsmall ⊢
    have hspent := (spendsBy_arParam st.ar.arParam).spends st.reader
    unfold stationName
    dsimp only
    generalize getArParam st.ar.arParam st.reader = out at hok hread hsmall hspent ⊢
    rcases out with ⟨arParam, reader⟩
    unfold arBlock at hok hread hsmall ⊢
    by_cases hfirst : st.firstBlock = false
    · rw [if_pos hfirst] at hok
      cases hok
    · rw [if_neg hfirst] at hok hread hsmall ⊢
      rw [checkBlockHeader_reader] at hread hsmall ⊢
      have hlength := checkBlockHeader_length hok
      have hstop := hspent hread
      dsimp only at hstop hlength hsmall ⊢
      have hname : strlen arParam.cmInitiatorStationName ≤ arParam.cmInitiatorStationName.length :=
        (List.takeWhile_prefix _).length_le
      rw [← strlen_eq_length_iff, hlength, BitVec.toNat_ofNat, Nat.mod_eq_of_lt (by omega)]
      omega

theorem accepted_closed {header : BlockHeader} {st next : ConnectState} {errCode1 : Byte}
    {count : AskedAr → AskedAr} (hown : header.blockType ∈ connectTypes)
    (htype : header.blockType ≠ PF_BT_AR_BLOCK_REQ) (hforward : st.reader.pos ≤ next.reader.pos)
    (hsmall : next.reader.pos + 2 < st.reader.pos + 2 ^ 16)
    (hok : (next.closeBlock st.reader.pos header errCode1 count).ok = true) :
    Accepted header st next.reader.pos where
  own := hown
  length := fun _ => length_of_closed hforward hsmall (closeBlock_length hok)
  arLength := fun h => absurd h htype

theorem accepted_plain {α : Type} {get : Get α} {put : α → AskedAr → AskedAr} {errCode1 : Byte}
    {count : AskedAr → AskedAr} {header : BlockHeader} {st : ConnectState} (hget : Scans get)
    (hown : header.blockType ∈ connectTypes) (htype : header.blockType ≠ PF_BT_AR_BLOCK_REQ)
    (hsmall : (readPlainBlock get put errCode1 count header st).reader.pos + 2 <
      st.reader.pos + 2 ^ 16)
    (hok : (readPlainBlock get put errCode1 count header st).ok = true) :
    Accepted header st (readPlainBlock get put errCode1 count header st).reader.pos := by
  rcases hget.moves st.reader with ⟨-, hforward, -⟩
  rw [readPlainBlock_eq] at hok hsmall ⊢
  rw [closeBlock_reader] at hsmall ⊢
  exact accepted_closed hown htype hforward hsmall hok

/-- A block that has been read without an error and accepted. -/
theorem readBlock_spec {header : BlockHeader} {st : ConnectState}
    (hok : (readBlock header st).ok = true)
    (hread : (readBlock header st).reader.info.result = .PF_PARSE_OK)
    (hsmall : (readBlock header st).reader.pos + 2 < st.reader.pos + 2 ^ 16) :
    Accepted header st (readBlock header st).reader.pos := by
  have hforward := ((scansBlock_readBlock header).moves st).2.1
  unfold readBlock at hok hread hsmall hforward ⊢
  by_cases har : header.blockType = PF_BT_AR_BLOCK_REQ
  · rw [if_pos har] at hok hread hsmall ⊢
    exact accepted_ar har hok hread hsmall
  rw [if_neg har] at hok hread hsmall hforward ⊢
  by_cases hiocr : header.blockType = PF_BT_IOCR_BLOCK_REQ
  · rw [if_pos hiocr] at hok hsmall hforward ⊢
    have hown : header.blockType ∈ connectTypes := by simp [connectTypes, hiocr]
    by_cases hroom : st.ar.nbrIocrs < PNET_MAX_CR
    · rw [readIocrBlock_eq hroom] at hok hsmall hforward ⊢
      rw [closeBlock_reader] at hsmall hforward ⊢
      exact accepted_closed hown har hforward hsmall hok
    · rw [readIocrBlock, if_neg hroom] at hok
      cases hok
  rw [if_neg hiocr] at hok hread hsmall hforward ⊢
  by_cases hexp : header.blockType = PF_BT_EXPECTED_SUBMODULE_BLOCK
  · rw [if_pos hexp] at hok hread hsmall hforward ⊢
    have hown : header.blockType ∈ connectTypes := by simp [connectTypes, hexp]
    rw [readExpBlock_eq] at hok hread hsmall hforward ⊢
    generalize getExpApiModule st.ar.expApis st.reader = out at hok hread hsmall hforward ⊢
    rcases out with ⟨expApis, ⟨⟨result, e, bytes, len⟩, pos⟩⟩
    cases result with
    | PF_PARSE_OK =>
      unfold expBlock at hok hsmall hforward ⊢
      rw [closeBlock_reader] at hsmall hforward ⊢
      exact accepted_closed hown har hforward hsmall hok
    | _ => cases hok
  rw [if_neg hexp] at hok hsmall ⊢
  by_cases halarm : header.blockType = PF_BT_ALARM_CR_BLOCK_REQ
  · rw [if_pos halarm] at hok hsmall ⊢
    unfold readAlarmCrBlock at hok hsmall ⊢
    exact accepted_plain scans_alarmCrRequest (by simp [connectTypes, halarm]) har hsmall hok
  rw [if_neg halarm] at hok hsmall ⊢
  by_cases hprm : header.blockType = PF_BT_PRM_SERVER_REQ
  · rw [if_pos hprm] at hok hsmall ⊢
    unfold readPrmServerBlock at hok hsmall ⊢
    exact accepted_plain scans_arPrmServerRequest (by simp [connectTypes, hprm]) har hsmall hok
  rw [if_neg hprm] at hok hsmall ⊢
  by_cases hmcr : header.blockType = PF_BT_MCR_REQ
  · rw [if_pos hmcr] at hok hsmall ⊢
    unfold readMcrBlock at hok hsmall ⊢
    exact accepted_plain scans_mcrRequest (by simp [connectTypes, hmcr]) har hsmall hok
  rw [if_neg hmcr] at hok hsmall ⊢
  by_cases hrpc : header.blockType = PF_BT_RPC_SERVER_REQ
  · rw [if_pos hrpc] at hok hsmall ⊢
    unfold readRpcServerBlock at hok hsmall ⊢
    exact accepted_plain scans_uint16 (by simp [connectTypes, hrpc]) har hsmall hok
  rw [if_neg hrpc] at hok hsmall ⊢
  by_cases hvendor : header.blockType = PF_BT_AR_VENDOR_BLOCK_REQ
  · rw [if_pos hvendor] at hok hsmall ⊢
    unfold readArVendorBlock at hok hsmall ⊢
    exact accepted_plain scans_arVendorRequest (by simp [connectTypes, hvendor]) har hsmall hok
  rw [if_neg hvendor] at hok hsmall ⊢
  by_cases hir : header.blockType = PF_BT_IR_INFO_BLOCK_REQ
  · rw [if_pos hir] at hok hsmall ⊢
    unfold readIrInfoBlock at hok hsmall ⊢
    exact accepted_plain scans_irInfoRequest (by simp [connectTypes, hir]) har hsmall hok
  · rw [if_neg hir] at hok
    cases hok

/-! ## The loop -/

/-- `while`, for one more turn. -/
def Going (st : ConnectState) : Prop :=
  st.ok ∧ st.reader.info.result = .PF_PARSE_OK ∧
    st.reader.pos + blockHeaderSize ≤ st.reader.info.len

instance (st : ConnectState) : Decidable (Going st) :=
  inferInstanceAs (Decidable (st.ok ∧ st.reader.info.result = .PF_PARSE_OK ∧
    st.reader.pos + blockHeaderSize ≤ st.reader.info.len))

/-- The header that comes next. -/
def nextHeader (st : ConnectState) : BlockHeader := (getBlockHeader st.reader).1

def behindHeader (st : ConnectState) : ConnectState :=
  { st with reader := (getBlockHeader st.reader).2 }

/-- The state behind a block. -/
def afterBlock (header : BlockHeader) (st : ConnectState) : ConnectState :=
  { readBlock header st with firstBlock := false }

def afterNext (st : ConnectState) : ConnectState := afterBlock (nextHeader st) (behindHeader st)

def NextFits (st : ConnectState) : Prop :=
  blockFits (nextHeader st) (behindHeader st).reader = true

variable {st : ConnectState} {start : Reader}

theorem connectBlocks_done (fuel : ℕ) (h : ¬Going st) :
    connectBlocks (fuel + 1) st = ([], st, true) := if_neg h

theorem connectBlocks_unfit (fuel : ℕ) (h : Going st) (hfits : ¬NextFits st) :
    connectBlocks (fuel + 1) st = ([], (behindHeader st).refuse PNET_ERROR_CODE_1_CMRPC
      PNET_ERROR_CODE_2_CMRPC_UNKNOWN_BLOCKS, true) := by
  unfold NextFits nextHeader behindHeader at hfits
  refine (if_pos h).trans ?_
  unfold behindHeader
  generalize getBlockHeader st.reader = head at hfits ⊢
  exact if_neg hfits

theorem connectBlocks_read (fuel : ℕ) (h : Going st) (hfits : NextFits st) :
    connectBlocks (fuel + 1) st =
      (⟨nextHeader st, behindHeader st⟩ :: (connectBlocks fuel (afterNext st)).1,
        (connectBlocks fuel (afterNext st)).2.1, (connectBlocks fuel (afterNext st)).2.2) := by
  unfold NextFits nextHeader behindHeader at hfits
  refine (if_pos h).trans ?_
  unfold afterNext afterBlock nextHeader behindHeader
  generalize getBlockHeader st.reader = head at hfits ⊢
  exact if_pos hfits

theorem behindHeader_reader (h : Going st) :
    (behindHeader st).reader = { st.reader with pos := st.reader.pos + blockHeaderSize } :=
  takes_blockHeader st.reader h.2.1 h.2.2

theorem afterNext_moves (h : Going st) :
    (afterNext st).reader.info.len = st.reader.info.len ∧
      st.reader.pos + blockHeaderSize ≤ (afterNext st).reader.pos ∧
      (afterNext st).reader.pos ≤ st.reader.info.len := by
  rcases (scansBlock_readBlock (nextHeader st)).moves (behindHeader st) with
    ⟨hlen, hforward, hinside⟩
  have hroom := h.2.2
  rw [behindHeader_reader h] at hlen hforward hinside
  exact ⟨hlen, hforward, hinside.trans (max_le hroom le_rfl)⟩

theorem connectBlocks_moves (fuel : ℕ) (st : ConnectState) :
    (connectBlocks fuel st).2.1.reader.info.len = st.reader.info.len ∧
      st.reader.pos ≤ (connectBlocks fuel st).2.1.reader.pos ∧
      (connectBlocks fuel st).2.1.reader.pos ≤ max st.reader.pos st.reader.info.len := by
  induction fuel generalizing st with
  | zero => exact ⟨rfl, le_rfl, le_max_left _ _⟩
  | succ fuel ih =>
    by_cases h : Going st
    · by_cases hfits : NextFits st
      · rw [connectBlocks_read fuel h hfits]
        rcases afterNext_moves h with ⟨hlen, hforward, hinside⟩
        rcases ih (afterNext st) with ⟨hlen', hforward', hinside'⟩
        rw [hlen] at hlen' hinside'
        exact ⟨hlen', (Nat.le_add_right _ _).trans (hforward.trans hforward'), hinside'.trans
          (max_le (hinside.trans (le_max_right _ _)) (le_max_right _ _))⟩
      · rw [connectBlocks_unfit fuel h hfits]
        have hroom := h.2.2
        show (behindHeader st).reader.info.len = _ ∧ _ ≤ (behindHeader st).reader.pos ∧
          (behindHeader st).reader.pos ≤ _
        rw [behindHeader_reader h]
        exact ⟨rfl, Nat.le_add_right _ _, hroom.trans (le_max_right _ _)⟩
    · rw [connectBlocks_done fuel h]
      exact ⟨rfl, le_rfl, le_max_left _ _⟩

/-- There is not more than one turn for six bytes. -/
theorem connectBlocks_ended (fuel : ℕ) (st : ConnectState)
    (hfuel : st.reader.info.len < st.reader.pos + fuel) (hpos : 0 < fuel) :
    (connectBlocks fuel st).2.2 = true := by
  induction fuel generalizing st with
  | zero => exact absurd hpos (lt_irrefl 0)
  | succ fuel ih =>
    by_cases h : Going st
    · by_cases hfits : NextFits st
      · rw [connectBlocks_read fuel h hfits]
        rcases afterNext_moves h with ⟨hlen, hforward, hinside⟩
        change _ + 6 ≤ _ at hforward
        apply ih
        · omega
        · omega
      · rw [connectBlocks_unfit fuel h hfits]
    · rw [connectBlocks_done fuel h]

/-- The same blocks over other bytes. -/
def BlockRead.withBuf (b : BlockRead) (buf : ℕ → Byte) : BlockRead :=
  ⟨b.header, b.state.withBuf buf⟩

theorem blockFits_withBuf (header : BlockHeader) (st : ConnectState) (buf : ℕ → Byte) :
    blockFits header (st.withBuf buf).reader = blockFits header st.reader := rfl

/-- The next header over other bytes. -/
theorem next_only {buf : ℕ → Byte} (h : Going st)
    (hsame : st.reader.SameFrom buf st.reader.pos (st.reader.pos + blockHeaderSize)) :
    nextHeader (st.withBuf buf) = nextHeader st ∧
      behindHeader (st.withBuf buf) = (behindHeader st).withBuf buf := by
  have hstop : (getBlockHeader st.reader).2.pos = st.reader.pos + blockHeaderSize :=
    congrArg Reader.pos (behindHeader_reader h)
  have hhead := scans_blockHeader.only st.reader buf (by rwa [hstop])
  unfold nextHeader behindHeader
  show (getBlockHeader (st.reader.withBuf buf)).1 = _ ∧
    { st with reader := (getBlockHeader (st.reader.withBuf buf)).2 } = _
  rw [hhead]
  exact ⟨rfl, rfl⟩

/-- The next block over other bytes. -/
theorem readNext_only {buf : ℕ → Byte} (h : Going st)
    (hsame : st.reader.SameFrom buf st.reader.pos (afterNext st).reader.pos) :
    readBlock (nextHeader st) ((behindHeader st).withBuf buf) =
      (readBlock (nextHeader st) (behindHeader st)).withBuf buf := by
  apply (scansBlock_readBlock (nextHeader st)).only
  rw [behindHeader_reader h]
  exact hsame.mono (Nat.le_add_right _ _) le_rfl

theorem afterNext_only {buf : ℕ → Byte} (h : Going st)
    (hsame : st.reader.SameFrom buf st.reader.pos (afterNext st).reader.pos) :
    afterNext (st.withBuf buf) = (afterNext st).withBuf buf := by
  rcases afterNext_moves h with ⟨-, hforward, -⟩
  rcases next_only h (hsame.mono le_rfl hforward) with ⟨hnext, hbehind⟩
  unfold afterNext afterBlock
  rw [hnext, hbehind, readNext_only h hsame]
  rfl

theorem afterNext_buf (h : Going st) :
    (afterNext st).reader.info.buf = st.reader.info.buf := by
  have hkeeps := (scansBlock_readBlock (nextHeader st)).keeps (behindHeader st)
  rw [behindHeader_reader h] at hkeeps
  exact hkeeps

/-- A block as a header with its place. -/
def BlockRead.met (b : BlockRead) : Met where
  pos := b.state.reader.pos - blockHeaderSize
  header := b.header
  parsed := true
  stop := (readBlock b.header b.state).reader.pos

theorem connectBlocks_only (fuel : ℕ) (st : ConnectState) (buf : ℕ → Byte)
    (hsame : st.reader.SameFrom buf st.reader.pos (connectBlocks fuel st).2.1.reader.pos) :
    connectBlocks fuel (st.withBuf buf) =
        ((connectBlocks fuel st).1.map (·.withBuf buf), (connectBlocks fuel st).2.1.withBuf buf,
          (connectBlocks fuel st).2.2) ∧
      ∀ b ∈ (connectBlocks fuel st).1, (b.withBuf buf).met = b.met := by
  induction fuel generalizing st with
  | zero => exact ⟨rfl, fun b hb => by cases hb⟩
  | succ fuel ih =>
    by_cases h : Going st
    · have hgoing : Going (st.withBuf buf) := h
      by_cases hfits : NextFits st
      · rw [connectBlocks_read fuel h hfits] at hsame ⊢
        rcases afterNext_moves h with ⟨-, hforward, -⟩
        rcases connectBlocks_moves fuel (afterNext st) with ⟨-, hforward', -⟩
        have hafter := afterNext_only h (hsame.mono le_rfl hforward')
        rcases next_only h (hsame.mono le_rfl (hforward.trans hforward')) with ⟨hnext, hbehind⟩
        have hrest : (afterNext st).reader.SameFrom buf (afterNext st).reader.pos
            (connectBlocks fuel (afterNext st)).2.1.reader.pos := by
          intro i hi hlt
          rw [afterNext_buf h]
          exact hsame i (((Nat.le_add_right _ _).trans hforward).trans hi) hlt
        have hfitsBuf : NextFits (st.withBuf buf) := by
          unfold NextFits
          rw [hnext, hbehind, blockFits_withBuf]
          exact hfits
        rcases ih _ hrest with ⟨hblocks, hmets⟩
        rw [connectBlocks_read fuel hgoing hfitsBuf, hafter, hblocks, hnext, hbehind]
        refine ⟨rfl, List.forall_mem_cons.mpr ⟨?_, hmets⟩⟩
        unfold BlockRead.met BlockRead.withBuf
        dsimp only
        rw [readNext_only h (hsame.mono le_rfl hforward')]
        rfl
      · rw [connectBlocks_unfit fuel h hfits] at hsame ⊢
        have hstop : (behindHeader st).reader.pos = st.reader.pos + blockHeaderSize :=
          congrArg Reader.pos (behindHeader_reader h)
        rcases next_only h (hsame.mono le_rfl hstop.ge) with ⟨hnext, hbehind⟩
        have hfitsBuf : ¬NextFits (st.withBuf buf) := by
          unfold NextFits
          rw [hnext, hbehind, blockFits_withBuf]
          exact hfits
        rw [connectBlocks_unfit fuel hgoing hfitsBuf, hbehind]
        exact ⟨rfl, fun b hb => by cases hb⟩
    · have hdone : ¬Going (st.withBuf buf) := h
      rw [connectBlocks_done fuel hdone, connectBlocks_done fuel h]
      exact ⟨rfl, fun b hb => by cases hb⟩

/-! ## Whole requests -/

/-- The name in each AR block that is read has no zero. -/
def NamesWhole (blocks : List BlockRead) : Prop :=
  ∀ b ∈ blocks, b.header.blockType = PF_BT_AR_BLOCK_REQ → 0 ∉ stationName b

theorem connectBlocks_result (fuel : ℕ) (st : ConnectState)
    (h : (connectBlocks fuel st).2.1.reader.info.result = .PF_PARSE_OK) :
    st.reader.info.result = .PF_PARSE_OK := by
  rcases fuel with _ | fuel
  · exact h
  · by_cases hgoing : Going st
    · exact hgoing.2.1
    · rw [connectBlocks_done fuel hgoing] at h
      exact h

/-- The loop is content with no more than what each block is content with. -/
theorem connectBlocks_ok (fuel : ℕ) (st : ConnectState) (h : (connectBlocks fuel st).2.1.ok = true) :
    st.ok = true := by
  rcases fuel with _ | fuel
  · exact h
  · by_cases hgoing : Going st
    · exact hgoing.1
    · rw [connectBlocks_done fuel hgoing] at h
      exact h

/-- Blocks that are accepted lie one behind the other exactly when the names are whole. -/
theorem connectBlocks_tiles (fuel : ℕ) (st : ConnectState) (hst : st.reader.info = start.info)
    (hlen : start.info.len < 2 ^ 16) (hok : (connectBlocks fuel st).2.1.ok = true)
    (hread : (connectBlocks fuel st).2.1.reader.info.result = .PF_PARSE_OK) :
    Tiles connectTypes start st.reader.pos ((connectBlocks fuel st).1.map BlockRead.met)
        (connectBlocks fuel st).2.1.reader.pos ↔ NamesWhole (connectBlocks fuel st).1 := by
  induction fuel generalizing st with
  | zero => exact iff_of_true rfl fun b hb => by cases hb
  | succ fuel ih =>
    by_cases h : Going st
    · by_cases hfits : NextFits st
      · rw [connectBlocks_read fuel h hfits] at hok hread ⊢
        have hnextOk : (readBlock (nextHeader st) (behindHeader st)).ok = true :=
          connectBlocks_ok fuel (afterNext st) hok
        have hnextRead : (afterNext st).reader.info.result = .PF_PARSE_OK :=
          connectBlocks_result fuel (afterNext st) hread
        have hbehind := behindHeader_reader h
        have hinfo : (afterNext st).reader.info = st.reader.info :=
          ((scansBlock_readBlock (nextHeader st)).info_of_ok hnextRead).trans (by rw [hbehind])
        have hrest := ih (afterNext st) (hinfo.trans hst) hok hread
        rcases afterNext_moves h with ⟨-, hforward, hinside⟩
        have hpos : (behindHeader st).reader.pos = st.reader.pos + 6 := congrArg Reader.pos hbehind
        have hsmall : (afterNext st).reader.pos + 2 < (behindHeader st).reader.pos + 2 ^ 16 := by
          rw [hst] at hinside
          omega
        have haccepted : Accepted (nextHeader st) (behindHeader st) (afterNext st).reader.pos :=
          readBlock_spec hnextOk hnextRead hsmall
        have hheader : nextHeader st = blockHeaderAt start st.reader.pos := by
          unfold nextHeader blockHeaderAt
          rw [← hst]
        have hplace : (behindHeader st).reader.pos - blockHeaderSize = st.reader.pos := by
          rw [hpos]
          exact Nat.add_sub_cancel _ _
        have hlength : (afterNext st).reader.pos + 2 =
              (behindHeader st).reader.pos + (nextHeader st).blockLength.toNat ↔
            (afterNext st).reader.pos = st.reader.pos + 4 + (nextHeader st).blockLength.toNat := by
          omega
        have hname : (afterNext st).reader.pos =
              st.reader.pos + 4 + (nextHeader st).blockLength.toNat ↔
            ((nextHeader st).blockType = PF_BT_AR_BLOCK_REQ →
              0 ∉ stationName ⟨nextHeader st, behindHeader st⟩) := by
          rw [← hlength]
          by_cases har : (nextHeader st).blockType = PF_BT_AR_BLOCK_REQ
          · rw [haccepted.arLength har]
            exact ⟨fun hwhole _ => hwhole, fun hwhole => hwhole har⟩
          · exact iff_of_true (haccepted.length har) fun h => absurd h har
        show _ ∧ _ ∧ _ ∧ _ ∧ _ ∧ Tiles _ _ (afterNext st).reader.pos _ _ ↔ ∀ b ∈ _ :: _, _
        rw [List.forall_mem_cons, ← hname, hrest]
        constructor
        · rintro ⟨-, -, -, -, hstop, hall⟩
          exact ⟨hstop, hall⟩
        · rintro ⟨hstop, hall⟩
          exact ⟨hplace, hheader, rfl, haccepted.own, hstop, hall⟩
      · rw [connectBlocks_unfit fuel h hfits] at hok
        cases hok
    · rw [connectBlocks_done fuel h]
      exact iff_of_true rfl fun b hb => by cases hb

/-- The state behind the last of the blocks. -/
def behindBlocks : ConnectState → List BlockRead → ConnectState
  | st, [] => st
  | _, b :: bs => behindBlocks (afterBlock b.header b.state) bs

/-- The loop ends behind the last block that it has read, or at a header that does not fit. -/
theorem connectBlocks_behind (fuel : ℕ) (st : ConnectState)
    (hended : (connectBlocks fuel st).2.2 = true) :
    let last := behindBlocks st (connectBlocks fuel st).1
    ¬Going last ∧ (connectBlocks fuel st).2.1 = last ∨
      Going last ∧ (connectBlocks fuel st).2.1.ok = false := by
  induction fuel generalizing st with
  | zero => cases hended
  | succ fuel ih =>
    by_cases h : Going st
    · by_cases hfits : NextFits st
      · rw [connectBlocks_read fuel h hfits] at hended ⊢
        exact ih (afterNext st) hended
      · rw [connectBlocks_unfit fuel h hfits]
        exact .inr ⟨h, rfl⟩
    · rw [connectBlocks_done fuel h]
      exact .inl ⟨h, rfl⟩

theorem behindBlocks_ok (fuel : ℕ) (st : ConnectState) :
    (behindBlocks st (connectBlocks fuel st).1).ok = true ↔
      st.ok = true ∧ ∀ b ∈ (connectBlocks fuel st).1, (readBlock b.header b.state).ok = true := by
  induction fuel generalizing st with
  | zero => exact (and_iff_left fun b hb => by cases hb).symm
  | succ fuel ih =>
    by_cases h : Going st
    · by_cases hfits : NextFits st
      · rw [connectBlocks_read fuel h hfits]
        show (behindBlocks (afterNext st) _).ok = true ↔ _ ∧ ∀ b ∈ _ :: _, _
        rw [ih, List.forall_mem_cons]
        exact (and_iff_right h.1).symm
      · rw [connectBlocks_unfit fuel h hfits]
        exact (and_iff_left fun b hb => by cases hb).symm
    · rw [connectBlocks_done fuel h]
      exact (and_iff_left fun b hb => by cases hb).symm

/-- The loop over all blocks. -/
def requestBlocks (stat : PnetResult) (start : Reader) : List BlockRead × ConnectState × Bool :=
  connectBlocks (start.info.len + 1) ⟨allocatedAr, stat, start, true, true⟩

/-- `pf_cmrpc_rm_connect_interpret_ind`, with the headers of the blocks that it reads. -/
def connectOutcome (argsLength : BitVec 32) (stat : PnetResult) (start : Reader) :
    Outcome AskedAr :=
  let out := rmConnectInterpretInd argsLength stat start
  ⟨out.2.ok, out.2.stat, out.2.ar, out.2.reader.info.result, out.2.reader.pos,
    out.1.map BlockRead.met, (requestBlocks stat start).2.2⟩

/-- A block is not accepted, or the blocks do not end where they should. -/
def RequestRefused (argsLength : BitVec 32) (stat : PnetResult) (start : Reader) : Prop :=
  let blocks := (requestBlocks stat start).1
  let last := (behindBlocks ⟨allocatedAr, stat, start, true, true⟩ blocks).reader
  (∃ b ∈ blocks, (readBlock b.header b.state).ok = false) ∨ last.info.result ≠ .PF_PARSE_OK ∨
    last.pos ≠ last.info.len ∨ BitVec.ofInt 32 ((last.pos : ℤ) - start.pos) ≠ argsLength

/-- "Error discovery". -/
def discoverRequest (argsLength : BitVec 32) (startPos : ℕ) (st : ConnectState) : ConnectState :=
  let wrongLength :=
    st.refuse PNET_ERROR_CODE_1_CMRPC PNET_ERROR_CODE_2_CMRPC_ARGSLENGTH_INVALID
  if st.ok = false then st
  else if st.reader.info.result ≠ .PF_PARSE_OK then wrongLength
  else if st.reader.pos ≠ st.reader.info.len then wrongLength
  else if BitVec.ofInt 32 ((st.reader.pos : ℤ) - startPos) ≠ argsLength then wrongLength
  else st

theorem rmConnectInterpretInd_discover (argsLength : BitVec 32) (stat : PnetResult) (start : Reader) :
    rmConnectInterpretInd argsLength stat start =
      ((requestBlocks stat start).1,
        discoverRequest argsLength start.pos (requestBlocks stat start).2.1) := by
  unfold rmConnectInterpretInd requestBlocks discoverRequest
  generalize connectBlocks (start.info.len + 1) ⟨allocatedAr, stat, start, true, true⟩ = out
  rcases out with ⟨blocks, st, returned⟩
  dsimp only
  split
  · rfl
  split
  · rfl
  split
  · rfl
  split
  · rfl
  · rfl

theorem discoverRequest_spec (argsLength : BitVec 32) (startPos : ℕ) (st : ConnectState) :
    (discoverRequest argsLength startPos st).reader = st.reader ∧
      ((discoverRequest argsLength startPos st).ok = true ↔
        st.ok = true ∧ st.reader.info.result = .PF_PARSE_OK ∧
          st.reader.pos = st.reader.info.len ∧
          BitVec.ofInt 32 ((st.reader.pos : ℤ) - startPos) = argsLength) := by
  unfold discoverRequest
  by_cases hok : st.ok = false
  · rw [if_pos hok]
    exact ⟨rfl, iff_of_false (by simp [hok]) fun h => by simp [hok] at h⟩
  · rw [if_neg hok]
    by_cases hread : st.reader.info.result ≠ .PF_PARSE_OK
    · rw [if_pos hread]
      exact ⟨rfl, iff_of_false Bool.false_ne_true fun h => hread h.2.1⟩
    · rw [if_neg hread]
      by_cases hend : st.reader.pos ≠ st.reader.info.len
      · rw [if_pos hend]
        exact ⟨rfl, iff_of_false Bool.false_ne_true fun h => hend h.2.2.1⟩
      · rw [if_neg hend]
        rw [not_not] at hread hend
        by_cases hargs : BitVec.ofInt 32 ((st.reader.pos : ℤ) - startPos) ≠ argsLength
        · rw [if_pos hargs]
          exact ⟨rfl, iff_of_false Bool.false_ne_true fun h => hargs h.2.2.2⟩
        · rw [if_neg hargs]
          rw [not_not] at hargs
          exact ⟨rfl, (and_iff_left ⟨hread, hend, hargs⟩).symm⟩

theorem discoverRequest_withBuf (argsLength : BitVec 32) (startPos : ℕ) (st : ConnectState)
    (buf : ℕ → Byte) :
    discoverRequest argsLength startPos (st.withBuf buf) =
      (discoverRequest argsLength startPos st).withBuf buf := by
  unfold discoverRequest
  by_cases hok : st.ok = false
  · rw [if_pos hok]
    exact if_pos hok
  · rw [if_neg hok]
    refine (if_neg hok).trans ?_
    by_cases hread : st.reader.info.result ≠ .PF_PARSE_OK
    · rw [if_pos hread]
      exact if_pos hread
    · rw [if_neg hread]
      refine (if_neg hread).trans ?_
      by_cases hend : st.reader.pos ≠ st.reader.info.len
      · rw [if_pos hend]
        exact if_pos hend
      · rw [if_neg hend]
        refine (if_neg hend).trans ?_
        by_cases hargs : BitVec.ofInt 32 ((st.reader.pos : ℤ) - startPos) ≠ argsLength
        · rw [if_pos hargs]
          exact if_pos hargs
        · rw [if_neg hargs]
          exact if_neg hargs

theorem connectOutcome_fields (argsLength : BitVec 32) (stat : PnetResult) (start : Reader) :
    (connectOutcome argsLength stat start).pos = (requestBlocks stat start).2.1.reader.pos ∧
      (connectOutcome argsLength stat start).met =
        (requestBlocks stat start).1.map BlockRead.met ∧
      ((connectOutcome argsLength stat start).ok = true ↔
        (requestBlocks stat start).2.1.ok = true ∧
          (requestBlocks stat start).2.1.reader.info.result = .PF_PARSE_OK ∧
          (requestBlocks stat start).2.1.reader.pos =
            (requestBlocks stat start).2.1.reader.info.len ∧
          BitVec.ofInt 32 (((requestBlocks stat start).2.1.reader.pos : ℤ) - start.pos) =
            argsLength) := by
  unfold connectOutcome
  rw [rmConnectInterpretInd_discover]
  generalize requestBlocks stat start = out
  rcases discoverRequest_spec argsLength start.pos out.2.1 with ⟨hreader, hok⟩
  exact ⟨congrArg Reader.pos hreader, rfl, hok⟩

theorem requestBlocks_ended (stat : PnetResult) (start : Reader) :
    (requestBlocks stat start).2.2 = true :=
  connectBlocks_ended _ _ (Nat.lt_succ_of_le (Nat.le_add_left _ _)) (Nat.succ_pos _)

theorem connectOutcome_ok (argsLength : BitVec 32) (stat : PnetResult) (start : Reader) :
    (connectOutcome argsLength stat start).ok = true ↔ ¬RequestRefused argsLength stat start := by
  rw [(connectOutcome_fields argsLength stat start).2.2]
  have hbehind := connectBlocks_behind _ _ (requestBlocks_ended stat start)
  have hpassed := behindBlocks_ok (start.info.len + 1) ⟨allocatedAr, stat, start, true, true⟩
  unfold RequestRefused
  change ¬Going (behindBlocks _ (requestBlocks stat start).1) ∧
      (requestBlocks stat start).2.1 = behindBlocks _ (requestBlocks stat start).1 ∨
    Going (behindBlocks _ (requestBlocks stat start).1) ∧
      (requestBlocks stat start).2.1.ok = false at hbehind
  change (behindBlocks _ (requestBlocks stat start).1).ok = true ↔ true = true ∧
    ∀ b ∈ (requestBlocks stat start).1, _ at hpassed
  generalize requestBlocks stat start = out at hbehind hpassed ⊢
  rcases out with ⟨blocks, out, ended⟩
  dsimp only at hbehind hpassed ⊢
  generalize behindBlocks ⟨allocatedAr, stat, start, true, true⟩ blocks = last at hbehind hpassed ⊢
  simp only [not_or, not_exists, not_and, not_not, ne_eq, Bool.not_eq_false]
  have hall := hpassed.trans (and_iff_right rfl)
  rcases hbehind with ⟨-, rfl⟩ | ⟨hgoing, hrefused⟩
  · rw [hall]
  · constructor
    · rintro ⟨hok, -⟩
      rw [hrefused] at hok
      cases hok
    · rintro ⟨-, -, hend, -⟩
      have hroom := hgoing.2.2
      rw [hend] at hroom
      exact absurd hroom (Nat.not_le_of_lt (Nat.lt_add_of_pos_right (by decide)))

theorem connect_covered_iff (argsLength : BitVec 32) (stat : PnetResult) (start : Reader)
    (hlen : start.info.len < 2 ^ 16) :
    Covered (connectOutcome argsLength stat) connectTypes argsLength start ↔
      (requestBlocks stat start).2.1.reader.pos ≤ start.pos + argsLength.toNat ∧
        (RequestRefused argsLength stat start ∨ NamesWhole (requestBlocks stat start).1) := by
  rcases connectOutcome_fields argsLength stat start with ⟨hpos, hmet, hok⟩
  have hmoves : (requestBlocks stat start).2.1.reader.info.len = start.info.len ∧
      start.pos ≤ (requestBlocks stat start).2.1.reader.pos ∧
      (requestBlocks stat start).2.1.reader.pos ≤ max start.pos start.info.len :=
    connectBlocks_moves _ _
  rcases hmoves with ⟨hlast, hforward, hinside⟩
  rw [← hpos]
  apply covered_iff_of
  · exact requestBlocks_ended stat start
  · rwa [hpos]
  · intro buf hsame
    rw [hpos] at hsame
    have hblocks : requestBlocks stat (start.withBuf buf) =
          ((requestBlocks stat start).1.map (·.withBuf buf),
            (requestBlocks stat start).2.1.withBuf buf, (requestBlocks stat start).2.2) ∧
        ∀ b ∈ (requestBlocks stat start).1, (b.withBuf buf).met = b.met :=
      connectBlocks_only (start.info.len + 1) ⟨allocatedAr, stat, start, true, true⟩ buf hsame
    rcases hblocks with ⟨hblocks, hmets⟩
    have hmap : ((requestBlocks stat start).1.map (·.withBuf buf)).map BlockRead.met =
        (requestBlocks stat start).1.map BlockRead.met :=
      List.map_map.trans (List.map_congr_left hmets)
    unfold connectOutcome
    rw [rmConnectInterpretInd_discover, rmConnectInterpretInd_discover, hblocks]
    dsimp only
    rw [discoverRequest_withBuf, hmap]
    rfl
  · exact connectOutcome_ok argsLength stat start
  · intro haccepted
    rcases hok.mp haccepted with ⟨hloop, hread, hend, hargs⟩
    rw [hmet, hpos]
    refine ⟨?_, hend.trans hlast, ?_⟩
    · exact connectBlocks_tiles (start.info.len + 1) ⟨allocatedAr, stat, start, true, true⟩ rfl
        hlen hloop hread
    · have hlength : ((requestBlocks stat start).2.1.reader.pos : ℤ) - start.pos =
          ((requestBlocks stat start).2.1.reader.pos - start.pos : ℕ) := by omega
      have hargs' : (requestBlocks stat start).2.1.reader.pos - start.pos = argsLength.toNat := by
        rw [← hargs, hlength, BitVec.ofInt_natCast, BitVec.toNat_ofNat, Nat.mod_eq_of_lt]
        omega
      omega

/-- The loop over control blocks stays in the announced length, and the blocks have the lengths of their
headers, or the request is refused. -/
def ControlExact (k : ControlKind) (argsLength : BitVec 32) (stat : PnetResult) (start : Reader) :
    Prop :=
  (k.blocks stat start).2.pos ≤ start.pos + argsLength.toNat ∧
    (k.Refused argsLength stat start ∨ k.Right stat start)

/-- The arguments of a request behind the 80 bytes of the RPC header and 20 bytes of NDR data. -/
def argsReader (args : List Byte) : Reader :=
  ⟨⟨.PF_PARSE_OK, true, fun i => args.getD (i - 100) 0, 100 + args.length⟩, 100⟩

/-- A control block with a command. -/
def controlArgs (blockType : List Byte) (blockLength command : Byte) : List Byte :=
  blockType ++ [0, blockLength, 1, 0] ++ List.replicate 22 0 ++ [0, command, 0, 0]

end PNet.Connect
