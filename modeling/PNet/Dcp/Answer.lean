import PNet.Dcp.Identify
import PNet.Dcp.Set

/-! # DCP answers

The frames that `pf_dcp_get_set` and `pf_dcp_identify_req` answer with. The blocks of an answer are
complete, and fill the length of its DCP data, unless one of them is cut.
-/

namespace PNet.Dcp

open Block Cmina Packing

/-! ## Frames -/

/-- The buffer that is sent. -/
structure Response where
  bytes : ℕ → Byte
  len : ℕ

/-- The position of the DCP data, without VLAN tags. -/
def dstStart : ℕ := 26

def dataLengthPos : ℕ := 24

/-- The header of an answer: the addresses, the type, the frame id and the DCP header of the request
with another service type and without a delay. -/
def answerHeader (ase : DcpAse) (f : Frame) (frameId : BitVec 16) (serviceType : Byte) :
    List Byte :=
  f.src ++ (field ase.macAddress 6).bytes ++ bytes16 true PNAL_ETHTYPE_PROFINET ++
    bytes16 true frameId ++ [f.serviceId, serviceType] ++
    Buffer.slice f.bytes (f.dcpHdrPos + 2) 4 ++ bytes16 true 0 ++
    Buffer.slice f.bytes (f.dcpHdrPos + 8) 2

/-- An answer with the blocks, and with the length of its data. -/
def answer (ase : DcpAse) (f : Frame) (frameId : BitVec 16) (serviceType : Byte)
    (fresh : ℕ → Byte) (blocks : List AnswerBlock) : Response :=
  let w := putBlocks PF_FRAME_BUFFER_SIZE blocks
    ⟨Buffer.write fresh 0 (answerHeader ase f frameId serviceType), dstStart⟩
  ⟨Buffer.write w.bytes dataLengthPos (bytes16 true (BitVec.ofNat 16 (w.pos - dstStart))), w.pos⟩

/-! ## `pf_dcp_get_set` -/

/-- The options of a Get, from `pos` on. -/
def Frame.getsFrom (f : Frame) (pos : ℕ) : List (Byte × Byte) :=
  if pos + 2 ≤ f.dcplen then (f.bytes pos, f.bytes (pos + 1)) :: f.getsFrom (pos + 2) else []
termination_by f.dcplen + 1 - pos

/-- `src_block_len` without the qualifier, a `uint16_t`. -/
def Visit.valueLength (v : Visit) : ℕ := (v.blockLength + 2 ^ 16 - 2) % 2 ^ 16

/-- The blocks of a Set, one after the other. -/
def setBlocks (env : Env) (f : Frame) (added : ℕ → Bool) : List Visit → Net → List AnswerBlock × Net
  | [], net => ([], net)
  | v :: vs, net =>
    let done := setReq env net (added v.pos) v.option v.subOption (beUint16 f.bytes v.pos)
      v.valueLength fun i => f.bytes (v.pos + 2 + i)
    let rest := setBlocks env f added vs done.net
    (response v.option v.subOption done.blockError :: rest.1, rest.2)

/-- The blocks of the answer to a Get. -/
def getBlocks (m : Machine) (ase : DcpAse) (f : Frame) : List AnswerBlock :=
  (f.getsFrom f.start).filterMap fun option => getReq m ase option.1 option.2 false none

/-- The blocks of the answer to a Get or a Set, and the state afterwards; `added` tells whether the
scheduler takes the timer of the LED. -/
def getSetBlocks (env : Env) (m : Machine) (added : ℕ → Bool) (net : Net) (f : Frame) :
    List AnswerBlock × Net :=
  if f.serviceId = PF_DCP_SERVICE_SET then setBlocks env f added f.visits net
  else if f.serviceId = PF_DCP_SERVICE_GET then (getBlocks m net.cmina.current f, net)
  else ([], net)

/-- The answer of `pf_dcp_get_set`, once the request is accepted. -/
def getSetAnswer (env : Env) (m : Machine) (added : ℕ → Bool) (net : Net) (f : Frame)
    (fresh : ℕ → Byte) : Response :=
  answer net.cmina.current f PF_DCP_GET_SET_FRAME_ID
    (if f.serviceId = PF_DCP_SERVICE_SET ∨ f.serviceId = PF_DCP_SERVICE_GET then
      PF_DCP_SERVICE_TYPE_SUCCESS else PF_DCP_SERVICE_TYPE_NOT_SUPPORTED)
    fresh (getSetBlocks env m added net f).1

/-- The answer of `pf_dcp_identify_req`, if any. -/
def identifyAnswer (dev : Device) (f : Frame) (fresh : ℕ → Byte) : Option Response :=
  (identifyReq dev f).1.map (answer dev.ase f PF_DCP_ID_RES_FRAME_ID PF_DCP_SERVICE_TYPE_SUCCESS
    fresh)

/-! ## Well-formed answers -/

namespace Response

/-- The DCP data. -/
def data (rsp : Response) : List Byte := Buffer.slice rsp.bytes dstStart (rsp.len - dstStart)

/-- The answer fits, its data are the blocks that fit, each complete and padded, and their length is
in the header. -/
structure WellFormed (rsp : Response) (blocks : List AnswerBlock) : Prop where
  fits : rsp.len ≤ PF_FRAME_BUFFER_SIZE
  data : rsp.data =
    (fit AnswerBlock.bytes PF_FRAME_BUFFER_SIZE dstStart blocks).flatMap AnswerBlock.bytes
  length : rsp.len = dstStart + rsp.data.length
  dataLength : (beUint16 rsp.bytes dataLengthPos).toNat = rsp.data.length

end Response

/-- The DCP data of an answer, while its header is completed. -/
theorem answer_data (ase : DcpAse) (f : Frame) (frameId : BitVec 16) (serviceType : Byte)
    (fresh : ℕ → Byte) (blocks : List AnswerBlock) :
    (answer ase f frameId serviceType fresh blocks).data =
      let w := putBlocks PF_FRAME_BUFFER_SIZE blocks
        ⟨Buffer.write fresh 0 (answerHeader ase f frameId serviceType), dstStart⟩
      Buffer.slice w.bytes dstStart (w.pos - dstStart) := by
  unfold answer Response.data
  apply Buffer.slice_write_disjoint
  right
  rw [bytes16_length]
  decide

/-- An answer is well-formed if and only if none of its blocks is cut. -/
theorem answer_wellFormed_iff (ase : DcpAse) (f : Frame) (frameId : BitVec 16) (serviceType : Byte)
    (fresh : ℕ → Byte) (blocks : List AnswerBlock) :
    (answer ase f frameId serviceType fresh blocks).WellFormed blocks ↔
      NoneCut PF_FRAME_BUFFER_SIZE dstStart blocks := by
  have hdata := answer_data ase f frameId serviceType fresh blocks
  have hfield (w : Writer) : (beUint16 (Buffer.write w.bytes dataLengthPos
      (bytes16 true (BitVec.ofNat 16 (w.pos - dstStart)))) dataLengthPos).toNat =
        (w.pos - dstStart) % 2 ^ 16 := by
    rw [beUint16_write, BitVec.toNat_ofNat]
  have hstays := putBlocks_stays PF_FRAME_BUFFER_SIZE blocks
    ⟨Buffer.write fresh 0 (answerHeader ase f frameId serviceType), dstStart⟩
  have hgrows := (putBlocks_grows PF_FRAME_BUFFER_SIZE blocks
    ⟨Buffer.write fresh 0 (answerHeader ase f frameId serviceType), dstStart⟩).1
  have heven : dstStart % 2 = 0 := by decide
  have hmax : dstStart ≤ PF_FRAME_BUFFER_SIZE := by decide
  have hput := @putBlocks_of_noneCut PF_FRAME_BUFFER_SIZE blocks
    ⟨Buffer.write fresh 0 (answerHeader ase f frameId serviceType), dstStart⟩ heven
  have hcut := @noneCut_of_putBlocks PF_FRAME_BUFFER_SIZE (by decide) (by decide) blocks
    ⟨Buffer.write fresh 0 (answerHeader ase f frameId serviceType), dstStart⟩ heven hmax
  dsimp only at hdata hstays hgrows hput hcut
  have hsmall : PF_FRAME_BUFFER_SIZE < 2 ^ 16 := by decide
  constructor
  · rintro ⟨-, hblocks, hlength, -⟩
    rw [hdata] at hblocks hlength
    have hlen : (answer ase f frameId serviceType fresh blocks).len =
      (putBlocks PF_FRAME_BUFFER_SIZE blocks
        ⟨Buffer.write fresh 0 (answerHeader ase f frameId serviceType), dstStart⟩).pos := rfl
    rw [hblocks, hlen] at hlength
    exact hcut hlength hblocks
  · intro hnone
    have hw := hput hnone
    unfold answer at hdata ⊢
    generalize putBlocks PF_FRAME_BUFFER_SIZE blocks
      ⟨Buffer.write fresh 0 (answerHeader ase f frameId serviceType), dstStart⟩ = w at *
    have hslice : Buffer.slice w.bytes dstStart (w.pos - dstStart) =
        (fit AnswerBlock.bytes PF_FRAME_BUFFER_SIZE dstStart blocks).flatMap AnswerBlock.bytes := by
      rw [hw]
      unfold Writer.append
      dsimp only
      rw [Nat.add_sub_cancel_left]
      exact Buffer.slice_write_self _ _ _
    constructor
    · show w.pos ≤ _
      omega
    · rw [hdata]
      exact hslice
    · rw [hdata, Buffer.slice_length]
      show w.pos = _
      omega
    · rw [hdata, Buffer.slice_length, hfield, Nat.mod_eq_of_lt (by omega)]

theorem response_bytes_length (opt sub blockError : Byte) :
    (response opt sub blockError).bytes.length = 8 := by
  have hcontents : (response opt sub blockError).contents.length = 3 := rfl
  rw [AnswerBlock.bytes_length, hcontents]
  rfl

/-- The blocks of the answer to a Set end where the buffer does. -/
theorem noneCut_set (env : Env) (f : Frame) (added : ℕ → Bool) (vs : List Visit) :
    ∀ net pos, pos % 8 = 2 →
      NoneCut PF_FRAME_BUFFER_SIZE pos (setBlocks env f added vs net).1 := by
  induction vs with
  | nil =>
    intro net pos _
    trivial
  | cons v vs ih =>
    intro net pos hpos
    unfold setBlocks
    dsimp only
    generalize setReq env net _ _ _ _ _ _ = done
    have hlen := response_bytes_length v.option v.subOption done.blockError
    constructor
    · rintro ⟨hvalue, hcut⟩
      rw [hlen] at hcut
      change pos + 3 < _ at hvalue
      simp only [PF_FRAME_BUFFER_SIZE] at hvalue hcut
      omega
    · rw [hlen]
      apply ih
      split <;> omega

/-- With room for all blocks none is cut. -/
theorem noneCut_of_room {dstMax : ℕ} (blocks : List AnswerBlock) : ∀ pos,
    pos + (blocks.map fun b => b.bytes.length).sum ≤ dstMax → NoneCut dstMax pos blocks := by
  induction blocks with
  | nil =>
    intro pos _
    trivial
  | cons b blocks ih =>
    intro pos hroom
    rw [List.map_cons, List.sum_cons] at hroom
    constructor
    · rintro ⟨-, hcut⟩
      omega
    · rw [if_pos (by omega)]
      exact ih _ (by omega)

theorem positive_bytes_length (opt sub : Byte) (blockInfo : BitVec 16) (value : List Byte) :
    (positive opt sub blockInfo value).bytes.length ≤ 7 + value.length := by
  have hlen := (positive opt sub blockInfo value).bytes_length
  have hcontents : (positive opt sub blockInfo value).contents.length = 2 + value.length := by
    rw [AnswerBlock.contents_length, AnswerBlock.blockInfoBytes_length]
    rfl
  rw [hlen, hcontents, aligned]
  omega

/-- What an Identify is answered with. -/
theorem identifyBlocks_eq (m : Machine) (ase : DcpAse) (aliasName : Option (List Byte)) :
    identifyBlocks m ase aliasName =
      [positive PF_DCP_OPT_IP PF_DCP_SUB_IP_PAR (ipBlockInfo ase.ipSuite)
          (ipSuiteBytes true ase.ipSuite),
        positive PF_DCP_OPT_DEVICE_PROPERTIES PF_DCP_SUB_DEV_PROP_VENDOR 0 ase.productName,
        positive PF_DCP_OPT_DEVICE_PROPERTIES PF_DCP_SUB_DEV_PROP_NAME 0 ase.stationName,
        positive PF_DCP_OPT_DEVICE_PROPERTIES PF_DCP_SUB_DEV_PROP_ID 0
          (field (deviceIdBytes ase.deviceId) 4).bytes,
        positive PF_DCP_OPT_DEVICE_PROPERTIES PF_DCP_SUB_DEV_PROP_ROLE 0
          (Buffer.slice (field (ase.deviceRole ::
            bytes16 m.isBigEndian ase.deviceInitiative) 1).memory 0 2),
        positive PF_DCP_OPT_DEVICE_PROPERTIES PF_DCP_SUB_DEV_PROP_OPTIONS 0 deviceOptionBytes] ++
      aliasName.toList.map (positive PF_DCP_OPT_DEVICE_PROPERTIES PF_DCP_SUB_DEV_PROP_ALIAS 0) := by
  cases aliasName with
  | none => rfl
  | some name => rfl

/-- The names are not longer than their fields. -/
theorem noneCut_identify (m : Machine) {ase : DcpAse} {aliasName : Option (List Byte)}
    (hstation : ase.stationName.length < PNET_STATION_NAME_MAX_SIZE)
    (hproduct : ase.productName.length ≤ PNET_PRODUCT_NAME_MAX_LEN)
    (halias : ∀ name, aliasName = some name → name.length < PF_ALIAS_NAME_MAX_SIZE) :
    NoneCut PF_FRAME_BUFFER_SIZE dstStart (identifyBlocks m ase aliasName) := by
  apply noneCut_of_room
  rw [identifyBlocks_eq]
  have hip : (ipSuiteBytes true ase.ipSuite).length = 12 := by simp [ipSuiteBytes]
  have hoptions : deviceOptionBytes.length = 28 := rfl
  have hlast : ((aliasName.toList.map (positive PF_DCP_OPT_DEVICE_PROPERTIES
      PF_DCP_SUB_DEV_PROP_ALIAS 0)).map fun b => b.bytes.length).sum ≤ 262 := by
    cases aliasName with
    | none => exact Nat.zero_le _
    | some name =>
      have hname := halias name rfl
      have hlen := positive_bytes_length PF_DCP_OPT_DEVICE_PROPERTIES PF_DCP_SUB_DEV_PROP_ALIAS 0
        name
      simp only [PF_ALIAS_NAME_MAX_SIZE] at hname
      simp only [Option.toList_some, List.map_cons, List.map_nil, List.sum_cons, List.sum_nil]
      omega
  rw [List.map_append, List.sum_append]
  simp only [List.map_cons, List.map_nil, List.sum_cons, List.sum_nil]
  have h1 := positive_bytes_length PF_DCP_OPT_IP PF_DCP_SUB_IP_PAR (ipBlockInfo ase.ipSuite)
    (ipSuiteBytes true ase.ipSuite)
  have h2 := positive_bytes_length PF_DCP_OPT_DEVICE_PROPERTIES PF_DCP_SUB_DEV_PROP_VENDOR 0
    ase.productName
  have h3 := positive_bytes_length PF_DCP_OPT_DEVICE_PROPERTIES PF_DCP_SUB_DEV_PROP_NAME 0
    ase.stationName
  have h4 := positive_bytes_length PF_DCP_OPT_DEVICE_PROPERTIES PF_DCP_SUB_DEV_PROP_ID 0
    (field (deviceIdBytes ase.deviceId) 4).bytes
  have h5 := positive_bytes_length PF_DCP_OPT_DEVICE_PROPERTIES PF_DCP_SUB_DEV_PROP_ROLE 0
    (Buffer.slice (field (ase.deviceRole ::
      bytes16 m.isBigEndian ase.deviceInitiative) 1).memory 0 2)
  have h6 := positive_bytes_length PF_DCP_OPT_DEVICE_PROPERTIES PF_DCP_SUB_DEV_PROP_OPTIONS 0
    deviceOptionBytes
  have hid : (field (deviceIdBytes ase.deviceId) 4).bytes.length = 4 := Buffer.slice_length _ _ _
  rw [hip] at h1
  rw [hid] at h4
  rw [Buffer.slice_length] at h5
  rw [hoptions] at h6
  simp only [PNET_STATION_NAME_MAX_SIZE, PNET_PRODUCT_NAME_MAX_LEN] at hstation hproduct
  simp only [PF_FRAME_BUFFER_SIZE, dstStart]
  omega

/-- The alias name of a request has room for its terminator. -/
theorem scan_alias (dev : Device) (f : Frame) (vs : List Visit) :
    ∀ st : Scan, (∀ name ∈ st.reqAliasName, name.length < PF_ALIAS_NAME_MAX_SIZE) →
      ∀ name ∈ (scan dev f vs st).reqAliasName, name.length < PF_ALIAS_NAME_MAX_SIZE := by
  induction vs with
  | nil => exact fun _ h => h
  | cons v vs ih =>
    intro st h
    have hcompare (equal : Bool) (st : Scan) :
        (st.compare equal).reqAliasName = st.reqAliasName := by
      unfold Scan.compare
      split_ifs <;> rfl
    have hvalue (value : Value) : (examineValue f v value st).reqAliasName = st.reqAliasName := by
      unfold examineValue
      split_ifs <;> first | rfl | exact hcompare _ _
    have hother : ∀ name ∈ (examineOther dev f v st).reqAliasName,
        name.length < PF_ALIAS_NAME_MAX_SIZE := by
      unfold examineOther
      split_ifs with _ hequal
      · rintro name ⟨⟩
        rw [equalsAlias, decide_eq_true_eq] at hequal
        have hlen := (List.takeWhile_sublist (· ≠ 0) (l := f.valueAt v)).length_le
        rw [Frame.valueAt, Buffer.slice_length] at hlen
        exact lt_of_le_of_lt hlen hequal.1
      · exact h
      · exact h
      · exact h
    unfold scan
    split
    · apply ih
      unfold examine
      cases dcpGetReq dev.machine dev.ase v.option v.subOption with
      | ok value =>
        dsimp only
        rw [hvalue value]
        exact h
      | error _ => exact hother
    · exact h

/-- The answers to a Set and to an Identify are well-formed, whatever is asked for, when the names of
the device are not longer than their fields. -/
theorem set_identify_wellFormed (env : Env) (m : Machine) (added : ℕ → Bool) (net : Net)
    (dev : Device) (f : Frame) (fresh : ℕ → Byte) :
    (f.serviceId = PF_DCP_SERVICE_SET →
      (getSetAnswer env m added net f fresh).WellFormed (getSetBlocks env m added net f).1) ∧
    (dev.ase.stationName.length < PNET_STATION_NAME_MAX_SIZE →
      dev.ase.productName.length ≤ PNET_PRODUCT_NAME_MAX_LEN →
        ∀ rsp, identifyAnswer dev f fresh = some rsp →
          ∃ blocks, (identifyReq dev f).1 = some blocks ∧ rsp.WellFormed blocks) := by
  constructor
  · intro hset
    apply (answer_wellFormed_iff _ _ _ _ _ _).mpr
    unfold getSetBlocks
    rw [if_pos hset]
    exact noneCut_set env f added _ net dstStart (by decide)
  · intro hstation hproduct rsp hrsp
    rcases Option.map_eq_some_iff.mp hrsp with ⟨blocks, hblocks, rfl⟩
    refine ⟨blocks, hblocks, (answer_wellFormed_iff _ _ _ _ _ _).mpr ?_⟩
    unfold identifyReq at hblocks
    dsimp only at hblocks
    split_ifs at hblocks
    obtain rfl := Option.some.inj hblocks
    apply noneCut_identify dev.machine hstation hproduct
    exact scan_alias dev f f.visits .start fun name h => absurd h (Option.not_mem_none name)

/-- A frame that is a Set without a block, and taken for an Identify of all devices. -/
theorem set_identify_wellFormed_empty :
    let f : Frame := { NoBlock.frame with
      bytes := fun i => if i = 16 then PF_DCP_SERVICE_SET else NoBlock.frame.bytes i }
    (getSetAnswer EmptyName.config NoBlock.device.machine (fun _ => true) OtherAddress.connected f
      fun _ => 0).WellFormed (getSetBlocks EmptyName.config NoBlock.device.machine (fun _ => true)
        OtherAddress.connected f).1 ∧
    ∃ rsp blocks, identifyAnswer NoBlock.device f (fun _ => 0) = some rsp ∧
      rsp.WellFormed blocks := by
  intro f
  rcases set_identify_wellFormed EmptyName.config NoBlock.device.machine (fun _ => true)
    OtherAddress.connected NoBlock.device f fun _ => 0 with ⟨hset, hidentify⟩
  refine ⟨hset (by decide +kernel), ?_⟩
  have hanswered : (identifyAnswer NoBlock.device f fun _ => 0).isSome = true := by
    rw [identifyAnswer, Option.isSome_map]
    decide +kernel
  rcases Option.isSome_iff_exists.mp hanswered with ⟨rsp, hrsp⟩
  rcases hidentify (by decide) (by decide) rsp hrsp with ⟨blocks, -, hwell⟩
  exact ⟨rsp, blocks, hrsp, hwell⟩

/-! ## A long name, asked for again and again -/

namespace LongName

/-- Three labels of 63 characters and one of 48. -/
def stationName : List Byte :=
  let label := List.replicate 63 (0x61 : Byte) ++ [dot]
  label ++ label ++ label ++ List.replicate 48 0x61

def connected : Net := { OtherAddress.connected with
  cmina := { OtherAddress.connected.cmina with
    current := { OtherAddress.connected.cmina.current with stationName } } }

/-- A Get for the name, six times. -/
def frame : Frame where
  bytes i := if i = 16 then PF_DCP_SERVICE_GET else if i = 25 then 12 else 2
  len := 60
  len_le := shortest_le
  vlanTags := 0

def machine : Machine := ⟨false, fun _ => 0, fun _ => 0⟩

end LongName

end PNet.Dcp
