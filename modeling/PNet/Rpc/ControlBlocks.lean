import PNet.Block.Scan
import PNet.Rpc.Dcontrol

/-! # Requests that are made of blocks

A request is a row of blocks, each behind a header with its type and its length. The loops of
`pf_cmrpc.c` that go through them are `Covered` when they come to an end, read nothing but the arguments
of the request, and are content only when the blocks are these arguments.

* `ControlKind.interpret` - a release, a DControl request and the answer to a CControl
* `ControlKind.covered_iff` - when the loop does what it should
-/

namespace PNet.Rpc

open Block

/-! ## What a loop makes of its arguments -/

/-- A header that the loop has come to. -/
structure Met where
  /-- The place of the header. -/
  pos : ℕ
  header : BlockHeader
  /-- The block has been read. -/
  parsed : Bool
  /-- Where the loop goes on. -/
  stop : ℕ
deriving DecidableEq, Repr

/-- What a request has been taken for, with its contents `δ`. -/
structure Outcome (δ : Type) where
  ok : Bool
  stat : PnetResult
  content : δ
  result : GetResult
  /-- The bytes before this place have been read. -/
  pos : ℕ
  met : List Met
  /-- The loop has come to its end. -/
  ended : Bool

/-- The header at a place. -/
def blockHeaderAt (start : Reader) (p : ℕ) : BlockHeader := (getBlockHeader { start with pos := p }).1

/-- The blocks lie one behind the other from `p` to `q`, each as long as it says, and each has been read
as one of the types `own`. The length of a block does not count its type and its length. -/
def Tiles (own : List (BitVec 16)) (start : Reader) : ℕ → List Met → ℕ → Prop
  | p, [], q => p = q
  | p, m :: ms, q => m.pos = p ∧ m.header = blockHeaderAt start p ∧ m.parsed = true ∧
      m.header.blockType ∈ own ∧ m.stop = p + 4 + m.header.blockLength.toNat ∧
      Tiles own start m.stop ms q

/-- The loop comes to its end, reads nothing but the arguments, and is content only when the blocks are
the arguments. -/
structure Covered {δ : Type} (parse : Reader → Outcome δ) (own : List (BitVec 16))
    (argsLength : BitVec 32) (start : Reader) : Prop where
  ended : (parse start).ended = true
  received : (parse start).pos ≤ max start.pos start.info.len
  announced : (parse start).pos ≤ start.pos + argsLength.toNat
  only : ∀ buf, start.SameFrom buf start.pos (parse start).pos → parse (start.withBuf buf) = parse start
  exactly : (parse start).ok = true →
    Tiles own start start.pos (parse start).met (parse start).pos ∧
      (parse start).pos = start.info.len ∧ (parse start).pos = start.pos + argsLength.toNat

/-- A loop that comes to its end, and is content unless the request is `Refused`. -/
theorem covered_iff_of {δ : Type} {parse : Reader → Outcome δ} {own : List (BitVec 16)}
    {argsLength : BitVec 32} {start : Reader} {Refused Right : Prop}
    (hended : (parse start).ended = true) (hreceived : (parse start).pos ≤ max start.pos start.info.len)
    (honly : ∀ buf, start.SameFrom buf start.pos (parse start).pos →
      parse (start.withBuf buf) = parse start)
    (hok : (parse start).ok = true ↔ ¬Refused)
    (htiles : (parse start).ok = true →
      (Tiles own start start.pos (parse start).met (parse start).pos ↔ Right) ∧
        (parse start).pos = start.info.len ∧ (parse start).pos = start.pos + argsLength.toNat) :
    Covered parse own argsLength start ↔
      (parse start).pos ≤ start.pos + argsLength.toNat ∧ (Refused ∨ Right) := by
  constructor
  · intro h
    refine ⟨h.announced, ?_⟩
    by_cases hrefused : Refused
    · exact .inl hrefused
    · have haccepted := hok.mpr hrefused
      exact .inr ((htiles haccepted).1.mp (h.exactly haccepted).1)
  · rintro ⟨hannounced, hright⟩
    refine ⟨hended, hreceived, hannounced, honly, ?_⟩
    intro haccepted
    rcases htiles haccepted with ⟨htile, hlen, hargs⟩
    refine ⟨htile.mpr ?_, hlen, hargs⟩
    exact hright.resolve_left (hok.mp haccepted)

/-! ## Control blocks -/

/-- What differs between the loops over control blocks. -/
structure ControlKind where
  /-- The types of its blocks. -/
  types : List (BitVec 16)
  /-- `error_code` for a block of another type. -/
  unknownBlockCode : Byte
  /-- `error_code` for everything else. -/
  errorCode : Byte
  /-- `error_code_2` when the blocks end too early. -/
  parseError : Byte
  controlCommand : BitVec 16
  /-- `error_code_1` and `error_code_2` for another command. -/
  wrongCommand : Byte × Byte

/-- What the loop works on. -/
structure ControlState where
  /-- `ret == 0`. -/
  ok : Bool
  stat : PnetResult
  block : ControlBlock
deriving DecidableEq, Repr

def ControlState.refuse (s : ControlState) (errorCode code1 code2 : Byte) : ControlState :=
  { s with ok := false, stat := setError s.stat errorCode PNET_ERROR_DECODE_PNIO code1 code2 }

/-- `*p_pos`. -/
def getPos : Get ℕ := fun r => (r.pos, r)

namespace ControlKind

variable (k : ControlKind)

/-- A block behind its header. One that does not fit is passed over without an error. -/
def readBlock (s : ControlState) (pos : ℕ) (header : BlockHeader) : Get (Met × ControlState) := fun r =>
  if blockFits header r then
    if k.types.contains header.blockType then
      let control := getControl s.block r
      ((⟨pos, header, true, control.2.pos⟩, { s with block := control.1 }), control.2)
    else
      ((⟨pos, header, false, r.pos⟩, s.refuse k.unknownBlockCode PNET_ERROR_CODE_1_CMRPC
        PNET_ERROR_CODE_2_CMRPC_UNKNOWN_BLOCKS), r)
  else ((⟨pos, header, false, r.pos⟩, s), r)

/-- One turn of the loop. -/
def turn (s : ControlState) : Get (Met × ControlState) := do
  let pos ← getPos
  let header ← getBlockHeader
  k.readBlock s pos header

/-- `while`, for one more turn. -/
def More (r : Reader) : Prop := r.pos + blockHeaderSize ≤ r.info.len ∧ r.info.result = .PF_PARSE_OK

instance (r : Reader) : Decidable (More r) :=
  inferInstanceAs (Decidable (r.pos + blockHeaderSize ≤ r.info.len ∧ r.info.result = .PF_PARSE_OK))

/-- The loop, with the headers that it comes to; the flag tells that it has come to its end. -/
def loop : ℕ → ControlState → Get (List Met × ControlState × Bool)
  | 0, s => pure ([], s, false)
  | fuel + 1, s => fun r =>
    if More r then
      (do
        let t ← k.turn s
        let rest ← loop fuel t.2
        return (t.1 :: rest.1, rest.2) : Get _) r
    else (([], s, true), r)

/-- "Error discovery". -/
def discover (argsLength : BitVec 32) (startPos : ℕ) (s : ControlState) (r : Reader) : ControlState :=
  if s.ok = false then s
  else if r.info.result ≠ .PF_PARSE_OK then
    s.refuse k.errorCode PNET_ERROR_CODE_1_CMRPC k.parseError
  else if r.pos ≠ r.info.len then
    s.refuse k.errorCode PNET_ERROR_CODE_1_CMRPC PNET_ERROR_CODE_2_CMRPC_ARGSLENGTH_INVALID
  else if BitVec.ofNat 32 (r.pos - startPos) ≠ argsLength then
    s.refuse k.errorCode PNET_ERROR_CODE_1_CMRPC PNET_ERROR_CODE_2_CMRPC_ARGSLENGTH_INVALID
  else if s.block.controlCommand ≠ k.controlCommand then
    s.refuse k.errorCode k.wrongCommand.1 k.wrongCommand.2
  else s

/-- The loop over all blocks. Each turn takes a header, so that there are not more turns than bytes. -/
def blocks (stat : PnetResult) (start : Reader) : (List Met × ControlState × Bool) × Reader :=
  k.loop (start.info.len + 1) ⟨true, stat, clearedControl⟩ start

/-- `pf_cmrpc_rm_..._interpret_...`. -/
def interpret (argsLength : BitVec 32) (stat : PnetResult) (start : Reader) :
    Outcome ControlBlock :=
  let ((met, s, ended), r) := k.blocks stat start
  let s := k.discover argsLength start.pos s r
  ⟨s.ok, s.stat, s.block, r.info.result, r.pos, met, ended⟩

end ControlKind

def PNET_ERROR_CODE_RELEASE : Byte := 0xDC
def PF_BT_RELEASE_BLOCK_REQ : BitVec 16 := 0x0114
def PF_BT_APPRDY_RES : BitVec 16 := 0x8112
def PF_CONTROL_COMMAND_BIT_RELEASE : ℕ := 2

def releaseKind : ControlKind where
  types := [PF_BT_RELEASE_BLOCK_REQ]
  -- a block of another type is told with the code of a connect
  unknownBlockCode := PNET_ERROR_CODE_CONNECT
  errorCode := PNET_ERROR_CODE_RELEASE
  parseError := PNET_ERROR_CODE_2_CMRPC_ARGSLENGTH_INVALID
  controlCommand := commandBit PF_CONTROL_COMMAND_BIT_RELEASE
  wrongCommand := (PNET_ERROR_CODE_1_CMRPC, PNET_ERROR_CODE_2_CMRPC_STATE_CONFLICT)

def dcontrolKind : ControlKind where
  types := [PF_BT_PRMBEGIN_REQ, PF_BT_PRMEND_REQ]
  unknownBlockCode := PNET_ERROR_CODE_CONTROL
  errorCode := PNET_ERROR_CODE_CONTROL
  parseError := PNET_ERROR_CODE_2_CMRPC_ARGSLENGTH_INVALID
  controlCommand := commandBit PF_CONTROL_COMMAND_BIT_PRM_END
  wrongCommand := (PNET_ERROR_CODE_1_DCTRL_FAULTY_CONNECT,
    PNET_ERROR_CODE_2_DCTRL_FAULTY_CONNECT_CONTROLCOMMAND)

def ccontrolKind : ControlKind where
  types := [PF_BT_APPRDY_RES]
  unknownBlockCode := PNET_ERROR_CODE_CONTROL
  errorCode := PNET_ERROR_CODE_CONTROL
  parseError := PNET_ERROR_CODE_2_CMRPC_STATE_CONFLICT
  controlCommand := commandBit PF_CONTROL_COMMAND_BIT_DONE
  wrongCommand := (PNET_ERROR_CODE_1_CMRPC, PNET_ERROR_CODE_2_CMRPC_STATE_CONFLICT)

/-- `pf_cmrpc_rm_release_interpret_req`. -/
def rmReleaseInterpretReq : BitVec 32 → PnetResult → Reader → Outcome ControlBlock :=
  releaseKind.interpret

/-- `pf_cmrpc_rm_dcontrol_interpret_req`. -/
def rmDcontrolInterpretReq : BitVec 32 → PnetResult → Reader → Outcome ControlBlock :=
  dcontrolKind.interpret

/-- `pf_cmrpc_rm_ccontrol_interpret_cnf`. -/
def rmCcontrolInterpretCnf : BitVec 32 → PnetResult → Reader → Outcome ControlBlock :=
  ccontrolKind.interpret

/-! ## The loop reads forward -/

/-- To look where the parser is. -/
theorem scans_view {α : Type} (f : ℕ → α) : Scans (fun r => (f r.pos, r) : Get α) where
  moves := fun _ => ⟨rfl, le_rfl, le_max_left _ _, id, rfl⟩
  keeps := fun _ => rfl
  only := fun _ _ _ => rfl

theorem scans_blockHeader : Scans getBlockHeader :=
  scans_uint16.bind fun _ => scans_uint16.bind fun _ => scans_byte.bind fun _ => scans_byte.map _

theorem scans_uuid (dest : Uuid) : Scans (getUuid dest) :=
  scans_uint32.bind fun _ => scans_uint16.bind fun _ => scans_uint16.bind fun _ =>
    (scans_mem dest.data4).map _

theorem scans_control (dest : ControlBlock) : Scans (getControl dest) :=
  scans_uint16.bind fun _ => (scans_uuid _).bind fun _ => scans_uint16.bind fun _ =>
    scans_uint16.bind fun _ => scans_uint16.bind fun _ => scans_uint16.map _

/-- The length of a control block behind its header. -/
def controlSize : ℕ := 26

/-- What the header of a control block should say. -/
def controlBlockLength : BitVec 16 := 28

namespace ControlKind

variable {k : ControlKind}

theorem readBlock_own {s : ControlState} {pos : ℕ} {header : BlockHeader} {r : Reader}
    (hfits : blockFits header r = true) (hown : header.blockType ∈ k.types) :
    k.readBlock s pos header r =
      ((⟨pos, header, true, (getControl s.block r).2.pos⟩,
        { s with block := (getControl s.block r).1 }), (getControl s.block r).2) :=
  (if_pos hfits).trans (if_pos (List.contains_iff_mem.mpr hown))

theorem readBlock_unknown {s : ControlState} {pos : ℕ} {header : BlockHeader} {r : Reader}
    (hfits : blockFits header r = true) (hown : header.blockType ∉ k.types) :
    k.readBlock s pos header r =
      ((⟨pos, header, false, r.pos⟩, s.refuse k.unknownBlockCode PNET_ERROR_CODE_1_CMRPC
        PNET_ERROR_CODE_2_CMRPC_UNKNOWN_BLOCKS), r) :=
  (if_pos hfits).trans (if_neg fun h => hown (List.contains_iff_mem.mp h))

theorem readBlock_unfit {s : ControlState} {pos : ℕ} {header : BlockHeader} {r : Reader}
    (hfits : ¬blockFits header r = true) :
    k.readBlock s pos header r = ((⟨pos, header, false, r.pos⟩, s), r) := if_neg hfits

theorem scans_readBlock (s : ControlState) (pos : ℕ) (header : BlockHeader) :
    Scans (k.readBlock s pos header) := by
  have hcases : ∀ r : Reader, ∃ g', Scans g' ∧ ∀ buf,
      k.readBlock s pos header (r.withBuf buf) = g' (r.withBuf buf) := by
    intro r
    by_cases hfits : blockFits header r = true
    · by_cases hown : header.blockType ∈ k.types
      · refine ⟨_, (scans_control s.block).bind fun block =>
          scans_view fun stop => (⟨pos, header, true, stop⟩, { s with block }), ?_⟩
        intro buf
        rw [get_bind_apply]
        exact readBlock_own hfits hown
      · refine ⟨_, scans_view fun stop => (⟨pos, header, false, stop⟩,
          s.refuse k.unknownBlockCode PNET_ERROR_CODE_1_CMRPC
            PNET_ERROR_CODE_2_CMRPC_UNKNOWN_BLOCKS), ?_⟩
        intro buf
        exact readBlock_unknown hfits hown
    · refine ⟨_, scans_view fun stop => (⟨pos, header, false, stop⟩, s), ?_⟩
      intro buf
      exact readBlock_unfit hfits
  exact scans_of_cases hcases

theorem scans_turn (s : ControlState) : Scans (k.turn s) :=
  (scans_view id).bind fun pos => scans_blockHeader.bind fun header => scans_readBlock s pos header

theorem scans_loop (fuel : ℕ) (s : ControlState) : Scans (k.loop fuel s) := by
  induction fuel generalizing s with
  | zero => exact Scans.pure _
  | succ fuel ih =>
    have hmore := (scans_turn (k := k) s).bind fun t => (ih t.2).map fun rest => (t.1 :: rest.1, rest.2)
    have hdone := Scans.pure (([], s, true) : List Met × ControlState × Bool)
    apply scans_of_cases
    intro r
    by_cases h : More r
    · exact ⟨_, hmore, fun buf => if_pos h⟩
    · exact ⟨_, hdone, fun buf => if_neg h⟩

end ControlKind

/-! ## One turn -/

theorem spends_uuid (dest : Uuid) : Spends 16 (getUuid dest) :=
  spends_uint32.bind fun _ => spends_uint16.bind fun _ => spends_uint16.bind fun _ =>
    (spends_mem dest.data4).map _

theorem spends_control (dest : ControlBlock) : Spends controlSize (getControl dest) :=
  spends_uint16.bind fun _ => (spends_uuid _).bind fun _ => spends_uint16.bind fun _ =>
    spends_uint16.bind fun _ => spends_uint16.bind fun _ => spends_uint16.map _

/-- The block of the header is in the datagram as a whole. -/
def Met.Fits (m : Met) (len : ℕ) : Prop := m.pos + 4 + m.header.blockLength.toNat ≤ len

instance (m : Met) (len : ℕ) : Decidable (m.Fits len) :=
  inferInstanceAs (Decidable (m.pos + 4 + m.header.blockLength.toNat ≤ len))

namespace ControlKind

variable {k : ControlKind} {s : ControlState} {r : Reader}

theorem header_of_more (h : More r) :
    (getBlockHeader r).2 = { r with pos := r.pos + blockHeaderSize } :=
  takes_blockHeader r h.2 h.1

/-- What a turn does. -/
structure Turned (k : ControlKind) (s : ControlState) (r : Reader) (m : Met) (s' : ControlState)
    (r' : Reader) : Prop where
  pos : m.pos = r.pos
  header : m.header = (getBlockHeader r).1
  stop : m.stop = r'.pos
  parsed : m.parsed = true ↔ m.Fits r.info.len ∧ m.header.blockType ∈ k.types
  spent : m.parsed = true → r'.info.result = .PF_PARSE_OK →
    r'.pos = r.pos + blockHeaderSize + controlSize
  forward : r.pos + blockHeaderSize ≤ r'.pos
  ok : s'.ok = true ↔ s.ok = true ∧ (m.Fits r.info.len → m.header.blockType ∈ k.types)

theorem turn_eq (s : ControlState) (r : Reader) :
    k.turn s r = k.readBlock s r.pos (getBlockHeader r).1 (getBlockHeader r).2 := by
  unfold turn
  rw [get_bind_apply, get_bind_apply]
  rfl

theorem turn_spec (h : More r) :
    Turned k s r (k.turn s r).1.1 (k.turn s r).1.2 (k.turn s r).2 := by
  have hhead := header_of_more h
  have hfits : blockFits (getBlockHeader r).1 (getBlockHeader r).2 = true ↔
      r.pos + 4 + (getBlockHeader r).1.blockLength.toNat ≤ r.info.len := by
    rw [hhead]
    unfold blockFits
    rw [decide_eq_true_iff]
    show r.pos + blockHeaderSize + _ + 4 - blockHeaderSize ≤ r.info.len ∧ _ ↔ _
    rw [show blockHeaderSize = 6 from rfl]
    constructor
    · rintro ⟨hle, -⟩
      omega
    · intro hle
      exact ⟨by omega, h.2⟩
  have hpos : (getBlockHeader r).2.pos = r.pos + blockHeaderSize := congrArg Reader.pos hhead
  rw [turn_eq]
  by_cases hfit : blockFits (getBlockHeader r).1 (getBlockHeader r).2 = true
  · have hin := hfits.mp hfit
    by_cases hown : (getBlockHeader r).1.blockType ∈ k.types
    · rw [readBlock_own hfit hown]
      have hspent := (spends_control s.block).spends (getBlockHeader r).2
      rcases (spends_control s.block).moves (getBlockHeader r).2 with ⟨-, hforward, -⟩
      rw [hpos] at hspent hforward
      generalize getControl s.block (getBlockHeader r).2 = control at hspent hforward ⊢
      exact {
        pos := rfl
        header := rfl
        stop := rfl
        parsed := iff_of_true rfl ⟨hin, hown⟩
        spent := fun _ => hspent
        forward := hforward
        ok := (and_iff_left fun _ => hown).symm }
    · rw [readBlock_unknown hfit hown]
      exact {
        pos := rfl
        header := rfl
        stop := rfl
        parsed := iff_of_false Bool.false_ne_true fun h => hown h.2
        spent := fun h => absurd h Bool.false_ne_true
        forward := hpos.ge
        ok := iff_of_false Bool.false_ne_true fun h => hown (h.2 hin) }
  · rw [readBlock_unfit hfit]
    exact {
      pos := rfl
      header := rfl
      stop := rfl
      parsed := iff_of_false Bool.false_ne_true fun h => hfit (hfits.mpr h.1)
      spent := fun h => absurd h Bool.false_ne_true
      forward := hpos.ge
      ok := (and_iff_left fun h => absurd (hfits.mpr h) hfit).symm }

theorem loop_more (fuel : ℕ) (s : ControlState) (h : More r) : k.loop (fuel + 1) s r =
    (((k.turn s r).1.1 :: (k.loop fuel (k.turn s r).1.2 (k.turn s r).2).1.1,
      (k.loop fuel (k.turn s r).1.2 (k.turn s r).2).1.2),
      (k.loop fuel (k.turn s r).1.2 (k.turn s r).2).2) := if_pos h

theorem loop_done (fuel : ℕ) (s : ControlState) (h : ¬More r) :
    k.loop (fuel + 1) s r = (([], s, true), r) := if_neg h

theorem turn_len (s : ControlState) (r : Reader) : (k.turn s r).2.info.len = r.info.len :=
  ((scans_turn s).moves r).1

/-- There is not more than one turn for six bytes. -/
theorem loop_ended (fuel : ℕ) (s : ControlState) (r : Reader) (hfuel : r.info.len < r.pos + fuel)
    (hpos : 0 < fuel) : (k.loop fuel s r).1.2.2 = true := by
  induction fuel generalizing s r with
  | zero => exact absurd hpos (lt_irrefl 0)
  | succ fuel ih =>
    by_cases h : More r
    · have hturn := turn_spec (k := k) (s := s) h
      have hforward : r.pos + 6 ≤ _ := hturn.forward
      have hroom : r.pos + 6 ≤ r.info.len := h.1
      rw [loop_more fuel s h]
      apply ih
      · rw [turn_len]
        omega
      · omega
    · rw [loop_done fuel s h]

/-! ## The whole loop -/

/-- What the loop comes to, from the state that it starts in. -/
theorem loop_ok (fuel : ℕ) (s : ControlState) (r : Reader) : (k.loop fuel s r).1.2.1.ok = true ↔
    s.ok = true ∧ ∀ m ∈ (k.loop fuel s r).1.1, m.Fits r.info.len → m.header.blockType ∈ k.types := by
  induction fuel generalizing s r with
  | zero => exact (and_iff_left fun m hm => by cases hm).symm
  | succ fuel ih =>
    by_cases h : More r
    · have hturn := turn_spec (k := k) (s := s) h
      rw [loop_more fuel s h]
      show (k.loop fuel _ _).1.2.1.ok = true ↔ _ ∧ ∀ m ∈ _ :: _, _
      rw [ih, turn_len, hturn.ok, List.forall_mem_cons, and_assoc]
    · rw [loop_done fuel s h]
      exact (and_iff_left fun m hm => by cases hm).symm

/-- The blocks that are read are those that fit and are of the types of the loop. -/
theorem loop_parsed (fuel : ℕ) (s : ControlState) (r : Reader) : ∀ m ∈ (k.loop fuel s r).1.1,
    m.parsed = true ↔ m.Fits r.info.len ∧ m.header.blockType ∈ k.types := by
  induction fuel generalizing s r with
  | zero =>
    intro m hm
    cases hm
  | succ fuel ih =>
    by_cases h : More r
    · have hturn := turn_spec (k := k) (s := s) h
      have hrest := ih (k.turn s r).1.2 (k.turn s r).2
      rw [turn_len] at hrest
      rw [loop_more fuel s h]
      exact List.forall_mem_cons.mpr ⟨hturn.parsed, hrest⟩
    · rw [loop_done fuel s h]
      intro m hm
      cases hm

/-- Blocks that are read without an error lie one behind the other exactly when their headers say the
length of a control block. -/
theorem loop_tiles (fuel : ℕ) (s : ControlState) (start r : Reader) (hr : r.info = start.info)
    (hok : (k.loop fuel s r).2.info.result = .PF_PARSE_OK) :
    Tiles k.types start r.pos (k.loop fuel s r).1.1 (k.loop fuel s r).2.pos ↔
      ∀ m ∈ (k.loop fuel s r).1.1, m.parsed = true ∧ m.header.blockLength = controlBlockLength := by
  induction fuel generalizing s r with
  | zero => exact iff_of_true rfl fun m hm => by cases hm
  | succ fuel ih =>
    by_cases h : More r
    · have hturn := turn_spec (k := k) (s := s) h
      rw [loop_more fuel s h] at hok ⊢
      rcases (scans_loop (k := k) fuel (k.turn s r).1.2).moves (k.turn s r).2 with
        ⟨-, -, -, hback, -⟩
      have hturned := hback hok
      have hinfo := (scans_turn (k := k) s).info_of_ok hturned
      have hrest := ih (k.turn s r).1.2 (k.turn s r).2 (hinfo.trans hr) hok
      have hheader : (k.turn s r).1.1.header = blockHeaderAt start r.pos := by
        rw [hturn.header, blockHeaderAt, ← hr]
      show _ ∧ _ ∧ _ ∧ _ ∧ _ ∧ _ ↔ ∀ m ∈ _ :: _, _
      rw [List.forall_mem_cons, hturn.stop, hrest]
      constructor
      · rintro ⟨-, -, hparsed, -, hstop, hall⟩
        have hspent := hturn.spent hparsed hturned
        refine ⟨⟨hparsed, ?_⟩, hall⟩
        apply BitVec.eq_of_toNat_eq
        rw [hspent] at hstop
        show _ = 28
        change r.pos + 6 + 26 = _ at hstop
        omega
      · rintro ⟨⟨hparsed, hlength⟩, hall⟩
        have hspent := hturn.spent hparsed hturned
        refine ⟨hturn.pos, hheader, hparsed, (hturn.parsed.mp hparsed).2, ?_, hall⟩
        rw [hspent, hlength]
        rfl
    · rw [loop_done fuel s h]
      exact iff_of_true rfl fun m hm => by cases hm

/-! ## Requests -/

variable {argsLength : BitVec 32} {stat : PnetResult} {start : Reader}

theorem discover_ok (p : ℕ) : (k.discover argsLength p s r).ok = true ↔
    s.ok = true ∧ r.info.result = .PF_PARSE_OK ∧ r.pos = r.info.len ∧
      BitVec.ofNat 32 (r.pos - p) = argsLength ∧ s.block.controlCommand = k.controlCommand := by
  unfold discover
  by_cases hs : s.ok = true
  · rw [if_neg (by simp [hs]), hs]
    by_cases hok : r.info.result = .PF_PARSE_OK
    · rw [if_neg (not_not_intro hok)]
      by_cases hlen : r.pos = r.info.len
      · rw [if_neg (not_not_intro hlen)]
        by_cases hargs : BitVec.ofNat 32 (r.pos - p) = argsLength
        · rw [if_neg (not_not_intro hargs)]
          by_cases hcommand : s.block.controlCommand = k.controlCommand
          · rw [if_neg (not_not_intro hcommand)]
            exact iff_of_true hs ⟨rfl, hok, hlen, hargs, hcommand⟩
          · rw [if_pos hcommand]
            exact iff_of_false Bool.false_ne_true fun h => hcommand h.2.2.2.2
        · rw [if_pos hargs]
          exact iff_of_false Bool.false_ne_true fun h => hargs h.2.2.2.1
      · rw [if_pos hlen]
        exact iff_of_false Bool.false_ne_true fun h => hlen h.2.2.1
    · rw [if_pos hok]
      exact iff_of_false Bool.false_ne_true fun h => hok h.2.1
  · rw [if_pos (by simpa using hs)]
    exact (and_iff_left_of_imp fun h => absurd h hs).symm

/-- A block in the datagram is of another type, the blocks do not end where they should, or the command
is another one. -/
def Refused (k : ControlKind) (argsLength : BitVec 32) (stat : PnetResult) (start : Reader) : Prop :=
  let ((met, s, _), r) := k.blocks stat start
  (∃ m ∈ met, m.Fits start.info.len ∧ m.header.blockType ∉ k.types) ∨
    r.info.result ≠ .PF_PARSE_OK ∨ r.pos ≠ start.info.len ∨
    BitVec.ofNat 32 (r.pos - start.pos) ≠ argsLength ∨ s.block.controlCommand ≠ k.controlCommand

theorem interpret_ok (k : ControlKind) (argsLength : BitVec 32) (stat : PnetResult)
    (start : Reader) :
    (k.interpret argsLength stat start).ok = true ↔ ¬k.Refused argsLength stat start := by
  rcases (scans_loop (k := k) (start.info.len + 1) ⟨true, stat, clearedControl⟩).moves start with
    ⟨hlen, -⟩
  have hloop := loop_ok (k := k) (start.info.len + 1) ⟨true, stat, clearedControl⟩ start
  unfold interpret Refused blocks
  generalize k.loop (start.info.len + 1) ⟨true, stat, clearedControl⟩ start = out at hlen hloop ⊢
  rcases out with ⟨⟨met, s, ended⟩, r⟩
  change r.info.len = start.info.len at hlen
  change s.ok = true ↔ true = true ∧ ∀ m ∈ met, m.Fits start.info.len → _ at hloop
  show (k.discover argsLength start.pos s r).ok = true ↔ ¬(_ ∨ _)
  rw [discover_ok, hloop, hlen]
  simp only [not_or, not_exists, not_and, not_not, true_and, ne_eq]

/-- The blocks have the length of a control block, and are in the datagram. -/
def Right (k : ControlKind) (stat : PnetResult) (start : Reader) : Prop :=
  ∀ m ∈ (k.blocks stat start).1.1,
    m.Fits start.info.len ∧ m.header.blockLength = controlBlockLength

theorem covered_iff (k : ControlKind) (argsLength : BitVec 32) (stat : PnetResult) (start : Reader)
    (hlen : start.info.len < 2 ^ 16) :
    Covered (k.interpret argsLength stat) k.types argsLength start ↔
      (k.blocks stat start).2.pos ≤ start.pos + argsLength.toNat ∧
        (k.Refused argsLength stat start ∨ k.Right stat start) := by
  have hscans := scans_loop (k := k) (start.info.len + 1) ⟨true, stat, clearedControl⟩
  rcases hscans.moves start with ⟨-, hforward, hinside, -, -⟩
  apply covered_iff_of
  · exact loop_ended _ _ _ (by omega) (Nat.succ_pos _)
  · exact hinside
  · intro buf hsame
    have hblocks : k.blocks stat (start.withBuf buf) =
        ((k.blocks stat start).1, (k.blocks stat start).2.withBuf buf) :=
      hscans.only start buf hsame
    unfold interpret
    rw [hblocks]
    rfl
  · exact interpret_ok k argsLength stat start
  · intro haccepted
    have hnot := (interpret_ok k argsLength stat start).mp haccepted
    have hparsed : ∀ m ∈ (k.blocks stat start).1.1,
        (m.parsed = true ↔ m.Fits start.info.len ∧ m.header.blockType ∈ k.types) :=
      loop_parsed _ _ _
    have htiles : (k.blocks stat start).2.info.result = .PF_PARSE_OK →
        (Tiles k.types start start.pos (k.blocks stat start).1.1 (k.blocks stat start).2.pos ↔
          ∀ m ∈ (k.blocks stat start).1.1,
            m.parsed = true ∧ m.header.blockLength = controlBlockLength) :=
      loop_tiles _ _ start start rfl
    simp only [Refused, not_or, not_exists, not_and, not_not, ne_eq] at hnot
    rcases hnot with ⟨hknown, hok, hend, hargs, -⟩
    refine ⟨(htiles hok).trans ?_, hend, ?_⟩
    · constructor
      · intro h m hm
        exact ⟨((hparsed m hm).mp (h m hm).1).1, (h m hm).2⟩
      · intro h m hm
        exact ⟨(hparsed m hm).mpr ⟨(h m hm).1, hknown m hm (h m hm).1⟩, (h m hm).2⟩
    · have hlength : (k.blocks stat start).2.pos - start.pos = argsLength.toNat := by
        rw [← hargs, BitVec.toNat_ofNat, Nat.mod_eq_of_lt]
        omega
      have hge : start.pos ≤ (k.blocks stat start).2.pos := hforward
      show (k.blocks stat start).2.pos = _
      omega

end ControlKind

end PNet.Rpc
