import Mathlib.Data.List.TakeWhile
import PNet.Fspm.RecordWrite

/-! # Reading the I&M data

FSPM hands out the data it keeps, and `pf_cmrdr_rm_read_ind` puts them into a block. Strings are put
without their terminator and padded with blanks, but the test for room counts the terminator.

* `im_read_back_iff`: a record that has been written is read back, and the other ones read as before,
  exactly when the response has room for the block and for a terminator in strings.
-/

namespace PNet.Fspm

open Block Rpc Response

def PF_BT_IM_1 : BitVec 16 := 0x0021
def PF_BT_IM_2 : BitVec 16 := 0x0022
def PF_BT_IM_3 : BitVec 16 := 0x0023
def PF_BT_IM_4 : BitVec 16 := 0x0024

/-! ## The writers -/

/-- The padding loop of `pf_put_str`. -/
def putBlanks : ℕ → ℕ → Writer → Writer
  | 0, _, w => w
  | n + 1, resLen, w => putBlanks n resLen (putByte 0x20 resLen w)

/-- `pf_put_str`, with an array that ends with a terminator behind `src`. -/
def putStr (src : List Byte) (resLen : ℕ) (w : Writer) : Writer :=
  let string := src.takeWhile (· ≠ 0)
  if resLen < w.pos + (src.length + 1) then w
  else putBlanks (src.length - string.length) resLen (w.append string)

def str (src : List Byte) : Put := lift (putStr src)

def putIm1 (e : Bool) (im1 : Im1) : Put :=
  block e PF_BT_IM_1 PNET_BLOCK_VERSION_LOW fun _ =>
    seq [str im1.imTagFunction.toList, str im1.imTagLocation.toList]

def putIm2 (e : Bool) (imDate : Vector Byte 16) : Put :=
  block e PF_BT_IM_2 PNET_BLOCK_VERSION_LOW fun _ => seq [str imDate.toList]

def putIm3 (e : Bool) (imDescriptor : Vector Byte 54) : Put :=
  block e PF_BT_IM_3 PNET_BLOCK_VERSION_LOW fun _ => seq [str imDescriptor.toList]

def putRecordDataRead (e : Bool) (blockType : BitVec 16) (rawData : List Byte) : Put :=
  block e blockType PNET_BLOCK_VERSION_LOW fun _ => seq [mem rawData]

/-! ## A read -/

/-- What `pf_fspm_cm_read_ind` says about the length of a record with this size, and CMRDR about one
that is not there. -/
def imLength (supported flag : BitVec 16) (size : ℕ) : ℕ := if supported &&& flag ≠ 0 then size else 0

/-- A branch of CMRDR for an I&M record: "put it into the response after verifying the data
length". -/
def imBranch (dataLen size : ℕ) (p : Put) (resLen : ℕ) (w : Writer) : Bool × Writer :=
  if dataLen = size ∧ w.pos + dataLen < resLen then (true, buffer (p resLen w)) else (false, w)

/-- The branches of `pf_cmrdr_rm_read_ind` for I&M1 to I&M4, with the sizes of the structures. -/
def putIm (supported index : BitVec 16) (data : ImData) (resLen : ℕ) (w : Writer) :
    Bool × Writer :=
  if index = PF_IDX_SUB_IM_1 then
    imBranch (imLength supported PNET_SUPPORTED_IM1 56) 56 (putIm1 true data.im1) resLen w
  else if index = PF_IDX_SUB_IM_2 then
    imBranch (imLength supported PNET_SUPPORTED_IM2 17) 17 (putIm2 true data.imDate) resLen w
  else if index = PF_IDX_SUB_IM_3 then
    imBranch (imLength supported PNET_SUPPORTED_IM3 55) 55 (putIm3 true data.imDescriptor) resLen w
  else
    imBranch (imLength supported PNET_SUPPORTED_IM4 54) 54
      (putRecordDataRead true PF_BT_IM_4 data.imSignature.toList) resLen w

/-- The records I&M1 to I&M4. -/
def isIm (index : BitVec 16) : Prop :=
  index = PF_IDX_SUB_IM_1 ∨ index = PF_IDX_SUB_IM_2 ∨ index = PF_IDX_SUB_IM_3 ∨
    index = PF_IDX_SUB_IM_4

instance (index : BitVec 16) : Decidable (isIm index) :=
  inferInstanceAs (Decidable (_ ∨ _ ∨ _ ∨ _))

/-- The surroundings of a read, with FSPM in them as the keeper of I&M1 to I&M4: it leaves the status
of their reads alone. -/
def imEnv (env : ReadEnv) (supported : BitVec 16) (data : ImData) : ReadEnv :=
  { env with
    keeps := fun index room stat => if isIm index then stat else env.keeps index room stat
    write := fun c q resLen w =>
      if c = .im ∧ isIm q.index then putIm supported q.index data resLen w
      else env.write c q resLen w }

/-! ## What a read says -/

def imBlockType (index : BitVec 16) : BitVec 16 :=
  if index = PF_IDX_SUB_IM_1 then PF_BT_IM_1
  else if index = PF_IDX_SUB_IM_2 then PF_BT_IM_2
  else if index = PF_IDX_SUB_IM_3 then PF_BT_IM_3
  else PF_BT_IM_4

/-- Behind the result of the read, which has 64 bytes, stands the block of these data, and nothing
behind it. -/
def AnswersWith (w : Writer) (answered : Answered) (bhType : BitVec 16) (bytes : List Byte) : Prop :=
  answered.content = some .im ∧ answered.response.pos = w.pos + 64 + (bytes.length + 6) ∧
    Buffer.slice answered.response.bytes (w.pos + 64) (bytes.length + 6) =
      blockBytes true bhType PNET_BLOCK_VERSION_LOW bytes

/-- Between the data `before` and `after`, the record with this index has become `bytes`, as reads see
it; `q` is a read of it with the response `w`. -/
def ReadsBack (net : Net) (env : ReadEnv) (ar : Option ℕ) (stat : PnetResult)
    (supported : BitVec 16) (before after : ImData) (index : BitVec 16) (bytes : List Byte)
    (q : ReadRequest) (resLen : ℕ) (w : Writer) : Prop :=
  AnswersWith w (cmrdrRmReadInd net (imEnv env supported after) ar q stat resLen w)
      (imBlockType index) bytes ∧
    ∀ q' resLen' w', q'.index ≠ index →
      cmrdrRmReadInd net (imEnv env supported after) ar q' stat resLen' w' =
        cmrdrRmReadInd net (imEnv env supported before) ar q' stat resLen' w'

/-- The room that the block of a record takes: its header, the data, and a terminator if they are
strings. -/
def imRoom (index : BitVec 16) : ℕ :=
  if index = PF_IDX_SUB_IM_1 then 6 + 54 + 1
  else if index = PF_IDX_SUB_IM_2 then 6 + 16 + 1
  else if index = PF_IDX_SUB_IM_3 then 6 + 54 + 1
  else 6 + 54

/-! ## Strings -/

section
variable {src : List Byte} {resLen start : ℕ} {w : Writer}

/-- A string of full length needs no padding. -/
theorem putStr_eq (h : ∀ b ∈ src, b ≠ 0) : putStr src resLen w =
    if resLen < w.pos + (src.length + 1) then w else w.append src := by
  have hwhole : src.takeWhile (· ≠ 0) = src := by
    rw [List.takeWhile_eq_self_iff]
    intro b hb
    exact decide_eq_true (h b hb)
  unfold putStr
  dsimp only
  rw [hwhole, Nat.sub_self]
  rfl

theorem writes_str (h : ∀ b ∈ src, b ≠ 0) : WritesIn 1 start (str src) fun _ => src := by
  intro resLen w _ hroom
  rw [str, lift, putStr_eq h, if_neg (by dsimp only at hroom; omega)]

/-- Where a string of `n` characters comes to. -/
def strMove (n : ℕ) : Move := fun limit pos =>
  some (if limit < pos + (n + 1) then pos else pos + n)

theorem moves_str (h : ∀ b ∈ src, b ≠ 0) : Moves start (str src) (strMove src.length) := by
  apply moves_lift
  · intro limit w
    rw [putStr_eq h]
    split
    · exact .refl limit w
    · rename_i hroom
      have hmem := @kept_mem limit src w
      rwa [putMem, if_neg (by omega)] at hmem
  · intro limit w
    rw [putStr_eq h]
    unfold strMove
    split
    · rfl
    · rfl

end

/-! ## The result of a read -/

section
variable {resLen : ℕ} {w : Writer}

theorem cut_cut (limit m n pos : ℕ) : cut limit n (cut limit m pos) = cut limit (m + n) pos := by
  unfold cut
  omega

theorem putUint16_pos (e : Bool) (val : BitVec 16) :
    (putUint16 e val resLen w).pos = cut resLen 2 w.pos :=
  Option.some.inj (@moves_uint16 0 e val resLen w (Nat.zero_le _)).2

theorem putUint32_pos (e : Bool) (val : BitVec 32) :
    (putUint32 e val resLen w).pos = cut resLen 4 w.pos :=
  Option.some.inj (@moves_uint32 0 e val resLen w (Nat.zero_le _)).2

theorem putPadding_pos (n : ℕ) : (putPadding n resLen w).pos = cut resLen n w.pos :=
  Option.some.inj (@moves_padding 0 n resLen w (Nat.zero_le _)).2

theorem putBlockHeader_pos (e : Bool) (bhType bhLength : BitVec 16) (verHigh verLow : Byte) :
    (putBlockHeader e bhType bhLength verHigh verLow resLen w).pos = cut resLen 6 w.pos :=
  Option.some.inj
    (@moves_blockHeader 0 e bhType bhLength verHigh verLow resLen w (Nat.zero_le _)).2

theorem putUuid_pos (e : Bool) (u : Uuid) :
    (putUuid e u resLen w).pos = fit resLen 8 (cut resLen 8 w.pos) := by
  unfold putUuid
  rw [putMem_pos, putUint16_pos, putUint16_pos, putUint32_pos, cut_cut, cut_cut,
    Vector.length_toList]

/-- The place of the data length, and the end of the result. -/
theorem putReadResult_pos (e : Bool) (q : ReadRequest) (stat : PnetResult) :
    let r := putReadResult e q stat resLen w
    (w.pos + 64 ≤ resLen → r.1 = w.pos + 36 ∧ r.2.pos = w.pos + 64) ∧
      (resLen < w.pos + 64 → resLen ≤ r.2.pos + 8) := by
  unfold putReadResult
  simp only [putPadding_pos, putUint16_pos, putUint32_pos, putByte_pos, putUuid_pos,
    putBlockHeader_pos, cut_cut]
  unfold cut fit
  constructor
  · intro hroom
    split
    · omega
    · omega
  · intro hshort
    split
    · omega
    · omega

end

/-! ## The block of a record -/

section
variable {net : Net} {env : ReadEnv} {ar : Option ℕ} {q : ReadRequest} {stat : PnetResult}
  {resLen : ℕ} {w : Writer} {supported : BitVec 16} {data : ImData}

theorem contentOf_im (h : isIm q.index) : contentOf ar q = some Content.im := by
  unfold contentOf records
  rcases h with h | h | h | h
  · rw [h]
    rfl
  · rw [h]
    rfl
  · rw [h]
    rfl
  · rw [h]
    rfl

/-- CMRDR puts the result of the read, the block, and then the length of the data into the result. -/
theorem cmrdrRmReadInd_im (h : isIm q.index) : ∃ val,
    let r := putReadResult true q stat resLen w
    let out := putIm supported q.index data resLen r.2
    let answered := cmrdrRmReadInd net (imEnv env supported data) ar q stat resLen w
    answered.content = (if out.1 then some Content.im else none) ∧
      answered.response = ⟨(putUint32 true val resLen ⟨out.2.bytes, r.1⟩).bytes, out.2.pos⟩ := by
  have huser : ¬ q.index ≤ PF_IDX_USER_MAX := by
    rcases h with h | h | h | h
    · rw [h]
      decide
    · rw [h]
      decide
    · rw [h]
      decide
    · rw [h]
      decide
  have hfetched (room : ℕ) : fspmCmReadInd net (imEnv env supported data) ar q stat room =
      ⟨[], stat, none, []⟩ := by
    unfold fspmCmReadInd imEnv
    rw [if_neg huser]
    dsimp only
    rw [if_pos h]
  have hput (w' : Writer) : putContent (imEnv env supported data) q [] resLen w' Content.im =
      putIm supported q.index data resLen w' := by
    show (imEnv env supported data).write Content.im q resLen w' = _
    unfold imEnv
    dsimp only
    rw [if_pos ⟨rfl, h⟩]
  unfold cmrdrRmReadInd
  simp only [hfetched, contentOf_im h, hput]
  refine ⟨_, ?_, rfl⟩
  trivial

/-- A branch for a block of `bytes`, of which nothing less than `extra` more bytes are left over. -/
theorem branch_answers {p : Put} {bhType : BitVec 16} {bytes : List Byte} {size extra : ℕ}
    (hwrites : WritesIn extra 0 p fun _ => blockBytes true bhType PNET_BLOCK_VERSION_LOW bytes)
    (hshort : ∀ limit w, w.pos + size < limit → limit < w.pos + (bytes.length + 6) + extra →
      (buffer (p limit w)).pos ≠ w.pos + (bytes.length + 6))
    (hsize : 8 ≤ size ∧ size < bytes.length + 6 + extra) {val : BitVec 32} {answered : Answered}
    (hanswered :
      let r := putReadResult true q stat resLen w
      let out := imBranch size size p resLen r.2
      answered.content = (if out.1 then some Content.im else none) ∧
        answered.response = ⟨(putUint32 true val resLen ⟨out.2.bytes, r.1⟩).bytes, out.2.pos⟩) :
    AnswersWith w answered bhType bytes ↔ w.pos + 64 + (bytes.length + 6 + extra) ≤ resLen := by
  have hpos := @putReadResult_pos resLen w true q stat
  dsimp only at hanswered hpos
  generalize putReadResult true q stat resLen w = r at hanswered hpos
  rcases hanswered with ⟨hcontent, hresponse⟩
  unfold AnswersWith
  rw [hcontent, hresponse]
  dsimp only
  by_cases hbranch : r.2.pos + size < resLen
  · -- the branch is taken: the result of the read is there as a whole
    have hout : imBranch size size p resLen r.2 = (true, buffer (p resLen r.2)) := by
      unfold imBranch
      rw [if_pos ⟨rfl, hbranch⟩]
    rcases hpos.1 (by omega) with ⟨hlength, hstart⟩
    rw [hout]
    dsimp only
    by_cases hroom : w.pos + 64 + (bytes.length + 6 + extra) ≤ resLen
    · refine iff_of_true ⟨rfl, ?_⟩ hroom
      have hput := hwrites resLen r.2 (Nat.zero_le _) (by
        dsimp only
        rw [blockBytes_length]
        omega)
      rw [hput]
      dsimp only [buffer]
      constructor
      · show r.2.pos + _ = _
        rw [blockBytes_length, hstart]
      · -- the length of the data is in front of the block
        have hpatch := @appends_uint32 resLen true val ⟨(r.2.append (blockBytes true bhType
          PNET_BLOCK_VERSION_LOW bytes)).bytes, r.1⟩ (by rw [bytes32_length]; dsimp only; omega)
        have hslice : Buffer.slice (r.2.append (blockBytes true bhType PNET_BLOCK_VERSION_LOW
            bytes)).bytes (w.pos + 64) (bytes.length + 6) =
              blockBytes true bhType PNET_BLOCK_VERSION_LOW bytes := by
          rw [← hstart, ← blockBytes_length true bhType PNET_BLOCK_VERSION_LOW bytes]
          exact Buffer.slice_write_self _ _ _
        rw [hpatch]
        refine Eq.trans ?_ hslice
        apply Buffer.slice_congr
        intro i hi _
        apply Buffer.write_outside
        right
        rw [bytes32_length]
        dsimp only
        omega
    · apply iff_of_false _ hroom
      rintro ⟨-, hend, -⟩
      apply hshort resLen r.2 hbranch (by omega)
      omega
  · have hout : imBranch size size p resLen r.2 = (false, r.2) := by
      unfold imBranch
      rw [if_neg (fun h => hbranch h.2)]
    rw [hout]
    apply iff_of_false
    · rintro ⟨hsome, -⟩
      cases hsome
    · intro hroom
      have hstart := (hpos.1 (by omega)).2
      omega

end

/-! ## The blocks of the records -/

/-- Where a writer comes to that comes back. -/
theorem pos_of_moves {start limit x : ℕ} {p : Put} {m : Move} {w : Writer} (h : Moves start p m)
    (hstart : start ≤ w.pos) (hm : m limit w.pos = some x) : (buffer (p limit w)).pos = x := by
  have hpos := (h limit w hstart).2
  rw [hm] at hpos
  cases hput : p limit w with
  | error w' =>
    rw [hput] at hpos
    cases hpos
  | ok w' =>
    rw [hput] at hpos
    exact Option.some.inj hpos

section
variable {bhType : BitVec 16} {src src' : List Byte}

/-- A block with one string. -/
theorem writes_strBlock (h : ∀ b ∈ src, b ≠ 0) :
    WritesIn 1 0 (block true bhType PNET_BLOCK_VERSION_LOW fun _ => seq [str src])
      fun _ => blockBytes true bhType PNET_BLOCK_VERSION_LOW src :=
  writes_block_const (fun _ => writes_one (writes_str h)) 0

/-- Without room for the terminator the string is left out. -/
theorem short_strBlock (h : ∀ b ∈ src, b ≠ 0) (hlong : 0 < src.length) (limit : ℕ) (w : Writer)
    (hheader : w.pos + 6 ≤ limit) (hlimit : limit < w.pos + (src.length + 6) + 1) :
    (buffer (block true bhType PNET_BLOCK_VERSION_LOW (fun _ => seq [str src]) limit w)).pos ≠
      w.pos + (src.length + 6) := by
  have hmoves := @moves_block true bhType PNET_BLOCK_VERSION_LOW (fun _ => seq [str src]) _
    (fun start => moves_cons (moves_str h) moves_nil) 0
  have hpos := @pos_of_moves 0 limit (w.pos + 6) _ _ w hmoves (Nat.zero_le _) (by
    show some (if limit < cut limit 6 w.pos + (src.length + 1) then cut limit 6 w.pos
      else cut limit 6 w.pos + src.length) = some (w.pos + 6)
    unfold cut
    rw [if_pos (by omega)]
    congr 1
    omega)
  rw [hpos]
  omega

theorem writes_strsBlock (h : ∀ b ∈ src, b ≠ 0) (h' : ∀ b ∈ src', b ≠ 0) :
    WritesIn 1 0 (block true bhType PNET_BLOCK_VERSION_LOW fun _ => seq [str src, str src'])
      fun _ => blockBytes true bhType PNET_BLOCK_VERSION_LOW (src ++ src') :=
  writes_block_const (fun _ => writes_append (writes_str h) (writes_one (writes_str h'))) 0

/-- Without room for its terminator the second string is left out. -/
theorem short_strsBlock (h : ∀ b ∈ src, b ≠ 0) (h' : ∀ b ∈ src', b ≠ 0) (hlong : 0 < src'.length)
    (limit : ℕ) (w : Writer) (hheader : w.pos + (src.length + 7) ≤ limit)
    (hlimit : limit < w.pos + ((src ++ src').length + 6) + 1) :
    (buffer (block true bhType PNET_BLOCK_VERSION_LOW (fun _ => seq [str src, str src'])
      limit w)).pos ≠ w.pos + ((src ++ src').length + 6) := by
  rw [List.length_append] at hlimit ⊢
  have hmoves := @moves_block true bhType PNET_BLOCK_VERSION_LOW
    (fun _ => seq [str src, str src']) _
    (fun start => moves_cons (moves_str h) (moves_cons (moves_str h') moves_nil)) 0
  have hpos := @pos_of_moves 0 limit (w.pos + 6 + src.length) _ _ w hmoves
    (Nat.zero_le _) (by
    have hcut : cut limit 6 w.pos = w.pos + 6 := by
      unfold cut
      omega
    show (strMove src.length limit (cut limit 6 w.pos)).bind
      (fun pos => (strMove src'.length limit pos).bind some) = _
    unfold strMove
    rw [hcut, if_neg (by omega)]
    dsimp only [Option.bind_some]
    rw [if_pos (by omega)])
  rw [hpos]
  omega

theorem writes_memBlock (src : List Byte) :
    WritesIn 0 0 (block true bhType PNET_BLOCK_VERSION_LOW fun _ => seq [mem src])
      fun _ => blockBytes true bhType PNET_BLOCK_VERSION_LOW src :=
  writes_block_const (fun _ => writes_one (writes_mem src)) 0

/-- Without room for all of them the bytes are left out. -/
theorem short_memBlock (hlong : 0 < src.length) (limit : ℕ) (w : Writer)
    (hheader : w.pos + 6 ≤ limit) (hlimit : limit < w.pos + (src.length + 6)) :
    (buffer (block true bhType PNET_BLOCK_VERSION_LOW (fun _ => seq [mem src]) limit w)).pos ≠
      w.pos + (src.length + 6) := by
  have hmoves := @moves_block true bhType PNET_BLOCK_VERSION_LOW (fun _ => seq [mem src]) _
    (fun start => moves_cons (moves_mem src) moves_nil) 0
  have hpos := @pos_of_moves 0 limit (w.pos + 6) _ _ w hmoves (Nat.zero_le _) (by
    show some (fit limit src.length (cut limit 6 w.pos)) = some (w.pos + 6)
    unfold fit cut
    rw [if_pos (by omega)]
    congr 1
    omega)
  rw [hpos]
  omega

end

/-! ## A write that is accepted -/

section
variable {supported index : BitVec 16} {bytes : ℕ → Byte} {writeLength : ℕ} {data : ImData}
  {stat : PnetResult}

theorem field_toList (bytes : ℕ → Byte) (pos n : ℕ) :
    (field bytes pos n).toList = Buffer.slice bytes pos n := by
  apply List.ext_getElem
  · rw [Vector.length_toList, Buffer.slice_length]
  · intro i hi hi'
    simp only [field, Vector.getElem_toList, Vector.getElem_ofFn, Buffer.slice, List.getElem_map,
      List.getElem_range]

theorem imCopy_accepted {flag : BitVec 16} {size : ℕ} {stored : ImData}
    (h : (imCopy supported flag size writeLength stored data stat).1 = 0) :
    supported &&& flag ≠ 0 ∧ writeLength = size ∧
      (imCopy supported flag size writeLength stored data stat).2.2 = stored := by
  unfold imCopy at h ⊢
  by_cases hflag : supported &&& flag ≠ 0
  · by_cases hsize : writeLength = size
    · rw [if_pos hflag, if_pos hsize]
      exact ⟨hflag, hsize, rfl⟩
    · rw [if_pos hflag, if_neg hsize] at h
      cases (show (-1 : ℤ) = 0 from h)
  · rw [if_neg hflag] at h
    cases (show (-1 : ℤ) = 0 from h)

/-- The record is one of I&M1 to I&M4, it is supported, and it is stored as a whole. -/
theorem imSwitch_accepted (h : (imSwitch supported index bytes writeLength data stat).1 = 0) :
    let data' := (imSwitch supported index bytes writeLength data stat).2.2
    (index = PF_IDX_SUB_IM_1 ∧ supported &&& PNET_SUPPORTED_IM1 ≠ 0 ∧ writeLength = 54 ∧
        data' = { data with im1 := ⟨field bytes 0 32, field bytes 32 22⟩ }) ∨
      (index = PF_IDX_SUB_IM_2 ∧ supported &&& PNET_SUPPORTED_IM2 ≠ 0 ∧ writeLength = 16 ∧
        data' = { data with imDate := field bytes 0 16 }) ∨
      (index = PF_IDX_SUB_IM_3 ∧ supported &&& PNET_SUPPORTED_IM3 ≠ 0 ∧ writeLength = 54 ∧
        data' = { data with imDescriptor := field bytes 0 54 }) ∨
      (index = PF_IDX_SUB_IM_4 ∧ supported &&& PNET_SUPPORTED_IM4 ≠ 0 ∧ writeLength = 54 ∧
        data' = { data with imSignature := field bytes 0 54 }) := by
  by_cases h1 : index = PF_IDX_SUB_IM_1
  · subst h1
    left
    by_cases hflag : supported &&& PNET_SUPPORTED_IM1 ≠ 0
    · have hswitch := @imSwitch_im1 supported bytes writeLength stat hflag data
      dsimp only at hswitch
      by_cases hlength : writeLength = 54
      · rw [if_pos hlength, if_neg (by omega), if_neg (by omega)] at hswitch
        rw [hswitch]
        exact ⟨rfl, hflag, hlength, rfl⟩
      · rw [if_neg hlength] at hswitch
        rw [hswitch] at h
        cases (show (-1 : ℤ) = 0 from h)
    · have hswitch : imSwitch supported PF_IDX_SUB_IM_1 bytes writeLength data stat =
          (-1, imRefused stat PNET_ERROR_CODE_1_ACC_INVALID_INDEX, data) := by
        unfold imSwitch
        rw [if_neg (by decide), if_pos rfl, if_neg hflag]
      rw [hswitch] at h
      cases (show (-1 : ℤ) = 0 from h)
  right
  unfold imSwitch at h ⊢
  by_cases h0 : index = PF_IDX_SUB_IM_0
  · rw [if_pos h0] at h
    cases (show (-1 : ℤ) = 0 from h)
  rw [if_neg h0, if_neg h1] at h ⊢
  by_cases h2 : index = PF_IDX_SUB_IM_2
  · left
    rw [if_pos h2] at h ⊢
    exact ⟨h2, imCopy_accepted h⟩
  right
  rw [if_neg h2] at h ⊢
  by_cases h3 : index = PF_IDX_SUB_IM_3
  · left
    rw [if_pos h3] at h ⊢
    exact ⟨h3, imCopy_accepted h⟩
  right
  rw [if_neg h3] at h ⊢
  by_cases h4 : index = PF_IDX_SUB_IM_4
  · rw [if_pos h4] at h ⊢
    exact ⟨h4, imCopy_accepted h⟩
  · rw [if_neg h4] at h
    cases (show (-1 : ℤ) = 0 from h)

end

/-! ## Writing and reading -/

section
variable {net : Net} {env : ReadEnv} {ar : Option ℕ} {q : ReadRequest} {stat : PnetResult}
  {resLen : ℕ} {w : Writer} {supported : BitVec 16} {data data' : ImData}

/-- Of the data a read of a record sees only this record. -/
theorem putIm_congr {index : BitVec 16}
    (h1 : index = PF_IDX_SUB_IM_1 → data'.im1 = data.im1)
    (h2 : index = PF_IDX_SUB_IM_2 → data'.imDate = data.imDate)
    (h3 : index = PF_IDX_SUB_IM_3 → data'.imDescriptor = data.imDescriptor)
    (h4 : index = PF_IDX_SUB_IM_4 → data'.imSignature = data.imSignature) (him : isIm index) :
    putIm supported index data' = putIm supported index data := by
  unfold putIm
  by_cases hi1 : index = PF_IDX_SUB_IM_1
  · simp only [if_pos hi1, h1 hi1]
  by_cases hi2 : index = PF_IDX_SUB_IM_2
  · simp only [if_neg hi1, if_pos hi2, h2 hi2]
  by_cases hi3 : index = PF_IDX_SUB_IM_3
  · simp only [if_neg hi1, if_neg hi2, if_pos hi3, h3 hi3]
  have hi4 : index = PF_IDX_SUB_IM_4 :=
    ((him.resolve_left hi1).resolve_left hi2).resolve_left hi3
  simp only [if_neg hi1, if_neg hi2, if_neg hi3, h4 hi4]

/-- A read only asks for its own record. -/
theorem cmrdrRmReadInd_congr
    (h : isIm q.index → putIm supported q.index data' = putIm supported q.index data) :
    cmrdrRmReadInd net (imEnv env supported data') ar q stat resLen w =
      cmrdrRmReadInd net (imEnv env supported data) ar q stat resLen w := by
  have hwrite (c : Content) (resLen : ℕ) (w : Writer) :
      (imEnv env supported data').write c q resLen w =
        (imEnv env supported data).write c q resLen w := by
    unfold imEnv
    dsimp only
    by_cases hc : c = Content.im ∧ isIm q.index
    · rw [if_pos hc, if_pos hc, h hc.2]
    · rw [if_neg hc, if_neg hc]
  have hput (bytes : List Byte) (w : Writer) (c : Content) :
      putContent (imEnv env supported data') q bytes resLen w c =
        putContent (imEnv env supported data) q bytes resLen w c := by
    cases c
    case application => rfl
    all_goals exact hwrite _ resLen w
  have hfetched (room : ℕ) : fspmCmReadInd net (imEnv env supported data') ar q stat room =
      fspmCmReadInd net (imEnv env supported data) ar q stat room := rfl
  unfold cmrdrRmReadInd
  simp only [hfetched, hput]

/-- A record with this index is read back as these bytes, when it is stored in `data`. -/
theorem answers_stored {index : BitVec 16} {bytes : ℕ → Byte} {n : ℕ}
    (hnul : ∀ i < n, bytes i ≠ 0)
    (hstored :
      (index = PF_IDX_SUB_IM_1 ∧ supported &&& PNET_SUPPORTED_IM1 ≠ 0 ∧ n = 54 ∧
          data = { data' with im1 := ⟨field bytes 0 32, field bytes 32 22⟩ }) ∨
        (index = PF_IDX_SUB_IM_2 ∧ supported &&& PNET_SUPPORTED_IM2 ≠ 0 ∧ n = 16 ∧
          data = { data' with imDate := field bytes 0 16 }) ∨
        (index = PF_IDX_SUB_IM_3 ∧ supported &&& PNET_SUPPORTED_IM3 ≠ 0 ∧ n = 54 ∧
          data = { data' with imDescriptor := field bytes 0 54 }) ∨
        (index = PF_IDX_SUB_IM_4 ∧ supported &&& PNET_SUPPORTED_IM4 ≠ 0 ∧ n = 54 ∧
          data = { data' with imSignature := field bytes 0 54 }))
    (hq : q.index = index) :
    AnswersWith w (cmrdrRmReadInd net (imEnv env supported data) ar q stat resLen w)
        (imBlockType index) (Buffer.slice bytes 0 n) ↔
      w.pos + 64 + imRoom index ≤ resLen := by
  have hslice (pos m : ℕ) (h : pos + m ≤ n) : ∀ b ∈ Buffer.slice bytes pos m, b ≠ 0 := by
    intro b hb
    unfold Buffer.slice at hb
    rcases List.mem_map.mp hb with ⟨i, hi, rfl⟩
    apply hnul
    have hlt := List.mem_range.mp hi
    omega
  have hlength (m : ℕ) : (Buffer.slice bytes 0 m).length = m := Buffer.slice_length bytes 0 m
  rcases hstored with ⟨rfl, hflag, rfl, hdata⟩ | ⟨rfl, hflag, rfl, hdata⟩ |
    ⟨rfl, hflag, rfl, hdata⟩ | ⟨rfl, hflag, rfl, hdata⟩
  · -- I&M1 has two strings
    rcases @cmrdrRmReadInd_im net env ar q stat resLen w supported data (.inl hq) with ⟨val, h⟩
    have hbranch (w' : Writer) : putIm supported q.index data resLen w' = imBranch 56 56
        (block true PF_BT_IM_1 PNET_BLOCK_VERSION_LOW fun _ =>
          seq [str (Buffer.slice bytes 0 32), str (Buffer.slice bytes 32 22)]) resLen w' := by
      unfold putIm imLength putIm1
      rw [if_pos hq, if_pos hflag, hdata]
      dsimp only
      rw [field_toList, field_toList]
    simp only [hbranch] at h
    have hsplit : Buffer.slice bytes 0 54 = Buffer.slice bytes 0 32 ++ Buffer.slice bytes 32 22 :=
      Buffer.slice_add bytes 0 32 22
    have hanswers := @branch_answers q stat resLen w _ PF_BT_IM_1
      (Buffer.slice bytes 0 32 ++ Buffer.slice bytes 32 22) 56 1
      (writes_strsBlock (hslice 0 32 (by omega)) (hslice 32 22 (by omega)))
      (fun limit w hsize hlimit => short_strsBlock (hslice 0 32 (by omega))
        (hslice 32 22 (by omega)) (by simp) limit w (by simp; omega) hlimit) (by simp) val _ h
    rw [hsplit]
    refine hanswers.trans ?_
    rw [← hsplit, hlength]
    rfl
  · rcases @cmrdrRmReadInd_im net env ar q stat resLen w supported data (.inr (.inl hq)) with
      ⟨val, h⟩
    have hbranch (w' : Writer) : putIm supported q.index data resLen w' = imBranch 17 17
        (block true PF_BT_IM_2 PNET_BLOCK_VERSION_LOW fun _ =>
          seq [str (Buffer.slice bytes 0 16)]) resLen w' := by
      unfold putIm imLength putIm2
      rw [if_neg (by rw [hq]; decide), if_pos hq, if_pos hflag, hdata]
      dsimp only
      rw [field_toList]
    simp only [hbranch] at h
    have hanswers := @branch_answers q stat resLen w _ PF_BT_IM_2 (Buffer.slice bytes 0 16) 17 1
      (writes_strBlock (hslice 0 16 (by omega)))
      (fun limit w hsize hlimit => short_strBlock (hslice 0 16 (by omega)) (by simp) limit w
        (by omega) hlimit) (by simp) val _ h
    refine hanswers.trans ?_
    rw [hlength]
    rfl
  · rcases @cmrdrRmReadInd_im net env ar q stat resLen w supported data (.inr (.inr (.inl hq))) with
      ⟨val, h⟩
    have hbranch (w' : Writer) : putIm supported q.index data resLen w' = imBranch 55 55
        (block true PF_BT_IM_3 PNET_BLOCK_VERSION_LOW fun _ =>
          seq [str (Buffer.slice bytes 0 54)]) resLen w' := by
      unfold putIm imLength putIm3
      rw [if_neg (by rw [hq]; decide), if_neg (by rw [hq]; decide), if_pos hq, if_pos hflag, hdata]
      dsimp only
      rw [field_toList]
    simp only [hbranch] at h
    have hanswers := @branch_answers q stat resLen w _ PF_BT_IM_3 (Buffer.slice bytes 0 54) 55 1
      (writes_strBlock (hslice 0 54 (by omega)))
      (fun limit w hsize hlimit => short_strBlock (hslice 0 54 (by omega)) (by simp) limit w
        (by omega) hlimit) (by simp) val _ h
    refine hanswers.trans ?_
    rw [hlength]
    rfl
  · rcases @cmrdrRmReadInd_im net env ar q stat resLen w supported data (.inr (.inr (.inr hq))) with
      ⟨val, h⟩
    have hbranch (w' : Writer) : putIm supported q.index data resLen w' = imBranch 54 54
        (block true PF_BT_IM_4 PNET_BLOCK_VERSION_LOW fun _ =>
          seq [mem (Buffer.slice bytes 0 54)]) resLen w' := by
      unfold putIm imLength putRecordDataRead
      rw [if_neg (by rw [hq]; decide), if_neg (by rw [hq]; decide), if_neg (by rw [hq]; decide),
        if_pos hflag, hdata]
      dsimp only
      rw [field_toList]
    simp only [hbranch] at h
    have hanswers := @branch_answers q stat resLen w _ PF_BT_IM_4 (Buffer.slice bytes 0 54) 54 0
      (writes_memBlock _)
      (fun limit w hsize hlimit => short_memBlock (by simp) limit w (by omega) hlimit)
      (by simp) val _ h
    refine hanswers.trans ?_
    rw [hlength]
    rfl

end

/-- **An I&M record that has been written is read back, and the other ones read as before**, exactly
when the response has room for the result of the read, for the block, and for a terminator behind
strings. -/
theorem im_read_back_iff (env : RecordEnv) (net : Net) (wq : WriteRequest) (result : WriteResult)
    (wstat : PnetResult) (r : Reader) (store : Records) (handed : Handed)
    (hok : (performOneWrite net (env.toWriteEnv r.info.buf store) wq result wstat r).1.ok = true)
    (hhanded : (performOneWrite net (env.toWriteEnv r.info.buf store) wq result wstat r).1.handed =
      some handed)
    (him : handed.receiver = .im)
    (hnul : ∀ i < handed.length, recordBytes r.info.buf handed i ≠ 0)
    (net' : Net) (renv : ReadEnv) (ar : Option ℕ) (stat : PnetResult) (q : ReadRequest)
    (hq : q.index = handed.index) (resLen : ℕ) (w : Writer) :
    let after := recordsAfter env r.info.buf store (some handed) wstat
    ReadsBack net' renv ar stat env.supported store.im.data after.im.data handed.index
        (Buffer.slice (recordBytes r.info.buf handed) 0 handed.length) q resLen w ↔
      w.pos + 64 + imRoom handed.index ≤ resLen := by
  intro after
  -- the answer to the write is that of FSPM
  rcases @performOneWrite_spec net (env.toWriteEnv r.info.buf store) wq result wstat r with
    ⟨hspec, haccepts⟩
  rw [hok, accepts, ← hspec, hhanded] at haccepts
  have hret : (takeRecord env r.info.buf store handed wstat).1.1 = 0 :=
    of_decide_eq_true haccepts.symm
  have htaken : takeRecord env r.info.buf store handed wstat =
      (((imWrite env.supported env.saves handed.index (recordBytes r.info.buf handed) handed.length
          store.im wstat).1,
        (imWrite env.supported env.saves handed.index (recordBytes r.info.buf handed) handed.length
          store.im wstat).2.1),
        { store with im := (imWrite env.supported env.saves handed.index
          (recordBytes r.info.buf handed) handed.length store.im wstat).2.2 }) := by
    unfold takeRecord
    rw [if_pos him]
  rw [htaken] at hret
  have hstored := @imSwitch_accepted _ _ _ _ store.im.data wstat hret
  have hdata : after.im.data = (imSwitch env.supported handed.index
      (recordBytes r.info.buf handed) handed.length store.im.data wstat).2.2 := by
    show (takeRecord env r.info.buf store handed wstat).2.im.data = _
    rw [htaken]
    unfold imWrite saveIm
    dsimp only
    split
    · split
      · rfl
      · rfl
    · rfl
  dsimp only at hstored
  rw [← hdata] at hstored
  constructor
  · intro h
    exact (answers_stored hnul hstored hq).mp h.1
  · intro hroom
    refine ⟨(answers_stored hnul hstored hq).mpr hroom, ?_⟩
    intro q' resLen' w' hne
    apply cmrdrRmReadInd_congr
    apply putIm_congr
    · intro hindex
      rcases hstored with ⟨h, -⟩ | ⟨-, -, -, h⟩ | ⟨-, -, -, h⟩ | ⟨-, -, -, h⟩
      · exact absurd (hindex.trans h.symm) hne
      · rw [h]
      · rw [h]
      · rw [h]
    · intro hindex
      rcases hstored with ⟨-, -, -, h⟩ | ⟨h, -⟩ | ⟨-, -, -, h⟩ | ⟨-, -, -, h⟩
      · rw [h]
      · exact absurd (hindex.trans h.symm) hne
      · rw [h]
      · rw [h]
    · intro hindex
      rcases hstored with ⟨-, -, -, h⟩ | ⟨-, -, -, h⟩ | ⟨h, -⟩ | ⟨-, -, -, h⟩
      · rw [h]
      · rw [h]
      · exact absurd (hindex.trans h.symm) hne
      · rw [h]
    · intro hindex
      rcases hstored with ⟨-, -, -, h⟩ | ⟨-, -, -, h⟩ | ⟨-, -, -, h⟩ | ⟨h, -⟩
      · rw [h]
      · rw [h]
      · rw [h]
      · exact absurd (hindex.trans h.symm) hne

/-! ## A response that is one byte short -/

namespace ShortRead

/-- A write of I&M1 with 54 bytes of data behind its block header. -/
def im1 : WriteRequest :=
  ⟨1, ⟨1, 2, 3, Vector.replicate 8 4⟩, 0, 0, 1, PF_IDX_SUB_IM_1, 60⟩

def im1Bytes : List Byte := [0x00, 0x21, 0, 56, 1, 0] ++ List.replicate 54 0x41

/-- The data of the write, as they are handed to FSPM. -/
def handed : Handed := ⟨.im, 0, 1, 1, 0, 0, 1, PF_IDX_SUB_IM_1, 106, 54⟩

def im1Read : ReadRequest := { clearedReadRequest with index := PF_IDX_SUB_IM_1 }

def response : Writer := ⟨fun _ => 0, 100⟩

/-- The records behind the write. -/
def after : Records :=
  recordsAfter exampleEnv (requestOf im1Bytes).info.buf exampleRecords (some handed) noError

/-- The write is answered positively. -/
theorem recordWritten :
    let w := (performOneWrite writableNet
      (exampleEnv.toWriteEnv (requestOf im1Bytes).info.buf exampleRecords) im1 clearedWriteResult
      noError (requestOf im1Bytes)).1
    w.ok = true ∧ w.handed = some handed := by
  decide +kernel

theorem without_nul :
    ∀ i < handed.length, recordBytes (requestOf im1Bytes).info.buf handed i ≠ 0 := by
  decide +kernel

/-- The block of I&M1 has 60 bytes. With room for just these the read is answered positively, and the
response ends behind the function. -/
theorem answered_short :
    let answered := cmrdrRmReadInd idleNet
      (imEnv readingEnv exampleEnv.supported after.im.data) none im1Read noError (100 + 64 + 60)
      response
    answered.content = some .im ∧ answered.response.pos = 100 + 64 + 38 := by
  decide +kernel

end ShortRead

open ShortRead in
/-- The location is missing in a response of 60 bytes. -/
theorem not_readsBack_short :
    let w := (performOneWrite writableNet
      (exampleEnv.toWriteEnv (requestOf im1Bytes).info.buf exampleRecords) im1 clearedWriteResult
      noError (requestOf im1Bytes)).1
    (w.ok = true ∧ w.handed = some handed ∧ handed.receiver = .im ∧
      (∀ i < handed.length, recordBytes (requestOf im1Bytes).info.buf handed i ≠ 0) ∧
      im1Read.index = handed.index) ∧
    ¬ ReadsBack idleNet readingEnv none noError exampleEnv.supported exampleRecords.im.data
      after.im.data handed.index
      (Buffer.slice (recordBytes (requestOf im1Bytes).info.buf handed) 0 handed.length) im1Read
      (100 + 64 + 60) response := by
  refine ⟨⟨recordWritten.1, recordWritten.2, rfl, without_nul, rfl⟩, ?_⟩
  rintro ⟨⟨-, hend, -⟩, -⟩
  have hshort := answered_short.2
  rw [hshort, Buffer.slice_length] at hend
  exact absurd hend (by decide)

open ShortRead in
/-- One byte more is enough. -/
theorem readsBack_of_room : ReadsBack idleNet readingEnv none noError exampleEnv.supported
    exampleRecords.im.data after.im.data handed.index
    (Buffer.slice (recordBytes (requestOf im1Bytes).info.buf handed) 0 handed.length) im1Read
    (100 + 64 + 61) response :=
  (im_read_back_iff exampleEnv writableNet im1 clearedWriteResult noError (requestOf im1Bytes)
    exampleRecords handed recordWritten.1 recordWritten.2 rfl without_nul idleNet readingEnv none
    noError im1Read rfl (100 + 64 + 61) response).mpr (by decide)

end PNet.Fspm
