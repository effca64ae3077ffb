import PNet.Block.RoundTrip
import PNet.Response.Frame

/-! # The control block

`pf_put_control`, and its reader `pf_get_control`, which starts behind the block header. The length
of a block is put last, and does not touch the fields behind the header.
-/

namespace PNet.Response

open Block Rpc

variable {resLen : ℕ}

/-! ## The length of a block -/

theorem insertLength_slice {e : Bool} {start p n : ℕ} (w : Writer) (hroom : start + 4 ≤ resLen)
    (hp : start + 4 ≤ p) :
    Buffer.slice (insertLength e resLen start w).bytes p n = Buffer.slice w.bytes p n := by
  have hput := @appends_uint16 resLen e (BitVec.ofNat 16 w.pos - BitVec.ofNat 16 (start + 4))
    ⟨w.bytes, start + 2⟩ (by rw [bytes16_length]; exact hroom)
  apply Buffer.slice_congr
  intro i hi _
  unfold insertLength
  rw [hput]
  refine Buffer.write_outside (.inr ?_)
  rw [bytes16_length]
  show start + 2 + 2 ≤ i
  omega

/-- A block is put behind what stands there, its length included. -/
theorem behind_block {e : Bool} {f : Writer → Writer} (hf : Behind f) :
    Behind fun w => insertLength e resLen w.pos (f w) := by
  intro w
  rcases hf w with ⟨hle, hbytes⟩
  refine ⟨hle, ?_⟩
  intro i hi
  have hpatch := (@grows_uint16 resLen e
    (BitVec.ofNat 16 (f w).pos - BitVec.ofNat 16 (w.pos + 4)) ⟨(f w).bytes, w.pos + 2⟩).2.2
  exact (hpatch i (Nat.lt_add_right 2 hi)).trans (hbytes i hi)

/-- A block header whose length is not known yet. -/
def newHeader (e : Bool) (blockType : BitVec 16) : List Byte :=
  bytes16 e blockType ++ bytes16 e 2 ++ [PNET_BLOCK_VERSION_HIGH, PNET_BLOCK_VERSION_LOW]

@[simp] theorem newHeader_length (e : Bool) (blockType : BitVec 16) :
    (newHeader e blockType).length = 6 := by
  simp [newHeader]

/-! ## The control block -/

/-- `pf_put_control` up to the length of the block. -/
def putControlFields (e : Bool) (blockType : BitVec 16) (c : ControlBlock) (resLen : ℕ)
    (w : Writer) : Writer :=
  let w := putBlockHeader e blockType 0 PNET_BLOCK_VERSION_HIGH PNET_BLOCK_VERSION_LOW resLen w
  let w := putByte 0 resLen w
  let w := putByte 0 resLen w
  let w := putUuid e c.arUuid resLen w
  let w := putUint16 e c.sessionKey resLen w
  let w := putUint16 e c.alarmSequenceNumber resLen w
  -- the command and the properties follow the byte order of the block, too
  let w := putUint16 e c.controlCommand resLen w
  putUint16 e c.controlBlockProperties resLen w

/-- `pf_put_control`. -/
def putControl (e : Bool) (blockType : BitVec 16) (c : ControlBlock) (resLen : ℕ) (w : Writer) :
    Writer :=
  insertLength e resLen w.pos (putControlFields e blockType c resLen w)

def controlBytes (e : Bool) (c : ControlBlock) : List Byte :=
  bytes16 e 0 ++ (uuidBytes e c.arUuid ++ (bytes16 e c.sessionKey ++
    (bytes16 e c.alarmSequenceNumber ++ (bytes16 e c.controlCommand ++
      bytes16 e c.controlBlockProperties))))

@[simp] theorem controlBytes_length (e : Bool) (c : ControlBlock) :
    (controlBytes e c).length = 26 := by
  simp [controlBytes]

theorem appends_control (e : Bool) (blockType : BitVec 16) (c : ControlBlock) :
    Appends resLen (putControlFields e blockType c resLen)
      (newHeader e blockType ++ controlBytes e c) := by
  have hfields : Appends resLen (putControlFields e blockType c resLen)
      (newHeader e blockType ++ [0] ++ [0] ++ uuidBytes e c.arUuid ++
        bytes16 e c.sessionKey ++ bytes16 e c.alarmSequenceNumber ++ bytes16 e c.controlCommand ++
        bytes16 e c.controlBlockProperties) :=
    (((((((appends_blockHeader e blockType _ _).comp (appends_byte _)).comp (appends_byte _)).comp
      (appends_uuid e _)).comp (appends_uint16 e _)).comp (appends_uint16 e _)).comp
      (appends_uint16 e _)).comp (appends_uint16 e _)
  -- the two padding bytes are a zero in either byte order
  have hzero : bytes16 e 0 = [0] ++ [0] := by
    cases e
    · rfl
    · rfl
  have hbytes : newHeader e blockType ++ controlBytes e c =
      newHeader e blockType ++ [0] ++ [0] ++ uuidBytes e c.arUuid ++
        bytes16 e c.sessionKey ++ bytes16 e c.alarmSequenceNumber ++ bytes16 e c.controlCommand ++
        bytes16 e c.controlBlockProperties := by
    simp only [controlBytes, hzero, List.append_assoc]
  rw [hbytes]
  exact hfields

theorem reads_control (e : Bool) (dest c : ControlBlock) :
    Reads e (getControl dest) (controlBytes e c) c e :=
  (reads_uint16 e 0).bind <| (reads_uuid e _ c.arUuid).bind <| (reads_uint16 e c.sessionKey).bind <|
    (reads_uint16 e c.alarmSequenceNumber).bind <| (reads_uint16 e c.controlCommand).bind <|
    (reads_uint16 e c.controlBlockProperties).map _

/-- The reader gets back the control block, and stops at its end. -/
theorem roundTrips_control (e : Bool) (blockType : BitVec 16) (dest c : ControlBlock) :
    RoundTrips e e (putControl e blockType c) (putControl e blockType c) 32 6 (getControl dest)
      c := by
  have hlen : (newHeader e blockType).length = 6 := newHeader_length e blockType
  have hput (resLen : ℕ) (w : Writer) (hroom : w.pos + 32 ≤ resLen) :
      Buffer.slice (putControl e blockType c resLen w).bytes
          (w.pos + (newHeader e blockType).length) (controlBytes e c).length =
        Buffer.slice (putControlFields e blockType c resLen w).bytes
          (w.pos + (newHeader e blockType).length) (controlBytes e c).length := by
    apply insertLength_slice
    · omega
    · omega
  have hroom : (newHeader e blockType).length + (controlBytes e c).length ≤ 32 := by
    rw [hlen, controlBytes_length]
  have htrip := (reads_control e dest c).roundTrips (newHeader e blockType)
    (fun _ => appends_control e blockType c) hroom hput
  rw [hlen] at htrip
  exact htrip

end PNet.Response
