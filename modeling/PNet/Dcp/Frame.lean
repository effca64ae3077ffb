import PNet.Block.Writer

/-! # DCP frames

A received DCP frame and the loop of `pf_dcp.c` over its blocks. The loop looks at a block when
`block_length` bytes from its value on are inside the DCP data; it visits blocks one after the
other, and ends.
-/

namespace PNet.Dcp

/-! ## Frames -/

/-- The size of the buffers that frames are received in. -/
def PNAL_BUF_MAX_SIZE : ℕ := 1522

def PF_DCP_HEADER_SIZE : ℕ := 10
def PF_DCP_BLOCK_HDR_SIZE : ℕ := 4

def PF_DCP_SERVICE_GET : Byte := 0x03
def PF_DCP_SERVICE_SET : Byte := 0x04
def PF_DCP_SERVICE_TYPE_SUCCESS : Byte := 0x01
def PF_DCP_SERVICE_TYPE_NOT_SUPPORTED : Byte := 0x05

def PF_DCP_GET_SET_FRAME_ID : BitVec 16 := 0xfefd
def PF_DCP_ID_RES_FRAME_ID : BitVec 16 := 0xfeff

def PNAL_ETHTYPE_PROFINET : BitVec 16 := 0x8892

/-- A frame that has been received: its bytes, and what is behind them in memory. -/
structure Frame where
  bytes : ℕ → Byte
  len : ℕ
  len_le : len ≤ PNAL_BUF_MAX_SIZE
  vlanTags : ℕ

/-- The shortest frame of an Ethernet. -/
theorem shortest_le : 60 ≤ PNAL_BUF_MAX_SIZE := by decide

/-- A number of two bytes, in network byte order. -/
def beUint16 (b : ℕ → Byte) (pos : ℕ) : BitVec 16 :=
  (b pos).setWidth 16 <<< 8 ||| (b (pos + 1)).setWidth 16

/-- The two bytes of a number. -/
theorem join_bytes (x : BitVec 16) :
    ((x >>> 8).setWidth 8).setWidth 16 <<< 8 ||| (x.setWidth 8).setWidth 16 = x := by
  apply BitVec.eq_of_getLsbD_eq
  intro i hi
  simp only [BitVec.getLsbD_or, BitVec.getLsbD_shiftLeft, BitVec.getLsbD_setWidth,
    BitVec.getLsbD_ushiftRight]
  by_cases h : i < 8
  · simp [h, hi]
  · have hlow : i - 8 < 8 := by omega
    have hwide : i - 8 < 16 := by omega
    have hback : 8 + (i - 8) = i := by omega
    simp [h, hi, hlow, hwide, hback]

theorem beUint16_write (b : ℕ → Byte) (pos : ℕ) (x : BitVec 16) :
    beUint16 (Buffer.write b pos (Block.bytes16 true x)) pos = x := by
  have hhigh := @Buffer.write_inside _ b pos 0 (Block.bytes16 true x) (by simp)
  have hlow := @Buffer.write_inside _ b pos 1 (Block.bytes16 true x) (by simp)
  rw [Nat.add_zero] at hhigh
  rw [beUint16, hhigh, hlow]
  exact join_bytes x

namespace Frame

/-- Behind two addresses, the VLAN tags and the type. -/
def frameIdPos (f : Frame) : ℕ := 14 + 4 * f.vlanTags

/-- The position of the DCP header. -/
def dcpHdrPos (f : Frame) : ℕ := f.frameIdPos + 2

/-- The position of the first block. -/
def start (f : Frame) : ℕ := f.dcpHdrPos + PF_DCP_HEADER_SIZE

def dest (f : Frame) : List Byte := Buffer.slice f.bytes 0 6
def src (f : Frame) : List Byte := Buffer.slice f.bytes 6 6
def serviceId (f : Frame) : Byte := f.bytes f.dcpHdrPos
def dataLength (f : Frame) : ℕ := (beUint16 f.bytes (f.dcpHdrPos + 8)).toNat

/-- `src_dcplen`, the end of the DCP data: a `uint16_t`. -/
def dcplen (f : Frame) : ℕ := (f.start + f.dataLength) % 2 ^ 16

end Frame

/-! ## Blocks -/

/-- A block as a loop visits it. -/
structure Visit where
  option : Byte
  subOption : Byte
  /-- The position of the value. -/
  pos : ℕ
  blockLength : ℕ
deriving DecidableEq, Repr

/-- Padding to align on `uint16_t`. -/
def aligned (pos : ℕ) : ℕ := pos + pos % 2

theorem le_aligned (pos : ℕ) : pos ≤ aligned pos := Nat.le_add_right _ _

theorem aligned_even (pos : ℕ) : aligned pos % 2 = 0 := by
  unfold aligned
  omega

/-- The header in front of `pos`. -/
def Frame.blockAt (f : Frame) (pos : ℕ) : Visit :=
  ⟨f.bytes (pos - 4), f.bytes (pos - 3), pos, (beUint16 f.bytes (pos - 2)).toNat⟩

/-- The position of the next value. -/
def Visit.next (v : Visit) : ℕ := aligned (v.pos + v.blockLength) + PF_DCP_BLOCK_HDR_SIZE

theorem Visit.lt_next (v : Visit) : v.pos < v.next := by
  have h := le_aligned (v.pos + v.blockLength)
  simp only [next, PF_DCP_BLOCK_HDR_SIZE]
  omega

/-- The blocks that the loop visits, from the value at `pos` on. -/
def Frame.visitsFrom (f : Frame) (pos : ℕ) : List Visit :=
  if pos + (f.blockAt pos).blockLength ≤ f.dcplen then
    f.blockAt pos :: f.visitsFrom (f.blockAt pos).next
  else []
termination_by f.dcplen + 1 - pos
decreasing_by
  have h : pos < (f.blockAt pos).next := (f.blockAt pos).lt_next
  omega

/-- The blocks of the frame that the loop visits. -/
def Frame.visits (f : Frame) : List Visit := f.visitsFrom (f.start + PF_DCP_BLOCK_HDR_SIZE)

end PNet.Dcp
