import PNet.Connect.Layout
import PNet.Cyclic.Ppm

/-! # What a frame carries

The data of a frame begin behind its header, at byte 20. The producer puts there the first bytes of
what the application has set, as many as `pf_cmdev_iocr_setup_desc` has counted; the bytes behind
these stay as `pf_ppm_init_buf` has left them, which is zero.

* `finishBuffer_carries`: the bytes of the next frame.
-/

namespace PNet.Cyclic

open Connect Block

/-- The frames of the CR fit their buffer. -/
def Fits (p : IocrParam) : Prop := 20 + p.cSduLength.toNat + 4 ≤ PF_FRAME_BUFFER_SIZE

instance (p : IocrParam) : Decidable (Fits p) := inferInstanceAs (Decidable (_ ≤ _))

namespace Ppm

/-- The byte `k` of the data of the next frame. -/
def staged (inLength : BitVec 16) (x : Ppm) (k : ℕ) : Byte :=
  if k < inLength.toNat then x.bufferData k else 0

/-- The places of the parts of the frame, as `pf_ppm_init_cr_config` sets them. -/
structure Placed (p : IocrParam) (x : Ppm) : Prop where
  bufferPos : x.bufferPos.toNat = 20
  cycleCounter : x.cycleCounterOffset.toNat = 20 + p.cSduLength.toNat
  dataStatus : x.dataStatusOffset.toNat = 20 + p.cSduLength.toNat + 2
  transferStatus : x.transferStatusOffset.toNat = 20 + p.cSduLength.toNat + 3

/-- The send buffer has the length of a frame, and zero where no data are put. -/
def Blank (p : IocrParam) (inLength : BitVec 16) (f : Frame) : Prop :=
  f.len.toNat = 20 + p.cSduLength.toNat + 4 ∧
    ∀ k, inLength.toNat ≤ k → k < p.cSduLength.toNat → f.payload (20 + k) = 0

/-- The PPM has been created, and its send buffer is there. -/
structure Ready (p : IocrParam) (inLength : BitVec 16) (x : Ppm) : Prop extends Placed p x where
  buffer : ∃ f, x.sendBuffer = some f ∧ Blank p inLength f

variable {p : IocrParam} {inLength : BitVec 16} {x y : Ppm} {k : ℕ}

theorem staged_congr (h : x.bufferData k = y.bufferData k) :
    staged inLength x k = staged inLength y k := by
  unfold staged
  rw [h]

/-! ## Creating -/

theorem initCrConfig_placed (hfits : Fits p) (x : Ppm) (sa da : Vector Byte 6) :
    Placed p (x.initCrConfig sa da p) ∧
      (x.initCrConfig sa da p).bufferLength.toNat = 20 + p.cSduLength.toNat + 4 := by
  have hc : p.cSduLength.toNat ≤ 1476 := by
    unfold Fits PF_FRAME_BUFFER_SIZE at hfits
    omega
  have hadd (n : ℕ) (hn : n ≤ 24) :
      (20 + p.cSduLength + BitVec.ofNat 16 n).toNat = 20 + p.cSduLength.toNat + n := by
    rw [BitVec.toNat_add, BitVec.toNat_add, BitVec.toNat_ofNat]
    show ((20 + p.cSduLength.toNat) % 2 ^ 16 + n % 2 ^ 16) % 2 ^ 16 = _
    omega
  have hstatus : (20 : BitVec 16) + p.cSduLength + 2 + 1 = 20 + p.cSduLength + BitVec.ofNat 16 3 := by
    rw [BitVec.add_assoc]
    rfl
  have hlength : (20 : BitVec 16) + p.cSduLength + 2 + 1 + 1 =
      20 + p.cSduLength + BitVec.ofNat 16 4 := by
    rw [BitVec.add_assoc, BitVec.add_assoc]
    rfl
  refine ⟨⟨rfl, ?_, hadd 2 (by omega), ?_⟩, ?_⟩
  · show (20 + p.cSduLength).toNat = _
    rw [BitVec.toNat_add]
    show (20 + p.cSduLength.toNat) % 2 ^ 16 = _
    omega
  · show ((20 : BitVec 16) + p.cSduLength + 2 + 1).toNat = _
    rw [hstatus, hadd 3 (by omega)]
  · show ((20 : BitVec 16) + p.cSduLength + 2 + 1 + 1).toNat = _
    rw [hlength, hadd 4 (by omega)]

theorem frameHeader_length (x : Ppm) (frameId : BitVec 16) (header : IocrTagHeader) :
    (x.frameHeader frameId header).length = 20 := by
  simp [frameHeader, bytes16]

theorem create_ready (hfits : Fits p) (hstate : x.state = .PF_PPM_STATE_W_START)
    (sa da : Vector Byte 6) (inLength : BitVec 16) :
    Ready p inLength (x.create sa da p true).2 := by
  have hplaced := initCrConfig_placed hfits x sa da
  have hcreate : (x.create sa da p true).2 =
      (x.initCrConfig sa da p).initBuf p.frameId p.iocrTagHeader := by
    rw [create, hstate]
    rfl
  rw [hcreate]
  refine ⟨⟨hplaced.1.bufferPos, hplaced.1.cycleCounter, hplaced.1.dataStatus,
    hplaced.1.transferStatus⟩, _, rfl, hplaced.2, ?_⟩
  intro k _ _
  apply Buffer.write_outside
  right
  rw [frameHeader_length]
  omega

/-! ## The next frame -/

/-- Only the data before `inLength` and what follows the data are written. -/
theorem fillBuffer_payload (h : Placed p x) (f : Frame) (hk : k < p.cSduLength.toNat) :
    (x.fillBuffer f inLength.toNat).payload (20 + k) =
      if k < inLength.toNat then x.bufferData k else f.payload (20 + k) := by
  unfold fillBuffer
  dsimp only
  rw [Buffer.write_outside (by rw [h.transferStatus, List.length_singleton]; omega),
    Buffer.write_outside (by rw [h.dataStatus, List.length_singleton]; omega),
    Buffer.write_outside (by rw [h.cycleCounter, bytes16_length]; omega), h.bufferPos]
  by_cases hin : k < inLength.toNat
  · have hlt : k < (Buffer.slice x.bufferData 0 inLength.toNat).length := by
      rw [Buffer.slice_length]
      exact hin
    rw [if_pos hin, Buffer.write_inside hlt]
    apply Option.some.inj
    rw [← List.getElem?_eq_getElem hlt, Buffer.slice_getElem?, if_pos hin, Nat.zero_add]
  · rw [if_neg hin, Buffer.write_outside (by rw [Buffer.slice_length]; omega)]

theorem fillBuffer_dataStatus (h : Placed p x) (f : Frame) (n : ℕ) :
    (x.fillBuffer f n).payload x.dataStatusOffset.toNat = x.dataStatus := by
  unfold fillBuffer
  dsimp only
  rw [Buffer.write_outside (by rw [h.transferStatus, h.dataStatus]; omega)]
  have hlt : 0 < [x.dataStatus].length := Nat.one_pos
  have hinside := Buffer.write_inside (b := Buffer.write (Buffer.write f.payload x.bufferPos.toNat
    (Buffer.slice x.bufferData 0 n)) x.cycleCounterOffset.toNat (bytes16 true x.cycle))
    (p := x.dataStatusOffset.toNat) hlt
  exact hinside

/-- What the steps of a frame leave alone. -/
theorem finishBuffer_same (x : Ppm) (n : BitVec 16) :
    (x.finishBuffer n).bufferData = x.bufferData ∧
      (x.finishBuffer n).dataStatus = x.dataStatus ∧
      (x.finishBuffer n).bufferPos = x.bufferPos ∧
      (x.finishBuffer n).cycleCounterOffset = x.cycleCounterOffset ∧
      (x.finishBuffer n).dataStatusOffset = x.dataStatusOffset ∧
      (x.finishBuffer n).transferStatusOffset = x.transferStatusOffset ∧
      (x.finishBuffer n).state = x.state := by
  unfold finishBuffer
  dsimp only
  cases x.sendBuffer <;> exact ⟨rfl, rfl, rfl, rfl, rfl, rfl, rfl⟩

/-- The bytes of the next frame. -/
def Carries (p : IocrParam) (inLength : BitVec 16) (x : Ppm) (g : Frame) : Prop :=
  (∀ k < p.cSduLength.toNat, g.payload (20 + k) = staged inLength x k) ∧
    g.payload (20 + p.cSduLength.toNat + 2) = x.dataStatus

theorem finishBuffer_carries (h : Ready p inLength x) :
    Ready p inLength (x.finishBuffer inLength) ∧
      ∃ g, (x.finishBuffer inLength).sendBuffer = some g ∧
        g.len.toNat = 20 + p.cSduLength.toNat + 4 ∧ Carries p inLength x g := by
  rcases h.buffer with ⟨f, hf, hlen, hzero⟩
  rcases finishBuffer_same x inLength with ⟨-, -, hpos, hcc, hds, hts, -⟩
  set z : Ppm := { x with
    cycle := calculateNextCyclecounter x.cycle x.sendClockFactor x.reductionRatio }
  have hz : Placed p z := ⟨h.bufferPos, h.cycleCounter, h.dataStatus, h.transferStatus⟩
  have hbuffer : (x.finishBuffer inLength).sendBuffer =
      some (z.fillBuffer f inLength.toNat) := by
    unfold finishBuffer
    dsimp only
    rw [hf]
    rfl
  have hbyte (k : ℕ) (hk : k < p.cSduLength.toNat) :
      (z.fillBuffer f inLength.toNat).payload (20 + k) = staged inLength x k := by
    rw [fillBuffer_payload hz f hk]
    unfold staged
    by_cases hin : k < inLength.toNat
    · rw [if_pos hin, if_pos hin]
    · rw [if_neg hin, if_neg hin]
      exact hzero k (Nat.le_of_not_lt hin) hk
  refine ⟨⟨⟨hpos ▸ h.bufferPos, hcc ▸ h.cycleCounter, hds ▸ h.dataStatus,
    hts ▸ h.transferStatus⟩, _, hbuffer, hlen, ?_⟩, _, hbuffer, hlen, hbyte, ?_⟩
  · intro k hin hk
    rw [hbyte k hk]
    exact if_neg hin.not_gt
  · have hstatus := fillBuffer_dataStatus hz f inLength.toNat
    rw [hz.dataStatus] at hstatus
    exact hstatus

/-! ## Steps that keep the buffer -/

theorem Ready.of_same (h : Ready p inLength x) (hpos : y.bufferPos = x.bufferPos)
    (hcc : y.cycleCounterOffset = x.cycleCounterOffset)
    (hds : y.dataStatusOffset = x.dataStatusOffset)
    (hts : y.transferStatusOffset = x.transferStatusOffset)
    (hbuf : y.sendBuffer = x.sendBuffer) : Ready p inLength y where
  bufferPos := hpos ▸ h.bufferPos
  cycleCounter := hcc ▸ h.cycleCounter
  dataStatus := hds ▸ h.dataStatus
  transferStatus := hts ▸ h.transferStatus
  buffer := hbuf ▸ h.buffer

end Ppm

end PNet.Cyclic
