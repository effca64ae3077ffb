import PNet.Lib.Packing
import PNet.Dcp.Frame
import PNet.Options

/-! # The blocks of a DCP answer

`pf_dcp_put_block` leaves a block out when its value alone does not fit, without a look at its
header and its block info. So a block may be cut; the other blocks are put as a whole, and what is
put is read back without doubt.
-/

namespace PNet.Dcp

open Block Packing

/-! ## Blocks -/

/-- A block of an answer. -/
structure AnswerBlock where
  option : Byte
  subOption : Byte
  blockInfo : Option (BitVec 16)
  value : List Byte

namespace AnswerBlock

def blockInfoBytes (b : AnswerBlock) : List Byte := b.blockInfo.elim [] (bytes16 true)

/-- What is behind the header. -/
def contents (b : AnswerBlock) : List Byte := b.blockInfoBytes ++ b.value

/-- The header. -/
def header (b : AnswerBlock) : List Byte :=
  b.option :: b.subOption :: bytes16 true (BitVec.ofNat 16 b.contents.length)

def padding (b : AnswerBlock) : List Byte := List.replicate (b.contents.length % 2) 0

/-- The block as a whole. -/
def bytes (b : AnswerBlock) : List Byte := b.header ++ (b.contents ++ b.padding)

theorem blockInfoBytes_length (b : AnswerBlock) :
    b.blockInfoBytes.length = if b.blockInfo.isSome then 2 else 0 := by
  unfold blockInfoBytes
  cases b.blockInfo with
  | none => rfl
  | some info => exact bytes16_length _ _

theorem header_length (b : AnswerBlock) : b.header.length = 4 := by simp [header]

theorem contents_length (b : AnswerBlock) :
    b.contents.length = b.blockInfoBytes.length + b.value.length := List.length_append

theorem bytes_length (b : AnswerBlock) : b.bytes.length = 4 + aligned b.contents.length := by
  simp [bytes, header_length, padding, aligned]

theorem bytes_even (b : AnswerBlock) : b.bytes.length % 2 = 0 := by
  have h := aligned_even b.contents.length
  rw [bytes_length]
  omega

end AnswerBlock

/-! ## `pf_dcp_put_block` -/

/-- The padding of a block. As the end of the buffer is even, one byte is enough. -/
def putPadding (dstMax : ℕ) (w : Writer) : Writer :=
  if w.pos % 2 = 1 then putByte 0 dstMax w else w

/-- What is put when the value has room. -/
def putParts (dstMax : ℕ) (b : AnswerBlock) (w : Writer) : Writer :=
  let w := putByte b.option dstMax w
  let w := putByte b.subOption dstMax w
  let w := putUint16 true (BitVec.ofNat 16 b.contents.length) dstMax w
  let w := b.blockInfo.elim w fun info => putUint16 true info dstMax w
  putMem b.value dstMax w

/-- `pf_dcp_put_block`. -/
def putBlock (dstMax : ℕ) (b : AnswerBlock) (w : Writer) : Writer :=
  if dstMax ≤ w.pos + b.value.length then w else putPadding dstMax (putParts dstMax b w)

def putBlocks (dstMax : ℕ) (blocks : List AnswerBlock) (w : Writer) : Writer :=
  blocks.foldl (fun w b => putBlock dstMax b w) w

/-- A block that is put although there is no room for it. -/
def IsCut (dstMax pos : ℕ) (b : AnswerBlock) : Prop :=
  pos + b.value.length < dstMax ∧ dstMax < pos + b.bytes.length

instance (dstMax pos : ℕ) (b : AnswerBlock) : Decidable (IsCut dstMax pos b) :=
  inferInstanceAs (Decidable (_ ∧ _))

/-- No block is cut when each is put behind the last one that fits. -/
def NoneCut (dstMax : ℕ) : ℕ → List AnswerBlock → Prop
  | _, [] => True
  | pos, b :: blocks => ¬ IsCut dstMax pos b ∧
    NoneCut dstMax (if pos + b.bytes.length ≤ dstMax then pos + b.bytes.length else pos) blocks

instance decidableNoneCut (dstMax : ℕ) : ∀ pos blocks, Decidable (NoneCut dstMax pos blocks)
  | _, [] => inferInstanceAs (Decidable True)
  | pos, b :: blocks =>
    haveI := decidableNoneCut dstMax
      (if pos + b.bytes.length ≤ dstMax then pos + b.bytes.length else pos) blocks
    inferInstanceAs (Decidable (_ ∧ _))

/-! ## One block -/

variable {dstMax : ℕ} {b : AnswerBlock} {w : Writer}

theorem emits_blockInfo (dstMax : ℕ) (b : AnswerBlock) : Emits dstMax
    (fun w => b.blockInfo.elim w fun info => putUint16 true info dstMax w) b.blockInfoBytes := by
  unfold AnswerBlock.blockInfoBytes
  cases b.blockInfo with
  | none => exact emits_nil
  | some info => exact emits_uint16 true info

theorem emits_header (dstMax : ℕ) (b : AnswerBlock) : Emits dstMax (fun w =>
    putUint16 true (BitVec.ofNat 16 b.contents.length) dstMax
      (putByte b.subOption dstMax (putByte b.option dstMax w))) b.header :=
  ((emits_byte b.option).comp (emits_byte b.subOption)).comp (emits_uint16 true _)

theorem emits_parts (dstMax : ℕ) (b : AnswerBlock) :
    Emits dstMax (putParts dstMax b) (b.header ++ b.contents) := by
  have h := ((emits_header dstMax b).comp (emits_blockInfo dstMax b)).comp (@emits_mem dstMax b.value)
  rw [List.append_assoc] at h
  exact h

theorem emits_padding (n : ℕ) (hn : w.pos % 2 = n) (hw : w.pos + n ≤ dstMax) :
    putPadding dstMax w = w.append (List.replicate n 0) := by
  unfold putPadding
  rcases Nat.mod_two_eq_zero_or_one w.pos with h | h
  · rw [if_neg (by omega), ← hn, h]
    simp [Writer.append]
  · rw [← hn, h] at hw ⊢
    rw [if_pos rfl]
    exact appends_byte 0 w hw

/-- A block with room for it is put as a whole. -/
theorem putBlock_of_le (heven : w.pos % 2 = 0) (h : w.pos + b.bytes.length ≤ dstMax) :
    putBlock dstMax b w = w.append b.bytes := by
  have hlen := b.bytes_length
  have hcontents := b.contents_length
  have hle := le_aligned b.contents.length
  have hheader := b.header_length
  have hparts : putParts dstMax b w = w.append (b.header ++ b.contents) := by
    apply (emits_parts dstMax b).1
    rw [List.length_append]
    omega
  have hpadding : (w.append (b.header ++ b.contents)).pos = w.pos + (4 + b.contents.length) := by
    simp [Writer.append, hheader]
  have hmod : (w.append (b.header ++ b.contents)).pos % 2 = b.contents.length % 2 := by
    rw [hpadding]
    omega
  unfold putBlock
  rw [if_neg (by omega), hparts, emits_padding _ hmod, Writer.append_append, List.append_assoc]
  · rfl
  · rw [hpadding]
    unfold aligned at hlen
    omega

/-- A block without room for its value is left out. -/
theorem putBlock_of_not_cut (h : dstMax < w.pos + b.bytes.length) (hcut : ¬ IsCut dstMax w.pos b) :
    putBlock dstMax b w = w := by
  unfold putBlock
  rw [if_pos]
  by_contra hlt
  exact hcut ⟨by omega, h⟩

theorem grows_putPadding (dstMax : ℕ) : Grows 1 (putPadding dstMax) := by
  intro w
  unfold putPadding
  split
  · exact grows_byte 0 w
  · exact ⟨le_refl _, Nat.le_add_right _ _, fun _ _ => rfl⟩

/-- Whatever is put is put behind what is there. -/
theorem putBlock_grows (dstMax : ℕ) (b : AnswerBlock) (w : Writer) :
    w.pos ≤ (putBlock dstMax b w).pos ∧ ∀ i < w.pos, (putBlock dstMax b w).bytes i = w.bytes i := by
  have h := (emits_parts dstMax b).2.2.comp (grows_putPadding dstMax) w
  unfold putBlock
  split
  · exact ⟨le_refl _, fun _ _ => rfl⟩
  · exact ⟨h.1, h.2.2⟩

theorem putBlocks_grows (dstMax : ℕ) (blocks : List AnswerBlock) : ∀ w : Writer,
    w.pos ≤ (putBlocks dstMax blocks w).pos ∧
      ∀ i < w.pos, (putBlocks dstMax blocks w).bytes i = w.bytes i := by
  induction blocks with
  | nil =>
    intro w
    exact ⟨le_refl _, fun _ _ => rfl⟩
  | cons b blocks ih =>
    intro w
    rcases putBlock_grows dstMax b w with ⟨hle, hbytes⟩
    rcases ih (putBlock dstMax b w) with ⟨hle', hbytes'⟩
    refine ⟨le_trans hle hle', fun i hi => ?_⟩
    exact (hbytes' i (lt_of_lt_of_le hi hle)).trans (hbytes i hi)

/-! ## A cut block -/

theorem stays_putPadding (dstMax : ℕ) : Stays dstMax (putPadding dstMax) := by
  intro w
  unfold putPadding
  split
  · exact stays_byte 0 w
  · exact le_max_left _ _

theorem putBlock_stays (dstMax : ℕ) (b : AnswerBlock) : Stays dstMax (putBlock dstMax b) := by
  intro w
  unfold putBlock
  split
  · exact le_max_left _ _
  · exact (emits_parts dstMax b).2.1.comp (stays_putPadding dstMax) w

theorem putBlocks_stays (dstMax : ℕ) (blocks : List AnswerBlock) : Stays dstMax (putBlocks dstMax blocks) := by
  induction blocks with
  | nil =>
    intro w
    exact le_max_left _ _
  | cons b blocks ih => exact (putBlock_stays dstMax b).comp ih

/-- What follows the header does not touch it. -/
theorem grows_behind_header (dstMax : ℕ) (b : AnswerBlock) :
    Grows (b.blockInfoBytes.length + b.value.length + 1) (fun w => putPadding dstMax
      (putMem b.value dstMax (b.blockInfo.elim w fun info => putUint16 true info dstMax w))) :=
  ((emits_blockInfo dstMax b).2.2.comp (grows_mem b.value)).comp (grows_putPadding dstMax)

/-- The header of a cut block is there as far as there is room for it. -/
theorem putBlock_of_cut (hcut : IsCut dstMax w.pos b) (heven : w.pos % 2 = 0)
    (hmax : dstMax % 2 = 0) :
    (w.pos + 4 ≤ dstMax ∧ w.pos + 4 ≤ (putBlock dstMax b w).pos ∧
      Buffer.slice (putBlock dstMax b w).bytes w.pos 4 = b.header) ∨
      (w.pos + 2 = dstMax ∧ w.pos + 2 ≤ (putBlock dstMax b w).pos) := by
  rcases hcut with ⟨hvalue, -⟩
  have hput : putBlock dstMax b w = putPadding dstMax (putParts dstMax b w) := by
    rw [putBlock, if_neg (by omega)]
  rw [hput]
  by_cases hroom : w.pos + 4 ≤ dstMax
  · left
    have hheader := (emits_header dstMax b).1 w (by rw [b.header_length]; exact hroom)
    rcases grows_behind_header dstMax b (w.append b.header) with ⟨hle, -, hbytes⟩
    have hparts : putParts dstMax b w = putMem b.value dstMax (b.blockInfo.elim (w.append b.header)
        fun info => putUint16 true info dstMax (w.append b.header)) := by
      rw [← hheader]
      rfl
    rw [hparts]
    have hpos : (w.append b.header).pos = w.pos + 4 := by
      simp [Writer.append, b.header_length]
    refine ⟨hroom, hpos ▸ hle, ?_⟩
    have hslice := Buffer.slice_write_self w.bytes w.pos b.header
    rw [b.header_length] at hslice
    exact (Buffer.slice_congr fun i _ hi => hbytes i (by rw [hpos]; exact hi)).trans hslice
  · right
    refine ⟨by omega, ?_⟩
    have htwo := ((@emits_byte dstMax b.option).comp (emits_byte b.subOption)).1 w
      (show w.pos + 2 ≤ dstMax by omega)
    have hrest := ((@emits_uint16 dstMax true
      (BitVec.ofNat 16 b.contents.length)).2.2.comp (grows_behind_header dstMax b))
        (w.append ([b.option] ++ [b.subOption]))
    rw [← htwo] at hrest
    exact le_trans (le_of_eq (congrArg Writer.pos htwo).symm) hrest.1

/-! ## All blocks -/

/-- Without a cut the blocks that fit are put, one behind the other. -/
theorem putBlocks_of_noneCut (blocks : List AnswerBlock) : ∀ w : Writer, w.pos % 2 = 0 →
    NoneCut dstMax w.pos blocks → putBlocks dstMax blocks w =
      w.append ((fit AnswerBlock.bytes dstMax w.pos blocks).flatMap AnswerBlock.bytes) := by
  induction blocks with
  | nil =>
    intro w _ _
    simp [putBlocks, fit, Writer.append]
  | cons b blocks ih =>
    intro w heven hcut
    rcases hcut with ⟨hnot, hrest⟩
    show putBlocks dstMax blocks (putBlock dstMax b w) = _
    by_cases hfits : w.pos + b.bytes.length ≤ dstMax
    · rw [if_pos hfits] at hrest
      have hb := b.bytes_even
      rw [putBlock_of_le heven hfits, ih _ (by simp only [Writer.append]; omega) hrest,
        fit_cons_of_le hfits, List.flatMap_cons, Writer.append_append]
      rfl
    · rw [if_neg hfits] at hrest
      rw [putBlock_of_not_cut (by omega) hnot, ih w heven hrest, fit_cons_of_lt (by omega)]

/-- The header tells how long the contents are. -/
theorem contents_length_of_header {c : AnswerBlock} (hb : b.contents.length < 2 ^ 16)
    (hc : c.contents.length < 2 ^ 16) (h : b.header = c.header) :
    b.contents.length = c.contents.length := by
  unfold AnswerBlock.header at h
  have hlen := (List.cons.inj (List.cons.inj h).2).2
  have heq : BitVec.ofNat 16 b.contents.length = BitVec.ofNat 16 c.contents.length :=
    bytes16_injective true hlen
  have hnat := congrArg BitVec.toNat heq
  rw [BitVec.toNat_ofNat, BitVec.toNat_ofNat, Nat.mod_eq_of_lt hb, Nat.mod_eq_of_lt hc] at hnat
  exact hnat

/-- When the blocks that fit are found in the buffer, none is cut. -/
theorem noneCut_of_putBlocks (hmax : dstMax % 2 = 0) (hsmall : dstMax + 2 < 2 ^ 16)
    (blocks : List AnswerBlock) : ∀ w : Writer, w.pos % 2 = 0 → w.pos ≤ dstMax →
    (putBlocks dstMax blocks w).pos = fitEnd AnswerBlock.bytes dstMax w.pos blocks →
    Buffer.slice (putBlocks dstMax blocks w).bytes w.pos
        ((putBlocks dstMax blocks w).pos - w.pos) =
      (fit AnswerBlock.bytes dstMax w.pos blocks).flatMap AnswerBlock.bytes →
    NoneCut dstMax w.pos blocks := by
  induction blocks with
  | nil =>
    intro w _ _ _ _
    trivial
  | cons b blocks ih =>
    intro w heven hle hpos hslice
    change (putBlocks dstMax blocks (putBlock dstMax b w)).pos = _ at hpos
    change Buffer.slice (putBlocks dstMax blocks (putBlock dstMax b w)).bytes w.pos
      ((putBlocks dstMax blocks (putBlock dstMax b w)).pos - w.pos) = _ at hslice
    by_cases hfits : w.pos + b.bytes.length ≤ dstMax
    · have hput := putBlock_of_le heven hfits
      have hb := b.bytes_even
      refine ⟨fun hcut => absurd hcut.2 (by omega), ?_⟩
      rw [if_pos hfits]
      have hnext : (w.append b.bytes).pos = w.pos + b.bytes.length := rfl
      rw [fitEnd, fit_cons_of_le hfits, List.flatMap_cons, List.length_append, ← Nat.add_assoc,
        hput] at hpos
      rw [fit_cons_of_le hfits, List.flatMap_cons, hput, hpos,
        Nat.add_assoc, Nat.add_sub_cancel_left, Buffer.slice_add] at hslice
      have hrest := (List.append_inj hslice (by simp)).2
      apply ih (w.append b.bytes)
      · rw [hnext]
        omega
      · exact hfits
      · exact hpos
      · rw [hpos, hnext, Nat.add_sub_cancel_left]
        exact hrest
    · rw [fitEnd, fit_cons_of_lt (by omega)] at hpos
      rw [fit_cons_of_lt (by omega)] at hslice
      by_cases hcut : IsCut dstMax w.pos b
      · exfalso
        rcases putBlocks_grows dstMax blocks (putBlock dstMax b w) with ⟨hgrow, hbytes⟩
        have hstays := putBlocks_stays dstMax blocks (putBlock dstMax b w)
        have hstays' := putBlock_stays dstMax b w
        have hhead := @head_le_of_fit _ _ AnswerBlock.bytes dstMax blocks w.pos
        generalize putBlocks dstMax blocks (putBlock dstMax b w) = last at *
        cases hfit : fit AnswerBlock.bytes dstMax w.pos blocks with
        | nil =>
          -- something has been put
          rw [hfit] at hpos
          simp only [List.flatMap_nil, List.length_nil, Nat.add_zero] at hpos
          rcases putBlock_of_cut hcut heven hmax with ⟨-, hmore, -⟩ | ⟨-, hmore⟩
          · omega
          · omega
        | cons c rest =>
          have hc := hhead c rest hfit
          have hlen := c.bytes_length
          have hclen := le_aligned c.contents.length
          rcases putBlock_of_cut hcut heven hmax with ⟨-, hmore, hheader⟩ | ⟨htwo, -⟩
          · -- the header is that of a block that fits
            have hfour : Buffer.slice last.bytes w.pos 4 = b.header := by
              rw [← hheader]
              exact Buffer.slice_congr fun i _ hi => hbytes i (by omega)
            rw [hfit, List.flatMap_cons, AnswerBlock.bytes, List.append_assoc] at hslice
            have hsplit : last.pos - w.pos = 4 + (last.pos - w.pos - 4) := by omega
            rw [hsplit, Buffer.slice_add] at hslice
            have hsame := (List.append_inj hslice (by simp [c.header_length])).1
            rw [hfour] at hsame
            have hcontents := b.contents_length
            have hinfo := b.blockInfoBytes_length
            have hvalue := hcut.1
            have hblen : b.contents.length < 2 ^ 16 := by
              split at hinfo <;> omega
            have heq := contents_length_of_header hblen (by omega) hsame
            have hb := b.bytes_length
            rw [heq] at hb
            omega
          · omega
      · refine ⟨hcut, ?_⟩
        rw [if_neg hfits]
        have hput := putBlock_of_not_cut (by omega) hcut
        rw [hput] at hpos hslice
        exact ih w heven hle hpos hslice

end PNet.Dcp
