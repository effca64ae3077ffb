import PNet.Lib.Buffer

/-! # Putting fields into a buffer

The primitives of `pf_block_writer.c`: each puts its bytes at `*p_pos` and moves the
position on, byte by byte, and drops what is past `res_len`.

`Appends resLen f bs` is the one rule about them: with room for `bs`, the writer `f`
appends exactly `bs`. It composes, so that the bytes of a block are read off its writer.
-/

namespace PNet

/-- `uint8_t`. -/
abbrev Byte := BitVec 8

namespace Block

/-- A destination buffer with the position in it. -/
structure Writer where
  bytes : ℕ → Byte
  pos : ℕ

def putByte (val : Byte) (resLen : ℕ) (w : Writer) : Writer :=
  if resLen < w.pos + 1 then w
  else ⟨Buffer.write w.bytes w.pos [val], w.pos + 1⟩

def putUint16 (isBigEndian : Bool) (val : BitVec 16) (resLen : ℕ) (w : Writer) : Writer :=
  if isBigEndian then
    putByte (val.setWidth 8) resLen (putByte ((val >>> 8).setWidth 8) resLen w)
  else
    putByte ((val >>> 8).setWidth 8) resLen (putByte (val.setWidth 8) resLen w)

def putUint32 (isBigEndian : Bool) (val : BitVec 32) (resLen : ℕ) (w : Writer) : Writer :=
  if isBigEndian then
    putByte (val.setWidth 8) resLen (putByte ((val >>> 8).setWidth 8) resLen
      (putByte ((val >>> 16).setWidth 8) resLen (putByte ((val >>> 24).setWidth 8) resLen w)))
  else
    putByte ((val >>> 24).setWidth 8) resLen (putByte ((val >>> 16).setWidth 8) resLen
      (putByte ((val >>> 8).setWidth 8) resLen (putByte (val.setWidth 8) resLen w)))

/-- `pf_put_mem`: all of `src` or nothing. -/
def putMem (src : List Byte) (resLen : ℕ) (w : Writer) : Writer :=
  if resLen < w.pos + src.length then w
  else ⟨Buffer.write w.bytes w.pos src, w.pos + src.length⟩

/-- `pf_put_mem_overlapping`, whose source is a part of the same buffer. -/
def putMemOverlapping (srcPos srcSize resLen : ℕ) (w : Writer) : Writer :=
  if resLen < w.pos + srcSize then w
  else ⟨Buffer.write w.bytes w.pos (Buffer.slice w.bytes srcPos srcSize), w.pos + srcSize⟩

/-- `pf_put_bits`: the `len` low bits of `val`, at `pos`. -/
def putBits (val : BitVec 32) (len pos : ℕ) (bits : BitVec 32) : BitVec 32 :=
  bits ||| ((val &&& ((1#32 <<< len) - 1#32)) <<< pos)

/-! ## The bytes of a field -/

def bytes16 (isBigEndian : Bool) (val : BitVec 16) : List Byte :=
  if isBigEndian then [(val >>> 8).setWidth 8, val.setWidth 8]
  else [val.setWidth 8, (val >>> 8).setWidth 8]

def bytes32 (isBigEndian : Bool) (val : BitVec 32) : List Byte :=
  if isBigEndian then
    [(val >>> 24).setWidth 8, (val >>> 16).setWidth 8, (val >>> 8).setWidth 8, val.setWidth 8]
  else
    [val.setWidth 8, (val >>> 8).setWidth 8, (val >>> 16).setWidth 8, (val >>> 24).setWidth 8]

@[simp] theorem bytes16_length (e : Bool) (val : BitVec 16) : (bytes16 e val).length = 2 := by
  cases e <;> rfl

@[simp] theorem bytes32_length (e : Bool) (val : BitVec 32) : (bytes32 e val).length = 4 := by
  cases e <;> rfl

theorem bytes16_injective (e : Bool) {x y : BitVec 16} (h : bytes16 e x = bytes16 e y) : x = y := by
  cases e with
  | true =>
    simp only [bytes16, if_true, List.cons.injEq, and_true] at h
    rcases h with ⟨hhigh, hlow⟩
    bv_omega
  | false =>
    simp only [bytes16, Bool.false_eq_true, if_false, List.cons.injEq, and_true] at h
    rcases h with ⟨hlow, hhigh⟩
    bv_omega

theorem bytes32_injective (e : Bool) {x y : BitVec 32} (h : bytes32 e x = bytes32 e y) : x = y := by
  cases e with
  | true =>
    simp only [bytes32, if_true, List.cons.injEq, and_true] at h
    rcases h with ⟨h3, h2, h1, h0⟩
    bv_omega
  | false =>
    simp only [bytes32, Bool.false_eq_true, if_false, List.cons.injEq, and_true] at h
    rcases h with ⟨h0, h1, h2, h3⟩
    bv_omega

/-! ## What a writer appends -/

def Writer.append (w : Writer) (bs : List Byte) : Writer :=
  ⟨Buffer.write w.bytes w.pos bs, w.pos + bs.length⟩

theorem Writer.append_append (w : Writer) (bs cs : List Byte) :
    (w.append bs).append cs = w.append (bs ++ cs) := by
  simp [Writer.append, Buffer.write_append, Nat.add_assoc]

/-- With room for `bs` the writer `f` appends `bs`. -/
def Appends (resLen : ℕ) (f : Writer → Writer) (bs : List Byte) : Prop :=
  ∀ w, w.pos + bs.length ≤ resLen → f w = w.append bs

variable {resLen : ℕ}

theorem Appends.comp {f g : Writer → Writer} {bs cs : List Byte} (hf : Appends resLen f bs)
    (hg : Appends resLen g cs) : Appends resLen (fun w => g (f w)) (bs ++ cs) := by
  intro w hw
  rw [List.length_append] at hw
  show g (f w) = _
  rw [hf w (by omega), hg _ (by simp only [Writer.append]; omega), Writer.append_append]

theorem appends_byte (val : Byte) : Appends resLen (putByte val resLen) [val] := by
  intro w hw
  have hlen : w.pos + 1 ≤ resLen := hw
  rw [putByte, if_neg (by omega)]
  rfl

theorem appends_uint16 (e : Bool) (val : BitVec 16) :
    Appends resLen (putUint16 e val resLen) (bytes16 e val) := by
  cases e with
  | true => exact (appends_byte _).comp (appends_byte _)
  | false => exact (appends_byte _).comp (appends_byte _)

theorem appends_uint32 (e : Bool) (val : BitVec 32) :
    Appends resLen (putUint32 e val resLen) (bytes32 e val) := by
  cases e with
  | true =>
    exact (((appends_byte _).comp (appends_byte _)).comp (appends_byte _)).comp (appends_byte _)
  | false =>
    exact (((appends_byte _).comp (appends_byte _)).comp (appends_byte _)).comp (appends_byte _)

theorem appends_mem (src : List Byte) : Appends resLen (putMem src resLen) src := by
  intro w hw
  rw [putMem, if_neg (by omega)]
  rfl

/-! ## The end of the room -/

/-- What ends below `resLen` has been appended as a whole. -/
def AppendsBelow (resLen : ℕ) (f : Writer → Writer) (bs : List Byte) : Prop :=
  ∀ w, (f w).pos < resLen → f w = w.append bs

theorem AppendsBelow.comp {f g : Writer → Writer} {bs cs : List Byte}
    (hf : AppendsBelow resLen f bs) (hg : AppendsBelow resLen g cs) :
    AppendsBelow resLen (fun w => g (f w)) (bs ++ cs) := by
  intro w hw
  dsimp only at hw ⊢
  have hlast := hg (f w) hw
  rw [hlast] at hw
  have hfirst := hf w (lt_of_le_of_lt (Nat.le_add_right _ _) hw)
  rw [hlast, hfirst, Writer.append_append]

theorem appendsBelow_byte (val : Byte) : AppendsBelow resLen (putByte val resLen) [val] := by
  intro w hw
  unfold putByte at hw ⊢
  split at hw
  · omega
  · rename_i hroom
    rw [if_neg hroom]
    rfl

theorem appendsBelow_uint32 (e : Bool) (val : BitVec 32) :
    AppendsBelow resLen (putUint32 e val resLen) (bytes32 e val) := by
  cases e with
  | true =>
    exact (((appendsBelow_byte _).comp (appendsBelow_byte _)).comp (appendsBelow_byte _)).comp
      (appendsBelow_byte _)
  | false =>
    exact (((appendsBelow_byte _).comp (appendsBelow_byte _)).comp (appendsBelow_byte _)).comp
      (appendsBelow_byte _)

/-- The position does not pass `resLen`. -/
def Stays (resLen : ℕ) (f : Writer → Writer) : Prop := ∀ w, (f w).pos ≤ max w.pos resLen

theorem Stays.comp {f g : Writer → Writer} (hf : Stays resLen f) (hg : Stays resLen g) :
    Stays resLen (fun w => g (f w)) := by
  intro w
  have h1 := hf w
  have h2 := hg (f w)
  show (g (f w)).pos ≤ _
  omega

theorem stays_byte (val : Byte) : Stays resLen (putByte val resLen) := by
  intro w
  unfold putByte
  split
  · exact le_max_left _ _
  · show w.pos + 1 ≤ _
    omega

theorem stays_uint16 (e : Bool) (val : BitVec 16) : Stays resLen (putUint16 e val resLen) := by
  cases e with
  | true => exact (stays_byte _).comp (stays_byte _)
  | false => exact (stays_byte _).comp (stays_byte _)

theorem stays_uint32 (e : Bool) (val : BitVec 32) : Stays resLen (putUint32 e val resLen) := by
  cases e with
  | true => exact (((stays_byte _).comp (stays_byte _)).comp (stays_byte _)).comp (stays_byte _)
  | false => exact (((stays_byte _).comp (stays_byte _)).comp (stays_byte _)).comp (stays_byte _)

theorem stays_mem (src : List Byte) : Stays resLen (putMem src resLen) := by
  intro w
  unfold putMem
  split
  · exact le_max_left _ _
  · show w.pos + src.length ≤ _
    omega

/-! ## With or without room -/

/-- At most `n` bytes are put, and what is in front of them stays. -/
def Grows (n : ℕ) (f : Writer → Writer) : Prop :=
  ∀ w, w.pos ≤ (f w).pos ∧ (f w).pos ≤ w.pos + n ∧ ∀ i < w.pos, (f w).bytes i = w.bytes i

theorem Grows.comp {f g : Writer → Writer} {m n : ℕ} (hf : Grows m f) (hg : Grows n g) :
    Grows (m + n) (fun w => g (f w)) := by
  intro w
  rcases hf w with ⟨hle, hlen, hbytes⟩
  rcases hg (f w) with ⟨hle', hlen', hbytes'⟩
  have hsum : (g (f w)).pos ≤ w.pos + (m + n) := by omega
  refine ⟨le_trans hle hle', hsum, ?_⟩
  intro i hi
  exact (hbytes' i (lt_of_lt_of_le hi hle)).trans (hbytes i hi)

theorem grows_mem (src : List Byte) : Grows src.length (putMem src resLen) := by
  intro w
  unfold putMem
  split
  · exact ⟨le_refl _, Nat.le_add_right _ _, fun _ _ => rfl⟩
  · refine ⟨Nat.le_add_right _ _, le_refl _, ?_⟩
    intro i hi
    exact Buffer.write_outside (.inl hi)

theorem grows_byte (val : Byte) : Grows 1 (putByte val resLen) := grows_mem [val]

theorem grows_uint16 (e : Bool) (val : BitVec 16) : Grows 2 (putUint16 e val resLen) := by
  cases e with
  | true => exact (grows_byte _).comp (grows_byte _)
  | false => exact (grows_byte _).comp (grows_byte _)

theorem grows_uint32 (e : Bool) (val : BitVec 32) : Grows 4 (putUint32 e val resLen) := by
  cases e with
  | true => exact (((grows_byte _).comp (grows_byte _)).comp (grows_byte _)).comp (grows_byte _)
  | false => exact (((grows_byte _).comp (grows_byte _)).comp (grows_byte _)).comp (grows_byte _)

/-- `f` puts `bs`, or a part of them up to `resLen`. -/
def Emits (resLen : ℕ) (f : Writer → Writer) (bs : List Byte) : Prop :=
  Appends resLen f bs ∧ Stays resLen f ∧ Grows bs.length f

theorem Emits.comp {f g : Writer → Writer} {bs cs : List Byte} (hf : Emits resLen f bs)
    (hg : Emits resLen g cs) : Emits resLen (fun w => g (f w)) (bs ++ cs) := by
  refine ⟨hf.1.comp hg.1, hf.2.1.comp hg.2.1, ?_⟩
  rw [List.length_append]
  exact hf.2.2.comp hg.2.2

theorem emits_nil : Emits resLen (fun w => w) [] := by
  refine ⟨?_, fun w => le_max_left _ _, fun w => ⟨le_refl _, le_refl _, fun _ _ => rfl⟩⟩
  intro w _
  simp only [Writer.append, Buffer.write_nil, List.length_nil, Nat.add_zero]

theorem emits_mem (src : List Byte) : Emits resLen (putMem src resLen) src :=
  ⟨appends_mem src, stays_mem src, grows_mem src⟩

theorem emits_byte (val : Byte) : Emits resLen (putByte val resLen) [val] := emits_mem [val]

theorem emits_uint16 (e : Bool) (val : BitVec 16) :
    Emits resLen (putUint16 e val resLen) (bytes16 e val) := by
  refine ⟨appends_uint16 e val, stays_uint16 e val, ?_⟩
  rw [bytes16_length]
  exact grows_uint16 e val

theorem emits_uint32 (e : Bool) (val : BitVec 32) :
    Emits resLen (putUint32 e val resLen) (bytes32 e val) := by
  refine ⟨appends_uint32 e val, stays_uint32 e val, ?_⟩
  rw [bytes32_length]
  exact grows_uint32 e val

/-- A field of what has been put is overwritten. -/
theorem append_patch (w : Writer) (bs old cs new : List Byte) (h : new.length = old.length) :
    (Writer.append ⟨(w.append (bs ++ old ++ cs)).bytes, w.pos + bs.length⟩ new).bytes =
      (w.append (bs ++ new ++ cs)).bytes :=
  Buffer.write_write_inside w.bytes w.pos bs old cs new h

/-! ## One run -/

/-- The bytes `bs` have been put behind what was there. -/
def Puts (w w' : Writer) (bs : List Byte) : Prop :=
  w'.pos = w.pos + bs.length ∧ Buffer.slice w'.bytes w.pos bs.length = bs ∧
    ∀ i < w.pos, w'.bytes i = w.bytes i

theorem Puts.refl {w w' : Writer} (hpos : w'.pos = w.pos)
    (hbytes : ∀ i < w.pos, w'.bytes i = w.bytes i) : Puts w w' [] :=
  ⟨hpos, Buffer.slice_zero _ _, hbytes⟩

theorem Puts.trans {w w' w'' : Writer} {bs cs : List Byte} (h : Puts w w' bs)
    (h' : Puts w' w'' cs) : Puts w w'' (bs ++ cs) := by
  rcases h with ⟨hpos, hslice, hbytes⟩
  rcases h' with ⟨hpos', hslice', hbytes'⟩
  refine ⟨by rw [hpos', hpos, List.length_append]; omega, ?_, ?_⟩
  · have hfront : Buffer.slice w''.bytes w.pos bs.length = Buffer.slice w'.bytes w.pos bs.length :=
      Buffer.slice_congr fun i _ hi => hbytes' i (by omega)
    rw [List.length_append, Buffer.slice_add, hfront, hslice, ← hpos, hslice']
  · intro i hi
    exact (hbytes' i (by omega)).trans (hbytes i hi)

theorem puts_append (w : Writer) (bs : List Byte) : Puts w (w.append bs) bs :=
  ⟨rfl, Buffer.slice_write_self _ _ _, fun _ hi => Buffer.write_outside (.inl hi)⟩

end Block

end PNet
