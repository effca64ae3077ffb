import PNet.Rpc.MultipleWrite

/-! # Writers of a response

The writers of `pf_block_writer.c` as statements one behind the other. Most of them put a block: a
header with a dummy length, the fields, and then the length. A writer may also wait for the position
to come to a multiple of a number, which does not come when the buffer is full.

* `Writes start p bs`: with room for them, `p` puts the bytes `bs`.
-/

namespace PNet.Response

open Block Rpc

/-- What a writer comes to. `error` is the buffer in which it stays when it does not come back. -/
abbrev Put := ℕ → Writer → Except Writer Writer

/-- The buffer that a writer leaves, or in which it stays. -/
def buffer : Except Writer Writer → Writer
  | .ok w => w
  | .error w => w

def lift (f : ℕ → Writer → Writer) : Put := fun resLen w => .ok (f resLen w)

def byte (val : Byte) : Put := lift (putByte val)
def uint16 (e : Bool) (val : BitVec 16) : Put := lift (putUint16 e val)
def uint32 (e : Bool) (val : BitVec 32) : Put := lift (putUint32 e val)
def mem (src : List Byte) : Put := lift (putMem src)

/-- `pf_put_padding`. -/
def padding (n : ℕ) : Put := lift (putPadding n)

/-- Statements, one behind the other. -/
def seq : List Put → Put
  | [], _, w => .ok w
  | p :: ps, resLen, w => (p resLen w).bind (seq ps resLen)

/-- `n` turns of the loop of `pf_put_padding_align`. -/
def alignTurns (start align resLen : ℕ) : ℕ → Writer → Except Writer Writer
  | 0, w => .error w
  | n + 1, w =>
    if (w.pos - start) % align = 0 then .ok w
    else alignTurns start align resLen n (putByte 0 resLen w)

/-- `pf_put_padding_align`. With room it takes less than `align` turns. -/
def paddingAlign (start align : ℕ) : Put := fun resLen w => alignTurns start align resLen align w

/-- "Finally insert the block length into the block header", of the block that begins at `blockPos`. -/
def insertLength (e : Bool) (resLen blockPos : ℕ) (w : Writer) : Writer :=
  ⟨(putUint16 e (BitVec.ofNat 16 w.pos - BitVec.ofNat 16 (blockPos + 4)) resLen
    ⟨w.bytes, blockPos + 2⟩).bytes, w.pos⟩

/-- A block: the header, the fields, and then the block length. The fields are told where the block
begins. -/
def block (e : Bool) (bhType : BitVec 16) (verLow : Byte) (fields : ℕ → Put) : Put := fun resLen w =>
  (fields w.pos resLen
    (putBlockHeader e bhType 0 PNET_BLOCK_VERSION_HIGH verLow resLen w)).map
      (insertLength e resLen w.pos)

/-! ## With room -/

/-- With room for them and for `extra` more, `p` puts the bytes `bs`, which depend on the position.
The block that they belong to begins at `start`. -/
def WritesIn (extra start : ℕ) (p : Put) (bs : ℕ → List Byte) : Prop :=
  ∀ resLen w, start ≤ w.pos → w.pos + (bs w.pos).length + extra ≤ resLen →
    p resLen w = .ok (w.append (bs w.pos))

/-- With room for them, `p` puts the bytes `bs`. -/
abbrev Writes (start : ℕ) (p : Put) (bs : ℕ → List Byte) : Prop := WritesIn 0 start p bs

section
variable {extra start : ℕ}

theorem Writes.within {p : Put} {bs : ℕ → List Byte} (h : Writes start p bs) :
    WritesIn extra start p bs := by
  intro resLen w hstart hroom
  exact h resLen w hstart (by omega)

theorem writes_lift {f : ℕ → Writer → Writer} {bs : List Byte}
    (h : ∀ resLen, Appends resLen (f resLen) bs) : Writes start (lift f) fun _ => bs := by
  intro resLen w _ hroom
  rw [lift, h resLen w hroom]

theorem writes_byte (val : Byte) : Writes start (byte val) fun _ => [val] :=
  writes_lift fun _ => appends_byte val

theorem writes_uint16 (e : Bool) (val : BitVec 16) :
    Writes start (uint16 e val) fun _ => bytes16 e val :=
  writes_lift fun _ => appends_uint16 e val

theorem writes_uint32 (e : Bool) (val : BitVec 32) :
    Writes start (uint32 e val) fun _ => bytes32 e val :=
  writes_lift fun _ => appends_uint32 e val

theorem writes_mem (src : List Byte) : Writes start (mem src) fun _ => src :=
  writes_lift fun _ => appends_mem src

theorem writes_padding (n : ℕ) : Writes start (padding n) fun _ => List.replicate n 0 :=
  writes_lift fun _ => appends_padding n

/-- The bytes of statements one behind the other. -/
def seqBytes : List (ℕ → List Byte) → ℕ → List Byte
  | [], _ => []
  | bs :: rest, pos => bs pos ++ seqBytes rest (pos + (bs pos).length)

theorem writes_nil : WritesIn extra start (seq []) (seqBytes []) := by
  intro resLen w _ _
  simp only [seq, seqBytes, Writer.append, Buffer.write_nil, List.length_nil, Nat.add_zero]

theorem writes_cons {p : Put} {ps : List Put} {bs : ℕ → List Byte} {rest : List (ℕ → List Byte)}
    (hp : WritesIn extra start p bs) (hps : WritesIn extra start (seq ps) (seqBytes rest)) :
    WritesIn extra start (seq (p :: ps)) (seqBytes (bs :: rest)) := by
  intro resLen w hstart hroom
  rw [seqBytes, List.length_append] at hroom
  rw [seq, hp resLen w hstart (by omega)]
  show seq ps resLen (w.append (bs w.pos)) = _
  rw [hps resLen _ (le_trans hstart (Nat.le_add_right _ _))
    (by simp only [Writer.append]; omega), seqBytes, ← Writer.append_append]
  rfl

/-! ### Bytes that do not depend on the position -/

theorem writes_one {p : Put} {bs : List Byte} (hp : WritesIn extra start p fun _ => bs) :
    WritesIn extra start (seq [p]) fun _ => bs := by
  intro resLen w hstart hroom
  rw [seq, hp resLen w hstart hroom]
  rfl

theorem writes_append {p : Put} {ps : List Put} {bs cs : List Byte}
    (hp : WritesIn extra start p fun _ => bs) (hps : WritesIn extra start (seq ps) fun _ => cs) :
    WritesIn extra start (seq (p :: ps)) fun _ => bs ++ cs := by
  intro resLen w hstart hroom
  dsimp only at hroom ⊢
  rw [List.length_append] at hroom
  have hfirst := hp resLen w hstart (by dsimp only; omega)
  have hrest := hps resLen (w.append bs) (le_trans hstart (Nat.le_add_right _ _))
    (by simp only [Writer.append]; omega)
  rw [seq, hfirst]
  show seq ps resLen (w.append bs) = _
  rw [hrest, Writer.append_append]

theorem writes_map {α : Type} {f : α → Put} {bs : α → List Byte} {as : List α}
    (h : ∀ a, WritesIn extra start (f a) fun _ => bs a) :
    WritesIn extra start (seq (as.map f)) fun _ => as.flatMap bs := by
  induction as with
  | nil => exact writes_nil
  | cons a as ih => exact writes_append (h a) ih

/-! ### Padding -/

/-- What brings a position to a multiple of `align`. -/
def pad (start align pos : ℕ) : ℕ := (align - (pos - start) % align) % align

def padBytes (start align pos : ℕ) : List Byte := List.replicate (pad start align pos) 0

theorem pad_eq_zero {align pos : ℕ} (h : (pos - start) % align = 0) :
    pad start align pos = 0 := by
  rw [pad, h, Nat.sub_zero, Nat.mod_self]

theorem pad_succ {align pos : ℕ} (halign : 0 < align) (hstart : start ≤ pos)
    (h : (pos - start) % align ≠ 0) : pad start align pos = pad start align (pos + 1) + 1 := by
  have hlt := Nat.mod_lt (pos - start) halign
  have hsub : pos + 1 - start = pos - start + 1 := by omega
  rw [pad, pad, hsub, Nat.add_mod]
  by_cases hlast : (pos - start) % align + 1 = align
  · by_cases hone : align = 1
    · subst hone
      omega
    · rw [Nat.mod_eq_of_lt (show 1 < align by omega), hlast, Nat.mod_self, Nat.sub_zero, Nat.mod_self]
      have hleft : align - (pos - start) % align = 1 := by omega
      rw [hleft, Nat.mod_eq_of_lt (show 1 < align by omega)]
  · have hone : 1 < align := by omega
    rw [Nat.mod_eq_of_lt hone, Nat.mod_eq_of_lt (show (pos - start) % align + 1 < align by omega),
      Nat.mod_eq_of_lt (show align - (pos - start) % align < align by omega),
      Nat.mod_eq_of_lt (show align - ((pos - start) % align + 1) < align by omega)]
    omega

theorem pad_lt {align pos : ℕ} (halign : 0 < align) : pad start align pos < align :=
  Nat.mod_lt _ halign

theorem alignTurns_of_room {align resLen : ℕ} (halign : 0 < align) (n : ℕ) :
    ∀ w : Writer, start ≤ w.pos → pad start align w.pos < n →
      w.pos + pad start align w.pos ≤ resLen →
      alignTurns start align resLen n w = .ok (w.append (padBytes start align w.pos)) := by
  induction n with
  | zero =>
    intro w _ hpad _
    exact absurd hpad (Nat.not_lt_zero _)
  | succ n ih =>
    intro w hstart hpad hroom
    rw [alignTurns]
    by_cases h : (w.pos - start) % align = 0
    · rw [if_pos h, padBytes, pad_eq_zero h]
      simp only [List.replicate_zero, Writer.append, Buffer.write_nil, List.length_nil,
        Nat.add_zero]
    · have hsucc := pad_succ halign hstart h
      have hbyte := @appends_byte resLen 0 w (by simp only [List.length_singleton]; omega)
      rw [if_neg h, hbyte, ih]
      · rw [Writer.append_append, padBytes, padBytes, hsucc, List.replicate_succ]
        rfl
      · exact le_trans hstart (Nat.le_add_right _ _)
      · show pad start align (w.pos + 1) < n
        omega
      · show w.pos + 1 + pad start align (w.pos + 1) ≤ resLen
        omega

theorem writes_paddingAlign {align : ℕ} (halign : 0 < align) :
    Writes start (paddingAlign start align) (padBytes start align) := by
  intro resLen w hstart hroom
  rw [padBytes, List.length_replicate] at hroom
  exact alignTurns_of_room halign align w hstart (pad_lt halign) hroom

end

/-! ### Blocks -/

/-- A block with these fields. -/
def blockBytes (e : Bool) (bhType : BitVec 16) (verLow : Byte) (fields : List Byte) : List Byte :=
  bytes16 e bhType ++ bytes16 e (BitVec.ofNat 16 (fields.length + 2)) ++
    (PNET_BLOCK_VERSION_HIGH :: verLow :: fields)

theorem blockBytes_length (e : Bool) (bhType : BitVec 16) (verLow : Byte) (fields : List Byte) :
    (blockBytes e bhType verLow fields).length = fields.length + 6 := by
  simp only [blockBytes, List.length_append, bytes16_length, List.length_cons]
  omega

theorem appends_blockHeader {resLen : ℕ} (e : Bool) (bhType : BitVec 16) (verHigh verLow : Byte) :
    Appends resLen (putBlockHeader e bhType 0 verHigh verLow resLen)
      (bytes16 e bhType ++ bytes16 e 2 ++ [verHigh, verLow]) := by
  have h := (((@appends_uint16 resLen e bhType).comp (appends_uint16 e 2)).comp
    (appends_byte verHigh)).comp (appends_byte verLow)
  rw [List.append_assoc _ [verHigh]] at h
  exact h

theorem ofNat_sub_ofNat (a b : ℕ) :
    BitVec.ofNat 16 (a + b) - BitVec.ofNat 16 a = BitVec.ofNat 16 b := by
  rw [BitVec.ofNat_add, BitVec.add_comm, BitVec.add_sub_cancel]

/-- The dummy length behind the type is overwritten. -/
theorem insertLength_append {e : Bool} {resLen : ℕ} {w : Writer} {front dummy bs : List Byte}
    (hfront : front.length = 2) (hdummy : dummy.length = 2) (hroom : w.pos + 4 ≤ resLen) :
    insertLength e resLen w.pos (w.append (front ++ dummy ++ bs)) =
      w.append (front ++ bytes16 e (BitVec.ofNat 16 bs.length) ++ bs) := by
  have hlen : (front ++ dummy ++ bs).length = 4 + bs.length := by
    rw [List.length_append, List.length_append, hfront, hdummy]
  have hlen' : (front ++ bytes16 e (BitVec.ofNat 16 bs.length) ++ bs).length = 4 + bs.length := by
    rw [List.length_append, List.length_append, hfront, bytes16_length]
  have hpos : (w.append (front ++ dummy ++ bs)).pos = w.pos + 4 + bs.length := by
    rw [Writer.append, hlen, Nat.add_assoc]
  have hpatch := append_patch w front dummy bs (bytes16 e (BitVec.ofNat 16 bs.length))
    (by rw [bytes16_length, hdummy])
  rw [hfront] at hpatch
  rw [insertLength, hpos, ofNat_sub_ofNat,
    @appends_uint16 resLen _ _ _ (by rw [bytes16_length]; exact hroom), hpatch]
  show (⟨_, w.pos + 4 + bs.length⟩ : Writer) = ⟨_, w.pos + (front ++ _ ++ bs).length⟩
  rw [hlen', Nat.add_assoc]
  rfl

theorem writes_block {extra : ℕ} {e : Bool} {bhType : BitVec 16} {verLow : Byte} {fields : ℕ → Put}
    {fs : ℕ → ℕ → List Byte} (h : ∀ start, WritesIn extra start (fields start) (fs start))
    (start : ℕ) : WritesIn extra start (block e bhType verLow fields)
      fun pos => blockBytes e bhType verLow (fs pos (pos + 6)) := by
  intro resLen w _ hroom
  rw [blockBytes_length] at hroom
  have hheader := @appends_blockHeader resLen e bhType PNET_BLOCK_VERSION_HIGH verLow w
    (by simp only [List.length_append, bytes16_length, List.length_cons, List.length_nil]; omega)
  have hpos : (w.append (bytes16 e bhType ++ bytes16 e 2 ++
      [PNET_BLOCK_VERSION_HIGH, verLow])).pos = w.pos + 6 := by
    simp only [Writer.append, List.length_append, bytes16_length, List.length_cons,
      List.length_nil]
  have hfields := h w.pos resLen (w.append (bytes16 e bhType ++ bytes16 e 2 ++
    [PNET_BLOCK_VERSION_HIGH, verLow])) (by omega) (by rw [hpos]; omega)
  rw [hpos, Writer.append_append, List.append_assoc (bytes16 e bhType ++ bytes16 e 2)] at hfields
  rw [block, hheader, hfields]
  show Except.ok (insertLength e resLen w.pos _) = _
  rw [insertLength_append (bytes16_length e bhType) (bytes16_length e 2) (by omega)]
  rfl

theorem writes_block_const {extra : ℕ} {e : Bool} {bhType : BitVec 16} {verLow : Byte}
    {fields : ℕ → Put} {bs : List Byte} (h : ∀ start, WritesIn extra start (fields start) fun _ => bs)
    (start : ℕ) :
    WritesIn extra start (block e bhType verLow fields) fun _ => blockBytes e bhType verLow bs :=
  @writes_block extra e bhType verLow fields (fun _ _ => bs) h start

end PNet.Response
