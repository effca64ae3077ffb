import PNet.Block.Writer

/-! # Getting fields from a buffer

The primitives of `pf_block_reader.c`. A parser state holds the input and the first
error; after an error every getter answers zero and stays where it is.

`Reads e g bs v e'` is the rule about them: where the input holds `bs`, the getter `g`
answers `v` and moves past `bs`; `e` and `e'` are the byte order before and after.
-/

namespace PNet.Block

/-- `pf_get_result_t`. -/
inductive GetResult where
  | PF_PARSE_OK
  | PF_PARSE_NULL_POINTER
  | PF_PARSE_END_OF_INPUT
  | PF_PARSE_OUT_OF_API_RESOURCES
  | PF_PARSE_OUT_OF_EXP_SUBMODULE_RESOURCES
  | PF_PARSE_ERROR
deriving DecidableEq, Repr

/-- `pf_get_info_t`. -/
structure GetInfo where
  result : GetResult
  isBigEndian : Bool
  buf : ℕ → Byte
  len : ℕ

/-- The parser state with the position `*p_pos`. -/
structure Reader where
  info : GetInfo
  pos : ℕ

/-- A getter. -/
abbrev Get := StateM Reader

def Reader.fail (r : Reader) (e : GetResult) : Reader :=
  { r with info := { r.info with result := e } }

def getByte : Get Byte := fun r =>
  if r.info.result ≠ .PF_PARSE_OK then (0, r)
  else if r.info.len ≤ r.pos then (0, r.fail .PF_PARSE_END_OF_INPUT)
  else (r.info.buf r.pos, { r with pos := r.pos + 1 })

/-- `pf_get_mem`: `dest` keeps its old contents when there is an error. -/
def getMem {n : ℕ} (dest : Vector Byte n) : Get (Vector Byte n) := fun r =>
  if r.info.result ≠ .PF_PARSE_OK then (dest, r)
  else if r.info.len < r.pos + n then (dest, r.fail .PF_PARSE_END_OF_INPUT)
  else (Vector.ofFn fun i => r.info.buf (r.pos + i), { r with pos := r.pos + n })

/-- Two calls of `pf_get_byte`, taken from left to right. -/
def get2 {α : Type} (f : Byte → Byte → α) : Get α := do
  let a ← getByte
  let b ← getByte
  return f a b

def get4 {α : Type} (f : Byte → Byte → Byte → Byte → α) : Get α := do
  let a ← getByte
  let b ← getByte
  let c ← getByte
  let d ← getByte
  return f a b c d

/-- The high byte first. -/
def join2 (a b : Byte) : BitVec 16 := (a.setWidth 16 <<< 8) + b.setWidth 16

def join4 (a b c d : Byte) : BitVec 32 :=
  (a.setWidth 32 <<< 24) + (b.setWidth 32 <<< 16) + (c.setWidth 32 <<< 8) + d.setWidth 32

def getUint16 : Get (BitVec 16) := fun r =>
  if r.info.result ≠ .PF_PARSE_OK then (0, r)
  else if r.info.isBigEndian then get2 (fun a b => join2 a b) r
  else get2 (fun a b => join2 b a) r

def getUint32 : Get (BitVec 32) := fun r =>
  if r.info.isBigEndian then get4 (fun a b c d => join4 a b c d) r
  else get4 (fun a b c d => join4 d c b a) r

/-- `pf_get_bits`. -/
def getBits (bits : BitVec 32) (pos len : ℕ) : BitVec 32 :=
  if len = 0 then 0
  else if 32 < pos + len then 0
  else if pos = 0 ∧ len = 32 then bits
  else (bits >>> pos) &&& ((1#32 <<< len) - 1#32)

/-! ## What a getter reads -/

/-- The state after `n` bytes, with byte order `e`. -/
def Reader.advance (r : Reader) (n : ℕ) (e : Bool) : Reader :=
  ⟨{ r.info with isBigEndian := e }, r.pos + n⟩

@[simp] theorem Reader.advance_advance (r : Reader) (m n : ℕ) (e e' : Bool) :
    (r.advance m e).advance n e' = r.advance (m + n) e' := by
  simp [Reader.advance, Nat.add_assoc]

def Reads {α : Type} (e : Bool) (g : Get α) (bs : List Byte) (v : α) (e' : Bool) : Prop :=
  ∀ r : Reader, r.info.result = .PF_PARSE_OK → r.info.isBigEndian = e →
    Buffer.slice r.info.buf r.pos bs.length = bs → r.pos + bs.length ≤ r.info.len →
    g r = (v, r.advance bs.length e')

theorem Reads.pure {α : Type} (e : Bool) (v : α) : Reads e (pure v) [] v e := by
  intro r _ he _ _
  cases r
  cases he
  rfl

theorem Reads.bind {α β : Type} {e e' e'' : Bool} {g : Get α} {f : α → Get β}
    {bs cs : List Byte} {v : α} {u : β} (hg : Reads e g bs v e') (hf : Reads e' (f v) cs u e'') :
    Reads e (g >>= f) (bs ++ cs) u e'' := by
  intro r hok he hs hlen
  rw [List.length_append] at hs hlen
  rw [Buffer.slice_add] at hs
  obtain ⟨h1, h2⟩ := List.append_inj hs (by simp)
  have hstep := hg r hok he h1 (by omega)
  have hrest := hf (r.advance bs.length e') hok rfl h2 (by simp only [Reader.advance]; omega)
  show f (g r).1 (g r).2 = _
  rw [hstep]
  show f v (r.advance bs.length e') = _
  rw [hrest, List.length_append, Reader.advance_advance]

/-- All answers of `g` have the property `P`, also when there is an error. -/
def Yields {α : Type} (P : α → Prop) (g : Get α) : Prop := ∀ r, P (g r).1

theorem Yields.bind {α β : Type} {P : β → Prop} {g : Get α} {f : α → Get β}
    (h : ∀ v, Yields P (f v)) : Yields P (g >>= f) := fun _ => h _ _

theorem reads_byte (e : Bool) (v : Byte) : Reads e getByte [v] v e := by
  intro r hok he hs hlen
  have hlt : r.pos + 1 ≤ r.info.len := hlen
  have hv : r.info.buf r.pos = v := by simpa [Buffer.slice] using hs
  rw [getByte, if_neg (by simp [hok]), if_neg (by omega), hv, ← he]
  rfl

theorem Reads.map {α β : Type} {e e' : Bool} {g : Get α} {bs : List Byte} {v : α}
    (hg : Reads e g bs v e') (f : α → β) : Reads e (do let x ← g; return f x) bs (f v) e' := by
  have h : Reads e (g >>= fun x => Pure.pure (f x)) (bs ++ []) (f v) e' :=
    hg.bind (Reads.pure e' (f v))
  rw [List.append_nil] at h
  exact h

theorem reads_get2 {α : Type} (e : Bool) (f : Byte → Byte → α) (a b : Byte) :
    Reads e (get2 f) [a, b] (f a b) e :=
  (reads_byte e a).bind ((reads_byte e b).map (f a))

theorem reads_get4 {α : Type} (e : Bool) (f : Byte → Byte → Byte → Byte → α) (a b c d : Byte) :
    Reads e (get4 f) [a, b, c, d] (f a b c d) e :=
  (reads_byte e a).bind ((reads_byte e b).bind ((reads_byte e c).bind
    ((reads_byte e d).map (f a b c))))

theorem join2_split (v : BitVec 16) : join2 ((v >>> 8).setWidth 8) (v.setWidth 8) = v := by
  apply BitVec.eq_of_toNat_eq
  have hv := v.isLt
  simp [join2, BitVec.toNat_add, Nat.shiftRight_eq_div_pow, Nat.shiftLeft_eq]
  omega

theorem join4_split (v : BitVec 32) :
    join4 ((v >>> 24).setWidth 8) ((v >>> 16).setWidth 8) ((v >>> 8).setWidth 8) (v.setWidth 8) =
      v := by
  apply BitVec.eq_of_toNat_eq
  have hv := v.isLt
  simp [join4, BitVec.toNat_add, Nat.shiftRight_eq_div_pow, Nat.shiftLeft_eq]
  omega

theorem reads_uint16 (e : Bool) (v : BitVec 16) : Reads e getUint16 (bytes16 e v) v e := by
  intro r hok he hs hlen
  rw [getUint16, if_neg (by simp [hok])]
  cases e with
  | true =>
    rw [if_pos he, reads_get2 true _ _ _ r hok he hs hlen, join2_split]
    rfl
  | false =>
    rw [if_neg (by simp [he]), reads_get2 false _ _ _ r hok he hs hlen, join2_split]
    rfl

theorem reads_uint32 (e : Bool) (v : BitVec 32) : Reads e getUint32 (bytes32 e v) v e := by
  intro r hok he hs hlen
  rw [getUint32]
  cases e with
  | true =>
    rw [if_pos he, reads_get4 true _ _ _ _ _ r hok he hs hlen, join4_split]
    rfl
  | false =>
    rw [if_neg (by simp [he]), reads_get4 false _ _ _ _ _ r hok he hs hlen, join4_split]
    rfl

theorem reads_mem (e : Bool) {n : ℕ} (dest v : Vector Byte n) :
    Reads e (getMem dest) v.toList v e := by
  intro r hok he hs hlen
  rw [Vector.length_toList] at hs hlen ⊢
  have hv : (Vector.ofFn fun i : Fin n => r.info.buf (r.pos + i)) = v := by
    apply Vector.ext
    intro i hi
    have hgi : (Buffer.slice r.info.buf r.pos n)[i]? = v.toList[i]? := by rw [hs]
    rw [Buffer.slice_getElem?, if_pos hi] at hgi
    simpa [hi] using hgi
  rw [getMem, if_neg (by simp [hok]), if_neg (by omega), hv, ← he]
  rfl

/-! ## Where a getter stops -/

/-- With `n` bytes left `g` takes them, and does nothing else to the parser. -/
def Takes {α : Type} (n : ℕ) (g : Get α) : Prop :=
  ∀ r : Reader, r.info.result = .PF_PARSE_OK → r.pos + n ≤ r.info.len →
    (g r).2 = { r with pos := r.pos + n }

theorem Takes.pure {α : Type} (v : α) : Takes 0 (pure v : Get α) := by
  intro r _ _
  rfl

theorem Takes.bind {α β : Type} {m n : ℕ} {g : Get α} {f : α → Get β} (hg : Takes m g)
    (hf : ∀ v, Takes n (f v)) : Takes (m + n) (g >>= f) := by
  intro r hok hlen
  show (f (g r).1 (g r).2).2 = _
  have hstep := hg r hok (by omega)
  rw [hf _ _ (by rw [hstep]; exact hok) (by rw [hstep]; show r.pos + m + n ≤ r.info.len; omega),
    hstep, Nat.add_assoc]

theorem takes_byte : Takes 1 getByte := by
  intro r hok hlen
  rw [getByte, if_neg (by simp [hok]), if_neg (by omega)]

theorem takes_mem {n : ℕ} (dest : Vector Byte n) : Takes n (getMem dest) := by
  intro r hok hlen
  rw [getMem, if_neg (by simp [hok]), if_neg (by omega)]

theorem Takes.map {α β : Type} {n : ℕ} {g : Get α} (hg : Takes n g) (f : α → β) :
    Takes n (do let x ← g; return f x) := by
  have h : Takes (n + 0) (g >>= fun x => Pure.pure (f x)) := hg.bind fun v => Takes.pure (f v)
  exact h

theorem takes_get2 {α : Type} (f : Byte → Byte → α) : Takes 2 (get2 f) :=
  takes_byte.bind fun a => takes_byte.map (f a)

theorem takes_get4 {α : Type} (f : Byte → Byte → Byte → Byte → α) : Takes 4 (get4 f) :=
  takes_byte.bind fun a => takes_byte.bind fun b => takes_byte.bind fun c =>
    takes_byte.map (f a b c)

theorem takes_uint16 : Takes 2 getUint16 := by
  intro r hok hlen
  rw [getUint16, if_neg (by simp [hok])]
  split
  · exact takes_get2 _ r hok hlen
  · exact takes_get2 _ r hok hlen

theorem takes_uint32 : Takes 4 getUint32 := by
  intro r hok hlen
  rw [getUint32]
  split
  · exact takes_get4 _ r hok hlen
  · exact takes_get4 _ r hok hlen

/-- With `n` bytes left the two getters do the same. -/
def Agree {α : Type} (n : ℕ) (g g' : Get α) : Prop :=
  ∀ r : Reader, r.info.result = .PF_PARSE_OK → r.pos + n ≤ r.info.len → g r = g' r

theorem Agree.refl {α : Type} (g : Get α) : Agree 0 g g := fun _ _ _ => rfl

theorem Agree.bind {α β : Type} {m n : ℕ} {g g' : Get α} {f f' : α → Get β} (hg : Agree m g g')
    (htakes : Takes m g) (hf : ∀ v, Agree n (f v) (f' v)) : Agree (m + n) (g >>= f) (g' >>= f') := by
  intro r hok hlen
  show f (g r).1 (g r).2 = f' (g' r).1 (g' r).2
  have hstep := htakes r hok (by omega)
  rw [← hg r hok (by omega)]
  apply hf
  · rw [hstep]
    exact hok
  · rw [hstep]
    show r.pos + m + n ≤ r.info.len
    omega

theorem Takes.agree {α β : Type} {m n : ℕ} {g : Get α} {f f' : α → Get β} (hg : Takes m g)
    (hf : ∀ v, Agree n (f v) (f' v)) : Agree (m + n) (g >>= f) (g >>= f') :=
  Agree.bind (fun _ _ _ => rfl) hg hf

/-- The old contents of the destination do not matter when there are bytes for it. -/
theorem agree_mem {n : ℕ} (dest dest' : Vector Byte n) : Agree n (getMem dest) (getMem dest') := by
  intro r hok hlen
  rw [getMem, getMem, if_neg (by simp [hok]), if_neg (by omega), if_neg (by simp [hok]),
    if_neg (by omega)]

/-- `g` moves forward inside the input, in its byte order, and an error stays. -/
def Moves {α : Type} (g : Get α) : Prop :=
  ∀ r : Reader, (g r).2.info.len = r.info.len ∧ r.pos ≤ (g r).2.pos ∧
    (g r).2.pos ≤ max r.pos r.info.len ∧
    ((g r).2.info.result = .PF_PARSE_OK → r.info.result = .PF_PARSE_OK) ∧
    (g r).2.info.isBigEndian = r.info.isBigEndian

theorem Moves.pure {α : Type} (v : α) : Moves (pure v : Get α) := by
  intro r
  exact ⟨rfl, le_rfl, le_max_left _ _, id, rfl⟩

theorem Moves.bind {α β : Type} {g : Get α} {f : α → Get β} (hg : Moves g)
    (hf : ∀ v, Moves (f v)) : Moves (g >>= f) := by
  intro r
  rcases hg r with ⟨hlen, hge, hle, hok, he⟩
  rcases hf (g r).1 (g r).2 with ⟨hlen', hge', hle', hok', he'⟩
  rw [hlen] at hlen' hle'
  have hpos : (f (g r).1 (g r).2).2.pos ≤ max r.pos r.info.len := by omega
  exact ⟨hlen', hge.trans hge', hpos, fun h => hok (hok' h), he'.trans he⟩

theorem moves_byte : Moves getByte := by
  intro r
  rw [getByte]
  split
  · exact ⟨rfl, le_rfl, le_max_left _ _, id, rfl⟩
  · rename_i hok
    rw [not_not] at hok
    split
    · exact ⟨rfl, le_rfl, le_max_left _ _, fun _ => hok, rfl⟩
    · have hpos : r.pos + 1 ≤ max r.pos r.info.len := by omega
      exact ⟨rfl, Nat.le_succ _, hpos, id, rfl⟩

theorem Moves.map {α β : Type} {g : Get α} (hg : Moves g) (f : α → β) :
    Moves (do let x ← g; return f x) := hg.bind fun v => Moves.pure (f v)

theorem moves_get2 {α : Type} (f : Byte → Byte → α) : Moves (get2 f) :=
  moves_byte.bind fun a => moves_byte.map (f a)

theorem moves_get4 {α : Type} (f : Byte → Byte → Byte → Byte → α) : Moves (get4 f) :=
  moves_byte.bind fun a => moves_byte.bind fun b => moves_byte.bind fun c =>
    moves_byte.map (f a b c)

theorem moves_uint32 : Moves getUint32 := by
  intro r
  rw [getUint32]
  split
  · exact moves_get4 _ r
  · exact moves_get4 _ r

theorem moves_mem {n : ℕ} (dest : Vector Byte n) : Moves (getMem dest) := by
  intro r
  rw [getMem]
  split
  · exact ⟨rfl, le_rfl, le_max_left _ _, id, rfl⟩
  · rename_i hok
    rw [not_not] at hok
    split
    · exact ⟨rfl, le_rfl, le_max_left _ _, fun _ => hok, rfl⟩
    · have hpos : r.pos + n ≤ max r.pos r.info.len := by omega
      exact ⟨rfl, Nat.le_add_right _ _, hpos, id, rfl⟩

theorem moves_uint16 : Moves getUint16 := by
  intro r
  rw [getUint16]
  split
  · exact ⟨rfl, le_rfl, le_max_left _ _, id, rfl⟩
  · split
    · exact moves_get2 _ r
    · exact moves_get2 _ r

end PNet.Block
