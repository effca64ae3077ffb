import PNet.Block.Exact
import PNet.Rpc.Header

/-! # The primitives with their own numbers

`pf_get_byte`, `pf_get_uint16`, `pf_get_uint32`, `pf_get_mem` and `pf_get_uuid` with a position and
a length of 16 bits, and with a pointer to the input that may be `NULL`. All parsers leave it to
them to look at the length of the input.

* `Bounded`: what a getter does to the parser, in any state of it; `Bounded.bind` is the rule for
  getters that are put together from others.
* `Simulates`: a getter does what the one over numbers without a width does.
* `calls_lawful`: what holds in every sequence of calls.
-/

namespace PNet.Block.Primitives

open Rpc

/-- `pf_get_info_t` with the position `*p_pos`, and with what has been read of the input. -/
structure Input where
  result : GetResult
  isBigEndian : Bool
  /-- `p_buf`, if it is not `NULL`. -/
  pBuf : Option (ℕ → Byte)
  len : BitVec 16
  pos : BitVec 16
  seen : List ℕ

abbrev Pull := StateM Input

/-! ## The primitives -/

/-- `pf_get_byte`. -/
def pullByte : Pull Byte := fun s =>
  if s.result ≠ .PF_PARSE_OK then (0, s)
  else if s.len ≤ s.pos then (0, { s with result := .PF_PARSE_END_OF_INPUT })
  else
    match s.pBuf with
    | none => (0, { s with result := .PF_PARSE_NULL_POINTER })
    | some buf => (buf s.pos.toNat, { s with pos := s.pos + 1, seen := s.pos.toNat :: s.seen })

/-- `pf_get_mem`, which compares in `int`. -/
def pullMem {n : ℕ} (dest : Vector Byte n) : Pull (Vector Byte n) := fun s =>
  if s.result ≠ .PF_PARSE_OK then (dest, s)
  else if s.len.toNat < s.pos.toNat + n then (dest, { s with result := .PF_PARSE_END_OF_INPUT })
  else
    match s.pBuf with
    | none => (dest, { s with result := .PF_PARSE_NULL_POINTER })
    | some buf =>
      (Vector.ofFn fun i => buf (s.pos.toNat + i),
        { s with
          pos := s.pos + BitVec.ofNat 16 n
          seen := (List.range n).map (s.pos.toNat + ·) ++ s.seen })

def pull2 {α : Type} (f : Byte → Byte → α) : Pull α := do
  let a ← pullByte
  let b ← pullByte
  return f a b

def pull4 {α : Type} (f : Byte → Byte → Byte → Byte → α) : Pull α := do
  let a ← pullByte
  let b ← pullByte
  let c ← pullByte
  let d ← pullByte
  return f a b c d

/-- `pf_get_uint16`. -/
def pullUint16 : Pull (BitVec 16) := fun s =>
  if s.result ≠ .PF_PARSE_OK then (0, s)
  else if s.isBigEndian then pull2 (fun a b => join2 a b) s
  else pull2 (fun a b => join2 b a) s

/-- `pf_get_uint32`. -/
def pullUint32 : Pull (BitVec 32) := fun s =>
  if s.isBigEndian then pull4 (fun a b c d => join4 a b c d) s
  else pull4 (fun a b c d => join4 d c b a) s

/-- `pf_get_uuid`. -/
def pullUuid (dest : Uuid) : Pull Uuid := do
  let data1 ← pullUint32
  let data2 ← pullUint16
  let data3 ← pullUint16
  let data4 ← pullMem dest.data4
  return ⟨data1, data2, data3, data4⟩

/-! ## What a getter does to the parser -/

/-- With `n` bytes on the wire: an error stays with the whole parser as it is; without an error at
the end, `n` bytes have been taken; nothing is read behind the end, nor the position put there. -/
structure Bounded {α : Type} (n : ℕ) (g : Pull α) : Prop where
  sticky : ∀ s : Input, s.result ≠ .PF_PARSE_OK → (g s).2 = s
  advances : ∀ s : Input, (g s).2.result = .PF_PARSE_OK →
    (g s).2.pos.toNat = s.pos.toNat + n
  within : ∀ s : Input, (g s).2.pos.toNat ≤ max s.len.toNat s.pos.toNat
  reads : ∀ s : Input, ∀ i ∈ (g s).2.seen, i ∈ s.seen ∨ i < s.len.toNat
  len : ∀ s : Input, (g s).2.len = s.len

namespace Bounded

variable {α β : Type} {m n : ℕ}

theorem ok {g : Pull α} (h : Bounded n g) {s : Input} (hok : (g s).2.result = .PF_PARSE_OK) :
    s.result = .PF_PARSE_OK := by
  by_contra hbad
  rw [h.sticky s hbad] at hok
  exact hbad hok

theorem pure (v : α) : Bounded 0 (Pure.pure v : Pull α) := by
  constructor
  · intro s _
    rfl
  · intro s _
    rfl
  · intro s
    exact le_max_right _ _
  · intro s i hi
    exact .inl hi
  · intro s
    rfl

/-- One getter behind another one. -/
theorem bind {g : Pull α} {f : α → Pull β} (hg : Bounded m g) (hf : ∀ v, Bounded n (f v)) :
    Bounded (m + n) (g >>= f) := by
  have hrun (s : Input) : ((g >>= f) s).2 = (f (g s).1 (g s).2).2 := rfl
  constructor
  · intro s hbad
    rw [hrun, hg.sticky s hbad]
    exact (hf _).sticky s hbad
  · intro s hok
    rw [hrun] at hok ⊢
    -- the first getter has left no error either
    have hfirst := hg.advances s ((hf _).ok hok)
    rw [(hf _).advances _ hok, hfirst, Nat.add_assoc]
  · intro s
    have hfirst := hg.within s
    have hsecond := (hf (g s).1).within (g s).2
    rw [hg.len s] at hsecond
    rw [hrun]
    exact hsecond.trans (max_le (le_max_left _ _) hfirst)
  · intro s i hi
    rw [hrun] at hi
    rcases (hf _).reads _ i hi with hi | hi
    · exact hg.reads s i hi
    · right
      rwa [hg.len s] at hi
  · intro s
    rw [hrun, (hf _).len, hg.len]

theorem map {g : Pull α} (hg : Bounded n g) (f : α → β) :
    Bounded n (do let x ← g; return f x) := by
  have h : Bounded (n + 0) (g >>= fun x => Pure.pure (f x)) := hg.bind fun v => Bounded.pure (f v)
  exact h

/-- A getter that leaves it to one of two others. -/
theorem ite {c : Input → Prop} [DecidablePred c] {g g' : Pull α} (hg : Bounded n g)
    (hg' : Bounded n g') : Bounded n fun s => if c s then g s else g' s := by
  constructor
  · intro s
    split
    · exact hg.sticky s
    · exact hg'.sticky s
  · intro s
    split
    · exact hg.advances s
    · exact hg'.advances s
  · intro s
    split
    · exact hg.within s
    · exact hg'.within s
  · intro s
    split
    · exact hg.reads s
    · exact hg'.reads s
  · intro s
    split
    · exact hg.len s
    · exact hg'.len s

end Bounded

/-- The cases of `pf_get_byte`. -/
theorem pullByte_cases (s : Input) :
    (s.result ≠ .PF_PARSE_OK ∧ pullByte s = (0, s)) ∨
    (∃ e : GetResult, e ≠ .PF_PARSE_OK ∧ s.result = .PF_PARSE_OK ∧
      pullByte s = (0, { s with result := e })) ∨
    ∃ buf, s.pBuf = some buf ∧ s.result = .PF_PARSE_OK ∧ s.pos.toNat < s.len.toNat ∧
      pullByte s = (buf s.pos.toNat,
        { s with pos := s.pos + 1, seen := s.pos.toNat :: s.seen }) := by
  unfold pullByte
  by_cases hok : s.result ≠ .PF_PARSE_OK
  · rw [if_pos hok]
    exact .inl ⟨hok, rfl⟩
  · rw [if_neg hok]
    rw [not_not] at hok
    by_cases hend : s.len ≤ s.pos
    · rw [if_pos hend]
      exact .inr (.inl ⟨_, by decide, hok, rfl⟩)
    · rw [if_neg hend]
      cases hbuf : s.pBuf with
      | none => exact .inr (.inl ⟨_, by decide, hok, rfl⟩)
      | some buf => exact .inr (.inr ⟨buf, rfl, hok, BitVec.not_le.mp hend, rfl⟩)

theorem pullMem_cases {n : ℕ} (dest : Vector Byte n) (s : Input) :
    (s.result ≠ .PF_PARSE_OK ∧ pullMem dest s = (dest, s)) ∨
    (∃ e : GetResult, e ≠ .PF_PARSE_OK ∧ s.result = .PF_PARSE_OK ∧
      pullMem dest s = (dest, { s with result := e })) ∨
    ∃ buf, s.pBuf = some buf ∧ s.result = .PF_PARSE_OK ∧ s.pos.toNat + n ≤ s.len.toNat ∧
      pullMem dest s = (Vector.ofFn fun i => buf (s.pos.toNat + i),
        { s with
          pos := s.pos + BitVec.ofNat 16 n
          seen := (List.range n).map (s.pos.toNat + ·) ++ s.seen }) := by
  unfold pullMem
  by_cases hok : s.result ≠ .PF_PARSE_OK
  · rw [if_pos hok]
    exact .inl ⟨hok, rfl⟩
  · rw [if_neg hok]
    rw [not_not] at hok
    by_cases hend : s.len.toNat < s.pos.toNat + n
    · rw [if_pos hend]
      exact .inr (.inl ⟨_, by decide, hok, rfl⟩)
    · rw [if_neg hend]
      cases hbuf : s.pBuf with
      | none => exact .inr (.inl ⟨_, by decide, hok, rfl⟩)
      | some buf => exact .inr (.inr ⟨buf, rfl, hok, not_lt.mp hend, rfl⟩)

/-- A position in front of the end does not wrap. -/
theorem toNat_add_of_le {pos len : BitVec 16} {n : ℕ} (h : pos.toNat + n ≤ len.toNat) :
    (pos + BitVec.ofNat 16 n).toNat = pos.toNat + n := by
  have hlen := len.isLt
  rw [BitVec.toNat_add, BitVec.toNat_ofNat, Nat.add_mod_mod, Nat.mod_eq_of_lt (by omega)]

theorem bounded_byte : Bounded 1 pullByte := by
  constructor
  · intro s hbad
    exact congrArg Prod.snd (if_pos hbad)
  · intro s hok
    rcases pullByte_cases s with ⟨hbad, hrun⟩ | ⟨e, he, -, hrun⟩ | ⟨buf, -, -, hlt, hrun⟩
    · rw [hrun] at hok
      exact absurd hok hbad
    · rw [hrun] at hok
      exact absurd hok he
    · rw [hrun]
      exact toNat_add_of_le hlt
  · intro s
    rcases pullByte_cases s with ⟨-, hrun⟩ | ⟨e, -, -, hrun⟩ | ⟨buf, -, -, hlt, hrun⟩
    · rw [hrun]
      exact le_max_right _ _
    · rw [hrun]
      exact le_max_right _ _
    · rw [hrun]
      exact (toNat_add_of_le hlt).le.trans (Nat.succ_le_of_lt hlt |>.trans (le_max_left _ _))
  · intro s i hi
    rcases pullByte_cases s with ⟨-, hrun⟩ | ⟨e, -, -, hrun⟩ | ⟨buf, -, -, hlt, hrun⟩
    · rw [hrun] at hi
      exact .inl hi
    · rw [hrun] at hi
      exact .inl hi
    · rw [hrun] at hi
      rcases List.mem_cons.mp hi with rfl | hi
      · exact .inr hlt
      · exact .inl hi
  · intro s
    rcases pullByte_cases s with ⟨-, hrun⟩ | ⟨e, -, -, hrun⟩ | ⟨buf, -, -, -, hrun⟩
    · rw [hrun]
    · rw [hrun]
    · rw [hrun]

theorem bounded_mem {n : ℕ} (dest : Vector Byte n) : Bounded n (pullMem dest) := by
  constructor
  · intro s hbad
    exact congrArg Prod.snd (if_pos hbad)
  · intro s hok
    rcases pullMem_cases dest s with ⟨hbad, hrun⟩ | ⟨e, he, -, hrun⟩ | ⟨buf, -, -, hle, hrun⟩
    · rw [hrun] at hok
      exact absurd hok hbad
    · rw [hrun] at hok
      exact absurd hok he
    · rw [hrun]
      exact toNat_add_of_le hle
  · intro s
    rcases pullMem_cases dest s with ⟨-, hrun⟩ | ⟨e, -, -, hrun⟩ | ⟨buf, -, -, hle, hrun⟩
    · rw [hrun]
      exact le_max_right _ _
    · rw [hrun]
      exact le_max_right _ _
    · rw [hrun]
      exact (toNat_add_of_le hle).le.trans (hle.trans (le_max_left _ _))
  · intro s i hi
    rcases pullMem_cases dest s with ⟨-, hrun⟩ | ⟨e, -, -, hrun⟩ | ⟨buf, -, -, hle, hrun⟩
    · rw [hrun] at hi
      exact .inl hi
    · rw [hrun] at hi
      exact .inl hi
    · rw [hrun] at hi
      rcases List.mem_append.mp hi with hi | hi
      · rcases List.mem_map.mp hi with ⟨j, hj, rfl⟩
        have hlt := List.mem_range.mp hj
        exact .inr (by omega)
      · exact .inl hi
  · intro s
    rcases pullMem_cases dest s with ⟨-, hrun⟩ | ⟨e, -, -, hrun⟩ | ⟨buf, -, -, -, hrun⟩
    · rw [hrun]
    · rw [hrun]
    · rw [hrun]

theorem bounded_pull2 {α : Type} (f : Byte → Byte → α) : Bounded 2 (pull2 f) :=
  bounded_byte.bind fun a => bounded_byte.map (f a)

theorem bounded_pull4 {α : Type} (f : Byte → Byte → Byte → Byte → α) : Bounded 4 (pull4 f) :=
  bounded_byte.bind fun a => bounded_byte.bind fun b => bounded_byte.bind fun c =>
    bounded_byte.map (f a b c)

theorem bounded_uint32 : Bounded 4 pullUint32 := (bounded_pull4 _).ite (bounded_pull4 _)

theorem Bounded.congr {α β : Type} {n : ℕ} {g : Pull α} {g' : Pull β} (hg : Bounded n g)
    (h : ∀ s, (g' s).2 = (g s).2) : Bounded n g' := by
  constructor
  · intro s hbad
    rw [h s]
    exact hg.sticky s hbad
  · intro s hok
    rw [h s] at hok ⊢
    exact hg.advances s hok
  · intro s
    rw [h s]
    exact hg.within s
  · intro s
    rw [h s]
    exact hg.reads s
  · intro s
    rw [h s]
    exact hg.len s

theorem bounded_uint16 : Bounded 2 pullUint16 := by
  have hboth : Bounded 2 fun s : Input => if s.isBigEndian then pull2 (fun a b => join2 a b) s
      else pull2 (fun a b => join2 b a) s := (bounded_pull2 _).ite (bounded_pull2 _)
  apply hboth.congr
  intro s
  by_cases hbad : s.result ≠ .PF_PARSE_OK
  · have hrun : pullUint16 s = (0, s) := if_pos hbad
    rw [hrun, hboth.sticky s hbad]
  · exact congrArg Prod.snd (if_neg hbad)

theorem bounded_uuid (dest : Uuid) : Bounded 16 (pullUuid dest) :=
  bounded_uint32.bind fun _ => bounded_uint16.bind fun _ => bounded_uint16.bind fun _ =>
    (bounded_mem dest.data4).map _

/-! ## The getters without a width -/

/-- The parser as the other getters see it. -/
def Input.reader (s : Input) (buf : ℕ → Byte) : Reader :=
  ⟨⟨s.result, s.isBigEndian, buf, s.len.toNat⟩, s.pos.toNat⟩

/-- On an input that is there, `g` does what `g'` does. -/
def Simulates {α : Type} (g : Pull α) (g' : Get α) : Prop :=
  ∀ (s : Input) (buf : ℕ → Byte), s.pBuf = some buf →
    (g s).2.pBuf = some buf ∧ g' (s.reader buf) = ((g s).1, (g s).2.reader buf)

namespace Simulates

variable {α β : Type}

theorem pure (v : α) : Simulates (Pure.pure v) (Pure.pure v) := fun _ _ h => ⟨h, rfl⟩

theorem bind {g : Pull α} {g' : Get α} {f : α → Pull β} {f' : α → Get β} (hg : Simulates g g')
    (hf : ∀ v, Simulates (f v) (f' v)) : Simulates (g >>= f) (g' >>= f') := by
  intro s buf hbuf
  rcases hg s buf hbuf with ⟨hbuf', hrun⟩
  rcases hf (g s).1 (g s).2 buf hbuf' with ⟨hbuf'', hrun'⟩
  refine ⟨hbuf'', ?_⟩
  rw [bind_run, hrun]
  exact hrun'

theorem map {g : Pull α} {g' : Get α} (hg : Simulates g g') (f : α → β) :
    Simulates (do let x ← g; return f x) (do let x ← g'; return f x) :=
  hg.bind fun v => Simulates.pure (f v)

end Simulates

theorem simulates_byte : Simulates pullByte getByte := by
  intro s buf hbuf
  unfold pullByte getByte
  by_cases hbad : s.result ≠ .PF_PARSE_OK
  · rw [if_pos hbad, if_pos (show (s.reader buf).info.result ≠ .PF_PARSE_OK from hbad)]
    exact ⟨hbuf, rfl⟩
  · rw [if_neg hbad, if_neg (show ¬ (s.reader buf).info.result ≠ .PF_PARSE_OK from hbad)]
    by_cases hend : s.len ≤ s.pos
    · have hend' : (s.reader buf).info.len ≤ (s.reader buf).pos := hend
      rw [if_pos hend, if_pos hend']
      exact ⟨hbuf, rfl⟩
    · have hend' : ¬ (s.reader buf).info.len ≤ (s.reader buf).pos := hend
      rw [if_neg hend, if_neg hend', hbuf]
      refine ⟨rfl, ?_⟩
      have hpos : (s.pos + 1).toNat = s.pos.toNat + 1 := toNat_add_of_le (BitVec.not_le.mp hend)
      simp only [Input.reader, hpos]

theorem simulates_mem {n : ℕ} (dest : Vector Byte n) : Simulates (pullMem dest) (getMem dest) := by
  intro s buf hbuf
  unfold pullMem getMem
  by_cases hbad : s.result ≠ .PF_PARSE_OK
  · rw [if_pos hbad, if_pos (show (s.reader buf).info.result ≠ .PF_PARSE_OK from hbad)]
    exact ⟨hbuf, rfl⟩
  · rw [if_neg hbad, if_neg (show ¬ (s.reader buf).info.result ≠ .PF_PARSE_OK from hbad)]
    by_cases hend : s.len.toNat < s.pos.toNat + n
    · have hend' : (s.reader buf).info.len < (s.reader buf).pos + n := hend
      rw [if_pos hend, if_pos hend']
      exact ⟨hbuf, rfl⟩
    · have hend' : ¬ (s.reader buf).info.len < (s.reader buf).pos + n := hend
      rw [if_neg hend, if_neg hend', hbuf]
      refine ⟨rfl, ?_⟩
      simp only [Input.reader, toNat_add_of_le (not_lt.mp hend)]

theorem simulates_pull2 {α : Type} (f : Byte → Byte → α) : Simulates (pull2 f) (get2 f) :=
  simulates_byte.bind fun a => simulates_byte.map (f a)

theorem simulates_pull4 {α : Type} (f : Byte → Byte → Byte → Byte → α) :
    Simulates (pull4 f) (get4 f) :=
  simulates_byte.bind fun a => simulates_byte.bind fun b => simulates_byte.bind fun c =>
    simulates_byte.map (f a b c)

theorem simulates_uint16 : Simulates pullUint16 getUint16 := by
  intro s buf hbuf
  unfold pullUint16 getUint16
  by_cases hbad : s.result ≠ .PF_PARSE_OK
  · rw [if_pos hbad, if_pos (show (s.reader buf).info.result ≠ .PF_PARSE_OK from hbad)]
    exact ⟨hbuf, rfl⟩
  · rw [if_neg hbad, if_neg (show ¬ (s.reader buf).info.result ≠ .PF_PARSE_OK from hbad)]
    by_cases hbig : s.isBigEndian = true
    · rw [if_pos hbig, if_pos (show (s.reader buf).info.isBigEndian = true from hbig)]
      exact simulates_pull2 _ s buf hbuf
    · rw [if_neg hbig, if_neg (show ¬ (s.reader buf).info.isBigEndian = true from hbig)]
      exact simulates_pull2 _ s buf hbuf

theorem simulates_uint32 : Simulates pullUint32 getUint32 := by
  intro s buf hbuf
  unfold pullUint32 getUint32
  by_cases hbig : s.isBigEndian = true
  · rw [if_pos hbig, if_pos (show (s.reader buf).info.isBigEndian = true from hbig)]
    exact simulates_pull4 _ s buf hbuf
  · rw [if_neg hbig, if_neg (show ¬ (s.reader buf).info.isBigEndian = true from hbig)]
    exact simulates_pull4 _ s buf hbuf

theorem simulates_uuid (dest : Uuid) : Simulates (pullUuid dest) (getUuid dest) :=
  simulates_uint32.bind fun _ => simulates_uint16.bind fun _ => simulates_uint16.bind fun _ =>
    (simulates_mem dest.data4).map _

/-! ## Sequences of calls -/

inductive Call where
  | byte
  | uint16
  | uint32
  | mem (n : ℕ) (dest : Vector Byte n)
  | uuid (dest : Uuid)

/-- What a call returns, or leaves in its destination. -/
inductive Answer where
  | byte (v : Byte)
  | uint16 (v : BitVec 16)
  | uint32 (v : BitVec 32)
  | mem (n : ℕ) (dest : Vector Byte n)
  | uuid (dest : Uuid)

namespace Call

def run : Call → Pull Answer
  | byte => do let v ← pullByte; return .byte v
  | uint16 => do let v ← pullUint16; return .uint16 v
  | uint32 => do let v ← pullUint32; return .uint32 v
  | mem n dest => do let v ← pullMem dest; return .mem n v
  | uuid dest => do let v ← pullUuid dest; return .uuid v

def wireSize : Call → ℕ
  | byte => 1
  | uint16 => 2
  | uint32 => 4
  | mem n _ => n
  | uuid _ => 16

/-- The answer after an error: the numbers are zero, and what `pf_get_mem` fills is left alone. -/
def blank : Call → Answer
  | byte => .byte 0
  | uint16 => .uint16 0
  | uint32 => .uint32 0
  | mem n dest => .mem n dest
  | uuid dest => .uuid ⟨0, 0, 0, dest.data4⟩

/-- The answer is zero, or the destination is left alone. -/
def Idle (c : Call) (a : Answer) : Prop :=
  match c, a with
  | byte, .byte v => v = 0
  | uint16, .uint16 v => v = 0
  | uint32, .uint32 v => v = 0
  | mem n dest, a => a = .mem n dest ∨ a = .mem n (Vector.replicate n 0)
  | uuid dest, a => a = .uuid dest ∨ a = .uuid zeroUuid
  | _, _ => False

theorem bounded (c : Call) : Bounded c.wireSize c.run := by
  cases c with
  | byte => exact bounded_byte.map _
  | uint16 => exact bounded_uint16.map _
  | uint32 => exact bounded_uint32.map _
  | mem n dest => exact (bounded_mem dest).map _
  | uuid dest => exact (bounded_uuid dest).map _

end Call

section
variable {s : Input}

theorem pullByte_error (h : s.result ≠ .PF_PARSE_OK) : pullByte s = (0, s) := if_pos h

theorem pullUint16_error (h : s.result ≠ .PF_PARSE_OK) : pullUint16 s = (0, s) := if_pos h

theorem pullMem_error (h : s.result ≠ .PF_PARSE_OK) {n : ℕ} (dest : Vector Byte n) :
    pullMem dest s = (dest, s) := if_pos h

theorem pull4_error {α : Type} (h : s.result ≠ .PF_PARSE_OK)
    (f : Byte → Byte → Byte → Byte → α) : pull4 f s = (f 0 0 0 0, s) := by
  have hrun : pull4 f s =
      (f (pullByte s).1 (pullByte (pullByte s).2).1 (pullByte (pullByte (pullByte s).2).2).1
        (pullByte (pullByte (pullByte (pullByte s).2).2).2).1,
      (pullByte (pullByte (pullByte (pullByte s).2).2).2).2) := rfl
  rw [hrun]
  simp only [pullByte_error h]

theorem pullUint32_error (h : s.result ≠ .PF_PARSE_OK) : pullUint32 s = (0, s) := by
  unfold pullUint32
  split
  · exact pull4_error h _
  · exact pull4_error h _

theorem pullUuid_error (h : s.result ≠ .PF_PARSE_OK) (dest : Uuid) :
    pullUuid dest s = (⟨0, 0, 0, dest.data4⟩, s) := by
  have hrun : pullUuid dest s =
      (⟨(pullUint32 s).1, (pullUint16 (pullUint32 s).2).1,
        (pullUint16 (pullUint16 (pullUint32 s).2).2).1,
        (pullMem dest.data4 (pullUint16 (pullUint16 (pullUint32 s).2).2).2).1⟩,
      (pullMem dest.data4 (pullUint16 (pullUint16 (pullUint32 s).2).2).2).2) := rfl
  rw [hrun]
  simp only [pullUint32_error h, pullUint16_error h, pullMem_error h]

theorem Call.blank_of_error (h : s.result ≠ .PF_PARSE_OK) (c : Call) : c.run s = (c.blank, s) := by
  cases c with
  | byte =>
    show (Answer.byte (pullByte s).1, (pullByte s).2) = _
    rw [pullByte_error h]
    rfl
  | uint16 =>
    show (Answer.uint16 (pullUint16 s).1, (pullUint16 s).2) = _
    rw [pullUint16_error h]
    rfl
  | uint32 =>
    show (Answer.uint32 (pullUint32 s).1, (pullUint32 s).2) = _
    rw [pullUint32_error h]
    rfl
  | mem n dest =>
    show (Answer.mem n (pullMem dest s).1, (pullMem dest s).2) = _
    rw [pullMem_error h dest]
    rfl
  | uuid dest =>
    show (Answer.uuid (pullUuid dest s).1, (pullUuid dest s).2) = _
    rw [pullUuid_error h dest]
    rfl

end

/-- The parser in a byte order. -/
def Input.inOrder (s : Input) (isBigEndian : Bool) : Input := { s with isBigEndian }

/-- The parser after a sequence of calls, each in its own byte order. -/
def runCalls (s : Input) : List (Bool × Call) → Input
  | [] => s
  | (e, c) :: cs => runCalls (c.run (s.inOrder e)).2 cs

/-- A call in the state `s`, in a sequence of calls that started in `first`. -/
structure CallLawful (first s : Input) (c : Call) (out : Answer × Input) : Prop where
  sticky : s.result ≠ .PF_PARSE_OK →
    out.1 = c.blank ∧ out.2.result = s.result ∧ out.2.pos = s.pos
  advances : out.2.result = .PF_PARSE_OK → out.2.pos.toNat = s.pos.toNat + c.wireSize
  within : out.2.pos.toNat ≤ max first.len.toNat first.pos.toNat
  reads : ∀ i ∈ out.2.seen, i ∈ first.seen ∨ i < first.len.toNat

/-- The sequence has stayed inside the input. -/
structure Stays (first s : Input) : Prop where
  len : s.len = first.len
  within : s.pos.toNat ≤ max first.len.toNat first.pos.toNat
  reads : ∀ i ∈ s.seen, i ∈ first.seen ∨ i < first.len.toNat

theorem Stays.call {first s : Input} (h : Stays first s) (e : Bool) (c : Call) :
    Stays first (c.run (s.inOrder e)).2 := by
  constructor
  · exact (c.bounded.len _).trans h.len
  · have hwithin : _ ≤ max s.len.toNat s.pos.toNat := c.bounded.within (s.inOrder e)
    refine hwithin.trans ?_
    rw [h.len]
    exact max_le (le_max_left _ _) h.within
  · intro i hi
    rcases c.bounded.reads _ i hi with hi | hi
    · exact h.reads i hi
    · have hlt : i < s.len.toNat := hi
      right
      rwa [h.len] at hlt

theorem Stays.calls {first s : Input} (h : Stays first s) (cs : List (Bool × Call)) :
    Stays first (runCalls s cs) := by
  induction cs generalizing s with
  | nil => exact h
  | cons ec cs ih => exact ih (h.call ec.1 ec.2)

/-- **Every call of every sequence is lawful**: an error stays and the calls behind it leave the
position and the destinations alone, a call without an error has moved on by its size, and nothing
behind the end of the input is read. -/
theorem calls_lawful (first : Input) (cs : List (Bool × Call)) (e : Bool) (c : Call) :
    CallLawful first (runCalls first cs) c (c.run ((runCalls first cs).inOrder e)) := by
  have hstart : Stays first first := ⟨rfl, le_max_right _ _, fun _ => .inl⟩
  have hstays := (hstart.calls cs).call e c
  constructor
  · intro hbad
    have hbad' : ((runCalls first cs).inOrder e).result ≠ .PF_PARSE_OK := hbad
    rw [Call.blank_of_error hbad']
    exact ⟨rfl, rfl, rfl⟩
  · exact c.bounded.advances _
  · exact hstays.within
  · exact hstays.reads

/-! ### The same calls without a width -/

def Call.get : Call → Get Answer
  | byte => do let v ← getByte; return .byte v
  | uint16 => do let v ← getUint16; return .uint16 v
  | uint32 => do let v ← getUint32; return .uint32 v
  | mem n dest => do let v ← getMem dest; return .mem n v
  | uuid dest => do let v ← getUuid dest; return .uuid v

theorem Call.simulates (c : Call) : Simulates c.run c.get := by
  cases c with
  | byte => exact simulates_byte.map _
  | uint16 => exact simulates_uint16.map _
  | uint32 => exact simulates_uint32.map _
  | mem n dest => exact (simulates_mem dest).map _
  | uuid dest => exact (simulates_uuid dest).map _

/-- What a sequence of calls answers, and the parser behind it. -/
def answers (s : Input) : List (Bool × Call) → List Answer × Input
  | [] => ([], s)
  | (e, c) :: cs =>
    let out := c.run (s.inOrder e)
    let rest := answers out.2 cs
    (out.1 :: rest.1, rest.2)

def readerAnswers (r : Reader) : List (Bool × Call) → List Answer × Reader
  | [] => ([], r)
  | (e, c) :: cs =>
    let out := c.get { r with info := { r.info with isBigEndian := e } }
    let rest := readerAnswers out.2 cs
    (out.1 :: rest.1, rest.2)

/-- On an input that is there, every sequence of calls answers the same and comes to the same place
with the parser of 16 bits and with the one that has no width. -/
theorem answers_simulated (cs : List (Bool × Call)) {s : Input} {buf : ℕ → Byte}
    (hbuf : s.pBuf = some buf) :
    readerAnswers (s.reader buf) cs = ((answers s cs).1, (answers s cs).2.reader buf) := by
  induction cs generalizing s with
  | nil => rfl
  | cons ec cs ih =>
    rcases ec with ⟨e, c⟩
    rcases c.simulates (s.inOrder e) buf hbuf with ⟨hbuf', hrun⟩
    have hget : c.get { s.reader buf with info := { (s.reader buf).info with isBigEndian := e } } =
        ((c.run (s.inOrder e)).1, (c.run (s.inOrder e)).2.reader buf) := hrun
    unfold readerAnswers answers
    dsimp only
    rw [hget]
    dsimp only
    rw [ih hbuf']

/-- Two bytes, and a number for which only one more is left. -/
theorem answers_simulated_short :
    let s : Input := ⟨.PF_PARSE_OK, true, some fun _ => 7, 3, 0, []⟩
    let cs := [(true, Call.uint16), (false, Call.uint32)]
    readerAnswers (s.reader fun _ => 7) cs =
      ((answers s cs).1, (answers s cs).2.reader fun _ => 7) :=
  answers_simulated _ rfl

/-- A UUID that is read behind the end of an empty input: its numbers are lost, the rest of it
stays. -/
theorem not_idle_uuid : ∃ (first : Input) (cs : List (Bool × Call)) (dest : Uuid),
    first.result = .PF_PARSE_OK ∧ (runCalls first cs).result ≠ .PF_PARSE_OK ∧
      ¬ (Call.uuid dest).Idle ((Call.uuid dest).run (runCalls first cs)).1 := by
  have hbad : (runCalls ⟨.PF_PARSE_OK, true, some fun _ => 0, 0, 0, []⟩ [(true, .byte)]).result ≠
      .PF_PARSE_OK := by
    decide
  refine ⟨_, [(true, .byte)], ⟨1, 2, 3, Vector.replicate 8 4⟩, rfl, hbad, ?_⟩
  rw [Call.blank_of_error hbad]
  rintro (h | h)
  · have hdata := congrArg Uuid.data1 (Answer.uuid.inj h)
    exact absurd hdata (by decide)
  · have hdata := congrArg Uuid.data4 (Answer.uuid.inj h)
    exact absurd hdata (by decide)

end PNet.Block.Primitives
