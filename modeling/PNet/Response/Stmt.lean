import PNet.Response.Room

/-! # The statements of the writers

A statement of a writer together with what is known of it: the bytes that it puts with room for them,
and where it comes to at the end of the room. The writers of a response are put together from them,
so that both are known of each writer.
-/

namespace PNet.Response

open Block Rpc

theorem appends_header {resLen : ℕ} (e : Bool) (bhType bhLength : BitVec 16) (verLow : Byte) :
    Appends resLen (putBlockHeader e bhType bhLength PNET_BLOCK_VERSION_HIGH verLow resLen)
      (bytes16 e bhType ++ bytes16 e (bhLength + BitVec.ofNat 16 blockHeaderSize - 4) ++
        [PNET_BLOCK_VERSION_HIGH, verLow]) := by
  have h := (((@appends_uint16 resLen e bhType).comp
    (appends_uint16 e (bhLength + BitVec.ofNat 16 blockHeaderSize - 4))).comp
      (appends_byte PNET_BLOCK_VERSION_HIGH)).comp (appends_byte verLow)
  rw [List.append_assoc _ [PNET_BLOCK_VERSION_HIGH]] at h
  exact h

/-- A statement of a writer, in a block that begins at `start`. It is known what it puts when there is
room for `extra` more bytes. -/
structure Stmt (extra start : ℕ) where
  put : Put
  bytes : ℕ → List Byte
  move : Move
  writes : WritesIn extra start put bytes
  moves : Moves start put move

namespace Stmt
variable {extra start : ℕ}

def byte (val : Byte) : Stmt extra start where
  put := Response.byte val
  bytes := fun _ => [val]
  move := .bytes 1
  writes := (writes_byte val).within
  moves := moves_byte val

def uint16 (e : Bool) (val : BitVec 16) : Stmt extra start where
  put := Response.uint16 e val
  bytes := fun _ => bytes16 e val
  move := .bytes 2
  writes := (writes_uint16 e val).within
  moves := moves_uint16 e val

def uint32 (e : Bool) (val : BitVec 32) : Stmt extra start where
  put := Response.uint32 e val
  bytes := fun _ => bytes32 e val
  move := .bytes 4
  writes := (writes_uint32 e val).within
  moves := moves_uint32 e val

def mem (src : List Byte) : Stmt extra start where
  put := Response.mem src
  bytes := fun _ => src
  move := .whole src.length
  writes := (writes_mem src).within
  moves := moves_mem src

/-- `pf_put_padding`. -/
def padding (n : ℕ) : Stmt extra start where
  put := Response.padding n
  bytes := fun _ => List.replicate n 0
  move := .bytes n
  writes := (writes_padding n).within
  moves := moves_padding n

/-- `pf_put_padding_align`, from the beginning of the block. -/
def align (a : ℕ) [NeZero a] : Stmt extra start where
  put := paddingAlign start a
  bytes := padBytes start a
  move := .align start a
  writes := (writes_paddingAlign (Nat.pos_of_neZero a)).within
  moves := moves_paddingAlign (Nat.pos_of_neZero a)

/-- `pf_put_block_header`, of a block whose length is told. -/
def header (e : Bool) (bhType bhLength : BitVec 16) (verLow : Byte) : Stmt extra start where
  put := lift (putBlockHeader e bhType bhLength PNET_BLOCK_VERSION_HIGH verLow)
  bytes := fun _ => bytes16 e bhType ++ bytes16 e (bhLength + BitVec.ofNat 16 blockHeaderSize - 4) ++
    [PNET_BLOCK_VERSION_HIGH, verLow]
  move := .bytes 6
  writes := Writes.within (writes_lift fun _ => appends_header e bhType bhLength verLow)
  moves := moves_blockHeader e bhType bhLength PNET_BLOCK_VERSION_HIGH verLow

theorem writes_seq (ss : List (Stmt extra start)) :
    WritesIn extra start (Response.seq (ss.map put)) (seqBytes (ss.map bytes)) := by
  induction ss with
  | nil => exact writes_nil
  | cons s ss ih => exact writes_cons s.writes ih

theorem moves_seq (ss : List (Stmt extra start)) :
    Moves start (Response.seq (ss.map put)) (.seq (ss.map move)) := by
  induction ss with
  | nil => exact moves_nil
  | cons s ss ih => exact moves_cons s.moves ih

/-- Statements, one behind the other. -/
def seq (ss : List (Stmt extra start)) : Stmt extra start where
  put := Response.seq (ss.map put)
  bytes := seqBytes (ss.map bytes)
  move := .seq (ss.map move)
  writes := writes_seq ss
  moves := moves_seq ss

/-- A block. The statements of its fields know where it begins. -/
def block (e : Bool) (bhType : BitVec 16) (verLow : Byte)
    (fields : ∀ blockPos, Stmt extra blockPos) : Stmt extra start where
  put := Response.block e bhType verLow fun blockPos => (fields blockPos).put
  bytes := fun pos => blockBytes e bhType verLow ((fields pos).bytes (pos + 6))
  move := .block fun blockPos => (fields blockPos).move
  writes := @writes_block extra e bhType verLow (fun blockPos => (fields blockPos).put)
    (fun blockPos => (fields blockPos).bytes) (fun blockPos => (fields blockPos).writes) start
  moves := moves_block (fun blockPos => (fields blockPos).moves) start

/-! ## With and without room -/

/-- With room for them and for `extra` more, the bytes are put. -/
theorem put_of_room (s : Stmt extra start) {limit : ℕ} {w : Writer} (hstart : start ≤ w.pos)
    (hroom : w.pos + (s.bytes w.pos).length + extra ≤ limit) :
    s.put limit w = .ok (w.append (s.bytes w.pos)) :=
  s.writes limit w hstart hroom

/-- Whether it comes back or not, nothing is stored at the limit or behind it. -/
theorem put_kept (s : Stmt extra start) {limit : ℕ} {w : Writer} (hstart : start ≤ w.pos) :
    Kept limit w (buffer (s.put limit w)) :=
  (s.moves limit w hstart).1

/-- It comes back where the position has somewhere to go. -/
theorem put_ok_iff (s : Stmt extra start) {limit : ℕ} {w : Writer} (hstart : start ≤ w.pos) :
    (∃ w', s.put limit w = .ok w') ↔ (s.move limit w.pos).isSome = true := by
  rw [← (s.moves limit w hstart).2]
  cases s.put limit w with
  | error w' =>
    constructor
    · rintro ⟨w'', h⟩
      cases h
    · intro h
      cases h
  | ok w' =>
    constructor
    · intro _
      rfl
    · intro _
      exact ⟨w', rfl⟩

/-! ### Statements that always come back -/

/-- Whatever the limit is, it comes back. -/
def Total (s : Stmt extra start) : Prop := s.move.Total

@[simp] theorem total_uint16 (e : Bool) (val : BitVec 16) :
    (uint16 e val : Stmt extra start).Total := Move.total_bytes 2

@[simp] theorem total_uint32 (e : Bool) (val : BitVec 32) :
    (uint32 e val : Stmt extra start).Total := Move.total_bytes 4

@[simp] theorem total_mem (src : List Byte) : (mem src : Stmt extra start).Total :=
  Move.total_whole src.length

@[simp] theorem total_padding (n : ℕ) : (padding n : Stmt extra start).Total := Move.total_bytes n

theorem total_seq {ss : List (Stmt extra start)} (h : ∀ s ∈ ss, s.Total) : (seq ss).Total := by
  apply Move.total_seq
  intro m hm
  rcases List.mem_map.mp hm with ⟨s, hs, rfl⟩
  exact h s hs

theorem total_block {e : Bool} {bhType : BitVec 16} {verLow : Byte}
    {fields : ∀ blockPos, Stmt extra blockPos} (h : ∀ blockPos, (fields blockPos).Total) :
    (block e bhType verLow fields : Stmt extra start).Total :=
  Move.total_block h

/-- A block of fields that always come back. -/
theorem total_block_seq {e : Bool} {bhType : BitVec 16} {verLow : Byte}
    {fields : ∀ blockPos, List (Stmt extra blockPos)} (h : ∀ blockPos, ∀ s ∈ fields blockPos, s.Total) :
    (block e bhType verLow fun blockPos => seq (fields blockPos) : Stmt extra start).Total :=
  total_block fun blockPos => total_seq (h blockPos)

end Stmt

end PNet.Response
