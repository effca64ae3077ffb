import PNet.Block.Exact
import PNet.Lib.Format

/-! # Words as formats

The bytes of a word as the reader of a block takes them, in either byte order.
-/

namespace PNet.Block

open Format

theorem bytes16_reverse (v : BitVec 16) : bytes16 false v = (bytes16 true v).reverse := rfl

theorem bytes32_reverse (v : BitVec 32) : bytes32 false v = (bytes32 true v).reverse := rfl

/-- The word in the bytes `a b`. -/
def word16 (e : Bool) (a b : Byte) : BitVec 16 := if e then join2 a b else join2 b a

def word32 (e : Bool) (a b c d : Byte) : BitVec 32 := if e then join4 a b c d else join4 d c b a

theorem bytes16_word16 (e : Bool) (a b : Byte) : bytes16 e (word16 e a b) = [a, b] := by
  cases e with
  | true => exact bytes16_join2 a b
  | false =>
    rw [bytes16_reverse]
    exact congrArg List.reverse (bytes16_join2 b a)

theorem bytes32_word32 (e : Bool) (a b c d : Byte) :
    bytes32 e (word32 e a b c d) = [a, b, c, d] := by
  cases e with
  | true => exact bytes32_join4 a b c d
  | false =>
    rw [bytes32_reverse]
    exact congrArg List.reverse (bytes32_join4 d c b a)

def byteFormat : Format Byte Byte where
  put v := [v]
  get l := l.head?.map fun v => (v, l.tail)
  Valid _ := True
  get_put _ _ _ := rfl
  put_get := by
    intro l p h
    cases l with
    | nil => cases h
    | cons v rest =>
      cases h
      exact ⟨trivial, rfl⟩

def get16 (e : Bool) : List Byte → Option (BitVec 16 × List Byte)
  | a :: b :: rest => some (word16 e a b, rest)
  | _ => none

def get32 (e : Bool) : List Byte → Option (BitVec 32 × List Byte)
  | a :: b :: c :: d :: rest => some (word32 e a b c d, rest)
  | _ => none

def uint16Format (e : Bool) : Format Byte (BitVec 16) where
  put := bytes16 e
  get := get16 e
  Valid _ := True
  get_put := by
    intro v rest _
    cases e with
    | true => exact congrArg (fun w => some (w, rest)) (join2_split v)
    | false => exact congrArg (fun w => some (w, rest)) (join2_split v)
  put_get := by
    intro l p h
    rcases l with _ | ⟨a, _ | ⟨b, rest⟩⟩
    · cases h
    · cases h
    · cases h
      refine ⟨trivial, ?_⟩
      rw [bytes16_word16]
      rfl

def uint32Format (e : Bool) : Format Byte (BitVec 32) where
  put := bytes32 e
  get := get32 e
  Valid _ := True
  get_put := by
    intro v rest _
    cases e with
    | true => exact congrArg (fun w => some (w, rest)) (join4_split v)
    | false => exact congrArg (fun w => some (w, rest)) (join4_split v)
  put_get := by
    intro l p h
    rcases l with _ | ⟨a, _ | ⟨b, _ | ⟨c, _ | ⟨d, rest⟩⟩⟩⟩
    · cases h
    · cases h
    · cases h
    · cases h
    · cases h
      refine ⟨trivial, ?_⟩
      rw [bytes32_word32]
      rfl

/-- A count in 16 bits. -/
def countFormat (e : Bool) : Format Byte ℕ :=
  (uint16Format e).as BitVec.toNat (BitVec.ofNat 16) (fun n => n < 2 ^ 16)
    (fun v _ => ⟨v.isLt, by rw [BitVec.ofNat_toNat, BitVec.setWidth_eq]⟩)
    (fun n h => ⟨trivial, by rw [BitVec.toNat_ofNat, Nat.mod_eq_of_lt h]⟩)

end PNet.Block
