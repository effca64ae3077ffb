import PNet.Block.Writer

/-! # Bit fields

A word that `pf_put_bits` builds from the low bits on is the sum of its fields.
-/

namespace PNet.Block

/-- A field that is put above the ones before it. -/
theorem putBits_toNat {val bits : BitVec 32} {len pos : ℕ} (hlen : pos + len ≤ 32)
    (hbits : bits.toNat < 2 ^ pos) :
    (putBits val len pos bits).toNat = bits.toNat + val.toNat % 2 ^ len * 2 ^ pos := by
  have hmask : ((1#32 <<< len) - 1#32).toNat = 2 ^ len - 1 := by
    by_cases h : len = 32
    · subst h
      rfl
    · have hlt : 2 ^ len < 2 ^ 32 := Nat.pow_lt_pow_right (by decide) (by omega)
      have hpos : 0 < 2 ^ len := Nat.two_pow_pos len
      rw [BitVec.toNat_sub, BitVec.toNat_shiftLeft]
      simp only [BitVec.toNat_ofNat, Nat.shiftLeft_eq]
      omega
  have hval : val.toNat % 2 ^ len * 2 ^ pos < 2 ^ 32 := by
    calc val.toNat % 2 ^ len * 2 ^ pos < 2 ^ len * 2 ^ pos :=
          (Nat.mul_lt_mul_right (Nat.two_pow_pos pos)).mpr (Nat.mod_lt _ (Nat.two_pow_pos len))
      _ = 2 ^ (pos + len) := by rw [← Nat.pow_add, Nat.add_comm]
      _ ≤ 2 ^ 32 := Nat.pow_le_pow_right (by decide) hlen
  rw [putBits, BitVec.toNat_or, BitVec.toNat_shiftLeft, BitVec.toNat_and, hmask,
    Nat.and_two_pow_sub_one_eq_mod, Nat.shiftLeft_eq, Nat.mod_eq_of_lt hval, Nat.or_comm,
    ← Nat.shiftLeft_eq, ← Nat.shiftLeft_add_eq_or_of_lt hbits, Nat.add_comm]

/-- The low `n` bits are in use, and stand for `v`. -/
def Packed (n : ℕ) (bits : BitVec 32) (v : ℕ) : Prop := bits.toNat = v ∧ v < 2 ^ n

theorem packed_zero : Packed 0 0 0 := ⟨rfl, by decide⟩

theorem Packed.putBits {m v : ℕ} {bits : BitVec 32} (h : Packed m bits v) (val : BitVec 32)
    (len pos : ℕ) (hm : m ≤ pos) (hlen : pos + len ≤ 32) :
    Packed (pos + len) (putBits val len pos bits) (v + val.toNat % 2 ^ len * 2 ^ pos) := by
  rcases h with ⟨rfl, hv⟩
  have hbits : bits.toNat < 2 ^ pos := lt_of_lt_of_le hv (Nat.pow_le_pow_right (by decide) hm)
  have hval := Nat.mod_lt val.toNat (Nat.two_pow_pos len)
  constructor
  · exact putBits_toNat hlen hbits
  · calc bits.toNat + val.toNat % 2 ^ len * 2 ^ pos < 2 ^ pos + val.toNat % 2 ^ len * 2 ^ pos :=
          Nat.add_lt_add_right hbits _
      _ = (val.toNat % 2 ^ len + 1) * 2 ^ pos := by rw [Nat.add_comm, Nat.succ_mul]
      _ ≤ 2 ^ len * 2 ^ pos := Nat.mul_le_mul_right _ hval
      _ = 2 ^ (pos + len) := by rw [← Nat.pow_add, Nat.add_comm]

end PNet.Block
