import PNet.Block.Bits
import PNet.Block.Reader

/-! # Round trips

A writer and a reader that agree.

* `RoundTrips`: what the reader makes of the bytes of the writer, and where it stops.
* `Behind`: a writer that leaves the bytes in front of it alone.
-/

namespace PNet.Block

variable {resLen : ℕ}

/-! ## Bit fields -/

/-- What a bit field reads as a number. -/
theorem getBits_toNat {bits : BitVec 32} {pos len : ℕ} (hlen : 0 < len) (hroom : pos + len < 32) :
    (getBits bits pos len).toNat = bits.toNat / 2 ^ pos % 2 ^ len := by
  have hpow : 2 ^ len < 2 ^ 32 := Nat.pow_lt_pow_right (by omega) (by omega)
  have hmask : ((1#32 <<< len) - 1#32).toNat = 2 ^ len - 1 := by
    have hpos : 0 < 2 ^ len := Nat.two_pow_pos len
    rw [BitVec.toNat_sub, BitVec.toNat_shiftLeft]
    simp only [BitVec.toNat_ofNat, Nat.shiftLeft_eq]
    omega
  unfold getBits
  rw [if_neg (by omega), if_neg (by omega), if_neg (by omega), BitVec.toNat_and, hmask,
    Nat.and_two_pow_sub_one_eq_mod, BitVec.toNat_ushiftRight, Nat.shiftRight_eq_div_pow]

/-! ## Writers that leave the front alone -/

def Behind (f : Writer → Writer) : Prop :=
  ∀ w, w.pos ≤ (f w).pos ∧ ∀ i < w.pos, (f w).bytes i = w.bytes i

theorem Behind.comp {f g : Writer → Writer} (hf : Behind f) (hg : Behind g) :
    Behind fun w => g (f w) := by
  intro w
  rcases hf w with ⟨hle, hbytes⟩
  rcases hg (f w) with ⟨hle', hbytes'⟩
  refine ⟨le_trans hle hle', ?_⟩
  intro i hi
  exact (hbytes' i (lt_of_lt_of_le hi hle)).trans (hbytes i hi)

theorem Grows.behind {n : ℕ} {f : Writer → Writer} (h : Grows n f) : Behind f := by
  intro w
  rcases h w with ⟨hle, -, hbytes⟩
  exact ⟨hle, hbytes⟩

theorem behind_id : Behind fun w => w := fun _ => ⟨le_refl _, fun _ _ => rfl⟩

theorem Behind.ite {c : Prop} [Decidable c] {f g : Writer → Writer} (hf : Behind f)
    (hg : Behind g) : Behind fun w => if c then f w else g w := by
  intro w
  dsimp only
  split
  · exact hf w
  · exact hg w

/-- What has been put in front of `f` is there after it. -/
theorem Behind.slice {f : Writer → Writer} (h : Behind f) (w : Writer) {p n : ℕ}
    (hend : p + n ≤ w.pos) : Buffer.slice (f w).bytes p n = Buffer.slice w.bytes p n := by
  apply Buffer.slice_congr
  intro i _ hi
  exact (h w).2 i (lt_of_lt_of_le hi hend)

/-! ## Round trips -/

/-- With room for `room` bytes, `get` reads `v` in the bytes of `put`, from `skip` bytes behind its
start to where `head` has stopped. The byte order is `e` before and `e'` after. -/
def RoundTrips {α : Type} (e e' : Bool) (put head : ℕ → Writer → Writer) (room skip : ℕ)
    (get : Get α) (v : α) : Prop :=
  ∀ (resLen : ℕ) (w : Writer) (r : Reader), w.pos + room ≤ resLen →
    r.info.result = .PF_PARSE_OK → r.info.isBigEndian = e →
    r.info.buf = (put resLen w).bytes → r.pos = w.pos + skip →
    (head resLen w).pos ≤ r.info.len →
    get r = (v, ⟨{ r.info with isBigEndian := e' }, (head resLen w).pos⟩)

/-- It is enough that the bytes of the fields stand behind those that are skipped. -/
theorem Reads.roundTrips {α : Type} {e e' : Bool} {put head : ℕ → Writer → Writer} {room : ℕ}
    {get : Get α} {v : α} {fields : List Byte} (hreads : Reads e get fields v e')
    (skipped : List Byte)
    (hhead : ∀ resLen, Appends resLen (head resLen) (skipped ++ fields))
    (hroom : skipped.length + fields.length ≤ room)
    (hput : ∀ resLen w, w.pos + room ≤ resLen →
      Buffer.slice (put resLen w).bytes (w.pos + skipped.length) fields.length =
        Buffer.slice (head resLen w).bytes (w.pos + skipped.length) fields.length) :
    RoundTrips e e' put head room skipped.length get v := by
  intro resLen w r hlen hok he hbuf hpos hend
  have happend : head resLen w = w.append (skipped ++ fields) :=
    hhead resLen w (by rw [List.length_append]; omega)
  have hstop : (head resLen w).pos = w.pos + skipped.length + fields.length := by
    rw [happend, Writer.append, List.length_append, Nat.add_assoc]
  have hbytes : Buffer.slice (head resLen w).bytes (w.pos + skipped.length) fields.length =
      fields := by
    rw [happend, ← Writer.append_append]
    exact Buffer.slice_write_self _ _ _
  have hslice : Buffer.slice r.info.buf r.pos fields.length = fields := by
    rw [hbuf, hpos, hput resLen w hlen, hbytes]
  rw [hstop] at hend ⊢
  rw [← hpos] at hend ⊢
  exact hreads r hok he hslice hend

/-- There is nothing to skip, and nothing is put behind the fields. -/
theorem Reads.roundTrips_self {α : Type} {e e' : Bool} {put : ℕ → Writer → Writer}
    {get : Get α} {v : α} {fields : List Byte} (hreads : Reads e get fields v e')
    (hput : ∀ resLen, Appends resLen (put resLen) fields) :
    RoundTrips e e' put put fields.length 0 get v :=
  hreads.roundTrips [] hput (le_of_eq (Nat.zero_add _)) fun _ _ _ => rfl

end PNet.Block
