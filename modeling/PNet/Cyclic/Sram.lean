import PNet.Block.Exact

/-! # The SRAM of the switch

`pf_sram_uio.c` reads and writes the SRAM by words of 32 bits, which it takes apart in a union. A
range of bytes may start and end within a word: the other bytes of that word are read before it is
written. A function answers `none` when its loop does not end. The byte order of the host is a
parameter.

* `sramWrite_spec`, `sramRead_spec`: what the two functions do to the bytes of the SRAM.
* `sram_round_trip`: what has been written is read again, and all other bytes keep their values.
-/

namespace PNet.Cyclic

open Block

namespace Sram

def PF_SRAM_MAX_ADDRESS : ℕ := 0x1FFFF

/-! ## Words -/

/-- `__builtin_bswap32`. -/
def bswap32 (x : BitVec 32) : BitVec 32 :=
  join4 (x.setWidth 8) ((x >>> 8).setWidth 8) ((x >>> 16).setWidth 8) ((x >>> 24).setWidth 8)

/-- `HOST_CVT`. -/
def hostCvt (bigEndian : Bool) (x : BitVec 32) : BitVec 32 := if bigEndian then x else bswap32 x

/-- `pf_uio_reg_t`, as the bytes of the union. -/
abbrev UioReg := Vector Byte 4

/-- The union after its `val` has been set. -/
def UioReg.ofVal (bigEndian : Bool) (val : BitVec 32) : UioReg :=
  Vector.ofFn fun i => (val >>> (if bigEndian then 8 * (3 - i.val) else 8 * i.val)).setWidth 8

/-- Its `val`. -/
def UioReg.val (bigEndian : Bool) (r : UioReg) : BitVec 32 :=
  if bigEndian then join4 (r.getD 0 0) (r.getD 1 0) (r.getD 2 0) (r.getD 3 0)
  else join4 (r.getD 3 0) (r.getD 2 0) (r.getD 1 0) (r.getD 0 0)

/-- The memory, and the addresses that have been asked for. -/
structure Mem where
  baseMem : ℕ → BitVec 32
  accesses : List ℕ

/-! ## Access to a word -/

def regCheck (addr : ℕ) : ℤ :=
  if PF_SRAM_MAX_ADDRESS ≤ addr then -1
  else if addr % 4 ≠ 0 then -1
  else 0

/-- `reg_read`, `none` for the answer -1. -/
def regRead (bigEndian : Bool) (addr : ℕ) (s : Mem) : Option (BitVec 32) × Mem :=
  (if regCheck addr < 0 then none else some (hostCvt bigEndian (s.baseMem (addr / 4))),
    { s with accesses := addr :: s.accesses })

/-- `reg_write`. -/
def regWrite (bigEndian : Bool) (addr : ℕ) (val : BitVec 32) (s : Mem) : ℤ × Mem :=
  let s := { s with accesses := addr :: s.accesses }
  if regCheck addr < 0 then (-1, s)
  else (0, { s with baseMem := Function.update s.baseMem (addr / 4) (hostCvt bigEndian val) })

/-! ## Access to a range -/

/-- The inner loop of `pf_sram_write`, with `k` rounds left. -/
def fillReg (data : ℕ → Byte) (length : ℕ) : ℕ → ℕ → UioReg → ℕ → UioReg × ℕ
  | 0, _, tmp, index => (tmp, index)
  | k + 1, i, tmp, index =>
    if index < length then
      fillReg data length k (i + 1) (tmp.setIfInBounds (3 - i) (data index)) (index + 1)
    else fillReg data length k (i + 1) tmp index

def writeLoop (bigEndian : Bool) (data : ℕ → Byte) (length : ℕ) :
    ℕ → ℕ → ℕ → ℕ → Mem → Option (ℤ × Mem)
  | 0, _, _, _, _ => none
  | fuel + 1, uioRegAddr, offset, index, s =>
    if index < length then
      match regRead bigEndian uioRegAddr s with
      | (none, s) => some (-1, s)
      | (some val, s) =>
        let filled := fillReg data length (4 - offset) offset (.ofVal bigEndian val) index
        let (ret, s) := regWrite bigEndian uioRegAddr (filled.1.val bigEndian) s
        if ret ≠ 0 then some (-1, s)
        else writeLoop bigEndian data length fuel (uioRegAddr + 4) 0 filled.2 s
    else some (0, s)

/-- The inner loop of `pf_sram_read`. -/
def drainReg (tmp : UioReg) (length : ℕ) : ℕ → ℕ → (ℕ → Byte) → ℕ → (ℕ → Byte) × ℕ
  | 0, _, data, index => (data, index)
  | k + 1, i, data, index =>
    if index < length then
      drainReg tmp length k (i + 1) (Function.update data index (tmp.getD (3 - i) 0)) (index + 1)
    else drainReg tmp length k (i + 1) data index

def readLoop (bigEndian : Bool) (length : ℕ) :
    ℕ → ℕ → ℕ → (ℕ → Byte) → ℕ → Mem → Option (ℤ × (ℕ → Byte) × Mem)
  | 0, _, _, _, _, _ => none
  | fuel + 1, uioRegAddr, offset, data, index, s =>
    if index < length then
      match regRead bigEndian uioRegAddr s with
      | (none, s) => some (-1, data, s)
      | (some val, s) =>
        let drained := drainReg (.ofVal bigEndian val) length (4 - offset) offset data index
        readLoop bigEndian length fuel (uioRegAddr + 4) 0 drained.1 drained.2 s
    else some (0, data, s)

/-- Where the word of an address starts. -/
def wordAddress (address : BitVec 16) : ℕ := (address.setWidth 32 &&& 0xFFFFFFFC#32).toNat

/-- `pf_sram_write`. -/
def sramWrite (bigEndian : Bool) (fuel : ℕ) (address : BitVec 16) (data : ℕ → Byte)
    (length : BitVec 16) (s : Mem) : Option (ℤ × Mem) :=
  writeLoop bigEndian data length.toNat fuel (wordAddress address)
    (address.toNat - wordAddress address) 0 s

/-- `pf_sram_read`. -/
def sramRead (bigEndian : Bool) (fuel : ℕ) (address : BitVec 16) (data : ℕ → Byte)
    (length : BitVec 16) (s : Mem) : Option (ℤ × (ℕ → Byte) × Mem) :=
  readLoop bigEndian length.toNat fuel (wordAddress address)
    (address.toNat - wordAddress address) data 0 s

/-! ## The memory by bytes -/

/-- The byte at an address. -/
def byteAt (bigEndian : Bool) (baseMem : ℕ → BitVec 32) (a : ℕ) : Byte :=
  (UioReg.ofVal bigEndian (hostCvt bigEndian (baseMem (a / 4)))).getD (3 - a % 4) 0

/-- An access of a word that the memory has. -/
def Allowed (addr : ℕ) : Prop := addr % 4 = 0 ∧ addr < PF_SRAM_MAX_ADDRESS

theorem join4_bytes (a b c d : Byte) :
    ((join4 a b c d >>> 24).setWidth 8 = a ∧ (join4 a b c d >>> 16).setWidth 8 = b) ∧
      (join4 a b c d >>> 8).setWidth 8 = c ∧ (join4 a b c d).setWidth 8 = d := by
  have h := bytes32_join4 a b c d
  simp only [bytes32, if_true, List.cons.injEq, and_true] at h
  exact ⟨⟨h.1, h.2.1⟩, h.2.2.1, h.2.2.2⟩

theorem getElem_eq_getD (r : UioReg) {i : ℕ} (hi : i < 4) : r[i] = r.getD i 0 := by
  unfold Vector.getD
  rw [Array.getD_eq_getD_getElem?, Array.getElem?_eq_getElem (by rwa [Vector.size_toArray])]
  rfl

/-- The bytes of the union are those that have been put into it. -/
theorem ofVal_val (bigEndian : Bool) (r : UioReg) :
    UioReg.ofVal bigEndian (r.val bigEndian) = r := by
  have hbig := join4_bytes (r.getD 0 0) (r.getD 1 0) (r.getD 2 0) (r.getD 3 0)
  have hlittle := join4_bytes (r.getD 3 0) (r.getD 2 0) (r.getD 1 0) (r.getD 0 0)
  apply Vector.ext
  intro i hi
  rw [getElem_eq_getD r hi]
  unfold UioReg.ofVal UioReg.val
  rw [Vector.getElem_ofFn]
  cases bigEndian with
  | true =>
    rcases i with _ | _ | _ | _ | i
    · exact hbig.1.1
    · exact hbig.1.2
    · exact hbig.2.1
    · exact hbig.2.2
    · omega
  | false =>
    rcases i with _ | _ | _ | _ | i
    · exact hlittle.2.2
    · exact hlittle.2.1
    · exact hlittle.1.2
    · exact hlittle.1.1
    · omega

theorem hostCvt_hostCvt (bigEndian : Bool) (x : BitVec 32) :
    hostCvt bigEndian (hostCvt bigEndian x) = x := by
  cases bigEndian with
  | true => rfl
  | false =>
    show bswap32 (bswap32 x) = x
    have h := join4_bytes (x.setWidth 8) ((x >>> 8).setWidth 8) ((x >>> 16).setWidth 8)
      ((x >>> 24).setWidth 8)
    unfold bswap32
    rw [h.1.1, h.1.2, h.2.1, h.2.2, join4_split]

theorem byteAt_of_div_ne {bigEndian : Bool} {baseMem : ℕ → BitVec 32} {w a : ℕ} {x : BitVec 32}
    (h : a / 4 ≠ w) :
    byteAt bigEndian (Function.update baseMem w x) a = byteAt bigEndian baseMem a := by
  unfold byteAt
  rw [Function.update_of_ne h]

theorem byteAt_update {bigEndian : Bool} {baseMem : ℕ → BitVec 32} {r : UioReg} {a w : ℕ}
    (h : a / 4 = w) :
    byteAt bigEndian (Function.update baseMem w (hostCvt bigEndian (r.val bigEndian))) a =
      r.getD (3 - a % 4) 0 := by
  unfold byteAt
  rw [h, Function.update_self, hostCvt_hostCvt, ofVal_val]

theorem wordAddress_eq (address : BitVec 16) : wordAddress address = address.toNat / 4 * 4 := by
  have hmask : ∀ i < 32, (0xFFFFFFFC#32).getLsbD i = decide (2 ≤ i) := by decide
  have hand : address.setWidth 32 &&& 0xFFFFFFFC#32 = (address.setWidth 32 >>> 2) <<< 2 := by
    apply BitVec.eq_of_getLsbD_eq
    intro i hi
    rw [BitVec.getLsbD_and, hmask i hi, BitVec.getLsbD_shiftLeft, BitVec.getLsbD_ushiftRight]
    by_cases h2 : 2 ≤ i
    · rw [decide_eq_true h2, decide_eq_true hi, decide_eq_false (show ¬ i < 2 by omega),
        Nat.add_sub_cancel' h2, Bool.and_true, Bool.not_false, Bool.and_true, Bool.true_and]
    · rw [decide_eq_false h2, decide_eq_true (show i < 2 by omega), Bool.and_false, Bool.not_true,
        Bool.and_false, Bool.false_and]
  have haddress := address.isLt
  unfold wordAddress
  rw [hand, BitVec.toNat_shiftLeft, BitVec.toNat_ushiftRight, BitVec.toNat_setWidth,
    Nat.mod_eq_of_lt (show address.toNat < 2 ^ 32 by omega), Nat.shiftRight_eq_div_pow,
    Nat.shiftLeft_eq, Nat.mod_eq_of_lt (by omega)]

/-! ## One word -/

theorem getD_setIfInBounds {r : UioReg} {i j : ℕ} {x : Byte} (h : i < 4) :
    (r.setIfInBounds i x).getD j 0 = if i = j then x else r.getD j 0 := by
  unfold Vector.getD
  rw [Array.getD_eq_getD_getElem?, Array.getD_eq_getD_getElem?, Vector.toArray_setIfInBounds,
    Array.getElem?_setIfInBounds, Vector.size_toArray, if_pos h]
  split <;> rfl

theorem fillReg_index {data : ℕ → Byte} {length : ℕ} (k i : ℕ) (tmp : UioReg) (index : ℕ) :
    (fillReg data length k i tmp index).2 = index + min k (length - index) := by
  induction k generalizing i tmp index with
  | zero =>
    unfold fillReg
    omega
  | succ k ih =>
    unfold fillReg
    split
    · rw [ih]
      omega
    · rw [ih]
      omega

theorem fillReg_getD {data : ℕ → Byte} {length : ℕ} {k i : ℕ} {tmp : UioReg} {index j : ℕ}
    (hk : i + k = 4) (hj : j < 4) :
    (fillReg data length k i tmp index).1.getD (3 - j) 0 =
      if i ≤ j ∧ j < i + (length - index) then data (index + (j - i)) else tmp.getD (3 - j) 0 := by
  induction k generalizing i tmp index with
  | zero => exact (if_neg (by omega)).symm
  | succ k ih =>
    unfold fillReg
    split
    · next hlt =>
      rw [ih (by omega)]
      by_cases hi : i = j
      · -- The byte of this round: the later ones leave it alone.
        subst hi
        rw [if_neg (by omega), if_pos (by omega), getD_setIfInBounds (by omega), if_pos rfl,
          Nat.sub_self, Nat.add_zero]
      · rw [getD_setIfInBounds (by omega), if_neg (show 3 - i ≠ 3 - j by omega)]
        by_cases hin : i ≤ j ∧ j < i + (length - index)
        · rw [if_pos (by omega), if_pos hin]
          congr 1
          omega
        · rw [if_neg (by omega), if_neg hin]
    · next hge =>
      rw [ih (by omega), if_neg (by omega), if_neg (by omega)]

theorem drainReg_index {tmp : UioReg} {length : ℕ} (k i : ℕ) (data : ℕ → Byte) (index : ℕ) :
    (drainReg tmp length k i data index).2 = index + min k (length - index) := by
  induction k generalizing i data index with
  | zero =>
    unfold drainReg
    omega
  | succ k ih =>
    unfold drainReg
    split
    · rw [ih]
      omega
    · rw [ih]
      omega

theorem drainReg_data {tmp : UioReg} {length : ℕ} (k i : ℕ) (data : ℕ → Byte) (index m : ℕ) :
    (drainReg tmp length k i data index).1 m =
      if index ≤ m ∧ m < index + min k (length - index) then
        tmp.getD (3 - (i + (m - index))) 0
      else data m := by
  induction k generalizing i data index with
  | zero => exact (if_neg (by omega)).symm
  | succ k ih =>
    unfold drainReg
    split
    · next hlt =>
      rw [ih]
      by_cases hm : m = index
      · subst hm
        rw [if_neg (by omega), if_pos (by omega), Function.update_self, Nat.sub_self, Nat.add_zero]
      · rw [Function.update_of_ne hm]
        by_cases hin : index ≤ m ∧ m < index + min (k + 1) (length - index)
        · rw [if_pos (by omega), if_pos hin]
          congr 1
          omega
        · rw [if_neg (by omega), if_neg hin]
    · next hge =>
      rw [ih, if_neg (by omega), if_neg (by omega)]

theorem Allowed.regCheck {addr : ℕ} (h : Allowed addr) : regCheck addr = 0 := by
  unfold Sram.regCheck
  rw [if_neg (Nat.not_le.mpr h.2), if_neg (not_not.mpr h.1)]

theorem regRead_allowed {bigEndian : Bool} {addr : ℕ} {s : Mem} (h : Allowed addr) :
    regRead bigEndian addr s =
      (some (hostCvt bigEndian (s.baseMem (addr / 4))),
        { s with accesses := addr :: s.accesses }) := by
  unfold regRead
  rw [h.regCheck]
  rfl

theorem regWrite_allowed {bigEndian : Bool} {addr : ℕ} {val : BitVec 32} {s : Mem}
    (h : Allowed addr) :
    regWrite bigEndian addr val s =
      (0, ⟨Function.update s.baseMem (addr / 4) (hostCvt bigEndian val), addr :: s.accesses⟩) := by
  unfold regWrite
  rw [h.regCheck]
  rfl

/-! ## The loops -/

/-- Where a loop is: behind the bytes up to `index`, if it still has some to do. -/
structure Place (A length addr offset index : ℕ) : Prop where
  aligned : addr % 4 = 0
  offset_lt : offset < 4
  here : index < length → addr + offset = A + index

/-- The accesses that have been made from one state to another are allowed. -/
def OnlyAllowed (s s' : Mem) : Prop := ∀ x ∈ s'.accesses, x ∈ s.accesses ∨ Allowed x

theorem OnlyAllowed.trans {s s' s'' : Mem} (h : OnlyAllowed s s') (h' : OnlyAllowed s' s'') :
    OnlyAllowed s s'' := by
  intro x hx
  rcases h' x hx with hx | hx
  · exact h x hx
  · exact .inr hx

section Loops

variable {bigEndian : Bool} {A length addr offset index : ℕ}

theorem Place.allowed (h : Place A length addr offset index) (hlt : index < length)
    (hA : A + length ≤ 131070) : Allowed addr := by
  have hhere := h.here hlt
  have haligned := h.aligned
  unfold Allowed PF_SRAM_MAX_ADDRESS
  omega

theorem Place.next (h : Place A length addr offset index) (hlt : index < length) :
    Place A length (addr + 4) 0 (index + min (4 - offset) (length - index)) := by
  have hhere := h.here hlt
  have haligned := h.aligned
  have hoffset := h.offset_lt
  constructor
  · omega
  · omega
  · intro _
    omega

/-- The memory after one round of `pf_sram_write`. -/
def wroteWord (bigEndian : Bool) (data : ℕ → Byte) (length addr offset index : ℕ) (s : Mem) : Mem :=
  ⟨Function.update s.baseMem (addr / 4) (hostCvt bigEndian ((fillReg data length (4 - offset) offset
    (.ofVal bigEndian (hostCvt bigEndian (s.baseMem (addr / 4)))) index).1.val bigEndian)),
    addr :: addr :: s.accesses⟩

theorem writeLoop_round {data : ℕ → Byte} {fuel : ℕ} {s : Mem} (hlt : index < length)
    (h : Allowed addr) :
    writeLoop bigEndian data length (fuel + 1) addr offset index s =
      writeLoop bigEndian data length fuel (addr + 4) 0
        (index + min (4 - offset) (length - index))
        (wroteWord bigEndian data length addr offset index s) := by
  conv_lhs => unfold writeLoop
  rw [if_pos hlt, regRead_allowed h]
  simp only [regWrite_allowed h]
  rw [if_neg (not_not.mpr rfl), fillReg_index]
  rfl

theorem byteAt_wroteWord {data : ℕ → Byte} {s : Mem} (h : Place A length addr offset index)
    (hlt : index < length) (a : ℕ) :
    byteAt bigEndian (wroteWord bigEndian data length addr offset index s).baseMem a =
      if A + index ≤ a ∧ a < A + (index + min (4 - offset) (length - index)) then data (a - A)
      else byteAt bigEndian s.baseMem a := by
  have hhere := h.here hlt
  have haligned := h.aligned
  have hoffset := h.offset_lt
  unfold wroteWord
  by_cases hword : a / 4 = addr / 4
  · rw [byteAt_update hword, fillReg_getD (by omega) (by omega)]
    by_cases hin : A + index ≤ a ∧ a < A + (index + min (4 - offset) (length - index))
    · rw [if_pos (by omega), if_pos hin]
      congr 1
      omega
    · rw [if_neg (by omega), if_neg hin]
      unfold byteAt
      rw [hword]
  · rw [byteAt_of_div_ne hword, if_neg (by omega)]

/-- What `pf_sram_write` does from a round on. -/
theorem writeLoop_spec {data : ℕ → Byte} {s : Mem} (h : Place A length addr offset index)
    (hA : A + length ≤ 131070) :
    ∃ s', (∀ fuel, length - index < fuel →
        writeLoop bigEndian data length fuel addr offset index s = some (0, s')) ∧
      (∀ a, byteAt bigEndian s'.baseMem a =
        if A + index ≤ a ∧ a < A + length then data (a - A) else byteAt bigEndian s.baseMem a) ∧
      OnlyAllowed s s' := by
  -- The induction is on the bytes that are left; a round does at least one of them.
  induction hn : length - index using Nat.strong_induction_on generalizing addr offset index s with
  | _ n ih =>
    by_cases hlt : index < length
    · have hallowed := h.allowed hlt hA
      have hoffset := h.offset_lt
      obtain ⟨s', hloop, hbytes, honly⟩ :=
        ih _ (by omega) (s := wroteWord bigEndian data length addr offset index s) (h.next hlt) rfl
      refine ⟨s', ?_, ?_, ?_⟩
      · intro fuel hfuel
        obtain ⟨fuel, rfl⟩ := Nat.exists_eq_succ_of_ne_zero (Nat.ne_zero_of_lt hfuel)
        rw [writeLoop_round hlt hallowed]
        exact hloop fuel (by omega)
      · intro a
        rw [hbytes, byteAt_wroteWord h hlt]
        by_cases hlate : A + (index + min (4 - offset) (length - index)) ≤ a ∧ a < A + length
        · rw [if_pos hlate, if_pos (by omega)]
        · rw [if_neg hlate]
          by_cases hin : A + index ≤ a ∧ a < A + length
          · rw [if_pos (by omega), if_pos hin]
          · rw [if_neg (by omega), if_neg hin]
      · refine OnlyAllowed.trans ?_ honly
        intro x hx
        rcases List.mem_cons.mp hx with rfl | hx
        · exact .inr hallowed
        · rcases List.mem_cons.mp hx with rfl | hx
          · exact .inr hallowed
          · exact .inl hx
    · refine ⟨s, ?_, ?_, fun x hx => .inl hx⟩
      · intro fuel hfuel
        obtain ⟨fuel, rfl⟩ := Nat.exists_eq_succ_of_ne_zero (Nat.ne_zero_of_lt hfuel)
        unfold writeLoop
        rw [if_neg hlt]
      · intro a
        rw [if_neg (by omega)]

theorem readLoop_round {data : ℕ → Byte} {fuel : ℕ} {s : Mem} (hlt : index < length)
    (h : Allowed addr) :
    readLoop bigEndian length (fuel + 1) addr offset data index s =
      readLoop bigEndian length fuel (addr + 4) 0
        (drainReg (.ofVal bigEndian (hostCvt bigEndian (s.baseMem (addr / 4)))) length (4 - offset)
          offset data index).1
        (index + min (4 - offset) (length - index)) { s with accesses := addr :: s.accesses } := by
  conv_lhs => unfold readLoop
  rw [if_pos hlt, regRead_allowed h]
  simp only [drainReg_index]

theorem drainReg_byteAt {data : ℕ → Byte} {s : Mem} (h : Place A length addr offset index)
    (hlt : index < length) (m : ℕ) :
    (drainReg (.ofVal bigEndian (hostCvt bigEndian (s.baseMem (addr / 4)))) length (4 - offset)
        offset data index).1 m =
      if index ≤ m ∧ m < index + min (4 - offset) (length - index) then
        byteAt bigEndian s.baseMem (A + m)
      else data m := by
  have hhere := h.here hlt
  have haligned := h.aligned
  have hoffset := h.offset_lt
  rw [drainReg_data]
  by_cases hin : index ≤ m ∧ m < index + min (4 - offset) (length - index)
  · rw [if_pos hin, if_pos hin]
    unfold byteAt
    rw [show (A + m) / 4 = addr / 4 by omega, show (A + m) % 4 = offset + (m - index) by omega]
  · rw [if_neg hin, if_neg hin]

/-- What `pf_sram_read` does from a round on. -/
theorem readLoop_spec {data : ℕ → Byte} {s : Mem} (h : Place A length addr offset index)
    (hA : A + length ≤ 131070) :
    ∃ data' s', (∀ fuel, length - index < fuel →
        readLoop bigEndian length fuel addr offset data index s = some (0, data', s')) ∧
      (∀ m, data' m =
        if index ≤ m ∧ m < length then byteAt bigEndian s.baseMem (A + m) else data m) ∧
      s'.baseMem = s.baseMem ∧ OnlyAllowed s s' := by
  induction hn : length - index using Nat.strong_induction_on
    generalizing addr offset index s data with
  | _ n ih =>
    by_cases hlt : index < length
    · have hallowed := h.allowed hlt hA
      have hoffset := h.offset_lt
      obtain ⟨data', s', hloop, hbytes, hsame, honly⟩ :=
        @ih _ (by omega) _ _ _
          (drainReg (.ofVal bigEndian (hostCvt bigEndian (s.baseMem (addr / 4)))) length
            (4 - offset) offset data index).1 { s with accesses := addr :: s.accesses } (h.next hlt)
          rfl
      refine ⟨data', s', ?_, ?_, hsame, ?_⟩
      · intro fuel hfuel
        obtain ⟨fuel, rfl⟩ := Nat.exists_eq_succ_of_ne_zero (Nat.ne_zero_of_lt hfuel)
        rw [readLoop_round hlt hallowed]
        exact hloop fuel (by omega)
      · intro m
        rw [hbytes, drainReg_byteAt h hlt]
        by_cases hlate : index + min (4 - offset) (length - index) ≤ m ∧ m < length
        · rw [if_pos hlate, if_pos (by omega)]
        · rw [if_neg hlate]
          by_cases hin : index ≤ m ∧ m < length
          · rw [if_pos (by omega), if_pos hin]
          · rw [if_neg (by omega), if_neg hin]
      · refine OnlyAllowed.trans ?_ honly
        intro x hx
        rcases List.mem_cons.mp hx with rfl | hx
        · exact .inr hallowed
        · exact .inl hx
    · refine ⟨data, s, ?_, ?_, rfl, fun x hx => .inl hx⟩
      · intro fuel hfuel
        obtain ⟨fuel, rfl⟩ := Nat.exists_eq_succ_of_ne_zero (Nat.ne_zero_of_lt hfuel)
        unfold readLoop
        rw [if_neg hlt]
      · intro m
        rw [if_neg (by omega)]

end Loops

theorem place_start (address length : BitVec 16) :
    Place address.toNat length.toNat (wordAddress address)
      (address.toNat - wordAddress address) 0 := by
  have hword := wordAddress_eq address
  constructor
  · omega
  · omega
  · intro _
    omega

theorem range_le (address length : BitVec 16) : address.toNat + length.toNat ≤ 131070 := by
  have haddress := address.isLt
  have hlength := length.isLt
  omega

/-! ## The two functions -/

/-- `pf_sram_write` ends, with 0, in a state. -/
def Writes (bigEndian : Bool) (address : BitVec 16) (data : ℕ → Byte) (length : BitVec 16)
    (s s' : Mem) : Prop :=
  ∀ fuel, length.toNat < fuel → sramWrite bigEndian fuel address data length s = some (0, s')

/-- `pf_sram_read` ends, with 0, with what it has read and in a state. -/
def Reads (bigEndian : Bool) (address : BitVec 16) (dest : ℕ → Byte) (length : BitVec 16)
    (s : Mem) (got : ℕ → Byte) (s' : Mem) : Prop :=
  ∀ fuel, length.toNat < fuel → sramRead bigEndian fuel address dest length s = some (0, got, s')

theorem sramWrite_spec (bigEndian : Bool) (address : BitVec 16) (data : ℕ → Byte)
    (length : BitVec 16) (s : Mem) :
    ∃ s', Writes bigEndian address data length s s' ∧
      (∀ a, byteAt bigEndian s'.baseMem a =
        if address.toNat ≤ a ∧ a < address.toNat + length.toNat then data (a - address.toNat)
        else byteAt bigEndian s.baseMem a) ∧
      OnlyAllowed s s' :=
  writeLoop_spec (place_start address length) (range_le address length)

theorem sramRead_spec (bigEndian : Bool) (address : BitVec 16) (dest : ℕ → Byte)
    (length : BitVec 16) (s : Mem) :
    ∃ got s', Reads bigEndian address dest length s got s' ∧
      (∀ m < length.toNat, got m = byteAt bigEndian s.baseMem (address.toNat + m)) ∧
      s'.baseMem = s.baseMem ∧ OnlyAllowed s s' := by
  obtain ⟨got, s', hreads, hbytes, hsame, honly⟩ := @readLoop_spec bigEndian _ _ _ _ _ dest s
    (place_start address length) (range_le address length)
  refine ⟨got, s', hreads, ?_, hsame, honly⟩
  intro m hm
  rw [hbytes, if_pos ⟨Nat.zero_le m, hm⟩]

/-- What a write has to do with the reads around it. -/
structure RoundTrip (bigEndian : Bool) (address : BitVec 16) (data : ℕ → Byte)
    (length : BitVec 16) (s s' : Mem) : Prop where
  writes : Writes bigEndian address data length s s'
  allowed : OnlyAllowed s s'
  /-- The same range is read. -/
  back : ∀ dest, ∃ got s'', Reads bigEndian address dest length s' got s'' ∧ OnlyAllowed s' s'' ∧
    ∀ m < length.toNat, got m = data m
  /-- Any range is read before the write and after it. -/
  others : ∀ address' length' dest, ∃ before after t t',
    Reads bigEndian address' dest length' s before t ∧ OnlyAllowed s t ∧
    Reads bigEndian address' dest length' s' after t' ∧ OnlyAllowed s' t' ∧
    ∀ m < length'.toNat,
      ¬ (address.toNat ≤ address'.toNat + m ∧
        address'.toNat + m < address.toNat + length.toNat) → after m = before m

/-- **The bytes that have been written are read again, all others keep their values**, for every
address and length, and all accesses to words are allowed. -/
theorem sram_round_trip (bigEndian : Bool) (s : Mem) (address length : BitVec 16)
    (data : ℕ → Byte) : ∃ s', RoundTrip bigEndian address data length s s' := by
  obtain ⟨s', hwrites, hbytes, honly⟩ := sramWrite_spec bigEndian address data length s
  refine ⟨s', hwrites, honly, ?_, ?_⟩
  · intro dest
    obtain ⟨got, s'', hreads, hgot, -, honly'⟩ := sramRead_spec bigEndian address dest length s'
    refine ⟨got, s'', hreads, honly', ?_⟩
    intro m hm
    rw [hgot m hm, hbytes, if_pos (by omega), Nat.add_sub_cancel_left]
  · intro address' length' dest
    obtain ⟨before, t, hbefore, hold, -, honlyOld⟩ :=
      sramRead_spec bigEndian address' dest length' s
    obtain ⟨after, t', hafter, hnew, -, honlyNew⟩ :=
      sramRead_spec bigEndian address' dest length' s'
    refine ⟨before, after, t, t', hbefore, honlyOld, hafter, honlyNew, ?_⟩
    intro m hm hout
    rw [hnew m hm, hold m hm, hbytes, if_neg hout]

end Sram

end PNet.Cyclic
