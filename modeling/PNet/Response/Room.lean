import PNet.Response.Frame

/-! # Writers at the end of the room

What the writers do when the limit is reached in the middle of them.

* `Moves start p m`: from the limit and the position, `m` tells where `p` comes to, or that it waits
  for good; and whether it comes back or not, it stores nothing at the limit or behind it.
-/

namespace PNet.Response

open Block Rpc

/-- Where a writer comes to, from the limit and the position; nowhere when it waits for good. -/
abbrev Move := ℕ → ℕ → Option ℕ

/-- The position behind `n` bytes that are put one by one. -/
def cut (limit n pos : ℕ) : ℕ := max pos (min (pos + n) limit)

/-- The position behind `n` bytes that are put as a whole or not at all. -/
def fit (limit n pos : ℕ) : ℕ := if limit < pos + n then pos else pos + n

/-- The next multiple of `a`, counted from `start`, is within the limit. -/
def AlignsWithin (limit start a pos : ℕ) : Prop := pos + pad start a pos ≤ max pos limit

instance (limit start a pos : ℕ) : Decidable (AlignsWithin limit start a pos) :=
  inferInstanceAs (Decidable (_ ≤ _))

namespace Move

def bytes (n : ℕ) : Move := fun limit pos => some (cut limit n pos)

def whole (n : ℕ) : Move := fun limit pos => some (fit limit n pos)

def align (start a : ℕ) : Move := fun limit pos =>
  if AlignsWithin limit start a pos then some (pos + pad start a pos) else none

def seq : List Move → Move
  | [], _, pos => some pos
  | m :: ms, limit, pos => (m limit pos).bind (seq ms limit)

/-- A block, whose header is put byte by byte. -/
def block (fields : ℕ → Move) : Move := fun limit pos =>
  (bytes 6 limit pos).bind (fields pos limit)

theorem seq_cons (m : Move) (ms : List Move) (limit pos : ℕ) :
    seq (m :: ms) limit pos = (m limit pos).bind (seq ms limit) := rfl

theorem bytes_bytes (m n limit pos : ℕ) :
    (bytes m limit pos).bind (bytes n limit) = bytes (m + n) limit pos := by
  show some (cut limit n (cut limit m pos)) = some (cut limit (m + n) pos)
  congr 1
  unfold cut
  omega

theorem seq_bytes_bytes (m n : ℕ) (ms : List Move) :
    seq (bytes m :: bytes n :: ms) = seq (bytes (m + n) :: ms) := by
  funext limit pos
  rw [seq_cons, seq_cons, ← bytes_bytes, Option.bind_assoc]
  rfl

theorem isSome_align (start a limit pos : ℕ) :
    (align start a limit pos).isSome = true ↔ AlignsWithin limit start a pos := by
  unfold align
  split
  · rename_i h
    exact ⟨fun _ => h, fun _ => rfl⟩
  · rename_i h
    constructor
    · intro hsome
      cases hsome
    · intro hwithin
      exact absurd hwithin h

/-- It always comes back. -/
def Total (m : Move) : Prop := ∀ limit pos, (m limit pos).isSome = true

theorem total_bytes (n : ℕ) : Total (bytes n) := fun _ _ => rfl

theorem total_whole (n : ℕ) : Total (whole n) := fun _ _ => rfl

theorem isSome_bind_of_total {m : Move} (hm : Total m) (limit : ℕ) (pos : Option ℕ) :
    (pos.bind (m limit)).isSome = pos.isSome := by
  cases pos with
  | none => rfl
  | some pos => exact hm limit pos

theorem total_seq {ms : List Move} (h : ∀ m ∈ ms, Total m) : Total (seq ms) := by
  induction ms with
  | nil => exact fun _ _ => rfl
  | cons m ms ih =>
    intro limit pos
    rw [seq_cons, isSome_bind_of_total (ih fun n hn => h n (List.mem_cons_of_mem _ hn))]
    exact h m List.mem_cons_self limit pos

theorem total_block {fields : ℕ → Move} (h : ∀ blockPos, Total (fields blockPos)) :
    Total (block fields) := by
  intro limit pos
  exact h pos limit _

end Move

/-- From `w` to `w'` nothing has been stored at the limit or behind it, and nothing in front of the
position. -/
structure Kept (limit : ℕ) (w w' : Writer) : Prop where
  forth : w.pos ≤ w'.pos
  within : w'.pos ≤ max w.pos limit
  behind : ∀ i, limit ≤ i → w'.bytes i = w.bytes i
  front : ∀ i < w.pos, w'.bytes i = w.bytes i

theorem Kept.refl (limit : ℕ) (w : Writer) : Kept limit w w :=
  ⟨le_refl _, le_max_left _ _, fun _ _ => rfl, fun _ _ => rfl⟩

theorem Kept.trans {limit : ℕ} {w w' w'' : Writer} (h : Kept limit w w') (h' : Kept limit w' w'') :
    Kept limit w w'' := by
  rcases h with ⟨hforth, hwithin, hbehind, hfront⟩
  rcases h' with ⟨hforth', hwithin', hbehind', hfront'⟩
  refine ⟨le_trans hforth hforth', by omega, ?_, ?_⟩
  · intro i hi
    exact (hbehind' i hi).trans (hbehind i hi)
  · intro i hi
    exact (hfront' i (lt_of_lt_of_le hi hforth)).trans (hfront i hi)

section primitives
variable {limit : ℕ}

theorem kept_mem (src : List Byte) (w : Writer) : Kept limit w (putMem src limit w) := by
  unfold putMem
  split
  · exact .refl limit w
  · rename_i hroom
    refine ⟨Nat.le_add_right _ _, ?_, ?_, ?_⟩
    · dsimp only
      omega
    · intro i hi
      exact Buffer.write_outside (.inr (by omega))
    · intro i hi
      exact Buffer.write_outside (.inl hi)

theorem kept_byte (val : Byte) (w : Writer) : Kept limit w (putByte val limit w) :=
  kept_mem [val] w

theorem putByte_pos (val : Byte) (w : Writer) :
    (putByte val limit w).pos = cut limit 1 w.pos := by
  unfold putByte cut
  split
  · omega
  · dsimp only
    omega

theorem putMem_pos (src : List Byte) (w : Writer) :
    (putMem src limit w).pos = fit limit src.length w.pos := by
  unfold putMem fit
  split
  · rfl
  · rfl

end primitives

/-- `p` comes to where `m` tells, and it keeps to the room. The block that it belongs to begins at
`start`. -/
def Moves (start : ℕ) (p : Put) (m : Move) : Prop :=
  ∀ limit w, start ≤ w.pos →
    Kept limit w (buffer (p limit w)) ∧ (p limit w).toOption.map Writer.pos = m limit w.pos

section
variable {start : ℕ}

theorem moves_lift {f : ℕ → Writer → Writer} {m : Move} (hkept : ∀ limit w, Kept limit w (f limit w))
    (hpos : ∀ limit w, some (f limit w).pos = m limit w.pos) : Moves start (lift f) m := by
  intro limit w _
  exact ⟨hkept limit w, hpos limit w⟩

theorem moves_byte (val : Byte) : Moves start (byte val) (.bytes 1) :=
  moves_lift (fun _ => kept_byte val) fun _ w => congrArg some (putByte_pos val w)

theorem moves_mem (src : List Byte) : Moves start (mem src) (.whole src.length) :=
  moves_lift (fun _ => kept_mem src) fun _ w => congrArg some (putMem_pos src w)

theorem moves_bytes_comp {f g : ℕ → Writer → Writer} {m n : ℕ} (hf : Moves start (lift f) (.bytes m))
    (hg : Moves start (lift g) (.bytes n)) :
    Moves start (lift fun limit w => g limit (f limit w)) (.bytes (m + n)) := by
  intro limit w hstart
  rcases hf limit w hstart with ⟨hkept, hpos⟩
  rcases hg limit (f limit w) (le_trans hstart hkept.forth) with ⟨hkept', hpos'⟩
  refine ⟨hkept.trans hkept', hpos'.trans ?_⟩
  rw [← Move.bytes_bytes, ← hpos]
  rfl

theorem moves_uint16 (e : Bool) (val : BitVec 16) : Moves start (uint16 e val) (.bytes 2) := by
  cases e with
  | true => exact moves_bytes_comp (moves_byte _) (moves_byte _)
  | false => exact moves_bytes_comp (moves_byte _) (moves_byte _)

theorem moves_uint32 (e : Bool) (val : BitVec 32) : Moves start (uint32 e val) (.bytes 4) := by
  cases e with
  | true =>
    exact moves_bytes_comp (moves_bytes_comp (moves_bytes_comp (moves_byte _) (moves_byte _))
      (moves_byte _)) (moves_byte _)
  | false =>
    exact moves_bytes_comp (moves_bytes_comp (moves_bytes_comp (moves_byte _) (moves_byte _))
      (moves_byte _)) (moves_byte _)

theorem moves_padding (n : ℕ) : Moves start (padding n) (.bytes n) := by
  induction n with
  | zero =>
    refine moves_lift (fun limit w => .refl limit w) ?_
    intro limit w
    show some w.pos = some (cut limit 0 w.pos)
    congr 1
    unfold cut
    omega
  | succ n ih =>
    have h := moves_bytes_comp (moves_byte 0) ih
    rwa [Nat.add_comm 1 n] at h

/-! ## Statements one behind the other -/

theorem moves_nil : Moves start (seq []) (.seq []) := by
  intro limit w _
  exact ⟨.refl limit w, rfl⟩

theorem moves_cons {p : Put} {ps : List Put} {m : Move} {ms : List Move} (hp : Moves start p m)
    (hps : Moves start (seq ps) (.seq ms)) : Moves start (seq (p :: ps)) (.seq (m :: ms)) := by
  intro limit w hstart
  rcases hp limit w hstart with ⟨hkept, hpos⟩
  rw [seq, Move.seq_cons, ← hpos]
  cases hrun : p limit w with
  | error w' =>
    rw [hrun] at hkept
    exact ⟨hkept, rfl⟩
  | ok w' =>
    rw [hrun] at hkept
    have hforth : w.pos ≤ w'.pos := hkept.forth
    rcases hps limit w' (le_trans hstart hforth) with ⟨hkept', hpos'⟩
    exact ⟨Kept.trans hkept hkept', hpos'⟩

/-! ## Padding -/

/-- Once the position no longer moves, no turn brings it to a multiple. -/
theorem alignTurns_full {align limit : ℕ} (n : ℕ) (w : Writer) (hfull : limit ≤ w.pos)
    (h : (w.pos - start) % align ≠ 0) : alignTurns start align limit n w = .error w := by
  induction n with
  | zero => rfl
  | succ n ih =>
    have hsame : putByte 0 limit w = w := by rw [putByte, if_pos (by omega)]
    rw [alignTurns, if_neg h, hsame, ih]

theorem alignTurns_spec {align limit : ℕ} (halign : 0 < align) (n : ℕ) :
    ∀ w : Writer, start ≤ w.pos → pad start align w.pos < n →
      Kept limit w (buffer (alignTurns start align limit n w)) ∧
        (alignTurns start align limit n w).toOption.map Writer.pos =
          Move.align start align limit w.pos := by
  induction n with
  | zero =>
    intro w _ hpad
    exact absurd hpad (Nat.not_lt_zero _)
  | succ n ih =>
    intro w hstart hpad
    by_cases h : (w.pos - start) % align = 0
    · have hwithin : AlignsWithin limit start align w.pos := by
        rw [AlignsWithin, pad_eq_zero h]
        exact le_max_left _ _
      rw [alignTurns, if_pos h, Move.align, if_pos hwithin, pad_eq_zero h]
      exact ⟨.refl limit w, rfl⟩
    · have hsucc := pad_succ halign hstart h
      by_cases hfull : limit ≤ w.pos
      · have hnot : ¬ AlignsWithin limit start align w.pos := by
          unfold AlignsWithin
          omega
        rw [alignTurns_full _ w hfull h, Move.align, if_neg hnot]
        exact ⟨.refl limit w, rfl⟩
      · have hpos : (putByte 0 limit w).pos = w.pos + 1 := by
          rw [putByte_pos, cut]
          omega
        rcases ih (putByte 0 limit w) (by omega) (by rw [hpos]; omega) with ⟨hkept, hrest⟩
        have hsame : Move.align start align limit (putByte 0 limit w).pos =
            Move.align start align limit w.pos := by
          have hsum : w.pos + 1 + pad start align (w.pos + 1) = w.pos + pad start align w.pos := by
            omega
          have hwithin : AlignsWithin limit start align (w.pos + 1) ↔
              AlignsWithin limit start align w.pos := by
            unfold AlignsWithin
            omega
          simp only [Move.align, hpos, hsum, hwithin]
        rw [alignTurns, if_neg h]
        exact ⟨(kept_byte 0 w).trans hkept, hrest.trans hsame⟩

theorem moves_paddingAlign {align : ℕ} (halign : 0 < align) :
    Moves start (paddingAlign start align) (.align start align) := by
  intro limit w hstart
  exact alignTurns_spec halign align w hstart (pad_lt halign)

/-! ## Blocks -/

theorem kept_uint16 {limit : ℕ} (e : Bool) (val : BitVec 16) (w : Writer) :
    Kept limit w (putUint16 e val limit w) := by
  cases e with
  | true => exact (kept_byte _ w).trans (kept_byte _ _)
  | false => exact (kept_byte _ w).trans (kept_byte _ _)

/-- The length goes into the header, which is in front of the limit or has been cut off. -/
theorem kept_insertLength {e : Bool} {limit blockPos : ℕ} {w w' : Writer} (hkept : Kept limit w w')
    (hblock : w.pos ≤ blockPos) : Kept limit w (insertLength e limit blockPos w') := by
  have hpatch := @kept_uint16 limit e
    (BitVec.ofNat 16 w'.pos - BitVec.ofNat 16 (blockPos + 4)) ⟨w'.bytes, blockPos + 2⟩
  refine ⟨hkept.forth, hkept.within, ?_, ?_⟩
  · intro i hi
    exact (hpatch.behind i hi).trans (hkept.behind i hi)
  · intro i hi
    have hfront : i < blockPos + 2 := by omega
    exact (hpatch.front i hfront).trans (hkept.front i hi)

theorem moves_blockHeader (e : Bool) (bhType bhLength : BitVec 16) (verHigh verLow : Byte) :
    Moves start (lift (putBlockHeader e bhType bhLength verHigh verLow)) (.bytes 6) :=
  moves_bytes_comp (moves_bytes_comp (moves_bytes_comp (moves_uint16 e bhType)
    (moves_uint16 e (bhLength + BitVec.ofNat 16 blockHeaderSize - 4))) (moves_byte verHigh))
    (moves_byte verLow)

theorem moves_block {e : Bool} {bhType : BitVec 16} {verLow : Byte} {fields : ℕ → Put}
    {m : ℕ → Move} (h : ∀ start, Moves start (fields start) (m start)) (start : ℕ) :
    Moves start (block e bhType verLow fields) (.block m) := by
  intro limit w _
  have hheader : Kept limit w (putBlockHeader e bhType 0 PNET_BLOCK_VERSION_HIGH verLow limit w) ∧
      some (putBlockHeader e bhType 0 PNET_BLOCK_VERSION_HIGH verLow limit w).pos =
        Move.bytes 6 limit w.pos :=
    moves_blockHeader e bhType 0 PNET_BLOCK_VERSION_HIGH verLow limit w (le_refl w.pos)
  rw [block, Move.block, ← hheader.2]
  generalize putBlockHeader e bhType 0 PNET_BLOCK_VERSION_HIGH verLow limit w = head at hheader
  rcases h w.pos limit head hheader.1.forth with ⟨hfields, hpos⟩
  have hkept := Kept.trans hheader.1 hfields
  rw [Option.bind_some, ← hpos]
  cases hrun : fields w.pos limit head with
  | error w' =>
    rw [hrun] at hkept
    exact ⟨hkept, rfl⟩
  | ok w' =>
    rw [hrun] at hkept
    exact ⟨kept_insertLength hkept (le_refl _), rfl⟩

end

end PNet.Response
