import PNet.Block.Reader

/-! # Getters that take a fixed number of bytes

A getter of `n` bytes either has them and takes them, or leaves an error behind. `Exact n g` is that
rule; with `Reads` it tells what a sequence of getters does on every input.
-/

namespace PNet.Block

/-- `pf_get_mem` with a length that is known when it is called. -/
def getBytes (dest : List Byte) (n : ℕ) : Get (List Byte) := fun r =>
  if r.info.result ≠ .PF_PARSE_OK then (dest, r)
  else if r.info.len < r.pos + n then (dest, r.fail .PF_PARSE_END_OF_INPUT)
  else (Buffer.slice r.info.buf r.pos n, { r with pos := r.pos + n })

theorem reads_bytes (e : Bool) (dest v : List Byte) : Reads e (getBytes dest v.length) v v e := by
  intro r hok he hs hlen
  rw [getBytes, if_neg (by simp [hok]), if_neg (by omega), hs, ← he]
  rfl

/-- With `n` bytes left `g` takes them; otherwise, and after an error, there is an error. -/
structure Exact {α : Type} (n : ℕ) (g : Get α) : Prop where
  takes : Takes n g
  errs : ∀ r : Reader,
    r.info.result ≠ .PF_PARSE_OK ∨ r.pos ≤ r.info.len ∧ r.info.len < r.pos + n →
    (g r).2.info.result ≠ .PF_PARSE_OK

theorem Exact.pure {α : Type} (v : α) : Exact 0 (pure v : Get α) := by
  constructor
  · exact Takes.pure v
  · intro r hr hok
    have hlen := hr.resolve_left (fun h => h hok)
    omega

theorem Exact.bind {α β : Type} {m n : ℕ} {g : Get α} {f : α → Get β} (hg : Exact m g)
    (hf : ∀ v, Exact n (f v)) : Exact (m + n) (g >>= f) := by
  constructor
  · exact hg.takes.bind fun v => (hf v).takes
  · intro r hr
    show (f (g r).1 (g r).2).2.info.result ≠ _
    by_cases hm : r.info.result ≠ .PF_PARSE_OK ∨ r.pos ≤ r.info.len ∧ r.info.len < r.pos + m
    · exact (hf _).errs _ (.inl (hg.errs r hm))
    · -- `g` has its bytes, those of `f` are missing
      rw [not_or, not_not, not_and, not_lt] at hm
      rcases hm with ⟨hok, hm⟩
      rcases hr.resolve_left (fun h => h hok) with ⟨hpos, hlen⟩
      apply (hf _).errs
      right
      rw [hg.takes r hok (hm hpos)]
      exact ⟨hm hpos, by simpa [Nat.add_assoc] using hlen⟩

theorem endOfInput_ne_ok : GetResult.PF_PARSE_END_OF_INPUT ≠ .PF_PARSE_OK := by decide

theorem exact_byte : Exact 1 getByte := by
  constructor
  · exact takes_byte
  · intro r hr
    rw [getByte]
    split
    · assumption
    · rename_i hok
      rw [if_pos (by have := hr.resolve_left hok; omega)]
      exact endOfInput_ne_ok

theorem exact_bytes (dest : List Byte) (n : ℕ) : Exact n (getBytes dest n) := by
  constructor
  · intro r hok hlen
    rw [getBytes, if_neg (by simp [hok]), if_neg (by omega)]
  · intro r hr
    rw [getBytes]
    split
    · assumption
    · rename_i hok
      rw [if_pos (by have := hr.resolve_left hok; omega)]
      exact endOfInput_ne_ok

theorem exact_mem {n : ℕ} (dest : Vector Byte n) : Exact n (getMem dest) := by
  constructor
  · exact takes_mem dest
  · intro r hr
    rw [getMem]
    split
    · assumption
    · rename_i hok
      rw [if_pos (by have := hr.resolve_left hok; omega)]
      exact endOfInput_ne_ok

theorem Exact.map {α β : Type} {n : ℕ} {g : Get α} (hg : Exact n g) (f : α → β) :
    Exact n (do let x ← g; return f x) := by
  have h : Exact (n + 0) (g >>= fun x => Pure.pure (f x)) := hg.bind fun v => Exact.pure (f v)
  exact h

theorem exact_get2 {α : Type} (f : Byte → Byte → α) : Exact 2 (get2 f) :=
  exact_byte.bind fun a => exact_byte.map (f a)

theorem exact_get4 {α : Type} (f : Byte → Byte → Byte → Byte → α) : Exact 4 (get4 f) :=
  exact_byte.bind fun a => exact_byte.bind fun b => exact_byte.bind fun c =>
    exact_byte.map (f a b c)

theorem exact_uint16 : Exact 2 getUint16 := by
  constructor
  · exact takes_uint16
  · intro r hr
    rw [getUint16]
    split
    · assumption
    · split
      · exact (exact_get2 _).errs r hr
      · exact (exact_get2 _).errs r hr

theorem exact_uint32 : Exact 4 getUint32 := by
  constructor
  · exact takes_uint32
  · intro r hr
    rw [getUint32]
    split
    · exact (exact_get4 _).errs r hr
    · exact (exact_get4 _).errs r hr

/-! ## At a place of the input -/

theorem bind_run {α β : Type} (g : Get α) (f : α → Get β) (r : Reader) :
    (g >>= f) r = f (g r).1 (g r).2 := rfl

theorem pure_run {α : Type} (v : α) (r : Reader) : (pure v : Get α) r = (v, r) := rfl

/-- The parser at `pos`, without an error. -/
def Reader.ready (buf : ℕ → Byte) (len pos : ℕ) : Reader := ⟨⟨.PF_PARSE_OK, true, buf, len⟩, pos⟩

section
variable {buf : ℕ → Byte} {len pos : ℕ}

theorem ready_ok : (Reader.ready buf len pos).info.result = .PF_PARSE_OK := rfl

theorem getByte_ready (h : pos < len) :
    getByte (.ready buf len pos) = (buf pos, .ready buf len (pos + 1)) := by
  have hroom : ¬ (Reader.ready buf len pos).info.len ≤ (Reader.ready buf len pos).pos :=
    not_le.mpr h
  unfold getByte
  rw [if_neg (fun hbad => hbad rfl), if_neg hroom]
  rfl

theorem get2_run {α : Type} (f : Byte → Byte → α) (r : Reader) :
    get2 f r = (f (getByte r).1 (getByte (getByte r).2).1, (getByte (getByte r).2).2) := rfl

theorem get4_run {α : Type} (f : Byte → Byte → Byte → Byte → α) (r : Reader) :
    get4 f r =
      (f (getByte r).1 (getByte (getByte r).2).1 (getByte (getByte (getByte r).2).2).1
        (getByte (getByte (getByte (getByte r).2).2).2).1,
      (getByte (getByte (getByte (getByte r).2).2).2).2) := rfl

theorem getUint16_ready (h : pos + 2 ≤ len) :
    getUint16 (.ready buf len pos) =
      (join2 (buf pos) (buf (pos + 1)), .ready buf len (pos + 2)) := by
  have hbig : (Reader.ready buf len pos).info.isBigEndian = true := rfl
  unfold getUint16
  rw [if_neg (fun hbad => hbad rfl), if_pos hbig, get2_run, getByte_ready (by omega),
    getByte_ready (by omega)]

theorem getUint32_ready (h : pos + 4 ≤ len) :
    getUint32 (.ready buf len pos) =
      (join4 (buf pos) (buf (pos + 1)) (buf (pos + 2)) (buf (pos + 3)),
        .ready buf len (pos + 4)) := by
  have hbig : (Reader.ready buf len pos).info.isBigEndian = true := rfl
  unfold getUint32
  rw [if_pos hbig, get4_run, getByte_ready (by omega), getByte_ready (by omega),
    getByte_ready (by omega), getByte_ready (by omega)]

/-- A getter whose bytes are missing leaves an error. -/
theorem Exact.errs_ready {α : Type} {n : ℕ} {g : Get α} (hg : Exact n g) (hpos : pos ≤ len)
    (h : len < pos + n) : (g (.ready buf len pos)).2.info.result ≠ .PF_PARSE_OK :=
  hg.errs _ (.inr ⟨hpos, h⟩)

end

/-! ## Errors stay -/

def KeepsError {α : Type} (g : Get α) : Prop :=
  ∀ r : Reader, r.info.result ≠ .PF_PARSE_OK → (g r).2.info.result ≠ .PF_PARSE_OK

theorem Exact.keepsError {α : Type} {n : ℕ} {g : Get α} (hg : Exact n g) : KeepsError g :=
  fun r hr => hg.errs r (.inl hr)

theorem Moves.keepsError {α : Type} {g : Get α} (hg : Moves g) : KeepsError g :=
  fun r hr hok => hr ((hg r).2.2.2.1 hok)

theorem KeepsError.pure {α : Type} (v : α) : KeepsError (pure v : Get α) := fun _ hr => hr

theorem KeepsError.bind {α β : Type} {g : Get α} {f : α → Get β} (hg : KeepsError g)
    (hf : ∀ v, KeepsError (f v)) : KeepsError (g >>= f) := fun r hr => hf _ _ (hg r hr)

/-- An error of the first getter is one of the sequence. -/
theorem errs_bind {α β : Type} {g : Get α} {f : α → Get β} {r : Reader}
    (hg : (g r).2.info.result ≠ .PF_PARSE_OK) (hf : ∀ v, KeepsError (f v)) :
    ((g >>= f) r).2.info.result ≠ .PF_PARSE_OK := hf _ _ hg

/-! ## Nothing behind the end is read -/

/-- The same parser on other bytes. -/
def Reader.onto (r : Reader) (b : ℕ → Byte) : Reader := { r with info := { r.info with buf := b } }

/-- `g` does the same on inputs that agree up to their length. -/
def Inside {α : Type} (g : Get α) : Prop :=
  ∀ (r : Reader) (b : ℕ → Byte), (∀ i < r.info.len, b i = r.info.buf i) →
    g (r.onto b) = ((g r).1, (g r).2.onto b) ∧ (g r).2.info.buf = r.info.buf ∧
      (g r).2.info.len = r.info.len

theorem Inside.pure {α : Type} (v : α) : Inside (pure v : Get α) := fun _ _ _ => ⟨rfl, rfl, rfl⟩

theorem Inside.bind {α β : Type} {g : Get α} {f : α → Get β} (hg : Inside g)
    (hf : ∀ v, Inside (f v)) : Inside (g >>= f) := by
  intro r b hb
  rcases hg r b hb with ⟨hrun, hbuf, hlen⟩
  rcases hf (g r).1 (g r).2 b (by rwa [hbuf, hlen]) with ⟨hrun', hbuf', hlen'⟩
  refine ⟨?_, hbuf'.trans hbuf, hlen'.trans hlen⟩
  show f (g (r.onto b)).1 (g (r.onto b)).2 = _
  rw [hrun]
  exact hrun'

theorem Inside.map {α β : Type} {g : Get α} (hg : Inside g) (f : α → β) :
    Inside (do let x ← g; return f x) := hg.bind fun v => Inside.pure (f v)

theorem Inside.ite {α : Type} {c : Prop} [Decidable c] {g g' : Get α} (hg : Inside g)
    (hg' : Inside g') : Inside (if c then g else g') := by
  split
  · exact hg
  · exact hg'

theorem inside_byte : Inside getByte := by
  intro r b hb
  by_cases hok : r.info.result ≠ .PF_PARSE_OK
  · rw [show getByte r = (0, r) from if_pos hok,
      show getByte (r.onto b) = (0, r.onto b) from if_pos hok]
    exact ⟨rfl, rfl, rfl⟩
  · by_cases hend : r.info.len ≤ r.pos
    · rw [show getByte r = (0, r.fail _) from (if_neg hok).trans (if_pos hend),
        show getByte (r.onto b) = (0, (r.onto b).fail _) from
          (if_neg hok).trans (if_pos hend)]
      exact ⟨rfl, rfl, rfl⟩
    · rw [show getByte r = (r.info.buf r.pos, _) from (if_neg hok).trans (if_neg hend),
        show getByte (r.onto b) = (b r.pos, _) from (if_neg hok).trans (if_neg hend)]
      exact ⟨Prod.ext (hb r.pos (not_le.mp hend)) rfl, rfl, rfl⟩

theorem inside_bytes (dest : List Byte) (n : ℕ) : Inside (getBytes dest n) := by
  intro r b hb
  by_cases hok : r.info.result ≠ .PF_PARSE_OK
  · rw [show getBytes dest n r = (dest, r) from if_pos hok,
      show getBytes dest n (r.onto b) = (dest, r.onto b) from if_pos hok]
    exact ⟨rfl, rfl, rfl⟩
  · by_cases hend : r.info.len < r.pos + n
    · rw [show getBytes dest n r = (dest, r.fail _) from (if_neg hok).trans (if_pos hend),
        show getBytes dest n (r.onto b) = (dest, (r.onto b).fail _) from
          (if_neg hok).trans (if_pos hend)]
      exact ⟨rfl, rfl, rfl⟩
    · rw [show getBytes dest n r = (Buffer.slice r.info.buf r.pos n, _) from (if_neg hok).trans (if_neg hend),
        show getBytes dest n (r.onto b) = (Buffer.slice b r.pos n, _) from (if_neg hok).trans (if_neg hend)]
      have hbytes : Buffer.slice b r.pos n = Buffer.slice r.info.buf r.pos n :=
        Buffer.slice_congr fun i _ hi => hb i (by omega)
      exact ⟨Prod.ext hbytes rfl, rfl, rfl⟩

theorem inside_mem {n : ℕ} (dest : Vector Byte n) : Inside (getMem dest) := by
  intro r b hb
  by_cases hok : r.info.result ≠ .PF_PARSE_OK
  · rw [show getMem dest r = (dest, r) from if_pos hok,
      show getMem dest (r.onto b) = (dest, r.onto b) from if_pos hok]
    exact ⟨rfl, rfl, rfl⟩
  · by_cases hend : r.info.len < r.pos + n
    · rw [show getMem dest r = (dest, r.fail _) from (if_neg hok).trans (if_pos hend),
        show getMem dest (r.onto b) = (dest, (r.onto b).fail _) from
          (if_neg hok).trans (if_pos hend)]
      exact ⟨rfl, rfl, rfl⟩
    · rw [show getMem dest r = (Vector.ofFn fun i => r.info.buf (r.pos + i), _) from (if_neg hok).trans (if_neg hend),
        show getMem dest (r.onto b) = (Vector.ofFn fun i => b (r.pos + i), _) from (if_neg hok).trans (if_neg hend)]
      have hbytes : (Vector.ofFn fun i : Fin n => b (r.pos + i)) =
          Vector.ofFn fun i : Fin n => r.info.buf (r.pos + i) :=
        congrArg Vector.ofFn (funext fun i => hb _ (by omega))
      exact ⟨Prod.ext hbytes rfl, rfl, rfl⟩

theorem inside_get2 {α : Type} (f : Byte → Byte → α) : Inside (get2 f) :=
  inside_byte.bind fun a => inside_byte.map (f a)

theorem inside_get4 {α : Type} (f : Byte → Byte → Byte → Byte → α) : Inside (get4 f) :=
  inside_byte.bind fun a => inside_byte.bind fun b => inside_byte.bind fun c =>
    inside_byte.map (f a b c)

theorem inside_uint16 : Inside getUint16 := by
  intro r b hb
  by_cases hok : r.info.result ≠ .PF_PARSE_OK
  · rw [show getUint16 r = (0, r) from if_pos hok,
      show getUint16 (r.onto b) = (0, r.onto b) from if_pos hok]
    exact ⟨rfl, rfl, rfl⟩
  · by_cases he : r.info.isBigEndian
    · rw [show getUint16 r = get2 _ r from (if_neg hok).trans (if_pos he),
        show getUint16 (r.onto b) = get2 _ (r.onto b) from (if_neg hok).trans (if_pos he)]
      exact inside_get2 _ r b hb
    · rw [show getUint16 r = get2 _ r from (if_neg hok).trans (if_neg he),
        show getUint16 (r.onto b) = get2 _ (r.onto b) from (if_neg hok).trans (if_neg he)]
      exact inside_get2 _ r b hb

theorem inside_uint32 : Inside getUint32 := by
  intro r b hb
  by_cases he : r.info.isBigEndian
  · rw [show getUint32 r = get4 _ r from if_pos he,
      show getUint32 (r.onto b) = get4 _ (r.onto b) from if_pos he]
    exact inside_get4 _ r b hb
  · rw [show getUint32 r = get4 _ r from if_neg he,
      show getUint32 (r.onto b) = get4 _ (r.onto b) from if_neg he]
    exact inside_get4 _ r b hb

/-! ## The bytes are those of a number -/

theorem bytes16_join2 (a b : Byte) : bytes16 true (join2 a b) = [a, b] := by
  have ha := a.isLt
  have hb := b.isLt
  simp only [bytes16, join2, if_true, List.cons.injEq, and_true]
  constructor
  · apply BitVec.eq_of_toNat_eq
    simp [BitVec.toNat_add, Nat.shiftRight_eq_div_pow, Nat.shiftLeft_eq]
    omega
  · apply BitVec.eq_of_toNat_eq
    simp [BitVec.toNat_add, Nat.shiftLeft_eq]
    omega

theorem bytes32_join4 (a b c d : Byte) : bytes32 true (join4 a b c d) = [a, b, c, d] := by
  have ha := a.isLt
  have hb := b.isLt
  have hc := c.isLt
  have hd := d.isLt
  simp only [bytes32, join4, if_true, List.cons.injEq, and_true]
  refine ⟨?_, ?_, ?_, ?_⟩
  all_goals
    apply BitVec.eq_of_toNat_eq
    simp [BitVec.toNat_add, Nat.shiftRight_eq_div_pow, Nat.shiftLeft_eq]
    omega

theorem exists_bytes16 {bs : List Byte} (h : bs.length = 2) : ∃ v, bs = bytes16 true v := by
  rcases List.length_eq_two.mp h with ⟨a, b, rfl⟩
  exact ⟨join2 a b, (bytes16_join2 a b).symm⟩

theorem exists_bytes32 {bs : List Byte} (h : bs.length = 4) : ∃ v, bs = bytes32 true v := by
  rcases bs with _ | ⟨a, bs⟩
  · exact absurd h (by simp)
  · rcases List.length_eq_three.mp (Nat.succ.inj h) with ⟨b, c, d, rfl⟩
    exact ⟨join4 a b c d, (bytes32_join4 a b c d).symm⟩

end PNet.Block
