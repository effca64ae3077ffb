import PNet.Block.Reader

/-! # Which bytes a getter reads

A getter `Scans` the input when what it does depends on nothing but the bytes that it goes past: with
any other bytes in front of them and behind them it answers the same and stops at the same place.
-/

namespace PNet.Block

variable {α β : Type} {g : Get α} {r : Reader}

/-- The same parser over other bytes. -/
def Reader.withBuf (r : Reader) (buf : ℕ → Byte) : Reader := { r with info := { r.info with buf } }

/-- The bytes from `p` on, up to `q`, are those of the input. -/
def Reader.SameFrom (r : Reader) (buf : ℕ → Byte) (p q : ℕ) : Prop :=
  ∀ i, p ≤ i → i < q → buf i = r.info.buf i

theorem Reader.SameFrom.mono {buf : ℕ → Byte} {p q p' q' : ℕ} (h : r.SameFrom buf p q) (hp : p ≤ p')
    (hq : q' ≤ q) : r.SameFrom buf p' q' :=
  fun i hi hlt => h i (hp.trans hi) (hlt.trans_le hq)

theorem get_bind_apply (g : Get α) (f : α → Get β) (r : Reader) :
    (g >>= f) r = f (g r).1 (g r).2 := rfl

structure Scans (g : Get α) : Prop where
  moves : Moves g
  keeps : ∀ r, (g r).2.info.buf = r.info.buf
  only : ∀ r buf, r.SameFrom buf r.pos (g r).2.pos →
    g (r.withBuf buf) = ((g r).1, (g r).2.withBuf buf)

theorem Scans.pure (v : α) : Scans (pure v : Get α) where
  moves := Moves.pure v
  keeps := fun _ => rfl
  only := fun _ _ _ => rfl

theorem Scans.bind {f : α → Get β} (hg : Scans g) (hf : ∀ v, Scans (f v)) : Scans (g >>= f) where
  moves := hg.moves.bind fun v => (hf v).moves
  keeps := fun r => ((hf _).keeps _).trans (hg.keeps r)
  only := by
    intro r buf hsame
    rcases hg.moves r with ⟨-, hfirst, -⟩
    rcases (hf (g r).1).moves (g r).2 with ⟨-, hthen, -⟩
    have hstep := hg.only r buf (hsame.mono le_rfl hthen)
    have hrest : (g r).2.SameFrom buf (g r).2.pos ((g >>= f) r).2.pos := by
      intro i hi hlt
      rw [hg.keeps r]
      exact hsame i (hfirst.trans hi) hlt
    show f (g (r.withBuf buf)).1 (g (r.withBuf buf)).2 = _
    rw [hstep]
    exact (hf (g r).1).only (g r).2 buf hrest

theorem Scans.map (hg : Scans g) (f : α → β) : Scans (do let x ← g; return f x) :=
  hg.bind fun v => Scans.pure (f v)

/-! ## The primitives -/

/-- `n` bytes are copied, or none when there is an error. -/
theorem scans_copy {n : ℕ} {dest : α} {f : (ℕ → Byte) → ℕ → α} (hmoves : Moves g)
    (hbad : ∀ r : Reader, r.info.result ≠ .PF_PARSE_OK → g r = (dest, r))
    (hend : ∀ r : Reader, r.info.result = .PF_PARSE_OK → r.info.len < r.pos + n →
      g r = (dest, r.fail .PF_PARSE_END_OF_INPUT))
    (hcopy : ∀ r : Reader, r.info.result = .PF_PARSE_OK → ¬r.info.len < r.pos + n →
      g r = (f r.info.buf r.pos, { r with pos := r.pos + n }))
    (hf : ∀ (r : Reader) buf, r.SameFrom buf r.pos (r.pos + n) → f buf r.pos = f r.info.buf r.pos) :
    Scans g := by
  have hcases : ∀ r : Reader, (g r).2.info.buf = r.info.buf ∧
      ∀ buf, r.SameFrom buf r.pos (g r).2.pos →
        g (r.withBuf buf) = ((g r).1, (g r).2.withBuf buf) := by
    intro r
    by_cases hok : r.info.result = .PF_PARSE_OK
    · by_cases hlen : r.info.len < r.pos + n
      · rw [hend r hok hlen]
        exact ⟨rfl, fun buf _ => hend (r.withBuf buf) hok hlen⟩
      · rw [hcopy r hok hlen]
        refine ⟨rfl, fun buf hsame => ?_⟩
        rw [hcopy (r.withBuf buf) hok hlen]
        exact congrArg (·, _) (hf r buf hsame)
    · rw [hbad r hok]
      exact ⟨rfl, fun buf _ => hbad (r.withBuf buf) hok⟩
  exact ⟨hmoves, fun r => (hcases r).1, fun r => (hcases r).2⟩

theorem scans_byte : Scans getByte := by
  apply @scans_copy _ _ 1 0 (fun buf p => buf p) moves_byte
  · intro r hbad
    exact if_pos hbad
  · intro r hok hlen
    exact (if_neg (not_not_intro hok)).trans (if_pos (Nat.lt_succ_iff.mp hlen))
  · intro r hok hlen
    exact (if_neg (not_not_intro hok)).trans (if_neg fun h => hlen (Nat.lt_succ_of_le h))
  · intro r buf hsame
    exact hsame r.pos le_rfl (Nat.lt_succ_self _)

theorem scans_mem {n : ℕ} (dest : Vector Byte n) : Scans (getMem dest) := by
  apply @scans_copy _ _ n dest (fun buf p => Vector.ofFn fun i : Fin n => buf (p + i))
    (moves_mem dest)
  · intro r hbad
    exact if_pos hbad
  · intro r hok hlen
    exact (if_neg (not_not_intro hok)).trans (if_pos hlen)
  · intro r hok hlen
    exact (if_neg (not_not_intro hok)).trans (if_neg hlen)
  · intro r buf hsame
    apply congrArg Vector.ofFn
    funext i
    exact hsame (r.pos + i) (Nat.le_add_right _ _) (Nat.add_lt_add_left i.isLt _)

theorem scans_get2 (f : Byte → Byte → α) : Scans (get2 f) :=
  scans_byte.bind fun a => scans_byte.map (f a)

theorem scans_get4 (f : Byte → Byte → Byte → Byte → α) : Scans (get4 f) :=
  scans_byte.bind fun a => scans_byte.bind fun b => scans_byte.bind fun c => scans_byte.map (f a b c)

/-- Which getter it is may depend on the parser, but not on the bytes. -/
theorem scans_of_cases
    (h : ∀ r : Reader, ∃ g', Scans g' ∧ ∀ buf, g (r.withBuf buf) = g' (r.withBuf buf)) :
    Scans g := by
  have hcases : ∀ r : Reader, ∃ g', Scans g' ∧ g r = g' r ∧
      ∀ buf, g (r.withBuf buf) = g' (r.withBuf buf) := by
    intro r
    rcases h r with ⟨g', hg', heq⟩
    exact ⟨g', hg', heq r.info.buf, heq⟩
  constructor
  · intro r
    rcases hcases r with ⟨g', hg', hr, -⟩
    rw [hr]
    exact hg'.moves r
  · intro r
    rcases hcases r with ⟨g', hg', hr, -⟩
    rw [hr]
    exact hg'.keeps r
  · intro r buf hsame
    rcases hcases r with ⟨g', hg', hr, heq⟩
    rw [hr] at hsame
    rw [heq buf, hr]
    exact hg'.only r buf hsame

theorem scans_uint16 : Scans getUint16 := by
  apply scans_of_cases
  intro r
  by_cases hok : r.info.result ≠ .PF_PARSE_OK
  · exact ⟨Pure.pure 0, Scans.pure _, fun buf => if_pos hok⟩
  · by_cases he : r.info.isBigEndian = true
    · exact ⟨get2 fun a b => join2 a b, scans_get2 _, fun buf => (if_neg hok).trans (if_pos he)⟩
    · exact ⟨get2 fun a b => join2 b a, scans_get2 _, fun buf => (if_neg hok).trans (if_neg he)⟩

theorem scans_uint32 : Scans getUint32 := by
  apply scans_of_cases
  intro r
  by_cases he : r.info.isBigEndian = true
  · exact ⟨get4 fun a b c d => join4 a b c d, scans_get4 _, fun buf => if_pos he⟩
  · exact ⟨get4 fun a b c d => join4 d c b a, scans_get4 _, fun buf => if_neg he⟩

/-! ## Where a getter without an error stops -/

/-- Without an error the bytes and the rest of the parser are as before. -/
theorem Scans.info_of_ok (hg : Scans g) (hok : (g r).2.info.result = .PF_PARSE_OK) :
    (g r).2.info = r.info := by
  rcases hg.moves r with ⟨hlen, -, -, hback, he⟩
  have hbuf := hg.keeps r
  have hbefore := hback hok
  revert hlen he hbuf hok hbefore
  generalize (g r).2.info = info
  generalize r.info = info'
  rcases info with ⟨result, e, buf, len⟩
  rcases info' with ⟨result', e', buf', len'⟩
  rintro rfl rfl rfl rfl rfl
  rfl

/-- Without an error `g` goes past `n` bytes. -/
structure Spends (n : ℕ) (g : Get α) : Prop where
  moves : Moves g
  spends : ∀ r, (g r).2.info.result = .PF_PARSE_OK → (g r).2.pos = r.pos + n

theorem Spends.pure (v : α) : Spends 0 (pure v : Get α) := ⟨Moves.pure v, fun _ _ => rfl⟩

theorem Spends.bind {m n : ℕ} {f : α → Get β} (hg : Spends m g) (hf : ∀ v, Spends n (f v)) :
    Spends (m + n) (g >>= f) where
  moves := hg.moves.bind fun v => (hf v).moves
  spends := by
    intro r hok
    rcases (hf (g r).1).moves (g r).2 with ⟨-, -, -, hback, -⟩
    have hfirst := hg.spends r (hback hok)
    have hthen := (hf (g r).1).spends (g r).2 hok
    show (f (g r).1 (g r).2).2.pos = _
    rw [hthen, hfirst, Nat.add_assoc]

theorem Spends.map {n : ℕ} (hg : Spends n g) (f : α → β) : Spends n (do let x ← g; return f x) :=
  hg.bind fun v => Spends.pure (f v)

theorem spends_byte : Spends 1 getByte where
  moves := moves_byte
  spends := by
    intro r
    unfold getByte
    split
    · rename_i hbad
      intro hok
      exact absurd hok hbad
    · split
      · intro hok
        cases hok
      · intro _
        rfl

theorem spends_mem {n : ℕ} (dest : Vector Byte n) : Spends n (getMem dest) where
  moves := moves_mem dest
  spends := by
    intro r
    unfold getMem
    split
    · rename_i hbad
      intro hok
      exact absurd hok hbad
    · split
      · intro hok
        cases hok
      · intro _
        rfl

theorem spends_get2 (f : Byte → Byte → α) : Spends 2 (get2 f) :=
  spends_byte.bind fun a => spends_byte.map (f a)

theorem spends_get4 (f : Byte → Byte → Byte → Byte → α) : Spends 4 (get4 f) :=
  spends_byte.bind fun a => spends_byte.bind fun b => spends_byte.bind fun c =>
    spends_byte.map (f a b c)

theorem spends_uint16 : Spends 2 getUint16 where
  moves := moves_uint16
  spends := by
    intro r
    unfold getUint16
    split
    · rename_i hbad
      intro hok
      exact absurd hok hbad
    · split
      · exact (spends_get2 _).spends r
      · exact (spends_get2 _).spends r

theorem spends_uint32 : Spends 4 getUint32 where
  moves := moves_uint32
  spends := by
    intro r
    unfold getUint32
    split
    · exact (spends_get4 _).spends r
    · exact (spends_get4 _).spends r

end PNet.Block
