import PNet.Cyclic.Consumers

/-! # The counter of received frames

The engine counts the frames of a CR in 64 bits. `pf_mera_cpm_read_rx_count` returns how many have
come since the last call, and the control interval adds them to `recv_cnt`, which has 32 bits. The
value at the activation is taken to be 0, and a counter that has started anew since the last call is
taken to have advanced by 2^64 - 1.

* `losesNothing_iff`: the runs in which the increments sum up to what the engine has counted.
-/

namespace PNet.Cyclic

namespace RxCounting

def UINT64_MAX : BitVec 64 := 0xFFFFFFFFFFFFFFFF

/-- `pf_mera_cpm_read_rx_count`: what it returns for the answer of the engine, and the new value of
`rx_count` of the frame. -/
def readRxCount (rxCount : BitVec 64) : Option (BitVec 64) → BitVec 64 × BitVec 64
  | some rx0 => (if rxCount ≤ rx0 then rx0 - rxCount else rx0 + (UINT64_MAX - rx0), rx0)
  | none => (0, rxCount)

/-- The counters of a CR. -/
structure Counters where
  /-- The frames that the engine has ever received. -/
  engine : ℕ
  /-- `rx_count` of the frame. -/
  rxCount : BitVec 64
  /-- `recv_cnt` of the CPM. -/
  recvCnt : BitVec 32
  /-- The sum of what has been returned. -/
  returned : BitVec 64
  lastRead : Option (BitVec 64)

inductive CountStep where
  /-- Frames are received. -/
  | frames (n : ℕ)
  /-- A control interval ends. The engine answers, or it does not. -/
  | expiry (answers : Bool)

namespace Counters

/-- `pf_mera_alloc_frame` and `pf_cpm_activate_req`. -/
def start (engine : ℕ) : Counters := ⟨engine, 0, 0, 0, none⟩

/-- `rx_0` of the engine. -/
def rx0 (s : Counters) : BitVec 64 := .ofNat 64 s.engine

def answer (s : Counters) (answers : Bool) : Option (BitVec 64) :=
  if answers then some s.rx0 else none

/-- What `pf_cpm_drv_lan9662_ci_timeout` does to the counters while its timer is running. -/
def ciTimeout (s : Counters) (answers : Bool) : Counters :=
  let (rxCount, frameRxCount) := readRxCount s.rxCount (s.answer answers)
  { s with
    rxCount := frameRxCount
    recvCnt := s.recvCnt + rxCount.setWidth 32
    returned := s.returned + rxCount
    lastRead := if answers then some s.rx0 else s.lastRead }

def step (s : Counters) : CountStep → Option Counters
  | .frames n => some { s with engine := s.engine + n }
  | .expiry answers => some (s.ciTimeout answers)

/-- The increments are what the engine has counted since it stood at `first`, and `recv_cnt` is
their sum. -/
def LosesNothing (first : BitVec 64) (s : Counters) : Prop :=
  (∀ last ∈ s.lastRead, s.returned = last - first) ∧ s.recvCnt = s.returned.setWidth 32

/-- The engine stood at 0, and has not started anew since the last read, unless it is right before
the value of that read again. -/
def InOneTurn (first : BitVec 64) (s : Counters) : CountStep → Prop
  | .expiry true => first = 0 ∧ (s.rxCount ≤ s.rx0 ∨ s.rxCount = s.rx0 + 1)
  | _ => True

theorem wrapped (rx0 : BitVec 64) : rx0 + (UINT64_MAX - rx0) = UINT64_MAX := by
  grind

/-! ## The runs -/

/-- What has been counted, as long as the engine keeps to one turn. -/
structure Counting (first : BitVec 64) (s : Counters) : Prop where
  fresh : s.lastRead = none → s.rxCount = 0 ∧ s.returned = 0
  read : ∀ last ∈ s.lastRead, first = 0 ∧ s.rxCount = last ∧ s.returned = last
  recvCnt : s.recvCnt = s.returned.setWidth 32

variable {first : BitVec 64} {s : Counters}

theorem Counting.losesNothing (h : s.Counting first) : s.LosesNothing first := by
  refine ⟨?_, h.recvCnt⟩
  intro last hlast
  obtain ⟨hfirst, -, hreturned⟩ := h.read last hlast
  rw [hfirst, hreturned]
  exact (BitVec.sub_zero last).symm

theorem Counting.recvCnt_add (h : s.Counting first) (n : BitVec 64) :
    s.recvCnt + n.setWidth 32 = (s.returned + n).setWidth 32 := by
  rw [h.recvCnt, BitVec.setWidth_add _ _ (by decide)]

theorem Counting.silent (h : s.Counting first) : (s.ciTimeout false).Counting first := by
  have hreturned : s.returned + 0 = s.returned := BitVec.add_zero _
  constructor
  · intro hlast
    exact ⟨(h.fresh hlast).1, hreturned.trans (h.fresh hlast).2⟩
  · intro last hlast
    obtain ⟨hfirst, hrx, hsum⟩ := h.read last hlast
    exact ⟨hfirst, hrx, hreturned.trans hsum⟩
  · exact h.recvCnt_add 0

/-- What is returned leads from the last value to the new one, less the value at the activation, in
exactly one case. -/
theorem increment_iff {rxCount rx0 first : BitVec 64} (h : rxCount ≠ 0 → first = 0) :
    rxCount + (readRxCount rxCount (some rx0)).1 = rx0 - first ↔
      first = 0 ∧ (rxCount ≤ rx0 ∨ rxCount = rx0 + 1) := by
  unfold readRxCount
  dsimp only
  by_cases hle : rxCount ≤ rx0
  · have hsum : rxCount + (rx0 - rxCount) = rx0 := by grind
    rw [if_pos hle, hsum]
    constructor
    · intro heq
      exact ⟨by grind, .inl hle⟩
    · rintro ⟨rfl, -⟩
      exact (BitVec.sub_zero rx0).symm
  · -- The last value was not 0; 2^64 - 1 more is the value before it.
    have hzero : first = 0 := by
      apply h
      rintro rfl
      exact hle (BitVec.le_def.mpr (Nat.zero_le _))
    subst hzero
    rw [if_neg hle, wrapped]
    unfold UINT64_MAX
    constructor
    · intro heq
      exact ⟨rfl, .inr (by grind)⟩
    · rintro ⟨-, hlast⟩
      have hone := hlast.resolve_left hle
      grind

theorem Counting.returned_eq (h : s.Counting first) : s.returned = s.rxCount := by
  cases hlast : s.lastRead with
  | none => exact (h.fresh hlast).2.trans (h.fresh hlast).1.symm
  | some last =>
    obtain ⟨-, hrx, hsum⟩ := h.read last hlast
    exact hsum.trans hrx.symm

theorem Counting.first_eq (h : s.Counting first) (hrx : s.rxCount ≠ 0) : first = 0 := by
  cases hlast : s.lastRead with
  | none => exact absurd (h.fresh hlast).1 hrx
  | some last => exact (h.read last hlast).1

/-- A read that the engine answers. -/
theorem Counting.answered (h : s.Counting first) :
    ((s.ciTimeout true).LosesNothing first ↔ s.InOneTurn first (.expiry true)) ∧
      (s.InOneTurn first (.expiry true) → (s.ciTimeout true).Counting first) := by
  have hrecv := h.recvCnt_add (readRxCount s.rxCount (some s.rx0)).1
  have hiff : (s.ciTimeout true).returned = s.rx0 - first ↔ s.InOneTurn first (.expiry true) := by
    show s.returned + (readRxCount s.rxCount (some s.rx0)).1 = _ ↔ _
    rw [h.returned_eq]
    exact increment_iff h.first_eq
  constructor
  · constructor
    · intro hright
      exact hiff.mp (hright.1 s.rx0 rfl)
    · intro hone
      refine ⟨?_, hrecv⟩
      rintro last ⟨⟩
      exact hiff.mpr hone
  · intro hone
    refine ⟨fun hnone => (Option.some_ne_none _ hnone).elim, ?_, hrecv⟩
    rintro last ⟨⟩
    refine ⟨hone.1, rfl, (hiff.mpr hone).trans ?_⟩
    rw [hone.1]
    exact BitVec.sub_zero _

theorem start_counting (engine : ℕ) : (start engine).Counting first :=
  ⟨fun _ => ⟨rfl, rfl⟩, fun _ h => (Option.not_mem_none _ h).elim, rfl⟩

/-- **The increments are what the engine has counted since the activation**, after each step of a
run, in exactly the runs in which it stood at 0 then and keeps to one turn between two reads. -/
theorem losesNothing_iff (engine : ℕ) (es : List CountStep) :
    (∀ es' s, es' <+: es → Runs.run step (start engine) es' = some s →
        s.LosesNothing (.ofNat 64 engine)) ↔
      Runs.Along step (InOneTurn (.ofNat 64 engine)) (start engine) es := by
  apply Runs.always_iff (start_counting engine)
  · exact fun s h => h.losesNothing
  · intro s e s' h hstep
    cases e with
    | frames n =>
      obtain rfl := Option.some.inj hstep
      have hcounting : ({ s with engine := s.engine + n } : Counters).Counting _ :=
        ⟨h.fresh, h.read, h.recvCnt⟩
      exact ⟨⟨fun _ => trivial, fun _ => hcounting.losesNothing⟩, fun _ => hcounting⟩
    | expiry answers =>
      obtain rfl := Option.some.inj hstep
      cases answers with
      | false => exact ⟨⟨fun _ => trivial, fun _ => h.silent.losesNothing⟩, fun _ => h.silent⟩
      | true => exact h.answered
  · intro s e hstep
    cases e <;> cases hstep

/-- The counter starts anew between two reads: 2 frames are counted as 2^64 - 1. -/
theorem not_losesNothing : ∃ s, Runs.run step (start 0)
      [.frames 0xFFFFFFFFFFFFFFFF, .expiry true, .frames 2, .expiry true] = some s ∧
    ¬ s.LosesNothing 0 := by
  refine ⟨_, rfl, ?_⟩
  rintro ⟨h, -⟩
  exact absurd (h 1 rfl) (by decide)

end Counters

end RxCounting

end PNet.Cyclic
