import PNet.Cyclic.Buffers
import PNet.Lib.Runs

/-! # Which frames a CPM accepts

The frames that a CPM accepts, and the frame that its readers see. The cycle counter of the first
frame after an activation is compared with the -1 that stands for "never", as if it were the
counter 0xFFFF.

* `received_iff`: the readers see the last accepted frame, the first proper frame is accepted, and
  the later ones are newer, exactly when no first frame has a counter of 0xF000 or more, and no CPM
  is activated with a frame that it cannot show any more.
-/

namespace PNet.Cyclic

/-! ## What readers see -/

/-- The frame that a reader gets, and where its data begin. -/
def Cpm.source (x : Cpm) : Option (Frame × BitVec 16) :=
  (if x.newBuf then x.bufferCpm else x.bufferApp).map fun f => (f, x.bufferPos)

/-! ## Runs -/

/-- What became of the frames of one CPM: the last accepted one with the position of its frame id,
whether its buffer has been freed, and the counter of the last one since the activation. -/
structure Reception where
  last : Option (Frame × BitVec 16)
  freed : Bool
  counter : Option (BitVec 16)

/-- The ARs, and what became of the frames of each CPM. -/
structure Receiver where
  net : Net
  seen : Cr → Reception

inductive ReceiveStep where
  /-- The AR of the CR has been allocated: its memory is zero. -/
  | zeroed (cr : Cr)
  | call (s : Step)

namespace Receiver

/-- All CPMs are those of ARs that have just been allocated. -/
def start (net : Net) : Receiver where
  net := { net with iocr := fun cr => { net.iocr cr with cpm := .zero } }
  seen := fun _ => ⟨none, false, none⟩

/-- What a call makes of the frames. -/
def note (w : Receiver) : Step → Cr → Reception
  | .activateReq cr _ =>
    if (w.net.iocr cr).cpm.state = .PF_CPM_STATE_W_START then
      Function.update w.seen cr { w.seen cr with counter := none }
    else w.seen
  | .frame cr f frameIdPos =>
    if Accepts (w.net.iocr cr).cpm f frameIdPos then
      Function.update w.seen cr ⟨some (f, frameIdPos), false, some (Cpm.trailer f).cycle⟩
    else w.seen
  | .closeReq cr => Function.update w.seen cr { w.seen cr with freed := true }
  | .getDataAndIops .. | .getIocs .. | .controlInterval .. | .setOwner .. => w.seen

def step (w : Receiver) : ReceiveStep → Option Receiver
  | .zeroed cr =>
    some ⟨w.net.setCpm cr .zero, Function.update w.seen cr ⟨none, false, none⟩⟩
  | .call s => some ⟨(Cyclic.step w.net s).1, w.note s⟩

end Receiver

/-! ## What is expected of the CPM -/

/-- A reader gets the last accepted frame, which is still there. -/
structure ShowsLast (x : Cpm) (r : Reception) : Prop where
  source : x.source = r.last.map fun l => (l.1, l.2 + 2)
  kept : r.last ≠ none → r.freed = false

/-- Source, length, transfer status and data status of the frame are right. -/
def Proper (x : Cpm) (f : Frame) (frameIdPos : BitVec 16) : Prop :=
  Cpm.dataValid f = true ∧ x.frameStructure f frameIdPos = true

instance (x : Cpm) (f : Frame) (frameIdPos : BitVec 16) : Decidable (Proper x f frameIdPos) :=
  inferInstanceAs (Decidable (_ ∧ _))

/-- The counter is ahead of the previous one, by 0xF000 at most. -/
def Newer (previous now : BitVec 16) : Prop :=
  ∃ k, 1 ≤ k ∧ k ≤ 0xF000 ∧ now = previous + BitVec.ofNat 16 k

namespace Receiver

/-- What is expected of a step. -/
structure Received (w : Receiver) (e : ReceiveStep) : Prop where
  shows : ∀ w' cr, w.step e = some w' → (w'.net.iocr cr).cpm.state ≠ .PF_CPM_STATE_W_START →
    ShowsLast (w'.net.iocr cr).cpm (w'.seen cr)
  first : ∀ cr f frameIdPos, e = .call (.frame cr f frameIdPos) →
    (w.net.iocr cr).cpm.state ≠ .PF_CPM_STATE_W_START → (w.seen cr).counter = none →
    Proper (w.net.iocr cr).cpm f frameIdPos → Accepts (w.net.iocr cr).cpm f frameIdPos
  later : ∀ cr f frameIdPos, e = .call (.frame cr f frameIdPos) →
    Accepts (w.net.iocr cr).cpm f frameIdPos →
    ∀ c ∈ (w.seen cr).counter, Newer c (Cpm.trailer f).cycle

/-- The first proper frame after an activation has a counter less than 0xF000; when a CPM is activated
that has accepted a frame before, the frame is still there and has been received without a VLAN
tag. -/
def InWindow (w : Receiver) : ReceiveStep → Prop
  | .call (.activateReq cr a) =>
    (w.net.iocr cr).cpm.state = .PF_CPM_STATE_W_START → a.started = true →
      ∀ l ∈ (w.seen cr).last, (w.seen cr).freed = false ∧ l.2 + 2 = 16
  | .call (.frame cr f frameIdPos) =>
    (w.net.iocr cr).cpm.state ≠ .PF_CPM_STATE_W_START → (w.seen cr).counter = none →
      Proper (w.net.iocr cr).cpm f frameIdPos → (Cpm.trailer f).cycle < 0xF000
  | .zeroed _ => True
  | .call (.getDataAndIops ..) | .call (.getIocs ..) | .call (.controlInterval ..)
  | .call (.closeReq ..) | .call (.setOwner ..) => True

instance (w : Receiver) : (e : ReceiveStep) → Decidable (w.InWindow e)
  | .zeroed _ => inferInstanceAs (Decidable True)
  | .call (.activateReq cr a) =>
    inferInstanceAs (Decidable ((w.net.iocr cr).cpm.state = .PF_CPM_STATE_W_START →
      a.started = true → ∀ l ∈ (w.seen cr).last, (w.seen cr).freed = false ∧ l.2 + 2 = 16))
  | .call (.frame cr f frameIdPos) =>
    inferInstanceAs (Decidable ((w.net.iocr cr).cpm.state ≠ .PF_CPM_STATE_W_START →
      (w.seen cr).counter = none → Proper (w.net.iocr cr).cpm f frameIdPos →
        (Cpm.trailer f).cycle < 0xF000))
  | .call (.getDataAndIops ..) | .call (.getIocs ..) | .call (.controlInterval ..)
  | .call (.closeReq ..) | .call (.setOwner ..) => inferInstanceAs (Decidable True)

end Receiver

/-! ## The cycle counter -/

theorem checkCycle_iff (previous now : BitVec 16) :
    Cpm.checkCycle previous.toNat now = true ↔ Newer previous now := by
  have hof : BitVec.ofInt 16 previous.toNat = previous := by
    rw [BitVec.ofInt_natCast, BitVec.ofNat_toNat, BitVec.setWidth_eq]
  rw [Cpm.checkCycle, hof, decide_eq_true_iff]
  constructor
  · intro h
    refine ⟨(now - previous).toNat, h.1, h.2, ?_⟩
    rw [BitVec.ofNat_toNat, BitVec.setWidth_eq, BitVec.add_comm, BitVec.sub_add_cancel]
  · rintro ⟨k, hpos, hle, rfl⟩
    have hk : (previous + BitVec.ofNat 16 k - previous).toNat = k := by
      rw [BitVec.add_comm, BitVec.add_sub_cancel, BitVec.toNat_ofNat]
      exact Nat.mod_eq_of_lt (by omega)
    rw [hk]
    exact ⟨hpos, hle⟩

/-- -1 is compared as 0xFFFF is. -/
theorem checkCycle_never (now : BitVec 16) : Cpm.checkCycle (-1) now = true ↔ now < 0xF000 := by
  have hof : BitVec.ofInt 16 (-1) = 0xFFFF := by decide
  have hlt := now.isLt
  rw [Cpm.checkCycle, hof, decide_eq_true_iff, BitVec.toNat_sub, BitVec.lt_def]
  have hmax : (0xFFFF : BitVec 16).toNat = 65535 := rfl
  have hbound : (0xF000 : BitVec 16).toNat = 61440 := rfl
  rw [hmax, hbound]
  omega

/-! ## One CPM -/

/-- The frames of a CPM are those that it has accepted. -/
structure Keeps (x : Cpm) (r : Reception) : Prop where
  buffer : (if x.newBuf then x.bufferCpm else x.bufferApp) = r.last.map Prod.fst
  shown : x.state ≠ .PF_CPM_STATE_W_START → ∀ l ∈ r.last, r.freed = false ∧ x.bufferPos = l.2 + 2
  first : x.state = .PF_CPM_STATE_FRUN → x.cycle = -1 ∧ r.counter = none
  later : x.state = .PF_CPM_STATE_RUN → ∃ c, r.counter = some c ∧ x.cycle = c.toNat

section
variable {x y : Cpm} {r : Reception} {f : Frame} {frameIdPos : BitVec 16}

theorem Keeps.zero : Keeps .zero ⟨none, false, none⟩ := by
  constructor
  · rfl
  · intro hstate
    exact absurd rfl hstate
  · intro hstate
    cases hstate
  · intro hstate
    cases hstate

theorem Keeps.showsLast (h : Keeps x r) (hstate : x.state ≠ .PF_CPM_STATE_W_START) :
    ShowsLast x r := by
  have hshown := h.shown hstate
  constructor
  · rw [Cpm.source, h.buffer, Option.map_map]
    cases hlast : r.last with
    | none => rfl
    | some l => exact congrArg (fun pos => some (l.1, pos)) (hshown l hlast).2
  · intro hne
    rcases Option.ne_none_iff_exists'.mp hne with ⟨l, hl⟩
    exact (hshown l hl).1

/-- What stops the CPM, or leaves the state as it is, keeps the frames. -/
theorem Keeps.stop (h : Keeps x r) (hbuffer : (if y.newBuf then y.bufferCpm else y.bufferApp) =
      if x.newBuf then x.bufferCpm else x.bufferApp)
    (hsame : y.state = .PF_CPM_STATE_W_START ∨
      y.state = x.state ∧ y.bufferPos = x.bufferPos ∧ y.cycle = x.cycle) : Keeps y r := by
  rcases hsame with hstop | ⟨hstate, hpos, hcycle⟩
  · constructor
    · rw [hbuffer]
      exact h.buffer
    · intro hrun
      exact absurd hstop hrun
    · intro hrun
      cases hstop.symm.trans hrun
    · intro hrun
      cases hstop.symm.trans hrun
  · constructor
    · rw [hbuffer]
      exact h.buffer
    · rw [hstate, hpos]
      exact h.shown
    · rw [hstate, hcycle]
      exact h.first
    · rw [hstate, hcycle]
      exact h.later

theorem Keeps.closeReq (h : Keeps x r) : Keeps x.closeReq { r with freed := true } := by
  constructor
  · exact h.buffer
  · intro hrun
    exact absurd rfl hrun
  · intro hrun
    cases hrun
  · intro hrun
    cases hrun

theorem Keeps.getBuf (h : Keeps x r) : Keeps x.getBuf.2.2 r := by
  unfold Cpm.getBuf
  cases hnew : x.newBuf with
  | true =>
    refine h.stop ?_ (.inr ⟨rfl, rfl, rfl⟩)
    rw [if_pos hnew]
    rfl
  | false => exact h

theorem Keeps.controlIntervalExpired (h : Keeps x r) : Keeps x.controlIntervalExpired r := by
  unfold Cpm.controlIntervalExpired
  by_cases hrunning : x.ciRunning = true
  · rw [if_pos hrunning]
    cases hstate : x.state with
    | PF_CPM_STATE_W_START => exact h
    | PF_CPM_STATE_FRUN => exact h
    | PF_CPM_STATE_RUN =>
      dsimp only
      by_cases hheld : x.dataHoldFactor ≤ x.dht
      · rw [if_pos hheld]
        exact h.stop rfl (.inl rfl)
      · rw [if_neg hheld]
        exact h.stop rfl (.inr ⟨hstate.symm, rfl, rfl⟩)
  · rw [if_neg hrunning]
    exact h

/-- What an activation makes of the frame from before. -/
theorem activateReq_cases (x : Cpm) (a : Cpm.Activation) :
    x.state ≠ .PF_CPM_STATE_W_START ∧ x.activateReq a = x ∨
      x.state = .PF_CPM_STATE_W_START ∧ (x.activateReq a).newBuf = x.newBuf ∧
        (x.activateReq a).bufferCpm = x.bufferCpm ∧ (x.activateReq a).bufferApp = x.bufferApp ∧
        (a.started = true → (x.activateReq a).state = .PF_CPM_STATE_FRUN ∧
          (x.activateReq a).bufferPos = 16 ∧ (x.activateReq a).cycle = -1) ∧
        (a.started = false → (x.activateReq a).state = .PF_CPM_STATE_W_START) := by
  unfold Cpm.activateReq
  cases hstate : x.state with
  | PF_CPM_STATE_W_START =>
    right
    cases hstarted : a.started with
    | true => exact ⟨rfl, rfl, rfl, rfl, fun _ => ⟨rfl, rfl, rfl⟩, fun h => Bool.noConfusion h⟩
    | false => exact ⟨rfl, rfl, rfl, rfl, fun h => Bool.noConfusion h, fun _ => rfl⟩
  | PF_CPM_STATE_FRUN => exact .inl ⟨by decide, rfl⟩
  | PF_CPM_STATE_RUN => exact .inl ⟨by decide, rfl⟩

theorem Keeps.activateReq (h : Keeps x r) (hstate : x.state = .PF_CPM_STATE_W_START)
    {a : Cpm.Activation}
    (hl : a.started = true → ∀ l ∈ r.last, r.freed = false ∧ l.2 + 2 = 16) :
    Keeps (x.activateReq a) { r with counter := none } := by
  rcases activateReq_cases x a with ⟨hrun, -⟩ | ⟨-, hnew, hcpm, happ, hstarted, hnot⟩
  · exact absurd hstate hrun
  · have hbuffer : (if (x.activateReq a).newBuf then (x.activateReq a).bufferCpm
        else (x.activateReq a).bufferApp) = r.last.map Prod.fst := by
      rw [hnew, hcpm, happ]
      exact h.buffer
    cases ha : a.started with
    | true =>
      rcases hstarted ha with ⟨hfrun, hpos, hcycle⟩
      constructor
      · exact hbuffer
      · intro _ l hlast
        rw [hpos]
        exact ⟨(hl ha l hlast).1, (hl ha l hlast).2.symm⟩
      · intro _
        exact ⟨hcycle, rfl⟩
      · intro hrun
        cases hfrun.symm.trans hrun
    | false =>
      have hwait := hnot ha
      constructor
      · exact hbuffer
      · intro hrun
        exact absurd hwait hrun
      · intro hrun
        cases hwait.symm.trans hrun
      · intro hrun
        cases hwait.symm.trans hrun

theorem Keeps.accepted (x : Cpm) (f : Frame) (frameIdPos : BitVec 16) :
    Keeps (x.taken f frameIdPos) ⟨some (f, frameIdPos), false, some (Cpm.trailer f).cycle⟩ := by
  constructor
  · rfl
  · intro _ l hl
    obtain rfl := Option.some.inj hl
    exact ⟨rfl, rfl⟩
  · intro hrun
    cases hrun
  · intro _
    exact ⟨_, rfl, rfl⟩

/-- A proper frame that is the first one is accepted with the right counters only. -/
theorem Keeps.accepts_first (h : Keeps x r) (hstate : x.state ≠ .PF_CPM_STATE_W_START)
    (hcounter : r.counter = none) (hproper : Proper x f frameIdPos) :
    Accepts x f frameIdPos ↔ (Cpm.trailer f).cycle < 0xF000 := by
  have hcycle : x.cycle = -1 := by
    cases hx : x.state with
    | PF_CPM_STATE_W_START => exact absurd hx hstate
    | PF_CPM_STATE_FRUN => exact (h.first hx).1
    | PF_CPM_STATE_RUN =>
      rcases h.later hx with ⟨c, hc, -⟩
      cases hcounter.symm.trans hc
  rw [← checkCycle_never, ← hcycle]
  exact ⟨fun haccepts => haccepts.2.2.2, fun hcheck => ⟨hstate, hproper.1, hproper.2, hcheck⟩⟩

/-- Later ones are newer. -/
theorem Keeps.newer (h : Keeps x r) (haccepts : Accepts x f frameIdPos) :
    ∀ c ∈ r.counter, Newer c (Cpm.trailer f).cycle := by
  intro c hc
  rcases haccepts with ⟨hstate, -, -, hcheck⟩
  cases hx : x.state with
  | PF_CPM_STATE_W_START => exact absurd hx hstate
  | PF_CPM_STATE_FRUN => cases (h.first hx).2.symm.trans hc
  | PF_CPM_STATE_RUN =>
    rcases h.later hx with ⟨c', hc', hcycle⟩
    obtain rfl := Option.some.inj (hc'.symm.trans hc)
    rw [Cpm.cSduStructure, hcycle] at hcheck
    exact (checkCycle_iff _ _).mp hcheck

end

/-! ## All CPMs -/

/-- The frames of all CPMs are kept. -/
def Receiver.Inv (w : Receiver) : Prop := ∀ cr, Keeps (w.net.iocr cr).cpm (w.seen cr)

section
variable {w w' : Receiver} {cr : Cr} {x : Cpm} {r : Reception} {e : ReceiveStep}

theorem Receiver.Inv.set (h : w.Inv) (hx : Keeps x r) :
    Receiver.Inv ⟨w.net.setCpm cr x, Function.update w.seen cr r⟩ := by
  intro cr'
  rcases eq_or_ne cr' cr with rfl | hne
  · show Keeps ((w.net.setCpm cr' x).iocr cr').cpm (Function.update w.seen cr' r cr')
    rw [Net.setCpm_same, Function.update_self]
    exact hx
  · show Keeps ((w.net.setCpm cr x).iocr cr').cpm (Function.update w.seen cr r cr')
    rw [Net.setCpm_other x hne, Function.update_of_ne hne]
    exact h cr'

/-- Nothing becomes of the frames. -/
theorem Receiver.Inv.setCpm (h : w.Inv) (hx : Keeps x (w.seen cr)) :
    Receiver.Inv ⟨w.net.setCpm cr x, w.seen⟩ := by
  have hset : Receiver.Inv ⟨w.net.setCpm cr x, Function.update w.seen cr (w.seen cr)⟩ := h.set hx
  rwa [Function.update_eq_self] at hset

/-- A reading fetches the buffer of a CPM, or it does nothing. -/
theorem getDataAndIops_fetches (net : Net) (loc : Location) (newFlag : Bool)
    (dataLen iopsLen : ℕ) : (net.getDataAndIops loc newFlag dataLen iopsLen).2 = net ∨
      ∃ cr, (net.getDataAndIops loc newFlag dataLen iopsLen).2 =
        net.setCpm cr (net.iocr cr).cpm.getBuf.2.2 := by
  have hdriver (x : Cpm) (d : IodataObject) : (x.driverGetDataAndIops d).2 = x.getBuf.2.2 := by
    unfold Cpm.driverGetDataAndIops
    cases hbuf : x.getBuf.2.1 <;> simp [hbuf]
  unfold Net.getDataAndIops
  cases hdesc : net.getArIocrDesc loc with
  | none => exact .inl rfl
  | some desc =>
    rcases desc with ⟨cr, d⟩
    dsimp only
    cases hstate : (net.iocr cr).cpm.state with
    | PF_CPM_STATE_W_START => exact .inl rfl
    | PF_CPM_STATE_FRUN | PF_CPM_STATE_RUN =>
      dsimp only
      by_cases hlen : dataLen < d.dataLength ∨ iopsLen < d.iopsLength
      · rw [if_pos hlen]
        exact .inl rfl
      · rw [if_neg hlen]
        right
        exact ⟨cr, congrArg (net.setCpm cr) (hdriver _ d)⟩

theorem getIocs_fetches (net : Net) (loc : Location) (iocsLen : ℕ) :
    (net.getIocs loc iocsLen).2 = net ∨
      ∃ cr, (net.getIocs loc iocsLen).2 = net.setCpm cr (net.iocr cr).cpm.getBuf.2.2 := by
  have hdriver (x : Cpm) (d : IodataObject) : (x.driverGetIocs d).2 = x.getBuf.2.2 := by
    unfold Cpm.driverGetIocs
    cases hbuf : x.getBuf.2.1 <;> simp [hbuf]
  unfold Net.getIocs
  cases hdesc : net.getArIocrDesc loc with
  | none => exact .inl rfl
  | some desc =>
    rcases desc with ⟨cr, d⟩
    dsimp only
    cases hstate : (net.iocr cr).cpm.state with
    | PF_CPM_STATE_W_START => exact .inl rfl
    | PF_CPM_STATE_FRUN | PF_CPM_STATE_RUN =>
      dsimp only
      by_cases hlen : iocsLen < d.iocsLength
      · rw [if_pos hlen]
        exact .inl rfl
      · rw [if_neg hlen]
        by_cases hzero : d.iocsLength = 0
        · rw [if_pos hzero]
          exact .inl rfl
        · rw [if_neg hzero]
          right
          exact ⟨cr, congrArg (net.setCpm cr) (hdriver _ d)⟩

theorem Receiver.Inv.fetched {net : Net} (h : w.Inv)
    (hnet : net = w.net ∨ ∃ cr, net = w.net.setCpm cr (w.net.iocr cr).cpm.getBuf.2.2) :
    Receiver.Inv ⟨net, w.seen⟩ := by
  rcases hnet with rfl | ⟨cr, rfl⟩
  · exact h
  · exact h.setCpm (h cr).getBuf

/-- The condition of a step keeps the frames. -/
theorem Receiver.Inv.step (h : w.Inv) (hwindow : w.InWindow e) (hs : w.step e = some w') :
    w'.Inv := by
  cases e with
  | zeroed cr =>
    obtain rfl := Option.some.inj hs
    exact h.set .zero
  | call s =>
    obtain rfl := Option.some.inj hs
    cases s with
    | activateReq cr a =>
      show Receiver.Inv ⟨w.net.setCpm cr ((w.net.iocr cr).cpm.activateReq a),
        if (w.net.iocr cr).cpm.state = .PF_CPM_STATE_W_START then
          Function.update w.seen cr { w.seen cr with counter := none } else w.seen⟩
      by_cases hstate : (w.net.iocr cr).cpm.state = .PF_CPM_STATE_W_START
      · rw [if_pos hstate]
        exact h.set ((h cr).activateReq hstate (hwindow hstate))
      · rw [if_neg hstate]
        rcases activateReq_cases (w.net.iocr cr).cpm a with ⟨-, hsame⟩ | ⟨hwait, -⟩
        · rw [hsame]
          exact h.setCpm (h cr)
        · exact absurd hwait hstate
    | frame cr f frameIdPos =>
      show Receiver.Inv ⟨w.net.setCpm cr ((w.net.iocr cr).cpm.cDataInd f frameIdPos),
        if Accepts (w.net.iocr cr).cpm f frameIdPos then
          Function.update w.seen cr ⟨some (f, frameIdPos), false, some (Cpm.trailer f).cycle⟩
        else w.seen⟩
      rcases Cpm.cDataInd_eq (w.net.iocr cr).cpm f frameIdPos with ⟨htaken, hignored⟩
      by_cases haccepts : Accepts (w.net.iocr cr).cpm f frameIdPos
      · rw [if_pos haccepts, htaken haccepts]
        exact h.set (.accepted _ f frameIdPos)
      · rw [if_neg haccepts]
        rcases hignored haccepts with ⟨errcnt, hx⟩
        rw [hx]
        exact h.setCpm ((h cr).stop rfl (.inr ⟨rfl, rfl, rfl⟩))
    | getDataAndIops loc newFlag dataLen iopsLen =>
      exact h.fetched (getDataAndIops_fetches w.net loc newFlag dataLen iopsLen)
    | getIocs loc iocsLen => exact h.fetched (getIocs_fetches w.net loc iocsLen)
    | controlInterval cr => exact h.setCpm (h cr).controlIntervalExpired
    | closeReq cr => exact h.set (h cr).closeReq
    | setOwner loc ar => exact h

/-- What is expected of a step is its condition. -/
theorem Receiver.Inv.expected_iff (h : w.Inv) : w.Received e ↔ w.InWindow e := by
  constructor
  · intro hreceived
    cases e with
    | zeroed cr => trivial
    | call s =>
      cases s with
      | activateReq cr a =>
        intro hstate hstarted l hl
        rcases activateReq_cases (w.net.iocr cr).cpm a with ⟨hrun, -⟩ | ⟨-, hnew, hcpm, happ, hfrun, -⟩
        · exact absurd hstate hrun
        rcases hfrun hstarted with ⟨hfrun, hpos, -⟩
        have hshows := hreceived.shows _ cr rfl
        have hcr : (((Cyclic.step w.net (.activateReq cr a)).1).iocr cr).cpm =
            (w.net.iocr cr).cpm.activateReq a := Net.setCpm_same w.net cr _
        have hseen : w.note (.activateReq cr a) cr = { w.seen cr with counter := none } := by
          unfold Receiver.note
          dsimp only
          rw [if_pos hstate, Function.update_self]
        dsimp only at hshows
        rw [hcr, hseen] at hshows
        have hlast := hshows (by rw [hfrun]; decide)
        refine ⟨hlast.kept (by rw [hl]; exact Option.some_ne_none l), ?_⟩
        have hsource := hlast.source
        rw [Cpm.source, hnew, hcpm, happ, (h cr).buffer, hpos, hl] at hsource
        exact (congrArg Prod.snd (Option.some.inj hsource)).symm
      | frame cr f frameIdPos =>
        intro hstate hcounter hproper
        exact ((h cr).accepts_first hstate hcounter hproper).mp
          (hreceived.first cr f frameIdPos rfl hstate hcounter hproper)
      | getDataAndIops | getIocs | controlInterval | closeReq | setOwner => trivial
  · intro hwindow
    constructor
    · intro w' cr hs hstate
      exact (h.step hwindow hs cr).showsLast hstate
    · rintro cr f frameIdPos rfl hstate hcounter hproper
      exact ((h cr).accepts_first hstate hcounter hproper).mpr (hwindow hstate hcounter hproper)
    · rintro cr f frameIdPos rfl haccepts
      exact (h cr).newer haccepts

end

/-! ## Runs -/

open Receiver in
/-- Every step of a run is as expected exactly when every step meets its condition. -/
theorem received_iff (net : Net) (es : List ReceiveStep) :
    Runs.Along Receiver.step Received (.start net) es ↔
      Runs.Along Receiver.step InWindow (.start net) es := by
  have hstart : (start net).Inv := fun _ => Keeps.zero
  exact Runs.along_iff hstart (fun _ _ h => Receiver.Inv.expected_iff h)
    (fun _ _ _ h hwindow hs => Receiver.Inv.step h hwindow hs)

/-! ## A frame that is not accepted -/

namespace AcceptanceRun

def net : Net :=
  ⟨fun _ => some 0, fun _ => 1, fun _ => ⟨.PF_IOCR_TYPE_OUTPUT, [], .zero⟩⟩

/-- From the controller `1:1:1:1:1:1`, valid primary data of 40 bytes. -/
def frame (cycle : List Byte) : Frame :=
  ⟨Buffer.write (Buffer.write (fun _ => 0) 6 [1, 1, 1, 1, 1, 1]) 56 (cycle ++ [0x35, 0]), 60⟩

/-- The CPM is activated, and a frame arrives. -/
def receive (cycle : List Byte) : List ReceiveStep :=
  [.call (.activateReq (0, 0) ⟨[1, 1, 1, 1, 1, 1], 3, 40, true⟩),
    .call (.frame (0, 0) (frame cycle) 14)]

end AcceptanceRun

open AcceptanceRun in
example : Runs.Along Receiver.step Receiver.InWindow (.start net)
    (receive [0xEF, 0xFF] ++ [.call (.closeReq (0, 0)), .zeroed (0, 0)] ++ receive [0, 0]) := by
  decide +kernel

open AcceptanceRun in
/-- The first frame is not accepted when its counter is 0xF000. -/
theorem not_received_first :
    ¬Runs.Along Receiver.step Receiver.Received (.start net) (receive [0xF0, 0]) := by
  intro h
  have haccepts := (h.2 _ rfl).1.first (0, 0) (frame [0xF0, 0]) 14 rfl (by decide +kernel) rfl
    (by decide +kernel)
  exact absurd haccepts (by decide +kernel)

end PNet.Cyclic
