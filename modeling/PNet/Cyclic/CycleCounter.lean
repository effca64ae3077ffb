import PNet.Connect.Check
import PNet.Cyclic.Ppm

/-! # The cycle counter between two frames

* `countersAccepted_iff`: of a CR whose parameters have been accepted, the consumer takes every
  frame that the producer sends after another exactly when the time between the two is at most
  61440 units of 31.25 us.
* `countersAccepted_not_always`: the checks of the connect request do not see to that.
-/

namespace PNet.Cyclic

open Connect Block

/-! ## Runs of a producer -/

inductive PpmStep where
  | activateReq (now : BitVec 32) (added : Bool)
  /-- The timeout of the PPM expires. -/
  | send (now : BitVec 32) (sent added : Bool)
  | writeDataAndIops (d : IodataObject) (data : Option (List Byte)) (iops : List Byte)
  | writeIocs (d : IodataObject) (iocs : List Byte)
  | setDataStatus (bit : ℕ) (on : Bool)
  | closeReq

namespace Ppm

/-- The PPM of the CR when it has just been created. -/
def created (sa da : Vector Byte 6) (p : IocrParam) : Ppm := (cleared.create sa da p true).2

/-- The PPM after a step, and the frame it has given to the Ethernet driver. -/
def step (inLength : BitVec 16) (x : Ppm) : PpmStep → Ppm × Option Frame
  | .activateReq now added => ((x.activateReq inLength now added).2, none)
  | .send now sent added =>
    let (frame, _, x) := x.drvSwSend inLength now sent added
    (x, frame)
  | .writeDataAndIops d data iops => (x.writeDataAndIops d data iops, none)
  | .writeIocs d iocs => (x.writeIocs d iocs, none)
  | .setDataStatus bit on => (x.setDataStatus bit on, none)
  | .closeReq => (x.closeReq, none)

/-- The frames of a run. -/
def frames (inLength : BitVec 16) (x : Ppm) : List PpmStep → List Frame
  | [] => []
  | s :: steps =>
    let (x, frame) := x.step inLength s
    frame.toList ++ frames inLength x steps

end Ppm

/-- The consumer takes the second frame after the first one. -/
def Follows (f g : Frame) : Prop :=
  Cpm.checkCycle (Cpm.trailer f).cycle.toNat (Cpm.trailer g).cycle = true

/-- In no run of the producer of the CR does the consumer refuse a frame for its counter. -/
def CountersAccepted (p : IocrParam) : Prop :=
  ∀ sa da inLength steps, (Ppm.frames inLength (Ppm.created sa da p) steps).IsChain Follows

/-! ## The next counter -/

/-- The next multiple of `t` after `n`. -/
theorem next_multiple (n t : ℕ) (h : 0 < t) : (n / t + 1) * t = n + (t - n % t) := by
  have hlt : n % t < t := Nat.mod_lt n h
  have hdiv : t * (n / t) + n % t = n := Nat.div_add_mod n t
  have hcomm : n / t * t = t * (n / t) := Nat.mul_comm _ _
  rw [Nat.add_mul, Nat.one_mul]
  omega

variable {scf rr prev : BitVec 16}

theorem calculateNextCyclecounter_toNat (prev : BitVec 16) (h : 0 < scf.toNat * rr.toNat) :
    (Ppm.calculateNextCyclecounter prev scf rr).toNat =
      (prev.toNat + (scf.toNat * rr.toNat - prev.toNat % (scf.toNat * rr.toNat))) % 2 ^ 16 := by
  have hlt : prev.toNat / (scf.toNat * rr.toNat) < 2 ^ 16 :=
    lt_of_le_of_lt (Nat.div_le_self _ _) prev.isLt
  rw [Ppm.calculateNextCyclecounter, BitVec.toNat_ofNat, BitVec.toNat_ofNat, Nat.mod_eq_of_lt hlt,
    next_multiple _ _ h]

/-- Where the interval fits the counter, the test of the consumer sees what is left of it. -/
theorem checkCycle_next (h0 : 0 < scf.toNat * rr.toNat) (h : scf.toNat * rr.toNat < 2 ^ 16) :
    Cpm.checkCycle prev.toNat (Ppm.calculateNextCyclecounter prev scf rr) = true ↔
      scf.toNat * rr.toNat - prev.toNat % (scf.toNat * rr.toNat) ≤ 61440 := by
  have hnext := calculateNextCyclecounter_toNat prev h0
  have hmod : prev.toNat % (scf.toNat * rr.toNat) < scf.toNat * rr.toNat := Nat.mod_lt _ h0
  have hprev := prev.isLt
  have hdiff : (Ppm.calculateNextCyclecounter prev scf rr - prev).toNat =
      scf.toNat * rr.toNat - prev.toNat % (scf.toNat * rr.toNat) := by
    rw [BitVec.toNat_sub, hnext]
    omega
  rw [Cpm.checkCycle, decide_eq_true_iff, BitVec.ofInt_natCast, BitVec.ofNat_toNat,
    BitVec.setWidth_eq, hdiff]
  omega

/-- Where it does not fit, the counter stands still. -/
theorem next_const (h : 2 ^ 16 ≤ scf.toNat * rr.toNat) :
    Ppm.calculateNextCyclecounter prev scf rr = BitVec.ofNat 16 (scf.toNat * rr.toNat) := by
  have hdiv : prev.toNat / (scf.toNat * rr.toNat) = 0 :=
    Nat.div_eq_of_lt (lt_of_lt_of_le prev.isLt h)
  simp [Ppm.calculateNextCyclecounter, hdiv]

theorem checkCycle_self (c : BitVec 16) : Cpm.checkCycle c.toNat c = false := by
  rw [Cpm.checkCycle, decide_eq_false_iff_not, BitVec.ofInt_natCast, BitVec.ofNat_toNat,
    BitVec.setWidth_eq, BitVec.sub_self]
  simp

/-! ## The frame carries the counter -/

namespace Ppm

/-- The PPM as `pf_ppm_init_cr_config` has prepared it for the CR. -/
structure Prepared (p : IocrParam) (x : Ppm) : Prop where
  clock : x.sendClockFactor = p.sendClockFactor
  ratio : x.reductionRatio = p.reductionRatio
  dataStatus : x.dataStatusOffset = x.cycleCounterOffset + 2
  transferStatus : x.transferStatusOffset = x.cycleCounterOffset + 3
  frame : ∀ f ∈ x.sendBuffer, f.len - 4 = x.cycleCounterOffset
  running : x.ciRunning = true → x.state = .PF_PPM_STATE_RUN

variable {p : IocrParam} {x : Ppm} {f : Frame}

theorem prepared_created (sa da : Vector Byte 6) (p : IocrParam) : Prepared p (created sa da p) where
  clock := rfl
  ratio := rfl
  dataStatus := rfl
  transferStatus := by
    show (20 : BitVec 16) + p.cSduLength + 2 + 1 = 20 + p.cSduLength + 3
    rw [BitVec.add_assoc]
    rfl
  frame := by
    intro f hf
    cases hf
    show (20 : BitVec 16) + p.cSduLength + 2 + 1 + 1 - 4 = 20 + p.cSduLength
    rw [BitVec.add_assoc, BitVec.add_assoc]
    exact BitVec.add_sub_cancel _ _
  running := nofun

/-- The consumer reads the counter where the producer has put it. -/
theorem trailer_fillBuffer (h : Prepared p x) (hlen : f.len - 4 = x.cycleCounterOffset) (n : ℕ) :
    (Cpm.trailer (x.fillBuffer f n)).cycle = x.cycle := by
  have hds : x.dataStatusOffset.toNat = (x.cycleCounterOffset.toNat + 2) % 2 ^ 16 := by
    rw [h.dataStatus, BitVec.toNat_add]
    rfl
  have hts : x.transferStatusOffset.toNat = (x.cycleCounterOffset.toNat + 3) % 2 ^ 16 := by
    rw [h.transferStatus, BitVec.toNat_add]
    rfl
  have hcc := x.cycleCounterOffset.isLt
  -- the status bytes are behind the counter, or have wrapped around to the first bytes
  have hbyte : ∀ i, i < 2 → ∀ d,
      (x.fillBuffer f n).payload (x.cycleCounterOffset.toNat + i) =
        (bytes16 true x.cycle).getD i d := by
    intro i hi d
    simp only [fillBuffer]
    rw [Buffer.write_outside (by simp only [List.length_singleton]; omega),
      Buffer.write_outside (by simp only [List.length_singleton]; omega),
      Buffer.write_inside (by rwa [bytes16_length])]
    rw [List.getD_eq_getElem?_getD, List.getElem?_eq_getElem (by rwa [bytes16_length])]
    rfl
  have h0 := hbyte 0 (by omega) 0
  have h1 := hbyte 1 (by omega) 0
  rw [Nat.add_zero] at h0
  have hpos : ((x.fillBuffer f n).len - 4).toNat = x.cycleCounterOffset.toNat := by
    rw [← hlen]
    rfl
  rw [Cpm.trailer, hpos, h0, h1]
  exact join2_split x.cycle

@[simp] theorem finishBuffer_state (x : Ppm) (n : BitVec 16) :
    (x.finishBuffer n).state = x.state := by
  rw [finishBuffer]
  split <;> rfl

@[simp] theorem finishBuffer_ciRunning (x : Ppm) (n : BitVec 16) :
    (x.finishBuffer n).ciRunning = x.ciRunning := by
  rw [finishBuffer]
  split <;> rfl

@[simp] theorem finishBuffer_cycle (x : Ppm) (n : BitVec 16) :
    (x.finishBuffer n).cycle =
      calculateNextCyclecounter x.cycle x.sendClockFactor x.reductionRatio := by
  rw [finishBuffer]
  split <;> rfl

theorem finishBuffer_none (hf : x.sendBuffer = none) (n : BitVec 16) :
    (x.finishBuffer n).sendBuffer = none := by
  rw [finishBuffer]
  split
  · exact hf
  · next g hg => cases hf.symm.trans hg

theorem finishBuffer_some (h : Prepared p x) (hf : x.sendBuffer = some f) (n : BitVec 16) :
    ∃ g, (x.finishBuffer n).sendBuffer = some g ∧ g.len = f.len ∧
      (Cpm.trailer g).cycle = (x.finishBuffer n).cycle := by
  rw [finishBuffer]
  split
  · next hnone => cases hf.symm.trans hnone
  · next g hg =>
    cases hf.symm.trans hg
    have hnext : Prepared p { x with
        cycle := calculateNextCyclecounter x.cycle x.sendClockFactor x.reductionRatio } :=
      ⟨h.clock, h.ratio, h.dataStatus, h.transferStatus, h.frame, h.running⟩
    exact ⟨_, rfl, rfl, trailer_fillBuffer hnext (h.frame f hf) n.toNat⟩

theorem Prepared.finishBuffer (h : Prepared p x) (n : BitVec 16) :
    Prepared p (x.finishBuffer n) := by
  rw [Ppm.finishBuffer]
  split
  · exact ⟨h.clock, h.ratio, h.dataStatus, h.transferStatus, h.frame, h.running⟩
  · next f hf =>
    refine ⟨h.clock, h.ratio, h.dataStatus, h.transferStatus, ?_, h.running⟩
    intro g hg
    cases hg
    exact h.frame f hf

/-! ## One step -/

/-- The PPM counts on from the last frame that it has sent, as long as it has its buffer. -/
structure Counting (p : IocrParam) (x : Ppm) (last : Option Frame) : Prop
    extends Prepared p x where
  last : ∀ f ∈ last, x.sendBuffer ≠ none →
    x.state = .PF_PPM_STATE_RUN ∧ (Cpm.trailer f).cycle = x.cycle

theorem counting_created (sa da : Vector Byte 6) (p : IocrParam) :
    Counting p (created sa da p) none :=
  ⟨prepared_created sa da p, nofun⟩

variable {last : Option Frame} (inLength : BitVec 16)

/-- A setting of the application leaves the counter and the layout alone. -/
theorem Counting.writeFrameBuffer (h : Counting p x last) (offset : ℕ) (data : List Byte) :
    Counting p (x.writeFrameBuffer offset data) last :=
  ⟨⟨h.clock, h.ratio, h.dataStatus, h.transferStatus, h.frame, h.running⟩, h.last⟩

theorem Counting.writeDataAndIops (h : Counting p x last) (d : IodataObject)
    (data : Option (List Byte)) (iops : List Byte) :
    Counting p (x.writeDataAndIops d data iops) last := by
  cases data with
  | none => exact h.writeFrameBuffer _ _
  | some data => exact (h.writeFrameBuffer _ _).writeFrameBuffer _ _

theorem Counting.closeReq (h : Counting p x last) : Counting p x.closeReq last :=
  ⟨⟨h.clock, h.ratio, h.dataStatus, h.transferStatus, nofun, nofun⟩,
    fun _ _ hbuf => absurd rfl hbuf⟩

theorem Counting.activateReq (h : Counting p x last) (now : BitVec 32) (added : Bool) :
    Counting p (x.activateReq inLength now added).2 last := by
  rw [Ppm.activateReq]
  split
  · exact h
  · next hstate =>
    let y : Ppm := { x with
      nextExec := now + x.controlInterval
      state := .PF_PPM_STATE_RUN
      ciRunning := true }
    have hready : Prepared p y :=
      ⟨h.clock, h.ratio, h.dataStatus, h.transferStatus, h.frame, fun _ => rfl⟩
    refine ⟨hready.finishBuffer inLength, ?_⟩
    intro f hf hbuf
    -- nothing has been sent before the activation, unless the buffer is gone
    exfalso
    by_cases hx : x.sendBuffer = none
    · exact hbuf (finishBuffer_none (x := y) hx inLength)
    · have hrun := (h.last f hf hx).1
      rw [hstate] at hrun
      cases hrun

/-- Next to the frame, the timeout only changes what belongs to the timing. -/
theorem drvSwSend_eq (now : BitVec 32) (sent added : Bool) (hrun : x.ciRunning = true) :
    (x.step inLength (.send now sent added)).2 = (x.finishBuffer inLength).sendBuffer ∧
      ∀ last, Counting p (x.finishBuffer inLength) last →
        Counting p (x.step inLength (.send now sent added)).1 last := by
  rw [step, drvSwSend, if_pos hrun]
  cases sent with
  | false => exact ⟨rfl, fun _ h => h⟩
  | true =>
    cases added with
    | false =>
      refine ⟨rfl, fun last h => ?_⟩
      exact ⟨⟨h.clock, h.ratio, h.dataStatus, h.transferStatus, h.frame, h.running⟩, h.last⟩
    | true =>
      refine ⟨rfl, fun last h => ?_⟩
      exact ⟨⟨h.clock, h.ratio, h.dataStatus, h.transferStatus, h.frame, h.running⟩, h.last⟩

/-- A step sends nothing, or a frame whose counter is the next one. -/
theorem Counting.step (h : Counting p x last) (s : PpmStep) :
    (x.step inLength s).2 = none ∧ Counting p (x.step inLength s).1 last ∨
      ∃ g, (x.step inLength s).2 = some g ∧ Counting p (x.step inLength s).1 (some g) ∧
        (Cpm.trailer g).cycle =
          calculateNextCyclecounter x.cycle p.sendClockFactor p.reductionRatio ∧
        ∀ f ∈ last, (Cpm.trailer f).cycle = x.cycle := by
  cases s with
  | activateReq now added => exact .inl ⟨rfl, h.activateReq inLength now added⟩
  | writeDataAndIops d data iops => exact .inl ⟨rfl, h.writeDataAndIops d data iops⟩
  | writeIocs d iocs => exact .inl ⟨rfl, h.writeFrameBuffer _ _⟩
  | setDataStatus bit on =>
    exact .inl ⟨rfl, ⟨h.clock, h.ratio, h.dataStatus, h.transferStatus, h.frame, h.running⟩, h.last⟩
  | closeReq => exact .inl ⟨rfl, h.closeReq⟩
  | send now sent added =>
    by_cases hrun : x.ciRunning = true
    · obtain ⟨hframe, hrest⟩ := drvSwSend_eq (p := p) inLength now sent added hrun
      cases hbuf : x.sendBuffer with
      | none =>
        left
        have hnone := finishBuffer_none hbuf inLength
        exact ⟨hframe.trans hnone,
          hrest last ⟨h.toPrepared.finishBuffer inLength, fun f _ hne => absurd hnone hne⟩⟩
      | some f =>
        right
        obtain ⟨g, hg, -, hcycle⟩ := finishBuffer_some h.toPrepared hbuf inLength
        refine ⟨g, hframe.trans hg, hrest (some g) ⟨h.toPrepared.finishBuffer inLength, ?_⟩, ?_, ?_⟩
        · intro g' hg' _
          cases hg'
          exact ⟨(finishBuffer_state x inLength).trans (h.running hrun), hcycle⟩
        · rw [hcycle, finishBuffer_cycle, h.clock, h.ratio]
        · exact fun f' hf' => (h.last f' hf' (by simp [hbuf])).2
    · left
      have hidle : x.step inLength (.send now sent added) = (x, none) := by
        rw [Ppm.step, drvSwSend, if_neg hrun]
      rw [hidle]
      exact ⟨rfl, h⟩

/-! ## Runs -/

theorem frames_cons (x : Ppm) (s : PpmStep) (steps : List PpmStep) :
    x.frames inLength (s :: steps) =
      (x.step inLength s).2.toList ++ Ppm.frames inLength (x.step inLength s).1 steps := rfl

/-- Frames that are sent one after another follow each other, if each counter follows the
one before it. -/
theorem Counting.frames (hfit : ∀ prev : BitVec 16, Cpm.checkCycle prev.toNat
      (calculateNextCyclecounter prev p.sendClockFactor p.reductionRatio) = true)
    (h : Counting p x last) (steps : List PpmStep) :
    (last.toList ++ x.frames inLength steps).IsChain Follows := by
  induction steps generalizing x last with
  | nil =>
    cases last with
    | none => exact List.isChain_nil
    | some f => exact List.isChain_singleton f
  | cons s steps ih =>
    rcases h.step inLength s with ⟨hnone, hcount⟩ | ⟨g, hg, hcount, hnext, hlast⟩
    · rw [frames_cons, hnone]
      exact ih hcount
    · rw [frames_cons, hg]
      have hchain : (g :: Ppm.frames inLength (x.step inLength s).1 steps).IsChain Follows :=
        ih hcount
      cases last with
      | none => exact hchain
      | some f =>
        refine List.isChain_cons_cons.mpr ⟨?_, hchain⟩
        rw [Follows, hlast f rfl, hnext]
        exact hfit x.cycle

/-- The counter after `c`. -/
def nextOf (p : IocrParam) (c : BitVec 16) : BitVec 16 :=
  calculateNextCyclecounter c p.sendClockFactor p.reductionRatio

/-- A PPM that runs sends and goes on running, one counter further. -/
theorem Prepared.step_send (h : Prepared p x) (hrun : x.ciRunning = true)
    (hbuf : x.sendBuffer ≠ none) (now : BitVec 32) :
    ∃ y g, x.step inLength (.send now true true) = (y, some g) ∧ Prepared p y ∧
      y.ciRunning = true ∧ y.sendBuffer ≠ none ∧ y.cycle = nextOf p x.cycle ∧
      (Cpm.trailer g).cycle = nextOf p x.cycle := by
  obtain ⟨f, hf⟩ := Option.ne_none_iff_exists'.mp hbuf
  obtain ⟨g, hg, -, hcycle⟩ := finishBuffer_some h hf inLength
  have hnext : (x.finishBuffer inLength).cycle = nextOf p x.cycle := by
    rw [finishBuffer_cycle, h.clock, h.ratio]
    rfl
  have hrest := h.finishBuffer inLength
  rw [step, drvSwSend, if_pos hrun]
  refine ⟨_, g, congrArg (Prod.mk _) hg, ?_, ?_, ?_, hnext, hcycle.trans hnext⟩
  · exact ⟨hrest.clock, hrest.ratio, hrest.dataStatus, hrest.transferStatus, hrest.frame,
      hrest.running⟩
  · exact (finishBuffer_ciRunning x inLength).trans hrun
  · show (x.finishBuffer inLength).sendBuffer ≠ none
    rw [hg]
    exact nofun

/-- The counters of a PPM that sends each time its timeout expires. -/
theorem frames_sends (h : Prepared p x) (hrun : x.ciRunning = true) (hbuf : x.sendBuffer ≠ none)
    (n : ℕ) :
    (x.frames inLength (List.replicate n (.send 0 true true))).map
        (fun f => (Cpm.trailer f).cycle) =
      List.iterate (nextOf p) (nextOf p x.cycle) n := by
  induction n generalizing x with
  | zero => rfl
  | succ n ih =>
    obtain ⟨y, g, hstep, hy, hyrun, hybuf, hycycle, hg⟩ :=
      h.step_send inLength hrun hbuf 0
    rw [List.replicate_succ, frames_cons, hstep, List.iterate]
    show (Cpm.trailer g).cycle :: (y.frames inLength _).map _ = _
    rw [ih hy hyrun hybuf, hg, hycycle]

/-- A run that sends three frames. -/
theorem frames_three (sa da : Vector Byte 6) (p : IocrParam) :
    ((created sa da p).frames 0 (.activateReq 0 true :: List.replicate 3 (.send 0 true true))).map
        (fun f => (Cpm.trailer f).cycle) =
      [nextOf p (nextOf p 0), nextOf p (nextOf p (nextOf p 0)),
        nextOf p (nextOf p (nextOf p (nextOf p 0)))] := by
  have hcount := (counting_created sa da p).activateReq 0 0 true
  rw [frames_cons]
  show (Ppm.frames 0 ((created sa da p).activateReq 0 0 true).2 _).map _ = _
  rw [frames_sends 0 hcount.toPrepared rfl nofun 3]
  rfl

end Ppm

/-! ## Which CRs -/

/-- From zero on, the counters of a large interval that fits are `t`, `2 * t - 2 ^ 16`, `t`. -/
theorem nextOf_three {p : IocrParam} (hlarge : 61440 < p.interval) (hfit : p.interval < 2 ^ 16) :
    (Ppm.nextOf p (Ppm.nextOf p (Ppm.nextOf p 0))).toNat = p.interval := by
  have hpos : 0 < p.interval := by omega
  have hval : ∀ c, (Ppm.nextOf p c).toNat =
      (c.toNat + (p.interval - c.toNat % p.interval)) % 2 ^ 16 :=
    fun c => calculateNextCyclecounter_toNat c hpos
  have h1 : (Ppm.nextOf p 0).toNat = p.interval := by
    have hzero : (0 : BitVec 16).toNat = 0 := rfl
    rw [hval, hzero, Nat.zero_mod]
    omega
  have h2 : (Ppm.nextOf p (Ppm.nextOf p 0)).toNat = 2 * p.interval - 2 ^ 16 := by
    rw [hval, h1, Nat.mod_self]
    omega
  have hmod : (2 * p.interval - 2 ^ 16) % p.interval = 2 * p.interval - 2 ^ 16 :=
    Nat.mod_eq_of_lt (by omega)
  rw [hval, h2, hmod]
  omega

theorem countersAccepted_of_interval {p : IocrParam} (hpos : 0 < p.interval) :
    CountersAccepted p ↔ p.interval ≤ 61440 := by
  constructor
  · intro h
    have hchain := h (Vector.replicate 6 0) (Vector.replicate 6 0) 0
      (.activateReq 0 true :: List.replicate 3 (.send 0 true true))
    have hmap := (List.isChain_map (R := fun a b => Cpm.checkCycle a.toNat b = true)
      fun f => (Cpm.trailer f).cycle).mpr hchain
    rw [Ppm.frames_three, List.isChain_cons_cons, List.isChain_cons_cons] at hmap
    obtain ⟨h23, h34, -⟩ := hmap
    by_contra hlt
    by_cases hfit : p.interval < 2 ^ 16
    · -- the whole interval lies between the last two counters
      have h3 := nextOf_three (not_le.mp hlt) hfit
      have hle := (checkCycle_next hpos hfit).mp h34
      rw [show p.sendClockFactor.toNat * p.reductionRatio.toNat = p.interval from rfl, h3,
        Nat.mod_self] at hle
      exact hlt hle
    · -- all counters are equal
      have hconst : ∀ c, Ppm.nextOf p c = BitVec.ofNat 16 p.interval :=
        fun c => next_const (not_lt.mp hfit)
      rw [hconst, hconst, checkCycle_self] at h23
      cases h23
  · intro hle sa da inLength steps
    refine (Ppm.counting_created sa da p).frames inLength ?_ steps
    intro prev
    rw [checkCycle_next hpos (lt_of_le_of_lt hle (by decide))]
    exact (Nat.sub_le _ _).trans hle

variable {minDeviceInterval : ℕ} {ar : ArParam} {iocrs : List IocrParam} {stat : PnetResult}

/-- Of a CR that the device has accepted, the producer and the consumer agree on the counter
exactly when two frames are not further apart than what the consumer allows for. -/
theorem countersAccepted_iff {p : IocrParam} (hp : p ∈ iocrs)
    (h : (checkIocrParam minDeviceInterval ar iocrs stat).1 = true) :
    CountersAccepted p ↔ p.interval ≤ 61440 := by
  rw [checkIocrParam_accepts] at h
  exact countersAccepted_of_interval (IocrParam.interval_pos (h p hp))

/-! ## An interval that is too long -/

/-- The AR of a UDP class CR. -/
def udpAr : ArParam where
  arType := 1
  arUuid := ⟨1, 0, 0, Vector.replicate 8 0⟩
  sessionKey := 1
  cmInitiatorMacAdd := Vector.replicate 6 0
  cmInitiatorObjectUuid := ⟨0xDEA00000, 0x6C97, 0x11D1, #v[0x82, 0x71, 0, 0, 0, 0, 0, 0]⟩
  arProperties := ⟨1, false, 0, false, 0, false, false, false, false⟩
  cmInitiatorActivityTimeoutFactor := 100
  cmInitiatorUdpRtPort := 0x8892
  cmInitiatorStationNameLen := 1
  cmInitiatorStationName := [0x61]

/-- A UDP class CR, of the reduction ratio `ratio`. -/
def udpIocr (ratio : BitVec 16) : IocrParam where
  iocrType := PF_IOCR_TYPE_INPUT
  iocrReference := 1
  ltField := PNAL_ETHTYPE_IP
  iocrProperties := ⟨PF_RT_CLASS_UDP, 0, 0, 0⟩
  cSduLength := 40
  frameId := 0xC000
  sendClockFactor := 32
  reductionRatio := ratio
  phase := 1
  sequence := 0
  frameSendOffset := 0xFFFFFFFF
  watchdogFactor := 3
  dataHoldFactor := 3
  iocrTagHeader := ⟨0, 6⟩
  iocrMulticastMacAdd := Vector.replicate 6 0
  apis := [⟨0, [⟨0, 1, 0⟩], []⟩]

/-- With the ratio 4096 all frames have the same counter, although the CR is accepted. -/
theorem countersAccepted_not_always :
    (checkIocrParam 32 udpAr [udpIocr 4096] noError).1 = true ∧
      ¬ CountersAccepted (udpIocr 4096) := by
  refine ⟨by decide, ?_⟩
  rw [countersAccepted_of_interval (by decide)]
  decide

/-- With the ratio 512 the consumer takes them all. -/
theorem countersAccepted_udp : CountersAccepted (udpIocr 512) :=
  (countersAccepted_iff List.mem_cons_self
    (show (checkIocrParam 32 udpAr [udpIocr 512] noError).1 = true by decide)).mpr (by decide)

end PNet.Cyclic
