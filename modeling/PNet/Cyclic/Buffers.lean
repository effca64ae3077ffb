import PNet.Cyclic.Watchdog
import PNet.Lib.Ownership

/-! # Who holds a received frame

The buffers of received cyclic frames, by the pointers to them: `p_buffer_cpm` and `p_buffer_app` of
each CPM, and `p_buf` of the frame handler, of which each port has one. `pf_cpm_close_req` frees what
the first two point to and leaves the pointers as they are; the ABORT that it is part of goes on to
release the AR, whose memory is zero from then on.

* `buffers_oneOwner`: after every run, each buffer has one of these three holders, or it has been
  freed once; what the slots hold are the frames of the CPM (`Stack.Linked`).
-/

namespace PNet.Cyclic

open Ownership

/-! ## The pointers -/

inductive Holder where
  | cpm (cr : Cr)
  | app (cr : Cr)
  | handler (port : ℕ)
deriving DecidableEq, Repr

/-- The ARs, and the buffers. -/
structure Stack where
  net : Net
  inUse : ℕ → Bool
  /-- CMSU has started the protocol machines of the AR. -/
  started : ℕ → Bool
  slots : Slots Holder
  content : ℕ → Frame

/-- A CR of a connect request, and what its CPM is activated with. -/
structure NewCr where
  iocrType : IocrType
  dataDesc : List IodataObject
  activation : Cpm.Activation

/-- How a connect request ends. -/
inductive Connected where
  /-- The AR is released again. -/
  | refused
  /-- The AR stays, but CMSU has not been asked to start anything. -/
  | idle
  | started
deriving DecidableEq, Repr

/-- The CPM of a zeroed AR. -/
def Cpm.zero : Cpm where
  state := .PF_CPM_STATE_W_START
  recvCnt := 0
  errcnt := 0
  sa := []
  dataHoldFactor := 0
  bufferApp := none
  bufferCpm := none
  newBuf := false
  frameIdPos := 0
  dataStatus := 0
  bufferLength := 0
  bufferPos := 0
  dht := 0
  cycle := 0
  ciRunning := false

/-- The slots of a CPM of the AR. -/
def Holder.ofAr (ar : ℕ) : Holder → Bool
  | .cpm cr => cr.1 = ar
  | .app cr => cr.1 = ar
  | .handler _ => false

namespace Stack

/-- Nothing is connected, and nothing has been received. -/
def init (subslotAr : Location → Option ℕ) : Stack where
  net := { subslotAr, nbrIocrs := fun _ => 0, iocr := fun _ => ⟨.PF_IOCR_TYPE_INPUT, [], .zero⟩ }
  inUse := fun _ => false
  started := fun _ => false
  slots := { held := fun _ => none, issued := 0, freed := fun _ => 0 }
  content := fun _ => ⟨fun _ => 0, 0⟩

/-! ## Opening and closing -/

/-- `memset` of the AR, and the CRs of the connect request. -/
def zeroed (s : Stack) (ar : ℕ) (inUse : Bool) (crs : List NewCr) : Stack :=
  { s with
    net := { s.net with
      nbrIocrs := Function.update s.net.nbrIocrs ar crs.length
      iocr := fun cr =>
        if cr.1 = ar then
          crs[cr.2]?.elim ⟨.PF_IOCR_TYPE_INPUT, [], .zero⟩ fun c => ⟨c.iocrType, c.dataDesc, .zero⟩
        else s.net.iocr cr }
    inUse := Function.update s.inUse ar inUse
    started := Function.update s.started ar false
    slots := s.slots.clear (Holder.ofAr ar) }

/-- `pf_ar_release`. -/
def release (s : Stack) (ar : ℕ) : Stack := s.zeroed ar false []

/-- `pf_cmsu_start_req`: the CPMs of the output CRs are activated. -/
def startReq (s : Stack) (ar : ℕ) (crs : List NewCr) : Stack :=
  { s with
    net := { s.net with
      iocr := fun cr =>
        if cr.1 = ar then
          crs[cr.2]?.elim (s.net.iocr cr) fun c =>
            if c.iocrType = .PF_IOCR_TYPE_OUTPUT then
              { s.net.iocr cr with cpm := (s.net.iocr cr).cpm.activateReq c.activation }
            else s.net.iocr cr
        else s.net.iocr cr }
    started := Function.update s.started ar true }

/-- `pf_cmrpc_rm_connect_ind`, into the memory of a free AR. Where a CPM cannot be activated, the AR
is aborted before CMSU has got to STARTUP, and nothing is closed. -/
def connect (s : Stack) (ar : ℕ) (crs : List NewCr) (outcome : Connected) : Stack :=
  if s.inUse ar then s
  else
    match outcome with
    | .refused => s.release ar
    | .idle => s.zeroed ar true crs
    | .started =>
      if crs.all (fun c => decide (c.iocrType = .PF_IOCR_TYPE_OUTPUT → c.activation.started)) then
        (s.zeroed ar true crs).startReq ar crs
      else s.release ar

/-- `pf_cpm_close_req`. -/
def closeReq (s : Stack) (cr : Cr) : Stack :=
  { s with
    net := s.net.setCpm cr (s.net.iocr cr).cpm.closeReq
    slots := (s.slots.giveBack (.cpm cr)).giveBack (.app cr) }

/-- `pf_cmsu_cmdev_state_ind`, of ABORT: the CPMs of the output CRs are closed. -/
def cmsuAbort (s : Stack) (ar : ℕ) : Stack :=
  if s.started ar then
    (List.range (s.net.nbrIocrs ar)).foldl (fun s crep =>
      if (s.net.iocr (ar, crep)).iocrType = .PF_IOCR_TYPE_OUTPUT then s.closeReq (ar, crep) else s) s
  else s

/-- `pf_cmdev_state_ind`, of ABORT. -/
def abort (s : Stack) (ar : ℕ) : Stack := if s.inUse ar then (s.cmsuAbort ar).release ar else s

/-! ## Frames -/

/-- `pf_cpm_c_data_ind`, up to where it frees `p_buf`. The handler of a port works on one frame at a
time. -/
def cDataInd (s : Stack) (port : ℕ) (cr : Cr) (f : Frame) (frameIdPos : BitVec 16) : Stack :=
  if (s.slots.held (.handler port)).isSome then s
  else
    let x := (s.net.iocr cr).cpm
    let slots := s.slots.put (.handler port)
    { s with
      net := s.net.setCpm cr (x.cDataInd f frameIdPos)
      slots :=
        if x.state ≠ .PF_CPM_STATE_W_START ∧ Cpm.dataValid f = true ∧ x.dhtReload f frameIdPos ∧
          x.updateData f frameIdPos
        then slots.swap (.cpm cr) (.handler port) else slots
      content := Function.update s.content s.slots.issued f }

/-- The end of `pf_cpm_c_data_ind`. -/
def freeBuf (s : Stack) (port : ℕ) : Stack :=
  { s with
    slots := (s.slots.giveBack (.handler port)).clear fun h => decide (h = .handler port) }

/-! ## Reading -/

/-- The CR whose driver is asked by `pf_cpm_get_data_and_iops`. -/
def dataSource (net : Net) (loc : Location) (dataLen iopsLen : ℕ) : Option Cr :=
  (net.getArIocrDesc loc).bind fun r =>
    if (net.iocr r.1).cpm.state = .PF_CPM_STATE_W_START ∨ dataLen < r.2.dataLength ∨
      iopsLen < r.2.iopsLength
    then none else some r.1

/-- The CR whose driver is asked by `pf_cpm_get_iocs`. -/
def iocsSource (net : Net) (loc : Location) (iocsLen : ℕ) : Option Cr :=
  (net.getArIocrDesc loc).bind fun r =>
    if (net.iocr r.1).cpm.state = .PF_CPM_STATE_W_START ∨ iocsLen < r.2.iocsLength ∨
      r.2.iocsLength = 0
    then none else some r.1

/-- `pf_cpm_get_buf`. -/
def getBuf (s : Stack) (cr : Cr) : Stack :=
  { s with
    net := s.net.setCpm cr (s.net.iocr cr).cpm.getBuf.2.2
    slots := if (s.net.iocr cr).cpm.newBuf then s.slots.swap (.app cr) (.cpm cr) else s.slots }

end Stack

/-! ## Runs -/

inductive BufferStep where
  | connect (ar : ℕ) (crs : List NewCr) (outcome : Connected)
  | abort (ar : ℕ)
  | frame (port : ℕ) (cr : Cr) (f : Frame) (frameIdPos : BitVec 16)
  | freeBuf (port : ℕ)
  | getDataAndIops (loc : Location) (dataLen iopsLen : ℕ)
  | getIocs (loc : Location) (iocsLen : ℕ)
  /-- Where the watchdog aborts the AR, the ABORT follows. -/
  | controlInterval (cr : Cr)
  | setOwner (loc : Location) (ar : Option ℕ)

def bufferStep (s : Stack) : BufferStep → Stack
  | .connect ar crs outcome => s.connect ar crs outcome
  | .abort ar => s.abort ar
  | .frame port cr f frameIdPos => s.cDataInd port cr f frameIdPos
  | .freeBuf port => s.freeBuf port
  | .getDataAndIops loc dataLen iopsLen =>
    (Stack.dataSource s.net loc dataLen iopsLen).elim s s.getBuf
  | .getIocs loc iocsLen => (Stack.iocsSource s.net loc iocsLen).elim s s.getBuf
  | .controlInterval cr =>
    { s with net := s.net.setCpm cr (s.net.iocr cr).cpm.controlIntervalExpired }
  | .setOwner loc ar =>
    { s with net := { s.net with subslotAr := Function.update s.net.subslotAr loc ar } }

def bufferRun (subslotAr : Location → Option ℕ) (steps : List BufferStep) : Stack :=
  steps.foldl bufferStep (.init subslotAr)

/-! ## The invariant -/

namespace Stack

/-- What the pointers of a CPM point to are its frames. -/
def Linked (s : Stack) : Prop :=
  ∀ cr, (s.net.iocr cr).cpm.bufferCpm = (s.slots.held (.cpm cr)).map s.content ∧
    (s.net.iocr cr).cpm.bufferApp = (s.slots.held (.app cr)).map s.content

/-- The CR is one that CMSU has started, and will close. -/
def Closes (s : Stack) (cr : Cr) : Prop :=
  s.inUse cr.1 = true ∧ s.started cr.1 = true ∧ cr.2 < s.net.nbrIocrs cr.1 ∧
    (s.net.iocr cr).iocrType = .PF_IOCR_TYPE_OUTPUT

/-- The buffers have one owner each, and what a CPM holds will be freed when it is closed. -/
structure Sound (s : Stack) : Prop where
  owner : s.slots.OneOwner Slots.noneStale
  linked : s.Linked
  idle : ∀ cr, ¬ s.Closes cr → (s.net.iocr cr).cpm.state = .PF_CPM_STATE_W_START ∧
    s.slots.held (.cpm cr) = none ∧ s.slots.held (.app cr) = none

section
variable {s : Stack} {ar : ℕ} {cr : Cr}

theorem Sound.started (h : s.Sound) (hstate : (s.net.iocr cr).cpm.state ≠ .PF_CPM_STATE_W_START) :
    s.Closes cr := by
  by_contra hnot
  exact hstate (h.idle cr hnot).1

theorem init_sound (subslotAr : Location → Option ℕ) : (init subslotAr).Sound :=
  ⟨.new (fun _ => rfl) rfl fun _ => rfl, fun _ => ⟨rfl, rfl⟩, fun _ _ => ⟨rfl, rfl, rfl⟩⟩

/-! ## Opening -/

theorem activateReq_buffers (x : Cpm) (a : Cpm.Activation) :
    (x.activateReq a).bufferCpm = x.bufferCpm ∧ (x.activateReq a).bufferApp = x.bufferApp := by
  unfold Cpm.activateReq
  cases x.state with
  | PF_CPM_STATE_W_START =>
    dsimp only
    by_cases hstarted : a.started = true
    · rw [if_pos hstarted]
      exact ⟨rfl, rfl⟩
    · rw [if_neg hstarted]
      exact ⟨rfl, rfl⟩
  | PF_CPM_STATE_FRUN => exact ⟨rfl, rfl⟩
  | PF_CPM_STATE_RUN => exact ⟨rfl, rfl⟩

theorem zeroed_iocr (s : Stack) (inUse : Bool) (crs : List NewCr) (hcr : cr.1 = ar) :
    ((s.zeroed ar inUse crs).net.iocr cr).cpm = .zero := by
  show (if cr.1 = ar then _ else _ : Iocr).cpm = _
  rw [if_pos hcr]
  cases crs[cr.2]? <;> rfl

theorem zeroed_other (s : Stack) (inUse : Bool) (crs : List NewCr) (hcr : cr.1 ≠ ar) :
    (s.zeroed ar inUse crs).net.iocr cr = s.net.iocr cr ∧
      ((s.zeroed ar inUse crs).Closes cr ↔ s.Closes cr) := by
  have hiocr : (s.zeroed ar inUse crs).net.iocr cr = s.net.iocr cr := if_neg hcr
  refine ⟨hiocr, ?_⟩
  unfold Closes
  rw [hiocr]
  show Function.update s.inUse ar inUse cr.1 = true ∧ Function.update s.started ar false cr.1 = true ∧
    cr.2 < Function.update s.net.nbrIocrs ar crs.length cr.1 ∧ _ ↔ _
  rw [Function.update_of_ne hcr, Function.update_of_ne hcr, Function.update_of_ne hcr]

/-- The AR that is zeroed has given back what its CPMs held; the other ARs stay as they are. -/
theorem zeroed_sound {stale : Holder → Bool} (howner : s.slots.OneOwner stale)
    (hstale : ∀ h, stale h = true → Holder.ofAr ar h = true)
    (hempty : ∀ h, stale h = false → Holder.ofAr ar h = true → s.slots.held h = none)
    (hothers : ∀ cr : Cr, cr.1 ≠ ar →
      ((s.net.iocr cr).cpm.bufferCpm = (s.slots.held (.cpm cr)).map s.content ∧
        (s.net.iocr cr).cpm.bufferApp = (s.slots.held (.app cr)).map s.content) ∧
      (¬ s.Closes cr → (s.net.iocr cr).cpm.state = .PF_CPM_STATE_W_START ∧
        s.slots.held (.cpm cr) = none ∧ s.slots.held (.app cr) = none))
    (inUse : Bool) (crs : List NewCr) : (s.zeroed ar inUse crs).Sound := by
  have hself (h : Holder) (hh : Holder.ofAr ar h = true) :
      (s.zeroed ar inUse crs).slots.held h = none := if_pos hh
  have hother (h : Holder) (hh : Holder.ofAr ar h = false) :
      (s.zeroed ar inUse crs).slots.held h = s.slots.held h := if_neg (by rw [hh]; decide)
  refine ⟨?_, ?_, ?_⟩
  · apply howner.clear
    · exact fun h hh => .inl (hstale h hh)
    · intro h hh hd
      rcases hd with hd | hd
      · exact hempty h hh hd
      · cases hd
  · intro cr
    by_cases hcr : cr.1 = ar
    · rw [zeroed_iocr s inUse crs hcr, hself (.cpm cr) (decide_eq_true hcr),
        hself (.app cr) (decide_eq_true hcr)]
      exact ⟨rfl, rfl⟩
    · rw [(zeroed_other s inUse crs hcr).1, hother (.cpm cr) (decide_eq_false hcr),
        hother (.app cr) (decide_eq_false hcr)]
      exact (hothers cr hcr).1
  · intro cr hcloses
    by_cases hcr : cr.1 = ar
    · rw [zeroed_iocr s inUse crs hcr, hself (.cpm cr) (decide_eq_true hcr),
        hself (.app cr) (decide_eq_true hcr)]
      exact ⟨rfl, rfl, rfl⟩
    · rw [(zeroed_other s inUse crs hcr).2] at hcloses
      rw [(zeroed_other s inUse crs hcr).1, hother (.cpm cr) (decide_eq_false hcr),
        hother (.app cr) (decide_eq_false hcr)]
      exact (hothers cr hcr).2 hcloses

/-- The memory of a free AR is zeroed. -/
theorem Sound.zeroed (h : s.Sound) (hfree : s.inUse ar = false) (inUse : Bool)
    (crs : List NewCr) : (s.zeroed ar inUse crs).Sound := by
  have hnot {cr : Cr} (hcr : cr.1 = ar) : ¬ s.Closes cr := by
    rintro ⟨huse, -⟩
    rw [hcr, hfree] at huse
    cases huse
  refine zeroed_sound h.owner nofun ?_ (fun cr _ => ⟨h.linked cr, h.idle cr⟩) inUse crs
  intro holder _ hholder
  cases holder with
  | cpm cr => exact (h.idle cr (hnot (of_decide_eq_true hholder))).2.1
  | app cr => exact (h.idle cr (hnot (of_decide_eq_true hholder))).2.2
  | handler port => cases hholder

/-- CMSU starts the CRs of a new AR. -/
theorem startReq_sound (s : Stack) (crs : List NewCr) (h : (s.zeroed ar true crs).Sound) :
    ((s.zeroed ar true crs).startReq ar crs).Sound := by
  generalize ht : s.zeroed ar true crs = t at h
  have hnbr : t.net.nbrIocrs ar = crs.length := by
    rw [← ht]
    exact Function.update_self _ _ _
  have huse : t.inUse ar = true := by
    rw [← ht]
    exact Function.update_self _ _ _
  have hfresh (cr : Cr) (hcr : cr.1 = ar) : ¬ t.Closes cr := by
    rintro ⟨-, hstarted, -⟩
    rw [hcr, ← ht] at hstarted
    cases (Function.update_self _ _ _).symm.trans hstarted
  have htype (cr : Cr) (c : NewCr) (hcr : cr.1 = ar) (hc : crs[cr.2]? = some c) :
      (t.net.iocr cr).iocrType = c.iocrType := by
    rw [← ht]
    show (if cr.1 = ar then _ else _ : Iocr).iocrType = _
    rw [if_pos hcr, hc]
    rfl
  -- a CPM is activated where it will be closed
  have hself (cr : Cr) (hcr : cr.1 = ar) : (t.startReq ar crs).net.iocr cr = t.net.iocr cr ∨
      (t.startReq ar crs).Closes cr ∧ ∃ a, (t.startReq ar crs).net.iocr cr =
        { t.net.iocr cr with cpm := (t.net.iocr cr).cpm.activateReq a } := by
    cases hc : crs[cr.2]? with
    | none =>
      left
      show (if cr.1 = ar then _ else _ : Iocr) = _
      rw [if_pos hcr, hc]
      rfl
    | some c =>
      have hiocr : (t.startReq ar crs).net.iocr cr =
          if c.iocrType = IocrType.PF_IOCR_TYPE_OUTPUT then
            { t.net.iocr cr with cpm := (t.net.iocr cr).cpm.activateReq c.activation }
          else t.net.iocr cr := by
        show (if cr.1 = ar then _ else _ : Iocr) = _
        rw [if_pos hcr, hc]
        rfl
      by_cases houtput : c.iocrType = IocrType.PF_IOCR_TYPE_OUTPUT
      · rw [if_pos houtput] at hiocr
        refine .inr ⟨⟨?_, ?_, ?_, ?_⟩, c.activation, hiocr⟩
        · rw [hcr]
          exact huse
        · rw [hcr]
          exact Function.update_self _ _ _
        · show cr.2 < t.net.nbrIocrs cr.1
          rw [hcr, hnbr]
          exact (List.getElem?_eq_some_iff.mp hc).1
        · rw [hiocr]
          exact (htype cr c hcr hc).trans houtput
      · rw [if_neg houtput] at hiocr
        exact .inl hiocr
  have hother (cr : Cr) (hcr : cr.1 ≠ ar) : (t.startReq ar crs).net.iocr cr = t.net.iocr cr ∧
      ((t.startReq ar crs).Closes cr ↔ t.Closes cr) := by
    have hiocr : (t.startReq ar crs).net.iocr cr = t.net.iocr cr := if_neg hcr
    refine ⟨hiocr, ?_⟩
    unfold Closes
    rw [hiocr]
    show t.inUse cr.1 = true ∧ Function.update t.started ar true cr.1 = true ∧ _ ↔ _
    rw [Function.update_of_ne hcr]
    exact Iff.rfl
  refine ⟨h.owner, ?_, ?_⟩
  · intro cr
    by_cases hcr : cr.1 = ar
    · rcases hself cr hcr with hiocr | ⟨-, a, hiocr⟩
      · rw [hiocr]
        exact h.linked cr
      · rw [hiocr]
        dsimp only
        rw [(activateReq_buffers _ a).1, (activateReq_buffers _ a).2]
        exact h.linked cr
    · rw [(hother cr hcr).1]
      exact h.linked cr
  · intro cr hnot
    by_cases hcr : cr.1 = ar
    · rcases hself cr hcr with hiocr | ⟨hcloses, -⟩
      · rw [hiocr]
        exact h.idle cr (hfresh cr hcr)
      · exact absurd hcloses hnot
    · rw [(hother cr hcr).2] at hnot
      rw [(hother cr hcr).1]
      exact h.idle cr hnot

theorem connect_sound (h : s.Sound) (ar : ℕ) (crs : List NewCr) (outcome : Connected) :
    (s.connect ar crs outcome).Sound := by
  unfold connect
  by_cases huse : s.inUse ar = true
  · rwa [if_pos huse]
  · rw [if_neg huse]
    rw [Bool.not_eq_true] at huse
    cases outcome with
    | refused => exact h.zeroed huse false []
    | idle => exact h.zeroed huse true crs
    | started =>
      dsimp only
      by_cases hall : crs.all
          (fun c => decide
            (c.iocrType = IocrType.PF_IOCR_TYPE_OUTPUT → c.activation.started)) = true
      · rw [if_pos hall]
        exact startReq_sound s crs (h.zeroed huse true crs)
      · rw [if_neg hall]
        exact h.zeroed huse false []

/-! ## Closing -/

/-- The slots of the output CRs below `n`. -/
def closedBelow (s : Stack) (ar n : ℕ) : Holder → Bool
  | .cpm cr => cr.1 = ar ∧ cr.2 < n ∧ (s.net.iocr cr).iocrType = .PF_IOCR_TYPE_OUTPUT
  | .app cr => cr.1 = ar ∧ cr.2 < n ∧ (s.net.iocr cr).iocrType = .PF_IOCR_TYPE_OUTPUT
  | .handler _ => false

/-- CMSU has closed the output CRs below `n`. -/
structure Closing (ar : ℕ) (s : Stack) (n : ℕ) (t : Stack) : Prop where
  owner : t.slots.OneOwner (s.closedBelow ar n)
  held : t.slots.held = s.slots.held
  content : t.content = s.content
  inUse : t.inUse = s.inUse
  started : t.started = s.started
  nbrIocrs : t.net.nbrIocrs = s.net.nbrIocrs
  iocrType : ∀ cr, (t.net.iocr cr).iocrType = (s.net.iocr cr).iocrType
  others : ∀ cr : Cr, cr.1 ≠ ar → t.net.iocr cr = s.net.iocr cr

theorem setCpm_iocrType (net : Net) (cr cr' : Cr) (x : Cpm) :
    ((net.setCpm cr' x).iocr cr).iocrType = (net.iocr cr).iocrType := by
  unfold Net.setCpm
  dsimp only
  by_cases hcr : cr = cr'
  · rw [hcr, Function.update_self]
  · rw [Function.update_of_ne hcr]

/-- What is closed below the next number: also that CR, if it is an output CR. -/
theorem closedBelow_succ (s : Stack) (ar n : ℕ) :
    s.closedBelow ar (n + 1) =
      if (s.net.iocr (ar, n)).iocrType = .PF_IOCR_TYPE_OUTPUT then
        Slots.alsoStale (Slots.alsoStale (s.closedBelow ar n) (.cpm (ar, n))) (.app (ar, n))
      else s.closedBelow ar n := by
  have hcr (cr : Cr) : (cr.1 = ar ∧ cr.2 < n + 1 ∧
      (s.net.iocr cr).iocrType = IocrType.PF_IOCR_TYPE_OUTPUT) ↔
      (cr.1 = ar ∧ cr.2 < n ∧ (s.net.iocr cr).iocrType = IocrType.PF_IOCR_TYPE_OUTPUT) ∨
        (cr = (ar, n) ∧ (s.net.iocr (ar, n)).iocrType = IocrType.PF_IOCR_TYPE_OUTPUT) := by
    rcases cr with ⟨a, c⟩
    constructor
    · rintro ⟨rfl, hlt, htype⟩
      rcases Nat.lt_succ_iff_lt_or_eq.mp hlt with hlt | rfl
      · exact .inl ⟨rfl, hlt, htype⟩
      · exact .inr ⟨rfl, htype⟩
    · rintro (⟨rfl, hlt, htype⟩ | ⟨heq, htype⟩)
      · exact ⟨rfl, Nat.lt_succ_of_lt hlt, htype⟩
      · rw [heq]
        exact ⟨rfl, Nat.lt_succ_self n, htype⟩
  funext holder
  rw [Bool.eq_iff_iff]
  by_cases houtput : (s.net.iocr (ar, n)).iocrType = IocrType.PF_IOCR_TYPE_OUTPUT
  · rw [if_pos houtput]
    cases holder with
    | cpm cr =>
      simp only [closedBelow, Slots.alsoStale, Bool.or_eq_true, decide_eq_true_iff, hcr, houtput,
        and_true, Holder.cpm.injEq, reduceCtorEq, or_false]
    | app cr =>
      simp only [closedBelow, Slots.alsoStale, Bool.or_eq_true, decide_eq_true_iff, hcr, houtput,
        and_true, Holder.app.injEq, reduceCtorEq, or_false]
    | handler port =>
      simp only [closedBelow, Slots.alsoStale, Bool.or_eq_true, decide_eq_true_iff, reduceCtorEq,
        or_false]
  · rw [if_neg houtput]
    cases holder with
    | cpm cr => simp only [closedBelow, decide_eq_true_iff, hcr, houtput, and_false, or_false]
    | app cr => simp only [closedBelow, decide_eq_true_iff, hcr, houtput, and_false, or_false]
    | handler port => rfl

theorem Closing.step {t : Stack} {n : ℕ} (h : Closing ar s n t) :
    Closing ar s (n + 1) (if (t.net.iocr (ar, n)).iocrType = .PF_IOCR_TYPE_OUTPUT then
      t.closeReq (ar, n) else t) := by
  have howner := h.owner
  rw [h.iocrType]
  by_cases houtput : (s.net.iocr (ar, n)).iocrType = IocrType.PF_IOCR_TYPE_OUTPUT
  · rw [if_pos houtput]
    have hcpm : s.closedBelow ar n (.cpm (ar, n)) = false :=
      decide_eq_false fun h => Nat.lt_irrefl n h.2.1
    have happ : Slots.alsoStale (s.closedBelow ar n) (.cpm (ar, n)) (.app (ar, n)) = false := by
      simp only [closedBelow, Slots.alsoStale, Nat.lt_irrefl, false_and, and_false, decide_false,
        reduceCtorEq, Bool.or_false]
    refine ⟨?_, h.held, h.content, h.inUse, h.started, h.nbrIocrs, ?_, ?_⟩
    · rw [closedBelow_succ, if_pos houtput]
      exact (howner.giveBack hcpm).giveBack happ
    · intro cr
      exact (setCpm_iocrType _ _ _ _).trans (h.iocrType cr)
    · intro cr hcr
      have hne : cr ≠ (ar, n) := fun heq => hcr (by rw [heq])
      exact (Net.setCpm_other _ hne).trans (h.others cr hcr)
  · rw [if_neg houtput]
    refine ⟨?_, h.held, h.content, h.inUse, h.started, h.nbrIocrs, h.iocrType, h.others⟩
    rw [closedBelow_succ, if_neg houtput]
    exact howner

theorem cmsuAbort_closing (h : s.Sound) (hstarted : s.started ar = true) :
    Closing ar s (s.net.nbrIocrs ar) (s.cmsuAbort ar) := by
  unfold cmsuAbort
  rw [if_pos hstarted]
  generalize s.net.nbrIocrs ar = n
  induction n with
  | zero =>
    refine ⟨?_, rfl, rfl, rfl, rfl, rfl, fun _ => rfl, fun _ _ => rfl⟩
    have hnone : s.closedBelow ar 0 = Slots.noneStale := by
      funext holder
      cases holder with
      | cpm cr => exact decide_eq_false fun h => Nat.not_lt_zero _ h.2.1
      | app cr => exact decide_eq_false fun h => Nat.not_lt_zero _ h.2.1
      | handler port => rfl
    rw [hnone]
    exact h.owner
  | succ n ih =>
    rw [List.range_succ, List.foldl_append]
    exact ih.step

theorem abort_sound (h : s.Sound) (ar : ℕ) : (s.abort ar).Sound := by
  unfold abort
  by_cases huse : s.inUse ar = true
  · rw [if_pos huse]
    by_cases hstarted : s.started ar = true
    · have hclosing := cmsuAbort_closing h hstarted
      refine zeroed_sound hclosing.owner ?_ ?_ ?_ false []
      · intro holder hstale
        cases holder with
        | cpm cr => exact decide_eq_true (of_decide_eq_true hstale).1
        | app cr => exact decide_eq_true (of_decide_eq_true hstale).1
        | handler port => cases hstale
      · -- what has not been closed holds nothing
        have hnot (cr : Cr) (hcr : cr.1 = ar) (hstale : ¬ (cr.1 = ar ∧ cr.2 < s.net.nbrIocrs ar ∧
            (s.net.iocr cr).iocrType = IocrType.PF_IOCR_TYPE_OUTPUT)) : ¬ s.Closes cr := by
          rintro ⟨-, -, hlt, htype⟩
          rw [hcr] at hlt
          exact hstale ⟨hcr, hlt, htype⟩
        intro holder hstale hholder
        rw [hclosing.held]
        cases holder with
        | cpm cr =>
          exact (h.idle cr (hnot cr (of_decide_eq_true hholder) (of_decide_eq_false hstale))).2.1
        | app cr =>
          exact (h.idle cr (hnot cr (of_decide_eq_true hholder) (of_decide_eq_false hstale))).2.2
        | handler port => cases hholder
      · intro cr hcr
        unfold Closes
        rw [hclosing.others cr hcr, hclosing.held, hclosing.content, hclosing.inUse,
          hclosing.started, hclosing.nbrIocrs]
        exact ⟨h.linked cr, h.idle cr⟩
    · have hnone : s.cmsuAbort ar = s := by
        unfold cmsuAbort
        rw [if_neg hstarted]
      rw [hnone]
      have hnot {cr : Cr} (hcr : cr.1 = ar) : ¬ s.Closes cr := by
        rintro ⟨-, hs, -⟩
        rw [hcr] at hs
        exact hstarted hs
      refine zeroed_sound h.owner nofun ?_ (fun cr _ => ⟨h.linked cr, h.idle cr⟩) false []
      intro holder _ hholder
      cases holder with
      | cpm cr => exact (h.idle cr (hnot (of_decide_eq_true hholder))).2.1
      | app cr => exact (h.idle cr (hnot (of_decide_eq_true hholder))).2.2
      | handler port => cases hholder
  · rwa [if_neg huse]

/-! ## Steps of one CPM -/

/-- A step of one CPM, seen from all CRs. -/
theorem Sound.setCpm (h : s.Sound) {x : Cpm} {slots : Slots Holder} {content : ℕ → Frame}
    (howner : slots.OneOwner Slots.noneStale)
    (hlinked : x.bufferCpm = (slots.held (.cpm cr)).map content ∧
      x.bufferApp = (slots.held (.app cr)).map content)
    (hidle : ¬ s.Closes cr → x.state = .PF_CPM_STATE_W_START ∧
      slots.held (.cpm cr) = none ∧ slots.held (.app cr) = none)
    (hcpm : ∀ cr', cr' ≠ cr → slots.held (.cpm cr') = s.slots.held (.cpm cr'))
    (happ : ∀ cr', cr' ≠ cr → slots.held (.app cr') = s.slots.held (.app cr'))
    (hcontent : ∀ holder b, s.slots.held holder = some b → content b = s.content b) :
    ({ s with net := s.net.setCpm cr x, slots, content } : Stack).Sound := by
  have hmap (holder : Holder) : (s.slots.held holder).map content =
      (s.slots.held holder).map s.content := by
    cases hb : s.slots.held holder with
    | none => rfl
    | some b => exact congrArg some (hcontent holder b hb)
  have hcloses (cr' : Cr) :
      ({ s with net := s.net.setCpm cr x, slots, content } : Stack).Closes cr' ↔ s.Closes cr' := by
    unfold Closes
    rw [setCpm_iocrType]
    exact Iff.rfl
  refine ⟨howner, ?_, ?_⟩
  · intro cr'
    by_cases hcr : cr' = cr
    · rw [hcr, Net.setCpm_same]
      exact hlinked
    · rw [Net.setCpm_other _ hcr]
      show _ = (slots.held (.cpm cr')).map content ∧ _ = (slots.held (.app cr')).map content
      rw [hcpm cr' hcr, happ cr' hcr, hmap, hmap]
      exact h.linked cr'
  · intro cr' hnot
    rw [hcloses] at hnot
    by_cases hcr : cr' = cr
    · rw [hcr, Net.setCpm_same]
      rw [hcr] at hnot
      exact hidle hnot
    · rw [Net.setCpm_other _ hcr]
      show _ ∧ slots.held (.cpm cr') = none ∧ slots.held (.app cr') = none
      rw [hcpm cr' hcr, happ cr' hcr]
      exact h.idle cr' hnot

/-- The source's conditions for `pf_cpm_put_buf` are those of an accepted frame. -/
theorem putBuf_iff (x : Cpm) (f : Frame) (frameIdPos : BitVec 16) :
    (x.state ≠ .PF_CPM_STATE_W_START ∧ Cpm.dataValid f = true ∧ x.dhtReload f frameIdPos ∧
      x.updateData f frameIdPos) ↔ Accepts x f frameIdPos := by
  unfold Accepts
  refine and_congr_right fun _ => and_congr_right fun hvalid => ?_
  rw [Cpm.dhtReload_eq _ _ hvalid, Cpm.updateData_eq _ _ hvalid, and_self, Bool.and_eq_true]

theorem cDataInd_sound (h : s.Sound) (port : ℕ) (cr : Cr) (f : Frame) (frameIdPos : BitVec 16) :
    (s.cDataInd port cr f frameIdPos).Sound := by
  unfold cDataInd
  by_cases hbusy : (s.slots.held (.handler port)).isSome = true
  · rwa [if_pos hbusy]
  · rw [if_neg hbusy]
    rw [Option.not_isSome_iff_eq_none] at hbusy
    have hput := h.owner.put rfl hbusy
    -- the buffers that were there keep their contents
    have hcontent (holder : Holder) (b : ℕ) (hb : s.slots.held holder = some b) :
        Function.update s.content s.slots.issued f b = s.content b :=
      Function.update_of_ne (Nat.ne_of_lt (h.owner.live holder b rfl hb).1) _ _
    have hcpm (cr' : Cr) : (s.slots.put (.handler port)).held (.cpm cr') =
        s.slots.held (.cpm cr') := Slots.put_other _ nofun
    have happ (cr' : Cr) : (s.slots.put (.handler port)).held (.app cr') =
        s.slots.held (.app cr') := Slots.put_other _ nofun
    have hmap (holder : Holder) :
        (s.slots.held holder).map (Function.update s.content s.slots.issued f) =
          (s.slots.held holder).map s.content := by
      cases hb : s.slots.held holder with
      | none => rfl
      | some b => exact congrArg some (hcontent holder b hb)
    dsimp only
    rw [if_congr (putBuf_iff _ f frameIdPos) rfl rfl]
    by_cases haccepts : Accepts (s.net.iocr cr).cpm f frameIdPos
    · rw [if_pos haccepts, (Cpm.cDataInd_eq _ f frameIdPos).1 haccepts]
      have hself : ((s.slots.put (.handler port)).swap (.cpm cr) (.handler port)).held (.cpm cr) =
          some s.slots.issued := by
        rw [Slots.swap_held, if_neg nofun, if_pos rfl, Slots.put_self]
      have hother (holder : Holder) (hc : holder ≠ Holder.cpm cr)
          (hp : holder ≠ Holder.handler port) :
          ((s.slots.put (.handler port)).swap (.cpm cr) (.handler port)).held holder =
            s.slots.held holder := by
        rw [Slots.swap_held, if_neg hp, if_neg hc, Slots.put_other _ hp]
      refine h.setCpm (hput.swap rfl rfl) ⟨?_, ?_⟩ ?_ ?_ ?_ hcontent
      · rw [hself, Option.map_some, Function.update_self]
        rfl
      · rw [hother (.app cr) nofun nofun, hmap]
        exact (h.linked cr).2
      · exact fun hnot => absurd (h.started haccepts.1) hnot
      · exact fun cr' hcr => hother _ (fun heq => hcr (Holder.cpm.inj heq)) nofun
      · exact fun cr' _ => hother (.app cr') nofun nofun
    · rw [if_neg haccepts]
      rcases (Cpm.cDataInd_eq _ f frameIdPos).2 haccepts with ⟨errcnt, hx⟩
      rw [hx]
      refine h.setCpm hput ⟨?_, ?_⟩ ?_ (fun cr' _ => hcpm cr') (fun cr' _ => happ cr') hcontent
      · rw [hcpm, hmap]
        exact (h.linked cr).1
      · rw [happ, hmap]
        exact (h.linked cr).2
      · intro hnot
        rw [hcpm, happ]
        exact h.idle cr hnot

theorem freeBuf_sound (h : s.Sound) (port : ℕ) : (s.freeBuf port).Sound := by
  have hother (holder : Holder) (hne : holder ≠ Holder.handler port) :
      (s.freeBuf port).slots.held holder = s.slots.held holder := by
    show (if decide (holder = Holder.handler port) = true then none else s.slots.held holder) = _
    rw [if_neg (by rw [decide_eq_true_iff]; exact hne)]
  have hcpm (cr : Cr) := hother (.cpm cr) nofun
  have happ (cr : Cr) := hother (.app cr) nofun
  refine ⟨?_, ?_, ?_⟩
  · refine (h.owner.giveBack rfl).clear ?_ ?_
    · intro holder hstale
      exact .inl hstale
    · intro holder hstale hd
      rcases hd with hd | hd
      · unfold Slots.alsoStale at hstale
        rw [hd] at hstale
        cases hstale
      · cases hd
  · intro cr
    rw [hcpm, happ]
    exact h.linked cr
  · intro cr hnot
    rw [hcpm, happ]
    exact h.idle cr hnot

/-! ## Readings and expiries -/

theorem getBuf_sound (h : s.Sound) (cr : Cr) : (s.getBuf cr).Sound := by
  unfold getBuf Cpm.getBuf
  by_cases hnew : (s.net.iocr cr).cpm.newBuf = true
  · rw [if_pos hnew, if_pos hnew]
    have happ : (s.slots.swap (.app cr) (.cpm cr)).held (.app cr) = s.slots.held (.cpm cr) := by
      rw [Slots.swap_held, if_neg nofun, if_pos rfl]
    have hcpm : (s.slots.swap (.app cr) (.cpm cr)).held (.cpm cr) = s.slots.held (.app cr) := by
      rw [Slots.swap_held, if_pos rfl]
    refine h.setCpm (h.owner.swap rfl rfl) ⟨?_, ?_⟩ ?_ ?_ ?_ fun _ _ _ => rfl
    · rw [hcpm]
      exact (h.linked cr).2
    · rw [happ]
      exact (h.linked cr).1
    · intro hnot
      rw [hcpm, happ]
      exact ⟨(h.idle cr hnot).1, (h.idle cr hnot).2.2, (h.idle cr hnot).2.1⟩
    · intro cr' hcr
      rw [Slots.swap_held, if_neg (fun heq => hcr (Holder.cpm.inj heq)), if_neg nofun]
    · intro cr' hcr
      rw [Slots.swap_held, if_neg nofun, if_neg (fun heq => hcr (Holder.app.inj heq))]
  · rw [if_neg hnew, if_neg hnew]
    exact h.setCpm h.owner (h.linked cr) (h.idle cr) (fun _ _ => rfl) (fun _ _ => rfl)
      fun _ _ _ => rfl

theorem controlIntervalExpired_sound (h : s.Sound) (cr : Cr) :
    ({ s with net := s.net.setCpm cr (s.net.iocr cr).cpm.controlIntervalExpired } :
      Stack).Sound := by
  have hx : (s.net.iocr cr).cpm.controlIntervalExpired.bufferCpm = (s.net.iocr cr).cpm.bufferCpm ∧
      (s.net.iocr cr).cpm.controlIntervalExpired.bufferApp = (s.net.iocr cr).cpm.bufferApp ∧
      ((s.net.iocr cr).cpm.state = CpmState.PF_CPM_STATE_W_START →
        (s.net.iocr cr).cpm.controlIntervalExpired.state = CpmState.PF_CPM_STATE_W_START) := by
    unfold Cpm.controlIntervalExpired
    by_cases hrunning : (s.net.iocr cr).cpm.ciRunning = true
    · rw [if_pos hrunning]
      cases hstate : (s.net.iocr cr).cpm.state with
      | PF_CPM_STATE_W_START => exact ⟨rfl, rfl, fun _ => hstate⟩
      | PF_CPM_STATE_FRUN => exact ⟨rfl, rfl, nofun⟩
      | PF_CPM_STATE_RUN =>
        dsimp only
        by_cases hdht : (s.net.iocr cr).cpm.dataHoldFactor ≤ (s.net.iocr cr).cpm.dht
        · rw [if_pos hdht]
          exact ⟨rfl, rfl, fun _ => rfl⟩
        · rw [if_neg hdht]
          exact ⟨rfl, rfl, nofun⟩
    · rw [if_neg hrunning]
      exact ⟨rfl, rfl, id⟩
  refine h.setCpm h.owner ?_ ?_ (fun _ _ => rfl) (fun _ _ => rfl) fun _ _ _ => rfl
  · rw [hx.1, hx.2.1]
    exact h.linked cr
  · exact fun hnot => ⟨hx.2.2 (h.idle cr hnot).1, (h.idle cr hnot).2⟩

theorem step_sound (h : s.Sound) (e : BufferStep) : (bufferStep s e).Sound := by
  cases e with
  | connect ar crs outcome => exact connect_sound h ar crs outcome
  | abort ar => exact abort_sound h ar
  | frame port cr f frameIdPos => exact cDataInd_sound h port cr f frameIdPos
  | freeBuf port => exact freeBuf_sound h port
  | getDataAndIops loc dataLen iopsLen =>
    show ((dataSource s.net loc dataLen iopsLen).elim s s.getBuf).Sound
    cases dataSource s.net loc dataLen iopsLen with
    | none => exact h
    | some cr => exact getBuf_sound h cr
  | getIocs loc iocsLen =>
    show ((iocsSource s.net loc iocsLen).elim s s.getBuf).Sound
    cases iocsSource s.net loc iocsLen with
    | none => exact h
    | some cr => exact getBuf_sound h cr
  | controlInterval cr => exact controlIntervalExpired_sound h cr
  | setOwner loc ar => exact ⟨h.owner, h.linked, h.idle⟩

theorem run_sound (h : s.Sound) (steps : List BufferStep) : (steps.foldl bufferStep s).Sound := by
  induction steps generalizing s with
  | nil => exact h
  | cons e steps ih => exact ih (step_sound h e)

end

end Stack

/-! ## The result -/

end PNet.Cyclic
