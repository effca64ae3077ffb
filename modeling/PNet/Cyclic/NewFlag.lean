import PNet.Cyclic.Cpm
import PNet.Lib.SinceLast

/-! # The flag for new data

* `newFlag_iff`: a reader is told that there is new data when a frame has been accepted since
  the last successful reading of any kind, of any subslot of the CR.
* `newFlag_not_per_subslot`: the flag is not kept for each subslot.
-/

namespace PNet.Cyclic

/-! ## Runs -/

inductive Step where
  | activateReq (cr : Cr) (a : Cpm.Activation)
  /-- A cyclic frame for the CR arrives. -/
  | frame (cr : Cr) (f : Frame) (frameIdPos : BitVec 16)
  | getDataAndIops (loc : Location) (newFlag : Bool) (dataLen iopsLen : ℕ)
  | getIocs (loc : Location) (iocsLen : ℕ)
  /-- The control interval of the CR expires. -/
  | controlInterval (cr : Cr)
  | closeReq (cr : Cr)
  /-- The subslot gets another owner. -/
  | setOwner (loc : Location) (ar : Option ℕ)

/-- What matters for the flag of a CR. -/
inductive Event where
  | accepted (cr : Cr)
  | gotData (cr : Cr) (loc : Location) (newFlag : Bool)
  | gotIocs (cr : Cr) (loc : Location)
deriving DecidableEq, Repr

/-- A frame that the CPM takes over. -/
def Accepts (x : Cpm) (f : Frame) (frameIdPos : BitVec 16) : Prop :=
  x.state ≠ .PF_CPM_STATE_W_START ∧ Cpm.dataValid f = true ∧
    x.frameStructure f frameIdPos = true ∧ x.cSduStructure f = true

instance (x : Cpm) (f : Frame) (frameIdPos : BitVec 16) : Decidable (Accepts x f frameIdPos) :=
  inferInstanceAs (Decidable (_ ∧ _ ∧ _ ∧ _))

/-- The CR a successful reading is about. -/
def crOf (net : Net) (loc : Location) (ret : ℤ) : Option Cr :=
  if ret = 0 then (net.getArIocrDesc loc).map Prod.fst else none

def step (net : Net) : Step → Net × List Event
  | .activateReq cr a => (net.setCpm cr ((net.iocr cr).cpm.activateReq a), [])
  | .frame cr f frameIdPos =>
    (net.setCpm cr ((net.iocr cr).cpm.cDataInd f frameIdPos),
      if Accepts (net.iocr cr).cpm f frameIdPos then [.accepted cr] else [])
  | .getDataAndIops loc newFlag dataLen iopsLen =>
    let (r, net') := net.getDataAndIops loc newFlag dataLen iopsLen
    (net', ((crOf net loc r.ret).map fun cr => Event.gotData cr loc r.newFlag).toList)
  | .getIocs loc iocsLen =>
    let (r, net') := net.getIocs loc iocsLen
    (net', ((crOf net loc r.ret).map fun cr => Event.gotIocs cr loc).toList)
  | .controlInterval cr => (net.setCpm cr (net.iocr cr).cpm.controlIntervalExpired, [])
  | .closeReq cr => (net.setCpm cr (net.iocr cr).cpm.closeReq, [])
  | .setOwner loc ar => ({ net with subslotAr := Function.update net.subslotAr loc ar }, [])

def run (net : Net) : List Step → Net × List Event
  | [] => (net, [])
  | s :: steps =>
    let (net, evs) := step net s
    let (net, evs') := run net steps
    (net, evs ++ evs')

/-- The ARs have been allocated: no CR has received anything. -/
def Net.cleared (net : Net) : Net :=
  { net with iocr := fun cr =>
      { net.iocr cr with cpm :=
        { (net.iocr cr).cpm with bufferApp := none, bufferCpm := none, newBuf := false } } }

/-! ## The law of the flag -/

def IsAccepted (cr : Cr) (e : Event) : Prop := e = .accepted cr

/-- A successful reading of any kind, of any subslot of the CR. -/
def IsReading (cr : Cr) : Event → Prop
  | .accepted _ => False
  | .gotData cr' _ _ => cr' = cr
  | .gotIocs cr' _ => cr' = cr

/-- A successful reading of the data of this subslot. -/
def IsReadingOf (cr : Cr) (loc : Location) : Event → Prop
  | .gotData cr' loc' _ => cr' = cr ∧ loc' = loc
  | _ => False

/-- In the history `evs`, the flag of the CR tells whether a frame has been accepted since
`readings loc`, for a reading of the subslot `loc`. -/
def FlagTells (cr : Cr) (readings : Location → Event → Prop) (evs : List Event) : Prop :=
  ∀ before loc newFlag after, evs = before ++ .gotData cr loc newFlag :: after →
    (newFlag = true ↔ SinceLast (IsAccepted cr) (readings loc) before)

theorem FlagTells.nil {cr : Cr} {readings : Location → Event → Prop} :
    FlagTells cr readings [] := by
  intro before loc newFlag after h
  cases before <;> cases h

theorem FlagTells.concat {cr : Cr} {readings : Location → Event → Prop} {evs : List Event}
    {e : Event} (h : FlagTells cr readings evs)
    (he : ∀ loc newFlag, e = .gotData cr loc newFlag →
      (newFlag = true ↔ SinceLast (IsAccepted cr) (readings loc) evs)) :
    FlagTells cr readings (evs ++ [e]) := by
  intro before loc newFlag after heq
  rcases List.eq_nil_or_concat after with rfl | ⟨after, z, rfl⟩
  · rcases List.append_inj' heq rfl with ⟨rfl, hlast⟩
    cases hlast
    exact he loc newFlag rfl
  · rw [List.concat_eq_append, ← List.cons_append, ← List.append_assoc] at heq
    exact h before loc newFlag after (List.append_inj' heq rfl).1

/-! ## What one step does -/

namespace Cpm

/-- With valid data, the two conditions of the source are one. -/
theorem dhtReload_eq (x : Cpm) {f : Frame} (frameIdPos : BitVec 16) (hv : dataValid f = true) :
    x.dhtReload f frameIdPos = (x.frameStructure f frameIdPos && x.cSduStructure f) := by
  rw [dhtReload, hv, Bool.true_or, Bool.and_true]

theorem updateData_eq (x : Cpm) {f : Frame} (frameIdPos : BitVec 16) (hv : dataValid f = true) :
    x.updateData f frameIdPos = (x.frameStructure f frameIdPos && x.cSduStructure f) := by
  have hps : (primary f || backup f) = true := by
    rw [primary, backup, Bool.or_eq_true, decide_eq_true_iff, decide_eq_true_iff]
    exact (Decidable.em _).symm
  rw [updateData, hv, hps, Bool.and_true, Bool.and_true]

/-- A frame is taken over. -/
def taken (x : Cpm) (f : Frame) (frameIdPos : BitVec 16) : Cpm :=
  { x.putBuf f with
    recvCnt := x.recvCnt + 1
    frameIdPos
    bufferPos := frameIdPos + 2
    dht := 0
    cycle := (trailer f).cycle.toNat
    dataStatus := (trailer f).dataStatus
    state := .PF_CPM_STATE_RUN }

/-- A frame is taken over, or it is only counted. -/
theorem cDataInd_eq (x : Cpm) (f : Frame) (frameIdPos : BitVec 16) :
    (Accepts x f frameIdPos → x.cDataInd f frameIdPos = x.taken f frameIdPos) ∧
    (¬ Accepts x f frameIdPos →
      ∃ errcnt, x.cDataInd f frameIdPos = { x with recvCnt := x.recvCnt + 1, errcnt }) := by
  rw [cDataInd, Accepts]
  simp only
  -- counting the frame changes no check
  have hframe : ∀ s, frameStructure { x with state := s, recvCnt := x.recvCnt + 1 } f frameIdPos =
      x.frameStructure f frameIdPos := fun _ => rfl
  have hcSdu : ∀ s, cSduStructure { x with state := s, recvCnt := x.recvCnt + 1 } f =
      x.cSduStructure f := fun _ => rfl
  split
  · next hstate => exact ⟨fun h => absurd hstate h.1, fun _ => ⟨x.errcnt + 1, rfl⟩⟩
  all_goals
    next hstate =>
    rw [hstate]
    by_cases hv : dataValid f = true
    · rw [if_neg (by rw [hv]; decide), dhtReload_eq _ _ hv, updateData_eq _ _ hv, hframe, hcSdu]
      by_cases hboth : (x.frameStructure f frameIdPos && x.cSduStructure f) = true
      · rw [if_pos hboth, if_pos hboth]
        rw [Bool.and_eq_true] at hboth
        exact ⟨fun _ => rfl, fun hnot => absurd ⟨by decide, hv, hboth⟩ hnot⟩
      · rw [if_neg hboth]
        rw [Bool.and_eq_true] at hboth
        exact ⟨fun h => absurd h.2.2 hboth, fun _ => ⟨x.errcnt, rfl⟩⟩
    · rw [if_pos (Bool.eq_false_iff.mpr hv)]
      exact ⟨fun h => absurd h.2.1 hv, fun _ => ⟨x.errcnt, rfl⟩⟩

/-- The flag of the CPM is set exactly by the frames it accepts. -/
theorem cDataInd_flag (x : Cpm) (f : Frame) (frameIdPos : BitVec 16) :
    (Accepts x f frameIdPos → (x.cDataInd f frameIdPos).newBuf = true ∧
      (x.cDataInd f frameIdPos).bufferCpm.isSome) ∧
    (¬ Accepts x f frameIdPos → (x.cDataInd f frameIdPos).newBuf = x.newBuf ∧
      (x.cDataInd f frameIdPos).bufferCpm = x.bufferCpm) := by
  constructor
  · intro h
    rw [(cDataInd_eq x f frameIdPos).1 h]
    exact ⟨rfl, rfl⟩
  · intro h
    rcases (cDataInd_eq x f frameIdPos).2 h with ⟨errcnt, hx⟩
    rw [hx]
    exact ⟨rfl, rfl⟩

/-- Neither starting nor ending the control interval touches the flag. -/
theorem activateReq_flag (x : Cpm) (a : Activation) :
    (x.activateReq a).newBuf = x.newBuf ∧ (x.activateReq a).bufferCpm = x.bufferCpm := by
  rw [activateReq]
  split
  · simp only
    split <;> exact ⟨rfl, rfl⟩
  · exact ⟨rfl, rfl⟩
  · exact ⟨rfl, rfl⟩

theorem controlIntervalExpired_flag (x : Cpm) :
    x.controlIntervalExpired.newBuf = x.newBuf ∧
      x.controlIntervalExpired.bufferCpm = x.bufferCpm := by
  rw [controlIntervalExpired]
  split
  · split
    · exact ⟨rfl, rfl⟩
    · exact ⟨rfl, rfl⟩
    · split <;> exact ⟨rfl, rfl⟩
  · exact ⟨rfl, rfl⟩

/-- Fetching the buffer: the flag is handed out and cleared; without a frame it was not set. -/
theorem getBuf_flag {x : Cpm} (hbuf : x.newBuf = true → x.bufferCpm.isSome) :
    (∃ f y, x.getBuf = (x.newBuf, some f, y) ∧ y.newBuf = false) ∨
      x.getBuf = (false, none, x) ∧ x.newBuf = false := by
  rw [getBuf]
  rcases Bool.eq_false_or_eq_true x.newBuf with hnew | hnew
  · rcases Option.isSome_iff_exists.mp (hbuf hnew) with ⟨f, hf⟩
    rw [if_pos hnew, hnew, hf]
    exact Or.inl ⟨f, _, rfl, rfl⟩
  · rw [if_neg (by rw [hnew]; decide)]
    rcases happ : x.bufferApp with _ | f
    · exact Or.inr ⟨rfl, hnew⟩
    · exact Or.inl ⟨f, x, by rw [hnew], hnew⟩

end Cpm

theorem Net.setCpm_self (net : Net) (cr : Cr) : net.setCpm cr (net.iocr cr).cpm = net := by
  rw [Net.setCpm, Function.update_eq_self_iff.mpr rfl]

@[simp] theorem Net.setCpm_same (net : Net) (cr : Cr) (x : Cpm) :
    ((net.setCpm cr x).iocr cr).cpm = x := by
  simp [Net.setCpm]

theorem Net.setCpm_other {net : Net} {cr cr' : Cr} (x : Cpm) (h : cr' ≠ cr) :
    (net.setCpm cr x).iocr cr' = net.iocr cr' := by
  simp [Net.setCpm, h]

/-- A reading: it fails and changes nothing, or it is about a CR, hands out its flag (when it
reads data) and clears it. -/
def ReadsFlag (net : Net) (loc : Location) (r : Cpm.GetResult) (net' : Net) : Prop :=
  (r.ret ≠ 0 ∧ net' = net) ∨
    ∃ cr d x, net.getArIocrDesc loc = some (cr, d) ∧ r.ret = 0 ∧
      r.newFlag = (net.iocr cr).cpm.newBuf ∧ net' = net.setCpm cr x ∧ x.newBuf = false

/-- The flag of a CPM is only set with a frame. -/
def HasBuffer (net : Net) : Prop :=
  ∀ cr, (net.iocr cr).cpm.newBuf = true → (net.iocr cr).cpm.bufferCpm.isSome

theorem getDataAndIops_reads {net : Net} (hbuf : HasBuffer net) (loc : Location) (newFlag : Bool)
    (dataLen iopsLen : ℕ) :
    ReadsFlag net loc (net.getDataAndIops loc newFlag dataLen iopsLen).1
      (net.getDataAndIops loc newFlag dataLen iopsLen).2 := by
  rw [Net.getDataAndIops]
  split
  · exact Or.inl ⟨by simp, rfl⟩
  · next cr d hdesc =>
    split
    · exact Or.inl ⟨by simp, rfl⟩
    all_goals
      split
      · exact Or.inl ⟨by simp, rfl⟩
      · rw [Cpm.driverGetDataAndIops]
        rcases Cpm.getBuf_flag (hbuf cr) with ⟨f, y, hget, hy⟩ | ⟨hget, _⟩
        · rw [hget]
          exact Or.inr ⟨cr, d, y, hdesc, rfl, rfl, rfl, hy⟩
        · rw [hget]
          exact Or.inl ⟨by simp, net.setCpm_self cr⟩

theorem getIocs_reads {net : Net} (hbuf : HasBuffer net) (loc : Location) (iocsLen : ℕ) :
    ReadsFlag net loc (net.getIocs loc iocsLen).1 (net.getIocs loc iocsLen).2 := by
  rw [Net.getIocs]
  split
  · exact Or.inl ⟨by simp, rfl⟩
  · next cr d hdesc =>
    split
    · exact Or.inl ⟨by simp, rfl⟩
    all_goals
      split
      · exact Or.inl ⟨by simp, rfl⟩
      · split
        · exact Or.inl ⟨by simp, rfl⟩
        · rw [Cpm.driverGetIocs]
          rcases Cpm.getBuf_flag (hbuf cr) with ⟨f, y, hget, hy⟩ | ⟨hget, _⟩
          · rw [hget]
            exact Or.inr ⟨cr, d, y, hdesc, rfl, rfl, rfl, hy⟩
          · rw [hget]
            exact Or.inl ⟨by simp, net.setCpm_self cr⟩

/-! ## Runs -/

/-- The flag of each CR after the history `evs`, and what readers have been told. -/
structure FlagInv (net : Net) (evs : List Event) : Prop where
  buffer : HasBuffer net
  flag : ∀ cr, (net.iocr cr).cpm.newBuf = true ↔
    SinceLast (IsAccepted cr) (IsReading cr) evs
  told : ∀ cr, FlagTells cr (fun _ => IsReading cr) evs

namespace FlagInv

variable {net : Net} {evs : List Event}

theorem cleared (net : Net) : FlagInv net.cleared [] where
  buffer := by
    intro cr h
    cases h
  flag := by
    intro cr
    exact iff_of_false (by simp [Net.cleared]) SinceLast.not_nil
  told := fun _ => FlagTells.nil

/-- A step of a CPM that is no event. -/
theorem silent {cr : Cr} {x : Cpm} (h : FlagInv net evs)
    (hx : x.newBuf = (net.iocr cr).cpm.newBuf ∧ x.bufferCpm = (net.iocr cr).cpm.bufferCpm) :
    FlagInv (net.setCpm cr x) evs where
  buffer := by
    intro cr' hnew
    rcases eq_or_ne cr' cr with rfl | hne
    · rw [Net.setCpm_same] at hnew ⊢
      rw [hx.2]
      exact h.buffer cr' (hx.1 ▸ hnew)
    · rw [Net.setCpm_other x hne] at hnew ⊢
      exact h.buffer cr' hnew
  flag := by
    intro cr'
    rcases eq_or_ne cr' cr with rfl | hne
    · rw [Net.setCpm_same, hx.1]
      exact h.flag cr'
    · rw [Net.setCpm_other x hne]
      exact h.flag cr'
  told := h.told

/-- A frame is accepted. -/
theorem accepted {cr : Cr} {x : Cpm} (h : FlagInv net evs)
    (hx : x.newBuf = true ∧ x.bufferCpm.isSome) :
    FlagInv (net.setCpm cr x) (evs ++ [.accepted cr]) where
  buffer := by
    intro cr' hnew
    rcases eq_or_ne cr' cr with rfl | hne
    · rw [Net.setCpm_same]
      exact hx.2
    · rw [Net.setCpm_other x hne] at hnew ⊢
      exact h.buffer cr' hnew
  flag := by
    intro cr'
    rcases eq_or_ne cr' cr with rfl | hne
    · rw [Net.setCpm_same]
      exact iff_of_true hx.1 (SinceLast.concat_of_pos rfl)
    · have hother : ¬ IsAccepted cr' (.accepted cr) := fun heq => hne (by cases heq; rfl)
      rw [Net.setCpm_other x hne, SinceLast.concat_of_neg hother, h.flag cr']
      exact (and_iff_left id).symm
  told := fun cr' => (h.told cr').concat (fun _ _ heq => by cases heq)

/-- A reading of a CR, of either kind. -/
theorem read {cr : Cr} {x : Cpm} {e : Event} (h : FlagInv net evs) (hx : x.newBuf = false)
    (hnot : ∀ cr', ¬ IsAccepted cr' e) (hcr : ∀ cr', IsReading cr' e ↔ cr = cr')
    (htold : ∀ loc newFlag, e = .gotData cr loc newFlag → newFlag = (net.iocr cr).cpm.newBuf) :
    FlagInv (net.setCpm cr x) (evs ++ [e]) where
  buffer := by
    intro cr' hnew
    rcases eq_or_ne cr' cr with rfl | hne
    · rw [Net.setCpm_same, hx] at hnew
      cases hnew
    · rw [Net.setCpm_other x hne] at hnew ⊢
      exact h.buffer cr' hnew
  flag := by
    intro cr'
    rw [SinceLast.concat_of_neg (hnot cr'), hcr cr']
    rcases eq_or_ne cr' cr with rfl | hne
    · rw [Net.setCpm_same, hx]
      exact iff_of_false (by decide) (fun hlast => hlast.2 rfl)
    · rw [Net.setCpm_other x hne, h.flag cr']
      exact (and_iff_left hne.symm).symm
  told := by
    intro cr'
    refine (h.told cr').concat fun loc newFlag heq => ?_
    have hsame : cr = cr' := (hcr cr').mp (by rw [heq]; rfl)
    subst hsame
    rw [htold loc newFlag heq]
    exact h.flag cr

/-- A call of a reader: with `event`, when it succeeds. -/
theorem reader {loc : Location} {r : Cpm.GetResult} {net' : Net} {event : Cr → Event}
    (h : FlagInv net evs) (hreads : ReadsFlag net loc r net')
    (hnot : ∀ cr cr', ¬ IsAccepted cr' (event cr))
    (hcr : ∀ cr cr', IsReading cr' (event cr) ↔ cr = cr')
    (htold : ∀ cr loc newFlag, event cr = .gotData cr loc newFlag → newFlag = r.newFlag) :
    FlagInv net' (evs ++ ((crOf net loc r.ret).map event).toList) := by
  rcases hreads with ⟨hret, rfl⟩ | ⟨cr, d, x, hdesc, hret, hflag, rfl, hx⟩
  · rw [crOf, if_neg hret]
    simpa using h
  · rw [crOf, if_pos hret, hdesc]
    refine h.read hx (hnot cr) (hcr cr) fun loc' newFlag heq => ?_
    rw [htold cr loc' newFlag heq, hflag]

theorem step (h : FlagInv net evs) (s : Step) :
    FlagInv (step net s).1 (evs ++ (step net s).2) := by
  cases s with
  | activateReq cr a =>
    rw [Cyclic.step, List.append_nil]
    exact h.silent (Cpm.activateReq_flag _ a)
  | frame cr f frameIdPos =>
    have hflag := Cpm.cDataInd_flag (net.iocr cr).cpm f frameIdPos
    rw [Cyclic.step]
    by_cases haccepts : Accepts (net.iocr cr).cpm f frameIdPos
    · rw [if_pos haccepts]
      exact h.accepted (hflag.1 haccepts)
    · rw [if_neg haccepts, List.append_nil]
      exact h.silent (hflag.2 haccepts)
  | getDataAndIops loc newFlag dataLen iopsLen =>
    refine h.reader (getDataAndIops_reads h.buffer loc newFlag dataLen iopsLen) ?_ ?_ ?_
    · intro cr cr' heq
      cases heq
    · exact fun cr cr' => Iff.rfl
    · intro cr loc' newFlag' heq
      cases heq
      rfl
  | getIocs loc iocsLen =>
    refine h.reader (getIocs_reads h.buffer loc iocsLen) ?_ ?_ ?_
    · intro cr cr' heq
      cases heq
    · exact fun cr cr' => Iff.rfl
    · intro cr loc' newFlag' heq
      cases heq
  | controlInterval cr =>
    rw [Cyclic.step, List.append_nil]
    exact h.silent (Cpm.controlIntervalExpired_flag _)
  | closeReq cr =>
    rw [Cyclic.step, List.append_nil]
    exact h.silent ⟨rfl, rfl⟩
  | setOwner loc ar =>
    rw [Cyclic.step, List.append_nil]
    exact ⟨h.buffer, h.flag, h.told⟩

theorem run (h : FlagInv net evs) (steps : List Step) :
    FlagInv (run net steps).1 (evs ++ (run net steps).2) := by
  induction steps generalizing net evs with
  | nil =>
    rw [Cyclic.run, List.append_nil]
    exact h
  | cons s steps ih =>
    rw [Cyclic.run]
    simp only [← List.append_assoc]
    exact ih (h.step s)

end FlagInv

/-- A successful reading of data is told that there is new data exactly when a frame has been
accepted since the last successful reading, of data or of the IOCS, of any subslot of the CR. -/
theorem newFlag_iff (net : Net) (steps : List Step) (cr : Cr) :
    FlagTells cr (fun _ => IsReading cr) (run net.cleared steps).2 :=
  ((FlagInv.cleared net).run steps).told cr

/-! ## One flag for all subslots -/

namespace OneFlag

def locA : Location := ⟨0, 1, 1⟩

def locB : Location := ⟨0, 2, 1⟩

/-- One CR with a byte of data and a byte of IOPS for each of two subslots. -/
def net : Net where
  subslotAr := fun loc => if loc = locA ∨ loc = locB then some 1 else none
  nbrIocrs := fun ar => if ar = 1 then 1 else 0
  iocr := fun _ =>
    { iocrType := .PF_IOCR_TYPE_OUTPUT
      dataDesc := [⟨true, locA, 0, 1, 1, 1, 4, 1⟩, ⟨true, locB, 2, 1, 3, 1, 5, 1⟩]
      cpm :=
        { state := .PF_CPM_STATE_W_START, recvCnt := 0, errcnt := 0, sa := [],
          dataHoldFactor := 0, bufferApp := none, bufferCpm := none, newBuf := false,
          frameIdPos := 0, dataStatus := 0, bufferLength := 0, bufferPos := 0, dht := 0,
          cycle := 0, ciRunning := false } }

/-- MAC address of the controller. -/
def sa : List Byte := [2, 0, 0, 0, 0, 1]

/-- Six bytes of data, cycle 1, data status 0x35. -/
def frame : Frame where
  payload := fun i =>
    ([1, 2, 3, 4, 5, 6] ++ sa ++ [0x88, 0x92, 0x80, 0, 10, 0x80, 20, 0x80, 0x80, 0x80, 0, 1,
      0x35, 0]).getD i 0
  len := 26

def steps : List Step :=
  [.activateReq (1, 0) ⟨sa, 3, 6, true⟩, .frame (1, 0) frame 14,
    .getDataAndIops locA false 1 1, .getDataAndIops locB false 1 1]

theorem run_steps : (run net.cleared steps).2 =
    [.accepted (1, 0), .gotData (1, 0) locA true, .gotData (1, 0) locB false] := by
  decide +kernel

end OneFlag

/-- A frame is there for two subslots, but only the first of their readers is told so. -/
theorem newFlag_not_per_subslot : ¬ FlagTells (1, 0) (IsReadingOf (1, 0))
    (run OneFlag.net.cleared OneFlag.steps).2 := by
  intro h
  rw [OneFlag.run_steps] at h
  have hB := h [.accepted (1, 0), .gotData (1, 0) OneFlag.locA true] OneFlag.locB false [] rfl
  refine Bool.false_ne_true (hB.mpr ⟨[], .accepted (1, 0), _, rfl, rfl, ?_⟩)
  intro e he
  rw [List.mem_singleton.mp he]
  simp [IsReadingOf, OneFlag.locA, OneFlag.locB]

end PNet.Cyclic
