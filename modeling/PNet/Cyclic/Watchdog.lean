import PNet.Cyclic.NewFlag

/-! # The watchdog of a consumer

* `dataHold_iff`: a CPM in RUN reports the data-hold timeout exactly when no frame has been accepted
  since the first of the last `data_hold_factor + 1` expiries of its control interval.
-/

namespace PNet.Cyclic

/-! ## The timeout -/

namespace Cpm

/-- `pf_cpm_control_interval_expired` stops the CPM, and reports the data-hold timeout with
`pf_cpm_state_ind`. -/
def reportsDataHold (x : Cpm) : Bool :=
  x.ciRunning && x.state = .PF_CPM_STATE_RUN && x.dataHoldFactor ≤ x.dht

end Cpm

/-- What matters for the watchdog of a CR. -/
inductive Watch where
  | accepted
  | expired
deriving DecidableEq, Repr

def watch (net : Net) (cr : Cr) : Step → Option Watch
  | .frame cr' f frameIdPos =>
    if cr' = cr ∧ Accepts (net.iocr cr).cpm f frameIdPos then some .accepted else none
  | .controlInterval cr' => if cr' = cr then some .expired else none
  | _ => none

/-- What happens in a run, oldest first. -/
def watches (net : Net) (cr : Cr) : List Step → List Watch
  | [] => []
  | s :: steps => (watch net cr s).toList ++ watches (step net s).1 cr steps

/-- No frame has been accepted since the first of the last `n` expiries. -/
def SilentFor (n : ℕ) (history : List Watch) : Prop :=
  AtLeastSince (fun w => w = .expired) (fun w => w = .accepted) n history

/-- The ARs have been allocated: no CPM has been started. -/
def Net.stopped (net : Net) : Net :=
  { net with iocr := fun cr =>
      { net.iocr cr with cpm :=
        { (net.iocr cr).cpm with state := .PF_CPM_STATE_W_START, ciRunning := false } } }

/-! ## The counter -/

/-- What the watchdog looks at is the same. -/
structure SameWatch (x y : Cpm) : Prop where
  state : y.state = x.state
  ciRunning : y.ciRunning = x.ciRunning
  dht : y.dht = x.dht

/-- The counter of a CPM after a history. -/
structure Watched (x : Cpm) (history : List Watch) : Prop where
  running : x.state ≠ .PF_CPM_STATE_W_START → x.ciRunning = true
  count : x.state = .PF_CPM_STATE_RUN → ∀ n, SilentFor n history ↔ n ≤ x.dht

section
variable {x y : Cpm} {net net' : Net} {history : List Watch} {cr : Cr}

theorem SameWatch.refl (x : Cpm) : SameWatch x x := ⟨rfl, rfl, rfl⟩

theorem Watched.same (h : Watched x history) (hs : SameWatch x y) : Watched y history := by
  refine ⟨?_, ?_⟩
  · rw [hs.state, hs.ciRunning]
    exact h.running
  · rw [hs.state, hs.dht]
    exact h.count

theorem Watched.stopped (hstate : x.state = .PF_CPM_STATE_W_START) : Watched x history := by
  refine ⟨fun hne => absurd hstate hne, fun hrun => ?_⟩
  rw [hstate] at hrun
  cases hrun

theorem activateReq_watched (h : Watched x history) (a : Cpm.Activation) :
    Watched (x.activateReq a) history := by
  unfold Cpm.activateReq
  cases hstate : x.state with
  | PF_CPM_STATE_W_START =>
    dsimp only
    by_cases hstarted : a.started = true
    · rw [if_pos hstarted]
      refine ⟨fun _ => rfl, fun hrun => ?_⟩
      cases hrun
    · rw [if_neg hstarted]
      exact .stopped rfl
  | PF_CPM_STATE_FRUN => exact h
  | PF_CPM_STATE_RUN => exact h

/-- Only accepted frames reach the counter. -/
theorem cDataInd_watch (x : Cpm) (f : Frame) (frameIdPos : BitVec 16) :
    (Accepts x f frameIdPos → (x.cDataInd f frameIdPos).state = .PF_CPM_STATE_RUN ∧
      (x.cDataInd f frameIdPos).ciRunning = x.ciRunning ∧ (x.cDataInd f frameIdPos).dht = 0) ∧
    (¬ Accepts x f frameIdPos → SameWatch x (x.cDataInd f frameIdPos)) := by
  constructor
  · intro h
    rw [(Cpm.cDataInd_eq x f frameIdPos).1 h]
    exact ⟨rfl, rfl, rfl⟩
  · intro h
    rcases (Cpm.cDataInd_eq x f frameIdPos).2 h with ⟨errcnt, hx⟩
    rw [hx]
    exact ⟨rfl, rfl, rfl⟩

theorem Watched.accepted (h : Watched x history) {f : Frame} {frameIdPos : BitVec 16}
    (haccepts : Accepts x f frameIdPos) :
    Watched (x.cDataInd f frameIdPos) (history ++ [.accepted]) := by
  rcases (cDataInd_watch x f frameIdPos).1 haccepts with ⟨-, hrunning, hdht⟩
  refine ⟨fun _ => ?_, fun _ n => ?_⟩
  · rw [hrunning]
    exact h.running haccepts.1
  · rw [hdht]
    exact AtLeastSince.concat_of_reset rfl

/-- The control interval expires: in RUN the counter goes up, or the CPM stops. -/
theorem Watched.expired (h : Watched x history) :
    Watched x.controlIntervalExpired (history ++ [.expired]) := by
  unfold Cpm.controlIntervalExpired
  by_cases hrunning : x.ciRunning = true
  · rw [if_pos hrunning]
    cases hstate : x.state with
    | PF_CPM_STATE_W_START => exact .stopped hstate
    | PF_CPM_STATE_FRUN =>
      refine ⟨fun _ => hrunning, fun hrun => ?_⟩
      rw [hstate] at hrun
      cases hrun
    | PF_CPM_STATE_RUN =>
      dsimp only
      by_cases hdht : x.dataHoldFactor ≤ x.dht
      · rw [if_pos hdht]
        exact .stopped rfl
      · rw [if_neg hdht]
        refine ⟨fun _ => hrunning, fun _ n => ?_⟩
        cases n with
        | zero => exact iff_of_true (AtLeastSince.zero _) (Nat.zero_le _)
        | succ n =>
          exact (AtLeastSince.concat_succ (by decide) (by decide)).trans
            ((h.count hstate n).trans Nat.succ_le_succ_iff.symm)
  · rw [if_neg hrunning]
    exact .stopped (Decidable.not_not.mp fun hne => hrunning (h.running hne))

/-! ## Reading -/

theorem getBuf_watch (x : Cpm) : SameWatch x x.getBuf.2.2 := by
  unfold Cpm.getBuf
  by_cases hnew : x.newBuf = true
  · rw [if_pos hnew]
    exact ⟨rfl, rfl, rfl⟩
  · rw [if_neg hnew]
    exact .refl x

theorem driverGetDataAndIops_snd (x : Cpm) (d : IodataObject) :
    (x.driverGetDataAndIops d).2 = x.getBuf.2.2 := by
  rw [Cpm.driverGetDataAndIops]
  rcases x.getBuf with ⟨newFlag, buffer, y⟩
  cases buffer <;> rfl

theorem driverGetIocs_snd (x : Cpm) (d : IodataObject) :
    (x.driverGetIocs d).2 = x.getBuf.2.2 := by
  rw [Cpm.driverGetIocs]
  rcases x.getBuf with ⟨newFlag, buffer, y⟩
  cases buffer <;> rfl

/-- A reading swaps the buffers of a CPM, or nothing happens. -/
theorem getDataAndIops_cpm (net : Net) (loc : Location) (newFlag : Bool) (dataLen iopsLen : ℕ) :
    (net.getDataAndIops loc newFlag dataLen iopsLen).2 = net ∨
      ∃ cr, (net.getDataAndIops loc newFlag dataLen iopsLen).2 =
        net.setCpm cr (net.iocr cr).cpm.getBuf.2.2 := by
  rw [Net.getDataAndIops]
  split
  · exact .inl rfl
  · next cr d _ =>
    split
    · exact .inl rfl
    all_goals
      split
      · exact .inl rfl
      · exact .inr ⟨cr, by rw [← driverGetDataAndIops_snd _ d]⟩

theorem getIocs_cpm (net : Net) (loc : Location) (iocsLen : ℕ) :
    (net.getIocs loc iocsLen).2 = net ∨
      ∃ cr, (net.getIocs loc iocsLen).2 = net.setCpm cr (net.iocr cr).cpm.getBuf.2.2 := by
  rw [Net.getIocs]
  split
  · exact .inl rfl
  · next cr d _ =>
    split
    · exact .inl rfl
    all_goals
      split
      · exact .inl rfl
      · split
        · exact .inl rfl
        · exact .inr ⟨cr, by rw [← driverGetIocs_snd _ d]⟩

/-! ## Runs -/

/-- A step that changes the CPM of one CR. -/
theorem setCpm_watched {cr' : Cr} (h : Watched (net.iocr cr).cpm history)
    (hself : cr' = cr → Watched x history) : Watched ((net.setCpm cr' x).iocr cr).cpm history := by
  by_cases hcr : cr' = cr
  · rw [hcr, Net.setCpm_same]
    exact hself hcr
  · rw [Net.setCpm_other x (Ne.symm hcr)]
    exact h

theorem step_watched (h : Watched (net.iocr cr).cpm history) (s : Step) :
    Watched ((step net s).1.iocr cr).cpm (history ++ (watch net cr s).toList) := by
  have hreading (net' : Net) (hnet' : net' = net ∨
      ∃ cr', net' = net.setCpm cr' (net.iocr cr').cpm.getBuf.2.2) :
      Watched (net'.iocr cr).cpm history := by
    rcases hnet' with rfl | ⟨cr', rfl⟩
    · exact h
    · refine setCpm_watched h fun hcr => ?_
      rw [hcr]
      exact h.same (getBuf_watch _)
  cases s with
  | activateReq cr' a =>
    change Watched _ (history ++ [])
    rw [List.append_nil]
    exact setCpm_watched h fun hcr => hcr ▸ activateReq_watched h a
  | frame cr' f frameIdPos =>
    rw [watch]
    by_cases haccepts : cr' = cr ∧ Accepts (net.iocr cr).cpm f frameIdPos
    · rw [if_pos haccepts, step]
      rcases haccepts with ⟨rfl, haccepts⟩
      rw [Net.setCpm_same]
      exact h.accepted haccepts
    · rw [if_neg haccepts, Option.toList_none, List.append_nil]
      refine setCpm_watched h ?_
      rintro rfl
      exact h.same ((cDataInd_watch _ f frameIdPos).2 fun ha => haccepts ⟨rfl, ha⟩)
  | getDataAndIops loc newFlag dataLen iopsLen =>
    change Watched _ (history ++ [])
    rw [List.append_nil]
    exact hreading _ (getDataAndIops_cpm net loc newFlag dataLen iopsLen)
  | getIocs loc iocsLen =>
    change Watched _ (history ++ [])
    rw [List.append_nil]
    exact hreading _ (getIocs_cpm net loc iocsLen)
  | controlInterval cr' =>
    rw [watch]
    by_cases hcr : cr' = cr
    · rw [if_pos hcr, step, hcr, Net.setCpm_same]
      exact h.expired
    · rw [if_neg hcr, Option.toList_none, List.append_nil]
      exact setCpm_watched h fun heq => absurd heq hcr
  | closeReq cr' =>
    change Watched _ (history ++ [])
    rw [List.append_nil]
    exact setCpm_watched h fun _ => .stopped rfl
  | setOwner loc ar =>
    change Watched _ (history ++ [])
    rw [List.append_nil]
    exact h

theorem run_watched (h : Watched (net.iocr cr).cpm history) (steps : List Step) :
    Watched ((run net steps).1.iocr cr).cpm (history ++ watches net cr steps) := by
  induction steps generalizing net history with
  | nil =>
    rw [watches, List.append_nil]
    exact h
  | cons s steps ih =>
    rw [watches, ← List.append_assoc]
    exact ih (step_watched h s)

end

/-- A CPM in RUN reports the data-hold timeout at an expiry, and stops, exactly when no frame has
been accepted since the first of the last `data_hold_factor + 1` expiries, of which this one is the
last; otherwise it stays in RUN. -/
theorem dataHold_iff (net : Net) (steps : List Step) (cr : Cr) :
    let x := ((run net.stopped steps).1.iocr cr).cpm
    x.state = .PF_CPM_STATE_RUN →
      (x.reportsDataHold = true ↔
        SilentFor (x.dataHoldFactor + 1) (watches net.stopped cr steps ++ [.expired])) ∧
      (x.reportsDataHold = true → x.controlIntervalExpired.state = .PF_CPM_STATE_W_START ∧
        x.controlIntervalExpired.ciRunning = false) ∧
      (x.reportsDataHold = false → x.controlIntervalExpired.state = .PF_CPM_STATE_RUN ∧
        x.controlIntervalExpired.ciRunning = true) := by
  intro x hstate
  have h : Watched x ([] ++ watches net.stopped cr steps) :=
    run_watched (.stopped rfl) steps
  rw [List.nil_append] at h
  have hrunning : x.ciRunning = true := h.running (by rw [hstate]; decide)
  have hreports : x.reportsDataHold = decide (x.dataHoldFactor ≤ x.dht) := by
    rw [Cpm.reportsDataHold, hrunning, hstate]
    rfl
  rw [hreports]
  refine ⟨?_, ?_, ?_⟩
  · rw [decide_eq_true_iff]
    exact (h.count hstate _).symm.trans
      (AtLeastSince.concat_succ (by decide) (by decide)).symm
  · intro hdht
    unfold Cpm.controlIntervalExpired
    rw [if_pos hrunning, hstate]
    dsimp only
    rw [if_pos (of_decide_eq_true hdht)]
    exact ⟨rfl, rfl⟩
  · intro hdht
    unfold Cpm.controlIntervalExpired
    rw [if_pos hrunning, hstate]
    dsimp only
    rw [if_neg (of_decide_eq_false hdht)]
    exact ⟨rfl, hrunning⟩

/-- With a data hold factor of 3, the fourth expiry after the last accepted frame is reported. -/
theorem dataHold_iff_three :
    let steps := OneFlag.steps ++ List.replicate 3 (.controlInterval (1, 0))
    ((run OneFlag.net.stopped steps).1.iocr (1, 0)).cpm.reportsDataHold = true ∧
      SilentFor 4 (watches OneFlag.net.stopped (1, 0) steps ++ [.expired]) := by
  intro steps
  have hreports : ((run OneFlag.net.stopped steps).1.iocr (1, 0)).cpm.reportsDataHold = true := by
    decide +kernel
  have hfactor : ((run OneFlag.net.stopped steps).1.iocr (1, 0)).cpm.dataHoldFactor = 3 := by
    decide +kernel
  have hlaw := (dataHold_iff OneFlag.net steps (1, 0) (by decide +kernel)).1.mp hreports
  rw [hfactor] at hlaw
  exact ⟨hreports, hlaw⟩

end PNet.Cyclic
