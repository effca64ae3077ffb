import PNet.Pdport.PeerCheck

/-! # LLDP transmission and the adjust record

The adjust record of a port may forbid that LLDP frames are sent. A timer of the port sends them,
and starts itself again. What writes the record starts or stops the timer, and so do a connect, a
DCP request and the start of the stack. `pf_pdport_reset_all` clears the records of all ports
without a look at the timers. This is the stack as far as these timers and records are concerned, in
runs of all of that, of calls that other users make of the scheduler, and of rounds of its tick, in
any order.

* `Restarted`: what an operation does that brings some ports in line with their records
* `followsAdjust_iff`: the timers follow the records, all the time, in exactly the runs in which no
  record that forbids sending is cleared without a restart
-/

namespace PNet.Pdport

open Scheduler

/-! ## The timers -/

/-- The handle `lldp.tx_timeout` of a port. The other users have the handles in between. -/
def txTimeout (port : ℕ) : ℕ := 4 * port + 2

/-- The address of the text `"lldp_tx"`. -/
def lldpTxName : Name := 3

/-- The address of `pf_lldp_trigger_sending`. -/
def triggerSendingCb : ℕ := 2

theorem txTimeout_inj (i j : ℕ) (h : txTimeout i = txTimeout j) : i = j := by
  unfold txTimeout at h
  omega

def txComponent : Component := ⟨txTimeout, txTimeout_inj, lldpTxName, triggerSendingCb⟩

def txTimers : Family Unit where
  comp _ := txComponent
  handle_ne k k' _ _ h := Lldp.unit_eq k k' h
  name_ne k k' h := Lldp.unit_eq k k' h
  cb_ne k k' h := Lldp.unit_eq k k' h
  name_pos _ := nofun

/-- `PF_LLDP_SEND_INTERVAL * 1000`. -/
def PF_LLDP_SEND_INTERVAL_US : Time := 5 * 1000 * 1000

/-! ## The state -/

structure Transmission where
  sched : St
  records : PdRecords
  /-- A timer could not be allocated. -/
  refused : Bool

namespace Transmission

variable (st : Transmission)

def IsValid (port : ℕ) : Prop := 1 ≤ port ∧ port ≤ st.records.numberOfPorts

instance (port : ℕ) : Decidable (st.IsValid port) := inferInstanceAs (Decidable (_ ∧ _))

/-- With the answer of `pf_scheduler_add`. -/
def scheduled (r : ℤ × St) : Transmission :=
  { st with sched := r.2, refused := st.refused || decide (r.1 ≠ 0) }

/-- `pf_lldp_trigger_sending`, less the frame. -/
def triggerSending (port : ℕ) (now : Time) : Option Transmission :=
  (pfSchedulerAdd st.sched PF_LLDP_SEND_INTERVAL_US (txTimers.job () port) (txTimeout port) now).map
    st.scheduled

/-- `pf_lldp_send_enable` with `pf_lldp_tx_restart`, less the frame. -/
def sendEnable (port : ℕ) (now : Time) : Option Transmission :=
  (pfSchedulerRestart st.sched PF_LLDP_SEND_INTERVAL_US (txTimers.job () port) (txTimeout port)
    now).map st.scheduled

/-- `pf_lldp_send_disable`. -/
def sendDisable (port : ℕ) : Option Transmission :=
  (pfSchedulerRemoveIfRunning st.sched (txTimeout port)).map fun sched => { st with sched }

/-- What is done for a port with an active record. -/
def followBoundary (port : ℕ) (now : Time) : Option Transmission :=
  if (st.records.port port).peerToPeerBoundary.doNotSendLldpFrames then st.sendDisable port
  else st.sendEnable port now

/-- What is done for a port with or without one. -/
def restartPort (port : ℕ) (now : Time) : Option Transmission :=
  if (st.records.port port).adjustActive then st.followBoundary port now
  else st.sendEnable port now

/-- The loop over the first `n` ports. -/
def forPorts (body : Transmission → ℕ → Option Transmission) : ℕ → Transmission →
    Option Transmission
  | 0, st => some st
  | n + 1, st => (forPorts body n st).bind fun st => body st (n + 1)

/-- `pf_pdport_lldp_restart_transmission`. -/
def lldpRestartTransmission (clock : ℕ → Time) : Option Transmission :=
  forPorts (fun st port => st.restartPort port (clock port)) st.records.numberOfPorts st

/-- `pf_pdport_ar_connect_ind`. -/
def arConnectInd (clock : ℕ → Time) : Option Transmission :=
  forPorts (fun st port =>
    if (st.records.port port).adjustActive then st.followBoundary port (clock port) else some st)
    st.records.numberOfPorts st

/-- `pf_pdport_reset_all`, less the diagnoses. -/
def resetAll : Transmission :=
  { st with records := { st.records with
    port := fun port =>
      if 1 ≤ port ∧ port ≤ st.records.numberOfPorts then .zero else st.records.port port
    saveJob := true } }

/-- What `pf_cmina_set_default_cfg` does with a reset mode. -/
def setDefaultCfg (resetMode : BitVec 16) : Transmission :=
  if resetMode = 2 ∨ 3 ≤ resetMode then st.resetAll else st

/-! ## Operations -/

/-- `pf_pdport_write_req`. -/
def writeReq (index subslot : BitVec 16) (bytes : ℕ → Byte) (dataLength : ℕ) (clock : ℕ → Time) :
    Option Transmission :=
  let port := dapSubslotToLocalPort st.records.numberOfPorts subslot
  let (ret, records) := pdportWriteReq index subslot bytes dataLength st.records
  let st := { st with records }
  if 0 < port then
    if index = Rpc.PF_IDX_SUB_PDPORT_DATA_ADJ ∧ ret = 0 then st.followBoundary port (clock port)
    else some st
  else if index = Rpc.PF_IDX_SUB_PDINTF_ADJUST then st.lldpRestartTransmission clock
  else some st

/-- What comes of a connect request: it is refused before `pf_cmdev_check_apdu` has succeeded, it
fails behind that, as when the application refuses it, or it is accepted. -/
inductive ConnectOutcome where
  | refused | failed | accepted
deriving DecidableEq

/-- `pf_cmrpc_rm_connect_ind` with `pf_cmdev_rm_connect_ind`. -/
def connect (outcome : ConnectOutcome) (clock clock' : ℕ → Time) : Option Transmission :=
  match outcome with
  | .refused => some st
  | .failed => st.resetAll.arConnectInd clock
  | .accepted => (st.resetAll.arConnectInd clock).bind fun st => st.lldpRestartTransmission clock'

/-- `pf_dcp_get_set`, with the modes of the resets in it. -/
def dcpGetSet (resetModes : List (BitVec 16)) (clock : ℕ → Time) : Option Transmission :=
  (resetModes.foldl setDefaultCfg st).lldpRestartTransmission clock

/-- `pnet_factory_reset`. -/
def factoryReset : Transmission := st.setDefaultCfg 99

/-- A round of the loop of `pf_scheduler_tick`, which starts at `tick`. -/
def round (tick now : Time) : Option Transmission :=
  if expired st.sched tick then
    (moveToFree st.sched st.sched.first).bind fun sched =>
      let job := (timerAt st.sched st.sched.first).job
      if job.cb = triggerSendingCb then { st with sched }.triggerSending job.arg now
      else some { st with sched }
  else some st

end Transmission

/-! ## Runs -/

inductive TransmissionEvent where
  | writeReq (index subslot : BitVec 16) (bytes : ℕ → Byte) (dataLength : ℕ) (clock : ℕ → Time)
  | connect (outcome : Transmission.ConnectOutcome) (clock clock' : ℕ → Time)
  | dcpGetSet (resetModes : List (BitVec 16)) (clock : ℕ → Time)
  | factoryReset
  /-- A call of another user. -/
  | call (c : Call) (foreign : txTimers.Foreign c)
  | round (tick now : Time)

namespace Transmission

def step (st : Transmission) : TransmissionEvent → Option Transmission
  | .writeReq index subslot bytes dataLength clock =>
    st.writeReq index subslot bytes dataLength clock
  | .connect outcome clock clock' => st.connect outcome clock clock'
  | .dcpGetSet resetModes clock => st.dcpGetSet resetModes clock
  | .factoryReset => some st.factoryReset
  | .call c _ => (doCall st.sched c).map fun sched => { st with sched }
  | .round tick now => st.round tick now

/-- `pf_pdport_load`, with what the file of each port holds. -/
def load (file : ℕ → Option PortRecords) (clock : ℕ → Time) (st : Transmission) (port : ℕ) :
    Option Transmission :=
  match file port with
  | none => st.sendEnable port (clock port)
  | some records =>
    let st := { st with
      records := { st.records with port := Function.update st.records.port port records } }
    -- `pf_lldp_restart_peer_timeout`, with a time that is over
    (if records.checkActive then
      (doCall st.sched (.restart 0 (Lldp.rxTimers.job () port) (Lldp.rxTimeout port)
        (clock port))).map fun sched => { st with sched }
    else some st).bind fun st => st.restartPort port (clock port)

/-- The loop of `pf_lldp_init`. -/
def initHandles : ℕ → St → St
  | 0, s => s
  | n + 1, s =>
    pfSchedulerInitHandle
      (pfSchedulerInitHandle (initHandles n s) (Lldp.rxTimeout (n + 1)) Lldp.lldpRxName)
      (txTimeout (n + 1)) lldpTxName

/-- The start of a stack with `n` ports, in which other users have made some calls before. -/
def start (tickInterval : Time) (n : ℕ) (before : List Call) (file : ℕ → Option PortRecords)
    (clock : ℕ → Time) : Option Transmission :=
  (pfSchedulerInit blank tickInterval).bind fun s => (doCalls s before).bind fun s =>
    forPorts (load file clock) n ⟨initHandles n s,
      ⟨n, fun _ => .zero, ⟨false, .PF_LLDP_NAME_OF_DEVICE_MODE_STANDARD⟩, false⟩, false⟩

/-! ## What should hold -/

variable (st : Transmission)

/-- An active record forbids sending. -/
def blocked (port : ℕ) : Bool :=
  (st.records.port port).adjustActive &&
    (st.records.port port).peerToPeerBoundary.doNotSendLldpFrames

/-- One send timeout is pending, or none if sending is forbidden. -/
def Follows (port : ℕ) : Prop :=
  if st.blocked port then txTimers.Idle st.sched () port
  else ∃! e, txTimers.Runs st.sched () port e

def FollowsAdjust : Prop := ∀ port, st.IsValid port → st.Follows port

/-- All timers of the step are allocated. -/
def Allocated (e : TransmissionEvent) : Prop := ∀ st', st.step e = some st' → st'.refused = false

/-- No record that forbids sending is cleared without a restart: by a factory reset of the
application, or by a connect that fails after its check. -/
def Restarts : TransmissionEvent → Prop
  | .factoryReset | .connect .failed _ _ => ∀ port, st.IsValid port → st.blocked port = false
  | _ => True

/-! ## The timers of the ports -/

/-- What holds at all times: the ports that there are have a handle each. -/
structure Base : Prop where
  tidy : txTimers.Tidy st.sched
  named : ∀ i, st.IsValid i → txTimers.Named st.sched () i
  settled : ∀ i, txTimers.Settled st.sched () i
  others : ∀ i, ¬ st.IsValid i → txTimers.Idle st.sched () i

/-- The ports of `p` follow their records from now on, unless a timer could not be allocated; the
others stay as they are. -/
structure Restarted (p : ℕ → Prop) (st' : Transmission) : Prop where
  base : st'.Base
  within : txTimers.Within (fun _ i => p i) st.sched st'.sched
  records : st'.records = st.records
  refused : st'.refused = false → st.refused = false
  follows : st'.refused = false → ∀ i, p i → st'.Follows i

variable {st} {st' st'' : Transmission} {port i : ℕ} {now : Time} {p p' : ℕ → Prop}

theorem follows_armed (h : txTimers.Armed st.sched () port) (hblocked : st.blocked port = false) :
    st.Follows port := by
  unfold Follows
  rw [hblocked, if_neg Bool.false_ne_true]
  exact h.unique

theorem follows_idle (h : txTimers.Idle st.sched () port) (hblocked : st.blocked port = true) :
    st.Follows port := by
  unfold Follows
  rw [hblocked, if_pos rfl]
  exact h

/-- What a port follows depends on its timers and its record. -/
theorem follows_congr (hruns : ∀ e, txTimers.Runs st'.sched () port e ↔
      txTimers.Runs st.sched () port e) (hblocked : st'.blocked port = st.blocked port) :
    st'.Follows port ↔ st.Follows port := by
  unfold Follows
  rw [hblocked]
  cases st.blocked port with
  | true => exact forall_congr' fun e => not_congr (hruns e)
  | false => exact existsUnique_congr hruns

theorem Base.congr (h : st.Base) (hw : txTimers.Within (Family.only () port) st.sched st'.sched)
    (ht : txTimers.Tidy st'.sched) (hvalid : st.IsValid port)
    (hname : txTimers.Named st'.sched () port) (hslot : txTimers.Settled st'.sched () port)
    (hports : st'.records.numberOfPorts = st.records.numberOfPorts) : st'.Base := by
  have hsame (i : ℕ) : st'.IsValid i ↔ st.IsValid i := by
    unfold IsValid
    rw [hports]
  refine ⟨ht, ?_, ?_, ?_⟩
  · intro i hi
    by_cases heq : i = port
    · rw [heq]
      exact hname
    · exact (hw.named fun h => heq h.2).mpr (h.named i ((hsame i).mp hi))
  · intro i
    by_cases heq : i = port
    · rw [heq]
      exact hslot
    · exact (hw.settled fun h => heq h.2).mpr (h.settled i)
  · intro i hi
    have hne : i ≠ port := by
      rintro rfl
      exact hi ((hsame i).mpr hvalid)
    exact (hw.idle fun h => hne h.2).mpr (h.others i (mt (hsame i).mpr hi))

theorem within_only (hw : txTimers.Within (Family.only () port) st.sched st'.sched) :
    txTimers.Within (fun _ i => i = port) st.sched st'.sched :=
  hw.mono fun _ _ h => h.2

/-- A timer is started for a port, or could not be allocated. -/
theorem Base.scheduled (h : st.Base) (hvalid : st.IsValid port) {r : ℤ × St}
    (hw : txTimers.Within (Family.only () port) st.sched r.2) (ht : txTimers.Tidy r.2)
    (hname : txTimers.Named r.2 () port)
    (hslot : (r.1 = 0 ∧ txTimers.Armed r.2 () port) ∨ (r.1 = -1 ∧ txTimers.Idle r.2 () port)) :
    (st.scheduled r).Base ∧ ((st.scheduled r).refused = false → st.refused = false) ∧
      ((st.scheduled r).refused = false → txTimers.Armed r.2 () port) := by
  refine ⟨h.congr hw ht hvalid hname ?_ rfl, ?_, ?_⟩
  · rcases hslot with ⟨-, harmed⟩ | ⟨-, hidle⟩
    · exact .inr harmed
    · exact .inl hidle
  · exact fun hrefused => (Bool.or_eq_false_iff.mp hrefused).1
  · intro hrefused
    have hret := of_decide_eq_false (Bool.or_eq_false_iff.mp hrefused).2
    rcases hslot with ⟨-, harmed⟩ | ⟨hfull, -⟩
    · exact harmed
    · rw [hfull] at hret
      exact absurd (by decide) hret

theorem sendEnable_restarted (h : st.Base) (hvalid : st.IsValid port)
    (hblocked : st.blocked port = false) (hs : st.sendEnable port now = some st') :
    st.Restarted (· = port) st' := by
  rcases Option.map_eq_some_iff.mp hs with ⟨r, hr, rfl⟩
  rcases h.tidy.restart (h.named port hvalid) hr with ⟨ht, hw, hname, hslot⟩
  rcases h.scheduled hvalid hw ht hname (hslot (h.settled port)) with ⟨hbase, hrefused, harmed⟩
  refine ⟨hbase, within_only hw, rfl, hrefused, ?_⟩
  rintro hnone i rfl
  exact follows_armed (harmed hnone) hblocked

theorem sendDisable_restarted (h : st.Base) (hvalid : st.IsValid port)
    (hblocked : st.blocked port = true) (hs : st.sendDisable port = some st') :
    st.Restarted (· = port) st' := by
  rcases Option.map_eq_some_iff.mp hs with ⟨sched, hremove, rfl⟩
  rcases h.tidy.removeIfRunning hremove with ⟨ht, hw, hname, -, -⟩
  have hidle := (h.tidy.removeIfRunning_calms hremove).2 (h.settled port)
  refine ⟨h.congr hw ht hvalid (hname.mpr (h.named port hvalid)) (.inl hidle) rfl,
    within_only hw, rfl, id, ?_⟩
  rintro - i rfl
  exact follows_idle hidle hblocked

theorem followBoundary_restarted (h : st.Base) (hvalid : st.IsValid port)
    (hactive : (st.records.port port).adjustActive = true)
    (hs : st.followBoundary port now = some st') : st.Restarted (· = port) st' := by
  have hblocked : st.blocked port =
      (st.records.port port).peerToPeerBoundary.doNotSendLldpFrames := by
    unfold blocked
    rw [hactive, Bool.true_and]
  unfold followBoundary at hs
  split at hs
  · next hforbids => exact sendDisable_restarted h hvalid (hblocked.trans hforbids) hs
  · next hallows =>
    exact sendEnable_restarted h hvalid (hblocked.trans (Bool.eq_false_of_not_eq_true hallows)) hs

theorem restartPort_restarted (h : st.Base) (hvalid : st.IsValid port)
    (hs : st.restartPort port now = some st') : st.Restarted (· = port) st' := by
  unfold restartPort at hs
  split at hs
  · next hactive => exact followBoundary_restarted h hvalid hactive hs
  · next hinactive =>
    apply sendEnable_restarted h hvalid _ hs
    unfold blocked
    rw [Bool.eq_false_of_not_eq_true hinactive, Bool.false_and]

/-! ## All ports -/

theorem Restarted.refl (h : st.Base) : st.Restarted (fun _ => False) st :=
  ⟨h, .refl _ _, rfl, id, fun _ _ h => h.elim⟩

theorem Restarted.trans (h : st.Restarted p st') (h' : st'.Restarted p' st'') :
    st.Restarted (fun i => p i ∨ p' i) st'' := by
  have hrecords := h'.records.trans h.records
  refine ⟨h'.base, (h.within.mono fun _ _ => .inl).trans (h'.within.mono fun _ _ => .inr),
    hrecords, fun hnone => h.refused (h'.refused hnone), ?_⟩
  intro hnone i hi
  by_cases hlast : p' i
  · exact h'.follows hnone i hlast
  · apply (follows_congr (h'.within.runs () i hlast) _).mpr
    · exact h.follows (h'.refused hnone) i (hi.resolve_right hlast)
    · unfold blocked
      rw [h'.records]

theorem Restarted.mono (h : st.Restarted p st') (hp : ∀ i, p i ↔ p' i) : st.Restarted p' st' := by
  rwa [← funext fun i => propext (hp i)]

theorem forPorts_restarted {body : Transmission → ℕ → Option Transmission} (h : st.Base)
    (hbody : ∀ st st' port, st.Base → st.IsValid port → body st port = some st' →
      st.Restarted (· = port) st') {n : ℕ} (hn : n ≤ st.records.numberOfPorts)
    (hs : forPorts body n st = some st') : st.Restarted (fun i => 1 ≤ i ∧ i ≤ n) st' := by
  induction n generalizing st' with
  | zero =>
    obtain rfl := Option.some.inj hs
    exact (Restarted.refl h).mono fun i => ⟨False.elim, fun h => by omega⟩
  | succ n ih =>
    rcases Option.bind_eq_some_iff.mp hs with ⟨st₁, hst₁, hs⟩
    have hfirst := ih (by omega) hst₁
    have hvalid : st₁.IsValid (n + 1) := by
      unfold IsValid
      rw [hfirst.records]
      omega
    exact (hfirst.trans (hbody st₁ st' (n + 1) hfirst.base hvalid hs)).mono fun i => by omega

theorem lldpRestartTransmission_restarted (h : st.Base) {clock : ℕ → Time}
    (hs : st.lldpRestartTransmission clock = some st') : st.Restarted st.IsValid st' :=
  forPorts_restarted h (fun _ _ _ h hvalid hs => restartPort_restarted h hvalid hs) le_rfl hs

/-- A port follows its record if it has been restarted, or has followed it before. -/
theorem Restarted.keeps (h : st.Restarted p st') (hnone : st'.refused = false)
    (hfollows : ∀ i, st.IsValid i → ¬ p i → st.Follows i) : st'.FollowsAdjust := by
  intro i hvalid
  have hvalid' : st.IsValid i := by
    unfold IsValid at hvalid ⊢
    rwa [h.records] at hvalid
  by_cases hp : p i
  · exact h.follows hnone i hp
  · apply (follows_congr (h.within.runs () i hp) _).mpr (hfollows i hvalid' hp)
    unfold blocked
    rw [h.records]

/-- After a restart of all ports the timers follow the records. -/
theorem Restarted.followsAdjust (h : st.Restarted st.IsValid st') (hnone : st'.refused = false) :
    st'.FollowsAdjust := h.keeps hnone fun _ hvalid hp => absurd hvalid hp

/-! ## Records that are cleared -/

theorem resetAll_isValid : st.resetAll.IsValid i ↔ st.IsValid i := Iff.rfl

theorem resetAll_inactive (hvalid : st.IsValid i) :
    (st.resetAll.records.port i).adjustActive = false := by
  have hcleared : st.resetAll.records.port i = .zero := if_pos hvalid
  rw [hcleared]
  rfl

theorem resetAll_blocked (hvalid : st.IsValid i) : st.resetAll.blocked i = false := by
  unfold blocked
  rw [resetAll_inactive hvalid, Bool.false_and]

theorem Base.resetAll (h : st.Base) : st.resetAll.Base := ⟨h.tidy, h.named, h.settled, h.others⟩

theorem Base.setDefaultCfg (h : st.Base) (resetMode : BitVec 16) :
    (st.setDefaultCfg resetMode).Base := by
  unfold Transmission.setDefaultCfg
  split
  · exact h.resetAll
  · exact h

/-- With no active record left, `pf_pdport_ar_connect_ind` does nothing. -/
theorem arConnectInd_resetAll (clock : ℕ → Time) :
    st.resetAll.arConnectInd clock = some st.resetAll := by
  have hloop (n : ℕ) (hn : n ≤ st.records.numberOfPorts) :
      forPorts (fun st port =>
        if (st.records.port port).adjustActive then st.followBoundary port (clock port)
        else some st) n st.resetAll = some st.resetAll := by
    induction n with
    | zero => rfl
    | succ n ih =>
      rw [forPorts, ih (by omega), Option.bind_some, resetAll_inactive ⟨by omega, hn⟩,
        if_neg Bool.false_ne_true]
  exact hloop _ le_rfl

/-- Clearing all records is right exactly when none of them forbids sending. -/
theorem resetAll_followsAdjust (h : st.FollowsAdjust) :
    st.resetAll.FollowsAdjust ↔ ∀ port, st.IsValid port → st.blocked port = false := by
  constructor
  · intro hreset port hvalid
    by_contra hblocked
    have hidle := h port hvalid
    have hone := hreset port (resetAll_isValid.mpr hvalid)
    unfold Follows at hidle hone
    rw [if_pos (by simpa using hblocked)] at hidle
    rw [if_neg (by rw [resetAll_blocked hvalid]; exact Bool.false_ne_true)] at hone
    rcases hone with ⟨e, he, -⟩
    exact hidle e he
  · intro hallows port hvalid
    have hvalid := resetAll_isValid.mp hvalid
    have hblocked : st.resetAll.blocked port = st.blocked port := by
      rw [resetAll_blocked hvalid, hallows port hvalid]
    exact (@follows_congr st st.resetAll port (fun _ => Iff.rfl) hblocked).mpr (h port hvalid)

/-! ## Other users, and rounds -/

theorem Base.records (h : st.Base) {records : PdRecords}
    (hports : records.numberOfPorts = st.records.numberOfPorts) :
    ({ st with records } : Transmission).Base := by
  have hsame (i : ℕ) : ({ st with records } : Transmission).IsValid i ↔ st.IsValid i := by
    unfold IsValid
    rw [← hports]
  exact ⟨h.tidy, fun i hi => h.named i ((hsame i).mp hi), h.settled,
    fun i hi => h.others i (mt (hsame i).mpr hi)⟩

/-- What leaves the timers of the ports alone. -/
theorem Base.foreign (h : st.Base) {sched : St} (ht : txTimers.Tidy sched)
    (hw : txTimers.Within Family.nothing st.sched sched) :
    st.Restarted (fun _ => False) { st with sched } :=
  ⟨⟨ht, fun i hi => (hw.named id).mpr (h.named i hi), fun i => (hw.settled id).mpr (h.settled i),
    fun i hi => (hw.idle id).mpr (h.others i hi)⟩, hw, rfl, id, fun _ _ h => h.elim⟩

theorem call_restarted (h : st.Base) {c : Call} (hc : txTimers.Foreign c)
    (hs : ((doCall st.sched c).map fun sched => { st with sched }) = some st') :
    st.Restarted (fun _ => False) st' := by
  rcases Option.map_eq_some_iff.mp hs with ⟨sched, hsched, rfl⟩
  rcases h.tidy.foreign hc hsched with ⟨ht, hw⟩
  exact h.foreign ht hw

/-- A timer that expires is the one of a port that may send, and is started again. -/
theorem round_restarted (h : st.Base) (hfollows : st.FollowsAdjust) {tick : Time}
    (hs : st.round tick now = some st') : ∃ p, st.Restarted p st' := by
  unfold round at hs
  split at hs
  swap
  · obtain rfl := Option.some.inj hs
    exact ⟨_, .refl h⟩
  next he =>
  rcases Option.bind_eq_some_iff.mp hs with ⟨sched, hsched, hs⟩
  dsimp only at hs
  split at hs
  swap
  · next hcb =>
    obtain rfl := Option.some.inj hs
    rcases h.tidy.fireForeign he hsched (fun _ => hcb) with ⟨ht, hw⟩
    exact ⟨_, h.foreign ht hw⟩
  next hcb =>
  generalize hi : (timerAt st.sched st.sched.first).job.arg = i at hs
  have hjob : (timerAt st.sched st.sched.first).job = txTimers.job () i := by
    show _ = (⟨triggerSendingCb, i⟩ : Job)
    rw [← hcb, ← hi]
  rcases h.tidy.fire he hsched hjob with ⟨ht, hw, hname, hruns, hfired⟩
  have hvalid : st.IsValid i := by
    by_contra hno
    exact h.others i hno _ hfired
  have hblocked : st.blocked i = false := by
    by_contra hno
    have hidle := hfollows i hvalid
    unfold Follows at hidle
    rw [if_pos (Bool.eq_true_of_not_eq_false hno)] at hidle
    exact hidle _ hfired
  -- the timer that has expired was the only one
  have hidle : txTimers.Idle (pfSchedulerResetHandle sched (txTimeout i)) () i := by
    intro e hrun
    rcases (hruns e).mp hrun with ⟨hold, hne⟩
    rcases h.settled i with hnone | ⟨e', -, hall⟩
    · exact hnone e hold
    · exact hne (((hall e).mp hold).trans ((hall _).mp hfired).symm)
  rcases Option.map_eq_some_iff.mp hs with ⟨⟨ret, sched'⟩, hadd, rfl⟩
  rw [← Family.add_resetHandle] at hadd
  rcases ht.add (hname.mpr (h.named i hvalid)) hadd with ⟨ht', hw', hname', hslot⟩
  rcases @Base.scheduled st i h hvalid (ret, sched') (hw.trans hw') ht' hname' (hslot hidle) with
    ⟨hbase, hrefused, harmed⟩
  refine ⟨(· = i), hbase, within_only (hw.trans hw'), rfl, hrefused, ?_⟩
  rintro hnone j rfl
  exact follows_armed (harmed hnone) hblocked

/-! ## Writes -/

section
variable {index subslot : BitVec 16} {bytes : ℕ → Byte} {dataLength : ℕ}

theorem writeDataCheck_adjust (records : PortRecords) :
    (writeDataCheck bytes dataLength records).2.adjustActive = records.adjustActive ∧
      (writeDataCheck bytes dataLength records).2.peerToPeerBoundary =
        records.peerToPeerBoundary := by
  unfold writeDataCheck
  rcases Connect.getWriteDataCheck (.ready bytes dataLength 0) with ⟨peers, r⟩
  dsimp only
  split
  · cases (peers.getD []).head? with
    | none => exact ⟨rfl, rfl⟩
    | some peer => exact ⟨rfl, rfl⟩
  · exact ⟨rfl, rfl⟩

theorem writeDataAdj_adjust (records : PortRecords) :
    ((writeDataAdj bytes dataLength records).1 = 0 ∧
      (writeDataAdj bytes dataLength records).2.adjustActive = true) ∨
    ((writeDataAdj bytes dataLength records).1 ≠ 0 ∧
      (writeDataAdj bytes dataLength records).2 = records) := by
  have hne : (-1 : ℤ) ≠ 0 := by decide
  unfold writeDataAdj
  rcases getWriteDataAdj (.ready bytes dataLength 0) with ⟨boundary, r⟩
  dsimp only
  split
  · cases boundary with
    | none => exact .inr ⟨hne, rfl⟩
    | some boundary => exact .inl ⟨rfl, rfl⟩
  · exact .inr ⟨hne, rfl⟩

/-- Only adjustments that are accepted change those of the port. -/
theorem writePort_adjust (records : PortRecords) :
    (index = Rpc.PF_IDX_SUB_PDPORT_DATA_ADJ ∧ (writePort index bytes dataLength records).1 = 0 ∧
      (writePort index bytes dataLength records).2.adjustActive = true) ∨
    (¬ (index = Rpc.PF_IDX_SUB_PDPORT_DATA_ADJ ∧
        (writePort index bytes dataLength records).1 = 0) ∧
      (writePort index bytes dataLength records).2.adjustActive = records.adjustActive ∧
      (writePort index bytes dataLength records).2.peerToPeerBoundary =
        records.peerToPeerBoundary) := by
  have hother : Rpc.PF_IDX_SUB_PDPORT_DATA_CHECK ≠ Rpc.PF_IDX_SUB_PDPORT_DATA_ADJ := by decide
  unfold writePort
  split
  · next hcheck =>
    refine .inr ⟨fun h => hother (hcheck.symm.trans h.1), writeDataCheck_adjust records⟩
  · split
    · next hadj =>
      rcases @writeDataAdj_adjust bytes dataLength records with ⟨hret, hactive⟩ | ⟨hret, hsame⟩
      · exact .inl ⟨hadj, hret, hactive⟩
      · refine .inr ⟨fun h => hret h.2, ?_⟩
        rw [hsame]
        exact ⟨rfl, rfl⟩
    · next hadj => exact .inr ⟨fun h => hadj h.1, rfl, rfl⟩

theorem pdportWriteReq_numberOfPorts (store : PdRecords) :
    (pdportWriteReq index subslot bytes dataLength store).2.numberOfPorts =
      store.numberOfPorts := by
  unfold pdportWriteReq
  dsimp only
  split
  · split
    · rfl
    · rfl
  · split
    · rfl
    · rfl

/-- A write leaves the other ports alone. -/
theorem pdportWriteReq_others (store : PdRecords) {i : ℕ}
    (hi : i ≠ dapSubslotToLocalPort store.numberOfPorts subslot) :
    (pdportWriteReq index subslot bytes dataLength store).2.port i = store.port i := by
  unfold pdportWriteReq
  dsimp only
  split
  · have hother (records : PortRecords) : Function.update store.port
        (dapSubslotToLocalPort store.numberOfPorts subslot) records i = store.port i :=
      Function.update_of_ne hi _ _
    split
    · exact hother _
    · exact hother _
  · split
    · rfl
    · rfl

theorem pdportWriteReq_port (store : PdRecords)
    (hport : 0 < dapSubslotToLocalPort store.numberOfPorts subslot) :
    (pdportWriteReq index subslot bytes dataLength store).1 =
        (writePort index bytes dataLength
          (store.port (dapSubslotToLocalPort store.numberOfPorts subslot))).1 ∧
      (pdportWriteReq index subslot bytes dataLength store).2.port
          (dapSubslotToLocalPort store.numberOfPorts subslot) =
        (writePort index bytes dataLength
          (store.port (dapSubslotToLocalPort store.numberOfPorts subslot))).2 := by
  unfold pdportWriteReq
  dsimp only
  rw [if_pos hport]
  refine ⟨rfl, ?_⟩
  dsimp only
  split
  · exact Function.update_self _ _ _
  · exact Function.update_self _ _ _

/-- A write restarts what it has changed the adjustments of. -/
theorem writeReq_follows (h : st.Base) (hfollows : st.FollowsAdjust) {clock : ℕ → Time}
    (hs : st.writeReq index subslot bytes dataLength clock = some st')
    (hnone : st'.refused = false) : st'.Base ∧ st'.FollowsAdjust := by
  have hothers (i : ℕ) := @pdportWriteReq_others index subslot bytes dataLength st.records i
  have hown := @pdportWriteReq_port index subslot bytes dataLength st.records
  have hle := dapSubslotToLocalPort_le st.records.numberOfPorts subslot
  have hports := @pdportWriteReq_numberOfPorts index subslot bytes dataLength st.records
  have hbase := h.records hports
  unfold writeReq at hs
  generalize pdportWriteReq index subslot bytes dataLength st.records = out
    at hs hbase hothers hown hports
  rcases out with ⟨ret, records⟩
  generalize dapSubslotToLocalPort st.records.numberOfPorts subslot = port at hs hothers hown hle
  dsimp only at hs hbase hothers hown hports
  -- a port whose adjustments are the same has followed them before
  have hsame (i : ℕ) (hi : st.IsValid i)
      (hblocked : ({ st with records } : Transmission).blocked i = st.blocked i) :
      ({ st with records } : Transmission).Follows i :=
    (@follows_congr st { st with records } i (fun _ => Iff.rfl) hblocked).mpr (hfollows i hi)
  have hvalid (i : ℕ) : ({ st with records } : Transmission).IsValid i → st.IsValid i := by
    unfold IsValid
    dsimp only
    rw [hports]
    exact id
  have hother (i : ℕ) (hi : i ≠ port) :
      ({ st with records } : Transmission).blocked i = st.blocked i := by
    unfold blocked
    dsimp only
    rw [hothers i hi]
  split at hs
  · next hport =>
    rcases hown hport with ⟨hret, hrecords⟩
    have hadjust := @writePort_adjust index bytes dataLength (st.records.port port)
    rw [← hret, ← hrecords] at hadjust
    split at hs
    · next hstored =>
      rcases hadjust with ⟨-, -, hactive⟩ | ⟨hno, -⟩
      swap
      · exact absurd hstored hno
      have hr := followBoundary_restarted hbase ⟨hport, by rw [hports]; exact hle⟩ hactive hs
      exact ⟨hr.base, hr.keeps hnone fun i hi hne => hsame i (hvalid i hi) (hother i hne)⟩
    · next hno =>
      rcases hadjust with ⟨hindex, hzero, -⟩ | ⟨-, hactive, hboundary⟩
      · exact absurd ⟨hindex, hzero⟩ hno
      obtain rfl := Option.some.inj hs
      refine ⟨hbase, fun i hi => hsame i (hvalid i hi) ?_⟩
      by_cases hi : i = port
      · unfold blocked
        rw [hi]
        dsimp only
        rw [hactive, hboundary]
      · exact hother i hi
  · next hport =>
    split at hs
    · have hr := lldpRestartTransmission_restarted hbase hs
      exact ⟨hr.base, hr.followsAdjust hnone⟩
    · obtain rfl := Option.some.inj hs
      refine ⟨hbase, fun i hi => hsame i (hvalid i hi) (hother i ?_)⟩
      rintro rfl
      exact hport hi.1

end

/-! ## One step -/

theorem setDefaultCfg_base (resetModes : List (BitVec 16)) (h : st.Base) :
    (resetModes.foldl setDefaultCfg st).Base := by
  induction resetModes generalizing st with
  | nil => exact h
  | cons resetMode resetModes ih => exact ih (h.setDefaultCfg resetMode)

theorem factoryReset_eq : st.factoryReset = st.resetAll := by
  unfold factoryReset setDefaultCfg
  exact if_pos (.inr (by decide))

/-- A step keeps the timers in line with the records, exactly when it restarts what it clears. -/
theorem step_follows (h : st.Base) (hfollows : st.FollowsAdjust) {e : TransmissionEvent}
    (hs : st.step e = some st') (hnone : st'.refused = false) :
    st'.Base ∧ (st'.FollowsAdjust ↔ st.Restarts e) := by
  cases e with
  | writeReq index subslot bytes dataLength clock =>
    rcases writeReq_follows h hfollows hs hnone with ⟨hbase, hkept⟩
    exact ⟨hbase, iff_of_true hkept trivial⟩
  | connect outcome clock clock' =>
    cases outcome with
    | refused =>
      obtain rfl := Option.some.inj hs
      exact ⟨h, iff_of_true hfollows trivial⟩
    | failed =>
      obtain rfl := Option.some.inj ((arConnectInd_resetAll clock).symm.trans hs)
      exact ⟨h.resetAll, resetAll_followsAdjust hfollows⟩
    | accepted =>
      rcases Option.bind_eq_some_iff.mp hs with ⟨st₁, hst₁, hs⟩
      obtain rfl := Option.some.inj ((arConnectInd_resetAll clock).symm.trans hst₁)
      have hr := lldpRestartTransmission_restarted h.resetAll hs
      exact ⟨hr.base, iff_of_true (hr.followsAdjust hnone) trivial⟩
  | dcpGetSet resetModes clock =>
    have hr := lldpRestartTransmission_restarted (setDefaultCfg_base resetModes h) hs
    exact ⟨hr.base, iff_of_true (hr.followsAdjust hnone) trivial⟩
  | factoryReset =>
    obtain rfl := Option.some.inj hs
    rw [factoryReset_eq]
    exact ⟨h.resetAll, resetAll_followsAdjust hfollows⟩
  | call c hforeign =>
    have hr := call_restarted h hforeign hs
    exact ⟨hr.base, iff_of_true (hr.keeps hnone fun i hi _ => hfollows i hi) trivial⟩
  | round tick now =>
    rcases round_restarted h hfollows hs with ⟨p, hr⟩
    exact ⟨hr.base, iff_of_true (hr.keeps hnone fun i hi _ => hfollows i hi) trivial⟩

/-! ## The start -/

theorem rxTimeout_ne (port i : ℕ) : Lldp.rxTimeout port ≠ txTimeout i := by
  unfold Lldp.rxTimeout txTimeout
  omega

theorem rxName_ne : some Lldp.lldpRxName ≠ some lldpTxName := by decide

theorem initHandles_spec {s : St} (ht : txTimers.Tidy s) (hidle : ∀ i, txTimers.Idle s () i)
    (n : ℕ) : txTimers.Tidy (initHandles n s) ∧ (∀ i, txTimers.Idle (initHandles n s) () i) ∧
      ∀ i, 1 ≤ i → i ≤ n → txTimers.Named (initHandles n s) () i := by
  induction n with
  | zero => exact ⟨ht, hidle, fun i _ _ => by omega⟩
  | succ n ih =>
    rcases ih with ⟨ht, hidle, hnamed⟩
    have hrx : txTimers.Foreign (.initHandle (Lldp.rxTimeout (n + 1)) Lldp.lldpRxName) :=
      fun _ => ⟨rxTimeout_ne (n + 1), rxName_ne, nofun⟩
    rcases ht.foreign hrx rfl with ⟨ht₁, hw₁⟩
    rcases ht₁.initHandle () (n + 1) with ⟨ht₂, hw₂, hself, hruns⟩
    refine ⟨ht₂, ?_, ?_⟩
    · intro i
      by_cases hi : i = n + 1
      · rw [hi]
        exact fun e he => (hw₁.idle id).mpr (hidle (n + 1)) e ((hruns e).mp he)
      · exact (hw₂.idle fun h => hi h.2).mpr ((hw₁.idle id).mpr (hidle i))
    · intro i hpos hle
      by_cases hi : i = n + 1
      · rw [hi]
        exact hself
      · exact (hw₂.named fun h => hi h.2).mpr ((hw₁.named id).mpr (hnamed i hpos (by omega)))

theorem doCalls_foreign {s s' : St} {cs : List Call} (ht : txTimers.Tidy s)
    (hidle : ∀ i, txTimers.Idle s () i) (hforeign : ∀ c ∈ cs, txTimers.Foreign c)
    (hs : doCalls s cs = some s') : txTimers.Tidy s' ∧ ∀ i, txTimers.Idle s' () i := by
  induction cs generalizing s with
  | nil =>
    obtain rfl := Option.some.inj hs
    exact ⟨ht, hidle⟩
  | cons c cs ih =>
    rcases Option.bind_eq_some_iff.mp hs with ⟨s₁, hs₁, hs⟩
    rcases ht.foreign (hforeign c (List.mem_cons_self ..)) hs₁ with ⟨ht₁, hw₁⟩
    exact ih ht₁ (fun i => (hw₁.idle id).mpr (hidle i))
      (fun c hc => hforeign c (List.mem_cons_of_mem _ hc)) hs

/-- A port is loaded: it follows the record of its file, if it has one. -/
theorem load_restarted (h : st.Base) (hvalid : st.IsValid port) (hblocked : st.blocked port = false)
    {file : ℕ → Option PortRecords} {clock : ℕ → Time} (hs : load file clock st port = some st') :
    ∃ st₁ : Transmission, st₁.Base ∧ st₁.records.numberOfPorts = st.records.numberOfPorts ∧
      (st₁.refused = false → st.refused = false) ∧ (∀ i e, txTimers.Runs st₁.sched () i e ↔
        txTimers.Runs st.sched () i e) ∧ (∀ i, i ≠ port → st₁.blocked i = st.blocked i) ∧
      st₁.Restarted (· = port) st' := by
  unfold load at hs
  split at hs
  · exact ⟨st, h, rfl, id, fun _ _ => Iff.rfl, fun _ _ => rfl,
      sendEnable_restarted h hvalid hblocked hs⟩
  next records hfile =>
  dsimp only at hs
  rcases Option.bind_eq_some_iff.mp hs with ⟨st₁, hst₁, hs⟩
  have hbase := @Base.records st h { st.records with
    port := Function.update st.records.port port records } rfl
  have hrx : txTimers.Foreign (.restart 0 (Lldp.rxTimers.job () port) (Lldp.rxTimeout port)
      (clock port)) := by
    refine fun _ => ⟨rxTimeout_ne port, nofun, ?_⟩
    intro job hjob
    obtain rfl := Option.some.inj hjob
    show Lldp.receiveTimeoutCb ≠ triggerSendingCb
    decide
  have hr : ({ st with records := { st.records with
      port := Function.update st.records.port port records } } : Transmission).Restarted
        (fun _ => False) st₁ := by
    split at hst₁
    · exact call_restarted hbase hrx hst₁
    · obtain rfl := Option.some.inj hst₁
      exact .refl hbase
  have hports : st₁.records.numberOfPorts = st.records.numberOfPorts := by rw [hr.records]
  have hvalid₁ : st₁.IsValid port := by
    unfold IsValid
    rw [hports]
    exact hvalid
  refine ⟨st₁, hr.base, hports, ?_, fun i e => hr.within.runs () i id e, ?_,
    restartPort_restarted hr.base hvalid₁ hs⟩
  · intro hrefused
    exact hr.refused hrefused
  · intro i hi
    unfold blocked
    rw [hr.records]
    dsimp only
    rw [Function.update_of_ne hi]

/-- The first `m` of `n` ports have been loaded. -/
structure Loaded (n m : ℕ) (st : Transmission) : Prop where
  base : st.Base
  number : st.records.numberOfPorts = n
  fresh : ∀ i, m < i → st.blocked i = false
  follows : st.refused = false → ∀ i, 1 ≤ i → i ≤ m → st.Follows i

theorem Loaded.load {n m : ℕ} (h : Loaded n m st) (hm : m < n) {file : ℕ → Option PortRecords}
    {clock : ℕ → Time} (hs : load file clock st (m + 1) = some st') : Loaded n (m + 1) st' := by
  have hvalid : st.IsValid (m + 1) := ⟨Nat.le_add_left 1 m, h.number ▸ hm⟩
  rcases load_restarted h.base hvalid (h.fresh (m + 1) (Nat.lt_succ_self m)) hs with
    ⟨st₁, -, hports, hrefused, hruns, hblocked, hr⟩
  have hblocked' (i : ℕ) (hi : i ≠ m + 1) : st'.blocked i = st.blocked i := by
    rw [← hblocked i hi]
    unfold blocked
    rw [hr.records]
  constructor
  · exact hr.base
  · rw [hr.records, hports, h.number]
  · intro i hi
    rw [hblocked' i (by omega)]
    exact h.fresh i (by omega)
  · intro hnone i hpos hle
    by_cases hi : i = m + 1
    · exact hr.follows hnone i hi
    · apply (follows_congr _ (hblocked' i hi)).mpr
      · exact h.follows (hrefused (hr.refused hnone)) i hpos (by omega)
      · exact fun e => (hr.within.runs () i hi e).trans (hruns i e)

theorem forPorts_loaded {n m : ℕ} (h : Loaded n 0 st) (hm : m ≤ n) {file : ℕ → Option PortRecords}
    {clock : ℕ → Time} (hs : forPorts (load file clock) m st = some st') : Loaded n m st' := by
  induction m generalizing st' with
  | zero =>
    obtain rfl := Option.some.inj hs
    exact h
  | succ m ih =>
    rcases Option.bind_eq_some_iff.mp hs with ⟨st₁, hst₁, hs⟩
    exact (ih (by omega) hst₁).load hm hs

theorem start_loaded {tickInterval : Time} {n : ℕ} {before : List Call}
    (hbefore : ∀ c ∈ before, txTimers.Foreign c) {file : ℕ → Option PortRecords}
    {clock : ℕ → Time} (hs : start tickInterval n before file clock = some st) : Loaded n n st := by
  rcases Option.bind_eq_some_iff.mp hs with ⟨s, hinit, hs⟩
  rcases Option.bind_eq_some_iff.mp hs with ⟨s₁, hs₁, hs⟩
  rcases Family.init_tidy hinit with ⟨ht, hidle⟩
  rcases doCalls_foreign ht (hidle ()) hbefore hs₁ with ⟨ht₁, hidle₁⟩
  rcases initHandles_spec ht₁ hidle₁ n with ⟨ht₂, hidle₂, hnamed⟩
  refine forPorts_loaded ⟨⟨ht₂, fun i hi => hnamed i hi.1 hi.2, fun i => .inl (hidle₂ i),
    fun i _ => hidle₂ i⟩, rfl, fun _ _ => rfl, ?_⟩ le_rfl hs
  intro _ i hpos hle
  omega

end Transmission

open Transmission

/-- **The timers follow the records**, all the time, in exactly the runs in which no record that
forbids sending is cleared without a restart. -/
theorem followsAdjust_iff (tickInterval : Time) (n : ℕ) (before : List Call)
    (file : ℕ → Option PortRecords) (clock : ℕ → Time) (st : Transmission)
    (hbefore : ∀ c ∈ before, txTimers.Foreign c)
    (hstart : start tickInterval n before file clock = some st) (hrefused : st.refused = false)
    (es : List TransmissionEvent) (hallocated : Runs.Along step Allocated st es) :
    (∀ es' st', es' <+: es → Runs.run step st es' = some st' → st'.FollowsAdjust) ↔
      Runs.Along step Restarts st es := by
  have hloaded := start_loaded hbefore hstart
  have hfollows : st.FollowsAdjust := by
    intro i hvalid
    exact hloaded.follows hrefused i hvalid.1 (hloaded.number ▸ hvalid.2)
  refine @Runs.always_iff_of _ _ step Restarts (fun st => st.Base ∧ st.FollowsAdjust) _ _ _ _
    ⟨hloaded.base, hfollows⟩ hallocated (fun _ h => h.2) ?_ ?_
  · rintro st e st' ⟨hbase, hfollows⟩ hallocated hs
    rcases step_follows hbase hfollows hs (hallocated st' hs) with ⟨hbase', hiff⟩
    exact ⟨hiff, fun hrestarts => ⟨hbase', hiff.mpr hrestarts⟩⟩
  · rintro st e ⟨hbase, -⟩ - hs
    -- a reset that restarts nothing does not fail
    cases e with
    | connect outcome clock clock' =>
      cases outcome with
      | failed => cases (arConnectInd_resetAll clock).symm.trans hs
      | refused => trivial
      | accepted => trivial
    | factoryReset => cases hs
    | writeReq index subslot bytes dataLength clock => trivial
    | dcpGetSet resetModes clock => trivial
    | call c hforeign => trivial
    | round tick now => trivial

/-- A stack with one port, whose application resets it at once. -/
theorem followsAdjust_reset :
    ∃ st, start 1000#32 1 [] (fun _ => none) (fun _ => 0#32) = some st ∧
      ∀ es' st', es' <+: [.factoryReset] → Runs.run step st es' = some st' → st'.FollowsAdjust := by
  have hstart : (start 1000#32 1 [] (fun _ => none) (fun _ => 0#32)).map
      (fun st => (st.refused, st.blocked 1, st.records.numberOfPorts)) =
        some (false, false, 1) := by
    decide +kernel
  rcases Option.map_eq_some_iff.mp hstart with ⟨st, hst, hvalues⟩
  obtain ⟨hrefused, hpair⟩ := Prod.mk.inj hvalues
  obtain ⟨hblocked, hports⟩ := Prod.mk.inj hpair
  refine ⟨st, hst, (followsAdjust_iff 1000#32 1 [] (fun _ => none) (fun _ => 0#32) st nofun hst
    hrefused [.factoryReset] ⟨?_, fun _ _ => trivial⟩).mpr ⟨?_, fun _ _ => trivial⟩⟩
  · intro st' hs
    obtain rfl := Option.some.inj hs
    rw [factoryReset_eq]
    exact hrefused
  · intro port hvalid
    obtain rfl : port = 1 := by
      unfold IsValid at hvalid
      omega
    exact hblocked

/-! ## A factory reset behind an adjustment -/

namespace Transmission

/-- A record that forbids LLDP frames. -/
def doNotSend (i : ℕ) : Byte :=
  [0x02, 0x02, 0, 24, 1, 0, 0x02, 0x24, 0, 12, 1, 0, 0, 0, 0, 0, 0, 1, 0, 0].getD i 0

def adjustWrite : TransmissionEvent :=
  .writeReq Rpc.PF_IDX_SUB_PDPORT_DATA_ADJ PNET_SUBSLOT_DAP_INTERFACE_1_PORT_1_IDENT doNotSend 20
    fun _ => 0#32

end Transmission

/-- The record is gone, and the timer does not come back. -/
theorem not_followsAdjust_reset :
    ∃ st, start 1000#32 1 [] (fun _ => none) (fun _ => 0#32) = some st ∧ st.refused = false ∧
      Runs.Along step Allocated st [adjustWrite, .factoryReset] ∧
      ¬ ∀ es' st', es' <+: [adjustWrite, .factoryReset] → Runs.run step st es' = some st' →
        st'.FollowsAdjust := by
  have hstart : (start 1000#32 1 [] (fun _ => none) (fun _ => 0#32)).map
      (fun st => (st.refused, (st.step adjustWrite).map fun st' => st'.refused)) =
        some (false, some false) := by
    decide +kernel
  have hend : ((start 1000#32 1 [] (fun _ => none) (fun _ => 0#32)).bind fun st =>
      (Runs.run step st [adjustWrite, .factoryReset]).map fun st' =>
        (st'.blocked 1, st'.records.numberOfPorts, (pending st'.sched).isEmpty)) =
        some (false, 1, true) := by
    decide +kernel
  rcases Option.map_eq_some_iff.mp hstart with ⟨st, hst, hvalues⟩
  obtain ⟨hrefused, hwrite⟩ := Prod.mk.inj hvalues
  rcases Option.map_eq_some_iff.mp hwrite with ⟨st₁, hst₁, hrefused₁⟩
  rw [hst, Option.bind_some] at hend
  rcases Option.map_eq_some_iff.mp hend with ⟨st₂, hrun, hvalues⟩
  obtain ⟨hblocked, hpair⟩ := Prod.mk.inj hvalues
  obtain ⟨hports, hempty⟩ := Prod.mk.inj hpair
  refine ⟨st, hst, hrefused, ⟨?_, ?_⟩, ?_⟩
  · intro st' hs
    obtain rfl := Option.some.inj (hst₁.symm.trans hs)
    exact hrefused₁
  · intro st' hs
    obtain rfl := Option.some.inj (hst₁.symm.trans hs)
    refine ⟨?_, fun _ _ => trivial⟩
    intro st' hs
    obtain rfl := Option.some.inj hs
    rw [factoryReset_eq]
    exact hrefused₁
  · intro hall
    have hone := hall _ st₂ (List.prefix_refl _) hrun 1 ⟨le_rfl, hports.ge⟩
    unfold Follows at hone
    rw [hblocked, if_neg Bool.false_ne_true] at hone
    rcases hone with ⟨e, ⟨hmem, -⟩, -⟩
    rw [List.isEmpty_iff.mp hempty] at hmem
    cases hmem

end PNet.Pdport
