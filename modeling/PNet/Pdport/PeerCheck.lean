import PNet.Cmdev.DiagMap
import PNet.Cmdev.Numbers
import PNet.Lldp.Alias
import PNet.Pdport.Write

/-! # Checking the peer of a port

`pf_pdport_run_peer_check` compares what LLDP knows about the peer of a port with what the
controller wants to be there, and adds or removes three diagnoses of the submodule of the port. It
runs when a check is written, and in `pf_pdport_periodic` when the peer has changed. A name is
compared up to the length of one of the two names, and is not compared when there is no peer.

* `right_of_orderly`: what is present after each check is what the peer gives reason for, in the
  runs whose steps are `Orderly`.
-/

namespace PNet.Pdport

open Block Lldp Cmdev

def PF_WRT_ERROR_REMOTE_MISMATCH : BitVec 16 := 0x8001
def PF_WRT_ERROR_PEER_STATIONNAME_MISMATCH : BitVec 16 := 0x8000
def PF_WRT_ERROR_PEER_PORTNAME_MISMATCH : BitVec 16 := 0x8001
def PF_WRT_ERROR_NO_PEER_DETECTED : BitVec 16 := 0x8005

/-! ## The diagnoses of a port -/

/-- A port, and whether the configuration prefers qualified diagnosis. -/
structure PortConfig where
  locPortNum : ℕ
  useQualifiedDiagnosis : Bool

namespace PortConfig

variable (c : PortConfig)

/-- `pf_pdport_init_diag_source`. -/
def initDiagSource : DiagSource where
  api := 0
  slot := 0
  subslot := locPortNumToDapSubslot c.locPortNum
  ch := PNET_CHANNEL_WHOLE_SUBMODULE
  chGrouping := false
  chDirection := .PNET_DIAG_CH_PROP_DIR_MANUF_SPEC

/-- `pf_diag_get_preferred_usi`. -/
def preferredUsi : BitVec 16 :=
  if c.useQualifiedDiagnosis then PF_USI_QUALIFIED_CHANNEL_DIAGNOSIS
  else PF_USI_EXTENDED_CHANNEL_DIAGNOSIS

/-- `pf_diag_std_add`, as the checks call it. -/
def stdAdd (extChErrorType : BitVec 16) : DiagOp :=
  .add {
    source := c.initDiagSource
    chBits := 0
    severity := .PNET_DIAG_CH_PROP_MAINT_FAULT
    chErrorType := PF_WRT_ERROR_REMOTE_MISMATCH
    extChErrorType
    extChAddValue := 0
    qualChQualifier := 0
    usi := c.preferredUsi
    manufDataLen := 0
    manufData := none }

/-- `pf_diag_std_remove`. -/
def stdRemove (extChErrorType : BitVec 16) : DiagOp :=
  .remove c.initDiagSource PF_WRT_ERROR_REMOTE_MISMATCH extChErrorType c.preferredUsi

end PortConfig

/-- What comes out of one of the checks. -/
structure PeerReport where
  mismatch : Bool
  extChErrorType : BitVec 16

def PeerReport.request (c : PortConfig) (r : PeerReport) : DiagOp :=
  if r.mismatch then c.stdAdd r.extChErrorType else c.stdRemove r.extChErrorType

/-! ## The checks -/

/-- A port, and the diagnosis of the device. -/
structure PortCheck where
  net : Net
  isPeerInfoReceived : Bool
  peerInfo : PeerInfo
  /-- What stands behind the chassis id in its buffer. -/
  behind : ℕ → Byte
  lldpPeerInfoUpdated : Bool
  records : PortRecords

/-- `strncmp` finds no difference. -/
def strncmpEq : ℕ → List Byte → List Byte → Bool
  | 0, _, _ => true
  | n + 1, s, t =>
    s.headD 0 == t.headD 0 && (s.headD 0 == 0 || strncmpEq n s.tail t.tail)

/-- `pf_pdport_t` after `memset`, as far as it is about records. -/
def PortRecords.zero : PortRecords :=
  ⟨false, ⟨0, Vector.replicate _ 0, 0, Vector.replicate _ 0⟩, false, ⟨false, false, false, 0⟩⟩

namespace PortCheck

/-- `pf_pdport_check_no_peer_detected`. -/
def checkNoPeerDetected (st : PortCheck) : PeerReport :=
  ⟨!st.isPeerInfoReceived, PF_WRT_ERROR_NO_PEER_DETECTED⟩

/-- `pf_pdport_check_peer_station_name`. -/
def checkPeerStationName (st : PortCheck) : Option PeerReport :=
  (Lldp.getPeerStationName st.peerInfo st.behind).map fun name =>
    ⟨!strncmpEq name.length name st.records.peer.peerStationName.toList,
      PF_WRT_ERROR_PEER_STATIONNAME_MISMATCH⟩

/-- `pf_pdport_check_peer_port_name`. -/
def checkPeerPortName (st : PortCheck) : Option PeerReport :=
  if st.peerInfo.portId.isValid then
    some ⟨!strncmpEq st.records.peer.lengthPeerPortName.toNat st.peerInfo.portId.string
      st.records.peer.peerPortName.toList, PF_WRT_ERROR_PEER_PORTNAME_MISMATCH⟩
  else none

/-- The diagnosis is told of the reports, in their order. -/
def report (c : PortConfig) (send : Send) (reports : List PeerReport) (st : PortCheck) :
    Option PortCheck :=
  (runOps st.net (reports.map fun r => (send, r.request c))).map fun net => { st with net }

/-- What the checks of `pf_pdport_run_peer_check` report. -/
def peerReports (st : PortCheck) : List PeerReport :=
  st.checkNoPeerDetected :: (st.checkPeerPortName.toList ++ st.checkPeerStationName.toList)

/-- `pf_pdport_run_peer_check`. -/
def runPeerCheck (c : PortConfig) (send : Send) (st : PortCheck) : Option PortCheck :=
  if st.records.checkActive then st.report c send st.peerReports else some st

/-- What `pf_pdport_remove_all_diag` tells the diagnosis. -/
def allRemoved : List PeerReport :=
  [⟨false, PF_WRT_ERROR_PEER_STATIONNAME_MISMATCH⟩, ⟨false, PF_WRT_ERROR_PEER_PORTNAME_MISMATCH⟩,
    ⟨false, PF_WRT_ERROR_NO_PEER_DETECTED⟩]

end PortCheck

/-! ## Runs -/

inductive PortEvent where
  /-- `pf_lldp_store_peer_info`, and `pf_pdport_peer_indication` about it. -/
  | storePeerInfo (newInfo : PeerInfo) (behind : ℕ → Byte)
  /-- `pf_lldp_invalidate_peer_info`, and `pf_pdport_peer_indication` about it. -/
  | invalidatePeerInfo
  /-- The part of `pf_pdport_write_req` for a port. -/
  | writeReq (index : BitVec 16) (bytes : ℕ → Byte) (dataLength : ℕ) (send : Send)
  /-- The turn of the port in `pf_pdport_periodic`. -/
  | periodic (send : Send)
  /-- The turn of the port in `pf_pdport_reset_all`. -/
  | resetAll (send : Send)
  /-- Another request about a diagnosis. -/
  | request (op : DiagOp) (send : Send)

namespace PortCheck

/-- The records behind a write, if they have been accepted as a new check. -/
def writtenCheck (st : PortCheck) (index : BitVec 16) (bytes : ℕ → Byte) (dataLength : ℕ) : Prop :=
  index = Rpc.PF_IDX_SUB_PDPORT_DATA_CHECK ∧ (writePort index bytes dataLength st.records).1 = 0

instance (st : PortCheck) (index : BitVec 16) (bytes : ℕ → Byte) (dataLength : ℕ) :
    Decidable (st.writtenCheck index bytes dataLength) := inferInstanceAs (Decidable (_ ∧ _))

def write (st : PortCheck) (index : BitVec 16) (bytes : ℕ → Byte) (dataLength : ℕ) : PortCheck :=
  { st with records := (writePort index bytes dataLength st.records).2 }

def step (c : PortConfig) (st : PortCheck) : PortEvent → Option PortCheck
  | .storePeerInfo peerInfo behind =>
    some { st with isPeerInfoReceived := true, peerInfo, behind, lldpPeerInfoUpdated := true }
  | .invalidatePeerInfo =>
    some { st with
      isPeerInfoReceived := false
      peerInfo := st.peerInfo.invalidate
      lldpPeerInfoUpdated := true }
  | .writeReq index bytes dataLength send =>
    if st.writtenCheck index bytes dataLength then
      (st.write index bytes dataLength).runPeerCheck c send
    else some (st.write index bytes dataLength)
  | .periodic send =>
    if st.lldpPeerInfoUpdated then
      { st with lldpPeerInfoUpdated := false }.runPeerCheck c send
    else some st
  | .resetAll send =>
    { st with lldpPeerInfoUpdated := false, records := .zero }.report c send allRemoved
  | .request op send => (runOps st.net [(send, op)]).map fun net => { st with net }

end PortCheck

/-! ## What should be present -/

/-- The name of the peer's port. -/
def peerPortName (info : PeerInfo) : List Byte :=
  if info.portId.isValid then beforeDot (cstr info.portId.string) else []

/-- The name of its station. -/
def peerStationName (info : PeerInfo) (behind : ℕ → Byte) : List Byte :=
  (Lldp.getPeerStationName info behind).getD []

/-- The names that are wanted. -/
def PeerArrays.portName (peer : PeerArrays) : List Byte :=
  peer.peerPortName.toList.take peer.lengthPeerPortName.toNat

def PeerArrays.stationName (peer : PeerArrays) : List Byte :=
  peer.peerStationName.toList.take peer.lengthPeerStationName.toNat

namespace PortConfig

variable (c : PortConfig)

/-- The subslot of the port. -/
def subslot (d : Cmdev.Device) : Option SubslotPos :=
  d.getSubslotFull (c.initDiagSource.api.setWidth 16) c.initDiagSource.slot c.initDiagSource.subslot

/-- The diagnosis of a mismatch, which stands for the key of `pf_diag_std_add`. -/
def key (extChErrorType : BitVec 16) : DiagKey :=
  requestKey c.initDiagSource PF_WRT_ERROR_REMOTE_MISMATCH extChErrorType c.preferredUsi

/-- The submodule of the port has the diagnosis. -/
def Present (d : Cmdev.Device) (extChErrorType : BitVec 16) : Prop :=
  ∃ q, c.subslot d = some q ∧ (d.store q (c.key extChErrorType)).isSome = true

/-- The submodule has none of the three diagnoses. -/
def Quiet (d : Cmdev.Device) : Prop := ∀ r ∈ PortCheck.allRemoved, ¬ c.Present d r.extChErrorType

end PortConfig

namespace PortCheck

/-- What is present is what the peer gives reason for. -/
structure Told (c : PortConfig) (st : PortCheck) : Prop where
  noPeer : c.Present st.net.dev PF_WRT_ERROR_NO_PEER_DETECTED ↔ st.isPeerInfoReceived = false
  stationName : c.Present st.net.dev PF_WRT_ERROR_PEER_STATIONNAME_MISMATCH ↔
    st.isPeerInfoReceived = true ∧
      peerStationName st.peerInfo st.behind ≠ st.records.peer.stationName
  portName : c.Present st.net.dev PF_WRT_ERROR_PEER_PORTNAME_MISMATCH ↔
    st.isPeerInfoReceived = true ∧ peerPortName st.peerInfo ≠ st.records.peer.portName

/-- The state in which the event makes a check, when the check is active. -/
def checked (st : PortCheck) : PortEvent → Option PortCheck
  | .writeReq index bytes dataLength _ =>
    if st.writtenCheck index bytes dataLength then some (st.write index bytes dataLength) else none
  | .periodic _ =>
    if st.lldpPeerInfoUpdated = true ∧ st.records.checkActive = true then
      some { st with lldpPeerInfoUpdated := false }
    else none
  | _ => none

/-- A step after which is present what should be. -/
def Right (c : PortConfig) (st : PortCheck) (e : PortEvent) : Prop :=
  ∃ st', st.step c e = some st' ∧ ((st.checked e).isSome = true → st'.Told c) ∧
    (st'.records.checkActive = false → c.Quiet st'.net.dev)

/-! ## What it needs -/

/-- A diagnosis that is to be added is there, or there is room for it. -/
def Room (c : PortConfig) (send : Send) : Net → List PeerReport → Prop
  | _, [] => True
  | net, r :: rs =>
    (r.mismatch = true →
      c.Present net.dev r.extChErrorType ∨ net.dev.diagItemsFree ≠ PF_DIAG_IX_NULL) ∧
    ∀ ret net', (r.request c).run net send = some (ret, net') → Room c send net' rs

/-- The comparisons of a check find the names that differ. -/
structure Distinct (c : PortConfig) (st : PortCheck) : Prop where
  /-- The name of the station is not a proper prefix of the one that is wanted. -/
  stationName : ∀ name, Lldp.getPeerStationName st.peerInfo st.behind = some name →
    name <+: st.records.peer.peerStationName.toList → name = st.records.peer.stationName
  /-- The name of the port that is wanted is not another prefix of the port id. -/
  portName : st.peerInfo.portId.isValid = true →
    strncmpEq st.records.peer.lengthPeerPortName.toNat st.peerInfo.portId.string
      st.records.peer.peerPortName.toList = true →
    beforeDot (cstr st.peerInfo.portId.string) = st.records.peer.portName
  /-- A peer without a name of its own has been told of before. -/
  noStationName : Lldp.getPeerStationName st.peerInfo st.behind = none →
    (c.Present st.net.dev PF_WRT_ERROR_PEER_STATIONNAME_MISMATCH ↔
      st.records.peer.stationName ≠ [])
  noPortName : st.peerInfo.portId.isValid = false →
    (c.Present st.net.dev PF_WRT_ERROR_PEER_PORTNAME_MISMATCH ↔ st.records.peer.portName ≠ [])

/-- No name of a lost peer is still found wrong. -/
def Fresh (c : PortConfig) (st : PortCheck) : Prop :=
  ¬ c.Present st.net.dev PF_WRT_ERROR_PEER_STATIONNAME_MISMATCH ∧
    ¬ c.Present st.net.dev PF_WRT_ERROR_PEER_PORTNAME_MISMATCH

/-- A check needs a submodule whose diagnosis can be changed, and room in it; and that the names can
be told from each other, or that none has been found wrong before the peer was lost. -/
structure Checkable (c : PortConfig) (send : Send) (st : PortCheck) : Prop where
  target : ∃ q, st.net.dev.target c.initDiagSource = some q
  room : Room c send st.net st.peerReports
  known : st.isPeerInfoReceived = true → st.Distinct c
  lost : st.isPeerInfoReceived = false → st.Fresh c

/-- Another request is not about a diagnosis of a mismatch. -/
def Foreign (c : PortConfig) (d : Cmdev.Device) (op : DiagOp) : Prop :=
  op.Meant d ∧ ∀ q, d.target op.source = some q → c.subslot d = some q →
    ∀ r ∈ allRemoved, op.key ≠ c.key r.extChErrorType

def Orderly (c : PortConfig) (st : PortCheck) (e : PortEvent) : Prop :=
  match e with
  | .writeReq _ _ _ send | .periodic send => ∀ st' ∈ st.checked e, st'.Checkable c send
  | .resetAll _ => (∃ q, st.net.dev.target c.initDiagSource = some q) ∨ c.Quiet st.net.dev
  | .request op _ => Foreign c st.net.dev op
  | _ => True

/-- A port whose checks start. -/
structure Started (c : PortConfig) (st : PortCheck) : Prop where
  isPartition : st.net.dev.IsPartition
  unique : ∀ q, st.net.dev.InUse q → KeyedList.Unique DiagItem.key (st.net.dev.diagnoses q)
  quiet : c.Quiet st.net.dev
  noPeer : st.isPeerInfoReceived = false ∧ st.peerInfo = .zero

end PortCheck

/-! ## One request -/

theorem PortConfig.preferredUsi_std (c : PortConfig) :
    ¬ c.preferredUsi < PF_USI_CHANNEL_DIAGNOSIS := by
  unfold PortConfig.preferredUsi
  split
  · decide
  · decide

namespace PeerReport

variable {c : PortConfig} (r : PeerReport)

theorem request_source : (r.request c).source = c.initDiagSource := by
  unfold request
  split
  · rfl
  · rfl

theorem request_key : (r.request c).key = c.key r.extChErrorType := by
  unfold request
  split
  · rfl
  · rfl

theorem request_usi : (r.request c).usi = c.preferredUsi := by
  unfold request
  split
  · rfl
  · rfl

theorem request_refused : (r.request c).refused = false := by
  have husi : c.preferredUsi = PF_USI_QUALIFIED_CHANNEL_DIAGNOSIS ∨
      c.preferredUsi = PF_USI_EXTENDED_CHANNEL_DIAGNOSIS := ite_eq_or_eq _ _ _
  unfold request PortConfig.stdAdd PortConfig.stdRemove
  split
  · rcases husi with husi | husi
    · rw [husi]
      simp [DiagOp.refused, Diagnosis.refused]
      exact ⟨rfl, BitVec.zero_and, rfl, BitVec.le_refl _⟩
    · rw [husi]
      simp [DiagOp.refused, Diagnosis.refused]
      exact ⟨rfl, fun _ => BitVec.zero_and, BitVec.zero_and, rfl, BitVec.le_refl _⟩
  · rcases husi with husi | husi
    · rw [husi]
      rfl
    · rw [husi]
      rfl

/-- The requests are in standard format. -/
theorem request_meant (d : Cmdev.Device) : (r.request c).Meant d := by
  intro q _ item _ husi
  rw [r.request_usi] at husi
  exact absurd husi c.preferredUsi_std

end PeerReport

theorem PortConfig.applied_stdRemove {c : PortConfig} {e : BitVec 16} {free : Bool}
    {m : DiagKey → Option DiagValue} :
    (c.stdRemove e).applied free m (c.stdRemove e).key = none := Function.update_self _ _ _

theorem PortConfig.applied_stdAdd {c : PortConfig} {e : BitVec 16} {free : Bool}
    {m : DiagKey → Option DiagValue} (h : (m (c.stdAdd e).key).isSome = true ∨ free = true) :
    ((c.stdAdd e).applied free m (c.stdAdd e).key).isSome = true := by
  have happlied : (c.stdAdd e).applied free m = Function.update m (c.stdAdd e).key _ := if_pos h
  rw [happlied, Function.update_self]
  rfl

theorem PortConfig.key_inj {c : PortConfig} {e e' : BitVec 16} (h : c.key e = c.key e') :
    e = e' := by
  unfold PortConfig.key requestKey at h
  rw [if_neg c.preferredUsi_std, if_neg c.preferredUsi_std] at h
  exact (DiagKey.std.inj h).2.2.2.2

/-- The items of the pool are told apart. -/
structure Sound (net : Net) : Prop where
  isPartition : net.dev.IsPartition
  unique : ∀ q, net.dev.InUse q → KeyedList.Unique DiagItem.key (net.dev.diagnoses q)

section
variable {c : PortConfig} {net net' : Net} {send : Send}

theorem Sound.run (h : Sound net) (send : Send) {op : DiagOp} (hmeant : op.Meant net.dev) :
    ∃ ret net', op.run net send = some (ret, net') ∧ Sound net' ∧ Follows net op ret net' := by
  rcases op.run_follows h.isPartition h.unique send hmeant with ⟨ret, net', hrun, hfollows, hp⟩
  refine ⟨ret, net', hrun, ⟨hp, ?_⟩, hfollows⟩
  intro q hq
  exact hfollows.unique q ((hfollows.inUse q).mp hq)

theorem subslot_run {op : DiagOp} {ret : ℤ} (hrun : op.run net send = some (ret, net')) :
    c.subslot net'.dev = c.subslot net.dev :=
  (Net.diagnoses_run hrun).getSubslotFull _ _ _

theorem subslot_of_target {d : Cmdev.Device} {q : SubslotPos}
    (h : d.target c.initDiagSource = some q) : c.subslot d = some q :=
  (Option.filter_eq_some_iff.mp h).1

theorem present_iff {d : Cmdev.Device} {q : SubslotPos} (h : c.subslot d = some q) (e : BitVec 16) :
    c.Present d e ↔ (d.store q (c.key e)).isSome = true := by
  constructor
  · rintro ⟨q', hq', hsome⟩
    obtain rfl := Option.some.inj (h.symm.trans hq')
    exact hsome
  · intro hsome
    exact ⟨q, h, hsome⟩

/-- What a report does to the diagnosis of the port. -/
theorem PeerReport.present_run (r : PeerReport) {q : SubslotPos} {ret : ℤ}
    (htarget : net.dev.target c.initDiagSource = some q)
    (hroom : r.mismatch = true →
      c.Present net.dev r.extChErrorType ∨ net.dev.diagItemsFree ≠ PF_DIAG_IX_NULL)
    (hrun : (r.request c).run net send = some (ret, net'))
    (hfollows : Follows net (r.request c) ret net') (e : BitVec 16) :
    c.Present net'.dev e ↔
      if e = r.extChErrorType then r.mismatch = true else c.Present net.dev e := by
  have hsub := subslot_of_target htarget
  have hsub' : c.subslot net'.dev = some q := (subslot_run hrun).trans hsub
  have hown := hfollows.own r.request_refused q (r.request_source ▸ htarget)
  rw [present_iff hsub', present_iff hsub, hown]
  by_cases he : e = r.extChErrorType
  · rw [if_pos he, he, ← r.request_key]
    cases hmismatch : r.mismatch with
    | false =>
      have hop : r.request c = c.stdRemove r.extChErrorType := by
        rw [PeerReport.request, hmismatch]
        rfl
      rw [hop, PortConfig.applied_stdRemove]
      simp only [Option.isSome_none]
    | true =>
      have hop : r.request c = c.stdAdd r.extChErrorType := by
        rw [PeerReport.request, hmismatch]
        rfl
      have hadd := hroom hmismatch
      rw [present_iff hsub, ← r.request_key, hop] at hadd
      rw [hop]
      apply iff_of_true _ rfl
      exact PortConfig.applied_stdAdd (by simpa only [decide_eq_true_eq] using hadd)
  · rw [if_neg he]
    have hne : c.key e ≠ (r.request c).key := by
      rw [r.request_key]
      exact fun h => he (PortConfig.key_inj h)
    rw [DiagOp.applied_of_ne _ _ _ hne]

/-- Reports of different diagnoses, when there is room. -/
theorem reports_run {q : SubslotPos} {rs : List PeerReport} (h : Sound net)
    (htarget : net.dev.target c.initDiagSource = some q)
    (hroom : PortCheck.Room c send net rs) (hdiff : (rs.map PeerReport.extChErrorType).Nodup) :
    ∃ net', runOps net (rs.map fun r => (send, r.request c)) = some net' ∧ Sound net' ∧
      (∀ r ∈ rs, c.Present net'.dev r.extChErrorType ↔ r.mismatch = true) ∧
      ∀ e ∉ rs.map PeerReport.extChErrorType, (c.Present net'.dev e ↔ c.Present net.dev e) := by
  induction rs generalizing net with
  | nil =>
    refine ⟨net, rfl, h, ?_, fun _ _ => Iff.rfl⟩
    intro r hr
    cases hr
  | cons r rs ih =>
    rcases h.run send (r.request_meant net.dev) with ⟨ret, net₁, hrun, h₁, hfollows⟩
    have hpresent := r.present_run htarget hroom.1 hrun hfollows
    have htarget₁ := (Net.target_run hrun c.initDiagSource).trans htarget
    rcases List.nodup_cons.mp hdiff with ⟨hnew, hdiff⟩
    rcases ih h₁ htarget₁ (hroom.2 ret net₁ hrun) hdiff with ⟨net', hrest, h', hreports, hothers⟩
    refine ⟨net', ?_, h', ?_, ?_⟩
    · rw [List.map_cons, runOps, hrun]
      exact hrest
    · intro r' hr'
      rcases List.mem_cons.mp hr' with rfl | hr'
      · rw [hothers _ hnew, hpresent, if_pos rfl]
      · exact hreports r' hr'
    · intro e he
      rw [List.map_cons, List.mem_cons, not_or] at he
      rw [hothers e he.2, hpresent, if_neg he.1]

/-- A report that there is no mismatch adds nothing. -/
theorem PeerReport.present_of_remove {r : PeerReport} {ret : ℤ} (hr : r.mismatch = false)
    (hrun : (r.request c).run net send = some (ret, net'))
    (hfollows : Follows net (r.request c) ret net') {e : BitVec 16}
    (he : c.Present net'.dev e) : c.Present net.dev e := by
  cases htarget : net.dev.target c.initDiagSource with
  | some q =>
    have hmismatch : ¬ r.mismatch = true := by
      rw [hr]
      exact Bool.false_ne_true
    have hpresent := (r.present_run htarget (fun h => absurd h hmismatch) hrun hfollows e).mp he
    by_cases heq : e = r.extChErrorType
    · rw [if_pos heq] at hpresent
      exact absurd hpresent hmismatch
    · rwa [if_neg heq] at hpresent
  | none =>
    rcases he with ⟨q, hq, hsome⟩
    rw [subslot_run hrun] at hq
    refine ⟨q, hq, ?_⟩
    have hother : net.dev.target (r.request c).source ≠ some q := by
      rw [r.request_source, htarget]
      exact Option.some_ne_none q |>.symm
    rwa [hfollows.others q (Device.inUse_of_getSubslotFull hq) (.inr hother)] at hsome

theorem removes_run {rs : List PeerReport} (h : Sound net) (hrs : ∀ r ∈ rs, r.mismatch = false) :
    ∃ net', runOps net (rs.map fun r => (send, r.request c)) = some net' ∧ Sound net' ∧
      ∀ e, c.Present net'.dev e → c.Present net.dev e := by
  induction rs generalizing net with
  | nil => exact ⟨net, rfl, h, fun _ => id⟩
  | cons r rs ih =>
    rcases h.run send (r.request_meant net.dev) with ⟨ret, net₁, hrun, h₁, hfollows⟩
    rcases ih h₁ fun r' hr' => hrs r' (List.mem_cons_of_mem _ hr') with ⟨net', hrest, h', hless⟩
    refine ⟨net', ?_, h', ?_⟩
    · rw [List.map_cons, runOps, hrun]
      exact hrest
    · intro e he
      exact PeerReport.present_of_remove (hrs r List.mem_cons_self) hrun hfollows (hless e he)

/-- Another request leaves the three diagnoses as they are. -/
theorem quiet_of_foreign {op : DiagOp} {ret : ℤ} (hforeign : PortCheck.Foreign c net.dev op)
    (hrun : op.run net send = some (ret, net')) (hfollows : Follows net op ret net')
    (hquiet : c.Quiet net.dev) : c.Quiet net'.dev := by
  rintro r hr ⟨q, hq, hsome⟩
  rw [subslot_run hrun] at hq
  apply hquiet r hr
  refine ⟨q, hq, ?_⟩
  by_cases hother : op.refused = true ∨ net.dev.target op.source ≠ some q
  · rwa [hfollows.others q (Device.inUse_of_getSubslotFull hq) hother] at hsome
  · rw [not_or, not_not] at hother
    have hne := hforeign.2 q hother.2 hq r hr
    rwa [hfollows.own (Bool.eq_false_iff.mpr hother.1) q hother.2,
      DiagOp.applied_of_ne _ _ _ hne.symm] at hsome

end

/-! ## The comparisons -/

theorem strncmpEq_of_take {n : ℕ} {s t : List Byte} (h : s.take n = t.take n) :
    strncmpEq n s t = true := by
  induction n generalizing s t with
  | zero => rfl
  | succ n ih =>
    cases s with
    | nil =>
      cases t with
      | nil => rfl
      | cons b t => cases h
    | cons a s =>
      cases t with
      | nil => cases h
      | cons b t =>
        rw [List.take_succ_cons, List.take_succ_cons] at h
        rcases List.cons.inj h with ⟨rfl, htail⟩
        unfold strncmpEq
        rw [List.tail_cons, List.tail_cons, ih htail, Bool.or_true, Bool.and_true]
        exact beq_self_eq_true a

/-- A whole name is compared with the beginning of another one. -/
theorem prefix_of_strncmpEq {s t : List Byte} (hs : ∀ c ∈ s, c ≠ 0)
    (h : strncmpEq s.length s t = true) : s <+: t := by
  induction s generalizing t with
  | nil => exact List.nil_prefix
  | cons a s ih =>
    have ha : a ≠ 0 := hs a List.mem_cons_self
    rw [List.length_cons, strncmpEq, Bool.and_eq_true, Bool.or_eq_true, List.headD_cons,
      List.tail_cons] at h
    rcases h with ⟨hhead, hrest⟩
    have hrest := hrest.resolve_left fun h => ha (eq_of_beq h)
    cases t with
    | nil => exact absurd (eq_of_beq hhead) ha
    | cons b t =>
      obtain rfl : a = b := eq_of_beq hhead
      exact List.cons_prefix_cons.mpr
        ⟨rfl, ih (fun c hc => hs c (List.mem_cons_of_mem _ hc)) hrest⟩

theorem stationName_ne_zero {info : PeerInfo} {behind : ℕ → Byte} {name : List Byte}
    (h : Lldp.getPeerStationName info behind = some name) : ∀ c ∈ name, c ≠ 0 := by
  unfold Lldp.getPeerStationName at h
  dsimp only at h
  rw [Option.ite_none_left_eq_some] at h
  obtain rfl := Option.some.inj h.2
  intro c hc
  split at hc
  · have hafter : c ∈ afterDot (cstr info.portId.string) := List.mem_of_mem_take hc
    have hdrop := List.mem_of_mem_tail hafter
    exact cstr_ne_zero ((List.dropWhile_sublist _).mem hdrop)
  · split at hc
    · split at hc
      · exact cstr_ne_zero (List.mem_of_mem_take hc)
      · exact macAddressToString_ne_zero _ _ c hc
    · cases hc

theorem beforeDot_begins (s : List Byte) : beforeDot (cstr s) <+: s :=
  (List.takeWhile_prefix _).trans (List.takeWhile_prefix _)

namespace PortCheck

variable {c : PortConfig} {st : PortCheck} {send : Send}

/-- A peer that is not known has no names. -/
def NoNames (st : PortCheck) : Prop :=
  Lldp.getPeerStationName st.peerInfo st.behind = none ∧ st.peerInfo.portId.isValid = false

theorem Distinct.stationName_iff (h : st.Distinct c) {name : List Byte}
    (hname : Lldp.getPeerStationName st.peerInfo st.behind = some name) :
    strncmpEq name.length name st.records.peer.peerStationName.toList = true ↔
      peerStationName st.peerInfo st.behind = st.records.peer.stationName := by
  have hget : peerStationName st.peerInfo st.behind = name := by
    unfold peerStationName
    rw [hname]
    rfl
  rw [hget]
  constructor
  · intro heq
    exact h.stationName name hname (prefix_of_strncmpEq (stationName_ne_zero hname) heq)
  · intro heq
    apply strncmpEq_of_take
    rw [List.take_length]
    have hprefix : name <+: st.records.peer.peerStationName.toList := by
      rw [heq]
      exact List.take_prefix _ _
    exact List.prefix_iff_eq_take.mp hprefix

theorem Distinct.portName_iff (h : st.Distinct c) (hvalid : st.peerInfo.portId.isValid = true) :
    strncmpEq st.records.peer.lengthPeerPortName.toNat st.peerInfo.portId.string
        st.records.peer.peerPortName.toList = true ↔
      peerPortName st.peerInfo = st.records.peer.portName := by
  have hget : peerPortName st.peerInfo = beforeDot (cstr st.peerInfo.portId.string) :=
    if_pos hvalid
  rw [hget]
  constructor
  · exact h.portName hvalid
  · intro heq
    apply strncmpEq_of_take
    have hlength : (beforeDot (cstr st.peerInfo.portId.string)).length =
        st.records.peer.lengthPeerPortName.toNat := by
      rw [heq, PeerArrays.portName, List.length_take, Vector.length_toList]
      exact Nat.min_eq_left st.records.peer.lengthPeerPortName.isLt.le
    have hprefix := List.prefix_iff_eq_take.mp (beforeDot_begins st.peerInfo.portId.string)
    rw [hlength] at hprefix
    rw [← hprefix, heq]
    rfl

/-! ## A check -/

/-- What is reported about. -/
theorem peerReports_types : st.peerReports.map PeerReport.extChErrorType =
    PF_WRT_ERROR_NO_PEER_DETECTED ::
      ((if st.peerInfo.portId.isValid then [PF_WRT_ERROR_PEER_PORTNAME_MISMATCH] else []) ++
        if (Lldp.getPeerStationName st.peerInfo st.behind).isSome then
          [PF_WRT_ERROR_PEER_STATIONNAME_MISMATCH]
        else []) := by
  unfold peerReports checkPeerPortName checkPeerStationName
  rw [List.map_cons, List.map_append]
  congr 2
  · split
    · rfl
    · rfl
  · cases Lldp.getPeerStationName st.peerInfo st.behind with
    | none => rfl
    | some name => rfl

theorem peerReports_nodup : (st.peerReports.map PeerReport.extChErrorType).Nodup := by
  rw [peerReports_types]
  split
  · split
    · decide
    · decide
  · split
    · decide
    · decide

theorem told_stationName {d : Cmdev.Device} (hknown : st.isPeerInfoReceived = true → st.Distinct c)
    (hlost : st.isPeerInfoReceived = false → st.Fresh c ∧ st.NoNames)
    (hreports : ∀ r ∈ st.peerReports, c.Present d r.extChErrorType ↔ r.mismatch = true)
    (hothers : ∀ e ∉ st.peerReports.map PeerReport.extChErrorType,
      (c.Present d e ↔ c.Present st.net.dev e)) :
    c.Present d PF_WRT_ERROR_PEER_STATIONNAME_MISMATCH ↔
      st.isPeerInfoReceived = true ∧
        peerStationName st.peerInfo st.behind ≠ st.records.peer.stationName := by
  cases hname : Lldp.getPeerStationName st.peerInfo st.behind with
  | some name =>
    have hreport : st.checkPeerStationName =
        some ⟨!strncmpEq name.length name st.records.peer.peerStationName.toList,
          PF_WRT_ERROR_PEER_STATIONNAME_MISMATCH⟩ := by
      unfold checkPeerStationName
      rw [hname]
      rfl
    have hmem := List.mem_append_right st.checkPeerPortName.toList (Option.mem_toList.mpr hreport)
    rw [hreports _ (List.mem_cons_of_mem _ hmem)]
    cases hreceived : st.isPeerInfoReceived with
    | true =>
      rw [Bool.not_eq_true', ← Bool.not_eq_true, (hknown hreceived).stationName_iff hname]
      exact ⟨fun hne => ⟨rfl, hne⟩, And.right⟩
    | false =>
      have hnone := (hlost hreceived).2.1
      rw [hname] at hnone
      cases hnone
  | none =>
    -- nothing is reported about the name
    have hnot : PF_WRT_ERROR_PEER_STATIONNAME_MISMATCH ∉
        st.peerReports.map PeerReport.extChErrorType := by
      rw [peerReports_types, hname]
      split
      · decide
      · decide
    rw [hothers _ hnot]
    have hget : peerStationName st.peerInfo st.behind = [] := by
      unfold peerStationName
      rw [hname]
      rfl
    cases hreceived : st.isPeerInfoReceived with
    | true =>
      rw [(hknown hreceived).noStationName hname, hget]
      exact ⟨fun hne => ⟨rfl, hne.symm⟩, fun hne => hne.2.symm⟩
    | false => exact iff_of_false (hlost hreceived).1.1 fun h => Bool.false_ne_true h.1

theorem told_portName {d : Cmdev.Device} (hknown : st.isPeerInfoReceived = true → st.Distinct c)
    (hlost : st.isPeerInfoReceived = false → st.Fresh c ∧ st.NoNames)
    (hreports : ∀ r ∈ st.peerReports, c.Present d r.extChErrorType ↔ r.mismatch = true)
    (hothers : ∀ e ∉ st.peerReports.map PeerReport.extChErrorType,
      (c.Present d e ↔ c.Present st.net.dev e)) :
    c.Present d PF_WRT_ERROR_PEER_PORTNAME_MISMATCH ↔
      st.isPeerInfoReceived = true ∧ peerPortName st.peerInfo ≠ st.records.peer.portName := by
  cases hvalid : st.peerInfo.portId.isValid with
  | true =>
    have hmem : _ ∈ st.peerReports :=
      List.mem_cons_of_mem _ (List.mem_append_left _ (Option.mem_toList.mpr (if_pos hvalid)))
    rw [hreports _ hmem]
    cases hreceived : st.isPeerInfoReceived with
    | true =>
      rw [Bool.not_eq_true', ← Bool.not_eq_true, (hknown hreceived).portName_iff hvalid]
      exact ⟨fun hne => ⟨rfl, hne⟩, And.right⟩
    | false =>
      have hnone := (hlost hreceived).2.2
      rw [hvalid] at hnone
      cases hnone
  | false =>
    have hnot : PF_WRT_ERROR_PEER_PORTNAME_MISMATCH ∉
        st.peerReports.map PeerReport.extChErrorType := by
      rw [peerReports_types, hvalid, if_neg Bool.false_ne_true]
      split
      · decide
      · decide
    rw [hothers _ hnot]
    have hget : peerPortName st.peerInfo = [] := if_neg (Bool.eq_false_iff.mp hvalid)
    cases hreceived : st.isPeerInfoReceived with
    | true =>
      rw [(hknown hreceived).noPortName hvalid, hget]
      exact ⟨fun hne => ⟨rfl, hne.symm⟩, fun hne => hne.2.symm⟩
    | false => exact iff_of_false (hlost hreceived).1.2 fun h => Bool.false_ne_true h.1

/-- **What is present after a check is what the peer gives reason for**, when the check is one that
finds the names that differ. -/
theorem Checkable.told (h : st.Checkable c send) (hsound : Sound st.net)
    (hlost : st.isPeerInfoReceived = false → st.NoNames) :
    ∃ net, st.report c send st.peerReports = some { st with net } ∧ Sound net ∧
      { st with net }.Told c := by
  rcases h.target with ⟨q, hq⟩
  rcases reports_run hsound hq h.room peerReports_nodup with
    ⟨net, hrun, hsound', hreports, hothers⟩
  have hlost' := fun hno => And.intro (h.lost hno) (hlost hno)
  have hstation := told_stationName h.known hlost' hreports hothers
  have hport := told_portName h.known hlost' hreports hothers
  refine ⟨net, ?_, hsound', ?_⟩
  · unfold report
    rw [hrun]
    rfl
  · constructor
    · have hnoPeer := hreports st.checkNoPeerDetected List.mem_cons_self
      exact hnoPeer.trans (iff_of_eq (Bool.not_eq_true' _))
    · exact hstation
    · exact hport

/-! ## Steps -/

/-- What each step keeps. -/
structure Inv (c : PortConfig) (st : PortCheck) : Prop where
  sound : Sound st.net
  quiet : st.records.checkActive = false → c.Quiet st.net.dev
  noNames : st.isPeerInfoReceived = false → st.NoNames

/-- The event makes a check, if it is active. -/
theorem step_checked {e : PortEvent} {st' : PortCheck} (hinv : st.Inv c)
    (hchecks : st.step c e = st'.runPeerCheck c send)
    (hactive : st'.records.checkActive = true)
    (hnet : st'.net = st.net ∧ st'.isPeerInfoReceived = st.isPeerInfoReceived ∧
      st'.NoNames = st.NoNames)
    (hc : st'.Checkable c send) :
    st.Right c e ∧ ∀ st'', st.step c e = some st'' → st''.Inv c := by
  rcases hnet with ⟨hnet, hreceived, hnames⟩
  have hlost : st'.isPeerInfoReceived = false → st'.NoNames := by
    rw [hreceived, hnames]
    exact hinv.noNames
  rcases hc.told (hnet ▸ hinv.sound) hlost with ⟨net, hreport, hsound, htold⟩
  have hstep : st.step c e = some { st' with net } := by
    rw [hchecks, runPeerCheck, if_pos hactive]
    exact hreport
  have hnot : ¬ st'.records.checkActive = false := by
    rw [hactive]
    exact Bool.false_ne_true.symm
  constructor
  · exact ⟨_, hstep, fun _ => htold, fun hno => absurd hno hnot⟩
  · intro st'' hst''
    obtain rfl := Option.some.inj (hstep.symm.trans hst'')
    exact ⟨hsound, fun hno => absurd hno hnot, hlost⟩

/-- The event leaves the diagnosis alone. -/
theorem step_same {e : PortEvent} {st' : PortCheck} (hchecked : st.checked e = none)
    (hstep : st.step c e = some st') (hinv' : st'.Inv c) :
    st.Right c e ∧ ∀ st'', st.step c e = some st'' → st''.Inv c := by
  constructor
  · refine ⟨st', hstep, ?_, hinv'.quiet⟩
    intro h
    rw [hchecked] at h
    cases h
  · intro st'' hst''
    obtain rfl := Option.some.inj (hstep.symm.trans hst'')
    exact hinv'

theorem inv_write (hinv : st.Inv c) {index : BitVec 16} {bytes : ℕ → Byte} {dataLength : ℕ}
    (hno : ¬ st.writtenCheck index bytes dataLength) : (st.write index bytes dataLength).Inv c := by
  have hactive : (writePort index bytes dataLength st.records).2.checkActive =
      st.records.checkActive := by
    unfold writtenCheck at hno
    unfold writePort at hno ⊢
    by_cases hcheck : index = Rpc.PF_IDX_SUB_PDPORT_DATA_CHECK
    · rw [if_pos hcheck] at hno ⊢
      rw [writeDataCheck_eq] at hno ⊢
      split
      · rename_i htaken
        rw [if_pos htaken] at hno
        exact absurd ⟨hcheck, rfl⟩ hno
      · rfl
    · rw [if_neg hcheck]
      split
      · rw [writeDataAdj_eq]
        split
        · rfl
        · rfl
      · rfl
  refine ⟨hinv.sound, ?_, hinv.noNames⟩
  intro hquiet
  exact hinv.quiet (hactive.symm.trans hquiet)

theorem active_of_written {index : BitVec 16} {bytes : ℕ → Byte} {dataLength : ℕ}
    (h : st.writtenCheck index bytes dataLength) :
    (st.write index bytes dataLength).records.checkActive = true := by
  rcases h with ⟨rfl, hret⟩
  unfold write
  unfold writePort at hret ⊢
  rw [if_pos rfl, writeDataCheck_eq] at hret ⊢
  split
  · rfl
  · rename_i htaken
    rw [if_neg htaken] at hret
    cases hret

/-- Nothing is added. -/
theorem room_of_none {rs : List PeerReport} (net : Net) (h : ∀ r ∈ rs, r.mismatch = false) :
    Room c send net rs := by
  induction rs generalizing net with
  | nil => trivial
  | cons r rs ih =>
    constructor
    · intro hr
      rw [h r List.mem_cons_self] at hr
      cases hr
    · intro ret net' _
      exact ih net' fun r' hr' => h r' (List.mem_cons_of_mem _ hr')

/-- A step that is `Orderly` is `Right`. -/
theorem right_step {e : PortEvent} (hinv : st.Inv c) (ho : Orderly c st e) :
    st.Right c e ∧ ∀ st', st.step c e = some st' → st'.Inv c := by
  cases e with
  | storePeerInfo newInfo behind =>
    apply step_same rfl rfl
    exact ⟨hinv.sound, hinv.quiet, fun h => absurd h.symm Bool.false_ne_true⟩
  | invalidatePeerInfo =>
    apply step_same rfl rfl
    exact ⟨hinv.sound, hinv.quiet, fun _ => ⟨rfl, rfl⟩⟩
  | writeReq index bytes dataLength send =>
    by_cases hwritten : st.writtenCheck index bytes dataLength
    · have hchecked : st.checked (.writeReq index bytes dataLength send) =
          some (st.write index bytes dataLength) := if_pos hwritten
      have hstep : st.step c (.writeReq index bytes dataLength send) =
          (st.write index bytes dataLength).runPeerCheck c send := if_pos hwritten
      apply step_checked hinv hstep (active_of_written hwritten) ⟨rfl, rfl, rfl⟩
      exact ho _ hchecked
    · exact step_same (if_neg hwritten) (if_neg hwritten) (inv_write hinv hwritten)
  | periodic send =>
    by_cases hupdated : st.lldpPeerInfoUpdated = true
    · by_cases hactive : st.records.checkActive = true
      · have hchecked : st.checked (.periodic send) =
            some { st with lldpPeerInfoUpdated := false } := if_pos ⟨hupdated, hactive⟩
        have hstep : st.step c (.periodic send) =
            { st with lldpPeerInfoUpdated := false }.runPeerCheck c send := if_pos hupdated
        apply step_checked hinv hstep hactive ⟨rfl, rfl, rfl⟩
        exact ho _ hchecked
      · have hstep : st.step c (.periodic send) = some { st with lldpPeerInfoUpdated := false } :=
          (if_pos hupdated).trans (if_neg hactive)
        exact step_same (if_neg fun h => hactive h.2) hstep ⟨hinv.sound, hinv.quiet, hinv.noNames⟩
    · exact step_same (if_neg fun h => hupdated h.1) (if_neg hupdated) hinv
  | resetAll send =>
    have hnone : ∀ r ∈ allRemoved, r.mismatch = false := by
      unfold allRemoved
      decide
    rcases ho with ⟨q, hq⟩ | hquiet
    · rcases reports_run hinv.sound hq (room_of_none st.net hnone) (by decide) with
        ⟨net, hrun, hsound, hreports, -⟩
      have hquiet : c.Quiet net.dev := by
        intro r hr hpresent
        have hmismatch := (hreports r hr).mp hpresent
        rw [hnone r hr] at hmismatch
        cases hmismatch
      have hstep : st.step c (.resetAll send) =
          some { st with net, lldpPeerInfoUpdated := false, records := .zero } :=
        Option.map_eq_some_iff.mpr ⟨net, hrun, rfl⟩
      exact step_same rfl hstep ⟨hsound, fun _ => hquiet, hinv.noNames⟩
    · rcases removes_run hinv.sound hnone with ⟨net, hrun, hsound, hless⟩
      have hstep : st.step c (.resetAll send) =
          some { st with net, lldpPeerInfoUpdated := false, records := .zero } :=
        Option.map_eq_some_iff.mpr ⟨net, hrun, rfl⟩
      exact step_same rfl hstep
        ⟨hsound, fun _ r hr hpresent => hquiet r hr (hless _ hpresent), hinv.noNames⟩
  | request op send =>
    rcases hinv.sound.run send ho.1 with ⟨ret, net, hrun, hsound, hfollows⟩
    have hstep : st.step c (.request op send) = some { st with net } := by
      apply Option.map_eq_some_iff.mpr
      refine ⟨net, ?_, rfl⟩
      rw [runOps, hrun]
      rfl
    exact step_same rfl hstep
      ⟨hsound, fun h => quiet_of_foreign ho hrun hfollows (hinv.quiet h), hinv.noNames⟩

/-- **What is present follows the peer**: in every run whose steps are `Orderly`, the diagnoses of
the port are after each check what the peer gives reason for, and there are none when no check is
active. -/
theorem right_of_orderly (c : PortConfig) (start : PortCheck) (hstart : start.Started c)
    (es : List PortEvent) (h : Runs.Along (step c) (Orderly c) start es) :
    Runs.Along (step c) (Right c) start es := by
  have hinv : start.Inv c := by
    refine ⟨⟨hstart.isPartition, hstart.unique⟩, fun _ => hstart.quiet, ?_⟩
    intro _
    unfold NoNames
    rw [hstart.noPeer.2]
    exact ⟨rfl, rfl⟩
  apply h.of_invariant hinv
  · intro st e hinv ho
    exact (right_step hinv ho).1
  · intro st e st' hinv ho hstep
    exact (right_step hinv ho).2 st' hstep

end PortCheck

/-! ## A name that begins another one -/

instance (c : PortConfig) (d : Cmdev.Device) (e : BitVec 16) : Decidable (c.Present d e) :=
  decidable_of_iff ((c.subslot d).any (fun q => (d.store q (c.key e)).isSome) = true)
    (by simp only [Option.any_eq_true, PortConfig.Present])

instance (c : PortConfig) (d : Cmdev.Device) : Decidable (c.Quiet d) :=
  inferInstanceAs (Decidable (∀ r ∈ PortCheck.allRemoved, _))

namespace PeerExample

open PortCheck

def config : PortConfig := ⟨1, false⟩

def send : Send := fun _ _ _ => 0

/-- The submodule of the port is plugged, and an AR takes all there is. -/
def connect : List PoolStep :=
  [.plugSubmodule 0 0 0x8001 ⟨1, 1, 0, 0, 0⟩ false,
    .assign (fun i => if i = 0 then TwoSubmodules.ar else .cleared)
      { apiAr := fun _ => some 0
        slotAr := fun _ => some 0
        expModuleIdentNumber := fun _ => 0
        plugState := fun _ => .PF_MOD_PLUG_PROPER_MODULE
        subslotAr := fun _ => some 0
        expSubmoduleIdentNumber := fun _ => 0
        submoduleState := fun _ => clearedState }]

def start (net : Net) : PortCheck := ⟨net, false, .zero, fun _ => 0, false, .zero⟩

def portName : List Byte := ['p', 'o', 'r', 't', '-', '0', '0', '1'].map charByte

def wantedStation : List Byte := ['d', 'u', 't'].map charByte

/-- A peer whose port id has the name of the station. -/
def peer (stationName : List Byte) : PeerInfo :=
  { PeerInfo.zero with portId := ⟨portName ++ dot :: stationName, 7, true, 12⟩ }

/-- A check for the port `port-001` of the station `dut`. -/
def record : List Byte :=
  [0, 0, 0, 0, 0, 0, 0x02, 0x0a, 0, 0, 0, 0, 1, 8] ++ portName ++ 3 :: wantedStation

def write : PortEvent :=
  .writeReq Rpc.PF_IDX_SUB_PDPORT_DATA_CHECK (fun i => record.getD i 0) record.length send

theorem write_accepted : (writePort Rpc.PF_IDX_SUB_PDPORT_DATA_CHECK (fun i => record.getD i 0)
    record.length .zero).1 = 0 := by
  decide +kernel

theorem checked_write {st : PortCheck} (h : st.records = .zero) : st.checked write =
    some (st.write Rpc.PF_IDX_SUB_PDPORT_DATA_CHECK (fun i => record.getD i 0) record.length) := by
  have hwritten : st.writtenCheck Rpc.PF_IDX_SUB_PDPORT_DATA_CHECK (fun i => record.getD i 0)
      record.length := by
    refine ⟨rfl, ?_⟩
    rw [h]
    exact write_accepted
  unfold PeerExample.write PortCheck.checked
  exact if_pos hwritten

theorem connect_run : ∃ net, LostItem.start.run connect = some net ∧
    (start net).Started config := by
  rcases Net.run_isPartition connect LostItem.start Device.isPartition_init
    ⟨fun _ _ h => Bool.noConfusion h.1, fun _ _ => ⟨fun _ _ h => h.elim, fun _ _ => trivial⟩⟩ with
    ⟨net, hrun, hp⟩
  have hempty : ((LostItem.start.run connect).map fun net => decide
      ((∀ q ∈ subslotPositions, net.dev.InUse q → net.dev.diagnoses q = []) ∧
        config.Quiet net.dev)) = some true := by
    decide +kernel
  rw [hrun, Option.map_some, Option.some.injEq, decide_eq_true_eq] at hempty
  refine ⟨net, hrun, hp, ?_, hempty.2, rfl, rfl⟩
  intro q hq
  change KeyedList.Unique DiagItem.key (net.dev.diagnoses q)
  rw [hempty.1 q hq.mem_positions hq]
  exact List.nodup_nil

end PeerExample

open PeerExample PortCheck in
/-- A peer is found when it has been missed. -/
theorem right_found : ∃ net, LostItem.start.run connect = some net ∧
    Runs.Along (step config) (Right config) (start net)
      [write, .storePeerInfo (peer wantedStation) fun _ => 0] := by
  rcases connect_run with ⟨net, hrun, hstart⟩
  refine ⟨net, hrun, right_of_orderly config (start net) hstart _ ⟨?_, fun _ _ => ⟨trivial, ?_⟩⟩⟩
  · have hready : ((LostItem.start.run connect).map fun net => decide
        ((net.dev.target config.initDiagSource).isSome = true ∧
          net.dev.diagItemsFree ≠ PF_DIAG_IX_NULL)) = some true := by
      decide +kernel
    rw [hrun, Option.map_some, Option.some.injEq, decide_eq_true_eq] at hready
    intro st' hst'
    obtain rfl := Option.some.inj ((checked_write rfl).symm.trans hst')
    constructor
    · exact Option.isSome_iff_exists.mp hready.1
    · exact ⟨fun _ => .inr hready.2, fun _ _ _ => trivial⟩
    · intro hknown
      cases hknown
    · intro _
      exact ⟨hstart.quiet _ List.mem_cons_self,
        hstart.quiet _ (List.mem_cons_of_mem _ List.mem_cons_self)⟩
  · intro _ _
    trivial

open PeerExample PortCheck in
/-- The station `du` is not found to be a wrong one. -/
theorem not_right_prefix : ∃ net, LostItem.start.run connect = some net ∧
    (start net).Started config ∧
    ¬ Runs.Along (step config) (Right config) (start net)
      [.storePeerInfo (peer (wantedStation.take 2)) fun _ => 0, write] := by
  rcases connect_run with ⟨net, hrun, hstart⟩
  refine ⟨net, hrun, hstart, ?_⟩
  have hpresent : ((LostItem.start.run connect).bind fun net =>
      (Runs.run (step config) (start net)
        [.storePeerInfo (peer (wantedStation.take 2)) fun _ => 0, write]).map fun st => decide
          (config.Present st.net.dev PF_WRT_ERROR_PEER_STATIONNAME_MISMATCH ∨
            st.isPeerInfoReceived = false ∨
            peerStationName st.peerInfo st.behind = st.records.peer.stationName)) =
      some false := by
    decide +kernel
  rw [hrun, Option.bind_some] at hpresent
  rcases Option.map_eq_some_iff.mp hpresent with ⟨st', hst', hno⟩
  have hno := of_decide_eq_false hno
  rw [not_or, not_or] at hno
  intro h
  rcases (h.2 _ rfl).1 with ⟨st, hstep, htold, -⟩
  have hst : st = st' := by
    rcases Option.bind_eq_some_iff.mp hst' with ⟨st₁, hst₁, hlast⟩
    obtain rfl := Option.some.inj hst₁
    rcases Option.bind_eq_some_iff.mp hlast with ⟨st₂, hst₂, hend⟩
    exact (Option.some.inj (hstep.symm.trans hst₂)).trans (Option.some.inj hend)
  subst hst
  apply hno.1
  have htold := htold (congrArg Option.isSome (checked_write rfl))
  exact htold.stationName.mpr ⟨Bool.eq_true_of_not_eq_false hno.2.1, hno.2.2⟩

end PNet.Pdport
