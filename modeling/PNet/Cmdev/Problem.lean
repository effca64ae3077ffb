import PNet.Cmdev.Partition

/-! # The station problem indicator

The indicator in the data status of an AR tells of a problem when its bit is 0.

* `Net.IsRight` - every AR indicates a problem exactly if a submodule of it has a fault
* `isRight_iff_of_effect` - when a request keeps this
* `isRight_of_run` - runs of requests that all do
-/

namespace PNet.Cmdev

open Connect Cyclic

/-! ## Faults -/

/-- The item is a fault, as the state of the submodule counts them. -/
def DiagItem.isFault (item : DiagItem) : Bool :=
  item.inUse && (decide (item.usi < PF_USI_CHANNEL_DIAGNOSIS) || item.appears && item.isStdFault)

/-- All places of the tree. -/
def subslotPositions : List SubslotPos :=
  (List.range PNET_MAX_API).flatMap fun a => (List.range PNET_MAX_SLOTS).flatMap fun s =>
    (List.range PNET_MAX_SUBSLOTS).map fun i => (a, s, i)

theorem Device.InUse.mem_positions {d : Device} {q : SubslotPos} (h : d.InUse q) :
    q ∈ subslotPositions := by
  obtain ⟨⟨ha, -⟩, ⟨hs, -⟩, hi, -⟩ := h
  simp only [subslotPositions, List.mem_flatMap, List.mem_map, List.mem_range]
  exact ⟨q.1, ha, q.2.1, hs, q.2.2, hi, rfl⟩

instance (d : Device) (q : SubslotPos) : Decidable (d.InUse q) :=
  inferInstanceAs (Decidable (_ ∧ _))

namespace Net

/-- With the diagnosis `l`, some submodule of the AR has a fault. -/
def faultyWith (net : Net) (l : SubslotPos → List DiagItem) (ar : ℕ) : Bool :=
  subslotPositions.any fun q =>
    net.dev.InUse q && decide ((net.dev.subslots q).pAr = some ar) && (l q).any DiagItem.isFault

/-- Some submodule of the AR has a fault. -/
def faulty (net : Net) (ar : ℕ) : Bool := net.faultyWith net.dev.diagnoses ar

theorem faulty_iff (net : Net) (ar : ℕ) :
    net.faulty ar = true ↔ ∃ q, net.dev.InUse q ∧ (net.dev.subslots q).pAr = some ar ∧
      ∃ item ∈ net.dev.diagnoses q, item.isFault = true := by
  simp only [faulty, faultyWith, List.any_eq_true, Bool.and_eq_true, decide_eq_true_eq]
  constructor
  · rintro ⟨q, -, ⟨hu, hq⟩, hitem⟩
    exact ⟨q, hu, hq, hitem⟩
  · rintro ⟨q, hu, hq, hitem⟩
    exact ⟨q, hu.mem_positions, ⟨hu, hq⟩, hitem⟩

end Net

/-! ## The indicator -/

/-- The data status of every producer of the AR indicates a problem, or none does. -/
def Ar.Indicates (ar : Ar) (problem : Bool) : Prop :=
  ∀ crep < PNET_MAX_CR, (ar.iocrs crep).isInput = true →
    (ar.iocrs crep).ppm.dataStatus.getLsbD PNET_DATA_STATUS_BIT_STATION_PROBLEM_INDICATOR = !problem

instance (ar : Ar) (problem : Bool) : Decidable (ar.Indicates problem) :=
  inferInstanceAs (Decidable (∀ crep < PNET_MAX_CR, _ → _))

/-- The AR has a producer. -/
def Ar.Produces (ar : Ar) : Prop :=
  ∃ crep < PNET_MAX_CR, (ar.iocrs crep).isInput = true

instance (ar : Ar) : Decidable ar.Produces :=
  inferInstanceAs (Decidable (∃ crep < PNET_MAX_CR, _))

theorem Ar.Indicates.iff {ar : Ar} {p p' : Bool} (h : ar.Indicates p) (hp : ar.Produces) :
    ar.Indicates p' ↔ p = p' := by
  constructor
  · intro h'
    obtain ⟨crep, hlt, hin⟩ := hp
    have heq := (h crep hlt hin).symm.trans (h' crep hlt hin)
    simpa using heq
  · rintro rfl
    exact h

theorem Ar.indicates_of_not_produces {ar : Ar} (h : ¬ ar.Produces) (p : Bool) : ar.Indicates p :=
  fun crep hlt hin => absurd ⟨crep, hlt, hin⟩ h

theorem getLsbD_setProblemIndicator (x : Ppm) (p : Bool) :
    (x.setProblemIndicator p).dataStatus.getLsbD
      PNET_DATA_STATUS_BIT_STATION_PROBLEM_INDICATOR = !p := by
  cases p with
  | false => simp [Ppm.setProblemIndicator, Ppm.setDataStatus, bitMask,
      PNET_DATA_STATUS_BIT_STATION_PROBLEM_INDICATOR]
  | true => simp [Ppm.setProblemIndicator, Ppm.setDataStatus, bitMask,
      PNET_DATA_STATUS_BIT_STATION_PROBLEM_INDICATOR]

theorem isInput_setProblemIndicator (ar : Ar) (p : Bool) (crep : ℕ) :
    ((ar.setProblemIndicator p).iocrs crep).isInput = (ar.iocrs crep).isInput := by
  simp only [Ar.setProblemIndicator]
  split <;> rfl

theorem indicates_setProblemIndicator (ar : Ar) (p : Bool) :
    (ar.setProblemIndicator p).Indicates p := by
  intro crep hlt hin
  rw [isInput_setProblemIndicator] at hin
  simp only [Ar.setProblemIndicator, hlt, hin, and_self, if_true]
  exact getLsbD_setProblemIndicator _ p

theorem produces_setProblemIndicator (ar : Ar) (p : Bool) :
    (ar.setProblemIndicator p).Produces ↔ ar.Produces := by
  simp only [Ar.Produces, isInput_setProblemIndicator]

/-- Every AR indicates a problem exactly if one of its submodules has a fault. -/
def Net.IsRight (net : Net) : Prop :=
  ∀ ar < PNET_MAX_AR, (net.ars ar).inUse = true → (net.ars ar).Indicates (net.faulty ar)

instance (net : Net) : Decidable net.IsRight :=
  inferInstanceAs (Decidable (∀ ar < PNET_MAX_AR, _ → _))

/-! ## One request -/

namespace Net

variable {net : Net} {q : SubslotPos} {l : List DiagItem} {dev : Device}

/-- Some submodule of the AR has a fault when the diagnosis of `q` is `l`. -/
def faultyAfter (net : Net) (q : SubslotPos) (l : List DiagItem) (ar : ℕ) : Bool :=
  net.faultyWith (fun q' => if q' = q then l else net.dev.diagnoses q') ar

/-- The request leaves what the code looks at in accord with the faults: for the first AR in use
the code looks at the subslot of the request only, for the others it does nothing. -/
def SeesFaults (net : Net) (op : DiagOp) : Prop :=
  ∀ e ∈ op.effect net.dev, ∀ ar < PNET_MAX_AR, (net.ars ar).inUse = true →
    (net.ars ar).Produces →
      (if net.findFirstAr = some ar then e.2.any DiagItem.isProblem else net.faulty ar) =
        net.faultyAfter e.1 e.2 ar

instance (op : DiagOp) : Decidable (net.SeesFaults op) :=
  inferInstanceAs (Decidable (∀ e ∈ op.effect net.dev, _))

theorem faulty_edited (h : Device.Edited net.dev dev q l) (ar : ℕ) :
    ({ net with dev }.indicate q).faulty ar = net.faultyAfter q l ar := by
  rw [Bool.eq_iff_iff, faulty_iff, indicate_dev]
  simp only [faultyAfter, faultyWith, List.any_eq_true, Bool.and_eq_true, decide_eq_true_eq]
  constructor
  · rintro ⟨q', hu, hq', hitem⟩
    rw [h.inUse] at hu
    rw [h.owner] at hq'
    rw [h.diagnoses q' hu] at hitem
    exact ⟨q', hu.mem_positions, ⟨hu, hq'⟩, hitem⟩
  · rintro ⟨q', -, ⟨hu, hq'⟩, hitem⟩
    refine ⟨q', (h.inUse q').mpr hu, (h.owner q').trans hq', ?_⟩
    rwa [h.diagnoses q' hu]

theorem inUse_of_findFirstAr {ar : ℕ} (h : net.findFirstAr = some ar) : (net.ars ar).inUse = true := by
  have htest := List.find?_some h
  exact htest

/-- What the ARs are after a request. -/
theorem indicate_ars (h : Device.Edited net.dev dev q l) (hq : net.dev.InUse q) (ar : ℕ) :
    ({ net with dev }.indicate q).ars ar =
      if net.findFirstAr = some ar then
        (net.ars ar).setProblemIndicator (l.any DiagItem.isProblem)
      else net.ars ar := by
  have hl : dev.diagnoses q = l := by rw [h.diagnoses q hq, if_pos rfl]
  have hfirst : findFirstAr ⟨dev, net.ars⟩ = net.findFirstAr := rfl
  unfold indicate
  rw [hfirst]
  cases hf : net.findFirstAr with
  | none => simp
  | some f =>
    by_cases har : ar = f
    · subst har
      simp [hl]
    · have hne : f ≠ ar := fun h => har h.symm
      simp [har, hne]

end Net

/-- **When a request leaves the indicators right.** -/
theorem isRight_iff_of_effect {net : Net} {op : DiagOp} {q : SubslotPos} {l : List DiagItem}
    {dev : Device} (hr : net.IsRight) (heff : op.effect net.dev = some (q, l))
    (h : Device.Edited net.dev dev q l) :
    ({ net with dev }.indicate q).IsRight ↔ net.SeesFaults op := by
  have hars := Net.indicate_ars h (DiagOp.effect_inUse heff)
  constructor
  · intro hr' e heff' ar hlt hu hp
    obtain rfl : (q, l) = e := Option.some.inj (heff.symm.trans heff')
    have har := hr' ar hlt
    rw [hars, Net.faulty_edited h] at har
    by_cases hf : net.findFirstAr = some ar
    · rw [if_pos hf] at har ⊢
      exact ((indicates_setProblemIndicator _ _).iff
        ((produces_setProblemIndicator _ _).mpr hp)).mp (har hu)
    · rw [if_neg hf] at har ⊢
      exact ((hr ar hlt hu).iff hp).mp (har hu)
  · intro hs ar hlt hu
    rw [hars] at hu ⊢
    rw [Net.faulty_edited h]
    by_cases hf : net.findFirstAr = some ar
    · rw [if_pos hf] at hu ⊢
      by_cases hp : (net.ars ar).Produces
      · have heq := hs (q, l) heff ar hlt (Net.inUse_of_findFirstAr hf) hp
        rw [if_pos hf] at heq
        rw [← heq]
        exact indicates_setProblemIndicator _ _
      · exact Ar.indicates_of_not_produces (fun h => hp ((produces_setProblemIndicator _ _).mp h)) _
    · rw [if_neg hf] at hu ⊢
      by_cases hp : (net.ars ar).Produces
      · have heq := hs (q, l) heff ar hlt hu hp
        rw [if_neg hf] at heq
        rw [← heq]
        exact hr ar hlt hu
      · exact Ar.indicates_of_not_produces hp _

/-! ## Runs -/

/-- The requests, each with the answers of the AR to its alarms. -/
def runOps (net : Net) : List (Send × DiagOp) → Option Net
  | [] => some net
  | (send, op) :: ops => (op.run net send).bind fun r => runOps r.2 ops

/-- Every request of the run leaves what the code looks at in accord with the faults. -/
def SeesFaults (net : Net) : List (Send × DiagOp) → Prop
  | [] => True
  | (send, op) :: ops => net.SeesFaults op ∧ ∀ ret net', op.run net send = some (ret, net') →
      SeesFaults net' ops

theorem DiagOp.run_isRight {net : Net} (hp : net.dev.IsPartition) (hr : net.IsRight) (send : Send)
    {op : DiagOp} (hs : net.SeesFaults op) :
    ∃ ret net', op.run net send = some (ret, net') ∧ net'.dev.IsPartition ∧ net'.IsRight := by
  obtain ⟨L, hL⟩ := hp
  have hspec := op.run_spec hL send
  cases heff : op.effect net.dev with
  | none =>
    rw [heff] at hspec
    obtain ⟨ret, hret⟩ := hspec
    exact ⟨ret, net, hret, ⟨L, hL⟩, hr⟩
  | some e =>
    rw [heff] at hspec
    obtain ⟨ret, dev', hret, hed⟩ := hspec
    refine ⟨ret, _, hret, ?_, (isRight_iff_of_effect hr heff hed).mpr hs⟩
    rw [Net.indicate_dev]
    exact hed.isPartition

theorem SeesFaults.take {ops : List (Send × DiagOp)} (k : ℕ) :
    ∀ {net : Net}, SeesFaults net ops → SeesFaults net (ops.take k) := by
  induction ops generalizing k with
  | nil => simp [SeesFaults]
  | cons op ops ih =>
    intro net h
    cases k with
    | zero => trivial
    | succ k => exact ⟨h.1, fun ret net' hrun => ih k (h.2 ret net' hrun)⟩

theorem runOps_isRight (ops : List (Send × DiagOp)) : ∀ net : Net, net.dev.IsPartition →
    net.IsRight → SeesFaults net ops →
      ∃ net', runOps net ops = some net' ∧ net'.dev.IsPartition ∧ net'.IsRight := by
  induction ops with
  | nil => exact fun net hp hr _ => ⟨net, rfl, hp, hr⟩
  | cons op ops ih =>
    intro net hp hr hs
    obtain ⟨ret, net₁, hrun, hp₁, hr₁⟩ := op.2.run_isRight hp hr op.1 hs.1
    rw [runOps, hrun]
    exact ih net₁ hp₁ hr₁ (hs.2 ret net₁ hrun)

namespace TwoSubmodules

/-- An AR with one producer, which indicates no problem. -/
def ar : Ar where
  inUse := true
  iocrs crep :=
    ⟨if crep = 0 then PF_IOCR_TYPE_INPUT else PF_IOCR_TYPE_OUTPUT, { Ppm.cleared with
      dataStatus := bitMask PNET_DATA_STATUS_BIT_STATION_PROBLEM_INDICATOR }⟩
  expApis := []

/-- Two submodules are plugged, and an AR takes all there is. -/
def connect : List PoolStep :=
  [.plugSubmodule 0 1 1 ⟨1, 1, 0, 0, 0⟩ false, .plugSubmodule 0 1 2 ⟨1, 1, 0, 0, 0⟩ false,
    .assign (fun i => if i = 0 then ar else .cleared)
      { apiAr := fun _ => some 0
        slotAr := fun _ => some 0
        expModuleIdentNumber := fun _ => 0
        plugState := fun _ => .PF_MOD_PLUG_PROPER_MODULE
        subslotAr := fun _ => some 0
        expSubmoduleIdentNumber := fun _ => 0
        submoduleState := fun _ => clearedState }]

/-- A diagnosis in the standard format. -/
def diagnosis (subslot : BitVec 16) (severity : DiagMaint) : Diagnosis where
  source := ⟨0, 1, subslot, 1, false, .PNET_DIAG_CH_PROP_DIR_INPUT⟩
  chBits := 0
  severity
  chErrorType := 1
  extChErrorType := 0
  extChAddValue := 0
  qualChQualifier := 0
  usi := PF_USI_EXTENDED_CHANNEL_DIAGNOSIS
  manufDataLen := 0
  manufData := none

def send : Send := fun _ _ _ => 0

def addFault : Send × DiagOp := (send, .add (diagnosis 1 .PNET_DIAG_CH_PROP_MAINT_FAULT))

def addMaintenance : Send × DiagOp := (send, .add (diagnosis 2 .PNET_DIAG_CH_PROP_MAINT_REQUIRED))

theorem connect_run : ∃ net, LostItem.start.run connect = some net ∧ net.dev.IsPartition :=
  Net.run_isPartition connect LostItem.start Device.isPartition_init
    ⟨fun _ _ h => Bool.noConfusion h.1, fun _ _ =>
      ⟨fun _ _ h => Bool.noConfusion h.1, fun _ _ => ⟨fun _ _ h => h.elim, fun _ _ => trivial⟩⟩⟩

theorem start_isRight : ((LostItem.start.run connect).map fun net =>
    decide (net.IsRight ∧ net.SeesFaults addFault.2)) = some true := by
  decide +kernel

theorem end_isRight : (((LostItem.start.run connect).bind fun net =>
    runOps net [addFault, addMaintenance]).map fun net => decide net.IsRight) = some false := by
  decide +kernel

end TwoSubmodules

end PNet.Cmdev
