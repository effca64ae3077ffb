import PNet.Cmina.Model

/-! # What the state tells

The state of CMINA tells whether the device has a name and an address. A DCP Set keeps this, but
one that takes the name away while the device waits for a connection does not. A reset never
looks at the state, and keeps it only when what it leaves is of the same kind as before.
-/

namespace PNet.Cmina

/-! ## The state of a configuration -/

/-- The state a name and an address call for. -/
def stateOf (stationName : List Byte) (ipSuite : IpSuite) : CminaState :=
  if stationName = [] then .PF_CMINA_STATE_SET_NAME
  else if ipSuite.isSet = false then .PF_CMINA_STATE_SET_IP
  else .PF_CMINA_STATE_W_CONNECT

def DcpAse.stateOf (x : DcpAse) : CminaState := Cmina.stateOf x.stationName x.ipSuite

/-- The state is `SET_NAME` exactly without a name, `SET_IP` exactly with a name and without an
address, and `W_CONNECT` exactly with both. -/
def Tells (net : Net) : Prop :=
  (net.state = .PF_CMINA_STATE_SET_NAME ↔ net.current.stationName = []) ∧
    (net.state = .PF_CMINA_STATE_SET_IP ↔
      net.current.stationName ≠ [] ∧ net.current.ipSuite.isSet = false) ∧
    (net.state = .PF_CMINA_STATE_W_CONNECT ↔
      net.current.stationName ≠ [] ∧ net.current.ipSuite.isSet = true)

instance (net : Net) : Decidable (Tells net) := inferInstanceAs (Decidable (_ ∧ _))

theorem tells_iff (net : Net) : Tells net ↔ net.state = net.current.stateOf := by
  unfold Tells DcpAse.stateOf Cmina.stateOf
  by_cases hname : net.current.stationName = []
  · cases hstate : net.state <;> simp [hname]
  · cases hip : net.current.ipSuite.isSet <;> cases hstate : net.state <;> simp [hname]

/-! ## Steps -/

/-- A step of the device. -/
inductive Step where
  | set (opt sub : Byte) (blockQualifier : BitVec 16) (value : SetValue) (blockError : Byte)
  | commit
  /-- `pnet_factory_reset`; it leaves the ARs `ars`. -/
  | factoryReset (ars : ℕ → Ar)
  | save (saved : Bool)
  /-- The files are removed. -/
  | removeFiles
  /-- ARs come and go. -/
  | connect (ars : ℕ → Ar)

def step (env : Env) (net : Net) : Step → Net
  | .set opt sub blockQualifier value blockError =>
    (dcpSetInd env net opt sub blockQualifier value blockError).2.2
  | .commit => dcpSetCommit net
  | .factoryReset ars => dcpSetCommit (setDefaultCfg env { net with ars } 99).2
  | .save saved => saveAse net saved
  | .removeFiles => { net with file := none }
  | .connect ars => { net with ars }

def run (env : Env) (steps : List Step) (net : Net) : Net := steps.foldl (step env) net

/-- The mode of the reset that a DCP Set asks for. -/
def resetMode? (opt sub : Byte) (blockQualifier : BitVec 16) : Option (BitVec 16) :=
  if opt = PF_DCP_OPT_CONTROL ∧ sub = PF_DCP_SUB_CONTROL_FACTORY_RESET then some 99
  else if opt = PF_DCP_OPT_CONTROL ∧ sub = PF_DCP_SUB_CONTROL_RESET_TO_FACTORY then
    some (blockQualifier >>> 1)
  else none

/-- The state that the configuration left by a reset calls for: the file or the user configuration
for mode 0, the permanent data for mode 1, nothing for the others. -/
def stateAfterReset (env : Env) (net : Net) (resetMode : BitVec 16) : CminaState :=
  if resetMode = 0 then
    match net.file with
    | some fileAse => fileAse.stateOf
    | none => stateOf env.stationName env.ipCfg
  else if resetMode = 1 then net.nonvolatile.stateOf
  else .PF_CMINA_STATE_SET_NAME

/-- The step does not take the name away while the device waits for a connection, and is not a
reset to a configuration that calls for another state. -/
def KeepsState (env : Env) (net : Net) : Step → Prop
  | .set opt sub blockQualifier value _ =>
    ¬ (net.state = .PF_CMINA_STATE_W_CONNECT ∧ opt = PF_DCP_OPT_DEVICE_PROPERTIES ∧
      sub = PF_DCP_SUB_DEV_PROP_NAME ∧ value.bytes = []) ∧
    ∀ resetMode, resetMode? opt sub blockQualifier = some resetMode →
      stateAfterReset env net resetMode = net.state
  | .factoryReset _ => net.state = .PF_CMINA_STATE_SET_NAME
  | _ => True

/-! ## Resets -/

variable {env : Env} {net : Net}

theorem setDefaultCfg_state (resetMode : BitVec 16) :
    (setDefaultCfg env net resetMode).2.state = net.state := rfl

theorem setDefaultCfg_stateOf (resetMode : BitVec 16) :
    (setDefaultCfg env net resetMode).2.current.stateOf = stateAfterReset env net resetMode := by
  unfold setDefaultCfg stateAfterReset DcpAse.stateOf
  by_cases h0 : resetMode = 0
  · subst h0
    cases hfile : net.file <;> rfl
  · by_cases h1 : resetMode = 1
    · subst h1
      rfl
    · have hclear : resetMode = 2 ∨ 3 ≤ resetMode := by
        have hne0 : ¬ resetMode.toNat = 0 := fun h => h0 (BitVec.eq_of_toNat_eq h)
        have hne1 : ¬ resetMode.toNat = 1 := fun h => h1 (BitVec.eq_of_toNat_eq h)
        by_cases h2 : resetMode.toNat = 2
        · exact .inl (BitVec.eq_of_toNat_eq h2)
        · exact .inr (by rw [BitVec.le_def]; show 3 ≤ _; omega)
      simp only [h0, h1, if_false, hclear, decide_true, if_true]
      rfl

/-! ## Edits -/

/-- An edit says what it changes. -/
structure Edit.Fits (net : Net) (x : Edit) : Prop where
  state : x.net.state = net.state
  file : x.net.file = net.file
  reset : x.resetMode ≠ none → x.ok = true
  same : x.ok = false ∨ x.resetMode ≠ none →
    x.net.current = net.current ∧ x.net.nonvolatile = net.nonvolatile
  name : x.changeName = true ↔ x.net.current.stationName ≠ net.current.stationName
  ip : x.changeIp = true ↔ x.net.current.ipSuite ≠ net.current.ipSuite

theorem fits_refused (net : Net) (blockError : Byte) : (Edit.refused net blockError).Fits net where
  state := rfl
  file := rfl
  reset h := absurd rfl h
  same _ := ⟨rfl, rfl⟩
  name := by simp [Edit.refused]
  ip := by simp [Edit.refused]

theorem fits_ipPar (net : Net) (temp : Bool) (value : IpSuite) (blockError : Byte) :
    (Edit.ipPar net temp value blockError).Fits net := by
  unfold Edit.ipPar
  split
  · exact ⟨rfl, rfl, fun _ => rfl, by simp, by simp [DcpAse.withIpSuite],
      ⟨fun h => (of_decide_eq_true h).symm, fun h => decide_eq_true h.symm⟩⟩
  · exact fits_refused net _

theorem fits_ipSuite (net : Net) (temp : Bool) (value : IpSuite) (blockError : Byte) :
    (Edit.ipSuite net temp value blockError).Fits net := by
  unfold Edit.ipSuite
  split
  · exact ⟨rfl, rfl, fun _ => rfl, by simp, by simp [DcpAse.withIpSuite],
      ⟨fun h => (of_decide_eq_true h).symm, fun h => decide_eq_true h.symm⟩⟩
  · exact fits_refused net _

theorem fits_stationName (net : Net) (temp : Bool) (value : List Byte) (blockError : Byte) :
    (Edit.stationName net temp value blockError).Fits net := by
  unfold Edit.stationName
  split
  · split
    · exact ⟨rfl, rfl, fun _ => rfl, by simp, ⟨fun h => (of_decide_eq_true h).symm, fun h => decide_eq_true h.symm⟩,
        by simp [DcpAse.ipSuite]⟩
    · exact fits_refused net _
  · exact fits_refused net _

theorem fits_reset (net : Net) (resetMode : BitVec 16) (blockError : Byte) :
    (Edit.reset net resetMode blockError).Fits net where
  state := rfl
  file := rfl
  reset _ := rfl
  same _ := ⟨rfl, rfl⟩
  name := by simp [Edit.reset]
  ip := by simp [Edit.reset]

theorem fits_edit (net : Net) (opt sub : Byte) (blockQualifier : BitVec 16) (value : SetValue)
    (blockError : Byte) : (edit net opt sub blockQualifier value blockError).Fits net := by
  unfold edit
  dsimp only
  split
  · split
    · exact fits_ipPar _ _ _ _
    · split
      · exact fits_ipSuite _ _ _ _
      · exact fits_refused _ _
  · split
    · split
      · exact fits_stationName _ _ _ _
      · exact fits_refused _ _
    · split
      · exact ⟨rfl, rfl, fun h => absurd rfl h, fun _ => ⟨rfl, rfl⟩, by simp [Edit.refused],
          by simp [Edit.refused]⟩
      · split
        · split
          · exact fits_reset _ _ _
          · split
            · exact fits_reset _ _ _
            · exact fits_refused _ _
        · exact fits_refused _ _

/-! ## The state after an edit -/

variable {x : Edit}

theorem useEdit_current (env : Env) (x : Edit) : (useEdit env x).2.current = x.net.current := by
  unfold useEdit
  dsimp only
  repeat' split
  all_goals rfl

theorem doCheck_current (x : Edit) (net : Net) : (doCheck x net).current = net.current := by
  unfold doCheck
  split <;> rfl

theorem stateOf_ne_setup (x : DcpAse) : x.stateOf ≠ .PF_CMINA_STATE_SETUP := by
  unfold DcpAse.stateOf stateOf
  split
  · exact CminaState.noConfusion
  · split <;> exact CminaState.noConfusion

/-- Without a change the state stays the one that is called for. -/
theorem stateOf_of_no_change (hfits : x.Fits net) (hname : x.changeName = false)
    (hip : x.changeIp = false) : x.net.current.stateOf = net.current.stateOf := by
  have hsameName : x.net.current.stationName = net.current.stationName := by
    by_contra hne
    simp [hfits.name.mpr hne] at hname
  have hsameIp : x.net.current.ipSuite = net.current.ipSuite := by
    by_contra hne
    simp [hfits.ip.mpr hne] at hip
  rw [DcpAse.stateOf, DcpAse.stateOf, hsameName, hsameIp]

/-- Before a connection is waited for, an edit leads to the state that is called for. -/
theorem useEdit_state_before (htells : net.state = net.current.stateOf) (hfits : x.Fits net)
    (hok : x.ok = true) (hwait : net.state ≠ .PF_CMINA_STATE_W_CONNECT) :
    (doCheck x (useEdit env x).2).state = x.net.current.stateOf := by
  have hsetup : net.state ≠ CminaState.PF_CMINA_STATE_SETUP := htells ▸ stateOf_ne_setup _
  have hstate := hfits.state
  have hused : useEdit env x = if x.changeName ∨ x.changeIp then
      if x.net.current.stationName ≠ [] ∧ x.net.current.ipSuite.isSet then
        (0, { x.net with
          saveAseNvmData := true, commitIpSuite := true, state := .PF_CMINA_STATE_W_CONNECT })
      else if x.net.current.stationName = [] then
        (0, { x.net with saveAseNvmData := true, state := .PF_CMINA_STATE_SET_NAME })
      else (0, { x.net with saveAseNvmData := true, state := .PF_CMINA_STATE_SET_IP })
      else (0, { x.net with saveAseNvmData := true }) := by
    unfold useEdit
    dsimp only
    rw [hstate]
    cases hs : net.state with
    | PF_CMINA_STATE_SETUP => exact absurd hs hsetup
    | PF_CMINA_STATE_W_CONNECT => exact absurd hs hwait
    | PF_CMINA_STATE_SET_NAME | PF_CMINA_STATE_SET_IP => simp
  rw [hused]
  by_cases hchange : x.changeName = true ∨ x.changeIp = true
  · rw [if_pos hchange]
    by_cases hname : x.net.current.stationName = []
    · simp [hname, doCheck, DcpAse.stateOf, stateOf]
    · cases hip : x.net.current.ipSuite.isSet with
      | true => simp [hname, hip, doCheck, DcpAse.stateOf, stateOf]
      | false => simp [hname, hip, doCheck, DcpAse.stateOf, stateOf]
  · rw [if_neg hchange]
    simp only [not_or, Bool.not_eq_true] at hchange
    have hsame := stateOf_of_no_change hfits hchange.1 hchange.2
    -- `Do_Check` finds nothing, since the state is the one that is called for
    have hnot : ¬ (x.net.current.stationName ≠ [] ∧ x.net.current.ipSuite.isSet = true) := by
      rintro ⟨hname, hip⟩
      apply hwait
      rw [htells, ← hsame]
      simp [DcpAse.stateOf, stateOf, hname, hip]
    unfold doCheck
    rw [if_neg (fun h => hnot h.2.2)]
    show x.net.state = _
    rw [hstate, htells, hsame]

/-- While a connection is waited for, an edit leads to the state that is called for unless the name
is taken away. -/
theorem useEdit_state_wait (htells : net.state = net.current.stateOf) (hfits : x.Fits net)
    (hok : x.ok = true) (hreset : x.resetMode = none)
    (hwait : net.state = .PF_CMINA_STATE_W_CONNECT) :
    (doCheck x (useEdit env x).2).state = x.net.current.stateOf ↔
      x.net.current.stationName ≠ [] := by
  have hstate := hfits.state.trans hwait
  by_cases hchange : x.changeName = false ∧ x.changeIp = false
  · have hsame := stateOf_of_no_change hfits hchange.1 hchange.2
    rw [hwait] at htells
    have hname : x.net.current.stationName ≠ [] := by
      intro hnil
      rw [← hsame] at htells
      simp [DcpAse.stateOf, stateOf, hnil] at htells
    have hused : useEdit env x = (0, { x.net with saveAseNvmData := true }) := by
      unfold useEdit
      dsimp only
      rw [hstate]
      simp [hchange, hreset]
    rw [hused, iff_true_right hname, hsame, ← htells]
    simp [doCheck, hstate]
  · by_cases hname : x.net.current.stationName = []
    · have hfinal : (doCheck x (useEdit env x).2).state = CminaState.PF_CMINA_STATE_W_CONNECT := by
        have hused : (useEdit env x).2.state = CminaState.PF_CMINA_STATE_W_CONNECT := by
          unfold useEdit
          dsimp only
          rw [hstate]
          simp [hchange, hreset, hname, hstate]
        unfold doCheck
        split
        · rfl
        · exact hused
      rw [hfinal]
      simp [DcpAse.stateOf, stateOf, hname]
    · rw [iff_true_right hname]
      cases hip : x.net.current.ipSuite.isSet with
      | true =>
        unfold useEdit
        dsimp only
        rw [hstate]
        by_cases hcn : x.changeName = true
        · simp [hcn, hreset, hname, hip, doCheck, hok, DcpAse.stateOf, stateOf]
        · have hci : x.changeIp = true := by
            by_contra hci
            simp only [Bool.not_eq_true] at hcn hci
            exact hchange ⟨hcn, hci⟩
          simp only [Bool.not_eq_true] at hcn
          by_cases hars : nbrOfActiveArs x.net.ars = 0
          · simp [hcn, hci, hreset, hname, hip, hars, doCheck, DcpAse.stateOf, stateOf, hstate]
          · simp [hcn, hci, hreset, hname, hip, hars, doCheck, DcpAse.stateOf, stateOf, hstate]
      | false =>
        unfold useEdit
        dsimp only
        rw [hstate]
        simp [hchange, hreset, hname, hip, doCheck, DcpAse.stateOf, stateOf]

/-! ## One step -/

theorem ipPar_resetMode (net : Net) (temp : Bool) (value : IpSuite) (blockError : Byte) :
    (Edit.ipPar net temp value blockError).resetMode = none := by
  unfold Edit.ipPar
  split <;> rfl

theorem ipSuite_resetMode (net : Net) (temp : Bool) (value : IpSuite) (blockError : Byte) :
    (Edit.ipSuite net temp value blockError).resetMode = none := by
  unfold Edit.ipSuite
  split <;> rfl

theorem stationName_resetMode (net : Net) (temp : Bool) (value : List Byte) (blockError : Byte) :
    (Edit.stationName net temp value blockError).resetMode = none := by
  unfold Edit.stationName
  split
  · split <;> rfl
  · rfl

section
variable (net) (opt sub : Byte) (blockQualifier : BitVec 16) (value : SetValue) (blockError : Byte)

theorem edit_resetMode :
    (edit net opt sub blockQualifier value blockError).resetMode =
      resetMode? opt sub blockQualifier := by
  by_cases hcontrol : opt = PF_DCP_OPT_CONTROL
  · have hip : PF_DCP_OPT_CONTROL ≠ PF_DCP_OPT_IP := by decide
    have hprop : PF_DCP_OPT_CONTROL ≠ PF_DCP_OPT_DEVICE_PROPERTIES := by decide
    have hdhcp : PF_DCP_OPT_CONTROL ≠ PF_DCP_OPT_DHCP := by decide
    simp only [edit, resetMode?, hcontrol, hip, hprop, hdhcp, if_false, if_true, true_and]
    split
    · rfl
    · split <;> rfl
  · have hnone : resetMode? opt sub blockQualifier = none := by
      simp only [resetMode?, hcontrol, false_and, if_false]
    rw [hnone]
    unfold edit
    dsimp only
    split
    · split
      · exact ipPar_resetMode _ _ _ _
      · split
        · exact ipSuite_resetMode _ _ _ _
        · rfl
    · split
      · split
        · exact stationName_resetMode _ _ _ _
        · rfl
      · split
        · rfl
        · first | rfl | (rw [if_neg hcontrol]; rfl)

/-- An empty name is never refused. -/
theorem stationName_nil (net : Net) (temp : Bool) (blockError : Byte) :
    (Edit.stationName net temp [] blockError).ok = true ∧
      (Edit.stationName net temp [] blockError).net.current.stationName = [] := by
  have hlen : ([] : List Byte).length < PNET_STATION_NAME_MAX_SIZE := by decide
  have hvalid : isStationnameValid [] = true := rfl
  unfold Edit.stationName
  rw [if_pos hlen, if_pos hvalid]
  exact ⟨rfl, rfl⟩

/-- Only an empty name takes the name away. -/
theorem edit_name_nil (hname : net.current.stationName ≠ []) :
    (edit net opt sub blockQualifier value blockError).net.current.stationName = [] ↔
      opt = PF_DCP_OPT_DEVICE_PROPERTIES ∧ sub = PF_DCP_SUB_DEV_PROP_NAME ∧ value.bytes = [] := by
  unfold edit
  dsimp only
  by_cases hip : opt = PF_DCP_OPT_IP
  · have hne : ¬ PF_DCP_OPT_IP = PF_DCP_OPT_DEVICE_PROPERTIES := by decide
    simp only [hip, if_true, hne, false_and, iff_false]
    unfold Edit.ipPar Edit.ipSuite Edit.refused
    repeat' split
    all_goals exact hname
  · rw [if_neg hip]
    by_cases hprop : opt = PF_DCP_OPT_DEVICE_PROPERTIES
    · rw [if_pos hprop]
      by_cases hsub : sub = PF_DCP_SUB_DEV_PROP_NAME
      · rw [if_pos hsub]
        simp only [hprop, hsub, true_and]
        by_cases hnil : value.bytes = []
        · simp only [hnil, (stationName_nil _ _ _).2]
        · unfold Edit.stationName
          split
          · split
            · exact Iff.rfl
            · exact ⟨fun h => absurd h hname, fun h => absurd h hnil⟩
          · exact ⟨fun h => absurd h hname, fun h => absurd h hnil⟩
      · rw [if_neg hsub]
        simp only [hsub, false_and, and_false, iff_false]
        exact hname
    · rw [if_neg hprop]
      simp only [hprop, false_and, iff_false]
      repeat' split
      all_goals exact hname

end

/-- Neither an edit that is refused at first nor a reset looks for another state. -/
theorem doCheck_of_same (htells : net.state = net.current.stateOf) (hfits : x.Fits net)
    (hsame : x.net.current = net.current) {net' : Net} (hstate : net'.state = net.state) :
    (doCheck x net').state = net.state := by
  unfold doCheck
  split
  · rename_i h
    rcases h with ⟨-, -, hname, hip⟩
    rw [hsame] at hname hip
    rw [htells]
    simp [DcpAse.stateOf, stateOf, hname, hip]
  · exact hstate

/-! ## One step -/

theorem useEdit_frame (env : Env) (x : Edit) :
    (useEdit env x).2.nonvolatile = x.net.nonvolatile ∧ (useEdit env x).2.file = x.net.file := by
  unfold useEdit
  dsimp only
  repeat' split
  all_goals exact ⟨rfl, rfl⟩

theorem doCheck_frame (x : Edit) (net : Net) :
    (doCheck x net).nonvolatile = net.nonvolatile ∧ (doCheck x net).file = net.file := by
  unfold doCheck
  split <;> exact ⟨rfl, rfl⟩

theorem useEdit_state_of_reset (hsetup : x.net.state ≠ .PF_CMINA_STATE_SETUP)
    (hname : x.changeName = false) (hip : x.changeIp = false) (hreset : x.resetMode ≠ none) :
    (useEdit env x).2.state = x.net.state := by
  unfold useEdit
  dsimp only
  cases hs : x.net.state with
  | PF_CMINA_STATE_SETUP => exact absurd hs hsetup
  | PF_CMINA_STATE_SET_NAME | PF_CMINA_STATE_SET_IP => simp [hname, hip, hs]
  | PF_CMINA_STATE_W_CONNECT => simp [hname, hip, hreset, hs]

theorem stateAfterReset_congr {net' : Net} (hnonvolatile : net'.nonvolatile = net.nonvolatile)
    (hfile : net'.file = net.file) (resetMode : BitVec 16) :
    stateAfterReset env net' resetMode = stateAfterReset env net resetMode := by
  unfold stateAfterReset
  rw [hnonvolatile, hfile]

theorem Edit.Fits.no_change (hfits : x.Fits net) (h : x.ok = false ∨ x.resetMode ≠ none) :
    x.changeName = false ∧ x.changeIp = false := by
  have hcurrent := (hfits.same h).1
  constructor
  · by_contra hc
    exact hfits.name.mp (by simpa using hc) (by rw [hcurrent])
  · by_contra hc
    exact hfits.ip.mp (by simpa using hc) (by rw [hcurrent])

theorem step_set_tells (htells : net.state = net.current.stateOf) (opt sub : Byte)
    (blockQualifier : BitVec 16) (value : SetValue) (blockError : Byte) :
    (step env net (.set opt sub blockQualifier value blockError)).state =
        (step env net (.set opt sub blockQualifier value blockError)).current.stateOf ↔
      KeepsState env net (.set opt sub blockQualifier value blockError) := by
  have hfits := fits_edit { net with helloTimeout := false } opt sub blockQualifier value blockError
  have hmode := edit_resetMode { net with helloTimeout := false } opt sub blockQualifier value
    blockError
  have hnil := edit_name_nil { net with helloTimeout := false } opt sub blockQualifier value
    blockError
  unfold step dcpSetInd KeepsState
  dsimp only at hnil ⊢
  generalize edit { net with helloTimeout := false } opt sub blockQualifier value blockError = x
    at hfits hmode hnil ⊢
  have hfits : x.Fits net :=
    ⟨hfits.state, hfits.file, hfits.reset, hfits.same, hfits.name, hfits.ip⟩
  rw [← hmode]
  have hsetup : x.net.state ≠ CminaState.PF_CMINA_STATE_SETUP := by
    rw [hfits.state, htells]
    exact stateOf_ne_setup _
  -- while a connection is waited for there is a name
  have hname : net.state = CminaState.PF_CMINA_STATE_W_CONNECT → net.current.stationName ≠ [] := by
    intro hwait hnone
    rw [htells] at hwait
    simp [DcpAse.stateOf, stateOf, hnone] at hwait
  rcases hreset : x.resetMode with _ | resetMode
  · simp only [reduceCtorEq, false_imp_iff, implies_true, and_true]
    rw [doCheck_current]
    cases hok : x.ok with
    | true =>
      rw [if_pos rfl, useEdit_current]
      by_cases hwait : net.state = CminaState.PF_CMINA_STATE_W_CONNECT
      · rw [@useEdit_state_wait env _ x htells hfits hok hreset hwait, ne_eq,
          hnil (hname hwait)]
        simp [hwait]
      · simp only [hwait, false_and, not_false_eq_true, iff_true]
        exact @useEdit_state_before env _ x htells hfits hok hwait
    | false =>
      have hsame := (hfits.same (.inl hok)).1
      have hkept := doCheck_of_same htells hfits hsame (show x.net.state = _ from hfits.state)
      rw [if_neg (by simp)]
      dsimp only at hkept ⊢
      rw [hkept, hsame, iff_true_left htells]
      rintro ⟨hwait, hset⟩
      exact hname hwait (by rw [← hsame]; exact (hnil (hname hwait)).mpr hset)
  · have hne : x.resetMode ≠ none := by rw [hreset]; exact Option.some_ne_none _
    have hno := hfits.no_change (.inr hne)
    have hsame := hfits.same (.inr hne)
    have hok := hfits.reset hne
    have hnotName : ¬ (net.state = CminaState.PF_CMINA_STATE_W_CONNECT ∧
        opt = PF_DCP_OPT_DEVICE_PROPERTIES ∧ sub = PF_DCP_SUB_DEV_PROP_NAME ∧ value.bytes = []) := by
      rintro ⟨hwait, hset⟩
      exact hname hwait (by rw [← hsame.1]; exact (hnil (hname hwait)).mpr hset)
    rw [if_pos hok]
    simp only [hnotName, not_false_eq_true, true_and, Option.some.injEq, forall_eq']
    rw [setDefaultCfg_state, setDefaultCfg_stateOf]
    have hstate := doCheck_of_same htells hfits hsame.1
      ((@useEdit_state_of_reset env x hsetup hno.1 hno.2 hne).trans hfits.state)
    have hafter := @stateAfterReset_congr env net (doCheck x (useEdit env x).2)
      ((doCheck_frame x _).1.trans ((useEdit_frame env x).1.trans hsame.2))
      ((doCheck_frame x _).2.trans ((useEdit_frame env x).2.trans hfits.file)) resetMode
    rw [hstate, hafter]
    exact eq_comm

theorem dcpSetCommit_same (net : Net) :
    (dcpSetCommit net).state = net.state ∧ (dcpSetCommit net).current = net.current := by
  unfold dcpSetCommit
  split <;> exact ⟨rfl, rfl⟩

/-- One step keeps what the state tells exactly when it is not one of the two kinds. -/
theorem step_tells (h : Tells net) (s : Step) : Tells (step env net s) ↔ KeepsState env net s := by
  have htells := (tells_iff net).mp h
  rw [tells_iff]
  cases s with
  | set opt sub blockQualifier value blockError =>
    exact step_set_tells htells opt sub blockQualifier value blockError
  | factoryReset ars =>
    have hcommit := dcpSetCommit_same (setDefaultCfg env { net with ars } 99).2
    unfold step KeepsState
    dsimp only
    rw [hcommit.1, hcommit.2, setDefaultCfg_state, setDefaultCfg_stateOf]
    exact Iff.rfl
  | commit =>
    have hcommit := dcpSetCommit_same net
    unfold step KeepsState
    dsimp only
    rw [hcommit.1, hcommit.2, iff_true]
    exact htells
  | save saved =>
    unfold step KeepsState saveAse
    dsimp only
    rw [iff_true]
    split <;> exact htells
  | removeFiles => exact iff_of_true htells trivial
  | connect ars => exact iff_of_true htells trivial

/-! ## Runs -/

theorem init_tells (env : Env) (net : Net) : Tells (init env net) := by
  rw [tells_iff]
  unfold init
  dsimp only
  generalize (setDefaultCfg env _ 0).2 = net
  have hcommit := dcpSetCommit_same
  by_cases hname : net.current.stationName = []
  · rw [if_pos hname, (hcommit _).1, (hcommit _).2]
    simp [DcpAse.stateOf, stateOf, hname]
  · rw [if_neg hname]
    cases hip : net.current.ipSuite.isSet with
    | false =>
      rw [if_pos rfl, (hcommit _).1, (hcommit _).2]
      simp [DcpAse.stateOf, stateOf, hname, hip]
    | true =>
      rw [if_neg (by simp), (hcommit _).1, (hcommit _).2]
      simp [DcpAse.stateOf, stateOf, hname, hip]

/-- All steps of the run keep the state. -/
def KeepsStates (env : Env) (net : Net) : List Step → Prop
  | [] => True
  | s :: steps => KeepsState env net s ∧ KeepsStates env (step env net s) steps

theorem run_tells (steps : List Step) : ∀ net, Tells net →
    ((∀ k, Tells (run env (steps.take k) net)) ↔ KeepsStates env net steps) := by
  induction steps with
  | nil =>
    intro net h
    refine iff_of_true ?_ trivial
    intro k
    rw [List.take_nil]
    exact h
  | cons s steps ih =>
    intro net h
    have hstep := @step_tells env net h s
    constructor
    · intro hall
      have hfirst := hall 1
      have hkeeps := hstep.mp hfirst
      refine ⟨hkeeps, (ih _ hfirst).mp ?_⟩
      intro k
      exact hall (k + 1)
    · rintro ⟨hkeeps, hrest⟩
      intro k
      cases k with
      | zero => exact h
      | succ k => exact (ih _ (hstep.mpr hkeeps)).mpr hrest k

/-- From the start on, each state that is reached tells what the device has if and only if no step
takes the name away while a connection is waited for, or resets to a configuration that calls for
another state. -/
theorem run_tells_iff (env : Env) (net : Net) (steps : List Step) :
    (∀ k, Tells (run env (steps.take k) (init env net))) ↔
      KeepsStates env (init env net) steps :=
  run_tells steps _ (init_tells env net)

/-! ## An empty name -/

namespace EmptyName

/-- A device with a name and an address in its configuration; an abort ends the AR. -/
def config : Env where
  sendHello := false
  deviceId := ⟨0, 1, 0, 2⟩
  oemDeviceId := ⟨0, 1, 0, 3⟩
  stationName := [0x61, 0x62]
  productName := [0x63]
  ipCfg := ⟨0xC0A80132, 0xFFFFFF00, 0xC0A80132⟩
  dhcpEnable := false
  macAddress := [2, 0, 0, 0, 0, 1]
  stateInd ix ars := fun i => if i = ix then { ars i with inUse := false } else ars i

def ase : DcpAse :=
  ⟨[], [], 0, 0, 0, 0, ⟨0, 0, 0, 0⟩, ⟨0, 0, 0, 0⟩, List.replicate 6 0, 0, false,
    ⟨.zero, List.replicate 4 0⟩⟩

/-- Nothing has been stored. -/
def atStart : Net where
  nonvolatile := ase
  current := ase
  state := .PF_CMINA_STATE_SETUP
  errorDecode := 0
  errorCode1 := 0
  helloCount := 0
  helloTimeout := false
  commitIpSuite := false
  file := none
  saveAseNvmData := false
  ars _ := ⟨false, 0, 0⟩

/-- The name is set to the empty one, for good. -/
def steps : List Step :=
  [.set PF_DCP_OPT_DEVICE_PROPERTIES PF_DCP_SUB_DEV_PROP_NAME 1 ⟨.zero, []⟩
    PF_DCP_BLOCK_ERROR_SUBOPTION_NOT_SUPPORTED]

end EmptyName

open EmptyName in
/-- The device still waits for a connection. -/
theorem not_tells_without_name :
    ¬ ∀ k, Tells (run config (steps.take k) (init config atStart)) := by
  intro h
  have hone := h 1
  revert hone
  decide +kernel

end PNet.Cmina
