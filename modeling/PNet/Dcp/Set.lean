import PNet.Cmina.State

/-! # A block of a DCP Set

`pf_dcp_set_req` of `pf_dcp.c`: which blocks go to `pf_cmina_dcp_set_ind`, and what is answered.

A block that is refused should change nothing. It does where a change of the address is refused
because of an active connection, since the data have been edited by then, and in the state
`SETUP`.
-/

namespace PNet.Dcp

open Cmina

/-! ## Data -/

/-- What a DCP request changes. -/
structure Net where
  cmina : Cmina.Net
  globalBlockQualifier : BitVec 16
  /-- The signal LED is flashing. -/
  ledTimeout : Bool

/-- A number in network byte order. -/
def beUint32 (b : ℕ → Byte) (pos : ℕ) : BitVec 32 :=
  (b pos).setWidth 32 <<< 24 ||| (b (pos + 1)).setWidth 32 <<< 16 |||
    (b (pos + 2)).setWidth 32 <<< 8 ||| (b (pos + 3)).setWidth 32

/-- Three numbers of a block. -/
def beIpSuite (pValue : ℕ → Byte) : IpSuite :=
  ⟨beUint32 pValue 0, beUint32 pValue 4, beUint32 pValue 8⟩

/-- `sizeof (pf_ip_suite_t)`. -/
def ipSuiteSize : ℕ := 12

/-- What is answered: the value returned, the block error, and what has changed. -/
structure SetResult where
  ret : ℤ
  blockError : Byte
  net : Net

/-! ## The block -/

/-- `pf_dcp_trigger_signal_led`; `added` tells whether the scheduler takes the timer. -/
def triggerSignalLed (net : Net) (added : Bool) : Net :=
  { net with ledTimeout := net.ledTimeout || added }

/-- A block that is not set. -/
def notSet (net : Net) (blockError : Byte) : SetResult := ⟨-1, blockError, net⟩

/-- A block that goes to CMINA. -/
def setInd (env : Env) (net : Net) (opt sub : Byte) (blockQualifier : BitVec 16)
    (value : SetValue) : SetResult :=
  let done := dcpSetInd env net.cmina opt sub blockQualifier value
    PF_DCP_BLOCK_ERROR_SUBOPTION_NOT_SUPPORTED
  ⟨done.1, done.2.1, { net with cmina := done.2.2 }⟩

/-- The switch of `pf_dcp_set_req`. -/
def setOption (env : Env) (net : Net) (added : Bool) (opt sub : Byte) (blockQualifier : BitVec 16)
    (valueLength : ℕ) (value : SetValue) : SetResult :=
  if opt = PF_DCP_OPT_IP then
    if sub = PF_DCP_SUB_IP_PAR ∨ sub = PF_DCP_SUB_IP_SUITE then
      if valueLength = ipSuiteSize then setInd env net opt sub blockQualifier value
      else notSet net PF_DCP_BLOCK_ERROR_SUBOPTION_NOT_SUPPORTED
    else notSet net PF_DCP_BLOCK_ERROR_SUBOPTION_NOT_SUPPORTED
  else if opt = PF_DCP_OPT_DEVICE_PROPERTIES then
    if sub = PF_DCP_SUB_DEV_PROP_NAME then setInd env net opt sub blockQualifier value
    else notSet net PF_DCP_BLOCK_ERROR_SUBOPTION_NOT_SUPPORTED
  else if opt = PF_DCP_OPT_DHCP then notSet net PF_DCP_BLOCK_ERROR_SUBOPTION_NOT_SUPPORTED
  else if opt = PF_DCP_OPT_CONTROL then
    if sub = PF_DCP_SUB_CONTROL_START then
      ⟨0, PF_DCP_BLOCK_ERROR_NO_ERROR, { net with globalBlockQualifier := blockQualifier }⟩
    else if sub = PF_DCP_SUB_CONTROL_STOP then
      -- also with another qualifier than that of the start
      ⟨0, PF_DCP_BLOCK_ERROR_NO_ERROR, net⟩
    else if sub = PF_DCP_SUB_CONTROL_SIGNAL then
      ⟨0, PF_DCP_BLOCK_ERROR_NO_ERROR, triggerSignalLed net added⟩
    else if sub = PF_DCP_SUB_CONTROL_FACTORY_RESET ∨
        sub = PF_DCP_SUB_CONTROL_RESET_TO_FACTORY then
      setInd env net opt sub blockQualifier value
    else notSet net PF_DCP_BLOCK_ERROR_SUBOPTION_NOT_SUPPORTED
  else notSet net PF_DCP_BLOCK_ERROR_OPTION_NOT_SUPPORTED

/-- The block error of the answer. -/
def SetResult.answered (done : SetResult) : SetResult :=
  if done.ret = 0 then { done with blockError := PF_DCP_BLOCK_ERROR_NO_ERROR } else done

/-- `pf_dcp_set_req`, without the block that it puts into the response. A name longer than the
block is not read, and of an IP suite with name servers only the first part is used. -/
def setReq (env : Env) (net : Net) (added : Bool) (opt sub : Byte) (blockQualifier : BitVec 16)
    (valueLength : ℕ) (pValue : ℕ → Byte) : SetResult :=
  (setOption env net added opt sub blockQualifier valueLength
    ⟨beIpSuite pValue, Buffer.slice pValue 0 valueLength⟩).answered

/-! ## What a block asks for -/

/-- A value to be set. -/
inductive Asked where
  | ipPar (value : IpSuite)
  | ipSuite (value : IpSuite)
  | stationName (value : List Byte)

/-- The value of a block that is about an address or the name. -/
def asked? (opt sub : Byte) (valueLength : ℕ) (pValue : ℕ → Byte) : Option Asked :=
  if opt = PF_DCP_OPT_IP ∧ sub = PF_DCP_SUB_IP_PAR then some (.ipPar (beIpSuite pValue))
  else if opt = PF_DCP_OPT_IP ∧ sub = PF_DCP_SUB_IP_SUITE then some (.ipSuite (beIpSuite pValue))
  else if opt = PF_DCP_OPT_DEVICE_PROPERTIES ∧ sub = PF_DCP_SUB_DEV_PROP_NAME then
    some (.stationName (Buffer.slice pValue 0 valueLength))
  else none

/-- The qualifier asks for a temporary value. -/
def isTemporary (blockQualifier : BitVec 16) : Bool := blockQualifier &&& 1 = 0

namespace Asked

/-- The value is the current one, and the permanent one or that is cleared. -/
def IsSet (temp : Bool) (net : Cmina.Net) : Asked → Prop
  | .ipPar value =>
    net.current.ipSuite = value ∧ net.nonvolatile.ipSuite = if temp then .zero else value
  | .ipSuite value =>
    net.current.ipSuite = value ∧ net.nonvolatile.fullIpSuite =
      if temp then ⟨.zero, List.replicate 4 0⟩ else net.current.fullIpSuite
  | .stationName value =>
    net.current.stationName = value ∧ net.nonvolatile.stationName = if temp then [] else value

/-- The value is one that can be set. -/
def isValid (valueLength : ℕ) : Asked → Bool
  | .ipPar value | .ipSuite value => valueLength = ipSuiteSize ∧ isIpsuiteValid value
  | .stationName value => isStationnameValid value

/-- The address that is asked for. -/
def address? : Asked → Option IpSuite
  | .ipPar value | .ipSuite value => some value
  | .stationName _ => none

end Asked

/-! ## Refused blocks -/

/-- The file with the IP settings, once what is to be saved has been. -/
def storedAse (net : Cmina.Net) : Option DcpAse :=
  if net.saveAseNvmData then some net.nonvolatile else net.file

/-- Names and addresses are the same. -/
def SameData (net net' : Cmina.Net) : Prop :=
  net'.current.stationName = net.current.stationName ∧
    net'.current.fullIpSuite = net.current.fullIpSuite ∧
    net'.nonvolatile.stationName = net.nonvolatile.stationName ∧
    net'.nonvolatile.fullIpSuite = net.nonvolatile.fullIpSuite

/-- Names, addresses, the state, the file and the ARs are as before. -/
def Unchanged (net net' : Cmina.Net) : Prop :=
  SameData net net' ∧ net'.state = net.state ∧ storedAse net' = storedAse net ∧ net'.ars = net.ars

/-- A block that is answered with an error changes nothing, and one that is answered positively
sets its value. -/
def Obeys (net : Net) (opt sub : Byte) (blockQualifier : BitVec 16) (valueLength : ℕ)
    (pValue : ℕ → Byte) (result : SetResult) : Prop :=
  (result.blockError ≠ PF_DCP_BLOCK_ERROR_NO_ERROR → Unchanged net.cmina result.net.cmina) ∧
    (result.blockError = PF_DCP_BLOCK_ERROR_NO_ERROR →
      ∀ asked, asked? opt sub valueLength pValue = some asked →
        asked.IsSet (isTemporary blockQualifier) result.net.cmina)

/-- The block does not ask for another address during an active connection, and in `SETUP` only for
what is there. -/
def SetsInTime (net : Cmina.Net) (temp : Bool) (asked : Asked) : Prop :=
  (net.state = .PF_CMINA_STATE_W_CONNECT → net.current.stationName ≠ [] →
    nbrOfActiveArs net.ars ≠ 0 → ∀ value, asked.address? = some value → value.isSet = true →
      value = net.current.ipSuite) ∧
    (net.state = .PF_CMINA_STATE_SETUP →
      asked.IsSet temp net ∧ storedAse net = some net.nonvolatile)

/-! ## Edits that are refused late -/

variable {env : Env} {x : Edit}

/-- The state refuses the edit: `SETUP`, or another address during an active connection. -/
def RefusedLate (x : Edit) : Prop :=
  x.net.state = .PF_CMINA_STATE_SETUP ∨
    x.net.state = .PF_CMINA_STATE_W_CONNECT ∧ x.changeName = false ∧ x.changeIp = true ∧
      x.net.current.stationName ≠ [] ∧ x.net.current.ipSuite.isSet = true ∧
      nbrOfActiveArs x.net.ars ≠ 0

/-- What the state makes of an edit. -/
theorem useEdit_cases (env : Env) (hreset : x.resetMode = none) :
    (useEdit env x).1 = 0 ∧ ¬ RefusedLate x ∨
      (useEdit env x).1 = -1 ∧ RefusedLate x ∧ (useEdit env x).2.state = x.net.state ∧
        (useEdit env x).2.ars = x.net.ars ∧ (useEdit env x).2.saveAseNvmData = true := by
  unfold useEdit RefusedLate
  dsimp only
  cases hstate : x.net.state with
  | PF_CMINA_STATE_SETUP => exact .inr ⟨rfl, .inl rfl, rfl, rfl, rfl⟩
  | PF_CMINA_STATE_SET_NAME | PF_CMINA_STATE_SET_IP =>
    left
    constructor
    · dsimp only
      repeat' split
      all_goals rfl
    · simp
  | PF_CMINA_STATE_W_CONNECT =>
    by_cases hname : x.net.current.stationName = []
    · left
      simp [hname, hreset, apply_ite Prod.fst]
    · cases hip : x.net.current.ipSuite.isSet with
      | false =>
        left
        simp [hname, hreset, apply_ite Prod.fst]
      | true =>
        cases hchangeName : x.changeName with
        | true => left; simp [hname, hreset]
        | false =>
          cases hchangeIp : x.changeIp with
          | false => left; simp [hreset]
          | true =>
            by_cases hars : nbrOfActiveArs x.net.ars = 0
            · left
              simp [hname, hreset, hars]
            · right
              simp [hname, hreset, hars]

theorem doCheck_of_refusedLate (h : RefusedLate x) {net : Cmina.Net}
    (hstate : net.state = x.net.state) : doCheck x net = net := by
  unfold doCheck
  rw [if_neg]
  rintro ⟨hset, -⟩
  rw [hstate] at hset
  rcases h with h | ⟨h, -⟩
  · simp [h] at hset
  · simp [h] at hset

/-! ## The edit of a value -/

/-- The edit for a value that can be set. -/
structure SetsAsked (net : Cmina.Net) (temp : Bool) (asked : Asked) (x : Edit) : Prop where
  ok : x.ok = true
  reset : x.resetMode = none
  refusal : x.blockError = PF_DCP_BLOCK_ERROR_SUBOPTION_NOT_SUPPORTED
  state : x.net.state = net.state
  ars : x.net.ars = net.ars
  isSet : asked.IsSet temp x.net
  kept : asked.IsSet temp net → SameData net x.net ∧ x.net.nonvolatile = net.nonvolatile
  name : asked.address? = none → x.changeIp = false
  address : ∀ value, asked.address? = some value →
    x.changeName = false ∧ (x.changeIp = true ↔ value ≠ net.current.ipSuite) ∧
      x.net.current.ipSuite = value ∧ x.net.current.stationName = net.current.stationName

theorem withIpSuite_self (ase : DcpAse) : ase.withIpSuite ase.ipSuite = ase := rfl

section
variable (net : Cmina.Net) (temp : Bool)

theorem setsAsked_ipPar {value : IpSuite} (hvalid : isIpsuiteValid value = true) :
    SetsAsked net temp (.ipPar value)
      (.ipPar net temp value PF_DCP_BLOCK_ERROR_SUBOPTION_NOT_SUPPORTED) := by
  unfold Edit.ipPar
  rw [if_pos hvalid]
  refine ⟨rfl, rfl, rfl, rfl, rfl, ⟨rfl, rfl⟩, ?_, nofun, ?_⟩
  · rintro ⟨hcurrent, hnonvolatile⟩
    dsimp only
    rw [← hnonvolatile, ← hcurrent]
    exact ⟨⟨rfl, rfl, rfl, rfl⟩, rfl⟩
  · rintro _ ⟨⟩
    exact ⟨rfl, by simpa using ne_comm, rfl, rfl⟩

theorem setsAsked_ipSuite {value : IpSuite} (hvalid : isIpsuiteValid value = true) :
    SetsAsked net temp (.ipSuite value)
      (.ipSuite net temp value PF_DCP_BLOCK_ERROR_SUBOPTION_NOT_SUPPORTED) := by
  unfold Edit.ipSuite
  rw [if_pos hvalid]
  refine ⟨rfl, rfl, rfl, rfl, rfl, ⟨rfl, rfl⟩, ?_, nofun, ?_⟩
  · rintro ⟨hcurrent, hnonvolatile⟩
    dsimp only
    rw [← hcurrent, withIpSuite_self, ← hnonvolatile]
    exact ⟨⟨rfl, rfl, rfl, rfl⟩, rfl⟩
  · rintro _ ⟨⟩
    exact ⟨rfl, by simpa using ne_comm, rfl, rfl⟩

theorem length_of_isStationnameValid {name : List Byte} (h : isStationnameValid name = true) :
    name.length < PNET_STATION_NAME_MAX_SIZE := by
  unfold isStationnameValid at h
  split at h
  · rename_i hnil
    rw [hnil]
    decide
  · split at h
    · cases h
    · rename_i hnot
      simp only [not_or, not_le] at hnot
      exact hnot.2

theorem setsAsked_stationName {value : List Byte} (hvalid : isStationnameValid value = true) :
    SetsAsked net temp (.stationName value)
      (.stationName net temp value PF_DCP_BLOCK_ERROR_SUBOPTION_NOT_SUPPORTED) := by
  unfold Edit.stationName
  rw [if_pos (length_of_isStationnameValid hvalid), if_pos hvalid]
  refine ⟨rfl, rfl, rfl, rfl, rfl, ⟨rfl, rfl⟩, ?_, fun _ => rfl, nofun⟩
  rintro ⟨hcurrent, hnonvolatile⟩
  dsimp only
  rw [← hnonvolatile, ← hcurrent]
  exact ⟨⟨rfl, rfl, rfl, rfl⟩, rfl⟩

end

/-! ## The answer -/

theorem Asked.isSet_congr {net net' : Cmina.Net} (h : SameData net net') (temp : Bool)
    (asked : Asked) : asked.IsSet temp net' ↔ asked.IsSet temp net := by
  rcases h with ⟨hname, hip, hname', hip'⟩
  cases asked with
  | ipPar value => simp only [Asked.IsSet, DcpAse.ipSuite, hip, hip']
  | ipSuite value => simp only [Asked.IsSet, DcpAse.ipSuite, hip, hip']
  | stationName value => simp only [Asked.IsSet, hname, hname']

section
variable {net : Cmina.Net} {temp : Bool} {asked : Asked}

/-- The end of the Hello messages does not matter. -/
theorem SetsAsked.of_hello (h : SetsAsked { net with helloTimeout := false } temp asked x) :
    SetsAsked net temp asked x :=
  ⟨h.ok, h.reset, h.refusal, h.state, h.ars, h.isSet, h.kept, h.name, h.address⟩

theorem setsInTime_of_not_refusedLate (hsets : SetsAsked net temp asked x)
    (hlate : ¬ RefusedLate x) : SetsInTime net temp asked := by
  constructor
  · intro hwait hname hars value haddress hisSet
    rcases hsets.address value haddress with ⟨hsame, hchange, hvalue, hkept⟩
    by_contra hne
    apply hlate
    refine .inr ⟨hsets.state.trans hwait, hsame, hchange.mpr hne, ?_, ?_, ?_⟩
    · rw [hkept]
      exact hname
    · rw [hvalue]
      exact hisSet
    · rw [hsets.ars]
      exact hars
  · intro hsetup
    exact absurd (.inl (hsets.state.trans hsetup)) hlate

/-- An edit that the state refuses changes nothing only in `SETUP`, where it does nothing. -/
theorem unchanged_iff_of_refusedLate (env : Env) (hsets : SetsAsked net temp asked x)
    (hlate : RefusedLate x) :
    Unchanged net (doCheck x (useEdit env x).2) ↔ SetsInTime net temp asked := by
  rcases useEdit_cases env hsets.reset with ⟨-, hnot⟩ | ⟨-, -, hstate, hars, hsave⟩
  · exact absurd hlate hnot
  rw [doCheck_of_refusedLate hlate hstate]
  have hdata : SameData net (useEdit env x).2 ↔ SameData net x.net := by
    unfold SameData
    rw [useEdit_current, (useEdit_frame env x).1]
  have hstored : storedAse (useEdit env x).2 = some x.net.nonvolatile := by
    rw [storedAse, if_pos hsave, (useEdit_frame env x).1]
  unfold Unchanged
  rw [hdata, hstored, hstate, hars]
  rcases hlate with hsetup | ⟨hwait, -, hchange, hname, hisSet, hactive⟩
  · rw [hsets.state] at hsetup
    constructor
    · rintro ⟨hsame, -, hfile, -⟩
      have hset := (Asked.isSet_congr hsame temp asked).mp hsets.isSet
      refine ⟨fun hwait => ?_, fun _ => ⟨hset, ?_⟩⟩
      · rw [hsetup] at hwait
        cases hwait
      · rw [← hfile, (hsets.kept hset).2]
    · rintro ⟨-, hset⟩
      rcases hset hsetup with ⟨hset, hfile⟩
      rcases hsets.kept hset with ⟨hsame, hnonvolatile⟩
      exact ⟨hsame, hsets.state, by rw [hfile, hnonvolatile], hsets.ars⟩
  · -- the address has been edited
    cases haddress : asked.address? with
    | none => simp [hsets.name haddress] at hchange
    | some value =>
      rcases hsets.address value haddress with ⟨-, hne, hvalue, hkept⟩
      have hne := hne.mp hchange
      constructor
      · rintro ⟨⟨-, hsame, -, -⟩, -⟩
        refine absurd ?_ hne
        rw [← hvalue, DcpAse.ipSuite, hsame]
        rfl
      · rintro ⟨hin, -⟩
        refine absurd (hin ?_ ?_ ?_ value haddress ?_) hne
        · rw [← hsets.state]
          exact hwait
        · rw [← hkept]
          exact hname
        · rw [← hsets.ars]
          exact hactive
        · rw [← hvalue]
          exact hisSet

end

section
variable {net : Net} {opt sub : Byte} {blockQualifier : BitVec 16} {valueLength : ℕ}
  {pValue : ℕ → Byte} {value : SetValue}

/-- The edit of a DCP Set, which also ends the Hello messages. -/
def setEdit (net : Net) (opt sub : Byte) (blockQualifier : BitVec 16) (value : SetValue) : Edit :=
  edit { net.cmina with helloTimeout := false } opt sub blockQualifier value
    PF_DCP_BLOCK_ERROR_SUBOPTION_NOT_SUPPORTED

theorem setInd_of_setsAsked {asked : Asked}
    (hsets : SetsAsked net.cmina (isTemporary blockQualifier) asked
      (setEdit net opt sub blockQualifier value)) :
    setInd env net opt sub blockQualifier value =
      let x := setEdit net opt sub blockQualifier value
      ⟨(useEdit env x).1, PF_DCP_BLOCK_ERROR_SUBOPTION_NOT_SUPPORTED,
        { net with cmina := doCheck x (useEdit env x).2 }⟩ := by
  have hok := hsets.ok
  have hreset := hsets.reset
  have hrefusal := hsets.refusal
  unfold setEdit at hok hreset hrefusal ⊢
  unfold setInd dcpSetInd
  simp only [hok, if_true, hreset, hrefusal]

theorem obeys_of_setsAsked {asked : Asked} (hasked : asked? opt sub valueLength pValue = some asked)
    (hsets : SetsAsked net.cmina (isTemporary blockQualifier) asked
      (setEdit net opt sub blockQualifier value)) :
    Obeys net opt sub blockQualifier valueLength pValue
        (setInd env net opt sub blockQualifier value).answered ↔
      SetsInTime net.cmina (isTemporary blockQualifier) asked := by
  have hdone := @setInd_of_setsAsked env net opt sub blockQualifier value asked hsets
  rw [hdone]
  generalize setEdit net opt sub blockQualifier value = x at hsets ⊢
  unfold Obeys SetResult.answered
  rcases useEdit_cases env hsets.reset with ⟨hret, hlate⟩ | ⟨hret, hlate, -⟩
  · have hin : SetsInTime net.cmina (isTemporary blockQualifier) asked :=
      setsInTime_of_not_refusedLate hsets hlate
    have hsame : SameData x.net (doCheck x (useEdit env x).2) := by
      unfold SameData
      rw [doCheck_current, useEdit_current, (doCheck_frame x _).1, (useEdit_frame env x).1]
      exact ⟨rfl, rfl, rfl, rfl⟩
    rw [if_pos hret, iff_true_right hin]
    refine ⟨fun hne => absurd rfl hne, fun _ other hother => ?_⟩
    rw [hasked] at hother
    cases hother
    exact (Asked.isSet_congr hsame _ _).mpr hsets.isSet
  · have hne : ¬ (-1 : ℤ) = 0 := by decide
    have herror : PF_DCP_BLOCK_ERROR_SUBOPTION_NOT_SUPPORTED ≠ PF_DCP_BLOCK_ERROR_NO_ERROR := by
      decide
    simp only [hret, if_neg hne]
    rw [and_iff_left (fun h => absurd h herror), ← unchanged_iff_of_refusedLate env hsets hlate]
    exact ⟨fun h => h herror, fun h _ => h⟩

theorem unchanged_refl (net : Cmina.Net) : Unchanged net net := ⟨⟨rfl, rfl, rfl, rfl⟩, rfl, rfl, rfl⟩

theorem obeys_notSet {blockError : Byte} (herror : blockError ≠ PF_DCP_BLOCK_ERROR_NO_ERROR) :
    Obeys net opt sub blockQualifier valueLength pValue (notSet net blockError).answered :=
  ⟨fun _ => unchanged_refl _, fun h => absurd h herror⟩

/-- Values that cannot be set are refused before anything is edited. -/
theorem obeys_of_refused {blockError : Byte}
    (hrefused : setEdit net opt sub blockQualifier value =
      .refused { net.cmina with helloTimeout := false } blockError)
    (herror : blockError ≠ PF_DCP_BLOCK_ERROR_NO_ERROR) :
    Obeys net opt sub blockQualifier valueLength pValue
      (setInd env net opt sub blockQualifier value).answered := by
  have hdone : setInd env net opt sub blockQualifier value =
      notSet { net with cmina := { net.cmina with helloTimeout := false } } blockError := by
    unfold setEdit at hrefused
    unfold setInd dcpSetInd
    simp only [hrefused]
    have hcheck (net : Cmina.Net) : doCheck (.refused net blockError) net = net := by
      unfold doCheck
      rw [if_neg]
      rintro ⟨-, hok, -⟩
      cases hok
    simp [Edit.refused, notSet]
    exact hcheck _
  rw [hdone]
  exact ⟨fun _ => unchanged_refl _, fun h => absurd h herror⟩

/-- Where nothing is asked for, a positive answer promises nothing. -/
theorem obeys_of_positive {done : SetResult} (hret : done.ret = 0)
    (hasked : asked? opt sub valueLength pValue = none) :
    Obeys net opt sub blockQualifier valueLength pValue done.answered := by
  unfold SetResult.answered
  rw [if_pos hret]
  refine ⟨fun h => absurd rfl h, fun _ asked h => ?_⟩
  rw [hasked] at h
  cases h

/-! ## Each option -/

theorem asked?_ipPar : asked? PF_DCP_OPT_IP PF_DCP_SUB_IP_PAR valueLength pValue =
    some (.ipPar (beIpSuite pValue)) := by
  rw [asked?, if_pos ⟨rfl, rfl⟩]

theorem asked?_ipSuite : asked? PF_DCP_OPT_IP PF_DCP_SUB_IP_SUITE valueLength pValue =
    some (.ipSuite (beIpSuite pValue)) := by
  have hsub : PF_DCP_SUB_IP_SUITE ≠ PF_DCP_SUB_IP_PAR := by decide
  rw [asked?, if_neg (fun h => hsub h.2), if_pos ⟨rfl, rfl⟩]

theorem asked?_stationName :
    asked? PF_DCP_OPT_DEVICE_PROPERTIES PF_DCP_SUB_DEV_PROP_NAME valueLength pValue =
      some (.stationName (Buffer.slice pValue 0 valueLength)) := by
  have hopt : PF_DCP_OPT_DEVICE_PROPERTIES ≠ PF_DCP_OPT_IP := by decide
  rw [asked?, if_neg (fun h => hopt h.1), if_neg (fun h => hopt h.1), if_pos ⟨rfl, rfl⟩]

theorem asked?_none (hip : opt = PF_DCP_OPT_IP → sub ≠ PF_DCP_SUB_IP_PAR ∧ sub ≠ PF_DCP_SUB_IP_SUITE)
    (hname : opt = PF_DCP_OPT_DEVICE_PROPERTIES → sub ≠ PF_DCP_SUB_DEV_PROP_NAME) :
    asked? opt sub valueLength pValue = none := by
  rw [asked?, if_neg (fun h => (hip h.1).1 h.2), if_neg (fun h => (hip h.1).2 h.2),
    if_neg (fun h => hname h.1 h.2)]

theorem setEdit_ipPar : setEdit net PF_DCP_OPT_IP PF_DCP_SUB_IP_PAR blockQualifier value =
    .ipPar { net.cmina with helloTimeout := false } (isTemporary blockQualifier) value.ipSuite
      PF_DCP_BLOCK_ERROR_SUBOPTION_NOT_SUPPORTED := by
  unfold setEdit edit
  rw [if_pos rfl, if_pos rfl]
  rfl

theorem setEdit_ipSuite : setEdit net PF_DCP_OPT_IP PF_DCP_SUB_IP_SUITE blockQualifier value =
    .ipSuite { net.cmina with helloTimeout := false } (isTemporary blockQualifier) value.ipSuite
      PF_DCP_BLOCK_ERROR_SUBOPTION_NOT_SUPPORTED := by
  have hsub : PF_DCP_SUB_IP_SUITE ≠ PF_DCP_SUB_IP_PAR := by decide
  unfold setEdit edit
  rw [if_pos rfl, if_neg hsub, if_pos rfl]
  rfl

theorem setEdit_stationName :
    setEdit net PF_DCP_OPT_DEVICE_PROPERTIES PF_DCP_SUB_DEV_PROP_NAME blockQualifier value =
      .stationName { net.cmina with helloTimeout := false } (isTemporary blockQualifier) value.bytes
        PF_DCP_BLOCK_ERROR_SUBOPTION_NOT_SUPPORTED := by
  have hopt : PF_DCP_OPT_DEVICE_PROPERTIES ≠ PF_DCP_OPT_IP := by decide
  unfold setEdit edit
  rw [if_neg hopt, if_pos rfl, if_pos rfl]
  rfl

/-- A value that goes to CMINA. -/
theorem obeys_setInd_iff {asked : Asked} {blockError : Byte}
    (hasked : asked? opt sub valueLength pValue = some asked)
    (hsets : asked.isValid valueLength = true →
      SetsAsked { net.cmina with helloTimeout := false } (isTemporary blockQualifier) asked
        (setEdit net opt sub blockQualifier value))
    (hrefused : asked.isValid valueLength = false → setEdit net opt sub blockQualifier value =
      .refused { net.cmina with helloTimeout := false } blockError)
    (herror : blockError ≠ PF_DCP_BLOCK_ERROR_NO_ERROR) :
    Obeys net opt sub blockQualifier valueLength pValue
        (setInd env net opt sub blockQualifier value).answered ↔
      ∀ asked, asked? opt sub valueLength pValue = some asked → asked.isValid valueLength = true →
        SetsInTime net.cmina (isTemporary blockQualifier) asked := by
  rw [hasked]
  simp only [Option.some.injEq, forall_eq']
  cases hvalid : asked.isValid valueLength with
  | true =>
    rw [obeys_of_setsAsked hasked (hsets hvalid).of_hello]
    simp
  | false =>
    refine iff_of_true (obeys_of_refused (hrefused hvalid) herror) ?_
    simp

theorem setInd_reset_ret (env : Env) (hopt : opt = PF_DCP_OPT_CONTROL)
    (hsub : sub = PF_DCP_SUB_CONTROL_FACTORY_RESET ∨ sub = PF_DCP_SUB_CONTROL_RESET_TO_FACTORY) :
    (setInd env net opt sub blockQualifier value).ret = 0 := by
  have hmode : (setEdit net opt sub blockQualifier value).resetMode ≠ none := by
    rw [setEdit, edit_resetMode, resetMode?]
    by_cases hfactory : sub = PF_DCP_SUB_CONTROL_FACTORY_RESET
    · rw [if_pos ⟨hopt, hfactory⟩]
      exact Option.some_ne_none _
    · rw [if_neg (fun h => hfactory h.2), if_pos ⟨hopt, hsub.resolve_left hfactory⟩]
      exact Option.some_ne_none _
  unfold setEdit at hmode
  unfold setInd dcpSetInd
  dsimp only
  split
  · rename_i h
    exact absurd h hmode
  · rfl

/-! ## One block -/

/-- A block obeys exactly when what it can set is set in time. -/
def ObeysInTime (env : Env) (net : Net) (added : Bool) (opt sub : Byte) (blockQualifier : BitVec 16)
    (valueLength : ℕ) (pValue : ℕ → Byte) : Prop :=
  Obeys net opt sub blockQualifier valueLength pValue
      (setReq env net added opt sub blockQualifier valueLength pValue) ↔
    ∀ asked, asked? opt sub valueLength pValue = some asked → asked.isValid valueLength = true →
      SetsInTime net.cmina (isTemporary blockQualifier) asked

/-- A block that cannot set anything. -/
theorem obeysInTime_of_obeys {added : Bool}
    (hnone : ∀ asked, asked? opt sub valueLength pValue = some asked →
      asked.isValid valueLength = false)
    (hobeys : Obeys net opt sub blockQualifier valueLength pValue
      (setReq env net added opt sub blockQualifier valueLength pValue)) :
    ObeysInTime env net added opt sub blockQualifier valueLength pValue := by
  refine iff_of_true hobeys ?_
  intro asked hasked hvalid
  rw [hnone asked hasked] at hvalid
  cases hvalid

theorem notSupported_ne :
    PF_DCP_BLOCK_ERROR_SUBOPTION_NOT_SUPPORTED ≠ PF_DCP_BLOCK_ERROR_NO_ERROR := by decide

theorem notSet_ne : PF_DCP_BLOCK_ERROR_SUBOPTION_NOT_SET ≠ PF_DCP_BLOCK_ERROR_NO_ERROR := by decide

theorem obeysInTime_ip (env : Env) (net : Net) (added : Bool) (sub : Byte)
    (blockQualifier : BitVec 16) (valueLength : ℕ) (pValue : ℕ → Byte) :
    ObeysInTime env net added PF_DCP_OPT_IP sub blockQualifier valueLength pValue := by
  have hprop : PF_DCP_OPT_IP ≠ PF_DCP_OPT_DEVICE_PROPERTIES := by decide
  by_cases hsub : sub = PF_DCP_SUB_IP_PAR ∨ sub = PF_DCP_SUB_IP_SUITE
  · by_cases hlen : valueLength = ipSuiteSize
    · unfold ObeysInTime setReq setOption
      rw [if_pos rfl, if_pos hsub, if_pos hlen]
      rcases hsub with hsub | hsub
      · subst hsub
        refine obeys_setInd_iff asked?_ipPar ?_ ?_ notSet_ne
        · intro hvalid
          rw [setEdit_ipPar]
          exact setsAsked_ipPar _ _ (of_decide_eq_true hvalid).2
        · intro hvalid
          have hnot : ¬ isIpsuiteValid (beIpSuite pValue) = true := fun h =>
            of_decide_eq_false hvalid ⟨hlen, h⟩
          rw [setEdit_ipPar, Edit.ipPar, if_neg hnot]
      · subst hsub
        refine obeys_setInd_iff asked?_ipSuite ?_ ?_ notSet_ne
        · intro hvalid
          rw [setEdit_ipSuite]
          exact setsAsked_ipSuite _ _ (of_decide_eq_true hvalid).2
        · intro hvalid
          have hnot : ¬ isIpsuiteValid (beIpSuite pValue) = true := fun h =>
            of_decide_eq_false hvalid ⟨hlen, h⟩
          rw [setEdit_ipSuite, Edit.ipSuite, if_neg hnot]
    · -- a suite of another length is not looked at
      refine obeysInTime_of_obeys ?_ ?_
      · intro asked hasked
        have hno (value : IpSuite) : decide (valueLength = ipSuiteSize ∧ isIpsuiteValid value) =
            false := decide_eq_false (fun h => hlen h.1)
        rcases hsub with hsub | hsub
        · rw [hsub, asked?_ipPar] at hasked
          cases hasked
          exact hno _
        · rw [hsub, asked?_ipSuite] at hasked
          cases hasked
          exact hno _
      · unfold setReq setOption
        rw [if_pos rfl, if_pos hsub, if_neg hlen]
        exact obeys_notSet notSupported_ne
  · refine obeysInTime_of_obeys ?_ ?_
    · intro asked hasked
      rw [asked?_none (fun _ => not_or.mp hsub) (fun h => absurd h hprop)] at hasked
      cases hasked
    · unfold setReq setOption
      rw [if_pos rfl, if_neg hsub]
      exact obeys_notSet notSupported_ne

theorem obeysInTime_deviceProperties (env : Env) (net : Net) (added : Bool) (sub : Byte)
    (blockQualifier : BitVec 16) (valueLength : ℕ) (pValue : ℕ → Byte) :
    ObeysInTime env net added PF_DCP_OPT_DEVICE_PROPERTIES sub blockQualifier valueLength
      pValue := by
  have hip : PF_DCP_OPT_DEVICE_PROPERTIES ≠ PF_DCP_OPT_IP := by decide
  by_cases hname : sub = PF_DCP_SUB_DEV_PROP_NAME
  · subst hname
    unfold ObeysInTime setReq setOption
    rw [if_neg hip, if_pos rfl, if_pos rfl]
    refine obeys_setInd_iff asked?_stationName ?_ ?_ notSet_ne
    · intro hvalid
      rw [setEdit_stationName]
      exact setsAsked_stationName _ _ hvalid
    · intro hvalid
      have hnot : ¬ isStationnameValid (Buffer.slice pValue 0 valueLength) = true :=
        Bool.not_eq_true _ ▸ hvalid
      rw [setEdit_stationName, Edit.stationName]
      simp only [if_neg hnot, ite_self]
  · refine obeysInTime_of_obeys ?_ ?_
    · intro asked hasked
      rw [asked?_none (fun h => absurd h hip) (fun _ => hname)] at hasked
      cases hasked
    · unfold setReq setOption
      rw [if_neg hip, if_pos rfl, if_neg hname]
      exact obeys_notSet notSupported_ne

/-- The other options set no value: they are done, or refused at once. -/
theorem obeysInTime_other {added : Bool} (hip : opt ≠ PF_DCP_OPT_IP)
    (hprop : opt ≠ PF_DCP_OPT_DEVICE_PROPERTIES) :
    ObeysInTime env net added opt sub blockQualifier valueLength pValue := by
  have hoption : PF_DCP_BLOCK_ERROR_OPTION_NOT_SUPPORTED ≠ PF_DCP_BLOCK_ERROR_NO_ERROR := by decide
  have hnone : asked? opt sub valueLength pValue = none :=
    asked?_none (fun h => absurd h hip) (fun h => absurd h hprop)
  refine obeysInTime_of_obeys ?_ ?_
  · intro asked hasked
    rw [hnone] at hasked
    cases hasked
  · unfold setReq setOption
    rw [if_neg hip, if_neg hprop]
    by_cases hdhcp : opt = PF_DCP_OPT_DHCP
    · rw [if_pos hdhcp]
      exact obeys_notSet notSupported_ne
    · rw [if_neg hdhcp]
      by_cases hcontrol : opt = PF_DCP_OPT_CONTROL
      · rw [if_pos hcontrol]
        split
        · exact obeys_of_positive rfl hnone
        · split
          · exact obeys_of_positive rfl hnone
          · split
            · exact obeys_of_positive rfl hnone
            · split
              · exact obeys_of_positive (setInd_reset_ret env hcontrol ‹_›) hnone
              · exact obeys_notSet notSupported_ne
      · rw [if_neg hcontrol]
        exact obeys_notSet hoption

end

/-- A block of a Set that is refused changes nothing, and one that is answered positively sets its
value, if and only if it does not ask for another address during an active connection, and in
`SETUP` only for what is there. -/
theorem setReq_obeys_iff (env : Env) (net : Net) (added : Bool) (opt sub : Byte)
    (blockQualifier : BitVec 16) (valueLength : ℕ) (pValue : ℕ → Byte) :
    Obeys net opt sub blockQualifier valueLength pValue
        (setReq env net added opt sub blockQualifier valueLength pValue) ↔
      ∀ asked, asked? opt sub valueLength pValue = some asked → asked.isValid valueLength = true →
        SetsInTime net.cmina (isTemporary blockQualifier) asked := by
  by_cases hip : opt = PF_DCP_OPT_IP
  · subst hip
    exact obeysInTime_ip env net added sub blockQualifier valueLength pValue
  · by_cases hprop : opt = PF_DCP_OPT_DEVICE_PROPERTIES
    · subst hprop
      exact obeysInTime_deviceProperties env net added sub blockQualifier valueLength pValue
    · exact obeysInTime_other hip hprop

/-! ## Another address during a connection -/

namespace OtherAddress

/-- A device with one AR. -/
def connected : Net where
  cmina := { EmptyName.atStart with
    current := { EmptyName.ase.withIpSuite ⟨0xC0A80132, 0xFFFFFF00, 0xC0A80132⟩ with
      stationName := [0x61, 0x62] }
    nonvolatile := { EmptyName.ase.withIpSuite ⟨0xC0A80132, 0xFFFFFF00, 0xC0A80132⟩ with
      stationName := [0x61, 0x62] }
    state := .PF_CMINA_STATE_W_CONNECT
    ars := fun ix => ⟨ix = 0, 0, 0⟩ }
  globalBlockQualifier := 0
  ledTimeout := false

/-- 192.168.1.51, for good. -/
def pValue : ℕ → Byte := fun i =>
  [0xC0, 0xA8, 0x01, 0x33, 0xFF, 0xFF, 0xFF, 0x00, 0xC0, 0xA8, 0x01, 0x33].getD i 0

end OtherAddress

open OtherAddress in
/-- The address is refused, but it is the current and the permanent one now. -/
theorem not_obeys_other_address :
    ¬ Obeys connected PF_DCP_OPT_IP PF_DCP_SUB_IP_PAR 1 12 pValue
      (setReq EmptyName.config connected true PF_DCP_OPT_IP PF_DCP_SUB_IP_PAR 1 12 pValue) := by
  rintro ⟨hrefused, -⟩
  have h := (hrefused (by decide +kernel)).1.2.1
  revert h
  decide +kernel

end PNet.Dcp
