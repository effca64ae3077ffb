import PNet.Dcp.Get

/-! # Who answers an Identify

The loop of `pf_dcp_identify_req` over the filter blocks of a request. It compares with the values
in memory, so that some blocks are not compared with what a Get would answer, and it does not look
at what is behind the last complete block.
-/

namespace PNet.Dcp

open Block Cmina

/-! ## Alias names -/

/-- With the terminator. -/
def PF_ALIAS_NAME_MAX_SIZE : ℕ := 256

/-- What LLDP has received at a port; strings without their terminators. -/
structure Peer where
  isPeerInfoReceived : Bool
  portId : List Byte
  chassisId : List Byte

/-- `pf_lldp_generate_alias_name`. -/
def generateAliasName (portId chassisId : List Byte) (len : ℕ) : Option (List Byte) :=
  if dot ∈ portId then
    if len ≤ portId.length then none else some portId
  else
    if len ≤ portId.length + chassisId.length + 1 then none
    else some (portId ++ dot :: chassisId)

def Peer.aliasName (p : Peer) : Option (List Byte) :=
  if p.isPeerInfoReceived then generateAliasName p.portId p.chassisId PF_ALIAS_NAME_MAX_SIZE
  else none

/-- `pf_lldp_is_alias_matching`. -/
def isAliasMatching (peers : List Peer) (name : List Byte) : Bool :=
  peers.any fun p => p.aliasName = some name

/-! ## The loop -/

/-- What a device compares with. -/
structure Device where
  machine : Machine
  ase : DcpAse
  peers : List Peer

/-- The variables of the loop. -/
structure Scan where
  ok : Bool
  first : Bool
  isMatch : Bool
  filter : Bool
  reqAliasName : Option (List Byte)

namespace Scan

def start : Scan := ⟨true, true, true, false, none⟩

/-- `ret = -1`. -/
def refuse (st : Scan) : Scan := { st with ok := false }

def mismatch (st : Scan) : Scan := { st with isMatch := false }

/-- The condition of the loop, apart from the room for the block. -/
def continues (st : Scan) : Bool := st.ok ∧ (st.first ∨ st.filter ∧ st.isMatch)

/-- The request is answered. -/
def answers (st : Scan) : Bool := st.ok ∧ st.isMatch

/-- A comparison that needs a filter. -/
def compare (equal : Bool) (st : Scan) : Scan :=
  if st.filter then if equal then st else st.mismatch else st.refuse

end Scan

/-- The value of a block. -/
def Frame.valueAt (f : Frame) (v : Visit) : List Byte := Buffer.slice f.bytes v.pos v.blockLength

/-- `memcmp` over the length of the value. -/
def equalsValue (f : Frame) (v : Visit) (value : Value) : Bool :=
  Buffer.slice f.bytes v.pos value.length = value.bytes ∧ v.blockLength = value.length

/-- `memcmp` over the length of the block, and a terminator behind it. -/
def equalsString (f : Frame) (v : Visit) (value : Value) : Bool :=
  f.valueAt v = Buffer.slice value.memory 0 v.blockLength ∧ value.memory v.blockLength = 0

/-- The characters in front of a terminator. -/
def terminated (bs : List Byte) : List Byte := bs.takeWhile (· ≠ 0)

/-- The copy of the block, with a terminator, is an alias name. -/
def equalsAlias (dev : Device) (f : Frame) (v : Visit) : Bool :=
  v.blockLength < PF_ALIAS_NAME_MAX_SIZE ∧ isAliasMatching dev.peers (terminated (f.valueAt v))

/-- The suboptions of the device properties that are compared by length. -/
def isComparedProperty (sub : Byte) : Bool :=
  sub = PF_DCP_SUB_DEV_PROP_VENDOR ∨ sub = PF_DCP_SUB_DEV_PROP_ID ∨
    sub = PF_DCP_SUB_DEV_PROP_ROLE ∨ sub = PF_DCP_SUB_DEV_PROP_OPTIONS ∨
    sub = PF_DCP_SUB_DEV_PROP_OEM_ID ∨ sub = PF_DCP_SUB_DEV_PROP_INSTANCE ∨
    sub = PF_DCP_SUB_DEV_PROP_GATEWAY

/-- A block with a value in memory. -/
def examineValue (f : Frame) (v : Visit) (value : Value) (st : Scan) : Scan :=
  if v.option = PF_DCP_OPT_ALL then
    if v.subOption = PF_DCP_SUB_ALL ∧ st.first ∧ (v.blockLength = 2 ∨ v.blockLength = 0) then
      { st with filter := false }
    else st.refuse
  else if v.option = PF_DCP_OPT_IP then
    if st.filter = true ∧ (v.subOption = PF_DCP_SUB_IP_MAC ∨ v.subOption = PF_DCP_SUB_IP_PAR) then
      st.compare (equalsValue f v value)
    else st.refuse
  else if v.option = PF_DCP_OPT_DEVICE_PROPERTIES then
    if v.subOption = PF_DCP_SUB_DEV_PROP_NAME then
      if equalsString f v value then { st with filter := st.filter || st.first } else st.mismatch
    else if isComparedProperty v.subOption then
      -- for a role also the header in the frame is changed, which is not read again
      st.compare (equalsValue f v value)
    else st.refuse
  else if v.option = PF_DCP_OPT_DHCP then st.compare (equalsValue f v value)
  else st.refuse

/-- A block without one: it may be an alias name. -/
def examineOther (dev : Device) (f : Frame) (v : Visit) (st : Scan) : Scan :=
  if v.option = PF_DCP_OPT_DEVICE_PROPERTIES ∧ v.subOption = PF_DCP_SUB_DEV_PROP_ALIAS then
    if equalsAlias dev f v then
      if st.first then
        { st with filter := true, reqAliasName := some (terminated (f.valueAt v)) }
      else st
    else st.mismatch
  else st.refuse

/-- One turn of the loop. -/
def examine (dev : Device) (f : Frame) (st : Scan) (v : Visit) : Scan :=
  let st := match dcpGetReq dev.machine dev.ase v.option v.subOption with
    | .ok value => examineValue f v value st
    | .error _ => examineOther dev f v st
  { st with first := false }

/-- The loop over the blocks. -/
def scan (dev : Device) (f : Frame) : List Visit → Scan → Scan
  | [], st => st
  | v :: vs, st => if st.continues then scan dev f vs (examine dev f st v) else st

/-- `pf_dcp_identify_req` with a buffer for the answer: the blocks that are answered, if any. The
device is not changed. -/
def identifyReq (dev : Device) (f : Frame) : Option (List AnswerBlock) × Device :=
  if f.len < f.dcplen then (none, dev)
  else
    let st := scan dev f f.visits .start
    (if st.answers then some (identifyBlocks dev.machine dev.ase st.reqAliasName) else none, dev)

/-! ## What a request asks for -/

/-- The value of an option, as a device tells it. -/
def current? (dev : Device) (opt sub : Byte) : Option (List Byte) :=
  let ase := dev.ase
  if opt = PF_DCP_OPT_IP then
    if sub = PF_DCP_SUB_IP_MAC then some (field ase.macAddress 6).bytes
    else if sub = PF_DCP_SUB_IP_PAR then some (ipSuiteBytes true ase.ipSuite)
    else if sub = PF_DCP_SUB_IP_SUITE then
      some (field (fullIpSuiteBytes true ase.fullIpSuite) 28).bytes
    else none
  else if opt = PF_DCP_OPT_DEVICE_PROPERTIES then
    if sub = PF_DCP_SUB_DEV_PROP_VENDOR then some ase.productName
    else if sub = PF_DCP_SUB_DEV_PROP_NAME then some ase.stationName
    else if sub = PF_DCP_SUB_DEV_PROP_ID then some (deviceIdBytes ase.deviceId)
    else if sub = PF_DCP_SUB_DEV_PROP_ROLE then some [ase.deviceRole]
    else if sub = PF_DCP_SUB_DEV_PROP_OPTIONS then some deviceOptionBytes
    else if sub = PF_DCP_SUB_DEV_PROP_INSTANCE then some [ase.instanceIdHigh, ase.instanceIdLow]
    else if sub = PF_DCP_SUB_DEV_PROP_OEM_ID then some (deviceIdBytes ase.oemDeviceId)
    else if sub = PF_DCP_SUB_DEV_PROP_GATEWAY then some (bytes16 true ase.standardGwValue)
    else none
  else if opt = PF_DCP_OPT_DEVICE_INITIATIVE ∧ sub = PF_DCP_SUB_DEV_INITIATIVE_SUPPORT then
    some (bytes16 true ase.deviceInitiative)
  else none

def isAliasBlock (v : Visit) : Bool :=
  v.option = PF_DCP_OPT_DEVICE_PROPERTIES ∧ v.subOption = PF_DCP_SUB_DEV_PROP_ALIAS

def isNameBlock (v : Visit) : Bool :=
  v.option = PF_DCP_OPT_DEVICE_PROPERTIES ∧ v.subOption = PF_DCP_SUB_DEV_PROP_NAME

/-- The selector of all devices; some requesters leave its length away. -/
def isAllBlock (v : Visit) : Bool :=
  v.option = PF_DCP_OPT_ALL ∧ v.subOption = PF_DCP_SUB_ALL ∧
    (v.blockLength = 2 ∨ v.blockLength = 0)

/-- The filter block equals the value of the device. -/
def equalsCurrent (dev : Device) (f : Frame) (v : Visit) : Bool :=
  if isAliasBlock v then isAliasMatching dev.peers (f.valueAt v)
  else current? dev v.option v.subOption = some (f.valueAt v)

/-- The blocks `vs` are those from the header at `pos` to `stop`, without a rest. -/
def Fills (f : Frame) (stop : ℕ) : ℕ → List Visit → Prop
  | pos, [] => pos = stop
  | pos, v :: vs => v = f.blockAt (pos + PF_DCP_BLOCK_HDR_SIZE) ∧
      Fills f stop (aligned (v.pos + v.blockLength)) vs

/-- The blocks `vs` exactly fill the DCP data, which lie in the frame. -/
def WellFormed (f : Frame) (vs : List Visit) : Prop :=
  f.start + f.dataLength ≤ f.len ∧ Fills f (f.start + f.dataLength) f.start vs

/-- All devices are asked, or those whose values equal all the blocks. -/
def AsksFor (dev : Device) (f : Frame) (vs : List Visit) : Prop :=
  (∃ v, vs = [v] ∧ isAllBlock v = true) ∨ ∀ v ∈ vs, equalsCurrent dev f v = true

/-- The device answers exactly the well-formed requests that ask for it, and stays as it is. -/
def AnswersExactly (dev : Device) (f : Frame) : Prop :=
  ((identifyReq dev f).1.isSome = true ↔ ∃ vs, WellFormed f vs ∧ AsksFor dev f vs) ∧
    (identifyReq dev f).2 = dev

/-! ## The comparisons of the code -/

/-- What the code compares a block with, behind the first one or as the first one with a name. -/
def compared (dev : Device) (f : Frame) (v : Visit) : Bool :=
  match dcpGetReq dev.machine dev.ase v.option v.subOption with
  | .ok value =>
    if v.option = PF_DCP_OPT_IP then
      (v.subOption = PF_DCP_SUB_IP_MAC ∨ v.subOption = PF_DCP_SUB_IP_PAR) ∧ equalsValue f v value
    else if v.option = PF_DCP_OPT_DEVICE_PROPERTIES then
      if v.subOption = PF_DCP_SUB_DEV_PROP_NAME then equalsString f v value
      else isComparedProperty v.subOption ∧ equalsValue f v value
    else v.option = PF_DCP_OPT_DHCP ∧ equalsValue f v value
  | .error _ => isAliasBlock v ∧ equalsAlias dev f v

/-- The request begins with a name or an alias name. -/
def leads (v : Visit) : Bool := isNameBlock v ∨ isAliasBlock v

/-- The first block decides: without one the data are empty; the selector of all devices is alone;
behind a name, a well-formed request is compared with the current values, and one that is not is
refused for one of its complete blocks; any other first block is not to be answered. -/
def ComparesRightly (dev : Device) (f : Frame) : Prop :=
  match f.visits with
  | [] => WellFormed f []
  | v :: vs =>
    if isAllBlock v then vs = [] ∧ WellFormed f [v]
    else if leads v then
      (WellFormed f (v :: vs) →
        ((∀ w ∈ v :: vs, compared dev f w = true) ↔ ∀ w ∈ v :: vs, equalsCurrent dev f w = true)) ∧
      (¬ WellFormed f (v :: vs) → ∃ w ∈ v :: vs, compared dev f w = false)
    else ¬ (WellFormed f (v :: vs) ∧ ∀ w ∈ v :: vs, equalsCurrent dev f w = true)

/-! ## One turn -/

section
variable {dev : Device} {f : Frame} {v : Visit} {st : Scan}

/-- The loop is behind its first block, which was a name that matched. -/
def Scan.Filters (st : Scan) : Prop :=
  st.ok = true ∧ st.first = false ∧ st.isMatch = true ∧ st.filter = true

/-- The request will not be answered. -/
def Scan.Fails (st : Scan) : Prop := st.ok = false ∨ st.isMatch = false

theorem Scan.Fails.of_first (h : st.Fails) : ({ st with first := false } : Scan).Fails := h

theorem compare_of_filters (h : st.Filters) (equal : Bool) :
    (equal = true → st.compare equal = st) ∧ (equal = false → (st.compare equal).Fails) := by
  unfold Scan.compare
  rw [if_pos h.2.2.2]
  cases equal with
  | true => exact ⟨fun _ => rfl, nofun⟩
  | false => exact ⟨nofun, fun _ => .inr rfl⟩

/-- A turn behind the first block: an equal block changes nothing, another one ends the loop. -/
theorem examine_of_filters (h : st.Filters) :
    (compared dev f v = true → examine dev f st v = st) ∧
      (compared dev f v = false → (examine dev f st v).Fails) := by
  rcases st with ⟨ok, first, isMatch, filter, reqAliasName⟩
  rcases h with ⟨hok, hfirst, hmatch, hfilter⟩
  dsimp only at hok hfirst hmatch hfilter
  subst hok hfirst hmatch hfilter
  have hcompare := @compare_of_filters ⟨true, false, true, true, reqAliasName⟩ ⟨rfl, rfl, rfl, rfl⟩
  unfold examine compared
  cases hvalue : dcpGetReq dev.machine dev.ase v.option v.subOption with
  | error blockError =>
    dsimp only
    unfold examineOther isAliasBlock
    by_cases halias : v.option = PF_DCP_OPT_DEVICE_PROPERTIES ∧
        v.subOption = PF_DCP_SUB_DEV_PROP_ALIAS
    · cases hequal : equalsAlias dev f v with
      | true => simp [halias]
      | false => simp [halias, Scan.mismatch, Scan.Fails]
    · simp [halias, Scan.refuse, Scan.Fails]
  | ok value =>
    dsimp only
    unfold examineValue
    by_cases hall : v.option = PF_DCP_OPT_ALL
    · have hip : PF_DCP_OPT_ALL ≠ PF_DCP_OPT_IP := by decide
      have hprop : PF_DCP_OPT_ALL ≠ PF_DCP_OPT_DEVICE_PROPERTIES := by decide
      have hdhcp : PF_DCP_OPT_ALL ≠ PF_DCP_OPT_DHCP := by decide
      simp [hall, hip, hprop, hdhcp, Scan.refuse, Scan.Fails]
    · rw [if_neg hall]
      by_cases hip : v.option = PF_DCP_OPT_IP
      · rw [if_pos hip, if_pos hip]
        by_cases hsub : v.subOption = PF_DCP_SUB_IP_MAC ∨ v.subOption = PF_DCP_SUB_IP_PAR
        · rcases hcompare (equalsValue f v value) with ⟨hequal, hother⟩
          rw [if_pos ⟨rfl, hsub⟩]
          constructor
          · intro h
            rw [hequal (of_decide_eq_true h).2]
          · intro h
            apply (hother ?_).of_first
            by_contra hne
            exact of_decide_eq_false h ⟨hsub, by simpa using hne⟩
        · rw [if_neg (fun h => hsub h.2)]
          exact ⟨fun h => absurd (of_decide_eq_true h).1 hsub, fun _ => .inl rfl⟩
      · rw [if_neg hip, if_neg hip]
        by_cases hprop : v.option = PF_DCP_OPT_DEVICE_PROPERTIES
        · rw [if_pos hprop, if_pos hprop]
          by_cases hname : v.subOption = PF_DCP_SUB_DEV_PROP_NAME
          · rw [if_pos hname, if_pos hname]
            cases equalsString f v value with
            | true => exact ⟨fun _ => rfl, nofun⟩
            | false => exact ⟨nofun, fun _ => .inr rfl⟩
          · rw [if_neg hname, if_neg hname]
            cases hsub : isComparedProperty v.subOption with
            | true =>
              rcases hcompare (equalsValue f v value) with ⟨hequal, hother⟩
              simp only [if_true, true_and, Bool.decide_eq_true]
              exact ⟨fun h => by rw [hequal h], fun h => (hother h).of_first⟩
            | false => simp [Scan.refuse, Scan.Fails]
        · rw [if_neg hprop, if_neg hprop]
          by_cases hdhcp : v.option = PF_DCP_OPT_DHCP
          · rcases hcompare (equalsValue f v value) with ⟨hequal, hother⟩
            rw [if_pos hdhcp]
            simp only [hdhcp, true_and, Bool.decide_eq_true]
            exact ⟨fun h => by rw [hequal h], fun h => (hother h).of_first⟩
          · simp [hdhcp, Scan.refuse, Scan.Fails]

theorem answers_of_fails (h : st.Fails) : st.answers = false := by
  rcases h with h | h <;> simp [Scan.answers, h]

theorem scan_of_fails (h : st.Fails) (hfirst : st.first = false) (vs : List Visit) :
    scan dev f vs st = st := by
  have hstop : st.continues = false := by
    rcases h with h | h <;> simp [Scan.continues, h, hfirst]
  cases vs with
  | nil => rfl
  | cons v vs => rw [scan, if_neg (by rw [hstop]; exact Bool.false_ne_true)]

/-- Behind the first block the request is answered when all blocks are equal. -/
theorem scan_of_filters (h : st.Filters) (vs : List Visit) :
    (scan dev f vs st).answers = true ↔ ∀ v ∈ vs, compared dev f v = true := by
  have hcontinues : st.continues = true := by simp [Scan.continues, h.1, h.2.2.1, h.2.2.2]
  induction vs with
  | nil => simp [scan, Scan.answers, h.1, h.2.2.1]
  | cons v vs ih =>
    rw [scan, if_pos hcontinues, List.forall_mem_cons]
    rcases @examine_of_filters dev f v st h with ⟨hequal, hother⟩
    cases hcompared : compared dev f v with
    | true =>
      rw [hequal hcompared, and_iff_right rfl]
      exact ih
    | false =>
      have hfails := hother hcompared
      rw [scan_of_fails hfails rfl, answers_of_fails hfails]
      simp

/-! ## The first turn -/

theorem dcpGetReq_all : dcpGetReq dev.machine dev.ase PF_DCP_OPT_ALL PF_DCP_SUB_ALL =
    .ok (field [] 0) := by
  rw [dcpGetReq, if_pos rfl]

/-- The selector of all devices ends the loop. -/
theorem examine_start_all (h : isAllBlock v = true) :
    (examine dev f .start v).answers = true ∧ (examine dev f .start v).continues = false := by
  unfold isAllBlock at h
  rcases of_decide_eq_true h with ⟨hopt, hsub, hlen⟩
  unfold examine
  rw [hopt, hsub, dcpGetReq_all]
  dsimp only
  unfold examineValue
  rw [if_pos hopt, if_pos ⟨hsub, rfl, hlen⟩]
  exact ⟨rfl, rfl⟩

theorem dcpGetReq_name : dcpGetReq dev.machine dev.ase PF_DCP_OPT_DEVICE_PROPERTIES
    PF_DCP_SUB_DEV_PROP_NAME = .ok (string dev.ase.stationName dev.machine.behindStationName
      PNET_STATION_NAME_MAX_SIZE) := by
  have hall : PF_DCP_OPT_DEVICE_PROPERTIES ≠ PF_DCP_OPT_ALL := by decide
  have hip : PF_DCP_OPT_DEVICE_PROPERTIES ≠ PF_DCP_OPT_IP := by decide
  have hvendor : PF_DCP_SUB_DEV_PROP_NAME ≠ PF_DCP_SUB_DEV_PROP_VENDOR := by decide
  rw [dcpGetReq, if_neg hall, if_neg hip, if_pos rfl, if_neg hvendor, if_pos rfl]

theorem dcpGetReq_alias : dcpGetReq dev.machine dev.ase PF_DCP_OPT_DEVICE_PROPERTIES
    PF_DCP_SUB_DEV_PROP_ALIAS = .error PF_DCP_BLOCK_ERROR_SUBOPTION_NOT_SUPPORTED := by
  have hall : PF_DCP_OPT_DEVICE_PROPERTIES ≠ PF_DCP_OPT_ALL := by decide
  have hip : PF_DCP_OPT_DEVICE_PROPERTIES ≠ PF_DCP_OPT_IP := by decide
  rw [dcpGetReq, if_neg hall, if_neg hip, if_pos rfl]
  rfl

/-- A name begins a filter when it is that of the device. -/
theorem examine_start_leads (h : leads v = true) :
    (compared dev f v = true → (examine dev f .start v).Filters) ∧
      (compared dev f v = false → (examine dev f .start v).Fails) := by
  have hprop : PF_DCP_OPT_DEVICE_PROPERTIES ≠ PF_DCP_OPT_ALL := by decide
  have hip : PF_DCP_OPT_DEVICE_PROPERTIES ≠ PF_DCP_OPT_IP := by decide
  unfold leads isNameBlock isAliasBlock at h
  simp only [decide_eq_true_eq] at h
  unfold examine compared
  rcases h with ⟨hopt, hsub⟩ | ⟨hopt, hsub⟩
  · rw [hopt, hsub, dcpGetReq_name]
    dsimp only
    unfold examineValue
    rw [hopt, hsub, if_neg hprop, if_neg hip, if_neg hip, if_pos rfl, if_pos rfl, if_pos rfl,
      if_pos rfl]
    cases equalsString f v _ with
    | true => exact ⟨fun _ => ⟨rfl, rfl, rfl, rfl⟩, nofun⟩
    | false => exact ⟨nofun, fun _ => .inr rfl⟩
  · have halias : isAliasBlock v = true := by simp [isAliasBlock, hopt, hsub]
    rw [hopt, hsub, dcpGetReq_alias]
    dsimp only
    unfold examineOther
    rw [if_pos ⟨hopt, hsub⟩, halias]
    cases equalsAlias dev f v with
    | true => exact ⟨fun _ => ⟨rfl, rfl, rfl, rfl⟩, by simp⟩
    | false => exact ⟨by simp, fun _ => .inr rfl⟩

theorem compare_start (equal : Bool) : (Scan.start.compare equal).Fails := .inl rfl

/-- Any other first block is refused. -/
theorem examine_start_other (hall : isAllBlock v = false) (hleads : leads v = false) :
    (examine dev f .start v).Fails := by
  unfold isAllBlock at hall
  unfold leads isNameBlock isAliasBlock at hleads
  simp only [decide_eq_true_eq, decide_eq_false_iff_not, not_or] at hall hleads
  rcases hleads with ⟨hname, halias⟩
  unfold examine
  apply Scan.Fails.of_first
  cases dcpGetReq dev.machine dev.ase v.option v.subOption with
  | error blockError =>
    dsimp only
    unfold examineOther
    rw [if_neg halias]
    exact .inl rfl
  | ok value =>
    dsimp only
    unfold examineValue
    split
    · rename_i hopt
      rw [if_neg (fun h => hall ⟨hopt, h.1, h.2.2⟩)]
      exact .inl rfl
    · split
      · rw [if_neg (fun h => Bool.false_ne_true h.1)]
        exact .inl rfl
      · split
        · rename_i hopt
          rw [if_neg (fun h => hname ⟨hopt, h⟩)]
          split
          · exact compare_start _
          · exact .inl rfl
        · split
          · exact compare_start _
          · exact .inl rfl

/-- What the loop makes of a request. -/
theorem scan_start_cons (vs : List Visit) : (scan dev f (v :: vs) .start).answers = true ↔
    isAllBlock v = true ∨ leads v = true ∧ ∀ w ∈ v :: vs, compared dev f w = true := by
  have hfirst : scan dev f (v :: vs) .start = scan dev f vs (examine dev f .start v) := rfl
  rw [hfirst]
  cases hall : isAllBlock v with
  | true =>
    rcases @examine_start_all dev f v hall with ⟨hanswers, hstop⟩
    have hscan : scan dev f vs (examine dev f .start v) = examine dev f .start v := by
      cases vs with
      | nil => rfl
      | cons w vs => rw [scan, if_neg (by rw [hstop]; exact Bool.false_ne_true)]
    rw [hscan, hanswers]
    simp
  | false =>
    cases hleads : leads v with
    | true =>
      rcases @examine_start_leads dev f v hleads with ⟨hequal, hother⟩
      rw [List.forall_mem_cons]
      cases hcompared : compared dev f v with
      | true =>
        rw [scan_of_filters (hequal hcompared)]
        simp
      | false =>
        have hfails := hother hcompared
        rw [scan_of_fails hfails rfl, answers_of_fails hfails]
        simp
    | false =>
      have hfails := @examine_start_other dev f v hall hleads
      rw [scan_of_fails hfails rfl, answers_of_fails hfails]
      simp

end

/-! ## The blocks of the frame -/

section
variable {f : Frame} {stop pos : ℕ} {vs : List Visit}

theorem Fills.le (vs : List Visit) : ∀ pos, Fills f stop pos vs → pos ≤ stop := by
  induction vs with
  | nil =>
    intro pos h
    exact le_of_eq h
  | cons v vs ih =>
    intro pos h
    rcases h with ⟨hv, hrest⟩
    have hle := ih _ hrest
    have hpos : v.pos = pos + PF_DCP_BLOCK_HDR_SIZE := by rw [hv]; rfl
    have haligned := le_aligned (v.pos + v.blockLength)
    simp only [PF_DCP_BLOCK_HDR_SIZE] at hpos
    omega

/-- The loop visits the blocks that fill the data. -/
theorem visitsFrom_of_fills (vs : List Visit) : ∀ pos, Fills f f.dcplen pos vs →
    f.visitsFrom (pos + PF_DCP_BLOCK_HDR_SIZE) = vs := by
  induction vs with
  | nil =>
    intro pos h
    have hpos : pos = f.dcplen := h
    rw [Frame.visitsFrom, if_neg]
    simp only [hpos, PF_DCP_BLOCK_HDR_SIZE]
    omega
  | cons v vs ih =>
    intro pos h
    rcases h with ⟨hv, hrest⟩
    have hle := Fills.le _ _ hrest
    have haligned := le_aligned (v.pos + v.blockLength)
    have hpos : v.pos = pos + PF_DCP_BLOCK_HDR_SIZE := by rw [hv]; rfl
    rw [Frame.visitsFrom, ← hv, if_pos (by rw [← hpos]; omega)]
    congr 1
    exact ih _ hrest

theorem dcplen_of_fits (h : f.start + f.dataLength ≤ f.len) :
    f.dcplen = f.start + f.dataLength := by
  have hlen := f.len_le
  simp only [PNAL_BUF_MAX_SIZE] at hlen
  exact Nat.mod_eq_of_lt (by omega)

theorem visits_of_wellFormed (h : WellFormed f vs) : f.visits = vs := by
  rcases h with ⟨hfits, hfills⟩
  rw [← dcplen_of_fits hfits] at hfills
  exact visitsFrom_of_fills vs f.start hfills

theorem exists_wellFormed_iff (p : List Visit → Prop) :
    (∃ vs, WellFormed f vs ∧ p vs) ↔ WellFormed f f.visits ∧ p f.visits := by
  constructor
  · rintro ⟨vs, hwell, hp⟩
    rw [visits_of_wellFormed hwell]
    exact ⟨hwell, hp⟩
  · intro h
    exact ⟨f.visits, h⟩

theorem dcplen_le_of_wellFormed (h : WellFormed f vs) : f.dcplen ≤ f.len := by
  rw [dcplen_of_fits h.1]
  exact h.1

end

/-! ## Answers -/

theorem identifyReq_isSome (dev : Device) (f : Frame) : (identifyReq dev f).1.isSome = true ↔
    f.dcplen ≤ f.len ∧ (scan dev f f.visits .start).answers = true := by
  unfold identifyReq
  by_cases hlen : f.len < f.dcplen
  · rw [if_pos hlen]
    simp [Nat.not_le.mpr hlen]
  · rw [if_neg hlen]
    cases hanswers : (scan dev f f.visits .start).answers with
    | true => simp [hanswers, Nat.not_lt.mp hlen]
    | false => simp [hanswers]

theorem identifyReq_dev (dev : Device) (f : Frame) : (identifyReq dev f).2 = dev := by
  unfold identifyReq
  split <;> rfl

/-- The selector of all devices is no value of a device. -/
theorem equalsCurrent_of_all {dev : Device} {f : Frame} {v : Visit} (h : isAllBlock v = true) :
    equalsCurrent dev f v = false := by
  have hprop : PF_DCP_OPT_ALL ≠ PF_DCP_OPT_DEVICE_PROPERTIES := by decide
  have hip : PF_DCP_OPT_ALL ≠ PF_DCP_OPT_IP := by decide
  have hinitiative : PF_DCP_OPT_ALL ≠ PF_DCP_OPT_DEVICE_INITIATIVE := by decide
  have hopt := (of_decide_eq_true h).1
  simp [equalsCurrent, isAliasBlock, current?, hopt, hprop, hip, hinitiative]

namespace NoBlock

/-- A frame with two bytes of DCP data. -/
def frame : Frame where
  bytes i := if i = 25 then 2 else 0
  len := 60
  len_le := shortest_le
  vlanTags := 0

def device : Device where
  machine := ⟨false, fun _ => 0, fun _ => 0⟩
  ase := ⟨[0x61, 0x62], [0x63], 1, 0, 0, 0, ⟨0, 1, 0, 2⟩, ⟨0, 1, 0, 3⟩, [2, 0, 0, 0, 0, 1], 0, false,
    ⟨⟨0xC0A80132, 0xFFFFFF00, 0xC0A80132⟩, List.replicate 4 0⟩⟩
  peers := []

end NoBlock

end PNet.Dcp
