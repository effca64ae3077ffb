import PNet.Cyclic.Ppm
import PNet.Cmdev.Tree
import PNet.Lib.SharedPool

/-! # Diagnosis

`pf_diag.c` over the pool of diagnosis items of `pf_cmdev.c`. The diagnosis items of a subslot
are a list through the pool, and those that are free are another one. A function answers
`none` when one of its loops does not end.

The alarms go to an AR, whose answer is a parameter: `send ar source alarm`.
-/

namespace PNet.Cmdev

open Connect Cyclic SharedPool

/-! ## Data -/

def PF_USI_CHANNEL_DIAGNOSIS : BitVec 16 := 0x8000
def PF_USI_ALARM_MULTIPLE : BitVec 16 := 0x8001
def PF_USI_EXTENDED_CHANNEL_DIAGNOSIS : BitVec 16 := 0x8002
def PF_USI_QUALIFIED_CHANNEL_DIAGNOSIS : BitVec 16 := 0x8003

def PF_DIAG_QUALIFIED_SEVERITY_MASK : BitVec 32 := ~~~0x00000007
def PF_DIAG_QUALIFIER_MASK_FAULT : BitVec 32 := 0xF8000000
def PF_DIAG_QUALIFIER_MASK_DEMANDED : BitVec 32 := 0x07FE0000
def PF_DIAG_QUALIFIER_MASK_REQUIRED : BitVec 32 := 0x0001FF80
def PF_DIAG_BIT_MAINTENANCE_REQUIRED : BitVec 32 := 0x00000001
def PF_DIAG_BIT_MAINTENANCE_DEMANDED : BitVec 32 := 0x00000002

def PNET_CHANNEL_WHOLE_SUBMODULE : BitVec 16 := 0x8000

/-- `pnet_diag_source_t`. -/
structure DiagSource where
  api : BitVec 32
  slot : BitVec 16
  subslot : BitVec 16
  ch : BitVec 16
  /-- The channel is a channel group. -/
  chGrouping : Bool
  chDirection : DiagDir
deriving DecidableEq, Repr

inductive DiagAlarm where
  | diagnosis (item : DiagItem)
  | usiDiagnosisDisappears (usi : BitVec 16)

/-- How an AR answers to an alarm. -/
abbrev Send := ℕ → DiagSource → DiagAlarm → ℤ

/-- A CR of an AR. -/
structure Cr where
  iocrType : BitVec 16
  ppm : Ppm

/-- An AR. -/
structure Ar where
  inUse : Bool
  iocrs : ℕ → Cr
  expApis : List ExpApi

/-- An AR that is not in use. -/
def Ar.cleared : Ar := ⟨false, fun _ => ⟨0, .cleared⟩, []⟩

/-- The device tree and the ARs. -/
structure Net where
  dev : Device
  ars : ℕ → Ar

/-! ## The pool -/

namespace Device

def setItem (d : Device) (ix : ℕ) (item : DiagItem) : Device :=
  { d with diagItems := Function.update d.diagItems ix item }

def setDiagList (d : Device) (q : SubslotPos) (ix : ℕ) : Device :=
  d.setSubslot q { d.subslots q with diagList := ix }

def next (d : Device) (i : ℕ) : ℕ := (d.diagItems i).next

/-- The items of a subslot, in a loop over its list. -/
def diagItemsOf (d : Device) (q : SubslotPos) : Option (List DiagItem) :=
  (walk PNET_MAX_DIAG_ITEMS d.next PNET_MAX_DIAG_ITEMS (d.subslots q).diagList).map fun ixs =>
    ixs.map d.diagItems

/-- `pf_cmdev_new_diag`. -/
def newDiag (d : Device) : Option (ℕ × Device) :=
  let ix := d.diagItemsFree
  if ix = PF_DIAG_IX_NULL then none
  else
    some (ix, { d with diagItemsFree := (d.diagItems ix).next }.setItem ix
      { clearedItem with inUse := true })

/-- `pf_cmdev_free_diag`. -/
def freeDiag (d : Device) (ix : ℕ) : Device :=
  if ix < PNET_MAX_DIAG_ITEMS then
    { d with diagItemsFree := ix }.setItem ix
      { d.diagItems ix with inUse := false, next := d.diagItemsFree }
  else d

/-! ## Finding an item -/

/-- The item is that of the diagnosis. -/
def isDiag (source : DiagSource) (chErrorType extChErrorType usi : BitVec 16) (item : DiagItem) :
    Bool :=
  if PF_USI_CHANNEL_DIAGNOSIS ≤ item.usi then
    item.std.chNbr = source.ch ∧ item.std.chErrorType = chErrorType ∧
      item.std.extChErrorType = extChErrorType ∧ item.std.chProperties.acc = source.chGrouping ∧
      item.std.chProperties.dir = source.chDirection
  else item.usi = usi

/-- The submodules that may have a diagnosis. -/
def searchable (state : SubmodState) : Bool :=
  (state.identInfo = .PF_SUBMOD_PLUG_OK ∨ state.identInfo = .PF_SUBMOD_PLUG_SUBSTITUTE) ∧
    (state.arInfo = .PF_SUBMOD_AR_INFO_OWN ∨
      state.arInfo = .PF_SUBMOD_AR_INFO_APPLICATION_READY_PENDING)

/-- The item `ix`, which is behind `prev`, is taken out of the list of the subslot. -/
def unlinkDiag (d : Device) (q : SubslotPos) (prev ix : ℕ) : Device :=
  if prev ≠ PF_DIAG_IX_NULL then
    d.setItem prev { d.diagItems prev with next := (d.diagItems ix).next }
  else d.setDiagList q (d.diagItems ix).next

/-- The item goes to the front of the list of the subslot. -/
def linkDiag (d : Device) (q : SubslotPos) (ix : ℕ) : Device :=
  (d.setItem ix { d.diagItems ix with next := (d.subslots q).diagList }).setDiagList q ix

/-- The subslot of the source, if it may have a diagnosis. -/
def target (d : Device) (source : DiagSource) : Option SubslotPos :=
  (d.getSubslotFull (source.api.setWidth 16) source.slot source.subslot).filter fun q =>
    searchable (d.subslots q).submoduleState

/-- `pf_diag_find_entry`: the subslot and the item, which has been unlinked. -/
def findEntry (d : Device) (source : DiagSource) (chErrorType extChErrorType usi : BitVec 16) :
    Option (Option (SubslotPos × Option ℕ) × Device) :=
  match d.target source with
  | none => some (none, d)
  | some q =>
    match search PNET_MAX_DIAG_ITEMS d.next
        (fun i => isDiag source chErrorType extChErrorType usi (d.diagItems i))
        PNET_MAX_DIAG_ITEMS PF_DIAG_IX_NULL (d.subslots q).diagList with
    | none => none
    | some none => some (some (q, none), d)
    | some (some (prev, ix)) => some (some (q, some ix), d.unlinkDiag q prev ix)

end Device

/-! ## Summaries -/

/-- The alarm specifier. -/
structure AlarmSpec where
  channelDiagnosis : Bool
  manufacturerDiagnosis : Bool
  submoduleDiagnosis : Bool
  arDiagnosis : Bool
deriving DecidableEq, Repr

namespace DiagItem

def severityQualifier (item : DiagItem) : BitVec 32 :=
  item.std.qualChQualifier &&& PF_DIAG_QUALIFIED_SEVERITY_MASK

/-- An item in standard format has the severity, directly or by its qualifier. -/
def hasSeverity (item : DiagItem) (maint : DiagMaint) (mask : BitVec 32) : Bool :=
  item.std.chProperties.maint = maint ∨
    item.std.chProperties.maint = .PNET_DIAG_CH_PROP_MAINT_QUALIFIED ∧
      item.severityQualifier &&& mask ≠ 0

def isStdFault (item : DiagItem) : Bool :=
  item.hasSeverity .PNET_DIAG_CH_PROP_MAINT_FAULT PF_DIAG_QUALIFIER_MASK_FAULT

def appears (item : DiagItem) : Bool :=
  item.std.chProperties.spec = .PF_DIAG_CH_PROP_SPEC_APPEARS

/-- `pf_alarm_add_diag_item_to_summary`. -/
def addToSummary (isSameAr : Bool) (item : DiagItem) :
    AlarmSpec × BitVec 32 → AlarmSpec × BitVec 32
  | (spec, maintStatus) =>
    if item.usi < PF_USI_CHANNEL_DIAGNOSIS then
      ({ spec with
        manufacturerDiagnosis := true
        submoduleDiagnosis := true
        arDiagnosis := spec.arDiagnosis || isSameAr }, maintStatus)
    else
      let required := item.hasSeverity .PNET_DIAG_CH_PROP_MAINT_REQUIRED
        PF_DIAG_QUALIFIER_MASK_REQUIRED
      let demanded := item.hasSeverity .PNET_DIAG_CH_PROP_MAINT_DEMANDED
        PF_DIAG_QUALIFIER_MASK_DEMANDED
      ({ spec with
        channelDiagnosis := spec.channelDiagnosis || item.appears
        submoduleDiagnosis := spec.submoduleDiagnosis || item.appears && item.isStdFault
        arDiagnosis := spec.arDiagnosis || item.appears && item.isStdFault && isSameAr },
        maintStatus ||| item.severityQualifier |||
          (if required then PF_DIAG_BIT_MAINTENANCE_REQUIRED else 0) |||
          (if demanded then PF_DIAG_BIT_MAINTENANCE_DEMANDED else 0))

/-- What the indicator counts. -/
def isProblem (item : DiagItem) : Bool :=
  item.inUse ∧ (item.usi < PF_USI_CHANNEL_DIAGNOSIS ∨
    item.std.chProperties.maint = .PNET_DIAG_CH_PROP_MAINT_FAULT)

end DiagItem

namespace Net

/-- `pf_diag_update_submodule_state`; `pAr` is the AR that the caller knows. -/
def updateSubmoduleState (net : Net) (pAr : Option ℕ) (q : SubslotPos) : Option Net := do
  let items ← net.dev.diagItemsOf q
  let subslot := net.dev.subslots q
  let isSameAr : Bool := subslot.pAr = pAr
  let summary := (items.filter DiagItem.inUse).foldl (fun s item => item.addToSummary isSameAr s)
    (⟨false, false, false, false⟩, 0)
  return { net with dev := net.dev.setSubslot q { subslot with
    submoduleState := { subslot.submoduleState with
      fault := summary.1.submoduleDiagnosis
      maintenanceRequired := summary.2 &&& PF_DIAG_BIT_MAINTENANCE_REQUIRED ≠ 0
      maintenanceDemanded := summary.2 &&& PF_DIAG_BIT_MAINTENANCE_DEMANDED ≠ 0 } } }

/-- `pf_diag_find_first_ar`. -/
def findFirstAr (net : Net) : Option ℕ :=
  (List.range PNET_MAX_AR).find? fun ar => (net.ars ar).inUse

end Net

/-- The CR has a producer. -/
def Cr.isInput (cr : Cr) : Bool :=
  cr.iocrType = PF_IOCR_TYPE_INPUT ∨ cr.iocrType = PF_IOCR_TYPE_MC_PROVIDER

/-- `pf_ppm_set_problem_indicator`. -/
def Ar.setProblemIndicator (ar : Ar) (problemIndicator : Bool) : Ar :=
  { ar with iocrs := fun crep =>
      let cr := ar.iocrs crep
      if crep < PNET_MAX_CR ∧ cr.isInput then
        { cr with ppm := cr.ppm.setProblemIndicator problemIndicator }
      else cr }

namespace Net

/-- `pf_diag_update_station_problem_indicator`. -/
def updateStationProblemIndicator (net : Net) (ar : ℕ) (q : SubslotPos) : Option Net := do
  let items ← net.dev.diagItemsOf q
  let anAr := (net.ars ar).setProblemIndicator (items.any DiagItem.isProblem)
  return { net with ars := Function.update net.ars ar anAr }

end Net

/-! ## Requests -/

/-- What the three requests refuse. -/
def usiRefused (chErrorType extChErrorType usi : BitVec 16) : Bool :=
  (PF_USI_QUALIFIED_CHANNEL_DIAGNOSIS < usi ∨ usi = PF_USI_ALARM_MULTIPLE) ∨
    (usi < PF_USI_CHANNEL_DIAGNOSIS ∧ chErrorType ≠ 0) ∨
    (usi ≤ PF_USI_CHANNEL_DIAGNOSIS ∧ extChErrorType ≠ 0)

/-- The manufacturer data does not fit the USI, or is missing or too long. -/
def manufDataRefused (usi : BitVec 16) (manufDataLen : ℕ) (manufData : Option (ℕ → Byte)) : Bool :=
  (PF_USI_CHANNEL_DIAGNOSIS ≤ usi ∧ (manufData.isSome ∨ manufDataLen ≠ 0)) ∨
    (0 < manufDataLen ∧ manufData.isNone) ∨ PNET_MAX_DIAG_MANUF_DATA_SIZE < manufDataLen

/-- The first `len` bytes of what the pointer leads to. -/
def manufBytes (manufDataLen : ℕ) (manufData : Option (ℕ → Byte)) : List Byte :=
  match manufData with
  | none => []
  | some bytes => Buffer.slice bytes 0 manufDataLen

/-- The arguments of `pf_diag_add`. -/
structure Diagnosis where
  source : DiagSource
  chBits : Byte
  severity : DiagMaint
  chErrorType : BitVec 16
  extChErrorType : BitVec 16
  extChAddValue : BitVec 32
  qualChQualifier : BitVec 32
  usi : BitVec 16
  manufDataLen : ℕ
  manufData : Option (ℕ → Byte)

namespace Diagnosis

/-- The qualifier without its reserved bits. -/
def qualifier (x : Diagnosis) : BitVec 32 := x.qualChQualifier &&& PF_DIAG_QUALIFIED_SEVERITY_MASK

/-- What `pf_diag_add` refuses. -/
def refused (x : Diagnosis) : Bool :=
  usiRefused x.chErrorType x.extChErrorType x.usi ∨
    (x.usi ≤ PF_USI_CHANNEL_DIAGNOSIS ∧ x.extChAddValue ≠ 0) ∨
    (x.usi ≠ PF_USI_QUALIFIED_CHANNEL_DIAGNOSIS ∧ x.qualifier ≠ 0) ∨
    (x.usi ≠ PF_USI_QUALIFIED_CHANNEL_DIAGNOSIS ∧
      x.severity = .PNET_DIAG_CH_PROP_MAINT_QUALIFIED) ∨
    (x.qualifier ≠ 0 ∧ x.severity ≠ .PNET_DIAG_CH_PROP_MAINT_QUALIFIED) ∨
    manufDataRefused x.usi x.manufDataLen x.manufData ∨ PNET_CHANNEL_WHOLE_SUBMODULE < x.source.ch

/-- The item with the new diagnosis in it. -/
def fill (x : Diagnosis) (item : DiagItem) : DiagItem :=
  if x.usi < PF_USI_CHANNEL_DIAGNOSIS then
    { item with usi := x.usi, manufData := manufBytes x.manufDataLen x.manufData }
  else
    { item with
      usi := x.usi
      std :=
        { chNbr := x.source.ch
          chProperties :=
            { type := x.chBits
              acc := x.source.chGrouping
              maint := x.severity
              dir := x.source.chDirection
              spec := .PF_DIAG_CH_PROP_SPEC_APPEARS }
          chErrorType := x.chErrorType
          extChErrorType := x.extChErrorType
          extChAddValue := x.extChAddValue
          qualChQualifier := x.qualifier } }

end Diagnosis

def DiagItem.withSpec (item : DiagItem) (spec : DiagSpec) : DiagItem :=
  { item with std := { item.std with chProperties := { item.std.chProperties with spec } } }

/-- The arguments of `pf_diag_update`. -/
structure Update where
  source : DiagSource
  chErrorType : BitVec 16
  extChErrorType : BitVec 16
  extChAddValue : BitVec 32
  usi : BitVec 16
  manufDataLen : ℕ
  manufData : Option (ℕ → Byte)

/-- What `pf_diag_update` refuses. -/
def Update.refused (x : Update) : Bool :=
  usiRefused x.chErrorType x.extChErrorType x.usi ∨
    (x.usi ≤ PF_USI_CHANNEL_DIAGNOSIS ∧ x.extChAddValue ≠ 0) ∨
    manufDataRefused x.usi x.manufDataLen x.manufData ∨ PNET_CHANNEL_WHOLE_SUBMODULE < x.source.ch

/-- The item with the new values in it. -/
def Update.fill (x : Update) (item : DiagItem) : DiagItem :=
  if item.usi < PF_USI_CHANNEL_DIAGNOSIS then
    { item with manufData := manufBytes x.manufDataLen x.manufData }
  else
    let item := item.withSpec .PF_DIAG_CH_PROP_SPEC_APPEARS
    { item with std := { item.std with extChAddValue := x.extChAddValue } }

/-- The item as it is told to disappear; `last` tells that its subslot has no other one. -/
def disappearing (last : Bool) (item : DiagItem) : DiagItem :=
  if last then
    let item := item.withSpec .PF_DIAG_CH_PROP_SPEC_ALL_DISAPPEARS
    { item with
      usi := PF_USI_EXTENDED_CHANNEL_DIAGNOSIS
      std := { item.std with chProperties :=
        { item.std.chProperties with maint := .PNET_DIAG_CH_PROP_MAINT_FAULT } } }
  else if PF_USI_CHANNEL_DIAGNOSIS ≤ item.usi then
    item.withSpec .PF_DIAG_CH_PROP_SPEC_DISAPPEARS
  else item

namespace Net

/-- The alarms after a diagnosis has been stored in `q`, and the indicator; `old` is the item
before it, if its disappearance is to be told. -/
def announce (net : Net) (send : Send) (source : DiagSource) (q : SubslotPos) (ix : ℕ)
    (old : Option DiagItem) : Option (ℤ × Net) :=
  match net.findFirstAr with
  | none => some (-1, net)
  | some ar => do
    let ret := send ar source (.diagnosis (net.dev.diagItems ix))
    let net ← net.updateStationProblemIndicator ar q
    match old with
    | none => return (ret, net)
    | some old =>
      if PF_USI_CHANNEL_DIAGNOSIS ≤ old.usi then
        return (send ar source (.diagnosis (old.withSpec .PF_DIAG_CH_PROP_SPEC_DIS_OTHERS_REMAIN)),
          net)
      else return (ret, net)

/-- `pf_diag_add`. -/
def diagAdd (net : Net) (send : Send) (x : Diagnosis) : Option (ℤ × Net) :=
  if x.refused then some (-1, net)
  else
    match net.dev.findEntry x.source x.chErrorType x.extChErrorType x.usi with
    | none => none
    | some (none, dev) => some (-1, { net with dev })
    | some (some (q, found), dev) =>
      let item := match found with
        | some ix => some (ix, dev)
        | none => dev.newDiag
      match item with
      | none => some (-1, { net with dev })
      | some (ix, dev) => do
        let old := dev.diagItems ix
        let dev := (dev.setItem ix (x.fill old)).linkDiag q ix
        let net ← { net with dev }.updateSubmoduleState none q
        net.announce send x.source q ix (if found.isSome then some old else none)

/-- `pf_diag_update`. -/
def diagUpdate (net : Net) (send : Send) (x : Update) : Option (ℤ × Net) :=
  if x.refused then some (-1, net)
  else
    match net.dev.findEntry x.source x.chErrorType x.extChErrorType x.usi with
    | none => none
    | some (none, dev) => some (-1, { net with dev })
    | some (some (_, none), dev) => some (-1, { net with dev })
    | some (some (q, some ix), dev) => do
      let old := dev.diagItems ix
      let dev := (dev.setItem ix (x.fill old)).linkDiag q ix
      let net ← { net with dev }.updateSubmoduleState none q
      net.announce send x.source q ix (some old)

/-- `pf_diag_remove`. -/
def diagRemove (net : Net) (send : Send) (source : DiagSource)
    (chErrorType extChErrorType usi : BitVec 16) : Option (ℤ × Net) :=
  if usiRefused chErrorType extChErrorType usi ∨ PNET_CHANNEL_WHOLE_SUBMODULE < source.ch then
    some (-1, net)
  else
    match net.dev.findEntry source chErrorType extChErrorType usi with
    | none => none
    | some (none, dev) => some (-1, { net with dev })
    | some (some (_, none), dev) => some (-1, { net with dev })
    | some (some (q, some ix), dev) =>
      match net.findFirstAr with
      | none => do
        let net ← { net with dev }.updateSubmoduleState none q
        return (-1, { net with dev := net.dev.freeDiag ix })
      | some ar => do
        let last : Bool := (dev.subslots q).diagList = PF_DIAG_IX_NULL
        let item := disappearing last (dev.diagItems ix)
        let alarm := if PF_USI_CHANNEL_DIAGNOSIS ≤ usi then .diagnosis item
          else .usiDiagnosisDisappears usi
        let net ← { net with dev := dev.setItem ix item }.updateSubmoduleState (some ar) q
        let net ← { net with dev := net.dev.freeDiag ix }.updateStationProblemIndicator ar q
        return (send ar source alarm, net)

end Net

end PNet.Cmdev
