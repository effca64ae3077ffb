import PNet.Cmdev.Problem
import PNet.Lib.KeyedList

/-! # The diagnosis as a map

The diagnosis of a subslot stands for a finite map: an entry in manufacturer format is told by its
USI, and one in standard format by its channel and error types. The search of `pf_diag_find_entry`
compares as the format of the stored item tells, and not as that of the request does.

* `DiagOp.Meant` - the search does not mistake an item in standard format for that of a USI
* `eachFollows_of_meant` - then every request of a run does to the map what it says
* `not_eachFollows_mistaken` - a USI that overwrites a diagnosis in standard format
-/

namespace PNet.Cmdev

open Connect

/-! ## The map -/

/-- What tells an entry from the others of its subslot. -/
inductive DiagKey where
  | usi (usi : BitVec 16)
  | std (ch : BitVec 16) (chGrouping : Bool) (chDirection : DiagDir)
      (chErrorType extChErrorType : BitVec 16)
deriving DecidableEq

/-- What an entry says. -/
inductive DiagValue where
  | manuf (data : List Byte)
  | std (usi : BitVec 16) (chBits : Byte) (severity : DiagMaint) (spec : DiagSpec)
      (extChAddValue qualChQualifier : BitVec 32)
deriving DecidableEq

def DiagItem.key (item : DiagItem) : DiagKey :=
  if item.usi < PF_USI_CHANNEL_DIAGNOSIS then .usi item.usi
  else .std item.std.chNbr item.std.chProperties.acc item.std.chProperties.dir
    item.std.chErrorType item.std.extChErrorType

def DiagItem.value (item : DiagItem) : DiagValue :=
  if item.usi < PF_USI_CHANNEL_DIAGNOSIS then .manuf item.manufData
  else .std item.usi item.std.chProperties.type item.std.chProperties.maint
    item.std.chProperties.spec item.std.extChAddValue item.std.qualChQualifier

/-- The diagnosis of a subslot. -/
def Device.store (d : Device) (q : SubslotPos) : DiagKey → Option DiagValue :=
  KeyedList.lookup DiagItem.key DiagItem.value (d.diagnoses q)

/-- The entry that a request is about. -/
def requestKey (source : DiagSource) (chErrorType extChErrorType usi : BitVec 16) : DiagKey :=
  if usi < PF_USI_CHANNEL_DIAGNOSIS then .usi usi
  else .std source.ch source.chGrouping source.chDirection chErrorType extChErrorType

/-- The entry that `pf_diag_add` is to store. -/
def Diagnosis.value (x : Diagnosis) : DiagValue :=
  if x.usi < PF_USI_CHANNEL_DIAGNOSIS then .manuf (manufBytes x.manufDataLen x.manufData)
  else .std x.usi x.chBits x.severity .PF_DIAG_CH_PROP_SPEC_APPEARS x.extChAddValue x.qualifier

/-- What `pf_diag_update` is to make of an entry. -/
def Update.applied (x : Update) : DiagValue → DiagValue
  | .manuf _ => .manuf (manufBytes x.manufDataLen x.manufData)
  | .std usi chBits severity _ _ qualChQualifier =>
    .std usi chBits severity .PF_DIAG_CH_PROP_SPEC_APPEARS x.extChAddValue qualChQualifier

namespace DiagOp

def usi : DiagOp → BitVec 16
  | add x => x.usi
  | update x => x.usi
  | remove _ _ _ usi => usi

def key : DiagOp → DiagKey
  | add x => requestKey x.source x.chErrorType x.extChErrorType x.usi
  | update x => requestKey x.source x.chErrorType x.extChErrorType x.usi
  | remove source chErrorType extChErrorType usi =>
    requestKey source chErrorType extChErrorType usi

/-- What a request is to do to the map; `free` tells that there is room for one more entry. -/
def applied (op : DiagOp) (free : Bool) (m : DiagKey → Option DiagValue) :
    DiagKey → Option DiagValue :=
  match op with
  | add x => if (m op.key).isSome ∨ free then Function.update m op.key (some x.value) else m
  | update x =>
    match m op.key with
    | none => m
    | some v => Function.update m op.key (some (x.applied v))
  | remove _ _ _ _ => Function.update m op.key none

/-- The entries with other keys stay. -/
theorem applied_of_ne (op : DiagOp) (free : Bool) (m : DiagKey → Option DiagValue) {k : DiagKey}
    (hk : k ≠ op.key) : op.applied free m k = m k := by
  cases op with
  | add x =>
    unfold applied
    split
    · exact Function.update_of_ne hk _ _
    · rfl
  | update x =>
    simp only [applied]
    cases m (update x).key with
    | none => rfl
    | some v => exact Function.update_of_ne hk _ _
  | remove source chErrorType extChErrorType usi => exact Function.update_of_ne hk _ _

/-- The item that the search for a USI comes to first is not one in standard format. -/
def Meant (op : DiagOp) (d : Device) : Prop :=
  ∀ q ∈ d.target op.source, ∀ item ∈ (d.diagnoses q).find? op.isFor,
    op.usi < PF_USI_CHANNEL_DIAGNOSIS → item.usi < PF_USI_CHANNEL_DIAGNOSIS

instance (op : DiagOp) (d : Device) : Decidable (op.Meant d) :=
  inferInstanceAs (Decidable (∀ q ∈ d.target op.source, ∀ item ∈ _, _ → _))

end DiagOp

/-- The request has done to the maps what it says. -/
structure Follows (net : Net) (op : DiagOp) (ret : ℤ) (net' : Net) : Prop where
  inUse : ∀ q, net'.dev.InUse q ↔ net.dev.InUse q
  unique : ∀ q, net.dev.InUse q → KeyedList.Unique DiagItem.key (net'.dev.diagnoses q)
  /-- The map of the subslot of the request. -/
  own : op.refused = false → ∀ q, net.dev.target op.source = some q → net'.dev.store q =
    op.applied (net.dev.diagItemsFree ≠ PF_DIAG_IX_NULL) (net.dev.store q)
  /-- All other maps stay, and all of them when the arguments are refused. -/
  others : ∀ q, net.dev.InUse q → op.refused = true ∨ net.dev.target op.source ≠ some q →
    net'.dev.store q = net.dev.store q
  /-- There is no such entry to update. -/
  fails : ∀ x q, op = .update x → net.dev.target op.source = some q →
    net.dev.store q op.key = none → ret = -1

/-! ## The search -/

theorem isDiag_of_key {source : DiagSource} {chErrorType extChErrorType usi : BitVec 16}
    {item : DiagItem} (h : item.key = requestKey source chErrorType extChErrorType usi) :
    Device.isDiag source chErrorType extChErrorType usi item = true := by
  unfold DiagItem.key requestKey at h
  unfold Device.isDiag
  by_cases hitem : item.usi < PF_USI_CHANNEL_DIAGNOSIS
  · rw [if_pos hitem] at h
    rw [if_neg (BitVec.not_le.mpr hitem)]
    by_cases husi : usi < PF_USI_CHANNEL_DIAGNOSIS
    · rw [if_pos husi] at h
      exact decide_eq_true (DiagKey.usi.inj h)
    · rw [if_neg husi] at h
      cases h
  · rw [if_neg hitem] at h
    rw [if_pos (BitVec.not_lt.mp hitem)]
    by_cases husi : usi < PF_USI_CHANNEL_DIAGNOSIS
    · rw [if_pos husi] at h
      cases h
    · rw [if_neg husi] at h
      rcases DiagKey.std.inj h with ⟨hch, hacc, hdir, hcherr, hext⟩
      exact decide_eq_true ⟨hch, hcherr, hext, hacc, hdir⟩

theorem key_of_isDiag {source : DiagSource} {chErrorType extChErrorType usi : BitVec 16}
    {item : DiagItem} (h : Device.isDiag source chErrorType extChErrorType usi item = true)
    (hmeant : usi < PF_USI_CHANNEL_DIAGNOSIS → item.usi < PF_USI_CHANNEL_DIAGNOSIS) :
    item.key = requestKey source chErrorType extChErrorType usi := by
  unfold Device.isDiag at h
  unfold DiagItem.key requestKey
  by_cases hitem : item.usi < PF_USI_CHANNEL_DIAGNOSIS
  · rw [if_neg (BitVec.not_le.mpr hitem)] at h
    have husi : item.usi = usi := of_decide_eq_true h
    rw [if_pos hitem, ← husi, if_pos hitem]
  · rw [if_pos (BitVec.not_lt.mp hitem)] at h
    rcases of_decide_eq_true h with ⟨hch, hcherr, hext, hacc, hdir⟩
    rw [if_neg hitem, if_neg fun husi => hitem (hmeant husi), hch, hcherr, hext, hacc, hdir]

namespace DiagOp

theorem isFor_of_key {op : DiagOp} {item : DiagItem} (h : item.key = op.key) :
    op.isFor item = true := by
  cases op with
  | add x => exact isDiag_of_key h
  | update x => exact isDiag_of_key h
  | remove source chErrorType extChErrorType usi => exact isDiag_of_key h

theorem key_of_isFor {op : DiagOp} {item : DiagItem} (h : op.isFor item = true)
    (hmeant : op.usi < PF_USI_CHANNEL_DIAGNOSIS → item.usi < PF_USI_CHANNEL_DIAGNOSIS) :
    item.key = op.key := by
  cases op with
  | add x => exact key_of_isDiag h hmeant
  | update x => exact key_of_isDiag h hmeant
  | remove source chErrorType extChErrorType usi => exact key_of_isDiag h hmeant

end DiagOp

/-! ## What is stored -/

theorem Diagnosis.fill_entry (x : Diagnosis) (item : DiagItem) :
    (x.fill item).key = (DiagOp.add x).key ∧ (x.fill item).value = x.value := by
  unfold Diagnosis.fill DiagItem.key DiagItem.value DiagOp.key requestKey Diagnosis.value
  by_cases husi : x.usi < PF_USI_CHANNEL_DIAGNOSIS
  · simp only [if_pos husi, and_self]
  · simp only [if_neg husi, and_self]

theorem Update.fill_entry (x : Update) (item : DiagItem) :
    (x.fill item).key = item.key ∧ (x.fill item).value = x.applied item.value := by
  unfold Update.fill DiagItem.key DiagItem.value DiagItem.withSpec
  by_cases husi : item.usi < PF_USI_CHANNEL_DIAGNOSIS
  · simp only [if_pos husi]
    exact ⟨trivial, rfl⟩
  · simp only [if_neg husi]
    exact ⟨trivial, rfl⟩

/-- **What a request makes of a list it does to the map of the list.** -/
theorem DiagOp.edit_spec (op : DiagOp) (free : Bool) {l : List DiagItem}
    (hunique : KeyedList.Unique DiagItem.key l)
    (hmeant : ∀ item ∈ l.find? op.isFor,
      op.usi < PF_USI_CHANNEL_DIAGNOSIS → item.usi < PF_USI_CHANNEL_DIAGNOSIS) :
    KeyedList.Unique DiagItem.key ((op.edit free l).getD l) ∧
      KeyedList.lookup DiagItem.key DiagItem.value ((op.edit free l).getD l) =
        op.applied free (KeyedList.lookup DiagItem.key DiagItem.value l) := by
  have htest : ∀ item ∈ l, item.key = op.key → op.isFor item = true := fun _ _ => isFor_of_key
  cases hfind : l.find? op.isFor with
  | none =>
    have hnone := @KeyedList.lookup_of_find_none _ _ _ _ DiagItem.key DiagItem.value _ _ _ htest hfind
    have hnew : ∀ item ∈ l, item.key ≠ op.key := fun item hitem hk =>
      List.find?_eq_none.mp hfind item hitem (isFor_of_key hk)
    cases op with
    | add x =>
      cases free with
      | true =>
        rcases x.fill_entry { clearedItem with inUse := true } with ⟨hkey, hvalue⟩
        simp only [edit, applied, hfind, if_true, Option.getD_some, or_true]
        rw [KeyedList.lookup_cons, hkey, hvalue]
        refine ⟨hunique.cons ?_, rfl⟩
        rw [hkey]
        exact hnew
      | false =>
        simp only [edit, applied, hfind, hnone, Bool.false_eq_true, if_false, Option.getD_none,
          Option.isSome_none, or_self]
        exact ⟨hunique, trivial⟩
    | update x =>
      simp only [edit, applied, hfind, hnone, Option.getD_none]
      exact ⟨hunique, trivial⟩
    | remove source chErrorType extChErrorType usi =>
      simp only [edit, applied, hfind, Option.getD_none]
      refine ⟨hunique, ?_⟩
      rw [← hnone, Function.update_eq_self]
  | some old =>
    have hkeyOld : old.key = op.key := key_of_isFor (List.find?_some hfind) (hmeant old hfind)
    rcases KeyedList.eraseP_eq_remove htest hfind hkeyOld with ⟨herase, hfirst⟩
    have hsome : KeyedList.lookup DiagItem.key DiagItem.value l op.key = some old.value := by
      unfold KeyedList.lookup
      rw [hfirst]
      rfl
    cases op with
    | add x =>
      rcases x.fill_entry old with ⟨hkey, hvalue⟩
      have hput := @KeyedList.Unique.put _ _ _ _ DiagItem.key DiagItem.value l hunique (x.fill old)
      rw [hkey, hvalue] at hput
      simp only [edit, applied, hfind, Option.getD_some, herase, hsome, Option.isSome_some,
        true_or, if_true]
      exact hput
    | update x =>
      rcases x.fill_entry old with ⟨hkey, hvalue⟩
      have hput := @KeyedList.Unique.put _ _ _ _ DiagItem.key DiagItem.value l hunique (x.fill old)
      rw [hkey, hvalue, hkeyOld] at hput
      simp only [edit, applied, hfind, Option.getD_some, herase, hsome]
      exact hput
    | remove source chErrorType extChErrorType usi =>
      simp only [edit, applied, hfind, Option.getD_some, herase]
      exact ⟨hunique.remove _, hunique.lookup_remove _⟩

/-! ## One request -/

section
variable {net : Net} {L : Option SubslotPos → List ℕ}

/-- The search does not find what is not in the list. -/
theorem findEntry_of_find_none (h : net.dev.Lists none L) {source : DiagSource} {q : SubslotPos}
    (hq : net.dev.target source = some q) {chErrorType extChErrorType usi : BitVec 16}
    (hfind : (net.dev.diagnoses q).find? (Device.isDiag source chErrorType extChErrorType usi) =
      none) :
    net.dev.findEntry source chErrorType extChErrorType usi = some (some (q, none), net.dev) := by
  have hlists := Device.lists_iff.mp h
  rcases hlists.findEntry hq chErrorType extChErrorType usi with
    ⟨heq, -⟩ | ⟨a, ix, b, hL, hix, ha, -⟩
  · exact heq
  · have hsome := (hlists.find_some (Device.inUse_of_target hq) hL hix ha).1
    rw [hfind] at hsome
    cases hsome

theorem diagUpdate_of_find_none (h : net.dev.Lists none L) (send : Send) {x : Update}
    {q : SubslotPos} (hq : net.dev.target x.source = some q)
    (hfind : (net.dev.diagnoses q).find? (DiagOp.update x).isFor = none) :
    net.diagUpdate send x = some (-1, net) := by
  unfold Net.diagUpdate
  by_cases hrefused : x.refused = true
  · rw [if_pos hrefused]
  · rw [if_neg hrefused, findEntry_of_find_none h hq hfind]

/-- The maps before and after a request that has an effect, or none. -/
theorem store_edited {q : SubslotPos} {l : List DiagItem} {dev : Device}
    (hed : Device.Edited net.dev dev q l) {q' : SubslotPos} (hq' : net.dev.InUse q') :
    ({ net with dev }.indicate q).dev.diagnoses q' =
      if q' = q then l else net.dev.diagnoses q' := by
  rw [Net.indicate_dev]
  exact hed.diagnoses q' hq'

/-- **A request that means what it finds does to the maps what it says.** -/
theorem DiagOp.run_follows (h : net.dev.IsPartition)
    (hunique : ∀ q, net.dev.InUse q → KeyedList.Unique DiagItem.key (net.dev.diagnoses q))
    (send : Send) {op : DiagOp} (hmeant : op.Meant net.dev) :
    ∃ ret net', op.run net send = some (ret, net') ∧ Follows net op ret net' ∧
      net'.dev.IsPartition := by
  rcases h with ⟨L, hL⟩
  have hspec := op.run_spec hL send
  have hlist (q : SubslotPos) (hq : net.dev.target op.source = some q) :=
    op.edit_spec (net.dev.diagItemsFree ≠ PF_DIAG_IX_NULL)
      (hunique q (Device.inUse_of_target hq)) (hmeant q hq)
  have hfails (ret : ℤ) (net' : Net) (hrun : op.run net send = some (ret, net')) :
      ∀ x q, op = .update x → net.dev.target op.source = some q →
        net.dev.store q op.key = none → ret = -1 := by
    rintro x q rfl hq hnone
    have hfind : (net.dev.diagnoses q).find? (DiagOp.update x).isFor = none := by
      cases hf : (net.dev.diagnoses q).find? (DiagOp.update x).isFor with
      | none => rfl
      | some item =>
        -- the item has the key of the request, which is not in the map
        have hkey := key_of_isFor (List.find?_some hf) (hmeant q hq item hf)
        rcases KeyedList.eraseP_eq_remove (fun _ _ => isFor_of_key) hf hkey with ⟨-, hfirst⟩
        unfold Device.store KeyedList.lookup at hnone
        rw [hfirst] at hnone
        cases hnone
    have hret := diagUpdate_of_find_none hL send hq hfind
    have hsame : some (ret, net') = some (-1, net) := hrun.symm.trans hret
    cases hsame
    rfl
  cases heff : op.effect net.dev with
  | none =>
    rw [heff] at hspec
    rcases hspec with ⟨ret, hret⟩
    refine ⟨ret, net, hret, ?_, L, hL⟩
    constructor
    · exact fun _ => Iff.rfl
    · exact hunique
    · intro hrefused q hq
      have hedit : op.edit (net.dev.diagItemsFree ≠ PF_DIAG_IX_NULL) (net.dev.diagnoses q) =
          none := by
        unfold effect at heff
        rw [hrefused, hq] at heff
        exact Option.map_eq_none_iff.mp heff
      have happlied := (hlist q hq).2
      rw [hedit, Option.getD_none] at happlied
      exact happlied
    · exact fun _ _ _ => rfl
    · exact hfails ret net hret
  | some e =>
    rcases e with ⟨q, l⟩
    rw [heff] at hspec
    rcases hspec with ⟨ret, dev', hret, hed⟩
    have hparts : op.refused = false ∧ net.dev.target op.source = some q ∧
        op.edit (net.dev.diagItemsFree ≠ PF_DIAG_IX_NULL) (net.dev.diagnoses q) = some l := by
      unfold effect at heff
      by_cases hrefused : op.refused = true
      · rw [if_pos hrefused] at heff
        cases heff
      · rw [if_neg hrefused] at heff
        cases hq : net.dev.target op.source with
        | none =>
          rw [hq] at heff
          cases heff
        | some q' =>
          rw [hq] at heff
          rcases Option.map_eq_some_iff.mp heff with ⟨l', hedit, heq⟩
          cases heq
          exact ⟨Bool.eq_false_iff.mpr hrefused, rfl, hedit⟩
    rcases hparts with ⟨hrefused, hq, hedit⟩
    have hown := hlist q hq
    rw [hedit, Option.getD_some] at hown
    refine ⟨ret, _, hret, ?_, ?_⟩
    · constructor
      · rw [Net.indicate_dev]
        exact hed.inUse
      · intro q' hq'
        rw [store_edited hed hq']
        split
        · exact hown.1
        · exact hunique q' hq'
      · intro _ q' hq'
        cases hq.symm.trans hq'
        unfold Device.store
        rw [store_edited hed (Device.inUse_of_target hq), if_pos rfl]
        exact hown.2
      · intro q' hq' hother
        have hne : q' ≠ q := by
          rintro rfl
          rcases hother with hr | ht
          · rw [hrefused] at hr
            cases hr
          · exact ht hq
        unfold Device.store
        rw [store_edited hed hq', if_neg hne]
      · exact hfails _ _ hret
    · rw [Net.indicate_dev]
      exact hed.isPartition

end

/-! ## Runs -/

/-- Every request of the run does to the maps what it says. -/
def EachFollows (net : Net) : List (Send × DiagOp) → Prop
  | [] => True
  | (send, op) :: ops => ∃ ret net', op.run net send = some (ret, net') ∧
      Follows net op ret net' ∧ EachFollows net' ops

/-- No request of the run takes an item in standard format for that of a USI. -/
def EachMeant (net : Net) : List (Send × DiagOp) → Prop
  | [] => True
  | (send, op) :: ops => op.Meant net.dev ∧ ∀ ret net', op.run net send = some (ret, net') →
      EachMeant net' ops

/-- **The diagnosis of a subslot is a map**, in every run of requests that mean what they find: each
does to the map of its subslot what it says, and leaves all other entries as they are. -/
theorem eachFollows_of_meant (net : Net) (hp : net.dev.IsPartition)
    (hunique : ∀ q, net.dev.InUse q → KeyedList.Unique DiagItem.key (net.dev.diagnoses q))
    (ops : List (Send × DiagOp)) (hmeant : EachMeant net ops) : EachFollows net ops := by
  induction ops generalizing net with
  | nil => trivial
  | cons op ops ih =>
    rcases op with ⟨send, op⟩
    rcases op.run_follows hp hunique send hmeant.1 with ⟨ret, net', hrun, hfollows, hp'⟩
    refine ⟨ret, net', hrun, hfollows, ?_⟩
    apply ih net' hp'
    · intro q hq
      exact hfollows.unique q ((hfollows.inUse q).mp hq)
    · exact hmeant.2 ret net' hrun

/-! ## A diagnosis that is mistaken for that of a USI -/

namespace MistakenUsi

open TwoSubmodules

/-- A diagnosis in manufacturer format, which is for the whole submodule. -/
def manufacturer : Diagnosis := LostItem.diagnosis

/-- One in standard format for the whole submodule, which names no error. -/
def channel : Diagnosis := { manufacturer with usi := PF_USI_EXTENDED_CHANNEL_DIAGNOSIS }

def steps : List (Send × DiagOp) := [(send, .add channel), (send, .add manufacturer)]

theorem steps_accepted : (channel.refused = false ∧ manufacturer.refused = false) ∧
    ((LostItem.start.run connect).map fun net => net.dev.target channel.source) =
      some (some (0, 0, 0)) := by
  decide +kernel

/-- The entry in standard format is there after the first request, and not after the second one. -/
theorem steps_lose : ((LostItem.start.run connect).bind fun net =>
      (net.diagAdd send channel).bind fun r => (r.2.diagAdd send manufacturer).map fun r' =>
        (r.2.dev.target manufacturer.source,
          (r.2.dev.store (0, 0, 0) (DiagOp.add channel).key).isSome,
          (r'.2.dev.store (0, 0, 0) (DiagOp.add channel).key).isSome)) =
    some (some (0, 0, 0), true, false) := by
  decide +kernel

end MistakenUsi

open MistakenUsi TwoSubmodules in
/-- Two diagnoses of a submodule, of which the second one takes the place of the first one. -/
theorem not_eachFollows_mistaken : ∃ net, LostItem.start.run connect = some net ∧
    net.dev.IsPartition ∧ ¬ EachFollows net steps := by
  rcases connect_run with ⟨net, hrun, hp⟩
  refine ⟨net, hrun, hp, ?_⟩
  rintro ⟨ret, net₁, hrun₁, -, ret', net₂, hrun₂, hfollows, -⟩
  have hlose := steps_lose
  have hrun₁' : net.diagAdd send channel = some (ret, net₁) := hrun₁
  have hrun₂' : net₁.diagAdd send manufacturer = some (ret', net₂) := hrun₂
  rw [hrun, Option.bind_some, hrun₁', Option.bind_some, hrun₂', Option.map_some,
    Option.some.injEq, Prod.mk.injEq, Prod.mk.injEq] at hlose
  rcases hlose with ⟨htarget, hbefore, hafter⟩
  -- the key of the first diagnosis is not that of the USI
  have hne : (DiagOp.add channel).key ≠ (DiagOp.add manufacturer).key := by decide
  have hown := hfollows.own steps_accepted.1.2 (0, 0, 0) htarget
  rw [hown, DiagOp.applied_of_ne _ _ _ hne, hbefore] at hafter
  cases hafter

open TwoSubmodules in
/-- A diagnosis for a submodule that has none. -/
theorem eachFollows_of_addFault : ∃ net, LostItem.start.run connect = some net ∧
    EachFollows net [addFault] := by
  rcases connect_run with ⟨net, hrun, hp⟩
  have hstart : ((LostItem.start.run connect).map fun net => decide
      ((∀ q ∈ subslotPositions, net.dev.InUse q → net.dev.diagnoses q = []) ∧
        addFault.2.Meant net.dev)) = some true := by
    decide +kernel
  rw [hrun, Option.map_some, Option.some.injEq, decide_eq_true_eq] at hstart
  refine ⟨net, hrun, eachFollows_of_meant net hp ?_ [addFault] ?_⟩
  · intro q hq
    rw [hstart.1 q hq.mem_positions hq]
    exact List.nodup_nil
  · exact ⟨hstart.2, fun _ _ _ => trivial⟩

end PNet.Cmdev
