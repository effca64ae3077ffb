import PNet.Cmdev.Tree
import PNet.Connect.Layout
import PNet.Lib.Refill

/-! # The record of differences

`pf_cmdev_generate_submodule_diff`, which compares what a connect request expects with what is
plugged. It fills the arrays of differences of the AR, each time that the AR connects and each time
that they are read.

* `refilled_iff`: the arrays say what differs, whatever they contained before, exactly when each
  difference is one of which all is written.
* `generate_cleared`: in cleared arrays it is always so, when the APIs are there.
-/

namespace PNet.Cmdev

open Connect Refill

/-! ## The arrays -/

/-- `pf_submodule_diff_t`; the two fields of its state that are never written are left out. -/
structure SubmoduleDiff where
  subslotNumber : BitVec 16
  submoduleIdentNumber : BitVec 32
  submoduleState : SubmodState
deriving DecidableEq, Repr

/-- `pf_module_diff_t`. -/
structure ModuleDiff where
  slotNumber : BitVec 16
  moduleIdentNumber : BitVec 32
  moduleState : ModPlugState
  nbrSubmoduleDiffs : ℕ
  submoduleDiffs : ℕ → SubmoduleDiff

/-- `pf_api_diff_t`. -/
structure ApiDiff where
  api : BitVec 32
  nbrModuleDiffs : ℕ
  moduleDiffs : ℕ → ModuleDiff

/-- `nbr_api_diffs` and `api_diffs` of an AR. -/
structure Diffs where
  nbrApiDiffs : ℕ
  apiDiffs : ℕ → ApiDiff

/-! ## Filling them -/

namespace Subslot

/-- The subslot has another submodule than is expected. -/
def wrongFor (sub : Subslot) (x : ExpSubmodule) : Bool :=
  x.submoduleIdentNumber ≠ sub.submoduleIdentNumber

/-- The submodule has a diagnosis. -/
def diagnosed (sub : Subslot) : Bool :=
  sub.submoduleState.fault || sub.submoduleState.maintenanceDemanded ||
    sub.submoduleState.maintenanceRequired

/-- The submodule belongs to another AR. -/
def lockedFor (sub : Subslot) (ar : ℕ) : Bool := sub.pAr ≠ none ∧ sub.pAr ≠ some ar

end Subslot

namespace SubmoduleDiff

variable (e : SubmoduleDiff)

/-- What is written for each submodule. -/
def begin (x : ExpSubmodule) : SubmoduleDiff :=
  { e with
    subslotNumber := x.subslotNumber
    submoduleState := { e.submoduleState with formatIndicator := true } }

def missing : SubmoduleDiff :=
  { e with submoduleState := { e.submoduleState with identInfo := .PF_SUBMOD_PLUG_NO } }

def wrong (sub : Subslot) : SubmoduleDiff :=
  { e with
    submoduleIdentNumber := sub.submoduleIdentNumber
    submoduleState := { e.submoduleState with identInfo := .PF_SUBMOD_PLUG_WRONG } }

def diagnosed (sub : Subslot) : SubmoduleDiff :=
  { e with
    submoduleIdentNumber := sub.submoduleIdentNumber
    submoduleState := { e.submoduleState with
      fault := sub.submoduleState.fault
      maintenanceDemanded := sub.submoduleState.maintenanceDemanded
      maintenanceRequired := sub.submoduleState.maintenanceRequired } }

def locked (sub : Subslot) : SubmoduleDiff :=
  { e with
    submoduleIdentNumber := sub.submoduleIdentNumber
    submoduleState := { e.submoduleState with
      arInfo := .PF_SUBMOD_AR_INFO_LOCKED_BY_IO_CONTROLLER } }

end SubmoduleDiff

section
variable (d : Device) (ar : ℕ)

/-- One round of the loop over submodules. -/
def diffSubmodule (a s : ℕ) (e : SubmoduleDiff) (x : ExpSubmodule) : SubmoduleDiff × Bool :=
  let e := e.begin x
  match d.getSubslot a s x.subslotNumber with
  | none => (e.missing, true)
  | some i =>
    let sub := d.subslots (a, s, i)
    let e := if sub.wrongFor x then e.wrong sub else e
    let e := if sub.diagnosed then e.diagnosed sub else e
    let e := if sub.lockedFor ar then e.locked sub else e
    (e, sub.wrongFor x || sub.diagnosed || sub.lockedFor ar)

/-- One round of the loop over modules. -/
def diffModule (a : ℕ) (m : ModuleDiff) (x : ExpModule) : ModuleDiff × Bool :=
  let first := m.submoduleDiffs 0
  let m : ModuleDiff := { m with
    slotNumber := x.slotNumber
    submoduleDiffs := Function.update m.submoduleDiffs 0
      { first with submoduleState := { first.submoduleState with formatIndicator := true } } }
  match d.getSlot a x.slotNumber with
  | none => ({ m with moduleState := .PF_MOD_PLUG_NO_MODULE }, true)
  | some s =>
    let slot := d.slots (a, s)
    if x.moduleIdentNumber ≠ slot.moduleIdentNumber then
      ({ m with
          moduleState := .PF_MOD_PLUG_WRONG_MODULE, moduleIdentNumber := slot.moduleIdentNumber },
        true)
    else
      let subs := fill (diffSubmodule d ar a s) m.submoduleDiffs 0 x.submodules
      -- the module has a difference when one of its submodules has
      ({ m with
          moduleIdentNumber := slot.moduleIdentNumber, moduleState := .PF_MOD_PLUG_PROPER_MODULE
          submoduleDiffs := subs.1, nbrSubmoduleDiffs := subs.2 },
        0 < subs.2)

/-- One round of the loop over APIs. -/
def diffApi (e : ApiDiff) (x : ExpApi) : ApiDiff × Bool :=
  match d.getApi x.api with
  | none => ({ e with api := x.api }, true)
  | some a =>
    let mods := fill (diffModule d ar a) e.moduleDiffs 0 x.modules
    ({ api := x.api, moduleDiffs := mods.1, nbrModuleDiffs := mods.2 }, 0 < mods.2)

/-- `pf_cmdev_generate_submodule_diff`. -/
def generateSubmoduleDiff (expApis : List ExpApi) (diffs : Diffs) : Diffs :=
  let apis := fill (diffApi d ar) diffs.apiDiffs 0 expApis
  ⟨apis.2, apis.1⟩

end

/-! ## What they say -/

/-- What is said of a module. -/
structure ListedModule where
  slotNumber : BitVec 16
  moduleIdentNumber : BitVec 32
  moduleState : ModPlugState
  submodules : List SubmoduleDiff
deriving DecidableEq, Repr

/-- What is said of an API. -/
structure ListedApi where
  api : BitVec 32
  modules : List ListedModule
deriving DecidableEq, Repr

/-- What is said of a submodule; one that is missing has no ident number. -/
def SubmoduleDiff.entry (e : SubmoduleDiff) : SubmoduleDiff :=
  if e.submoduleState.identInfo = .PF_SUBMOD_PLUG_NO then { e with submoduleIdentNumber := 0 } else e

def ModuleDiff.entry (m : ModuleDiff) : ListedModule where
  slotNumber := m.slotNumber
  moduleIdentNumber := if m.moduleState = .PF_MOD_PLUG_NO_MODULE then 0 else m.moduleIdentNumber
  moduleState := m.moduleState
  submodules := entries SubmoduleDiff.entry (m.submoduleDiffs, m.nbrSubmoduleDiffs)

def ApiDiff.entry (e : ApiDiff) : ListedApi where
  api := e.api
  modules := entries ModuleDiff.entry (e.moduleDiffs, e.nbrModuleDiffs)

def Diffs.entries (diffs : Diffs) : List ListedApi :=
  Refill.entries ApiDiff.entry (diffs.apiDiffs, diffs.nbrApiDiffs)

/-! ## What differs -/

section
variable (d : Device) (ar : ℕ)

/-- The difference of a submodule, with the state that it has in the tree. -/
def submoduleDifference (a s : ℕ) (x : ExpSubmodule) : Option SubmoduleDiff :=
  match d.getSubslot a s x.subslotNumber with
  | none => some ⟨x.subslotNumber, 0,
      ⟨false, false, false, .PF_SUBMOD_AR_INFO_OWN, .PF_SUBMOD_PLUG_NO, true⟩⟩
  | some i =>
    let sub := d.subslots (a, s, i)
    if sub.wrongFor x || sub.diagnosed || sub.lockedFor ar then
      some ⟨x.subslotNumber, sub.submoduleIdentNumber,
        ⟨sub.submoduleState.maintenanceRequired, sub.submoduleState.maintenanceDemanded,
          sub.submoduleState.fault,
          if sub.lockedFor ar then .PF_SUBMOD_AR_INFO_LOCKED_BY_IO_CONTROLLER
          else .PF_SUBMOD_AR_INFO_OWN,
          if sub.wrongFor x then .PF_SUBMOD_PLUG_WRONG else .PF_SUBMOD_PLUG_OK, true⟩⟩
    else none

/-- The difference of a module; the submodules of a missing or a wrong one are not compared. -/
def moduleDifference (a : ℕ) (x : ExpModule) : Option ListedModule :=
  match d.getSlot a x.slotNumber with
  | none => some ⟨x.slotNumber, 0, .PF_MOD_PLUG_NO_MODULE, []⟩
  | some s =>
    let slot := d.slots (a, s)
    if x.moduleIdentNumber ≠ slot.moduleIdentNumber then
      some ⟨x.slotNumber, slot.moduleIdentNumber, .PF_MOD_PLUG_WRONG_MODULE, []⟩
    else
      match x.submodules.filterMap (submoduleDifference d ar a s) with
      | [] => none
      | subs => some ⟨x.slotNumber, slot.moduleIdentNumber, .PF_MOD_PLUG_PROPER_MODULE, subs⟩

/-- The difference of an API; of one that is missing, all modules are. -/
def apiDifference (x : ExpApi) : Option ListedApi :=
  let modules := x.modules.filterMap fun m =>
    match d.getApi x.api with
    | none => some ⟨m.slotNumber, 0, .PF_MOD_PLUG_NO_MODULE, []⟩
    | some a => moduleDifference d ar a m
  if modules = [] then none else some ⟨x.api, modules⟩

def differences (expApis : List ExpApi) : List ListedApi := expApis.filterMap (apiDifference d ar)

end

/-! ## One submodule -/

section
variable {d : Device} {ar a s : ℕ} {x : ExpSubmodule} {e e' e'' : SubmoduleDiff}

/-- The same in all that a round of the loop does not write in any case. -/
def Alike (e e' : SubmoduleDiff) : Prop :=
  e.submoduleIdentNumber = e'.submoduleIdentNumber ∧
    ({ e.submoduleState with formatIndicator := true } : SubmodState) =
      { e'.submoduleState with formatIndicator := true }

theorem Alike.refl (e : SubmoduleDiff) : Alike e e := ⟨rfl, rfl⟩

theorem Alike.trans (h : Alike e e') (h' : Alike e' e'') : Alike e e'' :=
  ⟨h.1.trans h'.1, h.2.trans h'.2⟩

/-- All fields of the entry are written: the submodule is a wrong one, has a diagnosis, and belongs to
another AR. -/
def Written (d : Device) (ar a s : ℕ) (x : ExpSubmodule) : Prop :=
  ∃ i, d.getSubslot a s x.subslotNumber = some i ∧ (d.subslots (a, s, i)).wrongFor x = true ∧
    (d.subslots (a, s, i)).diagnosed = true ∧ (d.subslots (a, s, i)).lockedFor ar = true

theorem Alike.begin (h : Alike e e') (x : ExpSubmodule) : e.begin x = e'.begin x := by
  unfold SubmoduleDiff.begin
  rw [h.1, h.2]

theorem alike_begin (e : SubmoduleDiff) (x : ExpSubmodule) : Alike (e.begin x) e := ⟨rfl, rfl⟩

theorem diffSubmodule_congr (h : Alike e e') :
    diffSubmodule d ar a s e x = diffSubmodule d ar a s e' x := by
  unfold diffSubmodule
  rw [h.begin x]

theorem diffSubmodule_count (e : SubmoduleDiff) (x : ExpSubmodule) :
    (diffSubmodule d ar a s e x).2 = (submoduleDifference d ar a s x).isSome := by
  unfold diffSubmodule submoduleDifference
  cases d.getSubslot a s x.subslotNumber with
  | none => rfl
  | some i =>
    dsimp only
    by_cases h : ((d.subslots (a, s, i)).wrongFor x || (d.subslots (a, s, i)).diagnosed ||
        (d.subslots (a, s, i)).lockedFor ar) = true
    · rw [if_pos h]
      exact h
    · rw [if_neg h]
      exact Bool.eq_false_of_not_eq_true h

/-- A submodule without a difference leaves the entry as it is. -/
theorem diffSubmodule_none (h : submoduleDifference d ar a s x = none) (e : SubmoduleDiff) :
    Alike (diffSubmodule d ar a s e x).1 e := by
  unfold submoduleDifference at h
  unfold diffSubmodule
  cases hsub : d.getSubslot a s x.subslotNumber with
  | none =>
    rw [hsub] at h
    cases h
  | some i =>
    rw [hsub] at h
    dsimp only at h ⊢
    by_cases hdiff : ((d.subslots (a, s, i)).wrongFor x || (d.subslots (a, s, i)).diagnosed ||
        (d.subslots (a, s, i)).lockedFor ar) = true
    · rw [if_pos hdiff] at h
      cases h
    · rw [Bool.not_eq_true, Bool.or_eq_false_iff, Bool.or_eq_false_iff] at hdiff
      rcases hdiff with ⟨⟨hwrong, hdiagnosed⟩, hlocked⟩
      rw [hwrong, hdiagnosed, hlocked]
      exact alike_begin e x

/-- The difference is said, whatever the entry was, exactly when all of it is written. -/
theorem diffSubmodule_iff {v : SubmoduleDiff} (h : submoduleDifference d ar a s x = some v) :
    (∀ e, (diffSubmodule d ar a s e x).1.entry = v) ↔ Written d ar a s x := by
  unfold submoduleDifference at h
  unfold diffSubmodule Written
  cases hsub : d.getSubslot a s x.subslotNumber with
  | none =>
    rw [hsub] at h
    obtain rfl := Option.some.inj h
    apply iff_of_false
    · intro hall
      -- a fault that has been there
      have hentry := hall ⟨0, 0, ⟨false, false, true, .PF_SUBMOD_AR_INFO_OWN, .PF_SUBMOD_PLUG_NO, true⟩⟩
      cases congrArg (fun e => e.submoduleState.fault) hentry
    · rintro ⟨i, hi, _⟩
      cases hi
  | some i =>
    rw [hsub] at h
    dsimp only at h ⊢
    set sub := d.subslots (a, s, i) with hsub'
    by_cases hdiff : (sub.wrongFor x || sub.diagnosed || sub.lockedFor ar) = true
    · rw [if_pos hdiff] at h
      obtain rfl := Option.some.inj h
      constructor
      · intro hall
        -- an entry of which each field is seen that is not written
        have hentry := hall ⟨0, 0,
          ⟨true, true, true, .PF_SUBMOD_AR_INFO_SUPERORDINATED_LOCKED, .PF_SUBMOD_PLUG_SUBSTITUTE, true⟩⟩
        refine ⟨i, rfl, ?_⟩
        cases hwrong : sub.wrongFor x with
        | false =>
          have hident := congrArg (fun e => e.submoduleState.identInfo) hentry
          rw [hwrong] at hident
          cases hd : sub.diagnosed <;> cases hl : sub.lockedFor ar <;> rw [hd, hl] at hident <;>
            cases hident
        | true =>
          cases hdiagnosed : sub.diagnosed with
          | false =>
            have hfault := congrArg (fun e => e.submoduleState.fault) hentry
            have hnone : sub.submoduleState.fault = false := by
              unfold Subslot.diagnosed at hdiagnosed
              rw [Bool.or_eq_false_iff, Bool.or_eq_false_iff] at hdiagnosed
              exact hdiagnosed.1.1
            rw [hwrong, hdiagnosed] at hfault
            dsimp only at hfault
            rw [hnone] at hfault
            cases hl : sub.lockedFor ar <;> rw [hl] at hfault <;> cases hfault
          | true =>
            cases hlocked : sub.lockedFor ar with
            | false =>
              have harInfo := congrArg (fun e => e.submoduleState.arInfo) hentry
              rw [hwrong, hdiagnosed, hlocked] at harInfo
              cases harInfo
            | true => exact ⟨rfl, rfl, rfl⟩
      · rintro ⟨j, hj, hwrong, hdiagnosed, hlocked⟩ e
        obtain rfl := Option.some.inj hj
        rw [hwrong, hdiagnosed, hlocked]
        rfl
    · rw [if_neg hdiff] at h
      cases h

end

/-! ## The submodules of a module -/

section
variable {d : Device} {ar a s : ℕ} {xs : List ExpSubmodule} {g g' : ℕ → SubmoduleDiff}

/-- Only what is not written in any case counts of the entries before. -/
theorem emitted_congr (h : ∀ k, Alike (g k) (g' k)) :
    emitted (diffSubmodule d ar a s) SubmoduleDiff.entry g xs =
      emitted (diffSubmodule d ar a s) SubmoduleDiff.entry g' xs := by
  induction xs generalizing g g' with
  | nil => rfl
  | cons x xs ih =>
    have hfirst : diffSubmodule d ar a s (g 0) x = diffSubmodule d ar a s (g' 0) x :=
      diffSubmodule_congr (h 0)
    unfold emitted
    rw [hfirst]
    congr 1
    · rw [ih fun k => h (k + 1)]
    · apply ih
      intro k
      cases k with
      | zero =>
        rw [Function.update_self, Function.update_self]
        exact Alike.refl _
      | succ k =>
        rw [Function.update_of_ne (Nat.succ_ne_zero k), Function.update_of_ne (Nat.succ_ne_zero k)]
        exact h (k + 1)

/-- Submodules without a difference. -/
theorem fill_none (h : ∀ x ∈ xs, submoduleDifference d ar a s x = none) (g : ℕ → SubmoduleDiff) :
    (fill (diffSubmodule d ar a s) g 0 xs).2 = 0 ∧
      ∀ k, Alike ((fill (diffSubmodule d ar a s) g 0 xs).1 k) (g k) := by
  induction xs generalizing g with
  | nil => exact ⟨rfl, fun k => Alike.refl _⟩
  | cons x xs ih =>
    have hx := h x List.mem_cons_self
    have hcount : (diffSubmodule d ar a s (g 0) x).2 = false := by
      rw [diffSubmodule_count, hx]
      rfl
    unfold fill
    rw [hcount, if_neg Bool.false_ne_true]
    rcases ih (fun y hy => h y (List.mem_cons_of_mem x hy))
      (Function.update g 0 (diffSubmodule d ar a s (g 0) x).1) with ⟨hzero, halike⟩
    refine ⟨hzero, fun k => (halike k).trans ?_⟩
    cases k with
    | zero =>
      rw [Function.update_self]
      exact diffSubmodule_none hx (g 0)
    | succ k =>
      rw [Function.update_of_ne (Nat.succ_ne_zero k)]
      exact Alike.refl _

/-- Entries of which anything can be said. -/
def Anything (S : Set SubmoduleDiff) : Prop := ∀ h, ∃ e ∈ S, Alike e h

theorem Anything.nonempty {S : Set SubmoduleDiff} (h : Anything S) : S.Nonempty := by
  rcases h ⟨0, 0, clearedState⟩ with ⟨e, he, _⟩
  exact ⟨e, he⟩

theorem anything_univ : Anything Set.univ := fun h => ⟨h, trivial, Alike.refl h⟩

theorem holds_submodules {S : Set SubmoduleDiff} (hS : Anything S) :
    Holds (diffSubmodule d ar a s) SubmoduleDiff.entry (submoduleDifference d ar a s) Set.univ S xs ↔
      ∀ x ∈ xs, submoduleDifference d ar a s x ≠ none → Written d ar a s x := by
  induction xs generalizing S with
  | nil => exact iff_of_true trivial fun _ hx => absurd hx List.not_mem_nil
  | cons x xs ih =>
    unfold Holds
    rw [List.forall_mem_cons]
    cases hx : submoduleDifference d ar a s x with
    | none =>
      have himage : Anything ((fun e => (diffSubmodule d ar a s e x).1) '' S) := by
        intro h
        rcases hS h with ⟨e, he, halike⟩
        exact ⟨_, ⟨e, he, rfl⟩, (diffSubmodule_none hx e).trans halike⟩
      dsimp only
      rw [ih himage]
      exact ⟨fun h => ⟨fun hne => absurd rfl hne, h⟩, fun h => h.2⟩
    | some v =>
      dsimp only
      rw [ih anything_univ, ← diffSubmodule_iff hx]
      apply and_congr_left'
      constructor
      · intro h _ e
        rcases hS e with ⟨e', he', halike⟩
        rw [← diffSubmodule_congr halike]
        exact h e' he'
      · exact fun h e _ => h (Option.some_ne_none v) e

/-- The differences of the submodules are said, whatever the array contained before. -/
theorem submodules_iff : (∀ g, emitted (diffSubmodule d ar a s) SubmoduleDiff.entry g xs =
      xs.filterMap (submoduleDifference d ar a s)) ↔
    ∀ x ∈ xs, submoduleDifference d ar a s x ≠ none → Written d ar a s x := by
  rw [← holds_submodules anything_univ,
    ← emitted_iff diffSubmodule_count anything_univ.nonempty anything_univ.nonempty]
  exact ⟨fun h g _ _ => h g, fun h g => h g trivial fun _ => trivial⟩

end

/-! ## One module -/

section
variable {d : Device} {ar a : ℕ} {x : ExpModule}

/-- The array of submodules with which the loop over them begins. -/
def ModuleDiff.begun (m : ModuleDiff) : ℕ → SubmoduleDiff :=
  Function.update m.submoduleDiffs 0 { m.submoduleDiffs 0 with
    submoduleState := { (m.submoduleDiffs 0).submoduleState with formatIndicator := true } }

theorem ModuleDiff.begun_alike (m : ModuleDiff) (k : ℕ) : Alike (m.begun k) (m.submoduleDiffs k) := by
  unfold ModuleDiff.begun
  by_cases hk : k = 0
  · rw [hk, Function.update_self]
    exact ⟨rfl, rfl⟩
  · rw [Function.update_of_ne hk]
    exact Alike.refl _

theorem diffModule_missing (h : d.getSlot a x.slotNumber = none) (m : ModuleDiff) :
    diffModule d ar a m x = (⟨x.slotNumber, m.moduleIdentNumber, .PF_MOD_PLUG_NO_MODULE,
      m.nbrSubmoduleDiffs, m.begun⟩, true) := by
  unfold diffModule
  rw [h]
  rfl

theorem diffModule_wrong {s : ℕ} (h : d.getSlot a x.slotNumber = some s)
    (hwrong : x.moduleIdentNumber ≠ (d.slots (a, s)).moduleIdentNumber) (m : ModuleDiff) :
    diffModule d ar a m x = (⟨x.slotNumber, (d.slots (a, s)).moduleIdentNumber,
      .PF_MOD_PLUG_WRONG_MODULE, m.nbrSubmoduleDiffs, m.begun⟩, true) := by
  unfold diffModule
  rw [h]
  dsimp only
  rw [if_pos hwrong]
  rfl

theorem diffModule_proper {s : ℕ} (h : d.getSlot a x.slotNumber = some s)
    (hproper : ¬x.moduleIdentNumber ≠ (d.slots (a, s)).moduleIdentNumber) (m : ModuleDiff) :
    diffModule d ar a m x = ((⟨x.slotNumber, (d.slots (a, s)).moduleIdentNumber,
      .PF_MOD_PLUG_PROPER_MODULE, (fill (diffSubmodule d ar a s) m.begun 0 x.submodules).2,
      (fill (diffSubmodule d ar a s) m.begun 0 x.submodules).1⟩ : ModuleDiff),
      decide (0 < (fill (diffSubmodule d ar a s) m.begun 0 x.submodules).2)) := by
  unfold diffModule
  rw [h]
  dsimp only
  rw [if_neg hproper]
  rfl

theorem diffModule_entry {s : ℕ} (h : d.getSlot a x.slotNumber = some s)
    (hproper : ¬x.moduleIdentNumber ≠ (d.slots (a, s)).moduleIdentNumber) (m : ModuleDiff) :
    (diffModule d ar a m x).1.entry = ⟨x.slotNumber, (d.slots (a, s)).moduleIdentNumber,
      .PF_MOD_PLUG_PROPER_MODULE,
      emitted (diffSubmodule d ar a s) SubmoduleDiff.entry m.begun x.submodules⟩ := by
  rw [diffModule_proper h hproper, ← entries_fill_zero]
  rfl

theorem moduleDifference_proper {s : ℕ} (h : d.getSlot a x.slotNumber = some s)
    (hproper : ¬x.moduleIdentNumber ≠ (d.slots (a, s)).moduleIdentNumber) :
    moduleDifference d ar a x =
      if x.submodules.filterMap (submoduleDifference d ar a s) = [] then none
      else some ⟨x.slotNumber, (d.slots (a, s)).moduleIdentNumber, .PF_MOD_PLUG_PROPER_MODULE,
        x.submodules.filterMap (submoduleDifference d ar a s)⟩ := by
  unfold moduleDifference
  rw [h]
  dsimp only
  rw [if_neg hproper]
  cases x.submodules.filterMap (submoduleDifference d ar a s) with
  | nil => rfl
  | cons v vs => rfl

theorem diffModule_count (m : ModuleDiff) (x : ExpModule) :
    (diffModule d ar a m x).2 = (moduleDifference d ar a x).isSome := by
  cases hslot : d.getSlot a x.slotNumber with
  | none =>
    rw [diffModule_missing hslot, moduleDifference, hslot]
    rfl
  | some s =>
    by_cases hwrong : x.moduleIdentNumber ≠ (d.slots (a, s)).moduleIdentNumber
    · rw [diffModule_wrong hslot hwrong, moduleDifference, hslot]
      dsimp only
      rw [if_pos hwrong]
      rfl
    · rw [diffModule_proper hslot hwrong, moduleDifference_proper hslot hwrong,
        fill_count SubmoduleDiff.entry,
        emitted_length SubmoduleDiff.entry diffSubmodule_count]
      cases x.submodules.filterMap (submoduleDifference d ar a s) with
      | nil => rfl
      | cons v vs => rfl

/-- What is said of a module that is missing or wrong. -/
theorem entry_eq_iff {m : ModuleDiff} {v : ListedModule} (hslot : m.slotNumber = v.slotNumber)
    (hident : m.entry.moduleIdentNumber = v.moduleIdentNumber) (hstate : m.moduleState = v.moduleState)
    (hnone : v.submodules = []) : m.entry = v ↔ m.nbrSubmoduleDiffs = 0 := by
  have hlist : m.entry.submodules = [] ↔ m.nbrSubmoduleDiffs = 0 := by
    unfold ModuleDiff.entry entries
    rw [List.map_eq_nil_iff, List.range_eq_nil]
  rw [← hlist]
  constructor
  · intro h
    rw [h]
    exact hnone
  · intro h
    cases v
    exact ListedModule.mk.injEq .. ▸ ⟨hslot, hident, hstate, h.trans hnone.symm⟩

end

/-! ## The modules of an API -/

/-- Each difference is one of which all is written: a missing or a wrong module comes right behind a
module without a difference (`behind`), and a submodule is `Written`. -/
def Settled (d : Device) (ar a : ℕ) : Bool → List ExpModule → Prop
  | _, [] => True
  | behind, x :: xs =>
    match d.getSlot a x.slotNumber with
    | none => behind = true ∧ Settled d ar a false xs
    | some s =>
      if x.moduleIdentNumber ≠ (d.slots (a, s)).moduleIdentNumber then
        behind = true ∧ Settled d ar a false xs
      else if x.submodules.filterMap (submoduleDifference d ar a s) = [] then Settled d ar a true xs
      else
        (∀ sub ∈ x.submodules, submoduleDifference d ar a s sub ≠ none → Written d ar a s sub) ∧
          Settled d ar a false xs

section
variable {d : Device} {ar a : ℕ} {xs : List ExpModule}

/-- What is known about an entry for a module, behind one without a difference or elsewhere. -/
structure Known (behind : Bool) (S : Set ModuleDiff) : Prop where
  anything : ∀ h : ℕ → SubmoduleDiff, ∃ m ∈ S, ∀ k, Alike (m.submoduleDiffs k) (h k)
  zero : behind = true ↔ ∀ m ∈ S, m.nbrSubmoduleDiffs = 0

theorem known_univ : Known false Set.univ := by
  constructor
  · exact fun h => ⟨⟨0, 0, .PF_MOD_PLUG_NO_MODULE, 0, h⟩, trivial, fun _ => Alike.refl _⟩
  · apply iff_of_false Bool.false_ne_true
    intro h
    cases h ⟨0, 0, .PF_MOD_PLUG_NO_MODULE, 1, fun _ => ⟨0, 0, clearedState⟩⟩ trivial

theorem Known.nonempty {behind : Bool} {S : Set ModuleDiff} (h : Known behind S) : S.Nonempty := by
  rcases h.anything fun _ => ⟨0, 0, clearedState⟩ with ⟨m, hm, _⟩
  exact ⟨m, hm⟩

theorem holds_modules {behind : Bool} {S : Set ModuleDiff} (hS : Known behind S) :
    Holds (diffModule d ar a) ModuleDiff.entry (moduleDifference d ar a) Set.univ S xs ↔
      Settled d ar a behind xs := by
  induction xs generalizing behind S with
  | nil => exact iff_of_true trivial trivial
  | cons x xs ih =>
    unfold Holds Settled
    cases hslot : d.getSlot a x.slotNumber with
    | none =>
      have hmissing : moduleDifference d ar a x =
          some ⟨x.slotNumber, 0, .PF_MOD_PLUG_NO_MODULE, []⟩ := by
        rw [moduleDifference, hslot]
      rw [hmissing, hS.zero]
      dsimp only
      rw [ih known_univ]
      apply and_congr_left'
      apply forall₂_congr
      intro m _
      rw [diffModule_missing hslot]
      exact entry_eq_iff rfl rfl rfl rfl
    | some s =>
      by_cases hwrong : x.moduleIdentNumber ≠ (d.slots (a, s)).moduleIdentNumber
      · have hdifference : moduleDifference d ar a x = some ⟨x.slotNumber,
            (d.slots (a, s)).moduleIdentNumber, .PF_MOD_PLUG_WRONG_MODULE, []⟩ := by
          rw [moduleDifference, hslot]
          exact if_pos hwrong
        rw [hdifference, hS.zero]
        dsimp only
        rw [if_pos hwrong, ih known_univ]
        apply and_congr_left'
        apply forall₂_congr
        intro m _
        rw [diffModule_wrong hslot hwrong]
        exact entry_eq_iff rfl rfl rfl rfl
      · dsimp only
        rw [if_neg hwrong, moduleDifference_proper hslot hwrong]
        by_cases hnone : x.submodules.filterMap (submoduleDifference d ar a s) = []
        · -- the entry keeps what it has, but for the number of its submodules
          rw [if_pos hnone, if_pos hnone]
          dsimp only
          apply ih
          rw [List.filterMap_eq_nil_iff] at hnone
          constructor
          · intro h
            rcases hS.anything h with ⟨m, hm, halike⟩
            refine ⟨_, ⟨m, hm, rfl⟩, fun k => ?_⟩
            dsimp only
            rw [diffModule_proper hslot hwrong]
            exact ((fill_none hnone m.begun).2 k).trans ((m.begun_alike k).trans (halike k))
          · apply iff_of_true rfl
            rintro _ ⟨m, _, rfl⟩
            dsimp only
            rw [diffModule_proper hslot hwrong]
            exact (fill_none hnone m.begun).1
        · rw [if_neg hnone, if_neg hnone]
          dsimp only
          rw [ih known_univ, ← submodules_iff]
          apply and_congr_left'
          constructor
          · intro h g
            rcases hS.anything g with ⟨m, hm, halike⟩
            have hm' := h m hm
            rw [diffModule_entry hslot hwrong, ListedModule.mk.injEq] at hm'
            rw [← hm'.2.2.2]
            exact (emitted_congr fun k => (m.begun_alike k).trans (halike k)).symm
          · intro h m _
            rw [diffModule_entry hslot hwrong, h m.begun]

/-- The differences of the modules are said, whatever the array contained before. -/
theorem modules_iff : (∀ g, emitted (diffModule d ar a) ModuleDiff.entry g xs =
    xs.filterMap (moduleDifference d ar a)) ↔ Settled d ar a false xs := by
  rw [← holds_modules known_univ,
    ← emitted_iff diffModule_count known_univ.nonempty known_univ.nonempty]
  exact ⟨fun h g _ _ => h g, fun h g => h g trivial fun _ => trivial⟩

end

/-! ## All of it -/

section
variable {d : Device} {ar : ℕ} {x : ExpApi}

/-- What is said of an API that is there. -/
theorem diffApi_entry {a : ℕ} (h : d.getApi x.api = some a) (e : ApiDiff) :
    (diffApi d ar e x).1.entry =
        ⟨x.api, emitted (diffModule d ar a) ModuleDiff.entry e.moduleDiffs x.modules⟩ ∧
      (diffApi d ar e x).2 = decide (x.modules.filterMap (moduleDifference d ar a) ≠ []) := by
  unfold diffApi
  rw [h]
  constructor
  · dsimp only
    rw [← entries_fill_zero]
    rfl
  · dsimp only
    rw [fill_count ModuleDiff.entry, emitted_length ModuleDiff.entry diffModule_count]
    cases x.modules.filterMap (moduleDifference d ar a) <;> rfl

theorem apiDifference_found {a : ℕ} (h : d.getApi x.api = some a) : apiDifference d ar x =
    if x.modules.filterMap (moduleDifference d ar a) = [] then none
    else some ⟨x.api, x.modules.filterMap (moduleDifference d ar a)⟩ := by
  unfold apiDifference
  rw [h]

theorem entries_generate (expApis : List ExpApi) (diffs : Diffs) :
    (generateSubmoduleDiff d ar expApis diffs).entries =
      emitted (diffApi d ar) ApiDiff.entry diffs.apiDiffs expApis :=
  entries_fill_zero diffs.apiDiffs expApis

theorem modules_length_le {v : ListedApi} (h : v ∈ differences d ar [x]) :
    v.modules.length ≤ x.modules.length := by
  rcases List.mem_filterMap.mp h with ⟨y, hy, hv⟩
  obtain rfl := List.mem_singleton.mp hy
  unfold apiDifference at hv
  dsimp only at hv
  split_ifs at hv
  obtain rfl := Option.some.inj hv
  exact List.length_filterMap_le _ _

/-- One API. -/
theorem api_iff : (∀ diffs, (generateSubmoduleDiff d ar [x] diffs).entries = differences d ar [x]) ↔
    ∃ a, d.getApi x.api = some a ∧ Settled d ar a false x.modules := by
  simp only [entries_generate]
  cases hapi : d.getApi x.api with
  | none =>
    apply iff_of_false
    · intro h
      -- the number of modules has been too large
      have hall := h ⟨0, fun _ => ⟨0, x.modules.length + 1,
        fun _ => ⟨0, 0, .PF_MOD_PLUG_NO_MODULE, 0, fun _ => ⟨0, 0, clearedState⟩⟩⟩⟩
      have hpos (e : ApiDiff) : diffApi d ar e x = ({ e with api := x.api }, true) := by
        unfold diffApi
        rw [hapi]
      unfold emitted at hall
      rw [hpos, if_pos rfl] at hall
      have hlength := modules_length_le (hall ▸ List.mem_cons_self)
      unfold ApiDiff.entry entries at hlength
      rw [List.length_map, List.length_range] at hlength
      exact absurd hlength (Nat.not_succ_le_self _)
    · rintro ⟨a, ha, _⟩
      cases ha
  | some a =>
    have hlisted (diffs : Diffs) : emitted (diffApi d ar) ApiDiff.entry diffs.apiDiffs [x] =
        if x.modules.filterMap (moduleDifference d ar a) = [] then []
        else [⟨x.api, emitted (diffModule d ar a) ModuleDiff.entry
          (diffs.apiDiffs 0).moduleDiffs x.modules⟩] := by
      rcases diffApi_entry hapi (diffs.apiDiffs 0) with ⟨hentry, hcount⟩
      by_cases hnone : x.modules.filterMap (moduleDifference d ar a) = []
      · rw [if_pos hnone]
        rw [decide_eq_false (not_not_intro hnone)] at hcount
        rw [emitted_neg hcount]
        rfl
      · rw [if_neg hnone]
        rw [decide_eq_true hnone] at hcount
        rw [emitted_pos hcount, hentry]
        rfl
    have hsettled : Settled d ar a false x.modules ↔
        ∃ b, some a = some b ∧ Settled d ar b false x.modules := by
      constructor
      · exact fun h => ⟨a, rfl, h⟩
      · rintro ⟨b, hb, h⟩
        obtain rfl := Option.some.inj hb
        exact h
    rw [← hsettled, ← modules_iff]
    unfold differences
    rw [List.filterMap_cons, apiDifference_found hapi]
    by_cases hnone : x.modules.filterMap (moduleDifference d ar a) = []
    · -- no module differs, and none is said to
      rw [if_pos hnone]
      apply iff_of_true
      · intro diffs
        rw [hlisted, if_pos hnone]
        rfl
      · intro g
        rw [hnone, ← List.length_eq_zero_iff, emitted_length _ diffModule_count, hnone]
        rfl
    · rw [if_neg hnone]
      constructor
      · intro h g
        have hall := h ⟨0, fun _ => ⟨0, 0, g⟩⟩
        rw [hlisted, if_neg hnone] at hall
        exact (ListedApi.mk.inj (List.cons.inj hall).1).2
      · intro h diffs
        rw [hlisted, if_neg hnone, h]
        rfl

/-- The arrays say what differs, whatever they contained before, exactly when the API is there and
each difference is one of which all is written. -/
theorem refilled_iff (d : Device) (ar : ℕ) {expApis : List ExpApi}
    (hmax : expApis.length ≤ PNET_MAX_API) :
    (∀ diffs, (generateSubmoduleDiff d ar expApis diffs).entries = differences d ar expApis) ↔
      ∀ x ∈ expApis, ∃ a, d.getApi x.api = some a ∧ Settled d ar a false x.modules := by
  have hone : PNET_MAX_API = 1 := rfl
  match expApis with
  | [] => exact iff_of_true (fun _ => rfl) fun _ hx => absurd hx List.not_mem_nil
  | [x] => rw [List.forall_mem_singleton, api_iff]
  | _ :: _ :: _ =>
    rw [List.length_cons, List.length_cons] at hmax
    omega

end

/-! ## Cleared arrays -/

section
variable {d : Device} {ar : ℕ}

/-- Entries for submodules in which nothing has been written that is not written again. -/
def clearedSubmodules : Set SubmoduleDiff := fun e => Alike e ⟨0, 0, clearedState⟩

def clearedModules : Set ModuleDiff := fun m =>
  m.nbrSubmoduleDiffs = 0 ∧ ∀ k, m.submoduleDiffs k ∈ clearedSubmodules

def clearedApis : Set ApiDiff := fun e => ∀ k, e.moduleDiffs k ∈ clearedModules

theorem submodules_kept (a s : ℕ) (xs : List ExpSubmodule) : Kept (diffSubmodule d ar a s)
    SubmoduleDiff.entry (submoduleDifference d ar a s) clearedSubmodules xs := by
  constructor
  · exact fun x _ e => diffSubmodule_count e x
  · exact fun x _ e he hx => (diffSubmodule_none hx e).trans he
  · intro x _ e he v hx
    rw [diffSubmodule_congr he]
    unfold submoduleDifference at hx
    unfold diffSubmodule
    cases hsub : d.getSubslot a s x.subslotNumber with
    | none =>
      rw [hsub] at hx
      exact Option.some.inj hx
    | some i =>
      rw [hsub] at hx
      dsimp only at hx ⊢
      generalize d.subslots (a, s, i) = sub at hx ⊢
      by_cases hdiff : (sub.wrongFor x || sub.diagnosed || sub.lockedFor ar) = true
      · rw [if_pos hdiff] at hx
        obtain rfl := Option.some.inj hx
        have hnone : sub.diagnosed = false → sub.submoduleState.fault = false ∧
            sub.submoduleState.maintenanceDemanded = false ∧
            sub.submoduleState.maintenanceRequired = false := by
          intro h
          unfold Subslot.diagnosed at h
          rw [Bool.or_eq_false_iff, Bool.or_eq_false_iff] at h
          exact ⟨h.1.1, h.1.2, h.2⟩
        cases hdiagnosed : sub.diagnosed with
        | true => cases sub.wrongFor x <;> cases sub.lockedFor ar <;> rfl
        | false =>
          rcases hnone hdiagnosed with ⟨hfault, hdemanded, hrequired⟩
          rw [hfault, hdemanded, hrequired]
          rw [hdiagnosed] at hdiff
          cases hwrong : sub.wrongFor x with
          | true => cases sub.lockedFor ar <;> rfl
          | false =>
            rw [hwrong, Bool.false_or, Bool.false_or] at hdiff
            rw [hdiff]
            rfl
      · rw [if_neg hdiff] at hx
        cases hx

theorem begun_cleared {m : ModuleDiff} (h : m ∈ clearedModules) (k : ℕ) :
    m.begun k ∈ clearedSubmodules := (m.begun_alike k).trans (h.2 k)

theorem modules_kept (a : ℕ) (xs : List ExpModule) : Kept (diffModule d ar a) ModuleDiff.entry
    (moduleDifference d ar a) clearedModules xs := by
  constructor
  · exact fun x _ m => diffModule_count m x
  · intro x _ m hm hx
    cases hslot : d.getSlot a x.slotNumber with
    | none =>
      rw [moduleDifference, hslot] at hx
      cases hx
    | some s =>
      by_cases hwrong : x.moduleIdentNumber ≠ (d.slots (a, s)).moduleIdentNumber
      · rw [moduleDifference, hslot] at hx
        dsimp only at hx
        rw [if_pos hwrong] at hx
        cases hx
      · rw [moduleDifference_proper hslot hwrong] at hx
        by_cases hnone : x.submodules.filterMap (submoduleDifference d ar a s) = []
        · rw [diffModule_proper hslot hwrong]
          constructor
          · exact (fill_none (List.filterMap_eq_nil_iff.mp hnone) m.begun).1
          · exact (submodules_kept a s _).fill (List.filterMap_eq_nil_iff.mp hnone)
              (begun_cleared hm)
        · rw [if_neg hnone] at hx
          cases hx
  · intro x _ m hm v hx
    cases hslot : d.getSlot a x.slotNumber with
    | none =>
      rw [moduleDifference, hslot] at hx
      obtain rfl := Option.some.inj hx
      rw [diffModule_missing hslot]
      refine (entry_eq_iff ?_ ?_ ?_ ?_).mpr hm.1 <;> rfl
    | some s =>
      by_cases hwrong : x.moduleIdentNumber ≠ (d.slots (a, s)).moduleIdentNumber
      · rw [moduleDifference, hslot] at hx
        dsimp only at hx
        rw [if_pos hwrong] at hx
        obtain rfl := Option.some.inj hx
        rw [diffModule_wrong hslot hwrong]
        refine (entry_eq_iff ?_ ?_ ?_ ?_).mpr hm.1 <;> rfl
      · rw [moduleDifference_proper hslot hwrong] at hx
        by_cases hnone : x.submodules.filterMap (submoduleDifference d ar a s) = []
        · rw [if_pos hnone] at hx
          cases hx
        · rw [if_neg hnone] at hx
          obtain rfl := Option.some.inj hx
          rw [diffModule_entry hslot hwrong,
            (submodules_kept a s _).emitted (begun_cleared hm)]

theorem apis_kept {xs : List ExpApi} (hapis : ∀ x ∈ xs, d.getApi x.api ≠ none) :
    Kept (diffApi d ar) ApiDiff.entry (apiDifference d ar) clearedApis xs := by
  constructor
  · intro x hx e
    rcases Option.ne_none_iff_exists'.mp (hapis x hx) with ⟨a, ha⟩
    rw [(diffApi_entry ha e).2, apiDifference_found ha]
    by_cases hlist : x.modules.filterMap (moduleDifference d ar a) = []
    · rw [if_pos hlist, decide_eq_false (not_not_intro hlist)]
      rfl
    · rw [if_neg hlist, decide_eq_true hlist]
      rfl
  · intro x hx e he hnone
    rcases Option.ne_none_iff_exists'.mp (hapis x hx) with ⟨a, ha⟩
    rw [apiDifference_found ha] at hnone
    by_cases hlist : x.modules.filterMap (moduleDifference d ar a) = []
    · unfold diffApi
      rw [ha]
      exact (modules_kept a _).fill (List.filterMap_eq_nil_iff.mp hlist) he
    · rw [if_neg hlist] at hnone
      cases hnone
  · intro x hx e he v hsome
    rcases Option.ne_none_iff_exists'.mp (hapis x hx) with ⟨a, ha⟩
    rw [apiDifference_found ha] at hsome
    by_cases hlist : x.modules.filterMap (moduleDifference d ar a) = []
    · rw [if_pos hlist] at hsome
      cases hsome
    · rw [if_neg hlist] at hsome
      obtain rfl := Option.some.inj hsome
      rw [(diffApi_entry ha e).1, (modules_kept a _).emitted he]

/-- In cleared arrays, the differences are always said when the APIs are there. -/
theorem generate_cleared {expApis : List ExpApi} (hapis : ∀ x ∈ expApis, d.getApi x.api ≠ none)
    {diffs : Diffs} (hcleared : ∀ n, diffs.apiDiffs n ∈ clearedApis) :
    (generateSubmoduleDiff d ar expApis diffs).entries = differences d ar expApis := by
  rw [entries_generate]
  exact (apis_kept hapis).emitted hcleared

end

/-! ## A module that is replaced -/

namespace SubmoduleDiffRun

/-- A tree with a module in the slots 1 and 2, each with a submodule in subslot 1. -/
def tree (moduleIdents submoduleIdents : ℕ → BitVec 32) : Device where
  apis _ := ⟨true, 0, some 0⟩
  slots q := { clearedSlot with
    inUse := true, slotNbr := BitVec.ofNat 16 (q.2 + 1), moduleIdentNumber := moduleIdents q.2 }
  subslots q := { clearedSubslot with
    inUse := true, subslotNbr := BitVec.ofNat 16 (q.2.2 + 1), pAr := some 0
    submoduleIdentNumber := submoduleIdents q.2.1 }
  diagItems _ := clearedItem
  diagItemsFree := PF_DIAG_IX_NULL

def expected (slot : BitVec 16) : ExpModule :=
  ⟨slot, 10, 0, [⟨1, 20, ⟨0, false, false, false, false⟩, []⟩]⟩

def cleared : Diffs := ⟨0, fun _ => ⟨0, 0, fun _ => ⟨0, 0, .PF_MOD_PLUG_NO_MODULE, 0,
  fun _ => ⟨0, 0, clearedState⟩⟩⟩⟩

/-- The module in slot 1 has another submodule. -/
def before : Device := tree (fun _ => 10) fun s => if s = 0 then 21 else 20

/-- Another module is in slot 1. -/
def after : Device := tree (fun s => if s = 0 then 11 else 10) fun _ => 20

end SubmoduleDiffRun

open SubmoduleDiffRun in
/-- The wrong module in slot 1 is expected behind the right one in slot 2. -/
theorem refilled_behind :
    (generateSubmoduleDiff after 0 [⟨0, [expected 2, expected 1]⟩]
      (generateSubmoduleDiff before 0 [⟨0, [expected 2, expected 1]⟩] cleared)).entries =
    differences after 0 [⟨0, [expected 2, expected 1]⟩] := by
  refine (refilled_iff after 0 (le_refl 1)).mpr ?_ _
  refine List.forall_mem_singleton.mpr ⟨0, rfl, ?_⟩
  exact ⟨rfl, trivial⟩

open SubmoduleDiffRun in
/-- A wrong module that comes first, in cleared arrays. -/
theorem generate_cleared_first :
    (generateSubmoduleDiff after 0 [⟨0, [expected 1, expected 2]⟩] cleared).entries =
      differences after 0 [⟨0, [expected 1, expected 2]⟩] :=
  generate_cleared (List.forall_mem_singleton.mpr (by decide)) fun _ _ => ⟨rfl, fun _ => ⟨rfl, rfl⟩⟩

open SubmoduleDiffRun in
/-- The wrong module comes first, and the list still has the submodule of the one before. -/
theorem not_refilled :
    (generateSubmoduleDiff after 0 [⟨0, [expected 1, expected 2]⟩]
      (generateSubmoduleDiff before 0 [⟨0, [expected 1, expected 2]⟩] cleared)).entries =
      [⟨0, [⟨1, 11, .PF_MOD_PLUG_WRONG_MODULE, [⟨1, 21,
        ⟨false, false, false, .PF_SUBMOD_AR_INFO_OWN, .PF_SUBMOD_PLUG_WRONG, true⟩⟩]⟩]⟩] ∧
    (generateSubmoduleDiff after 0 [⟨0, [expected 1, expected 2]⟩]
      (generateSubmoduleDiff before 0 [⟨0, [expected 1, expected 2]⟩] cleared)).entries ≠
      differences after 0 [⟨0, [expected 1, expected 2]⟩] :=
  ⟨by decide +kernel, by decide +kernel⟩

end PNet.Cmdev
