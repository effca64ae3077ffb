import PNet.Connect.Timing
import PNet.Lib.FreeSearch

/-! # The frame ids of output CRs

`pf_cmdev_fix_frame_id`, which gives a frame id to the output CRs of an AR for which the controller
has left it open. Those that the controller has given are not looked at.

* `assigned_iff`: the output CRs have frame ids of their own class, each its own, exactly when those
  that the controller has given are such, and no CR is of a class without a range.
-/

namespace PNet.Connect

open Rpc FreeSearch

/-! ## The connected ARs -/

/-- The CRs of the AR that connects, and of the other ARs that are in use. -/
structure ConnectedCrs where
  iocrs : List IocrParam
  others : List (List IocrParam)
  others_lt : others.length < PNET_MAX_AR
  iocrs_le : ∀ crs ∈ iocrs :: others, crs.length ≤ PNET_MAX_CR

/-- `pf_cmdev_verify_free_frame_id`. -/
def verifyFreeFrameId (ars : List (List IocrParam)) (frameId : BitVec 16) : Bool :=
  ars.all fun iocrs => iocrs.all fun p => p.frameId ≠ frameId

/-- The first and the last frame id that `pf_cmdev_fix_frame_id` tries for a class. -/
def frameIdRange (rtClass : BitVec 32) : BitVec 16 × BitVec 16 :=
  if rtClass = PF_RT_CLASS_1 then (0xC000, 0xF7FF)
  else if rtClass = PF_RT_CLASS_2 then (0x8000, 0xBBFF)
  else if rtClass = PF_RT_CLASS_3 then (0x0100, 0x7FFF)
  else if rtClass = PF_RT_CLASS_UDP then (0xC000, 0xF7FF)
  else (0xFFFF, 0xFFFF)

namespace IocrParam

def output (p : IocrParam) : Bool := p.iocrType = PF_IOCR_TYPE_OUTPUT

/-- The controller has given the frame id. -/
def given (p : IocrParam) : Bool := p.frameId ≠ 0xFFFF

end IocrParam

/-- One round of `pf_cmdev_fix_frame_id`; the loop for a frame id ends before it has tried all of
them. -/
def fixCr (ars : List (List IocrParam)) (p : IocrParam) : IocrParam :=
  if p.output = true ∧ p.given = false then
    let (start, stop) := frameIdRange p.rtClass
    let frameId := search stop (verifyFreeFrameId ars) (2 ^ 16) start
    if frameId ≤ stop then { p with frameId } else p
  else p

/-- The rounds that are left, after those of the CRs `done`. -/
def fixLoop (others : List (List IocrParam)) (done : List IocrParam) :
    List IocrParam → List IocrParam
  | [] => done
  | p :: rest => fixLoop others (done ++ [fixCr ((done ++ p :: rest) :: others) p]) rest

/-- `pf_cmdev_fix_frame_id`. -/
def fixFrameId (c : ConnectedCrs) : List IocrParam := fixLoop c.others [] c.iocrs

/-! ## What is expected of the frame ids -/

/-- The frame id is one of the class. -/
def InClassRange (rtClass : BitVec 32) (frameId : BitVec 16) : Prop :=
  (rtClass = PF_RT_CLASS_1 ∨ rtClass = PF_RT_CLASS_UDP) ∧ 0xC000 ≤ frameId ∧ frameId ≤ 0xF7FF ∨
    rtClass = PF_RT_CLASS_2 ∧ 0x8000 ≤ frameId ∧ frameId ≤ 0xBBFF ∨
    rtClass = PF_RT_CLASS_3 ∧ 0x0100 ≤ frameId ∧ frameId ≤ 0x7FFF

/-- The frame ids of the output CRs. -/
def outputIds (crs : List IocrParam) : List (BitVec 16) :=
  (crs.filter IocrParam.output).map IocrParam.frameId

/-- The frame ids of the output CRs to which the controller has given one. -/
def givenIds (crs : List IocrParam) : List (BitVec 16) := outputIds (crs.filter IocrParam.given)

/-- What is expected of the CRs afterwards. -/
structure Assigned (c : ConnectedCrs) (iocrs : List IocrParam) : Prop where
  inRange : ∀ p ∈ iocrs, p.output = true → InClassRange p.rtClass p.frameId
  unique : (outputIds iocrs ++ outputIds c.others.flatten).Nodup
  kept : List.Forall₂ (fun p p' => (p.given = true → p' = p) ∧
    ∃ frameId, p' = { p with frameId }) c.iocrs iocrs

/-- The frame ids that the controller has given are of their class and differ from each other and
from those of the other ARs; the class of an output CR is not STREAM. -/
structure WellGiven (c : ConnectedCrs) : Prop where
  inRange : ∀ p ∈ c.iocrs, p.output = true → p.given = true → InClassRange p.rtClass p.frameId
  unique : (givenIds c.iocrs ++ outputIds c.others.flatten).Nodup
  hasRange : ∀ p ∈ c.iocrs, p.output = true → p.rtClass123 = true ∨ p.rtClass = PF_RT_CLASS_UDP

/-! ## One round -/

section
variable {ars : List (List IocrParam)} {p : IocrParam} {id : BitVec 16}

theorem verifyFreeFrameId_iff :
    verifyFreeFrameId ars id = true ↔ id ∉ ars.flatten.map IocrParam.frameId := by
  simp only [verifyFreeFrameId, List.all_eq_true, decide_eq_true_eq, List.mem_map,
    List.mem_flatten]
  constructor
  · rintro hfree ⟨p, ⟨crs, hcrs, hp⟩, rfl⟩
    exact hfree crs hcrs p hp rfl
  · intro hnot crs hcrs p hp heq
    exact hnot ⟨p, ⟨crs, hcrs, hp⟩, heq⟩

/-- The loop for a frame id has ended, as long as any frame id is free. -/
theorem search_ended (start stop : BitVec 16) (hfree : verifyFreeFrameId ars id = true) :
    ¬(search stop (verifyFreeFrameId ars) (2 ^ 16) start ≤ stop ∧
      verifyFreeFrameId ars (search stop (verifyFreeFrameId ars) (2 ^ 16) start) = false) := by
  apply search_ends (id - start).isLt
  rw [BitVec.ofNat_toNat, BitVec.setWidth_eq, BitVec.add_comm, BitVec.sub_add_cancel]
  exact hfree

theorem fixCr_of_given (h : p.output = true → p.given = true) : fixCr ars p = p := by
  unfold fixCr
  rw [if_neg]
  rintro ⟨houtput, hgiven⟩
  cases (h houtput).symm.trans hgiven

/-- Only the frame id may change. -/
theorem fixCr_same (ars : List (List IocrParam)) (p : IocrParam) :
    ∃ frameId, fixCr ars p = { p with frameId } := by
  unfold fixCr
  split_ifs
  · dsimp only
    split_ifs
    · exact ⟨_, rfl⟩
    · exact ⟨p.frameId, rfl⟩
  · exact ⟨p.frameId, rfl⟩

/-- A class with a range has room for all CRs. -/
theorem frameIdRange_room (hclass : p.rtClass123 = true ∨ p.rtClass = PF_RT_CLASS_UDP) :
    (frameIdRange p.rtClass).1.toNat + 0x1000 ≤ (frameIdRange p.rtClass).2.toNat ∧
      ∀ id, (frameIdRange p.rtClass).1 ≤ id → id ≤ (frameIdRange p.rtClass).2 →
        InClassRange p.rtClass id := by
  have hcases : p.rtClass = PF_RT_CLASS_1 ∨ p.rtClass = PF_RT_CLASS_2 ∨
      p.rtClass = PF_RT_CLASS_3 ∨ p.rtClass = PF_RT_CLASS_UDP := by
    rcases hclass with h123 | hudp
    · rcases of_decide_eq_true h123 with h | h | h
      · exact .inl h
      · exact .inr (.inl h)
      · exact .inr (.inr (.inl h))
    · exact .inr (.inr (.inr hudp))
  rcases hcases with h | h | h | h <;> rw [h]
  · exact ⟨by decide, fun id hfirst hlast => .inl ⟨.inl rfl, hfirst, hlast⟩⟩
  · exact ⟨by decide, fun id hfirst hlast => .inr (.inl ⟨rfl, hfirst, hlast⟩)⟩
  · exact ⟨by decide, fun id hfirst hlast => .inr (.inr ⟨rfl, hfirst, hlast⟩)⟩
  · exact ⟨by decide, fun id hfirst hlast => .inl ⟨.inr rfl, hfirst, hlast⟩⟩

/-- An open frame id becomes one of the class that no CR has. -/
theorem fixCr_open (houtput : p.output = true) (hopen : p.given = false)
    (hclass : p.rtClass123 = true ∨ p.rtClass = PF_RT_CLASS_UDP)
    (hars : ars.flatten.length ≤ 0x1000) :
    ∃ frameId, fixCr ars p = { p with frameId } ∧ InClassRange p.rtClass frameId ∧
      frameId ∉ ars.flatten.map IocrParam.frameId := by
  rcases frameIdRange_room hclass with ⟨hroom, hrange⟩
  have hlength : (ars.flatten.map IocrParam.frameId).length ≤ 0x1000 := by
    rw [List.length_map]
    exact hars
  have htaken : Taken (verifyFreeFrameId ars) (frameIdRange p.rtClass).1
      (ars.flatten.map IocrParam.frameId) := fun _ _ => verifyFreeFrameId_iff
  have hfound := @search_free 16 (frameIdRange p.rtClass).2 (frameIdRange p.rtClass).1
    (verifyFreeFrameId ars) (2 ^ 16) (ars.flatten.map IocrParam.frameId) htaken (by omega)
    (by omega)
  rcases hfound with ⟨hfree, hfirst, hlast⟩
  refine ⟨search (frameIdRange p.rtClass).2 (verifyFreeFrameId ars) (2 ^ 16)
    (frameIdRange p.rtClass).1, ?_, hrange _ hfirst hlast, verifyFreeFrameId_iff.mp hfree⟩
  unfold fixCr
  rw [if_pos ⟨houtput, hopen⟩]
  dsimp only
  rw [if_pos hlast]

end

/-! ## All rounds -/

section
variable {done rest crs : List IocrParam} {others : List (List IocrParam)} {p : IocrParam}

@[simp] theorem outputIds_append (l m : List IocrParam) :
    outputIds (l ++ m) = outputIds l ++ outputIds m := by
  unfold outputIds
  rw [List.filter_append, List.map_append]

theorem outputIds_cons_pos (h : p.output = true) :
    outputIds (p :: crs) = p.frameId :: outputIds crs := by
  unfold outputIds
  rw [List.filter_cons_of_pos h]
  rfl

theorem outputIds_cons_neg (h : p.output = false) : outputIds (p :: crs) = outputIds crs := by
  unfold outputIds
  rw [List.filter_cons_of_neg (h ▸ Bool.false_ne_true)]

theorem givenIds_cons_pos (hgiven : p.given = true) (houtput : p.output = true) :
    givenIds (p :: crs) = p.frameId :: givenIds crs := by
  unfold givenIds
  rw [List.filter_cons_of_pos hgiven, outputIds_cons_pos houtput]

theorem givenIds_cons_neg (h : p.output = true → p.given = false) :
    givenIds (p :: crs) = givenIds crs := by
  unfold givenIds
  by_cases hgiven : p.given = true
  · have houtput : p.output = false := by
      rw [← Bool.not_eq_true]
      intro houtput
      cases hgiven.symm.trans (h houtput)
    rw [List.filter_cons_of_pos hgiven, outputIds_cons_neg houtput]
  · rw [List.filter_cons_of_neg hgiven]

theorem outputIds_subset : outputIds crs ⊆ crs.map IocrParam.frameId :=
  List.map_subset _ List.filter_sublist.subset

theorem givenIds_subset : givenIds crs ⊆ crs.map IocrParam.frameId :=
  List.Subset.trans outputIds_subset (List.map_subset _ List.filter_sublist.subset)

/-- The frame ids that are settled: those of the output CRs `done`, those given to the rest and those
of the other ARs. -/
def settledIds (others : List (List IocrParam)) (done rest : List IocrParam) : List (BitVec 16) :=
  outputIds done ++ (givenIds rest ++ outputIds others.flatten)

theorem settledIds_subset :
    settledIds others done rest ⊆ ((done ++ rest) :: others).flatten.map IocrParam.frameId := by
  rw [List.flatten_cons, List.map_append, List.map_append, List.append_assoc]
  refine List.append_subset.mpr ⟨?_, List.append_subset.mpr ⟨?_, ?_⟩⟩
  · exact List.Subset.trans outputIds_subset (List.subset_append_left _ _)
  · exact List.Subset.trans givenIds_subset
      (List.Subset.trans (List.subset_append_left _ _) (List.subset_append_right _ _))
  · exact List.Subset.trans outputIds_subset
      (List.Subset.trans (List.subset_append_right _ _) (List.subset_append_right _ _))

theorem length_flatten_le {ars : List (List IocrParam)} {n : ℕ} (h : ∀ l ∈ ars, l.length ≤ n) :
    ars.flatten.length ≤ ars.length * n := by
  induction ars with
  | nil => exact Nat.zero_le _
  | cons l ars ih =>
    have hl : l.length ≤ n := h l List.mem_cons_self
    have hars := ih fun m hm => h m (List.mem_cons_of_mem l hm)
    rw [List.flatten_cons, List.length_append, List.length_cons, Nat.succ_mul]
    omega

/-- The AR and the others have few CRs. -/
theorem flatten_length_bound (hothers : others.length < PNET_MAX_AR)
    (hcrs : ∀ l ∈ crs :: others, l.length ≤ PNET_MAX_CR) :
    (crs :: others).flatten.length ≤ 0x1000 := by
  have hsum : (crs :: others).flatten.length ≤ (crs :: others).length * PNET_MAX_CR :=
    length_flatten_le hcrs
  have hle : (crs :: others).length * PNET_MAX_CR ≤ PNET_MAX_AR * PNET_MAX_CR :=
    Nat.mul_le_mul_right _ hothers
  exact (hsum.trans hle).trans (by decide)

/-- One round settles the frame id of its CR. -/
theorem fixCr_settled (hlength : ((done ++ p :: rest) :: others).flatten.length ≤ 0x1000)
    (hrange : p.output = true → p.given = true → InClassRange p.rtClass p.frameId)
    (hclass : p.output = true → p.rtClass123 = true ∨ p.rtClass = PF_RT_CLASS_UDP)
    (hunique : (settledIds others done (p :: rest)).Nodup) :
    (settledIds others (done ++ [fixCr ((done ++ p :: rest) :: others) p]) rest).Nodup ∧
      ((fixCr ((done ++ p :: rest) :: others) p).output = true →
        InClassRange (fixCr ((done ++ p :: rest) :: others) p).rtClass
          (fixCr ((done ++ p :: rest) :: others) p).frameId) := by
  have hfresh := @settledIds_subset done (p :: rest) others
  unfold settledIds at hunique hfresh ⊢
  by_cases houtput : p.output = true
  · by_cases hgiven : p.given = true
    · -- the CR stays as it is, and is counted among those that are done
      rw [fixCr_of_given fun _ => hgiven, outputIds_append, outputIds_cons_pos houtput]
      rw [givenIds_cons_pos hgiven houtput] at hunique
      refine ⟨?_, fun _ => hrange houtput hgiven⟩
      rw [List.append_assoc]
      exact hunique
    · rw [Bool.not_eq_true] at hgiven
      rcases fixCr_open houtput hgiven (hclass houtput) hlength with ⟨id, heq, hid, hnot⟩
      have houtput' : ({ p with frameId := id } : IocrParam).output = true := houtput
      rw [heq, outputIds_append, outputIds_cons_pos houtput']
      rw [givenIds_cons_neg fun _ => hgiven] at hunique hfresh
      refine ⟨?_, fun _ => hid⟩
      rw [List.append_assoc]
      exact List.nodup_middle.mpr (List.nodup_cons.mpr ⟨fun h => hnot (hfresh h), hunique⟩)
  · rw [Bool.not_eq_true] at houtput
    have hinput : ∀ {P : Prop}, p.output = true → P := fun h => by cases houtput.symm.trans h
    rw [fixCr_of_given hinput, outputIds_append, outputIds_cons_neg houtput]
    rw [givenIds_cons_neg hinput] at hunique
    refine ⟨?_, hinput⟩
    rw [List.append_assoc]
    exact hunique

/-- What the rounds do to the CRs that are left. -/
theorem fixLoop_same (others : List (List IocrParam)) (done rest : List IocrParam) :
    ∃ rest', fixLoop others done rest = done ++ rest' ∧
      List.Forall₂ (fun p p' => (p.given = true → p' = p) ∧ ∃ frameId, p' = { p with frameId })
        rest rest' := by
  induction rest generalizing done with
  | nil => exact ⟨[], (List.append_nil done).symm, .nil⟩
  | cons p rest ih =>
    rcases ih (done ++ [fixCr ((done ++ p :: rest) :: others) p]) with ⟨rest', heq, hsame⟩
    refine ⟨fixCr ((done ++ p :: rest) :: others) p :: rest', ?_, .cons ⟨?_, fixCr_same _ p⟩ hsame⟩
    · unfold fixLoop
      rw [heq, List.append_assoc]
      rfl
    · exact fun hgiven => fixCr_of_given fun _ => hgiven

/-- All rounds settle the frame ids of all CRs. -/
theorem fixLoop_settled (hothers : others.length < PNET_MAX_AR)
    (hcrs : ∀ l ∈ (done ++ rest) :: others, l.length ≤ PNET_MAX_CR)
    (hdone : ∀ p ∈ done, p.output = true → InClassRange p.rtClass p.frameId)
    (hrange : ∀ p ∈ rest, p.output = true → p.given = true → InClassRange p.rtClass p.frameId)
    (hclass : ∀ p ∈ rest, p.output = true → p.rtClass123 = true ∨ p.rtClass = PF_RT_CLASS_UDP)
    (hunique : (settledIds others done rest).Nodup) :
    (settledIds others (fixLoop others done rest) []).Nodup ∧
      ∀ p ∈ fixLoop others done rest, p.output = true → InClassRange p.rtClass p.frameId := by
  induction rest generalizing done with
  | nil => exact ⟨hunique, hdone⟩
  | cons p rest ih =>
    have hround := fixCr_settled (flatten_length_bound hothers hcrs) (hrange p List.mem_cons_self)
      (hclass p List.mem_cons_self) hunique
    unfold fixLoop
    apply ih
    · intro l hl
      rcases List.mem_cons.mp hl with rfl | hl
      · have hlength := hcrs _ List.mem_cons_self
        rw [List.length_append, List.length_cons] at hlength
        rw [List.length_append, List.length_append, List.length_singleton]
        omega
      · exact hcrs l (List.mem_cons_of_mem _ hl)
    · intro q hq
      rcases List.mem_append.mp hq with hq | hq
      · exact hdone q hq
      · rw [List.mem_singleton.mp hq]
        exact hround.2
    · exact fun q hq => hrange q (List.mem_cons_of_mem p hq)
    · exact fun q hq => hclass q (List.mem_cons_of_mem p hq)
    · exact hround.1

/-- The frame ids that were given are among those in the end. -/
theorem givenIds_sublist {crs' : List IocrParam}
    (h : List.Forall₂ (fun p p' => (p.given = true → p' = p) ∧
      ∃ frameId, p' = { p with frameId }) crs crs') :
    (givenIds crs).Sublist (outputIds crs') := by
  induction h with
  | nil => exact List.Sublist.slnil
  | @cons p p' crs crs' hkept _ ih =>
    rcases hkept with ⟨hgiven, frameId, heq⟩
    by_cases houtput : p.output = true
    · have houtput' : p'.output = true := by
        rw [heq]
        exact houtput
      rw [outputIds_cons_pos houtput']
      by_cases hp : p.given = true
      · rw [givenIds_cons_pos hp houtput, hgiven hp]
        exact ih.cons_cons p.frameId
      · rw [givenIds_cons_neg fun _ => Bool.eq_false_of_not_eq_true hp]
        exact ih.cons p'.frameId
    · have houtput' : p'.output = false := by
        rw [heq]
        exact Bool.eq_false_of_not_eq_true houtput
      rw [outputIds_cons_neg houtput', givenIds_cons_neg fun h => absurd h houtput]
      exact ih

end

/-! ## The assignment -/

theorem InClassRange.hasRange {p : IocrParam} {frameId : BitVec 16}
    (h : InClassRange p.rtClass frameId) :
    p.rtClass123 = true ∨ p.rtClass = PF_RT_CLASS_UDP := by
  rcases h with ⟨h | h, _⟩ | ⟨h, _⟩ | ⟨h, _⟩
  · exact .inl (decide_eq_true (.inl h))
  · exact .inr h
  · exact .inl (decide_eq_true (.inr (.inl h)))
  · exact .inl (decide_eq_true (.inr (.inr h)))

/-- The frame ids are as expected after exactly the requests whose own frame ids are. -/
theorem assigned_iff (c : ConnectedCrs) : Assigned c (fixFrameId c) ↔ WellGiven c := by
  rcases fixLoop_same c.others [] c.iocrs with ⟨iocrs, heq, hsame⟩
  rw [List.nil_append] at heq
  constructor
  · intro h
    have hkept := h.kept
    -- each CR of the request is one of those in the end, with the same class
    have hfinal : ∀ p ∈ c.iocrs, ∃ p' ∈ fixFrameId c, (p.given = true → p' = p) ∧
        ∃ frameId, p' = { p with frameId } := by
      intro p hp
      rcases List.forall₂_iff_get.mp hkept with ⟨hlength, hget⟩
      rcases List.get_of_mem hp with ⟨i, rfl⟩
      exact ⟨_, List.get_mem _ ⟨i, hlength ▸ i.isLt⟩, hget i i.isLt (hlength ▸ i.isLt)⟩
    constructor
    case inRange =>
      intro p hp houtput hgiven
      rcases hfinal p hp with ⟨p', hp', hsame, _⟩
      obtain rfl := hsame hgiven
      exact h.inRange p' hp' houtput
    case unique =>
      exact h.unique.sublist ((givenIds_sublist hkept).append (List.Sublist.refl _))
    case hasRange =>
      intro p hp houtput
      rcases hfinal p hp with ⟨p', hp', _, frameId, rfl⟩
      exact (h.inRange _ hp' houtput).hasRange
  · intro h
    have hrounds := @fixLoop_settled [] c.iocrs c.others c.others_lt c.iocrs_le
      (fun p hp => absurd hp List.not_mem_nil) h.inRange h.hasRange h.unique
    refine ⟨hrounds.2, hrounds.1, ?_⟩
    rw [fixFrameId, heq]
    exact hsame

/-! ## A frame id of another class -/

namespace FrameIdsRun

def outputCr (rtClass : BitVec 32) (frameId : BitVec 16) : IocrParam :=
  { TimingRun.iocr 32 1 3 with
    iocrType := PF_IOCR_TYPE_OUTPUT
    iocrProperties := ⟨rtClass, 0, 0, 0⟩
    frameId }

/-- An AR with an input CR and the output CR `p`. -/
def connected (p : IocrParam) : ConnectedCrs where
  iocrs := [TimingRun.iocr 32 1 3, p]
  others := [[TimingRun.iocr 32 1 3, outputCr PF_RT_CLASS_1 0xC001]]
  others_lt := by decide
  iocrs_le crs h := by
    rcases List.mem_pair.mp h with rfl | rfl <;> exact le_refl 2

def accepted (c : ConnectedCrs) : Bool := (checkIocrParam 32 TimingRun.ar c.iocrs noError).1

end FrameIdsRun

open FrameIdsRun in
/-- The input CRs have frame id 0xC000, and an output CR of the other AR 0xC001. -/
example : outputIds (fixFrameId (connected (outputCr PF_RT_CLASS_1 0xFFFF))) = [0xC002] := by
  decide +kernel

open FrameIdsRun in
/-- A frame id of RT class 2 is accepted for an output CR of class 1, and not replaced; a CR of class
STREAM gets frame id 0, as the loop goes on behind 0xFFFF. -/
theorem not_assigned_outside :
    (accepted (connected (outputCr PF_RT_CLASS_1 0x8000)) = true ∧
      ¬Assigned (connected (outputCr PF_RT_CLASS_1 0x8000))
        (fixFrameId (connected (outputCr PF_RT_CLASS_1 0x8000)))) ∧
    accepted (connected (outputCr PF_RT_CLASS_STREAM 0xFFFF)) = true ∧
      outputIds (fixFrameId (connected (outputCr PF_RT_CLASS_STREAM 0xFFFF))) = [0] := by
  refine ⟨⟨by decide +kernel, fun h => ?_⟩, by decide +kernel, by decide +kernel⟩
  have hmem : outputCr PF_RT_CLASS_1 0x8000 ∈
      fixFrameId (connected (outputCr PF_RT_CLASS_1 0x8000)) := by
    decide +kernel
  exact absurd (h.inRange _ hmem rfl) (by unfold InClassRange; decide +kernel)

end PNet.Connect
