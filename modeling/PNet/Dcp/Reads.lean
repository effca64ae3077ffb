import PNet.Dcp.Answer

/-! # What the parsers of DCP read

The parts of a frame that `pf_dcp_get_set` and `pf_dcp_identify_req` read, and the values that they
hand on. Both loops end, but they read the header behind the last block, and a block may be
shorter than what is taken out of it.
-/

namespace PNet.Dcp

open Block Cmina

/-! ## Accesses -/

/-- An access to the received frame. -/
inductive Access where
  | read (pos len : ℕ)
  /-- A value of the block that is handed to `pf_cmina_dcp_set_ind` or to a comparison. -/
  | hand (block : Visit) (pos len : ℕ)

namespace Access

/-- The bytes read are in the frame, and a value that is handed on is in its block. -/
def Inside (f : Frame) : Access → Prop
  | .read pos len => len = 0 ∨ pos + len ≤ f.len
  | .hand block pos len => block.pos ≤ pos ∧ pos + len ≤ block.pos + block.blockLength

end Access

def AllInside (f : Frame) (accesses : List Access) : Prop := ∀ a ∈ accesses, a.Inside f

theorem allInside_append (f : Frame) (as bs : List Access) :
    AllInside f (as ++ bs) ↔ AllInside f as ∧ AllInside f bs := List.forall_mem_append

theorem allInside_cons (f : Frame) (a : Access) (as : List Access) :
    AllInside f (a :: as) ↔ a.Inside f ∧ AllInside f as := List.forall_mem_cons

theorem allInside_nil (f : Frame) : AllInside f [] := by
  intro a h
  cases h

theorem allInside_flatMap {α : Type} (f : Frame) (xs : List α) (g : α → List Access) :
    AllInside f (xs.flatMap g) ↔ ∀ x ∈ xs, AllInside f (g x) := by
  unfold AllInside
  simp only [List.mem_flatMap]
  constructor
  · intro h x hx a ha
    exact h a ⟨x, hx, ha⟩
  · rintro h a ⟨x, hx, ha⟩
    exact h x hx a ha

/-! ## A Get or a Set -/

/-- `sizeof (pf_full_ip_suite_t)`. -/
def fullIpSuiteSize : ℕ := 28

/-- The block goes to `pf_cmina_dcp_set_ind` as it is. -/
def isHandedOn (v : Visit) : Bool :=
  isNameBlock v ∨ v.option = PF_DCP_OPT_CONTROL ∧
    (v.subOption = PF_DCP_SUB_CONTROL_FACTORY_RESET ∨
      v.subOption = PF_DCP_SUB_CONTROL_RESET_TO_FACTORY)

def isIpBlock (v : Visit) (sub : Byte) : Bool :=
  v.option = PF_DCP_OPT_IP ∧ v.subOption = sub ∧ v.valueLength = ipSuiteSize

/-- What is taken out of a block of a Set. An address is copied first, together with its name
servers for the full suite; of a name `strncmp` with `port-` may read five characters. -/
def setValueAccesses (v : Visit) : List Access :=
  (if isIpBlock v PF_DCP_SUB_IP_PAR then
    [.read (v.pos + 2) ipSuiteSize, .hand v (v.pos + 2) ipSuiteSize]
  else if isIpBlock v PF_DCP_SUB_IP_SUITE then
    [.read (v.pos + 2) fullIpSuiteSize, .hand v (v.pos + 2) ipSuiteSize]
  else []) ++
  (if isHandedOn v then [.hand v (v.pos + 2) v.valueLength] else []) ++
  (if isNameBlock v ∧ 0 < v.valueLength ∧ v.valueLength < PNET_STATION_NAME_MAX_SIZE then
    [.read (v.pos + 2) (max v.valueLength 5)]
  else [])

/-- One turn of the loop: the options, the qualifier, the value and the length of the next block. -/
def setAccesses (v : Visit) : List Access :=
  .read (v.pos - 4) 2 :: .read v.pos 2 :: (setValueAccesses v ++ [.read (v.next - 2) 2])

/-- The accesses of `pf_dcp_get_set`. It may have no buffer for the answer, or not accept the
addresses. -/
def getSetAccesses (hasBuffer accepted : Bool) (f : Frame) : List Access :=
  .read (f.dcpHdrPos + 8) 2 ::
    (if f.dcplen ≤ f.len ∧ hasBuffer then
      .read 0 12 ::
        (if accepted then
          .read f.dcpHdrPos PF_DCP_HEADER_SIZE ::
            (if f.serviceId = PF_DCP_SERVICE_SET then
              .read (f.start + 2) 2 :: f.visits.flatMap setAccesses
            else if f.serviceId = PF_DCP_SERVICE_GET then
              (List.range (f.getsFrom f.start).length).map fun i => .read (f.start + 2 * i) 2
            else [])
        else [])
    else [])

/-! ## An Identify -/

/-- The length that a block is compared over, if it is compared. -/
def comparedLength (dev : Device) (st : Scan) (v : Visit) : Option ℕ :=
  match dcpGetReq dev.machine dev.ase v.option v.subOption with
  | .ok value =>
    if v.option = PF_DCP_OPT_IP then
      if st.filter ∧ (v.subOption = PF_DCP_SUB_IP_MAC ∨ v.subOption = PF_DCP_SUB_IP_PAR) then
        some value.length
      else none
    else if v.option = PF_DCP_OPT_DEVICE_PROPERTIES then
      if v.subOption = PF_DCP_SUB_DEV_PROP_NAME then some v.blockLength
      else if st.filter ∧ isComparedProperty v.subOption then some value.length
      else none
    else if v.option = PF_DCP_OPT_DHCP ∧ st.filter then some value.length
    else none
  | .error _ =>
    if isAliasBlock v ∧ v.blockLength < PF_ALIAS_NAME_MAX_SIZE then some v.blockLength else none

/-- The loop goes on to the next header. -/
def goesOn (dev : Device) (v : Visit) : Bool :=
  (dcpGetReq dev.machine dev.ase v.option v.subOption).toBool ∨ isAliasBlock v

/-- One turn of the loop. -/
def examineAccesses (dev : Device) (st : Scan) (v : Visit) : List Access :=
  .read (v.pos - 4) 2 ::
    ((comparedLength dev st v).elim [] (fun len => [.read v.pos len, .hand v v.pos len]) ++
      if goesOn dev v then [.read (v.next - 2) 2] else [])

/-- The blocks that the loop examines, with the variables before each. -/
def examined (dev : Device) (f : Frame) : List Visit → Scan → List (Scan × Visit)
  | [], _ => []
  | v :: vs, st =>
    if st.continues then (st, v) :: examined dev f vs (examine dev f st v) else []

/-- The accesses of `pf_dcp_identify_req`. -/
def identifyAccesses (hasBuffer : Bool) (dev : Device) (f : Frame) : List Access :=
  .read (f.dcpHdrPos + 8) 2 ::
    (if f.dcplen ≤ f.len ∧ hasBuffer then
      .read 6 6 :: .read f.dcpHdrPos PF_DCP_HEADER_SIZE :: .read (f.start + 2) 2 ::
        (examined dev f f.visits .start).flatMap fun x => examineAccesses dev x.1 x.2
    else [])

/-! ## Blocks that are read inside -/

/-- The frame holds the header behind the block, the block holds its qualifier where its value is
handed on, and a suite of addresses is followed by 16 bytes. -/
def SetInside (f : Frame) (v : Visit) : Prop :=
  v.next ≤ f.len ∧ (isHandedOn v = true → 2 ≤ v.blockLength) ∧
    (isIpBlock v PF_DCP_SUB_IP_SUITE = true → v.pos + 30 ≤ f.len)

/-- The block is not shorter than the value it is compared with, and the frame holds the header
behind it. -/
def ExamineInside (dev : Device) (f : Frame) (st : Scan) (v : Visit) : Prop :=
  (∀ len, comparedLength dev st v = some len → len ≤ v.blockLength) ∧
    (goesOn dev v = true → v.next ≤ f.len)

/-- The frame holds the DCP header, and for an accepted Set that of a first block. -/
def GetSetInside (hasBuffer accepted : Bool) (f : Frame) : Prop :=
  f.start ≤ f.len ∧
    (f.dcplen ≤ f.len ∧ hasBuffer = true ∧ accepted = true ∧ f.serviceId = PF_DCP_SERVICE_SET →
      f.start + 4 ≤ f.len ∧ ∀ v ∈ f.visits, SetInside f v)

def IdentifyInside (hasBuffer : Bool) (dev : Device) (f : Frame) : Prop :=
  f.start ≤ f.len ∧
    (f.dcplen ≤ f.len ∧ hasBuffer = true →
      f.start + 4 ≤ f.len ∧
        ∀ x ∈ examined dev f f.visits .start, ExamineInside dev f x.1 x.2)

/-! ## Visited blocks -/

section
variable {f : Frame} {v : Visit}

/-- A visited block is behind the header and in the DCP data. -/
theorem mem_visitsFrom (pos : ℕ) : v ∈ f.visitsFrom pos →
    pos ≤ v.pos ∧ v.pos + v.blockLength ≤ f.dcplen ∧ v.blockLength < 2 ^ 16 := by
  induction pos using Frame.visitsFrom.induct f with
  | case1 pos hroom ih =>
    intro hv
    rw [Frame.visitsFrom, if_pos hroom] at hv
    have hpos : (f.blockAt pos).pos = pos := rfl
    rcases List.mem_cons.mp hv with rfl | hv
    · exact ⟨le_refl _, hroom, BitVec.isLt _⟩
    · rcases ih hv with ⟨hle, hrest⟩
      have hlt := (f.blockAt pos).lt_next
      exact ⟨by omega, hrest⟩
  | case2 pos hroom =>
    intro hv
    rw [Frame.visitsFrom, if_neg hroom] at hv
    cases hv

theorem mem_visits (hv : v ∈ f.visits) :
    f.start + 4 ≤ v.pos ∧ v.pos + v.blockLength ≤ f.dcplen ∧ v.blockLength < 2 ^ 16 :=
  mem_visitsFrom _ hv

/-- The loop ends: it visits at most one block for each byte. -/
theorem visitsFrom_length (pos : ℕ) : (f.visitsFrom pos).length ≤ f.dcplen + 1 - pos := by
  induction pos using Frame.visitsFrom.induct f with
  | case1 pos hroom ih =>
    have hpos : (f.blockAt pos).pos = pos := rfl
    have hlt := (f.blockAt pos).lt_next
    rw [Frame.visitsFrom, if_pos hroom, List.length_cons]
    omega
  | case2 pos hroom =>
    rw [Frame.visitsFrom, if_neg hroom]
    exact Nat.zero_le _

/-- The options of a Get are in the DCP data. -/
theorem getsFrom_length (pos : ℕ) : (f.getsFrom pos).length = (f.dcplen - pos) / 2 := by
  induction pos using Frame.getsFrom.induct f with
  | case1 pos hroom ih =>
    rw [Frame.getsFrom, if_pos hroom, List.length_cons, ih]
    omega
  | case2 pos hroom =>
    rw [Frame.getsFrom, if_neg hroom, List.length_nil]
    omega

theorem mem_examined {dev : Device} {x : Scan × Visit} (vs : List Visit) :
    ∀ st, x ∈ examined dev f vs st → x.2 ∈ vs := by
  induction vs with
  | nil =>
    intro st hx
    cases hx
  | cons w vs ih =>
    intro st hx
    unfold examined at hx
    split at hx
    · rcases List.mem_cons.mp hx with rfl | hx
      · exact List.mem_cons_self ..
      · exact List.mem_cons_of_mem _ (ih _ hx)
    · cases hx

/-! ## One block -/

theorem valueLength_add (hsmall : v.blockLength < 2 ^ 16) :
    2 + v.valueLength ≤ v.blockLength ↔ 2 ≤ v.blockLength := by
  unfold Visit.valueLength
  omega

theorem valueLength_eq (hlen : 2 ≤ v.blockLength) (hsmall : v.blockLength < 2 ^ 16) :
    v.valueLength + 2 = v.blockLength := by
  unfold Visit.valueLength
  omega

theorem next_bounds (v : Visit) : v.pos + v.blockLength + 4 ≤ v.next := by
  have h := le_aligned (v.pos + v.blockLength)
  simp only [Visit.next, PF_DCP_BLOCK_HDR_SIZE]
  omega

/-- The value of a block, once the header behind it is in the frame. -/
theorem setValueAccesses_inside_iff (hnext : v.next ≤ f.len) (hsmall : v.blockLength < 2 ^ 16) :
    AllInside f (setValueAccesses v) ↔ (isHandedOn v = true → 2 ≤ v.blockLength) ∧
      (isIpBlock v PF_DCP_SUB_IP_SUITE = true → v.pos + 30 ≤ f.len) := by
  have hbounds := next_bounds v
  have hip (sub : Byte) (h : isIpBlock v sub = true) : v.blockLength = 14 := by
    have hlen := (of_decide_eq_true h).2.2
    unfold Visit.valueLength at hlen
    simp only [ipSuiteSize] at hlen
    omega
  unfold setValueAccesses
  rw [allInside_append, allInside_append]
  have haddress : AllInside f (if isIpBlock v PF_DCP_SUB_IP_PAR then
      [.read (v.pos + 2) ipSuiteSize, .hand v (v.pos + 2) ipSuiteSize]
      else if isIpBlock v PF_DCP_SUB_IP_SUITE then
        [.read (v.pos + 2) fullIpSuiteSize, .hand v (v.pos + 2) ipSuiteSize]
      else []) ↔ (isIpBlock v PF_DCP_SUB_IP_SUITE = true → v.pos + 30 ≤ f.len) := by
    cases hpar : isIpBlock v PF_DCP_SUB_IP_PAR with
    | true =>
      have hlen := hip _ hpar
      have hnot : isIpBlock v PF_DCP_SUB_IP_SUITE = false := by
        apply decide_eq_false
        rintro ⟨-, hsub, -⟩
        have hsub' := (of_decide_eq_true hpar).2.1
        rw [hsub] at hsub'
        revert hsub'
        decide
      rw [if_pos rfl, allInside_cons, allInside_cons, hnot]
      refine iff_of_true ⟨.inr ?_, ⟨?_, ?_⟩, allInside_nil f⟩ (fun h => Bool.noConfusion h)
      · simp only [ipSuiteSize]
        omega
      · omega
      · simp only [ipSuiteSize]
        omega
    | false =>
      rw [if_neg Bool.false_ne_true]
      cases hsuite : isIpBlock v PF_DCP_SUB_IP_SUITE with
      | true =>
        have hlen := hip _ hsuite
        rw [if_pos rfl, allInside_cons, allInside_cons]
        simp only [Access.Inside, fullIpSuiteSize, ipSuiteSize, true_imp_iff]
        constructor
        · rintro ⟨hread, -⟩
          omega
        · intro h
          exact ⟨.inr (by omega), ⟨by omega, by omega⟩, allInside_nil f⟩
      | false =>
        rw [if_neg Bool.false_ne_true]
        exact iff_of_true (allInside_nil f) (fun h => Bool.noConfusion h)
  rw [haddress]
  have hvalue : AllInside f (if isHandedOn v then [.hand v (v.pos + 2) v.valueLength] else []) ↔
      (isHandedOn v = true → 2 ≤ v.blockLength) := by
    cases isHandedOn v with
    | true =>
      rw [if_pos rfl, allInside_cons, ← valueLength_add hsmall]
      simp only [Access.Inside, true_imp_iff]
      constructor
      · rintro ⟨⟨-, h⟩, -⟩
        omega
      · intro h
        exact ⟨⟨by omega, by omega⟩, allInside_nil f⟩
    | false =>
      rw [if_neg Bool.false_ne_true]
      exact iff_of_true (allInside_nil f) (fun h => Bool.noConfusion h)
  rw [hvalue, and_assoc, and_comm, and_assoc]
  -- the characters are in front of the next header
  constructor
  · rintro ⟨h, -, hsuite⟩
    exact ⟨h, hsuite⟩
  · rintro ⟨h, hsuite⟩
    refine ⟨h, ?_, hsuite⟩
    split
    · rename_i hname
      have hhanded : isHandedOn v = true := by
        unfold isHandedOn
        exact decide_eq_true (.inl hname.1)
      have hlen := valueLength_eq (h hhanded) hsmall
      rw [allInside_cons]
      refine ⟨.inr ?_, allInside_nil f⟩
      omega
    · exact allInside_nil f

theorem setAccesses_inside_iff (hpos : 4 ≤ v.pos) (hroom : v.pos + v.blockLength ≤ f.len)
    (hsmall : v.blockLength < 2 ^ 16) : AllInside f (setAccesses v) ↔ SetInside f v := by
  have hbounds := next_bounds v
  unfold setAccesses SetInside
  rw [allInside_cons, allInside_cons, allInside_append, allInside_cons]
  simp only [Access.Inside]
  constructor
  · rintro ⟨-, -, hvalue, hheader, -⟩
    have hnext : v.next ≤ f.len := by omega
    exact ⟨hnext, (setValueAccesses_inside_iff hnext hsmall).mp hvalue⟩
  · rintro ⟨hnext, hvalue⟩
    refine ⟨.inr (by omega), .inr (by omega), ?_, .inr (by omega), allInside_nil f⟩
    exact (setValueAccesses_inside_iff hnext hsmall).mpr hvalue

theorem examineAccesses_inside_iff (dev : Device) (st : Scan) (hpos : 4 ≤ v.pos)
    (hroom : v.pos + v.blockLength ≤ f.len) :
    AllInside f (examineAccesses dev st v) ↔ ExamineInside dev f st v := by
  have hbounds := next_bounds v
  unfold examineAccesses ExamineInside
  rw [allInside_cons, allInside_append]
  have hheader : AllInside f (if goesOn dev v then [.read (v.next - 2) 2] else []) ↔
      (goesOn dev v = true → v.next ≤ f.len) := by
    cases goesOn dev v with
    | true =>
      rw [if_pos rfl, allInside_cons]
      simp only [Access.Inside, true_imp_iff]
      constructor
      · rintro ⟨h, -⟩
        omega
      · intro h
        exact ⟨.inr (by omega), allInside_nil f⟩
    | false =>
      rw [if_neg Bool.false_ne_true]
      exact iff_of_true (allInside_nil f) (fun h => Bool.noConfusion h)
  have hvalue : AllInside f ((comparedLength dev st v).elim []
      (fun len => [.read v.pos len, .hand v v.pos len])) ↔
        ∀ len, comparedLength dev st v = some len → len ≤ v.blockLength := by
    cases comparedLength dev st v with
    | none => exact iff_of_true (allInside_nil f) (fun len h => by cases h)
    | some n =>
      simp only [Option.elim_some, Option.some.injEq, forall_eq']
      rw [allInside_cons, allInside_cons]
      simp only [Access.Inside]
      constructor
      · rintro ⟨-, ⟨-, h⟩, -⟩
        omega
      · intro h
        exact ⟨.inr (by omega), ⟨le_refl _, by omega⟩, allInside_nil f⟩
  rw [hheader, hvalue]
  refine and_iff_right (.inr ?_)
  omega

end

/-! ## One frame -/

theorem start_eq (f : Frame) : f.start = f.dcpHdrPos + 10 := rfl

theorem le_start (f : Frame) : 26 ≤ f.start := by
  simp only [Frame.start, Frame.dcpHdrPos, Frame.frameIdPos, PF_DCP_HEADER_SIZE]
  omega

/-- The options of a Get are inside. -/
theorem gets_inside {f : Frame} (hlen : f.dcplen ≤ f.len) :
    AllInside f ((List.range (f.getsFrom f.start).length).map
      fun i => .read (f.start + 2 * i) 2) := by
  rw [getsFrom_length]
  intro a ha
  rcases List.mem_map.mp ha with ⟨i, hi, rfl⟩
  rw [List.mem_range] at hi
  right
  omega

theorem visits_inside_iff {f : Frame} (hlen : f.dcplen ≤ f.len) :
    AllInside f (f.visits.flatMap setAccesses) ↔ ∀ v ∈ f.visits, SetInside f v := by
  rw [allInside_flatMap]
  refine forall₂_congr fun v hv => ?_
  rcases mem_visits hv with ⟨hpos, hroom, hsmall⟩
  exact setAccesses_inside_iff (by omega) (by omega) hsmall

theorem getSetAccesses_inside_iff (hasBuffer accepted : Bool) (f : Frame) :
    AllInside f (getSetAccesses hasBuffer accepted f) ↔ GetSetInside hasBuffer accepted f := by
  have hstart := le_start f
  have heq := start_eq f
  have hget : PF_DCP_SERVICE_GET ≠ PF_DCP_SERVICE_SET := by decide
  unfold getSetAccesses GetSetInside
  rw [allInside_cons]
  have hfirst : (Access.read (f.dcpHdrPos + 8) 2).Inside f ↔ f.start ≤ f.len := by
    simp only [Access.Inside]
    omega
  rw [hfirst]
  refine and_congr_right fun hheader => ?_
  by_cases hgo : f.dcplen ≤ f.len ∧ hasBuffer = true ∧ accepted = true
  · rcases hgo with ⟨hlen, hbuffer, haccepted⟩
    rw [if_pos ⟨hlen, hbuffer⟩, if_pos haccepted, allInside_cons, allInside_cons]
    rw [and_iff_right (show (Access.read 0 12).Inside f from .inr (by omega)),
      and_iff_right (show (Access.read f.dcpHdrPos PF_DCP_HEADER_SIZE).Inside f from
        .inr (by simp only [PF_DCP_HEADER_SIZE]; omega))]
    by_cases hset : f.serviceId = PF_DCP_SERVICE_SET
    · rw [if_pos hset, allInside_cons, visits_inside_iff hlen]
      have hblock : (Access.read (f.start + 2) 2).Inside f ↔ f.start + 4 ≤ f.len := by
        simp only [Access.Inside]
        omega
      rw [hblock]
      exact ⟨fun h _ => h, fun h => h ⟨hlen, hbuffer, haccepted, hset⟩⟩
    · rw [if_neg hset]
      refine iff_of_true ?_ (fun h => absurd h.2.2.2 hset)
      split
      · exact gets_inside hlen
      · exact allInside_nil f
  · refine iff_of_true ?_ (fun h => absurd ⟨h.1, h.2.1, h.2.2.1⟩ hgo)
    split
    · rename_i hbuffer
      rw [allInside_cons, if_neg (fun h => hgo ⟨hbuffer.1, hbuffer.2, h⟩)]
      exact ⟨.inr (by omega), allInside_nil f⟩
    · exact allInside_nil f

theorem identifyAccesses_inside_iff (hasBuffer : Bool) (dev : Device) (f : Frame) :
    AllInside f (identifyAccesses hasBuffer dev f) ↔ IdentifyInside hasBuffer dev f := by
  have hstart := le_start f
  have heq := start_eq f
  unfold identifyAccesses IdentifyInside
  rw [allInside_cons]
  have hfirst : (Access.read (f.dcpHdrPos + 8) 2).Inside f ↔ f.start ≤ f.len := by
    simp only [Access.Inside]
    omega
  rw [hfirst]
  refine and_congr_right fun hheader => ?_
  by_cases hgo : f.dcplen ≤ f.len ∧ hasBuffer = true
  · rw [if_pos hgo, allInside_cons, allInside_cons, allInside_cons, allInside_flatMap]
    rw [and_iff_right (show (Access.read 6 6).Inside f from .inr (by omega)),
      and_iff_right (show (Access.read f.dcpHdrPos PF_DCP_HEADER_SIZE).Inside f from
        .inr (by simp only [PF_DCP_HEADER_SIZE]; omega))]
    have hblock : (Access.read (f.start + 2) 2).Inside f ↔ f.start + 4 ≤ f.len := by
      simp only [Access.Inside]
      omega
    have hexamined : (∀ x ∈ examined dev f f.visits .start,
        AllInside f (examineAccesses dev x.1 x.2)) ↔
          ∀ x ∈ examined dev f f.visits .start, ExamineInside dev f x.1 x.2 := by
      refine forall₂_congr fun x hx => ?_
      rcases mem_visits (mem_examined _ _ hx) with ⟨hpos, hroom, -⟩
      have hlen := hgo.1
      exact examineAccesses_inside_iff dev x.1 (by omega) (by omega)
    rw [hblock, hexamined]
    exact ⟨fun h _ => h, fun h => h hgo⟩
  · rw [if_neg hgo]
    exact iff_of_true (allInside_nil f) (fun h => absurd h hgo)

/-- The loops over a frame end, and what they read is inside if and only if the frame and its blocks
hold what is taken out of them. -/
theorem parsing_inside_iff (hasBuffer accepted : Bool) (dev : Device) (f : Frame) :
    (f.visits.length ≤ f.dcplen ∧ (f.getsFrom f.start).length ≤ f.dcplen) ∧
      (AllInside f (getSetAccesses hasBuffer accepted f) ↔ GetSetInside hasBuffer accepted f) ∧
      (AllInside f (identifyAccesses hasBuffer dev f) ↔ IdentifyInside hasBuffer dev f) := by
  have hstart := le_start f
  have hvisits := @visitsFrom_length f (f.start + PF_DCP_BLOCK_HDR_SIZE)
  have hgets := @getsFrom_length f f.start
  refine ⟨⟨?_, ?_⟩, getSetAccesses_inside_iff _ _ _, identifyAccesses_inside_iff _ _ _⟩
  · simp only [PF_DCP_BLOCK_HDR_SIZE] at hvisits
    unfold Frame.visits
    simp only [PF_DCP_BLOCK_HDR_SIZE]
    omega
  · omega

/-! ## A name in a block without a qualifier -/

namespace EmptyBlock

/-- A Set of the name whose block length is 0. -/
def frame : Frame where
  bytes i := if i = 16 then PF_DCP_SERVICE_SET else if i = 25 then 4
    else if i = 26 ∨ i = 27 then 2 else 0
  len := 60
  len_le := shortest_le
  vlanTags := 0

end EmptyBlock

open EmptyBlock in
/-- 65534 bytes are handed to `pf_cmina_dcp_set_ind`. -/
theorem not_inside_empty_block : ¬ AllInside frame (getSetAccesses true true frame) := by
  rw [getSetAccesses_inside_iff]
  rintro ⟨-, h⟩
  rcases h (by decide +kernel) with ⟨-, hvisits⟩
  have hblock := (hvisits ⟨2, 2, 30, 0⟩ (by decide +kernel)).2.1 (by decide)
  revert hblock
  decide

end PNet.Dcp
