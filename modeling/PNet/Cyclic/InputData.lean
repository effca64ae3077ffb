import Mathlib.Order.Interval.Finset.Nat
import PNet.Connect.Disjoint
import PNet.Cyclic.Transmitters

/-! # Input data from the application to the frame

The application sets data, IOPS and IOCS of its submodules, and the PPM of the input CR sends
frames. `pf_ppm_finish_buffer` copies as many bytes of the buffer to a frame as the lengths of the
areas sum up to, from the first one on.

* `delivers_iff`: each frame has the bytes that were set last, at the place of each area, exactly
  when the frames fit their buffer, no submodule has its IOCS on its own bytes, and the areas have
  no gaps.
-/

namespace PNet.Connect

/-- One of the three areas of a descriptor. -/
inductive Part where
  | data
  | iops
  | iocs
deriving DecidableEq, Repr

end PNet.Connect

namespace PNet.Cyclic

open Connect Connect.Layout Block

def IodataObject.area (d : IodataObject) : Part → Area
  | .data => d.data
  | .iops => d.iops
  | .iocs => d.iocs

theorem IodataObject.mem_areas {d : IodataObject} {a : Area} :
    a ∈ d.areas ↔ ∃ part, a = d.area part := by
  simp only [areas, List.mem_cons, List.not_mem_nil, or_false]
  constructor
  · rintro (rfl | rfl | rfl)
    · exact ⟨.data, rfl⟩
    · exact ⟨.iops, rfl⟩
    · exact ⟨.iocs, rfl⟩
  · rintro ⟨part, rfl⟩
    cases part
    · exact .inl rfl
    · exact .inr (.inl rfl)
    · exact .inr (.inr rfl)

theorem IodataObject.Inside.area {d : IodataObject} {cSduLength : BitVec 16}
    (h : d.Inside cSduLength) (part : Part) :
    (d.area part).start + (d.area part).length ≤ cSduLength.toNat :=
  h _ (mem_areas.mpr ⟨part, rfl⟩)

/-! ## The calls of the application -/

section
variable (crs : List (IocrParam × Layout)) (crep : ℕ)

/-- `pf_ppm_get_ar_iocr_desc`, for a subslot of the AR: the CREP and the descriptor. -/
def getArIocrDesc (loc : Location) : Option (ℕ × IodataObject) :=
  crs.zipIdx.findSome? fun (cr, crep) =>
    if cr.1.iocrType = PF_IOCR_TYPE_INPUT ∨ cr.1.iocrType = PF_IOCR_TYPE_MC_PROVIDER then
      (getDesc cr.2 loc).map fun d => (crep, d)
    else none

namespace Ppm

/-- `pf_ppm_set_data_and_iops`: what it returns, and the PPM of the CR `crep` after it. -/
def setDataAndIops (y : Ppm) (loc : Location) (null : Bool) (data iops : List Byte) : ℤ × Ppm :=
  match getArIocrDesc crs loc with
  | none => (-1, y)
  | some (c, d) =>
    if data.length = d.dataLength ∧ iops.length = d.iopsLength then
      (0, if c = crep then y.writeDataAndIops d (pointer null data) iops else y)
    else (-1, y)

/-- `pf_ppm_set_iocs`. -/
def setIocs (y : Ppm) (loc : Location) (iocs : List Byte) : ℤ × Ppm :=
  match getArIocrDesc crs loc with
  | none => (-1, y)
  | some (c, d) =>
    if iocs.length = d.iocsLength then (0, if c = crep then y.writeIocs d iocs else y)
    else if d.iocsLength = 0 then (0, y)
    else (-1, y)

end Ppm

/-! ## Runs -/

/-- What happens to a CR of the AR. The calls of the application are about subslots of the AR. -/
inductive InputEvent where
  | create (sa da : Vector Byte 6) (allocated : Bool)
  | activate (now : BitVec 32) (added : Bool)
  | send (now : BitVec 32) (sent added : Bool)
  | close
  | setDataAndIops (loc : Location) (null : Bool) (data iops : List Byte)
  | setIocs (loc : Location) (iocs : List Byte)
  | setDataStatus (bit : ℕ) (on : Bool)

/-- The subslot that the application sets. -/
def InputEvent.subslot : InputEvent → Option Location
  | .setDataAndIops loc _ _ _ | .setIocs loc _ => some loc
  | _ => none

/-- The PPM of a CR, and what the application has set last. -/
structure InputCr where
  ppm : Ppm
  lastSet : Location → Part → Option (List Byte)

namespace InputCr

/-- Nothing has been created, and nothing has been set. -/
def start : InputCr := ⟨Ppm.cleared, fun _ _ => none⟩

/-- The bytes are the last ones. -/
def note (last : Location → Part → Option (List Byte)) (loc : Location) (part : Part)
    (bytes : List Byte) : Location → Part → Option (List Byte) := fun l i =>
  if l = loc ∧ i = part then some bytes else last l i

variable (p : IocrParam) (x : Layout)

def step (s : InputCr) : InputEvent → InputCr
  | .create sa da allocated => { s with ppm := (s.ppm.create sa da p allocated).2 }
  | .activate now added => { s with ppm := (s.ppm.activateReq x.inLength now added).2 }
  | .send now sent added => { s with ppm := (s.ppm.drvSwSend x.inLength now sent added).2.2 }
  | .close => { s with ppm := s.ppm.closeReq }
  | .setDataAndIops loc null data iops =>
    let r := s.ppm.setDataAndIops crs crep loc null data iops
    if r.1 = 0 then
      ⟨r.2, note (if null then s.lastSet else note s.lastSet loc .data data) loc .iops iops⟩
    else ⟨r.2, s.lastSet⟩
  | .setIocs loc iocs =>
    let r := s.ppm.setIocs crs crep loc iocs
    if r.1 = 0 then ⟨r.2, note s.lastSet loc .iocs iocs⟩ else ⟨r.2, s.lastSet⟩
  | .setDataStatus bit on => { s with ppm := s.ppm.setDataStatus bit on }

/-- After the events. -/
def after (es : List InputEvent) : InputCr := es.foldl (step crs crep p x) start

/-- `g` is the next frame that is sent. -/
def Sends (s : InputCr) (g : Frame) : Prop :=
  ∃ now sent added, (s.ppm.drvSwSend x.inLength now sent added).1 = some g

/-- The frame is whole, and has the bytes that have been set last. -/
structure Delivers (s : InputCr) (g : Frame) : Prop where
  whole : g.len.toNat = 20 + p.cSduLength.toNat + 4
  inBuffer : g.len.toNat ≤ PF_FRAME_BUFFER_SIZE
  bytes : ∀ d ∈ x.dataDesc, ∀ part v, s.lastSet d.location part = some v →
    ∀ i < (d.area part).length, v[i]? = some (g.payload (20 + (d.area part).start + i))

/-- The bytes of the other subslots are the same in both frames. -/
def SameOthers (loc : Location) (g g' : Frame) : Prop :=
  ∀ d ∈ x.dataDesc, d.location ≠ loc → ∀ part k, (d.area part).Has k →
    g'.payload (20 + k) = g.payload (20 + k)

/-- From the application to the frame, in all runs. -/
structure EndToEnd : Prop where
  delivers : ∀ es g, (after crs crep p x es).Sends x g → Delivers p x (after crs crep p x es) g
  others : ∀ es e loc g g', e.subslot = some loc → (after crs crep p x es).Sends x g →
    (after crs crep p x (es ++ [e])).Sends x g' → SameOthers x loc g g'

end InputCr

end

/-! ## What a request asks for -/

/-- The bytes that a data object takes. -/
def dataTaken (expApis : List ExpApi) (dir : BitVec 16) (m : Mention) : ℕ :=
  match descriptorOf expApis dir .PF_DEV_STATUS_TYPE_IOPS m with
  | none => 0
  | some (sub, desc) => (dataBytes dir m sub desc).length

/-- The bytes that an IOCS takes. -/
def iocsTaken (expApis : List ExpApi) (dir : BitVec 16) (m : Mention) : ℕ :=
  match descriptorOf expApis dir .PF_DEV_STATUS_TYPE_IOCS m with
  | none => 0
  | some (sub, desc) => (iocsBytes m sub desc).length

/-- The bytes that the CR takes in all. -/
def takenLength (expApis : List ExpApi) (p : IocrParam) : ℕ :=
  (p.dataMentions.map (dataTaken expApis p.dir)).sum +
    (p.iocsMentions.map (iocsTaken expApis p.dir)).sum

/-- No byte of the CR lies behind as many bytes as the CR takes: between the areas and before the
first one there are no gaps. -/
structure Compact (expApis : List ExpApi) (p : IocrParam) : Prop where
  data : ∀ m ∈ p.dataMentions, ∀ sub desc,
    descriptorOf expApis p.dir .PF_DEV_STATUS_TYPE_IOPS m = some (sub, desc) →
    ∀ k, (dataBytes p.dir m sub desc).Has k → k < takenLength expApis p
  iocs : ∀ m ∈ p.iocsMentions, ∀ sub desc,
    descriptorOf expApis p.dir .PF_DEV_STATUS_TYPE_IOCS m = some (sub, desc) →
    ∀ k, (iocsBytes m sub desc).Has k → k < takenLength expApis p

/-! ## The send buffer -/

namespace Ppm

variable {p : IocrParam} {n : BitVec 16} {y z : Ppm}

/-- There is no send buffer, or one that is ready. -/
def Buffered (p : IocrParam) (n : BitVec 16) (y : Ppm) : Prop := y.sendBuffer = none ∨ y.Ready p n

theorem Buffered.of_alike (h : Buffered p n y) (hz : Alike y z) : Buffered p n z := by
  rcases h with hnone | hready
  · exact .inl (hz.sendBuffer.trans hnone)
  · exact .inr (hready.of_same hz.bufferPos hz.cycleCounterOffset hz.dataStatusOffset
      hz.transferStatusOffset hz.sendBuffer)

theorem finishBuffer_eq_none : (y.finishBuffer n).sendBuffer = none ↔ y.sendBuffer = none := by
  unfold Ppm.finishBuffer
  dsimp only
  cases hbuffer : y.sendBuffer with
  | none => exact iff_of_true rfl rfl
  | some f => exact iff_of_false (Option.some_ne_none _) (Option.some_ne_none _)

theorem Buffered.finishBuffer (h : Buffered p n y) : Buffered p n (y.finishBuffer n) := by
  rcases h with hnone | hready
  · exact .inl (finishBuffer_eq_none.mpr hnone)
  · exact .inr (finishBuffer_carries hready).1

theorem Buffered.create (h : Buffered p n y) (hfits : Fits p) (sa da : Vector Byte 6)
    (allocated : Bool) : Buffered p n (y.create sa da p allocated).2 := by
  cases hstate : y.state with
  | PF_PPM_STATE_RUN =>
    unfold Ppm.create
    rw [hstate]
    exact h
  | PF_PPM_STATE_W_START =>
    cases allocated with
    | true => exact .inr (create_ready hfits hstate sa da n)
    | false =>
      left
      unfold Ppm.create
      rw [hstate]
      rfl

/-- The PPM that activates has the same buffers. -/
theorem Buffered.of_same (h : Buffered p n y) (hpos : z.bufferPos = y.bufferPos)
    (hcc : z.cycleCounterOffset = y.cycleCounterOffset)
    (hds : z.dataStatusOffset = y.dataStatusOffset)
    (hts : z.transferStatusOffset = y.transferStatusOffset)
    (hbuf : z.sendBuffer = y.sendBuffer) : Buffered p n z := by
  rcases h with hnone | hready
  · exact .inl (hbuf.trans hnone)
  · exact .inr (hready.of_same hpos hcc hds hts hbuf)

theorem Buffered.activateReq (h : Buffered p n y) (now : BitVec 32) (added : Bool) :
    Buffered p n (y.activateReq n now added).2 := by
  cases hstate : y.state with
  | PF_PPM_STATE_RUN =>
    rw [Ppm.activateReq, hstate]
    exact h
  | PF_PPM_STATE_W_START =>
    set z : Ppm := { y with
      nextExec := now + y.controlInterval, state := .PF_PPM_STATE_RUN, ciRunning := true }
    have hz : (y.activateReq n now added).2 = z.finishBuffer n := by
      rw [Ppm.activateReq, hstate]
    have hbuffered : Buffered p n z := h.of_same rfl rfl rfl rfl rfl
    rw [hz]
    exact hbuffered.finishBuffer

theorem drvSwSend_cases (y : Ppm) (n : BitVec 16) (now : BitVec 32) (sent added : Bool) :
    (y.ciRunning = false ∧ y.drvSwSend n now sent added = (none, none, y)) ∨
      (y.ciRunning = true ∧ (y.drvSwSend n now sent added).1 = (y.finishBuffer n).sendBuffer ∧
        Alike (y.finishBuffer n) (y.drvSwSend n now sent added).2.2 ∧
        (y.drvSwSend n now sent added).2.2.bufferData = y.bufferData) := by
  unfold Ppm.drvSwSend
  cases hrunning : y.ciRunning with
  | false => exact .inl ⟨rfl, rfl⟩
  | true =>
    right
    have hbuf := (finishBuffer_same y n).1
    cases sent with
    | false => exact ⟨rfl, rfl, ⟨rfl, rfl, rfl, rfl, rfl, rfl, rfl⟩, hbuf⟩
    | true => cases added <;> exact ⟨rfl, rfl, ⟨rfl, rfl, rfl, rfl, rfl, rfl, rfl⟩, hbuf⟩

theorem Buffered.drvSwSend (h : Buffered p n y) (now : BitVec 32) (sent added : Bool) :
    Buffered p n (y.drvSwSend n now sent added).2.2 := by
  rcases drvSwSend_cases y n now sent added with ⟨_, hsame⟩ | ⟨_, _, halike, _⟩
  · rw [hsame]
    exact h
  · exact h.finishBuffer.of_alike halike

/-- The next frame, if there is one. -/
theorem Buffered.sends (h : Buffered p n y) {now : BitVec 32} {sent added : Bool} {g : Frame}
    (hg : (y.drvSwSend n now sent added).1 = some g) :
    g.len.toNat = 20 + p.cSduLength.toNat + 4 ∧ Carries p n y g := by
  rcases drvSwSend_cases y n now sent added with ⟨_, hsame⟩ | ⟨_, hframe, _, _⟩
  · rw [hsame] at hg
    cases hg
  · rw [hframe] at hg
    rcases h with hnone | hready
    · rw [finishBuffer_eq_none.mpr hnone] at hg
      cases hg
    · rcases finishBuffer_carries hready with ⟨_, g', hg', hlen, hcarries⟩
      obtain rfl := Option.some.inj (hg'.symm.trans hg)
      exact ⟨hlen, hcarries⟩

end Ppm

/-! ## The buffer of the application -/

/-- Different areas of a CR have no byte in common. -/
def Separate (x : Layout) : Prop :=
  ∀ d ∈ x.dataDesc, ∀ e ∈ x.dataDesc, ∀ i j, e.location ≠ d.location ∨ j ≠ i →
    (e.area j).Apart (d.area i)

/-- The buffer has the bytes that have been set last. -/
def Buffers (x : Layout) (last : Location → Part → Option (List Byte)) (b : ℕ → Byte) : Prop :=
  ∀ d ∈ x.dataDesc, ∀ part v, last d.location part = some v →
    ∀ i < (d.area part).length, v[i]? = some (b ((d.area part).start + i))

section
variable {x : Layout} {last : Location → Part → Option (List Byte)} {b : ℕ → Byte}
  {d e : IodataObject}

/-- A byte that is not in the area. -/
theorem write_apart {a : Area} {bytes : List Byte} {k : ℕ} (hlen : bytes.length = a.length)
    (h : ¬a.Has k) : Buffer.write b a.start bytes k = b k := by
  apply Buffer.write_outside
  by_contra hin
  exact h ⟨by omega, by omega⟩

theorem Buffers.write (h : Buffers x last b) (hseparate : Separate x)
    (hunique : KeyedList.Unique IodataObject.location x.dataDesc) (hd : d ∈ x.dataDesc) {i : Part}
    {bytes : List Byte} (hlen : bytes.length = (d.area i).length) :
    Buffers x (InputCr.note last d.location i bytes) (Buffer.write b (d.area i).start bytes) := by
  intro e he j v hv k hk
  unfold InputCr.note at hv
  by_cases hsame : e.location = d.location ∧ j = i
  · -- the area that is written
    rw [if_pos hsame] at hv
    obtain rfl := Option.some.inj hv
    obtain rfl : e = d := List.inj_on_of_nodup_map hunique he hd hsame.1
    obtain rfl := hsame.2
    have hlt : k < bytes.length := hk.trans_eq hlen.symm
    rw [Buffer.write_inside hlt, List.getElem?_eq_getElem hlt]
  · rw [if_neg hsame] at hv
    have hapart := hseparate d hd e he i j (not_and_or.mp hsame)
    rw [write_apart hlen (hapart _ ⟨Nat.le_add_right _ _, Nat.add_lt_add_left hk _⟩)]
    exact h e he j v hv k hk

/-- An area that the application does not set. -/
theorem Buffers.note_absent (h : Buffers x last b)
    (hunique : KeyedList.Unique IodataObject.location x.dataDesc) (hd : d ∈ x.dataDesc) {i : Part}
    (hnone : (d.area i).length = 0) (bytes : List Byte) :
    Buffers x (InputCr.note last d.location i bytes) b := by
  intro e he j v hv k hk
  unfold InputCr.note at hv
  by_cases hsame : e.location = d.location ∧ j = i
  · obtain rfl : e = d := List.inj_on_of_nodup_map hunique he hd hsame.1
    obtain rfl := hsame.2
    omega
  · rw [if_neg hsame] at hv
    exact h e he j v hv k hk

end

/-! ## One input CR -/

/-- The CR of the descriptor sends to the controller. -/
theorem getArIocrDesc_some {crs : List (IocrParam × Layout)} {loc : Location} {c : ℕ}
    {d : IodataObject} (hfind : getArIocrDesc crs loc = some (c, d)) :
    ∃ cr, crs[c]? = some cr ∧ (cr.1.iocrType = PF_IOCR_TYPE_INPUT ∨
      cr.1.iocrType = PF_IOCR_TYPE_MC_PROVIDER) ∧ getDesc cr.2 loc = some d := by
  rcases List.exists_of_findSome?_eq_some hfind with ⟨⟨cr, c'⟩, hmem, hcr⟩
  dsimp only at hcr
  by_cases htype : cr.1.iocrType = PF_IOCR_TYPE_INPUT ∨ cr.1.iocrType = PF_IOCR_TYPE_MC_PROVIDER
  · rw [if_pos htype] at hcr
    rcases Option.map_eq_some_iff.mp hcr with ⟨d', hd', heq⟩
    obtain ⟨rfl, rfl⟩ := Prod.mk.inj heq
    exact ⟨cr, List.mk_mem_zipIdx_iff_getElem?.mp hmem, htype, hd'⟩
  · rw [if_neg htype] at hcr
    cases hcr

/-- `p` is the CR `crep` of the AR, the only one with data for the controller. -/
structure OnlyInput (crs : List (IocrParam × Layout)) (crep : ℕ) (p : IocrParam) (x : Layout) :
    Prop where
  here : crs[crep]? = some (p, x)
  input : p.iocrType = PF_IOCR_TYPE_INPUT
  others : ∀ c q, crs[c]? = some q → q.1.iocrType = PF_IOCR_TYPE_INPUT ∨
    q.1.iocrType = PF_IOCR_TYPE_MC_PROVIDER → c = crep

section
variable {crs : List (IocrParam × Layout)} {crep : ℕ} {p : IocrParam} {x : Layout} {loc : Location}
  {d : IodataObject}

theorem OnlyInput.getArIocrDesc_some (h : OnlyInput crs crep p x) {c : ℕ}
    (hfind : getArIocrDesc crs loc = some (c, d)) :
    c = crep ∧ d ∈ x.dataDesc ∧ d.location = loc := by
  rcases Cyclic.getArIocrDesc_some hfind with ⟨cr, hget, htype, hdesc⟩
  obtain rfl := h.others c cr hget htype
  obtain rfl := Option.some.inj (h.here.symm.trans hget)
  have hloc := List.find?_some hdesc
  exact ⟨rfl, getDesc_mem hdesc, (of_decide_eq_true hloc).2⟩

theorem OnlyInput.getArIocrDesc_mem (h : OnlyInput crs crep p x)
    (hunique : KeyedList.Unique IodataObject.location x.dataDesc) (hinUse : d.inUse = true)
    (hd : d ∈ x.dataDesc) : getArIocrDesc crs d.location = some (crep, d) := by
  have hdesc : (getDesc x d.location).isSome = true := by
    unfold getDesc
    rw [List.find?_isSome]
    exact ⟨d, hd, decide_eq_true ⟨hinUse, rfl⟩⟩
  cases hfind : getArIocrDesc crs d.location with
  | none =>
    have hnone := List.findSome?_eq_none_iff.mp hfind ((p, x), crep)
      (List.mk_mem_zipIdx_iff_getElem?.mpr h.here)
    dsimp only at hnone
    rw [if_pos (.inl h.input), Option.map_eq_none_iff] at hnone
    rw [hnone] at hdesc
    cases hdesc
  | some r =>
    rcases r with ⟨c, e⟩
    rcases h.getArIocrDesc_some hfind with ⟨rfl, he, hloc⟩
    obtain rfl : e = d := List.inj_on_of_nodup_map hunique he hd hloc
    rfl

end

/-! ### What a call of the application does -/

section
variable {crs : List (IocrParam × Layout)} {crep : ℕ} {p : IocrParam} {x : Layout} {loc : Location}
  {d : IodataObject} {y : Ppm} {s : InputCr}

theorem OnlyInput.setDataAndIops_cases (h : OnlyInput crs crep p x) (y : Ppm) (loc : Location)
    (null : Bool) (data iops : List Byte) :
    y.setDataAndIops crs crep loc null data iops = (-1, y) ∨
      ∃ d ∈ x.dataDesc, d.location = loc ∧ data.length = d.dataLength ∧ iops.length = d.iopsLength ∧
        y.setDataAndIops crs crep loc null data iops =
          (0, y.writeDataAndIops d (pointer null data) iops) := by
  unfold Ppm.setDataAndIops
  cases hfind : getArIocrDesc crs loc with
  | none => exact .inl rfl
  | some r =>
    rcases r with ⟨c, d⟩
    rcases h.getArIocrDesc_some hfind with ⟨rfl, hd, hloc⟩
    dsimp only
    by_cases hlen : data.length = d.dataLength ∧ iops.length = d.iopsLength
    · right
      rw [if_pos hlen, if_pos rfl]
      exact ⟨d, hd, hloc, hlen.1, hlen.2, rfl⟩
    · left
      rw [if_neg hlen]

theorem OnlyInput.setIocs_cases (h : OnlyInput crs crep p x) (y : Ppm) (loc : Location)
    (iocs : List Byte) :
    y.setIocs crs crep loc iocs = (-1, y) ∨
      ∃ d ∈ x.dataDesc, d.location = loc ∧
        (iocs.length = d.iocsLength ∧ y.setIocs crs crep loc iocs = (0, y.writeIocs d iocs) ∨
          d.iocsLength = 0 ∧ y.setIocs crs crep loc iocs = (0, y)) := by
  unfold Ppm.setIocs
  cases hfind : getArIocrDesc crs loc with
  | none => exact .inl rfl
  | some r =>
    rcases r with ⟨c, d⟩
    rcases h.getArIocrDesc_some hfind with ⟨rfl, hd, hloc⟩
    dsimp only
    by_cases hlen : iocs.length = d.iocsLength
    · right
      rw [if_pos hlen, if_pos rfl]
      exact ⟨d, hd, hloc, .inl ⟨hlen, rfl⟩⟩
    by_cases hnone : d.iocsLength = 0
    · right
      rw [if_neg hlen, if_pos hnone]
      exact ⟨d, hd, hloc, .inr ⟨hnone, rfl⟩⟩
    · left
      rw [if_neg hlen, if_neg hnone]

theorem step_setDataAndIops (s : InputCr) (loc : Location) (null : Bool) (data iops : List Byte) :
    s.step crs crep p x (.setDataAndIops loc null data iops) =
      if (s.ppm.setDataAndIops crs crep loc null data iops).1 = 0 then
        ⟨(s.ppm.setDataAndIops crs crep loc null data iops).2,
          InputCr.note (if null then s.lastSet else InputCr.note s.lastSet loc .data data) loc .iops
            iops⟩
      else ⟨(s.ppm.setDataAndIops crs crep loc null data iops).2, s.lastSet⟩ := rfl

theorem step_setIocs (s : InputCr) (loc : Location) (iocs : List Byte) :
    s.step crs crep p x (.setIocs loc iocs) =
      if (s.ppm.setIocs crs crep loc iocs).1 = 0 then
        ⟨(s.ppm.setIocs crs crep loc iocs).2, InputCr.note s.lastSet loc .iocs iocs⟩
      else ⟨(s.ppm.setIocs crs crep loc iocs).2, s.lastSet⟩ := rfl

/-- Where the data go to. -/
theorem writeDataAndIops_bufferData (y : Ppm) (d : IodataObject) (null : Bool)
    (data iops : List Byte) :
    (y.writeDataAndIops d (pointer null data) iops).bufferData =
      Buffer.write (if null then y.bufferData else Buffer.write y.bufferData d.data.start data)
        d.iops.start iops := by
  cases null <;> rfl

theorem activateReq_bufferData (y : Ppm) (n : BitVec 16) (now : BitVec 32) (added : Bool) :
    (y.activateReq n now added).2.bufferData = y.bufferData := by
  unfold Ppm.activateReq
  cases y.state with
  | PF_PPM_STATE_RUN => rfl
  | PF_PPM_STATE_W_START => exact (Ppm.finishBuffer_same _ _).1

/-- A call sets the bytes that it notes. -/
theorem OnlyInput.step_buffers (h : OnlyInput crs crep p x) (hseparate : Separate x)
    (hunique : KeyedList.Unique IodataObject.location x.dataDesc)
    (hs : Buffers x s.lastSet s.ppm.bufferData) (e : InputEvent) :
    Buffers x (s.step crs crep p x e).lastSet (s.step crs crep p x e).ppm.bufferData := by
  have hkept {z : Ppm} (hz : z.bufferData = s.ppm.bufferData) :
      Buffers x s.lastSet z.bufferData := by
    rw [hz]
    exact hs
  cases e with
  | create sa da allocated => exact hkept (create_same s.ppm sa da allocated).1
  | activate now added => exact hkept (activateReq_bufferData _ _ _ _)
  | send now sent added =>
    rcases Ppm.drvSwSend_cases s.ppm x.inLength now sent added with ⟨_, hsame⟩ | ⟨_, _, _, hbuf⟩
    · exact hkept (congrArg (fun r => r.2.2.bufferData) hsame)
    · exact hkept hbuf
  | close => exact hkept rfl
  | setDataStatus bit on => exact hkept rfl
  | setDataAndIops loc null data iops =>
    rw [step_setDataAndIops]
    rcases h.setDataAndIops_cases s.ppm loc null data iops with hr | ⟨d, hd, rfl, hlen, hlen', hr⟩
    · rw [hr, if_neg (show (-1 : ℤ) ≠ 0 by decide)]
      exact hs
    · rw [hr, if_pos rfl]
      dsimp only
      rw [writeDataAndIops_bufferData]
      apply Buffers.write (i := .iops) _ hseparate hunique hd hlen'
      cases null with
      | true => exact hs
      | false => exact hs.write (i := .data) hseparate hunique hd hlen
  | setIocs loc iocs =>
    rw [step_setIocs]
    rcases h.setIocs_cases s.ppm loc iocs with hr | ⟨d, hd, rfl, ⟨hlen, hr⟩ | ⟨hnone, hr⟩⟩
    · rw [hr, if_neg (show (-1 : ℤ) ≠ 0 by decide)]
      exact hs
    · rw [hr, if_pos rfl]
      exact hs.write (i := .iocs) hseparate hunique hd hlen
    · rw [hr, if_pos rfl]
      exact hs.note_absent hunique hd (i := .iocs) hnone iocs

/-- A call changes no byte of another subslot. -/
theorem OnlyInput.step_others (h : OnlyInput crs crep p x) (hseparate : Separate x) (s : InputCr)
    {e : InputEvent} (he : e.subslot = some loc) (hd : d ∈ x.dataDesc) (hne : d.location ≠ loc)
    {part : Part} {k : ℕ} (hk : (d.area part).Has k) :
    (s.step crs crep p x e).ppm.bufferData k = s.ppm.bufferData k := by
  have hapart {c : IodataObject} (hc : c ∈ x.dataDesc) (hloc : c.location = loc) (i : Part)
      {bytes : List Byte} (hlen : bytes.length = (c.area i).length) (b : ℕ → Byte) :
      Buffer.write b (c.area i).start bytes k = b k := by
    apply write_apart hlen
    exact hseparate c hc d hd i part (.inl fun heq => hne (heq.trans hloc)) k hk
  cases e with
  | create sa da allocated => cases he
  | activate now added => cases he
  | send now sent added => cases he
  | close => cases he
  | setDataStatus bit on => cases he
  | setDataAndIops loc' null data iops =>
    obtain rfl : loc' = loc := Option.some.inj he
    have hsame : (s.step crs crep p x (.setDataAndIops loc' null data iops)).ppm =
        (s.ppm.setDataAndIops crs crep loc' null data iops).2 := by
      rw [step_setDataAndIops]
      split <;> rfl
    rw [hsame]
    rcases h.setDataAndIops_cases s.ppm loc' null data iops with hr | ⟨c, hc, hloc, hlen, hlen', hr⟩
    · rw [hr]
    · rw [hr]
      dsimp only
      rw [writeDataAndIops_bufferData]
      refine (hapart hc hloc .iops hlen' _).trans ?_
      cases null with
      | true => rfl
      | false => exact hapart hc hloc .data hlen _
  | setIocs loc' iocs =>
    obtain rfl : loc' = loc := Option.some.inj he
    have hsame : (s.step crs crep p x (.setIocs loc' iocs)).ppm =
        (s.ppm.setIocs crs crep loc' iocs).2 := by
      rw [step_setIocs]
      split <;> rfl
    rw [hsame]
    rcases h.setIocs_cases s.ppm loc' iocs with hr | ⟨c, hc, hloc, ⟨hlen, hr⟩ | ⟨_, hr⟩⟩
    · rw [hr]
    · rw [hr]
      exact hapart hc hloc .iocs hlen _
    · rw [hr]

theorem OnlyInput.step_buffered (h : OnlyInput crs crep p x) (hfits : Fits p)
    (hs : s.ppm.Buffered p x.inLength) (e : InputEvent) :
    (s.step crs crep p x e).ppm.Buffered p x.inLength := by
  cases e with
  | create sa da allocated => exact hs.create hfits sa da allocated
  | activate now added => exact hs.activateReq now added
  | send now sent added => exact hs.drvSwSend now sent added
  | close => exact .inl rfl
  | setDataStatus bit on => exact hs.of_same rfl rfl rfl rfl rfl
  | setDataAndIops loc null data iops =>
    rw [step_setDataAndIops]
    rcases h.setDataAndIops_cases s.ppm loc null data iops with hr | ⟨d, _, _, _, _, hr⟩
    · rw [hr, if_neg (show (-1 : ℤ) ≠ 0 by decide)]
      exact hs
    · rw [hr, if_pos rfl]
      exact hs.of_alike (writeDataAndIops_alike _ _ _ _)
  | setIocs loc iocs =>
    rw [step_setIocs]
    rcases h.setIocs_cases s.ppm loc iocs with hr | ⟨d, _, _, ⟨_, hr⟩ | ⟨_, hr⟩⟩
    · rw [hr, if_neg (show (-1 : ℤ) ≠ 0 by decide)]
      exact hs
    · rw [hr, if_pos rfl]
      exact hs.of_alike (writeFrameBuffer_alike _ _ _)
    · rw [hr, if_pos rfl]
      exact hs

/-! ### All runs -/

theorem OnlyInput.after_buffered (h : OnlyInput crs crep p x) (hfits : Fits p)
    (es : List InputEvent) : (InputCr.after crs crep p x es).ppm.Buffered p x.inLength := by
  have hstart : InputCr.start.ppm.Buffered p x.inLength := .inl rfl
  exact List.foldlRecOn (motive := fun s : InputCr => s.ppm.Buffered p x.inLength) es _ hstart
    fun s hs e _ => h.step_buffered hfits hs e

theorem OnlyInput.after_buffers (h : OnlyInput crs crep p x) (hseparate : Separate x)
    (hunique : KeyedList.Unique IodataObject.location x.dataDesc) (es : List InputEvent) :
    Buffers x (InputCr.after crs crep p x es).lastSet
      (InputCr.after crs crep p x es).ppm.bufferData := by
  have hstart : Buffers x InputCr.start.lastSet InputCr.start.ppm.bufferData := by
    intro d _ part v hv
    cases hv
  exact List.foldlRecOn (motive := fun s : InputCr => Buffers x s.lastSet s.ppm.bufferData) es _
    hstart fun s hs e _ => h.step_buffers hseparate hunique hs e

theorem after_append (es : List InputEvent) (e : InputEvent) :
    InputCr.after crs crep p x (es ++ [e]) =
      (InputCr.after crs crep p x es).step crs crep p x e := by
  unfold InputCr.after
  rw [List.foldl_concat]

/-- The frames have the last bytes, when the areas lie apart and in front of what is copied. -/
theorem OnlyInput.endToEnd (h : OnlyInput crs crep p x) (hfits : Fits p) (hseparate : Separate x)
    (hunique : KeyedList.Unique IodataObject.location x.dataDesc)
    (hinside : ∀ d ∈ x.dataDesc, d.Inside p.cSduLength)
    (hcopied : ∀ d ∈ x.dataDesc, ∀ part k, (d.area part).Has k → k < x.inLength.toNat) :
    InputCr.EndToEnd crs crep p x := by
  -- each byte of an area comes from the buffer of the application
  have hbyte (es : List InputEvent) {g : Frame} (hg : (InputCr.after crs crep p x es).Sends x g)
      {d : IodataObject} (hd : d ∈ x.dataDesc) {part : Part} {k : ℕ} (hk : (d.area part).Has k) :
      g.payload (20 + k) = (InputCr.after crs crep p x es).ppm.bufferData k := by
    rcases hg with ⟨now, sent, added, hg⟩
    rw [((h.after_buffered hfits es).sends hg).2.1 k
      (hk.2.trans_le ((hinside d hd).area part))]
    exact if_pos (hcopied d hd part k hk)
  constructor
  · intro es g hg
    have hlen : g.len.toNat = 20 + p.cSduLength.toNat + 4 := by
      rcases hg with ⟨now, sent, added, hg⟩
      exact ((h.after_buffered hfits es).sends hg).1
    refine ⟨hlen, hlen.trans_le hfits, ?_⟩
    intro d hd part v hv i hi
    have hk : (d.area part).Has ((d.area part).start + i) :=
      ⟨Nat.le_add_right _ _, Nat.add_lt_add_left hi _⟩
    rw [Nat.add_assoc, hbyte es hg hd hk]
    exact h.after_buffers hseparate hunique es d hd part v hv i hi
  · intro es e loc g g' he hg hg' d hd hne part k hk
    rw [hbyte es hg hd hk, hbyte (es ++ [e]) hg' hd hk, after_append]
    exact h.step_others hseparate _ he hd hne hk

end

/-! ### Runs that show what does not get through -/

/-- The CR is created, and starts to send. -/
def opening : List InputEvent :=
  [.create (Vector.replicate 6 0) (Vector.replicate 6 0) true, .activate 0 true]

/-- Then all bytes of a submodule are set, those of its IOCS to a value of their own. -/
def probing (d : IodataObject) (v w : Byte) : List InputEvent :=
  opening ++ [.setDataAndIops d.location false (List.replicate d.dataLength v)
      (List.replicate d.iopsLength v)] ++ [.setIocs d.location (List.replicate d.iocsLength w)]

/-- The value of the bytes of an area. -/
def probed (v w : Byte) : Part → Byte
  | .data | .iops => v
  | .iocs => w

section
variable {crs : List (IocrParam × Layout)} {crep : ℕ} {p : IocrParam} {x : Layout}
  {d : IodataObject} {s : InputCr} {v w : Byte}

/-- The CR sends frames. -/
def InputCr.Running (s : InputCr) : Prop := s.ppm.ciRunning = true ∧ s.ppm.sendBuffer ≠ none

theorem InputCr.Running.sends (h : s.Running) : ∃ g, s.Sends x g := by
  cases hframe : (s.ppm.finishBuffer x.inLength).sendBuffer with
  | none => exact absurd (Ppm.finishBuffer_eq_none.mp hframe) h.2
  | some g =>
    rcases Ppm.drvSwSend_cases s.ppm x.inLength 0 true true with ⟨hstopped, _⟩ | ⟨_, hsent, _⟩
    · exact absurd (h.1.symm.trans hstopped) (by decide)
    · exact ⟨g, 0, true, true, hsent.trans hframe⟩

theorem opening_running : (InputCr.after crs crep p x opening).Running := by
  have hcreated : (Ppm.cleared.create (Vector.replicate 6 0) (Vector.replicate 6 0) p
      true).2.state = .PF_PPM_STATE_W_START := rfl
  have hactivated (y : Ppm) (hstate : y.state = .PF_PPM_STATE_W_START)
      (hbuf : y.sendBuffer ≠ none) : (y.activateReq x.inLength 0 true).2.ciRunning = true ∧
        (y.activateReq x.inLength 0 true).2.sendBuffer ≠ none := by
    rw [Ppm.activateReq, hstate]
    dsimp only
    constructor
    · unfold Ppm.finishBuffer
      dsimp only
      cases y.sendBuffer <;> rfl
    · intro hnone
      have hnone' := Ppm.finishBuffer_eq_none.mp hnone
      exact hbuf hnone'
  exact hactivated _ hcreated (Option.some_ne_none _)

/-- The calls of such a run set what they are asked to. -/
theorem OnlyInput.probing_spec (h : OnlyInput crs crep p x)
    (hunique : KeyedList.Unique IodataObject.location x.dataDesc) (hinUse : d.inUse = true)
    (hd : d ∈ x.dataDesc) :
    (InputCr.after crs crep p x (probing d v w)).Running ∧
      ∀ part, (InputCr.after crs crep p x (probing d v w)).lastSet d.location part =
        some (List.replicate (d.area part).length (probed v w part)) := by
  have hfind := h.getArIocrDesc_mem hunique hinUse hd
  have hdata (y : Ppm) : y.setDataAndIops crs crep d.location false (List.replicate d.dataLength v)
      (List.replicate d.iopsLength v) = (0, y.writeDataAndIops d
        (pointer false (List.replicate d.dataLength v)) (List.replicate d.iopsLength v)) := by
    unfold Ppm.setDataAndIops
    rw [hfind]
    dsimp only
    rw [if_pos ⟨List.length_replicate, List.length_replicate⟩, if_pos rfl]
  have hiocs (y : Ppm) : y.setIocs crs crep d.location (List.replicate d.iocsLength w) =
      (0, y.writeIocs d (List.replicate d.iocsLength w)) := by
    unfold Ppm.setIocs
    rw [hfind]
    dsimp only
    rw [if_pos List.length_replicate, if_pos rfl]
  have hopened := @opening_running crs crep p x
  unfold probing
  rw [after_append, after_append, step_setDataAndIops, hdata, if_pos rfl, step_setIocs, hiocs,
    if_pos rfl]
  constructor
  · exact hopened
  · intro part
    unfold InputCr.note
    cases part <;> simp [probed, IodataObject.area, IodataObject.data, IodataObject.iops,
      IodataObject.iocs]

/-- A byte of such a frame. -/
theorem InputCr.Delivers.probed {g : Frame} (hg : s.Delivers p x g) (hd : d ∈ x.dataDesc)
    {part : Part} (hset : s.lastSet d.location part =
      some (List.replicate (d.area part).length (probed v w part))) {k : ℕ}
    (hk : (d.area part).Has k) : g.payload (20 + k) = PNet.Cyclic.probed v w part := by
  have hlt : k - (d.area part).start < (d.area part).length := by
    have hend := hk.2
    have hstart := hk.1
    omega
  have hbyte := hg.bytes d hd part _ hset _ hlt
  rw [List.getElem?_replicate, if_pos hlt, Nat.add_assoc, Nat.add_sub_cancel' hk.1] at hbyte
  exact (Option.some.inj hbyte).symm

/-- What the frames need when they have the last bytes. -/
theorem OnlyInput.of_endToEnd (h : OnlyInput crs crep p x)
    (hunique : KeyedList.Unique IodataObject.location x.dataDesc)
    (hinUse : ∀ d ∈ x.dataDesc, d.inUse = true)
    (hinside : ∀ d ∈ x.dataDesc, d.Inside p.cSduLength) (hend : InputCr.EndToEnd crs crep p x) :
    Fits p ∧ (∀ d ∈ x.dataDesc, d.data.Apart d.iocs ∧ d.iops.Apart d.iocs) ∧
      ∀ d ∈ x.dataDesc, ∀ part k, (d.area part).Has k → k < x.inLength.toNat := by
  have hfits : Fits p := by
    rcases (@opening_running crs crep p x).sends (x := x) with ⟨g, hg⟩
    have hdelivers := hend.delivers opening g hg
    exact hdelivers.whole.symm.trans_le hdelivers.inBuffer
  have hbyte (d : IodataObject) (hd : d ∈ x.dataDesc) (v w : Byte) :
      ∃ g, (InputCr.after crs crep p x (probing d v w)).Sends x g ∧
        ∀ part k, (d.area part).Has k → g.payload (20 + k) = probed v w part := by
    rcases h.probing_spec (v := v) (w := w) hunique (hinUse d hd) hd with ⟨hrunning, hset⟩
    rcases hrunning.sends (x := x) with ⟨g, hg⟩
    refine ⟨g, hg, ?_⟩
    intro part k hk
    exact (hend.delivers _ g hg).probed hd (hset part) hk
  refine ⟨hfits, ?_, ?_⟩
  · intro d hd
    -- a byte of the IOCS cannot have the value of the data, too
    rcases hbyte d hd 0 1 with ⟨g, _, hbytes⟩
    have hiocs (k : ℕ) (hk : d.iocs.Has k) : g.payload (20 + k) = 1 := hbytes .iocs k hk
    constructor
    · intro k hk hk'
      have hdata : g.payload (20 + k) = 0 := hbytes .data k hk
      exact absurd (hdata.symm.trans (hiocs k hk')) (by decide)
    · intro k hk hk'
      have hiops : g.payload (20 + k) = 0 := hbytes .iops k hk
      exact absurd (hiops.symm.trans (hiocs k hk')) (by decide)
  · intro d hd part k hk
    by_contra hbeyond
    -- the byte stays zero
    rcases hbyte d hd 1 1 with ⟨g, ⟨now, sent, added, hg⟩, hbytes⟩
    have hone : g.payload (20 + k) = 1 := by
      rw [hbytes part k hk]
      cases part <;> rfl
    have hlt : k < p.cSduLength.toNat := hk.2.trans_le ((hinside d hd).area part)
    have hzero : g.payload (20 + k) = 0 := by
      rw [((h.after_buffered hfits _).sends hg).2.1 k hlt]
      exact if_neg hbeyond
    exact absurd (hzero.symm.trans hone) (by decide)

end

/-! ## The request -/

/-- The lengths of areas that lie apart. -/
theorem sum_length_le {l : List Area} {n : ℕ} (hinside : ∀ a ∈ l, a.start + a.length ≤ n)
    (hapart : l.Pairwise Area.Apart) : (l.map Area.length).sum ≤ n := by
  have hbytes : ∃ s : Finset ℕ, s.card = (l.map Area.length).sum ∧
      ∀ k, k ∈ s ↔ ∃ a ∈ l, a.Has k := by
    clear hinside
    induction hapart with
    | nil => exact ⟨∅, rfl, by simp⟩
    | @cons a l ha _ ih =>
      rcases ih with ⟨s, hcard, hmem⟩
      have hdisjoint : Disjoint (Finset.Ico a.start (a.start + a.length)) s := by
        rw [Finset.disjoint_left]
        intro k hk hks
        rcases (hmem k).mp hks with ⟨b, hb, hbk⟩
        exact ha b hb k (Finset.mem_Ico.mp hk) hbk
      refine ⟨Finset.Ico a.start (a.start + a.length) ∪ s, ?_, ?_⟩
      · rw [Finset.card_union_of_disjoint hdisjoint, Nat.card_Ico, hcard, List.map_cons,
          List.sum_cons]
        omega
      · intro k
        rw [Finset.mem_union, Finset.mem_Ico, hmem, List.exists_mem_cons_iff]
        rfl
  rcases hbytes with ⟨s, hcard, hmem⟩
  have hsub : s ⊆ Finset.range n := by
    intro k hk
    rcases (hmem k).mp hk with ⟨a, ha, hak⟩
    exact Finset.mem_range.mpr (hak.2.trans_le (hinside a ha))
  have hle := Finset.card_le_card hsub
  rw [Finset.card_range, hcard] at hle
  exact hle

section
variable {expApis : List ExpApi} {dir : BitVec 16} {p : IocrParam} {x : Layout} {m : Mention}
  {sub : ExpSubmodule} {desc : DataDescriptor}

theorem dataBytes_length : (dataBytes dir m sub desc).length = (newData dir m sub desc).total := by
  rw [newData_total]
  unfold dataBytes
  by_cases hdiscard : sub.submoduleProperties.discardIoxs = true
  · rcases newData_discard dir m desc hdiscard with ⟨hdata, hiops⟩
    rw [hdata, hiops, if_pos hdiscard]
    rfl
  by_cases hreduced : Reduced dir sub
  · rcases newData_reduced m desc hdiscard hreduced with ⟨hdata, hiops⟩
    rw [hdata, hiops, if_neg hdiscard, if_pos hreduced]
    exact (Nat.zero_add _).symm
  · rcases newData_plain m desc hdiscard hreduced with ⟨hdata, hiops⟩
    rw [hdata, hiops, if_neg hdiscard, if_neg hreduced]

theorem dataTaken_eq : dataTaken expApis dir m = Layout.dataLength expApis dir m := by
  unfold dataTaken Layout.dataLength
  cases descriptorOf expApis dir .PF_DEV_STATUS_TYPE_IOPS m with
  | none => rfl
  | some r => exact dataBytes_length

theorem iocsTaken_eq : iocsTaken expApis dir m = Layout.iocsLength expApis dir m := by
  unfold iocsTaken Layout.iocsLength
  cases descriptorOf expApis dir .PF_DEV_STATUS_TYPE_IOCS m with
  | none => rfl
  | some r =>
    dsimp only
    rw [newIocs_total, newIocs_eq]

/-- The mentions without a descriptor take nothing. -/
theorem sum_found {status : DevStatusType} {f : Mention → ℕ}
    (hzero : ∀ m, descriptorOf expApis dir status m = none → f m = 0) (ms : List Mention) :
    ((found expApis dir status ms).map f).sum = (ms.map f).sum := by
  induction ms with
  | nil => rfl
  | cons m ms ih =>
    unfold found at ih ⊢
    rw [List.filter_cons, List.map_cons, List.sum_cons]
    cases hm : descriptorOf expApis dir status m with
    | none => rw [if_neg (by simp), ih, hzero m hm, Nat.zero_add]
    | some r => rw [if_pos (by simp), List.map_cons, List.sum_cons, ih]

/-- The lengths of the descriptors sum up to what the CR takes. -/
theorem sum_total_eq
    (h : Made expApis p.dir (found expApis p.dir .PF_DEV_STATUS_TYPE_IOPS p.dataMentions)
      (found expApis p.dir .PF_DEV_STATUS_TYPE_IOCS p.iocsMentions) x) :
    (x.dataDesc.map IodataObject.total).sum = takenLength expApis p := by
  have hdata (m : Mention) (hm : descriptorOf expApis p.dir .PF_DEV_STATUS_TYPE_IOPS m = none) :
      Layout.dataLength expApis p.dir m = 0 := by
    rw [Layout.dataLength, hm]
  have hiocs (m : Mention) (hm : descriptorOf expApis p.dir .PF_DEV_STATUS_TYPE_IOCS m = none) :
      Layout.iocsLength expApis p.dir m = 0 := by
    rw [Layout.iocsLength, hm]
  have hdataTaken : dataTaken expApis p.dir = Layout.dataLength expApis p.dir :=
    funext fun _ => dataTaken_eq
  have hiocsTaken : iocsTaken expApis p.dir = Layout.iocsLength expApis p.dir :=
    funext fun _ => iocsTaken_eq
  rw [h.sum, sum_found hdata, sum_found hiocs, takenLength, hdataTaken, hiocsTaken]

theorem sum_areas (ds : List IodataObject) :
    ((ds.flatMap IodataObject.areas).map Area.length).sum = (ds.map IodataObject.total).sum := by
  induction ds with
  | nil => rfl
  | cons d ds ih =>
    rw [List.flatMap_cons, List.map_append, List.sum_append, ih, List.map_cons, List.sum_cons]
    congr 1
    exact (Nat.add_assoc _ _ _).symm

/-- The number of bytes that are copied to a frame. -/
theorem inLength_eq
    (h : Made expApis p.dir (found expApis p.dir .PF_DEV_STATUS_TYPE_IOPS p.dataMentions)
      (found expApis p.dir .PF_DEV_STATUS_TYPE_IOCS p.iocsMentions) x)
    (hdir : p.dir = PF_DIRECTION_INPUT) (hdisjoint : x.Disjoint p.cSduLength) :
    x.inLength.toNat = takenLength expApis p := by
  have hle : (x.dataDesc.map IodataObject.total).sum ≤ p.cSduLength.toNat := by
    rw [← sum_areas]
    apply sum_length_le _ hdisjoint.apart
    intro a ha
    rcases List.mem_flatMap.mp ha with ⟨d, hd, ha⟩
    exact hdisjoint.inside d hd a ha
  rw [h.inLength hdir, BitVec.toNat_ofNat, Nat.mod_eq_of_lt (hle.trans_lt p.cSduLength.isLt)]
  exact sum_total_eq h

/-- All bytes of the table lie below a bound exactly when those of the request do. -/
theorem compact_iff
    (h : Made expApis p.dir (found expApis p.dir .PF_DEV_STATUS_TYPE_IOPS p.dataMentions)
      (found expApis p.dir .PF_DEV_STATUS_TYPE_IOCS p.iocsMentions) x)
    (hinside : ∀ d ∈ x.dataDesc, d.Inside p.cSduLength) :
    Compact expApis p ↔
      ∀ d ∈ x.dataDesc, ∀ part k, (d.area part).Has k → k < takenLength expApis p := by
  have hend {d : IodataObject} (hd : d ∈ x.dataDesc) : d.data.start + d.data.length < 2 ^ 16 :=
    ((hinside d hd).area .data).trans_lt p.cSduLength.isLt
  constructor
  · intro hcompact d hd part k hk
    -- the mention that the area comes from
    have hdata (hbyte : d.data.Has k ∨ d.iops.Has k) : k < takenLength expApis p := by
      by_cases hnone : ∀ m ∈ found expApis p.dir .PF_DEV_STATUS_TYPE_IOPS p.dataMentions,
          m.location ≠ d.location
      · rcases (h.dataOf d hd).of_absent hnone with ⟨hzero, hzero'⟩
        rcases hbyte with hbyte | hbyte
        · exact absurd hbyte (apart_of_length hzero k · hbyte)
        · exact absurd hbyte (apart_of_length hzero' k · hbyte)
      push Not at hnone
      rcases hnone with ⟨m, hm, hloc⟩
      rcases (h.dataOf d hd).of_mem m hm hloc with ⟨sub, desc, hfound, hd', hi'⟩
      have hbound := hend hd
      rw [hd'] at hbound
      rw [hd', hi'] at hbyte
      exact hcompact.data m (mem_found.mp hm).1 sub desc hfound k ((dataBytes_has hbound).mpr hbyte)
    cases part with
    | data => exact hdata (.inl hk)
    | iops => exact hdata (.inr hk)
    | iocs =>
      by_cases hnone : ∀ m ∈ found expApis p.dir .PF_DEV_STATUS_TYPE_IOCS p.iocsMentions,
          m.location ≠ d.location
      · have hzero : d.iocs.length = 0 := (h.iocsOf d hd).of_absent hnone
        exact absurd hk (apart_of_length hzero k · hk)
      push Not at hnone
      rcases hnone with ⟨m, hm, hloc⟩
      rcases (h.iocsOf d hd).of_mem m hm hloc with ⟨sub, desc, hfound, hi'⟩
      have hbyte : d.iocs.Has k := hk
      rw [hi', newIocs_eq] at hbyte
      exact hcompact.iocs m (mem_found.mp hm).1 sub desc hfound k hbyte
  · intro hbelow
    constructor
    · intro m hm sub desc hfound k hk
      have hm' := mem_found.mpr ⟨hm, sub, desc, hfound⟩
      rcases (h.mentioned m.location).mpr ⟨m, List.mem_append_left _ hm', rfl⟩ with ⟨d, hd, hloc⟩
      rcases (h.dataOf d hd).of_mem m hm' hloc.symm with ⟨sub', desc', hfound', hd', hi'⟩
      obtain ⟨rfl, rfl⟩ := Prod.mk.inj (Option.some.inj (hfound'.symm.trans hfound))
      have hbound := hend hd
      rw [hd'] at hbound
      rcases (dataBytes_has hbound).mp hk with hbyte | hbyte
      · rw [← hd'] at hbyte
        exact hbelow d hd .data k hbyte
      · rw [← hi'] at hbyte
        exact hbelow d hd .iops k hbyte
    · intro m hm sub desc hfound k hk
      have hm' := mem_found.mpr ⟨hm, sub, desc, hfound⟩
      rcases (h.mentioned m.location).mpr ⟨m, List.mem_append_right _ hm', rfl⟩ with ⟨d, hd, hloc⟩
      rcases (h.iocsOf d hd).of_mem m hm' hloc.symm with ⟨sub', desc', hfound', hi'⟩
      obtain ⟨rfl, rfl⟩ := Prod.mk.inj (Option.some.inj (hfound'.symm.trans hfound))
      rw [← newIocs_eq, ← hi'] at hk
      exact hbelow d hd .iocs k hk

/-- Areas of different descriptors, and of one descriptor. -/
theorem separate_of (hsound : x.Sound p.cSduLength) (hformed : x.Formed p.apis)
    (hown : ∀ d ∈ x.dataDesc, d.data.Apart d.iocs ∧ d.iops.Apart d.iocs) : Separate x := by
  have : Std.Symm IodataObject.Apart := ⟨fun _ _ h => h.symm⟩
  intro d hd e he i j hne
  by_cases hloc : e.location = d.location
  · obtain rfl : e = d := List.inj_on_of_nodup_map hformed.unique he hd hloc
    have hdata := hformed.data_apart hsound.inside hd
    rcases hown e hd with ⟨hdi, hii⟩
    rcases hne with hne | hne
    · exact absurd rfl hne
    cases i <;> cases j <;> first
      | exact absurd rfl hne
      | assumption
      | exact Area.Apart.symm ‹_›
  · have hde : d ≠ e := fun heq => hloc (congrArg IodataObject.location heq).symm
    have hapart : d.Apart e := hsound.apart.forall hd he hde
    exact hapart _ (IodataObject.mem_areas.mpr ⟨j, rfl⟩) _ (IodataObject.mem_areas.mpr ⟨i, rfl⟩)

end

/-- An AR has one input CR, when it has an output CR, too. -/
theorem onlyInput_of_length {iocrs : List IocrParam} {expApis : List ExpApi} {crep : ℕ}
    {p : IocrParam} (hcrep : iocrs[crep]? = some p) (hinput : p.iocrType = PF_IOCR_TYPE_INPUT)
    (hmax : iocrs.length ≤ PNET_MAX_CR)
    (houtput : ∃ q ∈ iocrs, q.iocrType = PF_IOCR_TYPE_OUTPUT) :
    OnlyInput (iocrs.map fun q => (q, layoutOf expApis q)) crep p (layoutOf expApis p) := by
  have htwo : PNET_MAX_CR = 2 := rfl
  constructor
  · rw [List.getElem?_map, hcrep]
    rfl
  · exact hinput
  · intro c q hq htype
    rw [List.getElem?_map] at hq
    rcases Option.map_eq_some_iff.mp hq with ⟨q', hq', rfl⟩
    rcases houtput with ⟨o, ho, hotype⟩
    rcases List.mem_iff_getElem?.mp ho with ⟨i, hi⟩
    have hlt := (List.getElem?_eq_some_iff.mp hcrep).1
    have hlt' := (List.getElem?_eq_some_iff.mp hq').1
    have hlt'' := (List.getElem?_eq_some_iff.mp hi).1
    -- neither of the two is the output CR
    have hne : i ≠ crep := by
      rintro rfl
      obtain rfl := Option.some.inj (hi.symm.trans hcrep)
      exact absurd (hinput.symm.trans hotype) (by decide)
    have hne' : i ≠ c := by
      rintro rfl
      obtain rfl := Option.some.inj (hi.symm.trans hq')
      dsimp only at htype
      rw [hotype] at htype
      exact absurd htype (by decide)
    omega

/-- The input CR of an accepted request: its frames have the bytes that were set last if and only if
they fit their buffer, no submodule has its IOCS on its own bytes, and the areas have no gaps. -/
theorem delivers_iff {minDeviceInterval : ℕ} {ar : ArParam} {expApis : List ExpApi}
    {iocrs : List IocrParam} {stat : PnetResult} {crep : ℕ} {p : IocrParam}
    (haccepted : acceptsIocrs minDeviceInterval ar expApis iocrs stat = true)
    (hcrep : iocrs[crep]? = some p) (hinput : p.iocrType = PF_IOCR_TYPE_INPUT)
    (hmax : iocrs.length ≤ PNET_MAX_CR) (houtput : ∃ q ∈ iocrs, q.iocrType = PF_IOCR_TYPE_OUTPUT)
    (hapis : p.apis.length ≤ PNET_MAX_API) :
    InputCr.EndToEnd (iocrs.map fun q => (q, layoutOf expApis q)) crep p (layoutOf expApis p) ↔
      Fits p ∧ OwnApart expApis p ∧ Compact expApis p := by
  have hp : p ∈ iocrs := List.mem_of_getElem? hcrep
  rcases nodup_of_accepts haccepted hp hapis with ⟨honce, honce'⟩
  have hsound := sound_of_accepts haccepted hp
  have hformed := @iocrSetupDesc_formed expApis p
  have hmade := @layoutOf_made_found expApis p honce honce'
  have honly := @onlyInput_of_length _ expApis _ _ hcrep hinput hmax houtput
  have hdir : p.dir = PF_DIRECTION_INPUT := if_pos (.inl hinput)
  have hlength (hown : ∀ d ∈ (layoutOf expApis p).dataDesc,
      d.data.Apart d.iocs ∧ d.iops.Apart d.iocs) :
      (layoutOf expApis p).inLength.toNat = takenLength expApis p :=
    inLength_eq hmade hdir ((hsound.disjoint_iff hformed).mpr hown)
  rw [hmade.ownApart_iff hsound.inside, compact_iff hmade hsound.inside]
  constructor
  · intro h
    rcases honly.of_endToEnd hformed.unique hmade.inUse hsound.inside h with ⟨hfits, hown, hcopied⟩
    rw [hlength hown] at hcopied
    exact ⟨hfits, hown, hcopied⟩
  · rintro ⟨hfits, hown, hbelow⟩
    rw [← hlength hown] at hbelow
    exact honly.endToEnd hfits (separate_of hsound hformed hown) hformed.unique hsound.inside hbelow

/-! ## A gap in front of the data -/

namespace InputDataRun

open TransmittersRun

/-- The data of slot 1 at `offset`, the IOPS behind them, and the IOCS of slot 2 on byte 2. -/
def input (offset : BitVec 16) : IocrParam :=
  iocr PF_IOCR_TYPE_INPUT 0xC000 [⟨0, [⟨1, 1, offset⟩], [⟨2, 1, 2⟩]⟩]

def crs (offset : BitVec 16) : List (IocrParam × Layout) :=
  [input offset, output].map fun q => (q, layoutOf expApis q)

/-- The application sets the byte of slot 1. -/
def calls : List InputEvent := opening ++ [.setDataAndIops ⟨0, 1, 1⟩ false [0x11] [0x80]]

/-- The CR after the calls. -/
def called (offset : BitVec 16) : InputCr :=
  .after (crs offset) 0 (input offset) (layoutOf expApis (input offset)) calls

end InputDataRun

open TransmittersRun InputDataRun in
/-- The areas follow each other from the first byte on. -/
theorem delivers_compact : InputCr.EndToEnd (crs 0) 0 (InputDataRun.input 0)
    (layoutOf expApis (InputDataRun.input 0)) := by
  have haccepted : acceptsIocrs 32 ar expApis [InputDataRun.input 0, output] noError = true := by
    decide +kernel
  have hlength : takenLength expApis (InputDataRun.input 0) = 3 := by decide +kernel
  apply (delivers_iff haccepted rfl rfl (by decide) ⟨output, by simp, rfl⟩ (by decide)).mpr
  refine ⟨by decide, ?_, ?_, ?_⟩
  · intro m hm n hn hloc
    obtain rfl := List.mem_singleton.mp hm
    obtain rfl := List.mem_singleton.mp hn
    exact absurd hloc (by decide)
  · intro m hm sub desc hfound k hk
    obtain rfl := List.mem_singleton.mp hm
    have hbytes : ((descriptorOf expApis PF_DIRECTION_INPUT .PF_DEV_STATUS_TYPE_IOPS
        ⟨⟨0, 1, 1⟩, 0⟩).map fun r => dataBytes PF_DIRECTION_INPUT ⟨⟨0, 1, 1⟩, 0⟩ r.1 r.2) =
          some ⟨0, 2⟩ := by decide +kernel
    have hfound' : descriptorOf expApis PF_DIRECTION_INPUT .PF_DEV_STATUS_TYPE_IOPS
        ⟨⟨0, 1, 1⟩, 0⟩ = some (sub, desc) := hfound
    rw [hfound', Option.map_some] at hbytes
    have harea : dataBytes PF_DIRECTION_INPUT ⟨⟨0, 1, 1⟩, 0⟩ sub desc = ⟨0, 2⟩ :=
      Option.some.inj hbytes
    have hbyte : (dataBytes PF_DIRECTION_INPUT ⟨⟨0, 1, 1⟩, 0⟩ sub desc).Has k := hk
    rw [harea] at hbyte
    have hend : k < 0 + 2 := hbyte.2
    omega
  · intro m hm sub desc hfound k hk
    obtain rfl := List.mem_singleton.mp hm
    have hbytes : ((descriptorOf expApis PF_DIRECTION_INPUT .PF_DEV_STATUS_TYPE_IOCS
        ⟨⟨0, 2, 1⟩, 2⟩).map fun r => iocsBytes ⟨⟨0, 2, 1⟩, 2⟩ r.1 r.2) = some ⟨2, 1⟩ := by
      decide +kernel
    have hfound' : descriptorOf expApis PF_DIRECTION_INPUT .PF_DEV_STATUS_TYPE_IOCS
        ⟨⟨0, 2, 1⟩, 2⟩ = some (sub, desc) := hfound
    rw [hfound', Option.map_some] at hbytes
    have harea : iocsBytes ⟨⟨0, 2, 1⟩, 2⟩ sub desc = ⟨2, 1⟩ := Option.some.inj hbytes
    have hbyte : (iocsBytes ⟨⟨0, 2, 1⟩, 2⟩ sub desc).Has k := hk
    rw [harea] at hbyte
    have hend : k < 2 + 1 := hbyte.2
    omega

open TransmittersRun InputDataRun in
/-- The request is accepted with the data on byte 10, which no frame gets from the application. -/
theorem not_delivers_gap :
    acceptsIocrs 32 ar expApis [InputDataRun.input 10, output] noError = true ∧
      ¬InputCr.EndToEnd (crs 10) 0 (InputDataRun.input 10)
        (layoutOf expApis (InputDataRun.input 10)) := by
  refine ⟨by decide +kernel, fun h => ?_⟩
  have hset : (called 10).lastSet ⟨0, 1, 1⟩ .data = some [0x11] := by decide +kernel
  have hbyte : ((called 10).ppm.drvSwSend (layoutOf expApis (InputDataRun.input 10)).inLength 0 true
      true).1.map (fun g => g.payload 30) = some 0 := by decide +kernel
  rcases Option.map_eq_some_iff.mp hbyte with ⟨g, hg, hzero⟩
  have hdesc : (⟨true, ⟨0, 1, 1⟩, 10, 1, 11, 1, 0, 0⟩ : IodataObject) ∈
      (layoutOf expApis (InputDataRun.input 10)).dataDesc := by decide +kernel
  -- the byte has been set, but is still zero
  have hdelivers := h.delivers calls g ⟨0, true, true, hg⟩
  have hlast := hdelivers.bytes _ hdesc .data [0x11] hset 0 Nat.one_pos
  have hsent : g.payload 30 = 0x11 := (Option.some.inj hlast).symm
  exact absurd (hzero.symm.trans hsent) (by decide)

end PNet.Cyclic
