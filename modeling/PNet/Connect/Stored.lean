import Mathlib.Data.List.Range
import PNet.Connect.Arrays

/-! # What a request stores

The elements that the blocks of a request store in the arrays are those of the lists that the
getters answer, one after the other, and the counts say how many there are (`Adds`).
-/

namespace PNet.Connect

open Block Rpc

/-! ## Properties of a trace -/

/-- The indices at which elements of the array are stored. -/
def storesIn (a : ArrayRef) (t : List Event) : List ℕ :=
  t.filterMap fun e => match e with
    | .store b ix => if b = a then some ix else none
    | _ => none

/-- The values that the count of the array gets. -/
def countsIn (a : ArrayRef) (t : List Event) : List ℕ :=
  t.filterMap fun e => match e with
    | .count b n => if b = a then some n else none
    | _ => none

/-- The count is that of the elements stored, which have the indices below it. -/
def Counted (t : List Event) (a : ArrayRef) : Prop :=
  storesIn a t = List.range ((countsIn a t).getLastD 0)

/-- Every element is stored inside its array. -/
def StaysInside (t : List Event) : Prop := ∀ e ∈ t, e.InBounds

@[simp] theorem storesIn_nil (a : ArrayRef) : storesIn a [] = [] := rfl

@[simp] theorem countsIn_nil (a : ArrayRef) : countsIn a [] = [] := rfl

@[simp] theorem storesIn_append (a : ArrayRef) (t u : List Event) :
    storesIn a (t ++ u) = storesIn a t ++ storesIn a u := List.filterMap_append

@[simp] theorem countsIn_append (a : ArrayRef) (t u : List Event) :
    countsIn a (t ++ u) = countsIn a t ++ countsIn a u := List.filterMap_append

@[simp] theorem storesIn_store (a b : ArrayRef) (ix : ℕ) (t : List Event) :
    storesIn a (.store b ix :: t) = if b = a then ix :: storesIn a t else storesIn a t := by
  unfold storesIn
  rw [List.filterMap_cons]
  split <;> split <;> simp_all

@[simp] theorem storesIn_count (a b : ArrayRef) (n : ℕ) (t : List Event) :
    storesIn a (.count b n :: t) = storesIn a t := rfl

@[simp] theorem countsIn_count (a b : ArrayRef) (n : ℕ) (t : List Event) :
    countsIn a (.count b n :: t) = if b = a then n :: countsIn a t else countsIn a t := by
  unfold countsIn
  rw [List.filterMap_cons]
  split <;> split <;> simp_all

@[simp] theorem countsIn_store (a b : ArrayRef) (ix : ℕ) (t : List Event) :
    countsIn a (.store b ix :: t) = countsIn a t := rfl

@[simp] theorem storesIn_flatMap {α : Type} (a : ArrayRef) (l : List α) (f : α → List Event) :
    storesIn a (l.flatMap f) = l.flatMap fun x => storesIn a (f x) := List.filterMap_flatMap

@[simp] theorem countsIn_flatMap {α : Type} (a : ArrayRef) (l : List α) (f : α → List Event) :
    countsIn a (l.flatMap f) = l.flatMap fun x => countsIn a (f x) := List.filterMap_flatMap

/-- Of the elements of a list only the one at `j` counts. -/
theorem flatMap_zipIdx_at {α β : Type} (f : α → List β) (j : ℕ) (l : List α) (k : ℕ) :
    ((l.zipIdx k).flatMap fun e => if e.2 = j then f e.1 else []) =
      if k ≤ j then (l[j - k]?).elim [] f else [] := by
  induction l generalizing k with
  | nil => simp
  | cons x l ih =>
    rw [List.zipIdx_cons, List.flatMap_cons, ih]
    rcases Nat.lt_trichotomy k j with h | rfl | h
    · rw [if_neg (by omega), if_pos (by omega), if_pos (by omega), List.nil_append,
        show j - k = (j - (k + 1)) + 1 by omega, List.getElem?_cons_succ]
    · simp
    · rw [if_neg (by omega), if_neg (by omega), if_neg (by omega), List.nil_append]

/-- A loop stores its elements one after the other. -/
theorem flatMap_zipIdx_index {α : Type} (l : List α) (k : ℕ) :
    ((l.zipIdx k).flatMap fun e => [e.2]) = List.range' k l.length := by
  induction l generalizing k with
  | nil => rfl
  | cons x l ih => rw [List.zipIdx_cons, List.flatMap_cons, ih, List.length_cons, List.range'_succ]; rfl

/-! ## Reading and storing -/

variable {α β : Type}

/-- `p` reads what `g` reads, and what it stores on the way is in the relation `R` to the value. -/
def Fills (p : Fill α) (g : Get α) (R : α → List Event → Prop) : Prop :=
  ∀ s, ∃ u, p s = ((g s.reader).1, ⟨(g s.reader).2, s.trace ++ u⟩) ∧ R (g s.reader).1 u

theorem Fills.mono {p : Fill α} {g : Get α} {R R' : α → List Event → Prop} (hp : Fills p g R)
    (h : ∀ v u, R v u → R' v u) : Fills p g R' := by
  intro s
  rcases hp s with ⟨u, heq, hu⟩
  exact ⟨u, heq, h _ _ hu⟩

theorem fills_read (g : Get α) : Fills (read g) g fun _ u => u = [] := by
  intro s
  exact ⟨[], by rw [List.append_nil]; rfl, rfl⟩

theorem fills_pure (v : α) : Fills (pure v) (pure v) fun w u => w = v ∧ u = [] := by
  intro s
  exact ⟨[], by rw [List.append_nil]; rfl, rfl, rfl⟩

theorem Fills.bind {p : Fill α} {g : Get α} {f : α → Fill β} {h : α → Get β}
    {R : α → List Event → Prop} {R' : α → β → List Event → Prop} (hp : Fills p g R)
    (hf : ∀ v, Fills (f v) (h v) (R' v)) :
    Fills (p >>= f) (g >>= h) fun w u => ∃ v u1 u2, u = u1 ++ u2 ∧ R v u1 ∧ R' v w u2 := by
  intro s
  rcases hp s with ⟨u1, heq, h1⟩
  rcases hf (g s.reader).1 ⟨(g s.reader).2, s.trace ++ u1⟩ with ⟨u2, heq', h2⟩
  refine ⟨u1 ++ u2, ?_, (g s.reader).1, u1, u2, rfl, h1, h2⟩
  show f (p s).1 (p s).2 = _
  rw [heq, heq', List.append_assoc]
  rfl

theorem Fills.note {p : Fill α} {g : Get α} {R : α → List Event → Prop} (es : List Event)
    (hp : Fills p g R) :
    Fills (note es >>= fun _ => p) g fun v u => ∃ u', u = es ++ u' ∧ R v u' := by
  intro s
  rcases hp ⟨s.reader, s.trace ++ es⟩ with ⟨u, heq, hu⟩
  refine ⟨es ++ u, ?_, u, rfl, hu⟩
  show p ⟨s.reader, s.trace ++ es⟩ = _
  rw [heq, List.append_assoc]

/-- A loop whose turns have the traces `ev`. -/
def loopEvents (a : ArrayRef) (ev : ℕ → α → List Event) (ix : ℕ) (vs : List α) : List Event :=
  (vs.zipIdx ix).flatMap fun e => .store a e.2 :: ev e.2 e.1

theorem fills_times {a : ArrayRef} {g : ℕ → Fill α} {h : Get α} {ev : ℕ → α → List Event}
    (hg : ∀ ix, Fills (g ix) h fun v u => u = ev ix v) (n ix : ℕ) :
    Fills (fillTimes a g n ix) (getTimes h n) fun vs u =>
      vs.length = n ∧ u = loopEvents a ev ix vs := by
  induction n generalizing ix with
  | zero =>
    refine (fills_pure _).mono ?_
    rintro _ _ ⟨rfl, rfl⟩
    exact ⟨rfl, rfl⟩
  | succ n ih =>
    refine (Fills.note _ ((hg ix).bind fun v => (ih (ix + 1)).bind fun vs => fills_pure _)).mono ?_
    rintro _ _ ⟨_, rfl, v, _, _, rfl, rfl, vs, _, _, rfl, ⟨hlen, rfl⟩, rfl, rfl⟩
    refine ⟨by rw [List.length_cons, hlen], ?_⟩
    rw [List.append_nil]
    rfl

/-! ## An IOCR block -/

/-- What an API of an IOCR stores. -/
def entryEvents (cr iy : ℕ) (v : ApiEntry) : List Event :=
  .count (.ioData cr iy) v.ioData.length :: loopEvents (.ioData cr iy) (fun _ _ => []) 0 v.ioData ++
    .count (.iocs cr iy) v.iocs.length :: loopEvents (.iocs cr iy) (fun _ _ => []) 0 v.iocs

/-- What an IOCR stores. -/
def iocrEvents (cr : ℕ) (p : IocrParam) : List Event :=
  .store .iocrs cr :: .count (.crApis cr) p.apis.length ::
    loopEvents (.crApis cr) (entryEvents cr) 0 p.apis

theorem fills_iocrApiEntry (cr iy : ℕ) :
    Fills (fillIocrApiEntry cr iy) getIocrApiEntry fun v u => u = entryEvents cr iy v := by
  refine ((fills_read _).bind fun api => (fills_read _).bind fun nbrIoData => Fills.note _
    ((fills_times (fun _ => fills_read _) _ _).bind fun ioData => (fills_read _).bind
      fun nbrIocs => Fills.note _ ((fills_times (fun _ => fills_read _) _ _).bind
        fun iocs => fills_pure _))).mono ?_
  rintro _ _ ⟨api, _, _, rfl, rfl, n, _, _, rfl, rfl, _, rfl, ioData, _, _, rfl, ⟨hn, rfl⟩, m, _, _,
    rfl, rfl, _, rfl, iocs, _, _, rfl, ⟨hm, rfl⟩, rfl, rfl⟩
  simp only [entryEvents, hn, hm, List.nil_append, List.append_nil, List.cons_append]

theorem fills_iocrParam (ix : ℕ) :
    Fills (fillIocrParam ix) getIocrParam fun p u => u = iocrEvents ix p := by
  refine (Fills.note _ ((fills_read _).bind fun fixed => Fills.note _
    ((fills_times (fills_iocrApiEntry ix) _ _).bind fun apis => fills_pure _))).mono ?_
  rintro _ _ ⟨_, rfl, fixed, _, _, rfl, rfl, _, rfl, apis, _, _, rfl, ⟨hn, rfl⟩, rfl, rfl⟩
  simp only [iocrEvents, hn, List.nil_append, List.append_nil, List.cons_append]

theorem storesIn_loop (a b : ArrayRef) (ev : ℕ → α → List Event) (ix : ℕ) (vs : List α) :
    storesIn a (loopEvents b ev ix vs) = (vs.zipIdx ix).flatMap fun e =>
      if b = a then e.2 :: storesIn a (ev e.2 e.1) else storesIn a (ev e.2 e.1) := by
  simp only [loopEvents, storesIn_flatMap, storesIn_store]

theorem countsIn_loop (a b : ArrayRef) (ev : ℕ → α → List Event) (ix : ℕ) (vs : List α) :
    countsIn a (loopEvents b ev ix vs) = (vs.zipIdx ix).flatMap fun e => countsIn a (ev e.2 e.1) := by
  simp only [loopEvents, countsIn_flatMap, countsIn_store]

/-- The loop over its own array. -/
theorem storesIn_loop_self (a : ArrayRef) {ev : ℕ → α → List Event}
    (hev : ∀ ix v, storesIn a (ev ix v) = []) (vs : List α) :
    storesIn a (loopEvents a ev 0 vs) = List.range vs.length := by
  simp only [storesIn_loop, if_pos, hev, flatMap_zipIdx_index, List.range_eq_range']

/-- A loop over another array, one of whose turns stores in the array. -/
theorem storesIn_loop_other {a b : ArrayRef} (hne : b ≠ a) {ev : ℕ → α → List Event} {j : ℕ}
    {f : α → List ℕ} (hev : ∀ ix v, storesIn a (ev ix v) = if ix = j then f v else [])
    (vs : List α) : storesIn a (loopEvents b ev 0 vs) = (vs[j]?).elim [] f := by
  simp only [storesIn_loop, if_neg hne, hev]
  exact flatMap_zipIdx_at f j vs 0

/-- A loop that sets the count of the array in one of its turns. -/
theorem countsIn_loop_at {a b : ArrayRef} {ev : ℕ → α → List Event} {j : ℕ} {f : α → List ℕ}
    (hev : ∀ ix v, countsIn a (ev ix v) = if ix = j then f v else []) (vs : List α) :
    countsIn a (loopEvents b ev 0 vs) = (vs[j]?).elim [] f := by
  simp only [countsIn_loop, hev]
  exact flatMap_zipIdx_at f j vs 0

/-- A loop that leaves the array alone. -/
theorem storesIn_loop_none {a b : ArrayRef} (hne : b ≠ a) {ev : ℕ → α → List Event}
    (hev : ∀ ix v, storesIn a (ev ix v) = []) (ix : ℕ) (vs : List α) :
    storesIn a (loopEvents b ev ix vs) = [] := by
  simp [storesIn_loop, hne, hev]

theorem countsIn_loop_none {a : ArrayRef} (b : ArrayRef) {ev : ℕ → α → List Event}
    (hev : ∀ ix v, countsIn a (ev ix v) = []) (ix : ℕ) (vs : List α) :
    countsIn a (loopEvents b ev ix vs) = [] := by
  simp [countsIn_loop, hev]

theorem storesIn_entryEvents (a : ArrayRef) (cr iy : ℕ) (v : ApiEntry) :
    storesIn a (entryEvents cr iy v) =
      if .ioData cr iy = a then List.range v.ioData.length
      else if .iocs cr iy = a then List.range v.iocs.length else [] := by
  rw [entryEvents, storesIn_append, storesIn_count, storesIn_count]
  by_cases hdata : .ioData cr iy = a
  · subst hdata
    rw [if_pos rfl, storesIn_loop_self _ fun _ _ => rfl,
      storesIn_loop_none (fun h => by cases h) fun _ _ => rfl, List.append_nil]
  · rw [if_neg hdata, storesIn_loop_none hdata fun _ _ => rfl, List.nil_append]
    by_cases hiocs : .iocs cr iy = a
    · subst hiocs
      rw [if_pos rfl, storesIn_loop_self _ fun _ _ => rfl]
    · rw [if_neg hiocs, storesIn_loop_none hiocs fun _ _ => rfl]

theorem countsIn_entryEvents (a : ArrayRef) (cr iy : ℕ) (v : ApiEntry) :
    countsIn a (entryEvents cr iy v) =
      if .ioData cr iy = a then [v.ioData.length]
      else if .iocs cr iy = a then [v.iocs.length] else [] := by
  rw [entryEvents, countsIn_append, countsIn_count, countsIn_count,
    countsIn_loop_none _ fun _ _ => rfl, countsIn_loop_none _ fun _ _ => rfl]
  by_cases hdata : .ioData cr iy = a
  · subst hdata
    simp
  · rw [if_neg hdata, if_neg hdata, List.nil_append]

/-! ## How the arrays grow -/

/-- How many elements of each array there are; that of the check of a port are not in the AR. -/
def sizeIn (iocrs : List IocrParam) (expApis : List ExpApi) : ArrayRef → ℕ
  | .iocrs => iocrs.length
  | .crApis cr => (iocrs[cr]?).elim 0 fun p => p.apis.length
  | .ioData cr i => ((iocrs[cr]?).bind fun p => p.apis[i]?).elim 0 fun v => v.ioData.length
  | .iocs cr i => ((iocrs[cr]?).bind fun p => p.apis[i]?).elim 0 fun v => v.iocs.length
  | .expApis => expApis.length
  | .modules i => modulesAt expApis i
  | .submodules i j =>
    ((expApis[i]?).bind fun x => x.modules[j]?).elim 0 fun m => m.submodules.length
  | .dataDescriptor i j k =>
    (((expApis[i]?).bind fun x => x.modules[j]?).bind fun m => m.submodules[k]?).elim 0
      fun v => v.dataDescriptor.length
  | .peers | .peerPortName _ | .peerStationName _ => 0

/-- A trace takes the arrays from one size to another, each element behind the others; an IOCR is
counted when its block has been checked. -/
def Adds (u : List Event) (size size' : ArrayRef → ℕ) : Prop :=
  ∀ a, size a ≤ size' a ∧ storesIn a u = List.range' (size a) (size' a - size a) ∧
    (a ≠ .iocrs → (countsIn a u).getLastD (size a) = size' a)

theorem Adds.nil (size : ArrayRef → ℕ) : Adds [] size size := by
  intro a
  refine ⟨le_rfl, ?_, fun _ => rfl⟩
  rw [Nat.sub_self]
  rfl

theorem getLastD_append (l l' : List ℕ) (n : ℕ) :
    (l ++ l').getLastD n = l'.getLastD (l.getLastD n) := by
  rcases l'.eq_nil_or_concat' with rfl | ⟨l', x, rfl⟩
  · rw [List.append_nil]
    rfl
  · rw [← List.append_assoc, List.getLastD_concat, List.getLastD_concat]

theorem Adds.append {u v : List Event} {size size' size'' : ArrayRef → ℕ} (hu : Adds u size size')
    (hv : Adds v size' size'') : Adds (u ++ v) size size'' := by
  intro a
  rcases hu a with ⟨hle, hstores, hcounts⟩
  rcases hv a with ⟨hle', hstores', hcounts'⟩
  refine ⟨hle.trans hle', ?_, ?_⟩
  · rw [storesIn_append, hstores, hstores']
    have h : List.range' (size a) (size' a - size a) ++
        List.range' (size a + (size' a - size a)) (size'' a - size' a) =
        List.range' (size a) (size' a - size a + (size'' a - size' a)) := List.range'_append_1
    rw [show size a + (size' a - size a) = size' a by omega,
      show size' a - size a + (size'' a - size' a) = size'' a - size a by omega] at h
    exact h
  · intro hne
    rw [countsIn_append, getLastD_append, hcounts hne, hcounts' hne]

/-- An array that the trace leaves alone. -/
theorem adds_none {u : List Event} {a : ArrayRef} {n m : ℕ} (hstores : storesIn a u = [])
    (hcounts : countsIn a u = []) (h : n = m) :
    n ≤ m ∧ storesIn a u = List.range' n (m - n) ∧
      (a ≠ .iocrs → (countsIn a u).getLastD n = m) := by
  subst h
  refine ⟨le_rfl, ?_, fun _ => ?_⟩
  · rw [hstores, Nat.sub_self]
    rfl
  · rw [hcounts]
    rfl

/-- An array that gets all its elements at once. -/
theorem adds_all {u : List Event} {a : ArrayRef} {n : ℕ} (hstores : storesIn a u = List.range n)
    (hcounts : countsIn a u = [n]) :
    0 ≤ n ∧ storesIn a u = List.range' 0 (n - 0) ∧
      (a ≠ .iocrs → (countsIn a u).getLastD 0 = n) := by
  refine ⟨Nat.zero_le _, ?_, fun _ => ?_⟩
  · rw [hstores, List.range_eq_range', Nat.sub_zero]
  · rw [hcounts]
    rfl

theorem getElem?_concat_of_ne {l : List α} {i : ℕ} (h : i ≠ l.length) (x : α) :
    (l ++ [x])[i]? = l[i]? := by
  rcases Nat.lt_or_gt_of_ne h with hlt | hgt
  · rw [List.getElem?_append_left hlt]
  · rw [List.getElem?_eq_none (by simp; omega), List.getElem?_eq_none (by omega)]

theorem storesIn_ioData (cr i ix : ℕ) (v : ApiEntry) :
    storesIn (.ioData cr i) (entryEvents cr ix v) =
      if ix = i then List.range v.ioData.length else [] := by
  simp [storesIn_entryEvents]

theorem countsIn_ioData (cr i ix : ℕ) (v : ApiEntry) :
    countsIn (.ioData cr i) (entryEvents cr ix v) = if ix = i then [v.ioData.length] else [] := by
  simp [countsIn_entryEvents]

theorem storesIn_iocs (cr i ix : ℕ) (v : ApiEntry) :
    storesIn (.iocs cr i) (entryEvents cr ix v) =
      if ix = i then List.range v.iocs.length else [] := by
  simp [storesIn_entryEvents]

theorem countsIn_iocs (cr i ix : ℕ) (v : ApiEntry) :
    countsIn (.iocs cr i) (entryEvents cr ix v) = if ix = i then [v.iocs.length] else [] := by
  simp [countsIn_entryEvents]

/-- A part of an array of entries gets all its elements at once, if it is there. -/
theorem adds_part {u : List Event} {a : ArrayRef} {x : Option α} {len : α → ℕ}
    (hstores : storesIn a u = x.elim [] fun v => List.range (len v))
    (hcounts : countsIn a u = x.elim [] fun v => [len v]) :
    0 ≤ x.elim 0 len ∧ storesIn a u = List.range' 0 (x.elim 0 len - 0) ∧
      (a ≠ .iocrs → (countsIn a u).getLastD 0 = x.elim 0 len) := by
  rcases x with _ | v
  · exact adds_none hstores hcounts rfl
  · exact adds_all hstores hcounts

/-- An IOCR touches the arrays of no other IOCR. -/
theorem iocrEvents_of_ne {a : ArrayRef} {cr : ℕ} {p : IocrParam} (hiocrs : a ≠ .iocrs)
    (hapis : .crApis cr ≠ a) (hdata : ∀ i, .ioData cr i ≠ a) (hiocs : ∀ i, .iocs cr i ≠ a) :
    storesIn a (iocrEvents cr p) = [] ∧ countsIn a (iocrEvents cr p) = [] := by
  have hstores : ∀ ix v, storesIn a (entryEvents cr ix v) = [] := by
    intro ix v
    rw [storesIn_entryEvents, if_neg (hdata ix), if_neg (hiocs ix)]
  have hcounts : ∀ ix v, countsIn a (entryEvents cr ix v) = [] := by
    intro ix v
    rw [countsIn_entryEvents, if_neg (hdata ix), if_neg (hiocs ix)]
  constructor
  · rw [iocrEvents, storesIn_store, if_neg hiocrs.symm, storesIn_count]
    exact storesIn_loop_none hapis hstores _ _
  · rw [iocrEvents, countsIn_store, countsIn_count, if_neg hapis]
    exact countsIn_loop_none _ hcounts _ _

/-- An IOCR block adds its IOCR. -/
theorem adds_iocr (iocrs : List IocrParam) (expApis : List ExpApi) (p : IocrParam) :
    Adds (iocrEvents iocrs.length p) (sizeIn iocrs expApis) (sizeIn (iocrs ++ [p]) expApis) := by
  have hnew : iocrs[iocrs.length]? = none := List.getElem?_eq_none le_rfl
  have hp : (iocrs ++ [p])[iocrs.length]? = some p := List.getElem?_concat_length
  intro a
  cases a with
  | iocrs =>
    refine ⟨?_, ?_, fun h => absurd rfl h⟩
    · show iocrs.length ≤ (iocrs ++ [p]).length
      rw [List.length_append]
      exact Nat.le_add_right _ _
    · have hloop : storesIn .iocrs (loopEvents (.crApis iocrs.length) (entryEvents iocrs.length)
          0 p.apis) = [] :=
        storesIn_loop_none (fun h => by cases h) (fun ix v => by simp [storesIn_entryEvents]) _ _
      rw [iocrEvents, storesIn_store, if_pos rfl, storesIn_count, hloop]
      simp [sizeIn]
  | crApis cr =>
    by_cases hcr : cr = iocrs.length
    · subst hcr
      rw [show sizeIn iocrs expApis (.crApis iocrs.length) = 0 by simp only [sizeIn, hnew]; rfl,
        show sizeIn (iocrs ++ [p]) expApis (.crApis iocrs.length) = p.apis.length by
          simp only [sizeIn, hp]; rfl]
      apply adds_all
      · rw [iocrEvents, storesIn_store, if_neg (by simp), storesIn_count]
        exact storesIn_loop_self _ (fun ix v => by simp [storesIn_entryEvents]) _
      · rw [iocrEvents, countsIn_store, countsIn_count, if_pos rfl,
          countsIn_loop_none _ (fun ix v => by simp [countsIn_entryEvents])]
    · have hother := @iocrEvents_of_ne (.crApis cr) iocrs.length p (fun h => by cases h)
        (fun h => hcr (ArrayRef.crApis.inj h).symm) (fun i h => by cases h) fun i h => by cases h
      exact adds_none hother.1 hother.2 (by simp only [sizeIn, getElem?_concat_of_ne hcr])
  | ioData cr i =>
    by_cases hcr : cr = iocrs.length
    · subst hcr
      rw [show sizeIn iocrs expApis (.ioData iocrs.length i) = 0 by simp only [sizeIn, hnew]; rfl,
        show sizeIn (iocrs ++ [p]) expApis (.ioData iocrs.length i) =
          (p.apis[i]?).elim 0 fun v => v.ioData.length by simp only [sizeIn, hp]; rfl]
      apply adds_part
      · rw [iocrEvents, storesIn_store, if_neg (by simp), storesIn_count]
        exact storesIn_loop_other (fun h => by cases h) (storesIn_ioData _ _) _
      · rw [iocrEvents, countsIn_store, countsIn_count, if_neg (by simp)]
        exact countsIn_loop_at (countsIn_ioData _ _) _
    · have hother := @iocrEvents_of_ne (.ioData cr i) iocrs.length p (fun h => by cases h)
        (fun h => by cases h) (fun i h => hcr (ArrayRef.ioData.inj h).1.symm) fun i h => by cases h
      exact adds_none hother.1 hother.2 (by simp only [sizeIn, getElem?_concat_of_ne hcr])
  | iocs cr i =>
    by_cases hcr : cr = iocrs.length
    · subst hcr
      rw [show sizeIn iocrs expApis (.iocs iocrs.length i) = 0 by simp only [sizeIn, hnew]; rfl,
        show sizeIn (iocrs ++ [p]) expApis (.iocs iocrs.length i) =
          (p.apis[i]?).elim 0 fun v => v.iocs.length by simp only [sizeIn, hp]; rfl]
      apply adds_part
      · rw [iocrEvents, storesIn_store, if_neg (by simp), storesIn_count]
        exact storesIn_loop_other (fun h => by cases h) (storesIn_iocs _ _) _
      · rw [iocrEvents, countsIn_store, countsIn_count, if_neg (by simp)]
        exact countsIn_loop_at (countsIn_iocs _ _) _
    · have hother := @iocrEvents_of_ne (.iocs cr i) iocrs.length p (fun h => by cases h)
        (fun h => by cases h) (fun i h => by cases h) fun i h => hcr (ArrayRef.iocs.inj h).1.symm
      exact adds_none hother.1 hother.2 (by simp only [sizeIn, getElem?_concat_of_ne hcr])
  | _ =>
    exact adds_none (iocrEvents_of_ne (by simp) (by simp) (by simp) (by simp)).1
      (iocrEvents_of_ne (by simp) (by simp) (by simp) (by simp)).2 rfl

/-! ## A block of the expected configuration -/

/-- What a submodule stores: its one or two descriptors, each of them counted. -/
def submoduleEvents (i j k : ℕ) (v : ExpSubmodule) : List Event :=
  (List.range v.dataDescriptor.length).flatMap fun d =>
    [.store (.dataDescriptor i j k) d, .count (.dataDescriptor i j k) (d + 1)]

/-- What a module stores. -/
def moduleEvents (i j : ℕ) (m : ExpModule) : List Event :=
  .store (.modules i) j :: .count (.modules i) (j + 1) ::
    .count (.submodules i j) m.submodules.length ::
    loopEvents (.submodules i j) (submoduleEvents i j) 0 m.submodules

theorem fills_expSubmodule (i j k : ℕ) :
    Fills (fillExpSubmodule i j k) getExpSubmodule fun v u => u = submoduleEvents i j k v := by
  -- the second descriptor, or none
  have hrest : ∀ subslotNumber ident (props : SubmoduleProperties) first,
      Fills (if props.type = PNET_DIR_IO then do
          note [.store (.dataDescriptor i j k) 1]
          let second ← read getDataDescriptor
          note [.count (.dataDescriptor i j k) 2]
          return ⟨subslotNumber, ident, props, [first, second]⟩
        else return ⟨subslotNumber, ident, props, [first]⟩)
        (if props.type = PNET_DIR_IO then do
          let second ← getDataDescriptor
          return ⟨subslotNumber, ident, props, [first, second]⟩
        else return ⟨subslotNumber, ident, props, [first]⟩)
        fun v u => .store (.dataDescriptor i j k) 0 :: .count (.dataDescriptor i j k) 1 :: u =
          submoduleEvents i j k v := by
    intro subslotNumber ident props first
    by_cases htype : props.type = PNET_DIR_IO
    · rw [if_pos htype, if_pos htype]
      refine (Fills.note _ ((fills_read _).bind fun second =>
        Fills.note _ (fills_pure _))).mono ?_
      rintro _ _ ⟨_, rfl, second, _, _, rfl, rfl, _, rfl, rfl, rfl⟩
      rfl
    · rw [if_neg htype, if_neg htype]
      refine (fills_pure _).mono ?_
      rintro _ _ ⟨rfl, rfl⟩
      rfl
  refine ((fills_read _).bind fun subslotNumber => (fills_read _).bind fun ident =>
    (fills_read _).bind fun properties => Fills.note _ ((fills_read _).bind fun first =>
      Fills.note _ (hrest _ _ _ first))).mono ?_
  rintro _ _ ⟨subslotNumber, _, _, rfl, rfl, ident, _, _, rfl, rfl, properties, _, _, rfl, rfl, _,
    rfl, first, _, _, rfl, rfl, _, rfl, heq⟩
  exact heq

theorem fills_expModule (i j : ℕ) (slotNumber : BitVec 16) :
    Fills (fillExpModule i j slotNumber) (getExpModule slotNumber) fun m u =>
      u = moduleEvents i j m := by
  refine (Fills.note _ (Fills.note _ ((fills_read _).bind fun fixed => Fills.note _
    ((fills_times (fills_expSubmodule i j) _ _).bind fun submodules => fills_pure _)))).mono ?_
  rintro _ _ ⟨_, rfl, _, rfl, fixed, _, _, rfl, rfl, _, rfl, submodules, _, _, rfl, ⟨hn, rfl⟩, rfl,
    rfl⟩
  simp only [moduleEvents, hn, List.nil_append, List.append_nil, List.cons_append]

theorem storesIn_submoduleEvents (a : ArrayRef) (i j k : ℕ) (v : ExpSubmodule) :
    storesIn a (submoduleEvents i j k v) =
      if .dataDescriptor i j k = a then List.range v.dataDescriptor.length else [] := by
  simp only [submoduleEvents, storesIn_flatMap, storesIn_store, storesIn_count, storesIn_nil]
  split
  · exact List.flatMap_singleton' _
  · simp

theorem countsIn_submoduleEvents (a : ArrayRef) (i j k : ℕ) (v : ExpSubmodule) :
    countsIn a (submoduleEvents i j k v) =
      if .dataDescriptor i j k = a then (List.range v.dataDescriptor.length).map (· + 1)
      else [] := by
  simp only [submoduleEvents, countsIn_flatMap, countsIn_store, countsIn_count, countsIn_nil]
  split
  · exact List.flatMap_pure_eq_map _ _
  · simp

/-- Elements that are counted one by one. -/
theorem getLastD_counted (n : ℕ) : ((List.range n).map (· + 1)).getLastD 0 = n := by
  rcases n with _ | n
  · rfl
  · rw [List.range_succ, List.map_append]
    exact List.getLastD_concat

theorem getElem?_addModule (expApis : List ExpApi) (i i' : ℕ) (m : ExpModule) :
    (addModule expApis i m)[i']? =
      if i = i' then (expApis[i']?).map fun a => { a with modules := a.modules ++ [m] }
      else expApis[i']? := by
  rw [addModule, List.getElem?_modify]
  split
  · rfl
  · simp

/-- A module touches the arrays of no other module. -/
theorem moduleEvents_of_ne {a : ArrayRef} {i j : ℕ} {m : ExpModule} (hmodules : .modules i ≠ a)
    (hsub : .submodules i j ≠ a) (hdesc : ∀ k, .dataDescriptor i j k ≠ a) :
    storesIn a (moduleEvents i j m) = [] ∧ countsIn a (moduleEvents i j m) = [] := by
  have hstores : ∀ ix v, storesIn a (submoduleEvents i j ix v) = [] := by
    intro ix v
    rw [storesIn_submoduleEvents, if_neg (hdesc ix)]
  have hcounts : ∀ ix v, countsIn a (submoduleEvents i j ix v) = [] := by
    intro ix v
    rw [countsIn_submoduleEvents, if_neg (hdesc ix)]
  constructor
  · rw [moduleEvents, storesIn_store, if_neg hmodules, storesIn_count, storesIn_count]
    exact storesIn_loop_none hsub hstores _ _
  · rw [moduleEvents, countsIn_store, countsIn_count, if_neg hmodules, countsIn_count,
      if_neg hsub]
    exact countsIn_loop_none _ hcounts _ _

/-- A module goes behind the modules of its API. -/
theorem adds_module (iocrs : List IocrParam) {expApis : List ExpApi} {i : ℕ} {x : ExpApi}
    (hx : expApis[i]? = some x) (m : ExpModule) :
    Adds (moduleEvents i x.modules.length m) (sizeIn iocrs expApis)
      (sizeIn iocrs (addModule expApis i m)) := by
  have hnew : x.modules[x.modules.length]? = none := List.getElem?_eq_none le_rfl
  have hm : (x.modules ++ [m])[x.modules.length]? = some m := List.getElem?_concat_length
  have hself : (addModule expApis i m)[i]? = some { x with modules := x.modules ++ [m] } := by
    rw [getElem?_addModule, if_pos rfl, hx]
    rfl
  intro a
  cases a with
  | modules i' =>
    by_cases hi : i = i'
    · subst hi
      rw [show sizeIn iocrs expApis (.modules i) = x.modules.length by
          simp only [sizeIn, modulesAt, hx]; rfl,
        show sizeIn iocrs (addModule expApis i m) (.modules i) = x.modules.length + 1 by
          simp only [sizeIn, modulesAt, hself, Option.elim, List.length_append]; rfl]
      refine ⟨Nat.le_succ _, ?_, fun _ => ?_⟩
      · rw [moduleEvents, storesIn_store, if_pos rfl, storesIn_count, storesIn_count,
          storesIn_loop_none (by simp) (fun ix v => by simp [storesIn_submoduleEvents]),
          Nat.add_sub_cancel_left]
        rfl
      · rw [moduleEvents, countsIn_store, countsIn_count, if_pos rfl, countsIn_count,
          if_neg (by simp), countsIn_loop_none _ fun ix v => by simp [countsIn_submoduleEvents]]
        rfl
    · have hother := @moduleEvents_of_ne (.modules i') i x.modules.length m (by simp [hi])
        (by simp) (by simp)
      refine adds_none hother.1 hother.2 ?_
      simp only [sizeIn, modulesAt, getElem?_addModule, if_neg hi]
  | submodules i' j' =>
    by_cases hi : i = i'
    · subst hi
      by_cases hj : j' = x.modules.length
      · subst hj
        rw [show sizeIn iocrs expApis (.submodules i x.modules.length) = 0 by
            simp only [sizeIn, hx, Option.bind, hnew]; rfl,
          show sizeIn iocrs (addModule expApis i m) (.submodules i x.modules.length) =
            m.submodules.length by simp only [sizeIn, hself, Option.bind, hm]; rfl]
        apply adds_all
        · rw [moduleEvents, storesIn_store, if_neg (by simp), storesIn_count, storesIn_count]
          exact storesIn_loop_self _ (fun ix v => by simp [storesIn_submoduleEvents]) _
        · rw [moduleEvents, countsIn_store, countsIn_count, if_neg (by simp), countsIn_count,
            if_pos rfl, countsIn_loop_none _ fun ix v => by simp [countsIn_submoduleEvents]]
      · have hother := @moduleEvents_of_ne (.submodules i j') i x.modules.length m (by simp)
          (by simpa using Ne.symm hj) (by simp)
        refine adds_none hother.1 hother.2 ?_
        simp only [sizeIn, hx, hself, Option.bind, getElem?_concat_of_ne hj]
    · have hother := @moduleEvents_of_ne (.submodules i' j') i x.modules.length m (by simp)
        (by simp [hi]) (by simp)
      refine adds_none hother.1 hother.2 ?_
      simp only [sizeIn, getElem?_addModule, if_neg hi]
  | dataDescriptor i' j' k =>
    by_cases hi : i = i'
    · subst hi
      by_cases hj : j' = x.modules.length
      · subst hj
        rw [show sizeIn iocrs expApis (.dataDescriptor i x.modules.length k) = 0 by
            simp only [sizeIn, hx, Option.bind, hnew]; rfl,
          show sizeIn iocrs (addModule expApis i m) (.dataDescriptor i x.modules.length k) =
            (m.submodules[k]?).elim 0 fun v => v.dataDescriptor.length by
              simp only [sizeIn, hself, Option.bind, hm]]
        have hstores : storesIn (.dataDescriptor i x.modules.length k)
            (moduleEvents i x.modules.length m) =
              (m.submodules[k]?).elim [] fun v => List.range v.dataDescriptor.length := by
          rw [moduleEvents, storesIn_store, if_neg (by simp), storesIn_count, storesIn_count]
          exact storesIn_loop_other (by simp) (fun ix v => by simp [storesIn_submoduleEvents]) _
        have hcounts : countsIn (.dataDescriptor i x.modules.length k)
            (moduleEvents i x.modules.length m) =
              (m.submodules[k]?).elim [] fun v => (List.range v.dataDescriptor.length).map (· + 1) := by
          rw [moduleEvents, countsIn_store, countsIn_count, if_neg (by simp), countsIn_count,
            if_neg (by simp)]
          exact countsIn_loop_at (fun ix v => by simp [countsIn_submoduleEvents]) _
        generalize m.submodules[k]? = v at *
        rcases v with _ | v
        · exact adds_none hstores hcounts rfl
        · refine ⟨Nat.zero_le _, ?_, fun _ => ?_⟩
          · rw [hstores]
            exact List.range_eq_range'
          · rw [hcounts]
            exact getLastD_counted _
      · have hother := @moduleEvents_of_ne (.dataDescriptor i j' k) i x.modules.length m (by simp)
          (by simp) (by simp [Ne.symm hj])
        refine adds_none hother.1 hother.2 ?_
        simp only [sizeIn, hx, hself, Option.bind, getElem?_concat_of_ne hj]
    · have hother := @moduleEvents_of_ne (.dataDescriptor i' j' k) i x.modules.length m (by simp)
        (by simp) (by simp [hi])
      refine adds_none hother.1 hother.2 ?_
      simp only [sizeIn, getElem?_addModule, if_neg hi]
  | expApis =>
    refine adds_none (moduleEvents_of_ne (by simp) (by simp) (by simp)).1
      (moduleEvents_of_ne (by simp) (by simp) (by simp)).2 ?_
    exact (List.length_modify ..).symm
  | _ =>
    exact adds_none (moduleEvents_of_ne (by simp) (by simp) (by simp)).1
      (moduleEvents_of_ne (by simp) (by simp) (by simp)).2 rfl

/-- A new API has no modules yet. -/
theorem adds_place (iocrs : List IocrParam) (st : ExpState) (api : BitVec 32) :
    Adds (placeEvents st api) (sizeIn iocrs st.expApis)
      (sizeIn iocrs (placeExpApi st api).expApis) := by
  unfold placeEvents placeExpApi
  dsimp only
  by_cases hnew : findExpApi st.expApis api st.pApi = none ∧ st.expApis.length < PNET_MAX_API
  · rw [if_pos hnew, if_pos hnew]
    have hnone : st.expApis[st.expApis.length]? = none := List.getElem?_eq_none le_rfl
    have hsome : (st.expApis ++ [⟨api, []⟩])[st.expApis.length]? = some ⟨api, []⟩ :=
      List.getElem?_concat_length
    intro a
    cases a with
    | expApis => simp [sizeIn]
    | modules i =>
      by_cases hi : i = st.expApis.length
      · subst hi
        simp [sizeIn, modulesAt]
      · refine adds_none (by simp) (by simp [Ne.symm hi]) ?_
        simp only [sizeIn, modulesAt, getElem?_concat_of_ne hi]
    | submodules i j =>
      refine adds_none (by simp) (by simp) ?_
      by_cases hi : i = st.expApis.length
      · subst hi
        simp [sizeIn]
      · simp only [sizeIn, getElem?_concat_of_ne hi]
    | dataDescriptor i j k =>
      refine adds_none (by simp) (by simp) ?_
      by_cases hi : i = st.expApis.length
      · subst hi
        simp [sizeIn]
      · simp only [sizeIn, getElem?_concat_of_ne hi]
    | _ => exact adds_none (by simp) (by simp) rfl
  · rw [if_neg hnew, if_neg hnew]
    exact Adds.nil _

/-- `p_api` points into the array. -/
def ExpState.Valid (st : ExpState) : Prop := ∀ i, st.pApi = some i → i < st.expApis.length

theorem findExpApi_lt {expApis : List ExpApi} {api : BitVec 32} {pApi : Option ℕ} {i : ℕ}
    (hp : ∀ i, pApi = some i → i < expApis.length) (h : findExpApi expApis api pApi = some i) :
    i < expApis.length := by
  have hfold : ∀ (l : List ℕ) (p : Option ℕ), (∀ iy ∈ l, iy < expApis.length) →
      (∀ i, p = some i → i < expApis.length) → ∀ i,
      l.foldl (fun p iy => if (expApis[iy]?).any (·.api = api) then some iy else p) p = some i →
      i < expApis.length := by
    intro l
    induction l with
    | nil => exact fun p _ hp i h => hp i h
    | cons iy l ih =>
      intro p hl hp
      rw [List.foldl_cons]
      apply ih _ fun i hi => hl i (List.mem_cons_of_mem _ hi)
      intro i h
      split at h
      · cases h
        exact hl _ (List.mem_cons_self ..)
      · exact hp i h
  exact hfold _ pApi (fun iy h => List.mem_range.mp h) hp i h

theorem placeExpApi_valid {st : ExpState} (hst : st.Valid) (api : BitVec 32) :
    (placeExpApi st api).Valid := by
  unfold placeExpApi
  dsimp only
  split
  · intro i h
    cases h
    simp
  · intro i h
    exact findExpApi_lt hst h

theorem addModule_length (expApis : List ExpApi) (i : ℕ) (m : ExpModule) :
    (addModule expApis i m).length = expApis.length := List.length_modify ..

/-- What an entry stores behind its API is added to the arrays. -/
theorem fills_expSlot (iocrs : List IocrParam) {placed : ExpState} (hplaced : placed.Valid) :
    Fills (fillExpSlot placed) (getExpSlot placed) fun st u =>
      Adds u (sizeIn iocrs placed.expApis) (sizeIn iocrs st.expApis) ∧ st.Valid := by
  rcases placed with ⟨expApis, _ | i⟩
  · refine ((fills_read _).bind fun _ => fills_pure _).mono ?_
    rintro _ _ ⟨_, _, _, rfl, rfl, rfl, rfl⟩
    exact ⟨Adds.nil _, hplaced⟩
  · have hi : i < expApis.length := hplaced i rfl
    have hx : expApis[i]? = some expApis[i] := List.getElem?_eq_getElem hi
    have hat : modulesAt expApis i = expApis[i].modules.length := by
      rw [modulesAt, hx]
      rfl
    refine ((fills_read _).bind fun slotNumber => ?_ : Fills _ _ fun st u => ∃ v u1 u2,
      u = u1 ++ u2 ∧ u1 = [] ∧ (Adds u2 (sizeIn iocrs expApis) (sizeIn iocrs st.expApis) ∧
        st.Valid)).mono ?_
    · dsimp only
      by_cases hroom : modulesAt expApis i < PNET_MAX_SLOTS
      · rw [if_pos hroom, if_pos hroom]
        refine ((fills_expModule i _ slotNumber).bind fun m => fills_pure _).mono ?_
        rintro _ _ ⟨m, _, _, rfl, rfl, rfl, rfl⟩
        rw [List.append_nil, hat]
        refine ⟨adds_module iocrs hx m, ?_⟩
        intro i' h
        show i' < (addModule expApis i m).length
        rw [addModule_length]
        exact hplaced i' h
      · rw [if_neg hroom, if_neg hroom]
        refine ((fills_read _).bind fun _ => fills_pure _).mono ?_
        rintro _ _ ⟨_, _, _, rfl, rfl, rfl, rfl⟩
        exact ⟨Adds.nil _, hplaced⟩
    · rintro st u ⟨_, _, _, rfl, rfl, h⟩
      exact h

theorem fills_expEntry (iocrs : List IocrParam) {st : ExpState} (hst : st.Valid) :
    Fills (fillExpEntry st) (getExpEntry st) fun st' u =>
      Adds u (sizeIn iocrs st.expApis) (sizeIn iocrs st'.expApis) ∧ st'.Valid := by
  refine ((fills_read _).bind fun api => Fills.note _
    (fills_expSlot iocrs (placeExpApi_valid hst api))).mono ?_
  rintro st' _ ⟨api, _, _, rfl, rfl, u, rfl, hadds, hvalid⟩
  exact ⟨(adds_place iocrs st api).append hadds, hvalid⟩

theorem fills_expEntries (iocrs : List IocrParam) (n : ℕ) {st : ExpState} (hst : st.Valid) :
    Fills (fillExpEntries n st) (getExpEntries n st) fun st' u =>
      Adds u (sizeIn iocrs st.expApis) (sizeIn iocrs st'.expApis) := by
  induction n generalizing st with
  | zero =>
    refine (fills_pure _).mono ?_
    rintro _ _ ⟨rfl, rfl⟩
    exact Adds.nil _
  | succ n ih =>
    intro s
    rcases fills_expEntry iocrs hst s with ⟨u, heq, hadds, hvalid⟩
    rcases ih hvalid ⟨(getExpEntry st s.reader).2, s.trace ++ u⟩ with ⟨u', heq', hadds'⟩
    refine ⟨u ++ u', ?_, hadds.append hadds'⟩
    show fillExpEntries n (fillExpEntry st s).1 (fillExpEntry st s).2 = _
    rw [heq, heq', List.append_assoc]
    rfl

/-- A block of the expected configuration adds its modules. -/
theorem fills_expApiModule (iocrs : List IocrParam) (expApis : List ExpApi) :
    Fills (fillExpApiModule expApis) (getExpApiModule expApis) fun expApis' u =>
      Adds u (sizeIn iocrs expApis) (sizeIn iocrs expApis') := by
  have hvalid : (⟨expApis, none⟩ : ExpState).Valid := fun i h => by cases h
  refine ((fills_read _).bind fun n => (fills_expEntries iocrs _ hvalid).bind fun st =>
    fills_pure _).mono ?_
  rintro _ _ ⟨n, _, _, rfl, rfl, st, _, _, rfl, hadds, rfl, rfl⟩
  rw [List.nil_append, List.append_nil]
  exact hadds

/-! ## The request -/

/-- A block only counts what it has stored, or is refused. -/
theorem checkBlockHeader_cases (st : ConnectState) (blockLength : BitVec 16) (header : BlockHeader)
    (errCode1 : Byte) (count : AskedAr → AskedAr) :
    let out := st.checkBlockHeader blockLength header errCode1 count
    out.ok = false ∧ out.ar = st.ar ∨ out.ok = st.ok ∧ out.ar = count st.ar := by
  unfold ConnectState.checkBlockHeader
  split
  · exact .inl ⟨rfl, rfl⟩
  split
  · exact .inl ⟨rfl, rfl⟩
  split
  · exact .inl ⟨rfl, rfl⟩
  · exact .inr ⟨rfl, rfl⟩

theorem closeBlock_cases (st : ConnectState) (dataPos : ℕ) (header : BlockHeader)
    (errCode1 : Byte) (count : AskedAr → AskedAr) :
    let out := st.closeBlock dataPos header errCode1 count
    out.ok = false ∧ out.ar = st.ar ∨ out.ok = st.ok ∧ out.ar = count st.ar := by
  unfold ConnectState.closeBlock
  split
  · exact .inl ⟨rfl, rfl⟩
  · exact checkBlockHeader_cases ..

/-- The arrays behind a block. -/
def arraysAfter (header : BlockHeader) (st : ConnectState) : List IocrParam × List ExpApi :=
  if header.blockType = PF_BT_IOCR_BLOCK_REQ then
    if st.ar.nbrIocrs < PNET_MAX_CR then
      (st.ar.iocrs ++ [(getIocrParam st.reader).1], st.ar.expApis)
    else (st.ar.iocrs, st.ar.expApis)
  else if header.blockType = PF_BT_EXPECTED_SUBMODULE_BLOCK then
    (st.ar.iocrs, (getExpApiModule st.ar.expApis st.reader).1)
  else (st.ar.iocrs, st.ar.expApis)

/-- Every IOCR in the array is counted, as long as no block has been refused. -/
def ConnectState.CrsCounted (st : ConnectState) : Prop :=
  st.ok = true → st.ar.iocrs.length = st.ar.nbrIocrs

/-- The arrays are as before, and so is the count of the IOCRs. -/
def ConnectState.KeepsArrays (st out : ConnectState) : Prop :=
  (out.ar.iocrs, out.ar.expApis) = (st.ar.iocrs, st.ar.expApis) ∧
    (st.CrsCounted → out.CrsCounted)

/-- A block that leaves the arrays alone. -/
theorem readPlainBlock_arrays (get : Get α) {put : α → AskedAr → AskedAr} {errCode1 : Byte}
    {count : AskedAr → AskedAr} (header : BlockHeader) (st : ConnectState)
    (hput : ∀ v ar, (put v ar).iocrs = ar.iocrs ∧ (put v ar).expApis = ar.expApis ∧
      (put v ar).nbrIocrs = ar.nbrIocrs)
    (hcount : ∀ ar, (count ar).iocrs = ar.iocrs ∧ (count ar).expApis = ar.expApis ∧
      (count ar).nbrIocrs = ar.nbrIocrs) :
    st.KeepsArrays (readPlainBlock get put errCode1 count header st) := by
  unfold readPlainBlock ConnectState.KeepsArrays ConnectState.CrsCounted
  generalize get st.reader = result
  rcases result with ⟨v, reader⟩
  dsimp only
  rcases hput v st.ar with ⟨h1, h2, h3⟩
  rcases closeBlock_cases { st with ar := put v st.ar, reader } st.reader.pos header errCode1 count
    with ⟨hok, har⟩ | ⟨hok, har⟩
  · rw [hok, har]
    exact ⟨by rw [h1, h2], fun _ h => by cases h⟩
  · rw [hok, har]
    rcases hcount (put v st.ar) with ⟨h1', h2', h3'⟩
    refine ⟨by rw [h1', h2', h1, h2], fun h => ?_⟩
    rw [h1', h3', h1, h3]
    exact h

theorem readArBlock_arrays (header : BlockHeader) (st : ConnectState) :
    st.KeepsArrays (readArBlock header st) := by
  unfold readArBlock ConnectState.KeepsArrays ConnectState.CrsCounted
  dsimp only
  generalize getArParam st.ar.arParam st.reader = result
  rcases result with ⟨arParam, reader⟩
  dsimp only
  split
  · exact ⟨rfl, fun _ h => by cases h⟩
  · rcases checkBlockHeader_cases { st with ar := { st.ar with arParam }, reader }
      (BitVec.ofNat 16 (54 + strlen arParam.cmInitiatorStationName)) header
      PNET_ERROR_CODE_1_CONN_FAULTY_AR_BLOCK_REQ
      (fun ar => { ar with nbrArParam := ar.nbrArParam + 1 }) with ⟨hok, har⟩ | ⟨hok, har⟩
    · rw [hok, har]
      exact ⟨rfl, fun _ h => by cases h⟩
    · rw [hok, har]
      exact ⟨rfl, id⟩

theorem readIocrBlock_arrays (header : BlockHeader) (st : ConnectState) :
    let out := readIocrBlock header st
    (out.ar.iocrs, out.ar.expApis) =
        (if st.ar.nbrIocrs < PNET_MAX_CR then
          (st.ar.iocrs ++ [(getIocrParam st.reader).1], st.ar.expApis)
        else (st.ar.iocrs, st.ar.expApis)) ∧
      (st.CrsCounted → st.ok = true → out.CrsCounted) := by
  unfold readIocrBlock ConnectState.CrsCounted
  by_cases hroom : st.ar.nbrIocrs < PNET_MAX_CR
  · rw [if_pos hroom, if_pos hroom]
    generalize getIocrParam st.reader = result
    rcases result with ⟨param, reader⟩
    dsimp only
    rcases closeBlock_cases
      { st with ar := countIocr param { st.ar with iocrs := st.ar.iocrs ++ [param] }, reader }
      st.reader.pos header PNET_ERROR_CODE_1_CONN_FAULTY_IOCR_BLOCK_REQ
      (fun ar => { ar with nbrIocrs := ar.nbrIocrs + 1 }) with ⟨hok, har⟩ | ⟨hok, har⟩
    · rw [hok, har]
      exact ⟨rfl, fun _ _ h => by cases h⟩
    · rw [hok, har]
      refine ⟨rfl, fun hcounted hst _ => ?_⟩
      show (st.ar.iocrs ++ [param]).length = st.ar.nbrIocrs + 1
      rw [List.length_append, hcounted hst]
      rfl
  · rw [if_neg hroom, if_neg hroom]
    exact ⟨rfl, fun _ _ h => by cases h⟩

theorem readExpBlock_arrays (header : BlockHeader) (st : ConnectState) :
    let out := readExpBlock header st
    (out.ar.iocrs, out.ar.expApis) =
        (st.ar.iocrs, (getExpApiModule st.ar.expApis st.reader).1) ∧
      (st.CrsCounted → out.CrsCounted) := by
  unfold readExpBlock ConnectState.CrsCounted
  generalize getExpApiModule st.ar.expApis st.reader = result
  rcases result with ⟨expApis, reader⟩
  dsimp only
  generalize reader.info.result = e
  cases e with
  | PF_PARSE_OK =>
    dsimp only
    rcases closeBlock_cases { st with ar := { st.ar with expApis }, reader } st.reader.pos header
      PNET_ERROR_CODE_1_CONN_FAULTY_EXP_BLOCK_REQ id with ⟨hok, har⟩ | ⟨hok, har⟩
    · rw [hok, har]
      exact ⟨rfl, fun _ h => by cases h⟩
    · rw [hok, har]
      exact ⟨rfl, id⟩
  | _ => exact ⟨rfl, fun _ h => by cases h⟩

/-- A block of another type leaves the arrays alone. -/
theorem readBlock_keeps {header : BlockHeader} (hiocr : header.blockType ≠ PF_BT_IOCR_BLOCK_REQ)
    (hexp : header.blockType ≠ PF_BT_EXPECTED_SUBMODULE_BLOCK) (st : ConnectState) :
    st.KeepsArrays (readBlock header st) := by
  unfold readBlock
  by_cases har : header.blockType = PF_BT_AR_BLOCK_REQ
  · rw [if_pos har]
    exact readArBlock_arrays header st
  rw [if_neg har, if_neg hiocr, if_neg hexp]
  unfold readAlarmCrBlock readPrmServerBlock readMcrBlock readRpcServerBlock readArVendorBlock
    readIrInfoBlock
  split
  · exact readPlainBlock_arrays _ _ _ (fun _ _ => ⟨rfl, rfl, rfl⟩) fun _ => ⟨rfl, rfl, rfl⟩
  split
  · exact readPlainBlock_arrays _ _ _ (fun _ _ => ⟨rfl, rfl, rfl⟩) fun _ => ⟨rfl, rfl, rfl⟩
  split
  · exact readPlainBlock_arrays _ _ _ (fun _ _ => ⟨rfl, rfl, rfl⟩) fun _ => ⟨rfl, rfl, rfl⟩
  split
  · exact readPlainBlock_arrays _ _ _ (fun _ _ => ⟨rfl, rfl, rfl⟩) fun _ => ⟨rfl, rfl, rfl⟩
  split
  · exact readPlainBlock_arrays _ _ _ (fun _ _ => ⟨rfl, rfl, rfl⟩) fun _ => ⟨rfl, rfl, rfl⟩
  split
  · exact readPlainBlock_arrays _ _ _ (fun _ _ => ⟨rfl, rfl, rfl⟩) fun _ => ⟨rfl, rfl, rfl⟩
  · exact ⟨rfl, fun _ h => by cases h⟩

/-- What a block makes of the arrays. -/
theorem readBlock_arrays (header : BlockHeader) (st : ConnectState) :
    ((readBlock header st).ar.iocrs, (readBlock header st).ar.expApis) = arraysAfter header st ∧
      (st.CrsCounted → st.ok = true → (readBlock header st).CrsCounted) := by
  by_cases hiocr : header.blockType = PF_BT_IOCR_BLOCK_REQ
  · have har : header.blockType ≠ PF_BT_AR_BLOCK_REQ := by
      rw [hiocr]
      decide
    rw [readBlock, if_neg har, if_pos hiocr, arraysAfter, if_pos hiocr]
    exact readIocrBlock_arrays header st
  by_cases hexp : header.blockType = PF_BT_EXPECTED_SUBMODULE_BLOCK
  · have har : header.blockType ≠ PF_BT_AR_BLOCK_REQ := by
      rw [hexp]
      decide
    rw [readBlock, if_neg har, if_neg hiocr, if_pos hexp, arraysAfter, if_neg hiocr, if_pos hexp]
    rcases readExpBlock_arrays header st with ⟨harrays, hcounted⟩
    exact ⟨harrays, fun h _ => hcounted h⟩
  · rw [arraysAfter, if_neg hiocr, if_neg hexp]
    rcases readBlock_keeps hiocr hexp st with ⟨harrays, hcounted⟩
    exact ⟨harrays, fun h _ => hcounted h⟩

/-- What a block stores is what it adds to the arrays. -/
theorem adds_block (header : BlockHeader) {st : ConnectState}
    (hcounted : st.ar.iocrs.length = st.ar.nbrIocrs) :
    Adds (BlockRead.trace ⟨header, st⟩) (sizeIn st.ar.iocrs st.ar.expApis)
      (sizeIn (arraysAfter header st).1 (arraysAfter header st).2) := by
  unfold BlockRead.trace arraysAfter
  dsimp only
  by_cases hiocr : header.blockType = PF_BT_IOCR_BLOCK_REQ
  · rw [if_pos hiocr, if_pos hiocr]
    by_cases hroom : st.ar.nbrIocrs < PNET_MAX_CR
    · rw [if_pos hroom, if_pos hroom]
      rcases fills_iocrParam st.ar.nbrIocrs ⟨st.reader, []⟩ with ⟨_, heq, rfl⟩
      rw [heq, List.nil_append, ← hcounted]
      exact adds_iocr _ _ _
    · rw [if_neg hroom, if_neg hroom]
      exact Adds.nil _
  · rw [if_neg hiocr, if_neg hiocr]
    by_cases hexp : header.blockType = PF_BT_EXPECTED_SUBMODULE_BLOCK
    · rw [if_pos hexp, if_pos hexp]
      rcases fills_expApiModule st.ar.iocrs st.ar.expApis ⟨st.reader, []⟩ with ⟨u, heq, hadds⟩
      rw [heq, List.nil_append]
      exact hadds
    · rw [if_neg hexp, if_neg hexp]
      exact Adds.nil _

/-- The blocks of a request store what they add to the arrays. -/
theorem adds_blocks (fuel : ℕ) {st : ConnectState} (hcounted : st.CrsCounted) :
    let (blocks, out, _) := connectBlocks fuel st
    Adds (blocks.flatMap BlockRead.trace) (sizeIn st.ar.iocrs st.ar.expApis)
      (sizeIn out.ar.iocrs out.ar.expApis) := by
  induction fuel generalizing st with
  | zero => exact Adds.nil _
  | succ fuel ih =>
    unfold connectBlocks
    by_cases hloop : st.ok ∧ st.reader.info.result = .PF_PARSE_OK ∧
        st.reader.pos + blockHeaderSize ≤ st.reader.info.len
    · rw [if_pos hloop]
      generalize getBlockHeader st.reader = result
      rcases result with ⟨header, reader⟩
      dsimp only
      by_cases hfits : blockFits header reader = true
      · rw [if_pos hfits]
        have hblock := @adds_block header { st with reader } (hcounted hloop.1)
        rcases readBlock_arrays header { st with reader } with ⟨harrays, hnext⟩
        have hrest := @ih { readBlock header { st with reader } with firstBlock := false }
          (hnext hcounted hloop.1)
        generalize connectBlocks fuel
          { readBlock header { st with reader } with firstBlock := false } = rest at *
        rcases rest with ⟨blocks, out, returned⟩
        rw [← harrays] at hblock
        exact hblock.append hrest
      · rw [if_neg hfits]
        exact Adds.nil _
    · rw [if_neg hloop]
      exact Adds.nil _

end PNet.Connect
