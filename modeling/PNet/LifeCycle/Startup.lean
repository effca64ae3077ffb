import PNet.LifeCycle.Timers

/-! # The start-up of a connection

An AR is told of DATA by CMDEV in two places, when the controller confirms that the application is
ready and when CMIO polls. `Live` is what holds of a connection in between: which events it has had,
from the states of CMDEV and CMIO, and what CMIO knows about its output CRs.

* `Lawful`: each event of a history comes after what the start-up prescribes.
* `lawful_of_run`: the history of each run is lawful.
-/

namespace PNet.LifeCycle

open Scheduler
open Connect (PF_IOCR_TYPE_OUTPUT)

/-! ## Histories -/

/-- The connection that a note is about. -/
def Note.number : Note → ℕ
  | .connect n _ => n
  | .event n _ => n
  | .confirmed n => n
  | .accepted n _ => n

/-- What has happened since PRMEND, of a history from the newest to the oldest. -/
def sincePrmEnd (n : ℕ) (notes : List Note) : List Note :=
  notes.takeWhile fun x => x ≠ .event n .PNET_EVENT_PRMEND

/-- What has to happen before DATA. -/
structure Prescribed (n : ℕ) (before : List Note) : Prop where
  first : Note.event n .PNET_EVENT_DATA ∉ before
  startup : [.confirmed n, .event n .PNET_EVENT_APPLRDY, .event n .PNET_EVENT_PRMEND,
    .event n .PNET_EVENT_STARTUP].Sublist before
  /-- Each output CR has accepted a frame. -/
  outputs : ∀ outputs, .connect n outputs ∈ before → ∀ crep ∈ outputs,
    .accepted n crep ∈ sincePrmEnd n before

/-- The note may follow. -/
def Admissible (before : List Note) : Note → Prop
  | .event n e => Note.event n .PNET_EVENT_ABORT ∉ before ∧
    (e = .PNET_EVENT_DATA → Prescribed n before)
  | _ => True

/-- Each note may follow those before it. -/
def Lawful : List Note → Prop
  | [] => True
  | x :: before => Admissible before x ∧ Lawful before

theorem mem_sincePrmEnd_cons {n : ℕ} {x y : Note} {notes : List Note}
    (hx : x ≠ .event n .PNET_EVENT_PRMEND) (h : y ∈ sincePrmEnd n notes) :
    y ∈ sincePrmEnd n (x :: notes) := by
  have hcons : sincePrmEnd n (x :: notes) = x :: sincePrmEnd n notes :=
    List.takeWhile_cons_of_pos (decide_eq_true hx)
  rw [hcons]
  exact List.mem_cons_of_mem x h

theorem mem_sincePrmEnd_self {n crep : ℕ} (notes : List Note) :
    Note.accepted n crep ∈ sincePrmEnd n (.accepted n crep :: notes) := by
  have hcons : sincePrmEnd n (.accepted n crep :: notes) =
      .accepted n crep :: sincePrmEnd n notes := List.takeWhile_cons_of_pos (decide_eq_true nofun)
  rw [hcons]
  exact List.mem_cons_self

/-- Notes of other connections. -/
theorem mem_sincePrmEnd_append {n : ℕ} {y : Note} {xs notes : List Note}
    (hxs : ∀ x ∈ xs, x.number ≠ n) (h : y ∈ sincePrmEnd n notes) :
    y ∈ sincePrmEnd n (xs ++ notes) := by
  induction xs with
  | nil => exact h
  | cons x xs ih =>
    refine mem_sincePrmEnd_cons ?_ (ih fun x hx => hxs x (List.mem_cons_of_mem _ hx))
    rintro rfl
    exact hxs _ List.mem_cons_self rfl

theorem mem_of_mem_append {y : Note} {xs notes : List Note}
    (hxs : ∀ x ∈ xs, x.number ≠ y.number) (h : y ∈ xs ++ notes) : y ∈ notes := by
  rcases List.mem_append.mp h with hmem | hmem
  · exact absurd rfl (hxs y hmem)
  · exact hmem

/-! ## Connections -/

/-- An AR that is in use. -/
structure Live (st : Stack) (a : ℕ) : Prop where
  number : st.connection a < st.connections
  alive : Note.event (st.connection a) .PNET_EVENT_ABORT ∉ st.notes
  room : (st.ar a).nbrIocrs ≤ PNET_MAX_CR
  outputs : ∀ outputs, .connect (st.connection a) outputs ∈ st.notes → ∀ crep ∈ outputs,
    crep < (st.ar a).nbrIocrs ∧ (st.iocr (crOf a crep)).iocrType = PF_IOCR_TYPE_OUTPUT
  early : AtRest st .cmio a →
    (st.ar a).ready4Data = false ∧ ∀ c, c / PNET_MAX_CR = a → (st.iocr c).cmioStart = false
  peind : (st.ar a).cmdevState = .PF_CMDEV_STATE_W_PEIND →
    (st.ar a).cmioState = .PF_CMIO_STATE_STARTUP
  startup : (st.ar a).cmioState = .PF_CMIO_STATE_STARTUP →
    [.event (st.connection a) .PNET_EVENT_STARTUP].Sublist st.notes
  prmEnd : (st.ar a).cmioState = .PF_CMIO_STATE_WDATA →
    [.event (st.connection a) .PNET_EVENT_PRMEND,
      .event (st.connection a) .PNET_EVENT_STARTUP].Sublist st.notes
  /-- The CPM has accepted a frame. -/
  start : (st.ar a).cmioState = .PF_CMIO_STATE_WDATA → ∀ crep < PNET_MAX_CR,
    (st.iocr (crOf a crep)).cmioStart = true →
    .accepted (st.connection a) crep ∈ sincePrmEnd (st.connection a) st.notes
  /-- All of them have. -/
  ready : (st.ar a).cmioState = .PF_CMIO_STATE_WDATA → (st.ar a).ready4Data = true →
    ∀ crep < (st.ar a).nbrIocrs, (st.iocr (crOf a crep)).iocrType = PF_IOCR_TYPE_OUTPUT →
    .accepted (st.connection a) crep ∈ sincePrmEnd (st.connection a) st.notes
  applRdy : (st.ar a).cmioState = .PF_CMIO_STATE_WDATA →
    (st.ar a).cmdevState = .PF_CMDEV_STATE_W_ARDYCNF ∨
      (st.ar a).cmdevState = .PF_CMDEV_STATE_WDATA →
    [.event (st.connection a) .PNET_EVENT_APPLRDY, .event (st.connection a) .PNET_EVENT_PRMEND,
      .event (st.connection a) .PNET_EVENT_STARTUP].Sublist st.notes
  confirmed : (st.ar a).cmioState = .PF_CMIO_STATE_WDATA →
    (st.ar a).cmdevState = .PF_CMDEV_STATE_WDATA →
    [.confirmed (st.connection a), .event (st.connection a) .PNET_EVENT_APPLRDY,
      .event (st.connection a) .PNET_EVENT_PRMEND,
      .event (st.connection a) .PNET_EVENT_STARTUP].Sublist st.notes
  data : (st.ar a).cmioState = .PF_CMIO_STATE_DATA → (st.ar a).cmdevState = .PF_CMDEV_STATE_DATA
  fresh : (st.ar a).cmdevState ≠ .PF_CMDEV_STATE_DATA →
    Note.event (st.connection a) .PNET_EVENT_DATA ∉ st.notes

/-- What holds after each step. -/
structure Law (st : Stack) : Prop where
  lawful : Lawful st.notes
  number : ∀ x ∈ st.notes, x.number < st.connections
  live : ∀ a, (st.ar a).inUse = true → Live st a
  distinct : ∀ a a', (st.ar a).inUse = true → (st.ar a').inUse = true →
    st.connection a = st.connection a' → a = a'

variable {p : Kind → Prop} {sent : Prop} {st st' : Stack} {a c : ℕ} {xs : List Note}

/-! ## What leaves a connection as it is -/

/-- Nothing changes that a connection depends on. -/
structure Calm (st st' : Stack) : Prop where
  inUse : ∀ a, (st'.ar a).inUse = (st.ar a).inUse
  nbrIocrs : ∀ a, (st'.ar a).nbrIocrs = (st.ar a).nbrIocrs
  ready4Data : ∀ a, (st'.ar a).ready4Data = (st.ar a).ready4Data
  cmdevState : ∀ a, (st'.ar a).cmdevState = (st.ar a).cmdevState
  cmioState : ∀ a, (st'.ar a).cmioState = (st.ar a).cmioState
  iocrType : ∀ c, (st'.iocr c).iocrType = (st.iocr c).iocrType
  cmioStart : ∀ c, (st'.iocr c).cmioStart = true → (st.iocr c).cmioStart = true
  connections : st'.connections = st.connections
  connection : st'.connection = st.connection
  notes : st'.notes = st.notes

/-- Notes of other connections come, and nothing else changes. -/
theorem Live.mono (h : Live st a) (hnbr : (st'.ar a).nbrIocrs = (st.ar a).nbrIocrs)
    (hready : (st'.ar a).ready4Data = (st.ar a).ready4Data)
    (hcmdev : (st'.ar a).cmdevState = (st.ar a).cmdevState)
    (hcmio : (st'.ar a).cmioState = (st.ar a).cmioState)
    (htype : ∀ c, c / PNET_MAX_CR = a → (st'.iocr c).iocrType = (st.iocr c).iocrType)
    (hstart : ∀ c, c / PNET_MAX_CR = a → (st'.iocr c).cmioStart = true →
      (st.iocr c).cmioStart = true)
    (hconn : st'.connection a = st.connection a) (hle : st.connections ≤ st'.connections)
    (hnotes : st'.notes = xs ++ st.notes) (hxs : ∀ x ∈ xs, x.number ≠ st.connection a) :
    Live st' a := by
  have hsub {l : List Note} (hl : l.Sublist st.notes) : l.Sublist (xs ++ st.notes) :=
    hl.trans (List.sublist_append_right _ _)
  have hcr {crep : ℕ} (hlt : crep < (st.ar a).nbrIocrs) :
      crOf a crep / PNET_MAX_CR = a := crOf_div a (Nat.lt_of_lt_of_le hlt h.room)
  constructor
  · rw [hconn]
    exact Nat.lt_of_lt_of_le h.number hle
  · rw [hconn, hnotes]
    exact fun hmem => h.alive (mem_of_mem_append hxs hmem)
  · rw [hnbr]
    exact h.room
  · rw [hconn, hnotes, hnbr]
    intro outputs hmem crep hcrep
    rcases h.outputs outputs (mem_of_mem_append hxs hmem) crep hcrep with ⟨hlt, hout⟩
    exact ⟨hlt, (htype _ (hcr hlt)).trans hout⟩
  · dsimp only [AtRest]
    rw [hcmio, hready]
    intro hrest
    rcases h.early hrest with ⟨hnot, hall⟩
    refine ⟨hnot, fun c hc => ?_⟩
    by_contra hs
    have hold := hstart c hc (Bool.eq_true_of_not_eq_false hs)
    rw [hall c hc] at hold
    cases hold
  · rw [hcmdev, hcmio]
    exact h.peind
  · rw [hcmio, hconn, hnotes]
    exact fun hs => hsub (h.startup hs)
  · rw [hcmio, hconn, hnotes]
    exact fun hs => hsub (h.prmEnd hs)
  · rw [hcmio, hconn, hnotes]
    intro hs crep hlt hst
    exact mem_sincePrmEnd_append hxs (h.start hs crep hlt (hstart _ (crOf_div a hlt) hst))
  · rw [hcmio, hconn, hnotes, hready, hnbr]
    intro hs hr crep hlt hout
    refine mem_sincePrmEnd_append hxs (h.ready hs hr crep hlt ?_)
    rw [← htype _ (hcr hlt)]
    exact hout
  · rw [hcmio, hconn, hnotes, hcmdev]
    exact fun hs hc => hsub (h.applRdy hs hc)
  · rw [hcmio, hconn, hnotes, hcmdev]
    exact fun hs hc => hsub (h.confirmed hs hc)
  · rw [hcmio, hcmdev]
    exact h.data
  · rw [hconn, hnotes, hcmdev]
    exact fun hc hmem => h.fresh hc (mem_of_mem_append hxs hmem)

theorem Law.calm (h : Law st) (hc : Calm st st') : Law st' := by
  constructor
  · rw [hc.notes]
    exact h.lawful
  · rw [hc.notes, hc.connections]
    exact h.number
  · intro a huse
    have hxs : ∀ x ∈ ([] : List Note), x.number ≠ st.connection a := nofun
    have hnotes : st'.notes = [] ++ st.notes := hc.notes
    exact (h.live a ((hc.inUse a).symm.trans huse)).mono (hc.nbrIocrs a) (hc.ready4Data a)
      (hc.cmdevState a) (hc.cmioState a) (fun c _ => hc.iocrType c) (fun c _ => hc.cmioStart c)
      (by rw [hc.connection]) hc.connections.ge hnotes hxs
  · intro a a' huse huse'
    rw [hc.connection]
    exact h.distinct a a' ((hc.inUse a).symm.trans huse) ((hc.inUse a').symm.trans huse')

/-- Something happens to one AR that is in use. -/
theorem Law.act (h : Law st) (huse : (st.ar a).inUse = true)
    (hothers : ∀ a', a' ≠ a → st'.ar a' = st.ar a')
    (hforeign : ∀ c, c / PNET_MAX_CR ≠ a → st'.iocr c = st.iocr c)
    (hconnections : st'.connections = st.connections) (hconnection : st'.connection = st.connection)
    (hnotes : st'.notes = xs ++ st.notes) (hxs : ∀ x ∈ xs, x.number = st.connection a)
    (hlawful : Lawful st'.notes) (hlive : (st'.ar a).inUse = true → Live st' a) : Law st' := by
  have hnumber := (h.live a huse).number
  constructor
  · exact hlawful
  · rw [hnotes, hconnections]
    intro x hx
    rcases List.mem_append.mp hx with hx | hx
    · rw [hxs x hx]
      exact hnumber
    · exact h.number x hx
  · intro a' huse'
    by_cases ha : a' = a
    · subst ha
      exact hlive huse'
    · have hold : (st.ar a').inUse = true := by
        rw [← hothers a' ha]
        exact huse'
      have har := hothers a' ha
      have hio (c : ℕ) (hc : c / PNET_MAX_CR = a') : st'.iocr c = st.iocr c :=
        hforeign c (by rw [hc]; exact ha)
      refine (h.live a' hold).mono (by rw [har]) (by rw [har]) (by rw [har]) (by rw [har])
        (fun c hc => by rw [hio c hc]) (fun c hc => by rw [hio c hc]; exact id)
        (by rw [hconnection]) hconnections.ge hnotes fun x hx heq => ?_
      exact ha (h.distinct a' a hold huse (heq.symm.trans (hxs x hx)))
  · have hstill (a' : ℕ) (hu : (st'.ar a').inUse = true) : (st.ar a').inUse = true := by
      by_cases ha : a' = a
      · rw [ha]
        exact huse
      · rw [← hothers a' ha]
        exact hu
    intro a1 a2 hu1 hu2
    rw [hconnection]
    exact h.distinct a1 a2 (hstill a1 hu1) (hstill a2 hu2)

/-- The AR is aborted. -/
theorem Law.gone (h : Law st) (huse : (st.ar a).inUse = true) (hgone : Stack.Gone st a st') :
    Law st' := by
  rcases hgone with ⟨s, rfl⟩
  have hxs : ∀ x ∈ [Note.event (st.connection a) .PNET_EVENT_ABORT], x.number = st.connection a := by
    intro x hx
    rw [List.mem_singleton.mp hx]
    rfl
  have hnotes : (({ (st.note (.event (st.connection a) .PNET_EVENT_ABORT)).zeroed a with
      sched := s } : Stack)).notes =
        [Note.event (st.connection a) .PNET_EVENT_ABORT] ++ st.notes := rfl
  refine h.act huse (fun a' ha' => Function.update_of_ne ha' _ _) (fun c hc => if_neg hc) rfl rfl
    hnotes hxs ⟨⟨(h.live a huse).alive, nofun⟩, h.lawful⟩ fun hu => ?_
  have hfree := Stack.zeroed_inUse (st.note (.event (st.connection a) .PNET_EVENT_ABORT)) a
  exact absurd (hfree.symm.trans hu) Bool.false_ne_true

/-- What the AR was before makes no difference. -/
theorem Stack.Gone.of_setAr {x : Ar} (h : Stack.Gone (st.setAr a x) a st') :
    Stack.Gone st a st' := by
  rcases h with ⟨s, rfl⟩
  refine ⟨s, ?_⟩
  unfold Stack.zeroed Stack.note Stack.setAr
  dsimp only
  rw [Function.update_idem]

namespace Calm

theorem trans {st'' : Stack} (h : Calm st st') (h' : Calm st' st'') : Calm st st'' :=
  ⟨fun a => (h'.inUse a).trans (h.inUse a), fun a => (h'.nbrIocrs a).trans (h.nbrIocrs a),
    fun a => (h'.ready4Data a).trans (h.ready4Data a),
    fun a => (h'.cmdevState a).trans (h.cmdevState a),
    fun a => (h'.cmioState a).trans (h.cmioState a),
    fun c => (h'.iocrType c).trans (h.iocrType c), fun c hs => h.cmioStart c (h'.cmioStart c hs),
    h'.connections.trans h.connections, h'.connection.trans h.connection, h'.notes.trans h.notes⟩

/-- Nothing of it depends on the scheduler or on an APMX. -/
theorem of_same (har : st'.ar = st.ar) (hiocr : st'.iocr = st.iocr)
    (hconnections : st'.connections = st.connections) (hconnection : st'.connection = st.connection)
    (hnotes : st'.notes = st.notes) : Calm st st' := by
  refine ⟨?_, ?_, ?_, ?_, ?_, ?_, ?_, hconnections, hconnection, hnotes⟩
  all_goals first
    | rw [har]
      exact fun _ => rfl
    | rw [hiocr]
      exact fun _ => rfl
    | rw [hiocr]
      exact fun _ => id

theorem setAr {x : Ar} (huse : x.inUse = (st.ar a).inUse) (hnbr : x.nbrIocrs = (st.ar a).nbrIocrs)
    (hready : x.ready4Data = (st.ar a).ready4Data) (hcmdev : x.cmdevState = (st.ar a).cmdevState)
    (hcmio : x.cmioState = (st.ar a).cmioState) : Calm st (st.setAr a x) := by
  have hfield {β : Type} (f : Ar → β) (hf : f x = f (st.ar a)) (a' : ℕ) :
      f ((st.setAr a x).ar a') = f (st.ar a') := by
    by_cases ha : a' = a
    · rw [ha, Stack.setAr_self, hf]
    · exact congrArg f (Function.update_of_ne ha _ _)
  exact ⟨hfield _ huse, hfield _ hnbr, hfield _ hready, hfield _ hcmdev, hfield _ hcmio,
    fun _ => rfl, fun _ => id, rfl, rfl, rfl⟩

theorem setIocr {y : Iocr} (htype : y.iocrType = (st.iocr c).iocrType)
    (hstart : y.cmioStart = true → (st.iocr c).cmioStart = true) : Calm st (st.setIocr c y) := by
  have hself : (st.setIocr c y).iocr c = y := Function.update_self _ _ _
  have hother (c' : ℕ) (hc : c' ≠ c) : (st.setIocr c y).iocr c' = st.iocr c' :=
    Function.update_of_ne hc _ _
  refine ⟨fun _ => rfl, fun _ => rfl, fun _ => rfl, fun _ => rfl, fun _ => rfl, fun c' => ?_,
    fun c' => ?_, rfl, rfl, rfl⟩
  · by_cases hc : c' = c
    · rw [hc, hself, htype]
    · rw [hother c' hc]
  · by_cases hc : c' = c
    · rw [hc, hself]
      exact hstart
    · rw [hother c' hc]
      exact id

end Calm

/-! ## Connect requests -/

theorem init_law {tickInterval : Scheduler.Time} {deviceMac : Vector Byte 6}
    (h : Stack.init tickInterval deviceMac = some st) : Law st := by
  rcases Option.map_eq_some_iff.mp h with ⟨s, -, rfl⟩
  exact ⟨trivial, nofun, nofun, nofun⟩

/-- A connection that has not got to PRMEND. -/
theorem Live.of_early (hnumber : st.connection a < st.connections)
    (halive : Note.event (st.connection a) .PNET_EVENT_ABORT ∉ st.notes)
    (hroom : (st.ar a).nbrIocrs ≤ PNET_MAX_CR)
    (houtputs : ∀ outputs, .connect (st.connection a) outputs ∈ st.notes → ∀ crep ∈ outputs,
      crep < (st.ar a).nbrIocrs ∧ (st.iocr (crOf a crep)).iocrType = PF_IOCR_TYPE_OUTPUT)
    (hrest : AtRest st .cmio a) (hready : (st.ar a).ready4Data = false)
    (hstart : ∀ c, c / PNET_MAX_CR = a → (st.iocr c).cmioStart = false)
    (hpeind : (st.ar a).cmdevState = .PF_CMDEV_STATE_W_PEIND →
      (st.ar a).cmioState = .PF_CMIO_STATE_STARTUP)
    (hstartup : (st.ar a).cmioState = .PF_CMIO_STATE_STARTUP →
      [.event (st.connection a) .PNET_EVENT_STARTUP].Sublist st.notes)
    (hfresh : Note.event (st.connection a) .PNET_EVENT_DATA ∉ st.notes) : Live st a := by
  have hnot {P : Prop} (hstate : (st.ar a).cmioState = CmioState.PF_CMIO_STATE_WDATA ∨
      (st.ar a).cmioState = CmioState.PF_CMIO_STATE_DATA) : P := by
    dsimp only [AtRest] at hrest
    rcases hstate with hstate | hstate
    · rw [hstate] at hrest
      rcases hrest with h | h <;> cases h
    · rw [hstate] at hrest
      rcases hrest with h | h <;> cases h
  exact ⟨hnumber, halive, hroom, houtputs, fun _ => ⟨hready, hstart⟩, hpeind, hstartup,
    fun h => hnot (.inl h), fun h => hnot (.inl h), fun h => hnot (.inl h), fun h => hnot (.inl h),
    fun h => hnot (.inl h), fun h => hnot (.inr h), fun _ => hfresh⟩

/-- A connection begins. -/
theorem Law.enter (h : Law st) (hfree : (st.ar a).inUse = false)
    (hothers : ∀ a', a' ≠ a → st'.ar a' = st.ar a')
    (hforeign : ∀ c, c / PNET_MAX_CR ≠ a → st'.iocr c = st.iocr c)
    (hconnections : st'.connections = st.connections + 1)
    (hconnection : st'.connection = Function.update st.connection a st.connections)
    (hnotes : st'.notes = xs ++ st.notes) (hxs : ∀ x ∈ xs, x.number = st.connections)
    (hlawful : Lawful st'.notes) (hlive : (st'.ar a).inUse = true → Live st' a) : Law st' := by
  have hother (a' : ℕ) (ha : a' ≠ a) (huse : (st'.ar a').inUse = true) :
      Live st a' ∧ st'.connection a' = st.connection a' := by
    have hold : (st.ar a').inUse = true := by
      rw [← hothers a' ha]
      exact huse
    refine ⟨h.live a' hold, ?_⟩
    rw [hconnection, Function.update_of_ne ha]
  have hself : st'.connection a = st.connections := by
    rw [hconnection, Function.update_self]
  constructor
  · exact hlawful
  · rw [hnotes, hconnections]
    intro x hx
    rcases List.mem_append.mp hx with hx | hx
    · rw [hxs x hx]
      exact Nat.lt_succ_self _
    · exact Nat.lt_succ_of_lt (h.number x hx)
  · intro a' huse
    by_cases ha : a' = a
    · rw [ha] at huse ⊢
      exact hlive huse
    · rcases hother a' ha huse with ⟨hold, hconn⟩
      have har := hothers a' ha
      have hio (c : ℕ) (hc : c / PNET_MAX_CR = a') : st'.iocr c = st.iocr c :=
        hforeign c (by rw [hc]; exact ha)
      refine hold.mono (by rw [har]) (by rw [har]) (by rw [har]) (by rw [har])
        (fun c hc => by rw [hio c hc]) (fun c hc => by rw [hio c hc]; exact id) hconn
        (by rw [hconnections]; exact Nat.le_succ _) hnotes fun x hx => ?_
      rw [hxs x hx]
      exact hold.number.ne'
  · intro a1 a2 hu1 hu2 heq
    by_cases h1 : a1 = a
    · by_cases h2 : a2 = a
      · rw [h1, h2]
      · rcases hother a2 h2 hu2 with ⟨hold, hconn⟩
        rw [h1, hself, hconn] at heq
        exact absurd heq hold.number.ne'
    · rcases hother a1 h1 hu1 with ⟨hold1, hconn1⟩
      by_cases h2 : a2 = a
      · rw [h2, hself, hconn1] at heq
        exact absurd heq hold1.number.ne
      · rcases hother a2 h2 hu2 with ⟨-, hconn2⟩
        rw [hconn1, hconn2] at heq
        exact h.distinct a1 a2 (hothers a1 h1 ▸ hu1) (hothers a2 h2 ▸ hu2) heq

theorem Law.not_mem (h : Law st) {x : Note} (hx : x.number = st.connections) : x ∉ st.notes :=
  fun hmem => absurd hx (h.number x hmem).ne

theorem outputs_spec {r : Request} {crep : ℕ} {io : Iocr} (h : crep ∈ r.outputs)
    (hparam : io.param = r.iocrs[crep]?.map (·.param)) :
    crep < r.iocrs.length ∧ io.iocrType = PF_IOCR_TYPE_OUTPUT := by
  rcases List.mem_filter.mp h with ⟨hrange, htype⟩
  refine ⟨List.mem_range.mp hrange, ?_⟩
  unfold Iocr.iocrType
  rw [hparam]
  cases hget : r.iocrs[crep]? with
  | none =>
    rw [hget] at htype
    cases htype
  | some x =>
    rw [hget] at htype
    exact of_decide_eq_true htype

theorem allocate_law (h : Law st) (hfree : (st.ar a).inUse = false) (request : Option Request) :
    Law (st.allocate a request) := by
  have hnotes : (st.allocate a request).notes =
      [Note.connect st.connections (request.elim [] Request.outputs)] ++ st.notes := rfl
  have hconn : (st.allocate a request).connection a = st.connections := Function.update_self _ _ _
  have hforeign (c : ℕ) (hc : c / PNET_MAX_CR ≠ a) : (st.allocate a request).iocr c = st.iocr c :=
    (if_neg hc).trans (if_neg hc)
  have hnew {x : Note} (hx : x.number = st.connections) (hne : ∀ outputs, x ≠ .connect st.connections
      outputs) : x ∉ (st.allocate a request).notes := by
    intro hmem
    rcases List.mem_cons.mp hmem with hmem | hmem
    · exact hne _ hmem
    · exact h.not_mem hx hmem
  refine h.enter hfree (fun a' ha' => ?_) hforeign rfl rfl hnotes ?_ ⟨trivial, h.lawful⟩ fun _ => ?_
  · exact (Function.update_of_ne ha' _ _).trans (Function.update_of_ne ha' _ _)
  · intro x hx
    rw [List.mem_singleton.mp hx]
    rfl
  · refine .of_early ?_ ?_ ?_ ?_ (allocate_resting st a request .cmio a rfl).1 ?_
      (fun c hc => (allocate_cr st request hc).2.2) ?_ ?_ ?_
    · rw [hconn]
      exact Nat.lt_succ_self _
    · rw [hconn]
      exact hnew rfl nofun
    · rw [allocate_ar]
      cases request with
      | none => exact Nat.zero_le _
      | some r => exact r.room
    · rw [hconn]
      intro outputs hmem crep hcrep
      rcases List.mem_cons.mp hmem with hmem | hmem
      · cases request with
        | none =>
          obtain rfl := (Note.connect.inj hmem).2
          exact absurd hcrep List.not_mem_nil
        | some r =>
          obtain rfl := (Note.connect.inj hmem).2
          have hparam := (allocate_fresh st a r).param crep (List.mem_range.mp
            (List.mem_filter.mp hcrep).1)
          rw [allocate_ar]
          exact outputs_spec hcrep hparam
      · exact absurd hmem (h.not_mem rfl)
    · rw [allocate_ar]
      rfl
    · rw [allocate_ar]
      exact nofun
    · rw [allocate_ar]
      exact nofun
    · rw [hconn]
      exact hnew rfl nofun

/-- The AR has got another state of CMDEV. -/
theorem Law.setCmdevState (h : Law st) (huse : (st.ar a).inUse = true) {state : Rpc.CmdevState}
    (hpeind : state ≠ .PF_CMDEV_STATE_W_PEIND)
    (happlRdy : (st.ar a).cmioState = .PF_CMIO_STATE_WDATA →
      state = .PF_CMDEV_STATE_W_ARDYCNF ∨ state = .PF_CMDEV_STATE_WDATA →
      [.event (st.connection a) .PNET_EVENT_APPLRDY, .event (st.connection a) .PNET_EVENT_PRMEND,
        .event (st.connection a) .PNET_EVENT_STARTUP].Sublist st.notes)
    (hconfirmed : (st.ar a).cmioState = .PF_CMIO_STATE_WDATA → state = .PF_CMDEV_STATE_WDATA →
      [.confirmed (st.connection a), .event (st.connection a) .PNET_EVENT_APPLRDY,
        .event (st.connection a) .PNET_EVENT_PRMEND,
        .event (st.connection a) .PNET_EVENT_STARTUP].Sublist st.notes)
    (hdata : (st.ar a).cmdevState ≠ .PF_CMDEV_STATE_DATA) : Law (st.setCmdevState a state) := by
  have har := Stack.setCmdevState_ar st a state
  have hold := h.live a huse
  have hnotes : (st.setCmdevState a state).notes = [] ++ st.notes := rfl
  refine h.act huse (fun a' ha' => Function.update_of_ne ha' _ _) (fun _ _ => rfl) rfl rfl hnotes
    nofun h.lawful fun _ => ?_
  constructor
  · exact hold.number
  · exact hold.alive
  · rw [har]
    exact hold.room
  · rw [har]
    exact hold.outputs
  · dsimp only [AtRest]
    rw [har]
    exact hold.early
  · rw [har]
    exact fun hstate => absurd hstate hpeind
  · rw [har]
    exact hold.startup
  · rw [har]
    exact hold.prmEnd
  · rw [har]
    exact hold.start
  · rw [har]
    exact hold.ready
  · rw [har]
    exact happlRdy
  · rw [har]
    exact hconfirmed
  · rw [har]
    exact fun hstate => absurd (hold.data hstate) hdata
  · exact fun _ => hold.fresh hdata

/-- An AR that is not in use any more. -/
theorem Law.dropped (h : Law st) (huse : (st.ar a).inUse = true)
    (hothers : ∀ a', a' ≠ a → st'.ar a' = st.ar a')
    (hforeign : ∀ c, c / PNET_MAX_CR ≠ a → st'.iocr c = st.iocr c)
    (hconnections : st'.connections = st.connections) (hconnection : st'.connection = st.connection)
    (hnotes : st'.notes = st.notes) (hfree : (st'.ar a).inUse = false) : Law st' := by
  have hnotes' : st'.notes = [] ++ st.notes := hnotes
  refine h.act huse hothers hforeign hconnections hconnection hnotes' nofun ?_ fun hu => ?_
  · rw [hnotes]
    exact h.lawful
  · exact absurd (hfree.symm.trans hu) Bool.false_ne_true

theorem release_law (h : Law st) : Law (st.release a) := by
  unfold Stack.release
  by_cases huse : (st.ar a).inUse = true
  · rw [if_pos huse]
    exact h.dropped huse (fun a' ha' => Function.update_of_ne ha' _ _) (fun c hc => if_neg hc) rfl rfl
      rfl (Stack.zeroed_inUse st a)
  · rw [if_neg huse]
    exact h

theorem connected_law (h : Law st) {r : Request} (hfree : (st.ar a).inUse = false)
    (hacts : Acts a st st') (hc : Connected st a r st') : Law st' := by
  have hnotes : st'.notes = [Note.event st.connections .PNET_EVENT_STARTUP,
      .connect st.connections r.outputs] ++ st.notes := hc.notes
  have hconn : st'.connection a = st.connections := by
    rw [hc.connection, Function.update_self]
  have hnew {x : Note} (hx : x.number = st.connections)
      (hne : x ≠ Note.event st.connections .PNET_EVENT_STARTUP)
      (hne' : x ≠ .connect st.connections r.outputs) : x ∉ st'.notes := by
    rw [hc.notes]
    intro hmem
    rcases List.mem_cons.mp hmem with hmem | hmem
    · exact hne hmem
    · rcases List.mem_cons.mp hmem with hmem | hmem
      · exact hne' hmem
      · exact h.not_mem hx hmem
  refine h.enter hfree (fun a' ha' => (hacts.others a' ha').ar)
    (fun c hc' => (hacts.others _ hc').iocr c rfl) hc.connections hc.connection hnotes ?_ ?_ fun _ => ?_
  · intro x hx
    rcases List.mem_cons.mp hx with rfl | hx
    · rfl
    · rw [List.mem_singleton.mp hx]
      rfl
  · rw [hc.notes]
    refine ⟨⟨fun hmem => ?_, nofun⟩, trivial, h.lawful⟩
    rcases List.mem_cons.mp hmem with hmem | hmem
    · cases hmem
    · exact h.not_mem rfl hmem
  · refine .of_early ?_ ?_ ?_ ?_ (.inr hc.cmioState) hc.ready4Data hc.cmioStart
      (fun _ => hc.cmioState) ?_ ?_
    · rw [hconn, hc.connections]
      exact Nat.lt_succ_self _
    · rw [hconn]
      exact hnew rfl nofun nofun
    · rw [hc.nbrIocrs]
      exact r.room
    · rw [hconn, hc.notes, hc.nbrIocrs]
      intro outputs hmem crep hcrep
      rcases List.mem_cons.mp hmem with hmem | hmem
      · cases hmem
      · rcases List.mem_cons.mp hmem with hmem | hmem
        · obtain rfl := (Note.connect.inj hmem).2
          have hlt : crep < r.iocrs.length := List.mem_range.mp (List.mem_filter.mp hcrep).1
          exact outputs_spec hcrep (hc.param crep hlt)
        · exact absurd hmem (h.not_mem rfl)
    · rw [hconn, hc.notes]
      exact fun _ => List.singleton_sublist.mpr List.mem_cons_self
    · rw [hconn]
      exact hnew rfl nofun nofun

theorem refused_law (h : Law st) {outputs : List ℕ} (hfree : (st.ar a).inUse = false)
    (hacts : Acts a st st') (hr : Refused st a outputs st') : Law st' := by
  have henter {xs : List Note} (hxs : ∀ x ∈ xs, x.number = st.connections) (hnotes : st'.notes = xs ++ st.notes)
      (hlawful : Lawful st'.notes) : Law st' :=
    h.enter hfree (fun a' ha' => (hacts.others a' ha').ar)
      (fun c hc => (hacts.others _ hc).iocr c rfl) hr.connections hr.connection hnotes hxs hlawful
      fun hu => absurd (hr.inUse.symm.trans hu) Bool.false_ne_true
  rcases hr.notes with hnotes | hnotes
  · have hnotes' : st'.notes = [Note.connect st.connections outputs] ++ st.notes := hnotes
    refine henter (fun x hx => ?_) hnotes' ?_
    · rw [List.mem_singleton.mp hx]
      rfl
    · rw [hnotes]
      exact ⟨trivial, h.lawful⟩
  · have hnotes' : st'.notes = [Note.event st.connections .PNET_EVENT_ABORT,
        .connect st.connections outputs] ++ st.notes := hnotes
    refine henter (fun x hx => ?_) hnotes' ?_
    · rcases List.mem_cons.mp hx with rfl | hx
      · rfl
      · rw [List.mem_singleton.mp hx]
        rfl
    · rw [hnotes]
      refine ⟨⟨fun hmem => ?_, nofun⟩, trivial, h.lawful⟩
      rcases List.mem_cons.mp hmem with hmem | hmem
      · cases hmem
      · exact h.not_mem rfl hmem

theorem connect_law (h : Law st) (hg : Good p sent st) {request : Option Request}
    (hc : Connects st request st') : Law st' := by
  cases hc with
  | full same =>
    rw [same]
    exact h
  | connected a r free acts connected => exact connected_law h free acts connected
  | refused a free acts refused => exact refused_law h free acts refused
  | idle a r free same =>
    have h1 := allocate_law h free (some r)
    have har := allocate_ar st a (some r)
    rw [same]
    refine h1.setCmdevState (by rw [har]) nofun ?_ ?_ ?_
    · rw [har]
      exact nofun
    · rw [har]
      exact nofun
    · rw [har]
      exact nofun
  | duplicate a a2 r st1 free used aborted same =>
    have hne : a2 ≠ a := by
      rintro rfl
      exact absurd (free.symm.trans used) Bool.false_ne_true
    have h1 := allocate_law h free (some r)
    have har : (st.allocate a (some r)).ar a2 = st.ar a2 :=
      (Function.update_of_ne hne _ _).trans (Function.update_of_ne hne _ _)
    have huse : ((st.allocate a (some r)).ar a2).inUse = true := by rwa [har]
    rw [same]
    exact release_law (h1.gone huse
      (Stack.abort_gone (allocate_good hg free (some r)).tidy huse aborted))

end PNet.LifeCycle
