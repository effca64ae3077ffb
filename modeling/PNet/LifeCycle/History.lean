import PNet.LifeCycle.Startup

/-! # The history of a run

What a step adds to the history of an AR follows from what `Live` says of its connection, and `Live`
holds again. PRMEND takes CMIO into WDATA, and DATA out of it; between them the CPMs that accept a
frame are known to CMIO. All else leaves the connection as it is, or ends it.
-/

namespace PNet.LifeCycle

open Scheduler
open Connect (PF_IOCR_TYPE_OUTPUT)

variable {p : Kind → Prop} {sent : Prop} {st st' : Stack} {a c k i : ℕ} {kind : Kind} {s s0 : St}
  {tick now : Time} {env : Apms.Driver} {clock : ℕ → Time}

/-! ## Events -/

/-- PRMEND reaches an AR that waits for it. -/
theorem prmEnd_law (h : Law st) (huse : (st.ar a).inUse = true)
    (hcmio : (st.ar a).cmioState = .PF_CMIO_STATE_STARTUP)
    (hcmdev : (st.ar a).cmdevState = .PF_CMDEV_STATE_W_ARDY)
    (hh : Stack.Heard st a .PNET_EVENT_PRMEND st') : Law st' := by
  have hold := h.live a huse
  rcases hold.early (.inr hcmio) with ⟨hready, hstart⟩
  have hnotes : st'.notes = [Note.event (st.connection a) .PNET_EVENT_PRMEND] ++ st.notes := hh.notes
  have hstate : (st'.ar a).cmioState = CmioState.PF_CMIO_STATE_WDATA := by
    rw [hh.ar, hcmio]
    rfl
  have hcmdev' : (st'.ar a).cmdevState = Rpc.CmdevState.PF_CMDEV_STATE_W_ARDY := by
    rw [hh.ar]
    exact hcmdev
  have hnone (c : ℕ) (hc : c / PNET_MAX_CR = a) : (st'.iocr c).cmioStart ≠ true := by
    intro hs
    have hs' := hh.cmioStart c hs
    rw [hstart c hc] at hs'
    cases hs'
  refine h.act huse hh.others hh.foreign hh.connections hh.connection hnotes ?_ ?_ fun _ => ?_
  · intro x hx
    rw [List.mem_singleton.mp hx]
    rfl
  · rw [hh.notes]
    exact ⟨⟨hold.alive, nofun⟩, h.lawful⟩
  · constructor
    · rw [hh.connection, hh.connections]
      exact hold.number
    · rw [hh.connection, hh.notes]
      intro hmem
      rcases List.mem_cons.mp hmem with hmem | hmem
      · cases hmem
      · exact hold.alive hmem
    · rw [hh.ar]
      exact hold.room
    · rw [hh.connection, hh.notes, hh.ar]
      intro outputs hmem crep hcrep
      rcases List.mem_cons.mp hmem with hmem | hmem
      · cases hmem
      · rcases hold.outputs outputs hmem crep hcrep with ⟨hlt, hout⟩
        refine ⟨hlt, ?_⟩
        rw [hh.iocr]
        exact hout
    · dsimp only [AtRest]
      rw [hstate]
      rintro (hrest | hrest)
      · cases hrest
      · cases hrest
    · rw [hcmdev']
      exact nofun
    · rw [hstate]
      exact nofun
    · rw [hh.connection, hh.notes]
      exact fun _ => (hold.startup hcmio).cons_cons _
    · intro _ crep hlt hs
      exact absurd hs (hnone _ (crOf_div a hlt))
    · rw [hh.ar]
      intro _ hr
      exact absurd (hready.symm.trans hr) Bool.false_ne_true
    · rw [hcmdev']
      rintro - (hs | hs)
      · cases hs
      · cases hs
    · rw [hcmdev']
      exact nofun
    · rw [hstate]
      exact nofun
    · rw [hh.connection, hh.notes]
      intro _ hmem
      rcases List.mem_cons.mp hmem with hmem | hmem
      · cases hmem
      · exact hold.fresh (by rw [hcmdev]; decide) hmem

/-- The application has been told that it is ready. -/
theorem applRdy_law (h : Law st) (huse : (st.ar a).inUse = true)
    (hcmdev : (st.ar a).cmdevState = .PF_CMDEV_STATE_W_ARDY)
    (hh : Stack.Heard st a .PNET_EVENT_APPLRDY st') : Law st' ∧
      ((st'.ar a).cmioState = .PF_CMIO_STATE_WDATA →
        [.event (st'.connection a) .PNET_EVENT_APPLRDY, .event (st'.connection a) .PNET_EVENT_PRMEND,
          .event (st'.connection a) .PNET_EVENT_STARTUP].Sublist st'.notes) := by
  have hold := h.live a huse
  have hnotes : st'.notes = [Note.event (st.connection a) .PNET_EVENT_APPLRDY] ++ st.notes := hh.notes
  have hstate : (st'.ar a).cmioState = (st.ar a).cmioState := by
    rw [hh.ar]
    cases (st.ar a).cmioState <;> rfl
  have hcmdev' : (st'.ar a).cmdevState = Rpc.CmdevState.PF_CMDEV_STATE_W_ARDY := by
    rw [hh.ar]
    exact hcmdev
  have hother (notes : List Note) (x : Note)
      (hmem : x ∈ Note.event (st.connection a) .PNET_EVENT_APPLRDY :: notes)
      (hne : x ≠ Note.event (st.connection a) .PNET_EVENT_APPLRDY) : x ∈ notes := by
    rcases List.mem_cons.mp hmem with hmem | hmem
    · exact absurd hmem hne
    · exact hmem
  have happlRdy : (st'.ar a).cmioState = CmioState.PF_CMIO_STATE_WDATA →
      [Note.event (st'.connection a) .PNET_EVENT_APPLRDY, .event (st'.connection a) .PNET_EVENT_PRMEND,
        .event (st'.connection a) .PNET_EVENT_STARTUP].Sublist st'.notes := by
    rw [hstate, hh.connection, hh.notes]
    exact fun hs => (hold.prmEnd hs).cons_cons _
  refine ⟨h.act huse hh.others hh.foreign hh.connections hh.connection hnotes ?_ ?_ fun _ => ?_,
    happlRdy⟩
  · intro x hx
    rw [List.mem_singleton.mp hx]
    rfl
  · rw [hh.notes]
    exact ⟨⟨hold.alive, nofun⟩, h.lawful⟩
  · constructor
    · rw [hh.connection, hh.connections]
      exact hold.number
    · rw [hh.connection, hh.notes]
      exact fun hmem => hold.alive (hother _ _ hmem nofun)
    · rw [hh.ar]
      exact hold.room
    · rw [hh.connection, hh.notes, hh.ar]
      intro outputs hmem crep hcrep
      rcases hold.outputs outputs (hother _ _ hmem nofun) crep hcrep with ⟨hlt, hout⟩
      refine ⟨hlt, ?_⟩
      rw [hh.iocr]
      exact hout
    · dsimp only [AtRest]
      rw [hstate, hh.ar]
      intro hrest
      rcases hold.early hrest with ⟨hready, hstart⟩
      refine ⟨hready, fun c hc => ?_⟩
      by_contra hs
      have hs' := hh.cmioStart c (Bool.eq_true_of_not_eq_false hs)
      rw [hstart c hc] at hs'
      cases hs'
    · rw [hcmdev']
      exact nofun
    · rw [hstate, hh.connection, hh.notes]
      exact fun hs => (hold.startup hs).cons _
    · rw [hstate, hh.connection, hh.notes]
      exact fun hs => (hold.prmEnd hs).cons _
    · rw [hstate, hh.connection, hh.notes]
      intro hs crep hlt hst
      exact mem_sincePrmEnd_cons nofun (hold.start hs crep hlt (hh.cmioStart _ hst))
    · rw [hstate, hh.connection, hh.notes, hh.ar]
      intro hs hr crep hlt hout
      refine mem_sincePrmEnd_cons nofun (hold.ready hs hr crep hlt ?_)
      rw [hh.iocr] at hout
      exact hout
    · rw [hcmdev']
      rintro - (hs | hs)
      · cases hs
      · cases hs
    · rw [hcmdev']
      exact nofun
    · rw [hstate, hh.ar]
      exact hold.data
    · rw [hh.connection, hh.notes]
      intro _ hmem
      exact hold.fresh (by rw [hcmdev]; decide) (hother _ _ hmem nofun)

/-- The application is told of DATA. -/
theorem data_law (h : Law st) (huse : (st.ar a).inUse = true)
    (hcmio : (st.ar a).cmioState = .PF_CMIO_STATE_WDATA)
    (hpre : Prescribed (st.connection a) st.notes)
    (hh : Stack.Heard st a .PNET_EVENT_DATA st') :
    Law (st'.setCmdevState a .PF_CMDEV_STATE_DATA) := by
  have hold := h.live a huse
  have hnotes : (st'.setCmdevState a .PF_CMDEV_STATE_DATA).notes =
      [Note.event (st.connection a) .PNET_EVENT_DATA] ++ st.notes := hh.notes
  have har := Stack.setCmdevState_ar st' a .PF_CMDEV_STATE_DATA
  have hstate : ((st'.setCmdevState a .PF_CMDEV_STATE_DATA).ar a).cmioState =
      .PF_CMIO_STATE_DATA := by
    rw [har, hh.ar, hcmio]
    rfl
  have hconn : (st'.setCmdevState a .PF_CMDEV_STATE_DATA).connection = st.connection :=
    hh.connection
  have hother (a' : ℕ) (ha' : a' ≠ a) :
      (st'.setCmdevState a .PF_CMDEV_STATE_DATA).ar a' = st.ar a' :=
    (Function.update_of_ne ha' _ _).trans (hh.others a' ha')
  refine h.act huse hother hh.foreign hh.connections hconn hnotes ?_ ?_ fun _ => ?_
  · intro x hx
    rw [List.mem_singleton.mp hx]
    rfl
  · rw [hnotes]
    exact ⟨⟨hold.alive, fun _ => hpre⟩, h.lawful⟩
  · constructor
    · rw [hconn]
      exact hh.connections.symm ▸ hold.number
    · rw [hconn, hnotes]
      intro hmem
      rcases List.mem_cons.mp hmem with hmem | hmem
      · cases hmem
      · exact hold.alive hmem
    · rw [har, hh.ar]
      exact hold.room
    · rw [hconn, hnotes, har, hh.ar]
      intro outputs hmem crep hcrep
      rcases List.mem_cons.mp hmem with hmem | hmem
      · cases hmem
      · rcases hold.outputs outputs hmem crep hcrep with ⟨hlt, hout⟩
        refine ⟨hlt, ?_⟩
        show (st'.iocr _).iocrType = _
        rw [hh.iocr]
        exact hout
    · dsimp only [AtRest]
      rw [hstate]
      rintro (hrest | hrest)
      · cases hrest
      · cases hrest
    · rw [har]
      exact nofun
    · rw [hstate]
      exact nofun
    · rw [hstate]
      exact nofun
    · rw [hstate]
      exact nofun
    · rw [hstate]
      exact nofun
    · rw [hstate]
      exact nofun
    · rw [hstate]
      exact nofun
    · rw [har]
      exact fun _ => rfl
    · rw [har]
      exact fun hne => absurd rfl hne

/-! ## Notes -/

/-- A connection that has confirmed, or whose CPM has accepted a frame. -/
theorem Live.note (h : Live st a) {x : Note} (hevent : ∀ n e, x ≠ .event n e)
    (hconnect : ∀ n outputs, x ≠ .connect n outputs) : Live (st.note x) a := by
  have hother {y : Note} (hmem : y ∈ (st.note x).notes) (hne : x ≠ y) : y ∈ st.notes := by
    rcases List.mem_cons.mp hmem with hmem | hmem
    · exact absurd hmem.symm hne
    · exact hmem
  have hsince {y : Note} (hmem : y ∈ sincePrmEnd (st.connection a) st.notes) :
      y ∈ sincePrmEnd (st.connection a) (st.note x).notes :=
    mem_sincePrmEnd_cons (hevent _ _) hmem
  exact ⟨h.number, fun hmem => h.alive (hother hmem (hevent _ _)), h.room,
    fun outputs hmem => h.outputs outputs (hother hmem (hconnect _ _)), h.early, h.peind,
    fun hs => (h.startup hs).cons _, fun hs => (h.prmEnd hs).cons _,
    fun hs crep hlt hst => hsince (h.start hs crep hlt hst),
    fun hs hr crep hlt hout => hsince (h.ready hs hr crep hlt hout),
    fun hs hc => (h.applRdy hs hc).cons _, fun hs hc => (h.confirmed hs hc).cons _, h.data,
    fun hc hmem => h.fresh hc (hother hmem (hevent _ _))⟩

theorem Law.confirmed (h : Law st) (huse : (st.ar a).inUse = true) :
    Law (st.note (.confirmed (st.connection a))) := by
  have hnotes : (st.note (.confirmed (st.connection a))).notes =
      [.confirmed (st.connection a)] ++ st.notes := rfl
  refine h.act huse (fun _ _ => rfl) (fun _ _ => rfl) rfl rfl hnotes ?_ ⟨trivial, h.lawful⟩
    fun _ => (h.live a huse).note nofun nofun
  intro x hx
  rw [List.mem_singleton.mp hx]
  rfl

/-- The AR is aborted while it is told of something. -/
theorem Law.goneNoted (h : Law st) (huse : (st.ar a).inUse = true) {e : Event}
    (hgone : Stack.Gone (st.note (.event (st.connection a) e)) a st')
    (habort : e ≠ .PNET_EVENT_ABORT) (hdata : e ≠ .PNET_EVENT_DATA) : Law st' := by
  have hold := h.live a huse
  rcases hgone with ⟨s, rfl⟩
  obtain ⟨st1, hst1⟩ : ∃ st1, st1 = st.note (.event (st.connection a) e) := ⟨_, rfl⟩
  have hconn : st1.connection a = st.connection a := by
    rw [hst1]
    rfl
  have hnotes : ((st1.note (.event (st1.connection a) .PNET_EVENT_ABORT)).zeroed a).notes =
      [Note.event (st.connection a) .PNET_EVENT_ABORT, .event (st.connection a) e] ++ st.notes := by
    rw [hst1]
    rfl
  rw [← hst1]
  refine h.act huse (fun a' ha' => ?_) (fun c hc => ?_) (by rw [hst1]; rfl) (by rw [hst1]; rfl) hnotes
    ?_ ?_ fun hu => ?_
  · rw [hst1]
    exact Function.update_of_ne ha' _ _
  · rw [hst1]
    exact if_neg hc
  · intro x hx
    rcases List.mem_cons.mp hx with rfl | hx
    · rfl
    · rw [List.mem_singleton.mp hx]
      rfl
  · show Lawful ((st1.note (.event (st1.connection a) .PNET_EVENT_ABORT)).zeroed a).notes
    rw [hnotes]
    refine ⟨⟨fun hmem => ?_, nofun⟩, ⟨hold.alive, fun hd => absurd hd hdata⟩, h.lawful⟩
    rcases List.mem_cons.mp hmem with hmem | hmem
    · exact habort (Note.event.inj hmem).2.symm
    · exact hold.alive hmem
  · exact absurd ((Stack.zeroed_inUse _ a).symm.trans hu) Bool.false_ne_true

/-! ## Requests -/

theorem abort_law (h : Law st) (hg : Good p sent st) (huse : (st.ar a).inUse = true)
    (hs : st.abort a = some st') : Law st' :=
  h.gone huse (Stack.abort_gone hg.tidy huse hs)

/-- CMDEV has given up before. -/
theorem setAbort_law (h : Law st) (hg : Good p sent st) (huse : (st.ar a).inUse = true)
    (hs : (st.setCmdevState a .PF_CMDEV_STATE_ABORT).abort a = some st') : Law st' := by
  have huse' : ((st.setCmdevState a .PF_CMDEV_STATE_ABORT).ar a).inUse = true := by
    rw [Stack.setCmdevState_ar]
    exact huse
  have hgone : Stack.Gone (st.setCmdevState a .PF_CMDEV_STATE_ABORT) a st' :=
    Stack.abort_gone hg.tidy huse' hs
  exact h.gone huse hgone.of_setAr

theorem dcontrol_law (h : Law st) (hg : Good p sent st) (huse : (st.ar a).inUse = true)
    {d : Dcontrol} (hs : st.cmdevRmDcontrolInd a d clock = some st') : Law st' := by
  unfold Stack.cmdevRmDcontrolInd at hs
  by_cases hstate : (st.ar a).cmdevState = Rpc.CmdevState.PF_CMDEV_STATE_W_PEIND
  · rw [if_pos hstate] at hs
    by_cases hok : d.prmEnd = true ∧ d.accepted = true ∧ d.pdevOk = true
    · rw [if_pos hok] at hs
      have hcmio := (h.live a huse).peind hstate
      have har := Stack.setCmdevState_ar st a .PF_CMDEV_STATE_W_ARDY
      have h1 : Law (st.setCmdevState a .PF_CMDEV_STATE_W_ARDY) := by
        refine h.setCmdevState huse nofun ?_ ?_ ?_
        · rw [hcmio]
          exact nofun
        · rw [hcmio]
          exact nofun
        · rw [hstate]
          exact nofun
      have hg1 : Good p sent (st.setCmdevState a .PF_CMDEV_STATE_W_ARDY) := hg.setCmdevState a _ nofun
      have huse1 : ((st.setCmdevState a .PF_CMDEV_STATE_W_ARDY).ar a).inUse = true := by
        rw [har]
        exact huse
      have hcmio1 : ((st.setCmdevState a .PF_CMDEV_STATE_W_ARDY).ar a).cmioState =
          .PF_CMIO_STATE_STARTUP := by
        rw [har]
        exact hcmio
      by_cases hsession : d.sessionHasAr = true
      · have hs : (st.setCmdevState a .PF_CMDEV_STATE_W_ARDY).cmdevStateInd a .PNET_EVENT_PRMEND
            clock = some st' := (if_pos hsession).symm.trans hs
        have hev := Stack.cmdevStateInd_spec hg1.tidy (hg1.orderly a) huse1 hs nofun
          (by rw [har]; exact nofun) nofun fun _ => .inr hcmio1
        rcases hev.outcome with hheard | ⟨-, hgone⟩
        · exact prmEnd_law h1 huse1 hcmio1 (by rw [har]) hheard
        · exact h1.goneNoted huse1 hgone nofun nofun
      · obtain rfl := Option.some.inj ((if_neg hsession).symm.trans hs)
        exact h1
    · rw [if_neg hok] at hs
      exact abort_law h hg huse hs
  · rw [if_neg hstate] at hs
    obtain rfl : st = st' := Option.some.inj hs
    exact h

theorem applicationReady_law (h : Law st) (hg : Good p sent st) (huse : (st.ar a).inUse = true)
    {dataAvail requested : Bool}
    (hs : st.cmdevCmCcontrolReq a dataAvail requested clock = some st') : Law st' := by
  unfold Stack.cmdevCmCcontrolReq at hs
  by_cases hstate : (st.ar a).cmdevState = Rpc.CmdevState.PF_CMDEV_STATE_W_ARDY ∧ dataAvail = true
  · rw [if_pos hstate] at hs
    rcases Option.map_eq_some_iff.mp hs with ⟨st1, hst1, rfl⟩
    have hev := Stack.cmdevStateInd_spec hg.tidy (hg.orderly a) huse hst1 nofun
      (by rw [hstate.1]; decide) nofun nofun
    rcases hev.outcome with hheard | ⟨hprm, -⟩
    · rcases applRdy_law h huse hstate.1 hheard with ⟨h1, happlRdy⟩
      by_cases hreq : requested = true
      · rw [if_pos hreq]
        have huse1 : (st1.ar a).inUse = true := by
          rw [hheard.ar]
          exact huse
        refine h1.setCmdevState huse1 nofun (fun hs _ => happlRdy hs) (fun _ => nofun) ?_
        rw [hheard.ar]
        show (st.ar a).cmdevState ≠ _
        rw [hstate.1]
        decide
      · rw [if_neg hreq]
        exact h1
    · cases hprm
  · rw [if_neg hstate] at hs
    obtain rfl : st = st' := Option.some.inj hs
    exact h

/-- All output CRs have accepted a frame. -/
theorem Live.prescribed (h : Live st a) (hcmio : (st.ar a).cmioState = .PF_CMIO_STATE_WDATA)
    (hcmdev : (st.ar a).cmdevState ≠ .PF_CMDEV_STATE_DATA) (hready : (st.ar a).ready4Data = true)
    (hstartup : [.confirmed (st.connection a), .event (st.connection a) .PNET_EVENT_APPLRDY,
      .event (st.connection a) .PNET_EVENT_PRMEND,
      .event (st.connection a) .PNET_EVENT_STARTUP].Sublist st.notes) :
    Prescribed (st.connection a) st.notes := by
  refine ⟨h.fresh hcmdev, hstartup, fun outputs hmem crep hcrep => ?_⟩
  rcases h.outputs outputs hmem crep hcrep with ⟨hlt, hout⟩
  exact h.ready hcmio hready crep hlt hout

/-- DATA is possible only when CMIO waits for it. -/
theorem Live.waits (h : Live st a) (hcmdev : (st.ar a).cmdevState ≠ .PF_CMDEV_STATE_DATA)
    (hready : (st.ar a).ready4Data = true) : (st.ar a).cmioState = .PF_CMIO_STATE_WDATA := by
  have hnot (hrest : AtRest st .cmio a) : False :=
    Bool.false_ne_true ((h.early hrest).1.symm.trans hready)
  cases hstate : (st.ar a).cmioState with
  | PF_CMIO_STATE_IDLE => exact absurd (.inl hstate) hnot
  | PF_CMIO_STATE_STARTUP => exact absurd (.inr hstate) hnot
  | PF_CMIO_STATE_WDATA => rfl
  | PF_CMIO_STATE_DATA => exact absurd (h.data hstate) hcmdev

theorem ccontrolCnf_law (h : Law st) (hg : Good p sent st) (huse : (st.ar a).inUse = true)
    {positive done : Bool} (hs : st.cmdevRmCcontrolCnf a positive done clock = some st') :
    Law st' := by
  unfold Stack.cmdevRmCcontrolCnf at hs
  by_cases hstate : (st.ar a).cmdevState = Rpc.CmdevState.PF_CMDEV_STATE_W_ARDYCNF
  · rw [if_pos hstate] at hs
    have hne : (st.ar a).cmdevState ≠ Rpc.CmdevState.PF_CMDEV_STATE_DATA := by
      rw [hstate]
      decide
    cases positive with
    | true =>
      cases done with
      | true =>
        have h1 := h.confirmed huse
        have hg1 : Good p sent (st.note (.confirmed (st.connection a))) := hg.note _
        have hlive := h1.live a huse
        have hconfirmed (hcmio : (st.ar a).cmioState = CmioState.PF_CMIO_STATE_WDATA) :
            [.confirmed (st.connection a), .event (st.connection a) .PNET_EVENT_APPLRDY,
              .event (st.connection a) .PNET_EVENT_PRMEND,
              .event (st.connection a) .PNET_EVENT_STARTUP].Sublist
                (st.note (.confirmed (st.connection a))).notes :=
          ((h.live a huse).applRdy hcmio (.inl hstate)).cons_cons _
        by_cases hready : (st.ar a).ready4Data = true
        · have hs := (if_pos hready).symm.trans hs
          rcases Option.map_eq_some_iff.mp hs with ⟨st1, hst1, rfl⟩
          have hearly : ((st.note (.confirmed (st.connection a))).ar a).cmdevState ≠
              .PF_CMDEV_STATE_W_PEIND := by
            show (st.ar a).cmdevState ≠ _
            rw [hstate]
            decide
          have hev := Stack.cmdevStateInd_spec hg1.tidy (hg1.orderly a) huse hst1 nofun hearly nofun
            nofun
          rcases hev.outcome with hheard | ⟨hprm, -⟩
          · have hcmio := hlive.waits hne hready
            exact data_law h1 huse hcmio (hlive.prescribed hcmio hne hready (hconfirmed hcmio)) hheard
          · cases hprm
        · obtain rfl := Option.some.inj ((if_neg hready).symm.trans hs)
          refine h1.setCmdevState huse nofun (fun hcmio _ => ?_) (fun hcmio _ => hconfirmed hcmio) hne
          exact ((h.live a huse).applRdy hcmio (.inl hstate)).cons _
      | false =>
        obtain rfl : st = st' := Option.some.inj hs
        exact h
    | false => exact setAbort_law h hg huse hs
  · rw [if_neg hstate] at hs
    obtain rfl : st = st' := Option.some.inj hs
    exact h

/-! ## Frames -/

/-- The CPM of a CR accepts a frame. -/
theorem accepted_law (h : Law st) (huse : (st.ar (c / PNET_MAX_CR)).inUse = true) {y : Iocr}
    (htype : y.iocrType = (st.iocr c).iocrType)
    (hstart : y.cmioStart = true → (st.iocr c).cmioStart = true ∨
      (st.ar (c / PNET_MAX_CR)).cmioState = .PF_CMIO_STATE_WDATA) :
    Law ((st.setIocr c y).note (.accepted (st.connection (c / PNET_MAX_CR)) (c % PNET_MAX_CR))) := by
  obtain ⟨a, ha⟩ : ∃ a, a = c / PNET_MAX_CR := ⟨_, rfl⟩
  rw [← ha] at huse hstart ⊢
  have hold := (h.live a huse).note (x := .accepted (st.connection a) (c % PNET_MAX_CR)) nofun nofun
  have hself : (st.setIocr c y).iocr c = y := Function.update_self _ _ _
  have hother (c' : ℕ) (hne : c' ≠ c) : (st.setIocr c y).iocr c' = st.iocr c' :=
    Function.update_of_ne hne _ _
  have htypes (c' : ℕ) : ((st.setIocr c y).iocr c').iocrType = (st.iocr c').iocrType := by
    by_cases hc : c' = c
    · rw [hc, hself, htype]
    · rw [hother c' hc]
  have hnotes : ((st.setIocr c y).note (.accepted (st.connection a) (c % PNET_MAX_CR))).notes =
      [Note.accepted (st.connection a) (c % PNET_MAX_CR)] ++ st.notes := rfl
  refine h.act huse (fun _ _ => rfl) (fun c' hc' => hother c' ?_) rfl rfl hnotes ?_
    ⟨trivial, h.lawful⟩ fun _ => ?_
  · rintro rfl
    exact hc' ha.symm
  · intro x hx
    rw [List.mem_singleton.mp hx]
    rfl
  · refine ⟨hold.number, hold.alive, hold.room, fun outputs hmem crep hcrep => ?_, fun hrest => ?_,
      hold.peind, hold.startup, hold.prmEnd, fun hcmio crep hlt hs => ?_,
      fun hcmio hr crep hlt hout => hold.ready hcmio hr crep hlt ((htypes _).symm.trans hout),
      hold.applRdy, hold.confirmed, hold.data, hold.fresh⟩
    · rcases hold.outputs outputs hmem crep hcrep with ⟨hlt, hout⟩
      exact ⟨hlt, (htypes _).trans hout⟩
    · have hrest' : AtRest st .cmio a := hrest
      rcases hold.early hrest' with ⟨hready, hnone⟩
      refine ⟨hready, fun c' hc' => ?_⟩
      show ((st.setIocr c y).iocr c').cmioStart = false
      by_cases hc : c' = c
      · rw [hc, hself]
        by_contra hs
        rcases hstart (Bool.eq_true_of_not_eq_false hs) with hs' | hcmio
        · exact absurd ((hnone c ha.symm).symm.trans hs') Bool.false_ne_true
        · dsimp only [AtRest] at hrest'
          rw [hcmio] at hrest'
          rcases hrest' with h | h <;> cases h
      · rw [hother c' hc]
        exact hnone c' hc'
    · by_cases hc : crOf a crep = c
      · have hcrep : crep = c % PNET_MAX_CR := by
          rw [← hc, crOf_mod a hlt]
        rw [hcrep]
        exact mem_sincePrmEnd_self _
      · refine hold.start hcmio crep hlt ?_
        have hs' : ((st.setIocr c y).iocr (crOf a crep)).cmioStart = true := hs
        rw [hother _ hc] at hs'
        exact hs'

/-- What a frame may change of its CR. -/
structure Takes (st : Stack) (c : ℕ) (y : Iocr) : Prop where
  type : y.iocrType = (st.iocr c).iocrType
  start : y.cmioStart = true → (st.iocr c).cmioStart = true ∨
    (st.ar (c / PNET_MAX_CR)).cmioState = .PF_CMIO_STATE_WDATA

theorem setIocr_setIocr (st : Stack) (c : ℕ) (y z : Iocr) :
    (st.setIocr c y).setIocr c z = st.setIocr c z := by
  unfold Stack.setIocr
  dsimp only
  rw [Function.update_idem]

/-- CMIO learns of the frame in WDATA only. -/
theorem cmioCpmStateInd_takes {st1 : Stack}
    (hs : st.cmioCpmStateInd (c / PNET_MAX_CR) (c % PNET_MAX_CR) true = some st1) :
    ∃ y, st1 = st.setIocr c y ∧ Takes st c y := by
  rcases cmioCpmStateInd_start st (c / PNET_MAX_CR) (c % PNET_MAX_CR) with hst | ⟨hcmio, hst⟩
  · obtain rfl : st = st1 := Option.some.inj (hst.symm.trans hs)
    refine ⟨st.iocr c, ?_, rfl, .inl⟩
    unfold Stack.setIocr
    rw [Function.update_eq_self]
  · obtain rfl := Option.some.inj (hst.symm.trans hs)
    rw [crOf_eq]
    exact ⟨_, rfl, rfl, fun _ => .inr hcmio⟩

theorem cmioCpmNewDataInd_takes {y : Iocr} (h : Takes st c y) :
    ∃ z, (st.setIocr c y).cmioCpmNewDataInd (c / PNET_MAX_CR) (c % PNET_MAX_CR) true =
      st.setIocr c z ∧ Takes st c z := by
  have hself : (st.setIocr c y).iocr c = y := Function.update_self _ _ _
  unfold Stack.cmioCpmNewDataInd
  split
  · next hcmio =>
    rw [crOf_eq, hself, setIocr_setIocr]
    exact ⟨_, rfl, h.type, fun _ => .inr hcmio.1⟩
  · exact ⟨y, rfl, h⟩

theorem frame_law (h : Law st) (hg : Good p sent st) {f : Cyclic.Frame} {frameIdPos : BitVec 16}
    (hs : st.cpmCDataInd c f frameIdPos = some st') : Law st' := by
  unfold Stack.cpmCDataInd at hs
  dsimp only at hs
  by_cases hacc : Cyclic.Accepts (st.iocr c).cpm f frameIdPos
  · rw [if_pos hacc] at hs
    rcases Option.map_eq_some_iff.mp hs with ⟨st1, hst1, rfl⟩
    have huse : (st.ar (c / PNET_MAX_CR)).inUse = true :=
      ((hg.orderly _).slots .cpm c rfl).used hacc.1
    have htold : ∃ y, st1 = st.setIocr c y ∧ Takes st c y := by
      by_cases hfrun : (st.iocr c).cpm.state = Cyclic.CpmState.PF_CPM_STATE_FRUN
      · rw [if_pos hfrun] at hst1
        exact cmioCpmStateInd_takes hst1
      · rw [if_neg hfrun] at hst1
        obtain rfl : st = st1 := Option.some.inj hst1
        refine ⟨st.iocr c, ?_, rfl, .inl⟩
        unfold Stack.setIocr
        rw [Function.update_eq_self]
    rcases htold with ⟨y, rfl, hy⟩
    rcases cmioCpmNewDataInd_takes hy with ⟨z, hz, htakes⟩
    have hself : (st.setIocr c z).iocr c = z := Function.update_self _ _ _
    rw [hz]
    unfold Stack.setCpm
    rw [hself, setIocr_setIocr]
    exact accepted_law h huse htakes.type htakes.start
  · rw [if_neg hacc] at hs
    obtain rfl := Option.some.inj hs
    exact h.calm (.setIocr rfl id)

/-! ## Alarms and supervision -/

theorem add_calm {delay : Time} {r : ℤ × Stack} (hs : st.add kind i delay now = some r) :
    Calm st r.2 := by
  rcases Option.map_eq_some_iff.mp hs with ⟨q, -, rfl⟩
  exact .of_same rfl rfl rfl rfl rfl

theorem setApmx_calm (st : Stack) (k : ℕ) (y : Apmx) : Calm st (st.setApmx k y) :=
  .of_same rfl rfl rfl rfl rfl

theorem sched_calm (st : Stack) (s : St) : Calm st { st with sched := s } :=
  .of_same rfl rfl rfl rfl rfl

theorem record_law (h : Law st) (hs : st.cmsmRestart a now = some st') : Law st' := by
  unfold Stack.cmsmRestart at hs
  by_cases hstate : (st.ar a).cmsmState = Rpc.CmsmState.PF_CMSM_STATE_RUN
  · rw [if_pos hstate] at hs
    rcases Option.map_eq_some_iff.mp hs with ⟨r, hr, rfl⟩
    rcases Option.map_eq_some_iff.mp hr with ⟨q, -, rfl⟩
    exact h.calm (sched_calm st q.2)
  · rw [if_neg hstate] at hs
    obtain rfl : st = st' := Option.some.inj hs
    exact h

theorem sendAlarm_law (h : Law st) (hg : Good p sent st) (huse : (st.ar (k / 2)).inUse = true)
    {alarm : Option Alarm.AlarmData} (hs : st.apmsApmsADataReq k alarm env = some st') :
    Law st' := by
  unfold Stack.apmsApmsADataReq at hs
  dsimp only at hs
  by_cases hopen : (st.apmx k).apmsState ≠ Alarm.ApmsState.PF_APMS_STATE_OPEN
  · rw [if_pos hopen] at hs
    exact abort_law h hg huse hs
  · rw [if_neg hopen] at hs
    rcases Option.map_eq_some_iff.mp hs with ⟨r, hr, rfl⟩
    exact h.calm ((setApmx_calm st k _).trans (add_calm hr))

/-! ## Rounds of the tick -/

theorem cmsm_law (h : Law st) (hg : Good p sent st) (hf : Fired p st .cmsm a s)
    (hs0 : pfSchedulerResetHandle s0 (timers.handle .cmsm a) = s)
    (hs : Stack.cmsmTimeout { st with sched := s0 } a = some st') : Law st' := by
  have h1 : Law { st with sched := s } := h.calm (sched_calm st s)
  unfold Stack.cmsmTimeout at hs
  rw [resetHandle_eq st hs0] at hs
  dsimp only at hs
  by_cases hstate : (st.ar a).cmsmState = Rpc.CmsmState.PF_CMSM_STATE_RUN
  · rw [if_pos hstate] at hs
    rcases Option.map_eq_some_iff.mp hs with ⟨st1, hst1, rfl⟩
    have hnot : ¬ AtRest st .cmsm a := by
      dsimp only [AtRest]
      rw [hstate]
      decide
    have huse : (st.ar a).inUse = true := ((hg.orderly a).slots .cmsm a rfl).used hnot
    exact (h1.gone huse (Stack.abort_gone hf.tidy huse hst1)).calm (.setAr rfl rfl rfl rfl rfl)
  · rw [if_neg hstate] at hs
    obtain rfl := Option.some.inj hs
    exact h1

theorem apmx_law (h : Law st) (hg : Good p sent st) (hf : Fired p st .apmx k s)
    (hs0 : pfSchedulerResetHandle s0 (timers.handle .apmx k) = s)
    (hs : Stack.apmsTimeout { st with sched := s0 } k tick env = some st') : Law st' := by
  have h1 : Law { st with sched := s } := h.calm (sched_calm st s)
  unfold Stack.apmsTimeout at hs
  rw [resetHandle_eq st hs0] at hs
  dsimp only at hs
  by_cases hstate : (st.apmx k).apmsState = Alarm.ApmsState.PF_APMS_STATE_WTACK
  · rw [if_pos hstate] at hs
    have hnot : ¬ AtRest st .apmx k := by
      dsimp only [AtRest]
      rw [hstate]
      decide
    have huse : (st.ar (k / 2)).inUse = true := ((hg.orderly _).slots .apmx k rfl).used hnot
    cases hrta : (st.apmx k).rta with
    | none =>
      rw [hrta] at hs
      obtain rfl := Option.some.inj hs
      exact h1
    | some pdu =>
      rw [hrta] at hs
      by_cases hcounter : 0 < (st.apmx k).resendCounter
      · rcases Option.map_eq_some_iff.mp ((if_pos hcounter).symm.trans hs) with ⟨r, hr, rfl⟩
        exact h1.calm ((setApmx_calm _ k _).trans (add_calm hr))
      · have hs := (if_neg hcounter).symm.trans hs
        exact (h1.calm (setApmx_calm _ k _)).gone huse (Stack.abort_gone hf.tidy huse hs)
  · rw [if_neg hstate] at hs
    obtain rfl := Option.some.inj hs
    exact h1.calm (setApmx_calm _ k _)

theorem setCpm_calm (st : Stack) (c : ℕ) (x : Cyclic.Cpm) : Calm st (st.setCpm c x) :=
  .setIocr rfl id

theorem setPpm_calm (st : Stack) (c : ℕ) (x : Cyclic.Ppm) : Calm st (st.setPpm c x) :=
  .setIocr rfl id

theorem cpm_law (h : Law st) (hg : Good p sent st) (hf : Fired p st .cpm c s)
    (hs0 : pfSchedulerResetHandle s0 (timers.handle .cpm c) = s)
    (hs : Stack.cpmControlIntervalExpired { st with sched := s0 } c now = some st') : Law st' := by
  have h1 : Law { st with sched := s } := h.calm (sched_calm st s)
  have hslot := (hg.orderly _).slots .cpm c rfl
  unfold Stack.cpmControlIntervalExpired at hs
  rw [resetHandle_eq st hs0] at hs
  dsimp only at hs
  by_cases hci : (st.iocr c).cpm.ciRunning = false
  · rw [if_pos hci] at hs
    obtain rfl := Option.some.inj hs
    exact h1
  · rw [if_neg hci] at hs
    have huse : (st.ar (c / PNET_MAX_CR)).inUse = true :=
      hslot.used (hslot.running.mp (Bool.eq_true_of_not_eq_false hci))
    by_cases hdht : (st.iocr c).cpm.state = Cyclic.CpmState.PF_CPM_STATE_RUN ∧
        (st.iocr c).cpm.dataHoldFactor ≤ (st.iocr c).cpm.dht
    · rw [if_pos hdht] at hs
      rcases Option.map_eq_some_iff.mp hs with ⟨st2, hst2, rfl⟩
      refine Law.calm ?_ (setCpm_calm st2 c _)
      obtain ⟨st1, hst1⟩ : ∃ st1, st1 = ({ st with sched := s } : Stack).setCpm c
          { (st.iocr c).cpm with dht := 0, ciRunning := false } := ⟨_, rfl⟩
      have h2 : Law st1 := by
        rw [hst1]
        exact h1.calm (setCpm_calm _ c _)
      have huse1 : (st1.ar (c / PNET_MAX_CR)).inUse = true := by
        rw [hst1]
        exact huse
      have ht1 : timers.Tidy st1.sched := by
        rw [hst1]
        exact hf.tidy
      rw [← hst1] at hst2
      rcases cmioCpmStateInd_stop st1 c with hq | hq | ⟨hq, -⟩
      · obtain rfl := Option.some.inj (hq.symm.trans hst2)
        exact h2
      · obtain rfl := Option.some.inj (hq.symm.trans hst2)
        exact h2.calm (.setIocr rfl nofun)
      · exact h2.gone huse1 (Stack.abort_gone ht1 huse1 (hq.symm.trans hst2))
    · rw [if_neg hdht] at hs
      rcases Option.bind_eq_some_iff.mp hs with ⟨r, hr, hs⟩
      have hzero : r.1 = 0 := by
        rcases Option.map_eq_some_iff.mp hr with ⟨q, hq, rfl⟩
        rcases hf.tidy.add_room hq with ⟨-, hzero, -⟩ | ⟨hfull, -⟩
        · exact hzero
        · exact absurd hf.free hfull
      rw [if_pos hzero] at hs
      obtain rfl := Option.some.inj hs
      exact h1.calm ((setCpm_calm _ c _).trans (add_calm hr))

theorem ppm_law (h : Law st) (hf : Fired p st .ppm c s)
    (hs0 : pfSchedulerResetHandle s0 (timers.handle .ppm c) = s)
    (hs : Stack.ppmDrvSwSend { st with sched := s0 } c tick env.takes now = some st') : Law st' := by
  have h1 : Law { st with sched := s } := h.calm (sched_calm st s)
  unfold Stack.ppmDrvSwSend at hs
  rw [resetHandle_eq st hs0] at hs
  dsimp only at hs
  cases hdelay : ((st.iocr c).ppm.drvSwSend (st.iocr c).inLength tick env.takes true).2.1 with
  | none =>
    rw [hdelay] at hs
    obtain rfl := Option.some.inj hs
    exact h1.calm (setPpm_calm _ c _)
  | some delay =>
    rw [hdelay] at hs
    rcases Option.bind_eq_some_iff.mp hs with ⟨r, hr, hs⟩
    have hzero : r.1 = 0 := by
      rcases Option.map_eq_some_iff.mp hr with ⟨q, hq, rfl⟩
      rcases hf.tidy.add_room hq with ⟨-, hzero, -⟩ | ⟨hfull, -⟩
      · exact hzero
      · exact absurd hf.free hfull
    rw [if_pos hzero] at hs
    obtain rfl := Option.some.inj hs
    exact h1.calm ((add_calm hr).trans (setPpm_calm _ c _))

/-! ## The poll of CMIO -/

/-- CMDEV has been told whether DATA is possible. -/
theorem polled_law (h : Law st) (huse : (st.ar a).inUse = true)
    (hcmio : (st.ar a).cmioState = .PF_CMIO_STATE_WDATA) :
    Law (st.setAr a { st.ar a with ready4Data := st.dataPossible a }) := by
  have hold := h.live a huse
  have hself : (st.setAr a { st.ar a with ready4Data := st.dataPossible a }).ar a =
      { st.ar a with ready4Data := st.dataPossible a } := Stack.setAr_self st a _
  have hnotes : (st.setAr a { st.ar a with ready4Data := st.dataPossible a }).notes =
      [] ++ st.notes := rfl
  refine h.act huse (fun a' ha' => Function.update_of_ne ha' _ _) (fun _ _ => rfl) rfl rfl hnotes
    nofun h.lawful fun _ => ?_
  constructor
  · exact hold.number
  · exact hold.alive
  · rw [hself]
    exact hold.room
  · rw [hself]
    exact hold.outputs
  · dsimp only [AtRest]
    rw [hself]
    dsimp only
    rw [hcmio]
    rintro (hrest | hrest)
    · cases hrest
    · cases hrest
  · rw [hself]
    exact hold.peind
  · rw [hself]
    exact hold.startup
  · rw [hself]
    exact hold.prmEnd
  · rw [hself]
    exact hold.start
  · -- the poll has found that each output CR has started
    rw [hself]
    intro _ hpossible crep hlt hout
    refine hold.start hcmio crep (Nat.lt_of_lt_of_le hlt hold.room) ?_
    have hall := List.all_eq_true.mp hpossible crep (List.mem_range.mpr hlt)
    have hconsumes : (st.iocr (crOf a crep)).consumes = true := decide_eq_true (.inl hout)
    rw [hconsumes] at hall
    exact hall
  · rw [hself]
    exact hold.applRdy
  · rw [hself]
    exact hold.confirmed
  · rw [hself]
    exact hold.data
  · rw [hself]
    exact hold.fresh

theorem cmdevCmioInfoInd_law (h : Law st) (hg : Good p sent st) (huse : (st.ar a).inUse = true)
    (hcmio : (st.ar a).cmioState = .PF_CMIO_STATE_WDATA)
    (hs : st.cmdevCmioInfoInd a (st.dataPossible a) now = some st') : Law st' := by
  obtain ⟨ready, hready⟩ : ∃ ready,
      ready = st.setAr a { st.ar a with ready4Data := st.dataPossible a } := ⟨_, rfl⟩
  have har : ready.ar a = { st.ar a with ready4Data := st.dataPossible a } := by
    rw [hready, Stack.setAr_self]
  have h1 : Law ready := by
    rw [hready]
    exact polled_law h huse hcmio
  have hg1 : Good p sent ready := by
    rw [hready]
    exact hg.setAr _ rfl rfl rfl rfl rfl (hg.orderly a).early
  have huse1 : (ready.ar a).inUse = true := by
    rw [har]
    exact huse
  have hcmio1 : (ready.ar a).cmioState = CmioState.PF_CMIO_STATE_WDATA := by
    rw [har]
    exact hcmio
  unfold Stack.cmdevCmioInfoInd at hs
  dsimp only at hs
  rw [← hready] at hs
  cases hcmdev : (st.ar a).cmdevState with
  | PF_CMDEV_STATE_W_ARDY =>
    rw [hcmdev] at hs
    obtain rfl : ready = st' := Option.some.inj hs
    exact h1
  | PF_CMDEV_STATE_W_ARDYCNF =>
    rw [hcmdev] at hs
    obtain rfl : ready = st' := Option.some.inj hs
    exact h1
  | PF_CMDEV_STATE_WDATA =>
    rw [hcmdev] at hs
    by_cases hpossible : st.dataPossible a = true
    · rcases Option.map_eq_some_iff.mp ((if_pos hpossible).symm.trans hs) with ⟨st1, hst1, rfl⟩
      have hcmdev1 : (ready.ar a).cmdevState = Rpc.CmdevState.PF_CMDEV_STATE_WDATA := by
        rw [har]
        exact hcmdev
      have hev := Stack.cmdevStateInd_spec hg1.tidy (hg1.orderly a) huse1 hst1 nofun
        (by rw [hcmdev1]; decide) nofun nofun
      rcases hev.outcome with hheard | ⟨hprm, -⟩
      · have hlive := h1.live a huse1
        refine data_law h1 huse1 hcmio1 (hlive.prescribed hcmio1 (by rw [hcmdev1]; decide) ?_
          (hlive.confirmed hcmio1 hcmdev1)) hheard
        rw [har]
        exact hpossible
      · cases hprm
    · obtain rfl : ready = st' := Option.some.inj ((if_neg hpossible).symm.trans hs)
      exact h1
  | _ =>
    rw [hcmdev] at hs
    obtain rfl : st = st' := Option.some.inj hs
    exact h

theorem cmio_law (h : Law st) (hg : Good p sent st)
    (hs : st.cmioTimerExpired a now = some st') : Law st' := by
  unfold Stack.cmioTimerExpired at hs
  by_cases hcond : (st.ar a).cmioState = CmioState.PF_CMIO_STATE_WDATA ∧
      (st.ar a).cmioTimerShouldReschedule = true
  · rw [if_pos hcond] at hs
    rcases Option.bind_eq_some_iff.mp hs with ⟨st1, hst1, hs⟩
    rcases Option.map_eq_some_iff.mp hs with ⟨r, hr, rfl⟩
    have hnot : ¬ AtRest st .cmio a := by
      dsimp only [AtRest]
      rw [hcond.1]
      decide
    have huse : (st.ar a).inUse = true := ((hg.orderly a).slots .cmio a rfl).used hnot
    exact (cmdevCmioInfoInd_law h hg huse hcond.1 hst1).calm (add_calm hr)
  · rw [if_neg hcond] at hs
    obtain rfl := Option.some.inj hs
    have h1 : Calm st (st.setShouldReschedule a false) := .setAr rfl rfl rfl rfl rfl
    exact h.calm (h1.trans (.of_same rfl rfl rfl rfl rfl))

theorem round_law (h : Law st) (hg : Good p sent st) (hs : st.round tick env = some st') :
    Law st' := by
  cases round_cases hg hs with
  | waits same =>
    rw [same]
    exact h
  | foreign s tidy within same =>
    rw [same]
    exact h.calm (sched_calm st s)
  | fired k i s expired moved job fires back =>
    have hf := hg.fired expired moved job
    cases k with
    | cmio =>
      rcases hg.cmioFired expired moved job env.now with ⟨s1, hg1, -, heq⟩
      exact cmio_law (h.calm (sched_calm st s1)) hg1 (heq.symm.trans back)
    | cmsm => exact cmsm_law h hg hf rfl back
    | cpm => exact cpm_law h hg hf rfl back
    | ppm => exact ppm_law h hf rfl back
    | apmx => exact apmx_law h hg hf rfl back

/-! ## Runs -/

/-- What happens to an AR that may not be in use. -/
theorem guarded_law {b : Bool} {x : Option Stack} (h : Law st) (hx : b = true → x = some st' → Law st')
    (hs : (if b = true then x else some st) = some st') : Law st' := by
  cases b with
  | true => exact hx rfl hs
  | false =>
    obtain rfl : st = st' := Option.some.inj hs
    exact h

theorem step_law {e : Step} (h : Law st) (hg : Good (fun _ => False) False st)
    (hs : step st e = some st') : Law st' := by
  cases e with
  | connect request verdict allocated clock =>
    exact connect_law h hg (connect_spec hg nofun nofun hs).2
  | dcontrol a d clock => exact guarded_law h (fun huse => dcontrol_law h hg huse) hs
  | applicationReady a dataAvail requested clock =>
    exact guarded_law h (fun huse => applicationReady_law h hg huse) hs
  | ccontrolCnf a positive done clock =>
    exact guarded_law h (fun huse => ccontrolCnf_law h hg huse) hs
  | frame c f frameIdPos => exact frame_law h hg hs
  | record a now => exact guarded_law h (fun _ => record_law h) hs
  | sendAlarm k alarm env => exact guarded_law h (fun huse => sendAlarm_law h hg huse) hs
  | alarmFrame k pduType ackSeqNbr =>
    obtain rfl := Option.some.inj hs
    exact h.calm (setApmx_calm st k _)
  | abort a => exact guarded_law h (fun huse => setAbort_law h hg huse) hs
  | call call hforeign =>
    rcases Option.map_eq_some_iff.mp hs with ⟨s, -, rfl⟩
    exact h.calm (sched_calm st s)
  | round tick env => exact round_law h hg hs

/-- The history of each run is lawful: the application is told of DATA once at most, after STARTUP,
PRMEND, APPLRDY and the confirmation, when each output CR has accepted a frame since PRMEND, and of
nothing after ABORT. -/
theorem lawful_of_run {tickInterval : Time} {deviceMac : Vector Byte 6} {steps : List Step}
    (hrun : runInit tickInterval deviceMac steps = some st) : Lawful st.notes := by
  rcases Option.bind_eq_some_iff.mp hrun with ⟨st0, hst0, hsteps⟩
  have hstep (st : Stack) (e : Step) (st' : Stack) (h : Good (fun _ => False) False st ∧ Law st)
      (hs : step st e = some st') : Good (fun _ => False) False st' ∧ Law st' :=
    ⟨step_good h.1 ⟨nofun, nofun, nofun, nofun⟩ hs, step_law h.2 h.1 hs⟩
  exact (Runs.invariant_of_step hstep ⟨init_good hst0, init_law hst0⟩ hsteps).2.lawful

open TwoCrs in
/-- A run to DATA, with what it adds to the history. -/
theorem lawful_of_run_data :
    ∃ st, runInit 1000 mac (running ++ [.abort 0]) = some st ∧ Lawful st.notes ∧
      st.notes = [.event 0 .PNET_EVENT_ABORT, .event 0 .PNET_EVENT_DATA, .confirmed 0,
        .event 0 .PNET_EVENT_APPLRDY, .accepted 0 0, .event 0 .PNET_EVENT_PRMEND,
        .event 0 .PNET_EVENT_STARTUP, .connect 0 [0]] := by
  have hruns : (runInit 1000 mac (running ++ [.abort 0])).map (fun st => st.notes) =
      some [.event 0 .PNET_EVENT_ABORT, .event 0 .PNET_EVENT_DATA, .confirmed 0,
        .event 0 .PNET_EVENT_APPLRDY, .accepted 0 0, .event 0 .PNET_EVENT_PRMEND,
        .event 0 .PNET_EVENT_STARTUP, .connect 0 [0]] := by decide +kernel
  rcases Option.map_eq_some_iff.mp hruns with ⟨st, hrun, hnotes⟩
  exact ⟨st, hrun, lawful_of_run hrun, hnotes⟩

end PNet.LifeCycle
