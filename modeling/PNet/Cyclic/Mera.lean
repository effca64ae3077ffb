import PNet.Cyclic.Lan9662
import PNet.Lib.Runs
import PNet.Lib.Stock

/-! # The resources of the hardware driver

How the LAN9662 drivers `pf_ppm_driver_lan9662.c` and `pf_cpm_driver_lan9662.c`, with the parts of
`pf_lan9662_mera.c` and `pf_sram_uio.c` under them, take frames, ids and SRAM, and how they return
them: a close request has the scheduler call `delayed_close` later. The requests come through
`pf_ppm.c` and `pf_cpm.c`.

What the calls into the library, the scripts and the scheduler return comes with each event. Of the
calls it is kept which ids they are given (`programmed`). A read action list is given to a call
with the id that `pf_mera_ral_id_alloc` returned, whatever it is.

A step is `none` where the program ends: when no frame is left, where an assertion fails, and where
it goes through a null pointer or writes outside of a pool.
-/

namespace PNet.Cyclic.Mera

open Connect Block

/-! ## Pools -/

def PF_MERA_INVALID_ID : ℕ := 0xFFFF
def PF_SRAM_AREA_START_ADDRESS : ℕ := 100
def PF_SRAM_FRAME_SIZE : ℕ := 1600
def PF_SRAM_MAX_FRAMES : ℕ := 4

/-- `PNET_LAN9662_MAX_FRAMES` and `PNET_LAN9662_MAX_IDS` of the build, and the `driver_config` of
the application. -/
structure Config where
  maxFrames : ℕ
  maxIds : ℕ
  vcamBaseId : BitVec 16
  rtpBaseId : BitVec 16
  ralBaseId : BitVec 16
  walBaseId : BitVec 16

inductive Kind where
  | vcam | vlan | rtp | ral | wal | sram
deriving DecidableEq, Repr

/-- An entry of a pool. -/
abbrev Resource := Kind × ℕ

namespace Config

variable (c : Config)

/-- `pf_driver_init` leaves the base of the VLAN indices zero. -/
def baseId : Kind → ℕ
  | .vcam => c.vcamBaseId.toNat
  | .vlan => 0
  | .rtp => c.rtpBaseId.toNat
  | .ral => c.ralBaseId.toNat
  | .wal => c.walBaseId.toNat
  | .sram => PF_SRAM_AREA_START_ADDRESS

def count : Kind → ℕ
  | .sram => PF_SRAM_MAX_FRAMES
  | _ => c.maxIds

/-- How an entry is named outside of its pool. -/
def id : Kind → ℕ → ℕ
  | .sram, i => PF_SRAM_AREA_START_ADDRESS + i * PF_SRAM_FRAME_SIZE
  | k, i => (c.baseId k + i) % 2 ^ 16

end Config

/-- What is returned when a pool is empty. -/
def refused : Kind → ℕ
  | .sram => PF_SRAM_INVALID_ADDRESS
  | _ => PF_MERA_INVALID_ID

section
variable (c : Config)

/-- The first entry that is not used. -/
def idAlloc (k : Kind) (p : Stock Resource) : Stock Resource × ℕ :=
  match (List.range (c.count k)).find? fun i => !p.used (k, i) with
  | some i => (p.take (k, i), c.id k i)
  | none => (p, refused k)

/-- `used[id - base_id] = false`. -/
def idFree (k : Kind) (id : ℕ) (p : Stock Resource) : Option (Stock Resource) :=
  if id = PF_MERA_INVALID_ID then some p
  else if c.baseId k ≤ id ∧ id - c.baseId k < c.maxIds then
    some (p.giveBack (k, id - c.baseId k))
  else none

def vcamIdAlloc := idAlloc c .vcam
def vlanIndexAlloc := idAlloc c .vlan
def rtpIdAlloc := idAlloc c .rtp
def ralIdAlloc := idAlloc c .ral
def walIdAlloc := idAlloc c .wal
def sramFrameAlloc := idAlloc c .sram

def vcamIdFree := idFree c .vcam
def vlanIndexFree := idFree c .vlan
def rtpIdFree := idFree c .rtp
def ralIdFree := idFree c .ral
def walIdFree := idFree c .wal

/-- `pf_sram_frame_free`. -/
def sramFrameFree (address : ℕ) (p : Stock Resource) : Stock Resource :=
  match (List.range PF_SRAM_MAX_FRAMES).find? fun i => c.id .sram i = address with
  | some i => p.giveBack (.sram, i)
  | none => p

end

/-! ## State -/

inductive Side where
  | ppm | cpm
deriving DecidableEq, Repr

/-- The PPM or the CPM in the CR of an AR. -/
abbrev Cr := Side × ℕ × ℕ

def Cr.ar (cr : Cr) : ℕ := cr.2.1

/-- `pf_mera_frame_t`. -/
structure DrvFrame where
  used : Bool
  active : Bool
  isCpm : Bool
  /-- `config.p_iocr`. -/
  iocr : Option Cr
  vcamId : ℕ
  vlanIdx : ℕ
  rtpId : ℕ
  obWalId : ℕ
  internalWalId : ℕ
  sramFrameAddress : ℕ
  rteObject : RteIx → RteObject
  ibRalId : RteIx → ℕ

/-- The frame and the state of a PPM or CPM, and whether it was created and not closed since. -/
structure Endpoint where
  /-- The state is not `W_START`. -/
  run : Bool
  frame : Option ℕ
  opened : Bool
deriving DecidableEq, Repr

structure Driver where
  pools : Stock Resource
  frame : ℕ → DrvFrame
  cr : Cr → Endpoint
  /-- The calls of `delayed_close` that the scheduler has. -/
  pending : List (Side × Option ℕ)
  /-- All ids that calls were given. -/
  programmed : List (Kind × ℕ)

/-- `memset`. -/
def zeroFrame : DrvFrame where
  used := false
  active := false
  isCpm := false
  iocr := none
  vcamId := 0
  vlanIdx := 0
  rtpId := 0
  obWalId := 0
  internalWalId := 0
  sramFrameAddress := 0
  rteObject _ := ⟨none, PF_SRAM_INVALID_ADDRESS⟩
  ibRalId _ := 0

def powerOn : Driver where
  pools := Stock.new
  frame _ := zeroFrame
  cr _ := ⟨false, none, false⟩
  pending := []
  programmed := []

/-! ## Calls -/

/-- Calls with the ids they are given and what comes of them. The first that fails is the last. -/
def attempt : List (List (Kind × ℕ) × Bool) → List (Kind × ℕ) × Bool
  | [] => ([], true)
  | (ids, ok) :: calls =>
    if ok then (ids ++ (attempt calls).1, (attempt calls).2) else (ids, false)

/-- What the calls of `pf_mera_add_ib_entry` return. -/
structure IbEntryCalls where
  /-- The application has mapped the object to the QSPI. -/
  qspi : Bool
  raInit : Bool
  raAdd : Bool
  raCtrl : Bool
  dgInit : Bool
  dgAdd : Bool
  ralConf : Bool
  waInit : Bool
  waAdd : Bool
deriving DecidableEq, Repr

/-- What the calls of `pf_mera_ppm_start_rte` return. -/
structure PpmCalls where
  vcap : Bool
  rtpConf : Bool
  entry : RteIx → IbEntryCalls

/-- What the calls of `pf_mera_add_ob_entry` return. -/
structure ObEntryCalls where
  qspi : Bool
  dgInit : Bool
  dgAdd : Bool
  dgCtrl : Bool
  waInit : Bool
  waAdd : Bool
  waAddQspi : Bool
deriving DecidableEq, Repr

/-- What the calls of `pf_cpm_drv_lan9662_activate_req` return. -/
structure CpmCalls where
  vcap : Bool
  rtpConf : Bool
  entry : RteIx → ObEntryCalls
  eventEnable : Bool
  timer : Bool

namespace DrvFrame

variable (g : DrvFrame)

/-- The objects that are configured, in their order. -/
def dataIxs : List RteIx := rteIxs.filter fun ix => meraIbRalReq (g.rteObject ix)

/-- The ids that the script for a VCAM rule is given. -/
def ruleIds : List (Kind × ℕ) := [(.vcam, g.vcamId), (.vlan, g.vlanIdx), (.rtp, g.rtpId)]

/-- The calls of `pf_mera_ppm_start_rte` before it asks for the WAL id. -/
def ppmStartCalls (o : PpmCalls) : List (List (Kind × ℕ) × Bool) :=
  [(g.ruleIds, o.vcap), ([(.rtp, g.rtpId)], o.rtpConf)]

/-- The calls of `pf_mera_add_ib_entry`. Without `mera_ob_wa_init` there is no internal transfer. -/
def ibCalls (ralId : ℕ) (o : IbEntryCalls) : List (List (Kind × ℕ) × Bool) :=
  [([], o.raInit), ([(.ral, ralId)], o.raAdd)] ++
    (if o.qspi then [([(.ral, ralId)], o.raCtrl)] else []) ++
    [([], o.dgInit), ([(.ral, ralId), (.rtp, g.rtpId)], o.dgAdd), ([(.ral, ralId)], o.ralConf)] ++
    if o.qspi && o.waInit then [([(.wal, g.internalWalId)], o.waAdd)] else []

/-- The calls of `pf_mera_add_ob_entry`. -/
def obCalls (o : ObEntryCalls) : List (List (Kind × ℕ) × Bool) :=
  [([], o.dgInit), ([(.rtp, g.rtpId)], o.dgAdd), ([(.rtp, g.rtpId)], o.dgCtrl)] ++
    if o.waInit then
      ([(.wal, g.obWalId), (.rtp, g.rtpId)], o.waAdd) ::
        if o.qspi then [([(.wal, g.obWalId), (.rtp, g.rtpId)], o.waAddQspi)] else []
    else []

/-- The calls of `pf_mera_cpm_start_rte` that make it return. -/
def cpmStartCalls (o : CpmCalls) : List (List (Kind × ℕ) × Bool) :=
  (g.ruleIds, o.vcap) :: ([(.rtp, g.rtpId), (.wal, g.obWalId)], o.rtpConf) ::
    g.dataIxs.flatMap fun ix => g.obCalls (o.entry ix)

end DrvFrame

namespace Driver

section
variable (c : Config) (st : Driver)

def setFrame (f : ℕ) (g : DrvFrame) : Driver := { st with frame := Function.update st.frame f g }

def setCr (cr : Cr) (e : Endpoint) : Driver := { st with cr := Function.update st.cr cr e }

def programs (ids : List (Kind × ℕ)) : Driver := { st with programmed := ids ++ st.programmed }

/-! ## Frames -/

/-- `pf_mera_alloc_frame`, which does not return without a frame. -/
def allocFrame : Option (ℕ × Driver) :=
  ((List.range c.maxFrames).find? fun f => !(st.frame f).used).map fun f =>
    (f, st.setFrame f { zeroFrame with used := true, ibRalId := fun _ => PF_MERA_INVALID_ID })

/-- `pf_mera_free_frame`. -/
def freeFrame (f : ℕ) : Driver := st.setFrame f { st.frame f with used := false }

/-- What `pf_mera_ppm_alloc` and `pf_mera_cpm_alloc` have in common; `ids` takes the ids. -/
def alloc (cr : Cr) (dataDesc : List IodataObject)
    (ids : Stock Resource → DrvFrame → Stock Resource × DrvFrame) : Option (Option ℕ × Driver) :=
  match st.allocFrame c with
  | none => none
  | some (f, st) =>
    let (pools, address) := sramFrameAlloc c st.pools
    if address = PF_SRAM_INVALID_ADDRESS then some (none, st.freeFrame f)
    else
      (allocObjects (fun _ => ⟨none, PF_SRAM_INVALID_ADDRESS⟩) dataDesc).map fun rteObject =>
        let (pools, g) := ids pools
          { st.frame f with
            isCpm := cr.1 = .cpm, iocr := some cr, sramFrameAddress := address, rteObject }
        (some f, { st with pools }.setFrame f g)

end

section
variable (c : Config)

/-- The ids of `pf_mera_ppm_alloc`. -/
def ppmIds (p : Stock Resource) (g : DrvFrame) : Stock Resource × DrvFrame :=
  let (p, vcamId) := vcamIdAlloc c p
  let (p, rtpId) := rtpIdAlloc c p
  let (p, vlanIdx) := vlanIndexAlloc c p
  (p, { g with vcamId, rtpId, vlanIdx })

/-- The ids of `pf_mera_cpm_alloc`. -/
def cpmIds (p : Stock Resource) (g : DrvFrame) : Stock Resource × DrvFrame :=
  let (p, vcamId) := vcamIdAlloc c p
  let (p, vlanIdx) := vlanIndexAlloc c p
  let (p, rtpId) := rtpIdAlloc c p
  let (p, obWalId) := walIdAlloc c p
  (p, { g with vcamId, vlanIdx, rtpId, obWalId })

end

variable (c : Config) (st : Driver)

/-! ## Create -/

/-- The driver keeps the frame that it was given for the CR, or a null pointer. -/
def created (cr : Cr) (frame : Option ℕ) : Driver :=
  st.setCr cr { run := false, frame, opened := frame.isSome }

/-- `pf_ppm_create`; `buffer` tells whether there is a send buffer. -/
def ppmCreate (ar crep : ℕ) (buffer : Bool) (dataDesc : List IodataObject) : Option Driver :=
  if (st.cr (.ppm, ar, crep)).run || !buffer then some st
  else (st.alloc c (.ppm, ar, crep) dataDesc (ppmIds c)).map fun r => r.2.created (.ppm, ar, crep) r.1

/-- `pf_cpm_create`. -/
def cpmCreate (ar crep : ℕ) (dataDesc : List IodataObject) : Option Driver :=
  (st.alloc c (.cpm, ar, crep) dataDesc (cpmIds c)).map fun r => r.2.created (.cpm, ar, crep) r.1

/-! ## Activate -/

/-- `pf_mera_add_ib_entry`, and whether it succeeds. -/
def addIbEntry (f : ℕ) (o : RteIx → IbEntryCalls) (ix : RteIx) : Bool × Driver :=
  let (pools, ralId) := ralIdAlloc c st.pools
  let g := { st.frame f with ibRalId := Function.update (st.frame f).ibRalId ix ralId }
  let (ids, ok) := attempt (g.ibCalls ralId (o ix))
  (ok, ({ st with pools }.setFrame f g).programs ids)

/-- The loop over the objects. -/
def addIbEntries (f : ℕ) (o : RteIx → IbEntryCalls) : Driver → List RteIx → Bool × Driver
  | st, [] => (true, st)
  | st, ix :: ixs =>
    match st.addIbEntry c f o ix with
    | (true, st) => addIbEntries f o st ixs
    | (false, st) => (false, st)

/-- `pf_mera_get_cpm_wal_id`. -/
def getCpmWalId (cr : Cr) : Option ℕ :=
  ((List.range c.maxFrames).find? fun f =>
    (st.frame f).used && (st.frame f).iocr.any (·.ar = cr.ar) && (st.frame f).isCpm).map fun f =>
      (st.frame f).obWalId

/-- `pf_mera_ppm_start_rte`, of a frame for the CR `cr`. -/
def ppmStartRte (f : ℕ) (cr : Cr) (o : PpmCalls) : Driver :=
  let g := st.frame f
  let (ids, ok) := attempt (g.ppmStartCalls o)
  let st := st.programs ids
  if ok then
    match st.getCpmWalId c cr with
    | none => st
    | some internalWalId =>
      match addIbEntries c f o.entry (st.setFrame f { g with internalWalId }) g.dataIxs with
      | (true, st) => st.setFrame f { st.frame f with active := true }
      | (false, st) => st
  else st

/-- `pf_mera_ppm_start`. -/
def ppmStart (f : ℕ) (o : PpmCalls) : Driver :=
  (st.frame f).iocr.elim st fun cr => st.ppmStartRte c f cr o

/-- `pf_ppm_activate_req`. The PPM keeps running when the frame does not start. -/
def ppmActivateReq (ar crep : ℕ) (o : PpmCalls) : Driver :=
  let e := st.cr (.ppm, ar, crep)
  if e.run then st
  else
    let st := st.setCr (.ppm, ar, crep) { e with run := true }
    e.frame.elim st fun f => st.ppmStart c f o

/-- `pf_mera_cpm_start_rte`, and whether it succeeds. What the calls for the WAL and for the state
of the RTP return is not looked at. -/
def cpmStartRte (f : ℕ) (o : CpmCalls) : Bool × Driver :=
  let g := st.frame f
  let (ids, ok) := attempt (g.cpmStartCalls o)
  let st := st.programs ids
  if ok then
    (o.eventEnable, (st.programs [(.wal, g.obWalId), (.rtp, g.rtpId)]).setFrame f
      { g with active := true })
  else (false, st)

/-- `pf_mera_cpm_start`. -/
def cpmStart (f : ℕ) (o : CpmCalls) : Bool × Driver :=
  (st.frame f).iocr.elim (false, st) fun _ => st.cpmStartRte f o

/-- `pf_cpm_activate_req` with `pf_cpm_drv_lan9662_activate_req`. -/
def cpmActivateReq (ar crep : ℕ) (o : CpmCalls) : Driver :=
  let e := st.cr (.cpm, ar, crep)
  if e.run then st
  else e.frame.elim st fun f =>
    let (ok, st) := st.cpmStart f o
    if ok && o.timer then st.setCr (.cpm, ar, crep) { e with run := true } else st

/-- The data hold timer of a CPM has expired: `pf_cpm_set_state (&p_iocr->cpm, W_START)`. -/
def dhtExpired (ar crep : ℕ) : Driver :=
  st.setCr (.cpm, ar, crep) { st.cr (.cpm, ar, crep) with run := false }

/-! ## Close -/

/-- `pf_ppm_close_req` or `pf_cpm_close_req`; `added` is what comes of `pf_scheduler_add`, which no
one looks at. -/
def closeReq (cr : Cr) (added : Bool) : Driver :=
  let e := st.cr cr
  let st := st.setCr cr { e with run := false, opened := false }
  if added then { st with pending := st.pending ++ [(cr.1, e.frame)] } else st

/-- `pf_mera_ppm_stop`. -/
def ppmStop (f : ℕ) : Option Driver := do
  let g := st.frame f
  if g.active then
    let pools ← rteIxs.foldlM (fun p ix => ralIdFree c (g.ibRalId ix) p) st.pools
    return { st with pools }
  else return st

/-- `pf_mera_ppm_free`. -/
def ppmFree (f : ℕ) : Option Driver := do
  let g := st.frame f
  let pools ← vcamIdFree c g.vcamId st.pools
  let pools ← vlanIndexFree c g.vlanIdx pools
  let pools ← rtpIdFree c g.rtpId pools
  return { st with pools := sramFrameFree c g.sramFrameAddress pools }.freeFrame f

/-- `pf_mera_cpm_free`. -/
def cpmFree (f : ℕ) : Option Driver := do
  let g := st.frame f
  let pools ← vcamIdFree c g.vcamId st.pools
  let pools ← vlanIndexFree c g.vlanIdx pools
  let pools ← rtpIdFree c g.rtpId pools
  let pools ← walIdFree c g.obWalId pools
  return { st with pools := sramFrameFree c g.sramFrameAddress pools }.freeFrame f

/-- `pf_ppm_drv_lan9662_delayed_close` or `pf_cpm_drv_lan9662_delayed_close`: the scheduler makes
one of its calls. -/
def delayedClose (n : ℕ) : Option Driver :=
  match st.pending[n]? with
  | none => some st
  | some (_, none) => none
  | some (.ppm, some f) =>
    ({ st with pending := st.pending.eraseIdx n }.ppmStop c f).bind fun st => st.ppmFree c f
  | some (.cpm, some f) => { st with pending := st.pending.eraseIdx n }.cpmFree c f

end Driver

/-! ## Runs -/

inductive Event where
  | ppmCreate (ar crep : ℕ) (buffer : Bool) (dataDesc : List IodataObject)
  | cpmCreate (ar crep : ℕ) (dataDesc : List IodataObject)
  | ppmActivateReq (ar crep : ℕ) (o : PpmCalls)
  | cpmActivateReq (ar crep : ℕ) (o : CpmCalls)
  | dhtExpired (ar crep : ℕ)
  | closeReq (cr : Cr) (added : Bool)
  | delayedClose (n : ℕ)

def step (c : Config) (st : Driver) : Event → Option Driver
  | .ppmCreate ar crep buffer dataDesc => st.ppmCreate c ar crep buffer dataDesc
  | .cpmCreate ar crep dataDesc => st.cpmCreate c ar crep dataDesc
  | .ppmActivateReq ar crep o => some (st.ppmActivateReq c ar crep o)
  | .cpmActivateReq ar crep o => some (st.cpmActivateReq ar crep o)
  | .dhtExpired ar crep => some (st.dhtExpired ar crep)
  | .closeReq cr added => some (st.closeReq cr added)
  | .delayedClose n => st.delayedClose c n

end PNet.Cyclic.Mera
