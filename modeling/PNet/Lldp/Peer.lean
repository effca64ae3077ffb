import PNet.Lib.Runs
import PNet.Lldp.Walk
import PNet.Scheduler.Family

/-! # What is known about a peer

`pf_lldp_recv` keeps what the last packet on a port said, until the time to live in it is over or
`pf_pdport_monitor_link` finds the link down. A timer of the port tells when the time is over. This is
the stack as far as these timers are concerned, in runs of packets, of changes of the link, of calls
that other users make of the scheduler, and of rounds of its tick, in any order.

* `Tracks`: what should be known, as it depends on what has been heard
-/

namespace PNet.Lldp

open Block Scheduler

def LLDP_PEER_MAX_TTL_IN_SECS : ℕ := 60

/-! ## The timers -/

/-- The handle `lldp.rx_timeout` of a port. The other users have the even handles. -/
def rxTimeout (port : ℕ) : ℕ := 2 * port + 1

/-- The address of the text `"lldp_rx"`. -/
def lldpRxName : Name := 2

/-- The address of `pf_lldp_receive_timeout`. -/
def receiveTimeoutCb : ℕ := 1

theorem rxTimeout_inj (i j : ℕ) (h : rxTimeout i = rxTimeout j) : i = j := by
  unfold rxTimeout at h
  omega

def rxComponent : Component := ⟨rxTimeout, rxTimeout_inj, lldpRxName, receiveTimeoutCb⟩

theorem unit_eq {α : Prop} (k k' : Unit) (h : k ≠ k') : α := absurd (Subsingleton.elim k k') h

def rxTimers : Family Unit where
  comp _ := rxComponent
  handle_ne k k' _ _ h := unit_eq k k' h
  name_ne k k' h := unit_eq k k' h
  cb_ne k k' h := unit_eq k k' h
  name_pos _ := nofun

/-! ## The state -/

/-- What the stack keeps about a port. -/
structure PeerPort where
  isPeerInfoReceived : Bool
  peerInfo : PeerInfo
  previousIsLinkUp : Bool

structure Peers where
  sched : St
  ports : ℕ → PeerPort
  numPhysicalPorts : ℕ

/-- What `pf_lldp_invalidate_peer_info` leaves of the information. -/
def PeerInfo.invalidate (info : PeerInfo) : PeerInfo :=
  { info with
    chassisId.isValid := false
    portId.isValid := false
    portDescription.isValid := false
    managementAddress.isValid := false
    portDelay.isValid := false
    phyConfig.isValid := false
    ttl := 0 }

/-- What the parser makes of a packet, if it accepts it; `parsed_of_parsePacket`. -/
def parsed (packet : Packet) (org : OrgHeader) : Option PeerInfo :=
  (parsePacket (packet.len + 1) packet org).bind fun out => if out.1 = 0 then some out.2 else none

namespace Peers

def setPort (st : Peers) (port : ℕ) (p : PeerPort) : Peers :=
  { st with ports := Function.update st.ports port p }

/-- `pf_port_is_valid`. -/
def IsValid (st : Peers) (port : ℕ) : Prop := 1 ≤ port ∧ port ≤ st.numPhysicalPorts

instance (st : Peers) (port : ℕ) : Decidable (st.IsValid port) := inferInstanceAs (Decidable (_ ∧ _))

/-- `pf_lldp_invalidate_peer_info`. -/
def invalidatePeerInfo (st : Peers) (port : ℕ) : Peers :=
  let p := st.ports port
  st.setPort port { p with isPeerInfoReceived := false, peerInfo := p.peerInfo.invalidate }

/-- `pf_lldp_restart_peer_timeout`, with the answer of `pf_scheduler_add`. -/
def restartPeerTimeout (st : Peers) (port : ℕ) (timeoutInSecs : BitVec 16) (now : Time) :
    Option (ℤ × Peers) :=
  (pfSchedulerRemoveIfRunning st.sched (rxTimeout port)).bind fun sched =>
    if LLDP_PEER_MAX_TTL_IN_SECS < timeoutInSecs.toNat then some (0, { st with sched })
    else
      (pfSchedulerAdd sched (BitVec.ofNat 32 (timeoutInSecs.toNat * 1000000))
        (rxTimers.job () port) (rxTimeout port) now).map fun r => (r.1, { st with sched := r.2 })

/-- `pf_lldp_store_peer_info`. -/
def storePeerInfo (st : Peers) (port : ℕ) (newInfo : PeerInfo) : Peers :=
  st.setPort port { st.ports port with isPeerInfoReceived := true, peerInfo := newInfo }

/-- `pf_lldp_update_peer`. The comparison is one of all bytes of the structure; `differs` is for those
behind the strings and between the fields. -/
def updatePeer (st : Peers) (port : ℕ) (lldpPeerInfo : PeerInfo) (differs : Bool) (now : Time) :
    Option Peers :=
  (st.restartPeerTimeout port lldpPeerInfo.ttl now).map fun r =>
    if lldpPeerInfo = (r.2.ports port).peerInfo ∧ differs = false then r.2
    else r.2.storePeerInfo port lldpPeerInfo

/-- `pf_lldp_recv`. -/
def recv (st : Peers) (port : ℕ) (packet : Packet) (org : OrgHeader) (differs : Bool) (now : Time) :
    Option Peers :=
  match parsed packet org with
  | some peerData =>
    if st.IsValid port then st.updatePeer port peerData differs now else some st
  | none => some st

/-- `pf_pdport_handle_link_down`, with `pf_lldp_stop_peer_timeout`. -/
def handleLinkDown (st : Peers) (port : ℕ) : Option Peers :=
  (pfSchedulerRemoveIfRunning st.sched (rxTimeout port)).map fun sched =>
    { st with sched }.invalidatePeerInfo port

/-- `pf_pdport_monitor_link`, for the ports that there are. -/
def monitorLink (st : Peers) (port : ℕ) (running : Bool) : Option Peers :=
  if st.IsValid port then
    let up (st : Peers) := st.setPort port { st.ports port with previousIsLinkUp := running }
    if (st.ports port).previousIsLinkUp = true ∧ running = false then
      (st.handleLinkDown port).map up
    else some (up st)
  else some st

/-- `pf_lldp_receive_timeout`. -/
def receiveTimeout (st : Peers) (port : ℕ) : Peers :=
  { st with sched := pfSchedulerResetHandle st.sched (rxTimeout port) }.invalidatePeerInfo port

/-- A round of the loop of `pf_scheduler_tick`. -/
def round (st : Peers) (now : Time) : Option Peers :=
  if expired st.sched now then
    (moveToFree st.sched st.sched.first).map fun sched =>
      let job := (timerAt st.sched st.sched.first).job
      if job.cb = receiveTimeoutCb then { st with sched }.receiveTimeout job.arg
      else { st with sched }
  else some st

end Peers

/-! ## Runs -/

inductive PeerEvent where
  | recv (port : ℕ) (packet : Packet) (org : OrgHeader) (differs : Bool) (now : Time)
  | monitorLink (port : ℕ) (running : Bool)
  /-- A call of another user. -/
  | call (c : Call) (foreign : rxTimers.Foreign c)
  | round (now : Time)

namespace Peers

def step (st : Peers) : PeerEvent → Option Peers
  | .recv port packet org differs now => st.recv port packet org differs now
  | .monitorLink port running => st.monitorLink port running
  | .call c _ => (doCall st.sched c).map fun sched => { st with sched }
  | .round now => st.round now

/-- The loop of `pf_lldp_init`. -/
def initHandles : ℕ → St → St
  | 0, s => s
  | n + 1, s => pfSchedulerInitHandle (initHandles n s) (rxTimeout (n + 1)) lldpRxName

/-- The loop of `pf_pdport_init`: a port whose peer shall be checked, as its file says, has a timer
that expires at once. -/
def load (checked : ℕ → Bool) (now : Time) : ℕ → Peers → Option Peers
  | 0, st => some st
  | n + 1, st => (load checked now n st).bind fun st =>
    if checked (n + 1) then (st.restartPeerTimeout (n + 1) 0 now).map Prod.snd else some st

/-- The start of a stack with `numPhysicalPorts` ports. -/
def start (tickInterval : Time) (numPhysicalPorts : ℕ) (checked : ℕ → Bool) (now : Time) :
    Option Peers :=
  (pfSchedulerInit blank tickInterval).bind fun s =>
    load checked now numPhysicalPorts
      ⟨initHandles numPhysicalPorts s, fun _ => ⟨false, .zero, false⟩, numPhysicalPorts⟩

end Peers

/-! ## What should be known -/

/-- What the last packet said, when it came, and the readings of the clock in the rounds since
then. -/
structure Heard where
  info : PeerInfo
  time : Time
  rounds : List Time

/-- The stack, with what should be known about the peer of a port; and whether in all states so far
the expiries have been within half the clock's range of each other. -/
structure Watched where
  st : Peers
  heard : Option Heard
  near : Prop

/-- The link of the port goes down. -/
def LinkDown (port : ℕ) (st : Peers) : PeerEvent → Prop
  | .monitorLink port' running =>
    port' = port ∧ (st.ports port).previousIsLinkUp = true ∧ running = false
  | _ => False

instance (port : ℕ) (st : Peers) (e : PeerEvent) : Decidable (LinkDown port st e) := by
  cases e <;> unfold LinkDown <;> infer_instance

/-- What should be known behind an event. -/
def hear (port : ℕ) (st : Peers) (heard : Option Heard) : PeerEvent → Option Heard
  | .recv port' packet org _ now =>
    if port' = port then ((parsed packet org).map fun info => ⟨info, now, []⟩).or heard else heard
  | .monitorLink port' running =>
    if LinkDown port st (.monitorLink port' running) then none else heard
  | .call _ _ => heard
  | .round now => heard.map fun x => { x with rounds := now :: x.rounds }

def Watched.step (port : ℕ) (w : Watched) (e : PeerEvent) : Option Watched :=
  (w.st.step e).map fun st => ⟨st, hear port w.st w.heard e, w.near ∧ Near [] st.sched⟩

/-- A time to live, rounded to ticks as the scheduler does it. -/
def lifeTime (tickInterval : Time) (ttl : BitVec 16) : Time :=
  (pfSchedulerSanitizeDelay (BitVec.ofNat 32 (ttl.toNat * 1000000)) tickInterval true).getD 0

/-- At the reading `now` the time `expiry` is over. -/
def Over (now expiry : Time) : Prop := 0 ≤ diff now expiry

def Heard.expiry (tickInterval : Time) (x : Heard) : Time := x.time + lifeTime tickInterval x.info.ttl

/-- The information about the peer is what it should be. -/
structure Tracks (tickInterval : Time) (port : ℕ) (w : Watched) : Prop where
  /-- At most one receive timeout is pending. -/
  one : ∀ e e', rxTimers.Runs w.st.sched () port e → rxTimers.Runs w.st.sched () port e' → e = e'
  /-- What is known has been heard last. -/
  origin : (w.st.ports port).isPeerInfoReceived = true →
    ∃ x, w.heard = some x ∧ (w.st.ports port).peerInfo = x.info
  /-- It is known as long as no round has found that its time is over. -/
  kept : ∀ x, w.heard = some x → (∀ now ∈ x.rounds, ¬ Over now (x.expiry tickInterval)) →
    (w.st.ports port).isPeerInfoReceived = true
  /-- It is not known any more when a tick has ended that started when its time was over. -/
  lost : ∀ x, w.heard = some x → ∀ now, w.near → Near [now] w.st.sched →
    expired w.st.sched now = false → Over now (x.expiry tickInterval) →
    (w.st.ports port).isPeerInfoReceived = false

/-- Packets of the port have a time to live that can be timed, and a timer for it. -/
def Timed (port : ℕ) (w : Watched) : PeerEvent → Prop
  | .recv port' packet org _ now => port' = port → ∀ info, parsed packet org = some info →
    info.ttl.toNat ≤ LLDP_PEER_MAX_TTL_IN_SECS ∧
      ∃ r, w.st.restartPeerTimeout port info.ttl now = some r ∧ r.1 = 0
  | _ => True

/-- What is known no more is not the same as what a packet says. -/
def Fresh (port : ℕ) (w : Watched) : PeerEvent → Prop
  | .recv port' packet org differs _ => port' = port → ∀ info, parsed packet org = some info →
    (w.st.ports port).isPeerInfoReceived = false →
      info ≠ (w.st.ports port).peerInfo ∨ differs = true
  | _ => True

end PNet.Lldp
