import Epdg.Gtpu.Dataplane
import Epdg.Gtpu.TcEncap
import Epdg.Lib.Run
import Epdg.Lib.Traffic

/-!
The packet counters of the bearers: `ul_bearer_counters` and `dl_bearer_counters`, which the BPF
programs write, and `Bearer.Counters`, into which `syncBearerCounters` of
`internal/gtpu/dataplane.go` copies them. The maps do not fill up and deletions succeed.

A removal is not atomic for the packets: the counters of a bearer go first, and the rules and the
session entry that packets are still encapsulated by go last; the packets in between are part of the
call. What is forwarded during an addition is taken to be forwarded after it, and a tick reads all
counters at once. The log of a meter is a history, which nothing reads.
-/
namespace Epdg.Gtpu
open Traffic

inductive Direction where
  | uplink
  | downlink
  deriving DecidableEq, Repr

def Bearer.teid (b : Bearer) : Direction → UInt32
  | .uplink => b.remoteTXTEID
  | .downlink => b.localRXTEID

namespace Manager

def bearersByTEID (m : Manager) : Direction → Table UInt32 BearerRef
  | .uplink => m.bearersByRemoteTEID
  | .downlink => m.bearersByLocalTEID

def indexed (m : Manager) (dir : Direction) (teid : UInt32) : Option BearerRef :=
  ((m.bearersByTEID dir).lookup teid).filter fun ref => (m.bearerOf ref).isSome

def uplinkBearer (m : Manager) (addr teid : UInt32) : Option BearerRef := do
  let id ← m.byPAA (.v4 addr)
  let ds ← m.byID id
  let ebi ← ds.bearers.keys.find? fun ebi =>
    (ds.bearers.lookup ebi).any fun b => b.remoteTXTEID = teid
  some ⟨id, ebi⟩

def downlinkBearer (m : Manager) (teid : UInt32) : Option BearerRef :=
  (m.byLocalTEID teid).filter fun ref => (m.bearerOf ref).any fun b => b.localRXTEID = teid

end Manager

def encapCount (k : KernelMaps) (room : Bool) (skb : Skb) : Option (UInt32 × UInt32 × Nat) :=
  match uplinkSession k skb with
  | none => none
  | some (addr, sess) =>
    if room then some (addr, selectTEID k addr sess skb.flow, skb.packet.uint16At 2) else none

def decapCount (x : XdpMaps) (f : Bytes) : Option (UInt32 × Nat) :=
  match gtpuDecapFunc x f, parseGPdu x f with
  | .decap _, some p => some (p.teid f, f.uint16At (p.inner + 2))
  | _, _ => none

inductive Packet where
  | uplink (room : Bool) (skb : Skb)
  | downlink (frame : Bytes)
  deriving DecidableEq, Repr

structure TeidOrder where
  order : List UInt32 → List UInt32
  perm : ∀ teids, (order teids).Perm teids

namespace Dataplane

def added (d : Dataplane) : Op → Option BearerRef
  | .addSession localGTPU s2bIfindex fault o sess =>
    if (d.addSession localGTPU s2bIfindex fault o sess).2 then
      sess.s2b.map fun c => ⟨sess.id, c.ebi⟩
    else none
  | .addBearer _ id b => if d.manager.admitsBearer id b then some ⟨id, b.ebi⟩ else none
  | .removeSession _ | .removeBearer .. | .updateBearer .. => none

def removed (d : Dataplane) : Op → List Bearer
  | .removeSession id => ((d.manager.byID id).map fun ds => ds.bearers.values).getD []
  | .removeBearer _ id ebi => (d.manager.bearerOf ⟨id, ebi⟩).toList
  | .addSession .. | .addBearer .. | .updateBearer .. => []

def halfway (d : Dataplane) : Op → Dataplane
  | .removeSession id =>
    match d.manager.byID id with
    | none => d
    | some ds =>
      { d with
        manager := d.manager.removeSession id
        maps := removeTEIDs d.maps ds.bearers.values }
  | .removeBearer _ id ebi =>
    match d.manager.bearerOf ⟨id, ebi⟩ with
    | none => d
    | some b =>
      { d with
        manager := (d.manager.removeBearer false id ebi).1
        maps := d.maps.removeTEID b.localRXTEID }
  | .addSession .. | .addBearer .. | .updateBearer .. => d

end Dataplane

structure Metered where
  localIP : UInt32
  validatePeer : Bool
  plane : Dataplane := {}
  meters : Direction → Meter UInt32 BearerRef := fun _ => {}

namespace Metered

def onMeters (s : Metered) (f : Direction → Meter UInt32 BearerRef → Meter UInt32 BearerRef) :
    Metered :=
  { s with meters := fun dir => f dir (s.meters dir) }

def counted (s : Metered) : Packet → Option (Direction × UInt32 × Option BearerRef × Nat)
  | .uplink room skb =>
    (encapCount s.plane.maps room skb).map fun (addr, teid, bytes) =>
      (.uplink, teid, s.plane.manager.uplinkBearer addr teid, bytes)
  | .downlink frame =>
    (decapCount ⟨s.localIP, s.validatePeer, s.plane.maps.teidMap⟩ frame).map
      fun (teid, bytes) => (.downlink, teid, s.plane.manager.downlinkBearer teid, bytes)

def forward (s : Metered) (p : Packet) : Metered :=
  match s.counted p with
  | none => s
  | some (dir, teid, owner, bytes) =>
    s.onMeters fun dir' m => if dir' = dir then m.count teid owner bytes else m

def release (s : Metered) (op : Dataplane.Op) : Metered :=
  { s with plane := s.plane.halfway op }.onMeters fun dir m =>
    m.releaseAll ((s.plane.removed op).map (Bearer.teid · dir))

def middle (s : Metered) (op : Dataplane.Op) (packets : List Packet) : Metered :=
  Machine.run forward (s.release op) packets

def call (s : Metered) (op : Dataplane.Op) (packets : List Packet) : Metered :=
  { s.middle op packets with plane := s.plane.call op }.onMeters fun _ m =>
    match s.plane.added op with
    | none => m
    | some ref => m.install ref

def syncBearerCounters (s : Metered) (order : Direction → TeidOrder) (now : Nat) : Metered :=
  s.onMeters fun dir m =>
    m.readAll (s.plane.manager.indexed dir) now
      ((order dir).order (s.plane.manager.bearersByTEID dir).keys)

inductive Event where
  | call (op : Dataplane.Op) (packets : List Packet)
  | packet (p : Packet)
  | tick (order : Direction → TeidOrder) (now : Nat)

def step (s : Metered) : Event → Metered
  | .call op packets => s.call op packets
  | .packet p => s.forward p
  | .tick order now => s.syncBearerCounters order now

end Metered
end Epdg.Gtpu
