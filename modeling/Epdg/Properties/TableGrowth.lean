import Epdg.System.Node
import Epdg.System.Sessions
import Mathlib.Data.List.Dedup

/-!
What the ePDG never forgets: a record for every peer that it has probed or heard an Echo Response
from, and the id of every session that it has deleted. Nothing removes either, so the two tables
grow with the history and not with the sessions.
-/
namespace Epdg
open Ikev2
variable {S : Server} {id : Session.ID}

section Known
variable {w : World}

end Known

section Paths

theorem mem_sendEchoRequest (m : Gtpu.Paths) (peer p : IP) (now : Nat) :
    p ∈ (m.sendEchoRequest peer now).1.pathsByPeer ↔ p = peer ∨ p ∈ m.pathsByPeer :=
  AList.mem_insert _

theorem mem_handleEchoResponse (m : Gtpu.Paths) (peer p : IP) (now : Nat) :
    p ∈ (m.handleEchoResponse peer now).pathsByPeer ↔ p = peer ∨ p ∈ m.pathsByPeer :=
  AList.mem_insert _

theorem mem_probes (peers : List IP) (now : IP → Nat) (m : Gtpu.Paths) (p : IP) :
    p ∈ (peers.foldl (fun m peer => (m.sendEchoRequest peer (now peer)).1) m).pathsByPeer ↔
      p ∈ peers ∨ p ∈ m.pathsByPeer := by
  induction peers generalizing m with
  | nil => simp
  | cons peer peers ih => rw [List.foldl_cons, ih, mem_sendEchoRequest, List.mem_cons]; tauto

end Paths

namespace Node
variable {node : Node}

theorem mem_step (i : NodeInput) (p : IP) :
    p ∈ (node.step S i).paths.pathsByPeer ↔ p ∈ node.contacts i ∨ p ∈ node.paths.pathsByPeer := by
  cases i with
  | server i => simp [step, contacts]
  | tick now => exact mem_probes _ now node.paths p
  | datagram peer pkt now =>
    simp only [step, contacts]
    split
    · rw [List.mem_singleton]
      exact mem_handleEchoResponse _ _ _ _
    · simp

theorem mem_run (node : Node) (inputs : List NodeInput) (p : IP) :
    p ∈ (node.run S inputs).paths.pathsByPeer ↔
      p ∈ contacted S node inputs ∨ p ∈ node.paths.pathsByPeer := by
  induction inputs generalizing node with
  | nil => simp [run, contacted]
  | cons i inputs ih =>
    change p ∈ ((node.step S i).run S inputs).paths.pathsByPeer ↔ _
    rw [ih, mem_step, contacted, List.mem_append]
    tauto

theorem step_base (hb : Base node.world) (i : NodeInput) : Base (node.step S i).world := by
  cases i with
  | server i => exact Epdg.step_base hb i
  | tick => exact hb
  | datagram =>
    rw [step]
    split <;> exact hb

end Node

end Epdg
