import Epdg.Lib.Run
import Epdg.Xfrm.ChildSA

/-!
The counters of the kernel's ESP states as `Stats` reports them, and histories of the calls by
which the states come and go (`internal/xfrm/xfrm.go`).

The kernel counts bytes and packets for each state. Its states are all ESP states here; the
interface id is compared as in the source.
-/
namespace Epdg.Xfrm

structure Statistics where
  bytes : UInt64
  packets : UInt64
  deriving DecidableEq, Repr

structure ESPStats where
  activeStates : Nat := 0
  bytesIn : UInt64 := 0
  bytesOut : UInt64 := 0
  packetsIn : UInt64 := 0
  packetsOut : UInt64 := 0
  deriving DecidableEq, Repr

def ESPStats.note (k : Kernel) (counters : StateKey → Statistics) (out : ESPStats)
    (e : Sigma fun _ : StateKey => XfrmState) : ESPStats :=
  if e.2.ifid ≠ ifID then out
  else
    let out := { out with activeStates := out.activeStates + 1 }
    if e.1.spi ∈ k.inboundSPIs then
      { out with
        bytesIn := out.bytesIn + (counters e.1).bytes
        packetsIn := out.packetsIn + (counters e.1).packets }
    else
      { out with
        bytesOut := out.bytesOut + (counters e.1).bytes
        packetsOut := out.packetsOut + (counters e.1).packets }

inductive Call where
  | install (faults : Nat → Bool) (p : ChildSAParams)
  | addStates (faults : Nat → Bool) (p : ChildSAParams)
  | remove (p : ChildSAParams)
  | removeStates (p : ChildSAParams)
  | migrate (faults : Nat → Bool) (old new : ChildSAParams)

def Kernel.call (k : Kernel) : Call → Kernel
  | .install faults p => (installChildSA k faults p).1
  | .addStates faults p => (addChildSAStates k faults p).1
  | .remove p => removeChildSA k p
  | .removeStates p => removeChildSAStates k p
  | .migrate faults old new => (migrateChildSA k faults old new).1

end Epdg.Xfrm
