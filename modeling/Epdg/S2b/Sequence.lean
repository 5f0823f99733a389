import Mathlib.Logic.Function.Basic
import Epdg.Lib.Run
import Epdg.S2b.Codec

/-!
The sequence numbers of GTPv2-C requests (`sequenceAllocator` in `internal/s2b/codec.go`).

`next` is called by many goroutines at once. A call loads the counter and swaps it in a second step,
so between the two any number of other calls may have come and gone; a swap that finds another value
than was loaded changes nothing, and the call starts over.
-/
namespace Epdg.S2b

structure SequenceAllocator where
  seq : UInt32
  cap : UInt32

def randomSequenceMax (max : UInt32) (draw : Option UInt32) : UInt32 :=
  match draw with
  | none => minSequence
  | some b =>
    let n := b &&& max
    if n = 0 then minSequence else n

def newSequenceAllocatorWithMax (max : UInt32) (draw : Option UInt32) : SequenceAllocator :=
  let max := if max = 0 ∨ max > maxSequence then maxSequence else max
  { seq := randomSequenceMax max draw, cap := max }

namespace SequenceAllocator

def following (a : SequenceAllocator) (cur : UInt32) : UInt32 :=
  let cap := if a.cap = 0 then maxSequence else a.cap
  let next := cur + 1
  if next = 0 ∨ next > cap then minSequence else next

end SequenceAllocator

structure Callers where
  allocator : SequenceAllocator
  loaded : Nat → Option UInt32 := fun _ => none
  returned : List (Nat × UInt32) := []

inductive CallerStep where
  | load (caller : Nat)
  | compareAndSwap (caller : Nat)

namespace Callers

def step (c : Callers) : CallerStep → Callers
  | .load i => { c with loaded := Function.update c.loaded i (some c.allocator.seq) }
  | .compareAndSwap i =>
    match c.loaded i with
    | none => c
    | some cur =>
      let c := { c with loaded := Function.update c.loaded i none }
      if c.allocator.seq = cur then
        let next := c.allocator.following cur
        { c with
          allocator := { c.allocator with seq := next }
          returned := c.returned ++ [(i, next)] }
      else c

def start (max : UInt32) (draw : Option UInt32) : Callers :=
  { allocator := newSequenceAllocatorWithMax max draw }

def numbers (c : Callers) : List Nat := c.returned.map fun r => r.2.toNat

end Callers
end Epdg.S2b
