import Epdg.Lib.Table
import Epdg.Session.Fsm

/-!
The kernel's IPsec tables as netlink shows them to `internal/xfrm`.

States are keyed by SPI and endpoints, policies by selectors and direction. An
add fails on a key that is present, and may fail for reasons of the kernel's own,
which is the `fault` argument; deleting an entry that is present succeeds. Each
entry remembers the CHILD SA and the session it was installed for; the kernel
never looks at these two.
-/
namespace Epdg.Xfrm

def ifID : UInt32 := 1

structure EspPair where
  localIP : IP
  remoteIP : IP
  inboundSPI : UInt32
  outboundSPI : UInt32
  deriving DecidableEq, Repr

structure StateKey where
  src : IP
  dst : IP
  spi : UInt32
  deriving DecidableEq, Repr

def EspPair.inKey (c : EspPair) : StateKey := ⟨c.remoteIP, c.localIP, c.inboundSPI⟩

def EspPair.outKey (c : EspPair) : StateKey := ⟨c.localIP, c.remoteIP, c.outboundSPI⟩

structure StateAlgo where
  name : String
  key : Bytes
  truncateLen : Nat := 0
  icvLen : Nat := 0
  deriving DecidableEq, Repr

structure Encap where
  srcPort : UInt16
  dstPort : UInt16
  deriving DecidableEq, Repr

structure XfrmState where
  auth : Option StateAlgo
  crypt : Option StateAlgo
  aead : Option StateAlgo
  encap : Option Encap
  ifid : UInt32
  child : EspPair
  owner : Option Session.ID
  deriving DecidableEq, Repr

inductive Dir where
  | dirIn | dirFwd | dirOut
  deriving DecidableEq, Repr

structure PolicyKey where
  src : IPNet
  dst : IPNet
  dir : Dir
  deriving DecidableEq, Repr

structure XfrmPolicy where
  tmplSrc : IP
  tmplDst : IP
  ifid : UInt32
  owner : Option Session.ID
  deriving DecidableEq, Repr

structure Kernel where
  states : Table StateKey XfrmState := ∅
  policies : Table PolicyKey XfrmPolicy := ∅
  inboundSPIs : List UInt32 := []

namespace Kernel
variable {k k' : Kernel} {fault : Bool}

def stateAdd (k : Kernel) (fault : Bool) (key : StateKey) (st : XfrmState) :
    Option Kernel :=
  if fault || (k.states.lookup key).isSome then none
  else some { k with states := k.states.insert key st }

def stateDel (k : Kernel) (key : StateKey) : Kernel :=
  { k with states := k.states.erase key }

def policyAdd (k : Kernel) (fault : Bool) (key : PolicyKey) (pol : XfrmPolicy) :
    Option Kernel :=
  if fault || (k.policies.lookup key).isSome then none
  else some { k with policies := k.policies.insert key pol }

def policyDel (k : Kernel) (key : PolicyKey) : Kernel :=
  { k with policies := k.policies.erase key }

def markInbound (k : Kernel) (spi : UInt32) : Kernel :=
  { k with inboundSPIs := spi :: k.inboundSPIs.erase spi }

def unmarkInbound (k : Kernel) (spi : UInt32) : Kernel :=
  { k with inboundSPIs := k.inboundSPIs.erase spi }

def SameEntries (k k' : Kernel) : Prop :=
  (∀ key, k'.states.lookup key = k.states.lookup key) ∧
  ∀ key, k'.policies.lookup key = k.policies.lookup key

theorem SameEntries.refl (k : Kernel) : SameEntries k k := ⟨fun _ => rfl, fun _ => rfl⟩

theorem SameEntries.trans {k1 k2 : Kernel} (h1 : k.SameEntries k1) (h2 : k1.SameEntries k2) :
    k.SameEntries k2 :=
  ⟨fun key => (h2.1 key).trans (h1.1 key), fun key => (h2.2 key).trans (h1.2 key)⟩

@[simp] theorem markInbound_states (k : Kernel) (spi : UInt32) :
    (k.markInbound spi).states = k.states := rfl

@[simp] theorem markInbound_policies (k : Kernel) (spi : UInt32) :
    (k.markInbound spi).policies = k.policies := rfl

@[simp] theorem unmarkInbound_states (k : Kernel) (spi : UInt32) :
    (k.unmarkInbound spi).states = k.states := rfl

@[simp] theorem unmarkInbound_policies (k : Kernel) (spi : UInt32) :
    (k.unmarkInbound spi).policies = k.policies := rfl

@[simp] theorem stateDel_policies (k : Kernel) (key : StateKey) :
    (k.stateDel key).policies = k.policies := rfl

@[simp] theorem policyDel_states (k : Kernel) (key : PolicyKey) :
    (k.policyDel key).states = k.states := rfl

@[simp] theorem lookup_stateDel (k : Kernel) (key key' : StateKey) :
    (k.stateDel key).states.lookup key' =
      if key' = key then none else k.states.lookup key' :=
  Table.lookup_erase_ite _ _ _

@[simp] theorem lookup_policyDel (k : Kernel) (key key' : PolicyKey) :
    (k.policyDel key).policies.lookup key' =
      if key' = key then none else k.policies.lookup key' :=
  Table.lookup_erase_ite _ _ _

theorem stateAdd_some {key : StateKey} {st : XfrmState} (h : k.stateAdd fault key st = some k') :
    k.states.lookup key = none ∧ k'.policies = k.policies ∧
      ∀ key', k'.states.lookup key' =
        if key' = key then some st else k.states.lookup key' := by
  unfold stateAdd at h
  split at h
  · contradiction
  rename_i hf
  cases h
  simp only [Bool.or_eq_true, not_or, Bool.not_eq_true, Option.isSome_eq_false_iff,
    Option.isNone_iff_eq_none] at hf
  exact ⟨hf.2, rfl, fun key' => Table.lookup_insert_ite _ _ _ _⟩

theorem policyAdd_some {key : PolicyKey} {pol : XfrmPolicy}
    (h : k.policyAdd fault key pol = some k') :
    k.policies.lookup key = none ∧ k'.states = k.states ∧
      ∀ key', k'.policies.lookup key' =
        if key' = key then some pol else k.policies.lookup key' := by
  unfold policyAdd at h
  split at h
  · contradiction
  rename_i hf
  cases h
  simp only [Bool.or_eq_true, not_or, Bool.not_eq_true, Option.isSome_eq_false_iff,
    Option.isNone_iff_eq_none] at hf
  exact ⟨hf.2, rfl, fun key' => Table.lookup_insert_ite _ _ _ _⟩

end Kernel
end Epdg.Xfrm
