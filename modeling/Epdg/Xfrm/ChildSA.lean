import Epdg.Xfrm.Kernel

/-!
Programming of CHILD SAs (`internal/xfrm/xfrm.go`).

Every function returns the kernel it leaves and whether it succeeded. The adds
of one call take their faults from a function of the call's position, in program
order: the two states first, then the in, fwd and out policies. Deletions are best
effort in the source and their errors are only logged.
-/
namespace Epdg.Xfrm
variable {k k' : Kernel} {p : ChildSAParams} {faults : Nat → Bool}

structure ChildSAParams where
  localIP : IP
  remoteIP : IP
  inboundSPI : UInt32
  outboundSPI : UInt32
  encKeyIn : Bytes := []
  intKeyIn : Bytes := []
  encKeyOut : Bytes := []
  intKeyOut : Bytes := []
  encAlgName : String := ""
  intAlgName : String := ""
  intTruncBits : Nat := 0
  natt : Bool := false
  nattSrcPort : UInt16 := 0
  nattDstPort : UInt16 := 0
  localTS : IPNet := IPNet.all
  remoteTS : IPNet := IPNet.all
  ifID : UInt32 := 0
  owner : Option Session.ID := none
  deriving DecidableEq, Repr

namespace ChildSAParams

def pair (p : ChildSAParams) : EspPair :=
  ⟨p.localIP, p.remoteIP, p.inboundSPI, p.outboundSPI⟩

def inPol (p : ChildSAParams) : PolicyKey := ⟨p.remoteTS, p.localTS, .dirIn⟩

def fwdPol (p : ChildSAParams) : PolicyKey := ⟨p.remoteTS, p.localTS, .dirFwd⟩

def outPol (p : ChildSAParams) : PolicyKey := ⟨p.localTS, p.remoteTS, .dirOut⟩

end ChildSAParams

def sameFamily (localIP remoteIP : IP) : Bool := localIP.isV4 == remoteIP.isV4

def gcmICVLenBits : Nat := 128

def algoState (p : ChildSAParams) (encKey intKey : Bytes) :
    Option StateAlgo × Option StateAlgo × Option StateAlgo :=
  if p.intAlgName = "" then
    (none, none, some { name := p.encAlgName, key := encKey, icvLen := gcmICVLenBits })
  else
    (some { name := p.intAlgName, key := intKey, truncateLen := p.intTruncBits },
      some { name := p.encAlgName, key := encKey }, none)

def buildInbound (p : ChildSAParams) : XfrmState :=
  let a := algoState p p.encKeyIn p.intKeyIn
  { auth := a.1, crypt := a.2.1, aead := a.2.2
    encap := if p.natt then some ⟨p.nattDstPort, p.nattSrcPort⟩ else none
    ifid := p.ifID, child := p.pair, owner := p.owner }

def buildOutbound (p : ChildSAParams) : XfrmState :=
  let a := algoState p p.encKeyOut p.intKeyOut
  { auth := a.1, crypt := a.2.1, aead := a.2.2
    encap := if p.natt then some ⟨p.nattSrcPort, p.nattDstPort⟩ else none
    ifid := p.ifID, child := p.pair, owner := p.owner }

def buildPolicyIn (p : ChildSAParams) : XfrmPolicy :=
  ⟨p.remoteIP, p.localIP, p.ifID, p.owner⟩

def buildPolicyOut (p : ChildSAParams) : XfrmPolicy :=
  ⟨p.localIP, p.remoteIP, p.ifID, p.owner⟩

def addChildSAStates (k : Kernel) (faults : Nat → Bool) (p : ChildSAParams) :
    Kernel × Bool :=
  if ¬ sameFamily p.localIP p.remoteIP then (k, false)
  else
    match k.stateAdd (faults 0) p.pair.inKey (buildInbound p) with
    | none => (k, false)
    | some k1 =>
      let k1 := k1.markInbound p.inboundSPI
      match k1.stateAdd (faults 1) p.pair.outKey (buildOutbound p) with
      | none => ((k1.stateDel p.pair.inKey).unmarkInbound p.inboundSPI, false)
      | some k2 => (k2, true)

def addChildSAPolicies (k : Kernel) (faults : Nat → Bool) (p : ChildSAParams) :
    Kernel × Bool :=
  let dropStates (k : Kernel) : Kernel :=
    ((k.stateDel p.pair.inKey).stateDel p.pair.outKey).unmarkInbound p.inboundSPI
  match k.policyAdd (faults 2) p.inPol (buildPolicyIn p) with
  | none => (dropStates k, false)
  | some k1 =>
    match k1.policyAdd (faults 3) p.fwdPol (buildPolicyIn p) with
    | none => (dropStates (k1.policyDel p.inPol), false)
    | some k2 =>
      match k2.policyAdd (faults 4) p.outPol (buildPolicyOut p) with
      | none => (dropStates ((k2.policyDel p.fwdPol).policyDel p.inPol), false)
      | some k3 => (k3, true)

def installChildSA (k : Kernel) (faults : Nat → Bool) (p : ChildSAParams) :
    Kernel × Bool :=
  match addChildSAStates k faults p with
  | (k1, false) => (k1, false)
  | (k1, true) => addChildSAPolicies k1 faults p

def removeChildSAStates (k : Kernel) (p : ChildSAParams) : Kernel :=
  if ¬ sameFamily p.localIP p.remoteIP then k
  else ((k.stateDel p.pair.outKey).stateDel p.pair.inKey).unmarkInbound p.inboundSPI

def removeChildSA (k : Kernel) (p : ChildSAParams) : Kernel :=
  if ¬ sameFamily p.localIP p.remoteIP then k
  else
    let k := ((k.policyDel p.outPol).policyDel p.fwdPol).policyDel p.inPol
    ((k.stateDel p.pair.outKey).stateDel p.pair.inKey).unmarkInbound p.inboundSPI

def migrateChildSA (k : Kernel) (faults : Nat → Bool) (old new : ChildSAParams) :
    Kernel × Bool :=
  installChildSA (removeChildSA k old) faults new

structure StatesAdded (k k' : Kernel) (p : ChildSAParams) : Prop where
  family : sameFamily p.localIP p.remoteIP = true
  inFree : k.states.lookup p.pair.inKey = none
  outFree : k.states.lookup p.pair.outKey = none
  states : ∀ key, k'.states.lookup key =
    if key = p.pair.outKey then some (buildOutbound p)
    else if key = p.pair.inKey then some (buildInbound p)
    else k.states.lookup key

structure PoliciesAdded (k k' : Kernel) (p : ChildSAParams) : Prop where
  inFree : k.policies.lookup p.inPol = none
  fwdFree : k.policies.lookup p.fwdPol = none
  outFree : k.policies.lookup p.outPol = none
  policies : ∀ key, k'.policies.lookup key =
    if key = p.outPol then some (buildPolicyOut p)
    else if key = p.fwdPol ∨ key = p.inPol then some (buildPolicyIn p)
    else k.policies.lookup key

theorem addChildSAStates_ok (h : addChildSAStates k faults p = (k', true)) :
    StatesAdded k k' p ∧ k'.policies = k.policies := by
  unfold addChildSAStates at h
  split at h
  · cases h
  rename_i hfam
  split at h
  · cases h
  rename_i k1 h1
  obtain ⟨hin, hp1, hs1⟩ := Kernel.stateAdd_some h1
  dsimp only at h
  split at h
  · cases h
  rename_i k2 h2
  obtain ⟨hout, hp2, hs2⟩ := Kernel.stateAdd_some h2
  cases h
  simp only [Kernel.markInbound_states, hs1] at hout hs2
  have hne : p.pair.outKey ≠ p.pair.inKey := by grind
  exact ⟨⟨by simpa using hfam, hin, by simpa [hne] using hout, hs2⟩, hp2.trans hp1⟩

theorem addChildSAStates_fail (h : addChildSAStates k faults p = (k', false))
    : k.SameEntries k' := by
  unfold addChildSAStates at h
  split at h
  · cases h; exact .refl _
  split at h
  · cases h; exact .refl _
  rename_i k1 h1
  obtain ⟨hin, hp1, hs1⟩ := Kernel.stateAdd_some h1
  dsimp only at h
  split at h
  · cases h
    refine ⟨fun key => ?_, fun key => by simp [hp1]⟩
    simp only [Kernel.unmarkInbound_states, Kernel.lookup_stateDel,
      Kernel.markInbound_states, hs1]
    grind
  · cases h

theorem addChildSAPolicies_ok (h : addChildSAPolicies k faults p = (k', true)) :
    PoliciesAdded k k' p ∧ k'.states = k.states := by
  have hif : p.inPol ≠ p.fwdPol := by simp [ChildSAParams.inPol, ChildSAParams.fwdPol]
  have hio : p.outPol ≠ p.inPol := by simp [ChildSAParams.inPol, ChildSAParams.outPol]
  have hfo : p.outPol ≠ p.fwdPol := by simp [ChildSAParams.fwdPol, ChildSAParams.outPol]
  simp only [addChildSAPolicies] at h
  split at h
  · cases h
  rename_i k1 h1
  obtain ⟨hin, hs1, hp1⟩ := Kernel.policyAdd_some h1
  split at h
  · cases h
  rename_i k2 h2
  obtain ⟨hfwd, hs2, hp2⟩ := Kernel.policyAdd_some h2
  split at h
  · cases h
  rename_i k3 h3
  obtain ⟨hout, hs3, hp3⟩ := Kernel.policyAdd_some h3
  cases h
  refine ⟨⟨hin, ?_, ?_, fun key => ?_⟩, hs3.trans (hs2.trans hs1)⟩
  · grind
  · simp_all
  · grind

theorem addChildSAPolicies_fail (h : addChildSAPolicies k faults p = (k', false)) :
    (∀ key, k'.states.lookup key =
      if key = p.pair.outKey then none else if key = p.pair.inKey then none
      else k.states.lookup key) ∧
    ∀ key, k'.policies.lookup key = k.policies.lookup key := by
  simp only [addChildSAPolicies] at h
  split at h
  · cases h
    simp_all
  rename_i k1 h1
  obtain ⟨hin, hs1, hp1⟩ := Kernel.policyAdd_some h1
  split at h
  · cases h
    simp_all
  rename_i k2 h2
  obtain ⟨hfwd, hs2, hp2⟩ := Kernel.policyAdd_some h2
  split at h
  · cases h
    refine ⟨fun key => by simp [hs2, hs1], fun key => ?_⟩
    have hf1 : k.policies.lookup p.fwdPol = none := by grind
    by_cases hi : key = p.inPol
    · subst hi; simp [hin]
    by_cases hf : key = p.fwdPol
    · subst hf; simp [hf1]
    · simp [hp2, hp1, hi, hf]
  · cases h

theorem installChildSA_ok (h : installChildSA k faults p = (k', true)) :
    StatesAdded k k' p ∧ PoliciesAdded k k' p := by
  unfold installChildSA at h
  split at h
  · cases h
  rename_i k1 h1
  obtain ⟨hs, hp⟩ := addChildSAStates_ok h1
  obtain ⟨hpol, hst⟩ := addChildSAPolicies_ok h
  exact ⟨⟨hs.family, hs.inFree, hs.outFree, fun key => by rw [hst, hs.states key]⟩,
    ⟨hp ▸ hpol.inFree, hp ▸ hpol.fwdFree, hp ▸ hpol.outFree, hp ▸ hpol.policies⟩⟩

theorem installChildSA_fail (h : installChildSA k faults p = (k', false)) : k.SameEntries k' := by
  unfold installChildSA at h
  split at h
  · rename_i k1 h1
    cases h
    exact addChildSAStates_fail h1
  rename_i k1 h1
  obtain ⟨hs, hp⟩ := addChildSAStates_ok h1
  obtain ⟨hst, hpol⟩ := addChildSAPolicies_fail h
  refine ⟨fun key => ?_, fun key => by rw [hpol, hp]⟩
  rw [hst, hs.states]
  split
  · rename_i e; rw [e, hs.outFree]
  split
  · rename_i e; rw [e, hs.inFree]
  · rfl

@[simp] theorem removeChildSAStates_policies (k : Kernel) (p : ChildSAParams) :
    (removeChildSAStates k p).policies = k.policies := by
  unfold removeChildSAStates
  split <;> rfl

theorem lookup_removeChildSAStates (key : StateKey)
    (hfam : sameFamily p.localIP p.remoteIP = true) : (removeChildSAStates k p).states.lookup key =
      if key = p.pair.inKey then none else if key = p.pair.outKey then none
      else k.states.lookup key := by
  simp [removeChildSAStates, hfam]

theorem removeChildSA_lookup (hfam : sameFamily p.localIP p.remoteIP = true) :
    (∀ key, (removeChildSA k p).states.lookup key =
      if key = p.pair.inKey then none else if key = p.pair.outKey then none
      else k.states.lookup key) ∧
    ∀ key, (removeChildSA k p).policies.lookup key =
      if key = p.inPol ∨ key = p.fwdPol ∨ key = p.outPol then none
      else k.policies.lookup key := by
  refine ⟨fun key => by simp [removeChildSA, hfam], fun key => ?_⟩
  simp only [removeChildSA, hfam, not_true_eq_false, if_false,
    Kernel.unmarkInbound_policies, Kernel.stateDel_policies, Kernel.lookup_policyDel]
  grind

theorem removeChildSA_le (k : Kernel) (p : ChildSAParams) :
    (∀ key st, (removeChildSA k p).states.lookup key = some st →
      k.states.lookup key = some st) ∧
    ∀ key pol, (removeChildSA k p).policies.lookup key = some pol →
      k.policies.lookup key = some pol := by
  by_cases hfam : sameFamily p.localIP p.remoteIP = true
  · obtain ⟨hs, hp⟩ := removeChildSA_lookup (k := k) hfam
    simp_all
  · simp [removeChildSA, hfam]

theorem removeChildSAStates_le {key : StateKey} {st : XfrmState}
    (h : (removeChildSAStates k p).states.lookup key = some st) :
    k.states.lookup key = some st := by
  by_cases hfam : sameFamily p.localIP p.remoteIP = true
  · rw [lookup_removeChildSAStates key hfam] at h
    simp_all
  · simpa [removeChildSAStates, hfam] using h

end Epdg.Xfrm
