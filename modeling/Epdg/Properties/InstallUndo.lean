import Epdg.Xfrm.ChildSA

/-!
What a failed `InstallChildSA` or `AddChildSAStates` leaves behind.

States and policies are as before at every step: an add fails on a key that is there, so what is
deleted again was added by the call. The set of inbound SPIs is another matter. It takes the SPI
whether or not it was marked, and the undo removes the mark of a CHILD SA with the same SPI and
another local address.
-/
namespace Epdg.Xfrm

def FirstAdded (k : Kernel) (faults : Nat → Bool) (p : ChildSAParams) : Prop :=
  sameFamily p.localIP p.remoteIP = true ∧ faults 0 = false ∧
    k.states.lookup p.pair.inKey = none

structure Restored (k k' : Kernel) : Prop where
  entries : k.SameEntries k'
  marks : ∀ spi, spi ∈ k'.inboundSPIs ↔ spi ∈ k.inboundSPIs

namespace Kernel
variable {key : StateKey} {st : XfrmState}
variable {k k' : Kernel} {fault : Bool}

theorem stateAdd_inboundSPIs (h : k.stateAdd fault key st = some k')
    : k'.inboundSPIs = k.inboundSPIs := by
  unfold stateAdd at h
  grind

theorem policyAdd_inboundSPIs {key : PolicyKey} {pol : XfrmPolicy}
    (h : k.policyAdd fault key pol = some k') : k'.inboundSPIs = k.inboundSPIs := by
  unfold policyAdd at h
  grind

theorem stateAdd_eq_none_iff :
    k.stateAdd fault key st = none ↔ ¬(fault = false ∧ k.states.lookup key = none) := by
  unfold stateAdd
  simp_all

theorem stateAdd_fresh (h : k.stateAdd fault key st = some k') :
    fault = false ∧ k.states.lookup key = none := by
  refine Decidable.byContradiction fun hno => ?_
  rw [stateAdd_eq_none_iff.mpr hno] at h
  cases h

end Kernel

section Marks
variable {k k' : Kernel} {faults : Nat → Bool} {p : ChildSAParams}

theorem addChildSAStates_ok_marks (h : addChildSAStates k faults p = (k', true)) :
    FirstAdded k faults p ∧ k'.inboundSPIs = p.inboundSPI :: k.inboundSPIs.erase p.inboundSPI := by
  unfold addChildSAStates at h
  split at h
  · cases h
  rename_i hfam
  split at h
  · cases h
  rename_i k1 h1
  have hfirst := Kernel.stateAdd_fresh h1
  dsimp only at h
  split at h
  · cases h
  rename_i k2 h2
  cases h
  refine ⟨⟨Decidable.not_not.mp hfam, hfirst⟩, ?_⟩
  rw [Kernel.stateAdd_inboundSPIs h2, Kernel.markInbound, Kernel.stateAdd_inboundSPIs h1]

theorem addChildSAStates_fail_marks (h : addChildSAStates k faults p = (k', false)) :
    (FirstAdded k faults p ∧ k'.inboundSPIs = k.inboundSPIs.erase p.inboundSPI) ∨
      ¬FirstAdded k faults p ∧ k'.inboundSPIs = k.inboundSPIs := by
  unfold addChildSAStates at h
  split at h
  · rename_i hfam
    cases h
    exact .inr ⟨fun hfirst => hfam hfirst.1, rfl⟩
  rename_i hfam
  split at h
  · rename_i h1
    cases h
    exact .inr ⟨fun hfirst => Kernel.stateAdd_eq_none_iff.mp h1 hfirst.2, rfl⟩
  rename_i k1 h1
  have hfirst := Kernel.stateAdd_fresh h1
  dsimp only at h
  split at h
  · cases h
    refine .inl ⟨⟨Decidable.not_not.mp hfam, hfirst⟩, ?_⟩
    simp only [Kernel.unmarkInbound, Kernel.stateDel, Kernel.markInbound, List.erase_cons_head,
      Kernel.stateAdd_inboundSPIs h1]
  · cases h

theorem addChildSAPolicies_fail_marks (h : addChildSAPolicies k faults p = (k', false)) :
    k'.inboundSPIs = k.inboundSPIs.erase p.inboundSPI := by
  simp only [addChildSAPolicies] at h
  split at h
  · cases h
    rfl
  rename_i k1 h1
  have hk1 := Kernel.policyAdd_inboundSPIs h1
  split at h
  · cases h
    exact congrArg (List.erase · p.inboundSPI) hk1
  rename_i k2 h2
  have hk2 := Kernel.policyAdd_inboundSPIs h2
  split at h
  · cases h
    exact congrArg (List.erase · p.inboundSPI) (hk2.trans hk1)
  · cases h

theorem installChildSA_fail_marks (h : installChildSA k faults p = (k', false)) :
    (FirstAdded k faults p ∧ k'.inboundSPIs = k.inboundSPIs.erase p.inboundSPI) ∨
      ¬FirstAdded k faults p ∧ k'.inboundSPIs = k.inboundSPIs := by
  unfold installChildSA at h
  split at h
  · rename_i k1 h1
    cases h
    exact addChildSAStates_fail_marks h1
  rename_i k1 h1
  obtain ⟨hfirst, hmarks⟩ := addChildSAStates_ok_marks h1
  refine .inl ⟨hfirst, ?_⟩
  rw [addChildSAPolicies_fail_marks h, hmarks, List.erase_cons_head]

theorem restored_iff_of_marks (hnodup : k.inboundSPIs.Nodup) (hsame : k.SameEntries k')
    (hmarks : (FirstAdded k faults p ∧ k'.inboundSPIs = k.inboundSPIs.erase p.inboundSPI) ∨
      ¬FirstAdded k faults p ∧ k'.inboundSPIs = k.inboundSPIs) :
    Restored k k' ↔ ¬(FirstAdded k faults p ∧ p.inboundSPI ∈ k.inboundSPIs) := by
  rcases hmarks with ⟨hfirst, heq⟩ | ⟨hfirst, heq⟩
  · constructor
    · rintro hr ⟨-, hmem⟩
      have hgone := (hr.marks p.inboundSPI).mpr hmem
      grind
    · intro hno
      have hmem : p.inboundSPI ∉ k.inboundSPIs := fun h => hno ⟨hfirst, h⟩
      exact ⟨hsame, fun spi => by rw [heq, List.erase_of_not_mem hmem]⟩
  · exact iff_of_true ⟨hsame, fun spi => by rw [heq]⟩ fun h => hfirst h.1

end Marks

/-- A call that fails at whichever step leaves everything as it was exactly when it did not get past
its first add or its inbound SPI was not marked before. -/
theorem failed_install_restores_iff {k k' : Kernel} {faults : Nat → Bool} {p : ChildSAParams}
    (hnodup : k.inboundSPIs.Nodup)
    (h : installChildSA k faults p = (k', false) ∨ addChildSAStates k faults p = (k', false)) :
    k.SameEntries k' ∧
      (Restored k k' ↔ ¬(FirstAdded k faults p ∧ p.inboundSPI ∈ k.inboundSPIs)) := by
  rcases h with h | h
  · have hsame := installChildSA_fail h
    exact ⟨hsame, restored_iff_of_marks hnodup hsame (installChildSA_fail_marks h)⟩
  · have hsame := addChildSAStates_fail h
    exact ⟨hsame, restored_iff_of_marks hnodup hsame (addChildSAStates_fail_marks h)⟩

section Runs

def childV4 : ChildSAParams where
  localIP := .v4 0xc0000201
  remoteIP := .v4 0xcb007101
  inboundSPI := 0x1001
  outboundSPI := 0x2001
  remoteTS := IPNet.host (some (.v4 0x0a000001))
  ifID := ifID

def childV6 : ChildSAParams where
  localIP := .v6 0x20010db800000000 1
  remoteIP := .v6 0x20010db800000000 2
  inboundSPI := 0x1001
  outboundSPI := 0x2002
  remoteTS := IPNet.host (some (.v4 0x0a000002))
  ifID := ifID

def withV4 : Kernel := (installChildSA {} (fun _ => false) childV4).1

/-- The outbound state of the second CHILD SA cannot be added. The inbound SPI of the first one is
no longer marked, and its inbound state is still there. -/
theorem other_mark_removed :
    let failed := installChildSA withV4 (· == 1) childV6
    failed.2 = false ∧ childV4.inboundSPI ∈ withV4.inboundSPIs ∧
      childV4.inboundSPI ∉ failed.1.inboundSPIs ∧
      failed.1.states.lookup childV4.pair.inKey = withV4.states.lookup childV4.pair.inKey ∧
      (withV4.states.lookup childV4.pair.inKey).isSome = true := by
  decide +kernel

/-- The same failure without the first CHILD SA leaves nothing behind. -/
theorem failed_install_restores_empty : Restored {} (installChildSA {} (· == 1) childV6).1 := by
  have hfail : installChildSA {} (· == 1) childV6
      = ((installChildSA {} (· == 1) childV6).1, false) :=
    Prod.ext rfl (by decide +kernel)
  refine (failed_install_restores_iff List.nodup_nil (.inl hfail)).2.mpr ?_
  exact fun h => absurd h.2 List.not_mem_nil

end Runs
end Epdg.Xfrm
