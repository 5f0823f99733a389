import Epdg.Xfrm.Stats

/-!
The direction of ESP counters.

`Stats` takes a state for an inbound one when its SPI is in the set of inbound SPIs. Inbound SPIs
are drawn by the ePDG and outbound ones by the UEs, so an outbound state may have the SPI of an
inbound one; and a mark goes with the first of two inbound states that have the same SPI.
-/
namespace Epdg.Xfrm
variable {key : StateKey} {st : XfrmState} {k : Kernel}

def Inbound (key : StateKey) (st : XfrmState) : Bool := key = st.child.inKey

section Sums
variable {test test' : StateKey → XfrmState → Bool} {f : StateKey → UInt64}
  {l : List (Sigma fun _ : StateKey => XfrmState)}

end Sums

def Directed (k : Kernel) : Prop :=
  ∀ key st, k.states.lookup key = some st →
    st.child.inKey ≠ st.child.outKey ∧ (key = st.child.inKey ∨ key = st.child.outKey)

section Histories
variable {k k' : Kernel} {faults : Nat → Bool} {p : ChildSAParams}

theorem addChildSAStates_ok_ne (h : addChildSAStates k faults p = (k', true)) :
    p.pair.inKey ≠ p.pair.outKey := by
  unfold addChildSAStates at h
  split at h
  · cases h
  split at h
  · cases h
  rename_i k1 h1
  obtain ⟨-, -, hs1⟩ := Kernel.stateAdd_some h1
  dsimp only at h
  split at h
  · cases h
  rename_i k2 h2
  obtain ⟨hfree, -, -⟩ := Kernel.stateAdd_some h2
  intro heq
  simp_all

theorem installChildSA_ok_ne (h : installChildSA k faults p = (k', true)) :
    p.pair.inKey ≠ p.pair.outKey := by
  unfold installChildSA at h
  split at h
  · cases h
  · rename_i k1 h1
    exact addChildSAStates_ok_ne h1

section
variable (hk : Directed k)
include hk

theorem Directed.shrink
    (hsub : ∀ key st, k'.states.lookup key = some st → k.states.lookup key = some st) :
    Directed k' :=
  fun key st h => hk key st (hsub key st h)

theorem Directed.added (hadd : StatesAdded k k' p) (hne : p.pair.inKey ≠ p.pair.outKey) :
    Directed k' := by
  intro key st h
  rw [hadd.states] at h
  split at h
  · rename_i hout
    cases h
    exact ⟨hne, .inr hout⟩
  split at h
  · rename_i hin
    cases h
    exact ⟨hne, .inl hin⟩
  · exact hk key st h

theorem Directed.addStates (faults : Nat → Bool) (p : ChildSAParams) :
    Directed (addChildSAStates k faults p).1 := by
  cases h : addChildSAStates k faults p with
  | mk k' ok =>
    cases ok with
    | true => exact hk.added (addChildSAStates_ok h).1 (addChildSAStates_ok_ne h)
    | false => exact hk.shrink fun key st hst => ((addChildSAStates_fail h).1 key).symm.trans hst

theorem Directed.install (faults : Nat → Bool) (p : ChildSAParams) :
    Directed (installChildSA k faults p).1 := by
  cases h : installChildSA k faults p with
  | mk k' ok =>
    cases ok with
    | true => exact hk.added (installChildSA_ok h).1 (installChildSA_ok_ne h)
    | false => exact hk.shrink fun key st hst => ((installChildSA_fail h).1 key).symm.trans hst

theorem Directed.call (c : Call) : Directed (k.call c) := by
  cases c with
  | install faults p => exact hk.install faults p
  | addStates faults p => exact hk.addStates faults p
  | remove p => exact hk.shrink (removeChildSA_le k p).1
  | removeStates p => exact hk.shrink fun _ _ => removeChildSAStates_le
  | migrate faults old new => exact (hk.shrink (removeChildSA_le k old).1).install faults new

end

end Histories

section
variable (h : st.child.inKey ≠ st.child.outKey ∧ (key = st.child.inKey ∨ key = st.child.outKey))
include h

end

section Runs

end Runs
end Epdg.Xfrm
