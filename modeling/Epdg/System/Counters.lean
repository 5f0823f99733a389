import Epdg.System.Writes

/-!
The counters of the requests of the ePDG.

A check of the DPD reaper is the only step that advances the counter of an SA. Every other step
leaves the SA objects with their counters, drops some, and adds at most one new one, whose counter
is 0.
-/
namespace Epdg
open Ikev2
variable {natt : Bool}

def World.counterAt (w : World) (k : UInt64) : Option (Nat × UInt32) :=
  (w.lookupSA k).map IkeSA.counter

def Counts (n : Nat) (w w' : World) : Prop :=
  ∀ k c, w'.counterAt k = some c → w.counterAt k = some c ∨ c = (n, 0)

variable {n : Nat} {S : Server} {w w1 w' : World}

theorem counterAt_storeSA (w : World) (sa : IkeSA) (k : UInt64) :
    (w.storeSA sa).counterAt k = if k = sa.spiI then some sa.counter else w.counterAt k := by
  rw [World.counterAt, World.lookupSA_storeSA]
  split <;> rfl

theorem Counts.of_lookup (hl : ∀ k sa, w'.lookupSA k = some sa → w.lookupSA k = some sa) :
    Counts n w w' := by
  intro k c hc
  obtain ⟨sa, hsa, rfl⟩ := Option.map_eq_some_iff.mp hc
  exact .inl (Option.map_eq_some_iff.mpr ⟨sa, hl k sa hsa, rfl⟩)

theorem Counts.refl (w : World) : Counts n w w := of_lookup fun _ _ h => h

theorem Write.counts {calm : Prop} (h : Write n natt True calm w w') : Counts n w w' := by
  cases h with
  | keep hl => exact .of_lookup hl
  | edit h =>
    obtain ⟨old, hl, h⟩ := h trivial
    intro k c hc
    rw [counterAt_storeSA] at hc
    split at hc
    · rename_i hk
      rw [hk, World.counterAt, h.spiI, hl, Option.map_some, ← h.counter]
      exact .inl hc
    · exact .inl hc
  | create hnew =>
    intro k c hc
    rw [counterAt_storeSA, hnew] at hc
    grind

theorem Writes.counts (h : Writes n natt True False w w') : Counts n w w' := by
  induction h with
  | refl => exact .refl w
  | tail _ h1 ih =>
    intro k c hc
    rcases h1.counts k c hc with hold | hnew
    · exact ih k c hold
    · exact .inr hnew

theorem step_counts {i : Input} (hkeyed : Keyed w) (hi : ∀ spiI, i.act ≠ .dpd spiI) :
    Counts w.nextRef w (step S w i) := by
  simp only [step]
  split
  · simp only [handlePacket]
    split
    · exact .refl w
    simp only [handleMessage]
    split
    · exact handleIKESAInit_writes.counts
    split
    · exact (handleIKEAuth_writes fun _ => hkeyed).counts
    split
    · obtain ⟨_, h⟩ := handleCreateChildSA_writes fun _ => hkeyed
      exact h.counts
    split
    · obtain ⟨_, h⟩ := handleInformational_writes fun _ => hkeyed
      exact h.counts
    · exact .refl w
  · simp_all
  · exact (halfOpenCheck_writes false _).counts
  · exact .of_lookup fun k sa h => (handlePGW_aside w _ _).lookupSA k ▸ h

end Epdg
