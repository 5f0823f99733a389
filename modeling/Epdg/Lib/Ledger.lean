import Mathlib.Logic.Equiv.Basic

/-!
Ledgers: who holds a resource, and where resources are in place.

A ledger is exact when everything in place is held by somebody and sits where it belongs,
and resources of different holders keep apart. Holders may come and go, pass a resource on
to another holder, or acquire a new one; the rules below say when the ledger stays exact.
-/
universe u v w

structure Ledger (κ : Type u) (ρ : Type v) (ι : Type w) where
  holds : κ → ρ → Prop
  inPlace : ι → Option ρ

namespace Ledger
variable {κ : Type u} {ρ : Type v} {ι : Type w} {L L' : Ledger κ ρ ι}
  {apart : ρ → ρ → Prop} {place : ρ → ι → Prop}

structure Exact (apart : ρ → ρ → Prop) (place : ρ → ι → Prop) (L : Ledger κ ρ ι) : Prop where
  sits : ∀ i r, L.inPlace i = some r → place r i
  held : ∀ i r, L.inPlace i = some r → ∃ h, L.holds h r
  apart : ∀ h h' r r', h ≠ h' → L.holds h r → L.holds h' r' → apart r r'

namespace Exact

section
variable (hL : L.Exact apart place)
include hL

theorem relabel (f : κ ≃ κ) (hholds : ∀ h r, L'.holds h r → L.holds (f h) r)
    (hplace : ∀ i r, L'.inPlace i = some r → L.inPlace i = some r ∧ ∃ h, L'.holds h r) :
    L'.Exact apart place where
  sits i r h := hL.sits i r (hplace i r h).1
  held i r h := (hplace i r h).2
  apart h h' r r' hne hr hr' :=
    hL.apart (f h) (f h') r r' (fun he => hne (f.injective he)) (hholds h r hr)
      (hholds h' r' hr')

theorem shrink (hholds : ∀ h r, L'.holds h r → L.holds h r)
    (hplace : ∀ i r, L'.inPlace i = some r → L.inPlace i = some r ∧ ∃ h, L'.holds h r) :
    L'.Exact apart place :=
  hL.relabel (Equiv.refl κ) hholds hplace

theorem acquire (hsymm : ∀ r r', apart r r' → apart r' r) (h0 : κ) (r0 : ρ)
    (hfresh : ∀ h r, h ≠ h0 → L.holds h r → apart r0 r)
    (hholds : ∀ h r, L'.holds h r → h = h0 ∧ r = r0 ∨ h ≠ h0 ∧ L.holds h r)
    (hplace : ∀ i r, L'.inPlace i = some r →
      (∃ h, L'.holds h r) ∧ (L.inPlace i = some r ∨ place r i)) : L'.Exact apart place where
  sits i r h := by
    rcases (hplace i r h).2 with hold | hnew
    · exact hL.sits i r hold
    · exact hnew
  held i r h := (hplace i r h).1
  apart h h' r r' hne hr hr' := by
    rcases hholds h r hr with ⟨rfl, rfl⟩ | ⟨hne0, hold⟩
    · grind
    · rcases hholds h' r' hr' with ⟨rfl, rfl⟩ | ⟨-, hold'⟩
      · grind
      · exact hL.apart h h' r r' hne hold hold'

theorem not_place (hdisj : ∀ r r' i, apart r r' → place r i → ¬ place r' i) {h h' : κ} {r r' : ρ}
    {i : ι} (hne : h ≠ h') (hr : L.holds h r) (hr' : L.holds h' r') (hi : L.inPlace i = some r') :
    ¬ place r i := by
  intro hplace
  exact hdisj r r' i (hL.apart h h' r r' hne hr hr') hplace (hL.sits i r' hi)

end

end Exact
end Ledger
