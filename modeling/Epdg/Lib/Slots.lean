import Mathlib.Data.Nat.Notation
import Mathlib.Logic.Function.Basic

/-!
One-shot slots: a slot is registered under a key, somebody takes it out of the register, and
whoever took it puts one value in.

Several parties may take slots at the same time; taking goes by the key and removes the entry.
That a slot is filled at most once, that a registered slot is empty and that only values that
fit its key go into it follow from how slots move, whatever the order of the moves.
-/
universe u v w

structure Slots (κ : Type u) (ν : Type v) (η : Type w) where
  key : ℕ → Option κ
  registered : κ → Option ℕ
  held : η → Option (ℕ × ν)
  filled : ℕ → List ν

namespace Slots
variable {κ : Type u} {ν : Type v} {η : Type w} {fits : κ → ν → Prop} {s s' : Slots κ ν η}

structure Sound (fits : κ → ν → Prop) (s : Slots κ ν η) : Prop where
  fresh : ∀ n, s.key n = none → s.filled n = []
  registered : ∀ k n, s.registered k = some n →
    s.key n = some k ∧ s.filled n = [] ∧ ∀ h v, s.held h ≠ some (n, v)
  held : ∀ h n v, s.held h = some (n, v) →
    (∃ k, s.key n = some k ∧ fits k v) ∧ s.filled n = [] ∧
      ∀ h' v', s.held h' = some (n, v') → h' = h
  once : ∀ n, (s.filled n).length ≤ 1
  fitting : ∀ n k v, s.key n = some k → v ∈ s.filled n → fits k v

namespace Sound

theorem drop (hs : s.Sound fits) (hk : s'.key = s.key) (hh : s'.held = s.held)
    (hf : s'.filled = s.filled)
    (hr : ∀ k n, s'.registered k = some n → s.registered k = some n) : s'.Sound fits := by
  constructor
  · intro n hn
    rw [hf]
    exact hs.fresh n (hk ▸ hn)
  · intro k n hn
    rw [hk, hf, hh]
    exact hs.registered k n (hr k n hn)
  · intro h n v hn
    rw [hk, hf, hh]
    exact hs.held h n v (hh ▸ hn)
  · intro n
    rw [hf]
    exact hs.once n
  · intro n k v hn hv
    exact hs.fitting n k v (hk ▸ hn) (hf ▸ hv)

theorem congr (hs : s.Sound fits) (hk : s'.key = s.key) (hr : s'.registered = s.registered)
    (hh : s'.held = s.held) (hf : s'.filled = s.filled) : s'.Sound fits :=
  hs.drop hk hh hf fun _ _ h => hr ▸ h

theorem not_held (hs : s.Sound fits) {n : ℕ} (hn : s.key n = none) (h : η) (v : ν) :
    s.held h ≠ some (n, v) := by
  intro hh
  obtain ⟨⟨k, hk, -⟩, -, -⟩ := hs.held h n v hh
  grind

variable [DecidableEq κ] [DecidableEq η]

theorem register (hs : s.Sound fits) {n : ℕ} {k : κ} (hn : s.key n = none)
    (hk : s'.key = Function.update s.key n (some k))
    (hr : s'.registered = Function.update s.registered k (some n)) (hh : s'.held = s.held)
    (hf : s'.filled = s.filled) : s'.Sound fits := by
  have hempty := hs.fresh n hn
  have hother {n' : ℕ} {k' : κ} (h : s.key n' = some k') : s'.key n' = some k' := by
    have hne : n' ≠ n := by grind
    simp_all
  constructor
  · intro n' h
    rw [hf]
    by_cases e : n' = n
    · exact e ▸ hempty
    · rw [hk, Function.update_of_ne e] at h
      exact hs.fresh n' h
  · intro k' n' h
    rw [hf, hh]
    by_cases e : k' = k
    · rw [hr, e, Function.update_self] at h
      cases h
      exact ⟨by rw [hk, Function.update_self, e], hempty, hs.not_held hn⟩
    · rw [hr, Function.update_of_ne e] at h
      obtain ⟨hkey, hrest⟩ := hs.registered k' n' h
      simp_all
  · intro h n' v hn'
    rw [hf, hh]
    obtain ⟨⟨k', hkey, hfit⟩, hrest⟩ := hs.held h n' v (hh ▸ hn')
    simp_all
  · intro n'
    rw [hf]
    exact hs.once n'
  · intro n' k' v hkey hv
    rw [hf] at hv
    by_cases e : n' = n
    · simp_all
    · rw [hk, Function.update_of_ne e] at hkey
      exact hs.fitting n' k' v hkey hv

theorem take (hs : s.Sound fits) {n : ℕ} {k : κ} {h : η} {v : ν}
    (hreg : s.registered k = some n) (hv : fits k v) (hk : s'.key = s.key)
    (hr : s'.registered = Function.update s.registered k none)
    (hh : s'.held = Function.update s.held h (some (n, v))) (hf : s'.filled = s.filled) :
    s'.Sound fits := by
  obtain ⟨hkey, hempty, hfree⟩ := hs.registered k n hreg
  have hheld {h' : η} {n' : ℕ} {v' : ν} (hn' : s'.held h' = some (n', v')) :
      h' = h ∧ n' = n ∧ v' = v ∨ h' ≠ h ∧ s.held h' = some (n', v') := by
    rw [hh] at hn'
    grind
  constructor
  · intro n' hn'
    rw [hf]
    exact hs.fresh n' (hk ▸ hn')
  · intro k' n' hreg'
    rw [hr] at hreg'
    by_cases e : k' = k
    · simp_all
    rw [Function.update_of_ne e] at hreg'
    obtain ⟨hkey', he, hno⟩ := hs.registered k' n' hreg'
    grind
  · intro h' n' v' hn'
    rw [hk, hf]
    obtain ⟨rfl, rfl, rfl⟩ | ⟨-, hold⟩ := hheld hn'
    · grind
    obtain ⟨hfit, he, huniq⟩ := hs.held h' n' v' hold
    grind
  · intro n'
    rw [hf]
    exact hs.once n'
  · intro n' k' v' hn' hv'
    exact hs.fitting n' k' v' (hk ▸ hn') (hf ▸ hv')

theorem put (hs : s.Sound fits) {n : ℕ} {h : η} {v : ν} (hheld : s.held h = some (n, v))
    (hk : s'.key = s.key) (hr : s'.registered = s.registered)
    (hh : s'.held = Function.update s.held h none)
    (hf : s'.filled = Function.update s.filled n (v :: s.filled n)) : s'.Sound fits := by
  obtain ⟨⟨k, hkey, hv⟩, hempty, huniq⟩ := hs.held h n v hheld
  have hkept {h' : η} {n' : ℕ} {v' : ν} (hn' : s'.held h' = some (n', v')) :
      s.held h' = some (n', v') ∧ n' ≠ n := by
    rw [hh] at hn'
    grind
  have hsame {n' : ℕ} (hne : n' ≠ n) : s'.filled n' = s.filled n' := by simp_all
  constructor
  · intro n' hn'
    rw [hk] at hn'
    have hne : n' ≠ n := by grind
    exact (hsame hne).trans (hs.fresh n' hn')
  · intro k' n' hreg
    obtain ⟨hkey', he, hno⟩ := hs.registered k' n' (hr ▸ hreg)
    grind
  · intro h' n' v' hn'
    obtain ⟨hold, hne⟩ := hkept hn'
    obtain ⟨hfit, he, huniq'⟩ := hs.held h' n' v' hold
    grind
  · intro n'
    by_cases e : n' = n
    · simp_all
    · rw [hsame e]
      exact hs.once n'
  · intro n' k' v' hkey' hv'
    rw [hk] at hkey'
    by_cases e : n' = n
    · simp_all
    · rw [hsame e] at hv'
      exact hs.fitting n' k' v' hkey' hv'

end Sound
end Slots
