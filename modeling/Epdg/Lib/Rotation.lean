/-!
Secrets that are replaced with time.

A holder keeps the newest secret and the one before it. It draws a new one when it is asked for
them after more than a lifetime, so nothing happens between two questions. A lineage also remembers
the older secrets.
-/
namespace Rotation
universe u
variable {σ : Type u}

structure Holder (σ : Type u) where
  current : σ
  previous : σ
  since : Nat

namespace Holder

def ask (lifetime : Nat) (h : Holder σ) (now : Nat) (fresh : σ) : Holder σ :=
  if now - h.since > lifetime then ⟨fresh, h.current, now⟩ else h

def Keeps (h : Holder σ) (s : σ) (since : Nat) : Prop :=
  h.current = s ∨ (h.previous = s ∧ since ≤ h.since)

variable {lifetime now t : Nat} {h : Holder σ} {s fresh : σ}

theorem Keeps.ask (hk : h.Keeps s t) (hle : t ≤ now) (hin : now ≤ t + lifetime) :
    (h.ask lifetime now fresh).Keeps s t := by
  unfold Holder.ask
  split
  · rcases hk with hcur | ⟨-, hsince⟩
    · exact .inr ⟨hcur, hle⟩
    · omega
  · exact hk

theorem Keeps.mem (hk : h.Keeps s t) : s = h.current ∨ s = h.previous := by
  rcases hk with hcur | ⟨hprev, -⟩
  · exact .inl hcur.symm
  · exact .inr hprev.symm

end Holder

structure Lineage (σ : Type u) extends Holder σ where
  older : List σ
  previous_eq : previous = older.headD current

namespace Lineage

def start (s : σ) (now : Nat) : Lineage σ := ⟨⟨s, s, now⟩, [], rfl⟩

def drawn (l : Lineage σ) : List σ := l.current :: l.older

def ask (lifetime : Nat) (l : Lineage σ) (now : Nat) (fresh : σ) : Lineage σ :=
  if now - l.since > lifetime then ⟨⟨fresh, l.current, now⟩, l.current :: l.older, rfl⟩ else l

theorem toHolder_ask (lifetime : Nat) (l : Lineage σ) (now : Nat) (fresh : σ) :
    (l.ask lifetime now fresh).toHolder = l.toHolder.ask lifetime now fresh := by
  unfold ask Holder.ask
  split <;> rfl

theorem drawn_two (l : Lineage σ) {s : σ} (hs : s = l.current ∨ s = l.previous) :
    ∃ i, i < 2 ∧ l.drawn[i]? = some s := by
  rcases hs with rfl | rfl
  · exact ⟨0, by decide, rfl⟩
  rw [l.previous_eq]
  cases hold : l.older with
  | nil => exact ⟨0, by decide, by rw [drawn, hold]; rfl⟩
  | cons p rest => exact ⟨1, by decide, by rw [drawn, hold]; rfl⟩

theorem lt_two_of_nodup {l : Lineage σ} (hnodup : l.drawn.Nodup) {s : σ} {i : Nat}
    (hs : s = l.current ∨ s = l.previous) (hi : l.drawn[i]? = some s) : i < 2 := by
  obtain ⟨j, hj, hget⟩ := l.drawn_two hs
  have hlt : j < l.drawn.length := (List.getElem?_eq_some_iff.mp hget).1
  have hij : j = i := (List.getElem?_inj hlt hnodup).mp (hget.trans hi.symm)
  exact hij ▸ hj

end Lineage
end Rotation
