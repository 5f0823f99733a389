import Mathlib.Data.List.AList

/-!
Finite maps with at most one entry a key, on top of Mathlib's association lists.

The carrier is `AList`, so key uniqueness is part of the type. Only what the
library lacks for the non-dependent case is added: conditional forms of the
lookup laws, an in-place update, and the list of stored values.
-/
abbrev Table (K V : Type) := AList (fun _ : K => V)

namespace Table
variable {K V : Type} [DecidableEq K]

theorem lookup_insert_ite (m : Table K V) (k k' : K) (v : V) :
    (m.insert k v).lookup k' = if k' = k then some v else m.lookup k' := by
  by_cases e : k' = k
  · subst e; simp
  · simp [e]

theorem lookup_erase_ite (m : Table K V) (k k' : K) :
    (m.erase k).lookup k' = if k' = k then none else m.lookup k' := by
  by_cases e : k' = k
  · subst e; simp
  · simp [e]

def modify (m : Table K V) (k : K) (f : V → V) : Table K V :=
  match m.lookup k with
  | none => m
  | some v => m.insert k (f v)

theorem lookup_modify (m : Table K V) (k k' : K) (f : V → V) :
    (m.modify k f).lookup k' =
      if k' = k then (m.lookup k).map f else m.lookup k' := by
  unfold modify
  cases h : m.lookup k with
  | none => grind
  | some v =>
    by_cases e : k' = k
    · subst e; simp
    · simp [e]

def values (m : Table K V) : List V := m.entries.map Sigma.snd

theorem mem_values (m : Table K V) (v : V) :
    v ∈ m.values ↔ ∃ k, m.lookup k = some v := by
  simp only [values, List.mem_map]
  constructor
  · rintro ⟨⟨k, v'⟩, h, rfl⟩
    exact ⟨k, AList.mem_lookup_iff.mpr h⟩
  · rintro ⟨k, h⟩
    exact ⟨⟨k, v⟩, AList.mem_lookup_iff.mp h, rfl⟩

theorem find_values {m : Table K V} {p : V → Bool} {v : V}
    (h : m.values.find? p = some v) : p v = true ∧ ∃ k, m.lookup k = some v :=
  ⟨List.find?_some h, (mem_values m v).mp (List.mem_of_find?_eq_some h)⟩

def filterValues (m : Table K V) (p : V → Bool) : Table K V :=
  ⟨m.entries.filter fun e => p e.2, m.nodupKeys.sublist List.filter_sublist⟩

theorem lookup_filterValues (m : Table K V) (p : V → Bool) (k : K) :
    (m.filterValues p).lookup k = (m.lookup k).filter p := by
  apply Option.ext
  intro v
  rw [Option.filter_eq_some_iff, ← Option.mem_def, ← Option.mem_def, AList.mem_lookup_iff,
    AList.mem_lookup_iff]
  exact List.mem_filter

def Any (m : Table K V) (p : V → Prop) : Prop := ∃ k v, m.lookup k = some v ∧ p v

theorem Any.of_insert {m : Table K V} {p : V → Prop} {k : K} {v : V}
    (h : Any (m.insert k v) p) : p v ∨ m.Any p := by
  obtain ⟨k', v', hl, hp⟩ := h
  rw [lookup_insert_ite] at hl
  split at hl
  · simp_all
  · exact .inr ⟨k', v', hl, hp⟩

theorem Any.of_erase {m : Table K V} {p : V → Prop} {k : K} (h : Any (m.erase k) p) :
    m.Any p := by
  obtain ⟨k', v', hl, hp⟩ := h
  rw [lookup_erase_ite] at hl
  split at hl
  · cases hl
  · exact ⟨k', v', hl, hp⟩

theorem any_values (m : Table K V) (p : V → Bool) :
    m.values.any p = true ↔ m.Any (p · = true) := by
  simp only [List.any_eq_true, mem_values, Any]
  grind

end Table
