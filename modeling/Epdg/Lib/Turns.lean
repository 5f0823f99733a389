import Mathlib.Data.Int.ModEq
import Mathlib.Data.List.Infix

/-!
A counter that goes round through `1, ..., n`.

The values after a start are those of a residue modulo `n`, so as many of them as there are numbers
in the round are all different.
-/
namespace Turns
variable {n start : Nat}

def next (n v : Nat) : Nat := v % n + 1

def values (n start count : Nat) : List Nat := (List.range count).map fun i => (start + i) % n + 1

theorem values_succ (n start count : Nat) :
    values n start (count + 1) = values n start count ++ [(start + count) % n + 1] := by
  simp [values, List.range_succ]

theorem next_turn (start count : Nat) :
    next n ((start + count) % n + 1) = (start + (count + 1)) % n + 1 := by
  rw [next, Nat.mod_add_mod, Nat.add_assoc]

theorem mem_values_le (hn : 0 < n) {v count : Nat} (h : v ∈ values n start count) :
    1 ≤ v ∧ v ≤ n := by
  obtain ⟨i, -, rfl⟩ := List.mem_map.mp h
  exact ⟨Nat.succ_pos _, Nat.mod_lt _ hn⟩

theorem nodup_window {window : List Nat} {count : Nat} (h : window <:+: values n start count)
    (hlen : window.length ≤ n) : window.Nodup := by
  obtain ⟨front, back, happ⟩ := h
  have hget {i : Nat} (hi : i < window.length) :
      window[i] = (start + (front.length + i)) % n + 1 := by
    have hat : (values n start count)[front.length + i]? = some window[i] := by grind
    obtain ⟨hlt, hval⟩ := List.getElem?_eq_some_iff.mp hat
    rw [← hval]
    simp [values]
  refine List.pairwise_iff_getElem.mpr fun i j hi hj hij heq => ?_
  rw [hget hi, hget hj] at heq
  have hmod : front.length + i ≡ front.length + j [MOD n] :=
    Nat.ModEq.add_left_cancel' start (Nat.succ.inj heq)
  have hnear : |(j : Int) - i| < n := abs_lt.mpr ⟨by omega, by omega⟩
  have hsame := (Nat.ModEq.add_left_cancel' _ hmod).eq_of_abs_lt hnear
  omega

end Turns
