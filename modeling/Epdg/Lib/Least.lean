import Mathlib.Data.List.MinMax

/-!
A loop that keeps the best candidate so far. It starts from a bound instead of a candidate, so a
candidate that does not get below the bound is never taken.
-/
namespace Least
variable {α β : Type} [LinearOrder β] (p : α → Bool) (key : α → β) (bound : β)

def improve (best : Option α) (a : α) : Option α :=
  if best.elim bound key ≤ key a then best else if p a then some a else best

def below (best : Option α) : Option α := best.filter fun a => key a < bound

theorem below_some (a : α) : below key bound (some a) = if key a < bound then some a else none := by
  simp only [below, Option.filter_some, decide_eq_true_eq]

theorem improve_below_none (a : α) :
    improve p key bound none a = if p a then below key bound (some a) else none := by
  rw [improve, Option.elim_none, below_some]
  grind

theorem improve_below_some (c a : α) :
    improve p key bound (below key bound (some c)) a
      = if p a then below key bound (some (if key a < key c then a else c))
        else below key bound (some c) := by
  by_cases hc : key c < bound
  · rw [below_some, if_pos hc, improve, Option.elim_some]
    split
    · rename_i hle
      rw [if_neg (not_lt.mpr hle), below_some, if_pos hc, ite_self]
    rename_i hle
    have hlt := not_le.mp hle
    rw [if_pos hlt, below_some, if_pos (hlt.trans hc)]
  · -- The bound stands in for a candidate that did not get below it.
    have hnone : below key bound (some c) = none := by rw [below_some, if_neg hc]
    rw [hnone, improve_below_none]
    congr 1
    split
    · rfl
    rw [hnone, below_some, if_neg]
    grind

theorem foldl_improve (xs : List α) :
    xs.foldl (improve p key bound) none = below key bound ((xs.filter p).argmin key) := by
  induction xs using List.reverseRecOn with
  | nil => rfl
  | append_singleton xs a ih =>
    rw [List.foldl_concat, ih, List.filter_append, List.filter_singleton]
    cases hbest : (xs.filter p).argmin key with
    | none =>
      rw [show below key bound none = none from rfl, improve_below_none]
      cases hp : p a with
      | true => simp [List.argmin_concat, hbest]
      | false => simp [hbest, below]
    | some c =>
      rw [improve_below_some]
      cases hp : p a with
      | true =>
        rw [if_pos rfl, cond_true, List.argmin_concat, hbest]
        grind
      | false => simp [hbest]

section Pick
variable {γ : Type} (label : α → γ) (default : γ)

def pick (xs : List α) : γ :=
  ((below key bound ((xs.filter p).argmin key)).map label).getD default

variable {p key bound label default}
variable {xs : List α}

theorem pick_of_lt {m : α} (hm : (xs.filter p).argmin key = some m) (hlt : key m < bound) :
    pick p key bound label default xs = label m := by
  rw [pick, hm, below_some, if_pos hlt]
  rfl

theorem pick_of_le {m : α} (hm : (xs.filter p).argmin key = some m) (hle : bound ≤ key m) :
    pick p key bound label default xs = default := by
  rw [pick, hm, below_some, if_neg (not_lt.mpr hle)]
  rfl

theorem pick_of_none (hm : (xs.filter p).argmin key = none) :
    pick p key bound label default xs = default := by
  rw [pick, hm]
  rfl

theorem pick_of_better {g : α} (hg : g ∈ xs) (hpg : p g = true) (hlt : key g < bound)
    (hbetter : ∀ x ∈ xs, p x = true → label x ≠ label g → key g < key x) :
    pick p key bound label default xs = label g := by
  have hmem : g ∈ xs.filter p := List.mem_filter.mpr ⟨hg, hpg⟩
  cases hm : (xs.filter p).argmin key with
  | none => simp_all
  | some m =>
    have hle : key m ≤ key g := List.le_of_mem_argmin hmem hm
    obtain ⟨hmxs, hpm⟩ := List.mem_filter.mp (List.argmin_mem hm)
    rw [pick_of_lt hm (hle.trans_lt hlt)]
    grind

theorem pick_of_worse (h : ∀ x ∈ xs, p x = true → label x ≠ default → bound ≤ key x) :
    pick p key bound label default xs = default := by
  cases hm : (xs.filter p).argmin key with
  | none => exact pick_of_none hm
  | some m =>
    obtain ⟨hmxs, hpm⟩ := List.mem_filter.mp (List.argmin_mem hm)
    by_cases hlt : key m < bound
    · rw [pick_of_lt hm hlt]
      grind
    · exact pick_of_le hm (not_lt.mp hlt)

theorem pick_append [DecidableEq α] {os gs : List α} {t : γ} (hos : ∀ x ∈ os, label x ≠ t)
    (h : pick p key bound label default (os ++ gs) = t) :
    (∃ g ∈ gs, p g = true ∧ key g < bound ∧ ∀ x ∈ os, p x = true → key g < key x) ∨
      t = default ∧ ∀ x ∈ os, p x = true → bound ≤ key x := by
  cases hm : ((os ++ gs).filter p).argmin key with
  | none =>
    rw [pick_of_none hm] at h
    refine .inr ⟨h.symm, fun x hx hp => ?_⟩
    simp_all
  | some m =>
    have hle : ∀ x ∈ os, p x = true → key m ≤ key x := fun x hx hp =>
      List.le_of_mem_argmin (List.mem_filter.mpr ⟨List.mem_append_left gs hx, hp⟩) hm
    by_cases hlt : key m < bound
    · rw [pick_of_lt hm hlt] at h
      obtain ⟨hmem, hpm⟩ := List.mem_filter.mp (List.argmin_mem hm)
      have hmos : m ∉ os := fun hmos => hos m hmos h
      refine .inl ⟨m, (List.mem_append.mp hmem).resolve_left hmos, hpm, hlt, fun x hx hp => ?_⟩
      refine lt_of_le_of_ne (hle x hx hp) fun heq => ?_
      -- Of two equal candidates the loop keeps the first, and x comes before m.
      have hxf : x ∈ os.filter p := List.mem_filter.mpr ⟨hx, hp⟩
      rw [List.filter_append] at hm
      have hidx := List.index_of_argmin hm (List.mem_append_left _ hxf) heq.ge
      grind
    · rw [pick_of_le hm (not_lt.mp hlt)] at h
      grind

end Pick

section Cut
variable {γ : Type}

theorem filter_take_subset (q : α → Bool) (xs : List α) (n : Nat) :
    (xs.filter q).take (n - (xs.filter fun x => !q x).length) ⊆ xs.take n := by
  induction xs generalizing n with
  | nil => simp
  | cons x xs ih =>
    cases n with
    | zero => simp
    | succ n =>
      cases hq : q x with
      | false =>
        simp_all
      | true =>
        simp only [List.filter_cons, hq, Bool.not_true, if_true, Bool.false_eq_true, if_false,
          List.take_succ_cons]
        by_cases hle : (xs.filter fun x => !q x).length ≤ n
        · rw [Nat.succ_sub hle, List.take_succ_cons]
          simp_all
        · rw [Nat.sub_eq_zero_of_le (Nat.lt_of_not_le hle)]
          grind

theorem mem_take_flatMap {f : γ → List α} {xs : List γ} {n : Nat} {a : α}
    (h : a ∈ (xs.flatMap f).take n) : ∃ x ∈ xs, a ∈ (f x).take n := by
  induction xs generalizing n with
  | nil => simp_all
  | cons x xs ih =>
    rw [List.flatMap_cons, List.take_append] at h
    rcases List.mem_append.mp h with hx | hrest
    · simp_all
    obtain ⟨y, hy, ha⟩ := ih hrest
    refine ⟨y, List.mem_cons_of_mem x hy, ?_⟩
    exact (List.take_subset_take_left (f y) (Nat.sub_le n _)) ha

end Cut
end Least
