import Mathlib.Data.List.Basic

/-!
Actions that are carried out one after the other and undone when one of them fails.

The undo of every action that was carried out is recorded; a failure runs the recorded ones, the
last one first. An undo clears the cells that its action has written. It does not know what was in
them before, so a failed run leaves the state as it was only where those cells were empty.
-/
universe u v w

namespace Undo

structure Action (σ : Type u) (ι : Type v) where
  perform : σ → σ × Bool
  undo : σ → σ := id
  cells : List ι := []

section Runs
variable {σ : Type u} {ι : Type v}

def run : List (Action σ ι) → List (σ → σ) → σ → σ × Bool
  | [], _, s => (s, true)
  | a :: acts, undos, s =>
    match a.perform s with
    | (s, true) => run acts (a.undo :: undos) s
    | (s, false) => (undos.foldl (fun s undo => undo s) s, false)

def done : List (Action σ ι) → σ → List (Action σ ι)
  | [], _ => []
  | a :: acts, s =>
    match a.perform s with
    | (s, true) => a :: done acts s
    | (_, false) => []

def written (acts : List (Action σ ι)) (s : σ) : List ι := (done acts s).flatMap Action.cells

variable {a : Action σ ι} {acts : List (Action σ ι)} {s s' : σ}

theorem run_cons_true (hp : a.perform s = (s', true)) (undos : List (σ → σ)) :
    run (a :: acts) undos s = run acts (a.undo :: undos) s' := by
  simp only [run, hp]

theorem run_cons_false (hp : a.perform s = (s', false)) (undos : List (σ → σ)) :
    run (a :: acts) undos s = (undos.foldl (fun s undo => undo s) s', false) := by
  simp only [run, hp]

theorem run_succeeded {undos : List (σ → σ)} (h : (run acts undos s).2 = true)
    (undos' : List (σ → σ)) : run acts undos' s = run acts undos s := by
  induction acts generalizing undos undos' s with
  | nil => rfl
  | cons a acts ih =>
    cases hp : a.perform s with
    | mk s1 ok =>
      cases ok with
      | false =>
        rw [run_cons_false hp] at h
        cases h
      | true =>
        rw [run_cons_true hp] at h ⊢
        rw [run_cons_true hp]
        grind

theorem run_failed (undos : List (σ → σ)) (h : (run acts undos s).2 = false) :
    (run acts [] s).2 = false ∧
      (run acts undos s).1 = undos.foldl (fun s undo => undo s) (run acts [] s).1 := by
  induction acts generalizing undos s with
  | nil => cases h
  | cons a acts ih =>
    cases hp : a.perform s with
    | mk s1 ok =>
      cases ok with
      | false =>
        rw [run_cons_false hp, run_cons_false hp]
        exact ⟨rfl, rfl⟩
      | true =>
        rw [run_cons_true hp] at h ⊢
        obtain ⟨hrest, heq⟩ := ih (a.undo :: undos) h
        -- whether the rest fails does not depend on what was recorded before
        have hself : (run acts [a.undo] s1).2 = false := by
          cases hok : (run acts [a.undo] s1).2 with
          | false => rfl
          | true =>
            rw [← run_succeeded hok [], hrest] at hok
            cases hok
        obtain ⟨-, heq'⟩ := ih [a.undo] hself
        rw [run_cons_true hp, heq, heq']
        exact ⟨hself, rfl⟩

theorem run_cons_performed (hp : a.perform s = (s', true))
    (hfail : (run (a :: acts) [] s).2 = false) :
    (run acts [] s').2 = false ∧ (run (a :: acts) [] s).1 = a.undo (run acts [] s').1 := by
  rw [run_cons_true hp] at hfail ⊢
  exact run_failed [a.undo] hfail

theorem written_cons_performed (hp : a.perform s = (s', true)) :
    written (a :: acts) s = a.cells ++ written acts s' := by
  simp only [written, done, hp, List.flatMap_cons]

theorem written_cons_failed (hp : a.perform s = (s', false)) : written (a :: acts) s = [] := by
  simp only [written, done, hp, List.flatMap_nil]

theorem exists_of_mem_written {i : ι} (h : i ∈ written acts s) : ∃ a ∈ acts, i ∈ a.cells := by
  induction acts generalizing s with
  | nil => cases h
  | cons a acts ih =>
    cases hp : a.perform s with
    | mk s' ok =>
      cases ok with
      | false =>
        rw [written_cons_failed hp] at h
        cases h
      | true =>
        rw [written_cons_performed hp, List.mem_append] at h
        grind

end Runs

section View
variable {σ : Type u} {ι : Type v} [DecidableEq ι] {ν : ι → Type w}
  (view : σ → (i : ι) → Option (ν i))

structure Clears (earlier : List ι) (a : Action σ ι) : Prop where
  performed : ∀ s s', a.perform s = (s', true) → ∀ i, i ∉ a.cells → i ∉ earlier →
    view s' i = view s i
  failed : ∀ s s', a.perform s = (s', false) → ∀ i, i ∉ earlier → view s' i = view s i
  undone : ∀ s i, view (a.undo s) i = if i ∈ a.cells then none else view s i

def AllClear : List ι → List (Action σ ι) → Prop
  | _, [] => True
  | earlier, a :: acts => Clears view earlier a ∧ AllClear (a.cells ++ earlier) acts

variable {view} {acts : List (Action σ ι)} {earlier : List ι} {s : σ}

theorem view_run_failed (h : AllClear view earlier acts) (hfail : (run acts [] s).2 = false)
    {i : ι} (hi : i ∉ earlier) :
    view (run acts [] s).1 i = if i ∈ written acts s then none else view s i := by
  induction acts generalizing earlier s with
  | nil => cases hfail
  | cons a acts ih =>
    obtain ⟨ha, hacts⟩ := h
    cases hp : a.perform s with
    | mk s' ok =>
      cases ok with
      | false =>
        rw [run_cons_false hp, written_cons_failed hp, if_neg List.not_mem_nil]
        exact ha.failed s s' hp i hi
      | true =>
        obtain ⟨hrest, heq⟩ := run_cons_performed hp hfail
        rw [heq, ha.undone, written_cons_performed hp]
        by_cases hcell : i ∈ a.cells
        · simp_all
        have hearlier : i ∉ a.cells ++ earlier := by simp [hcell, hi]
        rw [if_neg hcell, ih hacts hrest hearlier, ha.performed s s' hp i hcell hi]
        simp_all

theorem restored_iff {s' : σ} {cells : List ι}
    (h : ∀ i, view s' i = if i ∈ cells then none else view s i) :
    (∀ i, view s' i = view s i) ↔ ∀ i ∈ cells, view s i = none := by
  constructor
  · simp_all
  · intro hfree i
    simp_all

end View

section Attempts
variable {σ : Type u}

def attempt : (faults : Nat → Bool) → List (σ → σ) → σ → σ × Bool
  | _, [], s => (s, true)
  | faults, op :: ops, s =>
    if faults 0 then (s, false) else attempt (fun i => faults (i + 1)) ops (op s)

variable {ops : List (σ → σ)} {s : σ}

theorem attempt_invariant {P : σ → Prop} (hops : ∀ op ∈ ops, ∀ s, P s → P (op s)) (hs : P s)
    (faults : Nat → Bool) : P (attempt faults ops s).1 := by
  induction ops generalizing s faults with
  | nil => exact hs
  | cons op ops ih =>
    simp only [attempt]
    split
    · exact hs
    · simp_all

end Attempts

end Undo
