/-!
Deterministic machines: runs, guarded runs and histories.

A machine is a step function on states; what the environment decides is part of
the action. `Guarded` says that every step of a run is taken in a state where a
side condition holds, which is how a property of all runs is restricted to the
runs that avoid some situation. `Justified` says that every event of a history
is supported by the events before it.
-/
namespace Machine
universe u v
variable {σ : Type u} {α : Type v}

def run (step : σ → α → σ) (s : σ) (acts : List α) : σ := acts.foldl step s

section
variable (step : σ → α → σ) (s : σ)
include step s

@[simp] theorem run_nil : run step s [] = s := rfl

@[simp] theorem run_cons (a : α) (acts : List α) :
    run step s (a :: acts) = run step (step s a) acts := rfl

theorem run_append (as bs : List α) : run step s (as ++ bs) = run step (run step s as) bs := by
  simp [run]

end

theorem run_invariant {step : σ → α → σ} (I : σ → Prop)
    (hstep : ∀ s a, I s → I (step s a)) {s : σ} (h0 : I s) (acts : List α) :
    I (run step s acts) := by
  induction acts generalizing s with
  | nil => exact h0
  | cons a acts ih => exact ih (hstep s a h0)

def Guarded (step : σ → α → σ) (ok : σ → α → Prop) : σ → List α → Prop
  | _, [] => True
  | s, a :: acts => ok s a ∧ Guarded step ok (step s a) acts

theorem Guarded.invariant {step : σ → α → σ} {ok : σ → α → Prop} (I : σ → Prop)
    (hstep : ∀ s a, I s → ok s a → I (step s a)) {s : σ} (h0 : I s) {acts : List α}
    (hg : Guarded step ok s acts) : I (run step s acts) := by
  induction acts generalizing s with
  | nil => exact h0
  | cons a acts ih => exact ih (hstep s a h0 hg.1) hg.2

theorem invariant_iff_guarded {step : σ → α → σ} {ok : σ → α → Prop} (J I : σ → Prop)
    (hkeep : ∀ s a, J s → J (step s a)) (hstep : ∀ s a, J s → I s → (I (step s a) ↔ ok s a))
    {s : σ} (hj : J s) (h0 : I s) (acts : List α) :
    (∀ done, done <+: acts → I (run step s done)) ↔ Guarded step ok s acts := by
  induction acts generalizing s with
  | nil =>
    refine ⟨fun _ => trivial, fun _ done hdone => ?_⟩
    simp_all
  | cons a acts ih =>
    constructor
    · intro h
      have h1 : I (step s a) := h [a] (List.prefix_append [a] acts)
      refine ⟨(hstep s a hj h0).mp h1, (ih (hkeep s a hj) h1).mp fun done hdone => ?_⟩
      exact h (a :: done) (List.cons_prefix_cons.mpr ⟨rfl, hdone⟩)
    · rintro ⟨hok, hrest⟩ done hdone
      cases done with
      | nil => exact h0
      | cons b done =>
        obtain ⟨rfl, hrun⟩ := List.cons_prefix_cons.mp hdone
        exact (ih (hkeep s b hj) ((hstep s b hj h0).mpr hok)).mpr hrest done hrun

theorem guarded_append {step : σ → α → σ} {ok : σ → α → Prop} {s : σ}
    (as bs : List α) :
    Guarded step ok s (as ++ bs) ↔
      Guarded step ok s as ∧ Guarded step ok (run step s as) bs := by
  induction as generalizing s with
  | nil => simp [Guarded]
  | cons a as ih => simp [Guarded, ih, and_assoc]

def checks (step : σ → α → σ) (test : σ → α → Bool) : σ → List α → Bool
  | _, [] => true
  | s, a :: acts => test s a && checks step test (step s a) acts

theorem Guarded.of_checks_mem {step : σ → α → σ} {ok : σ → α → Prop} {test : σ → α → Bool}
    {s : σ} {acts : List α} (htest : ∀ s, ∀ a ∈ acts, test s a = true → ok s a)
    (h : checks step test s acts = true) : Guarded step ok s acts := by
  induction acts generalizing s with
  | nil => trivial
  | cons a acts ih =>
    rw [checks, Bool.and_eq_true] at h
    refine ⟨htest s a List.mem_cons_self h.1, ih ?_ h.2⟩
    simp_all

theorem Guarded.of_checks {step : σ → α → σ} {ok : σ → α → Prop} {test : σ → α → Bool}
    (htest : ∀ s a, test s a = true → ok s a) {s : σ} {acts : List α}
    (h : checks step test s acts = true) : Guarded step ok s acts :=
  Guarded.of_checks_mem (fun s a _ => htest s a) h

section History
variable {ε : Type u}

def Justified (P : List ε → ε → Prop) : List ε → Prop
  | [] => True
  | e :: older => P older e ∧ Justified P older

theorem Justified.suffix {P : List ε → ε → Prop} {newer older : List ε}
    (h : Justified P (newer ++ older)) : Justified P older := by
  induction newer with
  | nil => exact h
  | cons _ _ ih => exact ih h.2

theorem Justified.of_append {P : List ε → ε → Prop} {newer : List ε} {e : ε}
    {older : List ε} (h : Justified P (newer ++ e :: older)) : P older e :=
  h.suffix.1

theorem Justified.append {P : List ε → ε → Prop} {new old : List ε}
    (hnew : ∀ e ∈ new, ∀ older, P older e) (h : Justified P old) :
    Justified P (new ++ old) := by
  induction new with
  | nil => exact h
  | cons e new ih =>
    exact ⟨hnew e (by simp) _, ih fun e' he' => hnew e' (by simp [he'])⟩

end History
end Machine
