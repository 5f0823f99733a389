import Mathlib.Data.List.Basic

/-!
Fixed-window rate limiters.

A window starts with the first request after the last one has run out, and admits a number of
requests. Windows start at requests, so over an interval of time they may lie anywhere: what bounds
the requests that are admitted from a state on is its budget, the rest of the window and a whole
window for every one that can still start.
-/
namespace FixedWindow

structure State where
  start : Option Nat := none
  count : Nat := 0
  deriving DecidableEq, Repr

variable (limit len : Nat)

def State.restart (s : State) (now : Nat) : State :=
  match s.start with
  | none => ⟨some now, 0⟩
  | some t => if len ≤ now - t then ⟨some now, 0⟩ else s

def grant (s : State) (now : Nat) : State × Bool :=
  let s := s.restart len now
  if limit ≤ s.count then (s, false) else ({ s with count := s.count + 1 }, true)

def run : State → List Nat → List (Nat × Bool)
  | _, [] => []
  | s, t :: ts => (t, (grant limit len s t).2) :: run (grant limit len s t).1 ts

def windows (time : Nat) : Nat := (time + (len - 1)) / len

def State.budget (s : State) (a b : Nat) : Nat :=
  match s.start with
  | none => limit * windows len (b - a)
  | some t => (limit - s.count) + limit * windows len (b - max a (t + len))

section Windows
variable {len}

theorem windows_mono {x y : Nat} (h : x ≤ y) : windows len x ≤ windows len y :=
  Nat.div_le_div_right (by omega)

theorem windows_sub (hlen : 0 < len) {x : Nat} (hx : 0 < x) :
    windows len (x - len) + 1 ≤ windows len x := by
  have hnext : windows len (x - len) + 1 = (x - len + (len - 1) + len) / len := by
    rw [windows, Nat.add_div_right _ hlen]
  rw [hnext]
  rcases Nat.le_total x len with hle | hle
  · -- a single window starts
    have hone : (x - len + (len - 1) + len) / len = 1 := by
      rw [Nat.div_eq_iff hlen]
      omega
    rw [hone, windows, Nat.le_div_iff_mul_le hlen]
    omega
  · exact Nat.div_le_div_right (by omega)

end Windows

section Runs
variable {limit len} {s : State}

theorem mem_run {ts : List Nat} {c : Nat × Bool} (h : c ∈ run limit len s ts) : c.1 ∈ ts := by
  induction ts generalizing s with
  | nil => cases h
  | cons t ts ih =>
    rcases List.mem_cons.mp h with rfl | h
    · grind
    · grind

theorem budget_restart (hlen : 0 < len) {a b t : Nat} (ha : a ≤ t) (hb : t < b) :
    (s.restart len t).budget limit len t b ≤ s.budget limit len a b := by
  have hfresh : State.budget limit len ⟨some t, 0⟩ t b ≤ limit * windows len (b - t) := by
    have hsub := windows_sub hlen (Nat.sub_pos_of_lt hb)
    calc limit - 0 + limit * windows len (b - max t (t + len))
        = limit * (windows len (b - t - len) + 1) := by grind
      _ ≤ limit * windows len (b - t) := Nat.mul_le_mul_left _ hsub
  unfold State.restart
  cases hstart : s.start with
  | none =>
    simp only [State.budget, hstart]
    exact Nat.le_trans hfresh (Nat.mul_le_mul_left _ (windows_mono (by omega)))
  | some t0 =>
    have hold : s.budget limit len a b =
        (limit - s.count) + limit * windows len (b - max a (t0 + len)) := by
      simp only [State.budget, hstart]
    rw [hold]
    dsimp only
    split
    · refine Nat.le_trans hfresh (Nat.le_trans ?_ (Nat.le_add_left _ _))
      exact Nat.mul_le_mul_left _ (windows_mono (by omega))
    · simp only [State.budget, hstart]
      grind

theorem restart_start (len : Nat) (s : State) (now : Nat) :
    ∃ t, (s.restart len now).start = some t := by
  unfold State.restart
  cases hstart : s.start with
  | none => exact ⟨now, rfl⟩
  | some t => grind

theorem budget_grant (hlen : 0 < len) {a b t : Nat} (ha : a ≤ t) (hb : t < b) :
    (if (grant limit len s t).2 then 1 else 0) + (grant limit len s t).1.budget limit len t b ≤
      s.budget limit len a b := by
  refine Nat.le_trans ?_ (budget_restart hlen ha hb)
  obtain ⟨t0, hstart⟩ := restart_start len s t
  unfold grant
  dsimp only
  split
  · simp
  simp only [State.budget, hstart, if_true]
  omega

theorem countP_run_le_budget (hlen : 0 < len) {a b : Nat} {ts : List Nat}
    (hsorted : ts.Pairwise (· ≤ ·)) (ha : ∀ t ∈ ts, a ≤ t) :
    (run limit len s ts).countP (fun c => c.2 && decide (c.1 < b)) ≤ s.budget limit len a b := by
  induction ts generalizing s a with
  | nil => exact Nat.zero_le _
  | cons t ts ih =>
    obtain ⟨hle, hsorted⟩ := List.pairwise_cons.mp hsorted
    by_cases hb : t < b
    · have hstep : _ ≤ s.budget limit len a b := budget_grant hlen (ha t List.mem_cons_self) hb
      rw [run, List.countP_cons]
      grind
    -- nothing counts any more
    have hnone : (run limit len s (t :: ts)).countP (fun c => c.2 && decide (c.1 < b)) = 0 := by
      rw [List.countP_eq_zero]
      intro c hc
      have hlate : b ≤ c.1 := by
        rcases List.mem_cons.mp (mem_run hc) with heq | hmem
        · omega
        · grind
      simp_all
    grind

theorem countP_run_interval (hlen : 0 < len) (a b : Nat) {ts : List Nat}
    (hsorted : ts.Pairwise (· ≤ ·)) :
    (run limit len s ts).countP (fun c => c.2 && (decide (a ≤ c.1) && decide (c.1 < b))) ≤
      limit * (windows len (b - a) + 1) := by
  induction ts generalizing s with
  | nil => exact Nat.zero_le _
  | cons t ts ih =>
    obtain ⟨hle, hsorted'⟩ := List.pairwise_cons.mp hsorted
    by_cases ha : a ≤ t
    · have hall : ∀ t' ∈ t :: ts, a ≤ t' := by grind
      have heq : (run limit len s (t :: ts)).countP
            (fun c => c.2 && (decide (a ≤ c.1) && decide (c.1 < b))) =
          (run limit len s (t :: ts)).countP (fun c => c.2 && decide (c.1 < b)) := by
        refine List.countP_congr fun c hc => ?_
        simp [hall c.1 (mem_run hc)]
      rw [heq]
      refine Nat.le_trans (countP_run_le_budget hlen hsorted hall) ?_
      unfold State.budget
      split
      · grind
      rename_i t0 _
      have hmono : limit * windows len (b - max a (t0 + len)) ≤ limit * windows len (b - a) :=
        Nat.mul_le_mul_left _ (windows_mono (by omega))
      grind
    · rw [run, List.countP_cons]
      grind

theorem start_of_restart (hlen : 0 < len) {now t : Nat}
    (hstart : ∀ t0, s.start = some t0 → t0 ≤ now) (h : (s.restart len now).start = some t) :
    t ≤ now ∧ now < t + len := by
  unfold State.restart at h
  grind

theorem grant_start (s : State) (now : Nat) :
    (grant limit len s now).1.start = (s.restart len now).start := by
  unfold grant
  grind

def Counted (s : State) (done : List (Nat × Bool)) : Prop :=
  ∀ t, s.start = some t → s.count ≤ done.countP fun c => c.2 && decide (t ≤ c.1)

theorem counted_restart {done : List (Nat × Bool)} (h : Counted s done) (now : Nat) :
    Counted (s.restart len now) done := by
  unfold State.restart
  cases s.start with
  | none => exact fun t _ => Nat.zero_le _
  | some t0 =>
    dsimp only
    split
    · exact fun t _ => Nat.zero_le _
    · exact h

theorem counted_grant (hlen : 0 < len) {done : List (Nat × Bool)} (h : Counted s done) {now : Nat}
    (hstart : ∀ t, s.start = some t → t ≤ now) :
    Counted (grant limit len s now).1 (done ++ [(now, (grant limit len s now).2)]) := by
  intro t ht
  rw [grant_start] at ht
  have hcount : (s.restart len now).count ≤ done.countP fun c => c.2 && decide (t ≤ c.1) :=
    counted_restart h now t ht
  have hle : t ≤ now := (start_of_restart hlen hstart ht).1
  rw [List.countP_append]
  unfold grant
  grind

theorem refused_grant (hlen : 0 < len) {done : List (Nat × Bool)} (h : Counted s done) {now : Nat}
    (hstart : ∀ t, s.start = some t → t ≤ now) (hdone : ∀ c ∈ done, c.1 ≤ now)
    (hrefused : (grant limit len s now).2 = false) :
    limit ≤ done.countP fun c => c.2 && (decide (now < c.1 + len) && decide (c.1 ≤ now)) := by
  obtain ⟨t, ht⟩ := restart_start len s now
  obtain ⟨-, hin⟩ := start_of_restart hlen hstart ht
  have hfull : limit ≤ (s.restart len now).count := by
    unfold grant at hrefused
    grind
  refine Nat.le_trans hfull (Nat.le_trans (counted_restart h now t ht) ?_)
  refine List.countP_mono_left fun c hc hcounted => ?_
  grind

theorem refused_of_run (hlen : 0 < len) {done before after : List (Nat × Bool)} {ts : List Nat}
    {t : Nat} (hcounted : Counted s done)
    (hstart : ∀ t0, s.start = some t0 → ∀ t ∈ ts, t0 ≤ t) (hsorted : ts.Pairwise (· ≤ ·))
    (hdone : ∀ c ∈ done, ∀ t ∈ ts, c.1 ≤ t)
    (h : run limit len s ts = before ++ (t, false) :: after) :
    limit ≤ (done ++ before).countP fun c =>
      c.2 && (decide (t < c.1 + len) && decide (c.1 ≤ t)) := by
  induction ts generalizing s done before with
  | nil => simp [run] at h
  | cons now ts ih =>
    obtain ⟨hle, hsorted⟩ := List.pairwise_cons.mp hsorted
    have hstart' : ∀ t0, s.start = some t0 → t0 ≤ now :=
      fun t0 h0 => hstart t0 h0 now List.mem_cons_self
    rw [run] at h
    cases before with
    | nil =>
      obtain ⟨hhead, -⟩ := List.cons.inj h
      obtain ⟨rfl, hrefused⟩ := Prod.mk.inj hhead
      rw [List.append_nil]
      exact refused_grant hlen hcounted hstart' (fun c hc => hdone c hc now List.mem_cons_self)
        hrefused
    | cons c before =>
      obtain ⟨rfl, htail⟩ := List.cons.inj h
      rw [List.append_cons]
      refine ih (counted_grant hlen hcounted hstart') ?_ hsorted ?_ htail
      · intro t0 h0 t' ht'
        rw [grant_start] at h0
        exact Nat.le_trans (start_of_restart hlen hstart' h0).1 (hle t' ht')
      · grind

end Runs
end FixedWindow
