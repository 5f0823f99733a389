import Epdg.Gtpu.PathStates
import Mathlib.Algebra.Order.Floor.Semiring
import Mathlib.Data.List.Induction
import Mathlib.Data.Rat.Floor

/-!
The Error Indications stay within their rate, and the state of a path counts the Echo Requests that
its peer has left unanswered.
-/
namespace Epdg.Gtpu
variable {later now sent : Nat} {ps : PathState}

section Limiter

def inSeconds (time : Nat) : ℚ := time / timeSecond

def allowedWithin (start length : ℚ) (call : Nat × Bool) : Bool :=
  call.2 && (decide (start ≤ inSeconds call.1) && decide (inSeconds call.1 < start + length))

def allowedBefore (time : Nat) (call : Nat × Bool) : Bool :=
  call.2 && (decide (time < call.1 + timeSecond) && decide (call.1 ≤ time))

theorem le_inSeconds_iff (x : ℚ) (time : Nat) : x ≤ inSeconds time ↔ ⌈x * timeSecond⌉₊ ≤ time := by
  have hpos : (0 : ℚ) < timeSecond := by simp [timeSecond]
  rw [inSeconds, le_div_iff₀ hpos, Nat.ceil_le]

theorem windows_le_ceil (start length : ℚ) :
    FixedWindow.windows timeSecond
        (⌈(start + length) * timeSecond⌉₊ - ⌈start * timeSecond⌉₊) ≤ ⌈length⌉₊ := by
  have hlen : ⌈length * timeSecond⌉₊ ≤ ⌈length⌉₊ * timeSecond := by
    rw [Nat.ceil_le, Nat.cast_mul]
    exact mul_le_mul_of_nonneg_right (Nat.le_ceil length) (Nat.cast_nonneg _)
  have hsplit : ⌈(start + length) * timeSecond⌉₊ ≤
      ⌈start * timeSecond⌉₊ + ⌈length * timeSecond⌉₊ := by
    rw [add_mul]
    exact Nat.ceil_add_le _ _
  have hpos : 0 < timeSecond := by decide
  rw [FixedWindow.windows, Nat.div_le_iff_le_mul hpos]
  omega

theorem error_indications_limited (times : List Nat) (hsorted : times.Pairwise (· ≤ ·)) :
    (∀ start length : ℚ,
      (ErrorIndicationLimiter.answers {} times).countP (allowedWithin start length) ≤
        50 * (⌈length⌉₊ + 1)) ∧
    ∀ time before after,
      ErrorIndicationLimiter.answers {} times = before ++ (time, false) :: after →
        50 ≤ before.countP (allowedBefore time) := by
  have hpos : 0 < timeSecond := by decide
  rw [ErrorIndicationLimiter.answers_eq_run]
  refine ⟨fun start length => ?_, fun time before after hrun => ?_⟩
  · have hsame : allowedWithin start length = fun c : Nat × Bool =>
        c.2 && (decide (⌈start * timeSecond⌉₊ ≤ c.1) &&
          decide (c.1 < ⌈(start + length) * timeSecond⌉₊)) := by
      funext c
      simp only [allowedWithin, le_inSeconds_iff, ← not_le]
    rw [hsame]
    refine (FixedWindow.countP_run_interval hpos _ _ hsorted).trans ?_
    exact Nat.mul_le_mul_left _ (Nat.succ_le_succ (windows_le_ceil start length))
  · -- nothing was answered before the first call
    have hcounted : FixedWindow.Counted (ErrorIndicationLimiter.window {}) [] :=
      fun t ht => by cases ht
    exact FixedWindow.refused_of_run hpos hcounted (fun t ht => by cases ht) hsorted
      (fun c hc => by cases hc) hrun

/-- Of 51 calls at one time the last is refused. -/
theorem error_indications_limited_burst :
    (ErrorIndicationLimiter.answers {} (List.replicate 51 7)).countP (allowedWithin 0 1) ≤
        50 * (⌈(1 : ℚ)⌉₊ + 1) ∧
      ErrorIndicationLimiter.answers {} (List.replicate 51 7) =
        List.replicate 50 (7, true) ++ (7, false) :: [] ∧
      50 ≤ (List.replicate 50 (7, true)).countP (allowedBefore 7) := by
  have hsorted : (List.replicate 51 7).Pairwise (· ≤ ·) := by decide
  have hrun : ErrorIndicationLimiter.answers {} (List.replicate 51 7) =
      List.replicate 50 (7, true) ++ (7, false) :: [] := by decide
  obtain ⟨hwithin, hrefused⟩ := error_indications_limited (List.replicate 51 7) hsorted
  exact ⟨hwithin 0 1, hrun, hrefused 7 _ [] hrun⟩

end Limiter

section Echo

def sentSince (peer : IP) (events : List EchoEvent) : Nat :=
  ((events.filter fun e => e.peer = peer).reverse.takeWhile EchoEvent.isRequest).length

def Paths.notAlive (m : Paths) (peer : IP) : Bool :=
  (m.pathsByPeer.lookup peer).any fun ps => !ps.alive

def Paths.missedEchoes (m : Paths) (peer : IP) : Nat :=
  ((m.pathsByPeer.lookup peer).map PathState.missedEchoes).getD 0

theorem sentSince_snoc (peer : IP) (events : List EchoEvent) (e : EchoEvent) :
    sentSince peer (events ++ [e]) =
      if e.peer = peer then if e.isRequest then sentSince peer events + 1 else 0
      else sentSince peer events := by
  unfold sentSince
  rw [List.filter_append, List.reverse_append]
  by_cases hpeer : e.peer = peer
  · cases hkind : e.isRequest <;> simp [hpeer, hkind]
  · simp [hpeer]

structure Tracks (ps : PathState) (sent now : Nat) : Prop where
  sentBefore : ∀ t ∈ ps.lastSentAt, t < now
  responseBefore : ∀ t ∈ ps.lastResponseAt, t < now
  unanswered : ps.unanswered = decide (0 < sent)
  missed : ps.missedEchoes = sent - 1
  alive : ps.alive = decide (sent < 4)

theorem unanswered_send (h : ∀ t ∈ ps.lastResponseAt, t < now) (missed : Nat) (alive : Bool) :
    PathState.unanswered
      { ps with lastSentAt := some now, missedEchoes := missed, alive := alive } = true := by
  cases hresponse : ps.lastResponseAt with
  | none => simp [PathState.unanswered]
  | some t =>
    simp only [PathState.unanswered, Option.any_some, Option.all_some]
    simp_all

theorem tracks_send (h : Tracks ps sent now) (hlater : now < later)
    : Tracks (ps.send now) (sent + 1) later := by
  have hsentBefore : ∀ t ∈ some now, t < later := by simp_all
  have hresponseBefore : ∀ t ∈ ps.lastResponseAt, t < later :=
    fun t ht => Nat.lt_trans (h.responseBefore t ht) hlater
  have hpending := h.unanswered
  have hmissed := h.missed
  unfold PathState.send
  cases hps : ps.unanswered with
  | false =>
    -- the first request since the last response
    have hzero : sent = 0 := by simpa [hps] using hpending
    subst hzero
    exact ⟨hsentBefore, hresponseBefore, unanswered_send h.responseBefore _ _, hmissed, h.alive⟩
  | true =>
    have hpos : 0 < sent := by simpa [hps] using hpending
    rw [if_pos rfl]
    refine ⟨hsentBefore, hresponseBefore, unanswered_send h.responseBefore _ _, ?_, ?_⟩
    · dsimp only
      omega
    · have halive := h.alive
      grind

theorem tracks_respond (h : Tracks ps sent now) (hlater : now < later)
    : Tracks (ps.respond now) 0 later where
  sentBefore t ht := Nat.lt_trans (h.sentBefore t ht) hlater
  responseBefore t ht := by
    cases ht
    exact hlater
  unanswered := by
    cases hsent : ps.lastSentAt with
    | none => simp [PathState.unanswered, PathState.respond, hsent]
    | some t =>
      have hbefore := h.sentBefore t hsent
      simp only [PathState.unanswered, PathState.respond, hsent, Option.any_some, Option.all_some]
      grind
  missed := rfl
  alive := rfl

def Paths.record (m : Paths) (peer : IP) : PathState :=
  (m.pathsByPeer.lookup peer).getD { alive := true }

theorem record_echo (m : Paths) (e : EchoEvent) (peer : IP) :
    (m.echo e).record peer =
      if e.peer = peer then
        if e.isRequest then (m.record peer).send e.time else (m.record peer).respond e.time
      else m.record peer := by
  by_cases hpeer : e.peer = peer
  · subst hpeer
    rw [if_pos rfl]
    cases e with
    | request p t =>
      simp [Paths.record, Paths.echo, Paths.sendEchoRequest, EchoEvent.peer, EchoEvent.isRequest,
        EchoEvent.time]
    | response p t =>
      -- a response that starts a record marks it alive
      cases hrecord : m.pathsByPeer.lookup p <;>
        simp [Paths.record, Paths.echo, Paths.handleEchoResponse, EchoEvent.peer,
          EchoEvent.isRequest, EchoEvent.time, PathState.respond, hrecord]
  · rw [if_neg hpeer]
    have hne : peer ≠ e.peer := fun heq => hpeer heq.symm
    cases e with
    | request p t =>
      exact congrArg (Option.getD · _) (AList.lookup_insert_ne hne)
    | response p t =>
      exact congrArg (Option.getD · _) (AList.lookup_insert_ne hne)

theorem tracks_echo {m : Paths} {e : EchoEvent} {peer : IP} (h : Tracks (m.record peer) sent e.time)
    (hlater : e.time < later) : Tracks ((m.echo e).record peer)
      (if e.peer = peer then if e.isRequest then sent + 1 else 0 else sent) later := by
  rw [record_echo]
  by_cases hpeer : e.peer = peer
  · rw [if_pos hpeer, if_pos hpeer]
    cases e.isRequest with
    | true => exact tracks_send h hlater
    | false => exact tracks_respond h hlater
  · rw [if_neg hpeer, if_neg hpeer]
    exact ⟨fun t ht => Nat.lt_trans (h.sentBefore t ht) hlater,
      fun t ht => Nat.lt_trans (h.responseBefore t ht) hlater, h.unanswered, h.missed, h.alive⟩

theorem tracks_afterEchoes (peer : IP) {events : List EchoEvent}
    (hincreasing : events.Pairwise fun e e' => e.time < e'.time)
    (hnow : ∀ e ∈ events, e.time < now) :
    Tracks ((Paths.afterEchoes events).record peer) (sentSince peer events) now := by
  induction events using List.reverseRecOn generalizing now with
  | nil => exact ⟨fun t ht => (nomatch ht), fun t ht => (nomatch ht), rfl, rfl, rfl⟩
  | append_singleton events e ih =>
    obtain ⟨hincreasing, -, hlast⟩ := List.pairwise_append.mp hincreasing
    rw [Paths.afterEchoes, Machine.run_append, sentSince_snoc]
    have hbefore := ih hincreasing fun e' he' => hlast e' he' e (List.mem_singleton_self e)
    exact tracks_echo hbefore (hnow e (List.mem_append_right events (List.mem_singleton_self e)))

theorem exists_later (events : List EchoEvent) : ∃ now, ∀ e ∈ events, e.time < now := by
  induction events with
  | nil => exact ⟨0, fun e he => nomatch he⟩
  | cons e events ih =>
    obtain ⟨now, hnow⟩ := ih
    refine ⟨max now (e.time + 1), fun e' he' => ?_⟩
    grind

theorem path_counts_unanswered (events : List EchoEvent)
    (hincreasing : events.Pairwise fun e e' => e.time < e'.time) (peer : IP) :
    ((Paths.afterEchoes events).notAlive peer = true ↔ 4 ≤ sentSince peer events) ∧
      (Paths.afterEchoes events).missedEchoes peer = sentSince peer events - 1 := by
  obtain ⟨now, hnow⟩ := exists_later events
  have htracks := tracks_afterEchoes peer hincreasing hnow
  have halive := htracks.alive
  have hmissed := htracks.missed
  unfold Paths.record at halive hmissed
  unfold Paths.notAlive Paths.missedEchoes
  cases hrecord : (Paths.afterEchoes events).pathsByPeer.lookup peer with
  | none =>
    rw [hrecord] at halive hmissed
    refine ⟨iff_of_false (fun h => nomatch h) ?_, hmissed⟩
    exact Nat.not_le.mpr (of_decide_eq_true halive.symm)
  | some ps =>
    rw [hrecord] at halive hmissed
    refine ⟨?_, hmissed⟩
    simp only [Option.any_some, Option.getD_some] at halive ⊢
    rw [halive, Bool.not_eq_true', decide_eq_false_iff_not, Nat.not_lt]

def silentPeer : List EchoEvent :=
  [.response (.v4 1) 1, .request (.v4 1) 2, .request (.v4 2) 3, .request (.v4 1) 4,
    .response (.v4 2) 5, .request (.v4 1) 6, .request (.v4 1) 7]

theorem silent_peer_not_alive :
    (silentPeer.Pairwise fun e e' => e.time < e'.time) ∧
      ((Paths.afterEchoes silentPeer).notAlive (.v4 1) = true ↔ 4 ≤ sentSince (.v4 1) silentPeer) ∧
      (Paths.afterEchoes silentPeer).missedEchoes (.v4 1) = 3 := by
  have hincreasing : silentPeer.Pairwise fun e e' => e.time < e'.time := by decide
  exact ⟨hincreasing, path_counts_unanswered silentPeer hincreasing (.v4 1)⟩

end Echo

end Epdg.Gtpu
