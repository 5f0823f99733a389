import Epdg.Lib.Turns
import Epdg.S2b.Sequence

/-!
The sequence numbers go round from 1 to the cap, whatever the order in which the callers run.

A swap succeeds only on the value that its caller has computed with, so each one moves the counter on
by one in the round. What a caller has loaded may be old; it is never used then.
-/
namespace Epdg.S2b

def effectiveCap (max : UInt32) : Nat :=
  if max = 0 ∨ max > maxSequence then 0xffffff else max.toNat

variable {a : SequenceAllocator} {cur : UInt32}

theorem newSequenceAllocatorWithMax_cap (max : UInt32) (draw : Option UInt32) :
    let a := newSequenceAllocatorWithMax max draw
    a.cap ≠ 0 ∧ a.cap.toNat = effectiveCap max ∧ effectiveCap max ≤ 0xffffff := by
  simp only [newSequenceAllocatorWithMax, effectiveCap]
  split
  · decide
  · rename_i h
    obtain ⟨hne, hle⟩ := not_or.mp h
    exact ⟨hne, rfl, UInt32.le_iff_toNat_le.mp (UInt32.not_lt.mp hle)⟩

theorem randomSequenceMax_range {max : UInt32} (hmax : max ≠ 0) (draw : Option UInt32) :
    1 ≤ (randomSequenceMax max draw).toNat ∧ (randomSequenceMax max draw).toNat ≤ max.toNat := by
  have hpos : 1 ≤ max.toNat :=
    Nat.one_le_iff_ne_zero.mpr fun h => hmax (UInt32.toNat_inj.mp h)
  cases draw with
  | none => exact ⟨Nat.le_refl 1, hpos⟩
  | some b =>
    simp only [randomSequenceMax]
    split
    · exact ⟨Nat.le_refl 1, hpos⟩
    · rename_i h
      refine ⟨Nat.one_le_iff_ne_zero.mpr fun h0 => h (UInt32.toNat_inj.mp h0), ?_⟩
      rw [UInt32.toNat_and]
      exact Nat.and_le_right

theorem following_eq_next (hcap : a.cap ≠ 0) (hsmall : a.cap.toNat ≤ 0xffffff)
    (hle : cur.toNat ≤ a.cap.toNat) :
    (a.following cur).toNat = Turns.next a.cap.toNat cur.toNat := by
  have hadd : (cur + 1).toNat = cur.toNat + 1 := by
    rw [UInt32.toNat_add]
    grind
  have hne : cur + 1 ≠ 0 := fun h => by simp_all
  simp only [SequenceAllocator.following, if_neg hcap, hne, false_or, Turns.next]
  split
  · rename_i hgt
    have : a.cap.toNat < cur.toNat + 1 := hadd ▸ UInt32.lt_iff_toNat_lt.mp hgt
    rw [show cur.toNat = a.cap.toNat by omega, Nat.mod_self]
    rfl
  · rename_i hgt
    have : cur.toNat + 1 ≤ a.cap.toNat :=
      hadd ▸ UInt32.le_iff_toNat_le.mp (UInt32.not_lt.mp hgt)
    rw [hadd, Nat.mod_eq_of_lt (by omega)]

structure InTurn (n start : Nat) (c : Callers) : Prop where
  cap : c.allocator.cap ≠ 0 ∧ c.allocator.cap.toNat = n ∧ n ≤ 0xffffff
  seq : c.allocator.seq.toNat = (start + c.returned.length) % n + 1
  numbers : c.numbers = Turns.values n (start + 1) c.returned.length

theorem InTurn.step {n start : Nat} {c : Callers} (h : InTurn n start c) (s : CallerStep) :
    InTurn n start (c.step s) := by
  obtain ⟨⟨hcap, hn, hle⟩, hseq, hnum⟩ := h
  have hpos : 0 < n := hn ▸ Nat.pos_of_ne_zero fun h0 => hcap (UInt32.toNat_inj.mp h0)
  cases s with
  | load i => exact ⟨⟨hcap, hn, hle⟩, hseq, hnum⟩
  | compareAndSwap i =>
    simp only [Callers.step]
    split
    · exact ⟨⟨hcap, hn, hle⟩, hseq, hnum⟩
    split
    · rename_i cur _ heq
      have heq' : c.allocator.seq = cur := heq
      have hlast := Nat.mod_lt (start + c.returned.length) hpos
      have hnext : (c.allocator.following cur).toNat =
          (start + (c.returned.length + 1)) % n + 1 := by
        rw [← heq', following_eq_next hcap (by omega) (by omega), hseq, hn,
          Turns.next_turn]
      refine ⟨⟨hcap, hn, hle⟩, ?_, ?_⟩
      · simpa using hnext
      · have hout : (c.returned ++ [(i, c.allocator.following cur)]).map (fun r => r.2.toNat) =
            c.numbers ++ [(c.allocator.following cur).toNat] := by simp [Callers.numbers]
        refine hout.trans ?_
        rw [hnum, hnext, List.length_append, List.length_singleton, Turns.values_succ,
          Nat.add_right_comm, Nat.add_assoc]
    · exact ⟨⟨hcap, hn, hle⟩, hseq, hnum⟩

/-- For every configured maximum and random draw, and however the loads and swaps of the callers
interleave, the numbers returned are in the range, and among as many successive ones as there are
in it none comes twice. -/
theorem sequence_numbers_distinct (max : UInt32) (draw : Option UInt32) (steps : List CallerStep) :
    let numbers := (Machine.run Callers.step (Callers.start max draw) steps).numbers
    (∀ v ∈ numbers, 1 ≤ v ∧ v ≤ effectiveCap max) ∧
      ∀ window, window <:+: numbers → window.length ≤ effectiveCap max → window.Nodup := by
  obtain ⟨hcap, hn, hle⟩ := newSequenceAllocatorWithMax_cap max draw
  obtain ⟨h1, hmax⟩ := randomSequenceMax_range hcap draw
  have hstart : InTurn (effectiveCap max) ((newSequenceAllocatorWithMax max draw).seq.toNat - 1)
      (Callers.start max draw) := by
    refine ⟨⟨hcap, hn, hle⟩, ?_, rfl⟩
    have hseq : 1 ≤ (newSequenceAllocatorWithMax max draw).seq.toNat ∧
        (newSequenceAllocatorWithMax max draw).seq.toNat ≤ effectiveCap max := ⟨h1, hn ▸ hmax⟩
    rw [show (Callers.start max draw).returned.length = 0 from rfl, Nat.add_zero,
      Nat.mod_eq_of_lt (by omega)]
    exact (Nat.sub_add_cancel hseq.1).symm
  have hrun := Machine.run_invariant (InTurn _ _) (fun _ s h => h.step s) hstart steps
  have hpos : 0 < effectiveCap max := by omega
  intro numbers
  rw [show numbers = _ from hrun.numbers]
  exact ⟨fun v hv => Turns.mem_values_le hpos hv, fun window => Turns.nodup_window⟩

end Epdg.S2b
