import Epdg.Gtpu.TcEncap
import Epdg.Lib.OnesComplement

/-!
The checksum of the outer IPv4 header.

`ip4_csum` adds the words as the host reads them. A receiver that reads them in network order gets
256 times the sum modulo `2^16 - 1`, so the header is right in both orders.
-/
namespace Epdg.Gtpu
open Bytes

def words (word : UInt8 → UInt8 → Nat) : Bytes → List Nat
  | b0 :: b1 :: rest => word b0 b1 :: words word rest
  | _ => []

def hostWord (lo hi : UInt8) : Nat := lo.toNat + 256 * hi.toNat

variable {header : Bytes}

theorem hostWord_le (lo hi : UInt8) : hostWord lo hi ≤ 65535 := by
  have hlo := lo.toNat_lt
  have hhi := hi.toNat_lt
  unfold hostWord
  omega

theorem be16_le (b0 b1 : UInt8) : be16 b0 b1 ≤ 65535 := by
  have h0 := b0.toNat_lt
  have h1 := b1.toNat_lt
  unfold be16
  omega

theorem words_le {word : UInt8 → UInt8 → Nat} (h : ∀ b0 b1, word b0 b1 ≤ 65535) (b : Bytes) :
    ∀ a ∈ words word b, a ≤ 65535 := by
  fun_induction words word b with
  | case1 b0 b1 rest ih => simp_all
  | case2 => exact fun a ha => by cases ha

theorem sum_words_le (b : Bytes) : (words hostWord b).sum ≤ 65535 * (b.length / 2) := by
  fun_induction words hostWord b with
  | case1 lo hi rest ih =>
    have := hostWord_le lo hi
    grind
  | case2 => simp

theorem toNat_sumWords (hlen : header.length ≤ 20) :
    (sumWords header).toNat = (words hostWord header).sum := by
  have hle := sum_words_le header
  fun_induction sumWords header with
  | case1 lo hi rest ih =>
    have hlo := lo.toNat_lt
    have hhi := hi.toNat_lt
    simp only [words, List.sum_cons, List.length_cons] at hle hlen ⊢
    have hrest := sum_words_le rest
    have hword : (lo.toUInt32 + hi.toUInt32 <<< 8).toNat = hostWord lo hi := by
      simp only [UInt32.toNat_add, UInt32.toNat_shiftLeft, UInt8.toNat_toUInt32, hostWord,
        UInt32.reduceToNat, Nat.reduceMod, Nat.shiftLeft_eq]
      omega
    rw [UInt32.toNat_add, hword, ih (by omega) hrest, Nat.mod_eq_of_lt (by omega)]
  | case2 b hb =>
    rw [words]
    · rfl
    · exact hb

theorem words_append (word : UInt8 → UInt8 → Nat) {a : Bytes} (h : a.length % 2 = 0) (b : Bytes) :
    words word (a ++ b) = words word a ++ words word b := by
  fun_induction words word a with
  | case1 b0 b1 rest ih =>
    rw [List.length_cons, List.length_cons, Nat.add_assoc, Nat.add_mod_right] at h
    rw [List.cons_append, List.cons_append, words, ih h, List.cons_append]
  | case2 a ha =>
    match a, ha with
    | [], _ => rfl
    | [_], _ => cases h
    | b0 :: b1 :: rest, ha => exact (ha b0 b1 rest rfl).elim

theorem sum_words_be16 (b : Bytes) :
    (words be16 b).sum % 65535 = 256 * (words hostWord b).sum % 65535 ∧
      (0 < (words be16 b).sum ↔ 0 < (words hostWord b).sum) := by
  fun_induction words hostWord b with
  | case1 b0 b1 rest ih =>
    simp only [words, List.sum_cons, hostWord, be16]
    omega
  | case2 b hb =>
    rw [words]
    · grind
    · exact hb

def storeCheck (header : Bytes) : Bytes := header.take 10 ++ ip4Csum header ++ header.drop 12

theorem toNat_shiftRight16 (v : UInt32) : (v >>> 16).toNat = v.toNat / 65536 :=
  (UInt32.toNat_shiftRight v 16).trans (Nat.shiftRight_eq_div_pow _ _)

theorem toNat_folds {sum once : UInt32} (h : sum.toNat ≤ 655350)
    (honce : once = (sum >>> 16) + (sum &&& 0xffff)) :
    once.toNat = sum.toNat / 65536 + sum.toNat % 65536 ∧
      (once + (once >>> 16)).toNat = once.toNat + once.toNat / 65536 := by
  have hand : (sum &&& 0xffff).toNat = sum.toNat % 65536 :=
    Nat.and_two_pow_sub_one_eq_mod sum.toNat 16
  have hfirst : once.toNat = sum.toNat / 65536 + sum.toNat % 65536 := by
    rw [honce, UInt32.toNat_add, hand, toNat_shiftRight16]
    omega
  refine ⟨hfirst, ?_⟩
  rw [UInt32.toNat_add, toNat_shiftRight16]
  omega

theorem ip4Csum_eq (hlen : header.length = 20) :
    ∃ lo hi, ip4Csum header = [lo, hi] ∧
      hostWord lo hi = 65535 - OnesComplement.sum (words hostWord header) := by
  have hsum := toNat_sumWords (Nat.le_of_eq hlen)
  have hle := sum_words_le header
  rw [hlen] at hle
  obtain ⟨honce, htwice⟩ := toNat_folds (hsum.trans_le hle) rfl
  refine ⟨_, _, rfl, ?_⟩
  generalize (sumWords header >>> 16) + (sumWords header &&& 0xffff) = once at honce htwice ⊢
  have hlow : (once.toNat + once.toNat / 65536) % 65536 =
      OnesComplement.sum (words hostWord header) :=
    OnesComplement.two_folds (words_le hostWord_le header) hle (hsum ▸ honce)
  rw [hostWord, UInt32.toNat_toUInt8, UInt32.toNat_toUInt8, UInt32.toNat_shiftRight,
    UInt32.toNat_not, htwice, ← hlow]
  simp only [UInt32.reduceToNat, Nat.reduceMod, Nat.reducePow, Nat.shiftRight_eq_div_pow,
    UInt32.size]
  omega

section
variable (hlen : header.length = 20) (hcheck : (header.drop 10).take 2 = [0, 0])
include hlen hcheck

theorem sum_words_storeCheck :
    (words hostWord (storeCheck header)).sum = (words hostWord header).sum +
      (65535 - OnesComplement.sum (words hostWord header)) := by
  obtain ⟨lo, hi, hcsum, hword⟩ := ip4Csum_eq hlen
  have hfront : (header.take 10).length % 2 = 0 := by simp [hlen]
  have hsplit : header.take 10 ++ ([0, 0] ++ header.drop 12) = header := by
    rw [← hcheck, ← List.drop_drop (i := 2) (j := 10), List.take_append_drop,
      List.take_append_drop]
  have hold : (words hostWord header).sum =
      (words hostWord (header.take 10)).sum + (words hostWord (header.drop 12)).sum := by
    rw [← List.sum_append, ← congrArg (words hostWord) hsplit, words_append _ hfront]
    simp [words, hostWord]
  rw [storeCheck, hcsum, List.append_assoc, words_append _ hfront, List.sum_append, hold, ← hword,
    List.cons_append, List.cons_append, words, List.sum_cons, List.nil_append]
  omega

theorem sum_storeCheck :
    OnesComplement.sum (words hostWord (storeCheck header)) = 0xffff ∧
      OnesComplement.sum (words be16 (storeCheck header)) = 0xffff := by
  have hspec := OnesComplement.sum_spec (words_le hostWord_le header)
  have hstored := sum_words_storeCheck hlen hcheck
  have hbe := sum_words_be16 (storeCheck header)
  exact ⟨OnesComplement.sum_eq_ones (words_le hostWord_le _) (by omega) (by omega),
    OnesComplement.sum_eq_ones (words_le be16_le _) (by omega) (by omega)⟩

end

/-- For every header without options whose check field is 0, the accumulator and the two folds of
`ip4_csum` lose no carry, and with its result the words add up to all ones in one's complement, in
the order of the host and in that of the network. -/
theorem ip4_csum_completes (header : Bytes) (hlen : header.length = 20)
    (hcheck : (header.drop 10).take 2 = [0, 0]) :
    let sum := sumWords header
    let once := (sum >>> 16) + (sum &&& 0xffff)
    sum.toNat = (words hostWord header).sum ∧
      once.toNat = sum.toNat / 65536 + sum.toNat % 65536 ∧
      (once + (once >>> 16)).toNat = once.toNat + once.toNat / 65536 ∧
      OnesComplement.sum (words hostWord (storeCheck header)) = 0xffff ∧
      OnesComplement.sum (words be16 (storeCheck header)) = 0xffff := by
  intro sum once
  have hsum := toNat_sumWords (Nat.le_of_eq hlen)
  have hle := sum_words_le header
  rw [hlen] at hle
  obtain ⟨honce, htwice⟩ := toNat_folds (hsum.trans_le hle) (rfl : once = _)
  exact ⟨hsum, honce, htwice, sum_storeCheck hlen hcheck⟩

def uncheckedHeader : Bytes :=
  [0x45, 0, 0, 56, 0, 0, 0x40, 0, 64, 17, 0, 0, 192, 0, 2, 1, 192, 0, 2, 2]

theorem ip4_csum_completes_outer :
    OnesComplement.sum (words be16 (storeCheck uncheckedHeader)) = 0xffff :=
  (ip4_csum_completes uncheckedHeader rfl rfl).2.2.2.2

end Epdg.Gtpu
