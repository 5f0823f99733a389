import Mathlib

/-!
Sums of 16-bit words in one's complement: a carry out of the word is added at its other end.

Such a sum is the natural one modulo `2^16 - 1`, and of the two words that stand for zero it takes
the one of all ones unless every summand is zero.
-/
namespace OnesComplement

def add (a b : Nat) : Nat := (a + b) % 65536 + (a + b) / 65536

def sum (words : List Nat) : Nat := words.foldr add 0

variable {a b : Nat} {words : List Nat}

theorem add_spec (ha : a ≤ 65535) (hb : b ≤ 65535) :
    add a b ≤ 65535 ∧ add a b % 65535 = (a + b) % 65535 ∧ (0 < add a b ↔ 0 < a + b) := by
  unfold add
  omega

section
variable (h : ∀ a ∈ words, a ≤ 65535)
include h

theorem sum_spec :
    sum words ≤ 65535 ∧ sum words % 65535 = words.sum % 65535 ∧
      (0 < sum words ↔ 0 < words.sum) := by
  induction words with
  | nil => exact ⟨Nat.zero_le _, rfl, Iff.rfl⟩
  | cons a words ih =>
    obtain ⟨hle, hmod, hpos⟩ := ih fun b hb => h b (List.mem_cons_of_mem a hb)
    obtain ⟨hle', hmod', hpos'⟩ := add_spec (h a List.mem_cons_self) hle
    have hcons : sum (a :: words) = add a (sum words) := rfl
    grind

theorem sum_eq_ones (hmod : words.sum % 65535 = 0) (hpos : 0 < words.sum) : sum words = 65535 := by
  have := sum_spec h
  omega

theorem two_folds {once : Nat} (hle : words.sum ≤ 655350)
    (honce : once = words.sum / 65536 + words.sum % 65536) :
    (once + once / 65536) % 65536 = sum words := by
  obtain ⟨hbound, hmod, hpos⟩ := sum_spec h
  by_cases hcarry : once < 65536
  · omega
  · obtain ⟨r, hr⟩ := Nat.exists_eq_add_of_le (Nat.le_of_not_lt hcarry)
    have hsmall : r ≤ 9 := by omega
    omega

end

end OnesComplement
