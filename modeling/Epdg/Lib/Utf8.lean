import Epdg.Lib.Bytes

/-!
A loop over the runes of a text that is any byte string. A byte that does not begin a well-formed
sequence counts as the replacement character and is passed alone.
-/
namespace Utf8
open Bytes

def isTail (b : UInt8) : Bool := 0x80 ≤ b && b ≤ 0xbf

def second3 (b0 b1 : UInt8) : Bool :=
  (b0 == 0xe0 && 0xa0 ≤ b1 && b1 ≤ 0xbf) || (b0 == 0xed && 0x80 ≤ b1 && b1 ≤ 0x9f) ||
    (0xe1 ≤ b0 && b0 ≤ 0xef && b0 != 0xed && isTail b1)

def second4 (b0 b1 : UInt8) : Bool :=
  (b0 == 0xf0 && 0x90 ≤ b1 && b1 ≤ 0xbf) || (b0 == 0xf4 && 0x80 ≤ b1 && b1 ≤ 0x8f) ||
    (0xf1 ≤ b0 && b0 ≤ 0xf3 && isTail b1)

def tailBits (b : UInt8) : Nat := b.toNat - 0x80

def rune (b0 : UInt8) (rest : Bytes) : Nat × Nat :=
  if b0 < 0x80 then (b0.toNat, 0)
  else
    let b1 := rest.byteAt 0
    let b2 := rest.byteAt 1
    let b3 := rest.byteAt 2
    if 0xc2 ≤ b0 ∧ b0 ≤ 0xdf ∧ isTail b1 then
      ((b0.toNat - 0xc0) * 64 + tailBits b1, 1)
    else if second3 b0 b1 ∧ isTail b2 then
      ((b0.toNat - 0xe0) * 4096 + tailBits b1 * 64 + tailBits b2, 2)
    else if second4 b0 b1 ∧ isTail b2 ∧ isTail b3 then
      ((b0.toNat - 0xf0) * 262144 + tailBits b1 * 4096 + tailBits b2 * 64 + tailBits b3, 3)
    else (0xfffd, 0)

def runesAfter : Nat → Bytes → List Nat
  | _, [] => []
  | 0, b :: rest => (rune b rest).1 :: runesAfter (rune b rest).2 rest
  | skip + 1, _ :: rest => runesAfter skip rest

def runes (text : Bytes) : List Nat := runesAfter 0 text

example : runes [0x30, 0xc3, 0xa9, 0x31, 0xe2, 0x82, 0x32] =
    [0x30, 0xe9, 0x31, 0xfffd, 0xfffd, 0x32] := by decide

variable {b0 b1 b2 b3 : UInt8} {rest : Bytes}

theorem isTail_iff {b : UInt8} : isTail b = true ↔ 0x80 ≤ b.toNat ∧ b.toNat ≤ 0xbf := by
  simp [isTail, UInt8.le_iff_toNat_le]

theorem second3_bounds (h : second3 b0 b1 = true) :
    0x80 ≤ b1.toNat ∧ 0x80 ≤ (b0.toNat - 0xe0) * 4096 + tailBits b1 * 64 := by
  simp only [second3, isTail, Bool.or_eq_true, Bool.and_eq_true, beq_iff_eq, decide_eq_true_eq,
    UInt8.le_iff_toNat_le, UInt8.reduceToNat] at h
  unfold tailBits
  rcases h with (⟨⟨-, h1⟩, h2⟩ | ⟨⟨rfl, h1⟩, h2⟩) | ⟨⟨⟨h0, -⟩, -⟩, h1, h2⟩
  · omega
  · grind
  · omega

theorem second4_bounds (h : second4 b0 b1 = true) :
    0x80 ≤ b1.toNat ∧ 0x80 ≤ (b0.toNat - 0xf0) * 262144 + tailBits b1 * 4096 := by
  simp only [second4, isTail, Bool.or_eq_true, Bool.and_eq_true, beq_iff_eq, decide_eq_true_eq,
    UInt8.le_iff_toNat_le, UInt8.reduceToNat] at h
  unfold tailBits
  rcases h with (⟨⟨-, h1⟩, h2⟩ | ⟨⟨rfl, h1⟩, h2⟩) | ⟨⟨h0, -⟩, h1, h2⟩
  · omega
  · grind
  · omega

theorem mem_take_byteAt {n : Nat} (h : ∀ i < n, 0x80 ≤ (rest.byteAt i).toNat) :
    ∀ x ∈ rest.take n, 0x80 ≤ x.toNat := by
  intro x hx
  obtain ⟨i, hi, rfl⟩ := List.mem_take_iff_getElem.mp hx
  have hbyte := h i (by omega)
  rwa [byteAt, List.getD_eq_getElem?_getD, List.getElem?_eq_getElem (by omega)] at hbyte

theorem rune_long (h : ¬ b0 < 0x80) (rest : Bytes) :
    0x80 ≤ (rune b0 rest).1 ∧ ∀ x ∈ rest.take (rune b0 rest).2, 0x80 ≤ x.toNat := by
  rw [rune, if_neg h]
  dsimp only
  split
  · rename_i h2
    obtain ⟨hlo, -, h1⟩ := h2
    have hlo' : 0xc2 ≤ b0.toNat := hlo
    rw [isTail_iff] at h1
    refine ⟨by omega, mem_take_byteAt fun i hi => ?_⟩
    simp_all
  · split
    · rename_i h3
      obtain ⟨h1, h2⟩ := h3
      have hb := second3_bounds h1
      rw [isTail_iff] at h2
      refine ⟨Nat.le_trans hb.2 (Nat.le_add_right _ _), mem_take_byteAt fun i hi => ?_⟩
      grind
    · split
      · rename_i h4
        obtain ⟨h1, h2, h3⟩ := h4
        have hb := second4_bounds h1
        rw [isTail_iff] at h2 h3
        refine ⟨by omega, mem_take_byteAt fun i hi => ?_⟩
        grind
      · simp_all

theorem rune_ascii (h : b0 < 0x80) (rest : Bytes) : rune b0 rest = (b0.toNat, 0) := if_pos h

section Ascii
variable {p : Nat → Bool} (hp : ∀ r, 0x80 ≤ r → p r = false)
include hp

theorem filter_runesAfter (skip : Nat) (text : Bytes)
    (hskip : ∀ x ∈ text.take skip, 0x80 ≤ x.toNat) :
    (runesAfter skip text).filter p = (text.map UInt8.toNat).filter p := by
  induction text generalizing skip with
  | nil => cases skip <;> rfl
  | cons b rest ih =>
    cases skip with
    | zero =>
      rw [runesAfter, List.map_cons]
      by_cases hb : b < 0x80
      · rw [rune_ascii hb, List.filter_cons, List.filter_cons, ih 0 (by simp)]
      · obtain ⟨hrune, htail⟩ := rune_long hb rest
        have hlong : 0x80 ≤ b.toNat := Nat.le_of_not_lt hb
        simp_all
    | succ skip =>
      rw [List.take_succ_cons, List.forall_mem_cons] at hskip
      rw [runesAfter, List.map_cons, List.filter_cons_of_neg (by simp [hp _ hskip.1])]
      exact ih skip hskip.2

theorem filter_runes (text : Bytes) : (runes text).filter p = (text.map UInt8.toNat).filter p :=
  filter_runesAfter hp 0 text (by simp)

theorem all_runes (text : Bytes) : (runes text).all p = (text.map UInt8.toNat).all p := by
  induction text with
  | nil => rfl
  | cons b rest ih =>
    rw [runes, runesAfter, List.map_cons, List.all_cons, List.all_cons]
    by_cases hb : b < 0x80
    · rw [rune_ascii hb, ← ih]
      rfl
    · have hlong : 0x80 ≤ b.toNat := Nat.le_of_not_lt hb
      rw [hp _ (rune_long hb rest).1, hp _ hlong, Bool.false_and, Bool.false_and]

end Ascii

end Utf8
