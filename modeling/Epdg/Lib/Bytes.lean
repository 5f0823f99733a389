import Mathlib.Algebra.Group.Nat.Defs

/-!
Byte strings and the fixed-width big-endian fields of binary protocols.
-/
abbrev Bytes := List UInt8

namespace Bytes

def ascii (s : String) : Bytes := s.toList.map fun c => c.toNat.toUInt8

def isDigit (c : UInt8) : Bool := 0x30 ≤ c && c ≤ 0x39

def be16 (hi lo : UInt8) : Nat := hi.toNat * 256 + lo.toNat

def be24 (b0 b1 b2 : UInt8) : Nat := (b0.toNat * 256 + b1.toNat) * 256 + b2.toNat

def beNat (b : Bytes) : Nat := b.foldl (fun n x => n * 256 + x.toNat) 0

def be32 (b : Bytes) : UInt32 := (beNat (b.take 4)).toUInt32

def be64 (b : Bytes) : UInt64 := (beNat (b.take 8)).toUInt64

def byteAt (b : Bytes) (i : Nat) : UInt8 := b.getD i 0

def uint16At (b : Bytes) (i : Nat) : Nat := be16 (b.byteAt i) (b.byteAt (i + 1))

def uint32At (b : Bytes) (i : Nat) : UInt32 := be32 (b.drop i)

def putUint16 (n : UInt16) : Bytes := [(n >>> 8).toUInt8, n.toUInt8]

def putUint32 (n : UInt32) : Bytes :=
  (List.range 4).map fun i => (n >>> (8 * (3 - i)).toUInt32).toUInt8

def putUint64 (n : UInt64) : Bytes :=
  (List.range 8).map fun i => (n >>> (8 * (7 - i)).toUInt64).toUInt8

theorem byteAt_front {b f : Bytes} {off i : Nat} (h : b <+: f.drop off) (hi : i < b.length) :
    b.byteAt i = f.byteAt (off + i) := by
  obtain ⟨rest, hrest⟩ := h
  have hget : (f.drop off)[i]? = b[i]? := by grind
  rw [byteAt, byteAt, List.getD_eq_getElem?_getD, List.getD_eq_getElem?_getD, ← hget,
    List.getElem?_drop]

theorem be16_putUint16 (n : UInt16) : be16 (n >>> 8).toUInt8 n.toUInt8 = n.toNat := by
  have hlt := n.toNat_lt
  simp only [be16, UInt16.toNat_toUInt8, UInt16.toNat_shiftRight]
  simp [Nat.shiftRight_eq_div_pow]
  omega

theorem putUint32_eq (n : UInt32) :
    putUint32 n = [(n >>> 24).toUInt8, (n >>> 16).toUInt8, (n >>> 8).toUInt8, n.toUInt8] := by
  have h0 : n >>> 0 = n := by simp
  exact congrArg (fun m : UInt32 =>
    [(n >>> 24).toUInt8, (n >>> 16).toUInt8, (n >>> 8).toUInt8, m.toUInt8]) h0

theorem be32_putUint32 (n : UInt32) (rest : Bytes) : be32 (putUint32 n ++ rest) = n := by
  have hlt := n.toNat_lt
  have hval : beNat (putUint32 n) = n.toNat := by
    simp only [beNat, putUint32_eq, List.foldl_cons, List.foldl_nil, UInt32.toNat_toUInt8,
      UInt32.toNat_shiftRight]
    simp [Nat.shiftRight_eq_div_pow]
    omega
  have hlen : (putUint32 n).length = 4 := rfl
  rw [be32, List.take_left' hlen, hval]
  exact UInt32.ofNat_toNat

theorem beNat_concat (b : Bytes) (x : UInt8) : beNat (b ++ [x]) = beNat b * 256 + x.toNat := by
  simp only [beNat, List.foldl_append, List.foldl_cons, List.foldl_nil]

theorem beNat_digits (k x : Nat) :
    beNat ((List.range k).map fun i => (x / 256 ^ (k - 1 - i)).toUInt8) = x % 256 ^ k := by
  induction k generalizing x with
  | zero => simp [beNat, Nat.mod_one]
  | succ k ih =>
    have hhigh : (List.range k).map (fun i => (x / 256 ^ (k - i)).toUInt8) =
        (List.range k).map fun i => (x / 256 / 256 ^ (k - 1 - i)).toUInt8 := by
      refine List.map_congr_left fun i hi => ?_
      have hi := List.mem_range.mp hi
      rw [Nat.div_div_eq_div_mul, ← Nat.pow_succ', show (k - 1 - i).succ = k - i by omega]
    have hlow : (x / 256 ^ (k - k)).toUInt8.toNat = x % 256 := by simp
    rw [List.range_succ, List.map_append, List.map_singleton, beNat_concat, Nat.add_sub_cancel,
      hhigh, ih, hlow, Nat.pow_succ']
    rw [Nat.mod_mul]
    omega

theorem be64_putUint64 (n : UInt64) (rest : Bytes) : be64 (putUint64 n ++ rest) = n := by
  have hdigits : putUint64 n =
      (List.range 8).map fun i => (n.toNat / 256 ^ (8 - 1 - i)).toUInt8 := by
    refine List.map_congr_left fun i hi => ?_
    have hshift : (8 * (7 - i)).toUInt64.toNat % 64 = 8 * (7 - i) := by simp; omega
    rw [← UInt8.toNat_inj, UInt64.toNat_toUInt8, UInt64.toNat_shiftRight, hshift,
      Nat.shiftRight_eq_div_pow, Nat.pow_mul]
    simp
  have hlen : (putUint64 n).length = 8 := rfl
  have hlt : n.toNat < 256 ^ 8 := Nat.lt_of_lt_of_le n.toNat_lt (by decide)
  rw [be64, List.take_left' hlen, hdigits, beNat_digits, Nat.mod_eq_of_lt hlt]
  exact UInt64.ofNat_toNat

theorem putUint16_injective {a b : UInt16} (h : putUint16 a = putUint16 b) : a = b := by
  injection h with hhi hlo
  injection hlo with hlo
  rw [← UInt16.toNat_inj, ← be16_putUint16 a, ← be16_putUint16 b, hhi, hlo]

theorem putUint32_injective {a b : UInt32} (h : putUint32 a = putUint32 b) : a = b := by
  rw [← be32_putUint32 a [], h, be32_putUint32]

theorem putUint64_injective {a b : UInt64} (h : putUint64 a = putUint64 b) : a = b := by
  rw [← be64_putUint64 a [], h, be64_putUint64]

theorem be24_shifts {n : UInt32} (h : n.toNat < 2 ^ 24) :
    be24 (n >>> 16).toUInt8 (n >>> 8).toUInt8 n.toUInt8 = n.toNat := by
  simp only [be24, UInt32.toNat_toUInt8, UInt32.toNat_shiftRight]
  simp [Nat.shiftRight_eq_div_pow]
  omega

/-! Fields that are read and written again. -/

theorem putUint16_be16 (hi lo : UInt8) : putUint16 (be16 hi lo).toUInt16 = [hi, lo] := by
  have h0 := hi.toNat_lt
  have h1 := lo.toNat_lt
  simp only [putUint16, be16, List.cons.injEq, and_true, ← UInt8.toNat_inj, UInt16.toNat_toUInt8,
    UInt16.toNat_shiftRight]
  simp [Nat.shiftRight_eq_div_pow]
  omega

theorem shifts_be24 (b0 b1 b2 : UInt8) :
    [((be24 b0 b1 b2).toUInt32 >>> 16).toUInt8, ((be24 b0 b1 b2).toUInt32 >>> 8).toUInt8,
      (be24 b0 b1 b2).toUInt32.toUInt8] = [b0, b1, b2] := by
  have h0 := b0.toNat_lt
  have h1 := b1.toNat_lt
  have h2 := b2.toNat_lt
  simp only [be24, List.cons.injEq, and_true, ← UInt8.toNat_inj, UInt32.toNat_toUInt8,
    UInt32.toNat_shiftRight]
  simp [Nat.shiftRight_eq_div_pow]
  omega

theorem putUint32_be32 (b0 b1 b2 b3 : UInt8) (rest : Bytes) :
    putUint32 (be32 (b0 :: b1 :: b2 :: b3 :: rest)) = [b0, b1, b2, b3] := by
  have h0 := b0.toNat_lt
  have h1 := b1.toNat_lt
  have h2 := b2.toNat_lt
  have h3 := b3.toNat_lt
  simp only [putUint32_eq, be32, List.take, beNat, List.foldl, List.cons.injEq, and_true,
    ← UInt8.toNat_inj, UInt32.toNat_toUInt8, UInt32.toNat_shiftRight]
  simp [Nat.shiftRight_eq_div_pow]
  omega

theorem be24_lt (b0 b1 b2 : UInt8) : be24 b0 b1 b2 < 2 ^ 24 := by
  have h0 := b0.toNat_lt
  have h1 := b1.toNat_lt
  have h2 := b2.toNat_lt
  simp only [be24]
  omega

theorem be16_lt (hi lo : UInt8) : be16 hi lo < 2 ^ 16 := by
  have h0 := hi.toNat_lt
  have h1 := lo.toNat_lt
  simp only [be16]
  omega

theorem four_front {x : Bytes} (h : 4 ≤ x.length) :
    ∃ v0 v1 v2 v3 y, x = v0 :: v1 :: v2 :: v3 :: y := by
  match x, h with
  | v0 :: v1 :: v2 :: v3 :: y, _ => exact ⟨v0, v1, v2, v3, y, rfl⟩

theorem be32_injective {a b : Bytes} (ha : a.length = 4) (hb : b.length = 4)
    (h : be32 a = be32 b) : a = b := by
  obtain ⟨a0, a1, a2, a3, ra, rfl⟩ := four_front (Nat.le_of_eq ha.symm)
  obtain ⟨b0, b1, b2, b3, rb, rfl⟩ := four_front (Nat.le_of_eq hb.symm)
  have hra : ra = [] := by simpa using ha
  have hrb : rb = [] := by simpa using hb
  rw [hra, hrb] at h ⊢
  rw [← putUint32_be32 a0 a1 a2 a3 [], h, putUint32_be32]

theorem forall_byte {p : UInt8 → Prop} (h : ∀ i : Fin 256, p (UInt8.ofNat i)) (b : UInt8) :
    p b := by
  have hb := h ⟨b.toNat, b.toNat_lt⟩
  simpa using hb

theorem halves {lo hi : UInt8} (hlo : lo ≤ 0x0f) (hhi : hi ≤ 0x0f) :
    (lo ||| hi <<< 4) &&& 0x0f = lo ∧ (lo ||| hi <<< 4) >>> 4 = hi := by
  have hall : ∀ i j : Fin 16,
      (UInt8.ofNat i ||| UInt8.ofNat j <<< 4) &&& 0x0f = UInt8.ofNat i ∧
      (UInt8.ofNat i ||| UInt8.ofNat j <<< 4) >>> 4 = UInt8.ofNat j := by decide +kernel
  have hfin : ∀ x : UInt8, x ≤ 0x0f → ∃ i : Fin 16, x = UInt8.ofNat i := by
    intro x hx
    exact ⟨⟨x.toNat, Nat.lt_succ_of_le hx⟩, (UInt8.ofNat_toNat).symm⟩
  grind

def constEqual (a b : Bytes) : Bool :=
  if a.length ≠ b.length then false
  else (a.zip b).foldl (fun diff p => diff ||| (p.1 ^^^ p.2)) 0 == 0

theorem foldl_or_eq_zero (l : List (UInt8 × UInt8)) (d : UInt8) :
    l.foldl (fun diff p => diff ||| (p.1 ^^^ p.2)) d = 0 ↔
      d = 0 ∧ ∀ p ∈ l, p.1 = p.2 := by
  induction l generalizing d with
  | nil => simp
  | cons p l ih =>
    have hxor : p.1 ^^^ p.2 = 0 ↔ p.1 = p.2 := UInt8.xor_eq_zero_iff
    grind

theorem constEqual_iff (a b : Bytes) : constEqual a b = true ↔ a = b := by
  unfold constEqual
  by_cases h : a.length = b.length
  · simp only [h, ne_eq, not_true_eq_false, ite_false, beq_iff_eq, foldl_or_eq_zero,
      true_and]
    constructor
    · intro hp
      apply List.ext_getElem h
      intro i h1 h2
      have hi : i < (a.zip b).length := by simp; omega
      have := hp _ (List.getElem_mem hi)
      simpa using this
    · rintro rfl p hp
      obtain ⟨i, hi, rfl⟩ := List.mem_iff_getElem.mp hp
      simp
  · grind

end Bytes
