import Epdg.Lib.Bytes

/-!
Index and slice expressions with their bounds checks: `none` is the panic of an index out of range.
-/
namespace Bytes
variable {b : Bytes} {i lo hi : Nat}

def slice (b : Bytes) (lo hi : Nat) : Option Bytes :=
  if lo ≤ hi ∧ hi ≤ b.length then some ((b.take hi).drop lo) else none

def sliceInt (b : Bytes) (lo hi : Int) : Option Bytes :=
  if 0 ≤ lo ∧ 0 ≤ hi then b.slice lo.toNat hi.toNat else none

def beUint16 (b : Bytes) : Option Nat := do
  let hi ← b[0]?
  let lo ← b[1]?
  return be16 hi lo

theorem slice_eq (hlo : lo ≤ hi) (hhi : hi ≤ b.length) :
    b.slice lo hi = some ((b.take hi).drop lo) := if_pos ⟨hlo, hhi⟩

theorem slice_front (h : hi ≤ b.length) : b.slice 0 hi = some (b.take hi) :=
  slice_eq (Nat.zero_le hi) h

theorem slice_back (h : lo ≤ b.length) : b.slice lo b.length = some (b.drop lo) := by
  rw [slice_eq h (Nat.le_refl _), List.take_length]

theorem sliceInt_eq {x y : Int} (hx : x = lo) (hy : y = hi) :
    b.sliceInt x y = b.slice lo hi := by
  subst hx hy
  exact if_pos ⟨Int.natCast_nonneg lo, Int.natCast_nonneg hi⟩

theorem sliceInt_front {y : Int} (hy : y = hi) (h : hi ≤ b.length) :
    b.sliceInt 0 y = some (b.take hi) := by
  rw [sliceInt_eq Int.ofNat_zero.symm hy, slice_front h]

theorem sliceInt_back {x : Int} (hx : x = lo) (h : lo ≤ b.length) :
    b.sliceInt x b.length = some (b.drop lo) := by
  rw [sliceInt_eq hx rfl, slice_back h]

theorem index_eq (h : i < b.length) : b[i]? = some (b.byteAt i) := by
  rw [byteAt, List.getD_eq_getElem?_getD, List.getElem?_eq_getElem h, Option.getD_some]

theorem beUint16_slice (h : lo + 2 ≤ b.length) :
    (b.slice lo (lo + 2)).bind beUint16 = some (b.uint16At lo) := by
  rw [slice_eq (Nat.le_add_right lo 2) h, Option.bind_some, beUint16, uint16At, byteAt, byteAt]
  simp [List.getElem?_eq_getElem (show lo < b.length by omega),
    List.getElem?_eq_getElem (show lo + 1 < b.length by omega)]

end Bytes
