import Epdg.Lib.Bytes

/-!
Lists of byte strings, each behind its length in one byte.
-/
namespace Labels

def encode (label : Bytes) : Bytes := label.length.toUInt8 :: label

def encodeAll (labels : List Bytes) : Bytes := labels.flatMap encode

def decodeLoop : Nat → Bytes → Option (List Bytes)
  | _, [] => some []
  | 0, _ :: _ => none
  | fuel + 1, n :: rest =>
    if rest.length < n.toNat then none
    else (decodeLoop fuel (rest.drop n.toNat)).map (rest.take n.toNat :: ·)

def decode (b : Bytes) : Option (List Bytes) := decodeLoop b.length b

theorem encodeAll_cons (label : Bytes) (labels : List Bytes) :
    encodeAll (label :: labels) = label.length.toUInt8 :: (label ++ encodeAll labels) := rfl

theorem decodeLoop_encodeAll {labels : List Bytes} (h : ∀ l ∈ labels, l.length ≤ 255)
    {fuel : Nat} (hfuel : (encodeAll labels).length ≤ fuel) :
    decodeLoop fuel (encodeAll labels) = some labels := by
  induction labels generalizing fuel with
  | nil => cases fuel <;> rfl
  | cons label labels ih =>
    rw [encodeAll_cons] at hfuel ⊢
    cases fuel with
    | zero => cases hfuel
    | succ fuel =>
      have hn : label.length.toUInt8.toNat = label.length :=
        Nat.mod_eq_of_lt (Nat.lt_succ_of_le (h label List.mem_cons_self))
      have hrest : (encodeAll labels).length ≤ fuel := by grind
      rw [decodeLoop, hn, if_neg (by simp), List.drop_left, List.take_left,
        ih (fun l hl => h l (List.mem_cons_of_mem label hl)) hrest, Option.map_some]

theorem decodeLoop_short {fuel : Nat} {b : Bytes} {labels : List Bytes}
    (h : decodeLoop fuel b = some labels) : ∀ l ∈ labels, l.length ≤ 255 := by
  induction fuel generalizing b labels with
  | zero =>
    cases b with
    | nil =>
      cases h
      simp_all
    | cons n rest => cases h
  | succ fuel ih =>
    cases b with
    | nil =>
      cases h
      simp_all
    | cons n rest =>
      rw [decodeLoop] at h
      split at h
      · cases h
      obtain ⟨tail, htail, rfl⟩ := Option.map_eq_some_iff.mp h
      intro l hl
      rcases List.mem_cons.mp hl with rfl | hl
      · have hn := n.toNat_lt
        grind
      · exact ih htail l hl

theorem decode_encodeAll_iff {labels : List Bytes} :
    decode (encodeAll labels) = some labels ↔ ∀ l ∈ labels, l.length ≤ 255 :=
  ⟨decodeLoop_short, fun h => decodeLoop_encodeAll h (Nat.le_refl _)⟩

end Labels
