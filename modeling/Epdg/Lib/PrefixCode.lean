/-!
Codes whose words can be cut off from what follows in one way only.
-/
universe u v

def IsPrefixCode {α : Type u} {β : Type v} (enc : α → List β) : Prop :=
  ∀ a b x y, enc a ++ x = enc b ++ y → a = b ∧ x = y

namespace IsPrefixCode
variable {α : Type u} {β : Type v} {enc : α → List β}

theorem flatMap_append_cases (h : IsPrefixCode enc) {l m : List α} {x y : List β}
    (heq : l.flatMap enc ++ x = m.flatMap enc ++ y) :
    (∃ k, m = l ++ k ∧ x = k.flatMap enc ++ y) ∨ ∃ k, l = m ++ k ∧ k.flatMap enc ++ x = y := by
  induction l generalizing m with
  | nil => exact .inl ⟨m, rfl, heq⟩
  | cons a l ih =>
    cases m with
    | nil => exact .inr ⟨a :: l, rfl, heq⟩
    | cons b m =>
      rw [List.flatMap_cons, List.flatMap_cons, List.append_assoc, List.append_assoc] at heq
      obtain ⟨rfl, htail⟩ := h _ _ _ _ heq
      simp_all

theorem flatMap_cancel (h : IsPrefixCode enc) {l m : List α} {x y : List β}
    (hlen : l.length = m.length) (heq : l.flatMap enc ++ x = m.flatMap enc ++ y) :
    l = m ∧ x = y := by
  rcases h.flatMap_append_cases heq with ⟨k, rfl, hk⟩ | ⟨k, rfl, hk⟩
  all_goals
    simp_all

end IsPrefixCode
