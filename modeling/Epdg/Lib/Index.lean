/-!
Secondary indexes: a store of records, and an index that leads from a key of a record back to the
place where the record is stored.

What an operation does to both is described once, by `Replaces` or `Removes`; whether the index
stays right is then a question about the state before.
-/
namespace Index
variable {α β κ : Type}

def Finds (store : α → Option β) (key : β → κ) (index : κ → Option α) : Prop :=
  ∀ x b, store x = some b → index (key b) = some x

def Sound (store : α → Option β) (key : β → κ) (index : κ → Option α) : Prop :=
  ∀ k x, index k = some x → ∃ b, store x = some b ∧ key b = k

structure Exact (store : α → Option β) (key : β → κ) (index : κ → Option α) : Prop where
  finds : Finds store key index
  sound : Sound store key index

structure Replaces (p : α → Prop) (k : κ) (key : β → κ) (store store' : α → Option β)
    (index index' : κ → Option α) : Prop where
  outside : ∀ x, ¬p x → store' x = store x
  others : ∀ k', k' ≠ k → index' k' = index k'
  inside : ∀ x b, p x → store' x = some b → key b = k ∧ index' k = some x
  entry : ∀ x, index' k = some x → p x ∧ ∃ b, store' x = some b ∧ key b = k

structure Removes (p : α → Prop) (key : β → κ) (store store' : α → Option β)
    (index index' : κ → Option α) : Prop where
  inside : ∀ x, p x → store' x = none
  outside : ∀ x, ¬p x → store' x = store x
  gone : ∀ x b, p x → store x = some b → index' (key b) = none
  others : ∀ k, (∀ x b, p x → store x = some b → key b ≠ k) → index' k = index k

structure Mirrors {ν : Type} (store : α → Option β) (key : β → κ) (view : α → β → ν → Prop)
    (map : κ → Option ν) : Prop where
  covers : ∀ x b, store x = some b → ∃ v, map (key b) = some v ∧ view x b v
  sound : ∀ k v, map k = some v → ∃ x b, store x = some b ∧ key b = k

section Operations
variable {store store' : α → Option β} {key : β → κ} {index index' : κ → Option α}
variable {p : α → Prop} {k : κ}

theorem Replaces.put [DecidableEq α] [DecidableEq κ] {a : α} {new : Option β}
    (hkey : ∀ b, new = some b → key b = k) (hstore : ∀ x, store' x = if x = a then new else store x)
    (hindex : ∀ k', index' k' = if k' = k then new.map fun _ => a else index k') :
    Replaces (· = a) k key store store' index index' where
  outside x hp := by rw [hstore, if_neg hp]
  others k' hk := by rw [hindex, if_neg hk]
  inside x b hp hb := by simp_all
  entry x hx := by
    rw [hindex, if_pos rfl, Option.map_eq_some_iff] at hx
    grind

theorem Removes.single [DecidableEq α] [DecidableEq κ] {a : α} {b : β} (hb : store a = some b)
    (hstore : ∀ x, store' x = if x = a then none else store x)
    (hindex : ∀ k, index' k = if k = key b then none else index k) :
    Removes (· = a) key store store' index index' where
  inside x hp := by rw [hstore, if_pos hp]
  outside x hp := by rw [hstore, if_neg hp]
  gone x c hp hc := by simp_all
  others k hk := by rw [hindex, if_neg (hk a b rfl hb).symm]

theorem Finds.unique (h : Finds store key index) {x y : α} {b c : β} (hx : store x = some b)
    (hy : store y = some c) (hkey : key b = key c) : x = y := by
  have hb := h x b hx
  rw [hkey, h y c hy] at hb
  simp_all

theorem Finds.replace_iff (h : Finds store key index)
    (r : Replaces p k key store store' index index') :
    Finds store' key index' ↔ ∀ x b, ¬p x → store x = some b → key b ≠ k := by
  constructor
  · intro h' x b hp hb hkey
    have hindex := h' x b ((r.outside x hp).trans hb)
    rw [hkey] at hindex
    exact hp (r.entry x hindex).1
  · intro hother x b hb
    by_cases hp : p x
    · obtain ⟨hkey, hentry⟩ := r.inside x b hp hb
      rw [hkey, hentry]
    · rw [r.outside x hp] at hb
      rw [r.others _ (hother x b hp hb), h x b hb]

theorem Finds.ne_of_free (h : Finds store key index) (hfree : index k = none) {x : α} {b : β}
    (hb : store x = some b) : key b ≠ k := by
  rintro rfl
  rw [h x b hb] at hfree
  cases hfree

theorem Exact.replace (h : Exact store key index)
    (r : Replaces p k key store store' index index') (hempty : ∀ x, p x → store x = none)
    (hfree : index k = none) : Exact store' key index' := by
  refine ⟨(h.finds.replace_iff r).mpr fun x b _ hb => h.finds.ne_of_free hfree hb, ?_⟩
  intro k' x hx
  by_cases hk : k' = k
  · subst hk
    exact (r.entry x hx).2
  rw [r.others k' hk] at hx
  obtain ⟨b, hb, hkey⟩ := h.sound k' x hx
  refine ⟨b, ?_, hkey⟩
  rw [r.outside x, hb]
  grind

theorem Exact.empty_of_replace (h : Exact store key index) (h' : Exact store' key index')
    (r : Replaces p k key store store' index index') (hfree : index k = none) {x : α} (hp : p x) :
    store x = none := by
  cases hb : store x with
  | none => rfl
  | some b =>
    have hne := h.finds.ne_of_free hfree hb
    obtain ⟨b', hb', hkey⟩ := h'.sound (key b) x ((r.others _ hne).trans (h.finds x b hb))
    exact absurd (hkey.symm.trans (r.inside x b' hp hb').1) hne

theorem Exact.free_of_replace (h : Exact store key index) (h' : Finds store' key index')
    (r : Replaces p k key store store' index index') (hempty : ∀ x, p x → store x = none) :
    index k = none := by
  cases hx : index k with
  | none => rfl
  | some x =>
    obtain ⟨b, hb, hkey⟩ := h.sound k x hx
    refine absurd hkey ((h.finds.replace_iff r).mp h' x b (fun hp => ?_) hb)
    simp_all

theorem Finds.remove (h : Finds store key index) (r : Removes p key store store' index index') :
    Finds store' key index' := by
  intro x b hb
  have hp : ¬p x := by
    intro hp
    rw [r.inside x hp] at hb
    cases hb
  rw [r.outside x hp] at hb
  rw [r.others, h x b hb]
  intro y c hy hc hkey
  exact hp (h.unique hb hc hkey.symm ▸ hy)

theorem Exact.remove (h : Exact store key index) (r : Removes p key store store' index index') :
    Exact store' key index' := by
  refine ⟨h.finds.remove r, fun k x hx => ?_⟩
  have hkeep : ∀ y c, p y → store y = some c → key c ≠ k := by
    rintro y c hy hc rfl
    rw [r.gone y c hy hc] at hx
    cases hx
  rw [r.others k hkeep] at hx
  obtain ⟨b, hb, hkey⟩ := h.sound k x hx
  refine ⟨b, ?_, hkey⟩
  rw [r.outside x fun hp => hkeep x b hp hb hkey, hb]

theorem Finds.congr (h : Finds store key index)
    (hkeys : ∀ x, (store' x).map key = (store x).map key) : Finds store' key index := by
  intro x b' hb'
  have hk := hkeys x
  rw [hb', Option.map_some, eq_comm, Option.map_eq_some_iff] at hk
  obtain ⟨b, hb, hkey⟩ := hk
  rw [← hkey]
  exact h x b hb

theorem Exact.congr (h : Exact store key index)
    (hkeys : ∀ x, (store' x).map key = (store x).map key) : Exact store' key index := by
  refine ⟨h.finds.congr hkeys, fun k x hx => ?_⟩
  obtain ⟨b, hb, hkey⟩ := h.sound k x hx
  have hk := hkeys x
  rw [hb, Option.map_some, Option.map_eq_some_iff] at hk
  simp_all

variable {ν : Type} {view view' : α → β → ν → Prop} {map map' : κ → Option ν}

section
variable (h : Mirrors store key view map) (hf : Finds store key index)
include h hf

theorem Mirrors.free (hfree : index k = none) : map k = none := by
  cases hv : map k with
  | none => rfl
  | some v =>
    obtain ⟨x, b, hb, hkey⟩ := h.sound k v hv
    exact absurd hkey (hf.ne_of_free hfree hb)

theorem Mirrors.replace_iff (r : Replaces p k key store store' index index')
    (hfree : index k = none) (hview : ∀ x b v, ¬p x → store x = some b → view x b v → view' x b v)
    (hothers : ∀ k', k' ≠ k → map' k' = map k')
    (hnew : ∀ v, map' k = some v → ∃ x b, p x ∧ store' x = some b) :
    Mirrors store' key view' map' ↔ (∀ x, p x → store x = none) ∧
      ∀ x b, p x → store' x = some b → ∃ v, map' k = some v ∧ view' x b v := by
  constructor
  · intro h'
    refine ⟨fun x hp => ?_, fun x b hp hb => ?_⟩
    · cases hb : store x with
      | none => rfl
      | some b =>
        have hne := hf.ne_of_free hfree hb
        obtain ⟨v, hv, -⟩ := h.covers x b hb
        -- the entry of a record that gives way leads to no other record
        obtain ⟨y, c, hc, hkey⟩ := h'.sound (key b) v ((hothers _ hne).trans hv)
        by_cases hy : p y
        · exact absurd (hkey.symm.trans (r.inside y c hy hc).1) hne
        · rw [r.outside y hy] at hc
          exact absurd (hf.unique hb hc hkey.symm ▸ hp) hy
    · rw [← (r.inside x b hp hb).1]
      exact h'.covers x b hb
  · rintro ⟨hempty, hinside⟩
    refine ⟨fun x b hb => ?_, fun k' v hv => ?_⟩
    · by_cases hp : p x
      · rw [(r.inside x b hp hb).1]
        grind
      rw [r.outside x hp] at hb
      obtain ⟨v, hv, hview'⟩ := h.covers x b hb
      refine ⟨v, ?_, hview x b v hp hb hview'⟩
      rw [hothers _ (hf.ne_of_free hfree hb), hv]
    · by_cases hk : k' = k
      · subst hk
        obtain ⟨x, b, hp, hb⟩ := hnew v hv
        exact ⟨x, b, hb, (r.inside x b hp hb).1⟩
      rw [hothers k' hk] at hv
      obtain ⟨x, b, hb, hkey⟩ := h.sound k' v hv
      refine ⟨x, b, ?_, hkey⟩
      rw [r.outside x, hb]
      grind

theorem Mirrors.remove (r : Removes p key store store' index index')
    (hview : ∀ x b v, ¬p x → store x = some b → view x b v → view' x b v)
    (hgone : ∀ x b, p x → store x = some b → map' (key b) = none)
    (hothers : ∀ k, (∀ x b, p x → store x = some b → key b ≠ k) → map' k = map k) :
    Mirrors store' key view' map' := by
  refine ⟨fun x b hb => ?_, fun k v hv => ?_⟩
  · have hp : ¬p x := by
      intro hp
      rw [r.inside x hp] at hb
      cases hb
    rw [r.outside x hp] at hb
    obtain ⟨v, hv, hview'⟩ := h.covers x b hb
    refine ⟨v, ?_, hview x b v hp hb hview'⟩
    rw [hothers, hv]
    intro y c hy hc hkey
    exact hp (hf.unique hb hc hkey.symm ▸ hy)
  · have hkeep : ∀ y c, p y → store y = some c → key c ≠ k := by grind
    rw [hothers k hkeep] at hv
    obtain ⟨x, b, hb, hkey⟩ := h.sound k v hv
    refine ⟨x, b, ?_, hkey⟩
    rw [r.outside x fun hp => hkeep x b hp hb hkey, hb]

end

theorem Mirrors.congr (h : Mirrors store key view map)
    (hkeys : ∀ x, (store' x).map key = (store x).map key)
    (hview : ∀ x b b' v, store x = some b → store' x = some b' → view x b v → view' x b' v) :
    Mirrors store' key view' map := by
  refine ⟨fun x b' hb' => ?_, fun k v hv => ?_⟩
  · have hk := hkeys x
    rw [hb', Option.map_some, eq_comm, Option.map_eq_some_iff] at hk
    obtain ⟨b, hb, hkey⟩ := hk
    obtain ⟨v, hv, hview'⟩ := h.covers x b hb
    simp_all
  · obtain ⟨x, b, hb, hkey⟩ := h.sound k v hv
    have hk := hkeys x
    rw [hb, Option.map_some, Option.map_eq_some_iff] at hk
    grind

end Operations
end Index
