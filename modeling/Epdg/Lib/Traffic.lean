import Epdg.Lib.Table

/-!
Traffic counters by key, read for the owners of the keys.

A counter is made by the first packet under its key and goes when the key is released. Owners come
and go, each with one key, and a reader copies the counters for the owners now and then. The log is
a history of the packets of each owner since it came. `Keeps` says when the counters agree with it;
that is lost when two owners have a key in common, when a packet is counted under the key of an
owner that it is not for, and when a key is taken whose counter is still there.
-/
namespace Traffic
variable {K R : Type} [DecidableEq K] [DecidableEq R]

structure Count where
  packets : Nat := 0
  bytes : Nat := 0
  deriving DecidableEq, Repr

def Count.add (c : Count) (bytes : Nat) : Count := ⟨c.packets + 1, c.bytes + bytes⟩

structure Seen where
  count : Count := {}
  last : Option Nat := none
  deriving DecidableEq, Repr

def Seen.see (s : Seen) (now : Nat) (c : Count) : Seen :=
  { count := c, last := if c.packets > s.count.packets then some now else s.last }

inductive Entry (R : Type) where
  | added (r : R)
  | packet (r : R) (bytes : Nat)
  deriving DecidableEq, Repr

def since (r : R) : List (Entry R) → Count
  | [] => {}
  | .added r' :: log => if r' = r then {} else since r log
  | .packet r' bytes :: log => if r' = r then (since r log).add bytes else since r log

structure Meter (K R : Type) where
  counters : Table K Count := ∅
  seen : Table R Seen := ∅
  log : List (Entry R) := []

namespace Meter

def countAt (m : Meter K R) (k : K) : Count := (m.counters.lookup k).getD {}

def seenBy (m : Meter K R) (r : R) : Seen := (m.seen.lookup r).getD {}

def release (m : Meter K R) (k : K) : Meter K R := { m with counters := m.counters.erase k }

def releaseAll (m : Meter K R) (ks : List K) : Meter K R := ks.foldl release m

def count (m : Meter K R) (k : K) (owner : Option R) (bytes : Nat) : Meter K R :=
  { m with
    counters := m.counters.insert k ((m.countAt k).add bytes)
    log := (owner.map (Entry.packet · bytes)).toList ++ m.log }

def install (m : Meter K R) (r : R) : Meter K R :=
  { m with seen := m.seen.insert r {}, log := .added r :: m.log }

def read (index : K → Option R) (now : Nat) (m : Meter K R) (k : K) : Meter K R :=
  match index k, m.counters.lookup k with
  | some r, some c => { m with seen := m.seen.insert r ((m.seenBy r).see now c) }
  | _, _ => m

def readAll (index : K → Option R) (now : Nat) (m : Meter K R) (ks : List K) : Meter K R :=
  ks.foldl (read index now) m

structure Keeps (key : R → Option K) (m : Meter K R) : Prop where
  unique : ∀ r r' k, key r = some k → key r' = some k → r = r'
  counted : ∀ r k, key r = some k → m.countAt k = since r m.log
  unseen : ∀ r k, key r = some k → m.counters.lookup k = none → (m.seenBy r).count = {}

section Rules
variable {key key' : R → Option K} {m : Meter K R}

theorem keeps_empty : Keeps (fun _ : R => none) (({} : Meter K R)) where
  unique _ _ _ h := nomatch h
  counted _ _ h := nomatch h
  unseen _ _ h := nomatch h

section
variable (h : Keeps key m)
include h

theorem Keeps.shrink (hkey : ∀ r k, key' r = some k → key r = some k) : Keeps key' m where
  unique r r' k hr hr' := h.unique r r' k (hkey r k hr) (hkey r' k hr')
  counted r k hr := h.counted r k (hkey r k hr)
  unseen r k hr := h.unseen r k (hkey r k hr)

theorem Keeps.release {k : K} (hfree : ∀ r, key r ≠ some k) : Keeps key (m.release k) := by
  have hlookup : ∀ r k', key r = some k' →
      (m.release k).counters.lookup k' = m.counters.lookup k' := by
    intro r k' hr
    refine (Table.lookup_erase_ite _ _ _).trans (if_neg ?_)
    grind
  refine ⟨h.unique, fun r k' hr => ?_, fun r k' hr hnone => ?_⟩
  · rw [Meter.countAt, hlookup r k' hr]
    exact h.counted r k' hr
  · rw [hlookup r k' hr] at hnone
    exact h.unseen r k' hr hnone

theorem Keeps.releaseAll {ks : List K} (hfree : ∀ k ∈ ks, ∀ r, key r ≠ some k) :
    Keeps key (m.releaseAll ks) := by
  induction ks generalizing m with
  | nil => exact h
  | cons k ks ih =>
    exact ih (h.release (hfree k List.mem_cons_self))
      fun k' hk' => hfree k' (List.mem_cons_of_mem k hk')

theorem Keeps.count {k : K} {owner : Option R} (bytes : Nat)
    (howner : ∀ r, key r = some k ↔ owner = some r) : Keeps key (m.count k owner bytes) := by
  have hother : ∀ r k', key r = some k' → k' ≠ k →
      since r (m.count k owner bytes).log = since r m.log := by
    intro r k' hr hne
    cases owner with
    | none => rfl
    | some r0 =>
      refine if_neg ?_
      grind
  refine ⟨h.unique, fun r k' hr => ?_, fun r k' hr hnone => ?_⟩
  · by_cases hk : k' = k
    · subst hk
      have hown : owner = some r := (howner r).mp hr
      subst hown
      calc (m.count k' (some r) bytes).countAt k' = (m.countAt k').add bytes := by
            simp only [Meter.countAt, Meter.count, AList.lookup_insert, Option.getD_some]
        _ = (since r m.log).add bytes := by rw [h.counted r k' hr]
        _ = since r (m.count k' (some r) bytes).log := (if_pos rfl).symm
    · rw [hother r k' hr hk, ← h.counted r k' hr]
      simp only [Meter.countAt, Meter.count, Table.lookup_insert_ite, if_neg hk]
  · rw [Meter.count, Table.lookup_insert_ite] at hnone
    split at hnone
    · cases hnone
    · exact h.unseen r k' hr hnone

theorem Keeps.install {r : R} {k : K} (hkey : ∀ r', key' r' = if r' = r then some k else key r')
    (hfree : ∀ r', key r' ≠ some k) (hcounter : m.counters.lookup k = none) :
    Keeps key' (m.install r) := by
  refine ⟨fun r1 r2 k' h1 h2 => ?_, fun r' k' hr => ?_, fun r' k' hr hnone => ?_⟩
  · rw [hkey] at h1 h2
    split at h1 <;> split at h2
    · simp_all
    · simp_all
    · simp_all
    · exact h.unique r1 r2 k' h1 h2
  · rw [hkey] at hr
    split at hr
    · rename_i heq
      cases hr
      simp [Meter.countAt, Meter.install, since, hcounter, heq]
    rename_i hne
    have hsince : since r' (m.install r).log = since r' m.log := if_neg fun heq => hne heq.symm
    rw [hsince]
    exact h.counted r' k' hr
  · rw [hkey] at hr
    simp only [Meter.seenBy, Meter.install, Table.lookup_insert_ite]
    split at hr
    · simp_all
    · rename_i hne
      rw [if_neg hne]
      exact h.unseen r' k' hr hnone

end

end Rules

section Reading
variable {key : R → Option K} {index : K → Option R} {now : Nat} {m : Meter K R}

theorem read_counters (k : K) : (m.read index now k).counters = m.counters := by
  unfold read
  split <;> rfl

theorem read_log (k : K) : (m.read index now k).log = m.log := by
  unfold read
  split <;> rfl

theorem readAll_counters (ks : List K) : (m.readAll index now ks).counters = m.counters := by
  induction ks generalizing m with
  | nil => rfl
  | cons k ks ih => exact (ih (m := m.read index now k)).trans (read_counters k)

theorem readAll_log (ks : List K) : (m.readAll index now ks).log = m.log := by
  induction ks generalizing m with
  | nil => rfl
  | cons k ks ih => exact (ih (m := m.read index now k)).trans (read_log k)

theorem seenBy_read_ne {r : R} {k : K} (h : index k ≠ some r) :
    (m.read index now k).seenBy r = m.seenBy r := by
  unfold read
  split
  · rename_i r' c hr' _
    have hne : r ≠ r' := fun heq => h (heq ▸ hr')
    simp only [seenBy, Table.lookup_insert_ite, if_neg hne]
  · rfl

theorem count_read {r : R} {k : K} {c : Count} (h : index k = some r)
    (hc : m.counters.lookup k = some c) : ((m.read index now k).seenBy r).count = c := by
  simp only [read, h, hc, seenBy, AList.lookup_insert, Option.getD_some]
  rfl

theorem read_none {k : K} (hc : m.counters.lookup k = none) : m.read index now k = m := by
  unfold read
  simp_all

def Leads (key : R → Option K) (index : K → Option R) : Prop :=
  ∀ k r, index k = some r → key r = some k

theorem Keeps.read (h : Keeps key m) (hleads : Leads key index) (k : K) :
    Keeps key (m.read index now k) where
  unique := h.unique
  counted r k' hr := by
    rw [read_log, Meter.countAt, read_counters]
    exact h.counted r k' hr
  unseen r k' hr hnone := by
    rw [read_counters] at hnone
    by_cases hk : index k = some r
    · have heq : k = k' := Option.some.inj ((hleads k r hk).symm.trans hr)
      subst heq
      rw [read_none hnone]
      exact h.unseen r k hr hnone
    · rw [seenBy_read_ne hk]
      exact h.unseen r k' hr hnone

theorem Keeps.readAll (h : Keeps key m) (hleads : Leads key index) (ks : List K) :
    Keeps key (m.readAll index now ks) := by
  induction ks generalizing m with
  | nil => exact h
  | cons k ks ih => exact ih (h.read hleads k)

theorem count_readAll_some (hleads : Leads key index) {r : R} {k : K} {c : Count} {ks : List K}
    (hr : key r = some k) (hindex : index k = some r) (hc : m.counters.lookup k = some c)
    (hk : k ∈ ks ∨ (m.seenBy r).count = c) :
    ((m.readAll index now ks).seenBy r).count = c := by
  induction ks generalizing m with
  | nil => exact hk.resolve_left List.not_mem_nil
  | cons k' ks ih =>
    refine ih ((congrArg (AList.lookup k) (read_counters k')).trans hc) ?_
    by_cases heq : k' = k
    · subst heq
      exact .inr (count_read hindex hc)
    have hne : index k' ≠ some r := fun hk' =>
      heq (Option.some.inj ((hleads k' r hk').symm.trans hr))
    rw [seenBy_read_ne hne]
    grind

theorem Keeps.count_readAll (h : Keeps key m) (hleads : Leads key index) {r : R} {k : K}
    {ks : List K} (hr : key r = some k) (hindex : index k = some r) (hk : k ∈ ks) :
    ((m.readAll index now ks).seenBy r).count = since r m.log := by
  rw [← h.counted r k hr, Meter.countAt]
  cases hc : m.counters.lookup k with
  | none =>
    have hsame : (m.readAll index now ks).counters.lookup k = none := by
      rw [readAll_counters]
      exact hc
    exact (h.readAll hleads ks).unseen r k hr hsame
  | some c => exact count_readAll_some hleads hr hindex hc (.inl hk)

end Reading
end Meter
end Traffic
