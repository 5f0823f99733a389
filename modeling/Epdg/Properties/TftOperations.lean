import Epdg.Gtpu.Tables
import Epdg.Lib.Run

/-!
The operations on a TFT.

A TFT names an operation: create, delete, add to, replace in or delete from the filters that are
there, or nothing (TS 24.008 section 10.5.6.12). `ParseTFT` returns the filters that are listed,
whatever the operation, and `UpdateBearer` puts them in the place of those of the bearer.
-/
namespace Epdg.Gtpu

inductive TftOperation where
  | create (filters : List PacketFilter)
  | delete
  | add (filters : List PacketFilter)
  | replace (filters : List PacketFilter)
  | deleteFilters (ids : List UInt8)
  | noOperation
  deriving DecidableEq, Repr

namespace TftOperation

def listed : TftOperation → List PacketFilter
  | create filters | add filters | replace filters => filters
  | delete | deleteFilters _ | noOperation => []

def keeps (f : PacketFilter) : TftOperation → Bool
  | create _ | delete => false
  | add _ | noOperation => true
  | replace filters => f.id ∉ filters.map PacketFilter.id
  | deleteFilters ids => f.id ∉ ids

def Follows (op : TftOperation) (old new : List PacketFilter) : Prop :=
  ∀ f, f ∈ new ↔ f ∈ old ∧ op.keeps f = true ∨ f ∈ op.listed

def Spares (op : TftOperation) (old : List PacketFilter) : Prop :=
  ∀ f ∈ old, op.keeps f = true → f ∈ op.listed

instance (op : TftOperation) (old : List PacketFilter) : Decidable (op.Spares old) :=
  inferInstanceAs (Decidable (∀ f ∈ old, op.keeps f = true → f ∈ op.listed))

theorem follows_listed_iff (op : TftOperation) (old : List PacketFilter) :
    op.Follows old op.listed ↔ op.Spares old := by
  constructor
  · intro h f hf hkeeps
    exact (h f).mpr (.inl ⟨hf, hkeeps⟩)
  · intro h f
    refine ⟨.inr, ?_⟩
    rintro (⟨hf, hkeeps⟩ | hf)
    · exact h f hf hkeeps
    · exact hf

def decode : Bytes → Option TftOperation
  | [] => none
  | b :: raw =>
    let count := (b &&& 0x0f).toNat
    match b >>> 5 with
    | 1 => (parseFilters count raw).map create
    | 2 => some delete
    | 3 => (parseFilters count raw).map add
    | 4 => (parseFilters count raw).map replace
    | 5 => if raw.length < count then none
           else some (deleteFilters ((raw.take count).map (· &&& 0x0f)))
    | 6 => some noOperation
    | _ => none

theorem parseTFT_of_decode {raw : Bytes} {op : TftOperation} (h : decode raw = some op) :
    parseTFT raw = some (some { filters := op.listed }) := by
  cases raw with
  | nil => cases h
  | cons b raw =>
    simp only [decode] at h
    simp only [parseTFT]
    split at h
    · rename_i hop
      obtain ⟨filters, hfilters, rfl⟩ := Option.map_eq_some_iff.mp h
      simp only [hop, hfilters, Option.map_some, listed]
    · rename_i hop
      cases h
      simp only [hop, listed]
    · rename_i hop
      obtain ⟨filters, hfilters, rfl⟩ := Option.map_eq_some_iff.mp h
      simp only [hop, hfilters, Option.map_some, listed]
    · rename_i hop
      obtain ⟨filters, hfilters, rfl⟩ := Option.map_eq_some_iff.mp h
      simp only [hop, hfilters, Option.map_some, listed]
    · rename_i hop
      split at h
      · cases h
      · cases h
        simp only [hop, listed]
    · rename_i hop
      cases h
      simp only [hop, listed]
    · cases h

end TftOperation

namespace Manager

def filtersAt (m : Manager) (ref : BearerRef) : List PacketFilter :=
  (((m.bearerOf ref).bind Bearer.tft).map TFT.filters).getD []

end Manager

structure TftUpdate where
  fault : Bool := false
  qci : UInt8 := 0
  raw : Bytes
  deriving DecidableEq, Repr

namespace Manager
variable {u : TftUpdate}

def update (ref : BearerRef) (m : Manager) (u : TftUpdate) : Manager :=
  (m.updateBearer u.fault ref.sessionID ref.bearerEBI u.qci u.raw).1

section Updates
variable {m : Manager} {ref : BearerRef} {b : Bearer}

section
variable (hb : m.bearerOf ref = some b)
include hb

theorem update_bearerOf (u : TftUpdate) :
    (m.update ref u).bearerOf ref = some (b.updated u.qci u.raw) := by
  rw [update, (updateBearer_edits hb u.fault u.qci u.raw).1.bearer, if_pos rfl]

theorem filtersAt_update {op : TftOperation} (hop : TftOperation.decode u.raw = some op) :
    (m.update ref u).filtersAt ref = op.listed := by
  have hne : u.raw ≠ [] := by
    intro hnil
    rw [hnil] at hop
    cases hop
  rw [filtersAt, update_bearerOf hb, Option.bind_some]
  simp only [Bearer.updated, updatedTFT, if_neg hne, TftOperation.parseTFT_of_decode hop,
    Option.map_some, Option.getD_some]

theorem filtersAt_update_nil (hraw : u.raw = []) :
    (m.update ref u).filtersAt ref = m.filtersAt ref := by
  rw [filtersAt, update_bearerOf hb, filtersAt, hb, Option.bind_some, Option.bind_some]
  simp only [Bearer.updated, updatedTFT, hraw, if_true]

end

def FollowsEach (ref : BearerRef) : Manager → List TftUpdate → Prop :=
  Machine.Guarded (update ref) fun m u => ∀ op, TftOperation.decode u.raw = some op →
    op.Follows (m.filtersAt ref) ((m.update ref u).filtersAt ref)

def SparesEach (ref : BearerRef) : Manager → List TftUpdate → Prop :=
  Machine.Guarded (update ref) fun m u => ∀ op, TftOperation.decode u.raw = some op →
    op.Spares (m.filtersAt ref)

theorem followsEach_iff (hb : m.bearerOf ref = some b) (updates : List TftUpdate) :
    FollowsEach ref m updates ↔ SparesEach ref m updates := by
  induction updates generalizing m b with
  | nil => exact Iff.rfl
  | cons u updates ih =>
    refine and_congr (forall_congr' fun op => forall_congr' fun hop => ?_)
      (ih (update_bearerOf hb u))
    rw [filtersAt_update hb hop]
    exact op.follows_listed_iff _

theorem mem_filtersAt_run (hb : m.bearerOf ref = some b) {updates : List TftUpdate}
    (hdec : ∀ u ∈ updates, u.raw = [] ∨ (TftOperation.decode u.raw).isSome)
    (h : FollowsEach ref m updates) {f : PacketFilter} (hf : f ∈ m.filtersAt ref)
    (hkeeps : ∀ u ∈ updates, ∀ op, TftOperation.decode u.raw = some op → op.keeps f = true) :
    f ∈ (Machine.run (update ref) m updates).filtersAt ref := by
  induction updates generalizing m b with
  | nil => exact hf
  | cons u updates ih =>
    refine ih (update_bearerOf hb u) (fun v hv => hdec v (List.mem_cons_of_mem u hv)) h.2 ?_
      fun v hv => hkeeps v (List.mem_cons_of_mem u hv)
    rcases hdec u List.mem_cons_self with hraw | hsome
    · rw [filtersAt_update_nil hb hraw]
      exact hf
    · obtain ⟨op, hop⟩ := Option.isSome_iff_exists.mp hsome
      exact (h.1 op hop f).mpr (.inl ⟨hf, hkeeps u List.mem_cons_self op hop⟩)

structure FollowsOperations (ref : BearerRef) (m : Manager) (updates : List TftUpdate) : Prop where
  each : FollowsEach ref m updates
  kept : ∀ before after, before ++ after <+: updates →
    ∀ f ∈ (Machine.run (update ref) m before).filtersAt ref,
      (∀ u ∈ after, ∀ op, TftOperation.decode u.raw = some op → op.keeps f = true) →
      f ∈ (Machine.run (update ref) m (before ++ after)).filtersAt ref

theorem run_bearerOf (hb : m.bearerOf ref = some b) (updates : List TftUpdate) :
    ∃ b', (Machine.run (update ref) m updates).bearerOf ref = some b' := by
  induction updates generalizing m b with
  | nil => exact ⟨b, hb⟩
  | cons u updates ih => exact ih (update_bearerOf hb u)

theorem follows_operations_iff (hb : m.bearerOf ref = some b) {updates : List TftUpdate}
    (hdec : ∀ u ∈ updates, u.raw = [] ∨ (TftOperation.decode u.raw).isSome) :
    FollowsOperations ref m updates ↔ SparesEach ref m updates := by
  refine ⟨fun h => (followsEach_iff hb updates).mp h.each, fun h => ?_⟩
  have heach := (followsEach_iff hb updates).mpr h
  refine ⟨heach, ?_⟩
  rintro before after ⟨rest, rfl⟩ f hf hkeeps
  obtain ⟨b', hb'⟩ := run_bearerOf hb before
  have hafter := ((Machine.guarded_append before after).mp
    ((Machine.guarded_append (before ++ after) rest).mp heach).1).2
  rw [Machine.run_append]
  refine mem_filtersAt_run hb' (fun u hu => hdec u ?_) hafter hf hkeeps
  exact List.mem_append_left rest (List.mem_append_right before hu)

end Updates

end Manager

section Runs

def voiceFilter : PacketFilter := { id := 1, precedence := 10, direction := 3 }

def videoFilter : PacketFilter := { id := 2, precedence := 20, direction := 3 }

def filteredBearer : NewBearer where
  ebi := 6
  localRXTEID := 0x2002
  remoteTXTEID := 0x6002
  pgwGTPUIP := none
  localGTPUIP := none
  qci := 1
  tft := some { filters := [voiceFilter] }

def filteredManager : Manager :=
  ((Manager.addSession {} (some (.v4 0xc0000201)) false
    { id := ⟨1, 0⟩
      s2b := some { paa := .v4 0x0a000001, pgwControlTEID := 0x5001, pgwControlIP := none
                    pgwUserTEID := 0x6001, pgwUserIP := .v4 0xc0000202
                    localControlTEID := 0x1001, localUserTEID := 0x2001, ebi := 5
                    pgwRecovery := 0 } }).1.addBearer false ⟨1, 0⟩ filteredBearer).1

def filteredRef : BearerRef := ⟨⟨1, 0⟩, 6⟩

theorem filteredManager_bearerOf : ∃ b, filteredManager.bearerOf filteredRef = some b :=
  Option.isSome_iff_exists.mp (by decide +kernel)

def fullUpdates : List TftUpdate :=
  [{ raw := [0x22, 0x31, 10, 0, 0x32, 20, 0] }, { raw := [0x82, 0x31, 5, 0, 0x32, 6, 0] }]

theorem full_updates_followed :
    Manager.FollowsOperations filteredRef filteredManager fullUpdates := by
  obtain ⟨b, hb⟩ := filteredManager_bearerOf
  refine (Manager.follows_operations_iff hb (by decide +kernel)).mpr ?_
  have htest : ∀ (m : Manager) (u : TftUpdate), ((TftOperation.decode u.raw).all fun op =>
      decide (op.Spares (m.filtersAt filteredRef))) = true →
      ∀ op, TftOperation.decode u.raw = some op → op.Spares (m.filtersAt filteredRef) := by
    intro m u h op hop
    rw [hop] at h
    exact of_decide_eq_true h
  exact Machine.Guarded.of_checks htest (by decide +kernel)

/-- To add another filter, to replace another, to delete another and to do nothing all take the
filter that is there. -/
theorem operations_ignored :
    ¬Manager.FollowsOperations filteredRef filteredManager [{ raw := [0x61, 0x32, 20, 0] }] ∧
      ¬Manager.FollowsOperations filteredRef filteredManager [{ raw := [0x81, 0x32, 20, 0] }] ∧
      ¬Manager.FollowsOperations filteredRef filteredManager [{ raw := [0xa1, 0x02] }] ∧
      ¬Manager.FollowsOperations filteredRef filteredManager [{ raw := [0xc0] }] := by
  obtain ⟨b, hb⟩ := filteredManager_bearerOf
  have hold : filteredManager.filtersAt filteredRef = [voiceFilter] := by decide +kernel
  have hlost : ∀ (u : TftUpdate) op, TftOperation.decode u.raw = some op →
      ¬op.Spares [voiceFilter] →
      ¬Manager.FollowsOperations filteredRef filteredManager [u] := by
    intro u op hop hspares h
    have := ((Manager.followsEach_iff hb [u]).mp h.each).1 op hop
    rw [hold] at this
    exact hspares this
  exact ⟨hlost _ (.add [videoFilter]) (by decide +kernel) (by decide),
    hlost _ (.replace [videoFilter]) (by decide +kernel) (by decide),
    hlost _ (.deleteFilters [2]) (by decide +kernel) (by decide),
    hlost _ .noOperation (by decide +kernel) (by decide)⟩

end Runs
end Epdg.Gtpu
