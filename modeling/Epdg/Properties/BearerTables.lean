import Epdg.Gtpu.Tables
import Epdg.Lib.Index
import Epdg.Lib.Run

/-!
The tables of the GTP-U manager against each other.

Only a local TEID is checked before it is written. A session added under an id that is still in use
hides the bearers of the old one, a bearer added under an EBI in use hides the old bearer, and a
remote TEID or a PAA in use is taken from its owner. These are the only ways in which a call makes
consistent tables inconsistent.
-/
namespace Epdg.Gtpu

namespace Manager
variable {ref : BearerRef} {index index' : UInt32 → Option BearerRef} {b : Option Bearer}

structure Consistent (m : Manager) : Prop where
  ebi : ∀ ref b, m.bearerOf ref = some b → b.ebi = ref.bearerEBI
  localTEID : Index.Exact m.bearerOf Bearer.localRXTEID m.byLocalTEID
  remoteTEID : Index.Exact m.bearerOf Bearer.remoteTXTEID m.byRemoteTEID
  paa : Index.Finds m.byID Session.paa m.byPAA

theorem consistent_empty : Consistent {} where
  ebi _ _ h := nomatch h
  localTEID := ⟨(fun _ _ h => nomatch h), fun _ _ h => nomatch h⟩
  remoteTEID := ⟨(fun _ _ h => nomatch h), fun _ _ h => nomatch h⟩
  paa _ _ h := nomatch h

section Tables
variable {m m' : Manager} {id : Session.ID} {c : Session.S2BContext} {new : Option Session}

section
variable (a : AddsSession m m' id c new)
include a

theorem AddsSession.ebi (h : ∀ ref b, m.bearerOf ref = some b → b.ebi = ref.bearerEBI) {b : Bearer}
    (hb : m'.bearerOf ref = some b) : b.ebi = ref.bearerEBI := by
  rw [a.bearerOf] at hb
  split at hb
  · obtain ⟨ds, hds, hb⟩ := Option.bind_eq_some_iff.mp hb
    obtain ⟨localIP, rfl⟩ := a.made ds hds
    rw [defaultSession_lookup] at hb
    split at hb
    · rename_i he
      cases hb
      exact he.symm
    · cases hb
  · exact h ref b hb

theorem AddsSession.replaces (key : Bearer → UInt32) {k : UInt32}
    (hkey : ∀ localIP, key (defaultBearer c c.pgwUserIP localIP) = k)
    (hindex : ∀ t, index' t = if t = k then new.map fun _ => ⟨id, c.ebi⟩ else index t) :
    Index.Replaces (fun ref => ref.sessionID = id) k key m.bearerOf m'.bearerOf index index' where
  outside ref hp := by rw [a.bearerOf, if_neg hp]
  others k' hk := by rw [hindex, if_neg hk]
  inside ref b hp hb := by
    rw [a.bearerOf, if_pos hp] at hb
    obtain ⟨ds, hds, hb⟩ := Option.bind_eq_some_iff.mp hb
    obtain ⟨localIP, rfl⟩ := a.made ds hds
    rw [defaultSession_lookup] at hb
    split at hb
    · rename_i he
      cases hb
      refine ⟨hkey localIP, ?_⟩
      rw [hindex, if_pos rfl, hds, Option.map_some, ← hp, ← he]
    · cases hb
  entry ref href := by
    rw [hindex, if_pos rfl] at href
    obtain ⟨ds, hds, rfl⟩ := Option.map_eq_some_iff.mp href
    obtain ⟨localIP, rfl⟩ := a.made ds hds
    refine ⟨rfl, defaultBearer c c.pgwUserIP localIP, ?_, hkey localIP⟩
    rw [a.bearerOf, if_pos rfl, hds, Option.bind_some, defaultSession_lookup, if_pos rfl]

theorem AddsSession.consistent_iff (h : Consistent m)
    (hfree : m.byLocalTEID c.localUserTEID = none) :
    Consistent m' ↔ (∀ e, m.bearerAt id e = none) ∧ m.byRemoteTEID c.pgwUserTEID = none ∧
      ∀ x ds, x ≠ id → m.byID x = some ds → ds.paa ≠ c.paa := by
  have hlocal := a.replaces Bearer.localRXTEID (fun _ => rfl) a.localTEID
  have hremote := a.replaces Bearer.remoteTXTEID (fun _ => rfl) a.remoteTEID
  have hpaa : Index.Replaces (· = id) c.paa Session.paa m.byID m'.byID m.byPAA m'.byPAA := by
    refine .put (fun ds hds => ?_) a.session a.paa
    obtain ⟨localIP, rfl⟩ := a.made ds hds
    rfl
  constructor
  · intro h'
    have hempty : ∀ ref : BearerRef, ref.sessionID = id → m.bearerOf ref = none := fun ref href =>
      h.localTEID.empty_of_replace h'.localTEID hlocal hfree href
    refine ⟨fun e => hempty ⟨id, e⟩ rfl, ?_, (h.paa.replace_iff hpaa).mp h'.paa⟩
    exact h.remoteTEID.free_of_replace h'.remoteTEID.finds hremote hempty
  · rintro ⟨hnone, hremoteFree, hothers⟩
    have hempty : ∀ ref : BearerRef, ref.sessionID = id → m.bearerOf ref = none := by
      rintro ⟨x, e⟩ rfl
      exact hnone e
    refine ⟨fun ref b hb => a.ebi h.ebi hb, h.localTEID.replace hlocal hempty hfree,
      h.remoteTEID.replace hremote hempty hremoteFree, (h.paa.replace_iff hpaa).mpr hothers⟩

end

theorem EditsBearer.findsPAA {ebi : UInt8} (e : EditsBearer m m' id ebi b)
    (h : Index.Finds m.byID Session.paa m.byPAA) : Index.Finds m'.byID Session.paa m'.byPAA := by
  rw [funext e.paa]
  exact h.congr (e.session Session.paa fun _ _ => rfl)

theorem EditsBearer.ebi {e : UInt8} (ed : EditsBearer m m' id e b)
    (hb : ∀ b', b = some b' → b'.ebi = e)
    (h : ∀ ref b, m.bearerOf ref = some b → b.ebi = ref.bearerEBI) {b' : Bearer}
    (hb' : m'.bearerOf ref = some b') : b'.ebi = ref.bearerEBI := by
  rw [ed.bearer] at hb'
  grind

theorem removeSession_removes {ds : Session} (h : m.byID id = some ds) {key : Bearer → UInt32}
    (hindex : ∀ t, index' t = if t ∈ ds.bearers.values.map key then none else index t) :
    Index.Removes (fun ref => ref.sessionID = id) key m.bearerOf (m.removeSession id).bearerOf index
      index' where
  inside ref hp := by
    rw [bearerOf_eq, (removeSession_lookups h).1, if_pos hp, Option.bind_none]
  outside ref hp := by
    rw [bearerOf_eq, (removeSession_lookups h).1, if_neg hp, bearerOf_eq]
  gone := by
    rintro ⟨x, e⟩ b rfl hb
    rw [hindex, if_pos (List.mem_map_of_mem ((mem_values_iff h b).mpr ⟨e, hb⟩))]
  others k hk := by
    rw [hindex, if_neg]
    intro hmem
    obtain ⟨b, hb, hkey⟩ := List.mem_map.mp hmem
    obtain ⟨e, he⟩ := (mem_values_iff h b).mp hb
    grind

theorem removeSession_consistent (h : Consistent m) (id : Session.ID) :
    Consistent (m.removeSession id) := by
  cases hds : m.byID id with
  | none =>
    rw [removeSession_none hds]
    exact h
  | some ds =>
    obtain ⟨hid, hpaa, hlocal, hremote⟩ := removeSession_lookups hds
    refine ⟨fun ref b hb => ?_, h.localTEID.remove (removeSession_removes hds hlocal),
      h.remoteTEID.remove (removeSession_removes hds hremote), ?_⟩
    · rw [bearerOf_eq, hid] at hb
      split at hb
      · cases hb
      · exact h.ebi ref b hb
    · exact h.paa.remove (.single hds hid hpaa)

theorem removeBearer_consistent (h : Consistent m) (fault : Bool) (id : Session.ID) (ebi : UInt8) :
    Consistent (m.removeBearer fault id ebi).1 := by
  cases hb : m.bearerOf ⟨id, ebi⟩ with
  | none =>
    rw [removeBearer_none hb]
    exact h
  | some b =>
    obtain ⟨hedit, hlocal, hremote⟩ := removeBearer_edits hb fault
    exact ⟨fun ref b' hb' => hedit.ebi (fun _ h => nomatch h) h.ebi hb',
      h.localTEID.remove (.single hb hedit.bearer hlocal),
      h.remoteTEID.remove (.single hb hedit.bearer hremote), hedit.findsPAA h.paa⟩

theorem updateBearer_consistent (h : Consistent m) (fault : Bool) (id : Session.ID)
    (ebi qci : UInt8) (tftRaw : Bytes) :
    Consistent (m.updateBearer fault id ebi qci tftRaw).1 := by
  cases hb : m.bearerOf ⟨id, ebi⟩ with
  | none =>
    rw [updateBearer_none hb]
    exact h
  | some b =>
    obtain ⟨hedit, hlocal, hremote⟩ := updateBearer_edits hb fault qci tftRaw
    have hkeys : ∀ {key : Bearer → UInt32}, key (b.updated qci tftRaw) = key b → ∀ ref,
        ((m.updateBearer fault id ebi qci tftRaw).1.bearerOf ref).map key =
          (m.bearerOf ref).map key := by
      intro key hkey ref
      rw [hedit.bearer]
      grind
    refine ⟨fun ref b' hb' => hedit.ebi ?_ h.ebi hb', ?_, ?_, hedit.findsPAA h.paa⟩
    · intro b2 hb2
      cases hb2
      exact h.ebi _ b hb
    · rw [funext hlocal]
      exact h.localTEID.congr (hkeys rfl)
    · rw [funext hremote]
      exact h.remoteTEID.congr (hkeys rfl)

theorem addBearer_consistent_iff (h : Consistent m) {b : NewBearer}
    (hadm : m.admitsBearer id b = true) (fault : Bool) :
    Consistent (m.addBearer fault id b).1 ↔
      m.bearerAt id b.ebi = none ∧ m.byRemoteTEID b.remoteTXTEID = none := by
  obtain ⟨ds, -, hedit, hfree, hlocalTEID, hremoteTEID⟩ := (addBearer_admitted hadm fault).2
  have hlocal : Index.Replaces (· = ⟨id, b.ebi⟩) b.localRXTEID Bearer.localRXTEID m.bearerOf _
      m.byLocalTEID _ := .put (fun b' hb' => Option.some.inj hb' ▸ rfl) hedit.bearer hlocalTEID
  have hremote : Index.Replaces (· = ⟨id, b.ebi⟩) b.remoteTXTEID Bearer.remoteTXTEID m.bearerOf _
      m.byRemoteTEID _ := .put (fun b' hb' => Option.some.inj hb' ▸ rfl) hedit.bearer hremoteTEID
  constructor
  · intro h'
    have hempty : m.bearerOf ⟨id, b.ebi⟩ = none :=
      h.localTEID.empty_of_replace h'.localTEID hlocal hfree rfl
    exact ⟨hempty, h.remoteTEID.free_of_replace h'.remoteTEID.finds hremote
      fun ref href => href ▸ hempty⟩
  · rintro ⟨hempty, hremoteFree⟩
    have hnone : ∀ ref : BearerRef, ref = ⟨id, b.ebi⟩ → m.bearerOf ref = none :=
      fun ref href => href ▸ hempty
    exact ⟨fun ref b' hb' => hedit.ebi (fun b2 hb2 => Option.some.inj hb2 ▸ rfl) h.ebi hb',
      h.localTEID.replace hlocal hnone hfree, h.remoteTEID.replace hremote hnone hremoteFree,
      hedit.findsPAA h.paa⟩

end Tables
end Manager

namespace Manager

def Fits (m : Manager) : Call → Prop
  | .addSession localGTPU _ sess => ∀ c, m.admits localGTPU sess = some c →
      (∀ e, m.bearerAt sess.id e = none) ∧ m.byRemoteTEID c.pgwUserTEID = none ∧
        ∀ x ds, x ≠ sess.id → m.byID x = some ds → ds.paa ≠ c.paa
  | .addBearer _ id b => m.admitsBearer id b = true →
      m.bearerAt id b.ebi = none ∧ m.byRemoteTEID b.remoteTXTEID = none
  | _ => True

theorem call_consistent_iff {m : Manager} (h : Consistent m) (a : Call) :
    Consistent (m.call a) ↔ m.Fits a := by
  cases a with
  | addSession localGTPU fault sess =>
    simp only [call, Fits]
    cases hadm : m.admits localGTPU sess with
    | none =>
      rw [addSession_refused hadm]
      simp_all
    | some c =>
      obtain ⟨new, hadds, -⟩ := addSession_admitted hadm fault
      have hfree : m.byLocalTEID c.localUserTEID = none := by
        have hok := (Option.filter_eq_some_iff.mp hadm).2
        simp_all
      rw [hadds.consistent_iff h hfree]
      simp_all
  | removeSession id => exact iff_of_true (removeSession_consistent h id) trivial
  | addBearer fault id b =>
    simp only [call, Fits]
    cases hadm : m.admitsBearer id b with
    | false =>
      rw [addBearer_unadmitted hadm]
      simp_all
    | true =>
      rw [addBearer_consistent_iff h hadm]
      simp_all
  | removeBearer fault id ebi => exact iff_of_true (removeBearer_consistent h fault id ebi) trivial
  | updateBearer fault id ebi qci tftRaw =>
    exact iff_of_true (updateBearer_consistent h fault id ebi qci tftRaw) trivial

/-- The tables are consistent all through a run exactly when no call takes what is in use. -/
theorem consistent_throughout_iff (calls : List Call) :
    (∀ done, done <+: calls → Consistent (Machine.run call {} done)) ↔
      Machine.Guarded call Fits {} calls :=
  Machine.invariant_iff_guarded (fun _ => True) Consistent (fun _ _ _ => trivial)
    (fun _ a _ h => call_consistent_iff h a) trivial consistent_empty calls

end Manager

section Runs

def attach (id : UInt64) (paa localTEID remoteTEID : UInt32) : Call :=
  .addSession (some (.v4 0xc0000201)) false
    { id := ⟨id, 0⟩
      s2b := some { paa := .v4 paa, pgwControlTEID := 0x5001, pgwControlIP := none
                    pgwUserTEID := remoteTEID, pgwUserIP := .v4 0xc0000202
                    localControlTEID := 0x1001, localUserTEID := localTEID, ebi := 5
                    pgwRecovery := 0 } }

theorem Manager.Consistent.sample {m : Manager} (h : m.Consistent) (ref : BearerRef)
    (id : Session.ID) (t : UInt32) :
    ((m.bearerOf ref).all fun b => m.byRemoteTEID b.remoteTXTEID = some ref) = true ∧
      ((m.byID id).all fun ds => m.byPAA ds.paa = some id) = true ∧
      ((m.byLocalTEID t).all fun ref => (m.bearerOf ref).any fun b => b.localRXTEID = t) = true := by
  refine ⟨?_, ?_, ?_⟩
  · cases hb : m.bearerOf ref with
    | none => rfl
    | some b => exact decide_eq_true (h.remoteTEID.finds ref b hb)
  · cases hds : m.byID id with
    | none => rfl
    | some ds => exact decide_eq_true (h.paa id ds hds)
  · cases href : m.byLocalTEID t with
    | none => rfl
    | some ref =>
      obtain ⟨b, hb, hkey⟩ := h.localTEID.sound t ref href
      simp_all

/-- A second session with the remote TEID of the first, with its PAA, or under its id, and a
bearer with the EBI of the default one. -/
theorem inconsistent_after_reuse :
    ¬Manager.Consistent (Machine.run Manager.call {}
        [attach 1 0x0a000001 0x2001 0x6001, attach 2 0x0a000002 0x2002 0x6001]) ∧
      ¬Manager.Consistent (Machine.run Manager.call {}
        [attach 1 0x0a000001 0x2001 0x6001, attach 2 0x0a000001 0x2002 0x6002]) ∧
      ¬Manager.Consistent (Machine.run Manager.call {}
        [attach 1 0x0a000001 0x2001 0x6001, attach 1 0x0a000001 0x2002 0x6002]) ∧
      ¬Manager.Consistent (Machine.run Manager.call {}
        [attach 1 0x0a000001 0x2001 0x6001,
          .addBearer false ⟨1, 0⟩ { ebi := 5, localRXTEID := 0x2002, remoteTXTEID := 0x6002
                                    pgwGTPUIP := none, localGTPUIP := none, qci := 9
                                    tft := none }]) := by
  refine ⟨fun h => ?_, fun h => ?_, fun h => ?_, fun h => ?_⟩
  · exact absurd (h.sample ⟨⟨1, 0⟩, 5⟩ ⟨1, 0⟩ 0x2001) (by decide +kernel)
  · exact absurd (h.sample ⟨⟨1, 0⟩, 5⟩ ⟨1, 0⟩ 0x2001) (by decide +kernel)
  · exact absurd (h.sample ⟨⟨1, 0⟩, 5⟩ ⟨1, 0⟩ 0x2001) (by decide +kernel)
  · exact absurd (h.sample ⟨⟨1, 0⟩, 5⟩ ⟨1, 0⟩ 0x2001) (by decide +kernel)

end Runs
end Epdg.Gtpu
