import Epdg.Gtpu.Counters
import Epdg.Properties.BearerTables

/-!
What the counters of a bearer show after a tick.

They are counted under the TEIDs alone. A remote TEID is chosen by the PGW, so two PGWs may choose
the same; and a packet that is encapsulated with the TEID of a bearer that has gone leaves a counter
behind, which the next bearer with the TEID starts from.
-/
namespace Epdg.Gtpu
open Traffic

namespace Manager
variable {addr teid : UInt32} {ref : BearerRef}
variable {m m' : Manager} {dir : Direction} {gone : List Bearer}

def teidOf (m : Manager) (dir : Direction) (ref : BearerRef) : Option UInt32 :=
  (m.bearerOf ref).map (Bearer.teid · dir)

theorem teidOf_eq_some :
    m.teidOf dir ref = some teid ↔ ∃ b, m.bearerOf ref = some b ∧ b.teid dir = teid :=
  Option.map_eq_some_iff

section
variable (h : Consistent m)
include h

theorem Consistent.index (dir : Direction) :
    Index.Exact m.bearerOf (Bearer.teid · dir) (m.bearersByTEID dir).lookup := by
  cases dir with
  | uplink => exact h.remoteTEID
  | downlink => exact h.localTEID

theorem Consistent.teidOf_unique {ref' : BearerRef} (hr : m.teidOf dir ref = some teid)
    (hr' : m.teidOf dir ref' = some teid) : ref = ref' := by
  obtain ⟨b, hb, hkey⟩ := teidOf_eq_some.mp hr
  obtain ⟨b', hb', hkey'⟩ := teidOf_eq_some.mp hr'
  exact (h.index dir).finds.unique hb hb' (hkey.trans hkey'.symm)

theorem Consistent.free {b : Bearer} (hremote : m.byRemoteTEID b.remoteTXTEID = none)
    (hlocal : m.byLocalTEID b.localRXTEID = none) (dir : Direction) (ref : BearerRef) :
    m.teidOf dir ref ≠ some (b.teid dir) := by
  have hfree : (m.bearersByTEID dir).lookup (b.teid dir) = none := by
    cases dir with
    | uplink => exact hremote
    | downlink => exact hlocal
  intro hr
  obtain ⟨b', hb', hkey⟩ := teidOf_eq_some.mp hr
  exact (h.index dir).finds.ne_of_free hfree hb' hkey

theorem Consistent.indexed_iff (ref : BearerRef) (teid : UInt32) :
    m.indexed dir teid = some ref ↔ m.teidOf dir ref = some teid := by
  rw [indexed, Option.filter_eq_some_iff, teidOf_eq_some]
  constructor
  · rintro ⟨hfound, -⟩
    exact (h.index dir).sound teid ref hfound
  · rintro ⟨b, hb, rfl⟩
    exact ⟨(h.index dir).finds ref b hb, by rw [hb]; rfl⟩

theorem Consistent.downlinkBearer_iff (ref : BearerRef) (teid : UInt32) :
    m.teidOf .downlink ref = some teid ↔ m.downlinkBearer teid = some ref := by
  rw [downlinkBearer, Option.filter_eq_some_iff, teidOf_eq_some]
  constructor
  · rintro ⟨b, hb, rfl⟩
    exact ⟨h.localTEID.finds ref b hb, by rw [hb]; exact decide_eq_true rfl⟩
  · rintro ⟨hfound, -⟩
    exact h.localTEID.sound teid ref hfound

end

theorem teidOf_of_uplinkBearer (h : m.uplinkBearer addr teid = some ref)
    : m.teidOf .uplink ref = some teid := by
  simp only [uplinkBearer, Option.bind_eq_bind, Option.bind_eq_some_iff] at h
  obtain ⟨id, -, ds, hds, ebi, hfind, h⟩ := h
  cases h
  have hany := List.find?_some hfind
  obtain ⟨b, hb, hteid⟩ := (Option.any_eq_true _ _).mp hany
  refine teidOf_eq_some.mpr ⟨b, ?_, of_decide_eq_true hteid⟩
  rw [bearerOf_eq, hds]
  exact hb

theorem Consistent.uplinkBearer_iff (h : Consistent m)
    (hown : ∀ ref, m.byRemoteTEID teid = some ref → m.byPAA (.v4 addr) = some ref.sessionID)
    (ref : BearerRef) : m.teidOf .uplink ref = some teid ↔ m.uplinkBearer addr teid = some ref := by
  refine ⟨fun hteid => ?_, teidOf_of_uplinkBearer⟩
  obtain ⟨b, hb, hkey⟩ := teidOf_eq_some.mp hteid
  obtain ⟨ds, hds, hlookup⟩ := bearerOf_some hb
  have hpaa := hown ref (hkey ▸ h.remoteTEID.finds ref b hb)
  -- the session has a bearer with the TEID, and it can only be this one
  obtain ⟨ref', hfound⟩ : ∃ ref', m.uplinkBearer addr teid = some ref' := by
    have hsome : (ds.bearers.keys.find? fun ebi =>
        (ds.bearers.lookup ebi).any fun b => b.remoteTXTEID = teid).isSome = true := by
      refine List.find?_isSome.mpr ⟨ref.bearerEBI, ?_, ?_⟩
      · exact AList.mem_keys.mp (AList.lookup_isSome.mp (by rw [hlookup]; rfl))
      · rw [hlookup]
        exact decide_eq_true hkey
    obtain ⟨ebi, hebi⟩ := Option.isSome_iff_exists.mp hsome
    refine ⟨⟨ref.sessionID, ebi⟩, ?_⟩
    simp only [uplinkBearer, hpaa, hds, hebi, Option.bind_eq_bind, Option.bind_some]
  rw [hfound, h.teidOf_unique hteid (teidOf_of_uplinkBearer hfound)]

structure Drops (m m' : Manager) (gone : List Bearer) : Prop where
  kept : ∀ ref b, m'.bearerOf ref = some b → m.bearerOf ref = some b
  gone : ∀ b ∈ gone, ∃ ref, m.bearerOf ref = some b ∧ m'.bearerOf ref = none

theorem Drops.refl (m : Manager) : Drops m m [] := ⟨fun _ _ h => h, fun _ hb => nomatch hb⟩

theorem Drops.teidOf (h : Drops m m' gone) (hteid : m'.teidOf dir ref = some teid)
    : m.teidOf dir ref = some teid := by
  obtain ⟨b, hb, hkey⟩ := teidOf_eq_some.mp hteid
  exact teidOf_eq_some.mpr ⟨b, h.kept ref b hb, hkey⟩

theorem Drops.free (h : Drops m m' gone) (hm : Consistent m)
    (hteid : teid ∈ gone.map (Bearer.teid · dir)) (ref : BearerRef) :
    m'.teidOf dir ref ≠ some teid := by
  intro hr
  obtain ⟨b, hb, hkey⟩ := List.mem_map.mp hteid
  obtain ⟨ref', hb', hnone⟩ := h.gone b hb
  have heq : ref = ref' :=
    hm.teidOf_unique (h.teidOf hr) (teidOf_eq_some.mpr ⟨b, hb', hkey⟩)
  rw [Manager.teidOf, heq, hnone] at hr
  cases hr

end Manager

namespace Dataplane
variable {localGTPU : Option IP} {sess : Session.Session} {o : RangeOrder} {ref : BearerRef}
  {c : Session.S2BContext} {s2bIfindex : UInt32} {fault : Option AddStep} {op : Op}
variable {d : Dataplane}

theorem halfway_drops (d : Dataplane) (op : Op) :
    d.manager.Drops (d.halfway op).manager (d.removed op) := by
  cases op with
  | removeSession id =>
    cases hds : d.manager.byID id with
    | none =>
      simp only [halfway, removed, hds]
      exact .refl _
    | some ds =>
      have hid := (Manager.removeSession_lookups hds).1
      simp only [halfway, removed, hds]
      refine ⟨fun ref b hb => ?_, fun b hb => ?_⟩
      · rw [Manager.bearerOf_eq, hid] at hb
        split at hb
        · cases hb
        · exact hb
      · obtain ⟨e, he⟩ := (Manager.mem_values_iff hds b).mp hb
        refine ⟨⟨id, e⟩, he, ?_⟩
        rw [Manager.bearerOf_eq, hid, if_pos rfl]
        rfl
  | removeBearer o id ebi =>
    cases hb : d.manager.bearerOf ⟨id, ebi⟩ with
    | none =>
      simp only [halfway, removed, hb]
      exact .refl _
    | some b =>
      have hedit := (Manager.removeBearer_edits hb false).1
      simp only [halfway, removed, hb]
      refine ⟨fun ref b' hb' => ?_, fun b' hb' => ?_⟩
      · rw [hedit.bearer] at hb'
        simp_all
      · cases List.mem_singleton.mp hb'
        exact ⟨⟨id, ebi⟩, hb, by rw [hedit.bearer, if_pos rfl]⟩
  | addSession | addBearer | updateBearer => exact .refl _

theorem halfway_removeSession (d : Dataplane) (id : Session.ID) :
    (d.halfway (.removeSession id)).manager = d.manager.removeSession id := by
  simp only [halfway]
  split
  · rename_i hnone
    exact (Manager.removeSession_none hnone).symm
  · rfl

theorem halfway_removeBearer (d : Dataplane) (o : RangeOrder) (id : Session.ID) (ebi : UInt8) :
    (d.halfway (.removeBearer o id ebi)).manager = (d.manager.removeBearer false id ebi).1 := by
  simp only [halfway]
  split
  · rename_i hnone
    rw [Manager.removeBearer_none hnone]
  · rfl

theorem halfway_consistent (h : d.manager.Consistent) (op : Op) :
    (d.halfway op).manager.Consistent := by
  cases op with
  | removeSession id =>
    rw [halfway_removeSession]
    exact Manager.removeSession_consistent h id
  | removeBearer o id ebi =>
    rw [halfway_removeBearer]
    exact Manager.removeBearer_consistent h false id ebi
  | addSession | addBearer | updateBearer => exact h

theorem addSession_succeeds (s2bIfindex : UInt32) (fault : Option AddStep) (o : RangeOrder)
    (h : d.manager.admits localGTPU sess = some c) :
    (d.addSession localGTPU s2bIfindex fault o sess).2 = true ↔
      d.addOutcome c fault = .installed := by
  obtain ⟨a, b, l, k1, k2, k3, ha, -, rfl, hk1, -, -, hk2, -, -, -, hk3⟩ :=
    admitted_writes s2bIfindex o h
  simp only [addSession, h, Option.getD_some, hk1, hk2, hk3]
  cases fault with
  | none =>
    by_cases hroute : a ∈ d.routes <;> simp [addOutcome, ha, IP.addr4, hroute, rollback]
  | some step => cases step <;> simp [addOutcome, rollback]

structure Adds (d : Dataplane) (op : Op) (ref : BearerRef) (b : Bearer) : Prop where
  bearer : (d.call op).manager.bearerOf ref = some b
  teids : ∀ dir ref', (d.call op).manager.teidOf dir ref' =
    if ref' = ref then some (b.teid dir) else (d.halfway op).manager.teidOf dir ref'
  free : ∀ dir ref', (d.halfway op).manager.teidOf dir ref' ≠ some (b.teid dir)

theorem added_addSession : d.added (.addSession localGTPU s2bIfindex fault o sess) = some ref ↔
      ∃ c, d.manager.admits localGTPU sess = some c ∧ d.addOutcome c fault = .installed ∧
        ref = ⟨sess.id, c.ebi⟩ := by
  cases hadm : d.manager.admits localGTPU sess with
  | none => simp [added, addSession_none hadm]
  | some c =>
    obtain ⟨-, -, -, -, -, -, hs2b, -⟩ := Manager.admits_eq_some hadm
    simp only [added, addSession_succeeds s2bIfindex fault o hadm, hs2b, Option.map_some,
      Option.ite_none_right_eq_some, Option.some.injEq]
    grind

theorem addSession_adds (h : d.manager.Consistent) (hadm : d.manager.admits localGTPU sess = some c)
    (hok : d.addOutcome c fault = .installed) (hempty : ∀ e, d.manager.bearerAt sess.id e = none)
    (hremote : d.manager.byRemoteTEID c.pgwUserTEID = none) :
    ∃ b, d.Adds (.addSession localGTPU s2bIfindex fault o sess) ⟨sess.id, c.ebi⟩ b := by
  obtain ⟨-, -, -, -, -, -, -, hlocal⟩ := Manager.admits_eq_some hadm
  obtain ⟨new, hadds, hnew⟩ := Manager.addSession_admitted hadm false
  have hmanager : (d.call (.addSession localGTPU s2bIfindex fault o sess)).manager =
      (d.manager.addSession localGTPU false sess).1 := by
    rw [call_managerCall, managerCall, hadm, Option.any_some, hok]
    rfl
  obtain ⟨ds, rfl⟩ : ∃ ds, new = some ds := by
    cases new with
    | none => cases hnew.mp rfl
    | some ds => exact ⟨ds, rfl⟩
  obtain ⟨l, rfl⟩ := hadds.made ds rfl
  have hbearer : ∀ ref, (d.manager.addSession localGTPU false sess).1.bearerOf ref =
      if ref = ⟨sess.id, c.ebi⟩ then some (Manager.defaultBearer c c.pgwUserIP l)
      else d.manager.bearerOf ref := by
    rintro ⟨x, e⟩
    rw [hadds.bearerOf, Option.bind_some, Manager.defaultSession_lookup]
    simp only [BearerRef.mk.injEq]
    by_cases hx : x = sess.id
    · subst hx
      rw [if_pos rfl, show d.manager.bearerOf ⟨sess.id, e⟩ = none from hempty e]
      simp only [true_and]
    · simp_all
  refine ⟨Manager.defaultBearer c c.pgwUserIP l, ?_, fun dir ref => ?_, h.free hremote hlocal⟩
  · simp_all
  · rw [hmanager, Manager.teidOf, hbearer]
    split <;> rfl

theorem addBearer_adds (h : d.manager.Consistent) {id : Session.ID} {b : NewBearer}
    (hadm : d.manager.admitsBearer id b = true)
    (hremote : d.manager.byRemoteTEID b.remoteTXTEID = none) :
    ∃ b', d.Adds (.addBearer o id b) ⟨id, b.ebi⟩ b' := by
  obtain ⟨ds, -, hedit, hlocal, -, -⟩ := (Manager.addBearer_admitted hadm false).2
  have hmanager : (d.call (.addBearer o id b)).manager = (d.manager.addBearer false id b).1 :=
    call_managerCall d _
  refine ⟨b.activate ds, ?_, fun dir ref => ?_, h.free hremote hlocal⟩
  · rw [hmanager, hedit.bearer, if_pos rfl]
  · rw [hmanager, Manager.teidOf, hedit.bearer]
    split <;> rfl

theorem call_adds (h : d.manager.Consistent) (hfits : d.manager.Fits (d.managerCall op))
    (hadded : d.added op = some ref) : ∃ b, d.Adds op ref b := by
  cases op with
  | addSession localGTPU s2bIfindex fault o sess =>
    obtain ⟨c, hadm, hok, rfl⟩ := added_addSession.mp hadded
    obtain ⟨hempty, hremote, -⟩ := hfits c hadm
    exact addSession_adds h hadm hok hempty hremote
  | addBearer o id b =>
    simp only [added, Option.ite_none_right_eq_some, Option.some.injEq] at hadded
    obtain ⟨hadm, rfl⟩ := hadded
    exact addBearer_adds h hadm (hfits hadm).2
  | removeSession | removeBearer | updateBearer => cases hadded

theorem call_keeps (hadded : d.added op = none) {dir : Direction} {teid : UInt32}
    (hteid : (d.call op).manager.teidOf dir ref = some teid) :
    (d.halfway op).manager.teidOf dir ref = some teid := by
  rw [call_managerCall] at hteid
  cases op with
  | addSession localGTPU s2bIfindex fault o sess =>
    cases hadm : d.manager.admits localGTPU sess with
    | none =>
      simp only [managerCall, Manager.call, Manager.addSession_refused hadm] at hteid
      exact hteid
    | some c =>
      have hfailed : d.addOutcome c fault ≠ .installed := by
        intro hok
        cases hadded.symm.trans (added_addSession.mpr ⟨c, hadm, hok, rfl⟩)
      have hfault : (d.manager.admits localGTPU sess).any
          (fun c => d.addOutcome c fault ≠ .installed) = true := by
        simp_all
      obtain ⟨new, hadds, hnew⟩ := Manager.addSession_admitted hadm true
      rw [managerCall, hfault, Manager.call, Manager.teidOf, hadds.bearerOf,
        hnew.mpr rfl] at hteid
      split at hteid
      · cases hteid
      · exact hteid
  | removeSession id =>
    rw [halfway_removeSession]
    exact hteid
  | removeBearer o id ebi =>
    rw [halfway_removeBearer]
    exact hteid
  | addBearer o id b =>
    have hadm : d.manager.admitsBearer id b = false := by
      simpa [added] using hadded
    simp only [managerCall, Manager.call, Manager.addBearer_unadmitted hadm] at hteid
    exact hteid
  | updateBearer o id ebi qci tftRaw =>
    cases hb : d.manager.bearerOf ⟨id, ebi⟩ with
    | none =>
      simp only [managerCall, Manager.call, Manager.updateBearer_none hb] at hteid
      exact hteid
    | some b =>
      have hedit := (Manager.updateBearer_edits hb false qci tftRaw).1
      rw [managerCall, Manager.call, Manager.teidOf, hedit.bearer] at hteid
      split at hteid
      · rename_i href
        rw [href, halfway, Manager.teidOf, hb]
        cases dir <;> exact hteid
      · exact hteid

end Dataplane

namespace Metered
variable {p : Packet} {dir : Direction} {op : Dataplane.Op} {packets : List Packet}
variable {s : Metered}

structure Sound (s : Metered) : Prop where
  tables : s.plane.manager.Consistent
  meters : ∀ dir, (s.meters dir).Keeps (s.plane.manager.teidOf dir)

def PacketFits (s : Metered) : Packet → Prop
  | .uplink room skb => ∀ addr teid bytes ref,
      encapCount s.plane.maps room skb = some (addr, teid, bytes) →
        s.plane.manager.byRemoteTEID teid = some ref →
          s.plane.manager.byPAA (.v4 addr) = some ref.sessionID
  | .downlink _ => True

structure CallFits (s : Metered) (op : Dataplane.Op) (packets : List Packet) : Prop where
  tables : s.plane.manager.Fits (s.plane.managerCall op)
  during : Machine.Guarded forward PacketFits (s.release op) packets
  unused : ∀ ref b, s.plane.added op = some ref → (s.plane.call op).manager.bearerOf ref = some b →
    ∀ dir, ((s.middle op packets).meters dir).counters.lookup (b.teid dir) = none

def Fits (s : Metered) : Event → Prop
  | .call op packets => s.CallFits op packets
  | .packet p => s.PacketFits p
  | .tick .. => True

theorem sound_start (localIP : UInt32) (validatePeer : Bool) :
    Sound { localIP := localIP, validatePeer := validatePeer } :=
  ⟨Manager.consistent_empty, fun _ => Meter.keeps_empty.shrink fun _ _ h => nomatch h⟩

theorem forward_plane (s : Metered) (p : Packet) : (s.forward p).plane = s.plane := by
  unfold forward
  split <;> rfl

theorem middle_plane (s : Metered) (op : Dataplane.Op) (packets : List Packet) :
    (s.middle op packets).plane = s.plane.halfway op :=
  Machine.run_invariant (fun s' : Metered => s'.plane = s.plane.halfway op)
    (fun s' p h => (forward_plane s' p).trans h) rfl packets

theorem counted_owner (h : s.Sound) (hp : s.PacketFits p) {teid : UInt32} {owner : Option BearerRef}
    {bytes : Nat} (hcounted : s.counted p = some (dir, teid, owner, bytes)) (ref : BearerRef) :
    s.plane.manager.teidOf dir ref = some teid ↔ owner = some ref := by
  cases p with
  | uplink room skb =>
    obtain ⟨⟨addr, teid, bytes⟩, hencap, heq⟩ := Option.map_eq_some_iff.mp hcounted
    cases heq
    exact h.tables.uplinkBearer_iff (fun ref' href' => hp addr teid bytes ref' hencap href') ref
  | downlink frame =>
    obtain ⟨⟨teid, bytes⟩, -, heq⟩ := Option.map_eq_some_iff.mp hcounted
    cases heq
    exact h.tables.downlinkBearer_iff ref teid

theorem Sound.forward (h : s.Sound) (hp : s.PacketFits p) : (s.forward p).Sound := by
  cases hcounted : s.counted p with
  | none =>
    simp only [Metered.forward, hcounted]
    exact h
  | some c =>
    obtain ⟨dir, teid, owner, bytes⟩ := c
    simp only [Metered.forward, hcounted]
    refine ⟨h.tables, fun dir' => ?_⟩
    dsimp only [onMeters]
    split
    · rename_i hdir
      subst hdir
      exact (h.meters dir').count bytes (counted_owner h hp hcounted)
    · exact h.meters dir'

theorem Sound.release (h : s.Sound) (op : Dataplane.Op) : (s.release op).Sound := by
  have hdrops := s.plane.halfway_drops op
  refine ⟨Dataplane.halfway_consistent h.tables op, fun dir => ?_⟩
  refine Meter.Keeps.releaseAll ((h.meters dir).shrink fun ref teid => hdrops.teidOf) ?_
  exact fun teid hteid ref => hdrops.free h.tables hteid ref

theorem Sound.middle (h : s.Sound)
    (hpackets : Machine.Guarded Metered.forward PacketFits (s.release op) packets) :
    (s.middle op packets).Sound :=
  hpackets.invariant Sound (fun _ _ hs hp => hs.forward hp) (h.release op)

theorem Sound.call (h : s.Sound) (hfits : s.CallFits op packets) : (s.call op packets).Sound := by
  have hmiddle := h.middle hfits.during
  have hmeters : ∀ dir, ((s.middle op packets).meters dir).Keeps
      ((s.plane.halfway op).manager.teidOf dir) := by
    intro dir
    rw [← middle_plane s op packets]
    exact hmiddle.meters dir
  refine ⟨?_, fun dir => ?_⟩
  · rw [show (s.call op packets).plane = s.plane.call op from rfl, Dataplane.call_managerCall]
    exact (Manager.call_consistent_iff h.tables _).mpr hfits.tables
  · dsimp only [Metered.call, onMeters]
    cases hadded : s.plane.added op with
    | none => exact (hmeters dir).shrink fun ref teid => Dataplane.call_keeps hadded
    | some ref =>
      obtain ⟨b, hadds⟩ := Dataplane.call_adds h.tables hfits.tables hadded
      exact (hmeters dir).install (hadds.teids dir) (hadds.free dir)
        (hfits.unused ref b hadded hadds.bearer dir)

theorem leads_indexed (h : s.plane.manager.Consistent) (dir : Direction) :
    Meter.Leads (s.plane.manager.teidOf dir) (s.plane.manager.indexed dir) :=
  fun teid ref hindexed => (h.indexed_iff ref teid).mp hindexed

theorem Sound.tick (h : s.Sound) (order : Direction → TeidOrder) (now : Nat) :
    (s.syncBearerCounters order now).Sound :=
  ⟨h.tables, fun dir => (h.meters dir).readAll (leads_indexed h.tables dir) _⟩

theorem Sound.step (h : s.Sound) {e : Event} (hfits : s.Fits e) : (s.step e).Sound := by
  cases e with
  | call op packets => exact h.call hfits
  | packet p => exact h.forward hfits
  | tick order now => exact h.tick order now

def Exact (s : Metered) : Prop :=
  ∀ ref b, s.plane.manager.bearerOf ref = some b → ∀ dir,
    ((s.meters dir).seenBy ref).count = since ref (s.meters dir).log

theorem Sound.exact (h : s.Sound) (order : Direction → TeidOrder) (now : Nat) :
    (s.syncBearerCounters order now).Exact := by
  intro ref b hb dir
  have hteid : s.plane.manager.teidOf dir ref = some (b.teid dir) :=
    Manager.teidOf_eq_some.mpr ⟨b, hb, rfl⟩
  have hindexed := (h.tables.indexed_iff ref (b.teid dir)).mpr hteid
  have hmem : b.teid dir ∈ (order dir).order (s.plane.manager.bearersByTEID dir).keys := by
    have hfound := (h.tables.index dir).finds ref b hb
    refine ((order dir).perm _).mem_iff.mpr (AList.mem_keys.mp (AList.lookup_isSome.mp ?_))
    rw [hfound]
    rfl
  dsimp only [syncBearerCounters, onMeters]
  rw [Meter.readAll_log]
  exact (h.meters dir).count_readAll (leads_indexed h.tables dir) hteid hindexed hmem

theorem counters_exact_after_tick (localIP : UInt32) (validatePeer : Bool) (events : List Event)
    (hfits : Machine.Guarded Metered.step Fits { localIP, validatePeer } events)
    (order : Direction → TeidOrder) (now : Nat) :
    ((Machine.run Metered.step { localIP, validatePeer } events).syncBearerCounters order
      now).Exact := by
  have hsound : (Machine.run Metered.step { localIP, validatePeer } events).Sound :=
    hfits.invariant Sound (fun _ _ h hfits => h.step hfits) (sound_start localIP validatePeer)
  exact hsound.exact order now

section Runs

def attachAt (id : UInt64) (paa pgw localTEID remoteTEID : UInt32) : Event :=
  .call (.addSession (some (.v4 0xc0000201)) 2 none ⟨fun bs => bs, fun _ => .refl _⟩
    { id := ⟨id, 0⟩
      s2b := some { paa := .v4 paa, pgwControlTEID := 0x5001, pgwControlIP := none
                    pgwUserTEID := remoteTEID, pgwUserIP := .v4 pgw
                    localControlTEID := 0x1001, localUserTEID := localTEID, ebi := 5
                    pgwRecovery := 0 } }) []

def fromUE (addr : UInt32) : Packet :=
  .uplink true
    { protocol := ethPIP
      packet := [0x45, 0, 0, 28, 0, 0, 0, 0, 64, 17, 0, 0] ++ Bytes.putUint32 addr ++
        [192, 0, 2, 9, 0x13, 0xc4, 0x13, 0xc4, 0, 8, 0, 0] }

def toUE (addr teid : UInt32) : Packet :=
  .downlink (List.replicate 12 0 ++ [0x08, 0x00] ++
    [0x45, 0, 0, 56, 0, 0, 0, 0, 64, 17, 0, 0, 192, 0, 2, 2, 192, 0, 2, 1] ++
    [0x08, 0x68, 0x08, 0x68, 0, 36, 0, 0] ++ [0x30, 0xff, 0, 20] ++ Bytes.putUint32 teid ++
    [0x45, 0, 0, 20, 0, 0, 0, 0, 64, 1, 0, 0, 192, 0, 2, 9] ++ Bytes.putUint32 addr)

def inOrder (_ : Direction) : TeidOrder := ⟨fun teids => teids, fun _ => .refl _⟩

def start : Metered := { localIP := 0xc0000201, validatePeer := true }

def shows (events : List Event) (dir : Direction) (ref : BearerRef) : Option (Count × Count) :=
  let s := (Machine.run Metered.step start events).syncBearerCounters inOrder 1
  (s.plane.manager.bearerOf ref).map fun _ =>
    (((s.meters dir).seenBy ref).count, since ref (s.meters dir).log)

theorem Exact.shows {events : List Event} {ref : BearerRef} {seen sent : Count}
    (h : ((Machine.run Metered.step start events).syncBearerCounters inOrder 1).Exact)
    (hshows : Metered.shows events dir ref = some (seen, sent)) : seen = sent := by
  obtain ⟨b, hb, heq⟩ := Option.map_eq_some_iff.mp hshows
  obtain ⟨rfl, rfl⟩ := Prod.mk.inj heq
  exact h ref b hb dir

def oneBearer : List Event :=
  [attachAt 1 0x0a000001 0xc0000202 0x2001 0x6001, .packet (fromUE 0x0a000001),
    .packet (toUE 0x0a000001 0x2001)]

example : shows oneBearer .uplink ⟨⟨1, 0⟩, 5⟩ = some (⟨1, 28⟩, ⟨1, 28⟩) ∧
    shows oneBearer .downlink ⟨⟨1, 0⟩, 5⟩ = some (⟨1, 20⟩, ⟨1, 20⟩) := by decide +kernel

theorem one_bearer_exact :
    Machine.Guarded Metered.step Fits start oneBearer ∧
      ((Machine.run Metered.step start oneBearer).syncBearerCounters inOrder 1).Exact := by
  have hattach : start.Fits (attachAt 1 0x0a000001 0xc0000202 0x2001 0x6001) :=
    ⟨fun c _ => ⟨fun _ => rfl, rfl, fun _ _ _ h => nomatch h⟩, trivial, fun _ _ _ _ _ => rfl⟩
  have hencap : encapCount (start.step
        (attachAt 1 0x0a000001 0xc0000202 0x2001 0x6001)).plane.maps true
        { protocol := ethPIP
          packet := [0x45, 0, 0, 28, 0, 0, 0, 0, 64, 17, 0, 0] ++ Bytes.putUint32 0x0a000001 ++
            [192, 0, 2, 9, 0x13, 0xc4, 0x13, 0xc4, 0, 8, 0, 0] } =
      some (0x0a000001, 0x6001, 28) := by decide +kernel
  have hindex : (start.step
        (attachAt 1 0x0a000001 0xc0000202 0x2001 0x6001)).plane.manager.byRemoteTEID 0x6001 =
      some ⟨⟨1, 0⟩, 5⟩ := by decide +kernel
  have hpacket : (start.step (attachAt 1 0x0a000001 0xc0000202 0x2001 0x6001)).PacketFits
      (fromUE 0x0a000001) := by
    intro addr teid bytes ref hcount hfound
    cases hencap.symm.trans hcount
    cases hindex.symm.trans hfound
    decide +kernel
  have hfits : Machine.Guarded Metered.step Fits start oneBearer :=
    ⟨hattach, hpacket, trivial, trivial⟩
  exact ⟨hfits, counters_exact_after_tick _ _ oneBearer hfits inOrder 1⟩

def sharedTEID : List Event :=
  [attachAt 1 0x0a000001 0xc0000202 0x2001 0x6001, attachAt 2 0x0a000002 0xc0000203 0x2002 0x6001,
    .packet (fromUE 0x0a000001)]

def dedicated (localTEID : UInt32) : Dataplane.Op :=
  .addBearer ⟨fun bs => bs, fun _ => .refl _⟩ ⟨1, 0⟩
    { ebi := 6, localRXTEID := localTEID, remoteTXTEID := 0x6002, pgwGTPUIP := none
      localGTPUIP := none, qci := 1
      tft := some { filters := [{ id := 1, precedence := 10, direction := 1, hasProtocol := true
                                  protocol := ipprotoUDP }] } }

def reusedTEID : List Event :=
  [attachAt 1 0x0a000001 0xc0000202 0x2001 0x6001, .call (dedicated 0x2002) [],
    .call (.removeBearer ⟨fun bs => bs, fun _ => .refl _⟩ ⟨1, 0⟩ 6) [fromUE 0x0a000001],
    .call (dedicated 0x2003) []]

/-- The packet is shown for the other session, or for a bearer that nothing was sent on. -/
theorem counters_by_teid_alone :
    shows sharedTEID .uplink ⟨⟨1, 0⟩, 5⟩ = some (⟨0, 0⟩, ⟨1, 28⟩) ∧
      shows sharedTEID .uplink ⟨⟨2, 0⟩, 5⟩ = some (⟨1, 28⟩, ⟨0, 0⟩) ∧
      shows reusedTEID .uplink ⟨⟨1, 0⟩, 6⟩ = some (⟨1, 28⟩, ⟨0, 0⟩) ∧
      ¬((Machine.run Metered.step start sharedTEID).syncBearerCounters inOrder 1).Exact ∧
      ¬((Machine.run Metered.step start reusedTEID).syncBearerCounters inOrder 1).Exact := by
  have hshared : shows sharedTEID .uplink ⟨⟨1, 0⟩, 5⟩ = some (⟨0, 0⟩, ⟨1, 28⟩) ∧
      shows sharedTEID .uplink ⟨⟨2, 0⟩, 5⟩ = some (⟨1, 28⟩, ⟨0, 0⟩) := by decide +kernel
  have hreused : shows reusedTEID .uplink ⟨⟨1, 0⟩, 6⟩ = some (⟨1, 28⟩, ⟨0, 0⟩) := by
    decide +kernel
  refine ⟨hshared.1, hshared.2, hreused, fun h => ?_, fun h => ?_⟩
  · cases h.shows hshared.1
  · cases h.shows hreused

end Runs

end Metered
end Epdg.Gtpu
