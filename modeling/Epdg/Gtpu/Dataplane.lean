import Epdg.Gtpu.KernelMaps
import Epdg.Gtpu.Tables
import Mathlib.Data.Finset.Option

/-!
The GTP-U manager with both BPF programs attached: the calls of `internal/gtpu/dataplane.go` with
what they write to the BPF maps and the routes.

`Gtpu.Manager` has the tables alone and takes the outcome of the map writes as a flag. Here the maps
decide it; `Dataplane.call_manager` says that the tables are those of the same call there.
-/
namespace Epdg.Gtpu

structure Dataplane where
  manager : Manager := {}
  maps : KernelMaps := {}
  /-- The host routes of the PAAs. -/
  routes : Finset UInt32 := ∅

inductive AddStep where
  | teidMap
  | link
  | ueSessionMap
  | tftRules
  | route
  deriving DecidableEq, Repr

namespace Dataplane

def rollback (d : Dataplane) (localGTPU : Option IP) (sess : Session.Session)
    (maps : KernelMaps) : Dataplane × Bool :=
  ({ d with manager := (d.manager.addSession localGTPU true sess).1, maps }, false)

def addSession (d : Dataplane) (localGTPU : Option IP) (s2bIfindex : UInt32)
    (fault : Option AddStep) (o : RangeOrder) (sess : Session.Session) : Dataplane × Bool :=
  match d.manager.admits localGTPU sess with
  | none => (d, false)
  | some c =>
    let fails (step : AddStep) : Bool := fault = some step
    let localIP := localGTPU.getD IP.ipv4zero
    match d.maps.addTEID c.localUserTEID c.paa c.pgwUserIP with
    | none => d.rollback localGTPU sess d.maps
    | some k1 =>
      if fails .teidMap then d.rollback localGTPU sess d.maps
      else
        match k1.addUESession c.paa c.pgwUserTEID c.pgwUserIP localIP s2bIfindex with
        | none => d.rollback localGTPU sess (k1.removeTEID c.localUserTEID)
        | some k2 =>
          if fails .link || fails .ueSessionMap then
            d.rollback localGTPU sess (k1.removeTEID c.localUserTEID)
          else
            match k2.syncTFTRules o
              (Manager.defaultSession sess.id c c.pgwUserIP localIP) with
            | none =>
              d.rollback localGTPU sess
                ((k2.removeUESession c.paa).removeTEID c.localUserTEID)
            | some k3 =>
              if fails .tftRules || fails .route ||
                  c.paa.addr4.all (fun addr => addr ∈ d.routes) then
                d.rollback localGTPU sess
                  ((k3.removeUESession c.paa).removeTEID c.localUserTEID)
              else
                ({ manager := (d.manager.addSession localGTPU false sess).1
                   maps := k3
                   routes := d.routes ∪ c.paa.addr4.toFinset }, true)

def removeTEIDs (k : KernelMaps) (bearers : List Bearer) : KernelMaps :=
  bearers.foldl (fun k b => k.removeTEID b.localRXTEID) k

def removeSession (d : Dataplane) (id : Session.ID) : Dataplane :=
  match d.manager.byID id with
  | none => d
  | some ds =>
    { manager := d.manager.removeSession id
      maps := (removeTEIDs d.maps ds.bearers.values).removeUESession ds.paa
      routes := d.routes \ ds.paa.addr4.toFinset }

def synced (d : Dataplane) (o : RangeOrder) (id : Session.ID) : Dataplane × Bool :=
  match (d.manager.byID id).bind (d.maps.syncTFTRules o) with
  | none => (d, false)
  | some maps => ({ d with maps }, true)

def addBearer (d : Dataplane) (o : RangeOrder) (id : Session.ID) (b : NewBearer) :
    Dataplane × Bool :=
  match d.manager.admitsBearer id b, d.manager.byID id with
  | true, some ds =>
    synced { d with
      manager := (d.manager.addBearer false id b).1
      maps := (d.maps.addTEID b.localRXTEID ds.paa (b.pgwGTPUIP.getD ds.pgwGTPUIP)).getD
        d.maps } o id
  | _, _ => (d, false)

def removeBearer (d : Dataplane) (o : RangeOrder) (id : Session.ID) (ebi : UInt8) :
    Dataplane × Bool :=
  match d.manager.bearerOf ⟨id, ebi⟩ with
  | none => (d, true)
  | some b =>
    synced { d with
      manager := (d.manager.removeBearer false id ebi).1
      maps := d.maps.removeTEID b.localRXTEID } o id

def updateBearer (d : Dataplane) (o : RangeOrder) (id : Session.ID) (ebi qci : UInt8)
    (tftRaw : Bytes) : Dataplane × Bool :=
  match d.manager.bearerOf ⟨id, ebi⟩ with
  | none => (d, false)
  | some _ =>
    synced { d with manager := (d.manager.updateBearer false id ebi qci tftRaw).1 } o id

inductive Op where
  | addSession (localGTPU : Option IP) (s2bIfindex : UInt32) (fault : Option AddStep)
      (o : RangeOrder) (sess : Session.Session)
  | removeSession (id : Session.ID)
  | addBearer (o : RangeOrder) (id : Session.ID) (b : NewBearer)
  | removeBearer (o : RangeOrder) (id : Session.ID) (ebi : UInt8)
  | updateBearer (o : RangeOrder) (id : Session.ID) (ebi qci : UInt8) (tftRaw : Bytes)

def call (d : Dataplane) : Op → Dataplane
  | .addSession localGTPU s2bIfindex fault o sess =>
    (d.addSession localGTPU s2bIfindex fault o sess).1
  | .removeSession id => d.removeSession id
  | .addBearer o id b => (d.addBearer o id b).1
  | .removeBearer o id ebi => (d.removeBearer o id ebi).1
  | .updateBearer o id ebi qci tftRaw => (d.updateBearer o id ebi qci tftRaw).1

inductive AddOutcome where
  | installed
  | early
  | late
  deriving DecidableEq, Repr

def AddOutcome.entry {τ : Type} (new old : Option τ) : AddOutcome → Option τ
  | .installed => new
  | .early => old
  | .late => none

def addOutcome (d : Dataplane) (c : Session.S2BContext) : Option AddStep → AddOutcome
  | some .teidMap | some .link | some .ueSessionMap => .early
  | some .tftRules | some .route => .late
  | none => if c.paa.addr4.all (fun addr => addr ∈ d.routes) then .late else .installed

structure AddsTunnel (k k' : KernelMaps) (c : Session.S2BContext) (a b : UInt32)
    (outcome : AddOutcome) : Prop where
  others : ∀ t, t ≠ c.localUserTEID → k'.teidAt t = k.teidAt t
  installed : outcome = .installed → k'.teidAt c.localUserTEID = some ⟨a, b⟩
  failed : outcome ≠ .installed →
    k'.teidAt c.localUserTEID = none ∨ k'.teidAt c.localUserTEID = k.teidAt c.localUserTEID
  tunnel : ∀ p, k'.tunnelAt p =
    if p = a then outcome.entry (some (c.pgwUserTEID, b)) (k.tunnelAt p) else k.tunnelAt p

end Dataplane

namespace KernelMaps
variable {k : KernelMaps}

theorem removeTEID_teidAt (k : KernelMaps) (teid t : UInt32) :
    (k.removeTEID teid).teidAt t = if t = teid then none else k.teidAt t :=
  Table.lookup_erase_ite _ _ _

theorem removeUESession_teidAt (k : KernelMaps) (paa : IP) (t : UInt32) :
    (k.removeUESession paa).teidAt t = k.teidAt t := by
  cases h : paa.addr4 with
  | none => simp only [removeUESession, h]
  | some a => simp only [removeUESession, h, teidAt, clearTFTRules]

theorem removeUESession_tunnelAt (k : KernelMaps) (a p : UInt32) :
    (k.removeUESession (.v4 a)).tunnelAt p = if p = a then none else k.tunnelAt p := by
  simp only [removeUESession, IP.addr4, tunnelAt, clearTFTRules, Table.lookup_erase_ite]
  split <;> rfl

end KernelMaps

namespace Dataplane
variable {o : RangeOrder} {ebi : UInt8}
variable {d : Dataplane} {localGTPU : Option IP} {sess : Session.Session} {c : Session.S2BContext}

theorem addSession_none (h : d.manager.admits localGTPU sess = none) (s2bIfindex : UInt32)
    (fault : Option AddStep) (o : RangeOrder) :
    d.addSession localGTPU s2bIfindex fault o sess = (d, false) := by
  simp only [addSession, h]

section Steps
variable {k k1 k3 : KernelMaps} {a b : UInt32}

theorem AddsTunnel.unchanged (k : KernelMaps) (c : Session.S2BContext) (a b : UInt32) :
    AddsTunnel k k c a b .early :=
  ⟨fun _ _ => rfl, (fun h => nomatch h), fun _ => .inr rfl, fun _ => (ite_self _).symm⟩

theorem AddsTunnel.of_early
    (hteid : ∀ t, k1.teidAt t = if t = c.localUserTEID then some ⟨a, b⟩ else k.teidAt t)
    (htunnel : ∀ p, k1.tunnelAt p = k.tunnelAt p) :
    AddsTunnel k (k1.removeTEID c.localUserTEID) c a b .early where
  others t ht := by rw [KernelMaps.removeTEID_teidAt, if_neg ht, hteid, if_neg ht]
  installed h := nomatch h
  failed _ := .inl (by rw [KernelMaps.removeTEID_teidAt, if_pos rfl])
  tunnel p := (htunnel p).trans (ite_self _).symm

variable (hteid : ∀ t, k3.teidAt t = if t = c.localUserTEID then some ⟨a, b⟩ else k.teidAt t)
  (htunnel : ∀ p, k3.tunnelAt p = if p = a then some (c.pgwUserTEID, b) else k.tunnelAt p)
include hteid htunnel

theorem AddsTunnel.of_late :
    AddsTunnel k ((k3.removeUESession (.v4 a)).removeTEID c.localUserTEID) c a b .late where
  others t ht := by
    rw [KernelMaps.removeTEID_teidAt, if_neg ht, KernelMaps.removeUESession_teidAt, hteid,
      if_neg ht]
  installed h := nomatch h
  failed _ := .inl (by rw [KernelMaps.removeTEID_teidAt, if_pos rfl])
  tunnel p := by
    refine (KernelMaps.removeUESession_tunnelAt k3 a p).trans ?_
    split
    · rfl
    · simp_all

theorem AddsTunnel.of_installed : AddsTunnel k k3 c a b .installed where
  others t ht := by rw [hteid, if_neg ht]
  installed _ := by rw [hteid, if_pos rfl]
  failed h := absurd rfl h
  tunnel := htunnel

end Steps

theorem admitted_writes (s2bIfindex : UInt32) (o : RangeOrder)
    (h : d.manager.admits localGTPU sess = some c) :
    ∃ a b l k1 k2 k3, c.paa = .v4 a ∧ c.pgwUserIP = .v4 b ∧ localGTPU = some (.v4 l) ∧
      d.maps.addTEID c.localUserTEID c.paa c.pgwUserIP = some k1 ∧
      (∀ t, k1.teidAt t = if t = c.localUserTEID then some ⟨a, b⟩ else d.maps.teidAt t) ∧
      (∀ p, k1.tunnelAt p = d.maps.tunnelAt p) ∧
      k1.addUESession c.paa c.pgwUserTEID c.pgwUserIP (.v4 l) s2bIfindex = some k2 ∧
      (∀ t, k2.teidAt t = k1.teidAt t) ∧
      (∀ p, k2.tunnelAt p = if p = a then some (c.pgwUserTEID, b) else k1.tunnelAt p) ∧
      k2.ueSessionMap.lookup a = some ⟨c.pgwUserTEID, b, l, s2bIfindex, 0⟩ ∧
      k2.syncTFTRules o (Manager.defaultSession sess.id c c.pgwUserIP (.v4 l)) = some k3 := by
  obtain ⟨a, b, l, ha, hb, hlocal, -, -⟩ := Manager.admits_eq_some h
  obtain ⟨k1, hk1, hteid1, htunnel1⟩ : ∃ k1,
      d.maps.addTEID c.localUserTEID c.paa c.pgwUserIP = some k1 ∧
      (∀ t, k1.teidAt t = if t = c.localUserTEID then some ⟨a, b⟩ else d.maps.teidAt t) ∧
      ∀ p, k1.tunnelAt p = d.maps.tunnelAt p := by
    rw [ha, hb]
    exact ⟨_, rfl, fun _ => Table.lookup_insert_ite _ _ _ _, fun _ => rfl⟩
  obtain ⟨k2, hk2, hteid2, htunnel2, hentry⟩ : ∃ k2,
      k1.addUESession c.paa c.pgwUserTEID c.pgwUserIP (.v4 l) s2bIfindex = some k2 ∧
      (∀ t, k2.teidAt t = k1.teidAt t) ∧
      (∀ p, k2.tunnelAt p = if p = a then some (c.pgwUserTEID, b) else k1.tunnelAt p) ∧
      k2.ueSessionMap.lookup a = some ⟨c.pgwUserTEID, b, l, s2bIfindex, 0⟩ := by
    rw [ha, hb]
    refine ⟨_, rfl, fun _ => rfl, fun p => ?_, (Table.lookup_insert_ite _ _ _ _).trans (if_pos rfl)⟩
    simp only [KernelMaps.tunnelAt, Table.lookup_insert_ite]
    split <;> rfl
  have hsome : (k2.ueSessionMap.lookup a).isSome := by grind
  obtain ⟨k3, hk3⟩ := Option.isSome_iff_exists.mp (KernelMaps.syncTFTRules_isSome o
    (show (Manager.defaultSession sess.id c c.pgwUserIP (.v4 l)).paa = .v4 a from ha) hsome)
  simp_all

theorem addSession_some (s2bIfindex : UInt32) (fault : Option AddStep) (o : RangeOrder)
    (h : d.manager.admits localGTPU sess = some c) :
    ∃ a b, c.paa = .v4 a ∧ c.pgwUserIP = .v4 b ∧
      AddsTunnel d.maps (d.addSession localGTPU s2bIfindex fault o sess).1.maps c a b
        (d.addOutcome c fault) ∧
      (d.addSession localGTPU s2bIfindex fault o sess).1.manager =
        (d.manager.addSession localGTPU (d.addOutcome c fault ≠ .installed) sess).1 := by
  obtain ⟨a, b, l, k1, k2, k3, ha, hb, rfl, hk1, hteid1, htunnel1, hk2, hteid2, htunnel2, -, hk3⟩ :=
    admitted_writes s2bIfindex o h
  refine ⟨a, b, ha, hb, ?_⟩
  have hkeeps := KernelMaps.setTFTRules_keepsTunnels hk3
  have hteid3 : ∀ t, k3.teidAt t =
      if t = c.localUserTEID then some ⟨a, b⟩ else d.maps.teidAt t := fun t =>
    (hkeeps.teid t).trans ((hteid2 t).trans (hteid1 t))
  have htunnel3 : ∀ p, k3.tunnelAt p =
      if p = a then some (c.pgwUserTEID, b) else d.maps.tunnelAt p := by
    intro p
    rw [hkeeps.tunnel, htunnel2, htunnel1]
  have hearly := AddsTunnel.of_early hteid1 htunnel1
  have hlate := AddsTunnel.of_late hteid3 htunnel3
  simp only [addSession, h, Option.getD_some, hk1, hk2, hk3]
  cases fault with
  | none =>
    simp only [addOutcome, ha, IP.addr4, Option.all_some, reduceCtorEq, decide_false,
      Bool.false_or]
    by_cases hroute : a ∈ d.routes
    · simpa [hroute, rollback] using hlate
    · simpa [hroute] using AddsTunnel.of_installed hteid3 htunnel3
  | some step =>
    rw [ha]
    cases step with
    | teidMap => exact ⟨.unchanged _ _ _ _, rfl⟩
    | link | ueSessionMap => exact ⟨hearly, rfl⟩
    | tftRules | route => exact ⟨hlate, rfl⟩

variable {id : Session.ID} {ds : Session}

theorem removeTEIDs_teidAt (k : KernelMaps) (bearers : List Bearer) (t : UInt32) :
    (removeTEIDs k bearers).teidAt t =
      if t ∈ bearers.map Bearer.localRXTEID then none else k.teidAt t := by
  induction bearers generalizing k with
  | nil => rfl
  | cons b bearers ih =>
    refine (ih (k.removeTEID b.localRXTEID)).trans ?_
    simp only [KernelMaps.removeTEID_teidAt, List.map_cons, List.mem_cons]
    grind

theorem removeTEIDs_tunnelAt (k : KernelMaps) (bearers : List Bearer) (p : UInt32) :
    (removeTEIDs k bearers).tunnelAt p = k.tunnelAt p := by
  induction bearers generalizing k with
  | nil => rfl
  | cons b bearers ih => exact ih (k.removeTEID b.localRXTEID)

theorem removeSession_some {a : UInt32} (h : d.manager.byID id = some ds) (ha : ds.paa = .v4 a) :
    (d.removeSession id).manager = d.manager.removeSession id ∧
      (∀ t, (d.removeSession id).maps.teidAt t =
        if t ∈ ds.bearers.values.map Bearer.localRXTEID then none else d.maps.teidAt t) ∧
      ∀ p, (d.removeSession id).maps.tunnelAt p = if p = a then none else d.maps.tunnelAt p := by
  simp only [removeSession, h]
  refine ⟨trivial, fun t => ?_, fun p => ?_⟩
  · rw [KernelMaps.removeUESession_teidAt, removeTEIDs_teidAt]
  · rw [ha, KernelMaps.removeUESession_tunnelAt, removeTEIDs_tunnelAt]

theorem synced_spec (d : Dataplane) (o : RangeOrder) (id : Session.ID) :
    (d.synced o id).1.manager = d.manager ∧ d.maps.KeepsTunnels (d.synced o id).1.maps := by
  simp only [synced]
  cases h : (d.manager.byID id).bind (d.maps.syncTFTRules o) with
  | none => exact ⟨rfl, fun _ => rfl, fun _ => rfl⟩
  | some k =>
    obtain ⟨ds, -, hk⟩ := Option.bind_eq_some_iff.mp h
    exact ⟨rfl, KernelMaps.setTFTRules_keepsTunnels hk⟩

theorem addBearer_none {b : NewBearer} (h : d.manager.admitsBearer id b = false) :
    d.addBearer o id b = (d, false) := by
  simp only [addBearer, h]

theorem addBearer_some {b : NewBearer} (o : RangeOrder) (h : d.manager.admitsBearer id b = true)
    (hds : d.manager.byID id = some ds) :
    (d.addBearer o id b).1.manager = (d.manager.addBearer false id b).1 ∧
      (∀ t, (d.addBearer o id b).1.maps.teidAt t = ((d.maps.addTEID b.localRXTEID ds.paa
        (b.pgwGTPUIP.getD ds.pgwGTPUIP)).getD d.maps).teidAt t) ∧
      ∀ p, (d.addBearer o id b).1.maps.tunnelAt p = d.maps.tunnelAt p := by
  simp only [addBearer, h, hds]
  obtain ⟨hm, hkeeps⟩ := synced_spec { d with
    manager := (d.manager.addBearer false id b).1
    maps := (d.maps.addTEID b.localRXTEID ds.paa (b.pgwGTPUIP.getD ds.pgwGTPUIP)).getD
      d.maps } o id
  refine ⟨hm, hkeeps.teid, fun p => (hkeeps.tunnel p).trans ?_⟩
  cases hk : d.maps.addTEID b.localRXTEID ds.paa (b.pgwGTPUIP.getD ds.pgwGTPUIP) with
  | none => rfl
  | some k =>
    simp only [KernelMaps.addTEID, Option.bind_eq_bind, Option.bind_eq_some_iff] at hk
    obtain ⟨_, _, _, _, hk⟩ := hk
    cases hk
    rfl

theorem removeBearer_none (h : d.manager.bearerOf ⟨id, ebi⟩ = none)
    : d.removeBearer o id ebi = (d, true) := by
  simp only [removeBearer, h]

theorem removeBearer_some {b : Bearer} (o : RangeOrder)
    (h : d.manager.bearerOf ⟨id, ebi⟩ = some b) :
    (d.removeBearer o id ebi).1.manager = (d.manager.removeBearer false id ebi).1 ∧
      (∀ t, (d.removeBearer o id ebi).1.maps.teidAt t =
        if t = b.localRXTEID then none else d.maps.teidAt t) ∧
      ∀ p, (d.removeBearer o id ebi).1.maps.tunnelAt p = d.maps.tunnelAt p := by
  simp only [removeBearer, h]
  obtain ⟨hm, hkeeps⟩ := synced_spec { d with
    manager := (d.manager.removeBearer false id ebi).1
    maps := d.maps.removeTEID b.localRXTEID } o id
  refine ⟨hm, fun t => (hkeeps.teid t).trans ?_, hkeeps.tunnel⟩
  exact KernelMaps.removeTEID_teidAt _ _ _

theorem updateBearer_spec (d : Dataplane) (o : RangeOrder) (id : Session.ID) (ebi qci : UInt8)
    (tftRaw : Bytes) :
    (d.updateBearer o id ebi qci tftRaw).1.manager =
        (d.manager.updateBearer false id ebi qci tftRaw).1 ∧
      d.maps.KeepsTunnels (d.updateBearer o id ebi qci tftRaw).1.maps := by
  cases h : d.manager.bearerOf ⟨id, ebi⟩ with
  | none =>
    simp only [updateBearer, h, Manager.updateBearer_none h]
    exact ⟨trivial, fun _ => rfl, fun _ => rfl⟩
  | some b =>
    simp only [updateBearer, h]
    exact synced_spec { d with
      manager := (d.manager.updateBearer false id ebi qci tftRaw).1 } o id

def managerCall (d : Dataplane) : Op → Call
  | .addSession localGTPU _ fault _ sess =>
    .addSession localGTPU
      ((d.manager.admits localGTPU sess).any fun c => d.addOutcome c fault ≠ .installed) sess
  | .removeSession id => .removeSession id
  | .addBearer _ id b => .addBearer false id b
  | .removeBearer _ id ebi => .removeBearer false id ebi
  | .updateBearer _ id ebi qci tftRaw => .updateBearer false id ebi qci tftRaw

theorem call_managerCall (d : Dataplane) (op : Op) :
    (d.call op).manager = d.manager.call (d.managerCall op) := by
  cases op with
  | addSession localGTPU s2bIfindex fault o sess =>
    cases h : d.manager.admits localGTPU sess with
    | none =>
      rw [call, addSession_none h]
      exact (Manager.addSession_refused h _).symm
    | some c =>
      obtain ⟨a, b, -, -, -, hm⟩ := addSession_some s2bIfindex fault o h
      rw [managerCall, h]
      exact hm
  | removeSession id =>
    simp only [call, removeSession]
    split
    · rename_i h
      exact (Manager.removeSession_none h).symm
    · rfl
  | addBearer o id b =>
    cases h : d.manager.admitsBearer id b with
    | false =>
      rw [call, addBearer_none h, managerCall, Manager.call, Manager.addBearer_unadmitted h]
    | true =>
      obtain ⟨ds, hds, -⟩ := (Manager.addBearer_admitted h false).2
      exact (addBearer_some o h hds).1
  | removeBearer o id ebi =>
    cases h : d.manager.bearerOf ⟨id, ebi⟩ with
    | none =>
      rw [call, removeBearer_none h, managerCall, Manager.call, Manager.removeBearer_none h]
    | some b => exact (removeBearer_some o h).1
  | updateBearer o id ebi qci tftRaw => exact (updateBearer_spec d o id ebi qci tftRaw).1

theorem call_manager (d : Dataplane) (op : Op) :
    ∃ a, (d.call op).manager = d.manager.call a :=
  ⟨d.managerCall op, d.call_managerCall op⟩

end Dataplane
end Epdg.Gtpu
