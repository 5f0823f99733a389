import Epdg.Gtpu.Dataplane
import Epdg.Lib.Undo

/-!
The calls of the GTP-U manager with any of the two BPF programs attached and with map operations and
routes that fail.

`Gtpu.Dataplane` has both programs attached and names the step of `AddSession` that fails. Here a
fault may be at any map operation of any call, so that a rule sync can stop halfway, and the
rollback of `AddSession` runs the recorded actions.
-/
namespace Epdg.Gtpu

structure Attachments where
  bpf : Bool
  tc : Bool
  s2bLink : Option UInt32
  deriving DecidableEq, Repr

structure Faults where
  teidMap : Bool := false
  ueSessionMap : Bool := false
  tftRules : Nat → Bool := fun _ => false
  route : Bool := false

namespace KernelMaps

def putSession (addr : UInt32) (entry : UeSessionEntry) (k : KernelMaps) : KernelMaps :=
  { k with ueSessionMap := k.ueSessionMap.insert addr entry }

def deleteRule (addr : UInt32) (i : Nat) (k : KernelMaps) : KernelMaps :=
  { k with tftRuleMap := k.tftRuleMap.erase ⟨addr, i⟩ }

def putRule (addr : UInt32) (rule : Rule × Nat) (k : KernelMaps) : KernelMaps :=
  { k with tftRuleMap := k.tftRuleMap.insert ⟨addr, rule.2⟩ rule.1 }

def ruleOps (addr : UInt32) (entry : UeSessionEntry) (rules : List Rule) :
    List (KernelMaps → KernelMaps) :=
  id :: putSession addr { entry with ruleCount := 0 } ::
    ((List.range maxTCBPFTFTRules).map (deleteRule addr) ++ rules.zipIdx.map (putRule addr) ++
      [putSession addr { entry with ruleCount := rules.length }])

def trySetTFTRules (k : KernelMaps) (faults : Nat → Bool) (paa : IP) (rules : List Rule) :
    KernelMaps × Bool :=
  match paa.addr4 with
  | none => (k, false)
  | some addr =>
    if rules.length > maxTCBPFTFTRules then (k, false)
    else
      match k.ueSessionMap.lookup addr with
      | none => (k, false)
      | some entry => Undo.attempt faults (ruleOps addr entry rules) k

def trySyncTFTRules (k : KernelMaps) (att : Attachments) (faults : Nat → Bool) (o : RangeOrder)
    (ds : Session) : KernelMaps × Bool :=
  if att.tc then
    k.trySetTFTRules faults ds.paa ((buildTCBPFTFTRules o ds).take maxTCBPFTFTRules)
  else (k, true)

theorem trySetTFTRules_frame (k : KernelMaps) (faults : Nat → Bool) (paa : IP)
    (rules : List Rule) :
    (∀ t, (k.trySetTFTRules faults paa rules).1.teidAt t = k.teidAt t) ∧
      ∀ p, paa.addr4 ≠ some p → (k.trySetTFTRules faults paa rules).1.ueSessionMap.lookup p =
        k.ueSessionMap.lookup p := by
  simp only [trySetTFTRules]
  cases paa.addr4 with
  | none => exact ⟨fun _ => rfl, fun _ _ => rfl⟩
  | some addr =>
    simp only
    split
    · simp_all
    split
    · simp_all
    apply Undo.attempt_invariant (P := fun k' : KernelMaps =>
      (∀ t, k'.teidAt t = k.teidAt t) ∧ ∀ p, some addr ≠ some p → k'.ueSessionMap.lookup p = k.ueSessionMap.lookup p)
    · rintro op hop k' ⟨hteid, hsession⟩
      have hput (e : UeSessionEntry) (p : UInt32) (hp : some addr ≠ some p) :
          (putSession addr e k').ueSessionMap.lookup p = k.ueSessionMap.lookup p := by
        refine (Table.lookup_insert_ite _ _ _ _).trans ?_
        grind
      simp only [ruleOps, List.mem_cons, List.mem_append, List.mem_map, List.not_mem_nil,
        or_false] at hop
      obtain rfl | rfl | (⟨i, -, rfl⟩ | ⟨r, -, rfl⟩) | rfl := hop
      · simp_all
      · exact ⟨hteid, hput _⟩
      · exact ⟨hteid, hsession⟩
      · exact ⟨hteid, hsession⟩
      · exact ⟨hteid, hput _⟩
    · simp_all

end KernelMaps

inductive Cell where
  | session (id : Session.ID)
  | paa (ip : IP)
  | localTEID (teid : UInt32)
  | remoteTEID (teid : UInt32)
  | teid (teid : UInt32)
  | ueSession (addr : UInt32)
  | route (addr : UInt32)
  deriving DecidableEq

def Cell.Value : Cell → Type
  | session _ => Session
  | paa _ => Session.ID
  | localTEID _ | remoteTEID _ => BearerRef
  | teid _ => TeidEntry
  | ueSession _ => UeSessionEntry
  | route _ => Unit

namespace Dataplane
variable {fault : Bool} {maps : Option KernelMaps}

def view (d : Dataplane) : (cell : Cell) → Option cell.Value
  | .session id => d.manager.byID id
  | .paa ip => d.manager.byPAA ip
  | .localTEID teid => d.manager.byLocalTEID teid
  | .remoteTEID teid => d.manager.byRemoteTEID teid
  | .teid teid => d.maps.teidAt teid
  | .ueSession addr => d.maps.ueSessionMap.lookup addr
  | .route addr => if addr ∈ d.routes then some () else none

section Steps
variable (att : Attachments) (f : Faults) (localGTPU : Option IP) (o : RangeOrder)
  (sess : Session.Session) (c : Session.S2BContext)

def tablesStep : Undo.Action Dataplane Cell where
  perform d := ({ d with manager := (d.manager.addSession localGTPU false sess).1 }, true)
  undo d := { d with manager := d.manager.removeSessionState sess.id c.paa }
  cells := [.session sess.id, .paa c.paa, .localTEID c.localUserTEID, .remoteTEID c.pgwUserTEID]

def writeMaps (d : Dataplane) (fault : Bool) (maps : Option KernelMaps) : Dataplane × Bool :=
  match fault, maps with
  | false, some maps => ({ d with maps }, true)
  | _, _ => (d, false)

def teidStep : Undo.Action Dataplane Cell where
  perform d := d.writeMaps f.teidMap (d.maps.addTEID c.localUserTEID c.paa c.pgwUserIP)
  undo d := { d with maps := d.maps.removeTEID c.localUserTEID }
  cells := [.teid c.localUserTEID]

def ueSessionStep : Undo.Action Dataplane Cell where
  perform d := d.writeMaps f.ueSessionMap <| att.s2bLink.bind fun ifindex =>
    d.maps.addUESession c.paa c.pgwUserTEID c.pgwUserIP (localGTPU.getD IP.ipv4zero) ifindex
  undo d := { d with maps := d.maps.removeUESession c.paa }
  cells := c.paa.addr4.toList.map .ueSession

def rulesStep : Undo.Action Dataplane Cell where
  perform d :=
    let (maps, ok) := d.maps.trySyncTFTRules att f.tftRules o
      (Manager.defaultSession sess.id c c.pgwUserIP (localGTPU.getD IP.ipv4zero))
    ({ d with maps }, ok)

def routeStep : Undo.Action Dataplane Cell where
  perform d :=
    if f.route || c.paa.addr4.all (fun addr => addr ∈ d.routes) then (d, false)
    else ({ d with routes := d.routes ∪ c.paa.addr4.toFinset }, true)
  undo d := { d with routes := d.routes \ c.paa.addr4.toFinset }
  cells := c.paa.addr4.toList.map .route

def installSteps : List (Undo.Action Dataplane Cell) :=
  (if att.bpf then teidStep f c :: (if att.tc then [] else [routeStep f c]) else []) ++
    if att.tc then
      [ueSessionStep att f localGTPU c, rulesStep att f localGTPU o sess c, routeStep f c]
    else []

end Steps

def tryAddSession (d : Dataplane) (att : Attachments) (f : Faults) (localGTPU : Option IP)
    (o : RangeOrder) (sess : Session.Session) : Dataplane × Bool :=
  match d.manager.admits localGTPU sess with
  | none => (d, false)
  | some c =>
    Undo.run (tablesStep localGTPU sess c :: installSteps att f localGTPU o sess c) [] d

def writtenBy (d : Dataplane) (att : Attachments) (f : Faults) (localGTPU : Option IP)
    (o : RangeOrder) (sess : Session.Session) : List Cell :=
  match d.manager.admits localGTPU sess with
  | none => []
  | some c =>
    Undo.written (tablesStep localGTPU sess c :: installSteps att f localGTPU o sess c) d

def trySynced (d : Dataplane) (att : Attachments) (faults : Nat → Bool) (o : RangeOrder)
    (id : Session.ID) : Dataplane × Bool :=
  match d.manager.byID id with
  | none => (d, true)
  | some ds =>
    let (maps, ok) := d.maps.trySyncTFTRules att faults o ds
    ({ d with maps }, ok)

def tryAddBearer (d : Dataplane) (att : Attachments) (f : Faults) (o : RangeOrder)
    (id : Session.ID) (b : NewBearer) : Dataplane × Bool :=
  match d.manager.admitsBearer id b, d.manager.byID id with
  | true, some ds =>
    let maps := (d.maps.addTEID b.localRXTEID ds.paa (b.pgwGTPUIP.getD ds.pgwGTPUIP)).getD d.maps
    trySynced { d with
      manager := (d.manager.addBearer false id b).1
      maps := if att.bpf && !f.teidMap then maps else d.maps } att f.tftRules o id
  | _, _ => (d, false)

def tryRemoveBearer (d : Dataplane) (att : Attachments) (f : Faults) (o : RangeOrder)
    (id : Session.ID) (ebi : UInt8) : Dataplane × Bool :=
  match d.manager.bearerOf ⟨id, ebi⟩ with
  | none => (d, true)
  | some b =>
    trySynced { d with
      manager := (d.manager.removeBearer false id ebi).1
      maps := if att.bpf && !f.teidMap then d.maps.removeTEID b.localRXTEID else d.maps } att
      f.tftRules o id

def tryUpdateBearer (d : Dataplane) (att : Attachments) (f : Faults) (o : RangeOrder)
    (id : Session.ID) (ebi qci : UInt8) (tftRaw : Bytes) : Dataplane × Bool :=
  match d.manager.bearerOf ⟨id, ebi⟩ with
  | none => (d, false)
  | some _ =>
    trySynced { d with manager := (d.manager.updateBearer false id ebi qci tftRaw).1 } att
      f.tftRules o id

inductive BearerCall where
  | add (b : NewBearer)
  | remove (ebi : UInt8)
  | update (ebi qci : UInt8) (tftRaw : Bytes)

def tryBearer (d : Dataplane) (att : Attachments) (f : Faults) (o : RangeOrder) (id : Session.ID) :
    BearerCall → Dataplane × Bool
  | .add b => d.tryAddBearer att f o id b
  | .remove ebi => d.tryRemoveBearer att f o id ebi
  | .update ebi qci tftRaw => d.tryUpdateBearer att f o id ebi qci tftRaw

section Laws
variable {att : Attachments} {f : Faults} {localGTPU : Option IP} {o : RangeOrder}
  {sess : Session.Session} {c : Session.S2BContext} {d d' : Dataplane} {earlier : List Cell}

theorem writeMaps_true (h : d.writeMaps fault maps = (d', true))
    : ∃ k, maps = some k ∧ d' = { d with maps := k } := by
  unfold writeMaps at h
  grind

theorem writeMaps_false (h : d.writeMaps fault maps = (d', false)) : d' = d := by
  unfold writeMaps at h
  grind

theorem view_maps (d : Dataplane) (k : KernelMaps) {cells : List Cell}
    (hteid : ∀ t, .teid t ∉ cells → k.teidAt t = d.maps.teidAt t)
    (hsession : ∀ p, .ueSession p ∉ cells →
      k.ueSessionMap.lookup p = d.maps.ueSessionMap.lookup p) (cell : Cell) (hcell : cell ∉ cells) :
    view { d with maps := k } cell = d.view cell := by
  cases cell with
  | teid t => exact hteid t hcell
  | ueSession p => exact hsession p hcell
  | session | paa | localTEID | remoteTEID | route => rfl

theorem teidStep_clears : Undo.Clears view earlier (teidStep f c) where
  performed d d' h cell hcell _ := by
    obtain ⟨k, hk, rfl⟩ := writeMaps_true h
    obtain ⟨a, -, hk⟩ := Option.bind_eq_some_iff.mp hk
    obtain ⟨b, -, hk⟩ := Option.bind_eq_some_iff.mp hk
    cases hk
    refine view_maps d _ (fun t ht => ?_) (fun p _ => ?_) cell hcell
    · refine (Table.lookup_insert_ite _ _ _ _).trans (if_neg fun heq => ht ?_)
      rw [heq]
      exact List.mem_cons_self
    · rfl
  failed d d' h cell _ := by rw [writeMaps_false h]
  undone d cell := by
    split
    · rename_i hcell
      rw [List.mem_singleton.mp hcell]
      exact (KernelMaps.removeTEID_teidAt _ _ _).trans (if_pos rfl)
    rename_i hcell
    refine view_maps d _ (fun t ht => ?_) (fun p _ => ?_) cell hcell
    · rw [KernelMaps.removeTEID_teidAt, if_neg fun heq => ht ?_]
      rw [heq]
      exact List.mem_cons_self
    · rfl

theorem mem_ueSessionCells {cell : Cell} {paa : IP} :
    cell ∈ paa.addr4.toList.map Cell.ueSession ↔ ∃ p, cell = .ueSession p ∧ paa.addr4 = some p := by
  grind

theorem removeUESession_ueSession (k : KernelMaps) (paa : IP) (p : UInt32) :
    (k.removeUESession paa).ueSessionMap.lookup p =
      if paa.addr4 = some p then none else k.ueSessionMap.lookup p := by
  simp only [KernelMaps.removeUESession]
  cases paa.addr4 with
  | none => rfl
  | some a =>
    simp only [KernelMaps.clearTFTRules, Table.lookup_erase_ite, Option.some.injEq, eq_comm]

theorem ueSessionStep_clears : Undo.Clears view earlier (ueSessionStep att f localGTPU c) where
  performed d d' h cell hcell _ := by
    obtain ⟨k, hk, rfl⟩ := writeMaps_true h
    obtain ⟨ifindex, -, hk⟩ := Option.bind_eq_some_iff.mp hk
    obtain ⟨a, ha, hk⟩ := Option.bind_eq_some_iff.mp hk
    obtain ⟨b, -, hk⟩ := Option.bind_eq_some_iff.mp hk
    obtain ⟨l, -, hk⟩ := Option.bind_eq_some_iff.mp hk
    cases hk
    refine view_maps d _ (fun t _ => ?_) (fun p hp => ?_) cell hcell
    · rfl
    · refine (Table.lookup_insert_ite _ _ _ _).trans (if_neg fun heq => hp ?_)
      exact mem_ueSessionCells.mpr ⟨p, rfl, by rw [heq, ha]⟩
  failed d d' h cell _ := by rw [writeMaps_false h]
  undone d cell := by
    split
    · rename_i hcell
      obtain ⟨p, rfl, hp⟩ := mem_ueSessionCells.mp hcell
      exact (removeUESession_ueSession _ _ _).trans (if_pos hp)
    rename_i hcell
    refine view_maps d _ (fun t _ => KernelMaps.removeUESession_teidAt _ _ _) (fun p hp => ?_)
      cell hcell
    rw [removeUESession_ueSession, if_neg fun heq => hp (mem_ueSessionCells.mpr ⟨p, rfl, heq⟩)]

theorem rulesStep_clears (hpaa : ∀ p, c.paa.addr4 = some p → .ueSession p ∈ earlier) :
    Undo.Clears view earlier (rulesStep att f localGTPU o sess c) := by
  have hframe (d : Dataplane) (cell : Cell) (hcell : cell ∉ earlier) :
      view ((rulesStep att f localGTPU o sess c).perform d).1 cell = d.view cell := by
    simp only [rulesStep, KernelMaps.trySyncTFTRules]
    split
    · obtain ⟨hteid, hsession⟩ := KernelMaps.trySetTFTRules_frame d.maps f.tftRules c.paa
        ((buildTCBPFTFTRules o (Manager.defaultSession sess.id c c.pgwUserIP
          (localGTPU.getD IP.ipv4zero))).take maxTCBPFTFTRules)
      exact view_maps d _ (fun t _ => hteid t)
        (fun p hp => hsession p fun heq => hp (hpaa p heq)) cell hcell
    · rfl
  refine ⟨fun d d' h cell _ hcell => ?_, fun d d' h cell hcell => ?_, fun d cell => rfl⟩
  · grind
  · grind

theorem routeStep_clears : Undo.Clears view earlier (routeStep f c) where
  performed d d' h cell hcell _ := by
    simp only [routeStep] at h hcell
    split at h
    · cases h
    cases h
    cases cell with
    | route addr =>
      have hne : c.paa.addr4 ≠ some addr := fun heq => hcell (by simp [heq])
      simp [view, hne]
    | session | paa | localTEID | remoteTEID | teid | ueSession => rfl
  failed d d' h cell _ := by
    simp only [routeStep] at h
    grind
  undone d cell := by
    cases cell with
    | route addr => by_cases heq : c.paa.addr4 = some addr <;> simp [view, routeStep, heq]
    | session | paa | localTEID | remoteTEID | teid | ueSession =>
      exact (if_neg (by simp [routeStep])).symm

theorem installSteps_clear : Undo.AllClear view [] (installSteps att f localGTPU o sess c) := by
  have htc (earlier : List Cell) : Undo.AllClear view earlier
      [ueSessionStep att f localGTPU c, rulesStep att f localGTPU o sess c, routeStep f c] := by
    refine ⟨ueSessionStep_clears, rulesStep_clears fun p hp => ?_, routeStep_clears, trivial⟩
    exact List.mem_append_left _ (mem_ueSessionCells.mpr ⟨p, rfl, hp⟩)
  unfold installSteps
  cases att.bpf with
  | false =>
    cases att.tc with
    | false => trivial
    | true => exact htc []
  | true =>
    cases att.tc with
    | false => exact ⟨teidStep_clears, routeStep_clears, trivial⟩
    | true => exact ⟨teidStep_clears, htc _⟩

theorem session_not_written (id : Session.ID) (d : Dataplane) :
    .session id ∉ Undo.written (installSteps att f localGTPU o sess c) d := by
  intro h
  obtain ⟨a, ha, hcell⟩ := Undo.exists_of_mem_written h
  unfold installSteps at ha
  have hsteps : a = teidStep f c ∨ a = routeStep f c ∨ a = ueSessionStep att f localGTPU c ∨
      a = rulesStep att f localGTPU o sess c := by
    grind
  obtain rfl | rfl | rfl | rfl := hsteps
  · simp [teidStep] at hcell
  · simp [routeStep] at hcell
  · simp [ueSessionStep] at hcell
  · cases hcell

theorem tablesStep_undone {l : IP} (h : d.manager.byID sess.id =
      some (Manager.defaultSession sess.id c c.pgwUserIP l)) (cell : Cell) :
    view ((tablesStep localGTPU sess c).undo d) cell =
      if cell ∈ (tablesStep localGTPU sess c).cells then none else d.view cell := by
  have hremove : (tablesStep localGTPU sess c).undo d =
      { d with manager := d.manager.removeSession sess.id } := by
    have hlookup : d.manager.sessionsByID.lookup sess.id =
        some (Manager.defaultSession sess.id c c.pgwUserIP l) := h
    simp only [tablesStep, Manager.removeSessionState, Manager.removeSession, hlookup]
    rfl
  obtain ⟨hsession, hpaa, hlocal, hremote⟩ := Manager.removeSession_lookups h
  simp only [Manager.defaultSession_bearers, List.map_cons, List.map_nil, List.mem_singleton]
    at hlocal hremote
  rw [hremove]
  cases cell with
  | session id => exact (hsession id).trans (if_congr (by simp [tablesStep]) rfl rfl)
  | paa ip =>
    exact (hpaa ip).trans (if_congr (by simp [tablesStep, Manager.defaultSession]) rfl rfl)
  | localTEID t =>
    exact (hlocal t).trans (if_congr (by simp [tablesStep, Manager.defaultBearer]) rfl rfl)
  | remoteTEID t =>
    exact (hremote t).trans (if_congr (by simp [tablesStep, Manager.defaultBearer]) rfl rfl)
  | teid | ueSession | route => exact (if_neg (by simp [tablesStep])).symm

theorem view_tryAddSession_failed (h : (d.tryAddSession att f localGTPU o sess).2 = false)
    (cell : Cell) :
    (d.tryAddSession att f localGTPU o sess).1.view cell =
      if cell ∈ d.writtenBy att f localGTPU o sess then none else d.view cell := by
  cases hadm : d.manager.admits localGTPU sess with
  | none =>
    simp only [tryAddSession, writtenBy, hadm]
    simp_all
  | some c =>
    simp only [tryAddSession, writtenBy, hadm] at h ⊢
    obtain ⟨new, hadds, hnew⟩ := Manager.addSession_admitted hadm false
    obtain ⟨ds, rfl⟩ := Option.ne_none_iff_exists'.mp fun he => absurd (hnew.mp he) (by decide)
    obtain ⟨l, rfl⟩ := hadds.made ds rfl
    have hp : (tablesStep localGTPU sess c).perform d =
      ({ d with manager := (d.manager.addSession localGTPU false sess).1 }, true) := rfl
    obtain ⟨hrest, heq⟩ := Undo.run_cons_performed hp h
    have hview := fun cell => Undo.view_run_failed installSteps_clear hrest (i := cell)
      List.not_mem_nil
    rw [heq, Undo.written_cons_performed hp, tablesStep_undone (l := l) ?_]
    · by_cases hcell : cell ∈ (tablesStep localGTPU sess c).cells
      · simp_all
      rw [if_neg hcell, hview]
      simp only [List.mem_append, hcell, false_or]
      split
      · rfl
      simp only [tablesStep, List.mem_cons, List.not_mem_nil, or_false, not_or] at hcell
      cases cell with
      | session id => exact (hadds.session id).trans (if_neg (by simpa using hcell))
      | paa ip => exact (hadds.paa ip).trans (if_neg (by simpa using hcell))
      | localTEID t => exact (hadds.localTEID t).trans (if_neg (by simpa using hcell))
      | remoteTEID t => exact (hadds.remoteTEID t).trans (if_neg (by simpa using hcell))
      | teid | ueSession | route => rfl
    · -- the session that was added is still there
      refine (hview (.session sess.id)).trans ?_
      rw [if_neg (session_not_written _ _)]
      exact (hadds.session sess.id).trans (if_pos rfl)

end Laws

end Dataplane
end Epdg.Gtpu
