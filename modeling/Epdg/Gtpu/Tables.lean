import Epdg.Gtpu.Bearers

/-!
What each call of the GTP-U manager does to its tables, entry by entry.
-/
namespace Epdg.Gtpu

def Bearer.updated (b : Bearer) (qci : UInt8) (tftRaw : Bytes) : Bearer :=
  { b with qci := if qci ≠ 0 then qci else b.qci, tft := Manager.updatedTFT b.tft tftRaw }

namespace Manager
variable {ebi : UInt8} {ds : Session} {localGTPU : Option IP} {sess : Session.Session} {b : Bearer}
  {c : Session.S2BContext}

def bearerOf (m : Manager) (ref : BearerRef) : Option Bearer :=
  m.bearerAt ref.sessionID ref.bearerEBI

def byID (m : Manager) (id : Session.ID) : Option Session := m.sessionsByID.lookup id

def byPAA (m : Manager) (paa : IP) : Option Session.ID := m.sessionsByPAA.lookup paa

def byLocalTEID (m : Manager) (teid : UInt32) : Option BearerRef :=
  m.bearersByLocalTEID.lookup teid

def byRemoteTEID (m : Manager) (teid : UInt32) : Option BearerRef :=
  m.bearersByRemoteTEID.lookup teid

section Calls
variable {m m' : Manager} {id : Session.ID}

theorem bearerOf_eq (m : Manager) (ref : BearerRef) :
    m.bearerOf ref = (m.byID ref.sessionID).bind fun ds => ds.bearers.lookup ref.bearerEBI := rfl

theorem dropBearers_lookup {index : Manager → Table UInt32 BearerRef} {teid : Bearer → UInt32}
    (hdrop : ∀ m b, index (m.dropBearers [b]) = (index m).erase (teid b)) (m : Manager)
    (bs : List Bearer) (t : UInt32) :
    (index (m.dropBearers bs)).lookup t =
      if t ∈ bs.map teid then none else (index m).lookup t := by
  induction bs generalizing m with
  | nil => rfl
  | cons b bs ih =>
    have hcons : m.dropBearers (b :: bs) = (m.dropBearers [b]).dropBearers bs := rfl
    rw [hcons, ih, hdrop, Table.lookup_erase_ite, List.map_cons]
    grind

section
variable (m : Manager) (bs : List Bearer)

theorem dropBearers_byLocalTEID (t : UInt32) :
    (m.dropBearers bs).byLocalTEID t =
      if t ∈ bs.map Bearer.localRXTEID then none else m.byLocalTEID t :=
  dropBearers_lookup (fun _ _ => rfl) m bs t

theorem dropBearers_byRemoteTEID (t : UInt32) :
    (m.dropBearers bs).byRemoteTEID t =
      if t ∈ bs.map Bearer.remoteTXTEID then none else m.byRemoteTEID t :=
  dropBearers_lookup (fun _ _ => rfl) m bs t

@[simp] theorem dropBearers_sessionsByPAA : (m.dropBearers bs).sessionsByPAA = m.sessionsByPAA := by
  induction bs generalizing m with
  | nil => rfl
  | cons b bs ih => exact ih _

end

def admits (m : Manager) (localGTPU : Option IP) (sess : Session.Session) :
    Option Session.S2BContext :=
  sess.s2b.filter fun c => c.paa.isV4 && c.pgwUserIP.isV4 && localGTPU.any IP.isV4 &&
    (m.byLocalTEID c.localUserTEID).isNone

theorem admits_eq_some (h : m.admits localGTPU sess = some c) :
    ∃ a b l, c.paa = .v4 a ∧ c.pgwUserIP = .v4 b ∧ localGTPU = some (.v4 l) ∧
      sess.s2b = some c ∧ m.byLocalTEID c.localUserTEID = none := by
  obtain ⟨hc, hok⟩ := Option.filter_eq_some_iff.mp h
  simp only [Bool.and_eq_true, Option.isNone_iff_eq_none] at hok
  obtain ⟨⟨⟨hpaa, hpgw⟩, hlocal⟩, hfree⟩ := hok
  obtain ⟨l, rfl, hl⟩ := (Option.any_eq_true _ _).mp hlocal
  obtain ⟨a, ha⟩ := IP.isV4_iff.mp hpaa
  obtain ⟨b, hb⟩ := IP.isV4_iff.mp hpgw
  obtain ⟨l', rfl⟩ := IP.isV4_iff.mp hl
  simp_all

def defaultBearer (c : Session.S2BContext) (pgw localIP : IP) : Bearer :=
  { ebi := c.ebi, localRXTEID := c.localUserTEID, remoteTXTEID := c.pgwUserTEID
    pgwGTPUIP := pgw, localGTPUIP := localIP }

structure AddsSession (m m' : Manager) (id : Session.ID) (c : Session.S2BContext)
    (new : Option Session) : Prop where
  made : ∀ ds, new = some ds → ∃ localIP, ds = defaultSession id c c.pgwUserIP localIP
  session : ∀ x, m'.byID x = if x = id then new else m.byID x
  paa : ∀ a, m'.byPAA a = if a = c.paa then new.map fun _ => id else m.byPAA a
  localTEID : ∀ t, m'.byLocalTEID t =
    if t = c.localUserTEID then new.map fun _ => ⟨id, c.ebi⟩ else m.byLocalTEID t
  remoteTEID : ∀ t, m'.byRemoteTEID t =
    if t = c.pgwUserTEID then new.map fun _ => ⟨id, c.ebi⟩ else m.byRemoteTEID t

theorem defaultSession_bearers (id : Session.ID) (c : Session.S2BContext) (pgw localIP : IP) :
    (defaultSession id c pgw localIP).bearers.values = [defaultBearer c pgw localIP] := rfl

theorem defaultSession_lookup (id : Session.ID) (c : Session.S2BContext) (pgw localIP : IP)
    (e : UInt8) : (defaultSession id c pgw localIP).bearers.lookup e =
      if e = c.ebi then some (defaultBearer c pgw localIP) else none := by
  rw [show (defaultSession id c pgw localIP).bearers =
    (∅ : Table UInt8 Bearer).insert c.ebi (defaultBearer c pgw localIP) from rfl,
    Table.lookup_insert_ite, AList.lookup_empty]

theorem addSession_refused (h : m.admits localGTPU sess = none) (fault : Bool) :
    (m.addSession localGTPU fault sess).1 = m := by
  simp only [addSession]
  split
  · rfl
  rename_i c hc
  split
  · rename_i paa pgw localIP hpaa hpgw hlocal
    split
    · rfl
    rename_i hfree
    obtain ⟨l, rfl, hl⟩ := Option.bind_eq_some_iff.mp hlocal
    simp [admits, hc, IP.isV4, hpaa, hpgw, hl, byLocalTEID] at h
    simp [h] at hfree
  · rfl

theorem addSession_admitted (h : m.admits localGTPU sess = some c) (fault : Bool) :
    ∃ new, AddsSession m (m.addSession localGTPU fault sess).1 sess.id c new ∧
      (new = none ↔ fault = true) := by
  obtain ⟨hc, hok⟩ := Option.filter_eq_some_iff.mp h
  simp only [Bool.and_eq_true, Option.isNone_iff_eq_none] at hok
  obtain ⟨⟨⟨hpaa, hpgw⟩, hlocal⟩, hfree⟩ := hok
  obtain ⟨l, rfl, hl⟩ := (Option.any_eq_true _ _).mp hlocal
  have htaken : ¬(m.bearersByLocalTEID.lookup c.localUserTEID).isSome := by
    simp [show m.bearersByLocalTEID.lookup c.localUserTEID = none from hfree]
  refine ⟨if fault then none else some (defaultSession sess.id c c.pgwUserIP l), ?_⟩
  simp only [addSession, hc, IP.to4_of_isV4 hpaa, IP.to4_of_isV4 hpgw, Option.bind_some,
    IP.to4_of_isV4 hl, if_neg htaken]
  cases fault with
  | false =>
    refine ⟨⟨fun ds hds => ⟨l, (Option.some.inj hds).symm⟩, ?_, ?_, ?_, ?_⟩, by simp⟩
    all_goals exact fun _ => Table.lookup_insert_ite _ _ _ _
  | true =>
    simp only [removeSessionState, if_true, AList.lookup_insert, defaultSession_bearers]
    refine ⟨⟨(fun _ h => by cases h), fun x => ?_, fun a => ?_, fun t => ?_, fun t => ?_⟩,
      by simp⟩
    · simp only [byID, dropBearers_sessionsByID, Table.lookup_erase_ite,
        Table.lookup_insert_ite]
      split <;> rfl
    · simp only [byPAA, dropBearers_sessionsByPAA, Table.lookup_erase_ite,
        Table.lookup_insert_ite]
      split <;> rfl
    · refine (dropBearers_byLocalTEID _ _ t).trans ?_
      simp only [List.map_cons, List.map_nil, List.mem_singleton, byLocalTEID,
        Table.lookup_insert_ite, defaultBearer]
      split <;> rfl
    · refine (dropBearers_byRemoteTEID _ _ t).trans ?_
      simp only [List.map_cons, List.map_nil, List.mem_singleton, byRemoteTEID,
        Table.lookup_insert_ite, defaultBearer]
      split <;> rfl

variable {c : Session.S2BContext} {new : Option Session}

theorem AddsSession.bearerOf (a : AddsSession m m' id c new) (ref : BearerRef) :
    m'.bearerOf ref = if ref.sessionID = id then new.bind fun ds => ds.bearers.lookup ref.bearerEBI
      else m.bearerOf ref := by
  rw [bearerOf_eq, a.session, bearerOf_eq]
  split <;> rfl

def admitsBearer (m : Manager) (id : Session.ID) (b : NewBearer) : Bool :=
  b.localRXTEID ≠ 0 && b.remoteTXTEID ≠ 0 && b.ebi ≠ 0 && m.hasSession id &&
    (m.byLocalTEID b.localRXTEID).isNone

theorem addBearer_unadmitted {b : NewBearer} (h : m.admitsBearer id b = false) (fault : Bool) :
    m.addBearer fault id b = (m, false) := by
  simp only [addBearer]
  split
  · rfl
  rename_i hids
  split
  · rfl
  rename_i ds hds
  split
  · rfl
  rw [not_or, not_or] at hids
  simp only [admitsBearer, byLocalTEID, hasSession, hds] at h
  simp_all

structure EditsBearer (m m' : Manager) (id : Session.ID) (ebi : UInt8) (b : Option Bearer) :
    Prop where
  bearer : ∀ ref, m'.bearerOf ref = if ref = ⟨id, ebi⟩ then b else m.bearerOf ref
  session : ∀ {τ : Type} (f : Session → τ), (∀ ds bearers, f { ds with bearers } = f ds) →
    ∀ x, (m'.byID x).map f = (m.byID x).map f
  paa : ∀ a, m'.byPAA a = m.byPAA a

theorem EditsBearer.of_insert (hds : m.byID id = some ds) {b : Option Bearer}
    {bearers : Table UInt8 Bearer}
    (hsessions : m'.sessionsByID = m.sessionsByID.insert id { ds with bearers := bearers })
    (hbearers : ∀ x, bearers.lookup x = if x = ebi then b else ds.bearers.lookup x)
    (hpaa : m'.sessionsByPAA = m.sessionsByPAA) : EditsBearer m m' id ebi b where
  bearer := by
    rintro ⟨x, e⟩
    simp only [bearerOf_eq, byID, hsessions, Table.lookup_insert_ite, BearerRef.mk.injEq]
    by_cases hx : x = id
    · subst hx
      rw [if_pos rfl, Option.bind_some, hbearers,
        show m.sessionsByID.lookup x = some ds from hds, Option.bind_some]
      simp only [true_and]
    · simp_all
  session f hf x := by
    simp only [byID, hsessions, Table.lookup_insert_ite]
    split
    · rename_i hx
      rw [hx, show m.sessionsByID.lookup id = some ds from hds, Option.map_some, Option.map_some,
        hf]
    · rfl
  paa a := by rw [byPAA, hpaa, byPAA]

theorem EditsBearer.byID {b : Option Bearer} (e : EditsBearer m m' id ebi b) {x : Session.ID}
    (h : m.byID x = some ds) :
    ∃ ds', m'.byID x = some ds' ∧ ds'.paa = ds.paa ∧ ds'.defaultEBI = ds.defaultEBI ∧
      ds'.pgwGTPUIP = ds.pgwGTPUIP := by
  have hkept := e.session (fun ds => (ds.paa, ds.defaultEBI, ds.pgwGTPUIP)) (fun _ _ => rfl) x
  simp_all

theorem EditsBearer.hasBearer {b : Option Bearer} (e : EditsBearer m m' id ebi b) (ebi' : UInt8) :
    m'.hasBearer id ebi' = if ebi' = ebi then b.isSome else m.hasBearer id ebi' := by
  have hbearer : m'.bearerAt id ebi' = _ := e.bearer ⟨id, ebi'⟩
  rw [hasBearer_eq, hbearer, hasBearer_eq]
  simp only [BearerRef.mk.injEq, true_and]
  split <;> rfl

theorem bearerOf_some {ref : BearerRef} (h : m.bearerOf ref = some b) :
    ∃ ds, m.byID ref.sessionID = some ds ∧ ds.bearers.lookup ref.bearerEBI = some b :=
  Option.bind_eq_some_iff.mp h

theorem addBearer_admitted {b : NewBearer} (h : m.admitsBearer id b = true) (fault : Bool) :
    let m' := (m.addBearer fault id b).1
    (m.addBearer fault id b).2 = !fault ∧ ∃ ds, m.byID id = some ds ∧
      EditsBearer m m' id b.ebi (some (b.activate ds)) ∧ m.byLocalTEID b.localRXTEID = none ∧
      (∀ t, m'.byLocalTEID t = if t = b.localRXTEID then some ⟨id, b.ebi⟩ else m.byLocalTEID t) ∧
      ∀ t, m'.byRemoteTEID t =
        if t = b.remoteTXTEID then some ⟨id, b.ebi⟩ else m.byRemoteTEID t := by
  simp only [admitsBearer, Bool.and_eq_true, decide_eq_true_eq, Option.isNone_iff_eq_none] at h
  obtain ⟨⟨⟨⟨hl, hr⟩, he⟩, hsess⟩, hfree⟩ := h
  obtain ⟨ds, hds⟩ := Option.isSome_iff_exists.mp hsess
  have hids : ¬(b.localRXTEID = 0 ∨ b.remoteTXTEID = 0 ∨ b.ebi = 0) := by simp [hl, hr, he]
  have htaken : ¬(m.bearersByLocalTEID.lookup b.localRXTEID).isSome := by
    simp [show m.bearersByLocalTEID.lookup b.localRXTEID = none from hfree]
  simp only [addBearer, if_neg hids, hds, if_neg htaken, true_and]
  refine ⟨ds, hds, .of_insert hds rfl (fun x => Table.lookup_insert_ite _ _ _ _) rfl, hfree,
    fun t => Table.lookup_insert_ite _ _ _ _, fun t => Table.lookup_insert_ite _ _ _ _⟩

theorem removeBearer_none (h : m.bearerOf ⟨id, ebi⟩ = none) (fault : Bool) :
    m.removeBearer fault id ebi = (m, true) := by
  simp only [removeBearer]
  split
  · rfl
  rename_i ds hds
  split
  · rfl
  rename_i b hb
  rw [bearerOf_eq, byID, hds, Option.bind_some, hb] at h
  cases h

theorem removeBearer_edits (h : m.bearerOf ⟨id, ebi⟩ = some b) (fault : Bool) :
    let m' := (m.removeBearer fault id ebi).1
    EditsBearer m m' id ebi none ∧
      (∀ t, m'.byLocalTEID t = if t = b.localRXTEID then none else m.byLocalTEID t) ∧
      ∀ t, m'.byRemoteTEID t = if t = b.remoteTXTEID then none else m.byRemoteTEID t := by
  obtain ⟨ds, hds, hb⟩ := bearerOf_some h
  have hds' : m.sessionsByID.lookup id = some ds := hds
  simp only at hb
  simp only [removeBearer, hds', hb]
  refine ⟨.of_insert hds ?_ (fun x => Table.lookup_erase_ite _ _ _)
    (dropBearers_sessionsByPAA m [b]), fun t => ?_, fun t => ?_⟩
  · simp_all
  · exact (dropBearers_byLocalTEID m [b] t).trans (by simp)
  · exact (dropBearers_byRemoteTEID m [b] t).trans (by simp)

theorem updateBearer_none (h : m.bearerOf ⟨id, ebi⟩ = none) (fault : Bool) (qci : UInt8)
    (tftRaw : Bytes) : m.updateBearer fault id ebi qci tftRaw = (m, false) := by
  simp only [updateBearer]
  split
  · rfl
  rename_i ds hds
  split
  · rfl
  rename_i b hb
  rw [bearerOf_eq, byID, hds, Option.bind_some, hb] at h
  cases h

theorem updateBearer_edits (h : m.bearerOf ⟨id, ebi⟩ = some b) (fault : Bool) (qci : UInt8)
    (tftRaw : Bytes) : let m' := (m.updateBearer fault id ebi qci tftRaw).1
    EditsBearer m m' id ebi (some (b.updated qci tftRaw)) ∧
      (∀ t, m'.byLocalTEID t = m.byLocalTEID t) ∧ ∀ t, m'.byRemoteTEID t = m.byRemoteTEID t := by
  obtain ⟨ds, hds, hb⟩ := bearerOf_some h
  have hds' : m.sessionsByID.lookup id = some ds := hds
  simp only at hb
  simp only [updateBearer, hds', hb]
  exact ⟨.of_insert hds rfl (fun x => Table.lookup_insert_ite _ _ _ _) rfl, fun _ => rfl,
    fun _ => rfl⟩

theorem removeSession_none (h : m.byID id = none) : m.removeSession id = m := by
  rw [removeSession, show m.sessionsByID.lookup id = none from h]

theorem mem_values_iff (h : m.byID id = some ds) (b : Bearer) :
    b ∈ ds.bearers.values ↔ ∃ e, m.bearerOf ⟨id, e⟩ = some b := by
  simp only [Table.mem_values, bearerOf_eq, h, Option.bind_some]

theorem removeSession_lookups (h : m.byID id = some ds) :
    (∀ x, (m.removeSession id).byID x = if x = id then none else m.byID x) ∧
      (∀ a, (m.removeSession id).byPAA a = if a = ds.paa then none else m.byPAA a) ∧
      (∀ t, (m.removeSession id).byLocalTEID t =
        if t ∈ ds.bearers.values.map Bearer.localRXTEID then none else m.byLocalTEID t) ∧
      ∀ t, (m.removeSession id).byRemoteTEID t =
        if t ∈ ds.bearers.values.map Bearer.remoteTXTEID then none else m.byRemoteTEID t := by
  have hds' : m.sessionsByID.lookup id = some ds := h
  simp only [removeSession, hds']
  refine ⟨fun x => ?_, fun a => ?_, fun t => ?_, fun t => ?_⟩
  · simp only [byID, dropBearers_sessionsByID, Table.lookup_erase_ite]
  · simp only [byPAA, dropBearers_sessionsByPAA, Table.lookup_erase_ite]
  · exact dropBearers_byLocalTEID m _ t
  · exact dropBearers_byRemoteTEID m _ t

end Calls
end Manager

inductive Call where
  | addSession (localGTPU : Option IP) (fault : Bool) (sess : Session.Session)
  | removeSession (id : Session.ID)
  | addBearer (fault : Bool) (id : Session.ID) (b : NewBearer)
  | removeBearer (fault : Bool) (id : Session.ID) (ebi : UInt8)
  | updateBearer (fault : Bool) (id : Session.ID) (ebi qci : UInt8) (tftRaw : Bytes)

def Manager.call (m : Manager) : Call → Manager
  | .addSession localGTPU fault sess => (m.addSession localGTPU fault sess).1
  | .removeSession id => m.removeSession id
  | .addBearer fault id b => (m.addBearer fault id b).1
  | .removeBearer fault id ebi => (m.removeBearer fault id ebi).1
  | .updateBearer fault id ebi qci tftRaw => (m.updateBearer fault id ebi qci tftRaw).1

end Epdg.Gtpu
