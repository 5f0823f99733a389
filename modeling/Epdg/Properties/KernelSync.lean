import Epdg.Gtpu.Dataplane
import Epdg.Properties.BearerTables

/-!
The BPF maps against the sessions and bearers of the GTP-U manager.

A session may share its PAA with another one. What is written for it then replaces the entry of the
other one, and what is removed with it leaves the other one without an entry. The entries of a
bearer that gives way to another one under the same EBI stay.
-/
namespace Epdg.Gtpu

namespace Manager
variable {id x : Session.ID} {m : Manager} {p : UInt32} {tunnel : UInt32 × UInt32}

structure TablesKept (m : Manager) : Prop where
  finds : Index.Finds m.bearerOf Bearer.localRXTEID m.byLocalTEID
  paa : ∀ id ds, m.byID id = some ds → ∃ p, ds.paa = .v4 p

theorem tablesKept_empty : TablesKept {} :=
  ⟨(fun _ _ h => nomatch h), fun _ _ h => nomatch h⟩

section Kept
variable {m m' : Manager} {id : Session.ID}

theorem TablesKept.addsSession {c : Session.S2BContext} {new : Option Session} {a : UInt32}
    (h : TablesKept m) (hadds : AddsSession m m' id c new) (ha : c.paa = .v4 a)
    (hfree : m.byLocalTEID c.localUserTEID = none) : TablesKept m' := by
  refine ⟨(h.finds.replace_iff (hadds.replaces _ (fun _ => rfl) hadds.localTEID)).mpr ?_, ?_⟩
  · exact fun x b _ hb => h.finds.ne_of_free hfree hb
  · intro x ds hds
    rw [hadds.session] at hds
    split at hds
    · obtain ⟨localIP, rfl⟩ := hadds.made ds hds
      exact ⟨a, ha⟩
    · exact h.paa x ds hds

theorem TablesKept.editsPAA {ebi : UInt8} {b : Option Bearer} (h : TablesKept m)
    (e : EditsBearer m m' id ebi b) {ds : Session} (hds : m'.byID x = some ds) :
    ∃ p, ds.paa = .v4 p := by
  have hpaa := e.session Session.paa (fun _ _ => rfl) x
  rw [hds, Option.map_some, eq_comm, Option.map_eq_some_iff] at hpaa
  obtain ⟨ds0, hds0, hpaa⟩ := hpaa
  obtain ⟨p, hp⟩ := h.paa x ds0 hds0
  grind

theorem TablesKept.call (h : TablesKept m) (a : Call) : TablesKept (m.call a) := by
  cases a with
  | addSession localGTPU fault sess =>
    cases hadm : m.admits localGTPU sess with
    | none =>
      rw [Manager.call, addSession_refused hadm]
      exact h
    | some c =>
      obtain ⟨a, _, _, ha, -, -, -, hfree⟩ := admits_eq_some hadm
      obtain ⟨new, hadds, -⟩ := addSession_admitted hadm fault
      exact h.addsSession hadds ha hfree
  | removeSession id =>
    cases hds : m.byID id with
    | none =>
      rw [Manager.call, removeSession_none hds]
      exact h
    | some ds =>
      obtain ⟨hid, -, hlocal, -⟩ := removeSession_lookups hds
      refine ⟨h.finds.remove (removeSession_removes hds hlocal), fun x ds' hds' => ?_⟩
      rw [Manager.call, hid] at hds'
      split at hds'
      · cases hds'
      · exact h.paa x ds' hds'
  | addBearer fault id b =>
    cases hadm : m.admitsBearer id b with
    | false =>
      rw [Manager.call, addBearer_unadmitted hadm]
      exact h
    | true =>
      obtain ⟨ds, -, hedit, hfree, hlocal, -⟩ := (addBearer_admitted hadm fault).2
      have hput : Index.Replaces (· = ⟨id, b.ebi⟩) b.localRXTEID Bearer.localRXTEID
          m.bearerOf _ m.byLocalTEID _ :=
        .put (fun b' hb' => Option.some.inj hb' ▸ rfl) hedit.bearer hlocal
      refine ⟨(h.finds.replace_iff hput).mpr ?_, fun x ds hds => h.editsPAA hedit hds⟩
      exact fun x b _ hb => h.finds.ne_of_free hfree hb
  | removeBearer fault id ebi =>
    cases hb : m.bearerOf ⟨id, ebi⟩ with
    | none =>
      rw [Manager.call, removeBearer_none hb]
      exact h
    | some b =>
      obtain ⟨hedit, hlocal, -⟩ := removeBearer_edits hb fault
      exact ⟨h.finds.remove (.single hb hedit.bearer hlocal),
        fun x ds hds => h.editsPAA hedit hds⟩
  | updateBearer fault id ebi qci tftRaw =>
    cases hb : m.bearerOf ⟨id, ebi⟩ with
    | none =>
      rw [Manager.call, updateBearer_none hb]
      exact h
    | some b =>
      obtain ⟨hedit, hlocal, -⟩ := updateBearer_edits hb fault qci tftRaw
      refine ⟨?_, fun x ds hds => h.editsPAA hedit hds⟩
      rw [Manager.call, funext hlocal]
      refine h.finds.congr fun ref => ?_
      rw [hedit.bearer]
      split
      · rename_i href
        rw [href, hb]
        rfl
      · rfl

end Kept

def TunnelOf (m : Manager) (ref : BearerRef) (b : Bearer) (e : TeidEntry) : Prop :=
  (∃ ds, m.byID ref.sessionID = some ds ∧ ds.paa = .v4 e.paa) ∧ b.pgwGTPUIP = .v4 e.pgwAddr

def Carries (m : Manager) (id : Session.ID) (paa : UInt32) (tunnel : UInt32 × UInt32) : Prop :=
  ∃ ds b, m.byID id = some ds ∧ ds.paa = .v4 paa ∧ ds.bearers.lookup ds.defaultEBI = some b ∧
    b.remoteTXTEID = tunnel.1 ∧ ds.pgwGTPUIP = .v4 tunnel.2

theorem Carries.of_eq {m' : Manager} (h : m.Carries id p tunnel) (heq : m'.byID id = m.byID id)
    : m'.Carries id p tunnel := by
  obtain ⟨ds, b, hds, hrest⟩ := h
  exact ⟨ds, b, heq.trans hds, hrest⟩

theorem Carries.ne_of_empty (h : m.Carries x p tunnel) (hempty : ∀ e, m.bearerAt id e = none) :
    x ≠ id := by
  rintro rfl
  obtain ⟨ds, b, hds, -, hb, -⟩ := h
  have hnone := hempty ds.defaultEBI
  rw [bearerAt, show m.sessionsByID.lookup x = some ds from hds, Option.bind_some, hb] at hnone
  cases hnone

section Edits
variable {m m' : Manager} {id x : Session.ID} {ebi : UInt8} {b : Option Bearer} {p : UInt32}
variable {tunnel : UInt32 × UInt32}

theorem EditsBearer.byID_before (e : EditsBearer m m' id ebi b) {ds' : Session}
    (h : m'.byID x = some ds') :
    ∃ ds, m.byID x = some ds ∧ ds'.paa = ds.paa ∧ ds'.defaultEBI = ds.defaultEBI ∧
      ds'.pgwGTPUIP = ds.pgwGTPUIP := by
  have hkept := e.session (fun ds => (ds.paa, ds.defaultEBI, ds.pgwGTPUIP)) (fun _ _ => rfl) x
  rw [h, Option.map_some, eq_comm, Option.map_eq_some_iff] at hkept
  grind

theorem TunnelOf.of_edits {ref : BearerRef} {b' : Bearer} {entry : TeidEntry}
    (h : m.TunnelOf ref b' entry) (e : EditsBearer m m' id ebi b) : m'.TunnelOf ref b' entry := by
  obtain ⟨⟨ds, hds, hpaa⟩, hpgw⟩ := h
  obtain ⟨ds', hds', hsame, -⟩ := e.byID hds
  exact ⟨⟨ds', hds', hsame.trans hpaa⟩, hpgw⟩

theorem Carries.of_edits (h : m.Carries x p tunnel) (e : EditsBearer m m' id ebi b)
    (hdefault : ∀ ds b0, x = id → m.byID x = some ds → ds.defaultEBI = ebi →
      m.bearerOf ⟨id, ebi⟩ = some b0 → ∃ b2, b = some b2 ∧ b2.remoteTXTEID = b0.remoteTXTEID) :
    m'.Carries x p tunnel := by
  obtain ⟨ds, b0, hds, hpaa, hb0, hteid, hpgw⟩ := h
  obtain ⟨ds', hds', hpaa', hebi', hpgw'⟩ := e.byID hds
  have hbearer := e.bearer ⟨x, ds.defaultEBI⟩
  rw [bearerOf_eq, hds', Option.bind_some] at hbearer
  have hat : m.bearerOf ⟨x, ds.defaultEBI⟩ = some b0 := by
    rw [bearerOf_eq, hds, Option.bind_some, hb0]
  by_cases hsame : (⟨x, ds.defaultEBI⟩ : BearerRef) = ⟨id, ebi⟩
  · rw [hsame] at hat
    obtain ⟨hx, he⟩ := (BearerRef.mk.injEq _ _ _ _ ▸ hsame : x = id ∧ ds.defaultEBI = ebi)
    obtain ⟨b2, hb2, hremote⟩ := hdefault ds b0 hx hds he hat
    rw [if_pos hsame, hb2] at hbearer
    exact ⟨ds', b2, hds', hpaa'.trans hpaa, hebi' ▸ hbearer, hremote.trans hteid,
      hpgw'.trans hpgw⟩
  · rw [if_neg hsame, hat] at hbearer
    exact ⟨ds', b0, hds', hpaa'.trans hpaa, hebi' ▸ hbearer, hteid, hpgw'.trans hpgw⟩

theorem Carries.before_removal (h : m'.Carries x p tunnel) (e : EditsBearer m m' id ebi none) :
    m.Carries x p tunnel ∧ ∀ ds, x = id → m.byID x = some ds → ds.defaultEBI ≠ ebi := by
  obtain ⟨ds', b0, hds', hpaa, hb0, hteid, hpgw⟩ := h
  obtain ⟨ds, hds, hpaa', hebi', hpgw'⟩ := e.byID_before hds'
  have hbearer := e.bearer ⟨x, ds.defaultEBI⟩
  rw [bearerOf_eq, hds', Option.bind_some, ← hebi', hb0] at hbearer
  split at hbearer
  · cases hbearer
  rw [bearerOf_eq, hds, Option.bind_some] at hbearer
  refine ⟨⟨ds, b0, hds, hpaa' ▸ hpaa, hebi' ▸ hbearer.symm, hteid, hpgw' ▸ hpgw⟩, ?_⟩
  grind

end Edits
end Manager

namespace Dataplane
variable {ebi : UInt8}

structure Synced (d : Dataplane) : Prop where
  teid : Index.Mirrors d.manager.bearerOf Bearer.localRXTEID d.manager.TunnelOf d.maps.teidAt
  present : ∀ id ds, d.manager.byID id = some ds →
    ∃ p, ds.paa = .v4 p ∧ (d.maps.tunnelAt p).isSome
  carried : ∀ p tunnel, d.maps.tunnelAt p = some tunnel → ∃ id, d.manager.Carries id p tunnel

theorem synced_empty : Synced {} :=
  ⟨⟨(fun _ _ h => nomatch h), fun _ _ h => nomatch h⟩, (fun _ _ h => nomatch h),
    fun _ _ h => nomatch h⟩

section AddSession
variable {d d' : Dataplane} {id : Session.ID} {c : Session.S2BContext} {new : Option Session}
variable {a b : UInt32} {outcome : AddOutcome}

theorem teid_of_addsSession (hj : d.manager.TablesKept) (h : d.Synced)
    (hadds : d.manager.AddsSession d'.manager id c new) (hnew : new = none ↔ outcome ≠ .installed)
    (hmaps : AddsTunnel d.maps d'.maps c a b outcome) (ha : c.paa = .v4 a)
    (hb : c.pgwUserIP = .v4 b) (hfree : d.manager.byLocalTEID c.localUserTEID = none) :
    Index.Mirrors d'.manager.bearerOf Bearer.localRXTEID d'.manager.TunnelOf d'.maps.teidAt ↔
      ∀ e, d.manager.bearerAt id e = none := by
  have hinstalled : ∀ ds, new = some ds → outcome = .installed := by grind
  have hrep := hadds.replaces Bearer.localRXTEID (fun _ => rfl) hadds.localTEID
  rw [h.teid.replace_iff hj.finds hrep hfree (fun ref b e hp _ hview => ?_) hmaps.others
    (fun e he => ?_)]
  · constructor
    · rintro ⟨hempty, -⟩ e
      exact hempty ⟨id, e⟩ rfl
    · intro hempty
      refine ⟨?_, fun ref b' hp hb' => ?_⟩
      · rintro ⟨x, e⟩ rfl
        exact hempty e
      · rw [hadds.bearerOf, if_pos hp] at hb'
        obtain ⟨ds, hds, hb'⟩ := Option.bind_eq_some_iff.mp hb'
        refine ⟨⟨a, b⟩, hmaps.installed (hinstalled ds hds), ⟨ds, ?_, ?_⟩, ?_⟩
        · rw [hadds.session, if_pos hp, hds]
        · obtain ⟨localIP, rfl⟩ := hadds.made ds hds
          exact ha
        · obtain ⟨localIP, rfl⟩ := hadds.made ds hds
          rw [Manager.defaultSession_lookup] at hb'
          split at hb'
          · cases hb'
            exact hb
          · cases hb'
  · obtain ⟨⟨ds, hds, hpaa⟩, hpgw⟩ := hview
    refine ⟨⟨ds, ?_, hpaa⟩, hpgw⟩
    rw [hadds.session, if_neg hp, hds]
  · cases hn : new with
    | none =>
      have hold := h.teid.free hj.finds hfree
      rcases hmaps.failed (hnew.mp hn) with hnone | hsame
      · simp_all
      · simp_all
    | some ds =>
      obtain ⟨localIP, rfl⟩ := hadds.made ds hn
      refine ⟨⟨id, c.ebi⟩, Manager.defaultBearer c c.pgwUserIP localIP, rfl, ?_⟩
      rw [hadds.bearerOf, if_pos rfl, hn, Option.bind_some, Manager.defaultSession_lookup,
        if_pos rfl]

section
variable (h : d.Synced) (hadds : d.manager.AddsSession d'.manager id c new)
  (hnew : new = none ↔ outcome ≠ .installed) (hmaps : AddsTunnel d.maps d'.maps c a b outcome)
  (ha : c.paa = .v4 a)
include h hadds hnew hmaps ha

theorem carried_of_addsSession (hb : c.pgwUserIP = .v4 b)
    (hempty : ∀ e, d.manager.bearerAt id e = none) {p : UInt32} {tunnel : UInt32 × UInt32}
    (ht : d'.maps.tunnelAt p = some tunnel) : ∃ x, d'.manager.Carries x p tunnel := by
  have hkept : d.maps.tunnelAt p = some tunnel → ∃ x, d'.manager.Carries x p tunnel := by
    intro hold
    obtain ⟨x, hx⟩ := h.carried p tunnel hold
    refine ⟨x, hx.of_eq ?_⟩
    rw [hadds.session, if_neg (hx.ne_of_empty hempty)]
  rw [hmaps.tunnel] at ht
  split at ht
  · rename_i hp
    cases outcome with
    | installed =>
      cases hds : new with
      | none => exact absurd rfl (hnew.mp hds)
      | some ds =>
        obtain ⟨localIP, rfl⟩ := hadds.made ds hds
        cases ht
        refine ⟨id, Manager.defaultSession id c c.pgwUserIP localIP,
          Manager.defaultBearer c c.pgwUserIP localIP, ?_, hp ▸ ha, ?_, rfl, hb⟩
        · rw [hadds.session, if_pos rfl, hds]
        · exact (Manager.defaultSession_lookup _ _ _ _ _).trans (if_pos rfl)
    | early => exact hkept ht
    | late => cases ht
  · exact hkept ht

theorem present_of_addsSession :
    (∀ x ds, d'.manager.byID x = some ds → ∃ p, ds.paa = .v4 p ∧ (d'.maps.tunnelAt p).isSome) ↔
      (outcome = .late → ∀ x ds, x ≠ id → d.manager.byID x = some ds → ds.paa ≠ c.paa) := by
  constructor
  · rintro hpresent rfl x ds hx hds hpaa
    obtain ⟨p, hp, hsome⟩ := hpresent x ds (by rw [hadds.session, if_neg hx, hds])
    rw [hpaa, ha] at hp
    cases hp
    rw [hmaps.tunnel, if_pos rfl] at hsome
    cases hsome
  · intro hothers x ds hds
    rw [hadds.session] at hds
    split at hds
    · obtain ⟨localIP, rfl⟩ := hadds.made ds hds
      have hinst : outcome = .installed := by simp_all
      refine ⟨a, ha, ?_⟩
      rw [hmaps.tunnel, if_pos rfl, hinst]
      rfl
    · rename_i hx
      obtain ⟨p, hp, hsome⟩ := h.present x ds hds
      refine ⟨p, hp, ?_⟩
      rw [hmaps.tunnel]
      split
      · rename_i hpa
        cases outcome with
        | installed => rfl
        | early => exact hsome
        | late => exact absurd (hp.trans (hpa ▸ ha.symm)) (hothers rfl x ds hx hds)
      · exact hsome

end

theorem addSession_synced_iff {localGTPU : Option IP} {sess : Session.Session}
    (hj : d.manager.TablesKept) (h : d.Synced) (s2bIfindex : UInt32) (fault : Option AddStep)
    (o : RangeOrder) (hadm : d.manager.admits localGTPU sess = some c) :
    Synced (d.addSession localGTPU s2bIfindex fault o sess).1 ↔
      (∀ e, d.manager.bearerAt sess.id e = none) ∧
        (d.addOutcome c fault = .late →
          ∀ x ds, x ≠ sess.id → d.manager.byID x = some ds → ds.paa ≠ c.paa) := by
  obtain ⟨a, b, ha, hb, hmaps, hm⟩ := addSession_some s2bIfindex fault o hadm
  obtain ⟨-, -, -, -, -, -, -, hfree⟩ := Manager.admits_eq_some hadm
  obtain ⟨new, hadds, hnew⟩ := Manager.addSession_admitted hadm
    (decide (d.addOutcome c fault ≠ .installed))
  rw [← hm] at hadds
  rw [decide_eq_true_iff] at hnew
  have hteid := teid_of_addsSession hj h hadds hnew hmaps ha hb hfree
  have hpresent := present_of_addsSession h hadds hnew hmaps ha
  constructor
  · intro h'
    exact ⟨hteid.mp h'.teid, hpresent.mp h'.present⟩
  · rintro ⟨hempty, hothers⟩
    exact ⟨hteid.mpr hempty, hpresent.mpr hothers,
      fun p tunnel ht => carried_of_addsSession h hadds hnew hmaps ha hb hempty ht⟩

end AddSession

section Others
variable {d d' : Dataplane} {id : Session.ID} {ds : Session}

theorem removeSession_synced_iff (hj : d.manager.TablesKept) (h : d.Synced)
    (hds : d.manager.byID id = some ds) :
    Synced (d.removeSession id) ↔
      ∀ x ds', x ≠ id → d.manager.byID x = some ds' → ds'.paa ≠ ds.paa := by
  obtain ⟨a, ha⟩ := hj.paa id ds hds
  obtain ⟨hm, hteid, htunnel⟩ := removeSession_some hds ha
  obtain ⟨hid, -, hlocal, -⟩ := Manager.removeSession_lookups hds
  have hothers : ∀ {x}, x ≠ id →
      (d.removeSession id).manager.byID x = d.manager.byID x := by
    simp_all
  constructor
  · intro h' x ds' hx hds' hpaa
    obtain ⟨p, hp, hsome⟩ := h'.present x ds' ((hothers hx).trans hds')
    simp_all
  · intro halone
    refine ⟨?_, fun x ds' hds' => ?_, fun p tunnel ht => ?_⟩
    · rw [hm]
      refine h.teid.remove hj.finds (Manager.removeSession_removes hds hlocal)
        (fun ref b e hp _ hview => ?_) (fun ref b hp hb => ?_) fun t ht => ?_
      · obtain ⟨⟨ds', hds', hpaa⟩, hpgw⟩ := hview
        refine ⟨⟨ds', ?_, hpaa⟩, hpgw⟩
        grind
      · obtain ⟨x, e⟩ := ref
        cases hp
        rw [hteid, if_pos]
        exact List.mem_map_of_mem ((Manager.mem_values_iff hds b).mpr ⟨e, hb⟩)
      rw [hteid, if_neg]
      intro hmem
      obtain ⟨b, hb, hkey⟩ := List.mem_map.mp hmem
      obtain ⟨e, he⟩ := (Manager.mem_values_iff hds b).mp hb
      grind
    · have hx : x ≠ id := by simp_all
      rw [hothers hx] at hds'
      obtain ⟨p, hp, hsome⟩ := h.present x ds' hds'
      grind
    · rw [htunnel] at ht
      split at ht
      · cases ht
      obtain ⟨x, hx⟩ := h.carried p tunnel ht
      refine ⟨x, hx.of_eq (hothers ?_)⟩
      rintro rfl
      obtain ⟨ds', b, hds', hpaa, -⟩ := hx
      simp_all

theorem present_of_edits {b : Option Bearer} (h : d.Synced)
    (hedit : d.manager.EditsBearer d'.manager id ebi b)
    (htunnel : ∀ p, d'.maps.tunnelAt p = d.maps.tunnelAt p) {x : Session.ID} {ds' : Session}
    (hds' : d'.manager.byID x = some ds') : ∃ p, ds'.paa = .v4 p ∧ (d'.maps.tunnelAt p).isSome := by
  obtain ⟨ds, hds, hpaa, -⟩ := hedit.byID_before hds'
  obtain ⟨p, hp, hsome⟩ := h.present x ds hds
  simp_all

theorem removeBearer_synced_iff {b : Bearer} (hj : d.manager.TablesKept) (h : d.Synced)
    (o : RangeOrder) (hb : d.manager.bearerOf ⟨id, ebi⟩ = some b) :
    Synced (d.removeBearer o id ebi).1 ↔
      ∀ ds p tunnel, d.manager.byID id = some ds → ebi = ds.defaultEBI → ds.paa = .v4 p →
        d.maps.tunnelAt p = some tunnel → ∃ x, x ≠ id ∧ d.manager.Carries x p tunnel := by
  obtain ⟨hm, hteid, htunnel⟩ := removeBearer_some o hb
  obtain ⟨hedit, hlocal, -⟩ := Manager.removeBearer_edits hb false
  rw [← hm] at hedit
  constructor
  · intro h' ds p tunnel hds he hpaa ht
    obtain ⟨x, hx⟩ := h'.carried p tunnel ((htunnel p).trans ht)
    obtain ⟨hbefore, hkept⟩ := hx.before_removal hedit
    grind
  · intro hother
    refine ⟨?_, fun x ds' hds' => present_of_edits h hedit htunnel hds', fun p tunnel ht => ?_⟩
    · rw [← hm] at hlocal
      refine h.teid.remove hj.finds (.single hb hedit.bearer hlocal)
        (fun ref b' e _ _ hview => hview.of_edits hedit) (fun ref b' hp hb' => ?_) fun t ht => ?_
      · simp_all
      · grind
    · rw [htunnel] at ht
      obtain ⟨x, hx⟩ := h.carried p tunnel ht
      by_cases hdefault : ∃ ds, x = id ∧ d.manager.byID x = some ds ∧ ds.defaultEBI = ebi
      · obtain ⟨ds, rfl, hds, he⟩ := hdefault
        have hpaa : ds.paa = .v4 p := by
          obtain ⟨ds2, _, hds2, hpaa, -⟩ := hx
          simp_all
        obtain ⟨y, hy, hcarries⟩ := hother ds p tunnel hds he.symm hpaa ht
        exact ⟨y, hcarries.of_edits hedit fun _ _ he _ _ _ => absurd he hy⟩
      · refine ⟨x, hx.of_edits hedit fun ds b0 hx hds he _ => ?_⟩
        simp_all

theorem updateBearer_synced (h : d.Synced) (o : RangeOrder) (id : Session.ID) (ebi qci : UInt8)
    (tftRaw : Bytes) : Synced (d.updateBearer o id ebi qci tftRaw).1 := by
  obtain ⟨hm, hkeeps⟩ := updateBearer_spec d o id ebi qci tftRaw
  cases hb : d.manager.bearerOf ⟨id, ebi⟩ with
  | none =>
    rw [Manager.updateBearer_none hb] at hm
    refine ⟨?_, fun x ds hds => ?_, fun p tunnel ht => ?_⟩
    · rw [hm, funext hkeeps.teid]
      exact h.teid
    · rw [hm] at hds
      obtain ⟨p, hp, hsome⟩ := h.present x ds hds
      exact ⟨p, hp, by rw [hkeeps.tunnel, hsome]⟩
    · rw [hm]
      exact h.carried p tunnel ((hkeeps.tunnel p).symm.trans ht)
  | some b =>
    obtain ⟨hedit, -, -⟩ := Manager.updateBearer_edits hb false qci tftRaw
    rw [← hm] at hedit
    refine ⟨?_, fun x ds hds => present_of_edits h hedit hkeeps.tunnel hds,
      fun p tunnel ht => ?_⟩
    · rw [funext hkeeps.teid]
      refine h.teid.congr (fun ref => ?_) fun ref b0 b' e hb0 hb' hview => ?_
      · rw [hedit.bearer]
        split
        · rename_i href
          rw [href, hb]
          rfl
        · rfl
      · refine Manager.TunnelOf.of_edits ⟨hview.1, ?_⟩ hedit
        rw [hedit.bearer] at hb'
        split at hb'
        · rename_i href
          rw [href, hb] at hb0
          cases hb0
          cases hb'
          exact hview.2
        · rw [hb0] at hb'
          cases hb'
          exact hview.2
    · rw [hkeeps.tunnel] at ht
      obtain ⟨x, hx⟩ := h.carried p tunnel ht
      refine ⟨x, hx.of_edits hedit fun ds b0 _ _ _ hb0 => ⟨_, rfl, ?_⟩⟩
      rw [hb] at hb0
      cases hb0
      rfl

theorem addBearer_synced_iff {b : NewBearer} (hj : d.manager.TablesKept) (h : d.Synced)
    (o : RangeOrder) (hadm : d.manager.admitsBearer id b = true)
    (hds : d.manager.byID id = some ds) :
    Synced (d.addBearer o id b).1 ↔
      d.manager.bearerAt id b.ebi = none ∧ (b.pgwGTPUIP.getD ds.pgwGTPUIP).isV4 = true := by
  obtain ⟨a, ha⟩ := hj.paa id ds hds
  obtain ⟨hm, hteid, htunnel⟩ := addBearer_some o hadm hds
  obtain ⟨ds1, hds1, hedit, hfree, hlocal, -⟩ := (Manager.addBearer_admitted hadm false).2
  rw [hds] at hds1
  cases hds1
  rw [← hm] at hedit hlocal
  have hput : Index.Replaces (· = ⟨id, b.ebi⟩) b.localRXTEID Bearer.localRXTEID
      d.manager.bearerOf (d.addBearer o id b).1.manager.bearerOf d.manager.byLocalTEID _ :=
    .put (fun b' hb' => Option.some.inj hb' ▸ rfl) hedit.bearer hlocal
  have hat : (d.addBearer o id b).1.manager.bearerOf ⟨id, b.ebi⟩ = some (b.activate ds) := by
    rw [hedit.bearer, if_pos rfl]
  -- `AddTEID` writes its entry only for an IPv4 address of the PGW
  have hothers : ∀ t, t ≠ b.localRXTEID →
      (d.addBearer o id b).1.maps.teidAt t = d.maps.teidAt t := by
    intro t ht
    rw [hteid, ha]
    cases b.pgwGTPUIP.getD ds.pgwGTPUIP with
    | v4 g => exact (Table.lookup_insert_ite _ _ _ _).trans (if_neg ht)
    | v6 hi lo => rfl
  have hteid' := h.teid.replace_iff hj.finds hput hfree
    (fun ref b' e _ _ hview => hview.of_edits hedit) hothers
    (fun e he => ⟨⟨id, b.ebi⟩, b.activate ds, rfl, hat⟩)
  have hentry : (∀ ref b', ref = (⟨id, b.ebi⟩ : BearerRef) →
      (d.addBearer o id b).1.manager.bearerOf ref = some b' →
      ∃ e, (d.addBearer o id b).1.maps.teidAt b.localRXTEID = some e ∧
        (d.addBearer o id b).1.manager.TunnelOf ref b' e) ↔
      (b.pgwGTPUIP.getD ds.pgwGTPUIP).isV4 = true := by
    constructor
    · intro hall
      obtain ⟨e, -, -, hpgw⟩ := hall _ _ rfl hat
      exact IP.isV4_iff.mpr ⟨e.pgwAddr, hpgw⟩
    · intro hv4 ref b' href hb'
      obtain ⟨g, hg⟩ := IP.isV4_iff.mp hv4
      subst href
      rw [hat] at hb'
      cases hb'
      obtain ⟨ds', hds', hpaa, -⟩ := hedit.byID hds
      refine ⟨⟨a, g⟩, ?_, ⟨ds', hds', hpaa.trans ha⟩, hg⟩
      rw [hteid, ha, hg]
      exact (Table.lookup_insert_ite _ _ _ _).trans (if_pos rfl)
  rw [hentry] at hteid'
  constructor
  · intro h'
    obtain ⟨hempty, hv4⟩ := hteid'.mp h'.teid
    exact ⟨hempty ⟨id, b.ebi⟩ rfl, hv4⟩
  · rintro ⟨hempty, hv4⟩
    refine ⟨hteid'.mpr ⟨fun ref href => href ▸ hempty, hv4⟩,
      fun x ds' hds' => present_of_edits h hedit htunnel hds', fun p tunnel ht => ?_⟩
    rw [htunnel] at ht
    obtain ⟨x, hx⟩ := h.carried p tunnel ht
    refine ⟨x, hx.of_edits hedit fun ds0 b0 _ _ _ hb0 => ?_⟩
    rw [show d.manager.bearerOf ⟨id, b.ebi⟩ = none from hempty] at hb0
    cases hb0

end Others

def Fits (d : Dataplane) : Op → Prop
  | .addSession localGTPU _ fault _ sess => ∀ c, d.manager.admits localGTPU sess = some c →
      (∀ e, d.manager.bearerAt sess.id e = none) ∧
        (d.addOutcome c fault = .late →
          ∀ x ds, x ≠ sess.id → d.manager.byID x = some ds → ds.paa ≠ c.paa)
  | .removeSession id => ∀ ds, d.manager.byID id = some ds →
      ∀ x ds', x ≠ id → d.manager.byID x = some ds' → ds'.paa ≠ ds.paa
  | .addBearer _ id b => ∀ ds, d.manager.admitsBearer id b = true → d.manager.byID id = some ds →
      d.manager.bearerAt id b.ebi = none ∧ (b.pgwGTPUIP.getD ds.pgwGTPUIP).isV4 = true
  | .removeBearer _ id ebi => ∀ b ds p tunnel, d.manager.bearerOf ⟨id, ebi⟩ = some b →
      d.manager.byID id = some ds → ebi = ds.defaultEBI → ds.paa = .v4 p →
      d.maps.tunnelAt p = some tunnel → ∃ x, x ≠ id ∧ d.manager.Carries x p tunnel
  | .updateBearer .. => True

theorem call_synced_iff {d : Dataplane} (hj : d.manager.TablesKept) (h : d.Synced) (op : Op) :
    Synced (d.call op) ↔ d.Fits op := by
  cases op with
  | addSession localGTPU s2bIfindex fault o sess =>
    simp only [call, Fits]
    cases hadm : d.manager.admits localGTPU sess with
    | none =>
      rw [addSession_none hadm]
      simp_all
    | some c =>
      rw [addSession_synced_iff hj h s2bIfindex fault o hadm]
      simp_all
  | removeSession id =>
    simp only [call, Fits]
    cases hds : d.manager.byID id with
    | none =>
      simp only [removeSession, hds]
      simp_all
    | some ds =>
      rw [removeSession_synced_iff hj h hds]
      simp_all
  | addBearer o id b =>
    simp only [call, Fits]
    cases hadm : d.manager.admitsBearer id b with
    | false =>
      rw [addBearer_none hadm]
      simp_all
    | true =>
      obtain ⟨ds, hds, -⟩ := (Manager.addBearer_admitted hadm false).2
      rw [addBearer_synced_iff hj h o hadm hds, hds]
      simp_all
  | removeBearer o id ebi =>
    simp only [call, Fits]
    cases hb : d.manager.bearerOf ⟨id, ebi⟩ with
    | none =>
      rw [removeBearer_none hb]
      simp_all
    | some b =>
      rw [removeBearer_synced_iff hj h o hb]
      grind
  | updateBearer o id ebi qci tftRaw =>
    exact iff_of_true (updateBearer_synced h o id ebi qci tftRaw) trivial

/-- The maps agree with the sessions all through a run exactly when every call fits. -/
theorem synced_throughout_iff (ops : List Op) :
    (∀ done, done <+: ops → Synced (Machine.run call {} done)) ↔
      Machine.Guarded call Fits {} ops := by
  refine Machine.invariant_iff_guarded (fun d => d.manager.TablesKept) Synced (fun d op hj => ?_)
    (fun d op hj h => call_synced_iff hj h op) Manager.tablesKept_empty synced_empty ops
  obtain ⟨a, ha⟩ := d.call_manager op
  rw [ha]
  exact hj.call a

section Runs

def listOrder : RangeOrder := ⟨id, fun _ => .refl _⟩

def attachOp (id : UInt64) (localTEID remoteTEID : UInt32) : Op :=
  .addSession (some (.v4 0xc0000201)) 2 none listOrder
    { id := ⟨id, 0⟩
      s2b := some { paa := .v4 0x0a000001, pgwControlTEID := 0x5001, pgwControlIP := none
                    pgwUserTEID := remoteTEID, pgwUserIP := .v4 0xc0000202
                    localControlTEID := 0x1001, localUserTEID := localTEID, ebi := 5
                    pgwRecovery := 0 } }

def sharedPAA : List Op := [attachOp 1 0x2001 0x6001, attachOp 2 0x2002 0x6002]

def reusedEBI : List Op :=
  [attachOp 1 0x2001 0x6001,
    .addBearer listOrder ⟨1, 0⟩ { ebi := 5, localRXTEID := 0x2002, remoteTXTEID := 0x6002
                                  pgwGTPUIP := none, localGTPUIP := none, qci := 9, tft := none },
    .removeSession ⟨1, 0⟩]

/-- The first run cuts a live session off, the second leaves a tunnel of no session. -/
theorem unsynced_after_reuse :
    ¬Synced (Machine.run call {} sharedPAA) ∧ ¬Synced (Machine.run call {} reusedEBI) := by
  constructor
  · intro h
    have hrun : ((Machine.run call {} sharedPAA).manager.byID ⟨1, 0⟩).map Session.paa =
          some (.v4 0x0a000001) ∧
        (Machine.run call {} sharedPAA).maps.tunnelAt 0x0a000001 = none := by
      decide +kernel
    obtain ⟨ds, hds, hpaa⟩ := Option.map_eq_some_iff.mp hrun.1
    obtain ⟨p, hp, hsome⟩ := h.present ⟨1, 0⟩ ds hds
    rw [hpaa] at hp
    cases hp
    rw [hrun.2] at hsome
    cases hsome
  · intro h
    have hrun : (Machine.run call {} reusedEBI).maps.teidAt 0x2001 =
          some ⟨0x0a000001, 0xc0000202⟩ ∧
        (Machine.run call {} reusedEBI).manager.sessionsByID.entries.isEmpty = true := by
      decide +kernel
    obtain ⟨ref, b, hb, -⟩ := h.teid.sound _ _ hrun.1
    obtain ⟨ds, hds, -⟩ := Manager.bearerOf_some hb
    have hmem := AList.mem_lookup_iff.mp hds
    rw [List.isEmpty_iff.mp hrun.2] at hmem
    cases hmem

end Runs

end Dataplane
end Epdg.Gtpu
