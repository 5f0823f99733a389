import Epdg.System.History
import Epdg.System.Links

/-!
What every effect does to the sessions and to the SAs that name them.

An SA names its session and its SWm session. Each effect keeps what all SAs name, or lets one
SA open its session, or moves both names to the SA of an IKE SA rekey, or takes an SA away.
The inversions below say this together with what happens to the sessions themselves, so that
invariants of both tables need no other look at the handlers.
-/
namespace Epdg
open Ikev2
variable {w0 : World} {sa sa' : IkeSA} {remote : UDPAddr} {msg secret : Bytes} {hdr : IKEHeader}
  {i : Input} {sid : SWMSessionID} {r : CreateSessionResult} {S : Server} {k0 : UInt64}
  {ok : World → Input → Prop} {now : Time} {inputs : List Input}

def World.ids (w : World) (k : UInt64) : Option (Option Session.ID × Option SWMSessionID) :=
  (w.lookupSA k).map fun sa => (sa.sessionID, sa.swmSessionID)

def Refers (w : World) (k : UInt64) (id : Session.ID) : Prop :=
  ∃ sa, w.lookupSA k = some sa ∧ sa.sessionID = some id

def HoldsSwm (w : World) (k : UInt64) (sid : SWMSessionID) : Prop :=
  ∃ sa, w.lookupSA k = some sa ∧ sa.swmSessionID = some sid

def Event.isTermination : Event → Bool
  | .strSent _ _ _ | .handoverSignalled _ => true
  | _ => false

def Uneventful (w w' : World) : Prop :=
  ∃ new, w'.trace = new ++ w.trace ∧ ∀ e ∈ new, e.isTermination = false

section
variable {S : Server} {env : Env} {allowed : Triggers} {w w' : World} {id : Session.ID}
  {k : UInt64}

theorem Uneventful.of_eq (h : w'.trace = w.trace) : Uneventful w w' := ⟨[], h, by simp⟩

theorem Uneventful.one {e : Event} (h : w'.trace = e :: w.trace) (he : e.isTermination = false) :
    Uneventful w w' :=
  ⟨[e], h, by simpa using he⟩

theorem refers_iff : Refers w k id ↔ ∃ sid, w.ids k = some (some id, sid) := by
  simp only [Refers, World.ids, Option.map_eq_some_iff, Prod.mk.injEq]
  simp_all

theorem holdsSwm_iff : HoldsSwm w k sid ↔ ∃ id, w.ids k = some (id, some sid) := by
  simp only [HoldsSwm, World.ids, Option.map_eq_some_iff, Prod.mk.injEq]
  simp_all

theorem Refers.congr (h : ∀ k, w'.ids k = w.ids k) : Refers w' k id ↔ Refers w k id := by
  rw [refers_iff, refers_iff, h]

theorem HoldsSwm.congr (h : ∀ k, w'.ids k = w.ids k) : HoldsSwm w' k sid ↔ HoldsSwm w k sid := by
  rw [holdsSwm_iff, holdsSwm_iff, h]

theorem ids_congr (hl : ∀ k, w'.lookupSA k = w.lookupSA k) (k : UInt64) : w'.ids k = w.ids k := by
  simp only [World.ids, hl]

theorem ids_rewrite (sa' : IkeSA) (h : w.lookupSA sa.spiI = some sa)
    (hl : ∀ k, w'.lookupSA k = if k = sa.spiI then some sa' else w.lookupSA k)
    (hs : sa'.sessionID = sa.sessionID) (hw : sa'.swmSessionID = sa.swmSessionID) (k : UInt64) :
    w'.ids k = w.ids k := by
  simp only [World.ids, hl]
  grind

theorem refers_of_lookup (hl : ∀ k, w'.lookupSA k = if k = k0 then some sa' else w.lookupSA k) :
    Refers w' k id ↔ k = k0 ∧ sa'.sessionID = some id ∨ k ≠ k0 ∧ Refers w k id := by
  simp only [Refers, hl]
  grind

theorem refers_rewrite (sa' : IkeSA) (h : w.lookupSA sa.spiI = some sa)
    (hl : ∀ k, w'.lookupSA k = if k = sa.spiI then some sa' else w.lookupSA k)
    (hs : sa'.sessionID = sa.sessionID) : Refers w' k id ↔ Refers w k id := by
  rw [refers_of_lookup hl]
  constructor
  · rintro (⟨rfl, hid⟩ | ⟨-, hr⟩)
    · exact ⟨sa, h, hs ▸ hid⟩
    · exact hr
  · intro hr
    by_cases e : k = sa.spiI
    · obtain ⟨sa1, hl1, hid⟩ := hr
      simp_all
    · exact .inr ⟨e, hr⟩

theorem holdsSwm_of_lookup (hl : ∀ k, w'.lookupSA k = if k = k0 then some sa' else w.lookupSA k) :
    HoldsSwm w' k sid ↔ k = k0 ∧ sa'.swmSessionID = some sid ∨ k ≠ k0 ∧ HoldsSwm w k sid := by
  simp only [HoldsSwm, hl]
  grind

inductive QuietLinks (S : Server) (env : Env) (allowed : Triggers) (w w' : World) : Prop
  | same (h : ∀ id, w'.links id = w.links id) (hids : ∀ k, w'.ids k = w.ids k)
      (ht : Uneventful w w')
  | opened (sa sa' : IkeSA) (hl : w.lookupSA sa.spiI = some sa) (hs : sa.state = .auth)
      (hid : sa'.sessionID = some sa.ownSession) (hswm : sa'.swmSessionID = sa.swmSessionID)
      (hl' : ∀ k, w'.lookupSA k = if k = sa.spiI then some sa' else w.lookupSA k)
      (h : ∀ id, w'.links id =
        if id = sa.ownSession then some ((w.links id).getD {}) else w.links id)
      (ht : w'.trace = w.trace)
  | torn (sa : IkeSA) (hl : w.lookupSA sa.spiI = some sa)
      (he : w' = fullTeardown S.prims env.strOpen (w.storeSA sa.closing) sa.closing)
      (hno : ∀ k, w'.lookupSA k = if k = sa.spiI then none else w.lookupSA k)
      (h : ∀ id, w'.links id = if sa.sessionID = some id then none else w.links id)
  | expired (sa : IkeSA) (hl : w.lookupSA sa.spiI = some sa) (hs : sa.state = .auth)
      (hx : allowed.expiry sa.spiI)
      (hno : ∀ k, w'.lookupSA k = if k = sa.spiI then none else w.lookupSA k)
      (h : ∀ id, w'.links id = w.links id) (ht : w'.trace = w.trace)
  | pgw (ev : PgwEvent) (hev : allowed.pgw ev) (he : w' = handlePGW w env ev)
      (hl : ∀ k, w'.lookupSA k = w.lookupSA k) (h : ∀ id, PgwLinks w id ev (w'.links id))

theorem links_round1Session (w : World) (sa : IkeSA) :
    (round1Session w sa).links id =
      if id = sa.ownSession then some ((w.links id).getD {}) else w.links id := by
  simp only [round1Session, World.links, World.setSessions_sessions,
    Session.Manager.get_update, Session.Manager.get_getOrCreate]
  by_cases e : id = sa.ownSession
  · rw [if_pos e, if_pos e, e]
    cases w.sessions.get sa.ownSession with
    | none => simp [Links.of]
    | some s => simp [Links.of]
  · simp_all

theorem links_deleteESP (P : Primitives) (w : World) (sa : IkeSA) (spi : UInt32) :
    (deleteESP P w sa spi).1.links id = w.links id := by
  have hrem (pair : IP → Xfrm.EspPair) : (removeStates w sa pair).links id = w.links id := by
    simp only [removeStates]
    split <;> rfl
  simp only [deleteESP]
  split
  · split
    · have hf : ∀ s, Links.of (sessionPromoted sa.promotePending s) = Links.of s := fun s => rfl
      exact (links_updateSession_id _ _ hf).trans (hrem sa.currentPair)
    obtain ⟨k, hx⟩ := removeXFRMChildSA_eq P w sa
    rw [hx]
    rfl
  · split
    · exact hrem _
    · rfl

theorem lookupSA_deleteESP (P : Primitives) (h : w.lookupSA sa.spiI = some sa) (spi : UInt32)
    : ∃ sa' : IkeSA, sa'.sessionID = sa.sessionID ∧
      sa'.swmSessionID = sa.swmSessionID ∧ ∀ k, (deleteESP P w sa spi).1.lookupSA k =
        if k = sa.spiI then some sa' else w.lookupSA k := by
  have hrem (pair : IP → Xfrm.EspPair) (k : UInt64) :
      (removeStates w sa pair).lookupSA k = w.lookupSA k := by
    simp only [removeStates]
    split <;> rfl
  simp only [deleteESP]
  split
  · split
    · refine ⟨sa.promotePending, rfl, rfl, fun k => ?_⟩
      rw [World.lookupSA_updateSession, World.lookupSA_storeSA, hrem]
      rfl
    · obtain ⟨x, hx⟩ := removeXFRMChildSA_eq P w sa
      simp_all
  · split
    · refine ⟨sa.clearPending, rfl, rfl, fun k => ?_⟩
      rw [World.lookupSA_storeSA, hrem]
      rfl
    · simp_all

theorem Quiet.links (h : Quiet S env allowed w w') (hk : w.sessions.Keyed) :
    QuietLinks S env allowed w w' := by
  have hstored {sa sa' : IkeSA} (hs : sa'.spiI = sa.spiI) (k : UInt64) :
      (w.storeSA sa').lookupSA k = if k = sa.spiI then some sa' else w.lookupSA k := by
    simp_all
  have hsame {w' : World} (hl : ∀ id, w'.links id = w.links id)
      (hs : ∀ k, w'.lookupSA k = w.lookupSA k) (ht : Uneventful w w') :
      QuietLinks S env allowed w w' := .same hl (ids_congr hs) ht
  cases h with
  | sent | derSent | deaReceived | completed | verified | s2bCreate =>
    exact hsame (fun _ => rfl) (fun _ => rfl) (.one rfl rfl)
  | cookies | pgwTable | gtpu | kernel =>
    exact hsame (fun _ => rfl) (fun _ => rfl) (.of_eq rfl)
  | session sid f hf =>
    exact hsame (fun id => links_updateSession_id w sid hf.links)
      (w.lookupSA_updateSession sid f) (.of_eq (w.updateSession_trace sid f))
  | touch sa sa' hl hc =>
    exact .same (fun id => rfl)
      (ids_rewrite sa' hl (hstored (SameIdentity.of_core hc).spiI)
        (IkeSA.eq_of_core hc IkeSA.sessionID fun _ => rfl)
        (IkeSA.eq_of_core hc IkeSA.swmSessionID fun _ => rfl)) (.of_eq rfl)
  | auth sa sa' hl hs hc =>
    exact .same (fun id => rfl)
      (ids_rewrite sa' hl (hstored (SameIdentity.of_authCore hc).spiI)
        (IkeSA.eq_of_authCore hc IkeSA.sessionID fun _ => rfl)
        (IkeSA.eq_of_authCore hc IkeSA.swmSessionID fun _ => rfl)) (.of_eq rfl)
  | success sa sid req avps hl hs hdea =>
    exact .same (fun id => rfl)
      (ids_rewrite (sa.eapSuccess (Swm.eapResult S.equalFold req sid avps)) hl (hstored rfl) rfl
        rfl) (.of_eq rfl)
  | openSession sa sa' hl hs hc =>
    have hi := SameIdentity.of_openSession hc
    have hown : sa'.ownSession = sa.ownSession := by
      simp only [IkeSA.ownSession, hi.spiI, hi.spiR]
    refine .opened sa sa' hl hs (IkeSA.eq_of_authCore hc IkeSA.sessionID fun _ => rfl)
      hi.swmSessionID (hstored hi.spiI) (fun id => ?_) rfl
    rw [← hown]
    exact links_round1Session w sa'
  | teardown sa hl =>
    refine .torn sa hl rfl (fun k => ?_) fun id => ?_
    · rw [lookupSA_fullTeardown, World.lookupSA_storeSA]
      have hsp : sa.closing.spiI = sa.spiI := rfl
      simp_all
    · simp only [World.links, get_fullTeardown]
      have hsid : sa.closing.sessionID = sa.sessionID := rfl
      rw [hsid]
      split <;> rfl
  | expire sa hl hs hx hold =>
    exact .expired sa hl hs hx (fun k => World.lookupSA_deleteSA _ _ _) (fun id => rfl) rfl
  | pgw ev hev =>
    exact .pgw ev hev rfl (handlePGW_aside w env ev).lookupSA fun id => handlePGW_links hk env ev
  | deleteESP sa spi hl =>
    obtain ⟨sa', hsid, hswm, hl'⟩ := lookupSA_deleteESP S.prims hl spi
    exact .same (fun id => links_deleteESP S.prims w sa spi) (ids_rewrite sa' hl hl' hsid hswm)
      (.of_eq (trace_deleteESP S.prims w sa spi))

theorem Evolve.sessionID {t : List Event} (h : Evolve S t sa sa') :
    sa'.sessionID = sa.sessionID ∨ sa.state = .auth ∧ sa'.sessionID = some sa.ownSession := by
  cases h with
  | touch _ hc => exact .inl (IkeSA.eq_of_core hc IkeSA.sessionID fun _ => rfl)
  | auth _ _ hc => exact .inl (IkeSA.eq_of_authCore hc IkeSA.sessionID fun _ => rfl)
  | openSession _ hs hc =>
    exact .inr ⟨hs, IkeSA.eq_of_authCore hc IkeSA.sessionID fun _ => rfl⟩
  | success | promote | clear => exact .inl rfl

def HalfOpenKept (w w' : World) : Prop :=
  ∀ k sa', w'.lookupSA k = some sa' → sa'.state = .auth →
    ∃ sa, w.lookupSA k = some sa ∧ sa.state = .auth ∧ sa'.ownSession = sa.ownSession ∧
      sa'.sessionID = sa.sessionID

theorem HalfOpenKept.congr (hl : ∀ k, w'.lookupSA k = w.lookupSA k) : HalfOpenKept w w' := by
  intro k sa' hl' hs
  simp_all

theorem HalfOpenKept.rewrite {sa : IkeSA} (sa' : IkeSA) (h : w.lookupSA sa.spiI = some sa)
    (hl : ∀ k, w'.lookupSA k = if k = sa.spiI then some sa' else w.lookupSA k)
    (hs : sa'.state = .auth →
      sa.state = .auth ∧ sa'.ownSession = sa.ownSession ∧ sa'.sessionID = sa.sessionID) :
    HalfOpenKept w w' := by
  intro k sa1 hl1 hs1
  grind

inductive MajorLinks (S : Server) (env : Env) (allowed : Triggers) (remote : UDPAddr)
    (msg : Bytes) (hdr : IKEHeader) (w0 w w' : World) : Prop
  | same (h : ∀ id, w'.links id = w.links id) (hids : ∀ k, w'.ids k = w.ids k)
      (hauth : HalfOpenKept w w') (ht : Uneventful w w')
  | created (new : IkeSA) (hw : ∃ c, w = { w0 with cookies := c })
      (hex : hdr.exchangeType = exchIKESAInit) (hacc : InitAccepted S w0 env remote msg hdr)
      (hspi : env.spiR = some new.spiR ∧ new.spiI = hdr.initiatorSPI)
      (hids : new.sessionID = none ∧ new.swmSessionID = none)
      (hl : ∀ k, w'.lookupSA k = if k = hdr.initiatorSPI then some new else w.lookupSA k)
      (h : ∀ id, w'.links id = w.links id) (ht : w'.trace = w.trace)
  | started (sa : IkeSA) (hl : w.lookupSA sa.spiI = some sa) (hs : sa.state = .auth)
      (hex : hdr.exchangeType = exchIKEAuth) (hid : sa.sessionID = some sa.ownSession)
      (hl' : ∀ k, w'.lookupSA k =
        if k = sa.spiI then some (sa.swmStarted env.now) else w.lookupSA k)
      (h : ∀ id, w'.links id =
        if some id = sa.sessionID then (w.links id).map fun l => { l with swm := some env.now }
        else w.links id) (ht : w'.trace = w.trace)
  | connected (sa : IkeSA) (r : CreateSessionResult) (w2 : World)
      (hl : w.lookupSA sa.spiI = some sa) (hs : sa.state = .auth) (hr : env.s2b = .ok r)
      (hq : Quiets S env allowed (w.updateSession sa.sessionID (sessionS2b r)) w2)
      (hl2 : ∀ k, w2.lookupSA k = w.lookupSA k)
      (h : ∀ id, w'.links id = w2.links id) (hids : ∀ k, w'.ids k = w2.ids k)
      (hauth : HalfOpenKept w2 w') (ht : Uneventful w2 w')
  | moved (sa0 sa new : IkeSA) (offer : SecurityAssociation) (nonceI : Bytes)
      (ke : Option KeyExchange) (hw : ∀ k, w.ids k = w0.ids k)
      (hl : w.lookupSA sa.spiI = some sa)
      (hst : sa.state = .established ∧ new.state = .established)
      (hex : hdr.exchangeType = exchCreateChildSA)
      (hl0 : w0.lookupSA hdr.initiatorSPI = some sa0)
      (hopen : openChild S sa0.saKey msg = some (.ikeSA offer nonceI ke))
      (hp : IkeRekeyAccepted S env offer ke new.spiI)
      (hids : new.sessionID = sa.sessionID ∧ new.swmSessionID = sa.swmSessionID)
      (hl' : ∀ k, w'.lookupSA k =
        if k = new.spiI then some new else if k = sa.spiI then some sa.replaced else w.lookupSA k)
      (h : ∀ id, w'.links id = w.links id) (ht : Uneventful w w')

theorem links_sessionS2b (r : CreateSessionResult) (s : Session.Session) :
    Links.of (sessionS2b r s) = (Links.of s).connect (s2bContext r) := by
  simp [sessionS2b, Links.of, Links.connect]

theorem Major.establish_links (hpgw : ∀ pos, ∀ ev ∈ env.pgwAt pos, allowed.pgw ev) {spi : UInt32}
    (h : w.lookupSA sa.spiI = some sa) (hs : sa.state = .auth) (hr : env.s2b = .ok r)
    (hc : EstablishCase S.prims w env remote sa r spi w') :
    MajorLinks S env allowed remote msg hdr w0 w w' := by
  have hl2 : ∀ k, (pgwEvents (w.updateSession sa.sessionID (sessionS2b r)) env 1).lookupSA k =
      w.lookupSA k := fun k => by simp
  have hmark : ∀ k, (markEstablished w env sa r spi).lookupSA k = if k = sa.spiI then
      some (sa.establish spi) else (pgwEvents (w.updateSession sa.sessionID (sessionS2b r)) env
        1).lookupSA k := by
    simp_all
  have hl : ∀ k, w'.lookupSA k = (markEstablished w env sa r spi).lookupSA k := by
    intro k
    cases hc <;> rfl
  have hl' := fun k => (hl k).trans (hmark k)
  refine .connected sa r _ h hs hr (pgwEvents_quiets hpgw 1) hl2 (fun id => ?_)
    (ids_rewrite (sa.establish spi) ((hl2 _).trans h) hl' rfl rfl)
    (.rewrite _ ((hl2 _).trans h) hl' fun hs => by cases hs) ?_
  · cases hc <;> rfl
  · cases hc with
    | bare k hk => exact .one rfl rfl
    | installed prop localIP k hprop hip hk =>
      exact ⟨[_, .established sa.ref], rfl, by simp [Event.isTermination]⟩

theorem Major.links (hk0 : Keyed w0) (hpgw : ∀ pos, ∀ ev ∈ env.pgwAt pos, allowed.pgw ev)
    (h : Major S env remote msg hdr w0 w w') : MajorLinks S env allowed remote msg hdr w0 w w' := by
  cases h with
  | create natt req offer ke prop propNum nonceI nonceR priv shared spiR resp hex hp hw =>
    exact .created _ hw hex
      ⟨req, offer, ke, prop, propNum, nonceI, nonceR, priv, shared, spiR, resp, hp⟩
      ⟨hp.draws.1, rfl⟩ ⟨rfl, rfl⟩ (fun k => World.lookupSA_storeSA _ _ _) (fun id => rfl) rfl
  | swmStart sa req avps hex hspi h hs hid hround hdea =>
    refine .started sa h hs hex hid (fun k => ?_) (fun id => ?_) (World.updateSession_trace _ _ _)
    · rw [World.lookupSA_updateSession, World.lookupSA_storeSA]
      rfl
    · exact links_updateSession (w.storeSA _) _ _ (fun l => { l with swm := some env.now })
        fun s => rfl
  | recordS2b sa r hex h hs hr hspi =>
    have hl := w.lookupSA_updateSession sa.sessionID (sessionS2b r)
    exact .connected sa r _ h hs hr .refl hl (fun id => rfl) (fun k => rfl) (.congr fun k => rfl)
      (.of_eq rfl)
  | establish sa0 sa pl auth r spi hex h0 hst0 hopen hsa h hv hr hspi =>
    have hs : sa.state = .auth := by
      rw [hsa]
      exact (IkeSA.noteMobike_keeps IkeSA.state (fun _ _ => rfl) _ pl).trans hst0.2.1
    exact Major.establish_links hpgw h hs hr (establish_cases S.prims w env remote sa r spi)
  | childRekey sa0 sa offer nonceI nonceR ke prop propNum peerSPI spi dh p x hex h0 hst0 hsa
      hopen hsel hdh hnr hw hdraw hadd =>
    have h : w.lookupSA sa.spiI = some sa := by rw [hw]; exact lookupSA_stored _ _
    have hl : ∀ k, (((w.setKernel x).emit (.childRekeyed sa.ref dh.isPFS p)).storeSA
        (sa.setPending prop propNum peerSPI spi nonceI nonceR)).lookupSA k =
        if k = sa.spiI then some (sa.setPending prop propNum peerSPI spi nonceI nonceR)
        else w.lookupSA k := fun k => World.lookupSA_storeSA _ _ _
    exact .same (fun id => rfl) (ids_rewrite _ h hl rfl rfl)
      (.rewrite _ h hl fun hs => ⟨hs, rfl, rfl⟩) (.one rfl rfl)
  | ikeRekey sa0 sa offer ke prop propNum nonceI nonceR priv shared newSPII newSPIR hex h0
      hst0 hsa hopen hp hw h =>
    have hst : sa.state = .established := by rw [hsa]; exact hst0.2
    have hk : sa0.spiI = hdr.initiatorSPI := hk0 _ sa0 h0
    have hw0 : ∀ k, w.ids k = w0.ids k := by
      obtain ⟨e, rfl⟩ := hw
      have hstored : ∀ k, ((w0.storeSA sa).emit e).lookupSA k =
          if k = sa0.spiI then some sa else w0.lookupSA k := by
        intro k
        rw [World.lookupSA_emit, World.lookupSA_storeSA, hsa]
        rfl
      exact ids_rewrite sa (hk ▸ h0) hstored (by rw [hsa]; rfl) (by rw [hsa]; rfl)
    refine .moved sa0 sa (rekeyedSA S.prims w env sa prop shared nonceI nonceR newSPII newSPIR)
      offer nonceI ke hw0 h ⟨hst, rfl⟩ hex h0 hopen
      ⟨prop, propNum, nonceR, priv, shared, newSPIR, hp⟩ ⟨rfl, rfl⟩
      (fun k => lookupSA_ikeRekeyStore _ _ _ _) (fun id => links_updateSession_id _ _ fun s => rfl)
      (.one (e := .ikeRekeyed sa.ref w.nextRef) ?_ rfl)
    simp only [ikeRekeyStore, World.updateSession_trace]
    rfl
  | challenge sa0 sa pl c2 hex h0 hst0 hsa hopen hup hcookie hchild hw hdraw =>
    have h : w.lookupSA sa.spiI = some sa := by rw [hw]; exact lookupSA_stored _ _
    have hl : ∀ k, (w.storeSA (sa.challenged c2)).lookupSA k =
        if k = sa.spiI then some (sa.challenged c2) else w.lookupSA k :=
      fun k => World.lookupSA_storeSA _ _ _
    exact .same (fun id => rfl) (ids_rewrite _ h hl rfl rfl)
      (.rewrite _ h hl fun hs => ⟨hs, rfl, rfl⟩) (.of_eq rfl)
  | migrate w1 sa0 sa pl prop localIP ok hex h0 hst0 hsa hopen hup hcookie hchild hw hmig =>
    have h : w.lookupSA sa.spiI = some sa := by rw [hw]; exact lookupSA_stored _ _
    have hl := lookupSA_migrate hmig
    have hc := migrateMobikeXFRM_cases S.prims w env sa prop localIP remote
    rw [hmig] at hc
    cases hc with
    | refused | failed =>
      exact .same (fun id => rfl) (ids_congr hl) (.congr hl) (.of_eq rfl)
    | moved k hk =>
      have hl' : ∀ k', (((w.setKernel k).emit (.childReinstalled sa.ref
          (mobikeParams S.prims w sa prop localIP remote))).storeSA
          (sa.migrated remote)).lookupSA k' =
          if k' = sa.spiI then some (sa.migrated remote) else w.lookupSA k' :=
        fun k' => World.lookupSA_storeSA _ _ _
      exact .same (fun id => rfl) (ids_rewrite _ h hl' rfl rfl)
        (.rewrite _ h hl' fun hs => ⟨hs, rfl, rfl⟩) (.one rfl rfl)

def S2bFrom (w0 : World) (env : Env) (w : World) : Prop :=
  ∀ id l c, w.links id = some l → l.s2b = some c →
    (∃ l0, w0.links id = some l0 ∧ l0.s2b = some c) ∨ ∃ r, env.s2b = .ok r ∧ c = s2bContext r

theorem S2bFrom.of_links {w0 : World} (h : S2bFrom w0 env w)
    (hl : ∀ id l c, w'.links id = some l → l.s2b = some c →
      ∃ l', w.links id = some l' ∧ l'.s2b = some c) : S2bFrom w0 env w' := by
  intro id l c h1 hc
  obtain ⟨l', h2, hc'⟩ := hl id l c h1 hc
  exact h id l' c h2 hc'

theorem Quiet.context_le (hq : Quiet S env allowed w w') (hk : w.sessions.Keyed)
    {c : Session.S2BContext} (h : w'.context id = some c) : w.context id = some c := by
  obtain ⟨l, hl, hc⟩ := World.context_eq_some.mp h
  apply World.context_eq_some.mpr
  cases hq.links hk with
  | same hs | expired _ _ _ _ _ hs => exact ⟨l, hs id ▸ hl, hc⟩
  | opened sa _ _ _ _ _ _ hs =>
    rw [hs] at hl
    split at hl
    · cases hw : w.links id with
      | none => grind
      | some l1 => simp_all
    · exact ⟨l, hl, hc⟩
  | torn sa _ _ _ hs => simp_all
  | pgw ev hev _ _ hs =>
    have hp := hs id
    generalize w'.links id = o at hl hp
    cases hp with
    | kept => exact ⟨l, hl, hc⟩
    | marked l1 c1 h1 hc1 => grind
    | cleared l1 c1 h1 hc1 => grind
    | gone l1 c1 h1 hc1 => cases hl

theorem Quiet.s2bFrom (hq : Quiet S env allowed w w') (hk : w.sessions.Keyed) (h : S2bFrom w0 env w)
    : S2bFrom w0 env w' := by
  refine h.of_links ?_
  intro id l c hl hc
  exact World.context_eq_some.mp (hq.context_le hk (World.context_eq_some.mpr ⟨l, hl, hc⟩))

theorem Quiets.sessionsKeyed (h : Quiets S env allowed w w') (hk : w.sessions.Keyed) :
    w'.sessions.Keyed := by
  induction h with
  | refl => exact hk
  | tail _ hq ih => exact hq.sessionsKeyed ih

theorem Quiets.s2bFrom (hq : Quiets S env allowed w w') (hk : w.sessions.Keyed)
    (h : S2bFrom w0 env w) : S2bFrom w0 env w' := by
  induction hq with
  | refl => exact h
  | tail h1 hq ih => exact hq.s2bFrom (Quiets.sessionsKeyed h1 hk) ih

theorem S2bFrom.record (h : S2bFrom w0 env w) (hr : env.s2b = .ok r) (sid : Option Session.ID) :
    S2bFrom w0 env (w.updateSession sid (sessionS2b r)) := by
  intro id l c hl hc
  rw [links_updateSession w sid _ _ (links_sessionS2b r)] at hl
  split at hl
  · obtain ⟨l1, -, rfl⟩ := Option.map_eq_some_iff.mp hl
    cases hc
    simp_all
  · exact h id l c hl hc

theorem Major.s2bFrom {w1 : World} (hk0 : Keyed w0)
    (hpgw : ∀ pos, ∀ ev ∈ env.pgwAt pos, allowed.pgw ev) (hm : Major S env remote msg hdr w0 w w')
    (hk : w.sessions.Keyed) (h : S2bFrom w1 env w) : S2bFrom w1 env w' := by
  cases hm.links hk0 hpgw with
  | same hs | created _ _ _ _ _ _ _ hs | moved _ _ _ _ _ _ _ _ _ _ _ _ _ _ _ hs =>
    exact h.of_links fun id l c hl hc => ⟨l, hs id ▸ hl, hc⟩
  | started sa _ _ _ _ _ hs =>
    refine h.of_links fun id l c hl hc => ?_
    rw [hs] at hl
    split at hl
    · obtain ⟨l1, h1, rfl⟩ := Option.map_eq_some_iff.mp hl
      exact ⟨l1, h1, hc⟩
    · exact ⟨l, hl, hc⟩
  | connected sa r w2 hl _ hr hq _ hs =>
    have hk1 : (w.updateSession sa.sessionID (sessionS2b r)).sessions.Keyed :=
      updateSession_keyed hk _ (by simp [sessionS2b])
    have h2 : S2bFrom w1 env w2 := Quiets.s2bFrom hq hk1 (h.record hr _)
    exact h2.of_links fun id l c hl hc => ⟨l, hs id ▸ hl, hc⟩

structure Within (w0 : World) (i : Input) (w : World) : Prop where
  base : Base w
  keyed : w.sessions.Keyed
  s2b : S2bFrom w0 i.env w

theorem Within.start (hb : Base w) (hk : w.sessions.Keyed) (i : Input) : Within w i w :=
  ⟨hb, hk, fun _ l _ hl hc => .inl ⟨l, hl, hc⟩⟩

theorem Quiet.within (hq : Quiet S i.env i.triggers w w') (h : Within w0 i w) : Within w0 i w' :=
  ⟨hq.base h.base, hq.sessionsKeyed h.keyed, hq.s2bFrom h.keyed h.s2b⟩

theorem Within.record (h : Within w0 i w) (hr : i.env.s2b = .ok r) (sid : Option Session.ID) :
    Within w0 i (w.updateSession sid (sessionS2b r)) :=
  ⟨h.base.congr (w.lookupSA_updateSession _ _) (by simp),
    updateSession_keyed h.keyed _ (by simp [sessionS2b]), h.s2b.record hr _⟩

theorem handles_pgwAt (i : Input) : ∀ pos, ∀ ev ∈ i.env.pgwAt pos, i.triggers.pgw ev :=
  fun pos _ hev => .inr ⟨pos, hev⟩

theorem Major.within (hk0 : Keyed w0) (hm : Major S i.env remote msg hdr w0 w w')
    (h : Within w0 i w) : Within w0 i w' :=
  ⟨hm.base h.base, hm.sessionsKeyed h.keyed, hm.s2bFrom hk0 (handles_pgwAt i) h.keyed h.s2b⟩

theorem Quiets.within_invariant {I : World → Prop}
    (hquiet : ∀ {w w'}, Within w0 i w → Quiet S i.env i.triggers w w' → I w → I w')
    (hq : Quiets S i.env i.triggers w w') (h : Within w0 i w) (hi : I w) :
    Within w0 i w' ∧ I w' := by
  induction hq with
  | refl => exact ⟨h, hi⟩
  | tail _ hq ih => exact ⟨hq.within ih.1, hquiet ih.1 hq ih.2⟩

end

def Input.message (S : Server) (i : Input) : Option (UDPAddr × Bytes × IKEHeader) :=
  match i.act with
  | .packet remote pkt natt => (parsePacket S natt pkt).map fun m => (remote, m.1, m.2)
  | _ => none

theorem incoming_of_message {w : World} (hm : i.message S = some (remote, msg, hdr))
    (hl : w.lookupSA hdr.initiatorSPI = some sa)
    : incoming S w i = some ⟨remote, msg, hdr, sa⟩ := by
  simp only [Input.message] at hm
  split at hm
  · rename_i remote' pkt natt hact
    obtain ⟨m, hp, he⟩ := Option.map_eq_some_iff.mp hm
    cases he
    simp [incoming, hact, hp, hl]
  · cases hm

section
variable (I : World → Prop) (h0 : ∀ secret now, I (World.initial secret now))
include I h0

theorem guarded_run_expiring {S : Server} {ok : World → Input → Prop}
    (hexpire : ∀ {i w sa}, ok w i → i.act = .halfOpen sa.spiI → w.lookupSA sa.spiI = some sa →
      sa.state = .auth → i.env.now - sa.createdAt > S.cfg.halfOpenTimeout →
      Within w i w → I w → I (w.deleteSA sa.spiI))
    (hquiet : ∀ {i w0 w w'}, ok w0 i → (∀ k, i.act ≠ .halfOpen k) → I w0 → Within w0 i w →
      Quiet S i.env i.triggers w w' → I w → I w')
    (hmajor : ∀ {i remote msg hdr w0 w w'}, ok w0 i → (∀ k, i.act ≠ .halfOpen k) → I w0 →
      Within w0 i w0 → Within w0 i w → i.message S = some (remote, msg, hdr) →
      Quiets S i.env i.triggers w0 w → Major S i.env remote msg hdr w0 w w' → I w → I w')
    {secret : Bytes} {now : Time} {inputs : List Input}
    (hok : Machine.Guarded (step S) ok (World.initial secret now) inputs) :
    I (runFrom S secret now inputs) := by
  have hall : (Base (runFrom S secret now inputs) ∧ (runFrom S secret now inputs).sessions.Keyed) ∧
      I (runFrom S secret now inputs) := by
    refine hok.invariant (fun w => (Base w ∧ w.sessions.Keyed) ∧ I w) ?_
      ⟨⟨.initial secret now, fun id s hs => by cases hs⟩, h0 secret now⟩
    rintro w i ⟨⟨hb, hk⟩, hi⟩ hg
    have hstart := Within.start hb hk i
    have hshape := step_shape (S := S) hb.keyed i
    by_cases hact : ∃ k, i.act = .halfOpen k
    · obtain ⟨k, hact⟩ := hact
      have hstep : step S w i = halfOpenCheck S w i.env k := by simp only [step, hact]
      refine ⟨⟨step_base hb i, hshape.invariant (fun w => w.sessions.Keyed) Quiet.sessionsKeyed
        Major.sessionsKeyed hk⟩, ?_⟩
      rw [hstep]
      simp only [halfOpenCheck]
      split
      · exact hi
      rename_i sa hl
      obtain rfl : sa.spiI = k := hb.keyed k sa hl
      grind
    · have hne : ∀ k, i.act ≠ .halfOpen k := fun k he => hact ⟨k, he⟩
      have hend : Within w i (step S w i) ∧ I (step S w i) := by
        cases hshape with
        | quiet h => exact h.within_invariant (hquiet hg hne hi) hstart hi
        | major remote pkt natt msg hdr w1 w2 hact hparse h1 hm h2 =>
          obtain ⟨hin1, hi1⟩ := Quiets.within_invariant (hquiet hg hne hi) h1 hstart hi
          have hmsg : i.message S = some (remote, msg, hdr) := by
            simp [Input.message, hact, hparse]
          exact h2.within_invariant (hquiet hg hne hi) (hm.within hb.keyed hin1)
            (hmajor hg hne hi hstart hin1 hmsg h1 hm hi1)
      exact ⟨⟨hend.1.base, hend.1.keyed⟩, hend.2⟩
  exact hall.2

theorem guarded_run_within {S : Server} {ok : World → Input → Prop}
    (hquiet : ∀ {i w0 w w'}, ok w0 i → I w0 → Within w0 i w →
      Quiet S i.env i.triggers w w' → I w → I w')
    (hmajor : ∀ {i remote msg hdr w0 w w'}, ok w0 i → I w0 → Within w0 i w0 → Within w0 i w →
      i.message S = some (remote, msg, hdr) → Quiets S i.env i.triggers w0 w →
      Major S i.env remote msg hdr w0 w w' → I w → I w') {secret : Bytes} {now : Time}
    {inputs : List Input} (hok : Machine.Guarded (step S) ok (World.initial secret now) inputs) :
    I (runFrom S secret now inputs) :=
  guarded_run_expiring I h0
    (fun hg hact hl hs hold hin hi => hquiet hg hi hin (.expire _ _ hl hs hact hold) hi)
    (fun hg _ => hquiet hg) (fun hg _ => hmajor hg) hok

end

end Epdg
