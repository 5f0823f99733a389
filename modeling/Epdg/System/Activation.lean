import Epdg.System.Calm

/-!
When sessions become active.

`CanActivate` is never called. That an active session meets its conditions on data follows from
the order in which `handleAuthFinal` writes them, and from the session of a half-open SA not
being active yet: only the handlers of IKE_AUTH write these data, and they run on half-open SAs.
-/
namespace Epdg
open Ikev2
variable {pl : AuthPayloads} {sa' : IkeSA} {f : Session.Session → Session.Session}

structure HalfReady (w : World) (sa : IkeSA) : Prop where
  session : sa.sessionID = none ∧ sa.eapRound = 0 ∨ sa.sessionID = some sa.ownSession
  round : sa.eapRound = 0 → sa.msk = []
  own : ∀ s, w.sessions.get sa.ownSession = some s →
    s.state ≠ .active ∧ (sa.msk = [] ∨ s.msk = sa.msk)

structure ActiveReady (w : World) : Prop where
  keyed : Keyed w
  sessionsKeyed : w.sessions.Keyed
  ready : ∀ id s, w.sessions.get id = some s → s.state = .active → s.Ready
  half : ∀ k sa, w.lookupSA k = some sa → sa.state = .auth → HalfReady w sa

namespace ActiveReady
variable {w w' : World} {sa sa' : IkeSA} {id : Session.ID}

theorem calm (h : ActiveReady w) (hc : Calm w w') : ActiveReady w' where
  keyed := hc.keyed h.keyed
  sessionsKeyed := (hc.sessions h.sessionsKeyed).1
  ready id s' hs' hact := by
    obtain ⟨s, hs, -, hdata, hst⟩ := (hc.sessions h.sessionsKeyed).2 id s' hs'
    obtain ⟨-, hd⟩ := hdata (Session.inUse_of_active hact)
    exact (Session.ready_congr hd).mpr (h.ready id s hs (hst hact))
  half k sa' hl' hs' := by
    obtain ⟨sa, hl, hs, hown, hid, hmsk, hround⟩ := hc.halfOpen k sa' hl' hs'
    have hr := h.half k sa hl hs
    refine ⟨?_, ?_, ?_⟩
    · rw [hid, hown, hround]
      exact hr.session
    · rw [hround, hmsk]
      exact hr.round
    · intro s' hget'
      rw [hown] at hget'
      obtain ⟨s, hget, hm, -, hst⟩ := (hc.sessions h.sessionsKeyed).2 _ s' hget'
      obtain ⟨hna, hkey⟩ := hr.own s hget
      simp_all

theorem own_ne (hk : Keyed w) {k : UInt64} (hl : w.lookupSA k = some sa')
    (hne : k ≠ sa.spiI) : sa'.ownSession ≠ sa.ownSession := by
  intro he
  simp only [IkeSA.ownSession, Session.ID.mk.injEq] at he
  exact hne ((hk k sa' hl).symm.trans he.1)

theorem advance (h : ActiveReady w) (sa sa' : IkeSA) (hk : w'.sessions.Keyed)
    (hl' : ∀ k, w'.lookupSA k = if k = sa.spiI then some sa' else w.lookupSA k)
    (hspi : sa'.spiI = sa.spiI ∧ sa'.spiR = sa.spiR) (hsa : HalfReady w' sa')
    (hother : ∀ id, id ≠ sa.ownSession → w'.sessions.get id = w.sessions.get id) :
    ActiveReady w' where
  keyed k sa1 hl1 := by
    rw [hl'] at hl1
    split at hl1
    · simp_all
    · exact h.keyed k sa1 hl1
  sessionsKeyed := hk
  ready id s hs hact := by
    have hown : sa'.ownSession = sa.ownSession := by
      simp only [IkeSA.ownSession, hspi]
    by_cases e : id = sa.ownSession
    · rw [e, ← hown] at hs
      exact ((hsa.own s hs).1 hact).elim
    · rw [hother id e] at hs
      exact h.ready id s hs hact
  half k sa1 hl1 hs1 := by
    rw [hl'] at hl1
    split at hl1
    · grind
    rename_i hne
    have hr := h.half k sa1 hl1 hs1
    refine ⟨hr.session, hr.round, fun s hs => hr.own s ?_⟩
    rwa [hother _ (own_ne h.keyed hl1 hne)] at hs

theorem activate (h : ActiveReady w)
    (hno : ∀ k sa, w.lookupSA k = some sa → sa.state = .auth → sa.ownSession ≠ id)
    {f : Session.Session → Session.Session} (hid : ∀ s, (f s).id = s.id)
    (hf : ∀ s, w.sessions.get id = some s → (f s).state = .active → (f s).Ready) :
    ActiveReady (w.updateSession (some id) f) where
  keyed k sa hl := h.keyed k sa (by rwa [World.lookupSA_updateSession] at hl)
  sessionsKeyed := h.sessionsKeyed.update hid
  ready id' s' hs' hact := by
    rw [World.updateSession, World.setSessions_sessions, Session.Manager.get_update] at hs'
    split at hs'
    · rename_i e
      obtain ⟨s, hs, rfl⟩ := Option.map_eq_some_iff.mp hs'
      simp_all
    · exact h.ready id' s' hs' hact
  half k sa hl hs := by
    have hr := h.half k sa hl hs
    refine ⟨hr.session, hr.round, fun s hget => hr.own s ?_⟩
    rwa [World.updateSession, World.setSessions_sessions, Session.Manager.get_update,
      if_neg (hno k sa hl hs)] at hget

end ActiveReady

section InitialState

theorem ActiveReady.initial (secret : Bytes) (now : Time) :
    ActiveReady (World.initial secret now) where
  keyed _ _ hl := by cases hl
  sessionsKeyed _ _ hs := by cases hs
  ready _ _ hs := by cases hs
  half _ _ hl := by cases hl

end InitialState

/-! ### IKE_SA_INIT and IKE_AUTH -/

def FreshSession (S : Server) (w : World) (i : Input) : Prop :=
  ∀ remote msg hdr spiR, i.message S = some (remote, msg, hdr) →
    hdr.exchangeType = exchIKESAInit → i.env.spiR = some spiR →
    ∀ s, w.sessions.get ⟨hdr.initiatorSPI, spiR⟩ = some s → s.state ≠ .active

section Auth
variable {S : Server} {env : Env} {remote : UDPAddr} {hdr : IKEHeader} {msg : Bytes}
  {w w' : World} {sa : IkeSA} {natt : Bool} {result : Swm.EAPResult}

theorem handleIKESAInit_ready (h : ActiveReady w)
    (hfresh : ∀ spiR, env.spiR = some spiR →
      ∀ s, w.sessions.get ⟨hdr.initiatorSPI, spiR⟩ = some s → s.state ≠ .active) :
    ActiveReady (handleIKESAInit S w env remote msg hdr natt) := by
  have hcase := handleIKESAInit_cases S w env remote msg hdr natt
  generalize handleIKESAInit S w env remote msg hdr natt = out at hcase
  have hcookies : (touchCookies S w env).sessions = w.sessions := by
    simp only [touchCookies]
    split <;> rfl
  have htouch : ActiveReady (touchCookies S w env) :=
    h.calm (.of_eq hcookies lookupSA_touchCookies)
  cases hcase with
  | silent => exact h
  | answered out => exact h.calm (.emit w _)
  | dropped => exact htouch
  | refused out => exact htouch.calm (.emit _ _)
  | accepted req sa ke prop propNum nonceI nonceR priv shared spiR resp hp =>
    refine ActiveReady.calm ?_ (.emit _ _)
    generalize hnew : initSA S (touchCookies S w env) env remote msg hdr natt req prop nonceI
      nonceR shared spiR resp = new
    refine htouch.advance new new htouch.sessionsKeyed (fun k => ?_) ⟨rfl, rfl⟩ ?_ fun _ _ => rfl
    · simp_all
    · subst hnew
      refine ⟨.inl ⟨rfl, rfl⟩, fun _ => rfl, fun s hs => ?_⟩
      rw [World.allocRef_sessions, World.storeSA_sessions, hcookies] at hs
      exact ⟨hfresh spiR hp.draws.1 s hs, .inl rfl⟩

theorem Calm.auth (hl : w.lookupSA sa.spiI = some sa) (hc : sa'.authCore = sa.authCore)
    : Calm w (w.storeSA sa') := by
  refine .storeSame hl (IkeSA.eq_of_authCore hc IkeSA.spiI fun _ => rfl)
    (IkeSA.eq_of_authCore hc IkeSA.state fun _ => rfl)
    ⟨IkeSA.eq_of_authCore hc IkeSA.ownSession fun _ => rfl,
      IkeSA.eq_of_authCore hc IkeSA.sessionID fun _ => rfl,
      IkeSA.eq_of_authCore hc IkeSA.msk fun _ => rfl, ?_⟩
  have hround : min sa'.eapRound 1 = min sa.eapRound 1 := congrArg IkeSA.eapRound hc
  omega

theorem Calm.sendEAPResponse (w : World) (sa : IkeSA) (msgID : UInt32) (eap : Bytes)
    (includeID : Bool) :
    Calm w (sendEAPResponse S w env remote sa msgID eap includeID natt) := by
  simp only [Ikev2.sendEAPResponse]
  split
  · split
    · exact .respond _ _ _ _ _ _
    · exact .respond _ _ _ _ _ _
  · exact .respond _ _ _ _ _ _

theorem exchangeEAP_calm {ref : Nat} {req : Swm.EAPRequest} {o : Option Swm.EAPResult}
    (h : exchangeEAP S w env ref req = (w', o)) :
    Calm w w' ∧ ∀ k, w'.lookupSA k = w.lookupSA k := by
  simp only [exchangeEAP] at h
  split at h
  · cases h
    exact ⟨.refl w, fun _ => rfl⟩
  split at h
  · cases h
    exact ⟨.refl w, fun _ => rfl⟩
  · cases h
    exact ⟨.emit w _, fun _ => rfl⟩
  · cases h
    exact ⟨(Calm.emit w _).trans (.emit _ _), fun _ => rfl⟩

theorem ActiveReady.proceed (h : ActiveReady w) (sa' : IkeSA)
    (hl : w.lookupSA sa.spiI = some sa) (hs : sa.state = .auth)
    (hspi : sa'.spiI = sa.spiI ∧ sa'.spiR = sa.spiR)
    (hid : sa'.sessionID = some sa.ownSession) (hround : sa'.eapRound = 0 → sa'.msk = [])
    {f : Session.Session → Session.Session} (hfid : ∀ s, (f s).id = s.id)
    (hf : ∀ s, s.state ≠ .active → (sa.msk = [] ∨ s.msk = sa.msk) →
      (f s).state ≠ .active ∧ (sa'.msk = [] ∨ (f s).msk = sa'.msk)) :
    ActiveReady ((w.storeSA sa').updateSession sa'.sessionID f) := by
  have hown : sa'.ownSession = sa.ownSession := by
    simp only [IkeSA.ownSession, hspi]
  rw [hid]
  refine h.advance sa sa' (h.sessionsKeyed.update hfid) (fun k => ?_) hspi
    ⟨.inr (hid.trans (congrArg some hown.symm)), hround, ?_⟩ ?_
  · simp_all
  · intro s' hs'
    rw [World.updateSession, World.setSessions_sessions, World.storeSA_sessions,
      Session.Manager.get_update, if_pos hown] at hs'
    obtain ⟨s, hget, rfl⟩ := Option.map_eq_some_iff.mp hs'
    obtain ⟨hna, hkey⟩ := (h.half _ sa hl hs).own s hget
    exact hf s hna hkey
  · intro id hne
    rw [World.updateSession, World.setSessions_sessions, World.storeSA_sessions,
      Session.Manager.get_update, if_neg hne]

def Keys (msk : Bytes) (f : Session.Session → Session.Session) : Prop :=
  ∀ s, (f s).id = s.id ∧ (f s).msk = msk ∧ ((f s).state = .active → s.state = .active)

theorem Keys.transition (f : Session.Session → Session.Session)
    (hf : ∀ s, (f s).id = s.id ∧ (f s).msk = result.msk ∧ (f s).state = s.state) :
    Keys result.msk fun s => (f s).transition .eapAuthenticated := by
  intro s
  obtain ⟨hid, hmsk, hst⟩ := hf s
  refine ⟨(Session.transition_id _ _).trans hid, (Session.transition_msk _ _).trans hmsk, ?_⟩
  intro h
  exact hst ▸ transition_not_active (by decide) h

theorem sessionSuccessRound1_keys : Keys result.msk (sessionSuccessRound1 result) :=
  .transition (fun s => { s with msk := result.msk, imsi := resolvedIMSI result s.imsi })
    fun _ => ⟨rfl, rfl, rfl⟩

theorem sessionSuccess_keys : Keys result.msk (sessionSuccess result) :=
  .transition _ fun _ => ⟨rfl, rfl, rfl⟩

section
variable (h : ActiveReady w) (hl : w.lookupSA sa.spiI = some sa)
include h hl

theorem ActiveReady.success (hs : sa.state = .auth) (hround : sa.eapRound ≠ 0)
    (hf : Keys result.msk f) :
    ActiveReady ((w.storeSA (sa.eapSuccess result)).updateSession
      (sa.eapSuccess result).sessionID f) := by
  have hid : sa.sessionID = some sa.ownSession := by
    rcases (h.half _ sa hl hs).session with ⟨-, h0⟩ | hid
    · exact (hround h0).elim
    · exact hid
  refine h.proceed (sa.eapSuccess result) hl hs ⟨rfl, rfl⟩ hid (fun h0 => (hround h0).elim)
    (fun s => (hf s).1) fun s hna _ => ?_
  exact ⟨fun ha => hna ((hf s).2.2 ha), .inr (hf s).2.1⟩

theorem round1Reply_ready : ActiveReady (round1Reply S w env remote sa hdr result natt) := by
  have h1 : ActiveReady (sendEAPResponse S w env remote sa hdr.messageID result.eapPayload true
      natt) := h.calm (.sendEAPResponse w sa hdr.messageID result.eapPayload true)
  have hl1 : (sendEAPResponse S w env remote sa hdr.messageID result.eapPayload true
      natt).lookupSA sa.spiI = some sa := by simp [hl]
  exact h1.calm (.touch hl1 rfl)

theorem round1Result_ready (hs : sa.state = .auth) (hid : sa.sessionID = some sa.ownSession)
    (hkey : sa.msk = []) : ActiveReady (round1Result S w env remote sa hdr result natt) := by
  have h1 : ActiveReady ((w.storeSA (sa.swmStarted result.sessionID)).updateSession
      (sa.swmStarted result.sessionID).sessionID
      fun s => { s with swmSessionID := some result.sessionID }) :=
    h.proceed (sa.swmStarted result.sessionID) hl hs ⟨rfl, rfl⟩ hid (fun _ => hkey)
      (fun _ => rfl) fun s hna hk => ⟨hna, hk⟩
  have hl1 : ((w.storeSA (sa.swmStarted result.sessionID)).updateSession
      (sa.swmStarted result.sessionID).sessionID
      fun s => { s with swmSessionID := some result.sessionID }).lookupSA
        (sa.swmStarted result.sessionID).spiI = some (sa.swmStarted result.sessionID) := by
    simp_all
  simp only [round1Result]
  split
  · exact h1.calm (.respond _ _ _ _ _ _)
  · refine round1Reply_ready ?_ ?_
    · exact h1.success hl1 hs (by simp [IkeSA.swmStarted]) sessionSuccessRound1_keys
    · simp_all
  · exact round1Reply_ready h1 hl1

theorem ActiveReady.openSession (hs : sa.state = .auth) (hround : sa.eapRound = 0)
    (hc : sa'.authCore = sa.withSession.authCore) :
    ActiveReady ((round1Session w sa').storeSA sa') := by
  have hspi : sa'.spiI = sa.spiI ∧ sa'.spiR = sa.spiR :=
    ⟨IkeSA.eq_of_authCore hc IkeSA.spiI fun _ => rfl,
      IkeSA.eq_of_authCore hc IkeSA.spiR fun _ => rfl⟩
  have hown : sa'.ownSession = sa.ownSession := by
    simp only [IkeSA.ownSession, hspi]
  have hid : sa'.sessionID = some sa'.ownSession := by
    rw [hown]
    exact IkeSA.eq_of_authCore hc IkeSA.sessionID fun _ => rfl
  have hhalf := h.half _ sa hl hs
  have hkey : sa'.msk = [] :=
    (IkeSA.eq_of_authCore hc IkeSA.msk fun _ => rfl).trans (hhalf.round hround)
  have hk : (round1Session w sa').sessions.Keyed :=
    h.sessionsKeyed.getOrCreate.update (by simp)
  refine h.advance sa sa' hk (fun k => ?_) hspi ⟨.inr hid, fun _ => hkey, ?_⟩ ?_
  · rw [World.lookupSA_storeSA, hspi.1]
    rfl
  · intro s' hs'
    refine ⟨fun ha => ?_, .inl hkey⟩
    rw [World.storeSA_sessions, round1Session, World.setSessions_sessions,
      Session.Manager.get_update, if_pos rfl, Session.Manager.get_getOrCreate, if_pos rfl,
      Option.map_some] at hs'
    cases hs'
    have ha' := transition_not_active (by decide) ha
    rw [hown] at ha'
    cases hget : w.sessions.get sa.ownSession with
    | none => simp_all
    | some s =>
      rw [hget] at ha'
      exact (hhalf.own s hget).1 ha'
  · intro id hne
    rw [← hown] at hne
    rw [World.storeSA_sessions, round1Session, World.setSessions_sessions,
      Session.Manager.get_update, if_neg hne, Session.Manager.get_getOrCreate, if_neg hne]

end

theorem round1Relay_ready {sa0 : IkeSA} (h : ActiveReady w) (hl : w.lookupSA sa0.spiI = some sa0)
    (hc : sa.authCore = sa0.authCore) (hs : sa0.state = .auth) (hround : sa0.eapRound = 0) :
    ActiveReady (round1Relay S w env remote sa hdr pl natt) := by
  obtain ⟨hcfg, -⟩ := round1Config_keeps sa pl.cp
  simp only [round1Relay]
  generalize round1Config sa pl.cp = sa2 at hcfg ⊢
  have hw : sa2.withSession.authCore = sa0.withSession.authCore :=
    congrArg IkeSA.withSession (hcfg.trans hc)
  have hs2 : sa2.withSession.state = .auth :=
    (IkeSA.eq_of_authCore hw IkeSA.state fun _ => rfl).trans hs
  have hkey : sa2.withSession.msk = [] :=
    (IkeSA.eq_of_authCore hw IkeSA.msk fun _ => rfl).trans ((h.half _ sa0 hl hs).round hround)
  have h1 := h.openSession hl hs hround hw
  split
  · exact h1.calm (.respond _ _ _ _ _ _)
  split
  · rename_i w' hx
    exact (h1.calm (exchangeEAP_calm hx).1).calm (.respond _ _ _ _ _ _)
  rename_i w' result hx
  obtain ⟨hcalm, hsame⟩ := exchangeEAP_calm hx
  refine round1Result_ready (h1.calm hcalm) ?_ hs2 rfl hkey
  simp_all

section
variable (h : ActiveReady w) (hl : w.lookupSA sa.spiI = some sa) (hs : sa.state = .auth)
include h hl hs

theorem handleAuthRound1_ready (hround : sa.eapRound = 0) :
    ActiveReady (handleAuthRound1 S w env remote sa hdr pl natt) := by
  simp only [handleAuthRound1]
  split
  · exact h.calm (.respond _ _ _ _ _ _)
  split
  · exact h.calm (.respond _ _ _ _ _ _)
  rename_i _ idi _ _ nai imsi _
  have h1 : ActiveReady (w.storeSA (sa.identified idi nai imsi (round1APN S pl.idr))) :=
    h.calm (.auth hl rfl)
  split
  · exact h1.calm (.respond _ _ _ _ _ _)
  rename_i sa2 hchild
  obtain ⟨prop, num, spi, rfl⟩ := round1Child_eq hchild
  exact round1Relay_ready h1
    (lookupSA_stored _ (sa.identified idi nai imsi (round1APN S pl.idr))) rfl hs hround

theorem eapRoundResult_ready (hround : sa.eapRound ≠ 0) :
    ActiveReady (eapRoundResult S w env remote sa hdr result natt) := by
  have hone : min (sa.eapRound + 1) 1 = min sa.eapRound 1 := by omega
  have hnext : sa.nextRound.authCore = sa.authCore := by
    simp only [IkeSA.authCore, IkeSA.nextRound, hone]
    rfl
  have h1 : ActiveReady (w.storeSA sa.nextRound) := h.calm (.auth hl hnext)
  simp only [eapRoundResult]
  split
  · exact h1.calm (.respond _ _ _ _ _ _)
  · have hkeys : Keys result.msk (sessionSuccess result) := sessionSuccess_keys
    have h2 := h1.success (lookupSA_stored _ _) hs (by simp [IkeSA.nextRound]) hkeys
    exact h2.calm (.sendEAPResponse _ _ _ _ _)
  · exact h1.calm (.sendEAPResponse _ _ _ _ _)

theorem handleAuthEAP_ready (hround : sa.eapRound ≠ 0) :
    ActiveReady (handleAuthEAP S w env remote sa hdr pl natt) := by
  simp only [handleAuthEAP]
  split
  · split
    · exact h.calm (.sendEAPResponse _ _ _ _ _)
    · exact h
  split
  · rename_i w' hx
    exact (h.calm (exchangeEAP_calm hx).1).calm (.respond _ _ _ _ _ _)
  rename_i w' result hx
  obtain ⟨hcalm, hsame⟩ := exchangeEAP_calm hx
  exact eapRoundResult_ready (h.calm hcalm) (by rw [hsame, hl]) hs hround

end

end Auth

end Epdg
