import Epdg.System.Shape
import Epdg.System.Scenario

/-!
The two places where an EAP success of the AAA server is taken over: `handleAuthRound1`, when the
first answer already is one, and `handleAuthEAP`. Only the second keeps the APN profile of the
answer.
-/
namespace Epdg.Ikev2
variable {avps : List Diameter.AVP}

structure SaView where
  msk : Bytes
  imsi : Bytes
  state : IkeState
  deriving DecidableEq

structure SessionView where
  msk : Bytes
  imsi : Bytes
  apnProfile : Option Session.APNProfile
  state : Session.State
  deriving DecidableEq

def IkeSA.view (sa : IkeSA) : SaView := ⟨sa.msk, sa.imsi, sa.state⟩

def sessionView (s : Session.Session) : SessionView := ⟨s.msk, s.imsi, s.apnProfile, s.state⟩

def authView (w : World) (spiI : UInt64) (sid : Session.ID) : Option SaView × Option SessionView :=
  ((w.lookupSA spiI).map IkeSA.view, (w.sessions.get sid).map sessionView)

def keptProfile : Option Swm.APNProfile → Option Session.APNProfile
  | some p =>
    if p.ambrPresent then
      some { apn := p.apn, ambrUplink := p.ambrUplink.toNat
             ambrDownlink := p.ambrDownlink.toNat }
    else none
  | none => none

def afterTransition (state next : Session.State) : Session.State :=
  if state = next then state else if Session.allowed state next then next else state

def SessionView.success (result : Swm.EAPResult) (v : SessionView) : SessionView :=
  { msk := result.msk
    imsi := resolvedIMSI result v.imsi
    apnProfile := v.apnProfile
    state := afterTransition v.state .eapAuthenticated }

section Views
variable {S : Server} {w : World} {env : Env} {remote : UDPAddr} {sa : IkeSA} {hdr : IKEHeader}
  {result : Swm.EAPResult} {natt : Bool} {sid : Session.ID}

theorem sessionView_transition (s : Session.Session) (next : Session.State) :
    sessionView (s.transition next)
      = { sessionView s with state := afterTransition s.state next } := by
  unfold Session.Session.transition afterTransition
  by_cases hsame : s.state = next
  · rw [if_pos hsame, if_pos hsame]
    rfl
  rw [if_neg hsame, if_neg hsame]
  by_cases hmay : Session.allowed s.state next = true
  · rw [if_pos hmay, if_pos hmay]
    rfl
  · rw [if_neg hmay, if_neg hmay]
    rfl

section
variable (result : Swm.EAPResult) (s : Session.Session)

theorem sessionView_round1 :
    sessionView (sessionSuccessRound1 result s) = (sessionView s).success result := by
  rw [sessionSuccessRound1, sessionView_transition]
  rfl

theorem sessionSuccess_eq :
    sessionSuccess result s = sessionSuccessRound1 result
      { s with apnProfile := (keptProfile result.apnProfile).or s.apnProfile } := by
  unfold sessionSuccess sessionSuccessRound1 keptProfile
  grind

theorem sessionView_later :
    sessionView (sessionSuccess result s) =
      { (sessionView s).success result with
        apnProfile := (keptProfile result.apnProfile).or s.apnProfile } := by
  rw [sessionSuccess_eq, sessionView_round1]
  rfl

end

theorem authView_respond (exch : UInt8) (msgID : UInt32) (inner : List OutPayload)
    (spiI : UInt64) :
    authView (respond w env remote sa exch msgID inner natt) spiI sid = authView w spiI sid := by
  unfold respond
  split <;> rfl

theorem authView_sendEAPResponse (msgID : UInt32) (eap : Bytes) (includeID : Bool)
    (spiI : UInt64) :
    authView (sendEAPResponse S w env remote sa msgID eap includeID natt) spiI sid
      = authView w spiI sid := by
  unfold sendEAPResponse sendAuthNotify
  split
  · dsimp only
    split <;> exact authView_respond _ _ _ _
  · exact authView_respond _ _ _ _

theorem authView_store_update (sa : IkeSA) (hsid : sa.sessionID = some sid)
    (f : Session.Session → Session.Session) :
    authView ((w.storeSA sa).updateSession sa.sessionID f) sa.spiI sid
      = (some sa.view, (w.sessions.get sid).map fun s => sessionView (f s)) := by
  rw [authView, World.lookupSA_updateSession, lookupSA_stored, hsid, World.updateSession,
    World.setSessions_sessions, Session.Manager.get_update, if_pos rfl, Option.map_map]
  rfl

theorem authView_round1Result (hsid : sa.sessionID = some sid) (hs : result.state = .success) :
    authView (round1Result S w env remote sa hdr result natt) sa.spiI sid
      = (some (sa.eapSuccess result).view,
          (w.sessions.get sid).map fun s => sessionView (sessionSuccessRound1 result s)) := by
  simp only [round1Result, hs, round1Reply]
  refine Prod.ext (congrArg (Option.map IkeSA.view) (lookupSA_stored _ _)) ?_
  -- the reply and the note of it leave the session as it was written
  refine (congrArg Prod.snd (authView_sendEAPResponse _ _ _ sa.spiI)).trans ?_
  refine (congrArg Prod.snd
    (authView_store_update ((sa.swmStarted result.sessionID).eapSuccess result) hsid _)).trans ?_
  have hstarted : (sa.swmStarted result.sessionID).sessionID = some sid := hsid
  simp only [hstarted, World.updateSession, World.setSessions_sessions, World.storeSA_sessions,
    Session.Manager.get_update, if_true, Option.map_map, Function.comp_def, sessionView_round1]
  rfl

theorem authView_eapRoundResult (hsid : sa.sessionID = some sid) (hs : result.state = .success) :
    authView (eapRoundResult S w env remote sa hdr result natt) sa.spiI sid
      = (some (sa.eapSuccess result).view,
          (w.sessions.get sid).map fun s => sessionView (sessionSuccess result s)) := by
  simp only [eapRoundResult, hs]
  rw [authView_sendEAPResponse]
  exact authView_store_update (sa.nextRound.eapSuccess result) hsid _

end Views

def round1Ask (S : Server) (w : World) (sa : IkeSA) (pl : AuthPayloads) :
    Option (World × IkeSA × Swm.EAPRequest) := do
  let idi ← pl.idi
  let (nai, imsi) ← extractNAI idi
  let sa := sa.identified idi nai imsi (round1APN S pl.idr)
  let w := w.storeSA sa
  let sa ← round1Child sa pl.sa
  let sa := (round1Config sa pl.cp).withSession
  let w := (round1Session w sa).storeSA sa
  let eap ← round1EAP sa.nai pl.eapRaw
  some (w, sa, ⟨none, sa.imsi, sa.nai, sa.apn, eap⟩)

theorem round1APN_ne_nil (S : Server) (idr : Option Identification) : round1APN S idr ≠ [] := by
  unfold round1APN
  dsimp only
  split
  · assumption
  split
  · assumption
  · decide

theorem round1EAP_ne_nil {nai eapRaw eap : Bytes} (h : round1EAP nai eapRaw = some eap) :
    eap ≠ [] := by
  unfold round1EAP at h
  split at h
  · grind
  unfold Swm.identityResponse at h
  grind

section Ask
variable {S : Server} {w w1 : World} {env : Env} {remote : UDPAddr} {sa sa1 : IkeSA}
  {hdr : IKEHeader} {pl : AuthPayloads} {req : Swm.EAPRequest} {natt : Bool}

structure Round1Asks (sa1 : IkeSA) (req : Swm.EAPRequest) : Prop where
  nai : req.nai = sa1.nai
  apn : req.apn = sa1.apn
  complete : req.nai ≠ [] ∧ req.apn ≠ [] ∧ req.eapPayload ≠ []
  session : sa1.sessionID = some sa1.ownSession

theorem round1Ask_spec (h : round1Ask S w sa pl = some (w1, sa1, req)) : Round1Asks sa1 req := by
  simp only [round1Ask, Option.bind_eq_bind, Option.bind_eq_some_iff] at h
  obtain ⟨idi, -, ⟨nai, imsi⟩, hnai, sa2, hchild, eap, heap, h⟩ := h
  obtain ⟨prop, num, spi, rfl⟩ := round1Child_eq hchild
  obtain ⟨wants, ip, hcfg⟩ := round1Config_eq
    { sa.identified idi nai imsi (round1APN S pl.idr) with
      espProp := prop, espPropNum := num, peerESPSPI := spi } pl.cp
  rw [hcfg] at h
  cases h
  refine ⟨rfl, rfl, ⟨?_, round1APN_ne_nil S pl.idr, round1EAP_ne_nil heap⟩, rfl⟩
  unfold extractNAI at hnai
  split at hnai
  · cases hnai
  rename_i hdata
  split at hnai
  · cases hnai
    exact hdata
  · cases hnai

theorem exchangeEAP_answered (S : Server) (w : World) (ref : Nat) (req : Swm.EAPRequest)
    (hreq : req.nai ≠ [] ∧ req.apn ≠ [] ∧ req.eapPayload ≠ []) (hswm : env.swm = .answer avps) :
    ∃ w', w'.sessions = w.sessions ∧
      exchangeEAP S w env ref req
        = (w', some (Swm.eapResult S.equalFold req (req.sessionID.getD env.now) avps)) := by
  refine ⟨(w.emit (.derSent ref (req.sessionID.getD env.now) req)).emit
    (.deaReceived ref (req.sessionID.getD env.now) req avps), rfl, ?_⟩
  rw [exchangeEAP, if_neg (by simp [hreq])]
  simp only [hswm]

theorem handleAuthRound1_answered (remote : UDPAddr) (hdr : IKEHeader) (natt : Bool)
    (h : round1Ask S w sa pl = some (w1, sa1, req)) (hswm : env.swm = .answer avps) :
    ∃ w2 swmID, w2.sessions = w1.sessions ∧
      handleAuthRound1 S w env remote sa hdr pl natt
        = round1Result S w2 env remote sa1 hdr (Swm.eapResult S.equalFold req swmID avps) natt := by
  have hasks := round1Ask_spec h
  simp only [round1Ask, Option.bind_eq_bind, Option.bind_eq_some_iff] at h
  obtain ⟨idi, hidi, ⟨nai, imsi⟩, hnai, sa2, hchild, eap, heap, h⟩ := h
  cases h
  obtain ⟨w2, hw2, hexch⟩ := exchangeEAP_answered S
    ((round1Session (w.storeSA (sa.identified idi nai imsi (round1APN S pl.idr)))
      (round1Config sa2 pl.cp).withSession).storeSA (round1Config sa2 pl.cp).withSession)
    (round1Config sa2 pl.cp).withSession.ref _ hasks.complete hswm
  refine ⟨w2, env.now, hw2, ?_⟩
  simp only [handleAuthRound1, hidi, hnai, hchild, round1Relay, heap, hexch]
  rfl

theorem handleAuthEAP_answered (S : Server) (w : World) (remote : UDPAddr) (hdr : IKEHeader)
    (natt : Bool) (hnai : sa.nai ≠ []) (hapn : sa.apn ≠ []) (heap : pl.eapRaw ≠ [])
    (hswm : env.swm = .answer avps) : ∃ w2 swmID, w2.sessions = w.sessions ∧
      handleAuthEAP S w env remote sa hdr pl natt
        = eapRoundResult S w2 env remote sa hdr (Swm.eapResult S.equalFold
            ⟨sa.swmSessionID, sa.imsi, sa.nai, sa.apn, pl.eapRaw⟩ swmID avps) natt := by
  obtain ⟨w2, hw2, hexch⟩ := exchangeEAP_answered S w sa.ref
    ⟨sa.swmSessionID, sa.imsi, sa.nai, sa.apn, pl.eapRaw⟩ ⟨hnai, hapn, heap⟩ hswm
  refine ⟨w2, sa.swmSessionID.getD env.now, hw2, ?_⟩
  rw [handleAuthEAP, if_neg heap, hexch]

end Ask

structure SameBefore (w1 : World) (sa1 : IkeSA) (w2 : World) (sa2 : IkeSA) (sid2 : Session.ID) :
    Prop where
  sa : sa2.view = sa1.view
  nai : sa2.nai = sa1.nai
  apn : sa2.apn = sa1.apn
  sessionID : sa2.sessionID = some sid2
  session : (w2.sessions.get sid2).map sessionView
    = (w1.sessions.get sa1.ownSession).map sessionView

theorem success_views_iff {w1 w2 : World} {sa1 sa2 : IkeSA} {sid2 : Session.ID}
    {r1 r2 : Swm.EAPResult} (hsame : SameBefore w1 sa1 w2 sa2 sid2) (hmsk : r2.msk = r1.msk)
    (hid : r2.permanentIdentity = r1.permanentIdentity) :
    (some (sa1.eapSuccess r1).view, (w1.sessions.get sa1.ownSession).map fun s =>
        sessionView (sessionSuccessRound1 r1 s)) =
      (some (sa2.eapSuccess r2).view, (w2.sessions.get sid2).map fun s =>
        sessionView (sessionSuccess r2 s)) ↔
    ∀ p s, keptProfile r2.apnProfile = some p → w1.sessions.get sa1.ownSession = some s →
      s.apnProfile = some p := by
  have himsi : resolvedIMSI r2 = resolvedIMSI r1 := by
    funext imsi
    rw [resolvedIMSI, resolvedIMSI, hid]
  have hsaView : (sa2.eapSuccess r2).view = (sa1.eapSuccess r1).view := by
    obtain ⟨-, hsaIMSI, hstate⟩ := SaView.mk.inj hsame.sa
    simp only [IkeSA.eapSuccess, IkeSA.view, hmsk, himsi, hsaIMSI, hstate]
  have hsession : (w2.sessions.get sid2).map (fun s => sessionView (sessionSuccess r2 s)) =
      (w1.sessions.get sa1.ownSession).map fun s =>
        { (sessionView s).success r1 with
          apnProfile := (keptProfile r2.apnProfile).or s.apnProfile } := by
    have hview := congrArg (Option.map fun v : SessionView =>
      { v.success r1 with apnProfile := (keptProfile r2.apnProfile).or v.apnProfile }) hsame.session
    rw [Option.map_map, Option.map_map] at hview
    simp only [sessionView_later, SessionView.success, hmsk, himsi]
    exact hview
  rw [hsaView, hsession]
  simp only [sessionView_round1]
  cases w1.sessions.get sa1.ownSession with
  | none => exact iff_of_true rfl fun p s _ hs => nomatch hs
  | some s =>
    simp only [Option.map_some, Prod.mk.injEq, true_and, Option.some.injEq,
      SessionView.success, SessionView.mk.injEq, and_true]
    cases keptProfile r2.apnProfile with
    | none => simp [sessionView]
    | some p =>
      constructor
      · rintro h _ _ ⟨⟩ rfl
        exact h
      · intro h
        exact h p s rfl rfl

/-- An EAP success that answers round 1 does the same as in a later round exactly when the session
has the APN profile of the answer already, or the answer has none. -/
theorem eap_success_same_iff {S : Server} {w w1 w2 : World} {env env2 : Env}
    {remote remote2 : UDPAddr} {sa sa1 sa2 : IkeSA} {hdr hdr2 : IKEHeader} {pl pl2 : AuthPayloads}
    {natt natt2 : Bool} {req : Swm.EAPRequest} {avps : List Diameter.AVP} {sid2 : Session.ID}
    (hask : round1Ask S w sa pl = some (w1, sa1, req)) (hswm : env.swm = .answer avps)
    (hsame : SameBefore w1 sa1 w2 sa2 sid2) (heap : pl2.eapRaw ≠ [])
    (hswm2 : env2.swm = .answer avps) (hsuccess : (Swm.answerState avps).1 = .success) :
    authView (handleAuthRound1 S w env remote sa hdr pl natt) sa1.spiI sa1.ownSession
        = authView (handleAuthEAP S w2 env2 remote2 sa2 hdr2 pl2 natt2) sa2.spiI sid2 ↔
      ∀ p s, keptProfile (Swm.parseAPNProfile S.equalFold avps sa1.apn) = some p →
        w1.sessions.get sa1.ownSession = some s → s.apnProfile = some p := by
  have hasks := round1Ask_spec hask
  have hnai : sa2.nai ≠ [] := by
    rw [hsame.nai, ← hasks.nai]
    exact hasks.complete.1
  have hapn : sa2.apn ≠ [] := by
    rw [hsame.apn, ← hasks.apn]
    exact hasks.complete.2.1
  obtain ⟨v1, id1, hv1, h1⟩ := handleAuthRound1_answered remote hdr natt hask hswm
  obtain ⟨v2, id2, hv2, h2⟩ :=
    handleAuthEAP_answered S w2 remote2 hdr2 natt2 hnai hapn heap hswm2
  rw [h1, h2, authView_round1Result hasks.session hsuccess,
    authView_eapRoundResult hsame.sessionID hsuccess, hv1, hv2, ← hsame.apn]
  -- the key and the identity of a result do not depend on the request
  exact success_views_iff hsame rfl rfl

end Epdg.Ikev2

namespace Epdg.Scenario
open Ikev2

def successInRound1 : List Input :=
  [Attach.init {} 1 (some gateway), Attach.round1 {} 2 successAnswer]

def successInRound2 : List Input :=
  [Attach.init {} 1 (some gateway), Attach.round1 {} 2 challengeAnswer,
    Attach.eap {} 3 successAnswer]

def succeeded (profile : Option Session.APNProfile) : Option SaView × Option SessionView :=
  (some ⟨msk, Bytes.ascii "001010000000001", .auth⟩,
    some ⟨msk, Bytes.ascii "001010000000001", profile, .eapAuthenticated⟩)

theorem round1_success_without_profile :
    authView (after successInRound1) 0x11 ⟨0x11, 0x21⟩ = succeeded none ∧
    authView (after successInRound2) 0x11 ⟨0x11, 0x21⟩
      = succeeded (some ⟨Bytes.ascii "ims", 1000, 1000⟩) := by
  decide +kernel

def round1Payloads : AuthPayloads :=
  { idi := some ⟨idRFC822Addr, Attach.nai {}⟩, idr := some ⟨idFQDN, Bytes.ascii "ims"⟩
    sa := Attach.child {} }

def plainSuccess : List Diameter.AVP := successAnswer.take 3

def initiatedSA : IkeSA :=
  ((after [Attach.init {} 1 (some gateway)]).lookupSA 0x11).get (by decide +kernel)

theorem round1Ask_isSome :
    (round1Ask server (after [Attach.init {} 1 (some gateway)]) initiatedSA
      round1Payloads).isSome = true := by
  decide +kernel

def asking : World × IkeSA × Swm.EAPRequest :=
  (round1Ask server (after [Attach.init {} 1 (some gateway)]) initiatedSA round1Payloads).get
    round1Ask_isSome

theorem plain_success_same :
    authView (handleAuthRound1 server (after [Attach.init {} 1 (some gateway)])
        { now := 2, swm := .answer plainSuccess } ue initiatedSA
        (sealedHeader 0x11 0x21 exchIKEAuth 1) round1Payloads false)
        asking.2.1.spiI asking.2.1.ownSession
      = authView (handleAuthEAP server asking.1 { now := 3, swm := .answer plainSuccess } ue
          asking.2.1 (sealedHeader 0x11 0x21 exchIKEAuth 2) { eapRaw := [2, 1, 0, 5, 1] } false)
          asking.2.1.spiI asking.2.1.ownSession := by
  have hask : round1Ask server (after [Attach.init {} 1 (some gateway)]) initiatedSA round1Payloads
      = some (asking.1, asking.2.1, asking.2.2) := 
    (Option.some_get round1Ask_isSome).symm
  refine (eap_success_same_iff hask rfl ⟨rfl, rfl, rfl, (round1Ask_spec hask).session, rfl⟩
    (by decide) rfl (by decide +kernel)).mpr ?_
  intro p s hp
  have hnone : keptProfile (Swm.parseAPNProfile server.equalFold plainSuccess asking.2.1.apn)
      = none := by
    decide +kernel
  cases hnone.symm.trans hp

end Epdg.Scenario
