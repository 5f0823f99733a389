import Epdg.S2b.Client
import Epdg.S2b.Responses
import Epdg.System.Activation
import Epdg.System.Scenario
import Epdg.System.Writes

/-!
Active sessions have all that `CanActivate` asks for.

`handleAuthFinal` makes a session active after it has stored the S2b context and after
`AddSession` has filled in the datapath. The key is checked on the SA, the APN profile is needed
for the bandwidths of the request, and the parser of the response refuses zero TEIDs. It takes the
EBI of the default bearer as it comes, though: with an EBI of 0 in the response the session gets
active without one.
-/
namespace Epdg
open Ikev2
variable {s : Session.Session} {r : CreateSessionResult} {d : Session.DatapathContext} {i : Input}

def Carries (w : World) (id : Session.ID)
    (P : Bytes × Option Session.APNProfile × Option Session.S2BContext ×
      Option Session.DatapathContext → Prop) : Prop :=
  ∀ s, w.sessions.get id = some s → s.InUse → P s.data

def Unclaimed (w : World) (id : Session.ID) : Prop :=
  ∀ k sa, w.lookupSA k = some sa → sa.state = .auth → sa.ownSession ≠ id

section
variable {w w' : World} {id : Session.ID}
  {P Q : Bytes × Option Session.APNProfile × Option Session.S2BContext ×
    Option Session.DatapathContext → Prop}

theorem Carries.calm (h : Carries w id P) (hk : w.sessions.Keyed) (hc : Calm w w') :
    Carries w' id P := by
  intro s' hs' hu'
  obtain ⟨s, hs, -, hdata, -⟩ := (hc.sessions hk).2 id s' hs'
  obtain ⟨hu, hd⟩ := hdata hu'
  rw [hd]
  exact h s hs hu

theorem Carries.update (h : Carries w id P) {f : Session.Session → Session.Session}
    (hu : ∀ s, (f s).InUse → s.InUse) (hf : ∀ s, P s.data → Q (f s).data) :
    Carries (w.updateSession (some id) f) id Q := by
  intro s' hs' hu'
  rw [World.updateSession, World.setSessions_sessions, Session.Manager.get_update,
    if_pos rfl] at hs'
  obtain ⟨s, hs, rfl⟩ := Option.map_eq_some_iff.mp hs'
  exact hf s (h s hs (hu s hu'))

theorem Unclaimed.congr (h : Unclaimed w id) (hl : ∀ k, w'.lookupSA k = w.lookupSA k) :
    Unclaimed w' id := by
  intro k sa hk
  exact h k sa (hl k ▸ hk)

theorem Unclaimed.of_established (hk : Keyed w) {sa : IkeSA}
    (hl : w.lookupSA sa.spiI = some sa) (hs : sa.state ≠ .auth) :
    Unclaimed w sa.ownSession := by
  intro k sa' hl' hs'
  by_cases e : k = sa.spiI
  · simp_all
  · exact ActiveReady.own_ne hk hl' e

end

def Usable (r : CreateSessionResult) : Prop :=
  r.pgwControlTEID ≠ 0 ∧ r.pgwUserTEID ≠ 0 ∧ r.ebi ≠ 0

theorem ready_of_data {s : Session.Session} {r : CreateSessionResult}
    {d : Session.DatapathContext} (hr : Usable r)
    (hs : s.msk.length = 64 ∧ s.apnProfile.isSome = true ∧ s.s2b = some (s2bContext r) ∧
      s.datapath = some d ∧ d.bridgeVerified = true ∧ d.ipsecPAAAligned = true) : s.Ready := by
  obtain ⟨hmsk, hprofile, hs2b, hdp, hb, hp⟩ := hs
  obtain ⟨hc, hu, he⟩ := hr
  simp [Session.Session.Ready, Session.Session.canActivate, hmsk, hprofile, hs2b, hdp, hb, hp,
    s2bContext, hc, hu, he]

theorem Ready.withDatapath (h : s.Ready) (hd : d.bridgeVerified = true ∧ d.ipsecPAAAligned = true) :
    ({ s with datapath := some d } : Session.Session).Ready := by
  simp only [Session.Session.Ready, Session.Session.canActivate, Bool.and_eq_true] at h ⊢
  exact ⟨h.1, hd⟩

section Final
variable {S : Server} {env : Env} {remote : UDPAddr} {hdr : IKEHeader} {w : World} {sa : IkeSA}
  {r : CreateSessionResult} {natt : Bool} {id : Session.ID}

def Accepted (r : CreateSessionResult) (d : Bytes × Option Session.APNProfile ×
    Option Session.S2BContext × Option Session.DatapathContext) : Prop :=
  d.1.length = 64 ∧ d.2.1.isSome = true ∧ d.2.2.1 = some (s2bContext r)

theorem finalRespond_calm : Calm w (finalRespond S w env remote sa hdr natt r) := by
  have h1 : Calm w (pgwEvents w env 4) := .pgwEvents w env 4
  simp only [finalRespond]
  split
  · exact h1
  · exact h1.trans ((Calm.respond _ _ _ _ _ _).trans (.emit _ _))

theorem sessionESP_settled (sa : IkeSA) (s : Session.Session) : Settled s (sessionESP sa s) :=
  Settled.transition { s with
    espInboundSPI := sa.localESPSPI, espOutboundSPI := sa.peerESPSPI
    outerIP := some sa.remoteAddr } (by decide) (by decide)

theorem sessionS2b_settles (r : CreateSessionResult) (s : Session.Session) :
    ((sessionS2b r s).InUse → s.InUse) ∧
      ((sessionS2b r s).state = .active → s.state = .active) := by
  constructor
  · intro h
    have hsent := Session.inUse_of_transition (by decide) h
    exact Session.inUse_of_transition (by decide)
      (show (s.transition .s2bCreateSessionSent).InUse from hsent)
  · intro h
    have hsent := transition_not_active (by decide) h
    exact transition_not_active (by decide)
      (show (s.transition .s2bCreateSessionSent).state = .active from hsent)

theorem sessionS2b_data (r : CreateSessionResult) (s : Session.Session) :
    (sessionS2b r s).data = (s.msk, s.apnProfile, some (s2bContext r), s.datapath) := by
  have hd : (s.transition .s2bCreateSessionSent).data = s.data := Session.transition_data _ _
  simp only [Session.Session.data, Prod.mk.injEq] at hd
  simp only [sessionS2b, Session.transition_data]
  simp only [Session.Session.data, hd]

theorem ActiveReady.recordS2b (h : ActiveReady w) (r : CreateSessionResult)
    (hl : w.lookupSA sa.spiI = some sa) (hs : sa.state = .auth)
    (hid : sa.sessionID = some sa.ownSession) :
    ActiveReady (w.updateSession (some sa.ownSession) (sessionS2b r)) := by
  have hhalf := h.half _ sa hl hs
  refine h.advance sa sa (h.sessionsKeyed.update (by simp [sessionS2b])) (fun k => ?_) ⟨rfl, rfl⟩
    ⟨.inr hid, hhalf.round, fun s' hs' => ?_⟩ fun id hne => ?_
  · simp_all
  · rw [World.updateSession, World.setSessions_sessions, Session.Manager.get_update,
      if_pos rfl] at hs'
    obtain ⟨s, hget, rfl⟩ := Option.map_eq_some_iff.mp hs'
    obtain ⟨hna, hkey⟩ := hhalf.own s hget
    have hmsk : (sessionS2b r s).msk = s.msk := congrArg Prod.fst (sessionS2b_data r s)
    rw [hmsk]
    exact ⟨fun ha => hna ((sessionS2b_settles r s).2 ha), hkey⟩
  · rw [World.updateSession, World.setSessions_sessions, Session.Manager.get_update,
      if_neg hne]

theorem finalDatapath_ready (h : ActiveReady w) (hfree : Unclaimed w id)
    (hid : sa.sessionID = some id) (hcarry : Carries w id (Accepted r)) (hr : Usable r) :
    ActiveReady (finalDatapath S w env remote sa hdr natt r) := by
  have hesp : Calm w (w.updateSession (some id) (sessionESP sa)) :=
    .updateSession w _ (by simp [sessionESP]) (sessionESP_settled sa)
  simp only [finalDatapath, hid]
  split
  · exact (h.calm hesp).calm finalRespond_calm
  have hc2 := hesp.trans (.pgwEvents _ env 2)
  have h2 := h.calm hc2
  split
  · rename_i m _
    have h3 := h2.calm (Calm.of_eq (World.setGtpu_sessions _ m) fun _ => rfl)
    exact h3.calm (.respond _ _ _ _ _ _)
  rename_i m d hadd
  obtain ⟨-, -, hflags⟩ := Gtpu.Manager.addSession_ok hadd
  generalize hw2 : pgwEvents (w.updateSession (some id) (sessionESP sa)) env 2 = w2
    at hc2 h2
  have hc3 : Calm w (w2.setGtpu m) := hc2.trans (.of_eq rfl fun _ => rfl)
  have h3 : ActiveReady (w2.setGtpu m) := h.calm hc3
  have hfree3 : Unclaimed (w2.setGtpu m) id := by
    refine hfree.congr fun k => ?_
    rw [World.lookupSA_setGtpu, ← hw2, lookupSA_pgwEvents, World.lookupSA_updateSession]
  -- the datapath context is written, and the session may be released before it gets active
  have h4 : ActiveReady ((w2.setGtpu m).updateSession (some id)
      fun s => { s with datapath := some d }) := by
    refine h3.activate hfree3 (fun _ => rfl) fun s hs hact => ?_
    exact Ready.withDatapath (h3.ready id s hs hact) hflags
  have hcarry4 : Carries ((w2.setGtpu m).updateSession (some id)
      fun s => { s with datapath := some d }) id
      fun x => Accepted r x ∧ x.2.2.2 = some d := by
    refine (hcarry.calm h.sessionsKeyed hc3).update (fun _ hu => hu) fun s hs => ?_
    exact ⟨hs, rfl⟩
  have hc5 := Calm.pgwEvents ((w2.setGtpu m).updateSession (some id)
    fun s => { s with datapath := some d }) env 3
  refine ActiveReady.calm ?_ finalRespond_calm
  refine (h4.calm hc5).activate ?_ (by simp [sessionActive]) fun s hs hact => ?_
  · refine hfree3.congr fun k => ?_
    simp_all
  · have hinst : (s.transition .datapathInstalling).InUse :=
      Session.inUse_of_transition (by decide) (Session.inUse_of_active hact)
    have hu : s.InUse := Session.inUse_of_transition (by decide) hinst
    obtain ⟨⟨hmsk, hprofile, hs2b⟩, hdp⟩ := (hcarry4.calm h4.sessionsKeyed hc5) s hs hu
    have hdata : (sessionActive s).data = s.data := by
      simp [sessionActive]
    rw [Session.ready_congr hdata]
    exact ready_of_data hr ⟨hmsk, hprofile, hs2b, hdp, hflags⟩

theorem finalInstall_ready (h : ActiveReady w) (hid : sa.sessionID = some sa.ownSession)
    (hcarry : Carries w sa.ownSession (Accepted r)) (hr : Usable r) :
    ActiveReady (finalInstall S w env remote sa hdr natt r) := by
  simp only [finalInstall]
  split
  · exact h
  rename_i spi _
  have h1 : Calm w ((w.storeSA (sa.establish spi)).emit (.established (sa.establish spi).ref)) :=
    (Calm.storeEstablished w _ (by simp [IkeSA.establish])).trans (.emit _ _)
  have hl1 : ((w.storeSA (sa.establish spi)).emit
      (.established (sa.establish spi).ref)).lookupSA (sa.establish spi).spiI =
        some (sa.establish spi) := lookupSA_stored _ _
  generalize (w.storeSA (sa.establish spi)).emit (.established (sa.establish spi).ref) = w1
    at h1 hl1 ⊢
  have hx (out : World × Option Bool)
      (ho : installFinal S.prims w1 env remote (sa.establish spi) r = out) :
      Calm w out.1 ∧ ∀ k, out.1.lookupSA k = w1.lookupSA k := by
    subst ho
    refine ⟨h1.trans (.of_eq ?_ fun k => lookupSA_installFinal _ _ _ _ _ _ k), fun k =>
      lookupSA_installFinal _ _ _ _ _ _ k⟩
    simp only [installFinal]
    split
    · split <;> rfl
    · rfl
  split
  · rename_i w2 ho
    exact (h.calm (hx _ ho).1).calm (.respond _ _ _ _ _ _)
  · rename_i w2 ho
    obtain ⟨hc2, hl2⟩ := hx _ ho
    have h2 := h.calm hc2
    have hfree : Unclaimed w2 (sa.establish spi).ownSession :=
      .of_established h2.keyed (by rw [hl2, hl1]) (by simp [IkeSA.establish])
    exact finalDatapath_ready h2 hfree hid (hcarry.calm h.sessionsKeyed hc2) hr
  · rename_i w2 ho
    exact (h.calm (hx _ ho).1).calm finalRespond_calm

theorem carries_profile (hid : sa.sessionID = some id)
    (hsend : requestSendable (finalRequest w env sa) = true) :
    Carries w id fun x => x.2.1.isSome = true := by
  intro s hs _
  have hul : (finalRequest w env sa).ambrUplink ≠ 0 := by
    simp only [requestSendable, gtpAMBR, Bool.and_eq_true, decide_eq_true_eq] at hsend
    exact hsend.2.1.1.1
  simp only [finalRequest, hid, World.sessionOf, Option.bind_some, hs] at hul
  cases hp : s.apnProfile with
  | none => simp_all
  | some p =>
    simp only [Session.Session.data, hp]
    rfl

theorem finalCreate_ready (h : ActiveReady w) (hl : w.lookupSA sa.spiI = some sa)
    (hs : sa.state = .auth) (hmsk : sa.msk.length = 64)
    (hr : ∀ r, env.s2b = .ok r → Usable r) :
    ActiveReady (finalCreate S w env remote sa hdr natt) := by
  have hhalf := h.half _ sa hl hs
  have hne : sa.msk ≠ [] := by grind
  have hid : sa.sessionID = some sa.ownSession := by
    rcases hhalf.session with ⟨-, h0⟩ | hid
    · exact (hne (hhalf.round h0)).elim
    · exact hid
  simp only [finalCreate]
  split
  · exact h.calm (.respond _ _ _ _ _ _)
  rename_i hsend
  have hprofile := carries_profile hid (not_not.mp hsend)
  cases hs2b : env.s2b with
  | failed created =>
    refine ActiveReady.calm ?_ (.respond _ _ _ _ _ _)
    cases created with
    | none => exact h.calm (.emit w _)
    | some x => exact h.calm (.of_eq rfl fun _ => rfl)
  | ok r =>
    have hc0 : Calm w (pgwEvents (pgwCreate (w.emit (.s2bCreate sa.ref
        (finalRequest w env sa))) r.localControlTEID r.ebi) env 0) := by
      refine Calm.trans ?_ (.pgwEvents _ env 0)
      exact .of_eq rfl fun _ => rfl
    dsimp only
    generalize hw0 : pgwEvents (pgwCreate (w.emit (.s2bCreate sa.ref
        (finalRequest w env sa))) r.localControlTEID r.ebi) env 0 = w0 at hc0 ⊢
    have h0 : ActiveReady w0 := h.calm hc0
    have hl0 : w0.lookupSA sa.spiI = some sa := by
      rw [← hw0, lookupSA_pgwEvents]
      exact hl
    have hkey : Carries w0 sa.ownSession fun x => x.1.length = 64 := by
      intro s hget _
      rcases ((h0.half _ sa hl0 hs).own s hget).2 with he | he
      · exact (hne he).elim
      · exact (congrArg List.length he).trans hmsk
    have hboth : Carries w0 sa.ownSession fun x => x.1.length = 64 ∧ x.2.1.isSome = true :=
      fun s hget hu =>
        ⟨hkey s hget hu, hprofile.calm h.sessionsKeyed hc0 s hget hu⟩
    rw [hid]
    have h1 := h0.recordS2b r hl0 hs hid
    have hcarry : Carries (w0.updateSession (some sa.ownSession) (sessionS2b r)) sa.ownSession
        (Accepted r) := by
      refine hboth.update (fun s => (sessionS2b_settles r s).1) fun s hd => ?_
      rw [sessionS2b_data]
      exact ⟨hd.1, hd.2, rfl⟩
    have hc1 := Calm.pgwEvents (w0.updateSession (some sa.ownSession) (sessionS2b r)) env 1
    exact finalInstall_ready (h1.calm hc1) hid (hcarry.calm h1.sessionsKeyed hc1)
      (hr r hs2b)

theorem implicitDetach_calm {w1 : World} (h : implicitDetach S w env sa = some w1) (hk : Keyed w)
    (hl : w.lookupSA sa.spiI = some sa) : Calm w w1 ∧ w1.lookupSA sa.spiI = some sa := by
  rcases implicitDetach_some h with rfl | ⟨k, old, hne, hold, rfl⟩
  · exact ⟨.refl w1, hl⟩
  refine ⟨.teardown w old, ?_⟩
  have hspi : old.closing.spiI = k := hk k old hold
  have hne' : sa.spiI ≠ old.closing.spiI := fun e => hne (hspi.symm.trans e.symm)
  simp_all

theorem handleAuthFinal_ready {pl : AuthPayloads} (h : ActiveReady w)
    (hl : w.lookupSA sa.spiI = some sa) (hs : sa.state = .auth)
    (hr : ∀ r, env.s2b = .ok r → Usable r) :
    ActiveReady (handleAuthFinal S w env remote sa hdr pl natt) := by
  have hcase := handleAuthFinal_cases S w env remote sa hdr pl natt
  generalize handleAuthFinal S w env remote sa hdr pl natt = out at hcase
  cases hcase with
  | refused => exact h.calm (.respond _ _ _ _ _ _)
  | stuck auth =>
    have h1 : ActiveReady (w.emit (.authVerified sa auth)) := h.calm (.emit w _)
    exact h1.calm (.touch hl rfl)
  | verified auth w1 hauth hlen heq hd =>
    have h1 : ActiveReady (w.emit (.authVerified sa auth)) := h.calm (.emit w _)
    obtain ⟨hc, hl1⟩ := implicitDetach_calm hd h1.keyed hl
    exact finalCreate_ready (h1.calm hc) hl1 hs hlen hr

theorem handleIKEAuth_ready {msg : Bytes} (h : ActiveReady w)
    (hr : ∀ r, env.s2b = .ok r → Usable r) :
    ActiveReady (handleIKEAuth S w env remote msg hdr natt) := by
  simp only [handleIKEAuth]
  split
  · exact h
  split
  · exact h
  rename_i sa hl
  have hl' : w.lookupSA sa.spiI = some sa := by
    rw [h.keyed _ _ hl]
    exact hl
  simp only [handleIKEAuthOn]
  split
  · exact h
  have hs : sa.state = .auth := by simp_all
  have h1 : ActiveReady (w.storeSA (sa.heard remote env.now)) := h.calm (.auth hl' rfl)
  split
  · exact h1
  · exact h1.calm (.respond _ _ _ _ _ _)
  rename_i pl _
  have hnote : ((sa.heard remote env.now).noteMobike pl).authCore =
      (sa.heard remote env.now).authCore :=
    IkeSA.noteMobike_keeps IkeSA.authCore (fun _ _ => rfl) _ pl
  have h2 := h1.calm (Calm.auth (lookupSA_stored _ _) hnote)
  have hs2 : ((sa.heard remote env.now).noteMobike pl).state = .auth :=
    (IkeSA.eq_of_authCore hnote IkeSA.state fun _ => rfl).trans hs
  have hl2 := lookupSA_stored (w.storeSA (sa.heard remote env.now))
    ((sa.heard remote env.now).noteMobike pl)
  simp only [authDispatch]
  split
  · rename_i hround
    exact handleAuthRound1_ready h2 hl2 hs2 hround
  rename_i hround
  split
  · exact handleAuthFinal_ready h2 hl2 hs2 hr
  · exact handleAuthEAP_ready h2 hl2 hs2 hround

end Final

def NamesBearer (i : Input) : Prop :=
  ∀ r, i.env.s2b = .ok r → ∃ cfg resp localControl localUser ies,
    S2b.parseCreateSessionResponse cfg resp localControl localUser = some r ∧
    S2b.decodeIEs resp.payload = some ies ∧ 0 ∉ S2b.bearerEBIs ies

theorem NamesBearer.usable (h : NamesBearer i) (hr : i.env.s2b = .ok r) : Usable r := by
  obtain ⟨cfg, resp, localControl, localUser, ies, hparse, hies, hne⟩ := h r hr
  obtain ⟨ies', hies', -, -, hcontrol, huser, hebi⟩ := S2b.parseCreateSessionResponse_spec hparse
  rw [hies] at hies'
  cases hies'
  refine ⟨hcontrol, huser, fun h0 => ?_⟩
  rw [h0] at hebi
  cases hlast : (S2b.bearerEBIs ies).getLast? with
  | none =>
    rw [hlast] at hebi
    cases hebi
  | some ebi => grind

def ActivatesSoundly (S : Server) (w : World) (i : Input) : Prop :=
  FreshSession S w i ∧ NamesBearer i

theorem step_ready {S : Server} {w : World} (h : ActiveReady w) (hi : ActivatesSoundly S w i)
    : ActiveReady (step S w i) := by
  obtain ⟨hfresh, hbearer⟩ := hi
  simp only [step]
  split
  · rename_i remote pkt natt hact
    simp only [handlePacket]
    split
    · exact h
    rename_i msg hdr hparse
    have hmsg : i.message S = some (remote, msg, hdr) := by
      simp only [Input.message, hact, hparse, Option.map_some]
    simp only [handleMessage]
    split
    · rename_i hex
      exact handleIKESAInit_ready h fun spiR hspi => hfresh remote msg hdr spiR hmsg hex hspi
    split
    · exact handleIKEAuth_ready h fun r hr => hbearer.usable hr
    split
    · obtain ⟨_, hw⟩ := handleCreateChildSA_writes fun _ => h.keyed
      exact h.calm (.of_writes hw)
    split
    · obtain ⟨_, hw⟩ := handleInformational_writes (n := 0) fun _ => h.keyed
      exact h.calm (.of_writes hw)
    · exact h
  · exact h.calm (dpdCheck_calm h.keyed _)
  · exact h.calm (.of_writes (halfOpenCheck_writes (n := 0) false _))
  · exact h.calm (handlePGW_calm _)

/-- In every run whose steps activate sessions properly, every active session meets the
conditions of `CanActivate` on data in every state reached. -/
theorem active_sessions_ready (S : Server) (secret : Bytes) (now : Time) (inputs : List Input)
    (h : Machine.Guarded (step S) (ActivatesSoundly S) (World.initial secret now) inputs) :
    ∀ done, done <+: inputs → ∀ id s, (runFrom S secret now done).sessions.get id = some s →
      s.state = .active →
      ({ s with state := .datapathInstalling } : Session.Session).canActivate = true := by
  rintro done ⟨rest, rfl⟩ id s hs hact
  have hdone := ((Machine.guarded_append done rest).mp h).1
  have hready : ActiveReady (runFrom S secret now done) :=
    Machine.Guarded.invariant ActiveReady (fun w i hw hi => step_ready hw hi)
      (ActiveReady.initial secret now) hdone
  exact hready.ready id s hs hact

section Runs
open Scenario S2b

def createSessionResponse (ebi : UInt8) : S2b.Message :=
  { type := msgCreateSessionResp, teid := 0x301, hasTEID := true, sequence := 1
    payload := encodeIEs
      [{ type := ieCause, payload := [causeRequestAccepted, 0] },
       { type := iePAA, payload := [pdnTypeIPv4, 10, 0, 0, 1] },
       fteidIE 1 ifaceS2BPGWGTPC 0x101 (some (.v4 0xc0000209)),
       bearerContextIE
        [{ type := ieEBI, payload := [ebi] },
         fteidIE 5 ifaceS2BPGWGTPU 0x201 (some (.v4 0xc0000209))]] }

def responseResult (ebi : UInt8) : CreateSessionResult :=
  { connection 1 with ebi, pgwControlIP := some (.v4 0xc0000209) }

def attachedWith (ebi : UInt8) : List Input :=
  Attach.authenticated {} ++
    [Attach.final {} { now := 4, s2b := .ok (responseResult ebi), espSPI := some 0x1001 }]

def activationCheck (ebi : UInt8) (w : World) (i : Input) : Bool :=
  ((i.message server).all fun m => i.env.spiR.all fun spiR =>
    (w.sessions.get ⟨m.2.2.initiatorSPI, spiR⟩).isNone) &&
  match i.env.s2b with
  | .failed _ => true
  | .ok r => r = responseResult ebi

theorem activatesSoundly_of_check (ebi : UInt8)
    (hparse : parseCreateSessionResponse { pgwGTPC := .v4 0xc0000209 }
      (createSessionResponse ebi) 0x301 0x401 = some (responseResult ebi))
    (hies : (decodeIEs (createSessionResponse ebi).payload).any
      (fun ies => 0 ∉ bearerEBIs ies) = true)
    (w : World) (i : Input) (h : activationCheck ebi w i = true) :
    ActivatesSoundly server w i := by
  rw [activationCheck, Bool.and_eq_true] at h
  refine ⟨fun remote msg hdr spiR hmsg _ hspi s hs => ?_, fun r hr => ?_⟩
  · simp_all
  · have hcase := h.2
    rw [hr] at hcase
    have he : r = responseResult ebi := of_decide_eq_true hcase
    subst he
    obtain ⟨ies, hdec, hne⟩ := (Option.any_eq_true _ _).mp hies
    grind

/-- With the EBI of the request in the response, the session becomes active and is ready. -/
theorem attached_session_ready :
    Machine.Guarded (step server) (ActivatesSoundly server) (World.initial [1] 0)
      (attachedWith 5) ∧
    ∃ s, (after (attachedWith 5)).sessions.get ⟨0x11, 0x21⟩ = some s ∧ s.state = .active ∧
      ({ s with state := .datapathInstalling } : Session.Session).canActivate = true := by
  have hguard : Machine.Guarded (step server) (ActivatesSoundly server) (World.initial [1] 0)
      (attachedWith 5) :=
    Machine.Guarded.of_checks
      (activatesSoundly_of_check 5 (by decide +kernel) (by decide +kernel)) (by decide +kernel)
  have hact : ((after (attachedWith 5)).sessions.get ⟨0x11, 0x21⟩).any
      (fun s => s.state = .active) = true := by decide +kernel
  obtain ⟨s, hs, hst⟩ := (Option.any_eq_true _ _).mp hact
  have hst : s.state = .active := of_decide_eq_true hst
  exact ⟨hguard, s, hs, hst, active_sessions_ready server [1] 0 (attachedWith 5) hguard
    (attachedWith 5) (List.prefix_refl _) ⟨0x11, 0x21⟩ s hs hst⟩

/-- A response that the parser accepts with EBI 0 makes the session active without an EBI. -/
theorem active_without_ebi :
    parseCreateSessionResponse { pgwGTPC := .v4 0xc0000209 } (createSessionResponse 0) 0x301
      0x401 = some (responseResult 0) ∧
    ((after (attachedWith 0)).sessions.get ⟨0x11, 0x21⟩).any (fun s =>
      s.state = .active &&
        !({ s with state := .datapathInstalling } : Session.Session).canActivate) = true := by
  decide +kernel

end Runs

end Epdg
