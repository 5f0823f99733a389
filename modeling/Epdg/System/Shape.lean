import Epdg.System.Effects

/-!
Every step of the ePDG decomposes into the effects of `Epdg.System.Effects`.

The lemmas follow the call structure of the handlers, from the senders up to `step`.
-/
namespace Epdg
open Ikev2
variable {natt : Bool} {sa0 : IkeSA} {pl : AuthPayloads} {req : Swm.EAPRequest} {ref : Nat}
  {result : Swm.EAPResult} {avps : List Diameter.AVP} {auth nonceI : Bytes}
  {offer : SecurityAssociation} {ke : Option KeyExchange} {allowed : Triggers} {env : Env}

def Keyed (w : World) : Prop := ∀ k sa, w.lookupSA k = some sa → sa.spiI = k

theorem Keyed.storeSA {w : World} (h : Keyed w) (sa : IkeSA) : Keyed (w.storeSA sa) := by
  intro k sa' hk
  rw [World.lookupSA_storeSA] at hk
  split at hk
  · simp_all
  · exact h k sa' hk

section Handlers
variable {S : Server} {env : Env} {allowed : Triggers} {remote : UDPAddr}
  {w w' : World} {sa : IkeSA}

theorem lookupSA_stored (w : World) (sa : IkeSA) :
    (w.storeSA sa).lookupSA sa.spiI = some sa := by
  simp

section
variable (sa : IkeSA) (exch : UInt8) (msgID : UInt32) (inner : List OutPayload) (natt : Bool)

theorem respond_quiets :
    Quiets S env allowed w (respond w env remote sa exch msgID inner natt) := by
  unfold respond
  split
  · exact .refl
  · exact .single (.sent _ _ _ _)

@[simp] theorem lookupSA_respond (k : UInt64) :
    (respond w env remote sa exch msgID inner natt).lookupSA k = w.lookupSA k := by
  unfold respond
  split <;> rfl

end

theorem sendAuthNotify_quiets (sa : IkeSA) (msgID : UInt32) (type : UInt16) (natt : Bool) :
    Quiets S env allowed w (sendAuthNotify w env remote sa msgID type natt) :=
  respond_quiets _ _ _ _ _

theorem sendEAPResponse_quiets (sa : IkeSA) (msgID : UInt32) (eap : Bytes)
    (includeID natt : Bool) :
    Quiets S env allowed w (sendEAPResponse S w env remote sa msgID eap includeID natt) := by
  unfold sendEAPResponse
  split
  · dsimp only
    split
    · exact sendAuthNotify_quiets _ _ _ _
    · exact respond_quiets _ _ _ _ _
  · exact respond_quiets _ _ _ _ _

@[simp] theorem lookupSA_sendEAPResponse (sa : IkeSA) (msgID : UInt32) (eap : Bytes)
    (includeID natt : Bool) (k : UInt64) :
    (sendEAPResponse S w env remote sa msgID eap includeID natt).lookupSA k =
      w.lookupSA k := by
  unfold sendEAPResponse sendAuthNotify
  split
  · dsimp only
    split <;> exact lookupSA_respond _ _ _ _ _ _
  · simp_all

theorem pgwEvents_quiets (hpgw : ∀ pos, ∀ ev ∈ env.pgwAt pos, allowed.pgw ev) (pos : Nat) :
    Quiets S env allowed w (pgwEvents w env pos) := by
  have hev := hpgw pos
  unfold pgwEvents
  generalize env.pgwAt pos = evs at hev
  induction evs generalizing w with
  | nil => exact .refl
  | cons ev evs ih =>
    exact .head (.pgw w ev (hev ev (by simp))) (ih fun e he => hev e (by simp [he]))

theorem exchangeEAP_none (h : exchangeEAP S w env ref req = (w', none)) :
    Quiets S env allowed w w' ∧ ∀ k, w'.lookupSA k = w.lookupSA k := by
  unfold exchangeEAP at h
  split at h
  · grind
  split at h
  · grind
  · cases h; exact ⟨.single (.derSent _ _ _ _), fun _ => rfl⟩
  · cases h

theorem exchangeEAP_some (h : exchangeEAP S w env ref req = (w', some result)) :
    ∃ avps, result = Swm.eapResult S.equalFold req (req.sessionID.getD env.now) avps ∧
      Quiets S env allowed w w' ∧ (∀ k, w'.lookupSA k = w.lookupSA k) ∧
      .deaReceived ref (req.sessionID.getD env.now) req avps ∈ w'.trace := by
  unfold exchangeEAP at h
  split at h
  · cases h
  split at h
  · cases h
  · cases h
  cases h
  exact ⟨_, rfl, .head (.derSent _ _ _ _) (.single (.deaReceived _ _ _ _ _)),
    fun _ => rfl, by simp⟩

inductive Outcome (S : Server) (env : Env) (allowed : Triggers) (remote : UDPAddr)
    (msg : Bytes) (hdr : IKEHeader) (w0 w w' : World) : Prop
  | quiet (h : Quiets S env allowed w w')
  | major (w1 w2 : World) (h1 : Quiets S env allowed w w1)
      (hm : Major S env remote msg hdr w0 w1 w2) (h2 : Quiets S env allowed w2 w')

variable {msg : Bytes} {hdr : IKEHeader} {w0 w1 : World}

theorem Outcome.before (h : Quiets S env allowed w w1)
    (ho : Outcome S env allowed remote msg hdr w0 w1 w') :
    Outcome S env allowed remote msg hdr w0 w w' := by
  cases ho with
  | quiet h' => exact .quiet (h.trans h')
  | major a b h1 hm h2 => exact .major a b (h.trans h1) hm h2

/-! ### IKE_SA_INIT -/

theorem handleIKESAInit_outcome (hex : hdr.exchangeType = exchIKESAInit) :
    Outcome S env allowed remote msg hdr w w
      (handleIKESAInit S w env remote msg hdr natt) := by
  have hc : ∃ c, touchCookies S w env = { w with cookies := c } := by
    unfold touchCookies
    split
    · grind
    · exact ⟨_, rfl⟩
  have htouch : Quiets S env allowed w (touchCookies S w env) := by
    obtain ⟨c, h⟩ := hc
    exact h ▸ .single (.cookies w c)
  have hcase := handleIKESAInit_cases S w env remote msg hdr natt
  generalize handleIKESAInit S w env remote msg hdr natt = out at hcase
  cases hcase with
  | silent => exact .quiet .refl
  | answered => exact .quiet (.single (.sent _ _ _ _))
  | dropped => exact .quiet htouch
  | refused => exact .quiet (htouch.tail (.sent _ _ _ _))
  | accepted req sa ke prop propNum nonceI nonceR priv shared spiR resp hp =>
    exact .major _ _ htouch (.create _ natt req sa ke prop propNum nonceI nonceR priv shared
      spiR resp hex hp hc) (.single (.sent _ _ _ _))

/-! ### IKE_AUTH before the last round -/

theorem round1Config_eq (sa : IkeSA) (cp : Option Configuration) :
    ∃ wants ip, round1Config sa cp = { sa with cpWantsIP := wants, handoverIP := ip } := by
  have hstep (sa : IkeSA) (a : CfgAttribute) :
      ∃ wants ip, sa.noteCfgAttribute a = { sa with cpWantsIP := wants, handoverIP := ip } := by
    unfold IkeSA.noteCfgAttribute
    split
    · dsimp only
      split
      · exact ⟨_, _, rfl⟩
      · simp_all
    · grind
  have hid : ∃ wants ip, sa = { sa with cpWantsIP := wants, handoverIP := ip } :=
    ⟨sa.cpWantsIP, sa.handoverIP, rfl⟩
  unfold round1Config
  split
  · split
    · rename_i c _
      induction c.attributes generalizing sa with
      | nil => exact hid
      | cons a as ih =>
        obtain ⟨b1, ip1, h1⟩ := hstep sa a
        simp_all
    · exact hid
  · exact hid

theorem round1Config_keeps (sa : IkeSA) (cp : Option Configuration) :
    (round1Config sa cp).authCore = sa.authCore ∧
      (round1Config sa cp).eapRound = sa.eapRound := by
  obtain ⟨wants, ip, h⟩ := round1Config_eq sa cp
  rw [h]
  exact ⟨rfl, rfl⟩

theorem round1Child_eq {sa sa' : IkeSA} {offer : Option SecurityAssociation}
    (h : round1Child sa offer = some sa') :
    ∃ prop num spi, sa' = { sa with espProp := prop, espPropNum := num, peerESPSPI := spi } := by
  cases offer with
  | none =>
    cases h
    grind
  | some o =>
    obtain ⟨⟨prop, num, spi⟩, -, rfl⟩ := Option.map_eq_some_iff.mp h
    grind

theorem round1Reply_quiets (hl : w.lookupSA sa.spiI = some sa) :
    Quiets S env allowed w (round1Reply S w env remote sa hdr result natt) :=
  (sendEAPResponse_quiets sa _ _ _ _).tail (.touch _ sa _ (by simp [hl]) rfl)

theorem sessionSuccessRound1_benign (result : Swm.EAPResult) :
    Benign (sessionSuccessRound1 result) :=
  fun _ => by simp [sessionSuccessRound1]

theorem sessionSuccess_benign (result : Swm.EAPResult) : Benign (sessionSuccess result) :=
  fun _ => by simp [sessionSuccess]

section
variable (hex : hdr.exchangeType = exchIKEAuth) (hspi : hdr.initiatorSPI = sa.spiI)
include hex hspi

theorem round1Result_outcome (hl : w.lookupSA sa.spiI = some sa) (hs : sa.state = .auth)
    (hid : sa.sessionID = some sa.ownSession) (hround : sa.eapRound = 0)
    (hdea : .deaReceived sa.ref env.now req avps ∈ w.trace) :
    Outcome S env allowed remote msg hdr w0 w
      (round1Result S w env remote sa hdr (Swm.eapResult S.equalFold req env.now avps)
        natt) := by
  refine .major w _ .refl (.swmStart w sa req avps hex hspi hl hs hid hround hdea) ?_
  have hsid : (Swm.eapResult S.equalFold req env.now avps).sessionID = env.now := rfl
  simp only [round1Result, hsid]
  split
  · exact sendAuthNotify_quiets _ _ _ _
  · refine .head (.success _ (sa.swmStarted env.now) env.now req avps (by simp) hs
      (by rw [World.updateSession_trace]; exact hdea)) ?_
    refine .head (.session _ sa.sessionID
      (sessionSuccessRound1 (Swm.eapResult S.equalFold req env.now avps))
      (sessionSuccessRound1_benign _)) ?_
    exact round1Reply_quiets (by simp)
  · exact round1Reply_quiets (by simp)

theorem round1Relay_outcome (hl : w.lookupSA sa0.spiI = some sa0) (hc : sa.authCore = sa0.authCore)
    (hs : sa.state = .auth) (hround : sa.eapRound = 0) :
    Outcome S env allowed remote msg hdr w0 w (round1Relay S w env remote sa hdr pl natt) := by
  obtain ⟨hcfg, hcr⟩ := round1Config_keeps sa pl.cp
  unfold round1Relay
  generalize round1Config sa pl.cp = sa2 at hcfg hcr ⊢
  have hc2 := hcfg.trans hc
  have hs2 : sa2.state = .auth :=
    (IkeSA.eq_of_authCore hcfg IkeSA.state fun _ => rfl).trans hs
  have hs0 : sa0.state = .auth :=
    (IkeSA.eq_of_authCore hc2 IkeSA.state fun _ => rfl).symm.trans hs2
  have hi2 : sa2.spiI = sa.spiI := IkeSA.eq_of_authCore hcfg IkeSA.spiI fun _ => rfl
  have hw : sa2.withSession.authCore = sa0.withSession.authCore :=
    congrArg IkeSA.withSession hc2
  refine Outcome.before (.single (.openSession w sa0 sa2.withSession hl hs0 hw)) ?_
  dsimp only
  split
  · exact .quiet (sendAuthNotify_quiets _ _ _ _)
  split
  · rename_i w' hx
    exact .quiet ((exchangeEAP_none hx).1.trans (sendAuthNotify_quiets _ _ _ _))
  rename_i w' result hx
  obtain ⟨avps, rfl, hq, hsame, hdea⟩ := exchangeEAP_some hx
  refine Outcome.before hq (round1Result_outcome hex (hspi.trans hi2.symm) ?_ hs2 rfl
    (hcr.trans hround) hdea)
  simp_all

theorem handleAuthRound1_outcome (hl : w.lookupSA sa.spiI = some sa) (hs : sa.state = .auth)
    (hround : sa.eapRound = 0) :
    Outcome S env allowed remote msg hdr w0 w (handleAuthRound1 S w env remote sa hdr pl natt) := by
  unfold handleAuthRound1
  split
  · exact .quiet (sendAuthNotify_quiets _ _ _ _)
  split
  · exact .quiet (sendAuthNotify_quiets _ _ _ _)
  rename_i _ idi _ _ nai imsi _
  refine Outcome.before (.single (.auth _ sa
    (sa.identified idi nai imsi (round1APN S pl.idr)) hl hs rfl)) ?_
  dsimp only
  split
  · exact .quiet (sendAuthNotify_quiets _ _ _ _)
  rename_i sa2 hchild
  obtain ⟨prop, num, spi, rfl⟩ := round1Child_eq hchild
  exact round1Relay_outcome hex hspi
    (lookupSA_stored _ (sa.identified idi nai imsi (round1APN S pl.idr))) rfl hs hround

end

section
variable (hl : w.lookupSA sa.spiI = some sa) (hs : sa.state = .auth) (hround : sa.eapRound ≠ 0)
include hl hs hround

theorem eapRoundResult_quiets {sid : SWMSessionID}
    (hdea : .deaReceived sa.ref sid req avps ∈ w.trace) : Quiets S env allowed w
      (eapRoundResult S w env remote sa hdr (Swm.eapResult S.equalFold req sid avps)
        natt) := by
  unfold eapRoundResult
  have hone : min (sa.eapRound + 1) 1 = min sa.eapRound 1 := by omega
  have hnext : sa.nextRound.authCore = sa.authCore := by
    simp only [IkeSA.authCore, IkeSA.nextRound, hone]
    rfl
  refine .head (.auth _ sa sa.nextRound hl hs hnext) ?_
  split
  · exact sendAuthNotify_quiets _ _ _ _
  · refine .head (.success _ sa.nextRound sid req avps (by simp) hs hdea) ?_
    refine .head (.session _ sa.sessionID
      (sessionSuccess (Swm.eapResult S.equalFold req sid avps)) (sessionSuccess_benign _)) ?_
    exact sendEAPResponse_quiets _ _ _ _ _
  · exact sendEAPResponse_quiets _ _ _ _ _

theorem handleAuthEAP_quiets :
    Quiets S env allowed w (handleAuthEAP S w env remote sa hdr pl natt) := by
  unfold handleAuthEAP
  split
  · split
    · exact sendEAPResponse_quiets _ _ _ _ _
    · exact .refl
  split
  · rename_i w' hx
    exact (exchangeEAP_none hx).1.trans (sendAuthNotify_quiets _ _ _ _)
  rename_i w' result hx
  obtain ⟨avps, rfl, hq, hsame, hdea⟩ := exchangeEAP_some hx
  exact hq.trans (eapRoundResult_quiets (by simp [hsame, hl]) hs hround hdea)

end

/-! ### The last round of IKE_AUTH -/

theorem implicitDetach_quiets (hk : Keyed w) (h : implicitDetach S w env sa = some w') :
    Quiets S env allowed w w' ∧ w'.lookupSA sa.spiI = w.lookupSA sa.spiI ∧
      ∀ e ∈ w.trace, e ∈ w'.trace := by
  rcases implicitDetach_some h with rfl | ⟨k, old, hne, hold, rfl⟩
  · grind
  have hkey := hk _ _ hold
  obtain ⟨new, hn, -⟩ := trace_fullTeardown S.prims env.strOpen (w.storeSA old.closing)
    old.closing
  refine ⟨.single (.teardown w old (hkey ▸ hold)), ?_, ?_⟩
  · have hx : sa.spiI ≠ old.closing.spiI := fun e => hne (hkey ▸ e.symm)
    simp [hx]
  · simp_all

section Final
variable (hpgw : ∀ pos, ∀ ev ∈ env.pgwAt pos, allowed.pgw ev)
include hpgw

theorem finalRespond_quiets (sa : IkeSA) (natt : Bool) (r : CreateSessionResult) :
    Quiets S env allowed w (finalRespond S w env remote sa hdr natt r) := by
  unfold finalRespond
  refine (pgwEvents_quiets hpgw 4).trans ?_
  split
  · exact .refl
  · exact (respond_quiets _ _ _ _ _).tail (.completed _ _)

theorem finalDatapath_quiets (sa : IkeSA) (natt : Bool) (r : CreateSessionResult) :
    Quiets S env allowed w (finalDatapath S w env remote sa hdr natt r) := by
  unfold finalDatapath
  refine .head (.session w sa.sessionID (sessionESP sa) fun _ => by simp [sessionESP]) ?_
  dsimp only
  split
  · exact finalRespond_quiets hpgw _ _ _
  refine (pgwEvents_quiets hpgw 2).trans ?_
  split
  · exact .head (.gtpu _ _) (sendAuthNotify_quiets _ _ _ _)
  rename_i m d _
  refine .head (.gtpu _ m) (.head (.session _ sa.sessionID
    (fun s => { s with datapath := some d }) fun _ => ⟨rfl, rfl, rfl, rfl⟩) ?_)
  refine (pgwEvents_quiets hpgw 3).trans (.head (.session _ sa.sessionID sessionActive
    fun _ => by simp [sessionActive]) ?_)
  exact finalRespond_quiets hpgw _ _ _

variable (hex : hdr.exchangeType = exchIKEAuth) (h0 : w0.lookupSA hdr.initiatorSPI = some sa0)
  (hst0 : sa0.mu = false ∧ sa0.state = .auth ∧ sa0.eapRound ≠ 0)
  (hopen : openAuth S sa0.saKey msg = some (some pl))
  (hsa : sa = (sa0.heard remote env.now).noteMobike pl)
include hex h0 hst0 hopen hsa

section
variable (hl : w.lookupSA sa.spiI = some sa) (hv : .authVerified sa auth ∈ w.trace)
include hl hv

theorem finalInstall_outcome {r : CreateSessionResult} (hr : env.s2b = .ok r)
    (hauth : pl.auth = some auth) :
    Outcome S env allowed remote msg hdr w0 w
      (finalInstall S (pgwEvents (w.updateSession sa.sessionID (sessionS2b r)) env 1) env
        remote sa hdr natt r) := by
  unfold finalInstall
  split
  · rename_i hspi
    have hs : sa.state = .auth := by
      rw [hsa]
      exact (IkeSA.noteMobike_keeps IkeSA.state (fun _ _ => rfl) _ pl).trans hst0.2.1
    exact .major w _ .refl (.recordS2b w sa r hex hl hs hr hspi) (pgwEvents_quiets hpgw 1)
  rename_i spi hspi
  refine .major w _ .refl (.establish w sa0 sa pl auth r spi hex h0 hst0 hopen hsa hl hv hr
    hspi hauth) ?_
  have hmark : ((pgwEvents (w.updateSession sa.sessionID (sessionS2b r)) env 1).storeSA
      (sa.establish spi)).emit (.established (sa.establish spi).ref) =
      markEstablished w env sa r spi := rfl
  dsimp only
  rw [hmark]
  split
  · rename_i w' hi
    rw [hi]
    exact sendAuthNotify_quiets _ _ _ _
  · rename_i w' hi
    rw [hi]
    exact finalDatapath_quiets hpgw _ _ _
  · rename_i w' hi
    rw [hi]
    exact finalRespond_quiets hpgw _ _ _

theorem finalCreate_outcome (hauth : pl.auth = some auth) :
    Outcome S env allowed remote msg hdr w0 w (finalCreate S w env remote sa hdr natt) := by
  unfold finalCreate
  dsimp only
  split
  · exact .quiet (sendAuthNotify_quiets _ _ _ _)
  refine Outcome.before (.single (.s2bCreate w sa auth (finalRequest w env sa) hv)) ?_
  split
  · refine .quiet ?_
    split
    · exact .head (.pgwTable _ _) (sendAuthNotify_quiets _ _ _ _)
    · exact sendAuthNotify_quiets _ _ _ _
  rename_i r hr
  have ha := pgwEvents_aside (pgwCreate (w.emit (.s2bCreate sa.ref
    (finalRequest w env sa))) r.localControlTEID r.ebi) env 0
  refine Outcome.before (.head (.pgwTable _ (w.pgw.insert r.localControlTEID r.ebi))
    (pgwEvents_quiets hpgw 0)) ?_
  have hv' := ha.mem_trace (List.mem_cons_of_mem _ hv)
  exact finalInstall_outcome hpgw hex h0 hst0 hopen hsa ((ha.lookupSA _).trans hl) hv' hr
    hauth

end

theorem handleAuthFinal_outcome (hs : sa.state = .auth) (hk : Keyed w)
    (hl : w.lookupSA sa.spiI = some sa) : Outcome S env allowed remote msg hdr w0 w
      (handleAuthFinal S w env remote sa hdr pl natt) := by
  have hcase := handleAuthFinal_cases S w env remote sa hdr pl natt
  generalize handleAuthFinal S w env remote sa hdr pl natt = out at hcase
  cases hcase with
  | refused => exact .quiet (sendAuthNotify_quiets _ _ _ _)
  | stuck auth hauth hlen heq hd =>
    refine Outcome.before (.single (.verified w sa auth hl hs hlen heq)) ?_
    exact .quiet (.single (.touch _ sa _ hl rfl))
  | verified auth w1 hauth hlen heq hd =>
    refine Outcome.before (.single (.verified w sa auth hl hs hlen heq)) ?_
    have hk' : Keyed (w.emit (.authVerified sa auth)) := hk
    obtain ⟨hq, hsame, hmono⟩ := implicitDetach_quiets hk' hd
    have hv : .authVerified sa auth ∈ w1.trace := hmono _ (by simp)
    exact (finalCreate_outcome hpgw hex h0 hst0 hopen hsa (hsame.trans hl) hv hauth).before hq

end Final

theorem handleIKEAuthOn_outcome (hpgw : ∀ pos, ∀ ev ∈ env.pgwAt pos, allowed.pgw ev)
    (hex : hdr.exchangeType = exchIKEAuth) (hk : Keyed w) (hl : w.lookupSA hdr.initiatorSPI = some sa) : Outcome S env allowed remote msg hdr w w
      (handleIKEAuthOn S w env remote msg hdr natt sa) := by
  have hkey : sa.spiI = hdr.initiatorSPI := hk _ _ hl
  unfold handleIKEAuthOn
  split
  · exact .quiet .refl
  rename_i hst
  have hst0 : sa.mu = false ∧ sa.state = .auth := by simpa using hst
  have hheard : Quiets S env allowed w (w.storeSA (sa.heard remote env.now)) :=
    .single (.auth w sa _ (hkey ▸ hl) hst0.2 rfl)
  refine Outcome.before hheard ?_
  dsimp only
  split
  · exact .quiet .refl
  · exact .quiet (sendAuthNotify_quiets _ _ _ _)
  rename_i pl hopen
  have hmob : ((sa.heard remote env.now).noteMobike pl).authCore =
      (sa.heard remote env.now).authCore :=
    IkeSA.noteMobike_keeps IkeSA.authCore (fun _ _ => rfl) _ pl
  have hspi : ((sa.heard remote env.now).noteMobike pl).spiI = sa.spiI :=
    IkeSA.eq_of_authCore hmob IkeSA.spiI fun _ => rfl
  have hs : ((sa.heard remote env.now).noteMobike pl).state = .auth :=
    (IkeSA.eq_of_authCore hmob IkeSA.state fun _ => rfl).trans hst0.2
  have hk' : Keyed ((w.storeSA (sa.heard remote env.now)).storeSA
      ((sa.heard remote env.now).noteMobike pl)) := (hk.storeSA _).storeSA _
  refine Outcome.before (.single (.auth _ (sa.heard remote env.now) _
    (lookupSA_stored _ _) hst0.2 hmob)) ?_
  unfold authDispatch
  split
  · rename_i hround
    exact handleAuthRound1_outcome hex (hkey.symm.trans hspi.symm) (lookupSA_stored _ _)
      hs hround
  rename_i hround
  have hr0 : sa.eapRound ≠ 0 := by
    rwa [IkeSA.noteMobike_keeps IkeSA.eapRound fun _ _ => rfl] at hround
  split
  · exact handleAuthFinal_outcome hpgw hex hl ⟨hst0.1, hst0.2, hr0⟩ hopen rfl hs hk'
      (lookupSA_stored _ _)
  · exact .quiet (handleAuthEAP_quiets (lookupSA_stored _ _) hs hround)

/-! ### CREATE_CHILD_SA -/

section Child
variable (hex : hdr.exchangeType = exchCreateChildSA)
  (h0 : w0.lookupSA hdr.initiatorSPI = some sa0)
  (hst0 : sa0.mu = false ∧ sa0.state = .established) (hsa : sa = sa0.refreshed env.now)
  (hw : w = w0.storeSA sa)
include hex h0 hst0 hsa hw

theorem childRekey_outcome
    (hopen : openChild S sa0.saKey msg = some (.childSA offer nonceI ke)) :
    Outcome S env allowed remote msg hdr w0 w
      (handleChildSARekey S w env remote sa hdr offer nonceI ke) := by
  unfold handleChildSARekey
  split
  · exact .quiet (respond_quiets _ _ _ _ _)
  rename_i prop propNum peerSPI hsel
  split
  · exact .quiet (respond_quiets _ _ _ _ _)
  rename_i hnr
  split
  · rename_i nonceR spi hn hspi
    unfold childRekeyInstall
    dsimp only
    split
    · exact .quiet (respond_quiets _ _ _ _ _)
    · rename_i p k hadd
      obtain ⟨-, -, -, hfail⟩ := addPendingStates_some hadd
      exact .quiet (.head (.kernel w k (Xfrm.addChildSAStates_fail hfail))
        (respond_quiets _ _ _ _ _))
    · rename_i p k hadd
      refine .major w _ .refl (.childRekey w sa0 sa offer nonceI nonceR ke prop propNum
        peerSPI spi _ p k hex h0 hst0 hsa hopen hsel rfl hnr hw ⟨hn, hspi⟩ hadd) ?_
      exact respond_quiets _ _ _ _ _
  · exact .quiet .refl

theorem ikeRekey_outcome (hopen : openChild S sa0.saKey msg = some (.ikeSA offer nonceI ke)) :
    Outcome S env allowed remote msg hdr w0 w
      (handleIKESARekey S w env remote sa hdr offer nonceI ke) := by
  have hcase := handleIKESARekey_cases S w env remote sa hdr offer nonceI ke
  generalize handleIKESARekey S w env remote sa hdr offer nonceI ke = out at hcase
  cases hcase with
  | dropped => exact .quiet .refl
  | refused => exact .quiet (respond_quiets _ _ _ _ _)
  | accepted prop propNum nonceR priv shared newSPII newSPIR out hp =>
    have hl : w.lookupSA sa.spiI = some sa := by rw [hw]; exact lookupSA_stored _ _
    exact .major _ _ (.single (.sent w remote sa.natT out)) (.ikeRekey _ sa0 sa offer ke prop
      propNum nonceI nonceR priv shared newSPII newSPIR hex h0 hst0 hsa hopen hp
      ⟨_, by rw [hw]⟩ hl) .refl

end Child

theorem handleCreateChildSAOn_outcome (hex : hdr.exchangeType = exchCreateChildSA)
    (hk : Keyed w) (hl : w.lookupSA hdr.initiatorSPI = some sa) :
    Outcome S env allowed remote msg hdr w w
      (handleCreateChildSAOn S w env remote msg hdr sa) := by
  have hkey : sa.spiI = hdr.initiatorSPI := hk _ _ hl
  unfold handleCreateChildSAOn
  split
  · exact .quiet .refl
  rename_i hst
  have hst0 : sa.mu = false ∧ sa.state = .established := by simpa using hst
  refine Outcome.before (.single (.touch w sa (sa.refreshed env.now) (hkey ▸ hl) rfl)) ?_
  dsimp only
  split
  · exact .quiet .refl
  · exact .quiet (respond_quiets _ _ _ _ _)
  · rename_i hopen
    exact childRekey_outcome hex hl hst0 rfl rfl hopen
  · rename_i hopen
    exact ikeRekey_outcome hex hl hst0 rfl rfl hopen

/-! ### INFORMATIONAL -/

section Mobike
variable {pl : InfoPayloads} (hex : hdr.exchangeType = exchInformational)
  (h0 : w0.lookupSA hdr.initiatorSPI = some sa0)
  (hst0 : sa0.mu = false ∧ hdr.responseBit = false ∧ sa0.state ≠ .deleting)
  (hsa : sa = sa0.seen env.now) (hopen : openInfo S sa0.saKey msg = some pl)
  (hup : pl.hasUpdateSA = true ∧ sa.mobikeEnabled = true) (hw : w = w0.storeSA sa)
include hex h0 hst0 hsa hopen hup hw

theorem mobikeMigrate_outcome {prop : ChildProposal} {localIP : IP}
    (hcookie : sa.cookie2 = some pl.cookie2)
    (hchild : sa.espProp = some prop ∧ sa.localIP = some localIP) :
    Outcome S env allowed remote msg hdr w0 w
      (mobikeMigrate S w env remote sa hdr.messageID prop localIP) := by
  unfold mobikeMigrate
  split
  · rename_i w' hmig
    refine .major w w' .refl ?_ (respond_quiets _ _ _ _ _)
    exact .migrate w w' sa0 sa pl prop localIP false hex h0 hst0 hsa hopen hup hcookie hchild
      hw hmig
  rename_i w' hmig
  refine .major w (w'.storeSA (sa.migrated remote)) .refl ?_ ?_
  · exact .migrate w w' sa0 sa pl prop localIP true hex h0 hst0 hsa hopen hup hcookie
      hchild hw hmig
  · exact .head (.session _ sa.sessionID (fun s => { s with outerIP := some remote })
      fun _ => ⟨rfl, rfl, rfl, rfl⟩) (respond_quiets _ _ _ _ _)

theorem mobikeChallenge_outcome (hcookie : pl.cookie2 = [] ∨ sa.cookie2 = none)
    (hchild : sa.espProp.isSome = true ∧ sa.localIP.isSome = true) :
    Outcome S env allowed remote msg hdr w0 w
      (mobikeChallenge w env remote sa hdr.messageID) := by
  unfold mobikeChallenge
  split
  · exact .quiet (respond_quiets _ _ _ _ _)
  rename_i c2 hdraw
  refine .major w _ .refl ?_ (respond_quiets _ _ _ _ _)
  exact .challenge w sa0 sa pl c2 hex h0 hst0 hsa hopen hup hcookie hchild hw hdraw

theorem handleUpdateSA_outcome : Outcome S env allowed remote msg hdr w0 w
      (handleUpdateSA S w env remote sa hdr.messageID pl.cookie2) := by
  unfold handleUpdateSA
  split
  · rename_i prop localIP hprop hip
    have hchild : sa.espProp.isSome = true ∧ sa.localIP.isSome = true := by simp [hprop, hip]
    split
    · rename_i expected hexp
      split
      · rename_i hempty
        exact mobikeChallenge_outcome hex h0 hst0 hsa hopen hup hw (.inl hempty) hchild
      split
      · exact .quiet (respond_quiets _ _ _ _ _)
      rename_i heq
      have hc : pl.cookie2 = expected := by
        rw [← Bytes.constEqual_iff]
        simpa using heq
      exact mobikeMigrate_outcome hex h0 hst0 hsa hopen hup hw (by rw [hexp, hc])
        ⟨hprop, hip⟩
    · rename_i hnone
      exact mobikeChallenge_outcome hex h0 hst0 hsa hopen hup hw (.inr hnone) hchild
  · exact .quiet (respond_quiets _ _ _ _ _)

end Mobike

theorem deleteESP_lookup (P : Primitives) (spi : UInt32)
    (hl : w.lookupSA sa.spiI = some sa) :
    (deleteESP P w sa spi).1.lookupSA (deleteESP P w sa spi).2.spiI =
      some (deleteESP P w sa spi).2 := by
  unfold deleteESP
  split
  · split
    · simp
    · obtain ⟨k, h⟩ := removeXFRMChildSA_eq P w sa
      simpa [h] using hl
  · split
    · simp
    · exact hl

theorem deleteESPs_quiets (spis : List UInt32) (hl : w.lookupSA sa.spiI = some sa) :
    Quiets S env allowed w (deleteESPs S.prims w sa spis) := by
  induction spis generalizing w sa with
  | nil => exact .refl
  | cons spi rest ih => exact .head (.deleteESP w sa spi hl) (ih (deleteESP_lookup _ spi hl))

theorem seen_core (sa : IkeSA) (now : Time) : (sa.seen now).core = sa.core := by
  unfold IkeSA.seen
  split <;> rfl

theorem seen_cookie2 (sa : IkeSA) (now : Time) : (sa.seen now).cookie2 = sa.cookie2 := by
  simp only [IkeSA.seen]
  split <;> rfl

theorem seen_mobikeEnabled (sa : IkeSA) (now : Time) :
    (sa.seen now).mobikeEnabled = sa.mobikeEnabled :=
  IkeSA.eq_of_core (seen_core sa now) IkeSA.mobikeEnabled fun _ => rfl

theorem handleInformationalOn_outcome (hex : hdr.exchangeType = exchInformational)
    (hk : Keyed w) (hl : w.lookupSA hdr.initiatorSPI = some sa) :
    Outcome S env allowed remote msg hdr w w
      (handleInformationalOn S w env remote msg hdr sa) := by
  have hkey : sa.spiI = hdr.initiatorSPI := hk _ _ hl
  have hseen : Quiet S env allowed w (w.storeSA (sa.seen env.now)) :=
    .touch w sa _ (hkey ▸ hl) (seen_core sa env.now)
  unfold handleInformationalOn
  split
  · exact .quiet .refl
  rename_i hmu
  split
  · split
    · exact .quiet (.single hseen)
    · exact .quiet .refl
  rename_i hresp
  split
  · exact .quiet .refl
  rename_i hdel
  refine Outcome.before (.single hseen) ?_
  have hst0 : sa.mu = false ∧ hdr.responseBit = false ∧ sa.state ≠ .deleting :=
    ⟨by simpa using hmu, by simpa using hresp, hdel⟩
  have hkeyed : (sa.seen env.now).saKey = sa.saKey :=
    IkeSA.eq_of_core (seen_core sa env.now) IkeSA.saKey fun _ => rfl
  dsimp only
  rw [hkeyed]
  split
  · exact .quiet .refl
  rename_i pl hopen
  unfold informRequest
  split
  · rename_i hup
    exact handleUpdateSA_outcome hex hl hst0 rfl hopen (by simpa using hup) rfl
  have hl' : (respondEmpty (w.storeSA (sa.seen env.now)) env remote (sa.seen env.now)
      hdr.messageID).lookupSA (sa.seen env.now).spiI = some (sa.seen env.now) :=
    (lookupSA_respond _ _ _ _ _ _).trans (lookupSA_stored _ _)
  have hq : Quiets S env allowed (w.storeSA (sa.seen env.now))
      (respondEmpty (w.storeSA (sa.seen env.now)) env remote (sa.seen env.now)
        hdr.messageID) := respond_quiets _ _ _ _ _
  refine .quiet (hq.trans ?_)
  split
  · exact .single (.teardown _ (sa.seen env.now) hl')
  · exact deleteESPs_quiets _ hl'

end Handlers

section Steps
variable {S : Server} {w : World} {i : Input}

theorem dpdCheck_quiets (hk : Keyed w) (spiI : UInt64)
    : Quiets S env allowed w (dpdCheck S w env spiI) := by
  unfold dpdCheck
  split
  · exact .refl
  rename_i sa hl
  have hl' : w.lookupSA sa.spiI = some sa := by rw [hk _ _ hl]; exact hl
  split
  · exact .refl
  split
  · split
    · unfold sendDPDProbe
      split
      · exact .single (.touch w sa _ hl' rfl)
      · exact .head (.touch w sa (sa.probed env.now) hl' rfl) (.single (.sent _ _ _ _))
    · exact .refl
  · split
    · exact .single (.teardown w sa hl')
    · exact .refl

theorem halfOpenCheck_quiets (hk : Keyed w) {spiI : UInt64} (hx : allowed.expiry spiI) :
    Quiets S env allowed w (halfOpenCheck S w env spiI) := by
  unfold halfOpenCheck
  split
  · exact .refl
  rename_i sa hl
  have hkey := hk _ _ hl
  subst hkey
  split
  · rename_i hst
    exact .single (.expire w sa hl hst.2.1 hx hst.2.2)
  · exact .refl

theorem step_shape (hk : Keyed w) (i : Input) : StepShape S i w (step S w i) := by
  have hpgw : ∀ pos, ∀ ev ∈ i.env.pgwAt pos, i.handles ev := fun pos ev h => .inr ⟨pos, h⟩
  unfold step
  split
  · rename_i remote pkt natt hact
    unfold handlePacket
    split
    · exact .quiet .refl
    rename_i msg hdr hparse
    have hshape : Outcome S i.env i.triggers remote msg hdr w w
        (handleMessage S w i.env remote msg hdr natt) := by
      unfold handleMessage
      split
      · rename_i hex
        exact handleIKESAInit_outcome hex
      split
      · rename_i hex
        unfold handleIKEAuth
        split
        · exact .quiet .refl
        split
        · exact .quiet .refl
        · rename_i hl
          exact handleIKEAuthOn_outcome hpgw hex hk hl
      · split
        · rename_i hex
          unfold handleCreateChildSA
          split
          · exact .quiet .refl
          · rename_i hl
            exact handleCreateChildSAOn_outcome hex hk hl
        split
        · rename_i hex
          unfold handleInformational
          split
          · exact .quiet .refl
          split
          · exact .quiet .refl
          · rename_i hl
            exact handleInformationalOn_outcome hex hk hl
        · exact .quiet .refl
    cases hshape with
    | quiet h => exact .quiet h
    | major w1 w2 h1 hm h2 =>
      exact .major remote pkt natt msg hdr w1 w2 hact hparse h1 hm h2
  · exact .quiet (dpdCheck_quiets hk _)
  · rename_i spiI hact
    exact .quiet (halfOpenCheck_quiets hk hact)
  · rename_i ev hact
    exact .quiet (.single (.pgw w ev (.inl hact)))

end Steps
end Epdg
