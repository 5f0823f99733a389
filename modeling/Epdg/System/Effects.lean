import Epdg.System.Step

/-!
What one step of the ePDG can do, as a sequence of small effects.

`Quiet` effects may occur any number of times in a step. A `Major` effect creates an
SA, draws an SPI, an SWm session id, a nonce for keys or a COOKIE2, or moves a CHILD SA, and
a step has at most one. Every invariant of runs is proved on these effects; that the handlers
decompose into them is shown once, in `Epdg.System.Shape`.
-/
namespace Epdg
open Ikev2

namespace Ikev2.IkeSA
variable {sa sa' : IkeSA}

def core (sa : IkeSA) : IkeSA :=
  { sa with
    mu := false, lastSeen := 0, ourMsgID := 0, dpdMsgID := 0, dpdSentAt := none
    eapChallengeMsgID := 0, eapChallengePayload := [] }

def authCore (sa : IkeSA) : IkeSA :=
  { sa.core with
    remoteAddr := ⟨IP.ipv4zero, 0⟩, mobikeEnabled := false, idiAuthBytes := []
    imsi := [], nai := [], apn := [], espProp := none, espPropNum := 0, peerESPSPI := 0
    cpWantsIP := false, handoverIP := none, eapRound := min sa.eapRound 1 }

theorem eq_of_core {α : Type} (h : sa'.core = sa.core) (f : IkeSA → α)
    (hf : ∀ s : IkeSA, f s.core = f s) : f sa' = f sa := by
  rw [← hf sa', h, hf]

theorem eq_of_authCore {α : Type} (h : sa'.authCore = sa.authCore) (f : IkeSA → α)
    (hf : ∀ s : IkeSA, f s.authCore = f s) : f sa' = f sa := by
  rw [← hf sa', h, hf]

end Ikev2.IkeSA

def Benign (f : Session.Session → Session.Session) : Prop :=
  ∀ s, (f s).id = s.id ∧ (f s).s2b = s.s2b ∧ (f s).swmSessionID = s.swmSessionID ∧
    (f s).handoverComplete = s.handoverComplete

structure Triggers where
  pgw : PgwEvent → Prop
  expiry : UInt64 → Prop

inductive Quiet (S : Server) (env : Env) (allowed : Triggers) :
    World → World → Prop
  | sent (w : World) (dst : UDPAddr) (natt : Bool) (msg : Outgoing) :
      Quiet S env allowed w (w.emit (.sent dst natt msg))
  | derSent (w : World) (ref : Nat) (sid : SWMSessionID) (req : Swm.EAPRequest) :
      Quiet S env allowed w (w.emit (.derSent ref sid req))
  | deaReceived (w : World) (ref : Nat) (sid : SWMSessionID) (req : Swm.EAPRequest)
      (avps : List Diameter.AVP) :
      Quiet S env allowed w (w.emit (.deaReceived ref sid req avps))
  | completed (w : World) (ref : Nat) : Quiet S env allowed w (w.emit (.authCompleted ref))
  | cookies (w : World) (c : CookieState) : Quiet S env allowed w { w with cookies := c }
  | pgwTable (w : World) (t : Table UInt32 UInt8) : Quiet S env allowed w { w with pgw := t }
  | gtpu (w : World) (m : Gtpu.Manager) : Quiet S env allowed w (w.setGtpu m)
  | kernel (w : World) (k : Xfrm.Kernel) (h : w.xfrm.SameEntries k) :
      Quiet S env allowed w (w.setKernel k)
  | session (w : World) (id : Option Session.ID) (f : Session.Session → Session.Session)
      (hf : Benign f) : Quiet S env allowed w (w.updateSession id f)
  | touch (w : World) (sa sa' : IkeSA) (h : w.lookupSA sa.spiI = some sa)
      (hc : sa'.core = sa.core) : Quiet S env allowed w (w.storeSA sa')
  | auth (w : World) (sa sa' : IkeSA) (h : w.lookupSA sa.spiI = some sa)
      (hs : sa.state = .auth) (hc : sa'.authCore = sa.authCore) :
      Quiet S env allowed w (w.storeSA sa')
  | openSession (w : World) (sa sa' : IkeSA) (h : w.lookupSA sa.spiI = some sa)
      (hs : sa.state = .auth)
      (hc : sa'.authCore = sa.withSession.authCore) :
      Quiet S env allowed w ((round1Session w sa').storeSA sa')
  | success (w : World) (sa : IkeSA) (sid : SWMSessionID) (req : Swm.EAPRequest)
      (avps : List Diameter.AVP) (h : w.lookupSA sa.spiI = some sa) (hs : sa.state = .auth)
      (hdea : .deaReceived sa.ref sid req avps ∈ w.trace) :
      Quiet S env allowed w
        (w.storeSA (sa.eapSuccess (Swm.eapResult S.equalFold req sid avps)))
  | verified (w : World) (sa : IkeSA) (auth : Bytes) (h : w.lookupSA sa.spiI = some sa)
      (hs : sa.state = .auth) (hlen : sa.msk.length = 64)
      (heq : expectedAuth S.prims sa = auth) :
      Quiet S env allowed w (w.emit (.authVerified sa auth))
  | s2bCreate (w : World) (sa : IkeSA) (auth : Bytes) (req : CreateSessionRequest)
      (hv : .authVerified sa auth ∈ w.trace) :
      Quiet S env allowed w (w.emit (.s2bCreate sa.ref req))
  | teardown (w : World) (sa : IkeSA) (h : w.lookupSA sa.spiI = some sa) :
      Quiet S env allowed w
        (fullTeardown S.prims env.strOpen (w.storeSA sa.closing) sa.closing)
  | expire (w : World) (sa : IkeSA) (h : w.lookupSA sa.spiI = some sa)
      (hs : sa.state = .auth) (hx : allowed.expiry sa.spiI)
      (hold : env.now - sa.createdAt > S.cfg.halfOpenTimeout) :
      Quiet S env allowed w (w.deleteSA sa.spiI)
  | pgw (w : World) (ev : PgwEvent) (hev : allowed.pgw ev) :
      Quiet S env allowed w (handlePGW w env ev)
  | deleteESP (w : World) (sa : IkeSA) (spi : UInt32) (h : w.lookupSA sa.spiI = some sa) :
      Quiet S env allowed w (deleteESP S.prims w sa spi).1

abbrev Quiets (S : Server) (env : Env) (allowed : Triggers) : World → World → Prop :=
  Relation.ReflTransGen (Quiet S env allowed)

def markEstablished (w : World) (env : Env) (sa : IkeSA) (r : CreateSessionResult)
    (spi : UInt32) : World :=
  ((pgwEvents (w.updateSession sa.sessionID (sessionS2b r)) env 1).storeSA
    (sa.establish spi)).emit (.established sa.ref)

inductive Major (S : Server) (env : Env) (remote : UDPAddr) (msg : Bytes) (hdr : IKEHeader)
    (w0 : World) : World → World → Prop
  | create (w : World) (natt : Bool) (req : InitRequest) (sa : SecurityAssociation)
      (ke : KeyExchange) (prop : NegotiatedProposal) (propNum : UInt8)
      (nonceI nonceR priv shared : Bytes) (spiR : UInt64) (resp : Bytes)
      (hex : hdr.exchangeType = exchIKESAInit)
      (hp : InitPasses S w0 env remote msg hdr req sa ke prop propNum nonceI nonceR priv
        shared spiR resp)
      (hw : ∃ c, w = { w0 with cookies := c }) :
      Major S env remote msg hdr w0 w
        (w.storeSA (initSA S w env remote msg hdr natt req prop nonceI nonceR shared spiR
          resp)).allocRef
  | swmStart (w : World) (sa : IkeSA) (req : Swm.EAPRequest) (avps : List Diameter.AVP)
      (hex : hdr.exchangeType = exchIKEAuth) (hspi : hdr.initiatorSPI = sa.spiI)
      (h : w.lookupSA sa.spiI = some sa) (hs : sa.state = .auth)
      (hid : sa.sessionID = some sa.ownSession) (hround : sa.eapRound = 0)
      (hdea : .deaReceived sa.ref env.now req avps ∈ w.trace) :
      Major S env remote msg hdr w0 w
        ((w.storeSA (sa.swmStarted env.now)).updateSession sa.sessionID
          fun s => { s with swmSessionID := some env.now })
  | recordS2b (w : World) (sa : IkeSA) (r : CreateSessionResult)
      (hex : hdr.exchangeType = exchIKEAuth) (h : w.lookupSA sa.spiI = some sa)
      (hs : sa.state = .auth) (hr : env.s2b = .ok r) (hspi : env.espSPI = none) :
      Major S env remote msg hdr w0 w (w.updateSession sa.sessionID (sessionS2b r))
  | establish (w : World) (sa0 sa : IkeSA) (pl : AuthPayloads) (auth : Bytes)
      (r : CreateSessionResult) (spi : UInt32)
      (hex : hdr.exchangeType = exchIKEAuth) (h0 : w0.lookupSA hdr.initiatorSPI = some sa0)
      (hst0 : sa0.mu = false ∧ sa0.state = .auth ∧ sa0.eapRound ≠ 0)
      (hopen : openAuth S sa0.saKey msg = some (some pl))
      (hsa : sa = (sa0.heard remote env.now).noteMobike pl)
      (h : w.lookupSA sa.spiI = some sa) (hv : .authVerified sa auth ∈ w.trace)
      (hr : env.s2b = .ok r) (hspi : env.espSPI = some spi) (hauth : pl.auth = some auth) :
      Major S env remote msg hdr w0 w
        (installFinal S.prims (markEstablished w env sa r spi) env remote
          (sa.establish spi) r).1
  | childRekey (w : World) (sa0 sa : IkeSA) (offer : SecurityAssociation)
      (nonceI nonceR : Bytes) (ke : Option KeyExchange) (prop : ChildProposal)
      (propNum : UInt8) (peerSPI spi : UInt32) (dh : ChildDH) (p : Xfrm.ChildSAParams)
      (k : Xfrm.Kernel)
      (hex : hdr.exchangeType = exchCreateChildSA)
      (h0 : w0.lookupSA hdr.initiatorSPI = some sa0)
      (hst0 : sa0.mu = false ∧ sa0.state = .established)
      (hsa : sa = sa0.refreshed env.now)
      (hopen : openChild S sa0.saKey msg = some (.childSA offer nonceI ke))
      (hsel : selectAndExtractESP offer = some (prop, propNum, peerSPI))
      (hdh : childDH S env prop ke = dh) (hnr : ∀ t d, dh ≠ .reject t d)
      (hw : w = w0.storeSA sa)
      (hdraw : env.nonceR = some nonceR ∧ env.espSPI = some spi)
      (hadd : addPendingStates w env sa prop
        (childRekeyKeys S.prims sa prop dh nonceI nonceR) remote peerSPI spi =
          some (p, k, true)) :
      Major S env remote msg hdr w0 w
        (((w.setKernel k).emit (.childRekeyed sa.ref dh.isPFS p)).storeSA
          (sa.setPending prop propNum peerSPI spi nonceI nonceR))
  | ikeRekey (w : World) (sa0 sa : IkeSA) (offer : SecurityAssociation)
      (ke : Option KeyExchange) (prop : NegotiatedProposal) (propNum : UInt8)
      (nonceI nonceR priv shared : Bytes) (newSPII newSPIR : UInt64)
      (hex : hdr.exchangeType = exchCreateChildSA)
      (h0 : w0.lookupSA hdr.initiatorSPI = some sa0)
      (hst0 : sa0.mu = false ∧ sa0.state = .established)
      (hsa : sa = sa0.refreshed env.now)
      (hopen : openChild S sa0.saKey msg = some (.ikeSA offer nonceI ke))
      (hp : IkeRekeyPasses S env offer ke prop propNum nonceR priv shared newSPII newSPIR)
      (hw : ∃ e, w = (w0.storeSA sa).emit e) (h : w.lookupSA sa.spiI = some sa) :
      Major S env remote msg hdr w0 w
        (ikeRekeyStore w sa
          (rekeyedSA S.prims w env sa prop shared nonceI nonceR newSPII newSPIR))
  | challenge (w : World) (sa0 sa : IkeSA) (pl : InfoPayloads) (c2 : Bytes)
      (hex : hdr.exchangeType = exchInformational)
      (h0 : w0.lookupSA hdr.initiatorSPI = some sa0)
      (hst0 : sa0.mu = false ∧ hdr.responseBit = false ∧ sa0.state ≠ .deleting)
      (hsa : sa = sa0.seen env.now)
      (hopen : openInfo S sa0.saKey msg = some pl)
      (hup : pl.hasUpdateSA = true ∧ sa.mobikeEnabled = true)
      (hcookie : pl.cookie2 = [] ∨ sa.cookie2 = none)
      (hchild : sa.espProp.isSome = true ∧ sa.localIP.isSome = true)
      (hw : w = w0.storeSA sa) (hdraw : env.cookie2 = some c2) :
      Major S env remote msg hdr w0 w (w.storeSA (sa.challenged c2))
  | migrate (w w' : World) (sa0 sa : IkeSA) (pl : InfoPayloads) (prop : ChildProposal)
      (localIP : IP) (ok : Bool)
      (hex : hdr.exchangeType = exchInformational)
      (h0 : w0.lookupSA hdr.initiatorSPI = some sa0)
      (hst0 : sa0.mu = false ∧ hdr.responseBit = false ∧ sa0.state ≠ .deleting)
      (hsa : sa = sa0.seen env.now)
      (hopen : openInfo S sa0.saKey msg = some pl)
      (hup : pl.hasUpdateSA = true ∧ sa.mobikeEnabled = true)
      (hcookie : sa.cookie2 = some pl.cookie2)
      (hchild : sa.espProp = some prop ∧ sa.localIP = some localIP)
      (hw : w = w0.storeSA sa)
      (hmig : migrateMobikeXFRM S.prims w env sa prop localIP remote = (w', ok)) :
      Major S env remote msg hdr w0 w
        (if ok then w'.storeSA (sa.migrated remote) else w')

def Input.handles (i : Input) (ev : PgwEvent) : Prop :=
  i.act = .pgw ev ∨ ∃ pos, ev ∈ i.env.pgwAt pos

def Input.triggers (i : Input) : Triggers := ⟨i.handles, fun spiI => i.act = .halfOpen spiI⟩

inductive StepShape (S : Server) (i : Input) (w w' : World) : Prop
  | quiet (h : Quiets S i.env i.triggers w w')
  | major (remote : UDPAddr) (pkt : Bytes) (natt : Bool) (msg : Bytes) (hdr : IKEHeader)
      (w1 w2 : World) (hact : i.act = .packet remote pkt natt)
      (hparse : parsePacket S natt pkt = some (msg, hdr))
      (h1 : Quiets S i.env i.triggers w w1)
      (hm : Major S i.env remote msg hdr w w1 w2)
      (h2 : Quiets S i.env i.triggers w2 w')

end Epdg
