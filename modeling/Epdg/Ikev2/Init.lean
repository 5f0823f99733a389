import Epdg.Ikev2.Payloads
import Epdg.System.World

/-!
The IKE_SA_INIT exchange (`internal/ikev2/init.go`) with its cookies (`cookie.go`).

The handler is cut at its three phases: the retransmission shortcut, the checks
that need no keys, and the part that draws SPI, nonce and DH key and stores the SA.
-/
namespace Epdg

namespace CookieState

def lifetime : Nat := 5 * 60 * Config.second

def rotate (c : CookieState) (now : Ikev2.Time) (fresh : Option Bytes) : CookieState :=
  if now - c.rotatedAt > lifetime then
    match fresh with
    | some secret => ⟨secret, c.secret, now⟩
    | none => { c with prevSecret := c.secret }
  else c

def hmac (P : Ikev2.Primitives) (secret : Bytes) (spiI : UInt64) (remote : UDPAddr) : Bytes :=
  P.hmac .sha256 secret
    (Bytes.putUint64 spiI ++ remote.ip.bytes ++ Bytes.putUint16 remote.port)

def verify (P : Ikev2.Primitives) (c : CookieState) (received : Bytes) (spiI : UInt64)
    (remote : UDPAddr) : Bool :=
  received ≠ [] &&
    (received = hmac P c.secret spiI remote || received = hmac P c.prevSecret spiI remote)

end CookieState

namespace Ikev2
open Bytes

structure InitRequest where
  sa : Option SecurityAssociation := none
  ke : Option KeyExchange := none
  nonce : Option Bytes := none
  notifies : List Notification := []
  deriving DecidableEq, Repr

def collectInit (payloads : List InitPayload) : InitRequest :=
  payloads.foldl
    (fun r p =>
      match p with
      | .sa s => { r with sa := some s }
      | .ke k => { r with ke := some k }
      | .nonce d => { r with nonce := some d }
      | .notify n => { r with notifies := r.notifies ++ [n] }
      | .other => r)
    {}

def natHash (P : Primitives) (spiI spiR : UInt64) (addr : UDPAddr) : Bytes :=
  P.sha1 (putUint64 spiI ++ putUint64 spiR ++ addr.ip.bytes ++ putUint16 addr.port)

def detectNAT (P : Primitives) (notifies : List Notification) (remote : UDPAddr)
    (spiI spiR : UInt64) : Bool :=
  notifies.any fun n =>
    n.notifyMessageType = natDetectionSourceIP &&
      n.notificationData ≠ natHash P spiI spiR remote

def localIPFor (remote : IP) (route : Option IP) : Option IP :=
  if remote.isV4 then route.bind IP.to4 else route

def sendInitNotify (w : World) (remote : UDPAddr) (hdr : IKEHeader) (type : UInt16)
    (data : Bytes) (natt : Bool) : World :=
  w.emit (.sent remote natt (.initNotify hdr.initiatorSPI hdr.messageID type data))

def initKeys (P : Primitives) (prop : NegotiatedProposal) (nonceI nonceR shared : Bytes)
    (spiI spiR : UInt64) : IkeSAKey :=
  deriveKeys P { dh := prop.dh, encr := prop.encr, integ := prop.integ, prf := prop.prf }
    (nonceI ++ nonceR) shared spiI spiR

def initSA (S : Server) (w : World) (env : Env) (remote : UDPAddr) (pkt : Bytes)
    (hdr : IKEHeader) (natt : Bool) (req : InitRequest) (prop : NegotiatedProposal)
    (nonceI nonceR shared : Bytes) (spiR : UInt64) (resp : Bytes) : IkeSA :=
  { ref := w.nextRef
    spiI := hdr.initiatorSPI
    spiR
    remoteAddr := remote
    natT := natt || detectNAT S.prims req.notifies remote hdr.initiatorSPI spiR
    nonceI
    nonceR
    saKey := initKeys S.prims prop nonceI nonceR shared hdr.initiatorSPI spiR
    initReqRaw := pkt
    initRespRaw := resp
    state := .auth
    createdAt := env.now
    lastSeen := env.now
    localIP := localIPFor remote.ip env.route }

def natNotifies (P : Primitives) (env : Env) (remote : UDPAddr) (spiI spiR : UInt64) :
    List Notification :=
  [⟨natDetectionSourceIP, natHash P spiI spiR env.localAddr⟩,
   ⟨natDetectionDestinationIP, natHash P spiI spiR remote⟩]

def initExchange (S : Server) (w : World) (env : Env) (remote : UDPAddr) (pkt : Bytes)
    (hdr : IKEHeader) (natt : Bool) (req : InitRequest) (sa : SecurityAssociation)
    (ke : KeyExchange) (nonceI : Bytes) : World :=
  match selectIKEProposal sa with
  | none => sendInitNotify w remote hdr noProposalChosen [] natt
  | some (prop, propNum) =>
    if ke.diffieHellmanGroup ≠ prop.dh.transformID then
      sendInitNotify w remote hdr invalidKEPayload (putUint16 prop.dh.transformID) natt
    else
      match env.spiR, env.nonceR, env.dhPriv with
      | some spiR, some nonceR, some priv =>
        match S.prims.dhSharedKey prop.dh priv ke.keyExchangeData with
        | none => sendInitNotify w remote hdr invalidKEPayload [] natt
        | some shared =>
          match S.codec.encodeInit hdr.initiatorSPI spiR hdr.messageID
              [buildIKESAPayload prop propNum []]
              ⟨prop.dh.transformID, S.prims.dhPublicKey prop.dh priv⟩ nonceR
              (natNotifies S.prims env remote hdr.initiatorSPI spiR) with
          | none => w
          | some resp =>
            let sa2 := initSA S w env remote pkt hdr natt req prop nonceI nonceR
              shared spiR resp
            (w.storeSA sa2).allocRef.emit (.sent remote natt (.initResponse resp))
      | _, _, _ => w

def cookieGate (S : Server) (w : World) (remote : UDPAddr) (hdr : IKEHeader)
    (notifies : List Notification) : Bool :=
  w.saCount < S.cfg.cookieLoad ||
    w.cookies.verify S.prims (findNotifyData notifies cookieNotify) hdr.initiatorSPI remote

def touchCookies (S : Server) (w : World) (env : Env) : World :=
  if w.saCount < S.cfg.cookieLoad then w
  else { w with cookies := w.cookies.rotate env.now env.cookieSecret }

def initRequest (S : Server) (w : World) (env : Env) (remote : UDPAddr) (pkt : Bytes)
    (hdr : IKEHeader) (natt : Bool) : World :=
  match S.codec.decodePayload hdr (pkt.drop ikeHeaderLen) with
  | none => w
  | some payloads =>
    let req := collectInit payloads
    match req.sa, req.ke, req.nonce with
    | some sa, some ke, some nonceI =>
      let w := touchCookies S w env
      if ¬ cookieGate S w remote hdr req.notifies then
        sendInitNotify w remote hdr cookieNotify
          (CookieState.hmac S.prims w.cookies.secret hdr.initiatorSPI remote) natt
      else if w.saCount ≥ S.cfg.maxHalfOpen then
        sendInitNotify w remote hdr temporaryFailure [] natt
      else initExchange S w env remote pkt hdr natt req sa ke nonceI
    | _, _, _ => sendInitNotify w remote hdr invalidSyntax [] natt

def isRetransmit (existing : IkeSA) (remote : UDPAddr) : Bool :=
  existing.state = .auth && existing.initRespRaw ≠ [] && existing.remoteAddr = remote

def handleIKESAInit (S : Server) (w : World) (env : Env) (remote : UDPAddr) (pkt : Bytes)
    (hdr : IKEHeader) (natt : Bool) : World :=
  if hdr.initiatorBit = false ∨ hdr.responseBit = true then w
  else
    match w.lookupSA hdr.initiatorSPI with
    | some existing =>
      -- the handler waits for a lock that is never released
      if existing.mu then w
      else if isRetransmit existing remote then
        w.emit (.sent remote natt (.initResponse existing.initRespRaw))
      else initRequest S w env remote pkt hdr natt
    | none => initRequest S w env remote pkt hdr natt

structure InitPasses (S : Server) (w : World) (env : Env) (remote : UDPAddr) (pkt : Bytes)
    (hdr : IKEHeader) (req : InitRequest) (sa : SecurityAssociation) (ke : KeyExchange)
    (prop : NegotiatedProposal) (propNum : UInt8) (nonceI nonceR priv shared : Bytes)
    (spiR : UInt64) (resp : Bytes) : Prop where
  flags : hdr.initiatorBit = true ∧ hdr.responseBit = false
  notRetransmit : ∀ sa, w.lookupSA hdr.initiatorSPI = some sa →
    sa.mu = false ∧ isRetransmit sa remote = false
  decoded : (S.codec.decodePayload hdr (pkt.drop ikeHeaderLen)).map collectInit = some req
  payloads : req.sa = some sa ∧ req.ke = some ke ∧ req.nonce = some nonceI
  cookie : cookieGate S (touchCookies S w env) remote hdr req.notifies = true
  load : w.saCount < S.cfg.maxHalfOpen
  proposal : selectIKEProposal sa = some (prop, propNum)
  group : ke.diffieHellmanGroup = prop.dh.transformID
  draws : env.spiR = some spiR ∧ env.nonceR = some nonceR ∧ env.dhPriv = some priv
  dh : S.prims.dhSharedKey prop.dh priv ke.keyExchangeData = some shared
  encoded : S.codec.encodeInit hdr.initiatorSPI spiR hdr.messageID
    [buildIKESAPayload prop propNum []]
    ⟨prop.dh.transformID, S.prims.dhPublicKey prop.dh priv⟩ nonceR
    (natNotifies S.prims env remote hdr.initiatorSPI spiR) = some resp

def InitAccepted (S : Server) (w : World) (env : Env) (remote : UDPAddr) (pkt : Bytes)
    (hdr : IKEHeader) : Prop :=
  ∃ req sa ke prop propNum nonceI nonceR priv shared spiR resp,
    InitPasses S w env remote pkt hdr req sa ke prop propNum nonceI nonceR priv shared spiR resp

inductive InitCase (S : Server) (w : World) (env : Env) (remote : UDPAddr) (pkt : Bytes)
    (hdr : IKEHeader) (natt : Bool) : World → Prop
  | silent : InitCase S w env remote pkt hdr natt w
  | answered (out : Outgoing) :
      InitCase S w env remote pkt hdr natt (w.emit (.sent remote natt out))
  | dropped : InitCase S w env remote pkt hdr natt (touchCookies S w env)
  | refused (out : Outgoing) :
      InitCase S w env remote pkt hdr natt
        ((touchCookies S w env).emit (.sent remote natt out))
  | accepted (req : InitRequest) (sa : SecurityAssociation) (ke : KeyExchange)
      (prop : NegotiatedProposal) (propNum : UInt8) (nonceI nonceR priv shared : Bytes)
      (spiR : UInt64) (resp : Bytes)
      (hp : InitPasses S w env remote pkt hdr req sa ke prop propNum nonceI nonceR priv
        shared spiR resp) :
      InitCase S w env remote pkt hdr natt
        (((touchCookies S w env).storeSA (initSA S (touchCookies S w env) env remote pkt hdr
          natt req prop nonceI nonceR shared spiR resp)).allocRef.emit
          (.sent remote natt (.initResponse resp)))

section Cases
variable {S : Server} {w : World} {env : Env} {remote : UDPAddr} {pkt : Bytes}
  {hdr : IKEHeader} {natt : Bool}

@[simp] theorem lookupSA_touchCookies (k : UInt64) :
    (touchCookies S w env).lookupSA k = w.lookupSA k := by
  unfold touchCookies
  split <;> rfl

@[simp] theorem saCount_touchCookies : (touchCookies S w env).saCount = w.saCount := by
  unfold touchCookies
  split <;> rfl

@[simp] theorem nextRef_touchCookies : (touchCookies S w env).nextRef = w.nextRef := by
  unfold touchCookies
  split <;> rfl

@[simp] theorem trace_touchCookies : (touchCookies S w env).trace = w.trace := by
  unfold touchCookies
  split <;> rfl

section
variable (hflags : hdr.initiatorBit = true ∧ hdr.responseBit = false)
  (hold : ∀ sa, w.lookupSA hdr.initiatorSPI = some sa → sa.mu = false ∧ isRetransmit sa remote = false)
include hflags hold

theorem initExchange_cases {req : InitRequest} {sa : SecurityAssociation} {ke : KeyExchange}
    {nonceI : Bytes}
    (hdec : (S.codec.decodePayload hdr (pkt.drop ikeHeaderLen)).map collectInit = some req)
    (hpl : req.sa = some sa ∧ req.ke = some ke ∧ req.nonce = some nonceI)
    (hcookie : cookieGate S (touchCookies S w env) remote hdr req.notifies = true)
    (hload : w.saCount < S.cfg.maxHalfOpen) :
    InitCase S w env remote pkt hdr natt
      (initExchange S (touchCookies S w env) env remote pkt hdr natt req sa ke nonceI) := by
  unfold initExchange
  split
  · exact .refused _
  rename_i prop propNum hprop
  split
  · exact .refused _
  rename_i hgroup
  split
  · rename_i spiR nonceR priv hspi hnonce hpriv
    split
    · exact .refused _
    rename_i shared hdh
    split
    · exact .dropped
    rename_i resp henc
    exact .accepted req sa ke prop propNum nonceI nonceR priv shared spiR resp
      ⟨hflags, hold, hdec, hpl, hcookie, hload, hprop, by simpa using hgroup,
        ⟨hspi, hnonce, hpriv⟩, hdh, henc⟩
  · exact .dropped

theorem initRequest_cases :
    InitCase S w env remote pkt hdr natt (initRequest S w env remote pkt hdr natt) := by
  unfold initRequest
  split
  · exact .silent
  rename_i payloads hdec
  dsimp only
  split
  · rename_i sa ke nonceI hs hk hn
    split
    · exact .refused _
    rename_i hcookie
    split
    · exact .refused _
    rename_i hload
    exact initExchange_cases hflags hold (by simp [hdec]) ⟨hs, hk, hn⟩
      (by simpa using hcookie) (by simpa using hload)
  · exact .answered _

end

theorem handleIKESAInit_cases (S : Server) (w : World) (env : Env) (remote : UDPAddr)
    (pkt : Bytes) (hdr : IKEHeader) (natt : Bool) :
    InitCase S w env remote pkt hdr natt (handleIKESAInit S w env remote pkt hdr natt) := by
  unfold handleIKESAInit
  split
  · exact .silent
  rename_i hflags
  have hf : hdr.initiatorBit = true ∧ hdr.responseBit = false := by simpa using hflags
  split
  · rename_i existing hl
    split
    · exact .silent
    split
    · exact .answered _
    refine initRequest_cases hf fun sa hsa => ?_
    simp_all
  · rename_i hl
    exact initRequest_cases hf fun sa hsa => by simp [hl] at hsa

theorem handleIKESAInit_of_passes {req : InitRequest} {sa : SecurityAssociation}
    {ke : KeyExchange} {prop : NegotiatedProposal} {propNum : UInt8}
    {nonceI nonceR priv shared : Bytes} {spiR : UInt64} {resp : Bytes}
    (hp : InitPasses S w env remote pkt hdr req sa ke prop propNum nonceI nonceR priv shared
      spiR resp) :
    handleIKESAInit S w env remote pkt hdr natt =
      ((touchCookies S w env).storeSA (initSA S (touchCookies S w env) env remote pkt hdr
        natt req prop nonceI nonceR shared spiR resp)).allocRef.emit
        (.sent remote natt (.initResponse resp)) := by
  have hx : initExchange S (touchCookies S w env) env remote pkt hdr natt req sa ke nonceI =
      ((touchCookies S w env).storeSA (initSA S (touchCookies S w env) env remote pkt hdr
        natt req prop nonceI nonceR shared spiR resp)).allocRef.emit
        (.sent remote natt (.initResponse resp)) := by
    simp [initExchange, hp.proposal, hp.group, hp.draws.1, hp.draws.2.1, hp.draws.2.2, hp.dh,
      hp.encoded]
  have hr : initRequest S w env remote pkt hdr natt =
      initExchange S (touchCookies S w env) env remote pkt hdr natt req sa ke nonceI := by
    obtain ⟨payloads, hd, hreq⟩ := Option.map_eq_some_iff.mp hp.decoded
    have hload : ¬ S.cfg.maxHalfOpen ≤ w.saCount := by
      have := hp.load
      omega
    simp [initRequest, hd, hreq, hp.payloads.1, hp.payloads.2.1, hp.payloads.2.2, hp.cookie,
      hload]
  unfold handleIKESAInit
  rw [if_neg (by simp [hp.flags.1, hp.flags.2]), ← hx, ← hr]
  cases hl : w.lookupSA hdr.initiatorSPI with
  | none => rfl
  | some existing =>
    obtain ⟨hmu, hret⟩ := hp.notRetransmit existing hl
    simp [hmu, hret]

end Cases

end Ikev2
end Epdg
