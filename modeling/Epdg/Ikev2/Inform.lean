import Epdg.Ikev2.Auth

/-!
The INFORMATIONAL exchange and the two reapers (`internal/ikev2/inform.go`): deletes,
liveness, and MOBIKE address updates.

The reapers of the source scan all SAs; here one check of one SA is one step, so that
packets may arrive between the checks.
-/
namespace Epdg.Ikev2
open Bytes

def mobikeParams (P : Primitives) (w : World) (sa : IkeSA) (prop : ChildProposal)
    (localIP : IP) (addr : UDPAddr) : Xfrm.ChildSAParams :=
  childParams sa prop (currentKeys P sa prop)
    ⟨localIP, addr.ip, sa.localESPSPI, sa.peerESPSPI⟩ addr.port (w.remoteTS sa.sessionID)

def migrateMobikeXFRM (P : Primitives) (w : World) (env : Env) (sa : IkeSA)
    (prop : ChildProposal) (localIP : IP) (newRemote : UDPAddr) : World × Bool :=
  if sa.remoteAddr.ip.isV4 ≠ newRemote.ip.isV4 then (w, false)
  else
    let new := mobikeParams P w sa prop localIP newRemote
    match Xfrm.migrateChildSA w.xfrm env.xfrmFaults
        (mobikeParams P w sa prop localIP sa.remoteAddr) new with
    | (k, false) => (w.setKernel k, false)
    | (k, true) => ((w.setKernel k).emit (.childReinstalled sa.ref new), true)

def respondEmpty (w : World) (env : Env) (remote : UDPAddr) (sa : IkeSA) (msgID : UInt32) :
    World :=
  respond w env remote sa exchInformational msgID [] sa.natT

def mobikeMigrate (S : Server) (w : World) (env : Env) (remote : UDPAddr) (sa : IkeSA)
    (msgID : UInt32) (prop : ChildProposal) (localIP : IP) : World :=
  match migrateMobikeXFRM S.prims w env sa prop localIP remote with
  | (w, false) => respondEmpty w env remote sa msgID
  | (w, true) =>
    let sa := sa.migrated remote
    let w := (w.storeSA sa).updateSession sa.sessionID fun s =>
      { s with outerIP := some remote }
    respondEmpty w env remote sa msgID

def mobikeChallenge (w : World) (env : Env) (remote : UDPAddr) (sa : IkeSA)
    (msgID : UInt32) : World :=
  match env.cookie2 with
  | none => respondEmpty w env remote sa msgID
  | some c2 =>
    let sa := sa.challenged c2
    respond (w.storeSA sa) env remote sa exchInformational msgID
      [.notify cookie2Notify c2] sa.natT

def handleUpdateSA (S : Server) (w : World) (env : Env) (remote : UDPAddr) (sa : IkeSA)
    (msgID : UInt32) (incoming : Bytes) : World :=
  match sa.espProp, sa.localIP with
  | some prop, some localIP =>
    match sa.cookie2 with
    | some expected =>
      if incoming = [] then mobikeChallenge w env remote sa msgID
      else if constEqual incoming expected = false then
        respondEmpty w env remote sa msgID
      else mobikeMigrate S w env remote sa msgID prop localIP
    | none => mobikeChallenge w env remote sa msgID
  | _, _ => respondEmpty w env remote sa msgID

def removeStates (w : World) (sa : IkeSA) (pair : IP → Xfrm.EspPair) : World :=
  match sa.localIP with
  | none => w
  | some localIP =>
    w.setKernel (Xfrm.removeChildSAStates w.xfrm (sa.stateParams (pair localIP)))

theorem lookupSA_removeStates {w : World} {sa : IkeSA} (pair : IP → Xfrm.EspPair) (k : UInt64) :
    (removeStates w sa pair).lookupSA k = w.lookupSA k := by
  unfold removeStates
  split <;> rfl

def sessionPromoted (sa : IkeSA) (s : Session.Session) : Session.Session :=
  { s with espInboundSPI := sa.localESPSPI, espOutboundSPI := sa.peerESPSPI }

def deleteESP (P : Primitives) (w : World) (sa : IkeSA) (spi : UInt32) : World × IkeSA :=
  if sa.espProp.isSome ∧ (spi = sa.localESPSPI ∨ spi = sa.peerESPSPI) then
    if sa.pendingESPProp.isSome then
      let w := removeStates w sa sa.currentPair
      let sa := sa.promotePending
      ((w.storeSA sa).updateSession sa.sessionID (sessionPromoted sa), sa)
    else (removeXFRMChildSA P w sa, sa)
  else if sa.pendingESPProp.isSome ∧
      (spi = sa.pendingLocalESPSPI ∨ spi = sa.pendingPeerESPSPI) then
    let w := removeStates w sa sa.pendingPair
    let sa := sa.clearPending
    (w.storeSA sa, sa)
  else (w, sa)

def deleteESPs (P : Primitives) (w : World) (sa : IkeSA) : List UInt32 → World
  | [] => w
  | spi :: rest =>
    let r := deleteESP P w sa spi
    deleteESPs P r.1 r.2 rest

def informRequest (S : Server) (w : World) (env : Env) (remote : UDPAddr) (hdr : IKEHeader)
    (sa : IkeSA) (pl : InfoPayloads) : World :=
  if pl.hasUpdateSA && sa.mobikeEnabled then
    handleUpdateSA S w env remote sa hdr.messageID pl.cookie2
  else
    let w := respondEmpty w env remote sa hdr.messageID
    if pl.deleteIKE then
      fullTeardown S.prims env.strOpen (w.storeSA sa.closing) sa.closing
    else deleteESPs S.prims w sa pl.deleteESPSPIs

def IkeSA.seen (sa : IkeSA) (now : Time) : IkeSA :=
  match sa.dpdSentAt with
  | none => sa.refreshed now
  | some _ => { sa with lastSeen := now, dpdSentAt := none, dpdMsgID := 0 }

def openInfo (S : Server) (k : IkeSAKey) (pkt : Bytes) : Option InfoPayloads :=
  (decryptSK S.prims k pkt).map fun (innerType, plain) =>
    parseInfoPayloads S.codec innerType plain

def handleInformationalOn (S : Server) (w : World) (env : Env) (remote : UDPAddr)
    (pkt : Bytes) (hdr : IKEHeader) (sa : IkeSA) : World :=
  if sa.mu then w
  else if hdr.responseBit then
    -- answer to a probe: taken without decryption
    if sa.dpdSentAt.isSome ∧ hdr.messageID = sa.dpdMsgID then w.storeSA (sa.seen env.now)
    else w
  else if sa.state = .deleting then w
  else
    let sa := sa.seen env.now
    let w := w.storeSA sa
    match openInfo S sa.saKey pkt with
    | none => w
    | some pl => informRequest S w env remote hdr sa pl

def handleInformational (S : Server) (w : World) (env : Env) (remote : UDPAddr)
    (pkt : Bytes) (hdr : IKEHeader) : World :=
  if hdr.responseBit = true ∧ hdr.initiatorBit = false then w
  else
    match w.lookupSA hdr.initiatorSPI with
    | none => w
    | some sa => handleInformationalOn S w env remote pkt hdr sa

def IkeSA.probed (sa : IkeSA) (now : Time) : IkeSA :=
  { sa with
    ourMsgID := sa.ourMsgID + 1, dpdMsgID := sa.ourMsgID, dpdSentAt := some now }

def sendDPDProbe (w : World) (env : Env) (sa : IkeSA) : World :=
  if env.sendFails then w.storeSA { sa with ourMsgID := sa.ourMsgID + 1 }
  else
    (w.storeSA (sa.probed env.now)).emit
      (.sent sa.remoteAddr sa.natT
        (.request sa.spiI sa.spiR exchInformational sa.ourMsgID))

def dpdCheck (S : Server) (w : World) (env : Env) (spiI : UInt64) : World :=
  match w.lookupSA spiI with
  | none => w
  | some sa =>
    if S.cfg.dpdEnabled = false ∨ sa.mu ∨ sa.state ≠ .established then w
    else
      match sa.dpdSentAt with
      | none =>
        if env.now - sa.lastSeen > S.cfg.probeDelay then sendDPDProbe w env sa else w
      | some sentAt =>
        if env.now - sentAt > S.cfg.probeTimeout then
          fullTeardown S.prims env.strOpen (w.storeSA sa.closing) sa.closing
        else w

def halfOpenCheck (S : Server) (w : World) (env : Env) (spiI : UInt64) : World :=
  match w.lookupSA spiI with
  | none => w
  | some sa =>
    if sa.mu = false ∧ sa.state = .auth ∧
        env.now - sa.createdAt > S.cfg.halfOpenTimeout then
      w.deleteSA spiI
    else w

end Epdg.Ikev2
