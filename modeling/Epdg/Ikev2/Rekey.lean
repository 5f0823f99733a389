import Epdg.Ikev2.Auth

/-!
CREATE_CHILD_SA (`internal/ikev2/rekey.go`): rekeying of the CHILD SA and of the IKE SA.
-/
namespace Epdg.Ikev2
open Bytes
variable {env : Env}

def sendChildSANotify (w : World) (env : Env) (remote : UDPAddr) (sa : IkeSA)
    (msgID : UInt32) (type : UInt16) (data : Bytes) : World :=
  respond w env remote sa exchCreateChildSA msgID [.notify type data] sa.natT

inductive ChildDH where
  | reject (type : UInt16) (data : Bytes)
  | noPFS
  | pfs (shared pub : Bytes)
  deriving DecidableEq, Repr

def childDH (S : Server) (env : Env) (prop : ChildProposal) (ke : Option KeyExchange) :
    ChildDH :=
  match prop.dh with
  | none => .noPFS
  | some group =>
    match ke with
    | none => .reject invalidKEPayload (putUint16 group.transformID)
    | some ke =>
      if ke.diffieHellmanGroup ≠ group.transformID then
        .reject invalidKEPayload (putUint16 group.transformID)
      else
        match env.dhPriv with
        | none => .reject invalidSyntax []
        | some priv =>
          match S.prims.dhSharedKey group priv ke.keyExchangeData with
          | none => .reject invalidSyntax []
          | some shared => .pfs shared (S.prims.dhPublicKey group priv)

def childRekeyKeys (P : Primitives) (sa : IkeSA) (prop : ChildProposal) (dh : ChildDH)
    (nonceI nonceR : Bytes) : ChildKeys :=
  match dh with
  | .pfs shared _ =>
    deriveChildSAKeysPFS P sa.saKey shared nonceI nonceR prop.encr.keyLen prop.integKeyLen
  | _ => deriveChildSAKeys P sa.saKey nonceI nonceR prop.encr.keyLen prop.integKeyLen

def ChildDH.isPFS : ChildDH → Bool
  | .pfs _ _ => true
  | _ => false

def childRekeyPayloads (w : World) (sa : IkeSA) (prop : ChildProposal) (propNum : UInt8)
    (spi : UInt32) (nonceR : Bytes) (dh : ChildDH) : List OutPayload :=
  [.sa (buildESPSAResponse prop propNum spi), .nonce nonceR] ++
  (match dh, prop.dh with
    | .pfs _ pub, some group => [.ke ⟨group.transformID, pub⟩]
    | _, _ => []) ++
  [.ts (((w.sessionOf sa.sessionID).bind Session.Session.s2b).bind fun c => c.paa.to4)]

def IkeSA.setPending (sa : IkeSA) (prop : ChildProposal) (propNum : UInt8)
    (peerSPI localSPI : UInt32) (nonceI nonceR : Bytes) : IkeSA :=
  { sa with
    pendingESPProp := some prop, pendingESPPropNum := propNum
    pendingPeerESPSPI := peerSPI, pendingLocalESPSPI := localSPI
    pendingNonceI := nonceI, pendingNonceR := nonceR }

def addPendingStates (w : World) (env : Env) (sa : IkeSA) (prop : ChildProposal)
    (keys : ChildKeys) (remote : UDPAddr) (peerSPI spi : UInt32) :
    Option (Xfrm.ChildSAParams × Xfrm.Kernel × Bool) :=
  sa.localIP.map fun localIP =>
    let p := childParams sa prop keys ⟨localIP, remote.ip, spi, peerSPI⟩ remote.port
      (w.remoteTS sa.sessionID)
    (p, Xfrm.addChildSAStates w.xfrm env.xfrmFaults p)

theorem addPendingStates_some {w : World} {sa : IkeSA} {prop : ChildProposal} {keys : ChildKeys}
    {remote : UDPAddr} {peerSPI spi : UInt32} {p : Xfrm.ChildSAParams} {k : Xfrm.Kernel} {ok : Bool}
    (h : addPendingStates w env sa prop keys remote peerSPI spi = some (p, k, ok)) :
    ∃ localIP, sa.localIP = some localIP ∧
      p = childParams sa prop keys ⟨localIP, remote.ip, spi, peerSPI⟩ remote.port
        (w.remoteTS sa.sessionID) ∧
      Xfrm.addChildSAStates w.xfrm env.xfrmFaults p = (k, ok) := by
  obtain ⟨localIP, hip, he⟩ := Option.map_eq_some_iff.mp h
  grind

def childRekeyInstall (S : Server) (w : World) (env : Env) (remote : UDPAddr) (sa : IkeSA)
    (hdr : IKEHeader) (prop : ChildProposal) (propNum : UInt8) (peerSPI spi : UInt32)
    (nonceI nonceR : Bytes) (dh : ChildDH) : World :=
  let keys := childRekeyKeys S.prims sa prop dh nonceI nonceR
  match addPendingStates w env sa prop keys remote peerSPI spi with
  | none => sendChildSANotify w env remote sa hdr.messageID invalidSyntax []
  | some (_, k, false) =>
    sendChildSANotify (w.setKernel k) env remote sa hdr.messageID invalidSyntax []
  | some (p, k, true) =>
    let inner := childRekeyPayloads w sa prop propNum spi nonceR dh
    let sa := sa.setPending prop propNum peerSPI spi nonceI nonceR
    respond
      (((w.setKernel k).emit (.childRekeyed sa.ref dh.isPFS p)).storeSA sa)
      env remote sa exchCreateChildSA hdr.messageID inner sa.natT

def handleChildSARekey (S : Server) (w : World) (env : Env) (remote : UDPAddr) (sa : IkeSA)
    (hdr : IKEHeader) (offer : SecurityAssociation) (nonceI : Bytes)
    (ke : Option KeyExchange) : World :=
  match selectAndExtractESP offer with
  | none => sendChildSANotify w env remote sa hdr.messageID noProposalChosen []
  | some (prop, propNum, peerSPI) =>
    match childDH S env prop ke with
    | .reject type data => sendChildSANotify w env remote sa hdr.messageID type data
    | dh =>
      match env.nonceR, env.espSPI with
      | some nonceR, some spi =>
        childRekeyInstall S w env remote sa hdr prop propNum peerSPI spi nonceI nonceR
          dh
      | _, _ => w

def rekeyedSA (P : Primitives) (w : World) (env : Env) (sa : IkeSA)
    (prop : NegotiatedProposal) (shared nonceI nonceR : Bytes) (spiI spiR : UInt64) : IkeSA :=
  { ref := w.nextRef
    spiI
    spiR
    remoteAddr := sa.remoteAddr
    natT := sa.natT
    nonceI
    nonceR
    saKey := deriveIKERekeyKeys P sa.saKey prop shared nonceI nonceR spiI spiR
    state := .established
    createdAt := env.now
    lastSeen := env.now
    localIP := sa.localIP
    imsi := sa.imsi
    nai := sa.nai
    apn := sa.apn
    mobikeEnabled := sa.mobikeEnabled
    swmSessionID := sa.swmSessionID
    sessionID := sa.sessionID
    espProp := sa.espProp
    espPropNum := sa.espPropNum
    peerESPSPI := sa.peerESPSPI
    localESPSPI := sa.localESPSPI }

def IkeSA.replaced (sa : IkeSA) : IkeSA :=
  { sa with sessionID := none, swmSessionID := none, espProp := none }

def ikeRekeyStore (w : World) (sa new : IkeSA) : World :=
  (((w.storeSA sa.replaced).storeSA new).allocRef.emit (.ikeRekeyed sa.ref new.ref)).updateSession
    sa.sessionID fun s => { s with ikeSPII := new.spiI, ikeSPIR := new.spiR }

def ikeRekeyExchange (S : Server) (w : World) (env : Env) (remote : UDPAddr) (sa : IkeSA)
    (hdr : IKEHeader) (prop : NegotiatedProposal) (propNum : UInt8) (newSPII : UInt64)
    (nonceI : Bytes) (ke : KeyExchange) : World :=
  match env.spiR, env.nonceR, env.dhPriv with
  | some newSPIR, some nonceR, some priv =>
    match S.prims.dhSharedKey prop.dh priv ke.keyExchangeData with
    | none => sendChildSANotify w env remote sa hdr.messageID invalidSyntax []
    | some shared =>
      if env.sendFails then w
      else
        let w := respond w env remote sa exchCreateChildSA hdr.messageID
          [.sa (buildIKESAPayload prop propNum (putUint64 newSPIR)), .nonce nonceR,
            .ke ⟨prop.dh.transformID, S.prims.dhPublicKey prop.dh priv⟩] sa.natT
        ikeRekeyStore w sa
          (rekeyedSA S.prims w env sa prop shared nonceI nonceR newSPII newSPIR)
  | _, _, _ => w

def handleIKESARekey (S : Server) (w : World) (env : Env) (remote : UDPAddr) (sa : IkeSA)
    (hdr : IKEHeader) (offer : SecurityAssociation) (nonceI : Bytes)
    (ke : Option KeyExchange) : World :=
  match ke with
  | none => sendChildSANotify w env remote sa hdr.messageID invalidSyntax []
  | some ke =>
    match selectIKEProposal offer with
    | none => sendChildSANotify w env remote sa hdr.messageID noProposalChosen []
    | some (prop, propNum) =>
      if ke.diffieHellmanGroup ≠ prop.dh.transformID then
        sendChildSANotify w env remote sa hdr.messageID invalidKEPayload
          (putUint16 prop.dh.transformID)
      else if extractIKESPI offer propNum = 0 then
        sendChildSANotify w env remote sa hdr.messageID invalidSyntax []
      else
        ikeRekeyExchange S w env remote sa hdr prop propNum (extractIKESPI offer propNum)
          nonceI ke

inductive ChildRequest where
  | malformed
  | childSA (offer : SecurityAssociation) (nonceI : Bytes) (ke : Option KeyExchange)
  | ikeSA (offer : SecurityAssociation) (nonceI : Bytes) (ke : Option KeyExchange)
  deriving DecidableEq, Repr

def openChild (S : Server) (k : IkeSAKey) (pkt : Bytes) : Option ChildRequest :=
  (decryptSK S.prims k pkt).map fun (innerType, plain) =>
    let pl := parseChildSAPayloads S.codec innerType plain
    match pl.sa, pl.nonce with
    | some offer, some nonceI =>
      if pl.tsi || pl.tsr then .childSA offer nonceI pl.ke else .ikeSA offer nonceI pl.ke
    | _, _ => .malformed

def handleCreateChildSAOn (S : Server) (w : World) (env : Env) (remote : UDPAddr)
    (pkt : Bytes) (hdr : IKEHeader) (sa : IkeSA) : World :=
  if sa.mu ∨ sa.state ≠ .established then w
  else
    let sa := sa.refreshed env.now
    let w := w.storeSA sa
    match openChild S sa.saKey pkt with
    | none => w
    | some .malformed => sendChildSANotify w env remote sa hdr.messageID invalidSyntax []
    | some (.childSA offer nonceI ke) =>
      handleChildSARekey S w env remote sa hdr offer nonceI ke
    | some (.ikeSA offer nonceI ke) => handleIKESARekey S w env remote sa hdr offer nonceI ke

def handleCreateChildSA (S : Server) (w : World) (env : Env) (remote : UDPAddr)
    (pkt : Bytes) (hdr : IKEHeader) : World :=
  match w.lookupSA hdr.initiatorSPI with
  | none => w
  | some sa => handleCreateChildSAOn S w env remote pkt hdr sa

structure IkeRekeyPasses (S : Server) (env : Env) (offer : SecurityAssociation)
    (ke : Option KeyExchange) (prop : NegotiatedProposal) (propNum : UInt8)
    (nonceR priv shared : Bytes) (newSPII newSPIR : UInt64) : Prop where
  proposal : selectIKEProposal offer = some (prop, propNum)
  spi : extractIKESPI offer propNum = newSPII ∧ newSPII ≠ 0
  group : ∃ k, ke = some k ∧ k.diffieHellmanGroup = prop.dh.transformID ∧
    S.prims.dhSharedKey prop.dh priv k.keyExchangeData = some shared
  draws : env.spiR = some newSPIR ∧ env.nonceR = some nonceR ∧ env.dhPriv = some priv
  sends : env.sendFails = false

def IkeRekeyAccepted (S : Server) (env : Env) (offer : SecurityAssociation)
    (ke : Option KeyExchange) (newSPII : UInt64) : Prop :=
  ∃ prop propNum nonceR priv shared newSPIR,
    IkeRekeyPasses S env offer ke prop propNum nonceR priv shared newSPII newSPIR

inductive IkeRekeyCase (S : Server) (w : World) (env : Env) (remote : UDPAddr) (sa : IkeSA)
    (hdr : IKEHeader) (offer : SecurityAssociation) (nonceI : Bytes)
    (ke : Option KeyExchange) : World → Prop
  | dropped : IkeRekeyCase S w env remote sa hdr offer nonceI ke w
  | refused (type : UInt16) (data : Bytes) :
      IkeRekeyCase S w env remote sa hdr offer nonceI ke
        (sendChildSANotify w env remote sa hdr.messageID type data)
  | accepted (prop : NegotiatedProposal) (propNum : UInt8) (nonceR priv shared : Bytes)
      (newSPII newSPIR : UInt64) (out : Outgoing)
      (hp : IkeRekeyPasses S env offer ke prop propNum nonceR priv shared newSPII newSPIR) :
      IkeRekeyCase S w env remote sa hdr offer nonceI ke
        (ikeRekeyStore (w.emit (.sent remote sa.natT out)) sa
          (rekeyedSA S.prims w env sa prop shared nonceI nonceR newSPII newSPIR))

theorem handleIKESARekey_cases (S : Server) (w : World) (env : Env) (remote : UDPAddr)
    (sa : IkeSA) (hdr : IKEHeader) (offer : SecurityAssociation) (nonceI : Bytes)
    (ke : Option KeyExchange) :
    IkeRekeyCase S w env remote sa hdr offer nonceI ke
      (handleIKESARekey S w env remote sa hdr offer nonceI ke) := by
  unfold handleIKESARekey
  split
  · exact .refused _ _
  rename_i ke
  split
  · exact .refused _ _
  rename_i prop propNum hsel
  split
  · exact .refused _ _
  rename_i hgroup
  split
  · exact .refused _ _
  rename_i hspi
  unfold ikeRekeyExchange
  split
  · rename_i newSPIR nonceR priv hr hn hpriv
    split
    · exact .refused _ _
    rename_i shared hdh
    split
    · exact .dropped
    rename_i hsend
    simp only [respond, hsend]
    exact .accepted prop propNum nonceR priv shared _ newSPIR _
      ⟨hsel, ⟨rfl, hspi⟩, ⟨ke, rfl, by simpa using hgroup, hdh⟩,
        ⟨hr, hn, hpriv⟩, by simpa using hsend⟩
  · exact .dropped

theorem handleIKESARekey_of_passes {S : Server} {offer : SecurityAssociation}
    {ke : Option KeyExchange} {prop : NegotiatedProposal} {propNum : UInt8}
    {nonceR priv shared : Bytes} {newSPII newSPIR : UInt64} (w : World) (remote : UDPAddr)
    (sa : IkeSA) (hdr : IKEHeader) (nonceI : Bytes)
    (hp : IkeRekeyPasses S env offer ke prop propNum nonceR priv shared newSPII newSPIR) :
    ∃ out, handleIKESARekey S w env remote sa hdr offer nonceI ke =
      ikeRekeyStore (w.emit (.sent remote sa.natT out)) sa
        (rekeyedSA S.prims w env sa prop shared nonceI nonceR newSPII newSPIR) := by
  obtain ⟨k, rfl, hgroup, hdh⟩ := hp.group
  obtain ⟨hspi, hne⟩ := hp.spi
  subst hspi
  refine ⟨.response sa.spiI sa.spiR exchCreateChildSA hdr.messageID
    [.sa (buildIKESAPayload prop propNum (putUint64 newSPIR)), .nonce nonceR,
      .ke ⟨prop.dh.transformID, S.prims.dhPublicKey prop.dh priv⟩], ?_⟩
  simp [handleIKESARekey, hp.proposal, hgroup, hne, ikeRekeyExchange, hp.draws.1,
    hp.draws.2.1, hp.draws.2.2, hdh, hp.sends, respond, rekeyedSA, World.emit]

end Epdg.Ikev2
