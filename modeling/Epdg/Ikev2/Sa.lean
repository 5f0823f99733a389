import Epdg.Ikev2.Proposal
import Epdg.Swm.Eap
import Epdg.Xfrm.ChildSA

/-!
The per-SA state of the IKE server (`internal/ikev2/sa.go`).

An SA is a value here. `ref` is the identity of the object the source allocates,
and `mu` records that its mutex is held by a goroutine that never returns. The
negotiated proposal and the DH values are not kept: no handler reads them back.
-/
namespace Epdg.Ikev2

abbrev Time := Nat

inductive IkeState where
  | init | auth | established | deleting
  deriving DecidableEq, Repr

structure IkeSA where
  ref : Nat
  mu : Bool := false
  spiI : UInt64
  spiR : UInt64
  remoteAddr : UDPAddr
  natT : Bool
  nonceI : Bytes
  nonceR : Bytes
  saKey : IkeSAKey
  initReqRaw : Bytes := []
  initRespRaw : Bytes := []
  state : IkeState
  createdAt : Time
  lastSeen : Time
  ourMsgID : UInt32 := 0
  dpdMsgID : UInt32 := 0
  dpdSentAt : Option Time := none
  eapRound : Nat := 0
  swmSessionID : Option SWMSessionID := none
  imsi : Bytes := []
  nai : Bytes := []
  apn : Bytes := []
  msk : Bytes := []
  eapChallengeMsgID : UInt32 := 0
  eapChallengePayload : Bytes := []
  mobikeEnabled : Bool := false
  cookie2 : Option Bytes := none
  handoverIP : Option IP := none
  espProp : Option ChildProposal := none
  espPropNum : UInt8 := 0
  peerESPSPI : UInt32 := 0
  localESPSPI : UInt32 := 0
  cpWantsIP : Bool := false
  pendingESPProp : Option ChildProposal := none
  pendingESPPropNum : UInt8 := 0
  pendingPeerESPSPI : UInt32 := 0
  pendingLocalESPSPI : UInt32 := 0
  pendingNonceI : Bytes := []
  pendingNonceR : Bytes := []
  idiAuthBytes : Bytes := []
  sessionID : Option Session.ID := none
  localIP : Option IP := none
  deriving DecidableEq, Repr

def nattPort : UInt16 := 4500

namespace IkeSA

def refreshed (sa : IkeSA) (now : Time) : IkeSA := { sa with lastSeen := now }

def locked (sa : IkeSA) : IkeSA := { sa with mu := true }

def migrated (sa : IkeSA) (remote : UDPAddr) : IkeSA :=
  { sa with remoteAddr := remote, cookie2 := none }

def challenged (sa : IkeSA) (cookie2 : Bytes) : IkeSA := { sa with cookie2 := some cookie2 }

def closing (sa : IkeSA) : IkeSA := { sa with state := .deleting }

def clearPending (sa : IkeSA) : IkeSA :=
  { sa with
    pendingESPProp := none, pendingESPPropNum := 0, pendingPeerESPSPI := 0
    pendingLocalESPSPI := 0, pendingNonceI := [], pendingNonceR := [] }

def promotePending (sa : IkeSA) : IkeSA :=
  clearPending
    { sa with
      espProp := sa.pendingESPProp, espPropNum := sa.pendingESPPropNum
      peerESPSPI := sa.pendingPeerESPSPI, localESPSPI := sa.pendingLocalESPSPI
      nonceI := sa.pendingNonceI, nonceR := sa.pendingNonceR }

def currentPair (sa : IkeSA) (localIP : IP) : Xfrm.EspPair :=
  ⟨localIP, sa.remoteAddr.ip, sa.localESPSPI, sa.peerESPSPI⟩

def pendingPair (sa : IkeSA) (localIP : IP) : Xfrm.EspPair :=
  ⟨localIP, sa.remoteAddr.ip, sa.pendingLocalESPSPI, sa.pendingPeerESPSPI⟩

def stateParams (sa : IkeSA) (c : Xfrm.EspPair) : Xfrm.ChildSAParams :=
  { localIP := c.localIP, remoteIP := c.remoteIP
    inboundSPI := c.inboundSPI, outboundSPI := c.outboundSPI
    natt := sa.natT, nattSrcPort := nattPort, nattDstPort := sa.remoteAddr.port
    ifID := Xfrm.ifID, owner := sa.sessionID }

@[simp] theorem stateParams_pair (sa : IkeSA) (c : Xfrm.EspPair) :
    (sa.stateParams c).pair = c := rfl

end IkeSA

def childParams (sa : IkeSA) (prop : ChildProposal) (keys : ChildKeys) (c : Xfrm.EspPair)
    (nattDstPort : UInt16) (remoteTS : IPNet) : Xfrm.ChildSAParams :=
  { localIP := c.localIP, remoteIP := c.remoteIP
    inboundSPI := c.inboundSPI, outboundSPI := c.outboundSPI
    encKeyIn := keys.encrIn, intKeyIn := keys.integIn
    encKeyOut := keys.encrOut, intKeyOut := keys.integOut
    encAlgName := (childAlgNames prop).1, intAlgName := (childAlgNames prop).2.1
    intTruncBits := (childAlgNames prop).2.2
    natt := sa.natT, nattSrcPort := nattPort, nattDstPort
    localTS := IPNet.all, remoteTS, ifID := Xfrm.ifID, owner := sa.sessionID }

@[simp] theorem childParams_pair (sa : IkeSA) (prop : ChildProposal) (keys : ChildKeys)
    (c : Xfrm.EspPair) (port : UInt16) (remoteTS : IPNet) :
    (childParams sa prop keys c port remoteTS).pair = c := rfl

def currentKeys (P : Primitives) (sa : IkeSA) (prop : ChildProposal) : ChildKeys :=
  deriveChildSAKeys P sa.saKey sa.nonceI sa.nonceR prop.encr.keyLen prop.integKeyLen

def computeEAPAUTH (P : Primitives) (alg : PrfAlg) (msk signedOctets : Bytes) : Bytes :=
  prf P alg (prf P alg msk (Bytes.ascii "Key Pad for IKEv2")) signedOctets

def expectedAuth (P : Primitives) (sa : IkeSA) : Bytes :=
  computeEAPAUTH P sa.saKey.prf sa.msk
    (sa.initReqRaw ++ sa.nonceR ++ prf P sa.saKey.prf sa.saKey.skPi sa.idiAuthBytes)

def buildIDAuthBytes (idType : UInt8) (idData : Bytes) : Bytes := [idType, 0, 0, 0] ++ idData

def responderSigned (P : Primitives) (sa : IkeSA) (epdgID : Bytes) : Bytes :=
  sa.initRespRaw ++ sa.nonceI ++
    prf P sa.saKey.prf sa.saKey.skPr (buildIDAuthBytes idFQDN epdgID)

end Epdg.Ikev2
