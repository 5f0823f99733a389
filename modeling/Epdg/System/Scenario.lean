import Epdg.Ikev2.Wire
import Epdg.System.Step

/-!
A server on which runs can be evaluated, and the messages of a UE that attaches to it.

Messages are in the wire format of `Epdg.Ikev2.Wire`. The primitives are not secure and
need not be: the MAC copies its input, the cipher leaves the plaintext as it is and its
tag is zero, and a DH secret is the two public values. Keys derived from different
nonces or with and without a DH secret differ, which is all that the runs depend on.
-/
namespace Epdg.Scenario
open Ikev2 Ikev2.Wire Bytes

def prims : Primitives where
  hmac h key data := (data ++ key ++ List.replicate 64 0).take h.size
  hmac_length h _ _ := h.length_take_size (by simp [← Nat.add_assoc])
  sha1 b := (b ++ List.replicate 20 0).take 20
  cbcDecrypt _ _ c := c
  gcmOpen _ _ c _ :=
    if c.drop (c.length - 16) = List.replicate 16 0 then some (c.take (c.length - 16)) else none
  dhPublicKey _ priv := priv
  dhSharedKey _ priv peer := some (priv ++ peer)

def gateway : IP := .v4 0xc0000201

def server : Server where
  prims := prims
  codec := Wire.codec
  cfg := { localGTPU := some gateway, dpdEnabled := true }
  certDER := []
  signCert b := some (b.take 8)
  equalFold a b := a = b

def ue : UDPAddr := ⟨.v4 0xc6336407, 500⟩

def ueMoved : UDPAddr := ⟨.v4 0xcb007109, 500⟩

def offerIKE (spi : Bytes) : SecurityAssociation :=
  [{ proposalNumber := 1, protocolID := protoIKE, spi
     encryptionAlgorithm := [encrTransform .aesGcm16_256]
     pseudorandomFunction := [{ transformID := 5 }]
     diffieHellmanGroup := [{ transformID := 19 }] }]

def offerESP (spi : UInt32) (pfs : Bool) : SecurityAssociation :=
  [{ proposalNumber := 1, protocolID := protoESP, spi := putUint32 spi
     encryptionAlgorithm := [encrTransform .aesGcm16_256]
     diffieHellmanGroup := if pfs then [{ transformID := 19 }] else [] }]

def keOf (pub : UInt8) : KeyExchange := ⟨19, List.replicate 16 pub⟩

def nonceOf (n : UInt8) : Bytes := List.replicate 16 n

def initMessage (spiI : UInt64) : Bytes :=
  let chain : Chain :=
    [(typeSA, encodeSA (offerIKE [])), (typeKE, encodeKE (keOf 1)), (typeNiNr, nonceOf 1)]
  message ⟨spiI, 0, typeSA, exchIKESAInit, 0x08, 0⟩ (encodeChain chain)

def sealed (spiI spiR : UInt64) (exch : UInt8) (msgID : UInt32) (chain : Chain) : Bytes :=
  let content := List.replicate 8 0 ++ encodeChain chain ++ List.replicate 16 0
  message ⟨spiI, spiR, 46, exch, 0x08, msgID⟩
    ([chain.first, 0] ++ putUint16 (content.length + 4).toUInt16 ++ content)

def round1Chain (nai : Bytes) (child : Option SecurityAssociation) : Chain :=
  [(typeIDi, encodeTagged idRFC822Addr nai),
   (typeIDr, encodeTagged idFQDN (ascii "ims"))] ++
  (child.map fun offer => (typeSA, encodeSA offer)).toList ++
  [(typeN, encodeN ⟨mobikeSupported, []⟩)]

def encodeAVP (code vendor : UInt32) (data : Bytes) : Bytes :=
  let vendorBytes := if vendor = 0 then [] else putUint32 vendor
  putUint32 code ++ [if vendor = 0 then 0x40 else 0xc0] ++
    (putUint32 (8 + vendorBytes.length + data.length).toUInt32).drop 1 ++ vendorBytes ++ data ++
    List.replicate (Diameter.pad4 data.length - data.length) 0

def resultCode (code : UInt32) : Diameter.AVP := ⟨Diameter.avpResultCode, 0, 0x40, putUint32 code⟩

def eapPayload (data : Bytes) : Diameter.AVP := ⟨Diameter.avpEAPPayload, 0, 0x40, data⟩

def challengeAnswer : List Diameter.AVP := [resultCode 1001, eapPayload [1, 1, 0, 5, 1]]

def msk : Bytes := List.replicate 64 7

def successAnswer : List Diameter.AVP :=
  [resultCode 2001, eapPayload [3, 1, 0, 4],
   ⟨Diameter.avpEAPMasterSessionKey, 0, 0x40, msk⟩,
   ⟨Diameter.avpAPNConfiguration, Diameter.vendor3GPP, 0xc0,
    encodeAVP Diameter.avpServiceSelection 0 (ascii "ims") ++
    encodeAVP Diameter.avpAMBR Diameter.vendor3GPP
      (encodeAVP Diameter.avpMaxRequestedBandwidthUL 0 (putUint32 1000) ++
       encodeAVP Diameter.avpMaxRequestedBandwidthDL 0 (putUint32 1000))⟩]

def connection (n : UInt32) : CreateSessionResult :=
  { paa := 0x0a000000 + n, pgwControlTEID := 0x100 + n, pgwUserTEID := 0x200 + n
    localControlTEID := 0x300 + n, localUserTEID := 0x400 + n, ebi := 5
    pgwUserIP := 0xc0000209 }

structure Attach where
  spiI : UInt64 := 0x11
  spiR : UInt64 := 0x21
  nai : Bytes := ascii "0001010000000001@wlan"
  child : Option SecurityAssociation := some (offerESP 0x51 false)
  deriving DecidableEq

namespace Attach
variable (a : Attach)

def init (now : Time) (route : Option IP) : Input :=
  ⟨.packet ue (initMessage a.spiI) false,
    { now, spiR := some a.spiR, nonceR := some (nonceOf 2), dhPriv := some (nonceOf 3), route }⟩

def round1 (now : Time) (answer : List Diameter.AVP) : Input :=
  ⟨.packet ue (sealed a.spiI a.spiR exchIKEAuth 1 (round1Chain a.nai a.child)) false,
    { now, swm := .answer answer }⟩

def eap (now : Time) (answer : List Diameter.AVP) : Input :=
  ⟨.packet ue (sealed a.spiI a.spiR exchIKEAuth 2 [(typeEAP, [2, 1, 0, 5, 1])]) false,
    { now, swm := .answer answer }⟩

def final (env : Env) : Input :=
  ⟨.packet ue
    (sealed a.spiI a.spiR exchIKEAuth 3
      [(typeAUTH, encodeTagged authMethodSharedKey ((initMessage a.spiI).take 32))]) false, env⟩

def authenticated : List Input :=
  [a.init 1 (some gateway), a.round1 2 challengeAnswer, a.eap 3 successAnswer]

def complete (n : UInt32) (spi : UInt32) : List Input :=
  a.authenticated ++ [a.final { now := 4, s2b := .ok (connection n), espSPI := some spi }]

end Attach

def after (inputs : List Input) : World := runFrom server [1] 0 inputs

theorem after_reachable (inputs : List Input) : Reachable server (after inputs) :=
  ⟨[1], 0, inputs, rfl⟩

def attached : List Input := Attach.complete {} 1 0x1001

def attachedSA : IkeSA := ((after attached).lookupSA 0x11).get (by decide +kernel)

theorem lookupSA_attached : (after attached).lookupSA 0x11 = some attachedSA := by
  simp [attachedSA]

def other : Attach :=
  { spiI := 0x12, spiR := 0x22, nai := ascii "0001010000000002@wlan"
    child := some (offerESP 0x52 false) }

def bothAttached : List Input := attached ++ other.complete 2 0x1002

def otherSA : IkeSA := ((after bothAttached).lookupSA 0x12).get (by decide +kernel)

def draws : Env :=
  { now := 9, spiR := some 0x29, nonceR := some (nonceOf 4), dhPriv := some (nonceOf 5) }

def initHeader (spiI : UInt64) : IKEHeader := ⟨spiI, 0, typeSA, exchIKESAInit, 0x08, 0⟩

def sealedHeader (spiI spiR : UInt64) (exch : UInt8) (msgID : UInt32) : IKEHeader :=
  ⟨spiI, spiR, 46, exch, 0x08, msgID⟩

def fromUE (pkt : Bytes) (env : Env) : Input := ⟨.packet ue pkt false, env⟩

def childRekeyMessage (msgID : UInt32) (peerSPI : UInt32) (pfs : Bool) : Bytes :=
  sealed 0x11 0x21 exchCreateChildSA msgID
    ([(typeSA, encodeSA (offerESP peerSPI pfs)), (typeNiNr, nonceOf 8)] ++
      (if pfs then [(typeKE, encodeKE (keOf 8))] else []) ++ [(typeTSi, []), (typeTSr, [])])

def ikeRekeyMessage (msgID : UInt32) (newSPII : UInt64) : Bytes :=
  sealed 0x11 0x21 exchCreateChildSA msgID
    [(typeSA, encodeSA (offerIKE (putUint64 newSPII))), (typeNiNr, nonceOf 9),
      (typeKE, encodeKE (keOf 9))]

def informMessage (spiI spiR : UInt64) (msgID : UInt32) (chain : Chain) : Bytes :=
  sealed spiI spiR exchInformational msgID chain

def deletePayload (proto : UInt8) (spis : List UInt32) : UInt8 × Bytes :=
  (typeD, encodeD ⟨proto, spis⟩)

def updateAddresses (cookie2 : Bytes) : Chain :=
  (typeN, encodeN ⟨updateSAAddresses, []⟩) ::
    if cookie2 = [] then [] else [(typeN, encodeN ⟨cookie2Notify, cookie2⟩)]

def childDraws (now : Time) (spi : UInt32) : Env :=
  { now, nonceR := some (nonceOf 10), dhPriv := some (nonceOf 11), espSPI := some spi }

end Epdg.Scenario
