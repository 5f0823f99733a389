import Epdg.Ikev2.Crypto
import Epdg.Ikev2.Message

/-!
Proposal negotiation (`internal/ikev2/proposal.go`, and `selectAndExtractESP`,
`buildESPSAResponse` and `childAlgNames` of `auth.go`).
-/
namespace Epdg.Ikev2
open Bytes

structure NegotiatedProposal where
  dh : DhGroup
  encr : EncrAlg
  integ : Option IntegAlg
  prf : PrfAlg
  deriving DecidableEq, Repr

structure ChildProposal where
  encr : EncrAlg
  integ : Option IntegAlg
  dh : Option DhGroup
  deriving DecidableEq, Repr

def ChildProposal.integKeyLen (c : ChildProposal) : Nat :=
  (c.integ.map IntegAlg.keyLen).getD 0

def supportedIKEProposals : List NegotiatedProposal :=
  [⟨.ecp384, .aesGcm16_256, none, .sha256⟩,
   ⟨.ecp256, .aesGcm16_256, none, .sha256⟩,
   ⟨.modp2048, .aesGcm16_256, none, .sha256⟩,
   ⟨.ecp384, .aesGcm16_128, none, .sha256⟩,
   ⟨.ecp256, .aesGcm16_128, none, .sha256⟩,
   ⟨.modp2048, .aesGcm16_128, none, .sha256⟩,
   ⟨.ecp384, .aesCbc256, some .sha256_128, .sha256⟩,
   ⟨.ecp256, .aesCbc256, some .sha256_128, .sha256⟩,
   ⟨.ecp384, .aesCbc256, some .sha512_256, .sha512⟩,
   ⟨.ecp256, .aesCbc256, some .sha512_256, .sha512⟩,
   ⟨.modp2048, .aesCbc256, some .sha256_128, .sha256⟩,
   ⟨.modp3072, .aesCbc256, some .sha256_128, .sha256⟩,
   ⟨.modp2048, .aesCbc256, some .sha512_256, .sha512⟩,
   ⟨.modp3072, .aesCbc256, some .sha512_256, .sha512⟩,
   ⟨.modp2048, .aesCbc128, some .sha1_96, .sha1⟩]

def supportedESPProposals : List ChildProposal :=
  [⟨.aesGcm16_256, none, some .ecp384⟩,
   ⟨.aesGcm16_256, none, some .ecp256⟩,
   ⟨.aesGcm16_256, none, some .modp2048⟩,
   ⟨.aesGcm16_128, none, some .ecp384⟩,
   ⟨.aesGcm16_128, none, some .ecp256⟩,
   ⟨.aesGcm16_128, none, some .modp2048⟩,
   ⟨.aesGcm16_256, none, none⟩,
   ⟨.aesGcm16_128, none, none⟩,
   ⟨.aesCbc256, some .sha256_128, some .ecp384⟩,
   ⟨.aesCbc256, some .sha256_128, some .ecp256⟩,
   ⟨.aesCbc256, some .sha512_256, some .ecp384⟩,
   ⟨.aesCbc256, some .sha512_256, some .ecp256⟩,
   ⟨.aesCbc256, some .sha256_128, some .modp2048⟩,
   ⟨.aesCbc256, some .sha256_128, some .modp3072⟩,
   ⟨.aesCbc256, some .sha512_256, some .modp2048⟩,
   ⟨.aesCbc256, some .sha512_256, some .modp3072⟩,
   ⟨.aesCbc128, some .sha1_96, some .modp2048⟩,
   ⟨.aesCbc256, some .sha256_128, none⟩,
   ⟨.aesCbc256, some .sha512_256, none⟩,
   ⟨.aesCbc128, some .sha1_96, none⟩]

def hasTransform (ts : List Transform) (id : UInt16) : Bool :=
  ts.any fun t => t.transformID = id

def hasDH (p : Proposal) (id : UInt16) : Bool := hasTransform p.diffieHellmanGroup id

def hasInteg (p : Proposal) (id : UInt16) : Bool := hasTransform p.integrityAlgorithm id

def hasPRF (p : Proposal) (id : UInt16) : Bool := hasTransform p.pseudorandomFunction id

def hasEncr (p : Proposal) (id : UInt16) (keyBits : Nat) : Bool :=
  p.encryptionAlgorithm.any fun t =>
    t.transformID = id && t.attributePresent && t.attributeType = attributeTypeKeyLength &&
      t.attributeValue.toNat = keyBits

def integOffered (p : Proposal) : Option IntegAlg → Bool
  | none => p.integrityAlgorithm.isEmpty
  | some a => hasInteg p a.transformID

def matchIKEProposal (p : Proposal) : Option NegotiatedProposal :=
  supportedIKEProposals.find? fun s =>
    hasDH p s.dh.transformID && hasEncr p s.encr.transformID s.encr.keyBits &&
      integOffered p s.integ && hasPRF p s.prf.transformID

def selectIKEProposal : SecurityAssociation → Option (NegotiatedProposal × UInt8)
  | [] => none
  | p :: rest =>
    if p.protocolID ≠ protoIKE then selectIKEProposal rest
    else
      match matchIKEProposal p with
      | some s => some (s, p.proposalNumber)
      | none => selectIKEProposal rest

def matchESPProposal (p : Proposal) : Option ChildProposal :=
  supportedESPProposals.find? fun s =>
    hasEncr p s.encr.transformID s.encr.keyBits && integOffered p s.integ &&
      (match s.dh with
        | some g => hasDH p g.transformID
        | none => true)

def selectESPProposal : SecurityAssociation → Option (ChildProposal × UInt8)
  | [] => none
  | p :: rest =>
    if p.protocolID ≠ protoESP then selectESPProposal rest
    else
      match matchESPProposal p with
      | some s => some (s, p.proposalNumber)
      | none => selectESPProposal rest

def selectAndExtractESP (sa : SecurityAssociation) :
    Option (ChildProposal × UInt8 × UInt32) :=
  match selectESPProposal sa with
  | none => none
  | some (prop, propNum) =>
    match sa.find? fun p => p.proposalNumber = propNum && p.spi.length = 4 with
    | some p => some (prop, propNum, be32 p.spi)
    | none => some (prop, propNum, 0)

def extractIKESPI (sa : SecurityAssociation) (propNum : UInt8) : UInt64 :=
  match sa.find? fun p =>
      p.proposalNumber = propNum && p.protocolID = protoIKE && p.spi.length = 8 with
  | some p => be64 p.spi
  | none => 0

def childAlgNames (prop : ChildProposal) : String × String × Nat :=
  if prop.encr.isAEAD then ("rfc4106(gcm(aes))", "", 0)
  else
    match prop.integ with
    | some .sha1_96 => ("cbc(aes)", "hmac(sha1)", 96)
    | some .sha512_256 => ("cbc(aes)", "hmac(sha512)", 256)
    | _ => ("cbc(aes)", "hmac(sha256)", 128)

def encrTransform (e : EncrAlg) : Transform :=
  ⟨e.transformID, true, attributeTypeKeyLength, e.keyBits.toUInt16⟩

def buildIKESAPayload (prop : NegotiatedProposal) (propNum : UInt8) (spi : Bytes) : Proposal :=
  { proposalNumber := propNum
    protocolID := protoIKE
    spi
    diffieHellmanGroup := [{ transformID := prop.dh.transformID }]
    encryptionAlgorithm := [encrTransform prop.encr]
    integrityAlgorithm :=
      (prop.integ.map fun a => { transformID := a.transformID }).toList
    pseudorandomFunction := [{ transformID := prop.prf.transformID }] }

def buildESPSAResponse (prop : ChildProposal) (propNum : UInt8) (localSPI : UInt32) : Proposal :=
  { proposalNumber := propNum
    protocolID := protoESP
    spi := putUint32 localSPI
    encryptionAlgorithm := [encrTransform prop.encr]
    integrityAlgorithm :=
      (prop.integ.map fun a => { transformID := a.transformID }).toList
    diffieHellmanGroup :=
      (prop.dh.map fun g => { transformID := g.transformID }).toList
    extendedSequenceNumbers := [{ transformID := esnDisable }] }

section
variable (P : Primitives)

structure ChildKeys where
  encrIn : Bytes
  integIn : Bytes
  encrOut : Bytes
  integOut : Bytes
  deriving DecidableEq, Repr

def childKeysFromSeed (k : IkeSAKey) (seed : Bytes) (encrKeyLen integKeyLen : Nat) :
    ChildKeys :=
  let keymat := prfPlus (prf P k.prf k.skD) seed (2 * (encrKeyLen + integKeyLen))
  match takeKeys [encrKeyLen, integKeyLen, encrKeyLen, integKeyLen] keymat with
  | [encrIn, integIn, encrOut, integOut] => { encrIn, integIn, encrOut, integOut }
  | _ => ⟨[], [], [], []⟩

def deriveChildSAKeys (k : IkeSAKey) (nonceI nonceR : Bytes) (encrKeyLen integKeyLen : Nat) :
    ChildKeys :=
  childKeysFromSeed P k (nonceI ++ nonceR) encrKeyLen integKeyLen

def deriveChildSAKeysPFS (k : IkeSAKey) (dhShared nonceI nonceR : Bytes)
    (encrKeyLen integKeyLen : Nat) : ChildKeys :=
  childKeysFromSeed P k (dhShared ++ nonceI ++ nonceR) encrKeyLen integKeyLen

def deriveIKERekeyKeys (oldKey : IkeSAKey) (newProp : NegotiatedProposal)
    (dhShared nonceI nonceR : Bytes) (newSPII newSPIR : UInt64) : IkeSAKey :=
  expandKeys P
    { dh := newProp.dh, encr := newProp.encr, integ := newProp.integ, prf := newProp.prf }
    (prf P newProp.prf oldKey.skD (dhShared ++ nonceI ++ nonceR))
    (nonceI ++ nonceR) newSPII newSPIR

end
end Epdg.Ikev2
