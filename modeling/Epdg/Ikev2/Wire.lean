import Epdg.Ikev2.Crypto
import Epdg.Ikev2.Message

/-!
The IKEv2 wire format, executable: a `Codec` on which runs can be evaluated, and the
encoders that build the messages of a UE.

Layouts are those of RFC 7296, section 3. Only what the handlers look at is decoded:
of traffic selectors nothing, of attributes the key length.
-/
namespace Epdg.Ikev2.Wire
open Bytes

abbrev Chain := List (UInt8 × Bytes)

def Chain.first : Chain → UInt8
  | [] => 0
  | (type, _) :: _ => type

def encodeChain : Chain → Bytes
  | [] => []
  | (_, body) :: rest =>
    [Chain.first rest, 0] ++ putUint16 (body.length + 4).toUInt16 ++ body ++ encodeChain rest

def decodeChain : Nat → UInt8 → Bytes → Option Chain
  | _, 0, _ => some []
  | 0, _, _ => none
  | fuel + 1, type, b =>
    match b with
    | next :: _ :: l0 :: l1 :: _ =>
      let len := be16 l0 l1
      if len < 4 ∨ b.length < len then none
      else (decodeChain fuel next (b.drop len)).map ((type, (b.take len).drop 4) :: ·)
    | _ => none

def headerBytes (h : IKEHeader) (length : Nat) : Bytes :=
  putUint64 h.initiatorSPI ++ putUint64 h.responderSPI ++
    [h.nextPayload, 0x20, h.exchangeType, h.flags] ++ putUint32 h.messageID ++
    putUint32 length.toUInt32

def message (h : IKEHeader) (body : Bytes) : Bytes :=
  headerBytes h (ikeHeaderLen + body.length) ++ body

def parseHeader (b : Bytes) : Option IKEHeader :=
  if b.length < ikeHeaderLen ∨ (be32 (b.drop 24)).toNat ≠ b.length then none
  else
    some
      { initiatorSPI := be64 b
        responderSPI := be64 (b.drop 8)
        nextPayload := b.getD 16 0
        exchangeType := b.getD 18 0
        flags := b.getD 19 0
        messageID := be32 (b.drop 20) }

def encodeTransform (last : Bool) (type : UInt8) (t : Transform) : Bytes :=
  let attr :=
    if t.attributePresent then putUint16 (0x8000 ||| t.attributeType) ++ putUint16 t.attributeValue
    else []
  [if last then 0 else 3, 0] ++ putUint16 (8 + attr.length).toUInt16 ++ [type, 0] ++
    putUint16 t.transformID ++ attr

def encodeTransforms : List (UInt8 × Transform) → Bytes
  | [] => []
  | (type, t) :: rest => encodeTransform rest.isEmpty type t ++ encodeTransforms rest

def Proposal.transforms (p : Proposal) : List (UInt8 × Transform) :=
  p.encryptionAlgorithm.map (1, ·) ++ p.pseudorandomFunction.map (2, ·) ++
    p.integrityAlgorithm.map (3, ·) ++ p.diffieHellmanGroup.map (4, ·) ++
    p.extendedSequenceNumbers.map (5, ·)

def encodeSA : SecurityAssociation → Bytes
  | [] => []
  | p :: rest =>
    let ts := Proposal.transforms p
    let body := [p.proposalNumber, p.protocolID, p.spi.length.toUInt8, ts.length.toUInt8] ++
      p.spi ++ encodeTransforms ts
    [if rest.isEmpty then 0 else 2, 0] ++ putUint16 (4 + body.length).toUInt16 ++ body ++
      encodeSA rest

def decodeTransforms : Nat → Bytes → Proposal → Option Proposal
  | _, [], p => some p
  | 0, _ :: _, _ => none
  | fuel + 1, b, p =>
    match b with
    | _ :: _ :: l0 :: l1 :: type :: _ :: i0 :: i1 :: _ =>
      let len := be16 l0 l1
      if len < 8 ∨ b.length < len then none
      else
        let id := (be16 i0 i1).toUInt16
        let t : Transform :=
          match (b.take len).drop 8 with
          | a0 :: a1 :: v0 :: v1 :: _ =>
            ⟨id, true, (be16 (a0 &&& 0x7f) a1).toUInt16, (be16 v0 v1).toUInt16⟩
          | _ => { transformID := id }
        let p :=
          if type = 1 then { p with encryptionAlgorithm := p.encryptionAlgorithm ++ [t] }
          else if type = 2 then
            { p with pseudorandomFunction := p.pseudorandomFunction ++ [t] }
          else if type = 3 then
            { p with integrityAlgorithm := p.integrityAlgorithm ++ [t] }
          else if type = 4 then
            { p with diffieHellmanGroup := p.diffieHellmanGroup ++ [t] }
          else if type = 5 then
            { p with extendedSequenceNumbers := p.extendedSequenceNumbers ++ [t] }
          else p
        decodeTransforms fuel (b.drop len) p
    | _ => none

def decodeSA : Nat → Bytes → Option SecurityAssociation
  | _, [] => some []
  | 0, _ :: _ => none
  | fuel + 1, b =>
    match b with
    | _ :: _ :: l0 :: l1 :: num :: proto :: spiSize :: _ :: _ =>
      let len := be16 l0 l1
      if len < 8 + spiSize.toNat ∨ b.length < len then none
      else
        let body := (b.take len).drop 8
        let p : Proposal :=
          { proposalNumber := num, protocolID := proto, spi := body.take spiSize.toNat }
        match decodeTransforms body.length (body.drop spiSize.toNat) p with
        | none => none
        | some p => (decodeSA fuel (b.drop len)).map (p :: ·)
    | _ => none

def encodeKE (k : KeyExchange) : Bytes :=
  putUint16 k.diffieHellmanGroup ++ [0, 0] ++ k.keyExchangeData

def decodeKE : Bytes → Option KeyExchange
  | g0 :: g1 :: _ :: _ :: data => some ⟨(be16 g0 g1).toUInt16, data⟩
  | _ => none

def encodeN (n : Notification) : Bytes :=
  [0, 0] ++ putUint16 n.notifyMessageType ++ n.notificationData

def decodeN (b : Bytes) : Option Notification :=
  match b with
  | _ :: spiSize :: t0 :: t1 :: rest =>
    if rest.length < spiSize.toNat then none
    else some ⟨(be16 t0 t1).toUInt16, rest.drop spiSize.toNat⟩
  | _ => none

def encodeTagged (tag : UInt8) (data : Bytes) : Bytes := [tag, 0, 0, 0] ++ data

def decodeTagged : Bytes → Option (UInt8 × Bytes)
  | tag :: _ :: _ :: _ :: data => some (tag, data)
  | _ => none

def decodeAttributes : Nat → Bytes → Option (List CfgAttribute)
  | _, [] => some []
  | 0, _ :: _ => none
  | fuel + 1, b =>
    match b with
    | t0 :: t1 :: l0 :: l1 :: rest =>
      let len := be16 l0 l1
      if rest.length < len then none
      else
        (decodeAttributes fuel (rest.drop len)).map
          (⟨(be16 t0 t1).toUInt16, rest.take len⟩ :: ·)
    | _ => none

def decodeCP (b : Bytes) : Option Configuration :=
  (decodeTagged b).bind fun (type, data) =>
    (decodeAttributes data.length data).map fun attrs => ⟨type, attrs⟩

def encodeD (d : DeletePayload) : Bytes :=
  [d.protocolID, if d.protocolID = protoESP then 4 else 0] ++
    putUint16 d.spis.length.toUInt16 ++ d.spis.flatMap putUint32

def words : Nat → Bytes → List UInt32
  | 0, _ => []
  | n + 1, b => be32 b :: words n (b.drop 4)

def decodeD : Bytes → Option DeletePayload
  | proto :: spiSize :: n0 :: n1 :: rest =>
    let n := be16 n0 n1
    if rest.length ≠ spiSize.toNat * n then none
    else some ⟨proto, if spiSize = 4 then words n rest else []⟩
  | _ => none

def decodeInit (h : IKEHeader) (b : Bytes) : Option (List InitPayload) :=
  (decodeChain b.length h.nextPayload b).bind fun chain =>
    chain.mapM fun (type, body) =>
      if type = typeSA then (decodeSA body.length body).map .sa
      else if type = typeKE then (decodeKE body).map .ke
      else if type = typeNiNr then some (.nonce body)
      else if type = typeN then (decodeN body).map .notify
      else some .other

def encodeInit (spiI spiR : UInt64) (msgID : UInt32) (sa : SecurityAssociation)
    (ke : KeyExchange) (nonce : Bytes) (notifies : List Notification) : Bytes :=
  let chain : Chain :=
    [(typeSA, encodeSA sa), (typeKE, encodeKE ke), (typeNiNr, nonce)] ++
      notifies.map fun n => (typeN, encodeN n)
  message ⟨spiI, spiR, chain.first, exchIKESAInit, 0x20, msgID⟩ (encodeChain chain)

def codec : Codec where
  parseHeader := parseHeader
  decodePayload := decodeInit
  unmarshalID b := (decodeTagged b).map fun (type, data) => ⟨type, data⟩
  unmarshalAUTH b := (decodeTagged b).map Prod.snd
  unmarshalSA b := decodeSA b.length b
  unmarshalTS _ := some ()
  unmarshalCP := decodeCP
  unmarshalN := decodeN
  unmarshalKE := decodeKE
  unmarshalNonce := some
  unmarshalD := decodeD
  encodeInit spiI spiR msgID sa ke nonce notifies :=
    some (encodeInit spiI spiR msgID sa ke nonce notifies)

end Epdg.Ikev2.Wire
