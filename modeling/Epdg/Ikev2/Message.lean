import Epdg.Net

/-!
IKEv2 messages as the handlers see them after decoding.

Decoding is done by a library outside the repository and is a parameter, `Codec`.
A decoder that panics is turned into an error by `safePayloadUnmarshal`, so every
payload decoder is a partial function. Numbers are those of RFC 7296, RFC 4555 and
the IANA registry.
-/
namespace Epdg.Ikev2

structure IKEHeader where
  initiatorSPI : UInt64
  responderSPI : UInt64
  nextPayload : UInt8
  exchangeType : UInt8
  flags : UInt8
  messageID : UInt32
  deriving DecidableEq, Repr

namespace IKEHeader

def initiatorBit (h : IKEHeader) : Bool := h.flags &&& 0x08 ≠ 0

def responseBit (h : IKEHeader) : Bool := h.flags &&& 0x20 ≠ 0

end IKEHeader

def ikeHeaderLen : Nat := 28

def exchIKESAInit : UInt8 := 34
def exchIKEAuth : UInt8 := 35
def exchCreateChildSA : UInt8 := 36
def exchInformational : UInt8 := 37

def typeSA : UInt8 := 33
def typeKE : UInt8 := 34
def typeIDi : UInt8 := 35
def typeIDr : UInt8 := 36
def typeAUTH : UInt8 := 39
def typeNiNr : UInt8 := 40
def typeN : UInt8 := 41
def typeD : UInt8 := 42
def typeTSi : UInt8 := 44
def typeTSr : UInt8 := 45
def typeCP : UInt8 := 47
def typeEAP : UInt8 := 48

def protoIKE : UInt8 := 1
def protoESP : UInt8 := 3

def invalidSyntax : UInt16 := 7
def noProposalChosen : UInt16 := 14
def invalidKEPayload : UInt16 := 17
def authenticationFailed : UInt16 := 24
def temporaryFailure : UInt16 := 43
def natDetectionSourceIP : UInt16 := 16388
def natDetectionDestinationIP : UInt16 := 16389
def cookieNotify : UInt16 := 16390
def mobikeSupported : UInt16 := 16396
def updateSAAddresses : UInt16 := 16400
def cookie2Notify : UInt16 := 16401

def idFQDN : UInt8 := 2
def idRFC822Addr : UInt8 := 3
def idKeyID : UInt8 := 11

def cfgRequest : UInt8 := 1
def internalIP4Address : UInt16 := 1
def internalIP4DNS : UInt16 := 3
def internalIP6DNS : UInt16 := 10
def internalIP4PCSCF : UInt16 := 20
def internalIP6PCSCF : UInt16 := 21

def attributeTypeKeyLength : UInt16 := 14

def esnDisable : UInt16 := 0

def authMethodRSA : UInt8 := 1
def authMethodSharedKey : UInt8 := 2

structure Transform where
  transformID : UInt16
  attributePresent : Bool := false
  attributeType : UInt16 := 0
  attributeValue : UInt16 := 0
  deriving DecidableEq, Repr

structure Proposal where
  proposalNumber : UInt8
  protocolID : UInt8
  spi : Bytes
  encryptionAlgorithm : List Transform := []
  pseudorandomFunction : List Transform := []
  integrityAlgorithm : List Transform := []
  diffieHellmanGroup : List Transform := []
  extendedSequenceNumbers : List Transform := []
  deriving DecidableEq, Repr

abbrev SecurityAssociation := List Proposal

structure KeyExchange where
  diffieHellmanGroup : UInt16
  keyExchangeData : Bytes
  deriving DecidableEq, Repr

structure Notification where
  notifyMessageType : UInt16
  notificationData : Bytes
  deriving DecidableEq, Repr

structure Identification where
  idType : UInt8
  idData : Bytes
  deriving DecidableEq, Repr

structure CfgAttribute where
  type : UInt16
  value : Bytes
  deriving DecidableEq, Repr

structure Configuration where
  configurationType : UInt8
  attributes : List CfgAttribute
  deriving DecidableEq, Repr

structure DeletePayload where
  protocolID : UInt8
  spis : List UInt32
  deriving DecidableEq, Repr

inductive InitPayload where
  | sa (p : SecurityAssociation)
  | ke (p : KeyExchange)
  | nonce (data : Bytes)
  | notify (n : Notification)
  | other
  deriving DecidableEq, Repr

structure Codec where
  parseHeader : Bytes → Option IKEHeader
  decodePayload : IKEHeader → Bytes → Option (List InitPayload)
  unmarshalID : Bytes → Option Identification
  unmarshalAUTH : Bytes → Option Bytes
  unmarshalSA : Bytes → Option SecurityAssociation
  unmarshalTS : Bytes → Option Unit
  unmarshalCP : Bytes → Option Configuration
  unmarshalN : Bytes → Option Notification
  unmarshalKE : Bytes → Option KeyExchange
  unmarshalNonce : Bytes → Option Bytes
  unmarshalD : Bytes → Option DeletePayload
  /-- Encoding of an IKE_SA_INIT response from SPIs, message id and payloads. -/
  encodeInit : UInt64 → UInt64 → UInt32 → SecurityAssociation → KeyExchange → Bytes →
    List Notification → Option Bytes

inductive OutPayload where
  | notify (type : UInt16) (data : Bytes)
  | idr (idType : UInt8) (data : Bytes)
  | cert (der : Bytes)
  | auth (method : UInt8) (data : Bytes)
  | eap (data : Bytes)
  | sa (p : Proposal)
  | ke (p : KeyExchange)
  | nonce (data : Bytes)
  | ts (paa : Option IP)
  | cp (attributes : List (UInt16 × IP))
  deriving DecidableEq, Repr

inductive Outgoing where
  | initResponse (raw : Bytes)
  | initNotify (spiI : UInt64) (msgID : UInt32) (type : UInt16) (data : Bytes)
  | response (spiI spiR : UInt64) (exch : UInt8) (msgID : UInt32) (inner : List OutPayload)
  | request (spiI spiR : UInt64) (exch : UInt8) (msgID : UInt32)
  deriving DecidableEq, Repr

end Epdg.Ikev2
