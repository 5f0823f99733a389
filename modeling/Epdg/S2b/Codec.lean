import Epdg.Net

/-!
GTPv2-C messages and information elements (`internal/s2b/codec.go`), as far as the client
reads and writes them.
-/
namespace Epdg.S2b
open Bytes

def gtpv2VersionFlag : UInt8 := 0x40
def gtpv2TEIDFlag : UInt8 := 0x08
def minSequence : UInt32 := 0x000001
def maxSequence : UInt32 := 0xffffff

def msgEchoRequest : UInt8 := 1
def msgEchoResponse : UInt8 := 2
def msgCreateSessionReq : UInt8 := 32
def msgCreateSessionResp : UInt8 := 33
def msgDeleteSessionReq : UInt8 := 36
def msgDeleteSessionResp : UInt8 := 37
def msgCreateBearerReq : UInt8 := 95
def msgCreateBearerResp : UInt8 := 96
def msgUpdateBearerReq : UInt8 := 97
def msgUpdateBearerResp : UInt8 := 98
def msgDeleteBearerReq : UInt8 := 99
def msgDeleteBearerResp : UInt8 := 100

def ieIMSI : UInt8 := 1
def ieCause : UInt8 := 2
def ieRecovery : UInt8 := 3
def ieAPN : UInt8 := 71
def ieAMBR : UInt8 := 72
def ieEBI : UInt8 := 73
def ieIndication : UInt8 := 77
def iePCO : UInt8 := 78
def iePAA : UInt8 := 79
def ieBearerQoS : UInt8 := 80
def ieRATType : UInt8 := 82
def ieServingNetwork : UInt8 := 83
def ieTFT : UInt8 := 84
def ieFTEID : UInt8 := 87
def ieBearerContext : UInt8 := 93
def ieChargingID : UInt8 := 94
def ieSelectionMode : UInt8 := 128
def ieAPCO : UInt8 := 163

def causeReactivationRequested : UInt8 := 8
def causeAccessChangedTo3GPP : UInt8 := 10
def causeRequestAccepted : UInt8 := 16
def causeContextNotFound : UInt8 := 64
def ratTypeWLAN : UInt8 := 3
def pdnTypeIPv4 : UInt8 := 1
def ifaceS2BePDGGTPC : UInt8 := 30
def ifaceS2BePDGGTPU : UInt8 := 31
def ifaceS2BPGWGTPC : UInt8 := 32
def ifaceS2BPGWGTPU : UInt8 := 33
def defaultEBI : UInt8 := 5
def defaultBearerQCI : UInt8 := 8

structure Message where
  type : UInt8
  teid : UInt32 := 0
  hasTEID : Bool := false
  sequence : UInt32
  payload : Bytes := []
  deriving DecidableEq, Repr

structure Ie where
  type : UInt8
  inst : UInt8 := 0
  payload : Bytes
  deriving DecidableEq, Repr

def put24 (v : UInt32) : Bytes := [(v >>> 16).toUInt8, (v >>> 8).toUInt8, v.toUInt8]

def read24 (b0 b1 b2 : UInt8) : UInt32 := (be24 b0 b1 b2).toUInt32

def Message.encode (m : Message) : Option Bytes :=
  if m.sequence < minSequence ∨ m.sequence > maxSequence then none
  else
    let length := (if m.hasTEID then 8 else 4) + m.payload.length
    if length > 0xffff then none
    else
      let flags := if m.hasTEID then gtpv2VersionFlag ||| gtpv2TEIDFlag else gtpv2VersionFlag
      some ([flags, m.type] ++ putUint16 length.toUInt16 ++
        (if m.hasTEID then putUint32 m.teid else []) ++ put24 m.sequence ++ [0] ++ m.payload)

def decodeTail (type : UInt8) (teid : UInt32) (hasTEID : Bool) : Bytes → Option Message
  | s0 :: s1 :: s2 :: _ :: payload =>
    let sequence := read24 s0 s1 s2
    if sequence < minSequence ∨ sequence > maxSequence then none
    else some { type, teid, hasTEID, sequence, payload }
  | _ => none

def decodeMessage (b : Bytes) : Option Message :=
  match b with
  | flags :: type :: l0 :: l1 :: rest =>
    if b.length < 8 then none
    else if flags &&& 0xe0 ≠ gtpv2VersionFlag then none
    else if be16 l0 l1 ≠ b.length - 4 then none
    else if flags &&& gtpv2TEIDFlag ≠ 0 then
      if b.length < 12 then none else decodeTail type (be32 rest) true (rest.drop 4)
    else decodeTail type 0 false rest
  | _ => none

def Ie.encode (e : Ie) : Bytes :=
  [e.type] ++ putUint16 e.payload.length.toUInt16 ++ [e.inst &&& 0x0f] ++ e.payload

def encodeIEs (ies : List Ie) : Bytes := ies.flatMap Ie.encode

def decodeIEsLoop : Nat → Bytes → Option (List Ie)
  | _, [] => some []
  | 0, _ :: _ => none
  | fuel + 1, type :: l0 :: l1 :: inst :: rest =>
    if rest.length < be16 l0 l1 then none
    else
      (decodeIEsLoop fuel (rest.drop (be16 l0 l1))).map
        ({ type, inst := inst &&& 0x0f, payload := rest.take (be16 l0 l1) } :: ·)
  | _ + 1, _ => none

def decodeIEs (payload : Bytes) : Option (List Ie) := decodeIEsLoop payload.length payload

structure DecodedIE extends Ie where
  offset : Nat
  length : Nat
  raw : Bytes
  deriving DecidableEq, Repr

def decodeIEsWithRawLoop (payload : Bytes) : Nat → Nat → Option (List DecodedIE)
  | 0, offset => if offset < payload.length then none else some []
  | fuel + 1, offset =>
    if offset < payload.length then
      let remaining : Bytes := payload.drop offset
      if remaining.length < 4 then none
      else
        let l := remaining.uint16At 1
        let stop := offset + 4 + l
        if stop > payload.length then none
        else
          let e : DecodedIE :=
            { type := remaining.byteAt 0, inst := remaining.byteAt 3 &&& 0x0f
              payload := (remaining.take (4 + l)).drop 4, offset, length := l
              raw := (payload.take stop).drop offset }
          (decodeIEsWithRawLoop payload fuel stop).map (e :: ·)
    else some []

def decodeIEsWithRaw (payload : Bytes) : Option (List DecodedIE) :=
  decodeIEsWithRawLoop payload payload.length 0

def findIE (ies : List Ie) (type inst : UInt8) : Option Ie :=
  ies.find? fun e => e.type = type && e.inst = inst

def findIEAnyInstance (ies : List Ie) (type : UInt8) : Option Ie :=
  ies.find? fun e => e.type = type

def parseEBI (payload : Bytes) : Option UInt8 :=
  match payload with
  | [] => none
  | b :: _ => if b &&& 0x0f = 0 then none else some (b &&& 0x0f)

def firstByte (ies : List Ie) (type : UInt8) : UInt8 :=
  ((findIE ies type 0).bind fun e => e.payload.head?).getD 0

def parseCause (ies : List Ie) : UInt8 := firstByte ies ieCause

def parseRecovery (ies : List Ie) : UInt8 := firstByte ies ieRecovery

def parsePAA (ies : List Ie) : Option UInt32 :=
  match (findIE ies iePAA 0).map Ie.payload with
  | some (flags :: a) =>
    if a.length < 4 ∨ flags &&& 0x07 ≠ pdnTypeIPv4 then none else some (be32 a)
  | _ => none

def parseFTEID (e : Ie) : Option (UInt8 × UInt32 × Option IP) :=
  match e.payload with
  | flags :: rest =>
    if rest.length < 4 then none
    else
      some (flags &&& 0x3f, be32 rest,
        if flags &&& 0x80 = 0 ∨ rest.length < 8 then none else some (.v4 (be32 (rest.drop 4))))
  | [] => none

def findFTEIDByInterface (ies : List Ie) (want : UInt8) (fallback : List UInt8) :
    Option (UInt8 × UInt32 × Option IP) :=
  ((ies.filter fun e => e.type = ieFTEID).filterMap parseFTEID).find? (fun r => r.1 = want)
    |>.or (fallback.findSome? fun i => (findIE ies ieFTEID i).bind parseFTEID)

end Epdg.S2b
