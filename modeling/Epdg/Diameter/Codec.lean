import Epdg.Diameter.Message

/-!
Diameter messages on the wire (`internal/diameter/message.go`): `Message.Encode`,
`AVP.Encode` and `DecodeMessage`.
-/
namespace Epdg.Diameter
open Bytes

def flagRequest : UInt8 := 0x80
def flagProxiable : UInt8 := 0x40
def flagMandatory : UInt8 := 0x40
def version : UInt8 := 1
def headerLen : Nat := 20
def maxMessageLen : Nat := 2 ^ 20

def commandDWR : UInt32 := 280
def avpOriginHost : UInt32 := 264
def avpOriginRealm : UInt32 := 296

structure Message where
  flags : UInt8
  commandCode : UInt32
  appID : UInt32
  hopByHop : UInt32
  endToEnd : UInt32
  avps : List AVP
  deriving DecidableEq, Repr

def Message.isRequest (m : Message) : Bool := m.flags &&& flagRequest ≠ 0

def put24 (v : UInt32) : Bytes := [(v >>> 16).toUInt8, (v >>> 8).toUInt8, v.toUInt8]

def read24 (b0 b1 b2 : UInt8) : UInt32 := (be24 b0 b1 b2).toUInt32

def AVP.headerSize (a : AVP) : Nat := if a.vendorID ≠ 0 then 12 else 8

def utf8AVP (code vendor : UInt32) (value : Bytes) : AVP :=
  { code, vendorID := vendor, flags := flagMandatory, data := value }

def AVP.length (a : AVP) : Nat := a.headerSize + a.data.length

def AVP.encode (a : AVP) : Bytes :=
  let flags := if a.vendorID ≠ 0 then a.flags ||| flagVendorAVP else a.flags
  putUint32 a.code ++ [flags] ++ put24 a.length.toUInt32 ++
    (if a.vendorID ≠ 0 then putUint32 a.vendorID else []) ++ a.data ++
    List.replicate (pad4 a.length - a.length) 0

def Message.encode (m : Message) : Bytes :=
  let payload := m.avps.flatMap AVP.encode
  let totalLen := headerLen + payload.length
  [version] ++ put24 totalLen.toUInt32 ++ [m.flags] ++ put24 m.commandCode ++
    putUint32 m.appID ++ putUint32 m.hopByHop ++ putUint32 m.endToEnd ++ payload

def decodeFull : Bytes → Option Message
  | _ :: _ :: _ :: _ :: flags :: c0 :: c1 :: c2 :: rest =>
    if rest.length < 12 then none
    else
      (decodeAVPs (rest.drop 12)).map fun avps =>
        { flags, commandCode := read24 c0 c1 c2, appID := be32 rest,
          hopByHop := be32 (rest.drop 4), endToEnd := be32 (rest.drop 8), avps }
  | _ => none

def decodeMessage (r : Bytes) : Option (Message × Bytes) :=
  match r with
  | ver :: l0 :: l1 :: l2 :: _ =>
    let length := be24 l0 l1 l2
    if ver ≠ version then none
    else if length < headerLen then none
    else if length > maxMessageLen then none
    else if r.length < length then none
    else (decodeFull (r.take length)).map (·, r.drop length)
  | _ => none

end Epdg.Diameter
