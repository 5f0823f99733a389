import Epdg.Net

/-!
Protocol configuration options (`internal/pco/pco.go`).
-/
namespace Epdg.Pco
open Bytes

def containerPCSCFIPv6 : UInt16 := 0x0001
def containerDNSIPv6 : UInt16 := 0x0003
def containerPCSCFIPv4 : UInt16 := 0x000c
def containerDNSIPv4 : UInt16 := 0x000d

structure Container where
  protocolID : UInt16 := 0
  contents : Bytes
  deriving DecidableEq, Repr

structure PCO where
  extension : Bool
  containers : List Container
  deriving DecidableEq, Repr

structure Decoded where
  extension : Bool
  containers : List Container := []
  dnsV4 : List IP := []
  dnsV6 : List IP := []
  pcscfV4 : List IP := []
  pcscfV6 : List IP := []
  unsupported : List Container := []
  deriving DecidableEq, Repr

def Decoded.pco (d : Decoded) : PCO := ⟨d.extension, d.containers⟩

def ipv4List : Bytes → List IP
  | a :: b :: c :: d :: rest => .v4 (be32 [a, b, c, d]) :: ipv4List rest
  | _ => []

def ip16 (b : Bytes) : IP :=
  if b.take 12 = List.replicate 10 0 ++ [0xff, 0xff] then .v4 (be32 (b.drop 12))
  else .v6 (be64 b) (be64 (b.drop 8))

def ipv6ListLoop : Nat → Bytes → List IP
  | 0, _ => []
  | fuel + 1, b => if b.length < 16 then [] else ip16 b :: ipv6ListLoop fuel (b.drop 16)

def ipv6List (b : Bytes) : List IP := ipv6ListLoop b.length b

def Decoded.setAside (d : Decoded) (c : Container) : Decoded :=
  { d with unsupported := d.unsupported ++ [c] }

def Decoded.decodeKnown (d : Decoded) (c : Container) : Decoded :=
  let whole (size : Nat) : Decoded := if c.contents.length % size ≠ 0 then d.setAside c else d
  if c.protocolID = containerDNSIPv4 then
    { whole 4 with dnsV4 := d.dnsV4 ++ ipv4List c.contents }
  else if c.protocolID = containerPCSCFIPv4 then
    { whole 4 with pcscfV4 := d.pcscfV4 ++ ipv4List c.contents }
  else if c.protocolID = containerDNSIPv6 then
    { whole 16 with dnsV6 := d.dnsV6 ++ ipv6List c.contents }
  else if c.protocolID = containerPCSCFIPv6 then
    { whole 16 with pcscfV6 := d.pcscfV6 ++ ipv6List c.contents }
  else d.setAside c

def decodeLoop (strict : Bool) : Nat → Decoded → Bytes → Option Decoded
  | _, d, [] => some d
  | 0, d, _ :: _ => some d
  | fuel + 1, d, id0 :: id1 :: l :: rest =>
    let id := (be16 id0 id1).toUInt16
    if rest.length < l.toNat then
      if strict then none else some (d.setAside ⟨id, rest⟩)
    else
      let c : Container := ⟨id, rest.take l.toNat⟩
      let d := { d with containers := d.containers ++ [c] }
      decodeLoop strict fuel (d.decodeKnown c) (rest.drop l.toNat)
  | _ + 1, d, rest => if strict then none else some (d.setAside { contents := rest })

def decode (payload : Bytes) (strict : Bool) : Option (Option Decoded) :=
  match payload with
  | [] => some none
  | first :: rest =>
    (decodeLoop strict rest.length { extension := first &&& 0x80 ≠ 0 } rest).bind fun d =>
      if strict && d.unsupported ≠ [] then none else some (some d)

def Container.encode (c : Container) : Bytes :=
  putUint16 c.protocolID ++ c.contents.length.toUInt8 :: c.contents

def encode (p : PCO) : Option Bytes :=
  if p.containers.any fun c => c.contents.length > 255 then none
  else some ((if p.extension then 0x80 else 0) :: p.containers.flatMap Container.encode)

def request (dnsV4 dnsV6 pcscfV4 pcscfV6 : Bool) : PCO :=
  let ask (wanted : Bool) (id : UInt16) : List Container := if wanted then [⟨id, []⟩] else []
  { extension := true
    containers := ask pcscfV6 containerPCSCFIPv6 ++ ask pcscfV4 containerPCSCFIPv4 ++
      ask dnsV6 containerDNSIPv6 ++ ask dnsV4 containerDNSIPv4 }

end Epdg.Pco
