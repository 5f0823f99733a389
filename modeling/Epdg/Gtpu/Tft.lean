import Epdg.Net

/-!
Traffic flow templates (`ParseTFT` and `parsePacketFilterContents` in
`internal/gtpu/dataplane.go`).
-/
namespace Epdg.Gtpu

structure PacketFilter where
  id : UInt8
  precedence : UInt8
  direction : UInt8
  remoteIPv4 : Option IP := none
  remoteIPv4Mask : Option UInt32 := none
  localIPv4 : Option IP := none
  localIPv4Mask : Option UInt32 := none
  protocol : UInt8 := 0
  hasProtocol : Bool := false
  localPortLo : UInt16 := 0
  localPortHi : UInt16 := 0
  hasLocalPort : Bool := false
  remotePortLo : UInt16 := 0
  remotePortHi : UInt16 := 0
  hasRemotePort : Bool := false
  deriving DecidableEq, Repr

structure TFT where
  filters : List PacketFilter := []
  deriving DecidableEq, Repr

def port (data : Bytes) : UInt16 := (Bytes.beNat (data.take 2)).toUInt16

def PacketFilter.component (pf : PacketFilter) (comp : UInt8) (data : Bytes) :
    Option (PacketFilter × Bytes) :=
  match comp with
  | 0x10 =>
    if data.length < 8 then none
    else some ({ pf with remoteIPv4 := some (.v4 (Bytes.be32 data))
                         remoteIPv4Mask := some (Bytes.be32 (data.drop 4)) }, data.drop 8)
  | 0x18 =>
    if data.length < 8 then none
    else some ({ pf with localIPv4 := some (.v4 (Bytes.be32 data))
                         localIPv4Mask := some (Bytes.be32 (data.drop 4)) }, data.drop 8)
  | 0x30 =>
    match data with
    | [] => none
    | p :: data => some ({ pf with protocol := p, hasProtocol := true }, data)
  | 0x40 =>
    if data.length < 2 then none
    else some ({ pf with localPortLo := port data, localPortHi := port data
                         hasLocalPort := true }, data.drop 2)
  | 0x41 =>
    if data.length < 4 then none
    else some ({ pf with localPortLo := port data, localPortHi := port (data.drop 2)
                         hasLocalPort := true }, data.drop 4)
  | 0x50 =>
    if data.length < 2 then none
    else some ({ pf with remotePortLo := port data, remotePortHi := port data
                         hasRemotePort := true }, data.drop 2)
  | 0x51 =>
    if data.length < 4 then none
    else some ({ pf with remotePortLo := port data, remotePortHi := port (data.drop 2)
                         hasRemotePort := true }, data.drop 4)
  | 0x60 => some (pf, data.drop 4)
  | 0x70 => some (pf, data.drop 2)
  | 0x80 => some (pf, data.drop 3)
  | _ => none

def parseComponents : Nat → PacketFilter → Bytes → Option PacketFilter
  | _, pf, [] => some pf
  | 0, _, _ :: _ => none
  | fuel + 1, pf, comp :: data => do
      let (pf, data) ← pf.component comp data
      parseComponents fuel pf data

def parsePacketFilterContents (pf : PacketFilter) (data : Bytes) : Option PacketFilter :=
  parseComponents data.length pf data

def parseFilters : Nat → Bytes → Option (List PacketFilter)
  | 0, _ => some []
  | n + 1, header :: precedence :: contentLen :: raw => do
      if raw.length < contentLen.toNat then none
      let pf ← parsePacketFilterContents
        { id := header &&& 0x0f, precedence, direction := (header >>> 4) &&& 0x03 }
        (raw.take contentLen.toNat)
      let filters ← parseFilters n (raw.drop contentLen.toNat)
      some (pf :: filters)
  | _ + 1, _ => none

def parseTFT : Bytes → Option (Option TFT)
  | [] => none
  | b :: raw =>
    match b >>> 5 with
    | 1 | 3 | 4 => (parseFilters (b &&& 0x0f).toNat raw).map fun filters => some { filters }
    | 2 | 5 | 6 => some (some {})
    | _ => some none

end Epdg.Gtpu
