import Epdg.Gtpu.TcEncap

/-!
The components of a packet filter (TS 24.008 section 10.5.6.12) and what it means that a packet has
them. `parsePacketFilterContents` is the fold of its components into the fields of `PacketFilter`.

What a component carries stays as it came: `parsePacketFilterContents` skips over a security
parameter index, a type of service or a flow label that ends early.
-/
namespace Epdg.Gtpu

inductive Component where
  | remoteAddr (addr mask : UInt32)
  | localAddr (addr mask : UInt32)
  | protocol (p : UInt8)
  | localPort (lo hi : UInt16)
  | remotePort (lo hi : UInt16)
  | spi (value : Bytes)
  | tos (value : Bytes)
  | flowLabel (value : Bytes)
  deriving DecidableEq, Repr

inductive Component.Kind where
  | remoteAddr | localAddr | protocol | localPort | remotePort | spi | tos | flowLabel
  deriving DecidableEq, Repr

def Skb.spi (skb : Skb) : Option Bytes :=
  let ihl := (skb.packet.byteAt 0 &&& 0x0f).toNat * 4
  match skb.packet.byteAt 9 with
  | 50 => if skb.holds ihl 4 then some ((skb.packet.drop ihl).take 4) else none
  | 51 => if skb.holds (ihl + 4) 4 then some ((skb.packet.drop (ihl + 4)).take 4) else none
  | _ => none

namespace Component

def kind : Component → Kind
  | remoteAddr _ _ => .remoteAddr
  | localAddr _ _ => .localAddr
  | protocol _ => .protocol
  | localPort _ _ => .localPort
  | remotePort _ _ => .remotePort
  | spi _ => .spi
  | tos _ => .tos
  | flowLabel _ => .flowLabel

def accepts (skb : Skb) : Component → Bool
  | remoteAddr addr mask => skb.packet.uint32At 16 &&& mask = addr &&& mask
  | localAddr addr mask => skb.packet.uint32At 12 &&& mask = addr &&& mask
  | protocol p => skb.packet.byteAt 9 = p
  | localPort lo hi => skb.ports.any fun (src, _) => lo.toNat ≤ src && src ≤ hi.toNat
  | remotePort lo hi => skb.ports.any fun (_, dst) => lo.toNat ≤ dst && dst ≤ hi.toNat
  | spi value => skb.spi = some value
  | tos [value, mask] => skb.packet.byteAt 1 &&& mask = value &&& mask
  | tos _ => false
  | flowLabel _ => true

def read (comp : UInt8) (data : Bytes) : Option (Component × Bytes) :=
  match comp with
  | 0x10 => if data.length < 8 then none
            else some (.remoteAddr (Bytes.be32 data) (Bytes.be32 (data.drop 4)), data.drop 8)
  | 0x18 => if data.length < 8 then none
            else some (.localAddr (Bytes.be32 data) (Bytes.be32 (data.drop 4)), data.drop 8)
  | 0x30 => match data with
            | [] => none
            | p :: data => some (.protocol p, data)
  | 0x40 => if data.length < 2 then none
            else some (.localPort (port data) (port data), data.drop 2)
  | 0x41 => if data.length < 4 then none
            else some (.localPort (port data) (port (data.drop 2)), data.drop 4)
  | 0x50 => if data.length < 2 then none
            else some (.remotePort (port data) (port data), data.drop 2)
  | 0x51 => if data.length < 4 then none
            else some (.remotePort (port data) (port (data.drop 2)), data.drop 4)
  | 0x60 => some (.spi (data.take 4), data.drop 4)
  | 0x70 => some (.tos (data.take 2), data.drop 2)
  | 0x80 => some (.flowLabel (data.take 3), data.drop 3)
  | _ => none

def readAll : Nat → Bytes → Option (List Component)
  | _, [] => some []
  | 0, _ :: _ => none
  | fuel + 1, comp :: data => do
      let (c, data) ← read comp data
      let cs ← readAll fuel data
      some (c :: cs)

def contents (data : Bytes) : Option (List Component) := readAll data.length data

def apply (pf : PacketFilter) : Component → PacketFilter
  | remoteAddr addr mask =>
    { pf with remoteIPv4 := some (.v4 addr), remoteIPv4Mask := some mask }
  | localAddr addr mask =>
    { pf with localIPv4 := some (.v4 addr), localIPv4Mask := some mask }
  | protocol p => { pf with protocol := p, hasProtocol := true }
  | localPort lo hi => { pf with localPortLo := lo, localPortHi := hi, hasLocalPort := true }
  | remotePort lo hi => { pf with remotePortLo := lo, remotePortHi := hi, hasRemotePort := true }
  | spi _ | tos _ | flowLabel _ => pf

theorem component_eq (pf : PacketFilter) (comp : UInt8) (data : Bytes) :
    pf.component comp data = (read comp data).map fun r => (r.1.apply pf, r.2) := by
  fun_cases read comp data
  all_goals simp_all [PacketFilter.component, apply]

theorem parseComponents_eq (fuel : Nat) (pf : PacketFilter) (data : Bytes) :
    parseComponents fuel pf data = (readAll fuel data).map (·.foldl apply pf) := by
  induction fuel generalizing pf data with
  | zero => cases data <;> rfl
  | succ fuel ih =>
    cases data with
    | nil => rfl
    | cons comp data =>
      simp only [parseComponents, readAll, component_eq]
      cases hread : read comp data with
      | none => rfl
      | some r =>
        simp only [Option.map_some, Option.bind_eq_bind, Option.bind_some, ih]
        cases readAll fuel r.2 <;> rfl

theorem parsePacketFilterContents_eq (pf : PacketFilter) (data : Bytes) :
    parsePacketFilterContents pf data = (contents data).map (·.foldl apply pf) :=
  parseComponents_eq data.length pf data

end Component
end Epdg.Gtpu
