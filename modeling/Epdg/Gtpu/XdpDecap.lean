import Epdg.Gtpu.KernelMaps

/-!
The XDP program of the downlink (`internal/gtpu/bpf/xdp_gtpu_decap.c` with `parsers.h` and
`gtp_utils.h`). A frame is a byte string, and the parsers work on offsets into it.

`bpf_xdp_adjust_head` refuses only to leave less than an Ethernet header, which was checked before.
The counters are not modelled.
-/
namespace Epdg.Gtpu

structure XdpMaps where
  localIP : UInt32
  validatePeer : Bool
  teidMap : Table UInt32 TeidEntry

inductive XdpAction where
  | drop
  | pass
  | decap (frame : Bytes)
  deriving DecidableEq, Repr

def ethHeaderLen : Nat := 14
def ip4HeaderLen : Nat := 20
def udpHeaderLen : Nat := 8
def gtpuHeaderLen : Nat := 8

def gtpUDPPort : Nat := 2152

def ethPIP : Nat := 0x0800

def ipprotoUDP : UInt8 := 17

def gtpuGPDU : UInt8 := 255

def parseEthernet (f : Bytes) : Option Nat :=
  if f.length < ethHeaderLen then none else some (f.uint16At 12)

def parseIp4 (f : Bytes) (off : Nat) : Option (UInt8 × Nat) :=
  if f.length < off + ip4HeaderLen then none
  else some (f.byteAt (off + 9), off + (f.byteAt off &&& 0x0f).toNat * 4)

def parseUdp (f : Bytes) (off : Nat) : Option (Nat × Nat) :=
  if f.length < off + udpHeaderLen then none
  else some (f.uint16At (off + 2), off + udpHeaderLen)

def gtpExtLen (f : Bytes) (off : Nat) : Nat := if f.byteAt off &&& 0x07 ≠ 0 then 4 else 0

def parseGtp (f : Bytes) (off : Nat) : Option (UInt8 × Nat) :=
  if f.length < off + gtpuHeaderLen then none
  else some (f.byteAt (off + 1), off + gtpuHeaderLen + gtpExtLen f off)

def guessEthProtocol (b : UInt8) : Option Bytes :=
  match b >>> 4 with
  | 4 => some [0x08, 0x00]
  | 6 => some [0x86, 0xdd]
  | _ => none

def removeGtpHeader (f : Bytes) (gtp : Nat) : Option Bytes :=
  let encap := ip4HeaderLen + udpHeaderLen + gtpuHeaderLen + gtpExtLen f gtp
  if f.length < encap + ethHeaderLen + 1 then none
  else
    (guessEthProtocol (f.byteAt (encap + ethHeaderLen))).map fun proto =>
      f.take 12 ++ proto ++ f.drop (encap + ethHeaderLen)

structure GPdu where
  gtp : Nat
  inner : Nat
  deriving DecidableEq, Repr

def parseGPdu (x : XdpMaps) (f : Bytes) : Option GPdu := do
  let ethType ← parseEthernet f
  if ethType ≠ ethPIP then none
  let (protocol, l4) ← parseIp4 f ethHeaderLen
  if protocol ≠ ipprotoUDP then none
  if f.uint32At (ethHeaderLen + 16) ≠ x.localIP then none
  let (port, gtp) ← parseUdp f l4
  if port ≠ gtpUDPPort then none
  let (type, inner) ← parseGtp f gtp
  if type ≠ gtpuGPDU then none
  some { gtp, inner }

def GPdu.teid (p : GPdu) (f : Bytes) : UInt32 := f.uint32At (p.gtp + 4)

def peerMismatch (x : XdpMaps) (f : Bytes) (entry : TeidEntry) : Bool :=
  x.validatePeer && entry.pgwAddr ≠ 0 && f.uint32At (ethHeaderLen + 12) ≠ entry.pgwAddr

def gtpuDecapFunc (x : XdpMaps) (f : Bytes) : XdpAction :=
  match parseGPdu x f with
  | none => .pass
  | some p =>
    match x.teidMap.lookup (p.teid f) with
    | none => .pass
    | some entry =>
      if peerMismatch x f entry then .drop
      else if f.length < p.inner + ip4HeaderLen then .pass
      else if f.uint32At (p.inner + 16) ≠ entry.paa then .drop
      else
        match removeGtpHeader f p.gtp with
        | none => .pass
        | some frame => .decap frame

end Epdg.Gtpu
