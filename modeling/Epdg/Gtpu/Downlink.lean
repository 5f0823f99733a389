import Epdg.Net

/-!
The GTP-U socket (`parseGTPU`, `handleDownlink` and `sendErrorIndication` in
`internal/gtpu/dataplane.go`). The counters are not modelled; the answer of the rate limiter is the
flag `allow`. The limiter and the path states are in `Epdg.Gtpu.PathStates`.
-/
namespace Epdg.Gtpu
variable {b : Bytes}

def gtpuMsgEchoRequest : UInt8 := 1
def gtpuMsgEchoResp : UInt8 := 2
def gtpuMsgErrorIndication : UInt8 := 26
def gtpuMsgTPDU : UInt8 := 255

def ieTypeTEIDDataI : UInt8 := 16
def ieTypeGTPUPeerAddr : UInt8 := 133

structure GtpuPacket where
  messageType : UInt8
  teid : UInt32
  sequence : UInt16 := 0
  payload : Bytes
  deriving DecidableEq, Repr

def skipExtensions (b : Bytes) (limit : Nat) : Nat → UInt8 → Nat → Option Nat
  | fuel, nextExt, offset =>
    if nextExt = 0 then some offset
    else
      match fuel with
      | 0 => none
      | fuel + 1 =>
        if limit < offset + 1 then none
        else
          let extLen := (b.byteAt offset).toNat * 4
          if extLen = 0 ∨ limit < offset + extLen then none
          else skipExtensions b limit fuel (b.byteAt (offset + extLen - 1)) (offset + extLen)

def parseGTPU (b : Bytes) : Option GtpuPacket := do
  if b.length < 8 then none
  let flags := b.byteAt 0
  if flags &&& 0xe0 ≠ 0x20 ∨ flags &&& 0x10 = 0 then none
  let length := b.uint16At 2
  if length > b.length - 8 then none
  let limit := 8 + length
  if flags &&& 0x07 ≠ 0 then
    if limit < 12 then none
    let offset ← skipExtensions b limit b.length (b.byteAt 11) 12
    if offset > limit then none
    some { messageType := b.byteAt 1, teid := b.uint32At 4
           sequence := (b.uint16At 8).toUInt16, payload := (b.take limit).drop offset }
  else
    some { messageType := b.byteAt 1, teid := b.uint32At 4, payload := (b.take limit).drop 8 }

theorem skipExtensions_spec {limit fuel offset n : Nat} {nextExt : UInt8}
    (h : skipExtensions b limit fuel nextExt offset = some n) :
    offset ≤ n ∧ (n = offset ↔ nextExt = 0) := by
  induction fuel generalizing nextExt offset with
  | zero =>
    rw [skipExtensions] at h
    simp_all
  | succ fuel ih =>
    rw [skipExtensions] at h
    grind

theorem parseGTPU_spec {pkt : GtpuPacket} (h : parseGTPU b = some pkt) :
    8 + b.uint16At 2 ≤ b.length ∧ pkt.messageType = b.byteAt 1 ∧ pkt.teid = b.uint32At 4 ∧
      ∃ n ≤ 8 + b.uint16At 2, pkt.payload = (b.take (8 + b.uint16At 2)).drop n ∧
        ((b.byteAt 0 &&& 0x07 = 0 ∧ n = 8) ∨
          (b.byteAt 0 &&& 0x07 ≠ 0 ∧ 12 ≤ 8 + b.uint16At 2 ∧
            skipExtensions b (8 + b.uint16At 2) b.length (b.byteAt 11) 12 = some n)) := by
  simp only [parseGTPU, Option.bind_eq_bind, Option.bind_none] at h
  split at h
  · cases h
  split at h
  · cases h
  split at h
  · cases h
  split at h
  · split at h
    · cases h
    obtain ⟨n, hn, h⟩ := Option.bind_eq_some_iff.mp h
    split at h
    · cases h
    grind
  · grind

def encodePathMessage (msgType : UInt8) (seq : UInt16) (payload : Bytes) : Option Bytes :=
  if payload.length + 4 > 0xffff then none
  else some ([0x32, msgType] ++ Bytes.putUint16 (4 + payload.length).toUInt16 ++ [0, 0, 0, 0] ++
    Bytes.putUint16 seq ++ [0, 0] ++ payload)

def respondEcho (seq : UInt16) : Option Bytes := encodePathMessage gtpuMsgEchoResp seq [14, 0, 1, 0]

def errorIndication (teid : UInt32) (localIP : IP) : Option Bytes :=
  encodePathMessage gtpuMsgErrorIndication 0
    ([ieTypeTEIDDataI] ++ Bytes.putUint32 teid ++ [ieTypeGTPUPeerAddr, 0, 4] ++ localIP.bytes)

def sendErrorIndication (allow : Bool) (localGTPU : Option IP) (teid : UInt32) : Option Bytes :=
  if teid = 0 then none
  else if !allow then none
  else (localGTPU.bind IP.to4).bind (errorIndication teid)

def handleDownlink (allow : Bool) (localGTPU : Option IP) (pkt : Bytes) : Option Bytes :=
  match parseGTPU pkt with
  | none => none
  | some parsed =>
    if parsed.messageType = gtpuMsgEchoRequest then respondEcho parsed.sequence
    else if parsed.messageType = gtpuMsgEchoResp then none
    else if parsed.messageType = gtpuMsgTPDU then
      sendErrorIndication allow localGTPU parsed.teid
    else none

end Epdg.Gtpu
