import Epdg.Gtpu.Downlink
import Epdg.Properties.UplinkSelection

/-!
The lengths in the outer headers of an uplink packet, and that its payload parses to the packet.

The lengths are sums of 16-bit words. The outer one wraps around when the inner packet is within 36
bytes of the largest that IPv4 knows.
-/
namespace Epdg.Gtpu
open Bytes

theorem parseGTPU_outerGTP {inner : Bytes} {len : UInt16} (teid : UInt32)
    (hlen : len.toNat = inner.length) :
    parseGTPU (outerGTP len teid ++ inner)
      = some { messageType := gtpuMsgTPDU, teid, payload := inner } := by
  have hlength : (outerGTP len teid ++ inner).uint16At 2 = inner.length :=
    (be16_putUint16 len).trans hlen
  have htotal : (outerGTP len teid ++ inner).length = 8 + inner.length := by
    rw [List.length_append]
    rfl
  have hflags : (outerGTP len teid ++ inner).byteAt 0 = 0x30 := rfl
  have hteid : (outerGTP len teid ++ inner).uint32At 4 = teid := be32_putUint32 teid inner
  have hpayload : ((outerGTP len teid ++ inner).take (8 + inner.length)).drop 8 = inner := by
    rw [← htotal, List.take_length]
    rfl
  simp only [parseGTPU, hlength, htotal, hflags, hteid, Option.bind_eq_bind]
  rw [if_neg (by omega), if_neg (by decide), if_neg (by omega), if_neg (by decide), hpayload]
  rfl

section Encapsulated
variable (sess : UeSessionEntry) (teid : UInt32) (inner : Bytes)

theorem encapsulate_payload :
    (encapsulate sess teid inner).drop 28 = outerGTP (inner.uint16At 2).toUInt16 teid ++ inner :=
  rfl

theorem encapsulate_total :
    (encapsulate sess teid inner).uint16At 2 = (inner.uint16At 2 + 36) % 65536 := by
  refine (be16_putUint16 _).trans ?_
  simp only [UInt16.toNat_add, UInt16.reduceToNat, UInt16.toNat_ofNat']
  omega

theorem encapsulate_udp :
    (encapsulate sess teid inner).uint16At 24 = (inner.uint16At 2 + 16) % 65536 := by
  refine (be16_putUint16 _).trans ?_
  simp only [UInt16.toNat_add, UInt16.reduceToNat, UInt16.toNat_ofNat']
  omega

end Encapsulated

theorem tcGtpuEncapFunc_redirect {k : KernelMaps} {room : Bool} {skb : Skb}
    {ifindex nextHop : UInt32} {out : Bytes}
    (h : tcGtpuEncapFunc k room skb = .redirectNeigh ifindex nextHop out) :
    ∃ addr sess, uplinkSession k skb = some (addr, sess) ∧
      out = encapsulate sess (selectTEID k addr sess skb.flow) skb.packet := by
  unfold tcGtpuEncapFunc at h
  grind

/-- The outer lengths of a packet that is encapsulated are right exactly when they do not wrap
around. In any case `parseGTPU` finds the selected TEID and the packet in the UDP payload. -/
theorem uplink_lengths_iff {k : KernelMaps} {room : Bool} {skb : Skb} {ifindex nextHop : UInt32}
    {out : Bytes} (h : tcGtpuEncapFunc k room skb = .redirectNeigh ifindex nextHop out)
    (hlen : skb.packet.uint16At 2 = skb.packet.length) :
    (out.uint16At 2 = skb.packet.length + 36 ∧ out.uint16At 24 = skb.packet.length + 16 ↔
      skb.packet.length ≤ 65499) ∧
    ∃ addr sess, uplinkSession k skb = some (addr, sess) ∧
      parseGTPU (out.drop 28) = some
        { messageType := 255, teid := selectTEID k addr sess skb.flow, payload := skb.packet } := by
  obtain ⟨addr, sess, hsess, rfl⟩ := tcGtpuEncapFunc_redirect h
  have hword : skb.packet.uint16At 2 < 65536 := be16_lt _ _
  refine ⟨?_, addr, sess, hsess, ?_⟩
  · rw [encapsulate_total, encapsulate_udp, hlen]
    omega
  · rw [encapsulate_payload]
    refine parseGTPU_outerGTP _ ?_
    rw [← hlen]
    exact Nat.mod_eq_of_lt hword

section Packets

def largePacket : Skb where
  protocol := ethPIP
  packet := [0x45, 0, 0xff, 0xdc, 0, 0, 0, 0, 64, 17, 0, 0, 10, 0, 0, 1, 192, 0, 2, 9] ++
    List.replicate 65480 0

theorem length_largePacket : largePacket.packet.length = 65500 := by
  simp only [largePacket, List.length_append, List.length_replicate]
  rfl

/-- The outer length of a packet of 65500 bytes is 0. -/
theorem outer_length_wraps :
    largePacket.packet.length = 65500 ∧ largePacket.packet.uint16At 2 = 65500 ∧
    ∃ out, tcGtpuEncapFunc ueMaps true largePacket = .redirectNeigh 3 0xc0000202 out ∧
      out.uint16At 2 = 0 := by
  have hplain : largePacket.PlainFrom 0x0a000001 := by
    refine ⟨rfl, ?_, rfl, rfl⟩
    rw [length_largePacket]
    decide
  have hsess : uplinkSession ueMaps largePacket = some (0x0a000001, ueEntry) :=
    uplinkSession_eq_some_iff.mpr ⟨hplain, by decide⟩
  have hlen : largePacket.packet.uint16At 2 = 65500 := rfl
  have hrun : tcGtpuEncapFunc ueMaps true largePacket = .redirectNeigh 3 0xc0000202
      (encapsulate ueEntry (selectTEID ueMaps 0x0a000001 ueEntry largePacket.flow)
        largePacket.packet) := by
    rw [tcGtpuEncapFunc, hsess]
    rfl
  refine ⟨length_largePacket, hlen, _, hrun, ?_⟩
  rw [encapsulate_total, hlen]

theorem udpPacket_lengths :
    ∃ out, tcGtpuEncapFunc ueMaps true udpPacket = .redirectNeigh 3 0xc0000202 out ∧
      out.uint16At 2 = 64 ∧ out.uint16At 24 = 44 := by
  have hrun : tcGtpuEncapFunc ueMaps true udpPacket
      = .redirectNeigh 3 0xc0000202 (encapsulate ueEntry 0x6001 udpPacket.packet) := by
    decide +kernel
  exact ⟨_, hrun, (uplink_lengths_iff hrun (by decide)).1.mpr (by decide)⟩

end Packets
end Epdg.Gtpu
