import Epdg.Properties.ErrorIndication

/-!
Where the inner packet of a G-PDU begins.

`parseGTPU` follows the chain of extension headers. The XDP program adds one word when any of the
flags E, S and PN is set and knows no chain. It checks the inner header after the outer IP header
with its options, but what it cuts off is the length of one without options.
-/
namespace Epdg.Gtpu
variable {f frame : Bytes} {x : XdpMaps}

def payloadStart (b : Bytes) (pkt : GtpuPacket) : Nat := 8 + b.uint16At 2 - pkt.payload.length

def stripOffset (f : Bytes) (gtp : Nat) : Nat :=
  ethHeaderLen + (ip4HeaderLen + udpHeaderLen + gtpuHeaderLen + gtpExtLen f gtp)

theorem parseGTPU_start {b : Bytes} {pkt : GtpuPacket} (h : parseGTPU b = some pkt) :
    8 ≤ b.length ∧ pkt.messageType = b.byteAt 1 ∧
      (payloadStart b pkt = 8 + gtpExtLen b 0 ↔
        b.byteAt 0 &&& 0x07 = 0 ∨ b.byteAt 11 = 0) := by
  obtain ⟨hlen, hmessage, -, n, hn, hpayload, hstart⟩ := parseGTPU_spec h
  have hn' : payloadStart b pkt = n := by
    rw [payloadStart, hpayload, List.length_drop, List.length_take, Nat.min_eq_left hlen]
    omega
  refine ⟨by omega, hmessage, ?_⟩
  rw [hn', gtpExtLen]
  rcases hstart with ⟨hflags, rfl⟩ | ⟨hflags, -, hchain⟩
  · simp_all
  · rw [if_pos hflags, (skipExtensions_spec hchain).2]
    simp_all

theorem parseGPdu_spec {p : GPdu} (h : parseGPdu x f = some p) :
    p.gtp = ethHeaderLen + (f.byteAt ethHeaderLen &&& 0x0f).toNat * 4 + udpHeaderLen ∧
      p.inner = p.gtp + gtpuHeaderLen + gtpExtLen f p.gtp ∧
      f.byteAt (p.gtp + 1) = gtpuGPDU := by
  simp only [parseGPdu, Option.bind_eq_bind, Option.bind_none] at h
  obtain ⟨ethType, -, h⟩ := Option.bind_eq_some_iff.mp h
  split at h
  · cases h
  obtain ⟨⟨protocol, l4⟩, hip, h⟩ := Option.bind_eq_some_iff.mp h
  split at h
  · cases h
  split at h
  · cases h
  obtain ⟨⟨port, gtp⟩, hudp, h⟩ := Option.bind_eq_some_iff.mp h
  split at h
  · cases h
  obtain ⟨⟨type, inner⟩, hgtp, h⟩ := Option.bind_eq_some_iff.mp h
  split at h
  · cases h
  cases h
  simp only [parseIp4] at hip
  split at hip
  · cases hip
  cases hip
  simp only [parseUdp] at hudp
  split at hudp
  · cases hudp
  cases hudp
  simp only [parseGtp] at hgtp
  simp_all

structure OffsetsAgree (f : Bytes) (p : GPdu) (b : Bytes) (pkt : GtpuPacket) : Prop where
  read : p.inner = p.gtp + payloadStart b pkt
  strip : stripOffset f p.gtp = p.gtp + payloadStart b pkt

theorem offsets_agree_iff {x : XdpMaps} {f b : Bytes} {p : GPdu} {pkt : GtpuPacket}
    (hp : parseGPdu x f = some p) (hb : b <+: f.drop p.gtp) (hpkt : parseGTPU b = some pkt) :
    pkt.messageType = gtpuMsgTPDU ∧
      (OffsetsAgree f p b pkt ↔ f.byteAt ethHeaderLen &&& 0x0f = 5 ∧
        (b.byteAt 0 &&& 0x07 = 0 ∨ b.byteAt 11 = 0)) := by
  obtain ⟨hgtp, hinner, htype⟩ := parseGPdu_spec hp
  obtain ⟨hlen, hmessage, hstart⟩ := parseGTPU_start hpkt
  have hflags : gtpExtLen b 0 = gtpExtLen f p.gtp := by
    rw [gtpExtLen, gtpExtLen, Bytes.byteAt_front hb (by omega), Nat.add_zero]
  refine ⟨?_, ?_⟩
  · rw [hmessage, Bytes.byteAt_front hb (by omega), htype]
    rfl
  have hihl : f.byteAt ethHeaderLen &&& 0x0f = 5 ↔ (f.byteAt ethHeaderLen &&& 0x0f).toNat = 5 :=
    UInt8.toNat_inj.symm
  rw [← hstart, hflags, hihl]
  simp only [gtpuHeaderLen] at hinner
  simp only [udpHeaderLen] at hgtp
  constructor
  · intro h
    have hread := h.read
    have hstrip := h.strip
    simp only [stripOffset, ip4HeaderLen, udpHeaderLen, gtpuHeaderLen] at hstrip
    exact ⟨by omega, by omega⟩
  · rintro ⟨hfive, hstart⟩
    refine ⟨by omega, ?_⟩
    simp only [stripOffset, ip4HeaderLen, udpHeaderLen, gtpuHeaderLen]
    omega

theorem removeGtpHeader_spec {gtp : Nat} (h : removeGtpHeader f gtp = some frame) :
    stripOffset f gtp < f.length ∧ frame.drop ethHeaderLen = f.drop (stripOffset f gtp) := by
  simp only [removeGtpHeader] at h
  split at h
  · cases h
  rename_i hlen
  obtain ⟨proto, hproto, rfl⟩ := Option.map_eq_some_iff.mp h
  have htwo : proto.length = 2 := by
    simp only [guessEthProtocol] at hproto
    grind
  simp only [ethHeaderLen] at hlen
  simp only [stripOffset, ethHeaderLen]
  refine ⟨by omega, ?_⟩
  have htwelve : (f.take 12).length = 12 := by rw [List.length_take]; omega
  rw [List.drop_left' (by rw [List.length_append, htwelve, htwo]), Nat.add_comm]

theorem gtpuDecapFunc_decap (h : gtpuDecapFunc x f = .decap frame) :
    ∃ p entry, parseGPdu x f = some p ∧ x.teidMap.lookup (p.teid f) = some entry ∧
      peerMismatch x f entry = false ∧ p.inner + ip4HeaderLen ≤ f.length ∧
      f.uint32At (p.inner + 16) = entry.paa ∧ removeGtpHeader f p.gtp = some frame := by
  simp only [gtpuDecapFunc] at h
  split at h
  · cases h
  split at h
  · cases h
  split at h
  · cases h
  split at h
  · cases h
  split at h
  · cases h
  split at h
  · cases h
  simp_all

def StripsChecked (x : XdpMaps) (f frame : Bytes) : Prop :=
  ∃ p entry, parseGPdu x f = some p ∧ x.teidMap.lookup (p.teid f) = some entry ∧
    p.inner + ip4HeaderLen ≤ f.length ∧ f.uint32At (p.inner + 16) = entry.paa ∧
    frame.drop ethHeaderLen = f.drop p.inner ∧
    (x.validatePeer = true → entry.pgwAddr ≠ 0 →
      f.uint32At (ethHeaderLen + 12) = entry.pgwAddr)

theorem peer_of_not_mismatch {entry : TeidEntry} (h : peerMismatch x f entry = false)
    (hvalidate : x.validatePeer = true) (hne : entry.pgwAddr ≠ 0)
    : f.uint32At (ethHeaderLen + 12) = entry.pgwAddr := by
  simpa [peerMismatch, hvalidate, hne] using h

theorem strips_checked_iff {x : XdpMaps} {f frame : Bytes} (h : gtpuDecapFunc x f = .decap frame) :
    StripsChecked x f frame ↔ f.byteAt ethHeaderLen &&& 0x0f = 5 := by
  obtain ⟨p, entry, hp, hentry, hpeer, hlen, hpaa, hframe⟩ := gtpuDecapFunc_decap h
  obtain ⟨hgtp, hinner, -⟩ := parseGPdu_spec hp
  obtain ⟨hstrip, hrest⟩ := removeGtpHeader_spec hframe
  have hoffsets : stripOffset f p.gtp = p.inner ↔ f.byteAt ethHeaderLen &&& 0x0f = 5 := by
    rw [← UInt8.toNat_inj, hinner, hgtp]
    simp only [stripOffset, ip4HeaderLen, udpHeaderLen, gtpuHeaderLen,
      show (5 : UInt8).toNat = 5 from rfl]
    omega
  rw [← hoffsets]
  constructor
  · rintro ⟨p', entry', hp', -, hlen', -, hdrop, -⟩
    cases hp.symm.trans hp'
    have hlengths := congrArg List.length (hrest.symm.trans hdrop)
    rw [List.length_drop, List.length_drop] at hlengths
    omega
  · intro heq
    refine ⟨p, entry, hp, hentry, hlen, hpaa, ?_, peer_of_not_mismatch hpeer⟩
    rw [hrest, heq]

section Frames

def pgwFrame (options gtp : Bytes) : Bytes :=
  List.replicate 12 0 ++ [0x08, 0x00] ++
  [0x45 + (options.length / 4).toUInt8, 0, 0, 0, 0, 0, 0, 0, 64, 17, 0, 0,
    192, 0, 2, 2, 192, 0, 2, 1] ++ options ++
  [0x08, 0x68, 0x08, 0x68, 0, 0, 0, 0] ++ gtp

def innerPacket : Bytes := [0x45, 0, 0, 20, 0, 0, 0, 0, 64, 1, 0, 0, 192, 0, 2, 9, 10, 0, 0, 1]

def plainGPdu (teid : UInt32) : Bytes :=
  [0x30, 0xff, 0, 20] ++ Bytes.putUint32 teid ++ innerPacket

def extendedGPdu (teid : UInt32) : Bytes :=
  [0x34, 0xff, 0, 28] ++ Bytes.putUint32 teid ++ [0, 0, 0, 0x85] ++ [1, 0x10, 9, 0] ++ innerPacket

def oneTEID (teid : UInt32) : XdpMaps :=
  xdpMaps (AList.insert teid ⟨0x0a000001, 0xc0000202⟩ ∅)

example : parseGPdu (oneTEID 0x2001) (pgwFrame [] (plainGPdu 0x2001)) = some ⟨42, 50⟩ := by
  decide +kernel

theorem plain_offsets_agree :
    ∃ p pkt, parseGPdu (oneTEID 0x2001) (pgwFrame [] (plainGPdu 0x2001)) = some p ∧
      parseGTPU (plainGPdu 0x2001) = some pkt ∧
      OffsetsAgree (pgwFrame [] (plainGPdu 0x2001)) p (plainGPdu 0x2001) pkt := by
  have hp : parseGPdu (oneTEID 0x2001) (pgwFrame [] (plainGPdu 0x2001)) = some ⟨42, 50⟩ := by
    decide +kernel
  have hpkt : parseGTPU (plainGPdu 0x2001) = some ⟨0xff, 0x2001, 0, innerPacket⟩ := by
    decide +kernel
  have hb : plainGPdu 0x2001 <+: (pgwFrame [] (plainGPdu 0x2001)).drop 42 := by decide +kernel
  exact ⟨_, _, hp, hpkt, (offsets_agree_iff hp hb hpkt).2.mpr (by decide +kernel)⟩

/-- The extension header is not skipped: the program reads and strips four bytes too early. -/
theorem extension_not_skipped :
    ∃ p pkt, parseGPdu (oneTEID 0x2001) (pgwFrame [] (extendedGPdu 0x2001)) = some p ∧
      parseGTPU (extendedGPdu 0x2001) = some pkt ∧ pkt.payload = innerPacket ∧
      p.gtp + payloadStart (extendedGPdu 0x2001) pkt = p.inner + 4 ∧
      stripOffset (pgwFrame [] (extendedGPdu 0x2001)) p.gtp = p.inner ∧
      ¬OffsetsAgree (pgwFrame [] (extendedGPdu 0x2001)) p (extendedGPdu 0x2001) pkt := by
  have hrun : parseGPdu (oneTEID 0x2001) (pgwFrame [] (extendedGPdu 0x2001)) = some ⟨42, 54⟩ ∧
      parseGTPU (extendedGPdu 0x2001) = some ⟨0xff, 0x2001, 0, innerPacket⟩ ∧
      42 + payloadStart (extendedGPdu 0x2001) ⟨0xff, 0x2001, 0, innerPacket⟩ = 54 + 4 ∧
      stripOffset (pgwFrame [] (extendedGPdu 0x2001)) 42 = 54 := by
    decide +kernel
  obtain ⟨hp, hpkt, hstart, hstrip⟩ := hrun
  refine ⟨_, _, hp, hpkt, rfl, hstart, hstrip, fun h => ?_⟩
  have hread := h.read
  simp only at hread
  omega

example : parseGPdu (oneTEID 0x2001) (pgwFrame [] (extendedGPdu 0x2001)) = some ⟨42, 54⟩ := by
  decide +kernel

/-- Without options the inner packet is handed over. -/
theorem plain_strips_checked :
    ∃ frame, gtpuDecapFunc (oneTEID 0x2001) (pgwFrame [] (plainGPdu 0x2001)) = .decap frame ∧
      StripsChecked (oneTEID 0x2001) (pgwFrame [] (plainGPdu 0x2001)) frame := by
  have h : gtpuDecapFunc (oneTEID 0x2001) (pgwFrame [] (plainGPdu 0x2001)) =
      .decap (List.replicate 12 0 ++ [0x08, 0x00] ++ innerPacket) := by
    decide +kernel
  exact ⟨_, h, (strips_checked_iff h).mpr (by decide +kernel)⟩

/-- With four bytes of options the frame goes on with the TEID, in front of the inner packet. -/
theorem options_misplace_inner :
    ∃ frame, gtpuDecapFunc (oneTEID 0x45000001) (pgwFrame [1, 1, 1, 1] (plainGPdu 0x45000001)) =
        .decap frame ∧
      frame.drop ethHeaderLen = Bytes.putUint32 0x45000001 ++ innerPacket ∧
      ¬StripsChecked (oneTEID 0x45000001) (pgwFrame [1, 1, 1, 1] (plainGPdu 0x45000001))
        frame := by
  have h : gtpuDecapFunc (oneTEID 0x45000001) (pgwFrame [1, 1, 1, 1] (plainGPdu 0x45000001)) =
      .decap (List.replicate 12 0 ++ [0x08, 0x00] ++ Bytes.putUint32 0x45000001 ++
        innerPacket) := by
    decide +kernel
  refine ⟨_, h, by decide +kernel, ?_⟩
  rintro ⟨p, entry, hp, -, -, -, hdrop, -⟩
  have hp' : parseGPdu (oneTEID 0x45000001) (pgwFrame [1, 1, 1, 1] (plainGPdu 0x45000001)) =
      some ⟨46, 54⟩ := by
    decide +kernel
  cases hp'.symm.trans hp
  revert hdrop
  decide +kernel

end Frames
end Epdg.Gtpu
