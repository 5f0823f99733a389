import Epdg.Gtpu.Downlink
import Epdg.Gtpu.XdpDecap
import Epdg.Properties.BearerTables

/-!
For which TEIDs Error Indications are sent.

The socket answers every G-PDU that reaches it with an Error Indication and does not look its TEID
up: it takes the XDP program to let only unknown TEIDs pass. But the program also passes G-PDUs of
known TEIDs, with an inner packet shorter than an IPv4 header or of no known version, and it knows
only what is in `teid_map`.
-/
namespace Epdg.Gtpu
variable {t : UInt32} {ip : IP} {datagram : Bytes}

def receive (deliver : Bytes → Option Bytes) (x : XdpMaps) (allow : Bool) (localGTPU : Option IP)
    (f : Bytes) : Option Bytes :=
  match gtpuDecapFunc x f with
  | .pass => (deliver f).bind (handleDownlink allow localGTPU)
  | _ => none

def strippable (f : Bytes) (gtp : Nat) : Bool :=
  let encap := ip4HeaderLen + udpHeaderLen + gtpuHeaderLen + gtpExtLen f gtp
  encap + ethHeaderLen < f.length &&
    (f.byteAt (encap + ethHeaderLen) >>> 4 = 4 || f.byteAt (encap + ethHeaderLen) >>> 4 = 6)

def takenByXdp (x : XdpMaps) (f : Bytes) : Bool :=
  (parseGPdu x f).any fun p => (x.teidMap.lookup (p.teid f)).any fun entry =>
    peerMismatch x f entry || (p.inner + ip4HeaderLen ≤ f.length &&
      (f.uint32At (p.inner + 16) ≠ entry.paa || strippable f p.gtp))

theorem removeGtpHeader_isSome (f : Bytes) (gtp : Nat) :
    (removeGtpHeader f gtp).isSome = strippable f gtp := by
  simp only [removeGtpHeader, strippable]
  split
  · grind
  rw [decide_eq_true (by omega), Option.isSome_map, Bool.true_and]
  simp only [guessEthProtocol]
  split <;> simp_all

theorem gtpuDecapFunc_pass_iff (x : XdpMaps) (f : Bytes) :
    gtpuDecapFunc x f = .pass ↔ takenByXdp x f = false := by
  simp only [gtpuDecapFunc, takenByXdp]
  cases parseGPdu x f with
  | none => exact iff_of_true rfl rfl
  | some p =>
    simp only [Option.any_some]
    cases x.teidMap.lookup (p.teid f) with
    | none => exact iff_of_true rfl rfl
    | some entry =>
      simp only [Option.any_some]
      cases peerMismatch x f entry with
      | true => exact iff_of_false (fun h => nomatch h) fun h => nomatch h
      | false =>
        by_cases hlen : f.length < p.inner + ip4HeaderLen
        · grind
        rw [decide_eq_true (Nat.not_lt.mp hlen), ← removeGtpHeader_isSome]
        grind

theorem errorIndication_spec (h : errorIndication t ip = some datagram) :
    datagram.byteAt 1 = gtpuMsgErrorIndication ∧ datagram.uint32At 13 = t := by
  simp only [errorIndication, encodePathMessage] at h
  split at h
  · cases h
  cases h
  refine ⟨rfl, ?_⟩
  exact Bytes.be32_putUint32 t ([ieTypeGTPUPeerAddr, 0, 4] ++ ip.bytes)

theorem errorIndication_v4 (t a : UInt32) : (errorIndication t (.v4 a)).isSome := by
  simp [errorIndication, encodePathMessage, IP.bytes, Bytes.putUint32]

theorem handleDownlink_names {allow : Bool} {localGTPU : Option IP} {pkt : Bytes}
    (hsent : handleDownlink allow localGTPU pkt = some datagram)
    (hnames : errorIndication t ip = some datagram) :
    ∃ parsed, parseGTPU pkt = some parsed ∧ parsed.messageType = gtpuMsgTPDU ∧
      parsed.teid = t ∧ t ≠ 0 ∧ allow = true ∧ (localGTPU.bind IP.to4).isSome := by
  obtain ⟨htype, hteid⟩ := errorIndication_spec hnames
  simp only [handleDownlink] at hsent
  split at hsent
  · cases hsent
  split at hsent
  · -- an Echo Response has another type
    simp only [respondEcho, encodePathMessage] at hsent
    split at hsent
    · cases hsent
    · cases hsent
      exact absurd (show gtpuMsgEchoResp = gtpuMsgErrorIndication from htype) (by decide)
  split at hsent
  · cases hsent
  split at hsent
  · simp only [sendErrorIndication] at hsent
    split at hsent
    · cases hsent
    split at hsent
    · cases hsent
    obtain ⟨localIP, hlocal, hmsg⟩ := Option.bind_eq_some_iff.mp hsent
    have hsame := (errorIndication_spec hmsg).2.symm.trans hteid
    simp_all
  · cases hsent

def OnlyForUnknown (m : Manager) (sent : Option Bytes) : Prop :=
  ∀ t ip datagram, errorIndication t ip = some datagram → sent = some datagram →
    t ≠ 0 ∧ ∀ ref b, m.bearerOf ref = some b → b.localRXTEID ≠ t

def CarriesInstalled (deliver : Bytes → Option Bytes) (m : Manager) (f : Bytes) : Prop :=
  ∃ pkt ref b, (deliver f).bind parseGTPU = some pkt ∧ pkt.messageType = gtpuMsgTPDU ∧
    pkt.teid ≠ 0 ∧ m.bearerOf ref = some b ∧ b.localRXTEID = pkt.teid

theorem only_for_unknown_iff (deliver : Bytes → Option Bytes) (x : XdpMaps) (m : Manager)
    (allow : Bool) (localGTPU : Option IP) (f : Bytes) :
    OnlyForUnknown m (receive deliver x allow localGTPU f) ↔
      (allow = true → (localGTPU.bind IP.to4).isSome = true → CarriesInstalled deliver m f →
        takenByXdp x f = true) := by
  constructor
  · rintro honly hallow hlocal ⟨pkt, ref, b, hpkt, htpdu, hne, hb, hteid⟩
    by_contra htaken
    rw [Bool.not_eq_true] at htaken
    obtain ⟨localIP, hlocal⟩ := Option.isSome_iff_exists.mp hlocal
    obtain ⟨payload, hpayload, hparsed⟩ := Option.bind_eq_some_iff.mp hpkt
    obtain ⟨a, rfl⟩ : ∃ a, localIP = .v4 a := by
      obtain ⟨ip, -, hip⟩ := Option.bind_eq_some_iff.mp hlocal
      cases ip with
      | v4 a => exact ⟨a, (Option.some.inj hip).symm⟩
      | v6 hi lo => cases hip
    obtain ⟨datagram, hdatagram⟩ := Option.isSome_iff_exists.mp (errorIndication_v4 pkt.teid a)
    have hsent : receive deliver x allow localGTPU f = some datagram := by
      simp only [receive, (gtpuDecapFunc_pass_iff x f).mpr htaken, hpayload, Option.bind_some,
        handleDownlink, hparsed, htpdu, sendErrorIndication, if_neg hne, hallow, hlocal,
        hdatagram]
      rfl
    exact (honly pkt.teid (.v4 a) datagram hdatagram hsent).2 ref b hb hteid
  · intro hcond t ip datagram hnames hsent
    simp only [receive] at hsent
    split at hsent
    · rename_i hpass
      obtain ⟨payload, hpayload, hhandled⟩ := Option.bind_eq_some_iff.mp hsent
      obtain ⟨parsed, hparsed, htpdu, rfl, hne, hallow, hlocal⟩ :=
        handleDownlink_names hhandled hnames
      refine ⟨hne, fun ref b hb hteid => ?_⟩
      have htaken := hcond hallow hlocal
        ⟨parsed, ref, b, by rw [hpayload]; exact hparsed, htpdu, hne, hb, hteid⟩
      rw [(gtpuDecapFunc_pass_iff x f).mp hpass] at htaken
      cases htaken
    · cases hsent

section Frames

def shortGPdu (teid : UInt32) : Bytes :=
  List.replicate 12 0 ++ [0x08, 0x00] ++
  [0x45, 0, 0, 40, 0, 0, 0, 0, 64, 17, 0, 0, 192, 0, 2, 2, 192, 0, 2, 1] ++
  [0x08, 0x68, 0x08, 0x68, 0, 20, 0, 0] ++
  [0x30, 0xff, 0, 4] ++ Bytes.putUint32 teid ++ [0x45, 0, 0, 4]

def udpPayload (f : Bytes) : Option Bytes := some (f.drop 42)

def xdpMaps (teids : Table UInt32 TeidEntry) : XdpMaps := ⟨0xc0000201, true, teids⟩

/-- The bearer is installed. Its TEID gets an Error Indication when the inner packet is short,
and when the TEID did not get into `teid_map`. -/
theorem indicated_though_installed :
    ¬OnlyForUnknown (Manager.call {} (attach 1 0x0a000001 0x2001 0x6001))
        (receive udpPayload (xdpMaps (AList.insert 0x2001 ⟨0x0a000001, 0xc0000202⟩ ∅)) true
          (some (.v4 0xc0000201)) (shortGPdu 0x2001)) ∧
      ¬OnlyForUnknown (Manager.call {} (attach 1 0x0a000001 0x2001 0x6001))
        (receive udpPayload (xdpMaps ∅) true (some (.v4 0xc0000201)) (shortGPdu 0x2001)) := by
  have hrun : ((Manager.call {} (attach 1 0x0a000001 0x2001 0x6001)).bearerOf
        ⟨⟨1, 0⟩, 5⟩).map Bearer.localRXTEID = some 0x2001 ∧
      (errorIndication 0x2001 (.v4 0xc0000201)).isSome = true ∧
      receive udpPayload (xdpMaps (AList.insert 0x2001 ⟨0x0a000001, 0xc0000202⟩ ∅)) true
        (some (.v4 0xc0000201)) (shortGPdu 0x2001) =
        errorIndication 0x2001 (.v4 0xc0000201) ∧
      receive udpPayload (xdpMaps ∅) true (some (.v4 0xc0000201)) (shortGPdu 0x2001) =
        errorIndication 0x2001 (.v4 0xc0000201) := by
    decide +kernel
  obtain ⟨hbearer, hsome, hshort, hmissing⟩ := hrun
  obtain ⟨b, hb, hteid⟩ := Option.map_eq_some_iff.mp hbearer
  obtain ⟨datagram, hdatagram⟩ := Option.isSome_iff_exists.mp hsome
  constructor
  · intro h
    exact (h _ _ datagram hdatagram (hshort.trans hdatagram)).2 _ b hb hteid
  · intro h
    exact (h _ _ datagram hdatagram (hmissing.trans hdatagram)).2 _ b hb hteid

end Frames
end Epdg.Gtpu
